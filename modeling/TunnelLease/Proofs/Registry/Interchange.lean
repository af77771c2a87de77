import TunnelLease.Proofs.Pool.Interchange
import TunnelLease.Proofs.Registry.Run

/-!
# Registries over interchangeable pools

Two registries with the same positions and peers whose pools are interchangeable, place by
place, cannot be told apart: every run of actions has the same history on both, and leaves
the same peers and interchangeable pools.
-/

namespace TunnelLease

namespace Registry

variable {count : Nat}

/-- The pools at each place are interchangeable. -/
def PoolsInterchangeable (first second : Vector Pool count) : Prop :=
  ∀ index : Fin count, Pool.Interchangeable (first.get index) (second.get index)

theorem PoolsInterchangeable.set {first second : Vector Pool count}
    (alike : PoolsInterchangeable first second) (position : Fin count) {one other : Pool}
    (changed : Pool.Interchangeable one other) :
    PoolsInterchangeable (first.set position one position.isLt)
      (second.set position other position.isLt) := by
  intro index
  rw [get_set, get_set]
  split
  · exact changed
  · exact alike index

/-- Leasing at each position takes the same addresses or is refused for the same cause. -/
theorem leaseEach_interchangeable {first second : Vector Pool count}
    (alike : PoolsInterchangeable first second) (positions : List (Fin count)) :
    (leaseEach first positions).taken = (leaseEach second positions).taken ∧
      (leaseEach first positions).refusal = (leaseEach second positions).refusal ∧
      PoolsInterchangeable (leaseEach first positions).pools
        (leaseEach second positions).pools := by
  induction positions generalizing first second with
  | nil => exact ⟨rfl, rfl, alike⟩
  | cons position positions ih =>
      obtain ⟨sameAnswer, state⟩ := (alike position).lease
      have changed := alike.set position state
      cases answer : (first.get position).lease.answer with
      | error cause =>
          rw [leaseEach_of_error positions answer,
            leaseEach_of_error positions (sameAnswer.symm.trans answer)]
          exact ⟨rfl, rfl, changed⟩
      | ok address =>
          rw [leaseEach_of_ok positions answer,
            leaseEach_of_ok positions (sameAnswer.symm.trans answer)]
          obtain ⟨taken, refusal, pools⟩ := ih changed
          exact ⟨congrArg (List.cons address) taken, refusal, pools⟩

theorem putBackEach_interchangeable {first second : Vector Pool count}
    (alike : PoolsInterchangeable first second) (key : PeerKey) (start : Nat)
    (holdings : List (Fin count × Address)) :
    (putBackEach key start first holdings).answer =
        (putBackEach key start second holdings).answer ∧
      PoolsInterchangeable (putBackEach key start first holdings).state
        (putBackEach key start second holdings).state := by
  induction holdings generalizing first second start with
  | nil => exact ⟨rfl, alike⟩
  | cons holding holdings ih =>
      obtain ⟨position, address⟩ := holding
      obtain ⟨sameAnswer, state⟩ := (alike position).putBack address
      cases answer : ((first.get position).putBack address).answer with
      | error cause =>
          rw [putBackEach_of_error key start holdings answer,
            putBackEach_of_error key start holdings (sameAnswer.symm.trans answer)]
          exact ⟨rfl, alike⟩
      | ok done =>
          rw [putBackEach_of_ok key start holdings answer,
            putBackEach_of_ok key start holdings (sameAnswer.symm.trans answer)]
          exact ih (alike.set position state) (start + 1)

/-- The registries have the same positions and peers and interchangeable pools. -/
structure Interchangeable (first second : Registry count) : Prop where
  pools : PoolsInterchangeable first.pools second.pools
  positions : first.positions = second.positions
  peers : first.peers = second.peers

namespace Interchangeable

variable {first second : Registry count}

theorem lookup (alike : Interchangeable first second) (key : PeerKey) :
    first.lookup key = second.lookup key := by
  rw [Registry.lookup, Registry.lookup, alike.peers]

theorem acquire (alike : Interchangeable first second) (key : PeerKey) :
    (first.acquire key).answer = (second.acquire key).answer ∧
      Interchangeable (first.acquire key).state (second.acquire key).state := by
  obtain ⟨taken, refusal, leased⟩ := leaseEach_interchangeable alike.pools first.positions
  obtain ⟨undone, restored⟩ := putBackEach_interchangeable leased key 0
    (first.positions.zip (leaseEach first.pools first.positions).taken)
  have sameHas : second.has key = first.has key := by
    rw [Registry.has, Registry.has, alike.lookup]
  simp only [Registry.acquire, sameHas, ← alike.positions, ← alike.peers, ← taken, ← refusal,
    ← undone]
  split
  · exact ⟨rfl, alike⟩
  · split
    · exact ⟨rfl, alike⟩
    · split
      · exact ⟨rfl, leased, rfl, rfl⟩
      · exact ⟨rfl, restored, rfl, rfl⟩

theorem release (alike : Interchangeable first second) (key : PeerKey) :
    (first.release key).answer = (second.release key).answer ∧
      Interchangeable (first.release key).state (second.release key).state := by
  unfold Registry.release
  rw [← alike.lookup, ← alike.positions, ← alike.peers]
  split
  · exact ⟨rfl, alike⟩
  next peer _ =>
    obtain ⟨undone, restored⟩ := putBackEach_interchangeable alike.pools key 0
      (first.positions.zip peer.addresses)
    simp only [← undone]
    split
    · exact ⟨rfl, restored, rfl, rfl⟩
    · exact ⟨rfl, restored, rfl, rfl⟩

theorem act (alike : Interchangeable first second) (action : Action count) :
    (first.act action).1 = (second.act action).1 ∧
      Interchangeable (first.act action).2 (second.act action).2 := by
  cases action with
  | acquire key =>
      obtain ⟨answer, state⟩ := alike.acquire key
      exact ⟨congrArg Outcome.acquired answer, state⟩
  | release key =>
      obtain ⟨answer, state⟩ := alike.release key
      exact ⟨congrArg Outcome.released answer, state⟩
  | lookup key => exact ⟨congrArg Outcome.found (alike.lookup key), alike⟩
  | forEach visitor =>
      refine ⟨?_, alike⟩
      simp only [Registry.act, forEach, alike.peers]
  | onPool pool call =>
      obtain ⟨answer, state⟩ := (alike.pools pool).call call
      refine ⟨?_, alike.pools.set pool state, alike.positions, alike.peers⟩
      change Outcome.called (((first.pools.get pool).call call).answer.mapError .refused) =
        Outcome.called (((second.pools.get pool).call call).answer.mapError .refused)
      rw [answer]

theorem after (alike : Interchangeable first second) (actions : List (Action count)) :
    Interchangeable (first.after actions) (second.after actions) := by
  induction actions generalizing first second with
  | nil => exact alike
  | cons action actions ih => exact ih (alike.act action).2

/-- A run has the same history on both. -/
theorem history (alike : Interchangeable first second) (actions : List (Action count)) :
    first.history actions = second.history actions := by
  induction actions generalizing first second with
  | nil => rfl
  | cons action actions ih =>
      obtain ⟨outcome, state⟩ := alike.act action
      exact congrArg₂ (fun outcome later => (action, outcome) :: later) outcome (ih state)

end Interchangeable

end Registry

end TunnelLease

import TunnelLease.Registry.Basic
import TunnelLease.Proofs.Pool.Invariant

/-!
# Runs of a registry

A run is a sequence of actions, each of them a call of the registry or a call of one
of its pools behind the registry's back.  Its history keeps the actions with their
outcomes, in order.  In every state of a run every pool satisfies its invariant, for
whatever the registry does to a pool is to lease from it and to put back.
-/

namespace TunnelLease

/-- Some entry of a history opens what no later entry closes. -/
def StillOpen {α : Type} (opens closes : α → Prop) (history : List α) : Prop :=
  ∃ earlier entry later, history = earlier ++ entry :: later ∧ opens entry ∧
    ∀ other ∈ later, ¬ closes other

theorem not_stillOpen_nil {α : Type} (opens closes : α → Prop) : ¬ StillOpen opens closes [] := by
  rintro ⟨earlier, entry, later, split, _⟩
  simp at split

/-- The last entry opens, or it does not close what was open before. -/
theorem stillOpen_concat {α : Type} (opens closes : α → Prop) (history : List α) (last : α) :
    StillOpen opens closes (history ++ [last]) ↔
      opens last ∨ (¬ closes last ∧ StillOpen opens closes history) := by
  constructor
  · rintro ⟨earlier, entry, later, split, opened, unclosed⟩
    rcases List.eq_nil_or_concat later with rfl | ⟨middle, final, rfl⟩
    · obtain ⟨_, same⟩ := List.append_inj' split rfl
      rw [List.cons.inj same |>.1]
      exact Or.inl opened
    · rw [List.concat_eq_append, ← List.cons_append, ← List.append_assoc] at split
      obtain ⟨before, same⟩ := List.append_inj' split rfl
      rw [List.concat_eq_append] at unclosed
      rw [List.cons.inj same |>.1]
      refine Or.inr ⟨unclosed final (by simp), earlier, entry, middle, before, opened, ?_⟩
      intro other inMiddle
      exact unclosed other (List.mem_append_left _ inMiddle)
  · rintro (opened | ⟨unclosing, earlier, entry, later, rfl, opened, unclosed⟩)
    · refine ⟨history, last, [], rfl, opened, ?_⟩
      intro other none
      cases none
    · refine ⟨earlier, entry, later ++ [last], by simp, opened, ?_⟩
      intro other member
      rcases List.mem_append.mp member with inLater | isLast
      · exact unclosed other inLater
      · rw [List.mem_singleton.mp isLast]
        exact unclosing

namespace Registry

variable {count : Nat}

/-- What can be done with a registry and its pools. -/
inductive Action (count : Nat) where
  | acquire (key : PeerKey)
  | release (key : PeerKey)
  | lookup (key : PeerKey)
  /-- The visitor decides by the peers that it has been shown before. -/
  | forEach (visitor : List Peer → Peer → Verdict)
  | onPool (pool : Fin count) (call : Pool.Call)

/-- What comes of an action. -/
inductive Outcome where
  | acquired (answer : Except Failure (List Address))
  | released (answer : Except Violation Unit)
  | found (peer : Option Peer)
  | visited (seen : List Peer) (reason : Option String)
  | called (answer : Except Failure Pool.Answer)

def act (registry : Registry count) : Action count → Outcome × Registry count
  | .acquire key =>
      let reply := registry.acquire key
      (.acquired reply.answer, reply.state)
  | .release key =>
      let reply := registry.release key
      (.released reply.answer, reply.state)
  | .lookup key => (.found (registry.lookup key), registry)
  | .forEach visitor =>
      let shown := registry.forEach (fun seen peer => (seen ++ [peer], visitor seen peer)) []
      (.visited shown.1 shown.2, registry)
  | .onPool pool call =>
      let reply := registry.onPool pool fun pool => pool.call call
      (.called reply.answer, reply.state)

def after (registry : Registry count) : List (Action count) → Registry count
  | [] => registry
  | action :: actions => after (registry.act action).2 actions

theorem after_append (registry : Registry count) (first second : List (Action count)) :
    registry.after (first ++ second) = (registry.after first).after second := by
  induction first generalizing registry with
  | nil => rfl
  | cons action first ih => exact ih _

/-- The actions of a run with their outcomes. -/
def history (registry : Registry count) : List (Action count) → List (Action count × Outcome)
  | [] => []
  | action :: actions =>
      (action, (registry.act action).1) :: history (registry.act action).2 actions

theorem history_append (registry : Registry count) (first second : List (Action count)) :
    registry.history (first ++ second) =
      registry.history first ++ (registry.after first).history second := by
  induction first generalizing registry with
  | nil => rfl
  | cons action first ih => exact congrArg (List.cons _) (ih _)

/-- A history has an entry for each action of the run, with what came of it. -/
theorem mem_history {registry : Registry count} {actions : List (Action count)}
    {entry : Action count × Outcome} : entry ∈ registry.history actions ↔
      ∃ earlier action later, actions = earlier ++ action :: later ∧
        entry = (action, ((registry.after earlier).act action).1) := by
  constructor
  · intro member
    induction actions generalizing registry with
    | nil => cases member
    | cons action actions ih =>
        rcases List.mem_cons.mp member with isFirst | isLater
        · exact ⟨[], action, actions, rfl, isFirst⟩
        · obtain ⟨earlier, other, later, split, isEntry⟩ := ih isLater
          exact ⟨action :: earlier, other, later, congrArg _ split, isEntry⟩
  · rintro ⟨earlier, action, later, rfl, rfl⟩
    rw [history_append]
    exact List.mem_append_right _ List.mem_cons_self

/-- A registry without peers over new pools. -/
def overNew (blocks : Vector Block count) (positions : List (Fin count)) : Registry count where
  pools := blocks.map Pool.ofBlock
  positions := positions
  peers := []

/-- New pools make a registry as soon as there is a position. -/
theorem open?_overNew (blocks : Vector Block count) {positions : List (Fin count)}
    (some : positions ≠ []) :
    open? (blocks.map Pool.ofBlock) positions = .ok (overNew blocks positions) := by
  simp [open?, overNew, some]

theorem get_set (pools : Vector Pool count) (changed : Pool) (position other : Fin count) :
    (pools.set position changed position.isLt).get other =
      if position = other then changed else pools.get other := by
  change (pools.set position changed)[other] = if position = other then changed else pools[other]
  simp [Vector.getElem_set, Fin.ext_iff]

section Positions

variable {pools : Vector Pool count} {position : Fin count}

theorem leaseEach_of_error {cause : Error} (positions : List (Fin count))
    (answer : (pools.get position).lease.answer = .error cause) :
    leaseEach pools (position :: positions) =
      ⟨pools.set position (pools.get position).lease.state position.isLt, [], some cause,
        (pools.get position).lease.log⟩ := by
  change pools[position].lease.answer = .error cause at answer
  simp only [leaseEach, answer]
  rfl

theorem leaseEach_of_ok {address : Address} (positions : List (Fin count))
    (answer : (pools.get position).lease.answer = .ok address) :
    leaseEach pools (position :: positions) =
      let later := leaseEach
        (pools.set position (pools.get position).lease.state position.isLt) positions
      ⟨later.pools, address :: later.taken, later.refusal,
        (pools.get position).lease.log ++ later.log⟩ := by
  change pools[position].lease.answer = .ok address at answer
  simp only [leaseEach, answer]
  rfl

theorem putBackEach_of_error {cause : Error} {address : Address} (key : PeerKey) (index : Nat)
    (holdings : List (Fin count × Address))
    (answer : ((pools.get position).putBack address).answer = .error cause) :
    putBackEach key index pools ((position, address) :: holdings) =
      ⟨.error ⟨key, index, address, cause⟩, pools,
        ((pools.get position).putBack address).log ++
          [.violated ⟨key, index, address, cause⟩]⟩ := by
  change (pools[position].putBack address).answer = .error cause at answer
  simp only [putBackEach, answer]
  rfl

theorem putBackEach_of_ok {address : Address} (key : PeerKey) (index : Nat)
    (holdings : List (Fin count × Address))
    (answer : ((pools.get position).putBack address).answer = .ok ()) :
    putBackEach key index pools ((position, address) :: holdings) =
      let later := putBackEach key (index + 1)
        (pools.set position ((pools.get position).putBack address).state position.isLt) holdings
      ⟨later.answer, later.state, ((pools.get position).putBack address).log ++ later.log⟩ := by
  change (pools[position].putBack address).answer = .ok () at answer
  simp only [putBackEach, answer]
  rfl

end Positions

/-- Acquiring is refused for want of a key, for a key in use or for an exhausted pool,
and in the last case what was leased is put back. -/
theorem acquire_cases (registry : Registry count) (key : PeerKey) :
    let leasing := leaseEach registry.pools registry.positions
    let undone := putBackEach key 0 leasing.pools (registry.positions.zip leasing.taken)
    (key.isVoid = true ∧
        registry.acquire key = ⟨.error (.refused .voidKey), registry, []⟩) ∨
      (registry.has key = true ∧
        registry.acquire key = ⟨.error (.refused (.alreadyRegistered key)), registry, []⟩) ∨
      (key.isVoid = false ∧ registry.has key = false ∧
        ((leasing.refusal = none ∧ (registry.acquire key).answer = .ok leasing.taken ∧
            (registry.acquire key).state =
              ⟨leasing.pools, registry.positions, registry.peers ++ [⟨key, leasing.taken⟩]⟩) ∨
          ∃ cause, leasing.refusal = some cause ∧
            (registry.acquire key).state =
              ⟨undone.state, registry.positions, registry.peers⟩ ∧
            ((undone.answer = .ok () ∧
                (registry.acquire key).answer = .error (.refused cause)) ∨
              ∃ violation, undone.answer = .error violation ∧
                (registry.acquire key).answer = .error (.corrupted violation)))) := by
  intro leasing undone
  by_cases isVoid : key.isVoid = true
  · exact Or.inl ⟨isVoid, by simp [acquire, isVoid]⟩
  · right
    rw [Bool.not_eq_true] at isVoid
    by_cases registered : registry.has key = true
    · exact Or.inl ⟨registered, by simp [acquire, isVoid, registered]⟩
    · right
      rw [Bool.not_eq_true] at registered
      refine ⟨isVoid, registered, ?_⟩
      cases refusal : leasing.refusal with
      | none => exact Or.inl ⟨rfl, by simp [acquire, isVoid, registered, leasing, refusal],
          by simp [acquire, isVoid, registered, leasing, refusal]⟩
      | some cause =>
          refine Or.inr ⟨cause, rfl,
            by simp [acquire, isVoid, registered, leasing, refusal, undone], ?_⟩
          cases answer : undone.answer with
          | ok done =>
              refine Or.inl ⟨rfl, ?_⟩
              dsimp only [leasing, undone] at refusal answer
              simp [acquire, isVoid, registered, refusal, answer]
          | error violation =>
              refine Or.inr ⟨violation, rfl, ?_⟩
              dsimp only [leasing, undone] at refusal answer
              simp [acquire, isVoid, registered, refusal, answer]

/-- Releasing an unknown key changes nothing, and otherwise the addresses are put back
and the peer is forgotten if no pool refused. -/
theorem release_cases (registry : Registry count) (key : PeerKey) :
    (registry.lookup key = none ∧ registry.release key = ⟨.ok (), registry, []⟩) ∨
      ∃ peer, registry.lookup key = some peer ∧
        let undone := putBackEach key 0 registry.pools (registry.positions.zip peer.addresses)
        (undone.answer = .ok () ∧ (registry.release key).answer = .ok () ∧
            (registry.release key).state = ⟨undone.state, registry.positions,
              registry.peers.filter fun other => other.key != key⟩) ∨
          ∃ violation, undone.answer = .error violation ∧
            (registry.release key).answer = .error violation ∧
            (registry.release key).state =
              ⟨undone.state, registry.positions, registry.peers⟩ := by
  cases found : registry.lookup key with
  | none => exact Or.inl ⟨rfl, by simp [release, found]⟩
  | some peer =>
      refine Or.inr ⟨peer, rfl, ?_⟩
      intro undone
      cases answer : undone.answer with
      | ok done => exact Or.inl ⟨rfl, by simp [release, found, undone, answer],
          by simp [release, found, undone, answer]⟩
      | error violation => exact Or.inr ⟨violation, rfl, by simp [release, found, undone, answer],
          by simp [release, found, undone, answer]⟩

/-- A release that is not refused leaves the peers with other keys. -/
theorem release_peers_of_ok {registry : Registry count} {key : PeerKey}
    (released : (registry.release key).answer = .ok ()) :
    (registry.release key).state.peers = registry.peers.filter fun peer => peer.key != key := by
  rcases release_cases registry key with ⟨unknown, ignored⟩ |
    ⟨_, _, ⟨_, _, state⟩ | ⟨violation, _, refused, _⟩⟩
  · rw [ignored]
    refine (List.filter_eq_self.mpr fun peer member => ?_).symm
    simpa using List.find?_eq_none.mp unknown peer member
  · rw [state]
  · rw [released] at refused
    cases refused

section Preservation

variable {motive : Fin count → Pool → Prop}

theorem leaseEach_keeps (leased : ∀ index pool, motive index pool → motive index pool.lease.state)
    {pools : Vector Pool count} (holds : ∀ index : Fin count, motive index (pools.get index))
    (positions : List (Fin count)) (index : Fin count) :
    motive index ((leaseEach pools positions).pools.get index) := by
  induction positions generalizing pools with
  | nil => exact holds index
  | cons position positions ih =>
      have changed (index : Fin count) :
          motive index ((pools.set position (pools.get position).lease.state).get index) := by
        rw [get_set]
        split
        next same =>
          subst same
          exact leased _ _ (holds position)
        next => exact holds index
      cases answer : (pools.get position).lease.answer with
      | error cause =>
          rw [leaseEach_of_error positions answer]
          exact changed index
      | ok address =>
          rw [leaseEach_of_ok positions answer]
          exact ih changed

theorem putBackEach_keeps
    (returned : ∀ index pool address,
      motive index pool → motive index (pool.putBack address).state)
    {pools : Vector Pool count} (holds : ∀ index : Fin count, motive index (pools.get index))
    (key : PeerKey) (start : Nat) (holdings : List (Fin count × Address)) (index : Fin count) :
    motive index ((putBackEach key start pools holdings).state.get index) := by
  induction holdings generalizing pools start with
  | nil => exact holds index
  | cons holding holdings ih =>
      obtain ⟨position, address⟩ := holding
      have changed (index : Fin count) : motive index
          ((pools.set position ((pools.get position).putBack address).state).get index) := by
        rw [get_set]
        split
        next same =>
          subst same
          exact returned _ _ address (holds position)
        next => exact holds index
      cases answer : ((pools.get position).putBack address).answer with
      | error cause =>
          rw [putBackEach_of_error key start holdings answer]
          exact holds index
      | ok done =>
          rw [putBackEach_of_ok key start holdings answer]
          exact ih changed (start + 1)

theorem release_keeps
    (returned : ∀ index pool address,
      motive index pool → motive index (pool.putBack address).state)
    {registry : Registry count}
    (holds : ∀ index : Fin count, motive index (registry.pools.get index))
    (key : PeerKey) (index : Fin count) :
    motive index ((registry.release key).state.pools.get index) := by
  rcases release_cases registry key with ⟨_, ignored⟩ |
    ⟨peer, _, ⟨_, _, state⟩ | ⟨violation, _, _, state⟩⟩
  · rw [ignored]
    exact holds index
  · rw [state]
    exact putBackEach_keeps returned holds _ _ _ index
  · rw [state]
    exact putBackEach_keeps returned holds _ _ _ index

/-- What the three operations of a pool keep, every pool of a registry keeps under
every action. -/
theorem act_keeps (leased : ∀ index pool, motive index pool → motive index pool.lease.state)
    (returned : ∀ index pool address,
      motive index pool → motive index (pool.putBack address).state)
    (reserved : ∀ index pool address,
      motive index pool → motive index (pool.reserve address).state)
    {registry : Registry count}
    (holds : ∀ index : Fin count, motive index (registry.pools.get index))
    (action : Action count) (index : Fin count) :
    motive index ((registry.act action).2.pools.get index) := by
  cases action with
  | acquire key =>
      have afterLeases := leaseEach_keeps leased holds registry.positions
      change motive index ((registry.acquire key).state.pools.get index)
      rcases acquire_cases registry key with ⟨_, refused⟩ | ⟨_, refused⟩ |
        ⟨_, _, ⟨_, _, state⟩ | ⟨cause, _, state, _⟩⟩
      · rw [refused]
        exact holds index
      · rw [refused]
        exact holds index
      · rw [state]
        exact afterLeases index
      · rw [state]
        exact putBackEach_keeps returned afterLeases _ _ _ index
  | release key => exact release_keeps returned holds key index
  | lookup key => exact holds index
  | forEach visitor => exact holds index
  | onPool changed call =>
      have called := Pool.call_keeps (leased changed) (returned changed) (reserved changed)
        (holds changed) call
      change motive index
        ((registry.pools.set changed ((registry.pools.get changed).call call).state).get index)
      rw [get_set]
      split
      next same =>
        subst same
        exact called
      next => exact holds index

theorem after_keeps (leased : ∀ index pool, motive index pool → motive index pool.lease.state)
    (returned : ∀ index pool address,
      motive index pool → motive index (pool.putBack address).state)
    (reserved : ∀ index pool address,
      motive index pool → motive index (pool.reserve address).state)
    {registry : Registry count}
    (holds : ∀ index : Fin count, motive index (registry.pools.get index))
    (actions : List (Action count)) (index : Fin count) :
    motive index ((registry.after actions).pools.get index) := by
  induction actions generalizing registry with
  | nil => exact holds index
  | cons action actions ih => exact ih (act_keeps leased returned reserved holds action)

end Preservation

theorem act_positions (registry : Registry count) (action : Action count) :
    (registry.act action).2.positions = registry.positions := by
  cases action with
  | acquire key =>
      change (registry.acquire key).state.positions = registry.positions
      rcases acquire_cases registry key with ⟨_, refused⟩ | ⟨_, refused⟩ |
        ⟨_, _, ⟨_, _, state⟩ | ⟨cause, _, state, _⟩⟩
      · rw [refused]
      · rw [refused]
      · rw [state]
      · rw [state]
  | release key =>
      change (registry.release key).state.positions = registry.positions
      rcases release_cases registry key with ⟨_, ignored⟩ |
        ⟨peer, _, ⟨_, _, state⟩ | ⟨violation, _, _, state⟩⟩
      · rw [ignored]
      · rw [state]
      · rw [state]
  | lookup key => rfl
  | forEach visitor => rfl
  | onPool changed call => rfl

@[simp]
theorem after_positions (registry : Registry count) (actions : List (Action count)) :
    (registry.after actions).positions = registry.positions := by
  induction actions generalizing registry with
  | nil => rfl
  | cons action actions ih => exact (ih _).trans (registry.act_positions action)

@[simp]
theorem get_overNew (blocks : Vector Block count) (positions : List (Fin count))
    (pool : Fin count) :
    (overNew blocks positions).pools.get pool = Pool.ofBlock (blocks.get pool) := by
  change (blocks.map Pool.ofBlock)[pool] = Pool.ofBlock blocks[pool]
  simp

theorem act_invariant {registry : Registry count}
    (invariant : ∀ pool : Fin count, (registry.pools.get pool).Invariant) (action : Action count)
    (pool : Fin count) : ((registry.act action).2.pools.get pool).Invariant :=
  act_keeps (motive := fun _ pool => pool.Invariant) (fun _ _ holds => holds.lease)
    (fun _ _ address holds => holds.putBack address)
    (fun _ _ address holds => holds.reserve address) invariant action pool

theorem after_invariant (blocks : Vector Block count) (positions : List (Fin count))
    (actions : List (Action count)) (pool : Fin count) :
    (((overNew blocks positions).after actions).pools.get pool).Invariant := by
  refine after_keeps (motive := fun _ pool => pool.Invariant) (fun _ _ holds => holds.lease)
    (fun _ _ address holds => holds.putBack address)
    (fun _ _ address holds => holds.reserve address) ?_ actions pool
  intro index
  rw [get_overNew]
  exact Pool.ofBlock_invariant _

theorem after_pool_block (blocks : Vector Block count) (positions : List (Fin count))
    (actions : List (Action count)) (pool : Fin count) :
    (((overNew blocks positions).after actions).pools.get pool).block = blocks.get pool := by
  refine after_keeps (motive := fun index pool => pool.block = (blocks.get index))
    (fun _ pool same => pool.lease_block.trans same)
    (fun _ pool address same => (pool.putBack_block address).trans same)
    (fun _ pool address same => (pool.reserve_block address).trans same) ?_ actions pool
  intro index
  rw [get_overNew, Pool.ofBlock_block]

end Registry

end TunnelLease

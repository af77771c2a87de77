import TunnelLease.Proofs.Registry.Leasing

/-!
# What a refused acquisition leaves behind

When a pool refuses, the addresses that were leased before go back to their pools in
the order of leasing.  None of these returns can be refused, whatever was done to the
pools before: the addresses were leased in the same call.  Leases, reservations and
leasable addresses are the same as before, and so is the order of the future of every
pool whose queue was used up; in the other pools the queue has been rotated.
-/

namespace TunnelLease

namespace Registry

variable {count : Nat}

/-- The pools after a refused acquisition took back what it had leased. -/
theorem putBackEach_leaseEach {pools : Vector Pool count}
    (invariant : ∀ pool : Fin count, (pools.get pool).Invariant) (positions : List (Fin count))
    (key : PeerKey) :
    let leasing := leaseEach pools positions
    let undone := putBackEach key 0 leasing.pools (positions.zip leasing.taken)
    undone.answer = .ok () ∧ ∀ pool : Fin count,
      (undone.state.get pool).assigned = (pools.get pool).assigned ∧
        (undone.state.get pool).reserved = (pools.get pool).reserved ∧
        (undone.state.get pool).future =
          (pools.get pool).rotated ((positions.take leasing.taken.length).count pool) := by
  intro leasing undone
  have leased : Leased pools positions leasing :=
    leaseEach_leased (fun pool => (invariant pool).range) positions
  have assigned (pool : Fin count) (address : Address)
      (held : (pool, address) ∈ positions.zip leasing.taken) :
      address ∈ (leasing.pools.get pool).assigned :=
    (leased.mem_assigned pool address).mpr (Or.inl held)
  obtain ⟨answer, state⟩ := putBackEach_of_assigned (leased.distinct invariant) assigned key 0
  refine ⟨answer, ?_⟩
  intro pool
  rw [state pool, leased.taken pool]
  exact (leased.drawn pool).takeBack (invariant pool)

/-- A refused acquisition leaves the registry alone, or it puts back what it leased
before the first pool that is exhausted. -/
theorem acquire_refused {registry : Registry count}
    (invariant : ∀ pool : Fin count, (registry.pools.get pool).Invariant) {key : PeerKey}
    {failure : Failure} (refused : (registry.acquire key).answer = .error failure) :
    ((failure = .refused .voidKey ∨ failure = .refused (.alreadyRegistered key)) ∧
        (registry.acquire key).state = registry) ∨
      ∃ failing exhausted, registry.positions[failing]? = some exhausted ∧
        failure = .refused (.exhausted (registry.pools.get exhausted).block) ∧
        (leaseEach registry.pools (registry.positions.take failing)).refusal = none ∧
        (leaseEach registry.pools (registry.positions.take (failing + 1))).refusal =
          some (.exhausted (registry.pools.get exhausted).block) ∧
        (registry.acquire key).state.peers = registry.peers ∧
        ∀ pool : Fin count,
          let restored := (registry.acquire key).state.pools.get pool
          restored.assigned = (registry.pools.get pool).assigned ∧
            restored.reserved = (registry.pools.get pool).reserved ∧
            restored.future =
              (registry.pools.get pool).rotated ((registry.positions.take failing).count pool) := by
  rcases acquire_cases registry key with ⟨_, reply⟩ | ⟨_, reply⟩ |
    ⟨_, _, ⟨_, answer, _⟩ | ⟨cause, refusal, state, outcome⟩⟩
  · rw [reply] at refused
    exact Or.inl ⟨Or.inl (Except.error.inj refused).symm, congrArg Reply.state reply⟩
  · rw [reply] at refused
    exact Or.inl ⟨Or.inr (Except.error.inj refused).symm, congrArg Reply.state reply⟩
  · rw [answer] at refused
    cases refused
  · right
    have leased := leaseEach_leased (fun pool => (invariant pool).range) registry.positions
    obtain ⟨exhausted, atFailing, reason, _⟩ := leased.refused cause refusal
    obtain ⟨served, stopped⟩ := leaseEach_take_refused refusal
    obtain ⟨returned, undone⟩ := putBackEach_leaseEach invariant registry.positions key
    have isCause : failure = .refused cause := by
      rcases outcome with ⟨_, answer⟩ | ⟨violation, disagrees, _⟩
      · rw [answer] at refused
        exact (Except.error.inj refused).symm
      · rw [returned] at disagrees
        cases disagrees
    rw [reason] at isCause stopped
    rw [state]
    exact ⟨_, exhausted, atFailing, isCause, served, stopped, rfl, undone⟩

theorem acquire_uncorrupted {registry : Registry count}
    (invariant : ∀ pool : Fin count, (registry.pools.get pool).Invariant) (key : PeerKey)
    (violation : Violation) : (registry.acquire key).answer ≠ .error (.corrupted violation) := by
  intro corrupted
  rcases acquire_refused invariant corrupted with ⟨isVoid | isUsed, _⟩ | ⟨_, _, _, isDry, _⟩
  · cases isVoid
  · cases isUsed
  · cases isDry

/-- A refused acquisition leaves peers, leases and reservations as they were.  Only the
addresses that it drew from the queue of a pool now wait behind the others. -/
theorem acquire_restores (blocks : Vector Block count) (positions : List (Fin count))
    (actions : List (Action count)) (key : PeerKey) (failure : Failure)
    (refused : (((overNew blocks positions).after actions).acquire key).answer =
      .error failure) :
    let registry := (overNew blocks positions).after actions
    let restored := (registry.acquire key).state
    (failure = .refused .voidKey ∨ failure = .refused (.alreadyRegistered key) ∨
        ∃ pool ∈ positions, failure = .refused (.exhausted (blocks.get pool))) ∧
      (restored.peers = registry.peers ∧ restored.positions = registry.positions) ∧
      (∀ pool : Fin count,
        (∀ address, address ∈ (restored.pools.get pool).assigned ↔
          address ∈ (registry.pools.get pool).assigned) ∧
        (∀ address, address ∈ (restored.pools.get pool).reserved ↔
          address ∈ (registry.pools.get pool).reserved) ∧
        ∀ address, address ∈ (restored.pools.get pool).future ↔
          address ∈ (registry.pools.get pool).future) ∧
      (∀ block, failure = .refused (.exhausted block) →
        ∃ failing exhausted, positions[failing]? = some exhausted ∧
          block = blocks.get exhausted ∧
          (leaseEach registry.pools (positions.take failing)).refusal = none ∧
          (leaseEach registry.pools (positions.take (failing + 1))).refusal =
            some (.exhausted block) ∧
          ∀ pool : Fin count,
            let before := (positions.take failing).count pool
            let queue := (registry.pools.get pool).recycled
            (queue.length ≤ before →
              (restored.pools.get pool).future = (registry.pools.get pool).future) ∧
            (before < queue.length → (restored.pools.get pool).future =
              queue.drop before ++ queue.take before ++ (registry.pools.get pool).fresh)) ∧
      ∀ (pool : Fin count) (limit : Nat),
        ((registry.pools.get pool).drain limit).leased =
            (registry.pools.get pool).future.take limit ∧
          ((restored.pools.get pool).drain limit).leased =
            (restored.pools.get pool).future.take limit := by
  intro registry restored
  have invariant : ∀ pool : Fin count, (registry.pools.get pool).Invariant :=
    after_invariant blocks positions actions
  have restoredInvariant : ∀ pool : Fin count, (restored.pools.get pool).Invariant :=
    act_invariant invariant (.acquire key)
  have samePositions : registry.positions = positions := after_positions _ actions
  have stillPositions : restored.positions = registry.positions :=
    act_positions registry (.acquire key)
  have drained (pool : Fin count) (limit : Nat) :
      ((registry.pools.get pool).drain limit).leased = (registry.pools.get pool).future.take limit ∧
        ((restored.pools.get pool).drain limit).leased =
          (restored.pools.get pool).future.take limit :=
    ⟨Pool.drain_leased (invariant pool).range limit,
      Pool.drain_leased (restoredInvariant pool).range limit⟩
  rcases acquire_refused invariant refused with ⟨reason, same⟩ |
    ⟨failing, exhausted, atFailing, reason, served, stopped, samePeers, undone⟩
  · change restored = registry at same
    refine ⟨reason.imp_right Or.inl, ⟨congrArg peers same, stillPositions⟩, ?_, ?_, drained⟩
    · intro pool
      rw [same]
      exact ⟨fun _ => Iff.rfl, fun _ => Iff.rfl, fun _ => Iff.rfl⟩
    · intro block named
      rcases reason with isVoid | isUsed
      · rw [isVoid] at named
        cases named
      · rw [isUsed] at named
        cases named
  · rw [after_pool_block] at reason stopped
    rw [samePositions] at atFailing served stopped undone
    refine ⟨Or.inr (Or.inr ⟨exhausted, List.mem_of_getElem? atFailing, reason⟩),
      ⟨samePeers, stillPositions⟩, ?_, ?_, drained⟩
    · intro pool
      obtain ⟨assigned, reserved, future⟩ := undone pool
      rw [assigned, reserved, future]
      exact ⟨fun _ => Iff.rfl, fun _ => Iff.rfl, fun _ => (Pool.rotated_perm _ _).mem_iff⟩
    · intro block named
      rw [reason] at named
      cases named
      refine ⟨failing, exhausted, atFailing, rfl, served, stopped, ?_⟩
      intro pool before queue
      rw [(undone pool).2.2]
      exact ⟨Pool.rotated_of_le, Pool.rotated_of_lt⟩

section SmallBlocks

def firstPool : Fin 2 := 0

def secondPool : Fin 2 := 1

theorem smallValue_lt (host : Nat) : 0x0a000000 + host % 512 < Family.v4.size := by
  change _ < 0x100000000
  omega

/-- The address 10.0.0.0 plus a small number. -/
def smallAddress (host : Nat) : Address :=
  ⟨.v4, 0x0a000000 + host % 512, none, smallValue_lt host, Address.unzoned_v6⟩

/-- The blocks 10.0.0.1/29, with five addresses to lease, and 10.0.1.1/30, with one. -/
def smallBlocks : Vector Block 2 :=
  #v[⟨some ⟨smallAddress 1, 29, by decide⟩, Block.defaultLimit⟩,
    ⟨some ⟨smallAddress 257, 30, by decide⟩, Block.defaultLimit⟩]

/-- A peer has two addresses of the first block and one of the second. -/
def smallPositions : List (Fin 2) := [firstPool, firstPool, secondPool]

/-- Three addresses wait in the first pool, and the second pool is used up. -/
def waitingRun : List (Action 2) :=
  [.acquire (.text "first"), .onPool firstPool .lease, .onPool firstPool .lease,
    .onPool firstPool .lease, .onPool firstPool (.putBack (.given (smallAddress 4))),
    .onPool firstPool (.putBack (.given (smallAddress 5))),
    .onPool firstPool (.putBack (.given (smallAddress 6)))]

/-- Two positions draw on three waiting addresses before the third position refuses. -/
theorem acquire_restores_waiting :
    let registry := (overNew smallBlocks smallPositions).after waitingRun
    let restored := (registry.acquire (.text "second")).state
    (registry.acquire (.text "second")).answer =
        .error (.refused (.exhausted (smallBlocks.get secondPool))) ∧
      restored.peers = registry.peers ∧
      (registry.pools.get firstPool).future =
        [smallAddress 4, smallAddress 5, smallAddress 6] ∧
      (restored.pools.get firstPool).future =
        [smallAddress 6, smallAddress 4, smallAddress 5] := by
  intro registry restored
  have refused : (registry.acquire (.text "second")).answer =
      .error (.refused (.exhausted (smallBlocks.get secondPool))) := by
    decide +kernel
  have queue : (registry.pools.get firstPool).recycled =
      [smallAddress 4, smallAddress 5, smallAddress 6] := by
    decide +kernel
  have fresh : (registry.pools.get firstPool).fresh = [] := by
    decide +kernel
  obtain ⟨_, ⟨samePeers, _⟩, _, rotation, _⟩ :=
    acquire_restores smallBlocks smallPositions waitingRun (.text "second") _ refused
  obtain ⟨failing, exhausted, atFailing, isSecond, _, _, order⟩ := rotation _ rfl
  have atThird : failing = 2 := by
    have different : smallBlocks.get secondPool ≠ smallBlocks.get firstPool := by decide
    rcases failing with _ | _ | _ | failing
    · cases atFailing
      exact absurd isSecond different
    · cases atFailing
      exact absurd isSecond different
    · rfl
    · cases atFailing
  subst atThird
  have rotated := (order firstPool).2
  rw [queue, fresh] at rotated
  refine ⟨refused, samePeers, ?_, rotated (by decide)⟩
  rw [Pool.future, queue, fresh, List.append_nil]

end SmallBlocks

end Registry

end TunnelLease

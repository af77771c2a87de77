import Mathlib.Data.List.Flatten
import TunnelLease.Proofs.Registry.Agreement
import TunnelLease.Proofs.Registry.Return

/-!
# Returns behind the registry's back

A pool can take back, behind the registry's back, what a peer holds.  The registry finds
out when it releases the peer, for then the pool refuses an address that is not leased.
All that a pool knows is whether an address is leased, and not to whom.  So the registry
finds out as long as the pool has not leased the address again, to whomever, and when the
pool has, the release takes it from its new holder without a word.
-/

namespace TunnelLease

/-- The violation says of the peer what is so: at that position it holds an address that
the pool there has not leased. -/
def Violation.IsTrueOf {count : Nat} (violation : Violation) (registry : Registry count)
    (peer : Peer) : Prop :=
  violation.key = peer.key ∧ violation.cause = .notAssigned violation.address ∧
    ∃ pool, registry.Holds peer violation.position pool violation.address ∧
      violation.address ∉ (registry.pools.get pool).assigned

/-- Putting an address back makes no lease. -/
theorem Pool.mem_of_mem_putBack {pool : Pool} {back address : Address}
    (still : address ∈ (pool.putBack back).state.assigned) : address ∈ pool.assigned := by
  by_cases assigned : back ∈ pool.assigned
  · rw [putBack_of_assigned assigned] at still
    exact List.mem_of_mem_erase still
  · rw [putBack_of_unassigned assigned] at still
    exact still

namespace Registry

variable {count : Nat}

/-- The pool leased the address, directly or to a peer at one of the positions. -/
def IsLease (positions : List (Fin count)) (pool : Fin count) (address : Address)
    (entry : Action count × Outcome) : Prop :=
  IsDirectLease pool address entry ∨
    ∃ key addresses, entry = (.acquire key, .acquired (.ok addresses)) ∧
      (pool, address) ∈ positions.zip addresses

/-- An action hands out nothing that a registered peer holds. -/
def Action.Spares (registry : Registry count) : Action count → Prop
  | .acquire key => ∀ addresses, (registry.acquire key).answer = .ok addresses →
      ∀ holding ∈ registry.positions.zip addresses, holding ∉ registry.holdings
  | .release _ | .lookup _ | .forEach _ | .onPool _ _ => True

/-- Every action of a run hands out nothing that a peer registered at that moment holds. -/
def Sparing (registry : Registry count) : List (Action count) → Prop
  | [] => True
  | action :: actions => action.Spares registry ∧ Sparing (registry.act action).2 actions

instance (registry : Registry count) (action : Action count) :
    Decidable (action.Spares registry) :=
  match action with
  | .acquire key =>
      match answer : (registry.acquire key).answer with
      | .ok addresses =>
          decidable_of_iff (∀ holding ∈ registry.positions.zip addresses,
              holding ∉ registry.holdings) (by
            simp [Action.Spares, answer])
      | .error failure => isTrue (by simp [Action.Spares, answer])
  | .release _ | .lookup _ | .forEach _ | .onPool _ _ => isTrue trivial

instance Sparing.decidable (registry : Registry count) :
    (actions : List (Action count)) → Decidable (Sparing registry actions)
  | [] => isTrue trivial
  | action :: actions =>
      have := Sparing.decidable (registry.act action).2 actions
      inferInstanceAs (Decidable (_ ∧ _))

section Release

variable {registry : Registry count}
  (invariant : ∀ pool : Fin count, (registry.pools.get pool).Invariant) {key : PeerKey}
  {peer : Peer} (found : registry.lookup key = some peer)
  (distinct : (registry.positions.zip peer.addresses).Nodup)

include invariant found distinct

/-- A release is refused exactly if the peer holds something that is not leased, and what
the refusal says is so. -/
theorem release_error_iff :
    ((∃ violation, (registry.release key).answer = .error violation) ↔
        ∃ pool address, (pool, address) ∈ registry.positions.zip peer.addresses ∧
          address ∉ (registry.pools.get pool).assigned) ∧
      ∀ violation, (registry.release key).answer = .error violation →
        violation.IsTrueOf registry ⟨key, peer.addresses⟩ := by
  rcases release_outcome invariant found distinct with
    ⟨assigned, answer, _⟩ | ⟨first, pool, address, rest, split, _, unassigned, answer, _⟩
  · rw [answer]
    refine ⟨⟨?_, ?_⟩, fun _ => nofun⟩
    · rintro ⟨violation, refused⟩
      cases refused
    · rintro ⟨pool, address, holds, unassigned⟩
      exact absurd (assigned pool address holds) unassigned
  · have atPlace : (registry.positions.zip peer.addresses)[first.length]? =
        some (pool, address) := by
      rw [split]
      simp
    rw [answer]
    refine ⟨⟨fun _ => ⟨pool, address, List.mem_of_getElem? atPlace, unassigned⟩,
      fun _ => ⟨_, rfl⟩⟩, ?_⟩
    intro violation isViolation
    cases isViolation
    exact ⟨rfl, rfl, pool, List.getElem?_zip_eq_some.mp atPlace, unassigned⟩

/-- Whether answered or refused, a release has no part in what the peer does not hold. -/
theorem release_mem_assigned {pool : Fin count} {address : Address}
    (other : (pool, address) ∉ registry.positions.zip peer.addresses) :
    address ∈ ((registry.release key).state.pools.get pool).assigned ↔
      address ∈ (registry.pools.get pool).assigned := by
  rcases release_outcome invariant found distinct with
    ⟨_, _, givenBack, _⟩ | ⟨first, _, _, _, split, _, _, _, givenBack, _⟩
  · exact (givenBack.untouched other).1
  · refine (givenBack.untouched fun early => other ?_).1
    rw [split]
    exact List.mem_append_left _ early

end Release

section Unassigned

variable {registry : Registry count} {pool : Fin count} {address : Address}

/-- Leases that are refused in the end are none, and what is put back is not leased. -/
theorem act_unassigned (invariant : ∀ pool : Fin count, (registry.pools.get pool).Invariant)
    {action : Action count}
    (unleased : ¬ IsLease registry.positions pool address (action, (registry.act action).1))
    (unassigned : address ∉ (registry.pools.get pool).assigned) :
    address ∉ ((registry.act action).2.pools.get pool).assigned := by
  cases action with
  | acquire key =>
      change address ∉ ((registry.acquire key).state.pools.get pool).assigned
      rcases acquire_cases registry key with ⟨_, refused⟩ | ⟨_, refused⟩ |
        ⟨_, _, ⟨_, answer, state⟩ | ⟨cause, _, state, _⟩⟩
      · rw [refused]
        exact unassigned
      · rw [refused]
        exact unassigned
      · rw [state, (leaseEach_leased (fun pool => (invariant pool).range) _).mem_assigned]
        rintro (handedOut | before)
        · exact unleased (Or.inr ⟨key, _, congrArg (fun answer =>
            (Action.acquire key, Outcome.acquired answer)) answer, handedOut⟩)
        · exact unassigned before
      · rw [state, ((putBackEach_leaseEach invariant registry.positions key).2 pool).1]
        exact unassigned
  | release key =>
      have returned (index : Fin count) (before : Pool) (back : Address)
          (free : index = pool → address ∉ before.assigned) (here : index = pool) :
          address ∉ (before.putBack back).state.assigned :=
        fun still => free here (Pool.mem_of_mem_putBack still)
      have free (index : Fin count) (here : index = pool) :
          address ∉ (registry.pools.get index).assigned :=
        here ▸ unassigned
      exact release_keeps returned free key pool rfl
  | lookup key => exact unassigned
  | forEach visitor => exact unassigned
  | onPool target call =>
      change address ∉
        ((registry.pools.set target ((registry.pools.get target).call call).state).get
          pool).assigned
      rw [get_set]
      split
      next same =>
        subst same
        rcases Pool.call_assigned (invariant target).range call with
          ⟨new, rfl, answer, leases⟩ | ⟨argument, back, _, _, _, _, leases⟩ | ⟨leases, _⟩
        · rw [leases, List.mem_cons]
          rintro (rfl | before)
          · refine unleased (Or.inl ?_)
            exact congrArg (fun answer => (Action.onPool target .lease,
              Outcome.called (answer.mapError .refused))) answer
          · exact unassigned before
        · rw [leases]
          exact fun still => unassigned (List.mem_of_mem_erase still)
        · rw [leases]
          exact unassigned
      next => exact unassigned

/-- What was just returned directly is not leased. -/
theorem act_returned (invariant : ∀ pool : Fin count, (registry.pools.get pool).Invariant)
    {action : Action count}
    (returned : IsDirectReturn pool address (action, (registry.act action).1)) :
    address ∉ ((registry.act action).2.pools.get pool).assigned := by
  obtain ⟨argument, read, same⟩ := returned
  obtain ⟨rfl, outcome⟩ := Prod.mk.inj same
  change address ∉ ((registry.pools.set pool
    ((registry.pools.get pool).call (.putBack argument)).state).get pool).assigned
  rw [get_set, if_pos rfl]
  rcases Pool.call_assigned (invariant pool).range (.putBack argument) with
    ⟨_, isLease, _⟩ | ⟨other, back, same, otherRead, _, _, leases⟩ |
    ⟨_, ⟨cause, refused⟩ | ⟨_, isReserve⟩⟩
  · cases isLease
  · cases same
    cases read.symm.trans otherRead
    rw [leases, (invariant pool).assigned_nodup.mem_erase_iff]
    exact fun still => still.1 rfl
  · have failed : ((registry.pools.get pool).call (.putBack argument)).answer.mapError
        Failure.refused = .ok .done := Outcome.called.inj outcome
    rw [refused] at failed
    cases failed
  · cases isReserve

/-- What was returned directly and not leased since is not leased. -/
theorem after_unassigned (invariant : ∀ pool : Fin count, (registry.pools.get pool).Invariant)
    {past : List (Action count × Outcome)}
    (free : StillOpen (IsDirectReturn pool address) (IsLease registry.positions pool address)
      past → address ∉ (registry.pools.get pool).assigned)
    {actions : List (Action count)}
    (returned : StillOpen (IsDirectReturn pool address)
      (IsLease registry.positions pool address) (past ++ registry.history actions)) :
    address ∉ ((registry.after actions).pools.get pool).assigned := by
  induction actions generalizing registry past with
  | nil =>
      rw [history, List.append_nil] at returned
      exact free returned
  | cons action actions ih =>
      let entry := (action, (registry.act action).1)
      have freeAfter : StillOpen (IsDirectReturn pool address)
          (IsLease (registry.act action).2.positions pool address) (past ++ [entry]) →
          address ∉ ((registry.act action).2.pools.get pool).assigned := by
        rw [act_positions, stillOpen_concat]
        rintro (justReturned | ⟨unleased, before⟩)
        · exact act_returned invariant justReturned
        · exact act_unassigned invariant unleased (free before)
      rw [history, List.append_cons, ← act_positions registry action] at returned
      exact ih (act_invariant invariant action) freeAfter returned

end Unassigned

section Sparing

variable {registry : Registry count}

/-- As long as nothing that is held is handed out, everything that is held is held once. -/
theorem act_distinct (invariant : ∀ pool : Fin count, (registry.pools.get pool).Invariant)
    (distinct : registry.holdings.Nodup) {action : Action count}
    (spares : action.Spares registry) : (registry.act action).2.holdings.Nodup := by
  rw [holdings, act_positions, act_peers, List.flatMap_append]
  have remaining : ((registry.peers.filter fun peer =>
      struckOff? (action, (registry.act action).1) ≠ some peer.key).flatMap fun peer =>
        registry.positions.zip peer.addresses).Sublist registry.holdings :=
    List.filter_sublist.flatMap _
  cases enrols : enrolled? (action, (registry.act action).1) with
  | none =>
      rw [Option.toList_none, List.flatMap_nil, List.append_nil]
      exact distinct.sublist remaining
  | some peer =>
      obtain ⟨rfl, served⟩ := Prod.mk.inj ((enrolled?_eq_some _ _).mp enrols)
      have granted : (registry.acquire peer.key).answer = .ok peer.addresses :=
        Outcome.acquired.inj served
      rw [Option.toList_some, List.flatMap_singleton]
      refine (distinct.sublist remaining).append (acquire_distinct invariant granted) ?_
      intro holding before isNew
      exact spares peer.addresses granted holding isNew (remaining.subset before)

theorem after_distinct (invariant : ∀ pool : Fin count, (registry.pools.get pool).Invariant)
    (distinct : registry.holdings.Nodup) {actions : List (Action count)}
    (sparing : Sparing registry actions) : (registry.after actions).holdings.Nodup := by
  induction actions generalizing registry with
  | nil => exact distinct
  | cons action actions ih =>
      obtain ⟨first, rest⟩ := sparing
      exact ih (act_invariant invariant action) (act_distinct invariant distinct first) rest

/-- Where nothing is held twice, a release has no part in what other peers hold. -/
theorem release_spares (invariant : ∀ pool : Fin count, (registry.pools.get pool).Invariant)
    (orderly : Orderly registry) (distinct : registry.holdings.Nodup) {key : PeerKey}
    {other : Peer} (member : other ∈ registry.peers) (different : other.key ≠ key)
    {pool : Fin count} {address : Address}
    (held : (pool, address) ∈ registry.positions.zip other.addresses) :
    address ∈ ((registry.release key).state.pools.get pool).assigned ↔
      address ∈ (registry.pools.get pool).assigned := by
  cases found : registry.lookup key with
  | none => simp only [release, found]
  | some peer =>
      have apart := (holdings_perm orderly.keys found).nodup_iff.mp distinct
      refine release_mem_assigned invariant found apart.of_append_left ?_
      have ofOther : (pool, address) ∈
          (registry.peers.filter fun other => other.key != key).flatMap fun other =>
            registry.positions.zip other.addresses :=
        List.mem_flatMap.mpr ⟨other, List.mem_filter.mpr ⟨member, bne_iff_ne.mpr different⟩, held⟩
      exact fun own => List.disjoint_of_nodup_append apart own ofOther

end Sparing

/-- A peer whose acquisition was served stays registered until a release of it succeeds. -/
theorem lookup_of_kept {blocks : Vector Block count} {positions : List (Fin count)}
    {earlier later : List (Action count)} {key : PeerKey} {addresses : List Address}
    (granted : (((overNew blocks positions).after earlier).acquire key).answer = .ok addresses)
    (kept : ∀ entry ∈ (((overNew blocks positions).after earlier).acquire key).state.history later,
      entry ≠ (.release key, .released (.ok ()))) :
    ((overNew blocks positions).after (earlier ++ .acquire key :: later)).lookup key =
      some ⟨key, addresses⟩ := by
  let run := earlier ++ .acquire key :: later
  have orderly : Orderly ((overNew blocks positions).after run) :=
    (overNew_orderly blocks positions).after run
  have unrecorded : (overNew blocks positions).peers = @standing count [] := rfl
  have recorded : ((overNew blocks positions).after run).peers =
      standing ((overNew blocks positions).history run) :=
    after_standing unrecorded run
  refine (lookup_eq_some_iff orderly.keys key _).mpr ⟨?_, rfl⟩
  rw [recorded, mem_standing, history_append]
  refine ⟨_, _, _, rfl, (enrolled?_eq_some _ _).mpr ?_, ?_⟩
  · exact congrArg (fun answer => (Action.acquire key, Outcome.acquired answer)) granted
  · intro entry member strikes
    exact kept entry member ((struckOff?_eq_some entry key).mp strikes)

/-- What was returned directly after an acquisition and not leased since is not leased,
for the run up to the acquisition has no part in it. -/
theorem unassigned_of_returned {blocks : Vector Block count} {positions : List (Fin count)}
    {earlier later : List (Action count)} {key : PeerKey} {pool : Fin count} {address : Address}
    (returned : StillOpen (IsDirectReturn pool address) (IsLease positions pool address)
      ((((overNew blocks positions).after earlier).acquire key).state.history later)) :
    address ∉ (((overNew blocks positions).after (earlier ++ .acquire key :: later)).pools.get
      pool).assigned := by
  let granted := (((overNew blocks positions).after earlier).acquire key).state
  have invariant : ∀ pool : Fin count, (granted.pools.get pool).Invariant :=
    act_invariant (after_invariant blocks positions earlier) (.acquire key)
  have samePositions : granted.positions = positions :=
    (act_positions _ (.acquire key)).trans (after_positions _ earlier)
  have nothing : StillOpen (IsDirectReturn pool address)
      (IsLease granted.positions pool address) [] →
      address ∉ (granted.pools.get pool).assigned :=
    fun isOpen => absurd isOpen (not_stillOpen_nil _ _)
  rw [after_append]
  refine after_unassigned invariant nothing ?_
  rw [samePositions]
  exact returned

/-- A release is refused exactly if something that the peer holds is not leased, so a direct
return is detected unless the address was leased again. -/
theorem release_detects (blocks : Vector Block count) (positions : List (Fin count))
    (earlier later : List (Action count)) (key : PeerKey) (addresses : List Address)
    (granted : (((overNew blocks positions).after earlier).acquire key).answer = .ok addresses)
    (kept : ∀ entry ∈ (((overNew blocks positions).after earlier).acquire key).state.history later,
      entry ≠ (.release key, .released (.ok ()))) :
    let since := (((overNew blocks positions).after earlier).acquire key).state.history later
    let registry := (overNew blocks positions).after (earlier ++ .acquire key :: later)
    let reply := registry.release key
    (∀ pool address, (pool, address) ∈ positions.zip addresses →
        StillOpen (IsDirectReturn pool address) (IsLease positions pool address) since →
        (∃ violation, reply.answer = .error violation) ∧
          address ∉ (registry.pools.get pool).assigned ∧
          address ∉ (reply.state.pools.get pool).assigned) ∧
      (((∃ violation, reply.answer = .error violation) ↔
          ∃ pool address, (pool, address) ∈ positions.zip addresses ∧
            address ∉ (registry.pools.get pool).assigned) ∧
        ∀ violation, reply.answer = .error violation →
          violation.IsTrueOf registry ⟨key, addresses⟩) ∧
      (Sparing (overNew blocks positions) (earlier ++ .acquire key :: later) →
        ∀ other ∈ registry.peers, other.key ≠ key →
          ∀ pool address, (pool, address) ∈ positions.zip other.addresses →
            (address ∈ (reply.state.pools.get pool).assigned ↔
              address ∈ (registry.pools.get pool).assigned)) := by
  intro since registry reply
  let before := (overNew blocks positions).after earlier
  have invariantBefore : ∀ pool : Fin count, (before.pools.get pool).Invariant :=
    after_invariant blocks positions earlier
  have invariant : ∀ pool : Fin count, (registry.pools.get pool).Invariant :=
    after_invariant blocks positions _
  have positionsBefore : before.positions = positions := after_positions _ earlier
  have samePositions : registry.positions = positions := after_positions _ _
  have found : registry.lookup key = some ⟨key, addresses⟩ := lookup_of_kept granted kept
  have own : (registry.positions.zip addresses).Nodup := by
    rw [samePositions, ← positionsBefore]
    exact acquire_distinct invariantBefore granted
  obtain ⟨refused_iff, isTrue⟩ := release_error_iff invariant found own
  rw [samePositions] at refused_iff
  refine ⟨?_, ⟨refused_iff, isTrue⟩, ?_⟩
  · intro pool address held returned
    have unassigned : address ∉ (registry.pools.get pool).assigned :=
      unassigned_of_returned returned
    refine ⟨refused_iff.mpr ⟨pool, address, held, unassigned⟩, unassigned, ?_⟩
    have stays : ¬ IsLease registry.positions pool address
        (.release key, (registry.act (.release key)).1) := by
      rintro (isDirect | ⟨_, _, isAcquisition, _⟩)
      · cases isDirect
      · cases isAcquisition
    exact act_unassigned invariant stays unassigned
  · intro sparing other member different pool address held
    have distinct : registry.holdings.Nodup := by
      have nothing : (overNew blocks positions).holdings.Nodup := List.nodup_nil
      exact after_distinct (after_invariant blocks positions []) nothing sparing
    rw [← samePositions] at held
    exact release_spares invariant ((overNew_orderly blocks positions).after _) distinct member
      different held

section Takeover

def firstKey : PeerKey := .text "first"

def secondKey : PeerKey := .text "second"

/-- A direct return of the address that the second of two peers holds is detected, and
the first peer keeps its own. -/
theorem release_detects_return :
    let start := overNew smallBlocks [firstPool]
    let behind : Action 2 := .onPool firstPool (.putBack (.given (smallAddress 3)))
    let registry := start.after [.acquire firstKey, .acquire secondKey, behind]
    let reply := registry.release secondKey
    ((start.after [.acquire firstKey]).acquire secondKey).answer = .ok [smallAddress 3] ∧
      (∃ violation, reply.answer = .error violation ∧
        violation.IsTrueOf registry ⟨secondKey, [smallAddress 3]⟩) ∧
      smallAddress 3 ∉ (reply.state.pools.get firstPool).assigned ∧
      smallAddress 2 ∈ (reply.state.pools.get firstPool).assigned := by
  intro start behind registry reply
  let holding := ((start.after [.acquire firstKey]).acquire secondKey).state
  have granted : ((start.after [.acquire firstKey]).acquire secondKey).answer =
      .ok [smallAddress 3] := by
    decide +kernel
  have returned : (holding.onPool firstPool fun pool =>
      pool.call (.putBack (.given (smallAddress 3)))).answer = .ok .done := by
    decide +kernel
  have since : holding.history [behind] = [(behind, .called (.ok .done))] :=
    congrArg (fun answer => [(behind, Outcome.called answer)]) returned
  have kept : ∀ entry ∈ holding.history [behind],
      entry ≠ (.release secondKey, .released (.ok ())) := by
    rw [since]
    simp [behind]
  obtain ⟨detected, ⟨_, isTrue⟩, spared⟩ := release_detects smallBlocks [firstPool]
    [.acquire firstKey] [behind] secondKey [smallAddress 3] granted kept
  have isReturned : StillOpen (IsDirectReturn firstPool (smallAddress 3))
      (IsLease [firstPool] firstPool (smallAddress 3)) (holding.history [behind]) := by
    rw [since]
    exact ⟨[], _, [], rfl, ⟨.given (smallAddress 3), rfl, rfl⟩, by simp⟩
  have sparing : Sparing start [.acquire firstKey, .acquire secondKey, behind] := by
    decide +kernel
  obtain ⟨⟨violation, refused⟩, _, stays⟩ :=
    detected firstPool (smallAddress 3) List.mem_cons_self isReturned
  have peers : registry.peers =
      [⟨firstKey, [smallAddress 2]⟩, ⟨secondKey, [smallAddress 3]⟩] := by
    decide +kernel
  have kept := spared sparing ⟨firstKey, [smallAddress 2]⟩ (peers ▸ List.mem_cons_self)
    (by decide) firstPool (smallAddress 2) List.mem_cons_self
  exact ⟨granted, ⟨violation, refused, isTrue violation refused⟩, stays,
    kept.mpr (by decide +kernel)⟩

/-- A direct return is not detected if the address has been leased again: the release
succeeds and takes the address from its new holder. -/
theorem release_undetected :
    let start := overNew smallBlocks [firstPool]
    let behind : Action 2 := .onPool firstPool (.putBack (.given (smallAddress 2)))
    let later := [behind, .acquire secondKey]
    let since := (start.acquire firstKey).state.history later
    let registry := start.after (.acquire firstKey :: later)
    let reply := registry.release firstKey
    (start.acquire firstKey).answer = .ok [smallAddress 2] ∧
      (∃ entry ∈ since, IsDirectReturn firstPool (smallAddress 2) entry) ∧
      (∀ entry ∈ since, entry.1 ≠ .release firstKey) ∧
      reply.answer = .ok () ∧
      registry.lookup secondKey = some ⟨secondKey, [smallAddress 2]⟩ ∧
      reply.state.lookup secondKey = some ⟨secondKey, [smallAddress 2]⟩ ∧
      smallAddress 2 ∈ (registry.pools.get firstPool).assigned ∧
      smallAddress 2 ∉ (reply.state.pools.get firstPool).assigned := by
  intro start behind later since registry reply
  have returned : ((start.acquire firstKey).state.onPool firstPool fun pool =>
      pool.call (.putBack (.given (smallAddress 2)))).answer = .ok .done := by
    decide +kernel
  have isReturn : IsDirectReturn firstPool (smallAddress 2)
      (behind, ((start.acquire firstKey).state.act behind).1) :=
    ⟨.given (smallAddress 2), rfl,
      congrArg (fun answer => (behind, Outcome.called answer)) returned⟩
  refine ⟨by decide +kernel, ⟨_, List.mem_cons_self, isReturn⟩, ?_, by decide +kernel,
    by decide +kernel, by decide +kernel, by decide +kernel, by decide +kernel⟩
  simp [since, later, history, behind]

end Takeover

end Registry

end TunnelLease

import TunnelLease.Proofs.Pool.Drawing
import TunnelLease.Proofs.Registry.Run

/-!
# Leasing and putting back at all positions

Leasing at each position draws on every pool as many addresses as positions name it,
and hands them out in the order of the pool's future.  Putting such holdings back
gives every pool its own addresses in the order of the positions.  A pool may stand at
several positions, so what one pool has part in is selected from the whole by its name.
-/

namespace TunnelLease

namespace Registry

variable {count : Nat}

/-- The addresses of one pool among some holdings, in order. -/
def addressesAt (pool : Fin count) (holdings : List (Fin count × Address)) : List Address :=
  (holdings.filter fun holding => holding.1 = pool).map Prod.snd

theorem addressesAt_cons (pool position : Fin count) (address : Address)
    (holdings : List (Fin count × Address)) :
    addressesAt pool ((position, address) :: holdings) =
      if position = pool then address :: addressesAt pool holdings
      else addressesAt pool holdings := by
  by_cases same : position = pool <;> simp [addressesAt, same]

theorem mem_addressesAt (pool : Fin count) (holdings : List (Fin count × Address))
    (address : Address) : address ∈ addressesAt pool holdings ↔ (pool, address) ∈ holdings := by
  simp [addressesAt]

theorem nodup_of_addressesAt {holdings : List (Fin count × Address)}
    (distinct : ∀ pool, (addressesAt pool holdings).Nodup) : holdings.Nodup := by
  induction holdings with
  | nil => exact List.nodup_nil
  | cons holding holdings ih =>
      obtain ⟨position, address⟩ := holding
      refine List.nodup_cons.mpr ⟨?_, ih ?_⟩
      · intro again
        have here := distinct position
        rw [addressesAt_cons, if_pos rfl] at here
        exact (List.nodup_cons.mp here).1 ((mem_addressesAt _ _ _).mpr again)
      · intro pool
        have here := distinct pool
        rw [addressesAt_cons] at here
        split at here
        · exact (List.nodup_cons.mp here).2
        · exact here

/-- What leasing at each of some positions comes to. -/
structure Leased (pools : Vector Pool count) (positions : List (Fin count))
    (leasing : Leasing count) : Prop where
  /-- Every pool is drawn on as often as the positions that were served name it. -/
  drawn : ∀ pool : Fin count,
    Pool.Drawn (pools.get pool) ((positions.take leasing.taken.length).count pool)
      (leasing.pools.get pool)
  taken : ∀ pool : Fin count, addressesAt pool (positions.zip leasing.taken) =
    (pools.get pool).future.take ((positions.take leasing.taken.length).count pool)
  complete : leasing.refusal = none → leasing.taken.length = positions.length
  /-- The pool that refuses has no future left. -/
  refused : ∀ cause, leasing.refusal = some cause → ∃ pool : Fin count,
    positions[leasing.taken.length]? = some pool ∧ cause = .exhausted (pools.get pool).block ∧
      (pools.get pool).future.length = (positions.take leasing.taken.length).count pool

/-- One more position in front draws once more on its pool. -/
theorem Leased.cons {pools : Vector Pool count} {position : Fin count} {address : Address}
    {rest : List Address} {positions : List (Fin count)} {later : Leasing count}
    {log : List Event} (order : (pools.get position).future = address :: rest)
    (first : Pool.Drawn (pools.get position) 1 (pools.get position).lease.state)
    (leased : Leased (pools.set position (pools.get position).lease.state position.isLt)
      positions later) :
    Leased pools (position :: positions)
      ⟨later.pools, address :: later.taken, later.refusal, log⟩ := by
  have advanced (pool : Fin count) :
      Pool.Drawn (pools.get pool) (if position = pool then 1 else 0)
        ((pools.set position (pools.get position).lease.state).get pool) := by
    rw [get_set]
    split
    next same =>
      subst same
      exact first
    next => exact Pool.Drawn.refl _
  have served (pool : Fin count) :
      ((position :: positions).take (later.taken.length + 1)).count pool =
        (if position = pool then 1 else 0) + (positions.take later.taken.length).count pool := by
    rw [List.take_succ_cons, List.count_cons, Nat.add_comm]
    by_cases same : position = pool <;> simp [same]
  constructor
  · intro pool
    rw [List.length_cons, served]
    exact (advanced pool).trans (leased.drawn pool)
  · intro pool
    rw [List.length_cons, served, List.zip_cons_cons, addressesAt_cons, leased.taken,
      (advanced pool).future]
    split
    next same =>
      subst same
      rw [order, Nat.add_comm 1, List.take_succ_cons, List.drop_one, List.tail_cons]
    next => rw [List.drop_zero, Nat.zero_add]
  · intro unrefused
    exact congrArg (· + 1) (leased.complete unrefused)
  · intro cause refusal
    obtain ⟨pool, atPool, reason, usedUp⟩ := leased.refused cause refusal
    refine ⟨pool, ?_, ?_, ?_⟩
    · rw [List.length_cons, List.getElem?_cons_succ]
      exact atPool
    · rw [reason, (advanced pool).block]
    · have enough := (advanced pool).enough
      rw [(advanced pool).future, List.length_drop] at usedUp
      rw [List.length_cons, served, ← usedUp]
      omega

theorem leaseEach_leased {pools : Vector Pool count}
    (range : ∀ pool : Fin count, (pools.get pool).CursorInRange) (positions : List (Fin count)) :
    Leased pools positions (leaseEach pools positions) := by
  induction positions generalizing pools with
  | nil =>
      constructor
      · intro pool
        exact Pool.Drawn.refl _
      · intro pool
        rfl
      · intro _
        rfl
      · intro cause refusal
        cases refusal
  | cons position positions ih =>
      rcases Pool.lease_drawn (range position) with
        ⟨address, rest, order, answer, first⟩ | ⟨gone, answer, untouched⟩
      · have rangeAfter (pool : Fin count) :
            ((pools.set position (pools.get position).lease.state).get pool).CursorInRange := by
          rw [get_set]
          split
          · exact Pool.lease_range (range position)
          · exact range pool
        rw [leaseEach_of_ok positions answer]
        exact Leased.cons order first (ih rangeAfter)
      · rw [leaseEach_of_error positions answer]
        constructor
        · intro pool
          rw [get_set]
          split
          next same =>
            subst same
            exact untouched
          next => exact Pool.Drawn.refl _
        · intro pool
          rfl
        · intro unrefused
          cases unrefused
        · intro cause refusal
          refine ⟨position, rfl, (Option.some.inj refusal).symm, ?_⟩
          rw [gone]
          rfl

namespace Leased

variable {pools : Vector Pool count} {positions : List (Fin count)} {leasing : Leasing count}

theorem distinct (leased : Leased pools positions leasing)
    (invariant : ∀ pool : Fin count, (pools.get pool).Invariant) :
    (positions.zip leasing.taken).Nodup := by
  apply nodup_of_addressesAt
  intro pool
  rw [leased.taken pool]
  exact (invariant pool).future_nodup.sublist (List.take_sublist _ _)

/-- The leases afterwards are those before and what was handed out. -/
theorem mem_assigned (leased : Leased pools positions leasing) (pool : Fin count)
    (address : Address) : address ∈ (leasing.pools.get pool).assigned ↔
      (pool, address) ∈ positions.zip leasing.taken ∨ address ∈ (pools.get pool).assigned := by
  rw [(leased.drawn pool).assigned, List.mem_append, List.mem_reverse, ← leased.taken pool,
    mem_addressesAt]

theorem unassigned (leased : Leased pools positions leasing)
    (invariant : ∀ pool : Fin count, (pools.get pool).Invariant) {pool : Fin count}
    {address : Address} (handedOut : (pool, address) ∈ positions.zip leasing.taken) :
    address ∉ (pools.get pool).assigned := by
  intro isAssigned
  rw [← mem_addressesAt, leased.taken pool] at handedOut
  exact (invariant pool).assigned_future isAssigned (List.mem_of_mem_take handedOut)

end Leased

/-- An acquisition that is served draws on every pool as often as positions name it, and
adds a peer with what was drawn. -/
theorem acquire_drawn {registry : Registry count}
    (range : ∀ pool : Fin count, (registry.pools.get pool).CursorInRange) {key : PeerKey}
    {addresses : List Address} (granted : (registry.acquire key).answer = .ok addresses) :
    (registry.acquire key).state.peers = registry.peers ++ [⟨key, addresses⟩] ∧
      ∀ pool : Fin count,
        Pool.Drawn (registry.pools.get pool) (registry.positions.count pool)
            ((registry.acquire key).state.pools.get pool) ∧
          addressesAt pool (registry.positions.zip addresses) =
            (registry.pools.get pool).future.take (registry.positions.count pool) := by
  rcases acquire_cases registry key with ⟨_, refused⟩ | ⟨_, refused⟩ |
    ⟨_, _, ⟨served, answer, state⟩ | ⟨cause, _, _, ⟨_, answer⟩ | ⟨violation, _, answer⟩⟩⟩
  · rw [refused] at granted
    cases granted
  · rw [refused] at granted
    cases granted
  · rw [answer] at granted
    cases granted
    rw [state]
    refine ⟨rfl, ?_⟩
    intro pool
    have leased := leaseEach_leased range registry.positions
    have drawn := leased.drawn pool
    have taken := leased.taken pool
    rw [leased.complete served, List.take_length] at drawn taken
    exact ⟨drawn, taken⟩
  · rw [answer] at granted
    cases granted
  · rw [answer] at granted
    cases granted

/-- No peer is given the same address of a pool twice. -/
theorem acquire_distinct {registry : Registry count}
    (invariant : ∀ pool : Fin count, (registry.pools.get pool).Invariant) {key : PeerKey}
    {addresses : List Address} (granted : (registry.acquire key).answer = .ok addresses) :
    (registry.positions.zip addresses).Nodup := by
  obtain ⟨_, drawn⟩ := acquire_drawn (fun pool => (invariant pool).range) granted
  apply nodup_of_addressesAt
  intro pool
  rw [(drawn pool).2]
  exact (invariant pool).future_nodup.sublist (List.take_sublist _ _)

/-- Leasing up to the position that is refused succeeds, and leasing one further is
refused for the same cause. -/
theorem leaseEach_take_refused {pools : Vector Pool count} {positions : List (Fin count)}
    {cause : Error} (refused : (leaseEach pools positions).refusal = some cause) :
    let failing := (leaseEach pools positions).taken.length
    (leaseEach pools (positions.take failing)).refusal = none ∧
      (leaseEach pools (positions.take (failing + 1))).refusal = some cause := by
  induction positions generalizing pools with
  | nil => cases refused
  | cons position positions ih =>
      cases answer : (pools.get position).lease.answer with
      | error reason =>
          rw [leaseEach_of_error positions answer] at refused ⊢
          refine ⟨rfl, ?_⟩
          rw [List.length_nil, List.take_succ_cons, leaseEach_of_error _ answer]
          exact refused
      | ok address =>
          rw [leaseEach_of_ok positions answer] at refused ⊢
          simp only [List.length_cons, List.take_succ_cons, leaseEach_of_ok _ answer]
          exact ih refused

/-- Holdings that are all leased are taken back without a refusal, each by its pool. -/
theorem putBackEach_of_assigned {pools : Vector Pool count}
    {holdings : List (Fin count × Address)} (distinct : holdings.Nodup)
    (assigned : ∀ pool address, (pool, address) ∈ holdings → address ∈ (pools.get pool).assigned)
    (key : PeerKey) (index : Nat) :
    (putBackEach key index pools holdings).answer = .ok () ∧
      ∀ pool : Fin count, (putBackEach key index pools holdings).state.get pool =
        (pools.get pool).takeBack (addressesAt pool holdings) := by
  induction holdings generalizing pools index with
  | nil => exact ⟨rfl, fun pool => (Pool.takeBack_nil _).symm⟩
  | cons holding holdings ih =>
      obtain ⟨position, address⟩ := holding
      obtain ⟨absent, distinct⟩ := List.nodup_cons.mp distinct
      have here := assigned position address List.mem_cons_self
      have stillAssigned (pool : Fin count) (other : Address)
          (later : (pool, other) ∈ holdings) :
          other ∈ ((pools.set position { (pools.get position) with
            assigned := (pools.get position).assigned.erase address
            recycled := (pools.get position).recycled ++ [address] }).get pool).assigned := by
        have before := assigned pool other (List.mem_cons_of_mem _ later)
        rw [get_set]
        split
        next same =>
          subst same
          have different : other ≠ address := by
            rintro rfl
            exact absent later
          exact (List.mem_erase_of_ne different).mpr before
        next => exact before
      obtain ⟨answer, state⟩ := ih distinct stillAssigned (index + 1)
      have accepted := Pool.putBack_of_assigned here
      rw [putBackEach_of_ok key index holdings (congrArg Reply.answer accepted), accepted]
      refine ⟨answer, ?_⟩
      intro pool
      rw [state pool, get_set, addressesAt_cons]
      split
      next same =>
        subst same
        rw [Pool.takeBack_cons]
      next => rfl

/-- What is put back behind some holdings that no pool refuses is put back to the pools
after these. -/
theorem putBackEach_append {key : PeerKey} {index : Nat} {pools : Vector Pool count}
    {first : List (Fin count × Address)}
    (returned : (putBackEach key index pools first).answer = .ok ())
    (rest : List (Fin count × Address)) :
    let later := putBackEach key (index + first.length)
      (putBackEach key index pools first).state rest
    (putBackEach key index pools (first ++ rest)).answer = later.answer ∧
      (putBackEach key index pools (first ++ rest)).state = later.state := by
  induction first generalizing pools index with
  | nil => exact ⟨rfl, rfl⟩
  | cons holding first ih =>
      obtain ⟨position, address⟩ := holding
      cases answer : ((pools.get position).putBack address).answer with
      | error cause =>
          rw [putBackEach_of_error key index first answer] at returned
          cases returned
      | ok done =>
          rw [putBackEach_of_ok key index first answer] at returned
          rw [List.cons_append, putBackEach_of_ok key index first answer,
            putBackEach_of_ok key index (first ++ rest) answer, List.length_cons,
            Nat.add_comm first.length, ← Nat.add_assoc]
          exact ih returned

/-- Of holdings that are not all leased, those before the first one that is not leased are
taken back, and the violation is about that one. -/
theorem putBackEach_of_unassigned {pools : Vector Pool count}
    {first : List (Fin count × Address)} {pool : Fin count} {address : Address}
    (distinct : first.Nodup)
    (assigned : ∀ pool address, (pool, address) ∈ first → address ∈ (pools.get pool).assigned)
    (unassigned : address ∉ (pools.get pool).assigned) (rest : List (Fin count × Address))
    (key : PeerKey) (index : Nat) :
    let undone := putBackEach key index pools (first ++ (pool, address) :: rest)
    undone.answer = .error ⟨key, index + first.length, address, .notAssigned address⟩ ∧
      ∀ other : Fin count, undone.state.get other =
        (pools.get other).takeBack (addressesAt other first) := by
  obtain ⟨returned, state⟩ := putBackEach_of_assigned distinct assigned key index
  obtain ⟨answer, later⟩ := putBackEach_append returned ((pool, address) :: rest)
  have stillUnassigned :
      address ∉ ((putBackEach key index pools first).state.get pool).assigned := by
    rw [state pool]
    exact fun still => unassigned (List.diff_subset _ _ still)
  have refused := congrArg Reply.answer (Pool.putBack_of_unassigned stillUnassigned)
  rw [putBackEach_of_error _ _ rest refused] at answer later
  refine ⟨answer, ?_⟩
  intro other
  rw [later]
  exact state other

end Registry

end TunnelLease

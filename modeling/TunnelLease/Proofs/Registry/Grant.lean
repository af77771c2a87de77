import TunnelLease.Proofs.Registry.Capacity
import TunnelLease.Proofs.Registry.Reach

/-!
# What an acquisition gives

The pools at different positions may be the same, so what a position is given depends on
how many positions before it name its pool: that many addresses have been drawn on the
pool already, and the position is given the next one of its future.  An acquisition fails
exactly if a pool is named more often than it can lease, and the refusal names the pool
at the first position where this shows.
-/

namespace TunnelLease

namespace Registry

variable {count : Nat}

/-- Among the addresses of one pool, that of a position comes behind those of the earlier
positions that name the pool. -/
theorem getElem?_addressesAt {positions : List (Fin count)} {place : Nat} {pool : Fin count}
    (named : positions[place]? = some pool) (addresses : List Address) :
    (addressesAt pool (positions.zip addresses))[(positions.take place).count pool]? =
      addresses[place]? := by
  induction positions generalizing place addresses with
  | nil => cases named
  | cons position positions ih =>
      cases addresses with
      | nil => rfl
      | cons address addresses =>
          rw [List.zip_cons_cons, addressesAt_cons]
          cases place with
          | zero =>
              rw [if_pos (Option.some.inj named)]
              rfl
          | succ place =>
              rw [List.take_succ_cons, List.count_cons, List.getElem?_cons_succ,
                ← ih named addresses]
              by_cases same : position = pool
              · simp [same]
              · simp [same]

section Granted

variable {registry : Registry count} {key : PeerKey} {addresses : List Address}

/-- A position is given the address that comes, in the future of its pool, behind those
given to the earlier positions that name the pool. -/
theorem granted_at (range : ∀ pool : Fin count, (registry.pools.get pool).CursorInRange)
    (granted : (registry.acquire key).answer = .ok addresses) {place : Nat} {pool : Fin count}
    (named : registry.positions[place]? = some pool) :
    addresses[place]? =
      (registry.pools.get pool).future[(registry.positions.take place).count pool]? := by
  have drawn := ((acquire_drawn range granted).2 pool).2
  obtain ⟨below, isPool⟩ := List.getElem?_eq_some_iff.mp named
  have once : (registry.positions.take place).count pool < registry.positions.count pool := by
    rw [← isPool]
    exact List.count_getElem_take_lt_count
  rw [← getElem?_addressesAt named, drawn, List.getElem?_take_of_lt once]

/-- Every pool has leased what was given at its positions, and nothing else. -/
theorem granted_assigned (range : ∀ pool : Fin count, (registry.pools.get pool).CursorInRange)
    (granted : (registry.acquire key).answer = .ok addresses) (pool : Fin count)
    (address : Address) :
    address ∈ ((registry.acquire key).state.pools.get pool).assigned ↔
      address ∈ (registry.pools.get pool).assigned ∨
        (pool, address) ∈ registry.positions.zip addresses := by
  obtain ⟨drawing, given⟩ := (acquire_drawn range granted).2 pool
  rw [drawing.assigned, List.mem_append, List.mem_reverse, ← given, mem_addressesAt, or_comm]

/-- What is given was not leased before. -/
theorem granted_unassigned (invariant : ∀ pool : Fin count, (registry.pools.get pool).Invariant)
    (granted : (registry.acquire key).answer = .ok addresses) {pool : Fin count}
    {address : Address} (given : (pool, address) ∈ registry.positions.zip addresses) :
    address ∉ (registry.pools.get pool).assigned := by
  have range (pool : Fin count) : (registry.pools.get pool).CursorInRange := (invariant pool).range
  rw [← mem_addressesAt, ((acquire_drawn range granted).2 pool).2] at given
  exact fun assigned => (invariant pool).assigned_future assigned (List.mem_of_mem_take given)

end Granted

/-- An acquisition is served exactly if no pool runs short, and each position is given what
comes next in the future of its pool.  Otherwise the first place that runs short is to
blame. -/
theorem acquire_grants (blocks : Vector Block count) (positions : List (Fin count))
    (actions : List (Action count)) (key : PeerKey) (named : key.isVoid = false)
    (unregistered : ((overNew blocks positions).after actions).has key = false) :
    let registry := (overNew blocks positions).after actions
    let reply := registry.acquire key
    (∀ (pool : Fin count) (limit : Nat),
        let drained := (registry.pools.get pool).drain limit
        drained.leased = (registry.pools.get pool).future.take limit ∧
          drained.refusal = if limit ≤ (registry.pools.get pool).future.length then none
            else some (.exhausted (blocks.get pool))) ∧
      ((∃ addresses, reply.answer = .ok addresses) ↔
        ∀ pool, positions.count pool ≤ (registry.pools.get pool).future.length) ∧
      (∀ addresses, reply.answer = .ok addresses →
        (addresses.length = positions.length ∧
            ∀ place pool, positions[place]? = some pool →
              ∃ address, addresses[place]? = some address ∧
                (registry.pools.get pool).future[(positions.take place).count pool]? =
                  some address) ∧
          (reply.state.peers = registry.peers ++ [⟨key, addresses⟩] ∧
            ∀ visitor : List Peer → Peer → Verdict, GoesOn visitor [] reply.state.peers →
              reply.state.act (.forEach visitor) =
                (.visited (registry.peers ++ [⟨key, addresses⟩]) none, reply.state)) ∧
          ∀ pool : Fin count,
            (∀ address, address ∈ (reply.state.pools.get pool).assigned ↔
              address ∈ (registry.pools.get pool).assigned ∨
                (pool, address) ∈ positions.zip addresses) ∧
            (∀ address, (pool, address) ∈ positions.zip addresses →
              address ∉ (registry.pools.get pool).assigned) ∧
            (reply.state.pools.get pool).reserved = (registry.pools.get pool).reserved) ∧
      ∀ failure, reply.answer = .error failure →
        ∃ place pool, positions[place]? = some pool ∧
          failure = .refused (.exhausted (blocks.get pool)) ∧
          failure.message = "Address pool " ++ (blocks.get pool).label ++ " is exhausted" ∧
          RunsShort registry.pools positions place ∧
          ∀ earlier < place, ¬ RunsShort registry.pools positions earlier := by
  intro registry reply
  have invariant : ∀ pool : Fin count, (registry.pools.get pool).Invariant :=
    after_invariant blocks positions actions
  have range (pool : Fin count) : (registry.pools.get pool).CursorInRange := (invariant pool).range
  have samePositions : registry.positions = positions := after_positions _ actions
  have sameBlock (pool : Fin count) : (registry.pools.get pool).block = blocks.get pool :=
    after_pool_block blocks positions actions pool
  have orderly : Orderly registry := (overNew_orderly blocks positions).after actions
  refine ⟨?_, ?_, ?_, ?_⟩
  · intro pool limit drained
    rw [← sameBlock pool]
    exact ⟨Pool.drain_leased (range pool) limit, Pool.drain_refusal (range pool) limit⟩
  · rw [acquire_ok_iff invariant named unregistered, samePositions]
    refine ⟨?_, fun enough pool _ => enough pool⟩
    intro enough pool
    by_cases isNamed : pool ∈ positions
    · exact enough pool isNamed
    · rw [List.count_eq_zero.mpr isNamed]
      exact Nat.zero_le _
  · intro addresses granted
    have complete := length_of_granted orderly range granted
    have at_place {place : Nat} {pool : Fin count} (isNamed : positions[place]? = some pool) :
        addresses[place]? =
          (registry.pools.get pool).future[(positions.take place).count pool]? := by
      rw [← samePositions] at isNamed ⊢
      exact granted_at range granted isNamed
    obtain ⟨peers, drawn⟩ := acquire_drawn range granted
    rw [samePositions] at complete
    refine ⟨⟨complete, ?_⟩, ⟨peers, ?_⟩, ?_⟩
    · intro place pool isNamed
      have below : place < addresses.length :=
        complete ▸ (List.getElem?_eq_some_iff.mp isNamed).1
      have given := List.getElem?_eq_getElem below
      exact ⟨_, given, (at_place isNamed).symm.trans given⟩
    · intro visitor goesOn
      rw [← peers]
      exact act_forEach_of_goesOn goesOn
    · intro pool
      rw [← samePositions]
      exact ⟨granted_assigned range granted pool,
        fun address given => granted_unassigned invariant granted given,
        (drawn pool).1.reserved⟩
  · intro failure refused
    obtain ⟨place, pool, atPlace, rfl, first⟩ :=
      acquire_first_short invariant named unregistered refused
    rw [samePositions] at atPlace first
    rw [sameBlock]
    exact ⟨place, pool, atPlace, rfl, rfl, first⟩

/-- One address of the first pool waits to be leased again, and one is leased. -/
def mixedRun : List (Action 2) :=
  [.onPool firstPool .lease, .onPool firstPool .lease,
    .onPool firstPool (.putBack (.given (smallAddress 2)))]

/-- Two positions of the same pool are given the address that waits and a fresh one. -/
theorem acquire_grants_mixed :
    let registry := (overNew smallBlocks smallPositions).after mixedRun
    let reply := registry.acquire (.text "first")
    ∃ addresses, reply.answer = .ok addresses ∧
      addresses[0]? = some (smallAddress 2) ∧ addresses[1]? = some (smallAddress 4) ∧
      reply.state.peers = [⟨.text "first", addresses⟩] := by
  intro registry reply
  have future : (registry.pools.get firstPool).future =
      [smallAddress 2, smallAddress 4, smallAddress 5, smallAddress 6] := by
    decide +kernel
  obtain ⟨_, served_iff, given, _⟩ := acquire_grants smallBlocks smallPositions mixedRun
    (.text "first") (by decide) (by decide +kernel)
  obtain ⟨addresses, granted⟩ := served_iff.mpr (by decide +kernel)
  obtain ⟨⟨_, at_place⟩, ⟨peers, _⟩, _⟩ := given addresses granted
  obtain ⟨first, isFirst, firstNext⟩ := at_place 0 firstPool rfl
  obtain ⟨second, isSecond, secondNext⟩ := at_place 1 firstPool rfl
  change (registry.pools.get firstPool).future[0]? = some first at firstNext
  change (registry.pools.get firstPool).future[1]? = some second at secondNext
  rw [future] at firstNext secondNext
  cases firstNext
  cases secondNext
  exact ⟨addresses, granted, isFirst, isSecond, peers⟩

end Registry

end TunnelLease

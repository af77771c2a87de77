import TunnelLease.Proofs.Registry.Grant

/-!
# What peers get when they come one after the other

Where the positions name different pools, the peers that come one after the other to a
new registry get the addresses of the future of every pool in their order, one each.  The
first peer that does not fit is refused by the first pool that has no future left, and
nobody is registered for it.
-/

namespace TunnelLease

namespace Registry

variable {count : Nat} {positions : List (Fin count)}

/-- A peer gets the addresses at its turn in the future of the pools. -/
theorem Arrived.addresses {pools : Vector Pool count} {keys : List PeerKey}
    {registry : Registry count} (arrived : Arrived pools positions keys registry)
    (distinct : positions.Nodup) {key : PeerKey} {addresses : List Address}
    (granted : (registry.acquire key).answer = .ok addresses) :
    addresses.map some = positions.map fun pool => (pools.get pool).future[keys.length]? := by
  have range (pool : Fin count) : (registry.pools.get pool).CursorInRange :=
    (arrived.balanced.invariant pool).range
  obtain rfl := arrived.samePositions
  have complete := length_of_granted arrived.balanced.toOrderly range granted
  refine List.ext_getElem (by simpa using complete) fun place _ inside => ?_
  rw [List.length_map] at inside
  have given := granted_at range granted (List.getElem?_eq_getElem inside)
  -- No earlier position names the pool, for it stands at one position only.
  have once := List.count_eq_one_of_mem distinct (List.getElem_mem inside)
  have first : (registry.positions.take place).count registry.positions[place] = 0 := by
    have fewer : (registry.positions.take place).count registry.positions[place] <
        registry.positions.count registry.positions[place] := List.count_getElem_take_lt_count
    omega
  rw [first, (arrived.drawn _).future, once, Nat.mul_one, List.getElem?_drop, Nat.add_zero,
    List.getElem?_eq_getElem (complete ▸ inside)] at given
  rw [List.getElem_map, List.getElem_map]
  exact given

/-- Where the positions name different pools, one runs short when it has no future. -/
theorem runsShort_iff_of_distinct {pools : Vector Pool count} (distinct : positions.Nodup)
    {place : Nat} {pool : Fin count} (named : positions[place]? = some pool) :
    RunsShort pools positions place ↔ (pools.get pool).future = [] := by
  have once : (positions.take (place + 1)).count pool = 1 := by
    refine List.count_eq_one_of_mem (distinct.sublist (List.take_sublist _ _)) ?_
    rw [List.take_add_one, named]
    simp
  constructor
  · rintro ⟨other, isNamed, short⟩
    cases named.symm.trans isNamed
    rw [once] at short
    exact List.eq_nil_of_length_eq_zero (Nat.lt_one_iff.mp short)
  · intro gone
    refine ⟨pool, named, ?_⟩
    rw [gone, once]
    exact Nat.zero_lt_one

/-- An acquisition that does not fit is refused by the first pool without a future, and
registers nobody. -/
theorem acquire_exhausted_first {registry : Registry count}
    (invariant : ∀ pool : Fin count, (registry.pools.get pool).Invariant)
    (distinct : registry.positions.Nodup) {key : PeerKey} (named : key.isVoid = false)
    (unregistered : registry.has key = false) {full : Fin count}
    (isFirst : registry.positions.find?
      (fun pool => (registry.pools.get pool).future.isEmpty) = some full) :
    (registry.acquire key).answer =
        .error (.refused (.exhausted (registry.pools.get full).block)) ∧
      (registry.acquire key).state.peers = registry.peers := by
  obtain ⟨isEmpty, place, below, isFull, occupied⟩ := List.find?_eq_some_iff_getElem.mp isFirst
  have gone : (registry.pools.get full).future = [] := List.isEmpty_iff.mp isEmpty
  have peers := acquire_peers registry key
  cases answer : (registry.acquire key).answer with
  | ok addresses =>
      have isNamed : full ∈ registry.positions := isFull ▸ List.getElem_mem below
      have fits := (acquire_ok_iff invariant named unregistered).mp ⟨addresses, answer⟩
      have enough := fits full isNamed
      rw [List.count_eq_one_of_mem distinct isNamed, gone] at enough
      cases enough
  | error failure =>
      obtain ⟨first, pool, atFirst, rfl, short, earlier⟩ :=
        acquire_first_short invariant named unregistered answer
      have atPlace : registry.positions[place]? = some full := by
        rw [List.getElem?_eq_getElem below, isFull]
      rw [runsShort_iff_of_distinct distinct atFirst] at short
      have same : first = place := by
        rcases Nat.lt_trichotomy first place with before | same | behind
        · obtain ⟨inside, isPool⟩ := List.getElem?_eq_some_iff.mp atFirst
          have notEmpty := occupied first before
          rw [isPool, short] at notEmpty
          cases notEmpty
        · exact same
        · exact absurd ((runsShort_iff_of_distinct distinct atPlace).mpr gone)
            (earlier place behind)
      subst same
      cases atFirst.symm.trans atPlace
      rw [answer] at peers
      exact ⟨rfl, peers.trans (List.append_nil _)⟩

end Registry

end TunnelLease

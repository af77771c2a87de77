import TunnelLease.Proofs.Pool.Invariant

/-!
# Exhausting a pool

Every member of a block is assigned, reserved or part of the pool's future, and only
in one of these.  So the length of the future is the size of the block less the leases
and less the reservations of members, and this is how many addresses can be leased
before the pool refuses.
-/

namespace TunnelLease

namespace Pool

/-- The reservations that match a member of the block: those without a zone. -/
def plainReserved (pool : Pool) : List Address :=
  pool.reserved.filter fun address => address.zone.isNone

theorem mem_plainReserved (pool : Pool) (address : Address) :
    address ∈ pool.plainReserved ↔ address ∈ pool.reserved ∧ address.zone = none := by
  simp [plainReserved]

namespace Invariant

theorem recycled_fresh {pool : Pool} (invariant : pool.Invariant) :
    pool.recycled.Disjoint pool.fresh := by
  intro address waiting isFresh
  have passed := (invariant.recycled_visited address waiting).2
  have reached := ((pool.mem_fresh address).mp isFresh).2.1
  omega

theorem assigned_fresh {pool : Pool} (invariant : pool.Invariant) :
    pool.assigned.Disjoint pool.fresh := by
  intro address assigned isFresh
  have passed := (invariant.assigned_visited address assigned).2
  have reached := ((pool.mem_fresh address).mp isFresh).2.1
  omega

theorem future_nodup {pool : Pool} (invariant : pool.Invariant) : pool.future.Nodup :=
  invariant.recycled_nodup.append pool.fresh_ascending.nodup invariant.recycled_fresh

theorem assigned_future {pool : Pool} (invariant : pool.Invariant) :
    pool.assigned.Disjoint pool.future :=
  List.disjoint_append_right.mpr ⟨invariant.assigned_recycled, invariant.assigned_fresh⟩

theorem future_reserved {pool : Pool} (invariant : pool.Invariant) :
    pool.future.Disjoint pool.reserved := by
  refine List.disjoint_append_left.mpr ⟨invariant.recycled_reserved, ?_⟩
  intro address isFresh taken
  exact ((pool.mem_fresh address).mp isFresh).2.2 taken

/-- The members of the block are the future, the leases and the reservations of
members, each once. -/
theorem accounting {pool : Pool} (invariant : pool.Invariant) :
    (pool.future ++ (pool.assigned ++ pool.plainReserved)).Perm pool.block.members := by
  have reservedNodup : pool.plainReserved.Nodup := invariant.reserved_nodup.filter _
  have assignedReserved : pool.assigned.Disjoint pool.plainReserved := by
    intro address assigned taken
    exact invariant.assigned_reserved assigned ((pool.mem_plainReserved address).mp taken).1
  have futureRest : pool.future.Disjoint (pool.assigned ++ pool.plainReserved) := by
    refine List.disjoint_append_right.mpr ⟨List.disjoint_symm invariant.assigned_future, ?_⟩
    intro address later taken
    exact invariant.future_reserved later ((pool.mem_plainReserved address).mp taken).1
  have nodup : (pool.future ++ (pool.assigned ++ pool.plainReserved)).Nodup :=
    invariant.future_nodup.append
      (invariant.assigned_nodup.append reservedNodup assignedReserved) futureRest
  apply (List.perm_ext_iff_of_nodup nodup pool.block.members_ascending.nodup).mpr
  intro address
  rw [List.mem_append, List.mem_append, future, List.mem_append, mem_plainReserved]
  constructor
  · rintro ((waiting | isFresh) | assigned | ⟨taken, zone⟩)
    · exact (invariant.recycled_visited address waiting).1
    · exact ((pool.mem_fresh address).mp isFresh).1
    · exact (invariant.assigned_visited address assigned).1
    · exact (pool.block.mem_members address).mpr ⟨invariant.reserved_inside address taken, zone⟩
  · intro inside
    rcases invariant.located inside with assigned | waiting | taken | isFresh
    · exact Or.inr (Or.inl assigned)
    · exact Or.inl (Or.inl waiting)
    · exact Or.inr (Or.inr ⟨taken, ((pool.block.mem_members address).mp inside).2⟩)
    · exact Or.inl (Or.inr isFresh)

theorem future_length {pool : Pool} (invariant : pool.Invariant) :
    pool.future.length + (pool.assigned.length + pool.plainReserved.length) =
      pool.block.size := by
  simpa using invariant.accounting.length_eq

end Invariant

theorem drain_leased {pool : Pool} (range : pool.CursorInRange) (limit : Nat) :
    (pool.drain limit).leased = pool.future.take limit := by
  induction limit generalizing pool with
  | zero => rfl
  | succ limit ih =>
      have answer := lease_answer range
      have rest := ih (lease_range range)
      rw [lease_future range] at rest
      rw [drain]
      cases order : pool.future with
      | nil => simp [answer, order]
      | cons address later =>
          rw [order] at rest
          simpa [answer, order] using rest

theorem drain_refusal {pool : Pool} (range : pool.CursorInRange) (limit : Nat) :
    (pool.drain limit).refusal =
      if limit ≤ pool.future.length then none else some (.exhausted pool.block) := by
  induction limit generalizing pool with
  | zero => simp [drain]
  | succ limit ih =>
      have answer := lease_answer range
      have rest := ih (lease_range range)
      rw [lease_future range, lease_block] at rest
      rw [drain]
      cases order : pool.future with
      | nil => simp [answer, order]
      | cons address later =>
          rw [order] at rest
          have shorter : limit ≤ later.length ↔ limit + 1 ≤ (address :: later).length := by simp
          simp only [answer, order]
          exact rest.trans (if_congr shorter rfl rfl)

/-- Leasing again and again hands out every member of the block that is neither assigned nor
reserved, first those that wait and then the fresh ones in ascending order. -/
theorem drain_exhausts (block : Block) (calls : List Call) :
    let pool := (ofBlock block).after calls
    let fresh := block.members.filter fun address =>
      pool.cursor ≤ address.value ∧ address ∉ pool.reserved
    let plain := pool.reserved.filter fun address => address.zone.isNone
    let count := block.size - pool.assigned.length - plain.length
    (pool.assigned.length + plain.length ≤ block.size ∧
        (pool.recycled ++ fresh).length = count) ∧
      (pool.recycled ++ fresh).Nodup ∧
      fresh.Pairwise (fun first second => first.value < second.value) ∧
      (∀ limit, (pool.drain limit).leased = (pool.recycled ++ fresh).take limit ∧
        (pool.drain limit).refusal =
          if limit ≤ count then none else some (.exhausted block)) ∧
      (∀ cause, pool.lease.answer = .error cause → cause = .exhausted block) ∧
      ∀ subnet ∈ block.subnet,
        subnet.base ≤ pool.cursor ∧ pool.cursor ≤ subnet.stop ∧
          subnet.stop ≤ subnet.family.size ∧
          ∀ value, pool.cursor ≤ value → value < pool.lease.state.cursor →
            value < subnet.family.size := by
  intro pool fresh plain count
  have invariant : pool.Invariant := (ofBlock_invariant block).after calls
  have sameBlock : pool.block = block := by rw [after_block, ofBlock_block]
  have order : pool.future = pool.recycled ++ fresh := by
    simp only [future, Pool.fresh, sameBlock, fresh]
  have total := invariant.future_length
  rw [sameBlock, order] at total
  have length : (pool.recycled ++ fresh).length = count := by
    change _ + (_ + plain.length) = _ at total
    omega
  refine ⟨⟨?_, length⟩, ?_, block.members_ascending.filter _, ?_, ?_, ?_⟩
  · change _ + (_ + plain.length) = _ at total
    omega
  · rw [← order]
    exact invariant.future_nodup
  · intro limit
    rw [drain_leased invariant.range, drain_refusal invariant.range, order, length, sameBlock]
    exact ⟨rfl, rfl⟩
  · intro cause refused
    rw [lease_answer invariant.range] at refused
    split at refused
    · rw [sameBlock] at refused
      exact (Except.error.inj refused).symm
    · cases refused
  · intro subnet configured
    have base : block.base = subnet.base := by
      simp only [Block.base, Option.mem_def.mp configured]
    have stop : block.stop = subnet.stop := by
      simp only [Block.stop, Option.mem_def.mp configured]
    have range := invariant.range
    have later := (lease_range range).le_stop
    rw [lease_block, sameBlock, stop] at later
    have inFamily := subnet.stop_le
    rw [← base, ← stop, ← sameBlock]
    refine ⟨range.base_le, range.le_stop, ?_, ?_⟩
    · rw [sameBlock, stop]
      exact inFamily
    · intro value _ passed
      omega

end Pool

end TunnelLease

import TunnelLease.Proofs.Pool.Exhaustion

/-!
# Drawing on the future of a pool

A pool that has leased some addresses in a row differs from what it was only in that
the first part of its future has become leases.  If these are then put back in the
order of leasing, the leases are again what they were, and what was drawn stands at
the end of the queue: the future is the same unless addresses that waited before were
left in the queue, in which case those drawn now stand behind these.
-/

namespace TunnelLease

namespace Pool

/-- `later` is `pool` after the first `drawn` addresses of its future were leased. -/
structure Drawn (pool : Pool) (drawn : Nat) (later : Pool) : Prop where
  block : later.block = pool.block
  reserved : later.reserved = pool.reserved
  enough : drawn ≤ pool.future.length
  assigned : later.assigned = (pool.future.take drawn).reverse ++ pool.assigned
  recycled : later.recycled = pool.recycled.drop drawn
  fresh : later.fresh = pool.fresh.drop (drawn - pool.recycled.length)

namespace Drawn

theorem refl (pool : Pool) : Drawn pool 0 pool where
  block := rfl
  reserved := rfl
  enough := Nat.zero_le _
  assigned := rfl
  recycled := rfl
  fresh := by simp

theorem future {pool later : Pool} {drawn : Nat} (drawing : Drawn pool drawn later) :
    later.future = pool.future.drop drawn := by
  rw [Pool.future, drawing.recycled, drawing.fresh, Pool.future, List.drop_append]

theorem trans {pool middle later : Pool} {first second : Nat}
    (before : Drawn pool first middle) (behind : Drawn middle second later) :
    Drawn pool (first + second) later where
  block := behind.block.trans before.block
  reserved := behind.reserved.trans before.reserved
  enough := by
    have left := behind.enough
    rw [before.future, List.length_drop] at left
    have enough := before.enough
    omega
  assigned := by
    rw [behind.assigned, before.assigned, before.future, List.take_add, List.reverse_append,
      List.append_assoc]
  recycled := by
    rw [behind.recycled, before.recycled, List.drop_drop]
  fresh := by
    rw [behind.fresh, before.fresh, before.recycled, List.drop_drop, List.length_drop]
    congr 1
    omega

end Drawn

/-- Leasing draws one address, or none from a pool without a future. -/
theorem lease_drawn {pool : Pool} (range : pool.CursorInRange) :
    (∃ address rest, pool.future = address :: rest ∧ pool.lease.answer = .ok address ∧
        Drawn pool 1 pool.lease.state) ∨
      (pool.future = [] ∧ pool.lease.answer = .error (.exhausted pool.block) ∧
        Drawn pool 0 pool.lease.state) := by
  have answer := lease_answer range
  have assigned := lease_assigned range
  have recycled := pool.lease_recycled
  have fresh := lease_fresh range
  cases order : pool.future with
  | nil =>
      right
      simp only [order] at answer
      have noneLeft := List.append_eq_nil_iff.mp order
      refine ⟨rfl, answer, pool.lease_block, pool.lease_reserved, Nat.zero_le _, ?_, ?_, ?_⟩
      · rw [assigned, order]
        rfl
      · rw [recycled, noneLeft.1]
        rfl
      · rw [fresh, noneLeft.2, List.drop_nil, List.drop_nil]
  | cons address rest =>
      left
      simp only [order] at answer
      refine ⟨address, rest, rfl, answer, pool.lease_block, pool.lease_reserved, ?_, ?_, ?_,
        fresh⟩
      · rw [order]
        exact Nat.succ_le_succ (Nat.zero_le _)
      · rw [assigned, order]
        rfl
      · rw [recycled, List.drop_one]

/-- Taking back what stands in front, in the order in which it was put there. -/
theorem diff_reverse_append {addresses : List Address} (distinct : addresses.Nodup)
    (others : List Address) : (addresses.reverse ++ others).diff addresses = others := by
  induction addresses with
  | nil => rfl
  | cons address addresses ih =>
      obtain ⟨absent, distinct⟩ := List.nodup_cons.mp distinct
      have notReversed : address ∉ addresses.reverse := fun found =>
        absent (List.mem_reverse.mp found)
      rw [List.diff_cons, List.reverse_cons, List.append_assoc,
        List.erase_append_right _ notReversed, List.singleton_append, List.erase_cons_head]
      exact ih distinct

/-- The pool after some addresses were put back that it had leased. -/
def takeBack (pool : Pool) (addresses : List Address) : Pool :=
  { pool with
    assigned := pool.assigned.diff addresses
    recycled := pool.recycled ++ addresses }

@[simp]
theorem takeBack_nil (pool : Pool) : pool.takeBack [] = pool := by
  simp [takeBack]

theorem takeBack_cons (pool : Pool) (address : Address) (addresses : List Address) :
    pool.takeBack (address :: addresses) =
      takeBack { pool with
        assigned := pool.assigned.erase address
        recycled := pool.recycled ++ [address] } addresses := by
  simp [takeBack, List.diff_cons]

/-- The future after some addresses were drawn from its head and put back. -/
def rotated (pool : Pool) (drawn : Nat) : List Address :=
  pool.recycled.drop drawn ++ pool.future.take drawn ++
    pool.fresh.drop (drawn - pool.recycled.length)

/-- Putting back what was drawn restores the leases and rotates the queue. -/
theorem Drawn.takeBack {pool later : Pool} {drawn : Nat} (invariant : pool.Invariant)
    (drawing : Drawn pool drawn later) :
    let restored := later.takeBack (pool.future.take drawn)
    restored.assigned = pool.assigned ∧ restored.reserved = pool.reserved ∧
      restored.future = pool.rotated drawn := by
  intro restored
  have distinct : (pool.future.take drawn).Nodup :=
    invariant.future_nodup.sublist (List.take_sublist _ _)
  refine ⟨?_, drawing.reserved, ?_⟩
  · change later.assigned.diff (pool.future.take drawn) = pool.assigned
    rw [drawing.assigned, diff_reverse_append distinct]
  · have fresh : restored.fresh = later.fresh := rfl
    rw [Pool.future, fresh, drawing.fresh]
    change later.recycled ++ _ ++ _ = _
    rw [drawing.recycled, rotated]

theorem rotated_of_le {pool : Pool} {drawn : Nat} (usedUp : pool.recycled.length ≤ drawn) :
    pool.rotated drawn = pool.future := by
  rw [rotated, List.drop_eq_nil_of_le usedUp, List.nil_append, future, List.take_append,
    List.take_of_length_le usedUp, List.append_assoc, List.take_append_drop]

theorem rotated_of_lt {pool : Pool} {drawn : Nat} (left : drawn < pool.recycled.length) :
    pool.rotated drawn =
      pool.recycled.drop drawn ++ pool.recycled.take drawn ++ pool.fresh := by
  have fits : drawn - pool.recycled.length = 0 := by omega
  rw [rotated, future, List.take_append_of_le_length (Nat.le_of_lt left), fits, List.drop_zero]

theorem rotated_perm (pool : Pool) (drawn : Nat) : (pool.rotated drawn).Perm pool.future := by
  rcases Nat.lt_or_ge drawn pool.recycled.length with left | usedUp
  · rw [rotated_of_lt left, future]
    apply List.Perm.append_right
    calc
      pool.recycled.drop drawn ++ pool.recycled.take drawn
          |>.Perm (pool.recycled.take drawn ++ pool.recycled.drop drawn) :=
        List.perm_append_comm
      _ = pool.recycled := List.take_append_drop drawn _
  · rw [rotated_of_le usedUp]

end Pool

end TunnelLease

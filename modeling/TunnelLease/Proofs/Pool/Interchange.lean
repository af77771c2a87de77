import TunnelLease.Proofs.Pool.Eager

/-!
# Pools with the same reservations

A pool asks of its reservations only whether an address is among them and how many they
are.  So two pools that differ at most in the order in which addresses were reserved are
interchangeable: each operation has the same answer on both and leaves them
interchangeable, and so they give the same responses to every sequence of operations.
-/

namespace TunnelLease

namespace Pool

/-- The pools differ at most in the order of their reservations. -/
structure Interchangeable (first second : Pool) : Prop where
  block : first.block = second.block
  cursor : first.cursor = second.cursor
  assigned : first.assigned = second.assigned
  recycled : first.recycled = second.recycled
  reserved : first.reserved.Perm second.reserved

/-- The replies give the same answer and leave interchangeable pools. -/
structure Matching {α : Type} (first second : Reply Error Pool α) : Prop where
  answer : first.answer = second.answer
  state : Interchangeable first.state second.state

/-- The search for a fresh address asks only which addresses are reserved. -/
theorem nextFresh_congr {subnet : Subnet} {first second : List Address}
    (same : ∀ address, address ∈ first ↔ address ∈ second) (cursor : Nat) :
    nextFresh subnet first cursor = nextFresh subnet second cursor := by
  fun_induction nextFresh subnet first cursor with
  | case1 cursor below candidate isReserved ih =>
      rw [ih, nextFresh.eq_def subnet second cursor, dif_pos below]
      exact (if_pos ((same _).mp isReserved)).symm
  | case2 cursor below candidate unreserved =>
      rw [nextFresh, dif_pos below, if_neg fun isReserved => unreserved ((same _).mpr isReserved)]
  | case3 cursor reached =>
      rw [nextFresh, dif_neg reached]

namespace Interchangeable

variable {first second : Pool}

theorem lease (alike : Interchangeable first second) : Matching first.lease second.lease := by
  obtain ⟨block, cursor, assigned, reserved, recycled⟩ := second
  obtain ⟨rfl, rfl, rfl, rfl, permuted⟩ := alike
  have search (subnet : Subnet) : nextFresh subnet first.reserved first.cursor =
      nextFresh subnet reserved first.cursor :=
    nextFresh_congr (fun _ => permuted.mem_iff) _
  cases queued : first.recycled with
  | cons address waiting =>
      simp only [Pool.lease, queued]
      exact ⟨rfl, rfl, rfl, rfl, rfl, permuted⟩
  | nil =>
      cases configured : first.block.subnet with
      | none =>
          simp only [Pool.lease, queued, configured]
          exact ⟨rfl, rfl, rfl, rfl, queued, permuted⟩
      | some subnet =>
          simp only [Pool.lease, queued, configured, ← search]
          cases nextFresh subnet first.reserved first.cursor with
          | mk found cursor =>
              cases found with
              | none => exact ⟨rfl, rfl, rfl, rfl, rfl, permuted⟩
              | some address => exact ⟨rfl, rfl, rfl, rfl, rfl, permuted⟩

theorem putBack (alike : Interchangeable first second) (address : Address) :
    Matching (first.putBack address) (second.putBack address) := by
  obtain ⟨block, cursor, assigned, reserved, recycled⟩ := second
  obtain ⟨rfl, rfl, rfl, rfl, permuted⟩ := alike
  by_cases assigned : address ∈ first.assigned
  · simp only [Pool.putBack, if_pos assigned]
    exact ⟨rfl, rfl, rfl, rfl, rfl, permuted⟩
  · simp only [Pool.putBack, if_neg assigned]
    exact ⟨rfl, rfl, rfl, rfl, rfl, permuted⟩

theorem reserve (alike : Interchangeable first second) (address : Address) :
    Matching (first.reserve address) (second.reserve address) := by
  obtain ⟨block, cursor, assigned, reserved, recycled⟩ := second
  obtain ⟨rfl, rfl, rfl, rfl, permuted⟩ := alike
  by_cases inside : first.block.contains address = true
  · by_cases used : address ∈ first.assigned ∨ address ∈ first.reserved
    · have alsoUsed := used
      rw [permuted.mem_iff] at alsoUsed
      simp only [Pool.reserve, inside, used, alsoUsed]
      exact ⟨rfl, rfl, rfl, rfl, rfl, permuted⟩
    · have alsoFree := used
      rw [permuted.mem_iff] at alsoFree
      simp only [Pool.reserve, inside, used, alsoFree]
      exact ⟨rfl, rfl, rfl, rfl, rfl, permuted.cons address⟩
  · simp only [Pool.reserve, inside]
    exact ⟨rfl, rfl, rfl, rfl, rfl, permuted⟩

theorem onArgument (alike : Interchangeable first second) (argument : Argument)
    {operation other : Address → Reply Error Pool Unit}
    (matching : ∀ address, Matching (operation address) (other address)) :
    Matching (first.onArgument argument operation) (second.onArgument argument other) := by
  unfold Pool.onArgument
  cases argument.read with
  | error cause => exact ⟨rfl, alike⟩
  | ok address =>
      obtain ⟨answer, state⟩ := matching address
      exact ⟨congrArg (Except.map fun _ => Answer.done) answer, state⟩

theorem call (alike : Interchangeable first second) (call : Call) :
    Matching (first.call call) (second.call call) := by
  cases call with
  | lease =>
      obtain ⟨answer, state⟩ := alike.lease
      exact ⟨congrArg (Except.map Answer.address) answer, state⟩
  | putBack argument => exact alike.onArgument argument alike.putBack
  | reserve argument => exact alike.onArgument argument alike.reserve

theorem count (alike : Interchangeable first second) (counter : Counter) :
    first.count counter = second.count counter := by
  have reserved := alike.reserved.length_eq
  cases counter <;>
    simp [Pool.count, capacity, available, alike.block, alike.assigned, alike.recycled, reserved]

theorem operate (alike : Interchangeable first second) (operation : Operation) :
    (first.operate operation).1 = (second.operate operation).1 ∧
      Interchangeable (first.operate operation).2 (second.operate operation).2 := by
  cases operation with
  | call call =>
      obtain ⟨answer, state⟩ := alike.call call
      exact ⟨congrArg Response.answered answer, state⟩
  | isAssigned argument =>
      refine ⟨?_, alike⟩
      simp only [Pool.operate, alike.assigned]
  | isReserved argument =>
      refine ⟨?_, alike⟩
      simp only [Pool.operate, alike.reserved.mem_iff]
  | count counter => exact ⟨congrArg Response.counted (alike.count counter), alike⟩

/-- Interchangeable pools give the same responses. -/
theorem conduct (alike : Interchangeable first second) (operations : List Operation) :
    (conduct Pool.operate first operations).1 = (conduct Pool.operate second operations).1 := by
  induction operations generalizing first second with
  | nil => rfl
  | cons operation operations ih =>
      obtain ⟨answer, state⟩ := alike.operate operation
      exact congrArg₂ List.cons answer (ih state)

end Interchangeable

end Pool

end TunnelLease

import TunnelLease.Proofs.Pool.Call
import TunnelLease.Proofs.Pool.Future

/-!
# Where the addresses of a pool are

Every member of the block that the cursor has passed is in exactly one place: it is
assigned, or it waits to be leased again, or it is reserved.  Reservations may run
ahead of the cursor, and those with a zone match no member at all, so they are
counted apart.  The invariant holds of a new pool and is kept by every operation,
answered or refused.
-/

namespace TunnelLease

namespace Pool

def Visited (pool : Pool) (address : Address) : Prop :=
  address ∈ pool.block.members ∧ address.value < pool.cursor

/-- Every visited address is in exactly one place. -/
structure Invariant (pool : Pool) : Prop where
  range : pool.CursorInRange
  assigned_nodup : pool.assigned.Nodup
  recycled_nodup : pool.recycled.Nodup
  reserved_nodup : pool.reserved.Nodup
  assigned_recycled : pool.assigned.Disjoint pool.recycled
  assigned_reserved : pool.assigned.Disjoint pool.reserved
  recycled_reserved : pool.recycled.Disjoint pool.reserved
  assigned_visited : ∀ address ∈ pool.assigned, pool.Visited address
  recycled_visited : ∀ address ∈ pool.recycled, pool.Visited address
  reserved_inside : ∀ address ∈ pool.reserved, pool.block.contains address = true
  accounted : ∀ address, pool.Visited address →
    address ∈ pool.assigned ∨ address ∈ pool.recycled ∨ address ∈ pool.reserved

theorem reserve_of_free {pool : Pool} {address : Address}
    (inside : pool.block.contains address = true) (unassigned : address ∉ pool.assigned)
    (unreserved : address ∉ pool.reserved) :
    pool.reserve address =
      ⟨.ok (), { pool with
        reserved := address :: pool.reserved
        recycled := pool.recycled.erase address }, [.reserved address pool.block]⟩ := by
  simp [reserve, inside, unassigned, unreserved]

/-- A reservation is refused without effect unless the address is of the block and
neither assigned nor reserved. -/
theorem reserve_cases (pool : Pool) (address : Address) :
    (∃ cause, pool.reserve address = ⟨.error cause, pool, []⟩) ∨
      (pool.block.contains address = true ∧ address ∉ pool.assigned ∧
        address ∉ pool.reserved) := by
  by_cases inside : pool.block.contains address = true
  · by_cases used : address ∈ pool.assigned ∨ address ∈ pool.reserved
    · exact Or.inl ⟨.inUse address, by simp [reserve, inside, used]⟩
    · exact Or.inr ⟨inside, not_or.mp used⟩
  · exact Or.inl ⟨.outOfRange address pool.block, by simp [reserve, inside]⟩

theorem putBack_of_assigned {pool : Pool} {address : Address}
    (assigned : address ∈ pool.assigned) :
    pool.putBack address =
      ⟨.ok (), { pool with
        assigned := pool.assigned.erase address
        recycled := pool.recycled ++ [address] }, [.returned address pool.block]⟩ := by
  simp [putBack, assigned]

theorem putBack_of_unassigned {pool : Pool} {address : Address}
    (unassigned : address ∉ pool.assigned) :
    pool.putBack address = ⟨.error (.notAssigned address), pool, []⟩ := by
  simp [putBack, unassigned]

theorem untouched_invariant (block : Block) : (untouched block).Invariant where
  range := ⟨Nat.le_refl block.base, block.base_le_stop⟩
  assigned_nodup := List.nodup_nil
  recycled_nodup := List.nodup_nil
  reserved_nodup := List.nodup_nil
  assigned_recycled := List.disjoint_nil_left _
  assigned_reserved := List.disjoint_nil_left _
  recycled_reserved := List.disjoint_nil_left _
  assigned_visited := fun _ none => nomatch none
  recycled_visited := fun _ none => nomatch none
  reserved_inside := fun _ none => nomatch none
  accounted := by
    intro address visited
    have bounds := Block.bounds_of_contains ((block.mem_members address).mp visited.1).1
    exact absurd visited.2 (Nat.not_lt.mpr bounds.1)

namespace Invariant

/-- Reserving takes the address out of the queue, so it is still in one place. -/
theorem reserve {pool : Pool} (invariant : pool.Invariant) (address : Address) :
    (pool.reserve address).state.Invariant := by
  rcases reserve_cases pool address with ⟨cause, refused⟩ | ⟨inside, unassigned, unreserved⟩
  · rw [refused]
    exact invariant
  · rw [reserve_of_free inside unassigned unreserved]
    have queued (other : Address) : other ∈ pool.recycled.erase address ↔
        other ≠ address ∧ other ∈ pool.recycled := invariant.recycled_nodup.mem_erase_iff
    constructor
    · exact ⟨invariant.range.base_le, invariant.range.le_stop⟩
    · exact invariant.assigned_nodup
    · exact invariant.recycled_nodup.erase address
    · exact List.nodup_cons.mpr ⟨unreserved, invariant.reserved_nodup⟩
    · intro other assigned waiting
      exact invariant.assigned_recycled assigned ((queued other).mp waiting).2
    · exact List.disjoint_cons_right.mpr ⟨unassigned, invariant.assigned_reserved⟩
    · intro other waiting taken
      obtain ⟨different, waiting⟩ := (queued other).mp waiting
      rcases List.mem_cons.mp taken with same | taken
      · exact different same
      · exact invariant.recycled_reserved waiting taken
    · exact invariant.assigned_visited
    · intro other waiting
      exact invariant.recycled_visited other ((queued other).mp waiting).2
    · intro other taken
      rcases List.mem_cons.mp taken with rfl | taken
      · exact inside
      · exact invariant.reserved_inside other taken
    · intro other visited
      by_cases same : other = address
      · exact Or.inr (Or.inr (List.mem_cons.mpr (Or.inl same)))
      · rcases invariant.accounted other visited with assigned | waiting | taken
        · exact Or.inl assigned
        · exact Or.inr (Or.inl ((queued other).mpr ⟨same, waiting⟩))
        · exact Or.inr (Or.inr (List.mem_cons_of_mem _ taken))

/-- An address that is put back moves from the leases to the queue. -/
theorem putBack {pool : Pool} (invariant : pool.Invariant) (address : Address) :
    (pool.putBack address).state.Invariant := by
  by_cases assigned : address ∈ pool.assigned
  · rw [putBack_of_assigned assigned]
    have leased (other : Address) : other ∈ pool.assigned.erase address ↔
        other ≠ address ∧ other ∈ pool.assigned := invariant.assigned_nodup.mem_erase_iff
    have queued (other : Address) : other ∈ pool.recycled ++ [address] ↔
        other ∈ pool.recycled ∨ other = address := by simp
    have unqueued : address ∉ pool.recycled := fun waiting =>
      invariant.assigned_recycled assigned waiting
    constructor
    · exact ⟨invariant.range.base_le, invariant.range.le_stop⟩
    · exact invariant.assigned_nodup.erase address
    · refine List.nodup_append.mpr ⟨invariant.recycled_nodup, List.nodup_singleton _, ?_⟩
      intro other waiting last isLast same
      rw [List.mem_singleton.mp isLast] at same
      exact unqueued (same ▸ waiting)
    · exact invariant.reserved_nodup
    · intro other stillLeased waiting
      obtain ⟨different, stillLeased⟩ := (leased other).mp stillLeased
      rcases (queued other).mp waiting with waiting | same
      · exact invariant.assigned_recycled stillLeased waiting
      · exact different same
    · intro other stillLeased taken
      exact invariant.assigned_reserved ((leased other).mp stillLeased).2 taken
    · intro other waiting taken
      rcases (queued other).mp waiting with waiting | rfl
      · exact invariant.recycled_reserved waiting taken
      · exact invariant.assigned_reserved assigned taken
    · intro other stillLeased
      exact invariant.assigned_visited other ((leased other).mp stillLeased).2
    · intro other waiting
      rcases (queued other).mp waiting with waiting | rfl
      · exact invariant.recycled_visited other waiting
      · exact invariant.assigned_visited other assigned
    · exact invariant.reserved_inside
    · intro other visited
      by_cases same : other = address
      · exact Or.inr (Or.inl ((queued other).mpr (Or.inr same)))
      · rcases invariant.accounted other visited with stillLeased | waiting | taken
        · exact Or.inl ((leased other).mpr ⟨same, stillLeased⟩)
        · exact Or.inr (Or.inl ((queued other).mpr (Or.inl waiting)))
        · exact Or.inr (Or.inr taken)
  · rw [putBack_of_unassigned assigned]
    exact invariant

theorem located {pool : Pool} (invariant : pool.Invariant) {address : Address}
    (inside : address ∈ pool.block.members) :
    address ∈ pool.assigned ∨ address ∈ pool.recycled ∨ address ∈ pool.reserved ∨
      address ∈ pool.fresh := by
  by_cases passed : address.value < pool.cursor
  · rcases invariant.accounted address ⟨inside, passed⟩ with assigned | waiting | taken
    · exact Or.inl assigned
    · exact Or.inr (Or.inl waiting)
    · exact Or.inr (Or.inr (Or.inl taken))
  · exact Or.inr (Or.inr (reserved_or_fresh inside (Nat.not_lt.mp passed)))

/-- A leased address is not reserved, and the members that the cursor passes on the way
to it are. -/
theorem lease {pool : Pool} (invariant : pool.Invariant) : pool.lease.state.Invariant := by
  rcases lease_cases invariant.range with ⟨address, waiting, queued, leased⟩ |
    ⟨address, idle, isFresh, isNext, leased⟩ | ⟨idle, gone, refused⟩
  · have inQueue (other : Address) :
        other ∈ pool.recycled ↔ other = address ∨ other ∈ waiting := by
      rw [queued, List.mem_cons]
    have first : address ∈ pool.recycled := (inQueue address).mpr (Or.inl rfl)
    have stays {other : Address} (later : other ∈ waiting) : other ∈ pool.recycled :=
      (inQueue other).mpr (Or.inr later)
    have distinct := invariant.recycled_nodup
    rw [queued, List.nodup_cons] at distinct
    rw [leased]
    constructor
    · exact ⟨invariant.range.base_le, invariant.range.le_stop⟩
    · refine List.nodup_cons.mpr ⟨?_, invariant.assigned_nodup⟩
      intro assigned
      exact invariant.assigned_recycled assigned first
    · exact distinct.2
    · exact invariant.reserved_nodup
    · intro other assigned later
      rcases List.mem_cons.mp assigned with rfl | assigned
      · exact distinct.1 later
      · exact invariant.assigned_recycled assigned (stays later)
    · intro other assigned taken
      rcases List.mem_cons.mp assigned with rfl | assigned
      · exact invariant.recycled_reserved first taken
      · exact invariant.assigned_reserved assigned taken
    · intro other later taken
      exact invariant.recycled_reserved (stays later) taken
    · intro other assigned
      rcases List.mem_cons.mp assigned with rfl | assigned
      · exact invariant.recycled_visited other first
      · exact invariant.assigned_visited other assigned
    · intro other later
      exact invariant.recycled_visited other (stays later)
    · exact invariant.reserved_inside
    · intro other visited
      rcases invariant.accounted other visited with assigned | inside | taken
      · exact Or.inl (List.mem_cons_of_mem _ assigned)
      · rcases (inQueue other).mp inside with rfl | later
        · exact Or.inl List.mem_cons_self
        · exact Or.inr (Or.inl later)
      · exact Or.inr (Or.inr taken)
  · have range := lease_range invariant.range
    obtain ⟨inside, reached, free⟩ := (pool.mem_fresh address).mp isFresh
    rw [leased] at range ⊢
    have unassigned : address ∉ pool.assigned := fun assigned =>
      absurd (invariant.assigned_visited address assigned).2 (Nat.not_lt.mpr reached)
    have noneQueued : ∀ other, other ∉ pool.recycled := by simp [idle]
    constructor
    · exact range
    · exact List.nodup_cons.mpr ⟨unassigned, invariant.assigned_nodup⟩
    · exact invariant.recycled_nodup
    · exact invariant.reserved_nodup
    · intro other _ later
      exact noneQueued other later
    · intro other assigned taken
      rcases List.mem_cons.mp assigned with rfl | assigned
      · exact free taken
      · exact invariant.assigned_reserved assigned taken
    · exact invariant.recycled_reserved
    · intro other assigned
      rcases List.mem_cons.mp assigned with rfl | assigned
      · exact ⟨inside, Nat.lt_succ_self _⟩
      · have visited := invariant.assigned_visited other assigned
        exact ⟨visited.1, Nat.lt_succ_of_lt (Nat.lt_of_lt_of_le visited.2 reached)⟩
    · intro other later
      exact absurd later (noneQueued other)
    · exact invariant.reserved_inside
    · intro other visited
      rcases invariant.located visited.1 with assigned | later | taken | otherFresh
      · exact Or.inl (List.mem_cons_of_mem _ assigned)
      · exact absurd later (noneQueued other)
      · exact Or.inr (Or.inr taken)
      · rw [isNext, List.mem_cons, mem_fresh] at otherFresh
        rcases otherFresh with rfl | ⟨_, behind, _⟩
        · exact Or.inl List.mem_cons_self
        · exact absurd visited.2 (Nat.not_lt.mpr behind)
  · have range := lease_range invariant.range
    rw [refused] at range ⊢
    have later {other : Address} (visited : pool.Visited other) :
        Visited { pool with cursor := pool.block.stop } other :=
      ⟨visited.1, Nat.lt_of_lt_of_le visited.2 invariant.range.le_stop⟩
    refine { invariant with
      range := range
      assigned_visited := fun other assigned => later (invariant.assigned_visited other assigned)
      recycled_visited := fun other waiting => later (invariant.recycled_visited other waiting)
      accounted := ?_ }
    intro other visited
    rcases invariant.located visited.1 with assigned | waiting | taken | otherFresh
    · exact Or.inl assigned
    · exact Or.inr (Or.inl waiting)
    · exact Or.inr (Or.inr taken)
    · rw [gone] at otherFresh
      exact absurd otherFresh List.not_mem_nil

theorem reserveAll {pool : Pool} (invariant : pool.Invariant) (addresses : List Address) :
    (pool.reserveAll addresses).1.Invariant := by
  induction addresses generalizing pool with
  | nil => exact invariant
  | cons address addresses ih => exact ih (invariant.reserve address)

theorem call {pool : Pool} (invariant : pool.Invariant) (call : Call) :
    (pool.call call).state.Invariant :=
  call_keeps (fun _ => Invariant.lease) (fun _ address holds => holds.putBack address)
    (fun _ address holds => holds.reserve address) invariant call

theorem after {pool : Pool} (invariant : pool.Invariant) (calls : List Call) :
    (pool.after calls).Invariant :=
  after_keeps (fun _ call holds => holds.call call) invariant calls

end Invariant

theorem ofBlock_invariant (block : Block) : (ofBlock block).Invariant := by
  unfold ofBlock create
  cases block.subnet with
  | none => exact untouched_invariant block
  | some subnet => exact (untouched_invariant block).reserveAll (structural subnet)

@[simp]
theorem reserve_block (pool : Pool) (address : Address) :
    (pool.reserve address).state.block = pool.block := by
  rcases reserve_cases pool address with ⟨cause, refused⟩ | ⟨inside, unassigned, unreserved⟩
  · rw [refused]
  · rw [reserve_of_free inside unassigned unreserved]

@[simp]
theorem putBack_block (pool : Pool) (address : Address) :
    (pool.putBack address).state.block = pool.block := by
  by_cases assigned : address ∈ pool.assigned
  · rw [putBack_of_assigned assigned]
  · rw [putBack_of_unassigned assigned]

theorem reserveAll_block (pool : Pool) (addresses : List Address) :
    (pool.reserveAll addresses).1.block = pool.block := by
  induction addresses generalizing pool with
  | nil => rfl
  | cons address addresses ih => exact (ih _).trans (pool.reserve_block address)

@[simp]
theorem ofBlock_block (block : Block) : (ofBlock block).block = block := by
  unfold ofBlock create
  cases block.subnet with
  | none => rfl
  | some subnet => exact reserveAll_block _ _

@[simp]
theorem call_block (pool : Pool) (call : Call) : (pool.call call).state.block = pool.block :=
  call_keeps (motive := fun after => after.block = pool.block)
    (fun before same => (lease_block before).trans same)
    (fun before address same => (putBack_block before address).trans same)
    (fun before address same => (reserve_block before address).trans same) rfl call

@[simp]
theorem after_block (pool : Pool) (calls : List Call) : (pool.after calls).block = pool.block :=
  after_keeps (motive := fun after => after.block = pool.block)
    (fun before call same => (call_block before call).trans same) rfl calls

theorem reserve_assigned (pool : Pool) (address : Address) :
    (pool.reserve address).state.assigned = pool.assigned := by
  rcases reserve_cases pool address with ⟨cause, refused⟩ | ⟨inside, unassigned, unreserved⟩
  · rw [refused]
  · rw [reserve_of_free inside unassigned unreserved]

/-- A call leases an address, takes one back or leaves the leases as they are. -/
theorem call_assigned {pool : Pool} (range : pool.CursorInRange) (call : Call) :
    (∃ address, call = .lease ∧ (pool.call call).answer = .ok (.address address) ∧
        (pool.call call).state.assigned = address :: pool.assigned) ∨
      (∃ argument address, call = .putBack argument ∧ argument.read = .ok address ∧
        (pool.call call).answer = .ok .done ∧ address ∈ pool.assigned ∧
        (pool.call call).state.assigned = pool.assigned.erase address) ∨
      ((pool.call call).state.assigned = pool.assigned ∧
        ((∃ cause, (pool.call call).answer = .error cause) ∨
          ∃ argument, call = .reserve argument)) := by
  cases call with
  | lease =>
      have assigned := lease_assigned range
      have answer := lease_answer range
      cases order : pool.future with
      | nil =>
          simp only [order] at answer assigned
          refine Or.inr (Or.inr ⟨assigned, Or.inl ⟨.exhausted pool.block, ?_⟩⟩)
          exact congrArg (Except.map Answer.address) answer
      | cons address rest =>
          simp only [order] at answer assigned
          refine Or.inl ⟨address, rfl, ?_, assigned⟩
          exact congrArg (Except.map Answer.address) answer
  | putBack argument =>
      right
      cases read : argument.read with
      | error cause =>
          have refused : pool.call (.putBack argument) = ⟨.error cause, pool, []⟩ := by
            simp only [Pool.call, onArgument, read]
          rw [refused]
          exact Or.inr ⟨rfl, Or.inl ⟨cause, rfl⟩⟩
      | ok address =>
          by_cases assigned : address ∈ pool.assigned
          · left
            refine ⟨argument, address, rfl, read, ?_, assigned, ?_⟩
            · simp only [Pool.call, onArgument, read, putBack_of_assigned assigned, Except.map]
            · simp only [Pool.call, onArgument, read, putBack_of_assigned assigned]
          · have refused : pool.call (.putBack argument) =
                ⟨.error (.notAssigned address), pool, []⟩ := by
              simp only [Pool.call, onArgument, read, putBack_of_unassigned assigned, Except.map]
            rw [refused]
            exact Or.inr ⟨rfl, Or.inl ⟨_, rfl⟩⟩
  | reserve argument =>
      refine Or.inr (Or.inr ⟨?_, Or.inr ⟨argument, rfl⟩⟩)
      refine onArgument_keeps (motive := fun after => after.assigned = pool.assigned)
        argument rfl ?_
      exact pool.reserve_assigned

theorem reserveAll_assigned (pool : Pool) (addresses : List Address) :
    (pool.reserveAll addresses).1.assigned = pool.assigned := by
  induction addresses generalizing pool with
  | nil => rfl
  | cons address addresses ih => exact (ih _).trans (pool.reserve_assigned address)

@[simp]
theorem ofBlock_assigned (block : Block) : (ofBlock block).assigned = [] := by
  unfold ofBlock create
  cases block.subnet with
  | none => rfl
  | some subnet => exact reserveAll_assigned _ _

/-- After every run of calls the members that the cursor has passed are exactly the
assigned ones, the recycled ones and those reserved below the cursor, and no address
is in two places. -/
theorem after_partition (subnet : Subnet) (limit : Int) (calls : List Call) :
    let pool := (ofBlock ⟨some subnet, limit⟩).after calls
    (pool.assigned.Disjoint pool.recycled ∧ pool.assigned.Disjoint pool.reserved ∧
        pool.recycled.Disjoint pool.reserved ∧
        pool.assigned.Nodup ∧ pool.recycled.Nodup ∧ pool.reserved.Nodup) ∧
      ((∀ address, address ∈ pool.assigned ∨ address ∈ pool.recycled →
          address.zone = none ∧ address.family = subnet.family ∧
            pool.block.contains address = true) ∧
        ∀ address ∈ pool.reserved, pool.block.contains address = true) ∧
      (subnet.base ≤ pool.cursor ∧ pool.cursor ≤ subnet.base + subnet.size) ∧
      ∀ address : Address,
        (address.zone = none ∧ address.family = subnet.family ∧
            subnet.base ≤ address.value ∧ address.value < pool.cursor) ↔
          (address ∈ pool.assigned ∨ address ∈ pool.recycled ∨
            (address ∈ pool.reserved ∧ address.zone = none ∧
              address.value < pool.cursor)) := by
  intro pool
  have invariant : pool.Invariant := (ofBlock_invariant _).after calls
  have block : pool.block = ⟨some subnet, limit⟩ := by
    rw [after_block, ofBlock_block]
  have contains_iff (address : Address) : pool.block.contains address = true ↔
      address.family = subnet.family ∧ subnet.base ≤ address.value ∧
        address.value < subnet.stop := by
    rw [block]
    exact subnet.contains_iff address
  have range : subnet.base ≤ pool.cursor ∧ pool.cursor ≤ subnet.stop := by
    have inRange := invariant.range
    exact ⟨by simpa [block, Block.base] using inRange.base_le,
      by simpa [block, Block.stop] using inRange.le_stop⟩
  have visited_iff (address : Address) : pool.Visited address ↔
      (address.zone = none ∧ address.family = subnet.family ∧
        subnet.base ≤ address.value ∧ address.value < pool.cursor) := by
    rw [Visited, Block.mem_members, contains_iff]
    constructor
    · rintro ⟨⟨⟨family, lower, _⟩, zone⟩, passed⟩
      exact ⟨zone, family, lower, passed⟩
    · rintro ⟨zone, family, lower, passed⟩
      exact ⟨⟨⟨family, lower, Nat.lt_of_lt_of_le passed range.2⟩, zone⟩, passed⟩
  have movable (address : Address)
      (held : address ∈ pool.assigned ∨ address ∈ pool.recycled) : pool.Visited address := by
    rcases held with assigned | waiting
    · exact invariant.assigned_visited address assigned
    · exact invariant.recycled_visited address waiting
  refine ⟨⟨invariant.assigned_recycled, invariant.assigned_reserved,
    invariant.recycled_reserved, invariant.assigned_nodup, invariant.recycled_nodup,
    invariant.reserved_nodup⟩, ⟨?_, invariant.reserved_inside⟩, range, ?_⟩
  · intro address held
    have inside := (pool.block.mem_members address).mp (movable address held).1
    exact ⟨inside.2, ((contains_iff address).mp inside.1).1, inside.1⟩
  · intro address
    rw [← visited_iff]
    constructor
    · intro visited
      have zone := ((visited_iff address).mp visited).1
      rcases invariant.accounted address visited with assigned | waiting | taken
      · exact Or.inl assigned
      · exact Or.inr (Or.inl waiting)
      · exact Or.inr (Or.inr ⟨taken, zone, visited.2⟩)
    · rintro (assigned | waiting | ⟨taken, zone, passed⟩)
      · exact movable address (Or.inl assigned)
      · exact movable address (Or.inr waiting)
      · have inside := invariant.reserved_inside address taken
        exact ⟨(pool.block.mem_members address).mpr ⟨inside, zone⟩, passed⟩

end Pool

end TunnelLease

import TunnelLease.Pool.Basic
import TunnelLease.Proofs.Block.Members

/-!
# The future of a pool

A pool's future is the list of the addresses that it can still lease, in the order
in which it will lease them: first those that wait to be leased again, then the
members of the block that the cursor has not passed and that are not reserved.
Leasing takes the head of the future and leaves its tail, and a pool without a
future refuses.
-/

namespace TunnelLease

namespace Pool

/-- The members of the block from the cursor on that are not reserved. -/
def fresh (pool : Pool) : List Address :=
  pool.block.members.filter fun address =>
    pool.cursor ≤ address.value ∧ address ∉ pool.reserved

/-- The addresses that the pool can still lease, in the order of leasing. -/
def future (pool : Pool) : List Address :=
  pool.recycled ++ pool.fresh

/-- The cursor stands in the block or right behind it. -/
structure CursorInRange (pool : Pool) : Prop where
  base_le : pool.block.base ≤ pool.cursor
  le_stop : pool.cursor ≤ pool.block.stop

theorem mem_fresh (pool : Pool) (address : Address) :
    address ∈ pool.fresh ↔
      address ∈ pool.block.members ∧ pool.cursor ≤ address.value ∧ address ∉ pool.reserved := by
  simp [fresh]

theorem reserved_or_fresh {pool : Pool} {address : Address}
    (inside : address ∈ pool.block.members) (reached : pool.cursor ≤ address.value) :
    address ∈ pool.reserved ∨ address ∈ pool.fresh := by
  by_cases taken : address ∈ pool.reserved
  · exact Or.inl taken
  · exact Or.inr ((pool.mem_fresh address).mpr ⟨inside, reached, taken⟩)

theorem fresh_ascending (pool : Pool) : Ascending pool.fresh :=
  pool.block.members_ascending.filter _

/-- If the next address is not reserved and all members up to it are, it is the first
of the fresh ones. -/
theorem fresh_eq_cons {pool : Pool} {next : Address} (isFresh : next ∈ pool.fresh)
    (skipped : ∀ address ∈ pool.block.members, pool.cursor ≤ address.value →
      address.value < next.value → address ∈ pool.reserved) :
    pool.fresh = next :: fresh { pool with cursor := next.value + 1 } := by
  have member := (pool.mem_fresh next).mp isFresh
  have tailAscending := fresh_ascending { pool with cursor := next.value + 1 }
  have ascending : Ascending (next :: fresh { pool with cursor := next.value + 1 }) := by
    refine List.pairwise_cons.mpr ⟨?_, tailAscending⟩
    intro later laterFresh
    exact ((mem_fresh _ later).mp laterFresh).2.1
  apply pool.fresh_ascending.eq_of_mem_iff ascending
  intro address
  rw [List.mem_cons, mem_fresh, mem_fresh]
  constructor
  · rintro ⟨inside, reached, free⟩
    rcases Nat.lt_trichotomy address.value next.value with before | same | behind
    · exact absurd (skipped address inside reached before) free
    · left
      exact Block.eq_of_value_eq inside member.1 same
    · exact Or.inr ⟨inside, behind, free⟩
  · rintro (rfl | ⟨inside, behind, free⟩)
    · exact member
    · have reached := member.2.1
      simp only at inside behind free
      exact ⟨inside, by omega, free⟩

/-- The search for the next address skips reserved members only, and either ends at
one that is not reserved or leaves the subnet. -/
theorem nextFresh_cases (subnet : Subnet) (reserved : List Address) (cursor : Nat)
    (base_le : subnet.base ≤ cursor) (le_stop : cursor ≤ subnet.stop) :
    (∃ address ∈ subnet.members,
        nextFresh subnet reserved cursor = (some address, address.value + 1) ∧
        cursor ≤ address.value ∧ address ∉ reserved ∧
        ∀ other ∈ subnet.members, cursor ≤ other.value → other.value < address.value →
          other ∈ reserved) ∨
      (nextFresh subnet reserved cursor = (none, subnet.stop) ∧
        ∀ other ∈ subnet.members, cursor ≤ other.value → other ∈ reserved) := by
  fun_induction nextFresh subnet reserved cursor with
  | case1 cursor below candidate isReserved search =>
      have skip (other : Address) (inside : other ∈ subnet.members)
          (reached : cursor ≤ other.value) : other ∈ reserved ∨ cursor + 1 ≤ other.value := by
        rcases Nat.eq_or_lt_of_le reached with same | behind
        · left
          have atCursor := Subnet.member_mem_members base_le below
          rw [Subnet.eq_of_value_eq inside atCursor same.symm]
          exact isReserved
        · exact Or.inr behind
      rcases search (by omega) below with
        ⟨address, inside, found, reached, free, skipped⟩ | ⟨left, skipped⟩
      · left
        refine ⟨address, inside, found, by omega, free, ?_⟩
        intro other otherInside otherReached before
        rcases skip other otherInside otherReached with taken | behind
        · exact taken
        · exact skipped other otherInside behind before
      · right
        refine ⟨left, ?_⟩
        intro other otherInside otherReached
        rcases skip other otherInside otherReached with taken | behind
        · exact taken
        · exact skipped other otherInside behind
  | case2 cursor below candidate isFree =>
      left
      refine ⟨candidate, Subnet.member_mem_members base_le below, rfl, Nat.le_refl cursor,
        isFree, ?_⟩
      intro other _ reached before
      exact absurd before (Nat.not_lt.mpr reached)
  | case3 cursor beyond =>
      right
      have atStop : cursor = subnet.stop := by omega
      refine ⟨by rw [atStop], ?_⟩
      intro other inside reached
      have bounds := ((subnet.contains_iff other).mp ((subnet.mem_members other).mp inside).1).2
      omega

theorem fresh_at_stop (pool : Pool) : fresh { pool with cursor := pool.block.stop } = [] := by
  apply List.eq_nil_iff_forall_not_mem.mpr
  intro address isFresh
  obtain ⟨inside, reached, _⟩ := (mem_fresh _ address).mp isFresh
  simp only at inside reached
  have below :=
    (Block.bounds_of_contains ((pool.block.mem_members address).mp inside).1).2
  omega

theorem lease_of_recycled {pool : Pool} {address : Address} {waiting : List Address}
    (queued : pool.recycled = address :: waiting) :
    pool.lease = leaseReply { pool with recycled := waiting } address := by
  unfold lease
  split
  next first others found =>
    rw [queued] at found
    cases found
    rfl
  next idle =>
    rw [queued] at idle
    cases idle

theorem lease_of_unconfigured {pool : Pool} (idle : pool.recycled = [])
    (unconfigured : pool.block.subnet = none) : pool.lease = dryReply pool := by
  unfold lease
  split
  next first others found =>
    rw [idle] at found
    cases found
  next =>
    split
    next => rfl
    next subnet configured =>
      rw [unconfigured] at configured
      cases configured

theorem lease_of_subnet {pool : Pool} {subnet : Subnet} (idle : pool.recycled = [])
    (configured : pool.block.subnet = some subnet) :
    pool.lease = match nextFresh subnet pool.reserved pool.cursor with
      | (some address, cursor) => leaseReply { pool with cursor := cursor } address
      | (none, cursor) => dryReply { pool with cursor := cursor } := by
  unfold lease
  split
  next first others found =>
    rw [idle] at found
    cases found
  next =>
    split
    next unconfigured =>
      rw [configured] at unconfigured
      cases unconfigured
    next other found =>
      rw [configured] at found
      cases found
      rfl

/-- What leasing does: it hands out the first address that waits, or else the first
fresh one, or else refuses with the cursor behind the block. -/
theorem lease_cases {pool : Pool} (range : pool.CursorInRange) :
    (∃ address waiting, pool.recycled = address :: waiting ∧
        pool.lease = leaseReply { pool with recycled := waiting } address) ∨
      (∃ address, pool.recycled = [] ∧ address ∈ pool.fresh ∧
        pool.fresh = address :: fresh { pool with cursor := address.value + 1 } ∧
        pool.lease = leaseReply { pool with cursor := address.value + 1 } address) ∨
      (pool.recycled = [] ∧ pool.fresh = [] ∧
        pool.lease = dryReply { pool with cursor := pool.block.stop }) := by
  obtain ⟨base_le, le_stop⟩ := range
  by_cases idle : pool.recycled = []
  · right
    cases configured : pool.block.subnet with
    | none =>
        right
        have atStop : pool.block.stop = pool.cursor := by
          unfold Block.stop at le_stop ⊢
          simp only [configured] at le_stop ⊢
          omega
        refine ⟨idle, by simp [fresh, Block.members, configured], ?_⟩
        rw [lease_of_unconfigured idle configured, atStop]
    | some subnet =>
        have members : pool.block.members = subnet.members := by
          simp [Block.members, configured]
        have stop : pool.block.stop = subnet.stop := by
          simp [Block.stop, configured]
        have base : pool.block.base = subnet.base := by
          simp [Block.base, configured]
        have leased := lease_of_subnet idle configured
        rw [base] at base_le
        rw [stop] at le_stop
        rcases nextFresh_cases subnet pool.reserved pool.cursor base_le le_stop with
          ⟨address, inside, found, reached, free, skipped⟩ | ⟨left, skipped⟩
        · left
          rw [← members] at inside skipped
          have isFresh := (pool.mem_fresh address).mpr ⟨inside, reached, free⟩
          rw [found] at leased
          exact ⟨address, idle, isFresh, fresh_eq_cons isFresh skipped, leased⟩
        · right
          rw [left, ← stop] at leased
          refine ⟨idle, ?_, leased⟩
          apply List.eq_nil_iff_forall_not_mem.mpr
          intro address isFresh
          obtain ⟨inside, reached, free⟩ := (pool.mem_fresh address).mp isFresh
          rw [members] at inside
          exact free (skipped address inside reached)
  · obtain ⟨address, waiting, queued⟩ := List.exists_cons_of_ne_nil idle
    exact Or.inl ⟨address, waiting, queued, lease_of_recycled queued⟩

@[simp]
theorem lease_block (pool : Pool) : pool.lease.state.block = pool.block := by
  unfold lease
  split
  · rfl
  · split
    · rfl
    · split <;> rfl

@[simp]
theorem lease_reserved (pool : Pool) : pool.lease.state.reserved = pool.reserved := by
  unfold lease
  split
  · rfl
  · split
    · rfl
    · split <;> rfl

theorem lease_recycled (pool : Pool) : pool.lease.state.recycled = pool.recycled.tail := by
  unfold lease
  split
  next waiting => rw [waiting]; rfl
  next waiting =>
    split
    · simp [dryReply, waiting]
    · split <;> simp [leaseReply, dryReply, waiting]

theorem lease_range {pool : Pool} (range : pool.CursorInRange) :
    pool.lease.state.CursorInRange := by
  rcases lease_cases range with ⟨address, waiting, _, leased⟩ | ⟨address, _, isFresh, _, leased⟩ |
    ⟨_, _, refused⟩
  · rw [leased]
    exact ⟨range.base_le, range.le_stop⟩
  · rw [leased]
    obtain ⟨inside, reached, _⟩ := (pool.mem_fresh address).mp isFresh
    have bounds := Block.bounds_of_contains ((pool.block.mem_members address).mp inside).1
    exact ⟨Nat.le_succ_of_le bounds.1, bounds.2⟩
  · rw [refused]
    exact ⟨pool.block.base_le_stop, Nat.le_refl _⟩

/-- Leasing answers with the head of the future, and refuses only without one. -/
theorem lease_answer {pool : Pool} (range : pool.CursorInRange) :
    pool.lease.answer = match pool.future with
      | [] => .error (.exhausted pool.block)
      | address :: _ => .ok address := by
  rcases lease_cases range with ⟨address, waiting, queued, leased⟩ |
    ⟨address, idle, _, isNext, leased⟩ | ⟨idle, gone, refused⟩
  · simp [leased, leaseReply, future, queued]
  · simp [leased, leaseReply, future, idle, isNext]
  · simp [refused, dryReply, future, idle, gone]

theorem lease_assigned {pool : Pool} (range : pool.CursorInRange) :
    pool.lease.state.assigned = pool.future.head?.toList ++ pool.assigned := by
  rcases lease_cases range with ⟨address, waiting, queued, leased⟩ |
    ⟨address, idle, _, isNext, leased⟩ | ⟨idle, gone, refused⟩
  · simp [leased, leaseReply, future, queued]
  · simp [leased, leaseReply, future, idle, isNext]
  · simp [refused, dryReply, future, idle, gone]

/-- The fresh addresses are leased only while none waits. -/
theorem lease_fresh {pool : Pool} (range : pool.CursorInRange) :
    pool.lease.state.fresh = pool.fresh.drop (1 - pool.recycled.length) := by
  rcases lease_cases range with ⟨address, waiting, queued, leased⟩ |
    ⟨address, idle, _, isNext, leased⟩ | ⟨idle, gone, refused⟩
  · simp [leased, leaseReply, fresh, queued]
  · rw [leased, idle, isNext]
    rfl
  · rw [refused, gone, List.drop_nil]
    exact pool.fresh_at_stop

theorem lease_future {pool : Pool} (range : pool.CursorInRange) :
    pool.lease.state.future = pool.future.tail := by
  rw [future, lease_recycled, lease_fresh range, future]
  cases pool.recycled with
  | nil => simp
  | cons address waiting => simp

end Pool

end TunnelLease

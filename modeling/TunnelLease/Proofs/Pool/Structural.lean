import TunnelLease.Proofs.Pool.Invariant

/-!
# The structural addresses of a pool

A new pool has reserved its subnet's own address, the network address and, in the
narrower family, the broadcast address, which is the last one of the subnet.  The
network address may carry the zone that was written, but then its value is the subnet's
own, and the own address is reserved without a zone.  So no member of the block that
is left to lease has the value of a structural address.
-/

namespace TunnelLease

namespace Subnet

theorem hostMask_eq (subnet : Subnet) :
    subnet.family.allOnes ^^^ subnet.mask = subnet.size - 1 := by
  have fits : subnet.length ≤ subnet.family.width := subnet.length_le
  rw [mask, Family.mask, ← Nat.xor_assoc, Nat.xor_self, Nat.zero_xor]
  apply Nat.eq_of_testBit_eq
  intro bit
  have below : subnet.length + bit < subnet.family.width ↔
      bit < subnet.family.width - subnet.length := by omega
  simp [Family.allOnes, Family.size, Nat.testBit_shiftRight, Nat.testBit_two_pow_sub_one, size,
    hostBits, Nat.shiftLeft_eq, below]

theorem lastValue_eq (subnet : Subnet) :
    subnet.lastValue = subnet.base + (subnet.size - 1) := by
  have small : subnet.size - 1 < 2 ^ subnet.hostBits := by
    have positive := subnet.size_pos
    have size : subnet.size = 2 ^ subnet.hostBits := by
      rw [size, Nat.shiftLeft_eq, Nat.one_mul]
    omega
  have sum := Nat.two_pow_add_eq_or_of_lt small (subnet.written.value / subnet.size)
  have base : 2 ^ subnet.hostBits * (subnet.written.value / subnet.size) = subnet.base := by
    rw [base_eq, size, Nat.shiftLeft_eq, Nat.one_mul, Nat.mul_comm]
  rw [base] at sum
  rw [lastValue, hostMask_eq, sum]

theorem contains_own (subnet : Subnet) : subnet.contains subnet.own = true := by
  simp [contains, own, Address.withoutZone, family, base]

theorem contains_network (subnet : Subnet) : subnet.contains subnet.network = true := by
  have cleared : subnet.base &&& subnet.mask = subnet.base := by
    rw [base, Nat.and_assoc, Nat.and_self]
  unfold network
  split
  · exact subnet.contains_own
  · simp [contains, cleared]

theorem contains_broadcast (subnet : Subnet) : subnet.contains subnet.broadcast = true := by
  unfold broadcast
  split
  · exact subnet.contains_own
  · have positive := subnet.size_pos
    refine (subnet.contains_iff _).mpr ⟨rfl, ?_⟩
    change subnet.base ≤ subnet.lastValue ∧ subnet.lastValue < subnet.base + subnet.size
    rw [lastValue_eq]
    omega

/-- The address is one of those that a pool of the subnet must never lease. -/
def IsStructural (subnet : Subnet) (address : Address) : Prop :=
  address = subnet.own ∨ address = subnet.network ∨
    (subnet.family = .v4 ∧ address = subnet.broadcast)

instance (subnet : Subnet) (address : Address) : Decidable (subnet.IsStructural address) :=
  inferInstanceAs (Decidable (_ ∨ _ ∨ _ ∧ _))

theorem mem_structural (subnet : Subnet) (address : Address) :
    address ∈ Pool.structural subnet ↔ subnet.IsStructural address := by
  unfold Pool.structural IsStructural
  split
  next narrow => simp [narrow]
  next wide => simp [wide]

theorem contains_of_isStructural {subnet : Subnet} {address : Address}
    (structural : subnet.IsStructural address) : subnet.contains address = true := by
  rcases structural with rfl | rfl | ⟨_, rfl⟩
  · exact subnet.contains_own
  · exact subnet.contains_network
  · exact subnet.contains_broadcast

/-- A structural address without its zone is structural as well. -/
theorem isStructural_withoutZone {subnet : Subnet} {address : Address}
    (structural : subnet.IsStructural address) : subnet.IsStructural address.withoutZone := by
  rcases structural with rfl | rfl | ⟨narrow, rfl⟩
  · exact Or.inl rfl
  · unfold network
    split
    next => exact Or.inl rfl
    next cleared =>
      refine Or.inr (Or.inl ?_)
      rw [network, if_neg cleared]
      rfl
  · refine Or.inr (Or.inr ⟨narrow, ?_⟩)
    unfold broadcast
    split
    · rfl
    · rfl

/-- A member with the value of a structural address is structural as well. -/
theorem isStructural_of_value_eq {subnet : Subnet} {member structural : Address}
    (isMember : member ∈ subnet.members) (isStructural : subnet.IsStructural structural)
    (same : member.value = structural.value) : subnet.IsStructural member := by
  have plain := isStructural_withoutZone isStructural
  have plainMember : structural.withoutZone ∈ subnet.members :=
    (subnet.mem_members _).mpr ⟨contains_of_isStructural plain, rfl⟩
  rw [eq_of_value_eq isMember plainMember same]
  exact plain

end Subnet

namespace Pool

theorem reserve_of_outside {pool : Pool} {address : Address}
    (outside : pool.block.contains address = false) :
    pool.reserve address = ⟨.error (.outOfRange address pool.block), pool, []⟩ := by
  simp [reserve, outside]

/-- Within the block, only an address in use is not reserved. -/
theorem reserve_of_inside {pool : Pool} {address : Address}
    (inside : pool.block.contains address = true) :
    (pool.reserve address).answer = .ok () ∨
      (pool.reserve address).answer = .error (.inUse address) := by
  by_cases used : address ∈ pool.assigned ∨ address ∈ pool.reserved
  · exact Or.inr (by simp [reserve, inside, used])
  · exact Or.inl (by simp [reserve, inside, used])

/-- An address that is not leased is reserved afterwards if it is of the block. -/
theorem mem_reserve_reserved {pool : Pool} {address : Address}
    (unassigned : address ∉ pool.assigned) (other : Address) :
    other ∈ (pool.reserve address).state.reserved ↔
      (other = address ∧ pool.block.contains other = true) ∨ other ∈ pool.reserved := by
  by_cases inside : pool.block.contains address = true
  · by_cases reserved : address ∈ pool.reserved
    · have refused : pool.reserve address = ⟨.error (.inUse address), pool, []⟩ := by
        simp [reserve, inside, reserved]
      rw [refused, or_iff_right_of_imp]
      rintro ⟨rfl, _⟩
      exact reserved
    · rw [reserve_of_free inside unassigned reserved, List.mem_cons]
      apply or_congr_left
      rw [and_iff_left_of_imp]
      rintro rfl
      exact inside
  · rw [reserve_of_outside (Bool.not_eq_true _ ▸ inside), or_iff_right_of_imp]
    rintro ⟨rfl, isInside⟩
    exact absurd isInside inside

theorem mem_reserveAll_reserved {pool : Pool} {addresses : List Address}
    (unassigned : ∀ address ∈ addresses, address ∉ pool.assigned) (other : Address) :
    other ∈ (pool.reserveAll addresses).1.reserved ↔
      (other ∈ addresses ∧ pool.block.contains other = true) ∨ other ∈ pool.reserved := by
  induction addresses generalizing pool with
  | nil => simp [reserveAll]
  | cons address addresses ih =>
      have first := mem_reserve_reserved (unassigned address List.mem_cons_self) other
      have rest := @ih (pool.reserve address).state fun later member => by
        rw [reserve_assigned]
        exact unassigned later (List.mem_cons_of_mem _ member)
      rw [reserveAll, rest, first, reserve_block, List.mem_cons, or_and_right, or_left_comm,
        or_assoc]

/-- When a pool is opened, a structural address is not reserved only if it is in use: none of
them is outside of the block. -/
theorem reserve_structural {subnet : Subnet} {limit : Int} {earlier later : List Address}
    {address : Address} (split : structural subnet = earlier ++ address :: later) :
    let pool := ((untouched ⟨some subnet, limit⟩).reserveAll earlier).1
    (pool.reserve address).answer = .ok () ∨
      (pool.reserve address).answer = .error (.inUse address) := by
  intro pool
  have member : address ∈ structural subnet := by
    rw [split]
    exact List.mem_append_right _ List.mem_cons_self
  have sameBlock : pool.block = ⟨some subnet, limit⟩ := reserveAll_block _ earlier
  apply reserve_of_inside
  rw [sameBlock]
  exact Subnet.contains_of_isStructural ((subnet.mem_structural address).mp member)

theorem mem_ofBlock_reserved (subnet : Subnet) (limit : Int) (address : Address) :
    address ∈ (ofBlock ⟨some subnet, limit⟩).reserved ↔ subnet.IsStructural address := by
  have reserved := @mem_reserveAll_reserved (untouched ⟨some subnet, limit⟩) (structural subnet)
    (fun _ _ => List.not_mem_nil) address
  change address ∈ ((untouched ⟨some subnet, limit⟩).reserveAll (structural subnet)).1.reserved ↔ _
  rw [reserved, Subnet.mem_structural, or_iff_left (fun none => nomatch none)]
  exact and_iff_left_of_imp Subnet.contains_of_isStructural

theorem reserve_recycled_of_idle {pool : Pool} (idle : pool.recycled = []) (address : Address) :
    (pool.reserve address).state.recycled = [] := by
  rcases reserve_cases pool address with ⟨cause, refused⟩ | ⟨inside, unassigned, unreserved⟩
  · rw [refused]
    exact idle
  · rw [reserve_of_free inside unassigned unreserved, idle]
    rfl

theorem reserve_cursor (pool : Pool) (address : Address) :
    (pool.reserve address).state.cursor = pool.cursor := by
  rcases reserve_cases pool address with ⟨cause, refused⟩ | ⟨inside, unassigned, unreserved⟩
  · rw [refused]
  · rw [reserve_of_free inside unassigned unreserved]

/-- Reservations leave the cursor where it is and cannot fill an empty queue. -/
theorem reserveAll_idle {pool : Pool} (idle : pool.recycled = []) (addresses : List Address) :
    (pool.reserveAll addresses).1.recycled = [] ∧
      (pool.reserveAll addresses).1.cursor = pool.cursor := by
  induction addresses generalizing pool with
  | nil => exact ⟨idle, rfl⟩
  | cons address addresses ih =>
      obtain ⟨stillIdle, sameCursor⟩ := ih (reserve_recycled_of_idle idle address)
      exact ⟨stillIdle, sameCursor.trans (pool.reserve_cursor address)⟩

theorem ofBlock_idle (block : Block) :
    (ofBlock block).recycled = [] ∧ (ofBlock block).cursor = block.base := by
  unfold ofBlock create Block.base
  cases configured : block.subnet with
  | none => simp [untouched, configured]
  | some subnet =>
      have idle := @reserveAll_idle (untouched block) rfl (structural subnet)
      rw [untouched] at idle
      simpa only [untouched, configured] using idle

/-- No member of the block that has not been reserved has the value of a structural
address. -/
theorem value_ne_of_isStructural {subnet : Subnet} {limit : Int} {address : Address}
    (member : address ∈ subnet.members)
    (unreserved : address ∉ (ofBlock ⟨some subnet, limit⟩).reserved) {structural : Address}
    (isStructural : subnet.IsStructural structural) : address.value ≠ structural.value := by
  intro same
  apply unreserved
  rw [mem_ofBlock_reserved]
  exact Subnet.isStructural_of_value_eq member isStructural same

end Pool

end TunnelLease

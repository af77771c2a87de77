import TunnelLease.Proofs.Block.Canonical
import TunnelLease.Proofs.Error.Wording
import TunnelLease.Proofs.Pool.Structural

/-!
# The range of a block

Whether an address belongs to a block is read off its network bits, the size of the block
is a shift, its broadcast address sets the host bits, and its listing counts upwards from
the network address.  All of them describe one range of values, which starts at a multiple
of the size, ends within the family, and has as many values as the size says.  Zones have
no part in it: the listing has none, and an address belongs to the block exactly if without
its zone it is listed.

A block with too many addresses is not listed.  The refusal names the limit, and a limit
far below zero may have no text to be named by.
-/

namespace TunnelLease

namespace Subnet

theorem size_dvd_base (subnet : Subnet) : subnet.size ∣ subnet.base :=
  ⟨subnet.written.value / subnet.size, by rw [base_eq, Nat.mul_comm]⟩

/-- A single address is its own broadcast address, and the last one in any case. -/
theorem broadcast_value (subnet : Subnet) :
    subnet.broadcast.value = subnet.base + subnet.size - 1 := by
  unfold broadcast
  split
  next single =>
    rw [base_eq, single, Nat.div_one, Nat.mul_one]
    rfl
  next =>
    change subnet.lastValue = _
    have positive := subnet.size_pos
    rw [lastValue_eq]
    omega

theorem broadcast_family (subnet : Subnet) : subnet.broadcast.family = subnet.family :=
  ((subnet.contains_iff _).mp subnet.contains_broadcast).1

/-- The members are the addresses of the values of the range, one after the other. -/
theorem map_some_members (subnet : Subnet) :
    subnet.members.map some = (List.range subnet.size).map fun offset =>
      Address.ofValue? subnet.family (subnet.base + offset) := by
  apply List.ext_getElem
  · simp
  · intro offset listed _
    have below : offset < subnet.size := by simpa using listed
    have inFamily : subnet.base + offset < subnet.family.size :=
      Nat.lt_of_lt_of_le (Nat.add_lt_add_left below _) subnet.stop_le
    simp only [members_eq, List.getElem_map, List.getElem_ofFn, List.getElem_range,
      Address.ofValue?, dif_pos inFamily]
    rfl

theorem contains_withoutZone (subnet : Subnet) (address : Address) :
    subnet.contains address.withoutZone = subnet.contains address :=
  rfl

theorem withoutZone_mem_members (subnet : Subnet) (address : Address) :
    address.withoutZone ∈ subnet.members ↔ subnet.contains address = true := by
  rw [mem_members, contains_withoutZone]
  exact and_iff_left rfl

/-- No subnet is so large that its size cannot be named. -/
theorem hasText_size (subnet : Subnet) :
    Template.hasText (.number subnet.size) = true := by
  have widest : subnet.family.size ≤ 2 ^ 128 := by
    cases subnet.family <;> decide
  rw [Template.hasText_number, Int.natAbs_natCast]
  calc subnet.size
    _ ≤ subnet.stop := Nat.le_add_left _ _
    _ ≤ 2 ^ 128 := subnet.stop_le.trans widest
    _ < 10 ^ 39 := by decide
    _ ≤ 10 ^ Text.numeralLimit := Nat.pow_le_pow_right (by decide) (by decide)

end Subnet

namespace Block

/-- A block that was read carries the limit that it was read with. -/
theorem limit_of_read {written : Literal} {limit : Int} {strict : Bool} {block : Block}
    (isRead : read written limit strict = .ok block) : block.limit = limit := by
  cases written with
  | text content =>
      rw [read, ofLiteral] at isRead
      split at isRead
      next => cases isRead
      next found isFound =>
        have sameLimit : found.limit = limit := by
          rcases ofText_eq_ok_iff.mp isFound with ⟨_, rfl⟩ | ⟨subnet, _, rfl⟩ <;> rfl
        split at isRead
        next =>
          rw [checkSize] at isRead
          split at isRead
          next => cases isRead
          next =>
            cases isRead
            exact sameLimit
        next =>
          cases isRead
          exact sameLimit
  | bytes content => cases isRead
  | number value => cases isRead
  | absent => cases isRead

theorem hasText_size (block : Block) : Template.hasText (.number block.size) = true := by
  obtain ⟨_ | subnet, limit⟩ := block
  · exact Template.hasText_number.mpr (Nat.pow_pos (by decide))
  · exact subnet.hasText_size

/-- Listing a block is refused for its size and for nothing else. -/
theorem addresses_eq (block : Block) :
    block.addresses =
      if block.limit < block.size then
        .error (if Template.hasText (.number block.limit) then .tooLarge block.size block.limit
          else .wordless .numeralTooLong)
      else .ok block.members := by
  have raised : (Error.tooLarge block.size block.limit).raised =
      if Template.hasText (.number block.limit) then .tooLarge block.size block.limit
      else .wordless .numeralTooLong := by
    simp [Error.raised, Error.hasWords, Error.arguments, block.hasText_size]
  rw [addresses, checkSize, isOversized, raised]
  by_cases large : block.limit < block.size
  · simp only [large, decide_true, if_true]
    rfl
  · simp only [large, decide_false, Bool.false_eq_true, if_false]
    rfl

/-- All views of a block that was read describe one range of values.  Listing it is refused
exactly if the limit is exceeded, and the refusal names the limit if that has a text. -/
theorem range_agrees {written : Literal} {limit : Int} {strict : Bool} {block : Block}
    {subnet : Subnet} (isRead : read written limit strict = .ok block)
    (configured : block.subnet = some subnet) :
    let net := subnet.network.value
    (block.size ∣ net ∧ net + block.size ≤ 2 ^ subnet.family.width) ∧
      (∀ address, block.contains address = true ↔
        address.family = subnet.family ∧ net ≤ address.value ∧
          address.value < net + block.size) ∧
      block.contains subnet.own = true ∧
      (subnet.family = .v4 → ∃ last, block.broadcast = .ok last ∧ last.family = .v4 ∧
        last.value = net + block.size - 1) ∧
      (∀ cause, block.addresses = .error cause ↔ limit < block.size ∧
        cause = if Template.hasText (.number limit) then .tooLarge block.size limit
          else .wordless .numeralTooLong) ∧
      ((block.size : Int) ≤ limit → ∃ listed, block.addresses = .ok listed ∧
        listed.map some = ((List.range block.size).map fun offset =>
          Address.ofValue? subnet.family (net + offset)) ∧
        ∀ address, block.contains address = true ↔ address.withoutZone ∈ listed) := by
  obtain ⟨found, foundLimit⟩ := block
  cases configured
  cases limit_of_read isRead
  intro net
  have isBase : net = subnet.base := subnet.network_value
  rw [isBase]
  refine ⟨⟨subnet.size_dvd_base, subnet.stop_le⟩, subnet.contains_iff, subnet.contains_own, ?_,
    ?_, ?_⟩
  · intro narrow
    refine ⟨subnet.broadcast, ?_, subnet.broadcast_family.trans narrow, subnet.broadcast_value⟩
    simp [broadcast, narrow]
  · intro cause
    rw [addresses_eq]
    split
    next large =>
      rw [Except.error.injEq, eq_comm]
      exact (and_iff_right large).symm
    next small => simp [small]
  · intro small
    refine ⟨subnet.members, ?_, subnet.map_some_members, ?_⟩
    · rw [addresses_eq, if_neg (not_lt.mpr small)]
      rfl
    · exact fun address => (subnet.withoutZone_mem_members address).symm

/-- The block of the last four addresses of the wider family, written with a zone. -/
def topBlock : Block where
  subnet := some ⟨⟨.v6, 2 ^ 128 - 3, some ⟨"eth0", isZoneName_eth0⟩, by decide, fun _ => rfl⟩, 126,
    by decide⟩
  limit := 4

/-- The block of the last address of the narrower family, which may not be listed. -/
def lastBlock : Block where
  subnet := some ⟨⟨.v4, 2 ^ 32 - 1, none, by decide, Address.unzoned_v6⟩, 32, by decide⟩
  limit := 0

theorem range_agrees_top :
    (∃ listed, read (.text "ffff:ffff:ffff:ffff:ffff:ffff:ffff:fffd%eth0/126") 4 true =
        .ok topBlock ∧ topBlock.addresses = .ok listed ∧
      listed.map some = (List.range 4).map fun offset =>
        Address.ofValue? .v6 (2 ^ 128 - 4 + offset)) ∧
      ∃ last, read (.text "255.255.255.255/32") 0 false = .ok lastBlock ∧
        lastBlock.broadcast = .ok last ∧ last.value = 2 ^ 32 - 1 ∧
        lastBlock.addresses = .error (.tooLarge 1 0) := by
  have isTop : read (.text "ffff:ffff:ffff:ffff:ffff:ffff:ffff:fffd%eth0/126") 4 true =
      .ok topBlock := by
    decide +kernel
  have isLast : read (.text "255.255.255.255/32") 0 false = .ok lastBlock := by
    decide +kernel
  obtain ⟨_, _, _, _, _, lists⟩ := range_agrees isTop rfl
  obtain ⟨listed, isListed, values, _⟩ := lists (by decide)
  obtain ⟨_, _, _, broadcasts, refuses, _⟩ := range_agrees isLast rfl
  obtain ⟨last, isBroadcast, _, value⟩ := broadcasts rfl
  exact ⟨⟨listed, isTop, isListed, values⟩, last, isLast, isBroadcast, value,
    (refuses _).mpr ⟨by decide, rfl⟩⟩

/-- A block over its limit is not refused for its size if the limit has no text. -/
theorem addresses_wordless :
    ∃ block, read (.text "10.0.0.0/30") (-Error.longNumber) false = .ok block ∧
      -Error.longNumber < block.size ∧
      block.addresses = .error (.wordless .numeralTooLong) ∧
      ∀ size limit, block.addresses ≠ .error (.tooLarge size limit) := by
  have four : (Subnet.ofText? "10.0.0.0/30").map Subnet.size = some 4 := by decide +kernel
  obtain ⟨subnet, isSubnet, size⟩ := Option.map_eq_some_iff.mp four
  let block : Block := ⟨some subnet, -Error.longNumber⟩
  have isRead : read (.text "10.0.0.0/30") (-Error.longNumber) false = .ok block :=
    read_text_eq_ok_iff.mpr (ofText_eq_ok_iff.mpr (Or.inr ⟨subnet, isSubnet, rfl⟩))
  have large : block.limit < block.size := by
    have positive : 0 ≤ Error.longNumber := Int.natCast_nonneg _
    have sameSize : block.size = 4 := size
    have sameLimit : block.limit = -Error.longNumber := rfl
    omega
  have noText : Template.hasText (.number block.limit) = false := by
    rw [← Bool.not_eq_true, Template.hasText_number, Int.natAbs_neg, ← Template.hasText_number,
      Error.hasText_longNumber]
    exact Bool.false_ne_true
  have refused : block.addresses = .error (.wordless .numeralTooLong) := by
    rw [addresses_eq, if_pos large, noText]
    rfl
  refine ⟨block, isRead, large, refused, fun size limit same => ?_⟩
  rw [refused] at same
  cases same

end Block

end TunnelLease

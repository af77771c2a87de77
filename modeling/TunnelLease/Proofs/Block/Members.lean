import Mathlib.Data.List.OfFn
import Mathlib.Data.List.Sort
import TunnelLease.Block.Basic

/-!
# The addresses of a block

An address lies in a subnet exactly if it is of the subnet's family and its value
lies between the subnet's bounds.  The members of a block are those of its addresses
that have no zone.  They are listed in ascending order, and an ascending list is
determined by what is in it.
-/

namespace TunnelLease

/-- The values of the addresses grow strictly. -/
def Ascending (addresses : List Address) : Prop :=
  addresses.Pairwise fun first second => first.value < second.value

namespace Ascending

theorem nodup {addresses : List Address} (ascending : Ascending addresses) :
    addresses.Nodup := by
  apply ascending.imp
  intro first second smaller equal
  rw [equal] at smaller
  exact Nat.lt_irrefl _ smaller

theorem filter {addresses : List Address} (ascending : Ascending addresses)
    (keep : Address → Bool) : Ascending (addresses.filter keep) :=
  List.Pairwise.filter keep ascending

/-- Two ascending lists with the same addresses in them are the same. -/
theorem eq_of_mem_iff {first second : List Address} (firstAscending : Ascending first)
    (secondAscending : Ascending second)
    (same : ∀ address, address ∈ first ↔ address ∈ second) : first = second := by
  have permuted : first.Perm second :=
    (List.perm_ext_iff_of_nodup firstAscending.nodup secondAscending.nodup).mpr same
  apply permuted.eq_of_pairwise _ firstAscending secondAscending
  intro lower upper _ _ smaller larger
  exact absurd larger (Nat.lt_asymm smaller)

end Ascending

namespace Subnet

/-- The network bits of a value are the subnet's exactly if the value lies between
the bounds. -/
theorem contains_iff (subnet : Subnet) (address : Address) :
    subnet.contains address = true ↔
      address.family = subnet.family ∧
        subnet.base ≤ address.value ∧ address.value < subnet.stop := by
  simp only [contains, Bool.and_eq_true, decide_eq_true_eq]
  apply and_congr_right
  intro sameFamily
  have fits : subnet.length ≤ address.family.width := by
    rw [sameFamily]
    exact subnet.length_le
  have masked : address.value &&& subnet.mask = address.value / subnet.size * subnet.size := by
    have cleared := and_mask address.value_lt fits
    rw [sameFamily] at cleared
    simpa [mask, size, hostBits, Nat.shiftLeft_eq, Nat.shiftRight_eq_div_pow] using cleared
  have positive := subnet.size_pos
  rw [masked, stop, base_eq]
  constructor
  · intro sameBits
    have remainder := Nat.mod_lt address.value positive
    have split := Nat.div_add_mod' address.value subnet.size
    omega
  · rintro ⟨lower, upper⟩
    have quotient : address.value / subnet.size = subnet.written.value / subnet.size := by
      apply Nat.div_eq_of_lt_le lower
      rw [Nat.succ_mul]
      exact upper
    rw [quotient]

@[simp]
theorem member_family (subnet : Subnet) (value : Nat) (below : value < subnet.stop) :
    (subnet.member value below).family = subnet.family :=
  rfl

@[simp]
theorem member_value (subnet : Subnet) (value : Nat) (below : value < subnet.stop) :
    (subnet.member value below).value = value :=
  rfl

@[simp]
theorem member_zone (subnet : Subnet) (value : Nat) (below : value < subnet.stop) :
    (subnet.member value below).zone = none :=
  rfl

theorem offset_below (subnet : Subnet) (offset : Fin subnet.size) :
    subnet.base + offset < subnet.stop :=
  Nat.add_lt_add_left offset.isLt _

theorem members_eq (subnet : Subnet) :
    subnet.members = List.ofFn fun offset : Fin subnet.size =>
      subnet.member (subnet.base + offset) (subnet.offset_below offset) :=
  rfl

theorem members_ascending (subnet : Subnet) : Ascending subnet.members := by
  rw [Ascending, members_eq, List.pairwise_ofFn]
  intro first second smaller
  simpa using smaller

@[simp]
theorem members_length (subnet : Subnet) : subnet.members.length = subnet.size := by
  rw [members_eq, List.length_ofFn]

/-- The members of a subnet are its addresses without a zone. -/
theorem mem_members (subnet : Subnet) (address : Address) :
    address ∈ subnet.members ↔ subnet.contains address = true ∧ address.zone = none := by
  rw [contains_iff, members_eq, List.mem_ofFn]
  constructor
  · rintro ⟨offset, rfl⟩
    exact ⟨⟨rfl, Nat.le_add_right _ _, subnet.offset_below offset⟩, rfl⟩
  · rintro ⟨⟨family, lower, upper⟩, zone⟩
    have inside : address.value - subnet.base < subnet.size := by
      unfold stop at upper
      omega
    refine ⟨⟨address.value - subnet.base, inside⟩, ?_⟩
    apply Address.ext
    · exact family.symm
    · simp only [member_value]
      omega
    · exact zone.symm

theorem member_mem_members {subnet : Subnet} {value : Nat} (reached : subnet.base ≤ value)
    (below : value < subnet.stop) : subnet.member value below ∈ subnet.members :=
  (subnet.mem_members _).mpr ⟨(subnet.contains_iff _).mpr ⟨rfl, reached, below⟩, rfl⟩

/-- Members are told apart by their values. -/
theorem eq_of_value_eq {subnet : Subnet} {first second : Address}
    (firstMember : first ∈ subnet.members) (secondMember : second ∈ subnet.members)
    (same : first.value = second.value) : first = second := by
  rw [mem_members, contains_iff] at firstMember secondMember
  apply Address.ext
  · exact firstMember.1.1.trans secondMember.1.1.symm
  · exact same
  · exact firstMember.2.trans secondMember.2.symm

end Subnet

namespace Block

/-- The lowest value of the block. -/
def base (block : Block) : Nat :=
  match block.subnet with
  | none => 0
  | some subnet => subnet.base

/-- The first value past the block. -/
def stop (block : Block) : Nat :=
  match block.subnet with
  | none => 0
  | some subnet => subnet.stop

/-- The addresses of the block that have no zone, in ascending order. -/
def members (block : Block) : List Address :=
  match block.subnet with
  | none => []
  | some subnet => subnet.members

theorem base_le_stop (block : Block) : block.base ≤ block.stop := by
  unfold base stop
  cases block.subnet with
  | none => exact Nat.le_refl 0
  | some subnet => exact Nat.le_add_right _ _

theorem members_ascending (block : Block) : Ascending block.members := by
  unfold members
  cases block.subnet with
  | none => exact List.Pairwise.nil
  | some subnet => exact subnet.members_ascending

@[simp]
theorem members_length (block : Block) : block.members.length = block.size := by
  unfold members size
  cases block.subnet with
  | none => rfl
  | some subnet => exact subnet.members_length

theorem mem_members (block : Block) (address : Address) :
    address ∈ block.members ↔ block.contains address = true ∧ address.zone = none := by
  unfold members contains
  cases block.subnet with
  | none => simp
  | some subnet => exact subnet.mem_members address

/-- Members are told apart by their values. -/
theorem eq_of_value_eq {block : Block} {first second : Address}
    (firstMember : first ∈ block.members) (secondMember : second ∈ block.members)
    (same : first.value = second.value) : first = second := by
  unfold members at firstMember secondMember
  cases configured : block.subnet with
  | none => simp [configured] at firstMember
  | some subnet =>
      simp only [configured] at firstMember secondMember
      exact Subnet.eq_of_value_eq firstMember secondMember same

/-- The value of an address of the block lies between the block's bounds. -/
theorem bounds_of_contains {block : Block} {address : Address}
    (inside : block.contains address = true) :
    block.base ≤ address.value ∧ address.value < block.stop := by
  unfold contains at inside
  unfold base stop
  cases configured : block.subnet with
  | none => simp [configured] at inside
  | some subnet =>
      simp only [configured] at inside
      exact ((subnet.contains_iff address).mp inside).2

end Block

end TunnelLease

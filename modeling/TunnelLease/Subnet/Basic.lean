import TunnelLease.Address.Printer

/-!
# Subnets

A subnet is an address together with the number of leading bits that name its
network; the remaining bits number the hosts.  The address is kept as written,
host bits included.  The network address has all host bits cleared and the
broadcast address has them all set.  Main statement: the values from `base` up
to `stop` are values of the family.
-/

namespace TunnelLease

/-- An address and the length of the network part in it. -/
@[ext]
structure Subnet where
  written : Address
  length : Nat
  length_le : length ≤ written.family.width
deriving DecidableEq

namespace Subnet

/-- The family of every address of the subnet. -/
def family (subnet : Subnet) : Family :=
  subnet.written.family

def hostBits (subnet : Subnet) : Nat :=
  subnet.family.width - subnet.length

def size (subnet : Subnet) : Nat :=
  1 <<< subnet.hostBits

def mask (subnet : Subnet) : Nat :=
  subnet.family.mask subnet.length

/-- The lowest value: that of the address with all host bits cleared. -/
def base (subnet : Subnet) : Nat :=
  subnet.written.value &&& subnet.mask

def stop (subnet : Subnet) : Nat :=
  subnet.base + subnet.size

/-- The subnet's own address, without its zone. -/
def own (subnet : Subnet) : Address :=
  subnet.written.withoutZone

theorem base_lt (subnet : Subnet) : subnet.base < subnet.family.size :=
  Nat.lt_of_le_of_lt Nat.and_le_left subnet.written.value_lt

/-- The network address.  It keeps the zone only if no host bit was written. -/
def network (subnet : Subnet) : Address :=
  if subnet.base = subnet.written.value then subnet.written
  else ⟨subnet.family, subnet.base, none, subnet.base_lt, fun zoned => nomatch zoned⟩

def lastValue (subnet : Subnet) : Nat :=
  subnet.base ||| (subnet.family.allOnes ^^^ subnet.mask)

theorem mask_lt (subnet : Subnet) : subnet.mask < subnet.family.size :=
  Nat.xor_lt_two_pow subnet.family.allOnes_lt
    (Nat.lt_of_le_of_lt (Nat.shiftRight_le _ _) subnet.family.allOnes_lt)

theorem lastValue_lt (subnet : Subnet) : subnet.lastValue < subnet.family.size :=
  Nat.or_lt_two_pow subnet.base_lt (Nat.xor_lt_two_pow subnet.family.allOnes_lt subnet.mask_lt)

/-- The address with all host bits set.  A single address is its own. -/
def broadcast (subnet : Subnet) : Address :=
  if subnet.size = 1 then subnet.own
  else ⟨subnet.family, subnet.lastValue, none, subnet.lastValue_lt, fun zoned => nomatch zoned⟩

/-- An address belongs to the subnet if its network bits are the subnet's, whatever
its zone. -/
def contains (subnet : Subnet) (address : Address) : Bool :=
  address.family = subnet.family && address.value &&& subnet.mask = subnet.base

theorem and_mask {family : Family} {value length : Nat} (inRange : value < family.size)
    (fits : length ≤ family.width) :
    value &&& family.mask length =
      (value >>> (family.width - length)) <<< (family.width - length) := by
  apply Nat.eq_of_testBit_eq
  intro bit
  have outside : family.width ≤ bit → value.testBit bit = false := fun high =>
    Nat.testBit_lt_two_pow (Nat.lt_of_lt_of_le inRange (Nat.pow_le_pow_right Nat.two_pos high))
  simp only [Family.mask, Family.allOnes, Family.size, Nat.pow_eq, Nat.testBit_and, Nat.testBit_xor,
    Nat.testBit_two_pow_sub_one, Nat.testBit_shiftRight, Nat.testBit_shiftLeft]
  by_cases high : family.width ≤ bit
  · have past : family.width ≤ family.width - length + (bit - (family.width - length)) := by omega
    rw [outside high, Nat.testBit_lt_two_pow (Nat.lt_of_lt_of_le inRange
      (Nat.pow_le_pow_right Nat.two_pos past))]
    simp
  · by_cases named : family.width - length ≤ bit
    · have same : family.width - length + (bit - (family.width - length)) = bit := by omega
      have below : bit < family.width := by omega
      have shifted : ¬ length + bit < family.width := by omega
      simp [same, below, shifted, named]
    · have below : bit < family.width := by omega
      have shifted : length + bit < family.width := by omega
      simp [below, shifted, named]

/-- The lowest value is a multiple of the size. -/
theorem base_eq (subnet : Subnet) :
    subnet.base = subnet.written.value / subnet.size * subnet.size := by
  have masked := and_mask subnet.written.value_lt subnet.length_le
  simpa [base, mask, family, size, hostBits, Nat.shiftLeft_eq, Nat.shiftRight_eq_div_pow]
    using masked

theorem size_pos (subnet : Subnet) : 0 < subnet.size := by
  rw [size, Nat.shiftLeft_eq, Nat.one_mul]
  exact Nat.two_pow_pos _

/-- The values of a subnet are values of its family. -/
theorem stop_le (subnet : Subnet) : subnet.stop ≤ subnet.family.size := by
  have split : subnet.family.size = 2 ^ subnet.length * subnet.size := by
    have fits : subnet.length ≤ subnet.family.width := subnet.length_le
    rw [Family.size, Nat.pow_eq, size, hostBits, Nat.shiftLeft_eq, Nat.one_mul, ← Nat.pow_add,
      Nat.add_sub_cancel' fits]
  have quotient : subnet.written.value / subnet.size < 2 ^ subnet.length := by
    apply Nat.div_lt_of_lt_mul
    rw [Nat.mul_comm, ← split]
    exact subnet.written.value_lt
  rw [stop, base_eq, split, ← Nat.succ_mul]
  exact Nat.mul_le_mul_right _ quotient

/-- The address of a value of the subnet, without a zone. -/
def member (subnet : Subnet) (value : Nat) (below : value < subnet.stop) : Address where
  family := subnet.family
  value := value
  zone := none
  value_lt := Nat.lt_of_lt_of_le below subnet.stop_le
  zone_v6 := fun zoned => nomatch zoned

/-- Every address of the subnet in ascending order. -/
def members (subnet : Subnet) : List Address :=
  List.ofFn fun offset : Fin subnet.size =>
    subnet.member (subnet.base + offset) (Nat.add_lt_add_left offset.isLt _)

/-- The text of a subnet: its own address without a zone, and the length. -/
def text (subnet : Subnet) : String :=
  s!"{subnet.own.text}/{subnet.length}"

end Subnet

end TunnelLease

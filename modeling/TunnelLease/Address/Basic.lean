/-!
# Addresses

An address is a number of 32 or 128 bits together with its family.  An address
of the wider family may name the zone of the link on which it is valid; two such
addresses are the same only if their zones agree.
-/

namespace TunnelLease

inductive Family where
  | v4
  | v6
deriving DecidableEq, Repr

namespace Family

def width : Family → Nat
  | v4 => 32
  | v6 => 128

/-- The version number by which a family is known. -/
def version : Family → Nat
  | v4 => 4
  | v6 => 6

/-- How many addresses the family has: two to the power of the width. -/
def size (family : Family) : Nat :=
  Nat.pow 2 family.width

def allOnes (family : Family) : Nat :=
  family.size - 1

/-- The bits that name the network when `length` of them do: all but the lowest. -/
def mask (family : Family) (length : Nat) : Nat :=
  family.allOnes ^^^ (family.allOnes >>> length)

theorem allOnes_lt (family : Family) : family.allOnes < family.size :=
  Nat.sub_lt (Nat.two_pow_pos family.width) Nat.one_pos

end Family

/-- A zone's name is not empty and keeps clear of the characters that delimit it. -/
def IsZoneName (name : String) : Prop :=
  name ≠ "" ∧ '%' ∉ name.toList ∧ '/' ∉ name.toList

instance (name : String) : Decidable (IsZoneName name) :=
  inferInstanceAs (Decidable (_ ∧ _ ∧ _))

/-- The zone of an address. -/
@[ext]
structure Zone where
  name : String
  isName : IsZoneName name
deriving DecidableEq

/-- An address of either family. -/
@[ext]
structure Address where
  family : Family
  value : Nat
  zone : Option Zone
  value_lt : value < family.size
  zone_v6 : zone.isSome → family = .v6
deriving DecidableEq

namespace Address

theorem unzoned_v6 {family : Family} (zoned : (none : Option Zone).isSome) : family = .v6 :=
  nomatch zoned

/-- The address with a given value, if the family has it, and without a zone. -/
def ofValue? (family : Family) (value : Nat) : Option Address :=
  if inRange : value < family.size then
    some ⟨family, value, none, inRange, fun zoned => nomatch zoned⟩
  else none

def withoutZone (address : Address) : Address where
  family := address.family
  value := address.value
  zone := none
  value_lt := address.value_lt
  zone_v6 := fun zoned => nomatch zoned

theorem withoutZone_of_unzoned {address : Address} (unzoned : address.zone = none) :
    address.withoutZone = address :=
  Address.ext rfl rfl unzoned.symm

end Address

end TunnelLease

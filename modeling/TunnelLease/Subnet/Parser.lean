import TunnelLease.Address.Parser
import TunnelLease.Subnet.Basic
import TunnelLease.Text.Integer

/-!
# Reading subnets

A subnet is written as an address, a slash and a mask.  The mask is the length of
the network part in decimal.  For the narrower family it may also be four octets:
a netmask, whose set bits all come first, or else a hostmask, whose clear bits
all come first.
-/

namespace TunnelLease

namespace Subnet

/-- Reads a length in decimal: ASCII digits, and not too many of them. -/
def decimalLength? (family : Family) (text : List Char) : Option Nat :=
  if text.isEmpty || !text.all Text.isAsciiDigit || Text.numeralLimit < text.length then none
  else
    let length := Nat.ofDigitChars 10 text 0
    if length ≤ family.width then some length else none

/-- The length whose netmask has a given value. -/
def netmaskLength? (family : Family) (value : Nat) : Option Nat :=
  (List.range (family.width + 1)).find? fun length => family.mask length == value

/-- Reads a netmask, or else a hostmask, of the narrower family. -/
def dottedLength? (text : List Char) : Option Nat := do
  let value ← Address.quad? text
  (netmaskLength? .v4 value).or (netmaskLength? .v4 (value ^^^ Family.allOnes .v4))

/-- Reads the mask of an address of a given family. -/
def length? (family : Family) (text : List Char) : Option Nat :=
  match family with
  | .v4 => (decimalLength? .v4 text).or (dottedLength? text)
  | .v6 => decimalLength? .v6 text

/-- The subnet of an address and a length that its family has. -/
def ofLength? (written : Address) (length : Nat) : Option Subnet :=
  if fits : length ≤ written.family.width then some ⟨written, length, fits⟩ else none

def ofText? (text : String) : Option Subnet :=
  match text.toList.splitOn '/' with
  | [addressText, maskText] => do
      let written ← Address.ofChars? addressText
      let length ← length? written.family maskText
      ofLength? written length
  | _ => none

end Subnet

end TunnelLease

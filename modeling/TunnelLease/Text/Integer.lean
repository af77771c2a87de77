import TunnelLease.Text.Blank
import TunnelLease.Text.DecimalDigit
import TunnelLease.Text.Numeral

/-!
# Integers in text

An integer is an optional sign and decimal digits of any script, between blanks.
Leading zeros are fine, and one underscore may stand between two digits.  A
numeral of more than 4300 digits is refused whatever its value.
-/

namespace TunnelLease

namespace Text

def numeralLimit : Nat := 4300

/-- Reads an unsigned numeral: groups of digits, joined by single underscores. -/
def readNatural? (text : List Char) : Option Nat :=
  let groups := text.splitOn '_'
  if groups.any List.isEmpty || numeralLimit < groups.flatten.length then none
  else (groups.flatten.mapM digitValue?).map (ofPlaces 10)

def readInteger? (text : List Char) : Option Int :=
  match trim text with
  | '-' :: digits => (readNatural? digits).map fun number => -(number : Int)
  | '+' :: digits => (readNatural? digits).map Int.ofNat
  | digits => (readNatural? digits).map Int.ofNat

end Text

end TunnelLease

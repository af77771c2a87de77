import TunnelLease.Address.Basic
import TunnelLease.Text.Numeral

/-!
# The text of an address

The narrower family is written as four decimal octets.  The wider one is written
as eight hexadecimal hextets without leading zeros, of which the longest run of
two or more zeros, the first of equals, is replaced by a double colon; a zone
follows after a percent sign.
-/

namespace TunnelLease

namespace Address

/-- The number of zeros at the start of a list. -/
def leadingZeros (hextets : List Nat) : Nat :=
  (hextets.takeWhile (· == 0)).length

/-- Where the longest run of zeros starts, the first of equals, and its length. -/
def longestZeroRun : List Nat → Nat × Nat
  | [] => (0, 0)
  | hextet :: hextets =>
      let here := leadingZeros (hextet :: hextets)
      let later := longestZeroRun hextets
      if later.2 ≤ here then (0, here) else (later.1 + 1, later.2)

/-- Hextets in hexadecimal with colons between. -/
def joinHextets (hextets : List Nat) : List Char :=
  [':'].intercalate (hextets.map (Nat.toDigits 16))

/-- Hextets with the longest run of zeros left out. -/
def compressHextets (hextets : List Nat) : List Char :=
  let run := longestZeroRun hextets
  if 2 ≤ run.2 then
    joinHextets (hextets.take run.1) ++ [':', ':'] ++ joinHextets (hextets.drop (run.1 + run.2))
  else joinHextets hextets

/-- The four octets of a value in decimal with points between. -/
def dottedQuad (value : Nat) : List Char :=
  ['.'].intercalate ((Text.places 256 4 value).map (Nat.toDigits 10))

def valueText (family : Family) (value : Nat) : List Char :=
  match family with
  | .v4 => dottedQuad value
  | .v6 => compressHextets (Text.places 65536 8 value)

def chars (address : Address) : List Char :=
  valueText address.family address.value ++
    match address.zone with
    | none => []
    | some zone => '%' :: zone.name.toList

def text (address : Address) : String :=
  String.ofList address.chars

/-- The address as the only one of its block: the route to one host. -/
def hostRoute (address : Address) : String :=
  s!"{address.text}/{address.family.width}"

end Address

end TunnelLease

import TunnelLease.Address.Basic
import TunnelLease.Text.DecimalDigit
import TunnelLease.Text.Numeral

/-!
# Reading addresses

The narrower family is read from exactly four octets of one to three digits, no
larger than 255 and without leading zeros.  The wider family is read from
hextets of one to four hexadecimal digits: eight of them, or fewer around one
double colon, which stands for at least one zero hextet.  The last hextet pair
may be written as four octets, and a zone may follow after a percent sign.
-/

namespace TunnelLease

namespace Address

def octet? (text : List Char) : Option Nat :=
  if text.isEmpty || 3 < text.length || !text.all Text.isAsciiDigit ||
      (text.head? == some '0' && text != ['0']) then none
  else
    let value := Nat.ofDigitChars 10 text 0
    if value ≤ 255 then some value else none

/-- Reads four octets with points between as one value. -/
def quad? (text : List Char) : Option Nat :=
  let parts := text.splitOn '.'
  if parts.length = 4 then (parts.mapM octet?).map (Text.ofPlaces 256) else none

def hextet? (text : List Char) : Option Nat :=
  if text.isEmpty || 4 < text.length then none
  else (text.mapM Text.hexDigit?).map (Text.ofPlaces 16)

/-- Reads hextets; with `dotted` the last part may be four octets, which make two
hextets. -/
def hextets? (dotted : Bool) : List (List Char) → Option (List Nat)
  | [] => some []
  | [last] =>
      if dotted && last.contains '.' then (quad? last).map (Text.places 65536 2)
      else (hextet? last).map ([·])
  | part :: next :: parts => do
      let hextet ← hextet? part
      let hextets ← hextets? dotted (next :: parts)
      some (hextet :: hextets)

/-- The text before and after the first double colon. -/
def cutGap : List Char → Option (List Char × List Char)
  | [] => none
  | c :: rest =>
      match c, rest with
      | ':', ':' :: after => some ([], after)
      | _, _ => (cutGap rest).map fun sides => (c :: sides.1, sides.2)

/-- The parts between colons; no text has no parts. -/
def colonParts (text : List Char) : List (List Char) :=
  if text.isEmpty then [] else text.splitOn ':'

def wideValue? (text : List Char) : Option Nat :=
  match cutGap text with
  | none => do
      let hextets ← hextets? true (colonParts text)
      if hextets.length = 8 then some (Text.ofPlaces 65536 hextets) else none
  | some (before, after) => do
      let high ← hextets? false (colonParts before)
      let low ← hextets? true (colonParts after)
      if high.length + low.length < 8 then
        let gap := List.replicate (8 - (high.length + low.length)) 0
        some (Text.ofPlaces 65536 (high ++ gap ++ low))
      else none

def zone? (name : List Char) : Option Zone :=
  if isName : IsZoneName (String.ofList name) then some ⟨String.ofList name, isName⟩ else none

/-- The address of the wider family with a given value and zone. -/
def ofZonedValue? (value : Nat) (zone : Option Zone) : Option Address :=
  if inRange : value < Family.size .v6 then some ⟨.v6, value, zone, inRange, fun _ => rfl⟩
  else none

/-- Reads an address of the wider family with its zone, if it has one. -/
def wide? (text : List Char) : Option Address := do
  let value ← wideValue? (text.takeWhile (· != '%'))
  match text.dropWhile (· != '%') with
  | [] => ofZonedValue? value none
  | _ :: name => do
      let zone ← zone? name
      ofZonedValue? value (some zone)

def ofChars? (text : List Char) : Option Address :=
  match quad? text with
  | some value => ofValue? .v4 value
  | none => wide? text

def ofText? (text : String) : Option Address :=
  ofChars? text.toList

end Address

end TunnelLease

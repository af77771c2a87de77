/-!
# Positional numerals

A number below `base ^ count` is written with exactly `count` places, the most
significant first.  Addresses are split into octets and hextets this way, and
code points into hexadecimal digits.
-/

namespace TunnelLease

namespace Text

/-- The lowest `count` places of a number, the most significant first. -/
def places (base : Nat) : Nat → Nat → List Nat
  | 0, _ => []
  | count + 1, number => places base count (number / base) ++ [number % base]

def ofPlaces (base : Nat) (digits : List Nat) : Nat :=
  digits.foldl (fun number digit => number * base + digit) 0

@[simp]
theorem places_length (base count number : Nat) :
    (places base count number).length = count := by
  induction count generalizing number with
  | zero => rfl
  | succ count ih => simp [places, ih]

/-- The number in hexadecimal with exactly `width` small digits. -/
def hexPadded (width number : Nat) : List Char :=
  (places 16 width number).map Nat.digitChar

/-- The value of an ASCII hexadecimal digit of either case. -/
def hexDigit? (c : Char) : Option Nat :=
  if '0' ≤ c && c ≤ '9' then some (c.toNat - 48)
  else if 'a' ≤ c && c ≤ 'f' then some (c.toNat - 87)
  else if 'A' ≤ c && c ≤ 'F' then some (c.toNat - 55)
  else none

/-- The bytes in hexadecimal, two small digits each. -/
def hexBytes (bytes : List UInt8) : List Char :=
  bytes.flatMap fun byte => hexPadded 2 byte.toNat

end Text

end TunnelLease

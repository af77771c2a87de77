import TunnelLease.Text.Numeral

/-!
# Rounded numbers

A natural number is rounded to 53 significant bits, as a number of double precision
holds it, and written in decimal with a given number of digits: positionally, or
scientifically with an exponent.  Every rounding goes to the nearest number and, of
two equally near, to the even one.
-/

namespace TunnelLease

namespace Text

/-- How many units a number has, rounded to the nearest count, a half to the even
one. -/
def roundedQuotient (number unit : Nat) : Nat :=
  let count := number / unit
  let twice := 2 * (number % unit)
  if unit < twice ∨ (twice = unit ∧ count % 2 = 1) then count + 1 else count

/-- The number of significant bits that double precision holds. -/
def significantBits : Nat := 53

/-- The nearest number of double precision, if there is one below its bound. -/
def doublePrecision? (number : Nat) : Option Nat :=
  let unit := Nat.pow 2 (number.log2 + 1 - significantBits)
  let rounded := roundedQuotient number unit * unit
  if rounded < Nat.pow 2 1024 then some rounded else none

/-- The `count` leading decimal digits of a number, rounded, and the power of ten of
the first one. -/
def leadingDigits (count number : Nat) : List Char × Nat :=
  let digits := Nat.toDigits 10 number
  if digits.length ≤ count then
    (digits ++ List.replicate (count - digits.length) '0', digits.length - 1)
  else
    let rounded := Nat.toDigits 10 (roundedQuotient number (Nat.pow 10 (digits.length - count)))
    if count < rounded.length then (rounded.take count, digits.length)
    else (rounded, digits.length - 1)

/-- Digits before and after a point.  A point with nothing after it is left out
unless it is asked for. -/
def pointed (pointKept : Bool) (whole fraction : List Char) : List Char :=
  whole ++ if fraction.isEmpty && !pointKept then [] else '.' :: fraction

/-- An exponent of ten with its mark, in at least two digits. -/
def exponentText (mark : Char) (power : Nat) : List Char :=
  let digits := Nat.toDigits 10 power
  mark :: '+' :: (List.replicate (2 - digits.length) '0' ++ digits)

/-- A number with a given count of decimal places. -/
def positional (pointKept : Bool) (decimals number : Nat) : List Char :=
  pointed pointKept (Nat.toDigits 10 number) (List.replicate decimals '0')

/-- A number as one digit, decimal places and an exponent. -/
def scientific (pointKept : Bool) (mark : Char) (decimals number : Nat) : List Char :=
  let leading := leadingDigits (decimals + 1) number
  pointed pointKept (leading.1.take 1) (leading.1.drop 1) ++ exponentText mark leading.2

def withoutFinalZeros (digits : List Char) : List Char :=
  (digits.reverse.dropWhile (· == '0')).reverse

/-- A number with a given count of significant digits, at least one: positional if
these reach the point, else scientific.  Zeros at the end of the decimal places are
kept only together with the point. -/
def significant (pointKept : Bool) (mark : Char) (count number : Nat) : List Char :=
  let leading := leadingDigits (max 1 count) number
  let shown (fraction : List Char) : List Char :=
    if pointKept then fraction else withoutFinalZeros fraction
  if leading.2 < max 1 count then
    pointed pointKept (leading.1.take (leading.2 + 1)) (shown (leading.1.drop (leading.2 + 1)))
  else
    pointed pointKept (leading.1.take 1) (shown (leading.1.drop 1)) ++ exponentText mark leading.2

end Text

end TunnelLease

import TunnelLease.Text.Integer

/-!
# Integer options

An integer option is written with ASCII digits between spaces.  A sign may stand in
front, and a point with zeros alone behind the integer.  Zeros in front of the other
digits are skipped together with the underscores among them, and one underscore may
stand between two later digits.  What is left has at most 4300 digits.

A minus sign may also stand behind the zeros in front, unless one has been read
before them, and then no further zero may follow it.
-/

namespace TunnelLease

namespace CommandLine

/-- Splits a sign off: whether it is a minus sign, and the text behind it. -/
def readSign (text : List Char) : Bool × List Char :=
  match text with
  | '+' :: rest => (false, rest)
  | '-' :: rest => (true, rest)
  | _ => (false, text)

/-- Whether a character is a digit other than zero. -/
def isLeadingDigit (c : Char) : Bool :=
  '1' ≤ c && c ≤ '9'

/-- Skips zeros, and the underscores among them, behind one such character.  Where no
other digit follows, the last of the skipped characters stands for the integer. -/
def skipMoreZeros? (last : Char) : List Char → Option (List Char)
  | [] => some [last]
  | c :: rest =>
      if c = '0' ∨ c = '_' then skipMoreZeros? c rest
      else if isLeadingDigit c || c == '-' then some (c :: rest)
      else if c = '.' then some (last :: c :: rest)
      else none

/-- Skips the zeros in front of an integer, but not the only one. -/
def skipZeros? (text : List Char) : Option (List Char) :=
  match text with
  | [] => none
  | c :: rest =>
      if c = '0' then skipMoreZeros? c rest
      else if isLeadingDigit c then some text
      else none

/-- Drops a point and the zeros behind it, of which there must be one. -/
def dropFraction? (text : List Char) : Option (List Char) :=
  match text.dropWhile (· != '.') with
  | [] => some text
  | _ :: fraction =>
      if fraction.isEmpty || fraction.any (· != '0') then none
      else some (text.takeWhile (· != '.'))

/-- Drops the underscores that stand alone inside a text.  Other ones are left. -/
def dropUnderscores (text : List Char) : List Char :=
  if (text.splitOn '_').any List.isEmpty then text else text.filter (· != '_')

/-- Reads ASCII digits without a zero in front. -/
def readDigits? (digits : List Char) : Option Nat :=
  if digits.isEmpty || !digits.all Text.isAsciiDigit || Text.numeralLimit < digits.length ||
      (digits.head? == some '0' && digits != ['0']) then none
  else some (Nat.ofDigitChars 10 digits 0)

/-- Reads an integer of which the sign in front is known.  One minus sign is enough. -/
def readSigned? (negative : Bool) (text : List Char) : Option Int :=
  match text with
  | '-' :: digits =>
      if negative then none else (readDigits? digits).map fun number => -(number : Int)
  | digits => (readDigits? digits).map fun number => if negative then -(number : Int) else number

def readInteger? (text : List Char) : Option Int := do
  let (negative, unsigned) := readSign (Text.trimSpaces text)
  let bare ← skipZeros? unsigned
  let whole ← dropFraction? bare
  readSigned? negative (dropUnderscores whole)

end CommandLine

end TunnelLease

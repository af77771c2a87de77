import TunnelLease.Template.Argument
import TunnelLease.Template.Basic
import TunnelLease.Text.Rounded

/-!
# Conversions

A conversion turns an argument into text.  `s`, `r` and `a` show any argument as it
is, quoted, or quoted in ASCII; the precision cuts them off.  `d`, `i` and `u` write
a number in decimal, `o`, `x` and `X` in octal or hexadecimal; the precision is the
least count of digits.  `f`, `e` and `g`, small or capital, write a number as a real
one; the precision counts its decimal places or its significant digits.  `c` writes
a character, given as itself or by its number.

The text is then filled up to the width: on the right, or on the left with blanks,
or with zeros between a number's sign and its digits.
-/

namespace TunnelLease

namespace Template

/-- The text of a value in parts: the sign, the mark of the base, and the rest. -/
structure Body where
  sign : List Char
  mark : List Char
  rest : List Char
deriving DecidableEq

def Body.ofText (text : List Char) : Body := ⟨[], [], text⟩

def lengthBound : Nat := Nat.pow 2 36

/-- Fills a value up to a width.  Zeros are put in only if `zeros` holds. -/
def Body.layOut (body : Body) (left zeros : Bool) (width : Nat) : Except Fault (List Char) :=
  if lengthBound < width then .error .tooLong
  else
    let missing := width - (body.sign.length + body.mark.length + body.rest.length)
    let whole := body.sign ++ body.mark ++ body.rest
    if left then .ok (whole ++ List.replicate missing ' ')
    else if zeros then
      .ok (body.sign ++ body.mark ++ List.replicate missing '0' ++ body.rest)
    else .ok (List.replicate missing ' ' ++ whole)

def signOf (flags : Flags) (number : Int) : List Char :=
  if number < 0 then ['-']
  else if flags.plus then ['+']
  else if flags.blank then [' ']
  else []

def Argument.number? : Argument → Option Int
  | .single (.number number) => some number
  | _ => none

def baseOf (letter : Char) : Nat :=
  if letter = 'o' then 8 else if letter = 'x' ∨ letter = 'X' then 16 else 10

/-- A number in the base of a conversion with a least count of digits. -/
def integerBody (flags : Flags) (letter : Char) (least : Nat) (number : Int) : Body :=
  let digits := Nat.toDigits (baseOf letter) number.natAbs
  let padded := List.replicate (least - digits.length) '0' ++ digits
  { sign := signOf flags number
    mark := if flags.alternate ∧ baseOf letter ≠ 10 then ['0', letter] else []
    rest := if letter = 'X' then padded.map Char.toUpper else padded }

/-- A number as a real one.  The alternate form keeps the point. -/
def realBody (flags : Flags) (letter : Char) (precision : Nat) (number : Int) : Option Body :=
  (Text.doublePrecision? number.natAbs).map fun magnitude =>
    let text :=
      if letter = 'f' ∨ letter = 'F' then Text.positional flags.alternate precision magnitude
      else if letter = 'e' then Text.scientific flags.alternate 'e' precision magnitude
      else if letter = 'E' then Text.scientific flags.alternate 'E' precision magnitude
      else if letter = 'g' then Text.significant flags.alternate 'e' precision magnitude
      else Text.significant flags.alternate 'E' precision magnitude
    ⟨signOf flags number, [], text⟩

/-- The character that an argument stands for. -/
def Argument.character : Argument → Except Fault Char
  | .single (.text content) =>
      match content.toList with
      | [c] => .ok c
      | _ => .error .notCharacter
  | .single (.number number) =>
      if 0 ≤ number ∧ number < 0x110000 then .ok (Char.ofNat number.toNat)
      else .error .noCharacter
  | _ => .error .notCharacter

/-- The precision of real numbers that is taken if none is given. -/
def realPrecision : Nat := 6

def integerPrecisionBound : Nat := precisionBound - 3

/-- Applies the conversion that stands at an index to an argument. -/
def convert (flags : Flags) (width precision : Option Nat) (letter : Char) (index : Nat)
    (argument : Argument) : Except Fault (List Char) :=
  let width := width.getD 0
  let cutOff (text : List Char) : List Char :=
    match precision with
    | some limit => text.take limit
    | none => text
  if letter ∈ ['s', 'r', 'a'] then
    if !argument.hasText then .error .numeralTooLong
    else
      let text :=
        if letter = 's' then argument.shown.toList
        else if letter = 'r' then argument.quoted.toList
        else argument.ascii
      (Body.ofText (cutOff text)).layOut flags.left false width
  else if letter ∈ ['d', 'i', 'u', 'o', 'x', 'X'] then
    match argument.number? with
    | none =>
        if baseOf letter = 10 then .error (.notNumber letter argument)
        else .error (.notInteger letter argument)
    | some number =>
        let least := precision.getD 0
        if integerPrecisionBound < least then .error .precisionTooLarge
        else if baseOf letter = 10 && !argument.hasText then .error .numeralTooLong
        else (integerBody flags letter least number).layOut flags.left flags.zeros width
  else if letter ∈ ['e', 'E', 'f', 'F', 'g', 'G'] then
    match argument.number? with
    | none => .error (.notReal argument)
    | some number =>
        match realBody flags letter (precision.getD realPrecision) number with
        | none => .error .tooLargeReal
        | some body => body.layOut flags.left flags.zeros width
  else if letter = 'c' then
    match argument.character with
    | .error fault => .error fault
    | .ok c => (Body.ofText [c]).layOut flags.left false width
  else .error (.unsupported letter index)

end Template

end TunnelLease

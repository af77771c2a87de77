import TunnelLease.Template.Fill

/-!
# Byte templates

A template may be a byte string, and is then filled to a byte string.  Its fields are
written like those of a text; `z` may stand among the flags and changes nothing, and
`b` is another letter for `s`.  But the names of arguments are texts, so a name in a
byte template finds nothing; what a field can find is all arguments at once, if it is
the first one, and only `r` and `a` show them, both quoted in ASCII.

Bytes are read as the characters of the same numbers.
-/

namespace TunnelLease

namespace Template

/-- Bytes as the characters of the same numbers. -/
def charsOfBytes (bytes : List UInt8) : List Char :=
  bytes.map fun byte => Char.ofNat byte.toNat

/-- Characters below 256 as the bytes of the same numbers. -/
def bytesOfChars (chars : List Char) : List UInt8 :=
  chars.map fun c => UInt8.ofNat c.toNat

/-- The fault of a letter that has no conversion and stands at an index.  Beyond ASCII it
can be shown only right behind the digits of a width or of a precision. -/
def Field.strangeByte (field : Field) (template : List Char) (letter : Char) (index : Nat) :
    Fault :=
  let counted := field.width ≠ .unset ∨ field.precision ≠ .unset
  let behindDigit := (template[index - 1]?).any Text.isAsciiDigit
  if letter.toNat < 0x80 ∨ (counted ∧ behindDigit) then .unsupportedByte letter index
  else .unshowable

/-- The flags of a byte template that change nothing. -/
def idleByteFlags : List Char := ['z']

def countBound : Nat := Nat.pow 2 63 - 1

/-- The most bytes that a byte string can hold. -/
def byteBound : Nat := countBound - 33

/-- The longest template for which room is asked only once its field is laid out. -/
def shortTemplate : Nat := 512

/-- Whether more room is asked for than a byte string can have.  The width of the field
stands for two characters of the template. -/
def asksTooMuch (size width behind : Nat) : Bool :=
  let room := size + width - 2
  -- If the template goes on, a quarter more is asked for, unless that cannot be counted.
  let ample := room + room / 4
  let asked := if behind ≠ 0 ∧ ample ≤ countBound then ample else room
  size ≤ shortTemplate && room ≤ countBound && byteBound < asked

/-- Applies the conversion of a field, which has a letter with so many characters behind
it, to all arguments. -/
def Field.convertAll (field : Field) (template : List Char) (letter : Char) (behind : Nat)
    (arguments : Argument) : Except Fault (List Char) :=
  if letter ∈ ['r', 'a'] then
    if !arguments.hasText then .error .numeralTooLong
    else
      let text :=
        match field.precision.value? with
        | some limit => arguments.ascii.take limit
        | none => arguments.ascii
      let width := field.width.value?.getD 0
      if asksTooMuch template.length width behind then .error .tooManyBytes
      else (Body.ofText text).layOut field.flags.left false width
  else if letter ∈ ['s', 'b'] then .error (.notBytes arguments)
  else if letter ∈ ['d', 'i'] then .error (.notNumber 'd' arguments)
  else if letter = 'u' then .error (.notNumber letter arguments)
  else if letter ∈ ['o', 'x', 'X'] then .error (.notInteger letter arguments)
  else if letter ∈ ['e', 'E', 'f', 'F', 'g', 'G'] then .error (.notFloat arguments)
  else if letter = 'c' then .error .notByte
  else .error (field.strangeByte template letter (template.length - behind - 1))

def Field.fillByte (field : Field) (template : List Char) (pending : Option Argument) :
    Except Fault (List Char) := do
  let found ← match field.name with
    | some name => .error (.missingBytes (bytesOfChars name))
    | none => .ok pending
  let given ← field.settleAmounts found
  match field.ending with
  | .cut => .error .incomplete
  | .widthTooBig => .error .widthTooBig
  | .precisionTooBig => .error .digitsTooBig
  | .conversion letter behind =>
      match given with
      | none => .error .spent
      | some arguments => field.convertAll template letter behind arguments

/-- The text of some parts of a byte template. -/
def fillBytePieces (template : List Char) (pending : Option Argument) :
    List Piece → Except Fault (List Char)
  | [] => .ok []
  | .literal c :: later => (fillBytePieces template pending later).map (c :: ·)
  | .unclosed :: _ => .error .incompleteKey
  | .field field :: later =>
      match field.fillByte template pending with
      | .error fault => .error fault
      | .ok text => (fillBytePieces template none later).map (text ++ ·)

def fillBytes (template : List UInt8) (arguments : Arguments) : Except Fault (List UInt8) :=
  let chars := charsOfBytes template
  (fillBytePieces chars (some (.all arguments)) (pieces idleByteFlags chars)).map bytesOfChars

/-- Fills a template of any kind, and shows the result as a text. -/
def fillLiteral (template : Literal) (arguments : Arguments) : Except Fault String :=
  match template with
  | .text content => fill content arguments
  | .bytes content => (fillBytes content arguments).map fun filled => (Literal.bytes filled).shown
  | other => .error (.notTemplate other)

end Template

end TunnelLease

import TunnelLease.Literal
import TunnelLease.Text.Integer

/-!
# Arguments of templates

A template is filled from arguments with names.  A field without a name takes all of
them at once, unless a field before it has taken something already.  A number whose
numeral is too long to be read again is not written either: it has no text.
-/

namespace TunnelLease

namespace Template

abbrev Arguments := List (String × Literal)

/-- Whether a literal has a text, which a number with too long a numeral has not. -/
def hasText : Literal → Bool
  | .number value => (Nat.toDigits 10 value.natAbs).length ≤ Text.numeralLimit
  | _ => true

inductive Argument where
  | single (value : Literal)
  | all (arguments : Arguments)
deriving DecidableEq

namespace Argument

def hasText : Argument → Bool
  | .single value => Template.hasText value
  | .all arguments => arguments.all fun named => Template.hasText named.2

/-- The argument so that its kind can be told. -/
def quoted : Argument → String
  | .single value => value.quoted
  | .all arguments =>
      "\x7b" ++ ", ".intercalate (arguments.map fun named =>
        Text.quoted named.1 ++ ": " ++ named.2.quoted) ++ "\x7d"

/-- The argument as it reads inside a sentence: a text stands for itself. -/
def shown : Argument → String
  | .single value => value.shown
  | .all arguments => quoted (.all arguments)

/-- The quoted argument in ASCII, other characters spelled by their code points. -/
def ascii (argument : Argument) : List Char :=
  argument.quoted.toList.flatMap fun c =>
    if c.toNat < 0x80 then [c] else Text.escapeCode c.toNat

/-- The word by which messages name the kind of the argument. -/
def kind : Argument → String
  | .single (.text _) => "str"
  | .single (.bytes _) => "bytes"
  | .single (.number _) => "int"
  | .single .absent => "NoneType"
  | .all _ => "dict"

end Argument

inductive Fault where
  | missing (name : String)
  /-- A field asks for more than there is. -/
  | spent
  | notNumber (letter : Char) (argument : Argument)
  | notInteger (letter : Char) (argument : Argument)
  | notReal (argument : Argument)
  | notCharacter
  | notAmount
  /-- No character has this number. -/
  | noCharacter
  /-- A number without a text is to be shown. -/
  | numeralTooLong
  /-- The number is larger than any of double precision. -/
  | tooLargeReal
  /-- No conversion has this letter, which stands at this index. -/
  | unsupported (letter : Char) (index : Nat)
  | incomplete
  | incompleteKey
  | widthTooBig
  | precisionTooBig
  /-- An argument is out of the range of widths. -/
  | widthOverflow
  /-- An argument is out of the range of precisions. -/
  | precisionOverflow
  | precisionTooLarge
  /-- The text would be longer than any text can be. -/
  | tooLong
  /-- A name in a byte template, which finds nothing. -/
  | missingBytes (name : List UInt8)
  /-- Not bytes, which alone go into a byte template as they are. -/
  | notBytes (argument : Argument)
  | notFloat (argument : Argument)
  | notByte
  | digitsTooBig
  /-- More bytes are asked for than a byte string can hold. -/
  | tooManyBytes
  /-- No conversion of a byte template has this letter, which stands at this index. -/
  | unsupportedByte (letter : Char) (index : Nat)
  /-- No conversion of a byte template has this letter, and no words can show it. -/
  | unshowable
  /-- A value that is no template. -/
  | notTemplate (value : Literal)
deriving DecidableEq

def Fault.message : Fault → String
  | .missing name => Text.quoted name
  | .spent => "not enough arguments for format string"
  | .notNumber letter argument =>
      s!"%{letter} format: a real number is required, not {argument.kind}"
  | .notInteger letter argument =>
      s!"%{letter} format: an integer is required, not {argument.kind}"
  | .notReal argument => s!"must be real number, not {argument.kind}"
  | .notCharacter => "%c requires int or char"
  | .notAmount => "* wants int"
  | .noCharacter => "%c arg not in range(0x110000)"
  | .numeralTooLong => s!"number of more than {Text.numeralLimit} digits"
  | .tooLargeReal => "int too large to convert to float"
  | .unsupported letter index =>
      let shown := if '\x1f' ≤ letter ∧ letter ≤ '~' then letter else '?'
      s!"unsupported format character '{shown}' (0x" ++
        String.ofList (Nat.toDigits 16 letter.toNat) ++ s!") at index {index}"
  | .incomplete => "incomplete format"
  | .incompleteKey => "incomplete format key"
  | .widthTooBig => "width too big"
  | .precisionTooBig => "precision too big"
  | .widthOverflow => "int too large for a width"
  | .precisionOverflow => "int too large for a precision"
  | .precisionTooLarge => "precision too large"
  | .tooLong => ""
  | .missingBytes name => String.ofList (Text.quoteBytes name)
  | .notBytes argument =>
      "%b requires a bytes-like object, or an object that implements __bytes__, not " ++
        s!"'{argument.kind}'"
  | .notFloat argument => s!"float argument required, not {argument.kind}"
  | .notByte => "%c requires an integer in range(256) or a single byte"
  | .digitsTooBig => "prec too big"
  | .tooManyBytes => "byte string is too large"
  | .unsupportedByte letter index =>
      s!"unsupported format character '{letter}' (0x" ++
        String.ofList (Nat.toDigits 16 letter.toNat) ++ s!") at index {index}"
  | .unshowable => ""
  | .notTemplate value =>
      let kind := (Argument.single value).kind
      s!"unsupported operand type(s) for %: '{kind}' and 'dict'"

end Template

end TunnelLease

import TunnelLease.Text.Numeral
import TunnelLease.Text.Printable

/-!
# Quoted text

Messages show a text between quotation marks so that every character of it can
be told.  The marks are single unless the text holds a single mark and no double
one.  The mark in use and the backslash get a backslash in front, a tabulator
and the line ends are spelled `\t`, `\n` and `\r`, and a character that is not
printable is spelled by its code point in two, four or eight hexadecimal digits.
Byte strings follow the same rule after a `b`; of them only ASCII is shown.
-/

namespace TunnelLease

namespace Text

def singleMark : Char := '\x27'

def doubleMark : Char := '\x22'

def markFor (text : List Char) : Char :=
  if singleMark ∈ text ∧ doubleMark ∉ text then doubleMark else singleMark

/-- Spells a character by its code point, in the fewest of two, four or eight digits. -/
def escapeCode (code : Nat) : List Char :=
  if code < 0x100 then '\\' :: 'x' :: hexPadded 2 code
  else if code < 0x10000 then '\\' :: 'u' :: hexPadded 4 code
  else '\\' :: 'U' :: hexPadded 8 code

/-- One character of a quoted text.  `shown` tells which characters stand for
themselves. -/
def quoteChar (shown : Char → Bool) (mark c : Char) : List Char :=
  if c = mark ∨ c = '\\' then ['\\', c]
  else if c = '\t' then ['\\', 't']
  else if c = '\n' then ['\\', 'n']
  else if c = '\r' then ['\\', 'r']
  else if shown c then [c]
  else escapeCode c.toNat

def quote (text : List Char) : List Char :=
  let mark := markFor text
  mark :: text.flatMap (quoteChar isPrintable mark) ++ [mark]

/-- Whether a character is a visible ASCII character or the space. -/
def isVisibleAscii (c : Char) : Bool :=
  ' ' ≤ c && c ≤ '~'

/-- The byte string between quotation marks, each byte as the character of its
number. -/
def quoteBytes (bytes : List UInt8) : List Char :=
  let text := bytes.map fun byte => Char.ofNat byte.toNat
  let mark := markFor text
  'b' :: mark :: text.flatMap (quoteChar isVisibleAscii mark) ++ [mark]

def quoted (text : String) : String :=
  String.ofList (quote text.toList)

end Text

end TunnelLease

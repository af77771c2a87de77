import TunnelLease.Text.CodePointSet

/-!
# Blank characters

Trimming removes the white space of Unicode from the ends of a text: the
separators, the line ends, the tabulators and the four information separators
U+001C to U+001F.  The zero-width characters are not blank.
-/

namespace TunnelLease

namespace Text

def blank : CodePointSet where
  runs := [
    (0x9, 0xD), (0x1C, 0x20), (0x85, 0x85), (0xA0, 0xA0), (0x1680, 0x1680), (0x2000, 0x200A),
    (0x2028, 0x2029), (0x202F, 0x202F), (0x205F, 0x205F), (0x3000, 0x3000)]

/-- Whether a character counts as white space. -/
def isBlank (c : Char) : Bool :=
  blank.contains c

/-- The text without the blanks at its start. -/
def trimStart (text : List Char) : List Char :=
  text.dropWhile isBlank

def trimEnd (text : List Char) : List Char :=
  (text.reverse.dropWhile isBlank).reverse

/-- The text without the blanks at either end. -/
def trim (text : List Char) : List Char :=
  trimEnd (trimStart text)

/-- Whether a character is blank but no information separator. -/
def isSpace (c : Char) : Bool :=
  isBlank c && !('\x1c' ≤ c && c ≤ '\x1f')

/-- The text without the spaces at either end. -/
def trimSpaces (text : List Char) : List Char :=
  ((text.dropWhile isSpace).reverse.dropWhile isSpace).reverse

/-- Whether nothing but blanks occurs in a text. -/
def isAllBlank (text : List Char) : Bool :=
  text.all isBlank

end Text

end TunnelLease

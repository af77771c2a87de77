import TunnelLease.Address.Parser
import TunnelLease.Text.Quoted

/-!
# Literals

What a caller hands over as an address need not be a text: it may be a byte
string, a number, or nothing at all.  A message shows such a literal plainly, as
itself, or quoted, so that its kind can be told.
-/

namespace TunnelLease

inductive Literal where
  | text (content : String)
  | bytes (content : List UInt8)
  | number (value : Int)
  | absent
deriving DecidableEq

namespace Literal

def quoted : Literal → String
  | .text content => Text.quoted content
  | .bytes content => String.ofList (Text.quoteBytes content)
  | .number value => toString value
  | .absent => "None"

/-- The literal as it reads inside a sentence: a text stands for itself. -/
def shown : Literal → String
  | .text content => content
  | other => other.quoted

/-- Whether nothing is in the literal, or it is zero. -/
def isVoid : Literal → Bool
  | .text content => content = ""
  | .bytes content => content.isEmpty
  | .number value => value = 0
  | .absent => true

end Literal

namespace Address

/-- The address of a number: of the narrower family as long as it is wide enough. -/
def ofNumber? (number : Int) : Option Address :=
  if number < 0 then none
  else (ofValue? .v4 number.toNat).or (ofValue? .v6 number.toNat)

def ofBytes? (bytes : List UInt8) : Option Address :=
  let value := Text.ofPlaces 256 (bytes.map UInt8.toNat)
  if bytes.length = 4 then ofValue? .v4 value
  else if bytes.length = 16 then ofValue? .v6 value
  else none

def ofLiteral? : Literal → Option Address
  | .text content => ofText? content
  | .bytes content => ofBytes? content
  | .number value => ofNumber? value
  | .absent => none

end Address

end TunnelLease

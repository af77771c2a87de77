import TunnelLease.Text.Blank
import TunnelLease.Text.Utf8

/-!
# Peer requests

A request names a peer by its identity: a text with something other than blanks
in it.  Bytes stand for the text they encode.  The text is kept as it is.
-/

namespace TunnelLease

namespace Service

/-- What a request holds in the place of the identity. -/
inductive Identity where
  | missing
  | text (content : String)
  | bytes (content : List UInt8)
  /-- A value of any other kind. -/
  | foreign
deriving DecidableEq

inductive Rejection where
  | missing
  | notText
  | notUnicode
  | empty
  | blank
deriving DecidableEq, Repr

namespace Rejection

def code : Rejection → String
  | .missing => "missing"
  | .notText => "string_type"
  | .notUnicode => "string_unicode"
  | .empty => "string_too_short"
  | .blank => "value_error"

def message : Rejection → String
  | .missing => "Field required"
  | .notText => "Input should be a valid string"
  | .notUnicode =>
      "Input should be a valid string, unable to parse raw data as a unicode string"
  | .empty => "String should have at least 1 character"
  | .blank => "Value error, peer id cannot be blank"

end Rejection

/-- Accepts a text unless there is nothing to see in it. -/
def acceptText (content : String) : Except Rejection String :=
  if content = "" then .error .empty
  else if Text.isAllBlank content.toList then .error .blank
  else .ok content

/-- The text that identifies the peer of a request. -/
def Identity.accept : Identity → Except Rejection String
  | .missing => .error .missing
  | .text content => acceptText content
  | .bytes content =>
      match Text.Utf8.decode? content with
      | some decoded => acceptText (String.ofList decoded)
      | none => .error .notUnicode
  | .foreign => .error .notText

end Service

end TunnelLease

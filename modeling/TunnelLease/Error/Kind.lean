import TunnelLease.Error
import TunnelLease.Template.Bytes

/-!
# Kinds of errors

Each kind of error has a template for its message.  A message can also be
composed from a template of the caller's own, with any arguments.  Two names among
the arguments are taken: that of the error itself, and that of the template, which a
caller may give either in front of the arguments or under its name.

The message of an error is composed when the error is raised.  Where that fails, what is
raised is the fault.
-/

namespace TunnelLease

namespace Error

/-- The kinds of errors.  The general kind is for what no other one describes. -/
inductive Kind where
  | general
  | unreadable
  | tooLarge
  | noBroadcast
  | outOfRange
  | inUse
  | exhausted
  | notAssigned
  | voidKey
  | alreadyRegistered
  | misconfigured
deriving DecidableEq, Repr

namespace Kind

def template : Kind → String
  | general => "An unknown exception occurred."
  | unreadable => "Failed to parse '%(text)s': %(details)s"
  | tooLarge => "Prefix block size %(size)d exceeds the limit of %(limit)d addresses"
  | noBroadcast => "Broadcast address is not applicable to %(prefix)s"
  | outOfRange => "Address %(address)s is outside of prefix %(prefix)s"
  | inUse => "Address %(address)s is already assigned or reserved"
  | exhausted => "Address pool %(prefix)s is exhausted"
  | notAssigned => "Address %(address)s is not assigned"
  | voidKey => "Invalid peer key: %(details)s"
  | alreadyRegistered => "Peer %(peer_id)s already exists"
  | misconfigured => "IPAM configuration error: %(details)s"

/-- The message of a kind, or of the caller's own template unless it is void. -/
def compose (kind : Kind) (custom : Literal) (arguments : Template.Arguments) :
    Except Template.Fault String :=
  if custom.isVoid then Template.fill kind.template arguments
  else Template.fillLiteral custom arguments

end Kind

/-- The name of the error itself. -/
def selfName : String := "self"

/-- The name of a template of the caller's own. -/
def templateName : String := "message"

/-- What a caller words an error with. -/
structure Wording where
  /-- A template in front of the arguments. -/
  front : Option Literal
  given : Template.Arguments
deriving DecidableEq

namespace Wording

/-- Whether a name is taken before any argument is looked at. -/
def takes (wording : Wording) (name : String) : Bool :=
  name == selfName || (name == templateName && wording.front.isSome)

/-- The first name among the arguments that is taken. -/
def taken? (wording : Wording) : Option String :=
  (wording.given.map Prod.fst).find? wording.takes

/-- The template of the caller's own, which is absent if there is none. -/
def template (wording : Wording) : Literal :=
  (wording.front.or (wording.given.lookup templateName)).getD .absent

/-- The arguments that the template is filled from. -/
def arguments (wording : Wording) : Template.Arguments :=
  wording.given.filter fun named => named.1 != templateName

end Wording

/-- Why an error gets no message. -/
inductive Refusal where
  /-- An argument has a name that is taken. -/
  | taken (name : String)
  | unfilled (fault : Template.Fault)
deriving DecidableEq

/-- The message of an error of some kind in a caller's wording. -/
def Kind.describe (kind : Kind) (wording : Wording) : Except Refusal String :=
  match wording.taken? with
  | some name => .error (.taken name)
  | none => (kind.compose wording.template wording.arguments).mapError .unfilled

/-- The kind of an error, if it has words. -/
def kind? : Error → Option Kind
  | .unreadable .. => some .unreadable
  | .tooLarge .. => some .tooLarge
  | .noBroadcast .. => some .noBroadcast
  | .outOfRange .. => some .outOfRange
  | .inUse .. => some .inUse
  | .exhausted .. => some .exhausted
  | .notAssigned .. => some .notAssigned
  | .voidKey => some .voidKey
  | .alreadyRegistered .. => some .alreadyRegistered
  | .misconfigured .. => some .misconfigured
  | .wordless _ => none

/-- The data of an error by the names that the template of its kind has for them, addresses
and blocks as their texts. -/
def arguments : Error → Template.Arguments
  | .unreadable cause => [("text", cause.written), ("details", .text cause.details)]
  | .tooLarge size limit => [("size", .number size), ("limit", .number limit)]
  | .noBroadcast block => [("prefix", .text block.label)]
  | .outOfRange address block => [("address", .text address.text), ("prefix", .text block.label)]
  | .inUse address => [("address", .text address.text)]
  | .exhausted block => [("prefix", .text block.label)]
  | .notAssigned address => [("address", .text address.text)]
  | .voidKey => [("details", .text "peer id is empty")]
  | .alreadyRegistered key => [("peer_id", key.toLiteral)]
  | .misconfigured cause => [("details", .text cause.details)]
  | .wordless _ => []

/-- Whether all data of an error have a text. -/
def hasWords (error : Error) : Bool :=
  error.arguments.all fun named => Template.hasText named.2

/-- What is raised for an error: the error itself, or the fault of composing its message. -/
def raised (error : Error) : Error :=
  if error.hasWords then error else .wordless .numeralTooLong

end Error

end TunnelLease

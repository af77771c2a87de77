import TunnelLease.Block.Basic
import TunnelLease.Peer
import TunnelLease.Template.Argument

/-!
# Errors

Every way in which a request can be refused is a cause with the data it needs;
`message` is the only place where causes are put into words.  A cause that cannot be
put into words is replaced by the fault of its template.
-/

namespace TunnelLease

inductive Expected where
  | address
  | subnet
  /-- Two parts with a slash between, before either part is looked at. -/
  | slashed
deriving DecidableEq, Repr

structure Unreadable where
  written : Literal
  expected : Expected
deriving DecidableEq

namespace Unreadable

def details (unreadable : Unreadable) : String :=
  match unreadable.expected with
  | .address => unreadable.written.quoted ++ " does not appear to be an IPv4 or IPv6 address"
  | .subnet => unreadable.written.quoted ++ " does not appear to be an IPv4 or IPv6 interface"
  | .slashed => "expected <address>/<prefix length>"

/-- The literal and why it could not be read. -/
def message (unreadable : Unreadable) : String :=
  s!"Failed to parse '{unreadable.written.shown}': {unreadable.details}"

end Unreadable

/-- A value that does not satisfy what a configuration asks of it. -/
inductive Unfit where
  | block (cause : Unreadable)
  | emptyBlock
  | family (required : Int) (found : Family) (written : String)
  | address (written : Literal)
  | outside (entry : Address)
deriving DecidableEq

def Unfit.message : Unfit → String
  | .block cause => "Invalid prefix: " ++ cause.message
  | .emptyBlock => "Prefix cannot be empty"
  | .family required found written =>
      s!"Expected an IPv{required} prefix, got IPv{found.version} in '{written}'"
  | .address written => "Invalid address: " ++ Unreadable.details ⟨written, .address⟩
  | .outside entry =>
      s!"reserved address {entry.text} is outside of every configured prefix"

inductive Misconfiguration where
  | noPools
  | noBlocks
  | limitNotPositive
  | unfit (cause : Unfit)
deriving DecidableEq

def Misconfiguration.details : Misconfiguration → String
  | .noPools => "at least one address pool is required"
  | .noBlocks => "at least one of ipv4_addr or ipv6_addr is required"
  | .limitNotPositive => "max_prefix_size must be positive"
  | .unfit cause => cause.message

inductive Error where
  | unreadable (cause : Unreadable)
  | tooLarge (size : Nat) (limit : Int)
  | noBroadcast (block : Block)
  | outOfRange (address : Address) (block : Block)
  | inUse (address : Address)
  | exhausted (block : Block)
  | notAssigned (address : Address)
  | voidKey
  | alreadyRegistered (key : PeerKey)
  | misconfigured (cause : Misconfiguration)
  /-- The template of an error could not be filled. -/
  | wordless (fault : Template.Fault)
deriving DecidableEq

namespace Error

def message : Error → String
  | .unreadable cause => cause.message
  | .tooLarge size limit =>
      s!"Prefix block size {size} exceeds the limit of {limit} addresses"
  | .noBroadcast block => s!"Broadcast address is not applicable to {block.label}"
  | .outOfRange address block =>
      s!"Address {address.text} is outside of prefix {block.label}"
  | .inUse address => s!"Address {address.text} is already assigned or reserved"
  | .exhausted block => s!"Address pool {block.label} is exhausted"
  | .notAssigned address => s!"Address {address.text} is not assigned"
  | .voidKey => "Invalid peer key: peer id is empty"
  | .alreadyRegistered key => s!"Peer {key.shown} already exists"
  | .misconfigured cause => "IPAM configuration error: " ++ cause.details
  | .wordless fault => fault.message

end Error

/-- A pool refused to take back an address that the registry holds for a peer: the
two disagree, and no request is answered as if they did not. -/
structure Violation where
  key : PeerKey
  position : Nat
  address : Address
  cause : Error
deriving DecidableEq

namespace Violation

/-- A disagreement in words, of the words for its parts. -/
def sentence (key position address cause : String) : String :=
  s!"Failed to put addr {address} back to pool {position} for peer {key}: {cause}"

def message (violation : Violation) : String :=
  sentence violation.key.shown (toString violation.position) violation.address.text
    violation.cause.message

end Violation

end TunnelLease

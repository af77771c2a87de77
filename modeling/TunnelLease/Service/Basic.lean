import TunnelLease.Registry.Basic
import TunnelLease.Service.Request

/-!
# The peer service

The service answers requests by a registry and puts peers into the form that the
component in charge of the tunnel needs: the identity as text, the addresses, and
the host routes to be allowed.  A byte key is shown in hexadecimal.
-/

namespace TunnelLease

structure PeerView where
  id : String
  addresses : List String
  allowedIps : List String
deriving DecidableEq

/-- Why the service did not do what it was asked. -/
inductive Service.Failure where
  | rejected (cause : Service.Rejection)
  | failed (cause : TunnelLease.Failure)
deriving DecidableEq

namespace PeerKey

/-- The key as an identity.  Only texts and byte strings are ever registered. -/
def id : PeerKey → String
  | .text content => content
  | .bytes content => String.ofList (Text.hexBytes content)
  | .absent => ""

end PeerKey

namespace Peer

def view (peer : Peer) : PeerView where
  id := peer.key.id
  addresses := peer.addresses.map Address.text
  allowedIps := peer.addresses.map Address.hostRoute

end Peer

namespace Service

variable {count : Nat}

def add (registry : Registry count) (identity : Identity) :
    Reply Failure (Registry count) PeerView :=
  match identity.accept with
  | .error cause => ⟨.error (.rejected cause), registry, []⟩
  | .ok text =>
      let reply := registry.acquire (.text text)
      let answer := match reply.answer with
        | .ok addresses => .ok (Peer.view ⟨.text text, addresses⟩)
        | .error cause => .error (.failed cause)
      ⟨answer, reply.state, reply.log⟩

def has (registry : Registry count) (identity : Identity) : Except Rejection Bool :=
  identity.accept.map fun text => registry.has (.text text)

def remove (registry : Registry count) (identity : Identity) :
    Reply Failure (Registry count) Unit :=
  match identity.accept with
  | .error cause => ⟨.error (.rejected cause), registry, []⟩
  | .ok text =>
      let reply := registry.release (.text text)
      ⟨reply.answer.mapError fun violation => .failed (.corrupted violation),
        reply.state, reply.log⟩

def get (registry : Registry count) (key : PeerKey) : Option PeerView :=
  (registry.lookup key).map Peer.view

/-- All peers in the order of their identities; peers of equal identity stay in the
order of registration. -/
def list (registry : Registry count) : List PeerView :=
  (registry.peers.map Peer.view).mergeSort fun first second => !(second.id < first.id)

end Service

end TunnelLease

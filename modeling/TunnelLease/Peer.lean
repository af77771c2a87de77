import TunnelLease.Literal

/-!
# Peers

A peer is known by an opaque key, a text or a byte string, and holds one address
of each pool.  A text key and a byte key are never the same.
-/

namespace TunnelLease

/-- What identifies a peer.  Callers may also come without a key. -/
inductive PeerKey where
  | text (content : String)
  | bytes (content : List UInt8)
  | absent
deriving DecidableEq

namespace PeerKey

/-- Whether a key is too empty to identify anyone. -/
def isVoid : PeerKey → Bool
  | .text content => content == ""
  | .bytes content => content.isEmpty
  | .absent => true

def toLiteral : PeerKey → Literal
  | .text content => .text content
  | .bytes content => .bytes content
  | .absent => .absent

def shown (key : PeerKey) : String :=
  key.toLiteral.shown

end PeerKey

/-- A registered peer and its addresses in the order of the pools. -/
structure Peer where
  key : PeerKey
  addresses : List Address
deriving DecidableEq

end TunnelLease

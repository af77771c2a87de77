import TunnelLease.Error

/-!
# Configurations

A configuration gives the block of each family as text, the addresses that are not
to be leased, and the limit on listing a block.  The empty text leaves a family
out.
-/

namespace TunnelLease

structure Config where
  ipv4 : String
  ipv6 : String
  reserved : List String
  limit : Int
deriving DecidableEq

namespace Config

/-- The configuration that holds unless a settings file says otherwise. -/
def default : Config where
  ipv4 := "10.8.0.1/24"
  ipv6 := ""
  reserved := []
  limit := Block.defaultLimit

end Config

end TunnelLease

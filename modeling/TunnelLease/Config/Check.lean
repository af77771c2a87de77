import TunnelLease.Block.Parser
import TunnelLease.Config.Basic

/-!
# Checking configurations

A configuration is fit to build pools from if it has a block of at least one family,
each block is of the family it is meant for, the limit is positive, and every
reserved address lies in one of the blocks.
-/

namespace TunnelLease

/-- Reads a block that must not be empty and, if a version is required, must be of
that family. -/
def Block.require (text : String) (version : Option Int) : Except Unfit Block :=
  match Block.ofText text Block.defaultLimit with
  | .error cause => .error (.block cause)
  | .ok block =>
      match block.subnet with
      | none => .error .emptyBlock
      | some subnet =>
          match version with
          | none => .ok block
          | some required =>
              if required = subnet.family.version then .ok block
              else .error (.family required subnet.family text)

def Address.requireAll : List Literal → Except Unfit (List Address)
  | [] => .ok []
  | written :: later =>
      match Address.ofLiteral? written with
      | none => .error (.address written)
      | some address => (requireAll later).map (address :: ·)

namespace Config

/-- Reads the block of a family, unless the family is left out. -/
def familyBlock (text : String) (family : Family) : Except Unfit (List Block) :=
  if text = "" then .ok []
  else (Block.require text (some (family.version : Int))).map fun block => [block]

/-- Checks that each reserved address lies in one of the blocks. -/
def checkInside (blocks : List Block) : List Address → Except Unfit Unit
  | [] => .ok ()
  | address :: later =>
      if blocks.any fun block => block.contains address then checkInside blocks later
      else .error (.outside address)

/-- Checks the blocks and the reserved addresses. -/
def checkFit (config : Config) : Except Unfit Unit := do
  let narrow ← familyBlock config.ipv4 .v4
  let wide ← familyBlock config.ipv6 .v6
  let reserved ← Address.requireAll (config.reserved.map Literal.text)
  checkInside (narrow ++ wide) reserved

def check (config : Config) : Except Misconfiguration Unit :=
  if config.ipv4 = "" ∧ config.ipv6 = "" then .error .noBlocks
  else if config.limit < 1 then .error .limitNotPositive
  else config.checkFit.mapError .unfit

end Config

end TunnelLease

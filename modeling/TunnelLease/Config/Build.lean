import TunnelLease.Config.Check
import TunnelLease.Registry.Basic

/-!
# Building pools

A fit configuration has one pool for each family that it does not leave out, the
narrower family first.  Each reserved address is reserved in the first pool whose
block has it; that it is reserved already does no harm.
-/

namespace TunnelLease

namespace Config

inductive BuildFault where
  | refused (cause : Error)
  /-- No pool has the address that is to be reserved. -/
  | homeless (address : Address)
deriving DecidableEq

def BuildFault.message : BuildFault → String
  | .refused cause => cause.message
  | .homeless address => s!"no pool has the reserved address {address.text}"

/-- The texts of the blocks that are not left out. -/
def blockTexts (config : Config) : List String :=
  [config.ipv4, config.ipv6].filter (· ≠ "")

def createPools : List Block → List Pool × List Event
  | [] => ([], [])
  | block :: blocks =>
      let made := Pool.create block
      let later := createPools blocks
      (made.1 :: later.1, made.2 ++ later.2)

/-- Reserves an address in the first pool whose block has it. -/
def reserveIn (written : String) (address : Address) :
    List Pool → Except BuildFault (List Pool × List Event)
  | [] => .error (.homeless address)
  | pool :: pools =>
      if pool.block.contains address then
        let reply := pool.reserve address
        match reply.answer with
        | .ok _ => .ok (reply.state :: pools, reply.log)
        | .error (.inUse _) =>
            .ok (reply.state :: pools, reply.log ++ [.alreadyReserved written pool.block])
        | .error cause => .error (.refused cause)
      else (reserveIn written address pools).map fun later => (pool :: later.1, later.2)

def reserveEach (pools : List Pool) : List String → Except BuildFault (List Pool × List Event)
  | [] => .ok (pools, [])
  | written :: later => do
      let address ← (Address.ofLiteral (.text written)).mapError BuildFault.refused
      let first ← reserveIn written address pools
      let rest ← reserveEach first.1 later
      return (rest.1, first.2 ++ rest.2)

/-- Reads blocks with the limit of a configuration. -/
def readBlocks (limit : Int) : List String → Except BuildFault (List Block)
  | [] => .ok []
  | text :: texts => do
      let block ← (Block.ofText text limit).mapError fun cause => .refused (.unreadable cause)
      let blocks ← readBlocks limit texts
      return block :: blocks

def buildPools (config : Config) : Except BuildFault (List Pool × List Event) := do
  config.check.mapError fun cause => .refused (.misconfigured cause)
  let blocks ← readBlocks config.limit config.blockTexts
  let made := createPools blocks
  let reserved ← reserveEach made.1 config.reserved
  return (reserved.1, made.2 ++ reserved.2 ++ [.provisioned (reserved.1.map Pool.block)])

structure SomeRegistry where
  count : Nat
  registry : Registry count

/-- A registry over a list of pools, one position for each. -/
def registryOf (pools : List Pool) : Except Error SomeRegistry :=
  (Registry.ofPools ⟨pools.toArray, rfl⟩).map fun registry => ⟨_, registry⟩

/-- Builds a registry over the pools of a configuration. -/
def buildRegistry (config : Config) : Except BuildFault SomeRegistry := do
  let built ← config.buildPools
  (registryOf built.1).mapError BuildFault.refused

end Config

end TunnelLease

import TunnelLease.CommandLine.Command
import TunnelLease.Config.Build
import TunnelLease.Config.Load
import TunnelLease.Text.ControlSequence

/-!
# Running commands

A command prints lines and ends with an exit code: zero if it did what it was asked,
one if it was refused.  The refusal goes to the error output; only the exhaustion
that a simulation runs into is part of its normal output.
-/

namespace TunnelLease

namespace CommandLine

/-- The lines that a command prints, on both outputs, and its exit code. -/
structure Outcome where
  code : Nat
  output : List String
  errors : List String
deriving DecidableEq

namespace Outcome

/-- Lines as one text, each with its line feed.  Control sequences are left out
unless the text goes to a terminal. -/
def joinLines (terminal : Bool) (lines : List String) : String :=
  let text := String.join (lines.map (· ++ "\n"))
  if terminal then text else String.ofList (Text.withoutControlSequences text.toList)

/-- The outcome of a command that did what it was asked. -/
def success (output : List String) : Outcome := ⟨0, output, []⟩

/-- The outcome of a command that was refused before it printed anything. -/
def refusal (activity reason : String) : Outcome :=
  ⟨1, [], [s!"Error {activity}: {reason}"]⟩

end Outcome

/-- The layout of a block and how many addresses a pool of it can lease. -/
def layout (block : Block) (subnet : Subnet) : List String :=
  let broadcast := match block.broadcast with
    | .ok address => address.text
    | .error _ => "n/a"
  [s!"Prefix:    {block.text}",
    s!"Family:    IPv{subnet.family.version}",
    s!"Length:    /{subnet.length}",
    s!"Size:      {block.size}",
    s!"Network:   {subnet.network.text}",
    s!"Broadcast: {broadcast}",
    s!"Leasable:  {(Pool.ofBlock block).capacity}"]

def runShowBlock (written : String) : Outcome :=
  match Block.ofText written Block.defaultLimit with
  | .error cause => Outcome.refusal "showing prefix" cause.message
  | .ok block =>
      match block.subnet with
      | none => Outcome.refusal "showing prefix" Unfit.emptyBlock.message
      | some subnet => Outcome.success (layout block subnet)

/-- Lists the addresses of a block, at most `count` of them if it is positive. -/
def runListBlock (written : String) (count limit : Int) : Outcome :=
  match Block.ofText written limit with
  | .error cause => Outcome.refusal "listing prefix" cause.message
  | .ok block =>
      match block.addresses with
      | .error cause => Outcome.refusal "listing prefix" cause.message
      | .ok addresses =>
          let chosen := if 0 < count then addresses.take count.toNat else addresses
          Outcome.success (chosen.map Address.text)

/-- One line for each pool; `index` counts them. -/
def poolLines (index : Nat) : List Pool → List String
  | [] => []
  | pool :: pools =>
      let version := match pool.block.subnet with
        | none => "None"
        | some subnet => toString subnet.family.version
      (s!"pool={index} prefix={pool.block.text} family=IPv{version} " ++
        s!"size={pool.block.size} reserved={pool.reserved.length} capacity={pool.capacity}") ::
        poolLines (index + 1) pools

def runShowPools (source : Config.Source) (path : Option String) : Outcome :=
  match Config.load source path with
  | .error fault => Outcome.refusal "showing pools" fault.message
  | .ok config =>
      match config.buildPools with
      | .error cause => Outcome.refusal "showing pools" cause.message
      | .ok built => Outcome.success (poolLines 0 built.1)

def Outcome.after (line : String) (outcome : Outcome) : Outcome :=
  { outcome with output := line :: outcome.output }

def registeredLine {count : Nat} (registry : Registry count) (peers : Nat) : String :=
  s!"Registered {registry.size} of {peers} peers"

/-- Registers peers until all are, or a pool is exhausted.  `left` of the `peers` are
still to come. -/
def simulatePeers {count : Nat} (registry : Registry count) (peers : Nat) : Nat → Outcome
  | 0 => Outcome.success [registeredLine registry peers]
  | left + 1 =>
      let name := s!"peer-{peers - left}"
      let reply := registry.acquire (.text name)
      match reply.answer with
      | .ok addresses =>
          (simulatePeers reply.state peers left).after
            (name ++ " " ++ ",".intercalate (addresses.map Address.hostRoute))
      | .error (.refused (.exhausted block)) =>
          ⟨1, [s!"{name} rejected: {(Error.exhausted block).message}",
            registeredLine reply.state peers], []⟩
      | .error failure => Outcome.refusal "simulating peers" failure.message

/-- Registers peers with new pools of a configuration. -/
def runSimulate (source : Config.Source) (peers : Nat) (path : Option String) : Outcome :=
  match Config.load source path with
  | .error fault => Outcome.refusal "simulating peers" fault.message
  | .ok config =>
      match config.buildRegistry with
      | .error cause => Outcome.refusal "simulating peers" cause.message
      | .ok built => simulatePeers built.registry peers peers

def Command.run (source : Config.Source) : Command → Outcome
  | .showBlock written => runShowBlock written
  | .listBlock written count limit => runListBlock written count limit
  | .showPools path => runShowPools source path
  | .simulate peers path => runSimulate source peers path

end CommandLine

end TunnelLease

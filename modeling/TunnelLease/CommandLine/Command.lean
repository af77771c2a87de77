import TunnelLease.CommandLine.Arguments
import TunnelLease.CommandLine.Integer

/-!
# Commands

There are two groups of commands: `prefix` looks at a block by itself, `pool` at the
pools of a configuration.  Arguments that do not make a command are misused, and the
reader gives no answer.
-/

namespace TunnelLease

namespace CommandLine

inductive Command where
  | showBlock (written : String)
  | listBlock (written : String) (count limit : Int)
  | showPools (path : Option String)
  | simulate (peers : Nat) (path : Option String)
deriving DecidableEq

/-- The integer that an option gives, or a default if the option is not there. -/
def integerOption? (arguments : Arguments) (name : String) (fallback : Int) : Option Int :=
  match arguments.value? name with
  | none => some fallback
  | some value => readInteger? value.toList

/-- The path that an option gives, if the option is there.  No file's path holds the
null character, so there is no answer to such a one. -/
def pathOption? (arguments : Arguments) (name : String) : Option (Option String) :=
  match arguments.value? name with
  | none => some none
  | some path => if path.contains '\x00' then none else some (some path)

/-- Reads the arguments of a command that shows a block. -/
def showBlock? (arguments : List String) : Option Command := do
  let given ← Arguments.read? [] arguments
  match given.words with
  | [written] => some (.showBlock written)
  | _ => none

/-- Reads the arguments of a command that lists a block. -/
def listBlock? (arguments : List String) : Option Command := do
  let given ← Arguments.read? ["--limit", "--max-size"] arguments
  let count ← integerOption? given "--limit" 0
  let limit ← integerOption? given "--max-size" 65536
  match given.words with
  | [written] => some (.listBlock written count limit)
  | _ => none

/-- Reads the arguments of a command that shows the pools. -/
def showPools? (arguments : List String) : Option Command := do
  let given ← Arguments.read? ["--config"] arguments
  let path ← pathOption? given "--config"
  match given.words with
  | [] => some (.showPools path)
  | _ => none

/-- Reads the arguments of a command that simulates peers, of which there is at least
one. -/
def simulate? (arguments : List String) : Option Command := do
  let given ← Arguments.read? ["--peers", "--config"] arguments
  let written ← given.value? "--peers"
  let peers ← readInteger? written.toList
  let path ← pathOption? given "--config"
  match given.words with
  | [] => if 1 ≤ peers then some (.simulate peers.toNat path) else none
  | _ => none

def Command.read? (arguments : List String) : Option Command := do
  match ← skipSwitches isVerbose arguments with
  | [] => none
  | group :: rest =>
      match ← skipSwitches (fun _ => false) rest with
      | [] => none
      | name :: arguments =>
          if group = "prefix" ∧ name = "show" then showBlock? arguments
          else if group = "prefix" ∧ name = "list" then listBlock? arguments
          else if group = "pool" ∧ name = "show" then showPools? arguments
          else if group = "pool" ∧ name = "simulate" then simulate? arguments
          else none

/-- The path of the settings file that a command asks for. -/
def Command.path : Command → Option String
  | .showBlock .. | .listBlock .. => none
  | .showPools path | .simulate _ path => path

end CommandLine

end TunnelLease

import TunnelLease.CommandLine.Run

/-!
# The program

Reads the arguments, the environment and the settings file, and leaves the rest to
the commands.  Misuse ends with exit code two.
-/

namespace TunnelLease

/-- The path of the settings file if neither the arguments nor the environment give
one. -/
def standardPath : String := "/etc/vpn-ipam/ipam.conf"

def usage : String :=
  "Usage: vpn-ipam [-v|--verbose] COMMAND\n" ++
  "  prefix show CIDR\n" ++
  "  prefix list CIDR [--limit INTEGER] [--max-size INTEGER]\n" ++
  "  pool show [--config PATH]\n" ++
  "  pool simulate --peers INTEGER [--config PATH]"

/-- Whether the system's number of a fault, which may come negated, is the one for a
name that is too long. -/
def isNameTooLong (number : UInt32) : Bool :=
  number == 36 || -number == 36

/-- Reads a file; whatever else cannot be read counts as absent. -/
def lookupFile (path : String) : IO Lookup := do
  try
    let content ← IO.FS.readBinFile path
    return .file content.toList
  catch
    | .invalidArgument _ number _ =>
        return if isNameTooLong number then .tooLong else .absent
    | _ => return .absent

end TunnelLease

open TunnelLease in
/-- Runs the command that the arguments ask for. -/
def main (arguments : List String) : IO UInt32 := do
  match CommandLine.Command.read? arguments with
  | none =>
      IO.eprintln usage
      return 2
  | some command =>
      let environment ← IO.getEnv "VPN_IPAM_CONFIG_PATH"
      let silent : Config.Source := ⟨fun _ => .absent, environment, standardPath⟩
      let found ← lookupFile (silent.path command.path)
      let outcome := command.run { silent with lookup := fun _ => found }
      let output ← (← IO.getStdout).isTty
      let errors ← (← IO.getStderr).isTty
      IO.print (CommandLine.Outcome.joinLines output outcome.output)
      IO.eprint (CommandLine.Outcome.joinLines errors outcome.errors)
      return outcome.code.toUInt32

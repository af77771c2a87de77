import TunnelLease.Config.Basic
import TunnelLease.Directory
import TunnelLease.Settings.Reader
import TunnelLease.Settings.Reference
import TunnelLease.Text.Integer

/-!
# Loading configurations

The configuration stands in the section `ipam` of a settings file.  What the file
does not say, and a file that is not there, leaves the defaults.  Values are
trimmed; the reserved addresses are parted by commas, and empty ones are skipped;
a limit that is not an integer is ignored.
-/

namespace TunnelLease

namespace Config

/-- The section that holds the configuration. -/
def sectionName : List Char := "ipam".toList

/-- The trimmed value of a key, or of a default. -/
def field (document : Settings.Document) (key fallback : String) :
    Except Settings.Fault (List Char) :=
  (document.value? sectionName key.toList).map fun value =>
    Text.trim (value.getD fallback.toList)

/-- The entries of a list with commas between. -/
def entries (text : List Char) : List String :=
  ((text.splitOn ',').map Text.trim).filterMap fun entry =>
    if entry.isEmpty then none else some (String.ofList entry)

/-- The configuration of a document that has the section. -/
def ofSection (document : Settings.Document) : Except Settings.Fault Config := do
  let reserved ← field document "reserved" ""
  let ipv4 ← field document "ipv4_addr" default.ipv4
  let ipv6 ← field document "ipv6_addr" default.ipv6
  let limit ← field document "max_prefix_size" (toString default.limit)
  return {
    ipv4 := String.ofList ipv4
    ipv6 := String.ofList ipv6
    reserved := entries reserved
    limit := (Text.readInteger? limit).getD default.limit }

def ofDocument (document : Settings.Document) : Except Settings.Fault Config :=
  if document.hasSection sectionName then ofSection document else .ok default

/-- The configuration in the bytes of a settings file. -/
def ofBytes (bytes : List UInt8) : Except Settings.Fault Config :=
  match Settings.readFile bytes with
  | .error fault => .error fault
  | .ok document => ofDocument document

inductive LoadFault where
  | settings (path : String) (fault : Settings.Fault)
  | nameTooLong (path : String)
deriving DecidableEq

def LoadFault.message : LoadFault → String
  | .settings path fault => fault.message path
  | .nameTooLong path => "[Errno 36] File name too long: " ++ Text.quoted path

/-- Where configurations come from: the files at hand, the path that the environment
gives, and the path to use if nobody gives one. -/
structure Source where
  lookup : String → Lookup
  environment : Option String
  standard : String

/-- The path of the settings file: the one that is asked for, else the one that the
environment gives unless it is empty, else the standard one. -/
def Source.path (source : Source) (asked : Option String) : String :=
  match asked with
  | some path => normalPath path
  | none =>
      match source.environment with
      | some path => normalPath (if path = "" then source.standard else path)
      | none => normalPath source.standard

def load (source : Source) (asked : Option String) : Except LoadFault Config :=
  let path := source.path asked
  match source.lookup path with
  | .absent => .ok default
  | .tooLong => .error (.nameTooLong path)
  | .file bytes => (ofBytes bytes).mapError (.settings path)

end Config

end TunnelLease

import TunnelLease.Settings.Fault
import TunnelLease.Text.Blank
import TunnelLease.Text.LowerCase

/-!
# Settings documents

A document is what a settings file says before references are resolved: the names
of its sections and, in the order of the file, the entries of each.  The default
section is no section of its own; its entries are seen from every other one.
-/

namespace TunnelLease

namespace Settings

/-- A setting: its section, its key in lower case, and the lines of its value. -/
structure Entry where
  sectionName : List Char
  key : List Char
  lines : List (List Char)
deriving DecidableEq

/-- The lines of a value as one text, without the blank lines at its end. -/
def Entry.value (entry : Entry) : List Char :=
  Text.trimEnd (['\n'].intercalate entry.lines)

/-- The section whose entries every section has. -/
def defaultSection : List Char := "DEFAULT".toList

structure Document where
  sections : List (List Char)
  entries : List Entry
deriving DecidableEq

namespace Document

def empty : Document := ⟨[], []⟩

def hasSection (document : Document) (sectionName : List Char) : Bool :=
  document.sections.contains sectionName

def ownValue? (document : Document) (sectionName key : List Char) : Option (List Char) :=
  (document.entries.find? fun entry =>
    entry.sectionName == sectionName && entry.key == key).map Entry.value

/-- The value of a key as seen from a section, with its references unresolved. -/
def rawValue? (document : Document) (sectionName key : List Char) : Option (List Char) :=
  (document.ownValue? sectionName key).or (document.ownValue? defaultSection key)

end Document

end Settings

end TunnelLease

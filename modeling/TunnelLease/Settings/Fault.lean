import TunnelLease.Text.Quoted
import TunnelLease.Text.Utf8

/-!
# Faults of settings files

A settings file can be refused when it is read or, for the sake of a reference in
a value, when the value is.  `message` puts a fault into words; those of the
first sort name the file.
-/

namespace TunnelLease

namespace Settings

inductive Fault where
  | undecodable (fault : Text.Utf8.Fault)
  /-- A line with content stands before the first section. -/
  | noSection (number : Nat) (line : List Char)
  | repeatedSection (number : Nat) (sectionName : List Char)
  | repeatedKey (number : Nat) (sectionName key : List Char)
  /-- The lines, with their numbers, that are neither a section nor a setting. -/
  | flawedLines (lines : List (Nat × List Char))
  /-- A percent sign that starts neither a reference nor a pair; `rest` starts with it. -/
  | strayPercent (rest : List Char)
  /-- A reference that is not closed as it should; `rest` starts with it. -/
  | badReference (rest : List Char)
  | unknownReference (key sectionName reference raw : List Char)
  | tooDeep (key sectionName raw : List Char)
deriving DecidableEq

/-- The number of levels that references may be nested. -/
def referenceDepth : Nat := 10

def quoteText (text : List Char) : String :=
  String.ofList (Text.quote text)

def shownPath (path : String) : String :=
  "PosixPath(" ++ Text.quoted path ++ ")"

/-- The number of a line in at least two places. -/
def shownNumber (number : Nat) : String :=
  if number < 10 then s!" {number}" else toString number

/-- What is wrong with bytes that are not UTF-8. -/
def undecodableMessage (fault : Text.Utf8.Fault) : String :=
  let reason := match fault.flaw with
    | .start => "invalid start byte"
    | .continuation => "invalid continuation byte"
    | .cut => "unexpected end of data"
  let place :=
    if fault.length = 1 then
      "byte 0x" ++ String.ofList (Text.hexPadded 2 fault.byte.toNat) ++
        s!" in position {fault.position}"
    else s!"bytes in position {fault.position}-{fault.position + fault.length - 1}"
  s!"'utf-8' codec can't decode {place}: {reason}"

def Fault.message (path : String) : Fault → String
  | .undecodable fault => undecodableMessage fault
  | .noSection number line =>
      s!"File contains no section headers.\nfile: {shownPath path}, line: {number}\n" ++
        quoteText line
  | .repeatedSection number sectionName =>
      s!"While reading from {shownPath path} [line {shownNumber number}]: " ++
        s!"section {quoteText sectionName} already exists"
  | .repeatedKey number sectionName key =>
      s!"While reading from {shownPath path} [line {shownNumber number}]: " ++
        s!"option {quoteText key} in section {quoteText sectionName} already exists"
  | .flawedLines lines =>
      s!"Source contains parsing errors: {shownPath path}" ++
        String.join (lines.map fun line =>
          s!"\n\t[line {shownNumber line.1}]: " ++ quoteText line.2)
  | .strayPercent rest =>
      s!"'%' must be followed by '%' or '(', found: {quoteText rest}"
  | .badReference rest => s!"bad interpolation variable reference {quoteText rest}"
  | .unknownReference key sectionName reference raw =>
      s!"Bad value substitution: option {quoteText key} in section " ++
        s!"{quoteText sectionName} contains an interpolation key " ++
        s!"{quoteText reference} which is not a valid option name. " ++
        s!"Raw value: {quoteText raw}"
  | .tooDeep key sectionName raw =>
      s!"Recursion limit exceeded in value substitution: option {quoteText key} " ++
        s!"in section {quoteText sectionName} contains an interpolation key which " ++
        s!"cannot be substituted in {referenceDepth} steps. Raw value: {quoteText raw}"

end Settings

end TunnelLease

import TunnelLease.Settings.Document
import TunnelLease.Settings.Line

/-!
# Reading settings files

A line whose first character other than blanks is `#` or `;` is a comment.  A name
in square brackets starts a section.  A key and a value with `=` or `:` between
are a setting, and the lines below that are indented deeper than it continue its
value, empty lines included.  A section may occur once, and a key once in it; only
the default section may be resumed.  Lines that are none of these are collected,
so that a file is refused for all of them at once.
-/

namespace TunnelLease

namespace Settings

/-- What has been read of a file.  `current` is the section that settings belong to,
`continues` tells whether the newest entry may go on, and `indent` is the depth of the
newest section or setting. -/
structure Reading where
  sections : List (List Char)
  entries : List Entry
  current : Option (List Char)
  continues : Bool
  indent : Nat
  flawed : List (Nat × List Char)

namespace Reading

def start : Reading := ⟨[], [], none, false, 0, []⟩

/-- Adds a line to the value of the newest entry. -/
def extend (reading : Reading) (line : List Char) : Reading :=
  match reading.entries.getLast? with
  | none => reading
  | some entry =>
      let longer := { entry with lines := entry.lines ++ [line] }
      { reading with entries := reading.entries.dropLast ++ [longer] }

def enter (reading : Reading) (number : Nat) (sectionName : List Char) :
    Except Fault Reading :=
  if sectionName ∈ reading.sections then .error (.repeatedSection number sectionName)
  else
    let sections :=
      if sectionName = defaultSection then reading.sections
      else reading.sections ++ [sectionName]
    .ok { reading with sections := sections, current := some sectionName, continues := false }

def noteFlaw (reading : Reading) (number : Nat) (line : List Char) : Reading :=
  { reading with flawed := reading.flawed ++ [(number, line)] }

def add (reading : Reading) (number : Nat) (sectionName key value : List Char) :
    Except Fault Reading :=
  if reading.entries.any fun entry => entry.sectionName == sectionName && entry.key == key then
    .error (.repeatedKey number sectionName key)
  else
    .ok { reading with
      entries := reading.entries ++ [⟨sectionName, key, [value]⟩]
      continues := !key.isEmpty }

end Reading

/-- The name between an opening bracket at the start and the last closing one. -/
def sectionName? (content : List Char) : Option (List Char) :=
  match content with
  | '[' :: rest =>
      match rest.reverse.dropWhile (· != ']') with
      | _ :: name => if name.isEmpty then none else some name.reverse
      | [] => none
  | _ => none

/-- Whether a character parts a key from its value. -/
def isDelimiter (c : Char) : Bool :=
  c == '=' || c == ':'

/-- The key in lower case and the value on the two sides of the first delimiter. -/
def setting? (content : List Char) : Option (List Char × List Char) :=
  match content.dropWhile (!isDelimiter ·) with
  | _ :: value =>
      let key := Text.trimEnd (content.takeWhile (!isDelimiter ·))
      some (Text.toLower key, Text.trim value)
  | [] => none

/-- Reads a line that has content and does not continue a value. -/
def readContent (reading : Reading) (number : Nat) (line content : List Char) :
    Except Fault Reading :=
  match sectionName? content with
  | some sectionName => reading.enter number sectionName
  | none =>
      match reading.current with
      | none => .error (.noSection number line)
      | some sectionName =>
          match setting? content with
          | none => .ok (reading.noteFlaw number line)
          | some (key, value) =>
              let noted := if key.isEmpty then reading.noteFlaw number line else reading
              noted.add number sectionName key value

def readLine (reading : Reading) (number : Nat) (line : List Char) : Except Fault Reading :=
  let content := Text.trim line
  match content with
  | [] => .ok (if reading.continues then reading.extend [] else reading)
  | first :: _ =>
      if first = '#' ∨ first = ';' then .ok reading
      else
        let indent := (line.takeWhile Text.isBlank).length
        if reading.continues ∧ reading.indent < indent then .ok (reading.extend content)
        else readContent { reading with indent := indent } number line content

/-- Reads lines, the first of which has a given number. -/
def readLines (reading : Reading) (number : Nat) : List (List Char) → Except Fault Reading
  | [] => .ok reading
  | line :: lines =>
      match readLine reading number line with
      | .error fault => .error fault
      | .ok next => readLines next (number + 1) lines

/-- Reads a file.  Of several faults, one that ends the reading at a line wins over
bytes that cannot be decoded further down, and these win over flawed lines. -/
def readFile (bytes : List UInt8) : Except Fault Document :=
  let file := fileLines bytes
  match readLines Reading.start 1 file.1 with
  | .error fault => .error fault
  | .ok reading =>
      match file.2 with
      | some fault => .error (.undecodable fault)
      | none =>
          if reading.flawed.isEmpty then .ok ⟨reading.sections, reading.entries⟩
          else .error (.flawedLines reading.flawed)

end Settings

end TunnelLease

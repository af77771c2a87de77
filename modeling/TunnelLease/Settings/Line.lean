import TunnelLease.Text.Utf8

/-!
# Lines of a settings file

A carriage return, a line feed and the two in this order end a line alike.  Lines
keep their end, which is a line feed after reading.  If the bytes of a file are
faulty, only the lines that were complete before the faulty block are there.
-/

namespace TunnelLease

namespace Settings

/-- The text with every line end turned into a line feed. -/
def unifyLineEnds : List Char → List Char
  | [] => []
  | '\r' :: '\n' :: rest => '\n' :: unifyLineEnds rest
  | c :: rest => (if c = '\r' then '\n' else c) :: unifyLineEnds rest

/-- The complete lines of a text with their line feeds, and what follows the last. -/
def completeLines : List Char → List (List Char) × List Char
  | [] => ([], [])
  | c :: rest =>
      let later := completeLines rest
      if c = '\n' then ([c] :: later.1, later.2)
      else
        match later with
        | ([], tail) => ([], c :: tail)
        | (line :: lines, tail) => ((c :: line) :: lines, tail)

/-- All lines of a text; the last may lack its line feed. -/
def allLines (text : List Char) : List (List Char) :=
  let split := completeLines (unifyLineEnds text)
  split.1 ++ if split.2.isEmpty then [] else [split.2]

/-- The lines that are complete even if more text follows: a carriage return at the
end might be half of a line end. -/
def settledLines (text : List Char) : List (List Char) :=
  let settled := if text.getLast? == some '\r' then text.dropLast else text
  (completeLines (unifyLineEnds settled)).1

/-- The lines of a file, and the fault that ended them early. -/
def fileLines (bytes : List UInt8) : List (List Char) × Option Text.Utf8.Fault :=
  match Text.Utf8.decodeFile bytes with
  | (text, none) => (allLines text, none)
  | (text, some fault) => (settledLines text, some fault)

end Settings

end TunnelLease

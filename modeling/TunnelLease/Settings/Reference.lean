import TunnelLease.Settings.Document

/-!
# References in values

A value may refer to another key of its section: `%(name)s` stands for the value
of that key, with the references in it resolved in turn, up to ten levels deep.
Two percent signs stand for one.  References are resolved only in the values that
are asked for.
-/

namespace TunnelLease

namespace Settings

inductive Piece where
  | literal (c : Char)
  | reference (name : List Char)
  /-- A percent sign that starts nothing, with all that follows. -/
  | stray (rest : List Char)
  /-- A reference that is empty or not closed, with all that follows. -/
  | malformed (rest : List Char)
deriving DecidableEq

/-- The name of a reference, which has an opening parenthesis before the text, and
the text behind the reference. -/
def reference? (text : List Char) : Option (List Char × List Char) :=
  match text.dropWhile (· != ')') with
  | _ :: 's' :: rest =>
      if (text.takeWhile (· != ')')).isEmpty then none
      else some (text.takeWhile (· != ')'), rest)
  | _ => none

theorem reference?_length {text name rest : List Char}
    (found : reference? text = some (name, rest)) : rest.length < text.length := by
  unfold reference? at found
  split at found
  · rename_i closing tail shape
    have shorter := (List.dropWhile_suffix (p := (· != ')')) (l := text)).length_le
    split at found
    · cases found
    · cases found
      rw [shape] at shorter
      simp only [List.length_cons] at shorter
      omega
  · cases found

def pieces (value : List Char) : List Piece :=
  match value with
  | [] => []
  | c :: rest =>
      if c ≠ '%' then .literal c :: pieces rest
      else
        match rest with
        | [] => [.stray [c]]
        | next :: after =>
            if next = '%' then .literal '%' :: pieces after
            else if next = '(' then
              match found : reference? after with
              | none => [.malformed (c :: next :: after)]
              | some (name, behind) =>
                  have := reference?_length found
                  .reference name :: pieces behind
            else [.stray (c :: next :: after)]
termination_by value.length
decreasing_by
  all_goals simp_all only [List.length_cons]
  all_goals omega

/-- Where a value stands: what its keys are worth, and how faults name it. -/
structure Place where
  valueOf : List Char → Option (List Char)
  sectionName : List Char
  key : List Char
  raw : List Char

/-- Joins the texts that a function finds for parts; the first fault wins. -/
def joinPieces (resolvePiece : Piece → Except Fault (List Char)) :
    List Piece → Except Fault (List Char)
  | [] => .ok []
  | piece :: later =>
      match resolvePiece piece with
      | .error fault => .error fault
      | .ok text =>
          match joinPieces resolvePiece later with
          | .error fault => .error fault
          | .ok rest => .ok (text ++ rest)

/-- Resolves the references in a value with a number of levels to go. -/
def resolve (place : Place) : Nat → List Char → Except Fault (List Char)
  | 0, _ => .error (.tooDeep place.key place.sectionName place.raw)
  | levels + 1, value =>
      joinPieces (fun piece =>
        match piece with
        | .literal c => .ok [c]
        | .stray rest => .error (.strayPercent rest)
        | .malformed rest => .error (.badReference rest)
        | .reference name =>
            let target := Text.toLower name
            match place.valueOf target with
            | none =>
                .error (.unknownReference place.key place.sectionName target place.raw)
            | some found =>
                if '%' ∈ found then resolve place levels found else .ok found)
        (pieces value)

/-- The value of a key as seen from a section, with its references resolved. -/
def Document.value? (document : Document) (sectionName key : List Char) :
    Except Fault (Option (List Char)) :=
  match document.rawValue? sectionName key with
  | none => .ok none
  | some raw =>
      let place := ⟨document.rawValue? sectionName, sectionName, key, raw⟩
      (resolve place referenceDepth raw).map some

end Settings

end TunnelLease

import TunnelLease.Text.DecimalDigit

/-!
# Message templates

A template is literal text with fields in it.  A field is a percent sign, a name in
parentheses, flags, a width, a point with a precision, and the letter of a
conversion; all but the percent sign and the letter may be left out.  Two percent
signs stand for one.  A template is taken apart before any argument is looked at, so
arguments are copied as they are, whatever they look like.
-/

namespace TunnelLease

namespace Template

/-- How the value of a field is laid out: to the left, with a sign or a blank before
a number that has none, in its alternate form, and filled up with zeros. -/
structure Flags where
  left : Bool
  plus : Bool
  blank : Bool
  alternate : Bool
  zeros : Bool
deriving DecidableEq

def Flags.plain : Flags := ⟨false, false, false, false, false⟩

inductive Amount where
  | unset
  | fixed (amount : Nat)
  /-- An asterisk: the amount is an argument of its own. -/
  | asked
deriving DecidableEq

inductive Ending where
  /-- A conversion, with the number of characters behind it. -/
  | conversion (letter : Char) (behind : Nat)
  /-- The template ends before the field does. -/
  | cut
  | widthTooBig
  | precisionTooBig
deriving DecidableEq

structure Field where
  name : Option (List Char)
  flags : Flags
  width : Amount
  precision : Amount
  ending : Ending
deriving DecidableEq

inductive Piece where
  | literal (c : Char)
  | field (field : Field)
  /-- A name whose parenthesis is never closed. -/
  | unclosed
deriving DecidableEq

/-- The name up to the parenthesis that closes it, and the text behind.  Inner
parentheses are balanced; `depth` counts those still open. -/
def closing (depth : Nat) : List Char → Option (List Char × List Char)
  | [] => none
  | c :: rest =>
      if c = ')' then
        match depth with
        | 0 => some ([], rest)
        | outer + 1 => (closing outer rest).map fun found => (c :: found.1, found.2)
      else
        let inner := if c = '(' then depth + 1 else depth
        (closing inner rest).map fun found => (c :: found.1, found.2)

theorem closing_length {depth : Nat} {text name rest : List Char}
    (found : closing depth text = some (name, rest)) : rest.length < text.length := by
  induction text generalizing depth name with
  | nil => cases found
  | cons c text ih =>
      have later : ∀ {inner : Nat}, (closing inner text).map
          (fun found => (c :: found.1, found.2)) = some (name, rest) →
          rest.length < (c :: text).length := by
        intro inner mapped
        obtain ⟨⟨innerName, innerRest⟩, innerFound, same⟩ := Option.map_eq_some_iff.1 mapped
        cases same
        exact Nat.lt_succ_of_lt (ih innerFound)
      unfold closing at found
      split at found
      · cases depth with
        | zero =>
            cases found
            exact Nat.lt_succ_self _
        | succ outer => exact later found
      · exact later found

/-- Adds the flag of a character, if it has one.  An idle flag changes nothing. -/
def Flags.add? (idle : List Char) (flags : Flags) (c : Char) : Option Flags :=
  if c = '-' then some { flags with left := true }
  else if c = '+' then some { flags with plus := true }
  else if c = ' ' then some { flags with blank := true }
  else if c = '#' then some { flags with alternate := true }
  else if c = '0' then some { flags with zeros := true }
  else if c ∈ idle then some flags
  else none

/-- Reads flags, and gives the text behind them. -/
def readFlags (idle : List Char) (flags : Flags) : List Char → Flags × List Char
  | [] => (flags, [])
  | c :: rest =>
      match flags.add? idle c with
      | some more => readFlags idle more rest
      | none => (flags, c :: rest)

theorem readFlags_length (idle : List Char) (flags : Flags) (text : List Char) :
    (readFlags idle flags text).2.length ≤ text.length := by
  induction text generalizing flags with
  | nil => exact Nat.le_refl _
  | cons c text ih =>
      unfold readFlags
      split
      · exact Nat.le_succ_of_le (ih _)
      · exact Nat.le_refl _

/-- Reads an amount, which is `absent` if there is neither an asterisk nor a digit,
and gives the text behind it. -/
def readAmount (absent : Amount) (text : List Char) : Amount × List Char :=
  match text with
  | '*' :: rest => (.asked, rest)
  | _ =>
      let digits := text.takeWhile Text.isAsciiDigit
      if digits.isEmpty then (absent, text)
      else (.fixed (Nat.ofDigitChars 10 digits 0), text.dropWhile Text.isAsciiDigit)

theorem readAmount_length (absent : Amount) (text : List Char) :
    (readAmount absent text).2.length ≤ text.length := by
  unfold readAmount
  split
  · exact Nat.le_succ _
  · dsimp only
    split
    · exact Nat.le_refl _
    · exact (List.dropWhile_suffix (p := Text.isAsciiDigit) (l := text)).length_le

/-- Reads a precision: a point and an amount, which is zero if it is not written. -/
def readPrecision (text : List Char) : Amount × List Char :=
  match text with
  | '.' :: rest => readAmount (.fixed 0) rest
  | _ => (.unset, text)

theorem readPrecision_length (text : List Char) :
    (readPrecision text).2.length ≤ text.length := by
  unfold readPrecision
  split
  · exact Nat.le_succ_of_le (readAmount_length _ _)
  · exact Nat.le_refl _

/-- Skips a letter that tells the size of a number, which makes no difference. -/
def skipSize (text : List Char) : List Char :=
  match text with
  | 'h' :: rest | 'l' :: rest | 'L' :: rest => rest
  | _ => text

theorem skipSize_length (text : List Char) : (skipSize text).length ≤ text.length := by
  unfold skipSize
  split
  · exact Nat.le_succ _
  · exact Nat.le_succ _
  · exact Nat.le_succ _
  · exact Nat.le_refl _

/-- Whether an amount is written out and above a bound. -/
def Amount.exceeds (amount : Amount) (bound : Nat) : Bool :=
  match amount with
  | .fixed value => bound < value
  | _ => false

def widthBound : Nat := Nat.pow 2 63 - 1

def precisionBound : Nat := Nat.pow 2 31 - 1

/-- Reads a field from behind its name, and gives the text behind it. -/
def readField (idle : List Char) (name : Option (List Char)) (text : List Char) :
    Field × List Char :=
  let flags := readFlags idle .plain text
  let width := readAmount .unset flags.2
  let precision := readPrecision width.2
  if width.1.exceeds widthBound then
    (⟨name, flags.1, width.1, .unset, .widthTooBig⟩, width.2)
  else if precision.1.exceeds precisionBound then
    (⟨name, flags.1, width.1, precision.1, .precisionTooBig⟩, precision.2)
  else
    match skipSize precision.2 with
    | [] => (⟨name, flags.1, width.1, precision.1, .cut⟩, [])
    | letter :: after =>
        (⟨name, flags.1, width.1, precision.1, .conversion letter after.length⟩, after)

theorem readField_length (idle : List Char) (name : Option (List Char)) (text : List Char) :
    (readField idle name text).2.length ≤ text.length := by
  have flags := readFlags_length idle .plain text
  have width := readAmount_length .unset (readFlags idle .plain text).2
  have precision := readPrecision_length (readAmount .unset (readFlags idle .plain text).2).2
  have size := skipSize_length
    (readPrecision (readAmount .unset (readFlags idle .plain text).2).2).2
  unfold readField
  dsimp only
  split
  · exact Nat.le_trans width flags
  · split
    · exact Nat.le_trans precision (Nat.le_trans width flags)
    · split
      · exact Nat.zero_le _
      · rename_i letter after shape
        rw [shape] at size
        simp only [List.length_cons] at size
        dsimp only
        omega

/-- Takes a template apart, in which some flags are idle. -/
def pieces (idle : List Char) (template : List Char) : List Piece :=
  match template with
  | [] => []
  | c :: rest =>
      if c ≠ '%' then .literal c :: pieces idle rest
      else
        match rest with
        | '%' :: after => .literal '%' :: pieces idle after
        | '(' :: named =>
            match found : closing 0 named with
            | none => [.unclosed]
            | some (name, after) =>
                have := closing_length found
                have := readField_length idle (some name) after
                .field (readField idle (some name) after).1 ::
                  pieces idle (readField idle (some name) after).2
        | unnamed =>
            have := readField_length idle none unnamed
            .field (readField idle none unnamed).1 ::
              pieces idle (readField idle none unnamed).2
termination_by template.length
decreasing_by
  all_goals simp_all only [List.length_cons]
  all_goals omega

end Template

end TunnelLease

import TunnelLease.Text.DecimalDigit

/-!
# Control sequences

A terminal takes the escape character, an opening bracket, parameters and a letter
as a command and shows nothing for it.  Text that goes elsewhere is written without
such sequences.  They are found in one pass from left to right, so what comes to
stand together because a sequence is gone is not looked at again.
-/

namespace TunnelLease

namespace Text

/-- The character that starts a control sequence. -/
def escapeCharacter : Char := '\x1b'

/-- Whether a character may stand between the bracket and the letter. -/
def isParameter (c : Char) : Bool :=
  isAsciiDigit c || c == ';' || c == '?'

/-- The text behind a control sequence, whose escape character stands before the
text. -/
def afterSequence? (text : List Char) : Option (List Char) :=
  match text with
  | '[' :: parameters =>
      match parameters.dropWhile isParameter with
      | letter :: after => if letter.isAlpha then some after else none
      | [] => none
  | _ => none

theorem afterSequence?_length {text after : List Char}
    (found : afterSequence? text = some after) : after.length < text.length := by
  unfold afterSequence? at found
  split at found
  · rename_i parameters
    have shorter := (List.dropWhile_suffix (p := isParameter) (l := parameters)).length_le
    split at found
    · rename_i letter tail shape
      split at found
      · cases found
        rw [shape] at shorter
        simp only [List.length_cons] at shorter ⊢
        omega
      · cases found
    · cases found
  · cases found

def withoutControlSequences (text : List Char) : List Char :=
  match text with
  | [] => []
  | c :: rest =>
      if c = escapeCharacter then
        match found : afterSequence? rest with
        | some after =>
            have := afterSequence?_length found
            withoutControlSequences after
        | none => c :: withoutControlSequences rest
      else c :: withoutControlSequences rest
termination_by text.length
decreasing_by
  all_goals simp_all only [List.length_cons]
  all_goals omega

end Text

end TunnelLease

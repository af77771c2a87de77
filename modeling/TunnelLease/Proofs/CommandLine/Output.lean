import TunnelLease.CommandLine.Run
import TunnelLease.Proofs.Address.RoundTrip

/-!
# Plain output

Output that does not go to a terminal is written without control sequences.  That makes no
difference to lines without the character that starts one, and neither numbers nor the
texts of addresses without a zone have it.
-/

namespace TunnelLease

theorem Text.withoutControlSequences_of_plain {text : List Char}
    (plain : escapeCharacter ∉ text) : withoutControlSequences text = text := by
  induction text with
  | nil => rw [withoutControlSequences]
  | cons c text ih =>
      obtain ⟨different, later⟩ := not_or.mp (mt List.mem_cons.mpr plain)
      rw [withoutControlSequences, if_neg (Ne.symm different), ih later]

namespace CommandLine

/-- The text has no character that starts a control sequence. -/
def IsPlain (text : String) : Prop :=
  Text.escapeCharacter ∉ text.toList

instance (text : String) : Decidable (IsPlain text) :=
  inferInstanceAs (Decidable (¬ _))

namespace IsPlain

theorem append {first second : String} (isFirst : IsPlain first) (isSecond : IsPlain second) :
    IsPlain (first ++ second) := by
  rw [IsPlain, String.toList_append, List.mem_append, not_or]
  exact ⟨isFirst, isSecond⟩

theorem number (number : Nat) : IsPlain (toString number) := by
  change _ ∉ number.repr.toList
  rw [Nat.toList_repr]
  exact Text.not_mem_toDigits_ten (by decide) number

theorem address {address : Address} (unzoned : address.zone = none) : IsPlain address.text := by
  rw [IsPlain, Address.text, String.toList_ofList, Address.chars, unzoned, List.append_nil]
  exact Address.not_mem_valueText (by decide) (by decide) (by decide) _ _

theorem commas {texts : List String} (plain : ∀ text ∈ texts, IsPlain text) :
    IsPlain (",".intercalate texts) := by
  intro member
  rw [String.toList_intercalate] at member
  rcases Address.mem_intercalate_singleton member with isComma | ⟨part, isPart, inPart⟩
  · exact absurd isComma (by decide)
  · obtain ⟨text, isText, rfl⟩ := List.mem_map.mp isPart
    exact plain text isText inPart

end IsPlain

/-- Plain lines are printed as they are, whether to a terminal or not. -/
theorem joinLines_of_plain {lines : List String} (plain : ∀ line ∈ lines, IsPlain line)
    (terminal : Bool) :
    Outcome.joinLines terminal lines = String.join (lines.map (· ++ "\n")) := by
  have joined : IsPlain (String.join (lines.map (· ++ "\n"))) := by
    intro member
    rw [String.toList_join] at member
    obtain ⟨ended, isEnded, inEnded⟩ := List.mem_flatMap.mp member
    obtain ⟨line, isLine, rfl⟩ := List.mem_map.mp isEnded
    exact (plain line isLine).append (by decide) inEnded
  unfold Outcome.joinLines
  cases terminal with
  | true => rfl
  | false =>
      change String.ofList (Text.withoutControlSequences _) = _
      rw [Text.withoutControlSequences_of_plain joined, String.ofList_toList]

end CommandLine

end TunnelLease

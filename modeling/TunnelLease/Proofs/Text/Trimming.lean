import Mathlib.Data.List.Basic
import Mathlib.Data.List.TakeWhile
import Mathlib.Tactic.MkIffOfInductiveProp
import Mathlib.Tactic.SplitIfs
import TunnelLease.Text.Blank

/-!
# Trimming

Trimming takes away blanks that were put around a text, and nothing of the text itself if
it has no blank at either end.  Blanks inside stay, so texts without blanks at their ends
may be joined by anything, and the whole has none at its ends either.
-/

namespace TunnelLease

namespace Text

def IsBlankText (text : List Char) : Prop :=
  ∀ c ∈ text, isBlank c = true

theorem isBlankText_space : IsBlankText [' '] := by
  simp only [IsBlankText, List.forall_mem_singleton]
  decide

/-- A text with no blank at either end. -/
@[mk_iff]
structure IsTrimmed (text : List Char) : Prop where
  first : ∀ c ∈ text.head?, isBlank c = false
  last : ∀ c ∈ text.getLast?, isBlank c = false

instance (text : List Char) : Decidable (IsTrimmed text) :=
  decidable_of_iff (text.head?.any isBlank = false ∧ text.getLast?.any isBlank = false) <| by
    rw [isTrimmed_iff, Option.any_eq_false, Option.any_eq_false]
    rfl

theorem trimStart_eq_self {text : List Char} (first : ∀ c ∈ text.head?, isBlank c = false) :
    trimStart text = text := by
  cases text with
  | nil => rfl
  | cons c text => rw [trimStart, List.dropWhile_cons_of_neg (by simp [first c rfl])]

theorem trimEnd_eq_self {text : List Char} (last : ∀ c ∈ text.getLast?, isBlank c = false) :
    trimEnd text = text := by
  have reversed : trimStart text.reverse = text.reverse :=
    trimStart_eq_self (by rwa [List.head?_reverse])
  rw [trimStart] at reversed
  rw [trimEnd, reversed, List.reverse_reverse]

theorem trimStart_blanks_append {blanks : List Char} (blank : IsBlankText blanks)
    (text : List Char) :
    trimStart (blanks ++ text) = trimStart text :=
  List.dropWhile_append_of_pos blank

theorem trimEnd_append_blanks (text : List Char) {blanks : List Char} (blank : IsBlankText blanks) :
    trimEnd (text ++ blanks) = trimEnd text := by
  have reversed : ∀ c ∈ blanks.reverse, isBlank c = true := by
    simpa [IsBlankText] using blank
  rw [trimEnd, List.reverse_append, List.dropWhile_append_of_pos reversed, trimEnd]

/-- A text that starts with no blank keeps its start. -/
theorem trim_cons {c : Char} (visible : isBlank c = false) (text : List Char) :
    trim (c :: text) = c :: trimEnd text := by
  have stays : [c].dropWhile isBlank = [c] := List.dropWhile_cons_of_neg (by simp [visible])
  rw [trim, trimStart_eq_self (by simpa using visible), trimEnd, trimEnd, List.reverse_cons,
    List.dropWhile_append, stays]
  split_ifs with empty
  · rw [List.isEmpty_iff.mp empty]
    rfl
  · rw [List.reverse_append, List.reverse_singleton, List.singleton_append]

namespace IsTrimmed

variable {text blanks : List Char}

theorem of_none (none : ∀ c ∈ text, isBlank c = false) : IsTrimmed text :=
  ⟨fun c isFirst => none c (List.mem_of_head? isFirst),
    fun c isLast => none c (List.mem_of_getLast? isLast)⟩

theorem trimEnd_eq (trimmed : IsTrimmed text) : trimEnd text = text :=
  trimEnd_eq_self trimmed.last

theorem trim_eq (trimmed : IsTrimmed text) : trim text = text := by
  rw [trim, trimStart_eq_self trimmed.first, trimmed.trimEnd_eq]

theorem trim_append_blanks (trimmed : IsTrimmed text) (blank : IsBlankText blanks) :
    trim (text ++ blanks) = text := by
  cases text with
  | nil =>
      rw [List.nil_append, trim, trimStart, List.dropWhile_eq_nil_iff.mpr blank]
      rfl
  | cons c text =>
      rw [trim, trimStart_eq_self (by simpa using trimmed.first), trimEnd_append_blanks _ blank,
        trimmed.trimEnd_eq]

theorem trim_blanks_append (trimmed : IsTrimmed text) (blank : IsBlankText blanks) :
    trim (blanks ++ text) = text := by
  rw [trim, trimStart_blanks_append blank, ← trim, trimmed.trim_eq]

/-- Two texts without blanks at their ends, joined by anything. -/
theorem join {front back : List Char} (isFront : IsTrimmed front) (isBack : IsTrimmed back)
    (fronted : front ≠ []) (backed : back ≠ []) (middle : List Char) :
    IsTrimmed (front ++ middle ++ back) := by
  constructor
  · intro c isFirst
    rw [List.append_assoc, List.head?_append_of_ne_nil _ fronted] at isFirst
    exact isFront.first c isFirst
  · intro c isLast
    rw [List.getLast?_append_of_ne_nil _ backed] at isLast
    exact isBack.last c isLast

end IsTrimmed

end Text

end TunnelLease

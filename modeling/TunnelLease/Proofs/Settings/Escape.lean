import Mathlib.Data.List.Basic
import Mathlib.Tactic.SplitIfs
import TunnelLease.Settings.Reference

/-!
# Escaping references

A text with every percent sign doubled holds no reference and no stray percent sign, and it
stands for the text.  Doubling changes neither which characters occur nor where the text
starts and ends.
-/

namespace TunnelLease

namespace Settings

/-- The text with every percent sign doubled. -/
def escape (text : List Char) : List Char :=
  text.flatMap fun c => if c = '%' then ['%', '%'] else [c]

theorem pieces_cons_of_ne {c : Char} (other : c ≠ '%') (rest : List Char) :
    pieces (c :: rest) = .literal c :: pieces rest := by
  rw [pieces.eq_def]
  exact if_pos other

theorem pieces_percent_percent (rest : List Char) :
    pieces ('%' :: '%' :: rest) = .literal '%' :: pieces rest := by
  rw [pieces.eq_def]
  rfl

theorem pieces_escape (text : List Char) : pieces (escape text) = text.map .literal := by
  induction text with
  | nil => rw [escape, List.flatMap_nil, pieces, List.map_nil]
  | cons c text ih =>
      rw [escape, List.flatMap_cons, ← escape, List.map_cons, ← ih]
      by_cases percent : c = '%'
      · rw [if_pos percent, percent]
        exact pieces_percent_percent (escape text)
      · rw [if_neg percent]
        exact pieces_cons_of_ne percent (escape text)

theorem joinPieces_literal {resolvePiece : Piece → Except Fault (List Char)}
    (single : ∀ c, resolvePiece (.literal c) = .ok [c]) (text : List Char) :
    joinPieces resolvePiece (text.map .literal) = .ok text := by
  induction text with
  | nil => rfl
  | cons c text ih =>
      rw [List.map_cons, joinPieces, single, ih]
      rfl

/-- Escaped text stands for the text. -/
theorem resolve_escape (place : Place) (levels : Nat) (text : List Char) :
    resolve place (levels + 1) (escape text) = .ok text := by
  rw [resolve, pieces_escape, joinPieces_literal fun _ => rfl]

theorem mem_escape {c : Char} {text : List Char} (member : c ∈ escape text) : c ∈ text := by
  obtain ⟨written, inText, isWritten⟩ := List.mem_flatMap.mp member
  split_ifs at isWritten with percent
  · have same : c = '%' := by simpa using isWritten
    rwa [same, ← percent]
  · rwa [List.mem_singleton.mp isWritten]

theorem head?_escape (text : List Char) : (escape text).head? = text.head? := by
  cases text with
  | nil => rfl
  | cons c text =>
      rw [escape, List.flatMap_cons]
      split_ifs with percent
      · rw [percent]
        rfl
      · rfl

theorem getLast?_escape (text : List Char) : (escape text).getLast? = text.getLast? := by
  rcases List.eq_nil_or_concat' text with rfl | ⟨front, c, rfl⟩
  · rfl
  · rw [escape, List.flatMap_append, List.flatMap_singleton]
    split_ifs with percent
    · simp [percent]
    · simp

end Settings

end TunnelLease

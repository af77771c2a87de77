import Mathlib.Algebra.Group.Nat.Defs
import TunnelLease.Text.Blank
import TunnelLease.Text.DecimalDigit
import TunnelLease.Text.Numeral

/-!
# Reading numerals back

The places of a number give the number back as long as there are enough of them, and
each place is below the base.  Digits as they are written are read as the number that
was written, and hexadecimal and decimal numerals hold nothing but digits.
-/

namespace TunnelLease

namespace Text

theorem ofPlaces_concat (base : Nat) (digits : List Nat) (last : Nat) :
    ofPlaces base (digits ++ [last]) = ofPlaces base digits * base + last := by
  simp [ofPlaces]

theorem ofPlaces_places {base count number : Nat} (positive : 0 < base)
    (fits : number < base ^ count) : ofPlaces base (places base count number) = number := by
  induction count generalizing number with
  | zero =>
      rw [Nat.pow_zero, Nat.lt_one_iff] at fits
      rw [fits]
      rfl
  | succ count ih =>
      have shorter : number / base < base ^ count := by
        rw [Nat.div_lt_iff_lt_mul positive, ← Nat.pow_succ]
        exact fits
      rw [places, ofPlaces_concat, ih shorter, Nat.div_add_mod']

theorem lt_of_mem_places {base count number : Nat} (positive : 0 < base) {place : Nat}
    (member : place ∈ places base count number) : place < base := by
  induction count generalizing number with
  | zero => cases member
  | succ count ih =>
      rcases List.mem_append.mp member with higher | last
      · exact ih higher
      · rw [List.mem_singleton.mp last]
        exact Nat.mod_lt number positive

/-- If every element is read back after it was written, so is the list. -/
theorem mapM_map_eq_some {α β : Type} {write : α → β} {read : β → Option α} {elements : List α}
    (back : ∀ element ∈ elements, read (write element) = some element) :
    (elements.map write).mapM read = some elements := by
  induction elements with
  | nil => rfl
  | cons element elements ih =>
      have rest := ih fun other member => back other (List.mem_cons_of_mem _ member)
      rw [List.map_cons, List.mapM_cons, back element List.mem_cons_self, rest]
      rfl

/-- What is read as a list was readable in every place. -/
theorem isSome_of_mapM {α β : Type} {read : α → Option β} {elements : List α} {results : List β}
    (found : elements.mapM read = some results) {element : α} (member : element ∈ elements) :
    (read element).isSome = true := by
  induction elements generalizing results with
  | nil => cases member
  | cons first elements ih =>
      rw [List.mapM_cons] at found
      obtain ⟨result, isResult, later⟩ := Option.bind_eq_some_iff.mp found
      obtain ⟨rest, isRest, _⟩ := Option.bind_eq_some_iff.mp later
      rcases List.mem_cons.mp member with rfl | inRest
      · rw [isResult]
        rfl
      · exact ih isRest inRest

theorem hexDigit?_digitChar {digit : Nat} (small : digit < 16) :
    hexDigit? digit.digitChar = some digit := by
  have all : ∀ place : Fin 16, hexDigit? (Nat.digitChar place) = some place.val := by decide
  exact all ⟨digit, small⟩

/-- Digits as they are written are the places of the number, if each is read as its value. -/
theorem mapM_toDigits {base : Nat} {read : Char → Option Nat} (large : 1 < base)
    (back : ∀ digit < base, read digit.digitChar = some digit) (number : Nat) :
    ∃ digits, (Nat.toDigits base number).mapM read = some digits ∧
      ofPlaces base digits = number := by
  induction number using Nat.strongRecOn with
  | ind number ih =>
      rw [Nat.toDigits_eq_if large]
      split
      next small =>
        refine ⟨[number], ?_, by simp [ofPlaces]⟩
        rw [List.mapM_cons, back number small]
        rfl
      next high =>
        have smaller : number / base < number := Nat.div_lt_self (by omega) large
        obtain ⟨digits, isRead, value⟩ := ih (number / base) smaller
        have last := back (number % base) (Nat.mod_lt number (by omega))
        refine ⟨digits ++ [number % base], ?_, ?_⟩
        · rw [List.mapM_append, isRead, List.mapM_cons, last]
          rfl
        · rw [ofPlaces_concat, value, Nat.div_add_mod']

theorem not_mem_toDigits_sixteen {c : Char} (foreign : hexDigit? c = none) (number : Nat) :
    c ∉ Nat.toDigits 16 number := by
  intro member
  obtain ⟨digits, read, _⟩ :=
    mapM_toDigits (by decide : 1 < 16) (fun _ => hexDigit?_digitChar) number
  have isDigit := isSome_of_mapM read member
  rw [foreign] at isDigit
  cases isDigit

theorem isAsciiDigit_of_mem_toDigits {c : Char} {number : Nat}
    (member : c ∈ Nat.toDigits 10 number) : isAsciiDigit c = true := by
  have isDigit := Nat.isDigit_of_mem_toDigits (by decide) (Nat.le_refl 10) member
  simpa [isAsciiDigit, Char.isDigit, Char.le_def] using isDigit

theorem isBlank_of_isAsciiDigit {c : Char} (digit : isAsciiDigit c = true) :
    isBlank c = false := by
  have all : ∀ place : Fin 10, isBlank (Nat.digitChar place) = false := by decide
  obtain ⟨lower, upper⟩ : 48 ≤ c.toNat ∧ c.toNat ≤ 57 := by
    simpa [isAsciiDigit, Char.le_def, UInt32.le_iff_toNat_le] using digit
  have isDigit : c = Nat.digitChar (c.toNat - 48) := by
    apply Char.toNat_inj.mp
    rw [Nat.toNat_digitChar_of_lt_ten (by omega)]
    omega
  rw [isDigit]
  exact all ⟨c.toNat - 48, by omega⟩

theorem not_mem_toDigits_ten {c : Char} (foreign : isAsciiDigit c = false) (number : Nat) :
    c ∉ Nat.toDigits 10 number := by
  intro member
  rw [isAsciiDigit_of_mem_toDigits member] at foreign
  cases foreign

end Text

end TunnelLease

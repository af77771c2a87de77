import Mathlib.Tactic.SplitIfs
import TunnelLease.Proofs.Text.Places
import TunnelLease.Proofs.Text.Trimming
import TunnelLease.Text.Integer

/-!
# Reading integers back

An integer as it is written is read as the integer, whatever its sign, unless it has more
digits than numerals may have.
-/

namespace TunnelLease

namespace Text

theorem digitValue?_digitChar {digit : Nat} (small : digit < 10) :
    digitValue? digit.digitChar = some digit := by
  have all : ∀ place : Fin 10, digitValue? (Nat.digitChar place) = some place.val := by decide
  exact all ⟨digit, small⟩

/-- The decimal numeral of a number is read as the number, unless it is too long. -/
theorem readNatural?_toDigits {number : Nat}
    (short : (Nat.toDigits 10 number).length ≤ numeralLimit) :
    readNatural? (Nat.toDigits 10 number) = some number := by
  obtain ⟨digits, read, value⟩ := mapM_toDigits (by decide : 1 < 10)
    (fun _ => digitValue?_digitChar) number
  have plain := not_mem_toDigits_ten (by decide : isAsciiDigit '_' = false) number
  have occupied : (Nat.toDigits 10 number).isEmpty = false := by
    simp
  simp [readNatural?, List.splitOn_eq_singleton plain, occupied, Nat.not_lt.mpr short, read, value]

/-- An integer is written with decimal digits and perhaps a minus sign. -/
theorem toList_toString (number : Int) : (toString number).toList =
    (if number < 0 then ['-'] else []) ++ Nat.toDigits 10 number.natAbs := by
  cases number with
  | ofNat number =>
      change number.repr.toList = _
      have notNegative : ¬ Int.ofNat number < 0 := Int.not_lt.mpr (Int.natCast_nonneg number)
      rw [Nat.toList_repr, if_neg notNegative]
      rfl
  | negSucc number =>
      change ("-" ++ (number + 1).repr).toList = _
      rw [String.toList_append, Nat.toList_repr, if_pos (Int.negSucc_lt_zero number)]
      rfl

theorem mem_toString {number : Int} {c : Char} (member : c ∈ (toString number).toList) :
    isAsciiDigit c = true ∨ c = '-' := by
  rw [toList_toString] at member
  rcases List.mem_append.mp member with isSign | inDigits
  · split_ifs at isSign
    · exact .inr (List.mem_singleton.mp isSign)
    · cases isSign
  · exact .inl (isAsciiDigit_of_mem_toDigits inDigits)

theorem isBlank_of_mem_toString {number : Int} {c : Char}
    (member : c ∈ (toString number).toList) : isBlank c = false := by
  rcases mem_toString member with isDigit | rfl
  · exact isBlank_of_isAsciiDigit isDigit
  · decide

/-- The text of an integer is read as the integer, unless it has too many digits. -/
theorem readInteger?_toString {number : Int}
    (short : (Nat.toDigits 10 number.natAbs).length ≤ numeralLimit) :
    readInteger? (toString number).toList = some number := by
  have trimmed : trim (toString number).toList = (toString number).toList :=
    (IsTrimmed.of_none fun _ => isBlank_of_mem_toString).trim_eq
  have read := readNatural?_toDigits short
  rw [readInteger?, trimmed, toList_toString]
  by_cases negative : number < 0
  · have value : -(number.natAbs : Int) = number := by omega
    simp only [if_pos negative, List.singleton_append, read]
    exact congrArg some value
  · have value : (number.natAbs : Int) = number := by omega
    have noSign {c : Char} (foreign : isAsciiDigit c = false) (rest : List Char) :
        Nat.toDigits 10 number.natAbs ≠ c :: rest := by
      intro same
      exact not_mem_toDigits_ten foreign number.natAbs (same ▸ List.mem_cons_self)
    rw [if_neg negative, List.nil_append]
    split
    next rest signed => exact absurd signed (noSign (by decide) rest)
    next rest signed => exact absurd signed (noSign (by decide) rest)
    next =>
      rw [read]
      exact congrArg some value

end Text

end TunnelLease

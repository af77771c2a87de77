import Mathlib.Tactic.SplitIfs
import TunnelLease.Text.Utf8

/-!
# Decoding what was encoded

The bytes of a text are decoded as the text, wherever the blocks of the file part
them.  A scalar spells itself in one to four bytes; these are read back as the scalar,
and as long as some of them are missing they wait.  So whatever part of an encoded text
has arrived is decoded up to the scalar that is cut off, and what follows completes it.
-/

namespace TunnelLease

namespace Text

namespace Utf8

/-- The bytes that spell a scalar, with the tests that each of them passes. -/
inductive Spells : List UInt8 → Char → Prop where
  | one {lead : UInt8} (ascii : lead.toNat < 0x80) :
      Spells [lead] (Char.ofNat lead.toNat)
  | two {lead second : UInt8} (above : 0xC2 ≤ lead.toNat) (below : lead.toNat < 0xE0)
      (isSecond : isTail second = true) :
      Spells [lead, second] (assemble (lead.toNat - 0xC0) [second])
  | three {lead second third : UInt8} (above : 0xE0 ≤ lead.toNat) (below : lead.toNat < 0xF0)
      (isSecond : canFollow lead second = true) (isThird : isTail third = true) :
      Spells [lead, second, third] (assemble (lead.toNat - 0xE0) [second, third])
  | four {lead second third fourth : UInt8} (above : 0xF0 ≤ lead.toNat)
      (below : lead.toNat < 0xF5) (isSecond : canFollow lead second = true)
      (isThird : isTail third = true) (isFourth : isTail fourth = true) :
      Spells [lead, second, third, fourth] (assemble (lead.toNat - 0xF0) [second, third, fourth])

/-- What spells a scalar is read as the scalar, whatever follows. -/
theorem Spells.front_append {bytes : List UInt8} {c : Char} (spelled : Spells bytes c)
    (rest : List UInt8) : front (bytes ++ rest) = .scalar c rest := by
  cases spelled with
  | one ascii => simp [front, ascii]
  | two above below isSecond =>
      simp only [List.cons_append, List.nil_append, front, frontTwo, isSecond, if_true]
      rw [if_neg (by omega), if_neg (by omega), if_pos below]
  | three above below isSecond isThird =>
      simp only [List.cons_append, List.nil_append, front, frontThree, isSecond, isThird, if_true]
      rw [if_neg (by omega), if_neg (by omega), if_neg (by omega), if_pos below]
  | four above below isSecond isThird isFourth =>
      simp only [List.cons_append, List.nil_append, front, frontFour, isSecond, isThird, isFourth,
        if_true]
      rw [if_neg (by omega), if_neg (by omega), if_neg (by omega), if_neg (by omega), if_pos below]

/-- Some but not all of the bytes that spell a scalar wait for the others. -/
theorem Spells.front_take {bytes : List UInt8} {c : Char} (spelled : Spells bytes c) {count : Nat}
    (begun : 0 < count) (unfinished : count < bytes.length) :
    front (bytes.take count) = .short := by
  cases spelled with
  | one ascii => simp at unfinished; omega
  | two above below isSecond =>
      obtain rfl : count = 1 := by simp at unfinished; omega
      simp only [List.take_succ_cons, List.take_zero, front, frontTwo]
      rw [if_neg (by omega), if_neg (by omega), if_pos below]
  | three above below isSecond isThird =>
      obtain rfl | rfl : count = 1 ∨ count = 2 := by simp at unfinished; omega
      all_goals
        simp only [List.take_succ_cons, List.take_zero, front, frontThree, isSecond, if_true]
        rw [if_neg (by omega), if_neg (by omega), if_neg (by omega), if_pos below]
  | four above below isSecond isThird isFourth =>
      obtain rfl | rfl | rfl : count = 1 ∨ count = 2 ∨ count = 3 := by simp at unfinished; omega
      all_goals
        simp only [List.take_succ_cons, List.take_zero, front, frontFour, isSecond, isThird,
          if_true]
        rw [if_neg (by omega), if_neg (by omega), if_neg (by omega), if_neg (by omega),
          if_pos below]

theorem isTail_iff {byte : UInt8} :
    isTail byte = true ↔ 0x80 ≤ byte.toNat ∧ byte.toNat ≤ 0xBF := by
  simp [isTail, UInt8.le_iff_toNat_le]

/-- The bounds of a second byte, which four first bytes narrow. -/
theorem canFollow_iff {lead second : UInt8} :
    canFollow lead second = true ↔
      0x80 ≤ second.toNat ∧ second.toNat ≤ 0xBF ∧
        (lead.toNat = 0xE0 → 0xA0 ≤ second.toNat) ∧ (lead.toNat = 0xF0 → 0x90 ≤ second.toNat) ∧
        (lead.toNat = 0xED → second.toNat ≤ 0x9F) ∧ (lead.toNat = 0xF4 → second.toNat ≤ 0x8F) := by
  simp only [canFollow, Bool.and_eq_true, decide_eq_true_eq, ← UInt8.toNat_inj]
  split_ifs <;> simp_all [UInt8.le_iff_toNat_le] <;> omega

theorem toNat_ofNat_add (low mark : Nat) (fits : low + mark < 256) :
    (UInt8.ofNat (low + mark)).toNat = low + mark :=
  UInt8.toNat_ofNat_of_lt' fits

/-- A scalar is encoded as bytes that spell it. -/
theorem spells_encodeChar (c : Char) : Spells (String.utf8EncodeChar c) c := by
  have valid : c.toNat < 0xD800 ∨ 0xDFFF < c.toNat ∧ c.toNat < 0x110000 := c.valid
  have code : c.val.toNat = c.toNat := rfl
  have last := toNat_ofNat_add (c.toNat % 64) 128 (by omega)
  have third := toNat_ofNat_add (c.toNat / 64 % 64) 128 (by omega)
  have second := toNat_ofNat_add (c.toNat / 4096 % 64) 128 (by omega)
  have lastIsTail : isTail (UInt8.ofNat (c.toNat % 64 + 128)) = true :=
    isTail_iff.mpr (by omega)
  have thirdIsTail : isTail (UInt8.ofNat (c.toNat / 64 % 64 + 128)) = true :=
    isTail_iff.mpr (by omega)
  have assembled {number : Nat} (same : number = c.toNat) : Char.ofNat number = c := by
    rw [same, Char.ofNat_toNat]
  unfold String.utf8EncodeChar
  simp only [code]
  split_ifs with ascii twoBytes threeBytes
  · have lead := toNat_ofNat_add c.toNat 0 (by omega)
    rw [Nat.add_zero] at lead
    have spelled : Spells [UInt8.ofNat c.toNat] _ := .one (by omega)
    rwa [assembled lead] at spelled
  · have lead := toNat_ofNat_add (c.toNat / 64 % 32) 192 (by omega)
    have spelled : Spells [UInt8.ofNat (c.toNat / 64 % 32 + 192), _] _ :=
      .two (by omega) (by omega) lastIsTail
    rwa [assemble, assembled] at spelled
    simp only [List.foldl_cons, List.foldl_nil]
    omega
  · have lead := toNat_ofNat_add (c.toNat / 4096 % 16) 224 (by omega)
    have follows : canFollow (UInt8.ofNat (c.toNat / 4096 % 16 + 224))
        (UInt8.ofNat (c.toNat / 64 % 64 + 128)) = true :=
      canFollow_iff.mpr (by omega)
    have spelled := Spells.three (by omega) (by omega) follows lastIsTail
    rwa [assemble, assembled] at spelled
    simp only [List.foldl_cons, List.foldl_nil]
    omega
  · have lead := toNat_ofNat_add (c.toNat / 262144 % 8) 240 (by omega)
    have follows : canFollow (UInt8.ofNat (c.toNat / 262144 % 8 + 240))
        (UInt8.ofNat (c.toNat / 4096 % 64 + 128)) = true :=
      canFollow_iff.mpr (by omega)
    have spelled := Spells.four (by omega) (by omega) follows thirdIsTail lastIsTail
    rwa [assemble, assembled] at spelled
    simp only [List.foldl_cons, List.foldl_nil]
    omega

theorem encode_cons (c : Char) (text : List Char) :
    encode (c :: text) = String.utf8EncodeChar c ++ encode text :=
  List.flatMap_cons

theorem decodeFrom_nil (final : Bool) (position : Nat) :
    decodeFrom final position [] = ([], .waiting []) := by
  rw [decodeFrom]
  rfl

/-- An encoded scalar in front is decoded, and then what follows it. -/
theorem decodeFrom_encodeChar (final : Bool) (position : Nat) (c : Char) (rest : List UInt8) :
    ∃ later, decodeFrom final position (String.utf8EncodeChar c ++ rest) =
      (c :: (decodeFrom final later rest).1, (decodeFrom final later rest).2) := by
  have found := (spells_encodeChar c).front_append rest
  rw [decodeFrom]
  split <;> rename_i shape <;> rw [found] at shape <;> cases shape
  exact ⟨_, rfl⟩

/-- An encoded text in front is decoded, and then what follows it. -/
theorem decodeFrom_encode (final : Bool) (position : Nat) (text : List Char)
    (rest : List UInt8) :
    ∃ later, decodeFrom final position (encode text ++ rest) =
      (text ++ (decodeFrom final later rest).1, (decodeFrom final later rest).2) := by
  induction text generalizing position with
  | nil => exact ⟨position, rfl⟩
  | cons c text ih =>
      obtain ⟨between, first⟩ := decodeFrom_encodeChar final position c (encode text ++ rest)
      obtain ⟨later, following⟩ := ih between
      refine ⟨later, ?_⟩
      rw [encode_cons, List.append_assoc, first, following]
      rfl

/-- Bytes that wait for more: none, or the start of a scalar. -/
def IsUnfinished (bytes : List UInt8) : Prop :=
  bytes = [] ∨ front bytes = .short

theorem decodeFrom_unfinished {bytes : List UInt8} (unfinished : IsUnfinished bytes)
    (position : Nat) : decodeFrom false position bytes = ([], .waiting bytes) := by
  rcases unfinished with rfl | short
  · exact decodeFrom_nil false position
  · rw [decodeFrom]
    split <;> rename_i shape <;> rw [short] at shape <;> cases shape
    rfl

theorem Spells.isUnfinished {arrived missing : List UInt8} {c : Char}
    (spelled : Spells (arrived ++ missing) c) (unfinished : missing ≠ []) :
    IsUnfinished arrived := by
  rcases arrived with _ | ⟨lead, tails⟩
  · exact .inl rfl
  · right
    have shorter : (lead :: tails).length < (lead :: tails ++ missing).length := by
      rw [List.length_append]
      exact Nat.lt_add_of_pos_right (List.length_pos_iff.mpr unfinished)
    have begun : 0 < (lead :: tails).length := Nat.succ_pos tails.length
    have short := spelled.front_take begun shorter
    rwa [List.take_left] at short

/-- Wherever an encoded text is cut, whole scalars stand before the cut, with the start of
one more at most. -/
theorem exists_whole {text : List Char} {arrived missing : List UInt8}
    (cut : arrived ++ missing = encode text) :
    ∃ whole left later, text = whole ++ later ∧ arrived = encode whole ++ left ∧
      left ++ missing = encode later ∧ IsUnfinished left := by
  induction text generalizing arrived with
  | nil =>
      obtain ⟨rfl, rfl⟩ := List.append_eq_nil_iff.mp cut
      exact ⟨[], [], [], rfl, rfl, rfl, .inl rfl⟩
  | cons c text ih =>
      rw [encode_cons] at cut
      rcases List.append_eq_append_iff.mp cut with ⟨behind, scalar, rest⟩ | ⟨ahead, rfl, rest⟩
      · rcases behind with _ | ⟨next, others⟩
        · rw [List.append_nil] at scalar
          refine ⟨[c], [], text, rfl, ?_, rest, .inl rfl⟩
          rw [encode_cons, scalar, encode, List.flatMap_nil, List.append_nil, List.append_nil]
        · refine ⟨[], arrived, c :: text, rfl, rfl, cut, ?_⟩
          have spelled := spells_encodeChar c
          rw [scalar] at spelled
          exact spelled.isUnfinished (List.cons_ne_nil next others)
      · obtain ⟨whole, left, later, rfl, rfl, joined, unfinished⟩ := ih rest.symm
        refine ⟨c :: whole, left, later, rfl, ?_, joined, unfinished⟩
        rw [encode_cons, List.append_assoc]

theorem flatten_blocks (bytes : List UInt8) : (blocks bytes).flatten = bytes := by
  induction bytes using blocks.induct with
  | case1 bytes short => rw [blocks, if_pos short, List.flatten_singleton]
  | case2 bytes long ih =>
      rw [blocks, if_neg long, List.flatten_cons, ih, List.take_append_drop]

/-- Blocks are decoded as the text whose bytes they hold, together with those that waited. -/
theorem decodeBlocks_of_flatten {waiting : List UInt8} {parts : List (List UInt8)}
    {text : List Char} (joined : waiting ++ parts.flatten = encode text) :
    decodeBlocks waiting parts = (text, none) := by
  induction parts generalizing waiting text with
  | nil =>
      rw [List.flatten_nil, List.append_nil] at joined
      obtain ⟨later, decoded⟩ := decodeFrom_encode true 0 text []
      rw [List.append_nil, decodeFrom_nil, List.append_nil] at decoded
      rw [decodeBlocks, joined, decoded]
  | cons block parts ih =>
      rw [List.flatten_cons, ← List.append_assoc] at joined
      obtain ⟨whole, left, later, rfl, arrived, rest, unfinished⟩ := exists_whole joined
      obtain ⟨position, decoded⟩ := decodeFrom_encode false 0 whole left
      rw [decodeFrom_unfinished unfinished, List.append_nil] at decoded
      rw [decodeBlocks, arrived, decoded]
      simp only [ih rest]

/-- A file that holds an encoded text is decoded as the text, without a fault. -/
theorem decodeFile_encode (text : List Char) : decodeFile (encode text) = (text, none) := by
  apply decodeBlocks_of_flatten
  rw [List.nil_append, flatten_blocks]

end Utf8

end Text

end TunnelLease

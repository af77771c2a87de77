import TunnelLease.Block.Parser
import TunnelLease.Proofs.Address.RoundTrip

/-!
# The canonical text of an address

An address has one text of its own.  It is written by rules that leave no choice: decimal
octets, or hexadecimal hextets of which the first of the longest runs of zeros is left out,
and the zone as it is named.  Whatever text an address was read from, its own text denotes
the same address, so that different addresses have different texts.  The zones that a text
may name are all names that keep clear of the delimiters.
-/

namespace TunnelLease

namespace Address

section ZeroRuns

/-- There are `length` zeros in a row from `start` on. -/
def ZerosFrom (hextets : List Nat) (start length : Nat) : Prop :=
  ∀ index, start ≤ index → index < start + length → hextets[index]? = some 0

/-- No run of zeros is longer, and none of the same length starts earlier. -/
structure IsLongestZeroRun (hextets : List Nat) (start length : Nat) : Prop where
  zeros : ZerosFrom hextets start length
  longest : ∀ other size, ZerosFrom hextets other size → size ≤ length
  first : ∀ other, ZerosFrom hextets other length → start ≤ other

theorem zerosFrom_cons_succ (hextet : Nat) (hextets : List Nat) (start length : Nat) :
    ZerosFrom (hextet :: hextets) (start + 1) length ↔ ZerosFrom hextets start length := by
  constructor
  · intro zeros index reached below
    have shifted := zeros (index + 1) (by omega) (by omega)
    rwa [List.getElem?_cons_succ] at shifted
  · intro zeros index reached below
    obtain ⟨before, rfl⟩ : ∃ before, index = before + 1 := ⟨index - 1, by omega⟩
    rw [List.getElem?_cons_succ]
    exact zeros before (by omega) (by omega)

theorem zerosFrom_zero (hextets : List Nat) (length : Nat) :
    ZerosFrom hextets 0 length ↔ length ≤ leadingZeros hextets := by
  induction hextets generalizing length with
  | nil =>
      constructor
      · intro zeros
        by_contra longer
        have first := zeros 0 (Nat.le_refl 0) (by simp [leadingZeros] at longer; omega)
        cases first
      · intro short index _ below
        simp [leadingZeros] at short
        omega
  | cons hextet hextets ih =>
      cases length with
      | zero => simp [ZerosFrom]
      | succ length =>
          have rest : ZerosFrom (hextet :: hextets) 1 length ↔ length ≤ leadingZeros hextets := by
            rw [zerosFrom_cons_succ, ih]
          have split : ZerosFrom (hextet :: hextets) 0 (length + 1) ↔
              hextet = 0 ∧ ZerosFrom (hextet :: hextets) 1 length := by
            constructor
            · intro zeros
              refine ⟨by simpa using zeros 0 (Nat.le_refl 0) (by omega), ?_⟩
              intro index reached below
              exact zeros index (Nat.zero_le index) (by omega)
            · rintro ⟨isZero, zeros⟩ index _ below
              cases index with
              | zero => simp [isZero]
              | succ index => exact zeros (index + 1) (by omega) (by omega)
          rw [split, rest]
          by_cases isZero : hextet = 0
          · simp [leadingZeros, isZero]
          · simp [leadingZeros, isZero]

/-- The run that is left out is the first of the longest ones. -/
theorem longestZeroRun_isLongest (hextets : List Nat) :
    IsLongestZeroRun hextets (longestZeroRun hextets).1 (longestZeroRun hextets).2 := by
  induction hextets with
  | nil =>
      refine ⟨fun index _ below => ?_, fun other size zeros => ?_, fun _ _ => Nat.zero_le _⟩
      · simp [longestZeroRun] at below
      · by_contra longer
        have none := zeros other (Nat.le_refl other) (by simp [longestZeroRun] at longer; omega)
        cases none
  | cons hextet hextets ih =>
      rw [longestZeroRun]
      split
      next atFront =>
        refine ⟨(zerosFrom_zero _ _).mpr (Nat.le_refl _), ?_, fun _ _ => Nat.zero_le _⟩
        intro other size zeros
        cases other with
        | zero => exact (zerosFrom_zero _ _).mp zeros
        | succ other =>
            exact Nat.le_trans (ih.longest other size ((zerosFrom_cons_succ _ _ _ _).mp zeros))
              atFront
      next later =>
        have longer : leadingZeros (hextet :: hextets) < (longestZeroRun hextets).2 := by omega
        refine ⟨(zerosFrom_cons_succ _ _ _ _).mpr ih.zeros, ?_, ?_⟩
        · intro other size zeros
          cases other with
          | zero => exact Nat.le_trans ((zerosFrom_zero _ _).mp zeros) (Nat.le_of_lt longer)
          | succ other => exact ih.longest other size ((zerosFrom_cons_succ _ _ _ _).mp zeros)
        · intro other zeros
          cases other with
          | zero => exact absurd ((zerosFrom_zero _ _).mp zeros) (Nat.not_le.mpr longer)
          | succ other =>
              exact Nat.succ_le_succ (ih.first other ((zerosFrom_cons_succ _ _ _ _).mp zeros))

end ZeroRuns

/-- The rules by which a value is written. -/
def IsValueText : Family → Nat → List Char → Prop
  | .v4, value, text => ∃ octets : List Nat, octets.length = 4 ∧ (∀ octet ∈ octets, octet < 256) ∧
      Text.ofPlaces 256 octets = value ∧ text = ['.'].intercalate (octets.map (Nat.toDigits 10))
  | .v6, value, text => ∃ hextets : List Nat, hextets.length = 8 ∧
      (∀ hextet ∈ hextets, hextet < 65536) ∧ Text.ofPlaces 65536 hextets = value ∧
      ∃ start length, IsLongestZeroRun hextets start length ∧
        text = if 2 ≤ length then
            joinHextets (hextets.take start) ++ [':', ':'] ++
              joinHextets (hextets.drop (start + length))
          else joinHextets hextets

theorem isValueText_valueText {family : Family} {value : Nat} (inRange : value < family.size) :
    IsValueText family value (valueText family value) := by
  cases family with
  | v4 =>
      have fits : value < 256 ^ 4 := inRange
      exact ⟨Text.places 256 4 value, Text.places_length _ _ _,
        fun octet member => Text.lt_of_mem_places (by decide) member,
        Text.ofPlaces_places (by decide) fits, rfl⟩
  | v6 =>
      have fits : value < 65536 ^ 8 := inRange
      exact ⟨Text.places 65536 8 value, Text.places_length _ _ _,
        fun hextet member => Text.lt_of_mem_places (by decide) member,
        Text.ofPlaces_places (by decide) fits, _, _, longestZeroRun_isLongest _, rfl⟩

section Zones

/-- A text without a zone is read as its value, and no percent sign is in it. -/
theorem plain_of_unzoned {plain : List Char} {address : Address}
    (read : ofChars? plain = some address) (isWide : address.family = .v6)
    (unzoned : address.zone = none) :
    '%' ∉ plain ∧ wideValue? plain = some address.value := by
  rcases ofChars?_cases read with ⟨_, narrow, _⟩ | ⟨_, isValue, unzoned_iff⟩
  · rw [isWide] at narrow
    cases narrow
  · have noPercent := unzoned_iff.mp unzoned
    refine ⟨noPercent, ?_⟩
    have whole : plain.takeWhile (· != '%') = plain := by
      rw [List.takeWhile_eq_self_iff]
      intro c member
      rw [bne_iff_ne]
      rintro rfl
      exact noPercent member
    rwa [whole] at isValue

/-- Behind a text without a zone every name of a zone is admitted, and nothing else. -/
theorem ofChars?_zoned {plain : List Char} {address : Address}
    (read : ofChars? plain = some address) (isWide : address.family = .v6)
    (unzoned : address.zone = none) (name : List Char) :
    ofChars? (plain ++ '%' :: name) =
      (zone? name).map fun zone =>
        ⟨.v6, address.value, some zone, isWide ▸ address.value_lt, fun _ => rfl⟩ := by
  obtain ⟨noPercent, isValue⟩ := plain_of_unzoned read isWide unzoned
  have kept (c : Char) (member : c ∈ plain) : (c != '%') = true := by
    rw [bne_iff_ne]
    rintro rfl
    exact noPercent member
  have front : (plain ++ '%' :: name).takeWhile (· != '%') = plain := by
    rw [List.takeWhile_append_of_pos kept]
    simp
  have behind : (plain ++ '%' :: name).dropWhile (· != '%') = '%' :: name := by
    rw [List.dropWhile_append_of_pos kept]
    simp
  have inRange : address.value < Family.size .v6 := isWide ▸ address.value_lt
  have notNarrow : quad? (plain ++ '%' :: name) = none :=
    quad?_eq_none_of_mem (List.mem_append_right _ List.mem_cons_self) (by decide) (by decide)
  rw [ofChars?, notNarrow]
  simp only [wide?, front, behind, isValue, Option.bind_eq_bind, Option.bind_some]
  cases zone? name with
  | none => rfl
  | some zone => exact dif_pos inRange

end Zones

theorem ofText?_of_ofLiteral {text : String} {address : Address}
    (read : ofLiteral (.text text) = .ok address) : ofText? text = some address := by
  rw [ofLiteral, ofLiteral?] at read
  split at read
  next found isText =>
    cases read
    exact isText
  next => cases read

theorem text_injective : Function.Injective text := by
  intro first second same
  have read := ofText?_text first
  rw [same, ofText?_text] at read
  exact (Option.some.inj read).symm

/-- Every address is written by the rules, and its text is read as the same address.  So
different addresses have different texts, whatever they were read from. -/
theorem text_canonical :
    (∀ (family : Family) (value : Nat) (zone : Option String), value < 2 ^ family.width →
        (∀ name ∈ zone, family = .v6 ∧ IsZoneName name) →
        ∃ address : Address, address.family = family ∧ address.value = value ∧
          address.zone.map Zone.name = zone ∧
          (∃ plain, IsValueText family value plain ∧
            address.text = String.ofList (plain ++ (zone.elim [] fun name => '%' :: name.toList))) ∧
          ofLiteral (.text address.text) = .ok address) ∧
      (∀ (plain name : String) (address : Address), ofLiteral (.text plain) = .ok address →
        address.family = .v6 → address.zone = none →
        ((∃ zoned, ofLiteral (.text (plain ++ "%" ++ name)) = .ok zoned) ↔ IsZoneName name)) ∧
      Function.Injective text ∧
      ∀ (written : Literal) (address : Address), ofLiteral written = .ok address →
        ofLiteral (.text address.text) = .ok address ∧
          ∀ again, ofLiteral (.text address.text) = .ok again → again.text = address.text := by
  have readBack (address : Address) : ofLiteral (.text address.text) = .ok address := by
    rw [ofLiteral, ofLiteral?, ofText?_text]
  refine ⟨?_, ?_, text_injective, ?_⟩
  · intro family value zone inRange admitted
    have written : IsValueText family value (valueText family value) :=
      isValueText_valueText inRange
    cases zone with
    | none =>
        let address : Address := ⟨family, value, none, inRange, unzoned_v6⟩
        exact ⟨address, rfl, rfl, rfl, ⟨_, written, rfl⟩, readBack address⟩
    | some name =>
        obtain ⟨isWide, isName⟩ := admitted name rfl
        let address : Address := ⟨family, value, some ⟨name, isName⟩, inRange, fun _ => isWide⟩
        exact ⟨address, rfl, rfl, rfl, ⟨_, written, rfl⟩, readBack address⟩
  · intro plain name address read isWide unzoned
    have zoned := ofChars?_zoned (ofText?_of_ofLiteral read) isWide unzoned name.toList
    have joined : (plain ++ "%" ++ name).toList = plain.toList ++ '%' :: name.toList := by
      simp [String.toList_append]
    rw [ofLiteral, ofLiteral?, ofText?, joined, zoned, zone?, String.ofList_toList]
    by_cases isName : IsZoneName name
    · simp [isName]
    · simp [isName]
  · intro written address _
    refine ⟨readBack address, ?_⟩
    intro again read
    rw [Except.ok.inj ((readBack address).symm.trans read)]

end Address

end TunnelLease

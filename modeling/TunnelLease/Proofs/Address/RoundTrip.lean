import Mathlib.Data.List.TakeWhile
import TunnelLease.Address.Parser
import TunnelLease.Address.Printer
import TunnelLease.Proofs.Text.Places

/-!
# Reading addresses back

The text of an address is read as that address, zone included.  In the wider family the
double colon stands for the run of zeros that the printer left out: the parts around it
hold no double colon of their own, so the reader cuts at the same place and fills in as
many zeros as are missing.
-/

namespace TunnelLease

namespace Address

theorem mem_intercalate_singleton {c separator : Char} {parts : List (List Char)}
    (member : c ∈ [separator].intercalate parts) :
    c = separator ∨ ∃ part ∈ parts, c ∈ part := by
  induction parts with
  | nil => cases member
  | cons part parts ih =>
      cases parts with
      | nil =>
          rw [List.intercalate_singleton] at member
          exact Or.inr ⟨part, List.mem_cons_self, member⟩
      | cons next parts =>
          rw [List.intercalate_cons_cons, List.mem_append, List.mem_append,
            List.mem_singleton] at member
          rcases member with (inPart | isSeparator) | later
          · exact Or.inr ⟨part, List.mem_cons_self, inPart⟩
          · exact Or.inl isSeparator
          · rcases ih later with isSeparator | ⟨other, isPart, inOther⟩
            · exact Or.inl isSeparator
            · exact Or.inr ⟨other, List.mem_cons_of_mem _ isPart, inOther⟩

section Narrow

theorem octet?_toDigits {octet : Nat} (small : octet < 256) :
    octet? (Nat.toDigits 10 octet) = some octet := by
  have all : ∀ value : Fin 256, octet? (Nat.toDigits 10 value) = some value.val := by
    decide +kernel
  exact all ⟨octet, small⟩

theorem quad?_dottedQuad {value : Nat} (inRange : value < 256 ^ 4) :
    quad? (dottedQuad value) = some value := by
  let octets := Text.places 256 4 value
  have small (octet : Nat) (member : octet ∈ octets) : octet < 256 :=
    Text.lt_of_mem_places (by decide) member
  have parts : (dottedQuad value).splitOn '.' = octets.map (Nat.toDigits 10) := by
    apply List.splitOn_intercalate
    · intro part isPart
      obtain ⟨octet, _, rfl⟩ := List.mem_map.mp isPart
      exact Text.not_mem_toDigits_ten (by decide) octet
    · apply List.ne_nil_of_length_pos
      simp
  have read : (octets.map (Nat.toDigits 10)).mapM octet? = some octets :=
    Text.mapM_map_eq_some fun octet member => octet?_toDigits (small octet member)
  have length : (octets.map (Nat.toDigits 10)).length = 4 := by simp [octets]
  rw [quad?, parts, if_pos length, read, Option.map_some,
    Text.ofPlaces_places (by decide) inRange]

theorem isAsciiDigit_of_octet? {part : List Char} (read : (octet? part).isSome = true) {c : Char}
    (member : c ∈ part) : Text.isAsciiDigit c = true := by
  cases digits : part.all Text.isAsciiDigit with
  | true => exact List.all_eq_true.mp digits c member
  | false => simp [octet?, digits] at read

/-- Four octets are written with digits and points only. -/
theorem quad?_eq_none_of_mem {text : List Char} {c : Char} (member : c ∈ text)
    (notPoint : c ≠ '.') (foreign : Text.isAsciiDigit c = false) : quad? text = none := by
  by_cases four : (text.splitOn '.').length = 4
  · rw [quad?, if_pos four]
    cases read : (text.splitOn '.').mapM octet? with
    | none => rfl
    | some octets =>
        have rejoined : ['.'].intercalate (text.splitOn '.') = text := List.intercalate_splitOn '.'
        rw [← rejoined] at member
        rcases mem_intercalate_singleton member with isPoint | ⟨part, isPart, inPart⟩
        · exact absurd isPoint notPoint
        · have digits := isAsciiDigit_of_octet? (Text.isSome_of_mapM read isPart) inPart
          rw [foreign] at digits
          cases digits
  · rw [quad?, if_neg four]

end Narrow

section Wide

theorem hextet?_toDigits {hextet : Nat} (small : hextet < 65536) :
    hextet? (Nat.toDigits 16 hextet) = some hextet := by
  obtain ⟨digits, read, value⟩ :=
    Text.mapM_toDigits (by decide : 1 < 16) (fun _ => Text.hexDigit?_digitChar) hextet
  have short : (Nat.toDigits 16 hextet).length ≤ 4 :=
    (Nat.length_toDigits_le_iff (by decide) (by decide)).mpr small
  simp [hextet?, Nat.not_lt.mpr short, read, value]

theorem mem_joinHextets {c : Char} {hextets : List Nat} (member : c ∈ joinHextets hextets) :
    c = ':' ∨ (Text.hexDigit? c).isSome = true := by
  rcases mem_intercalate_singleton member with isColon | ⟨part, isPart, inPart⟩
  · exact Or.inl isColon
  · right
    obtain ⟨hextet, _, rfl⟩ := List.mem_map.mp isPart
    rw [Option.isSome_iff_ne_none]
    intro foreign
    exact Text.not_mem_toDigits_sixteen foreign hextet inPart

theorem joinHextets_cons_cons (hextet next : Nat) (hextets : List Nat) :
    joinHextets (hextet :: next :: hextets) =
      Nat.toDigits 16 hextet ++ ':' :: joinHextets (next :: hextets) := by
  simp [joinHextets, List.intercalate_cons_cons]

theorem head?_joinHextets (hextet : Nat) (hextets : List Nat) (rest : List Char) :
    (joinHextets (hextet :: hextets) ++ rest).head? ≠ some ':' := by
  have foreign := Text.not_mem_toDigits_sixteen (c := ':') (by decide) hextet
  obtain ⟨first, digits, written⟩ := List.exists_cons_of_ne_nil
    (Nat.toDigits_ne_nil (b := 16) (n := hextet))
  have head : ∃ text, joinHextets (hextet :: hextets) = first :: text := by
    cases hextets with
    | nil => exact ⟨digits, by simp [joinHextets, written]⟩
    | cons next hextets => exact ⟨_, by rw [joinHextets_cons_cons, written, List.cons_append]⟩
  obtain ⟨text, starts⟩ := head
  rw [starts, List.cons_append, List.head?_cons, Ne, Option.some.injEq]
  rintro rfl
  apply foreign
  rw [written]
  exact List.mem_cons_self

/-- A double colon does not start at a character other than a colon. -/
theorem cutGap_cons_of_ne {c : Char} (other : c ≠ ':') (rest : List Char) :
    cutGap (c :: rest) = (cutGap rest).map fun sides => (c :: sides.1, sides.2) := by
  rw [cutGap]
  intro after isColon
  exact absurd isColon other

theorem cutGap_colon {rest : List Char} (single : rest.head? ≠ some ':') :
    cutGap (':' :: rest) = (cutGap rest).map fun sides => (':' :: sides.1, sides.2) := by
  rw [cutGap]
  rintro after - rfl
  exact single rfl

theorem cutGap_append_of_not_mem {part : List Char} (colonless : ':' ∉ part)
    (rest : List Char) :
    cutGap (part ++ rest) = (cutGap rest).map fun sides => (part ++ sides.1, sides.2) := by
  induction part with
  | nil => simp
  | cons c part ih =>
      rw [List.mem_cons, not_or] at colonless
      rw [List.cons_append, cutGap_cons_of_ne (Ne.symm colonless.1), ih colonless.2,
        Option.map_map]
      rfl

/-- Hextets with single colons between hold no double colon, and do not make one with what
follows. -/
theorem cutGap_joinHextets (hextets : List Nat) (rest : List Char) :
    cutGap (joinHextets hextets ++ rest) =
      (cutGap rest).map fun sides => (joinHextets hextets ++ sides.1, sides.2) := by
  have colonless (hextet : Nat) : ':' ∉ Nat.toDigits 16 hextet :=
    Text.not_mem_toDigits_sixteen (by decide) hextet
  induction hextets with
  | nil => simp [joinHextets]
  | cons hextet hextets ih =>
      cases hextets with
      | nil =>
          have single : joinHextets [hextet] = Nat.toDigits 16 hextet := by simp [joinHextets]
          rw [single]
          exact cutGap_append_of_not_mem (colonless hextet) rest
      | cons next hextets =>
          rw [joinHextets_cons_cons, List.append_assoc,
            cutGap_append_of_not_mem (colonless hextet), List.cons_append,
            cutGap_colon (head?_joinHextets next hextets rest), ih]
          simp [Option.map_map, Function.comp_def]

theorem colonParts_joinHextets (hextets : List Nat) :
    colonParts (joinHextets hextets) = hextets.map (Nat.toDigits 16) := by
  cases hextets with
  | nil => rfl
  | cons hextet hextets =>
      have written : (joinHextets (hextet :: hextets)).isEmpty = false := by
        cases hextets with
        | nil => simp [joinHextets]
        | cons next hextets => simp [joinHextets_cons_cons]
      rw [colonParts, if_neg (by simp [written])]
      apply List.splitOn_intercalate
      · intro part isPart
        obtain ⟨other, _, rfl⟩ := List.mem_map.mp isPart
        exact Text.not_mem_toDigits_sixteen (by decide) other
      · simp

theorem hextets?_toDigits (dotted : Bool) {hextets : List Nat}
    (small : ∀ hextet ∈ hextets, hextet < 65536) :
    hextets? dotted (hextets.map (Nat.toDigits 16)) = some hextets := by
  induction hextets with
  | nil => rfl
  | cons hextet hextets ih =>
      have first := hextet?_toDigits (small hextet List.mem_cons_self)
      have rest := ih fun other member => small other (List.mem_cons_of_mem _ member)
      cases hextets with
      | nil =>
          have pointless : '.' ∉ Nat.toDigits 16 hextet :=
            Text.not_mem_toDigits_sixteen (by decide) hextet
          simp [hextets?, pointless, first]
      | cons next hextets =>
          rw [List.map_cons] at rest
          simp [hextets?, first, rest]

theorem leadingZeros_split (hextets : List Nat) :
    hextets =
      List.replicate (leadingZeros hextets) 0 ++ hextets.drop (leadingZeros hextets) := by
  induction hextets with
  | nil => rfl
  | cons hextet hextets ih =>
      by_cases isZero : hextet = 0
      · have longer : leadingZeros (hextet :: hextets) = leadingZeros hextets + 1 := by
          simp [leadingZeros, isZero]
        rw [longer, List.replicate_succ, List.drop_succ_cons, List.cons_append, ← ih, isZero]
      · have here : leadingZeros (hextet :: hextets) = 0 := by simp [leadingZeros, isZero]
        simp [here]

/-- The longest run of zeros consists of zeros. -/
theorem longestZeroRun_split (hextets : List Nat) :
    let run := longestZeroRun hextets
    hextets = hextets.take run.1 ++ (List.replicate run.2 0 ++ hextets.drop (run.1 + run.2)) := by
  induction hextets with
  | nil => rfl
  | cons hextet hextets ih =>
      rw [longestZeroRun]
      split
      next =>
        simpa using leadingZeros_split (hextet :: hextets)
      next =>
        have past : (longestZeroRun hextets).1 + 1 + (longestZeroRun hextets).2 =
            (longestZeroRun hextets).1 + (longestZeroRun hextets).2 + 1 := Nat.add_right_comm _ _ _
        simp only [past, List.take_succ_cons, List.drop_succ_cons, List.cons_append]
        exact congrArg (hextet :: ·) ih

/-- Eight hextets are read back from their compressed text. -/
theorem wideValue?_compressHextets {hextets : List Nat} (eight : hextets.length = 8)
    (small : ∀ hextet ∈ hextets, hextet < 65536) :
    wideValue? (compressHextets hextets) = some (Text.ofPlaces 65536 hextets) := by
  by_cases compressed : 2 ≤ (longestZeroRun hextets).2
  · let run := longestZeroRun hextets
    let high := hextets.take run.1
    let low := hextets.drop (run.1 + run.2)
    have split : hextets = high ++ (List.replicate run.2 0 ++ low) :=
      longestZeroRun_split hextets
    have lengths : high.length + (run.2 + low.length) = 8 := by
      rw [split] at eight
      simpa using eight
    -- Neither side holds a double colon, so the reader cuts where the printer left zeros out.
    have cut : cutGap (joinHextets high ++ [':', ':'] ++ joinHextets low) =
        some (joinHextets high, joinHextets low) := by
      rw [List.append_assoc, cutGap_joinHextets]
      simp [cutGap]
    have readHigh : hextets? false (colonParts (joinHextets high)) = some high := by
      rw [colonParts_joinHextets]
      exact hextets?_toDigits false fun hextet member => small hextet (List.mem_of_mem_take member)
    have readLow : hextets? true (colonParts (joinHextets low)) = some low := by
      rw [colonParts_joinHextets]
      exact hextets?_toDigits true fun hextet member => small hextet (List.mem_of_mem_drop member)
    have gap : 8 - (high.length + low.length) = run.2 := by omega
    have shorter : high.length + low.length < 8 := by
      change 2 ≤ run.2 at compressed
      omega
    rw [compressHextets, if_pos compressed]
    change wideValue? (joinHextets high ++ [':', ':'] ++ joinHextets low) = _
    simp only [wideValue?, cut, readHigh, readLow, Option.bind_eq_bind, Option.bind_some,
      if_pos shorter, gap]
    rw [List.append_assoc, ← split]
  · rw [compressHextets, if_neg compressed]
    have cut : cutGap (joinHextets hextets) = none := by
      have none := cutGap_joinHextets hextets []
      rw [List.append_nil] at none
      exact none
    have read : hextets? true (colonParts (joinHextets hextets)) = some hextets := by
      rw [colonParts_joinHextets]
      exact hextets?_toDigits true small
    simp only [wideValue?, cut, read, Option.bind_eq_bind, Option.bind_some, if_pos eight]

theorem mem_compressHextets {c : Char} {hextets : List Nat}
    (member : c ∈ compressHextets hextets) : c = ':' ∨ (Text.hexDigit? c).isSome = true := by
  by_cases compressed : 2 ≤ (longestZeroRun hextets).2
  · rw [compressHextets, if_pos compressed] at member
    rcases List.mem_append.mp member with inFront | behind
    · rcases List.mem_append.mp inFront with before | colons
      · exact mem_joinHextets before
      · exact Or.inl (by simpa using colons)
    · exact mem_joinHextets behind
  · rw [compressHextets, if_neg compressed] at member
    exact mem_joinHextets member

theorem colon_mem_compressHextets {hextets : List Nat} (several : 2 ≤ hextets.length) :
    ':' ∈ compressHextets hextets := by
  by_cases compressed : 2 ≤ (longestZeroRun hextets).2
  · rw [compressHextets, if_pos compressed]
    simp
  · rw [compressHextets, if_neg compressed]
    match hextets, several with
    | hextet :: next :: rest, _ => simp [joinHextets_cons_cons]

end Wide

theorem mem_valueText {family : Family} {value : Nat} {c : Char}
    (member : c ∈ valueText family value) :
    c = '.' ∨ c = ':' ∨ (Text.hexDigit? c).isSome = true := by
  cases family with
  | v4 =>
      rcases mem_intercalate_singleton member with isPoint | ⟨part, isPart, inPart⟩
      · exact Or.inl isPoint
      · obtain ⟨octet, _, rfl⟩ := List.mem_map.mp isPart
        have isDigit := Text.isAsciiDigit_of_mem_toDigits inPart
        have inRange : ('0' ≤ c && c ≤ '9') = true := isDigit
        refine Or.inr (Or.inr ?_)
        rw [Text.hexDigit?, if_pos inRange]
        rfl
  | v6 =>
      rw [valueText] at member
      exact Or.inr (mem_compressHextets member)

/-- The characters that delimit zones and masks do not occur in the text of a value. -/
theorem not_mem_valueText {c : Char} (notPoint : c ≠ '.') (notColon : c ≠ ':')
    (foreign : Text.hexDigit? c = none) (family : Family) (value : Nat) :
    c ∉ valueText family value := by
  intro member
  rcases mem_valueText member with isPoint | isColon | isDigit
  · exact notPoint isPoint
  · exact notColon isColon
  · rw [foreign] at isDigit
    cases isDigit

theorem hexDigit?_percent : Text.hexDigit? '%' = none := by decide

theorem hexDigit?_slash : Text.hexDigit? '/' = none := by decide

theorem zone?_toList (zone : Zone) : zone? zone.name.toList = some zone := by
  have isName : IsZoneName (String.ofList zone.name.toList) := by
    rw [String.ofList_toList]
    exact zone.isName
  rw [zone?, dif_pos isName]
  exact congrArg some (Zone.ext String.ofList_toList)

theorem wide?_chars {address : Address} (isWide : address.family = .v6) :
    wide? address.chars = some address := by
  obtain ⟨family, value, zone, inRange, zoned⟩ := address
  cases isWide
  let written := valueText .v6 value
  have noPercent : '%' ∉ written :=
    not_mem_valueText (by decide) (by decide) hexDigit?_percent .v6 value
  have kept (c : Char) (member : c ∈ written) : (c != '%') = true := by
    rw [bne_iff_ne]
    rintro rfl
    exact noPercent member
  have read : wideValue? written = some value := by
    have fits : value < 65536 ^ 8 := inRange
    have hextets := @wideValue?_compressHextets (Text.places 65536 8 value)
      (Text.places_length _ _ _) fun hextet member => Text.lt_of_mem_places (by decide) member
    rw [Text.ofPlaces_places (by decide) fits] at hextets
    exact hextets
  cases zone with
  | none =>
      have front : (written ++ []).takeWhile (· != '%') = written := by
        rw [List.takeWhile_append_of_pos kept, List.takeWhile_nil, List.append_nil]
      have behind : (written ++ []).dropWhile (· != '%') = [] := by
        rw [List.dropWhile_append_of_pos kept, List.dropWhile_nil]
      change wide? (written ++ []) = _
      simp only [wide?, front, behind, read, Option.bind_eq_bind, Option.bind_some]
      rw [ofZonedValue?, dif_pos inRange]
  | some zone =>
      let suffix := '%' :: zone.name.toList
      have front : (written ++ suffix).takeWhile (· != '%') = written := by
        rw [List.takeWhile_append_of_pos kept]
        simp [suffix]
      have behind : (written ++ suffix).dropWhile (· != '%') = suffix := by
        rw [List.dropWhile_append_of_pos kept]
        simp [suffix]
      change wide? (written ++ suffix) = _
      simp only [wide?, front, behind, read, Option.bind_eq_bind, Option.bind_some, suffix,
        zone?_toList]
      rw [ofZonedValue?, dif_pos inRange]

/-- An address is read back from its text, zone included. -/
theorem ofChars?_chars (address : Address) : ofChars? address.chars = some address := by
  obtain ⟨family, value, zone, inRange, zoned⟩ := address
  cases family with
  | v4 =>
      have unzoned : zone = none := by
        cases zone with
        | none => rfl
        | some zone => cases zoned rfl
      subst unzoned
      have fits : value < 256 ^ 4 := inRange
      have read : quad? (dottedQuad value ++ []) = some value := by
        rw [List.append_nil, quad?_dottedQuad fits]
      change ofChars? (dottedQuad value ++ []) = _
      rw [ofChars?, read]
      exact dif_pos inRange
  | v6 =>
      have several : 2 ≤ (Text.places 65536 8 value).length := by
        rw [Text.places_length]
        decide
      have colon : ':' ∈ chars ⟨.v6, value, zone, inRange, zoned⟩ := by
        rw [chars, valueText]
        exact List.mem_append_left _ (colon_mem_compressHextets several)
      rw [ofChars?, quad?_eq_none_of_mem colon (by decide) (by decide)]
      exact wide?_chars rfl

@[simp]
theorem ofText?_text (address : Address) : ofText? address.text = some address := by
  rw [ofText?, text, String.toList_ofList, ofChars?_chars]

theorem slash_not_mem_chars (address : Address) : '/' ∉ address.chars := by
  intro member
  rcases List.mem_append.mp member with inValue | inZone
  · exact not_mem_valueText (by decide) (by decide) hexDigit?_slash _ _ inValue
  · cases named : address.zone with
    | none =>
        rw [named] at inZone
        cases inZone
    | some zone =>
        rw [named] at inZone
        rcases List.mem_cons.mp inZone with isPercent | inName
        · exact absurd isPercent (by decide)
        · exact zone.isName.2.2 inName

/-- An address is read from four octets, or from hextets up to the percent sign, and it has
a zone exactly if there is one. -/
theorem ofChars?_cases {text : List Char} {address : Address}
    (read : ofChars? text = some address) :
    (quad? text = some address.value ∧ address.family = .v4 ∧ address.zone = none) ∨
      (address.family = .v6 ∧ wideValue? (text.takeWhile (· != '%')) = some address.value ∧
        (address.zone = none ↔ '%' ∉ text)) := by
  rw [ofChars?] at read
  split at read
  next value isQuad =>
    rw [ofValue?] at read
    split at read
    next =>
      cases read
      exact Or.inl ⟨isQuad, rfl, rfl⟩
    next => cases read
  next =>
    right
    have unzoned_iff : text.dropWhile (· != '%') = [] ↔ '%' ∉ text := by
      rw [List.dropWhile_eq_nil_iff]
      constructor
      · intro others percent
        exact absurd (others '%' percent) (by decide)
      · intro absent c member
        rw [bne_iff_ne]
        rintro rfl
        exact absent member
    obtain ⟨value, isValue, read⟩ := Option.bind_eq_some_iff.mp read
    split at read
    next whole =>
      rw [ofZonedValue?] at read
      split at read
      next =>
        cases read
        exact ⟨rfl, isValue, iff_of_true rfl (unzoned_iff.mp whole)⟩
      next => cases read
    next separator name cut =>
      obtain ⟨zone, _, read⟩ := Option.bind_eq_some_iff.mp read
      rw [ofZonedValue?] at read
      split at read
      next =>
        cases read
        have percent : ¬ '%' ∉ text := by
          rw [← unzoned_iff, cut]
          exact List.cons_ne_nil _ _
        exact ⟨rfl, isValue, iff_of_false (Option.some_ne_none _) percent⟩
      next => cases read

/-- An address that was read has a zone exactly if a percent sign is in the text. -/
theorem zone_eq_none_iff {text : List Char} {address : Address}
    (read : ofChars? text = some address) : address.zone = none ↔ '%' ∉ text := by
  rcases ofChars?_cases read with ⟨isQuad, _, unzoned⟩ | ⟨_, _, unzoned_iff⟩
  · refine iff_of_true unzoned ?_
    intro percent
    rw [quad?_eq_none_of_mem percent (by decide) (by decide)] at isQuad
    cases isQuad
  · exact unzoned_iff

end Address

end TunnelLease

import TunnelLease.Proofs.Settings.Escape
import TunnelLease.Proofs.Text.Integer
import TunnelLease.Template.Fill

/-!
# Written templates

A template is written part by part: literal text with every percent sign doubled, and
fields that show an argument as it is.  It is taken apart into these parts again, and each
part is filled on its own: literal text to itself and a field to the text of its argument,
which is not read as a template once more.  The first field without such a text is the
fault of the whole.
-/

namespace TunnelLease

namespace Template

/-- A name that a field can have.  Parentheses in it would be counted. -/
structure FieldName where
  text : String
  unopened : '(' ∉ text.toList
  unclosed : ')' ∉ text.toList

inductive Part where
  | literal (text : String)
  | argument (name : FieldName)

namespace Part

/-- The part as it stands in a template. -/
def written : Part → List Char
  | .literal text => Settings.escape text.toList
  | .argument name => '%' :: '(' :: (name.text.toList ++ [')', 's'])

def name? : Part → Option String
  | .literal _ => none
  | .argument name => some name.text

/-- The text that a part stands for among arguments. -/
def shown (arguments : Arguments) : Part → String
  | .literal text => text
  | .argument name => ((arguments.lookup name.text).map Literal.shown).getD ""

end Part

def written (parts : List Part) : String :=
  String.ofList (parts.flatMap Part.written)

/-- The names of the arguments that are shown, in the order of the template. -/
def names (parts : List Part) : List String :=
  parts.filterMap Part.name?

/-- Whether there is an argument of a name and it has a text. -/
def shows (arguments : Arguments) (name : String) : Bool :=
  (arguments.lookup name).any hasText

/-- The text of the argument of a name, or what is wrong with it. -/
def textOf (arguments : Arguments) (name : String) : Except Fault String :=
  match arguments.lookup name with
  | none => .error (.missing name)
  | some value => if hasText value then .ok value.shown else .error .numeralTooLong

/-- A number has a text if it is small enough. -/
theorem hasText_number {value : Int} :
    hasText (.number value) = true ↔ value.natAbs < 10 ^ Text.numeralLimit := by
  rw [hasText, decide_eq_true_iff]
  exact Nat.length_toDigits_le_iff (by decide) (by decide)

theorem shows_of_mem {arguments : Arguments}
    (isText : ∀ named ∈ arguments, hasText named.2 = true) {name : String}
    (member : name ∈ arguments.map Prod.fst) : shows arguments name = true := by
  cases found : arguments.lookup name with
  | none =>
      obtain ⟨named, given, rfl⟩ := List.mem_map.mp member
      exact absurd (List.lookup_eq_none_iff.mp found named given) (by simp)
  | some value =>
      obtain ⟨before, after, split, -⟩ := List.lookup_eq_some_iff.mp found
      have given : (name, value) ∈ arguments := by simp [split]
      rw [shows, found]
      exact isText (name, value) given

theorem textOf_of_shows {arguments : Arguments} {name : FieldName}
    (isShown : shows arguments name.text = true) :
    textOf arguments name.text = .ok ((Part.argument name).shown arguments) := by
  obtain ⟨value, found, isText⟩ := (Option.any_eq_true _ _).mp isShown
  simp [textOf, Part.shown, found, isText]

theorem textOf_of_missing {arguments : Arguments} {name : String}
    (missing : arguments.lookup name = none) :
    textOf arguments name = .error (.missing name) := by
  rw [textOf, missing]

theorem textOf_of_given {arguments : Arguments} {name : String}
    (given : arguments.lookup name ≠ none) (hidden : shows arguments name = false) :
    textOf arguments name = .error .numeralTooLong := by
  obtain ⟨value, found⟩ := Option.ne_none_iff_exists'.mp given
  have noText : hasText value = false := by simpa [shows, found] using hidden
  simp [textOf, found, noText]

/-! ## Taking apart -/

theorem closing_name {name : List Char} (unopened : '(' ∉ name) (unclosed : ')' ∉ name)
    (rest : List Char) : closing 0 (name ++ ')' :: rest) = some (name, rest) := by
  induction name with
  | nil => rfl
  | cons c name ih =>
      obtain ⟨notOpening, innerUnopened⟩ := not_or.mp (List.mem_cons.not.mp unopened)
      obtain ⟨notClosing, innerUnclosed⟩ := not_or.mp (List.mem_cons.not.mp unclosed)
      have later := ih innerUnopened innerUnclosed
      rw [List.cons_append, closing, if_neg (Ne.symm notClosing), if_neg (Ne.symm notOpening)]
      dsimp only
      rw [later]
      rfl

/-- A field of a name with a letter and nothing else. -/
def Field.named (name : List Char) (letter : Char) (behind : Nat) : Field :=
  ⟨some name, .plain, .unset, .unset, .conversion letter behind⟩

theorem readField_letter {letter : Char} (plain : letter ∈ ['s', 'd']) (name : List Char)
    (rest : List Char) :
    readField [] (some name) (letter :: rest) = (.named name letter rest.length, rest) := by
  rcases List.mem_pair.mp plain with rfl | rfl <;> rfl

theorem pieces_cons_of_ne {c : Char} (other : c ≠ '%') (rest : List Char) :
    pieces [] (c :: rest) = .literal c :: pieces [] rest := by
  rw [pieces.eq_def]
  exact if_pos other

theorem pieces_percent_percent (rest : List Char) :
    pieces [] ('%' :: '%' :: rest) = .literal '%' :: pieces [] rest := by
  rw [pieces.eq_def]
  rfl

theorem pieces_named {name : List Char} (unopened : '(' ∉ name) (unclosed : ')' ∉ name)
    {letter : Char} (plain : letter ∈ ['s', 'd']) (rest : List Char) :
    pieces [] ('%' :: '(' :: (name ++ ')' :: letter :: rest)) =
      .field (.named name letter rest.length) :: pieces [] rest := by
  have closed := closing_name unopened unclosed (letter :: rest)
  rw [pieces.eq_def]
  simp only [ne_eq, not_true_eq_false, if_false]
  split
  next found => rw [closed] at found; cases found
  next found =>
    rw [closed] at found
    cases found
    simp only [readField_letter plain]

theorem pieces_escape_append (text rest : List Char) :
    pieces [] (Settings.escape text ++ rest) = text.map .literal ++ pieces [] rest := by
  induction text with
  | nil => rfl
  | cons c text ih =>
      rw [Settings.escape, List.flatMap_cons, ← Settings.escape, List.append_assoc, List.map_cons,
        List.cons_append, ← ih]
      by_cases percent : c = '%'
      · rw [if_pos percent, percent]
        exact pieces_percent_percent _
      · rw [if_neg percent]
        exact pieces_cons_of_ne percent _

/-! ## Filling -/

section Filling

variable {size : Nat} {arguments : Arguments}

theorem fillPieces_literal_append (pending : Option Argument) (text : List Char)
    (later : List Piece) :
    fillPieces size arguments pending (text.map .literal ++ later) =
      (fillPieces size arguments pending later).map (text ++ ·) := by
  induction text with
  | nil =>
      rw [List.map_nil, List.nil_append]
      cases fillPieces size arguments pending later <;> rfl
  | cons c text ih =>
      rw [List.map_cons, List.cons_append, fillPieces, ih]
      cases fillPieces size arguments pending later <;> rfl

/-- Looking an argument up by the name of a field. -/
theorem argument_toList (name : String) :
    argument arguments name.toList =
      match arguments.lookup name with
      | none => .error (.missing name)
      | some value => .ok (.single value) := by
  rw [argument, String.ofList_toList]
  induction arguments with
  | nil => rfl
  | cons named later ih =>
      obtain ⟨key, value⟩ := named
      by_cases same : name = key
      · simp [same]
      · simpa [List.lookup_cons, beq_false_of_ne same, Ne.symm same] using ih

/-- A field of a name applies its conversion to the argument of the name. -/
theorem fill_named (pending : Option Argument) (name : String) (letter : Char) (behind : Nat) :
    (Field.named name.toList letter behind).fill size arguments pending =
      match arguments.lookup name with
      | none => .error (.missing name)
      | some value => convert .plain none none letter (size - behind - 1) (.single value) := by
  have found : (Field.named name.toList letter behind).atHand arguments pending =
      (argument arguments name.toList).map some := rfl
  have settled (given : Option Argument) :
      (Field.named name.toList letter behind).settleAmounts given = .ok given := rfl
  rw [Field.fill, found, argument_toList]
  cases arguments.lookup name with
  | none => rfl
  | some value =>
      simp only [Except.map, bind, Except.bind, settled]
      simp only [Field.named, Amount.value?]

theorem layOut_unfilled (body : Body) :
    body.layOut false false 0 = .ok (body.sign ++ body.mark ++ body.rest) := by
  simp [Body.layOut]

/-- Shown plainly, an argument is its text. -/
theorem convert_text (index : Nat) (value : Literal) :
    convert .plain none none 's' index (.single value) =
      if hasText value then .ok value.shown.toList else .error .numeralTooLong := by
  rw [convert, if_pos (by decide)]
  cases noText : hasText value with
  | false => simp [Argument.hasText, noText]
  | true =>
      simp only [Argument.hasText, noText, Bool.not_true, Bool.false_eq_true, if_false, if_true]
      exact layOut_unfilled (Body.ofText value.shown.toList)

/-- In decimal, a number is its text, too. -/
theorem convert_decimal (index : Nat) (number : Int) :
    convert .plain none none 'd' index (.single (.number number)) =
      if hasText (.number number) then .ok (toString number).toList
      else .error .numeralTooLong := by
  have decimal : baseOf 'd' = 10 := rfl
  have body : integerBody .plain 'd' 0 number =
      ⟨if number < 0 then ['-'] else [], [], Nat.toDigits 10 number.natAbs⟩ := by
    simp [integerBody, signOf, Flags.plain, decimal]
  rw [convert, if_neg (by decide), if_pos (by decide), Text.toList_toString]
  cases noText : hasText (.number number) with
  | false => simp [Argument.number?, Argument.hasText, decimal, noText]
  | true =>
      simp only [Argument.number?, Argument.hasText, noText, Option.getD_none, body]
      rw [if_neg (Nat.not_lt_zero _), if_neg (by simp), if_pos trivial]
      refine (layOut_unfilled _).trans ?_
      rw [List.append_nil]

theorem fillPieces_nil (pending : Option Argument) :
    fillPieces size arguments pending (pieces [] []) = .ok [] := by
  rw [pieces, fillPieces]

/-- Literal text is copied, with single percent signs. -/
theorem fillPieces_escape (pending : Option Argument) (text rest : List Char) :
    fillPieces size arguments pending (pieces [] (Settings.escape text ++ rest)) =
      (fillPieces size arguments pending (pieces [] rest)).map (text ++ ·) := by
  rw [pieces_escape_append, fillPieces_literal_append]

/-- A field is filled with the text of its argument, or its fault is that of the whole. -/
theorem fillPieces_argument (pending : Option Argument) (name : FieldName) (rest : List Char) :
    fillPieces size arguments pending (pieces [] ((Part.argument name).written ++ rest)) =
      match textOf arguments name.text with
      | .error fault => .error fault
      | .ok text => (fillPieces size arguments none (pieces [] rest)).map (text.toList ++ ·) := by
  have parted : pieces [] ((Part.argument name).written ++ rest) =
      .field (.named name.text.toList 's' rest.length) :: pieces [] rest := by
    rw [← pieces_named name.unopened name.unclosed (by decide)]
    simp [Part.written]
  have filled : (Field.named name.text.toList 's' rest.length).fill size arguments pending =
      (textOf arguments name.text).map String.toList := by
    rw [fill_named, textOf]
    cases arguments.lookup name.text with
    | none => rfl
    | some value =>
        dsimp only
        rw [convert_text]
        cases hasText value <;> rfl
  rw [parted, fillPieces, filled]
  cases textOf arguments name.text <;> rfl

/-- A field for a number in decimal is filled with the text of the number, if it has one. -/
theorem fillPieces_decimal (pending : Option Argument) (name : FieldName) {number : Int}
    (found : arguments.lookup name.text = some (.number number)) (rest : List Char) :
    fillPieces size arguments pending
        (pieces [] ('%' :: '(' :: (name.text.toList ++ ')' :: 'd' :: rest))) =
      if hasText (.number number) then
        (fillPieces size arguments none (pieces [] rest)).map ((toString number).toList ++ ·)
      else .error .numeralTooLong := by
  rw [pieces_named name.unopened name.unclosed (by decide), fillPieces, fill_named, found]
  dsimp only
  rw [convert_decimal]
  cases hasText (.number number) <;> rfl

/-- Parts whose arguments all have a text are filled one after the other. -/
theorem fillPieces_written (parts : List Part) (pending : Option Argument)
    (isShown : ∀ name ∈ names parts, shows arguments name = true) :
    fillPieces size arguments pending (pieces [] (parts.flatMap Part.written)) =
      .ok (parts.flatMap fun part => (part.shown arguments).toList) := by
  -- a field uses up what is at hand, so the parts behind it start from something else
  induction parts generalizing pending with
  | nil => exact fillPieces_nil pending
  | cons part later ih =>
      rw [List.flatMap_cons, List.flatMap_cons]
      cases part with
      | literal text =>
          rw [Part.written, fillPieces_escape, ih pending isShown]
          rfl
      | argument name =>
          obtain ⟨first, others⟩ := List.forall_mem_cons.mp isShown
          rw [fillPieces_argument, textOf_of_shows first]
          dsimp only
          rw [ih none others]
          rfl

/-- The first argument without a text is the fault of the whole. -/
theorem fillPieces_fault (parts : List Part) (pending : Option Argument) {name : String}
    (first : (names parts).find? (fun name => !shows arguments name) = some name)
    {fault : Fault} (reason : textOf arguments name = .error fault) :
    fillPieces size arguments pending (pieces [] (parts.flatMap Part.written)) = .error fault := by
  induction parts generalizing pending with
  | nil => cases first
  | cons part later ih =>
      rw [List.flatMap_cons]
      cases part with
      | literal text =>
          rw [Part.written, fillPieces_escape, ih pending first]
          rfl
      | argument own =>
          rw [fillPieces_argument]
          rcases List.find?_cons_eq_some.mp first with ⟨_, rfl⟩ | ⟨isShown, first⟩
          · rw [reason]
          · rw [textOf_of_shows (by simpa using isShown)]
            dsimp only
            rw [ih none first]
            rfl

theorem fill_written {parts : List Part}
    (isShown : ∀ name ∈ names parts, shows arguments name = true) :
    fill (written parts) arguments = .ok (String.join (parts.map (Part.shown arguments))) := by
  rw [fill, written, String.toList_ofList, fillPieces_written parts _ isShown]
  refine congrArg Except.ok (String.toList_injective ?_)
  rw [String.toList_ofList, String.toList_join, List.flatMap_map]

theorem fill_fault {parts : List Part} {name : String}
    (first : (names parts).find? (fun name => !shows arguments name) = some name)
    {fault : Fault} (reason : textOf arguments name = .error fault) :
    fill (written parts) arguments = .error fault := by
  rw [fill, written, String.toList_ofList, fillPieces_fault parts _ first reason]
  rfl

end Filling

end Template

end TunnelLease

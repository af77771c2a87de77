import TunnelLease.Error.Kind
import TunnelLease.Proofs.Template.Written

/-!
# Messages of errors

The message of an error is the template of its kind, filled with the data of the error.
Templates that show texts are written part by part; the only one that shows numbers in
decimal is taken apart by itself.

A number among the data may have no text.  Then the template cannot be filled, and the
fault is raised in place of the error.
-/

namespace TunnelLease

namespace Error

open Template (FieldName Part names shows)

variable {error : Error} {kind : Kind}

/-- None of the names is one that errors keep for themselves. -/
theorem describe_own (isKind : error.kind? = some kind) :
    kind.describe ⟨none, error.arguments⟩ =
      (Template.fill kind.template error.arguments).mapError .unfilled := by
  cases error <;> cases isKind <;> rfl

def textField : FieldName := ⟨"text", by decide, by decide⟩

def detailsField : FieldName := ⟨"details", by decide, by decide⟩

def prefixField : FieldName := ⟨"prefix", by decide, by decide⟩

def addressField : FieldName := ⟨"address", by decide, by decide⟩

def peerIdField : FieldName := ⟨"peer_id", by decide, by decide⟩

def sizeField : FieldName := ⟨"size", by decide, by decide⟩

def limitField : FieldName := ⟨"limit", by decide, by decide⟩

/-- The parts of the template of a kind, if it shows texts only. -/
def Kind.parts? : Kind → Option (List Part)
  | general => some [.literal "An unknown exception occurred."]
  | unreadable => some [
      .literal "Failed to parse '", .argument textField, .literal "': ", .argument detailsField]
  | tooLarge => none
  | noBroadcast => some [
      .literal "Broadcast address is not applicable to ", .argument prefixField]
  | outOfRange => some [
      .literal "Address ", .argument addressField, .literal " is outside of prefix ",
      .argument prefixField]
  | inUse => some [
      .literal "Address ", .argument addressField, .literal " is already assigned or reserved"]
  | exhausted => some [
      .literal "Address pool ", .argument prefixField, .literal " is exhausted"]
  | notAssigned => some [
      .literal "Address ", .argument addressField, .literal " is not assigned"]
  | voidKey => some [.literal "Invalid peer key: ", .argument detailsField]
  | alreadyRegistered => some [
      .literal "Peer ", .argument peerIdField, .literal " already exists"]
  | misconfigured => some [
      .literal "IPAM configuration error: ", .argument detailsField]

theorem Kind.template_of_parts {kind : Kind} {parts : List Part}
    (parted : kind.parts? = some parts) : kind.template = Template.written parts := by
  cases kind <;> cases parted <;> rfl

theorem names_of_parts (isKind : error.kind? = some kind) {parts : List Part}
    (parted : kind.parts? = some parts) : names parts = error.arguments.map Prod.fst := by
  cases error <;> cases isKind <;> cases parted <;> rfl

theorem join_of_parts (isKind : error.kind? = some kind) {parts : List Part}
    (parted : kind.parts? = some parts) :
    String.join (parts.map (Part.shown error.arguments)) = error.message := by
  cases error <;> cases isKind <;> cases parted <;> rfl

theorem hasText_toLiteral (key : PeerKey) : Template.hasText key.toLiteral = true := by
  cases key <;> rfl

/-- Data that may be numbers are what could not be read, a size and a limit. -/
theorem eq_of_hasWords_eq_false (noWords : error.hasWords = false) :
    (∃ cause, error = .unreadable cause ∧ Template.hasText cause.written = false) ∨
      ∃ size limit, error = .tooLarge size limit := by
  cases error with
  | unreadable cause =>
      exact Or.inl ⟨cause, rfl, by simpa [hasWords, arguments, Template.hasText] using noWords⟩
  | tooLarge size limit => exact Or.inr ⟨size, limit, rfl⟩
  | alreadyRegistered key => simp [hasWords, arguments, hasText_toLiteral] at noWords
  | _ => cases noWords

theorem fill_unreadable {cause : Unreadable} (noText : Template.hasText cause.written = false) :
    Template.fill Kind.unreadable.template (unreadable cause).arguments =
      .error .numeralTooLong := by
  have hidden : shows (unreadable cause).arguments "text" = false := noText
  have reason : Template.textOf (unreadable cause).arguments "text" = .error .numeralTooLong :=
    Template.textOf_of_given (Option.some_ne_none cause.written) hidden
  rw [Kind.template_of_parts rfl]
  exact Template.fill_fault (List.find?_cons_of_pos (by rw [textField, hidden]; rfl)) reason

theorem fill_tooLarge (size : Nat) (limit : Int) :
    Template.fill Kind.tooLarge.template (tooLarge size limit).arguments =
      if (tooLarge size limit).hasWords then .ok (tooLarge size limit).message
      else .error .numeralTooLong := by
  have parted : Kind.tooLarge.template.toList =
      Settings.escape "Prefix block size ".toList ++ '%' :: '(' :: (sizeField.text.toList ++ ')' ::
        'd' :: (Settings.escape " exceeds the limit of ".toList ++ '%' :: '(' ::
          (limitField.text.toList ++ ')' :: 'd' :: (Settings.escape " addresses".toList ++ [])))) :=
    rfl
  have said : (tooLarge size limit).message = "Prefix block size " ++ toString (size : Int) ++
      " exceeds the limit of " ++ toString limit ++ " addresses" := rfl
  have worded : (tooLarge size limit).hasWords =
      (Template.hasText (.number size) && (Template.hasText (.number limit) && true)) := rfl
  rw [Template.fill, parted, Template.fillPieces_escape,
    Template.fillPieces_decimal _ sizeField rfl, Template.fillPieces_escape,
    Template.fillPieces_decimal _ limitField rfl, Template.fillPieces_escape,
    Template.fillPieces_nil, worded]
  cases Template.hasText (.number size) with
  | false => rfl
  | true =>
      cases Template.hasText (.number limit) with
      | false => rfl
      | true =>
          simp only [Except.map, said, Bool.and_self, if_true, Except.ok.injEq,
            ← String.toList_inj, String.toList_ofList, String.toList_append, List.append_assoc,
            List.append_nil]

theorem fill_own (isKind : error.kind? = some kind) :
    Template.fill kind.template error.arguments =
      if error.hasWords then .ok error.message else .error .numeralTooLong := by
  cases worded : error.hasWords with
  | false =>
      rcases eq_of_hasWords_eq_false worded with ⟨cause, rfl, noText⟩ | ⟨size, limit, rfl⟩
      · cases isKind
        exact fill_unreadable noText
      · cases isKind
        rw [fill_tooLarge, worded]
  | true =>
      cases parted : kind.parts? with
      | none =>
          obtain ⟨size, limit, rfl⟩ : ∃ size limit, error = .tooLarge size limit := by
            cases error <;> cases isKind <;> first | exact ⟨_, _, rfl⟩ | cases parted
          cases isKind
          rw [fill_tooLarge, worded]
      | some parts =>
          have isShown : ∀ name ∈ names parts, shows error.arguments name = true := by
            intro name member
            rw [names_of_parts isKind parted] at member
            exact Template.shows_of_mem (List.all_eq_true.mp worded) member
          rw [Kind.template_of_parts parted, Template.fill_written isShown,
            join_of_parts isKind parted, if_pos rfl]

/-- An error has words exactly if the template of its kind can be filled with its data, and
its message is what comes of it. -/
theorem describe_arguments (isKind : error.kind? = some kind) :
    kind.describe ⟨none, error.arguments⟩ =
      if error.hasWords then .ok error.message else .error (.unfilled .numeralTooLong) := by
  rw [describe_own isKind, fill_own isKind]
  cases error.hasWords <;> rfl

/-- What is raised is the error if its message can be composed, and the fault if not. -/
theorem describe_raised (isKind : error.kind? = some kind) :
    (kind.describe ⟨none, error.arguments⟩ = .ok error.message ∧ error.raised = error) ∨
      ∃ fault, kind.describe ⟨none, error.arguments⟩ = .error (.unfilled fault) ∧
        error.raised = .wordless fault := by
  rw [describe_arguments isKind, raised]
  cases error.hasWords with
  | false => exact Or.inr ⟨.numeralTooLong, rfl, rfl⟩
  | true => exact Or.inl ⟨rfl, rfl⟩

end Error

end TunnelLease

import TunnelLease.Error.Kind
import TunnelLease.Proofs.Template.Written

/-!
# Errors in a caller's words

An error of any kind may be worded by a template of the caller's own.  Its message is then
what the template was written from, with the text of an argument for each field.  Names of
arguments that the error keeps for itself are the exception: an argument with such a name
is refused, or it is the template.
-/

namespace TunnelLease

namespace Error

open Template (FieldName Part names shows)

theorem Kind.compose_text (kind : Kind) {template : String} (occupied : template ≠ "")
    (arguments : Template.Arguments) :
    kind.compose (.text template) arguments = Template.fill template arguments := by
  simp [Kind.compose, Literal.isVoid, Template.fillLiteral, occupied]

theorem Kind.describe_text (kind : Kind) {wording : Wording} (untaken : wording.taken? = none)
    {template : String} (occupied : template ≠ "") (worded : wording.template = .text template) :
    kind.describe wording = (Template.fill template wording.arguments).mapError .unfilled := by
  rw [Kind.describe, untaken, worded]
  dsimp only
  rw [Kind.compose_text kind occupied]

/-- An error is described in one pass over the template, whatever the texts of its arguments
look like.  The first name in the template without such a text is what is wrong with it. -/
theorem Kind.describe_written (kind : Kind) {wording : Wording} (untaken : wording.taken? = none)
    {parts : List Part} (occupied : Template.written parts ≠ "")
    (worded : wording.template = .text (Template.written parts)) :
    ((∀ name ∈ names parts, shows wording.arguments name = true) →
      kind.describe wording = .ok (String.join (parts.map (Part.shown wording.arguments)))) ∧
    (∀ name, (names parts).find? (fun name => !shows wording.arguments name) = some name →
      (wording.arguments.lookup name = none →
        kind.describe wording = .error (.unfilled (.missing name))) ∧
      (wording.arguments.lookup name ≠ none →
        kind.describe wording = .error (.unfilled .numeralTooLong))) ∧
    ∀ text, Template.written parts = Template.written [.literal text] →
      kind.describe wording = .ok text := by
  have described := kind.describe_text untaken occupied worded
  refine ⟨fun isShown => ?_, fun name first => ⟨fun missing => ?_, fun given => ?_⟩,
    fun text doubled => ?_⟩
  · rw [described, Template.fill_written isShown]
    rfl
  · rw [described, Template.fill_fault first (Template.textOf_of_missing missing)]
    rfl
  · have hidden : shows wording.arguments name = false := by
      simpa using List.find?_some first
    rw [described, Template.fill_fault first (Template.textOf_of_given given hidden)]
    rfl
  · rw [described, doubled, Template.fill_written fun _ member => absurd member List.not_mem_nil]
    simp [Part.shown, Except.mapError]

def peerField : FieldName := ⟨"peer", by decide, by decide⟩

/-- Words with percent signs next to a field. -/
def shareParts : List Part := [.literal "100%", .argument peerField, .literal "%"]

/-- An argument that looks like a template is copied, and one that is missing is named. -/
theorem Kind.describe_written_share :
    let template := Template.written shareParts
    let full : Wording := ⟨some (.text template), [("peer", .text "%(peer)s%%")]⟩
    let bare : Wording := ⟨none, [(templateName, .text template)]⟩
    template = "100%%%(peer)s%%" ∧ template ≠ "" ∧
      (full.taken? = none ∧ full.template = .text template ∧
        (∀ name ∈ names shareParts, shows full.arguments name = true) ∧
        exhausted.describe full = .ok "100%%(peer)s%%%") ∧
      bare.taken? = none ∧ bare.template = .text template ∧
        (names shareParts).find? (fun name => !shows bare.arguments name) = some "peer" ∧
        exhausted.describe bare = .error (.unfilled (.missing "peer")) := by
  intro template full bare
  have occupied : template ≠ "" := by decide
  have isShown : ∀ name ∈ names shareParts, shows full.arguments name = true := by decide
  have first : (names shareParts).find? (fun name => !shows bare.arguments name) =
      some "peer" := by decide
  refine ⟨by decide, occupied, ⟨by decide, by decide, isShown, ?_⟩, by decide, by decide, first, ?_⟩
  · exact (exhausted.describe_written (by decide : full.taken? = none) occupied rfl).1 isShown
  · exact ((exhausted.describe_written (by decide : bare.taken? = none) occupied rfl).2.1
      "peer" first).1 (by decide)

def selfField : FieldName := ⟨selfName, by decide, by decide⟩

def templateField : FieldName := ⟨templateName, by decide, by decide⟩

def numberField : FieldName := ⟨"number", by decide, by decide⟩

def numberWording (number : Int) : Wording :=
  ⟨some (.text (Template.written [.argument numberField])), [("number", .number number)]⟩

/-- A number without a text is refused. -/
theorem describe_numberWording (kind : Kind) {number : Int}
    (noText : Template.hasText (.number number) = false) :
    kind.describe (numberWording number) = .error (.unfilled .numeralTooLong) := by
  have given : (numberWording number).arguments.lookup "number" = some (.number number) := rfl
  have hidden : shows (numberWording number).arguments "number" = false := by
    rw [shows, given]
    exact noText
  have first : (names [.argument numberField]).find?
      (fun name => !shows (numberWording number).arguments name) = some "number" :=
    List.find?_cons_of_pos (by simp [numberField, hidden])
  have reason := Template.textOf_of_given (by rw [given]; exact Option.some_ne_none _) hidden
  rw [kind.describe_text (rfl : (numberWording number).taken? = none) (by decide) rfl,
    Template.fill_fault first reason]
  rfl

/-- The least number that has no text. -/
def longNumber : Int := ((10 ^ Text.numeralLimit : Nat) : Int)

theorem hasText_longNumber : Template.hasText (.number longNumber) = false := by
  rw [← Bool.not_eq_true, Template.hasText_number, longNumber, Int.natAbs_natCast]
  exact Nat.lt_irrefl _

/-- A given argument for each name does not suffice: the name may be taken, it may be that of
the template, and the argument may have no text. -/
theorem Kind.describe_refuses_given :
    let ofSelf : Wording :=
      ⟨some (.text (Template.written [.argument selfField])), [(selfName, .text "x")]⟩
    let ofTemplate : Wording :=
      ⟨none, [(templateName, .text (Template.written [.argument templateField]))]⟩
    ((∀ name ∈ names [.argument selfField], (ofSelf.given.lookup name).isSome) ∧
        general.describe ofSelf = .error (.taken selfName)) ∧
      ((∀ name ∈ names [.argument templateField], (ofTemplate.given.lookup name).isSome) ∧
        exhausted.describe ofTemplate = .error (.unfilled (.missing templateName))) ∧
      (∀ name ∈ names [.argument numberField],
          ((numberWording longNumber).given.lookup name).isSome) ∧
        general.describe (numberWording longNumber) = .error (.unfilled .numeralTooLong) := by
  intro ofSelf ofTemplate
  have first : (names [.argument templateField]).find?
      (fun name => !shows ofTemplate.arguments name) = some templateName := by decide
  have missing : ofTemplate.arguments.lookup templateName = none := by decide
  have described : exhausted.describe ofTemplate = .error (.unfilled (.missing templateName)) := by
    rw [exhausted.describe_text (by decide : ofTemplate.taken? = none) (by decide) rfl,
      Template.fill_fault first (Template.textOf_of_missing missing)]
    rfl
  refine ⟨⟨by decide, rfl⟩, ⟨by decide, described⟩, fun name member => ?_,
    describe_numberWording general hasText_longNumber⟩
  obtain rfl := List.mem_singleton.mp member
  rfl

end Error

end TunnelLease

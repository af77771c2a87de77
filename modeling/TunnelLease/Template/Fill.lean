import TunnelLease.Template.Conversion

/-!
# Filling templates

Filling goes from left to right, and the first fault wins.  What is at hand for a
field is the argument that its name calls for; a field without a name finds all
arguments at hand if it is the first field, and else nothing, for each argument that
is at hand is used once.
-/

namespace TunnelLease

namespace Template

def argument (arguments : Arguments) (name : List Char) : Except Fault Argument :=
  match arguments.find? fun named => named.1 == String.ofList name with
  | some named => .ok (.single named.2)
  | none => .error (.missing (String.ofList name))

/-- What is at hand for a field once its name is read. -/
def Field.atHand (field : Field) (arguments : Arguments) (pending : Option Argument) :
    Except Fault (Option Argument) :=
  match field.name with
  | none => .ok pending
  | some name => (argument arguments name).map some

/-- Takes what is at hand as a width or a precision between `lowest` and `highest`. -/
def takeAmount (lowest highest : Int) (overflow : Fault) (pending : Option Argument) :
    Except Fault Unit :=
  match pending with
  | none => .error .spent
  | some wanted =>
      match wanted.number? with
      | none => .error .notAmount
      | some number =>
          if lowest ≤ number ∧ number ≤ highest then .ok () else .error overflow

/-- What is at hand behind an amount, which uses it up if it asks for it. -/
def Amount.settle (amount : Amount) (lowest highest : Int) (overflow : Fault)
    (pending : Option Argument) : Except Fault (Option Argument) :=
  match amount with
  | .asked => (takeAmount lowest highest overflow pending).map fun _ => none
  | _ => .ok pending

def Amount.value? : Amount → Option Nat
  | .fixed value => some value
  | _ => none

/-- What is at hand behind the width and the precision of a field. -/
def Field.settleAmounts (field : Field) (pending : Option Argument) :
    Except Fault (Option Argument) := do
  let given ← field.width.settle (-widthBound - 1) widthBound .widthOverflow pending
  field.precision.settle (-precisionBound - 1) precisionBound .precisionOverflow given

/-- The text of a field in a template of `size` characters. -/
def Field.fill (field : Field) (size : Nat) (arguments : Arguments)
    (pending : Option Argument) : Except Fault (List Char) := do
  let found ← field.atHand arguments pending
  let given ← field.settleAmounts found
  match field.ending with
  | .cut => .error .incomplete
  | .widthTooBig => .error .widthTooBig
  | .precisionTooBig => .error .precisionTooBig
  | .conversion letter behind =>
      match given with
      | none => .error .spent
      | some value =>
          convert field.flags field.width.value? field.precision.value? letter
            (size - behind - 1) value

/-- The text of the parts of a template of `size` characters. -/
def fillPieces (size : Nat) (arguments : Arguments) (pending : Option Argument) :
    List Piece → Except Fault (List Char)
  | [] => .ok []
  | .literal c :: later => (fillPieces size arguments pending later).map (c :: ·)
  | .unclosed :: _ => .error .incompleteKey
  | .field field :: later =>
      match field.fill size arguments pending with
      | .error fault => .error fault
      | .ok text => (fillPieces size arguments none later).map (text ++ ·)

def fill (template : String) (arguments : Arguments) : Except Fault String :=
  (fillPieces template.length arguments (some (.all arguments)) (pieces [] template.toList)).map
    String.ofList

end Template

end TunnelLease

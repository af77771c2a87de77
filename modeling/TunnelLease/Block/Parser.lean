import TunnelLease.Error.Kind
import TunnelLease.Subnet.Parser

/-!
# Reading and listing blocks

The empty text is the empty block; every other block is written as a subnet.
Reading may also insist that the block is small enough to be listed.
-/

namespace TunnelLease

namespace Address

/-- The address that a literal denotes, or the refusal to read it. -/
def ofLiteral (written : Literal) : Except Error Address :=
  match ofLiteral? written with
  | some address => .ok address
  | none => .error (Error.unreadable ⟨written, .address⟩).raised

end Address

namespace Block

/-- Refuses a block with more addresses than may be listed. -/
def checkSize (block : Block) : Except Error Unit :=
  if block.isOversized then .error (Error.tooLarge block.size block.limit).raised else .ok ()

def ofText (text : String) (limit : Int) : Except Unreadable Block :=
  if text = "" then .ok ⟨none, limit⟩
  else if '/' ∉ text.toList then .error ⟨.text text, .slashed⟩
  else
    match Subnet.ofText? text with
    | some subnet => .ok ⟨some subnet, limit⟩
    | none => .error ⟨.text text, .subnet⟩

/-- Reads a block from any literal, of which only texts can be blocks. -/
def ofLiteral (written : Literal) (limit : Int) : Except Unreadable Block :=
  match written with
  | .text content => ofText content limit
  | other => .error ⟨other, .slashed⟩

/-- Reads a block and, if asked to be strict, checks the size of one that has a subnet:
the empty block is readable under every limit. -/
def read (written : Literal) (limit : Int) (strict : Bool) : Except Error Block :=
  match ofLiteral written limit with
  | .error cause => .error (Error.unreadable cause).raised
  | .ok block =>
      if strict && !block.isEmpty then block.checkSize.map fun _ => block else .ok block

/-- Every address of the block in ascending order. -/
def addresses (block : Block) : Except Error (List Address) :=
  block.checkSize.map fun _ =>
    match block.subnet with
    | none => []
    | some subnet => subnet.members

/-- The broadcast address, which only the narrower family has. -/
def broadcast (block : Block) : Except Error Address :=
  match block.subnet with
  | none => .error (.noBroadcast block)
  | some subnet =>
      if subnet.family = .v4 then .ok subnet.broadcast else .error (.noBroadcast block)

/-- Whether a literal denotes an address of the block.  The empty block answers
without looking at the literal. -/
def containsLiteral (block : Block) (written : Literal) : Except Error Bool :=
  if block.isEmpty then .ok false
  else (Address.ofLiteral written).map block.contains

end Block

end TunnelLease

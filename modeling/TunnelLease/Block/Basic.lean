import TunnelLease.Subnet.Basic

/-!
# Blocks

A block is the address space of one pool: a subnet, or nothing where a family is
not configured.  It carries a limit on how many addresses may be listed at once.
-/

namespace TunnelLease

/-- A subnet or nothing, with the limit on listing it. -/
@[ext]
structure Block where
  subnet : Option Subnet
  limit : Int
deriving DecidableEq

namespace Block

/-- The limit that holds unless another one is given. -/
def defaultLimit : Int := 65536

/-- Whether the block stands for a family that is not configured. -/
def isEmpty (block : Block) : Bool :=
  block.subnet.isNone

def size (block : Block) : Nat :=
  match block.subnet with
  | none => 0
  | some subnet => subnet.size

/-- The text of the block; the empty block has the empty text. -/
def text (block : Block) : String :=
  match block.subnet with
  | none => ""
  | some subnet => subnet.text

/-- The text by which messages name the block. -/
def label (block : Block) : String :=
  match block.subnet with
  | none => "<empty>"
  | some subnet => subnet.text

def contains (block : Block) (address : Address) : Bool :=
  match block.subnet with
  | none => false
  | some subnet => subnet.contains address

/-- Whether the block has more addresses than may be listed. -/
def isOversized (block : Block) : Bool :=
  block.limit < block.size

end Block

end TunnelLease

import TunnelLease.Error

/-!
# The journal

Pools and registries report what they do as events of five levels.  A reply is
what an operation answers, the state it leaves and the events it reported.
-/

namespace TunnelLease

inductive Level where
  | debug
  | info
  | warning
  | error
  | critical
deriving DecidableEq, Repr

inductive Event where
  | reserved (address : Address) (block : Block)
  | opened (block : Block) (reservations : Nat)
  | leased (address : Address) (block : Block)
  | ranDry (block : Block)
  | returned (address : Address) (block : Block)
  | acquireFailed (key : PeerKey) (position : Nat) (cause : Error)
  | registered (peer : Peer)
  | violated (violation : Violation)
  | released (key : PeerKey)
  | alreadyReserved (written : String) (block : Block)
  | provisioned (blocks : List Block)
deriving DecidableEq

namespace Event

def level : Event → Level
  | .reserved .. | .leased .. | .returned .. | .alreadyReserved .. => .debug
  | .opened .. | .registered .. | .released .. | .provisioned .. => .info
  | .ranDry .. | .acquireFailed .. => .warning
  | .violated .. => .critical

def text : Event → String
  | .reserved address block => s!"Reserved {address.text} in pool {block.text}"
  | .opened block reservations =>
      s!"Address pool {block.text} initialized: {block.size} addresses, {reservations} reserved"
  | .leased address block => s!"Leased {address.text} from pool {block.text}"
  | .ranDry block => s!"Address pool {block.label} exhausted"
  | .returned address block => s!"Returned {address.text} to pool {block.text}"
  | .acquireFailed key position cause =>
      s!"Failed to acquire addresses for peer {key.shown} from pool {position}: {cause.message}"
  | .registered peer =>
      s!"Registered peer {peer.key.shown} with addresses " ++
        ", ".intercalate (peer.addresses.map Address.text)
  | .violated violation =>
      s!"Address bookkeeping violated: peer={violation.key.shown} " ++
        s!"pool_index={violation.position} address={violation.address.text}: " ++
        violation.cause.message
  | .released key => s!"Released peer {key.shown}"
  | .alreadyReserved written block => s!"Address {written} already reserved in pool {block.text}"
  | .provisioned blocks =>
      s!"Built {blocks.length} address pools: " ++ ", ".intercalate (blocks.map Block.text)

end Event

/-- What an operation answers, the state after it and the events it reported. -/
structure Reply (ε σ α : Type) where
  answer : Except ε α
  state : σ
  log : List Event

end TunnelLease

import TunnelLease.Pool.Basic

/-!
# The peer registry

A registry gives each peer one address of the pool at each of its positions.  The
same pool may stand at several positions, so positions name pools, and the pools
themselves are kept once.  Peers are kept in the order of their registration.

Acquiring is all or nothing: if a pool refuses, the addresses taken so far go back
to their pools.  Releasing gives every address back; if a pool refuses one, the
registry and the pool disagree, and the peer stays registered.
-/

namespace TunnelLease

structure Registry (count : Nat) where
  pools : Vector Pool count
  positions : List (Fin count)
  peers : List Peer

/-- Why a registry did not do what it was asked. -/
inductive Failure where
  | refused (cause : Error)
  | corrupted (violation : Violation)
deriving DecidableEq

def Failure.message : Failure → String
  | .refused cause => cause.message
  | .corrupted violation => violation.message

namespace Registry

variable {count : Nat}

/-- A registry without peers, which needs at least one position. -/
def open? (pools : Vector Pool count) (positions : List (Fin count)) :
    Except Error (Registry count) :=
  if positions.isEmpty then .error (.misconfigured .noPools)
  else .ok ⟨pools, positions, []⟩

/-- A registry with one position for each pool, in order. -/
def ofPools (pools : Vector Pool count) : Except Error (Registry count) :=
  open? pools (List.finRange count)

def lookup (registry : Registry count) (key : PeerKey) : Option Peer :=
  registry.peers.find? fun peer => peer.key == key

def has (registry : Registry count) (key : PeerKey) : Bool :=
  (registry.lookup key).isSome

def size (registry : Registry count) : Nat :=
  registry.peers.length

/-- What came of leasing an address at each position. -/
structure Leasing (count : Nat) where
  pools : Vector Pool count
  taken : List Address
  refusal : Option Error
  log : List Event

/-- Leases an address at each position until a pool refuses. -/
def leaseEach (pools : Vector Pool count) : List (Fin count) → Leasing count
  | [] => ⟨pools, [], none, []⟩
  | position :: positions =>
      let reply := pools[position].lease
      let pools := pools.set position reply.state
      match reply.answer with
      | .error cause => ⟨pools, [], some cause, reply.log⟩
      | .ok address =>
          let later := leaseEach pools positions
          ⟨later.pools, address :: later.taken, later.refusal, reply.log ++ later.log⟩

/-- Puts addresses back to the pools they came from, until a pool refuses one.
`index` counts the positions. -/
def putBackEach (key : PeerKey) (index : Nat) (pools : Vector Pool count) :
    List (Fin count × Address) → Reply Violation (Vector Pool count) Unit
  | [] => ⟨.ok (), pools, []⟩
  | (position, address) :: holdings =>
      let reply := pools[position].putBack address
      match reply.answer with
      | .error cause =>
          let violation := ⟨key, index, address, cause⟩
          ⟨.error violation, pools, reply.log ++ [.violated violation]⟩
      | .ok _ =>
          let later := putBackEach key (index + 1) (pools.set position reply.state) holdings
          ⟨later.answer, later.state, reply.log ++ later.log⟩

/-- Registers a peer with an address from each position. -/
def acquire (registry : Registry count) (key : PeerKey) :
    Reply Failure (Registry count) (List Address) :=
  if key.isVoid then ⟨.error (.refused .voidKey), registry, []⟩
  else if registry.has key then ⟨.error (.refused (.alreadyRegistered key)), registry, []⟩
  else
    let leasing := leaseEach registry.pools registry.positions
    match leasing.refusal with
    | none =>
        let peer := ⟨key, leasing.taken⟩
        ⟨.ok leasing.taken,
          { registry with pools := leasing.pools, peers := registry.peers ++ [peer] },
          leasing.log ++ [.registered peer]⟩
    | some cause =>
        let undone := putBackEach key 0 leasing.pools (registry.positions.zip leasing.taken)
        let failure := match undone.answer with
          | .ok _ => .refused cause
          | .error violation => .corrupted violation
        ⟨.error failure, { registry with pools := undone.state },
          leasing.log ++ [.acquireFailed key leasing.taken.length cause] ++ undone.log⟩

/-- Gives back the addresses of a peer and forgets it.  An unknown key is ignored. -/
def release (registry : Registry count) (key : PeerKey) :
    Reply Violation (Registry count) Unit :=
  match registry.lookup key with
  | none => ⟨.ok (), registry, []⟩
  | some peer =>
      let undone := putBackEach key 0 registry.pools (registry.positions.zip peer.addresses)
      match undone.answer with
      | .error violation =>
          ⟨.error violation, { registry with pools := undone.state }, undone.log⟩
      | .ok _ =>
          let peers := registry.peers.filter fun peer => peer.key != key
          ⟨.ok (), { registry with pools := undone.state, peers := peers },
            undone.log ++ [.released key]⟩

/-- What a visitor wants after it has seen a peer. -/
inductive Verdict where
  | next
  | stop
  | abort (reason : String)
deriving DecidableEq

/-- Shows each of some peers to a visitor with a memory, until it stops or aborts. -/
def visitPeers {σ : Type} (visitor : σ → Peer → σ × Verdict) (memory : σ) :
    List Peer → σ × Option String
  | [] => (memory, none)
  | peer :: peers =>
      match visitor memory peer with
      | (memory, .next) => visitPeers visitor memory peers
      | (memory, .stop) => (memory, none)
      | (memory, .abort reason) => (memory, some reason)

/-- Shows the peers in the order of registration to a visitor.  The answer holds the
visitor's memory and the reason for which it aborted, if it did. -/
def forEach {σ : Type} (registry : Registry count) (visitor : σ → Peer → σ × Verdict)
    (memory : σ) : σ × Option String :=
  visitPeers visitor memory registry.peers

/-- Applies an operation to one of the pools, behind the registry's back. -/
def onPool {α : Type} (registry : Registry count) (pool : Fin count)
    (operation : Pool → Reply Error Pool α) : Reply Failure (Registry count) α :=
  let reply := operation registry.pools[pool]
  ⟨reply.answer.mapError .refused, { registry with pools := registry.pools.set pool reply.state },
    reply.log⟩

end Registry

end TunnelLease

import TunnelLease.Pool.Basic

/-!
# Requests to a pool

Callers name addresses by literals of any kind.  A request that cannot be read
as an address is refused before the pool is looked at.  `run` answers a sequence
of requests; a refused one does not end it.
-/

namespace TunnelLease

namespace Pool

inductive Request where
  | lease
  | putBack (written : Literal)
  | reserve (written : Literal)
  | isAssigned (written : Literal)
  | isReserved (written : Literal)
  | contains (written : Literal)
deriving DecidableEq

inductive Answer where
  | address (address : Address)
  | done
  | verdict (holds : Bool)
deriving DecidableEq

/-- Answers a question that leaves the pool as it is. -/
def probe (pool : Pool) (written : Literal) (test : Address → Bool) :
    Reply Error Pool Answer :=
  ⟨(Address.ofLiteral written).map fun address => .verdict (test address), pool, []⟩

/-- Applies an operation to the address that a literal denotes. -/
def applyTo (pool : Pool) (written : Literal)
    (operation : Address → Reply Error Pool Unit) : Reply Error Pool Answer :=
  match Address.ofLiteral written with
  | .error cause => ⟨.error cause, pool, []⟩
  | .ok address =>
      let reply := operation address
      ⟨reply.answer.map fun _ => .done, reply.state, reply.log⟩

def step (pool : Pool) : Request → Reply Error Pool Answer
  | .lease =>
      let reply := pool.lease
      ⟨reply.answer.map .address, reply.state, reply.log⟩
  | .putBack written => pool.applyTo written pool.putBack
  | .reserve written => pool.applyTo written pool.reserve
  | .isAssigned written => pool.probe written (· ∈ pool.assigned)
  | .isReserved written => pool.probe written (· ∈ pool.reserved)
  | .contains written => ⟨(pool.block.containsLiteral written).map .verdict, pool, []⟩

/-- The answers to a sequence of requests, and the pool after them. -/
def run (pool : Pool) : List Request → List (Except Error Answer) × Pool
  | [] => ([], pool)
  | request :: requests =>
      let reply := pool.step request
      let later := run reply.state requests
      (reply.answer :: later.1, later.2)

/-- What came of leasing one address after the other. -/
structure Drain where
  leased : List Address
  refusal : Option Error
  state : Pool
  log : List Event

/-- Leases addresses until the pool refuses, but at most `limit` of them. -/
def drain (pool : Pool) : Nat → Drain
  | 0 => ⟨[], none, pool, []⟩
  | limit + 1 =>
      let reply := pool.lease
      match reply.answer with
      | .error cause => ⟨[], some cause, reply.state, reply.log⟩
      | .ok address =>
          let later := drain reply.state limit
          ⟨address :: later.leased, later.refusal, later.state, reply.log ++ later.log⟩

end Pool

end TunnelLease

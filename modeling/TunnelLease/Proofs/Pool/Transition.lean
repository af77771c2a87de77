import TunnelLease.Proofs.Pool.Invariant

/-!
# What a call does

A call that succeeds does one thing to one address: it leases it, takes it back or
reserves it.  A call that is refused does nothing, although a refused lease may move the
cursor.  The chronicle of a run is the list of what was done, in order, and what every
transition keeps of the chronicle so far and the pool, every run keeps.
-/

namespace TunnelLease

/-- What can happen to an address. -/
inductive Milestone where
  | leased
  | returned
  | reserved
deriving DecidableEq

/-- Something that a call has done to an address. -/
structure Deed where
  milestone : Milestone
  address : Address
deriving DecidableEq

namespace Pool

/-- What a call with a given answer has done. -/
def deed? : Call → Except Error Answer → Option Deed
  | .lease, .ok (.address address) => some ⟨.leased, address⟩
  | .putBack argument, .ok _ => argument.read.toOption.map (Deed.mk .returned)
  | .reserve argument, .ok _ => argument.read.toOption.map (Deed.mk .reserved)
  | _, _ => none

/-- What is done in a run, in order. -/
def chronicle (pool : Pool) : List Call → List Deed
  | [] => []
  | call :: calls =>
      let reply := pool.call call
      (deed? call reply.answer).toList ++ chronicle reply.state calls

/-- What a call does, and what the pool is after it. -/
inductive Transition (pool : Pool) : Option Deed → Pool → Prop
  | refused : Transition pool none pool
  | ranDry (idle : pool.recycled = []) :
      Transition pool none { pool with cursor := pool.block.stop }
  | leasedAgain {address : Address} {others : List Address}
      (queued : pool.recycled = address :: others) :
      Transition pool (some ⟨.leased, address⟩)
        { pool with recycled := others, assigned := address :: pool.assigned }
  | leasedFresh {address : Address} (idle : pool.recycled = []) (isFresh : address ∈ pool.fresh) :
      Transition pool (some ⟨.leased, address⟩)
        { pool with cursor := address.value + 1, assigned := address :: pool.assigned }
  | returned {address : Address} (assigned : address ∈ pool.assigned) :
      Transition pool (some ⟨.returned, address⟩)
        { pool with
          assigned := pool.assigned.erase address
          recycled := pool.recycled ++ [address] }
  | reserved {address : Address} (inside : pool.block.contains address = true)
      (unassigned : address ∉ pool.assigned) (unreserved : address ∉ pool.reserved) :
      Transition pool (some ⟨.reserved, address⟩)
        { pool with
          reserved := address :: pool.reserved
          recycled := pool.recycled.erase address }

theorem call_transition {pool : Pool} (range : pool.CursorInRange) (call : Call) :
    Transition pool (deed? call (pool.call call).answer) (pool.call call).state := by
  cases call with
  | lease =>
      change Transition pool (deed? .lease (pool.lease.answer.map .address)) pool.lease.state
      rcases lease_cases range with ⟨address, others, queued, leased⟩ |
        ⟨address, idle, isFresh, _, leased⟩ | ⟨idle, _, dry⟩
      · rw [leased]
        exact .leasedAgain queued
      · rw [leased]
        exact .leasedFresh idle isFresh
      · rw [dry]
        exact .ranDry idle
  | putBack argument =>
      cases read : argument.read with
      | error cause =>
          simp only [Pool.call, onArgument, read]
          exact .refused
      | ok address =>
          by_cases assigned : address ∈ pool.assigned
          · simp only [Pool.call, onArgument, read, putBack_of_assigned assigned, Except.map, deed?]
            exact .returned assigned
          · simp only [Pool.call, onArgument, read, putBack_of_unassigned assigned, Except.map]
            exact .refused
  | reserve argument =>
      cases read : argument.read with
      | error cause =>
          simp only [Pool.call, onArgument, read]
          exact .refused
      | ok address =>
          rcases reserve_cases pool address with ⟨cause, refused⟩ |
            ⟨inside, unassigned, unreserved⟩
          · simp only [Pool.call, onArgument, read, refused, Except.map]
            exact .refused
          · simp only [Pool.call, onArgument, read,
              reserve_of_free inside unassigned unreserved, Except.map, deed?]
            exact .reserved inside unassigned unreserved

/-- What every transition keeps of the deeds so far and the pool, a run keeps. -/
theorem chronicle_keeps {motive : List Deed → Pool → Prop}
    (step : ∀ {deeds pool deed later}, pool.Invariant → Transition pool deed later →
      motive deeds pool → motive (deeds ++ deed.toList) later)
    {deeds : List Deed} {pool : Pool} (invariant : pool.Invariant) (holds : motive deeds pool)
    (calls : List Call) : motive (deeds ++ pool.chronicle calls) (pool.after calls) := by
  induction calls generalizing deeds pool with
  | nil =>
      rw [chronicle, List.append_nil]
      exact holds
  | cons call calls ih =>
      rw [chronicle, ← List.append_assoc]
      exact ih (invariant.call call) (step invariant (call_transition invariant.range call) holds)

end Pool

end TunnelLease

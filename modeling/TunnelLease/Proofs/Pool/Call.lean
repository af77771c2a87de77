import TunnelLease.Pool.Request

/-!
# Runs of a pool

A pool is changed by three calls: to lease an address, to take one back and to
reserve one.  The address is handed over as such or as a literal, and a call that is
refused leaves the pool as it was.  What the three operations keep, every run of
calls keeps.
-/

namespace TunnelLease

/-- What a caller hands over to name an address: the address or a literal. -/
inductive Argument where
  | given (address : Address)
  | literal (written : Literal)
deriving DecidableEq

/-- The address that an argument names, or the refusal to read it. -/
def Argument.read : Argument → Except Error Address
  | .given address => .ok address
  | .literal written => Address.ofLiteral written

namespace Pool

/-- The calls that can change a pool. -/
inductive Call where
  | lease
  | putBack (argument : Argument)
  | reserve (argument : Argument)
deriving DecidableEq

/-- Applies an operation to the address that an argument names. -/
def onArgument (pool : Pool) (argument : Argument)
    (operation : Address → Reply Error Pool Unit) : Reply Error Pool Answer :=
  match argument.read with
  | .error cause => ⟨.error cause, pool, []⟩
  | .ok address =>
      let reply := operation address
      ⟨reply.answer.map fun _ => .done, reply.state, reply.log⟩

def call (pool : Pool) : Call → Reply Error Pool Answer
  | .lease => pool.step .lease
  | .putBack argument => pool.onArgument argument pool.putBack
  | .reserve argument => pool.onArgument argument pool.reserve

def after (pool : Pool) : List Call → Pool
  | [] => pool
  | call :: calls => after (pool.call call).state calls

/-- A request that hands over a literal is a call. -/
theorem call_literal (pool : Pool) (written : Literal) :
    pool.call (.putBack (.literal written)) = pool.step (.putBack written) ∧
      pool.call (.reserve (.literal written)) = pool.step (.reserve written) := by
  constructor <;> rfl

/-- What a sequence of requests leaves is what some run of calls leaves. -/
theorem exists_after_eq_run (pool : Pool) (requests : List Request) :
    ∃ calls, (pool.run requests).2 = pool.after calls := by
  induction requests generalizing pool with
  | nil => exact ⟨[], rfl⟩
  | cons request requests ih =>
      obtain ⟨calls, rest⟩ := ih (pool.step request).state
      cases request with
      | lease => exact ⟨.lease :: calls, rest⟩
      | putBack written => exact ⟨.putBack (.literal written) :: calls, rest⟩
      | reserve written => exact ⟨.reserve (.literal written) :: calls, rest⟩
      | isAssigned written => exact ⟨calls, rest⟩
      | isReserved written => exact ⟨calls, rest⟩
      | contains written => exact ⟨calls, rest⟩

section Preservation

variable {motive : Pool → Prop}

theorem onArgument_keeps {pool : Pool} (argument : Argument)
    {operation : Address → Reply Error Pool Unit} (unchanged : motive pool)
    (operated : ∀ address, motive (operation address).state) :
    motive (pool.onArgument argument operation).state := by
  unfold onArgument
  split
  · exact unchanged
  · exact operated _

/-- What the three operations keep, a call keeps. -/
theorem call_keeps (leased : ∀ pool, motive pool → motive pool.lease.state)
    (returned : ∀ pool address, motive pool → motive (pool.putBack address).state)
    (reserved : ∀ pool address, motive pool → motive (pool.reserve address).state)
    {pool : Pool} (holds : motive pool) (call : Call) : motive (pool.call call).state := by
  cases call with
  | lease => exact leased pool holds
  | putBack argument =>
      exact onArgument_keeps argument holds fun address => returned pool address holds
  | reserve argument =>
      exact onArgument_keeps argument holds fun address => reserved pool address holds

theorem after_keeps (called : ∀ pool call, motive pool → motive (pool.call call).state)
    {pool : Pool} (holds : motive pool) (calls : List Call) : motive (pool.after calls) := by
  induction calls generalizing pool with
  | nil => exact holds
  | cons call calls ih => exact ih (called pool call holds)

end Preservation

end Pool

end TunnelLease

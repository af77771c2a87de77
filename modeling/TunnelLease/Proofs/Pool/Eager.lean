import Mathlib.Data.Finset.Card
import TunnelLease.Proofs.Pool.Structural

/-!
# Pools with a list of free addresses

An eager pool keeps every address that was never leased in a list, and takes a reserved
address out of that list at once.  A pool keeps a cursor instead and skips the
reservations when the cursor arrives at them.  Read as an eager pool, with its fresh
addresses as the list, a pool makes the same steps: the two give the same answers in
every run.  A refused call may move the cursor, but the pool reads as before.
-/

namespace TunnelLease

/-- A pool whose addresses are sets and lists, without a cursor. -/
@[ext]
structure EagerPool where
  block : Block
  assigned : Finset Address
  reserved : Finset Address
  recycled : List Address
  /-- The addresses that were never leased, in the order of leasing. -/
  fresh : List Address

namespace Pool

inductive Counter where
  | assigned
  | reserved
  | recycled
  | capacity
  | available
deriving DecidableEq

/-- What can be asked of a pool: a call that may change it, or a question. -/
inductive Operation where
  | call (call : Call)
  | isAssigned (argument : Argument)
  | isReserved (argument : Argument)
  | count (counter : Counter)
deriving DecidableEq

inductive Response where
  | answered (answer : Except Error Answer)
  | counted (number : Int)
deriving DecidableEq

/-- Asks whether the address that an argument names passes a test. -/
def inquire (argument : Argument) (test : Address → Bool) : Response :=
  .answered (argument.read.map fun address => .verdict (test address))

def count (pool : Pool) : Counter → Int
  | .assigned => pool.assigned.length
  | .reserved => pool.reserved.length
  | .recycled => pool.recycled.length
  | .capacity => pool.capacity
  | .available => pool.available

def operate (pool : Pool) : Operation → Response × Pool
  | .call call =>
      let reply := pool.call call
      (.answered reply.answer, reply.state)
  | .isAssigned argument => (inquire argument (· ∈ pool.assigned), pool)
  | .isReserved argument => (inquire argument (· ∈ pool.reserved), pool)
  | .count counter => (.counted (pool.count counter), pool)

/-- A question about a literal is a request to the pool. -/
theorem operate_literal (pool : Pool) (written : Literal) :
    let asked := fun request =>
      (Response.answered (pool.step request).answer, (pool.step request).state)
    pool.operate (.isAssigned (.literal written)) = asked (.isAssigned written) ∧
      pool.operate (.isReserved (.literal written)) = asked (.isReserved written) := by
  constructor <;> rfl

/-- The responses of a pool of either kind to a sequence of operations, and its state
after them. -/
def conduct {State : Type} (operate : State → Operation → Response × State) (state : State) :
    List Operation → List Response × State
  | [] => ([], state)
  | operation :: operations =>
      let first := operate state operation
      let later := conduct operate first.2 operations
      (first.1 :: later.1, later.2)

end Pool

namespace EagerPool

/-- A new pool: all members of the block but the structural ones are there to be leased. -/
def ofBlock (block : Block) : EagerPool :=
  let structural : Finset Address :=
    match block.subnet with
    | none => ∅
    | some subnet =>
        {subnet.own, subnet.network} ∪ if subnet.family = .v4 then {subnet.broadcast} else ∅
  { block := block
    assigned := ∅
    reserved := structural
    recycled := []
    fresh := block.members.filter (· ∉ structural) }

def lease (eager : EagerPool) : Except Error Address × EagerPool :=
  match eager.recycled, eager.fresh with
  | address :: waiting, _ =>
      (.ok address,
        { eager with recycled := waiting, assigned := insert address eager.assigned })
  | [], address :: later =>
      (.ok address, { eager with fresh := later, assigned := insert address eager.assigned })
  | [], [] => (.error (.exhausted eager.block), eager)

def reserve (eager : EagerPool) (address : Address) : Except Error Unit × EagerPool :=
  if !eager.block.contains address then (.error (.outOfRange address eager.block), eager)
  else if address ∈ eager.assigned ∨ address ∈ eager.reserved then
    (.error (.inUse address), eager)
  else
    (.ok (), { eager with
      reserved := insert address eager.reserved
      recycled := eager.recycled.erase address
      fresh := eager.fresh.erase address })

def putBack (eager : EagerPool) (address : Address) : Except Error Unit × EagerPool :=
  if address ∈ eager.assigned then
    (.ok (), { eager with
      assigned := eager.assigned.erase address
      recycled := eager.recycled ++ [address] })
  else (.error (.notAssigned address), eager)

def onArgument (eager : EagerPool) (argument : Argument)
    (operation : Address → Except Error Unit × EagerPool) :
    Except Error Pool.Answer × EagerPool :=
  match argument.read with
  | .error cause => (.error cause, eager)
  | .ok address => ((operation address).1.map fun _ => .done, (operation address).2)

def call (eager : EagerPool) : Pool.Call → Except Error Pool.Answer × EagerPool
  | .lease => (eager.lease.1.map .address, eager.lease.2)
  | .putBack argument => eager.onArgument argument eager.putBack
  | .reserve argument => eager.onArgument argument eager.reserve

def count (eager : EagerPool) : Pool.Counter → Int
  | .assigned => eager.assigned.card
  | .reserved => eager.reserved.card
  | .recycled => eager.recycled.length
  | .capacity => eager.block.size - eager.reserved.card
  | .available => eager.block.size - eager.reserved.card - eager.assigned.card

/-- Whether the address that an argument names is in a set. -/
def among (addresses : Finset Address) (argument : Argument) : Except Error Pool.Answer :=
  match argument.read with
  | .error cause => .error cause
  | .ok address => .ok (.verdict (address ∈ addresses))

def operate (eager : EagerPool) : Pool.Operation → Pool.Response × EagerPool
  | .call call => (.answered (eager.call call).1, (eager.call call).2)
  | .isAssigned argument => (.answered (among eager.assigned argument), eager)
  | .isReserved argument => (.answered (among eager.reserved argument), eager)
  | .count counter => (.counted (eager.count counter), eager)

end EagerPool

namespace Pool

/-- The pool read as an eager one. -/
def toEager (pool : Pool) : EagerPool where
  block := pool.block
  assigned := pool.assigned.toFinset
  reserved := pool.reserved.toFinset
  recycled := pool.recycled
  fresh := pool.fresh

theorem ofBlock_toEager (block : Block) : (ofBlock block).toEager = EagerPool.ofBlock block := by
  obtain ⟨idle, atBase⟩ := ofBlock_idle block
  have reserved : (ofBlock block).reserved.toFinset = (EagerPool.ofBlock block).reserved := by
    obtain ⟨_ | subnet, limit⟩ := block
    · rfl
    · ext address
      rw [List.mem_toFinset, mem_ofBlock_reserved, Subnet.IsStructural, EagerPool.ofBlock]
      by_cases narrow : subnet.family = .v4 <;> simp [narrow]
  refine EagerPool.ext (ofBlock_block block) ?_ reserved idle ?_
  · change (ofBlock block).assigned.toFinset = ∅
    rw [ofBlock_assigned, List.toFinset_nil]
  · change (ofBlock block).fresh = block.members.filter (· ∉ (EagerPool.ofBlock block).reserved)
    rw [fresh, ofBlock_block, atBase, ← reserved]
    apply List.filter_congr
    intro address member
    have reached := (Block.bounds_of_contains ((block.mem_members address).mp member).1).1
    simp [reached]

/-- Without a fresh address it makes no difference that the cursor leaves the block. -/
theorem toEager_at_stop {pool : Pool} (gone : pool.fresh = []) :
    toEager { pool with cursor := pool.block.stop } = pool.toEager := by
  have stillGone := pool.fresh_at_stop
  rw [toEager, toEager, stillGone, gone]

theorem lease_toEager {pool : Pool} (range : pool.CursorInRange) :
    pool.toEager.lease = (pool.lease.answer, pool.lease.state.toEager) := by
  rcases lease_cases range with ⟨address, waiting, queued, leased⟩ |
    ⟨address, idle, _, isNext, leased⟩ | ⟨idle, gone, refused⟩
  · rw [leased]
    simp only [EagerPool.lease, toEager, queued, leaseReply, List.toFinset_cons]
    rfl
  · rw [leased]
    simp only [EagerPool.lease, toEager, idle, isNext, leaseReply, List.toFinset_cons]
    rfl
  · rw [refused]
    simp only [dryReply, toEager_at_stop gone]
    simp only [EagerPool.lease, toEager, idle, gone]

/-- What is reserved is no longer fresh, wherever the cursor is. -/
theorem reserve_fresh {pool : Pool} {address : Address}
    (inside : pool.block.contains address = true) (unassigned : address ∉ pool.assigned)
    (unreserved : address ∉ pool.reserved) :
    (pool.reserve address).state.fresh = pool.fresh.erase address := by
  rw [reserve_of_free inside unassigned unreserved,
    pool.fresh_ascending.nodup.erase_eq_filter, fresh, fresh, List.filter_filter]
  apply List.filter_congr
  intro other _
  by_cases same : other = address
  · simp [same]
  · simp [same]

theorem reserve_toEager (pool : Pool) (address : Address) :
    pool.toEager.reserve address =
      ((pool.reserve address).answer, (pool.reserve address).state.toEager) := by
  by_cases inside : pool.block.contains address = true
  · by_cases used : address ∈ pool.assigned ∨ address ∈ pool.reserved
    · simp [EagerPool.reserve, Pool.reserve, toEager, inside, used]
    · obtain ⟨unassigned, unreserved⟩ := not_or.mp used
      have fresh := reserve_fresh inside unassigned unreserved
      rw [reserve_of_free inside unassigned unreserved] at fresh ⊢
      simp [EagerPool.reserve, toEager, inside, unassigned, unreserved, fresh]
  · simp [EagerPool.reserve, Pool.reserve, toEager, inside]

theorem putBack_toEager {pool : Pool} (distinct : pool.assigned.Nodup) (address : Address) :
    pool.toEager.putBack address =
      ((pool.putBack address).answer, (pool.putBack address).state.toEager) := by
  by_cases assigned : address ∈ pool.assigned
  · have erased : (pool.assigned.erase address).toFinset =
        pool.assigned.toFinset.erase address := by
      ext other
      simp [distinct.mem_erase_iff]
    rw [putBack_of_assigned assigned]
    simp [EagerPool.putBack, toEager, assigned, erased, Pool.fresh]
  · rw [putBack_of_unassigned assigned]
    simp [EagerPool.putBack, toEager, assigned]

theorem onArgument_toEager {pool : Pool} (argument : Argument)
    {operation : Address → Reply Error Pool Unit}
    {eagerly : Address → Except Error Unit × EagerPool}
    (agrees : ∀ address, eagerly address =
      ((operation address).answer, (operation address).state.toEager)) :
    pool.toEager.onArgument argument eagerly =
      ((pool.onArgument argument operation).answer,
        (pool.onArgument argument operation).state.toEager) := by
  unfold EagerPool.onArgument onArgument
  cases argument.read with
  | error cause => rfl
  | ok address => simp only [agrees]

theorem call_toEager {pool : Pool} (invariant : pool.Invariant) (call : Call) :
    pool.toEager.call call = ((pool.call call).answer, (pool.call call).state.toEager) := by
  cases call with
  | lease =>
      rw [EagerPool.call, lease_toEager invariant.range]
      rfl
  | putBack argument =>
      exact onArgument_toEager argument (putBack_toEager invariant.assigned_nodup)
  | reserve argument => exact onArgument_toEager argument pool.reserve_toEager

theorem count_toEager {pool : Pool} (invariant : pool.Invariant) (counter : Counter) :
    pool.toEager.count counter = pool.count counter := by
  have assigned := List.toFinset_card_of_nodup invariant.assigned_nodup
  have reserved := List.toFinset_card_of_nodup invariant.reserved_nodup
  cases counter <;>
    simp [EagerPool.count, count, toEager, capacity, available, assigned, reserved]

theorem among_toFinset (addresses : List Address) (argument : Argument) :
    Response.answered (EagerPool.among addresses.toFinset argument) =
      inquire argument (· ∈ addresses) := by
  rw [EagerPool.among, inquire]
  cases argument.read with
  | error cause => rfl
  | ok address => simp only [List.mem_toFinset, Except.map]

/-- One step of the pool is one step of the eager pool that it is read as. -/
theorem operate_toEager {pool : Pool} (invariant : pool.Invariant) (operation : Operation) :
    pool.toEager.operate operation =
      ((pool.operate operation).1, (pool.operate operation).2.toEager) := by
  cases operation with
  | call call =>
      simp only [EagerPool.operate, operate, call_toEager invariant]
  | isAssigned argument => exact congrArg (·, pool.toEager) (among_toFinset pool.assigned argument)
  | isReserved argument => exact congrArg (·, pool.toEager) (among_toFinset pool.reserved argument)
  | count counter => simp only [EagerPool.operate, operate, count_toEager invariant]

theorem Invariant.operate {pool : Pool} (invariant : pool.Invariant) (operation : Operation) :
    (pool.operate operation).2.Invariant := by
  cases operation with
  | call call => exact invariant.call call
  | isAssigned argument => exact invariant
  | isReserved argument => exact invariant
  | count counter => exact invariant

theorem Invariant.conduct {pool : Pool} (invariant : pool.Invariant)
    (operations : List Operation) : (conduct Pool.operate pool operations).2.Invariant := by
  induction operations generalizing pool with
  | nil => exact invariant
  | cons operation operations ih => exact ih (invariant.operate operation)

theorem conduct_toEager {pool : Pool} (invariant : pool.Invariant)
    (operations : List Operation) :
    conduct EagerPool.operate pool.toEager operations =
      ((conduct operate pool operations).1, (conduct operate pool operations).2.toEager) := by
  induction operations generalizing pool with
  | nil => rfl
  | cons operation operations ih =>
      have rest := ih (invariant.operate operation)
      simp only [conduct, operate_toEager invariant, rest]

theorem lease_toEager_of_error {pool : Pool} (range : pool.CursorInRange) {cause : Error}
    (refused : pool.lease.answer = .error cause) : pool.lease.state.toEager = pool.toEager := by
  rcases lease_cases range with ⟨address, waiting, _, leased⟩ | ⟨address, _, _, _, leased⟩ |
    ⟨_, gone, reply⟩
  · rw [leased] at refused
    cases refused
  · rw [leased] at refused
    cases refused
  · rw [reply]
    exact toEager_at_stop gone

theorem onArgument_of_error {pool : Pool} {argument : Argument}
    {operation : Address → Reply Error Pool Unit} {cause : Error}
    (unchanged : ∀ address cause, (operation address).answer = .error cause →
      (operation address).state = pool)
    (refused : (pool.onArgument argument operation).answer = .error cause) :
    (pool.onArgument argument operation).state = pool := by
  unfold onArgument at refused ⊢
  cases read : argument.read with
  | error cause => rfl
  | ok address =>
      simp only [read] at refused ⊢
      cases answer : (operation address).answer with
      | error cause => exact unchanged address cause answer
      | ok done =>
          rw [answer] at refused
          cases refused

/-- A refused call leaves the pool as it reads, though its cursor may have moved. -/
theorem call_toEager_of_error {pool : Pool} (range : pool.CursorInRange) {call : Call}
    {cause : Error} (refused : (pool.call call).answer = .error cause) :
    (pool.call call).state.toEager = pool.toEager := by
  cases call with
  | lease =>
      cases answer : pool.lease.answer with
      | error reason => exact lease_toEager_of_error range answer
      | ok address =>
          simp [Pool.call, step, answer, Except.map] at refused
  | putBack argument =>
      have unchanged (address : Address) (cause : Error)
          (answer : (pool.putBack address).answer = .error cause) :
          (pool.putBack address).state = pool := by
        by_cases assigned : address ∈ pool.assigned
        · rw [putBack_of_assigned assigned] at answer
          cases answer
        · rw [putBack_of_unassigned assigned]
      exact congrArg toEager (onArgument_of_error unchanged refused)
  | reserve argument =>
      have unchanged (address : Address) (cause : Error)
          (answer : (pool.reserve address).answer = .error cause) :
          (pool.reserve address).state = pool := by
        rcases reserve_cases pool address with ⟨reason, reply⟩ |
          ⟨inside, unassigned, unreserved⟩
        · rw [reply]
        · rw [reserve_of_free inside unassigned unreserved] at answer
          cases answer
      exact congrArg toEager (onArgument_of_error unchanged refused)

/-- The block of the single address 10.0.0.0, which is reserved. -/
def singleBlock : Block where
  subnet := some
    ⟨⟨.v4, 0x0a000000, none, by decide, Address.unzoned_v6⟩, 32, Nat.le_refl 32⟩
  limit := Block.defaultLimit

/-- A pool and an eager pool of the same block give the same responses to every sequence of
operations.  A refused call may move the cursor, but changes no later response. -/
theorem refines_eager (block : Block) :
    (∀ operations, (conduct operate (ofBlock block) operations).1 =
        (conduct EagerPool.operate (EagerPool.ofBlock block) operations).1) ∧
      (∀ earlier call cause,
        let pool := (conduct operate (ofBlock block) earlier).2
        (pool.call call).answer = .error cause →
          ∀ later, (conduct operate (pool.call call).state later).1 =
            (conduct operate pool later).1) ∧
      ∃ dry : Block, (ofBlock dry).lease.answer = .error (.exhausted dry) ∧
        (ofBlock dry).cursor < (ofBlock dry).lease.state.cursor := by
  refine ⟨?_, ?_, ?_⟩
  · intro operations
    rw [← ofBlock_toEager, conduct_toEager (ofBlock_invariant block)]
  · intro earlier call cause pool refused later
    have invariant : pool.Invariant := (ofBlock_invariant block).conduct earlier
    have before := conduct_toEager invariant later
    have after := conduct_toEager (invariant.call call) later
    rw [call_toEager_of_error invariant.range refused, before] at after
    exact (congrArg Prod.fst after).symm
  · exact ⟨singleBlock, by decide +kernel, by decide +kernel⟩

end Pool

end TunnelLease

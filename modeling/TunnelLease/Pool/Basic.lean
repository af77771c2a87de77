import TunnelLease.Block.Parser
import TunnelLease.Journal

/-!
# Address pools

A pool leases the addresses of one block.  An address is assigned while it is
leased, reserved once it may never be leased, recycled while it waits to be leased
again, and fresh as long as the cursor has not reached it.  Leasing prefers the
recycled addresses, first returned first, and only then advances the cursor, past
the reserved addresses.  No operation waits: an exhausted pool refuses.
-/

namespace TunnelLease

/-- The state of a pool.  `cursor` is the lowest value never leased or skipped. -/
structure Pool where
  block : Block
  cursor : Nat
  assigned : List Address
  reserved : List Address
  recycled : List Address
deriving DecidableEq

namespace Pool

/-- A pool that has leased and reserved nothing. -/
def untouched (block : Block) : Pool where
  block := block
  cursor := match block.subnet with
    | none => 0
    | some subnet => subnet.base
  assigned := []
  reserved := []
  recycled := []

/-- Excludes an address from leasing for good. -/
def reserve (pool : Pool) (address : Address) : Reply Error Pool Unit :=
  if !pool.block.contains address then
    ⟨.error (.outOfRange address pool.block), pool, []⟩
  else if address ∈ pool.assigned ∨ address ∈ pool.reserved then
    ⟨.error (.inUse address), pool, []⟩
  else
    let after := { pool with
      reserved := address :: pool.reserved
      recycled := pool.recycled.erase address }
    ⟨.ok (), after, [.reserved address pool.block]⟩

/-- The first address from the cursor on that is not reserved, and the cursor past
it.  If there is none, the cursor has left the subnet. -/
def nextFresh (subnet : Subnet) (reserved : List Address) (cursor : Nat) :
    Option Address × Nat :=
  if below : cursor < subnet.stop then
    let candidate := subnet.member cursor below
    if candidate ∈ reserved then nextFresh subnet reserved (cursor + 1)
    else (some candidate, cursor + 1)
  else (none, cursor)
termination_by subnet.stop - cursor

/-- The pool after one of its addresses was leased. -/
def leaseReply (pool : Pool) (address : Address) : Reply Error Pool Address :=
  ⟨.ok address, { pool with assigned := address :: pool.assigned },
    [.leased address pool.block]⟩

/-- The refusal of a pool that has no address left. -/
def dryReply (pool : Pool) : Reply Error Pool Address :=
  ⟨.error (.exhausted pool.block), pool, [.ranDry pool.block]⟩

def lease (pool : Pool) : Reply Error Pool Address :=
  match pool.recycled with
  | address :: waiting => leaseReply { pool with recycled := waiting } address
  | [] =>
      match pool.block.subnet with
      | none => dryReply pool
      | some subnet =>
          match nextFresh subnet pool.reserved pool.cursor with
          | (some address, cursor) => leaseReply { pool with cursor := cursor } address
          | (none, cursor) => dryReply { pool with cursor := cursor }

/-- Takes a leased address back.  It waits behind those returned before it. -/
def putBack (pool : Pool) (address : Address) : Reply Error Pool Unit :=
  if address ∈ pool.assigned then
    let after := { pool with
      assigned := pool.assigned.erase address
      recycled := pool.recycled ++ [address] }
    ⟨.ok (), after, [.returned address pool.block]⟩
  else ⟨.error (.notAssigned address), pool, []⟩

/-- The addresses that a pool of a subnet must never lease: the subnet's own address,
its network address and, in the narrower family, its broadcast address. -/
def structural (subnet : Subnet) : List Address :=
  [subnet.own, subnet.network] ++ if subnet.family = .v4 then [subnet.broadcast] else []

/-- Reserves each of some addresses that is not in use already. -/
def reserveAll (pool : Pool) : List Address → Pool × List Event
  | [] => (pool, [])
  | address :: addresses =>
      let reply := pool.reserve address
      let later := reserveAll reply.state addresses
      (later.1, reply.log ++ later.2)

/-- A new pool with its structural addresses reserved. -/
def create (block : Block) : Pool × List Event :=
  match block.subnet with
  | none => (untouched block, [])
  | some subnet =>
      let made := reserveAll (untouched block) (structural subnet)
      (made.1, made.2 ++ [.opened block made.1.reserved.length])

def ofBlock (block : Block) : Pool :=
  (create block).1

/-- How many addresses could be leased if none were: the size less the reservations. -/
def capacity (pool : Pool) : Int :=
  pool.block.size - pool.reserved.length

/-- How many addresses can still be leased: the capacity less the leases. -/
def available (pool : Pool) : Int :=
  pool.capacity - pool.assigned.length

/-- The pool's description: its kind and the text of its block. -/
def description (pool : Pool) : String :=
  "AddressPool(" ++ Text.quoted pool.block.text ++ ")"

end Pool

end TunnelLease

import Mathlib.Algebra.Group.Nat.Defs
import TunnelLease.Proofs.Pool.Lifecycle

/-!
# What a pool says about itself

A pool computes its capacity and what is available from the size of its block and the
numbers of its reservations and leases, without a look at its future.  A reservation with
a zone counts in this as any other, but it excludes no member of the block.  So the pool
says too little, by one for each of its reservations with a zone, and it tells the truth
exactly if there is none: if the network address has no zone and no address with a zone
was reserved since.
-/

namespace TunnelLease

namespace Pool

/-- Leasing again and again succeeds a number of times, and then the pool refuses. -/
def LeasesExactly (pool : Pool) (number : Nat) : Prop :=
  ∀ limit, (pool.drain limit).leased.length = min limit number ∧
    (pool.drain limit).refusal =
      if limit ≤ number then none else some (.exhausted pool.block)

/-- The pool says of itself what is true: what is available is within the capacity, which
is within the size of the block, and as many addresses as are available can be leased. -/
def AccountsTruly (pool : Pool) : Prop :=
  (0 ≤ pool.available ∧ pool.available ≤ pool.capacity ∧ pool.capacity ≤ pool.block.size) ∧
    ∃ number : Nat, pool.LeasesExactly number ∧ pool.available = number

/-- The reservations that match no member of the block: those with a zone. -/
def zonedReserved (pool : Pool) : List Address :=
  pool.reserved.filter fun address => address.zone.isSome

theorem leasesExactly_iff {pool : Pool} (range : pool.CursorInRange) (number : Nat) :
    pool.LeasesExactly number ↔ number = pool.future.length := by
  constructor
  · intro exactly
    have fits := (exactly number).1
    have stops := (exactly (number + 1)).1
    rw [drain_leased range, List.length_take] at fits stops
    omega
  · rintro rfl limit
    rw [drain_leased range, drain_refusal range]
    exact ⟨List.length_take, rfl⟩

theorem reserved_length (pool : Pool) :
    pool.reserved.length = pool.plainReserved.length + pool.zonedReserved.length := by
  have split := List.length_eq_length_filter_add
    (fun address : Address => address.zone.isNone) (l := pool.reserved)
  simpa [plainReserved, zonedReserved] using split

theorem zonedReserved_eq_nil_iff (pool : Pool) :
    pool.zonedReserved = [] ↔ ∀ address ∈ pool.reserved, address.zone = none := by
  simp [zonedReserved, List.filter_eq_nil_iff]

/-- What is available falls short of what can be leased by the reservations with a zone. -/
theorem Invariant.available_add {pool : Pool} (invariant : pool.Invariant) :
    pool.available + pool.zonedReserved.length = pool.future.length := by
  have total := invariant.future_length
  have reserved := pool.reserved_length
  rw [available, capacity]
  omega

theorem available_le (pool : Pool) :
    pool.available ≤ pool.capacity ∧ pool.capacity ≤ pool.block.size := by
  rw [available, capacity]
  omega

theorem accountsTruly_iff {pool : Pool} (invariant : pool.Invariant) :
    pool.AccountsTruly ↔ ∀ address ∈ pool.reserved, address.zone = none := by
  have short := invariant.available_add
  have bounds := pool.available_le
  rw [← zonedReserved_eq_nil_iff, ← List.length_eq_zero_iff]
  constructor
  · rintro ⟨_, number, exactly, truth⟩
    have future := (leasesExactly_iff invariant.range number).mp exactly
    omega
  · intro unzoned
    refine ⟨⟨by omega, bounds⟩, pool.future.length, ?_, by omega⟩
    exact (leasesExactly_iff invariant.range _).mpr rfl

/-- The reservations after a run are those of the new pool and those that were made. -/
theorem mem_after_reserved (block : Block) (calls : List Call) (address : Address) :
    address ∈ ((ofBlock block).after calls).reserved ↔
      address ∈ (ofBlock block).reserved ∨
        .reserved ∈ (ofBlock block).lifecycle address calls := by
  have start : (ofBlock block).Invariant := ofBlock_invariant block
  have follows := lifecycle_status start calls address
  rw [← status_eq_reserved start, ← status_eq_reserved (start.after calls)]
  cases before : (ofBlock block).status address with
  | leased => exact absurd before (ofBlock_status_ne_leased block address)
  | reserved =>
      rw [before] at follows
      simp [(Status.eq_nil_of_follow_reserved follows).2]
  | free =>
      rw [before] at follows
      have ends := (Status.reached_of_follow (by simp) follows).2
      obtain ⟨number, life⟩ := Status.exists_rounds_of_follow follows
      change (ofBlock block).lifecycle address calls = _ at life
      constructor
      · intro reached
        rw [life, reached]
        simp [Status.rest]
      · rintro (impossible | reserved)
        · cases impossible
        · exact ends reserved

/-- The structural addresses have no zone exactly if the network address has none. -/
theorem ofBlock_reserved_unzoned_iff (block : Block) :
    (∀ address ∈ (ofBlock block).reserved, address.zone = none) ↔
      ∀ subnet ∈ block.subnet, subnet.network.zone = none := by
  obtain ⟨configured, limit⟩ := block
  cases configured with
  | none =>
      constructor
      · rintro _ subnet ⟨⟩
      · rintro _ address ⟨⟩
  | some subnet =>
      simp only [mem_ofBlock_reserved, Option.mem_def, Option.some.injEq, forall_eq']
      constructor
      · intro unzoned
        exact unzoned _ (Or.inr (Or.inl rfl))
      · rintro unzoned address (rfl | rfl | ⟨narrow, rfl⟩)
        · rfl
        · exact unzoned
        · rw [Subnet.broadcast]
          split
          · rfl
          · rfl

/-- What is said to be available falls short of what can be leased by the number of
reservations with a zone, so a pool without any tells the truth. -/
theorem after_accounts (block : Block) (calls : List Call) :
    let pool := (ofBlock block).after calls
    (pool.available ≤ pool.capacity ∧ pool.capacity ≤ block.size) ∧
      (∃ number : Nat, pool.LeasesExactly number ∧
        pool.available + pool.zonedReserved.length = number) ∧
      (pool.AccountsTruly ↔
        (∀ subnet ∈ block.subnet, subnet.network.zone = none) ∧
          ∀ address, .reserved ∈ (ofBlock block).lifecycle address calls →
            address.zone = none) := by
  intro pool
  have invariant : pool.Invariant := (ofBlock_invariant block).after calls
  have sameBlock : pool.block = block := by rw [after_block, ofBlock_block]
  refine ⟨sameBlock ▸ pool.available_le, ?_, ?_⟩
  · exact ⟨pool.future.length, (leasesExactly_iff invariant.range _).mpr rfl,
      invariant.available_add⟩
  · rw [accountsTruly_iff invariant, ← ofBlock_reserved_unzoned_iff]
    simp only [pool, mem_after_reserved, or_imp, forall_and]

/-- The address fe80:: on one link. -/
def linkLocal : Address where
  family := .v6
  value := 0xfe80 * 2 ^ 112
  zone := some ⟨"eth0", by decide⟩
  value_lt := by decide
  zone_v6 := fun _ => rfl

/-- The block that fe80::%eth0/128 denotes. -/
def linkLocalBlock : Block :=
  ⟨some ⟨linkLocal, 128, by decide⟩, Block.defaultLimit⟩

/-- A block of one address that is written with a zone has it reserved twice, and says
that less than nothing is available. -/
theorem linkLocal_accounts_untruly :
    Block.ofText "fe80::%eth0/128" Block.defaultLimit = .ok linkLocalBlock ∧
      ((ofBlock linkLocalBlock).after []).available = -1 ∧
      ¬ ((ofBlock linkLocalBlock).after []).AccountsTruly := by
  have negative : ((ofBlock linkLocalBlock).after []).available = -1 := by
    decide +kernel
  refine ⟨by decide +kernel, negative, ?_⟩
  rintro ⟨⟨nonnegative, _⟩, _⟩
  omega

end Pool

end TunnelLease

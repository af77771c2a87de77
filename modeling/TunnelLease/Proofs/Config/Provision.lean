import TunnelLease.Proofs.Config.Fit
import TunnelLease.Proofs.Pool.Structural
import TunnelLease.Proofs.Registry.Churn

/-!
# What a fit configuration builds

A configuration that passes its check can be built.  It has a new pool for each of its
subnets, in which those of the reserved addresses that lie in the subnet are reserved.
As the subnets are of different families, the first pool that has an address is the only
one, so reserving an address in the pool that has it is to ask every pool for it.

As long as the pools are left to the registry, its peers hold members of the subnets at
their positions that were not reserved when it was built.
-/

namespace TunnelLease

namespace Pool

/-- A new pool in which the given addresses of its block are reserved. -/
def provisioned (block : Block) (reserved : List Address) : Pool :=
  ((ofBlock block).reserveAll reserved).1

theorem provisioned_invariant (block : Block) (reserved : List Address) :
    (provisioned block reserved).Invariant :=
  (ofBlock_invariant block).reserveAll reserved

@[simp]
theorem provisioned_block (block : Block) (reserved : List Address) :
    (provisioned block reserved).block = block := by
  rw [provisioned, reserveAll_block, ofBlock_block]

@[simp]
theorem provisioned_assigned (block : Block) (reserved : List Address) :
    (provisioned block reserved).assigned = [] := by
  rw [provisioned, reserveAll_assigned, ofBlock_assigned]

theorem provisioned_idle (block : Block) (reserved : List Address) :
    (provisioned block reserved).recycled = [] ∧
      (provisioned block reserved).cursor = block.base := by
  obtain ⟨idle, atBase⟩ := ofBlock_idle block
  obtain ⟨stillIdle, sameCursor⟩ := reserveAll_idle idle reserved
  exact ⟨stillIdle, sameCursor.trans atBase⟩

theorem mem_provisioned_reserved (block : Block) (reserved : List Address) (address : Address) :
    address ∈ (provisioned block reserved).reserved ↔
      (address ∈ reserved ∧ block.contains address = true) ∨
        address ∈ (ofBlock block).reserved := by
  rw [provisioned, mem_reserveAll_reserved, ofBlock_block]
  intro other _
  rw [ofBlock_assigned]
  exact List.not_mem_nil

end Pool

namespace Config

/-- No address is in the blocks of two of the pools. -/
def Exclusive (pools : List Pool) : Prop :=
  pools.Pairwise fun first second => ∀ address,
    first.block.contains address = true → second.block.contains address = false

theorem createPools_pools (blocks : List Block) :
    (createPools blocks).1 = blocks.map Pool.ofBlock := by
  induction blocks with
  | nil => rfl
  | cons block blocks ih =>
      rw [createPools, List.map_cons, ← ih]
      rfl

/-- Outside of its pool's block an address is refused without effect. -/
theorem map_reserve_outside {pools : List Pool} {address : Address}
    (outside : ∀ pool ∈ pools, pool.block.contains address = false) :
    (pools.map fun pool => (pool.reserve address).state) = pools := by
  rw [List.map_congr_left (g := id)]
  · exact List.map_id pools
  · intro pool member
    rw [Pool.reserve_of_outside (outside pool member)]
    rfl

theorem reserveIn_eq (written : String) {address : Address} {pools : List Pool}
    (exclusive : Exclusive pools)
    (home : ∃ pool ∈ pools, pool.block.contains address = true) :
    ∃ log, reserveIn written address pools =
      .ok (pools.map fun pool => (pool.reserve address).state, log) := by
  induction pools with
  | nil =>
      obtain ⟨pool, none, _⟩ := home
      cases none
  | cons pool pools ih =>
      obtain ⟨first, rest⟩ := List.pairwise_cons.mp exclusive
      rw [List.map_cons]
      by_cases inside : pool.block.contains address = true
      · -- The pools behind refuse the address, so it does no harm to ask them as well.
        rw [map_reserve_outside fun other member => first other member address inside]
        by_cases used : address ∈ pool.assigned ∨ address ∈ pool.reserved
        · have refused : pool.reserve address = ⟨.error (.inUse address), pool, []⟩ := by
            simp [Pool.reserve, inside, used]
          simp [reserveIn, inside, refused]
        · have free := Pool.reserve_of_free inside (not_or.mp used).1 (not_or.mp used).2
          simp [reserveIn, inside, free]
      · have elsewhere : ∃ other ∈ pools, other.block.contains address = true := by
          obtain ⟨other, member, contains⟩ := home
          rcases List.mem_cons.mp member with rfl | later
          · exact absurd contains inside
          · exact ⟨other, later, contains⟩
        obtain ⟨log, reserved⟩ := ih rest elsewhere
        rw [Bool.not_eq_true] at inside
        refine ⟨log, ?_⟩
        rw [reserveIn, if_neg (by simp [inside]), reserved, Pool.reserve_of_outside inside]
        rfl

theorem exclusive_map_reserve {pools : List Pool} (exclusive : Exclusive pools)
    (address : Address) : Exclusive (pools.map fun pool => (pool.reserve address).state) := by
  apply List.pairwise_map.mpr
  apply exclusive.imp
  intro first second apart
  simpa only [Pool.reserve_block] using apart

theorem reserveEach_eq {texts : List String} {addresses : List Address}
    (spelled : List.Forall₂ (fun text address => Address.ofLiteral? (.text text) = some address)
      texts addresses) {pools : List Pool} (exclusive : Exclusive pools)
    (home : ∀ address ∈ addresses, ∃ pool ∈ pools, pool.block.contains address = true) :
    ∃ log, reserveEach pools texts =
      .ok (pools.map fun pool => (pool.reserveAll addresses).1, log) := by
  induction spelled generalizing pools with
  | nil => exact ⟨[], by simp [reserveEach, Pool.reserveAll]⟩
  | @cons text address texts addresses isAddress _ ih =>
      have read : Address.ofLiteral (.text text) = .ok address := by
        rw [Address.ofLiteral, isAddress]
      obtain ⟨firstLog, first⟩ := reserveIn_eq text exclusive (home address List.mem_cons_self)
      have stillHome (later : Address) (member : later ∈ addresses) :
          ∃ pool ∈ pools.map fun pool => (pool.reserve address).state,
            pool.block.contains later = true := by
        obtain ⟨pool, isPool, contains⟩ := home later (List.mem_cons_of_mem _ member)
        refine ⟨_, List.mem_map_of_mem isPool, ?_⟩
        rw [Pool.reserve_block]
        exact contains
      obtain ⟨restLog, rest⟩ := ih (exclusive_map_reserve exclusive address) stillHome
      refine ⟨firstLog ++ restLog, ?_⟩
      rw [List.map_map] at rest
      rw [reserveEach, read]
      change (reserveIn text address pools >>= _) = _
      rw [first]
      change (reserveEach _ texts >>= _) = _
      rw [rest]
      rfl

theorem readBlocks_eq {texts : List String} {subnets : List Subnet}
    (denoted : List.Forall₂ Block.Denotes texts subnets) (limit : Int) :
    readBlocks limit texts = .ok (subnets.map fun subnet => ⟨some subnet, limit⟩) := by
  induction denoted with
  | nil => rfl
  | @cons text subnet texts subnets denotes _ ih =>
      rw [readBlocks, denotes limit, ih]
      rfl

namespace Means

variable {config : Config} {subnets : List Subnet} {reserved : List Address}

/-- The pools that the configuration means. -/
def pools (_ : config.Means subnets reserved) : List Pool :=
  subnets.map fun subnet => Pool.provisioned ⟨some subnet, config.limit⟩ reserved

theorem count_eq_length (means : config.Means subnets reserved) :
    means.pools.toArray.size = subnets.length := by
  simp [pools]

theorem exclusive (means : config.Means subnets reserved) :
    Exclusive (subnets.map fun subnet => Pool.ofBlock ⟨some subnet, config.limit⟩) := by
  apply List.pairwise_map.mpr
  apply means.families.imp
  intro first second different address inFirst
  rw [Pool.ofBlock_block] at inFirst ⊢
  have sameFamily := ((first.contains_iff address).mp inFirst).1
  rw [Bool.eq_false_iff]
  intro inSecond
  rw [((second.contains_iff address).mp inSecond).1, different.1, different.2] at sameFamily
  cases sameFamily

theorem buildPools_eq (means : config.Means subnets reserved) (fit : config.check = .ok ()) :
    ∃ log, config.buildPools = .ok (means.pools, log) := by
  have blocks := readBlocks_eq means.denoted config.limit
  have made : (createPools (subnets.map fun subnet => ⟨some subnet, config.limit⟩)).1 =
      subnets.map fun subnet => Pool.ofBlock ⟨some subnet, config.limit⟩ := by
    rw [createPools_pools, List.map_map]
    rfl
  have home (address : Address) (member : address ∈ reserved) :
      ∃ pool ∈ subnets.map fun subnet => Pool.ofBlock ⟨some subnet, config.limit⟩,
        pool.block.contains address = true := by
    obtain ⟨subnet, isSubnet, contains⟩ := means.inside address member
    refine ⟨_, List.mem_map_of_mem isSubnet, ?_⟩
    rw [Pool.ofBlock_block]
    exact contains
  obtain ⟨log, applied⟩ := reserveEach_eq means.spelled means.exclusive home
  rw [List.map_map] at applied
  unfold buildPools
  rw [fit]
  change ∃ log, (readBlocks config.limit config.blockTexts >>= _) = _
  rw [blocks]
  change ∃ log, (reserveEach (createPools _).1 config.reserved >>= _) = _
  rw [made, applied]
  exact ⟨_, rfl⟩

/-- The registry over the pools that the configuration means. -/
def registry (means : config.Means subnets reserved) : Registry means.pools.toArray.size where
  pools := ⟨means.pools.toArray, rfl⟩
  positions := List.finRange _
  peers := []

theorem buildRegistry_eq (means : config.Means subnets reserved) (fit : config.check = .ok ()) :
    config.buildRegistry = .ok ⟨_, means.registry⟩ := by
  obtain ⟨log, built⟩ := means.buildPools_eq fit
  have positive : (List.finRange means.pools.toArray.size).isEmpty = false := by
    rw [List.isEmpty_eq_false_iff_exists_mem]
    have length : 0 < means.pools.toArray.size := by
      simpa [pools, List.length_pos_iff] using means.configured
    exact ⟨⟨0, length⟩, List.mem_finRange _⟩
  unfold buildRegistry
  rw [built]
  change (registryOf means.pools).mapError _ = _
  rw [registryOf, Registry.ofPools, Registry.open?, if_neg (by simp [positive])]
  rfl

theorem pool_get (means : config.Means subnets reserved)
    (index : Fin means.pools.toArray.size) :
    ∃ subnet, subnets[index.val]? = some subnet ∧
      means.registry.pools.get index = Pool.provisioned ⟨some subnet, config.limit⟩ reserved := by
  have inBounds : index.val < subnets.length := by
    rw [← means.count_eq_length]
    exact index.isLt
  refine ⟨subnets[index.val], List.getElem?_eq_getElem inBounds, ?_⟩
  change means.pools.toArray[index.val] = _
  simp [pools]

theorem balanced_after (means : config.Means subnets reserved)
    {actions : List (Registry.Action means.pools.toArray.size)}
    (own : ∀ action ∈ actions, action.IsOwn) :
    Registry.Balanced means.registry.pools (means.registry.after actions) := by
  refine (Registry.opened_balanced ?_ _).after own
  intro index
  obtain ⟨subnet, _, isPool⟩ := means.pool_get index
  rw [isPool]
  exact Pool.provisioned_invariant _ _

/-- What peers hold are members of the subnet at its position, and not reserved. -/
theorem member_of_held (means : config.Means subnets reserved)
    {actions : List (Registry.Action means.pools.toArray.size)}
    (own : ∀ action ∈ actions, action.IsOwn) {index : Fin means.pools.toArray.size}
    {address : Address} (held : (index, address) ∈ (means.registry.after actions).holdings) :
    ∃ subnet, subnets[index.val]? = some subnet ∧ address ∈ subnet.members ∧
      address ∉ (Pool.provisioned ⟨some subnet, config.limit⟩ reserved).reserved := by
  have balanced := means.balanced_after own
  have assigned := balanced.assigned_of_held held
  obtain ⟨subnet, named, isPool⟩ := means.pool_get index
  have block := balanced.block index
  have sameReserved := balanced.reserved index
  rw [isPool] at block sameReserved
  rw [Pool.provisioned_block] at block
  refine ⟨subnet, named, ?_, ?_⟩
  · have visited := (balanced.invariant index).assigned_visited address assigned
    rw [Pool.Visited, block] at visited
    exact visited.1
  · rw [← sameReserved]
    exact (balanced.invariant index).assigned_reserved assigned

/-- The subnets at different positions are of different families. -/
theorem family_ne (means : config.Means subnets reserved) {first second : Nat}
    (different : first ≠ second) {one other : Subnet} (isFirst : subnets[first]? = some one)
    (isSecond : subnets[second]? = some other) : one.family ≠ other.family := by
  obtain ⟨firstBound, rfl⟩ := List.getElem?_eq_some_iff.mp isFirst
  obtain ⟨secondBound, rfl⟩ := List.getElem?_eq_some_iff.mp isSecond
  intro same
  rcases Nat.lt_or_gt_of_ne different with before | behind
  · obtain ⟨narrow, wide⟩ :=
      List.pairwise_iff_getElem.mp means.families first second firstBound secondBound before
    rw [narrow, wide] at same
    cases same
  · obtain ⟨narrow, wide⟩ :=
      List.pairwise_iff_getElem.mp means.families second first secondBound firstBound behind
    rw [narrow, wide] at same
    cases same

section Positions

variable (means : config.Means subnets reserved)

/-- The subnet that a position of the registry stands for. -/
def subnetAt (index : Fin means.pools.toArray.size) : Subnet :=
  subnets.get (index.cast means.count_eq_length)

theorem getElem?_subnets (index : Fin means.pools.toArray.size) :
    subnets[index.val]? = some (means.subnetAt index) :=
  List.getElem?_eq_getElem _

theorem subnets_eq : subnets = (List.finRange _).map means.subnetAt := by
  apply List.ext_getElem
  · rw [List.length_map, List.length_finRange, means.count_eq_length]
  · simp [subnetAt]

theorem map_subnets {α : Type} (f : Subnet → α) :
    subnets.map f = (List.finRange _).map fun index => f (means.subnetAt index) :=
  (congrArg (List.map f) means.subnets_eq).trans List.map_map

/-- The first subnet with a property stands at the first position whose subnet has it. -/
theorem exists_first_position {p : Subnet → Bool} {first : Subnet}
    (isFirst : subnets.find? p = some first) :
    ∃ index, (List.finRange _).find? (fun index => p (means.subnetAt index)) = some index ∧
      means.subnetAt index = first := by
  have found := congrArg (List.find? p) means.subnets_eq
  rw [isFirst, List.find?_map] at found
  exact Option.map_eq_some_iff.mp found.symm

end Positions

end Means

end Config

end TunnelLease

import TunnelLease.Proofs.Config.Provision
import TunnelLease.Proofs.Registry.Reach

/-!
# Which reservations take effect

A reserved address that is written without a zone is never given to a peer of the
registry that its configuration builds.  One that is written with a zone is reserved with
its zone, but it is the address without the zone that is a member of the subnet, so the
reservation excludes nothing.  Addresses with zones are of the wider family, whose pool
stands last, so such an address can be given exactly if without its zone it is among the
first leasable addresses of its subnet, as many as peers fit.

What a subnet can lease is told by the values of its members alone: neither the zone of a
reservation nor the one that the network address may carry takes a member away.
-/

namespace TunnelLease

namespace Subnet

/-- The members of the subnet that are neither structural nor among some reserved
addresses, in ascending order. -/
def leasable (subnet : Subnet) (reserved : List Address) : List Address :=
  subnet.members.filter fun member => ¬ subnet.IsStructural member ∧ member ∉ reserved

/-- The members of the subnet that have neither the value of one of its structural
addresses nor that of a reserved address of its family which is written without a zone,
in ascending order. -/
def free (subnet : Subnet) (reserved : List Address) : List Address :=
  subnet.members.filter fun member =>
    member.value ≠ subnet.own.value ∧ member.value ≠ subnet.network.value ∧
      ¬ (subnet.family = .v4 ∧ member.value = subnet.broadcast.value) ∧
      ¬ ∃ entry ∈ reserved, entry.zone = none ∧ entry.family = subnet.family ∧
        member.value = entry.value

theorem isStructural_iff_value {subnet : Subnet} {member : Address}
    (isMember : member ∈ subnet.members) :
    subnet.IsStructural member ↔ member.value = subnet.own.value ∨
      member.value = subnet.network.value ∨
      (subnet.family = .v4 ∧ member.value = subnet.broadcast.value) := by
  constructor
  · rintro (same | same | ⟨narrow, same⟩)
    · exact Or.inl (congrArg Address.value same)
    · exact Or.inr (Or.inl (congrArg Address.value same))
    · exact Or.inr (Or.inr ⟨narrow, congrArg Address.value same⟩)
  · rintro (same | same | ⟨narrow, same⟩)
    · exact isStructural_of_value_eq isMember (Or.inl rfl) same
    · exact isStructural_of_value_eq isMember (Or.inr (Or.inl rfl)) same
    · exact isStructural_of_value_eq isMember (Or.inr (Or.inr ⟨narrow, rfl⟩)) same

theorem mem_reserved_iff_value {subnet : Subnet} {member : Address}
    (isMember : member ∈ subnet.members) (reserved : List Address) :
    member ∈ reserved ↔ ∃ entry ∈ reserved, entry.zone = none ∧
      entry.family = subnet.family ∧ member.value = entry.value := by
  obtain ⟨contains, unzoned⟩ := (subnet.mem_members member).mp isMember
  have family := ((subnet.contains_iff member).mp contains).1
  constructor
  · exact fun isReserved => ⟨member, isReserved, unzoned, family, rfl⟩
  · rintro ⟨entry, isReserved, plain, sameFamily, sameValue⟩
    have same : member = entry :=
      Address.ext (family.trans sameFamily.symm) sameValue (unzoned.trans plain.symm)
    rwa [same]

/-- What is free by its value is what a provisioned pool can lease. -/
theorem free_eq_leasable (subnet : Subnet) (reserved : List Address) :
    subnet.free reserved = subnet.leasable reserved := by
  apply List.filter_congr
  intro member isMember
  rw [decide_eq_decide, isStructural_iff_value isMember,
    mem_reserved_iff_value isMember reserved]
  simp only [not_or, and_assoc, ne_eq]

end Subnet

namespace Pool

/-- What a provisioned pool can lease are the leasable addresses of its subnet. -/
theorem provisioned_future (subnet : Subnet) (limit : Int) (reserved : List Address) :
    (provisioned ⟨some subnet, limit⟩ reserved).future = subnet.leasable reserved := by
  obtain ⟨idle, atBase⟩ := provisioned_idle ⟨some subnet, limit⟩ reserved
  rw [future, idle, List.nil_append, fresh, provisioned_block, atBase]
  apply List.filter_congr
  intro address member
  obtain ⟨contains, _⟩ := (subnet.mem_members address).mp member
  have reached := ((subnet.contains_iff address).mp contains).2.1
  have inside : Block.contains ⟨some subnet, limit⟩ address = true := contains
  rw [decide_eq_decide, mem_provisioned_reserved, mem_ofBlock_reserved]
  change subnet.base ≤ _ ∧ _ ↔ _
  rw [and_iff_right reached, and_iff_left inside, not_or, and_comm]

end Pool

/-- There are as many different keys as one likes. -/
theorem PeerKey.exists_distinct (number : Nat) :
    ∃ keys : List PeerKey, keys.length = number ∧ keys.Nodup ∧
      ∀ key ∈ keys, key.isVoid = false := by
  refine ⟨(List.range number).map fun index => .bytes (List.replicate (index + 1) 0), ?_, ?_, ?_⟩
  · simp
  · refine List.nodup_range.map ?_
    intro first second same
    simpa using congrArg List.length (PeerKey.bytes.inj same)
  · simp [PeerKey.isVoid]

namespace Config.Means

variable {config : Config} {subnets : List Subnet} {reserved : List Address}

theorem pool_future (means : config.Means subnets reserved)
    {index : Fin means.pools.toArray.size} {subnet : Subnet}
    (isSubnet : subnets[index.val]? = some subnet) :
    (means.registry.pools.get index).future = subnet.leasable reserved := by
  obtain ⟨other, isOther, isPool⟩ := means.pool_get index
  cases isSubnet.symm.trans isOther
  rw [isPool, Pool.provisioned_future]

theorem exists_index (means : config.Means subnets reserved) {subnet : Subnet}
    (member : subnet ∈ subnets) :
    ∃ index : Fin means.pools.toArray.size, subnets[index.val]? = some subnet := by
  obtain ⟨index, below, rfl⟩ := List.mem_iff_getElem.mp member
  exact ⟨⟨index, means.count_eq_length ▸ below⟩, List.getElem?_eq_getElem below⟩

theorem pools_invariant (means : config.Means subnets reserved)
    (index : Fin means.pools.toArray.size) :
    (means.registry.pools.get index).Invariant := by
  obtain ⟨subnet, _, isPool⟩ := means.pool_get index
  rw [isPool]
  exact Pool.provisioned_invariant _ _

/-- The pool of the wider family stands at the last position. -/
theorem positions_of_wide (means : config.Means subnets reserved)
    {index : Fin means.pools.toArray.size} {subnet : Subnet}
    (isSubnet : subnets[index.val]? = some subnet) (wide : subnet.family = .v6) :
    ∃ init, List.finRange means.pools.toArray.size = init ++ [index] ∧ index ∉ init := by
  have length := means.count_eq_length
  obtain ⟨below, rfl⟩ := List.getElem?_eq_some_iff.mp isSubnet
  have isLast : index.val + 1 = subnets.length := by
    by_contra notLast
    have behind : index.val + 1 < subnets.length := by omega
    obtain ⟨narrow, _⟩ := List.pairwise_iff_getElem.mp means.families index.val (index.val + 1)
      below behind (Nat.lt_succ_self _)
    rw [wide] at narrow
    cases narrow
  have occupied : List.finRange means.pools.toArray.size ≠ [] :=
    List.ne_nil_of_mem (List.mem_finRange index)
  have last : (List.finRange means.pools.toArray.size).getLast occupied = index := by
    rw [List.getLast_eq_getElem, List.getElem_finRange]
    apply Fin.ext
    simp only [List.length_finRange, Fin.val_cast]
    omega
  have split := List.dropLast_append_getLast occupied
  rw [last] at split
  refine ⟨_, split.symm, ?_⟩
  have distinct := List.nodup_finRange means.pools.toArray.size
  rw [← split, List.nodup_append] at distinct
  exact fun member => distinct.2.2 index member index (List.mem_singleton_self index) rfl

/-- If a peer holds an address with the family and the value of a reserved one, then the
reserved one was written with a zone, and the peer holds it without. -/
theorem held_of_reserved (means : config.Means subnets reserved)
    {actions : List (Registry.Action means.pools.toArray.size)}
    (own : ∀ action ∈ actions, action.IsOwn) {index home : Fin means.pools.toArray.size}
    {given address : Address} (held : (index, given) ∈ (means.registry.after actions).holdings)
    (isReserved : address ∈ reserved) {subnet : Subnet}
    (isSubnet : subnets[home.val]? = some subnet) (contains : subnet.contains address = true)
    (family : given.family = address.family) (value : given.value = address.value) :
    index = home ∧ given = address.withoutZone ∧ address.zone ≠ none := by
  obtain ⟨other, isOther, member, unreserved⟩ := means.member_of_held own held
  obtain ⟨givenInside, _⟩ := (other.mem_members given).mp member
  have sameFamily : other.family = subnet.family := by
    rw [← ((other.contains_iff given).mp givenInside).1, family,
      ((subnet.contains_iff address).mp contains).1]
  have sameIndex : index = home := by
    by_contra different
    exact means.family_ne (fun same => different (Fin.ext same)) isOther isSubnet sameFamily
  subst sameIndex
  cases isOther.symm.trans isSubnet
  have plain : address.withoutZone ∈ subnet.members :=
    (subnet.mem_members _).mpr ⟨contains, rfl⟩
  have isPlain : given = address.withoutZone := Subnet.eq_of_value_eq member plain value
  refine ⟨rfl, isPlain, ?_⟩
  intro unzoned
  apply unreserved
  rw [isPlain, Address.withoutZone_of_unzoned unzoned]
  exact (Pool.mem_provisioned_reserved _ _ _).mpr (Or.inl ⟨isReserved, contains⟩)

/-- As many peers fit as the shortest list of leasable addresses has members. -/
theorem room_le (means : config.Means subnets reserved) {room : Nat}
    (isRoom : (subnets.map fun subnet => (subnet.leasable reserved).length).min? = some room)
    (index : Fin means.pools.toArray.size) :
    room ≤ (means.registry.pools.get index).future.length := by
  obtain ⟨subnet, isSubnet, _⟩ := means.pool_get index
  rw [means.pool_future isSubnet]
  exact (List.le_min?_iff isRoom).mp (Nat.le_refl room) _
    (List.mem_map_of_mem (List.mem_of_getElem? isSubnet))

theorem exists_room_eq (means : config.Means subnets reserved) {room : Nat}
    (isRoom : (subnets.map fun subnet => (subnet.leasable reserved).length).min? = some room) :
    ∃ index, (means.registry.pools.get index).future.length = room := by
  obtain ⟨subnet, member, length⟩ := List.mem_map.mp (List.min?_mem isRoom)
  obtain ⟨index, isSubnet⟩ := means.exists_index member
  exact ⟨index, by rw [means.pool_future isSubnet, length]⟩

/-- What peers can hold of the pool of the wider family are its first leasable addresses. -/
theorem mem_take_of_wide (means : config.Means subnets reserved) {room : Nat}
    (isRoom : (subnets.map fun subnet => (subnet.leasable reserved).length).min? = some room)
    {actions : List (Registry.Action means.pools.toArray.size)}
    (own : ∀ action ∈ actions, action.IsOwn) {index : Fin means.pools.toArray.size}
    {subnet : Subnet} (isSubnet : subnets[index.val]? = some subnet)
    (wide : subnet.family = .v6) {given : Address}
    (held : (index, given) ∈ (means.registry.after actions).holdings) :
    given ∈ (subnet.leasable reserved).take room := by
  obtain ⟨init, positions, once⟩ := means.positions_of_wide isSubnet wide
  obtain ⟨narrow, length⟩ := means.exists_room_eq isRoom
  obtain ⟨_, _, isPool⟩ := means.pool_get index
  have named : narrow ∈ init ++ [index] := positions ▸ List.mem_finRange narrow
  have single : (init ++ [index]).count narrow = 1 := by
    rw [← positions]
    exact List.count_eq_one_of_mem (List.nodup_finRange _) (List.mem_finRange narrow)
  have opened : means.registry = ⟨means.registry.pools, init ++ [index], []⟩ :=
    congrArg (fun positions => (⟨means.registry.pools, positions, []⟩ : Registry _)) positions
  rw [opened] at held
  have idle : (means.registry.pools.get index).recycled = [] := by
    rw [isPool]
    exact (Pool.provisioned_idle _ _).1
  have unassigned : (means.registry.pools.get index).assigned = [] := by
    rw [isPool, Pool.provisioned_assigned]
  have reached := Registry.mem_take_of_held_last means.pools_invariant unassigned once named idle
    own held
  rwa [Registry.roomIn, single, Nat.div_one, length, means.pool_future isSubnet] at reached

/-- The first leasable addresses of every subnet are held when as many peers have come. -/
theorem exists_held_of_mem_take (means : config.Means subnets reserved) {room : Nat}
    (isRoom : (subnets.map fun subnet => (subnet.leasable reserved).length).min? = some room)
    {index : Fin means.pools.toArray.size} {subnet : Subnet}
    (isSubnet : subnets[index.val]? = some subnet) {address : Address}
    (first : address ∈ (subnet.leasable reserved).take room) :
    ∃ actions : List (Registry.Action means.pools.toArray.size),
      (∀ action ∈ actions, action.IsOwn) ∧
        (index, address) ∈ (means.registry.after actions).holdings := by
  obtain ⟨keys, length, distinct, named⟩ := PeerKey.exists_distinct room
  have single (index : Fin means.pools.toArray.size) :
      (List.finRange means.pools.toArray.size).count index = 1 :=
    List.count_eq_one_of_mem (List.nodup_finRange _) (List.mem_finRange index)
  have fits : ∀ index ∈ List.finRange means.pools.toArray.size,
      keys.length * (List.finRange means.pools.toArray.size).count index ≤
        (means.registry.pools.get index).future.length := by
    intro index _
    rw [single, Nat.mul_one, length]
    exact means.room_le isRoom index
  have arrived : Registry.Arrived means.registry.pools (List.finRange _) keys
      (means.registry.after (keys.map .acquire)) :=
    Registry.after_arrivals means.pools_invariant distinct named fits
  refine ⟨keys.map .acquire, by simp [Registry.Action.IsOwn], ?_⟩
  rw [← Registry.mem_addressesAt, arrived.held, single, Nat.mul_one, length,
    means.pool_future isSubnet]
  exact first

end Config.Means

namespace Config

/-- Only with a zone can a reserved address be given to a peer, and then exactly if without
the zone it is early enough among the leasable addresses of its subnet. -/
theorem built_gives_reserved_iff {config : Config} (fit : config.check = .ok ()) :
    ∃ (subnets : List Subnet) (reserved : List Address) (built : SomeRegistry) (room : Nat),
      List.Forall₂ Block.Denotes config.blockTexts subnets ∧
      List.Forall₂ (fun text address => Address.ofLiteral (.text text) = .ok address)
        config.reserved reserved ∧
      config.buildRegistry = .ok built ∧
      (subnets.map fun subnet => (subnet.leasable reserved).length).min? = some room ∧
      ∀ address ∈ reserved,
        (address.zone = none → ¬ built.registry.CanGive address) ∧
        ∃ subnet ∈ subnets, subnet.contains address = true ∧
          (built.registry.CanGive address ↔
            address.withoutZone ∈ (subnet.leasable reserved).take room) := by
  obtain ⟨subnets, reserved, means⟩ := exists_means_of_check fit
  obtain ⟨room, isRoom⟩ : ∃ room,
      (subnets.map fun subnet => (subnet.leasable reserved).length).min? = some room := by
    apply Option.ne_none_iff_exists'.mp
    simp [means.configured]
  refine ⟨subnets, reserved, ⟨_, means.registry⟩, room, means.denoted, means.spelled_ok,
    means.buildRegistry_eq fit, isRoom, ?_⟩
  intro address isReserved
  obtain ⟨subnet, isSubnet, contains⟩ := means.inside address isReserved
  obtain ⟨home, atHome⟩ := means.exists_index isSubnet
  have gives := Registry.canGive_iff means.pools_invariant (List.finRange _) address
  change means.registry.CanGive address ↔ _ at gives
  refine ⟨?_, subnet, isSubnet, contains, ?_⟩
  · intro unzoned given
    obtain ⟨actions, own, index, other, held, family, value⟩ := gives.mp given
    exact (means.held_of_reserved own held isReserved atHome contains family value).2.2 unzoned
  · rw [gives]
    constructor
    · rintro ⟨actions, own, index, given, held, family, value⟩
      obtain ⟨rfl, rfl, zoned⟩ :=
        means.held_of_reserved own held isReserved atHome contains family value
      have wide : subnet.family = .v6 := by
        rw [← ((subnet.contains_iff address).mp contains).1]
        exact address.zone_v6 (Option.isSome_iff_ne_none.mpr zoned)
      exact means.mem_take_of_wide isRoom own atHome wide held
    · intro first
      obtain ⟨actions, own, held⟩ := means.exists_held_of_mem_take isRoom atHome first
      exact ⟨actions, own, home, address.withoutZone, held, rfl, rfl⟩

/-- One address of each family is reserved, the one of the wider family with a zone. -/
def mixedConfig : Config :=
  ⟨"10.8.0.1/29", "fd00::1/126", ["10.8.0.2", "fd00::2%eth0"], 65536⟩

theorem built_gives_reserved_iff_mixed :
    mixedConfig.check = .ok () ∧ ∃ built address, mixedConfig.buildRegistry = .ok built ∧
      Address.ofLiteral (.text "10.8.0.2") = .ok address ∧ ¬ built.registry.CanGive address := by
  have fit : mixedConfig.check = .ok () := by decide +kernel
  obtain ⟨_, reserved, built, _, _, spelled, isBuilt, _, given⟩ := built_gives_reserved_iff fit
  have unzoned : (Address.ofLiteral (.text "10.8.0.2")).map Address.zone = .ok none := by
    decide +kernel
  cases spelled with
  | @cons _ address _ _ read _ =>
      rw [read] at unzoned
      exact ⟨fit, built, address, isBuilt, read,
        (given address List.mem_cons_self).1 (Except.ok.inj unzoned)⟩

/-- The first peer is given the address of the wider family that is to be reserved. -/
theorem mixedConfig_gives_reserved :
    mixedConfig.check = .ok () ∧ ∃ built address, mixedConfig.buildRegistry = .ok built ∧
      "fd00::2%eth0" ∈ mixedConfig.reserved ∧
      Address.ofLiteral (.text "fd00::2%eth0") = .ok address ∧
      built.registry.CanGive address := by
  have given : ∃ built ∈ mixedConfig.buildRegistry.toOption,
      ∃ address ∈ (Address.ofLiteral (.text "fd00::2%eth0")).toOption,
        ∃ addresses ∈ (built.registry.acquire (.text "first")).answer.toOption,
          ∃ given ∈ addresses, given.family = address.family ∧ given.value = address.value := by
    decide +kernel
  obtain ⟨built, isBuilt, address, read, addresses, answer, given, isGiven, same⟩ := given
  refine ⟨by decide +kernel, built, address, ok_of_mem_toOption isBuilt, by decide,
    ok_of_mem_toOption read, [.acquire (.text "first")], by simp [Registry.Action.IsOwn],
    .text "first", addresses, ?_, given, isGiven, same⟩
  rw [← ok_of_mem_toOption answer]
  exact List.mem_singleton_self _

end Config

end TunnelLease

import TunnelLease.Proofs.Block.HostRoute
import TunnelLease.Proofs.Config.Provision
import TunnelLease.Proofs.Service.Run

/-!
# The host routes of all peers

Whatever a service over the pools of a fit configuration has been asked, the host routes
in its listing are read as blocks of one address each.  The block has the address that is
listed beside it, lies in the configured block at its position and keeps clear of that
block's structural addresses.  No two of the blocks overlap: what peers hold of one pool
are different members of its block, members are told apart by their values, and different
pools have addresses of different families.
-/

namespace TunnelLease

namespace Block

/-- The block has a leased address of the subnet and nothing else. -/
structure IsHostOf (subnet : Subnet) (leased : Address) (block : Block) : Prop where
  single : block.size = 1
  host : block.contains leased = true
  inside : ∀ address, block.contains address = true → subnet.contains address = true
  foreign : ∀ address, subnet.IsStructural address → block.contains address = false

theorem isHostOf_host {subnet : Subnet} {limit : Int} {leased : Address}
    (member : leased ∈ subnet.members)
    (unreserved : leased ∉ (Pool.ofBlock ⟨some subnet, limit⟩).reserved) (hostLimit : Int) :
    IsHostOf subnet leased ⟨some leased.host, hostLimit⟩ where
  single := leased.host_size
  host := (leased.contains_host leased).mpr ⟨rfl, rfl⟩
  inside := by
    intro address isHost
    obtain ⟨family, value⟩ := (leased.contains_host address).mp isHost
    have leasedInside := ((subnet.mem_members leased).mp member).1
    rw [Subnet.contains_iff] at leasedInside ⊢
    rw [family, value]
    exact leasedInside
  foreign := by
    intro address structural
    rw [Bool.eq_false_iff]
    intro isHost
    have sameValue := ((leased.contains_host address).mp isHost).2
    exact Pool.value_ne_of_isStructural member unreserved structural sameValue.symm

end Block

/-- No address is in the blocks that two routes denote. -/
def RoutesApart (first second : String) : Prop :=
  ∀ firstBlock secondBlock address, Block.read (.text first) 1 true = .ok firstBlock →
    Block.read (.text second) 1 true = .ok secondBlock →
    ¬ (firstBlock.contains address = true ∧ secondBlock.contains address = true)

theorem RoutesApart.symm {first second : String} (apart : RoutesApart first second) :
    RoutesApart second first := by
  intro firstBlock secondBlock address firstRead secondRead
  rw [and_comm]
  exact apart secondBlock firstBlock address secondRead firstRead

theorem routesApart_hostRoute {first second : Address}
    (different : ¬ (first.family = second.family ∧ first.value = second.value)) :
    RoutesApart first.hostRoute second.hostRoute := by
  intro firstBlock secondBlock address firstRead secondRead
  rw [first.read_hostRoute (Int.le_refl 1)] at firstRead
  rw [second.read_hostRoute (Int.le_refl 1)] at secondRead
  rw [← Except.ok.inj firstRead, ← Except.ok.inj secondRead]
  rintro ⟨isFirst, isSecond⟩
  obtain ⟨firstFamily, firstValue⟩ := (first.contains_host address).mp isFirst
  obtain ⟨secondFamily, secondValue⟩ := (second.contains_host address).mp isSecond
  exact different ⟨firstFamily.symm.trans secondFamily, firstValue.symm.trans secondValue⟩

namespace Config.Means

variable {config : Config} {subnets : List Subnet} {reserved : List Address}

/-- Two different holdings differ in family or value. -/
theorem held_apart (means : config.Means subnets reserved)
    {actions : List (Registry.Action means.pools.toArray.size)}
    (own : ∀ action ∈ actions, action.IsOwn) :
    (means.registry.after actions).holdings.Pairwise fun first second =>
      ¬ (first.2.family = second.2.family ∧ first.2.value = second.2.value) := by
  refine (means.balanced_after own).holdings_nodup.imp_of_mem ?_
  rintro ⟨firstIndex, first⟩ ⟨secondIndex, second⟩ firstHeld secondHeld different
    ⟨sameFamily, sameValue⟩
  obtain ⟨one, isOne, firstMember, _⟩ := means.member_of_held own firstHeld
  obtain ⟨other, isOther, secondMember, _⟩ := means.member_of_held own secondHeld
  -- Within a pool members differ in value, and pools at different positions differ in family.
  by_cases samePlace : firstIndex = secondIndex
  · subst samePlace
    rw [isOne] at isOther
    cases isOther
    exact different (Prod.ext rfl (Subnet.eq_of_value_eq firstMember secondMember sameValue))
  · apply means.family_ne (fun same => samePlace (Fin.ext same)) isOne isOther
    have firstFamily := ((one.contains_iff first).mp ((one.mem_members first).mp firstMember).1).1
    have secondFamily :=
      ((other.contains_iff second).mp ((other.mem_members second).mp secondMember).1).1
    rw [← firstFamily, ← secondFamily]
    exact sameFamily

/-- The address of a peer at some position is the only one of its own block. -/
theorem isHostOf_of_peer (means : config.Means subnets reserved)
    {actions : List (Registry.Action means.pools.toArray.size)}
    (own : ∀ action ∈ actions, action.IsOwn) {peer : Peer}
    (isPeer : peer ∈ (means.registry.after actions).peers) {index : Nat} {subnet : Subnet}
    {leased : Address} (isSubnet : subnets[index]? = some subnet)
    (isLeased : peer.addresses[index]? = some leased) :
    Block.IsHostOf subnet leased ⟨some leased.host, 1⟩ := by
  have inBounds : index < means.pools.toArray.size := by
    obtain ⟨bound, _⟩ := List.getElem?_eq_some_iff.mp isSubnet
    rw [means.count_eq_length]
    exact bound
  have isPosition : (means.registry.after actions).positions[index]? =
      some ⟨index, inBounds⟩ := by
    have isListed : index < (List.finRange means.pools.toArray.size).length := by
      rw [List.length_finRange]
      exact inBounds
    rw [Registry.after_positions]
    exact (List.getElem?_eq_getElem isListed).trans (congrArg some (List.getElem_finRange _))
  have held : (⟨index, inBounds⟩, leased) ∈ (means.registry.after actions).holdings :=
    (Registry.mem_holdings _ _ _).mpr ⟨peer, isPeer, index, isPosition, isLeased⟩
  obtain ⟨other, isOther, member, unreserved⟩ := means.member_of_held own held
  cases isSubnet.symm.trans isOther
  have unstructural : leased ∉ (Pool.ofBlock ⟨some subnet, config.limit⟩).reserved :=
    fun structural => unreserved ((Pool.mem_provisioned_reserved _ _ _).mpr (Or.inr structural))
  exact Block.isHostOf_host member unstructural 1

end Config.Means

namespace Registry

variable {count : Nat}

theorem holdings_addresses {registry : Registry count}
    (lengths : ∀ peer ∈ registry.peers, peer.addresses.length = registry.positions.length) :
    registry.holdings.map Prod.snd = registry.peers.flatMap Peer.addresses := by
  rw [holdings, List.map_flatMap]
  apply List.flatMap_congr
  intro peer member
  rw [List.map_snd_zip]
  exact Nat.le_of_eq (lengths peer member)

end Registry

namespace Service

variable {count : Nat}

theorem listedRoutes_perm (registry : Registry count) :
    ((list registry).flatMap PeerView.allowedIps).Perm
      ((registry.peers.flatMap Peer.addresses).map Address.hostRoute) := by
  have listed := (list_perm registry).flatMap_right PeerView.allowedIps
  rw [List.flatMap_map] at listed
  rw [List.map_flatMap]
  exact listed

/-- The listed routes are host routes of leased addresses within the configured blocks and
off their structural addresses, and no two of them overlap. -/
theorem listed_routes_apart {config : Config} (fit : config.check = .ok ()) :
    ∃ (subnets : List Subnet) (built : Config.SomeRegistry),
      List.Forall₂ Block.Denotes config.blockTexts subnets ∧
      config.buildRegistry = .ok built ∧
      ∀ actions : List (Action built.count), (∀ action ∈ actions, action.IsOwn) →
        (∀ view ∈ list (after built.registry actions),
          view.addresses.length = subnets.length ∧ view.allowedIps.length = subnets.length ∧
          ∀ (index : Nat) (subnet : Subnet) (address route : String),
            subnets[index]? = some subnet → view.addresses[index]? = some address →
            view.allowedIps[index]? = some route →
            ∃ leased block, Address.ofLiteral (.text address) = .ok leased ∧
              Block.read (.text route) 1 true = .ok block ∧
              Block.IsHostOf subnet leased block) ∧
        ((list (after built.registry actions)).flatMap PeerView.allowedIps).Pairwise
          RoutesApart := by
  obtain ⟨subnets, reserved, means⟩ := Config.exists_means_of_check fit
  refine ⟨subnets, ⟨_, means.registry⟩, means.denoted, means.buildRegistry_eq fit, ?_⟩
  intro actions own
  rw [after_eq]
  have ownEffects : ∀ effect ∈ actions.flatMap Action.effect, effect.IsOwn := by
    intro effect member
    obtain ⟨action, isAction, isEffect⟩ := List.mem_flatMap.mp member
    exact isOwn_effect (own action isAction) effect isEffect
  have balanced := means.balanced_after ownEffects
  let registry := means.registry.after (actions.flatMap Action.effect)
  have positions : registry.positions = List.finRange means.pools.toArray.size :=
    Registry.after_positions _ _
  have positionsLength : registry.positions.length = subnets.length := by
    rw [positions, List.length_finRange, means.count_eq_length]
  constructor
  · intro view listed
    obtain ⟨peer, isPeer, rfl⟩ := List.mem_map.mp ((list_perm registry).mem_iff.mp listed)
    have length : peer.addresses.length = subnets.length :=
      (balanced.lengths peer isPeer).trans positionsLength
    refine ⟨(List.length_map _).trans length, (List.length_map _).trans length, ?_⟩
    intro index subnet address route isSubnet isAddress isRoute
    change (peer.addresses.map Address.text)[index]? = _ at isAddress
    change (peer.addresses.map Address.hostRoute)[index]? = _ at isRoute
    rw [List.getElem?_map] at isAddress isRoute
    obtain ⟨leased, isLeased, rfl⟩ := Option.map_eq_some_iff.mp isAddress
    rw [isLeased, Option.map_some] at isRoute
    cases isRoute
    refine ⟨leased, _, ?_, leased.read_hostRoute (Int.le_refl 1),
      means.isHostOf_of_peer ownEffects isPeer isSubnet isLeased⟩
    rw [Address.ofLiteral, Address.ofLiteral?, Address.ofText?_text]
  · have routes := listedRoutes_perm registry
    rw [← Registry.holdings_addresses balanced.lengths, List.map_map] at routes
    refine (routes.pairwise_iff RoutesApart.symm).mpr ?_
    refine List.pairwise_map.mpr ((means.held_apart ownEffects).imp ?_)
    intro first second different
    exact routesApart_hostRoute different

/-- Blocks of both families, a zone on a network address, and a reservation. -/
def dualConfig : Config :=
  ⟨"10.8.0.1/29", "fd00::%eth0/125", ["10.8.0.2"], 65536⟩

/-- A peer comes and goes, and requests are refused on the way. -/
def dualRun : List (Action count) :=
  [.add (.text "alice"), .onRegistry (.acquire (.bytes [10])), .add (.text "alice"),
    .add .missing, .remove (.text "alice"), .add (.text "bob"), .onRegistry (.acquire .absent)]

theorem listed_routes_apart_dual :
    ∃ built, dualConfig.check = .ok () ∧ dualConfig.buildRegistry = .ok built ∧
      ((list (after built.registry dualRun)).flatMap PeerView.allowedIps).Perm
        ["10.8.0.4/32", "fd00::2/128", "10.8.0.3/32", "fd00::1/128"] ∧
      ["10.8.0.4/32", "fd00::2/128", "10.8.0.3/32", "fd00::1/128"].Pairwise RoutesApart := by
  have fit : dualConfig.check = .ok () := rfl
  obtain ⟨_, built, _, isBuilt, run⟩ := listed_routes_apart fit
  have own : ∀ action ∈ @dualRun built.count, action.IsOwn := by
    simp [dualRun, Action.IsOwn, Registry.Action.IsOwn]
  have held : (match dualConfig.buildRegistry with
      | .ok built =>
          ((after built.registry dualRun).peers.flatMap Peer.addresses).map Address.hostRoute
      | .error _ => []) =
        ["10.8.0.4/32", "fd00::2/128", "10.8.0.3/32", "fd00::1/128"] := by
    decide +kernel
  rw [isBuilt] at held
  dsimp only at held
  have listing := listedRoutes_perm (after built.registry dualRun)
  rw [held] at listing
  exact ⟨built, fit, isBuilt, listing,
    (listing.pairwise_iff RoutesApart.symm).mp (run dualRun own).2⟩

end Service

end TunnelLease

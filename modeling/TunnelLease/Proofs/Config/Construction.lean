import TunnelLease.Proofs.Config.Provision

/-!
# Checking is what building needs

A configuration can be built into pools, and into a registry, exactly if it passes its
check, and otherwise building is refused for the cause that the check gives.  Behind the
check no step of building can be refused: the blocks are read once more from the texts that
the check has read, every reserved address has a pool, and that it is reserved already does
no harm.  What is built has one new pool for each family that is not left out.
-/

namespace TunnelLease

namespace Block

theorem Denotes.unique {text : String} {first second : Subnet} (isFirst : Denotes text first)
    (isSecond : Denotes text second) : first = second := by
  have same := (isFirst defaultLimit).symm.trans (isSecond defaultLimit)
  exact Option.some.inj (congrArg Block.subnet (Except.ok.inj same))

theorem Denotes.read {text : String} {subnet : Subnet} (denotes : Denotes text subnet)
    (limit : Int) : Block.read (.text text) limit false = .ok ⟨some subnet, limit⟩ := by
  simp [Block.read, ofLiteral, denotes limit]

end Block

/-- The addresses that some texts denote are those that one of the texts denotes. -/
theorem Address.mem_iff_of_spelled {texts : List String} {addresses : List Address}
    (spelled : List.Forall₂ (fun text address => ofLiteral? (.text text) = some address)
      texts addresses) (address : Address) :
    address ∈ addresses ↔ ∃ text ∈ texts, ofLiteral (.text text) = .ok address := by
  simp only [ofLiteral_eq_ok_iff]
  induction spelled with
  | nil => simp
  | cons isFirst _ ih => simp [isFirst, ih, eq_comm]

namespace Config

/-- The families that are not left out, with the texts of their blocks. -/
def families (config : Config) : List (Family × String) :=
  [(.v4, config.ipv4), (.v6, config.ipv6)].filter fun entry => entry.2 ≠ ""

theorem blockTexts_eq (config : Config) : config.blockTexts = config.families.map Prod.snd := by
  change (List.map Prod.snd [(Family.v4, config.ipv4), (Family.v6, config.ipv6)]).filter _ = _
  rw [List.filter_map]
  rfl

/-- The text of each family denotes a block of that family. -/
theorem exists_denoted_of_check {config : Config} (fit : config.check = .ok ()) :
    ∀ entry ∈ config.families, ∃ subnet,
      Block.Denotes entry.2 subnet ∧ subnet.family = entry.1 := by
  obtain ⟨_, _, narrow, wide, _, isNarrow, isWide, _⟩ := check_eq_ok fit
  have found {text : String} {family : Family} {blocks : List Block} (written : text ≠ "")
      (read : familyBlock text family = .ok blocks) :
      ∃ subnet, Block.Denotes text subnet ∧ subnet.family = family := by
    rw [familyBlock, if_neg written] at read
    obtain ⟨block, required, _⟩ := ok_of_map read
    obtain ⟨subnet, _, denotes⟩ := Block.require_eq_ok required
    exact ⟨subnet, denotes⟩
  intro entry member
  obtain ⟨isEntry, written⟩ := List.mem_filter.mp member
  have written : entry.2 ≠ "" := of_decide_eq_true written
  rcases List.mem_pair.mp isEntry with rfl | rfl
  · exact found written isNarrow
  · exact found written isWide

/-- A new pool of a family, with the structural addresses of its block and the reserved
entries of the family excluded from leasing. -/
structure Provides (config : Config) (entry : Family × String) (pool : Pool) : Prop where
  read : Block.read (.text entry.2) config.limit false = .ok pool.block
  family : ∃ subnet, pool.block.subnet = some subnet ∧ subnet.family = entry.1
  unassigned : pool.assigned = []
  idle : pool.recycled = []
  reserved_nodup : pool.reserved.Nodup
  mem_reserved : ∀ address, address ∈ pool.reserved ↔
    (∃ subnet ∈ pool.block.subnet, subnet.IsStructural address) ∨
    (address.family = entry.1 ∧
      ∃ written ∈ config.reserved, Address.ofLiteral (.text written) = .ok address)

namespace Means

variable {config : Config} {subnets : List Subnet} {reserved : List Address}

theorem denoted_families (means : config.Means subnets reserved) (fit : config.check = .ok ()) :
    List.Forall₂ (fun entry subnet => Block.Denotes entry.2 subnet ∧ subnet.family = entry.1)
      config.families subnets := by
  have denoted := means.denoted
  rw [blockTexts_eq, List.forall₂_map_left_iff] at denoted
  refine (List.forall₂_and_left _ _ |>.mpr ⟨exists_denoted_of_check fit, denoted⟩).imp ?_
  rintro entry subnet ⟨⟨other, otherDenotes, ofFamily⟩, denotes⟩
  refine ⟨denotes, ?_⟩
  rw [denotes.unique otherDenotes]
  exact ofFamily

/-- A reserved address lies in the subnet of its family. -/
theorem contains_iff_of_reserved (means : config.Means subnets reserved) {address : Address}
    (isReserved : address ∈ reserved) {subnet : Subnet} (member : subnet ∈ subnets) :
    subnet.contains address = true ↔ address.family = subnet.family := by
  constructor
  · exact fun contains => ((subnet.contains_iff address).mp contains).1
  · intro sameFamily
    obtain ⟨home, isHome, contains⟩ := means.inside address isReserved
    have ofHome := ((home.contains_iff address).mp contains).1
    obtain ⟨first, isFirst⟩ := List.mem_iff_getElem?.mp member
    obtain ⟨second, isSecond⟩ := List.mem_iff_getElem?.mp isHome
    have samePosition : first = second := by
      by_contra different
      exact means.family_ne different isFirst isSecond (sameFamily.symm.trans ofHome)
    rw [samePosition, isSecond] at isFirst
    rw [← Option.some.inj isFirst]
    exact contains

theorem provides (means : config.Means subnets reserved) {entry : Family × String}
    {subnet : Subnet} (member : subnet ∈ subnets) (denotes : Block.Denotes entry.2 subnet)
    (ofFamily : subnet.family = entry.1) :
    config.Provides entry (Pool.provisioned ⟨some subnet, config.limit⟩ reserved) where
  read := by rw [Pool.provisioned_block, denotes.read]
  family := ⟨subnet, by rw [Pool.provisioned_block], ofFamily⟩
  unassigned := Pool.provisioned_assigned _ _
  idle := (Pool.provisioned_idle _ _).1
  reserved_nodup := (Pool.provisioned_invariant _ _).reserved_nodup
  mem_reserved address := by
    rw [Pool.mem_provisioned_reserved, Pool.mem_ofBlock_reserved, Pool.provisioned_block,
      ← Address.mem_iff_of_spelled means.spelled, ← ofFamily, or_comm]
    apply or_congr
    · simp
    · rw [and_comm, and_congr_left_iff]
      exact fun isReserved => means.contains_iff_of_reserved isReserved member

theorem forall₂_provides (means : config.Means subnets reserved) (fit : config.check = .ok ()) :
    List.Forall₂ config.Provides config.families means.pools := by
  rw [pools, List.forall₂_map_right_iff]
  have denoted := means.denoted_families fit
  refine List.forall₂_iff_zip.mpr ⟨denoted.length_eq, ?_⟩
  intro entry subnet paired
  obtain ⟨denotes, ofFamily⟩ := List.forall₂_zip denoted paired
  exact means.provides (List.of_mem_zip paired).2 denotes ofFamily

end Means

theorem buildPools_of_check_error {config : Config} {cause : Misconfiguration}
    (unfit : config.check = .error cause) :
    config.buildPools = .error (.refused (.misconfigured cause)) := by
  unfold buildPools
  rw [unfit]
  rfl

theorem buildRegistry_of_check_error {config : Config} {cause : Misconfiguration}
    (unfit : config.check = .error cause) :
    config.buildRegistry = .error (.refused (.misconfigured cause)) := by
  unfold buildRegistry
  rw [buildPools_of_check_error unfit]
  rfl

/-- The registry over some pools, a position for each, in which no peer has come yet. -/
def newRegistry (pools : List Pool) : SomeRegistry :=
  ⟨_, pools.toArray.toVector, List.finRange _, []⟩

/-- A configuration is built exactly if it passes its check, and otherwise refused for the
cause that the check gives.  Each family that is not left out has a new pool. -/
theorem build_iff_check (config : Config) :
    ((∃ built, config.buildPools = .ok built) ↔ config.check = .ok ()) ∧
    ((∃ built, config.buildRegistry = .ok built) ↔ config.check = .ok ()) ∧
    (∀ fault, config.buildPools = .error fault ↔
      ∃ cause, config.check = .error cause ∧ fault = .refused (.misconfigured cause)) ∧
    (∀ fault, config.buildRegistry = .error fault ↔
      ∃ cause, config.check = .error cause ∧ fault = .refused (.misconfigured cause)) ∧
    (config.check = .ok () → ∃ pools log, config.buildPools = .ok (pools, log) ∧
      config.buildRegistry = .ok (newRegistry pools) ∧
      List.Forall₂ config.Provides config.families pools) := by
  cases fit : config.check with
  | error cause =>
      rw [buildPools_of_check_error fit, buildRegistry_of_check_error fit]
      simp [eq_comm]
  | ok _ =>
      obtain ⟨subnets, reserved, means⟩ := exists_means_of_check fit
      obtain ⟨log, pools⟩ := means.buildPools_eq fit
      have registry : config.buildRegistry = .ok (newRegistry means.pools) :=
        means.buildRegistry_eq fit
      have provided := means.forall₂_provides fit
      rw [pools, registry]
      refine ⟨by simp, by simp, by simp, by simp, fun _ => ?_⟩
      exact ⟨means.pools, log, rfl, rfl, provided⟩

end Config

end TunnelLease

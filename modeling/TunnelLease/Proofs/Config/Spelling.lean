import TunnelLease.Proofs.Config.Construction
import TunnelLease.Proofs.Registry.Interchange

/-!
# Reserved entries as a set

Of the reserved entries of a configuration it only matters which addresses they denote.
Two configurations that agree in everything else and whose entries differ in order, in
repetition and in spelling are both fit or both not, and what is built from them cannot be
told apart: a reservation is made once however often it is asked for, and a pool asks of
its reservations only which and how many they are.
-/

namespace TunnelLease

namespace Pool

/-- The pools have the same block and give the same responses to every sequence of
operations. -/
def Indistinguishable (first second : Pool) : Prop :=
  first.block = second.block ∧
    ∀ operations, (conduct operate first operations).1 = (conduct operate second operations).1

theorem Interchangeable.indistinguishable {first second : Pool}
    (alike : Interchangeable first second) : Indistinguishable first second :=
  ⟨alike.block, alike.conduct⟩

/-- Neither the order nor the repetition of the addresses to be reserved matters. -/
theorem provisioned_interchangeable (block : Block) {first second : List Address}
    (same : ∀ address, address ∈ first ↔ address ∈ second) :
    Interchangeable (provisioned block first) (provisioned block second) where
  block := by rw [provisioned_block, provisioned_block]
  cursor := by rw [(provisioned_idle block first).2, (provisioned_idle block second).2]
  assigned := by rw [provisioned_assigned, provisioned_assigned]
  recycled := by rw [(provisioned_idle block first).1, (provisioned_idle block second).1]
  reserved := by
    rw [List.perm_ext_iff_of_nodup (provisioned_invariant block first).reserved_nodup
      (provisioned_invariant block second).reserved_nodup]
    intro address
    rw [mem_provisioned_reserved, mem_provisioned_reserved, same]

end Pool

namespace Config

/-- The texts are the same, or they denote the same address. -/
def SpellAlike (first second : String) : Prop :=
  first = second ∨ ∃ address, Address.ofLiteral (.text first) = .ok address ∧
    Address.ofLiteral (.text second) = .ok address

/-- Each entry of one list is in the other, perhaps in another spelling. -/
def SameEntries (first second : List String) : Prop :=
  (∀ text ∈ first, ∃ other ∈ second, SpellAlike text other) ∧
    ∀ other ∈ second, ∃ text ∈ first, SpellAlike text other

instance (first second : String) : Decidable (SpellAlike first second) :=
  decidable_of_iff (first = second ∨ ∃ address ∈ Address.ofLiteral? (.text first),
    Address.ofLiteral? (.text second) = some address)
    (by simp [SpellAlike, Address.ofLiteral_eq_ok_iff])

instance (first second : List String) : Decidable (SameEntries first second) :=
  inferInstanceAs (Decidable (_ ∧ _))

theorem SpellAlike.symm {first second : String} (alike : SpellAlike first second) :
    SpellAlike second first := by
  rcases alike with same | ⟨address, isFirst, isSecond⟩
  · exact Or.inl same.symm
  · exact Or.inr ⟨address, isSecond, isFirst⟩

theorem SpellAlike.denotes_iff {first second : String} (alike : SpellAlike first second)
    (address : Address) :
    Address.ofLiteral (.text first) = .ok address ↔
      Address.ofLiteral (.text second) = .ok address := by
  rcases alike with rfl | ⟨denoted, isFirst, isSecond⟩
  · exact Iff.rfl
  · rw [isFirst, isSecond]

theorem SameEntries.symm {first second : List String} (same : SameEntries first second) :
    SameEntries second first := by
  refine ⟨?_, ?_⟩
  · intro other member
    obtain ⟨text, isText, alike⟩ := same.2 other member
    exact ⟨text, isText, alike.symm⟩
  · intro text member
    obtain ⟨other, isOther, alike⟩ := same.1 text member
    exact ⟨other, isOther, alike.symm⟩

theorem SameEntries.denoted_of_denoted {first second : List String}
    (same : SameEntries first second) {address : Address}
    (denoted : ∃ text ∈ first, Address.ofLiteral (.text text) = .ok address) :
    ∃ text ∈ second, Address.ofLiteral (.text text) = .ok address := by
  obtain ⟨text, member, isAddress⟩ := denoted
  obtain ⟨other, isOther, alike⟩ := same.1 text member
  exact ⟨other, isOther, (alike.denotes_iff address).mp isAddress⟩

/-- The reserved entries pass if each of them denotes an address of one of the blocks. -/
theorem reserved_ok_iff (blocks : List Block) (texts : List String) :
    (∃ addresses, Address.requireAll (texts.map Literal.text) = .ok addresses ∧
        checkInside blocks addresses = .ok ()) ↔
      ∀ text ∈ texts, ∃ address, Address.ofLiteral (.text text) = .ok address ∧
        ∃ block ∈ blocks, block.contains address = true := by
  induction texts with
  | nil => simp [Address.requireAll, checkInside]
  | cons text texts ih =>
      rw [List.forall_mem_cons, ← ih, List.map_cons, Address.requireAll]
      simp only [Address.ofLiteral_eq_ok_iff]
      cases Address.ofLiteral? (.text text) with
      | none => simp
      | some address =>
          cases Address.requireAll (texts.map Literal.text) with
          | error cause => simp [Except.map]
          | ok later =>
              by_cases home : ∃ block ∈ blocks, block.contains address = true
              · simp [Except.map, checkInside, home]
              · simp [Except.map, checkInside, home]

theorem check_eq_ok_iff (config : Config) :
    config.check = .ok () ↔
      ¬ (config.ipv4 = "" ∧ config.ipv6 = "") ∧ 1 ≤ config.limit ∧
        ∃ narrow wide, familyBlock config.ipv4 .v4 = .ok narrow ∧
          familyBlock config.ipv6 .v6 = .ok wide ∧
          ∀ text ∈ config.reserved, ∃ address, Address.ofLiteral (.text text) = .ok address ∧
            ∃ block ∈ narrow ++ wide, block.contains address = true := by
  constructor
  · intro fit
    obtain ⟨written, positive, narrow, wide, reserved, isNarrow, isWide, isReserved, inside⟩ :=
      check_eq_ok fit
    exact ⟨written, positive, narrow, wide, isNarrow, isWide,
      (reserved_ok_iff _ _).mp ⟨reserved, isReserved, inside⟩⟩
  · rintro ⟨written, positive, narrow, wide, isNarrow, isWide, entries⟩
    obtain ⟨reserved, isReserved, inside⟩ := (reserved_ok_iff _ _).mpr entries
    have fit : config.checkFit = .ok () := by
      rw [checkFit, isNarrow, isWide, isReserved]
      exact inside
    rw [check, if_neg written, if_neg (by omega), fit]
    rfl

/-- A configuration stays fit if its entries are respelled. -/
theorem check_of_sameEntries {config : Config} {entries : List String}
    (same : SameEntries config.reserved entries) (fit : config.check = .ok ()) :
    check { config with reserved := entries } = .ok () := by
  obtain ⟨written, positive, narrow, wide, isNarrow, isWide, inside⟩ :=
    (check_eq_ok_iff config).mp fit
  refine (check_eq_ok_iff _).mpr ⟨written, positive, narrow, wide, isNarrow, isWide, ?_⟩
  intro other member
  obtain ⟨text, isText, alike⟩ := same.2 other member
  obtain ⟨address, isAddress, home⟩ := inside text isText
  exact ⟨address, (alike.denotes_iff address).mp isAddress, home⟩

theorem buildPools_ok_iff (config : Config) :
    (∃ built, config.buildPools = .ok built) ↔ config.check = .ok () := by
  cases fit : config.check with
  | error cause =>
      rw [buildPools_of_check_error fit]
      simp
  | ok _ =>
      obtain ⟨subnets, reserved, means⟩ := exists_means_of_check fit
      obtain ⟨log, built⟩ := means.buildPools_eq fit
      exact iff_of_true ⟨_, built⟩ rfl

/-- The block texts name the subnets, whatever else a configuration says. -/
theorem Means.subnets_unique {first second : Config} {subnets others : List Subnet}
    {reserved entries : List Address} (means : first.Means subnets reserved)
    (other : second.Means others entries) (texts : first.blockTexts = second.blockTexts) :
    subnets = others := by
  have unique : Relator.RightUnique Block.Denotes := fun _ _ _ => Block.Denotes.unique
  have denoted := means.denoted
  rw [texts] at denoted
  exact unique.forall₂ denoted other.denoted

/-- Pools that are built with the same reserved addresses are interchangeable. -/
theorem Means.pools_interchangeable {first second : Config} {subnets : List Subnet}
    {reserved entries : List Address} (means : first.Means subnets reserved)
    (other : second.Means subnets entries) (limit : first.limit = second.limit)
    (same : ∀ address, address ∈ reserved ↔ address ∈ entries) :
    List.Forall₂ Pool.Interchangeable means.pools other.pools := by
  rw [Means.pools, Means.pools, List.forall₂_map_left_iff, List.forall₂_map_right_iff, limit]
  exact List.forall₂_same.mpr fun subnet _ => Pool.provisioned_interchangeable _ same

/-- A new registry over as many pools as there are. -/
theorem newRegistry_eq {pools : List Pool} {count : Nat} (size : pools.toArray.size = count) :
    newRegistry pools = ⟨count, ⟨⟨pools.toArray, size⟩, List.finRange count, []⟩⟩ := by
  subst size
  rfl

theorem newRegistry_interchangeable {first second : List Pool}
    (alike : List.Forall₂ Pool.Interchangeable first second) :
    ∃ (count : Nat) (one other : Registry count), newRegistry first = ⟨count, one⟩ ∧
      newRegistry second = ⟨count, other⟩ ∧ one.Interchangeable other := by
  have size : second.toArray.size = first.toArray.size := alike.length_eq.symm
  refine ⟨_, _, _, newRegistry_eq rfl, newRegistry_eq size, ?_, rfl, rfl⟩
  intro index
  exact alike.get _ _

/-- Order, repetition and spelling of the reserved entries make no difference to whether
pools are built, to what they answer, and to what any run of the registry leaves. -/
theorem build_of_sameEntries (config : Config) {entries : List String}
    (same : SameEntries config.reserved entries) :
    let respelled : Config := { config with reserved := entries }
    (config.check = .ok () ↔ respelled.check = .ok ()) ∧
      ((∃ built, config.buildPools = .ok built) ↔ ∃ built, respelled.buildPools = .ok built) ∧
      (config.check = .ok () →
        (∃ pools log others otherLog, config.buildPools = .ok (pools, log) ∧
          respelled.buildPools = .ok (others, otherLog) ∧
          List.Forall₂ Pool.Indistinguishable pools others) ∧
        ∃ (count : Nat) (one other : Registry count), config.buildRegistry = .ok ⟨count, one⟩ ∧
          respelled.buildRegistry = .ok ⟨count, other⟩ ∧
          ∀ actions, one.history actions = other.history actions ∧
            (one.after actions).peers = (other.after actions).peers ∧
            ∀ index, Pool.Indistinguishable ((one.after actions).pools.get index)
              ((other.after actions).pools.get index)) := by
  intro respelled
  have fit_iff : config.check = .ok () ↔ respelled.check = .ok () :=
    ⟨check_of_sameEntries same, @check_of_sameEntries respelled config.reserved same.symm⟩
  refine ⟨fit_iff, ?_, ?_⟩
  · rw [buildPools_ok_iff, buildPools_ok_iff, fit_iff]
  · intro fit
    obtain ⟨subnets, reserved, means⟩ := exists_means_of_check fit
    obtain ⟨others, respelt, otherMeans⟩ := exists_means_of_check (fit_iff.mp fit)
    obtain rfl := means.subnets_unique otherMeans rfl
    have sameAddresses (address : Address) : address ∈ reserved ↔ address ∈ respelt := by
      rw [Address.mem_iff_of_spelled means.spelled, Address.mem_iff_of_spelled otherMeans.spelled]
      exact ⟨same.denoted_of_denoted, same.symm.denoted_of_denoted⟩
    have alike := means.pools_interchangeable otherMeans rfl sameAddresses
    constructor
    · obtain ⟨log, built⟩ := means.buildPools_eq fit
      obtain ⟨otherLog, otherBuilt⟩ := otherMeans.buildPools_eq (fit_iff.mp fit)
      exact ⟨_, log, _, otherLog, built, otherBuilt,
        alike.imp fun _ _ => Pool.Interchangeable.indistinguishable⟩
    · obtain ⟨count, one, other, isOne, isOther, registries⟩ := newRegistry_interchangeable alike
      have built : config.buildRegistry = .ok (newRegistry means.pools) :=
        means.buildRegistry_eq fit
      have otherBuilt : respelled.buildRegistry = .ok (newRegistry otherMeans.pools) :=
        otherMeans.buildRegistry_eq (fit_iff.mp fit)
      refine ⟨count, one, other, by rw [built, isOne], by rw [otherBuilt, isOther], ?_⟩
      intro actions
      have reached := registries.after actions
      exact ⟨registries.history actions, reached.peers,
        fun index => (reached.pools index).indistinguishable⟩

/-- Blocks of both families with three entries, one of them with a zone. -/
def spelledConfig : Config :=
  ⟨"10.8.0.1/29", "fd00::1/125", ["10.8.0.2", "fd00::2", "fd00::3%eth0"], 8⟩

/-- The same entries in another order and other spellings, one of them twice. -/
def respelledEntries : List String :=
  ["fd00:0::3%eth0", "FD00::0.0.0.2", "10.8.0.2", "fd00::2"]

theorem build_of_sameEntries_spelled :
    SameEntries spelledConfig.reserved respelledEntries ∧ spelledConfig.check = .ok () ∧
      ∃ (count : Nat) (one other : Registry count), spelledConfig.buildRegistry = .ok ⟨count, one⟩ ∧
        buildRegistry { spelledConfig with reserved := respelledEntries } =
          .ok ⟨count, other⟩ ∧
        ∀ actions, one.history actions = other.history actions := by
  have same : SameEntries spelledConfig.reserved respelledEntries := by decide +kernel
  have fit : spelledConfig.check = .ok () := by decide +kernel
  obtain ⟨_, _, alike⟩ := build_of_sameEntries spelledConfig same
  obtain ⟨_, count, one, other, isOne, isOther, runs⟩ := alike fit
  exact ⟨same, fit, count, one, other, isOne, isOther, fun actions => (runs actions).1⟩

end Config

end TunnelLease

import Mathlib.Data.List.Forall2
import TunnelLease.Config.Check
import TunnelLease.Config.Build
import TunnelLease.Proofs.Block.Canonical

/-!
# Fit configurations

A configuration that passes its check names one subnet for each block text, of which
there is at least one, the narrower family first and each family once, and every
reserved text denotes an address of one of these subnets.
-/

namespace TunnelLease

section Success

variable {ε ε' α β : Type}

theorem ok_of_bind {first : Except ε α} {next : α → Except ε β} {result : β}
    (succeeded : (first >>= next) = .ok result) :
    ∃ value, first = .ok value ∧ next value = .ok result := by
  cases first with
  | error cause => cases succeeded
  | ok value => exact ⟨value, rfl, succeeded⟩

theorem ok_of_map {first : Except ε α} {change : α → β} {result : β}
    (succeeded : first.map change = .ok result) :
    ∃ value, first = .ok value ∧ change value = result := by
  cases first with
  | error cause => cases succeeded
  | ok value => exact ⟨value, rfl, Except.ok.inj succeeded⟩

theorem ok_of_mapError {first : Except ε α} {rename : ε → ε'} {result : α}
    (succeeded : first.mapError rename = .ok result) : first = .ok result := by
  cases first with
  | error cause => cases succeeded
  | ok value => rw [Except.ok.inj succeeded]

theorem ok_of_mem_toOption {computed : Except ε α} {result : α}
    (succeeded : result ∈ computed.toOption) : computed = .ok result := by
  cases computed with
  | error cause => cases succeeded
  | ok value => rw [Option.some.inj succeeded]

end Success

namespace Block

/-- The text is read as the subnet, whatever the limit on listing it. -/
def Denotes (text : String) (subnet : Subnet) : Prop :=
  ∀ limit, ofText text limit = .ok ⟨some subnet, limit⟩

theorem denotes_of_ofText {text : String} {limit : Int} {block : Block} {subnet : Subnet}
    (read : ofText text limit = .ok block) (configured : block.subnet = some subnet) :
    Denotes text subnet := by
  rcases ofText_eq_ok_iff.mp read with ⟨_, rfl⟩ | ⟨found, isSubnet, rfl⟩
  · cases configured
  · cases configured
    exact ofText_of_subnet isSubnet

theorem require_eq_ok {text : String} {family : Family} {block : Block}
    (required : require text (some (family.version : Int)) = .ok block) :
    ∃ subnet, block.subnet = some subnet ∧ Denotes text subnet ∧ subnet.family = family := by
  unfold require at required
  split at required
  next => cases required
  next found read =>
    split at required
    next => cases required
    next subnet configured =>
      dsimp only at required
      split at required
      next sameVersion =>
        cases Except.ok.inj required
        refine ⟨subnet, configured, denotes_of_ofText read configured, ?_⟩
        cases family <;> cases isFamily : subnet.family <;>
          simp [Family.version, isFamily] at sameVersion ⊢
      next => cases required

end Block

theorem Address.ofLiteral_eq_ok_iff {written : Literal} {address : Address} :
    ofLiteral written = .ok address ↔ ofLiteral? written = some address := by
  rw [ofLiteral]
  cases ofLiteral? written <;> simp

theorem Address.requireAll_eq_ok {texts : List String} {addresses : List Address}
    (required : requireAll (texts.map Literal.text) = .ok addresses) :
    List.Forall₂ (fun text address => ofLiteral? (.text text) = some address)
      texts addresses := by
  induction texts generalizing addresses with
  | nil =>
      rw [← Except.ok.inj required]
      exact List.Forall₂.nil
  | cons text texts ih =>
      rw [List.map_cons, requireAll] at required
      split at required
      next => cases required
      next address read =>
        obtain ⟨later, rest, rfl⟩ := ok_of_map required
        exact List.Forall₂.cons read (ih rest)

namespace Config

/-- What a fit configuration means: the subnets that its block texts denote and the
addresses that its reserved texts denote. -/
structure Means (config : Config) (subnets : List Subnet) (reserved : List Address) : Prop where
  limit : 1 ≤ config.limit
  configured : subnets ≠ []
  denoted : List.Forall₂ Block.Denotes config.blockTexts subnets
  families : subnets.Pairwise fun first second => first.family = .v4 ∧ second.family = .v6
  spelled : List.Forall₂ (fun text address => Address.ofLiteral? (.text text) = some address)
    config.reserved reserved
  inside : ∀ address ∈ reserved, ∃ subnet ∈ subnets, subnet.contains address = true

theorem Means.spelled_ok {config : Config} {subnets : List Subnet} {reserved : List Address}
    (means : config.Means subnets reserved) :
    List.Forall₂ (fun text address => Address.ofLiteral (.text text) = .ok address)
      config.reserved reserved :=
  means.spelled.imp fun _ _ => Address.ofLiteral_eq_ok_iff.mpr

/-- A family has at most one block, the one that its text denotes. -/
theorem familyBlock_eq_ok {text : String} {family : Family} {blocks : List Block}
    (read : familyBlock text family = .ok blocks) :
    ∃ subnets : List Subnet, blocks.map Block.subnet = subnets.map some ∧
      List.Forall₂ Block.Denotes ([text].filter (· ≠ "")) subnets ∧
      (∀ subnet ∈ subnets, subnet.family = family) ∧ subnets.length ≤ 1 := by
  unfold familyBlock at read
  split at read
  next isBlank =>
    rw [← Except.ok.inj read]
    refine ⟨[], rfl, ?_, ?_, Nat.zero_le 1⟩
    · simp [isBlank]
    · intro subnet none
      cases none
  next written =>
    obtain ⟨block, required, rfl⟩ := ok_of_map read
    obtain ⟨subnet, configured, denotes, ofFamily⟩ := Block.require_eq_ok required
    refine ⟨[subnet], by simp [configured], ?_, ?_, Nat.le_refl 1⟩
    · simpa [written] using denotes
    · intro other member
      rw [List.mem_singleton.mp member]
      exact ofFamily

theorem inside_of_checkInside {blocks : List Block} {addresses : List Address}
    (checked : checkInside blocks addresses = .ok ()) :
    ∀ address ∈ addresses, ∃ block ∈ blocks, block.contains address = true := by
  induction addresses with
  | nil =>
      intro address none
      cases none
  | cons first addresses ih =>
      unfold checkInside at checked
      split at checked
      next found =>
        intro address member
        rcases List.mem_cons.mp member with rfl | later
        · exact List.any_eq_true.mp found
        · exact ih checked address later
      next => cases checked

/-- A configuration that passes its check leaves not both families out, and the blocks and
the reserved addresses pass theirs. -/
theorem check_eq_ok {config : Config} (fit : config.check = .ok ()) :
    ¬ (config.ipv4 = "" ∧ config.ipv6 = "") ∧ 1 ≤ config.limit ∧
      ∃ narrow wide reserved, familyBlock config.ipv4 .v4 = .ok narrow ∧
        familyBlock config.ipv6 .v6 = .ok wide ∧
        Address.requireAll (config.reserved.map Literal.text) = .ok reserved ∧
        checkInside (narrow ++ wide) reserved = .ok () := by
  unfold check at fit
  split at fit
  next => cases fit
  next written =>
    split at fit
    next => cases fit
    next positive =>
      have checked : config.checkFit = .ok () := ok_of_mapError fit
      obtain ⟨narrow, isNarrow, checked⟩ := ok_of_bind checked
      obtain ⟨wide, isWide, checked⟩ := ok_of_bind checked
      obtain ⟨reserved, isReserved, inside⟩ := ok_of_bind checked
      exact ⟨written, by omega, narrow, wide, reserved, isNarrow, isWide, isReserved, inside⟩

/-- Every configuration that passes its check has a meaning. -/
theorem exists_means_of_check {config : Config} (fit : config.check = .ok ()) :
    ∃ subnets reserved, config.Means subnets reserved := by
  obtain ⟨written, positive, narrow, wide, reserved, isNarrow, isWide, isReserved, inside⟩ :=
    check_eq_ok fit
  obtain ⟨v4, narrowBlocks, narrowTexts, narrowFamily, narrowSingle⟩ :=
    familyBlock_eq_ok isNarrow
  obtain ⟨v6, wideBlocks, wideTexts, wideFamily, wideSingle⟩ := familyBlock_eq_ok isWide
  have texts : config.blockTexts =
      [config.ipv4].filter (· ≠ "") ++ [config.ipv6].filter (· ≠ "") := by
    rw [← List.filter_append]
    rfl
  have denoted : List.Forall₂ Block.Denotes config.blockTexts (v4 ++ v6) := by
    rw [texts]
    exact List.rel_append narrowTexts wideTexts
  have pairwise {subnets : List Subnet} (single : subnets.length ≤ 1) :
      subnets.Pairwise fun first second => first.family = .v4 ∧ second.family = .v6 := by
    match subnets, single with
    | [], _ => exact List.Pairwise.nil
    | [subnet], _ => exact List.pairwise_singleton _ subnet
  refine ⟨v4 ++ v6, reserved, positive, ?_, denoted, ?_,
    Address.requireAll_eq_ok isReserved, ?_⟩
  · intro isNone
    rw [isNone, texts, List.forall₂_nil_right_iff] at denoted
    apply written
    simpa using denoted
  · refine List.pairwise_append.mpr ⟨pairwise narrowSingle, pairwise wideSingle, ?_⟩
    intro first inNarrow second inWide
    exact ⟨narrowFamily first inNarrow, wideFamily second inWide⟩
  · intro address member
    obtain ⟨block, isBlock, contains⟩ := inside_of_checkInside inside address member
    have isSubnet : block.subnet ∈ (v4 ++ v6).map some := by
      rw [List.map_append, ← narrowBlocks, ← wideBlocks, ← List.map_append]
      exact List.mem_map_of_mem isBlock
    obtain ⟨subnet, inSubnets, configured⟩ := List.mem_map.mp isSubnet
    refine ⟨subnet, inSubnets, ?_⟩
    rw [Block.contains, ← configured] at contains
    exact contains

end Config

end TunnelLease

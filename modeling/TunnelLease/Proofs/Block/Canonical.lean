import TunnelLease.Block.Parser
import TunnelLease.Proofs.Subnet.RoundTrip

/-!
# The canonical text of a block

However a block was spelled, its own text is the text of its address without the zone, and
the length in decimal.  What is read back from it is the same in everything that leaves
zones aside, and it is the same block exactly if no zone was written.  So blocks that were
written without zones are told apart by their texts.
-/

namespace TunnelLease

namespace Subnet

theorem network_value (subnet : Subnet) : subnet.network.value = subnet.base := by
  rw [network]
  split
  next same => exact same.symm
  next => rfl

end Subnet

namespace Block

theorem ofText_of_subnet {text : String} {subnet : Subnet}
    (isSubnet : Subnet.ofText? text = some subnet) (limit : Int) :
    ofText text limit = .ok ⟨some subnet, limit⟩ := by
  have slashed := Subnet.slash_mem_of_ofText? isSubnet
  have written : text ≠ "" := by
    rintro rfl
    cases slashed
  rw [ofText, if_neg written, if_neg (not_not_intro slashed), isSubnet]

/-- A text is read as the empty block if it is empty, and else as the block of its subnet. -/
theorem ofText_eq_ok_iff {text : String} {limit : Int} {block : Block} :
    ofText text limit = .ok block ↔
      (text = "" ∧ block = ⟨none, limit⟩) ∨
        ∃ subnet, Subnet.ofText? text = some subnet ∧ block = ⟨some subnet, limit⟩ := by
  constructor
  · intro read
    rw [ofText] at read
    split at read
    next isEmpty => exact Or.inl ⟨isEmpty, (Except.ok.inj read).symm⟩
    next =>
      split at read
      next => cases read
      next =>
        split at read
        next subnet isSubnet => exact Or.inr ⟨subnet, isSubnet, (Except.ok.inj read).symm⟩
        next => cases read
  · rintro (⟨rfl, rfl⟩ | ⟨subnet, isSubnet, rfl⟩)
    · rfl
    · exact ofText_of_subnet isSubnet limit

/-- Reading that is not strict does not look at the size. -/
theorem read_text_eq_ok_iff {text : String} {limit : Int} {block : Block} :
    read (.text text) limit false = .ok block ↔ ofText text limit = .ok block := by
  rw [read, ofLiteral]
  cases ofText text limit with
  | error cause => simp
  | ok found => simp

/-- What a comparison of two blocks looks at: the limits and, where there are subnets, the
addresses as they were written, zone included, the lengths and the network addresses. -/
def Alike (first second : Block) : Prop :=
  first.limit = second.limit ∧
    match first.subnet, second.subnet with
    | none, none => True
    | some left, some right =>
        left.written = right.written ∧ left.length = right.length ∧ left.network = right.network
    | _, _ => False

theorem eq_iff_alike (first second : Block) : first = second ↔ first.Alike second := by
  constructor
  · rintro rfl
    refine ⟨rfl, ?_⟩
    cases first.subnet with
    | none => trivial
    | some subnet => exact ⟨rfl, rfl, rfl⟩
  · obtain ⟨left, limit⟩ := first
    obtain ⟨right, other⟩ := second
    rintro ⟨sameLimit, same⟩
    cases left with
    | none =>
        cases right with
        | none => exact Block.ext rfl sameLimit
        | some right => cases same
    | some left =>
        cases right with
        | none => cases same
        | some right => exact Block.ext (congrArg some (Subnet.ext same.1 same.2.1)) sameLimit

/-- A block whose text has no zone is read back from its own text. -/
theorem ofText_text {text : String} {limit : Int} {block : Block}
    (read : ofText text limit = .ok block) (unzoned : '%' ∉ text.toList) :
    ofText block.text limit = .ok block := by
  rcases ofText_eq_ok_iff.mp read with ⟨_, rfl⟩ | ⟨subnet, isSubnet, rfl⟩
  · rfl
  · have plain := (Subnet.zone_eq_none_iff isSubnet).mpr unzoned
    have again := ofText_of_subnet subnet.ofText?_text limit
    rwa [subnet.withoutZone_eq_self_iff.mpr plain] at again

/-- The own text of a block is read as a block that looks the same.  It is the same block
exactly if the text that was read has no zone. -/
theorem own_text_canonical (limit : Int) :
    (∀ first second : Block, first = second ↔ first.Alike second) ∧
      (∀ (text : String) (block : Block) (subnet : Subnet),
        read (.text text) limit false = .ok block → block.subnet = some subnet →
          ∃ again other, read (.text block.text) limit false = .ok again ∧
            again.subnet = some other ∧
            other.family = subnet.family ∧ other.own = subnet.own ∧
            other.length = subnet.length ∧ other.network.value = subnet.network.value ∧
            again.size = block.size ∧
            (∀ address, again.contains address = block.contains address) ∧
            (∀ written, again.containsLiteral written = block.containsLiteral written) ∧
            again.text = block.text ∧
            (again = block ↔ '%' ∉ text.toList)) ∧
      ∀ (firstText secondText : String) (first second : Block),
        read (.text firstText) limit false = .ok first →
          read (.text secondText) limit false = .ok second →
          '%' ∉ firstText.toList → '%' ∉ secondText.toList →
            (first = second ↔ first.text = second.text) := by
  refine ⟨eq_iff_alike, ?_, ?_⟩
  · intro text block subnet isRead configured
    rcases ofText_eq_ok_iff.mp (read_text_eq_ok_iff.mp isRead) with
      ⟨_, rfl⟩ | ⟨found, isSubnet, rfl⟩
    · cases configured
    · cases configured
      have again := ofText_of_subnet subnet.ofText?_text limit
      refine ⟨⟨some subnet.withoutZone, limit⟩, subnet.withoutZone,
        read_text_eq_ok_iff.mpr again, rfl, rfl, rfl, rfl, ?_, rfl, fun _ => rfl, fun _ => rfl,
        rfl, ?_⟩
      · rw [Subnet.network_value, Subnet.network_value]
        rfl
      · rw [Block.mk.injEq, Option.some.injEq, subnet.withoutZone_eq_self_iff,
          Subnet.zone_eq_none_iff isSubnet]
        exact and_iff_left rfl
  · intro firstText secondText first second firstRead secondRead firstPlain secondPlain
    refine ⟨congrArg Block.text, ?_⟩
    intro sameText
    have firstAgain := ofText_text (read_text_eq_ok_iff.mp firstRead) firstPlain
    have secondAgain := ofText_text (read_text_eq_ok_iff.mp secondRead) secondPlain
    rw [sameText] at firstAgain
    exact Except.ok.inj (firstAgain.symm.trans secondAgain)

theorem isZoneName_eth0 : IsZoneName "eth0" := by
  decide

/-- The block that FE80:0::1%eth0/064 denotes. -/
def zonedBlock : Block where
  subnet := some
    ⟨⟨.v6, 0xfe80 * 2 ^ 112 + 1, some ⟨"eth0", isZoneName_eth0⟩, by decide, fun _ => rfl⟩, 64,
      by decide⟩
  limit := 1

/-- The block of 10.0.0.5 with a network part of 24 bits. -/
def plainBlock : Block where
  subnet := some ⟨⟨.v4, 0x0a000005, none, by decide, Address.unzoned_v6⟩, 24, by decide⟩
  limit := 1

/-- A block with a zone is not the same after it was read back.  A netmask and a hostmask
can be two spellings of one block. -/
theorem own_text_canonical_spelled :
    read (.text "FE80:0::1%eth0/064") 1 false = .ok zonedBlock ∧
      (∃ again, read (.text "fe80::1/64") 1 false = .ok again ∧
        again.text = "fe80::1/64" ∧ again ≠ zonedBlock) ∧
      read (.text "10.0.0.5/255.255.255.0") 1 false = .ok plainBlock ∧
      ∃ block, read (.text "10.0.0.5/0.0.0.255") 1 false = .ok block ∧ plainBlock = block := by
  obtain ⟨_, readBack, apart⟩ := own_text_canonical 1
  have isZoned : read (.text "FE80:0::1%eth0/064") 1 false = .ok zonedBlock := by
    decide +kernel
  have isNetmask : read (.text "10.0.0.5/255.255.255.0") 1 false = .ok plainBlock := by
    decide +kernel
  have isHostmask : read (.text "10.0.0.5/0.0.0.255") 1 false = .ok plainBlock := by
    decide +kernel
  have ownText : zonedBlock.text = "fe80::1/64" := by decide +kernel
  obtain ⟨again, _, isRead, _, _, _, _, _, _, _, _, sameText, same_iff⟩ :=
    readBack _ zonedBlock _ isZoned rfl
  rw [ownText] at isRead sameText
  refine ⟨isZoned, ⟨again, isRead, sameText, ?_⟩, isNetmask, plainBlock, isHostmask, ?_⟩
  · rw [Ne, same_iff]
    decide
  · exact (apart _ _ plainBlock plainBlock isNetmask isHostmask (by decide) (by decide)).mpr rfl

end Block

end TunnelLease

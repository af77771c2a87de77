import TunnelLease.Proofs.Address.RoundTrip
import TunnelLease.Subnet.Parser

/-!
# Reading subnets back

An address, a slash and the length in decimal are read as the subnet that they name,
whatever zone the address has.  A subnet's own text is written this way, but without the
zone, so what is read back from it is the subnet without its zone.  Whether a subnet has
a zone shows in the text that it was read from: a percent sign occurs only there.
-/

namespace TunnelLease

namespace Subnet

section Masks

theorem length?_toDigits {family : Family} {length : Nat} (fits : length ≤ family.width) :
    length? family (Nat.toDigits 10 length) = some length := by
  have decimal : decimalLength? family (Nat.toDigits 10 length) = some length := by
    have allDigits : (Nat.toDigits 10 length).all Text.isAsciiDigit = true := by
      rw [List.all_eq_true]
      exact fun c member => Text.isAsciiDigit_of_mem_toDigits member
    have small : length < 10 ^ 3 := by
      cases family <;> simp only [Family.width] at fits <;> omega
    have short : (Nat.toDigits 10 length).length ≤ 3 :=
      (Nat.length_toDigits_le_iff (by decide) (by decide)).mpr small
    have notLong : ¬ Text.numeralLimit < (Nat.toDigits 10 length).length := by
      rw [Text.numeralLimit]
      omega
    simp [decimalLength?, allDigits, notLong, Nat.ofDigitChars_toDigits, fits]
  cases family with
  | v4 => rw [length?, decimal, Option.some_or]
  | v6 => exact decimal

/-- A mask is written with digits and points only. -/
theorem percent_not_mem_of_length? {family : Family} {text : List Char} {length : Nat}
    (read : length? family text = some length) : '%' ∉ text := by
  intro percent
  have notDigits : text.all Text.isAsciiDigit = false := by
    rw [List.all_eq_false]
    exact ⟨'%', percent, by decide⟩
  have notDecimal (family : Family) : decimalLength? family text = none := by
    simp [decimalLength?, notDigits]
  have notDotted : dottedLength? text = none := by
    rw [dottedLength?, Address.quad?_eq_none_of_mem percent (by decide) (by decide)]
    rfl
  cases family with
  | v4 =>
      rw [length?, notDecimal, notDotted] at read
      cases read
  | v6 =>
      rw [length?, notDecimal] at read
      cases read

end Masks

/-- What was read as a subnet is an address, a slash and a mask. -/
theorem ofText?_eq_some {text : String} {subnet : Subnet} (read : ofText? text = some subnet) :
    ∃ addressText maskText, text.toList = addressText ++ '/' :: maskText ∧
      Address.ofChars? addressText = some subnet.written ∧
      length? subnet.family maskText = some subnet.length := by
  rw [ofText?] at read
  split at read
  next addressText maskText parts =>
    have joined : ['/'].intercalate [addressText, maskText] = text.toList := by
      rw [← parts]
      exact List.intercalate_splitOn '/'
    obtain ⟨written, isWritten, read⟩ := Option.bind_eq_some_iff.mp read
    obtain ⟨length, isLength, read⟩ := Option.bind_eq_some_iff.mp read
    rw [ofLength?] at read
    split at read
    next =>
      cases read
      refine ⟨addressText, maskText, ?_, isWritten, isLength⟩
      rw [← joined, List.intercalate_cons_cons, List.intercalate_singleton, List.append_assoc]
      rfl
    next => cases read
  next => cases read

theorem zone_eq_none_iff {text : String} {subnet : Subnet} (read : ofText? text = some subnet) :
    subnet.written.zone = none ↔ '%' ∉ text.toList := by
  obtain ⟨addressText, maskText, split, isWritten, isLength⟩ := ofText?_eq_some read
  rw [Address.zone_eq_none_iff isWritten, split, List.mem_append, List.mem_cons]
  simp [percent_not_mem_of_length? isLength]

theorem slash_mem_of_ofText? {text : String} {subnet : Subnet}
    (read : ofText? text = some subnet) : '/' ∈ text.toList := by
  obtain ⟨addressText, maskText, split, _⟩ := ofText?_eq_some read
  rw [split]
  exact List.mem_append_right _ List.mem_cons_self

/-- An address, a slash and a length in decimal are read as their subnet, zone included. -/
theorem ofText?_slashed (address : Address) {length : Nat}
    (fits : length ≤ address.family.width) :
    ofText? s!"{address.text}/{length}" = some ⟨address, length, fits⟩ := by
  have written : s!"{address.text}/{length}" = address.text ++ "/" ++ Nat.repr length := rfl
  have parts : s!"{address.text}/{length}".toList.splitOn '/' =
      [address.chars, Nat.toDigits 10 length] := by
    rw [written, String.toList_append, String.toList_append, Address.text, String.toList_ofList,
      Nat.toList_repr, List.append_assoc]
    change List.splitOn '/' (address.chars ++ '/' :: Nat.toDigits 10 length) = _
    rw [List.splitOn_append_cons_self_of_not_mem address.slash_not_mem_chars,
      List.splitOn_eq_singleton (Text.not_mem_toDigits_ten (by decide) _)]
  simp only [ofText?, parts, Address.ofChars?_chars, Option.bind_eq_bind, Option.bind_some,
    length?_toDigits fits]
  exact dif_pos fits

/-- The subnet with its own address written without the zone. -/
def withoutZone (subnet : Subnet) : Subnet where
  written := subnet.own
  length := subnet.length
  length_le := subnet.length_le

theorem withoutZone_eq_self_iff (subnet : Subnet) :
    subnet.withoutZone = subnet ↔ subnet.written.zone = none := by
  constructor
  · intro same
    exact (congrArg (fun other => other.written.zone) same).symm
  · intro unzoned
    exact Subnet.ext (Address.withoutZone_of_unzoned unzoned) rfl

/-- A subnet is read back from its text without its zone. -/
theorem ofText?_text (subnet : Subnet) : ofText? subnet.text = some subnet.withoutZone :=
  ofText?_slashed subnet.own subnet.length_le

end Subnet

end TunnelLease

import TunnelLease.Proofs.Block.Canonical
import TunnelLease.Proofs.Block.Members

/-!
# Host routes

The route to a host names every bit of its address.  It is read as a block, even under
the strictest limit, and the only value of that block is the host's.
-/

namespace TunnelLease

namespace Address

/-- The subnet of one address. -/
def host (address : Address) : Subnet where
  written := address
  length := address.family.width
  length_le := Nat.le_refl _

theorem ofText?_hostRoute (address : Address) :
    Subnet.ofText? address.hostRoute = some address.host :=
  Subnet.ofText?_slashed address (Nat.le_refl _)

@[simp]
theorem host_family (address : Address) : address.host.family = address.family :=
  rfl

@[simp]
theorem host_size (address : Address) : address.host.size = 1 := by
  simp [Subnet.size, Subnet.hostBits, host, Subnet.family]

theorem host_base (address : Address) : address.host.base = address.value := by
  rw [Subnet.base_eq, host_size, Nat.div_one, Nat.mul_one]
  rfl

/-- A host's subnet has the addresses with the host's value, whatever their zone. -/
theorem contains_host (address other : Address) : address.host.contains other = true ↔
    other.family = address.family ∧ other.value = address.value := by
  rw [Subnet.contains_iff, Subnet.stop, host_base, host_size, host_family]
  apply and_congr_right
  intro _
  omega

theorem read_hostRoute (address : Address) {limit : Int} (positive : 1 ≤ limit) :
    Block.read (.text address.hostRoute) limit true = .ok ⟨some address.host, limit⟩ := by
  have isBlock : Block.ofText address.hostRoute limit = .ok ⟨some address.host, limit⟩ :=
    Block.ofText_of_subnet address.ofText?_hostRoute limit
  have fits : Block.isOversized ⟨some address.host, limit⟩ = false := by
    simp only [Block.isOversized, Block.size, host_size]
    simpa using positive
  rw [Block.read, Block.ofLiteral, isBlock]
  simp [Block.isEmpty, Block.checkSize, fits, Except.map]

end Address

end TunnelLease

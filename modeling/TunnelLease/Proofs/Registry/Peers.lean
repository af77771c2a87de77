import TunnelLease.Proofs.Registry.Run

/-!
# The list of peers

Whatever becomes of the pools, no key is registered twice, and every peer has an address
for each position.  A peer is added only under a key that nobody has, with the addresses
of an acquisition that no pool refused, and otherwise peers are only forgotten.
-/

namespace TunnelLease

namespace Registry

variable {count : Nat}

/-- No key is registered twice, and every peer has an address for each position. -/
structure Orderly (registry : Registry count) : Prop where
  keys : (registry.peers.map Peer.key).Nodup
  lengths : ∀ peer ∈ registry.peers, peer.addresses.length = registry.positions.length

theorem key_ne_of_not_has {registry : Registry count} {key : PeerKey}
    (unregistered : registry.has key = false) {peer : Peer} (member : peer ∈ registry.peers) :
    peer.key ≠ key := by
  rw [has, Option.isSome_eq_false_iff, Option.isNone_iff_eq_none, lookup,
    List.find?_eq_none] at unregistered
  intro same
  exact unregistered peer member (beq_iff_eq.mpr same)

theorem leaseEach_complete {pools : Vector Pool count} {positions : List (Fin count)}
    (served : (leaseEach pools positions).refusal = none) :
    (leaseEach pools positions).taken.length = positions.length := by
  induction positions generalizing pools with
  | nil => rfl
  | cons position positions ih =>
      cases answer : (pools.get position).lease.answer with
      | error cause =>
          rw [leaseEach_of_error positions answer] at served
          cases served
      | ok address =>
          rw [leaseEach_of_ok positions answer] at served ⊢
          exact congrArg (· + 1) (ih served)

namespace Orderly

variable {registry : Registry count}

theorem transfer (orderly : Orderly registry) {changed : Registry count}
    (positions : changed.positions = registry.positions)
    (peers : changed.peers = registry.peers) : Orderly changed := by
  constructor
  · rw [peers]
    exact orderly.keys
  · rw [peers, positions]
    exact orderly.lengths

theorem acquire (orderly : Orderly registry) (key : PeerKey) :
    Orderly (registry.acquire key).state := by
  rcases acquire_cases registry key with ⟨_, refused⟩ | ⟨_, refused⟩ |
    ⟨_, unregistered, ⟨served, _, state⟩ | ⟨cause, _, state, _⟩⟩
  · rw [refused]
    exact orderly
  · rw [refused]
    exact orderly
  · rw [state]
    constructor
    · rw [List.map_append]
      refine List.nodup_append.mpr ⟨orderly.keys, List.nodup_singleton _, ?_⟩
      intro used isUsed new isNew
      obtain ⟨peer, member, rfl⟩ := List.mem_map.mp isUsed
      rw [List.mem_singleton.mp isNew]
      exact key_ne_of_not_has unregistered member
    · intro peer member
      rcases List.mem_append.mp member with before | isNew
      · exact orderly.lengths peer before
      · rw [List.mem_singleton.mp isNew]
        exact leaseEach_complete served
  · rw [state]
    exact orderly.transfer rfl rfl

theorem release (orderly : Orderly registry) (key : PeerKey) :
    Orderly (registry.release key).state := by
  rcases release_cases registry key with ⟨_, ignored⟩ |
    ⟨peer, _, ⟨_, _, state⟩ | ⟨violation, _, _, state⟩⟩
  · rw [ignored]
    exact orderly
  · rw [state]
    constructor
    · exact orderly.keys.sublist (List.filter_sublist.map Peer.key)
    · intro other member
      exact orderly.lengths other (List.mem_of_mem_filter member)
  · rw [state]
    exact orderly.transfer rfl rfl

theorem act (orderly : Orderly registry) (action : Action count) :
    Orderly (registry.act action).2 := by
  cases action with
  | acquire key => exact orderly.acquire key
  | release key => exact orderly.release key
  | lookup key => exact orderly
  | forEach visitor => exact orderly
  | onPool pool call => exact orderly.transfer rfl rfl

theorem after (orderly : Orderly registry) (actions : List (Action count)) :
    Orderly (registry.after actions) := by
  induction actions generalizing registry with
  | nil => exact orderly
  | cons action actions ih => exact ih (orderly.act action)

end Orderly

theorem overNew_orderly (blocks : Vector Block count) (positions : List (Fin count)) :
    Orderly (overNew blocks positions) := by
  constructor
  · exact List.nodup_nil
  · intro peer none
    cases none

end Registry

end TunnelLease

import TunnelLease.Proofs.Registry.Agreement

/-!
# Runs of the registry alone

As long as the pools are left to the registry, their reservations stay what they were
when the registry was opened, and their leases are those they had then together with
what the peers hold now, each once.  An acquisition that is refused has no part in this,
however far it got.  The pools may have been used in any way before.
-/

namespace TunnelLease

namespace Registry

variable {count : Nat}

/-- The action leaves the pools to the registry. -/
def Action.IsOwn : Action count → Prop
  | .onPool _ _ => False
  | _ => True

instance (action : Action count) : Decidable action.IsOwn :=
  match action with
  | .onPool _ _ => isFalse not_false
  | .acquire _ | .release _ | .lookup _ | .forEach _ => isTrue trivial

/-- The leases of every pool are those at the start and what the peers hold. -/
structure Balanced (start : Vector Pool count) (registry : Registry count) : Prop
    extends Orderly registry where
  invariant : ∀ pool : Fin count, (registry.pools.get pool).Invariant
  block : ∀ pool : Fin count, (registry.pools.get pool).block = (start.get pool).block
  reserved : ∀ pool : Fin count, (registry.pools.get pool).reserved = (start.get pool).reserved
  assigned : ∀ pool : Fin count, (registry.pools.get pool).assigned.Perm
    (addressesAt pool registry.holdings ++ (start.get pool).assigned)

theorem addressesAt_append (pool : Fin count) (first second : List (Fin count × Address)) :
    addressesAt pool (first ++ second) = addressesAt pool first ++ addressesAt pool second := by
  simp [addressesAt]

theorem addressesAt_perm (pool : Fin count) {first second : List (Fin count × Address)}
    (permuted : first.Perm second) :
    (addressesAt pool first).Perm (addressesAt pool second) :=
  (permuted.filter _).map _

theorem act_block (registry : Registry count) (action : Action count) (pool : Fin count) :
    ((registry.act action).2.pools.get pool).block = (registry.pools.get pool).block :=
  act_keeps (motive := fun index after => after.block = (registry.pools.get index).block)
    (fun _ before same => before.lease_block.trans same)
    (fun _ before address same => (before.putBack_block address).trans same)
    (fun _ before address same => (before.reserve_block address).trans same)
    (fun _ => rfl) action pool

namespace Balanced

variable {start : Vector Pool count} {registry : Registry count}

theorem holdings_nodup (balanced : Balanced start registry) : registry.holdings.Nodup := by
  apply nodup_of_addressesAt
  intro pool
  have distinct := (balanced.assigned pool).nodup_iff.mp (balanced.invariant pool).assigned_nodup
  exact (List.nodup_append.mp distinct).1

theorem assigned_of_held (balanced : Balanced start registry) {pool : Fin count}
    {address : Address} (held : (pool, address) ∈ registry.holdings) :
    address ∈ (registry.pools.get pool).assigned := by
  rw [(balanced.assigned pool).mem_iff, List.mem_append]
  exact Or.inl ((mem_addressesAt pool _ address).mpr held)

/-- Balance is about blocks, leases, reservations and peers only. -/
theorem transfer (balanced : Balanced start registry) {changed : Registry count}
    (invariant : ∀ pool : Fin count, (changed.pools.get pool).Invariant)
    (positions : changed.positions = registry.positions) (peers : changed.peers = registry.peers)
    (same : ∀ pool : Fin count,
      (changed.pools.get pool).block = (registry.pools.get pool).block ∧
        (changed.pools.get pool).reserved = (registry.pools.get pool).reserved ∧
        (changed.pools.get pool).assigned = (registry.pools.get pool).assigned) :
    Balanced start changed := by
  have holdings : changed.holdings = registry.holdings := by
    rw [Registry.holdings, Registry.holdings, positions, peers]
  refine ⟨balanced.toOrderly.transfer positions peers, invariant, ?_, ?_, ?_⟩
  · intro pool
    rw [(same pool).1]
    exact balanced.block pool
  · intro pool
    rw [(same pool).2.1]
    exact balanced.reserved pool
  · intro pool
    rw [(same pool).2.2, holdings]
    exact balanced.assigned pool

theorem acquire (balanced : Balanced start registry) (key : PeerKey) :
    Balanced start (registry.acquire key).state := by
  have invariant (pool : Fin count) : ((registry.acquire key).state.pools.get pool).Invariant :=
    act_invariant balanced.invariant (.acquire key) pool
  have block (pool : Fin count) : ((registry.acquire key).state.pools.get pool).block =
      (registry.pools.get pool).block := act_block registry (.acquire key) pool
  rcases acquire_cases registry key with ⟨_, refused⟩ | ⟨_, refused⟩ |
    ⟨_, _, ⟨_, _, state⟩ | ⟨cause, _, state, _⟩⟩
  · rw [refused]
    exact balanced
  · rw [refused]
    exact balanced
  · have leased := leaseEach_leased (fun pool => (balanced.invariant pool).range)
      registry.positions
    let own := registry.positions.zip (leaseEach registry.pools registry.positions).taken
    have holdings : (registry.acquire key).state.holdings = registry.holdings ++ own := by
      rw [state]
      simp [Registry.holdings, own]
    refine ⟨balanced.toOrderly.acquire key, invariant, ?_, ?_, ?_⟩
    · intro pool
      rw [block]
      exact balanced.block pool
    · intro pool
      rw [← balanced.reserved pool, state]
      exact (leased.drawn pool).reserved
    · intro pool
      rw [holdings, addressesAt_append, leased.taken pool, state]
      change (Vector.get (leaseEach registry.pools registry.positions).pools pool).assigned.Perm _
      rw [(leased.drawn pool).assigned, List.append_assoc]
      exact ((List.reverse_perm _).append (balanced.assigned pool)).trans
        (List.perm_append_comm_assoc _ _ _)
  · obtain ⟨_, restored⟩ := putBackEach_leaseEach balanced.invariant registry.positions key
    refine balanced.transfer invariant (by rw [state]) (by rw [state]) ?_
    intro pool
    refine ⟨block pool, ?_⟩
    rw [state]
    exact ⟨(restored pool).2.1, (restored pool).1⟩

theorem release (balanced : Balanced start registry) (key : PeerKey) :
    Balanced start (registry.release key).state := by
  have invariant (pool : Fin count) : ((registry.release key).state.pools.get pool).Invariant :=
    act_invariant balanced.invariant (.release key) pool
  have block (pool : Fin count) : ((registry.release key).state.pools.get pool).block =
      (registry.pools.get pool).block := act_block registry (.release key) pool
  rcases release_cases registry key with ⟨_, ignored⟩ | ⟨peer, found, _⟩
  · rw [ignored]
    exact balanced
  · obtain ⟨_, all, taken⟩ := release_of_held balanced.keys balanced.holdings_nodup
      (fun _ _ held => balanced.assigned_of_held held) found
    let own := registry.positions.zip peer.addresses
    let others := (registry.release key).state.holdings
    refine ⟨balanced.toOrderly.release key, invariant, ?_, ?_, ?_⟩
    · intro pool
      rw [block]
      exact balanced.block pool
    · intro pool
      rw [taken]
      exact balanced.reserved pool
    · intro pool
      have before := balanced.assigned pool
      have split := addressesAt_perm pool all
      rw [addressesAt_append] at split
      have distinct : (addressesAt pool own).Nodup :=
        (List.nodup_append.mp (split.nodup_iff.mp
          (List.nodup_append.mp (before.nodup_iff.mp
            (balanced.invariant pool).assigned_nodup)).1)).1
      -- What is given back stands among the leases in some order, so it is brought to the
      -- front in the order in which a drawing would have put it there.
      have reversed : (registry.pools.get pool).assigned.Perm
          ((addressesAt pool own).reverse ++
            (addressesAt pool others ++ (start.get pool).assigned)) := by
        rw [← List.append_assoc]
        exact before.trans
          ((split.trans ((List.reverse_perm _).symm.append_right _)).append_right _)
      rw [taken,
        ← Pool.diff_reverse_append distinct (addressesAt pool others ++ (start.get pool).assigned)]
      exact reversed.diff_right _

theorem act (balanced : Balanced start registry) {action : Action count}
    (own : action.IsOwn) : Balanced start (registry.act action).2 := by
  cases action with
  | acquire key => exact balanced.acquire key
  | release key => exact balanced.release key
  | lookup key => exact balanced
  | forEach visitor => exact balanced
  | onPool pool call => exact absurd own not_false

theorem after (balanced : Balanced start registry) {actions : List (Action count)}
    (own : ∀ action ∈ actions, action.IsOwn) : Balanced start (registry.after actions) := by
  induction actions generalizing registry with
  | nil => exact balanced
  | cons action actions ih =>
      have first := balanced.act (own action List.mem_cons_self)
      exact ih first fun later member => own later (List.mem_cons_of_mem _ member)

end Balanced

/-- Without peers the leases are those at the start. -/
theorem opened_balanced {pools : Vector Pool count}
    (invariant : ∀ pool : Fin count, (pools.get pool).Invariant)
    (positions : List (Fin count)) : Balanced pools ⟨pools, positions, []⟩ where
  invariant := invariant
  keys := List.nodup_nil
  lengths := fun _ none => nomatch none
  block := fun _ => rfl
  reserved := fun _ => rfl
  assigned := fun _ => List.Perm.refl _

/-- A registry is opened without peers over the pools at its positions, of which there
must be one. -/
theorem open?_eq_ok {pools : Vector Pool count} {positions : List (Fin count)}
    {registry : Registry count} (opened : open? pools positions = .ok registry) :
    positions ≠ [] ∧ registry = ⟨pools, positions, []⟩ := by
  unfold open? at opened
  split at opened
  next => cases opened
  next occupied =>
    refine ⟨?_, (Except.ok.inj opened).symm⟩
    rintro rfl
    exact occupied rfl

end Registry

end TunnelLease

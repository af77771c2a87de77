import Mathlib.Data.List.Pairwise
import TunnelLease.Proofs.Registry.Peers
import TunnelLease.Proofs.Registry.Rollback

/-!
# Registry and pools agree

As long as nobody returns behind the registry's back what a peer holds, the registry
and its pools agree: what a peer holds is leased by the pool at that position, no two
peers or positions hold the same address of a pool, and every lease of a pool is held
by a peer or was made behind the registry's back and has not been returned.  Then no
pool ever refuses what the registry puts back.
-/

namespace TunnelLease

namespace Registry

variable {count : Nat}

/-- The addresses that peers hold, each with its pool. -/
def holdings (registry : Registry count) : List (Fin count × Address) :=
  registry.peers.flatMap fun peer => registry.positions.zip peer.addresses

/-- A peer holds an address of a pool at a position. -/
def Holds (registry : Registry count) (peer : Peer) (position : Nat) (pool : Fin count)
    (address : Address) : Prop :=
  registry.positions[position]? = some pool ∧ peer.addresses[position]? = some address

/-- The pool leased the address to somebody other than the registry. -/
def IsDirectLease (pool : Fin count) (address : Address)
    (entry : Action count × Outcome) : Prop :=
  entry = (.onPool pool .lease, .called (.ok (.address address)))

/-- The pool took the address back from somebody other than the registry. -/
def IsDirectReturn (pool : Fin count) (address : Address)
    (entry : Action count × Outcome) : Prop :=
  ∃ argument, argument.read = .ok address ∧
    entry = (.onPool pool (.putBack argument), .called (.ok .done))

/-- The address was leased behind the registry's back and not yet put back. -/
def LeasedDirectly (pool : Fin count) (address : Address)
    (history : List (Action count × Outcome)) : Prop :=
  StillOpen (IsDirectLease pool address) (IsDirectReturn pool address) history

/-- An action does not return behind the registry's back what a peer holds. -/
def Action.Respects (registry : Registry count) : Action count → Prop
  | .onPool pool (.putBack argument) =>
      ∀ address, argument.read = .ok address → (pool, address) ∉ registry.holdings
  | _ => True

/-- Every action of a run respects what peers hold at that moment. -/
def Respectful (registry : Registry count) : List (Action count) → Prop
  | [] => True
  | action :: actions => action.Respects registry ∧ Respectful (registry.act action).2 actions

instance (registry : Registry count) (holding : Fin count × Address) :
    Decidable (holding ∈ registry.holdings) :=
  inferInstance

instance (registry : Registry count) (action : Action count) :
    Decidable (action.Respects registry) :=
  match action with
  | .onPool pool (.putBack argument) =>
      match read : argument.read with
      | .ok address => decidable_of_iff ((pool, address) ∉ registry.holdings) (by
          simp [Action.Respects, read])
      | .error cause => isTrue (by simp [Action.Respects, read])
  | .onPool _ .lease | .onPool _ (.reserve _) => isTrue trivial
  | .acquire _ | .release _ | .lookup _ | .forEach _ => isTrue trivial

instance Respectful.decidable (registry : Registry count) :
    (actions : List (Action count)) → Decidable (Respectful registry actions)
  | [] => isTrue trivial
  | action :: actions =>
      have := Respectful.decidable (registry.act action).2 actions
      inferInstanceAs (Decidable (_ ∧ _))

/-- What the registry says of its peers is what the pools say of their leases. -/
structure Agreement (registry : Registry count) (history : List (Action count × Outcome)) :
    Prop where
  invariant : ∀ pool : Fin count, (registry.pools.get pool).Invariant
  keys : (registry.peers.map Peer.key).Nodup
  lengths : ∀ peer ∈ registry.peers, peer.addresses.length = registry.positions.length
  distinct : registry.holdings.Nodup
  held : ∀ pool address, (pool, address) ∈ registry.holdings →
    address ∈ (registry.pools.get pool).assigned
  direct : ∀ pool address, LeasedDirectly pool address history →
    address ∈ (registry.pools.get pool).assigned ∧ (pool, address) ∉ registry.holdings
  attributed : ∀ pool address, address ∈ (registry.pools.get pool).assigned →
    (pool, address) ∈ registry.holdings ∨ LeasedDirectly pool address history

theorem mem_zip_iff_holds (registry : Registry count) (peer : Peer) (pool : Fin count)
    (address : Address) : (pool, address) ∈ registry.positions.zip peer.addresses ↔
      ∃ position, registry.Holds peer position pool address := by
  simp only [List.mem_iff_getElem?, List.getElem?_zip_eq_some, Holds]

theorem mem_holdings (registry : Registry count) (pool : Fin count) (address : Address) :
    (pool, address) ∈ registry.holdings ↔
      ∃ peer ∈ registry.peers, ∃ position, registry.Holds peer position pool address := by
  simp only [holdings, List.mem_flatMap, mem_zip_iff_holds]

theorem lookup_split {registry : Registry count} (keys : (registry.peers.map Peer.key).Nodup)
    {key : PeerKey} {peer : Peer} (found : registry.lookup key = some peer) :
    ∃ before behind, registry.peers = before ++ peer :: behind ∧
      (registry.peers.filter fun other => other.key != key) = before ++ behind := by
  obtain ⟨isKey, before, behind, split, earlier⟩ := List.find?_eq_some_iff_append.mp found
  have sameKey : peer.key = key := eq_of_beq isKey
  rw [split, List.map_append, List.map_cons, List.nodup_middle, List.nodup_cons,
    ← List.map_append, List.mem_map] at keys
  refine ⟨before, behind, split, ?_⟩
  have others : ∀ other ∈ before ++ behind, (other.key != key) = true := by
    intro other member
    rw [bne_iff_ne]
    intro again
    exact keys.1 ⟨other, member, again.trans sameKey.symm⟩
  rw [split, List.filter_append, List.filter_cons, sameKey, bne_self_eq_false, if_neg (by simp),
    ← List.filter_append]
  exact List.filter_eq_self.mpr others

/-- What a registered peer holds stands apart from what the others hold. -/
theorem holdings_perm {registry : Registry count} (keys : (registry.peers.map Peer.key).Nodup)
    {key : PeerKey} {peer : Peer} (found : registry.lookup key = some peer) :
    registry.holdings.Perm (registry.positions.zip peer.addresses ++
      (registry.peers.filter fun other => other.key != key).flatMap fun other =>
        registry.positions.zip other.addresses) := by
  obtain ⟨before, behind, split, rest⟩ := lookup_split keys found
  rw [rest, holdings, split, List.flatMap_append, List.flatMap_cons, List.flatMap_append]
  exact List.perm_append_comm_assoc _ _ _

/-- A peer whose addresses are all leased is released, and they go back to their pools. -/
theorem release_of_held {registry : Registry count}
    (keys : (registry.peers.map Peer.key).Nodup) (distinct : registry.holdings.Nodup)
    (held : ∀ pool address, (pool, address) ∈ registry.holdings →
      address ∈ (registry.pools.get pool).assigned)
    {key : PeerKey} {peer : Peer} (found : registry.lookup key = some peer) :
    let own := registry.positions.zip peer.addresses
    (registry.release key).answer = .ok () ∧
      registry.holdings.Perm (own ++ (registry.release key).state.holdings) ∧
      ∀ pool : Fin count, (registry.release key).state.pools.get pool =
        (registry.pools.get pool).takeBack (addressesAt pool own) := by
  intro own
  have all := holdings_perm keys found
  have ownDistinct : own.Nodup := (List.nodup_append.mp (all.nodup_iff.mp distinct)).1
  have assigned (pool : Fin count) (address : Address) (isOwn : (pool, address) ∈ own) :
      address ∈ (registry.pools.get pool).assigned :=
    held pool address (all.mem_iff.mpr (List.mem_append_left _ isOwn))
  obtain ⟨returned, pools⟩ := putBackEach_of_assigned ownDistinct assigned key 0
  rcases release_cases registry key with ⟨unknown, _⟩ |
    ⟨other, isOther, ⟨_, answer, state⟩ | ⟨violation, refused, _⟩⟩
  · rw [found] at unknown
    cases unknown
  · cases found.symm.trans isOther
    refine ⟨answer, ?_, ?_⟩
    · rw [state]
      exact all
    · intro pool
      rw [state]
      exact pools pool
  · cases found.symm.trans isOther
    rw [returned] at refused
    cases refused

theorem leasedDirectly_concat_neutral {pool : Fin count} {address : Address}
    {history : List (Action count × Outcome)} {entry : Action count × Outcome}
    (notLease : ¬ IsDirectLease pool address entry)
    (notReturn : ¬ IsDirectReturn pool address entry) :
    LeasedDirectly pool address (history ++ [entry]) ↔ LeasedDirectly pool address history := by
  rw [LeasedDirectly, stillOpen_concat]
  constructor
  · rintro (isLease | ⟨_, before⟩)
    · exact absurd isLease notLease
    · exact before
  · intro before
    exact Or.inr ⟨notReturn, before⟩

theorem leasedDirectly_concat_other {pool : Fin count} {address : Address}
    {history : List (Action count × Outcome)} {action : Action count} {outcome : Outcome}
    (other : ∀ changed call, action ≠ .onPool changed call) :
    LeasedDirectly pool address (history ++ [(action, outcome)]) ↔
      LeasedDirectly pool address history := by
  apply leasedDirectly_concat_neutral
  · intro isLease
    exact other _ _ (congrArg Prod.fst isLease)
  · rintro ⟨argument, _, isReturn⟩
    exact other _ _ (congrArg Prod.fst isReturn)

theorem leasedDirectly_concat_lease {changed pool : Fin count} {new address : Address}
    {history : List (Action count × Outcome)} :
    LeasedDirectly pool address
        (history ++ [(.onPool changed .lease, .called (.ok (.address new)))]) ↔
      (pool = changed ∧ address = new) ∨ LeasedDirectly pool address history := by
  have isLease : IsDirectLease pool address
      (.onPool changed .lease, .called (.ok (.address new))) ↔
        pool = changed ∧ address = new := by
    simp [IsDirectLease, eq_comm]
  have notReturn : ¬ IsDirectReturn pool address
      (.onPool changed .lease, .called (.ok (.address new))) := by
    simp [IsDirectReturn]
  rw [LeasedDirectly, stillOpen_concat, isLease, and_iff_right notReturn]
  rfl

theorem leasedDirectly_concat_return {changed pool : Fin count} {argument : Argument}
    {back address : Address} {history : List (Action count × Outcome)}
    (read : argument.read = .ok back) :
    LeasedDirectly pool address
        (history ++ [(.onPool changed (.putBack argument), .called (.ok .done))]) ↔
      ¬ (pool = changed ∧ address = back) ∧ LeasedDirectly pool address history := by
  have notLease : ¬ IsDirectLease pool address
      (.onPool changed (.putBack argument), .called (.ok .done)) := by
    simp [IsDirectLease]
  have isReturn : IsDirectReturn pool address
      (.onPool changed (.putBack argument), .called (.ok .done)) ↔
        pool = changed ∧ address = back := by
    constructor
    · rintro ⟨other, otherRead, same⟩
      cases same
      rw [read] at otherRead
      exact ⟨rfl, (Except.ok.inj otherRead).symm⟩
    · rintro ⟨rfl, rfl⟩
      exact ⟨argument, read, rfl⟩
  rw [LeasedDirectly, stillOpen_concat, isReturn, or_iff_right notLease]
  rfl

namespace Agreement

theorem orderly {registry : Registry count} {history : List (Action count × Outcome)}
    (agreement : Agreement registry history) : Orderly registry :=
  ⟨agreement.keys, agreement.lengths⟩

/-- Agreement is about leases, peers and direct leases only. -/
theorem transfer {registry changed : Registry count}
    {history extended : List (Action count × Outcome)} (agreement : Agreement registry history)
    (invariant : ∀ pool : Fin count, (changed.pools.get pool).Invariant)
    (positions : changed.positions = registry.positions) (peers : changed.peers = registry.peers)
    (assigned : ∀ (pool : Fin count) (address : Address),
      address ∈ (changed.pools.get pool).assigned ↔ address ∈ (registry.pools.get pool).assigned)
    (direct : ∀ pool address, LeasedDirectly pool address extended ↔
      LeasedDirectly pool address history) : Agreement changed extended := by
  have holdings : changed.holdings = registry.holdings := by
    rw [Registry.holdings, Registry.holdings, positions, peers]
  have stillOrderly := agreement.orderly.transfer positions peers
  refine ⟨invariant, stillOrderly.keys, stillOrderly.lengths, ?_, ?_, ?_, ?_⟩
  · rw [holdings]
    exact agreement.distinct
  · intro pool address isHeld
    rw [holdings] at isHeld
    exact (assigned pool address).mpr (agreement.held pool address isHeld)
  · intro pool address leased
    rw [assigned, holdings]
    exact agreement.direct pool address ((direct pool address).mp leased)
  · intro pool address isAssigned
    rw [holdings, direct]
    exact agreement.attributed pool address ((assigned pool address).mp isAssigned)

/-- Releasing a peer succeeds and takes exactly its holdings from the leases. -/
theorem release {registry : Registry count} {history : List (Action count × Outcome)}
    (agreement : Agreement registry history) (key : PeerKey) :
    (registry.release key).answer = .ok () ∧
      Agreement (registry.release key).state
        (history ++ [(.release key, .released (registry.release key).answer)]) := by
  have direct (outcome : Outcome) (pool : Fin count) (address : Address) :
      LeasedDirectly pool address (history ++ [(.release key, outcome)]) ↔
        LeasedDirectly pool address history :=
    leasedDirectly_concat_other (by simp)
  rcases release_cases registry key with ⟨_, ignored⟩ | ⟨peer, found, _⟩
  · rw [ignored]
    exact ⟨rfl, agreement.transfer agreement.invariant rfl rfl (fun _ _ => Iff.rfl) (direct _)⟩
  · obtain ⟨answer, all, pools⟩ :=
      release_of_held agreement.keys agreement.distinct agreement.held found
    let own := registry.positions.zip peer.addresses
    obtain ⟨_, othersDistinct, apart⟩ :=
      List.nodup_append.mp (all.nodup_iff.mp agreement.distinct)
    have invariant (pool : Fin count) : ((registry.release key).state.pools.get pool).Invariant :=
      act_invariant agreement.invariant (.release key) pool
    have stillAssigned (pool : Fin count) (address : Address) :
        address ∈ ((registry.release key).state.pools.get pool).assigned ↔
          address ∈ (registry.pools.get pool).assigned ∧ (pool, address) ∉ own := by
      rw [pools]
      change address ∈ (registry.pools.get pool).assigned.diff (addressesAt pool own) ↔ _
      rw [(agreement.invariant pool).assigned_nodup.mem_sdiff_iff, mem_addressesAt]
    have stillOrderly := agreement.orderly.release key
    refine ⟨answer, invariant, stillOrderly.keys, stillOrderly.lengths, othersDistinct,
      ?_, ?_, ?_⟩
    · intro pool address isHeld
      refine (stillAssigned pool address).mpr ⟨?_, ?_⟩
      · exact agreement.held pool address (all.mem_iff.mpr (List.mem_append_right _ isHeld))
      · intro isOwn
        exact apart _ isOwn _ isHeld rfl
    · intro pool address leased
      obtain ⟨isAssigned, unheld⟩ :=
        agreement.direct pool address ((direct _ pool address).mp leased)
      rw [all.mem_iff, List.mem_append, not_or] at unheld
      rw [stillAssigned]
      exact ⟨⟨isAssigned, unheld.1⟩, unheld.2⟩
    · intro pool address isAssigned
      obtain ⟨isAssigned, notOwn⟩ := (stillAssigned pool address).mp isAssigned
      rw [direct]
      rcases agreement.attributed pool address isAssigned with isHeld | leased
      · rw [all.mem_iff, List.mem_append] at isHeld
        exact Or.inl (isHeld.resolve_left notOwn)
      · exact Or.inr leased

/-- An acquisition, answered or refused, does not find the pools in disagreement, and
what it adds to the leases is what the new peer holds. -/
theorem acquire {registry : Registry count} {history : List (Action count × Outcome)}
    (agreement : Agreement registry history) (key : PeerKey) :
    Agreement (registry.acquire key).state
      (history ++ [(.acquire key, .acquired (registry.acquire key).answer)]) := by
  have direct (outcome : Outcome) (pool : Fin count) (address : Address) :
      LeasedDirectly pool address (history ++ [(.acquire key, outcome)]) ↔
        LeasedDirectly pool address history :=
    leasedDirectly_concat_other (by simp)
  have invariant (pool : Fin count) : ((registry.acquire key).state.pools.get pool).Invariant :=
    act_invariant agreement.invariant (.acquire key) pool
  rcases acquire_cases registry key with ⟨_, refused⟩ | ⟨_, refused⟩ |
    ⟨_, _, ⟨_, _, state⟩ | ⟨cause, _, state, _⟩⟩
  · rw [refused]
    exact agreement.transfer agreement.invariant rfl rfl (fun _ _ => Iff.rfl) (direct _)
  · rw [refused]
    exact agreement.transfer agreement.invariant rfl rfl (fun _ _ => Iff.rfl) (direct _)
  · have leased := leaseEach_leased (fun pool => (agreement.invariant pool).range)
      registry.positions
    let own := registry.positions.zip (leaseEach registry.pools registry.positions).taken
    have assigned (pool : Fin count) (address : Address) :
        address ∈ ((registry.acquire key).state.pools.get pool).assigned ↔
          (pool, address) ∈ own ∨ address ∈ (registry.pools.get pool).assigned := by
      rw [state]
      exact leased.mem_assigned pool address
    have holdings : (registry.acquire key).state.holdings = registry.holdings ++ own := by
      rw [state]
      simp [Registry.holdings, own]
    have stillOrderly := agreement.orderly.acquire key
    refine ⟨invariant, stillOrderly.keys, stillOrderly.lengths, ?_, ?_, ?_, ?_⟩
    · rw [holdings]
      refine List.nodup_append.mpr
        ⟨agreement.distinct, leased.distinct agreement.invariant, ?_⟩
      rintro ⟨pool, address⟩ isHeld _ isOwn rfl
      exact leased.unassigned agreement.invariant isOwn (agreement.held pool address isHeld)
    · intro pool address isHeld
      rw [holdings, List.mem_append] at isHeld
      rw [assigned]
      rcases isHeld with before | isOwn
      · exact Or.inr (agreement.held pool address before)
      · exact Or.inl isOwn
    · intro pool address isDirect
      obtain ⟨isAssigned, free⟩ :=
        agreement.direct pool address ((direct _ pool address).mp isDirect)
      rw [holdings, assigned, List.mem_append, not_or]
      refine ⟨Or.inr isAssigned, free, ?_⟩
      intro isOwn
      exact leased.unassigned agreement.invariant isOwn isAssigned
    · intro pool address isAssigned
      rw [holdings, List.mem_append, direct]
      rcases (assigned pool address).mp isAssigned with isOwn | before
      · exact Or.inl (Or.inr isOwn)
      · rcases agreement.attributed pool address before with isHeld | isDirect
        · exact Or.inl (Or.inl isHeld)
        · exact Or.inr isDirect
  · obtain ⟨_, restored⟩ := putBackEach_leaseEach agreement.invariant registry.positions key
    refine agreement.transfer invariant ?_ ?_ ?_ (direct _)
    · rw [state]
    · rw [state]
    · intro pool address
      rw [state]
      simp only [(restored pool).1]

section DirectCalls

variable {registry changed : Registry count} {history : List (Action count × Outcome)}
  {target : Fin count}

/-- A direct lease of an address that was not leased adds to the direct leases. -/
theorem leased (agreement : Agreement registry history) {new : Address}
    (invariant : ∀ pool : Fin count, (changed.pools.get pool).Invariant)
    (positions : changed.positions = registry.positions) (peers : changed.peers = registry.peers)
    (unassigned : new ∉ (registry.pools.get target).assigned)
    (assigned : ∀ (pool : Fin count) (address : Address),
      address ∈ (changed.pools.get pool).assigned ↔
        (pool = target ∧ address = new) ∨ address ∈ (registry.pools.get pool).assigned) :
    Agreement changed
      (history ++ [(.onPool target .lease, .called (.ok (.address new)))]) := by
  have holdings : changed.holdings = registry.holdings := by
    rw [Registry.holdings, Registry.holdings, positions, peers]
  refine ⟨invariant, peers ▸ agreement.keys, positions ▸ peers ▸ agreement.lengths,
    holdings ▸ agreement.distinct, ?_, ?_, ?_⟩
  · intro pool address isHeld
    rw [holdings] at isHeld
    exact (assigned pool address).mpr (Or.inr (agreement.held pool address isHeld))
  · intro pool address isDirect
    rw [assigned, holdings]
    rcases leasedDirectly_concat_lease.mp isDirect with ⟨rfl, rfl⟩ | before
    · refine ⟨Or.inl ⟨rfl, rfl⟩, ?_⟩
      intro isHeld
      exact unassigned (agreement.held _ _ isHeld)
    · obtain ⟨isAssigned, unheld⟩ := agreement.direct pool address before
      exact ⟨Or.inr isAssigned, unheld⟩
  · intro pool address isAssigned
    rw [holdings, leasedDirectly_concat_lease]
    rcases (assigned pool address).mp isAssigned with isNew | before
    · exact Or.inr (Or.inl isNew)
    · rcases agreement.attributed pool address before with isHeld | isDirect
      · exact Or.inl isHeld
      · exact Or.inr (Or.inr isDirect)

/-- A direct return of an address that no peer holds takes from the direct leases. -/
theorem returned (agreement : Agreement registry history) {argument : Argument}
    {back : Address} (read : argument.read = .ok back)
    (invariant : ∀ pool : Fin count, (changed.pools.get pool).Invariant)
    (positions : changed.positions = registry.positions) (peers : changed.peers = registry.peers)
    (unheld : (target, back) ∉ registry.holdings)
    (assigned : ∀ (pool : Fin count) (address : Address),
      address ∈ (changed.pools.get pool).assigned ↔
        ¬ (pool = target ∧ address = back) ∧ address ∈ (registry.pools.get pool).assigned) :
    Agreement changed
      (history ++ [(.onPool target (.putBack argument), .called (.ok .done))]) := by
  have holdings : changed.holdings = registry.holdings := by
    rw [Registry.holdings, Registry.holdings, positions, peers]
  refine ⟨invariant, peers ▸ agreement.keys, positions ▸ peers ▸ agreement.lengths,
    holdings ▸ agreement.distinct, ?_, ?_, ?_⟩
  · intro pool address isHeld
    rw [holdings] at isHeld
    refine (assigned pool address).mpr ⟨?_, agreement.held pool address isHeld⟩
    rintro ⟨rfl, rfl⟩
    exact unheld isHeld
  · intro pool address isDirect
    obtain ⟨notBack, before⟩ := (leasedDirectly_concat_return read).mp isDirect
    obtain ⟨isAssigned, free⟩ := agreement.direct pool address before
    exact ⟨(assigned pool address).mpr ⟨notBack, isAssigned⟩, holdings ▸ free⟩
  · intro pool address isAssigned
    obtain ⟨notBack, before⟩ := (assigned pool address).mp isAssigned
    rw [holdings, leasedDirectly_concat_return read]
    rcases agreement.attributed pool address before with isHeld | isDirect
    · exact Or.inl isHeld
    · exact Or.inr ⟨notBack, isDirect⟩

end DirectCalls

/-- A call of a pool behind the registry's back changes the direct leases only, unless
it returns what a peer holds. -/
theorem onPool {registry : Registry count} {history : List (Action count × Outcome)}
    (agreement : Agreement registry history) (target : Fin count) (call : Pool.Call)
    (respects : (Action.onPool target call).Respects registry) :
    Agreement (registry.act (.onPool target call)).2
      (history ++ [(.onPool target call, (registry.act (.onPool target call)).1)]) := by
  let after := (registry.act (.onPool target call)).2
  have invariant : ∀ pool : Fin count, (after.pools.get pool).Invariant :=
    act_invariant agreement.invariant (.onPool target call)
  have outcome : (registry.act (.onPool target call)).1 =
      .called (((registry.pools.get target).call call).answer.mapError .refused) := rfl
  have pools (pool : Fin count) : after.pools.get pool =
      if target = pool then ((registry.pools.get target).call call).state
      else registry.pools.get pool :=
    get_set registry.pools _ target pool
  rw [outcome]
  rcases Pool.call_assigned (agreement.invariant target).range call with
    ⟨new, rfl, answer, leases⟩ | ⟨argument, back, rfl, read, answer, wasAssigned, leases⟩ |
    ⟨leases, silent⟩
  · rw [answer]
    refine agreement.leased invariant rfl rfl ?_ ?_
    · have distinct := (invariant target).assigned_nodup
      rw [pools, if_pos rfl, leases] at distinct
      exact (List.nodup_cons.mp distinct).1
    · intro pool address
      change address ∈ (after.pools.get pool).assigned ↔ _
      rw [pools]
      split
      next same =>
        subst same
        rw [leases, List.mem_cons, eq_self, true_and]
      next different =>
        rw [eq_comm] at different
        simp only [different, false_and, false_or]
  · rw [answer]
    refine agreement.returned read invariant rfl rfl (respects back read) ?_
    intro pool address
    change address ∈ (after.pools.get pool).assigned ↔ _
    rw [pools]
    split
    next same =>
      subst same
      rw [leases, (agreement.invariant _).assigned_nodup.mem_erase_iff, eq_self, true_and]
    next different =>
      rw [eq_comm] at different
      simp only [different, false_and, not_false_eq_true, true_and]
  · refine agreement.transfer invariant rfl rfl ?_ ?_
    · intro pool address
      change address ∈ (after.pools.get pool).assigned ↔ _
      rw [pools]
      split
      next same =>
        subst same
        rw [leases]
      next => exact Iff.rfl
    · intro pool address
      apply leasedDirectly_concat_neutral
      · intro isLease
        rcases silent with ⟨cause, refused⟩ | ⟨argument, rfl⟩
        · rw [refused] at isLease
          cases isLease
        · cases isLease
      · rintro ⟨argument, _, isReturn⟩
        rcases silent with ⟨cause, refused⟩ | ⟨argument, rfl⟩
        · rw [refused] at isReturn
          cases isReturn
        · cases isReturn

theorem act {registry : Registry count} {history : List (Action count × Outcome)}
    (agreement : Agreement registry history) (action : Action count)
    (respects : action.Respects registry) :
    Agreement (registry.act action).2 (history ++ [(action, (registry.act action).1)]) := by
  cases action with
  | acquire key => exact agreement.acquire key
  | release key => exact (agreement.release key).2
  | lookup key =>
      exact agreement.transfer agreement.invariant rfl rfl (fun _ _ => Iff.rfl)
        fun _ _ => leasedDirectly_concat_other (by simp)
  | forEach visitor =>
      exact agreement.transfer agreement.invariant rfl rfl (fun _ _ => Iff.rfl)
        fun _ _ => leasedDirectly_concat_other (by simp)
  | onPool changed call => exact agreement.onPool changed call respects

/-- Every run that respects what peers hold keeps the agreement. -/
theorem after {registry : Registry count} {history : List (Action count × Outcome)}
    (agreement : Agreement registry history) {actions : List (Action count)}
    (respectful : Respectful registry actions) :
    Agreement (registry.after actions) (history ++ registry.history actions) := by
  induction actions generalizing registry history with
  | nil =>
      rw [Registry.history, List.append_nil]
      exact agreement
  | cons action actions ih =>
      obtain ⟨first, rest⟩ := respectful
      have later := ih (agreement.act action first) rest
      rw [List.append_assoc] at later
      exact later

theorem unheld {registry : Registry count} {history : List (Action count × Outcome)}
    (agreement : Agreement registry history) {pool : Fin count} {address : Address}
    (leased : LeasedDirectly pool address history) {peer : Peer}
    (member : peer ∈ registry.peers) (position : Nat) :
    ¬ registry.Holds peer position pool address := by
  intro holds
  apply (agreement.direct pool address leased).2
  exact (mem_holdings registry pool address).mpr ⟨peer, member, position, holds⟩

theorem holder_unique {registry : Registry count} {history : List (Action count × Outcome)}
    (agreement : Agreement registry history) {first second : Peer}
    (firstMember : first ∈ registry.peers) (secondMember : second ∈ registry.peers)
    {firstPosition secondPosition : Nat} {pool : Fin count} {address : Address}
    (firstHolds : registry.Holds first firstPosition pool address)
    (secondHolds : registry.Holds second secondPosition pool address) :
    first = second ∧ firstPosition = secondPosition := by
  obtain ⟨each, apart⟩ := List.nodup_flatMap.mp agreement.distinct
  let held := fun peer : Peer => registry.positions.zip peer.addresses
  have : Std.Symm (Function.onFun List.Disjoint held) :=
    ⟨fun _ _ disjoint => List.disjoint_symm disjoint⟩
  have samePeer : first = second := by
    by_contra different
    have disjoint := apart.forall firstMember secondMember different
    exact disjoint ((mem_zip_iff_holds _ _ _ _).mpr ⟨firstPosition, firstHolds⟩)
      ((mem_zip_iff_holds _ _ _ _).mpr ⟨secondPosition, secondHolds⟩)
  subst samePeer
  refine ⟨rfl, ?_⟩
  have atFirst : (held first)[firstPosition]? = some (pool, address) :=
    List.getElem?_zip_eq_some.mpr firstHolds
  have atSecond : (held first)[secondPosition]? = some (pool, address) :=
    List.getElem?_zip_eq_some.mpr secondHolds
  obtain ⟨below, _⟩ := List.getElem?_eq_some_iff.mp atFirst
  exact (List.getElem?_inj below (each first firstMember)).mp (atFirst.trans atSecond.symm)

end Agreement

/-- Without peers and leases there is nothing to disagree about. -/
theorem overNew_agreement (blocks : Vector Block count) (positions : List (Fin count)) :
    Agreement (overNew blocks positions) [] := by
  have unassigned (pool : Fin count) :
      ((overNew blocks positions).pools.get pool).assigned = [] := by
    rw [get_overNew, Pool.ofBlock_assigned]
  constructor
  · intro pool
    rw [get_overNew]
    exact Pool.ofBlock_invariant _
  · exact List.nodup_nil
  · intro peer none
    cases none
  · exact List.nodup_nil
  · intro pool address none
    cases none
  · rintro pool address ⟨earlier, entry, later, split, _⟩
    simp at split
  · intro pool address isAssigned
    rw [unassigned] at isAssigned
    cases isAssigned

/-- As long as calls respect what peers hold, a pool has leased what peers hold of it and
what was leased directly, each once, and the registry finds no disagreement. -/
theorem after_agrees (blocks : Vector Block count) (positions : List (Fin count))
    (actions : List (Action count))
    (respectful : Respectful (overNew blocks positions) actions) :
    let registry := (overNew blocks positions).after actions
    let history := (overNew blocks positions).history actions
    ((registry.peers.map Peer.key).Nodup ∧
        ∀ peer ∈ registry.peers, peer.addresses.length = positions.length ∧
          ∀ (position : Nat) (pool : Fin count), positions[position]? = some pool →
            ∃ address, peer.addresses[position]? = some address ∧
              address ∈ (registry.pools.get pool).assigned ∧
              address ∉ (registry.pools.get pool).reserved) ∧
      (∀ first ∈ registry.peers, ∀ second ∈ registry.peers,
        ∀ firstPosition secondPosition pool address,
          registry.Holds first firstPosition pool address →
          registry.Holds second secondPosition pool address →
          first = second ∧ firstPosition = secondPosition) ∧
      (∀ (pool : Fin count) (address : Address), address ∈ (registry.pools.get pool).assigned →
        (∃! holder : Peer × Nat,
            holder.1 ∈ registry.peers ∧ registry.Holds holder.1 holder.2 pool address) ∨
          LeasedDirectly pool address history) ∧
      (∀ (pool : Fin count) (address : Address), LeasedDirectly pool address history →
        address ∈ (registry.pools.get pool).assigned ∧
          ∀ peer ∈ registry.peers, ∀ position : Nat,
            ¬ registry.Holds peer position pool address) ∧
      ∀ key, (∀ violation, (registry.acquire key).answer ≠ .error (.corrupted violation)) ∧
        (registry.release key).answer = .ok () := by
  intro registry history
  have agreement : Agreement registry history := by
    have kept := (overNew_agreement blocks positions).after respectful
    rw [List.nil_append] at kept
    exact kept
  have samePositions : registry.positions = positions := after_positions _ actions
  refine ⟨⟨agreement.keys, ?_⟩, ?_, ?_, ?_, ?_⟩
  · intro peer member
    have length := agreement.lengths peer member
    refine ⟨samePositions ▸ length, ?_⟩
    intro position pool atPosition
    rw [← samePositions] at atPosition
    obtain ⟨below, _⟩ := List.getElem?_eq_some_iff.mp atPosition
    have held : peer.addresses[position]? = some peer.addresses[position] :=
      List.getElem?_eq_getElem (by omega)
    have assigned := agreement.held pool _ ((mem_holdings registry pool _).mpr
      ⟨peer, member, position, ⟨atPosition, held⟩⟩)
    exact ⟨_, held, assigned, (agreement.invariant pool).assigned_reserved assigned⟩
  · intro first firstMember second secondMember firstPosition secondPosition pool address
      firstHolds secondHolds
    exact agreement.holder_unique firstMember secondMember firstHolds secondHolds
  · intro pool address isAssigned
    rcases agreement.attributed pool address isAssigned with isHeld | isDirect
    · left
      obtain ⟨peer, member, position, holds⟩ := (mem_holdings registry pool address).mp isHeld
      refine ⟨(peer, position), ⟨member, holds⟩, ?_⟩
      rintro ⟨other, otherPosition⟩ ⟨otherMember, otherHolds⟩
      exact Prod.ext_iff.mpr (agreement.holder_unique otherMember member otherHolds holds)
    · exact Or.inr isDirect
  · intro pool address isDirect
    refine ⟨(agreement.direct pool address isDirect).1, ?_⟩
    intro peer member position
    exact agreement.unheld isDirect member position
  · intro key
    exact ⟨acquire_uncorrupted agreement.invariant key, (agreement.release key).1⟩

/-- One address is leased and put back directly, another one stays out, and a peer takes
over the addresses of a peer that left. -/
def successionRun : List (Action 2) :=
  [.acquire (.text "first"), .onPool firstPool .lease, .onPool firstPool .lease,
    .onPool firstPool (.putBack (.given (smallAddress 4))), .release (.text "first"),
    .acquire (.text "second")]

theorem after_agrees_succession :
    let registry := (overNew smallBlocks smallPositions).after successionRun
    Respectful (overNew smallBlocks smallPositions) successionRun ∧
      registry.peers =
        [⟨.text "second", [smallAddress 4, smallAddress 2, smallAddress 258]⟩] ∧
      (registry.pools.get firstPool).assigned =
        [smallAddress 2, smallAddress 4, smallAddress 5] ∧
      LeasedDirectly firstPool (smallAddress 5)
        ((overNew smallBlocks smallPositions).history successionRun) ∧
      ∀ key, (registry.release key).answer = .ok () := by
  intro registry
  have respectful : Respectful (overNew smallBlocks smallPositions) successionRun := by
    decide +kernel
  have peers : registry.peers =
      [⟨.text "second", [smallAddress 4, smallAddress 2, smallAddress 258]⟩] := by
    decide +kernel
  have assigned : (registry.pools.get firstPool).assigned =
      [smallAddress 2, smallAddress 4, smallAddress 5] := by
    decide +kernel
  obtain ⟨_, _, attributed, _, consistent⟩ :=
    after_agrees smallBlocks smallPositions successionRun respectful
  refine ⟨respectful, peers, assigned, ?_, fun key => (consistent key).2⟩
  rcases attributed firstPool (smallAddress 5) (by rw [assigned]; decide) with
    ⟨holder, isHolder, _⟩ | isDirect
  · -- The only peer does not hold this address.
    obtain ⟨member, _, held⟩ := isHolder
    rw [peers, List.mem_singleton] at member
    rw [member] at held
    exact absurd (List.mem_of_getElem? held) (by decide)
  · exact isDirect

end Registry

end TunnelLease

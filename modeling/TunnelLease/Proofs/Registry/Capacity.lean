import TunnelLease.Proofs.Registry.Churn

/-!
# How many peers fit

An acquisition is served exactly if every pool can lease as many addresses as positions
name it.  While the pools are left to the registry, a pool can lease as many addresses
as at the start, less one for each peer and position.  So the number of peers that fit
does not depend on what happened before: it is the least quotient, over the pools, of
what the pool could lease at the start by the number of its positions.
-/

namespace TunnelLease

namespace Registry

variable {count : Nat}

/-- Leasing at each position is not refused exactly if no pool is named more often than
it can lease. -/
theorem served_iff {pools : Vector Pool count}
    (range : ∀ pool : Fin count, (pools.get pool).CursorInRange) (positions : List (Fin count)) :
    (leaseEach pools positions).refusal = none ↔
      ∀ pool ∈ positions, positions.count pool ≤ (pools.get pool).future.length := by
  have leased := leaseEach_leased range positions
  constructor
  · intro served pool _
    have enough := (leased.drawn pool).enough
    rw [leased.complete served, List.take_length] at enough
    exact enough
  · intro enough
    cases refusal : (leaseEach pools positions).refusal with
    | none => rfl
    | some cause =>
        obtain ⟨pool, atFailing, _, usedUp⟩ := leased.refused cause refusal
        obtain ⟨below, isPool⟩ := List.getElem?_eq_some_iff.mp atFailing
        -- The failing position names its pool once more than those before it do.
        have once : (positions.take (leaseEach pools positions).taken.length).count pool <
            positions.count pool := by
          rw [← isPool]
          exact List.count_getElem_take_lt_count
        have fits := enough pool (List.mem_of_getElem? atFailing)
        omega

theorem acquire_ok_iff {registry : Registry count}
    (invariant : ∀ pool : Fin count, (registry.pools.get pool).Invariant) {key : PeerKey}
    (named : key.isVoid = false) (unregistered : registry.has key = false) :
    (∃ addresses, (registry.acquire key).answer = .ok addresses) ↔
      ∀ pool ∈ registry.positions,
        registry.positions.count pool ≤ (registry.pools.get pool).future.length := by
  rw [← served_iff fun pool => (invariant pool).range]
  rcases acquire_cases registry key with ⟨isVoid, _⟩ | ⟨registered, _⟩ |
    ⟨_, _, ⟨served, answer, _⟩ | ⟨cause, refusal, _, outcome⟩⟩
  · rw [named] at isVoid
    cases isVoid
  · rw [unregistered] at registered
    cases registered
  · simp [answer, served]
  · rcases outcome with ⟨_, answer⟩ | ⟨violation, _, answer⟩
    · simp [answer, refusal]
    · simp [answer, refusal]

/-- Up to this place and including it, the pool there is named more often than it can
lease. -/
def RunsShort (pools : Vector Pool count) (positions : List (Fin count)) (place : Nat) : Prop :=
  ∃ pool, positions[place]? = some pool ∧
    (pools.get pool).future.length < (positions.take (place + 1)).count pool

/-- Leasing at each position is refused at the first place where a pool runs short. -/
theorem Leased.first_short {pools : Vector Pool count} {positions : List (Fin count)}
    {leasing : Leasing count} (leased : Leased pools positions leasing) {cause : Error}
    (refusal : leasing.refusal = some cause) :
    ∃ place pool, positions[place]? = some pool ∧
      cause = .exhausted (pools.get pool).block ∧ RunsShort pools positions place ∧
      ∀ earlier < place, ¬ RunsShort pools positions earlier := by
  obtain ⟨pool, atPlace, reason, usedUp⟩ := leased.refused cause refusal
  refine ⟨leasing.taken.length, pool, atPlace, reason, ⟨pool, atPlace, ?_⟩, ?_⟩
  · rw [usedUp, List.take_add_one, atPlace, List.count_append]
    simp
  · rintro earlier before ⟨other, _, short⟩
    -- What was drawn on another pool up to here is part of what was drawn in all.
    have part : (positions.take (earlier + 1)).count other ≤
        (positions.take leasing.taken.length).count other :=
      (List.take_sublist_take_left before).count_le other
    have enough := (leased.drawn other).enough
    omega

/-- Once a key can be registered, only a pool that runs short stands in its way. -/
theorem acquire_first_short {registry : Registry count}
    (invariant : ∀ pool : Fin count, (registry.pools.get pool).Invariant) {key : PeerKey}
    (named : key.isVoid = false) (unregistered : registry.has key = false) {failure : Failure}
    (refused : (registry.acquire key).answer = .error failure) :
    ∃ place pool, registry.positions[place]? = some pool ∧
      failure = .refused (.exhausted (registry.pools.get pool).block) ∧
      RunsShort registry.pools registry.positions place ∧
      ∀ earlier < place, ¬ RunsShort registry.pools registry.positions earlier := by
  rcases acquire_cases registry key with ⟨isVoid, _⟩ | ⟨registered, _⟩ |
    ⟨_, _, ⟨_, answer, _⟩ | ⟨cause, refusal, _, outcome⟩⟩
  · rw [named] at isVoid
    cases isVoid
  · rw [unregistered] at registered
    cases registered
  · rw [answer] at refused
    cases refused
  · have leased := leaseEach_leased (fun pool => (invariant pool).range) registry.positions
    obtain ⟨place, pool, atPlace, reason, first⟩ := leased.first_short refusal
    obtain ⟨returned, _⟩ := putBackEach_leaseEach invariant registry.positions key
    refine ⟨place, pool, atPlace, ?_, first⟩
    rcases outcome with ⟨_, answer⟩ | ⟨violation, disagrees, _⟩
    · rw [answer, reason] at refused
      exact (Except.error.inj refused).symm
    · rw [returned] at disagrees
      cases disagrees

theorem acquire_exhausted {registry : Registry count}
    (invariant : ∀ pool : Fin count, (registry.pools.get pool).Invariant) {key : PeerKey}
    (named : key.isVoid = false) (unregistered : registry.has key = false)
    (unserved : ¬ ∃ addresses, (registry.acquire key).answer = .ok addresses) :
    ∃ pool ∈ registry.positions, (registry.acquire key).answer =
      .error (.refused (.exhausted (registry.pools.get pool).block)) := by
  cases answer : (registry.acquire key).answer with
  | ok addresses => exact absurd ⟨addresses, answer⟩ unserved
  | error failure =>
      obtain ⟨place, pool, atPlace, rfl, _⟩ :=
        acquire_first_short invariant named unregistered answer
      exact ⟨pool, List.mem_of_getElem? atPlace, rfl⟩

theorem addressesAt_zip_length (pool : Fin count) {positions : List (Fin count)}
    {addresses : List Address} (complete : addresses.length = positions.length) :
    (addressesAt pool (positions.zip addresses)).length = positions.count pool := by
  induction positions generalizing addresses with
  | nil => rfl
  | cons position positions ih =>
      cases addresses with
      | nil => simp at complete
      | cons address addresses =>
          have rest := ih (Nat.succ.inj complete)
          rw [List.zip_cons_cons, addressesAt_cons, List.count_cons]
          by_cases same : position = pool
          · simp [same, rest]
          · simp [same, rest]

namespace Balanced

variable {start : Vector Pool count} {registry : Registry count}

theorem holdings_length (balanced : Balanced start registry) (pool : Fin count) :
    (addressesAt pool registry.holdings).length =
      registry.positions.count pool * registry.size := by
  have lengths := balanced.lengths
  rw [holdings, size]
  generalize registry.peers = peers at lengths ⊢
  induction peers with
  | nil => rfl
  | cons peer peers ih =>
      have rest := ih fun other member => lengths other (List.mem_cons_of_mem _ member)
      have first := addressesAt_zip_length pool (lengths peer List.mem_cons_self)
      rw [List.flatMap_cons, addressesAt_append, List.length_append, rest, first,
        List.length_cons, Nat.mul_succ, Nat.add_comm]

theorem assigned_length (balanced : Balanced start registry) (pool : Fin count) :
    (registry.pools.get pool).assigned.length =
      (start.get pool).assigned.length + registry.positions.count pool * registry.size := by
  rw [(balanced.assigned pool).length_eq, List.length_append, balanced.holdings_length,
    Nat.add_comm]

/-- What a pool can lease now and what the peers hold of it is what it could lease at the
start. -/
theorem future_length (balanced : Balanced start registry)
    (invariant : ∀ pool : Fin count, (start.get pool).Invariant) (pool : Fin count) :
    (registry.pools.get pool).future.length + registry.positions.count pool * registry.size =
      (start.get pool).future.length := by
  have now := (balanced.invariant pool).future_length
  have before := (invariant pool).future_length
  have assigned := balanced.assigned_length pool
  have plain : (registry.pools.get pool).plainReserved = (start.get pool).plainReserved := by
    rw [Pool.plainReserved, Pool.plainReserved, balanced.reserved]
  rw [balanced.block, plain] at now
  omega

/-- One more peer fits exactly if a pool can lease as many addresses as positions name it,
which is a bound on the number of peers. -/
theorem fits_iff (balanced : Balanced start registry)
    (invariant : ∀ pool : Fin count, (start.get pool).Invariant) {pool : Fin count}
    (named : pool ∈ registry.positions) :
    registry.positions.count pool ≤ (registry.pools.get pool).future.length ↔
      registry.size <
        (start.get pool).future.length / registry.positions.count pool := by
  have positive : 0 < registry.positions.count pool := List.count_pos_iff.mpr named
  rw [← balanced.future_length invariant pool, Nat.lt_iff_add_one_le,
    Nat.le_div_iff_mul_le positive, Nat.succ_mul, Nat.mul_comm registry.size]
  omega

/-- A new peer is served as long as there are fewer peers than the least quotient. -/
theorem served_iff_size_lt (balanced : Balanced start registry)
    (invariant : ∀ pool : Fin count, (start.get pool).Invariant) {room : Nat}
    (isRoom : (registry.positions.map fun pool =>
      (start.get pool).future.length / registry.positions.count pool).min? = some room)
    {key : PeerKey} (named : key.isVoid = false) (unregistered : registry.has key = false) :
    (∃ addresses, (registry.acquire key).answer = .ok addresses) ↔ registry.size < room := by
  rw [acquire_ok_iff balanced.invariant named unregistered, Nat.lt_iff_add_one_le,
    List.le_min?_iff isRoom, List.forall_mem_map]
  exact forall₂_congr fun pool isNamed => balanced.fits_iff invariant isNamed

/-- Without peers a pool can lease what it could lease at the start. -/
theorem drain_of_empty (balanced : Balanced start registry)
    (invariant : ∀ pool : Fin count, (start.get pool).Invariant) (empty : registry.peers = [])
    (pool : Fin count) (limit : Nat) :
    ((registry.pools.get pool).drain limit).leased.length =
      min limit (start.get pool).future.length := by
  have length := balanced.future_length invariant pool
  have noPeers : registry.size = 0 := congrArg List.length empty
  rw [noPeers, Nat.mul_zero, Nat.add_zero] at length
  rw [Pool.drain_leased (balanced.invariant pool).range, List.length_take, length]

/-- What a peer holds is leased, so no release is refused. -/
theorem release_ok (balanced : Balanced start registry) (key : PeerKey) :
    (registry.release key).answer = .ok () := by
  cases found : registry.lookup key with
  | none => simp [Registry.release, found]
  | some peer =>
      exact (release_of_held balanced.keys balanced.holdings_nodup
        (fun _ _ held => balanced.assigned_of_held held) found).1

/-- When all peers have been released, in whatever order, none is left. -/
theorem after_releases (balanced : Balanced start registry) {keys : List PeerKey}
    (all : ∀ peer ∈ registry.peers, peer.key ∈ keys) :
    (registry.after (keys.map .release)).peers = [] := by
  induction keys generalizing registry with
  | nil => exact List.eq_nil_iff_forall_not_mem.mpr fun peer member => nomatch all peer member
  | cons key keys ih =>
      refine ih (balanced.release key) fun peer member => ?_
      change peer ∈ (registry.release key).state.peers at member
      rw [release_peers_of_ok (balanced.release_ok key), List.mem_filter, bne_iff_ne] at member
      exact (List.mem_cons.mp (all peer member.1)).resolve_left member.2

end Balanced

/-- How many peers fit depends on what the pools could lease when the registry was opened, and
not on what happened since.  Once all peers have been released, the pools can lease as much
again. -/
theorem after_capacity (blocks : Vector Block count) (used : Fin count → List Pool.Call)
    (positions : List (Fin count)) (opened : Registry count) (actions : List (Action count))
    (isOpened : open? (Vector.ofFn fun pool =>
      (Pool.ofBlock (blocks.get pool)).after (used pool)) positions = .ok opened)
    (own : ∀ action ∈ actions, action.IsOwn) :
    let leasable := fun pool : Fin count => (opened.pools.get pool).future.length
    let registry := opened.after actions
    (∀ (pool : Fin count) (limit : Nat),
        ((opened.pools.get pool).drain limit).leased.length = min limit (leasable pool)) ∧
      (∃ room, (positions.map fun pool => leasable pool / positions.count pool).min? = some room ∧
        ∀ key, key.isVoid = false → registry.has key = false →
          ((∃ addresses, (registry.acquire key).answer = .ok addresses) ↔
              registry.size < room) ∧
            (room ≤ registry.size → ∃ pool ∈ positions, (registry.acquire key).answer =
              .error (.refused (.exhausted (blocks.get pool))))) ∧
      (∀ pool : Fin count, (registry.pools.get pool).assigned.length =
        (opened.pools.get pool).assigned.length + positions.count pool * registry.size) ∧
      (registry.peers = [] → ∀ (pool : Fin count) (limit : Nat),
        ((registry.pools.get pool).drain limit).leased.length = min limit (leasable pool)) ∧
      ∀ keys : List PeerKey, (∀ peer ∈ registry.peers, peer.key ∈ keys) →
        let left := registry.after (keys.map .release)
        left.peers = [] ∧ ∀ (pool : Fin count) (limit : Nat),
          ((left.pools.get pool).drain limit).leased.length = min limit (leasable pool) := by
  intro leasable registry
  obtain ⟨occupied, rfl⟩ := open?_eq_ok isOpened
  let pools : Vector Pool count :=
    Vector.ofFn fun pool => (Pool.ofBlock (blocks.get pool)).after (used pool)
  have atStart (pool : Fin count) :
      pools.get pool = (Pool.ofBlock (blocks.get pool)).after (used pool) := by
    change pools[pool] = _
    simp [pools]
  have invariant (pool : Fin count) : (pools.get pool).Invariant := by
    rw [atStart]
    exact (Pool.ofBlock_invariant _).after _
  have balanced : Balanced pools registry := (opened_balanced invariant positions).after own
  have samePositions : registry.positions = positions := after_positions _ actions
  have sameBlock (pool : Fin count) : (registry.pools.get pool).block = blocks.get pool := by
    rw [balanced.block, atStart, Pool.after_block, Pool.ofBlock_block]
  refine ⟨?_, ?_, ?_, balanced.drain_of_empty invariant, ?_⟩
  · intro pool limit
    rw [Pool.drain_leased (invariant pool).range, List.length_take]
  · obtain ⟨room, isRoom⟩ : ∃ room,
        (positions.map fun pool => leasable pool / positions.count pool).min? = some room := by
      apply Option.ne_none_iff_exists'.mp
      simp [occupied]
    refine ⟨room, isRoom, ?_⟩
    intro key named unregistered
    have fits : (∃ addresses, (registry.acquire key).answer = .ok addresses) ↔
        registry.size < room := by
      rw [← samePositions] at isRoom
      exact balanced.served_iff_size_lt invariant isRoom named unregistered
    refine ⟨fits, ?_⟩
    intro full
    have unserved : ¬ ∃ addresses, (registry.acquire key).answer = .ok addresses := by
      rw [fits]
      exact Nat.not_lt.mpr full
    obtain ⟨pool, isNamed, answer⟩ :=
      acquire_exhausted balanced.invariant named unregistered unserved
    rw [samePositions] at isNamed
    rw [sameBlock] at answer
    exact ⟨pool, isNamed, answer⟩
  · intro pool
    rw [← samePositions]
    exact balanced.assigned_length pool
  · intro keys all left
    have empty : left.peers = [] := balanced.after_releases all
    have released : Balanced pools left := balanced.after (by simp [Action.IsOwn])
    exact ⟨empty, released.drain_of_empty invariant empty⟩

/-- One address of the first pool is out and another one waits when the registry is
opened. -/
def usedBefore (pool : Fin 2) : List Pool.Call :=
  if pool = firstPool then [.lease, .lease, .putBack (.given (smallAddress 2))] else []

/-- A peer comes, a second one is refused, and the first one leaves for a third one. -/
def churnRun : List (Action 2) :=
  [.acquire (.text "first"), .acquire (.text "second"), .lookup (.text "second"),
    .release (.text "first"), .acquire (.text "third")]

/-- The second pool has room for one peer only, however often peers come and go.  When that
one is released, none is left. -/
theorem after_capacity_single :
    let opened : Registry 2 := ⟨Vector.ofFn fun pool =>
      (Pool.ofBlock (smallBlocks.get pool)).after (usedBefore pool), smallPositions, []⟩
    let registry := opened.after churnRun
    registry.size = 1 ∧
      (∃ pool ∈ smallPositions, (registry.acquire (.text "fourth")).answer =
        .error (.refused (.exhausted (smallBlocks.get pool)))) ∧
      (registry.pools.get firstPool).assigned.length = 3 ∧
      (registry.after [.release (.text "third")]).peers = [] := by
  intro opened registry
  have isOpened : open? (Vector.ofFn fun pool =>
      (Pool.ofBlock (smallBlocks.get pool)).after (usedBefore pool)) smallPositions =
        .ok opened := rfl
  have onePeer : registry.size = 1 := by decide +kernel
  have unregistered : registry.has (.text "fourth") = false := by decide +kernel
  obtain ⟨_, ⟨room, isRoom, fits⟩, assigned, _, emptied⟩ :=
    after_capacity smallBlocks usedBefore smallPositions opened churnRun isOpened (by decide)
  have oneRoom : room = 1 := by
    have least : (smallPositions.map fun pool : Fin 2 =>
        (opened.pools.get pool).future.length / smallPositions.count pool).min? = some 1 := by
      decide +kernel
    exact Option.some.inj (isRoom.symm.trans least)
  have full := (fits (.text "fourth") rfl unregistered).2
  have outBefore : (opened.pools.get firstPool).assigned.length = 1 := by decide +kernel
  refine ⟨onePeer, full (by rw [oneRoom]; exact Nat.le_of_eq onePeer.symm), ?_,
    (emptied [.text "third"] (by decide +kernel)).1⟩
  rw [assigned, outBefore]
  change 1 + smallPositions.count firstPool * registry.size = 3
  rw [onePeer]
  rfl

end Registry

end TunnelLease

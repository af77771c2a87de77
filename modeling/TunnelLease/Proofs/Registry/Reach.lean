import Mathlib.Data.List.Induction
import TunnelLease.Proofs.Registry.Capacity
import TunnelLease.Proofs.Registry.Record

/-!
# How far the pools are drawn on

Peers that come one after the other draw on every pool in the order of its future.  In no
run of the registry alone does the pool at the last position get further than that: it is
asked only when all others have served, so it draws on its fresh addresses only while
all that it has drawn before is held by peers, of whom there are fewer than fit.  The other
pools can get further, for what they lease to an acquisition that is refused at a later
position goes back into their queues.
-/

namespace TunnelLease

namespace Pool

/-- The pool has passed the first `drawn` of some leasable addresses: they wait or are
leased, and the others are fresh. -/
structure Passed (leasable : List Address) (drawn : Nat) (pool : Pool) : Prop where
  enough : drawn ≤ leasable.length
  fresh : pool.fresh = leasable.drop drawn
  moved : (pool.recycled ++ pool.assigned).Perm (leasable.take drawn)

namespace Passed

variable {leasable : List Address} {drawn : Nat} {pool : Pool}

theorem of_unused (idle : pool.recycled = []) (unassigned : pool.assigned = []) :
    Passed pool.future 0 pool where
  enough := Nat.zero_le _
  fresh := by rw [future, idle, List.nil_append, List.drop_zero]
  moved := by rw [idle, unassigned]; exact List.Perm.refl _

theorem drawn_zero (passed : Passed leasable drawn pool) {later : Pool}
    (drawing : Drawn pool 0 later) : Passed leasable drawn later where
  enough := passed.enough
  fresh := by rw [drawing.fresh, Nat.zero_sub, List.drop_zero, passed.fresh]
  moved := by
    rw [drawing.recycled, drawing.assigned]
    exact passed.moved

/-- One more address is passed only if none waits. -/
theorem drawn_one (passed : Passed leasable drawn pool) {later : Pool}
    (drawing : Drawn pool 1 later) :
    Passed leasable drawn later ∨ (pool.recycled = [] ∧ Passed leasable (drawn + 1) later) := by
  cases queue : pool.recycled with
  | cons address waiting =>
      left
      refine ⟨passed.enough, ?_, ?_⟩
      · rw [drawing.fresh, queue, List.length_cons, Nat.sub_eq_zero_of_le (by omega),
          List.drop_zero, passed.fresh]
      · have moved := passed.moved
        rw [queue] at moved
        rw [drawing.recycled, drawing.assigned, future, queue]
        exact List.perm_middle.trans moved
  | nil =>
      have order : pool.future = leasable.drop drawn := by
        rw [future, queue, List.nil_append, passed.fresh]
      refine Or.inr ⟨rfl, ?_, ?_, ?_⟩
      · have enough := drawing.enough
        rw [order, List.length_drop] at enough
        omega
      · rw [drawing.fresh, queue, passed.fresh, List.length_nil, List.drop_drop]
      · have moved := passed.moved
        rw [queue, List.nil_append] at moved
        rw [drawing.recycled, queue, List.drop_nil, List.nil_append, drawing.assigned, order,
          List.take_add]
        exact ((List.reverse_perm _).append moved).trans List.perm_append_comm

theorem putBack (passed : Passed leasable drawn pool) (address : Address) :
    Passed leasable drawn (pool.putBack address).state := by
  by_cases assigned : address ∈ pool.assigned
  · rw [putBack_of_assigned assigned]
    refine ⟨passed.enough, passed.fresh, ?_⟩
    change ((pool.recycled ++ [address]) ++ pool.assigned.erase address).Perm _
    rw [List.append_assoc]
    exact ((List.perm_cons_erase assigned).symm.append_left _).trans passed.moved
  · rw [putBack_of_unassigned assigned]
    exact passed

end Passed

end Pool

namespace Registry

variable {count : Nat}

theorem acquire_holdings {registry : Registry count}
    (range : ∀ pool : Fin count, (registry.pools.get pool).CursorInRange) {key : PeerKey}
    {addresses : List Address} (granted : (registry.acquire key).answer = .ok addresses) :
    (registry.acquire key).state.holdings =
      registry.holdings ++ registry.positions.zip addresses := by
  have samePositions : (registry.acquire key).state.positions = registry.positions :=
    act_positions registry (.acquire key)
  rw [holdings, samePositions, (acquire_drawn range granted).1, List.flatMap_append,
    List.flatMap_singleton]
  rfl

/-- Peers with the given keys, and no others, have come one after the other. -/
structure Arrived (pools : Vector Pool count) (positions : List (Fin count))
    (keys : List PeerKey) (registry : Registry count) : Prop where
  balanced : Balanced pools registry
  samePositions : registry.positions = positions
  sameKeys : registry.peers.map Peer.key = keys
  drawn : ∀ pool : Fin count, Pool.Drawn (pools.get pool)
    (keys.length * positions.count pool) (registry.pools.get pool)
  held : ∀ pool : Fin count, addressesAt pool registry.holdings =
    (pools.get pool).future.take (keys.length * positions.count pool)

section Arrivals

variable {pools : Vector Pool count} {positions : List (Fin count)} {keys : List PeerKey}

theorem opened_arrived (invariant : ∀ pool : Fin count, (pools.get pool).Invariant)
    (positions : List (Fin count)) : Arrived pools positions [] ⟨pools, positions, []⟩ where
  balanced := opened_balanced invariant positions
  samePositions := rfl
  sameKeys := rfl
  drawn := fun pool => by
    rw [List.length_nil, Nat.zero_mul]
    exact Pool.Drawn.refl _
  held := fun pool => by
    rw [List.length_nil, Nat.zero_mul]
    rfl

theorem Arrived.size_eq {registry : Registry count}
    (arrived : Arrived pools positions keys registry) : registry.size = keys.length := by
  have lengths := congrArg List.length arrived.sameKeys
  rwa [List.length_map] at lengths

theorem Arrived.unregistered {registry : Registry count}
    (arrived : Arrived pools positions keys registry) {key : PeerKey} (new : key ∉ keys) :
    registry.has key = false := by
  rw [Bool.eq_false_iff, Ne, has_iff, ← List.mem_map, arrived.sameKeys]
  exact new

/-- One more peer is served if there is room, and gets what comes next in every pool. -/
theorem Arrived.acquire {registry : Registry count}
    (arrived : Arrived pools positions keys registry) {key : PeerKey}
    (named : key.isVoid = false) (new : key ∉ keys)
    (room : ∀ pool ∈ positions,
      (keys.length + 1) * positions.count pool ≤ (pools.get pool).future.length) :
    (∃ addresses, (registry.acquire key).answer = .ok addresses) ∧
      Arrived pools positions (keys ++ [key]) (registry.acquire key).state := by
  have range (pool : Fin count) : (registry.pools.get pool).CursorInRange :=
    (arrived.balanced.invariant pool).range
  have unregistered := arrived.unregistered new
  have fits : ∃ addresses, (registry.acquire key).answer = .ok addresses := by
    refine (acquire_ok_iff arrived.balanced.invariant named unregistered).mpr ?_
    rw [arrived.samePositions]
    intro pool isNamed
    have enough := room pool isNamed
    rw [Nat.succ_mul] at enough
    rw [(arrived.drawn pool).future, List.length_drop]
    omega
  refine ⟨fits, ?_⟩
  obtain ⟨addresses, granted⟩ := fits
  obtain ⟨peers, drawn⟩ := acquire_drawn range granted
  have holdings := acquire_holdings range granted
  rw [arrived.samePositions] at drawn holdings
  have oneMore (pool : Fin count) : (keys ++ [key]).length * positions.count pool =
      keys.length * positions.count pool + positions.count pool := by
    rw [List.length_append, List.length_singleton, Nat.succ_mul]
  refine ⟨arrived.balanced.acquire key, ?_, ?_, ?_, ?_⟩
  · exact (act_positions registry (.acquire key)).trans arrived.samePositions
  · rw [peers, List.map_append, arrived.sameKeys]
    rfl
  · intro pool
    rw [oneMore]
    exact (arrived.drawn pool).trans (drawn pool).1
  · intro pool
    rw [holdings, addressesAt_append, arrived.held, (drawn pool).2, (arrived.drawn pool).future,
      oneMore, List.take_add]

/-- Peers with different keys that come one after the other are served as long as there is
room, and what they hold is the first part of the future of each pool. -/
theorem after_arrivals (invariant : ∀ pool : Fin count, (pools.get pool).Invariant)
    (distinct : keys.Nodup) (named : ∀ key ∈ keys, key.isVoid = false)
    (room : ∀ pool ∈ positions,
      keys.length * positions.count pool ≤ (pools.get pool).future.length) :
    Arrived pools positions keys
      ((⟨pools, positions, []⟩ : Registry count).after (keys.map .acquire)) := by
  induction keys using List.reverseRecOn with
  | nil => exact opened_arrived invariant positions
  | append_singleton keys key ih =>
      obtain ⟨earlier, _, apart⟩ := List.nodup_append.mp distinct
      rw [List.length_append, List.length_singleton] at room
      have before := ih earlier (fun other member => named other (List.mem_append_left _ member))
        fun pool isNamed => (Nat.mul_le_mul_right _ (Nat.le_succ _)).trans (room pool isNamed)
      have new : key ∉ keys := fun member => apart key member key (List.mem_singleton_self key) rfl
      rw [List.map_append, after_append]
      exact (before.acquire (named key (by simp)) new room).2

end Arrivals

/-- How many peers fit into one of the pools. -/
def roomIn (pools : Vector Pool count) (positions : List (Fin count)) (pool : Fin count) : Nat :=
  (pools.get pool).future.length / positions.count pool

section LastPool

variable {pools : Vector Pool count} {registry : Registry count} {leasable : List Address}
  {drawn : Nat} {init : List (Fin count)} {last narrow : Fin count}

/-- When leasing at each position is refused, the last pool was not asked, or it is the
one that refused. -/
theorem leaseEach_refused_last {positions : List (Fin count)} {cause : Error}
    (range : ∀ pool : Fin count, (pools.get pool).CursorInRange)
    (ends : positions = init ++ [last]) (once : last ∉ init)
    (refusal : (leaseEach pools positions).refusal = some cause) :
    Pool.Drawn (pools.get last) 0 ((leaseEach pools positions).pools.get last) := by
  have leased := leaseEach_leased range positions
  obtain ⟨_, atFailing, _⟩ := leased.refused cause refusal
  obtain ⟨below, _⟩ := List.getElem?_eq_some_iff.mp atFailing
  let served := (leaseEach pools positions).taken.length
  have within : served ≤ init.length := by
    have length := congrArg List.length ends
    rw [List.length_append, List.length_singleton] at length
    omega
  have untouched : (positions.take served).count last = 0 := by
    have earlier : positions.take served = init.take served :=
      (congrArg (List.take served) ends).trans (List.take_append_of_le_length within)
    rw [earlier, List.count_eq_zero]
    exact fun named => once (List.mem_of_mem_take named)
  have drawn := leased.drawn last
  rw [untouched] at drawn
  exact drawn

variable (invariant : ∀ pool : Fin count, (pools.get pool).Invariant)
  (unassigned : (pools.get last).assigned = []) (once : last ∉ init)
  (named : narrow ∈ init ++ [last])

include invariant unassigned once named

/-- An action of the registry alone lets the last pool pass one more address at most, and
only while fewer peers are registered than fit. -/
theorem act_passed (balanced : Balanced pools registry)
    (ends : registry.positions = init ++ [last]) {action : Action count} (own : action.IsOwn)
    (passed : Pool.Passed leasable drawn (registry.pools.get last))
    (bound : drawn ≤ roomIn pools (init ++ [last]) narrow) :
    ∃ reached ≤ roomIn pools (init ++ [last]) narrow,
      Pool.Passed leasable reached ((registry.act action).2.pools.get last) := by
  rw [← ends] at named bound ⊢
  have single : registry.positions.count last = 1 := by
    rw [ends, List.count_append, List.count_eq_zero.mpr once, List.count_singleton_self]
  have returned (index : Fin count) (pool : Pool) (address : Address)
      (before : index = last → Pool.Passed leasable drawn pool) (isLast : index = last) :
      Pool.Passed leasable drawn (pool.putBack address).state :=
    (before isLast).putBack address
  cases action with
  | acquire key =>
      change ∃ reached ≤ _,
        Pool.Passed leasable reached ((registry.acquire key).state.pools.get last)
      have range (pool : Fin count) : (registry.pools.get pool).CursorInRange :=
        (balanced.invariant pool).range
      rcases acquire_cases registry key with ⟨_, refused⟩ | ⟨_, refused⟩ |
        ⟨isNamed, unregistered, ⟨served, answer, state⟩ | ⟨cause, refusal, state, _⟩⟩
      · exact ⟨drawn, bound, by rw [refused]; exact passed⟩
      · exact ⟨drawn, bound, by rw [refused]; exact passed⟩
      · have drawing := ((acquire_drawn range answer).2 last).1
        rw [single] at drawing
        rcases passed.drawn_one drawing with same | ⟨idle, further⟩
        · exact ⟨drawn, bound, same⟩
        · refine ⟨drawn + 1, ?_, further⟩
          have fits := (acquire_ok_iff balanced.invariant isNamed unregistered).mp ⟨_, answer⟩
          have room : registry.size < roomIn pools registry.positions narrow :=
            (balanced.fits_iff invariant named).mp (fits narrow named)
          -- Nothing waits, so what was passed is what the peers hold.
          have held := balanced.assigned_length last
          have moved := passed.moved.length_eq
          have enough := passed.enough
          rw [idle, List.nil_append, held, unassigned, single, List.length_nil, Nat.zero_add,
            Nat.one_mul, List.length_take, Nat.min_eq_left enough] at moved
          omega
      · refine ⟨drawn, bound, ?_⟩
        have leased : Pool.Passed leasable drawn
            ((leaseEach registry.pools registry.positions).pools.get last) :=
          passed.drawn_zero (leaseEach_refused_last range ends once refusal)
        rw [state]
        exact putBackEach_keeps returned (fun _ same => same ▸ leased) key 0 _ last rfl
  | release key =>
      exact ⟨drawn, bound, release_keeps returned (fun _ same => same ▸ passed) key last rfl⟩
  | lookup key => exact ⟨drawn, bound, passed⟩
  | forEach visitor => exact ⟨drawn, bound, passed⟩
  | onPool pool call => exact absurd own not_false

theorem after_passed (balanced : Balanced pools registry)
    (ends : registry.positions = init ++ [last]) {actions : List (Action count)}
    (own : ∀ action ∈ actions, action.IsOwn)
    (passed : Pool.Passed leasable drawn (registry.pools.get last))
    (bound : drawn ≤ roomIn pools (init ++ [last]) narrow) :
    ∃ reached ≤ roomIn pools (init ++ [last]) narrow,
      Pool.Passed leasable reached ((registry.after actions).pools.get last) := by
  induction actions generalizing registry drawn with
  | nil => exact ⟨drawn, bound, passed⟩
  | cons action actions ih =>
      have ownAction := own action List.mem_cons_self
      obtain ⟨reached, within, next⟩ :=
        act_passed invariant unassigned once named balanced ends ownAction passed bound
      exact ih (balanced.act ownAction) ((act_positions registry action).trans ends)
        (fun later member => own later (List.mem_cons_of_mem _ member)) next within

/-- What peers ever hold of an unused pool at the last position is in the first part of its
future, as long as the number of peers that fit. -/
theorem mem_take_of_held_last (idle : (pools.get last).recycled = [])
    {actions : List (Action count)} (own : ∀ action ∈ actions, action.IsOwn) {address : Address}
    (held : (last, address) ∈
      ((⟨pools, init ++ [last], []⟩ : Registry count).after actions).holdings) :
    address ∈ (pools.get last).future.take (roomIn pools (init ++ [last]) narrow) := by
  have opened := opened_balanced invariant (init ++ [last])
  obtain ⟨reached, within, passed⟩ := after_passed invariant unassigned once named opened rfl own
    (Pool.Passed.of_unused idle unassigned) (Nat.zero_le _)
  have assigned := (opened.after own).assigned_of_held held
  have moved := passed.moved.mem_iff.mp (List.mem_append_right _ assigned)
  exact (List.take_sublist_take_left within).subset moved

end LastPool

/-- An acquisition that is served is answered with one address for each position. -/
theorem length_of_granted {registry : Registry count} (orderly : Orderly registry)
    (range : ∀ pool : Fin count, (registry.pools.get pool).CursorInRange) {key : PeerKey}
    {addresses : List Address} (granted : (registry.acquire key).answer = .ok addresses) :
    addresses.length = registry.positions.length := by
  obtain ⟨peers, _⟩ := acquire_drawn range granted
  have lengths := (orderly.acquire key).lengths ⟨key, addresses⟩ (by rw [peers]; simp)
  exact lengths.trans (congrArg List.length (act_positions registry (.acquire key)))

/-- Every address that an acquisition is answered with is held from then on. -/
theorem exists_held_of_granted {registry : Registry count} (orderly : Orderly registry)
    (range : ∀ pool : Fin count, (registry.pools.get pool).CursorInRange) {key : PeerKey}
    {addresses : List Address} (granted : (registry.acquire key).answer = .ok addresses)
    {given : Address} (isGiven : given ∈ addresses) :
    ∃ pool, (pool, given) ∈ (registry.acquire key).state.holdings := by
  have complete := length_of_granted orderly range granted
  rw [← List.map_snd_zip (Nat.le_of_eq complete)] at isGiven
  obtain ⟨⟨pool, other⟩, held, rfl⟩ := List.mem_map.mp isGiven
  refine ⟨pool, ?_⟩
  rw [acquire_holdings range granted]
  exact List.mem_append_right _ held

/-- What is held after a run that began without peers was an answer in it. -/
theorem exists_granted_of_held {registry : Registry count} (noPeers : registry.peers = [])
    {actions : List (Action count)} {pool : Fin count} {given : Address}
    (held : (pool, given) ∈ (registry.after actions).holdings) :
    ∃ key addresses, (.acquire key, .acquired (.ok addresses)) ∈ registry.history actions ∧
      given ∈ addresses := by
  obtain ⟨peer, isPeer, ofPeer⟩ := List.mem_flatMap.mp held
  obtain ⟨earlier, later, isRun, granted⟩ := exists_granted_of_peer noPeers isPeer
  refine ⟨peer.key, peer.addresses, ?_, (List.of_mem_zip ofPeer).2⟩
  exact mem_history.mpr ⟨earlier, _, later, isRun,
    congrArg (fun answer => (_, Outcome.acquired answer)) granted.symm⟩

/-- In some run of the registry alone a peer is given an address of this family and value. -/
def CanGive (registry : Registry count) (address : Address) : Prop :=
  ∃ actions : List (Action count), (∀ action ∈ actions, action.IsOwn) ∧
    ∃ key addresses, (.acquire key, .acquired (.ok addresses)) ∈ registry.history actions ∧
      ∃ given ∈ addresses, given.family = address.family ∧ given.value = address.value

/-- What a peer can be given is what a peer can hold. -/
theorem canGive_iff {pools : Vector Pool count}
    (invariant : ∀ pool : Fin count, (pools.get pool).Invariant) (positions : List (Fin count))
    (address : Address) :
    (⟨pools, positions, []⟩ : Registry count).CanGive address ↔
      ∃ actions : List (Action count), (∀ action ∈ actions, action.IsOwn) ∧
        ∃ pool given,
          (pool, given) ∈ ((⟨pools, positions, []⟩ : Registry count).after actions).holdings ∧
          given.family = address.family ∧ given.value = address.value := by
  constructor
  · rintro ⟨actions, own, key, addresses, isEntry, given, isGiven, same⟩
    obtain ⟨earlier, action, later, rfl, entry⟩ := mem_history.mp isEntry
    obtain ⟨rfl, outcome⟩ := Prod.mk.inj entry
    have ownUpTo : ∀ action ∈ earlier ++ [.acquire key], action.IsOwn := by
      intro action member
      apply own action
      rw [List.append_cons]
      exact List.mem_append_left _ member
    have balanced := (opened_balanced invariant positions).after
      fun action member => ownUpTo action (List.mem_append_left _ member)
    obtain ⟨pool, held⟩ := exists_held_of_granted balanced.toOrderly
      (fun pool => (balanced.invariant pool).range) (Outcome.acquired.inj outcome).symm isGiven
    refine ⟨earlier ++ [.acquire key], ownUpTo, pool, given, ?_, same⟩
    rw [after_append]
    exact held
  · rintro ⟨actions, own, pool, given, held, same⟩
    obtain ⟨key, addresses, isEntry, isGiven⟩ := exists_granted_of_held rfl held
    exact ⟨actions, own, key, addresses, isEntry, given, isGiven, same⟩

end Registry

end TunnelLease

import TunnelLease.Proofs.Registry.Record

/-!
# What a release gives back

Releasing a peer gives its addresses back one position after the other, and each pool
answers by what it has leased at that moment.  Since no peer ever holds the same address
of a pool twice, whatever was done to the pools behind the registry's back, the answers
can be told from the leases before the release: the addresses go back up to the first
position whose pool has not leased the address there.
-/

namespace TunnelLease

namespace Registry

variable {count : Nat}

/-- Every holding is leased by its pool. -/
def AllLeased (pools : Vector Pool count) (holdings : List (Fin count × Address)) : Prop :=
  ∀ pool address, (pool, address) ∈ holdings → address ∈ (pools.get pool).assigned

/-- The holdings, and nothing else, went from the leases of their pools to the ends of the
queues. -/
structure GivenBack (holdings : List (Fin count × Address)) (before later : Vector Pool count) :
    Prop where
  assigned : ∀ (pool : Fin count) (address : Address),
    address ∈ (later.get pool).assigned ↔
      address ∈ (before.get pool).assigned ∧ (pool, address) ∉ holdings
  recycled : ∀ pool : Fin count,
    (later.get pool).recycled = (before.get pool).recycled ++ addressesAt pool holdings
  reserved : ∀ pool : Fin count, (later.get pool).reserved = (before.get pool).reserved
  cursor : ∀ pool : Fin count, (later.get pool).cursor = (before.get pool).cursor
  block : ∀ pool : Fin count, (later.get pool).block = (before.get pool).block

theorem givenBack_of_takeBack {holdings : List (Fin count × Address)}
    {before later : Vector Pool count}
    (invariant : ∀ pool : Fin count, (before.get pool).Invariant)
    (state : ∀ pool : Fin count,
      later.get pool = (before.get pool).takeBack (addressesAt pool holdings)) :
    GivenBack holdings before later where
  assigned := fun pool address => by
    rw [state pool, ← mem_addressesAt]
    exact (invariant pool).assigned_nodup.mem_sdiff_iff
  recycled := fun pool => by rw [state pool]; rfl
  reserved := fun pool => by rw [state pool]; rfl
  cursor := fun pool => by rw [state pool]; rfl
  block := fun pool => by rw [state pool]; rfl

/-- The pools know nothing of a holding that was not given back. -/
theorem GivenBack.untouched {holdings : List (Fin count × Address)}
    {before later : Vector Pool count} (givenBack : GivenBack holdings before later)
    {pool : Fin count} {address : Address} (other : (pool, address) ∉ holdings) :
    (address ∈ (later.get pool).assigned ↔ address ∈ (before.get pool).assigned) ∧
      (address ∈ (later.get pool).recycled ↔ address ∈ (before.get pool).recycled) := by
  rw [givenBack.assigned, givenBack.recycled, List.mem_append, mem_addressesAt]
  simp [other]

/-- Either all holdings are leased, or one is the first that is not. -/
theorem exists_first_unassigned (pools : Vector Pool count)
    (holdings : List (Fin count × Address)) :
    AllLeased pools holdings ∨
      ∃ first pool address rest, holdings = first ++ (pool, address) :: rest ∧
        AllLeased pools first ∧ address ∉ (pools.get pool).assigned := by
  cases search : holdings.find? fun holding => holding.2 ∉ (pools.get holding.1).assigned with
  | none =>
      left
      intro pool address held
      simpa using List.find?_eq_none.mp search (pool, address) held
  | some holding =>
      right
      obtain ⟨unassigned, first, rest, split, earlier⟩ := List.find?_eq_some_iff_append.mp search
      refine ⟨first, holding.1, holding.2, rest, split, ?_, by simpa using unassigned⟩
      intro pool address held
      simpa using earlier (pool, address) held

/-- A release gives back all that the peer holds and forgets the peer, or it gives back
what the peer holds before the first address that is not leased. -/
theorem release_outcome {registry : Registry count}
    (invariant : ∀ pool : Fin count, (registry.pools.get pool).Invariant) {key : PeerKey}
    {peer : Peer} (found : registry.lookup key = some peer)
    (distinct : (registry.positions.zip peer.addresses).Nodup) :
    let holdings := registry.positions.zip peer.addresses
    let reply := registry.release key
    (AllLeased registry.pools holdings ∧
        reply.answer = .ok () ∧ GivenBack holdings registry.pools reply.state.pools ∧
        reply.state.peers = registry.peers.filter fun other => other.key != key) ∨
      ∃ first pool address rest, holdings = first ++ (pool, address) :: rest ∧
        AllLeased registry.pools first ∧
        address ∉ (registry.pools.get pool).assigned ∧
        reply.answer = .error ⟨key, first.length, address, .notAssigned address⟩ ∧
        GivenBack first registry.pools reply.state.pools ∧
        reply.state.peers = registry.peers := by
  intro holdings reply
  rcases release_cases registry key with ⟨unknown, _⟩ | ⟨other, isOther, outcome⟩
  · rw [found] at unknown
    cases unknown
  cases found.symm.trans isOther
  rcases exists_first_unassigned registry.pools holdings with
    assigned | ⟨first, pool, address, rest, split, assigned, unassigned⟩
  · left
    obtain ⟨returned, state⟩ := putBackEach_of_assigned distinct assigned key 0
    have givenBack := givenBack_of_takeBack invariant state
    rcases outcome with ⟨_, answer, after⟩ | ⟨violation, disagrees, _⟩
    · refine ⟨assigned, answer, ?_⟩
      change GivenBack _ _ (registry.release key).state.pools ∧
        (registry.release key).state.peers = _
      rw [after]
      exact ⟨givenBack, rfl⟩
    · rw [returned] at disagrees
      cases disagrees
  · right
    have firstDistinct : first.Nodup := by
      change holdings.Nodup at distinct
      rw [split] at distinct
      exact distinct.of_append_left
    obtain ⟨refused, state⟩ :=
      putBackEach_of_unassigned firstDistinct assigned unassigned rest key 0
    have givenBack := givenBack_of_takeBack invariant state
    rw [← split, Nat.zero_add] at refused
    rw [← split] at givenBack
    refine ⟨first, pool, address, rest, split, assigned, unassigned, ?_⟩
    rcases outcome with ⟨returned, _⟩ | ⟨violation, disagrees, answer, after⟩
    · rw [refused] at returned
      cases returned
    · rw [refused] at disagrees
      cases disagrees
      refine ⟨answer, ?_⟩
      change GivenBack _ _ (registry.release key).state.pools ∧
        (registry.release key).state.peers = _
      rw [after]
      exact ⟨givenBack, rfl⟩

/-- What a peer holds, whatever was done to the pools, it was given by an acquisition, and
no acquisition gives the same address of a pool twice. -/
theorem peer_distinct {blocks : Vector Block count} {positions : List (Fin count)}
    {actions : List (Action count)} {peer : Peer}
    (member : peer ∈ ((overNew blocks positions).after actions).peers) :
    (positions.zip peer.addresses).Nodup := by
  obtain ⟨earlier, _, _, granted⟩ := exists_granted_of_peer rfl member
  have samePositions : ((overNew blocks positions).after earlier).positions = positions :=
    after_positions _ earlier
  rw [← samePositions]
  exact acquire_distinct (after_invariant blocks positions earlier) granted

/-- A release gives back what the peer holds, in the order of the positions, up to the first
address that is not leased.  If there is none, the peer is forgotten. -/
theorem release_gives_back (blocks : Vector Block count) (positions : List (Fin count))
    (actions : List (Action count)) (key : PeerKey) :
    let registry := (overNew blocks positions).after actions
    let reply := registry.release key
    (registry.lookup key = none → reply = ⟨.ok (), registry, []⟩) ∧
      ∀ peer, registry.lookup key = some peer →
        let holdings := positions.zip peer.addresses
        (peer.addresses.length = positions.length ∧ holdings.Nodup) ∧
          (AllLeased registry.pools holdings → reply.answer = .ok () ∧
            GivenBack holdings registry.pools reply.state.pools ∧
            reply.state.lookup key = none ∧
            reply.state.peers = registry.peers.filter fun other => other.key != key) ∧
          (¬ AllLeased registry.pools holdings → ∃ place pool address,
            holdings[place]? = some (pool, address) ∧
            address ∉ (registry.pools.get pool).assigned ∧
            AllLeased registry.pools (holdings.take place) ∧
            reply.answer = .error ⟨key, place, address, .notAssigned address⟩ ∧
            GivenBack (holdings.take place) registry.pools reply.state.pools ∧
            (∀ pool address, (pool, address) ∈ holdings.drop place →
              (address ∈ (reply.state.pools.get pool).assigned ↔
                  address ∈ (registry.pools.get pool).assigned) ∧
                (address ∈ (reply.state.pools.get pool).recycled ↔
                  address ∈ (registry.pools.get pool).recycled)) ∧
            reply.state.lookup key = some peer ∧ reply.state.peers = registry.peers) := by
  intro registry reply
  have invariant : ∀ pool : Fin count, (registry.pools.get pool).Invariant :=
    after_invariant blocks positions actions
  have orderly : Orderly registry := (overNew_orderly blocks positions).after actions
  have samePositions : registry.positions = positions := after_positions _ actions
  refine ⟨?_, ?_⟩
  · intro unknown
    rcases release_cases registry key with ⟨_, ignored⟩ | ⟨peer, found, _⟩
    · exact ignored
    · rw [unknown] at found
      cases found
  · intro peer found holdings
    obtain ⟨member, _⟩ := (lookup_eq_some_iff orderly.keys key peer).mp found
    have complete : peer.addresses.length = positions.length :=
      samePositions ▸ orderly.lengths peer member
    have distinct : holdings.Nodup := peer_distinct member
    have outcome := release_outcome invariant found (samePositions ▸ distinct)
    rw [samePositions] at outcome
    refine ⟨⟨complete, distinct⟩, ?_, ?_⟩
    · intro leased
      rcases outcome with ⟨_, answer, givenBack, peers⟩ |
        ⟨first, pool, address, rest, split, _, unassigned, _⟩
      · refine ⟨answer, givenBack, ?_, peers⟩
        rw [lookup_eq_none_iff]
        intro other kept
        change other ∈ (registry.release key).state.peers at kept
        rw [peers] at kept
        exact bne_iff_ne.mp (List.mem_filter.mp kept).2
      · have held : (pool, address) ∈ positions.zip peer.addresses := by
          rw [split]
          exact List.mem_append_right _ List.mem_cons_self
        exact absurd (leased pool address held) unassigned
    · intro someUnleased
      rcases outcome with ⟨leased, _⟩ |
        ⟨first, pool, address, rest, split, assigned, unassigned, answer, givenBack, peers⟩
      · exact absurd leased someUnleased
      · change holdings = _ at split
        have before : holdings.take first.length = first := by rw [split]; simp
        have behind : holdings.drop first.length = (pool, address) :: rest := by rw [split]; simp
        have apart := distinct
        rw [split] at apart
        refine ⟨first.length, pool, address, ?_, unassigned, ?_, answer, ?_, ?_, ?_, peers⟩
        · rw [split]
          simp
        · rw [before]
          exact assigned
        · rw [before]
          exact givenBack
        · intro other later held
          rw [behind] at held
          exact givenBack.untouched fun early =>
            List.disjoint_of_nodup_append apart early held
        · rw [lookup, peers]
          exact found

/-- The second of three addresses of a peer was returned behind the registry's back. -/
def corruptedRun : List (Action 2) :=
  [.acquire (.text "first"), .onPool firstPool (.putBack (.given (smallAddress 3)))]

/-- The first address is given back behind the one that was returned, and the third one,
of the other pool, stays leased. -/
theorem release_gives_back_corrupted :
    let registry := (overNew smallBlocks smallPositions).after corruptedRun
    let reply := registry.release (.text "first")
    reply.answer =
        .error ⟨.text "first", 1, smallAddress 3, .notAssigned (smallAddress 3)⟩ ∧
      (reply.state.pools.get firstPool).recycled = [smallAddress 3, smallAddress 2] ∧
      smallAddress 258 ∈ (reply.state.pools.get secondPool).assigned ∧
      reply.state.has (.text "first") = true := by
  intro registry reply
  have found : registry.lookup (.text "first") =
      some ⟨.text "first", [smallAddress 2, smallAddress 3, smallAddress 258]⟩ := by
    decide +kernel
  have queue : (registry.pools.get firstPool).recycled = [smallAddress 3] := by decide +kernel
  have leased : (registry.pools.get firstPool).assigned = [smallAddress 2] := by decide +kernel
  have leasedThere : smallAddress 258 ∈ (registry.pools.get secondPool).assigned := by
    decide +kernel
  obtain ⟨_, _, refused⟩ :=
    (release_gives_back smallBlocks smallPositions corruptedRun (.text "first")).2 _ found
  have returned : smallAddress 3 ∉ (registry.pools.get firstPool).assigned := by
    rw [leased]
    decide
  obtain ⟨place, pool, address, atPlace, unassigned, _, answer, givenBack, untouched, kept, _⟩ :=
    refused fun all => returned (all firstPool (smallAddress 3) (by decide))
  have atSecond : place = 1 := by
    rcases place with _ | _ | _ | place
    · cases atPlace
      exact absurd (leased ▸ List.mem_cons_self) unassigned
    · rfl
    · cases atPlace
      exact absurd leasedThere unassigned
    · cases atPlace
  subst atSecond
  cases atPlace
  refine ⟨answer, ?_, (untouched secondPool _ (by decide)).1.mpr leasedThere, ?_⟩
  · rw [givenBack.recycled, queue]
    decide
  · rw [has, kept]
    rfl

end Registry

end TunnelLease

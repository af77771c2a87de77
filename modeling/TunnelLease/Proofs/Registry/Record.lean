import Mathlib.Data.List.Induction
import TunnelLease.Proofs.Registry.Peers
import TunnelLease.Proofs.Registry.Rollback

/-!
# The registry as a record of its history

A history enrols a peer when an acquisition is answered with addresses, and it strikes
off a key when a release is not refused.  The peers of a registry are those that its
history has enrolled and not struck off since, in the order of their enrolment and with
the addresses of that acquisition.  Nothing else has a part in it: neither what is
refused nor what is done to the pools behind the registry's back.
-/

namespace TunnelLease

namespace Registry

variable {count : Nat}

/-- The peer that an entry of a history enrols: its acquisition was served. -/
def enrolled? : Action count × Outcome → Option Peer
  | (.acquire key, .acquired (.ok addresses)) => some ⟨key, addresses⟩
  | _ => none

/-- The key that an entry of a history strikes off: its release was not refused. -/
def struckOff? : Action count × Outcome → Option PeerKey
  | (.release key, .released (.ok ())) => some key
  | _ => none

/-- The peers that a history has enrolled and not struck off later, in order. -/
def standing : List (Action count × Outcome) → List Peer
  | [] => []
  | entry :: later =>
      ((enrolled? entry).toList.filter fun peer =>
        later.all fun other => struckOff? other ≠ some peer.key) ++ standing later

theorem enrolled?_eq_some (entry : Action count × Outcome) (peer : Peer) :
    enrolled? entry = some peer ↔
      entry = (.acquire peer.key, .acquired (.ok peer.addresses)) := by
  constructor
  · intro enrols
    unfold enrolled? at enrols
    split at enrols
    next =>
      cases enrols
      rfl
    next => cases enrols
  · rintro rfl
    rfl

theorem struckOff?_eq_some (entry : Action count × Outcome) (key : PeerKey) :
    struckOff? entry = some key ↔ entry = (.release key, .released (.ok ())) := by
  constructor
  · intro strikes
    unfold struckOff? at strikes
    split at strikes
    next =>
      cases strikes
      rfl
    next => cases strikes
  · rintro rfl
    rfl

/-- The last entry strikes off one key and enrols one peer at most. -/
theorem standing_concat (history : List (Action count × Outcome))
    (last : Action count × Outcome) :
    standing (history ++ [last]) =
      ((standing history).filter fun peer => struckOff? last ≠ some peer.key) ++
        (enrolled? last).toList := by
  induction history with
  | nil => simp [standing]
  | cons entry history ih =>
      simp [standing, ih, List.filter_filter, Bool.and_comm]

/-- A peer stands in a history exactly if its enrolment is still open. -/
theorem mem_standing (history : List (Action count × Outcome)) (peer : Peer) :
    peer ∈ standing history ↔
      StillOpen (fun entry => enrolled? entry = some peer)
        (fun entry => struckOff? entry = some peer.key) history := by
  induction history using List.reverseRecOn with
  | nil => simp [standing, StillOpen]
  | append_singleton history last ih =>
      rw [standing_concat, stillOpen_concat, List.mem_append, List.mem_filter, ih,
        Option.mem_toList, decide_eq_true_eq, or_comm]
      exact or_congr_right and_comm

theorem lookup_eq_none_iff (registry : Registry count) (key : PeerKey) :
    registry.lookup key = none ↔ ∀ peer ∈ registry.peers, peer.key ≠ key := by
  simp [lookup]

/-- An acquisition that is served adds its peer at the end. -/
theorem acquire_peers (registry : Registry count) (key : PeerKey) :
    (registry.acquire key).state.peers =
      registry.peers ++
        (@enrolled? count (.acquire key, .acquired (registry.acquire key).answer)).toList := by
  rcases acquire_cases registry key with ⟨_, refused⟩ | ⟨_, refused⟩ |
    ⟨_, _, ⟨_, answer, state⟩ | ⟨cause, _, state, ⟨_, answer⟩ | ⟨violation, _, answer⟩⟩⟩
  · simp [refused, enrolled?]
  · simp [refused, enrolled?]
  · simp [answer, state, enrolled?]
  · simp [answer, state, enrolled?]
  · simp [answer, state, enrolled?]

/-- A release strikes off what its outcome says. -/
theorem release_peers (registry : Registry count) (key : PeerKey) :
    (registry.release key).state.peers = registry.peers.filter fun peer =>
      @struckOff? count (.release key, .released (registry.release key).answer) ≠
        some peer.key := by
  cases answer : (registry.release key).answer with
  | ok done =>
      rw [release_peers_of_ok answer]
      apply List.filter_congr
      intro other _
      rw [bne_comm]
      simp [struckOff?, bne, beq_eq_decide]
  | error violation =>
      rcases release_cases registry key with ⟨_, ignored⟩ |
        ⟨_, _, ⟨_, served, _⟩ | ⟨_, _, _, state⟩⟩
      · rw [ignored] at answer
        cases answer
      · rw [served] at answer
        cases answer
      · simp [state, struckOff?]

/-- An action strikes off and enrols what its outcome says. -/
theorem act_peers (registry : Registry count) (action : Action count) :
    (registry.act action).2.peers =
      (registry.peers.filter fun peer =>
          struckOff? (action, (registry.act action).1) ≠ some peer.key) ++
        (enrolled? (action, (registry.act action).1)).toList := by
  cases action with
  | acquire key => simpa [act, struckOff?] using acquire_peers registry key
  | release key =>
      change _ = _ ++ []
      rw [List.append_nil]
      exact release_peers registry key
  | lookup key => simp [act, struckOff?, enrolled?]
  | forEach visitor => simp [act, struckOff?, enrolled?]
  | onPool pool call => simp [act, struckOff?, enrolled?, onPool]

/-- A registry that is a record of its past stays one. -/
theorem after_standing {registry : Registry count} {past : List (Action count × Outcome)}
    (recorded : registry.peers = standing past) (actions : List (Action count)) :
    (registry.after actions).peers = standing (past ++ registry.history actions) := by
  induction actions generalizing registry past with
  | nil => rw [history, List.append_nil]; exact recorded
  | cons action actions ih =>
      have step := act_peers registry action
      rw [recorded, ← standing_concat] at step
      have later := ih step
      rw [List.append_assoc] at later
      exact later

/-- Whoever is registered after a run that began without peers has the addresses that an
acquisition in the run was answered with. -/
theorem exists_granted_of_peer {registry : Registry count} (noPeers : registry.peers = [])
    {actions : List (Action count)} {peer : Peer} (member : peer ∈ (registry.after actions).peers) :
    ∃ earlier later, actions = earlier ++ .acquire peer.key :: later ∧
      ((registry.after earlier).acquire peer.key).answer = .ok peer.addresses := by
  have unrecorded : registry.peers = @standing count [] := noPeers
  rw [after_standing unrecorded, List.nil_append, mem_standing] at member
  obtain ⟨before, entry, behind, split, enrols, _⟩ := member
  have isEntry : entry ∈ registry.history actions := by
    rw [split]
    exact List.mem_append_right _ List.mem_cons_self
  obtain ⟨earlier, action, later, isRun, same⟩ := mem_history.mp isEntry
  rw [(enrolled?_eq_some entry peer).mp enrols] at same
  obtain ⟨rfl, outcome⟩ := Prod.mk.inj same
  exact ⟨earlier, later, isRun, (Outcome.acquired.inj outcome).symm⟩

/-- Every key that is registered can identify someone. -/
theorem act_named {registry : Registry count}
    (named : ∀ peer ∈ registry.peers, peer.key.isVoid = false) (action : Action count) :
    ∀ peer ∈ (registry.act action).2.peers, peer.key.isVoid = false := by
  intro peer member
  rw [act_peers, List.mem_append, List.mem_filter, Option.mem_toList, enrolled?_eq_some] at member
  rcases member with ⟨before, _⟩ | enrolled
  · exact named peer before
  · obtain ⟨rfl, served⟩ := Prod.mk.inj enrolled
    have answer : (registry.acquire peer.key).answer = .ok peer.addresses :=
      Outcome.acquired.inj served
    rcases acquire_cases registry peer.key with ⟨_, refused⟩ | ⟨_, refused⟩ | ⟨isNamed, _⟩
    · rw [refused] at answer
      cases answer
    · rw [refused] at answer
      cases answer
    · exact isNamed

theorem after_named {registry : Registry count}
    (named : ∀ peer ∈ registry.peers, peer.key.isVoid = false) (actions : List (Action count)) :
    ∀ peer ∈ (registry.after actions).peers, peer.key.isVoid = false := by
  induction actions generalizing registry with
  | nil => exact named
  | cons action actions ih => exact ih (act_named named action)

theorem lookup_eq_some_iff {registry : Registry count}
    (keys : (registry.peers.map Peer.key).Nodup) (key : PeerKey) (peer : Peer) :
    registry.lookup key = some peer ↔ peer ∈ registry.peers ∧ peer.key = key := by
  have sound {other : Peer} (found : registry.lookup key = some other) :
      other ∈ registry.peers ∧ other.key = key := by
    have isKey := List.find?_some found
    exact ⟨List.mem_of_find?_eq_some found, eq_of_beq isKey⟩
  refine ⟨sound, ?_⟩
  rintro ⟨member, isKey⟩
  cases found : registry.lookup key with
  | none => exact absurd isKey ((lookup_eq_none_iff registry key).mp found peer member)
  | some other =>
      obtain ⟨otherMember, otherKey⟩ := sound found
      rw [List.inj_on_of_nodup_map keys otherMember member (otherKey.trans isKey.symm)]

theorem has_iff (registry : Registry count) (key : PeerKey) :
    registry.has key = true ↔ ∃ peer ∈ registry.peers, peer.key = key := by
  simp [has, lookup]

/-- Neither an acquisition nor a release has a part in what another key stands for. -/
theorem lookup_of_ne (registry : Registry count) {key other : PeerKey} (different : key ≠ other) :
    (registry.acquire key).state.lookup other = registry.lookup other ∧
      (registry.release key).state.lookup other = registry.lookup other := by
  constructor
  · have unmatched : ((@enrolled? count (.acquire key, .acquired
        (registry.acquire key).answer)).toList.find? fun peer => peer.key == other) = none := by
      rw [List.find?_eq_none]
      intro peer enrolled
      rw [Option.mem_toList, enrolled?_eq_some] at enrolled
      have sameKey : key = peer.key := Action.acquire.inj (congrArg Prod.fst enrolled)
      rw [← sameKey, beq_iff_eq]
      exact different
    rw [lookup, acquire_peers, List.find?_append, unmatched, Option.or_none]
    rfl
  · rw [lookup, release_peers, List.find?_filter, lookup]
    congr 1
    funext peer
    by_cases isOther : peer.key = other
    · simp [isOther, struckOff?_eq_some, different]
    · simp [isOther]

/-- An acquisition is refused for a key in use exactly if somebody is registered under it. -/
theorem acquire_alreadyRegistered_iff {registry : Registry count}
    (invariant : ∀ pool : Fin count, (registry.pools.get pool).Invariant)
    (named : ∀ peer ∈ registry.peers, peer.key.isVoid = false) (key used : PeerKey) :
    (registry.acquire key).answer = .error (.refused (.alreadyRegistered used)) ↔
      used = key ∧ ∃ peer ∈ registry.peers, peer.key = key := by
  rw [← has_iff]
  rcases acquire_cases registry key with ⟨isVoid, refused⟩ | ⟨registered, refused⟩ |
    ⟨_, unregistered, ⟨_, answer, _⟩ | ⟨cause, refusal, _, outcome⟩⟩
  · have unregistered : ¬ registry.has key = true := by
      rw [has_iff]
      rintro ⟨peer, member, rfl⟩
      rw [named peer member] at isVoid
      cases isVoid
    simp [refused, unregistered]
  · simp [refused, registered, eq_comm]
  · simp [answer, unregistered]
  · have leased := leaseEach_leased (fun pool => (invariant pool).range) registry.positions
    obtain ⟨pool, _, reason, _⟩ := leased.refused cause refusal
    rcases outcome with ⟨_, answer⟩ | ⟨violation, _, answer⟩
    · simp [answer, reason, unregistered]
    · simp [answer, unregistered]

section Visits

variable {visitor : List Peer → Peer → Verdict}

/-- The visitor has seen some peers and wants to go on after each of the next ones. -/
def GoesOn (visitor : List Peer → Peer → Verdict) (seen : List Peer) : List Peer → Prop
  | [] => True
  | peer :: peers => visitor seen peer = .next ∧ GoesOn visitor (seen ++ [peer]) peers

theorem visitPeers_of_goesOn {seen first : List Peer} (goesOn : GoesOn visitor seen first)
    (rest : List Peer) :
    visitPeers (fun seen peer => (seen ++ [peer], visitor seen peer)) seen (first ++ rest) =
      visitPeers (fun seen peer => (seen ++ [peer], visitor seen peer)) (seen ++ first) rest := by
  induction first generalizing seen with
  | nil => simp
  | cons peer first ih =>
      obtain ⟨wantsNext, later⟩ := goesOn
      have continued := ih later
      rw [List.append_assoc, List.singleton_append] at continued
      rw [List.cons_append, visitPeers, wantsNext]
      exact continued

theorem act_forEach_of_goesOn {registry : Registry count}
    (goesOn : GoesOn visitor [] registry.peers) :
    registry.act (.forEach visitor) = (.visited registry.peers none, registry) := by
  have visits := visitPeers_of_goesOn goesOn []
  rw [List.append_nil, List.nil_append] at visits
  rw [act, forEach, visits]
  rfl

/-- A visitor that does not go on has been shown the peers up to the one at which it
does not, and the registry is what it was. -/
theorem act_forEach_of_halt {registry : Registry count} {first rest : List Peer} {last : Peer}
    (split : registry.peers = first ++ last :: rest) (goesOn : GoesOn visitor [] first) :
    (visitor first last = .stop →
        registry.act (.forEach visitor) = (.visited (first ++ [last]) none, registry)) ∧
      ∀ reason, visitor first last = .abort reason →
        registry.act (.forEach visitor) =
          (.visited (first ++ [last]) (some reason), registry) := by
  have visits := visitPeers_of_goesOn goesOn (last :: rest)
  rw [← split, List.nil_append, visitPeers] at visits
  constructor
  · intro stops
    rw [stops] at visits
    rw [act, forEach, visits]
  · intro reason aborts
    rw [aborts] at visits
    rw [act, forEach, visits]

end Visits

/-- The peers of a registry are those that its history has enrolled and not struck off
since.  Look-ups, counts and visits show this record and nothing else. -/
theorem after_record (blocks : Vector Block count) (positions : List (Fin count))
    (actions : List (Action count)) :
    let registry := (overNew blocks positions).after actions
    let history := (overNew blocks positions).history actions
    let record := standing history
    ((∀ peer, peer ∈ record ↔
          StillOpen (fun entry => entry = (.acquire peer.key, .acquired (.ok peer.addresses)))
            (fun entry => entry = (.release peer.key, .released (.ok ()))) history) ∧
        (record.map Peer.key).Nodup) ∧
      (registry.size = record.length ∧
        ∀ key, (registry.has key = true ↔ ∃ peer ∈ record, peer.key = key) ∧
          (∀ peer, registry.lookup key = some peer ↔ peer ∈ record ∧ peer.key = key) ∧
          ∀ used, (registry.acquire key).answer = .error (.refused (.alreadyRegistered used)) ↔
            used = key ∧ ∃ peer ∈ record, peer.key = key) ∧
      ((∀ content bytes, PeerKey.text content ≠ PeerKey.bytes bytes) ∧
        ∀ key other, key ≠ other →
          (registry.acquire key).state.lookup other = registry.lookup other ∧
            (registry.release key).state.lookup other = registry.lookup other) ∧
      ∀ visitor : List Peer → Peer → Verdict,
        (GoesOn visitor [] record →
          registry.act (.forEach visitor) = (.visited record none, registry)) ∧
        ∀ first last rest, record = first ++ last :: rest → GoesOn visitor [] first →
          (visitor first last = .stop →
              registry.act (.forEach visitor) = (.visited (first ++ [last]) none, registry)) ∧
            ∀ reason, visitor first last = .abort reason →
              registry.act (.forEach visitor) =
                (.visited (first ++ [last]) (some reason), registry) := by
  intro registry history record
  have unrecorded : (overNew blocks positions).peers = @standing count [] := rfl
  have recorded : registry.peers = record := after_standing unrecorded actions
  have named : ∀ peer ∈ registry.peers, peer.key.isVoid = false := by
    refine after_named ?_ actions
    intro peer none
    cases none
  have orderly : Orderly registry := (overNew_orderly blocks positions).after actions
  have invariant : ∀ pool : Fin count, (registry.pools.get pool).Invariant :=
    after_invariant blocks positions actions
  rw [← recorded]
  refine ⟨⟨?_, orderly.keys⟩, ⟨rfl, ?_⟩, ⟨fun _ _ => nofun, ?_⟩, ?_⟩
  · intro peer
    rw [recorded, mem_standing]
    simp only [enrolled?_eq_some, struckOff?_eq_some]
  · intro key
    exact ⟨has_iff registry key, lookup_eq_some_iff orderly.keys key,
      acquire_alreadyRegistered_iff invariant named key⟩
  · intro key other different
    exact lookup_of_ne registry different
  · intro visitor
    exact ⟨act_forEach_of_goesOn, fun _ _ _ split goesOn => act_forEach_of_halt split goesOn⟩

end Registry

end TunnelLease

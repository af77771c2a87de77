import TunnelLease.Proofs.Registry.Record
import TunnelLease.Proofs.Service.Run

/-!
# Responses stay true

The service shows a peer in four ways: in the answer to the request that adds it, by its
key, in the listing, and by saying that it is there.  All of them agree from the moment at
which the peer is admitted until it is dismissed, by a request or by the registry itself,
and no request has a part in a peer with another key.  The key of a request is always a
text, so peers with byte keys are left alone even where a text looks like one of them.
-/

namespace TunnelLease

namespace Service

variable {count : Nat}

/-- The actions of a run with their outcomes. -/
def history (registry : Registry count) : List (Action count) → List (Action count × Outcome)
  | [] => []
  | action :: actions =>
      (action, (act registry action).1) :: history (act registry action).2 actions

/-- A request or the registry admits the peer with a key, and the answer shows the view. -/
inductive Admits (key : PeerKey) (view : PeerView) : Action count × Outcome → Prop
  | request (identity : Identity) (content : String) (accepted : identity.accept = .ok content)
      (isKey : key = .text content) : Admits key view (.add identity, .added (.ok view))
  | registry (addresses : List Address) (isView : view = Peer.view ⟨key, addresses⟩) :
      Admits key view (.onRegistry (.acquire key), .acted (.acquired (.ok addresses)))

/-- A request or the registry dismisses the peer with a key. -/
inductive Dismisses (key : PeerKey) : Action count × Outcome → Prop
  | request (identity : Identity) (content : String) (accepted : identity.accept = .ok content)
      (isKey : key = .text content) : Dismisses key (.remove identity, .removed (.ok ()))
  | registry : Dismisses key (.onRegistry (.release key), .acted (.released (.ok ())))

/-- The key that a request of the service is about, if it may change something. -/
def Action.subject? : Action count → Option PeerKey
  | .add identity | .remove identity =>
      match identity.accept with
      | .error _ => none
      | .ok content => some (.text content)
  | .has _ | .get _ | .list | .onRegistry _ => none

/-- The action is a request to the service. -/
def Action.IsRequest : Action count → Prop
  | .onRegistry _ => False
  | _ => True

/-- What is shown under a key is the view of the peer that is registered under it. -/
theorem get_iff_mem {registry : Registry count} (orderly : registry.Orderly) (key : PeerKey)
    (view : PeerView) :
    get registry key = some view ↔
      ∃ peer ∈ registry.peers, peer.key = key ∧ peer.view = view := by
  rw [get, Option.map_eq_some_iff]
  simp only [Registry.lookup_eq_some_iff orderly.keys, and_assoc]

/-- Under a key there is afterwards what was there before, or the peer of the acquisition. -/
theorem get_acquire {registry : Registry count} (orderly : registry.Orderly)
    (key other : PeerKey) (view : PeerView) :
    get (registry.acquire key).state other = some view ↔
      (other = key ∧ ∃ addresses, (registry.acquire key).answer = .ok addresses ∧
        view = Peer.view ⟨key, addresses⟩) ∨ get registry other = some view := by
  rw [get_iff_mem (orderly.acquire key), get_iff_mem orderly, Registry.acquire_peers]
  simp only [List.mem_append, Option.mem_toList, Registry.enrolled?_eq_some]
  constructor
  · rintro ⟨peer, before | enrolled, rfl, rfl⟩
    · exact Or.inr ⟨peer, before, rfl, rfl⟩
    · obtain ⟨acquired, answered⟩ := Prod.mk.inj enrolled
      cases Registry.Action.acquire.inj acquired
      exact Or.inl ⟨rfl, peer.addresses, Registry.Outcome.acquired.inj answered, rfl⟩
  · rintro (⟨rfl, addresses, answer, rfl⟩ | ⟨peer, before, isKey⟩)
    · exact ⟨⟨other, addresses⟩, Or.inr (by rw [answer]), rfl, rfl⟩
    · exact ⟨peer, Or.inl before, isKey⟩

/-- Under a key there is afterwards what was there before, unless it was released. -/
theorem get_release {registry : Registry count} (orderly : registry.Orderly)
    (key other : PeerKey) (view : PeerView) :
    get (registry.release key).state other = some view ↔
      ¬ (other = key ∧ (registry.release key).answer = .ok ()) ∧
        get registry other = some view := by
  rw [get_iff_mem (orderly.release key), get_iff_mem orderly, Registry.release_peers]
  have struckOff (peer : Peer) : @Registry.struckOff? count
      (.release key, .released (registry.release key).answer) = some peer.key ↔
        peer.key = key ∧ (registry.release key).answer = .ok () := by
    rw [Registry.struckOff?_eq_some]
    simp [eq_comm]
  simp only [List.mem_filter, decide_eq_true_eq, ne_eq, struckOff]
  constructor
  · rintro ⟨peer, ⟨before, kept⟩, rfl, rfl⟩
    exact ⟨kept, peer, before, rfl, rfl⟩
  · rintro ⟨kept, peer, before, rfl, rfl⟩
    exact ⟨peer, ⟨before, kept⟩, rfl, rfl⟩

section Requests

variable {registry : Registry count} {identity : Identity} {content : String}

/-- A request that is accepted comes down to the acquisition of its very text. -/
theorem add_of_accept (accepted : identity.accept = .ok content) :
    (add registry identity).state = (registry.acquire (.text content)).state ∧
      (∀ view, (add registry identity).answer = .ok view ↔
        ∃ addresses, (registry.acquire (.text content)).answer = .ok addresses ∧
          view = Peer.view ⟨.text content, addresses⟩) ∧
      ∀ cause, (add registry identity).answer = .error cause ↔
        ∃ failure, (registry.acquire (.text content)).answer = .error failure ∧
          cause = .failed failure := by
  cases answer : (registry.acquire (.text content)).answer with
  | ok addresses => simp [add, accepted, answer, eq_comm]
  | error failure => simp [add, accepted, answer, eq_comm]

theorem remove_of_accept (accepted : identity.accept = .ok content) :
    (remove registry identity).state = (registry.release (.text content)).state ∧
      ((remove registry identity).answer = .ok () ↔
        (registry.release (.text content)).answer = .ok ()) := by
  cases answer : (registry.release (.text content)).answer with
  | ok done => simp [remove, accepted, answer, Except.mapError]
  | error violation => simp [remove, accepted, answer, Except.mapError]

theorem add_of_reject {cause : Rejection} (rejected : identity.accept = .error cause) :
    add registry identity = ⟨.error (.rejected cause), registry, []⟩ := by
  rw [add, rejected]

theorem remove_of_reject {cause : Rejection} (rejected : identity.accept = .error cause) :
    remove registry identity = ⟨.error (.rejected cause), registry, []⟩ := by
  rw [remove, rejected]

theorem has_of_accept (accepted : identity.accept = .ok content) :
    has registry identity = .ok (registry.has (.text content)) := by
  rw [has, accepted]
  rfl

end Requests

section Entries

variable {identity : Identity} {content : String}

theorem admits_request_iff (accepted : identity.accept = .ok content) (key : PeerKey)
    (view : PeerView) (answer : Except Failure PeerView) :
    @Admits count key view (.add identity, .added answer) ↔
      key = .text content ∧ answer = .ok view := by
  constructor
  · intro admits
    cases admits with
    | request _ other isAccepted isKey =>
        cases accepted.symm.trans isAccepted
        exact ⟨isKey, rfl⟩
  · rintro ⟨isKey, rfl⟩
    exact Admits.request identity content accepted isKey

theorem admits_registry_iff (acquired key : PeerKey) (view : PeerView)
    (answer : Except TunnelLease.Failure (List Address)) :
    @Admits count key view (.onRegistry (.acquire acquired), .acted (.acquired answer)) ↔
      key = acquired ∧ ∃ addresses, answer = .ok addresses ∧
        view = Peer.view ⟨acquired, addresses⟩ := by
  constructor
  · intro admits
    cases admits with
    | registry addresses isView => exact ⟨rfl, addresses, rfl, isView⟩
  · rintro ⟨rfl, addresses, rfl, isView⟩
    exact Admits.registry addresses isView

theorem dismisses_request_iff (accepted : identity.accept = .ok content) (key : PeerKey)
    (answer : Except Failure Unit) :
    @Dismisses count key (.remove identity, .removed answer) ↔
      key = .text content ∧ answer = .ok () := by
  constructor
  · intro dismisses
    cases dismisses with
    | request _ other isAccepted isKey =>
        cases accepted.symm.trans isAccepted
        exact ⟨isKey, rfl⟩
  · rintro ⟨isKey, rfl⟩
    exact Dismisses.request identity content accepted isKey

theorem dismisses_registry_iff (released key : PeerKey) (answer : Except Violation Unit) :
    @Dismisses count key (.onRegistry (.release released), .acted (.released answer)) ↔
      key = released ∧ answer = .ok () := by
  constructor
  · intro dismisses
    cases dismisses
    exact ⟨rfl, rfl⟩
  · rintro ⟨rfl, rfl⟩
    exact Dismisses.registry

end Entries

section Steps

variable {registry : Registry count} (orderly : registry.Orderly) (key : PeerKey)
  (view : PeerView)

/-- Under a key is shown later what the entry admits, or what was shown before and is not
dismissed by the entry. -/
def Shows (registry later : Registry count) (key : PeerKey) (view : PeerView)
    (entry : Action count × Outcome) : Prop :=
  get later key = some view ↔
    Admits key view entry ∨ (¬ Dismisses key entry ∧ get registry key = some view)

theorem shows_same {entry : Action count × Outcome} (unadmitted : ¬ Admits key view entry)
    (undismissed : ¬ Dismisses key entry) : Shows registry registry key view entry := by
  rw [Shows, or_iff_right unadmitted, and_iff_right undismissed]

include orderly in
theorem shows_add (identity : Identity) :
    Shows registry (add registry identity).state key view
      (.add identity, .added (add registry identity).answer) := by
  cases accepted : identity.accept with
  | error cause =>
      rw [add_of_reject accepted]
      exact shows_same key view nofun nofun
  | ok content =>
      obtain ⟨state, served, _⟩ := @add_of_accept count registry identity content accepted
      have undismissed : ¬ Dismisses key
          ((.add identity : Action count), .added (add registry identity).answer) := nofun
      rw [Shows, and_iff_right undismissed, admits_request_iff accepted, state,
        get_acquire orderly, served]

include orderly in
theorem shows_remove (identity : Identity) :
    Shows registry (remove registry identity).state key view
      (.remove identity, .removed (remove registry identity).answer) := by
  cases accepted : identity.accept with
  | error cause =>
      rw [remove_of_reject accepted]
      exact shows_same key view nofun nofun
  | ok content =>
      obtain ⟨state, served⟩ := @remove_of_accept count registry identity content accepted
      have unadmitted : ¬ Admits key view
          ((.remove identity : Action count), .removed (remove registry identity).answer) := nofun
      rw [Shows, or_iff_right unadmitted, dismisses_request_iff accepted, state,
        get_release orderly, served]

include orderly in
theorem shows_onRegistry (action : Registry.Action count) :
    Shows registry (registry.act action).2 key view
      (.onRegistry action, .acted (registry.act action).1) := by
  cases action with
  | acquire acquired =>
      change Shows _ (registry.acquire acquired).state _ _
        (_, .acted (.acquired (registry.acquire acquired).answer))
      have undismissed : ¬ Dismisses key ((.onRegistry (.acquire acquired) : Action count),
          .acted (.acquired (registry.acquire acquired).answer)) := nofun
      rw [Shows, and_iff_right undismissed, admits_registry_iff, get_acquire orderly]
  | release released =>
      change Shows _ (registry.release released).state _ _
        (_, .acted (.released (registry.release released).answer))
      have unadmitted : ¬ Admits key view ((.onRegistry (.release released) : Action count),
          .acted (.released (registry.release released).answer)) := nofun
      rw [Shows, or_iff_right unadmitted, dismisses_registry_iff, get_release orderly]
  | lookup key' => exact shows_same key view nofun nofun
  | forEach visitor => exact shows_same key view nofun nofun
  | onPool pool call => exact shows_same key view nofun nofun

include orderly in
theorem shows_act (action : Action count) :
    Shows registry (act registry action).2 key view (action, (act registry action).1) := by
  cases action with
  | add identity => exact shows_add orderly key view identity
  | remove identity => exact shows_remove orderly key view identity
  | has identity => exact shows_same key view nofun nofun
  | get key' => exact shows_same key view nofun nofun
  | list => exact shows_same key view nofun nofun
  | onRegistry action => exact shows_onRegistry orderly key view action

end Steps

theorem act_orderly {registry : Registry count} (orderly : registry.Orderly)
    (action : Action count) : (act registry action).2.Orderly := by
  rw [act_eq_after]
  exact orderly.after action.effect

theorem after_orderly {registry : Registry count} (orderly : registry.Orderly)
    (actions : List (Action count)) : (after registry actions).Orderly := by
  rw [after_eq]
  exact orderly.after _

/-- One action keeps a service showing what its past has admitted and not dismissed since. -/
theorem get_act {registry : Registry count} (orderly : registry.Orderly)
    {past : List (Action count × Outcome)} (recorded : ∀ key view,
      get registry key = some view ↔ StillOpen (Admits key view) (Dismisses key) past)
    (action : Action count) (key : PeerKey) (view : PeerView) :
    get (act registry action).2 key = some view ↔
      StillOpen (Admits key view) (Dismisses key)
        (past ++ [(action, (act registry action).1)]) := by
  rw [stillOpen_concat, ← recorded]
  exact shows_act orderly key view action

/-- A service that shows what its past has admitted and not dismissed since goes on so. -/
theorem get_after {registry : Registry count} (orderly : registry.Orderly)
    {past : List (Action count × Outcome)} (recorded : ∀ key view,
      get registry key = some view ↔ StillOpen (Admits key view) (Dismisses key) past)
    (actions : List (Action count)) (key : PeerKey) (view : PeerView) :
    get (after registry actions) key = some view ↔
      StillOpen (Admits key view) (Dismisses key) (past ++ history registry actions) := by
  induction actions generalizing registry past with
  | nil =>
      rw [history, List.append_nil]
      exact recorded key view
  | cons action actions ih =>
      rw [history, List.append_cons]
      exact ih (act_orderly orderly action) (get_act orderly recorded action)

/-- A request leaves alone what is registered under other keys than its own. -/
theorem lookup_of_request {registry : Registry count} {action : Action count}
    (request : action.IsRequest) {key : PeerKey} (other : action.subject? ≠ some key) :
    (act registry action).2.lookup key = registry.lookup key := by
  cases action with
  | add identity =>
      change (add registry identity).state.lookup key = _
      cases accepted : identity.accept with
      | error cause => rw [add_of_reject accepted]
      | ok content =>
          rw [(add_of_accept accepted).1]
          apply (Registry.lookup_of_ne registry _).1
          simpa [Action.subject?, accepted] using other
  | remove identity =>
      change (remove registry identity).state.lookup key = _
      cases accepted : identity.accept with
      | error cause => rw [remove_of_reject accepted]
      | ok content =>
          rw [(remove_of_accept accepted).1]
          apply (Registry.lookup_of_ne registry _).2
          simpa [Action.subject?, accepted] using other
  | has identity => rfl
  | get key' => rfl
  | list => rfl
  | onRegistry action => exact absurd request not_false

/-- The key of a request is a text. -/
theorem subject?_ne_bytes (action : Action count) (bytes : List UInt8) :
    action.subject? ≠ some (.bytes bytes) := by
  cases action with
  | add identity => rw [Action.subject?]; cases identity.accept <;> nofun
  | remove identity => rw [Action.subject?]; cases identity.accept <;> nofun
  | has identity => nofun
  | get key => nofun
  | list => nofun
  | onRegistry action => nofun

/-- The listing has one entry for each registered key, the one that is shown under it. -/
theorem exists_entries {registry : Registry count} (orderly : registry.Orderly) :
    ∃ entries : List (PeerKey × PeerView), (entries.map Prod.fst).Nodup ∧
      list registry = entries.map Prod.snd ∧
      ∀ key view, (key, view) ∈ entries ↔ get registry key = some view := by
  refine ⟨(listed registry).map fun peer => (peer.key, peer.view), ?_, ?_, ?_⟩
  · rw [List.map_map]
    exact ((listed_perm registry).map Peer.key).nodup_iff.mpr orderly.keys
  · rw [List.map_map, list_eq]
    rfl
  · intro key view
    rw [get_iff_mem orderly, List.mem_map]
    simp only [Prod.mk.injEq, (listed_perm registry).mem_iff]

theorem accept_of_visible {content : String}
    (visible : ∃ c ∈ content.toList, Text.isBlank c = false) :
    Identity.accept (.text content) = .ok content := by
  obtain ⟨c, member, shown⟩ := visible
  have written : content ≠ "" := by
    rintro rfl
    cases member
  have unblank : ¬ Text.isAllBlank content.toList = true := by
    rw [Text.isAllBlank, List.all_eq_true]
    intro blank
    rw [blank c member] at shown
    cases shown
  rw [Identity.accept, acceptText, if_neg written, if_neg unblank]

/-- Where nobody is registered under a text, it finds and removes nobody. -/
theorem absent_of_lookup {registry : Registry count} {content : String}
    (absent : registry.lookup (.text content) = none) {identity : Identity}
    (accepted : identity.accept = .ok content) :
    get registry (.text content) = none ∧ has registry identity = .ok false ∧
      remove registry identity = ⟨.ok (), registry, []⟩ := by
  refine ⟨?_, ?_, ?_⟩
  · rw [get, absent]
    rfl
  · rw [has_of_accept accepted, Registry.has, absent]
    rfl
  · rw [remove, accepted]
    simp only [Registry.release, absent]
    rfl

theorem has_iff_get (registry : Registry count) {identity : Identity} {content : String}
    (accepted : identity.accept = .ok content) :
    has registry identity = .ok true ↔ ∃ view, get registry (.text content) = some view := by
  rw [has_of_accept accepted, Registry.has, get]
  cases registry.lookup (.text content) <;> simp

/-- What the service shows under a key is what the last admission under it was answered
with, until somebody dismisses it.  Requests under one key have no part in any other. -/
theorem responses_stay_true (blocks : Vector Block count) (positions : List (Fin count))
    (actions : List (Action count)) :
    let now := after (Registry.overNew blocks positions) actions
    let past := history (Registry.overNew blocks positions) actions
    (∀ content, (∃ c ∈ content.toList, Text.isBlank c = false) →
      (add now (.text content)).state = (now.acquire (.text content)).state ∧
      (∀ view, (add now (.text content)).answer = .ok view ↔
        ∃ addresses, (now.acquire (.text content)).answer = .ok addresses ∧
          view = Peer.view ⟨.text content, addresses⟩) ∧
      ∀ cause, (add now (.text content)).answer = .error cause ↔
        ∃ failure, (now.acquire (.text content)).answer = .error failure ∧
          cause = .failed failure) ∧
    ((∀ key view, get now key = some view ↔
        StillOpen (Admits key view) (Dismisses key) past) ∧
      (∀ identity content, identity.accept = .ok content →
        (has now identity = .ok true ↔
          ∃ view, StillOpen (Admits (.text content) view) (Dismisses (.text content)) past)) ∧
      ∃ entries : List (PeerKey × PeerView), (entries.map Prod.fst).Nodup ∧
        list now = entries.map Prod.snd ∧
        ∀ key view, (key, view) ∈ entries ↔
          StillOpen (Admits key view) (Dismisses key) past) ∧
    (∀ request : Action count, request.IsRequest →
      (∀ key, request.subject? ≠ some key →
        (act now request).2.lookup key = now.lookup key) ∧
      ∀ bytes, (act now request).2.lookup (.bytes bytes) = now.lookup (.bytes bytes)) ∧
    ∀ identity content, identity.accept = .ok content →
      now.lookup (.text content) = none →
        get now (.text content) = none ∧ has now identity = .ok false ∧
          remove now identity = ⟨.ok (), now, []⟩ := by
  intro now past
  have opened := Registry.overNew_orderly blocks positions
  have orderly : now.Orderly := after_orderly opened actions
  have unrecorded (key : PeerKey) (view : PeerView) :
      get (Registry.overNew blocks positions) key = some view ↔
        StillOpen (Admits key view) (@Dismisses count key) [] :=
    iff_of_false nofun (not_stillOpen_nil _ _)
  have recorded : ∀ key view, get now key = some view ↔
      StillOpen (Admits key view) (Dismisses key) past :=
    get_after opened unrecorded actions
  refine ⟨?_, ⟨recorded, ?_, ?_⟩, ?_, ?_⟩
  · exact fun content visible => add_of_accept (accept_of_visible visible)
  · intro identity content accepted
    rw [has_iff_get now accepted]
    simp only [recorded]
  · obtain ⟨entries, distinct, listed, isEntry⟩ := exists_entries orderly
    refine ⟨entries, distinct, listed, ?_⟩
    intro key view
    rw [isEntry, recorded]
  · intro request isRequest
    refine ⟨fun key other => lookup_of_request isRequest other, ?_⟩
    intro bytes
    exact lookup_of_request isRequest (subject?_ne_bytes request bytes)
  · exact fun identity content accepted absent => absent_of_lookup absent accepted

end Service

end TunnelLease

import TunnelLease.Proofs.Service.Record
import TunnelLease.Proofs.Text.Places

/-!
# The listing

The listing has an entry for each registered peer and no other.  Its entries are in the
order of the code points of what is shown as the identity, and a byte key is shown in
hexadecimal, so a text and a byte string may look the same there.  Entries that do stay in
the order in which their peers were admitted, for a sort that is stable keeps the peers of
one identity in the order in which the registry has them.
-/

namespace TunnelLease

namespace Text

/-- The first text comes before the second in the order of their code points: at the first
place where they differ it has the smaller one or is at its end. -/
def ComesBefore (first second : String) : Prop :=
  List.Lex (· < ·) (first.toList.map Char.toNat) (second.toList.map Char.toNat)

theorem lex_map_toNat (first second : List Char) :
    List.Lex (· < ·) (first.map Char.toNat) (second.map Char.toNat) ↔
      List.Lex (· < ·) first second := by
  induction first generalizing second with
  | nil =>
      cases second with
      | nil => simp
      | cons c second => exact iff_of_true List.Lex.nil List.Lex.nil
  | cons c first ih =>
      cases second with
      | nil => simp
      | cons other second =>
          rw [List.map_cons, List.map_cons, List.cons_lex_cons_iff, List.cons_lex_cons_iff, ih,
            Char.toNat_inj]
          exact Iff.rfl

theorem comesBefore_iff (first second : String) : ComesBefore first second ↔ first < second :=
  lex_map_toNat first.toList second.toList

/-- Of two texts that differ, one comes before the other. -/
theorem comesBefore_or_eq {first second : String} (notBehind : ¬ second < first) :
    ComesBefore first second ∨ first = second := by
  rw [comesBefore_iff]
  by_cases before : first < second
  · exact Or.inl before
  · exact Or.inr (String.le_antisymm (String.not_lt.mp notBehind) (String.not_lt.mp before))

end Text

section Sorting

variable {α : Type} (key : α → String)

/-- The comparison by which a listing is sorted: the second does not come first. -/
def inOrder (first second : α) : Bool :=
  !(key second < key first)

theorem inOrder_trans (first second third : α) (before : inOrder key first second = true)
    (behind : inOrder key second third = true) : inOrder key first third = true := by
  simp only [inOrder, Bool.not_eq_true', decide_eq_false_iff_not, String.not_lt] at *
  exact String.le_trans before behind

theorem inOrder_total (first second : α) :
    (inOrder key first second || inOrder key second first) = true := by
  simp only [inOrder, Bool.or_eq_true, Bool.not_eq_true', decide_eq_false_iff_not, String.not_lt]
  exact String.le_total _ _

/-- Sorting keeps the entries of one key in their order. -/
theorem filter_mergeSort (entries : List α) (shown : String) :
    ((entries.mergeSort (inOrder key)).filter fun entry => key entry = shown) =
      entries.filter fun entry => key entry = shown := by
  have alike : (entries.filter fun entry => key entry = shown).Pairwise fun first second =>
      inOrder key first second = true := by
    rw [List.pairwise_filter]
    apply List.pairwise_of_forall
    intro first second isFirst isSecond
    rw [inOrder, of_decide_eq_true isFirst, of_decide_eq_true isSecond]
    rw [decide_eq_false (String.lt_irrefl shown), Bool.not_false]
  have kept := List.sublist_mergeSort (inOrder_trans key) (inOrder_total key) alike
    List.filter_sublist
  have among := kept.filter fun entry => key entry = shown
  rw [List.filter_filter] at among
  simp only [Bool.and_self] at among
  have length := ((List.mergeSort_perm entries (inOrder key)).filter
    fun entry => key entry = shown).length_eq
  exact (among.eq_of_length length.symm).symm

/-- A relation between the entries as they were is kept by sorting where keys are equal. -/
theorem pairwise_mergeSort_of_pairwise {entries : List α} {relation : α → α → Prop}
    (related : entries.Pairwise relation) :
    (entries.mergeSort (inOrder key)).Pairwise fun first second =>
      Text.ComesBefore (key first) (key second) ∨
        key first = key second ∧ relation first second := by
  have sorted := List.pairwise_mergeSort (inOrder_trans key) (inOrder_total key) entries
  rw [List.pairwise_iff_forall_sublist] at sorted related ⊢
  intro first second listed
  have inPlace : ¬ key second < key first := by simpa [inOrder] using sorted listed
  refine (Text.comesBefore_or_eq inPlace).imp_right fun same => ⟨same, related ?_⟩
  have among := listed.filter fun entry => key entry = key second
  rw [filter_mergeSort] at among
  simp only [same, List.filter_cons, decide_true, if_true, List.filter_nil] at among
  exact among.trans List.filter_sublist

end Sorting

/-- The hexadecimal digits in the order of their values, with small letters. -/
def Text.hexDigits : List Char :=
  "0123456789abcdef".toList

namespace PeerKey

/-- How a key is shown: a text as it is, and a byte string with two hexadecimal digits for
each byte. -/
inductive IsShownAs : PeerKey → String → Prop
  | text (content : String) : IsShownAs (.text content) content
  | bytes (content : List UInt8) (shown : String)
      (digits : shown.toList.map some = content.flatMap fun byte =>
        [Text.hexDigits[byte.toNat / 16]?, Text.hexDigits[byte.toNat % 16]?]) :
      IsShownAs (.bytes content) shown

theorem hexDigits_eq_digitChar {digit : Nat} (small : digit < 16) :
    Text.hexDigits[digit]? = some digit.digitChar := by
  have all : ∀ digit : Fin 16, Text.hexDigits[digit.val]? = some (Nat.digitChar digit) := by
    decide
  exact all ⟨digit, small⟩

theorem hexBytes_digits (content : List UInt8) :
    (Text.hexBytes content).map some = content.flatMap fun byte =>
      [Text.hexDigits[byte.toNat / 16]?, Text.hexDigits[byte.toNat % 16]?] := by
  rw [Text.hexBytes, List.map_flatMap]
  apply List.flatMap_congr
  intro byte _
  have high : byte.toNat / 16 < 16 := by
    have inRange := byte.toNat_lt
    omega
  rw [hexDigits_eq_digitChar high, hexDigits_eq_digitChar (Nat.mod_lt _ (by decide))]
  simp [Text.hexPadded, Text.places, Nat.mod_eq_of_lt high]

theorem isShownAs_id {key : PeerKey} (named : key.isVoid = false) : key.IsShownAs key.id := by
  cases key with
  | text content => exact IsShownAs.text content
  | bytes content =>
      refine IsShownAs.bytes content _ ?_
      rw [id, String.toList_ofList]
      exact hexBytes_digits content
  | absent => cases named

/-- A text may look like a byte string. -/
example : (PeerKey.text "0aff").id = (PeerKey.bytes [10, 255]).id := by decide +kernel

end PeerKey

namespace Service

variable {count : Nat}

/-- One peer was admitted before another, and neither has been dismissed since. -/
def AdmittedBefore (history : List (Action count × Outcome)) (first second : Peer) : Prop :=
  ∃ earlier entry later, history = earlier ++ entry :: later ∧
    Admits first.key first.view entry ∧ (∀ other ∈ later, ¬ Dismisses first.key other) ∧
    StillOpen (Admits second.key second.view) (Dismisses second.key) later

section Order

variable {history : List (Action count × Outcome)} {last : Action count × Outcome}
  {first second : Peer}

theorem AdmittedBefore.concat (before : AdmittedBefore history first second)
    (firstStays : ¬ Dismisses first.key last) (secondStays : ¬ Dismisses second.key last) :
    AdmittedBefore (history ++ [last]) first second := by
  obtain ⟨earlier, entry, later, rfl, admitted, undismissed, isOpen⟩ := before
  refine ⟨earlier, entry, later ++ [last], by simp, admitted, ?_, ?_⟩
  · intro other member
    rcases List.mem_append.mp member with inLater | isLast
    · exact undismissed other inLater
    · rw [List.mem_singleton.mp isLast]
      exact firstStays
  · exact (stillOpen_concat _ _ later last).mpr (Or.inr ⟨secondStays, isOpen⟩)

/-- Whoever is admitted last comes behind everybody who is still there. -/
theorem admittedBefore_concat_last
    (isOpen : StillOpen (Admits first.key first.view) (Dismisses first.key) history)
    (firstStays : ¬ Dismisses first.key last) (admitted : Admits second.key second.view last) :
    AdmittedBefore (history ++ [last]) first second := by
  obtain ⟨earlier, entry, later, rfl, opened, undismissed⟩ := isOpen
  refine ⟨earlier, entry, later ++ [last], by simp, opened, ?_, ?_⟩
  · intro other member
    rcases List.mem_append.mp member with inLater | isLast
    · exact undismissed other inLater
    · rw [List.mem_singleton.mp isLast]
      exact firstStays
  · exact (stillOpen_concat _ _ later last).mpr (Or.inl admitted)

end Order

theorem not_dismisses_of_admits {key : PeerKey} {view : PeerView}
    {entry : Action count × Outcome} (admits : Admits key view entry) :
    ¬ Dismisses key entry := by
  cases admits with
  | request => nofun
  | registry => nofun

theorem acquire_peers_cases (registry : Registry count) (key : PeerKey) :
    (∃ addresses, (registry.acquire key).answer = .ok addresses ∧
        (registry.acquire key).state.peers = registry.peers ++ [⟨key, addresses⟩]) ∨
      (registry.acquire key).state.peers = registry.peers := by
  rw [Registry.acquire_peers]
  cases answer : (registry.acquire key).answer with
  | error failure => exact Or.inr (List.append_nil _)
  | ok addresses => exact Or.inl ⟨addresses, rfl, rfl⟩

theorem release_peers_sublist (registry : Registry count) (key : PeerKey) :
    (registry.release key).state.peers.Sublist registry.peers := by
  rw [Registry.release_peers]
  exact List.filter_sublist

/-- An action adds the peer that it admits behind the others, or it adds nobody. -/
theorem act_peers (registry : Registry count) (action : Action count) :
    (∃ peer, Admits peer.key peer.view (action, (act registry action).1) ∧
        (act registry action).2.peers = registry.peers ++ [peer]) ∨
      (act registry action).2.peers.Sublist registry.peers := by
  cases action with
  | add identity =>
      simp only [act]
      cases accepted : identity.accept with
      | error cause =>
          rw [add_of_reject accepted]
          exact Or.inr (List.Sublist.refl _)
      | ok content =>
          obtain ⟨state, served, _⟩ := @add_of_accept count registry identity content accepted
          rw [state]
          rcases acquire_peers_cases registry (.text content) with
            ⟨addresses, answer, added⟩ | same
          · refine Or.inl ⟨⟨.text content, addresses⟩, ?_, added⟩
            rw [(served _).mpr ⟨addresses, answer, rfl⟩]
            exact Admits.request identity content accepted rfl
          · rw [same]
            exact Or.inr (List.Sublist.refl _)
  | remove identity =>
      right
      change (remove registry identity).state.peers.Sublist registry.peers
      cases accepted : identity.accept with
      | error cause =>
          rw [remove_of_reject accepted]
      | ok content =>
          rw [(remove_of_accept accepted).1]
          exact release_peers_sublist registry _
  | has identity => exact Or.inr (List.Sublist.refl _)
  | get key => exact Or.inr (List.Sublist.refl _)
  | list => exact Or.inr (List.Sublist.refl _)
  | onRegistry action =>
      cases action with
      | acquire key =>
          rcases acquire_peers_cases registry key with ⟨addresses, answer, added⟩ | same
          · refine Or.inl ⟨⟨key, addresses⟩, ?_, added⟩
            simp only [act, Registry.act, answer]
            exact Admits.registry addresses rfl
          · right
            change (registry.acquire key).state.peers.Sublist registry.peers
            rw [same]
      | release key => exact Or.inr (release_peers_sublist registry key)
      | lookup key => exact Or.inr (List.Sublist.refl _)
      | forEach visitor => exact Or.inr (List.Sublist.refl _)
      | onPool pool call => exact Or.inr (List.Sublist.refl _)

/-- Nobody who is there after an action was dismissed by it. -/
theorem not_dismisses_of_mem {registry : Registry count} (orderly : registry.Orderly)
    {action : Action count} {peer : Peer} (member : peer ∈ (act registry action).2.peers) :
    ¬ Dismisses peer.key (action, (act registry action).1) := by
  have shown := (get_iff_mem (act_orderly orderly action) peer.key peer.view).mpr
    ⟨peer, member, rfl, rfl⟩
  rcases (shows_act orderly peer.key peer.view action).mp shown with admits | ⟨stays, _⟩
  · exact not_dismisses_of_admits admits
  · exact stays

/-- One action keeps the peers in the order in which they were admitted. -/
theorem act_ordered {registry : Registry count} (orderly : registry.Orderly)
    {past : List (Action count × Outcome)} (recorded : ∀ key view,
      get registry key = some view ↔ StillOpen (Admits key view) (Dismisses key) past)
    (ordered : registry.peers.Pairwise (AdmittedBefore past)) (action : Action count) :
    (act registry action).2.peers.Pairwise
      (AdmittedBefore (past ++ [(action, (act registry action).1)])) := by
  have stays {peer : Peer} := @not_dismisses_of_mem count registry orderly action peer
  rcases act_peers registry action with ⟨peer, admitted, added⟩ | fewer
  · rw [added] at stays ⊢
    refine List.pairwise_append.mpr ⟨?_, List.pairwise_singleton _ peer, ?_⟩
    · refine ordered.imp_of_mem ?_
      intro first second isFirst isSecond before
      exact before.concat (stays (List.mem_append_left _ isFirst))
        (stays (List.mem_append_left _ isSecond))
    · intro first isFirst second isSecond
      rw [List.mem_singleton.mp isSecond]
      refine admittedBefore_concat_last ?_ (stays (List.mem_append_left _ isFirst)) admitted
      exact (recorded _ _).mp ((get_iff_mem orderly _ _).mpr ⟨first, isFirst, rfl, rfl⟩)
  · refine (ordered.sublist fewer).imp_of_mem ?_
    intro first second isFirst isSecond before
    exact before.concat (stays isFirst) (stays isSecond)

theorem after_ordered {registry : Registry count} (orderly : registry.Orderly)
    {past : List (Action count × Outcome)} (recorded : ∀ key view,
      get registry key = some view ↔ StillOpen (Admits key view) (Dismisses key) past)
    (ordered : registry.peers.Pairwise (AdmittedBefore past)) (actions : List (Action count)) :
    (after registry actions).peers.Pairwise
      (AdmittedBefore (past ++ history registry actions)) := by
  induction actions generalizing registry past with
  | nil =>
      rw [history, List.append_nil]
      exact ordered
  | cons action actions ih =>
      rw [history, List.append_cons]
      exact ih (act_orderly orderly action) (get_act orderly recorded action)
        (act_ordered orderly recorded ordered action)

/-- The listing shows each registered peer once, in the order of what is shown for their
keys.  Peers that look the same come in the order of their admission. -/
theorem listing_complete (blocks : Vector Block count) (positions : List (Fin count))
    (actions : List (Action count)) :
    let now := after (Registry.overNew blocks positions) actions
    let past := history (Registry.overNew blocks positions) actions
    ∃ order : List Peer,
      list now = order.map Peer.view ∧
      (order.Perm now.peers ∧ (order.map Peer.key).Nodup ∧ (list now).length = now.size) ∧
      (∀ key view, get now key = some view ↔
        ∃ peer ∈ order, peer.key = key ∧ peer.view = view) ∧
      (∀ peer ∈ order, peer.key.IsShownAs peer.view.id) ∧
      order.Pairwise fun first second =>
        Text.ComesBefore first.view.id second.view.id ∨
          first.view.id = second.view.id ∧ AdmittedBefore past first second := by
  intro now past
  have opened := Registry.overNew_orderly blocks positions
  have orderly : now.Orderly := after_orderly opened actions
  have permuted := listed_perm now
  have unrecorded (key : PeerKey) (view : PeerView) :
      get (Registry.overNew blocks positions) key = some view ↔
        StillOpen (Admits key view) (@Dismisses count key) [] :=
    iff_of_false nofun (not_stillOpen_nil _ _)
  have ordered : now.peers.Pairwise (AdmittedBefore past) :=
    after_ordered opened unrecorded List.Pairwise.nil actions
  refine ⟨listed now, list_eq now, ⟨permuted, ?_, ?_⟩, ?_, ?_, ?_⟩
  · exact (permuted.map Peer.key).nodup_iff.mpr orderly.keys
  · rw [list_eq, List.length_map, permuted.length_eq]
    rfl
  · intro key view
    simp only [get_iff_mem orderly, permuted.mem_iff]
  · intro peer member
    have isRun : now = (Registry.overNew blocks positions).after (actions.flatMap Action.effect) :=
      after_eq _ actions
    have named : ∀ peer ∈ now.peers, peer.key.isVoid = false := by
      rw [isRun]
      refine Registry.after_named ?_ _
      intro peer none
      cases none
    exact PeerKey.isShownAs_id (named peer (permuted.mem_iff.mp member))
  · exact pairwise_mergeSort_of_pairwise (fun peer => peer.view.id) ordered

end Service

end TunnelLease

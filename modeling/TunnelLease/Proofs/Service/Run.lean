import TunnelLease.Proofs.Registry.Churn
import TunnelLease.Service.Basic

/-!
# Runs of the peer service

A run of the service is a sequence of requests to it and of actions on its registry.
Every request comes down to actions of the registry: an identity that is accepted is
acquired or released under its text, and nothing else changes the registry.  So a run of
the service is a run of the registry.
-/

namespace TunnelLease

namespace Service

variable {count : Nat}

/-- What can be asked of a service and of the registry behind it. -/
inductive Action (count : Nat) where
  | add (identity : Identity)
  | remove (identity : Identity)
  | has (identity : Identity)
  | get (key : PeerKey)
  | list
  | onRegistry (action : Registry.Action count)

/-- What comes of an action. -/
inductive Outcome where
  | added (answer : Except Failure PeerView)
  | removed (answer : Except Failure Unit)
  | checked (answer : Except Rejection Bool)
  | found (view : Option PeerView)
  | listed (views : List PeerView)
  | acted (outcome : Registry.Outcome)

def act (registry : Registry count) : Action count → Outcome × Registry count
  | .add identity =>
      let reply := add registry identity
      (.added reply.answer, reply.state)
  | .remove identity =>
      let reply := remove registry identity
      (.removed reply.answer, reply.state)
  | .has identity => (.checked (has registry identity), registry)
  | .get key => (.found (get registry key), registry)
  | .list => (.listed (list registry), registry)
  | .onRegistry action =>
      let acted := registry.act action
      (.acted acted.1, acted.2)

def after (registry : Registry count) : List (Action count) → Registry count
  | [] => registry
  | action :: actions => after (act registry action).2 actions

/-- The actions of the registry that an action of the service comes down to. -/
def Action.effect : Action count → List (Registry.Action count)
  | .add identity =>
      match identity.accept with
      | .error _ => []
      | .ok text => [.acquire (.text text)]
  | .remove identity =>
      match identity.accept with
      | .error _ => []
      | .ok text => [.release (.text text)]
  | .onRegistry action => [action]
  | .has _ | .get _ | .list => []

/-- The action leaves the pools to the registry. -/
def Action.IsOwn : Action count → Prop
  | .onRegistry action => action.IsOwn
  | _ => True

instance (action : Action count) : Decidable action.IsOwn :=
  match action with
  | .onRegistry action => inferInstanceAs (Decidable action.IsOwn)
  | .add _ | .remove _ | .has _ | .get _ | .list => isTrue trivial

theorem isOwn_effect {action : Action count} (own : action.IsOwn) :
    ∀ effect ∈ action.effect, effect.IsOwn := by
  intro effect member
  cases action with
  | add identity =>
      rw [Action.effect] at member
      split at member
      next => cases member
      next =>
        rw [List.mem_singleton.mp member]
        exact trivial
  | remove identity =>
      rw [Action.effect] at member
      split at member
      next => cases member
      next =>
        rw [List.mem_singleton.mp member]
        exact trivial
  | has identity => cases member
  | get key => cases member
  | list => cases member
  | onRegistry action =>
      rw [List.mem_singleton.mp member]
      exact own

theorem act_eq_after (registry : Registry count) (action : Action count) :
    (act registry action).2 = registry.after action.effect := by
  cases action with
  | add identity =>
      change (add registry identity).state = _
      rw [add, Action.effect]
      cases identity.accept with
      | error cause => rfl
      | ok text => rfl
  | remove identity =>
      change (remove registry identity).state = _
      rw [remove, Action.effect]
      cases identity.accept with
      | error cause => rfl
      | ok text => rfl
  | has identity => rfl
  | get key => rfl
  | list => rfl
  | onRegistry action => rfl

theorem after_eq (registry : Registry count) (actions : List (Action count)) :
    after registry actions = registry.after (actions.flatMap Action.effect) := by
  induction actions generalizing registry with
  | nil => rfl
  | cons action actions ih =>
      rw [after, ih, act_eq_after, List.flatMap_cons, Registry.after_append]

/-- The peers in the order of the listing. -/
def listed (registry : Registry count) : List Peer :=
  registry.peers.mergeSort fun first second => !(second.view.id < first.view.id)

theorem listed_perm (registry : Registry count) : (listed registry).Perm registry.peers :=
  List.mergeSort_perm _ _

theorem list_eq (registry : Registry count) :
    list registry = (listed registry).map Peer.view := by
  symm
  exact List.map_mergeSort fun _ _ _ _ => rfl

theorem list_perm (registry : Registry count) :
    (list registry).Perm (registry.peers.map Peer.view) := by
  rw [list_eq]
  exact (listed_perm registry).map Peer.view

end Service

end TunnelLease

import TunnelLease.Proofs.Pool.Exhaustion
import TunnelLease.Proofs.Pool.Structural
import TunnelLease.Proofs.Pool.Transition

/-!
# The life of an address

In the run of a pool an address is leased, put back and reserved by the calls that
succeed on it.  Whatever happens to other addresses, an address is leased only while it
is free, put back only while it is leased, and reserved only while it is free, after
which nothing happens to it any more.  So its life consists of rounds of a lease and a
return, and then of nothing, of a lease or of a reservation.
-/

namespace TunnelLease

/-- Where an address is in its life. -/
inductive Status where
  | free
  | leased
  | reserved
deriving DecidableEq

namespace Status

def next : Status → Milestone → Option Status
  | free, .leased => some leased
  | free, .reserved => some reserved
  | leased, .returned => some free
  | _, _ => none

def follow (status : Status) : List Milestone → Option Status
  | [] => some status
  | milestone :: milestones => (status.next milestone).bind fun reached => reached.follow milestones

/-- The milestones since the address was last free. -/
def rest : Status → List Milestone
  | free => []
  | leased => [.leased]
  | reserved => [.reserved]

/-- Rounds of a lease and a return. -/
def rounds (number : Nat) : List Milestone :=
  (List.replicate number [.leased, .returned]).flatten

theorem follow_append (status : Status) (first second : List Milestone) :
    status.follow (first ++ second) =
      (status.follow first).bind fun reached => reached.follow second := by
  induction first generalizing status with
  | nil => rfl
  | cons milestone milestones ih =>
      simp only [List.cons_append, follow, ih, Option.bind_assoc]

/-- What leads from one status to another closes the round that was open, adds whole
rounds and leaves open what the other status says. -/
theorem exists_rounds_of_follow {status reached : Status} {milestones : List Milestone}
    (follows : status.follow milestones = some reached) :
    ∃ number, status.rest ++ milestones = rounds number ++ reached.rest := by
  induction milestones generalizing status with
  | nil =>
      refine ⟨0, ?_⟩
      rw [Option.some.inj follows, List.append_nil]
      rfl
  | cons milestone milestones ih =>
      obtain ⟨middle, first, later⟩ := Option.bind_eq_some_iff.mp follows
      obtain ⟨number, shape⟩ := ih later
      cases status with
      | free =>
          cases milestone <;> cases first
          · exact ⟨number, shape⟩
          · exact ⟨number, shape⟩
      | leased =>
          cases milestone <;> cases first
          refine ⟨number + 1, ?_⟩
          change milestones = _ at shape
          change .leased :: .returned :: milestones = _
          rw [shape]
          rfl
      | reserved => cases milestone <;> cases first

theorem eq_nil_of_follow_reserved {reached : Status} {milestones : List Milestone}
    (follows : reserved.follow milestones = some reached) :
    milestones = [] ∧ reached = reserved := by
  cases milestones with
  | nil => exact ⟨rfl, (Option.some.inj follows).symm⟩
  | cons milestone milestones => cases milestone <;> cases follows

theorem getLast?_rounds (number : Nat) : (rounds number).getLast? ≠ some .leased := by
  cases number with
  | zero => simp [rounds]
  | succ number =>
      rw [rounds, List.replicate_succ', List.flatten_append]
      simp

theorem not_mem_rounds (number : Nat) : .reserved ∉ rounds number := by
  simp [rounds]

/-- From a status in which the address is not leased, the last milestone is a lease
exactly if the address ends up leased, and a reservation is the end. -/
theorem reached_of_follow {status reached : Status} {milestones : List Milestone}
    (unleased : status ≠ leased) (follows : status.follow milestones = some reached) :
    (reached = leased ↔ milestones.getLast? = some .leased) ∧
      (.reserved ∈ milestones → reached = reserved) := by
  cases status with
  | leased => exact absurd rfl unleased
  | reserved =>
      obtain ⟨rfl, rfl⟩ := eq_nil_of_follow_reserved follows
      simp
  | free =>
      obtain ⟨number, shape⟩ := exists_rounds_of_follow follows
      change milestones = _ at shape
      have noLease := getLast?_rounds number
      have noReservation := not_mem_rounds number
      rw [shape]
      cases reached <;> simp [rest, noLease, noReservation]

end Status

namespace Pool

/-- What a call with a given answer has done to an address. -/
def milestone (address : Address) : Call → Except Error Answer → Option Milestone
  | .lease, .ok (.address leased) => if leased = address then some .leased else none
  | .putBack argument, .ok _ => if argument.read = .ok address then some .returned else none
  | .reserve argument, .ok _ => if argument.read = .ok address then some .reserved else none
  | _, _ => none

/-- What happens to an address in a run. -/
def lifecycle (pool : Pool) (address : Address) : List Call → List Milestone
  | [] => []
  | call :: calls =>
      let reply := pool.call call
      (milestone address call reply.answer).toList ++ lifecycle reply.state address calls

def status (pool : Pool) (address : Address) : Status :=
  if address ∈ pool.assigned then .leased
  else if address ∈ pool.reserved then .reserved
  else .free

theorem status_eq_leased (pool : Pool) (address : Address) :
    pool.status address = .leased ↔ address ∈ pool.assigned := by
  unfold status
  split
  next assigned => simp [assigned]
  next unassigned => split <;> simp [unassigned]

theorem status_eq_reserved {pool : Pool} (invariant : pool.Invariant) (address : Address) :
    pool.status address = .reserved ↔ address ∈ pool.reserved := by
  unfold status
  split
  next assigned =>
    have unreserved : address ∉ pool.reserved := invariant.assigned_reserved assigned
    simp [unreserved]
  next unassigned => split <;> simp [*]

theorem status_eq_free {pool : Pool} {address : Address} (unassigned : address ∉ pool.assigned)
    (unreserved : address ∉ pool.reserved) : pool.status address = .free := by
  rw [status, if_neg unassigned, if_neg unreserved]

/-- The status depends on the two memberships alone. -/
theorem status_congr {pool changed : Pool} {address : Address}
    (assigned : address ∈ changed.assigned ↔ address ∈ pool.assigned)
    (reserved : address ∈ changed.reserved ↔ address ∈ pool.reserved) :
    changed.status address = pool.status address := by
  simp only [status, assigned, reserved]

/-- What a call has done to an address is what it has done, if it was to this address. -/
theorem milestone_eq (address : Address) (call : Call) (answer : Except Error Answer) :
    milestone address call answer =
      (deed? call answer).bind fun deed =>
        if deed.address = address then some deed.milestone else none := by
  cases answer with
  | error cause => cases call <;> rfl
  | ok answer =>
      cases call with
      | lease => cases answer <;> rfl
      | putBack argument =>
          cases read : argument.read <;> simp [milestone, deed?, read, Except.toOption]
      | reserve argument =>
          cases read : argument.read <;> simp [milestone, deed?, read, Except.toOption]

/-- A lease of a free address makes it leased, and no other address. -/
theorem status_leased {pool later : Pool} {leased : Address} (unassigned : leased ∉ pool.assigned)
    (unreserved : leased ∉ pool.reserved) (assigned : later.assigned = leased :: pool.assigned)
    (reserved : later.reserved = pool.reserved) (address : Address) :
    (pool.status address).follow
        (if leased = address then some Milestone.leased else none).toList =
      some (later.status address) := by
  by_cases isAddress : leased = address
  · subst isAddress
    have nowLeased : later.status leased = .leased := by
      rw [status_eq_leased, assigned]
      exact List.mem_cons_self
    rw [status_eq_free unassigned unreserved, nowLeased, if_pos rfl]
    rfl
  · have same : later.status address = pool.status address := by
      apply status_congr
      · rw [assigned, List.mem_cons, or_iff_right (Ne.symm isAddress)]
      · rw [reserved]
    rw [if_neg isAddress, same]
    rfl

/-- What is done to an address leads from its status before to that after. -/
theorem Transition.status {pool later : Pool} {deed : Option Deed}
    (transition : Transition pool deed later) (invariant : pool.Invariant) (address : Address) :
    (pool.status address).follow
        (deed.bind fun deed =>
          if deed.address = address then some deed.milestone else none).toList =
      some (later.status address) := by
  cases transition with
  | refused => rfl
  | ranDry idle => rfl
  | @leasedAgain leased others queued =>
      have waits : leased ∈ pool.recycled := by
        rw [queued]
        exact List.mem_cons_self
      exact status_leased (List.disjoint_right.mp invariant.assigned_recycled waits)
        (invariant.recycled_reserved waits) (by rfl) (by rfl) address
  | @leasedFresh leased idle isFresh =>
      exact status_leased (List.disjoint_right.mp invariant.assigned_fresh isFresh)
        ((pool.mem_fresh leased).mp isFresh).2.2 (by rfl) (by rfl) address
  | @returned back assigned =>
      have erased (other : Address) : other ∈ pool.assigned.erase back ↔
          other ≠ back ∧ other ∈ pool.assigned := invariant.assigned_nodup.mem_erase_iff
      by_cases isAddress : back = address
      · subst isAddress
        rw [(pool.status_eq_leased back).mpr assigned, status_eq_free]
        · simp [Status.follow, Status.next]
        · simp [erased]
        · exact invariant.assigned_reserved assigned
      · simp only [Option.bind_some, if_neg isAddress]
        apply congrArg some
        symm
        apply status_congr
        · simp [erased, Ne.symm isAddress]
        · rfl
  | @reserved taken inside unassigned unreserved =>
      by_cases isAddress : taken = address
      · subst isAddress
        rw [status_eq_free unassigned unreserved, Pool.status, if_neg unassigned,
          if_pos List.mem_cons_self]
        simp [Status.follow, Status.next]
      · simp only [Option.bind_some, if_neg isAddress]
        apply congrArg some
        symm
        apply status_congr
        · rfl
        · simp [Ne.symm isAddress]

/-- What a call does to an address leads from its status before to that after. -/
theorem call_status {pool : Pool} (invariant : pool.Invariant) (call : Call)
    (address : Address) :
    (pool.status address).follow (milestone address call (pool.call call).answer).toList =
      some ((pool.call call).state.status address) := by
  rw [milestone_eq]
  exact (call_transition invariant.range call).status invariant address

theorem lifecycle_status {pool : Pool} (invariant : pool.Invariant) (calls : List Call)
    (address : Address) :
    (pool.status address).follow (pool.lifecycle address calls) =
      some ((pool.after calls).status address) := by
  induction calls generalizing pool with
  | nil => rfl
  | cons call calls ih =>
      rw [lifecycle, Status.follow_append, call_status invariant, Option.bind_some]
      exact ih (invariant.call call)

theorem lifecycle_append (pool : Pool) (address : Address) (calls later : List Call) :
    pool.lifecycle address (calls ++ later) =
      pool.lifecycle address calls ++ (pool.after calls).lifecycle address later := by
  induction calls generalizing pool with
  | nil => rfl
  | cons call calls ih =>
      rw [List.cons_append, lifecycle, lifecycle, ih, List.append_assoc]
      rfl

/-- Only members of the block are ever leased. -/
theorem mem_members_of_leased {pool : Pool} (invariant : pool.Invariant) {address : Address}
    {calls : List Call} (leased : .leased ∈ pool.lifecycle address calls) :
    address ∈ pool.block.members := by
  induction calls generalizing pool with
  | nil => cases leased
  | cons call calls ih =>
      rcases List.mem_append.mp leased with here | later
      · have reached := call_status invariant call address
        have nowLeased : (pool.call call).state.status address = .leased := by
          rw [Option.mem_toList.mp here] at reached
          cases before : pool.status address <;>
            simp [before, Status.follow, Status.next] at reached
          exact reached.symm
        have assigned := ((pool.call call).state.status_eq_leased address).mp nowLeased
        rw [← call_block pool call]
        exact ((invariant.call call).assigned_visited address assigned).1
      · rw [← call_block pool call]
        exact ih (invariant.call call) later

theorem putBack_answer_iff (pool : Pool) (address : Address) :
    (pool.putBack address).answer = .ok () ↔ address ∈ pool.assigned := by
  constructor
  · intro accepted
    by_contra unassigned
    rw [putBack_of_unassigned unassigned] at accepted
    cases accepted
  · intro assigned
    rw [putBack_of_assigned assigned]

/-- A leased address is not leased again. -/
theorem lease_answer_ne {pool : Pool} (invariant : pool.Invariant) {address : Address}
    (assigned : address ∈ pool.assigned) : pool.lease.answer ≠ .ok address := by
  intro again
  rw [lease_answer invariant.range] at again
  split at again
  next => cases again
  next next rest order =>
    rw [Except.ok.inj again] at order
    apply invariant.assigned_future assigned
    rw [order]
    exact List.mem_cons_self

theorem reserve_answer_ne {pool : Pool} {address : Address}
    (assigned : address ∈ pool.assigned) : (pool.reserve address).answer ≠ .ok () := by
  intro accepted
  rcases reserve_cases pool address with ⟨cause, refused⟩ | ⟨_, unassigned, _⟩
  · rw [refused] at accepted
    cases accepted
  · exact unassigned assigned

theorem ofBlock_status_ne_leased (block : Block) (address : Address) :
    (ofBlock block).status address ≠ .leased := by
  rw [Ne, status_eq_leased, ofBlock_assigned]
  exact List.not_mem_nil

/-- An address whose life in a new pool holds a lease was not reserved from the start. -/
theorem unreserved_of_leased {block : Block} {address : Address} {calls : List Call}
    (leased : .leased ∈ (ofBlock block).lifecycle address calls) :
    address ∉ (ofBlock block).reserved := by
  intro reserved
  have follows := lifecycle_status (ofBlock_invariant block) calls address
  rw [(status_eq_reserved (ofBlock_invariant block) address).mpr reserved] at follows
  rw [(Status.eq_nil_of_follow_reserved follows).1] at leased
  cases leased

/-- The life of an address is a number of rounds of a lease and a return, and then nothing,
a lease or a reservation.  Structural addresses are never leased. -/
theorem lifecycle_of_block (block : Block) (calls : List Call) :
    let pool := (ofBlock block).after calls
    (∀ address,
      let life := (ofBlock block).lifecycle address calls
      (∃ number rest,
          life = (List.replicate number [Milestone.leased, .returned]).flatten ++ rest ∧
            (rest = [] ∨ rest = [.leased] ∨ rest = [.reserved])) ∧
        ((pool.putBack address).answer = .ok () ↔ life.getLast? = some .leased) ∧
        (life.getLast? = some .leased →
          pool.lease.answer ≠ .ok address ∧ (pool.reserve address).answer ≠ .ok ()) ∧
        (.reserved ∈ life →
          ∀ later, (ofBlock block).lifecycle address (calls ++ later) = life)) ∧
      ∀ subnet ∈ block.subnet, ∀ address structural : Address,
        .leased ∈ (ofBlock block).lifecycle address calls →
          (structural = subnet.own ∨ structural = subnet.network ∨
            (subnet.family = .v4 ∧ structural = subnet.broadcast)) →
          address.value ≠ structural.value := by
  intro pool
  have start : (ofBlock block).Invariant := ofBlock_invariant block
  have invariant : pool.Invariant := start.after calls
  refine ⟨?_, ?_⟩
  · intro address life
    have unleased := ofBlock_status_ne_leased block address
    have follows := lifecycle_status start calls address
    obtain ⟨isLeased, isReserved⟩ := Status.reached_of_follow unleased follows
    rw [status_eq_leased] at isLeased
    refine ⟨?_, ?_, ?_, ?_⟩
    · cases before : (ofBlock block).status address with
      | leased => exact absurd before unleased
      | reserved =>
          rw [before] at follows
          exact ⟨0, [], (Status.eq_nil_of_follow_reserved follows).1, Or.inl rfl⟩
      | free =>
          rw [before] at follows
          obtain ⟨number, shape⟩ := Status.exists_rounds_of_follow follows
          refine ⟨number, _, shape, ?_⟩
          cases ((ofBlock block).after calls).status address <;> simp [Status.rest]
    · rw [← isLeased]
      exact pool.putBack_answer_iff address
    · intro lastLeased
      have assigned := isLeased.mpr lastLeased
      exact ⟨lease_answer_ne invariant assigned, reserve_answer_ne assigned⟩
    · intro reserved later
      have ended := lifecycle_status invariant later address
      rw [isReserved reserved] at ended
      rw [lifecycle_append, (Status.eq_nil_of_follow_reserved ended).1, List.append_nil]
  · intro subnet configured address structural leased isStructural
    have unreserved := unreserved_of_leased leased
    have member := mem_members_of_leased start leased
    rw [ofBlock_block] at member
    obtain ⟨_, limit⟩ := block
    cases configured
    exact value_ne_of_isStructural member unreserved isStructural

end Pool

end TunnelLease

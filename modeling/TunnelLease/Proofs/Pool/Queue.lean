import TunnelLease.Proofs.Block.Canonical
import TunnelLease.Proofs.Pool.Structural
import TunnelLease.Proofs.Pool.Transition

/-!
# First returned, first leased again

The chronicle of a run alone says which addresses wait: those that were returned and have
departed neither by a lease nor by a reservation since, in the order of their return.  The
queue of the pool is this list, so an address is leased again after those that were waiting
when it was returned, and a fresh address is leased only when no address waits.
-/

namespace TunnelLease

namespace Pool

/-- The address was leased or reserved. -/
def Departed (deeds : List Deed) (address : Address) : Prop :=
  ⟨.leased, address⟩ ∈ deeds ∨ ⟨.reserved, address⟩ ∈ deeds

instance (deeds : List Deed) (address : Address) : Decidable (Departed deeds address) :=
  inferInstanceAs (Decidable (_ ∨ _))

/-- The addresses that were returned and have not departed since, in the order of their
return. -/
def waiting : List Deed → List Address
  | [] => []
  | deed :: later =>
      if deed.milestone = .returned ∧ ¬ Departed later deed.address then
        deed.address :: waiting later
      else waiting later

/-- Those of some addresses that have not departed since. -/
def remaining (addresses : List Address) (since : List Deed) : List Address :=
  addresses.filter fun address => ¬ Departed since address

/-- The addresses that were leased, in the order of the leases. -/
def leases (deeds : List Deed) : List Address :=
  deeds.filterMap fun deed => if deed.milestone = .leased then some deed.address else none

section Deeds

theorem departed_append (first second : List Deed) (address : Address) :
    Departed (first ++ second) address ↔ Departed first address ∨ Departed second address := by
  simp only [Departed, List.mem_append]
  tauto

theorem departed_singleton (deed : Deed) (address : Address) :
    Departed [deed] address ↔ deed.milestone ≠ .returned ∧ deed.address = address := by
  obtain ⟨milestone, other⟩ := deed
  cases milestone <;> simp [Departed, eq_comm]

/-- One more deed ends the waiting of its address, or it is a return. -/
theorem waiting_concat (deeds : List Deed) (milestone : Milestone) (address : Address) :
    waiting (deeds ++ [⟨milestone, address⟩]) =
      if milestone = .returned then waiting deeds ++ [address]
      else (waiting deeds).filter (· != address) := by
  induction deeds with
  | nil => simp [waiting, Departed]
  | cons first deeds ih =>
      simp only [List.cons_append, waiting, ih, departed_append, departed_singleton]
      by_cases returned : milestone = .returned
      · simp only [returned, ne_eq, not_true_eq_false, false_and, or_false, if_true]
        split <;> rfl
      · simp only [returned, ne_eq, not_false_eq_true, true_and, if_false]
        by_cases waits : first.milestone = .returned ∧ ¬ Departed deeds first.address
        · by_cases same : address = first.address
          · simp [waits, same]
          · simp [waits, same, Ne.symm same]
        · have gone : ¬ (first.milestone = .returned ∧
              ¬ (Departed deeds first.address ∨ address = first.address)) := by
            tauto
          rw [if_neg waits, if_neg gone]

theorem remaining_concat (addresses : List Address) (since : List Deed) (milestone : Milestone)
    (address : Address) :
    remaining addresses (since ++ [⟨milestone, address⟩]) =
      if milestone = .returned then remaining addresses since
      else (remaining addresses since).filter (· != address) := by
  by_cases returned : milestone = .returned
  · simp [remaining, departed_append, departed_singleton, returned]
  · rw [if_neg returned, remaining, remaining, List.filter_filter]
    apply List.filter_congr
    intro other _
    rw [Bool.eq_iff_iff]
    simp only [departed_append, departed_singleton, returned, not_or, decide_eq_true_eq,
      Bool.and_eq_true, bne_iff_ne, ne_eq, not_false_eq_true, true_and]
    tauto

theorem leases_concat (deeds : List Deed) (milestone : Milestone) (address : Address) :
    leases (deeds ++ [⟨milestone, address⟩]) =
      if milestone = .leased then leases deeds ++ [address] else leases deeds := by
  rw [leases, List.filterMap_append]
  by_cases leased : milestone = .leased <;> simp [leases, leased]

theorem eraseDups_concat (addresses : List Address) (address : Address) :
    (addresses ++ [address]).eraseDups =
      if address ∈ addresses then addresses.eraseDups else addresses.eraseDups ++ [address] := by
  rw [List.eraseDups_append]
  by_cases again : address ∈ addresses <;>
    simp [List.removeAll, again, List.eraseDups_cons]

end Deeds

/-- The queue of a pool is what waits by the deeds so far. -/
theorem Transition.queue {deeds : List Deed} {pool later : Pool} {deed : Option Deed}
    (transition : Transition pool deed later) (invariant : pool.Invariant)
    (queue : pool.recycled = waiting deeds) :
    later.recycled = waiting (deeds ++ deed.toList) := by
  -- A lease and a reservation erase an address that stands in the queue at most once.
  have erased (milestone : Milestone) (departs : milestone ≠ .returned) (address : Address) :
      waiting (deeds ++ [⟨milestone, address⟩]) = pool.recycled.erase address := by
    rw [waiting_concat, if_neg departs, ← queue, invariant.recycled_nodup.erase_eq_filter]
  cases transition with
  | refused => simpa using queue
  | ranDry idle => simpa using queue
  | leasedAgain queued =>
      rw [Option.toList_some, erased .leased nofun, queued, List.erase_cons_head]
  | leasedFresh idle isFresh =>
      rw [Option.toList_some, erased .leased nofun, idle]
      rfl
  | returned assigned => rw [Option.toList_some, waiting_concat, if_pos rfl, ← queue]
  | reserved => rw [Option.toList_some, erased .reserved nofun]

theorem after_queue {deeds : List Deed} {pool : Pool} (invariant : pool.Invariant)
    (queue : pool.recycled = waiting deeds) (calls : List Call) :
    (pool.after calls).recycled = waiting (deeds ++ pool.chronicle calls) :=
  chronicle_keeps (motive := fun deeds pool => pool.recycled = waiting deeds)
    (fun invariant transition queue => transition.queue invariant queue) invariant queue calls

/-- What the leases so far say of a pool: whatever it holds was leased before, the cursor
has passed it, and fresh addresses came in ascending order. -/
structure LeaseRecord (deeds : List Deed) (pool : Pool) : Prop where
  known : ∀ address, address ∈ pool.assigned ∨ address ∈ pool.recycled → address ∈ leases deeds
  passed : ∀ address ∈ leases deeds, address.value < pool.cursor
  ascending : Ascending (leases deeds).eraseDups

namespace LeaseRecord

variable {deeds : List Deed} {pool later : Pool} {address : Address}

/-- What makes no lease and leaves the cursor where it is, or moves it on, keeps the
record. -/
theorem carry (record : LeaseRecord deeds pool) {changed : List Deed}
    (same : leases changed = leases deeds)
    (held : ∀ address, address ∈ later.assigned ∨ address ∈ later.recycled →
      address ∈ pool.assigned ∨ address ∈ pool.recycled)
    (advanced : pool.cursor ≤ later.cursor) : LeaseRecord changed later where
  known := fun address now => same ▸ record.known address (held address now)
  passed := fun address leased =>
    Nat.lt_of_lt_of_le (record.passed address (same ▸ leased)) advanced
  ascending := same ▸ record.ascending

theorem leaseAgain (record : LeaseRecord deeds pool) {others : List Address}
    (queued : pool.recycled = address :: others) :
    LeaseRecord (deeds ++ [⟨.leased, address⟩])
      { pool with recycled := others, assigned := address :: pool.assigned } := by
  have oneMore : leases (deeds ++ [⟨.leased, address⟩]) = leases deeds ++ [address] :=
    leases_concat deeds .leased address
  have before : address ∈ leases deeds := by
    refine record.known address (Or.inr ?_)
    rw [queued]
    exact List.mem_cons_self
  have sameLeases (other : Address) :
      other ∈ leases (deeds ++ [⟨.leased, address⟩]) ↔ other ∈ leases deeds := by
    rw [oneMore, List.mem_append, List.mem_singleton]
    exact or_iff_left_of_imp fun isLast => isLast ▸ before
  constructor
  · intro other held
    rw [sameLeases]
    rcases held with assigned | waits
    · rcases List.mem_cons.mp assigned with rfl | assigned
      · exact before
      · exact record.known other (Or.inl assigned)
    · refine record.known other (Or.inr ?_)
      rw [queued]
      exact List.mem_cons_of_mem _ waits
  · intro other leased
    exact record.passed other ((sameLeases other).mp leased)
  · rw [oneMore, eraseDups_concat, if_pos before]
    exact record.ascending

theorem leaseFresh (record : LeaseRecord deeds pool) (isFresh : address ∈ pool.fresh) :
    LeaseRecord (deeds ++ [⟨.leased, address⟩])
      { pool with cursor := address.value + 1, assigned := address :: pool.assigned } := by
  have oneMore : leases (deeds ++ [⟨.leased, address⟩]) = leases deeds ++ [address] :=
    leases_concat deeds .leased address
  have reached := ((pool.mem_fresh address).mp isFresh).2.1
  have below (other : Address) (leased : other ∈ leases deeds) : other.value < address.value :=
    Nat.lt_of_lt_of_le (record.passed other leased) reached
  have new : address ∉ leases deeds := fun leased => Nat.lt_irrefl _ (below address leased)
  constructor
  · intro other held
    rw [oneMore, List.mem_append, List.mem_singleton]
    rcases held with assigned | waits
    · rcases List.mem_cons.mp assigned with isNew | assigned
      · exact Or.inr isNew
      · exact Or.inl (record.known other (Or.inl assigned))
    · exact Or.inl (record.known other (Or.inr waits))
  · intro other leased
    rw [oneMore, List.mem_append, List.mem_singleton] at leased
    rcases leased with before | rfl
    · exact Nat.lt_succ_of_lt (below other before)
    · exact Nat.lt_succ_self _
  · rw [oneMore, eraseDups_concat, if_neg new]
    refine List.pairwise_append.mpr ⟨record.ascending, List.pairwise_singleton _ _, ?_⟩
    intro other isOld last isLast
    rw [List.mem_singleton.mp isLast]
    exact below other (List.mem_eraseDups.mp isOld)

theorem transition (record : LeaseRecord deeds pool) (invariant : pool.Invariant)
    {deed : Option Deed} (transition : Transition pool deed later) :
    LeaseRecord (deeds ++ deed.toList) later := by
  cases transition with
  | refused => simpa using record
  | ranDry idle =>
      exact record.carry (by simp) (fun _ held => held) invariant.range.le_stop
  | leasedAgain queued => exact record.leaseAgain queued
  | leasedFresh idle isFresh => exact record.leaseFresh isFresh
  | @returned address assigned =>
      refine record.carry (leases_concat deeds .returned address) ?_ (Nat.le_refl _)
      rintro other (still | waits)
      · exact Or.inl (List.mem_of_mem_erase still)
      · rcases List.mem_append.mp waits with waits | isLast
        · exact Or.inr waits
        · rw [List.mem_singleton.mp isLast]
          exact Or.inl assigned
  | @reserved address =>
      exact record.carry (leases_concat deeds .reserved address)
        (fun _ held => held.imp_right List.mem_of_mem_erase) (Nat.le_refl _)

theorem after (record : LeaseRecord deeds pool) (invariant : pool.Invariant)
    (calls : List Call) : LeaseRecord (deeds ++ pool.chronicle calls) (pool.after calls) :=
  chronicle_keeps (fun invariant transition record => record.transition invariant transition)
    invariant record calls

end LeaseRecord

theorem ofBlock_leaseRecord (block : Block) : LeaseRecord [] (ofBlock block) where
  known := by
    intro address held
    rw [ofBlock_assigned, (ofBlock_idle block).1] at held
    simp at held
  passed := fun _ none => nomatch none
  ascending := List.Pairwise.nil

/-- An address waits behind those that were waiting when it was returned and have not
departed since, and of these the leases since were the first, in order. -/
structure WaitsBehind (ahead : List Address) (address : Address) (since : List Deed)
    (pool : Pool) : Prop where
  queue : ∃ behind, pool.recycled = remaining ahead since ++ address :: behind
  inOrder : (leases since ++ remaining ahead since).Sublist ahead

namespace WaitsBehind

variable {ahead : List Address} {address : Address} {since : List Deed} {pool later : Pool}

theorem of_returned (queue : pool.recycled = ahead ++ [address]) :
    WaitsBehind ahead address [] pool := by
  have all : remaining ahead [] = ahead := by simp [remaining, Departed]
  constructor
  · rw [all]
    exact ⟨[], queue⟩
  · rw [all]
    exact List.Sublist.refl _

theorem leaseAgain (waits : WaitsBehind ahead address since pool) (invariant : pool.Invariant)
    {next : Address} {others : List Address} (queued : pool.recycled = next :: others)
    (different : next ≠ address) :
    WaitsBehind ahead address (since ++ [⟨.leased, next⟩])
      { pool with recycled := others, assigned := next :: pool.assigned } := by
  obtain ⟨⟨behind, queue⟩, inOrder⟩ := waits
  have left := remaining_concat ahead since .leased next
  rw [if_neg nofun] at left
  rw [queued] at queue
  cases order : remaining ahead since with
  | nil =>
      rw [order] at queue
      exact absurd (List.cons.inj queue).1 different
  | cons first rest =>
      rw [order, List.cons_append] at queue
      obtain ⟨rfl, rfl⟩ := List.cons.inj queue
      have distinct := invariant.recycled_nodup
      rw [queued, ← List.cons_append] at distinct
      rw [order, ← distinct.of_append_left.erase_eq_filter, List.erase_cons_head] at left
      constructor
      · rw [left]
        exact ⟨behind, rfl⟩
      · rw [left, leases_concat, if_pos rfl, List.append_assoc]
        rw [order] at inOrder
        exact inOrder

theorem putBack (waits : WaitsBehind ahead address since pool) (other : Address) :
    WaitsBehind ahead address (since ++ [⟨.returned, other⟩])
      { pool with
        assigned := pool.assigned.erase other
        recycled := pool.recycled ++ [other] } := by
  obtain ⟨⟨behind, queue⟩, inOrder⟩ := waits
  have left := remaining_concat ahead since .returned other
  rw [if_pos rfl] at left
  constructor
  · refine ⟨behind ++ [other], ?_⟩
    rw [left, queue, List.append_assoc]
    rfl
  · rw [left, leases_concat, if_neg nofun]
    exact inOrder

theorem reserve (waits : WaitsBehind ahead address since pool) (invariant : pool.Invariant)
    {other : Address} (different : other ≠ address) :
    WaitsBehind ahead address (since ++ [⟨.reserved, other⟩])
      { pool with
        reserved := other :: pool.reserved
        recycled := pool.recycled.erase other } := by
  obtain ⟨⟨behind, queue⟩, inOrder⟩ := waits
  have left := remaining_concat ahead since .reserved other
  rw [if_neg nofun] at left
  have stays : (address != other) = true := bne_iff_ne.mpr different.symm
  constructor
  · refine ⟨behind.filter (· != other), ?_⟩
    rw [left, invariant.recycled_nodup.erase_eq_filter, queue, List.filter_append,
      List.filter_cons, if_pos stays]
  · rw [left, leases_concat, if_neg nofun]
    exact (List.filter_sublist.append_left _).trans inOrder

theorem transition (waits : WaitsBehind ahead address since pool) (invariant : pool.Invariant)
    {deed : Option Deed} (transition : Transition pool deed later)
    (stays : ¬ Departed deed.toList address) :
    WaitsBehind ahead address (since ++ deed.toList) later := by
  cases transition with
  | refused => simpa using waits
  | ranDry idle =>
      obtain ⟨behind, queue⟩ := waits.queue
      rw [idle] at queue
      simp at queue
  | @leasedAgain next others queued =>
      refine waits.leaseAgain invariant queued ?_
      rintro rfl
      exact stays (by simp [Departed])
  | leasedFresh idle isFresh =>
      obtain ⟨behind, queue⟩ := waits.queue
      rw [idle] at queue
      simp at queue
  | @returned other assigned => exact waits.putBack other
  | @reserved other =>
      refine waits.reserve invariant ?_
      rintro rfl
      exact stays (by simp [Departed])

theorem after (waits : WaitsBehind ahead address since pool) (invariant : pool.Invariant)
    {calls : List Call} (stays : ¬ Departed (since ++ pool.chronicle calls) address) :
    WaitsBehind ahead address (since ++ pool.chronicle calls) (pool.after calls) := by
  refine chronicle_keeps
    (motive := fun since pool => ¬ Departed since address → WaitsBehind ahead address since pool)
    ?_ invariant (fun _ => waits) calls stays
  intro since pool deed later invariant transition waits stays
  rw [departed_append, not_or] at stays
  exact (waits stays.1).transition invariant transition stays.2

/-- The next lease is of the first address that is still ahead, and if there is none, of
the address itself. -/
theorem lease_answer (waits : WaitsBehind ahead address since pool) :
    pool.lease.answer = .ok ((remaining ahead since).headD address) := by
  obtain ⟨behind, queue⟩ := waits.queue
  cases order : remaining ahead since with
  | nil =>
      rw [order] at queue
      rw [lease_of_recycled queue]
      rfl
  | cons first rest =>
      rw [order] at queue
      rw [lease_of_recycled queue]
      rfl

end WaitsBehind

/-- An address that is put back without a refusal stands last in the queue. -/
theorem recycled_of_returned {pool : Pool} {argument : Argument} {address : Address}
    (read : argument.read = .ok address)
    (accepted : (pool.call (.putBack argument)).answer = .ok .done) :
    (pool.call (.putBack argument)).state.recycled = pool.recycled ++ [address] := by
  simp only [Pool.call, onArgument, read] at accepted ⊢
  by_cases assigned : address ∈ pool.assigned
  · rw [putBack_of_assigned assigned]
  · rw [putBack_of_unassigned assigned] at accepted
    cases accepted

/-- Addresses that were returned are leased again in the order of their returns, before any
that was never leased, and those come in ascending order. -/
theorem first_returned_first_leased (block : Block) :
    let start := ofBlock block
    (∀ earlier argument address later,
      argument.read = .ok address →
      ((start.after earlier).call (.putBack argument)).answer = .ok .done →
        let ahead := waiting (start.chronicle earlier)
        let returned := ((start.after earlier).call (.putBack argument)).state
        let since := returned.chronicle later
        ¬ Departed since address →
          (ahead.Nodup ∧ (leases since).Sublist ahead) ∧
            (returned.after later).lease.answer =
              .ok ((remaining ahead since).headD address)) ∧
      ∀ calls,
        (∀ address, (start.after calls).lease.answer = .ok address →
          address ∉ leases (start.chronicle calls) → waiting (start.chronicle calls) = []) ∧
        Ascending (leases (start.chronicle calls)).eraseDups := by
  intro start
  have invariant : start.Invariant := ofBlock_invariant block
  have noneWaits : start.recycled = waiting [] := (ofBlock_idle block).1
  have queue (calls : List Call) : (start.after calls).recycled = waiting (start.chronicle calls) :=
    after_queue invariant noneWaits calls
  refine ⟨?_, ?_⟩
  · intro earlier argument address later read accepted ahead returned since stays
    have before : (start.after earlier).Invariant := invariant.after earlier
    have returnedLast : returned.recycled = ahead ++ [address] := by
      rw [recycled_of_returned read accepted, queue]
    have waits : WaitsBehind ahead address since (returned.after later) :=
      (WaitsBehind.of_returned returnedLast).after (before.call _) stays
    refine ⟨⟨?_, (List.sublist_append_left _ _).trans waits.inOrder⟩, waits.lease_answer⟩
    have distinct := before.recycled_nodup
    rwa [queue] at distinct
  · intro calls
    have record : LeaseRecord (start.chronicle calls) (start.after calls) :=
      (ofBlock_leaseRecord block).after invariant calls
    refine ⟨?_, record.ascending⟩
    intro address leased new
    rw [← queue]
    rcases lease_cases (invariant.after calls).range with
      ⟨next, others, queued, again⟩ | ⟨_, idle, _⟩ | ⟨idle, _⟩
    · rw [again] at leased
      cases leased
      refine absurd (record.known address (Or.inr ?_)) new
      rw [queued]
      exact List.mem_cons_self
    · exact idle
    · exact idle

/-- The address 10.0.0.3. -/
def thirdHost : Address :=
  ⟨.v4, 0x0a000003, none, by decide, Address.unzoned_v6⟩

/-- The first three addresses are leased, and the first one is returned. -/
def returningRun : List Call :=
  [.lease, .lease, .lease, .putBack (.literal (.text "10.0.0.1"))]

/-- The third address waits behind the first one only, although the second one is returned
before it is leased. -/
theorem first_returned_first_leased_third :
    let pool := (ofBlock Block.plainBlock).after returningRun
    let returned := (pool.call (.putBack (.literal (.text "10.0.0.3")))).state
    let since : List Call := [.putBack (.literal (.text "10.0.0.2")), .lease]
    (waiting ((ofBlock Block.plainBlock).chronicle returningRun)).map Address.text =
        ["10.0.0.1"] ∧
      (leases (returned.chronicle since)).map Address.text = ["10.0.0.1"] ∧
      (returned.after since).lease.answer = .ok thirdHost := by
  intro pool returned since
  obtain ⟨behind, _⟩ := first_returned_first_leased Block.plainBlock
  have stays : ¬ Departed (returned.chronicle since) thirdHost := by decide +kernel
  obtain ⟨_, answer⟩ := behind returningRun (.literal (.text "10.0.0.3")) thirdHost since
    (by decide +kernel) (by decide +kernel) stays
  have noneAhead : remaining (waiting ((ofBlock Block.plainBlock).chronicle returningRun))
      (returned.chronicle since) = [] := by
    decide +kernel
  rw [noneAhead] at answer
  exact ⟨by decide +kernel, by decide +kernel, answer⟩

end Pool

end TunnelLease

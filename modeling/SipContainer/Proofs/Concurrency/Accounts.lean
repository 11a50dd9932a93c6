import Mathlib.Data.List.Perm.Subperm
import SipContainer.Proofs.Concurrency.Course
/-!
The accounts of a pool, for everything that can have happened to it: stroke by stroke in any order, and
in the course of whole events.
-/

namespace SipContainer

namespace Workshop

variable {shop next : Workshop} {record : List Event} {size task : Nat}

structure Orderly (size : Nat) (record : List Event) (shop : Workshop) : Prop where
  staffed : shop.Staffed size
  counted : Counted record shop
  begun : Begun record shop
  listed : Listed record shop
  informed : shop.Informed

theorem Run.orderly (run : Run size shop record) : Orderly size record shop := by
  induction run with
  | opened => exact ⟨.opened size, .opened size, .opened size, .opened size, .opened size⟩
  | step _ step earlier =>
      exact ⟨earlier.staffed.step step, earlier.counted.step step, earlier.begun.step step,
        earlier.listed.step step, earlier.informed.step earlier.listed step⟩

theorem Run.earlier {later : List Event} (run : Run size next (later ++ record)) :
    ∃ shop, Run size shop record := by
  induction later generalizing next with
  | nil => exact ⟨next, run⟩
  | cons event later earlier =>
      cases run with
      | step before _ => exact earlier before

theorem Run.looked {later : List Event} {caller : Nat} {done : Bool}
    (run : Run size next (later ++ .look caller done :: record)) :
    ∃ shop, Run size shop record ∧ caller ∈ shop.lookers ∧ done = shop.pool.isIdle := by
  obtain ⟨_, looked⟩ := run.earlier
  cases looked with
  | step before step =>
      cases step with
      | look looks sees => exact ⟨_, before, looks, sees⟩

theorem Run.balanced_of_done {later : List Event} {caller : Nat}
    (run : Run size next (later ++ .look caller true :: record)) :
    record.countP Event.submits = record.countP Event.finishes := by
  obtain ⟨shop, before, _, sees⟩ := run.looked
  have none : shop.pool.active = 0 := of_decide_eq_true sees.symm
  have active := before.orderly.counted.active
  omega

def executing (shop : Workshop) : List Nat :=
  (List.range shop.tasks.length).filter (fun task => shop.tasks[task]? = some .running)

theorem mem_executing : task ∈ shop.executing ↔ shop.tasks[task]? = some .running := by
  unfold executing
  rw [List.mem_filter, List.mem_range, decide_eq_true_iff]
  apply and_iff_right_of_imp
  intro runs
  exact (List.getElem?_eq_some_iff.mp runs).1

theorem Staffed.permits (staffed : shop.Staffed size) :
    shop.pool.holders.length + shop.pool.free = max 1 size := by
  rw [Nat.add_comm, staffed.balanced.total, staffed.capacity]

theorem Staffed.executing_le (staffed : shop.Staffed size) :
    shop.executing.length ≤ shop.pool.holders.length := by
  have distinct : shop.executing.Nodup := List.nodup_range.filter _
  apply List.Subperm.length_le
  apply List.subperm_of_subset distinct
  intro task runs
  exact staffed.holding task (mem_executing.mp runs)

/-- Who is on the list at zero is taken off it by a stroke that is still to come. -/
theorem Informed.aware (informed : shop.Informed) (zero : shop.pool.active = 0) {caller : Nat}
    (listed : caller ∈ shop.pool.watchers) :
    (∃ next, shop.Step .tell next) ∨ ∃ next, shop.Step (.look caller true) next := by
  rcases Nat.eq_zero_or_pos shop.heralds with told | due
  · exact Or.inr ⟨_, .look (informed zero told caller listed) (decide_eq_true zero).symm⟩
  · exact Or.inl ⟨_, .tell due⟩

theorem Course.unwatched (course : Course size shop record) (zero : shop.pool.active = 0) :
    shop.pool.watchers = [] := by
  apply List.eq_nil_iff_forall_not_mem.mpr
  intro caller listed
  have looks := course.run.orderly.informed zero course.settled.told caller listed
  rw [course.settled.looked] at looks
  cases looks

theorem Course.watched (course : Course size shop record) {caller : Nat}
    (vain : Since (.look caller false) (Event.frees caller) record) :
    caller ∈ shop.pool.watchers :=
  (course.run.orderly.listed.watchers.listed caller).mpr (course.enlisted_of_vain caller vain)

theorem Counted.falls (counted : Counted record shop) (step : shop.Step (.finish task) next) :
    next.pool.active + 1 = shop.pool.active := by
  cases step with
  | finish stands => exact Nat.sub_add_cancel (counted.positive stands rfl)

/-- What holds of a pool for so many tasks at once, whatever has happened to it so far. -/
structure Accounts (size : Nat) (record : List Event) (shop : Workshop) : Prop where
  bounded : shop.executing.length ≤ max 1 size
  permits : shop.pool.holders.length + shop.pool.free = max 1 size
  holders : shop.pool.holders.Nodup ∧ ∀ task ∈ shop.pool.holders, shop.Enrolled task
  count : shop.pool.active + record.countP Event.finishes = record.countP Event.submits
  tasks : record.countP Event.submits = shop.tasks.length ∧
    record.countP Event.finishes = shop.tasks.countP Progress.isEnded
  falls : ∀ task next, shop.Step (.finish task) next → next.pool.active + 1 = shop.pool.active
  once : ∀ task, record.countP (Event.starts task) ≤ 1
  done : ∀ later caller earlier, record = later ++ .look caller true :: earlier →
    earlier.countP Event.submits = earlier.countP Event.finishes
  listed : ∀ caller, caller ∈ shop.pool.watchers ↔
    Since (.enlist caller) (Event.frees caller) record
  looked : ∀ later caller done earlier, record = later ++ .look caller done :: earlier →
    Since (.enlist caller) (Event.isLookOf caller) earlier
  aware : shop.pool.active = 0 → ∀ caller ∈ shop.pool.watchers,
    (∃ next, shop.Step .tell next) ∨ ∃ next, shop.Step (.look caller true) next

theorem Run.audited (run : Run size shop record) : Accounts size record shop := by
  obtain ⟨staffed, counted, begun, listed, informed⟩ := run.orderly
  have permits := staffed.permits
  exact {
    bounded := by
      have executing := staffed.executing_le
      omega
    permits
    holders := by
      refine ⟨staffed.balanced.distinct.of_append_left, ?_⟩
      intro task held
      exact (staffed.rolled task).mp (List.mem_append_left _ held)
    count := counted.active
    tasks := ⟨counted.submitted, counted.finished⟩
    falls := fun _ _ step => counted.falls step
    once := begun.once
    done := by
      intro later caller earlier split
      subst split
      exact run.balanced_of_done
    listed := listed.watchers.listed
    looked := by
      intro later caller done earlier split
      subst split
      obtain ⟨_, before, looks, _⟩ := run.looked
      exact (before.orderly.listed.lookers.listed caller).mp looks
    aware := fun zero _ listed => informed.aware zero listed }

/-- The accounts of a pool are in order after any strokes. After whole events nobody is on the list of
watchers while the count is zero, and whoever has seen it above zero is on the list until told or gone. -/
theorem accounts (size : Nat) :
    (∀ shop record, Run size shop record → Accounts size record shop) ∧
      ∀ shop record, Course size shop record →
        Run size shop record ∧ (shop.pool.active = 0 → shop.pool.watchers = []) ∧
        ∀ caller, Since (.look caller false) (Event.frees caller) record →
          caller ∈ shop.pool.watchers :=
  ⟨fun _ _ run => run.audited, fun _ _ course =>
    ⟨course.run, course.unwatched, fun _ vain => course.watched vain⟩⟩

/-- Someone gets on the list when the count has gone to zero and the news of that is still to come. -/
def latecomer : List Event :=
  [.enlist 7, .finish 0, .leave 0 .completed, .start 0, .ask 0, .submit]

/-- One permit and two tasks: the first breaks down, and the second is called off when the permit has
just come to it. Someone waits for both. -/
def breakdown : List Event :=
  [.look 7 true, .enlist 7, .tell, .finish 1, .leave 1 .cancelled, .finish 0, .leave 0 .panicked,
    .look 7 false, .enlist 7, .ask 1, .start 0, .ask 0, .submit, .submit]

theorem accounts_breakdown :
    (∃ shop, Run 1 shop latecomer ∧ Accounts 1 latecomer shop ∧ shop.pool.active = 0 ∧
      shop.pool.watchers = [7]) ∧
    ∃ shop, Course 1 shop breakdown ∧ Run 1 shop breakdown ∧ Accounts 1 breakdown shop ∧
      shop.pool.active = 0 ∧ shop.pool.watchers = [] := by
  obtain ⟨strokes, whole⟩ := accounts 1
  constructor
  · have asked := ((@Run.opened 1).step .submit).step (@Step.ask _ 0 rfl)
    have started := asked.step (@Step.start _ 0 rfl rfl)
    have finished := (started.step (@Step.leave _ 0 .completed _ rfl (Or.inl rfl))).step
      (@Step.finish _ 0 _ rfl)
    have enlisted := finished.step (@Step.enlist _ 7 (by decide) (by decide))
    exact ⟨_, enlisted, strokes _ _ enlisted, rfl, rfl⟩
  · have submitted := ((@Course.opened 1).act (.single rfl .submit)).act (.single rfl .submit)
    have started := (submitted.act (.single rfl (@Step.ask _ 0 rfl))).act
      (.single rfl (@Step.start _ 0 rfl rfl))
    have queued := started.act (.single rfl (@Step.ask _ 1 rfl))
    have watched := queued.act (@Act.await _ 7 (by decide))
    have broken := watched.act (@Act.conclude _ 0 .panicked _ rfl (Or.inl rfl))
    have cancelled := broken.act (@Act.conclude _ 1 .cancelled _ rfl (Or.inr ⟨rfl, rfl⟩))
    have done := cancelled.act (@Act.await _ 7 (by decide))
    obtain ⟨run, unwatched, _⟩ := whole _ breakdown done
    exact ⟨_, done, run, strokes _ _ run, rfl, unwatched rfl⟩

end Workshop

end SipContainer

import SipContainer.Proofs.Concurrency.Permits
import SipContainer.Proofs.Dispatch.Handling
import SipContainer.Proofs.Dispatch.Invariant
/-!
Tasks and pools agree. A task that is handed to a pool is on the roll of the pool of its application
from the moment at which it asks for a permit until it ends, nobody else is on a roll, and whoever
works for a pool holds a permit. What a step does in a pool is told once for all tasks; the rest is
the arithmetic of permits.
-/

namespace SipContainer

namespace Stage

def isWorking : Stage → Bool
  | serving _ | forwarding _ | responding _ => true
  | _ => false

def isEnrolled : Stage → Bool
  | queued => true
  | stage => stage.isWorking

theorem isEnrolled_of_isWorking {stage : Stage} (works : stage.isWorking = true) :
    stage.isEnrolled = true := by
  cases stage <;> first | rfl | cases works

theorem isFinished_of_isEnrolled {stage : Stage} (enrolled : stage.isEnrolled = true) :
    stage.isFinished = false := by
  cases stage <;> first | rfl | cases enrolled

theorem isWorking_of_handBack? {stage : Stage} {number : Nat} {conduct : Conduct} {step : Step}
    (returned : stage.handBack? number conduct = some step) : stage.isWorking = true := by
  cases stage <;> first | rfl | cases returned

end Stage

/-! ### What a step does in a pool -/

/-- What a step of a pooled task does in the pool of its application, by the stages of the task. -/
inductive Shift (number : Nat) (pool : Pool) : Stage → Stage → (Pool → Pool) → Prop
  | aside {before after : Stage} (out : before.isEnrolled = false)
      (stays : after.isEnrolled = false) : Shift number pool before after id
  | submits {before after : Stage} (out : before.isEnrolled = false)
      (stays : after.isEnrolled = false) : Shift number pool before after Pool.submit
  | asks {before after : Stage} (out : before.isEnrolled = false)
      (turn : after = .queued ∨
        after.isWorking = true ∧ (pool.request number).holds number = true) :
      Shift number pool before after (·.request number)
  | begins {after : Stage} (permitted : pool.holds number = true)
      (works : after.isWorking = true) : Shift number pool .queued after id
  | goesOn {before after : Stage} (worked : before.isWorking = true)
      (works : after.isWorking = true) : Shift number pool before after id
  | ends {before after : Stage} (gone : after.isEnrolled = false) :
      Shift number pool before after (·.finish number)
  /-- It gets a permit and ends in the same breath. -/
  | passes {before after : Stage} (out : before.isEnrolled = false)
      (gone : after.isEnrolled = false) :
      Shift number pool before after (fun pool => (pool.request number).finish number)

namespace Shift

variable {number : Nat} {pool : Pool} {before after : Stage} {change : Pool → Pool}

theorem absent (out : before.isEnrolled = false)
    (listed : number ∈ pool.roll ↔ before.isEnrolled = true) : number ∉ pool.roll := by
  rw [listed, out]
  exact nofun

theorem balanced (shift : Shift number pool before after change) (balanced : pool.Balanced)
    (listed : number ∈ pool.roll ↔ before.isEnrolled = true) : (change pool).Balanced := by
  cases shift with
  | aside | begins | goesOn => exact balanced
  | submits => exact balanced.submit
  | asks out => exact balanced.request (absent out listed)
  | ends => exact balanced.finish number
  | passes out => exact (balanced.request (absent out listed)).finish number

theorem mem_roll_self (shift : Shift number pool before after change) (balanced : pool.Balanced)
    (listed : number ∈ pool.roll ↔ before.isEnrolled = true) :
    number ∈ (change pool).roll ↔ after.isEnrolled = true := by
  cases shift with
  | aside out stays | submits out stays =>
      rw [stays]
      exact iff_of_false (absent out listed) nofun
  | asks out turn =>
      have enrolled : after.isEnrolled = true := by
        rcases turn with rfl | ⟨works, _⟩
        · rfl
        · exact Stage.isEnrolled_of_isWorking works
      exact iff_of_true (Pool.mem_roll_request.mpr (Or.inr rfl)) enrolled
  | begins permitted works => exact iff_of_true (listed.mpr rfl) (Stage.isEnrolled_of_isWorking works)
  | goesOn worked works =>
      exact iff_of_true (listed.mpr (Stage.isEnrolled_of_isWorking worked))
        (Stage.isEnrolled_of_isWorking works)
  | ends gone =>
      rw [gone]
      exact iff_of_false (fun member => (balanced.mem_roll_finish.mp member).1 rfl) nofun
  | passes out gone =>
      have requested := balanced.request (absent out listed)
      rw [gone]
      exact iff_of_false (fun member => (requested.mem_roll_finish.mp member).1 rfl) nofun

theorem mem_roll_of_ne (shift : Shift number pool before after change) (balanced : pool.Balanced)
    (listed : number ∈ pool.roll ↔ before.isEnrolled = true) {other : Nat}
    (different : other ≠ number) : other ∈ (change pool).roll ↔ other ∈ pool.roll := by
  cases shift with
  | aside | begins | goesOn | submits => rfl
  | asks => rw [Pool.mem_roll_request, or_iff_left different]
  | ends => rw [balanced.mem_roll_finish, and_iff_right different]
  | passes out =>
      have requested := balanced.request (absent out listed)
      rw [requested.mem_roll_finish, and_iff_right different, Pool.mem_roll_request,
        or_iff_left different]

theorem mem_holders_of_ne (shift : Shift number pool before after change) {other : Nat}
    (different : other ≠ number) (held : other ∈ pool.holders) :
    other ∈ (change pool).holders := by
  cases shift with
  | aside | begins | goesOn | submits => exact held
  | asks => exact Pool.mem_holders_request held
  | ends => exact Pool.mem_holders_finish held different
  | passes => exact Pool.mem_holders_finish (Pool.mem_holders_request held) different

theorem mem_holders_self (shift : Shift number pool before after change)
    (held : before.isWorking = true → number ∈ pool.holders) (works : after.isWorking = true) :
    number ∈ (change pool).holders := by
  cases shift with
  | aside _ stays | submits _ stays =>
      rw [Stage.isEnrolled_of_isWorking works] at stays
      cases stays
  | asks out turn =>
      rcases turn with rfl | ⟨_, permitted⟩
      · cases works
      · exact Pool.holds_iff.mp permitted
  | begins permitted => exact Pool.holds_iff.mp permitted
  | goesOn worked => exact held worked
  | ends gone | passes _ gone =>
      rw [Stage.isEnrolled_of_isWorking works] at gone
      cases gone

end Shift

namespace Container

variable {container next : Container} {number : Nat} {task : Task} {step : Step}
  {outcome : Outcome} {effects : List Effect}

theorem Transition.shift (transition : container.Transition number task step outcome)
    (pooled : task.isPooled = true) (lined : task.stage ≠ .created)
    (other : step ≠ .start number) (pool : Pool) :
    Shift number pool task.stage outcome.stage outcome.pool := by
  have course : task.course = .dispatched .pooled := of_decide_eq_true pooled
  cases transition with
  | lineUp created => exact absurd created lined
  | enter waits =>
      simp only [Task.enter, Task.reach, pooled, if_true, waits]
      exact .submits rfl rfl
  | giveUp waits =>
      simp only [Task.giveUp, Task.reach, course, waits]
      exact .aside rfl rfl
  | run answers byHand =>
      rw [course] at byHand
      cases byHand
  | queue | serve | lose => exact absurd rfl other
  | forward conduct leg proxies returned =>
      exact .goesOn (Stage.isWorking_of_handBack? returned) rfl
  | exit conduct fault proxies returned =>
      have worked := Stage.isWorking_of_handBack? returned
      cases fault with
      | none =>
          simp only [Task.exit, Task.conclude, Task.reach, pooled, if_true]
          exact .ends rfl
      | some fault =>
          simp only [Task.exit, Task.fail, Task.reach, course, Course.answers, if_true]
          exact .goesOn worked rfl
  | respond fault conduct answers =>
      simp only [Task.conclude, Task.reach, pooled, if_true]
      exact .ends rfl
  | cancel unfinished =>
      by_cases early : task.stage = .created ∨ task.stage = .waiting
      · have waits := early.resolve_left lined
        simp only [Task.cancel, Task.reach, waits, or_true, if_true]
        exact .aside rfl rfl
      · simp only [Task.cancel, if_neg early, Task.conclude, Task.reach, pooled, if_true]
        exact .ends rfl

theorem permitted_iff {pool : Pool} (located : container.pool? task.application = some pool)
    (change : Pool → Pool) :
    container.permitted number task change = (change pool).holds number := by
  simp only [permitted, located, Option.map_some, Option.getD_some]

theorem shift_of_start {pool : Pool} (pooled : task.isPooled = true)
    (located : container.pool? task.application = some pool)
    (turn : task.stage = .submitted ∨
      task.stage = .queued ∧ container.permitted number task id = true) :
    Shift number pool task.stage (container.start number task).stage
      (container.start number task).pool := by
  unfold start
  rw [if_pos pooled]
  rcases turn with submitted | ⟨queued, permitted⟩
  · simp only [submitted, if_true]
    split
    · rename_i permitted
      rw [permitted_iff located] at permitted
      rcases container.setOut_cases number task with ⟨plan, proxies, sets⟩ | lost
      · rw [sets]
        exact .asks rfl (Or.inr ⟨rfl, permitted⟩)
      · rw [lost]
        simp only [Task.exit, Task.conclude, Task.reach, pooled, if_true]
        exact .passes rfl rfl
    · exact .asks rfl (Or.inl rfl)
  · simp only [queued, reduceCtorEq, if_false, permitted, if_true]
    rw [permitted_iff located] at permitted
    rcases container.setOut_cases number task with ⟨plan, proxies, sets⟩ | lost
    · rw [sets]
      exact .begins permitted rfl
    · rw [lost]
      simp only [Task.exit, Task.conclude, Task.reach, pooled, if_true]
      exact .ends rfl

theorem turn_of_outcome? (able : container.outcome? number task (.start number) = some outcome) :
    task.stage = .entered ∨ task.stage = .submitted ∨
      task.stage = .queued ∧ container.permitted number task id = true := by
  simp only [outcome?] at able
  split at able
  · cases able
  · rename_i entered _
    exact Or.inl entered
  · rename_i submitted _
    exact Or.inr (Or.inl submitted)
  · rename_i queued _
    split at able
    · rename_i permitted
      exact Or.inr (Or.inr ⟨queued, permitted⟩)
    · cases able
  · cases able

theorem conclude_pool (number : Nat) (direct : task.isPooled = false) (ending : Ending) :
    (task.conclude number ending).pool = id := by
  simp [Task.conclude, direct]

theorem fail_pool (number : Nat) (direct : task.isPooled = false) (fault : DispatchError) :
    (task.fail number fault).pool = id := by
  unfold Task.fail
  split
  · rfl
  · exact conclude_pool number direct _

theorem Transition.pool_of_direct (transition : container.Transition number task step outcome)
    (direct : task.isPooled = false) (other : step ≠ .start number) :
    outcome.pool = id ∧ outcome.stage ≠ .queued := by
  have out {stage : Stage} (gone : stage.isInLine = false) : stage ≠ .queued := by
    rintro rfl
    cases gone
  cases transition with
  | lineUp => simp [Task.lineUp, Task.reach]
  | enter => simp [Task.enter, Task.reach, direct]
  | forward => simp [Task.forward, Task.reach]
  | giveUp =>
      refine ⟨?_, out (task.giveUp_isInLine number _)⟩
      unfold Task.giveUp
      split
      · rfl
      · rfl
      · exact fail_pool number direct _
  | run answers byHand idle =>
      refine ⟨rfl, ?_⟩
      rcases idle with created | entered
      · simp [created]
      · simp [entered]
  | queue | serve | lose => exact absurd rfl other
  | exit conduct fault =>
      refine ⟨?_, out (task.exit_isInLine number fault)⟩
      cases fault with
      | none => exact conclude_pool number direct .completed
      | some fault => exact fail_pool number direct fault
  | respond => simp [Task.conclude, Task.reach, direct]
  | cancel =>
      refine ⟨?_, out (task.cancel_isInLine number)⟩
      unfold Task.cancel
      split
      · rfl
      · exact conclude_pool number direct .cancelled

theorem start_of_direct (direct : task.isPooled = false) :
    (container.start number task).pool = id ∧ (container.start number task).stage ≠ .queued := by
  have turn : container.start number task = container.setOut number task := by
    unfold start
    rw [if_neg (by rw [direct]; exact nofun)]
  rw [turn]
  rcases container.setOut_cases number task with ⟨plan, proxies, sets⟩ | lost
  · rw [sets]
    exact ⟨rfl, nofun⟩
  · rw [lost]
    simp [Task.exit, Task.conclude, Task.reach, direct]

theorem pool?_settle (number : Nat) (task : Task) (outcome : Outcome) (application : Nat) :
    (container.settle number task outcome).pool? application =
      if application = task.application then
        (container.pool? application).map outcome.pool
      else container.pool? application := by
  simp only [pool?, settle, Registry.get?, Registry.modifyPool, Catalog.get?, Catalog.modify,
    List.getElem?_modify]
  by_cases same : application = task.application
  · subst same
    simp only [if_true, Option.map_map]
    cases container.registry.applications.made[task.application]? <;> rfl
  · simp only [if_neg (Ne.symm same), if_neg same]
    cases container.registry.applications.made[application]? <;> rfl

theorem Sound.pool? (sound : container.Sound) (found : container.tasks[number]? = some task) :
    ∃ pool, container.pool? task.application = some pool := by
  obtain ⟨mode, located, _⟩ := sound.gated found
  obtain ⟨application, registered, _⟩ := Option.map_eq_some_iff.mp located
  exact ⟨application.pool, by rw [Container.pool?, registered]; rfl⟩

/-! ### Tasks and pools -/

structure Enrolled (container : Container) (application number : Nat) (task : Task) : Prop where
  found : container.tasks[number]? = some task
  employed : task.application = application
  pooled : task.isPooled = true
  enrolled : task.stage.isEnrolled = true

structure Staffed (container : Container) : Prop where
  balanced : ∀ {application pool}, container.pool? application = some pool → pool.Balanced
  rolled : ∀ {application pool number}, container.pool? application = some pool →
    (number ∈ pool.roll ↔ ∃ task, container.Enrolled application number task)
  working : ∀ {number task pool}, container.tasks[number]? = some task → task.isPooled = true →
    container.pool? task.application = some pool → task.stage.isWorking = true →
    number ∈ pool.holders
  queued : ∀ {number : Nat} {task : Task}, container.tasks[number]? = some task →
    task.stage = .queued → task.isPooled = true
  direct : ∀ {number : Nat} {task : Task}, container.tasks[number]? = some task →
    task.stage = .entered → task.isPooled = false

theorem Staffed.extend (staffed : container.Staffed) (sound : container.Sound)
    (pools : ∀ {application pool}, next.pool? application = some pool →
      (∃ old watchers, container.pool? application = some old ∧ pool = { old with watchers }) ∨
        container.pool? application = none ∧ pool.Unused)
    (tasks : ∀ {number : Nat} {task : Task}, next.tasks[number]? = some task →
      container.tasks[number]? = some task ∨ task.stage = .created ∨ task.stage = .waiting)
    (kept : ∀ {number : Nat} {task : Task}, container.tasks[number]? = some task →
      next.tasks[number]? = some task) : next.Staffed := by
  have old {number : Nat} {task : Task} (found : next.tasks[number]? = some task)
      (created : task.stage ≠ .created) (waits : task.stage ≠ .waiting) :
      container.tasks[number]? = some task :=
    (tasks found).resolve_right (not_or.mpr ⟨created, waits⟩)
  have enrolled {application number : Nat} {task : Task} :
      next.Enrolled application number task ↔ container.Enrolled application number task := by
    constructor
    · rintro ⟨found, employed, pooled, enrolled⟩
      have past : task.stage ≠ .created ∧ task.stage ≠ .waiting := by
        constructor <;> intro same <;> rw [same] at enrolled <;> cases enrolled
      exact ⟨old found past.1 past.2, employed, pooled, enrolled⟩
    · rintro ⟨found, employed, pooled, enrolled⟩
      exact ⟨kept found, employed, pooled, enrolled⟩
  refine ⟨?_, ?_, ?_, ?_, ?_⟩
  · intro application pool located
    rcases pools located with ⟨before, watchers, locatedBefore, rfl⟩ | ⟨_, unused⟩
    · exact (staffed.balanced locatedBefore).congr rfl rfl rfl rfl
    · exact unused.balanced
  · intro application pool number located
    simp only [enrolled]
    rcases pools located with ⟨before, watchers, locatedBefore, rfl⟩ | ⟨missing, unused⟩
    · change number ∈ before.roll ↔ _
      exact staffed.rolled locatedBefore
    · rw [unused.roll_eq_nil]
      refine iff_of_false List.not_mem_nil ?_
      rintro ⟨task, found, rfl, _⟩
      obtain ⟨pool, present⟩ := sound.pool? found
      rw [missing] at present
      cases present
  · intro number task pool found pooled located works
    have past : task.stage ≠ .created ∧ task.stage ≠ .waiting := by
      constructor <;> intro same <;> rw [same] at works <;> cases works
    have before := old found past.1 past.2
    rcases pools located with ⟨earlier, watchers, locatedBefore, rfl⟩ | ⟨missing, _⟩
    · change number ∈ earlier.holders
      exact staffed.working before pooled locatedBefore works
    · obtain ⟨pool, present⟩ := sound.pool? before
      rw [missing] at present
      cases present
  · intro number task found queued
    exact staffed.queued (old found (by rw [queued]; exact nofun) (by rw [queued]; exact nofun)) queued
  · intro number task found entered
    exact staffed.direct (old found (by rw [entered]; exact nofun) (by rw [entered]; exact nofun))
      entered

theorem enrolled_settle (found : container.tasks[number]? = some task)
    (pooling : (task.after outcome).isPooled = task.isPooled) {application other : Nat} :
    (∃ later, (container.settle number task outcome).Enrolled application other later) ↔
      if other = number then task.application = application ∧ task.isPooled = true ∧
        outcome.stage.isEnrolled = true
      else ∃ later, container.Enrolled application other later := by
  split
  · rename_i same
    subst same
    constructor
    · rintro ⟨later, present, employed, pooled, enrolled⟩
      rw [settle_tasks_self outcome found] at present
      obtain rfl := Option.some.inj present
      exact ⟨employed, pooling ▸ pooled, enrolled⟩
    · rintro ⟨employed, pooled, enrolled⟩
      exact ⟨_, settle_tasks_self outcome found, employed, pooling.trans pooled, enrolled⟩
  · rename_i different
    constructor
    · rintro ⟨later, present, employed, pooled, enrolled⟩
      rw [settle_tasks_of_ne task outcome different] at present
      exact ⟨later, present, employed, pooled, enrolled⟩
    · rintro ⟨later, present, employed, pooled, enrolled⟩
      exact ⟨later, (settle_tasks_of_ne task outcome different).trans present, employed, pooled,
        enrolled⟩

structure Posted (number : Nat) (task : Task) (outcome : Outcome) (pool : Pool) : Prop where
  balanced : (outcome.pool pool).Balanced
  self : number ∈ (outcome.pool pool).roll ↔
    task.isPooled = true ∧ outcome.stage.isEnrolled = true
  others : ∀ {other}, other ≠ number → (other ∈ (outcome.pool pool).roll ↔ other ∈ pool.roll)
  holders : ∀ {other}, other ≠ number → other ∈ pool.holders → other ∈ (outcome.pool pool).holders
  works : task.isPooled = true → outcome.stage.isWorking = true →
    number ∈ (outcome.pool pool).holders

theorem Staffed.mem_roll_iff (staffed : container.Staffed)
    (found : container.tasks[number]? = some task) {pool : Pool}
    (located : container.pool? task.application = some pool) :
    number ∈ pool.roll ↔ task.isPooled = true ∧ task.stage.isEnrolled = true := by
  rw [staffed.rolled located]
  constructor
  · rintro ⟨other, foundOther, _, pooled, enrolled⟩
    obtain rfl := Option.some.inj (found.symm.trans foundOther)
    exact ⟨pooled, enrolled⟩
  · rintro ⟨pooled, enrolled⟩
    exact ⟨task, found, rfl, pooled, enrolled⟩

theorem Staffed.posted_of_shift (staffed : container.Staffed)
    (found : container.tasks[number]? = some task) (pooled : task.isPooled = true) {pool : Pool}
    (located : container.pool? task.application = some pool)
    (shift : Shift number pool task.stage outcome.stage outcome.pool) :
    Posted number task outcome pool := by
  have balanced := staffed.balanced located
  have listed : number ∈ pool.roll ↔ task.stage.isEnrolled = true := by
    rw [staffed.mem_roll_iff found located, and_iff_right pooled]
  refine ⟨shift.balanced balanced listed, ?_, ?_, ?_, ?_⟩
  · rw [and_iff_right pooled]
    exact shift.mem_roll_self balanced listed
  · intro other different
    exact shift.mem_roll_of_ne balanced listed different
  · intro other different held
    exact shift.mem_holders_of_ne different held
  · intro _ works
    exact shift.mem_holders_self (staffed.working found pooled located) works

theorem Staffed.posted_of_direct (staffed : container.Staffed)
    (found : container.tasks[number]? = some task) (direct : task.isPooled = false) {pool : Pool}
    (located : container.pool? task.application = some pool) (untouched : outcome.pool = id) :
    Posted number task outcome pool := by
  have unlisted := staffed.mem_roll_iff found located
  rw [direct] at unlisted
  refine ⟨?_, ?_, ?_, ?_, ?_⟩
  · rw [untouched]
    exact staffed.balanced located
  · rw [untouched, direct]
    exact iff_of_false (fun member => nomatch (unlisted.mp member).1) (fun both => nomatch both.1)
  · intro other _
    rw [untouched]
    rfl
  · intro other _ held
    rw [untouched]
    exact held
  · intro pooled
    rw [direct] at pooled
    cases pooled

theorem Staffed.settle (staffed : container.Staffed)
    (found : container.tasks[number]? = some task)
    (pooling : (task.after outcome).isPooled = task.isPooled) {pool : Pool}
    (located : container.pool? task.application = some pool)
    (posted : Posted number task outcome pool)
    (queued : outcome.stage = .queued → task.isPooled = true)
    (direct : outcome.stage = .entered → task.isPooled = false) :
    (container.settle number task outcome).Staffed := by
  -- The pool of the application is as the step left it; all others are as before.
  have pools {application : Nat} {later : Pool}
      (present : (container.settle number task outcome).pool? application = some later) :
      application = task.application ∧ later = outcome.pool pool ∨
        application ≠ task.application ∧ container.pool? application = some later := by
    rw [pool?_settle] at present
    split at present
    · rename_i same
      rw [same, located] at present
      exact Or.inl ⟨same, (Option.some.inj present).symm⟩
    · rename_i different
      exact Or.inr ⟨different, present⟩
  refine ⟨?_, ?_, ?_, ?_, ?_⟩
  · intro application later present
    rcases pools present with ⟨_, rfl⟩ | ⟨_, before⟩
    · exact posted.balanced
    · exact staffed.balanced before
  · intro application later other present
    rw [enrolled_settle found pooling]
    rcases pools present with ⟨rfl, rfl⟩ | ⟨elsewhere, before⟩
    · split
      · rename_i same
        rw [same, posted.self, and_iff_right rfl]
      · rename_i different
        rw [posted.others different]
        exact staffed.rolled located
    · rw [staffed.rolled before]
      split
      · rename_i same
        subst same
        constructor
        · rintro ⟨old, foundOld, employed, _⟩
          obtain rfl := Option.some.inj (found.symm.trans foundOld)
          exact absurd employed.symm elsewhere
        · rintro ⟨employed, _⟩
          exact absurd employed.symm elsewhere
      · rfl
  · intro other later changed present pooled locatedLater works
    rcases (settle_tasks_iff found).mp present with ⟨rfl, rfl⟩ | ⟨different, before⟩
    · rcases pools locatedLater with ⟨_, rfl⟩ | ⟨elsewhere, _⟩
      · exact posted.works (pooling ▸ pooled) works
      · exact absurd rfl elsewhere
    · rcases pools locatedLater with ⟨same, rfl⟩ | ⟨_, locatedBefore⟩
      · exact posted.holders different (staffed.working before pooled (same ▸ located) works)
      · exact staffed.working before pooled locatedBefore works
  · intro other later present waits
    rcases (settle_tasks_iff found).mp present with ⟨_, rfl⟩ | ⟨_, before⟩
    · exact pooling.trans (queued waits)
    · exact staffed.queued before waits
  · intro other later present entered
    rcases (settle_tasks_iff found).mp present with ⟨_, rfl⟩ | ⟨_, before⟩
    · exact pooling.trans (direct entered)
    · exact staffed.direct before entered

theorem Transition.ne_entered (transition : container.Transition number task step outcome)
    (pooled : task.isPooled = true) : outcome.stage ≠ .entered := by
  have out {stage : Stage} (gone : stage.isInLine = false) : stage ≠ .entered := by
    rintro rfl
    cases gone
  cases transition with
  | lineUp | queue | serve | forward | respond => exact nofun
  | enter => simp [Task.enter, Task.reach, pooled]
  | giveUp => exact out (task.giveUp_isInLine number _)
  | run answers byHand =>
      rw [show task.course = _ from of_decide_eq_true pooled] at byHand
      cases byHand
  | lose => exact out (task.exit_isInLine number none)
  | exit conduct fault => exact out (task.exit_isInLine number fault)
  | cancel => exact out (task.cancel_isInLine number)

theorem Transition.isPooled_after (transition : container.Transition number task step outcome) :
    (task.after outcome).isPooled = task.isPooled :=
  decide_eq_decide.mpr (transition.dispatched_iff .pooled)

theorem Staffed.of_step (staffed : container.Staffed) (sound : container.Sound)
    (possible : container.step? step = some (next, effects)) : next.Staffed := by
  cases about : step.task? with
  | some number =>
      rw [container.step?_of_task? about] at possible
      obtain ⟨task, outcome, found, able, rfl, rfl⟩ := taskStep?_eq_some possible
      have transition := transition_of_outcome? about able
      obtain ⟨pool, located⟩ := sound.pool? found
      cases pooled : task.isPooled with
      | true =>
          have course : task.course = .dispatched .pooled := of_decide_eq_true pooled
          have shift : Shift number pool task.stage outcome.stage outcome.pool := by
            by_cases turn : step = .start number
            · subst turn
              rw [← start_of_outcome? able]
              have ready : task.stage ≠ .entered := by
                intro entered
                rw [staffed.direct found entered] at pooled
                cases pooled
              exact shift_of_start pooled located ((turn_of_outcome? able).resolve_left ready)
            · exact transition.shift pooled (sound.lined found course) turn pool
          refine staffed.settle found transition.isPooled_after located
            (staffed.posted_of_shift found pooled located shift) (fun _ => pooled) ?_
          intro entered
          exact absurd entered (transition.ne_entered pooled)
      | false =>
          have left : outcome.pool = id ∧ outcome.stage ≠ .queued := by
            by_cases turn : step = .start number
            · subst turn
              rw [← start_of_outcome? able]
              exact start_of_direct pooled
            · exact transition.pool_of_direct pooled turn
          refine staffed.settle found transition.isPooled_after located
            (staffed.posted_of_direct found pooled located left.1) ?_ (fun _ => pooled)
          intro queued
          exact absurd queued left.2
  | none =>
      have happening := happening_of_step? possible
      refine staffed.extend sound ?_ ?_ ?_
      · intro application pool located
        left
        refine ⟨pool, pool.watchers, ?_, rfl⟩
        rw [← located]
        cases happening with
        | task found transition =>
            rw [transition.about] at about
            cases about
        | accept => simp [pool?]
        | answer | relay | hold | release => rfl
      · intro number task found
        rcases happening.task_origin found with ⟨before, present, _⟩ | ⟨_, _, _, _, _, _, _, rfl⟩
        · left
          rw [← found]
          have same := happening.task_unchanged (by rw [about]; exact nofun) present
          rw [same, ← present]
        · exact Or.inr (Or.inr rfl)
      · intro number task found
        exact happening.task_unchanged (by rw [about]; exact nofun) found

/-! ### Runs -/

structure Opening (container : Container) : Prop extends AtRest container where
  pools : ∀ {application pool}, container.pool? application = some pool → pool.Unused

structure HandsOff (before after : Container) : Prop extends Interlude before after where
  pools : ∀ {application pool}, after.pool? application = some pool →
    (∃ old watchers, before.pool? application = some old ∧ pool = { old with watchers }) ∨
      before.pool? application = none ∧ pool.Unused

theorem Opening.staffed (opening : container.Opening) : container.Staffed where
  balanced located := (opening.pools located).balanced
  rolled := by
    intro application pool number located
    rw [(opening.pools located).roll_eq_nil]
    refine iff_of_false List.not_mem_nil ?_
    rintro ⟨task, found, _⟩
    rw [opening.tasks] at found
    cases found
  working found := by
    rw [opening.tasks] at found
    cases found
  queued found := by
    rw [opening.tasks] at found
    cases found
  direct found := by
    rw [opening.tasks] at found
    cases found

theorem HandsOff.staffed {before after : Container} (others : HandsOff before after)
    (sound : before.Sound) (staffed : before.Staffed) : after.Staffed := by
  refine staffed.extend sound others.pools ?_ others.task_kept
  intro number task found
  obtain ⟨made, tasks, handmade⟩ := others.tasks
  rw [tasks] at found
  rcases Nat.lt_or_ge number before.tasks.length with early | late
  · rw [List.getElem?_append_left early] at found
    exact Or.inl found
  · rw [List.getElem?_append_right late] at found
    exact Or.inr (Or.inl (handmade task (List.mem_of_getElem? found)).created)

end Container

theorem Run.staffed {start finish : Container} {history : List Moment}
    (run : Run Container.HandsOff start history finish) (opening : start.Opening) :
    finish.Sound ∧ finish.Staffed := by
  refine run.preserves (fun container => container.Sound ∧ container.Staffed) ?_ ?_
    ⟨opening.sound, opening.staffed⟩
  · intro before next step effects possible known
    exact ⟨(Container.happening_of_step? possible).sound known.1,
      known.2.of_step known.1 possible⟩
  · intro before next others known
    exact ⟨others.sound known.1, others.staffed known.1 known.2⟩

end SipContainer

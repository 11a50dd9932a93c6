import SipContainer.Proofs.Concurrency.Workshop
/-!
What every event leaves true of the tasks of a pool, part by part: the permits, the count, the
beginnings, the lists of those who wait for the pool to be idle, and what these have still to hear.
-/

namespace SipContainer

open Simulation (WorkEnd)

namespace Workshop

variable {shop next : Workshop} {event : Event} {record : List Event} {size task : Nat}

/-! ### Permits -/

structure Staffed (size : Nat) (shop : Workshop) : Prop where
  capacity : shop.pool.capacity = max 1 size
  balanced : shop.pool.Balanced
  rolled : ∀ task, task ∈ shop.pool.roll ↔ shop.Enrolled task
  holding : ∀ task, shop.tasks[task]? = some .running → task ∈ shop.pool.holders

namespace Staffed

theorem opened (size : Nat) : Staffed size { pool := .ofSize size } where
  capacity := rfl
  balanced := Pool.balanced_ofSize size
  rolled := by
    intro task
    refine iff_of_false List.not_mem_nil ?_
    rintro ⟨progress, stands, _⟩
    cases stands
  holding _ stands := by cases stands

theorem moved (staffed : shop.Staffed size) {pool : Pool} {heralds : Nat}
    {before after : Progress} (stands : shop.tasks[task]? = some before)
    (capacity : pool.capacity = shop.pool.capacity) (balanced : pool.Balanced)
    (self : task ∈ pool.roll ↔ after.isEnrolled = true)
    (others : ∀ other, other ≠ task → (other ∈ pool.roll ↔ other ∈ shop.pool.roll))
    (holds : after = .running → task ∈ pool.holders)
    (kept : ∀ other, other ≠ task → other ∈ shop.pool.holders → other ∈ pool.holders) :
    Staffed size { shop.move task after with pool, heralds } where
  capacity := capacity.trans staffed.capacity
  balanced := balanced
  rolled := by
    intro other
    by_cases same : other = task
    · subst same
      exact self.trans (enrolled_congr (getElem?_move_self stands)).symm
    · have elsewhere : (shop.move task after).Enrolled other ↔ shop.Enrolled other := by
        unfold Enrolled
        rw [getElem?_move_of_ne same]
      exact (others other same).trans ((staffed.rolled other).trans elsewhere.symm)
  holding := by
    intro other runs
    by_cases same : other = task
    · subst same
      have now : (shop.move other after).tasks[other]? = some after := getElem?_move_self stands
      exact holds (Option.some.inj (now.symm.trans runs))
    · refine kept other same (staffed.holding other ?_)
      rw [← getElem?_move_of_ne same]
      exact runs

theorem watched (staffed : shop.Staffed size) {later : Workshop}
    (pool : later.pool = { shop.pool with
      active := later.pool.active, watchers := later.pool.watchers })
    (tasks : later.tasks = shop.tasks) : Staffed size later where
  capacity := by
    rw [pool]
    exact staffed.capacity
  balanced := by
    rw [pool]
    exact staffed.balanced.congr rfl rfl rfl rfl
  rolled := by
    intro task
    unfold Enrolled
    rw [pool, tasks]
    exact staffed.rolled task
  holding := by
    rw [pool, tasks]
    exact staffed.holding

theorem absent (staffed : shop.Staffed size) {progress : Progress}
    (stands : shop.tasks[task]? = some progress) (out : progress.isEnrolled = false) :
    task ∉ shop.pool.roll := by
  rw [staffed.rolled, enrolled_congr stands, out]
  exact nofun

theorem submit (staffed : shop.Staffed size) :
    Staffed size { shop with pool := shop.pool.submit, tasks := shop.tasks ++ [.submitted] } where
  capacity := staffed.capacity
  balanced := staffed.balanced.submit
  rolled := by
    intro task
    refine (staffed.rolled task).trans ?_
    unfold Enrolled
    apply exists_congr
    intro progress
    apply and_congr_left
    intro enrolled
    rw [getElem?_submitted, or_iff_left]
    rintro ⟨_, rfl⟩
    cases enrolled
  holding := by
    intro task runs
    rcases getElem?_submitted.mp runs with earlier | ⟨_, last⟩
    · exact staffed.holding task earlier
    · cases last

theorem step (staffed : shop.Staffed size) (step : shop.Step event next) : next.Staffed size := by
  cases step with
  | submit => exact staffed.submit
  | @ask task stands =>
      have absent := staffed.absent stands rfl
      refine staffed.moved stands (Pool.capacity_request _ _) (staffed.balanced.request absent)
        (iff_of_true (Pool.mem_roll_request.mpr (Or.inr rfl)) rfl) ?_ nofun ?_
      · intro other different
        rw [Pool.mem_roll_request, or_iff_left different]
      · intro other different held
        exact Pool.mem_holders_request held
  | @start task stands permitted =>
      have held := Pool.holds_iff.mp permitted
      exact staffed.moved stands rfl staffed.balanced
        (iff_of_true (List.mem_append_left _ held) rfl) (fun _ _ => Iff.rfl) (fun _ => held)
        (fun _ _ also => also)
  | @leave task how progress stands may =>
      have balanced := staffed.balanced
      refine staffed.moved stands (Pool.capacity_giveBack _ _) (balanced.giveBack task) ?_ ?_ nofun ?_
      · rw [Pool.roll_giveBack, balanced.distinct.mem_erase_iff]
        exact iff_of_false (fun member => member.1 rfl) nofun
      · intro other different
        rw [Pool.roll_giveBack, balanced.distinct.mem_erase_iff, and_iff_right different]
      · intro other different held
        exact Pool.mem_holders_giveBack held different
  | @finish task how stands =>
      have absent := staffed.absent stands rfl
      exact staffed.moved stands rfl (staffed.balanced.congr rfl rfl rfl rfl)
        (iff_of_false absent nofun) (fun _ _ => Iff.rfl) nofun (fun _ _ held => held)
  | tell | enlist | withdraw => exact staffed.watched rfl rfl
  | look =>
      refine staffed.watched ?_ rfl
      unfold look
      split <;> rfl

end Staffed

/-! ### Counts -/

structure Counted (record : List Event) (shop : Workshop) : Prop where
  submitted : record.countP Event.submits = shop.tasks.length
  finished : record.countP Event.finishes = shop.tasks.countP Progress.isEnded
  active : shop.pool.active + record.countP Event.finishes = record.countP Event.submits

namespace Counted

theorem opened (size : Nat) : Counted [] { pool := .ofSize size } where
  submitted := rfl
  finished := rfl
  active := rfl

theorem positive (counted : Counted record shop) {progress : Progress}
    (stands : shop.tasks[task]? = some progress) (unfinished : progress.isEnded = false) :
    0 < shop.pool.active := by
  have member := List.mem_of_getElem? stands
  have fewer : shop.tasks.countP Progress.isEnded < shop.tasks.length := by
    refine Nat.lt_of_le_of_ne List.countP_le_length fun all => ?_
    have ended := List.countP_eq_length.mp all progress member
    rw [unfinished] at ended
    cases ended
  have submitted := counted.submitted
  have finished := counted.finished
  have active := counted.active
  omega

theorem countP_move {before after : Progress} (stands : shop.tasks[task]? = some before)
    (unfinished : before.isEnded = false) :
    (shop.move task after).tasks.countP Progress.isEnded =
      shop.tasks.countP Progress.isEnded + if after.isEnded then 1 else 0 := by
  obtain ⟨bound, present⟩ := List.getElem?_eq_some_iff.mp stands
  change (shop.tasks.set task after).countP Progress.isEnded = _
  rw [List.countP_set bound, present, unfinished]
  rfl

theorem congr (counted : Counted record shop) {longer : List Event}
    (submissions : longer.countP Event.submits = record.countP Event.submits)
    (completions : longer.countP Event.finishes = record.countP Event.finishes)
    (length : next.tasks.length = shop.tasks.length)
    (ended : next.tasks.countP Progress.isEnded = shop.tasks.countP Progress.isEnded)
    (active : next.pool.active = shop.pool.active) : Counted longer next where
  submitted := by rw [submissions, length, counted.submitted]
  finished := by rw [completions, ended, counted.finished]
  active := by rw [submissions, completions, active, counted.active]

theorem submit (counted : Counted record shop) :
    Counted (.submit :: record)
      { shop with pool := shop.pool.submit, tasks := shop.tasks ++ [.submitted] } where
  submitted := by
    rw [List.countP_cons_of_pos rfl, counted.submitted]
    change shop.tasks.length + 1 = (shop.tasks ++ [Progress.submitted]).length
    rw [List.length_append]
    rfl
  finished := by
    change record.countP Event.finishes =
      (shop.tasks ++ [Progress.submitted]).countP Progress.isEnded
    rw [List.countP_append, counted.finished]
    rfl
  active := by
    have active := counted.active
    rw [List.countP_cons_of_pos (show Event.submit.submits = true from rfl)]
    change shop.pool.active + 1 + record.countP Event.finishes = _
    omega

theorem finish (counted : Counted record shop) {how : WorkEnd} {heralds : Nat}
    (stands : shop.tasks[task]? = some (.leaving how)) :
    Counted (.finish task :: record)
      { shop.move task (.ended how) with pool := shop.pool.lower, heralds } where
  submitted := by
    change record.countP Event.submits = (shop.tasks.set task (.ended how)).length
    rw [List.length_set, counted.submitted]
  finished := by
    have ended : (shop.move task (.ended how)).tasks.countP Progress.isEnded = _ :=
      countP_move stands rfl
    rw [List.countP_cons_of_pos rfl, counted.finished]
    exact ended.symm
  active := by
    have active := counted.active
    have positive := counted.positive stands rfl
    rw [List.countP_cons_of_pos (show (Event.finish task).finishes = true from rfl)]
    change shop.pool.active - 1 + _ = record.countP Event.submits
    omega

theorem step (counted : Counted record shop) (step : shop.Step event next) :
    Counted (event :: record) next := by
  cases step with
  | submit => exact counted.submit
  | ask stands =>
      exact counted.congr rfl rfl (List.length_set ..) (countP_move stands rfl)
        (Pool.active_request _ _)
  | start stands =>
      exact counted.congr rfl rfl (List.length_set ..) (countP_move stands rfl) rfl
  | @leave task how progress stands may =>
      exact counted.congr rfl rfl (List.length_set ..) (countP_move stands may.isEnded)
        (Pool.active_giveBack _ _)
  | finish stands => exact counted.finish stands
  | tell | enlist | withdraw => exact counted.congr rfl rfl rfl rfl rfl
  | look =>
      refine counted.congr rfl rfl rfl rfl ?_
      unfold look
      split <;> rfl

end Counted

def Early (shop : Workshop) (task : Nat) : Prop :=
  ∀ progress, shop.tasks[task]? = some progress → progress.isEarly = true

/-- A task that has not begun is not on record as having begun, and no task is twice. -/
structure Begun (record : List Event) (shop : Workshop) : Prop where
  early : ∀ task, shop.Early task → record.countP (Event.starts task) = 0
  once : ∀ task, record.countP (Event.starts task) ≤ 1

namespace Begun

theorem opened (size : Nat) : Begun [] { pool := .ofSize size } where
  early _ _ := rfl
  once _ := Nat.zero_le 1

theorem early_of_move {before after : Progress} {other : Nat}
    (stands : shop.tasks[task]? = some before) (early : (shop.move task after).Early other)
    (backward : after.isEarly = true → before.isEarly = true) : shop.Early other := by
  intro progress stood
  by_cases same : other = task
  · subst same
    rw [Option.some.inj (stood.symm.trans stands)]
    exact backward (early after (getElem?_move_self stands))
  · apply early
    rw [getElem?_move_of_ne same]
    exact stood

theorem congr (begun : Begun record shop) (backward : ∀ task, next.Early task → shop.Early task)
    (unstarted : ∀ task, event.starts task = false) : Begun (event :: record) next := by
  have same : ∀ task,
      (event :: record).countP (Event.starts task) = record.countP (Event.starts task) := by
    intro task
    apply List.countP_cons_of_neg
    rw [unstarted]
    exact Bool.false_ne_true
  constructor
  · intro task early
    rw [same]
    exact begun.early task (backward task early)
  · intro task
    rw [same]
    exact begun.once task

theorem start (begun : Begun record shop) (stands : shop.tasks[task]? = some .queued) :
    Begun (.start task :: record) (shop.move task .running) := by
  have fresh : record.countP (Event.starts task) = 0 := by
    apply begun.early
    intro progress stood
    rw [Option.some.inj (stood.symm.trans stands)]
    rfl
  have others : ∀ other, other ≠ task → (Event.start task :: record).countP (Event.starts other) =
      record.countP (Event.starts other) := by
    intro other different
    apply List.countP_cons_of_neg
    intro started
    exact different (of_decide_eq_true started).symm
  constructor
  · intro other early
    have different : other ≠ task := by
      intro same
      subst same
      cases early .running (getElem?_move_self stands)
    rw [others other different]
    exact begun.early other (early_of_move stands early nofun)
  · intro other
    by_cases same : other = task
    · subst same
      have itself : (Event.start other).starts other = true := decide_eq_true rfl
      apply Nat.le_of_eq
      rw [List.countP_cons_of_pos itself, fresh]
    · rw [others other same]
      exact begun.once other

theorem step (begun : Begun record shop) (step : shop.Step event next) :
    Begun (event :: record) next := by
  cases step with
  | submit =>
      refine begun.congr ?_ (fun _ => rfl)
      intro task early progress stood
      exact early progress (getElem?_submitted.mpr (Or.inl stood))
  | ask stands => exact begun.congr (fun _ early => early_of_move stands early (fun _ => rfl)) (fun _ => rfl)
  | start stands => exact begun.start stands
  | leave stands | finish stands =>
      exact begun.congr (fun _ early => early_of_move stands early nofun) (fun _ => rfl)
  | tell | enlist | look | withdraw => exact begun.congr (fun _ early => early) (fun _ => rfl)

end Begun

/-! ### Lists -/

/-- A list of those who have enlisted, once each, but for those for whom that has been undone. -/
structure Keeps (undoes : Nat → Event → Bool) (record : List Event) (list : List Nat) : Prop where
  distinct : list.Nodup
  listed : ∀ caller, caller ∈ list ↔ Since (.enlist caller) (undoes caller) record

namespace Keeps

variable {undoes : Nat → Event → Bool} {list : List Nat} {caller : Nat}

theorem congr (keeps : Keeps undoes record list) (other : ∀ caller, event ≠ .enlist caller)
    (harmless : ∀ caller, undoes caller event = false) : Keeps undoes (event :: record) list where
  distinct := keeps.distinct
  listed := by
    intro caller
    rw [since_cons, or_iff_right (other caller), and_iff_right (harmless caller)]
    exact keeps.listed caller

theorem concat (keeps : Keeps undoes record list) (absent : caller ∉ list)
    (harmless : ∀ other, undoes other (.enlist caller) = false) :
    Keeps undoes (.enlist caller :: record) (list ++ [caller]) where
  distinct := by
    rw [← List.concat_eq_append]
    exact keeps.distinct.concat absent
  listed := by
    intro other
    rw [since_cons, List.mem_append, List.mem_singleton, and_iff_right (harmless other),
      keeps.listed other, Event.enlist.injEq, or_comm, @eq_comm _ other]

theorem erase (keeps : Keeps undoes record list) (other : ∀ caller, event ≠ .enlist caller)
    (single : ∀ other, undoes other event = true ↔ other = caller) :
    Keeps undoes (event :: record) (list.erase caller) where
  distinct := keeps.distinct.erase caller
  listed := by
    intro someone
    rw [since_cons, or_iff_right (other someone), keeps.distinct.mem_erase_iff, keeps.listed someone,
      ← Bool.not_eq_true, single someone]

theorem clear (other : ∀ caller, event ≠ .enlist caller)
    (everyone : ∀ caller, undoes caller event = true) : Keeps undoes (event :: record) [] where
  distinct := List.nodup_nil
  listed := by
    intro caller
    rw [since_cons, or_iff_right (other caller), everyone caller]
    exact iff_of_false List.not_mem_nil (fun both => Bool.noConfusion both.1)

end Keeps

/-- Who waits and who is about to look, as told by the record. -/
structure Listed (record : List Event) (shop : Workshop) : Prop where
  watchers : Keeps Event.frees record shop.pool.watchers
  lookers : Keeps Event.isLookOf record shop.lookers

namespace Listed

theorem opened (size : Nat) : Listed [] { pool := .ofSize size } where
  watchers := ⟨List.nodup_nil, fun _ => iff_of_false List.not_mem_nil not_since_nil⟩
  lookers := ⟨List.nodup_nil, fun _ => iff_of_false List.not_mem_nil not_since_nil⟩

theorem congr (listed : Listed record shop) (watchers : next.pool.watchers = shop.pool.watchers)
    (lookers : next.lookers = shop.lookers) (other : ∀ caller, event ≠ .enlist caller)
    (kept : ∀ caller, event.frees caller = false)
    (unseen : ∀ caller, event.isLookOf caller = false) : Listed (event :: record) next where
  watchers := by
    rw [watchers]
    exact listed.watchers.congr other kept
  lookers := by
    rw [lookers]
    exact listed.lookers.congr other unseen

theorem look (listed : Listed record shop) (caller : Nat) :
    Listed (.look caller shop.pool.isIdle :: record) (shop.look caller) where
  watchers := by
    unfold Workshop.look
    by_cases idle : shop.pool.isIdle = true
    · rw [if_pos idle, idle]
      refine listed.watchers.erase nofun fun other => ?_
      rw [Event.frees, Bool.and_true, decide_eq_true_iff, eq_comm]
    · rw [if_neg idle, Bool.not_eq_true _ |>.mp idle]
      exact listed.watchers.congr nofun fun other => Bool.and_false _
  lookers := by
    refine listed.lookers.erase nofun fun other => ?_
    rw [Event.isLookOf, decide_eq_true_iff, eq_comm]

theorem step (listed : Listed record shop) (step : shop.Step event next) :
    Listed (event :: record) next := by
  cases step with
  | submit | start | finish =>
      exact listed.congr rfl rfl nofun (fun _ => rfl) (fun _ => rfl)
  | ask =>
      exact listed.congr (Pool.watchers_request _ _) rfl nofun (fun _ => rfl) (fun _ => rfl)
  | leave =>
      exact listed.congr (Pool.watchers_giveBack _ _) rfl nofun (fun _ => rfl) (fun _ => rfl)
  | tell =>
      exact ⟨.clear nofun (fun _ => rfl), listed.lookers.congr nofun (fun _ => rfl)⟩
  | enlist unlisted waits =>
      exact ⟨listed.watchers.concat unlisted (fun _ => rfl),
        listed.lookers.concat waits (fun _ => rfl)⟩
  | look looks sees =>
      rw [sees]
      exact listed.look _
  | withdraw waits =>
      refine ⟨listed.watchers.erase nofun fun other => ?_,
        listed.lookers.congr nofun (fun _ => rfl)⟩
      rw [Event.frees, decide_eq_true_iff, eq_comm]

end Listed

/-! ### Watchers -/

/-- Who is on the list of watchers while the count is zero is about to be told or about to look. -/
def Informed (shop : Workshop) : Prop :=
  shop.pool.active = 0 → shop.heralds = 0 → ∀ caller ∈ shop.pool.watchers, caller ∈ shop.lookers

namespace Informed

theorem opened (size : Nat) : Informed { pool := .ofSize size } :=
  fun _ _ => nofun

theorem congr (informed : shop.Informed) (watchers : next.pool.watchers = shop.pool.watchers)
    (idle : next.pool.active = 0 → next.heralds = 0 → shop.pool.active = 0 ∧ shop.heralds = 0)
    (lookers : next.lookers = shop.lookers) : next.Informed := by
  intro zero told
  rw [watchers, lookers]
  exact informed (idle zero told).1 (idle zero told).2

theorem enlist (informed : shop.Informed) (caller : Nat) :
    Informed { shop with pool := shop.pool.enlist caller, lookers := shop.lookers ++ [caller] } := by
  intro zero told other listed
  rcases List.mem_append.mp listed with earlier | latest
  · exact List.mem_append_left _ (informed zero told other earlier)
  · exact List.mem_append_right _ latest

theorem look (informed : shop.Informed) (distinct : shop.pool.watchers.Nodup) (caller : Nat) :
    (shop.look caller).Informed := by
  unfold Workshop.look
  by_cases idle : shop.pool.isIdle = true
  · rw [if_pos idle]
    intro zero told other listed
    obtain ⟨different, before⟩ := distinct.mem_erase_iff.mp listed
    exact (List.mem_erase_of_ne different).mpr (informed zero told other before)
  · rw [if_neg idle]
    intro zero
    exact absurd (decide_eq_true zero) idle

theorem step (informed : shop.Informed) (listed : Listed record shop)
    (step : shop.Step event next) : next.Informed := by
  cases step with
  | submit => exact informed.congr rfl nofun rfl
  | ask =>
      refine informed.congr (Pool.watchers_request _ _) ?_ rfl
      intro zero told
      exact ⟨(Pool.active_request _ _).symm.trans zero, told⟩
  | start => exact informed.congr rfl (fun zero told => ⟨zero, told⟩) rfl
  | leave =>
      refine informed.congr (Pool.watchers_giveBack _ _) ?_ rfl
      intro zero told
      exact ⟨(Pool.active_giveBack _ _).symm.trans zero, told⟩
  | finish =>
      refine informed.congr rfl ?_ rfl
      intro zero told
      change shop.pool.active - 1 = 0 at zero
      change (if shop.pool.active = 1 then shop.heralds + 1 else shop.heralds) = 0 at told
      split at told
      · cases told
      · exact ⟨by omega, told⟩
  | tell => exact fun _ _ => nofun
  | enlist => exact informed.enlist _
  | look => exact informed.look listed.watchers.distinct _
  | withdraw =>
      intro zero told other listed
      exact informed zero told other (List.mem_of_mem_erase listed)

end Informed

end Workshop

end SipContainer

import SipContainer.Proofs.Dispatch.FanOut
/-!
Requests on their way to the final branch of a proxy. A request sets out for the branch when it goes to
its application, and the branch gets it when the application has taken it. So the branch may never get
a request that has set out, or get it after one that has set out later. Where requests set out one at a
time and the application takes each of them, the last one that has set out is the last one that the
branch has got, once nothing is on its way.
-/

namespace SipContainer

/-- The proxy to whose final branch a task is going, while the application has its request. -/
def Stage.bound? : Stage → Option Nat
  | serving (.final place _) => some place
  | _ => none

def Effect.handed? (place : Nat) : Effect → Option Nat
  | forwarded number (.final other _) => if other = place then some number else none
  | _ => none

def Step.succeeds : Step → Bool
  | serve _ .success => true
  | _ => false

theorem Step.eq_serve_of_succeeds {step : Step} {number : Nat} (about : step.task? = some number)
    (succeeds : step.succeeds = true) : step = .serve number .success := by
  unfold Step.succeeds at succeeds
  split at succeeds
  · rw [Option.some.inj about]
  · cases succeeds

def Container.bound (container : Container) (place : Nat) : List Nat :=
  (List.range container.tasks.length).filter fun number =>
    (container.tasks[number]?).bind (fun task => task.stage.bound?) = some place

namespace Moment

/-- The request that sets out for the final branch of a proxy. -/
def departure? (place : Nat) (moment : Moment) : Option Request :=
  match moment.step with
  | .start number => (moment.after.tasks[number]?).bind fun task =>
      if task.stage.bound? = some place then some task.request else none
  | _ => none

/-- The request that the final branch of a proxy gets. -/
def delivery? (place : Nat) (moment : Moment) : Option Request :=
  (moment.effects.findSome? (Effect.handed? place)).bind fun number =>
    (moment.after.tasks[number]?).map Task.request

structure Smooth (place : Nat) (moment : Moment) : Prop where
  alone : ∀ number ∈ moment.after.bound place, ∀ other ∈ moment.after.bound place, other = number
  taken : ∀ number ∈ moment.before.bound place,
    moment.step.task? = some number → moment.step.succeeds = true

instance (place : Nat) (moment : Moment) : Decidable (moment.Smooth place) :=
  decidable_of_iff
    ((∀ number ∈ moment.after.bound place, ∀ other ∈ moment.after.bound place, other = number) ∧
      ∀ number ∈ moment.before.bound place,
        moment.step.task? = some number → moment.step.succeeds = true)
    ⟨fun both => ⟨both.1, both.2⟩, fun smooth => ⟨smooth.alone, smooth.taken⟩⟩

end Moment

def departures (place : Nat) (history : List Moment) : List Request :=
  history.filterMap (Moment.departure? place)

def deliveries (place : Nat) (history : List Moment) : List Request :=
  history.filterMap (Moment.delivery? place)

namespace Container

variable {container before after : Container} {number place : Nat} {task : Task} {step : Step}
  {outcome : Outcome} {effects : List Effect}

theorem setOut_cases_of_final (container : Container) (number : Nat) (task : Task) :
    (container.setOut number task).stage.bound? = none ∧
        (container.setOut number task).proxies = id ∧
        (∀ place now, container.proxyOf? task.dialogSession = some (place, now) → now.final = none) ∨
      ∃ place now branch, container.proxyOf? task.dialogSession = some (place, now) ∧
        now.final = some branch ∧ (container.setOut number task).stage.bound? = some place ∧
        (container.setOut number task).effects = [.served number] ∧
        (container.setOut number task).proxies =
          (·.modify place (·.noteFinal task.request)) := by
  unfold setOut
  split
  · rename_i direct
    refine Or.inl ⟨rfl, rfl, ?_⟩
    intro place now proxied
    cases direct.symm.trans proxied
  · rename_i place now proxied
    split
    · rename_i branch decided
      exact Or.inr ⟨place, now, branch, proxied, decided, rfl, rfl, rfl⟩
    · rename_i undecided
      have alike : ∀ other another,
          container.proxyOf? task.dialogSession = some (other, another) → another.final = none := by
        intro other another again
        obtain ⟨rfl, rfl⟩ := Prod.mk.inj (Option.some.inj (proxied.symm.trans again))
        exact undecided
      split
      · exact Or.inl ⟨rfl, rfl, alike⟩
      · exact Or.inl ⟨rfl, rfl, alike⟩

theorem bound?_start_iff (container : Container) (number place : Nat) (task : Task) :
    (container.start number task).stage.bound? = some place ↔
      (container.start number task).effects = [.served number] ∧
        ∃ now branch, container.proxyOf? task.dialogSession = some (place, now) ∧
          now.final = some branch := by
  rcases container.start_cases number task with ⟨pool, same⟩ | ⟨pool, same⟩
  · rw [same]
    exact iff_of_false nofun (fun shown => nomatch shown.1)
  · rw [same]
    dsimp only
    rcases container.setOut_cases_of_final number task with
      ⟨stays, _, undecided⟩ | ⟨other, now, branch, proxied, decided, goes, shows, _⟩
    · rw [stays]
      refine iff_of_false nofun ?_
      intro other
      obtain ⟨_, now, branch, proxied, decided⟩ := other
      cases (undecided place now proxied).symm.trans decided
    · rw [goes, shows]
      constructor
      · intro same
        obtain rfl := Option.some.inj same
        exact ⟨rfl, now, branch, proxied, decided⟩
      · intro shown
        obtain ⟨_, another, _, again, _⟩ := shown
        obtain ⟨rfl, _⟩ := Prod.mk.inj (Option.some.inj (proxied.symm.trans again))
        rfl

/-! ### What sets out -/

theorem departure?_of_start {moment : Moment} (starts : moment.step = .start number)
    (found : moment.before.tasks[number]? = some task)
    (settled : moment.after = moment.before.settle number task outcome) :
    moment.departure? place = if outcome.stage.bound? = some place then some task.request else none := by
  simp only [Moment.departure?, starts, settled, settle_tasks_self outcome found, Option.bind_some]
  rfl

theorem departure?_of_other {moment : Moment} (other : ∀ number, moment.step ≠ .start number) :
    moment.departure? place = none := by
  unfold Moment.departure?
  split
  · rename_i number starts
    exact absurd starts (other number)
  · rfl

section

variable {moment : Moment}
  (possible : moment.before.step? moment.step = some (moment.after, moment.effects))

include possible

theorem outcome?_of_moment (about : moment.step.task? = some number) :
    ∃ task outcome, moment.before.tasks[number]? = some task ∧
      moment.before.outcome? number task moment.step = some outcome ∧
      moment.after = moment.before.settle number task outcome ∧
      moment.effects = outcome.effects := by
  rw [moment.before.step?_of_task? about] at possible
  exact taskStep?_eq_some possible

theorem departure?_eq_some_iff {request : Request} : moment.departure? place = some request ↔
    ∃ number task now branch, moment.step = .start number ∧ moment.effects = [.served number] ∧
      moment.before.tasks[number]? = some task ∧
      moment.before.proxyOf? task.dialogSession = some (place, now) ∧ now.final = some branch ∧
      task.request = request := by
  by_cases starts : ∃ number, moment.step = .start number
  · obtain ⟨number, starts⟩ := starts
    obtain ⟨task, outcome, found, able, settled, shows⟩ :=
      outcome?_of_moment possible (congrArg Step.task? starts)
    rw [departure?_of_start starts found settled, shows]
    rw [starts] at able
    obtain rfl := start_of_outcome? able
    constructor
    · intro departs
      obtain ⟨goes, same⟩ := Option.ite_none_right_eq_some.mp departs
      obtain ⟨served, now, branch, proxied, decided⟩ :=
        (moment.before.bound?_start_iff number place task).mp goes
      exact ⟨number, task, now, branch, starts, served, found, proxied, decided,
        Option.some.inj same⟩
    · intro departs
      obtain ⟨other, again, now, branch, same, served, present, proxied, decided, named⟩ := departs
      obtain rfl := Step.start.inj (starts.symm.trans same)
      obtain rfl := Option.some.inj (found.symm.trans present)
      rw [if_pos ((moment.before.bound?_start_iff number place task).mpr
        ⟨served, now, branch, proxied, decided⟩), named]
  · rw [departure?_of_other (not_exists.mp starts)]
    refine iff_of_false nofun ?_
    intro departs
    obtain ⟨number, _, _, _, same, _⟩ := departs
    exact starts ⟨number, same⟩

end

/-! ### What the final branch gets -/

theorem handed_exit (number place : Nat) (task : Task) (fault : Option DispatchError) :
    (task.exit number fault).effects.findSome? (Effect.handed? place) = none := by
  apply List.findSome?_eq_none_iff.mpr
  intro effect seen
  obtain ⟨cause, same, _⟩ := task.exit_effects number fault seen
  rw [same]
  rfl

theorem handed_fanOut (number place : Nat) (task : Task) (proxies : List Proxy) (other : Nat)
    (branches : List Nat) :
    (task.fanOut number proxies other branches).effects.findSome? (Effect.handed? place) =
      none := by
  unfold Task.fanOut
  split
  · exact handed_exit number place task none
  · rfl

theorem handed_forwarded (container : Container) (number place : Nat) (task : Task) (leg : Leg)
    (conduct : Conduct) :
    (container.forwarded number task leg conduct).effects.findSome? (Effect.handed? place) =
      none := by
  by_cases success : conduct = .success
  · subst success
    cases leg with
    | final => exact handed_exit number place task none
    | fanOut proxy branch others => exact handed_fanOut number place task _ proxy others
  · obtain ⟨message, cause, same⟩ := container.forwarded_of_failure number task leg success
    rw [same]
    exact handed_exit number place task _

theorem handed_served (container : Container) (number place : Nat) (task : Task) (plan : Plan)
    (conduct : Conduct) :
    (container.served number task plan conduct).effects.findSome? (Effect.handed? place) =
      if conduct = .success ∧ (Stage.serving plan).bound? = some place then some number
      else none := by
  by_cases success : conduct = .success
  · subst success
    simp only [true_and]
    cases plan with
    | application => exact handed_exit number place task none
    | fanOut other => exact handed_fanOut number place task _ other _
    | final other branch =>
        by_cases here : other = place
        · subst here
          simp [served, Conduct.failure?, Task.forward, Effect.handed?, Stage.bound?]
        · simp [served, Conduct.failure?, Task.forward, Effect.handed?, Stage.bound?, here]
  · obtain ⟨message, cause, same⟩ := container.served_of_failure number task plan success
    rw [same, if_neg fun both => success both.1]
    exact handed_exit number place task _

theorem handed_of_outcome? (about : step.task? = some number)
    (possible : container.outcome? number task step = some outcome) {other : Nat} :
    outcome.effects.findSome? (Effect.handed? place) = some other ↔
      other = number ∧ step = .serve number .success ∧ task.stage.bound? = some place := by
  have elsewhere (silent : outcome.effects.findSome? (Effect.handed? place) = none)
      (apart : step ≠ .serve number .success) :
      outcome.effects.findSome? (Effect.handed? place) = some other ↔
        other = number ∧ step = .serve number .success ∧ task.stage.bound? = some place := by
    rw [silent]
    exact iff_of_false nofun (fun both => apart both.2.1)
  cases transition_of_outcome? about possible with
  | lineUp | enter | run | queue | serve | respond => exact elsewhere rfl nofun
  | lose => exact elsewhere (handed_exit number place task none) nofun
  | cancel =>
      refine elsewhere ?_ nofun
      rw [task.cancel_effects]
      rfl
  | giveUp =>
      refine elsewhere ?_ nofun
      apply List.findSome?_eq_none_iff.mpr
      intro effect seen
      rw [(task.giveUp_effects number _ seen).1]
      rfl
  | forward conduct _ _ returned | exit conduct _ _ returned =>
      rcases outcome?_of_handBack returned possible with
        ⟨plan, serving, rfl, same⟩ | ⟨leg, _, rfl, same⟩
      · rw [← same, handed_served, serving]
        simp [@eq_comm _ other, and_comm]
      · refine elsewhere ?_ nofun
        rw [← same]
        exact container.handed_forwarded number place task leg conduct

theorem delivery?_eq_some_iff {moment : Moment} {request : Request}
    (possible : moment.before.step? moment.step = some (moment.after, moment.effects)) :
    moment.delivery? place = some request ↔
      ∃ number task, moment.step = .serve number .success ∧
        moment.before.tasks[number]? = some task ∧ task.stage.bound? = some place ∧
        task.request = request := by
  rw [Moment.delivery?]
  cases about : moment.step.task? with
  | none =>
      have silent : moment.effects.findSome? (Effect.handed? place) = none := by
        apply List.findSome?_eq_none_iff.mpr
        intro effect seen
        have free : effect.task? = none := by
          rcases (happening_of_step? possible).effect_about seen with free | same
          · exact free
          · exact same.trans about
        cases effect with
        | asked | relayed => rfl
        | served | forwarded | responded => cases free
      rw [silent]
      refine iff_of_false nofun ?_
      intro delivered
      obtain ⟨number, _, serves, _⟩ := delivered
      rw [serves] at about
      cases about
  | some number =>
      obtain ⟨task, outcome, found, able, settled, shows⟩ := outcome?_of_moment possible about
      simp only [shows, settled, Option.bind_eq_some_iff, Option.map_eq_some_iff,
        handed_of_outcome? about able]
      constructor
      · intro delivered
        obtain ⟨other, ⟨rfl, serves, goes⟩, later, present, same⟩ := delivered
        obtain rfl := Option.some.inj ((settle_tasks_self outcome found).symm.trans present)
        exact ⟨other, task, serves, found, goes, same⟩
      · intro taken
        obtain ⟨other, again, serves, present, goes, same⟩ := taken
        obtain rfl : other = number := Option.some.inj (by rw [← about, serves]; rfl)
        obtain rfl := Option.some.inj (found.symm.trans present)
        exact ⟨other, ⟨rfl, serves, goes⟩, _, settle_tasks_self outcome found, same⟩

theorem delivery?_eq_none {moment : Moment}
    (possible : moment.before.step? moment.step = some (moment.after, moment.effects))
    (idle : ∀ number task, moment.step.task? = some number →
      moment.before.tasks[number]? = some task → task.stage.bound? ≠ some place) :
    moment.delivery? place = none := by
  apply Option.eq_none_iff_forall_ne_some.mpr
  intro request delivered
  obtain ⟨number, task, serves, found, goes, _⟩ := (delivery?_eq_some_iff possible).mp delivered
  exact idle number task (congrArg Step.task? serves) found goes

/-! ### Requests that come one at a time -/

theorem mem_bound_iff : number ∈ container.bound place ↔
    ∃ task, container.tasks[number]? = some task ∧ task.stage.bound? = some place := by
  simp only [bound, List.mem_filter, List.mem_range, decide_eq_true_eq, Option.bind_eq_some_iff]
  constructor
  · intro going
    exact going.2
  · intro going
    obtain ⟨task, found, goes⟩ := going
    exact ⟨(List.getElem?_eq_some_iff.mp found).1, task, found, goes⟩

theorem Transition.starts_of_bound? (transition : container.Transition number task step outcome)
    (goes : outcome.stage.bound? = some place) : step = .start number := by
  have inside : outcome.stage.isInLine = true := by
    cases stage : outcome.stage with
    | serving => rfl
    | _ =>
        rw [stage] at goes
        cases goes
  cases transition with
  | lineUp | respond | forward => cases goes
  | queue | serve | lose => rfl
  | run answers byHand idle =>
      dsimp only at goes
      rcases idle with created | entered
      · rw [created] at goes
        cases goes
      · rw [entered] at goes
        cases goes
  | enter =>
      simp only [Task.enter, Task.reach] at goes
      split at goes <;> cases goes
  | giveUp =>
      rw [task.giveUp_isInLine number] at inside
      cases inside
  | exit conduct fault =>
      rw [show _ = false from task.exit_isInLine number fault] at inside
      cases inside
  | cancel =>
      rw [task.cancel_isInLine number] at inside
      cases inside

/-- The last request that has set out and the last one that the branch has got are the same, unless
one is still on its way. -/
inductive Level (container : Container) (place : Nat) (out got : Option Request) : Prop
  | arrived (clear : ∀ number, number ∉ container.bound place) (same : out = got)
  | underway {number : Nat} {task : Task} (found : container.tasks[number]? = some task)
      (goes : task.stage.bound? = some place) (lone : ∀ other ∈ container.bound place, other = number)
      (last : out = some task.request)

section

variable {out got : Option Request}

theorem Level.congr (level : before.Level place out got)
    (same : ∀ (number : Nat) (task : Task), task.stage.bound? = some place →
      (after.tasks[number]? = some task ↔ before.tasks[number]? = some task)) :
    after.Level place out got := by
  have bound (number : Nat) : number ∈ after.bound place ↔ number ∈ before.bound place := by
    rw [mem_bound_iff, mem_bound_iff]
    exact exists_congr fun task => and_congr_left (same number task)
  cases level with
  | arrived clear agree => exact .arrived (fun number => mt (bound number).mp (clear number)) agree
  | underway found goes lone last =>
      exact .underway ((same _ _ goes).mpr found) goes
        (fun other member => lone other ((bound other).mp member)) last

theorem Level.of_taken (level : before.Level place out got)
    (found : before.tasks[number]? = some task) (goes : task.stage.bound? = some place)
    (rests : outcome.stage.bound? ≠ some place) :
    (before.settle number task outcome).Level place out (some task.request) := by
  cases level with
  | arrived clear => exact absurd (mem_bound_iff.mpr ⟨task, found, goes⟩) (clear number)
  | underway present _ lone last =>
      obtain rfl := lone number (mem_bound_iff.mpr ⟨task, found, goes⟩)
      obtain rfl := Option.some.inj (found.symm.trans present)
      refine .arrived ?_ last
      intro other member
      obtain ⟨later, still, going⟩ := mem_bound_iff.mp member
      rcases (settle_tasks_iff found).mp still with ⟨_, same⟩ | ⟨different, earlier⟩
      · subst same
        exact rests going
      · exact different (lone other (mem_bound_iff.mpr ⟨later, earlier, going⟩))

theorem Level.of_idle (level : before.Level place out got)
    (found : before.tasks[number]? = some task) (idle : task.stage.bound? ≠ some place)
    (still : outcome.stage.bound? ≠ some place) :
    (before.settle number task outcome).Level place out got := by
  apply level.congr
  intro other later goes
  rw [settle_tasks_iff found]
  constructor
  · intro present
    rcases present with ⟨_, same⟩ | ⟨_, earlier⟩
    · subst same
      exact absurd goes still
    · exact earlier
  · intro earlier
    refine Or.inr ⟨?_, earlier⟩
    intro same
    subst same
    obtain rfl := Option.some.inj (found.symm.trans earlier)
    exact idle goes

theorem Happening.bound_unchanged (happening : before.Happening step after effects)
    (taskless : step.task? = none) (number : Nat) (task : Task)
    (goes : task.stage.bound? = some place) :
    after.tasks[number]? = some task ↔ before.tasks[number]? = some task := by
  have others : step.task? ≠ some number := by
    rw [taskless]
    exact nofun
  constructor
  · intro present
    rcases happening.task_origin present with ⟨earlier, found, _⟩ | ⟨_, _, _, _, _, _, _, made⟩
    · obtain rfl := Option.some.inj ((happening.task_unchanged others found).symm.trans present)
      exact found
    · rw [made] at goes
      cases goes
  · exact happening.task_unchanged others

theorem departure?_of_outcome? {moment : Moment} (about : moment.step.task? = some number)
    (able : moment.before.outcome? number task moment.step = some outcome)
    (found : moment.before.tasks[number]? = some task)
    (settled : moment.after = moment.before.settle number task outcome) :
    moment.departure? place =
      if outcome.stage.bound? = some place then some task.request else none := by
  by_cases starts : moment.step = .start number
  · exact departure?_of_start starts found settled
  · have resting : ∀ other, moment.step ≠ .start other := by
      intro other same
      obtain rfl : other = number := Option.some.inj (by rw [← about, same]; rfl)
      exact starts same
    rw [departure?_of_other resting, if_neg]
    exact fun goes => starts ((transition_of_outcome? about able).starts_of_bound? goes)

theorem Level.of_moment (moment : Moment) (level : moment.before.Level place out got)
    (possible : moment.before.step? moment.step = some (moment.after, moment.effects))
    (smooth : moment.Smooth place) :
    moment.after.Level place ((moment.departure? place).or out)
      ((moment.delivery? place).or got) := by
  cases about : moment.step.task? with
  | none =>
      have resting : ∀ number, moment.step ≠ .start number := by
        intro number starts
        rw [starts] at about
        cases about
      have undelivered : moment.delivery? place = none := by
        apply delivery?_eq_none possible
        intro number task taken
        cases about.symm.trans taken
      rw [departure?_of_other resting, undelivered]
      exact level.congr ((happening_of_step? possible).bound_unchanged about)
  | some number =>
      obtain ⟨task, outcome, found, able, settled, _⟩ := outcome?_of_moment possible about
      rw [departure?_of_outcome? about able found settled, settled]
      by_cases goes : task.stage.bound? = some place
      · have succeeds := smooth.taken number (mem_bound_iff.mpr ⟨task, found, goes⟩) about
        have serves := Step.eq_serve_of_succeeds about succeeds
        have rests : outcome.stage.bound? ≠ some place := by
          intro again
          cases serves.symm.trans ((transition_of_outcome? about able).starts_of_bound? again)
        rw [if_neg rests,
          (delivery?_eq_some_iff possible).mpr ⟨number, task, serves, found, goes, rfl⟩]
        exact level.of_taken found goes rests
      · have undelivered : moment.delivery? place = none := by
          apply delivery?_eq_none possible
          intro other again taken present
          obtain rfl := Option.some.inj (about.symm.trans taken)
          obtain rfl := Option.some.inj (found.symm.trans present)
          exact goes
        rw [undelivered]
        by_cases leaves : outcome.stage.bound? = some place
        · rw [if_pos leaves]
          have present := settle_tasks_self outcome found
          have member : number ∈ (moment.before.settle number task outcome).bound place :=
            mem_bound_iff.mpr ⟨_, present, leaves⟩
          refine .underway present leaves ?_ rfl
          rw [← settled] at member ⊢
          exact smooth.alone number member
        · rw [if_neg leaves]
          exact level.of_idle found goes leaves

end

theorem Interlude.bound_unchanged (others : Interlude before after) (number : Nat) (task : Task)
    (goes : task.stage.bound? = some place) :
    after.tasks[number]? = some task ↔ before.tasks[number]? = some task := by
  constructor
  · intro present
    obtain ⟨made, tasks, handmade⟩ := others.tasks
    rw [tasks] at present
    rcases Nat.lt_or_ge number before.tasks.length with early | late
    · rwa [List.getElem?_append_left early] at present
    · rw [List.getElem?_append_right late] at present
      rw [(handmade task (List.mem_of_getElem? present)).created] at goes
      cases goes
  · exact others.task_kept

end Container

theorem last_filterMap_cons {α β : Type} (note : α → Option β) (item : α) (rest : List α)
    (last : Option β) : ((item :: rest).filterMap note).getLast?.or last =
      (rest.filterMap note).getLast?.or ((note item).or last) := by
  rw [List.filterMap_cons]
  cases note item with
  | none => rfl
  | some value =>
      rw [List.getLast?_cons]
      cases (rest.filterMap note).getLast? <;> rfl

/-- Whatever has set out has arrived in the end, or is the one that is on its way. -/
theorem Run.level {place : Nat} {start finish : Container} {history : List Moment}
    {out got : Option Request} (run : Run Container.Interlude start history finish)
    (smooth : ∀ moment ∈ history, moment.Smooth place) (level : start.Level place out got) :
    finish.Level place ((departures place history).getLast?.or out)
      ((deliveries place history).getLast?.or got) := by
  induction run generalizing out got with
  | rest => exact level
  | @step before next finish step effects later possible _ ih =>
      have onward := level.of_moment { before, step, effects, after := next } possible
        (smooth _ List.mem_cons_self)
      rw [departures, deliveries, last_filterMap_cons, last_filterMap_cons]
      exact ih (fun moment taken => smooth moment (List.mem_cons_of_mem _ taken)) onward
  | pause others _ ih => exact ih smooth (level.congr others.bound_unchanged)

end SipContainer

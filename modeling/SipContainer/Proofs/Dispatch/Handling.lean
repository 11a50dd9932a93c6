import SipContainer.Proofs.Dispatch.Run
/-!
What is done for a task of a call. It is served once, in the last turn it has, or lost where nobody
is there to take it. If the application or a branch fails the fault is answered once, and otherwise
nothing is.

What has been done is told by the stage that the task has come to. Each of its steps keeps the tale
true, whatever other tasks do in between.
-/

namespace SipContainer

namespace Effect

def isRelayed : Effect → Bool
  | relayed _ => true
  | _ => false

def isServed : Effect → Bool
  | served _ => true
  | _ => false

def isResponded : Effect → Bool
  | responded _ _ => true
  | _ => false

def isWork (effect : Effect) : Bool :=
  effect.task?.isSome

end Effect

def shown (kind : Effect → Bool) (moments : List Moment) : List Effect :=
  (moments.flatMap Moment.effects).filter kind

def Step.Fails : Step → Prop
  | serve _ conduct | forward _ conduct => conduct ≠ .success
  | _ => False

/-- Nobody is there to take the request: the session is proxied, no branch has won yet, and the
request is not one that goes to all branches. -/
def Container.Strands (container : Container) (task : Task) : Prop :=
  ∃ number proxy, container.proxyOf? task.dialogSession = some (number, proxy) ∧
    proxy.final = none ∧ task.request.method ≠ .prack

/-- A task has been taken to its application. `answer` is the fault that has been answered. -/
structure Handled (number : Nat) (task : Task) (own : List Moment) (answer : Option DispatchError) :
    Prop where
  served : ∃ early moment late, own = early ++ moment :: late ∧ moment.step = .start number ∧
    (∀ other ∈ late, other.step ≠ .start number) ∧
    (moment.before.Strands task ∧ shown Effect.isServed own = [] ∨
      ¬ moment.before.Strands task ∧ shown Effect.isServed own = [.served number])
  responded : shown Effect.isResponded own = answer.toList.map (.responded number)
  failed : answer.isSome = true ↔ ∃ moment ∈ own, moment.step.Fails
  blamed : ∀ fault ∈ answer, ∃ message cause, fault = .applicationFailure message cause

theorem shown_append (kind : Effect → Bool) (early late : List Moment) :
    shown kind (early ++ late) = shown kind early ++ shown kind late := by
  simp [shown]

theorem shown_singleton (kind : Effect → Bool) (moment : Moment) :
    shown kind [moment] = moment.effects.filter kind := by
  simp [shown]

theorem shown_eq_nil_of_idle {own : List Moment} (idle : shown Effect.isWork own = [])
    {kind : Effect → Bool} (works : ∀ effect, kind effect = true → effect.isWork = true) :
    shown kind own = [] := by
  simp only [shown, List.filter_eq_nil_iff] at idle ⊢
  intro effect member fits
  exact idle effect member (works effect fits)

/-! ### Single steps of a task -/

namespace Container

variable {container : Container} {number : Nat} {task : Task} {outcome : Outcome}

theorem setOut_of_strands (strands : container.Strands task) :
    container.setOut number task = { task.exit number none with
      dialog := endSubscription task.request ∘ beginSubscription task.request } := by
  obtain ⟨proxyNumber, proxy, proxied, undecided, other⟩ := strands
  simp only [setOut, proxied, undecided, if_neg other]

theorem setOut_of_not_strands (number : Nat) (taken : ¬ container.Strands task) :
    ∃ plan proxies, container.setOut number task = { task.serve number plan with proxies } := by
  unfold setOut
  split
  · exact ⟨_, _, rfl⟩
  · rename_i proxyNumber proxy proxied
    split
    · exact ⟨_, _, rfl⟩
    · rename_i undecided
      split
      · exact ⟨_, _, rfl⟩
      · rename_i other
        exact absurd ⟨proxyNumber, proxy, proxied, undecided, other⟩ taken

theorem turn_cases (container : Container) (number : Nat) (task : Task) :
    (container.start number task).stage = .queued ∧ (container.start number task).effects = [] ∨
      (¬ container.Strands task ∧
        (∃ plan, (container.start number task).stage = .serving plan) ∧
        (container.start number task).effects = [.served number]) ∨
      container.Strands task ∧ (container.start number task).stage = .finished .completed ∧
        (container.start number task).effects = [] := by
  rcases container.start_cases number task with ⟨pool, same⟩ | ⟨pool, same⟩
  · rw [same]
    exact Or.inl ⟨rfl, rfl⟩
  · rw [same]
    by_cases strands : container.Strands task
    · rw [setOut_of_strands strands]
      exact Or.inr (Or.inr ⟨strands, rfl, rfl⟩)
    · obtain ⟨plan, proxies, sets⟩ := setOut_of_not_strands number strands
      rw [sets]
      exact Or.inr (Or.inl ⟨strands, ⟨plan, rfl⟩, rfl⟩)

theorem exit_of_fault (answers : task.course.answers = true) (fault : DispatchError) :
    (task.exit number (some fault)).stage = .responding fault ∧
      (task.exit number (some fault)).effects = [.responded number fault] := by
  simp [Task.exit, Task.fail, Task.reach, answers]

def GoesOn (number : Nat) (outcome : Outcome) : Prop :=
  (∃ leg, outcome.stage = .forwarding leg ∧ outcome.effects = [.forwarded number leg]) ∨
    outcome.stage = .finished .completed ∧ outcome.effects = []

theorem goesOn_fanOut (number : Nat) (task : Task) (proxies : List Proxy) (proxyNumber : Nat)
    (branches : List Nat) : GoesOn number (task.fanOut number proxies proxyNumber branches) := by
  rcases task.fanOut_cases number proxies proxyNumber branches with ⟨leg, same⟩ | same
  · rw [same]
    exact Or.inl ⟨leg, rfl, rfl⟩
  · rw [same]
    exact Or.inr ⟨rfl, rfl⟩

theorem goesOn_served (container : Container) (number : Nat) (task : Task) (plan : Plan) :
    GoesOn number (container.served number task plan .success) := by
  cases plan with
  | application => exact Or.inr ⟨rfl, rfl⟩
  | final proxy branch => exact Or.inl ⟨.final proxy branch, rfl, rfl⟩
  | fanOut proxy => exact goesOn_fanOut number task _ _ _

theorem goesOn_forwarded (container : Container) (number : Nat) (task : Task) (leg : Leg) :
    GoesOn number (container.forwarded number task leg .success) := by
  cases leg with
  | final proxy branch => exact Or.inr ⟨rfl, rfl⟩
  | fanOut proxy branch others => exact goesOn_fanOut number task _ _ _

theorem served_of_failure (container : Container) (number : Nat) (task : Task) (plan : Plan)
    {conduct : Conduct} (fails : conduct ≠ .success) :
    ∃ message cause, container.served number task plan conduct =
      task.exit number (some (.applicationFailure message cause)) := by
  cases conduct with
  | success => exact absurd rfl fails
  | failure cause => exact ⟨_, _, rfl⟩
  | panic message => exact ⟨_, _, rfl⟩

theorem forwarded_of_failure (container : Container) (number : Nat) (task : Task) (leg : Leg)
    {conduct : Conduct} (fails : conduct ≠ .success) :
    ∃ message cause, container.forwarded number task leg conduct =
      task.exit number (some (.applicationFailure message cause)) := by
  cases conduct with
  | success => exact absurd rfl fails
  | failure cause => cases leg <;> exact ⟨_, _, rfl⟩
  | panic message => cases leg <;> exact ⟨_, _, rfl⟩

theorem outcome?_of_handBack {conduct : Conduct} {step : Step}
    (returned : task.stage.handBack? number conduct = some step)
    (possible : container.outcome? number task step = some outcome) :
    (∃ plan, task.stage = .serving plan ∧ step = .serve number conduct ∧
        container.served number task plan conduct = outcome) ∨
      ∃ leg, task.stage = .forwarding leg ∧ step = .forward number conduct ∧
        container.forwarded number task leg conduct = outcome := by
  unfold Stage.handBack? at returned
  split at returned
  · rename_i plan serving
    obtain rfl := Option.some.inj returned
    simp only [outcome?, serving, Option.some.injEq] at possible
    exact Or.inl ⟨plan, serving, rfl, possible⟩
  · rename_i leg forwarding
    obtain rfl := Option.some.inj returned
    simp only [outcome?, forwarding, Option.some.injEq] at possible
    exact Or.inr ⟨leg, forwarding, rfl, possible⟩
  · cases returned

theorem handBack_cases {conduct : Conduct} {step : Step} (answers : task.course.answers = true)
    (returned : task.stage.handBack? number conduct = some step)
    (possible : container.outcome? number task step = some outcome) :
    conduct = .success ∧ GoesOn number outcome ∨
      conduct ≠ .success ∧ ∃ message cause,
        outcome.stage = .responding (.applicationFailure message cause) ∧
          outcome.effects = [.responded number (.applicationFailure message cause)] := by
  rcases outcome?_of_handBack returned possible with ⟨plan, _, _, rfl⟩ | ⟨leg, _, _, rfl⟩
  · by_cases fails : conduct = .success
    · subst fails
      exact Or.inl ⟨rfl, container.goesOn_served number task plan⟩
    · obtain ⟨message, cause, same⟩ := container.served_of_failure number task plan fails
      rw [same]
      exact Or.inr ⟨fails, message, cause, exit_of_fault answers _⟩
  · by_cases fails : conduct = .success
    · subst fails
      exact Or.inl ⟨rfl, container.goesOn_forwarded number task leg⟩
    · obtain ⟨message, cause, same⟩ := container.forwarded_of_failure number task leg fails
      rw [same]
      exact Or.inr ⟨fails, message, cause, exit_of_fault answers _⟩

end Container

/-! ### The account of a task -/

def Stage.isUnserved : Stage → Bool
  | waiting => true
  | stage => stage.isAhead

theorem Stage.isUnserved_of_isAhead {stage : Stage} (ahead : stage.isAhead = true) :
    stage.isUnserved = true := by
  cases stage <;> first | rfl | cases ahead

inductive Tally (number : Nat) (task : Task) (own : List Moment) : Stage → Prop
  | early {stage : Stage} (unserved : stage.isUnserved = true)
      (idle : shown Effect.isWork own = []) (well : ∀ moment ∈ own, ¬ moment.step.Fails) :
      Tally number task own stage
  | timedOut (session : String) (timeout : Duration) (idle : shown Effect.isWork own = []) :
      Tally number task own (.finished (.timedOut (.gateTimeout session timeout)))
  | serving {plan : Plan} (handled : Handled number task own none) :
      Tally number task own (.serving plan)
  | forwarding {leg : Leg} (handled : Handled number task own none) :
      Tally number task own (.forwarding leg)
  | responding {fault : DispatchError} (handled : Handled number task own (some fault)) :
      Tally number task own (.responding fault)
  | ended {ending : Ending} {answer : Option DispatchError}
      (ran : ending = .completed ∨ ∃ message, ending = .panicked message)
      (handled : Handled number task own answer) : Tally number task own (.finished ending)
  | abandoned {ending : Ending} (outside : ending = .withdrawn ∨ ending = .cancelled) :
      Tally number task own (.finished ending)

namespace Tally

variable {number : Nat} {task : Task} {own : List Moment} {stage : Stage}

theorem idle_of_early (tally : Tally number task own stage) (unserved : stage.isUnserved = true) :
    shown Effect.isWork own = [] ∧ ∀ moment ∈ own, ¬ moment.step.Fails := by
  cases tally with
  | early _ idle well => exact ⟨idle, well⟩
  | timedOut | serving | forwarding | responding | ended | abandoned => cases unserved

theorem handled_of_handBack {conduct : Conduct} {step : Step} (tally : Tally number task own stage)
    (returned : stage.handBack? number conduct = some step) : Handled number task own none := by
  cases tally with
  | serving handled => exact handled
  | forwarding handled => exact handled
  | early unserved => cases stage <;> cases unserved <;> cases returned
  | timedOut | responding | ended | abandoned => cases returned

theorem handled_of_responding {fault : DispatchError}
    (tally : Tally number task own (.responding fault)) :
    Handled number task own (some fault) := by
  cases tally with
  | early unserved => cases unserved
  | responding handled => exact handled

theorem idle_of_timedOut {fault : DispatchError}
    (tally : Tally number task own (.finished (.timedOut fault))) :
    shown Effect.isWork own = [] ∧ ∃ session timeout, fault = .gateTimeout session timeout := by
  cases tally with
  | early unserved => cases unserved
  | timedOut session timeout idle => exact ⟨idle, session, timeout, rfl⟩
  | ended ran =>
      rcases ran with completed | ⟨message, broken⟩
      · cases completed
      · cases broken
  | abandoned outside =>
      rcases outside with withdrawn | cancelled
      · cases withdrawn
      · cases cancelled

theorem handled_of_finished {ending : Ending} (tally : Tally number task own (.finished ending))
    (untimed : ∀ fault, ending ≠ .timedOut fault) (unbidden : ending ≠ .withdrawn)
    (carried : ending ≠ .cancelled) : ∃ answer, Handled number task own answer := by
  cases tally with
  | early unserved => cases unserved
  | timedOut => exact absurd rfl (untimed _)
  | ended ran handled => exact ⟨_, handled⟩
  | abandoned outside => exact absurd outside (not_or.mpr ⟨unbidden, carried⟩)

end Tally

namespace Handled

variable {number : Nat} {task : Task} {own : List Moment} {moment : Moment} {outcome : Outcome}

/-- After the turn with which it set out, a task has no more turns and is served no more. -/
theorem append {before after : Option DispatchError} (handled : Handled number task own before)
    (turned : moment.step ≠ .start number) (unserved : moment.effects.filter Effect.isServed = [])
    (responded : before.toList.map (.responded number) ++ moment.effects.filter Effect.isResponded =
      after.toList.map (.responded number))
    (failed : after.isSome = true ↔ before.isSome = true ∨ moment.step.Fails)
    (blamed : ∀ fault ∈ after, ∃ message cause, fault = .applicationFailure message cause) :
    Handled number (task.after outcome) (own ++ [moment]) after where
  served := by
    obtain ⟨early, turn, late, parts, starts, last, served⟩ := handled.served
    refine ⟨early, turn, late ++ [moment], ?_, starts, ?_, ?_⟩
    · rw [parts, List.append_assoc]
      rfl
    · intro other member
      rcases List.mem_append.mp member with old | new
      · exact last other old
      · rw [List.mem_singleton.mp new]
        exact turned
    · rw [shown_append, shown_singleton, unserved, List.append_nil]
      exact served
  responded := by
    rw [shown_append, shown_singleton, handled.responded, responded]
  failed := by
    rw [failed, handled.failed]
    simp [or_and_right, exists_or]
  blamed := blamed

theorem of_turn (idle : shown Effect.isWork own = []) (well : ∀ moment ∈ own, ¬ moment.step.Fails)
    (starts : moment.step = .start number)
    (turn : ¬ moment.before.Strands task ∧ moment.effects = [.served number] ∨
      moment.before.Strands task ∧ moment.effects = []) :
    Handled number (task.after outcome) (own ++ [moment]) none where
  served := by
    have none : shown Effect.isServed own = [] := by
      apply shown_eq_nil_of_idle idle
      intro effect served
      cases effect <;> first | rfl | cases served
    have last : ∀ other ∈ ([] : List Moment), other.step ≠ .start number := by
      intro other member
      cases member
    refine ⟨own, moment, [], rfl, starts, last, ?_⟩
    rw [shown_append, shown_singleton, none, List.nil_append]
    rcases turn with ⟨taken, shows⟩ | ⟨strands, shows⟩
    · rw [shows]
      exact Or.inr ⟨taken, rfl⟩
    · rw [shows]
      exact Or.inl ⟨strands, rfl⟩
  responded := by
    have none : shown Effect.isResponded own = [] := by
      apply shown_eq_nil_of_idle idle
      intro effect responded
      cases effect <;> first | rfl | cases responded
    rw [shown_append, shown_singleton, none, List.nil_append]
    rcases turn with ⟨_, shows⟩ | ⟨_, shows⟩
    · rw [shows]
      rfl
    · rw [shows]
      rfl
  failed := by
    constructor
    · nofun
    · rintro ⟨other, member, fails⟩
      rcases List.mem_append.mp member with old | new
      · exact absurd fails (well other old)
      · rw [List.mem_singleton.mp new, starts] at fails
        cases fails
  blamed := by
    intro fault none
    cases none

end Handled

namespace Container

variable {container : Container} {number : Nat} {task : Task} {own : List Moment} {step : Step}
  {outcome : Outcome} {moment : Moment} {execution : Execution}

theorem idle_append (idle : shown Effect.isWork own = []) (silent : moment.effects = []) :
    shown Effect.isWork (own ++ [moment]) = [] := by
  rw [shown_append, shown_singleton, idle, silent]
  rfl

theorem well_append (well : ∀ other ∈ own, ¬ other.step.Fails) (succeeds : ¬ moment.step.Fails) :
    ∀ other ∈ own ++ [moment], ¬ other.step.Fails := by
  intro other member
  rcases List.mem_append.mp member with old | new
  · exact well other old
  · rw [List.mem_singleton.mp new]
    exact succeeds

theorem start_of_outcome?
    (possible : container.outcome? number task (.start number) = some outcome) :
    container.start number task = outcome := by
  simp only [outcome?] at possible
  split at possible
  · cases possible
  · exact Option.some.inj possible
  · exact Option.some.inj possible
  · split at possible
    · exact Option.some.inj possible
    · cases possible
  · cases possible

theorem turned_of_handBack {conduct : Conduct}
    (returned : task.stage.handBack? number conduct = some step) : step ≠ .start number := by
  unfold Stage.handBack? at returned
  split at returned <;> cases returned <;> exact nofun

theorem fails_iff_of_handBack {conduct : Conduct}
    (returned : task.stage.handBack? number conduct = some step) :
    step.Fails ↔ conduct ≠ .success := by
  unfold Stage.handBack? at returned
  split at returned <;> cases returned <;> exact Iff.rfl

theorem cancel_ending (number : Nat) (task : Task) :
    (task.cancel number).stage = .finished .withdrawn ∨
      (task.cancel number).stage = .finished .cancelled := by
  unfold Task.cancel
  split
  · exact Or.inl rfl
  · exact Or.inr rfl

theorem exit_ne_forwarding (fault : Option DispatchError) (leg : Leg) :
    (task.exit number fault).stage ≠ .forwarding leg := by
  rcases task.exit_stage number fault with completed | ⟨cause, answers | failed⟩
  · rw [completed]
    exact nofun
  · rw [answers]
    exact nofun
  · rw [failed]
    exact nofun

theorem tally_step (tally : Tally number task own task.stage)
    (dispatched : task.course = .dispatched execution)
    (possible : container.outcome? number task step = some outcome)
    (about : step.task? = some number) (next : Container) :
    Tally number (task.after outcome)
      (own ++ [{ before := container, step, effects := outcome.effects, after := next }])
      outcome.stage := by
  have answers : task.course.answers = true := by
    rw [dispatched]
    rfl
  cases transition_of_outcome? about possible with
  | lineUp created =>
      rw [created] at tally
      cases tally with
      | early unserved => cases unserved
  | enter waits admitted =>
      obtain ⟨idle, well⟩ := tally.idle_of_early (by rw [waits]; rfl)
      exact .early (Stage.isUnserved_of_isAhead task.enter_isAhead) (idle_append idle rfl)
        (well_append well id)
  | giveUp waits refused bounded =>
      obtain ⟨idle, well⟩ := tally.idle_of_early (by rw [waits]; rfl)
      have given : (task.giveUp number (container.gateTimeout task)).stage =
          .finished (.timedOut (container.gateTimeout task)) := by
        simp only [Task.giveUp, dispatched]
        rfl
      have silent : (task.giveUp number (container.gateTimeout task)).effects = [] := by
        simp only [Task.giveUp, dispatched]
        rfl
      rw [given]
      exact .timedOut _ _ (idle_append idle silent)
  | run answers byHand idle =>
      rw [dispatched] at byHand
      cases byHand
  | queue pool ahead =>
      obtain ⟨idle, well⟩ := tally.idle_of_early (Stage.isUnserved_of_isAhead ahead)
      exact .early rfl (idle_append idle rfl) (well_append well id)
  | serve plan proxies pool ahead =>
      obtain ⟨idle, well⟩ := tally.idle_of_early (Stage.isUnserved_of_isAhead ahead)
      have turn := container.turn_cases number task
      rw [start_of_outcome? possible] at turn
      rcases turn with ⟨queued, _⟩ | ⟨taken, _, shows⟩ | ⟨_, ended, _⟩
      · cases queued
      · exact .serving (.of_turn idle well rfl (Or.inl ⟨taken, shows⟩))
      · cases ended
  | lose pool ahead =>
      obtain ⟨idle, well⟩ := tally.idle_of_early (Stage.isUnserved_of_isAhead ahead)
      have turn := container.turn_cases number task
      rw [start_of_outcome? possible] at turn
      rcases turn with ⟨queued, _⟩ | ⟨_, ⟨plan, served⟩, _⟩ | ⟨strands, _, shows⟩
      · cases queued
      · cases served
      · exact .ended (Or.inl rfl) (.of_turn idle well rfl (Or.inr ⟨strands, shows⟩))
  | forward conduct leg proxies returned =>
      have handled := tally.handled_of_handBack returned
      rcases handBack_cases answers returned possible with ⟨success, _⟩ | ⟨_, _, _, failed, _⟩
      · exact .forwarding (handled.append (turned_of_handBack returned) rfl rfl
          (by simp [fails_iff_of_handBack returned, success]) handled.blamed)
      · cases failed
  | exit conduct fault proxies returned =>
      have handled := tally.handled_of_handBack returned
      rcases handBack_cases answers returned possible with
        ⟨success, ⟨leg, goes, _⟩ | ⟨ended, silent⟩⟩ | ⟨fails, message, cause, failed, shows⟩
      · exact absurd goes (exit_ne_forwarding fault leg)
      · rw [ended]
        exact .ended (Or.inl rfl) (show Handled number _ _ none from
          handled.append (turned_of_handBack returned) (by rw [silent]; rfl) (by rw [silent]; rfl)
            (by simp [fails_iff_of_handBack returned, success]) handled.blamed)
      · rw [failed]
        exact .responding (handled.append (turned_of_handBack returned)
          (by rw [shows]; rfl) (by rw [shows]; rfl)
          (by simp [fails_iff_of_handBack returned, fails])
          (fun fault same => ⟨message, cause, (Option.some.inj same).symm⟩))
  | respond fault conduct awaits =>
      rw [awaits] at tally
      have handled := tally.handled_of_responding
      have turned : Step.respond number conduct ≠ .start number := by
        intro same
        cases same
      exact .ended (endingOf_cases conduct) (handled.append turned rfl (List.append_nil _)
        (by simp [Step.Fails]) handled.blamed)
  | cancel unfinished =>
      rcases cancel_ending number task with same | same
      · rw [same]
        exact .abandoned (Or.inl rfl)
      · rw [same]
        exact .abandoned (Or.inr rfl)

end Container

end SipContainer

import SipContainer.Proofs.Dispatch.Turn
/-!
Requests of one session are handled one at a time, in the order in which they were dispatched. A
task has a window: it opens when the task comes in through its gate and closes when the task goes
out. Windows at one gate never overlap, a dialog changes only in the window of one of its tasks, and
a call that reports its request as handled reports it of a task whose window has been opened.
-/

namespace SipContainer

namespace Stage

def isPast : Stage → Bool
  | created | waiting | finished (.timedOut _) | finished .withdrawn => false
  | _ => true

theorem isPast_of_isInside {stage : Stage} (inside : stage.isInside = true) :
    stage.isPast = true := by
  cases stage <;> first | rfl | cases inside

end Stage

namespace Container

variable {container next : Container} {step : Step} {effects : List Effect}

def Guards (container : Container) (task : Task) : GateId → Prop
  | .dialog session =>
    container.mode? task.application = some .session ∧ task.dialogSession = session
  | .application session =>
    container.mode? task.application = some .applicationSession ∧
      task.applicationSession = session

theorem Gated.guards_iff {task : Task} (gated : container.Gated task) (gate : GateId) :
    task.gate = some gate ↔ container.Guards task gate := by
  obtain ⟨mode, located, passes⟩ := gated
  rw [passes]
  cases gate with
  | dialog session => cases mode <;> simp [Guards, located, ConcurrencyMode.gate?]
  | application session => cases mode <;> simp [Guards, located, ConcurrencyMode.gate?]

/-- What of a dialog session a task may change: the state of the dialog, its transactions and its
subscriptions. -/
def protocol? (container : Container) (session : Nat) :
    Option (DialogState × List TransactionId × List Subscription) :=
  (container.store.dialogs.get? session).map (fun session =>
    (session.dialog.state, session.dialog.transactions, session.dialog.subscriptions))

/-- A step falls into the window of a task. -/
structure Window (container : Container) (step : Step) (number : Nat) (task : Task) : Prop where
  about : step.task? = some number
  found : container.tasks[number]? = some task
  admitted : container.admits number task = true
  inside : task.stage.isInside = true ∨ step = .enter number

theorem protocol?_noteSequence (container : Container) (noted : Nat) (request : Request)
    (session : Nat) :
    (container.noteSequence noted request).protocol? session = container.protocol? session := by
  rcases container.noteSequence_eq noted request with same | same
  · rw [same]
  · rw [same]
    by_cases own : session = noted
    · subst own
      simp only [protocol?, modifyDialog, SessionStore.get?_modifyDialog_self, Option.map_map]
      rfl
    · simp only [protocol?, modifyDialog, SessionStore.get?_modifyDialog_of_ne _ _ own]

theorem Happening.window (happening : container.Happening step next effects)
    (sound : container.Sound) {session : Nat}
    (changed : next.protocol? session ≠ container.protocol? session) :
    ∃ number task, container.Window step number task ∧ task.dialogSession = session := by
  cases happening with
  | @task number task _ outcome found transition =>
      have about : session = task.dialogSession := by
        by_contra elsewhere
        apply changed
        simp only [protocol?, settle, SessionStore.get?_modifyDialog_of_ne _ _ elsewhere]
      have touched : outcome.dialog ≠ id := by
        intro untouched
        apply changed
        simp only [protocol?, settle, untouched, SessionStore.modifyDialog_id]
      refine ⟨number, task, ?_, about.symm⟩
      cases inside : task.stage.isInside with
      | true =>
          have admitted : container.admits number task = true :=
            admits_of_holder? (fun gate gated => sound.orderly.first found gated inside)
          exact ⟨transition.about, found, admitted, Or.inl inside⟩
      | false =>
          have enters : step = .enter number := by
            by_contra stays
            exact touched (transition.dialog_eq_id inside stays)
          subst enters
          cases transition with
          | enter waits admitted => exact ⟨rfl, found, admitted, Or.inr rfl⟩
          | forward _ _ _ returned | exit _ _ _ returned =>
              have crossed := Stage.isInside_of_handBack? returned
              rw [inside] at crossed
              cases crossed
  | accept request application resolution =>
      exact absurd (protocol?_noteSequence container resolution.dialogSession request session)
        changed
  | answer | relay | hold | release => exact absurd rfl changed

/-! ### Whoever is past the gate has come in -/

theorem Transition.isPast {number : Nat} {task : Task} {outcome : Outcome}
    (transition : container.Transition number task step outcome) {execution : Execution}
    (dispatched : task.course = .dispatched execution) (past : outcome.stage.isPast = true) :
    task.stage.isPast = true ∨
      (step = .enter number ∧ container.admits number task = true) := by
  cases transition with
  | lineUp => cases past
  | enter _ admitted => exact Or.inr ⟨rfl, admitted⟩
  | giveUp =>
      simp only [Task.giveUp, dispatched] at past
      cases past
  | run answers byHand =>
      rw [byHand] at dispatched
      cases dispatched
  | queue pool ahead | serve plan proxies pool ahead | lose pool ahead =>
      exact Or.inl (Stage.isPast_of_isInside (Stage.isInside_of_isAhead ahead))
  | forward conduct leg proxies returned | exit conduct fault proxies returned =>
      exact Or.inl (Stage.isPast_of_isInside (Stage.isInside_of_handBack? returned))
  | respond fault conduct answers => exact Or.inl (by rw [answers]; rfl)
  | cancel unfinished =>
      left
      cases stage : task.stage with
      | created | waiting =>
          simp only [Task.cancel, stage, true_or, or_true, if_true] at past
          cases past
      | finished ending =>
          rw [stage] at unfinished
          cases unfinished
      | _ => rfl

theorem Happening.isPast (happening : container.Happening step next effects) {number : Nat}
    {later : Task} {execution : Execution} (found : next.tasks[number]? = some later)
    (dispatched : later.course = .dispatched execution) (past : later.stage.isPast = true) :
    ∃ task, container.tasks[number]? = some task ∧ task.Becomes later ∧
      task.course = .dispatched execution ∧
      (task.stage.isPast = true ∨
        (step = .enter number ∧ container.admits number task = true)) := by
  rcases happening.task_origin found with ⟨task, present, becomes⟩ |
    ⟨request, application, resolution, asked, _, _, _, rfl⟩
  · have before := (happening.course_kept present found).mp dispatched
    refine ⟨task, present, becomes, before, ?_⟩
    rcases happening.task_cases present with ⟨outcome, _, transition, rfl, _⟩ | ⟨_, same⟩
    · rw [settle_tasks_self outcome present] at found
      obtain rfl := Option.some.inj found
      exact transition.isPast before past
    · obtain rfl := Option.some.inj (same.symm.trans found)
      exact Or.inl past
  · cases past

theorem exit_isPast (number : Nat) (task : Task) (fault : Option DispatchError) :
    (task.exit number fault).stage.isPast = true := by
  rcases task.exit_stage number fault with completed | ⟨cause, answers | failed⟩
  · rw [completed]; rfl
  · rw [answers]; rfl
  · rw [failed]; rfl

theorem Transition.isPast_kept {number : Nat} {task : Task} {outcome : Outcome}
    (transition : container.Transition number task step outcome)
    (past : task.stage.isPast = true) : outcome.stage.isPast = true := by
  cases transition with
  | lineUp created =>
      rw [created] at past
      cases past
  | enter => exact Stage.isPast_of_isInside task.enter_isInside
  | giveUp waits =>
      rw [waits] at past
      cases past
  | run => exact past
  | queue | serve | forward => rfl
  | lose => exact exit_isPast number task none
  | exit conduct fault => exact exit_isPast number task fault
  | respond fault conduct =>
      change (Stage.finished (endingOf conduct)).isPast = true
      rcases endingOf_cases conduct with completed | ⟨message, panicked⟩
      · rw [completed]; rfl
      · rw [panicked]; rfl
  | cancel =>
      have ahead : ¬ (task.stage = .created ∨ task.stage = .waiting) := by
        rintro (created | waits)
        · rw [created] at past
          cases past
        · rw [waits] at past
          cases past
      unfold Task.cancel
      rw [if_neg ahead]
      rfl

theorem Happening.isPast_kept (happening : container.Happening step next effects) {number : Nat}
    (past : ∃ task, container.tasks[number]? = some task ∧ task.stage.isPast = true) :
    ∃ task, next.tasks[number]? = some task ∧ task.stage.isPast = true := by
  obtain ⟨task, found, past⟩ := past
  rcases happening.task_cases found with ⟨outcome, _, transition, rfl, _⟩ | ⟨_, same⟩
  · exact ⟨_, settle_tasks_self outcome found, transition.isPast_kept past⟩
  · exact ⟨task, same, past⟩

theorem Happening.isPast_of_window (happening : container.Happening step next effects)
    {number : Nat} {task : Task} (window : container.Window step number task) :
    ∃ later, next.tasks[number]? = some later ∧ later.stage.isPast = true := by
  rcases window.inside with inside | rfl
  · exact happening.isPast_kept ⟨task, window.found, Stage.isPast_of_isInside inside⟩
  · rcases happening.task_cases window.found with ⟨outcome, _, transition, rfl, _⟩ | ⟨others, _⟩
    · obtain ⟨_, _, rfl⟩ := transition.of_enter
      exact ⟨_, settle_tasks_self _ window.found, Stage.isPast_of_isInside task.enter_isInside⟩
    · exact absurd rfl others

theorem result?_of_underway {call : Call} {number : Nat} {result : CallResult}
    (progress : call.progress = .underway number) (answered : container.result? call = some result) :
    result = .direct number ∨ result = .pooled number ∨ (∃ fault, result = .refused fault) ∨
      ∃ message, result = .panicked message := by
  unfold result? at answered
  rw [progress] at answered
  simp only at answered
  split at answered
  · cases answered
  · split at answered
    · exact Or.inr (Or.inr (Or.inl ⟨_, (Option.some.inj answered).symm⟩))
    · cases answered
    · cases answered
    · exact Or.inr (Or.inl (Option.some.inj answered).symm)
    · exact Or.inr (Or.inr (Or.inr ⟨_, (Option.some.inj answered).symm⟩))
    · exact Or.inl (Option.some.inj answered).symm
    · cases answered

theorem task?_of_handled {call : Call} {number : Nat}
    (handled : container.result? call = some (.direct number) ∨
      container.result? call = some (.pooled number)) : call.progress.task? = some number := by
  cases progress : call.progress with
  | relaying =>
      simp only [result?, progress] at handled
      rcases handled with direct | pooled
      · cases direct
      · cases pooled
  | answered result =>
      simp only [result?, progress, Option.some.injEq] at handled
      rcases handled with rfl | rfl <;> rfl
  | underway other =>
      rcases handled with direct | pooled
      · have cases' := result?_of_underway progress direct
        simp at cases'
        rw [cases']
        rfl
      · have cases' := result?_of_underway progress pooled
        simp at cases'
        rw [cases']
        rfl

theorem Sound.isPast_of_handled (sound : container.Sound) {call : Call}
    (present : call ∈ container.calls) {number : Nat}
    (handled : container.result? call = some (.direct number) ∨
      container.result? call = some (.pooled number)) :
    ∃ task execution, container.tasks[number]? = some task ∧ task.request = call.request ∧
      task.course = .dispatched execution ∧ task.stage.isPast = true := by
  obtain ⟨underway, task, execution, found, dispatched, same⟩ :=
    sound.calls present (task?_of_handled handled)
  refine ⟨task, execution, found, same, dispatched, ?_⟩
  have lined := sound.lined found dispatched
  simp only [result?, underway, found, dispatched] at handled
  cases stage : task.stage with
  | created => exact absurd stage lined
  | waiting =>
      rw [stage] at handled
      cases execution <;> simp at handled
  | finished ending =>
      rw [stage] at handled
      cases ending with
      | timedOut | withdrawn => simp at handled
      | _ => rfl
  | _ => rfl

end Container

namespace Run

variable {start finish : Container} {history : List Moment}

theorem entered_of_isPast (run : Run Container.Interlude start history finish)
    {number : Nat} {later : Task} {execution : Execution}
    (found : finish.tasks[number]? = some later) (dispatched : later.course = .dispatched execution)
    (past : later.stage.isPast = true) :
    (∃ task, start.tasks[number]? = some task ∧ task.Becomes later ∧
        task.course = .dispatched execution ∧ task.stage.isPast = true) ∨
      ∃ moment ∈ history, ∃ task, moment.before.tasks[number]? = some task ∧ task.Becomes later ∧
        moment.step = .enter number ∧ moment.before.admits number task = true := by
  induction run with
  | rest => exact Or.inl ⟨later, found, .refl later, dispatched, past⟩
  | step possible _ ih =>
      rcases ih found with ⟨next, foundNext, becomes, dispatchedNext, pastNext⟩ |
        ⟨moment, taken, entered⟩
      · obtain ⟨task, present, early, before, was | ⟨enters, admitted⟩⟩ :=
          (Container.happening_of_step? possible).isPast foundNext dispatchedNext pastNext
        · exact Or.inl ⟨task, present, early.trans becomes, before, was⟩
        · exact Or.inr ⟨_, List.mem_cons_self, task, present, early.trans becomes, enters, admitted⟩
      · exact Or.inr ⟨moment, List.mem_cons_of_mem _ taken, entered⟩
  | pause others _ ih =>
      rcases ih found with ⟨next, foundNext, becomes, dispatchedNext, pastNext⟩ | entered
      · obtain ⟨made, tasks, handmade⟩ := others.tasks
        rw [tasks] at foundNext
        rcases Nat.lt_or_ge number _ with early | late
        · rw [List.getElem?_append_left early] at foundNext
          exact Or.inl ⟨next, foundNext, becomes, dispatchedNext, pastNext⟩
        · rw [List.getElem?_append_right late] at foundNext
          rw [(handmade next (List.mem_of_getElem? foundNext)).byHand] at dispatchedNext
          cases dispatchedNext
      · exact Or.inr entered

theorem isPast_of_window (run : Run Container.Interlude start history finish) {moment : Moment}
    (taken : moment ∈ history) {number : Nat} {task : Task}
    (window : moment.before.Window moment.step number task) :
    ∃ later, finish.tasks[number]? = some later ∧ later.stage.isPast = true := by
  induction run with
  | rest => cases taken
  | step possible rest ih =>
      rcases List.mem_cons.mp taken with rfl | taken
      · have past := (Container.happening_of_step? possible).isPast_of_window window
        exact rest.preserves
          (fun container => ∃ later, container.tasks[number]? = some later ∧
            later.stage.isPast = true)
          (fun possible => (Container.happening_of_step? possible).isPast_kept)
          (fun others ⟨later, found, past⟩ => ⟨later, others.task_kept found, past⟩) past
      · exact ih taken
  | pause _ _ ih => exact ih taken

end Run

/-- What is seen of the sessions in a run: their tasks keep apart and in order. -/
structure Serialized (history : List Moment) (finish : Container) : Prop where
  guarded : ∀ container ∈ Run.seen history finish, ∀ task ∈ container.tasks, ∀ gate,
    task.gate = some gate ↔ container.Guards task gate
  alone : ∀ container ∈ Run.seen history finish, ∀ (gate : GateId) (first second : Nat)
    (left right : Task), container.tasks[first]? = some left → container.Guards left gate →
    left.stage.isInside = true → container.tasks[second]? = some right →
    container.Guards right gate → right.stage.isInside = true → first = second
  ordered : ∀ gate, InTurn [] (passages gate history) ∧
    (served gate history).Sublist ((passages gate history).filterMap Passage.entered?)
  owned : ∀ moment ∈ history, ∀ session,
    moment.after.protocol? session ≠ moment.before.protocol? session →
    ∃ number task, moment.before.Window moment.step number task ∧ task.dialogSession = session
  reported : ∀ call ∈ finish.calls, ∀ number,
    finish.result? call = some (.direct number) ∨ finish.result? call = some (.pooled number) →
    ∃ moment ∈ history, ∃ task, moment.before.tasks[number]? = some task ∧
      task.request = call.request ∧ moment.step = .enter number ∧
      moment.before.admits number task = true

/-- Whatever the order of its steps, a run that starts at rest keeps the requests of every session
apart and in order. -/
theorem Run.serialized {start finish : Container} {history : List Moment}
    (run : Run Container.Interlude start history finish) (rest : start.AtRest) :
    Serialized history finish where
  guarded := by
    intro container member task present gate
    obtain ⟨number, found⟩ := List.mem_iff_getElem?.mp present
    exact ((run.sound_of_seen rest.sound member).gated found).guards_iff gate
  alone := by
    intro container member gate first second left right foundLeft guardsLeft insideLeft foundRight
      guardsRight insideRight
    have sound := run.sound_of_seen rest.sound member
    exact sound.orderly.inside_unique foundLeft foundRight
      (((sound.gated foundLeft).guards_iff gate).mpr guardsLeft)
      (((sound.gated foundRight).guards_iff gate).mpr guardsRight) insideLeft insideRight
  ordered := by
    intro gate
    have nobody : start.waiting gate = [] := by
      unfold Container.waiting
      rw [rest.gates]
      rfl
    have turn := run.inTurn rest.sound gate
    rw [nobody] at turn
    refine ⟨turn, run.served_sublist rest.sound ?_⟩
    rintro number ⟨task, found, _⟩
    rw [rest.tasks] at found
    cases found
  owned := by
    intro moment taken session changed
    obtain ⟨sound, happening⟩ := run.sound_at rest.sound moment taken
    exact happening.window sound changed
  reported := by
    intro call present number handled
    obtain ⟨later, execution, found, same, dispatched, past⟩ :=
      (run.sound rest.sound).isPast_of_handled present handled
    rcases run.entered_of_isPast found dispatched past with
      ⟨task, early, _⟩ | ⟨moment, taken, task, before, becomes, entered⟩
    · rw [rest.tasks] at early
      cases early
    · refine ⟨moment, taken, task, before, ?_, entered⟩
      rw [← same, becomes]

/-- Three calls for one session: the application breaks down over the first request, the second
waits in vain, and the third is handled. -/
def Sample.threeCalls : List Step :=
  [.call (request .info 1), .call (request .info 2), .call (request .info 3), .enter 0, .giveUp 1,
    .start 0, .serve 0 (.panic none), .respond 0 .success, .enter 2, .start 2, .serve 2 .success]

theorem Run.serialized_threeCalls :
    let (history, finish) := (Sample.container .session).follow Sample.threeCalls
    (Sample.container .session).AtRest ∧
      Run Container.Interlude (Sample.container .session) history finish ∧
      served (.dialog 0) history = [0, 2] ∧ Serialized history finish := by
  have rest : (Sample.container .session).AtRest := ⟨rfl, rfl, rfl⟩
  have run := Run.follow Container.Interlude (Sample.container .session) Sample.threeCalls
  exact ⟨rest, run, rfl, Run.serialized run rest⟩

end SipContainer

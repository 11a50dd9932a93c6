import SipContainer.Proofs.Dispatch.Transition
/-!
Runs of a container. Between two steps others may do with the registry, the sessions and the
proxies whatever they like, and they may make tasks by hand; calls, gates and tasks under way change
by steps alone. A run keeps a record of its steps.
-/

namespace SipContainer

def Effect.task? : Effect → Option Nat
  | .served number | .forwarded number _ | .responded number _ => some number
  | .asked _ _ _ | .relayed _ => none

def CallProgress.task? : CallProgress → Option Nat
  | .underway number | .answered (.direct number) | .answered (.pooled number) => some number
  | _ => none

/-- A later state of a task. Only its course and its stage ever change. -/
def Task.Becomes (task later : Task) : Prop :=
  later = { task with course := later.course, stage := later.stage }

namespace Task.Becomes

theorem refl (task : Task) : task.Becomes task := rfl

theorem trans {first second third : Task} (early : first.Becomes second)
    (late : second.Becomes third) : first.Becomes third := by
  unfold Becomes at *
  rw [late, early]

end Task.Becomes

namespace Container

def mode? (container : Container) (application : Nat) : Option ConcurrencyMode :=
  (container.registry.get? application).map Application.mode

def Gated (container : Container) (task : Task) : Prop :=
  ∃ mode, container.mode? task.application = some mode ∧
    task.gate = mode.gate? task.applicationSession task.dialogSession

structure Handmade (container : Container) (task : Task) : Prop where
  byHand : task.course = .byHand
  created : task.stage = .created
  gated : container.Gated task

/-- What others may do to a container between two steps. -/
structure Interlude (before after : Container) : Prop where
  settings : after.settings = before.settings
  gates : after.gates = before.gates
  calls : after.calls = before.calls
  tasks : ∃ made, after.tasks = before.tasks ++ made ∧ ∀ task ∈ made, after.Handmade task
  modes : ∀ {application mode}, before.mode? application = some mode →
    after.mode? application = some mode

inductive Happening (container : Container) : Step → Container → List Effect → Prop
  | task {number : Nat} {task : Task} {step : Step} {outcome : Outcome}
      (found : container.tasks[number]? = some task)
      (transition : container.Transition number task step outcome) :
      Happening container step (container.settle number task outcome) outcome.effects
  | accept (request : Request) (application : Nat) (resolution : Resolution)
      (asked : List Effect)
      (received : container.receive request = (.accept application resolution, asked)) :
      Happening container (.call request) (container.accept request application resolution) asked
  | answer (request : Request) (progress : CallProgress) (effects : List Effect)
      (declined : ∀ application resolution,
        (container.receive request).1 ≠ .accept application resolution)
      (free : progress.task? = none) (quiet : ∀ effect ∈ effects, effect.task? = none) :
      Happening container (.call request) (container.addCall request progress) effects
  | relay (number : Nat) (conduct : SendConduct) (request : Request)
      (found : container.calls[number]? = some { request, progress := .relaying }) :
      Happening container (.relay number conduct)
        (container.setProgress number (.answered (relayResult request conduct))) []
  | hold (outsider : Nat) (gate : GateId) :
      Happening container (.hold outsider gate)
        (container.modifyGate gate (·.enter (.outsider outsider))) []
  | release (outsider : Nat) (gate : GateId) :
      Happening container (.release outsider gate)
        (container.modifyGate gate (·.leave (.outsider outsider))) []

private theorem askedEffects_quiet (application : Nat) (identity : RouteIdentity)
    (kinds : List Correlation) :
    ∀ effect ∈ askedEffects application identity kinds, effect.task? = none := by
  intro effect seen
  obtain ⟨kind, _, rfl⟩ := List.mem_map.mp seen
  rfl

private theorem receiveFor_quiet (container : Container) (identity : RouteIdentity)
    (request : Request) :
    ∀ effect ∈ (container.receiveFor identity request).2, effect.task? = none := by
  unfold receiveFor
  split
  · intro effect seen
    cases seen
  · split
    · intro effect seen
      cases seen
    · exact askedEffects_quiet _ _ _

theorem receive_quiet (container : Container) (request : Request) :
    ∀ effect ∈ (container.receive request).2, effect.task? = none := by
  unfold receive
  generalize RouteDecision.decide container.registry.names container.settings.listeners request =
    decision
  match decision with
  | .error fault | .ok .relay | .ok .drop =>
      intro effect seen
      cases seen
  | .ok (.resolved identity) => exact container.receiveFor_quiet identity request

theorem happening_of_call (container : Container) (request : Request) :
    container.Happening (.call request) (container.call request).1 (container.call request).2 := by
  have quiet := container.receive_quiet request
  unfold call
  cases received : container.receive request with
  | mk reception asked =>
      rw [received] at quiet
      have declined (refused : ∀ application resolution,
          reception ≠ .accept application resolution) (application : Nat)
          (resolution : Resolution) :
          (container.receive request).1 ≠ .accept application resolution := by
        rw [received]
        exact refused application resolution
      cases reception with
      | relay =>
          refine .answer request .relaying _ (declined nofun) rfl ?_
          intro effect seen
          rcases List.mem_append.mp seen with early | sent
          · exact quiet effect early
          · rw [List.mem_singleton.mp sent]
            rfl
      | drop => exact .answer request (.answered .dropped) _ (declined nofun) rfl quiet
      | outOfSequence =>
          exact .answer request (.answered .outOfSequence) _ (declined nofun) rfl quiet
      | refuse fault =>
          exact .answer request (.answered (.refused fault)) _ (declined nofun) rfl quiet
      | accept application resolution =>
          exact .accept request application resolution asked received

theorem step?_of_task? (container : Container) {step : Step} {number : Nat}
    (about : step.task? = some number) : container.step? step = container.taskStep? number step := by
  cases step with
  | call | relay | hold | release => cases about
  | _ =>
      obtain rfl := Option.some.inj about
      rfl

theorem taskStep?_eq_some {container next : Container} {number : Nat} {step : Step}
    {effects : List Effect} (taken : container.taskStep? number step = some (next, effects)) :
    ∃ task outcome, container.tasks[number]? = some task ∧
      container.outcome? number task step = some outcome ∧
      next = container.settle number task outcome ∧ effects = outcome.effects := by
  unfold taskStep? at taken
  cases found : container.tasks[number]? with
  | none =>
      rw [found] at taken
      cases taken
  | some task =>
      rw [found] at taken
      change (container.outcome? number task step).bind _ = _ at taken
      obtain ⟨outcome, able, same⟩ := Option.bind_eq_some_iff.mp taken
      obtain ⟨rfl, rfl⟩ := Prod.mk.inj (Option.some.inj same)
      exact ⟨task, outcome, rfl, able, rfl, rfl⟩

theorem taskStep?_of_outcome? {container : Container} {number : Nat} {task : Task} {step : Step}
    {outcome : Outcome} (found : container.tasks[number]? = some task)
    (able : container.outcome? number task step = some outcome) :
    container.taskStep? number step =
      some (container.settle number task outcome, outcome.effects) := by
  simp only [taskStep?, found, able, Option.bind_eq_bind, Option.bind_some, Option.pure_def]

theorem happening_of_step? {container next : Container} {step : Step} {effects : List Effect}
    (possible : container.step? step = some (next, effects)) :
    container.Happening step next effects := by
  cases about : step.task? with
  | some number =>
      rw [container.step?_of_task? about] at possible
      obtain ⟨task, outcome, found, able, rfl, rfl⟩ := taskStep?_eq_some possible
      exact .task found (transition_of_outcome? about able)
  | none =>
      cases step with
      | call request =>
          obtain ⟨rfl, rfl⟩ := Prod.mk.inj (Option.some.inj possible)
          exact container.happening_of_call request
      | relay call conduct =>
          simp only [step?] at possible
          split at possible
          · rename_i request found
            obtain ⟨rfl, rfl⟩ := Prod.mk.inj (Option.some.inj possible)
            exact .relay call conduct request found
          · cases possible
      | hold outsider gate =>
          obtain ⟨rfl, rfl⟩ := Prod.mk.inj (Option.some.inj possible)
          exact .hold outsider gate
      | release outsider gate =>
          obtain ⟨rfl, rfl⟩ := Prod.mk.inj (Option.some.inj possible)
          exact .release outsider gate
      | _ => cases about

section

variable (container : Container) (session : Nat) (request : Request) (application : Nat)
  (resolution : Resolution)

theorem noteSequence_eq : container.noteSequence session request = container ∨
    container.noteSequence session request =
      container.modifyDialog session (·.noteSequence request) := by
  unfold noteSequence
  split
  · exact Or.inr rfl
  · exact Or.inl rfl

theorem noteSequence_of_direct {found : DialogSession}
    (located : container.store.dialogs.get? session = some found) (direct : found.proxy = none) :
    container.noteSequence session request =
      container.modifyDialog session (·.noteSequence request) := by
  obtain ⟨key, owner, dialog, proxy⟩ := found
  obtain rfl : proxy = none := direct
  unfold noteSequence
  rw [located]

theorem noteSequence_of_proxied {found : DialogSession}
    (located : container.store.dialogs.get? session = some found)
    (proxied : found.proxy.isSome = true) : container.noteSequence session request = container := by
  obtain ⟨key, owner, dialog, proxy⟩ := found
  obtain ⟨number, rfl⟩ := Option.isSome_iff_exists.mp proxied
  unfold noteSequence
  rw [located]

@[simp] theorem noteSequence_registry :
    (container.noteSequence session request).registry = container.registry := by
  rcases container.noteSequence_eq session request with same | same <;>
    simp only [same, modifyDialog]

@[simp] theorem noteSequence_gates :
    (container.noteSequence session request).gates = container.gates := by
  rcases container.noteSequence_eq session request with same | same <;>
    simp only [same, modifyDialog]

@[simp] theorem noteSequence_calls :
    (container.noteSequence session request).calls = container.calls := by
  rcases container.noteSequence_eq session request with same | same <;>
    simp only [same, modifyDialog]

@[simp] theorem noteSequence_tasks :
    (container.noteSequence session request).tasks = container.tasks := by
  rcases container.noteSequence_eq session request with same | same <;>
    simp only [same, modifyDialog]

@[simp] theorem noteSequence_settings :
    (container.noteSequence session request).settings = container.settings := by
  rcases container.noteSequence_eq session request with same | same <;>
    simp only [same, modifyDialog]

@[simp] theorem noteSequence_proxies :
    (container.noteSequence session request).proxies = container.proxies := by
  rcases container.noteSequence_eq session request with same | same <;>
    simp only [same, modifyDialog]

@[simp] theorem accept_tasks : (container.accept request application resolution).tasks =
    container.tasks ++ [container.makeTask request application resolution] := by
  simp [accept]

@[simp] theorem accept_calls : (container.accept request application resolution).calls =
    container.calls ++ [{ request, progress := .underway container.tasks.length }] := by
  simp [accept]

@[simp] theorem accept_gates : (container.accept request application resolution).gates =
    container.gates.move (container.makeTask request application resolution).gate
      (.task container.tasks.length) .join := by
  simp [accept]

@[simp] theorem accept_settings :
    (container.accept request application resolution).settings = container.settings := by
  simp [accept]

@[simp] theorem accept_proxies :
    (container.accept request application resolution).proxies = container.proxies := by
  simp [accept]

@[simp] theorem accept_registry :
    (container.accept request application resolution).registry = container.registry := by
  simp [accept]

end

/-! ### Tasks keep their number and what they are about -/

section

variable {container next : Container} {step : Step} {effects : List Effect}

theorem settle_tasks_self {number : Nat} {task : Task} (outcome : Outcome)
    (found : container.tasks[number]? = some task) :
    (container.settle number task outcome).tasks[number]? = some (task.after outcome) := by
  simp [settle, found]

theorem settle_tasks_of_ne {number other : Nat} (task : Task) (outcome : Outcome)
    (different : other ≠ number) :
    (container.settle number task outcome).tasks[other]? = container.tasks[other]? := by
  simp [settle, different.symm]

theorem settle_tasks_iff {number other : Nat} {task later : Task} {outcome : Outcome}
    (found : container.tasks[number]? = some task) :
    (container.settle number task outcome).tasks[other]? = some later ↔
      other = number ∧ later = task.after outcome ∨
        other ≠ number ∧ container.tasks[other]? = some later := by
  by_cases same : other = number
  · rw [same, settle_tasks_self outcome found]
    simp [eq_comm]
  · rw [settle_tasks_of_ne task outcome same]
    simp [same]

theorem mode?_settle (number : Nat) (task : Task) (outcome : Outcome) (application : Nat) :
    (container.settle number task outcome).mode? application = container.mode? application := by
  simp only [Container.mode?, settle, Registry.get?, Registry.modifyPool, Catalog.get?,
    Catalog.modify, List.getElem?_modify]
  cases container.registry.applications.made[application]? with
  | none => rfl
  | some found =>
      change Option.map _ (some _) = _
      split <;> rfl

theorem Happening.mode? (happening : container.Happening step next effects) (application : Nat) :
    next.mode? application = container.mode? application := by
  cases happening with
  | task => exact mode?_settle _ _ _ application
  | accept => simp [Container.mode?]
  | answer | relay | hold | release => rfl

theorem Happening.effect_about (happening : container.Happening step next effects)
    {effect : Effect} (shown : effect ∈ effects) :
    effect.task? = none ∨ effect.task? = step.task? := by
  cases happening with
  | task found transition =>
      right
      rw [transition.about]
      rcases transition.seen shown with ⟨rfl, _⟩ | ⟨_, rfl, _⟩ | ⟨_, rfl, _⟩ <;> rfl
  | accept request _ _ _ received =>
      left
      have quiet := container.receive_quiet request effect
      rw [received] at quiet
      exact quiet shown
  | answer _ _ _ _ _ quiet => exact Or.inl (quiet effect shown)
  | relay | hold | release => cases shown

theorem Happening.task_unchanged (happening : container.Happening step next effects)
    {number : Nat} {task : Task} (others : step.task? ≠ some number)
    (found : container.tasks[number]? = some task) : next.tasks[number]? = some task := by
  cases happening with
  | @task other subject _ outcome _ transition =>
      have different : number ≠ other := by
        rintro rfl
        exact others transition.about
      exact (settle_tasks_of_ne subject outcome different).trans found
  | accept request application resolution =>
      rw [accept_tasks, List.getElem?_append_left (List.getElem?_eq_some_iff.mp found).1]
      exact found
  | answer | relay | hold | release => exact found

theorem Happening.task_cases (happening : container.Happening step next effects) {number : Nat}
    {task : Task} (found : container.tasks[number]? = some task) :
    (∃ outcome, step.task? = some number ∧ container.Transition number task step outcome ∧
        next = container.settle number task outcome ∧ effects = outcome.effects) ∨
      step.task? ≠ some number ∧ next.tasks[number]? = some task := by
  by_cases own : step.task? = some number
  · left
    cases happening with
    | @task other subject _ outcome present transition =>
        obtain rfl := Option.some.inj (own.symm.trans transition.about)
        obtain rfl := Option.some.inj (found.symm.trans present)
        exact ⟨outcome, own, transition, rfl, rfl⟩
    | accept | answer | relay | hold | release => cases own
  · exact Or.inr ⟨own, happening.task_unchanged own found⟩

theorem Happening.task_kept (happening : container.Happening step next effects) {number : Nat}
    {task : Task} (found : container.tasks[number]? = some task) :
    ∃ later, next.tasks[number]? = some later ∧ task.Becomes later := by
  rcases happening.task_cases found with ⟨outcome, _, _, rfl, _⟩ | ⟨_, same⟩
  · exact ⟨task.after outcome, settle_tasks_self outcome found, rfl⟩
  · exact ⟨task, same, .refl task⟩

theorem Happening.call_kept (happening : container.Happening step next effects) {number : Nat}
    {call : Call} (found : container.calls[number]? = some call) :
    next.calls[number]? = some call ∨ (call.progress = .relaying ∧ ∃ conduct,
      next.calls[number]? = some { call with
        progress := .answered (relayResult call.request conduct) }) := by
  have early := (List.getElem?_eq_some_iff.mp found).1
  cases happening with
  | task | hold | release => exact Or.inl found
  | accept | answer =>
      left
      simp only [accept_calls, addCall]
      rw [List.getElem?_append_left early, found]
  | relay other conduct request present =>
      by_cases same : number = other
      · subst same
        obtain rfl := Option.some.inj (found.symm.trans present)
        refine Or.inr ⟨rfl, conduct, ?_⟩
        simp only [setProgress, List.getElem?_modify_eq, found]
        rfl
      · left
        simp [setProgress, Ne.symm same, found]

theorem Interlude.task_kept {before after : Container} (interlude : Interlude before after)
    {number : Nat} {task : Task} (found : before.tasks[number]? = some task) :
    after.tasks[number]? = some task := by
  obtain ⟨made, same, _⟩ := interlude.tasks
  rw [same, List.getElem?_append_left (List.getElem?_eq_some_iff.mp found).1]
  exact found

end

end Container

/-! ### Runs -/

structure Moment where
  before : Container
  step : Step
  effects : List Effect
  after : Container

/-- A run from one container to another, with the steps taken. Between them there may be interludes
of the given kind. -/
inductive Run (interlude : Container → Container → Prop) :
    Container → List Moment → Container → Prop
  | rest (container : Container) : Run interlude container [] container
  | step {before next finish : Container} {step : Step} {effects : List Effect}
      {later : List Moment} (possible : before.step? step = some (next, effects))
      (run : Run interlude next later finish) :
      Run interlude before ({ before, step, effects, after := next } :: later) finish
  | pause {before next finish : Container} {later : List Moment}
      (others : interlude before next) (run : Run interlude next later finish) :
      Run interlude before later finish

namespace Run

variable {interlude : Container → Container → Prop} {start finish : Container}
  {history : List Moment}

theorem preserves (property : Container → Prop)
    (stepwise : ∀ {before next step effects}, before.step? step = some (next, effects) →
      property before → property next)
    (between : ∀ {before next}, interlude before next → property before → property next)
    (run : Run interlude start history finish) (initially : property start) :
    property finish := by
  induction run with
  | rest => exact initially
  | step possible _ ih => exact ih (stepwise possible initially)
  | pause others _ ih => exact ih (between others initially)

theorem preserves_at (property : Container → Prop)
    (stepwise : ∀ {before next step effects}, before.step? step = some (next, effects) →
      property before → property next)
    (between : ∀ {before next}, interlude before next → property before → property next)
    (run : Run interlude start history finish) (initially : property start) :
    ∀ moment ∈ history, property moment.before ∧
      moment.before.step? moment.step = some (moment.after, moment.effects) := by
  induction run with
  | rest =>
      intro moment taken
      cases taken
  | step possible _ ih =>
      intro moment taken
      rcases List.mem_cons.mp taken with rfl | later
      · exact ⟨initially, possible⟩
      · exact ih (stepwise possible initially) moment later
  | pause others _ ih => exact ih (between others initially)

theorem possible_at (run : Run interlude start history finish) {moment : Moment}
    (taken : moment ∈ history) :
    moment.before.step? moment.step = some (moment.after, moment.effects) :=
  (run.preserves_at (fun _ => True) (fun _ _ => trivial) (fun _ _ => trivial) trivial moment taken).2

theorem weaken {stricter : Container → Container → Prop}
    (run : Run stricter start history finish)
    (weaker : ∀ {before after}, stricter before after → interlude before after) :
    Run interlude start history finish := by
  induction run with
  | rest container => exact .rest container
  | step possible _ ih => exact .step possible ih
  | pause others _ ih => exact .pause (weaker others) ih

theorem append {middle : Container} {later : List Moment}
    (early : Run interlude start history middle) (late : Run interlude middle later finish) :
    Run interlude start (history ++ later) finish := by
  induction early with
  | rest => exact late
  | step possible _ ih => exact .step possible (ih late)
  | pause others _ ih => exact .pause others (ih late)

theorem task_kept (run : Run Container.Interlude start history finish) {number : Nat} {task : Task}
    (found : start.tasks[number]? = some task) :
    ∃ later, finish.tasks[number]? = some later ∧ task.Becomes later :=
  run.preserves (fun container => ∃ later, container.tasks[number]? = some later ∧
      task.Becomes later)
    (fun possible ⟨_, kept, same⟩ =>
      let ⟨later, found, becomes⟩ := (Container.happening_of_step? possible).task_kept kept
      ⟨later, found, same.trans becomes⟩)
    (fun others ⟨later, kept, same⟩ => ⟨later, others.task_kept kept, same⟩)
    ⟨task, found, .refl task⟩

theorem call_kept (run : Run Container.Interlude start history finish) {number : Nat} {call : Call}
    (found : start.calls[number]? = some call) :
    finish.calls[number]? = some call ∨ (call.progress = .relaying ∧ ∃ conduct,
      finish.calls[number]? = some { call with
        progress := .answered (relayResult call.request conduct) }) := by
  refine run.preserves (fun container => container.calls[number]? = some call ∨
    (call.progress = .relaying ∧ ∃ conduct, container.calls[number]? = some { call with
      progress := .answered (relayResult call.request conduct) })) ?_ ?_ (Or.inl found)
  · intro before next step effects possible known
    have happening := Container.happening_of_step? possible
    rcases known with same | ⟨relays, conduct, answered⟩
    · exact happening.call_kept same
    · rcases happening.call_kept answered with kept | ⟨never, _⟩
      · exact Or.inr ⟨relays, conduct, kept⟩
      · cases never
  · intro before next others known
    rwa [others.calls]

def seen (history : List Moment) (finish : Container) : List Container :=
  history.flatMap (fun moment => [moment.before, moment.after]) ++ [finish]

end Run

def Container.follow (container : Container) : List Step → List Moment × Container
  | [] => ([], container)
  | step :: rest =>
    match container.step? step with
    | none => ([], container)
    | some (next, effects) =>
      let (later, finish) := next.follow rest
      ({ before := container, step, effects, after := next } :: later, finish)

theorem Run.follow (interlude : Container → Container → Prop) (container : Container)
    (steps : List Step) :
    Run interlude container (container.follow steps).1 (container.follow steps).2 := by
  induction steps generalizing container with
  | nil => exact .rest container
  | cons step rest ih =>
      unfold Container.follow
      split
      · exact .rest container
      · rename_i next effects possible
        exact .step possible (ih next)

/-! ### A small container -/

namespace Sample

def uri : Uri := { host := "b" }

def request (method : Method) (sequence : Nat) : Request where
  method
  target := uri
  sender := { uri, tag := none }
  recipient := { uri, tag := none }
  callId := "c"
  sequence
  transport := .udp
  route := some { host := "b", params := [("appname", some "h"), ("app_id", some "s")] }
  role := none
  subscription := none
  event := none
  transaction := .generated sequence

def container (mode : ConcurrencyMode) : Container :=
  let application : Application :=
    { name := "a", mode, pool := Pool.ofSize 1, correlate := fun _ _ => none }
  let owner : ApplicationKey := { callId := "s", applicationName := "a" }
  let key : DialogKey :=
    { localAddress := "sip:b", localTag := none, remoteAddress := "sip:b", callId := "c",
      applicationName := "a", applicationSessionId := "s" }
  { settings := { gateTimeoutMs := some 40 }
    registry :=
      { applications := { made := [application], kept := [("a", 0)] }, names := ⟨[("h", "a")]⟩ }
    store :=
      { applications := { made := [{ key := owner, dialogKeys := [key] }], kept := [(owner, 0)] }
        dialogs := { made := [{ key, owner }], kept := [(key, 0)] } } }

end Sample

end SipContainer

import SipContainer.Proofs.Dispatch.Line
/-!
What is true of a container at every moment of every run that starts at rest: the lines of the gates
agree with the tasks, every task has to pass the gate that the mode of its application asks for, and
every call that was accepted has a task of its own.
-/

namespace SipContainer

namespace Container

/-- Nothing has been dispatched, and nobody stands at a gate. -/
structure AtRest (container : Container) : Prop where
  tasks : container.tasks = []
  calls : container.calls = []
  gates : container.gates = {}

structure Sound (container : Container) : Prop where
  orderly : Orderly container.tasks container.gates
  gated : ∀ {number : Nat} {task : Task}, container.tasks[number]? = some task →
    container.Gated task
  lined : ∀ {number : Nat} {task : Task} {execution : Execution},
    container.tasks[number]? = some task → task.course = .dispatched execution →
    task.stage ≠ .created
  calls : ∀ {call : Call} {number : Nat}, call ∈ container.calls →
    call.progress.task? = some number →
    call.progress = .underway number ∧ ∃ task execution,
      container.tasks[number]? = some task ∧ task.course = .dispatched execution ∧
        task.request = call.request

theorem AtRest.sound {container : Container} (rest : container.AtRest) : container.Sound where
  orderly := by
    rw [rest.tasks, rest.gates]
    exact .empty
  gated found := by
    rw [rest.tasks] at found
    cases found
  lined found := by
    rw [rest.tasks] at found
    cases found
  calls present := by
    rw [rest.calls] at present
    cases present

structure Accepted (container : Container) (request : Request) (number : Nat)
    (resolution : Resolution) (identity : RouteIdentity) (application : Application)
    (session : DialogSession) : Prop where
  decided : RouteDecision.decide container.registry.names container.settings.listeners request =
    .ok (.resolved identity)
  deployed : container.registry.find? identity.applicationName = some number
  located : container.registry.get? number = some application
  resolved : (container.store.resolve application identity request).answer = .ok resolution
  stored : container.store.dialogs.get? resolution.dialogSession = some session
  admitted : admitsSequence session request = true

theorem accepted {container : Container} {request : Request} {number : Nat}
    {resolution : Resolution} {asked : List Effect}
    (received : container.receive request = (.accept number resolution, asked)) :
    ∃ identity application session,
      container.Accepted request number resolution identity application session := by
  unfold receive at received
  split at received
  · cases received
  · cases received
  · cases received
  · rename_i identity decided
    unfold receiveFor at received
    split at received
    · cases received
    · split at received
      · cases received
      · rename_i other deployed _ application located
        obtain ⟨reception, _⟩ := Prod.mk.inj received
        split at reception
        · cases reception
        · rename_i resolved
          split at reception
          · cases reception
          · rename_i session stored
            split at reception
            · rename_i admitted
              obtain ⟨rfl, rfl⟩ := Reception.accept.inj reception
              exact ⟨identity, application, session, decided, deployed, located, resolved, stored,
                admitted⟩
            · cases reception

theorem makeTask_gated {container : Container} {request : Request} {application : Nat}
    {resolution : Resolution} {found : Application}
    (located : container.registry.get? application = some found) :
    container.Gated (container.makeTask request application resolution) := by
  refine ⟨found.mode, ?_, ?_⟩
  · simp [Container.mode?, makeTask, located]
  · simp [makeTask, located]

section

variable {container next : Container} {step : Step} {effects : List Effect}

theorem Gated.becomes {task later : Task} (gated : container.Gated task)
    (becomes : task.Becomes later)
    (modes : ∀ {application mode}, container.mode? application = some mode →
      next.mode? application = some mode) : next.Gated later := by
  obtain ⟨mode, located, gate⟩ := gated
  rw [becomes]
  exact ⟨mode, modes located, gate⟩

theorem settle_change (number : Nat) {task : Task} (outcome : Outcome)
    (found : container.tasks[number]? = some task) (other : Nat) :
    (container.settle number task outcome).tasks[other]? =
      if other = number then some (task.after outcome) else container.tasks[other]? := by
  by_cases same : other = number
  · subst same
    rw [if_pos rfl, settle_tasks_self outcome found]
  · rw [if_neg same, settle_tasks_of_ne task outcome same]

theorem holder?_of_admits {number : Nat} {task : Task}
    (admitted : container.admits number task = true) (gate : GateId)
    (gated : task.gate = some gate) :
    (container.gates.gate gate).holder? = some (.task number) := by
  unfold admits at admitted
  rw [gated] at admitted
  exact (Gate.admits_iff _ _).mp admitted

theorem admits_of_holder? {number : Nat} {task : Task}
    (first : ∀ gate, task.gate = some gate →
      (container.gates.gate gate).holder? = some (.task number)) :
    container.admits number task = true := by
  unfold admits
  split
  · rfl
  · rename_i gate gated
    exact (Gate.admits_iff _ _).mpr (first gate gated)

theorem Happening.orderly (happening : container.Happening step next effects)
    (orderly : Orderly container.tasks container.gates) : Orderly next.tasks next.gates := by
  cases happening with
  | @task number task _ outcome found transition =>
      exact orderly.cross found (task.after outcome) rfl transition.crossing holder?_of_admits
        (settle_change number outcome found)
  | accept request application resolution =>
      -- A new task is first added, as if it had not lined up, and then lines up.
      let task := container.makeTask request application resolution
      let fresh : Task := { task with stage := .created }
      have added : Orderly (container.tasks ++ [fresh]) container.gates :=
        orderly.append (fun made present => by rw [List.mem_singleton.mp present]; rfl)
      have place : (container.tasks ++ [fresh])[container.tasks.length]? = some fresh := by simp
      have crossing : Crossing container.tasks.length false fresh.stage task.stage .join
          (some (.comes container.tasks.length)) := .comes
      have crossed : Orderly (container.tasks ++ [task])
          (container.gates.move fresh.gate (.task container.tasks.length) .join) := by
        apply added.cross place task rfl crossing (fun never => nomatch never)
        intro other
        by_cases last : other = container.tasks.length
        · subst last
          simp
        · rw [if_neg last]
          rcases Nat.lt_or_gt_of_ne last with early | late
          · rw [List.getElem?_append_left early, List.getElem?_append_left early]
          · rw [List.getElem?_eq_none (by simp; omega), List.getElem?_eq_none (by simp; omega)]
      rw [accept_tasks, accept_gates]
      exact crossed
  | answer | relay => exact orderly
  | hold outsider gate => exact orderly.outsider gate outsider .join
  | release outsider gate => exact orderly.outsider gate outsider .quit

theorem Happening.task_origin (happening : container.Happening step next effects) {number : Nat}
    {later : Task} (found : next.tasks[number]? = some later) :
    (∃ task, container.tasks[number]? = some task ∧ task.Becomes later) ∨
      ∃ request application resolution asked, step = .call request ∧
        container.receive request = (.accept application resolution, asked) ∧
        number = container.tasks.length ∧
        later = container.makeTask request application resolution := by
  cases Nat.lt_or_ge number container.tasks.length with
  | inl early =>
      obtain ⟨task, present⟩ : ∃ task, container.tasks[number]? = some task :=
        ⟨_, List.getElem?_eq_getElem early⟩
      obtain ⟨same, foundSame, becomes⟩ := happening.task_kept present
      obtain rfl := Option.some.inj (found.symm.trans foundSame)
      exact Or.inl ⟨task, present, becomes⟩
  | inr late =>
      cases happening with
      | task present =>
          have bounded := (List.getElem?_eq_some_iff.mp found).1
          simp [settle] at bounded
          omega
      | accept request application resolution asked received =>
          rw [accept_tasks, List.getElem?_append_right late] at found
          obtain ⟨last, same⟩ := List.getElem?_eq_some_iff.mp found
          simp only [List.length_singleton] at last
          refine Or.inr ⟨request, application, resolution, _, rfl, received, by omega, ?_⟩
          simpa using same.symm
      | answer | relay | hold | release =>
          have bounded := (List.getElem?_eq_some_iff.mp found).1
          simp [addCall, setProgress, modifyGate] at bounded
          omega

theorem Happening.course_kept (happening : container.Happening step next effects) {number : Nat}
    {task later : Task} {execution : Execution} (found : container.tasks[number]? = some task)
    (foundLater : next.tasks[number]? = some later) :
    later.course = .dispatched execution ↔ task.course = .dispatched execution := by
  rcases happening.task_cases found with ⟨outcome, _, transition, rfl, _⟩ | ⟨_, same⟩
  · rw [settle_tasks_self outcome found] at foundLater
    obtain rfl := Option.some.inj foundLater
    exact transition.dispatched_iff execution
  · rw [Option.some.inj (foundLater.symm.trans same)]

theorem Happening.dispatched_kept (happening : container.Happening step next effects)
    {number : Nat} {request : Request}
    (old : ∃ task execution, container.tasks[number]? = some task ∧
      task.course = .dispatched execution ∧ task.request = request) :
    ∃ task execution, next.tasks[number]? = some task ∧
      task.course = .dispatched execution ∧ task.request = request := by
  obtain ⟨task, execution, found, dispatched, same⟩ := old
  obtain ⟨later, foundLater, becomes⟩ := happening.task_kept found
  refine ⟨later, execution, foundLater, ?_, ?_⟩
  · exact (happening.course_kept found foundLater).mpr dispatched
  · rw [becomes]
    exact same

theorem Happening.sound (happening : container.Happening step next effects)
    (sound : container.Sound) : next.Sound where
  orderly := happening.orderly sound.orderly
  gated := by
    intro number later found
    have modes {application : Nat} {mode : ConcurrencyMode}
        (located : container.mode? application = some mode) :
        next.mode? application = some mode := (happening.mode? application).trans located
    rcases happening.task_origin found with ⟨task, present, becomes⟩ |
      ⟨request, application, resolution, asked, _, received, _, rfl⟩
    · exact (sound.gated present).becomes becomes modes
    · obtain ⟨_, _, _, accepted⟩ := accepted received
      exact (makeTask_gated accepted.located).becomes (.refl _) modes
  lined := by
    intro number later execution found dispatched
    rcases happening.task_origin found with ⟨task, present, _⟩ | ⟨_, _, _, _, _, _, _, rfl⟩
    · have before := (happening.course_kept present found).mp dispatched
      rcases happening.task_cases present with ⟨outcome, _, transition, rfl, _⟩ | ⟨_, same⟩
      · rw [settle_tasks_self outcome present] at found
        obtain rfl := Option.some.inj found
        exact transition.ne_created (sound.lined present before) before
      · obtain rfl := Option.some.inj (same.symm.trans found)
        exact sound.lined present before
    · intro created
      cases created
  calls := by
    have old {call : Call} {number : Nat} (member : call ∈ container.calls)
        (stands : call.progress.task? = some number) :=
      (sound.calls member stands).imp_right happening.dispatched_kept
    intro call number present stands
    cases happening with
    | task | hold | release => exact old present stands
    | accept request application resolution =>
        rw [accept_calls] at present
        rcases List.mem_append.mp present with earlier | latest
        · exact old earlier stands
        · rw [List.mem_singleton.mp latest] at stands ⊢
          obtain rfl := Option.some.inj stands
          exact ⟨rfl, container.makeTask request application resolution, _, by simp, rfl, rfl⟩
    | answer request progress _ _ free =>
        rcases List.mem_append.mp present with earlier | latest
        · exact old earlier stands
        · rw [List.mem_singleton.mp latest, free] at stands
          cases stands
    | relay answered conduct request =>
        have free : (CallProgress.answered (relayResult request conduct)).task? = none := by
          cases conduct <;> rfl
        obtain ⟨place, found⟩ := List.mem_iff_getElem?.mp present
        simp only [setProgress, List.getElem?_modify] at found
        obtain ⟨earlier, foundEarlier, changed⟩ := Option.map_eq_some_iff.mp found
        split at changed
        · rw [← changed, free] at stands
          cases stands
        · obtain rfl := changed
          exact old (List.mem_of_getElem? foundEarlier) stands

end

theorem Interlude.sound {before after : Container} (interlude : Interlude before after)
    (sound : before.Sound) : after.Sound := by
  obtain ⟨made, tasks, handmade⟩ := interlude.tasks
  have origin {number : Nat} {task : Task} (found : after.tasks[number]? = some task) :
      before.tasks[number]? = some task ∨ after.Handmade task := by
    rw [tasks] at found
    rcases Nat.lt_or_ge number before.tasks.length with early | late
    · rw [List.getElem?_append_left early] at found
      exact Or.inl found
    · rw [List.getElem?_append_right late] at found
      exact Or.inr (handmade task (List.mem_of_getElem? found))
  exact {
    orderly := by
      rw [tasks, interlude.gates]
      exact sound.orderly.append (fun task member => by rw [(handmade task member).created]; rfl)
    gated := by
      intro number task found
      rcases origin found with old | new
      · exact (sound.gated old).becomes (.refl task) interlude.modes
      · exact new.gated
    lined := by
      intro number task execution found dispatched
      rcases origin found with old | new
      · exact sound.lined old dispatched
      · rw [new.byHand] at dispatched
        cases dispatched
    calls := by
      intro call number present stands
      rw [interlude.calls] at present
      obtain ⟨underway, task, execution, found, rest⟩ := sound.calls present stands
      exact ⟨underway, task, execution, interlude.task_kept found, rest⟩ }

end Container

namespace Run

variable {start finish : Container} {history : List Moment}

theorem sound (run : Run Container.Interlude start history finish) (initially : start.Sound) :
    finish.Sound :=
  run.preserves Container.Sound (fun possible => (Container.happening_of_step? possible).sound)
    (fun others => others.sound) initially

theorem sound_at (run : Run Container.Interlude start history finish) (initially : start.Sound) :
    ∀ moment ∈ history, moment.before.Sound ∧
      moment.before.Happening moment.step moment.after moment.effects := by
  intro moment taken
  obtain ⟨sound, possible⟩ := run.preserves_at Container.Sound
    (fun possible => (Container.happening_of_step? possible).sound)
    (fun others => others.sound) initially moment taken
  exact ⟨sound, Container.happening_of_step? possible⟩

theorem sound_of_seen (run : Run Container.Interlude start history finish)
    (initially : start.Sound) {container : Container} (member : container ∈ seen history finish) :
    container.Sound := by
  rcases List.mem_append.mp member with early | last
  · obtain ⟨moment, taken, one⟩ := List.mem_flatMap.mp early
    obtain ⟨sound, happening⟩ := run.sound_at initially moment taken
    simp only [List.mem_cons, List.not_mem_nil, or_false] at one
    rcases one with rfl | rfl
    · exact sound
    · exact happening.sound sound
  · rw [List.mem_singleton.mp last]
    exact run.sound initially

end Run

end SipContainer

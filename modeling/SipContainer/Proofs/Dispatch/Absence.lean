import SipContainer.Proofs.Dispatch.Invariant
/-!
A container without one of its waiting tasks. As long as a task stands behind others in a line, a
container in which it stands in no line at all takes the same steps and shows the same effects. A
task whose wait ends in vain has stood behind others all the time, so the whole run might as well
have been without it.
-/

namespace SipContainer

namespace Container

variable {container next : Container} {step : Step} {effects : List Effect}

/-- One container is like another, except that a task is in no line there. Of the task itself
nothing is said. -/
structure Without (number : Nat) (ghost container : Container) : Prop where
  settings : ghost.settings = container.settings
  registry : ghost.registry = container.registry
  store : ghost.store = container.store
  proxies : ghost.proxies = container.proxies
  calls : ghost.calls = container.calls
  gates : ∀ gate, ghost.gates.gate gate = (container.gates.gate gate).leave (.task number)
  count : ghost.tasks.length = container.tasks.length
  tasks : ∀ other, other ≠ number → ghost.tasks[other]? = container.tasks[other]?

theorem outcome?_congr {left right : Container} (registry : left.registry = right.registry)
    (store : left.store = right.store) (proxies : left.proxies = right.proxies) {number : Nat}
    {task : Task} (admission : left.admits number task = right.admits number task) (step : Step) :
    left.outcome? number task step = right.outcome? number task step := by
  obtain ⟨_, _, _, _, _, _, _⟩ := left
  obtain ⟨_, _, _, _, _, _, _⟩ := right
  simp only at registry store proxies
  subst registry store proxies
  cases step with
  | enter => simp only [outcome?, admission]
  | giveUp =>
      simp only [outcome?, admission]
      rfl
  | _ => rfl

theorem noteSequence_store_congr {left right : Container} (store : left.store = right.store)
    (session : Nat) (request : Request) :
    (left.noteSequence session request).store = (right.noteSequence session request).store := by
  unfold noteSequence
  rw [store]
  split
  · simp only [modifyDialog, store]
  · exact store

theorem receive_congr {left right : Container} (settings : left.settings = right.settings)
    (registry : left.registry = right.registry) (store : left.store = right.store)
    (request : Request) : left.receive request = right.receive request := by
  obtain ⟨_, _, _, _, _, _, _⟩ := left
  obtain ⟨_, _, _, _, _, _, _⟩ := right
  simp only at settings registry store
  subst settings registry store
  rfl

namespace Without

variable {number : Nat} {ghost : Container}

theorem receive (without : Without number ghost container) (request : Request) :
    ghost.receive request = container.receive request :=
  receive_congr without.settings without.registry without.store request

theorem makeTask (without : Without number ghost container) (request : Request)
    (application : Nat) (resolution : Resolution) :
    ghost.makeTask request application resolution =
      container.makeTask request application resolution := by
  simp only [Container.makeTask, without.registry, without.settings]

theorem admits (without : Without number ghost container)
    (behind : ∀ gate, (container.gates.gate gate).holder? ≠ some (.task number)) {other : Nat}
    (task : Task) : ghost.admits other task = container.admits other task := by
  unfold Container.admits
  split
  · rfl
  · rename_i gate _
    unfold Gate.admits
    rw [without.gates, Gate.holder?_leave_of_ne _ (behind gate)]

theorem gates_move (without : Without number ghost container) (id : Option GateId) {party : Party}
    (different : party ≠ .task number) (move : LineMove) (gate : GateId) :
    (ghost.gates.move id party move).gate gate =
      ((container.gates.move id party move).gate gate).leave (.task number) := by
  rw [GateBoard.gate_move, GateBoard.gate_move, without.gates]
  split
  · exact Gate.move_leave_comm _ move different
  · rfl

theorem settle (without : Without number ghost container) {other : Nat} (task : Task)
    (outcome : Outcome) (different : other ≠ number) :
    Without number (ghost.settle other task outcome) (container.settle other task outcome) where
  settings := without.settings
  registry := by simp only [Container.settle, without.registry]
  store := by simp only [Container.settle, without.store]
  proxies := by simp only [Container.settle, without.proxies]
  calls := without.calls
  gates := without.gates_move task.gate (fun equal => different (Party.task.inj equal)) outcome.line
  count := by simp only [Container.settle, List.length_modify, without.count]
  tasks := by
    intro known apart
    simp only [Container.settle, List.getElem?_modify, without.tasks known apart]

theorem accept (without : Without number ghost container) (request : Request) (application : Nat)
    (resolution : Resolution) (present : number < container.tasks.length) :
    Without number (ghost.accept request application resolution)
      (container.accept request application resolution) where
  settings := by rw [accept_settings, accept_settings, without.settings]
  registry := by rw [accept_registry, accept_registry, without.registry]
  store := noteSequence_store_congr without.store resolution.dialogSession request
  proxies := by rw [accept_proxies, accept_proxies, without.proxies]
  calls := by rw [accept_calls, accept_calls, without.calls, without.count]
  gates := by
    have different : Party.task container.tasks.length ≠ .task number := by
      intro equal
      have same := Party.task.inj equal
      omega
    rw [accept_gates, accept_gates, without.makeTask, without.count]
    exact without.gates_move _ different .join
  count := by
    rw [accept_tasks, accept_tasks, List.length_append, List.length_append, without.count]
    rfl
  tasks := by
    intro known apart
    rw [accept_tasks, accept_tasks, without.makeTask]
    rcases Nat.lt_or_ge known container.tasks.length with early | late
    · rw [List.getElem?_append_left (without.count ▸ early), List.getElem?_append_left early]
      exact without.tasks known apart
    · rw [List.getElem?_append_right (without.count ▸ late), List.getElem?_append_right late,
        without.count]

theorem outsider (without : Without number ghost container) (gate : GateId) (outsider : Nat)
    (move : LineMove) :
    Without number { ghost with gates := ghost.gates.move (some gate) (.outsider outsider) move }
      { container with
        gates := container.gates.move (some gate) (.outsider outsider) move } where
  settings := without.settings
  registry := without.registry
  store := without.store
  proxies := without.proxies
  calls := without.calls
  gates := by
    exact without.gates_move (some gate) (Party.task_ne_outsider number outsider).symm move
  count := without.count
  tasks := without.tasks

theorem addCall (without : Without number ghost container) (request : Request)
    (progress : CallProgress) :
    Without number (ghost.addCall request progress) (container.addCall request progress) where
  settings := without.settings
  registry := without.registry
  store := without.store
  proxies := without.proxies
  calls := by simp only [Container.addCall, without.calls]
  gates := without.gates
  count := without.count
  tasks := without.tasks

theorem setProgress (without : Without number ghost container) (call : Nat)
    (progress : CallProgress) :
    Without number (ghost.setProgress call progress) (container.setProgress call progress) where
  settings := without.settings
  registry := without.registry
  store := without.store
  proxies := without.proxies
  calls := by simp only [Container.setProgress, without.calls]
  gates := without.gates
  count := without.count
  tasks := without.tasks

theorem call (without : Without number ghost container) (request : Request)
    (present : number < container.tasks.length) :
    (ghost.call request).2 = (container.call request).2 ∧
      Without number (ghost.call request).1 (container.call request).1 := by
  unfold Container.call
  rw [without.receive]
  split
  · exact ⟨rfl, without.addCall request _⟩
  · exact ⟨rfl, without.addCall request _⟩
  · exact ⟨rfl, without.addCall request _⟩
  · exact ⟨rfl, without.addCall request _⟩
  · exact ⟨rfl, without.accept request _ _ present⟩

/-- Every step of others is possible without the task as well, and shows the same. -/
theorem step? (without : Without number ghost container)
    (present : number < container.tasks.length)
    (behind : ∀ gate, (container.gates.gate gate).holder? ≠ some (.task number))
    (others : step.task? ≠ some number) (possible : container.step? step = some (next, effects)) :
    ∃ after, ghost.step? step = some (after, effects) ∧ Without number after next := by
  cases about : step.task? with
  | some other =>
      have different : other ≠ number := fun same => others (same ▸ about)
      rw [container.step?_of_task? about] at possible
      rw [ghost.step?_of_task? about]
      obtain ⟨task, outcome, found, able, rfl, rfl⟩ := taskStep?_eq_some possible
      have foundThere := (without.tasks other different).trans found
      have ableThere := (outcome?_congr without.registry without.store without.proxies
        (without.admits behind task) step).trans able
      exact ⟨_, taskStep?_of_outcome? foundThere ableThere, without.settle task outcome different⟩
  | none =>
      cases step with
      | call request =>
          obtain ⟨rfl, rfl⟩ := Prod.mk.inj (Option.some.inj possible)
          obtain ⟨same, kept⟩ := without.call request present
          exact ⟨_, congrArg some (Prod.ext rfl same), kept⟩
      | relay call conduct =>
          simp only [Container.step?] at possible ⊢
          rw [without.calls]
          split at possible
          · obtain ⟨rfl, rfl⟩ := Prod.mk.inj (Option.some.inj possible)
            exact ⟨_, rfl, without.setProgress call _⟩
          · cases possible
      | hold outsider gate =>
          obtain ⟨rfl, rfl⟩ := Prod.mk.inj (Option.some.inj possible)
          exact ⟨_, rfl, without.outsider gate outsider .join⟩
      | release outsider gate =>
          obtain ⟨rfl, rfl⟩ := Prod.mk.inj (Option.some.inj possible)
          exact ⟨_, rfl, without.outsider gate outsider .quit⟩
      | _ => cases about

end Without

theorem Interlude.without {before after ghost : Container} (interlude : Interlude before after)
    {number : Nat} (without : Without number ghost before) :
    ∃ later, Interlude ghost later ∧ Without number later after := by
  obtain ⟨made, tasks, handmade⟩ := interlude.tasks
  let later : Container :=
    { after with gates := ghost.gates, calls := ghost.calls, tasks := ghost.tasks ++ made }
  refine ⟨later, ?_, ?_⟩
  · exact {
      settings := interlude.settings.trans without.settings.symm
      gates := rfl
      calls := rfl
      tasks := ⟨made, rfl, fun task member =>
        ⟨(handmade task member).byHand, (handmade task member).created,
          (handmade task member).gated⟩⟩
      modes := by
        intro application mode known
        have same : ghost.mode? application = before.mode? application := by
          simp only [mode?, without.registry]
        exact interlude.modes (same.symm.trans known) }
  · exact {
      settings := rfl
      registry := rfl
      store := rfl
      proxies := rfl
      calls := without.calls.trans interlude.calls.symm
      gates := by
        intro gate
        rw [interlude.gates]
        exact without.gates gate
      count := by simp only [later, tasks, List.length_append, without.count]
      tasks := by
        intro other different
        simp only [later, tasks]
        rcases Nat.lt_or_ge other before.tasks.length with early | late
        · rw [List.getElem?_append_left (without.count ▸ early), List.getElem?_append_left early]
          exact without.tasks other different
        · rw [List.getElem?_append_right (without.count ▸ late), List.getElem?_append_right late,
            without.count] }

end Container

/-! ### Waiting in vain -/

def Stage.IsLate (stage : Stage) : Prop :=
  stage = .waiting ∨ ∃ fault, stage = .finished (.timedOut fault)

namespace Stage

theorem not_isLate_of_isInside {stage : Stage} (inside : stage.isInside = true) :
    ¬ stage.IsLate := by
  rintro (rfl | ⟨fault, rfl⟩) <;> cases inside

theorem not_isLate_responding (fault : DispatchError) : ¬ (responding fault).IsLate := by
  rintro (same | ⟨cause, same⟩) <;> cases same

theorem not_isLate_finished {ending : Ending} (other : ∀ fault, ending ≠ .timedOut fault) :
    ¬ (finished ending).IsLate := by
  rintro (same | ⟨cause, same⟩)
  · cases same
  · exact other cause (Stage.finished.inj same)

end Stage

namespace Container

variable {container next : Container} {step : Step} {effects : List Effect} {number : Nat}
  {task : Task}

theorem exit_not_isLate (number : Nat) (task : Task) (fault : Option DispatchError) :
    ¬ (task.exit number fault).stage.IsLate := by
  rcases task.exit_stage number fault with completed | ⟨cause, answers | failed⟩
  · rw [completed]
    exact Stage.not_isLate_finished nofun
  · rw [answers]
    exact Stage.not_isLate_responding cause
  · rw [failed]
    exact Stage.not_isLate_finished nofun

theorem cancel_not_isLate (number : Nat) (task : Task) :
    ¬ (task.cancel number).stage.IsLate := by
  unfold Task.cancel
  split
  · exact Stage.not_isLate_finished nofun
  · exact Stage.not_isLate_finished nofun

theorem Transition.giveUp_of_isLate {outcome : Outcome}
    (transition : container.Transition number task step outcome) {execution : Execution}
    (dispatched : task.course = .dispatched execution) (lined : task.stage ≠ .created)
    (late : outcome.stage.IsLate) :
    step = .giveUp number ∧ task.stage = .waiting ∧ container.admits number task = false ∧
      outcome = { task.reach (.finished (.timedOut (container.gateTimeout task))) with
        line := .quit } := by
  cases transition with
  | lineUp created => exact absurd created lined
  | enter => exact absurd late (Stage.not_isLate_of_isInside task.enter_isInside)
  | giveUp waits refused =>
      refine ⟨rfl, waits, refused, ?_⟩
      simp only [Task.giveUp, dispatched]
  | run answers byHand =>
      rw [byHand] at dispatched
      cases dispatched
  | queue | serve | forward => exact absurd late (Stage.not_isLate_of_isInside rfl)
  | lose => exact absurd late (exit_not_isLate number task none)
  | exit conduct fault => exact absurd late (exit_not_isLate number task fault)
  | respond fault conduct =>
      have other (cause : DispatchError) : endingOf conduct ≠ .timedOut cause := by
        intro same
        rcases endingOf_cases conduct with completed | ⟨message, panicked⟩
        · cases completed.symm.trans same
        · cases panicked.symm.trans same
      exact absurd late (Stage.not_isLate_finished other)
  | cancel => exact absurd late (cancel_not_isLate number task)

/-- A dispatched task waits behind others, or its wait has ended in vain. -/
structure Forlorn (container : Container) (number : Nat) (task : Task) : Prop where
  found : container.tasks[number]? = some task
  dispatched : ∃ execution, task.course = .dispatched execution
  late : task.stage.IsLate
  behind : task.stage = .waiting → container.admits number task = false

theorem Forlorn.not_first (forlorn : container.Forlorn number task) (sound : container.Sound)
    (gate : GateId) : (container.gates.gate gate).holder? ≠ some (.task number) := by
  intro first
  obtain ⟨rest, line⟩ := List.head?_eq_some_iff.mp first
  have listed : Party.task number ∈ (container.gates.gate gate).line := by
    rw [line]
    exact List.mem_cons_self
  obtain ⟨same, found, gated, inLine⟩ := sound.orderly.known listed
  obtain rfl := Option.some.inj (forlorn.found.symm.trans found)
  rcases forlorn.late with waits | ⟨fault, ended⟩
  · have admitted : container.admits number task = true := by
      apply admits_of_holder?
      intro other gatedOther
      obtain rfl := Option.some.inj (gated.symm.trans gatedOther)
      exact first
    rw [forlorn.behind waits] at admitted
    cases admitted
  · rw [ended] at inLine
    cases inLine

theorem Happening.forlorn (happening : container.Happening step next effects)
    (sound : container.Sound) (found : container.tasks[number]? = some task) {later : Task}
    (forlorn : next.Forlorn number later) : container.Forlorn number task := by
  obtain ⟨execution, courseLater⟩ := forlorn.dispatched
  have dispatched := (happening.course_kept found forlorn.found).mp courseLater
  -- Where the task itself takes no step, it can only come to stand first.
  have others (kept : next.tasks[number]? = some task)
      (moved : ∀ gate, (container.gates.gate gate).holder? = some (.task number) →
        (next.gates.gate gate).holder? = some (.task number)) :
      container.Forlorn number task := by
    obtain rfl := Option.some.inj (kept.symm.trans forlorn.found)
    refine ⟨found, forlorn.dispatched, forlorn.late, ?_⟩
    intro waits
    cases admitted : container.admits number task with
    | false => rfl
    | true =>
        have still : next.admits number task = true :=
          admits_of_holder? (fun gate gated => moved gate (holder?_of_admits admitted gate gated))
        rw [forlorn.behind waits] at still
        cases still
  cases happening with
  | @task other subject _ outcome present transition =>
      by_cases same : number = other
      · subst same
        obtain rfl := Option.some.inj (found.symm.trans present)
        have settled := forlorn.found
        rw [settle_tasks_self outcome found] at settled
        obtain rfl := Option.some.inj settled
        obtain ⟨_, waits, refused, _⟩ :=
          transition.giveUp_of_isLate dispatched (sound.lined found dispatched) forlorn.late
        exact ⟨found, ⟨execution, dispatched⟩, Or.inl waits, fun _ => refused⟩
      · refine others ((settle_tasks_of_ne subject outcome same).trans found) ?_
        intro gate first
        have apart : Party.task number ≠ .task other := fun equal => same (Party.task.inj equal)
        simp only [settle, GateBoard.gate_move]
        split
        · exact Gate.holder?_move_of_ne _ outcome.line apart first
        · exact first
  | accept request application resolution =>
      have early := (List.getElem?_eq_some_iff.mp found).1
      apply others (by rw [accept_tasks, List.getElem?_append_left early, found])
      intro gate first
      have apart : Party.task number ≠ .task container.tasks.length := by
        intro equal
        have same := Party.task.inj equal
        omega
      rw [accept_gates, GateBoard.gate_move]
      split
      · exact Gate.holder?_move_of_ne _ .join apart first
      · exact first
  | answer | relay => exact others found (fun _ first => first)
  | hold outsider held =>
      apply others found
      intro gate first
      change ((container.gates.move (some held) (.outsider outsider) .join).gate gate).holder? = _
      rw [GateBoard.gate_move]
      split
      · exact Gate.holder?_move_of_ne _ .join (Party.task_ne_outsider number outsider) first
      · exact first
  | release outsider held =>
      apply others found
      intro gate first
      change ((container.gates.move (some held) (.outsider outsider) .quit).gate gate).holder? = _
      rw [GateBoard.gate_move]
      split
      · exact Gate.holder?_move_of_ne _ .quit (Party.task_ne_outsider number outsider) first
      · exact first

theorem Interlude.forlorn {before after : Container} (interlude : Interlude before after)
    (found : before.tasks[number]? = some task) {later : Task}
    (forlorn : after.Forlorn number later) : before.Forlorn number task := by
  obtain rfl := Option.some.inj ((interlude.task_kept found).symm.trans forlorn.found)
  refine ⟨found, forlorn.dispatched, forlorn.late, fun waits => ?_⟩
  have refused := forlorn.behind waits
  unfold admits at refused ⊢
  rwa [interlude.gates] at refused

theorem Happening.without_of_forlorn (happening : container.Happening step next effects)
    (own : step.task? = some number) (sound : container.Sound)
    (found : container.tasks[number]? = some task) {later : Task}
    (forlorn : next.Forlorn number later) {ghost : Container}
    (without : Without number ghost container) : effects = [] ∧ Without number ghost next := by
  obtain ⟨execution, courseLater⟩ := forlorn.dispatched
  have dispatched := (happening.course_kept found forlorn.found).mp courseLater
  have settled := forlorn.found
  rcases happening.task_cases found with ⟨outcome, _, transition, rfl, rfl⟩ | ⟨others, _⟩
  · rw [settle_tasks_self outcome found] at settled
    obtain rfl := Option.some.inj settled
    obtain ⟨_, _, _, rfl⟩ :=
      transition.giveUp_of_isLate dispatched (sound.lined found dispatched) forlorn.late
    refine ⟨rfl, ?_⟩
    exact {
      settings := without.settings
      registry := without.registry.trans (Registry.modifyPool_id _ _).symm
      store := without.store.trans (SessionStore.modifyDialog_id _ _).symm
      proxies := without.proxies
      calls := without.calls
      gates := by
        intro gate
        rw [without.gates]
        simp only [settle, GateBoard.gate_move, Gate.move]
        split
        · have once := sound.orderly.once number gate
          have absent : Party.task number ∉
              ((container.gates.gate gate).leave (.task number)).line := by
            intro twice
            have positive := List.count_pos_iff.mpr twice
            rw [Gate.line_leave, List.count_erase_self] at positive
            omega
          rw [Gate.leave_of_not_mem _ absent]
        · rfl
      count := by simp only [settle, List.length_modify, without.count]
      tasks := by
        intro other different
        rw [settle_tasks_of_ne _ _ different]
        exact without.tasks other different }
  · exact absurd own others

end Container

def Moment.deed (moment : Moment) : Step × List Effect :=
  (moment.step, moment.effects)

namespace Run

variable {start finish : Container} {future : List Moment} {number : Nat} {task later : Task}

theorem forlorn (run : Run Container.Interlude start future finish) (sound : start.Sound)
    (found : start.tasks[number]? = some task) (forlorn : finish.Forlorn number later) :
    start.Forlorn number task := by
  induction run generalizing task with
  | rest =>
      obtain rfl := Option.some.inj (found.symm.trans forlorn.found)
      exact forlorn
  | step possible _ ih =>
      have happening := Container.happening_of_step? possible
      obtain ⟨meanwhile, kept, _⟩ := happening.task_kept found
      exact happening.forlorn sound found (ih (happening.sound sound) kept forlorn)
  | pause others _ ih =>
      exact others.forlorn found (ih (others.sound sound) (others.task_kept found) forlorn)

/-- A run in which a task waits in vain shows nothing of it, and leads a container without the task
through the same steps with the same effects. -/
theorem without (run : Run Container.Interlude start future finish) (sound : start.Sound)
    (found : start.tasks[number]? = some task) (forlorn : finish.Forlorn number later)
    {ghost : Container} (without : Container.Without number ghost start) :
    (∀ moment ∈ future, ∀ effect ∈ moment.effects, effect.task? ≠ some number) ∧
      ∃ history after, Run Container.Interlude ghost history after ∧
        history.map Moment.deed =
          (future.filter (fun moment => moment.step.task? ≠ some number)).map Moment.deed ∧
        Container.Without number after finish := by
  induction run generalizing task ghost with
  | rest => exact ⟨fun _ never => (List.not_mem_nil never).elim, [], ghost, .rest ghost, rfl, without⟩
  | @step before next finish step effects future possible run ih =>
      have happening := Container.happening_of_step? possible
      have soundNext := happening.sound sound
      obtain ⟨meanwhile, kept, _⟩ := happening.task_kept found
      have vainNext := run.forlorn soundNext kept forlorn
      by_cases own : step.task? = some number
      · obtain ⟨silent, withoutNext⟩ :=
          happening.without_of_forlorn own sound found vainNext without
        obtain ⟨unseen, history, after, alike, same, withoutLast⟩ :=
          ih soundNext kept forlorn withoutNext
        refine ⟨?_, history, after, alike, ?_, withoutLast⟩
        · intro moment taken effect shown
          rcases List.mem_cons.mp taken with rfl | early
          · rw [silent] at shown
            cases shown
          · exact unseen moment early effect shown
        · rw [same, List.filter_cons_of_neg (by simp [own])]
      · have vain := happening.forlorn sound found vainNext
        obtain ⟨ghostNext, able, withoutNext⟩ := without.step?
          (List.getElem?_eq_some_iff.mp found).1 (vain.not_first sound) own possible
        obtain ⟨unseen, history, after, alike, same, withoutLast⟩ :=
          ih soundNext kept forlorn withoutNext
        refine ⟨?_, _, after, .step able alike, ?_, withoutLast⟩
        · intro moment taken effect shown
          rcases List.mem_cons.mp taken with rfl | early
          · rcases happening.effect_about shown with none | about
            · rw [none]
              exact nofun
            · rwa [about]
          · exact unseen moment early effect shown
        · rw [List.filter_cons_of_pos (by simp [own]), List.map_cons, List.map_cons, same]
          rfl
  | pause others run ih =>
      obtain ⟨ghostNext, interlude, withoutNext⟩ := others.without without
      obtain ⟨unseen, history, after, alike, same, withoutLast⟩ :=
        ih (others.sound sound) (others.task_kept found) forlorn withoutNext
      exact ⟨unseen, history, after, .pause interlude alike, same, withoutLast⟩

end Run

end SipContainer

import SipContainer.Proofs.Dispatch.Invariant
/-!
A task that may set out comes to its end. Application, branches and responder may succeed, fail or
break down: whatever they do, a hand-back takes the task on, a fan-out has ever fewer branches
before it, and a task that is out of its gate has at most one fault to be answered.
-/

namespace SipContainer

structure Team where
  application : Conduct
  branch : Leg → Conduct
  responder : Conduct

/-- What happens next to a task that a team looks after, from the moment it may set out. -/
def Team.turn? (team : Team) (number : Nat) : Stage → Option Step
  | .created | .waiting | .finished _ => none
  | .entered | .submitted | .queued => some (.start number)
  | .serving _ => some (.serve number team.application)
  | .forwarding leg => some (.forward number (team.branch leg))
  | .responding _ => some (.respond number team.responder)

theorem Team.task?_of_turn? (team : Team) {number : Nat} {stage : Stage} {step : Step}
    (turn : team.turn? number stage = some step) : step.task? = some number := by
  cases stage with
  | created | waiting | finished => cases turn
  | entered | submitted | queued | serving | forwarding | responding =>
      rw [← Option.some.inj turn]
      rfl

theorem Proxy.nextAwaiting?_shorter (proxy : Proxy) {branches others : List Nat} {branch : Nat}
    (found : proxy.nextAwaiting? branches = some (branch, others)) :
    others.length < branches.length := by
  induction branches with
  | nil => cases found
  | cons first rest ih =>
      unfold Proxy.nextAwaiting? at found
      split at found
      · obtain ⟨_, rfl⟩ := Prod.mk.inj (Option.some.inj found)
        exact Nat.lt_succ_self _
      · exact Nat.lt_succ_of_lt (ih found)

theorem Task.fanOut_shorter (number : Nat) (task : Task) (proxies : List Proxy)
    (proxyNumber : Nat) (branches : List Nat) :
    (∃ branch others, task.fanOut number proxies proxyNumber branches =
        task.forward number (.fanOut proxyNumber branch others) ∧
          others.length < branches.length) ∨
      task.fanOut number proxies proxyNumber branches = task.exit number none := by
  unfold Task.fanOut
  split
  · exact Or.inr rfl
  · rename_i branch others next
    obtain ⟨proxy, _, found⟩ := Option.bind_eq_some_iff.mp next
    exact Or.inl ⟨branch, others, rfl, proxy.nextAwaiting?_shorter found⟩

namespace Container

structure Attended (start : Container) (team : Team) (number : Nat) (history : List Moment)
    (finish : Container) : Prop where
  run : Run (fun _ _ => False) start history finish
  turns : ∀ moment ∈ history, ∃ task, moment.before.tasks[number]? = some task ∧
    team.turn? number task.stage = some moment.step
  ended : ∃ task ending, finish.tasks[number]? = some task ∧ task.stage = .finished ending ∧
    ending ≠ .cancelled

def Ends (team : Team) (number : Nat) (container : Container) : Prop :=
  ∃ history finish, container.Attended team number history finish

/-- The task may set out at once. One that is handed to a pool gets a permit for it. -/
structure Ready (container : Container) (number : Nat) (task : Task) : Prop where
  found : container.tasks[number]? = some task
  goesOn : task.course ≠ .byHand
  turn : task.stage = .entered ∧ task.isPooled = false ∨
    task.stage = .submitted ∧ container.permitted number task (·.request number) = true ∨
    task.stage = .queued ∧ container.permitted number task id = true

variable {container : Container} {team : Team} {number : Nat} {task : Task}

theorem Ends.of_finished {ending : Ending} (found : container.tasks[number]? = some task)
    (finished : task.stage = .finished ending) (kept : ending ≠ .cancelled) :
    container.Ends team number := by
  refine ⟨[], container, .rest container, ?_, task, ending, found, finished, kept⟩
  intro moment taken
  cases taken

theorem step?_of_outcome? {step : Step} {outcome : Outcome}
    (found : container.tasks[number]? = some task) (about : step.task? = some number)
    (able : container.outcome? number task step = some outcome) :
    container.step? step = some (container.settle number task outcome, outcome.effects) := by
  rw [container.step?_of_task? about]
  exact taskStep?_of_outcome? found able

theorem Ends.of_outcome {step : Step} {outcome : Outcome}
    (found : container.tasks[number]? = some task)
    (turn : team.turn? number task.stage = some step) (about : step.task? = some number)
    (able : container.outcome? number task step = some outcome)
    (onward : ∀ {next : Container}, next.tasks[number]? = some (task.after outcome) →
      next.Ends team number) : container.Ends team number := by
  obtain ⟨history, finish, attended⟩ := onward (settle_tasks_self outcome found)
  refine ⟨_, finish, .step (step?_of_outcome? found about able) attended.run, ?_, attended.ended⟩
  intro moment taken
  rcases List.mem_cons.mp taken with rfl | later
  · exact ⟨task, found, turn⟩
  · exact attended.turns moment later

theorem Ends.of_responding {fault : DispatchError} (found : container.tasks[number]? = some task)
    (answers : task.stage = .responding fault) : container.Ends team number := by
  have able : container.outcome? number task (.respond number team.responder) =
      some (task.conclude number (endingOf team.responder)) := by
    simp only [outcome?, answers]
  apply Ends.of_outcome found (by rw [answers]; rfl) rfl able
  intro next located
  apply Ends.of_finished located rfl
  intro given
  rcases endingOf_cases team.responder with completed | ⟨message, panicked⟩
  · cases completed.symm.trans given
  · cases panicked.symm.trans given

theorem Ends.of_exit (fault : Option DispatchError) {outcome : Outcome}
    (found : container.tasks[number]? = some (task.after outcome))
    (exited : outcome.stage = (task.exit number fault).stage) : container.Ends team number := by
  rcases task.exit_stage number fault with completed | ⟨cause, answers | failed⟩
  · exact Ends.of_finished found (exited.trans completed) nofun
  · exact Ends.of_responding found (exited.trans answers)
  · exact Ends.of_finished found (exited.trans failed) nofun

theorem Ends.of_final {proxyNumber branch : Nat} (found : container.tasks[number]? = some task)
    (stage : task.stage = .forwarding (.final proxyNumber branch)) :
    container.Ends team number := by
  let leg : Leg := .final proxyNumber branch
  have able : container.outcome? number task (.forward number (team.branch leg)) =
      some (container.forwarded number task leg (team.branch leg)) := by
    simp only [outcome?, stage, leg]
  apply Ends.of_outcome found (by rw [stage]; rfl) rfl able
  intro next located
  unfold forwarded at located
  split at located
  · exact Ends.of_exit _ located rfl
  · exact Ends.of_exit _ located rfl

theorem forwarded_shorter (container : Container) (number : Nat) (task : Task)
    (proxyNumber branch : Nat) (others : List Nat) (conduct : Conduct) :
    let outcome := container.forwarded number task (.fanOut proxyNumber branch others) conduct
    (∃ next rest, outcome.stage = .forwarding (.fanOut proxyNumber next rest) ∧
        rest.length < others.length) ∨
      ∃ fault, outcome.stage = (task.exit number fault).stage := by
  intro outcome
  simp only [outcome, forwarded]
  split
  · exact Or.inr ⟨_, rfl⟩
  · rcases task.fanOut_shorter number
      (container.proxies.modify proxyNumber (·.setAwaits branch false)) proxyNumber others with
      ⟨next, rest, same, shorter⟩ | same
    · exact Or.inl ⟨next, rest, congrArg Outcome.stage same, shorter⟩
    · right
      exact ⟨none, by rw [same]⟩

theorem Ends.of_fanOut {proxyNumber branch : Nat} {others : List Nat}
    (found : container.tasks[number]? = some task)
    (stage : task.stage = .forwarding (.fanOut proxyNumber branch others)) :
    container.Ends team number := by
  -- Each branch leaves fewer to be looked at.
  induction size : others.length using Nat.strongRecOn generalizing container task branch others with
  | ind bound ih =>
      let leg : Leg := .fanOut proxyNumber branch others
      have able : container.outcome? number task (.forward number (team.branch leg)) =
          some (container.forwarded number task leg (team.branch leg)) := by
        simp only [outcome?, stage, leg]
      apply Ends.of_outcome found (by rw [stage]; rfl) rfl able
      intro next located
      rcases container.forwarded_shorter number task proxyNumber branch others (team.branch leg)
        with ⟨nextBranch, rest, onward, shorter⟩ | ⟨fault, exited⟩
      · exact ih rest.length (size ▸ shorter) located onward rfl
      · exact Ends.of_exit fault located exited

theorem Ends.of_forwarding {leg : Leg} (found : container.tasks[number]? = some task)
    (stage : task.stage = .forwarding leg) : container.Ends team number := by
  cases leg with
  | final => exact Ends.of_final found stage
  | fanOut => exact Ends.of_fanOut found stage

theorem Ends.of_serving {plan : Plan} (found : container.tasks[number]? = some task)
    (stage : task.stage = .serving plan) : container.Ends team number := by
  have able : container.outcome? number task (.serve number team.application) =
      some (container.served number task plan team.application) := by
    simp only [outcome?, stage]
  apply Ends.of_outcome found (by rw [stage]; rfl) rfl able
  intro next located
  rcases container.served_cases number task plan team.application with ⟨leg, same⟩ | ⟨fault, same⟩
  · exact Ends.of_forwarding located (congrArg Outcome.stage same)
  · exact Ends.of_exit fault located (congrArg Outcome.stage same)

theorem outcome?_of_turn (goesOn : task.course ≠ .byHand)
    (turn : task.stage = .entered ∨ task.stage = .submitted ∨
      task.stage = .queued ∧ container.permitted number task id = true) :
    container.outcome? number task (.start number) = some (container.start number task) := by
  simp only [Container.outcome?]
  cases course : task.course with
  | byHand => exact absurd course goesOn
  | dispatched | running =>
      rcases turn with stage | stage | ⟨stage, permitted⟩
      · rw [stage]
      · rw [stage]
      · rw [stage]
        exact if_pos permitted

theorem Ready.outcome? (ready : container.Ready number task) :
    container.outcome? number task (.start number) = some (container.start number task) := by
  apply outcome?_of_turn ready.goesOn
  rcases ready.turn with ⟨stage, _⟩ | ⟨stage, _⟩ | queued
  · exact Or.inl stage
  · exact Or.inr (Or.inl stage)
  · exact Or.inr (Or.inr queued)

theorem Ready.start_stage (ready : container.Ready number task) :
    (container.start number task).stage = (container.setOut number task).stage := by
  unfold start
  split
  · rename_i pooled
    rcases ready.turn with ⟨_, direct⟩ | ⟨stage, permitted⟩ | ⟨stage, permitted⟩
    · rw [pooled] at direct
      cases direct
    · simp only [stage, permitted, if_true]
    · simp only [stage, permitted, if_true, reduceCtorEq, if_false]
  · rfl

/-- A task that may set out comes to its end, whatever its team does. -/
theorem Ready.ends (ready : container.Ready number task) (team : Team) :
    container.Ends team number := by
  have turn : team.turn? number task.stage = some (.start number) := by
    rcases ready.turn with ⟨stage, _⟩ | ⟨stage, _⟩ | ⟨stage, _⟩ <;> rw [stage] <;> rfl
  apply Ends.of_outcome ready.found turn rfl ready.outcome?
  intro next located
  have begun := ready.start_stage
  rcases container.setOut_cases number task with ⟨plan, proxies, sets⟩ | lost
  · rw [sets] at begun
    exact Ends.of_serving located begun
  · rw [lost] at begun
    exact Ends.of_exit none located begun

/-! ### Coming in by hand -/

def attempt (container : Container) : List Step → List Moment × Container
  | [] => ([], container)
  | step :: rest =>
    match container.step? step with
    | none => container.attempt rest
    | some (next, effects) =>
      let (later, finish) := next.attempt rest
      ({ before := container, step, effects, after := next } :: later, finish)

def enterCall (number : Nat) : List Step :=
  [.lineUp number, .enter number]

/-- The steps of a task made by hand that is asked to come in some times and then left to run: it
comes in first if it has not. -/
def runCall (number calls : Nat) (answers : Bool) : List Step :=
  (List.replicate calls (enterCall number)).flatten ++ .run number answers :: enterCall number

theorem runCall_about (number calls : Nat) (answers : Bool) :
    ∀ step ∈ runCall number calls answers, step.task? = some number := by
  intro step member
  have enters : ∀ step ∈ enterCall number, step.task? = some number := by
    simp [enterCall, Step.task?]
  rcases List.mem_append.mp member with before | after
  · obtain ⟨call, replicated, within⟩ := List.mem_flatten.mp before
    rw [List.eq_of_mem_replicate replicated] at within
    exact enters step within
  · rcases List.mem_cons.mp after with rfl | within
    · rfl
    · exact enters step within

theorem attempt_none {step : Step} (rest : List Step) (blocked : container.step? step = none) :
    container.attempt (step :: rest) = container.attempt rest := by
  rw [attempt, blocked]

theorem attempt_some {step : Step} {next : Container} {effects : List Effect} (rest : List Step)
    (possible : container.step? step = some (next, effects)) :
    container.attempt (step :: rest) =
      ({ before := container, step, effects, after := next } :: (next.attempt rest).1,
        (next.attempt rest).2) := by
  rw [attempt, possible]

theorem attempt_append (container : Container) (early late : List Step) :
    container.attempt (early ++ late) =
      ((container.attempt early).1 ++ ((container.attempt early).2.attempt late).1,
        ((container.attempt early).2.attempt late).2) := by
  induction early generalizing container with
  | nil => rfl
  | cons step rest ih =>
      rw [List.cons_append]
      cases possible : container.step? step with
      | none => rw [attempt_none _ possible, attempt_none _ possible, ih]
      | some result => rw [attempt_some _ possible, attempt_some _ possible, ih, List.cons_append]

theorem attempt_run (interlude : Container → Container → Prop) (container : Container)
    (steps : List Step) :
    Run interlude container (container.attempt steps).1 (container.attempt steps).2 := by
  induction steps generalizing container with
  | nil => exact .rest container
  | cons step rest ih =>
      unfold attempt
      split
      · exact ih container
      · rename_i next effects possible
        exact .step possible (ih next)

theorem attempt_about {steps : List Step} (about : ∀ step ∈ steps, step.task? = some number) :
    ∀ moment ∈ (container.attempt steps).1, moment.step.task? = some number := by
  induction steps generalizing container with
  | nil =>
      intro moment taken
      cases taken
  | cons step rest ih =>
      have onward := fun later member => about later (List.mem_cons_of_mem _ member)
      unfold attempt
      split
      · exact ih onward
      · intro moment taken
        rcases List.mem_cons.mp taken with rfl | later
        · exact about step List.mem_cons_self
        · exact ih onward moment later

def Free (container : Container) (task : Task) : Prop :=
  ∀ gate, task.gate = some gate → (container.gates.gate gate).line = []

theorem step?_of_not_able {step : Step} (found : container.tasks[number]? = some task)
    (about : step.task? = some number) (unable : container.outcome? number task step = none) :
    container.step? step = none := by
  rw [container.step?_of_task? about]
  simp only [taskStep?, found, unable, Option.bind_eq_bind, Option.bind_some, Option.bind_none]

theorem attempt_enterCall (found : container.tasks[number]? = some task)
    (created : task.stage = .created) (direct : task.isPooled = false)
    (free : container.Free task) :
    (container.attempt (enterCall number)).2.tasks[number]? =
        some { task with stage := .entered } ∧
      ∃ moment ∈ (container.attempt (enterCall number)).1, moment.step = .enter number := by
  have lines : container.outcome? number task (.lineUp number) = some task.lineUp := by
    simp only [outcome?, created, if_true]
  let lined := container.settle number task task.lineUp
  let waiting := task.after task.lineUp
  have located : lined.tasks[number]? = some waiting := settle_tasks_self task.lineUp found
  have admitted : lined.admits number waiting = true := by
    apply admits_of_holder?
    intro gate gated
    have moved : lined.gates.gate gate = (container.gates.gate gate).enter (.task number) := by
      simp only [lined, settle, GateBoard.gate_move]
      exact if_pos gated
    simp only [moved, Gate.holder?, Gate.line_enter, free gate gated, List.nil_append,
      List.head?_cons]
  have enters : lined.outcome? number waiting (.enter number) = some waiting.enter :=
    if_pos ⟨rfl, admitted⟩
  rw [enterCall, attempt_some _ (step?_of_outcome? found rfl lines),
    attempt_some _ (step?_of_outcome? located rfl enters)]
  constructor
  · have entered : waiting.after waiting.enter = { task with stage := .entered } := by
      have unpooled : waiting.isPooled = false := direct
      simp only [Task.after, Task.enter, unpooled, Bool.false_eq_true, if_false]
      rfl
    rw [← entered]
    exact settle_tasks_self waiting.enter located
  · exact ⟨_, List.mem_cons_of_mem _ List.mem_cons_self, rfl⟩

theorem attempt_enterCall_of_entered (found : container.tasks[number]? = some task)
    (entered : task.stage = .entered) : container.attempt (enterCall number) = ([], container) := by
  have lines : container.outcome? number task (.lineUp number) = none := by
    simp only [outcome?, entered, reduceCtorEq, if_false]
  have enters : container.outcome? number task (.enter number) = none := by
    simp only [outcome?, entered, reduceCtorEq, false_and, if_false]
  rw [enterCall, attempt_none _ (step?_of_not_able found rfl lines),
    attempt_none _ (step?_of_not_able found rfl enters)]
  rfl

theorem attempt_enterCalls_of_entered (calls : Nat) (found : container.tasks[number]? = some task)
    (entered : task.stage = .entered) :
    container.attempt (List.replicate calls (enterCall number)).flatten = ([], container) := by
  induction calls with
  | zero => rfl
  | succ calls ih =>
      rw [List.replicate_succ, List.flatten_cons, attempt_append,
        attempt_enterCall_of_entered found entered, ih]
      rfl

private theorem attempt_run_byHand (answers : Bool) (rest : List Step)
    (found : container.tasks[number]? = some task) (byHand : task.course = .byHand)
    (idle : task.stage = .created ∨ task.stage = .entered) :
    ∃ next effects, next.gates = container.gates ∧
      next.tasks[number]? = some { task with course := .running answers } ∧
      container.attempt (.run number answers :: rest) =
        ({ before := container, step := .run number answers, effects, after := next } ::
          (next.attempt rest).1, (next.attempt rest).2) := by
  let outcome : Outcome := { course := .running answers, stage := task.stage }
  have able : container.outcome? number task (.run number answers) = some outcome :=
    if_pos ⟨byHand, idle⟩
  exact ⟨container.settle number task outcome, outcome.effects, rfl,
    settle_tasks_self outcome found, attempt_some rest (step?_of_outcome? found rfl able)⟩

theorem attempt_runCall (calls : Nat) (answers : Bool)
    (found : container.tasks[number]? = some task) (byHand : task.course = .byHand)
    (created : task.stage = .created) (free : container.Free task) :
    (container.attempt (runCall number calls answers)).2.Ready number
        { task with course := .running answers, stage := .entered } ∧
      ∃ moment ∈ (container.attempt (runCall number calls answers)).1,
        moment.step = .enter number := by
  have ready {next : Container} (located : next.tasks[number]? =
      some { task with course := .running answers, stage := .entered }) :
      next.Ready number { task with course := .running answers, stage := .entered } :=
    ⟨located, nofun, Or.inl ⟨rfl, rfl⟩⟩
  cases calls with
  | zero =>
      obtain ⟨next, effects, gates, located, begun⟩ :=
        attempt_run_byHand answers (enterCall number) found byHand (Or.inl created)
      have stillFree : next.Free { task with course := .running answers } := by
        intro gate gated
        rw [gates]
        exact free gate gated
      obtain ⟨entered, moment, taken, enters⟩ :=
        attempt_enterCall located created rfl stillFree
      have same : runCall number 0 answers = .run number answers :: enterCall number := rfl
      rw [same, begun]
      exact ⟨ready entered, moment, List.mem_cons_of_mem _ taken, enters⟩
  | succ calls =>
      have direct : task.isPooled = false := by simp only [Task.isPooled, byHand]; rfl
      obtain ⟨entered, moment, taken, enters⟩ := attempt_enterCall found created direct free
      obtain ⟨next, effects, _, located, begun⟩ :=
        attempt_run_byHand answers (enterCall number) entered byHand (Or.inr rfl)
      have same : runCall number (calls + 1) answers = enterCall number ++
          ((List.replicate calls (enterCall number)).flatten ++
            .run number answers :: enterCall number) := by
        rw [runCall, List.replicate_succ, List.flatten_cons, List.append_assoc]
      rw [same, attempt_append, attempt_append, attempt_enterCalls_of_entered calls entered rfl,
        begun, attempt_enterCall_of_entered located rfl]
      exact ⟨ready located, moment, List.mem_append_left _ taken, enters⟩

end Container

end SipContainer

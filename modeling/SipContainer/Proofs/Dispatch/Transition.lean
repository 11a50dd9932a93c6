import SipContainer.Dispatch.Step
/-!
The state diagram of a task. Every step of a task is one of a few transitions between stages, and
each transition says what it does to the line of the gate, to the dialog and to the outside world.
Later modules argue from the diagram and do not look into the steps again.
-/

namespace SipContainer

namespace Stage

def isInLine : Stage → Bool
  | waiting => true
  | stage => stage.isInside

/-- The task has come in, and the application has not got its request. -/
def isAhead : Stage → Bool
  | entered | submitted | queued => true
  | _ => false

def handBack? (number : Nat) (conduct : Conduct) : Stage → Option Step
  | serving _ => some (.serve number conduct)
  | forwarding _ => some (.forward number conduct)
  | _ => none

theorem isInside_of_isAhead {stage : Stage} (ahead : stage.isAhead = true) :
    stage.isInside = true := by
  cases stage <;> first | rfl | cases ahead

theorem isInside_of_handBack? {stage : Stage} {number : Nat} {conduct : Conduct} {step : Step}
    (returned : stage.handBack? number conduct = some step) : stage.isInside = true := by
  cases stage <;> first | rfl | cases returned

theorem task?_of_handBack? {stage : Stage} {number : Nat} {conduct : Conduct} {step : Step}
    (returned : stage.handBack? number conduct = some step) : step.task? = some number := by
  unfold handBack? at returned
  split at returned
  · rw [← Option.some.inj returned]; rfl
  · rw [← Option.some.inj returned]; rfl
  · cases returned

theorem isInLine_of_isInside {stage : Stage} (inside : stage.isInside = true) :
    stage.isInLine = true := by
  cases stage <;> first | rfl | cases inside

theorem isInLine_iff (stage : Stage) :
    stage.isInLine = true ↔ stage = .waiting ∨ stage.isInside = true := by
  cases stage <;> simp [isInLine, isInside]

end Stage

/-- A transition of a task, with the step that brings it about and what the step comes down to. -/
inductive Container.Transition (container : Container) (number : Nat) (task : Task) :
    Step → Outcome → Prop
  | lineUp (created : task.stage = .created) :
      Transition container number task (.lineUp number) task.lineUp
  | enter (waits : task.stage = .waiting) (admitted : container.admits number task = true) :
      Transition container number task (.enter number) task.enter
  | giveUp (waits : task.stage = .waiting) (refused : container.admits number task = false)
      (bounded : task.course = .byHand ∨ task.timeout.isSome = true) :
      Transition container number task (.giveUp number)
        (task.giveUp number (container.gateTimeout task))
  | run (answers : Bool) (byHand : task.course = .byHand)
      (idle : task.stage = .created ∨ task.stage = .entered) :
      Transition container number task (.run number answers)
        { course := .running answers, stage := task.stage }
  | queue (pool : Pool → Pool) (ahead : task.stage.isAhead = true) :
      Transition container number task (.start number) { task.reach .queued with pool }
  | serve (plan : Plan) (proxies : List Proxy → List Proxy) (pool : Pool → Pool)
      (ahead : task.stage.isAhead = true) :
      Transition container number task (.start number)
        { task.serve number plan with proxies, pool }
  /-- Nobody is there to take the request. -/
  | lose (pool : Pool → Pool) (ahead : task.stage.isAhead = true) :
      Transition container number task (.start number)
        { task.exit number none with
          dialog := endSubscription task.request ∘ beginSubscription task.request, pool }
  | forward (conduct : Conduct) (leg : Leg) (proxies : List Proxy → List Proxy) {step : Step}
      (returned : task.stage.handBack? number conduct = some step) :
      Transition container number task step { task.forward number leg with proxies }
  | exit (conduct : Conduct) (fault : Option DispatchError) (proxies : List Proxy → List Proxy)
      {step : Step} (returned : task.stage.handBack? number conduct = some step) :
      Transition container number task step { task.exit number fault with proxies }
  | respond (fault : DispatchError) (conduct : Conduct) (answers : task.stage = .responding fault) :
      Transition container number task (.respond number conduct)
        (task.conclude number (endingOf conduct))
  | cancel (unfinished : task.stage.isFinished = false) :
      Transition container number task (.cancel number) (task.cancel number)

namespace Task

@[simp] theorem exit_proxies (number : Nat) (task : Task) (fault : Option DispatchError) :
    (task.exit number fault).proxies = id := by
  cases fault with
  | none => rfl
  | some fault =>
      simp only [exit, fail, conclude, reach]
      split <;> rfl

theorem fanOut_cases (number : Nat) (task : Task) (proxies : List Proxy) (proxyNumber : Nat)
    (branches : List Nat) :
    (∃ leg, task.fanOut number proxies proxyNumber branches = task.forward number leg) ∨
      task.fanOut number proxies proxyNumber branches = task.exit number none := by
  unfold fanOut
  split
  · exact Or.inr rfl
  · exact Or.inl ⟨_, rfl⟩

end Task

namespace Container

variable {container : Container} {number : Nat} {task : Task}

theorem setOut_cases (container : Container) (number : Nat) (task : Task) :
    (∃ plan proxies, container.setOut number task = { task.serve number plan with proxies }) ∨
      container.setOut number task =
        { task.exit number none with
          dialog := endSubscription task.request ∘ beginSubscription task.request } := by
  unfold setOut
  split
  · exact Or.inl ⟨_, _, rfl⟩
  · split
    · exact Or.inl ⟨_, _, rfl⟩
    · split
      · exact Or.inl ⟨_, _, rfl⟩
      · exact Or.inr rfl

theorem served_cases (container : Container) (number : Nat) (task : Task) (plan : Plan)
    (conduct : Conduct) :
    (∃ leg, container.served number task plan conduct = task.forward number leg) ∨
      ∃ fault, container.served number task plan conduct = task.exit number fault := by
  unfold served
  split
  · exact Or.inr ⟨_, rfl⟩
  · split
    · exact Or.inr ⟨_, rfl⟩
    · exact Or.inl ⟨_, rfl⟩
    · exact (task.fanOut_cases number _ _ _).imp id (fun same => ⟨none, same⟩)

theorem forwarded_cases (container : Container) (number : Nat) (task : Task) (leg : Leg)
    (conduct : Conduct) :
    (∃ next proxies, container.forwarded number task leg conduct =
        { task.forward number next with proxies }) ∨
      ∃ fault proxies, container.forwarded number task leg conduct =
        { task.exit number fault with proxies } := by
  unfold forwarded
  split
  · exact Or.inr ⟨_, id, by rw [← Task.exit_proxies]⟩
  · cases leg with
    | final proxyNumber branch => exact Or.inr ⟨none, id, by rw [← Task.exit_proxies]⟩
    | fanOut proxyNumber branch others =>
        let proxies : List Proxy → List Proxy := (·.modify proxyNumber (·.setAwaits branch false))
        rcases task.fanOut_cases number (proxies container.proxies) proxyNumber others with
          ⟨next, same⟩ | same
        · exact Or.inl ⟨next, proxies, by rw [← same]⟩
        · exact Or.inr ⟨none, proxies, by rw [← same]⟩

theorem start_cases (container : Container) (number : Nat) (task : Task) :
    (∃ pool, container.start number task = { task.reach .queued with pool }) ∨
      ∃ pool, container.start number task = { container.setOut number task with pool } := by
  by_cases pooled : task.isPooled = true
  · simp only [start, if_pos pooled]
    by_cases permitted : container.permitted number task
        (if task.stage = .submitted then (·.request number) else id) = true
    · rw [if_pos permitted]
      exact Or.inr ⟨_, rfl⟩
    · rw [if_neg permitted]
      exact Or.inl ⟨_, rfl⟩
  · simp only [start, if_neg pooled]
    exact Or.inr ⟨_, rfl⟩

theorem transition_of_start (number : Nat) (task : Task) (ahead : task.stage.isAhead = true) :
    container.Transition number task (.start number) (container.start number task) := by
  rcases container.start_cases number task with ⟨pool, same⟩ | ⟨pool, same⟩
  · rw [same]
    exact .queue pool ahead
  · rw [same]
    rcases container.setOut_cases number task with ⟨plan, proxies, sets⟩ | lost
    · rw [sets]
      exact .serve plan proxies pool ahead
    · rw [lost]
      exact .lose pool ahead

theorem transition_of_outcome? {step : Step} {outcome : Outcome}
    (about : step.task? = some number)
    (possible : container.outcome? number task step = some outcome) :
    container.Transition number task step outcome := by
  cases step with
  | lineUp other =>
      obtain rfl : other = number := Option.some.inj about
      simp only [outcome?] at possible
      split at possible
      · rename_i created
        obtain rfl := Option.some.inj possible
        exact .lineUp created
      · cases possible
  | enter other =>
      obtain rfl : other = number := Option.some.inj about
      simp only [outcome?] at possible
      split at possible
      · rename_i able
        obtain rfl := Option.some.inj possible
        exact .enter able.1 able.2
      · cases possible
  | giveUp other =>
      obtain rfl : other = number := Option.some.inj about
      simp only [outcome?] at possible
      split at possible
      · rename_i able
        obtain rfl := Option.some.inj possible
        exact .giveUp able.1 (Bool.eq_false_iff.mpr able.2.1) able.2.2
      · cases possible
  | run other answers =>
      obtain rfl : other = number := Option.some.inj about
      simp only [outcome?] at possible
      split at possible
      · rename_i able
        obtain rfl := Option.some.inj possible
        exact .run answers able.1 able.2
      · cases possible
  | start other =>
      obtain rfl : other = number := Option.some.inj about
      have begun : task.stage.isAhead = true ∧ container.start other task = outcome := by
        simp only [outcome?] at possible
        split at possible
        · cases possible
        · rename_i entered _notByHand
          exact ⟨by rw [entered]; rfl, Option.some.inj possible⟩
        · rename_i submitted _notByHand
          exact ⟨by rw [submitted]; rfl, Option.some.inj possible⟩
        · rename_i queued _notByHand
          split at possible
          · exact ⟨by rw [queued]; rfl, Option.some.inj possible⟩
          · cases possible
        · cases possible
      rw [← begun.2]
      exact transition_of_start other task begun.1
  | serve other conduct =>
      obtain rfl : other = number := Option.some.inj about
      simp only [outcome?] at possible
      split at possible
      · rename_i plan serving
        obtain rfl := Option.some.inj possible
        have returned : task.stage.handBack? other conduct = some (.serve other conduct) := by
          rw [serving]; rfl
        rcases container.served_cases other task plan conduct with ⟨leg, same⟩ | ⟨fault, same⟩
        · rw [same]
          exact .forward conduct leg id returned
        · rw [same, show task.exit other fault = { task.exit other fault with proxies := id } by
            rw [← Task.exit_proxies]]
          exact .exit conduct fault id returned
      · cases possible
  | forward other conduct =>
      obtain rfl : other = number := Option.some.inj about
      simp only [outcome?] at possible
      split at possible
      · rename_i leg forwarding
        obtain rfl := Option.some.inj possible
        have returned : task.stage.handBack? other conduct = some (.forward other conduct) := by
          rw [forwarding]; rfl
        rcases container.forwarded_cases other task leg conduct with
          ⟨next, proxies, same⟩ | ⟨fault, proxies, same⟩
        · rw [same]
          exact .forward conduct next proxies returned
        · rw [same]
          exact .exit conduct fault proxies returned
      · cases possible
  | respond other conduct =>
      obtain rfl : other = number := Option.some.inj about
      simp only [outcome?] at possible
      split at possible
      · rename_i fault answers
        obtain rfl := Option.some.inj possible
        exact .respond fault conduct answers
      · cases possible
  | cancel other =>
      obtain rfl : other = number := Option.some.inj about
      simp only [outcome?] at possible
      split at possible
      · cases possible
      · rename_i unfinished
        obtain rfl := Option.some.inj possible
        exact .cancel (Bool.eq_false_iff.mpr unfinished)
  | call | relay | hold | release => cases about

end Container

/-! ### Stages that are out of line -/

namespace Task

variable (number : Nat) (task : Task)

theorem fail_stage (fault : DispatchError) :
    (task.fail number fault).stage = .responding fault ∨
      (task.fail number fault).stage = .finished (.failed fault) := by
  unfold fail
  split
  · exact Or.inl rfl
  · exact Or.inr rfl

theorem exit_stage (fault : Option DispatchError) :
    (task.exit number fault).stage = .finished .completed ∨
      ∃ cause, (task.exit number fault).stage = .responding cause ∨
        (task.exit number fault).stage = .finished (.failed cause) := by
  cases fault with
  | none => exact Or.inl rfl
  | some cause => exact Or.inr ⟨cause, task.fail_stage number cause⟩

theorem exit_isInLine (fault : Option DispatchError) :
    (task.exit number fault).stage.isInLine = false := by
  rcases task.exit_stage number fault with completed | ⟨cause, answers | failed⟩
  · rw [completed]; rfl
  · rw [answers]; rfl
  · rw [failed]; rfl

theorem exit_ne_created (fault : Option DispatchError) :
    (task.exit number fault).stage ≠ .created := by
  rcases task.exit_stage number fault with completed | ⟨cause, answers | failed⟩
  · rw [completed]; exact nofun
  · rw [answers]; exact nofun
  · rw [failed]; exact nofun

theorem giveUp_isInLine (fault : DispatchError) :
    (task.giveUp number fault).stage.isInLine = false := by
  unfold giveUp
  split
  · rfl
  · rfl
  · rcases task.fail_stage number fault with answers | failed
    · rw [answers]; rfl
    · rw [failed]; rfl

theorem cancel_stage : ∃ ending, (task.cancel number).stage = .finished ending := by
  unfold cancel
  split <;> exact ⟨_, rfl⟩

theorem cancel_isInLine : (task.cancel number).stage.isInLine = false := by
  obtain ⟨ending, ended⟩ := task.cancel_stage number
  rw [ended]
  rfl

theorem enter_isAhead : task.enter.stage.isAhead = true := by
  simp only [enter, reach]
  split <;> rfl

theorem enter_isInside : task.enter.stage.isInside = true :=
  Stage.isInside_of_isAhead task.enter_isAhead

@[simp] theorem cancel_dialog : (task.cancel number).dialog = id := by
  unfold cancel
  split <;> rfl

@[simp] theorem fail_dialog (fault : DispatchError) : (task.fail number fault).dialog = id := by
  unfold fail
  split <;> rfl

@[simp] theorem giveUp_dialog (fault : DispatchError) : (task.giveUp number fault).dialog = id := by
  unfold giveUp
  split
  · rfl
  · rfl
  · exact task.fail_dialog number fault

theorem fail_effects (fault : DispatchError) {effect : Effect}
    (seen : effect ∈ (task.fail number fault).effects) :
    effect = .responded number fault ∧ (task.fail number fault).stage = .responding fault := by
  unfold fail at seen ⊢
  split at seen
  · rename_i answers
    rw [if_pos answers]
    exact ⟨List.mem_singleton.mp seen, rfl⟩
  · cases seen

theorem exit_effects (fault : Option DispatchError) {effect : Effect}
    (seen : effect ∈ (task.exit number fault).effects) :
    ∃ cause, effect = .responded number cause ∧
      (task.exit number fault).stage = .responding cause := by
  cases fault with
  | none => cases seen
  | some cause => exact ⟨cause, task.fail_effects number cause seen⟩

theorem giveUp_effects (fault : DispatchError) {effect : Effect}
    (seen : effect ∈ (task.giveUp number fault).effects) :
    effect = .responded number fault ∧ (task.giveUp number fault).stage = .responding fault := by
  unfold giveUp at seen ⊢
  split at seen
  · cases seen
  · cases seen
  · exact task.fail_effects number fault seen

theorem fail_effects_cases (fault : DispatchError) : (task.fail number fault).effects = [] ∨
    ∃ effect, (task.fail number fault).effects = [effect] := by
  unfold fail
  split
  · exact Or.inr ⟨_, rfl⟩
  · exact Or.inl rfl

theorem exit_effects_cases (fault : Option DispatchError) :
    (task.exit number fault).effects = [] ∨
      ∃ effect, (task.exit number fault).effects = [effect] := by
  cases fault with
  | none => exact Or.inl rfl
  | some cause => exact task.fail_effects_cases number cause

theorem giveUp_effects_cases (fault : DispatchError) : (task.giveUp number fault).effects = [] ∨
    ∃ effect, (task.giveUp number fault).effects = [effect] := by
  unfold giveUp
  split
  · exact Or.inl rfl
  · exact Or.inl rfl
  · exact task.fail_effects_cases number fault

theorem fail_course (fault : DispatchError) : (task.fail number fault).course = task.course := by
  unfold fail
  split <;> rfl

theorem exit_course (fault : Option DispatchError) :
    (task.exit number fault).course = task.course := by
  cases fault with
  | none => rfl
  | some cause => exact task.fail_course number cause

theorem giveUp_course (fault : DispatchError) :
    (task.giveUp number fault).course = task.course := by
  unfold giveUp
  split
  · rfl
  · rfl
  · exact task.fail_course number fault

theorem cancel_course : (task.cancel number).course = task.course := by
  unfold cancel
  split <;> rfl

@[simp] theorem cancel_effects : (task.cancel number).effects = [] := by
  unfold cancel
  split <;> rfl

end Task

theorem bookIn_sequence (request : Request) (dialog : Dialog) :
    (bookIn request dialog).sequence = dialog.sequence := by
  simp [bookIn]

theorem beginSubscription_sequence (request : Request) (dialog : Dialog) :
    (beginSubscription request dialog).sequence = dialog.sequence := by
  simp only [beginSubscription]
  split
  · exact dialog.sequence_subscribe request
  · rfl

theorem endSubscription_sequence (request : Request) (dialog : Dialog) :
    (endSubscription request dialog).sequence = dialog.sequence := by
  unfold endSubscription
  split
  · exact dialog.sequence_unsubscribe request
  · rfl

/-! ### At the gate -/

inductive Passage
  | comes (task : Nat)
  | enters (task : Nat)
  | goes (task : Nat)
deriving DecidableEq

def Task.passage? (number : Nat) (task : Task) : Step → Option Passage
  | .lineUp _ => some (.comes number)
  | .enter _ => some (.enters number)
  | .giveUp _ => some (.goes number)
  | .cancel _ => if task.stage = .waiting then some (.goes number) else none
  | _ => none

theorem Task.passage?_of_handBack? {number : Nat} {task : Task} {conduct : Conduct} {step : Step}
    (returned : task.stage.handBack? number conduct = some step) :
    task.passage? number step = none := by
  unfold Stage.handBack? at returned
  split at returned
  · obtain rfl := Option.some.inj returned
    rfl
  · obtain rfl := Option.some.inj returned
    rfl
  · cases returned

/-- How a passage goes together with the stages before and after it and with the move in the line.
A task is admitted when it stands first. -/
inductive Crossing (number : Nat) (admitted : Bool) :
    Stage → Stage → LineMove → Option Passage → Prop
  | comes : Crossing number admitted .created .waiting .join (some (.comes number))
  | enters {stage : Stage} (first : admitted = true) (inside : stage.isInside = true) :
      Crossing number admitted .waiting stage .stay (some (.enters number))
  | goes {stage : Stage} (out : stage.isInLine = false) :
      Crossing number admitted .waiting stage .quit (some (.goes number))
  | stays {before after : Stage} (past : before ≠ .waiting) (present : after ≠ .waiting)
      (same : after.isInside = before.isInside) :
      Crossing number admitted before after .stay none
  | leaves {before after : Stage} (past : before ≠ .waiting) (out : after.isInLine = false) :
      Crossing number admitted before after .quit none

theorem Crossing.stay_of_isInside {number : Nat} {admitted : Bool} {before after : Stage}
    {move : LineMove} {passage : Option Passage}
    (crossing : Crossing number admitted before after move passage)
    (inside : after.isInside = true) :
    move = .stay ∧ (admitted = true ∨ before.isInside = true) := by
  cases crossing with
  | comes => cases inside
  | enters first => exact ⟨rfl, Or.inl first⟩
  | stays past present same => exact ⟨rfl, Or.inr (same ▸ inside)⟩
  | goes out | leaves past out =>
      rw [Stage.isInLine_of_isInside inside] at out
      cases out

theorem Stage.ne_waiting_of_isInside {stage : Stage} (inside : stage.isInside = true) :
    stage ≠ .waiting := by
  rintro rfl
  cases inside

theorem endingOf_cases (conduct : Conduct) :
    endingOf conduct = .completed ∨ ∃ message, endingOf conduct = .panicked message := by
  cases conduct with
  | success | failure => exact Or.inl rfl
  | panic message => exact Or.inr ⟨message, rfl⟩

namespace Container.Transition

variable {container : Container} {number : Nat} {task : Task} {step : Step} {outcome : Outcome}

theorem crossing (transition : container.Transition number task step outcome) :
    Crossing number (container.admits number task) task.stage outcome.stage outcome.line
      (task.passage? number step) := by
  cases transition with
  | lineUp created =>
      rw [created]
      exact .comes
  | enter waits admitted =>
      rw [waits]
      exact .enters admitted task.enter_isInside
  | giveUp waits _ _ =>
      rw [waits]
      exact .goes (task.giveUp_isInLine number _)
  | run answers _ idle =>
      refine .stays ?_ ?_ rfl <;> rcases idle with created | entered <;> simp [*]
  | queue pool ahead =>
      have inside := Stage.isInside_of_isAhead ahead
      exact .stays (Stage.ne_waiting_of_isInside inside) nofun inside.symm
  | serve plan proxies pool ahead =>
      have inside := Stage.isInside_of_isAhead ahead
      exact .stays (Stage.ne_waiting_of_isInside inside) nofun inside.symm
  | lose pool ahead =>
      have inside := Stage.isInside_of_isAhead ahead
      exact .leaves (Stage.ne_waiting_of_isInside inside) rfl
  | forward conduct leg proxies returned =>
      have inside := Stage.isInside_of_handBack? returned
      rw [Task.passage?_of_handBack? returned]
      exact .stays (Stage.ne_waiting_of_isInside inside) nofun inside.symm
  | exit conduct fault proxies returned =>
      have inside := Stage.isInside_of_handBack? returned
      rw [Task.passage?_of_handBack? returned]
      exact .leaves (Stage.ne_waiting_of_isInside inside) (task.exit_isInLine number fault)
  | respond fault conduct answers =>
      rw [answers]
      exact .stays nofun nofun rfl
  | cancel unfinished =>
      have out := task.cancel_isInLine number
      by_cases waits : task.stage = .waiting
      · simp only [Task.passage?, waits, if_true]
        exact .goes out
      · simp only [Task.passage?, if_neg waits]
        exact .leaves waits out

theorem about (transition : container.Transition number task step outcome) :
    step.task? = some number := by
  cases transition with
  | forward _ _ _ returned | exit _ _ _ returned => exact Stage.task?_of_handBack? returned
  | _ => rfl

theorem of_enter (transition : container.Transition number task (.enter number) outcome) :
    task.stage = .waiting ∧ container.admits number task = true ∧ outcome = task.enter := by
  cases transition with
  | enter waits admitted => exact ⟨waits, admitted, rfl⟩
  | forward _ _ _ returned | exit _ _ _ returned =>
      have none := Task.passage?_of_handBack? returned
      cases none

theorem dispatched_iff (transition : container.Transition number task step outcome)
    (execution : Execution) :
    outcome.course = .dispatched execution ↔ task.course = .dispatched execution := by
  cases transition with
  | lineUp | enter | queue | serve | forward | respond => rfl
  | run answers byHand => simp [byHand]
  | giveUp => rw [task.giveUp_course number]
  | lose => rw [show _ = task.course from task.exit_course number none]
  | exit conduct fault => rw [show _ = task.course from task.exit_course number fault]
  | cancel => rw [task.cancel_course number]

theorem ne_created (transition : container.Transition number task step outcome)
    {execution : Execution} (lined : task.stage ≠ .created)
    (dispatched : task.course = .dispatched execution) : outcome.stage ≠ .created := by
  cases transition with
  | lineUp created => exact absurd created lined
  | enter =>
      intro created
      have inside := task.enter_isInside
      rw [created] at inside
      cases inside
  | giveUp => simp [Task.giveUp, dispatched, Task.reach]
  | run => exact lined
  | queue | serve | forward | respond => exact nofun
  | lose => exact task.exit_ne_created number none
  | exit conduct fault => exact task.exit_ne_created number fault
  | cancel =>
      obtain ⟨ending, ended⟩ := task.cancel_stage number
      rw [ended]
      exact nofun

theorem dialog_eq_id (transition : container.Transition number task step outcome)
    (outside : task.stage.isInside = false) (stays : step ≠ .enter number) :
    outcome.dialog = id := by
  cases transition with
  | lineUp | run | respond => rfl
  | enter => exact absurd rfl stays
  | giveUp => exact task.giveUp_dialog number _
  | queue pool ahead | serve plan proxies pool ahead | lose pool ahead =>
      rw [Stage.isInside_of_isAhead ahead] at outside
      cases outside
  | forward conduct leg proxies returned | exit conduct fault proxies returned =>
      rw [Stage.isInside_of_handBack? returned] at outside
      cases outside
  | cancel => exact task.cancel_dialog number

/-- Whatever is seen of a task is its own. A request is served, forwarded and answered in this
order, each from the stage before it. -/
theorem seen (transition : container.Transition number task step outcome) {effect : Effect}
    (shown : effect ∈ outcome.effects) :
    (effect = .served number ∧ task.stage.isAhead = true ∧ outcome.stage.isAhead = false) ∨
      (∃ leg, effect = .forwarded number leg ∧ outcome.stage = .forwarding leg) ∨
      ∃ fault, effect = .responded number fault ∧ outcome.stage = .responding fault := by
  cases transition with
  | lineUp | enter | run | queue | respond => cases shown
  | giveUp => exact Or.inr (Or.inr ⟨_, task.giveUp_effects number _ shown⟩)
  | serve plan proxies pool ahead => exact Or.inl ⟨List.mem_singleton.mp shown, ahead, rfl⟩
  | lose => exact Or.inr (Or.inr (task.exit_effects number none shown))
  | forward conduct leg => exact Or.inr (Or.inl ⟨leg, List.mem_singleton.mp shown, rfl⟩)
  | exit conduct fault => exact Or.inr (Or.inr (task.exit_effects number fault shown))
  | cancel =>
      rw [task.cancel_effects] at shown
      cases shown

theorem dialog_sequence (transition : container.Transition number task step outcome)
    (dialog : Dialog) : (outcome.dialog dialog).sequence = dialog.sequence := by
  cases transition with
  | lineUp | run | queue | forward | respond => rfl
  | enter => exact bookIn_sequence task.request dialog
  | giveUp => rw [task.giveUp_dialog number _]; rfl
  | serve => exact beginSubscription_sequence task.request dialog
  | lose =>
      exact (endSubscription_sequence task.request _).trans
        (beginSubscription_sequence task.request dialog)
  | exit conduct fault => exact endSubscription_sequence task.request dialog
  | cancel => rw [task.cancel_dialog number]; rfl

theorem isInside (transition : container.Transition number task step outcome)
    (inside : outcome.stage.isInside = true) :
    task.stage.isInside = true ∨ step = .enter number := by
  have notOut := Stage.isInLine_of_isInside inside
  cases transition with
  | lineUp | respond => cases inside
  | enter => exact Or.inr rfl
  | giveUp => rw [task.giveUp_isInLine number] at notOut; cases notOut
  | run => exact Or.inl inside
  | queue _ ahead | serve _ _ _ ahead | lose _ ahead =>
      exact Or.inl (Stage.isInside_of_isAhead ahead)
  | forward _ _ _ returned | exit _ _ _ returned =>
      exact Or.inl (Stage.isInside_of_handBack? returned)
  | cancel => rw [task.cancel_isInLine number] at notOut; cases notOut

theorem effects_cases (transition : container.Transition number task step outcome) :
    outcome.effects = [] ∨ ∃ effect, outcome.effects = [effect] := by
  cases transition with
  | lineUp | enter | run | queue | respond | lose => exact Or.inl rfl
  | giveUp => exact task.giveUp_effects_cases number _
  | serve | forward => exact Or.inr ⟨_, rfl⟩
  | exit conduct fault => exact task.exit_effects_cases number fault
  | cancel => exact Or.inl (task.cancel_effects number)

theorem isAhead (transition : container.Transition number task step outcome)
    (ahead : outcome.stage.isAhead = true) :
    task.stage.isAhead = true ∨ step = .enter number := by
  have notOut : outcome.stage.isInLine = true :=
    Stage.isInLine_of_isInside (Stage.isInside_of_isAhead ahead)
  cases transition with
  | lineUp => cases ahead
  | enter => exact Or.inr rfl
  | giveUp => rw [task.giveUp_isInLine number] at notOut; cases notOut
  | run | queue => exact Or.inl (by assumption)
  | serve | forward | respond => cases ahead
  | lose => rw [show _ = false from task.exit_isInLine number none] at notOut; cases notOut
  | exit conduct fault => rw [show _ = false from task.exit_isInLine number fault] at notOut; cases notOut
  | cancel => rw [task.cancel_isInLine number] at notOut; cases notOut

end Container.Transition

end SipContainer

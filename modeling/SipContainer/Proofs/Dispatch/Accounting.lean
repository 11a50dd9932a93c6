import SipContainer.Proofs.Dispatch.GateTimeout
import SipContainer.Proofs.Dispatch.Handling
/-!
What a call does, from its request to its result and on to the end of its task. A call that relays
its request sends it once and does nothing else; one that hands it to an application does so once,
and answers with an error if and only if the application or a branch failed. Whatever comes of a
call, it leaves the entries of the session store alone.

The account of a call is kept step by step, whatever other calls and tasks do in between.
-/

namespace SipContainer

/-! ### Calls and their part in a run -/

def CallResult.task? : CallResult → Option Nat
  | direct number | pooled number => some number
  | _ => none

def CallResult.IsRelay (result : CallResult) : Prop :=
  result = .relayed ∨ ∃ message cause, result = .refused (.transport message cause)

def CallResult.IsTimeout (result : CallResult) : Prop :=
  ∃ session timeout, result = .refused (.gateTimeout session timeout)

/-- A step belongs to a call: it is the call itself, the relaying of its request, or a step of the
task that the call has made. -/
def Container.takenFor (container : Container) (call : Nat) (step : Step) : Bool :=
  match step, step.task? with
  | .call _, _ => container.calls.length == call
  | .relay other _, _ => other == call
  | _, some number => (container.calls[call]?).any (fun made => made.progress == .underway number)
  | _, none => false

def dealings (call : Nat) (history : List Moment) : List Moment :=
  history.filter (fun moment => moment.before.takenFor call moment.step)

/-- A call has returned, and the task that it made has come to its end without having been given up
from outside. -/
structure Container.Concluded (container : Container) (call : Nat) (request : Request)
    (result : CallResult) : Prop where
  returned : ∃ made, container.calls[call]? = some made ∧ made.request = request ∧
    container.result? made = some result
  unbroken : ∀ message, result ≠ .panicked message
  ended : ∀ number ∈ result.task?, ∃ task ending, container.tasks[number]? = some task ∧
    task.stage = .finished ending ∧ ending ≠ .withdrawn ∧ ending ≠ .cancelled

/-! ### The account of a call -/

structure Aside (own : List Moment) : Prop where
  idle : shown Effect.isWork own = []
  unmoved : ∀ moment ∈ own, moment.after = { moment.before with calls := moment.after.calls }

structure Relayed (request : Request) (own : List Moment) : Prop extends Aside own where
  sent : shown Effect.isRelayed own = [.relayed request]

/-- What has been done for a call, by how far it has come. -/
inductive Entry (tasks : List Task) (request : Request) (own : List Moment) :
    CallProgress → Prop
  | relaying (relayed : Relayed request own) : Entry tasks request own .relaying
  | relayed (conduct : SendConduct) (relayed : Relayed request own) :
      Entry tasks request own (.answered (relayResult request conduct))
  | declined {result : CallResult} (plain : result = .dropped ∨ result = .outOfSequence ∨
        ∃ fault, result = .refused fault ∧ fault.isEarly = true)
      (unsent : shown Effect.isRelayed own = []) (aside : Aside own) :
      Entry tasks request own (.answered result)
  | underway {number : Nat} {task : Task} {execution : Execution}
      (found : tasks[number]? = some task) (same : task.request = request)
      (dispatched : task.course = .dispatched execution)
      (unsent : shown Effect.isRelayed own = []) (tally : Tally number task own task.stage) :
      Entry tasks request own (.underway number)

/-- The books are right about a call: it has not been made and nothing has been done for it, or its
entry says what has. -/
def Container.Ledger (container : Container) (call : Nat) (own : List Moment) : Prop :=
  container.calls[call]? = none ∧ own = [] ∨
    ∃ made, container.calls[call]? = some made ∧
      Entry container.tasks made.request own made.progress

theorem Entry.transfer {tasks later : List Task} {request : Request} {own : List Moment}
    {progress : CallProgress} (entry : Entry tasks request own progress)
    (kept : ∀ number task, progress = .underway number → tasks[number]? = some task →
      later[number]? = some task) : Entry later request own progress := by
  cases entry with
  | relaying relayed => exact .relaying relayed
  | relayed conduct relayed => exact .relayed conduct relayed
  | declined plain unsent aside => exact .declined plain unsent aside
  | underway found same dispatched unsent tally =>
      exact .underway (kept _ _ rfl found) same dispatched unsent tally

theorem Aside.append {own : List Moment} {moment : Moment} (aside : Aside own)
    (silent : moment.effects = [])
    (unmoved : moment.after = { moment.before with calls := moment.after.calls }) :
    Aside (own ++ [moment]) where
  idle := by rw [shown_append, shown_singleton, aside.idle, silent]; rfl
  unmoved := by
    intro other member
    rcases List.mem_append.mp member with old | new
    · exact aside.unmoved other old
    · rw [List.mem_singleton.mp new]
      exact unmoved

theorem Relayed.append {request : Request} {own : List Moment} {moment : Moment}
    (relayed : Relayed request own) (silent : moment.effects = [])
    (unmoved : moment.after = { moment.before with calls := moment.after.calls }) :
    Relayed request (own ++ [moment]) where
  toAside := relayed.toAside.append silent unmoved
  sent := by rw [shown_append, shown_singleton, relayed.sent, silent]; rfl

namespace Container

variable {container next : Container} {call number : Nat} {own : List Moment} {step : Step}
  {effects : List Effect}

/-- While a request is looked at, all that is ever seen is that its application is asked. -/
theorem filter_receive (container : Container) (request : Request) (kind : Effect → Bool)
    (deaf : ∀ application key correlation, kind (.asked application key correlation) = false) :
    (container.receive request).2.filter kind = [] := by
  unfold receive
  split
  · rfl
  · rfl
  · rfl
  · unfold receiveFor
    split
    · rfl
    · split
      · rfl
      · simp [askedEffects, List.filter_eq_nil_iff, deaf]

theorem aside_of_answer (container : Container) (request : Request) (progress : CallProgress)
    (idle : effects.filter Effect.isWork = []) :
    Aside [{ before := container, step, effects, after := container.addCall request progress }] where
  idle := by rwa [shown_singleton]
  unmoved := by
    intro moment member
    rw [List.mem_singleton.mp member]
    rfl

theorem ledger_of_call {request : Request} (called : container.call request = (next, effects)) :
    next.Ledger container.calls.length
      [{ before := container, step := .call request, effects, after := next }] := by
  have unsent := container.filter_receive request Effect.isRelayed (fun _ _ _ => rfl)
  have idle := container.filter_receive request Effect.isWork (fun _ _ _ => rfl)
  have recorded (progress : CallProgress) : (container.addCall request progress).calls[
      container.calls.length]? = some { request, progress } := by
    simp [addCall]
  unfold call at called
  cases received : container.receive request with
  | mk reception asked =>
      rw [received] at called unsent idle
      cases reception with
      | relay =>
          obtain ⟨rfl, rfl⟩ := Prod.mk.inj called
          refine Or.inr ⟨_, recorded _, .relaying ⟨container.aside_of_answer request _ ?_, ?_⟩⟩
          · rw [List.filter_append, idle]
            rfl
          · rw [shown_singleton, List.filter_append, unsent]
            rfl
      | drop =>
          obtain ⟨rfl, rfl⟩ := Prod.mk.inj called
          exact Or.inr ⟨_, recorded _, .declined (Or.inl rfl) (by rwa [shown_singleton])
            (container.aside_of_answer request _ idle)⟩
      | outOfSequence =>
          obtain ⟨rfl, rfl⟩ := Prod.mk.inj called
          exact Or.inr ⟨_, recorded _, .declined (Or.inr (Or.inl rfl)) (by rwa [shown_singleton])
            (container.aside_of_answer request _ idle)⟩
      | refuse fault =>
          obtain ⟨rfl, rfl⟩ := Prod.mk.inj called
          have early := isEarly_of_receive (congrArg Prod.fst received)
          exact Or.inr ⟨_, recorded _, .declined (Or.inr (Or.inr ⟨fault, rfl, early⟩))
            (by rwa [shown_singleton]) (container.aside_of_answer request _ idle)⟩
      | accept application resolution =>
          obtain ⟨rfl, rfl⟩ := Prod.mk.inj called
          have made : (container.accept request application resolution).tasks[
              container.tasks.length]? =
                some (container.makeTask request application resolution) := by
            simp
          refine Or.inr ⟨{ request, progress := .underway container.tasks.length }, by simp,
            .underway made rfl rfl (by rwa [shown_singleton])
              (.early rfl (by rwa [shown_singleton]) ?_)⟩
          intro moment member
          rw [List.mem_singleton.mp member]
          exact id

theorem takenFor_of_task? (about : step.task? = some number) :
    container.takenFor call step =
      (container.calls[call]?).any (fun made => made.progress == .underway number) := by
  cases step with
  | call | relay | hold | release => cases about
  | _ =>
      obtain rfl := Option.some.inj about
      rfl

theorem Happening.call_unchanged (happening : container.Happening step next effects)
    (others : container.takenFor call step = false) :
    next.calls[call]? = container.calls[call]? := by
  have appended (made : Call) (apart : container.calls.length ≠ call) :
      (container.calls ++ [made])[call]? = container.calls[call]? := by
    rcases Nat.lt_or_gt_of_ne apart with late | early
    · rw [List.getElem?_eq_none (by simp; omega), List.getElem?_eq_none (by omega)]
    · exact List.getElem?_append_left early
  cases happening with
  | task | hold | release => rfl
  | accept request application resolution =>
      rw [accept_calls]
      exact appended _ (ne_of_beq_false others)
  | answer request progress => exact appended _ (ne_of_beq_false others)
  | relay other conduct request =>
      have apart : other ≠ call := ne_of_beq_false others
      simp [setProgress, apart]

theorem Happening.ledger_of_others (happening : container.Happening step next effects)
    (ledger : container.Ledger call own) (others : container.takenFor call step = false) :
    next.Ledger call own := by
  have same := happening.call_unchanged others
  rcases ledger with ⟨unmade, rfl⟩ | ⟨made, recorded, entry⟩
  · exact Or.inl ⟨same.trans unmade, rfl⟩
  · refine Or.inr ⟨made, same.trans recorded, entry.transfer ?_⟩
    intro number task underway found
    apply happening.task_unchanged _ found
    intro about
    simp [takenFor_of_task? about, recorded, underway] at others

theorem call_of_taken (happening : container.Happening step next effects)
    (unmade : container.calls[call]? = none) (taken : container.takenFor call step = true) :
    ∃ request, step = .call request ∧ call = container.calls.length := by
  cases happening with
  | task found transition =>
      rw [takenFor_of_task? transition.about, unmade] at taken
      cases taken
  | accept request | answer request => exact ⟨request, rfl, (eq_of_beq taken).symm⟩
  | relay other conduct request found =>
      obtain rfl : other = call := eq_of_beq taken
      rw [unmade] at found
      cases found
  | hold | release => cases taken

theorem step_of_taken {made : Call} (recorded : container.calls[call]? = some made)
    (taken : container.takenFor call step = true) :
    (∃ conduct, step = .relay call conduct) ∨
      ∃ number, step.task? = some number ∧ made.progress = .underway number := by
  cases about : step.task? with
  | some number =>
      rw [takenFor_of_task? about, recorded] at taken
      exact Or.inr ⟨number, rfl, eq_of_beq taken⟩
  | none =>
      cases step with
      | call request =>
          have late : container.calls.length = call := eq_of_beq taken
          have early := (List.getElem?_eq_some_iff.mp recorded).1
          omega
      | relay other conduct =>
          obtain rfl : other = call := eq_of_beq taken
          exact Or.inl ⟨conduct, rfl⟩
      | hold | release => cases taken
      | _ => cases about

theorem Transition.unsent {task : Task} {outcome : Outcome}
    (transition : container.Transition number task step outcome) :
    outcome.effects.filter Effect.isRelayed = [] := by
  rw [List.filter_eq_nil_iff]
  intro effect seen
  rcases transition.seen seen with ⟨rfl, _⟩ | ⟨_, rfl, _⟩ | ⟨_, rfl, _⟩ <;> exact nofun

theorem ledger_of_own (possible : container.step? step = some (next, effects))
    (ledger : container.Ledger call own) (taken : container.takenFor call step = true) :
    next.Ledger call (own ++ [{ before := container, step, effects, after := next }]) := by
  rcases ledger with ⟨unmade, rfl⟩ | ⟨made, recorded, entry⟩
  · obtain ⟨request, rfl, rfl⟩ := call_of_taken (happening_of_step? possible) unmade taken
    exact ledger_of_call (Option.some.inj possible)
  · rcases step_of_taken recorded taken with ⟨conduct, rfl⟩ | ⟨number, about, underway⟩
    · cases happening_of_step? possible with
      | task found transition => cases transition.about
      | relay _ _ request found =>
          obtain rfl := Option.some.inj (recorded.symm.trans found)
          cases entry with
          | relaying relayed =>
              refine Or.inr ⟨{ request, progress := .answered (relayResult request conduct) }, ?_,
                .relayed conduct (relayed.append rfl rfl)⟩
              simp [setProgress, recorded]
    · rw [container.step?_of_task? about] at possible
      obtain ⟨task, outcome, present, able, rfl, rfl⟩ := taskStep?_eq_some possible
      rw [underway] at entry
      cases entry with
      | underway found same dispatched unsent tally =>
          obtain rfl := Option.some.inj (present.symm.trans found)
          have transition := transition_of_outcome? about able
          refine Or.inr ⟨made, recorded, ?_⟩
          rw [underway]
          refine .underway (settle_tasks_self outcome present) same
            ((transition.dispatched_iff _).mpr dispatched) ?_
            (tally_step tally dispatched able about _)
          rw [shown_append, shown_singleton, unsent, transition.unsent]
          rfl

theorem Ledger.interlude {later : Container} (ledger : container.Ledger call own)
    (others : Interlude container later) : later.Ledger call own := by
  rcases ledger with ⟨unmade, rfl⟩ | ⟨made, recorded, entry⟩
  · exact Or.inl ⟨by rw [others.calls, unmade], rfl⟩
  · exact Or.inr ⟨made, by rw [others.calls, recorded],
      entry.transfer (fun _ _ _ found => others.task_kept found)⟩

end Container

theorem dealings_cons (call : Nat) (moment : Moment) (later : List Moment) :
    dealings call (moment :: later) = dealings call [moment] ++ dealings call later := by
  rw [dealings, dealings, dealings, ← List.filter_append]
  rfl

theorem Run.ledger {start finish : Container} {history own : List Moment} {call : Nat}
    (run : Run Container.Interlude start history finish) (ledger : start.Ledger call own) :
    finish.Ledger call (own ++ dealings call history) := by
  induction run generalizing own with
  | rest => simpa [dealings] using ledger
  | @step before next finish step effects later possible _ ih =>
      rw [dealings_cons, ← List.append_assoc]
      apply ih
      cases taken : before.takenFor call step with
      | true =>
          have entered := Container.ledger_of_own possible ledger taken
          simpa [dealings, taken] using entered
      | false =>
          have kept := (Container.happening_of_step? possible).ledger_of_others ledger taken
          simpa [dealings, taken] using kept
  | pause others _ ih => exact ih (ledger.interlude others)

structure SessionStore.SameEntries (store later : SessionStore) : Prop where
  applications : later.applications = store.applications
  dialogs : later.dialogs.kept = store.dialogs.kept

/-- A step shows nothing of any task but its own, sends nothing but the request of a call, and keeps
the entries of the session store. -/
structure Confined (moment : Moment) : Prop where
  task : ∀ effect ∈ moment.effects, effect.task? = none ∨ effect.task? = moment.step.task?
  call : ∀ request, .relayed request ∈ moment.effects → moment.step = .call request
  entries : moment.before.store.SameEntries moment.after.store

namespace Container

variable {container next : Container} {step : Step} {effects : List Effect}

theorem Happening.sameEntries (happening : container.Happening step next effects) :
    container.store.SameEntries next.store := by
  cases happening with
  | task | answer | relay | hold | release => exact ⟨rfl, rfl⟩
  | accept request application resolution =>
      change container.store.SameEntries
        (container.noteSequence resolution.dialogSession request).store
      rcases container.noteSequence_eq resolution.dialogSession request with same | same
      · rw [same]
        exact ⟨rfl, rfl⟩
      · rw [same]
        exact ⟨rfl, rfl⟩

theorem not_relayed_of_filter (unsent : effects.filter Effect.isRelayed = []) (other : Request) :
    .relayed other ∉ effects :=
  fun member => List.filter_eq_nil_iff.mp unsent _ member rfl

theorem eq_of_relayed {request other : Request}
    (called : container.call request = (next, effects)) (sent : .relayed other ∈ effects) :
    other = request := by
  have silent := not_relayed_of_filter
    (container.filter_receive request Effect.isRelayed (fun _ _ _ => rfl)) other
  unfold call at called
  cases received : container.receive request with
  | mk reception asked =>
      rw [received] at called silent
      cases reception with
      | relay =>
          obtain ⟨rfl, rfl⟩ := Prod.mk.inj called
          rcases List.mem_append.mp sent with early | last
          · exact absurd early silent
          · exact Effect.relayed.inj (List.mem_singleton.mp last)
      | drop | outOfSequence | refuse | accept =>
          obtain ⟨rfl, rfl⟩ := Prod.mk.inj called
          exact absurd sent silent

theorem confined (possible : container.step? step = some (next, effects)) :
    Confined { before := container, step, effects, after := next } where
  task effect member := (happening_of_step? possible).effect_about member
  call request sent := by
    cases happening_of_step? possible with
    | task found transition => exact absurd sent (not_relayed_of_filter transition.unsent _)
    | accept other | answer other =>
        rw [eq_of_relayed (Option.some.inj possible) sent]
    | relay | hold | release => cases sent
  entries := (happening_of_step? possible).sameEntries

end Container

/-! ### Calls that have come to their end -/

theorem Container.result?_underway {container : Container} {call : Call} {number : Nat}
    {result : CallResult} (progress : call.progress = .underway number)
    (given : container.result? call = some result) :
    ∃ task, container.tasks[number]? = some task ∧
      ((∃ fault, result = .refused fault ∧ task.stage = .finished (.timedOut fault)) ∨
        (result = .pooled number ∨ result = .direct number) ∧
          (∀ fault, task.stage ≠ .finished (.timedOut fault)) ∨
        ∃ message, result = .panicked message) := by
  simp only [result?, progress] at given
  split at given
  · cases given
  · rename_i task found
    refine ⟨task, found, ?_⟩
    split at given
    · rename_i fault timedOut
      exact Or.inl ⟨fault, (Option.some.inj given).symm, timedOut⟩
    · cases given
    · cases given
    · rename_i untimed _ _
      exact Or.inr (Or.inl ⟨Or.inl (Option.some.inj given).symm, untimed⟩)
    · rename_i message _ _
      exact Or.inr (Or.inr ⟨message, (Option.some.inj given).symm⟩)
    · rename_i completed _
      refine Or.inr (Or.inl ⟨Or.inr (Option.some.inj given).symm, ?_⟩)
      intro fault timedOut
      rw [completed] at timedOut
      cases timedOut
    · cases given

/-- The account of a call that has come to its end with a result. -/
structure Accounted (finish : Container) (request : Request) (result : CallResult)
    (own : List Moment) : Prop where
  sent : result.IsRelay → shown Effect.isRelayed own = [.relayed request]
  unsent : ¬ result.IsRelay → shown Effect.isRelayed own = []
  /-- A call that does not hand its request to an application sets nobody to work, and unless it has
  waited in vain it does not touch the sessions. -/
  idle : result.task? = none → shown Effect.isWork own = []
  unmoved : result.task? = none → ¬ result.IsTimeout →
    ∀ moment ∈ own, moment.after = { moment.before with calls := moment.after.calls }
  handled : ∀ number ∈ result.task?, ∃ task answer, finish.tasks[number]? = some task ∧
    task.request = request ∧ Handled number task own answer ∧ ∀ fault ∈ answer, fault.status = 500

section

variable {start finish : Container} {history own : List Moment} {call : Nat} {request : Request}
  {result : CallResult}

theorem Accounted.of_relayed {conduct : SendConduct} (relayed : Relayed request own)
    (unbroken : ∀ message, relayResult request conduct ≠ .panicked message) :
    Accounted finish request (relayResult request conduct) own where
  sent := fun _ => relayed.sent
  unsent := by
    intro other
    cases conduct with
    | success => exact absurd (Or.inl rfl) other
    | failure cause => exact absurd (Or.inr ⟨_, cause, rfl⟩) other
    | panic message => exact absurd rfl (unbroken message)
  idle := fun _ => relayed.idle
  unmoved := fun _ _ => relayed.unmoved
  handled := by
    intro number made
    cases conduct <;> cases made

theorem Accounted.of_declined (plain : result = .dropped ∨ result = .outOfSequence ∨
      ∃ fault, result = .refused fault ∧ fault.isEarly = true)
    (unsent : shown Effect.isRelayed own = []) (aside : Aside own) :
    Accounted finish request result own where
  sent := by
    rintro (rfl | ⟨message, cause, rfl⟩)
    · rcases plain with other | other | ⟨fault, other, _⟩ <;> cases other
    · rcases plain with other | other | ⟨fault, same, early⟩
      · cases other
      · cases other
      · rw [← CallResult.refused.inj same] at early
        cases early
  unsent := fun _ => unsent
  idle := fun _ => aside.idle
  unmoved := fun _ _ => aside.unmoved
  handled := by
    intro number made
    rcases plain with rfl | rfl | ⟨fault, rfl, _⟩ <;> cases made

theorem Accounted.of_timedOut {session : String} {timeout : Duration}
    (unsent : shown Effect.isRelayed own = []) (idle : shown Effect.isWork own = []) :
    Accounted finish request (.refused (.gateTimeout session timeout)) own where
  sent := by
    rintro (other | ⟨message, cause, other⟩) <;> cases other
  unsent := fun _ => unsent
  idle := fun _ => idle
  unmoved := fun _ other => absurd ⟨session, timeout, rfl⟩ other
  handled := by
    intro number made
    cases made

theorem Accounted.of_handled {number : Nat} {task : Task} {answer : Option DispatchError}
    (dispatched : result = .pooled number ∨ result = .direct number)
    (unsent : shown Effect.isRelayed own = []) (found : finish.tasks[number]? = some task)
    (same : task.request = request) (handled : Handled number task own answer) :
    Accounted finish request result own where
  sent := by
    rcases dispatched with rfl | rfl <;> rintro (other | ⟨message, cause, other⟩) <;> cases other
  unsent := fun _ => unsent
  idle := by
    rcases dispatched with rfl | rfl <;> exact nofun
  unmoved := by
    rcases dispatched with rfl | rfl <;> exact nofun
  handled := by
    intro other made
    have this : other = number := by
      rcases dispatched with rfl | rfl <;> exact (Option.some.inj made).symm
    rw [this]
    exact ⟨task, answer, found, same, handled, fun _ _ => rfl⟩

theorem Container.Ledger.closed (ledger : finish.Ledger call own)
    (concluded : finish.Concluded call request result) : Accounted finish request result own := by
  obtain ⟨⟨made, recorded, rfl, given⟩, unbroken, ended⟩ := concluded
  rcases ledger with ⟨unmade, _⟩ | ⟨same, known, entry⟩
  · rw [unmade] at recorded
    cases recorded
  · obtain rfl := Option.some.inj (recorded.symm.trans known)
    obtain ⟨request, progress⟩ := made
    change Entry finish.tasks request own progress at entry
    cases entry with
    | relaying => cases given
    | relayed conduct relayed =>
        obtain rfl := Option.some.inj given
        exact .of_relayed relayed unbroken
    | declined plain unsent aside =>
        obtain rfl := Option.some.inj given
        exact .of_declined plain unsent aside
    | @underway number task execution found same dispatched unsent tally =>
        obtain ⟨again, present, ends⟩ := Container.result?_underway rfl given
        obtain rfl := Option.some.inj (found.symm.trans present)
        rcases ends with ⟨fault, rfl, timedOut⟩ | ⟨dispatched, untimed⟩ | ⟨message, rfl⟩
        · rw [timedOut] at tally
          obtain ⟨idle, session, timeout, rfl⟩ := tally.idle_of_timedOut
          exact .of_timedOut unsent idle
        · have own : result.task? = some number := by
            rcases dispatched with rfl | rfl <;> rfl
          obtain ⟨last, ending, foundLast, finished, unbidden, carried⟩ := ended number own
          obtain rfl := Option.some.inj (found.symm.trans foundLast)
          rw [finished] at tally untimed
          obtain ⟨answer, handled⟩ := tally.handled_of_finished
            (fun fault same => untimed fault (congrArg Stage.finished same)) unbidden carried
          exact .of_handled dispatched unsent found same handled
        · exact absurd rfl (unbroken message)

/-- In every state of the container every call comes to its own account, whatever the application,
the branches, the sender and the responder do. -/
theorem Run.accounted (run : Run Container.Interlude start history finish)
    (unmade : start.calls.length ≤ call) :
    (∀ moment ∈ history, Confined moment) ∧
      ∀ request result, finish.Concluded call request result →
        Accounted finish request result (dealings call history) := by
  constructor
  · intro moment taken
    obtain ⟨_, possible⟩ := run.preserves_at (fun _ => True) (fun _ _ => trivial)
      (fun _ _ => trivial) trivial moment taken
    exact Container.confined possible
  · intro request result concluded
    have ledger := run.ledger (Or.inl ⟨List.getElem?_eq_none unmade, rfl⟩ : start.Ledger call [])
    rw [List.nil_append] at ledger
    exact ledger.closed concluded

end

/-- The application breaks down over number 5, while number 4 is out of sequence. -/
def Sample.breakdown : List Step :=
  [.call (request .info 5), .enter 0, .call (request .info 4), .start 0, .serve 0 (.panic none),
    .respond 0 (.failure { message := "unreachable" })]

theorem Run.accounted_breakdown :
    let start := Sample.container .session
    let later := start.follow Sample.breakdown
    Run Container.Interlude start later.1 later.2 ∧ start.calls.length ≤ 0 ∧
      later.2.Concluded 0 (Sample.request .info 5) (.pooled 0) ∧
      later.2.Concluded 1 (Sample.request .info 4) .outOfSequence ∧
      (∀ moment ∈ later.1, Confined moment) ∧
      Accounted later.2 (Sample.request .info 5) (.pooled 0) (dealings 0 later.1) ∧
      shown Effect.isServed (dealings 0 later.1) = [.served 0] ∧
      (shown Effect.isResponded (dealings 0 later.1)).length = 1 := by
  intro start later
  have run : Run Container.Interlude start later.1 later.2 := Run.follow _ _ Sample.breakdown
  have unmade : start.calls.length ≤ 0 := Nat.le_refl 0
  have concluded : later.2.Concluded 0 (Sample.request .info 5) (.pooled 0) := by
    refine ⟨⟨_, rfl, rfl, rfl⟩, nofun, ?_⟩
    intro number own
    obtain rfl : 0 = number := Option.some.inj own
    exact ⟨_, .completed, rfl, rfl, nofun, nofun⟩
  have declined : later.2.Concluded 1 (Sample.request .info 4) .outOfSequence :=
    ⟨⟨_, rfl, rfl, rfl⟩, nofun, nofun⟩
  have done : shown Effect.isServed (dealings 0 later.1) = [.served 0] ∧
      (shown Effect.isResponded (dealings 0 later.1)).length = 1 := by
    decide +kernel
  obtain ⟨confined, accounts⟩ := Run.accounted run unmade
  exact ⟨run, unmade, concluded, declined, confined, accounts _ _ concluded, done⟩

end SipContainer

import SipContainer.Proofs.Dispatch.Bookkeeping
import SipContainer.Proofs.Dispatch.Serialization
/-!
The subscriptions of a session over whole runs. A task begins a subscription when it sets out and
ends one when it goes out, with all that can go wrong in between, so that at most moments the list
is not yet what it is going to be. But whoever is inside is alone there, and whatever becomes of its
request it still does what it owes the list. So it is the order in which tasks come in that counts:
the last of them to say something of a subscription has the last word.
-/

namespace SipContainer

/-- A NOTIFY says of a subscription that it goes on or that it is over. In a state of any other name
it says nothing. -/
def Request.verdict? (request : Request) (subscription : Subscription) : Option Bool :=
  if request.isNotify = true ∧ Subscription.ofRequest? request = some subscription then
    match request.subscription with
    | some .active | some .pending => some true
    | some .terminated => some false
    | some (.extension _) | none => none
  else none

section

variable {request : Request} {subscription : Subscription}

theorem Request.verdict?_eq_true_iff : request.verdict? subscription = some true ↔
    request.isNotify = true ∧ Subscription.ofRequest? request = some subscription ∧
      ∃ state, request.subscription = some state ∧ state.isActiveOrPending = true := by
  unfold verdict?
  by_cases about : request.isNotify = true ∧ Subscription.ofRequest? request = some subscription
  · rw [if_pos about]
    cases request.subscription with
    | none => simp
    | some state => cases state <;> simp [about, SubscriptionState.isActiveOrPending]
  · rw [if_neg about]
    simp only [reduceCtorEq, false_iff]
    rintro ⟨notifies, same, _⟩
    exact about ⟨notifies, same⟩

theorem Request.verdict?_eq_false_iff : request.verdict? subscription = some false ↔
    request.isNotify = true ∧ Subscription.ofRequest? request = some subscription ∧
      request.subscription = some .terminated := by
  unfold verdict?
  by_cases about : request.isNotify = true ∧ Subscription.ofRequest? request = some subscription
  · rw [if_pos about]
    cases request.subscription with
    | none => simp
    | some state => cases state <;> simp [about]
  · rw [if_neg about]
    simp only [reduceCtorEq, false_iff]
    rintro ⟨notifies, same, _⟩
    exact about ⟨notifies, same⟩

theorem mem_beginSubscription (dialog : Dialog) :
    subscription ∈ (beginSubscription request dialog).subscriptions ↔
      request.verdict? subscription = some true ∨ subscription ∈ dialog.subscriptions := by
  rw [Request.verdict?_eq_true_iff]
  by_cases live : request.isNotify = true ∧ ∃ state, request.subscription = some state ∧
      state.isActiveOrPending = true
  · obtain ⟨notifies, state, known, active⟩ := live
    cases about : Subscription.ofRequest? request with
    | none =>
        rw [beginSubscription_of_idle dialog (Or.inr (Or.inl about))]
        simp
    | some named =>
        rw [beginSubscription_of_active dialog notifies known active about,
          Dialog.mem_addSubscription, or_comm]
        simp [notifies, known, active, @eq_comm _ named]
  · have idle : request.isNotify = false ∨ Subscription.ofRequest? request = none ∨
        ∀ state, request.subscription = some state → state.isActiveOrPending = false := by
      cases notifies : request.isNotify with
      | false => exact Or.inl rfl
      | true =>
          right; right
          intro state known
          exact Bool.eq_false_iff.mpr fun active => live ⟨notifies, state, known, active⟩
    rw [beginSubscription_of_idle dialog idle, iff_or_self]
    rintro ⟨notifies, _, known⟩
    exact absurd ⟨notifies, known⟩ live

theorem mem_endSubscription (dialog : Dialog) :
    subscription ∈ (endSubscription request dialog).subscriptions ↔
      request.verdict? subscription ≠ some false ∧ subscription ∈ dialog.subscriptions := by
  rw [ne_eq, Request.verdict?_eq_false_iff]
  by_cases ended : request.isNotify = true ∧ request.subscription = some .terminated
  · obtain ⟨notifies, known⟩ := ended
    cases about : Subscription.ofRequest? request with
    | none =>
        rw [endSubscription_of_idle dialog (Or.inr (Or.inl about))]
        simp
    | some named =>
        rw [endSubscription_of_terminated dialog notifies known about,
          Dialog.mem_removeSubscription, and_comm]
        simp [notifies, known, @eq_comm _ named]
  · have idle : request.isNotify = false ∨ Subscription.ofRequest? request = none ∨
        request.subscription ≠ some .terminated := by
      cases notifies : request.isNotify with
      | false => exact Or.inl rfl
      | true => exact Or.inr (Or.inr fun known => ended ⟨notifies, known⟩)
    rw [endSubscription_of_idle dialog idle, iff_and_self]
    rintro - ⟨notifies, _, known⟩
    exact ended ⟨notifies, known⟩

/-- A change of a dialog lists a subscription as before, or else as the request says. -/
def Request.Governs (request : Request) (subscription : Subscription)
    (change : Dialog → Dialog) : Prop :=
  ∀ dialog, (subscription ∈ (change dialog).subscriptions ↔ subscription ∈ dialog.subscriptions) ∨
    ∃ verdict, request.verdict? subscription = some verdict ∧
      (subscription ∈ (change dialog).subscriptions ↔ verdict = true)

namespace Request

theorem governs_of_same {change : Dialog → Dialog}
    (same : ∀ dialog, (change dialog).subscriptions = dialog.subscriptions) :
    request.Governs subscription change := by
  intro dialog
  rw [same dialog]
  exact Or.inl Iff.rfl

theorem governs_beginSubscription :
    request.Governs subscription (beginSubscription request) := by
  intro dialog
  rw [mem_beginSubscription]
  cases request.verdict? subscription with
  | none => simp
  | some verdict => cases verdict <;> simp

theorem governs_endSubscription :
    request.Governs subscription (endSubscription request) := by
  intro dialog
  rw [mem_endSubscription]
  cases request.verdict? subscription with
  | none => simp
  | some verdict => cases verdict <;> simp

theorem Governs.comp {late early : Dialog → Dialog} (governsLate : request.Governs subscription late)
    (governsEarly : request.Governs subscription early) :
    request.Governs subscription (late ∘ early) := by
  intro dialog
  rcases governsLate (early dialog) with same | told
  · rw [Function.comp_apply, same]
    exact governsEarly dialog
  · exact Or.inr told

end Request

end

/-! ### What a task owes the list -/

/-- Whether a subscription is going to be listed when a task has gone its way from a stage, by
whether it is listed now. -/
def Stage.Due (request : Request) (subscription : Subscription) (listed : Prop) : Stage → Prop
  | entered | submitted | queued =>
    request.verdict? subscription ≠ some false ∧
      (request.verdict? subscription = some true ∨ listed)
  | serving _ | forwarding _ => request.verdict? subscription ≠ some false ∧ listed
  | created | waiting | responding _ | finished _ => listed

namespace Stage

variable {request : Request} {subscription : Subscription} {listed : Prop} {stage : Stage}

theorem due_of_isAhead (ahead : stage.isAhead = true) :
    stage.Due request subscription listed ↔ request.verdict? subscription ≠ some false ∧
      (request.verdict? subscription = some true ∨ listed) := by
  cases stage with
  | entered | submitted | queued => rfl
  | _ => cases ahead

theorem due_of_handBack? {number : Nat} {conduct : Conduct} {step : Step}
    (returned : stage.handBack? number conduct = some step) :
    stage.Due request subscription listed ↔
      request.verdict? subscription ≠ some false ∧ listed := by
  cases stage with
  | serving | forwarding => rfl
  | _ => cases returned

theorem due_of_outside (outside : stage.isInside = false) :
    stage.Due request subscription listed ↔ listed := by
  cases stage with
  | created | waiting | responding | finished => rfl
  | _ => cases outside

theorem isInside_eq_false (out : stage.isInLine = false) : stage.isInside = false := by
  cases inside : stage.isInside with
  | false => rfl
  | true =>
      rw [isInLine_of_isInside inside] at out
      cases out

end Stage

namespace Container

variable {container next : Container} {step : Step} {effects : List Effect} {number : Nat}
  {task : Task} {subscription : Subscription}

theorem Transition.due {outcome : Outcome}
    (transition : container.Transition number task step outcome) (subscription : Subscription)
    (stays : step ≠ .enter number) (carried : step ≠ .cancel number) (dialog : Dialog) :
    outcome.stage.Due task.request subscription
        (subscription ∈ (outcome.dialog dialog).subscriptions) ↔
      task.stage.Due task.request subscription (subscription ∈ dialog.subscriptions) := by
  cases transition with
  | lineUp created => rw [created]; rfl
  | enter => exact absurd rfl stays
  | giveUp waits =>
      have outside := Stage.isInside_eq_false (task.giveUp_isInLine number (container.gateTimeout task))
      rw [Stage.due_of_outside outside, task.giveUp_dialog number, waits]
      rfl
  | run => rfl
  | queue pool ahead =>
      rw [Stage.due_of_isAhead ahead]
      rfl
  | serve plan proxies pool ahead =>
      rw [Stage.due_of_isAhead ahead, ← mem_beginSubscription]
      rfl
  | lose pool ahead =>
      rw [Stage.due_of_isAhead ahead, ← mem_beginSubscription, ← mem_endSubscription]
      rfl
  | forward conduct leg proxies returned =>
      rw [Stage.due_of_handBack? returned]
      rfl
  | exit conduct fault proxies returned =>
      have outside := Stage.isInside_eq_false (task.exit_isInLine number fault)
      rw [Stage.due_of_handBack? returned, Stage.due_of_outside outside, ← mem_endSubscription]
      rfl
  | respond fault conduct answers => rw [answers]; rfl
  | cancel => exact absurd rfl carried

theorem due_enter (subscription : Subscription) (task : Task) (dialog : Dialog) :
    task.enter.stage.Due task.request subscription
        (subscription ∈ (task.enter.dialog dialog).subscriptions) ↔
      ((task.request.verdict? subscription).getD (decide (subscription ∈ dialog.subscriptions))) =
        true := by
  rw [Stage.due_of_isAhead task.enter_isAhead,
    show (task.enter.dialog dialog).subscriptions = dialog.subscriptions from
      dialog.subscriptions_bookIn task.request]
  cases task.request.verdict? subscription with
  | none => simp
  | some verdict => cases verdict <;> simp

/-! ### The list between the steps -/

def subscriptions? (container : Container) (session : Nat) : Option (List Subscription) :=
  (container.dialog? session).map Dialog.subscriptions

def Subscribed (container : Container) (session : Nat) (subscription : Subscription) : Prop :=
  ∃ listed, container.subscriptions? session = some listed ∧ subscription ∈ listed

structure Occupied (container : Container) (session number : Nat) (task : Task) : Prop where
  found : container.tasks[number]? = some task
  about : task.dialogSession = session
  inside : task.stage.isInside = true

def Clear (container : Container) (session : Nat) : Prop :=
  ∀ number task, ¬ container.Occupied session number task

def Strict (container : Container) (session : Nat) : Prop :=
  ∀ (number : Nat) (task : Task), container.tasks[number]? = some task →
    task.dialogSession = session → container.mode? task.application = some .session

/-- How a subscription stands as soon as nobody is inside any more. -/
structure Standing (container : Container) (session : Nat) (subscription : Subscription)
    (standing : Bool) : Prop where
  stored : (container.subscriptions? session).isSome = true
  clear : container.Clear session → (container.Subscribed session subscription ↔ standing = true)
  due : ∀ {number task}, container.Occupied session number task →
    (task.stage.Due task.request subscription (container.Subscribed session subscription) ↔
      standing = true)

section

variable {session : Nat} {standing : Bool}

theorem subscribed_iff {dialog : Dialog} (known : container.dialog? session = some dialog) :
    container.Subscribed session subscription ↔ subscription ∈ dialog.subscriptions := by
  simp [Subscribed, subscriptions?, known]

theorem subscribed_congr (same : next.subscriptions? session = container.subscriptions? session) :
    next.Subscribed session subscription ↔ container.Subscribed session subscription := by
  unfold Subscribed
  rw [same]

theorem subscriptions?_of_protocol?
    (same : next.protocol? session = container.protocol? session) :
    next.subscriptions? session = container.subscriptions? session := by
  have listed (container : Container) : container.subscriptions? session =
      (container.protocol? session).map (fun books => books.2.2) := by
    simp only [subscriptions?, dialog?, protocol?, Option.map_map]
    rfl
  rw [listed next, listed container, same]

theorem Strict.gate (strict : container.Strict session) (sound : container.Sound)
    (found : container.tasks[number]? = some task) (about : task.dialogSession = session) :
    task.gate = some (.dialog session) :=
  ((sound.gated found).guards_iff (.dialog session)).mpr ⟨strict number task found about, about⟩

theorem Occupied.unique (sound : container.Sound) (strict : container.Strict session)
    {first second : Nat} {left right : Task} (one : container.Occupied session first left)
    (other : container.Occupied session second right) : first = second :=
  sound.orderly.inside_unique one.found other.found (strict.gate sound one.found one.about)
    (strict.gate sound other.found other.about) one.inside other.inside

theorem clear_of_admits (sound : container.Sound) (strict : container.Strict session)
    (found : container.tasks[number]? = some task) (about : task.dialogSession = session)
    (admitted : container.admits number task = true) (outside : task.stage.isInside = false) :
    container.Clear session := by
  intro other right occupied
  have holds := holder?_of_admits admitted _ (strict.gate sound found about)
  rw [sound.orderly.first occupied.found (strict.gate sound occupied.found occupied.about)
    occupied.inside] at holds
  obtain rfl := Party.task.inj (Option.some.inj holds)
  obtain rfl := Option.some.inj (occupied.found.symm.trans found)
  have inside := occupied.inside
  rw [outside] at inside
  cases inside

theorem Standing.congr (stands : container.Standing session subscription standing)
    (same : next.subscriptions? session = container.subscriptions? session)
    (occupied : ∀ number task,
      next.Occupied session number task ↔ container.Occupied session number task) :
    next.Standing session subscription standing where
  stored := by rw [same]; exact stands.stored
  clear := by
    intro clear
    rw [subscribed_congr same]
    exact stands.clear (fun number task before => clear number task ((occupied number task).mpr before))
  due := by
    intro number task after
    rw [subscribed_congr same]
    exact stands.due ((occupied number task).mp after)

theorem Standing.move_inside {outcome : Outcome}
    (stands : container.Standing session subscription standing) (sound : container.Sound)
    (strict : container.Strict session) (occupied : container.Occupied session number task)
    (transition : container.Transition number task step outcome) (stays : step ≠ .enter number)
    (carried : step ≠ .cancel number) :
    (container.settle number task outcome).Standing session subscription standing := by
  obtain ⟨found, rfl, inside⟩ := occupied
  obtain ⟨listed, present⟩ := Option.isSome_iff_exists.mp stands.stored
  obtain ⟨dialog, known, rfl⟩ := Option.map_eq_some_iff.mp present
  have after : (container.settle number task outcome).dialog? task.dialogSession =
      some (outcome.dialog dialog) := dialog?_settle outcome known
  have due := transition.due subscription stays carried dialog
  rw [← subscribed_iff known, stands.due ⟨found, rfl, inside⟩, ← subscribed_iff after] at due
  refine ⟨by simp [subscriptions?, after], ?_, ?_⟩
  · intro clear
    have outside : outcome.stage.isInside = false := by
      apply Bool.eq_false_iff.mpr
      intro still
      exact clear number (task.after outcome) ⟨settle_tasks_self outcome found, rfl, still⟩
    rw [Stage.due_of_outside outside] at due
    exact due
  · intro other later still
    rcases (settle_tasks_iff found).mp still.found with ⟨rfl, rfl⟩ | ⟨different, before⟩
    · exact due
    · have other : container.Occupied task.dialogSession other later :=
        ⟨before, still.about, still.inside⟩
      exact absurd (other.unique sound strict ⟨found, rfl, inside⟩) different

theorem Standing.move_outside {outcome : Outcome}
    (stands : container.Standing session subscription standing)
    (found : container.tasks[number]? = some task) (about : task.dialogSession = session)
    (outside : task.stage.isInside = false)
    (transition : container.Transition number task step outcome) (stays : step ≠ .enter number) :
    (container.settle number task outcome).Standing session subscription standing := by
  subst about
  obtain ⟨listed, present⟩ := Option.isSome_iff_exists.mp stands.stored
  obtain ⟨dialog, known, rfl⟩ := Option.map_eq_some_iff.mp present
  have after : (container.settle number task outcome).dialog? task.dialogSession =
      some (outcome.dialog dialog) := dialog?_settle outcome known
  rw [transition.dialog_eq_id outside stays] at after
  have outsideAfter : outcome.stage.isInside = true → False := by
    intro still
    rcases transition.isInside still with before | enters
    · rw [outside] at before
      cases before
    · exact stays enters
  refine stands.congr (by simp only [subscriptions?, after, known]; rfl) ?_
  intro other later
  constructor
  · rintro ⟨present, about, inside⟩
    rcases (settle_tasks_iff found).mp present with ⟨rfl, rfl⟩ | ⟨_, before⟩
    · exact absurd inside outsideAfter
    · exact ⟨before, about, inside⟩
  · rintro ⟨before, about, inside⟩
    have different : other ≠ number := by
      rintro rfl
      obtain rfl := Option.some.inj (found.symm.trans before)
      rw [outside] at inside
      cases inside
    exact ⟨(settle_tasks_iff found).mpr (Or.inr ⟨different, before⟩), about, inside⟩

theorem Standing.enter (stands : container.Standing session subscription standing)
    (sound : container.Sound) (strict : container.Strict session)
    (found : container.tasks[number]? = some task) (about : task.dialogSession = session)
    (waits : task.stage = .waiting) (admitted : container.admits number task = true) :
    (container.settle number task task.enter).Standing session subscription
      ((task.request.verdict? subscription).getD standing) := by
  have free := clear_of_admits sound strict found about admitted (by rw [waits]; rfl)
  subst about
  obtain ⟨listed, present⟩ := Option.isSome_iff_exists.mp stands.stored
  obtain ⟨dialog, known, rfl⟩ := Option.map_eq_some_iff.mp present
  have after : (container.settle number task task.enter).dialog? task.dialogSession =
      some (task.enter.dialog dialog) := dialog?_settle task.enter known
  have settled : decide (subscription ∈ dialog.subscriptions) = standing := by
    rw [Bool.eq_iff_iff, decide_eq_true_iff, ← subscribed_iff known]
    exact stands.clear free
  have due := due_enter subscription task dialog
  rw [settled, ← subscribed_iff after] at due
  have entered : (container.settle number task task.enter).Occupied task.dialogSession number
      (task.after task.enter) := ⟨settle_tasks_self task.enter found, rfl, task.enter_isInside⟩
  refine ⟨by simp [subscriptions?, after], ?_, ?_⟩
  · intro clear
    exact absurd entered (clear number _)
  · intro other later occupied
    rcases (settle_tasks_iff found).mp occupied.found with ⟨rfl, rfl⟩ | ⟨_, before⟩
    · exact due
    · exact absurd ⟨before, occupied.about, occupied.inside⟩ (free other later)

def arrival? (container : Container) (session : Nat) : Step → Option Request
  | .enter number => (container.tasks[number]?).bind (fun task =>
      if task.dialogSession = session then some task.request else none)
  | _ => none

theorem Happening.elsewhere (happening : container.Happening step next effects)
    (sound : container.Sound) (session : Nat)
    (foreign : ∀ {number task}, step.task? = some number → container.tasks[number]? = some task →
      task.dialogSession ≠ session) :
    next.subscriptions? session = container.subscriptions? session ∧
      ∀ number task,
        next.Occupied session number task ↔ container.Occupied session number task := by
  constructor
  · apply subscriptions?_of_protocol?
    by_contra changed
    obtain ⟨number, task, window, about⟩ := happening.window sound changed
    exact foreign window.about window.found about
  · intro number task
    constructor
    · rintro ⟨present, about, inside⟩
      rcases happening.task_origin present with ⟨before, found, becomes⟩ |
        ⟨_, _, _, _, _, _, _, rfl⟩
      · rcases happening.task_cases found with ⟨_, own, _⟩ | ⟨_, same⟩
        · refine absurd ?_ (foreign own found)
          rw [becomes] at about
          exact about
        · obtain rfl := Option.some.inj (same.symm.trans present)
          exact ⟨found, about, inside⟩
      · cases inside
    · rintro ⟨found, about, inside⟩
      have others : step.task? ≠ some number := fun own => foreign own found about
      exact ⟨happening.task_unchanged others found, about, inside⟩

theorem Happening.standing_next (happening : container.Happening step next effects)
    (sound : container.Sound) (strict : container.Strict session)
    (carried : ∀ {number task}, step = .cancel number → container.tasks[number]? = some task →
      task.dialogSession = session → task.stage.isInside = false)
    (stands : container.Standing session subscription standing) :
    next.Standing session subscription
      (((container.arrival? session step).bind (·.verdict? subscription)).getD standing) := by
  by_cases own : ∃ number task, step.task? = some number ∧ container.tasks[number]? = some task ∧
      task.dialogSession = session
  · obtain ⟨number, task, takes, found, about⟩ := own
    rcases happening.task_cases found with ⟨outcome, _, transition, rfl, _⟩ | ⟨others, _⟩
    · by_cases enters : step = .enter number
      · subst enters
        obtain ⟨waits, admitted, rfl⟩ := transition.of_enter
        have arrival : container.arrival? session (.enter number) = some task.request := by
          simp [arrival?, found, about]
        rw [arrival]
        exact stands.enter sound strict found about waits admitted
      · have silent : container.arrival? session step = none := by
          unfold arrival?
          split
          · obtain rfl := Option.some.inj takes
            exact absurd rfl enters
          · rfl
        rw [silent]
        cases inside : task.stage.isInside with
        | true =>
            refine stands.move_inside sound strict ⟨found, about, inside⟩ transition enters ?_
            intro cancels
            rw [carried cancels found about] at inside
            cases inside
        | false => exact stands.move_outside found about inside transition enters
    · exact absurd takes others
  · have silent : container.arrival? session step = none := by
      unfold arrival?
      split
      · rename_i number
        rw [Option.bind_eq_none_iff]
        intro task found
        exact if_neg fun about => own ⟨number, task, rfl, found, about⟩
      · rfl
    obtain ⟨same, occupied⟩ := happening.elsewhere sound session
      (fun takes found about => own ⟨_, _, takes, found, about⟩)
    rw [silent]
    exact stands.congr same occupied

theorem Transition.governs {outcome : Outcome}
    (transition : container.Transition number task step outcome) (subscription : Subscription) :
    task.request.Governs subscription outcome.dialog := by
  cases transition with
  | lineUp | run | queue | forward | respond => exact Request.governs_of_same (fun _ => rfl)
  | enter =>
      exact Request.governs_of_same (fun dialog => dialog.subscriptions_bookIn task.request)
  | giveUp =>
      rw [task.giveUp_dialog number]
      exact Request.governs_of_same (fun _ => rfl)
  | cancel =>
      rw [task.cancel_dialog number]
      exact Request.governs_of_same (fun _ => rfl)
  | serve => exact Request.governs_beginSubscription
  | lose => exact Request.governs_endSubscription.comp Request.governs_beginSubscription
  | exit => exact Request.governs_endSubscription

theorem Happening.verdict_of_changed (happening : container.Happening step next effects)
    (sound : container.Sound)
    (changed : ¬ (next.Subscribed session subscription ↔
      container.Subscribed session subscription)) :
    ∃ number task verdict, container.Window step number task ∧ task.dialogSession = session ∧
      task.request.verdict? subscription = some verdict ∧
      (next.Subscribed session subscription ↔ verdict = true) := by
  have touched : next.protocol? session ≠ container.protocol? session :=
    fun same => changed (subscribed_congr (subscriptions?_of_protocol? same))
  obtain ⟨number, task, window, rfl⟩ := happening.window sound touched
  rcases happening.task_cases window.found with ⟨outcome, _, transition, rfl, _⟩ | ⟨others, _⟩
  · cases known : container.dialog? task.dialogSession with
    | none =>
        have missing : container.store.dialogs.get? task.dialogSession = none :=
          Option.map_eq_none_iff.mp known
        refine absurd ?_ touched
        simp only [protocol?, settle, SessionStore.get?_modifyDialog_self, missing]
        rfl
    | some dialog =>
        have after : (container.settle number task outcome).dialog? task.dialogSession =
            some (outcome.dialog dialog) := dialog?_settle outcome known
        rw [subscribed_iff after, subscribed_iff known] at changed
        rw [subscribed_iff after]
        rcases transition.governs subscription dialog with same | ⟨verdict, told, listed⟩
        · exact absurd same changed
        · exact ⟨number, task, verdict, window, rfl, told, listed⟩
  · exact absurd window.about others

end

structure Aloof (session : Nat) (before after : Container) : Prop
    extends Interlude before after where
  subscriptions : after.subscriptions? session = before.subscriptions? session

theorem Aloof.standing_next {session : Nat} {standing : Bool} {before after : Container}
    (others : Aloof session before after)
    (stands : before.Standing session subscription standing) :
    after.Standing session subscription standing := by
  refine stands.congr others.subscriptions ?_
  intro number task
  constructor
  · rintro ⟨present, about, inside⟩
    obtain ⟨made, tasks, handmade⟩ := others.tasks
    rw [tasks] at present
    rcases Nat.lt_or_ge number before.tasks.length with early | late
    · rw [List.getElem?_append_left early] at present
      exact ⟨present, about, inside⟩
    · rw [List.getElem?_append_right late] at present
      rw [(handmade task (List.mem_of_getElem? present)).created] at inside
      cases inside
  · rintro ⟨found, about, inside⟩
    exact ⟨others.task_kept found, about, inside⟩

end Container

/-! ### Runs -/

/-- The requests of a session in the order in which their tasks come in. -/
def entered (session : Nat) (history : List Moment) : List Request :=
  history.filterMap (fun moment => moment.before.arrival? session moment.step)

def verdicts (session : Nat) (subscription : Subscription) (history : List Moment) : List Bool :=
  (entered session history).filterMap (·.verdict? subscription)

/-- A run in which nobody interferes with the tasks of a session: their applications want one
request at a time, the subscriptions are left to them, and none is given up once it has come in. -/
structure Undisturbed (session : Nat) (start : Container) (history : List Moment)
    (finish : Container) : Prop where
  run : Run (Container.Aloof session) start history finish
  strict : finish.Strict session
  carried : ∀ moment ∈ history, ∀ {number task}, moment.step = .cancel number →
    moment.before.tasks[number]? = some task → task.dialogSession = session →
    task.stage.isInside = false

theorem last_verdict_cons (session : Nat) (subscription : Subscription) (moment : Moment)
    (later : List Moment) (standing : Bool) :
    ((verdicts session subscription (moment :: later)).getLast?).getD standing =
      ((verdicts session subscription later).getLast?).getD
        (((moment.before.arrival? session moment.step).bind (·.verdict? subscription)).getD
          standing) := by
  unfold verdicts entered
  rw [List.filterMap_cons]
  cases moment.before.arrival? session moment.step with
  | none => rfl
  | some request =>
      simp only [List.filterMap_cons, Option.bind_some]
      cases request.verdict? subscription with
      | none => rfl
      | some verdict => simp [List.getLast?_cons]

namespace Undisturbed

variable {session : Nat} {start finish : Container} {history : List Moment}
  {subscription : Subscription} {standing : Bool}

theorem strict_at_start {interlude : Container → Container → Prop}
    (weaker : ∀ {before after}, interlude before after → Container.Interlude before after)
    (run : Run interlude start history finish) (sound : start.Sound)
    (strict : finish.Strict session) : start.Strict session := by
  have run := run.weaken weaker
  intro number task found about
  obtain ⟨mode, located, _⟩ := sound.gated found
  obtain ⟨later, present, becomes⟩ := run.task_kept found
  have known := run.preserves (fun container => container.mode? task.application = some mode)
    (fun possible same => ((Container.happening_of_step? possible).mode? _).trans same)
    (fun others same => others.modes same) located
  have asked := strict number later present (becomes ▸ about)
  rw [becomes] at asked
  rw [located, ← known]
  exact asked

theorem standing_next (undisturbed : Undisturbed session start history finish)
    (sound : start.Sound) (stands : start.Standing session subscription standing) :
    finish.Standing session subscription
      (((verdicts session subscription history).getLast?).getD standing) := by
  obtain ⟨run, strict, carried⟩ := undisturbed
  induction run generalizing standing with
  | rest => exact stands
  | step possible rest ih =>
      have happening := Container.happening_of_step? possible
      have strictHere := strict_at_start Container.Aloof.toInterlude (.step possible rest) sound strict
      have next := happening.standing_next sound strictHere (carried _ List.mem_cons_self) stands
      rw [last_verdict_cons]
      exact ih (happening.sound sound) next strict
        (fun moment taken => carried moment (List.mem_cons_of_mem _ taken))
  | pause others _ ih =>
      exact ih (others.sound sound) (others.standing_next stands) strict carried

end Undisturbed

/-- What becomes of the subscriptions of a session in a run. -/
structure LastWord (session : Nat) (start : Container) (history : List Moment)
    (finish : Container) : Prop where
  decided : finish.Clear session → ∀ subscription verdict,
    (verdicts session subscription history).getLast? = some verdict →
    (finish.Subscribed session subscription ↔ verdict = true)
  untold : finish.Clear session → ∀ subscription, verdicts session subscription history = [] →
    (finish.Subscribed session subscription ↔ start.Subscribed session subscription)
  owned : ∀ moment ∈ history, ∀ subscription,
    ¬ (moment.after.Subscribed session subscription ↔
      moment.before.Subscribed session subscription) →
    ∃ number task verdict, moment.before.Window moment.step number task ∧
      task.dialogSession = session ∧ task.request.verdict? subscription = some verdict ∧
      (moment.after.Subscribed session subscription ↔ verdict = true) ∧
      ∃ later, finish.tasks[number]? = some later ∧ later.stage.isPast = true

/-- In every order of steps, and whatever becomes of the requests inside, the last of them to come in
has the last word on a subscription. -/
theorem Undisturbed.lastWord {origin start finish : Container} {early history : List Moment}
    {session : Nat} (undisturbed : Undisturbed session start history finish)
    (rest : origin.AtRest) (run : Run Container.Interlude origin early start)
    (stored : (start.dialog? session).isSome = true) (clear : start.Clear session) :
    LastWord session start history finish := by
  have sound := run.sound rest.sound
  have known : (start.subscriptions? session).isSome = true := by
    rw [Container.subscriptions?, Option.isSome_map, stored]
  have stands (subscription : Subscription) (standing : Bool)
      (initially : start.Subscribed session subscription ↔ standing = true) :
      start.Standing session subscription standing :=
    ⟨known, fun _ => initially, fun occupied => absurd occupied (clear _ _)⟩
  have throughout := undisturbed.run.weaken Container.Aloof.toInterlude
  refine ⟨?_, ?_, ?_⟩
  · intro quiet subscription verdict last
    by_cases initially : start.Subscribed session subscription
    · have later := undisturbed.standing_next sound
        (stands subscription true (iff_of_true initially rfl))
      rw [later.clear quiet, last, Option.getD_some]
    · have later := undisturbed.standing_next sound
        (stands subscription false (iff_of_false initially nofun))
      rw [later.clear quiet, last, Option.getD_some]
  · intro quiet subscription none
    by_cases initially : start.Subscribed session subscription
    · have later := undisturbed.standing_next sound
        (stands subscription true (iff_of_true initially rfl))
      rw [none] at later
      exact iff_of_true ((later.clear quiet).mpr rfl) initially
    · have later := undisturbed.standing_next sound
        (stands subscription false (iff_of_false initially nofun))
      rw [none] at later
      exact iff_of_false (fun listed => nomatch (later.clear quiet).mp listed) initially
  · intro moment taken subscription changed
    obtain ⟨soundThen, happening⟩ := throughout.sound_at sound moment taken
    obtain ⟨number, task, verdict, window, about, told, listed⟩ :=
      happening.verdict_of_changed soundThen changed
    exact ⟨number, task, verdict, window, about, told, listed,
      throughout.isPast_of_window taken window⟩

namespace Sample

/-- A subscription is begun and ended while the application breaks down and fails; the news that it
goes on comes too late. -/
def threeNotifications : List Step :=
  let ended : Request := { notification with subscription := some .terminated, sequence := 2 }
  [.call notification, .enter 0, .call ended, .call { notification with sequence := 3 }, .start 0,
    .giveUp 2, .serve 0 (.panic none), .respond 0 .success, .enter 1, .start 1,
    .serve 1 (.failure { message := "busy" }), .respond 1 .success]

def presence : Subscription := { package := "presence", id := some "7" }

end Sample

theorem Undisturbed.lastWord_threeNotifications :
    let start := Sample.container .session
    let history := (start.follow Sample.threeNotifications).1
    let finish := (start.follow Sample.threeNotifications).2
    Undisturbed 0 start history finish ∧ start.AtRest ∧
      Run Container.Interlude start [] start ∧ (start.dialog? 0).isSome = true ∧ start.Clear 0 ∧
      LastWord 0 start history finish ∧ verdicts 0 Sample.presence history = [true, false] ∧
      finish.Clear 0 ∧ ¬ finish.Subscribed 0 Sample.presence := by
  intro start history finish
  have modes : finish.tasks.all
      (fun task => finish.mode? task.application = some .session) = true := by decide +kernel
  have outside : finish.tasks.all (fun task => !task.stage.isInside) = true := by decide +kernel
  have carried : history.all (fun moment => !(moment.step matches .cancel _)) = true := by decide +kernel
  have rest : start.AtRest := ⟨rfl, rfl, rfl⟩
  have run : Run Container.Interlude start [] start := .rest start
  have told : verdicts 0 Sample.presence history = [true, false] := by decide +kernel
  have undisturbed : Undisturbed 0 start history finish := by
    refine ⟨Run.follow (Container.Aloof 0) start Sample.threeNotifications, ?_, ?_⟩
    · intro number task found _
      exact of_decide_eq_true (List.all_eq_true.mp modes task (List.mem_of_getElem? found))
    · intro moment taken number task cancels
      have other := List.all_eq_true.mp carried moment taken
      rw [cancels] at other
      cases other
  have begun : start.Clear 0 := by
    intro number task occupied
    cases occupied.found
  have quiet : finish.Clear 0 := by
    intro number task occupied
    have still := List.all_eq_true.mp outside task (List.mem_of_getElem? occupied.found)
    rw [occupied.inside] at still
    cases still
  have law := Undisturbed.lastWord undisturbed rest run rfl begun
  refine ⟨undisturbed, rest, run, rfl, begun, law, told, quiet, ?_⟩
  rw [law.decided quiet Sample.presence false (by rw [told]; rfl)]
  exact nofun

end SipContainer

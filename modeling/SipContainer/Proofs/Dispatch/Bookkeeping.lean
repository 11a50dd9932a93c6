import SipContainer.Proofs.Dispatch.Attendance
/-!
What a request leaves in the books of its session. A task books its request when it comes in, may
begin a subscription when it sets out, and may end one when it goes out of its gate; nothing else it
does touches the dialog. So the books come out the same whatever the application, the branches and
the responder do: whether they succeed, fail or break down.
-/

namespace SipContainer

/-! ### The books of a dialog -/

def closeBooks (request : Request) (dialog : Dialog) : Dialog :=
  endSubscription request (beginSubscription request (bookIn request dialog))

/-- What a request leaves in a dialog. -/
structure Recorded (request : Request) (first last : Dialog) : Prop where
  transactions : last.transactions = if request.transaction ∈ first.transactions then
    first.transactions else first.transactions ++ [request.transaction]
  once : first.transactions.count request.transaction ≤ 1 →
    last.transactions.count request.transaction = 1
  state : last.state = Dialog.nextState first.state request.method
  begun : ∀ state subscription, request.isNotify = true → request.subscription = some state →
    state.isActiveOrPending = true → Subscription.ofRequest? request = some subscription →
    ∀ other, other ∈ last.subscriptions ↔ other ∈ first.subscriptions ∨ other = subscription
  ended : ∀ subscription, request.isNotify = true → request.subscription = some .terminated →
    Subscription.ofRequest? request = some subscription →
    ∀ other, other ∈ last.subscriptions ↔ other ∈ first.subscriptions ∧ other ≠ subscription
  untouched : request.isNotify = false ∨ Subscription.ofRequest? request = none ∨
      (∀ state, request.subscription = some state →
        state.isActiveOrPending = false ∧ state ≠ .terminated) →
    last.subscriptions = first.subscriptions
  sequence : last.sequence = first.sequence

namespace Dialog

variable (dialog : Dialog) (request : Request)

theorem transactions_bookIn : (bookIn request dialog).transactions =
    if request.transaction ∈ dialog.transactions then dialog.transactions
    else dialog.transactions ++ [request.transaction] := by
  unfold bookIn addTransaction advance
  by_cases listed : request.transaction ∈ dialog.transactions
  · simp [listed]
  · simp [listed]

theorem state_bookIn :
    (bookIn request dialog).state = nextState dialog.state request.method := by
  unfold bookIn addTransaction advance
  split <;> rfl

theorem subscriptions_bookIn : (bookIn request dialog).subscriptions = dialog.subscriptions := by
  unfold bookIn addTransaction advance
  split <;> rfl

theorem mem_addSubscription (subscription other : Subscription) :
    other ∈ (dialog.addSubscription subscription).subscriptions ↔
      other ∈ dialog.subscriptions ∨ other = subscription := by
  unfold addSubscription
  split
  · rename_i listed
    have member : subscription ∈ dialog.subscriptions := List.contains_iff_mem.mp listed
    constructor
    · exact Or.inl
    · rintro (old | rfl)
      · exact old
      · exact member
  · simp

theorem mem_removeSubscription (subscription other : Subscription) :
    other ∈ (dialog.removeSubscription subscription).subscriptions ↔
      other ∈ dialog.subscriptions ∧ other ≠ subscription := by
  simp [removeSubscription]

end Dialog

theorem beginSubscription_eq (request : Request) (dialog : Dialog) :
    beginSubscription request dialog =
      { dialog with subscriptions := (beginSubscription request dialog).subscriptions } := by
  simp only [beginSubscription]
  split
  · unfold Dialog.subscribe
    split
    · unfold Dialog.addSubscription
      split <;> rfl
    · rfl
  · rfl

theorem endSubscription_eq (request : Request) (dialog : Dialog) :
    endSubscription request dialog =
      { dialog with subscriptions := (endSubscription request dialog).subscriptions } := by
  unfold endSubscription
  split
  · unfold Dialog.unsubscribe
    split <;> rfl
  · rfl

section

variable {request : Request} {subscription : Subscription} (dialog : Dialog)

theorem beginSubscription_of_active {state : SubscriptionState}
    (notifies : request.isNotify = true) (known : request.subscription = some state)
    (active : state.isActiveOrPending = true)
    (about : Subscription.ofRequest? request = some subscription) :
    beginSubscription request dialog = dialog.addSubscription subscription := by
  simp [beginSubscription, Dialog.subscribe, notifies, known, active, about]

theorem beginSubscription_of_idle
    (idle : request.isNotify = false ∨ Subscription.ofRequest? request = none ∨
      ∀ state, request.subscription = some state → state.isActiveOrPending = false) :
    beginSubscription request dialog = dialog := by
  simp only [beginSubscription]
  rcases idle with silent | none | inactive
  · simp [silent]
  · simp [Dialog.subscribe, none]
  · cases known : request.subscription with
    | none => simp
    | some state => simp [inactive state known]

theorem endSubscription_of_terminated (notifies : request.isNotify = true)
    (known : request.subscription = some .terminated)
    (about : Subscription.ofRequest? request = some subscription) :
    endSubscription request dialog = dialog.removeSubscription subscription := by
  simp [endSubscription, Dialog.unsubscribe, notifies, known, about]

theorem endSubscription_of_idle
    (idle : request.isNotify = false ∨ Subscription.ofRequest? request = none ∨
      request.subscription ≠ some .terminated) :
    endSubscription request dialog = dialog := by
  unfold endSubscription
  rcases idle with silent | none | other
  · simp [silent]
  · simp [Dialog.unsubscribe, none]
  · simp [other]

end

theorem recorded_closeBooks (request : Request) (dialog : Dialog) :
    Recorded request dialog (closeBooks request dialog) := by
  have kept : closeBooks request dialog = { bookIn request dialog with
      subscriptions := (closeBooks request dialog).subscriptions } := by
    unfold closeBooks
    rw [endSubscription_eq, beginSubscription_eq]
  have transactions := (congrArg Dialog.transactions kept).trans
    (dialog.transactions_bookIn request)
  exact {
    transactions
    once := by
      intro distinct
      rw [transactions]
      split
      · rename_i listed
        have positive := List.count_pos_iff.mpr listed
        omega
      · rename_i fresh
        rw [List.count_append, List.count_eq_zero.mpr fresh]
        simp
    state := (congrArg Dialog.state kept).trans (dialog.state_bookIn request)
    begun := by
      intro state subscription notifies known active about other
      have goesOn : request.subscription ≠ some .terminated := by
        rw [known]
        rintro ⟨⟩
        cases active
      unfold closeBooks
      rw [endSubscription_of_idle _ (Or.inr (Or.inr goesOn)),
        beginSubscription_of_active _ notifies known active about, Dialog.mem_addSubscription,
        Dialog.subscriptions_bookIn]
    ended := by
      intro subscription notifies known about other
      have inactive : ∀ state, request.subscription = some state →
          state.isActiveOrPending = false := by
        intro state same
        rw [known] at same
        rw [← Option.some.inj same]
        rfl
      unfold closeBooks
      rw [endSubscription_of_terminated _ notifies known about, Dialog.mem_removeSubscription,
        beginSubscription_of_idle _ (Or.inr (Or.inr inactive)), Dialog.subscriptions_bookIn]
    untouched := by
      intro idle
      unfold closeBooks
      rw [endSubscription_of_idle, beginSubscription_of_idle, Dialog.subscriptions_bookIn]
      · exact idle.imp_right (Or.imp_right (fun neither state known => (neither state known).1))
      · exact idle.imp_right (Or.imp_right (fun neither known => (neither _ known).2 rfl))
    sequence := (congrArg Dialog.sequence kept).trans (bookIn_sequence request dialog) }

/-! ### The books along the way of a task -/

/-- How far the books of a dialog are kept when the task of a request has got to a stage. Who gives
a task up while it is inside leaves them as they are. -/
inductive Booked (request : Request) (first : Dialog) : Stage → Dialog → Prop
  | ahead {stage : Stage} (ahead : stage.isAhead = true) :
      Booked request first stage (bookIn request first)
  | serving (plan : Plan) :
      Booked request first (.serving plan) (beginSubscription request (bookIn request first))
  | forwarding (leg : Leg) :
      Booked request first (.forwarding leg) (beginSubscription request (bookIn request first))
  | responding (fault : DispatchError) :
      Booked request first (.responding fault) (closeBooks request first)
  | finished (ending : Ending) :
      Booked request first (.finished ending) (closeBooks request first)
  | cancelled (dialog : Dialog) : Booked request first (.finished .cancelled) dialog

namespace Booked

variable {request : Request} {first dialog : Dialog} {stage : Stage}

theorem eq_of_isAhead (booked : Booked request first stage dialog)
    (ahead : stage.isAhead = true) : dialog = bookIn request first := by
  cases booked with
  | ahead => rfl
  | serving | forwarding | responding | finished | cancelled => cases ahead

theorem eq_of_handBack? (booked : Booked request first stage dialog) {number : Nat}
    {conduct : Conduct} {step : Step} (returned : stage.handBack? number conduct = some step) :
    dialog = beginSubscription request (bookIn request first) := by
  cases booked with
  | serving | forwarding => rfl
  | ahead ahead =>
      cases stage with
      | entered | submitted | queued => cases returned
      | _ => cases ahead
  | responding | finished | cancelled => cases returned

theorem ne_out (booked : Booked request first stage dialog) :
    stage ≠ .created ∧ stage ≠ .waiting := by
  cases booked with
  | ahead ahead => constructor <;> rintro rfl <;> cases ahead
  | serving | forwarding | responding | finished | cancelled => exact ⟨nofun, nofun⟩

theorem eq_closeBooks (booked : Booked request first stage dialog)
    (out : stage.isInside = false) (kept : stage ≠ .finished .cancelled) :
    dialog = closeBooks request first := by
  cases booked with
  | ahead ahead =>
      rw [Stage.isInside_of_isAhead ahead] at out
      cases out
  | serving | forwarding => cases out
  | responding | finished => rfl
  | cancelled => exact absurd rfl kept

end Booked

namespace Container

variable {container next : Container} {step : Step} {effects : List Effect} {number : Nat}
  {task : Task}

theorem booked_exit (number : Nat) (task : Task) (first : Dialog)
    (fault : Option DispatchError) :
    Booked task.request first (task.exit number fault).stage (closeBooks task.request first) := by
  rcases task.exit_stage number fault with completed | ⟨cause, answers | failed⟩
  · rw [completed]
    exact .finished _
  · rw [answers]
    exact .responding _
  · rw [failed]
    exact .finished _

theorem Transition.booked {outcome : Outcome}
    (transition : container.Transition number task step outcome) {first dialog : Dialog}
    (booked : Booked task.request first task.stage dialog) :
    Booked task.request first outcome.stage (outcome.dialog dialog) := by
  cases transition with
  | lineUp created => exact absurd created booked.ne_out.1
  | enter waits | giveUp waits => exact absurd waits booked.ne_out.2
  | run => exact booked
  | queue pool ahead =>
      rw [booked.eq_of_isAhead ahead]
      exact .ahead rfl
  | serve plan proxies pool ahead =>
      rw [booked.eq_of_isAhead ahead]
      exact .serving plan
  | lose pool ahead =>
      rw [booked.eq_of_isAhead ahead]
      exact booked_exit number task first none
  | forward conduct leg proxies returned =>
      rw [booked.eq_of_handBack? returned]
      exact .forwarding leg
  | exit conduct fault proxies returned =>
      rw [booked.eq_of_handBack? returned]
      exact booked_exit number task first fault
  | respond fault conduct answers =>
      rw [answers] at booked
      cases booked with
      | ahead ahead => cases ahead
      | responding => exact .finished _
  | cancel =>
      have given : (task.cancel number).stage = .finished .cancelled := by
        unfold Task.cancel
        rw [if_neg (not_or.mpr booked.ne_out)]
        rfl
      rw [given]
      exact .cancelled _

def dialog? (container : Container) (session : Nat) : Option Dialog :=
  (container.store.dialogs.get? session).map DialogSession.dialog

structure Discreet (session : Nat) (before after : Container) : Prop
    extends Interlude before after where
  dialog : after.dialog? session = before.dialog? session

theorem dialog?_settle {dialog : Dialog} (outcome : Outcome)
    (known : container.dialog? task.dialogSession = some dialog) :
    (container.settle number task outcome).dialog? task.dialogSession =
      some (outcome.dialog dialog) := by
  obtain ⟨session, stored, rfl⟩ := Option.map_eq_some_iff.mp known
  simp only [dialog?, settle, SessionStore.get?_modifyDialog_self, stored, Option.map_some]

def Unbooked (number : Nat) (task : Task) (first : Dialog) (container : Container) : Prop :=
  ∃ later, container.tasks[number]? = some later ∧ task.Becomes later ∧
    later.stage.isInside = false ∧ container.dialog? task.dialogSession = some first

def Kept (number : Nat) (task : Task) (first : Dialog) (container : Container) : Prop :=
  ∃ later dialog, container.tasks[number]? = some later ∧ task.Becomes later ∧
    container.dialog? task.dialogSession = some dialog ∧
    Booked task.request first later.stage dialog

section

variable {first : Dialog}

theorem dialog?_settle_of_becomes (number : Nat) {later : Task} {dialog : Dialog}
    (outcome : Outcome) (becomes : task.Becomes later)
    (known : container.dialog? task.dialogSession = some dialog) :
    (container.settle number later outcome).dialog? task.dialogSession =
      some (outcome.dialog dialog) := by
  rw [becomes] at *
  exact dialog?_settle outcome known

theorem Happening.kept_of_enter (happening : container.Happening (.enter number) next effects)
    (unbooked : container.Unbooked number task first) : next.Kept number task first := by
  obtain ⟨later, found, becomes, _, known⟩ := unbooked
  rcases happening.task_cases found with ⟨outcome, _, transition, rfl, _⟩ | ⟨others, _⟩
  · obtain ⟨_, _, rfl⟩ := transition.of_enter
    refine ⟨later.after later.enter, bookIn task.request first,
      settle_tasks_self later.enter found, becomes.trans rfl, ?_, .ahead later.enter_isAhead⟩
    have booked := dialog?_settle_of_becomes number later.enter becomes known
    rw [becomes] at booked ⊢
    exact booked
  · exact absurd rfl others

theorem Happening.kept (happening : container.Happening step next effects)
    (kept : container.Kept number task first)
    (alone : step.task? ≠ some number →
      next.dialog? task.dialogSession = container.dialog? task.dialogSession) :
    next.Kept number task first := by
  obtain ⟨later, dialog, found, becomes, known, booked⟩ := kept
  rcases happening.task_cases found with ⟨outcome, _, transition, rfl, _⟩ | ⟨others, same⟩
  · refine ⟨later.after outcome, outcome.dialog dialog, settle_tasks_self outcome found,
      becomes.trans rfl, dialog?_settle_of_becomes number outcome becomes known, ?_⟩
    rw [becomes] at booked transition
    exact transition.booked booked
  · exact ⟨later, dialog, same, becomes, (alone others).trans known, booked⟩

theorem Happening.isAhead_of_served (happening : container.Happening step next effects)
    (shown : .served number ∈ effects) (found : container.tasks[number]? = some task) :
    task.stage.isAhead = true := by
  rcases happening.task_cases found with ⟨outcome, _, transition, _, rfl⟩ | ⟨others, _⟩
  · rcases transition.seen shown with ⟨_, ahead, _⟩ | ⟨_, same, _⟩ | ⟨_, same, _⟩
    · exact ahead
    · cases same
    · cases same
  · rcases happening.effect_about shown with none | same
    · cases none
    · exact absurd same.symm others

theorem Happening.booked_of_served (happening : container.Happening step next effects)
    (kept : container.Kept number task first) (shown : .served number ∈ effects) :
    container.dialog? task.dialogSession = some (bookIn task.request first) := by
  obtain ⟨later, dialog, found, _, known, booked⟩ := kept
  rw [known, booked.eq_of_isAhead (happening.isAhead_of_served shown found)]

theorem Happening.not_served (happening : container.Happening step next effects)
    (unbooked : container.Unbooked number task first) : .served number ∉ effects := by
  intro shown
  obtain ⟨later, found, _, outside, _⟩ := unbooked
  rw [Stage.isInside_of_isAhead (happening.isAhead_of_served shown found)] at outside
  cases outside

theorem Happening.unbooked (happening : container.Happening step next effects)
    (unbooked : container.Unbooked number task first)
    (alone : step.task? ≠ some number →
      next.dialog? task.dialogSession = container.dialog? task.dialogSession)
    (stays : step ≠ .enter number) : next.Unbooked number task first := by
  obtain ⟨later, found, becomes, outside, known⟩ := unbooked
  rcases happening.task_cases found with ⟨outcome, _, transition, rfl, _⟩ | ⟨others, same⟩
  · refine ⟨later.after outcome, settle_tasks_self outcome found, becomes.trans rfl, ?_, ?_⟩
    · cases inside : outcome.stage.isInside with
      | false => exact inside
      | true =>
          rcases transition.isInside inside with before | enters
          · rw [before] at outside
            cases outside
          · exact absurd enters stays
    · have same := dialog?_settle_of_becomes number outcome becomes known
      rwa [transition.dialog_eq_id outside stays] at same
  · exact ⟨later, same, becomes, outside, (alone others).trans known⟩

theorem Discreet.kept {before after : Container}
    (others : Discreet task.dialogSession before after) (kept : before.Kept number task first) :
    after.Kept number task first := by
  obtain ⟨later, dialog, found, becomes, known, booked⟩ := kept
  exact ⟨later, dialog, others.task_kept found, becomes, others.dialog.trans known, booked⟩

theorem Discreet.unbooked {before after : Container}
    (others : Discreet task.dialogSession before after)
    (unbooked : before.Unbooked number task first) : after.Unbooked number task first := by
  obtain ⟨later, found, becomes, outside, known⟩ := unbooked
  exact ⟨later, others.task_kept found, becomes, outside, others.dialog.trans known⟩

end

end Container

/-! ### Runs -/

structure Visit (number session : Nat) (start : Container) (history : List Moment)
    (finish : Container) : Prop where
  run : Run (Container.Discreet session) start history finish
  alone : ∀ moment ∈ history, moment.step.task? ≠ some number →
    moment.after.dialog? session = moment.before.dialog? session

/-- Whenever the application gets the request of a task, it has been booked, and with it the state
of the dialog has been brought up to date. -/
def Prepared (number : Nat) (task : Task) (first : Dialog) (history : List Moment) : Prop :=
  ∀ moment ∈ history, .served number ∈ moment.effects →
    ∃ dialog, moment.before.dialog? task.dialogSession = some dialog ∧
      dialog = bookIn task.request first ∧
      dialog.state = Dialog.nextState first.state task.request.method

theorem Prepared.cons {number : Nat} {task : Task} {first : Dialog} {moment : Moment}
    {later : List Moment} (prepared : Prepared number task first later)
    (now : .served number ∈ moment.effects →
      moment.before.dialog? task.dialogSession = some (bookIn task.request first)) :
    Prepared number task first (moment :: later) := by
  intro other taken shown
  rcases List.mem_cons.mp taken with rfl | taken
  · exact ⟨_, now shown, rfl, first.state_bookIn task.request⟩
  · exact prepared other taken shown

namespace Visit

variable {start middle finish : Container} {history later : List Moment} {number : Nat}
  {task : Task} {first : Dialog}

theorem append {session : Nat} (early : Visit number session start history middle)
    (late : Visit number session middle later finish) :
    Visit number session start (history ++ later) finish where
  run := early.run.append late.run
  alone := by
    intro moment taken
    rcases List.mem_append.mp taken with before | after
    · exact early.alone moment before
    · exact late.alone moment after

theorem kept (visit : Visit number task.dialogSession start history finish)
    (kept : start.Kept number task first) :
    Prepared number task first history ∧ finish.Kept number task first := by
  obtain ⟨run, alone⟩ := visit
  induction run with
  | rest =>
      constructor
      · intro moment taken
        cases taken
      · exact kept
  | step possible _ ih =>
      have happening := Container.happening_of_step? possible
      obtain ⟨prepared, after⟩ := ih (happening.kept kept (alone _ List.mem_cons_self))
        (fun moment later => alone moment (List.mem_cons_of_mem _ later))
      exact ⟨prepared.cons (happening.booked_of_served kept), after⟩
  | pause others _ ih => exact ih (others.kept kept) alone

theorem kept_or_unbooked (visit : Visit number task.dialogSession start history finish)
    (unbooked : start.Unbooked number task first) :
    Prepared number task first history ∧ (finish.Kept number task first ∨
      ∀ moment ∈ history, moment.step ≠ .enter number) := by
  obtain ⟨run, alone⟩ := visit
  induction run with
  | rest =>
      constructor
      · intro moment taken
        cases taken
      · right
        intro moment taken
        cases taken
  | @step before next _ step effects later possible rest ih =>
      have happening := Container.happening_of_step? possible
      have onward : ∀ moment ∈ later, moment.step.task? ≠ some number →
          moment.after.dialog? task.dialogSession = moment.before.dialog? task.dialogSession :=
        fun moment taken => alone moment (List.mem_cons_of_mem _ taken)
      have silent (shown : .served number ∈ effects) :
          before.dialog? task.dialogSession = some (bookIn task.request first) :=
        absurd shown (happening.not_served unbooked)
      by_cases enters : step = .enter number
      · subst enters
        have visit : Visit number task.dialogSession next later _ := ⟨rest, onward⟩
        obtain ⟨prepared, kept⟩ := visit.kept (happening.kept_of_enter unbooked)
        exact ⟨prepared.cons silent, Or.inl kept⟩
      · have after := happening.unbooked unbooked (alone _ List.mem_cons_self) enters
        obtain ⟨prepared, kept | never⟩ := ih after onward
        · exact ⟨prepared.cons silent, Or.inl kept⟩
        · refine ⟨prepared.cons silent, Or.inr ?_⟩
          intro moment taken
          rcases List.mem_cons.mp taken with rfl | taken
          · exact enters
          · exact never moment taken
  | pause others _ ih => exact ih (others.unbooked unbooked) alone

end Visit

/-- A task has gone its way: the application got its request when it was booked, the books are
closed, and the task stands at no gate. -/
structure Settled (number : Nat) (task : Task) (first : Dialog) (history : List Moment)
    (finish : Container) : Prop where
  prepared : Prepared number task first history
  dialog : finish.dialog? task.dialogSession = some (closeBooks task.request first)
  recorded : Recorded task.request first (closeBooks task.request first)
  gone : ∀ gate, .task number ∉ (finish.gates.gate gate).line

structure Bookkeeping (start : Container) (number : Nat) (task : Task) (first : Dialog) :
    Prop where
  prepared : ∀ {history finish}, Visit number task.dialogSession start history finish →
    Prepared number task first history
  settled : ∀ {history finish later}, Visit number task.dialogSession start history finish →
    (∃ moment ∈ history, moment.step = .enter number) → finish.tasks[number]? = some later →
    later.stage.isInside = false → later.stage ≠ .finished .cancelled →
    Settled number task first history finish
  attended : ∀ {history middle later}, Visit number task.dialogSession start history middle →
    (∃ moment ∈ history, moment.step = .enter number) → middle.Ready number later →
    ∀ team, ∃ rest finish, middle.Attended team number rest finish ∧
      Settled number task first (history ++ rest) finish
  byHand : task.course = .byHand → task.stage = .created → start.Free task →
    ∀ calls answers team, ∃ rest finish,
      let (history, middle) := start.attempt (Container.runCall number calls answers)
      middle.Attended team number rest finish ∧
        Settled number task first (history ++ rest) finish

section

variable {start middle finish : Container} {history rest : List Moment} {number : Nat}
  {task later : Task} {first : Dialog}

theorem Container.Kept.settled (kept : finish.Kept number task first) (sound : finish.Sound)
    (prepared : Prepared number task first history)
    (found : finish.tasks[number]? = some later) (out : later.stage.isInside = false)
    (carried : later.stage ≠ .finished .cancelled) :
    Settled number task first history finish := by
  obtain ⟨same, dialog, foundSame, _, known, booked⟩ := kept
  obtain rfl := Option.some.inj (found.symm.trans foundSame)
  have outOfLine : later.stage.isInLine = false := by
    apply Bool.eq_false_iff.mpr
    intro inLine
    rcases later.stage.isInLine_iff.mp inLine with waits | inside
    · exact booked.ne_out.2 waits
    · rw [out] at inside
      cases inside
  rw [booked.eq_closeBooks out carried] at known
  exact ⟨prepared, known, recorded_closeBooks task.request first,
    sound.orderly.not_mem_of_out found outOfLine⟩

theorem Container.Attended.visit {team : Team} (session : Nat)
    (attended : middle.Attended team number rest finish) :
    Visit number session middle rest finish where
  run := attended.run.weaken False.elim
  alone := by
    intro moment taken others
    obtain ⟨task, _, turn⟩ := attended.turns moment taken
    exact absurd (team.task?_of_turn? turn) others

theorem Visit.settled (visit : Visit number task.dialogSession start history finish)
    (sound : start.Sound) (unbooked : start.Unbooked number task first)
    (entered : ∃ moment ∈ history, moment.step = .enter number)
    (found : finish.tasks[number]? = some later) (out : later.stage.isInside = false)
    (carried : later.stage ≠ .finished .cancelled) :
    Settled number task first history finish := by
  obtain ⟨prepared, kept | never⟩ := visit.kept_or_unbooked unbooked
  · have soundAfter := (visit.run.weaken Container.Discreet.toInterlude).sound sound
    exact kept.settled soundAfter prepared found out carried
  · obtain ⟨moment, taken, enters⟩ := entered
    exact absurd enters (never moment taken)

theorem Visit.attended (visit : Visit number task.dialogSession start history middle)
    (sound : start.Sound) (unbooked : start.Unbooked number task first)
    (entered : ∃ moment ∈ history, moment.step = .enter number)
    (ready : middle.Ready number later) (team : Team) :
    ∃ rest finish, middle.Attended team number rest finish ∧
      Settled number task first (history ++ rest) finish := by
  obtain ⟨rest, finish, attended⟩ := ready.ends team
  obtain ⟨last, ending, found, finished, kept⟩ := attended.ended
  have enteredEarly : ∃ moment ∈ history ++ rest, moment.step = .enter number := by
    obtain ⟨moment, taken, enters⟩ := entered
    exact ⟨moment, List.mem_append_left rest taken, enters⟩
  refine ⟨rest, finish, attended, ?_⟩
  refine (visit.append (attended.visit task.dialogSession)).settled sound unbooked enteredEarly
    found ?_ ?_
  · rw [finished]
    rfl
  · rw [finished]
    intro same
    exact kept (Stage.finished.inj same)

/-- In every state of the container a task leaves the same behind in the books of its session,
whatever the application, the branches and the responder do. -/
theorem Container.bookkeeping {origin : Container} {early : List Moment} (rest : origin.AtRest)
    (run : Run Container.Interlude origin early start) (found : start.tasks[number]? = some task)
    (outside : task.stage.isInside = false)
    (known : start.dialog? task.dialogSession = some first) :
    Bookkeeping start number task first := by
  have sound := run.sound rest.sound
  have unbooked : start.Unbooked number task first := ⟨task, found, .refl task, outside, known⟩
  exact {
    prepared := fun visit => (visit.kept_or_unbooked unbooked).1
    settled := fun visit entered => visit.settled sound unbooked entered
    attended := fun visit entered ready => visit.attended sound unbooked entered ready
    byHand := by
      intro byHand created free calls answers team
      have visit : Visit number task.dialogSession start _ _ :=
        ⟨attempt_run _ start (runCall number calls answers), ?_⟩
      · obtain ⟨ready, entered⟩ := attempt_runCall calls answers found byHand created free
        exact visit.attended sound unbooked entered ready team
      · intro moment taken others
        exact absurd (attempt_about (runCall_about number calls answers) moment taken) others }

end

def Sample.notification : Request :=
  { request .notify 1 with
    subscription := some .active
    event := some { package := "presence", id := some "7" } }

def Sample.handmade : Task where
  request := notification
  application := 0
  applicationSession := 0
  dialogSession := 0
  key :=
    { localAddress := "sip:b", localTag := none, remoteAddress := "sip:b", callId := "c",
      applicationName := "a", applicationSessionId := "s" }
  gate := some (.dialog 0)
  timeout := none
  course := .byHand
  stage := .created

theorem Container.bookkeeping_handmade :
    let origin := Sample.container .session
    let start := { origin with tasks := [Sample.handmade] }
    let team : Team :=
      { application := .panic none, branch := fun _ => .success, responder := .success }
    let books : Dialog :=
      { transactions := [.generated 1], subscriptions := [{ package := "presence", id := "7" }] }
    origin.AtRest ∧ Run Container.Interlude origin [] start ∧
      start.tasks[0]? = some Sample.handmade ∧ start.dialog? 0 = some {} ∧
      Bookkeeping start 0 Sample.handmade {} ∧
      closeBooks Sample.notification {} = books ∧
      ∃ rest finish, (start.attempt (Container.runCall 0 2 true)).2.Attended team 0 rest finish ∧
        finish.dialog? 0 = some books := by
  intro origin start team books
  have rest : origin.AtRest := ⟨rfl, rfl, rfl⟩
  have made : Container.Interlude origin start := by
    refine ⟨rfl, rfl, rfl, ⟨[Sample.handmade], rfl, ?_⟩, id⟩
    intro task member
    rw [List.mem_singleton.mp member]
    exact ⟨rfl, rfl, .session, rfl, rfl⟩
  have run : Run Container.Interlude origin [] start := .pause made (.rest start)
  have kept : Bookkeeping start 0 Sample.handmade {} :=
    Container.bookkeeping rest run rfl rfl rfl
  have free : start.Free Sample.handmade := by
    intro gate _
    rfl
  have closed : closeBooks Sample.notification {} = books := by decide +kernel
  obtain ⟨later, finish, attended, settled⟩ := kept.byHand rfl rfl free 2 true team
  exact ⟨rest, run, rfl, rfl, kept, closed, later, finish, attended, closed ▸ settled.dialog⟩

end SipContainer

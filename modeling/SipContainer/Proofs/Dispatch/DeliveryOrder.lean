import SipContainer.Proofs.Dispatch.Serialization
/-!
Sequence numbers as the application sees them. The dispatching call checks and takes down the number
of a request before the request waits for its gate, while the application gets the request much
later, from inside the gate and perhaps in a pool. The two orders agree: calls take down rising
numbers, tasks get into the line in the order of their calls, come in in the order of the line, and
are served in the order in which they come in.
-/

namespace SipContainer

/-- The number that a request has to itself. ACK and CANCEL repeat that of another. -/
def Request.ownSequence? (request : Request) : Option Nat :=
  if request.method.reusesSequenceNumber then none else some request.sequence

theorem Request.ownSequence?_eq_some_iff {request : Request} {own : Nat} :
    request.ownSequence? = some own ↔
      request.method.reusesSequenceNumber = false ∧ request.sequence = own := by
  unfold ownSequence?
  cases request.method.reusesSequenceNumber with
  | true => simp
  | false => simp

def Above (last : Option Nat) (number : Nat) : Prop :=
  ∀ seen ∈ last, seen < number

namespace Above

variable {last : Option Nat} {request : Request}

theorem of_inSequence (inSequence : Dialog.inSequence last request = true) {own : Nat}
    (owns : request.ownSequence? = some own) : Above last own := by
  obtain ⟨fresh, rfl⟩ := Request.ownSequence?_eq_some_iff.mp owns
  exact (Dialog.inSequence_iff_of_own fresh).mp inSequence

theorem nextSequence_of_own (inSequence : Dialog.inSequence last request = true) {own : Nat}
    (owns : request.ownSequence? = some own) : Dialog.nextSequence last request = some own := by
  obtain ⟨fresh, rfl⟩ := Request.ownSequence?_eq_some_iff.mp owns
  rw [Dialog.nextSequence, fresh, if_neg Bool.noConfusion, if_pos inSequence]

theorem of_nextSequence (inSequence : Dialog.inSequence last request = true) {number : Nat}
    (above : Above (Dialog.nextSequence last request) number) : Above last number := by
  cases owns : request.ownSequence? with
  | none =>
      unfold Request.ownSequence? at owns
      split at owns
      · rename_i reuses
        rwa [Dialog.nextSequence, if_pos reuses] at above
      · cases owns
  | some own =>
      rw [nextSequence_of_own inSequence owns] at above
      intro seen present
      exact Nat.lt_trans (of_inSequence inSequence owns seen present) (above own rfl)

end Above

namespace Container

variable {container next : Container} {step : Step} {effects : List Effect}

def sequencing? (container : Container) (session : Nat) : Option (Option Nat × Option Nat) :=
  (container.store.dialogs.get? session).map (fun session =>
    (session.proxy, session.dialog.sequence))

theorem sequencing?_eq_some {session : Nat} {proxy last : Option Nat}
    (known : container.sequencing? session = some (proxy, last)) :
    ∃ found, container.store.dialogs.get? session = some found ∧ found.proxy = proxy ∧
      found.dialog.sequence = last := by
  obtain ⟨found, located, same⟩ := Option.map_eq_some_iff.mp known
  obtain ⟨rfl, rfl⟩ := Prod.mk.inj same
  exact ⟨found, located, rfl, rfl⟩

/-- An interlude in which a session gets no proxy, no number is taken down for it, and no task is
made for it by hand. -/
structure Undisturbed (session : Nat) (before after : Container) : Prop
    extends Interlude before after where
  sequencing : after.sequencing? session = before.sequencing? session
  dispatched : ∀ task ∈ after.tasks, task ∈ before.tasks ∨ task.dialogSession ≠ session

def Dispatched (container : Container) (session : Nat) : Prop :=
  ∀ task ∈ container.tasks, task.dialogSession = session →
    task.stage.isFinished = true ∨ ∃ execution, task.course = .dispatched execution

theorem Transition.unfinished {number : Nat} {task : Task} {outcome : Outcome}
    (transition : container.Transition number task step outcome) :
    task.stage.isFinished = false := by
  cases transition with
  | lineUp waits | enter waits | giveUp waits | respond _ _ waits => rw [waits]; rfl
  | run answers _ idle => rcases idle with created | entered <;> simp [*, Stage.isFinished]
  | queue _ ahead | serve _ _ _ ahead | lose _ ahead =>
      cases stage : task.stage with
      | finished => rw [stage] at ahead; cases ahead
      | _ => rfl
  | forward _ _ _ returned | exit _ _ _ returned =>
      cases stage : task.stage with
      | finished => rw [stage] at returned; cases returned
      | _ => rfl
  | cancel unfinished => exact unfinished

theorem Happening.dispatched (happening : container.Happening step next effects) {session : Nat}
    (before : container.Dispatched session) : next.Dispatched session := by
  intro later present about
  obtain ⟨number, found⟩ := List.mem_iff_getElem?.mp present
  rcases happening.task_origin found with ⟨task, foundTask, becomes⟩ |
    ⟨request, application, resolution, asked, _, _, _, rfl⟩
  · rw [becomes] at about
    rcases before task (List.mem_of_getElem? foundTask) about with finished | ⟨execution, course⟩
    · left
      cases happening with
      | @task other subject _ outcome foundSubject transition =>
          have different : number ≠ other := by
            rintro rfl
            obtain rfl := Option.some.inj (foundTask.symm.trans foundSubject)
            rw [transition.unfinished] at finished
            cases finished
          rw [settle_tasks_of_ne subject outcome different, foundTask] at found
          rwa [← Option.some.inj found]
      | accept request application resolution =>
          rw [accept_tasks, List.getElem?_append_left (List.getElem?_eq_some_iff.mp foundTask).1,
            foundTask] at found
          rwa [← Option.some.inj found]
      | answer | relay | hold | release => rwa [← Option.some.inj (foundTask.symm.trans found)]
    · exact Or.inr ⟨execution, (happening.course_kept foundTask found).mpr course⟩
  · exact Or.inr ⟨_, rfl⟩

theorem sequencing?_accept {request : Request} {application : Nat} {resolution : Resolution}
    {asked : List Effect} {last : Option Nat}
    (received : container.receive request = (.accept application resolution, asked))
    (known : container.sequencing? resolution.dialogSession = some (none, last)) :
    Dialog.inSequence last request = true ∧
      (container.accept request application resolution).sequencing? resolution.dialogSession =
        some (none, Dialog.nextSequence last request) := by
  obtain ⟨_, _, session, accepted⟩ := accepted received
  obtain ⟨same, located, direct, counter⟩ := sequencing?_eq_some known
  obtain rfl := Option.some.inj (accepted.stored.symm.trans located)
  have admitted := accepted.admitted
  constructor
  · simpa only [admitsSequence, direct, counter, Option.isSome_none, Bool.false_or] using admitted
  · change (container.noteSequence resolution.dialogSession request).sequencing? _ = _
    rw [container.noteSequence_of_direct _ request located direct]
    simp only [Container.sequencing?, modifyDialog, SessionStore.get?_modifyDialog_self, located,
      Option.map_some, direct, Dialog.noteSequence, counter]

theorem Happening.sequencing? (happening : container.Happening step next effects) {session : Nat}
    {last : Option Nat} (known : container.sequencing? session = some (none, last)) :
    ∃ later, next.sequencing? session = some (none, later) ∧
      ∀ number, Above later number → Above last number := by
  cases happening with
  | @task number task _ outcome found transition =>
      refine ⟨last, ?_, fun _ above => above⟩
      rw [← known]
      by_cases own : session = task.dialogSession
      · subst own
        simp only [Container.sequencing?, settle, SessionStore.get?_modifyDialog_self,
          Option.map_map, Function.comp_def, transition.dialog_sequence]
      · simp only [Container.sequencing?, settle, SessionStore.get?_modifyDialog_of_ne _ _ own]
  | accept request application resolution asked received =>
      by_cases own : session = resolution.dialogSession
      · subst own
        obtain ⟨inSequence, noted⟩ := sequencing?_accept received known
        exact ⟨_, noted, fun _ above => Above.of_nextSequence inSequence above⟩
      · refine ⟨last, ?_, fun _ above => above⟩
        change (container.noteSequence resolution.dialogSession request).sequencing? session = _
        rw [← known]
        rcases container.noteSequence_eq resolution.dialogSession request with kept | noted
        · rw [kept]
        · rw [noted]
          simp only [Container.sequencing?, modifyDialog,
            SessionStore.get?_modifyDialog_of_ne _ _ own]
  | answer | relay | hold | release => exact ⟨last, known, fun _ above => above⟩

theorem Happening.comes (happening : container.Happening step next effects)
    (sound : container.Sound) {session number : Nat} (dispatched : container.Dispatched session)
    (comes : container.passage? (.dialog session) step = some (.comes number)) :
    ∃ request application resolution asked, step = .call request ∧
      container.receive request = (.accept application resolution, asked) ∧
      resolution.dialogSession = session ∧
      next = container.accept request application resolution ∧ number = container.tasks.length := by
  cases happening with
  | @task other task _ outcome found transition =>
      rw [passage?_of_task transition.about found] at comes
      split at comes
      · rename_i gated
        have about : task.dialogSession = session :=
          (((sound.gated found).guards_iff _).mp gated).2
        cases transition with
        | lineUp created =>
            rcases dispatched task (List.mem_of_getElem? found) about with finished | ⟨_, course⟩
            · rw [created] at finished
              cases finished
            · exact absurd created (sound.lined found course)
        | forward _ _ _ returned | exit _ _ _ returned =>
            rw [Task.passage?_of_handBack? returned] at comes
            cases comes
        | cancel =>
            simp only [Task.passage?] at comes
            split at comes <;> cases comes
        | _ => cases comes
      · cases comes
  | accept request application resolution asked received =>
      simp only [passage?, received] at comes
      split at comes
      · rename_i gated
        obtain rfl := Passage.comes.inj (Option.some.inj comes)
        obtain ⟨_, _, _, accepted⟩ := accepted received
        have guards := ((makeTask_gated accepted.located).guards_iff _).mp gated
        exact ⟨request, application, resolution, _, rfl, received, guards.2, rfl, rfl⟩
      · cases comes
  | answer request _ _ declined =>
      cases reception : (container.receive request).1 with
      | accept application resolution => exact absurd reception (declined application resolution)
      | relay | drop | outOfSequence | refuse =>
          simp only [passage?, reception] at comes
          cases comes
  | relay | hold | release => cases comes

def delivers? (container : Container) (session : Nat) : Effect → Option Request
  | .served number =>
    (container.tasks[number]?).bind (fun task =>
      if container.mode? task.application = some .session ∧ task.dialogSession = session then
        some task.request
      else none)
  | _ => none

theorem Sound.delivers?_eq (sound : container.Sound) (session : Nat) (effect : Effect) :
    container.delivers? session effect =
      (container.servedAt? (.dialog session) effect).bind (fun number =>
        (container.tasks[number]?).map Task.request) := by
  cases effect with
  | served number =>
      cases found : container.tasks[number]? with
      | none => simp [delivers?, servedAt?, found]
      | some task =>
          have guards := (sound.gated found).guards_iff (.dialog session)
          by_cases gated : task.gate = some (.dialog session)
          · have mine := guards.mp gated
            simp [delivers?, servedAt?, found, gated, mine.1, mine.2]
          · have others : ¬ (container.mode? task.application = some .session ∧
                task.dialogSession = session) := fun mine => gated (guards.mpr mine)
            simp only [delivers?, servedAt?, found, Option.bind_some, if_neg others, if_neg gated,
              Option.bind_none]
  | _ => rfl

end Container

/-- The requests of a session in the order in which applications in session mode get them. -/
def delivered (session : Nat) (history : List Moment) : List Request :=
  history.flatMap (fun moment => moment.effects.filterMap (moment.before.delivers? session))

def ownSequences (tasks : List Task) (numbers : List Nat) : List Nat :=
  numbers.filterMap (fun number =>
    (tasks[number]?).bind (fun task => task.request.ownSequence?))

private theorem ownSequences_comes_none {tasks : List Task} {number : Nat} {later : List Passage}
    (own : (tasks[number]?).bind (fun task => task.request.ownSequence?) = none) :
    ownSequences tasks ((Passage.comes number :: later).filterMap Passage.came?) =
      ownSequences tasks (later.filterMap Passage.came?) :=
  List.filterMap_cons_none own

private theorem ownSequences_comes_some {tasks : List Task} {number first : Nat}
    {later : List Passage}
    (own : (tasks[number]?).bind (fun task => task.request.ownSequence?) = some first) :
    ownSequences tasks ((Passage.comes number :: later).filterMap Passage.came?) =
      first :: ownSequences tasks (later.filterMap Passage.came?) :=
  List.filterMap_cons_some own

namespace Run

variable {start finish : Container} {history : List Moment}

theorem delivered_eq (run : Run Container.Interlude start history finish) (sound : start.Sound)
    (session : Nat) :
    (delivered session history).filterMap Request.ownSequence? =
      ownSequences finish.tasks (served (.dialog session) history) := by
  induction run with
  | rest => rfl
  | @step before next finish step effects later possible run ih =>
      have happening := Container.happening_of_step? possible
      have rest := ih (happening.sound sound)
      have first : (effects.filterMap (before.delivers? session)).filterMap Request.ownSequence? =
          ownSequences finish.tasks (effects.filterMap (before.servedAt? (.dialog session))) := by
        unfold ownSequences
        rw [List.filterMap_filterMap, List.filterMap_filterMap]
        apply List.filterMap_congr
        intro effect _
        rw [sound.delivers?_eq, Option.bind_assoc]
        cases named : before.servedAt? (.dialog session) effect with
        | none => rfl
        | some number =>
            rw [Option.bind_some, Option.bind_some]
            obtain ⟨task, found, _⟩ := Container.found_of_servedAt? named
            obtain ⟨last, kept, becomes⟩ := (Run.step possible run).task_kept found
            rw [found, kept, becomes]
            rfl
      unfold delivered served ownSequences at *
      simp only [List.flatMap_cons, List.filterMap_append, first, rest]
  | pause others _ ih => exact ih (others.sound sound)

theorem came_increasing {session : Nat} {last : Option Nat}
    (run : Run (Container.Undisturbed session) start history finish) (sound : start.Sound)
    (dispatched : start.Dispatched session)
    (known : start.sequencing? session = some (none, last)) :
    let numbers := ownSequences finish.tasks
      ((passages (.dialog session) history).filterMap Passage.came?)
    numbers.Pairwise (· < ·) ∧ ∀ number ∈ numbers, Above last number := by
  induction run generalizing last with
  | rest => exact ⟨.nil, fun number present => (List.not_mem_nil present).elim⟩
  | @step before next finish step effects later possible run ih =>
      have happening := Container.happening_of_step? possible
      have soundNext := happening.sound sound
      have dispatchedNext := happening.dispatched dispatched
      by_cases comes : ∃ number, before.passage? (.dialog session) step = some (.comes number)
      · obtain ⟨number, comes⟩ := comes
        obtain ⟨request, application, resolution, asked, rfl, received, rfl, rfl, rfl⟩ :=
          happening.comes sound dispatched comes
        obtain ⟨inSequence, noted⟩ := Container.sequencing?_accept received known
        obtain ⟨rising, above⟩ := ih soundNext dispatchedNext noted
        obtain ⟨task, kept, becomes⟩ :=
          (run.weaken Container.Undisturbed.toInterlude).task_kept
            (show (before.accept request application resolution).tasks[before.tasks.length]? =
              some (before.makeTask request application resolution) by simp)
        have own : (finish.tasks[before.tasks.length]?).bind
            (fun task => task.request.ownSequence?) = request.ownSequence? := by
          rw [kept, becomes]
          rfl
        rw [passages_cons_some comes]
        cases owns : request.ownSequence? with
        | none =>
            rw [owns] at own
            rw [ownSequences_comes_none own]
            exact ⟨rising, fun number present =>
              Above.of_nextSequence inSequence (above number present)⟩
        | some first =>
            rw [owns] at own
            rw [Above.nextSequence_of_own inSequence owns] at above
            rw [ownSequences_comes_some own]
            have lowest := Above.of_inSequence inSequence owns
            refine ⟨.cons (fun number present => above number present first rfl) rising, ?_⟩
            intro number present
            rcases List.mem_cons.mp present with rfl | behind
            · exact lowest
            · intro seen noted
              exact Nat.lt_trans (lowest seen noted) (above number behind first rfl)
      · have same : (passages (.dialog session)
            ({ before, step, effects, after := next } :: later)).filterMap Passage.came? =
              (passages (.dialog session) later).filterMap Passage.came? := by
          cases happens : before.passage? (.dialog session) step with
          | none => rw [passages_cons_none happens]
          | some passage =>
              rw [passages_cons_some happens]
              cases passage with
              | comes number => exact absurd ⟨number, happens⟩ comes
              | enters | goes => rfl
        obtain ⟨counter, counted, lower⟩ := happening.sequencing? known
        obtain ⟨rising, above⟩ := ih soundNext dispatchedNext counted
        rw [same]
        exact ⟨rising, fun number present => lower number (above number present)⟩
  | @pause before next finish later others _ ih =>
      apply ih (others.toInterlude.sound sound) _ (others.sequencing.trans known)
      intro task present about
      rcases others.dispatched task present with old | other
      · exact dispatched task old about
      · exact absurd about other

theorem sequencing?_le {session seen : Nat}
    (run : Run (Container.Undisturbed session) start history finish)
    (known : start.sequencing? session = some (none, some seen)) :
    ∃ last, finish.sequencing? session = some (none, some last) ∧ seen ≤ last := by
  refine run.preserves (fun container => ∃ last,
    container.sequencing? session = some (none, some last) ∧ seen ≤ last) ?_ ?_
    ⟨seen, known, Nat.le_refl seen⟩
  · rintro before next step effects possible ⟨last, noted, bound⟩
    obtain ⟨later, notedLater, lower⟩ := (Container.happening_of_step? possible).sequencing? noted
    cases later with
    | none =>
        have never : Above (some last) 0 := lower 0 nofun
        exact absurd (never last rfl) (Nat.not_lt_zero last)
    | some later =>
        have next : Above (some later) (later + 1) := by
          rintro _ ⟨⟩
          exact Nat.lt_succ_self later
        have risen : last < later + 1 := lower _ next last rfl
        exact ⟨later, notedLater, by omega⟩
  · rintro before next others ⟨last, noted, bound⟩
    exact ⟨last, others.sequencing.trans noted, bound⟩

end Run

def Container.Idle (container : Container) (session : Nat) : Prop :=
  ∀ task ∈ container.tasks, task.dialogSession = session → task.stage.isFinished = true

namespace Container

variable {container : Container} {session : Nat}

theorem Idle.waiting_eq_nil (idle : container.Idle session) (sound : container.Sound) :
    container.waiting (.dialog session) = [] := by
  apply List.filterMap_eq_nil_iff.mpr
  intro party present
  cases party with
  | outsider => rfl
  | task number =>
      obtain ⟨task, found, gated, _⟩ := sound.orderly.known present
      have about := (((sound.gated found).guards_iff _).mp gated).2
      have finished := idle task (List.mem_of_getElem? found) about
      have past : task.stage ≠ .waiting := by
        intro waits
        rw [waits] at finished
        cases finished
      simp [waits?, found, past]

theorem Idle.not_aheadAt (idle : container.Idle session) (sound : container.Sound) (number : Nat) :
    ¬ container.AheadAt (.dialog session) number := by
  rintro ⟨task, found, gated, ahead⟩
  have about := (((sound.gated found).guards_iff _).mp gated).2
  have finished := idle task (List.mem_of_getElem? found) about
  cases stage : task.stage with
  | finished => rw [stage] at ahead; cases ahead
  | _ => rw [stage] at finished; cases finished

end Container

/-- On a session that nobody works on at first, that has no proxy and whose counter is left to the
dispatcher, applications in session mode get rising sequence numbers, all above the one seen before:
none comes twice, and none comes late. -/
theorem Run.delivered_increasing {rest start finish : Container} {past history : List Moment}
    {session : Nat} {last : Option Nat} (earlier : Run Container.Interlude rest past start)
    (atRest : rest.AtRest) (run : Run (Container.Undisturbed session) start history finish)
    (idle : start.Idle session) (known : start.sequencing? session = some (none, last)) :
    let numbers := (delivered session history).filterMap Request.ownSequence?
    numbers.Pairwise (· < ·) ∧ ∀ number ∈ numbers, Above last number := by
  have sound := earlier.sound atRest.sound
  have loose := run.weaken Container.Undisturbed.toInterlude
  have turn := loose.inTurn sound (.dialog session)
  rw [idle.waiting_eq_nil sound] at turn
  have delivery : (served (.dialog session) history).Sublist
      ((passages (.dialog session) history).filterMap Passage.came?) :=
    (loose.served_sublist sound (idle.not_aheadAt sound)).trans turn.entered_sublist
  have dispatched : start.Dispatched session :=
    fun task present about => Or.inl (idle task present about)
  obtain ⟨rising, above⟩ := run.came_increasing sound dispatched known
  have numbers := delivery.filterMap (fun number =>
    (finish.tasks[number]?).bind (fun task => task.request.ownSequence?))
  rw [loose.delivered_eq sound session]
  exact ⟨rising.sublist numbers, fun number present => above number (numbers.subset present)⟩

def Sample.handledCall : List Step :=
  [.call (request .info 4), .enter 0, .start 0, .serve 0 .success]

/-- Number 4 is dispatched again, 7 and 9 in order, and 8 late; the first handler fails. -/
def Sample.disorderedCalls : List Step :=
  [.call (request .info 4), .call (request .info 7), .call (request .ack 7),
    .call (request .info 9), .enter 1, .start 1, .call (request .info 8),
    .serve 1 (.failure { message := "no" }), .respond 1 .success, .enter 2, .start 2,
    .serve 2 .success, .enter 3, .start 3, .serve 3 .success]

theorem Run.delivered_increasing_disorderedCalls :
    let earlier := (Sample.container .session).follow Sample.handledCall
    let later := earlier.2.follow Sample.disorderedCalls
    let numbers := (delivered 0 later.1).filterMap Request.ownSequence?
    Run Container.Interlude (Sample.container .session) earlier.1 earlier.2 ∧
      Run (Container.Undisturbed 0) earlier.2 later.1 later.2 ∧ earlier.2.Idle 0 ∧
      earlier.2.sequencing? 0 = some (none, some 4) ∧ numbers = [7, 9] ∧
      numbers.Pairwise (· < ·) ∧ ∀ number ∈ numbers, Above (some 4) number := by
  intro earlier later numbers
  have past : Run Container.Interlude (Sample.container .session) earlier.1 earlier.2 :=
    Run.follow _ _ Sample.handledCall
  have run : Run (Container.Undisturbed 0) earlier.2 later.1 later.2 :=
    Run.follow _ _ Sample.disorderedCalls
  have finished : earlier.2.tasks.all (fun task => task.stage.isFinished) = true := rfl
  have idle : earlier.2.Idle 0 := fun task present _ => List.all_eq_true.mp finished task present
  have known : earlier.2.sequencing? 0 = some (none, some 4) := rfl
  have seen : numbers = [7, 9] := by decide +kernel
  exact ⟨past, run, idle, known, seen,
    Run.delivered_increasing past ⟨rfl, rfl, rfl⟩ run idle known⟩

end SipContainer

import SipContainer.Proofs.Dispatch.Attendance
import SipContainer.Proofs.Dispatch.Serialization
import SipContainer.Proofs.Dispatch.Staffing
/-!
Gates and pools do not lock each other. A task comes in through its gate before it asks for a
permit, and never goes back to a gate. So whoever holds a permit waits for nothing, whoever waits for
a permit waits for such a task, and whoever waits at a gate waits for one of the two. Wherever
someone waits, someone else can go on.
-/

namespace SipContainer

namespace Container

def AwaitsGate (container : Container) (number : Nat) (task : Task) : Prop :=
  task.stage = .waiting ∧ container.admits number task = false

def AwaitsPermit (container : Container) (number : Nat) (task : Task) : Prop :=
  task.stage = .queued ∧ container.permitted number task id = false

instance (container : Container) (number : Nat) (task : Task) :
    Decidable (container.AwaitsGate number task) :=
  inferInstanceAs (Decidable (_ ∧ _))

instance (container : Container) (number : Nat) (task : Task) :
    Decidable (container.AwaitsPermit number task) :=
  inferInstanceAs (Decidable (_ ∧ _))

/-- A task that is under way, with someone to look after it, and waits for nobody. -/
structure Executing (container : Container) (number : Nat) (task : Task) : Prop where
  found : container.tasks[number]? = some task
  goesOn : task.course ≠ .byHand
  begun : task.stage ≠ .created
  unfinished : task.stage.isFinished = false
  gate : ¬ container.AwaitsGate number task
  permit : ¬ container.AwaitsPermit number task

/-- Whoever stands first at a gate is a task that is seen through to its end. -/
def Overseen (container : Container) : Prop :=
  ∀ gate party, (container.gates.gate gate).holder? = some party →
    ∃ number, party = .task number ∧
      ∀ task, container.tasks[number]? = some task → task.course ≠ .byHand

variable {container next : Container} {number : Nat} {task : Task} {step : Step}
  {effects : List Effect}

theorem Happening.window_of_enter (happening : container.Happening step next effects)
    (enters : step = .enter number) : ∃ task, container.Window step number task := by
  cases happening with
  | @task other task _ outcome found transition =>
      subst enters
      obtain rfl := Option.some.inj transition.about
      obtain ⟨_, admitted, _⟩ := transition.of_enter
      exact ⟨task, rfl, found, admitted, Or.inr rfl⟩
  | accept | answer | relay | hold | release => cases enters

theorem Executing.outcome? (executing : container.Executing number task) (team : Team) :
    ∃ step outcome, (step = .enter number ∨ team.turn? number task.stage = some step) ∧
      container.outcome? number task step = some outcome := by
  cases stage : task.stage with
  | created => exact absurd stage executing.begun
  | waiting =>
      have admitted : container.admits number task = true :=
        Bool.of_not_eq_false fun refused => executing.gate ⟨stage, refused⟩
      exact ⟨.enter number, task.enter, Or.inl rfl, if_pos ⟨stage, admitted⟩⟩
  | entered => exact ⟨_, _, Or.inr rfl, outcome?_of_turn executing.goesOn (Or.inl stage)⟩
  | submitted =>
      exact ⟨_, _, Or.inr rfl, outcome?_of_turn executing.goesOn (Or.inr (Or.inl stage))⟩
  | queued =>
      have permitted : container.permitted number task id = true :=
        Bool.of_not_eq_false fun refused => executing.permit ⟨stage, refused⟩
      exact ⟨_, _, Or.inr rfl,
        outcome?_of_turn executing.goesOn (Or.inr (Or.inr ⟨stage, permitted⟩))⟩
  | serving plan =>
      refine ⟨_, container.served number task plan team.application, Or.inr rfl, ?_⟩
      simp only [Container.outcome?, stage]
  | forwarding leg =>
      refine ⟨_, container.forwarded number task leg (team.branch leg), Or.inr rfl, ?_⟩
      simp only [Container.outcome?, stage]
  | responding fault =>
      refine ⟨_, task.conclude number (endingOf team.responder), Or.inr rfl, ?_⟩
      simp only [Container.outcome?, stage]
  | finished =>
      have unfinished := executing.unfinished
      rw [stage] at unfinished
      cases unfinished

/-- An executing task can come in, or else have its next turn, whatever its team does. -/
theorem Executing.able (executing : container.Executing number task) (team : Team) :
    ∃ step next effects, (step = .enter number ∨ team.turn? number task.stage = some step) ∧
      container.step? step = some (next, effects) := by
  obtain ⟨step, outcome, turn, able⟩ := executing.outcome? team
  have about : step.task? = some number := by
    rcases turn with rfl | turn
    · rfl
    · exact team.task?_of_turn? turn
  exact ⟨step, _, _, turn, step?_of_outcome? executing.found about able⟩

theorem Ends.of_working {team : Team} (found : container.tasks[number]? = some task)
    (works : task.stage.isWorking = true) : container.Ends team number := by
  cases stage : task.stage with
  | serving => exact Ends.of_serving found stage
  | forwarding => exact Ends.of_forwarding found stage
  | responding => exact Ends.of_responding found stage
  | _ =>
      rw [stage] at works
      cases works

theorem Staffed.executing_of_holds (staffed : container.Staffed) {application : Nat} {pool : Pool}
    (located : container.pool? application = some pool) (held : number ∈ pool.holders) :
    ∃ task, task.application = application ∧ container.Executing number task ∧
      ∀ team, container.Ends team number := by
  obtain ⟨task, found, rfl, pooled, enrolled⟩ :=
    (staffed.rolled located).mp (List.mem_append_left pool.line held)
  have course : task.course = .dispatched .pooled := of_decide_eq_true pooled
  have permitted : container.permitted number task id = true := by
    rw [permitted_iff located]
    exact Pool.holds_iff.mpr held
  refine ⟨task, rfl, ⟨found, ?_, ?_, Stage.isFinished_of_isEnrolled enrolled, ?_, ?_⟩, ?_⟩
  · rw [course]
    exact nofun
  · intro created
    rw [created] at enrolled
    cases enrolled
  · intro awaits
    rw [awaits.1] at enrolled
    cases enrolled
  · intro awaits
    rw [awaits.2] at permitted
    cases permitted
  · intro team
    cases stage : task.stage with
    | queued =>
        have ready : container.Ready number task :=
          ⟨found, by rw [course]; exact nofun, Or.inr (Or.inr ⟨stage, permitted⟩)⟩
        exact ready.ends team
    | serving | forwarding | responding => exact Ends.of_working found (by rw [stage]; rfl)
    | _ =>
        rw [stage] at enrolled
        cases enrolled

theorem Staffed.mem_line_of_awaitsPermit (staffed : container.Staffed) (sound : container.Sound)
    (found : container.tasks[number]? = some task)
    (awaits : container.AwaitsPermit number task) :
    ∃ pool, container.pool? task.application = some pool ∧ number ∈ pool.line := by
  obtain ⟨queued, refused⟩ := awaits
  obtain ⟨pool, located⟩ := sound.pool? found
  have listed : number ∈ pool.roll := by
    rw [staffed.mem_roll_iff found located, queued]
    exact ⟨staffed.queued found queued, rfl⟩
  refine ⟨pool, located, (List.mem_append.mp listed).resolve_left ?_⟩
  intro held
  rw [permitted_iff located] at refused
  exact Bool.eq_false_iff.mp refused (Pool.holds_iff.mpr held)

theorem Sound.executing_of_first (sound : container.Sound) (overseen : container.Overseen)
    {gate : GateId} {party : Party} (first : (container.gates.gate gate).holder? = some party) :
    ∃ number task, party = .task number ∧ container.tasks[number]? = some task ∧
      task.gate = some gate ∧
      (container.Executing number task ∨ container.AwaitsPermit number task) := by
  obtain ⟨number, rfl, seen⟩ := overseen gate party first
  obtain ⟨task, found, gated, inLine⟩ := sound.orderly.known (List.mem_of_head? first)
  refine ⟨number, task, rfl, found, gated, ?_⟩
  by_cases awaits : container.AwaitsPermit number task
  · exact Or.inr awaits
  · left
    refine ⟨found, seen task found, ?_, ?_, ?_, awaits⟩
    · intro created
      rw [created] at inLine
      cases inLine
    · cases stage : task.stage with
      | finished =>
          rw [stage] at inLine
          cases inLine
      | _ => rfl
    · rintro ⟨_, refused⟩
      have admitted : container.admits number task = true := by
        apply admits_of_holder?
        intro other same
        obtain rfl := Option.some.inj (gated.symm.trans same)
        exact first
      rw [refused] at admitted
      cases admitted

theorem Staffed.executing_of_awaitsPermit (staffed : container.Staffed) (sound : container.Sound)
    (found : container.tasks[number]? = some task)
    (awaits : container.AwaitsPermit number task) :
    ∃ other running, container.Executing other running := by
  obtain ⟨pool, located, listed⟩ := staffed.mem_line_of_awaitsPermit sound found awaits
  obtain ⟨_, _, some⟩ := (staffed.balanced located).full (List.ne_nil_of_mem listed)
  obtain ⟨holder, held⟩ := List.exists_mem_of_ne_nil _ some
  obtain ⟨running, _, executing, _⟩ := staffed.executing_of_holds located held
  exact ⟨holder, running, executing⟩

theorem Staffed.executing_of_awaitsGate (staffed : container.Staffed) (sound : container.Sound)
    (overseen : container.Overseen) (found : container.tasks[number]? = some task)
    (awaits : container.AwaitsGate number task) :
    ∃ other running, container.Executing other running := by
  obtain ⟨waits, refused⟩ := awaits
  cases gated : task.gate with
  | none =>
      simp only [admits, gated] at refused
      cases refused
  | some gate =>
      have listed := sound.orderly.listed found gated (by rw [waits]; rfl)
      obtain ⟨party, first⟩ : ∃ party, (container.gates.gate gate).holder? = some party :=
        ⟨_, List.head?_eq_some_head (List.ne_nil_of_mem listed)⟩
      obtain ⟨other, running, _, foundOther, _, executing | queued⟩ :=
        sound.executing_of_first overseen first
      · exact ⟨other, running, executing⟩
      · exact staffed.executing_of_awaitsPermit sound foundOther queued

end Container

/-- Nobody waits in a circle. -/
structure Unlocked (history : List Moment) (container : Container) : Prop where
  inside : ∀ moment ∈ history, ∀ number, moment.step = .enter number →
    ∃ task, container.tasks[number]? = some task ∧ task.stage.isPast = true ∧
      ¬ container.AwaitsGate number task
  gates : ∀ gate party, (container.gates.gate gate).holder? = some party →
    ∃ number task, party = .task number ∧ container.tasks[number]? = some task ∧
      task.gate = some gate ∧ (container.Executing number task ∨
        container.AwaitsPermit number task ∧
          ∃ pool, container.pool? task.application = some pool ∧ number ∈ pool.line)
  pools : ∀ application pool, container.pool? application = some pool → pool.line ≠ [] →
    pool.free = 0 ∧ pool.holders.length = pool.capacity ∧
      ∀ number ∈ pool.holders, ∃ task, task.application = application ∧
        container.Executing number task ∧ ∀ team, container.Ends team number
  queued : ∀ number task, container.tasks[number]? = some task →
    container.AwaitsPermit number task →
    ∃ pool, container.pool? task.application = some pool ∧ number ∈ pool.line
  goesOn : ∀ number task, container.tasks[number]? = some task →
    container.AwaitsGate number task ∨ container.AwaitsPermit number task →
    ∃ other running, container.Executing other running
  able : ∀ number task, container.Executing number task → ∀ team : Team,
    ∃ step next effects, (step = .enter number ∨ team.turn? number task.stage = some step) ∧
      container.step? step = some (next, effects)

/-- In every state that a run can lead to, with any applications, pools, sessions and requests. -/
theorem Run.unlocked {start finish : Container} {history : List Moment}
    (run : Run Container.HandsOff start history finish) (opening : start.Opening)
    (overseen : finish.Overseen) : Unlocked history finish := by
  obtain ⟨sound, staffed⟩ := run.staffed opening
  have plain := run.weaken Container.HandsOff.toInterlude
  refine ⟨?_, ?_, ?_, ?_, ?_, ?_⟩
  · intro moment taken number enters
    obtain ⟨_, happening⟩ := plain.sound_at opening.sound moment taken
    obtain ⟨task, window⟩ := happening.window_of_enter enters
    obtain ⟨later, present, past⟩ := plain.isPast_of_window taken window
    refine ⟨later, present, past, ?_⟩
    rintro ⟨waits, _⟩
    rw [waits] at past
    cases past
  · intro gate party first
    obtain ⟨number, task, same, found, gated, executing | awaits⟩ :=
      sound.executing_of_first overseen first
    · exact ⟨number, task, same, found, gated, Or.inl executing⟩
    · exact ⟨number, task, same, found, gated,
        Or.inr ⟨awaits, staffed.mem_line_of_awaitsPermit sound found awaits⟩⟩
  · intro application pool located waits
    obtain ⟨none, full, _⟩ := (staffed.balanced located).full waits
    exact ⟨none, full, fun number held => staffed.executing_of_holds located held⟩
  · intro number task found awaits
    exact staffed.mem_line_of_awaitsPermit sound found awaits
  · intro number task found awaits
    rcases awaits with gate | permit
    · exact staffed.executing_of_awaitsGate sound overseen found gate
    · exact staffed.executing_of_awaitsPermit sound found permit
  · intro number task executing team
    exact executing.able team

namespace Sample

def twoDialogs : Container :=
  let single := container .session
  let owner : ApplicationKey := { callId := "s", applicationName := "a" }
  let key : DialogKey :=
    { localAddress := "sip:b", localTag := none, remoteAddress := "sip:b", callId := "d",
      applicationName := "a", applicationSessionId := "s" }
  { single with
    store := { single.store with dialogs := (single.store.dialogs.insert key { key, owner }).1 } }

/-- The first request of one dialog is with the application, the first of the other waits for a
permit inside its gate, and the second of the other waits at that gate. -/
def crowd : List Step :=
  let other (sequence : Nat) : Request := { request .info sequence with callId := "d" }
  [.call (request .info 1), .call (other 1), .call (other 2), .enter 0, .enter 1, .start 0, .start 1]

end Sample

theorem Container.overseen_of_listed {container : Container}
    (lines : ∀ entry ∈ container.gates.entries, ∀ party ∈ entry.2.line,
      ∃ number, party = .task number)
    (seen : ∀ task ∈ container.tasks, task.course ≠ .byHand) : container.Overseen := by
  intro gate party first
  have member := List.mem_of_head? first
  unfold GateBoard.gate at member
  cases listed : container.gates.entries.lookup gate with
  | none =>
      rw [listed] at member
      cases member
  | some line =>
      rw [listed] at member
      obtain ⟨before, after, entries, _⟩ := List.lookup_eq_some_iff.mp listed
      have entry : (gate, line) ∈ container.gates.entries := by
        rw [entries]
        exact List.mem_append_right before List.mem_cons_self
      obtain ⟨number, same⟩ := lines (gate, line) entry party member
      exact ⟨number, same, fun task found => seen task (List.mem_of_getElem? found)⟩

theorem Run.unlocked_crowd :
    let start := Sample.twoDialogs
    let history := (start.follow Sample.crowd).1
    let finish := (start.follow Sample.crowd).2
    Run Container.HandsOff start history finish ∧ start.Opening ∧ finish.Overseen ∧
      Unlocked history finish ∧
      (∃ task, finish.tasks[2]? = some task ∧ finish.AwaitsGate 2 task) ∧
      (∃ task, finish.tasks[1]? = some task ∧ finish.AwaitsPermit 1 task) ∧
      ∃ number task, finish.Executing number task := by
  intro start history finish
  have run : Run Container.HandsOff start history finish :=
    Run.follow Container.HandsOff start Sample.crowd
  have opening : start.Opening := by
    refine ⟨⟨rfl, rfl, rfl⟩, ?_⟩
    intro application pool located
    cases application with
    | zero =>
        obtain rfl := Option.some.inj located
        exact ⟨1, [], rfl⟩
    | succ => cases located
  have lines : finish.gates.entries.all (fun entry =>
      entry.2.line.all (fun party => party matches .task _)) = true := by
    decide +kernel
  have courses : finish.tasks.all (fun task => task.course ≠ .byHand) = true := by
    decide +kernel
  have overseen : finish.Overseen := by
    apply Container.overseen_of_listed
    · intro entry listed party member
      have kind := List.all_eq_true.mp (List.all_eq_true.mp lines entry listed) party member
      cases party with
      | task number => exact ⟨number, rfl⟩
      | outsider => cases kind
    · intro task member
      exact of_decide_eq_true (List.all_eq_true.mp courses task member)
  have unlocked := Run.unlocked run opening overseen
  obtain ⟨second, foundSecond, awaitsPermit⟩ : ∃ task, finish.tasks[1]? = some task ∧
      finish.AwaitsPermit 1 task := by
    have waits : (finish.tasks[1]?).any (fun task => finish.AwaitsPermit 1 task) = true := by
      decide +kernel
    obtain ⟨task, found, awaits⟩ := (Option.any_eq_true _ _).mp waits
    exact ⟨task, found, of_decide_eq_true awaits⟩
  obtain ⟨third, foundThird, awaitsGate⟩ : ∃ task, finish.tasks[2]? = some task ∧
      finish.AwaitsGate 2 task := by
    have waits : (finish.tasks[2]?).any (fun task => finish.AwaitsGate 2 task) = true := by
      decide +kernel
    obtain ⟨task, found, awaits⟩ := (Option.any_eq_true _ _).mp waits
    exact ⟨task, found, of_decide_eq_true awaits⟩
  exact ⟨run, opening, overseen, unlocked, ⟨third, foundThird, awaitsGate⟩,
    ⟨second, foundSecond, awaitsPermit⟩, unlocked.goesOn 2 third foundThird (Or.inl awaitsGate)⟩

end SipContainer

import Mathlib.Data.List.Basic
import SipContainer.Proofs.Dispatch.Invariant
/-!
First come, first served. What happens at one gate is a list of passages: tasks come, enter and go.
The passages of every run are in turn: whoever enters is the one who has waited longest, whoever goes
without entering just falls out, and nobody else changes places.
-/

namespace SipContainer

/-- Passages that are in turn when the given tasks wait, the first of them longest. -/
inductive InTurn : List Nat → List Passage → Prop
  | nil (waiting : List Nat) : InTurn waiting []
  | comes {waiting : List Nat} {later : List Passage} (task : Nat)
      (rest : InTurn (waiting ++ [task]) later) : InTurn waiting (.comes task :: later)
  | enters {waiting : List Nat} {later : List Passage} (task : Nat)
      (rest : InTurn waiting later) : InTurn (task :: waiting) (.enters task :: later)
  | goes {waiting : List Nat} {later : List Passage} (task : Nat) (waits : task ∈ waiting)
      (rest : InTurn (waiting.erase task) later) : InTurn waiting (.goes task :: later)

namespace Passage

def came? : Passage → Option Nat
  | comes task => some task
  | enters _ | goes _ => none

def entered? : Passage → Option Nat
  | enters task => some task
  | comes _ | goes _ => none

end Passage

theorem InTurn.entered_sublist {waiting : List Nat} {passages : List Passage}
    (turn : InTurn waiting passages) :
    (passages.filterMap Passage.entered?).Sublist
      (waiting ++ passages.filterMap Passage.came?) := by
  induction turn with
  | nil => exact List.nil_sublist _
  | comes task _ ih =>
      rw [List.append_assoc] at ih
      exact ih
  | enters task _ ih => exact ih.cons_cons task
  | @goes waiting later task _ _ ih =>
      exact ih.trans (List.erase_sublist.append_right _)

namespace Container

def waits? (tasks : List Task) : Party → Option Nat
  | .task number => if tasks[number]?.map Task.stage = some .waiting then some number else none
  | .outsider _ => none

def waiting (container : Container) (gate : GateId) : List Nat :=
  (container.gates.gate gate).line.filterMap (waits? container.tasks)

def passage? (container : Container) (gate : GateId) (step : Step) : Option Passage :=
  match step with
  | .call request =>
    match (container.receive request).1 with
    | .accept application resolution =>
      if (container.makeTask request application resolution).gate = some gate then
        some (.comes container.tasks.length)
      else none
    | _ => none
  | _ => do
    let number ← step.task?
    let task ← container.tasks[number]?
    if task.gate = some gate then task.passage? number step else none

variable {container next : Container} {step : Step} {effects : List Effect}

private theorem filterMap_erase_of_none {f : Party → Option Nat} {party : Party}
    (silent : f party = none) (line : List Party) :
    (line.erase party).filterMap f = line.filterMap f := by
  induction line with
  | nil => rfl
  | cons head rest ih =>
      by_cases same : head = party
      · subst same
        rw [List.erase_cons_head, List.filterMap_cons_none silent]
      · rw [List.erase_cons_tail (fun equal => same (eq_of_beq equal)), List.filterMap_cons,
          List.filterMap_cons, ih]

private theorem filterMap_erase_of_some {f : Party → Option Nat} {party : Party} {number : Nat}
    (named : f party = some number) (only : ∀ other, f other = some number → other = party)
    (line : List Party) :
    (line.erase party).filterMap f = (line.filterMap f).erase number := by
  induction line with
  | nil => rfl
  | cons head rest ih =>
      by_cases same : head = party
      · subst same
        rw [List.erase_cons_head, List.filterMap_cons_some named, List.erase_cons_head]
      · rw [List.erase_cons_tail (fun equal => same (eq_of_beq equal))]
        cases image : f head with
        | none => rw [List.filterMap_cons_none image, List.filterMap_cons_none image, ih]
        | some other =>
            have different : other ≠ number := by
              rintro rfl
              exact same (only head image)
            rw [List.filterMap_cons_some image, List.filterMap_cons_some image,
              List.erase_cons_tail (fun equal => different (eq_of_beq equal)), ih]

private theorem waits?_only {tasks : List Task} {number : Nat} (other : Party)
    (named : waits? tasks other = some number) : other = .task number := by
  cases other with
  | outsider => cases named
  | task known =>
      simp only [waits?] at named
      split at named
      · rw [Option.some.inj named]
      · cases named

/-- One party's crossing, seen at its gate: what was in turn after it is in turn with it. -/
private theorem inTurn_of_crossing {tasks changed : List Task} {gates : GateBoard} {number : Nat}
    {task later : Task} {gate : GateId} {admitted : Bool} {move : LineMove}
    {passage : Option Passage} (orderly : Orderly tasks gates)
    (found : tasks[number]? = some task) (gated : task.gate = some gate)
    (crossing : Crossing number admitted task.stage later.stage move passage)
    (admission : admitted = true → (gates.gate gate).holder? = some (.task number))
    (change : ∀ other, changed[other]? = if other = number then some later else tasks[other]?)
    {rest : List Passage}
    (turn : InTurn
      (((gates.gate gate).move (.task number) move).line.filterMap (waits? changed)) rest) :
    InTurn ((gates.gate gate).line.filterMap (waits? tasks)) (passage.toList ++ rest) := by
  have apart {party : Party} (different : party ≠ .task number) :
      waits? changed party = waits? tasks party := by
    cases party with
    | outsider => rfl
    | task other =>
        simp only [waits?, change, if_neg (fun equal => different (congrArg Party.task equal))]
  have elsewhere {line : List Party} (absent : Party.task number ∉ line) :
      line.filterMap (waits? changed) = line.filterMap (waits? tasks) :=
    List.filterMap_congr (fun party present =>
      apart (fun equal => absent (equal ▸ present)))
  have before : waits? tasks (.task number) =
      if task.stage = .waiting then some number else none := by
    simp [waits?, found]
  have after : waits? changed (.task number) =
      if later.stage = .waiting then some number else none := by
    simp [waits?, change]
  have silent (past : task.stage ≠ .waiting) (present : later.stage ≠ .waiting) :
      waits? changed = waits? tasks := by
    funext party
    by_cases same : party = .task number
    · rw [same, before, after, if_neg past, if_neg present]
    · exact apart same
  have once := orderly.once number gate
  have listed := orderly.listed found gated
  have unlisted (out : task.stage.isInLine = false) := orderly.not_mem_of_out found out gate
  generalize task.stage = first at *
  generalize later.stage = last at *
  generalize (gates.gate gate) = place at *
  cases crossing with
  | comes =>
      simp only [Gate.move, Gate.line_enter, List.filterMap_append, elsewhere (unlisted rfl),
        List.filterMap_cons, after, if_true, List.filterMap_nil] at turn
      exact .comes number turn
  | enters admitted inside =>
      obtain ⟨others, line⟩ := List.head?_eq_some_iff.mp (admission admitted)
      simp only [Gate.move, line] at turn once ⊢
      have absent : Party.task number ∉ others := List.count_eq_zero.mp (by simpa using once)
      rw [List.filterMap_cons_none (by rw [after, if_neg (Stage.ne_waiting_of_isInside inside)]),
        elsewhere absent] at turn
      rw [List.filterMap_cons_some (by rw [before, if_pos rfl])]
      exact .enters number turn
  | goes out =>
      have waits : waits? tasks (.task number) = some number := by rw [before, if_pos rfl]
      have absent : Party.task number ∉ place.line.erase (.task number) := by
        intro present
        have positive := List.count_pos_iff.mpr present
        rw [List.count_erase_self] at positive
        omega
      simp only [Gate.move, Gate.line_leave] at turn
      rw [elsewhere absent, filterMap_erase_of_some waits waits?_only] at turn
      exact .goes number (List.mem_filterMap.mpr ⟨_, listed rfl, waits⟩) turn
  | stays past present same =>
      rw [silent past present] at turn
      exact turn
  | leaves past out =>
      have present : last ≠ .waiting := by
        rintro rfl
        cases out
      simp only [Gate.move, Gate.line_leave] at turn
      rw [silent past present,
        filterMap_erase_of_none (by rw [before, if_neg past])] at turn
      exact turn

private theorem waiting_of_elsewhere {tasks changed : List Task} {gates : GateBoard}
    {number : Nat} {gate : GateId}
    (absent : Party.task number ∉ (gates.gate gate).line)
    (change : ∀ other, other ≠ number → changed[other]? = tasks[other]?) :
    (gates.gate gate).line.filterMap (waits? changed) =
      (gates.gate gate).line.filterMap (waits? tasks) := by
  apply List.filterMap_congr
  intro party present
  cases party with
  | outsider => rfl
  | task other =>
      have different : other ≠ number := by
        rintro rfl
        exact absent present
      simp only [waits?, change other different]

private theorem waiting_of_append {tasks : List Task} {gates : GateBoard}
    (orderly : Orderly tasks gates) (made : List Task) (gate : GateId) :
    (gates.gate gate).line.filterMap (waits? (tasks ++ made)) =
      (gates.gate gate).line.filterMap (waits? tasks) := by
  apply List.filterMap_congr
  intro party present
  cases party with
  | outsider => rfl
  | task number =>
      obtain ⟨task, found, _⟩ := orderly.known present
      simp only [waits?, List.getElem?_append_left (List.getElem?_eq_some_iff.mp found).1]

private theorem waiting_of_outsider (tasks : List Task) (gate : Gate Party) (outsider : Nat)
    (move : LineMove) :
    (gate.move (.outsider outsider) move).line.filterMap (waits? tasks) =
      gate.line.filterMap (waits? tasks) := by
  cases move with
  | stay => rfl
  | join => simp [Gate.move, waits?]
  | quit => exact filterMap_erase_of_none rfl gate.line

theorem passage?_of_task {number : Nat} {task : Task} (about : step.task? = some number)
    (found : container.tasks[number]? = some task) (gate : GateId) :
    container.passage? gate step =
      if task.gate = some gate then task.passage? number step else none := by
  cases step with
  | call => cases about
  | _ => simp only [passage?, about, Option.bind_eq_bind, Option.bind_some, found]

theorem Happening.inTurn (happening : container.Happening step next effects)
    (sound : container.Sound) (gate : GateId) {rest : List Passage}
    (turn : InTurn (next.waiting gate) rest) :
    InTurn (container.waiting gate) ((container.passage? gate step).toList ++ rest) := by
  have orderly := sound.orderly
  cases happening with
  | @task number task _ outcome found transition =>
      have moved : (container.settle number task outcome).gates.gate gate =
          if task.gate = some gate then
            (container.gates.gate gate).move (.task number) outcome.line
          else container.gates.gate gate := by
        simp only [settle, GateBoard.gate_move]
      rw [passage?_of_task transition.about found]
      by_cases gated : task.gate = some gate
      · rw [if_pos gated] at moved ⊢
        rw [waiting, moved] at turn
        exact inTurn_of_crossing orderly found gated transition.crossing
          (fun admitted => holder?_of_admits admitted gate gated)
          (settle_change number outcome found) turn
      · rw [if_neg gated] at moved ⊢
        have absent : Party.task number ∉ (container.gates.gate gate).line := by
          intro present
          obtain ⟨same, foundAgain, gatedAgain, _⟩ := orderly.known present
          obtain rfl := Option.some.inj (found.symm.trans foundAgain)
          exact gated gatedAgain
        rw [waiting, moved, waiting_of_elsewhere absent
          (fun other different => settle_tasks_of_ne task outcome different)] at turn
        exact turn
  | accept request application resolution asked received =>
      let task := container.makeTask request application resolution
      have kept := waiting_of_append orderly [task] gate
      have seen : container.passage? gate (.call request) =
          if task.gate = some gate then some (.comes container.tasks.length) else none := by
        simp only [passage?, received, task]
      rw [waiting, accept_tasks, accept_gates, GateBoard.gate_move] at turn
      rw [seen]
      by_cases gated : task.gate = some gate
      · rw [if_pos gated] at turn ⊢
        have last : waits? (container.tasks ++ [task]) (.task container.tasks.length) =
            some container.tasks.length := by
          simp [waits?, task, makeTask]
        simp only [Gate.move, Gate.line_enter, List.filterMap_append, List.filterMap_cons,
          List.filterMap_nil] at turn
        rw [kept, last] at turn
        exact .comes container.tasks.length turn
      · rw [if_neg gated] at turn ⊢
        rw [kept] at turn
        exact turn
  | answer request progress _ declined =>
      have silent : container.passage? gate (.call request) = none := by
        cases reception : (container.receive request).1 with
        | accept application resolution =>
            exact absurd reception (declined application resolution)
        | relay | drop | outOfSequence | refuse => simp only [passage?, reception]
      rw [silent]
      exact turn
  | relay => exact turn
  | hold outsider held =>
      have moved := container.gates.gate_move (some held) (.outsider outsider) .join gate
      change InTurn (((container.gates.move (some held) (.outsider outsider) .join).gate
        gate).line.filterMap (waits? container.tasks)) rest at turn
      rw [moved] at turn
      split at turn
      · rw [waiting_of_outsider] at turn
        exact turn
      · exact turn
  | release outsider held =>
      have moved := container.gates.gate_move (some held) (.outsider outsider) .quit gate
      change InTurn (((container.gates.move (some held) (.outsider outsider) .quit).gate
        gate).line.filterMap (waits? container.tasks)) rest at turn
      rw [moved] at turn
      split at turn
      · rw [waiting_of_outsider] at turn
        exact turn
      · exact turn

theorem Interlude.waiting_eq {before after : Container} (interlude : Interlude before after)
    (sound : before.Sound) (gate : GateId) : after.waiting gate = before.waiting gate := by
  obtain ⟨made, tasks, _⟩ := interlude.tasks
  unfold waiting
  rw [tasks, interlude.gates]
  exact waiting_of_append sound.orderly made gate

/-! ### From the gate to the application -/

def servedAt? (container : Container) (gate : GateId) : Effect → Option Nat
  | .served number =>
    if (container.tasks[number]?).bind Task.gate = some gate then some number else none
  | _ => none

theorem found_of_servedAt? {gate : GateId} {effect : Effect} {number : Nat}
    (named : container.servedAt? gate effect = some number) :
    ∃ task, container.tasks[number]? = some task ∧ task.gate = some gate := by
  cases effect with
  | served other =>
      simp only [servedAt?] at named
      split at named
      · rename_i gated
        obtain rfl := Option.some.inj named
        exact Option.bind_eq_some_iff.mp gated
      · cases named
  | _ => cases named

def AheadAt (container : Container) (gate : GateId) (number : Nat) : Prop :=
  ∃ task, container.tasks[number]? = some task ∧ task.gate = some gate ∧
    task.stage.isAhead = true

theorem AheadAt.unique (sound : container.Sound) {gate : GateId} {first second : Nat}
    (left : container.AheadAt gate first) (right : container.AheadAt gate second) :
    first = second := by
  obtain ⟨_, foundLeft, gatedLeft, aheadLeft⟩ := left
  obtain ⟨_, foundRight, gatedRight, aheadRight⟩ := right
  exact sound.orderly.inside_unique foundLeft foundRight gatedLeft gatedRight
    (Stage.isInside_of_isAhead aheadLeft) (Stage.isInside_of_isAhead aheadRight)

theorem Happening.ahead (happening : container.Happening step next effects) {gate : GateId}
    {number : Nat} (ahead : next.AheadAt gate number) :
    container.AheadAt gate number ∨
      container.passage? gate step = some (.enters number) := by
  obtain ⟨later, found, gated, ahead⟩ := ahead
  rcases happening.task_origin found with ⟨task, present, _⟩ | ⟨_, _, _, _, _, _, _, rfl⟩
  · rcases happening.task_cases present with ⟨outcome, _, transition, rfl, _⟩ | ⟨_, same⟩
    · rw [settle_tasks_self outcome present] at found
      obtain rfl := Option.some.inj found
      rcases transition.isAhead ahead with before | rfl
      · exact Or.inl ⟨task, present, gated, before⟩
      · right
        rw [passage?_of_task rfl present, if_pos (show task.gate = some gate from gated)]
        rfl
    · obtain rfl := Option.some.inj (same.symm.trans found)
      exact Or.inl ⟨task, present, gated, ahead⟩
  · cases ahead

theorem Interlude.ahead {before after : Container} (interlude : Interlude before after)
    {gate : GateId} {number : Nat} (ahead : after.AheadAt gate number) :
    before.AheadAt gate number := by
  obtain ⟨task, found, gated, ahead⟩ := ahead
  obtain ⟨made, tasks, handmade⟩ := interlude.tasks
  rw [tasks] at found
  rcases Nat.lt_or_ge number before.tasks.length with early | late
  · rw [List.getElem?_append_left early] at found
    exact ⟨task, found, gated, ahead⟩
  · rw [List.getElem?_append_right late] at found
    rw [(handmade task (List.mem_of_getElem? found)).created] at ahead
    cases ahead

theorem Happening.served_cases (happening : container.Happening step next effects)
    (gate : GateId) :
    effects.filterMap (container.servedAt? gate) = [] ∨
      ∃ number, effects.filterMap (container.servedAt? gate) = [number] ∧
        container.AheadAt gate number ∧ ¬ next.AheadAt gate number := by
  have quiet (silent : ∀ effect ∈ effects, effect.task? = none) :
      effects.filterMap (container.servedAt? gate) = [] := by
    apply List.filterMap_eq_nil_iff.mpr
    intro effect present
    cases effect with
    | served => cases silent _ present
    | _ => rfl
  cases happening with
  | @task number task _ outcome found transition =>
      rcases transition.effects_cases with nothing | ⟨effect, single⟩
      · exact Or.inl (by rw [nothing]; rfl)
      · rw [single]
        have shown : effect ∈ outcome.effects := by rw [single]; exact List.mem_singleton_self _
        rcases transition.seen shown with ⟨rfl, before, after⟩ | ⟨leg, rfl, _⟩ | ⟨fault, rfl, _⟩
        · by_cases gated : task.gate = some gate
          · refine Or.inr ⟨number, by simp [servedAt?, found, gated], ⟨task, found, gated, before⟩, ?_⟩
            rintro ⟨later, foundLater, _, ahead⟩
            rw [settle_tasks_self outcome found] at foundLater
            obtain rfl := Option.some.inj foundLater
            rw [show (task.after outcome).stage = outcome.stage from rfl, after] at ahead
            cases ahead
          · exact Or.inl (by simp [servedAt?, found, gated])
        · exact Or.inl rfl
        · exact Or.inl rfl
  | accept request application resolution _ received =>
      have silent := container.receive_quiet request
      rw [received] at silent
      exact Or.inl (quiet silent)
  | answer _ _ _ _ _ silent => exact Or.inl (quiet silent)
  | relay | hold | release => exact Or.inl rfl

theorem Happening.entered (happening : container.Happening step next effects) {gate : GateId}
    {number : Nat} (enters : container.passage? gate step = some (.enters number)) :
    effects.filterMap (container.servedAt? gate) = [] ∧ next.AheadAt gate number := by
  cases happening with
  | @task other task _ outcome found transition =>
      rw [passage?_of_task transition.about found] at enters
      split at enters
      · rename_i gated
        cases transition with
        | enter waits admitted =>
            obtain rfl := Passage.enters.inj (Option.some.inj enters)
            refine ⟨rfl, task.after task.enter, settle_tasks_self _ found, gated, ?_⟩
            exact task.enter_isAhead
        | forward _ _ _ returned | exit _ _ _ returned =>
            rw [Task.passage?_of_handBack? returned] at enters
            cases enters
        | cancel =>
            simp only [Task.passage?] at enters
            split at enters <;> cases enters
        | _ => cases enters
      · cases enters
  | accept request application resolution _ received =>
      simp only [passage?, received] at enters
      split at enters <;> cases enters
  | answer request _ _ declined =>
      cases reception : (container.receive request).1 with
      | accept application resolution => exact absurd reception (declined application resolution)
      | relay | drop | outOfSequence | refuse =>
          simp only [passage?, reception] at enters
          cases enters
  | relay | hold | release => cases enters

end Container

/-! ### Runs -/

def passages (gate : GateId) (history : List Moment) : List Passage :=
  history.filterMap (fun moment => moment.before.passage? gate moment.step)

def served (gate : GateId) (history : List Moment) : List Nat :=
  history.flatMap (fun moment => moment.effects.filterMap (moment.before.servedAt? gate))

namespace Run

variable {start finish : Container} {history : List Moment}

theorem inTurn (run : Run Container.Interlude start history finish) (sound : start.Sound)
    (gate : GateId) : InTurn (start.waiting gate) (passages gate history) := by
  induction run with
  | rest => exact .nil _
  | @step before next _ step effects later possible _ ih =>
      have happening := Container.happening_of_step? possible
      have turn := happening.inTurn sound gate (ih (happening.sound sound))
      unfold passages at turn ⊢
      rw [List.filterMap_cons]
      cases happens : before.passage? gate step with
      | none => simpa only [happens, Option.toList_none, List.nil_append] using turn
      | some passage => simpa only [happens, Option.toList_some, List.singleton_append] using turn
  | pause others _ ih =>
      rw [← others.waiting_eq sound gate]
      exact ih (others.sound sound)

theorem passages_cons_none {gate : GateId} {moment : Moment} {later : List Moment}
    (happens : moment.before.passage? gate moment.step = none) :
    passages gate (moment :: later) = passages gate later :=
  List.filterMap_cons_none happens

theorem passages_cons_some {gate : GateId} {moment : Moment} {later : List Moment}
    {passage : Passage} (happens : moment.before.passage? gate moment.step = some passage) :
    passages gate (moment :: later) = passage :: passages gate later :=
  List.filterMap_cons_some happens

private theorem sublist_of_short {ahead : List Nat} {number : Nat} (short : ahead.length ≤ 1)
    (others : ∀ other ∈ ahead, other = number) (later : List Nat) :
    (ahead ++ later).Sublist ([] ++ number :: later) := by
  match ahead with
  | [] => exact List.sublist_cons_self number later
  | [other] =>
      rw [others other (List.mem_singleton_self other)]
      exact List.Sublist.refl _
  | _ :: _ :: _ => simp at short

/-- The application gets the requests in the order in which the tasks come in, except that a task
may be ahead when the run starts. -/
theorem served_sublist_of_ahead (run : Run Container.Interlude start history finish)
    (sound : start.Sound) (gate : GateId) :
    ∃ ahead : List Nat, ahead.length ≤ 1 ∧ (∀ number ∈ ahead, start.AheadAt gate number) ∧
      (served gate history).Sublist
        (ahead ++ (passages gate history).filterMap Passage.entered?) := by
  induction run with
  | rest => exact ⟨[], Nat.zero_le 1, fun _ member => (List.not_mem_nil member).elim,
      List.nil_sublist _⟩
  | @step before next _ step effects later possible _ ih =>
      have happening := Container.happening_of_step? possible
      have soundNext := happening.sound sound
      obtain ⟨ahead, short, known, kept⟩ := ih soundNext
      have split : served gate ({ before, step, effects, after := next } :: later) =
          effects.filterMap (before.servedAt? gate) ++ served gate later := rfl
      rw [split]
      by_cases enters : ∃ number, before.passage? gate step = some (.enters number)
      · obtain ⟨number, enters⟩ := enters
        obtain ⟨quiet, entered⟩ := happening.entered enters
        have others : ∀ other ∈ ahead, other = number := fun other member =>
          (known other member).unique soundNext entered
        refine ⟨[], Nat.zero_le 1, fun _ member => (List.not_mem_nil member).elim, ?_⟩
        rw [quiet, passages_cons_some enters]
        exact kept.trans (sublist_of_short short others _)
      · have same : (passages gate ({ before, step, effects, after := next } :: later)).filterMap
            Passage.entered? = (passages gate later).filterMap Passage.entered? := by
          cases happens : before.passage? gate step with
          | none => rw [passages_cons_none happens]
          | some passage =>
              rw [passages_cons_some happens]
              cases passage with
              | enters number => exact absurd ⟨number, happens⟩ enters
              | comes | goes => rfl
        have stayed (number : Nat) (member : number ∈ ahead) : before.AheadAt gate number :=
          (happening.ahead (known number member)).resolve_right
            (fun passes => enters ⟨number, passes⟩)
        rw [same]
        rcases happening.served_cases gate with nothing | ⟨number, single, first, last⟩
        · rw [nothing]
          exact ⟨ahead, short, stayed, kept⟩
        · have nobody : ahead = [] := by
            apply List.eq_nil_iff_forall_not_mem.mpr
            intro other member
            obtain rfl := (stayed other member).unique sound first
            exact last (known other member)
          rw [nobody] at kept
          refine ⟨[number], Nat.le_refl 1, ?_, by rw [single]; exact kept.cons_cons number⟩
          intro other member
          rw [List.mem_singleton.mp member]
          exact first
  | pause others _ ih =>
      obtain ⟨ahead, short, known, kept⟩ := ih (others.sound sound)
      exact ⟨ahead, short, fun number member => others.ahead (known number member), kept⟩

theorem served_sublist (run : Run Container.Interlude start history finish)
    (sound : start.Sound) {gate : GateId} (clear : ∀ number, ¬ start.AheadAt gate number) :
    (served gate history).Sublist ((passages gate history).filterMap Passage.entered?) := by
  obtain ⟨ahead, _, known, kept⟩ := run.served_sublist_of_ahead sound gate
  have nobody : ahead = [] :=
    List.eq_nil_iff_forall_not_mem.mpr (fun number member => clear number (known number member))
  rwa [nobody, List.nil_append] at kept

end Run

end SipContainer

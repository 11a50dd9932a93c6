import SipContainer.Proofs.Concurrency.Course
/-!
A trial of a pool does nothing that a workshop cannot do in the course of whole events. The jobs of
a trial go on one after the other, and each ends in one go.
-/

namespace SipContainer

namespace Simulation

/-- A property of worlds that does not depend on the agenda, and that every turn of a job keeps. -/
structure Lasting {W J : Type} [World W J] (property : W → Prop) : Prop where
  agenda : ∀ (world : W) (agenda : Agenda J), property world →
    property (World.setAgenda world agenda)
  resume : ∀ (job : J) (world : W), property world → property (World.resume job world)

/-- What comes of trying: the property stays, and where there is an answer, it is borne out. -/
def Kept {W A : Type} (property : W → Prop) (achieved : A → W → Prop) (result : W × Option A) :
    Prop :=
  property result.1 ∧ ∀ answer, result.2 = some answer → achieved answer result.1

namespace Lasting

variable {W J A : Type} [World W J] {property : W → Prop} {world next : W}
  {achieved : A → W → Prop} {attempt : W → W × Option A}

theorem resumeNext? (lasting : Lasting (W := W) property) (before : property world)
    (resumed : Simulation.resumeNext? world = some next) : property next := by
  unfold Simulation.resumeNext? at resumed
  dsimp only at resumed
  split at resumed
  · cases resumed
  · rw [← Option.some.inj resumed]
    exact lasting.resume _ _ (lasting.agenda _ _ before)

theorem drainWithin (lasting : Lasting property) (count : Nat) (before : property world) :
    property (Simulation.drainWithin count world) := by
  induction count generalizing world with
  | zero => exact before
  | succ count rest =>
      unfold Simulation.drainWithin
      split
      · exact before
      · rename_i next resumed
        exact rest (lasting.resumeNext? before resumed)

theorem waitWithin (lasting : Lasting property)
    (tries : ∀ world, property world → Kept property achieved (attempt world))
    (limit count : Nat) (due : Bool) (before : property world) :
    Kept property achieved (Simulation.waitWithin attempt limit count due world) := by
  induction count generalizing world due with
  | zero => exact ⟨before, nofun⟩
  | succ count rest =>
      unfold Simulation.waitWithin
      dsimp only
      have kept : Kept property achieved
          (if (due || (World.agenda world : Agenda J).ready.isEmpty) = true then attempt world
            else (world, none)) := by
        split
        · exact tries world before
        · exact ⟨before, nofun⟩
      split
      · rename_i world answer tried
        rwa [tried] at kept
      · rename_i world tried
        rw [tried] at kept
        have before := kept.1
        split
        · exact ⟨before, nofun⟩
        · split
          · rename_i next _ resumed
            exact rest false (lasting.resumeNext? before resumed)
          · split
            · exact rest true (lasting.agenda _ _ before)
            · exact ⟨lasting.agenda _ _ before, nofun⟩
          · exact ⟨lasting.agenda _ _ before, nofun⟩

theorem await (lasting : Lasting property)
    (tries : ∀ world, property world → Kept property achieved (attempt world)) (time : Nat)
    (before : property world) : Kept property achieved (Simulation.await attempt time world) := by
  have kept := tries world before
  unfold Simulation.await
  dsimp only
  split
  · rename_i world answer tried
    rwa [tried] at kept
  · rename_i world tried
    rw [tried] at kept
    exact lasting.waitWithin tries _ _ _ kept.1

theorem sleep (lasting : Lasting property) (time : Nat) (before : property world) :
    property (Simulation.sleep time world) := by
  unfold Simulation.sleep
  split
  · exact before
  · have waits : ∀ world, property world →
        Kept property (fun (_ : Unit) _ => True) (world, (none : Option Unit)) :=
      fun _ property => ⟨property, nofun⟩
    exact (lasting.await waits time before).1

end Lasting

/-! ### A trial as a workshop -/

def WorkStage.progress : WorkStage → Workshop.Progress
  | .submitted => .submitted
  | .queued => .queued
  | .running _ => .running
  | .ended how => .ended how

namespace PoolTrial

variable {trial : PoolTrial} {size number : Nat}

def workshop (trial : PoolTrial) : Workshop where
  pool := trial.pool
  tasks := trial.works.map (fun work => work.stage.progress)

/-- The workshop of this trial has come about by whole events. -/
def Shown (size : Nat) (trial : PoolTrial) : Prop :=
  ∃ record, Workshop.Course size trial.workshop record

theorem workshop_modify {change : Work → Work} (effect : Workshop.Progress → Workshop.Progress)
    (commutes : ∀ work, (change work).stage.progress = effect work.stage.progress) :
    (trial.change number change).workshop =
      { trial.workshop with tasks := trial.workshop.tasks.modify number effect } := by
  unfold workshop PoolTrial.change
  congr 1
  apply List.ext_getElem?
  intro other
  rw [List.getElem?_map, List.getElem?_modify, List.getElem?_modify, List.getElem?_map]
  cases trial.works[other]? with
  | none => rfl
  | some work =>
      by_cases same : number = other
      · simp [same, commutes]
      · simp [same]

theorem workshop_change {change : Work → Work} (keeps : ∀ work, (change work).stage = work.stage) :
    (trial.change number change).workshop = trial.workshop := by
  rw [workshop_modify id (fun work => congrArg WorkStage.progress (keeps work)), List.modify_id]

theorem workshop_setStage (stage : WorkStage) :
    (trial.setStage number stage).workshop = trial.workshop.move number stage.progress := by
  unfold setStage Workshop.move
  rw [workshop_modify (fun _ => stage.progress) (fun _ => rfl), List.set_eq_modify]

theorem workshop_finish (how : WorkEnd) :
    (trial.finish number how).workshop =
      { trial.workshop.move number (.ended how) with pool := trial.pool.finish number } := by
  unfold finish
  rw [workshop_setStage]
  rfl

theorem stands_of_work {work : Work} (present : trial.works[number]? = some work) :
    trial.workshop.tasks[number]? = some work.stage.progress := by
  unfold workshop
  rw [List.getElem?_map, present]
  rfl

namespace Shown

theorem created {pool : Pool} (made : Pool.create size = .ok pool) : Shown size { pool } := by
  obtain ⟨_, rfl⟩ := (Pool.create_eq_ok_iff size pool).mp made
  exact ⟨[], .opened⟩

theorem finish {how : WorkEnd} {progress : Workshop.Progress} (shown : trial.Shown size)
    (stands : trial.workshop.tasks[number]? = some progress) (may : progress.MayEnd how) :
    (trial.finish number how).Shown size := by
  obtain ⟨record, course⟩ := shown
  unfold Shown
  rw [workshop_finish]
  exact ⟨_, course.act (.conclude stands may)⟩

theorem proceed {work : Work} {due : Nat} (shown : trial.Shown size)
    (runs : trial.workshop.tasks[number]? = some .running) :
    (trial.proceed number work due).Shown size := by
  unfold PoolTrial.proceed
  split
  · split
    · exact shown.finish runs (Or.inl rfl)
    · have noted : (trial.note false work.name).Shown size := shown
      exact noted.finish runs (Or.inl rfl)
  · exact shown

theorem start {work : Work} (queued : (trial.setStage number .queued).Shown size)
    (present : trial.works[number]? = some work) (permitted : trial.pool.holds number = true) :
    (trial.start number work).Shown size := by
  obtain ⟨record, course⟩ := queued
  rw [workshop_setStage] at course
  change Workshop.Course size (trial.workshop.move number .queued) record at course
  have stands : (trial.workshop.move number .queued).tasks[number]? = some .queued :=
    Workshop.getElem?_move_self (stands_of_work present)
  have begun := course.act (.single rfl (.start stands permitted))
  have moved : ∀ due, (trial.setStage number (.running due)).workshop =
      (trial.workshop.move number .queued).move number .running := by
    intro due
    rw [workshop_setStage]
    unfold Workshop.move
    rw [List.set_set]
    rfl
  unfold PoolTrial.start
  apply proceed
  · rw [← moved (trial.agenda.clock + work.delay)] at begun
    exact ⟨_, begun⟩
  · have runs : ((trial.workshop.move number .queued).move number .running).tasks[number]? =
        some .running := Workshop.getElem?_move_self stands
    rw [← moved (trial.agenda.clock + work.delay)] at runs
    exact runs

theorem asked {work : Work} (shown : trial.Shown size) (present : trial.works[number]? = some work)
    (fresh : work.stage = .submitted) :
    ({ trial with pool := trial.pool.request number }.setStage number .queued).Shown size := by
  obtain ⟨record, course⟩ := shown
  have stands := stands_of_work present
  rw [fresh] at stands
  unfold Shown
  rw [workshop_setStage]
  exact ⟨_, course.act (.single rfl (.ask stands))⟩

theorem resume (shown : trial.Shown size) : (PoolTrial.resume number trial).Shown size := by
  unfold PoolTrial.resume
  split
  · exact shown
  · rename_i work present
    have stands := stands_of_work present
    cases stage : work.stage with
    | ended how => exact shown
    | submitted =>
        rw [stage] at stands
        cases aborted : work.aborted with
        | true => exact shown.finish stands (Or.inr ⟨rfl, rfl⟩)
        | false =>
            have asked := shown.asked present stage
            dsimp only
            split
            · rename_i permitted
              exact asked.start present permitted
            · exact asked
    | queued =>
        rw [stage] at stands
        cases aborted : work.aborted with
        | true => exact shown.finish stands (Or.inr ⟨rfl, rfl⟩)
        | false =>
            dsimp only
            split
            · rename_i permitted
              refine start ?_ present permitted
              unfold Shown
              rwa [workshop_setStage, Workshop.move_self stands]
            · exact shown
    | running due =>
        rw [stage] at stands
        cases aborted : work.aborted with
        | true => exact shown.finish stands (Or.inl rfl)
        | false => exact shown.proceed stands

theorem lasting (size : Nat) : Lasting (Shown size) where
  agenda _ _ shown := shown
  resume _ _ shown := shown.resume

theorem join (shown : trial.Shown size) (number : Nat) :
    Kept (Shown size) (fun how trial => trial.workshop.tasks[number]? = some (.ended how))
      (tryJoin number trial) := by
  unfold tryJoin
  split
  · rename_i how ended
    refine ⟨shown, ?_⟩
    intro answer answered
    obtain ⟨work, present, stage⟩ := Option.map_eq_some_iff.mp ended
    rw [stands_of_work present, stage, ← Option.some.inj answered]
    rfl
  · exact ⟨shown, nofun⟩

theorem waitIdle (shown : trial.Shown size) :
    Kept (Shown size) (fun _ trial => trial.pool.active = 0) (tryIdle trial) := by
  unfold tryIdle
  split
  · rename_i idle
    exact ⟨shown, fun _ _ => of_decide_eq_true idle⟩
  · split
    · exact ⟨shown, nofun⟩
    · rename_i unlisted
      obtain ⟨record, course⟩ := shown
      have absent : mainWatcher ∉ trial.workshop.pool.watchers := by
        intro listed
        exact unlisted (List.contains_iff_mem.mpr listed)
      exact ⟨⟨_, course.act (.await absent)⟩, nofun⟩

theorem withdraw (shown : trial.Shown size) (watcher : Nat) :
    Shown size { trial with pool := trial.pool.unwatch watcher } := by
  obtain ⟨record, course⟩ := shown
  exact ⟨_, course.act (.single rfl (.withdraw List.not_mem_nil))⟩

theorem change {change : Work → Work} (shown : trial.Shown size)
    (keeps : ∀ work, (change work).stage = work.stage) :
    (trial.change number change).Shown size := by
  unfold Shown
  rwa [workshop_change keeps]

theorem spawn (shown : trial.Shown size) (name : String) (delay : Nat) (panics : Bool) :
    (trial.act (.spawn name delay panics)).1.Shown size := by
  obtain ⟨record, course⟩ := shown
  have submitted := course.act (.single rfl .submit)
  refine ⟨.submit :: record, ?_⟩
  unfold act workshop
  dsimp only
  rw [List.map_append]
  exact submitted

end Shown

def Borne (trial : PoolTrial) : PoolStep → PoolAnswer → Prop
  | .join number, .ended how => trial.workshop.tasks[number]? = some (.ended how)
  | .waitIdle, .idle => trial.pool.active = 0
  | _, _ => True

namespace Shown

theorem act (shown : trial.Shown size) (step : PoolStep) :
    (trial.act step).1.Shown size ∧ (trial.act step).1.Borne step (trial.act step).2 := by
  cases step with
  | spawn name delay panics => exact ⟨shown.spawn name delay panics, trivial⟩
  | join number =>
      unfold PoolTrial.act
      dsimp only
      split
      · exact ⟨shown, trivial⟩
      · have taken : (trial.change number fun work => { work with joined := true }).Shown size :=
          shown.change (fun _ => rfl)
        have kept := (lasting size).await (fun _ shown => shown.join number) patience taken
        split
        · rename_i joined how awaited
          rw [awaited] at kept
          exact ⟨kept.1, kept.2 how rfl⟩
        · rename_i joined awaited
          rw [awaited] at kept
          exact ⟨kept.1, trivial⟩
  | abort number => exact ⟨shown.change (fun _ => rfl), trivial⟩
  | waitIdle =>
      have kept := (lasting size).await (fun _ => waitIdle) patience shown
      unfold PoolTrial.act
      dsimp only
      split
      · rename_i idle _ awaited
        rw [awaited] at kept
        exact ⟨kept.1, kept.2 () rfl⟩
      · rename_i busy awaited
        rw [awaited] at kept
        exact ⟨kept.1.withdraw mainWatcher, trivial⟩
  | settle time => exact ⟨(lasting size).sleep time shown, trivial⟩

/-- Every report of a trial is about what a workshop can come to. -/
theorem run (shown : trial.Shown size) (steps : List PoolStep) :
    List.Forall₂ (fun step (entry : Entry) => ∃ acted settled : PoolTrial,
      acted.Shown size ∧ acted.Borne step entry.answer ∧
      settled.Shown size ∧ entry.active = settled.pool.active) steps (trial.run steps) := by
  induction steps generalizing trial with
  | nil => exact List.Forall₂.nil
  | cons step steps rest =>
      obtain ⟨acted, borne⟩ := shown.act step
      have settled : (drain (trial.act step).1).Shown size := (lasting size).drainWithin _ acted
      exact List.Forall₂.cons ⟨_, _, acted, borne, settled, rfl⟩ (rest settled)

end Shown

end PoolTrial

end Simulation

end SipContainer

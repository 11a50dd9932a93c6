import SipContainer.Proofs.Concurrency.Permits
import SipContainer.Simulation.PoolTrial
/-!
The tasks of a pool and those who wait for it to be idle, in any order of events. A task asks for
a permit, begins once it has one, and ends by itself, by breaking down, or by being called off at any
point of this. Its end takes up to three strokes, and others may come between them: the permit goes
back, the count goes down, and whoever took it to zero tells all who are on the list of watchers. One
who waits for the pool to be idle gets on that list first and looks at the count afterwards.
-/

namespace SipContainer

open Simulation (WorkEnd)

namespace Pool

def lower (pool : Pool) : Pool :=
  { pool with active := pool.active - 1 }

def tell (pool : Pool) : Pool :=
  { pool with watchers := [] }

def enlist (pool : Pool) (watcher : Nat) : Pool :=
  { pool with watchers := pool.watchers ++ [watcher] }

theorem countDown_eq_lower (pool : Pool) :
    pool.countDown = if pool.active = 1 then pool.lower.tell else pool.lower := by
  unfold countDown
  split
  · rename_i last
    simp [lower, tell, last]
  · rfl

theorem capacity_request (pool : Pool) (task : Nat) :
    (pool.request task).capacity = pool.capacity := by
  unfold request
  split <;> rfl

theorem capacity_giveBack (pool : Pool) (task : Nat) :
    (pool.giveBack task).capacity = pool.capacity := by
  unfold giveBack passOn
  split
  · split <;> rfl
  · rfl

theorem active_request (pool : Pool) (task : Nat) : (pool.request task).active = pool.active := by
  unfold request
  split <;> rfl

theorem active_giveBack (pool : Pool) (task : Nat) : (pool.giveBack task).active = pool.active := by
  unfold giveBack passOn
  split
  · split <;> rfl
  · rfl

theorem watchers_request (pool : Pool) (task : Nat) :
    (pool.request task).watchers = pool.watchers := by
  unfold request
  split <;> rfl

theorem watchers_giveBack (pool : Pool) (task : Nat) :
    (pool.giveBack task).watchers = pool.watchers := by
  unfold giveBack passOn
  split
  · split <;> rfl
  · rfl

theorem watch_eq_enlist (pool : Pool) (watcher : Nat) :
    pool.watch watcher = if pool.active = 0 then pool else pool.enlist watcher :=
  rfl

end Pool

namespace Workshop

inductive Progress
  | submitted
  | queued
  | running
  /-- Its permit is back, and it still counts. -/
  | leaving (how : WorkEnd)
  | ended (how : WorkEnd)
deriving DecidableEq

namespace Progress

def isEnrolled : Progress → Bool
  | queued | running => true
  | submitted | leaving _ | ended _ => false

def isEarly : Progress → Bool
  | submitted | queued => true
  | running | leaving _ | ended _ => false

def isEnded : Progress → Bool
  | ended _ => true
  | _ => false

/-- How a task can come to its end. One that does not run yet can only be called off. -/
def MayEnd (progress : Progress) (how : WorkEnd) : Prop :=
  progress = running ∨ progress.isEarly = true ∧ how = .cancelled

theorem MayEnd.isEnded {progress : Progress} {how : WorkEnd} (may : progress.MayEnd how) :
    progress.isEnded = false := by
  rcases may with rfl | ⟨early, _⟩
  · rfl
  · cases progress <;> first | rfl | cases early

end Progress

end Workshop

structure Workshop where
  pool : Pool
  tasks : List Workshop.Progress := []
  /-- How many have taken the count to zero and have not told the watchers yet. -/
  heralds : Nat := 0
  /-- Those on the list of watchers who have not looked at the count since. -/
  lookers : List Nat := []

namespace Workshop

inductive Event
  | submit
  | ask (task : Nat)
  | start (task : Nat)
  | leave (task : Nat) (how : WorkEnd)
  | finish (task : Nat)
  | tell
  | enlist (caller : Nat)
  | look (caller : Nat) (done : Bool)
  | withdraw (caller : Nat)

def Event.submits : Event → Bool
  | submit => true
  | _ => false

def Event.finishes : Event → Bool
  | finish _ => true
  | _ => false

def Event.starts (task : Nat) : Event → Bool
  | start other => other = task
  | _ => false

def Event.frees (caller : Nat) : Event → Bool
  | tell => true
  | look other done => other = caller && done
  | withdraw other => other = caller
  | _ => false

def Event.isLookOf (caller : Nat) : Event → Bool
  | look other _ => other = caller
  | _ => false

/-- An event is on record, and none behind it of those that undo it. The record begins with the latest
event. -/
def Since (start : Event) (undoes : Event → Bool) (record : List Event) : Prop :=
  ∃ later earlier, record = later ++ start :: earlier ∧ ∀ event ∈ later, undoes event = false

def move (shop : Workshop) (task : Nat) (progress : Progress) : Workshop :=
  { shop with tasks := shop.tasks.set task progress }

def look (shop : Workshop) (caller : Nat) : Workshop :=
  { shop with
    pool := if shop.pool.isIdle then shop.pool.unwatch caller else shop.pool
    lookers := shop.lookers.erase caller }

variable {shop next : Workshop} {event : Event} {record : List Event} {size task : Nat}

inductive Step (shop : Workshop) : Event → Workshop → Prop
  | submit : Step shop .submit
      { shop with pool := shop.pool.submit, tasks := shop.tasks ++ [.submitted] }
  | ask {task : Nat} (stands : shop.tasks[task]? = some .submitted) : Step shop (.ask task)
      { shop.move task .queued with pool := shop.pool.request task }
  | start {task : Nat} (stands : shop.tasks[task]? = some .queued)
      (permitted : shop.pool.holds task = true) : Step shop (.start task) (shop.move task .running)
  | leave {task : Nat} {how : WorkEnd} {progress : Progress}
      (stands : shop.tasks[task]? = some progress) (may : progress.MayEnd how) :
      Step shop (.leave task how)
        { shop.move task (.leaving how) with pool := shop.pool.giveBack task }
  | finish {task : Nat} {how : WorkEnd} (stands : shop.tasks[task]? = some (.leaving how)) :
      Step shop (.finish task)
        { shop.move task (.ended how) with
          pool := shop.pool.lower
          heralds := if shop.pool.active = 1 then shop.heralds + 1 else shop.heralds }
  | tell (due : 0 < shop.heralds) : Step shop .tell
      { shop with pool := shop.pool.tell, heralds := shop.heralds - 1 }
  | enlist {caller : Nat} (unlisted : caller ∉ shop.pool.watchers)
      (waits : caller ∉ shop.lookers) : Step shop (.enlist caller)
      { shop with pool := shop.pool.enlist caller, lookers := shop.lookers ++ [caller] }
  | look {caller : Nat} {done : Bool} (looks : caller ∈ shop.lookers)
      (sees : done = shop.pool.isIdle) : Step shop (.look caller done) (shop.look caller)
  | withdraw {caller : Nat} (waits : caller ∉ shop.lookers) : Step shop (.withdraw caller)
      { shop with pool := shop.pool.unwatch caller }

/-- What comes of a new pool, with the record of events. -/
inductive Run (size : Nat) : Workshop → List Event → Prop
  | opened : Run size { pool := .ofSize size } []
  | step {shop next : Workshop} {record : List Event} {event : Event} (run : Run size shop record)
      (step : shop.Step event next) : Run size next (event :: record)

theorem since_cons {start : Event} {undoes : Event → Bool} :
    Since start undoes (event :: record) ↔
      event = start ∨ undoes event = false ∧ Since start undoes record := by
  constructor
  · rintro ⟨later, earlier, split, undisturbed⟩
    cases later with
    | nil => exact Or.inl (List.cons.inj split).1
    | cons latest later =>
        obtain ⟨rfl, rest⟩ := List.cons.inj split
        exact Or.inr ⟨undisturbed _ List.mem_cons_self, later, earlier, rest,
          fun event member => undisturbed event (List.mem_cons_of_mem _ member)⟩
  · rintro (rfl | ⟨harmless, later, earlier, rfl, undisturbed⟩)
    · exact ⟨[], record, rfl, nofun⟩
    · exact ⟨event :: later, earlier, rfl, List.forall_mem_cons.mpr ⟨harmless, undisturbed⟩⟩

theorem since_cons_imp {start other : Event} {undoes : Event → Bool} (different : event ≠ start)
    (follows : Since start undoes record → Since other undoes record) :
    Since start undoes (event :: record) → Since other undoes (event :: record) := by
  rw [since_cons, since_cons, or_iff_right different]
  intro earlier
  exact Or.inr (earlier.imp_right follows)

theorem not_since_nil {start : Event} {undoes : Event → Bool} : ¬ Since start undoes [] := by
  rintro ⟨later, earlier, split, _⟩
  cases later <;> cases split

theorem getElem?_move_self {progress other : Progress} (stands : shop.tasks[task]? = some other) :
    (shop.move task progress).tasks[task]? = some progress :=
  List.getElem?_set_self (List.getElem?_eq_some_iff.mp stands).1

theorem getElem?_move_of_ne {other : Nat} {progress : Progress} (different : other ≠ task) :
    (shop.move task progress).tasks[other]? = shop.tasks[other]? :=
  List.getElem?_set_ne different.symm

theorem move_self {progress : Progress} (stands : shop.tasks[task]? = some progress) :
    shop.move task progress = shop := by
  obtain ⟨bound, present⟩ := List.getElem?_eq_some_iff.mp stands
  unfold move
  rw [← present, List.set_getElem_self]

theorem getElem?_submitted {tasks : List Progress} {progress : Progress} :
    (tasks ++ [.submitted])[task]? = some progress ↔
      tasks[task]? = some progress ∨ task = tasks.length ∧ progress = .submitted := by
  rcases Nat.lt_trichotomy task tasks.length with early | rfl | late
  · rw [List.getElem?_append_left early, or_iff_left (fun last => Nat.ne_of_lt early last.1)]
  · simp [eq_comm]
  · have before : tasks[task]? = none := List.getElem?_eq_none (Nat.le_of_lt late)
    have after : (tasks ++ [.submitted])[task]? = none := by
      apply List.getElem?_eq_none
      rw [List.length_append]
      exact late
    rw [before, after]
    simp [Nat.ne_of_gt late]

def Enrolled (shop : Workshop) (task : Nat) : Prop :=
  ∃ progress, shop.tasks[task]? = some progress ∧ progress.isEnrolled = true

theorem enrolled_congr {progress : Progress} (stands : shop.tasks[task]? = some progress) :
    shop.Enrolled task ↔ progress.isEnrolled = true := by
  unfold Enrolled
  rw [stands]
  constructor
  · rintro ⟨other, same, enrolled⟩
    rwa [Option.some.inj same]
  · intro enrolled
    exact ⟨progress, rfl, enrolled⟩

end Workshop

end SipContainer

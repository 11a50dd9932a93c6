import SipContainer.Application
import SipContainer.Concurrency.Gate
/-!
A task carries one request through its dialog session: into the gate, to the application, perhaps
on through a proxy, and out again. Its stage says how far it has come, and what it waits for.

Every session has a gate. Besides tasks, outsiders may hold a gate for purposes of their own.
-/

namespace SipContainer

inductive GateId
  | dialog (session : Nat)
  | application (session : Nat)
deriving DecidableEq, Repr

inductive Party
  | task (number : Nat)
  | outsider (number : Nat)
deriving DecidableEq, Repr

/-- The gates of all sessions. One that is not listed has nobody in its line. -/
structure GateBoard where
  entries : List (GateId × Gate Party) := []

namespace GateBoard

def gate (board : GateBoard) (id : GateId) : Gate Party :=
  (board.entries.lookup id).getD {}

def modify (board : GateBoard) (id : GateId) (change : Gate Party → Gate Party) : GateBoard :=
  ⟨(id, change (board.gate id)) :: board.entries.filter (fun entry => entry.1 ≠ id)⟩

@[simp] theorem gate_modify_self (board : GateBoard) (id : GateId)
    (change : Gate Party → Gate Party) :
    (board.modify id change).gate id = change (board.gate id) := by
  simp [modify, gate]

theorem gate_modify_of_ne (board : GateBoard) {id other : GateId}
    (change : Gate Party → Gate Party) (different : other ≠ id) :
    (board.modify id change).gate other = board.gate other := by
  have kept : (board.entries.filter (fun entry => entry.1 ≠ id)).lookup other =
      board.entries.lookup other := by
    induction board.entries with
    | nil => rfl
    | cons entry rest ih =>
        obtain ⟨key, value⟩ := entry
        by_cases same : key = id
        · subst same
          simpa [List.lookup_cons, beq_false_of_ne different] using ih
        · by_cases found : other = key
          · subst found
            simp [same]
          · simpa [List.lookup_cons, same, beq_false_of_ne found] using ih
  have apart : (other == id) = false := beq_false_of_ne different
  unfold gate modify
  rw [List.lookup_cons, apart]
  exact congrArg (Option.getD · {}) kept

def move (board : GateBoard) (id : Option GateId) (party : Party) (move : LineMove) : GateBoard :=
  match move, id with
  | .stay, _ | _, none => board
  | .join, some id => board.modify id (·.enter party)
  | .quit, some id => board.modify id (·.leave party)

theorem gate_move (board : GateBoard) (id : Option GateId) (party : Party) (move : LineMove)
    (other : GateId) :
    (board.move id party move).gate other =
      if id = some other then (board.gate other).move party move else board.gate other := by
  cases id with
  | none => cases move <;> rfl
  | some id =>
      by_cases same : id = other
      · subst same
        rw [if_pos rfl]
        cases move <;> simp [GateBoard.move, Gate.move]
      · rw [if_neg (fun equal => same (Option.some.inj equal))]
        cases move with
        | stay => rfl
        | join | quit => exact gate_modify_of_ne board _ (fun equal => same equal.symm)

end GateBoard

def ConcurrencyMode.gate? (mode : ConcurrencyMode) (applicationSession dialogSession : Nat) :
    Option GateId :=
  match mode with
  | .session => some (.dialog dialogSession)
  | .applicationSession => some (.application applicationSession)
  | .none | .transaction => Option.none

/-- Who looks after a task. -/
inductive Course
  | dispatched (execution : Execution)
  /-- Someone who made it by hand, and takes it no further than into the gate. -/
  | byHand
  /-- Someone who made it by hand and lets it run to its end. A fault is answered, or else left to
  them. -/
  | running (answers : Bool)
deriving DecidableEq, Repr

def Course.answers : Course → Bool
  | dispatched _ => true
  | running answers => answers
  | byHand => false

/-- The way of a request once it is inside the gate, fixed when it sets out: to the application
alone, or to the application and then through a proxy. -/
inductive Plan
  | application
  | final (proxy branch : Nat)
  | fanOut (proxy : Nat)
deriving DecidableEq, Repr

inductive Leg
  | final (proxy branch : Nat)
  | fanOut (proxy branch : Nat) (others : List Nat)
deriving DecidableEq, Repr

namespace Leg

def proxy : Leg → Nat
  | final proxy _ => proxy
  | fanOut proxy _ _ => proxy

def branch : Leg → Nat
  | final _ branch => branch
  | fanOut _ branch _ => branch

end Leg

inductive Ending
  | completed
  | failed (fault : DispatchError)
  | timedOut (fault : DispatchError)
  | panicked (message : Option String)
  /-- It was given up from outside before it came in. -/
  | withdrawn
  /-- It was given up from outside later. -/
  | cancelled
deriving DecidableEq, Repr

inductive Stage
  | created
  | waiting
  | entered
  /-- It is in and has been handed to the pool, where it has not had a turn. -/
  | submitted
  | queued
  | serving (plan : Plan)
  | forwarding (leg : Leg)
  | responding (fault : DispatchError)
  | finished (ending : Ending)
deriving DecidableEq, Repr

namespace Stage

def isInside : Stage → Bool
  | entered | submitted | queued | serving _ | forwarding _ => true
  | created | waiting | responding _ | finished _ => false

def isFinished : Stage → Bool
  | finished _ => true
  | _ => false

end Stage

structure Task where
  request : Request
  application : Nat
  applicationSession : Nat
  dialogSession : Nat
  key : DialogKey
  gate : Option GateId
  timeout : Option Duration
  course : Course
  stage : Stage := .waiting

def Task.isPooled (task : Task) : Bool :=
  task.course = .dispatched .pooled

end SipContainer

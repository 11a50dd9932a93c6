import SipContainer.Concurrency.Pool
import SipContainer.Simulation.Agenda
/-!
A trial of a single pool of workers: tasks that sleep and then end well or break down, and
a main line that waits for them, calls them off, or waits for the pool to be idle.
-/

namespace SipContainer.Simulation

inductive WorkEnd
  | completed | panicked | cancelled
deriving DecidableEq

inductive WorkStage
  | submitted
  | queued
  | running (due : Nat)
  | ended (how : WorkEnd)
deriving DecidableEq

structure Work where
  name : String
  delay : Nat
  panics : Bool
  stage : WorkStage := .submitted
  aborted : Bool := false
  joined : Bool := false

structure PoolEvent where
  starts : Bool
  name : String
  time : Nat

inductive PoolStep
  | spawn (name : String) (delay : Nat) (panics : Bool)
  | join (task : Nat)
  | abort (task : Nat)
  | waitIdle
  | settle (time : Nat)

inductive PoolAnswer
  | done
  | ended (how : WorkEnd)
  | taken
  | blocked
  | idle

structure PoolTrial where
  pool : Pool
  works : List Work := []
  events : List PoolEvent := []
  agenda : Agenda Nat := {}

namespace PoolTrial

def note (trial : PoolTrial) (starts : Bool) (name : String) : PoolTrial :=
  { trial with events := trial.events ++ [{ starts, name, time := trial.agenda.clock }] }

def change (trial : PoolTrial) (number : Nat) (change : Work → Work) : PoolTrial :=
  { trial with works := trial.works.modify number change }

def setStage (trial : PoolTrial) (number : Nat) (stage : WorkStage) : PoolTrial :=
  trial.change number (fun work => { work with stage })

def finish (trial : PoolTrial) (number : Nat) (how : WorkEnd) : PoolTrial :=
  let agenda := match trial.pool.successor? number with
    | some next => trial.agenda.wake next
    | none => trial.agenda
  { trial with pool := trial.pool.finish number, agenda }.setStage number (.ended how)

def proceed (trial : PoolTrial) (number : Nat) (work : Work) (due : Nat) : PoolTrial :=
  if due ≤ trial.agenda.clock then
    if work.panics then trial.finish number .panicked
    else (trial.note false work.name).finish number .completed
  else trial

def start (trial : PoolTrial) (number : Nat) (work : Work) : PoolTrial :=
  let due := trial.agenda.clock + work.delay
  let started := (trial.note true work.name).setStage number (.running due)
  { started with agenda := started.agenda.setAlarm work.delay number }.proceed number work due

def resume (number : Nat) (trial : PoolTrial) : PoolTrial :=
  match trial.works[number]? with
  | none => trial
  | some work =>
    match work.stage, work.aborted with
    | .ended _, _ => trial
    | _, true => trial.finish number .cancelled
    | .submitted, false =>
      let asked := { trial with pool := trial.pool.request number }
      if asked.pool.holds number then asked.start number work else asked.setStage number .queued
    | .queued, false => if trial.pool.holds number then trial.start number work else trial
    | .running due, false => trial.proceed number work due

instance : World PoolTrial Nat where
  agenda := PoolTrial.agenda
  setAgenda trial agenda := { trial with agenda }
  resume := resume
  bound trial :=
    8 * (trial.works.length + trial.agenda.ready.length + trial.agenda.alarms.length + 1)

def tryJoin (number : Nat) (trial : PoolTrial) : PoolTrial × Option WorkEnd :=
  match (trial.works[number]?).map Work.stage with
  | some (.ended how) => (trial, some how)
  | _ => (trial, none)

def mainWatcher : Nat := 0

def tryIdle (trial : PoolTrial) : PoolTrial × Option Unit :=
  if trial.pool.isIdle then (trial, some ())
  else if trial.pool.watchers.contains mainWatcher then (trial, none)
  else ({ trial with pool := trial.pool.watch mainWatcher }, none)

def act (trial : PoolTrial) : PoolStep → PoolTrial × PoolAnswer
  | .spawn name delay panics =>
    ({ trial with
      pool := trial.pool.submit
      works := trial.works ++ [{ name, delay, panics }]
      agenda := trial.agenda.wake trial.works.length }, .done)
  | .join number =>
    if ((trial.works[number]?).map Work.joined).getD true then (trial, .taken)
    else
      match await (tryJoin number) patience
          (trial.change number (fun work => { work with joined := true })) with
      | (trial, some how) => (trial, .ended how)
      | (trial, none) => (trial, .blocked)
  | .abort number =>
    let called := trial.change number (fun work => { work with aborted := true })
    ({ called with agenda := called.agenda.wake number }, .done)
  | .waitIdle =>
    match await tryIdle patience trial with
    | (trial, some _) => (trial, .idle)
    | (trial, none) => ({ trial with pool := trial.pool.unwatch mainWatcher }, .blocked)
  | .settle time => (sleep time trial, .done)

structure Entry where
  answer : PoolAnswer
  time : Nat
  active : Nat
  events : List PoolEvent

def run (trial : PoolTrial) : List PoolStep → List Entry
  | [] => []
  | step :: rest =>
    let (acted, answer) := trial.act step
    let settled := drain acted
    { answer, time := settled.agenda.clock, active := settled.pool.active
      events := settled.events } :: run { settled with events := [] } rest

end PoolTrial

end SipContainer.Simulation

import SipContainer.Concurrency.Gate
import SipContainer.Simulation.Agenda
/-!
A trial of a single gate: guests come in from the main line or on their own, wait with or
without a time limit, and stay until they are released or for a fixed time.
-/

namespace SipContainer.Simulation

inductive GuestStage
  | coming
  | waiting (due : Option Nat)
  | inside (due : Option Nat)
  | gone
deriving DecidableEq

structure Guest where
  name : String
  timeout : Option Nat
  stay : Option Nat
  stage : GuestStage := .coming

inductive GateEventKind
  | entered | elapsed | left
deriving DecidableEq

structure GateEvent where
  kind : GateEventKind
  name : String
  time : Nat

inductive GateStep
  | enter (name : String) (timeout : Option Nat)
  | spawn (name : String) (timeout stay : Option Nat)
  | release (name : String)
  | settle (time : Nat)
  | ask

inductive GateAnswer
  | done
  | entered
  | elapsed
  | blocked
  | flag (value : Bool)

structure GateTrial where
  gate : Gate Nat := {}
  guests : List Guest := []
  guards : List (String × Nat) := []
  events : List GateEvent := []
  agenda : Agenda Nat := {}

namespace GateTrial

def note (trial : GateTrial) (kind : GateEventKind) (name : String) : GateTrial :=
  { trial with events := trial.events ++ [{ kind, name, time := trial.agenda.clock }] }

def setStage (trial : GateTrial) (number : Nat) (stage : GuestStage) : GateTrial :=
  let set (guest : Guest) : Guest := { guest with stage }
  { trial with guests := trial.guests.modify number set }

def leave (trial : GateTrial) (number : Nat) : GateTrial :=
  let agenda := match trial.gate.successor? number with
    | some next => trial.agenda.wake next
    | none => trial.agenda
  { trial with gate := trial.gate.leave number, agenda }

/-- A guest inside is kept under a name; one kept there before leaves. -/
def keep (trial : GateTrial) (name : String) (number : Nat) : GateTrial :=
  let others := trial.guards.filter (fun guard => guard.1 != name)
  let kept := { trial with guards := others ++ [(name, number)] }
  match trial.guards.lookup name with
  | some before => kept.leave before
  | none => kept

def due (trial : GateTrial) (time : Option Nat) : Option Nat :=
  time.map (trial.agenda.clock + ·)

def isDue (trial : GateTrial) (due : Option Nat) : Bool :=
  due.any (· ≤ trial.agenda.clock)

def alarm (trial : GateTrial) (time : Option Nat) (number : Nat) : GateTrial :=
  match time with
  | some time => { trial with agenda := trial.agenda.setAlarm time number }
  | none => trial

def depart (trial : GateTrial) (number : Nat) (guest : Guest) (due : Option Nat) : GateTrial :=
  if trial.isDue due then
    ((trial.leave number).setStage number .gone).note .left guest.name
  else trial

def proceed (trial : GateTrial) (number : Nat) (guest : Guest) (due : Option Nat) : GateTrial :=
  if trial.gate.admits number then
    let seen := trial.note .entered guest.name
    match guest.stay with
    | some _ =>
      let limit := trial.due guest.stay
      ((seen.setStage number (.inside limit)).alarm guest.stay number).depart number guest limit
    | none => (seen.setStage number (.inside none)).keep guest.name number
  else if trial.isDue due then
    ((trial.leave number).setStage number .gone).note .elapsed guest.name
  else trial

def resume (number : Nat) (trial : GateTrial) : GateTrial :=
  match trial.guests[number]? with
  | none => trial
  | some guest =>
    match guest.stage with
    | .coming =>
      let limit := trial.due guest.timeout
      let queued := ({ trial with gate := trial.gate.enter number }).setStage number (.waiting limit)
      (queued.alarm guest.timeout number).proceed number guest limit
    | .waiting limit => trial.proceed number guest limit
    | .inside limit => trial.depart number guest limit
    | .gone => trial

instance : World GateTrial Nat where
  agenda := GateTrial.agenda
  setAgenda trial agenda := { trial with agenda }
  resume := resume
  bound trial := 8 * (trial.guests.length + trial.agenda.ready.length + 1)

def tryEnter (number : Nat) (trial : GateTrial) : GateTrial × Option Unit :=
  let queued := if trial.gate.line.contains number then trial
    else { trial with gate := trial.gate.enter number }
  (queued, if queued.gate.admits number then some () else none)

def act (trial : GateTrial) : GateStep → GateTrial × GateAnswer
  | .enter name timeout =>
    let number := trial.guests.length
    let main : Guest := { name, timeout, stay := none, stage := .gone }
    let limit := min (timeout.getD patience) patience
    match await (tryEnter number) limit { trial with guests := trial.guests ++ [main] } with
    | (trial, some _) => (trial.keep name number, .entered)
    | (trial, none) =>
      (trial.leave number, if timeout.any (· ≤ patience) then .elapsed else .blocked)
  | .spawn name timeout stay =>
    ({ trial with
      guests := trial.guests ++ [{ name, timeout, stay }]
      agenda := trial.agenda.wake trial.guests.length }, .done)
  | .release name =>
    match trial.guards.lookup name with
    | some number =>
      let others := trial.guards.filter (fun guard => guard.1 != name)
      (({ trial with guards := others }).leave number, .flag true)
    | none => (trial, .flag false)
  | .settle time => (sleep time trial, .done)
  | .ask => (trial, .flag trial.gate.isHeld)

structure Entry where
  answer : GateAnswer
  time : Nat
  held : Bool
  events : List GateEvent

def run (trial : GateTrial) : List GateStep → List Entry
  | [] => []
  | step :: rest =>
    let (acted, answer) := trial.act step
    let settled := drain acted
    { answer, time := settled.agenda.clock, held := settled.gate.isHeld
      events := settled.events } :: run { settled with events := [] } rest

end GateTrial

end SipContainer.Simulation

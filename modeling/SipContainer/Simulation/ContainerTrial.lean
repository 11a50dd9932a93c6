import SipContainer.Dispatch.Step
import SipContainer.Simulation.Agenda
import SipContainer.Session.Operation
/-!
A trial of a whole container: the behavior of its collaborators is fixed beforehand, time is
virtual, and what happens is written down together with what the application could see at that
moment.

The jobs of the agenda are tasks. A task goes on through the steps of the container until it waits
for its gate, for a permit, or for the application to take its time.
-/

namespace SipContainer.Simulation

structure Handler where
  conduct : Conduct := .success
  delay : Nat := 0
  delayPerSequence : Nat := 0
  asked : Bool := true

structure Labelled where
  dialog : Nat
  application : Nat

structure View where
  application : String
  request : Request
  session : Option String
  key : DialogKey
  applicationKey : String
  dialog : Dialog
  gateHeld : Bool
  applicationGateHeld : Bool

inductive Note
  | relay (request : Request)
  | respond (request : Request) (status : Nat) (reason : String)
  | correlate (application : String) (key : ApplicationKey) (kind : Correlation)
  | service (view : View)
  | serviceEnd (application : String) (request : Request)
  | forward (stateless : Bool) (target : String) (request : Request) (waiting : Bool)

structure ProxyView where
  ack : Bool
  lastRequest : Option String
  waiting : List Bool
  final : Option String
deriving DecidableEq

structure Snapshot where
  dialog : Dialog
  stored : Bool
  gateHeld : Bool
  applicationGateHeld : Bool
  validity : Validity
  proxy : Option ProxyView
deriving DecidableEq

structure ContainerTrial where
  container : Container
  agenda : Agenda Nat := {}
  handlers : List Handler := []
  forwarders : List (List Conduct) := []
  sender : SendConduct := .success
  responder : Conduct := .success
  labels : List (String × Labelled) := []
  guards : List (String × Nat × GateId) := []
  outsiders : Nat := 0
  calls : List (String × Nat) := []
  handmade : List (String × Nat) := []
  mainTask : Option Nat := none
  dues : List (Nat × Nat) := []
  notes : List (Nat × Note) := []
  shown : List (String × Snapshot) := []

namespace ContainerTrial

def put {K V : Type} [DecidableEq K] (pairs : List (K × V)) (key : K) (value : V) :
    List (K × V) :=
  pairs.filter (fun pair => pair.1 ≠ key) ++ [(key, value)]

def drop {K V : Type} [DecidableEq K] (pairs : List (K × V)) (key : K) : List (K × V) :=
  pairs.filter (fun pair => pair.1 ≠ key)

def write (trial : ContainerTrial) (note : Note) : ContainerTrial :=
  { trial with notes := trial.notes ++ [(trial.agenda.clock, note)] }

def task? (trial : ContainerTrial) (number : Nat) : Option Task :=
  trial.container.tasks[number]?

def handler (trial : ContainerTrial) (task : Task) : Handler :=
  trial.handlers[task.application]?.getD {}

def delay (trial : ContainerTrial) (task : Task) : Nat :=
  (trial.handler task).delay + (trial.handler task).delayPerSequence * task.request.sequence

def isHeld (trial : ContainerTrial) (gate : GateId) : Bool :=
  (trial.container.gates.gate gate).isHeld

def label? (trial : ContainerTrial) (dialog : Nat) : Option String :=
  (trial.labels.find? (fun entry => entry.2.dialog = dialog)).map Prod.fst

def dialog (trial : ContainerTrial) (session : Nat) : Dialog :=
  ((trial.container.store.dialogs.get? session).map DialogSession.dialog).getD {}

def view (trial : ContainerTrial) (task : Task) : View where
  application := trial.container.applicationName task.application
  request := task.request
  session := trial.label? task.dialogSession
  key := task.key
  applicationKey := trial.container.gateLabel (.application task.applicationSession)
  dialog := trial.dialog task.dialogSession
  gateHeld := trial.isHeld (.dialog task.dialogSession)
  applicationGateHeld := trial.isHeld (.application task.applicationSession)

def setDue (trial : ContainerTrial) (number time : Nat) : ContainerTrial :=
  { trial with
    dues := put trial.dues number (trial.agenda.clock + time)
    agenda := trial.agenda.setAlarm time number }

def isDue (trial : ContainerTrial) (number : Nat) : Bool :=
  (trial.dues.lookup number).any (· ≤ trial.agenda.clock)

def noteOf (trial : ContainerTrial) (number : Nat) (make : Task → ContainerTrial → ContainerTrial) :
    ContainerTrial :=
  match trial.task? number with
  | some task => make task trial
  | none => trial

def observe (trial : ContainerTrial) : Effect → ContainerTrial
  | .asked application key kind =>
    if (trial.handlers[application]?.getD {}).asked then
      trial.write (.correlate (trial.container.applicationName application) key kind)
    else trial
  | .relayed request => trial.write (.relay request)
  | .served number => trial.noteOf number (fun task trial =>
      (trial.write (.service (trial.view task))).setDue number (trial.delay task))
  | .forwarded number leg => trial.noteOf number (fun task trial =>
      let stateless := match leg with
        | .final _ _ => false
        | .fanOut _ _ _ => true
      let waiting := ((trial.container.proxies[leg.proxy]?).map (·.awaits leg.branch)).getD false
      trial.write (.forward stateless (trial.container.legTarget leg) task.request waiting))
  | .responded number fault => trial.noteOf number (fun task trial =>
      trial.write (.respond task.request fault.status fault.message))

def wake (trial : ContainerTrial) (number : Nat) : ContainerTrial :=
  { trial with agenda := trial.agenda.wake number }

def wakeHolder (before : Container) (gate : GateId) (trial : ContainerTrial) : ContainerTrial :=
  let now := (trial.container.gates.gate gate).holder?
  if (before.gates.gate gate).holder? = now then trial
  else match now with
    | some (.task number) => trial.wake number
    | _ => trial

def wakePermitted (before : Container) (number : Nat) (task : Task) (trial : ContainerTrial) :
    ContainerTrial :=
  let holders (container : Container) : List Nat :=
    ((container.pool? task.application).map Pool.holders).getD []
  let fresh := (holders trial.container).filter
    (fun other => other ≠ number && !(holders before).contains other)
  fresh.foldl wake trial

def handOver (trial : ContainerTrial) (number : Nat) : ContainerTrial :=
  if trial.mainTask = some number then { trial with mainTask := none } else trial

/-- Whoever can go on because of a step is woken: first at a gate, then at a pool. A task handed to
its pool has its turn there later. -/
def wakeAfter (before : Container) (step : Step) (trial : ContainerTrial) : ContainerTrial :=
  match step with
  | .hold _ gate | .release _ gate => trial.wakeHolder before gate
  | _ =>
    match step.task?.bind (fun number => (trial.task? number).map (fun task => (number, task)))
    with
    | none => trial
    | some (number, task) =>
      let atGate := match task.gate with
        | some gate => trial.wakeHolder before gate
        | none => trial
      let atPool := atGate.wakePermitted before number task
      match step, task.stage with
      | .enter _, .submitted => (atPool.handOver number).wake number
      | _, _ => atPool

def perform (trial : ContainerTrial) (step : Step) : ContainerTrial :=
  match trial.container.step? step with
  | none => trial
  | some (container, effects) =>
    (effects.foldl observe { trial with container }).wakeAfter trial.container step

def forwarder (trial : ContainerTrial) (leg : Leg) : Conduct :=
  ((trial.forwarders[leg.proxy]?).bind (·[leg.branch]?)).getD .success

def serve? (trial : ContainerTrial) (number : Nat) (task : Task) : Option ContainerTrial :=
  if trial.isDue number then
    let ended := if trial.delay task = 0 then trial
      else trial.write (.serviceEnd (trial.container.applicationName task.application) task.request)
    some (ended.perform (.serve number (trial.handler task).conduct))
  else none

def goOn? (trial : ContainerTrial) (number : Nat) (task : Task) : Option ContainerTrial :=
  match task.stage with
  | .waiting =>
    if trial.container.admits number task then some (trial.perform (.enter number))
    else if trial.isDue number then some (trial.perform (.giveUp number))
    else none
  | .entered =>
    if task.course = .byHand then none else some (trial.perform (.start number))
  | .serving _ => trial.serve? number task
  | .forwarding leg => some (trial.perform (.forward number (trial.forwarder leg)))
  | .responding _ => some (trial.perform (.respond number trial.responder))
  | .created | .submitted | .queued | .finished _ => none

def goOnWithin : Nat → Nat → ContainerTrial → ContainerTrial
  | 0, _, trial => trial
  | count + 1, number, trial =>
    match (trial.task? number).bind (trial.goOn? number) with
    | some next => goOnWithin count number next
    | none => trial

/-- A task goes on until it has to wait. It passes a few stages, and each branch at most once for
each time it was added. -/
def goOn (number : Nat) (trial : ContainerTrial) : ContainerTrial :=
  goOnWithin ((trial.container.proxies.flatMap Proxy.order).length + 10) number trial

def resume (number : Nat) (trial : ContainerTrial) : ContainerTrial :=
  if trial.mainTask = some number then trial
  else
    match (trial.task? number).map Task.stage with
    | some .submitted | some .queued => goOn number (trial.perform (.start number))
    | _ => goOn number trial

instance : World ContainerTrial Nat where
  agenda := ContainerTrial.agenda
  setAgenda trial agenda := { trial with agenda }
  resume := resume
  bound trial := 16 * (trial.container.tasks.length + trial.agenda.ready.length +
    trial.agenda.alarms.length + 1)

def viewProxy (proxy : Proxy) : ProxyView where
  ack := proxy.ackReceived
  lastRequest := proxy.lastRequest.map Request.render
  waiting := proxy.branches.map Branch.awaitsPrack
  final := proxy.final.map proxy.targetText

def snapshot? (trial : ContainerTrial) (labelled : Labelled) : Option Snapshot := do
  let session ← trial.container.store.dialogs.get? labelled.dialog
  let application ← trial.container.store.applications.get? labelled.application
  return {
    dialog := { session.dialog with subscriptions := session.dialog.listedSubscriptions }
    stored := trial.container.store.dialogs.find? session.key = some labelled.dialog
    gateHeld := trial.isHeld (.dialog labelled.dialog)
    applicationGateHeld := trial.isHeld (.application labelled.application)
    validity := application.validity
    proxy := (session.proxy.bind (trial.container.proxies[·]?)).map viewProxy }

def snapshots (trial : ContainerTrial) : List (String × Snapshot) :=
  trial.labels.filterMap
    (fun entry => (trial.snapshot? entry.2).map (fun snapshot => (entry.1, snapshot)))

end ContainerTrial

end SipContainer.Simulation

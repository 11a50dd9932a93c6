import SipContainer.Config.Settings
import SipContainer.Dispatch.Task
import SipContainer.Proxy
import SipContainer.Routing.Decision
import SipContainer.Routing.Resolution
/-!
The container: its settings, the deployed applications, the sessions with their gates, the proxies,
and the calls and tasks under way. What a new request leads to is decided here; how things go on
from there is the subject of the steps.
-/

namespace SipContainer

inductive CallResult
  | direct (task : Nat)
  | pooled (task : Nat)
  | relayed
  | dropped
  | outOfSequence
  | refused (fault : DispatchError)
  | panicked (message : Option String)
deriving DecidableEq, Repr

inductive CallProgress
  | relaying
  | underway (task : Nat)
  | answered (result : CallResult)
deriving DecidableEq, Repr

structure Call where
  request : Request
  progress : CallProgress

/-- A SIP application container at work. Calls, tasks and proxies go by their numbers. -/
structure Container where
  settings : Settings
  registry : Registry := {}
  store : SessionStore := {}
  gates : GateBoard := {}
  proxies : List Proxy := []
  calls : List Call := []
  tasks : List Task := []

inductive Effect
  | asked (application : Nat) (key : ApplicationKey) (kind : Correlation)
  | relayed (request : Request)
  | served (task : Nat)
  | forwarded (task : Nat) (leg : Leg)
  | responded (task : Nat) (fault : DispatchError)
deriving DecidableEq, Repr

namespace Container

def modifyDialog (container : Container) (session : Nat) (change : Dialog → Dialog) : Container :=
  { container with store := container.store.modifyDialog session change }

def modifyProxy (container : Container) (number : Nat) (change : Proxy → Proxy) : Container :=
  { container with proxies := container.proxies.modify number change }

def modifyGate (container : Container) (id : GateId) (change : Gate Party → Gate Party) :
    Container :=
  { container with gates := container.gates.modify id change }

def applicationName (container : Container) (number : Nat) : String :=
  ((container.registry.get? number).map Application.name).getD ""

def pool? (container : Container) (application : Nat) : Option Pool :=
  (container.registry.get? application).map Application.pool

def admits (container : Container) (number : Nat) (task : Task) : Bool :=
  match task.gate with
  | none => true
  | some gate => (container.gates.gate gate).admits (.task number)

def gateLabel (container : Container) : GateId → String
  | .dialog session =>
    ((container.store.dialogs.get? session).map (fun session => session.key.render)).getD ""
  | .application session =>
    ((container.store.applications.get? session).map (fun session => session.key.render)).getD ""

def result? (container : Container) (call : Call) : Option CallResult :=
  match call.progress with
  | .relaying => none
  | .answered result => some result
  | .underway number =>
    match container.tasks[number]? with
    | none => none
    | some task =>
      match task.course, task.stage with
      | _, .finished (.timedOut fault) => some (.refused fault)
      | _, .finished .withdrawn => none
      | .dispatched .pooled, .waiting => none
      | .dispatched .pooled, _ => some (.pooled number)
      | _, .finished (.panicked message) => some (.panicked message)
      | _, .finished .completed => some (.direct number)
      | _, _ => none

inductive Reception
  | relay
  | drop
  | outOfSequence
  | refuse (fault : DispatchError)
  | accept (application : Nat) (resolution : Resolution)

def notDeployed (identity : RouteIdentity) (request : Request) : DispatchError :=
  .applicationNotFound ("no application " ++ identity.applicationName ++ " deployed to handle " ++
    request.render ++ RouteDecision.routeClause request)

def askedEffects (application : Nat) (identity : RouteIdentity) (asked : List Correlation) :
    List Effect :=
  let key : ApplicationKey :=
    { callId := identity.applicationId, applicationName := identity.applicationName }
  asked.map (Effect.asked application key)

/-- A request is in sequence, or belongs to a proxied session, where that is left to the ends. -/
def admitsSequence (session : DialogSession) (request : Request) : Bool :=
  session.proxy.isSome || Dialog.inSequence session.dialog.sequence request

def receiveFor (container : Container) (identity : RouteIdentity) (request : Request) :
    Reception × List Effect :=
  match container.registry.find? identity.applicationName with
  | none => (.refuse (notDeployed identity request), [])
  | some number =>
    match container.registry.get? number with
    | none => (.refuse (notDeployed identity request), [])
    | some application =>
      let search := container.store.resolve application identity request
      let reception := match search.answer with
        | .error fault => .refuse fault
        | .ok resolution =>
          match container.store.dialogs.get? resolution.dialogSession with
          | none => .outOfSequence
          | some session =>
            if admitsSequence session request then .accept number resolution else .outOfSequence
      (reception, askedEffects number identity search.asked)

def receive (container : Container) (request : Request) : Reception × List Effect :=
  match RouteDecision.decide container.registry.names container.settings.listeners request with
  | .error fault => (.refuse fault, [])
  | .ok .relay => (.relay, [])
  | .ok .drop => (.drop, [])
  | .ok (.resolved identity) => container.receiveFor identity request

def makeTask (container : Container) (request : Request) (application : Nat)
    (resolution : Resolution) : Task :=
  let mode := ((container.registry.get? application).map Application.mode).getD .session
  { request
    application
    applicationSession := resolution.applicationSession
    dialogSession := resolution.dialogSession
    key := resolution.key
    gate := mode.gate? resolution.applicationSession resolution.dialogSession
    timeout := container.settings.gateTimeout
    course := .dispatched (Execution.choose container.settings.bypassPools mode) }

/-- The sequence number of an accepted request is taken down, unless the session is proxied. -/
def noteSequence (container : Container) (session : Nat) (request : Request) : Container :=
  match container.store.dialogs.get? session with
  | some { proxy := none, .. } => container.modifyDialog session (·.noteSequence request)
  | _ => container

end Container

end SipContainer

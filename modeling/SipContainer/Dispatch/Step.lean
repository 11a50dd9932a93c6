import SipContainer.Dispatch.Container
/-!
The steps of the container. Each is one stretch of work without a pause: a call up to the point
where it waits for a gate, a task's coming in, the moment it sets out, and what follows when the
application, a branch or the answer to a fault is done. Steps of different tasks may come in any
order; what is not possible at a moment is not a step then.

A step of a task comes down to an outcome. Beyond the task itself an outcome can touch only the
task's place in the line of its gate, the dialog of its session, the pool of its application and
the proxies.
-/

namespace SipContainer

inductive SendConduct
  | success
  | failure (cause : TransportError)
  | panic (message : Option String)
deriving DecidableEq, Repr

inductive Step
  | call (request : Request)
  | relay (call : Nat) (conduct : SendConduct)
  | lineUp (task : Nat)
  | enter (task : Nat)
  | giveUp (task : Nat)
  | run (task : Nat) (answers : Bool)
  | start (task : Nat)
  | serve (task : Nat) (conduct : Conduct)
  | forward (task : Nat) (conduct : Conduct)
  | respond (task : Nat) (conduct : Conduct)
  | cancel (task : Nat)
  | hold (outsider : Nat) (gate : GateId)
  | release (outsider : Nat) (gate : GateId)

def Step.task? : Step → Option Nat
  | .lineUp number | .enter number | .giveUp number | .run number _ | .start number
  | .serve number _ | .forward number _ | .respond number _ | .cancel number => some number
  | .call _ | .relay _ _ | .hold _ _ | .release _ _ => none

structure Outcome where
  course : Course
  stage : Stage
  line : LineMove := .stay
  /-- What becomes of the dialog of the task's session, of the pool of its application, and of the
  proxies. -/
  dialog : Dialog → Dialog := id
  pool : Pool → Pool := id
  proxies : List Proxy → List Proxy := id
  effects : List Effect := []

def bookIn (request : Request) (dialog : Dialog) : Dialog :=
  (dialog.addTransaction request.transaction).advance request

def beginSubscription (request : Request) (dialog : Dialog) : Dialog :=
  let begins := request.isNotify &&
    (request.subscription.map SubscriptionState.isActiveOrPending).getD false
  if begins then dialog.subscribe request else dialog

def endSubscription (request : Request) (dialog : Dialog) : Dialog :=
  if request.isNotify && request.subscription = some .terminated then dialog.unsubscribe request
  else dialog

namespace Task

def after (task : Task) (outcome : Outcome) : Task :=
  { task with course := outcome.course, stage := outcome.stage }

def reach (task : Task) (stage : Stage) : Outcome :=
  { course := task.course, stage }

def lineUp (task : Task) : Outcome :=
  { task.reach .waiting with line := .join }

/-- A task comes in: its request is booked, and unless it is looked after here it goes to the
pool. -/
def enter (task : Task) : Outcome :=
  { task.reach (if task.isPooled then .submitted else .entered) with
    dialog := bookIn task.request
    pool := if task.isPooled then Pool.submit else id }

def conclude (number : Nat) (task : Task) (ending : Ending) : Outcome :=
  { task.reach (.finished ending) with
    pool := if task.isPooled then (·.finish number) else id }

def fail (number : Nat) (task : Task) (fault : DispatchError) : Outcome :=
  if task.course.answers then
    { task.reach (.responding fault) with effects := [.responded number fault] }
  else task.conclude number (.failed fault)

/-- A task stops waiting. A dispatching call passes the fault on, and one who takes a task by hand
may try again. -/
def giveUp (number : Nat) (task : Task) (fault : DispatchError) : Outcome :=
  let given : Outcome := match task.course with
    | .dispatched _ => task.reach (.finished (.timedOut fault))
    | .byHand => task.reach .created
    | .running _ => task.fail number fault
  { given with line := .quit }

def exit (number : Nat) (task : Task) (fault : Option DispatchError) : Outcome :=
  let left : Outcome := match fault with
    | none => task.conclude number .completed
    | some fault => task.fail number fault
  { left with line := .quit, dialog := endSubscription task.request }

def serve (number : Nat) (task : Task) (plan : Plan) : Outcome :=
  { task.reach (.serving plan) with
    dialog := beginSubscription task.request
    effects := [.served number] }

def forward (number : Nat) (task : Task) (leg : Leg) : Outcome :=
  { task.reach (.forwarding leg) with effects := [.forwarded number leg] }

def fanOut (number : Nat) (task : Task) (proxies : List Proxy) (proxyNumber : Nat)
    (branches : List Nat) : Outcome :=
  match (proxies[proxyNumber]?).bind (·.nextAwaiting? branches) with
  | none => task.exit number none
  | some (branch, others) => task.forward number (.fanOut proxyNumber branch others)

def cancel (number : Nat) (task : Task) : Outcome :=
  let given : Outcome :=
    if task.stage = .created ∨ task.stage = .waiting then task.reach (.finished .withdrawn)
    else task.conclude number .cancelled
  { given with line := .quit }

end Task

def relayResult (request : Request) : SendConduct → CallResult
  | .success => .relayed
  | .failure cause =>
    .refused (.transport ("cannot relay " ++ request.render ++ " statelessly") cause)
  | .panic message => .panicked message

/-- How a task ends whose fault has been answered. An answer that fails is let go, one that breaks
down takes the task with it. -/
def endingOf : Conduct → Ending
  | .panic message => .panicked message
  | .success | .failure _ => .completed

namespace Container

def addCall (container : Container) (request : Request) (progress : CallProgress) : Container :=
  { container with calls := container.calls ++ [{ request, progress }] }

def setProgress (container : Container) (call : Nat) (progress : CallProgress) : Container :=
  let set (call : Call) : Call := { call with progress }
  { container with calls := container.calls.modify call set }

def accept (container : Container) (request : Request) (application : Nat)
    (resolution : Resolution) : Container :=
  let number := container.tasks.length
  let task := container.makeTask request application resolution
  let noted := container.noteSequence resolution.dialogSession request
  { noted with
    gates := noted.gates.move task.gate (.task number) .join
    calls := noted.calls ++ [{ request, progress := .underway number }]
    tasks := noted.tasks ++ [task] }

def call (container : Container) (request : Request) : Container × List Effect :=
  match container.receive request with
  | (.relay, asked) => (container.addCall request .relaying, asked ++ [.relayed request])
  | (.drop, asked) => (container.addCall request (.answered .dropped), asked)
  | (.outOfSequence, asked) => (container.addCall request (.answered .outOfSequence), asked)
  | (.refuse fault, asked) => (container.addCall request (.answered (.refused fault)), asked)
  | (.accept application resolution, asked) =>
    (container.accept request application resolution, asked)

def gateTimeout (container : Container) (task : Task) : DispatchError :=
  .gateTimeout ((task.gate.map container.gateLabel).getD "") (task.timeout.getD ⟨0⟩)

def proxyOf? (container : Container) (session : Nat) : Option (Nat × Proxy) := do
  let number ← (← container.store.dialogs.get? session).proxy
  return (number, ← container.proxies[number]?)

/-- A task sets out. A proxied session without a final branch takes a PRACK only; any other request
is lost there. -/
def setOut (container : Container) (number : Nat) (task : Task) : Outcome :=
  match container.proxyOf? task.dialogSession with
  | none => task.serve number .application
  | some (proxyNumber, proxy) =>
    match proxy.final with
    | some branch =>
      { task.serve number (.final proxyNumber branch) with
        proxies := (·.modify proxyNumber (·.noteFinal task.request)) }
    | none =>
      if task.request.method = .prack then task.serve number (.fanOut proxyNumber)
      else
        { task.exit number none with
          dialog := endSubscription task.request ∘ beginSubscription task.request }

def permitted (container : Container) (number : Nat) (task : Task) (change : Pool → Pool) : Bool :=
  ((container.pool? task.application).map (fun pool => (change pool).holds number)).getD false

def start (container : Container) (number : Nat) (task : Task) : Outcome :=
  if task.isPooled then
    let ask : Pool → Pool := if task.stage = .submitted then (·.request number) else id
    if container.permitted number task ask then
      let begun := container.setOut number task
      { begun with pool := begun.pool ∘ ask }
    else { task.reach .queued with pool := ask }
  else container.setOut number task

def serviceFault (container : Container) (task : Task) (cause : Failure) : DispatchError :=
  .applicationFailure ("unexpected failure in application " ++
    container.applicationName task.application ++ " while routing " ++ task.request.render) cause

def served (container : Container) (number : Nat) (task : Task) (plan : Plan)
    (conduct : Conduct) : Outcome :=
  match conduct.failure? ("application " ++ container.applicationName task.application) with
  | some cause => task.exit number (some (container.serviceFault task cause))
  | none =>
    match plan with
    | .application => task.exit number none
    | .final proxyNumber branch => task.forward number (.final proxyNumber branch)
    | .fanOut proxyNumber =>
      task.fanOut number container.proxies proxyNumber
        (((container.proxies[proxyNumber]?).map Proxy.order).getD [])

def legTarget (container : Container) (leg : Leg) : String :=
  ((container.proxies[leg.proxy]?).map (·.targetText leg.branch)).getD ""

def forwardFault (container : Container) (task : Task) (leg : Leg) (cause : Failure) :
    DispatchError :=
  let target := container.legTarget leg
  match leg with
  | .final _ _ => .applicationFailure ("branch " ++ target ++
      " failed to proxy the subsequent request " ++ task.request.render) cause
  | .fanOut _ _ _ => .applicationFailure ("branch " ++ target ++ " failed to proxy " ++
      task.request.render ++ " statelessly") cause

def forwarded (container : Container) (number : Nat) (task : Task) (leg : Leg)
    (conduct : Conduct) : Outcome :=
  match conduct.failure? ("forwarder of branch " ++ container.legTarget leg) with
  | some cause => task.exit number (some (container.forwardFault task leg cause))
  | none =>
    match leg with
    | .final _ _ => task.exit number none
    | .fanOut proxyNumber branch others =>
      let proxies := (·.modify proxyNumber (·.setAwaits branch false))
      { task.fanOut number (proxies container.proxies) proxyNumber others with proxies }

def outcome? (container : Container) (number : Nat) (task : Task) : Step → Option Outcome
  | .lineUp _ => if task.stage = .created then some task.lineUp else none
  | .enter _ =>
    if task.stage = .waiting ∧ container.admits number task then some task.enter else none
  | .giveUp _ =>
    if task.stage = .waiting ∧ ¬ container.admits number task ∧
        (task.course = .byHand ∨ task.timeout.isSome) then
      some (task.giveUp number (container.gateTimeout task))
    else none
  | .run _ answers =>
    if task.course = .byHand ∧ (task.stage = .created ∨ task.stage = .entered) then
      some { course := .running answers, stage := task.stage }
    else none
  | .start _ =>
    match task.course, task.stage with
    | .byHand, _ => none
    | _, .entered | _, .submitted => some (container.start number task)
    | _, .queued =>
      if container.permitted number task id then some (container.start number task) else none
    | _, _ => none
  | .serve _ conduct =>
    match task.stage with
    | .serving plan => some (container.served number task plan conduct)
    | _ => none
  | .forward _ conduct =>
    match task.stage with
    | .forwarding leg => some (container.forwarded number task leg conduct)
    | _ => none
  | .respond _ conduct =>
    match task.stage with
    | .responding _ => some (task.conclude number (endingOf conduct))
    | _ => none
  | .cancel _ => if task.stage.isFinished then none else some (task.cancel number)
  | _ => none

def settle (container : Container) (number : Nat) (task : Task) (outcome : Outcome) :
    Container :=
  { container with
    tasks := container.tasks.modify number (·.after outcome)
    gates := container.gates.move task.gate (.task number) outcome.line
    store := container.store.modifyDialog task.dialogSession outcome.dialog
    registry := container.registry.modifyPool task.application outcome.pool
    proxies := outcome.proxies container.proxies }

def taskStep? (container : Container) (number : Nat) (step : Step) :
    Option (Container × List Effect) := do
  let task ← container.tasks[number]?
  let outcome ← container.outcome? number task step
  return (container.settle number task outcome, outcome.effects)

def step? (container : Container) (step : Step) : Option (Container × List Effect) :=
  match step with
  | .call request => some (container.call request)
  | .relay number conduct =>
    match container.calls[number]? with
    | some { request, progress := .relaying } =>
      some (container.setProgress number (.answered (relayResult request conduct)), [])
    | _ => none
  | .hold outsider gate => some (container.modifyGate gate (·.enter (.outsider outsider)), [])
  | .release outsider gate => some (container.modifyGate gate (·.leave (.outsider outsider)), [])
  | .lineUp number | .enter number | .giveUp number | .run number _ | .start number
  | .serve number _ | .forward number _ | .respond number _ | .cancel number =>
    container.taskStep? number step

end Container

end SipContainer

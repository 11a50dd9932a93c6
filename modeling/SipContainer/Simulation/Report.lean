import SipContainer.Simulation.Command
/-!
Commands are carried out one after the other. After each of them everyone goes on as far as they
can, and a report is made of what came of it.
-/

namespace SipContainer.Simulation

namespace ContainerTrial

def labelled? (trial : ContainerTrial) (label : String) : Option Labelled :=
  trial.labels.lookup label

def deployed? (trial : ContainerTrial) (name : String) : Option (Nat × Application) := do
  let number ← trial.container.registry.find? name
  return (number, ← trial.container.registry.get? number)

def changeRegistry (trial : ContainerTrial) (change : Registry → Registry) : ContainerTrial :=
  { trial with container :=
      { trial.container with registry := change trial.container.registry } }

def changeStore (trial : ContainerTrial) (change : SessionStore → SessionStore) : ContainerTrial :=
  { trial with container := { trial.container with store := change trial.container.store } }

def changeProxy (trial : ContainerTrial) (number : Nat) (change : Proxy → Proxy) : ContainerTrial :=
  { trial with container := trial.container.modifyProxy number change }

def attach (trial : ContainerTrial) (dialog : Nat) (proxy : Option Nat) : ContainerTrial :=
  let set (session : DialogSession) : DialogSession := { session with proxy }
  trial.changeStore (fun store => { store with dialogs := store.dialogs.modify dialog set })

def proxyOf? (trial : ContainerTrial) (label : String) : Option Nat := do
  let labelled ← trial.labelled? label
  (← trial.container.store.dialogs.get? labelled.dialog).proxy

def reference (wish : Option (String × String)) : Except KeyError (Option ApplicationKey) :=
  wish.mapM (fun parts => ApplicationKey.create parts.1 parts.2)

def deploy (trial : ContainerTrial) (wish : Deployment) : ContainerTrial × Answer :=
  match reference wish.join, reference wish.replaces with
  | .error fault, _ | _, .error fault => (trial, .keyRefused fault)
  | .ok join, .ok replaces =>
    let correlate (_ : ApplicationKey) : Correlation → Option ApplicationKey
      | .join => if wish.handler.asked then join else none
      | .replaces => if wish.handler.asked then replaces else none
    let size := wish.poolSize.getD trial.container.settings.poolSize
    match Application.create wish.name wish.mode size correlate with
    | .error fault => (trial, .poolRefused fault)
    | .ok application =>
      let next := trial.changeRegistry (·.deploy application)
      ({ next with handlers := next.handlers ++ [wish.handler] }, .deployed application)

def viewApplication (trial : ContainerTrial) (name : String) : Option ApplicationView :=
  (trial.deployed? name).map (fun found =>
    { application := found.2
      execution := Execution.choose trial.container.settings.bypassPools found.2.mode })

def label (trial : ContainerTrial) (wanted : String) (labelled : Labelled) :
    ContainerTrial × String :=
  match trial.label? labelled.dialog with
  | some label => (trial, label)
  | none => ({ trial with labels := put trial.labels wanted labelled }, wanted)

def establish (trial : ContainerTrial) (wish : Establishment) : ContainerTrial × Answer :=
  match ApplicationKey.create wish.name wish.id with
  | .error fault => (trial, .keyRefused fault)
  | .ok applicationKey =>
    match DialogKey.ofRequest wish.id wish.name wish.request wish.polarity with
    | .error fault => (trial, .keyRefused fault)
    | .ok key =>
      let (store, application) := trial.container.store.obtainApplication applicationKey
      match store.obtainDialog application key with
      | (_, none) => (trial, .done)
      | (store, some dialog) =>
        let set (before : Dialog) : Dialog :=
          { before with
            state := wish.state.getD before.state
            sequence := wish.sequence.or before.sequence }
        let next := trial.changeStore (fun _ => store.modifyDialog dialog set)
        let (next, label) := next.label wish.label { dialog, application }
        (next, .established label key applicationKey)

def operate (trial : ContainerTrial) (label : String) (operation : DialogOperation) :
    ContainerTrial × Answer :=
  match trial.labelled? label with
  | none => (trial, .done)
  | some labelled =>
    let (after, answer) := operation.apply (trial.dialog labelled.dialog)
    (trial.changeStore (·.modifyDialog labelled.dialog (fun _ => after)), .dialog answer)

def setProxy (trial : ContainerTrial) (label : String) (setups : List BranchSetup)
    (final : Option Nat) : ContainerTrial :=
  match trial.labelled? label with
  | none => trial
  | some labelled =>
    let branch (setup : BranchSetup) : Branch :=
      { target := setup.target, awaitsPrack := setup.waiting }
    let proxy : Proxy := { branches := setups.map branch, order := List.range setups.length, final }
    let container := { trial.container with proxies := trial.container.proxies ++ [proxy] }
    let forwarders := trial.forwarders ++ [setups.map BranchSetup.conduct]
    let number := trial.container.proxies.length
    { trial with container, forwarders }.attach labelled.dialog (some number)

def tryHold (outsider : Nat) (gate : GateId) (trial : ContainerTrial) :
    ContainerTrial × Option Unit :=
  (trial, if (trial.container.gates.gate gate).admits (.outsider outsider) then some () else none)

def release (trial : ContainerTrial) (name : String) : ContainerTrial :=
  match trial.guards.lookup name with
  | none => trial
  | some (outsider, gate) =>
    { trial with guards := drop trial.guards name }.perform (.release outsider gate)

def hold (trial : ContainerTrial) (name : String) (gate : GateId) : ContainerTrial × Answer :=
  let outsider := trial.outsiders
  let queued := { trial with outsiders := outsider + 1 }.perform (.hold outsider gate)
  match await (tryHold outsider gate) patience queued with
  | (trial, none) => (trial.perform (.release outsider gate), .blocked)
  | (trial, some _) =>
    let before := trial.guards.lookup name
    let kept := { trial with guards := put trial.guards name (outsider, gate) }
    let alone := match before with
      | some (other, otherGate) => kept.perform (.release other otherGate)
      | none => kept
    (alone, .entered (alone.container.gateLabel gate))

/-! ## Calls -/

def tryCall (call : Nat) (trial : ContainerTrial) : ContainerTrial × Option CallResult :=
  let next := match trial.mainTask with
    | some number => goOn number trial
    | none => trial
  (next, (next.container.calls[call]?).bind next.container.result?)

def tryTask (number : Nat) (trial : ContainerTrial) : ContainerTrial × Option Ending :=
  let next := if trial.mainTask = some number then goOn number trial else trial
  match (next.task? number).map Task.stage with
  | some (.finished ending) => (next, some ending)
  | _ => (next, none)

def taskOf? (trial : ContainerTrial) (call : Nat) : Option Nat :=
  match (trial.container.calls[call]?).map Call.progress with
  | some (.underway number) => some number
  | _ => none

def place (trial : ContainerTrial) (request : Request) : ContainerTrial :=
  let call := trial.container.calls.length
  let called := (trial.perform (.call request)).perform (.relay call trial.sender)
  match called.taskOf? call with
  | none => called
  | some number =>
    match (called.task? number).bind Task.timeout with
    | none => called
    | some timeout => called.setDue number timeout.milliseconds

def complete (trial : ContainerTrial) (result : CallResult) : ContainerTrial × Answer :=
  match result with
  | .refused fault => (trial, .refused fault)
  | .panicked message => (trial, .panicked message)
  | .pooled number =>
    match await (tryTask number) patience trial with
    | (trial, some .completed) => (trial, .called result .completed)
    | (trial, some _) => (trial, .called result .broken)
    | (trial, none) => (trial, .called result .blocked)
  | _ => (trial, .called result .completed)

def awaitCall (trial : ContainerTrial) (call : Nat) : ContainerTrial × Option CallResult :=
  let task := trial.taskOf? call
  match await (tryCall call) patience { trial with mainTask := task } with
  | (trial, some result) => ({ trial with mainTask := none }, some result)
  | (trial, none) =>
    let given := { trial with mainTask := none }
    match task with
    | some number => (given.perform (.cancel number), none)
    | none => (given, none)

def keepCall (trial : ContainerTrial) (name : Option String) (call : Nat) : ContainerTrial :=
  match name with
  | some name => { trial with calls := put trial.calls name call }
  | none => trial

def dispatch (trial : ContainerTrial) (request : Request) (mode : DispatchMode)
    (name : Option String) : ContainerTrial × Answer :=
  let call := trial.container.calls.length
  let placed := trial.place request
  match mode with
  | .spawn =>
    let begun := match placed.taskOf? call with
      | some number => goOn number placed
      | none => placed
    (begun.keepCall name call, .done)
  | .await =>
    match placed.awaitCall call with
    | (trial, some result) => trial.complete result
    | (trial, none) => (trial, .blocked)
  | .detach =>
    match placed.awaitCall call with
    | (trial, none) => (trial, .blocked)
    | (trial, some (.refused fault)) => (trial, .refused fault)
    | (trial, some (.panicked message)) => (trial, .panicked message)
    | (trial, some result) => (trial.keepCall name call, .called result .unasked)

def join (trial : ContainerTrial) (name : String) : ContainerTrial × Answer :=
  match trial.calls.lookup name with
  | none => (trial, .nothingToJoin)
  | some call =>
    match await (tryCall call) patience { trial with calls := drop trial.calls name } with
    | (trial, some result) => trial.complete result
    | (trial, none) => (trial, .blocked)

def mainWatcher : Nat := 0

def tryIdle (application : Nat) (trial : ContainerTrial) : ContainerTrial × Option Unit :=
  match trial.container.pool? application with
  | none => (trial, some ())
  | some pool =>
    if pool.isIdle then (trial, some ())
    else if pool.watchers.contains mainWatcher then (trial, none)
    else (trial.changeRegistry (·.modifyPool application (·.watch mainWatcher)), none)

def waitIdle (trial : ContainerTrial) (name : String) : ContainerTrial × Answer :=
  match trial.deployed? name with
  | none => (trial, .noSuchApplication)
  | some (number, _) =>
    match await (tryIdle number) patience trial with
    | (trial, some _) => (trial, .idle)
    | (trial, none) =>
      (trial.changeRegistry (·.modifyPool number (·.unwatch mainWatcher)), .blocked)

/-! ## Tasks made by hand -/

def dropTask (trial : ContainerTrial) (name : String) : ContainerTrial :=
  match trial.handmade.lookup name with
  | none => trial
  | some number => { trial with handmade := drop trial.handmade name }.perform (.cancel number)

def makeTask (trial : ContainerTrial) (wish : Handmade) : ContainerTrial × Answer :=
  match trial.labelled? wish.session, trial.deployed? wish.application with
  | some labelled, some (number, application) =>
    match trial.container.store.dialogs.get? labelled.dialog with
    | none => (trial, .done)
    | some session =>
      let task : Task := {
        request := wish.request
        application := number
        applicationSession := labelled.application
        dialogSession := labelled.dialog
        key := session.key
        gate := application.mode.gate? labelled.application labelled.dialog
        timeout := wish.timeout.map Duration.ofMilliseconds
        course := .byHand
        stage := .created }
      let before := trial.handmade.lookup wish.label
      let kept := { trial with
        container := { trial.container with tasks := trial.container.tasks ++ [task] }
        handmade := put trial.handmade wish.label trial.container.tasks.length }
      let alone := match before with
        | some other => kept.perform (.cancel other)
        | none => kept
      (alone, .created task)
  | none, _ => (trial, .done)
  | _, none => (trial, .noSuchApplication)

def lineUp (trial : ContainerTrial) (number : Nat) (task : Task) : ContainerTrial :=
  let queued := { trial with mainTask := some number }.perform (.lineUp number)
  match task.timeout with
  | some timeout => queued.setDue number timeout.milliseconds
  | none => { queued with dues := drop queued.dues number }

def tryEntrance (number : Nat) (trial : ContainerTrial) : ContainerTrial × Option Bool :=
  let next := goOn number trial
  match (next.task? number).map Task.stage with
  | some .entered => (next, some true)
  | some .waiting => (next, none)
  | _ => (next, some false)

def enterTask (trial : ContainerTrial) (name : String) : ContainerTrial × Answer :=
  match (trial.handmade.lookup name).bind
      (fun number => (trial.task? number).map (fun task => (number, task))) with
  | none => (trial, .done)
  | some (number, task) =>
    let (trial, how) : ContainerTrial × Entrance :=
      if task.stage ≠ .created then (trial, .entered)
      else
        match await (tryEntrance number) patience (trial.lineUp number task) with
        | (trial, some true) => (trial, .entered)
        | (trial, some false) => (trial, .refused (trial.container.gateTimeout task))
        | (trial, none) => (trial.perform (.giveUp number), .blocked)
    let freed := { trial with mainTask := none }
    (freed, .entrance how ((freed.task? number).getD task))

def runTask (trial : ContainerTrial) (name : String) (answers : Bool) : ContainerTrial × Answer :=
  match (trial.handmade.lookup name).bind
      (fun number => (trial.task? number).map (fun task => (number, task))) with
  | none => (trial, .done)
  | some (number, task) =>
    let left := { trial with handmade := drop trial.handmade name, mainTask := some number }
    let running := left.perform (.run number answers)
    let queued := if task.stage = .created then running.lineUp number task else running
    match await (tryTask number) patience queued with
    | (trial, some (.failed fault)) => ({ trial with mainTask := none }, .refused fault)
    | (trial, some (.panicked message)) => ({ trial with mainTask := none }, .panicked message)
    | (trial, some _) => ({ trial with mainTask := none }, .finished)
    | (trial, none) => ({ trial with mainTask := none }.perform (.cancel number), .blocked)

/-! ## All commands -/

def resolve (trial : ContainerTrial) (name : String) (identity : RouteIdentity)
    (request : Request) : ContainerTrial × Answer :=
  match trial.deployed? name with
  | none => (trial, .noSuchApplication)
  | some (number, application) =>
    let store := trial.container.store
    let search := store.resolve application identity request
    let next := (Container.askedEffects number identity search.asked).foldl observe trial
    match search.answer with
    | .error fault => (next, .refused fault)
    | .ok found =>
      match store.applications.get? found.applicationSession with
      | none => (next, .done)
      | some session =>
        (next, .resolved session.key (trial.label? found.dialogSession) found.key found.polarity)

def execute (trial : ContainerTrial) : Command → ContainerTrial × Answer
  | .pause => (trial, .done)
  | .deploy wish => trial.deploy wish
  | .undeploy name =>
    (trial.changeRegistry (·.undeploy name),
      .word ((trial.deployed? name).map (fun found => found.2.name)))
  | .askApplication name => (trial, .application (trial.viewApplication name))
  | .listApplications => (trial, .words trial.container.registry.listed)
  | .registerName name =>
    (trial.changeRegistry (fun registry => { registry with names := registry.names.register name }),
      .word (some (NameTable.hash name)))
  | .unregisterName name =>
    (trial.changeRegistry (fun registry =>
      { registry with names := registry.names.unregister name }), .done)
  | .lookUp hash => (trial, .word (trial.container.registry.names.name? hash))
  | .setSender conduct => ({ trial with sender := conduct }, .done)
  | .setResponder conduct => ({ trial with responder := conduct }, .done)
  | .establish wish => trial.establish wish
  | .obtainSession name id =>
    match ApplicationKey.create name id with
    | .error fault => (trial, .keyRefused fault)
    | .ok key => (trial.changeStore (fun store => (store.obtainApplication key).1), .session key)
  | .removeSession name id =>
    match ApplicationKey.create name id with
    | .error fault => (trial, .keyRefused fault)
    | .ok key => (trial.changeStore (·.removeApplication key),
        .flag (trial.container.store.applications.find? key).isSome)
  | .removeDialog label =>
    match (trial.labelled? label).bind
        (fun labelled => trial.container.store.dialogs.get? labelled.dialog) with
    | none => (trial, .done)
    | some session => (trial.changeStore (·.removeDialog session.key),
        .flag (trial.container.store.dialogs.find? session.key).isSome)
  | .setValidity label validity =>
    match trial.labelled? label with
    | none => (trial, .done)
    | some labelled => (trial.changeStore (fun store =>
        { store with applications :=
            store.applications.modify labelled.application ({ · with validity }) }), .done)
  | .operate label operation => trial.operate label operation
  | .setProxy label branches final => (trial.setProxy label branches final, .done)
  | .clearProxy label =>
    match trial.labelled? label with
    | none => (trial, .done)
    | some labelled => (trial.attach labelled.dialog none, .done)
  | .setFinal label final =>
    match trial.proxyOf? label with
    | none => (trial, .done)
    | some number => (trial.changeProxy number ({ · with final }), .done)
  | .setWaiting label branch waiting =>
    match trial.proxyOf? label with
    | none => (trial, .done)
    | some number => (trial.changeProxy number (·.setAwaits branch waiting), .done)
  | .hold guard label application =>
    match trial.labelled? label with
    | none => (trial, .done)
    | some labelled => trial.hold guard
        (if application then .application labelled.application else .dialog labelled.dialog)
  | .release guard => (trial.release guard, .done)
  | .settle time => (sleep time trial, .done)
  | .decide request => (trial, .decided (RouteDecision.decide trial.container.registry.names
      trial.container.settings.listeners request))
  | .resolve name identity request => trial.resolve name identity request
  | .dispatch request mode name => trial.dispatch request mode name
  | .join name => trial.join name
  | .waitIdle name => trial.waitIdle name
  | .makeTask wish => trial.makeTask wish
  | .enterTask name => trial.enterTask name
  | .runTask name answers => trial.runTask name answers
  | .dropTask name => (trial.dropTask name, .done)

/-- What is reported of a command: its answer, the time, what was written down, and the labelled
sessions that look different from before. -/
structure Report where
  answer : Answer
  time : Nat
  notes : List (Nat × Note)
  sessions : List (String × Snapshot)

def report (trial : ContainerTrial) (command : Command) : ContainerTrial × Report :=
  let (executed, answer) := trial.execute command
  let settled := drain executed
  let now := settled.snapshots
  let changed := now.filter (fun entry => trial.shown.lookup entry.1 ≠ some entry.2)
  ({ settled with notes := [], shown := now },
    { answer, time := settled.agenda.clock, notes := settled.notes, sessions := changed })

def run (trial : ContainerTrial) : List Command → Except PoolError (List Report × ContainerTrial)
  | [] => .ok ([], trial)
  | command :: rest =>
    let (next, report) := trial.report command
    match report.answer with
    | .poolRefused fault => .error fault
    | _ => (run next rest).map (fun later => (report :: later.1, later.2))

def poolCounts (trial : ContainerTrial) : List (String × Nat) :=
  trial.container.registry.listed.map (fun name =>
    (name, ((trial.deployed? name).map (fun found => found.2.pool.active)).getD 0))

end ContainerTrial

end SipContainer.Simulation

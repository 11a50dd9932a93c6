import SipContainer.Proofs.Dispatch.Absence
import SipContainer.Proofs.Dispatch.DeliveryOrder
/-!
Calls that end because their gate did not open in time. Nothing is seen of such a request, and what
comes of everything else is what would have come of it had the request stepped back before it got
into the line. Its number alone is taken down before the wait, and stays so: a request that has a
number to itself is out of sequence when it is dispatched once more.
-/

namespace SipContainer

def DispatchError.isEarly : DispatchError → Bool
  | applicationNotFound _ | sessionNotFound _ | malformedIdentity _ | key _ => true
  | applicationFailure _ _ | gateTimeout _ _ | transport _ _ | configuration _ => false

theorem RouteIdentity.isEarly_of_decodeTag {table : NameTable} {tag : Option String}
    {fault : DispatchError} (failed : decodeTag table tag = .error fault) :
    fault.isEarly = true := by
  unfold decodeTag at failed
  split at failed
  · cases failed
  · split at failed
    · cases failed
    · split at failed
      · cases failed
        rfl
      · split at failed
        · cases failed
          rfl
        · cases failed

theorem RouteDecision.isEarly_of_decide {table : NameTable} {listeners : List Listener}
    {request : Request} {fault : DispatchError}
    (failed : decide table listeners request = .error fault) : fault.isEarly = true := by
  unfold decide at failed
  cases recovered : recover table request with
  | error cause =>
      rw [recovered] at failed
      cases failed
      unfold recover at recovered
      cases carried : (ofRoute table request.route).2 with
      | some _ =>
          simp only [carried] at recovered
          cases recovered
      | none =>
          simp only [carried] at recovered
          cases decoded : RouteIdentity.decodeTag table request.recipient.tag with
          | error cause =>
              rw [decoded] at recovered
              cases recovered
              exact RouteIdentity.isEarly_of_decodeTag decoded
          | ok _ =>
              rw [decoded] at recovered
              cases recovered
  | ok parts =>
      rw [recovered] at failed
      obtain ⟨name, id⟩ := parts
      cases id with
      | some _ =>
          cases name with
          | some _ => cases failed
          | none =>
              cases failed
              rfl
      | none =>
          have ended : (if isExternal listeners request then Except.ok RouteDecision.relay
              else if request.isAck then .ok .drop else .error (notFound request)) =
                .error fault := by
            cases name <;> exact failed
          split at ended
          · cases ended
          · split at ended
            · cases ended
            · cases ended
              rfl

namespace SessionStore

variable {store : SessionStore} {application : Application} {request : Request}
  {fault : DispatchError}

theorem isEarly_of_correlated {key : ApplicationKey} {kinds : List Correlation}
    (failed : (store.correlated application key kinds).answer = .error fault) :
    fault.isEarly = true := by
  induction kinds with
  | nil =>
      cases failed
      rfl
  | cons kind rest ih =>
      unfold correlated at failed
      split at failed
      · cases failed
      · exact ih failed

theorem isEarly_of_resolveApplication {identity : RouteIdentity}
    (failed : (store.resolveApplication application identity).answer = .error fault) :
    fault.isEarly = true := by
  unfold resolveApplication at failed
  split at failed
  · cases failed
    rfl
  · split at failed
    · cases failed
    · exact isEarly_of_correlated failed

theorem isEarly_of_resolveDialogFrom {sessionId applicationName last : String}
    {polarities : List Polarity}
    (failed : store.resolveDialogFrom sessionId applicationName request last polarities =
      .error fault) : fault.isEarly = true := by
  induction polarities generalizing last with
  | nil =>
      cases failed
      rfl
  | cons polarity rest ih =>
      unfold resolveDialogFrom at failed
      split at failed
      · cases failed
        rfl
      · split at failed
        · cases failed
        · exact ih failed

theorem isEarly_of_resolve {identity : RouteIdentity}
    (failed : (store.resolve application identity request).answer = .error fault) :
    fault.isEarly = true := by
  unfold resolve at failed
  simp only at failed
  cases first : (store.resolveApplication application identity).answer with
  | error cause =>
      rw [first] at failed
      cases failed
      exact isEarly_of_resolveApplication first
  | ok serial =>
      rw [first] at failed
      cases second : store.resolveDialog (store.applicationId serial) identity.applicationName
          request with
      | error cause =>
          simp only [Bind.bind, Except.bind, second] at failed
          cases failed
          exact isEarly_of_resolveDialogFrom second
      | ok found =>
          simp only [Bind.bind, Except.bind, second] at failed
          cases failed

/-! ### Whatever happens to a dialog, its session is found as before -/

theorem correlated_modifyDialog (serial : Nat) (change : Dialog → Dialog) (key : ApplicationKey)
    (kinds : List Correlation) :
    (store.modifyDialog serial change).correlated application key kinds =
      store.correlated application key kinds := by
  induction kinds with
  | nil => rfl
  | cons kind rest ih =>
      simp only [correlated, ih]
      rfl

theorem resolveApplication_modifyDialog (serial : Nat) (change : Dialog → Dialog)
    (identity : RouteIdentity) :
    (store.modifyDialog serial change).resolveApplication application identity =
      store.resolveApplication application identity := by
  simp only [resolveApplication, correlated_modifyDialog]
  rfl

theorem resolveDialogFrom_modifyDialog (serial : Nat) (change : Dialog → Dialog)
    (sessionId applicationName last : String) (polarities : List Polarity) :
    (store.modifyDialog serial change).resolveDialogFrom sessionId applicationName request last
        polarities =
      store.resolveDialogFrom sessionId applicationName request last polarities := by
  induction polarities generalizing last with
  | nil => rfl
  | cons polarity rest ih =>
      simp only [resolveDialogFrom, ih]
      rfl

theorem resolve_modifyDialog (serial : Nat) (change : Dialog → Dialog) (identity : RouteIdentity) :
    (store.modifyDialog serial change).resolve application identity request =
      store.resolve application identity request := by
  simp only [resolve, resolveApplication_modifyDialog, resolveDialog,
    resolveDialogFrom_modifyDialog]
  rfl

end SessionStore

namespace Container

variable {container : Container} {request : Request}

/-- Why a request is refused: its identity cannot be recovered, the application of its identity is
not deployed, or a session of its identity is not found. -/
inductive Refusal (container : Container) (request : Request) : DispatchError → Prop
  | undecided {fault : DispatchError}
      (failed : RouteDecision.decide container.registry.names container.settings.listeners request =
        .error fault) : Refusal container request fault
  | undeployed {identity : RouteIdentity} :
      Refusal container request (notDeployed identity request)
  | unresolved {identity : RouteIdentity} {application : Application} {fault : DispatchError}
      (resolved : RouteDecision.decide container.registry.names container.settings.listeners
        request = .ok (.resolved identity))
      (failed : (container.store.resolve application identity request).answer = .error fault) :
      Refusal container request fault

theorem refusal_of_receive {fault : DispatchError}
    (refused : (container.receive request).1 = .refuse fault) :
    container.Refusal request fault := by
  unfold receive at refused
  split at refused
  · rename_i failed
    obtain rfl := Reception.refuse.inj refused
    exact .undecided failed
  · cases refused
  · cases refused
  · rename_i identity resolved
    unfold receiveFor at refused
    split at refused
    · obtain rfl := Reception.refuse.inj refused
      exact .undeployed
    · split at refused
      · obtain rfl := Reception.refuse.inj refused
        exact .undeployed
      · simp only at refused
        split at refused
        · rename_i failed
          obtain rfl := Reception.refuse.inj refused
          exact .unresolved resolved failed
        · split at refused
          · cases refused
          · split at refused <;> cases refused

theorem isEarly_of_receive {fault : DispatchError}
    (refused : (container.receive request).1 = .refuse fault) : fault.isEarly = true := by
  cases refusal_of_receive refused with
  | undecided failed => exact RouteDecision.isEarly_of_decide failed
  | undeployed => rfl
  | unresolved _ failed => exact SessionStore.isEarly_of_resolve failed

theorem result?_refused {call : Call} {number : Nat} {fault : DispatchError}
    (progress : call.progress = .underway number)
    (refused : container.result? call = some (.refused fault)) :
    ∃ task, container.tasks[number]? = some task ∧ task.stage = .finished (.timedOut fault) := by
  simp only [result?, progress] at refused
  split at refused
  · cases refused
  · rename_i task found
    refine ⟨task, found, ?_⟩
    split at refused
    · rename_i timedOut
      obtain rfl := CallResult.refused.inj (Option.some.inj refused)
      exact timedOut
    all_goals cases refused

/-! ### A request that steps back -/

/-- A request is accepted, but its task steps back before it gets into the line. -/
def forgo (container : Container) (request : Request) (application : Nat)
    (resolution : Resolution) : Container :=
  let task := container.makeTask request application resolution
  { container.accept request application resolution with
    gates := container.gates
    tasks := container.tasks ++ [{ task with stage := .finished .withdrawn }] }

theorem without_forgo (sound : container.Sound) (request : Request) (application : Nat)
    (resolution : Resolution) :
    Without container.tasks.length (container.forgo request application resolution)
      (container.accept request application resolution) := by
  have absent (gate : GateId) :
      Party.task container.tasks.length ∉ (container.gates.gate gate).line := by
    intro present
    obtain ⟨_, found, _⟩ := sound.orderly.known present
    exact Nat.lt_irrefl _ (List.getElem?_eq_some_iff.mp found).1
  exact {
    settings := rfl
    registry := rfl
    store := rfl
    proxies := rfl
    calls := rfl
    gates := by
      intro gate
      rw [accept_gates, GateBoard.gate_move]
      split
      · exact (Gate.leave_enter _ (absent gate)).symm
      · exact (Gate.leave_of_not_mem _ (absent gate)).symm
    count := by simp [forgo]
    tasks := by
      intro other different
      rw [accept_tasks]
      rcases Nat.lt_or_gt_of_ne different with early | late
      · simp only [forgo, List.getElem?_append_left early]
      · rw [List.getElem?_eq_none (by simp [forgo]; omega), List.getElem?_eq_none (by simp; omega)] }

/-- Two containers that only the record of one task tells apart. -/
structure Alike (number : Nat) (left right : Container) : Prop where
  settings : left.settings = right.settings
  registry : left.registry = right.registry
  store : left.store = right.store
  proxies : left.proxies = right.proxies
  calls : left.calls = right.calls
  gates : ∀ gate, left.gates.gate gate = right.gates.gate gate
  tasks : ∀ other, other ≠ number → left.tasks[other]? = right.tasks[other]?

theorem Without.alike {number : Nat} {ghost : Container} (without : Without number ghost container)
    (absent : ∀ gate, Party.task number ∉ (container.gates.gate gate).line) :
    Alike number ghost container where
  settings := without.settings
  registry := without.registry
  store := without.store
  proxies := without.proxies
  calls := without.calls
  gates gate := (without.gates gate).trans (Gate.leave_of_not_mem _ (absent gate))
  tasks := without.tasks

theorem noteSequence_of_shared (session : Nat) (shared : request.ownSequence? = none) :
    container.noteSequence session request = container := by
  have unchanged : (fun dialog : Dialog => dialog.noteSequence request) = id := by
    funext dialog
    unfold Request.ownSequence? at shared
    split at shared
    · rename_i reuses
      simp only [Dialog.noteSequence, Dialog.nextSequence, if_pos reuses, id]
    · cases shared
  rcases container.noteSequence_eq session request with same | same
  · exact same
  · rw [same, modifyDialog, unchanged, SessionStore.modifyDialog_id]

@[simp] theorem forgo_settings (request : Request) (application : Nat) (resolution : Resolution) :
    (container.forgo request application resolution).settings = container.settings :=
  container.accept_settings request application resolution

@[simp] theorem forgo_registry (request : Request) (application : Nat) (resolution : Resolution) :
    (container.forgo request application resolution).registry = container.registry :=
  container.accept_registry request application resolution

theorem forgo_store_of_shared {application : Nat} {resolution : Resolution}
    (shared : request.ownSequence? = none ∨ ∃ proxy last,
      container.sequencing? resolution.dialogSession = some (some proxy, last)) :
    (container.forgo request application resolution).store = container.store := by
  change (container.noteSequence resolution.dialogSession request).store = container.store
  rcases shared with none | ⟨proxy, last, known⟩
  · rw [container.noteSequence_of_shared _ none]
  · obtain ⟨found, located, proxied, _⟩ := sequencing?_eq_some known
    rw [container.noteSequence_of_proxied _ request located (by rw [proxied]; rfl)]

theorem forgo_store_of_own {application own : Nat} {resolution : Resolution} {last : Option Nat}
    {asked : List Effect}
    (received : container.receive request = (.accept application resolution, asked))
    (owns : request.ownSequence? = some own)
    (known : container.sequencing? resolution.dialogSession = some (none, last)) :
    (container.forgo request application resolution).store =
      container.store.modifyDialog resolution.dialogSession (fun dialog =>
        { dialog with sequence := some own }) := by
  obtain ⟨_, _, session, accepted⟩ := accepted received
  obtain ⟨same, located, direct, counter⟩ := sequencing?_eq_some known
  obtain rfl := Option.some.inj (accepted.stored.symm.trans located)
  have inSequence := (sequencing?_accept received known).1
  change (container.noteSequence resolution.dialogSession request).store = _
  rw [container.noteSequence_of_direct _ request located direct]
  change container.store.modifyDialog resolution.dialogSession (·.noteSequence request) = _
  apply SessionStore.modifyDialog_congr _ located
  simp only [Dialog.noteSequence, counter, Above.nextSequence_of_own inSequence owns]

theorem receive_of_resolved {identity : RouteIdentity} {number : Nat} {application : Application}
    {resolution : Resolution} {session : DialogSession}
    (decided : RouteDecision.decide container.registry.names container.settings.listeners
      request = .ok (.resolved identity))
    (deployed : container.registry.find? identity.applicationName = some number)
    (located : container.registry.get? number = some application)
    (resolved : (container.store.resolve application identity request).answer = .ok resolution)
    (stored : container.store.dialogs.get? resolution.dialogSession = some session) :
    (container.receive request).1 =
      if admitsSequence session request then .accept number resolution else .outOfSequence := by
  simp only [receive, decided, receiveFor, deployed, located, resolved, stored]

theorem receive_forgo_of_own {application own : Nat} {resolution : Resolution} {last : Option Nat}
    {asked : List Effect}
    (received : container.receive request = (.accept application resolution, asked))
    (owns : request.ownSequence? = some own)
    (known : container.sequencing? resolution.dialogSession = some (none, last)) :
    ((container.forgo request application resolution).receive request).1 = .outOfSequence := by
  have store := forgo_store_of_own received owns known
  obtain ⟨identity, found, session, accepted⟩ := accepted received
  obtain ⟨same, located, direct, _⟩ := sequencing?_eq_some known
  obtain rfl := Option.some.inj (accepted.stored.symm.trans located)
  let later : DialogSession := { session with
    dialog := { session.dialog with sequence := some own } }
  have stored : (container.forgo request application resolution).store.dialogs.get?
      resolution.dialogSession = some later := by
    rw [store, SessionStore.get?_modifyDialog_self, located]
    rfl
  have resolved : ((container.forgo request application resolution).store.resolve found identity
      request).answer = .ok resolution := by
    rw [store, SessionStore.resolve_modifyDialog]
    exact accepted.resolved
  have repeated : ¬ admitsSequence later request = true := by
    intro admitted
    have inSequence : Dialog.inSequence (some own) request = true := by
      simpa only [admitsSequence, later, direct, Option.isSome_none, Bool.false_or] using admitted
    exact Nat.lt_irrefl own (Above.of_inSequence inSequence owns own rfl)
  rw [receive_of_resolved (by rw [forgo_registry, forgo_settings]; exact accepted.decided)
    (by rw [forgo_registry]; exact accepted.deployed)
    (by rw [forgo_registry]; exact accepted.located) resolved stored, if_neg repeated]

end Container

/-- A run after a call came to nothing because its gate did not open in time. The sessions of the
request are those of `resolution`. -/
structure Traceless (before : Container) (request : Request) (application : Nat)
    (resolution : Resolution) (future : List Moment) (after : Container) : Prop where
  unseen : ∀ moment ∈ future, ∀ effect ∈ moment.effects, effect.task? ≠ some before.tasks.length
  absent : ∃ history ghost,
    Run Container.Interlude (before.forgo request application resolution) history ghost ∧
      history.map Moment.deed = (future.filter (fun moment =>
        moment.step.task? ≠ some before.tasks.length)).map Moment.deed ∧
      Container.Alike before.tasks.length ghost after ∧
      ∀ later, ghost.receive later = after.receive later
  /-- A request that steps back is as good as one that never arrived if it has no number of its own
  or its session has a proxy. -/
  again : (request.ownSequence? = none ∨ ∃ proxy last,
      before.sequencing? resolution.dialogSession = some (some proxy, last)) →
    (before.forgo request application resolution).store = before.store ∧
      ∀ later, (before.forgo request application resolution).receive later = before.receive later
  noted : ∀ own last, request.ownSequence? = some own →
    before.sequencing? resolution.dialogSession = some (none, last) →
    (before.forgo request application resolution).store =
        before.store.modifyDialog resolution.dialogSession (fun dialog =>
          { dialog with sequence := some own }) ∧
      ((before.forgo request application resolution).receive request).1 = .outOfSequence
  lasting : ∀ own last, request.ownSequence? = some own →
    before.sequencing? resolution.dialogSession = some (none, last) →
    Run (Container.Undisturbed resolution.dialogSession)
      (before.accept request application resolution) future after →
    (∃ seen, after.sequencing? resolution.dialogSession = some (none, some seen) ∧ own ≤ seen) ∧
      ∀ again found, (after.receive request).1 = .accept again found →
        found.dialogSession ≠ resolution.dialogSession

theorem Run.traceless_of_accept {before after : Container} {future : List Moment}
    {request : Request} {application : Nat} {resolution : Resolution} {asked : List Effect}
    {fault : DispatchError}
    (run : Run Container.Interlude (before.accept request application resolution) future after)
    (sound : before.Sound) (soundAccepted : (before.accept request application resolution).Sound)
    (received : before.receive request = (.accept application resolution, asked))
    (ended : (after.calls[before.calls.length]?).bind after.result? = some (.refused fault)) :
    Traceless before request application resolution future after := by
  have last : (before.accept request application resolution).calls[before.calls.length]? =
      some { request, progress := .underway before.tasks.length } := by simp
  have made : (before.accept request application resolution).tasks[before.tasks.length]? =
      some (before.makeTask request application resolution) := by simp
  have kept := (run.call_kept last).resolve_right (fun relays => nomatch relays.1)
  rw [kept, Option.bind_some] at ended
  obtain ⟨task, found, timedOut⟩ := Container.result?_refused rfl ended
  have soundAfter := run.sound soundAccepted
  obtain ⟨_, same, execution, foundSame, dispatched, _⟩ :=
    soundAfter.calls (List.mem_of_getElem? kept) rfl
  obtain rfl := Option.some.inj (found.symm.trans foundSame)
  have forlorn : after.Forlorn before.tasks.length task :=
    { found
      dispatched := ⟨execution, dispatched⟩
      late := Or.inr ⟨fault, timedOut⟩
      behind := by
        intro waits
        rw [timedOut] at waits
        cases waits }
  obtain ⟨unseen, history, ghost, alike, sameDeeds, without⟩ := run.without soundAccepted made
    forlorn (before.without_forgo sound request application resolution)
  have absent (gate : GateId) : Party.task before.tasks.length ∉ (after.gates.gate gate).line :=
    soundAfter.orderly.not_mem_of_out found (by rw [timedOut]; rfl) gate
  exact {
    unseen := unseen
    absent := ⟨history, ghost, alike, sameDeeds, without.alike absent, without.receive⟩
    again := by
      intro shared
      have store : (before.forgo request application resolution).store = before.store :=
        Container.forgo_store_of_shared shared
      exact ⟨store, Container.receive_congr (before.forgo_settings request application resolution)
        (before.forgo_registry request application resolution) store⟩
    noted := fun own last owns known =>
      ⟨Container.forgo_store_of_own received owns known,
        Container.receive_forgo_of_own received owns known⟩
    lasting := by
      intro own last owns known undisturbed
      obtain ⟨inSequence, noted⟩ := Container.sequencing?_accept received known
      rw [Above.nextSequence_of_own inSequence owns] at noted
      obtain ⟨seen, knownAfter, bound⟩ := undisturbed.sequencing?_le noted
      refine ⟨⟨seen, knownAfter, bound⟩, ?_⟩
      intro again found accepts same
      rw [← same] at knownAfter
      have receivedAgain : after.receive request = (.accept again found, (after.receive request).2) :=
        Prod.ext accepts rfl
      have risen := Above.of_inSequence
        (Container.sequencing?_accept receivedAgain knownAfter).1 owns seen rfl
      omega }

/-- A call whose gate does not open in time leaves no trace but the number of its request. -/
theorem Run.traceless {rest before called after : Container} {past future : List Moment}
    {request : Request} {effects : List Effect} {session : String} {timeout : Duration}
    (earlier : Run Container.Interlude rest past before) (atRest : rest.AtRest)
    (possible : before.step? (.call request) = some (called, effects))
    (run : Run Container.Interlude called future after)
    (ended : (after.calls[before.calls.length]?).bind after.result? =
      some (.refused (.gateTimeout session timeout))) :
    (∀ effect ∈ effects, effect.task? = none) ∧
      ∃ application resolution asked,
        before.receive request = (.accept application resolution, asked) ∧
        Traceless before request application resolution future after := by
  have sound := earlier.sound atRest.sound
  have happening := Container.happening_of_step? possible
  have made : before.call request = (called, effects) := Option.some.inj possible
  unfold Container.call at made
  -- A call that is answered at once keeps its answer, which is never that of a timeout.
  have answered {result : CallResult} (atOnce : called = before.addCall request (.answered result))
      (other : result ≠ .refused (.gateTimeout session timeout)) : False := by
    have last : called.calls[before.calls.length]? =
        some { request, progress := .answered result } := by
      rw [atOnce]
      simp [Container.addCall]
    rcases run.call_kept last with kept | ⟨never, _⟩
    · rw [kept] at ended
      exact other (Option.some.inj ended)
    · cases never
  cases received : before.receive request with
  | mk reception asked =>
      have quiet := before.receive_quiet request
      rw [received] at made quiet
      cases reception with
      | relay =>
          obtain ⟨relays, _⟩ := Prod.mk.inj made
          have last : called.calls[before.calls.length]? =
              some { request, progress := .relaying } := by
            rw [← relays]
            simp [Container.addCall]
          rcases run.call_kept last with kept | ⟨_, conduct, kept⟩
          · rw [kept] at ended
            cases ended
          · rw [kept] at ended
            have result : relayResult request conduct = .refused (.gateTimeout session timeout) :=
              Option.some.inj ended
            cases conduct <;> cases result
      | drop | outOfSequence =>
          refine (answered (Prod.mk.inj made).1.symm ?_).elim
          intro same
          cases same
      | refuse fault =>
          have early := Container.isEarly_of_receive (congrArg Prod.fst received)
          have other : CallResult.refused fault ≠ .refused (.gateTimeout session timeout) := by
            intro same
            rw [CallResult.refused.inj same] at early
            cases early
          exact (answered (Prod.mk.inj made).1.symm other).elim
      | accept application resolution =>
          obtain ⟨rfl, rfl⟩ := Prod.mk.inj made
          exact ⟨quiet, application, resolution, asked, rfl,
            run.traceless_of_accept sound (happening.sound sound) received ended⟩

/-- Number 5 waits in vain for the gate that an outsider holds, while number 6 waits on and is
handled once the gate is free. -/
def Sample.waitInVain : List Step :=
  [.call (request .info 6), .giveUp 0, .release 0 (.dialog 0), .enter 1, .start 1,
    .serve 1 .success]

theorem Run.traceless_waitInVain :
    let earlier := (Sample.container .session).follow [.hold 0 (.dialog 0)]
    let called := earlier.2.call (Sample.request .info 5)
    let later := called.1.follow Sample.waitInVain
    (Sample.container .session).AtRest ∧
      Run Container.Interlude (Sample.container .session) earlier.1 earlier.2 ∧
      earlier.2.step? (.call (Sample.request .info 5)) = some called ∧
      Run Container.Interlude called.1 later.1 later.2 ∧
      (later.2.calls[earlier.2.calls.length]?).bind later.2.result? = some (.refused
        (.gateTimeout "(sip:b,,sip:b,c,a)" (Duration.ofMilliseconds 40))) ∧
      (∀ effect ∈ called.2, effect.task? = none) ∧
      ∃ application resolution asked,
        earlier.2.receive (Sample.request .info 5) = (.accept application resolution, asked) ∧
        Traceless earlier.2 (Sample.request .info 5) application resolution later.1 later.2 := by
  intro earlier called later
  have atRest : (Sample.container .session).AtRest := ⟨rfl, rfl, rfl⟩
  have past : Run Container.Interlude (Sample.container .session) earlier.1 earlier.2 :=
    Run.follow _ _ [.hold 0 (.dialog 0)]
  have possible : earlier.2.step? (.call (Sample.request .info 5)) = some called := rfl
  have run : Run Container.Interlude called.1 later.1 later.2 :=
    Run.follow _ _ Sample.waitInVain
  have ended : (later.2.calls[earlier.2.calls.length]?).bind later.2.result? = some (.refused
      (.gateTimeout "(sip:b,,sip:b,c,a)" (Duration.ofMilliseconds 40))) := by
    decide +kernel
  exact ⟨atRest, past, possible, run, ended, Run.traceless past atRest possible run ended⟩

def Sample.dispatchedTwice : List Step :=
  [.hold 0 (.dialog 0), .call (request .info 5), .giveUp 0, .release 0 (.dialog 0),
    .call (request .info 5)]

/-- A timeout is not quite without a trace: the number stays taken down, and the request that would
have been handled is out of sequence. -/
theorem Sample.outOfSequence_dispatchedTwice :
    let start := container .session
    let direct := (start.follow [.call (request .info 5), .enter 0]).2
    let finish := (start.follow dispatchedTwice).2
    finish.calls.map finish.result? =
        [some (.refused (.gateTimeout "(sip:b,,sip:b,c,a)" (Duration.ofMilliseconds 40))),
          some .outOfSequence] ∧
      (finish.gates.gate (.dialog 0)).line = [] ∧
      direct.calls.map direct.result? = [some (.pooled 0)] ∧
      start.sequencing? 0 = some (none, none) ∧ finish.sequencing? 0 = some (none, some 5) := by
  decide +kernel

end SipContainer

import SipContainer.Proofs.Dispatch.Accounting
import SipContainer.Proofs.Routing.Correlation
import SipContainer.Proofs.Routing.Polarity
import SipContainer.Proofs.Routing.Recovery
/-!
The keys of the sessions that a request belongs to are made from its identity, and no key is made
from an empty part. An identity has none: its identifier is taken from the route or from the tag only
where it is not empty, and its name is one that a hash stands for. So no request is refused or answered
for the sake of a key, unless a hash stands for the empty name.
-/

namespace SipContainer

def DispatchError.Keyless (fault : DispatchError) : Prop :=
  ∀ cause, fault ≠ .key cause

namespace NameTable

def Filled (table : NameTable) : Prop :=
  ∀ entry ∈ table.entries, entry.2 ≠ ""

instance (table : NameTable) : Decidable table.Filled :=
  inferInstanceAs (Decidable (∀ entry ∈ table.entries, entry.2 ≠ ""))

variable {table : NameTable}

theorem Filled.name?_ne_empty (filled : table.Filled) {hash name : String}
    (known : table.name? hash = some name) : name ≠ "" := by
  obtain ⟨entry, found, named⟩ := Option.map_eq_some_iff.mp known
  rw [← named]
  exact filled entry (List.mem_of_find?_eq_some found)

end NameTable

namespace RouteDecision

variable {table : NameTable} {listeners : List Listener} {request : Request}

/-- The identifier of an identity is never empty, whatever is registered. -/
theorem applicationId_ne_empty {identity : RouteIdentity}
    (decided : decide table listeners request = .ok (.resolved identity)) :
    identity.applicationId ≠ "" := by
  by_cases bare : Bare request
  · cases basis_of_eq bare decided with
    | resolved present tagged =>
        obtain ⟨random, hash, _, _, _, filled, _⟩ := tagged
        exact filled
  · obtain ⟨hash, id, carried⟩ := carried_of_not_bare bare
    rw [decide_of_carried carried] at decided
    split at decided
    · cases decided
      exact carried.idFilled
    · cases decided

theorem filled_of_resolved (filled : table.Filled) {identity : RouteIdentity}
    (decided : decide table listeners request = .ok (.resolved identity)) :
    identity.sessionKey.Filled := by
  obtain ⟨hash, known⟩ := name?_of_resolved decided
  exact ⟨applicationId_ne_empty decided, filled.name?_ne_empty known⟩

theorem keyless_of_decide {fault : DispatchError}
    (failed : decide table listeners request = .error fault) : fault.Keyless := by
  by_cases bare : Bare request
  · cases basis_of_eq bare failed with
    | malformed => exact nofun
    | refused => exact nofun
  · obtain ⟨hash, id, carried⟩ := carried_of_not_bare bare
    rw [decide_of_carried carried] at failed
    split at failed
    · cases failed
    · cases failed
      exact nofun

end RouteDecision

namespace SessionStore

variable {store : SessionStore} {application : Application} {identity : RouteIdentity}
  {request : Request} {fault : DispatchError}

theorem keyless_of_resolveApplication (filled : identity.sessionKey.Filled)
    (failed : (store.resolveApplication application identity).answer = .error fault) :
    fault.Keyless := by
  cases found : store.applications.find? identity.sessionKey with
  | some serial =>
      rw [resolveApplication_of_kept filled found] at failed
      cases failed
  | none =>
      rw [resolveApplication_of_absent filled found, correlated_answer] at failed
      cases first : store.firstKept?
          (Correlation.all.filterMap (application.correlate identity.sessionKey)) with
      | some serial =>
          rw [first] at failed
          cases failed
      | none =>
          rw [first] at failed
          cases failed
          exact nofun

theorem keyless_of_resolveDialog {sessionId applicationName : String}
    (filled : applicationName ≠ "")
    (failed : store.resolveDialog sessionId applicationName request = .error fault) :
    fault.Keyless := by
  have search := store.search filled sessionId request
  rw [failed] at search
  cases search with
  | missing => exact nofun

theorem keyless_of_resolve (filled : identity.sessionKey.Filled)
    (failed : (store.resolve application identity request).answer = .error fault) :
    fault.Keyless := by
  cases first : (store.resolveApplication application identity).answer with
  | error cause =>
      rw [resolve_of_error first] at failed
      cases failed
      exact keyless_of_resolveApplication filled first
  | ok serial =>
      cases second : store.resolveDialog (store.applicationId serial) identity.applicationName
          request with
      | error cause =>
          simp only [resolve, first, second, bind, Except.bind] at failed
          cases failed
          exact keyless_of_resolveDialog filled.applicationName second
      | ok found =>
          simp only [resolve, first, second, bind, Except.bind] at failed
          cases failed

end SessionStore

namespace Container

variable {container : Container} {request : Request}

theorem keyless_of_receive (filled : container.registry.names.Filled) {fault : DispatchError}
    (refused : (container.receive request).1 = .refuse fault) : fault.Keyless := by
  cases refusal_of_receive refused with
  | undecided failed => exact RouteDecision.keyless_of_decide failed
  | undeployed => exact nofun
  | unresolved resolved failed =>
      have identified := RouteDecision.filled_of_resolved filled resolved
      exact SessionStore.keyless_of_resolve identified failed

theorem recorded_of_call (request : Request) (filled : container.registry.names.Filled) :
    ∃ progress, (container.call request).1.calls[container.calls.length]? =
        some { request, progress } ∧
      ∀ fault, progress = .answered (.refused fault) → fault.Keyless := by
  have added (progress : CallProgress) :
      (container.addCall request progress).calls[container.calls.length]? =
        some { request, progress } := by
    simp [addCall]
  unfold call
  cases received : container.receive request with
  | mk reception asked =>
      cases reception with
      | relay =>
          refine ⟨_, added .relaying, ?_⟩
          intro fault same
          cases same
      | drop =>
          refine ⟨_, added (.answered .dropped), ?_⟩
          intro fault same
          cases same
      | outOfSequence =>
          refine ⟨_, added (.answered .outOfSequence), ?_⟩
          intro fault same
          cases same
      | refuse fault =>
          refine ⟨_, added (.answered (.refused fault)), ?_⟩
          intro other same
          cases same
          exact keyless_of_receive filled (congrArg Prod.fst received)
      | accept application resolution =>
          refine ⟨.underway container.tasks.length, by simp, ?_⟩
          intro fault same
          cases same

theorem keyless_of_outcome? {number other : Nat} {task : Task} {step : Step} {outcome : Outcome}
    {fault : DispatchError} (about : step.task? = some number)
    (possible : container.outcome? number task step = some outcome)
    (answered : .responded other fault ∈ outcome.effects) : fault.Keyless := by
  cases transition_of_outcome? about possible with
  | lineUp | enter | run | queue | lose | respond => cases answered
  | giveUp =>
      obtain ⟨same, _⟩ := task.giveUp_effects number _ answered
      cases same
      intro cause same
      cases same
  | serve | forward =>
      have same := List.mem_singleton.mp answered
      cases same
  | exit conduct cause proxies returned =>
      have answers : task.course.answers = true := by
        cases cause with
        | none => cases answered
        | some cause =>
            by_contra silent
            simp [Task.exit, Task.fail, Task.conclude, Task.reach, silent] at answered
      rcases handBack_cases answers returned possible with
        ⟨_, ⟨leg, _, shows⟩ | ⟨_, shows⟩⟩ | ⟨_, message, failure, _, shows⟩
      · rw [shows] at answered
        cases List.mem_singleton.mp answered
      · rw [shows] at answered
        cases answered
      · rw [shows] at answered
        cases List.mem_singleton.mp answered
        intro cause same
        cases same
  | cancel =>
      rw [task.cancel_effects] at answered
      cases answered

theorem keyless_of_step? {next : Container} {step : Step} {effects : List Effect} {number : Nat}
    {fault : DispatchError} (possible : container.step? step = some (next, effects))
    (answered : .responded number fault ∈ effects) : fault.Keyless := by
  have owned := (happening_of_step? possible).effect_about answered
  rcases owned with never | about
  · cases never
  · rw [container.step?_of_task? about.symm] at possible
    obtain ⟨task, outcome, _, able, _, shows⟩ := taskStep?_eq_some possible
    rw [shows] at answered
    exact keyless_of_outcome? about.symm able answered

theorem keyless_of_result? (filled : container.registry.names.Filled) {history : List Moment}
    {finish : Container} (run : Run Container.Interlude (container.call request).1 history finish)
    {made : Call} (recorded : finish.calls[container.calls.length]? = some made)
    {fault : DispatchError} (refused : finish.result? made = some (.refused fault)) :
    fault.Keyless := by
  obtain ⟨progress, entered, keyless⟩ := recorded_of_call request filled
  rcases run.call_kept entered with kept | ⟨_, conduct, answered⟩
  · obtain rfl := Option.some.inj (kept.symm.trans recorded)
    cases progress with
    | relaying => cases refused
    | answered result =>
        obtain rfl := Option.some.inj refused
        exact keyless fault rfl
    | underway number =>
        obtain ⟨task, found, ended⟩ := result?_refused rfl refused
        have called : container.call request =
          ((container.call request).1, (container.call request).2) := rfl
        have ledger := run.ledger (ledger_of_call called)
        rcases ledger with ⟨absent, _⟩ | ⟨other, present, entry⟩
        · rw [absent] at recorded
          cases recorded
        · obtain rfl := Option.some.inj (recorded.symm.trans present)
          cases entry with
          | underway located _ _ _ tally =>
              obtain rfl := Option.some.inj (found.symm.trans located)
              rw [ended] at tally
              obtain ⟨_, session, timeout, rfl⟩ := tally.idle_of_timedOut
              exact nofun
  · obtain rfl := Option.some.inj (answered.symm.trans recorded)
    cases conduct with
    | success | panic => cases refused
    | failure cause =>
        cases refused
        exact nofun

/-- What is dispatched leads to no fault of a key, neither at once nor later on. -/
structure Spared (container : Container) (request : Request) : Prop where
  identified : ∀ identity, RouteDecision.decide container.registry.names
      container.settings.listeners request = .ok (.resolved identity) →
    identity.applicationName ≠ "" ∧ identity.applicationId ≠ ""
  refused : ∀ history finish, Run Container.Interlude (container.call request).1 history finish →
    ∀ made, finish.calls[container.calls.length]? = some made →
      ∀ cause, finish.result? made ≠ some (.refused (.key cause))
  answered : ∀ history finish, Run Container.Interlude (container.call request).1 history finish →
    ∀ moment ∈ history, ∀ number cause, .responded number (.key cause) ∉ moment.effects

/-- A container that knows no application by the empty name refuses no request over a key. Its store,
what its applications relate to each other, and the route and the tag of the request may be anything,
and so may all that happens while the request is looked after. -/
theorem spared (container : Container) (filled : container.registry.names.Filled)
    (request : Request) : container.Spared request where
  identified := by
    intro identity decided
    have key := RouteDecision.filled_of_resolved filled decided
    exact ⟨key.applicationName, key.callId⟩
  refused := by
    intro history finish run made recorded cause refused
    exact keyless_of_result? filled run recorded refused cause rfl
  answered := by
    intro history finish run moment taken number cause shown
    exact keyless_of_step? (run.possible_at taken) shown cause rfl

/-- Where a hash stands for the empty name and an application of that name is there, every request
with this hash in its route is refused over a key. -/
theorem refused_of_nameless {hash id : String} {number : Nat} {application : Application}
    (carried : RouteDecision.Carried request hash id)
    (nameless : container.registry.names.name? hash = some "")
    (named : container.registry.find? "" = some number)
    (deployed : container.registry.get? number = some application) :
    ∃ cause, (container.call request).1 =
      container.addCall request (.answered (.refused (.key cause))) := by
  have resolved : RouteDecision.decide container.registry.names container.settings.listeners
      request = .ok (.resolved { applicationName := "", applicationId := id }) := by
    rw [RouteDecision.decide_of_carried carried, nameless]
  have searched := SessionStore.searched_of_call named deployed resolved
  exact ⟨_, searched.refused _ rfl⟩

end Container

/-- Of the route only the first parameters count, of which one is empty and the other has no value. The
identifier in the tag is made of separators. -/
def Sample.crooked : Request :=
  { request .info 5 with
    recipient := { uri, tag := some "x_h___" }
    route := some { host := "b", params :=
      [("appname", some ""), ("app_id", none), ("appname", some "h"), ("app_id", some "s")] } }

theorem Container.spared_crooked :
    let start := Sample.container .session
    let called := (start.call Sample.crooked).1
    let later := called.follow Sample.breakdown
    start.registry.names.Filled ∧ start.Spared Sample.crooked ∧
      RouteDecision.decide start.registry.names start.settings.listeners Sample.crooked =
        .ok (.resolved { applicationName := "a", applicationId := "__" }) ∧
      Run Container.Interlude called later.1 later.2 ∧
      (∃ made message, later.2.calls[start.calls.length]? = some made ∧
        later.2.result? made = some (.refused (.sessionNotFound message)) ∧
        ∀ cause, later.2.result? made ≠ some (.refused (.key cause))) ∧
      (shown Effect.isResponded later.1).length = 1 ∧
      ∀ moment ∈ later.1, ∀ number cause, .responded number (.key cause) ∉ moment.effects := by
  intro start called later
  have filled : start.registry.names.Filled := by decide
  have run : Run Container.Interlude called later.1 later.2 := Run.follow _ _ Sample.breakdown
  have responds : (shown Effect.isResponded later.1).length = 1 := by decide +kernel
  have spared : start.Spared Sample.crooked := Container.spared start filled Sample.crooked
  exact ⟨filled, spared, rfl, run, ⟨_, _, rfl, rfl, spared.refused _ _ run _ rfl⟩, responds,
    spared.answered _ _ run⟩

end SipContainer

import SipContainer.Proofs.Dispatch.Accounting
import SipContainer.Proofs.Session.Belongings
import SipContainer.Proofs.Session.KeyEntrances
/-!
The search for the application session of a request goes along a chain of keys: the one that the
identity names, and then those that the application gives for it when it is asked about a join and about
a replacement. The first key of the chain under which a session is kept decides. The application is
asked no further than it takes to get there, so that the answer depends on nothing it was not asked.
-/

namespace SipContainer

def RouteIdentity.sessionKey (identity : RouteIdentity) : ApplicationKey where
  callId := identity.applicationId
  applicationName := identity.applicationName

/-- The keys that a search for a session goes along: the given one, and those that the application
relates to it. -/
def Application.chain (application : Application) (key : ApplicationKey) : List ApplicationKey :=
  key :: Correlation.all.filterMap (application.correlate key)

namespace SessionStore

def firstKept? (store : SessionStore) (keys : List ApplicationKey) : Option Nat :=
  keys.findSome? store.applications.find?

def verdict (key : ApplicationKey) : Option Nat → Except DispatchError Nat
  | some serial => .ok serial
  | none => .error (applicationMissing key)

/-- The application gives no key for this kind of relation, or one under which nothing is kept. -/
def Misses (store : SessionStore) (application : Application) (key : ApplicationKey)
    (kind : Correlation) : Prop :=
  ∀ related, application.correlate key kind = some related →
    store.applications.find? related = none

variable {store : SessionStore} {application other : Application} {key : ApplicationKey}
  {identity : RouteIdentity} {kind : Correlation}

theorem misses_iff : store.Misses application key kind ↔
    (application.correlate key kind).bind store.applications.find? = none := by
  rw [Option.bind_eq_none_iff, Misses]

theorem correlated_of_hit {serial : Nat} (rest : List Correlation)
    (hit : (application.correlate key kind).bind store.applications.find? = some serial) :
    store.correlated application key (kind :: rest) =
      { asked := [kind], answer := .ok serial } := by
  rw [correlated, hit]

theorem correlated_of_misses (rest : List Correlation)
    (misses : store.Misses application key kind) :
    store.correlated application key (kind :: rest) =
      { asked := kind :: (store.correlated application key rest).asked
        answer := (store.correlated application key rest).answer } := by
  rw [correlated, misses_iff.mp misses]

theorem correlated_answer (kinds : List Correlation) :
    (store.correlated application key kinds).answer =
      verdict key (store.firstKept? (kinds.filterMap (application.correlate key))) := by
  induction kinds with
  | nil => rfl
  | cons kind rest ih =>
      cases hit : (application.correlate key kind).bind store.applications.find? with
      | some serial =>
          obtain ⟨related, named, kept⟩ := Option.bind_eq_some_iff.mp hit
          rw [correlated_of_hit rest hit, List.filterMap_cons_some named, firstKept?,
            List.findSome?_cons_of_isSome (by rw [kept]; rfl), kept]
          rfl
      | none =>
          have misses := misses_iff.mpr hit
          rw [correlated_of_misses rest misses, ih]
          cases named : application.correlate key kind with
          | none => rw [List.filterMap_cons_none named]
          | some related =>
              rw [List.filterMap_cons_some named, firstKept?, firstKept?,
                List.findSome?_cons_of_isNone (by rw [misses related named]; rfl)]

theorem correlated_asked_prefix (kinds : List Correlation) :
    (store.correlated application key kinds).asked <+: kinds := by
  induction kinds with
  | nil => exact List.prefix_rfl
  | cons kind rest ih =>
      cases hit : (application.correlate key kind).bind store.applications.find? with
      | some serial =>
          rw [correlated_of_hit rest hit]
          exact List.prefix_append [kind] rest
      | none =>
          rw [correlated_of_misses rest (misses_iff.mpr hit)]
          exact List.cons_prefix_cons.mpr ⟨rfl, ih⟩

theorem mem_correlated_asked_iff {before after : List Correlation} (fresh : kind ∉ before) :
    kind ∈ (store.correlated application key (before ++ kind :: after)).asked ↔
      ∀ earlier ∈ before, store.Misses application key earlier := by
  induction before with
  | nil =>
      refine iff_of_true ?_ nofun
      change kind ∈ (store.correlated application key (kind :: after)).asked
      cases hit : (application.correlate key kind).bind store.applications.find? with
      | some serial =>
          rw [correlated_of_hit after hit]
          exact List.mem_cons_self
      | none =>
          rw [correlated_of_misses after (misses_iff.mpr hit)]
          exact List.mem_cons_self
  | cons first rest ih =>
      obtain ⟨different, freshThere⟩ := List.ne_and_not_mem_of_not_mem_cons fresh
      rw [List.cons_append, List.forall_mem_cons]
      cases hit : (application.correlate key first).bind store.applications.find? with
      | some serial =>
          rw [correlated_of_hit _ hit, List.mem_singleton]
          refine iff_of_false different ?_
          rintro ⟨misses, _⟩
          rw [misses_iff.mp misses] at hit
          cases hit
      | none =>
          have misses := misses_iff.mpr hit
          rw [correlated_of_misses _ misses, List.mem_cons, ih freshThere, and_iff_right misses,
            or_iff_right different]

theorem correlated_congr (kinds : List Correlation)
    (same : ∀ kind ∈ (store.correlated application key kinds).asked,
      other.correlate key kind = application.correlate key kind) :
    store.correlated other key kinds = store.correlated application key kinds := by
  induction kinds with
  | nil => rfl
  | cons kind rest ih =>
      cases hit : (application.correlate key kind).bind store.applications.find? with
      | some serial =>
          rw [correlated_of_hit rest hit] at same
          rw [correlated_of_hit rest hit]
          exact correlated_of_hit rest (by rw [same kind List.mem_cons_self, hit])
      | none =>
          rw [correlated_of_misses rest (misses_iff.mpr hit), List.forall_mem_cons] at same
          have missesToo : store.Misses other key kind := misses_iff.mpr (by rw [same.1, hit])
          rw [correlated_of_misses rest (misses_iff.mpr hit), correlated_of_misses rest missesToo,
            ih same.2]

/-! ### The whole search -/

theorem create_sessionKey (filled : identity.sessionKey.Filled) :
    ApplicationKey.create identity.applicationName identity.applicationId =
      .ok identity.sessionKey :=
  ApplicationKey.create_eq_ok_iff_filled.mpr ⟨rfl, filled⟩

theorem resolveApplication_of_kept (filled : identity.sessionKey.Filled) {serial : Nat}
    (kept : store.applications.find? identity.sessionKey = some serial) :
    store.resolveApplication application identity = { asked := [], answer := .ok serial } := by
  rw [resolveApplication, create_sessionKey filled]
  simp only [kept]

theorem resolveApplication_of_absent (filled : identity.sessionKey.Filled)
    (absent : store.applications.find? identity.sessionKey = none) :
    store.resolveApplication application identity =
      store.correlated application identity.sessionKey Correlation.all := by
  rw [resolveApplication, create_sessionKey filled]
  simp only [absent]

theorem resolve_of_error {request : Request} {fault : DispatchError}
    (failed : (store.resolveApplication application identity).answer = .error fault) :
    (store.resolve application identity request).answer = .error fault := by
  simp only [resolve, failed, bind, Except.bind]

structure Searched (store : SessionStore) (number : Nat) (application : Application)
    (identity : RouteIdentity) (container : Container) (request : Request) : Prop where
  asked : (container.call request).2 =
    (store.resolveApplication application identity).asked.map
      (Effect.asked number identity.sessionKey)
  entries : store.SameEntries (container.call request).1.store
  refused : ∀ fault, (store.resolveApplication application identity).answer = .error fault →
    (container.call request).1 = container.addCall request (.answered (.refused fault))

theorem receive_of_named {container : Container} {number : Nat} (request : Request)
    (named : container.registry.find? identity.applicationName = some number)
    (deployed : container.registry.get? number = some application)
    (resolved : RouteDecision.decide container.registry.names container.settings.listeners request =
      .ok (.resolved identity)) :
    (container.receive request).2 =
        (container.store.resolveApplication application identity).asked.map
          (Effect.asked number identity.sessionKey) ∧
      (container.receive request).1 ≠ .relay ∧
      ∀ fault, (container.store.resolveApplication application identity).answer = .error fault →
        (container.receive request).1 = .refuse fault := by
  simp only [Container.receive, resolved, Container.receiveFor, named, deployed]
  refine ⟨rfl, ?_, ?_⟩
  · cases (container.store.resolve application identity request).answer with
    | error fault =>
        intro same
        cases same
    | ok resolution =>
        dsimp only
        cases container.store.dialogs.get? resolution.dialogSession with
        | none =>
            intro same
            cases same
        | some session =>
            dsimp only
            by_cases admitted : Container.admitsSequence session request = true
            · rw [if_pos admitted]
              intro same
              cases same
            · rw [if_neg admitted]
              intro same
              cases same
  · intro fault failed
    rw [resolve_of_error failed]

theorem searched_of_call {container : Container} {number : Nat} {request : Request}
    (named : container.registry.find? identity.applicationName = some number)
    (deployed : container.registry.get? number = some application)
    (resolved : RouteDecision.decide container.registry.names container.settings.listeners request =
      .ok (.resolved identity)) :
    container.store.Searched number application identity container request := by
  obtain ⟨asks, stays, refuses⟩ := receive_of_named request named deployed resolved
  cases received : container.receive request with
  | mk reception asked =>
      rw [received] at asks stays refuses
      obtain rfl : asked = _ := asks
      refine ⟨?_, (container.happening_of_call request).sameEntries, ?_⟩
      · unfold Container.call
        rw [received]
        cases reception with
        | relay => exact absurd rfl stays
        | drop | outOfSequence | refuse | accept => rfl
      · intro fault failed
        obtain rfl := refuses fault failed
        unfold Container.call
        rw [received]

/-- The search for the application session of an identity, on a store of any content. -/
structure ChainSearch (store : SessionStore) (application : Application)
    (identity : RouteIdentity) : Prop where
  answer : (store.resolveApplication application identity).answer =
    verdict identity.sessionKey (store.firstKept? (application.chain identity.sessionKey))
  join : .join ∈ (store.resolveApplication application identity).asked ↔
    store.applications.find? identity.sessionKey = none
  replaces : .replaces ∈ (store.resolveApplication application identity).asked ↔
    store.applications.find? identity.sessionKey = none ∧
      store.Misses application identity.sessionKey .join
  ordered : (store.resolveApplication application identity).asked <+: Correlation.all
  confined : ∀ other : Application,
    (∀ kind ∈ (store.resolveApplication application identity).asked,
      other.correlate identity.sessionKey kind = application.correlate identity.sessionKey kind) →
    store.resolveApplication other identity = store.resolveApplication application identity

theorem chainSearch_of_kept (filled : identity.sessionKey.Filled) {serial : Nat}
    (kept : store.applications.find? identity.sessionKey = some serial) :
    store.ChainSearch application identity := by
  have search (application : Application) :
      store.resolveApplication application identity = { asked := [], answer := .ok serial } :=
    resolveApplication_of_kept filled kept
  have first : store.firstKept? (application.chain identity.sessionKey) = some serial := by
    rw [firstKept?, Application.chain, List.findSome?_cons_of_isSome (by rw [kept]; rfl), kept]
  constructor
  · rw [search, first]
    rfl
  · rw [search, kept]
    exact iff_of_false nofun nofun
  · rw [search, kept]
    exact iff_of_false nofun nofun
  · rw [search]
    exact List.nil_prefix
  · intro other _
    rw [search, search]

theorem chainSearch_of_absent (filled : identity.sessionKey.Filled)
    (absent : store.applications.find? identity.sessionKey = none) :
    store.ChainSearch application identity := by
  have search (application : Application) : store.resolveApplication application identity =
      store.correlated application identity.sessionKey Correlation.all :=
    resolveApplication_of_absent filled absent
  have first : store.firstKept? (application.chain identity.sessionKey) =
      store.firstKept? (Correlation.all.filterMap
        (application.correlate identity.sessionKey)) := by
    rw [firstKept?, Application.chain, List.findSome?_cons_of_isNone (by rw [absent]; rfl),
      firstKept?]
  have joins : .join ∈ (store.correlated application identity.sessionKey
      ([] ++ .join :: [.replaces])).asked ↔
        ∀ earlier ∈ [], store.Misses application identity.sessionKey earlier :=
    mem_correlated_asked_iff nofun
  have replaces : .replaces ∈ (store.correlated application identity.sessionKey
      ([.join] ++ .replaces :: [])).asked ↔
        ∀ earlier ∈ [.join], store.Misses application identity.sessionKey earlier :=
    mem_correlated_asked_iff (by decide)
  constructor
  · rw [search, first, correlated_answer]
  · rw [search]
    exact iff_of_true (joins.mpr nofun) absent
  · rw [search, and_iff_right absent]
    exact replaces.trans List.forall_mem_singleton
  · rw [search]
    exact correlated_asked_prefix Correlation.all
  · intro other same
    rw [search] at same
    rw [search, search]
    exact correlated_congr Correlation.all same

theorem Reached.present_of_answer (reached : store.Reached)
    (search : store.ChainSearch application identity) {serial : Nat}
    (found : (store.resolveApplication application identity).answer = .ok serial) :
    ∃ session, store.Present serial session ∧
      session.key ∈ application.chain identity.sessionKey := by
  rw [search.answer] at found
  cases first : store.firstKept? (application.chain identity.sessionKey) with
  | none =>
      rw [first] at found
      cases found
  | some other =>
      rw [first] at found
      obtain rfl : other = serial := Except.ok.inj found
      obtain ⟨key, member, kept⟩ := List.exists_of_findSome?_eq_some first
      obtain ⟨session, present, rfl⟩ := reached.anchored.applications.holds kept
      exact ⟨session, present, member⟩

/-- On every store the search goes along the chain and asks no more than it takes. It finds a session
that is there, and in a call it shows what was asked and leaves the entries of the store alone. -/
theorem firstHit (store : SessionStore) (application : Application) (identity : RouteIdentity)
    (filled : identity.sessionKey.Filled) :
    store.ChainSearch application identity ∧
      (store.Reached → ∀ serial,
        (store.resolveApplication application identity).answer = .ok serial →
          ∃ session, store.Present serial session ∧
            session.key ∈ application.chain identity.sessionKey) ∧
      ∀ (container : Container) number request, container.store = store →
        container.registry.find? identity.applicationName = some number →
        container.registry.get? number = some application →
        RouteDecision.decide container.registry.names container.settings.listeners request =
          .ok (.resolved identity) →
        store.Searched number application identity container request := by
  have search : store.ChainSearch application identity := by
    cases kept : store.applications.find? identity.sessionKey with
    | some serial => exact chainSearch_of_kept filled kept
    | none => exact chainSearch_of_absent filled kept
  refine ⟨search, fun reached serial found => reached.present_of_answer search found, ?_⟩
  rintro container number request rfl named deployed resolved
  exact searched_of_call named deployed resolved

end SessionStore

/-- A conference that has been joined to a session which is gone, and replaces one that is there. -/
def Sample.succession : Application :=
  { relating "billing" with
    correlate := fun key kind => some (match kind with
      | .join => { key with callId := "closed" }
      | .replaces => room "billing") }

theorem SessionStore.firstHit_succession :
    let identity : RouteIdentity := { applicationName := "conference", applicationId := "gone" }
    let search := Sample.rooms.resolveApplication Sample.succession identity
    identity.sessionKey.Filled ∧ Sample.rooms.ChainSearch Sample.succession identity ∧
      Sample.rooms.Misses Sample.succession identity.sessionKey .join ∧
      .replaces ∈ search.asked ∧ search.answer = .ok 1 ∧
      ∃ session, Sample.rooms.Present 1 session ∧
        session.key ∈ Sample.succession.chain identity.sessionKey := by
  intro identity search
  have filled : identity.sessionKey.Filled := ⟨by decide, by decide⟩
  have misses : Sample.rooms.Misses Sample.succession identity.sessionKey .join := by
    rintro related ⟨⟩
    rfl
  have reached : Sample.rooms.Reached := Reached.empty.of_operations _
  have answered : search.answer = .ok 1 := rfl
  obtain ⟨chained, present, _⟩ := firstHit Sample.rooms Sample.succession identity filled
  exact ⟨filled, chained, misses, chained.replaces.mpr ⟨rfl, misses⟩, answered,
    present reached 1 answered⟩

end SipContainer

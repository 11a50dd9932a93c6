import Mathlib.Data.Set.Function
import SipContainer.Application
import SipContainer.Proofs.Routing.RecordRoute
import SipContainer.Proofs.Session.Ownership
/-!
Applications come and go, and two tables keep track of them: one by name, one by the hash of the name.
After any history of deployments a name leads to the application deployed last under it unless that
was undeployed, and a hash stands for the name exactly as long. For this no two of the names may have
one hash. That a hash stands for deployed applications only does not even depend on it.
-/

namespace SipContainer

inductive Deployment
  | deploy (application : Application)
  | undeploy (name : String)

namespace Deployment

def name : Deployment → String
  | deploy application => application.name
  | undeploy name => name

def apply (registry : Registry) : Deployment → Registry
  | deploy application => registry.deploy application
  | undeploy name => registry.undeploy name

def deploys : Deployment → Bool
  | deploy _ => true
  | undeploy _ => false

/-- An application is the one deployed last under its name and has not been undeployed since. Its
number says how many were deployed before it. A record begins with the latest event. -/
inductive Current (application : Application) (number : Nat) : List Deployment → Prop
  | deployed {earlier : List Deployment} (counted : number = earlier.countP deploys) :
      Current application number (.deploy application :: earlier)
  | kept {event : Deployment} {earlier : List Deployment}
      (current : Current application number earlier) (other : event.name ≠ application.name) :
      Current application number (event :: earlier)

variable {application : Application} {number : Nat} {record : List Deployment}

theorem Current.mem (current : Current application number record) :
    .deploy application ∈ record := by
  induction current with
  | deployed => exact List.mem_cons_self
  | kept _ _ ih => exact List.mem_cons_of_mem _ ih

theorem current_cons_of_ne {event : Deployment} (other : event.name ≠ application.name) :
    Current application number (event :: record) ↔ Current application number record := by
  constructor
  · intro current
    cases current with
    | deployed => exact absurd rfl other
    | kept earlier => exact earlier
  · intro earlier
    exact .kept earlier other

end Deployment

namespace Registry

open Deployment (Current)

/-- What a registry goes through from its beginning, with the record of deployments. Between them the
pools of the applications are at work. -/
inductive History : Registry → List Deployment → Prop
  | empty : History {} []
  | deployment {registry : Registry} {record : List Deployment} (history : History registry record)
      (event : Deployment) : History (event.apply registry) (event :: record)
  | work {registry : Registry} {record : List Deployment} (history : History registry record)
      (number : Nat) (change : Pool → Pool) : History (registry.modifyPool number change) record

variable {registry : Registry} {record : List Deployment} {name other : String} {number : Nat}

theorem find?_deploy_self (registry : Registry) (application : Application) :
    (registry.deploy application).find? application.name =
      some registry.applications.made.length :=
  Catalog.find?_insert_self _ _ _ (Catalog.find?_erase_self _ _)

theorem find?_deploy_of_ne (registry : Registry) {application : Application}
    (different : other ≠ application.name) :
    (registry.deploy application).find? other = registry.find? other := by
  change Catalog.find? _ other = Catalog.find? _ other
  rw [Registry.deploy, Catalog.find?_insert_of_ne _ _ different,
    Catalog.find?_erase_of_ne _ different]

theorem find?_undeploy_self (registry : Registry) (name : String) :
    (registry.undeploy name).find? name = none :=
  Catalog.find?_erase_self _ _

theorem find?_undeploy_of_ne (registry : Registry) (different : other ≠ name) :
    (registry.undeploy name).find? other = registry.find? other :=
  Catalog.find?_erase_of_ne _ different

theorem find?_apply_of_ne (registry : Registry) {event : Deployment} (different : event.name ≠ other) :
    (event.apply registry).find? other = registry.find? other := by
  cases event with
  | deploy application => exact registry.find?_deploy_of_ne different.symm
  | undeploy name => exact registry.find?_undeploy_of_ne different.symm

theorem name?_apply_of_ne (registry : Registry) {event : Deployment} {hash : String}
    (different : hash ≠ NameTable.hash event.name) :
    (event.apply registry).names.name? hash = registry.names.name? hash := by
  cases event with
  | deploy application => exact NameTable.name?_register_of_ne _ _ different
  | undeploy name => exact NameTable.name?_erase_of_ne _ different

/-! ### Histories -/

namespace History

theorem length_made (history : registry.History record) :
    registry.applications.made.length = record.countP Deployment.deploys := by
  induction history with
  | empty => rfl
  | @deployment registry record history event ih =>
      cases event with
      | deploy application =>
          rw [List.countP_cons_of_pos rfl, ← ih]
          exact List.length_append
      | undeploy name =>
          rw [List.countP_cons_of_neg Bool.noConfusion, ← ih]
          rfl
  | work _ number change ih =>
      rw [← ih]
      exact List.length_modify _ _ _

/-- A name leads to the application deployed last under it, unless that was undeployed. -/
theorem find?_iff (history : registry.History record) :
    registry.find? name = some number ↔
      ∃ application, application.name = name ∧ Current application number record := by
  induction history with
  | empty =>
      refine iff_of_false nofun ?_
      rintro ⟨application, _, current⟩
      cases current
  | @deployment registry record history event ih =>
      by_cases different : event.name ≠ name
      · rw [registry.find?_apply_of_ne different, ih]
        apply exists_congr
        intro application
        apply and_congr_right
        rintro rfl
        exact (Deployment.current_cons_of_ne different).symm
      · obtain rfl := Decidable.not_not.mp different
        cases event with
        | deploy deployed =>
            change (registry.deploy deployed).find? deployed.name = some number ↔ _
            rw [find?_deploy_self, history.length_made, Option.some.injEq]
            constructor
            · intro counted
              exact ⟨deployed, rfl, .deployed counted.symm⟩
            · rintro ⟨application, named, current⟩
              cases current with
              | deployed counted => exact counted.symm
              | kept _ other => exact absurd named.symm other
        | undeploy removed =>
            change (registry.undeploy removed).find? removed = some number ↔ _
            rw [find?_undeploy_self]
            refine iff_of_false nofun ?_
            rintro ⟨application, named, current⟩
            cases current with
            | kept _ other => exact other named.symm
  | work _ number change ih => exact ih

theorem get?_of_current (history : registry.History record) {application : Application}
    (current : Current application number record) :
    ∃ pool, registry.get? number = some { application with pool } := by
  induction history with
  | empty => cases current
  | @deployment registry record history event ih =>
      cases current with
      | deployed counted =>
          rw [← history.length_made] at counted
          subst counted
          exact ⟨application.pool, Catalog.get?_insert _ _ _⟩
      | kept earlier =>
          obtain ⟨pool, found⟩ := ih earlier
          cases event with
          | deploy other => exact ⟨pool, Catalog.get?_insert_of_some _ _ _ found⟩
          | undeploy name => exact ⟨pool, found⟩
  | @work registry record history worked change ih =>
      obtain ⟨pool, found⟩ := ih current
      obtain ⟨present, later, rfl | rfl⟩ := Catalog.get?_modify_of_some registry.applications worked
        (fun application => { application with pool := change application.pool }) found
      · exact ⟨pool, later⟩
      · exact ⟨change pool, later⟩

theorem kept (history : registry.History record) : registry.names.Kept := by
  induction history with
  | empty => exact .empty
  | deployment _ event ih =>
      cases event with
      | deploy application => exact ih.register application.name
      | undeploy name => exact ih.unregister name
  | work _ _ _ ih => exact ih

theorem find?_of_name? (history : registry.History record) {hash : String}
    (known : registry.names.name? hash = some name) :
    ∃ number, registry.find? name = some number := by
  induction history with
  | empty => cases known
  | @deployment registry record history event ih =>
      by_cases same : hash = NameTable.hash event.name
      · subst same
        cases event with
        | deploy application =>
            have registered := registry.names.name?_register_self application.name
            obtain rfl := Option.some.inj (registered.symm.trans known)
            exact ⟨_, registry.find?_deploy_self application⟩
        | undeploy removed =>
            have gone := registry.names.name?_erase_self (NameTable.hash removed)
            cases gone.symm.trans known
      · rw [registry.name?_apply_of_ne same] at known
        have hashed := history.kept.hash_of_name? known
        have different : event.name ≠ name := by
          rintro rfl
          exact same hashed
        rw [registry.find?_apply_of_ne different]
        exact ih known
  | work _ _ _ ih => exact ih known

theorem name?_of_find? {names : Set String} (apart : names.InjOn NameTable.hash)
    (history : registry.History record) (named : ∀ event ∈ record, event.name ∈ names)
    (found : registry.find? name = some number) :
    registry.names.name? (NameTable.hash name) = some name := by
  induction history with
  | empty => cases found
  | @deployment registry record history event ih =>
      obtain ⟨here, earlier⟩ := List.forall_mem_cons.mp named
      by_cases different : event.name ≠ name
      · rw [registry.find?_apply_of_ne different] at found
        obtain ⟨application, rfl, current⟩ := history.find?_iff.mp found
        have member : application.name ∈ names := earlier _ current.mem
        have hashes : NameTable.hash application.name ≠ NameTable.hash event.name :=
          fun same => different (apart member here same).symm
        rw [registry.name?_apply_of_ne hashes]
        exact ih earlier found
      · obtain rfl := Decidable.not_not.mp different
        cases event with
        | deploy application => exact registry.names.name?_register_self application.name
        | undeploy removed => cases (registry.find?_undeploy_self removed).symm.trans found
  | work _ _ _ ih => exact ih named found

end History

/-- The table of names in step with the table of hashes. -/
structure InStep (names : Set String) (record : List Deployment) (registry : Registry) : Prop where
  current : ∀ name number, registry.find? name = some number ↔
    ∃ application, application.name = name ∧ Current application number record
  whole : ∀ application number, Current application number record →
    ∃ pool, registry.get? number = some { application with pool }
  paired : ∀ name, registry.names.name? (NameTable.hash name) = some name ↔
    ∃ number, registry.find? name = some number
  hashed : ∀ entry ∈ registry.names.entries, entry.1 = NameTable.hash entry.2
  undisturbed : ∀ event : Deployment, ∀ name, event.name ≠ name →
    (event.apply registry).find? name = registry.find? name ∧
      (event.name ∈ names → name ∈ names →
        (event.apply registry).names.name? (NameTable.hash name) =
          registry.names.name? (NameTable.hash name))
  resolved : ∀ listeners request identity,
    RouteDecision.decide registry.names listeners request = .ok (.resolved identity) →
    ∃ number application, registry.find? identity.applicationName = some number ∧
      registry.get? number = some application ∧ application.name = identity.applicationName

/-- After any history of deployments over names of which no two have one hash, both tables tell the
same: which applications are deployed, and for whom a hash stands. -/
theorem History.inStep {names : Set String} (apart : names.InjOn NameTable.hash)
    (history : registry.History record) (named : ∀ event ∈ record, event.name ∈ names) :
    registry.InStep names record where
  current _ _ := history.find?_iff
  whole _ _ := history.get?_of_current
  paired name := by
    constructor
    · exact history.find?_of_name?
    · rintro ⟨number, found⟩
      exact history.name?_of_find? apart named found
  hashed := history.kept.hash_of_entry
  undisturbed := by
    intro event name different
    refine ⟨registry.find?_apply_of_ne different, ?_⟩
    intro here there
    exact registry.name?_apply_of_ne fun same => different (apart there here same).symm
  resolved := by
    intro listeners request identity decided
    obtain ⟨hash, known⟩ := RouteDecision.name?_of_resolved decided
    obtain ⟨number, found⟩ := history.find?_of_name? known
    obtain ⟨application, named, current⟩ := history.find?_iff.mp found
    obtain ⟨pool, stored⟩ := history.get?_of_current current
    exact ⟨number, _, found, stored, named⟩

end Registry

namespace Sample

def exchange : Application where
  name := "exchange"
  mode := .session
  pool := .ofSize 4
  correlate _ _ := none

def voicemail : Application where
  name := "voicemail"
  mode := .none
  pool := .ofSize 1
  correlate _ _ := none

/-- An application is replaced, another one is taken away, and so is one that never was. The latest
event comes first. -/
def rollout : List Deployment :=
  [.undeploy "voicemail", .deploy exchange, .undeploy "directory", .deploy voicemail,
    .deploy exchange]

def rolledOut : Registry :=
  rollout.foldr (fun event registry => event.apply registry) {}

theorem rolledOut_history : rolledOut.History rollout := by
  have begun : Registry.History _ _ := .deployment (.deployment .empty (.deploy exchange))
    (.deploy voicemail)
  have replaced : Registry.History _ _ := .deployment (.deployment begun (.undeploy "directory"))
    (.deploy exchange)
  exact .deployment replaced (.undeploy "voicemail")

def services : Set String := {"exchange", "voicemail", "directory"}

theorem services_apart : services.InjOn NameTable.hash := by
  have first : NameTable.hash "exchange" ≠ NameTable.hash "voicemail" := by decide +kernel
  have second : NameTable.hash "exchange" ≠ NameTable.hash "directory" := by decide +kernel
  have third : NameTable.hash "voicemail" ≠ NameTable.hash "directory" := by decide +kernel
  rintro name (rfl | rfl | rfl) other (rfl | rfl | rfl) same
  · rfl
  · exact absurd same first
  · exact absurd same second
  · exact absurd same.symm first
  · rfl
  · exact absurd same third
  · exact absurd same.symm second
  · exact absurd same.symm third
  · rfl

end Sample

theorem Registry.History.inStep_rollout :
    Sample.services.InjOn NameTable.hash ∧ Sample.rolledOut.History Sample.rollout ∧
      (∀ event ∈ Sample.rollout, event.name ∈ Sample.services) ∧
      Sample.rolledOut.find? "exchange" = some 2 ∧
      Sample.rolledOut.names.name? (NameTable.hash "exchange") = some "exchange" ∧
      Sample.rolledOut.names.name? (NameTable.hash "voicemail") ≠ some "voicemail" := by
  have named : ∀ event ∈ Sample.rollout, event.name ∈ Sample.services := by
    simp [Sample.rollout, Sample.services, Deployment.name, Sample.exchange, Sample.voicemail]
  have inStep := Registry.History.inStep Sample.services_apart Sample.rolledOut_history named
  have found : Sample.rolledOut.find? "exchange" = some 2 := by rfl
  have missed : Sample.rolledOut.find? "voicemail" = none := by rfl
  refine ⟨Sample.services_apart, Sample.rolledOut_history, named, found,
    (inStep.paired _).mpr ⟨2, found⟩, ?_⟩
  intro known
  obtain ⟨number, still⟩ := (inStep.paired _).mp known
  cases missed.symm.trans still

end SipContainer

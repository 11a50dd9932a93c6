import SipContainer.Proofs.Session.Instances
/-!
Histories of the session store. The operations on application sessions and those on dialog sessions
are two records of calls, and each of them is answered as by a partial map of instances of its own,
whatever is asked about the sessions of the other kind. Who holds a session that has been taken out of
the store can still make dialog sessions under it.
-/

namespace SipContainer

namespace StoreOperation

def applicationQuery? : StoreOperation → Option (Catalog.Query ApplicationKey)
  | findApplication key => some (.find key)
  | obtainApplication key => some (.obtain key)
  | removeApplication key => some (.remove key)
  | findDialog _ | obtainDialog _ _ | removeDialog _ => none

def dialogQuery? : StoreOperation → Option (Catalog.Query DialogKey)
  | findApplication _ | obtainApplication _ | removeApplication _ => none
  | findDialog key => some (.find key)
  | obtainDialog _ key => some (.obtain key)
  | removeDialog key => some (.remove key)

/-- A dialog session is made under an application session that someone holds. It need not be in the
store. -/
def Held (store : SessionStore) : StoreOperation → Prop
  | obtainDialog application _ => ∃ owning, store.applications.get? application = some owning
  | _ => True

end StoreOperation

structure StoreCall where
  operation : StoreOperation
  answer : Option Nat

namespace StoreCall

def application? (call : StoreCall) : Option (Catalog.Call ApplicationKey) :=
  call.operation.applicationQuery?.map (fun query => ⟨query, call.answer⟩)

def dialog? (call : StoreCall) : Option (Catalog.Call DialogKey) :=
  call.operation.dialogQuery?.map (fun query => ⟨query, call.answer⟩)

def applications (record : List StoreCall) : List (Catalog.Call ApplicationKey) :=
  record.filterMap application?

def dialogs (record : List StoreCall) : List (Catalog.Call DialogKey) :=
  record.filterMap dialog?

end StoreCall

namespace SessionStore

/-- What a store goes through from its beginning, with the record of all calls, the latest first.
Between the calls those who hold sessions do with them what they like. -/
inductive History : SessionStore → List StoreCall → Prop
  | empty : History {} []
  | call {store : SessionStore} {record : List StoreCall} (history : History store record)
      (operation : StoreOperation) (held : operation.Held store) :
      History (operation.apply store).1 (⟨operation, (operation.apply store).2⟩ :: record)
  | adjustment {before after : SessionStore} {record : List StoreCall}
      (history : History before record) (adjustment : before.Adjustment after) :
      History after record

variable {store before after : SessionStore} {record : List StoreCall}

theorem History.reached (history : store.History record) : store.Reached := by
  induction history with
  | empty => exact .empty
  | call _ operation _ reached => exact reached.operation operation
  | adjustment _ adjustment reached => exact reached.adjustment adjustment

theorem find?_obtainDialog (application : Nat) (key : DialogKey) (other : ApplicationKey) :
    (store.obtainDialog application key).1.applications.find? other =
      store.applications.find? other := by
  unfold obtainDialog
  split <;> rfl

theorem find?_removeDialog (key : DialogKey) (other : ApplicationKey) :
    (store.removeDialog key).applications.find? other = store.applications.find? other := by
  unfold removeDialog
  dsimp only
  split <;> rfl

theorem dialogs_obtainApplication (key : ApplicationKey) :
    (store.obtainApplication key).1.dialogs = store.dialogs := by
  unfold obtainApplication
  split <;> rfl

theorem dialogs_apply {operation : StoreOperation} {query : Catalog.Query ApplicationKey}
    (asks : operation.applicationQuery? = some query) :
    (operation.apply store).1.dialogs = store.dialogs := by
  cases operation with
  | findApplication key | removeApplication key => rfl
  | obtainApplication key => exact dialogs_obtainApplication key
  | findDialog | obtainDialog | removeDialog => cases asks

theorem find?_apply {operation : StoreOperation} {query : Catalog.Query DialogKey}
    (asks : operation.dialogQuery? = some query) (key : ApplicationKey) :
    (operation.apply store).1.applications.find? key = store.applications.find? key := by
  cases operation with
  | findApplication | obtainApplication | removeApplication => cases asks
  | findDialog key => rfl
  | obtainDialog application key => exact find?_obtainDialog application key _
  | removeDialog key => exact find?_removeDialog key _

open Catalog (Mirrors)

theorem mirrors_applications (mirrors : Mirrors (StoreCall.applications record) store.applications)
    (operation : StoreOperation) :
    Mirrors (StoreCall.applications (⟨operation, (operation.apply store).2⟩ :: record))
      (operation.apply store).1.applications := by
  cases operation with
  | findApplication key => exact mirrors.find key
  | obtainApplication key =>
      change Mirrors (⟨.obtain key, some (store.obtainApplication key).2⟩ ::
        StoreCall.applications record) (store.obtainApplication key).1.applications
      cases found : store.applications.find? key with
      | some serial =>
          rw [obtainApplication_of_found found]
          exact mirrors.reuse found
      | none =>
          rw [obtainApplication_of_free found]
          exact mirrors.insert _ found
  | removeApplication key => exact mirrors.erase key
  | findDialog key => exact mirrors
  | obtainDialog application key =>
      change Mirrors (StoreCall.applications record)
        (store.obtainDialog application key).1.applications
      unfold obtainDialog
      split
      · exact mirrors
      · exact mirrors
      · exact mirrors.congr rfl (by simp [Catalog.modify])
  | removeDialog key =>
      change Mirrors (StoreCall.applications record) (store.removeDialog key).applications
      unfold removeDialog
      dsimp only
      split
      · exact mirrors.congr rfl (by simp [Catalog.modify])
      · exact mirrors

theorem mirrors_dialogs (mirrors : Mirrors (StoreCall.dialogs record) store.dialogs)
    {operation : StoreOperation} (held : operation.Held store) :
    Mirrors (StoreCall.dialogs (⟨operation, (operation.apply store).2⟩ :: record))
      (operation.apply store).1.dialogs := by
  cases operation with
  | findApplication key | removeApplication key => exact mirrors
  | obtainApplication key =>
      change Mirrors (StoreCall.dialogs record) (store.obtainApplication key).1.dialogs
      rw [dialogs_obtainApplication]
      exact mirrors
  | findDialog key => exact mirrors.find key
  | obtainDialog application key =>
      obtain ⟨owning, present⟩ := held
      change Mirrors (⟨.obtain key, (store.obtainDialog application key).2⟩ ::
        StoreCall.dialogs record) (store.obtainDialog application key).1.dialogs
      cases found : store.dialogs.find? key with
      | some serial =>
          rw [obtainDialog_of_found found]
          exact mirrors.reuse found
      | none =>
          rw [obtainDialog_of_free found present]
          exact mirrors.insert _ found
  | removeDialog key => exact mirrors.erase key

theorem History.applications (history : store.History record) :
    Mirrors (StoreCall.applications record) store.applications := by
  induction history with
  | empty => exact .empty
  | call _ operation _ mirrors => exact mirrors_applications mirrors operation
  | adjustment _ adjustment mirrors =>
      obtain ⟨made, lists⟩ := adjustment.lists
      have lengths := congrArg List.length lists
      simp only [List.length_map, List.length_append] at lengths
      exact mirrors.congr adjustment.applications (by omega)

theorem History.dialogs (history : store.History record) :
    Mirrors (StoreCall.dialogs record) store.dialogs := by
  induction history with
  | empty => exact .empty
  | call _ operation held mirrors => exact mirrors_dialogs mirrors held
  | adjustment _ adjustment mirrors =>
      have lengths := congrArg List.length adjustment.owners
      simp only [List.length_map] at lengths
      exact mirrors.congr adjustment.dialogs (by omega)

/-- A store as two partial maps of instances that know nothing of one another. -/
structure Refinement (store : SessionStore) (record : List StoreCall) : Prop where
  applications : store.applications.Implements ApplicationSession.key (StoreCall.applications record)
  dialogs : store.dialogs.Implements DialogSession.key (StoreCall.dialogs record)
  apart : ∀ operation : StoreOperation,
    (∀ query key, operation.applicationQuery? = some query →
      (operation.apply store).1.dialogs.find? key = store.dialogs.find? key) ∧
    ∀ query key, operation.dialogQuery? = some query →
      (operation.apply store).1.applications.find? key = store.applications.find? key
  madeApplication : ∀ key, store.applications.find? key = none →
    ∃ serial, ((StoreOperation.obtainApplication key).apply store).2 = some serial ∧
      store.applications.get? serial = none ∧
      ((StoreOperation.obtainApplication key).apply store).1.applications.get? serial = some { key }
  madeDialog : ∀ application owning key, store.applications.get? application = some owning →
    store.dialogs.find? key = none →
    ∃ serial, ((StoreOperation.obtainDialog application key).apply store).2 = some serial ∧
      store.dialogs.get? serial = none ∧
      ((StoreOperation.obtainDialog application key).apply store).1.dialogs.get? serial =
        some { key, owner := owning.key }
  settled : ∀ application key serial, store.dialogs.find? key = some serial →
    (StoreOperation.obtainDialog application key).apply store = (store, some serial)

/-- After any history every call has been answered as two separate maps of instances answer, and the
next ones will be. -/
theorem History.refinement (history : store.History record) : store.Refinement record where
  applications := history.applications.implements history.reached.anchored.applications
  dialogs := history.dialogs.implements history.reached.anchored.dialogs
  apart operation := by
    constructor
    · intro query key asks
      rw [dialogs_apply asks]
    · intro query key asks
      exact find?_apply asks key
  madeApplication key free := by
    refine ⟨store.applications.made.length, ?_, Catalog.get?_length _, ?_⟩
    · change some (store.obtainApplication key).2 = _
      rw [obtainApplication_of_free free]
      rfl
    · change (store.obtainApplication key).1.applications.get? _ = _
      rw [obtainApplication_of_free free]
      exact store.applications.get?_insert key _
  madeDialog application owning key present free := by
    refine ⟨store.dialogs.made.length, ?_, Catalog.get?_length _, ?_⟩
    · change (store.obtainDialog application key).2 = _
      rw [obtainDialog_of_free free present]
      rfl
    · change (store.obtainDialog application key).1.dialogs.get? _ = _
      rw [obtainDialog_of_free free present]
      exact store.dialogs.get?_insert key _
  settled application key serial found := obtainDialog_of_found found application

end SessionStore

namespace Sample

def renewalCalls : List StoreCall :=
  [⟨.removeDialog (guest "a"), some 0⟩, ⟨.obtainDialog 1 (guest "c"), some 2⟩,
    ⟨.obtainDialog 0 (guest "b"), some 1⟩, ⟨.obtainApplication (room "conference"), some 1⟩,
    ⟨.removeApplication (room "conference"), some 0⟩, ⟨.obtainDialog 0 (guest "a"), some 0⟩,
    ⟨.obtainApplication (room "conference"), some 0⟩]

def reopened : SessionStore :=
  (renewal.take 5).foldl (fun store operation => (operation.apply store).1) {}

def renewed : SessionStore :=
  renewal.foldl (fun store operation => (operation.apply store).1) {}

theorem reopened_history : reopened.History (renewalCalls.drop 2) := by
  have opened : SessionStore.History _ _ :=
    .call (.call .empty (.obtainApplication (room "conference")) trivial)
      (.obtainDialog 0 (guest "a")) ⟨_, rfl⟩
  have closed : SessionStore.History _ _ :=
    .call opened (.removeApplication (room "conference")) trivial
  exact .call (.call closed (.obtainApplication (room "conference")) trivial)
    (.obtainDialog 0 (guest "b")) ⟨_, rfl⟩

theorem renewed_history : renewed.History renewalCalls :=
  .call (.call reopened_history (.obtainDialog 1 (guest "c")) ⟨_, rfl⟩)
    (.removeDialog (guest "a")) trivial

end Sample

namespace SessionStore

theorem History.refinement_renewed :
    Sample.renewed.History Sample.renewalCalls ∧ Sample.renewed.Refinement Sample.renewalCalls ∧
      (∀ key, Sample.renewed.applications.find? key ≠ some 0) ∧
      Sample.renewed.dialogs.keys = [Sample.guest "b", Sample.guest "c"] := by
  have refinement := History.refinement Sample.renewed_history
  have removed : StoreCall.applications Sample.renewalCalls =
      [⟨.obtain (Sample.room "conference"), some 1⟩] ++
        ⟨.remove (Sample.room "conference"), some 0⟩ ::
          [⟨.obtain (Sample.room "conference"), some 0⟩] := by
    rfl
  exact ⟨Sample.renewed_history, refinement, (refinement.applications.buried _ _ _ _ removed).2, rfl⟩

end SessionStore

end SipContainer

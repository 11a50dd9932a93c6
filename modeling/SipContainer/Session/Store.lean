import SipContainer.Session.Catalog
import SipContainer.Session.Dialog
import SipContainer.Session.Key
/-!
The sessions of the container. A dialog session belongs to the application session under which it
was made, and an application session lists the keys of its dialog sessions. Sessions taken out of
the store live on for those who hold them.
-/

namespace SipContainer

inductive Validity
  | valid | invalidated | expired
deriving DecidableEq, Repr

namespace Validity

def all : List Validity := [valid, invalidated, expired]

def word : Validity → String
  | valid => "valid"
  | invalidated => "invalidated"
  | expired => "expired"

end Validity

structure ApplicationSession where
  key : ApplicationKey
  validity : Validity := .valid
  dialogKeys : List DialogKey := []
deriving DecidableEq, Repr

/-- A dialog session: its key, the key of its application session, the dialog, and the number of
the proxy through which it runs, if any. -/
structure DialogSession where
  key : DialogKey
  owner : ApplicationKey
  dialog : Dialog := {}
  proxy : Option Nat := none
deriving DecidableEq, Repr

structure SessionStore where
  applications : Catalog ApplicationKey ApplicationSession := {}
  dialogs : Catalog DialogKey DialogSession := {}

namespace SessionStore

def obtainApplication (store : SessionStore) (key : ApplicationKey) : SessionStore × Nat :=
  match store.applications.find? key with
  | some serial => (store, serial)
  | none =>
    let (applications, serial) := store.applications.insert key { key }
    ({ store with applications }, serial)

def removeApplication (store : SessionStore) (key : ApplicationKey) : SessionStore :=
  { store with applications := store.applications.erase key }

def own (application : ApplicationSession) (key : DialogKey) : ApplicationSession :=
  if application.dialogKeys.contains key then application
  else { application with dialogKeys := application.dialogKeys ++ [key] }

def disown (application : ApplicationSession) (key : DialogKey) : ApplicationSession :=
  { application with dialogKeys := application.dialogKeys.filter (· ≠ key) }

def obtainDialog (store : SessionStore) (application : Nat) (key : DialogKey) :
    SessionStore × Option Nat :=
  match store.dialogs.find? key, store.applications.get? application with
  | some serial, _ => (store, some serial)
  | none, none => (store, none)
  | none, some session =>
    let (dialogs, serial) := store.dialogs.insert key { key, owner := session.key }
    ({ applications := store.applications.modify application (own · key), dialogs }, some serial)

theorem obtainApplication_of_found {store : SessionStore} {key : ApplicationKey} {serial : Nat}
    (found : store.applications.find? key = some serial) :
    store.obtainApplication key = (store, serial) := by
  rw [obtainApplication, found]

theorem obtainApplication_of_free {store : SessionStore} {key : ApplicationKey}
    (free : store.applications.find? key = none) :
    store.obtainApplication key =
      ({ store with applications := (store.applications.insert key { key }).1 },
        (store.applications.insert key { key }).2) := by
  rw [obtainApplication, free]

theorem obtainDialog_of_found {store : SessionStore} {key : DialogKey} {serial : Nat}
    (found : store.dialogs.find? key = some serial) (application : Nat) :
    store.obtainDialog application key = (store, some serial) := by
  rw [obtainDialog, found]

theorem obtainDialog_of_free {store : SessionStore} {key : DialogKey} {application : Nat}
    {session : ApplicationSession} (free : store.dialogs.find? key = none)
    (held : store.applications.get? application = some session) :
    store.obtainDialog application key =
      ({ applications := store.applications.modify application (own · key)
         dialogs := (store.dialogs.insert key { key, owner := session.key }).1 },
        some (store.dialogs.insert key { key, owner := session.key }).2) := by
  rw [obtainDialog, free, held]

/-- A store without the dialog session under a key. The application session that is now kept under
the key of its owner no longer lists it. -/
def removeDialog (store : SessionStore) (key : DialogKey) : SessionStore :=
  let owner := do
    let serial ← store.dialogs.find? key
    let session ← store.dialogs.get? serial
    store.applications.find? session.owner
  let applications := match owner with
    | some application => store.applications.modify application (disown · key)
    | none => store.applications
  { applications, dialogs := store.dialogs.erase key }

def dialogKeysOf (store : SessionStore) (application : Nat) : List DialogKey :=
  ((store.applications.get? application).map ApplicationSession.dialogKeys).getD []

def dialogsOf (store : SessionStore) (application : Nat) : List Nat :=
  (store.dialogKeysOf application).filterMap store.dialogs.find?

theorem dialogsOf_of_held {store : SessionStore} {application : Nat}
    {session : ApplicationSession} (held : store.applications.get? application = some session) :
    store.dialogsOf application = session.dialogKeys.filterMap store.dialogs.find? := by
  rw [dialogsOf, dialogKeysOf, held]
  rfl

def modifyDialog (store : SessionStore) (serial : Nat) (change : Dialog → Dialog) :
    SessionStore :=
  let changed (session : DialogSession) := { session with dialog := change session.dialog }
  { store with dialogs := store.dialogs.modify serial changed }

theorem get?_modifyDialog_self (store : SessionStore) (serial : Nat) (change : Dialog → Dialog) :
    (store.modifyDialog serial change).dialogs.get? serial =
      (store.dialogs.get? serial).map (fun session =>
        { session with dialog := change session.dialog }) := by
  simp [modifyDialog, Catalog.get?, Catalog.modify]

theorem get?_modifyDialog_of_ne (store : SessionStore) {serial other : Nat}
    (change : Dialog → Dialog) (different : other ≠ serial) :
    (store.modifyDialog serial change).dialogs.get? other = store.dialogs.get? other := by
  simp [modifyDialog, Catalog.get?, Catalog.modify, different.symm]

theorem modifyDialog_congr (store : SessionStore) {serial : Nat} {session : DialogSession}
    {change other : Dialog → Dialog} (stored : store.dialogs.get? serial = some session)
    (same : change session.dialog = other session.dialog) :
    store.modifyDialog serial change = store.modifyDialog serial other := by
  have made : store.dialogs.made.modify serial (fun session : DialogSession =>
      { session with dialog := change session.dialog }) =
        store.dialogs.made.modify serial (fun session : DialogSession =>
          { session with dialog := other session.dialog }) := by
    apply List.ext_getElem?
    intro place
    rw [List.getElem?_modify, List.getElem?_modify]
    by_cases here : serial = place
    · subst here
      rw [show store.dialogs.made[serial]? = some session from stored]
      simp [same]
    · simp only [if_neg here]
  unfold modifyDialog Catalog.modify
  exact congrArg (fun made => { store with dialogs := { store.dialogs with made } }) made

@[simp] theorem modifyDialog_id (store : SessionStore) (serial : Nat) :
    store.modifyDialog serial id = store := by
  have same : store.dialogs.made.modify serial id = store.dialogs.made := List.modify_id _ _
  change { store with dialogs := { store.dialogs with made := store.dialogs.made.modify serial id } }
    = store
  rw [same]

end SessionStore

end SipContainer

import SipContainer.Routing.Resolution
import SipContainer.Session.Operation
/-!
Which application session a dialog session belongs to. A dialog session is made in the name of an
application session, and its key says in whose. A search finds the two apart from each other: the
application session by the identity or by a relation that the application knows of, the dialog
session under the identifier of the former and the application name of the identity. They belong
together exactly when that name is also the name in the key of the application session; a relation
that leads to a session of another application can bring a stranger's dialog along.
-/

namespace SipContainer

namespace Catalog

variable {K V : Type}

theorem get?_insert_of_some (catalog : Catalog K V) (key : K) (object : V) {serial : Nat}
    {present : V} (found : catalog.get? serial = some present) :
    (catalog.insert key object).1.get? serial = some present := by
  have early := (List.getElem?_eq_some_iff.mp found).1
  change (catalog.made ++ [object])[serial]? = some present
  rw [List.getElem?_append_left early]
  exact found

theorem get?_insert_cases (catalog : Catalog K V) (key : K) (object : V) {serial : Nat}
    {present : V} (found : (catalog.insert key object).1.get? serial = some present) :
    catalog.get? serial = some present ∨
      serial = (catalog.insert key object).2 ∧ present = object := by
  change (catalog.made ++ [object])[serial]? = some present at found
  rw [List.getElem?_append] at found
  split at found
  · exact Or.inl found
  · rw [List.getElem?_singleton] at found
    split at found
    · rename_i late last
      have place : serial = catalog.made.length := by omega
      exact Or.inr ⟨place, (Option.some.inj found).symm⟩
    · cases found

theorem get?_modify_of_some (catalog : Catalog K V) (serial : Nat) (change : V → V)
    {other : Nat} {before : V} (stored : catalog.get? other = some before) :
    ∃ present, (catalog.modify serial change).get? other = some present ∧
      (present = before ∨ present = change before) := by
  change ∃ present, (catalog.made.modify serial change)[other]? = some present ∧ _
  rw [List.getElem?_modify, show catalog.made[other]? = some before from stored]
  split
  · exact ⟨change before, rfl, Or.inr rfl⟩
  · exact ⟨before, rfl, Or.inl rfl⟩

theorem get?_modify_view {A : Type} {view : V → A} (catalog : Catalog K V) (serial : Nat)
    {change : V → V} (keeps : ∀ object, view (change object) = view object) {other : Nat}
    {before : V} (stored : catalog.get? other = some before) :
    ∃ present, (catalog.modify serial change).get? other = some present ∧
      view present = view before := by
  obtain ⟨present, later, rfl | rfl⟩ := get?_modify_of_some catalog serial change stored
  · exact ⟨present, later, rfl⟩
  · exact ⟨_, later, keeps before⟩

theorem get?_of_map_eq {A : Type} {left right : Catalog K V} {view : V → A}
    (same : left.made.map view = right.made.map view) {serial : Nat} {object : V}
    (found : right.get? serial = some object) :
    ∃ other, left.get? serial = some other ∧ view other = view object := by
  have viewed : (left.made.map view)[serial]? = some (view object) := by
    rw [same, List.getElem?_map, show right.made[serial]? = some object from found]
    rfl
  rw [List.getElem?_map] at viewed
  exact Option.map_eq_some_iff.mp viewed

variable [DecidableEq K]

theorem find?_congr {left right : Catalog K V} (kept : left.kept = right.kept) (key : K) :
    left.find? key = right.find? key := by
  unfold find?
  rw [kept]

def Filed (keyOf : V → K) (catalog : Catalog K V) : Prop :=
  ∀ key serial, catalog.find? key = some serial →
    ∃ object, catalog.get? serial = some object ∧ keyOf object = key

variable {keyOf : V → K} {catalog : Catalog K V}

theorem Filed.empty (keyOf : V → K) : Filed keyOf ({} : Catalog K V) := by
  intro key serial found
  cases found

theorem Filed.insert (filed : catalog.Filed keyOf) (object : V)
    (free : catalog.find? (keyOf object) = none) :
    (catalog.insert (keyOf object) object).1.Filed keyOf := by
  intro key serial found
  by_cases same : key = keyOf object
  · subst same
    rw [find?_insert_self catalog _ object free] at found
    obtain rfl := Option.some.inj found
    exact ⟨object, get?_insert catalog _ object, rfl⟩
  · rw [find?_insert_of_ne catalog object same] at found
    obtain ⟨present, stored, carries⟩ := filed key serial found
    exact ⟨present, get?_insert_of_some catalog _ object stored, carries⟩

theorem Filed.erase (filed : catalog.Filed keyOf) (key : K) : (catalog.erase key).Filed keyOf := by
  intro other serial found
  by_cases same : other = key
  · subst same
    rw [find?_erase_self] at found
    cases found
  · rw [find?_erase_of_ne catalog same] at found
    exact filed other serial found

theorem Filed.modify (filed : catalog.Filed keyOf) (serial : Nat) {change : V → V}
    (keeps : ∀ object, keyOf (change object) = keyOf object) :
    (catalog.modify serial change).Filed keyOf := by
  intro key other found
  rw [find?_modify] at found
  obtain ⟨before, stored, carries⟩ := filed key other found
  obtain ⟨present, after, same⟩ := catalog.get?_modify_view serial keeps stored
  exact ⟨present, after, same.trans carries⟩

theorem Filed.congr {later : Catalog K V} (filed : catalog.Filed keyOf)
    (kept : later.kept = catalog.kept)
    (present : ∀ {serial object}, catalog.get? serial = some object →
      ∃ other, later.get? serial = some other ∧ keyOf other = keyOf object) :
    later.Filed keyOf := by
  intro key serial found
  rw [find?_congr kept] at found
  obtain ⟨object, stored, carries⟩ := filed key serial found
  obtain ⟨other, after, same⟩ := present stored
  exact ⟨other, after, same.trans carries⟩

end Catalog

/-! ### Stores and how they come about -/

/-- The application session in whose name a dialog key was made. -/
def DialogKey.scope (key : DialogKey) : ApplicationKey where
  callId := key.applicationSessionId
  applicationName := key.applicationName

theorem DialogKey.scope_of_ofRequest {sessionId applicationName : String} {request : Request}
    {polarity : Polarity} {key : DialogKey}
    (made : ofRequest sessionId applicationName request polarity = .ok key) :
    key.scope = { callId := sessionId, applicationName } := by
  unfold ofRequest at made
  split at made
  · cases made
  · obtain rfl := Except.ok.inj made
    rfl

theorem ApplicationKey.eq_of_create {applicationName callId : String} {key : ApplicationKey}
    (made : create applicationName callId = .ok key) : key = { callId, applicationName } := by
  unfold create at made
  split at made
  · cases made
  · split at made
    · cases made
    · exact (Except.ok.inj made).symm

/-- A dialog session is asked for under the key that a request has, seen from one side or the other,
in the name of the application session that shall own it. -/
def StoreOperation.Regular (store : SessionStore) : StoreOperation → Prop
  | obtainDialog application key => ∃ owning request polarity,
      store.applications.get? application = some owning ∧
        DialogKey.ofRequest owning.key.id owning.key.applicationName request polarity = .ok key
  | _ => True

/-- What those who hold sessions may do to them: all but give them other keys or another owner. -/
structure SessionStore.Revision (before after : SessionStore) : Prop where
  applications : after.applications.kept = before.applications.kept
  applicationKeys : after.applications.made.map ApplicationSession.key =
    before.applications.made.map ApplicationSession.key
  dialogs : after.dialogs.kept = before.dialogs.kept
  dialogKeys : after.dialogs.made.map (fun session => (session.key, session.owner)) =
    before.dialogs.made.map (fun session => (session.key, session.owner))

/-- The stores that regular operations lead to, whatever is done to the sessions in between. -/
inductive SessionStore.Grown : SessionStore → Prop
  | empty : Grown {}
  | operation {store : SessionStore} (operation : StoreOperation) (grown : Grown store)
      (regular : operation.Regular store) : Grown (operation.apply store).1
  | revision {before after : SessionStore} (grown : Grown before)
      (revision : before.Revision after) : Grown after

namespace SessionStore

/-- Sessions are kept under their own keys, and a dialog session belongs to the application session
in whose name its key was made. -/
structure Rooted (store : SessionStore) : Prop where
  applications : store.applications.Filed ApplicationSession.key
  dialogs : store.dialogs.Filed DialogSession.key
  owner : ∀ {serial session}, store.dialogs.get? serial = some session →
    session.owner = session.key.scope

variable {store before after : SessionStore}

theorem Rooted.empty : Rooted {} where
  applications := .empty _
  dialogs := .empty _
  owner := by
    intro serial session found
    cases found

theorem key_own (application : ApplicationSession) (key : DialogKey) :
    (own application key).key = application.key := by
  unfold own
  split <;> rfl

theorem Rooted.obtainApplication (rooted : store.Rooted) (key : ApplicationKey) :
    (store.obtainApplication key).1.Rooted := by
  unfold SessionStore.obtainApplication
  split
  · exact rooted
  · rename_i free
    have filed := rooted.applications.insert { key } free
    exact ⟨filed, rooted.dialogs, rooted.owner⟩

theorem Rooted.obtainDialog (rooted : store.Rooted) {application : Nat} {key : DialogKey}
    (regular : (StoreOperation.obtainDialog application key).Regular store) :
    (store.obtainDialog application key).1.Rooted := by
  obtain ⟨owning, request, polarity, held, made⟩ := regular
  unfold SessionStore.obtainDialog
  cases kept : store.dialogs.find? key with
  | some serial => exact rooted
  | none =>
      rw [held]
      let fresh : DialogSession := { key, owner := owning.key }
      have filed := rooted.dialogs.insert fresh kept
      refine ⟨rooted.applications.modify application (key_own · key), filed, ?_⟩
      intro serial session found
      rcases store.dialogs.get?_insert_cases key fresh found with old | ⟨-, rfl⟩
      · exact rooted.owner old
      · exact (DialogKey.scope_of_ofRequest made).symm

theorem Rooted.removeDialog (rooted : store.Rooted) (key : DialogKey) :
    (store.removeDialog key).Rooted := by
  refine ⟨?_, rooted.dialogs.erase key, rooted.owner⟩
  unfold SessionStore.removeDialog
  simp only
  split
  · exact rooted.applications.modify _ (fun _ => rfl)
  · exact rooted.applications

theorem Rooted.apply (rooted : store.Rooted) {operation : StoreOperation}
    (regular : operation.Regular store) : (operation.apply store).1.Rooted := by
  cases operation with
  | findApplication | findDialog => exact rooted
  | obtainApplication key => exact rooted.obtainApplication key
  | removeApplication key => exact ⟨rooted.applications.erase key, rooted.dialogs, rooted.owner⟩
  | obtainDialog => exact rooted.obtainDialog regular
  | removeDialog key => exact rooted.removeDialog key

theorem Rooted.revision (rooted : before.Rooted) (revision : before.Revision after) :
    after.Rooted where
  applications := rooted.applications.congr revision.applications
    (fun stored => Catalog.get?_of_map_eq revision.applicationKeys stored)
  dialogs := by
    apply rooted.dialogs.congr revision.dialogs
    intro serial session stored
    obtain ⟨other, present, same⟩ := Catalog.get?_of_map_eq revision.dialogKeys stored
    exact ⟨other, present, (Prod.mk.inj same).1⟩
  owner := by
    intro serial session found
    obtain ⟨old, stored, same⟩ := Catalog.get?_of_map_eq revision.dialogKeys.symm found
    obtain ⟨key, owner⟩ := Prod.mk.inj same
    rw [← key, ← owner]
    exact rooted.owner stored

theorem Grown.rooted (grown : store.Grown) : store.Rooted := by
  induction grown with
  | empty => exact .empty
  | operation _ _ regular rooted => exact rooted.apply regular
  | revision _ revision rooted => exact rooted.revision revision

/-! ### What a search finds -/

variable {application : Application} {identity : RouteIdentity} {request : Request}

/-- The application session of a search has the key that the identity names, or one that the
application related to it. -/
def Related (application : Application) (identity : RouteIdentity) (key : ApplicationKey) : Prop :=
  let named : ApplicationKey :=
    { callId := identity.applicationId, applicationName := identity.applicationName }
  key = named ∨ ∃ kind, application.correlate named kind = some key

theorem correlated_eq_ok {key : ApplicationKey} {kinds : List Correlation} {serial : Nat}
    (found : (store.correlated application key kinds).answer = .ok serial) :
    ∃ kind related, application.correlate key kind = some related ∧
      store.applications.find? related = some serial := by
  induction kinds with
  | nil => cases found
  | cons kind rest ih =>
      unfold correlated at found
      split at found
      · rename_i other answered
        obtain rfl := Except.ok.inj found
        obtain ⟨related, named, kept⟩ := Option.bind_eq_some_iff.mp answered
        exact ⟨kind, related, named, kept⟩
      · exact ih found

theorem resolveApplication_eq_ok {serial : Nat}
    (found : (store.resolveApplication application identity).answer = .ok serial) :
    ∃ key, Related application identity key ∧ store.applications.find? key = some serial := by
  unfold resolveApplication at found
  split at found
  · cases found
  · rename_i key made
    obtain rfl := ApplicationKey.eq_of_create made
    split at found
    · rename_i other kept
      obtain rfl := Except.ok.inj found
      exact ⟨_, Or.inl rfl, kept⟩
    · obtain ⟨kind, related, named, kept⟩ := correlated_eq_ok found
      exact ⟨related, Or.inr ⟨kind, named⟩, kept⟩

theorem resolveDialogFrom_eq_ok {sessionId applicationName last : String}
    {polarities : List Polarity} {serial : Nat} {key : DialogKey} {polarity : Polarity}
    (found : store.resolveDialogFrom sessionId applicationName request last polarities =
      .ok (serial, key, polarity)) :
    key.scope = { callId := sessionId, applicationName } ∧
      store.dialogs.find? key = some serial := by
  induction polarities generalizing last with
  | nil => cases found
  | cons first rest ih =>
      unfold resolveDialogFrom at found
      split at found
      · cases found
      · rename_i other made
        split at found
        · rename_i kept
          obtain ⟨rfl, rfl, rfl⟩ := Except.ok.inj found
          exact ⟨DialogKey.scope_of_ofRequest made, kept⟩
        · exact ih found

theorem resolve_eq_ok {resolution : Resolution}
    (found : (store.resolve application identity request).answer = .ok resolution) :
    (store.resolveApplication application identity).answer = .ok resolution.applicationSession ∧
      store.resolveDialog (store.applicationId resolution.applicationSession)
          identity.applicationName request =
        .ok (resolution.dialogSession, resolution.key, resolution.polarity) := by
  unfold resolve at found
  simp only [Bind.bind, Except.bind] at found
  split at found
  · cases found
  · rename_i serial first
    split at found
    · cases found
    · rename_i parts second
      obtain rfl := Except.ok.inj found
      exact ⟨first, second⟩

structure Together (store : SessionStore) (application : Application) (identity : RouteIdentity)
    (owning : ApplicationSession) (session : DialogSession) : Prop where
  related : Related application identity owning.key
  owner : session.owner =
    { callId := owning.key.id, applicationName := identity.applicationName }
  belongs : session.owner = owning.key ↔ owning.key.applicationName = identity.applicationName
  loyal : (∀ kind key, application.correlate
      { callId := identity.applicationId, applicationName := identity.applicationName } kind =
        some key → key.applicationName = identity.applicationName) →
    session.owner = owning.key

theorem Related.applicationName {key : ApplicationKey} (related : Related application identity key)
    (loyal : ∀ kind key, application.correlate
      { callId := identity.applicationId, applicationName := identity.applicationName } kind =
        some key → key.applicationName = identity.applicationName) :
    key.applicationName = identity.applicationName := by
  rcases related with rfl | ⟨kind, named⟩
  · rfl
  · exact loyal kind key named

/-- A search on a store that regular operations have led to. What it comes to belongs together
exactly when the application session is one of the application that the identity names. -/
theorem Grown.owner_of_resolved (grown : store.Grown) {resolution : Resolution}
    (found : (store.resolve application identity request).answer = .ok resolution) :
    ∃ owning session, store.applications.get? resolution.applicationSession = some owning ∧
      store.dialogs.get? resolution.dialogSession = some session ∧
      store.Together application identity owning session := by
  have rooted := grown.rooted
  obtain ⟨first, second⟩ := resolve_eq_ok found
  obtain ⟨key, related, kept⟩ := resolveApplication_eq_ok first
  obtain ⟨owning, held, rfl⟩ := rooted.applications key _ kept
  obtain ⟨scope, keptDialog⟩ := resolveDialogFrom_eq_ok second
  obtain ⟨session, stored, carries⟩ := rooted.dialogs _ _ keptDialog
  have named : store.applicationId resolution.applicationSession = owning.key.id := by
    simp only [applicationId, held, Option.map_some, Option.getD_some]
  have owner : session.owner =
      { callId := owning.key.id, applicationName := identity.applicationName } := by
    rw [rooted.owner stored, carries, scope, named]
  have belongs : session.owner = owning.key ↔
      owning.key.applicationName = identity.applicationName := by
    constructor
    · intro same
      rw [← same, owner]
    · intro same
      rw [owner, ← same]
      rfl
  exact ⟨owning, session, held, stored, related, owner, belongs,
    fun loyal => belongs.mpr (related.applicationName loyal)⟩

end SessionStore

namespace Sample

def enquiry : Request where
  method := .info
  target := { host := "room" }
  sender := { uri := { host := "alice" }, tag := some "a" }
  recipient := { uri := { host := "room" }, tag := some "b" }
  callId := "call"
  sequence := 2
  transport := .udp
  route := none
  role := none
  subscription := none
  event := none
  transaction := .generated 0

def room (applicationName : String) : ApplicationKey where
  callId := "1"
  applicationName

def roomDialog : DialogKey where
  localAddress := "sip:alice"
  localTag := some "a"
  remoteAddress := "sip:room"
  callId := "call"
  applicationName := "conference"
  applicationSessionId := "1"

def rooms : SessionStore :=
  [StoreOperation.obtainApplication (room "conference"), .obtainDialog 0 roomDialog,
    .obtainApplication (room "billing")].foldl (fun store operation => (operation.apply store).1) {}

/-- A conference that relates every application session to the room of some application. -/
def relating (applicationName : String) : Application where
  name := "conference"
  mode := .applicationSession
  pool := Pool.ofSize 1
  correlate := fun _ _ => some (room applicationName)

theorem rooms_grown : rooms.Grown := by
  have begun : SessionStore.Grown _ :=
    .operation (.obtainApplication (room "conference")) .empty trivial
  have regular : (StoreOperation.obtainDialog 0 roomDialog).Regular
      ((StoreOperation.obtainApplication (room "conference")).apply {}).1 :=
    ⟨{ key := room "conference" }, enquiry, .normal, rfl, rfl⟩
  exact .operation (.obtainApplication (room "billing")) (.operation _ begun regular) trivial

end Sample

namespace SessionStore

theorem Grown.owner_of_resolved_relatedRoom :
    let identity : RouteIdentity := { applicationName := "conference", applicationId := "gone" }
    let resolution : Resolution :=
      { applicationSession := 0, dialogSession := 0, key := Sample.roomDialog, polarity := .normal }
    Sample.rooms.Grown ∧
      (Sample.rooms.resolve (Sample.relating "conference") identity Sample.enquiry).answer =
        .ok resolution ∧
      ∃ owning session, Sample.rooms.applications.get? 0 = some owning ∧
        Sample.rooms.dialogs.get? 0 = some session ∧ session.owner = owning.key := by
  intro identity resolution
  have resolved : (Sample.rooms.resolve (Sample.relating "conference") identity
      Sample.enquiry).answer = .ok resolution := by
    rfl
  obtain ⟨owning, session, held, stored, together⟩ :=
    Grown.owner_of_resolved Sample.rooms_grown resolved
  refine ⟨Sample.rooms_grown, resolved, owning, session, held, stored, together.loyal ?_⟩
  intro kind key named
  obtain rfl := Option.some.inj named
  rfl

end SessionStore

/-- The application session found is that of another application, and the dialog found beside it
belongs to a session that was not even asked about. -/
theorem Sample.dialog_of_stranger :
    let identity : RouteIdentity := { applicationName := "conference", applicationId := "gone" }
    let search := rooms.resolve (relating "billing") identity enquiry
    let resolution : Resolution :=
      { applicationSession := 1, dialogSession := 0, key := roomDialog, polarity := .normal }
    rooms.Grown ∧ search.answer = .ok resolution ∧
      (rooms.applications.get? 1).map ApplicationSession.key = some (room "billing") ∧
      (rooms.dialogs.get? 0).map DialogSession.owner = some (room "conference") ∧
      room "conference" ≠ room "billing" := by
  intro identity search resolution
  exact ⟨rooms_grown, rfl, rfl, rfl, by decide⟩

end SipContainer

import Mathlib.Data.List.Nodup
import SipContainer.Proofs.Session.Ownership
/-!
What an application session lists as its own. Dialog sessions are made under whatever application
session someone still holds, and one that is removed is taken off the list of the session that is now
kept under the key of its owner, which need not be the session it was made under. All the same no
application session in the store lists a key that leads nowhere, or to a dialog session of another:
sessions that hold on to stale keys have been taken out of the store, and do not come back.
-/

namespace SipContainer

namespace Catalog

variable {K V : Type} [DecidableEq K] {keyOf : V → K} {catalog : Catalog K V}

structure Holds (keyOf : V → K) (catalog : Catalog K V) (serial : Nat) (object : V) : Prop where
  kept : catalog.find? (keyOf object) = some serial
  made : catalog.get? serial = some object

theorem Filed.holds (filed : catalog.Filed keyOf) {key : K} {serial : Nat}
    (found : catalog.find? key = some serial) :
    ∃ object, catalog.Holds keyOf serial object ∧ keyOf object = key := by
  obtain ⟨object, made, same⟩ := filed key serial found
  exact ⟨object, ⟨same ▸ found, made⟩, same⟩

namespace Holds

variable {serial : Nat} {object : V}

theorem insert (holds : catalog.Holds keyOf serial object) {fresh : V}
    (free : catalog.find? (keyOf fresh) = none) :
    (catalog.insert (keyOf fresh) fresh).1.Holds keyOf serial object where
  kept := by
    have different : keyOf object ≠ keyOf fresh := by
      intro same
      rw [← same, holds.kept] at free
      cases free
    rw [find?_insert_of_ne catalog fresh different, holds.kept]
  made := get?_insert_of_some catalog _ fresh holds.made

theorem of_insert (fresh : V) (free : catalog.find? (keyOf fresh) = none)
    (holds : (catalog.insert (keyOf fresh) fresh).1.Holds keyOf serial object) :
    catalog.Holds keyOf serial object ∨
      serial = (catalog.insert (keyOf fresh) fresh).2 ∧ object = fresh := by
  have kept := holds.kept
  by_cases same : keyOf object = keyOf fresh
  · right
    rw [same, find?_insert_self catalog _ fresh free] at kept
    obtain rfl := Option.some.inj kept
    have made := holds.made
    rw [get?_insert] at made
    exact ⟨rfl, (Option.some.inj made).symm⟩
  · rw [find?_insert_of_ne catalog fresh same] at kept
    rcases catalog.get?_insert_cases _ fresh holds.made with old | new
    · exact Or.inl ⟨kept, old⟩
    · exact Or.inr new

theorem erase (holds : catalog.Holds keyOf serial object) {key : K}
    (different : keyOf object ≠ key) : (catalog.erase key).Holds keyOf serial object where
  kept := (find?_erase_of_ne catalog different).trans holds.kept
  made := holds.made

theorem of_erase {key : K} (holds : (catalog.erase key).Holds keyOf serial object) :
    catalog.Holds keyOf serial object := by
  have kept := holds.kept
  by_cases same : keyOf object = key
  · rw [same, find?_erase_self] at kept
    cases kept
  · rw [find?_erase_of_ne catalog same] at kept
    exact ⟨kept, holds.made⟩

theorem of_modify {place : Nat} {change : V → V} (keeps : ∀ object, keyOf (change object) = keyOf object)
    (holds : (catalog.modify place change).Holds keyOf serial object) :
    ∃ before, catalog.Holds keyOf serial before ∧
      (serial = place ∧ object = change before ∨ serial ≠ place ∧ object = before) := by
  have kept := holds.kept
  have made := holds.made
  rw [find?_modify] at kept
  by_cases same : serial = place
  · subst same
    rw [get?_modify_self] at made
    obtain ⟨before, found, rfl⟩ := Option.map_eq_some_iff.mp made
    exact ⟨before, ⟨keeps before ▸ kept, found⟩, Or.inl ⟨rfl, rfl⟩⟩
  · rw [get?_modify_of_ne catalog change same] at made
    exact ⟨object, ⟨kept, made⟩, Or.inr ⟨same, rfl⟩⟩

end Holds

end Catalog

namespace SessionStore

/-! ### Stores under any operations -/

/-- What is done to sessions between operations. Application sessions may be made outside of the
store, and these own nothing; no session gets another key, another owner or another list. -/
structure Adjustment (before after : SessionStore) : Prop where
  applications : after.applications.kept = before.applications.kept
  lists : ∃ made : List ApplicationKey,
    after.applications.made.map (fun session => (session.key, session.dialogKeys)) =
      before.applications.made.map (fun session => (session.key, session.dialogKeys)) ++
        made.map (fun key => (key, []))
  dialogs : after.dialogs.kept = before.dialogs.kept
  owners : after.dialogs.made.map (fun session => (session.key, session.owner)) =
    before.dialogs.made.map (fun session => (session.key, session.owner))

/-- The stores that operations of any kind lead to, in any order. -/
inductive Reached : SessionStore → Prop
  | empty : Reached {}
  | operation {store : SessionStore} (operation : StoreOperation) (reached : Reached store) :
      Reached (operation.apply store).1
  | adjustment {before after : SessionStore} (reached : Reached before)
      (adjustment : before.Adjustment after) : Reached after

def Present (store : SessionStore) (serial : Nat) (session : ApplicationSession) : Prop :=
  store.applications.Holds ApplicationSession.key serial session

def Belongs (store : SessionStore) (key : DialogKey) (owner : ApplicationKey) : Prop :=
  ∃ serial session, store.dialogs.Holds DialogSession.key serial session ∧
    session.key = key ∧ session.owner = owner

/-- Nothing dangles: what a stored application session lists is there and belongs to it. -/
structure Anchored (store : SessionStore) : Prop where
  applications : store.applications.Filed ApplicationSession.key
  dialogs : store.dialogs.Filed DialogSession.key
  distinct : ∀ {serial session}, store.applications.get? serial = some session →
    session.dialogKeys.Nodup
  listed : ∀ {serial session}, store.Present serial session → ∀ key ∈ session.dialogKeys,
    store.Belongs key session.key

variable {store before after : SessionStore}

theorem mem_own {application : ApplicationSession} {key other : DialogKey} :
    other ∈ (own application key).dialogKeys ↔ other ∈ application.dialogKeys ∨ other = key := by
  unfold own
  split
  · rename_i listed
    have member := List.contains_iff_mem.mp listed
    constructor
    · exact Or.inl
    · rintro (old | rfl)
      · exact old
      · exact member
  · simp

theorem nodup_own {application : ApplicationSession} (key : DialogKey)
    (distinct : application.dialogKeys.Nodup) : (own application key).dialogKeys.Nodup := by
  unfold own
  split
  · exact distinct
  · rename_i fresh
    have absent : key ∉ application.dialogKeys := fun member =>
      fresh (List.contains_iff_mem.mpr member)
    refine List.nodup_append.mpr ⟨distinct, List.nodup_singleton key, ?_⟩
    intro old member new last
    rw [List.mem_singleton.mp last]
    exact ne_of_mem_of_not_mem member absent

theorem mem_disown {application : ApplicationSession} {key other : DialogKey} :
    other ∈ (disown application key).dialogKeys ↔
      other ∈ application.dialogKeys ∧ other ≠ key := by
  simp [disown]

theorem Present.unique (store : SessionStore) {first second : Nat}
    {left right : ApplicationSession} (one : store.Present first left)
    (other : store.Present second right) (same : left.key = right.key) : first = second := by
  have kept := one.kept
  rw [same, other.kept] at kept
  exact (Option.some.inj kept).symm

theorem Belongs.unique {key : DialogKey} {first second : ApplicationKey}
    (one : store.Belongs key first) (other : store.Belongs key second) : first = second := by
  obtain ⟨serial, session, holds, rfl, rfl⟩ := one
  obtain ⟨place, found, located, same, rfl⟩ := other
  have kept := located.kept
  rw [same, holds.kept] at kept
  obtain rfl := Option.some.inj kept
  rw [Option.some.inj (holds.made.symm.trans located.made)]

/-! ### Every operation keeps it -/

theorem Anchored.empty : Anchored {} where
  applications := .empty _
  dialogs := .empty _
  distinct found := by cases found
  listed present := by cases present.kept

theorem Anchored.obtainApplication (anchored : store.Anchored) (key : ApplicationKey) :
    (store.obtainApplication key).1.Anchored := by
  unfold SessionStore.obtainApplication
  split
  · exact anchored
  · rename_i free
    let fresh : ApplicationSession := { key }
    refine ⟨anchored.applications.insert fresh free, anchored.dialogs, ?_, ?_⟩
    · intro serial session found
      rcases store.applications.get?_insert_cases key fresh found with old | ⟨-, rfl⟩
      · exact anchored.distinct old
      · exact List.nodup_nil
    · intro serial session present other member
      rcases Catalog.Holds.of_insert fresh free present with old | ⟨-, rfl⟩
      · exact anchored.listed old other member
      · cases member

theorem Anchored.removeApplication (anchored : store.Anchored) (key : ApplicationKey) :
    (store.removeApplication key).Anchored where
  applications := anchored.applications.erase key
  dialogs := anchored.dialogs
  distinct := anchored.distinct
  listed present := anchored.listed present.of_erase

theorem Belongs.insert {other : DialogKey} {owner : ApplicationKey}
    (belongs : store.Belongs other owner) (fresh : DialogSession)
    (free : store.dialogs.find? fresh.key = none) {grown : SessionStore}
    (dialogs : grown.dialogs = (store.dialogs.insert fresh.key fresh).1) :
    grown.Belongs other owner := by
  obtain ⟨serial, session, holds, carries, owned⟩ := belongs
  have kept := holds.insert free
  rw [← dialogs] at kept
  exact ⟨serial, session, kept, carries, owned⟩

theorem Anchored.obtainDialog (anchored : store.Anchored) (application : Nat) (key : DialogKey) :
    (store.obtainDialog application key).1.Anchored := by
  unfold SessionStore.obtainDialog
  split
  · exact anchored
  · exact anchored
  · rename_i owning free held
    let fresh : DialogSession := { key, owner := owning.key }
    have keeps (session : ApplicationSession) := key_own session key
    refine ⟨anchored.applications.modify application keeps, anchored.dialogs.insert fresh free,
      ?_, ?_⟩
    · intro serial session found
      by_cases same : serial = application
      · subst same
        rw [Catalog.get?_modify_self] at found
        obtain ⟨session, made, rfl⟩ := Option.map_eq_some_iff.mp found
        exact nodup_own key (anchored.distinct made)
      · rw [Catalog.get?_modify_of_ne _ _ same] at found
        exact anchored.distinct found
    · intro serial session present other member
      obtain ⟨old, stored, ⟨rfl, rfl⟩ | ⟨-, rfl⟩⟩ := Catalog.Holds.of_modify keeps present
      · rw [keeps]
        obtain rfl := Option.some.inj (held.symm.trans stored.made)
        rcases mem_own.mp member with listed | rfl
        · exact (anchored.listed stored other listed).insert fresh free rfl
        · have kept := store.dialogs.find?_insert_self other fresh free
          have made := store.dialogs.get?_insert other fresh
          exact ⟨_, fresh, ⟨kept, made⟩, rfl, rfl⟩
      · exact (anchored.listed stored other member).insert fresh free rfl

theorem present_obtainDialog {application : Nat} {key : DialogKey} {owning : ApplicationSession}
    (free : store.dialogs.find? key = none)
    (held : store.applications.get? application = some owning) {serial : Nat}
    {session : ApplicationSession}
    (present : (store.obtainDialog application key).1.Present serial session) :
    ∃ before, store.Present serial before ∧ session.key = before.key ∧
      ∀ other, other ∈ session.dialogKeys ↔
        other ∈ before.dialogKeys ∨ serial = application ∧ other = key := by
  have keeps (session : ApplicationSession) := key_own session key
  rw [obtainDialog_of_free free held] at present
  obtain ⟨before, stored, ⟨rfl, rfl⟩ | ⟨elsewhere, rfl⟩⟩ := Catalog.Holds.of_modify keeps present
  · refine ⟨before, stored, keeps before, fun other => ?_⟩
    rw [mem_own, eq_self, true_and]
  · exact ⟨_, stored, rfl, fun other => (or_iff_left fun made => elsewhere made.1).symm⟩

theorem Anchored.owner_of_listed (anchored : store.Anchored) {serial : Nat}
    {session : ApplicationSession} {key : DialogKey} (present : store.Present serial session)
    (listed : key ∈ session.dialogKeys) :
    (do
      let place ← store.dialogs.find? key
      let dialog ← store.dialogs.get? place
      store.applications.find? dialog.owner) = some serial := by
  obtain ⟨place, dialog, holds, rfl, owned⟩ := anchored.listed present key listed
  rw [holds.kept]
  change ((store.dialogs.get? place).bind fun dialog => store.applications.find? dialog.owner) = _
  rw [holds.made]
  change store.applications.find? dialog.owner = _
  rw [owned]
  exact present.kept

theorem Anchored.present_removeDialog (anchored : store.Anchored) {key : DialogKey} {serial : Nat}
    {session : ApplicationSession} (present : (store.removeDialog key).Present serial session) :
    ∃ before, store.Present serial before ∧ session.key = before.key ∧
      ∀ other, other ∈ session.dialogKeys ↔ other ∈ before.dialogKeys ∧ other ≠ key := by
  have keeps (session : ApplicationSession) : (disown session key).key = session.key := rfl
  unfold SessionStore.removeDialog at present
  dsimp only at present
  split at present
  · rename_i owning found
    obtain ⟨before, stored, ⟨rfl, rfl⟩ | ⟨elsewhere, rfl⟩⟩ :=
      Catalog.Holds.of_modify keeps present
    · exact ⟨before, stored, rfl, fun other => mem_disown⟩
    · refine ⟨_, stored, rfl, fun other => (and_iff_left_of_imp fun member => ?_).symm⟩
      rintro rfl
      rw [anchored.owner_of_listed stored member] at found
      exact elsewhere (Option.some.inj found)
  · rename_i lost
    have stored : store.Present serial session := present
    refine ⟨session, stored, rfl, fun other => (and_iff_left_of_imp fun member => ?_).symm⟩
    rintro rfl
    rw [anchored.owner_of_listed stored member] at lost
    cases lost

theorem Anchored.removeDialog (anchored : store.Anchored) (key : DialogKey) :
    (store.removeDialog key).Anchored := by
  refine ⟨?_, anchored.dialogs.erase key, ?_, ?_⟩
  · unfold SessionStore.removeDialog
    dsimp only
    split
    · exact anchored.applications.modify _ (fun _ => rfl)
    · exact anchored.applications
  · intro serial session found
    unfold SessionStore.removeDialog at found
    dsimp only at found
    split at found
    · rename_i owning _
      by_cases same : serial = owning
      · subst same
        rw [Catalog.get?_modify_self] at found
        obtain ⟨before, made, rfl⟩ := Option.map_eq_some_iff.mp found
        exact (anchored.distinct made).filter _
      · rw [Catalog.get?_modify_of_ne _ _ same] at found
        exact anchored.distinct found
    · exact anchored.distinct found
  · intro serial session present other member
    obtain ⟨before, stored, same, kept⟩ := anchored.present_removeDialog present
    obtain ⟨listed, different⟩ := (kept other).mp member
    obtain ⟨place, dialog, holds, rfl, owned⟩ := anchored.listed stored other listed
    exact ⟨place, dialog, holds.erase different, rfl, owned.trans same.symm⟩

theorem Anchored.apply (anchored : store.Anchored) (operation : StoreOperation) :
    (operation.apply store).1.Anchored := by
  cases operation with
  | findApplication | findDialog => exact anchored
  | obtainApplication key => exact anchored.obtainApplication key
  | removeApplication key => exact anchored.removeApplication key
  | obtainDialog application key => exact anchored.obtainDialog application key
  | removeDialog key => exact anchored.removeDialog key

theorem Adjustment.application (adjustment : before.Adjustment after) {serial : Nat}
    {session : ApplicationSession} (found : after.applications.get? serial = some session) :
    (∃ old, before.applications.get? serial = some old ∧ old.key = session.key ∧
      old.dialogKeys = session.dialogKeys) ∨ session.dialogKeys = [] := by
  obtain ⟨made, lists⟩ := adjustment.lists
  have viewed := congrArg (·[serial]?) lists
  simp only [List.getElem?_append, List.getElem?_map, List.length_map] at viewed
  rw [show after.applications.made[serial]? = some session from found] at viewed
  split at viewed
  · obtain ⟨old, stored, same⟩ := Option.map_eq_some_iff.mp viewed.symm
    obtain ⟨key, listed⟩ := Prod.mk.inj same
    exact Or.inl ⟨old, stored, key, listed⟩
  · obtain ⟨key, stored, same⟩ := Option.map_eq_some_iff.mp viewed.symm
    exact Or.inr (Prod.mk.inj same).2.symm

theorem Adjustment.kept (adjustment : before.Adjustment after) {serial : Nat}
    {session : ApplicationSession} (found : before.applications.get? serial = some session) :
    ∃ other, after.applications.get? serial = some other ∧ other.key = session.key ∧
      other.dialogKeys = session.dialogKeys := by
  obtain ⟨made, lists⟩ := adjustment.lists
  have early := (List.getElem?_eq_some_iff.mp found).1
  have viewed := congrArg (·[serial]?) lists
  simp only [List.getElem?_append, List.getElem?_map, List.length_map, if_pos early] at viewed
  rw [show before.applications.made[serial]? = some session from found] at viewed
  obtain ⟨other, stored, same⟩ := Option.map_eq_some_iff.mp viewed
  exact ⟨other, stored, Prod.mk.inj same⟩

theorem Adjustment.dialog (adjustment : before.Adjustment after) {serial : Nat}
    {session : DialogSession} (found : before.dialogs.get? serial = some session) :
    ∃ other, after.dialogs.get? serial = some other ∧ other.key = session.key ∧
      other.owner = session.owner := by
  obtain ⟨other, stored, same⟩ := Catalog.get?_of_map_eq adjustment.owners found
  obtain ⟨key, owner⟩ := Prod.mk.inj same
  exact ⟨other, stored, key, owner⟩

theorem Adjustment.belongs (adjustment : before.Adjustment after) {key : DialogKey}
    {owner : ApplicationKey} (belongs : before.Belongs key owner) : after.Belongs key owner := by
  obtain ⟨serial, session, holds, rfl, rfl⟩ := belongs
  obtain ⟨other, made, key, owner⟩ := adjustment.dialog holds.made
  have kept : after.dialogs.find? other.key = some serial := by
    rw [key, Catalog.find?_congr adjustment.dialogs]
    exact holds.kept
  exact ⟨serial, other, ⟨kept, made⟩, key, owner⟩

theorem Anchored.adjustment (anchored : before.Anchored) (adjustment : before.Adjustment after) :
    after.Anchored where
  applications := by
    apply anchored.applications.congr adjustment.applications
    intro serial session stored
    obtain ⟨other, present, same, -⟩ := adjustment.kept stored
    exact ⟨other, present, same⟩
  dialogs := by
    apply anchored.dialogs.congr adjustment.dialogs
    intro serial session stored
    obtain ⟨other, present, same, -⟩ := adjustment.dialog stored
    exact ⟨other, present, same⟩
  distinct := by
    intro serial session found
    rcases adjustment.application found with ⟨old, stored, -, same⟩ | none
    · rw [← same]
      exact anchored.distinct stored
    · rw [none]
      exact List.nodup_nil
  listed := by
    intro serial session present key member
    have kept := present.kept
    rw [Catalog.find?_congr adjustment.applications] at kept
    rcases adjustment.application present.made with ⟨old, stored, same, lists⟩ | none
    · have before := anchored.listed ⟨same ▸ kept, stored⟩ key (lists ▸ member)
      rw [← same]
      exact adjustment.belongs before
    · rw [none] at member
      cases member

theorem Reached.anchored (reached : store.Reached) : store.Anchored := by
  induction reached with
  | empty => exact .empty
  | operation operation _ anchored => exact anchored.apply operation
  | adjustment _ adjustment anchored => exact anchored.adjustment adjustment

theorem Reached.of_operations (reached : store.Reached) (operations : List StoreOperation) :
    (operations.foldl (fun store operation => (operation.apply store).1) store).Reached := by
  induction operations generalizing store with
  | nil => exact reached
  | cons operation rest ih => exact ih (.operation operation reached)

/-- What is said of an application session that is in the store. -/
structure Belongings (store : SessionStore) (serial : Nat) (session : ApplicationSession) :
    Prop where
  listed : ∀ key ∈ session.dialogKeys, ∃ place dialog, store.dialogs.find? key = some place ∧
    store.dialogs.get? place = some dialog ∧ dialog.key = key ∧ dialog.owner = session.key
  alone : ∀ other key found, store.applications.find? key = some other →
    store.applications.get? other = some found →
    ∀ dialog ∈ session.dialogKeys, dialog ∈ found.dialogKeys → other = serial
  counted : session.dialogKeys.Nodup ∧ (store.dialogsOf serial).Nodup ∧
    (store.dialogsOf serial).length = session.dialogKeys.length

theorem Anchored.counted (anchored : store.Anchored) {serial : Nat} {session : ApplicationSession}
    (present : store.Present serial session) :
    session.dialogKeys.Nodup ∧ (store.dialogsOf serial).Nodup ∧
      (store.dialogsOf serial).length = session.dialogKeys.length := by
  have distinct := anchored.distinct present.made
  rw [dialogsOf_of_held present.made]
  refine ⟨distinct, ?_, ?_⟩
  · refine distinct.filterMap ?_
    intro left right place one other
    obtain ⟨dialog, made, rfl⟩ := anchored.dialogs left place one
    obtain ⟨same, located, rfl⟩ := anchored.dialogs right place other
    rw [Option.some.inj (made.symm.trans located)]
  · rw [List.length_filterMap_eq_countP, List.countP_eq_length]
    intro key member
    obtain ⟨place, dialog, holds, rfl, -⟩ := anchored.listed present key member
    rw [holds.kept]
    rfl

/-- After any history, and whatever handles were used in it, what an application session in the
store lists is there and is its own. -/
theorem Reached.belongings (reached : store.Reached) {key : ApplicationKey} {serial : Nat}
    (kept : store.applications.find? key = some serial) :
    ∃ session, store.applications.get? serial = some session ∧ session.key = key ∧
      store.Belongings serial session := by
  have anchored := reached.anchored
  obtain ⟨session, present, carries⟩ := anchored.applications.holds kept
  refine ⟨session, present.made, carries, ?_, ?_, anchored.counted present⟩
  · intro dialogKey member
    obtain ⟨place, dialog, holds, rfl, owner⟩ := anchored.listed present dialogKey member
    exact ⟨place, dialog, holds.kept, holds.made, rfl, owner⟩
  · intro other otherKey found keptOther madeOther dialogKey mine theirs
    obtain ⟨stored, presentOther, -⟩ := anchored.applications.holds keptOther
    obtain rfl := Option.some.inj (presentOther.made.symm.trans madeOther)
    have same := (anchored.listed presentOther dialogKey theirs).unique
      (anchored.listed present dialogKey mine)
    exact Present.unique store presentOther present same

end SessionStore

namespace Sample

def guest (localTag : String) : DialogKey :=
  { roomDialog with localTag := some localTag }

/-- The room is made anew under its key, and a dialog session is made under the room that was
before; then a dialog session of the room that was before is removed. -/
def renewal : List StoreOperation :=
  [.obtainApplication (room "conference"), .obtainDialog 0 (guest "a"),
    .removeApplication (room "conference"), .obtainApplication (room "conference"),
    .obtainDialog 0 (guest "b"), .obtainDialog 1 (guest "c"), .removeDialog (guest "a")]

end Sample

namespace SessionStore

theorem Reached.belongings_renewal :
    let store : SessionStore :=
      Sample.renewal.foldl (fun store operation => (operation.apply store).1) {}
    store.Reached ∧ store.applications.find? (Sample.room "conference") = some 1 ∧
      ∃ session, store.applications.get? 1 = some session ∧
        session.dialogKeys = [Sample.guest "c"] ∧ store.Belongings 1 session := by
  intro store
  have reached : store.Reached := Reached.empty.of_operations Sample.renewal
  have kept : store.applications.find? (Sample.room "conference") = some 1 := by rfl
  obtain ⟨session, made, -, belongings⟩ := Reached.belongings reached kept
  refine ⟨reached, kept, session, made, ?_, belongings⟩
  obtain rfl := Option.some.inj made
  rfl

end SessionStore

end SipContainer

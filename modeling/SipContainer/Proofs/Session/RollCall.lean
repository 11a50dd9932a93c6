import SipContainer.Proofs.Session.History
/-!
Which dialog sessions an application session can name. It lists those that were made under itself and
are still in the store, neither more nor fewer. A dialog session remembers the key of its owner only:
where a key has had several application sessions, one of the later ones does not list what was made
under an earlier one, although it answers for the same key.
-/

namespace SipContainer

namespace StoreCall

/-- A call asked for the dialog session under the application session, and no call before was answered
with it. -/
inductive MadeUnder (application serial : Nat) : List StoreCall → Prop
  | made {key : DialogKey} {earlier : List StoreCall}
      (unseen : Catalog.Unseen serial (dialogs earlier)) :
      MadeUnder application serial (⟨.obtainDialog application key, some serial⟩ :: earlier)
  | since {call : StoreCall} {earlier : List StoreCall}
      (before : MadeUnder application serial earlier) : MadeUnder application serial (call :: earlier)

variable {application other serial : Nat} {call : StoreCall} {record : List StoreCall}

theorem unseen_of_cons (unseen : Catalog.Unseen serial (dialogs (call :: record))) :
    Catalog.Unseen serial (dialogs record) := by
  have part : (dialogs record).Sublist (dialogs (call :: record)) :=
    (List.sublist_cons_self call record).filterMap dialog?
  exact fun earlier member => unseen earlier (part.subset member)

theorem MadeUnder.seen (under : MadeUnder application serial record) :
    ¬ Catalog.Unseen serial (dialogs record) := by
  intro unseen
  induction under with
  | made => exact unseen _ List.mem_cons_self rfl
  | since _ ih => exact ih (unseen_of_cons unseen)

theorem MadeUnder.unique (under : MadeUnder application serial record)
    (again : MadeUnder other serial record) : application = other := by
  induction under with
  | made unseen =>
      cases again with
      | made => rfl
      | since before => exact absurd unseen before.seen
  | since before ih =>
      cases again with
      | made unseen => exact absurd unseen before.seen
      | since again => exact ih again

theorem madeUnder_cons (idle : ∀ application key serial,
    call = ⟨.obtainDialog application key, some serial⟩ →
      ¬ Catalog.Unseen serial (dialogs record)) :
    MadeUnder application serial (call :: record) ↔ MadeUnder application serial record := by
  constructor
  · intro under
    cases under with
    | made unseen => exact absurd unseen (idle _ _ _ rfl)
    | since before => exact before
  · exact .since

theorem madeUnder_cons_of_made {fresh : Nat} (key : DialogKey)
    (unseen : Catalog.Unseen fresh (dialogs record)) :
    MadeUnder application serial (⟨.obtainDialog other key, some fresh⟩ :: record) ↔
      application = other ∧ serial = fresh ∨ MadeUnder application serial record := by
  constructor
  · intro under
    cases under with
    | made => exact Or.inl ⟨rfl, rfl⟩
    | since before => exact Or.inr before
  · rintro (⟨rfl, rfl⟩ | before)
    · exact .made unseen
    · exact .since before

end StoreCall

namespace SessionStore

open StoreCall (MadeUnder)

variable {store before after : SessionStore} {record : List StoreCall}

/-- Every dialog session was made under a session with the key of its owner, and an application
session in the store lists what was made under it. -/
structure Attributed (store : SessionStore) (record : List StoreCall) : Prop where
  origin : ∀ {serial session}, store.dialogs.get? serial = some session →
    ∃ application owning, MadeUnder application serial record ∧
      store.applications.get? application = some owning ∧ owning.key = session.owner
  listed : ∀ {application owning key serial}, store.Present application owning →
    store.dialogs.find? key = some serial →
      (key ∈ owning.dialogKeys ↔ MadeUnder application serial record)

/-! ### Every call keeps it -/

theorem held_removeDialog (key : DialogKey) {application : Nat} {owning : ApplicationSession}
    (held : store.applications.get? application = some owning) :
    ∃ present, (store.removeDialog key).applications.get? application = some present ∧
      present.key = owning.key := by
  have keeps (session : ApplicationSession) : (disown session key).key = session.key := rfl
  unfold removeDialog
  dsimp only
  split
  · exact store.applications.get?_modify_view _ keeps held
  · exact ⟨owning, held, rfl⟩

namespace Attributed

theorem empty : Attributed {} [] where
  origin found := by cases found
  listed present := by cases present.kept

theorem extend (attributed : store.Attributed record) {call : StoreCall}
    (idle : ∀ application key serial, call = ⟨.obtainDialog application key, some serial⟩ →
      ¬ Catalog.Unseen serial (StoreCall.dialogs record)) :
    store.Attributed (call :: record) where
  origin found := by
    obtain ⟨application, owning, under, held, same⟩ := attributed.origin found
    exact ⟨application, owning, .since under, held, same⟩
  listed present found := by
    rw [StoreCall.madeUnder_cons idle]
    exact attributed.listed present found

theorem obtainApplication (attributed : store.Attributed record) (anchored : store.Anchored)
    (key : ApplicationKey) : (store.obtainApplication key).1.Attributed record := by
  cases found : store.applications.find? key with
  | some serial =>
      rw [obtainApplication_of_found found]
      exact attributed
  | none =>
      rw [obtainApplication_of_free found]
      let fresh : ApplicationSession := { key }
      constructor
      · intro serial session stored
        obtain ⟨application, owning, under, held, same⟩ := attributed.origin stored
        exact ⟨application, owning, under,
          store.applications.get?_insert_of_some key fresh held, same⟩
      · intro application owning dialogKey serial present kept
        rcases Catalog.Holds.of_insert fresh found present with old | ⟨rfl, rfl⟩
        · exact attributed.listed old kept
        · refine iff_of_false List.not_mem_nil fun under => ?_
          obtain ⟨session, stored, -⟩ := anchored.dialogs dialogKey serial kept
          obtain ⟨maker, owning, made, held, -⟩ := attributed.origin stored
          rw [made.unique under] at held
          change store.applications.get? store.applications.made.length = some owning at held
          rw [Catalog.get?_length] at held
          cases held

theorem removeApplication (attributed : store.Attributed record) (key : ApplicationKey) :
    (store.removeApplication key).Attributed record where
  origin := attributed.origin
  listed present := attributed.listed present.of_erase

theorem removeDialog (attributed : store.Attributed record) (anchored : store.Anchored)
    (key : DialogKey) : (store.removeDialog key).Attributed record where
  origin found := by
    obtain ⟨application, owning, under, held, same⟩ := attributed.origin found
    obtain ⟨present, later, carries⟩ := held_removeDialog key held
    exact ⟨application, present, under, later, carries.trans same⟩
  listed := by
    intro application owning other serial present found
    obtain ⟨before, stored, -, lists⟩ := anchored.present_removeDialog present
    change (store.dialogs.erase key).find? other = some serial at found
    have different : other ≠ key := by
      rintro rfl
      rw [Catalog.find?_erase_self] at found
      cases found
    rw [Catalog.find?_erase_of_ne store.dialogs different] at found
    rw [lists, and_iff_left different]
    exact attributed.listed stored found

theorem obtainDialog (attributed : store.Attributed record) (anchored : store.Anchored)
    (mirrors : Catalog.Mirrors (StoreCall.dialogs record) store.dialogs) {application : Nat}
    (key : DialogKey) {owning : ApplicationSession}
    (held : store.applications.get? application = some owning) :
    (store.obtainDialog application key).1.Attributed
      (⟨.obtainDialog application key, (store.obtainDialog application key).2⟩ :: record) := by
  cases found : store.dialogs.find? key with
  | some serial =>
      rw [obtainDialog_of_found found]
      apply attributed.extend
      rintro _ _ _ ⟨⟩
      exact ((mirrors.founded key serial).mp found).seen
  | none =>
      let fresh : DialogSession := { key, owner := owning.key }
      have made (maker serial : Nat) :
          MadeUnder maker serial (⟨.obtainDialog application key,
              some store.dialogs.made.length⟩ :: record) ↔
            maker = application ∧ serial = store.dialogs.made.length ∨
              MadeUnder maker serial record :=
        StoreCall.madeUnder_cons_of_made key mirrors.unseen
      have keeps (session : ApplicationSession) := key_own session key
      constructor
      · intro serial session stored
        rw [obtainDialog_of_free found held] at stored ⊢
        rcases store.dialogs.get?_insert_cases key fresh stored with old | ⟨rfl, rfl⟩
        · obtain ⟨maker, before, under, present, same⟩ := attributed.origin old
          obtain ⟨after, later, carries⟩ :=
            store.applications.get?_modify_view application keeps present
          exact ⟨maker, after, .since under, later, carries.trans same⟩
        · obtain ⟨after, later, carries⟩ :=
            store.applications.get?_modify_view application keeps held
          exact ⟨application, after, (made _ _).mpr (Or.inl ⟨rfl, rfl⟩), later, carries⟩
      · intro other session dialogKey serial present kept
        obtain ⟨before, stored, -, lists⟩ := present_obtainDialog found held present
        rw [obtainDialog_of_free found held] at kept ⊢
        change _ ↔ MadeUnder other serial (⟨.obtainDialog application key,
          some store.dialogs.made.length⟩ :: record)
        rw [lists, made]
        by_cases same : dialogKey = key
        · subst same
          rw [Catalog.find?_insert_self store.dialogs dialogKey fresh found] at kept
          obtain rfl : store.dialogs.made.length = serial := Option.some.inj kept
          -- The key led nowhere and the number is new, so neither was known to any session.
          have unlisted : dialogKey ∉ before.dialogKeys := by
            intro member
            obtain ⟨place, dialog, holds, rfl, -⟩ := anchored.listed stored dialogKey member
            rw [holds.kept] at found
            cases found
          have unmade : ¬ MadeUnder other store.dialogs.made.length record :=
            fun under => under.seen mirrors.unseen
          simp [unlisted, unmade]
        · rw [Catalog.find?_insert_of_ne store.dialogs fresh same] at kept
          have early : serial ≠ store.dialogs.made.length :=
            Nat.ne_of_lt (mirrors.found_lt kept)
          rw [← attributed.listed stored kept]
          simp [same, early]

theorem call (attributed : store.Attributed record) (history : store.History record)
    {operation : StoreOperation} (held : operation.Held store) :
    (operation.apply store).1.Attributed (⟨operation, (operation.apply store).2⟩ :: record) := by
  have anchored := history.reached.anchored
  cases operation with
  | findApplication | findDialog => exact attributed.extend nofun
  | obtainApplication key => exact (attributed.obtainApplication anchored key).extend nofun
  | removeApplication key => exact (attributed.removeApplication key).extend nofun
  | obtainDialog application key =>
      obtain ⟨owning, present⟩ := held
      exact attributed.obtainDialog anchored history.dialogs key present
  | removeDialog key => exact (attributed.removeDialog anchored key).extend nofun

theorem adjustment (attributed : before.Attributed record) (anchored : before.Anchored)
    (adjustment : before.Adjustment after) : after.Attributed record where
  origin found := by
    obtain ⟨old, stored, same⟩ := Catalog.get?_of_map_eq adjustment.owners.symm found
    obtain ⟨application, owning, under, held, carries⟩ := attributed.origin stored
    obtain ⟨present, later, key, -⟩ := adjustment.kept held
    exact ⟨application, present, under, later,
      key.trans (carries.trans (Prod.mk.inj same).2)⟩
  listed := by
    intro application owning key serial present found
    have kept := present.kept
    rw [Catalog.find?_congr adjustment.applications] at kept
    obtain ⟨old, holds, carries⟩ := anchored.applications.holds kept
    obtain ⟨same, later, -, lists⟩ := adjustment.kept holds.made
    obtain rfl := Option.some.inj (present.made.symm.trans later)
    rw [lists]
    rw [Catalog.find?_congr adjustment.dialogs] at found
    exact attributed.listed holds found

theorem mem_dialogsOf (attributed : store.Attributed record) {application serial : Nat}
    {owning : ApplicationSession} (present : store.Present application owning) :
    serial ∈ store.dialogsOf application ↔
      (∃ key, store.dialogs.find? key = some serial) ∧ MadeUnder application serial record := by
  rw [dialogsOf_of_held present.made, List.mem_filterMap]
  constructor
  · rintro ⟨key, member, found⟩
    exact ⟨⟨key, found⟩, (attributed.listed present found).mp member⟩
  · rintro ⟨⟨key, found⟩, under⟩
    exact ⟨key, (attributed.listed present found).mpr under, found⟩

end Attributed

theorem History.attributed (history : store.History record) : store.Attributed record := by
  induction history with
  | empty => exact .empty
  | call history operation held attributed => exact attributed.call history held
  | adjustment history adjustment attributed =>
      exact attributed.adjustment history.reached.anchored adjustment

/-- What is said of the list of an application session that is in the store. -/
structure RollCall (store : SessionStore) (record : List StoreCall) (application : Nat)
    (owning : ApplicationSession) : Prop where
  listed : ∀ key serial, store.dialogs.find? key = some serial →
    (key ∈ owning.dialogKeys ↔ MadeUnder application serial record)
  enumerated : ∀ serial, serial ∈ store.dialogsOf application ↔
    (∃ key, store.dialogs.find? key = some serial) ∧ MadeUnder application serial record
  complete : (∀ other found, store.applications.get? other = some found →
      found.key = owning.key → other = application) →
    ∀ key serial session, store.dialogs.find? key = some serial →
      store.dialogs.get? serial = some session → session.owner = owning.key →
      key ∈ owning.dialogKeys ∧ serial ∈ store.dialogsOf application

/-- After any history, an application session in the store names the dialog sessions that were made
under it and are still there. -/
theorem History.rollCall (history : store.History record) {key : ApplicationKey}
    {application : Nat} (kept : store.applications.find? key = some application) :
    ∃ owning, store.applications.get? application = some owning ∧ owning.key = key ∧
      store.RollCall record application owning := by
  have anchored := history.reached.anchored
  have attributed := history.attributed
  obtain ⟨owning, present, carries⟩ := anchored.applications.holds kept
  have enumerated (serial : Nat) : serial ∈ store.dialogsOf application ↔
      (∃ key, store.dialogs.find? key = some serial) ∧ MadeUnder application serial record :=
    attributed.mem_dialogsOf present
  refine ⟨owning, present.made, carries, fun key serial => attributed.listed present, enumerated, ?_⟩
  intro only key serial session found stored owner
  obtain ⟨maker, making, under, held, same⟩ := attributed.origin stored
  obtain rfl := only maker making held (same.trans owner)
  exact ⟨(attributed.listed present found).mpr under,
    (enumerated serial).mpr ⟨⟨key, found⟩, under⟩⟩

theorem History.rollCall_renewed :
    let store := Sample.renewed
    store.History Sample.renewalCalls ∧
      store.applications.find? (Sample.room "conference") = some 1 ∧
      ∃ owning, store.applications.get? 1 = some owning ∧
        store.RollCall Sample.renewalCalls 1 owning ∧ store.dialogsOf 1 = [2] := by
  intro store
  have kept : store.applications.find? (Sample.room "conference") = some 1 := by rfl
  obtain ⟨owning, held, -, roll⟩ := History.rollCall Sample.renewed_history kept
  exact ⟨Sample.renewed_history, kept, owning, held, roll, rfl⟩

end SessionStore

/-- Two guests of a room that was made anew, one from before and one who came through the old room:
both dialog sessions are in the store and belong to the key of the room, and the room that is now
there names neither. -/
theorem Sample.guests_unlisted :
    let store := reopened
    store.History (renewalCalls.drop 2) ∧
      store.applications.find? (room "conference") = some 1 ∧
      (store.applications.get? 1).map ApplicationSession.key = some (room "conference") ∧
      store.dialogs.find? (guest "a") = some 0 ∧ store.dialogs.find? (guest "b") = some 1 ∧
      (store.dialogs.get? 0).map DialogSession.owner = some (room "conference") ∧
      (store.dialogs.get? 1).map DialogSession.owner = some (room "conference") ∧
      store.dialogKeysOf 1 = [] ∧ store.dialogsOf 1 = [] :=
  ⟨reopened_history, rfl, rfl, rfl, rfl, rfl, rfl, rfl, rfl⟩

end SipContainer

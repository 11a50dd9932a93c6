import Mathlib.Data.Set.Card
import SipContainer.Proofs.Session.Belongings
/-!
A partial map of instances, specified by the calls made on it and by their answers alone. A call that
asks for the object under a key makes one unless there is one, and the object made is one that no
earlier call has been answered with. From then on every call about the key is answered with it, until
the key is removed; after that no call is answered with it again. A catalog that began empty answers
in this way.
-/

namespace SipContainer

namespace Catalog

inductive Query (K : Type)
  | find (key : K)
  | obtain (key : K)
  | remove (key : K)
deriving DecidableEq, Repr

/-- A call and the number of the object it was answered with. Records of calls begin with the
latest one. -/
structure Call (K : Type) where
  query : Query K
  answer : Option Nat
deriving DecidableEq, Repr

variable {K : Type}

def Unseen (serial : Nat) (record : List (Call K)) : Prop :=
  ∀ call ∈ record, call.answer ≠ some serial

/-- The object was made by a call that asked for the key, as no call before was answered with it, and
the key has not been removed since. -/
inductive Founded (key : K) (serial : Nat) : List (Call K) → Prop
  | made {earlier : List (Call K)} (unseen : Unseen serial earlier) :
      Founded key serial (⟨.obtain key, some serial⟩ :: earlier)
  | kept {call : Call K} {earlier : List (Call K)} (founded : Founded key serial earlier)
      (stays : call.query ≠ .remove key) : Founded key serial (call :: earlier)

def Vacant (key : K) (record : List (Call K)) : Prop :=
  ∀ serial, ¬ Founded key serial record

/-- The right answers behind earlier calls. -/
inductive Proper (earlier : List (Call K)) : Call K → Prop
  | found {key : K} {serial : Nat} (founded : Founded key serial earlier) :
      Proper earlier ⟨.find key, some serial⟩
  | missed {key : K} (vacant : Vacant key earlier) : Proper earlier ⟨.find key, none⟩
  | reused {key : K} {serial : Nat} (founded : Founded key serial earlier) :
      Proper earlier ⟨.obtain key, some serial⟩
  | made {key : K} {serial : Nat} (vacant : Vacant key earlier) (unseen : Unseen serial earlier) :
      Proper earlier ⟨.obtain key, some serial⟩
  | removed {key : K} {serial : Nat} (founded : Founded key serial earlier) :
      Proper earlier ⟨.remove key, some serial⟩
  | idle {key : K} (vacant : Vacant key earlier) : Proper earlier ⟨.remove key, none⟩

/-- The records of a partial map of instances. -/
inductive Faithful : List (Call K) → Prop
  | empty : Faithful []
  | call {call : Call K} {earlier : List (Call K)} (faithful : Faithful earlier)
      (proper : Proper earlier call) : Faithful (call :: earlier)

variable {key other : K} {serial : Nat} {call : Call K} {record earlier later : List (Call K)}

theorem Founded.answered (founded : Founded key serial record) :
    ∃ call ∈ record, call.answer = some serial := by
  induction founded with
  | made => exact ⟨_, List.mem_cons_self, rfl⟩
  | kept _ _ ih =>
      obtain ⟨call, member, answered⟩ := ih
      exact ⟨call, List.mem_cons_of_mem _ member, answered⟩

theorem Founded.seen (founded : Founded key serial record) : ¬ Unseen serial record := by
  intro unseen
  obtain ⟨call, member, answered⟩ := founded.answered
  exact unseen call member answered

theorem Founded.key_unique (founded : Founded key serial record)
    (again : Founded other serial record) : key = other := by
  induction founded with
  | made unseen =>
      cases again with
      | made => rfl
      | kept before => exact absurd unseen before.seen
  | kept before _ ih =>
      cases again with
      | made unseen => exact absurd unseen before.seen
      | kept again => exact ih again

theorem founded_cons_of_stays (stays : ∀ key, call.query ≠ .remove key)
    (asked : ∀ key serial, call = ⟨.obtain key, some serial⟩ → ¬ Unseen serial record) :
    Founded key serial (call :: record) ↔ Founded key serial record := by
  constructor
  · intro founded
    cases founded with
    | made unseen => exact absurd unseen (asked key serial rfl)
    | kept before => exact before
  · intro founded
    exact .kept founded (stays key)

theorem founded_cons_of_made {fresh : Nat} (vacant : Vacant other record)
    (unseen : Unseen fresh record) :
    Founded key serial (⟨.obtain other, some fresh⟩ :: record) ↔
      key = other ∧ serial = fresh ∨ key ≠ other ∧ Founded key serial record := by
  constructor
  · intro founded
    cases founded with
    | made => exact Or.inl ⟨rfl, rfl⟩
    | kept before =>
        refine Or.inr ⟨?_, before⟩
        rintro rfl
        exact vacant serial before
  · rintro (⟨rfl, rfl⟩ | ⟨-, before⟩)
    · exact .made unseen
    · exact .kept before (by simp)

theorem founded_cons_of_removed {answer : Option Nat} :
    Founded key serial (⟨.remove other, answer⟩ :: record) ↔
      key ≠ other ∧ Founded key serial record := by
  constructor
  · intro founded
    cases founded with
    | kept before stays =>
        refine ⟨?_, before⟩
        rintro rfl
        exact stays rfl
  · rintro ⟨different, before⟩
    refine .kept before ?_
    intro same
    exact different (Query.remove.inj same).symm

theorem Faithful.not_founded_of_removed
    (faithful : Faithful (⟨.remove other, some serial⟩ :: earlier)) :
    ¬ Founded key serial (later ++ ⟨.remove other, some serial⟩ :: earlier) := by
  intro founded
  induction later with
  | nil =>
      obtain ⟨different, before⟩ := founded_cons_of_removed.mp founded
      cases faithful with
      | call _ proper =>
          cases proper with
          | removed standing => exact different (before.key_unique standing)
  | cons call later ih =>
      cases founded with
      | made unseen => exact unseen _ (List.mem_append_right _ List.mem_cons_self) rfl
      | kept before => exact ih before

theorem Faithful.tail (faithful : Faithful (later ++ earlier)) : Faithful earlier := by
  induction later with
  | nil => exact faithful
  | cons call later ih =>
      cases faithful with
      | call before => exact ih before

/-- An object that has been removed is never come by again. -/
theorem Faithful.unseen_of_removed
    (faithful : Faithful (later ++ ⟨.remove other, some serial⟩ :: earlier)) :
    Unseen serial later := by
  induction later with
  | nil => nofun
  | cons call later ih =>
      have removal : Faithful (⟨.remove other, some serial⟩ :: earlier) := faithful.tail
      cases faithful with
      | call before proper =>
          have gone (key : K) :
              ¬ Founded key serial (later ++ ⟨.remove other, some serial⟩ :: earlier) :=
            removal.not_founded_of_removed
          refine List.forall_mem_cons.mpr ⟨?_, ih before⟩
          -- A right answer stands under some key or has not been seen; what was removed does neither.
          intro answered
          cases proper with
          | found founded | reused founded | removed founded =>
              obtain rfl := Option.some.inj answered
              exact gone _ founded
          | missed | idle => cases answered
          | made _ unseen =>
              obtain rfl := Option.some.inj answered
              exact unseen _ (List.mem_append_right _ List.mem_cons_self) rfl

/-! ### A catalog answers rightly -/

variable {V : Type} [DecidableEq K] {catalog : Catalog K V}

structure Mirrors (record : List (Call K)) (catalog : Catalog K V) : Prop where
  faithful : Faithful record
  founded : ∀ key serial, catalog.find? key = some serial ↔ Founded key serial record
  numbered : ∀ call ∈ record, ∀ serial ∈ call.answer, serial < catalog.made.length
  distinct : catalog.keys.Nodup

namespace Mirrors

theorem empty : Mirrors [] ({} : Catalog K V) where
  faithful := .empty
  founded := by
    intro key serial
    constructor
    · intro found
      cases found
    · intro founded
      cases founded
  numbered := nofun
  distinct := List.nodup_nil

theorem vacant (mirrors : Mirrors record catalog) (free : catalog.find? key = none) :
    Vacant key record := by
  intro serial founded
  rw [(mirrors.founded key serial).mpr founded] at free
  cases free

theorem unseen (mirrors : Mirrors record catalog) : Unseen catalog.made.length record := by
  intro call member answered
  exact Nat.lt_irrefl _ (mirrors.numbered call member _ answered)

theorem found_lt (mirrors : Mirrors record catalog) (found : catalog.find? key = some serial) :
    serial < catalog.made.length := by
  obtain ⟨call, member, answered⟩ := ((mirrors.founded key serial).mp found).answered
  exact mirrors.numbered call member serial answered

theorem congr (mirrors : Mirrors record catalog) {changed : Catalog K V}
    (kept : changed.kept = catalog.kept) (made : catalog.made.length ≤ changed.made.length) :
    Mirrors record changed where
  faithful := mirrors.faithful
  founded key serial := by
    rw [find?_congr kept]
    exact mirrors.founded key serial
  numbered call member serial answered :=
    Nat.lt_of_lt_of_le (mirrors.numbered call member serial answered) made
  distinct := by
    rw [keys, kept]
    exact mirrors.distinct

theorem call_of_stays (mirrors : Mirrors record catalog) (proper : Proper record call)
    (stays : ∀ key, call.query ≠ .remove key)
    (asked : ∀ key serial, call = ⟨.obtain key, some serial⟩ → ¬ Unseen serial record)
    (numbered : ∀ serial ∈ call.answer, serial < catalog.made.length) :
    Mirrors (call :: record) catalog where
  faithful := .call mirrors.faithful proper
  founded key serial := by
    rw [founded_cons_of_stays stays asked]
    exact mirrors.founded key serial
  numbered := List.forall_mem_cons.mpr ⟨numbered, mirrors.numbered⟩
  distinct := mirrors.distinct

theorem find (mirrors : Mirrors record catalog) (key : K) :
    Mirrors (⟨.find key, catalog.find? key⟩ :: record) catalog := by
  refine mirrors.call_of_stays ?_ nofun nofun (fun serial found => mirrors.found_lt found)
  cases found : catalog.find? key with
  | none => exact .missed (mirrors.vacant found)
  | some serial => exact .found ((mirrors.founded key serial).mp found)

theorem reuse (mirrors : Mirrors record catalog) (found : catalog.find? key = some serial) :
    Mirrors (⟨.obtain key, some serial⟩ :: record) catalog := by
  have founded := (mirrors.founded key serial).mp found
  refine mirrors.call_of_stays (.reused founded) nofun ?_ ?_
  · rintro other place ⟨⟩
    exact founded.seen
  · rintro place ⟨⟩
    exact mirrors.found_lt found

theorem insert (mirrors : Mirrors record catalog) (object : V)
    (free : catalog.find? key = none) :
    Mirrors (⟨.obtain key, some (catalog.insert key object).2⟩ :: record)
      (catalog.insert key object).1 where
  faithful := .call mirrors.faithful (.made (mirrors.vacant free) mirrors.unseen)
  founded other serial := by
    change _ ↔ Founded other serial (⟨.obtain key, some catalog.made.length⟩ :: record)
    rw [founded_cons_of_made (mirrors.vacant free) mirrors.unseen]
    by_cases same : other = key
    · subst same
      rw [find?_insert_self catalog other object free]
      simp [Catalog.insert, eq_comm]
    · rw [find?_insert_of_ne catalog object same, mirrors.founded]
      simp [same]
  numbered := by
    have grown : (catalog.insert key object).1.made.length = catalog.made.length + 1 := by
      simp [Catalog.insert]
    rw [grown]
    refine List.forall_mem_cons.mpr ⟨?_, ?_⟩
    · rintro serial ⟨⟩
      exact Nat.lt_succ_self _
    · intro call member serial answered
      exact Nat.lt_succ_of_lt (mirrors.numbered call member serial answered)
  distinct := by
    have absent : key ∉ catalog.keys := by
      rw [mem_keys_iff, free]
      rintro ⟨serial, found⟩
      cases found
    rw [keys_insert, ← List.concat_eq_append]
    exact mirrors.distinct.concat absent

theorem erase (mirrors : Mirrors record catalog) (key : K) :
    Mirrors (⟨.remove key, catalog.find? key⟩ :: record) (catalog.erase key) where
  faithful := by
    refine .call mirrors.faithful ?_
    cases found : catalog.find? key with
    | none => exact .idle (mirrors.vacant found)
    | some serial => exact .removed ((mirrors.founded key serial).mp found)
  founded other serial := by
    rw [founded_cons_of_removed]
    by_cases same : other = key
    · subst same
      simp [find?_erase_self]
    · rw [find?_erase_of_ne catalog same, mirrors.founded]
      simp [same]
  numbered := by
    refine List.forall_mem_cons.mpr ⟨?_, mirrors.numbered⟩
    intro serial found
    exact mirrors.found_lt found
  distinct := by
    rw [keys_erase]
    exact mirrors.distinct.filter _

end Mirrors

/-- A catalog as a partial map of instances. -/
structure Implements (keyOf : V → K) (record : List (Call K)) (catalog : Catalog K V) : Prop where
  faithful : Faithful record
  standing : ∀ key serial, catalog.find? key = some serial ↔ Founded key serial record
  buried : ∀ later key serial earlier, record = later ++ ⟨.remove key, some serial⟩ :: earlier →
    Unseen serial later ∧ ∀ other, catalog.find? other ≠ some serial
  titled : ∀ key serial, catalog.find? key = some serial →
    ∃ object, catalog.get? serial = some object ∧ keyOf object = key
  alone : ∀ key other serial, catalog.find? key = some serial →
    catalog.find? other = some serial → key = other
  listed : catalog.keys.Nodup ∧ ∀ key, key ∈ catalog.keys ↔ ∃ serial, Founded key serial record
  counted : catalog.keys.length = {key | ∃ serial, Founded key serial record}.ncard

theorem Mirrors.implements {keyOf : V → K} (mirrors : Mirrors record catalog)
    (filed : catalog.Filed keyOf) : Implements keyOf record catalog where
  faithful := mirrors.faithful
  standing := mirrors.founded
  buried := by
    rintro later key serial earlier rfl
    have faithful := mirrors.faithful
    refine ⟨faithful.unseen_of_removed, ?_⟩
    intro other found
    exact faithful.tail.not_founded_of_removed ((mirrors.founded other serial).mp found)
  titled := filed
  alone key other serial found again :=
    ((mirrors.founded key serial).mp found).key_unique ((mirrors.founded other serial).mp again)
  listed := by
    refine ⟨mirrors.distinct, fun key => ?_⟩
    simp only [mem_keys_iff, mirrors.founded]
  counted := by
    have used : {key | ∃ serial, Founded key serial record} = (catalog.keys.toFinset : Set K) := by
      ext key
      simp [mem_keys_iff, mirrors.founded]
    rw [used, Set.ncard_coe_finset, List.toFinset_card_of_nodup mirrors.distinct]

end Catalog

end SipContainer

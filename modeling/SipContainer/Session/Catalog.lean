/-!
Objects kept under keys. An object is made once, gets a serial number, and keeps it; the number is
what others hold. Removing a key only makes the object unreachable under that key, and a later
object under the same key is another one.
-/

namespace SipContainer

/-- Objects by serial number, and the keys under which some of them are kept. -/
structure Catalog (K V : Type) where
  made : List V := []
  kept : List (K × Nat) := []

namespace Catalog

variable {K V : Type}

def get? (catalog : Catalog K V) (serial : Nat) : Option V :=
  catalog.made[serial]?

def keys (catalog : Catalog K V) : List K :=
  catalog.kept.map Prod.fst

def modify (catalog : Catalog K V) (serial : Nat) (change : V → V) : Catalog K V :=
  { catalog with made := catalog.made.modify serial change }

def insert (catalog : Catalog K V) (key : K) (object : V) : Catalog K V × Nat :=
  ({ made := catalog.made ++ [object], kept := catalog.kept ++ [(key, catalog.made.length)] },
    catalog.made.length)

theorem get?_insert (catalog : Catalog K V) (key : K) (object : V) :
    (catalog.insert key object).1.get? (catalog.insert key object).2 = some object := by
  simp [insert, get?]

theorem get?_length (catalog : Catalog K V) : catalog.get? catalog.made.length = none := by
  simp [get?]

theorem keys_insert (catalog : Catalog K V) (key : K) (object : V) :
    (catalog.insert key object).1.keys = catalog.keys ++ [key] := by
  simp [insert, keys]

theorem get?_modify_self (catalog : Catalog K V) (serial : Nat) (change : V → V) :
    (catalog.modify serial change).get? serial = (catalog.get? serial).map change := by
  simp [modify, get?]

theorem get?_modify_of_ne (catalog : Catalog K V) {serial other : Nat} (change : V → V)
    (different : other ≠ serial) :
    (catalog.modify serial change).get? other = catalog.get? other := by
  simp [modify, get?, different.symm]

variable [DecidableEq K]

def find? (catalog : Catalog K V) (key : K) : Option Nat :=
  (catalog.kept.find? (fun entry => entry.1 = key)).map Prod.snd

def erase (catalog : Catalog K V) (key : K) : Catalog K V :=
  { catalog with kept := catalog.kept.filter (fun entry => entry.1 ≠ key) }

theorem find?_insert_self (catalog : Catalog K V) (key : K) (object : V)
    (free : catalog.find? key = none) :
    (catalog.insert key object).1.find? key = some (catalog.insert key object).2 := by
  unfold find? at free ⊢
  rw [Option.map_eq_none_iff] at free
  simp [insert, List.find?_append, free]

theorem find?_insert_of_ne (catalog : Catalog K V) {key other : K} (object : V)
    (different : other ≠ key) :
    (catalog.insert key object).1.find? other = catalog.find? other := by
  simp [insert, find?, List.find?_append, different.symm]

theorem find?_erase_self (catalog : Catalog K V) (key : K) :
    (catalog.erase key).find? key = none := by
  simp [erase, find?]

theorem find?_erase_of_ne (catalog : Catalog K V) {key other : K} (different : other ≠ key) :
    (catalog.erase key).find? other = catalog.find? other := by
  unfold erase find?
  induction catalog.kept with
  | nil => rfl
  | cons entry rest ih =>
      by_cases same : entry.1 = other
      · simp [same, different]
      · by_cases erased : entry.1 = key
        · simpa [erased, different.symm] using ih
        · simpa [erased, same] using ih

@[simp] theorem find?_modify (catalog : Catalog K V) (serial : Nat) (change : V → V) (key : K) :
    (catalog.modify serial change).find? key = catalog.find? key := rfl

theorem keys_erase (catalog : Catalog K V) (key : K) :
    (catalog.erase key).keys = catalog.keys.filter (· ≠ key) := by
  simp [erase, keys, List.filter_map, Function.comp_def]

theorem mem_keys_iff (catalog : Catalog K V) {key : K} :
    key ∈ catalog.keys ↔ ∃ serial, catalog.find? key = some serial := by
  simp only [keys, find?, List.mem_map, Option.map_eq_some_iff, Prod.exists, exists_and_right,
    exists_eq_right]
  constructor
  · rintro ⟨serial, member⟩
    cases found : catalog.kept.find? (fun entry => entry.1 = key) with
    | none => simpa using List.find?_eq_none.mp found _ member
    | some entry => exact ⟨entry.2, entry.1, rfl⟩
  · rintro ⟨serial, other, found⟩
    obtain rfl : other = key := by simpa using List.find?_some found
    exact ⟨serial, List.mem_of_find?_eq_some found⟩

end Catalog

end SipContainer

import SipContainer.Digest.Sha256
import SipContainer.Text.Bytes
import SipContainer.Text.Number
/-!
Application names under their routing hashes. A hash is what travels in tags and routes instead of
the name: sixteen hexadecimal digits, so it holds no character that either would have to escape.
-/

namespace SipContainer

/-- The names that hashes stand for. A hash occurs once. -/
structure NameTable where
  entries : List (String × String) := []
deriving DecidableEq, Repr

namespace NameTable

def hash (name : String) : String :=
  Text.hex ((Digest.Sha256.digest (Text.bytes name)).take 8)

def name? (table : NameTable) (hash : String) : Option String :=
  (table.entries.find? (fun entry => entry.1 == hash)).map Prod.snd

def erase (table : NameTable) (hash : String) : NameTable :=
  ⟨table.entries.filter (fun entry => entry.1 != hash)⟩

def register (table : NameTable) (name : String) : NameTable :=
  ⟨(hash name, name) :: (table.erase (hash name)).entries⟩

def unregister (table : NameTable) (name : String) : NameTable :=
  table.erase (hash name)

theorem name?_erase_self (table : NameTable) (hash : String) :
    (table.erase hash).name? hash = none := by
  simp [erase, name?]

theorem name?_erase_of_ne (table : NameTable) {hash other : String} (different : other ≠ hash) :
    (table.erase hash).name? other = table.name? other := by
  unfold erase name?
  induction table.entries with
  | nil => rfl
  | cons entry rest ih =>
      by_cases same : entry.1 = other
      · simp [same, different]
      · by_cases erased : entry.1 = hash
        · simpa [erased, different.symm] using ih
        · simpa [erased, same] using ih

theorem name?_register_self (table : NameTable) (name : String) :
    (table.register name).name? (hash name) = some name := by
  simp [register, name?]

theorem name?_register_of_ne (table : NameTable) (name : String) {other : String}
    (different : other ≠ hash name) :
    (table.register name).name? other = table.name? other := by
  have kept := table.name?_erase_of_ne different
  unfold name? at kept ⊢
  simpa [register, different.symm] using kept

end NameTable

end SipContainer

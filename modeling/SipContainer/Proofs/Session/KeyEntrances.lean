import SipContainer.Proofs.Session.KeyText
/-!
The entrances by which an application session key comes in: its two parts, a text that holds it, and
stored data. Parts are looked at, and so are those that are cut from a text, so that neither lets in a
key of which a part is empty. Stored data are taken as they are, which makes them the one entrance for
such a key. Whatever key is stored comes back as it was.
-/

namespace SipContainer.ApplicationKey

structure Filled (key : ApplicationKey) : Prop where
  callId : key.callId ≠ ""
  applicationName : key.applicationName ≠ ""

inductive Entrance
  | parts (applicationName callId : String)
  | text (written : String)
  | stored (datum : Datum)

def Entrance.key? : Entrance → Option ApplicationKey
  | parts applicationName callId => (create applicationName callId).toOption
  | text written => (parse written).toOption
  | stored datum => ofDatum? datum

/-- The two parts of a key in stored data: in a list with the identifier first, or each under its name
among the fields of a record, and only once. -/
inductive Spells (key : ApplicationKey) : Datum → Prop
  | list : Spells key (.list [.text key.callId, .text key.applicationName])
  | record {fields : List (String × Datum)}
      (callId : (Datum.record fields).named "call_id" = [.text key.callId])
      (applicationName :
        (Datum.record fields).named "application_name" = [.text key.applicationName]) :
      Spells key (.record fields)

inductive Admits : Entrance → ApplicationKey → Prop
  | parts {key : ApplicationKey} (filled : key.Filled) :
      Admits (.parts key.applicationName key.callId) key
  | text {written lead trail : String} {key : ApplicationKey}
      (framed : Framed written lead key.callId key.applicationName trail) (filled : key.Filled) :
      Admits (.text written) key
  | stored {datum : Datum} {key : ApplicationKey} (spells : key.Spells datum) :
      Admits (.stored datum) key

variable {key : ApplicationKey} {datum : Datum} {entrance : Entrance}

theorem text?_eq_some_iff {value : String} : datum.text? = some value ↔ datum = .text value := by
  cases datum <;> simp [Datum.text?]

theorem sole?_text?_eq_some_iff {name value : String} :
    datum.sole? name >>= Datum.text? = some value ↔ datum.named name = [.text value] := by
  unfold Datum.sole?
  split
  · rename_i other named
    rw [named, Option.bind_eq_bind, Option.bind_some, text?_eq_some_iff, List.singleton_inj]
  · rename_i many
    exact iff_of_false nofun (many _)

theorem ofDatum?_eq_some_iff : ofDatum? datum = some key ↔ key.Spells datum := by
  constructor
  · intro read
    unfold ofDatum? at read
    split at read
    · obtain rfl := Option.some.inj read
      exact .list
    · rename_i fields
      obtain ⟨callId, first, rest⟩ := Option.bind_eq_some_iff.mp read
      obtain ⟨applicationName, second, same⟩ := Option.bind_eq_some_iff.mp rest
      obtain rfl := Option.some.inj same
      exact .record (sole?_text?_eq_some_iff.mp first) (sole?_text?_eq_some_iff.mp second)
    · cases read
  · intro spells
    cases spells with
    | list => rfl
    | record callId applicationName =>
        exact Option.bind_eq_some_iff.mpr ⟨_, sole?_text?_eq_some_iff.mpr callId,
          Option.bind_eq_some_iff.mpr ⟨_, sole?_text?_eq_some_iff.mpr applicationName, rfl⟩⟩

theorem spells_toDatum (key : ApplicationKey) : key.Spells key.toDatum :=
  .record rfl rfl

theorem create_eq_ok_iff_filled {applicationName callId : String} :
    create applicationName callId = .ok key ↔
      key = { callId, applicationName } ∧ key.Filled := by
  rw [create_eq_ok_iff]
  constructor
  · rintro ⟨rfl, callId, applicationName⟩
    exact ⟨rfl, callId, applicationName⟩
  · rintro ⟨rfl, filled⟩
    exact ⟨rfl, filled.callId, filled.applicationName⟩

theorem toOption_eq_some_iff {made : Except KeyError ApplicationKey} :
    made.toOption = some key ↔ made = .ok key := by
  cases made <;> simp [Except.toOption]

theorem key?_eq_some_iff : entrance.key? = some key ↔ Admits entrance key := by
  cases entrance with
  | parts applicationName callId =>
      rw [Entrance.key?, toOption_eq_some_iff, create_eq_ok_iff_filled]
      constructor
      · rintro ⟨rfl, filled⟩
        exact .parts filled
      · intro admits
        cases admits with
        | parts filled => exact ⟨rfl, filled⟩
  | text written =>
      rw [Entrance.key?, toOption_eq_some_iff, (textForm written).found]
      constructor
      · rintro ⟨lead, trail, framed, callId, applicationName⟩
        exact .text framed ⟨callId, applicationName⟩
      · intro admits
        cases admits with
        | text framed filled => exact ⟨_, _, framed, filled.callId, filled.applicationName⟩
  | stored datum =>
      rw [Entrance.key?, ofDatum?_eq_some_iff]
      constructor
      · exact .stored
      · intro admits
        cases admits with
        | stored spells => exact spells

/-- What each entrance lets in is told by the parts that it was given. The parts of a key are filled
unless the key was stored, and a key that was stored is let in again as it was. -/
theorem entrances (entrance : Entrance) (key : ApplicationKey) :
    (entrance.key? = some key ↔ Admits entrance key) ∧
      (entrance.key? = some key →
        key.Filled ∨ ∃ datum, entrance = .stored datum ∧ key.Spells datum) ∧
      (Entrance.stored key.toDatum).key? = some key := by
  refine ⟨key?_eq_some_iff, ?_, key?_eq_some_iff.mpr (.stored key.spells_toDatum)⟩
  intro admitted
  cases key?_eq_some_iff.mp admitted with
  | parts filled => exact Or.inl filled
  | text _ filled => exact Or.inl filled
  | stored spells => exact Or.inr ⟨_, rfl, spells⟩

end SipContainer.ApplicationKey

/-- A stored key has no identifier. It comes in all the same, though not by its parts. -/
theorem SipContainer.Sample.anonymous_stored :
    let datum : Datum := .record [("application_name", .text "conference"), ("call_id", .text "")]
    let key : ApplicationKey := { callId := "", applicationName := "conference" }
    (ApplicationKey.Entrance.stored datum).key? = some key ∧
      (ApplicationKey.Entrance.parts "conference" "").key? = none ∧
      ¬ ∀ (entrance : ApplicationKey.Entrance) (key : ApplicationKey),
        entrance.key? = some key → key.Filled := by
  intro datum key
  have admitted : (ApplicationKey.Entrance.stored datum).key? = some key := rfl
  refine ⟨admitted, rfl, ?_⟩
  intro always
  exact (always _ key admitted).callId rfl

import SipContainer.Proofs.Routing.RecordRoute
import SipContainer.Proofs.Routing.Tag
/-!
Making a tag and reading it. A tag that is made here is read back as the identity that it was made
for, because neither the random part nor a hash ever holds a separator; an identity without an
identifier cannot travel in a tag. Reading has three outcomes, and the tag alone says which.
-/

namespace SipContainer

theorem Text.splitFirst_unique {mark : Char} {before after before' after' : List Char}
    (same : before ++ mark :: after = before' ++ mark :: after') (absent : mark ∉ before)
    (absent' : mark ∉ before') : before = before' ∧ after = after' := by
  have first := splitFirst?_eq_some_iff.mpr ⟨Eq.refl (before ++ mark :: after), absent⟩
  have second := splitFirst?_eq_some_iff.mpr ⟨same, absent'⟩
  exact Prod.mk.inj (Option.some.inj (first.symm.trans second))

namespace RouteIdentity

variable {table : NameTable}

theorem not_marked_hex (octets : List UInt8) : ¬ Marked (Text.hex octets) := by
  intro marked
  cases octets with
  | nil => cases marked
  | cons octet rest =>
      have digits := Text.word_hex (List.cons_ne_nil octet rest)
      have alphanumeric := digits.admitted _ (Text.mem_bytes_of_mem marked (by decide))
      exact absurd alphanumeric (by decide)

theorem tagPart_hex {octets : List UInt8} (filled : octets ≠ []) : TagPart (Text.hex octets) where
  filled empty := (Text.word_hex filled).filled (Text.bytes_eq_nil_iff.mpr empty)
  unmarked := not_marked_hex octets

theorem tagPart_hash (name : String) : TagPart (NameTable.hash name) :=
  tagPart_hex (Digest.Sha256.digest_ne_nil _)

theorem tagPart_renderRandom (random : UInt32) : TagPart (renderRandom random) :=
  tagPart_hex (List.cons_ne_nil _ _)

theorem composeTag_eq (random : UInt32) (identity : RouteIdentity) :
    composeTag random identity = renderRandom random ++ "_" ++
      NameTable.hash identity.applicationName ++ "_" ++ identity.applicationId := by
  simp only [composeTag, tagTail, String.append_assoc]

theorem marked_composeTag (random : UInt32) (identity : RouteIdentity) :
    Marked (composeTag random identity) := by
  rw [Marked, composeTag_eq, toList_parts]
  exact List.mem_append_right _ List.mem_cons_self

theorem parts_unique {random hash id random' hash' id' : String}
    (same : random ++ "_" ++ hash ++ "_" ++ id = random' ++ "_" ++ hash' ++ "_" ++ id')
    (randomPart : TagPart random) (hashPart : TagPart hash) (randomPart' : TagPart random')
    (hashPart' : TagPart hash') : random = random' ∧ hash = hash' ∧ id = id' := by
  have chars := congrArg String.toList same
  rw [toList_parts, toList_parts] at chars
  obtain ⟨first, rest⟩ :=
    Text.splitFirst_unique chars randomPart.unmarked randomPart'.unmarked
  obtain ⟨second, last⟩ := Text.splitFirst_unique rest hashPart.unmarked hashPart'.unmarked
  exact ⟨String.toList_inj.mp first, String.toList_inj.mp second, String.toList_inj.mp last⟩

theorem tagged_composeTag_iff (random : UInt32) (identity other : RouteIdentity) :
    Tagged table (composeTag random identity) other ↔
      other.applicationId = identity.applicationId ∧ identity.applicationId ≠ "" ∧
        table.name? (NameTable.hash identity.applicationName) = some other.applicationName := by
  have randomPart := tagPart_renderRandom random
  have hashPart := tagPart_hash identity.applicationName
  rw [Tagged, composeTag_eq]
  constructor
  · rintro ⟨random', hash', same, randomPart', hashPart', filled, known⟩
    obtain ⟨_, rfl, id⟩ := parts_unique same randomPart hashPart randomPart' hashPart'
    exact ⟨id.symm, id ▸ filled, known⟩
  · rintro ⟨id, filled, known⟩
    exact ⟨renderRandom random, NameTable.hash identity.applicationName, by rw [id], randomPart,
      hashPart, id ▸ filled, known⟩

inductive TagReading (table : NameTable) :
    Option String → Except DispatchError (Option RouteIdentity) → Prop
  | bare {tag : Option String} (unmarked : ∀ text ∈ tag, ¬ Marked text) :
      TagReading table tag (.ok none)
  | carries {text : String} {identity : RouteIdentity} (tagged : Tagged table text identity) :
      TagReading table (some text) (.ok (some identity))
  | refused {text : String} (message : String) (marked : Marked text)
      (untagged : ∀ identity, ¬ Tagged table text identity) :
      TagReading table (some text) (.error (.malformedIdentity message))

theorem tagReading (table : NameTable) (tag : Option String) :
    TagReading table tag (decodeTag table tag) := by
  by_cases unmarked : ∀ text ∈ tag, ¬ Marked text
  · rw [decodeTag_of_unmarked unmarked]
    exact .bare unmarked
  · cases tag with
    | none => exact absurd nofun unmarked
    | some text =>
        have marked : Marked text := Decidable.byContradiction fun plain =>
          unmarked (fun other present => Option.some.inj present ▸ plain)
        by_cases tagged : ∃ identity, Tagged table text identity
        · obtain ⟨identity, tagged⟩ := tagged
          rw [decodeTag_of_tagged tagged]
          exact .carries tagged
        · have untagged := not_exists.mp tagged
          obtain ⟨message, refused⟩ := decodeTag_of_untagged marked untagged
          rw [refused]
          exact .refused message marked untagged

/-- Tags in the To header, read with a table of names: which identity a tag carries, when it carries
none, and what is read back of a tag that was made here. -/
structure TagCodec (table : NameTable) : Prop where
  carries : ∀ tag identity, decodeTag table tag = .ok (some identity) ↔
    ∃ text, tag = some text ∧ Tagged table text identity
  bare : ∀ tag, decodeTag table tag = .ok none ↔ ∀ text ∈ tag, ¬ Marked text
  refused : ∀ tag, (∃ message, decodeTag table tag = .error (.malformedIdentity message)) ↔
    ∃ text, tag = some text ∧ Marked text ∧ ∀ identity, ¬ Tagged table text identity
  composed : ∀ random identity,
    table.name? (NameTable.hash identity.applicationName) = some identity.applicationName →
    identity.applicationId ≠ "" →
    decodeTag table (some (composeTag random identity)) = .ok (some identity)
  unnamed : ∀ random identity, identity.applicationId = "" →
    ∃ message, decodeTag table (some (composeTag random identity)) =
      .error (.malformedIdentity message)

/-- Whatever the table, a tag is read for the identity it was made for, a stranger's tag for none,
and every other tag is refused. -/
theorem tagCodec (table : NameTable) : TagCodec table where
  carries := by
    intro tag identity
    constructor
    · intro read
      have reading := tagReading table tag
      rw [read] at reading
      cases reading with
      | carries tagged => exact ⟨_, rfl, tagged⟩
    · rintro ⟨text, rfl, tagged⟩
      exact decodeTag_of_tagged tagged
  bare := by
    intro tag
    constructor
    · intro read
      have reading := tagReading table tag
      rw [read] at reading
      cases reading with
      | bare unmarked => exact unmarked
    · exact decodeTag_of_unmarked
  refused := by
    intro tag
    constructor
    · rintro ⟨message, read⟩
      have reading := tagReading table tag
      rw [read] at reading
      cases reading with
      | refused message marked untagged => exact ⟨_, rfl, marked, untagged⟩
    · rintro ⟨text, rfl, marked, untagged⟩
      exact decodeTag_of_untagged marked untagged
  composed random identity known filled :=
    decodeTag_of_tagged ((tagged_composeTag_iff random identity identity).mpr ⟨rfl, filled, known⟩)
  unnamed := by
    intro random identity empty
    apply decodeTag_of_untagged (marked_composeTag random identity)
    intro other tagged
    exact ((tagged_composeTag_iff random identity other).mp tagged).2.1 empty

/-- An identifier with separators of its own comes back whole. -/
theorem tagCodec_separators :
    let table := ({} : NameTable).register "b2bua"
    let identity : RouteIdentity := { applicationName := "b2bua", applicationId := "4f1c_aa__tail_" }
    TagCodec table ∧
      table.name? (NameTable.hash identity.applicationName) = some identity.applicationName ∧
      decodeTag table (some (composeTag 7 identity)) = .ok (some identity) ∧
      decodeTag table (some "8a7f3c") = .ok none := by
  intro table identity
  have codec := tagCodec table
  have known : table.name? (NameTable.hash "b2bua") = some "b2bua" :=
    NameTable.name?_register_self {} "b2bua"
  exact ⟨codec, known, codec.composed 7 identity known (by decide),
    (codec.bare _).mpr (fun text present => Option.some.inj present ▸ by decide)⟩

end RouteIdentity

end SipContainer

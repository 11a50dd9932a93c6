import SipContainer.Routing.Identity
/-!
What a tag in the To header says about the identity of a request. A tag that was made here has a
random part, a hash and an identifier, divided by separators; only the identifier may hold
separators itself. Reading a tag gives the identity of exactly such tags, provided the hash is known,
takes every tag without a separator for a stranger's, and refuses all others.
-/

namespace SipContainer.RouteIdentity

/-- A tag with a separator claims to have been made here. -/
def Marked (tag : String) : Prop :=
  tagSeparator ∈ tag.toList

instance (tag : String) : Decidable (Marked tag) :=
  inferInstanceAs (Decidable (tagSeparator ∈ tag.toList))

structure TagPart (text : String) : Prop where
  filled : text ≠ ""
  unmarked : ¬ Marked text

def Tagged (table : NameTable) (tag : String) (identity : RouteIdentity) : Prop :=
  ∃ random hash, tag = random ++ "_" ++ hash ++ "_" ++ identity.applicationId ∧
    TagPart random ∧ TagPart hash ∧ identity.applicationId ≠ "" ∧
    table.name? hash = some identity.applicationName

theorem toList_parts (random hash id : String) :
    (random ++ "_" ++ hash ++ "_" ++ id).toList =
      random.toList ++ tagSeparator :: (hash.toList ++ tagSeparator :: id.toList) := by
  simp [tagSeparator]

theorem ofList_parts (random hash id : List Char) :
    String.ofList (random ++ tagSeparator :: (hash ++ tagSeparator :: id)) =
      String.ofList random ++ "_" ++ String.ofList hash ++ "_" ++ String.ofList id := by
  apply String.toList_inj.mp
  rw [toList_parts]
  simp only [String.toList_ofList]

theorem tagParts?_eq_some_iff {tag random hash id : String} :
    tagParts? tag = some (random, hash, id) ↔
      tag = random ++ "_" ++ hash ++ "_" ++ id ∧ TagPart random ∧ TagPart hash ∧ id ≠ "" := by
  constructor
  · intro parts
    unfold tagParts? at parts
    split at parts
    · cases parts
    · rename_i first rest early
      split at parts
      · cases parts
      · rename_i second last late
        split at parts
        · cases parts
        · rename_i filled
          obtain ⟨rfl, rfl, rfl⟩ := Option.some.inj parts
          obtain ⟨whole, firstUnmarked⟩ := Text.splitFirst?_eq_some_iff.mp early
          obtain ⟨rfl, secondUnmarked⟩ := Text.splitFirst?_eq_some_iff.mp late
          simp only [Bool.or_eq_true, not_or, List.isEmpty_iff] at filled
          have nonempty {chars : List Char} (some : chars ≠ []) : String.ofList chars ≠ "" := by
            simpa using some
          refine ⟨?_, ⟨nonempty filled.1.1, ?_⟩, ⟨nonempty filled.1.2, ?_⟩, nonempty filled.2⟩
          · rw [← ofList_parts, ← whole, String.ofList_toList]
          · rwa [Marked, String.toList_ofList]
          · rwa [Marked, String.toList_ofList]
  · rintro ⟨rfl, randomPart, hashPart, filled⟩
    have early := Text.splitFirst?_eq_some_iff.mpr
      ⟨toList_parts random hash id, randomPart.unmarked⟩
    have late := Text.splitFirst?_eq_some_iff.mpr
      ⟨Eq.refl (hash.toList ++ tagSeparator :: id.toList), hashPart.unmarked⟩
    simp only [tagParts?, early, late]
    simp [randomPart.filled, hashPart.filled, filled]

variable {table : NameTable}

theorem marked_of_tagged {tag : String} {identity : RouteIdentity}
    (tagged : Tagged table tag identity) : Marked tag := by
  obtain ⟨random, hash, rfl, _⟩ := tagged
  rw [Marked, toList_parts]
  exact List.mem_append_right _ List.mem_cons_self

theorem decodeTag_of_unmarked {tag : Option String} (unmarked : ∀ text ∈ tag, ¬ Marked text) :
    decodeTag table tag = .ok none := by
  cases tag with
  | none => rfl
  | some text =>
      have absent : text.toList.contains tagSeparator = false := by
        simpa [Marked] using unmarked text rfl
      simp only [decodeTag, absent, Bool.not_false, if_true]

theorem decodeTag_of_tagged {tag : String} {identity : RouteIdentity}
    (tagged : Tagged table tag identity) : decodeTag table (some tag) = .ok (some identity) := by
  have marked : tag.toList.contains tagSeparator = true :=
    List.contains_iff_mem.mpr (marked_of_tagged tagged)
  obtain ⟨random, hash, whole, randomPart, hashPart, filled, known⟩ := tagged
  have parts := tagParts?_eq_some_iff.mpr ⟨whole, randomPart, hashPart, filled⟩
  simp only [decodeTag, marked, Bool.not_true, Bool.false_eq_true, if_false, parts, known]

theorem decodeTag_of_untagged {tag : String} (marked : Marked tag)
    (untagged : ∀ identity, ¬ Tagged table tag identity) :
    ∃ message, decodeTag table (some tag) = .error (.malformedIdentity message) := by
  have present : tag.toList.contains tagSeparator = true := List.contains_iff_mem.mpr marked
  simp only [decodeTag, present, Bool.not_true, Bool.false_eq_true, if_false]
  split
  · exact ⟨_, rfl⟩
  · rename_i random hash id parts
    obtain ⟨whole, randomPart, hashPart, filled⟩ := tagParts?_eq_some_iff.mp parts
    split
    · exact ⟨_, rfl⟩
    · rename_i name known
      exact absurd ⟨random, hash, whole, randomPart, hashPart, filled, known⟩
        (untagged { applicationName := name, applicationId := id })

end SipContainer.RouteIdentity

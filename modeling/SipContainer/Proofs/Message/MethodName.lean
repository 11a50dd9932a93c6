import SipContainer.Proofs.Message.HeaderForm
/-!
What a text means as the name of a method. The names that are read and the names that are printed are two
tables, which agree. A known name means its method in any letter case; every other token means an extension
method of exactly that spelling. So a method that has been read is read again from its printed name, and no
token stands for a known method and for an extension.
-/

namespace SipContainer

open Text Text.Reader
open Header (isTokenOctet)

namespace Method

variable {method other : Method} {text token : String}

inductive Names (token : String) : Method → Prop
  | known {method : Method} (known : method.isExtension = false)
      (same : lower token = lower method.name) : Names token method
  | extension (unknown : ∀ method : Method, method.isExtension = false →
      lower token ≠ lower method.name) : Names token (.extension token)

theorem named?_eq_some_iff {name : String} :
    named? name = some method ↔ method.isExtension = false ∧ method.name = name := by
  constructor
  · intro found
    unfold named? at found
    split at found <;> cases found <;> exact ⟨rfl, rfl⟩
  · rintro ⟨known, rfl⟩
    cases method with
    | extension => cases known
    | _ => rfl

theorem named?_name (known : method.isExtension = false) : named? method.name = some method :=
  named?_eq_some_iff.mpr ⟨known, rfl⟩

theorem upper_name (known : method.isExtension = false) : upper method.name = method.name := by
  cases method with
  | extension => cases known
  | _ => rfl

theorem word_name (known : method.isExtension = false) :
    Word isTokenOctet method.name (bytes method.name) := by
  cases method with
  | extension => cases known
  | _ => exact .of_all (by decide) (by decide +kernel)

theorem eq_of_lower_name (known : method.isExtension = false) (knownToo : other.isExtension = false)
    (same : lower method.name = lower other.name) : method = other := by
  have printed : method.name = other.name := by
    rw [← upper_name known, ← upper_name knownToo]
    exact upper_eq_iff.mpr same
  have read := named?_name known
  rw [printed, named?_name knownToo] at read
  exact (Option.some.inj read).symm

theorem names_ofName (token : String) : Names token (ofName token) := by
  unfold ofName
  cases found : named? (upper token) with
  | none =>
      refine .extension fun method known same => ?_
      rw [upper_eq_iff.mpr same, upper_name known, named?_name known] at found
      cases found
  | some method =>
      obtain ⟨known, printed⟩ := named?_eq_some_iff.mp found
      refine .known known (upper_eq_iff.mp ?_)
      rw [Option.getD_some, printed, ← printed, upper_name known]

theorem Names.unique (one : Names token method) (two : Names token other) : method = other := by
  cases one with
  | known known same =>
      cases two with
      | known also again => exact eq_of_lower_name known also (same.symm.trans again)
      | extension unknown => exact absurd same (unknown _ known)
  | extension unknown =>
      cases two with
      | known known same => exact absurd same (unknown _ known)
      | extension _ => rfl

theorem parse_eq_ok_iff : parse text = .ok method ↔
    Word isTokenOctet (trim text) (bytes (trim text)) ∧ Names (trim text) method := by
  unfold parse
  rw [Header.parse_eq_ok_iff]
  constructor
  · intro taken
    obtain ⟨token, rest, front, done⟩ := bind_eq_ok.mp taken
    cases done
    obtain ⟨octets, word, whole⟩ := Header.recognizes_token.sound front
    rw [List.append_nil] at whole
    obtain rfl : trim text = token := bytes_injective (whole.trans word.spelled)
    rw [whole]
    exact ⟨word, names_ofName _⟩
  · rintro ⟨word, names⟩
    have front := Header.recognizes_token.complete word Header.offParam_nil.token
    rw [List.append_nil] at front
    rw [names.unique (names_ofName _)]
    exact bind_of_ok front

theorem parse_of_word (word : Word isTokenOctet (trim text) (bytes (trim text)))
    (named : ofName (trim text) = method) : parse text = .ok method :=
  parse_eq_ok_iff.mpr ⟨word, named ▸ names_ofName _⟩

theorem Names.name_named (names : Names token method) : Names method.name method := by
  cases names with
  | known known _ => exact .known known rfl
  | extension unknown => exact .extension unknown

theorem Names.word_name (names : Names token method) (word : Word isTokenOctet token (bytes token)) :
    Word isTokenOctet method.name (bytes method.name) := by
  cases names with
  | known known _ => exact Method.word_name known
  | extension _ => exact word

theorem trim_of_word (word : Word isTokenOctet token (bytes token)) : trim token = token :=
  trim_of_visible (word.visible Header.isVisible_of_isTokenOctet)

theorem parse_name (read : parse text = .ok method) : parse method.name = .ok method := by
  obtain ⟨word, names⟩ := parse_eq_ok_iff.mp read
  have named := names.word_name word
  rw [parse_eq_ok_iff, trim_of_word named]
  exact ⟨named, names.name_named⟩

theorem trim_of_known (known : method.isExtension = false) (same : lower text = lower method.name) :
    trim text = text := by
  apply trim_of_visible
  apply visible_of_lower
  rw [same]
  apply List.all_eq_true.mp
  cases method with
  | extension => cases known
  | _ => decide +kernel

/-- Two tokens of one spelling, or two spellings of one known name. -/
def SameName (left right : String) : Prop :=
  left = right ∨ ∃ method : Method, method.isExtension = false ∧
    lower left = lower method.name ∧ lower right = lower method.name

theorem Names.eq_iff {left right : String} (one : Names left method) (two : Names right other) :
    method = other ↔ SameName left right := by
  constructor
  · rintro rfl
    cases one with
    | known known same =>
        cases two with
        | known _ again => exact Or.inr ⟨_, known, same, again⟩
        | extension _ => cases known
    | extension _ =>
        cases two with
        | known known _ => cases known
        | extension _ => exact Or.inl rfl
  · rintro (rfl | ⟨method, known, same, again⟩)
    · exact one.unique two
    · exact (one.unique (.known known same)).trans (two.unique (.known known again)).symm

/-- What a method has to do with a text that it has been read from. -/
structure NamedBy (text : String) (method : Method) : Prop where
  printed : parse method.name = .ok method
  known : ∀ known : Method, known.isExtension = false →
    lower (trim text) = lower known.name → method = known
  unextended : ∀ known : Method, known.isExtension = false →
    lower text = lower known.name → method.isExtension = false
  kept : method.isExtension = true → method.name = trim text

theorem namedBy_of_parse (read : parse text = .ok method) : NamedBy text method := by
  obtain ⟨_, names⟩ := parse_eq_ok_iff.mp read
  constructor
  · exact parse_name read
  · intro other known same
    exact names.unique (.known known same)
  · intro other known same
    rw [trim_of_known known same] at names
    rw [names.unique (.known known same)]
    exact known
  · intro extended
    cases names with
    | known known _ =>
        rw [known] at extended
        cases extended
    | extension _ => rfl

/-- Methods are read again from their names, and two texts are read as one method if and only if, the blanks
around them aside, they have the same spelling or spell the same known name in any letter case. -/
theorem spelledAlike {text another : String} {method other : Method}
    (read : parse text = .ok method) (readToo : parse another = .ok other) :
    NamedBy text method ∧ (method = other ↔ SameName (trim text) (trim another)) :=
  ⟨namedBy_of_parse read,
    (parse_eq_ok_iff.mp read).2.eq_iff (parse_eq_ok_iff.mp readToo).2⟩

theorem spelledAlike_notify :
    (parse " notIFY" = .ok notify ∧ parse "Notify" = .ok notify ∧
      NamedBy " notIFY" notify ∧ SameName (trim " notIFY") (trim "Notify")) ∧
    (parse " ping" = .ok (.extension "ping") ∧ parse "Ping" = .ok (.extension "Ping") ∧
      NamedBy " ping" (.extension "ping") ∧ ¬ SameName (trim " ping") (trim "Ping")) := by
  have mixed : parse " notIFY" = .ok notify :=
    parse_of_word (.of_all (by decide +kernel) (by decide +kernel)) (by decide +kernel)
  have capital : parse "Notify" = .ok notify :=
    parse_of_word (.of_all (by decide +kernel) (by decide +kernel)) (by decide +kernel)
  have small : parse " ping" = .ok (.extension "ping") :=
    parse_of_word (.of_all (by decide +kernel) (by decide +kernel)) (by decide +kernel)
  have large : parse "Ping" = .ok (.extension "Ping") :=
    parse_of_word (.of_all (by decide +kernel) (by decide +kernel)) (by decide +kernel)
  obtain ⟨known, alike⟩ := spelledAlike mixed capital
  obtain ⟨unknown, apart⟩ := spelledAlike small large
  exact ⟨⟨mixed, capital, known, alike.mp rfl⟩,
    ⟨small, large, unknown, fun same => absurd (apart.mpr same) (by decide)⟩⟩

end Method

end SipContainer

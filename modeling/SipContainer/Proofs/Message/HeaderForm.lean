import SipContainer.Message.Event
import SipContainer.Message.Method
import SipContainer.Proofs.Message.Address
/-!
The written forms of the parts of header values: a token, and behind it any number of parameters, each
one a name with a token or a quoted text as its value, or without a value. The readers of the parts
recognize their forms and cover them. So they never stop in front of something that would have belonged
to the form, although a value, a quoted text or a whole parameter that is begun and not finished is given
back.
-/

namespace SipContainer.Header

open Text Text.Reader

def isGapOctet (octet : UInt8) : Bool :=
  octet == 0x20 || octet == 0x09

def Gap (octets : List UInt8) : Prop :=
  ∀ octet ∈ octets, isGapOctet octet = true

def Separated (separator : Char) (octets : List UInt8) : Prop :=
  ∃ before after, Gap before ∧ Gap after ∧ octets = before ++ mark separator :: after

def QuotedForm (text : String) (octets : List UInt8) : Prop :=
  ∃ content, mark '"' ∉ content ∧ octets = mark '"' :: (content ++ [mark '"']) ∧
    text = ofBytes content

def ValueForm (text : String) (octets : List UInt8) : Prop :=
  Word isTokenOctet text octets ∨ QuotedForm text octets

def AssignedForm (text : String) (octets : List UInt8) : Prop :=
  ∃ separator value, Separated '=' separator ∧ ValueForm text value ∧ octets = separator ++ value

inductive ParamForm (param : Param) : List UInt8 → Prop
  | parts {separator name value : List UInt8} (separated : Separated ';' separator)
      (named : Word isTokenOctet param.1 name) (valued : Maybe AssignedForm param.2 value) :
      ParamForm param (separator ++ (name ++ value))

def OffToken (rest : List UInt8) : Prop :=
  ∀ next ∈ rest.head?, isTokenOctet next = false

def OffGap (rest : List UInt8) : Prop :=
  ∀ next ∈ rest.head?, isGapOctet next = false

/-- What follows does not continue a parameter: neither its name or value, nor by a value. -/
structure OffParam (rest : List UInt8) : Prop where
  token : OffToken rest
  value : ∀ next ∈ (rest.dropWhile isGapOctet).head?, next ≠ mark '='

theorem eq_of_isGapOctet {octet : UInt8} (gap : isGapOctet octet = true) :
    octet = 0x20 ∨ octet = 0x09 :=
  (Bool.or_eq_true_iff.mp gap).imp eq_of_beq eq_of_beq

theorem isTokenOctet_of_isGapOctet {octet : UInt8} (gap : isGapOctet octet = true) :
    isTokenOctet octet = false := by
  rcases eq_of_isGapOctet gap with rfl | rfl
  · decide
  · decide

theorem isVisible_of_isTokenOctet {octet : UInt8} (admitted : isTokenOctet octet = true) :
    isVisible octet = true :=
  Uri.admitted_of_either isVisible Uri.isVisible_of_isAlphanumericOctet (by decide) admitted

theorem offGap_of_word {text : String} {octets : List UInt8} (word : Word isTokenOctet text octets)
    (rest : List UInt8) : OffGap (octets ++ rest) := by
  obtain ⟨first, others, rfl⟩ := List.exists_cons_of_ne_nil word.filled
  rintro next ⟨⟩
  have admitted := word.admitted first List.mem_cons_self
  cases gap : isGapOctet first with
  | false => rfl
  | true =>
      rw [isTokenOctet_of_isGapOctet gap] at admitted
      cases admitted

theorem offGap_of_value {text : String} {octets : List UInt8} (form : ValueForm text octets)
    (rest : List UInt8) : OffGap (octets ++ rest) := by
  rcases form with word | ⟨content, _, rfl, _⟩
  · exact offGap_of_word word rest
  · rintro next ⟨⟩
    decide

section

variable {separator : Char} {octets : List UInt8}

theorem dropWhile_separated (solid : isGapOctet (mark separator) = false)
    (separated : Separated separator octets) (rest : List UInt8) :
    ∃ after, Gap after ∧
      (octets ++ rest).dropWhile isGapOctet = mark separator :: (after ++ rest) := by
  obtain ⟨before, after, leading, trailing, rfl⟩ := separated
  have ends : ∀ next ∈ (mark separator :: (after ++ rest)).head?, isGapOctet next = false := by
    rintro next ⟨⟩
    exact solid
  refine ⟨after, trailing, ?_⟩
  rw [List.append_assoc, List.cons_append]
  exact (takeWhile_append leading ends).2

theorem offToken_of_separated (other : isTokenOctet (mark separator) = false)
    (separated : Separated separator octets) (rest : List UInt8) : OffToken (octets ++ rest) := by
  obtain ⟨before, after, leading, _, rfl⟩ := separated
  cases before with
  | nil =>
      rintro next ⟨⟩
      exact other
  | cons first others =>
      rintro next ⟨⟩
      exact isTokenOctet_of_isGapOctet (leading first List.mem_cons_self)

end

theorem offParam_of_param {param : Param} {octets : List UInt8} (form : ParamForm param octets)
    (rest : List UInt8) : OffParam (octets ++ rest) := by
  obtain ⟨separated, named, valued⟩ := form
  rw [List.append_assoc]
  constructor
  · exact offToken_of_separated (by decide) separated _
  · obtain ⟨after, _, left⟩ := dropWhile_separated (by decide) separated _
    rw [left]
    rintro next ⟨⟩
    decide

theorem offParam_nil : OffParam [] where
  token := nofun
  value := nofun

/-! ### Parts -/

theorem recognizes_token : Recognizes readToken (Word isTokenOctet) OffToken :=
  recognizes_word fun _ admitted => lt_of_isVisible (isVisible_of_isTokenOctet admitted)

theorem gap_append (input : List UInt8) :
    ∃ gap, Gap gap ∧ input = gap ++ input.dropWhile isGapOctet :=
  ⟨input.takeWhile isGapOctet, List.all_eq_true.mp List.all_takeWhile,
    List.takeWhile_append_dropWhile.symm⟩

theorem readGap_eq (input : List UInt8) : readGap input = .ok ((), input.dropWhile isGapOctet) :=
  rfl

theorem readSeparator_append {separator : Char} (solid : isGapOctet (mark separator) = false)
    {octets rest : List UInt8} (separated : Separated separator octets) (ends : OffGap rest) :
    readSeparator separator (octets ++ rest) = .ok ((), rest) := by
  obtain ⟨after, trailing, left⟩ := dropWhile_separated solid separated rest
  unfold readSeparator
  rw [bind_of_ok (readGap_eq _), left, bind_of_ok (char_cons separator _), readGap_eq,
    (takeWhile_append trailing ends).2]

theorem readSeparator_eq_ok {separator : Char} {input rest : List UInt8}
    (read : readSeparator separator input = .ok ((), rest)) :
    ∃ octets, Separated separator octets ∧ input = octets ++ rest := by
  obtain ⟨_, left, opened, read⟩ := bind_eq_ok.mp read
  obtain ⟨_, behind, marked, closed⟩ := bind_eq_ok.mp read
  rw [readGap_eq] at opened closed
  cases opened
  cases closed
  obtain ⟨before, leading, whole⟩ := gap_append input
  obtain ⟨after, trailing, back⟩ := gap_append behind
  refine ⟨_, ⟨before, after, leading, trailing, rfl⟩, ?_⟩
  rw [List.append_assoc, List.cons_append, ← back, ← char_eq_ok marked, ← whole]

theorem readSeparator_of_other {separator : Char} {input : List UInt8}
    (other : ∀ next ∈ (input.dropWhile isGapOctet).head?, next ≠ mark separator) :
    readSeparator separator input = .error (input.dropWhile isGapOctet) := by
  unfold readSeparator
  rw [bind_of_ok (readGap_eq _)]
  exact bind_of_error (char_of_other other)

theorem recognizes_quoted : Recognizes readQuoted QuotedForm (fun _ => True) where
  complete := by
    rintro text _ rest ⟨content, unquoted, rfl, rfl⟩ _
    have inside : ∀ octet ∈ content, (octet != 0x22) = true := by
      intro octet member
      rw [bne_iff_ne]
      rintro rfl
      exact unquoted member
    have closed : ∀ next ∈ (mark '"' :: rest).head?, (next != 0x22) = false := by
      rintro next ⟨⟩
      decide
    have taken := takeWhile_append inside closed
    have run : Reader.run (fun octet => octet != 0x22) (content ++ mark '"' :: rest) =
        .ok (content, mark '"' :: rest) := by
      rw [Reader.run, taken.1, taken.2]
    unfold readQuoted
    rw [List.cons_append, List.append_assoc, List.singleton_append, bind_of_ok (char_cons '"' _),
      bind_of_ok run, bind_of_ok (char_cons '"' _)]
    rfl
  sound := by
    intro text input rest read
    obtain ⟨_, inner, opened, read⟩ := bind_eq_ok.mp read
    obtain ⟨content, left, run, read⟩ := bind_eq_ok.mp read
    obtain ⟨_, last, closed, done⟩ := bind_eq_ok.mp read
    cases run
    cases done
    have unquoted : mark '"' ∉ inner.takeWhile (fun octet => octet != 0x22) := by
      intro member
      have different := List.all_eq_true.mp List.all_takeWhile _ member
      exact absurd different (by decide)
    refine ⟨_, ⟨_, unquoted, rfl, rfl⟩, ?_⟩
    rw [List.cons_append, List.append_assoc, List.singleton_append, ← char_eq_ok closed,
      List.takeWhile_append_dropWhile, ← char_eq_ok opened]

theorem readToken_of_quoted {text : String} {octets : List UInt8} (quoted : QuotedForm text octets)
    (rest : List UInt8) : readToken (octets ++ rest) = .error (octets ++ rest) := by
  obtain ⟨content, _, rfl, _⟩ := quoted
  apply word_of_other
  rintro next ⟨⟩
  decide

theorem recognizes_value : Recognizes (orElse readToken readQuoted) ValueForm OffToken where
  complete := by
    rintro text octets rest (word | quoted) ends
    · exact orElse_of_ok (recognizes_token.complete word ends)
    · rw [orElse_of_error (readToken_of_quoted quoted rest)]
      exact recognizes_quoted.complete quoted trivial
  sound := by
    intro text input rest read
    rcases orElse_eq_ok read with token | quoted
    · obtain ⟨octets, word, rfl⟩ := recognizes_token.sound token
      exact ⟨octets, Or.inl word, rfl⟩
    · obtain ⟨octets, form, rfl⟩ := recognizes_quoted.sound quoted
      exact ⟨octets, Or.inr form, rfl⟩

theorem recognizes_assigned :
    Recognizes (do readSeparator '='; orElse readToken readQuoted) AssignedForm OffToken where
  complete := by
    rintro text _ rest ⟨separator, value, separated, form, rfl⟩ ends
    have opened := readSeparator_append (by decide) separated (offGap_of_value form rest)
    rw [List.append_assoc, bind_of_ok opened]
    exact recognizes_value.complete form ends
  sound := by
    intro text input rest read
    obtain ⟨_, left, opened, read⟩ := bind_eq_ok.mp read
    obtain ⟨value, form, rfl⟩ := recognizes_value.sound read
    obtain ⟨separator, separated, rfl⟩ := readSeparator_eq_ok opened
    exact ⟨separator ++ value, ⟨separator, value, separated, form, rfl⟩,
      (List.append_assoc _ _ _).symm⟩

theorem recognizes_optionalValue :
    Recognizes (Reader.optional (do readSeparator '='; orElse readToken readQuoted))
      (Maybe AssignedForm) OffParam :=
  recognizes_assigned.optional fun _ ends =>
    ⟨ends.token, _, bind_of_error (readSeparator_of_other ends.value)⟩

theorem offToken_of_value {value : Option String} {octets rest : List UInt8}
    (valued : Maybe AssignedForm value octets) (ends : OffToken rest) : OffToken (octets ++ rest) := by
  cases value with
  | none =>
      obtain rfl : octets = [] := valued
      exact ends
  | some text =>
      obtain ⟨separator, value, separated, _, rfl⟩ := valued
      rw [List.append_assoc]
      exact offToken_of_separated (by decide) separated _

theorem recognizes_param : Recognizes readParam ParamForm OffParam where
  complete := by
    rintro param _ rest (@⟨separator, name, value, separated, named, valued⟩) ends
    have opened := readSeparator_append (by decide) separated (offGap_of_word named (value ++ rest))
    unfold readParam
    rw [List.append_assoc, List.append_assoc, bind_of_ok opened,
      bind_of_ok (recognizes_token.complete named (offToken_of_value valued ends.token)),
      bind_of_ok (recognizes_optionalValue.complete valued ends)]
    rfl
  sound := by
    intro param input rest read
    obtain ⟨_, _, opened, read⟩ := bind_eq_ok.mp read
    obtain ⟨name, _, named, read⟩ := bind_eq_ok.mp read
    obtain ⟨value, _, valued, done⟩ := bind_eq_ok.mp read
    cases done
    obtain ⟨back, assigned, rfl⟩ := recognizes_optionalValue.sound valued
    obtain ⟨front, word, rfl⟩ := recognizes_token.sound named
    obtain ⟨separator, separated, rfl⟩ := readSeparator_eq_ok opened
    exact ⟨_, .parts separated word assigned, by simp only [List.append_assoc]⟩

theorem param_filled (param : Param) (octets : List UInt8) (form : ParamForm param octets) :
    octets ≠ [] := by
  obtain ⟨separated, named, _⟩ := form
  exact List.append_ne_nil_of_right_ne_nil _ (List.append_ne_nil_of_left_ne_nil named.filled _)

theorem recognizes_params :
    Recognizes (Reader.many readParam) (Sequence ParamForm) (fun rest => rest = []) := by
  refine recognizes_param.many param_filled ?_ ?_
  · exact fun param octets rest form => offParam_of_param form rest
  · rintro rest rfl
    exact ⟨offParam_nil, [], rfl⟩

def readParametrized (finish : String → List Param → α) : Reader α := do
  let token ← readToken
  let params ← Reader.many readParam
  return finish token params

theorem offToken_of_params {params : List Param} {octets : List UInt8}
    (form : Sequence ParamForm params octets) : OffToken octets := by
  cases form with
  | nil => exact offParam_nil.token
  | cons first _ => exact (offParam_of_param first _).token

theorem readParametrized_append (finish : String → List Param → α) {token : String}
    {params : List Param} {front back : List UInt8} (named : Word isTokenOctet token front)
    (behind : Sequence ParamForm params back) :
    readParametrized finish (front ++ back) = .ok (finish token params, []) := by
  have read : Reader.many readParam (back ++ []) = .ok (params, []) :=
    recognizes_params.complete behind rfl
  rw [List.append_nil] at read
  unfold readParametrized
  rw [bind_of_ok (recognizes_token.complete named (offToken_of_params behind)), bind_of_ok read]
  rfl

theorem readParametrized_eq_ok {finish : String → List Param → α} {input rest : List UInt8} {value : α}
    (read : readParametrized finish input = .ok (value, rest)) :
    ∃ token params front back, Word isTokenOctet token front ∧ Sequence ParamForm params back ∧
      input = front ++ (back ++ rest) ∧ value = finish token params := by
  obtain ⟨token, _, named, read⟩ := bind_eq_ok.mp read
  obtain ⟨params, _, behind, done⟩ := bind_eq_ok.mp read
  cases done
  obtain ⟨front, word, rfl⟩ := recognizes_token.sound named
  obtain ⟨back, form, rfl⟩ := recognizes_params.sound behind
  exact ⟨token, params, front, back, word, form, rfl, rfl⟩

theorem parse_eq_ok_iff {header : String} {reader : Reader α} {text : String} {value : α} :
    parse header reader text = .ok value ↔ reader (bytes (trim text)) = .ok (value, []) := by
  rw [← wholeText_eq_ok_iff]
  unfold parse
  cases reader.wholeText text <;> simp

theorem covers_value : Covers (orElse readToken readQuoted) ValueForm := by
  rintro text octets (word | quoted) rest
  · obtain ⟨found, left, read, bound⟩ := covers_word word rest
    exact ⟨found, left, orElse_of_ok read, bound⟩
  · -- A quoted text ends with its quote, so what follows does not matter.
    have read : orElse readToken readQuoted (octets ++ rest) = .ok (text, rest) := by
      rw [orElse_of_error (readToken_of_quoted quoted rest)]
      exact recognizes_quoted.complete quoted trivial
    exact reaches_of_ok read

theorem covers_assigned :
    Covers (do readSeparator '='; orElse readToken readQuoted) AssignedForm := by
  rintro text _ ⟨separator, value, separated, form, rfl⟩ rest
  have opened := readSeparator_append (by decide) separated (offGap_of_value form rest)
  rw [List.append_assoc]
  exact .bind opened (covers_value form rest)

theorem total_optionalValue :
    Total (Reader.optional (do readSeparator '='; orElse readToken readQuoted)) :=
  recognizes_assigned.total_optional

theorem covers_param : Covers readParam ParamForm := by
  rintro param _ (@⟨separator, name, value, separated, named, valued⟩) rest
  have opened := readSeparator_append (by decide) separated (offGap_of_word named (value ++ rest))
  unfold readParam
  rw [List.append_assoc, List.append_assoc]
  refine .bind opened (recognizes_token.reaches_bind covers_word
    (fun _ => total_optionalValue.bind fun _ => total_pure _) named ?_)
  obtain ⟨name, value⟩ := param
  cases value with
  | none => exact Or.inl valued
  | some text =>
      have covered := covers_assigned.optional total_optionalValue valued rest
      obtain ⟨separator, value, assigned, _, rfl⟩ := valued
      refine Or.inr ⟨?_, covered.bind_total fun _ => total_pure _⟩
      rw [List.append_assoc]
      exact offToken_of_separated (by decide) assigned _

theorem covers_params : Covers (Reader.many readParam) (Sequence ParamForm) :=
  recognizes_param.covers_many covers_param param_filled
    fun _ _ rest form => offParam_of_param form rest

theorem total_params : Total (Reader.many readParam) :=
  recognizes_param.total_many param_filled

end SipContainer.Header

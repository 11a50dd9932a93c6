import Mathlib.Computability.Language
import SipContainer.Proofs.Message.HeaderForm
/-!
The languages of header values, written as their grammars have them. A reader of such values is greedy:
it takes off the longest front of its input that belongs to the language, whatever it had begun and given
back on the way. So a text is refused with the length of the longest front that would have been accepted,
and as such a front ends with a mark or a letter of its own, the text can be divided there.
-/

namespace SipContainer.Header

open Text Text.Reader
open scoped Computability

def tokens : Language UInt8 :=
  {octets | octets ≠ [] ∧ ∀ octet ∈ octets, isTokenOctet octet = true}

def gaps : Language UInt8 :=
  {octets | Gap octets}

def separators (separator : Char) : Language UInt8 :=
  gaps * {[mark separator]} * gaps

def unquoted : Language UInt8 :=
  {octets | mark '"' ∉ octets}

def quotedTexts : Language UInt8 :=
  {[mark '"']} * unquoted * {[mark '"']}

def params : Language UInt8 :=
  separators ';' * tokens * (1 + separators '=' * (tokens + quotedTexts))

def parametrized : Language UInt8 :=
  tokens * params∗

/-! ### Words of the grammars are written forms -/

def Spells (language : Language UInt8) (written : α → List UInt8 → Prop) : Prop :=
  ∀ octets, octets ∈ language ↔ ∃ value, written value octets

theorem ascii_of_mem_tokens {octets : List UInt8} (member : octets ∈ tokens) : Ascii octets :=
  fun octet inside => lt_of_isVisible (isVisible_of_isTokenOctet (member.2 octet inside))

theorem spells_tokens : Spells tokens (Word isTokenOctet) := by
  intro octets
  constructor
  · intro member
    exact ⟨_, (bytes_ofBytes (ascii_of_mem_tokens member)).symm, member.1, member.2⟩
  · rintro ⟨text, word⟩
    exact ⟨word.filled, word.admitted⟩

theorem mem_separators {separator : Char} {octets : List UInt8} :
    octets ∈ separators separator ↔ Separated separator octets := by
  constructor
  · rintro ⟨_, ⟨before, leading, _, rfl, rfl⟩, after, trailing, rfl⟩
    exact ⟨before, after, leading, trailing, List.append_assoc _ _ _⟩
  · rintro ⟨before, after, leading, trailing, rfl⟩
    exact ⟨before ++ [mark separator], ⟨before, leading, _, rfl, rfl⟩, after, trailing,
      List.append_assoc _ _ _⟩

theorem spells_quotedTexts : Spells quotedTexts QuotedForm := by
  intro octets
  constructor
  · rintro ⟨_, ⟨_, rfl, content, free, rfl⟩, _, rfl, rfl⟩
    exact ⟨_, content, free, rfl, rfl⟩
  · rintro ⟨_, content, free, rfl, _⟩
    exact ⟨mark '"' :: content, ⟨_, rfl, content, free, rfl⟩, _, rfl, rfl⟩

theorem Spells.maybe {language : Language UInt8} {written : α → List UInt8 → Prop}
    (spells : Spells language written) : Spells (1 + language) (Maybe written) := by
  intro octets
  rw [Language.mem_add, Language.mem_one, spells octets]
  constructor
  · rintro (nothing | ⟨value, form⟩)
    · exact ⟨none, nothing⟩
    · exact ⟨some value, form⟩
  · rintro ⟨_ | value, form⟩
    · exact Or.inl form
    · exact Or.inr ⟨value, form⟩

theorem Spells.sequence {language : Language UInt8} {written : α → List UInt8 → Prop}
    (spells : Spells language written) : Spells language∗ (Sequence written) := by
  intro octets
  rw [Language.mem_kstar]
  constructor
  · rintro ⟨members, rfl, each⟩
    induction members with
    | nil => exact ⟨[], .nil⟩
    | cons first others ih =>
        obtain ⟨listed, later⟩ := List.forall_mem_cons.mp each
        obtain ⟨value, form⟩ := (spells first).mp listed
        obtain ⟨values, behind⟩ := ih later
        exact ⟨value :: values, .cons form behind⟩
  · rintro ⟨values, form⟩
    induction form with
    | nil => exact ⟨[], rfl, nofun⟩
    | @cons value octets _ _ first _ ih =>
        obtain ⟨members, rfl, each⟩ := ih
        have listed : octets ∈ language := (spells octets).mpr ⟨value, first⟩
        exact ⟨octets :: members, rfl, List.forall_mem_cons.mpr ⟨listed, each⟩⟩

theorem spells_values : Spells (tokens + quotedTexts) ValueForm := by
  intro octets
  rw [Language.mem_add, spells_tokens octets, spells_quotedTexts octets]
  exact exists_or.symm

theorem spells_assigned : Spells (separators '=' * (tokens + quotedTexts)) AssignedForm := by
  intro octets
  rw [Language.mem_mul]
  constructor
  · rintro ⟨separator, separated, value, member, rfl⟩
    obtain ⟨text, form⟩ := (spells_values value).mp member
    exact ⟨text, separator, value, mem_separators.mp separated, form, rfl⟩
  · rintro ⟨text, separator, value, separated, form, rfl⟩
    exact ⟨separator, mem_separators.mpr separated, value, (spells_values value).mpr ⟨text, form⟩, rfl⟩

theorem spells_params : Spells params ParamForm := by
  intro octets
  constructor
  · rintro ⟨_, ⟨separator, separated, name, named, rfl⟩, value, valued, rfl⟩
    obtain ⟨token, word⟩ := (spells_tokens name).mp named
    obtain ⟨assigned, form⟩ := (spells_assigned.maybe value).mp valued
    have whole : ParamForm (token, assigned) (separator ++ (name ++ value)) :=
      .parts (mem_separators.mp separated) word form
    rw [← List.append_assoc] at whole
    exact ⟨_, whole⟩
  · rintro ⟨param, @⟨separator, name, value, separated, named, valued⟩⟩
    rw [← List.append_assoc]
    exact ⟨separator ++ name,
      ⟨separator, mem_separators.mpr separated, name, (spells_tokens name).mpr ⟨_, named⟩, rfl⟩,
      value, (spells_assigned.maybe value).mpr ⟨_, valued⟩, rfl⟩

/-- The last octet is a character of its own. -/
def PlainEnd (octets : List UInt8) : Prop :=
  ∀ last ∈ octets.getLast?, last < 0x80

theorem plainEnd_nil : PlainEnd [] :=
  nofun

theorem plainEnd_of_ascii {octets : List UInt8} (ascii : Ascii octets) : PlainEnd octets :=
  fun last present => ascii last (List.mem_of_getLast? present)

theorem PlainEnd.append {front back : List UInt8} (first : PlainEnd front) (second : PlainEnd back) :
    PlainEnd (front ++ back) := by
  intro last present
  rw [List.getLast?_append] at present
  cases ends : back.getLast? with
  | none => exact first last (by simpa [ends] using present)
  | some octet => exact second last (by simpa [ends] using present)

def Plain (language : Language UInt8) : Prop :=
  ∀ octets ∈ language, PlainEnd octets

theorem Plain.mul {first second : Language UInt8} (front : Plain first) (back : Plain second) :
    Plain (first * second) := by
  rintro _ ⟨before, early, after, late, rfl⟩
  exact (front before early).append (back after late)

theorem Plain.add {first second : Language UInt8} (one : Plain first) (other : Plain second) :
    Plain (first + second) := by
  rintro octets (early | late)
  · exact one octets early
  · exact other octets late

theorem plain_one : Plain 1 := by
  rintro _ ⟨⟩
  exact plainEnd_nil

theorem Plain.kstar {language : Language UInt8} (plain : Plain language) : Plain language∗ := by
  rintro _ ⟨members, rfl, each⟩
  induction members with
  | nil => exact plainEnd_nil
  | cons first others ih =>
      obtain ⟨listed, later⟩ := List.forall_mem_cons.mp each
      exact (plain first listed).append (ih later)

theorem plain_tokens : Plain tokens :=
  fun _ member => plainEnd_of_ascii (ascii_of_mem_tokens member)

theorem plain_gaps : Plain gaps := by
  refine fun octets gap => plainEnd_of_ascii fun octet member => ?_
  rcases eq_of_isGapOctet (gap octet member) with rfl | rfl
  · decide
  · decide

theorem plain_singleton {octet : UInt8} (small : octet < 0x80) : Plain {[octet]} := by
  rintro _ rfl
  exact plainEnd_of_ascii (List.forall_mem_singleton.mpr small)

theorem plain_separators {separator : Char} (small : mark separator < 0x80) :
    Plain (separators separator) :=
  (plain_gaps.mul (plain_singleton small)).mul plain_gaps

/-- The text between the quotes may end within a longer character, but the quote behind it does not. -/
theorem plain_quotedTexts : Plain quotedTexts := by
  rintro _ ⟨front, _, _, rfl, rfl⟩ last present
  rw [List.getLast?_concat] at present
  cases present
  decide

theorem plain_params : Plain params := by
  have assigned : Plain (separators '=' * (tokens + quotedTexts)) :=
    (plain_separators (by decide)).mul (plain_tokens.add plain_quotedTexts)
  exact ((plain_separators (by decide)).mul plain_tokens).mul (plain_one.add assigned)

theorem plain_parametrized : Plain parametrized :=
  plain_tokens.mul plain_params.kstar

/-! ### Greedy readers -/

/-- A reader that takes off as much of its input as belongs to a language, and that has not begun when
nothing does. -/
structure Greedy (reader : Reader α) (language : Language UInt8) : Prop where
  sound : ∀ {input rest value}, reader input = .ok (value, rest) →
    ∃ octets ∈ language, input = octets ++ rest
  covers : ∀ {octets}, octets ∈ language → ∀ rest, Reaches reader (octets ++ rest) rest
  refuses : ∀ {input stopped}, reader input = .error stopped → stopped = input

theorem readToken_eq_error {input stopped : List UInt8} (failed : readToken input = .error stopped) :
    stopped = input := by
  change (someRun isTokenOctet >>= fun octets => pure (ofBytes octets)) input = _ at failed
  rw [bind_apply, someRun] at failed
  split at failed
  · cases failed
  · rename_i refused
    split at refused
    · cases refused
      exact (Except.error.inj failed).symm
    · cases refused

theorem greedy_token (finish : String → α) :
    Greedy (do let token ← readToken; return finish token) tokens where
  sound := by
    intro input rest value read
    obtain ⟨token, left, front, done⟩ := bind_eq_ok.mp read
    cases done
    obtain ⟨octets, word, rfl⟩ := recognizes_token.sound front
    exact ⟨octets, (spells_tokens octets).mpr ⟨token, word⟩, rfl⟩
  covers := by
    intro octets member rest
    obtain ⟨token, word⟩ := (spells_tokens octets).mp member
    exact (covers_word word rest).bind_total fun _ => total_pure _
  refuses := by
    intro input stopped failed
    rw [bind_apply] at failed
    split at failed
    · cases failed
    · rename_i refused
      cases failed
      exact readToken_eq_error refused

theorem greedy_parametrized (finish : String → List Param → α) :
    Greedy (readParametrized finish) parametrized where
  sound := by
    intro input rest value read
    obtain ⟨token, params, front, back, word, form, rfl, rfl⟩ := readParametrized_eq_ok read
    refine ⟨front ++ back, ?_, (List.append_assoc _ _ _).symm⟩
    exact Language.append_mem_mul ((spells_tokens front).mpr ⟨token, word⟩)
      ((spells_params.sequence back).mpr ⟨params, form⟩)
  covers := by
    rintro _ ⟨front, named, back, behind, rfl⟩ rest
    obtain ⟨token, word⟩ := (spells_tokens front).mp named
    obtain ⟨params, form⟩ := (spells_params.sequence back).mp behind
    rw [List.append_assoc]
    refine recognizes_token.reaches_bind covers_word
      (fun _ => total_params.bind fun _ => total_pure _) word ?_
    have covered := covers_params form rest
    cases form with
    | nil => exact Or.inl rfl
    | cons first _ =>
        refine Or.inr ⟨?_, covered.bind_total fun _ => total_pure _⟩
        rw [List.append_assoc]
        exact (offParam_of_param first _).token
  refuses := by
    intro input stopped failed
    rw [readParametrized, bind_apply] at failed
    split at failed
    · -- Parameters need not be there, so nothing is refused behind the token.
      obtain ⟨found, left, read, _⟩ := total_params.bind (fun _ => total_pure _) _
      rw [read] at failed
      cases failed
    · rename_i refused
      cases failed
      exact readToken_eq_error refused

/-- How far octets belong to a language: as far as their longest front that does, or not at all. -/
inductive Extent (language : Language UInt8) (octets : List UInt8) : Nat → Prop
  | front {length : Nat}
      (longest : IsGreatest {length | ∃ front ∈ language, front <+: octets ∧ front.length = length}
        length) : Extent language octets length
  | nowhere (none : ∀ front ∈ language, ¬ front <+: octets) : Extent language octets 0

/-- The answer to a text whose values form a language: its value, or where it departs from them. -/
structure Complies (language : Language UInt8) (header text : String)
    (answer : Except InvalidHeader α) : Prop where
  accepted : (∃ value, answer = .ok value) ↔ bytes (trim text) ∈ language
  named : ∀ fault, answer = .error fault → fault.header = header ∧ fault.input = text
  extent : ∀ fault, answer = .error fault → Extent language (bytes (trim text)) fault.offset
  within : ∀ fault, answer = .error fault → fault.offset ≤ (bytes (trim text)).length
  boundary : ∀ fault, answer = .error fault →
    ∃ front back : String, trim text = front ++ back ∧ (bytes front).length = fault.offset

namespace Greedy

variable {reader : Reader α} {language : Language UInt8}

theorem whole_iff (greedy : Greedy reader language) {input : List UInt8} :
    (∃ value, reader.whole input = .ok value) ↔ input ∈ language := by
  simp only [whole_eq_ok_iff]
  constructor
  · rintro ⟨value, read⟩
    obtain ⟨octets, member, rfl⟩ := greedy.sound read
    rwa [List.append_nil]
  · intro member
    obtain ⟨value, left, read, bound⟩ := greedy.covers member []
    rw [List.append_nil, List.length_eq_zero_iff.mp (Nat.le_zero.mp bound)] at read
    exact ⟨value, read⟩

/-- Where reading a whole input stopped, nothing or the longest front in the language was taken off. -/
theorem whole_eq_error (greedy : Greedy reader language) {input stopped : List UInt8}
    (failed : reader.whole input = .error stopped) :
    ∃ front, input = front ++ stopped ∧ (front = [] ∨ front ∈ language) ∧
      Extent language input front.length := by
  unfold whole at failed
  split at failed
  · cases failed
  · rename_i read
    cases failed
    obtain ⟨front, member, rfl⟩ := greedy.sound read
    refine ⟨front, rfl, Or.inr member, .front ⟨⟨front, member, List.prefix_append _ _, rfl⟩, ?_⟩⟩
    rintro _ ⟨other, listed, ⟨rest, whole⟩, rfl⟩
    obtain ⟨_, _, again, bound⟩ := greedy.covers listed rest
    rw [whole, read] at again
    cases again
    have lengths := congrArg List.length whole
    rw [List.length_append, List.length_append] at lengths
    omega
  · rename_i refused
    cases failed
    obtain rfl := greedy.refuses refused
    refine ⟨[], rfl, Or.inl rfl, .nowhere ?_⟩
    rintro front member ⟨rest, rfl⟩
    obtain ⟨_, _, read, _⟩ := greedy.covers member rest
    rw [refused] at read
    cases read

theorem complies (greedy : Greedy reader language) (plain : Plain language) (header text : String) :
    Complies language header text (Header.parse header reader text) := by
  have begun : (∃ value, reader.whole (bytes (trim text)) = .ok value) ↔
      bytes (trim text) ∈ language := greedy.whole_iff
  cases answer : reader.whole (bytes (trim text)) with
  | ok value =>
      have parsed : Header.parse header reader text = .ok value := by
        simp only [Header.parse, wholeText, answer]
      have unfailing (fault : InvalidHeader) : Header.parse header reader text ≠ .error fault := by
        intro failed
        rw [parsed] at failed
        cases failed
      constructor
      · exact iff_of_true ⟨value, parsed⟩ (begun.mp ⟨value, answer⟩)
      · exact fun fault failed => absurd failed (unfailing fault)
      · exact fun fault failed => absurd failed (unfailing fault)
      · exact fun fault failed => absurd failed (unfailing fault)
      · exact fun fault failed => absurd failed (unfailing fault)
  | error stopped =>
      obtain ⟨front, spelled, taken, extent⟩ := greedy.whole_eq_error answer
      have offset : (bytes (trim text)).length - stopped.length = front.length := by
        rw [spelled, List.length_append, Nat.add_sub_cancel]
      have parsed : Header.parse header reader text =
          .error { header, input := text, offset := front.length } := by
        simp only [Header.parse, wholeText, answer, offset]
      have ends : PlainEnd front := by
        cases taken with
        | inl nothing =>
            rw [nothing]
            exact plainEnd_nil
        | inr member => exact plain front member
      obtain ⟨before, after, divided, same⟩ := exists_split spelled ends
      have refused : ¬ ∃ value, Header.parse header reader text = .ok value := by
        intro accepted
        obtain ⟨value, read⟩ := accepted
        rw [parsed] at read
        cases read
      have outside : bytes (trim text) ∉ language := by
        intro member
        obtain ⟨value, read⟩ := begun.mpr member
        rw [answer] at read
        cases read
      rw [parsed] at refused ⊢
      constructor
      · exact iff_of_false refused outside
      · intro fault failed
        cases failed
        exact ⟨rfl, rfl⟩
      · intro fault failed
        cases failed
        exact extent
      · intro fault failed
        cases failed
        rw [spelled, List.length_append]
        exact Nat.le_add_right _ _
      · intro fault failed
        cases failed
        refine ⟨.ofList before, .ofList after, ?_, ?_⟩
        · rw [← String.ofList_append, ← divided, String.ofList_toList]
        · rw [bytes, String.toList_ofList, same]

end Greedy

/-- Methods are tokens; states of subscriptions and event packages are tokens with parameters. Every other
text is refused where its longest front of that kind ends. -/
theorem longestFront (text : String) :
    Complies tokens "method" text (Method.parse text) ∧
      Complies parametrized "Subscription-State" text (SubscriptionState.parse text) ∧
      Complies parametrized "Event" text (Event.parse text) :=
  ⟨(greedy_token Method.ofName).complies plain_tokens "method" text,
    (greedy_parametrized fun token _ => SubscriptionState.ofToken token).complies plain_parametrized
      "Subscription-State" text,
    (greedy_parametrized Event.ofParts).complies plain_parametrized "Event" text⟩

/-- The value is given back with its separator, as its quote is never closed. -/
example : Event.parse "a;b = \"c" =
    .error { header := "Event", input := "a;b = \"c", offset := 3 } := by
  cbv

end SipContainer.Header

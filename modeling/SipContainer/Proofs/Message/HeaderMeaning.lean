import SipContainer.Proofs.Message.Derivation
import SipContainer.Proofs.Message.HeaderForm
/-!
What the values of Event and Subscription-State headers say. A spelling is a token with parameters
behind it, together with all that the text leaves free: the spaces and tabs around each separator, and the
quotes around a value. Every grammatical spelling is read to its end, part by part as it was written, so
nothing of one parameter is taken for another: the first `id` names the identifier, and the state of a
subscription does not depend on parameters at all.
-/

namespace SipContainer

open Text Text.Reader

namespace Header

open Uri (Filled Agree agree_alphanum)

structure Joint where
  before : String
  after : String

def Joint.text (joint : Joint) (separator : String) : String :=
  joint.before ++ separator ++ joint.after

inductive ValueSpelling
  | plain (token : String)
  | quoted (content : String)

namespace ValueSpelling

def text : ValueSpelling → String
  | plain token => token
  | quoted content => "\"" ++ content ++ "\""

def content : ValueSpelling → String
  | plain token => token
  | quoted content => content

end ValueSpelling

structure ParamSpelling where
  joint : Joint
  name : String
  value : Option (Joint × ValueSpelling)

namespace ParamSpelling

def assignedText : Option (Joint × ValueSpelling) → String
  | some (joint, value) => joint.text "=" ++ value.text
  | none => ""

def text (param : ParamSpelling) : String :=
  param.joint.text ";" ++ param.name ++ assignedText param.value

def content (param : ParamSpelling) : Option String :=
  param.value.map (fun assigned => assigned.2.content)

def said (param : ParamSpelling) : Param :=
  (param.name, param.content)

end ParamSpelling

structure Spelling where
  token : String
  params : List ParamSpelling

def Spelling.text (spelling : Spelling) : String :=
  spelling.token ++ String.join (spelling.params.map ParamSpelling.text)

/-! ### Grammatical spellings -/

def isTokenCharacter (char : Char) : Bool :=
  char.isAlphanum || "-.!%*_+`'~".toList.contains char

def Joint.Grammatical (joint : Joint) : Prop :=
  ∀ char ∈ joint.before.toList ++ joint.after.toList, char = ' ' ∨ char = '\t'

def ValueSpelling.Grammatical : ValueSpelling → Prop
  | plain token => Filled isTokenCharacter token
  | quoted content => '"' ∉ content.toList

structure ParamSpelling.Grammatical (param : ParamSpelling) : Prop where
  joint : param.joint.Grammatical
  name : Filled isTokenCharacter param.name
  value : ∀ assigned ∈ param.value, assigned.1.Grammatical ∧ assigned.2.Grammatical

structure Spelling.Grammatical (spelling : Spelling) : Prop where
  token : Filled isTokenCharacter spelling.token
  params : ∀ param ∈ spelling.params, param.Grammatical

instance (joint : Joint) : Decidable joint.Grammatical :=
  decidable_of_iff ((joint.before.toList ++ joint.after.toList).all
      (fun char => char == ' ' || char == '\t') = true)
    (by simp only [List.all_eq_true, Bool.or_eq_true, beq_iff_eq, Joint.Grammatical])

instance (value : ValueSpelling) : Decidable value.Grammatical :=
  match value with
  | .plain token => inferInstanceAs (Decidable (Filled isTokenCharacter token))
  | .quoted content => inferInstanceAs (Decidable ('"' ∉ content.toList))

instance (param : ParamSpelling) : Decidable param.Grammatical :=
  decidable_of_iff (param.joint.Grammatical ∧ Filled isTokenCharacter param.name ∧
      ∀ assigned ∈ param.value, assigned.1.Grammatical ∧ assigned.2.Grammatical)
    ⟨fun ⟨joint, name, value⟩ => ⟨joint, name, value⟩,
      fun ⟨joint, name, value⟩ => ⟨joint, name, value⟩⟩

instance (spelling : Spelling) : Decidable spelling.Grammatical :=
  decidable_of_iff (Filled isTokenCharacter spelling.token ∧
      ∀ param ∈ spelling.params, param.Grammatical)
    ⟨fun ⟨token, params⟩ => ⟨token, params⟩, fun ⟨token, params⟩ => ⟨token, params⟩⟩

structure Identified (params : List ParamSpelling) (id : Option String) : Prop where
  first : ∀ before param after, params = before ++ param :: after → lower param.name = "id" →
    (∀ other ∈ before, lower other.name ≠ "id") → id = param.content
  absent : (∀ param ∈ params, lower param.name ≠ "id") → id = none

inductive StateNamed (token : String) : SubscriptionState → Prop
  | active (named : lower token = "active") : StateNamed token .active
  | pending (named : lower token = "pending") : StateNamed token .pending
  | terminated (named : lower token = "terminated") : StateNamed token .terminated
  | extension (other : lower token ∉ ["active", "pending", "terminated"]) :
      StateNamed token (.extension token)

/-! ### Spellings are written forms -/

theorem agree_token : Agree isTokenCharacter isTokenOctet :=
  agree_alphanum.add (by decide)

theorem gap_bytes {text : String} (blank : ∀ char ∈ text.toList, char = ' ' ∨ char = '\t') :
    Gap (bytes text) := by
  intro octet member
  obtain ⟨char, present, spelled⟩ := List.mem_flatMap.mp member
  cases blank char present with
  | inl space =>
      subst space
      rw [utf8EncodeChar_of_lt (by decide), List.mem_singleton] at spelled
      rw [spelled]
      decide
  | inr tab =>
      subst tab
      rw [utf8EncodeChar_of_lt (by decide), List.mem_singleton] at spelled
      rw [spelled]
      decide

theorem Joint.Grammatical.separated {joint : Joint} (grammatical : joint.Grammatical)
    {separator : Char} {text : String} (spelled : bytes text = [mark separator]) :
    Separated separator (bytes (joint.text text)) := by
  refine ⟨bytes joint.before, bytes joint.after, gap_bytes ?_, gap_bytes ?_, ?_⟩
  · exact fun char member => grammatical char (List.mem_append_left _ member)
  · exact fun char member => grammatical char (List.mem_append_right _ member)
  · rw [Joint.text, bytes_append, bytes_append, spelled, List.append_assoc]
    rfl

theorem ValueSpelling.Grammatical.form {value : ValueSpelling} (grammatical : value.Grammatical) :
    ValueForm value.content (bytes value.text) := by
  cases value with
  | plain token => exact Or.inl (agree_token.word_iff.mpr grammatical)
  | quoted content =>
      refine Or.inr ⟨bytes content, ?_, ?_, (ofBytes_bytes content).symm⟩
      · intro member
        have small : '"'.toNat < 0x80 := by decide
        exact grammatical (mem_of_mem_bytes small member)
      · rw [ValueSpelling.text, bytes_append, bytes_append]
        rfl

theorem ParamSpelling.Grammatical.form {param : ParamSpelling} (grammatical : param.Grammatical) :
    ParamForm param.said (bytes param.text) := by
  have valued : Maybe AssignedForm param.content (bytes (assignedText param.value)) := by
    unfold content
    cases assigned : param.value with
    | none => rfl
    | some pair =>
        obtain ⟨joint, value⟩ := pair
        obtain ⟨jointed, spelled⟩ := grammatical.value _ assigned
        exact ⟨_, _, jointed.separated rfl, spelled.form, bytes_append _ _⟩
  rw [text, bytes_append, bytes_append, List.append_assoc]
  exact .parts (grammatical.joint.separated rfl) (agree_token.word_iff.mpr grammatical.name) valued

theorem sequence_params {params : List ParamSpelling}
    (grammatical : ∀ param ∈ params, param.Grammatical) :
    Sequence ParamForm (params.map ParamSpelling.said)
      (bytes (String.join (params.map ParamSpelling.text))) := by
  induction params with
  | nil => exact .nil
  | cons param others ih =>
      obtain ⟨first, later⟩ := List.forall_mem_cons.mp grammatical
      rw [List.map_cons, List.map_cons, String.join_cons, bytes_append]
      exact .cons first.form (ih later)

def Closed (text : String) : Prop :=
  ∃ front last, text.toList = front ++ [last] ∧ isBlank last = false

theorem Closed.behind {text : String} (closed : Closed text) (front : String) :
    Closed (front ++ text) := by
  obtain ⟨others, last, ends, solid⟩ := closed
  exact ⟨front.toList ++ others, last, by rw [String.toList_append, ends, List.append_assoc], solid⟩

theorem solid_of_token {token : String} (filled : Filled isTokenCharacter token) :
    ∀ char ∈ token.toList, isBlank char = false := by
  have word := agree_token.word_iff.mpr filled
  exact (word.visible isVisible_of_isTokenOctet).solid

theorem closed_of_token {token : String} (filled : Filled isTokenCharacter token) : Closed token := by
  have some := filled.toList_ne_nil
  exact ⟨token.toList.dropLast, token.toList.getLast some,
    (List.dropLast_concat_getLast some).symm, solid_of_token filled _ (List.getLast_mem some)⟩

theorem ValueSpelling.Grammatical.closed {value : ValueSpelling} (grammatical : value.Grammatical) :
    Closed value.text := by
  cases value with
  | plain token => exact closed_of_token grammatical
  | quoted content =>
      have quote : Closed "\"" := ⟨[], '"', rfl, by decide⟩
      exact quote.behind ("\"" ++ content)

theorem ParamSpelling.Grammatical.closed {param : ParamSpelling} (grammatical : param.Grammatical) :
    Closed param.text := by
  unfold ParamSpelling.text
  cases assigned : param.value with
  | none =>
      rw [assignedText, String.append_empty]
      exact (closed_of_token grammatical.name).behind _
  | some pair =>
      have spelled := (grammatical.value _ assigned).2
      exact (spelled.closed.behind _).behind _

theorem Closed.params {text : String} (closed : Closed text) {params : List ParamSpelling}
    (grammatical : ∀ param ∈ params, param.Grammatical) :
    Closed (text ++ String.join (params.map ParamSpelling.text)) := by
  induction params generalizing text with
  | nil =>
      rw [List.map_nil, String.join_nil, String.append_empty]
      exact closed
  | cons param others ih =>
      obtain ⟨first, later⟩ := List.forall_mem_cons.mp grammatical
      rw [List.map_cons, String.join_cons, ← String.append_assoc]
      exact ih (first.closed.behind text) later

namespace Spelling.Grammatical

variable {spelling : Spelling}

theorem trim_text (grammatical : spelling.Grammatical) : trim spelling.text = spelling.text := by
  obtain ⟨front, last, ends, solid⟩ := (closed_of_token grammatical.token).params grammatical.params
  refine trim_of_solid_ends ?_ ?_
  · intro char first
    obtain ⟨opening, others, spelled⟩ := List.exists_cons_of_ne_nil grammatical.token.toList_ne_nil
    rw [text, String.toList_append, spelled] at first
    cases first
    exact solid_of_token grammatical.token char (by rw [spelled]; exact List.mem_cons_self)
  · intro char present
    rw [text, ends, List.getLast?_concat] at present
    cases present
    exact solid

theorem parse_surrounded (grammatical : spelling.Grammatical) {before after : String}
    (leading : Blank before) (trailing : Blank after) (header : String)
    (finish : String → List Param → α) :
    Header.parse header (readParametrized finish) (before ++ spelling.text ++ after) =
      .ok (finish spelling.token (spelling.params.map ParamSpelling.said)) := by
  have read := readParametrized_append finish (agree_token.word_iff.mpr grammatical.token)
    (sequence_params grammatical.params)
  rw [← bytes_append, ← text, ← grammatical.trim_text,
    ← trim_surrounded leading trailing spelling.text] at read
  exact parse_eq_ok_iff.mpr read

end Spelling.Grammatical

/-! ### Meaning -/

theorem namesId_iff {param : ParamSpelling} :
    sameFolded param.said.1 "id" = true ↔ lower param.name = "id" :=
  beq_iff_eq

theorem identified_ofParts (package : String) (params : List ParamSpelling) :
    Identified params (Event.ofParts package (params.map ParamSpelling.said)).id where
  first := by
    intro before param after parts named fresh
    have found : (params.map ParamSpelling.said).find? (fun said => sameFolded said.1 "id") =
        some param.said := by
      rw [List.find?_eq_some_iff_append]
      refine ⟨namesId_iff.mpr named, before.map ParamSpelling.said, after.map ParamSpelling.said, ?_, ?_⟩
      · rw [parts, List.map_append, List.map_cons]
      · intro said member
        obtain ⟨other, present, same⟩ := List.mem_map.mp member
        subst same
        rw [Bool.not_eq_true', ← Bool.not_eq_true, namesId_iff]
        exact fresh other present
    rw [Event.ofParts, found]
    rfl
  absent := by
    intro fresh
    have missing : (params.map ParamSpelling.said).find? (fun said => sameFolded said.1 "id") =
        none := by
      rw [List.find?_eq_none]
      intro said member
      obtain ⟨other, present, same⟩ := List.mem_map.mp member
      subst same
      rw [namesId_iff]
      exact fresh other present
    rw [Event.ofParts, missing]
    rfl

theorem stateNamed_ofToken (token : String) : StateNamed token (.ofToken token) := by
  unfold SubscriptionState.ofToken
  split
  · rename_i active
    exact .active (beq_iff_eq.mp active)
  · rename_i notActive
    split
    · rename_i pending
      exact .pending (beq_iff_eq.mp pending)
    · rename_i notPending
      split
      · rename_i terminated
        exact .terminated (beq_iff_eq.mp terminated)
      · rename_i notTerminated
        refine .extension ?_
        simp only [List.mem_cons, List.not_mem_nil, or_false, not_or]
        exact ⟨fun named => notActive (beq_iff_eq.mpr named),
          fun named => notPending (beq_iff_eq.mpr named),
          fun named => notTerminated (beq_iff_eq.mpr named)⟩

/-- A package or state with any parameters, written with any spaces, tabs and quotes and with blanks
around: the package and its identifier are read off, and the state is the one of the token alone. -/
theorem meaning {spelling : Spelling} (grammatical : spelling.Grammatical) (before after : String)
    (leading : Blank before) (trailing : Blank after) :
    (∃ id, Event.parse (before ++ spelling.text ++ after) =
        .ok { package := lower spelling.token, id } ∧ Identified spelling.params id) ∧
      SubscriptionState.parse (before ++ spelling.text ++ after) = .ok (.ofToken spelling.token) ∧
      StateNamed spelling.token (.ofToken spelling.token) := by
  refine ⟨⟨_, ?_, identified_ofParts spelling.token spelling.params⟩, ?_,
    stateNamed_ofToken spelling.token⟩
  · exact grammatical.parse_surrounded leading trailing "Event" Event.ofParts
  · exact grammatical.parse_surrounded leading trailing "Subscription-State"
      (fun token _ => SubscriptionState.ofToken token)

end Header

namespace Sample

/-- A parameter without a value, then an identifier in another script with the marks of a parameter in
it, then another identifier. -/
def scripted : Header.Spelling where
  token := "Presence"
  params :=
    [{ joint := ⟨"", ""⟩, name := "x", value := none },
      { joint := ⟨" ", "\t"⟩, name := "ID", value := some (⟨" ", " "⟩, .quoted "Ωδ;id=2") },
      { joint := ⟨"", ""⟩, name := "id", value := some (⟨"", ""⟩, .plain "3") }]

theorem scripted_grammatical : scripted.Grammatical := by
  decide

end Sample

theorem Header.meaning_scripted :
    Sample.scripted.Grammatical ∧ Blank "\n" ∧ Blank " " ∧
      Event.parse "\nPresence;x ;\tID = \"Ωδ;id=2\";id=3 " =
        .ok { package := "presence", id := some "Ωδ;id=2" } ∧
      SubscriptionState.parse "\nPresence;x ;\tID = \"Ωδ;id=2\";id=3 " = .ok (.extension "Presence") := by
  have spelled : "\n" ++ Sample.scripted.text ++ " " =
      "\nPresence;x ;\tID = \"Ωδ;id=2\";id=3 " := by decide
  have leading : Blank "\n" := List.all_eq_true.mp (by decide)
  have trailing : Blank " " := List.all_eq_true.mp (by decide)
  obtain ⟨⟨id, event, identified⟩, state, _⟩ :=
    Header.meaning Sample.scripted_grammatical "\n" " " leading trailing
  have second : id = some "Ωδ;id=2" :=
    identified.first [_] _ [_] rfl (by decide) (List.forall_mem_singleton.mpr (by decide))
  rw [spelled] at event state
  subst second
  exact ⟨Sample.scripted_grammatical, leading, trailing, event, state⟩

end SipContainer

import SipContainer.Session.Key
/-!
Application session keys in a text. The text may hold anything in front of the key but a left
parenthesis, and anything behind it but a right one; of the parts of the key only the identifier is
restricted, as it ends at the first comma. Any other text is refused for the first of the three marks
that is missing, or for an empty part once all of them are there.
-/

namespace SipContainer.ApplicationKey

/-- The marks stand in order in the text: the first left parenthesis, the first comma behind it, and
the last right parenthesis behind that. -/
structure Framed (text lead callId name trail : String) : Prop where
  spelled : text = lead ++ "(" ++ callId ++ "," ++ name ++ ")" ++ trail
  lead : '(' ∉ lead.toList
  callId : ',' ∉ callId.toList
  trail : ')' ∉ trail.toList

inductive Mark
  | opening | comma | closing

/-- The first mark that a text lacks: it has no left parenthesis, no comma behind the first one, or
no right parenthesis behind that comma. -/
inductive Lacks (text : String) : Mark → Prop
  | opening (absent : '(' ∉ text.toList) : Lacks text .opening
  | comma {lead inner : String} (spelled : text = lead ++ "(" ++ inner)
      (before : '(' ∉ lead.toList) (absent : ',' ∉ inner.toList) : Lacks text .comma
  | closing {lead callId rest : String} (spelled : text = lead ++ "(" ++ callId ++ "," ++ rest)
      (before : '(' ∉ lead.toList) (between : ',' ∉ callId.toList)
      (absent : ')' ∉ rest.toList) : Lacks text .closing

def Mark.missing (text : String) : Mark → KeyError
  | opening => .unreadable text "the left parenthesis could not be found"
  | comma => .unreadable text "the comma could not be found"
  | closing => .unreadable text "the right parenthesis could not be found"

theorem Mark.missing_injective (text : String) : Function.Injective (missing text) := by
  intro mark other same
  cases mark <;> cases other <;> first | rfl | simp [missing] at same

variable {text name callId : String} {key : ApplicationKey} {mark : Mark}

theorem create_eq_ok_iff :
    create name callId = .ok key ↔
      key = { callId, applicationName := name } ∧ callId ≠ "" ∧ name ≠ "" := by
  unfold create
  by_cases nameless : name = ""
  · rw [if_pos (by rw [nameless]; rfl)]
    exact ⟨nofun, fun filled => absurd nameless filled.2.2⟩
  · rw [if_neg (by simpa using nameless)]
    by_cases anonymous : callId = ""
    · rw [if_pos (by rw [anonymous]; rfl)]
      exact ⟨nofun, fun filled => absurd anonymous filled.2.1⟩
    · rw [if_neg (by simpa using anonymous), Except.ok.injEq]
      exact ⟨fun made => ⟨made.symm, anonymous, nameless⟩, fun made => made.1.symm⟩

theorem invalidArgument_of_create {fault : KeyError} (refused : create name callId = .error fault) :
    ∃ message, fault = .invalidArgument message := by
  unfold create at refused
  split at refused
  · exact ⟨_, (Except.error.inj refused).symm⟩
  · split at refused
    · exact ⟨_, (Except.error.inj refused).symm⟩
    · cases refused

theorem create_eq_error_iff :
    (∃ message, create name callId = .error (.invalidArgument message)) ↔
      callId = "" ∨ name = "" := by
  cases made : create name callId with
  | ok key =>
      have filled := (create_eq_ok_iff.mp made).2
      refine iff_of_false nofun ?_
      rintro (anonymous | nameless)
      · exact filled.1 anonymous
      · exact filled.2 nameless
  | error fault =>
      obtain ⟨message, rfl⟩ := invalidArgument_of_create made
      refine iff_of_true ⟨message, rfl⟩ ?_
      apply Classical.byContradiction
      intro filled
      rw [not_or] at filled
      rw [create_eq_ok_iff.mpr ⟨rfl, filled⟩] at made
      cases made

/-! ### Looking for the marks -/

theorem parse_of_framed {lead trail : String} (framed : Framed text lead callId name trail) :
    parse text = create name callId := by
  have opened : Text.splitFirst? '(' text.toList =
      some (lead.toList, callId.toList ++ ',' :: (name.toList ++ ')' :: trail.toList)) :=
    Text.splitFirst?_eq_some_iff.mpr ⟨by simp [framed.spelled], framed.lead⟩
  have divided : Text.splitFirst? ',' (callId.toList ++ ',' :: (name.toList ++ ')' :: trail.toList)) =
      some (callId.toList, name.toList ++ ')' :: trail.toList) :=
    Text.splitFirst?_eq_some_iff.mpr ⟨rfl, framed.callId⟩
  have closed : Text.beforeLast? ')' (name.toList ++ ')' :: trail.toList) = some name.toList :=
    Text.beforeLast?_eq_some_iff.mpr ⟨trail.toList, rfl, framed.trail⟩
  simp only [parse, opened, divided, closed, String.ofList_toList]

theorem parse_of_lacks (lacks : Lacks text mark) : parse text = .error (mark.missing text) := by
  cases lacks with
  | opening absent =>
      have unopened := Text.splitFirst?_eq_none_iff.mpr absent
      simp only [parse, unopened, Mark.missing]
  | @comma lead inner spelled before absent =>
      have opened : Text.splitFirst? '(' text.toList = some (lead.toList, inner.toList) :=
        Text.splitFirst?_eq_some_iff.mpr ⟨by simp [spelled], before⟩
      have undivided := Text.splitFirst?_eq_none_iff.mpr absent
      simp only [parse, opened, undivided, Mark.missing]
  | @closing lead callId rest spelled before between absent =>
      have opened : Text.splitFirst? '(' text.toList =
          some (lead.toList, callId.toList ++ ',' :: rest.toList) :=
        Text.splitFirst?_eq_some_iff.mpr ⟨by simp [spelled], before⟩
      have divided : Text.splitFirst? ',' (callId.toList ++ ',' :: rest.toList) =
          some (callId.toList, rest.toList) :=
        Text.splitFirst?_eq_some_iff.mpr ⟨rfl, between⟩
      have unclosed := Text.beforeLast?_eq_none_iff.mpr absent
      simp only [parse, opened, divided, unclosed, Mark.missing]

theorem lacks_or_framed (text : String) :
    (∃ mark, Lacks text mark) ∨ ∃ lead callId name trail, Framed text lead callId name trail := by
  have apart {char : Char} {chars : List Char} (absent : char ∉ chars) :
      char ∉ (String.ofList chars).toList := by
    rwa [String.toList_ofList]
  cases opened : Text.splitFirst? '(' text.toList with
  | none => exact Or.inl ⟨_, .opening (Text.splitFirst?_eq_none_iff.mp opened)⟩
  | some parts =>
      obtain ⟨lead, inner⟩ := parts
      obtain ⟨whole, before⟩ := Text.splitFirst?_eq_some_iff.mp opened
      cases divided : Text.splitFirst? ',' inner with
      | none =>
          have absent := Text.splitFirst?_eq_none_iff.mp divided
          have spelled : text = .ofList lead ++ "(" ++ .ofList inner :=
            String.toList_injective (by simp [whole])
          exact Or.inl ⟨_, .comma spelled (apart before) (apart absent)⟩
      | some parts =>
          obtain ⟨callId, rest⟩ := parts
          obtain ⟨rfl, between⟩ := Text.splitFirst?_eq_some_iff.mp divided
          cases closed : Text.beforeLast? ')' rest with
          | none =>
              have absent := Text.beforeLast?_eq_none_iff.mp closed
              have spelled : text = .ofList lead ++ "(" ++ .ofList callId ++ "," ++ .ofList rest :=
                String.toList_injective (by simp [whole])
              exact Or.inl ⟨_, .closing spelled (apart before) (apart between) (apart absent)⟩
          | some name =>
              obtain ⟨trail, rfl, behind⟩ := Text.beforeLast?_eq_some_iff.mp closed
              have framed : Framed text (.ofList lead) (.ofList callId) (.ofList name)
                  (.ofList trail) :=
                { spelled := String.toList_injective (by simp [whole])
                  lead := apart before
                  callId := apart between
                  trail := apart behind }
              exact Or.inr ⟨_, _, _, _, framed⟩

/-- A text as one that holds a key or does not. -/
structure TextForm (text : String) : Prop where
  found : ∀ key, parse text = .ok key ↔
    ∃ lead trail, Framed text lead key.callId key.applicationName trail ∧
      key.callId ≠ "" ∧ key.applicationName ≠ ""
  missing : ∀ mark : Mark, parse text = .error (mark.missing text) ↔ Lacks text mark
  empty : (∃ message, parse text = .error (.invalidArgument message)) ↔
    ∃ lead callId name trail, Framed text lead callId name trail ∧ (callId = "" ∨ name = "")
  refused : ∀ fault, parse text = .error fault →
    (∃ mark : Mark, fault = mark.missing text) ∨ ∃ message, fault = .invalidArgument message

theorem textForm_of_lacks (lacks : Lacks text mark) : TextForm text where
  found := by
    intro key
    rw [parse_of_lacks lacks]
    refine iff_of_false nofun ?_
    rintro ⟨lead, trail, framed, filled⟩
    have read := parse_of_framed framed
    rw [parse_of_lacks lacks, create_eq_ok_iff.mpr ⟨rfl, filled⟩] at read
    cases read
  missing := by
    intro other
    refine ⟨fun read => ?_, parse_of_lacks⟩
    rw [parse_of_lacks lacks] at read
    rwa [← Mark.missing_injective text (Except.error.inj read)]
  empty := by
    rw [parse_of_lacks lacks]
    constructor
    · rintro ⟨message, same⟩
      cases mark <;> cases same
    · rintro ⟨lead, callId, name, trail, framed, empty⟩
      obtain ⟨message, refused⟩ := create_eq_error_iff.mpr empty
      exact ⟨message, by rw [← refused, ← parse_of_framed framed, parse_of_lacks lacks]⟩
  refused := by
    intro fault read
    rw [parse_of_lacks lacks] at read
    exact Or.inl ⟨mark, (Except.error.inj read).symm⟩

theorem textForm_of_framed {lead trail : String} (framed : Framed text lead callId name trail) :
    TextForm text where
  found := by
    intro key
    constructor
    · intro read
      rw [parse_of_framed framed] at read
      obtain ⟨rfl, filled⟩ := create_eq_ok_iff.mp read
      exact ⟨lead, trail, framed, filled⟩
    · rintro ⟨lead, trail, framed, filled⟩
      rw [parse_of_framed framed]
      exact create_eq_ok_iff.mpr ⟨rfl, filled⟩
  missing := by
    intro mark
    refine ⟨fun read => ?_, parse_of_lacks⟩
    rw [parse_of_framed framed] at read
    obtain ⟨message, other⟩ := invalidArgument_of_create read
    cases mark <;> cases other
  empty := by
    rw [parse_of_framed framed, create_eq_error_iff]
    constructor
    · intro empty
      exact ⟨lead, callId, name, trail, framed, empty⟩
    · rintro ⟨lead', callId', name', trail', framed', empty⟩
      rw [← create_eq_error_iff, ← parse_of_framed framed, parse_of_framed framed']
      exact create_eq_error_iff.mpr empty
  refused := by
    intro fault read
    rw [parse_of_framed framed] at read
    exact Or.inr (invalidArgument_of_create read)

theorem textForm (text : String) : TextForm text := by
  rcases lacks_or_framed text with ⟨mark, lacks⟩ | ⟨lead, callId, name, trail, framed⟩
  · exact textForm_of_lacks lacks
  · exact textForm_of_framed framed

theorem framed_render (key : ApplicationKey) {lead trail : String} (before : '(' ∉ lead.toList)
    (behind : ')' ∉ trail.toList) (plain : ',' ∉ key.callId.toList) :
    Framed (lead ++ key.render ++ trail) lead key.callId key.applicationName trail where
  spelled := by simp only [render, String.append_assoc]
  lead := before
  callId := plain
  trail := behind

/-- A text is read for the key that stands in it, or refused for what it lacks. So a key comes back
from what it is printed as, inside any text that has no left parenthesis in front of it and no right
one behind it, exactly when its identifier has no comma. -/
theorem located :
    (∀ text, TextForm text) ∧
      ∀ name callId key, create name callId = .ok key →
        ∀ lead trail, '(' ∉ lead.toList → ')' ∉ trail.toList →
          (parse (lead ++ key.render ++ trail) = .ok key ↔ ',' ∉ key.callId.toList) := by
  refine ⟨textForm, ?_⟩
  intro name callId key made lead trail before behind
  obtain ⟨rfl, filled⟩ := create_eq_ok_iff.mp made
  constructor
  · intro read
    obtain ⟨_, _, framed, _⟩ := ((textForm _).found _).mp read
    exact framed.callId
  · intro plain
    exact ((textForm _).found _).mpr ⟨lead, trail, framed_render _ before behind plain, filled⟩

/-- The key of a busy line, as the parameter of an address. -/
theorem located_parameter :
    let key : ApplicationKey := { callId := "7(a)@pbx", applicationName := "queue,vip(2)" }
    create "queue,vip(2)" "7(a)@pbx" = .ok key ∧
      parse "sip:pbx;key=(7(a)@pbx,queue,vip(2));lr" = .ok key ∧
      parse "sip:pbx;key=(7(a)@pbx;lr)" =
        .error (.unreadable "sip:pbx;key=(7(a)@pbx;lr)" "the comma could not be found") := by
  intro key
  have made : create "queue,vip(2)" "7(a)@pbx" = .ok key := rfl
  have back := (located.2 _ _ key made "sip:pbx;key=" ";lr" (by decide) (by decide)).mpr (by decide)
  have undivided : "sip:pbx;key=(7(a)@pbx;lr)" = "sip:pbx;key=" ++ "(" ++ "7(a)@pbx;lr)" := by
    decide
  have lacks := Lacks.comma undivided (by decide) (by decide)
  exact ⟨made, back, ((located.1 _).missing .comma).mpr lacks⟩

end SipContainer.ApplicationKey

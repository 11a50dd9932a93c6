/-!
Cutting a text at a mark: at its first occurrence, or in front of its last.
-/

namespace SipContainer.Text

def splitFirst? (mark : Char) : List Char → Option (List Char × List Char)
  | [] => none
  | char :: rest =>
    if char = mark then some ([], rest)
    else (splitFirst? mark rest).map (fun parts => (char :: parts.1, parts.2))

def beforeLast? (mark : Char) (chars : List Char) : Option (List Char) :=
  (splitFirst? mark chars.reverse).map (fun parts => parts.2.reverse)

theorem splitFirst?_eq_some_iff {mark : Char} {chars before after : List Char} :
    splitFirst? mark chars = some (before, after) ↔
      chars = before ++ mark :: after ∧ mark ∉ before := by
  induction chars generalizing before with
  | nil => simp [splitFirst?]
  | cons char rest ih =>
      unfold splitFirst?
      by_cases found : char = mark
      · subst found
        cases before with
        | nil => simp [eq_comm]
        | cons first others =>
            constructor
            · intro split
              rw [if_pos rfl] at split
              cases split
            · rintro ⟨same, absent⟩
              obtain ⟨rfl, _⟩ := List.cons.inj same
              exact absurd List.mem_cons_self absent
      · rw [if_neg found, Option.map_eq_some_iff]
        constructor
        · rintro ⟨⟨inner, last⟩, split, same⟩
          obtain ⟨rfl, rfl⟩ := Prod.mk.inj same
          obtain ⟨rfl, absent⟩ := ih.mp split
          exact ⟨rfl, List.not_mem_cons_of_ne_of_not_mem (Ne.symm found) absent⟩
        · rintro ⟨same, absent⟩
          cases before with
          | nil => exact absurd (List.cons.inj same).1 found
          | cons first others =>
              obtain ⟨rfl, rfl⟩ := List.cons.inj same
              have fresh := fun present => absent (List.mem_cons_of_mem _ present)
              exact ⟨(others, after), ih.mpr ⟨rfl, fresh⟩, rfl⟩

theorem splitFirst?_eq_none_iff {mark : Char} {chars : List Char} :
    splitFirst? mark chars = none ↔ mark ∉ chars := by
  induction chars with
  | nil => simp [splitFirst?]
  | cons char rest ih =>
      unfold splitFirst?
      by_cases found : char = mark
      · subst found
        simp
      · rw [if_neg found, Option.map_eq_none_iff, ih, List.mem_cons, not_or,
          and_iff_right (Ne.symm found)]

theorem beforeLast?_eq_some_iff {mark : Char} {chars before : List Char} :
    beforeLast? mark chars = some before ↔
      ∃ after, chars = before ++ mark :: after ∧ mark ∉ after := by
  unfold beforeLast?
  rw [Option.map_eq_some_iff]
  constructor
  · rintro ⟨⟨behind, front⟩, split, rfl⟩
    obtain ⟨reversed, absent⟩ := splitFirst?_eq_some_iff.mp split
    refine ⟨behind.reverse, ?_, fun present => absent (List.mem_reverse.mp present)⟩
    rw [← List.reverse_reverse chars, reversed]
    simp
  · rintro ⟨after, rfl, absent⟩
    refine ⟨(after.reverse, before.reverse), splitFirst?_eq_some_iff.mpr ⟨?_, ?_⟩,
      List.reverse_reverse before⟩
    · simp
    · exact fun present => absent (List.mem_reverse.mp present)

theorem beforeLast?_eq_none_iff {mark : Char} {chars : List Char} :
    beforeLast? mark chars = none ↔ mark ∉ chars := by
  rw [beforeLast?, Option.map_eq_none_iff, splitFirst?_eq_none_iff, List.mem_reverse]

end SipContainer.Text

import SipContainer.Proofs.Text.Reading
/-!
Where readers leave off. Readers only move forward: what they leave of their input, and what is left of it
where they stop, are ends of it. A reader is self-contained if the front that it takes off would be read
alone as it is read in place, so that nothing that was looked at and given back has a part in the value.
-/

namespace SipContainer.Text.Reader

variable {reader part : Reader α}

/-- Whether it succeeds or fails, a reader goes on to an end of its input. -/
structure Forward (reader : Reader α) : Prop where
  leaves : ∀ {input value rest}, reader input = .ok (value, rest) → rest <:+ input
  stops : ∀ {input stopped}, reader input = .error stopped → stopped <:+ input

theorem forward_pure (value : α) : Forward (pure value : Reader α) where
  leaves := by
    rintro input _ rest ⟨⟩
    exact List.suffix_rfl
  stops := nofun

theorem Forward.bind {first : Reader α} {next : α → Reader β} (begun : Forward first)
    (later : ∀ value, Forward (next value)) : Forward (first >>= next) where
  leaves := by
    intro input result rest read
    obtain ⟨value, left, front, back⟩ := bind_eq_ok.mp read
    exact ((later value).leaves back).trans (begun.leaves front)
  stops := by
    intro input stopped failed
    rw [bind_apply] at failed
    split at failed
    · rename_i value left front
      exact ((later value).stops failed).trans (begun.leaves front)
    · rename_i here front
      cases failed
      exact begun.stops front

theorem Forward.orElse {first second : Reader α} (one : Forward first) (other : Forward second) :
    Forward (orElse first second) where
  leaves := by
    intro input value rest read
    rcases orElse_eq_ok read with early | late
    · exact one.leaves early
    · exact other.leaves late
  stops := by
    intro input stopped failed
    unfold Reader.orElse at failed
    split at failed
    · cases failed
    · exact other.stops failed

theorem Forward.optional (forward : Forward part) : Forward part.optional where
  leaves := by
    intro input value rest read
    unfold Reader.optional at read
    split at read
    · rename_i found left front
      cases read
      exact forward.leaves front
    · cases read
      exact List.suffix_rfl
  stops := by
    intro input stopped failed
    unfold Reader.optional at failed
    split at failed <;> cases failed

theorem Forward.many (forward : Forward part) : Forward (many part) where
  leaves := by
    intro input values rest read
    change repeatFrom part input = .ok (values, rest) at read
    fun_induction repeatFrom part input generalizing values with
    | case1 input stopped failed =>
        cases read
        exact List.suffix_rfl
    | case2 input value left front shorter others last later ih =>
        cases read
        exact (ih later).trans (forward.leaves front)
    | case3 input value left front shorter stopped later ih => cases read
    | case4 input value left front longer => cases read
  stops := by
    intro input stopped failed
    change repeatFrom part input = .error stopped at failed
    fun_induction repeatFrom part input with
    | case1 input stopped failed => cases failed
    | case2 input value left front shorter others last later ih => cases failed
    | case3 input value left front shorter stopped later ih =>
        cases failed
        exact (ih later).trans (forward.leaves front)
    | case4 input value left front longer =>
        cases failed
        exact List.suffix_rfl

theorem forward_char (expected : Char) : Forward (char expected) where
  leaves := by
    intro input value rest read
    rw [char_eq_ok read]
    exact List.suffix_cons _ _
  stops := by
    intro input stopped failed
    unfold char octet at failed
    split at failed
    · split at failed
      · cases failed
      · cases failed
        exact List.suffix_rfl
    · cases failed
      exact List.suffix_rfl

theorem forward_keyword (expected : String) : Forward (keyword expected) where
  leaves := by
    intro input value rest read
    obtain ⟨octets, _, rfl⟩ := keyword_eq_ok read
    exact List.suffix_append _ _
  stops := by
    intro input stopped failed
    simp only [keyword] at failed
    split at failed
    · cases failed
    · cases failed
      exact List.suffix_rfl

theorem forward_someRun (admits : UInt8 → Bool) : Forward (someRun admits) where
  leaves := by
    intro input octets rest read
    obtain ⟨_, _, rfl⟩ := someRun_eq_ok read
    exact List.suffix_append _ _
  stops := by
    intro input stopped failed
    unfold someRun at failed
    split at failed
    · cases failed
      exact List.suffix_rfl
    · cases failed

theorem forward_word (admits : UInt8 → Bool) : Forward (word admits) :=
  (forward_someRun admits).bind fun _ => forward_pure _

/-- What a reader takes off is not empty and would be read alone as it is read in place. -/
structure SelfContained (reader : Reader α) : Prop where
  front : ∀ {input value rest}, reader input = .ok (value, rest) →
    ∃ taken, taken ≠ [] ∧ input = taken ++ rest ∧ reader taken = .ok (value, [])
  stops : ∀ {input stopped}, reader input = .error stopped → stopped <:+ input

theorem Recognizes.selfContained {written : α → List UInt8 → Prop} {ends : List UInt8 → Prop}
    (recognizes : Recognizes reader written ends) (nothing : ends [])
    (filled : ∀ value octets, written value octets → octets ≠ [])
    (stops : ∀ {input stopped}, reader input = .error stopped → stopped <:+ input) :
    SelfContained reader where
  front := by
    intro input value rest read
    obtain ⟨taken, form, whole⟩ := recognizes.sound read
    have alone := recognizes.complete form nothing
    rw [List.append_nil] at alone
    exact ⟨taken, filled value taken form, whole, alone⟩
  stops := stops

theorem SelfContained.finish (selfContained : SelfContained reader) (finish : α → β) :
    SelfContained (do let value ← reader; return finish value) where
  front := by
    intro input result rest read
    obtain ⟨value, left, front, done⟩ := bind_eq_ok.mp read
    cases done
    obtain ⟨taken, filled, whole, alone⟩ := selfContained.front front
    exact ⟨taken, filled, whole, bind_of_ok alone⟩
  stops := by
    intro input stopped failed
    rw [bind_apply] at failed
    split at failed
    · cases failed
    · rename_i here front
      cases failed
      exact selfContained.stops front

end SipContainer.Text.Reader

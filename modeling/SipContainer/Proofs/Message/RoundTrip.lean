import SipContainer.Proofs.Message.Address
import Mathlib.Data.Set.Function
/-!
Printing an address and reading it back. The two directions meet at the addresses of a written
shape: each of them is read from its print, bare or between angle brackets and with blanks around
either, and reading never gives any other address. So a print names one address only.
-/

namespace SipContainer

open Text Text.Reader

namespace Uri

theorem parse_surrounded {before after : String} (leading : Blank before) (trailing : Blank after)
    {text : String} {uri : Uri} :
    parse (before ++ text ++ after) = .ok uri ↔ parse text = .ok uri := by
  rw [parse_eq_ok_iff, parse_eq_ok_iff, trim_surrounded leading trailing]

theorem bytes_enclosed (text : String) :
    bytes ("<" ++ text ++ ">") = mark '<' :: (bytes text ++ [mark '>']) := by
  rw [bytes_append, bytes_append]
  rfl

theorem parse_enclosed {uri : Uri} (formed : WellFormed uri) :
    parse ("<" ++ uri.render ++ ">") = .ok uri := by
  have form := written_render formed
  have visible : Visible (bytes ("<" ++ uri.render ++ ">")) := by
    rw [bytes_enclosed]
    exact .cons (by decide) (.append (visible_of_written form) (.cons (by decide) nofun))
  rw [parse_eq_ok_iff, trim_of_visible visible, bytes_enclosed]
  exact Or.inl ⟨_, ⟨_, form, rfl⟩, rfl⟩

/-- The print of an address is read as that address, whatever blanks stand around it. -/
structure ReadsBack (uri : Uri) : Prop where
  bare : ∀ {before after}, Blank before → Blank after →
    parse (before ++ uri.render ++ after) = .ok uri
  enclosed : ∀ {before after}, Blank before → Blank after →
    parse (before ++ ("<" ++ uri.render ++ ">") ++ after) = .ok uri

theorem readsBack_of_wellFormed {uri : Uri} (formed : WellFormed uri) : ReadsBack uri where
  bare leading trailing := (parse_surrounded leading trailing).mpr (parse_render formed)
  enclosed leading trailing := (parse_surrounded leading trailing).mpr (parse_enclosed formed)

theorem exists_parse_iff_wellFormed {uri : Uri} :
    (∃ text, parse text = .ok uri) ↔ WellFormed uri := by
  constructor
  · rintro ⟨text, parsed⟩
    exact wellFormed_of_parse parsed
  · intro formed
    exact ⟨uri.render, parse_render formed⟩

theorem render_injOn : Set.InjOn render {uri | WellFormed uri} := by
  intro uri formed other otherFormed same
  have parsed := parse_render formed
  rw [same, parse_render otherFormed] at parsed
  exact (Except.ok.inj parsed).symm

/-- The addresses of a written shape read back from what they are printed as. They are the only
ones that any text is read as, so that printing an address that was read and reading it again
changes nothing, and no two of them are printed the same. -/
theorem roundTrip :
    (∀ uri, WellFormed uri → ReadsBack uri) ∧
      (∀ text uri, parse text = .ok uri → WellFormed uri ∧ parse uri.render = .ok uri) ∧
      Set.InjOn render {uri | ∃ text, parse text = .ok uri} := by
  refine ⟨fun uri => readsBack_of_wellFormed, ?_, ?_⟩
  · intro text uri parsed
    have formed := wellFormed_of_parse parsed
    exact ⟨formed, parse_render formed⟩
  · exact render_injOn.mono fun uri => exists_parse_iff_wellFormed.mp

end Uri

namespace Sample

def annex : Uri where
  scheme := "sips"
  user := some "front+desk"
  host := "2001:db8::1"
  port := some 5061
  params := [("lr", none), ("via", some "a"), ("via", some "b")]

theorem annex_wellFormed : annex.WellFormed where
  scheme := Or.inr rfl
  user := by
    rintro user ⟨⟩
    exact .of_all (by decide) (by decide)
  host := Or.inr (.of_all (by decide) (by decide))
  params := by
    intro param member
    obtain rfl | rfl | rfl : param = ("lr", none) ∨ param = ("via", some "a") ∨
        param = ("via", some "b") := by simpa [annex] using member
    · exact ⟨.of_all (by decide) (by decide), nofun⟩
    · refine ⟨.of_all (by decide) (by decide), ?_⟩
      rintro value ⟨⟩
      exact .of_all (by decide) (by decide)
    · refine ⟨.of_all (by decide) (by decide), ?_⟩
      rintro value ⟨⟩
      exact .of_all (by decide) (by decide)

end Sample

theorem Uri.roundTrip_annex :
    Sample.annex.WellFormed ∧
      Sample.annex.render = "sips:front+desk@[2001:db8::1]:5061;lr;via=a;via=b" ∧
      Uri.parse "\t<sips:front+desk@[2001:db8::1]:5061;lr;via=a;via=b>\n" = .ok Sample.annex := by
  have printed : Sample.annex.render = "sips:front+desk@[2001:db8::1]:5061;lr;via=a;via=b" := by
    decide
  have back := roundTrip.1 Sample.annex Sample.annex_wellFormed
  have tab : Blank "\t" := List.all_eq_true.mp (by decide)
  have newline : Blank "\n" := List.all_eq_true.mp (by decide)
  have parsed := back.enclosed tab newline
  rw [printed] at parsed
  exact ⟨Sample.annex_wellFormed, printed, parsed⟩

end SipContainer

import SipContainer.Proofs.Message.HeaderLanguage
import SipContainer.Proofs.Text.Position
/-!
The readers of addresses and of header values, applied to the front of any octets. What they take off is
never empty and would be read alone as it was read in place. Where they fail, they name an end of the input,
and the readers of headers fail only where no token begins, as their parameters are repeated without fail.
-/

namespace SipContainer

open Text Text.Reader

namespace Uri

theorem forward_scheme : Forward readScheme :=
  ((forward_keyword "sips").bind fun _ => forward_pure _).orElse
    ((forward_keyword "sip").bind fun _ => forward_pure _)

theorem forward_user : Forward readUser :=
  (forward_word _).bind fun _ => (forward_char '@').bind fun _ => forward_pure _

theorem forward_host : Forward readHost :=
  ((forward_char '[').bind fun _ => (forward_word _).bind fun _ =>
    (forward_char ']').bind fun _ => forward_pure _).orElse (forward_word _)

theorem forward_portNumber : Forward readPortNumber where
  leaves := by
    intro input port rest read
    obtain ⟨octets, _, rfl⟩ := recognizes_portNumber.sound read
    exact List.suffix_append _ _
  stops := by
    intro input stopped failed
    unfold readPortNumber at failed
    split at failed
    · split at failed
      · cases failed
      · cases failed
        exact List.suffix_rfl
    · rename_i here front
      cases failed
      exact (forward_word _).stops front

theorem forward_port : Forward readPort :=
  (forward_char ':').bind fun _ => forward_portNumber

theorem forward_param : Forward readParam :=
  (forward_char ';').bind fun _ => (forward_word _).bind fun _ =>
    ((forward_char '=').bind fun _ => forward_word _).optional.bind fun _ => forward_pure _

theorem forward_address : Forward read :=
  forward_scheme.bind fun _ => (forward_char ':').bind fun _ => forward_user.optional.bind fun _ =>
    forward_host.bind fun _ => forward_port.optional.bind fun _ => forward_param.many.bind fun _ =>
      forward_pure _

theorem forward_route : Forward readRoute :=
  ((forward_char '<').bind fun _ => forward_address.bind fun _ =>
    (forward_char '>').bind fun _ => forward_pure _).orElse forward_address

theorem written_filled (uri : Uri) (octets : List UInt8) (written : Written uri octets) :
    octets ≠ [] := by
  cases written with
  | parts => exact List.append_ne_nil_of_right_ne_nil _ (List.cons_ne_nil _ _)

theorem routeWritten_filled (uri : Uri) (octets : List UInt8) (written : RouteWritten uri octets) :
    octets ≠ [] := by
  rcases written with ⟨inner, _, rfl⟩ | bare
  · exact List.cons_ne_nil _ _
  · exact written_filled uri octets bare

theorem selfContained_address : SelfContained read :=
  recognizes_address.selfContained nofun written_filled forward_address.stops

theorem selfContained_route : SelfContained readRoute :=
  recognizes_route.selfContained rfl routeWritten_filled forward_route.stops

theorem repeats_param : Repeats readParam :=
  recognizes_param.repeats paramWritten_filled

end Uri

namespace Header

variable (finish : String → List Param → α)

theorem selfContained_token : SelfContained readToken :=
  recognizes_token.selfContained offParam_nil.token (fun _ _ word => word.filled)
    fun failed => readToken_eq_error failed ▸ List.suffix_rfl

theorem selfContained_parametrized : SelfContained (readParametrized finish) where
  front := by
    intro input value rest read
    obtain ⟨token, params, front, back, word, form, rfl, rfl⟩ := readParametrized_eq_ok read
    exact ⟨front ++ back, List.append_ne_nil_of_left_ne_nil word.filled _,
      (List.append_assoc _ _ _).symm, readParametrized_append finish word form⟩
  stops := by
    intro input stopped failed
    obtain rfl := (greedy_parametrized finish).refuses failed
    exact List.suffix_rfl

/-- The first octet decides whether reading fails, as nothing behind a token can make it fail. -/
theorem readParametrized_fails_iff (input : List UInt8) :
    (∃ stopped, readParametrized finish input = .error stopped) ↔ OffToken input := by
  constructor
  · rintro ⟨stopped, failed⟩ next first
    by_contra begun
    obtain ⟨rest, rfl⟩ : ∃ rest, input = [next] ++ rest := List.head?_eq_some_iff.mp first
    have token : [next] ∈ tokens :=
      ⟨List.cons_ne_nil _ _, List.forall_mem_singleton.mpr (Bool.eq_true_of_not_eq_false begun)⟩
    have member : [next] ∈ parametrized := ⟨[next], token, [], Language.nil_mem_kstar _, rfl⟩
    obtain ⟨_, _, read, _⟩ := (greedy_parametrized finish).covers member rest
    rw [failed] at read
    cases read
  · intro off
    exact ⟨input, bind_of_error (word_of_other off)⟩

theorem repeats_param : Repeats readParam :=
  recognizes_param.repeats param_filled

end Header

/-- Applied to any octets, a reader fails at an end of them or takes off a front that can be read by itself.
The parameters in it come to an end, and only a missing token keeps a header from being read. -/
theorem standAlone :
    (SelfContained Header.readToken ∧ SelfContained Uri.read ∧ SelfContained Uri.readRoute ∧
      SelfContained Method.read ∧ SelfContained SubscriptionState.read ∧ SelfContained Event.read) ∧
    (Repeats Uri.readParam ∧ Repeats Header.readParam) ∧
    ∀ input,
      ((∃ stopped, SubscriptionState.read input = .error stopped) ↔ Header.OffToken input) ∧
      ((∃ stopped, Event.read input = .error stopped) ↔ Header.OffToken input) := by
  have method : SelfContained Method.read := Header.selfContained_token.finish Method.ofName
  have state : SelfContained SubscriptionState.read :=
    Header.selfContained_parametrized fun token _ => SubscriptionState.ofToken token
  have event : SelfContained Event.read := Header.selfContained_parametrized Event.ofParts
  refine ⟨⟨Header.selfContained_token, Uri.selfContained_address, Uri.selfContained_route,
    method, state, event⟩, ⟨Uri.repeats_param, Header.repeats_param⟩, fun input => ⟨?_, ?_⟩⟩
  · exact Header.readParametrized_fails_iff (fun token _ => SubscriptionState.ofToken token) input
  · exact Header.readParametrized_fails_iff Event.ofParts input

/-- A value that is begun and missing is given back with its mark, and the parameters end there. -/
example : SubscriptionState.read (bytes "active;a=;b") = .ok (.active, bytes "=;b") := by
  cbv

end SipContainer

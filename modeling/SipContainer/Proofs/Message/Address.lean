import SipContainer.Message.Uri.Grammar
import SipContainer.Proofs.Text.Reading
/-!
The written forms of addresses, and that they are what is read as an address. The forms follow the
grammar part by part. An address can be written in several ways, as the letters of its scheme, the
brackets around its host and the zeros in front of its port are free; one of them is the way it is
printed.
-/

namespace SipContainer

open Text Text.Reader

namespace Uri

/-! ### Written forms -/

def SchemeWritten (scheme : String) (octets : List UInt8) : Prop :=
  (scheme = "sip" ∨ scheme = "sips") ∧ octets.map foldOctet = bytes scheme

def UserWritten : String → List UInt8 → Prop :=
  Before '@' (Word isUserOctet)

def BracketWritten : String → List UInt8 → Prop :=
  Behind '[' (Before ']' (Word isIpv6Octet))

def HostWritten (host : String) (octets : List UInt8) : Prop :=
  BracketWritten host octets ∨ Word isHostNameOctet host octets

def NumberWritten (port : UInt16) (octets : List UInt8) : Prop :=
  ∃ digits, Word isDigitOctet digits octets ∧ decimal? digits.toList = some port.toNat

def PortWritten : UInt16 → List UInt8 → Prop :=
  Behind ':' NumberWritten

def ValueWritten : String → List UInt8 → Prop :=
  Behind '=' (Word isParamOctet)

inductive ParamWritten (param : UriParam) : List UInt8 → Prop
  | parts {name value : List UInt8} (named : Word isParamOctet param.1 name)
      (valued : Maybe ValueWritten param.2 value) : ParamWritten param (mark ';' :: (name ++ value))

inductive Written (uri : Uri) : List UInt8 → Prop
  | parts {scheme user host port params : List UInt8} (inScheme : SchemeWritten uri.scheme scheme)
      (ofUser : Maybe UserWritten uri.user user) (atHost : HostWritten uri.host host)
      (onPort : Maybe PortWritten uri.port port)
      (withParams : Sequence ParamWritten uri.params params) :
      Written uri (scheme ++ mark ':' :: (user ++ (host ++ (port ++ params))))

def RouteWritten (uri : Uri) (octets : List UInt8) : Prop :=
  Behind '<' (Before '>' Written) uri octets ∨ Written uri octets

theorem isVisible_of_isAlphanumericOctet {octet : UInt8}
    (admitted : isAlphanumericOctet octet = true) : isVisible octet = true := by
  simp [isAlphanumericOctet, isVisible, UInt8.le_iff_toNat_le] at *
  omega

theorem isVisible_of_isHexOctet {octet : UInt8} (admitted : isHexOctet octet = true) :
    isVisible octet = true := by
  simp [isHexOctet, isVisible, UInt8.le_iff_toNat_le] at *
  omega

theorem isVisible_of_isDigitOctet {octet : UInt8} (admitted : isDigitOctet octet = true) :
    isVisible octet = true := by
  simp [isDigitOctet, isVisible, UInt8.le_iff_toNat_le] at *
  omega

theorem admitted_of_either {smaller : UInt8 → Bool} (larger : UInt8 → Bool) {added : String}
    (range : ∀ {octet}, smaller octet = true → larger octet = true)
    (single : (bytes added).all larger = true) {octet : UInt8}
    (admitted : (smaller octet || (bytes added).contains octet) = true) : larger octet = true := by
  rcases Bool.or_eq_true_iff.mp admitted with inRange | listed
  · exact range inRange
  · exact List.all_eq_true.mp single octet (List.contains_iff_mem.mp listed)

theorem isVisible_of_isUnreserved {octet : UInt8} (admitted : isUnreserved octet = true) :
    isVisible octet = true :=
  admitted_of_either isVisible isVisible_of_isAlphanumericOctet (by decide) admitted

theorem isVisible_of_isUserOctet {octet : UInt8} (admitted : isUserOctet octet = true) :
    isVisible octet = true :=
  admitted_of_either isVisible isVisible_of_isUnreserved (by decide) admitted

theorem isVisible_of_isParamOctet {octet : UInt8} (admitted : isParamOctet octet = true) :
    isVisible octet = true :=
  admitted_of_either isVisible isVisible_of_isUnreserved (by decide) admitted

theorem isVisible_of_isIpv6Octet {octet : UInt8} (admitted : isIpv6Octet octet = true) :
    isVisible octet = true :=
  admitted_of_either isVisible isVisible_of_isHexOctet (by decide) admitted

theorem isUserOctet_of_isHostNameOctet {octet : UInt8} (admitted : isHostNameOctet octet = true) :
    isUserOctet octet = true := by
  refine admitted_of_either isUserOctet (fun inRange => ?_) (by decide) admitted
  simp [isUserOctet, isUnreserved, inRange]

theorem isHostNameOctet_of_isIpv6Octet {octet : UInt8} (admitted : isIpv6Octet octet = true)
    (other : octet ≠ mark ':') : isHostNameOctet octet = true := by
  rcases Bool.or_eq_true_iff.mp admitted with hex | listed
  · have alphanumeric : isAlphanumericOctet octet = true := by
      simp [isHexOctet, isAlphanumericOctet, UInt8.le_iff_toNat_le] at *
      omega
    simp [isHostNameOctet, alphanumeric]
  · obtain rfl | rfl : octet = mark ':' ∨ octet = mark '.' := by
      have present := List.contains_iff_mem.mp listed
      change octet ∈ [mark ':', mark '.'] at present
      simpa using present
    · exact absurd rfl other
    · decide

theorem isVisible_of_isHostNameOctet {octet : UInt8} (admitted : isHostNameOctet octet = true) :
    isVisible octet = true :=
  isVisible_of_isUserOctet (isUserOctet_of_isHostNameOctet admitted)

theorem recognizes_visibleWord {admits : UInt8 → Bool} (marks : List Char)
    (visible : ∀ {octet}, admits octet = true → isVisible octet = true)
    (refuses : marks.all (fun expected => !admits (mark expected)) = true) :
    Recognizes (word admits) (Word admits) (Ends marks) where
  complete form ends :=
    (recognizes_word fun _ admitted => lt_of_isVisible (visible admitted)).complete form
      (ends.refused refuses)
  sound read :=
    (recognizes_word fun _ admitted => lt_of_isVisible (visible admitted)).sound read

def afterParams : List Char := ['>']
def afterPort : List Char := [';', '>']
def afterHost : List Char := [':', ';', '>']

theorem recognizes_scheme :
    Recognizes readScheme SchemeWritten (fun rest => rest.head? = some (mark ':')) where
  complete := by
    rintro scheme octets rest ⟨known, folded⟩ ends
    rcases known with rfl | rfl
    · have failed : keyword "sips" (octets ++ rest) = .error (octets ++ rest) := by
        obtain ⟨others, rfl⟩ : ∃ others, rest = mark ':' :: others := by
          cases rest with
          | nil => cases ends
          | cons next others => exact ⟨others, by rw [Option.some.inj ends]⟩
        have length := congrArg List.length folded
        have different : (octets ++ [mark ':']).map foldOctet ≠ bytes "sips" := by
          rw [List.map_append, folded]
          decide
        rw [List.append_cons]
        refine keyword_of_different others ?_ different
        rw [List.length_append, ← List.length_map (f := foldOctet), length]
        rfl
      unfold readScheme
      rw [orElse_of_error (bind_of_error failed), bind_of_ok (keyword_append rest folded)]
      rfl
    · exact orElse_of_ok (bind_of_ok (keyword_append rest folded))
  sound := by
    intro scheme input rest read
    rcases orElse_eq_ok read with secure | plain
    · obtain ⟨_, left, found, done⟩ := bind_eq_ok.mp secure
      cases done
      obtain ⟨octets, folded, rfl⟩ := keyword_eq_ok found
      exact ⟨octets, ⟨Or.inr rfl, folded⟩, rfl⟩
    · obtain ⟨_, left, found, done⟩ := bind_eq_ok.mp plain
      cases done
      obtain ⟨octets, folded, rfl⟩ := keyword_eq_ok found
      exact ⟨octets, ⟨Or.inl rfl, folded⟩, rfl⟩

theorem recognizes_user : Recognizes readUser UserWritten (fun _ => True) :=
  (recognizes_visibleWord ['@'] isVisible_of_isUserOctet (by decide)).before '@'
    (ends_cons (by decide)) _

theorem recognizes_host : Recognizes readHost HostWritten (Ends afterHost) := by
  have address := ((recognizes_visibleWord [']'] isVisible_of_isIpv6Octet
    (by decide)).before ']' (ends_cons (by decide)) (Ends afterHost)).behind '['
  have name := recognizes_visibleWord afterHost isVisible_of_isHostNameOctet
    (by decide)
  constructor
  · rintro host octets rest (bracketed | named) ends
    · exact orElse_of_ok (address.complete bracketed ends)
    · obtain ⟨first, others, rfl⟩ := List.exists_cons_of_ne_nil named.filled
      have unmarked : ∀ next ∈ (first :: others ++ rest).head?, next ≠ mark '[' := by
        rintro next ⟨⟩ rfl
        have admitted := named.admitted _ List.mem_cons_self
        revert admitted
        decide
      unfold readHost
      rw [orElse_of_error (behind_of_other unmarked)]
      exact name.complete named ends
  · intro host input rest read
    rcases orElse_eq_ok read with bracketed | named
    · obtain ⟨octets, form, rfl⟩ := address.sound bracketed
      exact ⟨octets, Or.inl form, rfl⟩
    · obtain ⟨octets, form, rfl⟩ := name.sound named
      exact ⟨octets, Or.inr form, rfl⟩

theorem recognizes_portNumber : Recognizes readPortNumber NumberWritten (Ends afterPort) := by
  have number := recognizes_visibleWord afterPort isVisible_of_isDigitOctet
    (by decide)
  constructor
  · rintro port octets rest ⟨digits, form, value⟩ ends
    unfold readPortNumber
    rw [number.complete form ends]
    have small : decide (port.toNat < 65536) = true := decide_eq_true port.toNat_lt
    simp only [value, Option.filter_some, small, if_true]
    exact congrArg (fun number => Except.ok (number, rest)) UInt16.ofNat_toNat
  · intro port input rest read
    unfold readPortNumber at read
    split at read
    · rename_i digits left front
      split at read
      · rename_i found value
        cases read
        obtain ⟨value, small⟩ := Option.filter_eq_some_iff.mp value
        obtain ⟨octets, form, rfl⟩ := number.sound front
        refine ⟨octets, ⟨digits, form, ?_⟩, rfl⟩
        rw [value]
        simp at small
        simp [Nat.mod_eq_of_lt small]
      · cases read
    · cases read

theorem recognizes_port : Recognizes (Reader.optional readPort) (Maybe PortWritten) (Ends afterPort) :=
  (recognizes_portNumber.behind ':').optional fun rest ends =>
    ⟨ends, rest, behind_of_other (ends.other (by decide))⟩

theorem recognizes_value :
    Recognizes (Reader.optional (do char '='; word isParamOctet)) (Maybe ValueWritten)
      (Ends afterPort) :=
  ((recognizes_visibleWord _ isVisible_of_isParamOctet (by decide)).behind '=').optional
    fun rest ends => ⟨ends, rest, behind_of_other (ends.other (by decide))⟩

theorem recognizes_param : Recognizes readParam ParamWritten (Ends afterPort) := by
  have name := recognizes_visibleWord ('=' :: afterPort) isVisible_of_isParamOctet
    (by decide)
  constructor
  · rintro param _ rest ⟨named, valued⟩ ends
    have front := name.complete named (ends_maybe valued ends)
    have back := recognizes_value.complete valued ends
    unfold readParam
    rw [List.cons_append, bind_of_ok (char_cons ';' _), List.append_assoc, bind_of_ok front,
      bind_of_ok back]
    rfl
  · intro param input rest read
    obtain ⟨_, afterMark, opened, read⟩ := bind_eq_ok.mp read
    obtain ⟨text, afterName, front, read⟩ := bind_eq_ok.mp read
    obtain ⟨value, afterValue, back, done⟩ := bind_eq_ok.mp read
    cases done
    obtain ⟨octets, named, rfl⟩ := name.sound front
    obtain ⟨others, valued, rfl⟩ := recognizes_value.sound back
    refine ⟨_, .parts named valued, ?_⟩
    rw [char_eq_ok opened, List.cons_append, List.append_assoc]

theorem readParam_of_ends {rest : List UInt8} (ends : Ends afterParams rest) :
    readParam rest = .error rest :=
  behind_of_other (ends.other (by decide))

theorem paramWritten_filled (param : UriParam) (octets : List UInt8)
    (written : ParamWritten param octets) : octets ≠ [] := by
  cases written with
  | parts => exact List.cons_ne_nil _ _

theorem recognizes_params :
    Recognizes (Reader.many readParam) (Sequence ParamWritten) (Ends afterParams) := by
  apply recognizes_param.many
  · exact paramWritten_filled
  · rintro param _ rest ⟨named, valued⟩
    exact ends_cons (by decide) _
  · intro rest ends
    exact ⟨ends.mono (by decide), rest, readParam_of_ends ends⟩

theorem ends_params {params : List UriParam} {octets rest : List UInt8}
    (form : Sequence ParamWritten params octets) (ends : Ends afterParams rest) :
    Ends afterPort (octets ++ rest) := by
  cases form with
  | nil => exact ends.mono (by decide)
  | cons first others =>
      cases first with
      | parts named valued => exact ends_cons (by decide) _

/-! ### Whole addresses -/

/-- Without a user the host is taken for one at first, but no mark of a user follows. -/
theorem readUser_of_host {host : String} {octets rest : List UInt8}
    (form : HostWritten host octets) (ends : Ends afterHost rest) :
    ∃ stopped, readUser (octets ++ rest) = .error stopped := by
  rcases form with ⟨inner, _, rfl⟩ | named
  · have other : ∀ next ∈ (mark '[' :: inner ++ rest).head?, isUserOctet next = false := by
      rintro next ⟨⟩
      decide
    exact ⟨_, bind_of_error (word_of_other other)⟩
  · have asUser : Word isUserOctet host octets :=
      { spelled := named.spelled
        filled := named.filled
        admitted := fun octet member =>
          isUserOctet_of_isHostNameOctet (named.admitted octet member) }
    have front := (recognizes_visibleWord _ isVisible_of_isUserOctet (by decide)).complete
      asUser ends
    refine ⟨rest, ?_⟩
    unfold readUser
    rw [bind_of_ok front]
    exact bind_of_error (char_of_other (ends.other (by decide)))

theorem recognizes_optionalUser :
    Recognizes (Reader.optional readUser) (Maybe UserWritten)
      (fun rest => ∃ stopped, readUser rest = .error stopped) :=
  recognizes_user.optional fun _ failed => ⟨trivial, failed⟩

theorem recognizes_address : Recognizes read Written (Ends afterParams) where
  complete := by
    rintro uri _ rest ⟨inScheme, ofUser, atHost, onPort, withParams⟩ ends
    have endsPort := ends_params withParams ends
    have endsHost := ends_maybe onPort endsPort
    have failed := readUser_of_host atHost endsHost
    unfold read
    simp only [List.append_assoc, List.cons_append]
    rw [bind_of_ok (recognizes_scheme.complete inScheme rfl), bind_of_ok (char_cons ':' _),
      bind_of_ok (recognizes_optionalUser.complete ofUser failed),
      bind_of_ok (recognizes_host.complete atHost endsHost),
      bind_of_ok (recognizes_port.complete onPort endsPort),
      bind_of_ok (recognizes_params.complete withParams ends)]
    rfl
  sound := by
    intro uri input rest taken
    obtain ⟨scheme, _, first, taken⟩ := bind_eq_ok.mp taken
    obtain ⟨_, _, second, taken⟩ := bind_eq_ok.mp taken
    obtain ⟨user, _, third, taken⟩ := bind_eq_ok.mp taken
    obtain ⟨host, _, fourth, taken⟩ := bind_eq_ok.mp taken
    obtain ⟨port, _, fifth, taken⟩ := bind_eq_ok.mp taken
    obtain ⟨params, _, sixth, done⟩ := bind_eq_ok.mp taken
    cases done
    obtain ⟨_, inScheme, rfl⟩ := recognizes_scheme.sound first
    obtain rfl := char_eq_ok second
    obtain ⟨_, ofUser, rfl⟩ := recognizes_optionalUser.sound third
    obtain ⟨_, atHost, rfl⟩ := recognizes_host.sound fourth
    obtain ⟨_, onPort, rfl⟩ := recognizes_port.sound fifth
    obtain ⟨_, withParams, rfl⟩ := recognizes_params.sound sixth
    refine ⟨_, .parts inScheme ofUser atHost onPort withParams, ?_⟩
    simp only [List.append_assoc, List.cons_append]

theorem opens_of_scheme {scheme : String} {octets rest : List UInt8}
    (form : SchemeWritten scheme octets) : ∀ next ∈ (octets ++ rest).head?, next ≠ mark '<' := by
  obtain ⟨known, folded⟩ := form
  obtain ⟨others, spelled⟩ : ∃ others, bytes scheme = mark 's' :: others := by
    rcases known with rfl | rfl
    · exact ⟨_, rfl⟩
    · exact ⟨_, rfl⟩
  cases octets with
  | nil =>
      rw [spelled] at folded
      cases folded
  | cons first letters =>
      rintro next ⟨⟩ rfl
      rw [spelled, List.map_cons] at folded
      exact absurd (List.cons.inj folded).1 (by decide)

theorem recognizes_route : Recognizes readRoute RouteWritten (fun rest => rest = []) := by
  have enclosed := (recognizes_address.before '>' (ends_cons (by decide))
    (fun rest => rest = [])).behind '<'
  constructor
  · rintro uri octets rest (bracketed | bare) rfl
    · exact orElse_of_ok (enclosed.complete bracketed rfl)
    · have other : ∀ next ∈ (octets ++ []).head?, next ≠ mark '<' := by
        cases bare with
        | parts inScheme =>
            rw [List.append_nil]
            exact opens_of_scheme inScheme
      unfold readRoute
      rw [orElse_of_error (behind_of_other other)]
      exact recognizes_address.complete bare nofun
  · intro uri input rest taken
    rcases orElse_eq_ok taken with bracketed | bare
    · obtain ⟨octets, form, rfl⟩ := enclosed.sound bracketed
      exact ⟨octets, Or.inl form, rfl⟩
    · obtain ⟨octets, form, rfl⟩ := recognizes_address.sound bare
      exact ⟨octets, Or.inr form, rfl⟩

/-- An address is read from its written forms, blanks around it aside, and from nothing else. -/
theorem parse_eq_ok_iff {text : String} {uri : Uri} :
    parse text = .ok uri ↔ RouteWritten uri (bytes (trim text)) := by
  constructor
  · intro parsed
    unfold parse at parsed
    split at parsed
    · rename_i found accepted
      cases parsed
      obtain ⟨octets, form, whole⟩ := recognizes_route.sound (wholeText_eq_ok_iff.mp accepted)
      rwa [whole, List.append_nil]
    · cases parsed
  · intro form
    have taken := recognizes_route.complete form rfl
    rw [List.append_nil] at taken
    unfold parse
    rw [wholeText_eq_ok_iff.mpr taken]

/-! ### Printed forms -/

structure WellFormed (uri : Uri) : Prop where
  scheme : uri.scheme = "sip" ∨ uri.scheme = "sips"
  user : ∀ user ∈ uri.user, Word isUserOctet user (bytes user)
  host : Word isHostNameOctet uri.host (bytes uri.host) ∨ Word isIpv6Octet uri.host (bytes uri.host)
  params : ∀ param ∈ uri.params, Word isParamOctet param.1 (bytes param.1) ∧
    ∀ value ∈ param.2, Word isParamOctet value (bytes value)

theorem wellFormed_of_written {uri : Uri} {octets : List UInt8} (written : Written uri octets) :
    WellFormed uri := by
  obtain ⟨inScheme, ofUser, atHost, onPort, withParams⟩ := written
  constructor
  · exact inScheme.1
  · intro user named
    rw [Option.mem_def.mp named] at ofUser
    obtain ⟨inner, word, _⟩ := ofUser
    rwa [← word.spelled]
  · rcases atHost with ⟨_, ⟨inner, word, _⟩, _⟩ | word
    · right
      rwa [← word.spelled]
    · left
      rwa [← word.spelled]
  · clear onPort ofUser atHost inScheme
    revert withParams
    generalize uri.params = params
    intro withParams
    induction withParams with
    | nil => nofun
    | @cons param octets params others first rest ih =>
        rw [List.forall_mem_cons]
        refine ⟨?_, ih⟩
        obtain ⟨named, valued⟩ := first
        constructor
        · rw [← named.spelled]
          exact named
        · intro value present
          rw [Option.mem_def.mp present] at valued
          obtain ⟨inner, word, _⟩ := valued
          rwa [← word.spelled]

theorem wellFormed_of_parse {text : String} {uri : Uri} (parsed : parse text = .ok uri) :
    WellFormed uri := by
  rcases parse_eq_ok_iff.mp parsed with ⟨_, ⟨_, bracketed, _⟩, _⟩ | bare
  · exact wellFormed_of_written bracketed
  · exact wellFormed_of_written bare

theorem hostWritten_renderHost {host : String}
    (formed : Word isHostNameOctet host (bytes host) ∨ Word isIpv6Octet host (bytes host)) :
    HostWritten host (bytes (renderHost host)) := by
  rcases formed with named | numbered
  · have bare : ':' ∉ host.toList := by
      intro present
      have admitted := named.admitted _ (mem_bytes_of_mem present (by decide))
      revert admitted
      decide
    right
    simpa [renderHost, bare] using named
  · by_cases colon : ':' ∈ host.toList
    · have inside : host.toList.head? ≠ some '[' := by
        intro first
        have present := List.mem_of_head? first
        have admitted := numbered.admitted _ (mem_bytes_of_mem present (by decide))
        revert admitted
        decide
      have enclosed : renderHost host = "[" ++ host ++ "]" := by
        simp [renderHost, colon, inside]
      left
      refine ⟨bytes host ++ [mark ']'], ⟨bytes host, numbered, rfl⟩, ?_⟩
      rw [enclosed, bytes_append, bytes_append]
      rfl
    · have named : Word isHostNameOctet host (bytes host) :=
        { spelled := rfl
          filled := numbered.filled
          admitted := by
            intro octet member
            have other : octet ≠ mark ':' := by
              rintro rfl
              exact colon (mem_of_mem_bytes (by decide) member)
            exact isHostNameOctet_of_isIpv6Octet (numbered.admitted octet member) other }
      right
      simpa [renderHost, colon] using named

theorem paramWritten_renderParam {param : UriParam}
    (named : Word isParamOctet param.1 (bytes param.1))
    (valued : ∀ value ∈ param.2, Word isParamOctet value (bytes value)) :
    ParamWritten param (bytes (renderParam param)) := by
  obtain ⟨name, value⟩ := param
  cases value with
  | none =>
      have form : ParamWritten (name, none) (mark ';' :: (bytes name ++ [])) := .parts named rfl
      rw [renderParam, bytes_append]
      rwa [List.append_nil] at form
  | some value =>
      have word : ValueWritten value (mark '=' :: bytes value) := ⟨_, valued value rfl, rfl⟩
      have form : ParamWritten (name, some value)
          (mark ';' :: (bytes name ++ mark '=' :: bytes value)) := .parts named word
      rw [renderParam, bytes_append, bytes_append, bytes_append, List.append_assoc]
      exact form

theorem paramsWritten_render {params : List UriParam}
    (formed : ∀ param ∈ params, Word isParamOctet param.1 (bytes param.1) ∧
      ∀ value ∈ param.2, Word isParamOctet value (bytes value)) :
    Sequence ParamWritten params (bytes (String.join (params.map renderParam))) := by
  induction params with
  | nil => exact .nil
  | cons param params ih =>
      rw [List.forall_mem_cons] at formed
      rw [List.map_cons, String.join_cons, bytes_append]
      exact .cons (paramWritten_renderParam formed.1.1 formed.1.2) (ih formed.2)

theorem word_toString (value : Nat) :
    Word isDigitOctet (toString value) (bytes (toString value)) where
  spelled := rfl
  filled := by
    rw [ne_eq, bytes_eq_nil_iff, Nat.toString_eq_repr]
    exact Nat.repr_ne_empty
  admitted := by
    have digits := isDigit_of_mem_toString value
    have bounds : ∀ char ∈ (toString value).toList, 48 ≤ char.toNat ∧ char.toNat ≤ 57 := by
      intro char member
      have digit := digits char member
      simp only [Char.isDigit, Bool.and_eq_true, decide_eq_true_eq] at digit
      exact digit
    intro octet member
    rw [bytes, flatMap_encode fun char present => by have := bounds char present; omega] at member
    obtain ⟨char, present, rfl⟩ := List.mem_map.mp member
    have range := bounds char present
    simp [isDigitOctet, UInt8.le_iff_toNat_le]
    omega

theorem portWritten_render (port : UInt16) : PortWritten port (bytes (":" ++ toString port.toNat)) :=
  ⟨_, ⟨_, word_toString port.toNat, decimal?_toString port.toNat⟩, bytes_append _ _⟩

theorem userWritten_render {user : Option String} :
    (∀ text ∈ user, Word isUserOctet text (bytes text)) →
      Maybe UserWritten user (bytes (match user with
        | some user => user ++ "@"
        | none => "")) := by
  intro formed
  cases user with
  | none => rfl
  | some user => exact ⟨bytes user, formed user rfl, bytes_append _ _⟩

theorem optionalPortWritten_render (port : Option UInt16) :
    Maybe PortWritten port (bytes (match port with
      | some port => ":" ++ toString port.toNat
      | none => "")) := by
  cases port with
  | none => rfl
  | some port => exact portWritten_render port

theorem written_render {uri : Uri} (formed : WellFormed uri) : Written uri (bytes uri.render) := by
  have inScheme : SchemeWritten uri.scheme (bytes uri.scheme) := by
    refine ⟨formed.scheme, ?_⟩
    rcases formed.scheme with secure | plain
    · rw [secure]
      rfl
    · rw [plain]
      rfl
  have form := Written.parts inScheme (userWritten_render formed.user)
    (hostWritten_renderHost formed.host) (optionalPortWritten_render uri.port)
    (paramsWritten_render formed.params)
  simp only [render, bytes_append, List.append_assoc]
  exact form

theorem visible_of_params {params : List UriParam} {octets : List UInt8}
    (form : Sequence ParamWritten params octets) : Visible octets := by
  induction form with
  | nil => nofun
  | @cons param octets params others first rest ih =>
      refine Visible.append ?_ ih
      obtain ⟨named, valued⟩ := first
      have value : Visible _ := visible_of_maybe valued fun text octets form => by
        obtain ⟨inner, word, rfl⟩ := form
        exact .cons (by decide) (word.visible isVisible_of_isParamOctet)
      exact .cons (by decide) (.append (named.visible isVisible_of_isParamOctet) value)

theorem visible_of_scheme {scheme : String} {octets : List UInt8}
    (form : SchemeWritten scheme octets) : Visible octets := by
  obtain ⟨known, folded⟩ := form
  have letters : Visible (bytes scheme) := by
    rcases known with rfl | rfl
    · exact List.all_eq_true.mp (by decide : (bytes "sip").all isVisible = true)
    · exact List.all_eq_true.mp (by decide : (bytes "sips").all isVisible = true)
  intro octet member
  apply isVisible_of_foldOctet
  apply letters
  rw [← folded]
  exact List.mem_map_of_mem member

theorem visible_of_host {host : String} {octets : List UInt8} (form : HostWritten host octets) :
    Visible octets := by
  rcases form with ⟨_, ⟨inner, word, rfl⟩, rfl⟩ | word
  · exact .cons (by decide) (.append (word.visible isVisible_of_isIpv6Octet)
      (.cons (by decide) nofun))
  · exact word.visible isVisible_of_isHostNameOctet

theorem visible_of_written {uri : Uri} {octets : List UInt8} (form : Written uri octets) :
    Visible octets := by
  obtain ⟨inScheme, ofUser, atHost, onPort, withParams⟩ := form
  have user : Visible _ := visible_of_maybe ofUser fun text octets form => by
    obtain ⟨inner, word, rfl⟩ := form
    exact .append (word.visible isVisible_of_isUserOctet) (.cons (by decide) nofun)
  have port : Visible _ := visible_of_maybe onPort fun number octets form => by
    obtain ⟨inner, ⟨digits, word, _⟩, rfl⟩ := form
    exact .cons (by decide) (word.visible isVisible_of_isDigitOctet)
  have back := user.append ((visible_of_host atHost).append (port.append (visible_of_params withParams)))
  exact (visible_of_scheme inScheme).append (.cons (by decide) back)

theorem parse_render {uri : Uri} (formed : WellFormed uri) : parse uri.render = .ok uri := by
  have form := written_render formed
  rw [parse_eq_ok_iff, trim_of_visible (visible_of_written form)]
  exact Or.inr form

end Uri

end SipContainer

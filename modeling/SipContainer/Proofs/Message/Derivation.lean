import SipContainer.Proofs.Message.RoundTrip
/-!
The grammar of addresses, over the characters of a text. A spelling tells what an address says
together with all that its text leaves free: the letters of the scheme, the brackets around the host,
the zeros in front of the port, and the angle brackets around the whole. A text is read as an address
exactly when it has a grammatical spelling, blanks around it aside, and it never has two.
-/

namespace SipContainer

open Text Text.Reader

namespace Uri

def isHexCharacter (char : Char) : Bool :=
  char.isDigit || ('A' ≤ char && char ≤ 'F') || ('a' ≤ char && char ≤ 'f')

def isUnreservedCharacter (char : Char) : Bool :=
  char.isAlphanum || "-_.!~*'()".toList.contains char

def isUserCharacter (char : Char) : Bool :=
  isUnreservedCharacter char || "%&=+$,?/".toList.contains char

def isHostNameCharacter (char : Char) : Bool :=
  char.isAlphanum || "-.".toList.contains char

def isAddressCharacter (char : Char) : Bool :=
  isHexCharacter char || ":.".toList.contains char

def isParamCharacter (char : Char) : Bool :=
  isUnreservedCharacter char || "%[]/:&+$".toList.contains char

def Filled (admits : Char → Bool) (text : String) : Prop :=
  text ≠ "" ∧ ∀ char ∈ text.toList, admits char = true

instance (admits : Char → Bool) (text : String) : Decidable (Filled admits text) :=
  decidable_of_iff (text ≠ "" ∧ text.toList.all admits = true)
    (and_congr_right fun _ => List.all_eq_true)

theorem Filled.toList_ne_nil {admits : Char → Bool} {text : String} (filled : Filled admits text) :
    text.toList ≠ [] :=
  fun empty => filled.1 (String.toList_eq_nil_iff.mp empty)

/-! ### Spellings -/

structure Spelling where
  enclosed : Bool
  scheme : String
  user : Option String
  bracketed : Bool
  host : String
  port : Option String
  params : List UriParam

namespace Spelling

def userText : Option String → String
  | some user => user ++ "@"
  | none => ""

def hostText (bracketed : Bool) (host : String) : String :=
  if bracketed then "[" ++ host ++ "]" else host

def portText : Option String → String
  | some digits => ":" ++ digits
  | none => ""

def bare (spelling : Spelling) : String :=
  spelling.scheme ++ ":" ++ userText spelling.user ++
    hostText spelling.bracketed spelling.host ++ portText spelling.port ++
    String.join (spelling.params.map renderParam)

def text (spelling : Spelling) : String :=
  if spelling.enclosed then "<" ++ spelling.bare ++ ">" else spelling.bare

def number (digits : String) : Nat :=
  Nat.ofDigitChars 10 digits.toList 0

def uri (spelling : Spelling) : Uri where
  scheme := lower spelling.scheme
  user := spelling.user
  host := spelling.host
  port := spelling.port.map (fun digits => UInt16.ofNat (number digits))
  params := spelling.params

structure Grammatical (spelling : Spelling) : Prop where
  scheme : lower spelling.scheme = "sip" ∨ lower spelling.scheme = "sips"
  user : ∀ user ∈ spelling.user, Filled isUserCharacter user
  host : Filled (if spelling.bracketed then isAddressCharacter else isHostNameCharacter)
    spelling.host
  port : ∀ digits ∈ spelling.port, Filled Char.isDigit digits ∧ number digits ≤ 65535
  params : ∀ param ∈ spelling.params, Filled isParamCharacter param.1 ∧
    ∀ value ∈ param.2, Filled isParamCharacter value

instance (spelling : Spelling) : Decidable spelling.Grammatical :=
  decidable_of_iff
    ((lower spelling.scheme = "sip" ∨ lower spelling.scheme = "sips") ∧
      (∀ user ∈ spelling.user, Filled isUserCharacter user) ∧
      Filled (if spelling.bracketed then isAddressCharacter else isHostNameCharacter) spelling.host ∧
      (∀ digits ∈ spelling.port, Filled Char.isDigit digits ∧ number digits ≤ 65535) ∧
      ∀ param ∈ spelling.params, Filled isParamCharacter param.1 ∧
        ∀ value ∈ param.2, Filled isParamCharacter value)
    ⟨fun ⟨scheme, user, host, port, params⟩ => ⟨scheme, user, host, port, params⟩,
      fun ⟨scheme, user, host, port, params⟩ => ⟨scheme, user, host, port, params⟩⟩

end Spelling

/-- The text is spelled in this way, with any blanks around it. -/
structure SpelledAs (text : String) (spelling : Spelling) : Prop where
  grammatical : spelling.Grammatical
  surrounded : ∃ before after, Blank before ∧ Blank after ∧
    text = before ++ spelling.text ++ after

/-- A class of characters, and the class of the octets that spell them, one octet each. -/
structure Agree (chars : Char → Bool) (octets : UInt8 → Bool) : Prop where
  small : ∀ {char}, chars char = true → char.toNat < 0x80
  visible : ∀ {octet}, octets octet = true → isVisible octet = true
  same : ∀ char, char.toNat < 0x80 → octets (UInt8.ofNat char.toNat) = chars char

theorem Agree.add {chars : Char → Bool} {octets : UInt8 → Bool} (agree : Agree chars octets)
    {symbols : String} (visible : (bytes symbols).all isVisible = true) :
    Agree (fun char => chars char || symbols.toList.contains char)
      (fun octet => octets octet || (bytes symbols).contains octet) := by
  have ascii : Ascii (bytes symbols) := Visible.ascii (List.all_eq_true.mp visible)
  constructor
  · intro char admitted
    rcases Bool.or_eq_true_iff.mp admitted with inRange | listed
    · exact agree.small inRange
    · exact chars_lt ascii char (List.contains_iff_mem.mp listed)
  · exact fun admitted => admitted_of_either isVisible agree.visible visible admitted
  · intro char small
    have listed : (bytes symbols).contains (UInt8.ofNat char.toNat) =
        symbols.toList.contains char := by
      rw [Bool.eq_iff_iff, List.contains_iff_mem, List.contains_iff_mem]
      exact ⟨mem_of_mem_bytes small, fun member => mem_bytes_of_mem member small⟩
    rw [agree.same char small, listed]

theorem toNat_octet {char : Char} (small : char.toNat < 0x80) :
    (UInt8.ofNat char.toNat).toNat = char.val.toNat := by
  rw [UInt8.toNat_ofNat']
  exact Nat.mod_eq_of_lt (Nat.lt_trans small (by decide))

theorem agree_digit : Agree Char.isDigit isDigitOctet where
  small admitted := by
    simp only [Char.isDigit, Bool.and_eq_true, decide_eq_true_eq, ge_iff_le,
      UInt32.le_iff_toNat_le] at admitted
    exact Nat.lt_of_le_of_lt admitted.2 (by decide)
  visible := isVisible_of_isDigitOctet
  same char small := by
    simp only [isDigitOctet, Char.isDigit, UInt8.le_iff_toNat_le, UInt32.le_iff_toNat_le,
      toNat_octet small, ge_iff_le]
    rfl

theorem isAlphanum_eq (char : Char) : char.isAlphanum =
    (decide ('A'.val ≤ char.val ∧ char.val ≤ 'Z'.val) ||
      ('a'.val ≤ char.val && char.val ≤ 'z'.val) || char.isDigit) :=
  rfl

theorem agree_alphanum : Agree Char.isAlphanum isAlphanumericOctet where
  small := by
    intro char admitted
    simp only [isAlphanum_eq, Bool.or_eq_true, Bool.and_eq_true, decide_eq_true_eq] at admitted
    rcases admitted with (upper | lower) | digit
    · exact Nat.lt_of_le_of_lt (UInt32.le_iff_toNat_le.mp upper.2) (by decide)
    · exact Nat.lt_of_le_of_lt (UInt32.le_iff_toNat_le.mp lower.2) (by decide)
    · exact agree_digit.small digit
  visible := isVisible_of_isAlphanumericOctet
  same char small := by
    simp only [isAlphanumericOctet, isAlphanum_eq, Char.isDigit, Bool.decide_and,
      UInt8.le_iff_toNat_le, UInt32.le_iff_toNat_le, toNat_octet small, ge_iff_le]
    rw [Bool.or_assoc, Bool.or_comm]
    rfl

theorem agree_hex : Agree isHexCharacter isHexOctet where
  small admitted := by
    simp only [isHexCharacter, Bool.or_eq_true, Bool.and_eq_true, decide_eq_true_eq] at admitted
    rcases admitted with (digit | upper) | lower
    · exact agree_digit.small digit
    · exact Nat.lt_of_le_of_lt (UInt32.le_iff_toNat_le.mp upper.2) (by decide)
    · exact Nat.lt_of_le_of_lt (UInt32.le_iff_toNat_le.mp lower.2) (by decide)
  visible := isVisible_of_isHexOctet
  same char small := by
    simp only [isHexOctet, isHexCharacter, Char.isDigit, Char.le_def, UInt8.le_iff_toNat_le,
      UInt32.le_iff_toNat_le, toNat_octet small, ge_iff_le]
    rfl

theorem agree_unreserved : Agree isUnreservedCharacter isUnreserved :=
  agree_alphanum.add (by decide)

theorem agree_user : Agree isUserCharacter isUserOctet :=
  agree_unreserved.add (by decide)

theorem agree_hostName : Agree isHostNameCharacter isHostNameOctet :=
  agree_alphanum.add (by decide)

theorem agree_address : Agree isAddressCharacter isIpv6Octet :=
  agree_hex.add (by decide)

theorem agree_param : Agree isParamCharacter isParamOctet :=
  agree_unreserved.add (by decide)

theorem Agree.word_iff {chars : Char → Bool} {admits : UInt8 → Bool} (agree : Agree chars admits)
    {text : String} : Word admits text (bytes text) ↔ Filled chars text := by
  constructor
  · intro word
    refine ⟨fun empty => word.filled (bytes_eq_nil_iff.mpr empty), ?_⟩
    intro char member
    have small := chars_lt (word.visible agree.visible).ascii char member
    rw [← agree.same char small]
    exact word.admitted _ (mem_bytes_of_mem member small)
  · rintro ⟨nonempty, admitted⟩
    refine ⟨rfl, fun empty => nonempty (bytes_eq_nil_iff.mp empty), ?_⟩
    intro octet member
    have small : ∀ char ∈ text.toList, char.toNat < 0x80 :=
      fun char present => agree.small (admitted char present)
    rw [bytes, flatMap_encode small] at member
    obtain ⟨char, present, rfl⟩ := List.mem_map.mp member
    rw [agree.same char (small char present)]
    exact admitted char present

theorem Agree.written_iff {chars : Char → Bool} {admits : UInt8 → Bool}
    (agree : Agree chars admits) {text : String} {octets : List UInt8} :
    Word admits text octets ↔ octets = bytes text ∧ Filled chars text := by
  rw [← agree.word_iff]
  constructor
  · intro word
    obtain rfl := word.spelled
    exact ⟨rfl, word⟩
  · rintro ⟨rfl, word⟩
    exact word

/-! ### Written forms are spellings -/

open Spelling (userText hostText portText number)

theorem ascii_of_scheme {scheme : String} (known : scheme = "sip" ∨ scheme = "sips") :
    Ascii (bytes scheme) := by
  intro octet member
  rcases known with rfl | rfl
  · exact lt_of_isVisible (List.all_eq_true.mp (by decide : (bytes "sip").all isVisible) _ member)
  · exact lt_of_isVisible (List.all_eq_true.mp (by decide : (bytes "sips").all isVisible) _ member)

theorem schemeWritten_iff {scheme : String} {octets : List UInt8} :
    SchemeWritten scheme octets ↔
      ∃ letters, octets = bytes letters ∧ lower letters = scheme ∧
        (scheme = "sip" ∨ scheme = "sips") := by
  constructor
  · intro form
    have ascii := (visible_of_scheme form).ascii
    obtain ⟨known, folded⟩ := form
    have spelled := bytes_ofBytes ascii
    rw [← spelled] at ascii
    refine ⟨ofBytes octets, spelled.symm, ?_, known⟩
    apply bytes_injective
    rw [bytes_lower (chars_lt ascii), spelled, folded]
  · rintro ⟨letters, rfl, lowered, known⟩
    have ascii := ascii_of_scheme known
    rw [← lowered] at ascii
    refine ⟨known, ?_⟩
    rw [← bytes_lower (small_of_lower ascii), lowered]

theorem userWritten_iff {user : Option String} {octets : List UInt8} :
    Maybe UserWritten user octets ↔
      octets = bytes (userText user) ∧ ∀ text ∈ user, Filled isUserCharacter text := by
  cases user with
  | none => exact ⟨fun empty => ⟨empty, nofun⟩, fun form => form.1⟩
  | some user =>
      constructor
      · rintro ⟨inner, word, rfl⟩
        obtain ⟨rfl, filled⟩ := agree_user.written_iff.mp word
        refine ⟨(bytes_append user "@").symm, ?_⟩
        rintro text ⟨⟩
        exact filled
      · rintro ⟨rfl, filled⟩
        exact ⟨bytes user, agree_user.word_iff.mpr (filled user rfl), bytes_append _ _⟩

theorem hostWritten_iff {host : String} {octets : List UInt8} :
    HostWritten host octets ↔
      ∃ bracketed, octets = bytes (hostText bracketed host) ∧
        Filled (if bracketed then isAddressCharacter else isHostNameCharacter) host := by
  have enclosed : bytes (hostText true host) = mark '[' :: (bytes host ++ [mark ']']) := by
    change bytes ("[" ++ host ++ "]") = _
    rw [bytes_append, bytes_append]
    rfl
  constructor
  · rintro (⟨_, ⟨inner, word, rfl⟩, rfl⟩ | word)
    · obtain ⟨rfl, filled⟩ := agree_address.written_iff.mp word
      exact ⟨true, enclosed.symm, filled⟩
    · obtain ⟨rfl, filled⟩ := agree_hostName.written_iff.mp word
      exact ⟨false, rfl, filled⟩
  · rintro ⟨bracketed, rfl, filled⟩
    cases bracketed with
    | false => exact Or.inr (agree_hostName.word_iff.mpr filled)
    | true =>
        rw [enclosed]
        exact Or.inl ⟨_, ⟨_, agree_address.word_iff.mpr filled, rfl⟩, rfl⟩

theorem decimal?_of_filled {digits : String} (filled : Filled Char.isDigit digits) :
    decimal? digits.toList = some (number digits) := by
  have nonempty : digits.toList.isEmpty = false := by simp [filled.1]
  rw [decimal?, nonempty, if_neg Bool.noConfusion, appendDigits?_of_isDigit 0 filled.2, number]

theorem numberWritten_iff {port : UInt16} {octets : List UInt8} :
    NumberWritten port octets ↔
      ∃ digits, octets = bytes digits ∧ (Filled Char.isDigit digits ∧ number digits ≤ 65535) ∧
        port = UInt16.ofNat (number digits) := by
  constructor
  · rintro ⟨digits, word, value⟩
    obtain ⟨rfl, filled⟩ := agree_digit.written_iff.mp word
    rw [decimal?_of_filled filled] at value
    have same := Option.some.inj value
    refine ⟨digits, rfl, ⟨filled, ?_⟩, ?_⟩
    · have bound := port.toNat_lt
      omega
    · rw [same, UInt16.ofNat_toNat]
  · rintro ⟨digits, rfl, ⟨filled, bound⟩, rfl⟩
    refine ⟨digits, agree_digit.word_iff.mpr filled, ?_⟩
    rw [decimal?_of_filled filled, UInt16.toNat_ofNat', Nat.mod_eq_of_lt (by omega)]

theorem portWritten_iff {port : Option UInt16} {octets : List UInt8} :
    Maybe PortWritten port octets ↔
      ∃ digits, octets = bytes (portText digits) ∧
        (∀ text ∈ digits, Filled Char.isDigit text ∧ number text ≤ 65535) ∧
        port = digits.map (fun text => UInt16.ofNat (number text)) := by
  constructor
  · intro form
    cases port with
    | none => exact ⟨none, form, nofun, rfl⟩
    | some port =>
        obtain ⟨inner, written, rfl⟩ := form
        obtain ⟨digits, rfl, valid, rfl⟩ := numberWritten_iff.mp written
        refine ⟨some digits, (bytes_append ":" digits).symm, ?_, rfl⟩
        rintro text ⟨⟩
        exact valid
  · rintro ⟨digits, rfl, valid, rfl⟩
    cases digits with
    | none => rfl
    | some digits =>
        exact ⟨_, numberWritten_iff.mpr ⟨digits, rfl, valid digits rfl, rfl⟩, bytes_append _ _⟩

theorem paramWritten_iff {param : UriParam} {octets : List UInt8} :
    ParamWritten param octets ↔
      octets = bytes (renderParam param) ∧ Filled isParamCharacter param.1 ∧
        ∀ value ∈ param.2, Filled isParamCharacter value := by
  constructor
  · rintro ⟨named, valued⟩
    obtain ⟨name, value⟩ := param
    obtain ⟨rfl, filled⟩ := agree_param.written_iff.mp named
    cases value with
    | none =>
        obtain rfl := valued
        refine ⟨?_, filled, nofun⟩
        rw [renderParam, bytes_append, List.append_nil]
        rfl
    | some value =>
        obtain ⟨inner, word, rfl⟩ := valued
        obtain ⟨rfl, also⟩ := agree_param.written_iff.mp word
        refine ⟨?_, filled, ?_⟩
        · rw [renderParam, bytes_append, bytes_append, bytes_append, List.append_assoc]
          rfl
        · rintro text ⟨⟩
          exact also
  · rintro ⟨rfl, named, valued⟩
    exact paramWritten_renderParam (agree_param.word_iff.mpr named)
      (fun value present => agree_param.word_iff.mpr (valued value present))

theorem paramsWritten_iff {params : List UriParam} {octets : List UInt8} :
    Sequence ParamWritten params octets ↔
      octets = bytes (String.join (params.map renderParam)) ∧
        ∀ param ∈ params, Filled isParamCharacter param.1 ∧
          ∀ value ∈ param.2, Filled isParamCharacter value := by
  constructor
  · intro form
    induction form with
    | nil => exact ⟨rfl, nofun⟩
    | cons first rest ih =>
        obtain ⟨rfl, filled⟩ := paramWritten_iff.mp first
        obtain ⟨rfl, others⟩ := ih
        refine ⟨?_, List.forall_mem_cons.mpr ⟨filled, others⟩⟩
        rw [List.map_cons, String.join_cons, bytes_append]
  · rintro ⟨rfl, filled⟩
    apply paramsWritten_render
    intro param member
    obtain ⟨named, valued⟩ := filled param member
    exact ⟨agree_param.word_iff.mpr named,
      fun value present => agree_param.word_iff.mpr (valued value present)⟩

/-- An address is written in the ways in which it can be spelled. -/
theorem written_iff {uri : Uri} {octets : List UInt8} (enclosed : Bool) :
    Written uri octets ↔
      ∃ spelling : Spelling, spelling.Grammatical ∧ spelling.enclosed = enclosed ∧
        octets = bytes spelling.bare ∧ spelling.uri = uri := by
  constructor
  · rintro ⟨inScheme, ofUser, atHost, onPort, withParams⟩
    obtain ⟨letters, rfl, lowered, known⟩ := schemeWritten_iff.mp inScheme
    obtain ⟨rfl, user⟩ := userWritten_iff.mp ofUser
    obtain ⟨bracketed, rfl, host⟩ := hostWritten_iff.mp atHost
    obtain ⟨digits, rfl, port, value⟩ := portWritten_iff.mp onPort
    obtain ⟨rfl, params⟩ := paramsWritten_iff.mp withParams
    refine ⟨⟨enclosed, letters, uri.user, bracketed, uri.host, digits, uri.params⟩,
      ⟨?_, user, host, port, params⟩, rfl, ?_, ?_⟩
    · rw [lowered]
      exact known
    · simp only [Spelling.bare, bytes_append, List.append_assoc]
      rfl
    · simp only [Spelling.uri, lowered, ← value]
  · rintro ⟨spelling, grammatical, rfl, rfl, rfl⟩
    have form : Written spelling.uri _ := .parts
      (schemeWritten_iff.mpr ⟨spelling.scheme, rfl, rfl, grammatical.scheme⟩)
      (userWritten_iff.mpr ⟨rfl, grammatical.user⟩)
      (hostWritten_iff.mpr ⟨spelling.bracketed, rfl, grammatical.host⟩)
      (portWritten_iff.mpr ⟨spelling.port, rfl, grammatical.port, rfl⟩)
      (paramsWritten_iff.mpr ⟨rfl, grammatical.params⟩)
    simp only [Spelling.bare, bytes_append, List.append_assoc]
    exact form

theorem routeWritten_iff {uri : Uri} {octets : List UInt8} :
    RouteWritten uri octets ↔
      ∃ spelling : Spelling, spelling.Grammatical ∧ octets = bytes spelling.text ∧
        spelling.uri = uri := by
  constructor
  · rintro (⟨_, ⟨inner, written, rfl⟩, rfl⟩ | written)
    · obtain ⟨spelling, grammatical, enclosed, rfl, named⟩ := (written_iff true).mp written
      refine ⟨spelling, grammatical, ?_, named⟩
      rw [Spelling.text, enclosed, if_pos rfl, bytes_enclosed]
    · obtain ⟨spelling, grammatical, enclosed, rfl, named⟩ := (written_iff false).mp written
      refine ⟨spelling, grammatical, ?_, named⟩
      rw [Spelling.text, enclosed, if_neg Bool.noConfusion]
  · rintro ⟨spelling, grammatical, rfl, rfl⟩
    have written := (written_iff spelling.enclosed).mpr ⟨spelling, grammatical, rfl, rfl, rfl⟩
    unfold Spelling.text
    split
    · rw [bytes_enclosed]
      exact Or.inl ⟨_, ⟨_, written, rfl⟩, rfl⟩
    · exact Or.inr written

theorem visible_of_route {uri : Uri} {octets : List UInt8} (form : RouteWritten uri octets) :
    Visible octets := by
  rcases form with ⟨_, ⟨inner, written, rfl⟩, rfl⟩ | written
  · exact .cons (by decide) (.append (visible_of_written written) (.cons (by decide) nofun))
  · exact visible_of_written written

theorem Spelling.Grammatical.visible {spelling : Spelling} (grammatical : spelling.Grammatical) :
    Visible (bytes spelling.text) :=
  visible_of_route (routeWritten_iff.mpr ⟨spelling, grammatical, rfl, rfl⟩)

theorem Spelling.Grammatical.trim_eq_iff {spelling : Spelling}
    (grammatical : spelling.Grammatical) {text : String} :
    trim text = spelling.text ↔
      ∃ before after, Blank before ∧ Blank after ∧ text = before ++ spelling.text ++ after := by
  constructor
  · intro trimmed
    rw [← trimmed]
    exact exists_surroundings text
  · rintro ⟨before, after, leading, trailing, rfl⟩
    rw [trim_surrounded leading trailing, trim_of_visible grammatical.visible]

theorem parse_eq_ok_iff_spelled {text : String} {uri : Uri} :
    parse text = .ok uri ↔ ∃ spelling, SpelledAs text spelling ∧ spelling.uri = uri := by
  rw [parse_eq_ok_iff, routeWritten_iff]
  apply exists_congr
  intro spelling
  constructor
  · rintro ⟨grammatical, same, named⟩
    have trimmed := bytes_injective same
    exact ⟨⟨grammatical, grammatical.trim_eq_iff.mp trimmed⟩, named⟩
  · rintro ⟨⟨grammatical, surrounded⟩, named⟩
    refine ⟨grammatical, ?_, named⟩
    rw [grammatical.trim_eq_iff.mpr surrounded]

/-! ### One spelling at most -/

namespace Spelling

theorem portText_injective : Function.Injective portText := by
  intro digits others same
  cases digits with
  | none =>
      cases others with
      | none => rfl
      | some others => simp [portText] at same
  | some digits =>
      cases others with
      | none => simp [portText] at same
      | some others => rw [(String.append_right_inj ":").mp same]

theorem head_hostText {bracketed : Bool} {host : String} (rest : String)
    (filled : Filled (if bracketed then isAddressCharacter else isHostNameCharacter) host) :
    (hostText bracketed host ++ rest).toList.head? = some '[' ↔ bracketed = true := by
  cases bracketed with
  | true => simp [hostText]
  | false =>
      obtain ⟨first, others, spelled⟩ := List.exists_cons_of_ne_nil filled.toList_ne_nil
      have admitted := filled.2 first (by rw [spelled]; exact List.mem_cons_self)
      have other : first ≠ '[' := by
        rintro rfl
        revert admitted
        decide
      simp [hostText, spelled, other]

namespace Grammatical

variable {spelling other : Spelling}

theorem spelledAs_text (grammatical : spelling.Grammatical) : SpelledAs spelling.text spelling := by
  refine ⟨grammatical, "", "", nofun, nofun, ?_⟩
  rw [String.empty_append, String.append_empty]

theorem parse_text (grammatical : spelling.Grammatical) :
    parse spelling.text = .ok spelling.uri :=
  parse_eq_ok_iff_spelled.mpr ⟨spelling, grammatical.spelledAs_text, rfl⟩

theorem head_bare (grammatical : spelling.Grammatical) :
    spelling.bare.toList.head? ≠ some '<' := by
  intro opens
  have lowered : ∃ others, (lower spelling.scheme).toList = 's' :: others := by
    rcases grammatical.scheme with plain | secure
    · exact ⟨_, congrArg String.toList plain⟩
    · exact ⟨_, congrArg String.toList secure⟩
  obtain ⟨others, spelled⟩ := lowered
  rw [lower, String.toList_ofList] at spelled
  cases letters : spelling.scheme.toList with
  | nil =>
      rw [letters] at spelled
      cases spelled
  | cons first rest =>
      rw [letters, List.map_cons] at spelled
      simp only [bare, String.toList_append, letters, List.cons_append, List.head?_cons,
        Option.some.injEq] at opens
      subst opens
      exact absurd (List.cons.inj spelled).1 (by decide)

theorem enclosed_iff (grammatical : spelling.Grammatical) :
    spelling.text.toList.head? = some '<' ↔ spelling.enclosed = true := by
  unfold text
  split
  · rename_i enclosed
    simp [enclosed]
  · rename_i bare
    exact iff_of_false grammatical.head_bare bare

theorem bare_of_text (same : spelling.text = other.text)
    (enclosed : spelling.enclosed = other.enclosed) : spelling.bare = other.bare := by
  unfold text at same
  rw [enclosed] at same
  split at same
  · exact (String.append_right_inj "<").mp ((String.append_left_inj ">").mp same)
  · exact same

/-- The text of an address says all that its spelling leaves free. -/
theorem text_injective (grammatical : spelling.Grammatical) (again : other.Grammatical)
    (same : spelling.text = other.text) : spelling = other := by
  have read := grammatical.parse_text
  rw [same, again.parse_text] at read
  have uris : other.uri = spelling.uri := Except.ok.inj read
  have user : other.user = spelling.user := congrArg Uri.user uris
  have host : other.host = spelling.host := congrArg Uri.host uris
  have params : other.params = spelling.params := congrArg Uri.params uris
  have lowered : lower other.scheme = lower spelling.scheme := congrArg Uri.scheme uris
  have enclosed : spelling.enclosed = other.enclosed := by
    rw [Bool.eq_iff_iff, ← grammatical.enclosed_iff, ← again.enclosed_iff, same]
  -- What is left: the letters of the scheme, the brackets and the digits of the port.
  have parts := bare_of_text same enclosed
  rw [bare, bare, user, host, params, String.append_left_inj] at parts
  have lengths := congrArg (fun text => text.toList.length) lowered
  simp only [lower, String.toList_ofList, List.length_map] at lengths
  have chars := congrArg String.toList parts
  simp only [String.toList_append, List.append_assoc] at chars
  obtain ⟨letters, others⟩ := List.append_inj chars lengths.symm
  have scheme := String.toList_injective letters
  have behind : hostText spelling.bracketed spelling.host ++ portText spelling.port =
      hostText other.bracketed spelling.host ++ portText other.port := by
    apply String.toList_injective
    simpa only [String.toList_append, List.append_cancel_left_eq] using others
  have bracketed : spelling.bracketed = other.bracketed := by
    rw [Bool.eq_iff_iff, ← head_hostText (portText spelling.port) grammatical.host, behind,
      ← host, head_hostText (portText other.port) again.host]
  rw [bracketed] at behind
  have port := portText_injective ((String.append_right_inj _).mp behind)
  cases spelling
  cases other
  simp_all

end Grammatical

end Spelling

/-- A text is read as the address that its spelling names. It has a spelling when it is read at all,
and never two of them. -/
theorem grammar (text : String) :
    (∀ uri, parse text = .ok uri ↔ ∃ spelling, SpelledAs text spelling ∧ spelling.uri = uri) ∧
      {spelling | SpelledAs text spelling}.Subsingleton := by
  refine ⟨fun uri => parse_eq_ok_iff_spelled, ?_⟩
  intro spelling spelled other again
  have trimmed := spelled.grammatical.trim_eq_iff.mpr spelled.surrounded
  have trimmedAgain := again.grammatical.trim_eq_iff.mpr again.surrounded
  exact spelled.grammatical.text_injective again.grammatical (trimmed.symm.trans trimmedAgain)

end Uri

namespace Sample

def shouted : Uri.Spelling where
  enclosed := true
  scheme := "SIP"
  user := some "%40"
  bracketed := true
  host := "::1"
  port := some "05060"
  params := [("lr", none), ("lr", some "a")]

theorem shouted_grammatical : shouted.Grammatical := by
  decide

end Sample

theorem Uri.grammar_shouted :
    SpelledAs " <SIP:%40@[::1]:05060;lr;lr=a>\n" Sample.shouted ∧
      parse " <SIP:%40@[::1]:05060;lr;lr=a>\n" = .ok
        { scheme := "sip", user := some "%40", host := "::1", port := some 5060
          params := [("lr", none), ("lr", some "a")] } := by
  have spelled : SpelledAs " <SIP:%40@[::1]:05060;lr;lr=a>\n" Sample.shouted :=
    { grammatical := Sample.shouted_grammatical
      surrounded := ⟨" ", "\n", List.all_eq_true.mp (by decide), List.all_eq_true.mp (by decide),
        by decide⟩ }
  have named : Sample.shouted.uri = { scheme := "sip", user := some "%40", host := "::1"
                                      port := some 5060
                                      params := [("lr", none), ("lr", some "a")] } := by
    decide
  exact ⟨spelled, ((grammar _).1 _).mpr ⟨Sample.shouted, spelled, named⟩⟩

end SipContainer

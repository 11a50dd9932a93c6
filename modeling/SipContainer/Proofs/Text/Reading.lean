import SipContainer.Proofs.Text.Ascii
import SipContainer.Text.Case
import SipContainer.Text.Reader
/-!
What readers take off their input. A reader recognizes a way of writing values when it takes off
every written form, provided that what follows cannot belong to the form, and takes off nothing
else. It covers it when it takes off as much at least, whatever follows. Words, optional parts and
repeated parts recognize and cover what one expects of them; the parts that follow one another are put
together where a grammar names them. A part that takes something off each time can be repeated without
fail, and the repetition comes to its end.
-/

namespace SipContainer.Text.Reader

theorem bind_apply (first : Reader α) (next : α → Reader β) (input : List UInt8) :
    (first >>= next) input =
      match first input with
      | .ok (value, rest) => next value rest
      | .error stopped => .error stopped := rfl

theorem bind_of_ok {first : Reader α} {next : α → Reader β} {input rest : List UInt8} {value : α}
    (begun : first input = .ok (value, rest)) : (first >>= next) input = next value rest := by
  rw [bind_apply, begun]

theorem bind_of_error {first : Reader α} {next : α → Reader β} {input stopped : List UInt8}
    (failed : first input = .error stopped) : (first >>= next) input = .error stopped := by
  rw [bind_apply, failed]

theorem bind_eq_ok {first : Reader α} {next : α → Reader β} {input : List UInt8}
    {result : β × List UInt8} :
    (first >>= next) input = .ok result ↔
      ∃ value rest, first input = .ok (value, rest) ∧ next value rest = .ok result := by
  rw [bind_apply]
  cases first input with
  | error stopped => simp
  | ok read => exact ⟨fun done => ⟨_, _, rfl, done⟩, by rintro ⟨value, rest, ⟨⟩, done⟩; exact done⟩

theorem orElse_of_error {first second : Reader α} {input stopped : List UInt8}
    (failed : first input = .error stopped) : orElse first second input = second input := by
  rw [orElse, failed]

theorem orElse_of_ok {first second : Reader α} {input : List UInt8} {result : α × List UInt8}
    (read : first input = .ok result) : orElse first second input = .ok result := by
  rw [orElse, read]

theorem orElse_eq_ok {first second : Reader α} {input : List UInt8} {result : α × List UInt8}
    (read : orElse first second input = .ok result) :
    first input = .ok result ∨ second input = .ok result := by
  unfold orElse at read
  split at read
  · rename_i found front
    exact Or.inl (front.trans read)
  · exact Or.inr read

theorem whole_eq_ok_iff {reader : Reader α} {input : List UInt8} {value : α} :
    reader.whole input = .ok value ↔ reader input = .ok (value, []) := by
  unfold whole
  constructor
  · intro read
    split at read
    · rename_i front
      cases read
      exact front
    · cases read
    · cases read
  · intro read
    rw [read]

theorem wholeText_eq_ok_iff {reader : Reader α} {text : String} {value : α} :
    reader.wholeText text = .ok value ↔ reader (bytes (trim text)) = .ok (value, []) := by
  rw [← whole_eq_ok_iff]
  simp only [wholeText]
  constructor
  · intro read
    split at read
    · rename_i accepted
      cases read
      exact accepted
    · cases read
  · intro read
    rw [read]

/-! ### Marks and keywords -/

def mark (char : Char) : UInt8 :=
  char.val.toUInt8

def Ends (marks : List Char) (rest : List UInt8) : Prop :=
  ∀ next ∈ rest.head?, next ∈ marks.map mark

theorem ends_cons {marks : List Char} {expected : Char} (listed : expected ∈ marks)
    (rest : List UInt8) : Ends marks (mark expected :: rest) := by
  rintro next ⟨⟩
  exact List.mem_map_of_mem listed

theorem Ends.mono {few many : List Char} {rest : List UInt8} (ends : Ends few rest)
    (subset : few ⊆ many) : Ends many rest := by
  intro next first
  exact List.map_subset mark subset (ends next first)

theorem Ends.refused {marks : List Char} {rest : List UInt8} {admits : UInt8 → Bool}
    (ends : Ends marks rest) (refuses : marks.all (fun expected => !admits (mark expected)) = true) :
    ∀ next ∈ rest.head?, admits next = false := by
  intro next first
  obtain ⟨expected, listed, rfl⟩ := List.mem_map.mp (ends next first)
  simpa using List.all_eq_true.mp refuses expected listed

theorem Ends.other {marks : List Char} {rest : List UInt8} {expected : Char}
    (ends : Ends marks rest) (unlisted : mark expected ∉ marks.map mark) :
    ∀ next ∈ rest.head?, next ≠ mark expected := by
  rintro next first rfl
  exact unlisted (ends _ first)

theorem char_cons (expected : Char) (rest : List UInt8) :
    char expected (mark expected :: rest) = .ok ((), rest) :=
  if_pos rfl

theorem char_eq_ok {expected : Char} {input rest : List UInt8}
    (read : char expected input = .ok ((), rest)) : input = mark expected :: rest := by
  unfold char octet at read
  split at read
  · rename_i first others
    split at read
    · rename_i same
      cases read
      rw [same, mark]
    · cases read
  · cases read

theorem char_of_other {expected : Char} {input : List UInt8}
    (other : ∀ next ∈ input.head?, next ≠ mark expected) : char expected input = .error input := by
  cases input with
  | nil => rfl
  | cons next rest => exact if_neg (other next rfl)

theorem keyword_append {expected : String} {octets : List UInt8} (rest : List UInt8)
    (folded : octets.map foldOctet = bytes expected) :
    keyword expected (octets ++ rest) = .ok ((), rest) := by
  have length : (bytes expected).length = octets.length := by
    rw [← folded, List.length_map]
  unfold keyword
  simp only [length, List.take_left, List.drop_left, if_pos folded]

theorem keyword_of_different {expected : String} {octets : List UInt8} (rest : List UInt8)
    (length : octets.length = (bytes expected).length)
    (different : octets.map foldOctet ≠ bytes expected) :
    keyword expected (octets ++ rest) = .error (octets ++ rest) := by
  unfold keyword
  simp only [← length, List.take_left, if_neg different]

theorem keyword_eq_ok {expected : String} {input rest : List UInt8}
    (read : keyword expected input = .ok ((), rest)) :
    ∃ octets, octets.map foldOctet = bytes expected ∧ input = octets ++ rest := by
  simp only [keyword] at read
  split at read
  · rename_i folded
    cases read
    exact ⟨_, folded, (List.take_append_drop _ _).symm⟩
  · cases read

theorem isVisible_of_foldOctet {octet : UInt8} (visible : isVisible (foldOctet octet) = true) :
    isVisible octet = true := by
  unfold foldOctet at visible
  split at visible
  · simp_all [isVisible, UInt8.le_iff_toNat_le]
    omega
  · exact visible

theorem toLower_small : ∀ value < 0x80, (Char.ofNat value).toLower.toNat < 0x80 ∧
    UInt8.ofNat (Char.ofNat value).toLower.toNat = foldOctet (UInt8.ofNat value) := by
  decide +kernel

theorem bytes_lower {text : String} (small : ∀ char ∈ text.toList, char.toNat < 0x80) :
    bytes (lower text) = (bytes text).map foldOctet := by
  have lowered : ∀ char ∈ text.toList.map Char.toLower, char.toNat < 0x80 := by
    intro char member
    obtain ⟨char, present, rfl⟩ := List.mem_map.mp member
    have both := (toLower_small char.toNat (small char present)).1
    rwa [Char.ofNat_toNat] at both
  rw [bytes, bytes, lower, String.toList_ofList, flatMap_encode lowered, flatMap_encode small,
    List.map_map, List.map_map]
  apply List.map_congr_left
  intro char member
  have both := (toLower_small char.toNat (small char member)).2
  rwa [Char.ofNat_toNat] at both

theorem toNat_toLower (char : Char) : char.toLower.toNat =
    if 65 ≤ char.toNat ∧ char.toNat ≤ 90 then char.toNat + 32 else char.toNat := by
  have within : ('A'.val ≤ char.val ∧ char.val ≤ 'Z'.val) ↔ 65 ≤ char.toNat ∧ char.toNat ≤ 90 :=
    and_congr UInt32.le_iff_toNat_le UInt32.le_iff_toNat_le
  delta Char.toLower
  split
  · rename_i capital
    have bounds := within.mp capital
    have moved : (char.val + ('a'.val - 'A'.val)).toNat = (char.toNat + 32) % 2 ^ 32 :=
      UInt32.toNat_add _ _
    rw [if_pos bounds]
    exact moved.trans (by omega)
  · rename_i other
    rw [if_neg (mt within.mpr other)]

theorem toNat_toUpper (char : Char) : char.toUpper.toNat =
    if 97 ≤ char.toNat ∧ char.toNat ≤ 122 then char.toNat - 32 else char.toNat := by
  have within : ('a'.val ≤ char.val ∧ char.val ≤ 'z'.val) ↔ 97 ≤ char.toNat ∧ char.toNat ≤ 122 :=
    and_congr UInt32.le_iff_toNat_le UInt32.le_iff_toNat_le
  delta Char.toUpper
  split
  · rename_i small
    have bounds := within.mp small
    have moved : (char.val + ('A'.val - 'a'.val)).toNat = (char.toNat + (2 ^ 32 - 32)) % 2 ^ 32 :=
      UInt32.toNat_add _ _
    rw [if_pos bounds]
    exact moved.trans (by omega)
  · rename_i other
    rw [if_neg (mt within.mpr other)]

theorem toUpper_eq_iff (left right : Char) :
    left.toUpper = right.toUpper ↔ left.toLower = right.toLower := by
  rw [← Char.toNat_inj, ← Char.toNat_inj, toNat_toUpper, toNat_toUpper, toNat_toLower, toNat_toLower]
  grind

theorem upper_eq_iff {left right : String} : upper left = upper right ↔ lower left = lower right := by
  have each : ∀ chars others : List Char, chars.map Char.toUpper = others.map Char.toUpper ↔
      chars.map Char.toLower = others.map Char.toLower := by
    intro chars
    induction chars with
    | nil => simp
    | cons char chars ih =>
        intro others
        cases others with
        | nil => simp
        | cons other others => simp [toUpper_eq_iff, ih]
  unfold upper lower
  rw [String.ofList_inj, String.ofList_inj]
  exact each _ _

theorem small_of_lower {text : String} (ascii : Ascii (bytes (lower text))) :
    ∀ char ∈ text.toList, char.toNat < 0x80 := by
  intro char member
  have small := chars_lt ascii char.toLower
    (by rw [lower, String.toList_ofList]; exact List.mem_map_of_mem member)
  rw [toNat_toLower] at small
  split at small
  · omega
  · exact small

theorem visible_of_lower {text : String} (visible : Visible (bytes (lower text))) :
    Visible (bytes text) := by
  intro octet member
  have folded : foldOctet octet ∈ bytes (lower text) := by
    rw [bytes_lower (small_of_lower visible.ascii)]
    exact List.mem_map_of_mem member
  exact isVisible_of_foldOctet (visible _ folded)

/-! ### Words -/

structure Word (admits : UInt8 → Bool) (text : String) (octets : List UInt8) : Prop where
  spelled : octets = bytes text
  filled : octets ≠ []
  admitted : ∀ octet ∈ octets, admits octet = true

theorem Word.of_all {admits : UInt8 → Bool} {text : String} (filled : bytes text ≠ [])
    (each : (bytes text).all admits = true) : Word admits text (bytes text) :=
  ⟨rfl, filled, List.all_eq_true.mp each⟩

theorem Word.visible {admits : UInt8 → Bool} {text : String} {octets : List UInt8}
    (word : Word admits text octets)
    (each : ∀ {octet}, admits octet = true → isVisible octet = true) : Visible octets :=
  fun octet member => each (word.admitted octet member)

theorem takeWhile_append {admits : UInt8 → Bool} {octets rest : List UInt8}
    (admitted : ∀ octet ∈ octets, admits octet = true)
    (ends : ∀ next ∈ rest.head?, admits next = false) :
    (octets ++ rest).takeWhile admits = octets ∧ (octets ++ rest).dropWhile admits = rest := by
  rw [List.takeWhile_append_of_pos admitted, List.dropWhile_append_of_pos admitted]
  cases rest with
  | nil => simp
  | cons next others =>
      have stops := ends next rfl
      simp [stops]

theorem someRun_append {admits : UInt8 → Bool} {octets rest : List UInt8} (filled : octets ≠ [])
    (admitted : ∀ octet ∈ octets, admits octet = true)
    (ends : ∀ next ∈ rest.head?, admits next = false) :
    someRun admits (octets ++ rest) = .ok (octets, rest) := by
  obtain ⟨taken, left⟩ := takeWhile_append admitted ends
  unfold someRun
  rw [taken, left, if_neg (by simpa using filled)]

theorem someRun_eq_ok {admits : UInt8 → Bool} {input octets rest : List UInt8}
    (read : someRun admits input = .ok (octets, rest)) :
    octets ≠ [] ∧ (∀ octet ∈ octets, admits octet = true) ∧ input = octets ++ rest := by
  unfold someRun at read
  split at read
  · cases read
  · rename_i filled
    cases read
    refine ⟨by simpa using filled, ?_, List.takeWhile_append_dropWhile.symm⟩
    intro octet member
    exact List.all_eq_true.mp List.all_takeWhile octet member

theorem word_of_other {admits : UInt8 → Bool} {input : List UInt8}
    (other : ∀ next ∈ input.head?, admits next = false) : word admits input = .error input := by
  have none : input.takeWhile admits = [] := by
    cases input with
    | nil => rfl
    | cons next rest => simp [other next rfl]
  have failed : someRun admits input = .error input := by
    unfold someRun
    rw [none]
    rfl
  exact bind_of_error failed

structure Recognizes (reader : Reader α) (written : α → List UInt8 → Prop)
    (ends : List UInt8 → Prop) : Prop where
  complete : ∀ {value octets rest}, written value octets → ends rest →
    reader (octets ++ rest) = .ok (value, rest)
  sound : ∀ {value input rest}, reader input = .ok (value, rest) →
    ∃ octets, written value octets ∧ input = octets ++ rest

theorem recognizes_word {admits : UInt8 → Bool} (ascii : ∀ octet, admits octet = true → octet < 0x80) :
    Recognizes (word admits) (Word admits) (fun rest => ∀ next ∈ rest.head?, admits next = false) where
  complete := by
    rintro text octets rest ⟨spelled, filled, admitted⟩ ends
    calc word admits (octets ++ rest)
        = .ok (ofBytes octets, rest) := bind_of_ok (someRun_append filled admitted ends)
      _ = .ok (text, rest) := by rw [spelled, ofBytes_bytes]
  sound := by
    intro text input rest read
    obtain ⟨octets, left, run, done⟩ := bind_eq_ok.mp read
    cases done
    obtain ⟨filled, admitted, rfl⟩ := someRun_eq_ok run
    have plain : Ascii octets := fun octet member => ascii octet (admitted octet member)
    exact ⟨octets, ⟨(bytes_ofBytes plain).symm, filled, admitted⟩, rfl⟩

def Behind (opening : Char) (written : α → List UInt8 → Prop) (value : α) (octets : List UInt8) :
    Prop :=
  ∃ inner, written value inner ∧ octets = mark opening :: inner

def Before (closing : Char) (written : α → List UInt8 → Prop) (value : α) (octets : List UInt8) :
    Prop :=
  ∃ inner, written value inner ∧ octets = inner ++ [mark closing]

theorem Recognizes.behind {part : Reader α} {written : α → List UInt8 → Prop}
    {ends : List UInt8 → Prop} (recognizes : Recognizes part written ends) (opening : Char) :
    Recognizes (do char opening; part) (Behind opening written) ends where
  complete := by
    rintro value _ rest ⟨inner, form, rfl⟩ finished
    rw [List.cons_append, bind_of_ok (char_cons opening _)]
    exact recognizes.complete form finished
  sound := by
    intro value input rest read
    obtain ⟨_, left, opened, front⟩ := bind_eq_ok.mp read
    obtain ⟨inner, form, rfl⟩ := recognizes.sound front
    exact ⟨mark opening :: inner, ⟨inner, form, rfl⟩, char_eq_ok opened⟩

theorem behind_of_other {part : Reader α} {opening : Char} {input : List UInt8}
    (other : ∀ next ∈ input.head?, next ≠ mark opening) :
    (do char opening; part : Reader α) input = .error input :=
  bind_of_error (char_of_other other)

theorem Recognizes.before {part : Reader α} {written : α → List UInt8 → Prop}
    {follows : List UInt8 → Prop} (recognizes : Recognizes part written follows) (closing : Char)
    (allowed : ∀ rest, follows (mark closing :: rest)) (ends : List UInt8 → Prop) :
    Recognizes (do let value ← part; char closing; return value) (Before closing written) ends where
  complete := by
    rintro value _ rest ⟨inner, form, rfl⟩ _
    rw [List.append_assoc, List.singleton_append,
      bind_of_ok (recognizes.complete form (allowed rest)), bind_of_ok (char_cons closing rest)]
    rfl
  sound := by
    intro value input rest read
    obtain ⟨found, left, front, closed⟩ := bind_eq_ok.mp read
    obtain ⟨_, last, mark, done⟩ := bind_eq_ok.mp closed
    cases done
    obtain ⟨inner, form, rfl⟩ := recognizes.sound front
    refine ⟨_, ⟨inner, form, rfl⟩, ?_⟩
    rw [char_eq_ok mark, List.append_assoc, List.singleton_append]

def Maybe (written : α → List UInt8 → Prop) : Option α → List UInt8 → Prop
  | none, octets => octets = []
  | some value, octets => written value octets

theorem visible_of_maybe {written : α → List UInt8 → Prop} {value : Option α}
    {octets : List UInt8} (form : Maybe written value octets)
    (each : ∀ value octets, written value octets → Visible octets) : Visible octets := by
  cases value with
  | none =>
      obtain rfl : octets = [] := form
      nofun
  | some value => exact each value octets form

theorem ends_maybe {opening : Char} {marks : List Char} {written : α → List UInt8 → Prop}
    {value : Option α} {octets rest : List UInt8}
    (form : Maybe (Behind opening written) value octets) (ends : Ends marks rest) :
    Ends (opening :: marks) (octets ++ rest) := by
  cases value with
  | none =>
      obtain rfl : octets = [] := form
      exact ends.mono (List.subset_cons_self _ _)
  | some value =>
      obtain ⟨inner, _, rfl⟩ := form
      exact ends_cons List.mem_cons_self _

theorem Recognizes.optional {part : Reader α} {written : α → List UInt8 → Prop}
    {follows ends : List UInt8 → Prop} (recognizes : Recognizes part written follows)
    (stops : ∀ rest, ends rest → follows rest ∧ ∃ stopped, part rest = .error stopped) :
    Recognizes part.optional (Maybe written) ends where
  complete := by
    intro value octets rest form finished
    obtain ⟨allowed, stopped, failed⟩ := stops rest finished
    cases value with
    | none =>
        obtain rfl : octets = [] := form
        rw [List.nil_append, Reader.optional, failed]
    | some value => rw [Reader.optional, recognizes.complete form allowed]
  sound := by
    intro value input rest read
    unfold Reader.optional at read
    split at read
    · rename_i found left front
      cases read
      exact recognizes.sound front
    · cases read
      exact ⟨[], rfl, rfl⟩

inductive Sequence (written : α → List UInt8 → Prop) : List α → List UInt8 → Prop
  | nil : Sequence written [] []
  | cons {value octets values others} (first : written value octets)
      (rest : Sequence written values others) :
      Sequence written (value :: values) (octets ++ others)

theorem repeatFrom_of_error {part : Reader α} {input stopped : List UInt8}
    (failed : part input = .error stopped) : repeatFrom part input = .ok ([], input) := by
  rw [repeatFrom, failed]

theorem repeatFrom_of_ok {part : Reader α} {input rest left : List UInt8} {value : α}
    {values : List α} (read : part input = .ok (value, rest)) (shorter : rest.length < input.length)
    (later : repeatFrom part rest = .ok (values, left)) :
    repeatFrom part input = .ok (value :: values, left) := by
  rw [repeatFrom, read]
  simp only [if_pos shorter, later]

theorem length_lt_append {octets : List UInt8} (filled : octets ≠ []) (rest : List UInt8) :
    rest.length < (octets ++ rest).length := by
  have some := List.length_pos_iff.mpr filled
  rw [List.length_append]
  omega

theorem Recognizes.many {part : Reader α} {written : α → List UInt8 → Prop}
    {follows ends : List UInt8 → Prop} (recognizes : Recognizes part written follows)
    (filled : ∀ value octets, written value octets → octets ≠ [])
    (next : ∀ value octets rest, written value octets → follows (octets ++ rest))
    (stops : ∀ rest, ends rest → follows rest ∧ ∃ stopped, part rest = .error stopped) :
    Recognizes (many part) (Sequence written) ends where
  complete := by
    intro values octets rest form finished
    obtain ⟨allowed, stopped, failed⟩ := stops rest finished
    change repeatFrom part (octets ++ rest) = .ok (values, rest)
    induction form with
    | nil => exact repeatFrom_of_error failed
    | @cons value octets values others first tail ih =>
        have behind : follows (others ++ rest) := by
          cases tail with
          | nil => exact allowed
          | cons second _ =>
              rw [List.append_assoc]
              exact next _ _ _ second
        rw [List.append_assoc]
        exact repeatFrom_of_ok (recognizes.complete first behind)
          (length_lt_append (filled value octets first) _) ih
  sound := by
    intro values input rest read
    change repeatFrom part input = .ok (values, rest) at read
    fun_induction repeatFrom part input generalizing values with
    | case1 input stopped failed =>
        cases read
        exact ⟨[], .nil, rfl⟩
    | case2 input value left front shorter others last later ih =>
        cases read
        obtain ⟨behind, form, rfl⟩ := ih later
        obtain ⟨octets, first, rfl⟩ := recognizes.sound front
        exact ⟨octets ++ behind, .cons first form, (List.append_assoc _ _ _).symm⟩
    | case3 input value left front shorter stopped later ih => cases read
    | case4 input value left front longer => cases read

/-! ### Repetition -/

inductive Rounds (part : Reader α) : List UInt8 → List α → List UInt8 → Prop
  | stop {input stopped : List UInt8} (failed : part input = .error stopped) :
      Rounds part input [] input
  | next {input left rest : List UInt8} {value : α} {values : List α}
      (read : part input = .ok (value, left)) (later : Rounds part left values rest) :
      Rounds part input (value :: values) rest

/-- A part that can be read as often as there is one. -/
structure Repeats (part : Reader α) : Prop where
  consumes : ∀ {input value rest}, part input = .ok (value, rest) →
    ∃ taken, taken ≠ [] ∧ input = taken ++ rest
  ends : WellFounded fun rest input => ∃ value, part input = .ok (value, rest)
  succeeds : ∀ input, ∃ values taken rest, many part input = .ok (values, rest) ∧
    Rounds part input values rest ∧ input = taken ++ rest ∧ values.length ≤ taken.length

section

variable {part : Reader α} {input rest : List UInt8} {value : α}
variable (consumes : ∀ {input value rest}, part input = .ok (value, rest) →
  ∃ taken, taken ≠ [] ∧ input = taken ++ rest)

include consumes

theorem length_lt_of_consumes (read : part input = .ok (value, rest)) : rest.length < input.length := by
  obtain ⟨taken, filled, rfl⟩ := consumes read
  exact length_lt_append filled rest

theorem Rounds.consumed {values : List α} (rounds : Rounds part input values rest) :
    ∃ taken, input = taken ++ rest ∧ values.length ≤ taken.length := by
  induction rounds with
  | stop => exact ⟨[], rfl, Nat.le_refl _⟩
  | next read _ ih =>
      obtain ⟨others, rfl, bound⟩ := ih
      obtain ⟨octets, filled, rfl⟩ := consumes read
      have some := List.length_pos_iff.mpr filled
      refine ⟨octets ++ others, (List.append_assoc _ _ _).symm, ?_⟩
      rw [List.length_append, List.length_cons]
      omega

/-- Each round is about fewer octets than the one before. -/
theorem exists_rounds (input : List UInt8) :
    ∃ values rest, many part input = .ok (values, rest) ∧ Rounds part input values rest := by
  induction length : input.length using Nat.strongRecOn generalizing input with
  | ind length ih =>
      subst length
      cases read : part input with
      | error stopped => exact ⟨[], input, repeatFrom_of_error read, .stop read⟩
      | ok result =>
          obtain ⟨value, left⟩ := result
          have shorter := length_lt_of_consumes consumes read
          obtain ⟨values, rest, later, rounds⟩ := ih _ shorter left rfl
          exact ⟨value :: values, rest, repeatFrom_of_ok read shorter later, .next read rounds⟩

theorem repeats_of_consumes : Repeats part where
  consumes := consumes
  ends := by
    refine Subrelation.wf (r := fun rest input => rest.length < input.length) ?_
      (measure List.length).wf
    rintro rest input ⟨value, read⟩
    exact length_lt_of_consumes consumes read
  succeeds := by
    intro input
    obtain ⟨values, rest, read, rounds⟩ := exists_rounds consumes input
    obtain ⟨taken, whole, bound⟩ := rounds.consumed consumes
    exact ⟨values, taken, rest, read, rounds, whole, bound⟩

end

theorem Recognizes.repeats {written : α → List UInt8 → Prop} {ends : List UInt8 → Prop}
    (recognizes : Recognizes part written ends)
    (filled : ∀ value octets, written value octets → octets ≠ []) : Repeats part := by
  apply repeats_of_consumes
  intro input value rest read
  obtain ⟨taken, form, whole⟩ := recognizes.sound read
  exact ⟨taken, filled value taken form, whole⟩

/-! ### Covering -/

/-- The reader takes something off, and leaves no more than `rest`. -/
def Reaches (reader : Reader α) (input rest : List UInt8) : Prop :=
  ∃ value left, reader input = .ok (value, left) ∧ left.length ≤ rest.length

def Covers (reader : Reader α) (written : α → List UInt8 → Prop) : Prop :=
  ∀ {value octets}, written value octets → ∀ rest, Reaches reader (octets ++ rest) rest

def Total (reader : Reader α) : Prop :=
  ∀ input, Reaches reader input input

theorem reaches_of_ok {reader : Reader α} {input rest : List UInt8} {value : α}
    (read : reader input = .ok (value, rest)) : Reaches reader input rest :=
  ⟨value, rest, read, Nat.le_refl _⟩

theorem Reaches.bind {first : Reader α} {next : α → Reader β} {input left rest : List UInt8}
    {value : α} (begun : first input = .ok (value, left)) (later : Reaches (next value) left rest) :
    Reaches (first >>= next) input rest := by
  obtain ⟨found, last, read, bound⟩ := later
  exact ⟨found, last, (bind_of_ok begun).trans read, bound⟩

theorem Reaches.bind_total {first : Reader α} {next : α → Reader β} {input rest : List UInt8}
    (begun : Reaches first input rest) (total : ∀ value, Total (next value)) :
    Reaches (first >>= next) input rest := by
  obtain ⟨value, left, read, bound⟩ := begun
  obtain ⟨found, last, later, shorter⟩ := total value left
  exact ⟨found, last, (bind_of_ok read).trans later, Nat.le_trans shorter bound⟩

theorem total_pure (value : α) : Total (pure value : Reader α) :=
  fun _ => reaches_of_ok rfl

theorem Total.bind {first : Reader α} {next : α → Reader β} (total : Total first)
    (later : ∀ value, Total (next value)) : Total (first >>= next) :=
  fun input => (total input).bind_total later

/-- Something and then, if at all, something that can follow it, before a part that need not be there:
the first is taken off exactly where the second is there, and perhaps too much of it where not. -/
theorem Recognizes.reaches_bind {first : Reader α} {next : α → Reader β}
    {written : α → List UInt8 → Prop} {follows : List UInt8 → Prop}
    (recognizes : Recognizes first written follows) (covers : Covers first written)
    (total : ∀ value, Total (next value)) {value : α} {front back rest : List UInt8}
    (form : written value front)
    (later : back = [] ∨ follows (back ++ rest) ∧ Reaches (next value) (back ++ rest) rest) :
    Reaches (first >>= next) (front ++ (back ++ rest)) rest := by
  rcases later with rfl | ⟨allowed, reaches⟩
  · exact (covers form rest).bind_total total
  · exact .bind (recognizes.complete form allowed) reaches

theorem covers_word {admits : UInt8 → Bool} : Covers (word admits) (Word admits) := by
  rintro text octets ⟨spelled, filled, admitted⟩ rest
  have taken : (octets ++ rest).takeWhile admits ≠ [] := by
    rw [List.takeWhile_append_of_pos admitted]
    exact List.append_ne_nil_of_left_ne_nil filled _
  have run : someRun admits (octets ++ rest) =
      .ok ((octets ++ rest).takeWhile admits, rest.dropWhile admits) := by
    unfold someRun
    rw [if_neg (by simpa using taken), List.dropWhile_append_of_pos admitted]
  exact ⟨_, _, bind_of_ok run, (List.dropWhile_suffix admits).length_le⟩

theorem Recognizes.length_le {reader : Reader α} {written : α → List UInt8 → Prop}
    {follows : List UInt8 → Prop} (recognizes : Recognizes reader written follows)
    {input rest : List UInt8} {value : α} (read : reader input = .ok (value, rest)) :
    rest.length ≤ input.length := by
  obtain ⟨octets, _, rfl⟩ := recognizes.sound read
  rw [List.length_append]
  exact Nat.le_add_left _ _

theorem Recognizes.total_optional {part : Reader α} {written : α → List UInt8 → Prop}
    {follows : List UInt8 → Prop} (recognizes : Recognizes part written follows) :
    Total part.optional := by
  intro input
  cases read : part input with
  | error stopped => exact ⟨none, input, by rw [Reader.optional, read], Nat.le_refl _⟩
  | ok result =>
      obtain ⟨value, left⟩ := result
      exact ⟨some value, left, by rw [Reader.optional, read], recognizes.length_le read⟩

theorem Covers.optional {part : Reader α} {written : α → List UInt8 → Prop}
    (covers : Covers part written) (total : Total part.optional) :
    Covers part.optional (Maybe written) := by
  intro value octets form rest
  cases value with
  | none =>
      obtain rfl : octets = [] := form
      exact total rest
  | some value =>
      obtain ⟨found, left, read, bound⟩ := covers form rest
      exact ⟨some found, left, by rw [Reader.optional, read], bound⟩

theorem Reaches.many_of_ok {part : Reader α} {input left rest : List UInt8} {value : α}
    (read : part input = .ok (value, left)) (shorter : left.length < input.length)
    (later : Reaches (Reader.many part) left rest) : Reaches (Reader.many part) input rest := by
  obtain ⟨values, last, behind, bound⟩ := later
  exact ⟨value :: values, last, repeatFrom_of_ok read shorter behind, bound⟩

theorem Recognizes.total_many {part : Reader α} {written : α → List UInt8 → Prop}
    {follows : List UInt8 → Prop} (recognizes : Recognizes part written follows)
    (filled : ∀ value octets, written value octets → octets ≠ []) : Total (Reader.many part) := by
  intro input
  obtain ⟨values, taken, rest, read, _, rfl, _⟩ := (recognizes.repeats filled).succeeds input
  refine ⟨values, rest, read, ?_⟩
  rw [List.length_append]
  exact Nat.le_add_left _ _

theorem Recognizes.covers_many {part : Reader α} {written : α → List UInt8 → Prop}
    {follows : List UInt8 → Prop} (recognizes : Recognizes part written follows)
    (covers : Covers part written)
    (filled : ∀ value octets, written value octets → octets ≠ [])
    (next : ∀ value octets rest, written value octets → follows (octets ++ rest)) :
    Covers (Reader.many part) (Sequence written) := by
  intro values octets form rest
  have total := recognizes.total_many filled
  induction form with
  | nil => exact total rest
  | @cons value octets values others first tail ih =>
      have nonempty := filled value octets first
      rw [List.append_assoc]
      -- The first member is taken off exactly, unless it is the last one as well.
      cases tail with
      | nil =>
          obtain ⟨found, left, read, bound⟩ := covers first rest
          obtain ⟨values, last, behind, less⟩ := total left
          exact .many_of_ok read (Nat.lt_of_le_of_lt bound (length_lt_append nonempty rest))
            ⟨values, last, behind, Nat.le_trans less bound⟩
      | @cons _ _ _ behind second _ =>
          have allowed := next _ _ (behind ++ rest) second
          rw [← List.append_assoc] at allowed
          exact .many_of_ok (recognizes.complete first allowed) (length_lt_append nonempty _) ih

end SipContainer.Text.Reader

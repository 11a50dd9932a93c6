import SipContainer.Text.Blank
import SipContainer.Proofs.Text.Utf8
/-!
Text and octets where they are the same thing. An octet below `80` spells a character by itself, so
octets of that kind can be read back from the text that they spell, and behind such an octet a text can
be divided. Octets that are visible as well leave nothing to trim.
-/

namespace SipContainer.Text

def Ascii (octets : List UInt8) : Prop :=
  ∀ octet ∈ octets, octet < 0x80

@[simp] theorem bytes_append (left right : String) :
    bytes (left ++ right) = bytes left ++ bytes right := by
  simp [bytes]

@[simp] theorem bytes_empty : bytes "" = [] := rfl

theorem bytes_eq_nil_iff {text : String} : bytes text = [] ↔ text = "" := by
  rw [← String.toList_eq_nil_iff, bytes, List.flatMap_eq_nil_iff]
  constructor
  · intro none
    cases chars : text.toList with
    | nil => rfl
    | cons char rest =>
        have empty := none char (by simp [chars])
        exact absurd empty String.utf8EncodeChar_ne_nil
  · intro empty char member
    rw [empty] at member
    cases member

theorem utf8EncodeChar_of_lt {char : Char} (small : char.toNat < 0x80) :
    String.utf8EncodeChar char = [UInt8.ofNat char.toNat] := by
  have low : char.val.toNat ≤ 127 := by
    change char.toNat ≤ 127
    omega
  unfold String.utf8EncodeChar
  exact if_pos low

theorem le_of_mem_encode {char : Char} (large : 0x80 ≤ char.toNat) :
    ∀ octet ∈ String.utf8EncodeChar char, 0x80 ≤ octet.toNat := by
  have high : ¬ char.val.toNat ≤ 127 := Nat.not_le_of_lt large
  have spelled : ∀ {value : Nat}, 0x80 ≤ value → value < 0x100 →
      0x80 ≤ (UInt8.ofNat value).toNat := by
    intro value low bound
    rwa [toNat_ofNat_of_lt bound]
  unfold String.utf8EncodeChar
  simp only [if_neg high]
  split
  · simp only [List.forall_mem_cons]
    exact ⟨spelled (by omega) (by omega), spelled (by omega) (by omega), nofun⟩
  · split
    · simp only [List.forall_mem_cons]
      exact ⟨spelled (by omega) (by omega), spelled (by omega) (by omega),
        spelled (by omega) (by omega), nofun⟩
    · simp only [List.forall_mem_cons]
      exact ⟨spelled (by omega) (by omega), spelled (by omega) (by omega),
        spelled (by omega) (by omega), spelled (by omega) (by omega), nofun⟩

theorem lt_of_mem_encode {char : Char} {octet : UInt8} (member : octet ∈ String.utf8EncodeChar char)
    (small : octet < 0x80) : char.toNat < 0x80 := by
  refine Nat.lt_of_not_le fun large => ?_
  have high := le_of_mem_encode large octet member
  exact Nat.not_lt_of_le high (UInt8.lt_iff_toNat_lt.mp small)

theorem lt_of_utf8EncodeChar {char : Char} (spelled : Ascii (String.utf8EncodeChar char)) :
    char.toNat < 0x80 := by
  obtain ⟨octet, member⟩ := List.exists_mem_of_ne_nil _ String.utf8EncodeChar_ne_nil
  exact lt_of_mem_encode member (spelled octet member)

theorem chars_lt {text : String} (ascii : Ascii (bytes text)) :
    ∀ char ∈ text.toList, char.toNat < 0x80 := by
  intro char member
  apply lt_of_utf8EncodeChar
  intro octet spelled
  exact ascii octet (List.mem_flatMap.mpr ⟨char, member, spelled⟩)

theorem flatMap_encode {chars : List Char} (small : ∀ char ∈ chars, char.toNat < 0x80) :
    chars.flatMap String.utf8EncodeChar = chars.map (fun char => UInt8.ofNat char.toNat) := by
  induction chars with
  | nil => rfl
  | cons char rest ih =>
      rw [List.flatMap_cons, utf8EncodeChar_of_lt (small char List.mem_cons_self),
        ih (fun other member => small other (List.mem_cons_of_mem _ member))]
      rfl

theorem mem_bytes_of_mem {text : String} {char : Char} (member : char ∈ text.toList)
    (small : char.toNat < 0x80) : UInt8.ofNat char.toNat ∈ bytes text := by
  refine List.mem_flatMap.mpr ⟨char, member, ?_⟩
  rw [utf8EncodeChar_of_lt small]
  exact List.mem_singleton_self _

theorem mem_of_mem_bytes {text : String} {char : Char} (small : char.toNat < 0x80)
    (member : UInt8.ofNat char.toNat ∈ bytes text) : char ∈ text.toList := by
  have octet : (UInt8.ofNat char.toNat).toNat = char.toNat := toNat_ofNat_of_lt (by omega)
  obtain ⟨other, present, spelled⟩ := List.mem_flatMap.mp member
  have low := lt_of_mem_encode spelled (UInt8.lt_iff_toNat_lt.mpr (octet.symm ▸ small))
  rw [utf8EncodeChar_of_lt low, List.mem_singleton] at spelled
  have numbers := congrArg UInt8.toNat spelled
  rw [octet, toNat_ofNat_of_lt (by omega)] at numbers
  rwa [Char.toNat_inj.mp numbers]

theorem decode_none_ascii {octets : List UInt8} (ascii : Ascii octets) :
    decode none octets = octets.map (fun octet => Char.ofNat octet.toNat) := by
  induction octets with
  | nil => rfl
  | cons octet rest ih =>
      rw [decode]
      simp only [if_pos (ascii octet List.mem_cons_self),
        ih (fun other member => ascii other (List.mem_cons_of_mem _ member))]
      rfl

theorem toNat_ofNat_octet {octet : UInt8} (small : octet < 0x80) :
    (Char.ofNat octet.toNat).toNat = octet.toNat := by
  have valid : octet.toNat.isValidChar := Or.inl (Nat.lt_trans (UInt8.lt_iff_toNat_lt.mp small)
    (by decide))
  rw [Char.ofNat, dif_pos valid]
  rfl

theorem bytes_ofBytes {octets : List UInt8} (ascii : Ascii octets) : bytes (ofBytes octets) = octets := by
  rw [bytes, ofBytes, String.toList_ofList, decode_none_ascii ascii, flatMap_encode]
  · rw [List.map_map]
    have same : ∀ octet ∈ octets,
        ((fun char : Char => UInt8.ofNat char.toNat) ∘ fun octet : UInt8 => Char.ofNat octet.toNat)
          octet = octet := by
      intro octet member
      simp only [Function.comp_apply, toNat_ofNat_octet (ascii octet member), UInt8.ofNat_toNat]
    rw [List.map_congr_left same, List.map_id']
  · intro char member
    obtain ⟨octet, present, rfl⟩ := List.mem_map.mp member
    rw [toNat_ofNat_octet (ascii octet present)]
    exact ascii octet present

/-- A text can be divided behind each octet below `80`, as no longer character has one. -/
theorem exists_split {chars : List Char} {front rest : List UInt8}
    (spelled : chars.flatMap String.utf8EncodeChar = front ++ rest)
    (ends : ∀ last ∈ front.getLast?, last < 0x80) :
    ∃ before after, chars = before ++ after ∧ before.flatMap String.utf8EncodeChar = front := by
  induction chars generalizing front with
  | nil => exact ⟨[], [], rfl, (List.append_eq_nil_iff.mp spelled.symm).1.symm⟩
  | cons char chars ih =>
      rw [List.flatMap_cons] at spelled
      rcases List.append_eq_append_iff.mp spelled with ⟨others, rfl, later⟩ | ⟨others, whole, _⟩
      · have endsLater : ∀ last ∈ others.getLast?, last < 0x80 := by
          intro last present
          apply ends last
          rw [List.getLast?_append, Option.mem_def.mp present]
          rfl
        obtain ⟨before, after, rfl, same⟩ := ih later endsLater
        exact ⟨char :: before, after, rfl, by rw [List.flatMap_cons, same]⟩
      · cases filled : front.getLast? with
        | none =>
            rw [List.getLast?_eq_none_iff.mp filled]
            exact ⟨[], char :: chars, rfl, rfl⟩
        | some last =>
            have member : last ∈ String.utf8EncodeChar char := by
              rw [whole]
              exact List.mem_append_left _ (List.mem_of_getLast? filled)
            have small := lt_of_mem_encode member (ends last filled)
            rw [utf8EncodeChar_of_lt small] at whole
            obtain ⟨rfl, rfl⟩ : front = [UInt8.ofNat char.toNat] ∧ others = [] := by
              cases front with
              | nil => cases filled
              | cons first behind =>
                  obtain ⟨rfl, nothing⟩ := List.cons.inj whole
                  obtain ⟨rfl, rfl⟩ := List.append_eq_nil_iff.mp nothing.symm
                  exact ⟨rfl, rfl⟩
            refine ⟨[char], chars, rfl, ?_⟩
            rw [List.flatMap_cons, utf8EncodeChar_of_lt small]
            rfl

/-! ### Trimming -/

/-- Neither a blank nor a control, and no part of a longer character. -/
def isVisible (octet : UInt8) : Bool :=
  0x21 ≤ octet && octet ≤ 0x7E

theorem lt_of_isVisible {octet : UInt8} (visible : isVisible octet = true) : octet < 0x80 := by
  simp [isVisible, UInt8.le_iff_toNat_le, UInt8.lt_iff_toNat_lt] at *
  omega

theorem isBlank_eq_false {char : Char} (low : 0x21 ≤ char.toNat) (high : char.toNat ≤ 0x7E) :
    isBlank char = false := by
  change 0x21 ≤ char.val.toNat at low
  change char.val.toNat ≤ 0x7E at high
  simp only [isBlank, Bool.or_eq_false_iff, Bool.and_eq_false_iff, decide_eq_false_iff_not,
    beq_eq_false_iff_ne]
  omega

def Visible (octets : List UInt8) : Prop :=
  ∀ octet ∈ octets, isVisible octet = true

theorem Visible.append {front back : List UInt8} (first : Visible front) (second : Visible back) :
    Visible (front ++ back) := by
  intro octet member
  rcases List.mem_append.mp member with early | late
  · exact first octet early
  · exact second octet late

theorem Visible.cons {octet : UInt8} {octets : List UInt8} (first : isVisible octet = true)
    (rest : Visible octets) : Visible (octet :: octets) :=
  List.forall_mem_cons.mpr ⟨first, rest⟩

theorem Visible.ascii {octets : List UInt8} (visible : Visible octets) : Ascii octets :=
  fun octet member => lt_of_isVisible (visible octet member)

theorem Visible.solid {text : String} (visible : Visible (bytes text)) :
    ∀ char ∈ text.toList, isBlank char = false := by
  intro char member
  have small := chars_lt visible.ascii char member
  have bounds := visible _ (mem_bytes_of_mem member small)
  simp only [isVisible, Bool.and_eq_true, decide_eq_true_eq, UInt8.le_iff_toNat_le,
    UInt8.toNat_ofNat', Nat.mod_eq_of_lt (by omega : char.toNat < 2 ^ 8)] at bounds
  exact isBlank_eq_false bounds.1 bounds.2

theorem dropWhile_of_head {drops : α → Bool} {items : List α}
    (kept : ∀ first ∈ items.head?, drops first = false) : items.dropWhile drops = items := by
  cases items with
  | nil => rfl
  | cons first others => exact List.dropWhile_cons_of_neg (by simp [kept first rfl])

theorem dropEndWhile_of_last {drops : α → Bool} {items : List α}
    (kept : ∀ last ∈ items.getLast?, drops last = false) : dropEndWhile drops items = items := by
  rw [← List.head?_reverse] at kept
  rw [dropEndWhile, dropWhile_of_head kept, List.reverse_reverse]

theorem trim_of_solid_ends {text : String} (first : ∀ char ∈ text.toList.head?, isBlank char = false)
    (last : ∀ char ∈ text.toList.getLast?, isBlank char = false) : trim text = text := by
  rw [trim, dropWhile_of_head first, dropEndWhile_of_last last, String.ofList_toList]

theorem trim_of_visible {text : String} (visible : Visible (bytes text)) : trim text = text := by
  have solid := visible.solid
  exact trim_of_solid_ends (fun char first => solid char (List.mem_of_head? first))
    (fun char last => solid char (List.mem_of_getLast? last))

def Blank (text : String) : Prop :=
  ∀ char ∈ text.toList, isBlank char = true

theorem Blank.dropWhile_append {text : String} (blank : Blank text) (chars : List Char) :
    (text.toList ++ chars).dropWhile isBlank = chars.dropWhile isBlank :=
  List.dropWhile_append_of_pos blank

theorem Blank.dropEndWhile_append {text : String} (blank : Blank text) (chars : List Char) :
    dropEndWhile isBlank (chars ++ text.toList) = dropEndWhile isBlank chars := by
  have reversed : ∀ char ∈ text.toList.reverse, isBlank char = true := by
    intro char member
    exact blank char (List.mem_reverse.mp member)
  rw [dropEndWhile, dropEndWhile, List.reverse_append, List.dropWhile_append_of_pos reversed]

theorem trim_surrounded {before after : String} (leading : Blank before) (trailing : Blank after)
    (text : String) : trim (before ++ text ++ after) = trim text := by
  rw [trim, trim, String.toList_append, String.toList_append, List.append_assoc,
    leading.dropWhile_append, List.dropWhile_append]
  split
  · rename_i nothing
    have behind : after.toList.dropWhile isBlank = [] := by
      simpa using trailing.dropWhile_append []
    rw [behind, List.isEmpty_iff.mp nothing]
  · rw [trailing.dropEndWhile_append]

theorem exists_surroundings (text : String) :
    ∃ before after, Blank before ∧ Blank after ∧ text = before ++ trim text ++ after := by
  have blank (chars : List Char) : ∀ char ∈ chars.takeWhile isBlank, isBlank char = true :=
    fun char member => List.all_eq_true.mp List.all_takeWhile char member
  refine ⟨.ofList (text.toList.takeWhile isBlank),
    .ofList ((text.toList.dropWhile isBlank).reverse.takeWhile isBlank).reverse, ?_, ?_, ?_⟩
  · intro char member
    rw [String.toList_ofList] at member
    exact blank _ char member
  · intro char member
    rw [String.toList_ofList, List.mem_reverse] at member
    exact blank _ char member
  · apply String.toList_injective
    simp only [trim, dropEndWhile, String.toList_append, String.toList_ofList, List.append_assoc,
      ← List.reverse_append, List.takeWhile_append_dropWhile, List.reverse_reverse]

end SipContainer.Text

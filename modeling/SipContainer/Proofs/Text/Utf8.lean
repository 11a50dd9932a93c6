import SipContainer.Text.Bytes
import Mathlib.Tactic.IntervalCases
/-!
Text and its octets. What a text is written as is read back as that text, in any script, so no two texts
are written alike.
-/

namespace SipContainer.Text

theorem decode_begin {octet : UInt8} {begun : Partial} (begins : Partial.begin? octet = some begun)
    (high : 0x80 ≤ octet.toNat) (rest : List UInt8) :
    decode none (octet :: rest) = decode (some begun) rest := by
  have large : ¬ octet < 0x80 := by
    rw [UInt8.lt_iff_toNat_lt]
    exact Nat.not_lt_of_le high
  rw [decode]
  simp only [if_neg large, begins]

theorem decode_more {char : Partial} {octet : UInt8}
    (inRange : char.low ≤ octet ∧ octet ≤ char.high) (owed : ¬ char.owed ≤ 1) (rest : List UInt8) :
    decode (some char) (octet :: rest) =
      decode (some { bits := char.bits * 64 + (octet.toNat - 0x80), owed := char.owed - 1 }) rest := by
  rw [decode]
  simp only [if_pos inRange, if_neg owed]

theorem decode_last {char : Partial} {octet : UInt8}
    (inRange : char.low ≤ octet ∧ octet ≤ char.high) (owed : char.owed ≤ 1) (rest : List UInt8) :
    decode (some char) (octet :: rest) =
      Char.ofNat (char.bits * 64 + (octet.toNat - 0x80)) :: decode none rest := by
  rw [decode]
  simp only [if_pos inRange, if_pos owed]

theorem begin?_two (value : Nat) (low : 0xC2 ≤ value) (high : value ≤ 0xDF) :
    Partial.begin? (UInt8.ofNat value) = some { bits := value - 0xC0, owed := 1 } := by
  interval_cases value <;> rfl

theorem begin?_three (value : Nat) (low : 0xE0 ≤ value) (high : value ≤ 0xEF) :
    Partial.begin? (UInt8.ofNat value) = some
      { bits := value - 0xE0, owed := 2
        low := if value = 0xE0 then 0xA0 else 0x80
        high := if value = 0xED then 0x9F else 0xBF } := by
  interval_cases value <;> rfl

theorem begin?_four (value : Nat) (low : 0xF0 ≤ value) (high : value ≤ 0xF4) :
    Partial.begin? (UInt8.ofNat value) = some
      { bits := value - 0xF0, owed := 3
        low := if value = 0xF0 then 0x90 else 0x80
        high := if value = 0xF4 then 0x8F else 0xBF } := by
  interval_cases value <;> rfl

theorem toNat_ofNat_of_lt {value : Nat} (small : value < 256) : (UInt8.ofNat value).toNat = value := by
  rw [UInt8.toNat_ofNat']
  exact Nat.mod_eq_of_lt small

theorem between_ofNat {low high : UInt8} {value : Nat} (small : value < 256)
    (above : low.toNat ≤ value) (below : value ≤ high.toNat) :
    low ≤ UInt8.ofNat value ∧ UInt8.ofNat value ≤ high := by
  rw [UInt8.le_iff_toNat_le, UInt8.le_iff_toNat_le, toNat_ofNat_of_lt small]
  exact ⟨above, below⟩

theorem decode_last_ofNat {bits low : Nat} (small : low < 0x40) (rest : List UInt8) :
    decode (some { bits, owed := 1 }) (UInt8.ofNat (low + 0x80) :: rest) =
      Char.ofNat (bits * 64 + low) :: decode none rest := by
  have inRange : 0x80 ≤ UInt8.ofNat (low + 0x80) ∧ UInt8.ofNat (low + 0x80) ≤ 0xBF :=
    between_ofNat (by omega) (Nat.le_add_left _ _) (Nat.le_of_lt_succ (Nat.add_lt_add_right small 0x80))
  rw [decode_last inRange (Nat.le_refl 1), toNat_ofNat_of_lt (by omega), Nat.add_sub_cancel]

theorem decode_more_ofNat {bits owed middle : Nat} {low high : UInt8} (small : middle < 0x40)
    (above : low.toNat ≤ middle + 0x80) (below : middle + 0x80 ≤ high.toNat) (rest : List UInt8) :
    decode (some { bits, owed := owed + 2, low, high }) (UInt8.ofNat (middle + 0x80) :: rest) =
      decode (some { bits := bits * 64 + middle, owed := owed + 1 }) rest := by
  rw [decode_more (between_ofNat (by omega) above below) (by simp), toNat_ofNat_of_lt (by omega),
    Nat.add_sub_cancel]
  rfl

section

variable {value : Nat} (rest : List UInt8)

theorem decode_one (bound : value ≤ 0x7F) :
    decode none (UInt8.ofNat value :: rest) = Char.ofNat value :: decode none rest := by
  have small : UInt8.ofNat value < 0x80 := by
    rw [UInt8.lt_iff_toNat_lt, toNat_ofNat_of_lt (by omega)]
    exact Nat.lt_succ_of_le bound
  rw [decode]
  simp only [if_pos small, toNat_ofNat_of_lt (by omega : value < 256)]

theorem decode_two (low : 0x80 ≤ value) (high : value ≤ 0x7FF) :
    decode none (UInt8.ofNat (value / 64 % 0x20 + 0xC0) ::
        UInt8.ofNat (value % 0x40 + 0x80) :: rest) = Char.ofNat value :: decode none rest := by
  have lead := begin?_two (value / 64 % 0x20 + 0xC0) (by omega) (by omega)
  have whole : value / 64 % 0x20 * 64 + value % 0x40 = value := by omega
  rw [decode_begin lead (by rw [toNat_ofNat_of_lt (by omega)]; omega), Nat.add_sub_cancel,
    decode_last_ofNat (by omega), whole]

/-- The bounds on the second octet are kept, as the number has no shorter spelling and is no
surrogate. -/
theorem decode_three (low : 0x800 ≤ value) (high : value ≤ 0xFFFF)
    (valid : value < 0xD800 ∨ 0xDFFF < value) :
    decode none (UInt8.ofNat (value / 4096 % 0x10 + 0xE0) ::
        UInt8.ofNat (value / 64 % 0x40 + 0x80) :: UInt8.ofNat (value % 0x40 + 0x80) :: rest) =
      Char.ofNat value :: decode none rest := by
  have lead := begin?_three (value / 4096 % 0x10 + 0xE0) (by omega) (by omega)
  have above : (if value / 4096 % 0x10 + 0xE0 = 0xE0 then 0xA0 else 0x80 : UInt8).toNat ≤
      value / 64 % 0x40 + 0x80 := by
    split
    · change 0xA0 ≤ _
      omega
    · exact Nat.le_add_left _ _
  have below : value / 64 % 0x40 + 0x80 ≤
      (if value / 4096 % 0x10 + 0xE0 = 0xED then 0x9F else 0xBF : UInt8).toNat := by
    split
    · change _ ≤ 0x9F
      omega
    · change _ ≤ 0xBF
      omega
  have whole : (value / 4096 % 0x10 * 64 + value / 64 % 0x40) * 64 + value % 0x40 = value := by
    omega
  rw [decode_begin lead (by rw [toNat_ofNat_of_lt (by omega)]; omega), Nat.add_sub_cancel,
    decode_more_ofNat (by omega) above below, decode_last_ofNat (by omega), whole]

theorem decode_four (low : 0x10000 ≤ value) (high : value < 0x110000) :
    decode none (UInt8.ofNat (value / 262144 % 0x08 + 0xF0) ::
        UInt8.ofNat (value / 4096 % 0x40 + 0x80) :: UInt8.ofNat (value / 64 % 0x40 + 0x80) ::
          UInt8.ofNat (value % 0x40 + 0x80) :: rest) =
      Char.ofNat value :: decode none rest := by
  have lead := begin?_four (value / 262144 % 0x08 + 0xF0) (by omega) (by omega)
  have above : (if value / 262144 % 0x08 + 0xF0 = 0xF0 then 0x90 else 0x80 : UInt8).toNat ≤
      value / 4096 % 0x40 + 0x80 := by
    split
    · change 0x90 ≤ _
      omega
    · exact Nat.le_add_left _ _
  have below : value / 4096 % 0x40 + 0x80 ≤
      (if value / 262144 % 0x08 + 0xF0 = 0xF4 then 0x8F else 0xBF : UInt8).toNat := by
    split
    · change _ ≤ 0x8F
      omega
    · change _ ≤ 0xBF
      omega
  have third : value / 64 % 0x40 + 0x80 ≤ (0xBF : UInt8).toNat := by
    change _ ≤ 0xBF
    omega
  have whole : ((value / 262144 % 0x08 * 64 + value / 4096 % 0x40) * 64 + value / 64 % 0x40) * 64 +
      value % 0x40 = value := by
    omega
  rw [decode_begin lead (by rw [toNat_ofNat_of_lt (by omega)]; omega), Nat.add_sub_cancel,
    decode_more_ofNat (by omega) above below,
    decode_more_ofNat (by omega) (Nat.le_add_left _ _) third, decode_last_ofNat (by omega), whole]

theorem decode_encode (char : Char) :
    decode none (String.utf8EncodeChar char ++ rest) = char :: decode none rest := by
  have valid : char.val.toNat < 0xD800 ∨ 0xDFFF < char.val.toNat ∧ char.val.toNat < 0x110000 :=
    char.valid
  have back : Char.ofNat char.val.toNat = char := Char.ofNat_toNat char
  unfold String.utf8EncodeChar
  generalize char.val.toNat = value at valid back ⊢
  rw [← back]
  simp only
  split
  · rename_i one
    exact decode_one rest one
  · split
    · exact decode_two rest (by omega) (by omega)
    · split
      · exact decode_three rest (by omega) (by omega) (by omega)
      · exact decode_four rest (by omega) (by omega)

end

theorem decode_bytes (text : String) (rest : List UInt8) :
    decode none (bytes text ++ rest) = text.toList ++ decode none rest := by
  unfold bytes
  induction text.toList with
  | nil => rfl
  | cons char chars ih =>
      rw [List.flatMap_cons, List.append_assoc, decode_encode, ih]
      rfl

theorem ofBytes_bytes (text : String) : ofBytes (bytes text) = text := by
  have back := decode_bytes text []
  rw [List.append_nil, decode, List.append_nil] at back
  rw [ofBytes, back, String.ofList_toList]

theorem bytes_injective : Function.Injective bytes :=
  Function.LeftInverse.injective ofBytes_bytes

end SipContainer.Text

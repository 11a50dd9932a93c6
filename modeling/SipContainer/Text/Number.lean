/-!
Whole numbers in text: the value of a run of decimal digits, with leading zeros allowed, and the
spelling of a bounded number with an optional plus sign.
-/

namespace SipContainer.Text

def digit? (char : Char) : Option Nat :=
  if '0' ≤ char ∧ char ≤ '9' then some (char.toNat - '0'.toNat) else none

def appendDigits? (value : Nat) : List Char → Option Nat
  | [] => some value
  | char :: rest =>
    match digit? char with
    | some digit => appendDigits? (value * 10 + digit) rest
    | none => none

def decimal? (digits : List Char) : Option Nat :=
  if digits.isEmpty then none else appendDigits? 0 digits

def unsigned? (bound : Nat) (text : String) : Option Nat :=
  let digits := match text.toList with
    | '+' :: rest => rest
    | all => all
  (decimal? digits).filter (· < bound)

def hexDigit (value : Nat) : Char :=
  if value < 10 then Char.ofNat ('0'.toNat + value) else Char.ofNat ('a'.toNat + value - 10)

def hexOctet (octet : UInt8) : List Char :=
  [hexDigit (octet.toNat / 16), hexDigit (octet.toNat % 16)]

def hex (octets : List UInt8) : String :=
  String.ofList (octets.flatMap hexOctet)

theorem digit?_of_isDigit {char : Char} (digit : char.isDigit = true) :
    digit? char = some (char.toNat - '0'.toNat) := by
  simp only [Char.isDigit, Bool.and_eq_true, decide_eq_true_eq] at digit
  exact if_pos digit

theorem appendDigits?_of_isDigit {chars : List Char} (value : Nat)
    (digits : ∀ char ∈ chars, char.isDigit = true) :
    appendDigits? value chars = some (Nat.ofDigitChars 10 chars value) := by
  induction chars generalizing value with
  | nil => rfl
  | cons char rest ih =>
      rw [appendDigits?, digit?_of_isDigit (digits char List.mem_cons_self)]
      simp only [Nat.mul_comm value 10]
      exact ih _ (fun other member => digits other (List.mem_cons_of_mem _ member))

theorem isDigit_of_mem_toString (value : Nat) : ∀ char ∈ (toString value).toList,
    char.isDigit = true := by
  intro char member
  rw [Nat.toString_eq_repr, Nat.repr_eq_ofList_toDigits, String.toList_ofList] at member
  exact Nat.isDigit_of_mem_toDigits (by decide) (by decide) member

theorem decimal?_toString (value : Nat) : decimal? (toString value).toList = some value := by
  have digits := isDigit_of_mem_toString value
  rw [Nat.toString_eq_repr, Nat.repr_eq_ofList_toDigits, String.toList_ofList] at digits ⊢
  rw [decimal?, if_neg (by simp [Nat.toDigits_ne_nil]), appendDigits?_of_isDigit 0 digits,
    Nat.ofDigitChars_ten_toDigits]

end SipContainer.Text

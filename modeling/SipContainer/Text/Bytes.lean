/-!
Text as the octets it travels in. A text is written as UTF-8, and any octets can be read back as
text: what is no character becomes the replacement character, once for each longest run of octets
that could still have begun one. Nothing here refuses its input.
-/

namespace SipContainer.Text

def bytes (text : String) : List UInt8 :=
  text.toList.flatMap String.utf8EncodeChar

def replacement : Char := '\uFFFD'

/-- A character under way: the bits read so far, how many octets are still owed, and the bounds
of the next one. -/
structure Partial where
  bits : Nat
  owed : Nat
  low : UInt8 := 0x80
  high : UInt8 := 0xBF
deriving DecidableEq

/-- What an octet above `7F` begins. The bounds on the second octet rule out surrogates, numbers
above `10FFFF` and spellings longer than needed. -/
def Partial.begin? (first : UInt8) : Option Partial :=
  let value := first.toNat
  if 0xC2 ≤ value ∧ value ≤ 0xDF then some { bits := value - 0xC0, owed := 1 }
  else if value = 0xE0 then some { bits := 0, owed := 2, low := 0xA0 }
  else if value = 0xED then some { bits := 0xD, owed := 2, high := 0x9F }
  else if 0xE1 ≤ value ∧ value ≤ 0xEF then some { bits := value - 0xE0, owed := 2 }
  else if value = 0xF0 then some { bits := 0, owed := 3, low := 0x90 }
  else if 0xF1 ≤ value ∧ value ≤ 0xF3 then some { bits := value - 0xF0, owed := 3 }
  else if value = 0xF4 then some { bits := 4, owed := 3, high := 0x8F }
  else none

def decode : Option Partial → List UInt8 → List Char
  | none, [] => []
  | some _, [] => [replacement]
  | pending, octet :: rest =>
    let fresh : List Char :=
      if octet < 0x80 then Char.ofNat octet.toNat :: decode none rest
      else match Partial.begin? octet with
        | some begun => decode (some begun) rest
        | none => replacement :: decode none rest
    match pending with
    | none => fresh
    | some char =>
      if char.low ≤ octet ∧ octet ≤ char.high then
        let bits := char.bits * 64 + (octet.toNat - 0x80)
        if char.owed ≤ 1 then Char.ofNat bits :: decode none rest
        else decode (some { bits, owed := char.owed - 1 }) rest
      else replacement :: fresh

def ofBytes (octets : List UInt8) : String :=
  String.ofList (decode none octets)

end SipContainer.Text

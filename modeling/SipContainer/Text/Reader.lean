import SipContainer.Text.Blank
import SipContainer.Text.Bytes
/-!
Readers of octet sequences. A reader takes what it understands from the front of its input and
leaves the rest; when it fails it tells where it stopped, as the octets from there on. A failed
choice tells where its last alternative stopped, a failed sequence where its failing part did.
Optional and repeated parts give back what they could not finish.

Reading a whole text reports a failure as an offset in octets, counted in the trimmed text.
-/

namespace SipContainer.Text

/-- Reads the front of its input: a value and the octets left, or the octets at which it
stopped. -/
def Reader (α : Type) : Type :=
  List UInt8 → Except (List UInt8) (α × List UInt8)

namespace Reader

protected def pure (value : α) : Reader α :=
  fun input => .ok (value, input)

protected def bind (first : Reader α) (next : α → Reader β) : Reader β :=
  fun input =>
    match first input with
    | .ok (value, rest) => next value rest
    | .error stopped => .error stopped

instance : Monad Reader where
  pure := Reader.pure
  bind := Reader.bind

def run (admits : UInt8 → Bool) : Reader (List UInt8) :=
  fun input => .ok (input.takeWhile admits, input.dropWhile admits)

def someRun (admits : UInt8 → Bool) : Reader (List UInt8) :=
  fun input =>
    if (input.takeWhile admits).isEmpty then .error input
    else .ok (input.takeWhile admits, input.dropWhile admits)

def word (admits : UInt8 → Bool) : Reader String :=
  ofBytes <$> someRun admits

def octet (expected : UInt8) : Reader Unit
  | first :: rest => if first = expected then .ok ((), rest) else .error (first :: rest)
  | [] => .error []

def char (expected : Char) : Reader Unit :=
  octet expected.val.toUInt8

def foldOctet (value : UInt8) : UInt8 :=
  if 0x41 ≤ value ∧ value ≤ 0x5A then value + 0x20 else value

def keyword (expected : String) : Reader Unit :=
  fun input =>
    let length := (bytes expected).length
    if (input.take length).map foldOctet = bytes expected then .ok ((), input.drop length)
    else .error input

def orElse (first second : Reader α) : Reader α :=
  fun input =>
    match first input with
    | .ok result => .ok result
    | .error _ => second input

def optional (part : Reader α) : Reader (Option α) :=
  fun input =>
    match part input with
    | .ok (value, rest) => .ok (some value, rest)
    | .error _ => .ok (none, input)

/-- Reads a part as often as it can be read. A part that reads nothing is refused, so the
repetition ends. -/
def repeatFrom (part : Reader α) (input : List UInt8) :
    Except (List UInt8) (List α × List UInt8) :=
  match part input with
  | .error _ => .ok ([], input)
  | .ok (value, rest) =>
    if rest.length < input.length then
      match repeatFrom part rest with
      | .ok (values, left) => .ok (value :: values, left)
      | .error stopped => .error stopped
    else .error input
termination_by input.length

def many (part : Reader α) : Reader (List α) :=
  repeatFrom part

def whole (reader : Reader α) (input : List UInt8) : Except (List UInt8) α :=
  match reader input with
  | .ok (value, []) => .ok value
  | .ok (_, left) => .error left
  | .error stopped => .error stopped

/-- Reads a text to its end, the blanks around it aside. A failure is the offset, in octets of the
trimmed text, at which reading stopped. -/
def wholeText (reader : Reader α) (text : String) : Except Nat α :=
  let input := bytes (trim text)
  match reader.whole input with
  | .ok value => .ok value
  | .error stopped => .error (input.length - stopped.length)

end Reader

end SipContainer.Text

/-!
Spans of time in whole nanoseconds, and their written form: the largest unit of which there is at
least one, and the rest as decimals without zeros at the end. A span that is put together from
seconds and nanoseconds has a number of whole seconds that fits in 64 bits.
-/

namespace SipContainer

structure Duration where
  nanoseconds : Nat
deriving DecidableEq, Repr

inductive DurationError
  | tooLong
deriving DecidableEq, Repr

def DurationError.message : DurationError → String
  | tooLong => "overflow in Duration::new"

namespace Duration

def ofMilliseconds (count : Nat) : Duration :=
  ⟨count * 1000000⟩

def ofSeconds (seconds nanoseconds : Nat) : Except DurationError Duration :=
  if seconds + nanoseconds / 1000000000 < UInt64.size then
    .ok ⟨seconds * 1000000000 + nanoseconds⟩
  else .error .tooLong

def milliseconds (span : Duration) : Nat :=
  span.nanoseconds / 1000000

/-- Decimal places behind a point: `remainder` in units of `10 ^ -places`, without the zeros at the
end, and without the point where nothing is left. -/
def renderPlaces (places remainder : Nat) : String :=
  if remainder = 0 then ""
  else
    let digits := (Nat.toDigits 10 (Nat.pow 10 places + remainder)).drop 1
    "." ++ String.ofList (digits.reverse.dropWhile (· == '0')).reverse

def renderIn (span : Duration) (places : Nat) (unit : String) : String :=
  toString (span.nanoseconds / Nat.pow 10 places) ++
    renderPlaces places (span.nanoseconds % Nat.pow 10 places) ++ unit

def render (span : Duration) : String :=
  if span.nanoseconds ≥ 1000000000 then span.renderIn 9 "s"
  else if span.nanoseconds ≥ 1000000 then span.renderIn 6 "ms"
  else if span.nanoseconds ≥ 1000 then span.renderIn 3 "µs"
  else span.renderIn 0 "ns"

end Duration

end SipContainer

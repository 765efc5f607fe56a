import EntityMapper.Text.Integer

/-!
# Durations

Spans of time in nanoseconds, and their diagnostic text: the largest of the units second,
millisecond, microsecond and nanosecond of which the span has at least one, with as many places
after the point as are needed.

## Main definitions

* `Duration`: a number of nanoseconds
* `Duration.text d`: `1.5ms`, `0ns`
-/

namespace EntityMapper

open EntityMapper.Text

/-- **A span of time** in nanoseconds. -/
structure Duration where
  nanoseconds : Nat
  deriving DecidableEq, Repr

namespace Duration

/-- A number of milliseconds. -/
def ofMilliseconds (ms : Nat) : Duration := ⟨ms * 1000000⟩

/-- A number of microseconds. -/
def ofMicroseconds (us : Nat) : Duration := ⟨us * 1000⟩

/-- The places after the point of `n` units, given in `10 ^ places` parts, without final zeros. -/
def fractionChars (places n : Nat) : List Char :=
  let ds := ((paddedDigits places n).reverse.dropWhile (· == '0')).reverse
  if ds.isEmpty then [] else '.' :: ds

/-- A number of units of `10 ^ places` nanoseconds each. -/
def inUnits (places : Nat) (unit : String) (n : Nat) : String :=
  String.ofList (decimalDigits (n / Nat.pow 10 places) ++
    fractionChars places (n % Nat.pow 10 places)) ++ unit

/-- **The diagnostic text of a span.** -/
def text (d : Duration) : String :=
  let n := d.nanoseconds
  -- The largest unit decides, so that the whole part is never zero.
  if 1000000000 ≤ n then inUnits 9 "s" n
  else if 1000000 ≤ n then inUnits 6 "ms" n
  else if 1000 ≤ n then inUnits 3 "µs" n
  else naturalText n ++ "ns"

end Duration

end EntityMapper

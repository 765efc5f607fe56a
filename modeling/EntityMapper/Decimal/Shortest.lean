import EntityMapper.Decimal.Binary
import EntityMapper.Text.Integer

/-!
# Shortest decimals

The decimal with the fewest digits that rounds to a given floating-point number; of two with so
few digits the one nearer to the number, and of two equally near the one that a rule for ties
takes.

## Main definitions

* `Interval`: a positive number between the halfway points to its neighbours
* `Tie`: which of two equally near decimals is taken
* `decimalExponent num den`: the position of the leading decimal digit of a ratio
* `Expansion`: digits with the position of the point
* `shortest tie f m q`: the shortest expansion
-/

namespace EntityMapper.Decimal

open EntityMapper.Text

/-- A positive number and the reals around it that round to it, all in units of `1 / den`; the
bounds themselves belong to it when `closed` holds. -/
structure Interval where
  value : Nat
  below : Nat
  above : Nat
  den : Nat
  closed : Bool

/-- The interval of `m · 2 ^ q`: it reaches half a unit to either side, and half as far down when
the significand is the smallest of its binade. A number with an even significand wins its ties. -/
def Interval.ofSignificand (f : Format) (m : Nat) (q : Int) : Interval :=
  let (unit, den) := Binary.scaleRatio 1 4 (-q)
  { value := 4 * m * unit
    below := (if m = Nat.pow 2 f.fractionBits then 1 else 2) * unit
    above := 2 * unit
    den
    closed := m % 2 == 0 }

/-- The ratio `num / den`, in the units of the interval scaled by `10 ^ e`, lies in it. -/
def Interval.contains (i : Interval) (digits : Nat) (e : Int) : Bool :=
  let scaleUp := if e < 0 then 1 else Nat.pow 10 e.toNat
  let scaleDown := if e < 0 then Nat.pow 10 e.natAbs else 1
  let x := digits * scaleUp * i.den
  let lo := (i.value - i.below) * scaleDown
  let hi := (i.value + i.above) * scaleDown
  if i.closed then lo ≤ x && x ≤ hi else lo < x && x < hi

/-- **The position of the point**: the least `k` with `num / den < 10 ^ k`, for positive `num` and
`den`. -/
def decimalExponent (num den : Nat) : Int :=
  if den ≤ num then (decimalDigits (num / den)).length
  else 1 - ((decimalDigits ((den - 1) / num)).length : Int)

/-- **Which of two equally near decimals is taken**: the larger one, or the one whose last digit is
even. -/
inductive Tie where
  | larger
  | even
  deriving DecidableEq, Repr

/-- The grid point that is taken for a number halfway between `d` and `d + 1`. -/
def Tie.pick : Tie → Nat → Nat
  | larger, d => d + 1
  | even, d => if d % 2 = 0 then d else d + 1

/-- The digits of the interval's number on the grid `10 ^ e`, when one of its two neighbours on
that grid lies in the interval. -/
def gridDigits? (tie : Tie) (i : Interval) (e : Int) : Option Nat :=
  let num := if e < 0 then i.value * Nat.pow 10 e.natAbs else i.value
  let den := if e < 0 then i.den else i.den * Nat.pow 10 e.toNat
  let d := num / den
  let r := num % den
  match i.contains d e, i.contains (d + 1) e with
  -- Both neighbours round to the number, and the nearer one is taken.
  | true, true => some (if 2 * r < den then d else if 2 * r = den then tie.pick d else d + 1)
  | true, false => some d
  | false, true => some (d + 1)
  | false, false => none

/-- Tries grids from coarse to fine; `fuel` bounds their number. -/
def searchGrids (tie : Tie) (i : Interval) (k : Int) (digits : Nat) : Nat → Nat × Int
  | 0 => (i.value / i.den, 0)
  | fuel + 1 =>
    match gridDigits? tie i (k - digits) with
    | some d => (d, k - digits)
    | none => searchGrids tie i k (digits + 1) fuel

/-- The number without its trailing zeros, and how many there were. -/
def stripZeros (n : Nat) : Nat × Nat :=
  if _h : n ≠ 0 ∧ n % 10 = 0 then
    let (m, k) := stripZeros (n / 10)
    (m, k + 1)
  else (n, 0)
termination_by n
decreasing_by omega

/-- A positive decimal `0.d₁d₂… · 10 ^ point`, whose first and last digits are not zero. -/
structure Expansion where
  digits : List Char
  point : Int
  deriving DecidableEq, Repr

/-- **The shortest decimal that rounds to `m · 2 ^ q`**, for positive `m`. Seventeen digits always
suffice for a format of 64 bits. -/
def shortest (tie : Tie) (f : Format) (m : Nat) (q : Int) : Expansion :=
  let i := Interval.ofSignificand f m q
  let (d, e) := searchGrids tie i (decimalExponent i.value i.den) 1 20
  let (d, zeros) := stripZeros d
  let digits := decimalDigits d
  ⟨digits, e + zeros + digits.length⟩

end EntityMapper.Decimal

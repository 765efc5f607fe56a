import EntityMapper.Decimal.Arithmetic
import EntityMapper.Text.Integer

/-!
# The data format: values and numbers

Trees of the JSON data format. An object keeps its members in order and with repeated names; a
number keeps its spelling, and is given a meaning only when it is used.

## Main definitions

* `NumberText`: the spelling of a number
* `Number`, `NumberText.meaning?`: what a number means: an integer of 64 bits, or else a
  floating-point number
* `Json`: a tree
-/

namespace EntityMapper.Json

open EntityMapper.Decimal EntityMapper.Text

/-- The spelling of a number: sign, digits before the point, digits after it, and the sign and
digits of the exponent. -/
structure NumberText where
  negative : Bool
  whole : List Char
  fraction : Option (List Char)
  exponent : Option (Bool × List Char)
  deriving DecidableEq, Repr

/-- The meaning of a number. -/
inductive Number where
  | unsigned (n : Nat)
  | negative (z : Int)
  | float (x : Binary64)

/-- The number of decimal places that the leading digits of a number may have: as long as they
fit 64 bits. -/
def significandLimit : Nat := 0x10000000000000000

/-- Appends digits to a significand while it stays below the limit; answers with the digits that
are left over. -/
def collectDigits (acc : Nat) : List Char → Nat × List Char
  | [] => (acc, [])
  | c :: cs =>
    let n := 10 * acc + (digitValue? c).getD 0
    if n < significandLimit then collectDigits n cs else (acc, c :: cs)

/-- The significand times a power of ten, in steps that each round once; nothing when it is too
large. `fuel` bounds the number of divisions, of which the third already gives zero. -/
def scaleByTen (x : Binary64) (e : Int) : Nat → Option Binary64
  | 0 => some (Binary.zero _)
  | fuel + 1 =>
    if e.natAbs ≤ 308 then
      if 0 ≤ e then
        let y := x.product (Binary.powerOfTen _ e.toNat)
        if y.magnitude = Format.double.infinity then none else some y
      else some (x.quotient (Binary.powerOfTen _ e.natAbs))
    else if x.magnitude = 0 then some x
    else if 0 ≤ e then none
    else scaleByTen (x.quotient (Binary.powerOfTen _ 308)) (e + 308) fuel

/-- The floating-point number `± significand · 10 ^ e`. -/
def floatOfParts (negative : Bool) (significand : Nat) (e : Int) : Option Binary64 :=
  (scaleByTen (Binary.ofInt _ significand) e 4).map fun x => if negative then x.negate else x

/-- The largest exponent that is computed with. -/
def exponentLimit : Nat := 0x80000000

/-- **The meaning of a number.** Without point and exponent it is an integer where 64 bits hold
it; all else is a floating-point number, made from as many leading digits as 64 bits hold.
Nothing, when it is too large. -/
def NumberText.meaning? (t : NumberText) : Option Number :=
  let (significand, excess) := collectDigits 0 t.whole
  match t.fraction, t.exponent with
  | none, none =>
    if excess.isEmpty then
      if !t.negative then some (.unsigned significand)
      else if 1 ≤ significand ∧ significand ≤ 0x8000000000000000 then
        some (.negative (-(significand : Int)))
      else some (.float (Binary.ofInt _ significand).negate)
    else (floatOfParts t.negative significand excess.length).map .float
  | fraction, exponent =>
    let digits := fraction.getD []
    let (significand, rest) := collectDigits significand digits
    let start : Int := excess.length - (digits.length - rest.length : Nat)
    match exponent with
    | none => (floatOfParts t.negative significand start).map .float
    | some (down, ds) =>
      let e := ds.foldl (fun n c => 10 * n + (digitValue? c).getD 0) 0
      if exponentLimit ≤ e then
        if significand ≠ 0 ∧ !down then none
        else some (.float (Binary.ofParts _ t.negative 0))
      else
        (floatOfParts t.negative significand (if down then start - e else start + e)).map .float

end EntityMapper.Json

namespace EntityMapper

/-- **A tree of the data format.** A string that cannot be spelled in characters, since it holds half
of a surrogate pair, is `none`. -/
inductive Json where
  | null
  | bool (b : Bool)
  | number (t : Json.NumberText)
  | string (s : Option String)
  | array (items : List Json)
  | object (members : List (Option String × Json))

end EntityMapper

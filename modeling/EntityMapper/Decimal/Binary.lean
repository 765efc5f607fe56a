/-!
# Binary floating-point numbers

Numbers of the IEEE 754 interchange formats as their bits, with exact reading and rounding. A
finite number is `± m · 2 ^ q`; every conversion reads the exact value and rounds it once, to the
nearest number of the format and, between two, to the one with the even significand.

## Main definitions

* `Format`, `Format.single`, `Format.double`: the formats of 32 and 64 bits
* `Binary f`: a number of the format `f`, as bits
* `Reading`, `Binary.read x`: the value that the bits denote
* `Binary.ofRatio negative num den`: the number nearest to `± num / den`
* `Binary.ofInt z`, `Binary.convert g x`: the nearest number to an integer, and to a number of
  another format
* `Binary.ieeeEq x y`: equality of values: the zeros are equal and NaN differs from everything
-/

namespace EntityMapper.Decimal

/-- An interchange format: one sign bit, so many exponent bits, so many fraction bits. -/
structure Format where
  exponentBits : Nat
  fractionBits : Nat
  deriving DecidableEq, Repr

namespace Format

/-- The format of 32 bits. -/
def single : Format := ⟨8, 23⟩

/-- The format of 64 bits. -/
def double : Format := ⟨11, 52⟩

/-- The number of bits without the sign. -/
def magnitudeBits (f : Format) : Nat := f.exponentBits + f.fractionBits

/-- The number of bits. -/
def width (f : Format) : Nat := f.magnitudeBits + 1

/-- The exponent of the last place of the smallest numbers. -/
def minExponent (f : Format) : Int := 2 - Nat.pow 2 (f.exponentBits - 1) - f.fractionBits

/-- The magnitude of infinity: all exponent bits set. -/
def infinity (f : Format) : Nat := (Nat.pow 2 f.exponentBits - 1) * Nat.pow 2 f.fractionBits

end Format

/-- **A floating-point number of the format `f`**, as its bits. -/
structure Binary (f : Format) where
  bits : BitVec f.width
  deriving DecidableEq

/-- The value of a floating-point number: `± significand · 2 ^ exponent` when it is finite. -/
inductive Reading where
  | nan
  | infinite (negative : Bool)
  | finite (negative : Bool) (significand : Nat) (exponent : Int)
  deriving DecidableEq, Repr

namespace Binary

variable {f : Format}

/-- The number with the given sign and magnitude bits. -/
def ofParts (f : Format) (negative : Bool) (magnitude : Nat) : Binary f :=
  ⟨BitVec.ofNat f.width ((if negative then Nat.pow 2 f.magnitudeBits else 0) + magnitude)⟩

/-- The sign bit. -/
def negative (x : Binary f) : Bool := Nat.pow 2 f.magnitudeBits ≤ x.bits.toNat

/-- The bits without the sign. -/
def magnitude (x : Binary f) : Nat := x.bits.toNat % Nat.pow 2 f.magnitudeBits

/-- The value that the bits denote. -/
def read (x : Binary f) : Reading :=
  let field := x.magnitude / Nat.pow 2 f.fractionBits
  let fraction := x.magnitude % Nat.pow 2 f.fractionBits
  if x.magnitude > f.infinity then .nan
  else if x.magnitude = f.infinity then .infinite x.negative
  else if field = 0 then .finite x.negative fraction f.minExponent
  else .finite x.negative (Nat.pow 2 f.fractionBits + fraction) (f.minExponent + (field - 1))

/-- The quotient `num / den` rounded to the nearest natural number, a half to the even one. -/
def roundQuotient (num den : Nat) : Nat :=
  let q := num / den
  let r := num % den
  if 2 * r < den then q
  else if den < 2 * r then q + 1
  else if q % 2 = 0 then q else q + 1

/-- The ratio `num / den` scaled by `2 ^ (-e)`, as numerator and denominator. -/
def scaleRatio (num den : Nat) (e : Int) : Nat × Nat :=
  if e < 0 then (num * Nat.pow 2 e.natAbs, den) else (num, den * Nat.pow 2 e.toNat)

/-- The exponent of the binary digit that leads `num / den`, for positive `num` and `den`. -/
def leadingExponent (num den : Nat) : Int :=
  -- The difference of the leading positions is right or too large by one.
  let k : Int := (num.log2 : Int) - den.log2
  let (n, d) := scaleRatio num den k
  if d ≤ n then k else k - 1

/-- The magnitude of the number nearest to `num / den`. Counting significands and exponents in one
sequence, a significand that rounds up to the next power of two carries into the exponent, and
what lies beyond the largest number is infinity. -/
def roundMagnitude (f : Format) (num den : Nat) : Nat :=
  if num = 0 then 0
  else
    -- Below the smallest exponent the significand has fewer digits: the number is subnormal.
    let e := max f.minExponent (leadingExponent num den - f.fractionBits)
    let (n, d) := scaleRatio num den e
    min f.infinity ((e - f.minExponent).toNat * Nat.pow 2 f.fractionBits + roundQuotient n d)

/-- **The number nearest to `± num / den`**, for positive `den`. -/
def ofRatio (f : Format) (negative : Bool) (num den : Nat) : Binary f :=
  ofParts f negative (roundMagnitude f num den)

/-- The number nearest to an integer. -/
def ofInt (f : Format) (z : Int) : Binary f := ofRatio f (z < 0) z.natAbs 1

/-- Infinity of the given sign. -/
def infinite (f : Format) (negative : Bool) : Binary f := ofParts f negative f.infinity

/-- The quiet NaN without payload, of the given sign. -/
def quietNaN (f : Format) (negative : Bool) : Binary f :=
  ofParts f negative (f.infinity + Nat.pow 2 (f.fractionBits - 1))

/-- The number `0` with positive sign. -/
def zero (f : Format) : Binary f := ofParts f false 0

/-- A NaN in another format keeps its sign and the leading bits of its fraction, and is quiet. -/
def convertNaN (g : Format) (x : Binary f) : Binary g :=
  let fraction := x.magnitude % Nat.pow 2 f.fractionBits
  let moved := fraction * Nat.pow 2 g.fractionBits / Nat.pow 2 f.fractionBits
  let quiet := Nat.pow 2 (g.fractionBits - 1)
  ofParts g x.negative (g.infinity + (if moved < quiet then moved + quiet else moved))

/-- **The number of the format `g` nearest to a number of the format `f`.** -/
def convert (g : Format) (x : Binary f) : Binary g :=
  match x.read with
  | .nan => x.convertNaN g
  | .infinite s => infinite g s
  | .finite s m q =>
    let (n, d) := scaleRatio m 1 (-q)
    ofRatio g s n d

/-- **Equality of values**: the two zeros are equal, and NaN equals nothing. -/
def ieeeEq (x y : Binary f) : Bool :=
  x.magnitude ≤ f.infinity && y.magnitude ≤ f.infinity &&
    ((x.magnitude == 0 && y.magnitude == 0) || x.bits == y.bits)

end Binary

/-- A number of 32 bits. -/
abbrev Binary32 := Binary Format.single

/-- A number of 64 bits. -/
abbrev Binary64 := Binary Format.double

end EntityMapper.Decimal

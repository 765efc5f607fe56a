import EntityMapper.Decimal.Shortest

/-!
# Layouts of floating-point text

The shortest digits of a number, set out in one of two ways. The plain layout never has an
exponent and gives whole numbers without a point; the diagnostic layout always shows that it is no
integer, and uses an exponent for large and small numbers. Both take the larger of two equally near
decimals. The data format has an exponent for other numbers than they, and takes the even one.

## Main definitions

* `positional`, `scientific`: the two ways to set out digits
* `Binary.plainText x`: `1`, `-0`, `0.0000001`, `NaN`, `inf`
* `Binary.diagnosticText x`: `1.0`, `-0.0`, `1e-7`, `NaN`, `inf`
* `Binary.jsonText x`: `1.0`, `1e-7`, `1e+16`, and `null` for what is not finite
-/

namespace EntityMapper.Decimal

open EntityMapper.Text

/-- Digits around a decimal point; with `fraction` a whole number keeps one place. -/
def positional (fraction : Bool) (d : Expansion) : List Char :=
  let n : Int := d.digits.length
  if d.point ≤ 0 then '0' :: '.' :: List.replicate d.point.natAbs '0' ++ d.digits
  else if d.point < n then
    d.digits.take d.point.toNat ++ '.' :: d.digits.drop d.point.toNat
  else
    d.digits ++ List.replicate (d.point - n).toNat '0' ++ (if fraction then ['.', '0'] else [])

/-- One digit, the others after a point, and the exponent. -/
def scientific (d : Expansion) : List Char :=
  let lead := d.digits.take 1
  let rest := d.digits.drop 1
  lead ++ (if rest.isEmpty then [] else '.' :: rest) ++ 'e' :: integerChars (d.point - 1)

/-- A minus sign before the text of a negative number. -/
def signed (negative : Bool) (cs : List Char) : String :=
  String.ofList (if negative then '-' :: cs else cs)

namespace Binary

variable {f : Format}

/-- **The plain text of a number**: positional at any size, whole numbers without a point. -/
def plainText (x : Binary f) : String :=
  match x.read with
  | .nan => "NaN"
  | .infinite s => signed s ['i', 'n', 'f']
  | .finite s m q =>
    signed s (if m = 0 then ['0'] else positional false (shortest .larger f m q))

/-- A magnitude that the diagnostic text sets out with an exponent: below `0.0001` or from
`10 ^ 16`, both bounds as numbers of the format. -/
def needsExponent (x : Binary f) : Bool :=
  x.magnitude < roundMagnitude f 1 10000 || roundMagnitude f 10000000000000000 1 ≤ x.magnitude

/-- **The diagnostic text of a number.** -/
def diagnosticText (x : Binary f) : String :=
  match x.read with
  | .nan => "NaN"
  | .infinite s => signed s ['i', 'n', 'f']
  | .finite s m q =>
    signed s <|
      if m = 0 then ['0', '.', '0']
      else if x.needsExponent then scientific (shortest .larger f m q)
      else positional true (shortest .larger f m q)

/-- The positions of the point between which the data format sets a decimal out without an
exponent; they depend on how many digits the format can need. -/
def jsonRange (f : Format) : Int × Int := if f.fractionBits ≤ 23 then (-5, 13) else (-4, 16)

/-- One digit, the others after a point, and the exponent with its sign. -/
def jsonScientific (d : Expansion) : List Char :=
  let rest := d.digits.drop 1
  d.digits.take 1 ++ (if rest.isEmpty then [] else '.' :: rest) ++ 'e' ::
    (if 1 ≤ d.point then '+' :: integerChars (d.point - 1) else integerChars (d.point - 1))

/-- **The text of a number in the data format**, which has no words for infinity and NaN. Of two
equally near decimals it takes the one with an even last digit. -/
def jsonText (x : Binary f) : String :=
  match x.read with
  | .nan => "null"
  | .infinite _ => "null"
  | .finite s m q =>
    signed s <|
      if m = 0 then ['0', '.', '0']
      else
        let d := shortest .even f m q
        if (jsonRange f).1 ≤ d.point && d.point ≤ (jsonRange f).2 then positional true d
        else jsonScientific d

end Binary

end EntityMapper.Decimal

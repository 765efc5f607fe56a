import EntityMapper.Decimal.Binary
import EntityMapper.Text.Ascii
import EntityMapper.Text.Integer

/-!
# Reading floating-point text

A decimal, `inf`, `infinity` or `nan` in any case, with an optional sign. A decimal has digits
before or after its point and an optional exponent, and becomes the number nearest to its exact
value.

## Main definitions

* `ReadFault`: why a text is no number
* `DecimalText`, `readDecimal?`: the parts of a decimal
* `DecimalText.toBinary`: the nearest number
* `Binary.ofText f cs`: the number that a text denotes
-/

namespace EntityMapper.Decimal

open EntityMapper.Text

/-- Why a text denotes no number. -/
inductive ReadFault where
  | empty
  | invalid
  deriving DecidableEq, Repr

/-- The wording of a fault. -/
def ReadFault.message : ReadFault → String
  | .empty => "cannot parse float from empty string"
  | .invalid => "invalid float literal"

/-- The decimal `± digits · 10 ^ exponent`. -/
structure DecimalText where
  negative : Bool
  digits : Nat
  exponent : Int
  deriving DecidableEq, Repr

/-- The value of a sequence of digits. -/
def digitsValue (cs : List Char) : Nat :=
  cs.foldl (fun n c => 10 * n + (digitValue? c).getD 0) 0

/-- The character is a decimal digit. -/
def isDigit (c : Char) : Bool := (digitValue? c).isSome

/-- An exponent after its letter: an optional sign and at least one digit, up to the end. -/
def readExponent? (cs : List Char) : Option Int :=
  let value (ds : List Char) : Option Nat :=
    if ds.isEmpty || !ds.all isDigit then none else some (digitsValue ds)
  match cs with
  | '-' :: ds => (value ds).map fun n => -(n : Int)
  | '+' :: ds => (value ds).map fun n => (n : Int)
  | ds => (value ds).map fun n => (n : Int)

/-- **The parts of a decimal without sign**: digits, an optional point with more digits, and an
optional exponent; there has to be a digit before the exponent. -/
def readDecimal? (negative : Bool) (cs : List Char) : Option DecimalText := do
  let whole := cs.takeWhile isDigit
  let rest := cs.dropWhile isDigit
  let (fraction, rest) : List Char × List Char := match rest with
    | '.' :: r => (r.takeWhile isDigit, r.dropWhile isDigit)
    | r => ([], r)
  if whole.isEmpty && fraction.isEmpty then none
  else
    let exponent ← match rest with
      | [] => some 0
      | c :: r => if c = 'e' || c = 'E' then readExponent? r else none
    some ⟨negative, digitsValue (whole ++ fraction), exponent - fraction.length⟩

/-- **The number nearest to a decimal.** A decimal whose leading digit lies far outside the range
of every format is infinite or zero without further computation. -/
def DecimalText.toBinary (f : Format) (d : DecimalText) : Binary f :=
  -- No power of ten has to be computed for exponents that no format reaches.
  let reach : Int := Nat.pow 2 f.exponentBits
  let point := d.exponent + (decimalDigits d.digits).length
  if d.digits = 0 then Binary.ofParts f d.negative 0
  else if reach < point then Binary.infinite f d.negative
  else if point < -reach then Binary.ofParts f d.negative 0
  else if d.exponent < 0 then Binary.ofRatio f d.negative d.digits (Nat.pow 10 d.exponent.natAbs)
  else Binary.ofRatio f d.negative (d.digits * Nat.pow 10 d.exponent.toNat) 1

/-- The number that a text without sign denotes. -/
def readUnsigned? (f : Format) (negative : Bool) (cs : List Char) : Option (Binary f) :=
  let word := String.ofList (cs.map asciiLower)
  if word == "inf" || word == "infinity" then some (Binary.infinite f negative)
  else if word == "nan" then some (Binary.quietNaN f negative)
  else (readDecimal? negative cs).map (DecimalText.toBinary f)

/-- **The number that a text denotes.** -/
def Binary.ofText (f : Format) (cs : List Char) : Except ReadFault (Binary f) :=
  let number : Option (Binary f) := match cs with
    | '-' :: r => readUnsigned? f true r
    | '+' :: r => readUnsigned? f false r
    | r => readUnsigned? f false r
  match cs, number with
  | [], _ => .error .empty
  | _, some x => .ok x
  | _, none => .error .invalid

end EntityMapper.Decimal

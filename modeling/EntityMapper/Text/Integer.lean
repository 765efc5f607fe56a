/-!
# Integer text

Whole numbers in base ten: writing one, and reading one that has to keep given bounds.

## Main definitions

* `decimalDigits n`: the digits of a natural number
* `integerText z`: a whole number, with a minus sign below zero
* `IntegerFault`, `readInteger lo hi cs`: the number that a text spells, or why it spells none
-/

namespace EntityMapper.Text

/-- The digit of a value below ten. -/
def decimalDigit (n : Nat) : Char := Char.ofNat (48 + n)

/-- The value of a decimal digit. -/
def digitValue? (c : Char) : Option Nat :=
  if 48 ≤ c.toNat && c.toNat ≤ 57 then some (c.toNat - 48) else none

/-- The digits of a natural number, without leading zeros; zero is one digit. -/
def decimalDigits (n : Nat) : List Char :=
  if n < 10 then [decimalDigit n] else decimalDigits (n / 10) ++ [decimalDigit (n % 10)]

/-- The number in at least `width` digits, filled up with zeros. -/
def paddedDigits (width n : Nat) : List Char :=
  let ds := decimalDigits n
  List.replicate (width - ds.length) '0' ++ ds

/-- **A whole number in base ten**, with a minus sign below zero. -/
def integerChars (z : Int) : List Char :=
  if z < 0 then '-' :: decimalDigits z.natAbs else decimalDigits z.natAbs

/-- A whole number in base ten, as a string. -/
def integerText (z : Int) : String := String.ofList (integerChars z)

/-- A natural number in base ten, as a string. -/
def naturalText (n : Nat) : String := String.ofList (decimalDigits n)

/-- Why a text spells no number within the bounds. -/
inductive IntegerFault where
  | empty
  | invalidDigit
  | tooLarge
  | tooSmall
  deriving DecidableEq, Repr

/-- The wording of a fault. -/
def IntegerFault.message : IntegerFault → String
  | .empty => "cannot parse integer from empty string"
  | .invalidDigit => "invalid digit found in string"
  | .tooLarge => "number too large to fit in target type"
  | .tooSmall => "number too small to fit in target type"

/-- Reads digits onto `acc`, which grows away from zero. A number that leaves the bounds is
reported before the characters after it are looked at. -/
def readDigitsUp (hi : Int) (acc : Int) : List Char → Except IntegerFault Int
  | [] => .ok acc
  | c :: cs =>
    match digitValue? c with
    | none => .error .invalidDigit
    | some d => if acc * 10 + d ≤ hi then readDigitsUp hi (acc * 10 + d) cs else .error .tooLarge

/-- The same below zero. -/
def readDigitsDown (lo : Int) (acc : Int) : List Char → Except IntegerFault Int
  | [] => .ok acc
  | c :: cs =>
    match digitValue? c with
    | none => .error .invalidDigit
    | some d => if lo ≤ acc * 10 - d then readDigitsDown lo (acc * 10 - d) cs else .error .tooSmall

/-- **Reads a whole number between `lo` and `hi`**: digits after an optional sign. A sign alone is
an invalid digit. -/
def readInteger (lo hi : Int) : List Char → Except IntegerFault Int
  | [] => .error .empty
  | '+' :: [] => .error .invalidDigit
  | '-' :: [] => .error .invalidDigit
  | '+' :: cs => readDigitsUp hi 0 cs
  | '-' :: cs => readDigitsDown lo 0 cs
  | cs => readDigitsUp hi 0 cs

/-- The bounds of a signed integer of 128 bits, the widest that texts are read into. -/
def wideMin : Int := -0x80000000000000000000000000000000

@[inherit_doc wideMin]
def wideMax : Int := 0x7FFFFFFFFFFFFFFFFFFFFFFFFFFFFFFF

end EntityMapper.Text

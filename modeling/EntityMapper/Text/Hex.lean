/-!
# Hexadecimal text

Digits, bytes and numbers in base sixteen. Texts are written in lower case and read in either
case.

## Main definitions

* `hexDigit n`, `hexValue? c`: a digit and its value
* `hexOfNat n`: a number without leading zeros
* `hexOfByte b`, `hexOfBytes bs`: two digits for each byte
* `bytesOfHex? cs`: the bytes that a text of digit pairs spells
-/

namespace EntityMapper.Text

/-- The lower-case digit of a value below sixteen. -/
def hexDigit (n : Nat) : Char :=
  if n < 10 then Char.ofNat (48 + n) else Char.ofNat (87 + n)

/-- The value of a hexadecimal digit, in either case. -/
def hexValue? (c : Char) : Option Nat :=
  let n := c.toNat
  if 48 ≤ n && n ≤ 57 then some (n - 48)
  else if 97 ≤ n && n ≤ 102 then some (n - 87)
  else if 65 ≤ n && n ≤ 70 then some (n - 55)
  else none

/-- A number in base sixteen without leading zeros; zero is one digit. -/
def hexOfNat (n : Nat) : List Char :=
  if n < 16 then [hexDigit n] else hexOfNat (n / 16) ++ [hexDigit (n % 16)]

/-- The two digits of a byte. -/
def hexOfByte (b : UInt8) : List Char := [hexDigit (b.toNat / 16), hexDigit (b.toNat % 16)]

/-- Two digits for each byte, in order. -/
def hexOfBytes (bs : List UInt8) : List Char := bs.flatMap hexOfByte

/-- The bytes that pairs of digits spell; nothing when a digit is left over or is none. -/
def bytesOfHex? : List Char → Option (List UInt8)
  | [] => some []
  | [_] => none
  | c :: d :: cs => do
    let hi ← hexValue? c
    let lo ← hexValue? d
    let rest ← bytesOfHex? cs
    some (UInt8.ofNat (16 * hi + lo) :: rest)

end EntityMapper.Text

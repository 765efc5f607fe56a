import EntityMapper.Calendar.Basic
import EntityMapper.Text.Blank
import EntityMapper.Text.Integer

/-!
# Reading points in time

A reader goes through the text from left to right. Numbers may have blanks before them, a field
out of its range is reported as soon as its number is read, and whether the date exists only when
all of the text has matched.

## Main definitions

* `DateFault`: why a text names no point in time
* `Separator`: what stands between date and time
* `DateTime.readChars`: the point in time that a text names
* `DateTime.ofText`: with a blank or, failing that, the letter `T` as separator
* `DateTime.ofIsoText`: the letter `T` only, with blanks around every part
-/

namespace EntityMapper.Calendar

open EntityMapper.Text

/-- Why a text names no point in time. -/
inductive DateFault where
  | outOfRange
  | tooShort
  | invalid
  | trailing
  deriving DecidableEq, Repr

/-- The wording of a fault. -/
def DateFault.message : DateFault → String
  | .outOfRange => "input is out of range"
  | .tooShort => "premature end of input"
  | .invalid => "input contains invalid characters"
  | .trailing => "trailing input"

/-! Every reader answers with what it took from the start of a text and with the text after it. -/

/-- One given character. -/
def readLiteral (c : Char) : List Char → Except DateFault (Unit × List Char)
  | [] => .error .tooShort
  | d :: cs => if d = c then .ok ((), cs) else .error .invalid

/-- The value of digits, as long as it fits a signed integer of 64 bits. -/
def digitsWithin (acc : Nat) : List Char → Except DateFault Nat
  | [] => .ok acc
  | c :: cs =>
    let n := 10 * acc + (digitValue? c).getD 0
    if n < 0x8000000000000000 then digitsWithin n cs else .error .outOfRange

/-- The digits at the start of a text, at most `width` of them when a width is given. -/
def leadingDigits (width : Option Nat) (cs : List Char) : List Char :=
  let window := match width with
    | some w => cs.take w
    | none => cs
  window.takeWhile fun c => (digitValue? c).isSome

/-- A number of at least one digit. -/
def readNumber (width : Option Nat) (cs : List Char) :
    Except DateFault (Nat × List Char) := do
  if cs.isEmpty then .error .tooShort
  else
    let ds := leadingDigits width cs
    if ds.isEmpty then .error .invalid
    else
      let n ← digitsWithin 0 ds
      .ok (n, cs.drop ds.length)

/-- A field of one or two digits between the given bounds, after blanks. -/
def readField (lo hi : Nat) (cs : List Char) : Except DateFault (Nat × List Char) := do
  let (n, cs) ← readNumber (some 2) (trimBlankStart cs)
  if lo ≤ n ∧ n ≤ hi then .ok (n, cs) else .error .outOfRange

/-- **A year**: up to four digits, or any number after a sign, within 32 bits. -/
def readYear (cs : List Char) : Except DateFault (Int × List Char) := do
  let (year, cs) ← match trimBlankStart cs with
    | '-' :: r => do
      let (n, r) ← readNumber none r
      Except.ok (-(n : Int), r)
    | '+' :: r => do
      let (n, r) ← readNumber none r
      Except.ok ((n : Int), r)
    | r => do
      let (n, r) ← readNumber (some 4) r
      Except.ok ((n : Int), r)
  if -0x80000000 ≤ year ∧ year < 0x80000000 then .ok (year, cs) else .error .outOfRange

/-- An optional fraction of a second after a point, in nanoseconds; places after the ninth are
passed over. -/
def readFraction : List Char → Except DateFault (Nat × List Char)
  | '.' :: cs => do
    let (n, rest) ← readNumber (some 9) cs
    -- How many places were read shows in what is left of the text.
    let places := cs.length - rest.length
    .ok (n * Nat.pow 10 (9 - places), rest.dropWhile fun c => (digitValue? c).isSome)
  | cs => .ok (0, cs)

/-- What stands between date and time: any number of blanks, or a given character. -/
inductive Separator where
  | blanks
  | literal (c : Char)
  deriving DecidableEq, Repr

/-- The separator at the start of a text. -/
def Separator.read : Separator → List Char → Except DateFault (Unit × List Char)
  | .blanks, cs => .ok ((), trimBlankStart cs)
  | .literal c, cs => readLiteral c cs

/-- Removes the blanks at the start of a text when the reader is `lenient`. -/
def skipBlanks (lenient : Bool) (cs : List Char) : List Char :=
  if lenient then trimBlankStart cs else cs

/-- **The point in time that a text names**, with the given separator. A `lenient` reader takes
blanks after every field too. -/
def DateTime.readChars (separator : Separator) (lenient : Bool) (cs : List Char) :
    Except DateFault DateTime := do
  let (year, cs) ← readYear cs
  let ((), cs) ← readLiteral '-' (skipBlanks lenient cs)
  let (month, cs) ← readField 1 12 cs
  let ((), cs) ← readLiteral '-' (skipBlanks lenient cs)
  let (day, cs) ← readField 1 31 cs
  let ((), cs) ← separator.read (skipBlanks lenient cs)
  let (hour, cs) ← readField 0 23 cs
  let ((), cs) ← readLiteral ':' (skipBlanks lenient cs)
  let (minute, cs) ← readField 0 59 cs
  let ((), cs) ← readLiteral ':' (skipBlanks lenient cs)
  let (second, cs) ← readField 0 60 cs
  let (nano, cs) ← readFraction cs
  if (skipBlanks lenient cs).isEmpty then
    -- The second 60 is the second 59 with a nanosecond beyond the last.
    let leap := second = 60
    match DateTime.ofFields? year month day hour minute (if leap then 59 else second)
        (if leap then nano + 1000000000 else nano) with
    | some t => .ok t
    | none => .error .outOfRange
  else .error .trailing

/-- **The point in time that a text names**, with blanks between date and time or, when that
fails, the letter `T`; the fault is that of the second attempt. -/
def DateTime.ofText (cs : List Char) : Except DateFault DateTime :=
  match DateTime.readChars .blanks false cs with
  | .ok t => .ok t
  | .error _ => DateTime.readChars (.literal 'T') false cs

/-- The point in time that a text with the letter `T` names, blanks allowed around every part. -/
def DateTime.ofIsoText (cs : List Char) : Except DateFault DateTime :=
  DateTime.readChars (.literal 'T') true cs

end EntityMapper.Calendar

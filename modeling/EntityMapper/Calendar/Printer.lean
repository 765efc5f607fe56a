import EntityMapper.Calendar.Basic
import EntityMapper.Text.Integer

/-!
# Writing points in time

`year-month-day`, a separator and `hour:minute:second`, with a fraction of three, six or nine
places, whichever is the least that is exact, and none when it is zero. A leap second is written
as second 60.

## Main definitions

* `yearChars`, `fractionChars`: a year and a fraction of a second
* `DateTime.chars separator t`: the text with the given separator
* `DateTime.spacedText`, `DateTime.isoText`: with a blank and with the letter `T`
-/

namespace EntityMapper.Calendar

open EntityMapper.Text

/-- A year in four digits; outside of 0 to 9999 with its sign and at least four digits. -/
def yearChars (year : Int) : List Char :=
  if year < 0 then '-' :: paddedDigits 4 year.natAbs
  else if 9999 < year then '+' :: paddedDigits 4 year.natAbs
  else paddedDigits 4 year.natAbs

/-- A fraction of a second, given in nanoseconds below `10 ^ 9`. -/
def fractionChars (nano : Nat) : List Char :=
  if nano = 0 then []
  else if nano % 1000000 = 0 then '.' :: paddedDigits 3 (nano / 1000000)
  else if nano % 1000 = 0 then '.' :: paddedDigits 6 (nano / 1000)
  else '.' :: paddedDigits 9 nano

/-- **The text of a point in time** with the given separator between date and time. -/
def DateTime.chars (separator : Char) (t : DateTime) : List Char :=
  let leap := 1000000000 ≤ t.nano
  yearChars t.year ++ '-' :: paddedDigits 2 t.month ++ '-' :: paddedDigits 2 t.day ++
    separator :: paddedDigits 2 t.hour ++ ':' :: paddedDigits 2 t.minute ++
    ':' :: paddedDigits 2 (if leap then t.second + 1 else t.second) ++
    fractionChars (if leap then t.nano - 1000000000 else t.nano)

/-- The text with a blank between date and time. -/
def DateTime.spacedText (t : DateTime) : String := String.ofList (t.chars ' ')

/-- The text with the letter `T` between date and time. -/
def DateTime.isoText (t : DateTime) : String := String.ofList (t.chars 'T')

end EntityMapper.Calendar

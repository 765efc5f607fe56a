/-!
# Calendar dates and times

Points in time of the proleptic Gregorian calendar without a time zone, as calendar fields. The
last second of a minute can be followed by a leap second, which is the second 59 with a
nanosecond from `10 ^ 9` on.

## Main definitions

* `IsDate year month day`, `IsTime hour minute second nano`: the fields of a date and of a time
* `DateTime`: a point in time, with years between -262143 and 262142
* `daysFromEpoch`, `dateOfDays`: days counted from 1970-01-01
* `DateTime.microsecondsFrom2000`, `DateTime.ofMicrosecondsFrom2000?`: microseconds counted from
  the start of the year 2000
-/

namespace EntityMapper.Calendar

/-- The year has a 29 February. -/
def isLeapYear (year : Int) : Bool := year % 4 == 0 && (year % 100 != 0 || year % 400 == 0)

/-- The number of days of a month. -/
def daysInMonth (year : Int) (month : Nat) : Nat :=
  if month = 2 then (if isLeapYear year then 29 else 28)
  else if month = 4 ∨ month = 6 ∨ month = 9 ∨ month = 11 then 30 else 31

/-- The first year of the calendar. -/
def minYear : Int := -262143

/-- The last year of the calendar. -/
def maxYear : Int := 262142

/-- The fields name a day of the calendar. -/
def IsDate (year : Int) (month day : Nat) : Prop :=
  minYear ≤ year ∧ year ≤ maxYear ∧ 1 ≤ month ∧ month ≤ 12 ∧ 1 ≤ day ∧
    day ≤ daysInMonth year month

/-- The fields name a time of day; from `10 ^ 9` nanoseconds on it is a leap second. -/
def IsTime (hour minute second nano : Nat) : Prop :=
  hour < 24 ∧ minute < 60 ∧ second < 60 ∧
    (nano < 1000000000 ∨ (second = 59 ∧ nano < 2000000000))

instance (year : Int) (month day : Nat) : Decidable (IsDate year month day) := by
  unfold IsDate; infer_instance

instance (hour minute second nano : Nat) : Decidable (IsTime hour minute second nano) := by
  unfold IsTime; infer_instance

/-- **A point in time** without a time zone. -/
structure DateTime where
  year : Int
  month : Nat
  day : Nat
  hour : Nat
  minute : Nat
  second : Nat
  nano : Nat
  isDate : IsDate year month day
  isTime : IsTime hour minute second nano
  deriving DecidableEq

/-- The start of 1970. -/
def DateTime.epoch : DateTime := ⟨1970, 1, 1, 0, 0, 0, 0, by decide, by decide⟩

/-- The point in time with the given fields, if there is one. -/
def DateTime.ofFields? (year : Int) (month day hour minute second nano : Nat) :
    Option DateTime :=
  if hd : IsDate year month day then
    if ht : IsTime hour minute second nano then
      some ⟨year, month, day, hour, minute, second, nano, hd, ht⟩
    else none
  else none

/-! ## Counting days and microseconds

Years are counted from March, so that the leap day is the last of its year, and in eras of 400
years, each of 146097 days. -/

/-- The number of days from 1970-01-01 to a date. -/
def daysFromEpoch (year : Int) (month day : Nat) : Int :=
  -- January and February belong to the year that began in March before them.
  let y := if month ≤ 2 then year - 1 else year
  let era := y / 400
  let yearOfEra := y % 400
  let shifted : Int := (month + 9) % 12
  -- From March on, every five months have 153 days.
  let dayOfYear := (153 * shifted + 2) / 5 + day - 1
  let dayOfEra := yearOfEra * 365 + yearOfEra / 4 - yearOfEra / 100 + dayOfYear
  era * 146097 + dayOfEra - 719468

/-- The date that lies the given number of days after 1970-01-01: year, month and day. -/
def dateOfDays (days : Int) : Int × Nat × Nat :=
  let z := days + 719468
  let era := z / 146097
  let dayOfEra := z % 146097
  let yearOfEra :=
    (dayOfEra - dayOfEra / 1460 + dayOfEra / 36524 - dayOfEra / 146096) / 365
  let dayOfYear := dayOfEra - (365 * yearOfEra + yearOfEra / 4 - yearOfEra / 100)
  let shifted := (5 * dayOfYear + 2) / 153
  let day := dayOfYear - (153 * shifted + 2) / 5 + 1
  let month := if shifted < 10 then shifted + 3 else shifted - 9
  let year := yearOfEra + era * 400
  (if month ≤ 2 then year + 1 else year, month.toNat, day.toNat)

/-- The days from 1970-01-01 to 2000-01-01. -/
def daysTo2000 : Int := 10957

/-- **The distance from the start of 2000 in microseconds**, truncated toward zero. A leap second
counts with all of its nanoseconds. -/
def DateTime.microsecondsFrom2000 (t : DateTime) : Int :=
  let days := daysFromEpoch t.year t.month t.day - daysTo2000
  let seconds := days * 86400 + t.hour * 3600 + t.minute * 60 + t.second
  Int.tdiv (seconds * 1000000000 + t.nano) 1000

/-- **The point in time the given number of microseconds after the start of 2000**, if the
calendar reaches so far. -/
def DateTime.ofMicrosecondsFrom2000? (us : Int) : Option DateTime :=
  let seconds := us / 1000000
  let days := seconds / 86400
  let ofDay := (seconds % 86400).toNat
  let (year, month, day) := dateOfDays (days + daysTo2000)
  DateTime.ofFields? year month day (ofDay / 3600) (ofDay / 60 % 60) (ofDay % 60)
    ((us % 1000000).toNat * 1000)

end EntityMapper.Calendar

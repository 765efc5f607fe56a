import EntityMapper.Calendar.Basic
import Mathlib.Tactic.IntervalCases

/-!
# Counting days

Every day has one date of the proleptic Gregorian calendar, and every date is one day. Both counts
go by years that begin in March: a day is found as a day of such a year, and its month and day of
the month from that.

## Main definitions

* `IsDay year month day`: the fields name a day of some year
* `marchFirst year`, `InYear year z`: where a year that begins in March starts, and its days
* `yearOfEra doe`: the year of a day of an era
* `marchYear year month`, `dayOfYear month day`: a date in the year that began in March before it
* `dateInYear year t`: the date of a day of such a year

## Main results

* `inYear_of_era`: the year that is computed for a day is its year
* `IsDay.dateInYear_eq`, `dateInYear_spec`: dates and the days of a year
* `dateOfDays_daysFromEpoch`: a date is found again from its days
* `dateOfDays_spec`: days are found again from their date
-/

namespace EntityMapper.Calendar

/-- The fields name a day of some year, within the calendar or beyond it. -/
def IsDay (year : Int) (month day : Nat) : Prop :=
  1 ≤ month ∧ month ≤ 12 ∧ 1 ≤ day ∧ day ≤ daysInMonth year month

/-! ## Years that begin in March -/

/-- The days from 1 March of the year 0 to 1 March of a year. -/
def marchFirst (year : Int) : Int := 365 * year + year / 4 - year / 100 + year / 400

theorem marchFirst_lt_iff {y y' : Int} : marchFirst y < marchFirst y' ↔ y < y' := by
  unfold marchFirst
  omega

theorem marchFirst_add_era (y e : Int) : marchFirst (y + e * 400) = marchFirst y + e * 146097 := by
  unfold marchFirst
  omega

/-- A year that begins in March has a day more if the February at its end has. -/
theorem marchFirst_succ (y : Int) :
    marchFirst (y + 1) = marchFirst y + if isLeapYear (y + 1) then 366 else 365 := by
  simp only [isLeapYear, marchFirst, Bool.and_eq_true, Bool.or_eq_true, beq_iff_eq, bne_iff_ne]
  split
  all_goals omega

/-- The day `z` is in a year, counted from 1 March of the year 0. -/
def InYear (y z : Int) : Prop := marchFirst y ≤ z ∧ z < marchFirst (y + 1)

/-- A day is in one year only. -/
theorem InYear.unique {y y' z : Int} (h : InYear y z) (h' : InYear y' z) : y = y' := by
  have hlt : y < y' + 1 := marchFirst_lt_iff.mp (h.1.trans_lt h'.2)
  have hlt' : y' < y + 1 := marchFirst_lt_iff.mp (h'.1.trans_lt h.2)
  omega

/-- The year of a day of an era, as it is computed. -/
def yearOfEra (doe : Int) : Int := (doe - doe / 1460 + doe / 36524 - doe / 146096) / 365

/-- A day of an era is in a century, in four years of it, and in one of these. The last century, and
the last of four years, may have a day more. -/
theorem exists_century {doe : Int} (h₀ : 0 ≤ doe) (h₁ : doe < 146097) : ∃ c q a t,
    doe = 36524 * c + 1461 * q + 365 * a + t ∧ (0 ≤ c ∧ c ≤ 3) ∧ (0 ≤ q ∧ q ≤ 24) ∧
      (0 ≤ a ∧ a ≤ 3) ∧ (0 ≤ t ∧ t ≤ 365) ∧ (t = 365 → a = 3 ∧ (q = 24 → c = 3)) := by
  obtain ⟨c, hc⟩ : ∃ c, c = min (doe / 36524) 3 := ⟨_, rfl⟩
  obtain ⟨r, hr⟩ : ∃ r, r = doe - 36524 * c := ⟨_, rfl⟩
  obtain ⟨a, ha⟩ : ∃ a, a = min (r % 1461 / 365) 3 := ⟨_, rfl⟩
  exact ⟨c, r / 1461, a, r % 1461 - 365 * a, by omega, by omega, by omega, by omega, by omega,
    by omega⟩

section Century

variable {c q a t : Int}

theorem marchFirst_century (hc : 0 ≤ c ∧ c ≤ 3) (hq : 0 ≤ q ∧ q ≤ 24) (ha : 0 ≤ a ∧ a ≤ 3) :
    marchFirst (100 * c + 4 * q + a) = 36524 * c + 1461 * q + 365 * a := by
  unfold marchFirst
  omega

theorem marchFirst_century_succ (hc : 0 ≤ c ∧ c ≤ 3) (hq : 0 ≤ q ∧ q ≤ 24) (ha : 0 ≤ a ∧ a ≤ 3) :
    marchFirst (100 * c + 4 * q + a + 1) = 36524 * c + 1461 * q + 365 * (a + 1) +
      if a = 3 ∧ (q = 24 → c = 3) then 1 else 0 := by
  unfold marchFirst
  split
  all_goals omega

theorem yearOfEra_century (hc : 0 ≤ c ∧ c ≤ 3) (hq : 0 ≤ q ∧ q ≤ 24) (ha : 0 ≤ a ∧ a ≤ 3)
    (ht : 0 ≤ t ∧ t ≤ 365) (hlast : t = 365 → a = 3 ∧ (q = 24 → c = 3)) :
    yearOfEra (36524 * c + 1461 * q + 365 * a + t) = 100 * c + 4 * q + a := by
  obtain ⟨doe, hdoe⟩ : ∃ doe, doe = 36524 * c + 1461 * q + 365 * a + t := ⟨_, rfl⟩
  have hfour : doe / 1460 = 25 * c + q + (24 * c + q + 365 * a + t) / 1460 := by omega
  -- The last day of an era would be in a fifth century.
  have hcentury : doe / 36524 - doe / 146096 = c := by
    obtain rfl | rfl | rfl | rfl : c = 0 ∨ c = 1 ∨ c = 2 ∨ c = 3 := by omega
    all_goals omega
  rw [yearOfEra, ← hdoe]
  omega

end Century

/-- **The year of a day of an era** is found. -/
theorem inYear_yearOfEra {doe : Int} (h₀ : 0 ≤ doe) (h₁ : doe < 146097) :
    (0 ≤ yearOfEra doe ∧ yearOfEra doe < 400) ∧ InYear (yearOfEra doe) doe := by
  obtain ⟨c, q, a, t, rfl, hc, hq, ha, ht, hlast⟩ := exists_century h₀ h₁
  rw [yearOfEra_century hc hq ha ht hlast, InYear, marchFirst_century hc hq ha,
    marchFirst_century_succ hc hq ha]
  refine ⟨by omega, by omega, ?_⟩
  split
  all_goals omega

/-! ## Dates in their years -/

/-- The year that began in March before a date. -/
def marchYear (year : Int) (month : Nat) : Int := if month ≤ 2 then year - 1 else year

/-- The number of a month, counted from March. -/
def shiftedMonth (month : Nat) : Int := ((month : Int) + 9) % 12

/-- The days from 1 March to the first of a month, which is given counted from March. -/
def daysBefore (shifted : Int) : Int := (153 * shifted + 2) / 5

/-- The days from 1 March to a date of the year that began with it. -/
def dayOfYear (month day : Nat) : Int := daysBefore (shiftedMonth month) + day - 1

theorem daysFromEpoch_eq (year : Int) (month day : Nat) :
    daysFromEpoch year month day =
      marchFirst (marchYear year month) + dayOfYear month day - 719468 := by
  simp only [daysFromEpoch, marchYear, dayOfYear, daysBefore, shiftedMonth, marchFirst]
  omega

/-- How long months are. -/
theorem daysInMonth_le (year : Int) (month : Nat) : daysInMonth year month ≤ 31 ∧
    (month = 4 ∨ month = 6 ∨ month = 9 ∨ month = 11 → daysInMonth year month ≤ 30) ∧
    (month = 2 → daysInMonth year month ≤ 29) := by
  unfold daysInMonth
  repeat' split
  all_goals omega

namespace IsDay

variable {year : Int} {month day : Nat}

/-- A day of a month comes before the next month. -/
theorem dayOfYear_lt (h : IsDay year month day) :
    dayOfYear month day < daysBefore (shiftedMonth month + 1) := by
  obtain ⟨hm, hm', hd, hd'⟩ := h
  have hlong := daysInMonth_le year month
  unfold dayOfYear daysBefore shiftedMonth
  interval_cases month
  all_goals omega

/-- A date is in the year that began in March before it. -/
theorem inYear (h : IsDay year month day) :
    InYear (marchYear year month) (marchFirst (marchYear year month) + dayOfYear month day) := by
  have hlt := h.dayOfYear_lt
  obtain ⟨hm, hm', hd, hd'⟩ := h
  have hnonneg : 0 ≤ dayOfYear month day := by
    unfold dayOfYear daysBefore shiftedMonth
    omega
  rw [InYear, marchFirst_succ]
  refine ⟨by omega, ?_⟩
  by_cases hfebruary : month = 2
  -- Only in February it matters how long the year is.
  · subst hfebruary
    simp only [daysInMonth, if_true] at hd'
    simp only [marchYear, dayOfYear, daysBefore, shiftedMonth, le_refl, if_true, Int.sub_add_cancel]
    split at hd'
    · next hleap =>
      rw [if_pos hleap]
      omega
    · next hleap =>
      rw [if_neg hleap]
      omega
  · have hshort : dayOfYear month day < 365 := by
      unfold daysBefore shiftedMonth at hlt
      omega
    split
    all_goals omega

/-- A day of a month that comes before the next month, and is in the year, is a date. -/
theorem of_inYear (hm : 1 ≤ month) (hm' : month ≤ 12) (hd : 1 ≤ day)
    (hlt : dayOfYear month day < daysBefore (shiftedMonth month + 1))
    (hin : InYear (marchYear year month)
      (marchFirst (marchYear year month) + dayOfYear month day)) :
    IsDay year month day := by
  refine ⟨hm, hm', hd, ?_⟩
  unfold daysInMonth
  by_cases hfebruary : month = 2
  -- The next month begins with the next year.
  · subst hfebruary
    have hnext := hin.2
    rw [marchFirst_succ] at hnext
    simp only [marchYear, dayOfYear, daysBefore, shiftedMonth, le_refl, if_true,
      Int.sub_add_cancel] at hnext
    rw [if_pos rfl]
    split at hnext
    · next hleap =>
      rw [if_pos hleap]
      omega
    · next hleap =>
      rw [if_neg hleap]
      omega
  · unfold dayOfYear daysBefore shiftedMonth at hlt
    rw [if_neg hfebruary]
    split
    all_goals interval_cases month
    all_goals omega

end IsDay

/-- The number of a month that is given counted from March. -/
def monthOfShifted (shifted : Int) : Int := if shifted < 10 then shifted + 3 else shifted - 9

theorem monthOfShifted_shiftedMonth {month : Nat} (hm : 1 ≤ month) (hm' : month ≤ 12) :
    monthOfShifted (shiftedMonth month) = month := by
  unfold monthOfShifted shiftedMonth
  split
  all_goals omega

theorem shiftedMonth_monthOfShifted {s : Int} (h₀ : 0 ≤ s) (h₁ : s ≤ 11) {month : Nat}
    (hmonth : (monthOfShifted s).toNat = month) :
    shiftedMonth month = s ∧ (monthOfShifted s = month ∧ 1 ≤ month ∧ month ≤ 12) := by
  unfold monthOfShifted at *
  unfold shiftedMonth
  split at hmonth
  · next hlt =>
    rw [if_pos hlt]
    omega
  · next hge =>
    rw [if_neg hge]
    omega

/-- The date of a day of a year that begins in March, as it is computed. -/
def dateInYear (year t : Int) : Int × Nat × Nat :=
  let shifted := (5 * t + 2) / 153
  let month := monthOfShifted shifted
  (if month ≤ 2 then year + 1 else year, month.toNat, (t - daysBefore shifted + 1).toNat)

/-- A date is found again from its day in its year. -/
theorem IsDay.dateInYear_eq {year : Int} {month day : Nat} (h : IsDay year month day) :
    dateInYear (marchYear year month) (dayOfYear month day) = (year, month, day) := by
  have hlt := h.dayOfYear_lt
  obtain ⟨hm, hm', hd, -⟩ := h
  have hshifted : (5 * dayOfYear month day + 2) / 153 = shiftedMonth month := by
    unfold dayOfYear daysBefore shiftedMonth at *
    omega
  have hday : (dayOfYear month day - daysBefore (shiftedMonth month) + 1).toNat = day := by
    unfold dayOfYear
    omega
  have hmonth := monthOfShifted_shiftedMonth hm hm'
  have hyear : (if (month : Int) ≤ 2 then marchYear year month + 1 else marchYear year month) =
      year := by
    unfold marchYear
    split
    all_goals split
    all_goals omega
  simp only [dateInYear, hshifted, hday, hmonth, hyear, Int.toNat_natCast]

/-- The month of a day, and the day in it. -/
theorem daysBefore_le {t : Int} (h₀ : 0 ≤ t) (h₁ : t < 366) :
    let s := (5 * t + 2) / 153
    (0 ≤ s ∧ s ≤ 11) ∧ daysBefore s ≤ t ∧ t < daysBefore (s + 1) := by
  intro s
  unfold daysBefore
  omega

/-- **A day of a year is found again from its date**, which is one. -/
theorem dateInYear_spec {y t : Int} (h : InYear y (marchFirst y + t)) {year : Int}
    {month day : Nat} (hdate : dateInYear y t = (year, month, day)) :
    IsDay year month day ∧ marchYear year month = y ∧ dayOfYear month day = t := by
  have hlong : 0 ≤ t ∧ t < 366 := by
    obtain ⟨h₀, hnext⟩ := h
    rw [marchFirst_succ] at hnext
    split at hnext
    all_goals omega
  obtain ⟨hs, hle, hlt⟩ := daysBefore_le hlong.1 hlong.2
  simp only [dateInYear, Prod.mk.injEq] at hdate
  generalize (5 * t + 2) / 153 = s at hs hle hlt hdate
  obtain ⟨hyear, hmonth, hday⟩ := hdate
  obtain ⟨hshifted, hmonth, hm, hm'⟩ := shiftedMonth_monthOfShifted hs.1 hs.2 hmonth
  have hdays : dayOfYear month day = t := by
    rw [dayOfYear, hshifted]
    omega
  have hmarch : marchYear year month = y := by
    rw [hmonth] at hyear
    unfold marchYear
    split at hyear
    all_goals split
    all_goals omega
  refine ⟨.of_inYear hm hm' (by omega) ?_ ?_, hmarch, hdays⟩
  · rwa [hdays, hshifted]
  · rwa [hdays, hmarch]

/-! ## Days and dates -/

/-- Every day is in the year that is computed for it. -/
theorem inYear_of_era (z : Int) : InYear (yearOfEra (z % 146097) + z / 146097 * 400) z := by
  obtain ⟨-, hle, hlt⟩ := inYear_yearOfEra (show 0 ≤ z % 146097 by omega) (by omega)
  rw [InYear, add_right_comm, marchFirst_add_era, marchFirst_add_era]
  omega

/-- The date of a day is that of a day of its year. -/
theorem dateOfDays_eq {y t : Int} (h : InYear y (marchFirst y + t)) :
    dateOfDays (marchFirst y + t - 719468) = dateInYear y t := by
  obtain ⟨z, hz⟩ : ∃ z, z = marchFirst y + t := ⟨_, rfl⟩
  have hyear : yearOfEra (z % 146097) + z / 146097 * 400 = y := (inYear_of_era z).unique (hz ▸ h)
  obtain ⟨⟨h₀, h₁⟩, -⟩ := inYear_yearOfEra (show 0 ≤ z % 146097 by omega) (by omega)
  have hday : z % 146097 - (365 * yearOfEra (z % 146097) + yearOfEra (z % 146097) / 4 -
      yearOfEra (z % 146097) / 100) = t := by
    have hfirst := marchFirst_add_era (yearOfEra (z % 146097)) (z / 146097)
    rw [hyear] at hfirst
    have hera : marchFirst (yearOfEra (z % 146097)) = 365 * yearOfEra (z % 146097) +
        yearOfEra (z % 146097) / 4 - yearOfEra (z % 146097) / 100 := by
      unfold marchFirst
      omega
    omega
  rw [dateOfDays, Int.sub_add_cancel, ← hz]
  show dateInYear (yearOfEra (z % 146097) + z / 146097 * 400) _ = _
  rw [hyear]
  exact congrArg (dateInYear y) hday

/-- **A date is found again from its days.** -/
theorem dateOfDays_daysFromEpoch {year : Int} {month day : Nat} (h : IsDay year month day) :
    dateOfDays (daysFromEpoch year month day) = (year, month, day) := by
  rw [daysFromEpoch_eq, dateOfDays_eq h.inYear, h.dateInYear_eq]

/-- **Days are found again from their date**, which is one. -/
theorem dateOfDays_spec {days year : Int} {month day : Nat}
    (h : dateOfDays days = (year, month, day)) :
    IsDay year month day ∧ daysFromEpoch year month day = days := by
  have hin := inYear_of_era (days + 719468)
  generalize yearOfEra _ + _ = y at hin
  obtain ⟨t, ht⟩ : ∃ t, days = marchFirst y + t - 719468 :=
    ⟨days + 719468 - marchFirst y, by omega⟩
  subst ht
  rw [Int.sub_add_cancel] at hin
  rw [dateOfDays_eq hin] at h
  obtain ⟨hday, hyear, hdays⟩ := dateInYear_spec hin h
  exact ⟨hday, by rw [daysFromEpoch_eq, hyear, hdays]⟩

/-- Another date is another day. -/
theorem IsDay.eq_of_daysFromEpoch_eq {year year' : Int} {month month' day day' : Nat}
    (h : IsDay year month day) (h' : IsDay year' month' day')
    (heq : daysFromEpoch year month day = daysFromEpoch year' month' day') :
    (year, month, day) = (year', month', day') := by
  rw [← dateOfDays_daysFromEpoch h, heq, dateOfDays_daysFromEpoch h']

end EntityMapper.Calendar

import EntityMapper.Proofs.Calendar.Days

/-!
# Points in time and their distance from 2000

The distance of a point in time from the start of 2000, in nanoseconds, tells the point, leap
seconds apart. In microseconds it tells the point truncated, which is a point of the calendar again.

## Main definitions

* `yearFirst year`: the first day of a year
* `DateTime.nanosecondsFrom2000 t`: the distance in nanoseconds
* `DateTime.Truncates t t'`: the distance of `t'` is that of `t`, truncated to microseconds

## Main results

* `isDate_iff`: the calendar is a range of days
* `DateTime.eq_of_nanosecondsFrom2000_eq`: the distance tells the point in time
* `DateTime.exists_truncates`: a point in time is read back from its microseconds, truncated
-/

namespace EntityMapper.Calendar

/-! ## Years -/

/-- The days from 1970-01-01 to the first day of a year. -/
def yearFirst (year : Int) : Int := marchFirst (year - 1) - 719162

theorem yearFirst_lt_iff {y y' : Int} : yearFirst y < yearFirst y' ↔ y < y' := by
  have hmarch := @marchFirst_lt_iff (y - 1) (y' - 1)
  unfold yearFirst
  omega

theorem yearFirst_le_iff {y y' : Int} : yearFirst y ≤ yearFirst y' ↔ y ≤ y' := by
  rw [← Int.not_lt, yearFirst_lt_iff, Int.not_lt]

/-- A date lies between the first days of its year and of the next one. -/
theorem IsDay.yearFirst_le {year : Int} {month day : Nat} (h : IsDay year month day) :
    yearFirst year ≤ daysFromEpoch year month day ∧
      daysFromEpoch year month day < yearFirst (year + 1) := by
  have hnext := marchFirst_succ (year - 1)
  have hlt := h.dayOfYear_lt
  have hin := h.inYear.2
  obtain ⟨hm, hm', hd, -⟩ := h
  rw [Int.sub_add_cancel] at hnext
  rw [daysFromEpoch_eq, yearFirst, yearFirst, Int.add_sub_cancel]
  unfold marchYear at *
  by_cases hwinter : month ≤ 2
  · rw [if_pos hwinter] at *
    rw [Int.sub_add_cancel] at hin
    unfold dayOfYear daysBefore shiftedMonth at *
    omega
  · rw [if_neg hwinter] at *
    unfold dayOfYear daysBefore shiftedMonth at *
    split at hnext
    all_goals omega

/-- **The calendar is a range of days.** -/
theorem isDate_iff {year : Int} {month day : Nat} (h : IsDay year month day) :
    IsDate year month day ↔ yearFirst minYear ≤ daysFromEpoch year month day ∧
      daysFromEpoch year month day < yearFirst (maxYear + 1) := by
  obtain ⟨hle, hlt⟩ := h.yearFirst_le
  unfold IsDate
  constructor
  · rintro ⟨hmin, hmax, -⟩
    have hnext : year + 1 ≤ maxYear + 1 := by omega
    exact ⟨(yearFirst_le_iff.mpr hmin).trans hle, hlt.trans_le (yearFirst_le_iff.mpr hnext)⟩
  · rintro ⟨hmin, hmax⟩
    have hfirst : minYear < year + 1 := yearFirst_lt_iff.mp (hmin.trans_lt hlt)
    have hlast : year < maxYear + 1 := yearFirst_lt_iff.mp (hle.trans_lt hmax)
    exact ⟨by omega, by omega, h⟩

/-! ## Distances -/

namespace DateTime

/-- **The distance from the start of 2000 in nanoseconds.** -/
def nanosecondsFrom2000 (t : DateTime) : Int :=
  ((daysFromEpoch t.year t.month t.day - daysTo2000) * 86400 + t.hour * 3600 + t.minute * 60 +
    t.second) * 1000000000 + t.nano

theorem microsecondsFrom2000_eq (t : DateTime) :
    t.microsecondsFrom2000 = t.nanosecondsFrom2000.tdiv 1000 := rfl

theorem isDay (t : DateTime) : IsDay t.year t.month t.day := t.isDate.2.2

/-- **The distance tells the point in time**, unless it is in a leap second. -/
theorem eq_of_nanosecondsFrom2000_eq {t t' : DateTime} (ht : t.nano < 1000000000)
    (ht' : t'.nano < 1000000000) (h : t.nanosecondsFrom2000 = t'.nanosecondsFrom2000) : t = t' := by
  obtain ⟨hhour, hminute, hsecond, -⟩ := t.isTime
  obtain ⟨hhour', hminute', hsecond', -⟩ := t'.isTime
  unfold nanosecondsFrom2000 at h
  have hdays : daysFromEpoch t.year t.month t.day = daysFromEpoch t'.year t'.month t'.day := by
    omega
  have hdate := t.isDay.eq_of_daysFromEpoch_eq t'.isDay hdays
  have hfields : t.hour = t'.hour ∧ t.minute = t'.minute ∧ t.second = t'.second ∧
      t.nano = t'.nano := by omega
  cases t
  cases t'
  simp_all

/-- The calendar reaches from the start of its first day to the end of its last one. -/
theorem nanosecondsFrom2000_bounds {t : DateTime} (ht : t.nano < 1000000000) :
    (yearFirst minYear - daysTo2000) * 86400000000000 ≤ t.nanosecondsFrom2000 ∧
      t.nanosecondsFrom2000 < (yearFirst (maxYear + 1) - daysTo2000) * 86400000000000 := by
  obtain ⟨hlow, hhigh⟩ := (isDate_iff t.isDay).mp t.isDate
  obtain ⟨hhour, hminute, hsecond, -⟩ := t.isTime
  unfold nanosecondsFrom2000
  omega

theorem ofFields?_eq {year : Int} {month day hour minute second nano : Nat}
    (hd : IsDate year month day) (ht : IsTime hour minute second nano) :
    ofFields? year month day hour minute second nano =
      some ⟨year, month, day, hour, minute, second, nano, hd, ht⟩ := by
  rw [ofFields?, dif_pos hd, dif_pos ht]

/-- Every microsecond of the calendar is read as a point in time. -/
theorem exists_ofMicrosecondsFrom2000? {us : Int}
    (hlow : (yearFirst minYear - daysTo2000) * 86400000000 ≤ us)
    (hhigh : us < (yearFirst (maxYear + 1) - daysTo2000) * 86400000000) :
    ∃ t, ofMicrosecondsFrom2000? us = some t ∧ t.nano < 1000000000 ∧
      t.nanosecondsFrom2000 = us * 1000 := by
  rcases hdate : dateOfDays (us / 1000000 / 86400 + daysTo2000) with ⟨year, month, day⟩
  obtain ⟨hday, hdays⟩ := dateOfDays_spec hdate
  have hd : IsDate year month day := (isDate_iff hday).mpr (by omega)
  obtain ⟨ofDay, hofDay⟩ : ∃ ofDay, ofDay = (us / 1000000 % 86400).toNat := ⟨_, rfl⟩
  obtain ⟨nano, hnano⟩ : ∃ nano, nano = (us % 1000000).toNat * 1000 := ⟨_, rfl⟩
  have ht : IsTime (ofDay / 3600) (ofDay / 60 % 60) (ofDay % 60) nano := by
    unfold IsTime
    omega
  refine ⟨⟨year, month, day, _, _, _, _, hd, ht⟩, ?_, ?_, ?_⟩
  · rw [ofMicrosecondsFrom2000?, hdate, ← ofFields?_eq hd ht, hofDay, hnano]
  · show nano < _
    omega
  · unfold nanosecondsFrom2000
    dsimp only
    omega

/-! ## Truncation -/

/-- **A point in time with its distance from 2000 truncated** toward zero, to microseconds. -/
structure Truncates (t t' : DateTime) : Prop where
  nano : t'.nano < 1000000000
  distance : t'.nanosecondsFrom2000 = t.nanosecondsFrom2000.tdiv 1000 * 1000

/-- A point in time in whole microseconds loses nothing. -/
theorem Truncates.eq {t t' : DateTime} (h : t.Truncates t') (ht : t.nano < 1000000000)
    (hexact : t.nano % 1000 = 0) : t' = t := by
  refine eq_of_nanosecondsFrom2000_eq h.nano ht ?_
  have hdvd : (1000 : Int) ∣ t.nanosecondsFrom2000 := by
    unfold nanosecondsFrom2000
    omega
  rw [h.distance, Int.tdiv_mul_cancel hdvd]

/-- Truncation does not leave the calendar. -/
theorem microsecondsFrom2000_bounds {t : DateTime} (ht : t.nano < 1000000000) :
    (yearFirst minYear - daysTo2000) * 86400000000 ≤ t.microsecondsFrom2000 ∧
      t.microsecondsFrom2000 < (yearFirst (maxYear + 1) - daysTo2000) * 86400000000 := by
  obtain ⟨hlow, hhigh⟩ := nanosecondsFrom2000_bounds ht
  have hbefore : yearFirst minYear - daysTo2000 < 0 := by decide
  have hafter : 0 < yearFirst (maxYear + 1) - daysTo2000 := by decide
  have hsign : Int.sign 1000 = 1 := rfl
  rw [microsecondsFrom2000_eq, Int.tdiv_eq_ediv]
  split
  all_goals omega

/-- **A point in time is read back from its microseconds**, truncated. -/
theorem exists_truncates {t : DateTime} (ht : t.nano < 1000000000) :
    ∃ t', ofMicrosecondsFrom2000? t.microsecondsFrom2000 = some t' ∧ t.Truncates t' := by
  obtain ⟨hlow, hhigh⟩ := microsecondsFrom2000_bounds ht
  obtain ⟨t', h, hnano, hdistance⟩ := exists_ofMicrosecondsFrom2000? hlow hhigh
  exact ⟨t', h, hnano, hdistance⟩

end DateTime

end EntityMapper.Calendar

import EntityMapper.Calendar.Printer
import EntityMapper.Calendar.Reader
import EntityMapper.Proofs.Result
import EntityMapper.Proofs.Calendar.Instants
import EntityMapper.Proofs.Text.Blank
import EntityMapper.Proofs.Text.Numeral

/-!
# Points in time as text

A point in time is read back from its text, leap seconds included. Every number in the text ends
before a character that is no digit, so that its reader takes all of it and leaves what follows.

## Main definitions

* `Stops cs`: the text does not go on with a digit

## Main results

* `readNumber_append`: a number is read up to where its digits stop
* `readYear_yearChars`, `readField_paddedDigits`, `readFraction_fractionChars`: the parts of a text
* `DateTime.readChars_chars`: a point in time is read back
-/

namespace EntityMapper

open EntityMapper.Text

/-! ## Digits of a given width -/

namespace Text

theorem digitsFrom_append (n : Nat) (cs ds : List Char) :
    digitsFrom n (cs ++ ds) = digitsFrom (digitsFrom n cs) ds := List.foldl_append

theorem digitsFrom_zeros (k : Nat) : digitsFrom 0 (List.replicate k '0') = 0 := by
  induction k with
  | zero => rfl
  | succ k ih => rw [List.replicate_succ, digitsFrom_cons]; exact ih

/-- Zeros before a number do not change it. -/
theorem digitsValue_paddedDigits (width n : Nat) : digitsValue (paddedDigits width n) = n := by
  have hvalue : digitsFrom 0 (decimalDigits n) = n := digitsValue_decimalDigits n
  show digitsFrom 0 (paddedDigits width n) = n
  rw [paddedDigits, digitsFrom_append, digitsFrom_zeros, hvalue]

theorem allDigits_paddedDigits (width n : Nat) : AllDigits (paddedDigits width n) := by
  obtain ⟨hne, hdigits⟩ := allDigits_decimalDigits n
  refine ⟨fun h => hne (List.append_eq_nil_iff.mp h).2, ?_⟩
  intro c hc
  rcases List.mem_append.mp hc with hc | hc
  · rw [List.eq_of_mem_replicate hc]
    rfl
  · exact hdigits c hc

/-- A number that is not too long is filled up to the width. -/
theorem length_paddedDigits (width : Nat) {n : Nat} (h : n < 10 ^ (width + 1)) :
    (paddedDigits (width + 1) n).length = width + 1 := by
  have hle := length_decimalDigits_le h
  simp only [paddedDigits, List.length_append, List.length_replicate]
  omega

/-- A text with digits at its start begins with nothing else. -/
theorem AllDigits.append_ne {ds rest cs : List Char} {c : Char} (hds : AllDigits ds)
    (hc : digitValue? c = none) : ds ++ rest ≠ c :: cs := by
  cases ds with
  | nil => exact absurd rfl hds.1
  | cons d ds =>
    intro h
    obtain rfl := (List.cons.inj h).1
    exact not_allDigits_cons hc ds hds

end Text

namespace Calendar

/-! ## Numbers -/

/-- **The text does not go on with a digit.** -/
def Stops (cs : List Char) : Prop := ∀ c ∈ cs.head?, digitValue? c = none

theorem stops_nil : Stops [] := nofun

theorem stops_cons {c : Char} (h : digitValue? c = none) (cs : List Char) : Stops (c :: cs) := by
  rintro d ⟨⟩
  exact h

theorem Stops.take {cs : List Char} (h : Stops cs) (n : Nat) : Stops (cs.take n) := by
  intro c hc
  rw [List.head?_take] at hc
  split at hc
  · cases hc
  · exact h c hc

theorem Stops.takeWhile {cs : List Char} (h : Stops cs) :
    cs.takeWhile (fun c => (digitValue? c).isSome) = [] := by
  cases cs with
  | nil => rfl
  | cons c cs => exact List.takeWhile_cons_of_neg (by simp [h c rfl])

variable {ds rest : List Char}

/-- The digits at the start of a text end where the text stops. -/
theorem leadingDigits_append {width : Option Nat} (hds : AllDigits ds)
    (hwidth : ∀ w ∈ width, ds.length ≤ w) (hrest : Stops rest) :
    leadingDigits width (ds ++ rest) = ds := by
  unfold leadingDigits
  cases width with
  | none =>
    dsimp only
    rw [List.takeWhile_append_of_pos hds.2, hrest.takeWhile, List.append_nil]
  | some w =>
    -- The window takes in all of the digits.
    have hwindow : (ds ++ rest).take w = ds ++ rest.take (w - ds.length) := by
      rw [List.take_append, List.take_of_length_le (hwidth w rfl)]
    dsimp only
    rw [hwindow, List.takeWhile_append_of_pos hds.2, (hrest.take _).takeWhile, List.append_nil]

theorem digitsWithin_eq {n : Nat} {cs : List Char} (hcs : ∀ c ∈ cs, (digitValue? c).isSome = true)
    (h : digitsFrom n cs < 0x8000000000000000) : digitsWithin n cs = .ok (digitsFrom n cs) := by
  induction cs generalizing n with
  | nil => rfl
  | cons c cs ih =>
    obtain ⟨hc, hcs⟩ := List.forall_mem_cons.mp hcs
    obtain ⟨d, hd⟩ := Option.isSome_iff_exists.mp hc
    obtain rfl := digitValue?_eq_some hd
    rw [digitsFrom_cons] at h ⊢
    -- No number on the way is larger than the one at the end.
    have hle := le_digitsFrom (n * 10 + (c.toNat - 48)) cs
    rw [digitsWithin, hd, Option.getD_some, Nat.mul_comm 10 n, if_pos (by omega), ih hcs h]

/-- **A number is read up to where its digits stop.** -/
theorem readNumber_append {width : Option Nat} (hds : AllDigits ds)
    (hwidth : ∀ w ∈ width, ds.length ≤ w) (hrest : Stops rest)
    (hvalue : digitsValue ds < 0x8000000000000000) :
    readNumber width (ds ++ rest) = .ok (digitsValue ds, rest) := by
  have hread : digitsWithin 0 ds = .ok (digitsValue ds) := digitsWithin_eq hds.2 hvalue
  have hempty : ds.isEmpty = false := by simp [hds.1]
  have hempty' : (ds ++ rest).isEmpty = false := by simp [hds.1]
  unfold readNumber
  simp only [hempty', leadingDigits_append hds hwidth hrest, hempty, hread, List.drop_left]
  rfl

/-! ## Fields -/

/-- Digits stand without blanks before them. -/
theorem trimBlankStart_digits (hds : AllDigits ds) (rest : List Char) :
    trimBlankStart (ds ++ rest) = ds ++ rest := by
  refine trimBlankStart_of_first fun c hc => ?_
  cases ds with
  | nil => exact absurd rfl hds.1
  | cons d ds =>
    obtain rfl := Option.some.inj hc
    exact not_isBlank_of_digit (hds.2 d (List.mem_cons_self ..))

/-- A field in its two digits is read back. -/
theorem readField_paddedDigits {lo hi n : Nat} (hlo : lo ≤ n) (hhi : n ≤ hi) (hn : n < 100)
    (hrest : Stops rest) : readField lo hi (paddedDigits 2 n ++ rest) = .ok (n, rest) := by
  have hds := allDigits_paddedDigits 2 n
  have hlength : (paddedDigits 2 n).length = 2 := length_paddedDigits 1 hn
  have hvalue := digitsValue_paddedDigits 2 n
  have hread : readNumber (some 2) (paddedDigits 2 n ++ rest) = .ok (n, rest) := by
    rw [readNumber_append hds (by rintro w ⟨⟩; exact hlength.le) hrest (by omega), hvalue]
  rw [readField, trimBlankStart_digits hds, hread]
  exact if_pos ⟨hlo, hhi⟩

/-! ## Years -/

section Years

variable {year : Int} {n : Nat}

/-- No year of the calendar leaves the bounds of 32 bits. -/
theorem readYear_bounds (hmin : minYear ≤ year) (hmax : year ≤ maxYear) :
    (if -0x80000000 ≤ year ∧ year < 0x80000000 then Except.ok (year, rest)
      else Except.error DateFault.outOfRange) = .ok (year, rest) := by
  unfold minYear at hmin
  unfold maxYear at hmax
  exact if_pos ⟨by omega, by omega⟩

theorem readYear_minus (hmin : minYear ≤ -(n : Int)) (hmax : -(n : Int) ≤ maxYear)
    (hread : readNumber none (ds ++ rest) = .ok (n, rest)) :
    readYear ('-' :: ds ++ rest) = .ok (-(n : Int), rest) := by
  have htrim : trimBlankStart ('-' :: ds ++ rest) = '-' :: (ds ++ rest) :=
    trimBlankStart_of_first (by rintro c ⟨⟩; rfl)
  rw [readYear, htrim]
  exact bind_eq_ok.mpr ⟨_, hread, bind_eq_ok.mpr ⟨_, rfl, readYear_bounds hmin hmax⟩⟩

theorem readYear_plus (hmin : minYear ≤ n) (hmax : n ≤ maxYear)
    (hread : readNumber none (ds ++ rest) = .ok (n, rest)) :
    readYear ('+' :: ds ++ rest) = .ok ((n : Int), rest) := by
  have htrim : trimBlankStart ('+' :: ds ++ rest) = '+' :: (ds ++ rest) :=
    trimBlankStart_of_first (by rintro c ⟨⟩; rfl)
  rw [readYear, htrim]
  exact bind_eq_ok.mpr ⟨_, hread, bind_eq_ok.mpr ⟨_, rfl, readYear_bounds hmin hmax⟩⟩

theorem readYear_unsigned (hmin : minYear ≤ n) (hmax : n ≤ maxYear) (hds : AllDigits ds)
    (hread : readNumber (some 4) (ds ++ rest) = .ok (n, rest)) :
    readYear (ds ++ rest) = .ok ((n : Int), rest) := by
  rw [readYear, trimBlankStart_digits hds]
  -- Digits begin with no sign.
  split
  · next r hcs => exact absurd hcs (hds.append_ne digitValue?_minus)
  · next r hcs => exact absurd hcs (hds.append_ne digitValue?_plus)
  · exact bind_eq_ok.mpr ⟨_, hread, bind_eq_ok.mpr ⟨_, rfl, readYear_bounds hmin hmax⟩⟩

/-- **A year is read back** from its digits and its sign, up to where its digits stop. -/
theorem readYear_yearChars (hmin : minYear ≤ year) (hmax : year ≤ maxYear) (hrest : Stops rest) :
    readYear (yearChars year ++ rest) = .ok (year, rest) := by
  obtain ⟨n, hn⟩ : ∃ n, n = year.natAbs := ⟨_, rfl⟩
  have hds := allDigits_paddedDigits 4 n
  have hvalue := digitsValue_paddedDigits 4 n
  have hsmall : n ≤ 262143 := by
    unfold minYear at hmin
    unfold maxYear at hmax
    omega
  have hread : readNumber none (paddedDigits 4 n ++ rest) = .ok (n, rest) := by
    rw [readNumber_append hds (by rintro w ⟨⟩) hrest (by omega), hvalue]
  rw [yearChars, ← hn]
  -- A sign says that the digits go on as long as they can; without one there are four.
  by_cases hneg : year < 0
  · obtain rfl : year = -(n : Int) := by omega
    rw [if_pos hneg]
    exact readYear_minus hmin hmax hread
  · obtain rfl : year = n := by omega
    rw [if_neg hneg]
    by_cases hlong : 9999 < (n : Int)
    · rw [if_pos hlong]
      exact readYear_plus hmin hmax hread
    · have hlength : (paddedDigits 4 n).length = 4 := length_paddedDigits 3 (by omega)
      have hfour : readNumber (some 4) (paddedDigits 4 n ++ rest) = .ok (n, rest) := by
        rw [readNumber_append hds (by rintro w ⟨⟩; exact hlength.le) hrest (by omega), hvalue]
      rw [if_neg hlong]
      exact readYear_unsigned hmin hmax hds hfour

end Years

/-! ## Fractions -/

/-- A fraction in its places is read back, up to its end. -/
theorem readFraction_places (places : Nat) {n : Nat} (hplaces : places < 9)
    (hn : n < 10 ^ (places + 1)) :
    readFraction ('.' :: paddedDigits (places + 1) n) =
      .ok (n * 10 ^ (9 - (places + 1)), []) := by
  have hlength : (paddedDigits (places + 1) n).length = places + 1 :=
    length_paddedDigits places hn
  have hpow : 10 ^ (places + 1) ≤ 10 ^ 9 := Nat.pow_le_pow_right (by omega) hplaces
  have hread : readNumber (some 9) (paddedDigits (places + 1) n) = .ok (n, []) := by
    have happend : readNumber (some 9) (paddedDigits (places + 1) n ++ []) =
        .ok (digitsValue (paddedDigits (places + 1) n), []) :=
      readNumber_append (allDigits_paddedDigits (places + 1) n) (by rintro w ⟨⟩; omega) stops_nil
        (by rw [digitsValue_paddedDigits]; omega)
    rwa [List.append_nil, digitsValue_paddedDigits] at happend
  refine bind_eq_ok.mpr ⟨_, hread, ?_⟩
  dsimp only
  rw [hlength]
  rfl

/-- **A fraction of a second is read back**, whatever number of places it takes. -/
theorem readFraction_fractionChars {nano : Nat} (h : nano < 1000000000) :
    readFraction (fractionChars nano) = .ok (nano, []) := by
  unfold fractionChars
  -- No places, three, six or nine: as few of these as tell the fraction.
  by_cases hzero : nano = 0
  · rw [if_pos hzero, hzero]
    rfl
  rw [if_neg hzero]
  by_cases hthree : nano % 1000000 = 0
  · rw [if_pos hthree, readFraction_places 2 (by omega) (by omega)]
    congr 2
    omega
  rw [if_neg hthree]
  by_cases hsix : nano % 1000 = 0
  · rw [if_pos hsix, readFraction_places 5 (by omega) (by omega)]
    congr 2
    omega
  · rw [if_neg hsix, readFraction_places 8 (by omega) (by omega)]
    congr 2
    omega

theorem stops_fractionChars (nano : Nat) : Stops (fractionChars nano) := by
  unfold fractionChars
  split
  · exact stops_nil
  · split
    · exact stops_cons rfl _
    · split
      · exact stops_cons rfl _
      · exact stops_cons rfl _

/-! ## No blanks -/

theorem not_isBlank_paddedDigits (width n : Nat) : ∀ c ∈ paddedDigits width n, isBlank c = false :=
  fun c hc => not_isBlank_of_digit ((allDigits_paddedDigits width n).2 c hc)

theorem not_isBlank_yearChars (year : Int) : ∀ c ∈ yearChars year, isBlank c = false := by
  have hdigits := not_isBlank_paddedDigits 4 year.natAbs
  unfold yearChars
  split
  · exact List.forall_mem_cons.mpr ⟨rfl, hdigits⟩
  · split
    · exact List.forall_mem_cons.mpr ⟨rfl, hdigits⟩
    · exact hdigits

theorem not_isBlank_fractionChars (nano : Nat) : ∀ c ∈ fractionChars nano, isBlank c = false := by
  unfold fractionChars
  split
  · exact nofun
  · split
    · exact List.forall_mem_cons.mpr ⟨rfl, not_isBlank_paddedDigits _ _⟩
    · split
      · exact List.forall_mem_cons.mpr ⟨rfl, not_isBlank_paddedDigits _ _⟩
      · exact List.forall_mem_cons.mpr ⟨rfl, not_isBlank_paddedDigits _ _⟩

theorem yearChars_ne_nil (year : Int) : yearChars year ≠ [] := by
  have hdigits := (allDigits_paddedDigits 4 year.natAbs).1
  unfold yearChars
  split
  · exact List.cons_ne_nil _ _
  · split
    · exact List.cons_ne_nil _ _
    · exact hdigits

/-! ## Points in time -/

theorem readLiteral_cons (c : Char) (cs : List Char) : readLiteral c (c :: cs) = .ok ((), cs) :=
  if_pos rfl

/-- One blank before digits is a separator. -/
theorem blanks_read_digits (hds : AllDigits ds) (rest : List Char) :
    Separator.read .blanks (' ' :: (ds ++ rest)) = .ok ((), ds ++ rest) := by
  have hblank : trimBlankStart (' ' :: (ds ++ rest)) = trimBlankStart (ds ++ rest) :=
    List.dropWhile_cons_of_pos rfl
  rw [Separator.read, hblank, trimBlankStart_digits hds]

namespace DateTime

/-- The second that the text of a point in time tells. -/
def shownSecond (t : DateTime) : Nat := if 1000000000 ≤ t.nano then t.second + 1 else t.second

/-- The fraction that the text of a point in time tells. -/
def shownNano (t : DateTime) : Nat := if 1000000000 ≤ t.nano then t.nano - 1000000000 else t.nano

variable (t : DateTime)

theorem shown_bounds : t.shownSecond ≤ 60 ∧ t.shownNano < 1000000000 := by
  obtain ⟨-, -, hsecond, hnano⟩ := t.isTime
  unfold shownSecond shownNano
  split
  all_goals omega

/-- The second 60 tells the leap second after the second 59. -/
theorem shown_leap : (if t.shownSecond = 60 then 59 else t.shownSecond) = t.second ∧
    (if t.shownSecond = 60 then t.shownNano + 1000000000 else t.shownNano) = t.nano := by
  obtain ⟨-, -, hsecond, hnano⟩ := t.isTime
  unfold shownSecond shownNano
  by_cases hleap : 1000000000 ≤ t.nano
  · have hlast : t.second + 1 = 60 := by omega
    rw [if_pos hleap, if_pos hlast, if_pos hleap, if_pos hlast]
    omega
  · have hlast : t.second ≠ 60 := by omega
    rw [if_neg hleap, if_neg hlast, if_neg hleap, if_neg hlast]
    exact ⟨rfl, rfl⟩

theorem chars_eq (separator : Char) : t.chars separator =
    yearChars t.year ++ '-' :: (paddedDigits 2 t.month ++ '-' :: (paddedDigits 2 t.day ++
      separator :: (paddedDigits 2 t.hour ++ ':' :: (paddedDigits 2 t.minute ++
        ':' :: (paddedDigits 2 t.shownSecond ++ fractionChars t.shownNano))))) := by
  unfold shownSecond shownNano
  simp only [chars, List.append_assoc, List.cons_append]

/-- **A point in time is read back from its text**, leap seconds included. -/
theorem readChars_chars : readChars .blanks false (t.chars ' ') = .ok t := by
  obtain ⟨hmin, hmax, hmonth, hmonth', hday, hday'⟩ := t.isDate
  have hlong := (daysInMonth_le t.year t.month).1
  obtain ⟨hhour, hminute, -⟩ := t.isTime
  obtain ⟨hsecond, hnano⟩ := t.shown_bounds
  obtain ⟨hsecond', hnano'⟩ := t.shown_leap
  rw [chars_eq]
  -- The fields in their order, each read up to the character that follows it.
  refine bind_eq_ok.mpr ⟨_, readYear_yearChars hmin hmax (stops_cons rfl _), ?_⟩
  refine bind_eq_ok.mpr ⟨_, readLiteral_cons '-' _, ?_⟩
  refine bind_eq_ok.mpr ⟨_, readField_paddedDigits hmonth hmonth' (by omega) (stops_cons rfl _), ?_⟩
  refine bind_eq_ok.mpr ⟨_, readLiteral_cons '-' _, ?_⟩
  refine bind_eq_ok.mpr ⟨_, readField_paddedDigits hday (by omega) (by omega)
    (stops_cons rfl _), ?_⟩
  refine bind_eq_ok.mpr ⟨_, blanks_read_digits (allDigits_paddedDigits 2 t.hour) _, ?_⟩
  refine bind_eq_ok.mpr ⟨_, readField_paddedDigits (by omega) (by omega) (by omega)
    (stops_cons rfl _), ?_⟩
  refine bind_eq_ok.mpr ⟨_, readLiteral_cons ':' _, ?_⟩
  refine bind_eq_ok.mpr ⟨_, readField_paddedDigits (by omega) (by omega) (by omega)
    (stops_cons rfl _), ?_⟩
  refine bind_eq_ok.mpr ⟨_, readLiteral_cons ':' _, ?_⟩
  refine bind_eq_ok.mpr ⟨_, readField_paddedDigits (by omega) hsecond (by omega)
    (stops_fractionChars _), ?_⟩
  refine bind_eq_ok.mpr ⟨_, readFraction_fractionChars hnano, ?_⟩
  -- All of the text has matched.
  have hdone : (skipBlanks false []).isEmpty = true := rfl
  dsimp only
  rw [if_pos hdone, hsecond', hnano', ofFields?_eq t.isDate t.isTime]

/-- The first of the two formats that are tried takes the text. -/
theorem ofText_chars : ofText (t.chars ' ') = .ok t := by
  rw [ofText, readChars_chars]

/-- The text of a point in time has blanks in its middle only. -/
theorem bare_chars (separator : Char) : Bare (t.chars separator) := by
  have hmiddle : ∃ m, t.chars separator =
      yearChars t.year ++ (m ++ (paddedDigits 2 t.shownSecond ++ fractionChars t.shownNano)) := by
    refine ⟨'-' :: (paddedDigits 2 t.month ++ '-' :: (paddedDigits 2 t.day ++
      separator :: (paddedDigits 2 t.hour ++ ':' :: (paddedDigits 2 t.minute ++ [':'])))), ?_⟩
    rw [chars_eq]
    simp only [List.cons_append, List.append_assoc, List.nil_append]
  obtain ⟨m, hm⟩ := hmiddle
  have hend : paddedDigits 2 t.shownSecond ++ fractionChars t.shownNano ≠ [] := fun h =>
    (allDigits_paddedDigits 2 t.shownSecond).1 (List.append_eq_nil_iff.mp h).1
  rw [hm]
  refine bare_append (yearChars_ne_nil _) (not_isBlank_yearChars _) hend fun c hc => ?_
  rcases List.mem_append.mp hc with hc | hc
  · exact not_isBlank_paddedDigits 2 t.shownSecond c hc
  · exact not_isBlank_fractionChars t.shownNano c hc

end DateTime

end Calendar

end EntityMapper

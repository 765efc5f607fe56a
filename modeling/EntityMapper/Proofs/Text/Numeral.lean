import EntityMapper.Proofs.Text.Blank
import EntityMapper.Proofs.Text.Integer

/-!
# Numerals

A whole number is read from digits after an optional sign, whatever number of digits there is; it
is read exactly when it keeps the bounds. Every number is read back from its own text.

## Main definitions

* `AllDigits cs`: the text consists of decimal digits, one at least
* `digitsFrom n cs`: the number that digits after those of `n` denote
* `Numeral cs z`: the text is a numeral of the number

## Main results

* `readInteger_eq_ok_iff`: a number is read from its numerals, if it keeps the bounds
* `Numeral.unique`: a text is a numeral of one number only
* `numeral_integerChars`: the text of a number is a numeral of it
-/

namespace EntityMapper.Text

/-! ## Digits -/

/-- **The text consists of decimal digits**, one at least. -/
def AllDigits (cs : List Char) : Prop := cs ≠ [] ∧ ∀ c ∈ cs, (digitValue? c).isSome = true

/-- The number that digits denote after those of a number. -/
def digitsFrom (n : Nat) (cs : List Char) : Nat := cs.foldl (fun n c => n * 10 + (c.toNat - 48)) n

theorem digitsFrom_cons (n : Nat) (c : Char) (cs : List Char) :
    digitsFrom n (c :: cs) = digitsFrom (n * 10 + (c.toNat - 48)) cs := by
  unfold digitsFrom
  rw [List.foldl_cons]

/-- More digits denote no smaller number. -/
theorem le_digitsFrom (n : Nat) (cs : List Char) : n ≤ digitsFrom n cs := by
  induction cs generalizing n with
  | nil => exact le_refl n
  | cons c cs ih =>
    have hstep := ih (n * 10 + (c.toNat - 48))
    rw [digitsFrom_cons]
    omega

theorem digitValue?_eq_some {c : Char} {d : Nat} (h : digitValue? c = some d) :
    d = c.toNat - 48 := by
  unfold digitValue? at h
  split at h
  · exact (Option.some.inj h).symm
  · cases h

/-- Digits begin with no sign, nor with anything else that is no digit. -/
theorem not_allDigits_cons {c : Char} (hc : digitValue? c = none) (cs : List Char) :
    ¬ AllDigits (c :: cs) := by
  rintro ⟨-, h⟩
  simpa [hc] using h c (List.mem_cons_self ..)

theorem toNat_of_digit {c : Char} (h : (digitValue? c).isSome = true) :
    48 ≤ c.toNat ∧ c.toNat ≤ 57 := by
  by_contra hc
  rw [digitValue?, if_neg (by simpa using hc)] at h
  cases h

theorem not_isBlank_of_digit {c : Char} (h : (digitValue? c).isSome = true) :
    isBlank c = false := by
  have hc := toNat_of_digit h
  simp only [isBlank, Bool.or_eq_false_iff, Bool.and_eq_false_iff, decide_eq_false_iff_not,
    beq_eq_false_iff_ne]
  omega

theorem decimalDigits_ne_nil (n : Nat) : decimalDigits n ≠ [] := by
  rw [decimalDigits]
  split <;> simp

theorem allDigits_decimalDigits (n : Nat) : AllDigits (decimalDigits n) :=
  ⟨decimalDigits_ne_nil n, isSome_of_mem_decimalDigits⟩

/-! ## Reading digits -/

variable {lo hi z : Int} {n : Nat} {cs : List Char}

/-- **Digits are read upwards** unless the number that they denote is too large. -/
theorem readDigitsUp_eq_ok_iff (hn : (n : Int) ≤ hi) :
    readDigitsUp hi n cs = .ok z ↔
      (∀ c ∈ cs, (digitValue? c).isSome = true) ∧ z = digitsFrom n cs ∧ z ≤ hi := by
  induction cs generalizing n with
  | nil =>
    simp only [readDigitsUp, digitsFrom, List.foldl_nil, Except.ok.injEq]
    constructor
    · rintro rfl
      exact ⟨nofun, rfl, hn⟩
    · rintro ⟨-, rfl, -⟩
      rfl
  | cons c cs ih =>
    rw [readDigitsUp]
    cases hc : digitValue? c with
    | none => simp [hc]
    | some d =>
      obtain rfl := digitValue?_eq_some hc
      have hle := le_digitsFrom (n * 10 + (c.toNat - 48)) cs
      simp only [digitsFrom_cons, List.forall_mem_cons, hc, Option.isSome_some, true_and]
      split
      · next h => exact_mod_cast ih (n := n * 10 + (c.toNat - 48)) (by omega)
      · next h =>
        -- The number is too large already, and further digits make it no smaller.
        refine iff_of_false nofun ?_
        rintro ⟨-, rfl, hz⟩
        omega

/-- **Digits are read downwards** unless the number that they denote is too small. -/
theorem readDigitsDown_eq_ok_iff (hn : lo ≤ -(n : Int)) :
    readDigitsDown lo (-(n : Int)) cs = .ok z ↔
      (∀ c ∈ cs, (digitValue? c).isSome = true) ∧ z = -(digitsFrom n cs : Int) ∧ lo ≤ z := by
  induction cs generalizing n with
  | nil =>
    simp only [readDigitsDown, digitsFrom, List.foldl_nil, Except.ok.injEq]
    constructor
    · rintro rfl
      exact ⟨nofun, rfl, hn⟩
    · rintro ⟨-, rfl, -⟩
      rfl
  | cons c cs ih =>
    rw [readDigitsDown]
    cases hc : digitValue? c with
    | none => simp [hc]
    | some d =>
      obtain rfl := digitValue?_eq_some hc
      have hle := le_digitsFrom (n * 10 + (c.toNat - 48)) cs
      have hstep : -(n : Int) * 10 - ((c.toNat - 48 : Nat) : Int) =
          -((n * 10 + (c.toNat - 48) : Nat) : Int) := by omega
      simp only [digitsFrom_cons, List.forall_mem_cons, hc, Option.isSome_some, true_and, hstep]
      split
      · next h => exact ih h
      · next h =>
        -- It is too small already, and further digits make it no larger.
        refine iff_of_false nofun ?_
        rintro ⟨-, rfl, hz⟩
        omega

/-- From zero upwards no number gets below zero. -/
theorem readDigitsUp_zero (hlo : lo ≤ 0) (hhi : 0 ≤ hi) (hcs : cs ≠ []) :
    readDigitsUp hi 0 cs = .ok z ↔
      (AllDigits cs ∧ z = digitsValue cs) ∧ lo ≤ z ∧ z ≤ hi := by
  have hread : readDigitsUp hi 0 cs = .ok z ↔
      (∀ c ∈ cs, (digitValue? c).isSome = true) ∧ z = digitsValue cs ∧ z ≤ hi :=
    readDigitsUp_eq_ok_iff (n := 0) hhi
  rw [hread, AllDigits, and_iff_right hcs]
  constructor
  · rintro ⟨h, rfl, hz⟩
    exact ⟨⟨h, rfl⟩, by omega, hz⟩
  · rintro ⟨⟨h, rfl⟩, -, hz⟩
    exact ⟨h, rfl, hz⟩

/-- From zero downwards no number gets above zero. -/
theorem readDigitsDown_zero (hlo : lo ≤ 0) (hhi : 0 ≤ hi) (hcs : cs ≠ []) :
    readDigitsDown lo 0 cs = .ok z ↔
      (AllDigits cs ∧ z = -(digitsValue cs : Int)) ∧ lo ≤ z ∧ z ≤ hi := by
  have hread : readDigitsDown lo 0 cs = .ok z ↔
      (∀ c ∈ cs, (digitValue? c).isSome = true) ∧ z = -(digitsValue cs : Int) ∧ lo ≤ z :=
    readDigitsDown_eq_ok_iff (n := 0) hlo
  rw [hread, AllDigits, and_iff_right hcs]
  constructor
  · rintro ⟨h, rfl, hz⟩
    exact ⟨⟨h, rfl⟩, hz, by omega⟩
  · rintro ⟨⟨h, rfl⟩, hz, -⟩
    exact ⟨h, rfl, hz⟩

/-! ## Numerals -/

/-- **The text is a numeral of the number**: decimal digits, after a sign if there is one. -/
inductive Numeral : List Char → Int → Prop where
  | unsigned {ds : List Char} (h : AllDigits ds) : Numeral ds (digitsValue ds)
  | plus {ds : List Char} (h : AllDigits ds) : Numeral ('+' :: ds) (digitsValue ds)
  | minus {ds : List Char} (h : AllDigits ds) : Numeral ('-' :: ds) (-(digitsValue ds : Int))

theorem digitValue?_plus : digitValue? '+' = none := rfl

theorem digitValue?_minus : digitValue? '-' = none := rfl

theorem numeral_plus_iff {ds : List Char} :
    Numeral ('+' :: ds) z ↔ AllDigits ds ∧ z = digitsValue ds := by
  constructor
  · intro h
    cases h with
    | unsigned h => exact absurd h (not_allDigits_cons digitValue?_plus ds)
    | plus h => exact ⟨h, rfl⟩
  · rintro ⟨h, rfl⟩
    exact .plus h

theorem numeral_minus_iff {ds : List Char} :
    Numeral ('-' :: ds) z ↔ AllDigits ds ∧ z = -(digitsValue ds : Int) := by
  constructor
  · intro h
    cases h with
    | unsigned h => exact absurd h (not_allDigits_cons digitValue?_minus ds)
    | minus h => exact ⟨h, rfl⟩
  · rintro ⟨h, rfl⟩
    exact .minus h

theorem numeral_iff_of_unsigned {ds : List Char} (hplus : ∀ es, ds ≠ '+' :: es)
    (hminus : ∀ es, ds ≠ '-' :: es) : Numeral ds z ↔ AllDigits ds ∧ z = digitsValue ds := by
  constructor
  · intro h
    cases h with
    | unsigned h => exact ⟨h, rfl⟩
    | plus h => exact absurd rfl (hplus _)
    | minus h => exact absurd rfl (hminus _)
  · rintro ⟨h, rfl⟩
    exact .unsigned h

/-- **A number is read from its numerals**, however long they are, exactly if it keeps the
bounds. -/
theorem readInteger_eq_ok_iff (hlo : lo ≤ 0) (hhi : 0 ≤ hi) :
    readInteger lo hi cs = .ok z ↔ Numeral cs z ∧ lo ≤ z ∧ z ≤ hi := by
  fun_cases readInteger lo hi cs with
  -- No text at all, and a sign alone, are no numerals.
  | case1 =>
    refine iff_of_false nofun ?_
    rintro ⟨h, -⟩
    cases h with
    | unsigned h => exact h.1 rfl
  | case2 =>
    refine iff_of_false nofun ?_
    rintro ⟨h, -⟩
    exact (numeral_plus_iff.mp h).1.1 rfl
  | case3 =>
    refine iff_of_false nofun ?_
    rintro ⟨h, -⟩
    exact (numeral_minus_iff.mp h).1.1 rfl
  | case4 ds hds => rw [readDigitsUp_zero hlo hhi hds, numeral_plus_iff]
  | case5 ds hds => rw [readDigitsDown_zero hlo hhi hds, numeral_minus_iff]
  | case6 cs hnil _ _ hplus hminus =>
    rw [readDigitsUp_zero hlo hhi hnil, numeral_iff_of_unsigned hplus hminus]

/-- A text is a numeral of one number only. -/
theorem Numeral.unique {z' : Int} (h : Numeral cs z) (h' : Numeral cs z') : z = z' := by
  -- Between bounds that are wide enough, the text is read as either number.
  have hlo : min 0 (min z z') ≤ 0 := min_le_left ..
  have hhi : 0 ≤ max 0 (max z z') := le_max_left ..
  have hz := (readInteger_eq_ok_iff hlo hhi).mpr ⟨h, by omega, by omega⟩
  have hz' := (readInteger_eq_ok_iff hlo hhi).mpr ⟨h', by omega, by omega⟩
  exact Except.ok.inj (hz.symm.trans hz')

/-- There are no blanks in a numeral. -/
theorem Numeral.bare (h : Numeral cs z) : Bare cs := by
  have hdigits {ds : List Char} (hds : AllDigits ds) : ∀ c ∈ ds, isBlank c = false :=
    fun c hc => not_isBlank_of_digit (hds.2 c hc)
  apply bare_of_forall
  cases h with
  | unsigned hds => exact hdigits hds
  | plus hds => exact List.forall_mem_cons.mpr ⟨rfl, hdigits hds⟩
  | minus hds => exact List.forall_mem_cons.mpr ⟨rfl, hdigits hds⟩

/-- **The text of a number is a numeral of it.** -/
theorem numeral_integerChars (z : Int) : Numeral (integerChars z) z := by
  have hdigits := allDigits_decimalDigits z.natAbs
  have hvalue := digitsValue_decimalDigits z.natAbs
  unfold integerChars
  split
  · next hz => exact numeral_minus_iff.mpr ⟨hdigits, by omega⟩
  · next hz =>
    have hsigned : (digitsValue (decimalDigits z.natAbs) : Int) = z := by omega
    have hnumeral := Numeral.unsigned hdigits
    rwa [hsigned] at hnumeral

end EntityMapper.Text

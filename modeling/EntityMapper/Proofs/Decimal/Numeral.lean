import EntityMapper.Decimal.Reader
import EntityMapper.Proofs.Decimal.Widening
import EntityMapper.Proofs.Text.Numeral

/-!
# Numerals as floating-point text

A numeral is a decimal without point and exponent. As floating-point text it denotes the number
nearest to its integer, with the sign that is written: of zero there are two.

## Main definitions

* `NegativeZero cs`: the text is a numeral of zero with a minus sign

## Main results

* `ofText_of_numeral`: the number that a numeral denotes
* `ofRatio_sign`: except for a negative zero, it is the number nearest to the integer
-/

namespace EntityMapper.Decimal

open EntityMapper.Text

/-- **The text is a numeral of zero with a minus sign.** -/
def NegativeZero (cs : List Char) : Prop := cs.head? = some '-' ∧ Numeral cs 0

variable {f : Format} {negative : Bool} {cs ds : List Char} {z : Int}

/-! ## Digits -/

/-- Digits denote the same number, in whichever way they are read. -/
theorem digitsValue_eq (h : ∀ c ∈ ds, (digitValue? c).isSome = true) :
    digitsValue ds = Text.digitsValue ds := by
  have hfold : ∀ (n : Nat), (∀ c ∈ ds, (digitValue? c).isSome = true) →
      ds.foldl (fun n c => 10 * n + (digitValue? c).getD 0) n = digitsFrom n ds := by
    clear h
    induction ds with
    | nil => exact fun n _ => rfl
    | cons c ds ih =>
      intro n h
      obtain ⟨hc, hds⟩ := List.forall_mem_cons.mp h
      obtain ⟨d, hd⟩ := Option.isSome_iff_exists.mp hc
      have hstep : 10 * n + (digitValue? c).getD 0 = n * 10 + (c.toNat - 48) := by
        rw [hd, ← digitValue?_eq_some hd, Option.getD_some, Nat.mul_comm]
      rw [digitsFrom_cons, List.foldl_cons, hstep]
      exact ih _ hds
  exact hfold 0 h

/-- **Digits alone are a decimal** without point and exponent. -/
theorem readDecimal?_of_allDigits (h : AllDigits ds) :
    readDecimal? negative ds = some ⟨negative, Text.digitsValue ds, 0⟩ := by
  have hwhole : ds.takeWhile isDigit = ds := List.takeWhile_eq_self_iff.mpr h.2
  have hrest : ds.dropWhile isDigit = [] := List.dropWhile_eq_nil_iff.mpr h.2
  have hempty : ds.isEmpty = false := by simpa using h.1
  simp [readDecimal?, hwhole, hrest, hempty, digitsValue_eq h.2]

/-- A digit is no letter, and has no other case. -/
theorem asciiLower_of_digit {c : Char} (h : (digitValue? c).isSome = true) :
    asciiLower c = c := by
  have hc := toNat_of_digit h
  have hupper : isAsciiUpper c = false := by
    simp only [isAsciiUpper, Bool.and_eq_false_iff, decide_eq_false_iff_not]
    omega
  simp [asciiLower, hupper]

/-- Digits are no word that begins with something else. -/
theorem lower_ne_of_allDigits (h : AllDigits ds) {c : Char} (hc : digitValue? c = none)
    (cs : List Char) : String.ofList (ds.map asciiLower) ≠ String.ofList (c :: cs) := by
  have hlower : ds.map asciiLower = ds := by
    simpa using List.map_congr_left (g := id) fun d hd => asciiLower_of_digit (h.2 d hd)
  rw [hlower]
  intro heq
  exact not_allDigits_cons hc cs (String.ofList_injective heq ▸ h)

/-- Digits are read as a decimal, as they spell no word for a number. -/
theorem readUnsigned?_of_allDigits (h : AllDigits ds) :
    readUnsigned? f negative ds =
      some (DecimalText.toBinary f ⟨negative, Text.digitsValue ds, 0⟩) := by
  have hword {c : Char} (hc : digitValue? c = none) (cs : List Char) :
      (String.ofList (ds.map asciiLower) == String.ofList (c :: cs)) = false :=
    beq_eq_false_iff_ne.mpr (lower_ne_of_allDigits h hc cs)
  have hinf := hword (c := 'i') rfl ['n', 'f']
  have hinfinity := hword (c := 'i') rfl ['n', 'f', 'i', 'n', 'i', 't', 'y']
  have hnan := hword (c := 'n') rfl ['a', 'n']
  simp only [readUnsigned?, readDecimal?_of_allDigits h, Option.map_some]
  rw [if_neg, if_neg]
  · exact ne_true_of_eq_false hnan
  · rw [Bool.or_eq_true, not_or]
    exact ⟨ne_true_of_eq_false hinf, ne_true_of_eq_false hinfinity⟩

/-- A whole number that is not too long is rounded as it is. -/
theorem toBinary_whole {n : Nat} (h : (decimalDigits n).length ≤ 2 ^ f.exponentBits) :
    DecimalText.toBinary f ⟨negative, n, 0⟩ = Binary.ofRatio f negative n 1 := by
  have hreach : ((decimalDigits n).length : Int) ≤ (Nat.pow 2 f.exponentBits : Nat) :=
    Int.ofNat_le.mpr h
  simp only [DecimalText.toBinary, zero_add]
  by_cases hn : n = 0
  · rw [if_pos hn, hn]
    rfl
  · rw [if_neg hn, if_neg (by omega), if_neg (by omega), if_neg (by omega)]
    simp

/-! ## Numerals -/

/-- **The number that a numeral denotes**, with the sign that is written. -/
theorem ofText_of_numeral (h : Numeral cs z)
    (hlength : (decimalDigits z.natAbs).length ≤ 2 ^ f.exponentBits) :
    Binary.ofText f cs = .ok (Binary.ofRatio f (cs.head? = some '-') z.natAbs 1) := by
  have hread (s : Bool) {ds : List Char} (hds : AllDigits ds)
      (hz : z.natAbs = Text.digitsValue ds) :
      readUnsigned? f s ds = some (Binary.ofRatio f s z.natAbs 1) := by
    rw [readUnsigned?_of_allDigits hds, ← hz, toBinary_whole hlength]
  cases h with
  | unsigned hds =>
    obtain ⟨c, ds, rfl⟩ := List.exists_cons_of_ne_nil hds.1
    have hplus : c ≠ '+' := by
      rintro rfl
      exact not_allDigits_cons digitValue?_plus ds hds
    have hminus : c ≠ '-' := by
      rintro rfl
      exact not_allDigits_cons digitValue?_minus ds hds
    simp [Binary.ofText, hplus, hminus, hread false hds (by simp)]
  | plus hds => simp [Binary.ofText, hread false hds (by simp)]
  | minus hds => simp [Binary.ofText, hread true hds (by simp)]

/-- **The sign that is written is that of the integer**, unless this is zero. -/
theorem ofRatio_sign (h : Numeral cs z) (hz : ¬ NegativeZero cs) :
    Binary.ofRatio f (cs.head? = some '-') z.natAbs 1 = Binary.ofInt f z := by
  have hsign : cs.head? = some '-' ↔ z < 0 := by
    cases h with
    | unsigned hds =>
      refine iff_of_false (fun hminus => ?_) (by omega)
      obtain ⟨ds, rfl⟩ := List.head?_eq_some_iff.mp hminus
      exact not_allDigits_cons digitValue?_minus ds hds
    | plus hds => exact iff_of_false (by simp) (by omega)
    | @minus ds hds =>
      refine iff_of_true rfl ?_
      by_contra hzero
      have hvalue : -(Text.digitsValue ds : Int) = 0 := by omega
      exact hz ⟨rfl, hvalue ▸ .minus hds⟩
  simp only [Binary.ofInt, hsign]

/-- Zero with a minus sign is the negative zero. -/
theorem ofText_of_negativeZero (h : NegativeZero cs) :
    Binary.ofText f cs = .ok (Binary.ofParts f true 0) := by
  have hlength : (decimalDigits (0 : Int).natAbs).length ≤ 2 ^ f.exponentBits := by
    rw [Int.natAbs_zero, decimalDigits, if_pos (by omega)]
    exact Nat.one_le_two_pow
  rw [ofText_of_numeral h.2 hlength, decide_eq_true h.1]
  rfl

end EntityMapper.Decimal

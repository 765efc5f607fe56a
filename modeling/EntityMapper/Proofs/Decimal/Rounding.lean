import EntityMapper.Decimal.Binary
import Mathlib.Algebra.Order.Field.Power
import Mathlib.Data.Int.Log
import Mathlib.Data.Rat.Floor
import Mathlib.Tactic.FieldSimp

/-!
# Rounding numbers that need none

A ratio that is a number of the format rounds to this number. The significand and the exponent of
a number are unique once the significand is as long as the format allows, which is what being
canonical says.

## Main definitions

* `Canonical f m q`: `m · 2 ^ q` is a number of the format, and the significand is at full length
  where it can be
* `numberOf f m q`: the place of `m · 2 ^ q` among the numbers of the format

## Main results

* `scaleRatio_eq`, `leadingExponent_eq`: the ratio that is scaled, and the exponent that leads it
* `roundMagnitude_eq`: a ratio that is a number of the format rounds to this number
-/

namespace EntityMapper.Decimal.Binary

variable {f : Format} {num den m : Nat} {e q : Int}

/-- **A significand and an exponent that the format has.** -/
structure Canonical (f : Format) (m : Nat) (q : Int) : Prop where
  minExponent_le : f.minExponent ≤ q
  lt : m < 2 ^ (f.fractionBits + 1)
  full : q = f.minExponent ∨ 2 ^ f.fractionBits ≤ m

/-- The place of `m · 2 ^ q` among the numbers of the format. -/
def numberOf (f : Format) (m : Nat) (q : Int) : Nat :=
  (q - f.minExponent).toNat * 2 ^ f.fractionBits + m

/-- A scaled ratio keeps a positive denominator. -/
theorem scaleRatio_pos (num : Nat) (h : 0 < den) (e : Int) : 0 < (scaleRatio num den e).2 := by
  unfold scaleRatio
  split
  · exact h
  · exact Nat.mul_pos h (Nat.two_pow_pos _)

/-- **The ratio that is scaled.** -/
theorem scaleRatio_eq (num den : Nat) (e : Int) :
    ((scaleRatio num den e).1 : ℚ) / (scaleRatio num den e).2 = num / den * 2 ^ (-e) := by
  unfold scaleRatio
  split
  · next h =>
    obtain ⟨k, rfl⟩ : ∃ k : Nat, e = -k := ⟨e.natAbs, by omega⟩
    simp [mul_div_right_comm]
  · next h =>
    obtain ⟨k, rfl⟩ : ∃ k : Nat, e = k := ⟨e.natAbs, by omega⟩
    simp [div_eq_mul_inv, mul_assoc, mul_comm]

/-- Dividing by a power of two moves the exponent. -/
theorem log_scale {x : ℚ} (hx : 0 < x) (e : Int) : 1 ≤ x * 2 ^ (-e) ↔ e ≤ Int.log 2 x := by
  rw [← Int.zpow_le_iff_le_log one_lt_two hx, zpow_neg, ← div_eq_mul_inv,
    one_le_div (zpow_pos two_pos e)]
  simp

/-- A ratio is about as large as the number of binary digits tells. -/
theorem log_ratio_bounds (hn : 0 < num) (hd : 0 < den) :
    (num.log2 : Int) - den.log2 - 1 ≤ Int.log 2 ((num : ℚ) / den) ∧
      Int.log 2 ((num : ℚ) / den) < (num.log2 : Int) - den.log2 + 1 := by
  have hx : (0 : ℚ) < num / den := by positivity
  have hd' : (0 : ℚ) < den := by exact_mod_cast hd
  have hn₁ : (2 : ℚ) ^ num.log2 ≤ num := by exact_mod_cast Nat.log2_self_le hn.ne'
  have hn₂ : (num : ℚ) < 2 ^ (num.log2 + 1) := by exact_mod_cast Nat.lt_log2_self
  have hd₁ : (2 : ℚ) ^ den.log2 ≤ den := by exact_mod_cast Nat.log2_self_le hd.ne'
  have hd₂ : (den : ℚ) ≤ 2 ^ (den.log2 + 1) := by exact_mod_cast Nat.lt_log2_self.le
  refine ⟨?_, ?_⟩
  · rw [← Int.zpow_le_iff_le_log one_lt_two hx, le_div_iff₀ hd']
    calc (2 : ℚ) ^ ((num.log2 : Int) - den.log2 - 1) * den
        ≤ 2 ^ ((num.log2 : Int) - den.log2 - 1) * 2 ^ (den.log2 + 1) := by gcongr
      _ = 2 ^ num.log2 := by
        rw [← zpow_natCast, ← zpow_natCast, ← zpow_add₀ two_ne_zero]
        congr 1
        push_cast
        omega
      _ ≤ num := hn₁
  · rw [← Int.lt_zpow_iff_log_lt one_lt_two hx, div_lt_iff₀ hd']
    calc (num : ℚ) < 2 ^ (num.log2 + 1) := hn₂
      _ = 2 ^ ((num.log2 : Int) - den.log2 + 1) * 2 ^ den.log2 := by
        rw [← zpow_natCast, ← zpow_natCast, ← zpow_add₀ two_ne_zero]
        congr 1
        push_cast
        omega
      _ ≤ 2 ^ ((num.log2 : Int) - den.log2 + 1) * den := by gcongr

/-- **The exponent that leads a ratio.** -/
theorem leadingExponent_eq (hn : 0 < num) (hd : 0 < den) :
    leadingExponent num den = Int.log 2 ((num : ℚ) / den) := by
  have hx : (0 : ℚ) < num / den := by positivity
  obtain ⟨hlo, hhi⟩ := log_ratio_bounds hn hd
  have hscaled := scaleRatio_eq num den ((num.log2 : Int) - den.log2)
  have hpos := scaleRatio_pos num hd ((num.log2 : Int) - den.log2)
  have hle := log_scale hx ((num.log2 : Int) - den.log2)
  rw [← hscaled, one_le_div (by exact_mod_cast hpos), Nat.cast_le] at hle
  unfold leadingExponent
  dsimp only
  split
  · next h => exact le_antisymm (hle.mp h) (by omega)
  · next h => exact le_antisymm (by omega) (by have := mt hle.mpr h; omega)

/-- A whole quotient is rounded to itself. -/
theorem roundQuotient_mul (m : Nat) {d : Nat} (h : 0 < d) : roundQuotient (m * d) d = m := by
  simp [roundQuotient, h]

/-- The exponent that leads a number of the format. -/
theorem log_canonical (hm : 0 < m) (q : Int) : Int.log 2 ((m : ℚ) * 2 ^ q) = m.log2 + q := by
  have hx : (0 : ℚ) < m * 2 ^ q := by positivity
  have h₁ : (2 : ℚ) ^ m.log2 ≤ m := by exact_mod_cast Nat.log2_self_le hm.ne'
  have h₂ : (m : ℚ) < 2 ^ (m.log2 + 1) := by exact_mod_cast Nat.lt_log2_self
  refine le_antisymm ?_ ?_
  · rw [← Int.lt_add_one_iff, ← Int.lt_zpow_iff_log_lt one_lt_two hx, add_right_comm,
      Nat.cast_two, zpow_add₀ two_ne_zero]
    gcongr
    exact_mod_cast h₂
  · rw [← Int.zpow_le_iff_le_log one_lt_two hx, Nat.cast_two, zpow_add₀ two_ne_zero]
    gcongr
    exact_mod_cast h₁

/-- A number of the format is rounded at its own exponent. -/
theorem Canonical.exponent_eq (hc : Canonical f m q) (hm : 0 < m) :
    max f.minExponent ((m.log2 : Int) + q - f.fractionBits) = q := by
  have hlt : m.log2 < f.fractionBits + 1 := (Nat.log2_lt hm.ne').mpr hc.lt
  have hle := hc.minExponent_le
  rcases hc.full with h | h
  · omega
  · have : f.fractionBits ≤ m.log2 := (Nat.le_log2 hm.ne').mpr h
    omega

/-- **A ratio that is a number of the format rounds to this number.** -/
theorem roundMagnitude_eq (hc : Canonical f m q) (hd : 0 < den)
    (h : (num : ℚ) / den = m * 2 ^ q) :
    roundMagnitude f num den = min f.infinity (numberOf f m q) := by
  have hd' : (den : ℚ) ≠ 0 := by exact_mod_cast hd.ne'
  rcases Nat.eq_zero_or_pos m with rfl | hm
  · have hn : num = 0 := by simpa [hd'] using h
    have hq : q = f.minExponent := hc.full.resolve_right (by simp)
    simp [roundMagnitude, hn, hq, numberOf]
  · have hn : 0 < num := by
      rcases Nat.eq_zero_or_pos num with rfl | hn
      · rw [Nat.cast_zero, zero_div] at h
        exact absurd h.symm (by positivity)
      · exact hn
    -- At the exponent of the number the scaled ratio is the significand.
    have hs := scaleRatio_eq num den q
    have hpos := scaleRatio_pos num hd q
    have hpos' : ((scaleRatio num den q).2 : ℚ) ≠ 0 := by exact_mod_cast hpos.ne'
    rw [h, mul_assoc, ← zpow_add₀ two_ne_zero, add_neg_cancel, zpow_zero, mul_one,
      div_eq_iff hpos'] at hs
    have hmul : (scaleRatio num den q).1 = m * (scaleRatio num den q).2 := by exact_mod_cast hs
    unfold roundMagnitude
    rw [if_neg hn.ne', leadingExponent_eq hn hd, h, log_canonical hm, hc.exponent_eq hm]
    simp only [hmul, roundQuotient_mul m hpos, numberOf, Nat.pow_eq]

end EntityMapper.Decimal.Binary

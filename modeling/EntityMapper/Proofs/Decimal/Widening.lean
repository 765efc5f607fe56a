import EntityMapper.Proofs.Decimal.Rounding

/-!
# Widening and narrowing numbers

A number of 32 bits is a number of 64 bits, so that converting it to 64 bits and back yields the
same number. What is not a number stays none, and becomes quiet.

## Main definitions

* `Binary.IsNaN x`: the bits denote no number
* `Binary.IsQuiet x`: the bits denote no number, and the leading bit of the fraction is set

## Main results

* `read_of_magnitude_lt`: the bits of a finite number denote a canonical pair
* `Canonical.widen`: a number of 32 bits is a number of 64 bits
* `convert_convert`: a number of 32 bits after a stay in 64 bits
* `convert_convert_convert`: what was narrowed to 32 bits, after a stay in 64 bits
-/

namespace EntityMapper.Decimal.Binary

variable {f : Format} {m m' : Nat} {q q' : Int} {s : Bool}

/-! ## Bits -/

/-- The bits denote no number. -/
def IsNaN (x : Binary f) : Prop := f.infinity < x.magnitude

instance (x : Binary f) : Decidable x.IsNaN := Nat.decLt _ _

/-- Every number equals itself, and nothing else does. -/
theorem ieeeEq_self_iff {x : Binary f} : x.ieeeEq x = true ↔ ¬ x.IsNaN := by
  simp [ieeeEq, IsNaN]

/-- All magnitudes above infinity belong to what is not a number. -/
theorem infinity_add (f : Format) : f.infinity + 2 ^ f.fractionBits = 2 ^ f.magnitudeBits := by
  have h : 1 ≤ 2 ^ f.exponentBits := Nat.one_le_two_pow
  rw [Format.infinity, Format.magnitudeBits, Nat.pow_eq, Nat.pow_eq, ← Nat.succ_mul, Nat.pow_add]
  congr 1
  omega

/-- What is below infinity is a magnitude. -/
theorem lt_of_lt_infinity {k : Nat} (h : k < f.infinity) : k < 2 ^ f.magnitudeBits :=
  h.trans_le (infinity_add f ▸ Nat.le_add_right _ _)

/-- The bits of a number put together from parts. -/
theorem toNat_ofParts {k : Nat} (hk : k < 2 ^ f.magnitudeBits) :
    (ofParts f s k).bits.toNat = (if s then 2 ^ f.magnitudeBits else 0) + k := by
  rw [ofParts, BitVec.toNat_ofNat, Format.width, Nat.pow_succ, Nat.pow_eq]
  refine Nat.mod_eq_of_lt ?_
  split <;> omega

/-- The magnitude of a number put together from parts. -/
theorem magnitude_ofParts {k : Nat} (hk : k < 2 ^ f.magnitudeBits) :
    (ofParts f s k).magnitude = k := by
  rw [magnitude, toNat_ofParts hk]
  cases s <;> simp [Nat.mod_eq_of_lt hk]

/-- The sign of a number put together from parts. -/
theorem negative_ofParts {k : Nat} (hk : k < 2 ^ f.magnitudeBits) :
    (ofParts f s k).negative = s := by
  rw [negative, toNat_ofParts hk]
  cases s <;> simp [hk]

/-- **A number is put together from its sign and its magnitude.** -/
theorem ofParts_parts (x : Binary f) : ofParts f x.negative x.magnitude = x := by
  have hx : x.bits.toNat < 2 ^ f.magnitudeBits * 2 := by
    rw [← Nat.pow_succ]
    exact x.bits.isLt
  have hm : x.magnitude < 2 ^ f.magnitudeBits := Nat.mod_lt _ (Nat.two_pow_pos _)
  have hb : (ofParts f x.negative x.magnitude).bits = x.bits := by
    refine BitVec.eq_of_toNat_eq ?_
    rw [toNat_ofParts hm, magnitude, negative]
    simp only [decide_eq_true_eq, Nat.pow_eq]
    split
    · next h => rw [Nat.mod_eq_sub_mod h, Nat.mod_eq_of_lt (by omega), Nat.add_sub_cancel' h]
    · next h => rw [Nat.mod_eq_of_lt (by omega), Nat.zero_add]
  cases x
  simpa [ofParts] using hb

/-! ## Reading -/

/-- What is not a number is read as such. -/
theorem read_of_isNaN {x : Binary f} (h : x.IsNaN) : x.read = .nan := by
  unfold read
  exact if_pos h

/-- Infinity is read as such. -/
theorem read_of_magnitude_eq {x : Binary f} (h : x.magnitude = f.infinity) :
    x.read = .infinite x.negative := by
  unfold read
  simp [h]

/-- **The bits of a finite number denote a canonical pair**, which has the place of the bits among
the numbers of the format. -/
theorem read_of_magnitude_lt {x : Binary f} (h : x.magnitude < f.infinity) :
    ∃ m q, Canonical f m q ∧ numberOf f m q = x.magnitude ∧
      x.read = .finite x.negative m q := by
  have hr : x.magnitude % 2 ^ f.fractionBits < 2 ^ f.fractionBits :=
    Nat.mod_lt _ (Nat.two_pow_pos _)
  have hdiv := Nat.div_add_mod' x.magnitude (2 ^ f.fractionBits)
  have hread : x.read = if x.magnitude / 2 ^ f.fractionBits = 0
      then .finite x.negative (x.magnitude % 2 ^ f.fractionBits) f.minExponent
      else .finite x.negative (2 ^ f.fractionBits + x.magnitude % 2 ^ f.fractionBits)
        (f.minExponent + ((x.magnitude / 2 ^ f.fractionBits : Nat) - 1)) := by
    unfold read
    simp only [h.not_gt, h.ne, if_false, Nat.pow_eq]
  rw [hread]
  generalize x.magnitude / 2 ^ f.fractionBits = k at hdiv ⊢
  generalize x.magnitude % 2 ^ f.fractionBits = r at hr hdiv ⊢
  rcases k with _ | k
  · refine ⟨r, f.minExponent, ⟨le_refl _, by rw [Nat.pow_succ]; omega, .inl rfl⟩, ?_, if_pos rfl⟩
    simpa [numberOf] using hdiv
  · refine ⟨2 ^ f.fractionBits + r, f.minExponent + (((k + 1 : Nat) : Int) - 1),
      ⟨by omega, by rw [Nat.pow_succ]; omega, .inr (by omega)⟩, ?_, if_neg (by omega)⟩
    have hk : (f.minExponent + (((k + 1 : Nat) : Int) - 1) - f.minExponent).toNat = k := by omega
    rw [numberOf, hk, ← hdiv, Nat.add_mul]
    omega

/-- A greater exponent belongs to a greater number. -/
theorem Canonical.exponent_le (h : Canonical f m q) (h' : Canonical f m' q')
    (he : numberOf f m q ≤ numberOf f m' q') : q ≤ q' := by
  by_contra! hlt
  have hmin := h'.minExponent_le
  have hfull : 2 ^ f.fractionBits ≤ m := h.full.resolve_left (by omega)
  have hlt' := h'.lt
  rw [Nat.pow_succ] at hlt'
  have hmul : ((q' - f.minExponent).toNat + 1) * 2 ^ f.fractionBits ≤
      (q - f.minExponent).toNat * 2 ^ f.fractionBits := Nat.mul_le_mul_right _ (by omega)
  rw [Nat.add_mul] at hmul
  unfold numberOf at he
  omega

/-- **A canonical pair is determined by its place among the numbers.** -/
theorem Canonical.eq_of_numberOf_eq (h : Canonical f m q) (h' : Canonical f m' q')
    (he : numberOf f m q = numberOf f m' q') : m = m' ∧ q = q' := by
  obtain rfl : q = q' := le_antisymm (h.exponent_le h' he.le) (h'.exponent_le h he.ge)
  exact ⟨Nat.add_left_cancel he, rfl⟩

/-- A number put together from a sign and the place of a canonical pair is read as the pair. -/
theorem read_ofParts (h : Canonical f m q) (hlt : numberOf f m q < f.infinity) :
    (ofParts f s (numberOf f m q)).read = .finite s m q := by
  have hk := lt_of_lt_infinity hlt
  have hm : (ofParts f s (numberOf f m q)).magnitude = numberOf f m q := magnitude_ofParts hk
  obtain ⟨m', q', h', he, hread⟩ := read_of_magnitude_lt (hm.trans_lt hlt)
  rw [hm] at he
  obtain ⟨rfl, rfl⟩ := h'.eq_of_numberOf_eq h he
  rw [hread, negative_ofParts hk]

/-! ## Converting -/

/-- **A finite number that the other format has** is converted to this number. -/
theorem convert_of_read {g : Format} {x : Binary f} (hx : x.read = .finite s m q)
    (h : Canonical g m' q') (hlt : numberOf g m' q' ≤ g.infinity)
    (he : (m : ℚ) * 2 ^ q = m' * 2 ^ q') :
    x.convert g = ofParts g s (numberOf g m' q') := by
  have hs := scaleRatio_eq m 1 (-q)
  rw [Nat.cast_one, div_one, neg_neg, he] at hs
  have hc : x.convert g = ofRatio g s (scaleRatio m 1 (-q)).1 (scaleRatio m 1 (-q)).2 := by
    rw [convert, hx]
  rw [hc, ofRatio, roundMagnitude_eq h (scaleRatio_pos m one_pos _) hs, min_eq_right hlt]

/-- Infinity is converted to infinity. -/
theorem convert_of_infinite {g : Format} {x : Binary f} (hx : x.read = .infinite s) :
    x.convert g = infinite g s := by
  unfold convert
  rw [hx]

/-- **A number of 32 bits is a number of 64 bits**, far below infinity. -/
theorem Canonical.widen (h : Canonical Format.single m q)
    (hlt : numberOf Format.single m q < Format.single.infinity) :
    ∃ m' q', Canonical Format.double m' q' ∧
      numberOf Format.double m' q' < Format.double.infinity ∧
      (m : ℚ) * 2 ^ q = m' * 2 ^ q' := by
  have hmin : Format.single.minExponent = -149 := rfl
  have hmin' : Format.double.minExponent = -1074 := rfl
  have hq := hmin ▸ h.minExponent_le
  rcases Nat.eq_zero_or_pos m with rfl | hm
  · refine ⟨0, -1074, ⟨by omega, by decide, .inl hmin'.symm⟩, by decide, by simp⟩
  · have hlog : m.log2 < 24 := (Nat.log2_lt hm.ne').mpr h.lt
    have hlo : 2 ^ m.log2 ≤ m := Nat.log2_self_le hm.ne'
    have hhi : m < 2 ^ (m.log2 + 1) := Nat.lt_log2_self
    -- The significand is shifted until it is as long as the wider format allows.
    obtain ⟨k, hk⟩ : ∃ k, m.log2 + k = 52 := ⟨52 - m.log2, by omega⟩
    have hfull : 2 ^ 52 ≤ m * 2 ^ k := by
      rw [← hk, Nat.pow_add]
      exact Nat.mul_le_mul_right _ hlo
    have hlt' : m * 2 ^ k < 2 ^ 53 := by
      rw [show 53 = m.log2 + 1 + k by omega, Nat.pow_add]
      exact Nat.mul_lt_mul_of_pos_right hhi (Nat.two_pow_pos k)
    refine ⟨m * 2 ^ k, q - k, ⟨by omega, hlt', .inr hfull⟩, ?_, ?_⟩
    · have hq' : q < 106 := by
        change (q - -149).toNat * 2 ^ 23 + m < 255 * 2 ^ 23 at hlt
        omega
      change (q - k - -1074).toNat * 2 ^ 52 + m * 2 ^ k < 2047 * 2 ^ 52
      have hexp : (q - k - -1074).toNat ≤ 1179 := by omega
      linarith [Nat.mul_le_mul_right (2 ^ 52) hexp]
    · rw [Nat.cast_mul, Nat.cast_pow, Nat.cast_two, mul_assoc, ← zpow_natCast,
        ← zpow_add₀ two_ne_zero, add_sub_cancel]

/-- **A number of 32 bits after a stay in 64 bits** is the same number. -/
theorem convert_convert {x : Binary32} (hx : ¬ x.IsNaN) :
    (x.convert Format.double).convert Format.single = x := by
  rcases Nat.lt_or_eq_of_le (not_lt.mp hx) with hlt | heq
  · obtain ⟨m, q, hc, he, hread⟩ := read_of_magnitude_lt hlt
    obtain ⟨m', q', hc', hlt', hv⟩ := hc.widen (he ▸ hlt)
    rw [convert_of_read hread hc' hlt'.le hv,
      convert_of_read (read_ofParts hc' hlt') hc (he ▸ hlt.le) hv.symm, he, ofParts_parts]
  · have hread := read_of_magnitude_eq heq
    have hk : Format.double.infinity < 2 ^ Format.double.magnitudeBits := by decide
    have hread' : (infinite Format.double x.negative).read = .infinite x.negative := by
      rw [infinite, read_of_magnitude_eq (magnitude_ofParts hk), negative_ofParts hk]
    rw [convert_of_infinite hread, convert_of_infinite hread', infinite, ← heq, ofParts_parts]

/-! ## What is not a number -/

/-- **The leading bit of the fraction is set.** Converting makes everything that is not a number
so. -/
def IsQuiet (x : Binary f) : Prop := f.infinity + 2 ^ (f.fractionBits - 1) ≤ x.magnitude

variable {g : Format}

theorem IsQuiet.isNaN {x : Binary f} (hx : x.IsQuiet) : x.IsNaN := by
  have hpos := Nat.two_pow_pos (f.fractionBits - 1)
  unfold IsQuiet at hx
  unfold IsNaN
  omega

/-- What is not a number is converted by moving its fraction. -/
theorem convert_of_isNaN {x : Binary f} (hx : x.IsNaN) : x.convert g = x.convertNaN g := by
  unfold convert
  rw [read_of_isNaN hx]

/-- A moved fraction is quiet, and still fits. -/
theorem isQuiet_convertNaN (hg : 0 < g.fractionBits) (x : Binary f) :
    (x.convertNaN g).IsQuiet := by
  have hmoved : x.magnitude % 2 ^ f.fractionBits * 2 ^ g.fractionBits / 2 ^ f.fractionBits <
      2 ^ g.fractionBits := by
    rw [Nat.div_lt_iff_lt_mul (Nat.two_pow_pos _), Nat.mul_comm]
    exact Nat.mul_lt_mul_of_pos_left (Nat.mod_lt _ (Nat.two_pow_pos _)) (Nat.two_pow_pos _)
  have hquiet : 2 ^ g.fractionBits = 2 * 2 ^ (g.fractionBits - 1) := by
    rw [← Nat.pow_succ', Nat.succ_eq_add_one, Nat.sub_add_cancel hg]
  have hadd := infinity_add g
  unfold IsQuiet convertNaN
  simp only [Nat.pow_eq]
  generalize x.magnitude % 2 ^ f.fractionBits * 2 ^ g.fractionBits / 2 ^ f.fractionBits = moved
    at hmoved ⊢
  rw [magnitude_ofParts (by split <;> omega)]
  split <;> omega

/-- What is not a number is converted to what is none. -/
theorem isQuiet_convert (hg : 0 < g.fractionBits) {x : Binary f} (hx : x.IsNaN) :
    (x.convert g).IsQuiet := by
  rw [convert_of_isNaN hx]
  exact isQuiet_convertNaN hg x

/-- Up to infinity, every magnitude belongs to a number. -/
theorem not_isNaN_ofParts {k : Nat} (hk : k ≤ f.infinity) : ¬ (ofParts f s k).IsNaN := by
  have hadd := infinity_add f
  have hpos := Nat.two_pow_pos f.fractionBits
  rw [IsNaN, magnitude_ofParts (by omega)]
  omega

theorem roundMagnitude_le (f : Format) (num den : Nat) : roundMagnitude f num den ≤ f.infinity := by
  unfold roundMagnitude
  split
  · exact Nat.zero_le _
  · exact Nat.min_le_left _ _

/-- **A number is converted to a number.** -/
theorem isNaN_of_isNaN_convert {x : Binary f} (h : (x.convert g).IsNaN) : x.IsNaN := by
  by_contra hx
  rcases Nat.lt_or_eq_of_le (not_lt.mp hx) with hlt | heq
  · obtain ⟨m, q, -, -, hread⟩ := read_of_magnitude_lt hlt
    unfold convert at h
    rw [hread] at h
    exact not_isNaN_ofParts (roundMagnitude_le g _ _) h
  · rw [convert_of_infinite (read_of_magnitude_eq heq)] at h
    exact not_isNaN_ofParts (le_refl _) h

/-- Quiet bits that are not a number come back from 64 bits as they were. -/
theorem convert_convert_of_isQuiet {x : Binary32} (hx : x.IsQuiet) :
    (x.convert Format.double).convert Format.single = x := by
  have hbound : x.magnitude < 2 ^ 31 := Nat.mod_lt _ (Nat.two_pow_pos _)
  have hlow : 255 * 2 ^ 23 + 2 ^ 22 ≤ x.magnitude := hx
  obtain ⟨k, hk⟩ : ∃ k, x.magnitude = 255 * 2 ^ 23 + k := ⟨x.magnitude - 255 * 2 ^ 23, by omega⟩
  -- The fraction moves up by 29 bits, and down again.
  have hwide : x.convertNaN Format.double =
      ofParts Format.double x.negative (2047 * 2 ^ 52 + k * 2 ^ 29) := by
    have hmoved : x.magnitude % 2 ^ 23 * 2 ^ 52 / 2 ^ 23 = k * 2 ^ 29 := by omega
    have hle : ¬ k * 2 ^ 29 < 2 ^ 51 := by omega
    show ofParts Format.double x.negative (2047 * 2 ^ 52 +
      (if x.magnitude % 2 ^ 23 * 2 ^ 52 / 2 ^ 23 < 2 ^ 51
        then x.magnitude % 2 ^ 23 * 2 ^ 52 / 2 ^ 23 + 2 ^ 51
        else x.magnitude % 2 ^ 23 * 2 ^ 52 / 2 ^ 23)) = _
    rw [hmoved, if_neg hle]
  have hfits : 2047 * 2 ^ 52 + k * 2 ^ 29 < 2 ^ Format.double.magnitudeBits := by
    show _ < 2 ^ 63
    omega
  have hnarrow : (ofParts Format.double x.negative (2047 * 2 ^ 52 + k * 2 ^ 29)).convertNaN
      Format.single = ofParts Format.single x.negative (255 * 2 ^ 23 + k) := by
    have hmoved : (2047 * 2 ^ 52 + k * 2 ^ 29) % 2 ^ 52 * 2 ^ 23 / 2 ^ 52 = k := by omega
    have hle : ¬ k < 2 ^ 22 := by omega
    show ofParts Format.single (negative _) (255 * 2 ^ 23 +
      (if magnitude _ % 2 ^ 52 * 2 ^ 23 / 2 ^ 52 < 2 ^ 22
        then magnitude _ % 2 ^ 52 * 2 ^ 23 / 2 ^ 52 + 2 ^ 22
        else magnitude _ % 2 ^ 52 * 2 ^ 23 / 2 ^ 52)) = _
    rw [magnitude_ofParts hfits, negative_ofParts hfits, hmoved, if_neg hle]
  rw [convert_of_isNaN hx.isNaN, convert_of_isNaN (isQuiet_convertNaN (by decide) x).isNaN, hwide,
    hnarrow, ← hk, ofParts_parts]

/-- **What was narrowed to 32 bits**, a number or none, comes back from 64 bits as it was. -/
theorem convert_convert_convert (x : Binary f) :
    ((x.convert Format.single).convert Format.double).convert Format.single =
      x.convert Format.single := by
  by_cases h : (x.convert Format.single).IsNaN
  · exact convert_convert_of_isQuiet (isQuiet_convert (by decide) (isNaN_of_isNaN_convert h))
  · exact convert_convert h

end EntityMapper.Decimal.Binary

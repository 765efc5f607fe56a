import EntityMapper.Text.Utf8
import Mathlib.Data.List.Basic

/-!
# Texts as bytes and back

The bytes of a text are read back as the text, and no other bytes are read. A character has one to
four bytes; the first of them tells how many there are, and each of the others carries six bits.

## Main results

* `scanChar_utf8EncodeChar`: the first character of the bytes of a text
* `utf8Decode_utf8Bytes`: a text is read back
* `eq_of_scanChar`: what a character is read from
* `utf8Decode_eq_ok_iff`: a text is read from its own bytes only
-/

namespace EntityMapper.Text

theorem toNat_byte {n : Nat} (h : n < 256) : (UInt8.ofNat n).toNat = n :=
  UInt8.toNat_ofNat_of_lt' h

/-! ## Bytes that continue a character -/

theorem isContinuation_ofNat (n : Nat) : isContinuation (UInt8.ofNat (n % 64 + 128)) = true := by
  have hb := toNat_byte (n := n % 64 + 128) (by omega)
  simp only [isContinuation, Bool.and_eq_true, decide_eq_true_eq, UInt8.le_iff_toNat_le, hb,
    UInt8.reduceToNat]
  omega

theorem continuationBits_ofNat (n : Nat) :
    continuationBits (UInt8.ofNat (n % 64 + 128)) = n % 64 := by
  rw [continuationBits, toNat_byte (by omega)]
  omega

/-- No character of three bytes has an overlong form, and none is a surrogate. -/
theorem fitsThree_ofNat {v : Nat} (hlo : 0x7FF < v) (hhi : v ≤ 0xFFFF)
    (hv : v < 0xD800 ∨ 0xDFFF < v) :
    fitsThree (UInt8.ofNat (v / 4096 % 16 + 224)) (UInt8.ofNat (v / 64 % 64 + 128)) = true := by
  have ha := toNat_byte (n := v / 4096 % 16 + 224) (by omega)
  have hb := toNat_byte (n := v / 64 % 64 + 128) (by omega)
  simp only [fitsThree, isContinuation_ofNat, Bool.true_and, Bool.and_eq_true, Bool.not_eq_true',
    Bool.and_eq_false_imp, beq_iff_eq, decide_eq_false_iff_not, UInt8.lt_iff_toNat_lt,
    UInt8.le_iff_toNat_le, ← UInt8.toNat_inj, ha, hb, UInt8.reduceToNat]
  omega

/-- No character of four bytes has an overlong form, and none is beyond the last one. -/
theorem fitsFour_ofNat {v : Nat} (hlo : 0xFFFF < v) (hhi : v < 0x110000) :
    fitsFour (UInt8.ofNat (v / 262144 % 8 + 240)) (UInt8.ofNat (v / 4096 % 64 + 128)) = true := by
  have ha := toNat_byte (n := v / 262144 % 8 + 240) (by omega)
  have hb := toNat_byte (n := v / 4096 % 64 + 128) (by omega)
  simp only [fitsFour, isContinuation_ofNat, Bool.true_and, Bool.and_eq_true, Bool.not_eq_true',
    Bool.and_eq_false_imp, beq_iff_eq, decide_eq_false_iff_not, UInt8.lt_iff_toNat_lt,
    UInt8.le_iff_toNat_le, ← UInt8.toNat_inj, ha, hb, UInt8.reduceToNat]
  omega

/-! ## Characters by their number of bytes -/

section Scan

variable {v : Nat} (rest : List UInt8)

theorem scanChar_one (h : v ≤ 0x7F) :
    scanChar (UInt8.ofNat v :: rest) = some (.char (Char.ofNat v) rest) := by
  simp only [scanChar, UInt8.lt_iff_toNat_lt, toNat_byte (show v < 256 by omega),
    UInt8.reduceToNat]
  rw [if_pos (by omega)]

theorem scanChar_two (hlo : 0x7F < v) (hhi : v ≤ 0x7FF) :
    scanChar (UInt8.ofNat (v / 64 % 32 + 192) :: UInt8.ofNat (v % 64 + 128) :: rest) =
      some (.char (Char.ofNat v) rest) := by
  have ha := toNat_byte (n := v / 64 % 32 + 192) (by omega)
  have hsum : (v / 64 % 32 + 192) % 32 * 64 + v % 64 = v := by omega
  simp only [scanChar, UInt8.lt_iff_toNat_lt, ha, UInt8.reduceToNat, isContinuation_ofNat,
    continuationBits_ofNat, hsum, if_true]
  rw [if_neg (by omega), if_neg (by omega), if_pos (by omega)]

theorem scanChar_three (hlo : 0x7FF < v) (hhi : v ≤ 0xFFFF) (hv : v < 0xD800 ∨ 0xDFFF < v) :
    scanChar (UInt8.ofNat (v / 4096 % 16 + 224) :: UInt8.ofNat (v / 64 % 64 + 128) ::
      UInt8.ofNat (v % 64 + 128) :: rest) = some (.char (Char.ofNat v) rest) := by
  have ha := toNat_byte (n := v / 4096 % 16 + 224) (by omega)
  have hsum : (v / 4096 % 16 + 224) % 16 * 4096 + v / 64 % 64 * 64 + v % 64 = v := by omega
  simp only [scanChar, UInt8.lt_iff_toNat_lt, ha, UInt8.reduceToNat, isContinuation_ofNat,
    continuationBits_ofNat, hsum, fitsThree_ofNat hlo hhi hv, if_true]
  rw [if_neg (by omega), if_neg (by omega), if_neg (by omega), if_pos (by omega)]

theorem scanChar_four (hlo : 0xFFFF < v) (hhi : v < 0x110000) :
    scanChar (UInt8.ofNat (v / 262144 % 8 + 240) :: UInt8.ofNat (v / 4096 % 64 + 128) ::
      UInt8.ofNat (v / 64 % 64 + 128) :: UInt8.ofNat (v % 64 + 128) :: rest) =
      some (.char (Char.ofNat v) rest) := by
  have ha := toNat_byte (n := v / 262144 % 8 + 240) (by omega)
  have hsum : (v / 262144 % 8 + 240) % 8 * 262144 + v / 4096 % 64 * 4096 + v / 64 % 64 * 64 +
      v % 64 = v := by omega
  simp only [scanChar, UInt8.lt_iff_toNat_lt, ha, UInt8.reduceToNat, isContinuation_ofNat,
    continuationBits_ofNat, hsum, fitsFour_ofNat hlo hhi, if_true]
  rw [if_neg (by omega), if_neg (by omega), if_neg (by omega), if_neg (by omega),
    if_pos (by omega)]

end Scan

/-! ## Texts -/

/-- **The bytes of a character are read as the character**, whatever follows. -/
theorem scanChar_utf8EncodeChar (c : Char) (rest : List UInt8) :
    scanChar (String.utf8EncodeChar c ++ rest) = some (.char c rest) := by
  have hvalid : c.val.toNat < 0xD800 ∨ 0xDFFF < c.val.toNat ∧ c.val.toNat < 0x110000 := c.valid
  have hc : Char.ofNat c.val.toNat = c := Char.ofNat_toNat c
  fun_cases String.utf8EncodeChar c with
  | case1 v h => exact hc ▸ scanChar_one rest h
  | case2 v h₁ h => exact hc ▸ scanChar_two rest (by omega) h
  | case3 v h₁ h₂ h => exact hc ▸ scanChar_three rest (by omega) h (by omega)
  | case4 v h₁ h₂ h => exact hc ▸ scanChar_four rest (by omega) (by omega)

theorem utf8DecodeFrom_utf8Encode (index : Nat) (cs : List Char) :
    utf8DecodeFrom index (utf8Encode cs) = .ok cs := by
  induction cs generalizing index with
  | nil =>
    rw [utf8DecodeFrom]
    rfl
  | cons c cs ih =>
    have hscan : scanChar (utf8Encode (c :: cs)) = some (.char c (utf8Encode cs)) :=
      scanChar_utf8EncodeChar c (utf8Encode cs)
    rw [utf8DecodeFrom]
    split
    · next h => cases hscan.symm.trans h
    · next h => cases hscan.symm.trans h
    · next h => cases hscan.symm.trans h
    · next h =>
      cases hscan.symm.trans h
      rw [ih]

/-- **A text is read back from its bytes.** -/
theorem utf8Decode_utf8Bytes (s : String) : utf8Decode (utf8Bytes s) = .ok s := by
  rw [utf8Decode, utf8Bytes, utf8DecodeFrom_utf8Encode]
  exact congrArg Except.ok String.ofList_toList

/-! ## Bytes that are a text -/

theorem val_ofNat {v : Nat} (h : v < 0xD800 ∨ 0xDFFF < v ∧ v < 0x110000) :
    (Char.ofNat v).val.toNat = v := by
  have hvalid : v.isValidChar := h
  rw [Char.ofNat, dif_pos hvalid]
  rfl

theorem ofNat_eq {b : UInt8} {n : Nat} (h : n = b.toNat) : UInt8.ofNat n = b := by
  rw [h, UInt8.ofNat_toNat]

theorem isContinuation_iff {b : UInt8} :
    isContinuation b = true ↔ 0x80 ≤ b.toNat ∧ b.toNat ≤ 0xBF := by
  simp only [isContinuation, Bool.and_eq_true, decide_eq_true_eq, UInt8.le_iff_toNat_le,
    UInt8.reduceToNat]

theorem fitsThree_iff {a b : UInt8} : fitsThree a b = true ↔
    (0x80 ≤ b.toNat ∧ b.toNat ≤ 0xBF) ∧ (a.toNat = 0xE0 → 0xA0 ≤ b.toNat) ∧
      (a.toNat = 0xED → b.toNat < 0xA0) := by
  simp only [fitsThree, Bool.and_eq_true, Bool.not_eq_true', Bool.and_eq_false_imp, beq_iff_eq,
    decide_eq_false_iff_not, isContinuation_iff, UInt8.lt_iff_toNat_lt, UInt8.le_iff_toNat_le,
    ← UInt8.toNat_inj, UInt8.reduceToNat]
  omega

theorem fitsFour_iff {a b : UInt8} : fitsFour a b = true ↔
    (0x80 ≤ b.toNat ∧ b.toNat ≤ 0xBF) ∧ (a.toNat = 0xF0 → 0x90 ≤ b.toNat) ∧
      (a.toNat = 0xF4 → b.toNat < 0x90) := by
  simp only [fitsFour, Bool.and_eq_true, Bool.not_eq_true', Bool.and_eq_false_imp, beq_iff_eq,
    decide_eq_false_iff_not, isContinuation_iff, UInt8.lt_iff_toNat_lt, UInt8.le_iff_toNat_le,
    ← UInt8.toNat_inj, UInt8.reduceToNat]
  omega

section Bytes

variable {a b c d : UInt8}

theorem utf8EncodeChar_one (ha : a.toNat < 0x80) :
    String.utf8EncodeChar (Char.ofNat a.toNat) = [a] := by
  rw [String.utf8EncodeChar, val_ofNat (by omega), if_pos (by omega), UInt8.ofNat_toNat]

theorem utf8EncodeChar_two (ha : 0xC2 ≤ a.toNat) (ha' : a.toNat < 0xE0)
    (hb : isContinuation b = true) :
    String.utf8EncodeChar (Char.ofNat (a.toNat % 32 * 64 + continuationBits b)) = [a, b] := by
  obtain ⟨hb, hb'⟩ := isContinuation_iff.mp hb
  rw [String.utf8EncodeChar, continuationBits, val_ofNat (by omega), if_neg (by omega),
    if_pos (by omega)]
  simp only [List.cons.injEq, and_true]
  exact ⟨ofNat_eq (by omega), ofNat_eq (by omega)⟩

theorem utf8EncodeChar_three (ha : 0xE0 ≤ a.toNat) (ha' : a.toNat < 0xF0)
    (hab : fitsThree a b = true) (hc : isContinuation c = true) :
    String.utf8EncodeChar (Char.ofNat
      (a.toNat % 16 * 4096 + continuationBits b * 64 + continuationBits c)) = [a, b, c] := by
  obtain ⟨⟨hb, hb'⟩, hlow, hsurrogate⟩ := fitsThree_iff.mp hab
  obtain ⟨hc, hc'⟩ := isContinuation_iff.mp hc
  rw [String.utf8EncodeChar, continuationBits, continuationBits, val_ofNat (by omega),
    if_neg (by omega), if_neg (by omega), if_pos (by omega)]
  simp only [List.cons.injEq, and_true]
  exact ⟨ofNat_eq (by omega), ofNat_eq (by omega), ofNat_eq (by omega)⟩

theorem utf8EncodeChar_four (ha : 0xF0 ≤ a.toNat) (ha' : a.toNat < 0xF5)
    (hab : fitsFour a b = true) (hc : isContinuation c = true) (hd : isContinuation d = true) :
    String.utf8EncodeChar (Char.ofNat (a.toNat % 8 * 262144 + continuationBits b * 4096 +
      continuationBits c * 64 + continuationBits d)) = [a, b, c, d] := by
  obtain ⟨⟨hb, hb'⟩, hlow, hhigh⟩ := fitsFour_iff.mp hab
  obtain ⟨hc, hc'⟩ := isContinuation_iff.mp hc
  obtain ⟨hd, hd'⟩ := isContinuation_iff.mp hd
  rw [String.utf8EncodeChar, continuationBits, continuationBits, continuationBits,
    val_ofNat (by omega), if_neg (by omega), if_neg (by omega), if_neg (by omega)]
  simp only [List.cons.injEq, and_true]
  exact ⟨ofNat_eq (by omega), ofNat_eq (by omega), ofNat_eq (by omega), ofNat_eq (by omega)⟩

end Bytes

/-- **The bytes that a character is read from** are those of the character. -/
theorem eq_of_scanChar {bs rest : List UInt8} {c : Char} (h : scanChar bs = some (.char c rest)) :
    bs = String.utf8EncodeChar c ++ rest := by
  rcases bs with _ | ⟨a, bs⟩
  · cases h
  simp only [scanChar, Option.some.injEq, UInt8.lt_iff_toNat_lt, UInt8.reduceToNat] at h
  split at h
  · next ha =>
    cases h
    rw [utf8EncodeChar_one ha, List.singleton_append]
  split at h
  · cases h
  -- Two bytes.
  split at h
  · next hlo hhi =>
    rcases bs with _ | ⟨b, bs⟩
    · cases h
    dsimp only at h
    split at h
    · next hb =>
      cases h
      rw [utf8EncodeChar_two (by omega) hhi hb]
      rfl
    · cases h
  -- Three bytes.
  split at h
  · next hlo hhi =>
    rcases bs with _ | ⟨b, bs⟩
    · cases h
    dsimp only at h
    split at h
    · next hab =>
      rcases bs with _ | ⟨c, bs⟩
      · cases h
      dsimp only at h
      split at h
      · next hc =>
        cases h
        rw [utf8EncodeChar_three (by omega) hhi hab hc]
        rfl
      · cases h
    · cases h
  -- Four bytes.
  split at h
  · next hlo hhi =>
    rcases bs with _ | ⟨b, bs⟩
    · cases h
    dsimp only at h
    split at h
    · next hab =>
      rcases bs with _ | ⟨c, bs⟩
      · cases h
      dsimp only at h
      split at h
      · next hc =>
        rcases bs with _ | ⟨d, bs⟩
        · cases h
        dsimp only at h
        split at h
        · next hd =>
          cases h
          rw [utf8EncodeChar_four (by omega) hhi hab hc hd]
          rfl
        · cases h
      · cases h
    · cases h
  · cases h

theorem eq_of_utf8DecodeFrom {index : Nat} {bs : List UInt8} {cs : List Char}
    (h : utf8DecodeFrom index bs = .ok cs) : bs = utf8Encode cs := by
  induction cs generalizing index bs with
  | nil =>
    rw [utf8DecodeFrom] at h
    split at h
    · next hscan =>
      cases bs with
      | nil => rfl
      | cons b bs => cases hscan
    · cases h
    · cases h
    · split at h
      all_goals cases h
  | cons c cs ih =>
    rw [utf8DecodeFrom] at h
    split at h
    · cases h
    · cases h
    · cases h
    · next c' rest hscan =>
      split at h
      · next cs' hrest =>
        cases h
        rw [eq_of_scanChar hscan, ih hrest]
        rfl
      · cases h

/-- **Bytes are read as a text exactly if they are the bytes of it.** -/
theorem utf8Decode_eq_ok_iff {bs : List UInt8} {s : String} :
    utf8Decode bs = .ok s ↔ bs = utf8Bytes s := by
  constructor
  · intro h
    rw [utf8Decode] at h
    cases hcs : utf8DecodeFrom 0 bs with
    | error e =>
      rw [hcs] at h
      cases h
    | ok cs =>
      rw [hcs] at h
      cases h
      rw [utf8Bytes, String.toList_ofList]
      exact eq_of_utf8DecodeFrom hcs
  · rintro rfl
    exact utf8Decode_utf8Bytes s

end EntityMapper.Text

import EntityMapper.Proofs.Text.Blank
import EntityMapper.Uuid
import Mathlib.Tactic.IntervalCases

/-!
# Identifiers as text

An identifier is read back from its hyphenated form: the hyphens are where they are looked for, and
the digits between them spell its bytes.

## Main definitions

* `AllHex cs`: the text consists of hexadecimal digits

## Main results

* `bytesOfHex?_hexOfBytes`: bytes are read back from their digits
* `hyphens_append`, `hyphens_of_allHex`: where the hyphens of a text are
* `Uuid.ofText_chars`: an identifier is read back
-/

namespace EntityMapper

open EntityMapper.Text

/-! ## Digits -/

namespace Text

/-- The text consists of hexadecimal digits. -/
def AllHex (cs : List Char) : Prop := ∀ c ∈ cs, (hexValue? c).isSome = true

theorem hexValue?_hexDigit {n : Nat} (h : n < 16) : hexValue? (hexDigit n) = some n := by
  interval_cases n <;> rfl

/-- A digit is a printable character of the ASCII alphabet. -/
theorem toNat_of_hexValue? {c : Char} (h : (hexValue? c).isSome = true) :
    48 ≤ c.toNat ∧ c.toNat ≤ 102 := by
  simp only [hexValue?, Bool.and_eq_true, decide_eq_true_eq] at h
  repeat' split at h
  all_goals first
    | omega
    | cases h

theorem ne_hyphen_of_hexValue? {c : Char} (h : (hexValue? c).isSome = true) : c ≠ '-' := by
  rintro rfl
  cases h

theorem utf8Size_of_hexValue? {c : Char} (h : (hexValue? c).isSome = true) : c.utf8Size = 1 := by
  have hc := toNat_of_hexValue? h
  rw [Char.utf8Size, if_pos]
  rw [UInt32.le_iff_toNat_le]
  exact hc.2.trans (by decide)

theorem not_isBlank_of_hexValue? {c : Char} (h : (hexValue? c).isSome = true) :
    isBlank c = false := by
  have hc := toNat_of_hexValue? h
  simp only [isBlank, Bool.or_eq_false_iff, Bool.and_eq_false_iff, decide_eq_false_iff_not,
    beq_eq_false_iff_ne]
  omega

theorem allHex_hexOfBytes (bs : List UInt8) : AllHex (hexOfBytes bs) := by
  intro c hc
  obtain ⟨b, -, hc⟩ := List.mem_flatMap.mp hc
  have hb := b.toNat_lt
  rw [hexOfByte, List.mem_cons, List.mem_singleton] at hc
  rcases hc with rfl | rfl
  · rw [hexValue?_hexDigit (by omega)]
    rfl
  · rw [hexValue?_hexDigit (by omega)]
    rfl

theorem length_hexOfBytes (bs : List UInt8) : (hexOfBytes bs).length = 2 * bs.length := by
  induction bs with
  | nil => rfl
  | cons b bs ih =>
    simp only [hexOfBytes, hexOfByte, List.flatMap_cons, List.length_append, List.length_cons,
      List.length_nil] at ih ⊢
    omega

/-- **Bytes are read back** from their digits. -/
theorem bytesOfHex?_hexOfBytes (bs : List UInt8) : bytesOfHex? (hexOfBytes bs) = some bs := by
  induction bs with
  | nil => rfl
  | cons b bs ih =>
    have hb := b.toNat_lt
    have hhalves : 16 * (b.toNat / 16) + b.toNat % 16 = b.toNat := by omega
    have hread : bytesOfHex? (hexOfByte b ++ hexOfBytes bs) = some (b :: bs) := by
      simp only [hexOfByte, List.cons_append, List.nil_append, bytesOfHex?,
        hexValue?_hexDigit (show b.toNat / 16 < 16 by omega),
        hexValue?_hexDigit (show b.toNat % 16 < 16 by omega), ih, Option.bind_eq_bind,
        Option.bind_some, hhalves, UInt8.ofNat_toNat]
    exact hread

/-- Digits have as many bytes as characters. -/
theorem AllHex.utf8Length_eq {ds : List Char} (h : AllHex ds) : utf8Length ds = ds.length := by
  induction ds with
  | nil => rfl
  | cons d ds ih =>
    obtain ⟨hd, hds⟩ := List.forall_mem_cons.mp h
    rw [utf8Length_cons, utf8Size_of_hexValue? hd, ih hds, List.length_cons, Nat.add_comm]

/-- There is no hyphen among digits. -/
theorem AllHex.filter_eq {ds : List Char} (h : AllHex ds) : ds.filter (· ≠ '-') = ds :=
  List.filter_eq_self.mpr fun c hc => decide_eq_true (ne_hyphen_of_hexValue? (h c hc))

end Text

/-! ## Hyphens -/

namespace Uuid

/-- There are no hyphens among digits. -/
theorem hyphens_of_allHex {ds : List Char} (h : AllHex ds) (index : Nat) :
    hyphens index ds = [] := by
  induction ds generalizing index with
  | nil => rfl
  | cons d ds ih =>
    obtain ⟨hd, hds⟩ := List.forall_mem_cons.mp h
    simp only [hyphens, ih hds, if_neg (ne_hyphen_of_hexValue? hd)]

/-- **A hyphen after digits** comes as many bytes later as there are digits. -/
theorem hyphens_append {ds : List Char} (h : AllHex ds) (index : Nat) (rest : List Char) :
    hyphens index (ds ++ '-' :: rest) =
      (index + ds.length) :: hyphens (index + ds.length + 1) rest := by
  induction ds generalizing index with
  | nil => rfl
  | cons d ds ih =>
    obtain ⟨hd, hds⟩ := List.forall_mem_cons.mp h
    rw [List.cons_append, hyphens, utf8Size_of_hexValue? hd, ih hds]
    simp only [if_neg (ne_hyphen_of_hexValue? hd), List.length_cons]
    rw [Nat.add_right_comm, Nat.add_assoc index]

/-! ## The hyphenated form -/

/-- The groups of the bytes are all of them. -/
theorem groups_append (bs : List UInt8) :
    bs.take 4 ++ ((bs.drop 4).take 2 ++ ((bs.drop 6).take 2 ++ ((bs.drop 8).take 2 ++
      bs.drop 10))) = bs := by
  have hdrop (n : Nat) : (bs.drop n).take 2 ++ bs.drop (n + 2) = bs.drop n := by
    rw [← List.drop_drop, List.take_append_drop]
  rw [hdrop 8, hdrop 6, hdrop 4, List.take_append_drop]

/-- The hyphenated form, group by group. -/
theorem chars_eq (u : Uuid) :
    u.chars = hexOfBytes (u.bytes.take 4) ++ '-' :: (hexOfBytes ((u.bytes.drop 4).take 2) ++
      '-' :: (hexOfBytes ((u.bytes.drop 6).take 2) ++ '-' ::
        (hexOfBytes ((u.bytes.drop 8).take 2) ++ '-' :: (hexOfBytes (u.bytes.drop 10) ++ [])))) := by
  simp only [chars, List.append_assoc, List.cons_append, List.append_nil]

/-- The hyphenated form has 36 characters. -/
theorem length_chars (u : Uuid) : u.chars.length = 36 := by
  have hlength := u.length_bytes
  rw [chars_eq]
  simp only [List.length_append, List.length_cons, List.length_nil, length_hexOfBytes,
    List.length_take, List.length_drop]
  omega

/-- All of them have one byte. -/
theorem utf8Length_chars (u : Uuid) : utf8Length u.chars = 36 := by
  have hlength := u.length_bytes
  have hhyphen : '-'.utf8Size = 1 := rfl
  rw [chars_eq]
  simp only [utf8Length_append, utf8Length_cons, utf8Length_nil, hhyphen,
    (allHex_hexOfBytes _).utf8Length_eq, length_hexOfBytes, List.length_take, List.length_drop]
  omega

/-- The hyphens are where they are looked for. -/
theorem hyphens_chars (u : Uuid) : hyphens 0 u.chars = [8, 13, 18, 23] := by
  have hlength := u.length_bytes
  have hlast := hyphens_of_allHex (allHex_hexOfBytes (u.bytes.drop 10))
  rw [chars_eq, List.append_nil]
  simp only [hyphens_append (allHex_hexOfBytes _), hlast, length_hexOfBytes, List.length_take,
    List.length_drop, hlength]
  rfl

/-- The characters between the hyphens are the digits of the bytes. -/
theorem filter_chars (u : Uuid) : u.chars.filter (· ≠ '-') = hexOfBytes u.bytes := by
  have hskip (cs : List Char) : ('-' :: cs).filter (· ≠ '-') = cs.filter (· ≠ '-') := rfl
  conv_rhs => rw [← groups_append u.bytes]
  rw [chars_eq, List.append_nil]
  simp only [List.filter_append, hskip, (allHex_hexOfBytes _).filter_eq]
  -- The digits of the groups one after another are those of the groups together.
  simp only [hexOfBytes, List.flatMap_append]

/-- **An identifier is read back** from its hyphenated form. -/
theorem ofText_chars (u : Uuid) : ofText u.chars = .ok u := by
  have hframe : frame u.chars = ⟨true, 0, u.chars⟩ := if_pos u.utf8Length_chars
  have hspelled : spelled? ⟨true, 0, u.chars⟩ = some u := by
    rw [spelled?, if_pos ⟨u.length_chars, u.hyphens_chars⟩, filter_chars, bytesOfHex?_hexOfBytes,
      Option.bind_some, ofBytes?, dif_pos u.length_bytes]
  -- Of 36 bytes, no braces are taken off.
  rw [ofText, u.utf8Length_chars, if_neg (by decide), hframe]
  dsimp only
  rw [hspelled]

/-- There are no blanks in the hyphenated form. -/
theorem bare_chars (u : Uuid) : Bare u.chars := by
  have hhyphen : isBlank '-' = false := rfl
  have hhex (bs : List UInt8) : ∀ c ∈ hexOfBytes bs, isBlank c = false :=
    fun c hc => not_isBlank_of_hexValue? (allHex_hexOfBytes bs c hc)
  apply bare_of_forall
  rw [chars_eq]
  simp only [List.forall_mem_append, List.forall_mem_cons, hhyphen, true_and]
  exact ⟨hhex _, hhex _, hhex _, hhex _, hhex _, nofun⟩

end Uuid

end EntityMapper

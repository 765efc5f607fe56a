import EntityMapper.Proofs.Text.Numeral
import EntityMapper.Proofs.Text.Utf8
import EntityMapper.Proofs.Value.Conversion

/-!
# Integers among values

Truth values, integers of any kind, and texts and bytes that spell a numeral denote an integer. Such
a value goes into an integer kind as the integer that it denotes, or not at all, and no integer kind
that it passes through on the way makes a difference.

## Main definitions

* `Value.Denotes v z`: the value denotes the integer
* `ValueType.IsInteger t`: the type is of an integer kind
* `Value.Lossless v`: what can be relied on when a value is put into integer types

## Main results

* `Value.toInteger_eq_ok_iff`: the integer that is read from a value is the one it denotes
* `Value.coerce_int_iff`: a value goes into the integer kinds that contain what it denotes
* `Value.coerce_after`: integer types on the way make no difference
* `Value.integers_lossless`: every value can be relied on
-/

namespace EntityMapper

open EntityMapper.Text

/-! ## What values denote -/

/-- **The value denotes the integer.** A text denotes it by a numeral, with blanks around it, and
bytes denote what the text that they spell denotes. Floating-point numbers, identifiers and points
in time denote no integer. -/
inductive Value.Denotes : Value → Int → Prop where
  | bool (b : Bool) : Denotes (.bool b) (if b then 1 else 0)
  | int {k : IntKind} (n : BoundedInt k) : Denotes (.int k n) n.val
  | text {s : String} {a cs b : List Char} {z : Int} (hs : s.toList = a ++ cs ++ b)
      (ha : Blanks a) (hcs : Numeral cs z) (hb : Blanks b) : Denotes (.text s) z
  | bytes {s : String} {z : Int} (h : Denotes (.text s) z) : Denotes (.bytes (utf8Bytes s)) z

/-- The type is of an integer kind, and may allow null. -/
def ValueType.IsInteger (t : ValueType) : Prop := ∃ k, t.kind = .int k

namespace IntKind

/-- Every kind is within the bounds that texts are read in. -/
theorem wide_bounds (k : IntKind) : wideMin ≤ k.lo ∧ k.hi ≤ wideMax := by
  cases k <;> decide

theorem Contains.wide {k : IntKind} {z : Int} (h : k.Contains z) : wideMin ≤ z ∧ z ≤ wideMax :=
  ⟨k.wide_bounds.1.trans h.1, h.2.trans k.wide_bounds.2⟩

end IntKind

theorem BoundedInt.ofInt?_eq_some_iff {k : IntKind} {n : BoundedInt k} {z : Int} :
    ofInt? k z = some n ↔ n.val = z := by
  unfold ofInt?
  constructor
  · intro h
    split at h
    · cases h
      rfl
    · cases h
  · rintro rfl
    exact dif_pos n.contains

namespace Value

variable {v w : Value} {s : String} {z : Int}

/-- What a text denotes is read between its blanks. -/
theorem denotes_text_iff : (Value.text s).Denotes z ↔ Numeral (trimBlank s.toList) z := by
  constructor
  · intro h
    cases h with
    | text hs ha hcs hb => rwa [hs, trimBlank_between ha hcs.bare hb]
  · intro h
    obtain ⟨a, b, ha, hb, hs⟩ := exists_eq_trimBlank s.toList
    exact .text hs ha h hb

theorem denotes_bytes_iff {bs : List UInt8} :
    (Value.bytes bs).Denotes z ↔ ∃ s, utf8Decode bs = .ok s ∧ (Value.text s).Denotes z := by
  constructor
  · intro h
    cases h with
    | bytes h => exact ⟨_, utf8Decode_utf8Bytes _, h⟩
  · rintro ⟨s, hs, h⟩
    rw [utf8Decode_eq_ok_iff.mp hs]
    exact .bytes h

/-! ## Reading integers -/

theorem wideMin_le_zero : wideMin ≤ 0 := by decide

theorem zero_le_wideMax : 0 ≤ wideMax := by decide

/-- **The integer that is read from a value is the one that it denotes**, if it is in the bounds that
texts are read in. -/
theorem toInteger_eq_ok_iff : v.toInteger = .ok z ↔ v.Denotes z ∧ wideMin ≤ z ∧ z ≤ wideMax := by
  have hread (s : String) : readInteger wideMin wideMax (trimBlank s.toList) = .ok z ↔
      Numeral (trimBlank s.toList) z ∧ wideMin ≤ z ∧ z ≤ wideMax :=
    readInteger_eq_ok_iff wideMin_le_zero zero_le_wideMax
  cases v with
  | bool b =>
    constructor
    · rintro ⟨⟩
      refine ⟨.bool b, ?_⟩
      cases b <;> decide
    · rintro ⟨⟨⟩, -⟩
      rfl
  | int k n =>
    constructor
    · rintro ⟨⟩
      exact ⟨.int n, n.contains.wide⟩
    · rintro ⟨⟨⟩, -⟩
      rfl
  | text s =>
    rw [denotes_text_iff, ← hread, toInteger]
    cases readInteger wideMin wideMax (trimBlank s.toList) <;> simp
  | bytes bs =>
    rw [denotes_bytes_iff, toInteger]
    cases hs : utf8Decode bs with
    | error e => simp
    | ok s =>
      simp only [Except.ok.injEq, exists_eq_left', denotes_text_iff, ← hread]
      cases readInteger wideMin wideMax (trimBlank s.toList) <;> simp
  | _ =>
    constructor
    · rintro ⟨⟩
    · rintro ⟨⟨⟩, -⟩

/-- A value denotes one integer at most. -/
theorem Denotes.unique {z' : Int} (h : v.Denotes z) (h' : v.Denotes z') : z = z' := by
  cases h with
  | bool b =>
    cases h'
    rfl
  | int n =>
    cases h'
    rfl
  | text hs ha hcs hb =>
    have hz := denotes_text_iff.mp (.text hs ha hcs hb)
    exact hz.unique (denotes_text_iff.mp h')
  | bytes h =>
    obtain ⟨s, hs, h'⟩ := denotes_bytes_iff.mp h'
    obtain rfl := Except.ok.inj ((utf8Decode_utf8Bytes _).symm.trans hs)
    exact (denotes_text_iff.mp h).unique (denotes_text_iff.mp h')

/-! ## Integer types -/

/-- A value that is not null goes into an integer type as into its kind. -/
theorem coerce_int (hv : v ≠ .null) (k : IntKind) (nullable : Bool) :
    v.coerce ⟨.int k, nullable⟩ = (v.toBounded k).map (.int k) := by
  rw [coerce, isNull_eq_false hv, if_neg Bool.false_ne_true]
  rfl

theorem toBounded_eq_ok_iff {k : IntKind} {n : BoundedInt k} :
    v.toBounded k = .ok n ↔ v.Denotes n.val := by
  rw [toBounded, bind_eq_ok]
  constructor
  · rintro ⟨z, hz, hn⟩
    cases hread : BoundedInt.ofInt? k z with
    | none =>
      rw [hread] at hn
      cases hn
    | some n' =>
      rw [hread] at hn
      cases hn
      rw [BoundedInt.ofInt?_eq_some_iff.mp hread]
      exact (toInteger_eq_ok_iff.mp hz).1
  · intro h
    refine ⟨n.val, toInteger_eq_ok_iff.mpr ⟨h, n.contains.wide⟩, ?_⟩
    rw [BoundedInt.ofInt?_eq_some_iff.mpr rfl]

/-- **A value goes into the integer kinds that contain the integer it denotes**, as that integer. -/
theorem coerce_int_iff (hv : v ≠ .null) {k : IntKind} {nullable : Bool} :
    v.coerce ⟨.int k, nullable⟩ = .ok w ↔
      ∃ (z : Int) (h : k.Contains z), v.Denotes z ∧ w = .int k ⟨z, h⟩ := by
  rw [coerce_int hv, map_eq_ok]
  constructor
  · rintro ⟨n, hn, rfl⟩
    exact ⟨n.val, n.contains, toBounded_eq_ok_iff.mp hn, rfl⟩
  · rintro ⟨z, h, hz, rfl⟩
    exact ⟨⟨z, h⟩, toBounded_eq_ok_iff.mpr hz, rfl⟩

/-! ## Integer types on the way -/

/-- All that an integer type asks of a value is the integer that is read from it. -/
theorem coerce_congr (hv : v ≠ .null) (hw : w ≠ .null) (h : w.toInteger = v.toInteger)
    {t : ValueType} (ht : t.IsInteger) : w.coerce t = v.coerce t := by
  obtain ⟨kind, nullable⟩ := t
  obtain ⟨k, rfl⟩ : ∃ k, kind = .int k := ht
  rw [coerce_int hv, coerce_int hw, toBounded, toBounded, h]

/-- **An integer type on the way makes no difference**, not even to a fault. -/
theorem coerce_after (hv : v ≠ .null) {t t' : ValueType} (ht : t.IsInteger) (ht' : t'.IsInteger)
    (h : v.coerce t = .ok w) : w ≠ .null ∧ w.coerce t' = v.coerce t' := by
  obtain ⟨kind, nullable⟩ := t
  obtain ⟨k, rfl⟩ : ∃ k, kind = .int k := ht
  obtain ⟨z, hk, hz, rfl⟩ := (coerce_int_iff hv).mp h
  have hread : v.toInteger = .ok z := toInteger_eq_ok_iff.mpr ⟨hz, hk.wide⟩
  have hint : Value.int k ⟨z, hk⟩ ≠ .null := nofun
  exact ⟨hint, coerce_congr hv hint hread.symm ht'⟩

/-- **Integer types on the way make no difference**, however many there are. -/
theorem coerce_along (hv : v ≠ .null) {ts : List ValueType} (hts : ∀ t ∈ ts, t.IsInteger)
    {t' : ValueType} (ht' : t'.IsInteger) (h : ts.foldlM coerce v = .ok w) :
    w.coerce t' = v.coerce t' := by
  induction ts generalizing v with
  | nil =>
    obtain rfl := Except.ok.inj h
    rfl
  | cons t ts ih =>
    obtain ⟨ht, hts⟩ := List.forall_mem_cons.mp hts
    rw [List.foldlM_cons] at h
    obtain ⟨u, hu, hw⟩ := bind_eq_ok.mp h
    obtain ⟨hnull, hafter⟩ := coerce_after hv ht ht' hu
    rw [ih hnull hts hw, hafter]

/-- **What can be relied on when a value is put into integer types.** -/
structure Lossless (v : Value) : Prop where
  /-- The value denotes one integer at most. -/
  unique (z z' : Int) : v.Denotes z → v.Denotes z' → z = z'
  /-- It goes into the kinds that contain this integer, and comes out as the same integer. -/
  coerce_iff (k : IntKind) (nullable : Bool) (w : Value) :
    v.coerce ⟨.int k, nullable⟩ = .ok w ↔
      ∃ (z : Int) (h : k.Contains z), v.Denotes z ∧ w = .int k ⟨z, h⟩
  /-- Integer types that it has passed through make no difference to where it goes, nor to the fault
  if it goes nowhere. -/
  along (ts : List ValueType) (t : ValueType) (w : Value) : (∀ t ∈ ts, t.IsInteger) → t.IsInteger →
    ts.foldlM coerce v = .ok w → w.coerce t = v.coerce t

/-- **No integer is lost or changed**, whatever integer types a value is put into. -/
theorem integers_lossless (v : Value) (hv : v ≠ .null) : v.Lossless where
  unique _ _ := Denotes.unique
  coerce_iff _ _ _ := coerce_int_iff hv
  along _ _ _ hts ht := coerce_along hv hts ht

/-- Bytes that spell a numeral with a sign, leading zeros and blanks of two kinds. -/
theorem integers_lossless_spelled :
    let v := Value.bytes (utf8Bytes " +000200\u3000")
    v ≠ .null ∧ v.Lossless ∧ v.coerce ⟨.int .u8, false⟩ = .ok (.int .u8 ⟨200, by decide⟩) ∧
      v.coerce ⟨.int .i8, true⟩ = .error (.outOfRange 200 .i8) := by
  intro v
  have hv : v ≠ .null := nofun
  have hlossless := integers_lossless v hv
  have hdigits : Numeral ['+', '0', '0', '0', '2', '0', '0'] 200 :=
    .plus ⟨List.cons_ne_nil _ _, List.all_eq_true.mp rfl⟩
  have hdenotes : v.Denotes 200 := .bytes (.text (a := [' ']) (b := ['\u3000']) rfl
    (List.forall_mem_singleton.mpr rfl) hdigits (List.forall_mem_singleton.mpr rfl))
  have hread : v.toInteger = .ok 200 := toInteger_eq_ok_iff.mpr ⟨hdenotes, by decide, by decide⟩
  refine ⟨hv, hlossless, ?_, ?_⟩
  · exact (hlossless.coerce_iff .u8 false _).mpr ⟨200, by decide, hdenotes, rfl⟩
  · rw [coerce_int hv, toBounded, hread]
    rfl

end Value

end EntityMapper

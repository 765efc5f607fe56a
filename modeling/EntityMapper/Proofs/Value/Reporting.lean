import EntityMapper.Proofs.Decimal.Numeral
import EntityMapper.Proofs.Value.Canonical
import EntityMapper.Proofs.Value.Integers

/-!
# Texts reported as bytes

A driver may report a text as the bytes that spell it. Integers, texts and bytes are converted from
either in the same way. The other kinds read a text in their own grammar, but bytes only as an
integer or not at all: then one of the two may be refused, but the values are never different where
both are taken, except that bytes do not tell the sign of a zero.

## Main definitions

* `SpellsInteger s`, `SpellsDouble s`, `SpellsDateTime s`: what a text can be read as
* `ScalarKind.TakesAlike s k`: the kind takes the text and its bytes, or neither of them
* `ScalarKind.LosesSign s k`: only the text tells the sign of a zero
* `ReportsAlike s t`: what a text and its bytes come to in a type

## Main results

* `ScalarKind.verdict`: a text and its bytes, converted to any kind
* `reportsAlike`: the same for types
-/

namespace EntityMapper

open EntityMapper.Calendar EntityMapper.Decimal EntityMapper.Text

/-! ## What a text can be read as -/

/-- The text spells an integer, in the bounds that texts are read in. -/
def SpellsInteger (s : String) : Prop :=
  ∃ z, (Value.text s).Denotes z ∧ wideMin ≤ z ∧ z ≤ wideMax

/-- The text spells a floating-point number. -/
def SpellsDouble (s : String) : Prop :=
  ∃ x, Binary.ofText Format.double (trimBlank s.toList) = .ok x

/-- The text spells a point in time. -/
def SpellsDateTime (s : String) : Prop := ∃ t, DateTime.ofText (trimBlank s.toList) = .ok t

namespace ScalarKind

/-- **The kind takes the text and its bytes, or neither of them.** -/
def TakesAlike (s : String) : ScalarKind → Prop
  | int _ | text | bytes => True
  | bool => trim s ∈ ["0", "1"] ∨
      trim s ∉ Value.trueWords ++ Value.falseWords ∧ ¬ SpellsInteger s
  | single | double => SpellsInteger s ∨ ¬ SpellsDouble s
  | dateTime => ¬ SpellsDateTime s
  -- Bytes are the identifier itself, and spell none.
  | uuid => False

/-- **Only the text tells the sign of a zero.** -/
def LosesSign (s : String) : ScalarKind → Prop
  | single | double => NegativeZero (trimBlank s.toList)
  | _ => False

/-- **What a text and its bytes come to in a kind**: both are taken, neither is, or one is. -/
inductive Verdict (s : String) (k : ScalarKind) : Prop where
  | both {c c' : k.Carrier} (hbytes : (Value.bytes (utf8Bytes s)).convert k = .ok c)
      (htext : (Value.text s).convert k = .ok c') (halike : k.TakesAlike s)
      (hsame : (k.toValue c).same (k.toValue c') = true) (heq : c = c' ↔ ¬ k.LosesSign s)
  | neither (hbytes : ∀ c, (Value.bytes (utf8Bytes s)).convert k ≠ .ok c)
      (htext : ∀ c, (Value.text s).convert k ≠ .ok c) (halike : k.TakesAlike s)
      (hsign : ¬ k.LosesSign s)
  | one (hone : ¬ ((∃ c, (Value.bytes (utf8Bytes s)).convert k = .ok c) ↔
      ∃ c, (Value.text s).convert k = .ok c)) (halike : ¬ k.TakesAlike s)

end ScalarKind

/-! ## Integers -/

section Integers

variable {s : String} {z : Int}

/-- Bytes denote what the text that they spell denotes. -/
theorem denotes_utf8Bytes_iff :
    (Value.bytes (utf8Bytes s)).Denotes z ↔ (Value.text s).Denotes z := by
  simp [Value.denotes_bytes_iff, utf8Decode_utf8Bytes]

theorem spellsInteger_iff :
    SpellsInteger s ↔ ∃ z, (Value.bytes (utf8Bytes s)).toInteger = .ok z := by
  simp only [SpellsInteger, Value.toInteger_eq_ok_iff, denotes_utf8Bytes_iff]

/-- The digits of an integer in the bounds that texts are read in. -/
theorem length_decimalDigits_wide (hlo : wideMin ≤ z) (hhi : z ≤ wideMax) :
    (decimalDigits z.natAbs).length ≤ 2 ^ Format.double.exponentBits := by
  have hlt : z.natAbs < 10 ^ (38 + 1) := by
    rw [wideMin] at hlo
    rw [wideMax] at hhi
    omega
  exact (length_decimalDigits_le hlt).trans (by decide)

end Integers

/-! ## The kinds -/

namespace ScalarKind

variable {s : String}

/-- A kind that converts a text and its bytes to the same. -/
theorem Verdict.of_iff {k : ScalarKind}
    (h : ∀ c, (Value.bytes (utf8Bytes s)).convert k = .ok c ↔ (Value.text s).convert k = .ok c)
    (hnan : ∀ c, ¬ (k.toValue c).IsNaN) (halike : k.TakesAlike s) (hsign : ¬ k.LosesSign s) :
    Verdict s k := by
  by_cases htext : ∃ c, (Value.text s).convert k = .ok c
  · obtain ⟨c, hc⟩ := htext
    exact .both ((h c).mpr hc) hc halike (Value.same_self_iff.mpr (hnan c)) (iff_of_true rfl hsign)
  · have htext := not_exists.mp htext
    exact .neither (fun c hc => htext c ((h c).mp hc)) htext halike hsign

theorem verdict_int (k : IntKind) : Verdict s (.int k) := by
  refine .of_iff (fun n => ?_) (fun _ => id) trivial id
  exact Value.toBounded_eq_ok_iff.trans
    (denotes_utf8Bytes_iff.trans Value.toBounded_eq_ok_iff.symm)

theorem verdict_text : Verdict s .text := by
  have hbytes : (Value.bytes (utf8Bytes s)).toText = .ok s := by
    simp [Value.toText, utf8Decode_utf8Bytes]
  exact .of_iff (fun c => Eq.congr_left hbytes) (fun _ => id) trivial id

theorem verdict_bytes : Verdict s .bytes :=
  .of_iff (fun _ => Iff.rfl) (fun _ => id) trivial id

theorem verdict_dateTime : Verdict s .dateTime := by
  have hbytes (t : DateTime) : (Value.bytes (utf8Bytes s)).convert .dateTime ≠ .ok t := nofun
  have htext (t : DateTime) : (Value.text s).convert .dateTime = .ok t ↔
      DateTime.ofText (trimBlank s.toList) = .ok t := mapError_eq_ok
  by_cases h : SpellsDateTime s
  · obtain ⟨t, ht⟩ := h
    refine .one (fun hiff => ?_) (not_not.mpr ⟨t, ht⟩)
    obtain ⟨t', ht'⟩ := hiff.mpr ⟨t, (htext t).mpr ht⟩
    exact hbytes t' ht'
  · exact .neither hbytes (fun t ht => h ⟨t, (htext t).mp ht⟩) h id

/-! ### Truth values -/

/-- What is read as an integer is what stands between the blanks. -/
theorem toInteger_utf8Bytes {w : String} {z : Int} (hw : trim s = w)
    (h : readInteger wideMin wideMax w.toList = .ok z) :
    (Value.bytes (utf8Bytes s)).toInteger = .ok z := by
  have htrim : trimBlank s.toList = w.toList := by rw [← hw, trim, String.toList_ofList]
  simp [Value.toInteger, utf8Decode_utf8Bytes, htrim, h]

/-- The words for truth values are no numerals, except the two that are. -/
theorem mem_of_spellsInteger (hword : trim s ∈ Value.trueWords ++ Value.falseWords)
    (h : SpellsInteger s) : trim s ∈ ["0", "1"] := by
  obtain ⟨z, hz, -⟩ := h
  have hnumeral : Numeral (trim s).toList z := by
    rw [trim, String.toList_ofList]
    exact Value.denotes_text_iff.mp hz
  have hlo : min z 0 ≤ 0 := min_le_right ..
  have hhi : 0 ≤ max z 0 := le_max_right ..
  have hread := (readInteger_eq_ok_iff hlo hhi).mpr ⟨hnumeral, min_le_left .., le_max_left ..⟩
  generalize trim s = w at hword hread
  simp only [Value.trueWords, Value.falseWords, List.cons_append, List.nil_append, List.mem_cons,
    List.not_mem_nil, or_false] at hword
  rcases hword with rfl | rfl | rfl | rfl | rfl | rfl | rfl | rfl <;> first | decide | cases hread

/-- Bytes denote whether the integer that they spell is not zero. -/
theorem toBool_utf8Bytes {b : Bool} : (Value.bytes (utf8Bytes s)).toBool = .ok b ↔
    ∃ z, (Value.bytes (utf8Bytes s)).toInteger = .ok z ∧ decide (z ≠ 0) = b :=
  bind_eq_ok.trans (by simp)

theorem verdict_bool : Verdict s .bool := by
  have htaken : (∃ b, (Value.text s).toBool = .ok b) ↔
      trim s ∈ Value.trueWords ++ Value.falseWords := by
    rw [List.mem_append, Value.toBool]
    split
    · next h => exact iff_of_true ⟨true, rfl⟩ (.inl h)
    · next h =>
      split
      · next h' => exact iff_of_true ⟨false, rfl⟩ (.inr h')
      · next h' => simp [h, h']
  have hspelled : (∃ b, (Value.bytes (utf8Bytes s)).toBool = .ok b) ↔ SpellsInteger s := by
    simp only [toBool_utf8Bytes, spellsInteger_iff]
    constructor
    · rintro ⟨b, z, hz, -⟩
      exact ⟨z, hz⟩
    · rintro ⟨z, hz⟩
      exact ⟨_, z, hz, rfl⟩
  by_cases hdigit : trim s ∈ ["0", "1"]
  · -- The two texts that both readings know.
    have hdigit' := hdigit
    simp only [List.mem_cons, List.not_mem_nil, or_false] at hdigit'
    rcases hdigit' with h | h
    · have hbytes := toBool_utf8Bytes.mpr ⟨0, toInteger_utf8Bytes h rfl, rfl⟩
      have htext : (Value.text s).toBool = .ok false := by
        simp [Value.toBool, h, Value.trueWords, Value.falseWords]
      exact .both hbytes htext (.inl hdigit) rfl (iff_of_true rfl id)
    · have hbytes := toBool_utf8Bytes.mpr ⟨1, toInteger_utf8Bytes h rfl, rfl⟩
      have htext : (Value.text s).toBool = .ok true := by simp [Value.toBool, h, Value.trueWords]
      exact .both hbytes htext (.inl hdigit) rfl (iff_of_true rfl id)
  · by_cases hword : trim s ∈ Value.trueWords ++ Value.falseWords
    · have hinteger : ¬ SpellsInteger s := fun h => hdigit (mem_of_spellsInteger hword h)
      refine .one (fun hiff => ?_) ?_
      · exact hinteger (hspelled.mp (hiff.mpr (htaken.mpr hword)))
      · exact not_or.mpr ⟨hdigit, fun h => h.1 hword⟩
    · by_cases hinteger : SpellsInteger s
      · refine .one (fun hiff => ?_) ?_
        · exact hword (htaken.mp (hiff.mp (hspelled.mpr hinteger)))
        · exact not_or.mpr ⟨hdigit, fun h => h.2 hinteger⟩
      · exact .neither (not_exists.mp (mt hspelled.mp hinteger))
          (not_exists.mp (mt htaken.mp hword)) (.inr ⟨hword, hinteger⟩) id

/-! ### Floating-point numbers -/

/-- Bytes denote the floating-point number nearest to the integer that they spell. -/
theorem toDouble_utf8Bytes {x : Binary64} : (Value.bytes (utf8Bytes s)).toDouble = .ok x ↔
    ∃ z, (Value.bytes (utf8Bytes s)).toInteger = .ok z ∧ Binary.ofInt Format.double z = x :=
  bind_eq_ok.trans (by simp)

theorem toDouble_text {x : Binary64} : (Value.text s).toDouble = .ok x ↔
    Binary.ofText Format.double (trimBlank s.toList) = .ok x := by
  rw [Value.toDouble]
  cases Binary.ofText Format.double (trimBlank s.toList) <;> simp

/-- **A text that spells an integer** denotes the number nearest to it, as its bytes do, unless it
is a negative zero. -/
theorem toDouble_of_spellsInteger (h : SpellsInteger s) :
    ∃ x y, (Value.bytes (utf8Bytes s)).toDouble = .ok x ∧ (Value.text s).toDouble = .ok y ∧
      ¬ x.IsNaN ∧ (x = y ∧ ¬ NegativeZero (trimBlank s.toList) ∨
        NegativeZero (trimBlank s.toList) ∧ x = Binary.zero _ ∧ y = Binary.ofParts _ true 0) := by
  obtain ⟨z, hz, hlo, hhi⟩ := h
  have hnumeral := Value.denotes_text_iff.mp hz
  have hbytes := toDouble_utf8Bytes.mpr
    ⟨z, Value.toInteger_eq_ok_iff.mpr ⟨denotes_utf8Bytes_iff.mpr hz, hlo, hhi⟩, rfl⟩
  have hnumber : ¬ (Binary.ofInt Format.double z).IsNaN :=
    Binary.not_isNaN_ofParts (Binary.roundMagnitude_le ..)
  by_cases hzero : NegativeZero (trimBlank s.toList)
  · obtain rfl : z = 0 := hnumeral.unique hzero.2
    exact ⟨_, _, hbytes, toDouble_text.mpr (ofText_of_negativeZero hzero), hnumber,
      .inr ⟨hzero, rfl, rfl⟩⟩
  · have htext := ofText_of_numeral hnumeral (length_decimalDigits_wide hlo hhi)
    rw [ofRatio_sign hnumeral hzero] at htext
    exact ⟨_, _, hbytes, toDouble_text.mpr htext, hnumber, .inl ⟨rfl, hzero⟩⟩

/-- **A kind that holds what floating-point numbers are rounded to.** -/
theorem Verdict.of_toDouble {k : ScalarKind} {g : Binary64 → k.Carrier}
    (hconvert : ∀ v c, Value.convert v k = .ok c ↔ ∃ x, v.toDouble = .ok x ∧ g x = c)
    (halike : k.TakesAlike s ↔ SpellsInteger s ∨ ¬ SpellsDouble s)
    (hsign : k.LosesSign s ↔ NegativeZero (trimBlank s.toList))
    (hnumber : ∀ x, ¬ x.IsNaN → ¬ (k.toValue (g x)).IsNaN)
    (hzero : (k.toValue (g (Binary.zero _))).same (k.toValue (g (Binary.ofParts _ true 0))) = true)
    (hne : g (Binary.zero _) ≠ g (Binary.ofParts _ true 0)) : Verdict s k := by
  by_cases hinteger : SpellsInteger s
  · obtain ⟨x, y, hx, hy, hnan, ⟨rfl, hpositive⟩ | ⟨hnegative, rfl, rfl⟩⟩ :=
      toDouble_of_spellsInteger hinteger
    · exact .both ((hconvert _ _).mpr ⟨x, hx, rfl⟩) ((hconvert _ _).mpr ⟨x, hy, rfl⟩)
        (halike.mpr (.inl hinteger)) (Value.same_self_iff.mpr (hnumber x hnan))
        (iff_of_true rfl (mt hsign.mp hpositive))
    · exact .both ((hconvert _ _).mpr ⟨_, hx, rfl⟩) ((hconvert _ _).mpr ⟨_, hy, rfl⟩)
        (halike.mpr (.inl hinteger)) hzero (iff_of_false hne (not_not.mpr (hsign.mpr hnegative)))
  · have hbytes (c : k.Carrier) : (Value.bytes (utf8Bytes s)).convert k ≠ .ok c := by
      intro hc
      obtain ⟨x, hx, -⟩ := (hconvert _ _).mp hc
      obtain ⟨z, hz, -⟩ := toDouble_utf8Bytes.mp hx
      exact hinteger (spellsInteger_iff.mpr ⟨z, hz⟩)
    by_cases hdouble : SpellsDouble s
    · refine .one (fun hiff => ?_) fun h => ?_
      · obtain ⟨x, hx⟩ := hdouble
        obtain ⟨c, hc⟩ := hiff.mpr ⟨_, (hconvert _ _).mpr ⟨x, toDouble_text.mpr hx, rfl⟩⟩
        exact hbytes c hc
      · exact (halike.mp h).elim hinteger fun h => h hdouble
    · refine .neither hbytes (fun c hc => ?_) (halike.mpr (.inr hdouble)) fun h => ?_
      · obtain ⟨x, hx, -⟩ := (hconvert _ _).mp hc
        exact hdouble ⟨x, toDouble_text.mp hx⟩
      · exact hdouble ⟨_, ofText_of_negativeZero (hsign.mp h)⟩

theorem verdict_double : Verdict s .double := by
  have hne : Binary.zero Format.double ≠ Binary.ofParts Format.double true 0 := by decide
  have hconvert (v : Value) (x : Binary64) :
      v.toDouble = .ok x ↔ ∃ y, v.toDouble = .ok y ∧ y = x := by simp
  exact .of_toDouble (k := .double) (g := fun x => x) hconvert Iff.rfl Iff.rfl (fun _ => id) rfl hne

theorem verdict_single : Verdict s .single := by
  have hne : (Binary.zero Format.double).convert Format.single ≠
      (Binary.ofParts Format.double true 0).convert Format.single := by decide
  exact .of_toDouble (k := .single) (g := Binary.convert Format.single) (fun v c => map_eq_ok)
    Iff.rfl Iff.rfl (fun _ => mt Binary.isNaN_of_isNaN_convert) rfl hne

/-- **A text and its bytes, converted to any kind** but that of identifiers. -/
theorem verdict (s : String) {k : ScalarKind} (hk : k ≠ .uuid) : Verdict s k := by
  cases k with
  | bool => exact verdict_bool
  | int k => exact verdict_int k
  | single => exact verdict_single
  | double => exact verdict_double
  | text => exact verdict_text
  | bytes => exact verdict_bytes
  | uuid => exact absurd rfl hk
  | dateTime => exact verdict_dateTime

end ScalarKind

/-! ## Types -/

/-- **What a text and its bytes come to in a type.** -/
structure ReportsAlike (s : String) (t : ValueType) : Prop where
  /-- Both are taken or neither is, exactly if the kind of the type takes them alike. -/
  taken_iff : ((∃ v, (Value.bytes (utf8Bytes s)).coerce t = .ok v) ↔
    ∃ v, (Value.text s).coerce t = .ok v) ↔ t.kind.TakesAlike s
  /-- Where both are taken, the values are the same to the mapper. -/
  same (v w : Value) : (Value.bytes (utf8Bytes s)).coerce t = .ok v →
    (Value.text s).coerce t = .ok w → v.same w = true
  /-- They come to the same in every respect unless the sign of a zero is lost. -/
  eq_iff : (∀ v, (Value.bytes (utf8Bytes s)).coerce t = .ok v ↔
    (Value.text s).coerce t = .ok v) ↔ t.kind.TakesAlike s ∧ ¬ t.kind.LosesSign s

/-- A value that is not null is coerced to what it is converted to. -/
theorem Value.coerce_eq_ok_iff {v w : Value} {t : ValueType} (hv : v ≠ .null) :
    v.coerce t = .ok w ↔ ∃ c, v.convert t.kind = .ok c ∧ t.kind.toValue c = w := by
  rw [Value.coerce, Value.isNull_eq_false hv]
  exact map_eq_ok

/-- **A text and its bytes, put into any type** but those of identifiers. -/
theorem reportsAlike (s : String) {t : ValueType} (ht : t.kind ≠ .uuid) : ReportsAlike s t := by
  have hbytes {w : Value} :=
    Value.coerce_eq_ok_iff (v := .bytes (utf8Bytes s)) (w := w) (t := t) nofun
  have htext {w : Value} := Value.coerce_eq_ok_iff (v := .text s) (w := w) (t := t) nofun
  cases ScalarKind.verdict s ht with
  | @both c c' hc hc' halike hsame heq =>
    have hv {v : Value} : (Value.bytes (utf8Bytes s)).coerce t = .ok v ↔ t.kind.toValue c = v := by
      simp [hbytes, hc]
    have hw {v : Value} : (Value.text s).coerce t = .ok v ↔ t.kind.toValue c' = v := by
      simp [htext, hc']
    refine ⟨iff_of_true ?_ halike, ?_, ?_⟩
    · exact iff_of_true ⟨_, hv.mpr rfl⟩ ⟨_, hw.mpr rfl⟩
    · intro v w hv' hw'
      rw [← hv.mp hv', ← hw.mp hw']
      exact hsame
    · rw [and_iff_right halike, ← heq]
      constructor
      · exact fun h => (t.kind.toValue_injective (hw.mp ((h _).mp (hv.mpr rfl)))).symm
      · rintro rfl v
        exact hv.trans hw.symm
  | neither hc hc' halike hsign =>
    have hv (v : Value) : (Value.bytes (utf8Bytes s)).coerce t ≠ .ok v := fun h => by
      obtain ⟨c, h, -⟩ := hbytes.mp h
      exact hc c h
    have hw (v : Value) : (Value.text s).coerce t ≠ .ok v := fun h => by
      obtain ⟨c, h, -⟩ := htext.mp h
      exact hc' c h
    exact ⟨iff_of_true (iff_of_false (not_exists.mpr hv) (not_exists.mpr hw)) halike,
      fun v _ h => absurd h (hv v),
      iff_of_true (fun v => iff_of_false (hv v) (hw v)) ⟨halike, hsign⟩⟩
  | one hone halike =>
    -- What is converted on the one side only is taken on this side only.
    have hsplit : ¬ ((∃ v, (Value.bytes (utf8Bytes s)).coerce t = .ok v) ↔
        ∃ v, (Value.text s).coerce t = .ok v) := by
      simpa [hbytes, htext] using hone
    refine ⟨iff_of_false hsplit halike, fun v w hv hw => ?_, iff_of_false (fun h => ?_) ?_⟩
    · exact absurd (iff_of_true ⟨v, hv⟩ ⟨w, hw⟩) hsplit
    · exact hsplit (exists_congr h)
    · exact fun h => halike h.1

end EntityMapper

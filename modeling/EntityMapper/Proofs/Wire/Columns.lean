import EntityMapper.Proofs.Calendar.Instants
import EntityMapper.Proofs.Text.Utf8
import EntityMapper.Proofs.Value.Conversion
import EntityMapper.Wire.ColumnType

/-!
# Values that come back

A value that is sent as a parameter comes back from a column of the same type in the form that
belongs to the type. Only points in time lose something, which is less than a microsecond.

## Main definitions

* `ColumnType.converted`: the types to whose form values are converted
* `ReadBack v r`: what is read where a value was written
* `Carried t k v`: a value is carried by a type

## Main results

* `readBack_encodeValue`: a value in the form of a type is read back
* `encodeParameter_carried`: any value is carried by any of the types
-/

namespace EntityMapper.Wire

open EntityMapper.Calendar EntityMapper.Decimal EntityMapper.Text

/-- **What is read where a value was written**: the value, but for a point in time, which is
truncated to microseconds. Of leap seconds nothing is said. -/
def ReadBack : Value → Option Value → Prop
  | .dateTime d, r => d.nano < 1000000000 →
    ∃ d', r = some (.dateTime d') ∧ d.Truncates d' ∧ (d.nano % 1000 = 0 → d' = d)
  | v, r => r = some v

/-! ## Forms of values -/

/-- An integer that fits the width is read back, with its sign. -/
theorem decodeInteger_signedBytes (width : Nat) {k : IntKind} (n : BoundedInt k) (hk : k ≠ .u32)
    (hlo : -(Nat.pow 256 width / 2 : Int) ≤ k.lo)
    (hhi : k.hi < (Nat.pow 256 width + 1 : Int) / 2) :
    decodeInteger width k (signedBytes width n.val) = some (.int k n) := by
  have hbmod : Int.bmod n.val (Nat.pow 256 width) = n.val :=
    Int.bmod_eq_of_le (hlo.trans n.contains.1) (n.contains.2.trans_lt hhi)
  have hn : BoundedInt.ofInt? k n.val = some n := dif_pos n.contains
  rw [decodeInteger, if_pos (length_signedBytes width n.val), if_neg hk,
    ofSignedBytes_signedBytes hbmod]
  exact congrArg (Option.map (Value.int k)) hn

/-- An identifier of an object is read back, without a sign. -/
theorem decodeInteger_oid (n : BoundedInt .u32) :
    decodeInteger 4 .u32 (signedBytes 4 n.val) = some (.int .u32 n) := by
  have hn : BoundedInt.ofInt? .u32 n.val = some n := dif_pos n.contains
  obtain ⟨hlo, hhi⟩ := n.contains
  have hval : (ofBigEndian (signedBytes 4 n.val) : Int) = n.val := by
    rw [signedBytes, ofBigEndian_bigEndian]
    simp only [IntKind.lo, IntKind.hi] at hlo hhi
    show (((n.val % 4294967296).toNat % 4294967296 : Nat) : Int) = n.val
    omega
  rw [decodeInteger, if_pos (length_signedBytes 4 n.val), if_pos rfl, hval]
  exact congrArg (Option.map (Value.int .u32)) hn

/-- The bits of a floating-point number are read back. -/
theorem decodeFloat_floatBytes {f : Format} (hf : Nat.pow 256 (f.width / 8) = 2 ^ f.width)
    (x : Binary f) : decodeFloat f (floatBytes x) = some x := by
  rw [decodeFloat, floatBytes, if_pos (length_bigEndian _ _), ofBigEndian_bigEndian, hf,
    Nat.mod_eq_of_lt x.bits.isLt, BitVec.ofNat_toNat, BitVec.setWidth_eq]

theorem decodeBytes_float4 (x : Binary32) :
    decodeBytes .float4 (floatBytes x) = some (.single x) := by
  rw [decodeBytes, decodeFloat_floatBytes rfl]
  rfl

theorem decodeBytes_float8 (x : Binary64) :
    decodeBytes .float8 (floatBytes x) = some (.double x) := by
  rw [decodeBytes, decodeFloat_floatBytes rfl]
  rfl

theorem decodeBytes_uuid (u : Uuid) : decodeBytes .uuid u.bytes = some (.uuid u) := by
  rw [decodeBytes, Uuid.ofBytes?, dif_pos u.length_bytes]
  rfl

theorem decodeText_utf8Bytes (s : String) : decodeText (utf8Bytes s) = some (.text s) := by
  rw [decodeText, utf8Decode_utf8Bytes]

/-- A point in time is read back in whole microseconds. -/
theorem decodeDateTime_signedBytes (d : DateTime) :
    ReadBack (.dateTime d) (decodeDateTime (signedBytes 8 d.microsecondsFrom2000)) := by
  intro hnano
  obtain ⟨d', hd', htruncates⟩ := d.exists_truncates hnano
  obtain ⟨hlow, hhigh⟩ := d.microsecondsFrom2000_bounds hnano
  -- The calendar does not reach beyond 64 bits.
  have hfirst : -(Nat.pow 256 8 / 2 : Int) ≤ (yearFirst minYear - daysTo2000) * 86400000000 := by
    decide
  have hlast : (yearFirst (maxYear + 1) - daysTo2000) * 86400000000 ≤
      (Nat.pow 256 8 + 1 : Int) / 2 := by decide
  have hbmod := Int.bmod_eq_of_le (hfirst.trans hlow) (hhigh.trans_le hlast)
  refine ⟨d', ?_, htruncates, htruncates.eq hnano⟩
  rw [decodeDateTime, if_pos (length_signedBytes 8 _), ofSignedBytes_signedBytes hbmod, hd']
  rfl

/-! ## Types of columns -/

/-- **A value in the form that belongs to a type is read back** from its bytes. -/
theorem readBack_encodeValue {t : ColumnType} {k : ScalarKind} (ht : t.target? = some k)
    (x : k.Carrier) :
    ∃ bs, encodeValue t (k.toValue x) = .ok bs ∧
      ReadBack (k.toValue x) (decodeCell t (some bs)) := by
  cases t with
  | bool =>
    cases ht
    cases x
    all_goals exact ⟨_, rfl, rfl⟩
  | char =>
    cases ht
    exact ⟨_, rfl, decodeInteger_signedBytes 1 (k := .i8) x nofun (by decide) (by decide)⟩
  | int2 =>
    cases ht
    exact ⟨_, rfl, decodeInteger_signedBytes 2 (k := .i16) x nofun (by decide) (by decide)⟩
  | int4 =>
    cases ht
    exact ⟨_, rfl, decodeInteger_signedBytes 4 (k := .i32) x nofun (by decide) (by decide)⟩
  | int8 =>
    cases ht
    exact ⟨_, rfl, decodeInteger_signedBytes 8 (k := .i64) x nofun (by decide) (by decide)⟩
  | oid =>
    cases ht
    exact ⟨_, rfl, decodeInteger_oid x⟩
  | float4 =>
    cases ht
    exact ⟨_, rfl, decodeBytes_float4 x⟩
  | float8 =>
    cases ht
    exact ⟨_, rfl, decodeBytes_float8 x⟩
  | text | varchar | bpchar | name =>
    cases ht
    exact ⟨_, rfl, decodeText_utf8Bytes x⟩
  | bytea =>
    cases ht
    exact ⟨_, rfl, rfl⟩
  | uuid =>
    cases ht
    exact ⟨_, rfl, decodeBytes_uuid x⟩
  | timestamp =>
    cases ht
    exact ⟨_, rfl, decodeDateTime_signedBytes x⟩
  | timestamptz | unknown | json | jsonb | numeric | date | int4Array => cases ht

/-- **The types to whose form values are converted** before they are sent. -/
def ColumnType.converted : List ColumnType :=
  [.bool, .char, .int2, .int4, .int8, .oid, .float4, .float8, .text, .varchar, .bpchar, .name,
    .bytea, .uuid, .timestamp]

theorem ColumnType.exists_target {t : ColumnType} (ht : t ∈ converted) :
    ∃ k, t.target? = some k := by
  cases t
  all_goals simp [converted, target?] at ht ⊢

/-- **A value is carried** by a type: it is sent if it has the form of the type, and then comes back
in this form. Null, and nothing else, is sent as null. -/
structure Carried (t : ColumnType) (k : ScalarKind) (v : Value) : Prop where
  sent : v ≠ .null →
    ((∃ p, encodeParameter t v = .ok p) ↔ ∃ w, v.coerce ⟨k, false⟩ = .ok w)
  readBack : ∀ w, v.coerce ⟨k, false⟩ = .ok w →
    ∃ bs, encodeParameter t v = .ok (some bs) ∧ ReadBack w (decodeCell t (some bs))
  null : encodeParameter t v = .ok none ↔ v = .null

section Parameters

variable {t : ColumnType} {k : ScalarKind} {v w : Value} {fault : ConversionFault}

/-- Any value but null is converted before it is sent. -/
theorem encodeParameter_of_coerce (ht : t.target? = some k) (hv : v ≠ .null)
    (hw : v.coerce ⟨k, false⟩ = .ok w) : encodeParameter t v = (encodeValue t w).map some := by
  simp only [encodeParameter, Value.isNull_eq_false hv, ht, hw, Bool.false_eq_true, if_false]

/-- A value that is not converted is not sent. -/
theorem encodeParameter_of_fault (ht : t.target? = some k) (hv : v ≠ .null)
    (hfault : v.coerce ⟨k, false⟩ = .error fault) :
    encodeParameter t v = .error (.conversion fault) := by
  simp only [encodeParameter, Value.isNull_eq_false hv, ht, hfault, Bool.false_eq_true, if_false]

end Parameters

/-- **Any value is carried** by each of the types. -/
theorem encodeParameter_carried {t : ColumnType} (ht : t ∈ ColumnType.converted) :
    ∃ k, t.target? = some k ∧ ∀ v, Carried t k v := by
  obtain ⟨k, hk⟩ := ColumnType.exists_target ht
  refine ⟨k, hk, fun v => ?_⟩
  by_cases hv : v = .null
  · subst hv
    have hrefused : Value.null.coerce ⟨k, false⟩ = .error (.nullInto ⟨k, false⟩) := rfl
    refine ⟨fun hv => absurd rfl hv, fun w hw => ?_, iff_of_true rfl rfl⟩
    cases hrefused.symm.trans hw
  cases hcoerce : v.coerce ⟨k, false⟩ with
  | error fault =>
    have hunsent := encodeParameter_of_fault hk hv hcoerce
    refine ⟨fun _ => iff_of_false ?_ ?_, ?_, iff_of_false ?_ hv⟩
    all_goals simp [hunsent, hcoerce]
  | ok w =>
    -- What the value is converted to is content of the kind.
    obtain ⟨x, rfl⟩ := ValueType.holds_of_coerce hcoerce
    obtain ⟨bs, hbs, hread⟩ := readBack_encodeValue hk x
    have hsent : encodeParameter t v = .ok (some bs) :=
      (encodeParameter_of_coerce hk hv hcoerce).trans (map_eq_ok.mpr ⟨bs, hbs, rfl⟩)
    refine ⟨fun _ => iff_of_true ⟨_, hsent⟩ ⟨_, hcoerce⟩, ?_, iff_of_false ?_ hv⟩
    · intro w hw
      obtain rfl := Except.ok.inj (hcoerce.symm.trans hw)
      exact ⟨bs, hsent, hread⟩
    · simp [hsent]

/-- The last nanosecond before the start of 2000. -/
def lastNanosecond : DateTime := ⟨1999, 12, 31, 23, 59, 59, 999999999, by decide, by decide⟩

/-- The last nanosecond before the start of 2000 comes back as the start of 2000. -/
theorem lastNanosecond_carried : ∃ bs,
    encodeParameter .timestamp (.dateTime lastNanosecond) = .ok (some bs) ∧
      decodeCell .timestamp (some bs) =
        some (.dateTime ⟨2000, 1, 1, 0, 0, 0, 0, by decide, by decide⟩) := by
  obtain ⟨k, hk, hcarried⟩ := encodeParameter_carried (t := .timestamp) (by decide)
  cases hk
  obtain ⟨bs, hsent, hread⟩ := (hcarried (.dateTime lastNanosecond)).readBack _ rfl
  obtain ⟨d, hd, htruncates, -⟩ := hread (by decide)
  have hstart : d = ⟨2000, 1, 1, 0, 0, 0, 0, by decide, by decide⟩ :=
    DateTime.eq_of_nanosecondsFrom2000_eq htruncates.nano (by decide) htruncates.distance
  exact ⟨bs, hsent, hstart ▸ hd⟩

end EntityMapper.Wire

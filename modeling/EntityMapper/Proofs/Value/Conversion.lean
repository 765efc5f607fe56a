import EntityMapper.Proofs.Decimal.Widening
import EntityMapper.Proofs.Result
import EntityMapper.Value.Conversion

/-!
# Values that are already in the form of their type

A value in the form that belongs to a type goes into that type unchanged, except that what is not
a number may come back with other bits: a number of 32 bits stays in 64 bits meanwhile.

## Main definitions

* `ValueType.Holds t v`: the value is in the form that belongs to the type
* `Value.Alike v w`: the values are the same, or neither is a number

## Main results

* `coerce_of_holds`, `store_of_holds`: a value in the form of a type, coerced and stored
* `store_eq_coerce`: storing a value is coercing it
* `coerce_of_coerce`: coercing what was coerced before
-/

namespace EntityMapper

open EntityMapper.Decimal

/-- **The value is in the form that belongs to the type.** -/
def ValueType.Holds (t : ValueType) (v : Value) : Prop := ∃ c, t.toValue c = v

/-- **The values are the same**, or neither of them is a number. -/
inductive Value.Alike : Value → Value → Prop where
  | refl (v : Value) : Alike v v
  | single {x y : Binary32} (hx : x.IsNaN) (hy : y.IsNaN) : Alike (.single x) (.single y)

namespace Value

theorem Alike.trans {u v w : Value} (h : Alike u v) (h' : Alike v w) : Alike u w := by
  cases h with
  | refl => exact h'
  | single hx hy =>
    cases h' with
    | refl => exact .single hx hy
    | single _ hz => exact .single hx hz

end Value

theorem Value.isNull_eq_false {v : Value} (hv : v ≠ .null) : v.isNull = false := by
  cases v with
  | null => exact absurd rfl hv
  | _ => rfl

/-- An integer is within the bounds of its own kind. -/
theorem Value.toBounded_int {k : IntKind} (n : BoundedInt k) :
    (Value.int k n).toBounded k = .ok n := by
  have hn : BoundedInt.ofInt? k n.val = some n := dif_pos n.contains
  simp [Value.toBounded, Value.toInteger, hn, bind, Except.bind]

namespace ScalarKind

/-- What a field holds is not null. -/
theorem isNull_toValue (k : ScalarKind) (c : k.Carrier) : (k.toValue c).isNull = false := by
  cases k <;> rfl

/-- **What a field holds is converted to its own kind** without loss. -/
theorem convert_toValue (k : ScalarKind) (c : k.Carrier) :
    ∃ c', (k.toValue c).convert k = .ok c' ∧ (k.toValue c).Alike (k.toValue c') := by
  cases k with
  | int k => exact ⟨c, Value.toBounded_int c, .refl _⟩
  | single =>
    -- A number of 32 bits goes through 64 bits.
    refine ⟨(Binary.convert Format.double c).convert Format.single, rfl, ?_⟩
    by_cases hc : Binary.IsNaN c
    · have hwide := Binary.isQuiet_convert (g := Format.double) (by decide) hc
      exact .single hc (Binary.isQuiet_convert (by decide) hwide.isNaN).isNaN
    · rw [Binary.convert_convert hc]
      exact .refl _
  | _ => exact ⟨c, rfl, .refl _⟩

/-- What a value is converted to is converted to its own kind as it is. -/
theorem convert_of_convert (k : ScalarKind) {v : Value} {c : k.Carrier} (h : v.convert k = .ok c) :
    (k.toValue c).convert k = .ok c := by
  cases k with
  | int k => exact Value.toBounded_int c
  | single =>
    -- The value has been narrowed to 32 bits before.
    obtain ⟨x, -, rfl⟩ := map_eq_ok.mp h
    exact congrArg Except.ok (Binary.convert_convert_convert x)
  | _ => rfl

/-- A value that is not null is stored as what it is converted to. -/
theorem fromValue_eq (k : ScalarKind) {v : Value} (hv : v.isNull = false) :
    k.fromValue v = v.convert k := by
  unfold fromValue Value.coerce
  rw [hv]
  cases v.convert k with
  | error fault => rfl
  | ok c => simp [Except.map, bind, Except.bind, k.content?_toValue]

end ScalarKind

namespace ValueType

variable {t : ValueType} {v : Value}

/-- The content of a scalar kind is held by both of its types. -/
theorem holds_toValue (t : ValueType) (c : t.kind.Carrier) : t.Holds (t.kind.toValue c) := by
  obtain ⟨k, _ | _⟩ := t
  · exact ⟨c, rfl⟩
  · exact ⟨some c, rfl⟩

/-- A value in the form of a type is null, where the type allows it, or content of its kind. -/
theorem holds_cases (h : t.Holds v) :
    t.nullable = true ∧ v = .null ∨ ∃ c, v = t.kind.toValue c := by
  obtain ⟨k, _ | _⟩ := t
  · obtain ⟨c, rfl⟩ := h
    exact .inr ⟨c, rfl⟩
  · obtain ⟨_ | c, rfl⟩ := h
    · exact .inl ⟨rfl, rfl⟩
    · exact .inr ⟨c, rfl⟩

/-- **A value in the form of a type is coerced to the type** without loss. -/
theorem coerce_of_holds (h : t.Holds v) :
    ∃ w, v.coerce t = .ok w ∧ t.Holds w ∧ v.Alike w := by
  rcases holds_cases h with ⟨hn, rfl⟩ | ⟨c, rfl⟩
  · exact ⟨.null, by simp [Value.coerce, Value.isNull, hn], h, .refl _⟩
  · obtain ⟨c', hc, ha⟩ := t.kind.convert_toValue c
    refine ⟨t.kind.toValue c', ?_, t.holds_toValue c', ha⟩
    simp [Value.coerce, t.kind.isNull_toValue, hc, Except.map]

/-- Storing a value in a type puts it in the form of the type, or fails in the same way. -/
theorem store_eq_coerce (t : ValueType) (v : Value) : t.store v = v.coerce t := by
  obtain ⟨k, _ | _⟩ := t
  · -- Null is refused with the label of the type that is stored in.
    cases hv : v.isNull with
    | true =>
      simp [store, fromValue, ScalarKind.fromValue, Value.coerce, hv, bind, Except.bind,
        Except.map]
    | false =>
      rw [store, fromValue, k.fromValue_eq hv, Value.coerce, hv]
      rfl
  · cases hv : v.isNull with
    | true => simp [store, fromValue, toValue, Value.coerce, hv, Except.map]
    | false =>
      rw [store, fromValue, hv, k.fromValue_eq hv, Value.coerce, hv]
      cases v.convert k <;> rfl

/-- **A value in the form of a type is stored in the type** without loss. -/
theorem store_of_holds (h : t.Holds v) :
    ∃ w, t.store v = .ok w ∧ t.Holds w ∧ v.Alike w := by
  rw [store_eq_coerce]
  exact coerce_of_holds h

/-- What a value is coerced to is in the form of the type. -/
theorem holds_of_coerce {w : Value} (h : v.coerce t = .ok w) : t.Holds w := by
  unfold Value.coerce at h
  split at h
  · split at h
    · next hn =>
      cases h
      obtain ⟨k, _ | _⟩ := t
      · cases hn
      · exact ⟨none, rfl⟩
    · cases h
  · obtain ⟨c, -, rfl⟩ := map_eq_ok.mp h
    exact t.holds_toValue c

/-- **Coercing is done once and for all**: what a value is coerced to is coerced to itself. -/
theorem coerce_of_coerce {w : Value} (h : v.coerce t = .ok w) : w.coerce t = .ok w := by
  cases hv : v.isNull with
  | true =>
    -- Null has been coerced to null, if at all.
    cases hn : t.nullable with
    | true =>
      obtain rfl : Value.null = w := by simpa [Value.coerce, hv, hn] using h
      simp [Value.coerce, Value.isNull, hn]
    | false => simp [Value.coerce, hv, hn] at h
  | false =>
    have hconvert : (v.convert t.kind).map t.kind.toValue = .ok w := by
      simpa [Value.coerce, hv] using h
    obtain ⟨c, hc, rfl⟩ := map_eq_ok.mp hconvert
    simp [Value.coerce, t.kind.isNull_toValue, t.kind.convert_of_convert hc, Except.map]

end ValueType

end EntityMapper

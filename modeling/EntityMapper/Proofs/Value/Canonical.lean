import EntityMapper.Proofs.Value.Conversion

/-!
# Canonical forms

Every kind has one form of value, the canonical one. A type takes a value to the form of its kind,
or keeps it null; what it takes a value to, it takes to itself. Storing a value in a field of the
type goes the same way, and what the field holds is stored again without loss, so that no field
ever meets a value of another form than its own.

## Main definitions

* `Value.kind? v`: the kind whose form the value has
* `Foreseen x`: the conversion does not stop at a value of another form than it should have
* `ValueType.Canonical t`: what can be relied on when values are put into a type

## Main results

* `Value.foreseen_convert`: all conversions are foreseen
* `coerce_canonical`: every type can be relied on
-/

namespace EntityMapper

open EntityMapper.Decimal

/-! ## Forms -/

namespace Value

/-- **The kind whose form the value has.** Null has the form of no kind. -/
def kind? : Value → Option ScalarKind
  | null => none
  | bool _ => some .bool
  | int k _ => some (.int k)
  | single _ => some .single
  | double _ => some .double
  | text _ => some .text
  | bytes _ => some .bytes
  | uuid _ => some .uuid
  | dateTime _ => some .dateTime

/-- The value is a floating-point number in form only. -/
def IsNaN : Value → Prop
  | single x => x.IsNaN
  | double x => x.IsNaN
  | _ => False

instance : (v : Value) → Decidable v.IsNaN
  | single x => inferInstanceAs (Decidable x.IsNaN)
  | double x => inferInstanceAs (Decidable x.IsNaN)
  | null | bool _ | int _ _ | text _ | bytes _ | uuid _ | dateTime _ =>
    inferInstanceAs (Decidable False)

/-- A value is the same as itself, unless it is not a number. -/
theorem same_self_iff {v : Value} : v.same v = true ↔ ¬ v.IsNaN := by
  cases v with
  | single x => exact Binary.ieeeEq_self_iff
  | double x => exact Binary.ieeeEq_self_iff
  | _ => simp [same, IsNaN]

end Value

theorem ScalarKind.kind?_toValue (k : ScalarKind) (c : k.Carrier) :
    (k.toValue c).kind? = some k := by
  cases k <;> rfl

theorem ScalarKind.toValue_injective (k : ScalarKind) : Function.Injective k.toValue := by
  intro c c' h
  have hcontent := congrArg k.content? h
  rw [k.content?_toValue, k.content?_toValue] at hcontent
  exact Option.some.inj hcontent

/-- What a field holds is told from its canonical form. -/
theorem ValueType.toValue_injective (t : ValueType) : Function.Injective t.toValue := by
  obtain ⟨k, _ | _⟩ := t
  · exact k.toValue_injective
  -- Null is the canonical form of the absent value, and of nothing that a scalar kind has.
  · have hnull (c : k.Carrier) : k.toValue c ≠ .null := by
      rintro h
      simpa [h, Value.isNull] using k.isNull_toValue c
    rintro (_ | c) (_ | c') h
    · rfl
    · exact absurd h.symm (hnull c')
    · exact absurd h (hnull c)
    · exact congrArg some (k.toValue_injective h)

/-! ## Conversions that are foreseen -/

/-- The fault is that a value has another form than it was put into. -/
def ConversionFault.IsUnexpected : ConversionFault → Prop
  | unexpected _ => True
  | _ => False

/-- **The conversion does not stop at a value of another form than it should have.** -/
def Foreseen {α : Type} (x : Except ConversionFault α) : Prop :=
  ∀ fault, x = .error fault → ¬ fault.IsUnexpected

section Foreseen

variable {α β ε : Type} {x : Except ConversionFault α}

@[simp] theorem foreseen_ok (a : α) : Foreseen (.ok a) := by
  rintro _ ⟨⟩

@[simp] theorem foreseen_error {fault : ConversionFault} :
    Foreseen (.error fault : Except ConversionFault α) ↔ ¬ fault.IsUnexpected := by
  simp [Foreseen]

theorem Foreseen.bind {f : α → Except ConversionFault β} (hx : Foreseen x)
    (hf : ∀ a, Foreseen (f a)) : Foreseen (x >>= f) := by
  cases x with
  | error fault => exact foreseen_error.mpr (hx fault rfl)
  | ok a => exact hf a

theorem foreseen_mapError {f : ε → ConversionFault} (hf : ∀ e, ¬ (f e).IsUnexpected)
    (x : Except ε α) : Foreseen (x.mapError f) := by
  cases x with
  | error e => exact foreseen_error.mpr (hf e)
  | ok a => exact foreseen_ok a

end Foreseen

namespace Value

theorem foreseen_toInteger (v : Value) : Foreseen v.toInteger := by
  unfold toInteger
  repeat' split
  all_goals simp [ConversionFault.IsUnexpected]

theorem foreseen_toBounded (k : IntKind) (v : Value) : Foreseen (v.toBounded k) := by
  refine v.foreseen_toInteger.bind fun z => ?_
  split <;> simp [ConversionFault.IsUnexpected]

theorem foreseen_toDouble (v : Value) : Foreseen v.toDouble := by
  unfold toDouble
  split
  · exact foreseen_ok _
  · exact foreseen_ok _
  · split <;> simp [ConversionFault.IsUnexpected]
  · exact v.foreseen_toInteger.bind fun z => foreseen_ok _

theorem foreseen_toBool (v : Value) : Foreseen v.toBool := by
  unfold toBool
  split
  · exact foreseen_ok _
  · dsimp only
    repeat' split
    all_goals simp [ConversionFault.IsUnexpected]
  · exact v.foreseen_toInteger.bind fun z => foreseen_ok _

theorem foreseen_toText (v : Value) : Foreseen v.toText := by
  have hinteger := v.foreseen_toInteger.bind fun z => foreseen_ok (Text.integerText z)
  unfold toText
  repeat' split
  all_goals simp [hinteger, ConversionFault.IsUnexpected]

theorem foreseen_toBytes (v : Value) : Foreseen v.toBytes := by
  cases v <;> simp [toBytes, ConversionFault.IsUnexpected]

theorem foreseen_toUuid (v : Value) : Foreseen v.toUuid := by
  cases v with
  | text | bytes => exact foreseen_mapError (fun _ => id) _
  | _ => simp [toUuid, ConversionFault.IsUnexpected]

theorem foreseen_toDateTime (v : Value) : Foreseen v.toDateTime := by
  cases v with
  | text => exact foreseen_mapError (fun _ => id) _
  | _ => simp [toDateTime, ConversionFault.IsUnexpected]

/-- **All conversions are foreseen.** -/
theorem foreseen_convert (v : Value) : (k : ScalarKind) → Foreseen (v.convert k)
  | .bool => v.foreseen_toBool
  | .int k => v.foreseen_toBounded k
  | .single => v.foreseen_toDouble.bind fun _ => foreseen_ok _
  | .double => v.foreseen_toDouble
  | .text => v.foreseen_toText
  | .bytes => v.foreseen_toBytes
  | .uuid => v.foreseen_toUuid
  | .dateTime => v.foreseen_toDateTime

theorem foreseen_coerce (v : Value) (t : ValueType) : Foreseen (v.coerce t) := by
  unfold coerce
  split
  · split <;> simp [ConversionFault.IsUnexpected]
  · exact (v.foreseen_convert t.kind).bind fun c => foreseen_ok (t.kind.toValue c)

end Value

/-! ## What a type takes values to -/

namespace ValueType

/-- **What can be relied on when values are put into a type.** -/
structure Canonical (t : ValueType) : Prop where
  /-- Null comes from null, and only where the type allows it. -/
  null_iff (v w : Value) : v.coerce t = .ok w → (w = .null ↔ v = .null ∧ t.nullable)
  /-- Whatever is not null comes in the one form that belongs to the kind of the type. -/
  form (v w : Value) : v.coerce t = .ok w → v ≠ .null → w.kind? = some t.kind
  /-- What was put into the form of the type is in it. -/
  settled (v w : Value) : v.coerce t = .ok w → w.coerce t = .ok w
  /-- A field of the type stores a value as what the type takes it to, or fails as the type does. -/
  stored (v : Value) : (t.fromValue v).map t.toValue = v.coerce t
  /-- No field meets a value of another form than its own. -/
  foreseen (v w : Value) : t.fromValue v ≠ .error (.unexpected w)
  /-- What a field holds is stored again as it is, unless it is not a number. -/
  restored (c : t.Carrier) : ∃ c', t.fromValue (t.toValue c) = .ok c' ∧
    (c' = c ∨ (t.toValue c).IsNaN ∧ (t.toValue c').IsNaN)

variable {t : ValueType} {v w : Value}

/-- Values in the form of a type that are alike have the same content, or are not numbers. -/
theorem eq_or_isNaN_of_alike {c c' : t.Carrier} (h : (t.toValue c).Alike (t.toValue c')) :
    c' = c ∨ (t.toValue c).IsNaN ∧ (t.toValue c').IsNaN := by
  generalize hv : t.toValue c = v at h
  generalize hw : t.toValue c' = w at h
  cases h with
  | refl => exact .inl (t.toValue_injective (hw.trans hv.symm))
  | single hx hy => exact .inr ⟨hx, hy⟩

theorem kind?_of_coerce (h : v.coerce t = .ok w) (hv : v ≠ .null) : w.kind? = some t.kind := by
  have hconvert : (v.convert t.kind).map t.kind.toValue = .ok w := by
    simpa [Value.coerce, Value.isNull_eq_false hv] using h
  obtain ⟨c, -, rfl⟩ := map_eq_ok.mp hconvert
  exact t.kind.kind?_toValue c

/-- **Every type can be relied on** when values are put into it. -/
theorem coerce_canonical (t : ValueType) : t.Canonical where
  null_iff v w h := by
    by_cases hv : v = .null
    · subst hv
      cases hn : t.nullable with
      | true =>
        obtain rfl : Value.null = w := by simpa [Value.coerce, Value.isNull, hn] using h
        simp
      | false => simp [Value.coerce, Value.isNull, hn] at h
    · refine iff_of_false ?_ fun h' => hv h'.1
      rintro rfl
      cases kind?_of_coerce h hv
  form v w h hv := kind?_of_coerce h hv
  settled v w h := coerce_of_coerce h
  stored v := t.store_eq_coerce v
  foreseen v w h := by
    have hcoerce : v.coerce t = .error (.unexpected w) := by
      rw [← t.store_eq_coerce v, store, h]
      rfl
    exact v.foreseen_coerce t _ hcoerce trivial
  restored c := by
    obtain ⟨w, hstore, -, halike⟩ := store_of_holds ⟨c, rfl⟩
    obtain ⟨c', hc', rfl⟩ := map_eq_ok.mp hstore
    exact ⟨c', hc', eq_or_isNaN_of_alike halike⟩

end ValueType

end EntityMapper

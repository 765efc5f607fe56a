import EntityMapper.Proofs.Calendar.Text
import EntityMapper.Proofs.Uuid
import EntityMapper.Proofs.Value.Canonical
import EntityMapper.Proofs.Value.Integers

/-!
# Values as text

Truth values, integers, identifiers and points in time have a text, from which they are read back,
whatever blanks stand around it. Texts and their bytes, and identifiers and theirs, are read back
from each other.

## Main definitions

* `ScalarKind.IsSpelled k`: the values of the kind are read back from a text
* `Value.SpelledBy v k s`: the value has the text, and its kind reads it back

## Main results

* `Value.exists_spelledBy`: values of these kinds are read back from their text
* `Value.bytes_through_text`, `Value.uuid_through_bytes`: the other ways around
* `Value.spelling_faithful`: all of this together
-/

namespace EntityMapper

open EntityMapper.Calendar EntityMapper.Text

/-- **The values of the kind are read back from a text.** -/
def ScalarKind.IsSpelled : ScalarKind → Prop
  | bool | int _ | uuid | dateTime => True
  | single | double | text | bytes => False

namespace Value

/-- **The value has the text**, and its kind reads it back, whatever blanks stand around it. -/
structure SpelledBy (v : Value) (k : ScalarKind) (s : String) : Prop where
  written (nullable : Bool) : v.coerce ⟨.text, nullable⟩ = .ok (.text s)
  readBack (nullable : Bool) (a b : String) : Blanks a.toList → Blanks b.toList →
    (Value.text (a ++ s ++ b)).coerce ⟨k, nullable⟩ = .ok v

/-- Blanks around a text that neither begins nor ends with one. -/
theorem trimBlank_around {a s b : String} (ha : Blanks a.toList) (hs : Bare s.toList)
    (hb : Blanks b.toList) : trimBlank (a ++ s ++ b).toList = s.toList := by
  rw [String.toList_append, String.toList_append]
  exact trimBlank_between ha hs hb

theorem coerce_text_eq (s : String) (k : ScalarKind) (nullable : Bool) :
    (Value.text s).coerce ⟨k, nullable⟩ = ((Value.text s).convert k).map k.toValue := rfl

/-! ## The kinds -/

/-- The word for a truth value. -/
theorem bool_spelledBy (b : Bool) :
    (Value.bool b).SpelledBy .bool (if b then "true" else "false") where
  written nullable := rfl
  readBack nullable a c ha hc := by
    have hbare : Bare (if b then "true" else "false" : String).toList := by
      apply bare_of_forall
      have hnone : ((if b then "true" else "false" : String).toList.any isBlank) = false := by
        cases b <;> rfl
      intro c hc
      exact eq_false_of_ne_true (List.any_eq_false.mp hnone c hc)
    have hword : trim (a ++ (if b then "true" else "false") ++ c) = if b then "true" else "false" := by
      rw [trim, trimBlank_around ha hbare hc, String.ofList_toList]
    rw [coerce_text_eq, convert, toBool, hword]
    cases b <;> rfl

theorem int_spelledBy {k : IntKind} (n : BoundedInt k) :
    (Value.int k n).SpelledBy (.int k) (integerText n.val) where
  written nullable := rfl
  readBack nullable a b ha hb := by
    have htext : (a ++ integerText n.val ++ b).toList = a.toList ++ integerChars n.val ++ b.toList := by
      rw [String.toList_append, String.toList_append, integerText, String.toList_ofList]
    -- The text denotes the integer, which its kind contains.
    have hdenotes := Denotes.text htext ha (numeral_integerChars n.val) hb
    have hnull : Value.text (a ++ integerText n.val ++ b) ≠ .null := nofun
    exact (coerce_int_iff hnull).mpr ⟨n.val, n.contains, hdenotes, rfl⟩

theorem uuid_spelledBy (u : Uuid) : (Value.uuid u).SpelledBy .uuid u.text where
  written nullable := rfl
  readBack nullable a b ha hb := by
    have htext : u.text.toList = u.chars := String.toList_ofList
    have htrim : trimBlank (a ++ u.text ++ b).toList = u.chars := by
      rw [trimBlank_around ha (htext ▸ u.bare_chars) hb, htext]
    rw [coerce_text_eq, convert, toUuid, htrim, u.ofText_chars]
    rfl

theorem dateTime_spelledBy (t : DateTime) :
    (Value.dateTime t).SpelledBy .dateTime t.spacedText where
  written nullable := rfl
  readBack nullable a b ha hb := by
    have htext : t.spacedText.toList = t.chars ' ' := String.toList_ofList
    have htrim : trimBlank (a ++ t.spacedText ++ b).toList = t.chars ' ' := by
      rw [trimBlank_around ha (htext ▸ t.bare_chars ' ') hb, htext]
    rw [coerce_text_eq, convert, toDateTime, htrim, t.ofText_chars]
    rfl

/-- **Values of these kinds are read back from their text.** -/
theorem exists_spelledBy {v : Value} {k : ScalarKind} (hv : v.kind? = some k) (hk : k.IsSpelled) :
    ∃ s, v.SpelledBy k s := by
  cases v with
  | null => cases hv
  | bool b =>
    cases hv
    exact ⟨_, bool_spelledBy b⟩
  | int k n =>
    cases hv
    exact ⟨_, int_spelledBy n⟩
  | uuid u =>
    cases hv
    exact ⟨_, uuid_spelledBy u⟩
  | dateTime t =>
    cases hv
    exact ⟨_, dateTime_spelledBy t⟩
  | single | double | text | bytes =>
    cases hv
    exact hk.elim

/-! ## Bytes -/

/-- Valid bytes are those of a text. -/
theorem exists_utf8Bytes {bs : List UInt8} (h : bs.toByteArray.IsValidUTF8) :
    ∃ s, bs = utf8Bytes s := by
  obtain ⟨cs, hcs⟩ := h
  have hbs : bs = utf8Encode cs := List.toByteArray_inj.mp hcs
  refine ⟨String.ofList cs, ?_⟩
  rw [hbs, utf8Bytes, String.toList_ofList]

/-- **Valid bytes are read back from the text that they spell.** -/
theorem bytes_through_text {bs : List UInt8} (h : bs.toByteArray.IsValidUTF8)
    (nullable nullable' : Bool) :
    ∃ s, (Value.bytes bs).coerce ⟨.text, nullable⟩ = .ok (.text s) ∧
      (Value.text s).coerce ⟨.bytes, nullable'⟩ = .ok (.bytes bs) := by
  obtain ⟨s, rfl⟩ := exists_utf8Bytes h
  have htext : (Value.bytes (utf8Bytes s)).toText = .ok s := by
    simp only [toText, utf8Decode_utf8Bytes]
  refine ⟨s, ?_, rfl⟩
  show (Value.bytes (utf8Bytes s)).toText.map Value.text = _
  rw [htext]
  rfl

/-- **An identifier is read back from its bytes.** -/
theorem uuid_through_bytes (u : Uuid) (nullable nullable' : Bool) :
    (Value.uuid u).coerce ⟨.bytes, nullable⟩ = .ok (.bytes u.bytes) ∧
      (Value.bytes u.bytes).coerce ⟨.uuid, nullable'⟩ = .ok (.uuid u) := by
  have hread : (Value.bytes u.bytes).toUuid = .ok u := by
    rw [toUuid, Uuid.ofBytes, Uuid.ofBytes?, dif_pos u.length_bytes]
    rfl
  refine ⟨rfl, ?_⟩
  show (Value.bytes u.bytes).toUuid.map Value.uuid = _
  rw [hread]
  rfl

/-- **Values are read back from the forms that they are written in**: those of the kinds above from
their texts, valid bytes from theirs, and identifiers from their bytes. -/
theorem spelling_faithful :
    (∀ (v : Value) (k : ScalarKind), v.kind? = some k → k.IsSpelled → ∃ s, v.SpelledBy k s) ∧
      (∀ (bs : List UInt8) (nullable nullable' : Bool), bs.toByteArray.IsValidUTF8 →
        ∃ s, (Value.bytes bs).coerce ⟨.text, nullable⟩ = .ok (.text s) ∧
          (Value.text s).coerce ⟨.bytes, nullable'⟩ = .ok (.bytes bs)) ∧
      ∀ (u : Uuid) (nullable nullable' : Bool),
        (Value.uuid u).coerce ⟨.bytes, nullable⟩ = .ok (.bytes u.bytes) ∧
          (Value.bytes u.bytes).coerce ⟨.uuid, nullable'⟩ = .ok (.uuid u) :=
  ⟨fun _ _ => exists_spelledBy, fun _ n n' h => bytes_through_text h n n', uuid_through_bytes⟩

/-- The last second of the first day of the calendar, a leap second, with its text between blanks of
two kinds; and the bytes of a letter that takes two. -/
theorem spelling_faithful_leap_second :
    ∃ t : DateTime, t.year = -262143 ∧ t.second = 59 ∧ t.nano = 1500000000 ∧
      ((Value.dateTime t).kind? = some .dateTime ∧ ScalarKind.dateTime.IsSpelled) ∧
      (∃ s, (Value.dateTime t).coerce ⟨.text, false⟩ = .ok (.text s) ∧
        (Value.text ("\u2003" ++ s ++ "\n")).coerce ⟨.dateTime, true⟩ = .ok (.dateTime t)) ∧
      [0xC3, 0xA9].toByteArray.IsValidUTF8 ∧
      ∃ s, (Value.bytes [0xC3, 0xA9]).coerce ⟨.text, false⟩ = .ok (.text s) ∧
        (Value.text s).coerce ⟨.bytes, false⟩ = .ok (.bytes [0xC3, 0xA9]) := by
  obtain ⟨hspelled, hvalid, -⟩ := spelling_faithful
  let t : DateTime := ⟨-262143, 1, 1, 23, 59, 59, 1500000000, by decide, by decide⟩
  have hletter : [0xC3, 0xA9].toByteArray.IsValidUTF8 := ⟨['é'], rfl⟩
  obtain ⟨s, hs⟩ := hspelled (.dateTime t) .dateTime rfl trivial
  refine ⟨t, rfl, rfl, rfl, ⟨rfl, trivial⟩, ⟨s, hs.written false, ?_⟩, hletter,
    hvalid _ false false hletter⟩
  exact hs.readBack true "\u2003" "\n" (List.forall_mem_singleton.mpr rfl)
    (List.forall_mem_singleton.mpr rfl)

end Value

end EntityMapper

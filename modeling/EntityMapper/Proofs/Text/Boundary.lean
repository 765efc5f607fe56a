import EntityMapper.Text.Boundary
import Mathlib.Data.List.Infix
import Mathlib.Data.Nat.Find

/-!
# Texts cut within a limit of bytes

The boundaries of a text are the lengths of its beginnings. So the last boundary within a limit is
the length of the longest beginning within it, and that beginning is what a text is cut to.

## Main definitions

* `LongestWithin limit s t`: `t` is the longest beginning of `s` within a limit of bytes

## Main results

* `charsBefore?_eq_some_iff`: the part before an index is the beginning of that length
* `boundaryBelow_eq_findGreatest`: the search finds the greatest boundary
* `exists_cutText?_eq`: a text is cut to its longest beginning within the limit
-/

namespace EntityMapper.Text

/-! ## Lengths -/

theorem utf8ByteSize_ofList (cs : List Char) : (String.ofList cs).utf8ByteSize = utf8Length cs := by
  induction cs with
  | nil => rfl
  | cons c cs ih =>
    rw [String.ofList_cons, String.utf8ByteSize_append, String.utf8ByteSize_singleton, ih,
      utf8Length_cons]

theorem utf8Length_toList (s : String) : utf8Length s.toList = s.utf8ByteSize := by
  rw [← utf8ByteSize_ofList, String.ofList_toList]

/-- Of two beginnings of a text, the one without more bytes is a beginning of the other. -/
theorem prefix_of_utf8Length_le {cs p q : List Char} (hp : p <+: cs) (hq : q <+: cs)
    (h : utf8Length p ≤ utf8Length q) : p <+: q := by
  obtain hpq | ⟨r, rfl⟩ := List.prefix_or_prefix_of_prefix hp hq
  · exact hpq
  · rw [utf8Length_append] at h
    obtain rfl := utf8Length_eq_zero.mp (show utf8Length r = 0 by omega)
    rw [List.append_nil]

/-! ## Boundaries -/

/-- **The part of a text before an index is its beginning of that length**, if it has one. -/
theorem charsBefore?_eq_some_iff {cs p : List Char} {i : Nat} :
    charsBefore? i cs = some p ↔ p <+: cs ∧ utf8Length p = i := by
  fun_induction charsBefore? i cs generalizing p with
  | case1 cs =>
    rw [Option.some.injEq, utf8Length_eq_zero, eq_comm]
    exact ⟨fun h => ⟨h ▸ List.nil_prefix, h⟩, And.right⟩
  | case2 i =>
    rw [List.prefix_nil]
    refine ⟨nofun, ?_⟩
    rintro ⟨rfl, h⟩
    cases h
  | case3 i c cs hfits ih =>
    rw [Option.map_eq_some_iff, List.prefix_cons_iff]
    constructor
    · rintro ⟨t, ht, rfl⟩
      obtain ⟨hbegins, hlength⟩ := ih.mp ht
      refine ⟨.inr ⟨t, rfl, hbegins⟩, ?_⟩
      rw [utf8Length_cons, hlength]
      omega
    · rintro ⟨rfl | ⟨t, rfl, hbegins⟩, h⟩
      · cases h
      · rw [utf8Length_cons] at h
        exact ⟨t, ih.mpr ⟨hbegins, by omega⟩, rfl⟩
  | case4 i c cs hfits =>
    -- The index is inside the first character, and no beginning ends there.
    rw [List.prefix_cons_iff]
    refine ⟨nofun, ?_⟩
    rintro ⟨rfl | ⟨t, rfl, -⟩, h⟩
    · cases h
    · rw [utf8Length_cons] at h
      omega

/-- The search for a boundary finds the greatest one. -/
theorem boundaryBelow_eq_findGreatest (bs : List UInt8) (i : Nat) :
    boundaryBelow bs i = Nat.findGreatest (fun j => isBoundary bs j = true) i := by
  induction i with
  | zero => rfl
  | succ i ih => rw [boundaryBelow, Nat.findGreatest_succ, ih]

/-- **Before the last boundary within a limit** is the longest beginning within it. -/
theorem exists_charsBefore?_boundaryBelow (limit : Nat) (cs : List Char) :
    ∃ p, charsBefore? (boundaryBelow (utf8Encode cs) limit) cs = some p ∧ p <+: cs ∧
      utf8Length p ≤ limit ∧ ∀ q, q <+: cs → utf8Length q ≤ limit → q <+: p := by
  have hboundary := isBoundary_boundaryBelow (utf8Encode cs) limit
  rw [isBoundary_utf8Encode] at hboundary
  obtain ⟨p, hp⟩ := Option.isSome_iff_exists.mp hboundary
  obtain ⟨hbegins, hlength⟩ := charsBefore?_eq_some_iff.mp hp
  refine ⟨p, hp, hbegins, ?_, fun q hq hfits => ?_⟩
  · rw [hlength, boundaryBelow_eq_findGreatest]
    exact Nat.findGreatest_le limit
  · -- The end of every beginning is a boundary, so that the search does not go below it.
    have hq' : isBoundary (utf8Encode cs) (utf8Length q) = true := by
      rw [isBoundary_utf8Encode, charsBefore?_eq_some_iff.mpr ⟨hq, rfl⟩]
      rfl
    apply prefix_of_utf8Length_le hq hbegins
    rw [hlength, boundaryBelow_eq_findGreatest]
    exact Nat.le_findGreatest hfits hq'

/-! ## Cut texts -/

/-- **The longest beginning of a text within a limit of bytes**: whole characters from its start
on, and all others that keep the limit are beginnings of it. -/
structure LongestWithin (limit : Nat) (s t : String) : Prop where
  beginning : t.toList <+: s.toList
  fits : t.utf8ByteSize ≤ limit
  longest : ∀ u : String, u.toList <+: s.toList → u.utf8ByteSize ≤ limit → u.toList <+: t.toList

namespace LongestWithin

variable {limit : Nat} {s t : String}

/-- A text within the limit is its own longest beginning. -/
theorem self (h : s.utf8ByteSize ≤ limit) : LongestWithin limit s s :=
  ⟨List.prefix_refl _, h, fun _ hu _ => hu⟩

/-- It has no other one. -/
theorem eq_self (ht : LongestWithin limit s t) (h : s.utf8ByteSize ≤ limit) : t = s :=
  String.toList_injective
    (ht.beginning.eq_of_length_le (ht.longest s (List.prefix_refl _) h).length_le)

end LongestWithin

/-- **A text is cut to its longest beginning within the limit.** -/
theorem exists_cutText?_eq (limit : Nat) (s : String) :
    ∃ t, cutText? limit s = some t ∧ LongestWithin limit s t := by
  rw [cutText?, utf8Length_toList]
  split
  · next hfits => exact ⟨s, rfl, .self hfits⟩
  · obtain ⟨p, hp, hbegins, hfits, hlongest⟩ := exists_charsBefore?_boundaryBelow limit s.toList
    refine ⟨String.ofList p, by rw [utf8Bytes, hp]; rfl, ?_, ?_, fun u hu hu' => ?_⟩
    · rwa [String.toList_ofList]
    · rwa [utf8ByteSize_ofList]
    · rw [String.toList_ofList]
      exact hlongest u.toList hu (utf8Length_toList u ▸ hu')

end EntityMapper.Text

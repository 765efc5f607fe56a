/-!
# Segments of a text

A text is cut at every place where a separator stands, into one segment more than there are
separators.

## Main definitions

* `segments sep s`: the segments of `s`

## Main results

* `intercalate_segments`: the segments, with the separator between them, are the text again
* `notMem_segments`: no segment holds the separator
* `segments_append`: a text is cut apart from what comes after a separator
* `segments_intercalate`: texts put together with separators are cut each for itself
-/

namespace EntityMapper.Text

/-- **The segments of a text between separators**; there is always at least one. -/
def segments (sep : Char) : List Char → List (List Char)
  | [] => [[]]
  | c :: cs =>
    if c = sep then [] :: segments sep cs
    else match segments sep cs with
      | s :: ss => (c :: s) :: ss
      | [] => [[c]]

theorem segments_ne_nil (sep : Char) (cs : List Char) : segments sep cs ≠ [] := by
  induction cs with
  | nil => simp [segments]
  | cons c cs ih =>
    unfold segments
    split
    · simp
    · split <;> simp

/-- The segments, with the separator between them, are the text again. -/
theorem intercalate_segments (sep : Char) (cs : List Char) :
    [sep].intercalate (segments sep cs) = cs := by
  induction cs with
  | nil => simp [segments, List.intercalate]
  | cons c cs ih =>
    have hne := segments_ne_nil sep cs
    unfold segments
    match hs : segments sep cs with
    | [] => exact absurd hs hne
    | [s] =>
      rw [hs] at ih
      by_cases hc : c = sep <;> simp_all [List.intercalate, List.intersperse]
    | s :: t :: ss =>
      rw [hs] at ih
      by_cases hc : c = sep <;> simp_all [List.intercalate, List.intersperse]

/-- No segment holds the separator. -/
theorem notMem_segments (sep : Char) (cs : List Char) : ∀ s ∈ segments sep cs, sep ∉ s := by
  induction cs with
  | nil => simp [segments]
  | cons c cs ih =>
    unfold segments
    by_cases hc : c = sep
    · simp [hc]
      exact ih
    · simp only [hc, ↓reduceIte]
      match hs : segments sep cs with
      | [] => simp [Ne.symm hc]
      | s :: ss =>
        rw [hs] at ih
        simp only [List.mem_cons, forall_eq_or_imp] at ih ⊢
        exact ⟨by simpa [Ne.symm hc] using ih.1, ih.2⟩

/-- A text without separators is its only segment. -/
theorem segments_of_notMem {sep : Char} {cs : List Char} (h : sep ∉ cs) :
    segments sep cs = [cs] := by
  induction cs with
  | nil => rfl
  | cons c cs ih =>
    rw [List.mem_cons, not_or] at h
    simp [segments, Ne.symm h.1, ih h.2]

/-- A text is cut apart from what comes after a separator. -/
theorem segments_append (sep : Char) (cs ds : List Char) :
    segments sep (cs ++ sep :: ds) = segments sep cs ++ segments sep ds := by
  induction cs with
  | nil => simp [segments]
  | cons c cs ih =>
    by_cases hc : c = sep
    · simp [segments, hc, ih]
    · cases hs : segments sep cs with
      | nil => exact absurd hs (segments_ne_nil sep cs)
      | cons s ss => simp [segments, hc, ih, hs]

/-- Texts put together with separators are cut each for itself. -/
theorem segments_intercalate (sep : Char) {xs : List (List Char)} (h : xs ≠ []) :
    segments sep ([sep].intercalate xs) = xs.flatMap (segments sep) := by
  induction xs with
  | nil => exact absurd rfl h
  | cons x xs ih =>
    cases xs with
    | nil => simp
    | cons y ys =>
      rw [List.intercalate_cons_cons, List.append_assoc, List.singleton_append, segments_append,
        ih (List.cons_ne_nil y ys)]
      rfl

end EntityMapper.Text

import EntityMapper.Text.Utf8

/-!
# Boundaries between characters

Indices into the bytes of a text, and what stands before them. Before an index that is inside a
character, or beyond the end, there is no part of the text.

## Main definitions

* `isBoundary bs i`: no character goes across the index
* `boundaryBelow bs i`: the last such index up to `i`
* `charsBefore? i cs`: the part of a text before an index
* `cutText? limit s`, `cutText limit s`: a text cut at the last boundary within a limit

## Main results

* `isBoundary_utf8Encode`: the boundaries are the indices before which there is a part of the text
* `isSome_cutText?`: so cutting a text never fails
-/

namespace EntityMapper.Text

/-! ## Indices -/

/-- **No character goes across the index**: the byte there is the first one of a character, or the
index is at the end. Nothing beyond the end is a boundary. -/
def isBoundary (bs : List UInt8) (i : Nat) : Bool :=
  i == 0 || match bs[i]? with
    | some b => decide b.IsUTF8FirstByte
    | none => i == bs.length

/-- **The last boundary up to the index**, looked for byte by byte toward the start. -/
def boundaryBelow (bs : List UInt8) : Nat → Nat
  | 0 => 0
  | i + 1 => if isBoundary bs (i + 1) then i + 1 else boundaryBelow bs i

/-- **The part of a text before an index of its bytes.** There is none if the index is beyond the
end or inside a character. -/
def charsBefore? : Nat → List Char → Option (List Char)
  | 0, _ => some []
  | _ + 1, [] => none
  | i + 1, c :: cs =>
    if c.utf8Size ≤ i + 1 then (charsBefore? (i + 1 - c.utf8Size) cs).map (c :: ·) else none

@[simp] theorem isBoundary_zero (bs : List UInt8) : isBoundary bs 0 = true := rfl

theorem isBoundary_boundaryBelow (bs : List UInt8) (i : Nat) :
    isBoundary bs (boundaryBelow bs i) = true := by
  induction i with
  | zero => rfl
  | succ i ih =>
    rw [boundaryBelow]
    split
    · assumption
    · exact ih

@[simp] theorem charsBefore?_zero (cs : List Char) : charsBefore? 0 cs = some [] := by
  rw [charsBefore?]

theorem charsBefore?_cons {c : Char} {i : Nat} (h : c.utf8Size ≤ i) (cs : List Char) :
    charsBefore? i (c :: cs) = (charsBefore? (i - c.utf8Size) cs).map (c :: ·) := by
  cases i with
  | zero =>
    have := c.utf8Size_pos
    omega
  | succ i => rw [charsBefore?, if_pos h]

/-! ## Boundaries of texts -/

/-- A text begins with the first byte of a character, unless it is empty. -/
theorem isUTF8FirstByte_of_head {cs : List Char} {b : UInt8} (h : (utf8Encode cs)[0]? = some b) :
    b.IsUTF8FirstByte := by
  cases cs with
  | nil => cases h
  | cons c cs =>
    have hlength : 0 < (String.utf8EncodeChar c).length := by
      rw [String.length_utf8EncodeChar]
      exact c.utf8Size_pos
    rw [utf8Encode_cons, List.getElem?_append_left hlength, List.getElem?_eq_getElem hlength,
      Option.some.injEq] at h
    rw [← h, UInt8.isUTF8FirstByte_getElem_utf8EncodeChar]

/-- Behind the first character of a text, its boundaries are those of the rest. -/
theorem isBoundary_utf8Encode_cons {c : Char} {i : Nat} (h : c.utf8Size ≤ i) (cs : List Char) :
    isBoundary (utf8Encode (c :: cs)) i = isBoundary (utf8Encode cs) (i - c.utf8Size) := by
  obtain ⟨j, rfl⟩ := Nat.exists_eq_add_of_le h
  have hbyte : (utf8Encode (c :: cs))[c.utf8Size + j]? = (utf8Encode cs)[j]? := by
    rw [utf8Encode_cons, List.getElem?_append_right (by rw [String.length_utf8EncodeChar]; omega),
      String.length_utf8EncodeChar, Nat.add_sub_cancel_left]
  have hlength : (utf8Encode (c :: cs)).length = c.utf8Size + (utf8Encode cs).length := by
    rw [utf8Encode_cons, List.length_append, String.length_utf8EncodeChar]
  have hpos := c.utf8Size_pos
  rw [Nat.add_sub_cancel_left, isBoundary, isBoundary, hbyte, hlength]
  -- Only at the start of the rest is its byte not looked at, which is the first of a character.
  cases hj : (utf8Encode cs)[j]? with
  | none =>
    rw [Bool.eq_iff_iff]
    simp only [Bool.or_eq_true, beq_iff_eq]
    have := List.getElem?_eq_none_iff.mp hj
    omega
  | some b =>
    cases j with
    | zero => simp [isUTF8FirstByte_of_head hj]
    | succ j => simp

/-- Inside the first character of a text there are none. -/
theorem isBoundary_utf8Encode_cons_of_lt {c : Char} {i : Nat} (hi : 0 < i) (h : i < c.utf8Size)
    (cs : List Char) : isBoundary (utf8Encode (c :: cs)) i = false := by
  have hlength : i < (String.utf8EncodeChar c).length := by rwa [String.length_utf8EncodeChar]
  have hbyte : ¬ (String.utf8EncodeChar c)[i].IsUTF8FirstByte := by
    rw [UInt8.isUTF8FirstByte_getElem_utf8EncodeChar]
    omega
  rw [isBoundary, utf8Encode_cons, List.getElem?_append_left hlength,
    List.getElem?_eq_getElem hlength]
  simp only [decide_eq_false hbyte, Bool.or_false, beq_eq_false_iff_ne]
  omega

/-- **The boundaries of a text** are the indices before which there is a part of it. -/
theorem isBoundary_utf8Encode (cs : List Char) (i : Nat) :
    isBoundary (utf8Encode cs) i = (charsBefore? i cs).isSome := by
  induction cs generalizing i with
  | nil => cases i <;> simp [isBoundary, utf8Encode, charsBefore?]
  | cons c cs ih =>
    by_cases hfits : c.utf8Size ≤ i
    · rw [isBoundary_utf8Encode_cons hfits, charsBefore?_cons hfits, Option.isSome_map, ih]
    · cases i with
      | zero => simp
      | succ i =>
        rw [isBoundary_utf8Encode_cons_of_lt i.succ_pos (by omega), charsBefore?, if_neg hfits]
        rfl

/-! ## Cutting -/

/-- **A text cut at the last boundary within a limit**, unless all of its bytes are. -/
def cutText? (limit : Nat) (s : String) : Option String :=
  if utf8Length s.toList ≤ limit then some s
  else (charsBefore? (boundaryBelow (utf8Bytes s) limit) s.toList).map String.ofList

/-- **Cutting a text never fails.** -/
theorem isSome_cutText? (limit : Nat) (s : String) : (cutText? limit s).isSome = true := by
  rw [cutText?]
  split
  · rfl
  · rw [Option.isSome_map, ← isBoundary_utf8Encode]
    exact isBoundary_boundaryBelow (utf8Bytes s) limit

/-- **The text cut at the limit.** -/
def cutText (limit : Nat) (s : String) : String := (cutText? limit s).get (isSome_cutText? limit s)

end EntityMapper.Text

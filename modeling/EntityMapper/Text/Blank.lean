/-!
# Blank characters

The characters with the Unicode property White_Space, and removing them from both ends of a text.

## Main definitions

* `isBlank c`: the character is white space
* `trimBlank cs`: the text without the white space at its two ends
* `trim s`: the same on strings

## Main results

* `trimBlankStart_append_of_blank`, `trimBlankEnd_append_of_blank`: blanks added at an end are
  removed again
-/

namespace EntityMapper.Text

/-- **White space**: the 25 characters with the Unicode property White_Space. The zero-width
characters (U+200B, U+FEFF) are not among them. -/
def isBlank (c : Char) : Bool :=
  let n := c.toNat
  (9 ≤ n && n ≤ 13) || n == 0x20 || n == 0x85 || n == 0xA0 || n == 0x1680 ||
    (0x2000 ≤ n && n ≤ 0x200A) || n == 0x2028 || n == 0x2029 || n == 0x202F || n == 0x205F ||
    n == 0x3000

/-- The text without its leading blanks. -/
def trimBlankStart (cs : List Char) : List Char := cs.dropWhile isBlank

/-- The text without its trailing blanks. -/
def trimBlankEnd (cs : List Char) : List Char := (cs.reverse.dropWhile isBlank).reverse

/-- The text without the blanks at its two ends. -/
def trimBlank (cs : List Char) : List Char := trimBlankEnd (trimBlankStart cs)

/-- The string without the blanks at its two ends. -/
def trim (s : String) : String := String.ofList (trimBlank s.toList)

theorem trimBlankStart_append_of_blank {a : List Char} (ha : ∀ c ∈ a, isBlank c = true)
    (s : List Char) : trimBlankStart (a ++ s) = trimBlankStart s := by
  induction a with
  | nil => rfl
  | cons c r ih =>
    have hc : isBlank c = true := ha c (by simp)
    have hr : ∀ d ∈ r, isBlank d = true := fun d hd => ha d (by simp [hd])
    simpa [trimBlankStart, hc] using ih hr

theorem trimBlankEnd_append_of_blank {b : List Char} (hb : ∀ c ∈ b, isBlank c = true)
    (s : List Char) : trimBlankEnd (s ++ b) = trimBlankEnd s := by
  have h := trimBlankStart_append_of_blank (a := b.reverse) (by simpa using hb) s.reverse
  simp only [trimBlankStart] at h
  simp [trimBlankEnd, h]

end EntityMapper.Text

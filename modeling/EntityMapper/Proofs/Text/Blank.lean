import EntityMapper.Text.Blank
import Mathlib.Data.List.Basic
import Mathlib.Data.List.TakeWhile

/-!
# Texts between blanks

What is left of a text without the blanks at its ends stands between blanks in it, and is found
again whatever blanks it stands between.

## Main definitions

* `Blanks cs`: the text consists of blanks
* `Bare cs`: the text neither begins nor ends with a blank

## Main results

* `bare_append`: a text without blanks at its ends
* `exists_eq_trimBlank`: a text is what is left of it, between blanks
* `trimBlank_between`: blanks around a text without blanks at its ends are removed
-/

namespace EntityMapper.Text

/-- The text consists of blanks. -/
def Blanks (cs : List Char) : Prop := ∀ c ∈ cs, isBlank c = true

/-- **The text neither begins nor ends with a blank.** -/
structure Bare (cs : List Char) : Prop where
  first : ∀ c ∈ cs.head?, isBlank c = false
  last : ∀ c ∈ cs.getLast?, isBlank c = false

/-- A text without any blanks. -/
theorem bare_of_forall {cs : List Char} (h : ∀ c ∈ cs, isBlank c = false) : Bare cs :=
  ⟨fun c hc => h c (List.mem_of_mem_head? hc), fun c hc => h c (List.mem_of_mem_getLast? hc)⟩

/-- A text that begins and ends without a blank may have blanks in its middle. -/
theorem bare_append {a m b : List Char} (ha : a ≠ []) (ha' : ∀ c ∈ a, isBlank c = false)
    (hb : b ≠ []) (hb' : ∀ c ∈ b, isBlank c = false) : Bare (a ++ (m ++ b)) := by
  refine ⟨fun c hc => ?_, fun c hc => ?_⟩
  · rw [List.head?_append_of_ne_nil a ha] at hc
    exact ha' c (List.mem_of_mem_head? hc)
  · rw [← List.append_assoc, List.getLast?_append_of_ne_nil _ hb] at hc
    exact hb' c (List.mem_of_mem_getLast? hc)

theorem trimBlankStart_of_first {cs : List Char} (h : ∀ c ∈ cs.head?, isBlank c = false) :
    trimBlankStart cs = cs := by
  cases cs with
  | nil => rfl
  | cons c cs => exact List.dropWhile_cons_of_neg (by simp [h c rfl])

theorem trimBlankEnd_of_last {cs : List Char} (h : ∀ c ∈ cs.getLast?, isBlank c = false) :
    trimBlankEnd cs = cs := by
  rw [← List.head?_reverse] at h
  have hreverse : cs.reverse.dropWhile isBlank = cs.reverse := trimBlankStart_of_first h
  rw [trimBlankEnd, hreverse, List.reverse_reverse]

/-- **Blanks around a text** without blanks at its ends are removed. -/
theorem trimBlank_between {a cs b : List Char} (ha : Blanks a) (hcs : Bare cs) (hb : Blanks b) :
    trimBlank (a ++ cs ++ b) = cs := by
  rw [trimBlank, List.append_assoc, trimBlankStart_append_of_blank ha]
  cases cs with
  | nil =>
    -- All of the text consists of blanks.
    have hnone := trimBlankStart_append_of_blank hb []
    rw [List.append_nil] at hnone
    rw [List.nil_append, hnone]
    rfl
  | cons c cs =>
    have hstart : trimBlankStart (c :: cs ++ b) = c :: cs ++ b := trimBlankStart_of_first hcs.first
    rw [hstart, trimBlankEnd_append_of_blank hb, trimBlankEnd_of_last hcs.last]

/-- **A text is what is left of it**, between blanks. -/
theorem exists_eq_trimBlank (cs : List Char) :
    ∃ a b, Blanks a ∧ Blanks b ∧ cs = a ++ trimBlank cs ++ b := by
  obtain ⟨rest, hrest⟩ : ∃ rest, rest = trimBlankStart cs := ⟨_, rfl⟩
  refine ⟨cs.takeWhile isBlank, (rest.reverse.takeWhile isBlank).reverse, fun c hc => ?_,
    fun c hc => ?_, ?_⟩
  · exact List.mem_takeWhile_imp hc
  · exact List.mem_takeWhile_imp (List.mem_reverse.mp hc)
  · have hend : trimBlankEnd rest ++ (rest.reverse.takeWhile isBlank).reverse = rest := by
      rw [trimBlankEnd, ← List.reverse_append, List.takeWhile_append_dropWhile,
        List.reverse_reverse]
    rw [trimBlank, ← hrest, List.append_assoc, hend, hrest]
    exact (List.takeWhile_append_dropWhile ..).symm

end EntityMapper.Text

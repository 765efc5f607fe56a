import EntityMapper.Sql.Piece
import Mathlib.Algebra.Group.Nat.Even

/-!
# Marks in fragments

In the text of a fragment apostrophes stand around literals and double quotes around names, and
either quote, doubled, is one of the characters between its like. The question marks outside the
literals are the marks of the fragment. Numbering them goes by the apostrophes alone, so that it
takes an apostrophe in a name for the start of a literal. So the marks are found just when an even
number of such apostrophes comes before each question mark.

## Main definitions

* `quotesAround q cs`: the characters of a text, each with the quote that it stands between
* `numbered d bound ts`: the text with the marks outside literals numbered
* `Paired n ts`, `Fragment.Paired r`: every question mark comes after an even number of apostrophes
  in names

## Main results

* `renumber_eq_numbered_iff`: going by the apostrophes is going by the literals
* `render_fragment`: a fragment among the pieces of a statement
-/

namespace EntityMapper.Sql

/-! ## Quotes -/

/-- The quotes that open a literal or a name. -/
def IsQuote (c : Char) : Prop := c = '\'' ∨ c = '"'

instance : DecidablePred IsQuote := fun c => inferInstanceAs (Decidable (c = '\'' ∨ c = '"'))

/-- **The characters of a text, each with the quote that it stands between**, if it stands between
any; `q` is the quote that is open at the start. A quote that is never closed reaches to the end. -/
def quotesAround : Option Char → List Char → List (Char × Option Char)
  | _, [] => []
  | none, c :: cs =>
    (c, none) :: quotesAround (if IsQuote c then some c else none) cs
  | some q, [c] => [(c, some q)]
  | some q, c :: c' :: cs =>
    if c = q then
      -- A doubled quote closes nothing.
      if c' = q then (c, some q) :: (c', some q) :: quotesAround (some q) cs
      else (c, some q) :: quotesAround none (c' :: cs)
    else (c, some q) :: quotesAround (some q) (c' :: cs)

/-- **A text with its marks numbered**: every question mark that does not stand in a literal becomes
the placeholder of the next number, and all else stays as it is. -/
def numbered (d : Dialect) (bound : Nat) : List (Char × Option Char) → List Char
  | [] => []
  | (c, q) :: ts =>
    if c = '?' ∧ q ≠ some '\'' then
      (d.placeholder (bound + 1)).toList ++ numbered d (bound + 1) ts
    else c :: numbered d bound ts

/-- An apostrophe in a name. -/
def strayApostrophe : Char × Option Char := ('\'', some '"')

/-- **Every question mark comes after an even number of apostrophes in names**, `n` of which were
before the text. -/
def Paired (n : Nat) (ts : List (Char × Option Char)) : Prop :=
  ∀ before q after, ts = before ++ ('?', q) :: after → Even (n + before.count strayApostrophe)

/-- **In the text of a fragment, every question mark comes after an even number of apostrophes in
names.** -/
def Fragment.Paired (r : Fragment) : Prop := Sql.Paired 0 (quotesAround none r.text.toList)

theorem paired_nil (n : Nat) : Paired n [] := by
  intro before q after h
  cases before <;> cases h

theorem paired_cons {n : Nat} {c : Char} {q : Option Char} {ts : List (Char × Option Char)} :
    Paired n ((c, q) :: ts) ↔
      (c = '?' → Even n) ∧ Paired (n + if (c, q) == strayApostrophe then 1 else 0) ts := by
  constructor
  · intro h
    refine ⟨?_, fun before q' after hts => ?_⟩
    · rintro rfl
      exact h [] q ts rfl
    · have heven := h ((c, q) :: before) q' after (congrArg _ hts)
      rwa [List.count_cons, ← Nat.add_assoc, Nat.add_right_comm] at heven
  · rintro ⟨hmark, hrest⟩ (_ | ⟨t, before⟩) q' after hts
    · cases hts
      exact hmark rfl
    · obtain ⟨rfl, htail⟩ := List.cons.inj hts
      have heven := hrest before q' after htail
      rwa [List.count_cons, ← Nat.add_assoc, Nat.add_right_comm]

/-! ## Going by the apostrophes -/

/-- What an open literal is taken for, after `n` apostrophes in names: each of them turns it
around. -/
def openLiteral (q : Option Char) (n : Nat) : Bool := (q == some '\'') ^^ decide (¬ Even n)

theorem placeholder_chars (k : Nat) :
    (Dialect.postgres.placeholder k).toList = '$' :: (Text.naturalText k).toList := by
  rw [Dialect.placeholder, String.toList_append]
  rfl

variable {q q' : Option Char} {c : Char} {cs : List Char} {ts : List (Char × Option Char)}
  {n bound : Nat} {b b' : Bool}

/-- **A question mark** is treated alike just if it comes after an even number of apostrophes in
names. -/
theorem renumber_mark_iff (hb : b = openLiteral q n)
    (ih : ∀ bound, renumber .postgres b bound cs = numbered .postgres bound ts ↔ Paired n ts) :
    renumber .postgres b bound ('?' :: cs) = numbered .postgres bound (('?', q) :: ts) ↔
      Even n ∧ Paired n ts := by
  have hkept : (if '?' = '\'' then !b else b) = b := if_neg (by decide)
  rw [renumber, numbered, hkept]
  by_cases heven : Even n
  · rw [and_iff_right heven]
    by_cases hq : q = some '\''
    -- In a literal both keep it.
    · have hopen : b = true := by
        rw [hb, openLiteral, hq]
        simp [heven]
      rw [if_neg (by simp [hopen]), if_neg (by simp [hq]), List.cons_inj_right]
      exact ih bound
    · have hopen : b = false := by
        rw [hb, openLiteral]
        simp [heven, hq]
      rw [if_pos ⟨rfl, hopen⟩, if_pos ⟨rfl, hq⟩, List.append_cancel_left_eq]
      exact ih (bound + 1)
  · refine iff_of_false (fun h => ?_) fun h => heven h.1
    -- One of them has written a placeholder, the other one has not.
    by_cases hq : q = some '\''
    · have hopen : b = false := by
        rw [hb, openLiteral, hq]
        simp [heven]
      rw [if_pos ⟨rfl, hopen⟩, if_neg (by simp [hq]), placeholder_chars] at h
      exact absurd (List.cons.inj h).1 (by decide)
    · have hopen : b = true := by
        rw [hb, openLiteral]
        simp [heven, hq]
      rw [if_neg (by simp [hopen]), if_pos ⟨rfl, hq⟩, placeholder_chars] at h
      exact absurd (List.cons.inj h).1 (by decide)

/-- **One character.** An apostrophe turns around what is open. -/
theorem renumber_cons_iff (hb : (if c = '\'' then !b else b) = b')
    (hmark : c = '?' → b' = openLiteral q n)
    (ih : ∀ bound, renumber .postgres b' bound cs = numbered .postgres bound ts ↔
      Paired (n + if (c, q) == strayApostrophe then 1 else 0) ts) :
    renumber .postgres b bound (c :: cs) = numbered .postgres bound ((c, q) :: ts) ↔
      Paired n ((c, q) :: ts) := by
  rw [paired_cons]
  by_cases hc : c = '?'
  · subst hc
    obtain rfl : b = b' := hb
    rw [renumber_mark_iff (hmark rfl) ih]
    simp only [true_imp_iff]
    exact Iff.rfl
  · rw [renumber, numbered, hb, if_neg fun h => hc h.1, if_neg fun h => hc h.1,
      List.cons_inj_right, ih bound]
    exact ⟨fun h => ⟨fun h' => absurd h' hc, h⟩, And.right⟩

/-! ## Along the quotes -/

/-- An apostrophe in a name turns around what is open. -/
theorem openLiteral_succ (q : Option Char) (n : Nat) :
    openLiteral q (n + 1) = !openLiteral q n := by
  simp only [openLiteral, Nat.even_add_one]
  by_cases heven : Even n <;> simp [heven]

/-- So does an apostrophe at either end of a literal. -/
theorem openLiteral_literal (n : Nat) : openLiteral (some '\'') n = !openLiteral none n := by
  by_cases heven : Even n <;> simp [openLiteral, heven]

/-- Names do not, nor do the quotes at their ends. -/
theorem openLiteral_name (n : Nat) : openLiteral (some '"') n = openLiteral none n := rfl

/-- A question mark turns nothing around. -/
theorem openLiteral_mark (hb : b = openLiteral q n) :
    c = '?' → (if c = '\'' then !b else b) = openLiteral q n := by
  rintro rfl
  rw [if_neg (by decide), hb]

/-- A quote opens. -/
theorem openLiteral_opened (hc : IsQuote c) (hb : b = openLiteral none n) :
    (if c = '\'' then !b else b) = openLiteral (some c) n := by
  rcases hc with rfl | rfl
  · rw [if_pos rfl, hb, openLiteral_literal]
  · rw [if_neg (by decide), hb, openLiteral_name]

/-- Its like closes. -/
theorem openLiteral_closed (hc : IsQuote c) (hb : b = openLiteral (some c) n) :
    (if c = '\'' then !b else b) = openLiteral none n := by
  rcases hc with rfl | rfl
  · rw [if_pos rfl, hb, openLiteral_literal, Bool.not_not]
  · rw [if_neg (by decide), hb, openLiteral_name]

/-- What is open after a character outside quotes. -/
theorem openLiteral_outside (hb : b = openLiteral none n) :
    (if c = '\'' then !b else b) = openLiteral (if IsQuote c then some c else none) n := by
  by_cases hc : IsQuote c
  · rw [if_pos hc]
    exact openLiteral_opened hc hb
  · rw [if_neg fun h => hc (.inl h), if_neg hc]
    exact hb

/-- What is open after a character between quotes. -/
theorem openLiteral_inside {ch : Char} (hch : IsQuote ch) (hc : c ≠ ch)
    (hb : b = openLiteral (some ch) n) :
    (if c = '\'' then !b else b) =
      openLiteral (some ch) (n + if (c, some ch) == strayApostrophe then 1 else 0) := by
  rcases hch with rfl | rfl
  · have hstray : ((c, some '\'') == strayApostrophe) = false := by simp [strayApostrophe]
    rw [if_neg hc, hstray]
    exact hb
  · by_cases hstray : c = '\''
    -- The apostrophe is in a name.
    · subst hstray
      rw [if_pos rfl, hb]
      exact (openLiteral_succ (some '"') n).symm
    · have hstray' : ((c, some '"') == strayApostrophe) = false := by
        simp [strayApostrophe, hstray]
      rw [if_neg hstray, hstray']
      exact hb

theorem not_stray_outside (c : Char) : ((c, none) == strayApostrophe) = false := by
  simp [strayApostrophe]

theorem not_stray_quote (c : Char) : ((c, some c) == strayApostrophe) = false := by
  rw [beq_eq_false_iff_ne]
  rintro h
  obtain ⟨rfl, h⟩ := Prod.mk.inj h
  exact absurd (Option.some.inj h) (by decide)

/-- **Going by the apostrophes is going by the literals** just when every question mark comes after
an even number of apostrophes in names. -/
theorem renumber_eq_numbered_iff (hq : ∀ c ∈ q, IsQuote c) (hb : b = openLiteral q n) :
    renumber .postgres b bound cs = numbered .postgres bound (quotesAround q cs) ↔
      Paired n (quotesAround q cs) := by
  have hend (b : Bool) (n bound : Nat) :
      renumber .postgres b bound [] = numbered .postgres bound [] ↔ Paired n [] :=
    iff_of_true rfl (paired_nil n)
  -- Induction along the quotes; what is open follows them and the apostrophes in names.
  fun_induction quotesAround q cs generalizing b n bound with
  | case1 q => exact hend ..
  | case2 c cs ih =>
    refine renumber_cons_iff rfl (openLiteral_mark hb) fun bound => ih (fun ch hch => ?_) ?_
    · split at hch
      · next hc => exact Option.some.inj hch ▸ hc
      · cases hch
    · rw [not_stray_outside]
      exact openLiteral_outside hb
  | case3 ch c => exact renumber_cons_iff rfl (openLiteral_mark hb) fun _ => hend ..
  | case4 ch cs ih =>
    -- A doubled quote is one that closes and one that opens again.
    have hch : IsQuote ch := hq ch rfl
    have hclosed := openLiteral_closed hch hb
    have hopened := openLiteral_opened hch hclosed
    have hmark : ch ≠ '?' := by rcases hch with rfl | rfl <;> decide
    refine renumber_cons_iff rfl (absurd · hmark) fun bound =>
      renumber_cons_iff rfl (absurd · hmark) fun bound => ih hq ?_
    rw [not_stray_quote]
    exact hopened
  | case5 ch c cs hne ih =>
    have hch : IsQuote ch := hq ch rfl
    refine renumber_cons_iff rfl (openLiteral_mark hb) fun bound => ih nofun ?_
    rw [not_stray_quote]
    exact openLiteral_closed hch hb
  | case6 ch c c' cs hne ih =>
    have hch : IsQuote ch := hq ch rfl
    exact renumber_cons_iff rfl (openLiteral_mark hb) fun bound => ih hq
      (openLiteral_inside hch hne hb)

/-! ## Fragments in statements -/

/-- **The text of a statement with a fragment in it**, the marks of which are numbered on from the
arguments that come before. -/
def textWith (ps : List Piece) (r : Fragment) (qs : List Piece) : String :=
  let bound := (ps.flatMap Piece.args).length
  String.ofList (renderFrom .postgres 0 ps ++
    numbered .postgres bound (quotesAround none r.text.toList) ++
    renderFrom .postgres (bound + r.args.length) qs)

/-- **A fragment among the pieces of a statement**: its arguments are always bound as they are, in
their place, and its marks are numbered just if every question mark comes after an even number of
apostrophes in names. -/
theorem render_fragment (ps qs : List Piece) (r : Fragment) :
    (render .postgres (ps ++ .fragment r :: qs)).args =
        ps.flatMap Piece.args ++ r.args ++ qs.flatMap Piece.args ∧
      ((render .postgres (ps ++ .fragment r :: qs)).sql = textWith ps r qs ↔ r.Paired) := by
  constructor
  · rw [args_render, List.flatMap_append, List.flatMap_cons, List.append_assoc]
    rfl
  · let bound := (ps.flatMap Piece.args).length
    have hiff : renumber .postgres false bound r.text.toList =
        numbered .postgres bound (quotesAround none r.text.toList) ↔
        Sql.Paired 0 (quotesAround none r.text.toList) := renumber_eq_numbered_iff nofun rfl
    rw [Fragment.Paired, ← hiff, render, textWith, String.ofList_inj, renderFrom_append,
      Nat.zero_add, renderFrom, List.append_assoc, List.append_cancel_left_eq]
    exact List.append_left_inj _

/-- A name with an apostrophe, compared to an argument. -/
def clockFragment : Fragment := ⟨"\"o'clock\" = ?", [.bool true]⟩

/-- The question mark stands outside every literal, and is kept nevertheless. -/
theorem clockFragment_kept :
    (render .postgres [.fragment clockFragment]).sql = "\"o'clock\" = ?" ∧
      textWith [] clockFragment [] = "\"o'clock\" = $1" := by
  have hone : Dialect.postgres.placeholder 1 = "$1" := by
    rw [Dialect.placeholder, Text.naturalText, Text.decimalDigits, if_pos (by decide)]
    rfl
  have htext : textWith [] clockFragment [] = String.ofList
      ("\"o'clock\" = ".toList ++ ((Dialect.postgres.placeholder 1).toList ++ []) ++ []) := rfl
  rw [htext, hone]
  exact ⟨rfl, rfl⟩

end EntityMapper.Sql

import EntityMapper.Proofs.Model.Fields
import EntityMapper.Proofs.Sql.Binding
import EntityMapper.Proofs.Text.Integer

/-!
# Reading conditions

A reader for the conditions of statements. It goes through the text of a clause from the left and
takes an argument at every placeholder. The next character always tells what comes next, and every
pair of parentheses holds one operator, so that no operator has to bind stronger than another.

## Main definitions

* `Cursor`, `Reader α`: where reading has got to, and readers
* `Reader.subject`, `Reader.condition`, `Reader.clause`: readers for the parts of a clause
* `readClause d m q`: the condition of a clause
* `Reads d m r is a`: the reader reads `a` from whatever the template becomes
* `Begins d m is ch`: the first character of whatever the template becomes

## Main results

* `Reads.bind`: readers and templates, one after the other
* `Reads.oneOf`: of several texts, the one that comes is read
* `Reads.argument`, `Reads.column`: the leaves
-/

namespace EntityMapper.Sql

open EntityMapper.Text

/-! ## Readers -/

/-- **Where reading has got to**: the number of the last placeholder, if there was one with a
number, and the text and the arguments that are left. -/
structure Cursor where
  last : Option Nat
  text : List Char
  args : List Value

/-- What is read from a cursor on, if it is there, and where reading has got to then. -/
abbrev Reader (α : Type) : Type := StateT Cursor Option α

namespace Reader

variable {α : Type}

/-- The next character, which is left where it is. -/
def peek : Reader (Option Char) := fun c => some (c.text.head?, c)

/-- The given text. -/
def expect (s : String) : Reader Unit := fun c =>
  (s.toList.isPrefixOf? c.text).map fun rest => ((), { c with text := rest })

/-- The first of several texts that comes, told by what it stands for. -/
def oneOf : List (α × String) → Reader α
  | [] => failure
  | (a, s) :: alternatives => (do expect s; pure a) <|> oneOf alternatives

/-- What stands in parentheses. -/
def inParens (r : Reader α) : Reader α := do
  expect "("
  let a ← r
  expect ")"
  pure a

/-- The text up to a character, which is passed over. -/
def upTo (ch : Char) : Reader String := fun c =>
  match c.text.dropWhile (· ≠ ch) with
  | _ :: rest => some (String.ofList (c.text.takeWhile (· ≠ ch)), { c with text := rest })
  | [] => none

/-- A name in quotes. -/
def name (d : Dialect) : Reader String := do
  expect (String.singleton d.quoteChar)
  upTo d.quoteChar

/-- The field of a column. -/
def column (d : Dialect) (m : Model) : Reader String := do
  let s ← name d
  match m.column? s with
  | some f => pure f.fieldName
  | none => failure

/-- A number, which goes on as long as there are digits. -/
def number : Reader Nat := fun c =>
  some (digitsValue (c.text.takeWhile fun ch => (digitValue? ch).isSome),
    { c with text := c.text.dropWhile fun ch => (digitValue? ch).isSome })

/-- The number of a placeholder follows that of the last one. -/
def follow (k : Nat) : Reader Unit := fun c =>
  if ∀ l ∈ c.last, l + 1 = k then some ((), { c with last := some k }) else none

/-- The placeholder of the next argument. -/
def placeholder : Dialect → Reader Unit
  | .mysql | .sqlite => expect "?"
  | .postgres => do
    expect "$"
    let k ← number
    follow k

/-- The next argument. -/
def pop : Reader Value := fun c =>
  match c.args with
  | v :: args => some (v, { c with args := args })
  | [] => none

/-- The next argument, at its placeholder. -/
def argument (d : Dialect) : Reader Value := do
  placeholder d
  pop

/-- The aggregate functions by the text in front of their columns. -/
def functions : List (AggregateFunction × String) :=
  [.avg, .sum, .count, .max, .min].map fun f => (f, f.word ++ "(")

/-- The comparisons by the text between their sides. -/
def comparisons : List (Comparison × String) :=
  [.eq, .ne, .lt, .le, .gt, .ge].map fun op => (op, " " ++ op.sign ++ " ")

/-- What joins two conditions by the text between them. -/
def joins : List ((Predicate → Predicate → Predicate) × String) :=
  [(.both, " AND "), (.either, " OR ")]

/-- The subject of a comparison: a quote begins a column, and nothing else. -/
def subject (d : Dialect) (m : Model) : Reader Subject := do
  if (← peek) = some d.quoteChar then
    let field ← column d m
    pure (.column ⟨field, none⟩)
  else
    let f ← oneOf functions
    let field ← column d m
    expect ")"
    pure (.aggregate ⟨f, field, none⟩)

/-- What a subject is compared with: the truth of a nested condition, an argument, or another
subject. -/
def rightSide (d : Dialect) (m : Model) (nested : Reader Predicate) (l : Subject)
    (op : Comparison) : Reader Predicate := do
  match ← peek with
  | some '(' =>
    let r ← nested
    pure (.compareTruth l op r)
  | some '?' | some '$' =>
    let v ← argument d
    pure (.compare l op (.value v))
  | _ =>
    let r ← subject d m
    pure (.compare l op (.subject r))

/-- **A condition**, with at most so many conditions in one another. The first character tells
what comes, so that no operator binds stronger than another. -/
def condition (d : Dialect) (m : Model) : Nat → Reader Predicate
  | 0 => failure
  | depth + 1 => do
    match ← peek with
    | some '(' =>
      let l ← inParens (condition d m depth)
      let join ← oneOf joins
      let r ← inParens (condition d m depth)
      pure (join l r)
    | some ' ' =>
      expect " NOT "
      let p ← inParens (condition d m depth)
      pure (.negation p)
    | _ =>
      let l ← subject d m
      let op ← oneOf comparisons
      rightSide d m (inParens (condition d m depth)) l op

/-- The condition of a clause. -/
def clause (d : Dialect) (m : Model) (depth : Nat) : Reader Predicate := do
  oneOf [((), " WHERE "), ((), " HAVING ")]
  condition d m depth

end Reader

/-- **The condition of a clause**, from its text and its arguments. -/
def readClause (d : Dialect) (m : Model) (q : Query) : Option Predicate :=
  match (Reader.clause d m q.sql.toList.length).run ⟨none, q.sql.toList, q.args⟩ with
  | some (p, ⟨_, [], []⟩) => some p
  | _ => none

namespace Reader

variable {ch : Char} {cs : List Char} {c : Cursor}

theorem run_expect (s : String) (c : Cursor) :
    (expect s).run c =
      (s.toList.isPrefixOf? c.text).map fun rest => ((), { c with text := rest }) :=
  rfl

theorem run_expect_append (s : String) {text : List Char} (h : c.text = s.toList ++ text) :
    (expect s).run c = some ((), { c with text := text }) := by
  have hprefix : s.toList.isPrefixOf? c.text = some text :=
    List.isPrefixOf?_eq_some_iff_append_eq.mpr h.symm
  rw [run_expect, hprefix]
  rfl

/-- What goes on as long as a condition holds ends where the condition fails. -/
theorem span_append {P : Char → Bool} (text : List Char) (h : ∀ x ∈ cs, P x = true)
    (htext : ∀ x ∈ text.head?, P x = false) :
    (cs ++ text).takeWhile P = cs ∧ (cs ++ text).dropWhile P = text := by
  rw [List.takeWhile_append_of_pos h, List.dropWhile_append_of_pos h]
  cases text with
  | nil => simp
  | cons x xs => simp [htext x rfl]

theorem run_upTo {text : List Char} (h : ch ∉ cs) (hc : c.text = cs ++ ch :: text) :
    (upTo ch).run c = some (String.ofList cs, { c with text := text }) := by
  have hne : ∀ x ∈ cs, decide (x ≠ ch) = true := fun x hx => decide_eq_true fun heq => h (heq ▸ hx)
  obtain ⟨htake, hdrop⟩ := span_append (ch :: text) hne (by simp)
  simp only [upTo, StateT.run, hc, htake, hdrop]

end Reader

/-! ## Where numbers end -/

/-- A number ends where the text begins. -/
def EndsNumber (text : List Char) : Prop := ∀ ch ∈ text.head?, digitValue? ch = none

/-- A number is read up to where it ends. -/
theorem Reader.run_number {c : Cursor} {k : Nat} {text : List Char} (htext : EndsNumber text)
    (hc : c.text = decimalDigits k ++ text) :
    number.run c = some (k, { c with text := text }) := by
  have hend : ∀ x ∈ text.head?, (digitValue? x).isSome = false :=
    fun x hx => by rw [htext x hx]; rfl
  obtain ⟨htake, hdrop⟩ := span_append (P := fun ch => (digitValue? ch).isSome) text
    (fun x (hx : x ∈ decimalDigits k) => isSome_of_mem_decimalDigits x hx) hend
  simp only [number, StateT.run, hc, htake, hdrop, digitsValue_decimalDigits]

/-- Where placeholders are numbered, the last one has the number of the last argument. -/
def Counted (d : Dialect) (bound : Nat) (last : Option Nat) : Prop :=
  d = .postgres → ∀ k ∈ last, k = bound

/-- A placeholder is read after the one before it. -/
theorem Reader.run_placeholder {d : Dialect} {bound : Nat} {last : Option Nat}
    (hlast : Counted d bound last) {text : List Char} (htext : EndsNumber text)
    (args : List Value) :
    ∃ last', Counted d (bound + 1) last' ∧
      (placeholder d).run ⟨last, (d.placeholder (bound + 1)).toList ++ text, args⟩ =
        some ((), ⟨last', text, args⟩) := by
  cases d with
  | mysql => exact ⟨last, by rintro ⟨⟩, run_expect_append "?" rfl⟩
  | sqlite => exact ⟨last, by rintro ⟨⟩, run_expect_append "?" rfl⟩
  | postgres =>
    refine ⟨some (bound + 1), by rintro - k ⟨⟩; rfl, ?_⟩
    have hfollow : ∀ l ∈ last, l + 1 = bound + 1 := fun l hl => by rw [hlast rfl l hl]
    have hchars : (Dialect.postgres.placeholder (bound + 1)).toList ++ text =
        "$".toList ++ (decimalDigits (bound + 1) ++ text) := by
      simp [Dialect.placeholder, naturalText]
    rw [hchars, placeholder, StateT.run_bind, run_expect_append "$" rfl]
    change (number.run _ >>= fun x => (follow x.1).run x.2) = _
    rw [run_number htext rfl]
    exact if_pos hfollow

/-! ## Reading what was written -/

/-- **The reader reads `a` from the template**: if the template resolves, `a` is read from its
text and its arguments, whatever comes after them, as long as no number goes on there. -/
def Reads {α : Type} (d : Dialect) (m : Model) (r : Reader α) (is : List Item) (a : α) : Prop :=
  ∀ ps, resolveAll m is = .ok ps → ∀ bound last text args, Counted d bound last →
    EndsNumber text → ∃ last', Counted d (bound + (ps.flatMap Piece.args).length) last' ∧
      r.run ⟨last, renderFrom d bound ps ++ text, ps.flatMap Piece.args ++ args⟩ =
        some (a, ⟨last', text, args⟩)

/-- If the template resolves, its text begins with the character. -/
def Begins (d : Dialect) (m : Model) (is : List Item) (ch : Char) : Prop :=
  ∀ ps, resolveAll m is = .ok ps → ∀ bound, ∃ cs, renderFrom d bound ps = ch :: cs

/-- A template in parentheses. -/
def grouped (is : List Item) : List Item := [.text "("] ++ (is ++ [.text ")"])

/-- **No number goes on in the template.** -/
def Parts (d : Dialect) (m : Model) (is : List Item) : Prop :=
  ∀ ps, resolveAll m is = .ok ps → ∀ bound text, EndsNumber text →
    EndsNumber (renderFrom d bound ps ++ text)

variable {d : Dialect} {m : Model} {is js : List Item} {ch : Char}

theorem Parts.nil : Parts d m [] := by
  rintro ps h bound text htext
  cases h
  exact htext

namespace Begins

theorem append (h : Begins d m is ch) (js : List Item) : Begins d m (is ++ js) ch := by
  intro ps hps bound
  obtain ⟨qs, rs, hqs, -, rfl⟩ := resolveAll_append_eq_ok.mp hps
  obtain ⟨cs, hcs⟩ := h qs hqs bound
  exact ⟨_, by rw [renderFrom_append, hcs, List.cons_append]⟩

theorem text {s : String} {cs : List Char} (hs : s.toList = ch :: cs) :
    Begins d m [.text s] ch := by
  intro ps hps bound
  cases hps
  exact ⟨cs, by simp [renderFrom, Piece.chars, hs]⟩

theorem column (c : String) : Begins d m [.column c] d.quoteChar := by
  intro ps hps bound
  obtain ⟨p, qs, hp, hqs, rfl⟩ := resolveAll_cons_eq_ok.mp hps
  cases hqs
  cases hf : m.field? c with
  | none => simp [Item.resolve, hf] at hp
  | some f =>
    simp only [Item.resolve, hf, Except.ok.injEq] at hp
    exact ⟨f.columnName.toList ++ [d.quoteChar], by
      simp [← hp, renderFrom, Piece.chars, Dialect.quote]⟩

/-- A placeholder begins with one of two signs. -/
theorem arg (d : Dialect) (m : Model) (v : Value) : ∃ ch ∈ ['?', '$'], Begins d m [.arg v] ch := by
  have hbegins : ∀ ch, (∀ k, ∃ cs, (d.placeholder k).toList = ch :: cs) →
      Begins d m [.arg v] ch := by
    rintro ch h ps hps bound
    cases hps
    obtain ⟨cs, hcs⟩ := h (bound + 1)
    exact ⟨cs, by simp [renderFrom, Piece.chars, hcs]⟩
  cases d with
  | mysql => exact ⟨'?', by decide, hbegins _ fun _ => ⟨[], by simp [Dialect.placeholder]⟩⟩
  | sqlite => exact ⟨'?', by decide, hbegins _ fun _ => ⟨[], by simp [Dialect.placeholder]⟩⟩
  | postgres =>
    refine ⟨'$', by decide, hbegins _ fun k => ⟨(naturalText k).toList, ?_⟩⟩
    simp [Dialect.placeholder]

/-- Parentheses begin with a parenthesis. -/
theorem grouped (is : List Item) : Begins d m (grouped is) '(' :=
  (text (s := "(") rfl).append _

/-- Where a template begins with no digit, no number goes on. -/
theorem parts (h : Begins d m is ch) (hch : digitValue? ch = none) : Parts d m is := by
  intro ps hps bound text _
  obtain ⟨cs, hcs⟩ := h ps hps bound
  rw [hcs]
  rintro x ⟨⟩
  exact hch

end Begins

/-- A text that begins with no digit. -/
theorem Parts.text {s : String} {cs : List Char} (hs : s.toList = ch :: cs)
    (hch : digitValue? ch = none) : Parts d m [.text s] :=
  (Begins.text hs).parts hch

namespace Reads

variable {α β : Type} {r : Reader α} {f : α → Reader β} {a : α} {b : β}

theorem pure (a : α) : Reads d m (pure a) [] a := by
  rintro ps h bound last text args hlast -
  cases h
  exact ⟨last, hlast, rfl⟩

/-- **Readers one after the other read templates one after the other**, if no number goes on from
one to the other. -/
theorem bind (h : Reads d m r is a) (hjs : Parts d m js) (h' : Reads d m (f a) js b) :
    Reads d m (r >>= f) (is ++ js) b := by
  intro ps hps bound last text args hlast htext
  obtain ⟨qs, rs, hqs, hrs, rfl⟩ := resolveAll_append_eq_ok.mp hps
  obtain ⟨last₁, hlast₁, hr⟩ := h qs hqs bound last _ (rs.flatMap Piece.args ++ args) hlast
    (hjs rs hrs _ text htext)
  obtain ⟨last₂, hlast₂, hf⟩ := h' rs hrs _ last₁ text args hlast₁ htext
  refine ⟨last₂, ?_, ?_⟩
  · rwa [List.flatMap_append, List.length_append, ← Nat.add_assoc]
  · rw [StateT.run_bind, renderFrom_append, List.flatMap_append, List.append_assoc,
      List.append_assoc, hr]
    exact hf

theorem map (h : Reads d m r is a) (g : α → β) :
    Reads d m (r >>= fun x => Pure.pure (g x)) is (g a) := by
  have hbind := h.bind (f := fun x => Pure.pure (g x)) Parts.nil (Reads.pure (g a))
  rwa [List.append_nil] at hbind

/-- A refusal is never resolved. -/
theorem refusal (e : Error) : Reads d m r [.refusal e] a := by
  rintro ps h
  cases h

/-- The next character is looked at before anything is read. -/
theorem peek {f : Option Char → Reader β} (hb : Begins d m is ch)
    (h : Reads d m (f (some ch)) is b) : Reads d m (Reader.peek >>= f) is b := by
  intro ps hps bound last text args hlast htext
  obtain ⟨cs, hcs⟩ := hb ps hps bound
  obtain ⟨last', hlast', hf⟩ := h ps hps bound last text args hlast htext
  refine ⟨last', hlast', ?_⟩
  rw [hcs] at hf ⊢
  exact hf

theorem expect (s : String) : Reads d m (Reader.expect s) [.text s] () := by
  rintro ps h bound last text args hlast -
  cases h
  refine ⟨last, hlast, ?_⟩
  exact Reader.run_expect_append s (by simp [renderFrom, Piece.chars])

/-- **Of texts of which none is the beginning of another, the one that comes is read.** -/
theorem oneOf {alternatives : List (α × String)} {s : String}
    (hp : alternatives.Pairwise fun x y =>
      ¬ x.2.toList <+: y.2.toList ∧ ¬ y.2.toList <+: x.2.toList)
    (hmem : (a, s) ∈ alternatives) : Reads d m (Reader.oneOf alternatives) [.text s] a := by
  rintro ps h bound last text args hlast -
  cases h
  refine ⟨last, hlast, ?_⟩
  have htext : renderFrom d bound [.text s] ++ text = s.toList ++ text := by
    simp [renderFrom, Piece.chars]
  rw [htext]
  induction alternatives with
  | nil => cases hmem
  | cons x alternatives ih =>
    obtain ⟨c, t⟩ := x
    obtain ⟨hx, hp⟩ := List.pairwise_cons.mp hp
    rw [Reader.oneOf, StateT.run_orElse, StateT.run_bind]
    rcases List.mem_cons.mp hmem with heq | hmem
    · cases heq
      rw [Reader.run_expect_append s rfl]
      rfl
    · -- Another text does not come, as one of the two would be the beginning of the other.
      have hnone : t.toList.isPrefixOf? (s.toList ++ text) = none := by
        rw [Option.eq_none_iff_forall_ne_some]
        intro rest hrest
        have ht : t.toList <+: s.toList ++ text :=
          ⟨rest, List.isPrefixOf?_eq_some_iff_append_eq.mp hrest⟩
        rcases List.prefix_or_prefix_of_prefix ht (List.prefix_append _ _) with h | h
        · exact (hx _ hmem).1 h
        · exact (hx _ hmem).2 h
      rw [Reader.run_expect, hnone]
      exact ih hp hmem

theorem inParens (his : Parts d m is) (h : Reads d m r is a) :
    Reads d m (Reader.inParens r) (grouped is) a := by
  have hclose : Parts d m [.text ")"] := .text rfl rfl
  refine (expect "(").bind ?_ (h.bind hclose ((expect ")").map fun _ => a))
  intro ps hps bound text htext
  obtain ⟨qs, rs, hqs, hrs, rfl⟩ := resolveAll_append_eq_ok.mp hps
  rw [renderFrom_append, List.append_assoc]
  exact his qs hqs _ _ (hclose rs hrs _ _ htext)

/-- **An argument is read at its placeholder**, whose number follows the last one. -/
theorem argument (v : Value) : Reads d m (Reader.argument d) [.arg v] v := by
  rintro ps h bound last text args hlast htext
  cases h
  have hchars : renderFrom d bound [.arg v] = (d.placeholder (bound + 1)).toList := by
    simp [renderFrom, Piece.chars]
  obtain ⟨last', hlast', hrun⟩ := Reader.run_placeholder hlast htext (v :: args)
  refine ⟨last', hlast', ?_⟩
  rw [hchars, Reader.argument, StateT.run_bind]
  change ((Reader.placeholder d).run ⟨last, _, v :: args⟩ >>= fun x => Reader.pop.run x.2) = _
  rw [hrun]
  rfl

theorem name {s : String} (hs : d.quoteChar ∉ s.toList) :
    Reads d m (Reader.name d) [.name s] s := by
  rintro ps h bound last text args hlast -
  cases h
  refine ⟨last, hlast, ?_⟩
  have htext : renderFrom d bound [.name s] ++ text =
      (String.singleton d.quoteChar).toList ++ (s.toList ++ d.quoteChar :: text) := by
    simp [renderFrom, Piece.chars, Dialect.quote]
  have hclose := Reader.run_upTo (c := ⟨last, s.toList ++ d.quoteChar :: text, args⟩) hs rfl
  rw [String.ofList_toList] at hclose
  rw [htext, Reader.name, StateT.run_bind, Reader.run_expect_append _ rfl]
  exact hclose

/-- **A column is read as its field**, if the quote after its name is the first one. -/
theorem column {e : Entity} (hm : m.Fits e)
    (hquote : ∀ f ∈ m.fields, d.quoteChar ∉ f.columnName.toList) (c : String) :
    Reads d m (Reader.column d m) [.column c] c := by
  intro ps hps
  obtain ⟨p, qs, hp, hqs, rfl⟩ := resolveAll_cons_eq_ok.mp hps
  cases hqs
  cases hf : m.field? c with
  | none => simp [Item.resolve, hf] at hp
  | some f =>
    obtain ⟨hmem, rfl⟩ := Model.mem_of_field? hf
    simp only [Item.resolve, hf, Except.ok.injEq] at hp
    have hlookup : Reads d m (match m.column? f.columnName with
        | some g => Pure.pure g.fieldName
        | none => failure) [] f.fieldName := by
      rw [hm.column?_eq hmem]
      exact pure _
    have hread := (name (m := m) (hquote f hmem)).bind (f := fun s => match m.column? s with
      | some g => Pure.pure g.fieldName
      | none => failure) Parts.nil hlookup
    exact hread [p] (by rw [← hp]; rfl)

/-- The sign of a comparison. -/
theorem comparison (op : Comparison) :
    Reads d m (Reader.oneOf Reader.comparisons) [.text (" " ++ op.sign ++ " ")] op := by
  refine .oneOf (by decide) (List.mem_map.mpr ⟨op, ?_, rfl⟩)
  cases op <;> decide

/-- The name of an aggregate function. -/
theorem function (f : AggregateFunction) :
    Reads d m (Reader.oneOf Reader.functions) [.text (f.word ++ "(")] f := by
  refine .oneOf (by decide) (List.mem_map.mpr ⟨f, ?_, rfl⟩)
  cases f <;> decide

end Reads

end EntityMapper.Sql

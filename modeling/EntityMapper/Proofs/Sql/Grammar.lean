import EntityMapper.Proofs.Sql.Conditions
import EntityMapper.Proofs.Sql.Names
import Mathlib.Computability.Language

/-!
# The grammar of statements that read rows

What a dialect takes for a statement that reads rows, as a language of texts, and which statements
are written in it. All clauses come in their order, at most once each, and no list in them is
empty. Only one dialect knows rows to be skipped without a limit; but every dialect is given such
statements.

## Main definitions

* `Grammar.selectText d`: the statements that read rows, in a dialect
* `Grammar.Condition d clause cs`: the text of a condition
* `Writes d m is L`: whatever the template becomes is in the language

## Main results

* `Predicate.writes_items`, `Select.writes_body`: what templates become
* `Grammar.offset_notMem`: texts with an offset by itself
* `select_wellFormed`: which statements that read rows are well formed
-/

namespace EntityMapper.Sql

open Computability

namespace Grammar

/-! ## Texts -/

/-- The text, and no other one. -/
def word (s : String) : Language Char := {s.toList}

/-- Nothing, or something in the language. -/
def optional (L : Language Char) : Language Char := 1 + L

/-- A list with commas, which is not empty. -/
def commas (L : Language Char) : Language Char := L * (word "," * L)∗

/-- A clause, which may be left out. -/
def clause (keyword : String) (L : Language Char) : Language Char := optional (word keyword * L)

/-- A name in quotes. -/
def identifier (d : Dialect) : Language Char :=
  {cs | ∃ s : String, d.quoteChar ∉ s.toList ∧ cs = (d.quote s).toList}

/-- The place of an argument. -/
def mark (d : Dialect) : Language Char := {cs | ∃ k, cs = (d.placeholder (k + 1)).toList}

/-- An aggregate of a column. -/
def aggregate (d : Dialect) : Language Char :=
  {cs | ∃ f : AggregateFunction, cs ∈ word (f.word ++ "(") * identifier d * word ")"}

/-- What a comparison is about. Rows are filtered before there are groups. -/
def subject (d : Dialect) : Clause → Language Char
  | .filter => identifier d
  | .having => identifier d + aggregate d

/-- The sign of a comparison. -/
def comparison : Language Char := {cs | ∃ op : Comparison, cs = (" " ++ op.sign ++ " ").toList}

/-- **The text of a condition.** -/
inductive Condition (d : Dialect) (clause : Clause) : List Char → Prop where
  | compare {cs} (h : cs ∈ subject d clause * comparison * (subject d clause + mark d)) :
    Condition d clause cs
  | compareTruth {cs p} (h : cs ∈ subject d clause * comparison) (hp : Condition d clause p) :
    Condition d clause (cs ++ ("(".toList ++ p ++ ")".toList))
  | both {p q} (hp : Condition d clause p) (hq : Condition d clause q) :
    Condition d clause (("(".toList ++ p ++ ")".toList) ++ " AND ".toList ++
      ("(".toList ++ q ++ ")".toList))
  | either {p q} (hp : Condition d clause p) (hq : Condition d clause q) :
    Condition d clause (("(".toList ++ p ++ ")".toList) ++ " OR ".toList ++
      ("(".toList ++ q ++ ")".toList))
  | negation {p} (hp : Condition d clause p) :
    Condition d clause (" NOT ".toList ++ ("(".toList ++ p ++ ")".toList))

/-- The conditions of a clause. -/
def condition (d : Dialect) (clause : Clause) : Language Char := {cs | Condition d clause cs}

/-- What is read: everything, or a list of columns and aggregates, which may have labels. -/
def projection (d : Dialect) : Language Char :=
  word "*" + commas ((identifier d + aggregate d) * optional (word " AS " * identifier d))

/-- A column that rows are ordered by. -/
def ordering (d : Dialect) : Language Char := identifier d * (word " ASC" + word " DESC")

/-- A statement that reads rows, as far as all of the rows. -/
def selectBody (d : Dialect) : Language Char :=
  word "SELECT " * projection d * (word " FROM " * identifier d) *
    clause " WHERE " (condition d .filter) * clause " GROUP BY " (commas (identifier d)) *
    clause " HAVING " (condition d .having) * clause " ORDER BY " (commas (ordering d))

/-- **Which of the rows.** Only one dialect knows rows to be skipped without a limit. -/
def bounds : Dialect → Language Char
  | .mysql => clause " LIMIT " (mark .mysql * clause " OFFSET " (mark .mysql))
  | .sqlite => clause " LIMIT " (mark .sqlite * clause " OFFSET " (mark .sqlite))
  | .postgres => clause " LIMIT " (mark .postgres) * clause " OFFSET " (mark .postgres)

/-- **A statement that reads rows.** -/
def selectText (d : Dialect) : Language Char := selectBody d * bounds d * word ";"

variable {L M : Language Char} {cs xs : List Char}

theorem mem_word (s : String) : s.toList ∈ word s := rfl

theorem mul_mem (hcs : cs ∈ L) (hxs : xs ∈ M) : cs ++ xs ∈ L * M :=
  Language.mem_mul.mpr ⟨cs, hcs, xs, hxs, rfl⟩

theorem mem_optional (h : cs ∈ L) : cs ∈ optional L := .inr h

theorem mem_commas (h : cs ∈ L) : cs ∈ commas L := by
  rw [← List.append_nil cs]
  exact mul_mem h (Language.nil_mem_kstar _)

/-- One more item in front of a list. -/
theorem cons_mem_commas (h : cs ∈ L) (hxs : xs ∈ commas L) :
    cs ++ (",".toList ++ xs) ∈ commas L := by
  obtain ⟨ys, hys, zs, hzs, rfl⟩ := Language.mem_mul.mp hxs
  have hrest : (",".toList ++ ys) ++ zs ∈ (word "," * L)∗ := by
    rw [← Language.one_add_self_mul_kstar_eq_kstar]
    exact .inr (mul_mem (mul_mem (mem_word ",") hys) hzs)
  rw [← List.append_assoc ",".toList]
  exact mul_mem h hrest

/-- What stands in parentheses, put together from the right. -/
theorem mem_parens (h : cs ∈ word "(" * (L * word ")")) :
    ∃ p ∈ L, cs = "(".toList ++ p ++ ")".toList := by
  obtain ⟨_, rfl, _, hrest, rfl⟩ := Language.mem_mul.mp h
  obtain ⟨p, hp, _, rfl, rfl⟩ := Language.mem_mul.mp hrest
  exact ⟨p, hp, (List.append_assoc ..).symm⟩

/-- Two parts in parentheses with a text between them. -/
theorem mem_joined {s : String}
    (h : cs ∈ word "(" * (L * word ")") * word s * (word "(" * (M * word ")"))) :
    ∃ p q, p ∈ L ∧ q ∈ M ∧ cs = ("(".toList ++ p ++ ")".toList) ++ s.toList ++
      ("(".toList ++ q ++ ")".toList) := by
  obtain ⟨_, hleft, _, hright, rfl⟩ := Language.mem_mul.mp h
  obtain ⟨_, hfirst, _, rfl, rfl⟩ := Language.mem_mul.mp hleft
  obtain ⟨p, hp, rfl⟩ := mem_parens hfirst
  obtain ⟨q, hq, rfl⟩ := mem_parens hright
  exact ⟨p, q, hp, hq, rfl⟩

/-! ## Texts that do not end like a limit -/

/-- **No text of the language ends like a bound on the rows**, whatever stands before it. -/
def Unbounded (L : Language Char) : Prop := ∀ xs ∈ L, ∀ cs, ¬ ['T', ' ', '?'] <:+ cs ++ xs

namespace Unbounded

/-- What a text ends in decides. -/
theorem mul (L : Language Char) (h : Unbounded M) : Unbounded (L * M) := by
  rintro _ hmem cs
  obtain ⟨xs, -, ys, hys, rfl⟩ := Language.mem_mul.mp hmem
  rw [← List.append_assoc]
  exact h ys hys (cs ++ xs)

theorem add (h : Unbounded L) (h' : Unbounded M) : Unbounded (L + M) := by
  rintro xs (hxs | hxs)
  · exact h xs hxs
  · exact h' xs hxs

theorem mul_optional (h : Unbounded L) (h' : Unbounded M) : Unbounded (L * optional M) := by
  rw [optional, mul_add, mul_one]
  exact h.add (h'.mul L)

theorem mul_clause (h : Unbounded L) (keyword : String) (h' : Unbounded M) :
    Unbounded (L * clause keyword M) :=
  h.mul_optional (h'.mul _)

theorem commas (h : Unbounded L) : Unbounded (commas L) := by
  rw [Grammar.commas, ← Language.one_add_kstar_mul_self_eq_kstar]
  exact h.mul_optional ((h.mul _).mul _)

/-- A text with another character at its end does not end so. -/
theorem of_getLast (h : ∀ xs ∈ L, ∃ ys ch, xs = ys ++ [ch] ∧ ch ≠ '?') : Unbounded L := by
  intro xs hxs cs hsuffix
  obtain ⟨ys, ch, rfl, hch⟩ := h xs hxs
  rw [← List.reverse_prefix] at hsuffix
  simp [hch.symm] at hsuffix

theorem word {s : String} (ys : List Char) (ch : Char) (hs : s.toList = ys ++ [ch])
    (hch : ch ≠ '?') : Unbounded (word s) :=
  of_getLast fun _ hxs => ⟨ys, ch, hxs.trans hs, hch⟩

theorem identifier (d : Dialect) : Unbounded (identifier d) := by
  refine of_getLast ?_
  rintro _ ⟨s, -, rfl⟩
  refine ⟨d.quoteChar :: s.toList, d.quoteChar, by simp [Dialect.quote], ?_⟩
  cases d <;> decide

theorem aggregate (d : Dialect) : Unbounded (aggregate d) := by
  rintro xs ⟨f, hxs⟩
  exact (word [] ')' rfl (by decide)).mul _ xs hxs

theorem subject (d : Dialect) (clause : Clause) : Unbounded (subject d clause) := by
  cases clause with
  | filter => exact identifier d
  | having => exact (identifier d).add (aggregate d)

/-- The sign of a comparison stands before an argument, and no bound ends in it. -/
theorem comparison_mark {d : Dialect} (hd : d ≠ .postgres) : Unbounded (comparison * mark d) := by
  have hmark : ∀ k, (d.placeholder k).toList = ['?'] := by
    cases d with
    | mysql | sqlite => simp [Dialect.placeholder]
    | postgres => exact absurd rfl hd
  rintro _ hmem cs hsuffix
  obtain ⟨_, ⟨op, rfl⟩, _, ⟨k, rfl⟩, rfl⟩ := Language.mem_mul.mp hmem
  rw [hmark, ← List.reverse_prefix] at hsuffix
  cases op <;> simp [Comparison.sign] at hsuffix

theorem condition {d : Dialect} (hd : d ≠ .postgres) (clause : Clause) :
    Unbounded (condition d clause) := by
  have hclose : ∀ xs ys cs, ¬ ['T', ' ', '?'] <:+ cs ++ (xs ++ (ys ++ ")".toList)) := by
    intro xs ys cs hsuffix
    rw [← List.reverse_prefix] at hsuffix
    simp at hsuffix
  rintro xs hxs cs
  -- A condition ends in the other side of a comparison, or in a parenthesis.
  cases hxs with
  | compare h =>
    rw [mul_add] at h
    rcases h with h | h
    · exact (subject d clause).mul _ xs h cs
    · rw [mul_assoc] at h
      exact (comparison_mark hd).mul _ xs h cs
  | compareTruth _ _ => exact hclose _ _ cs
  | both _ _ => exact hclose _ _ cs
  | either _ _ => exact hclose _ _ cs
  | negation _ => exact hclose _ _ cs

/-- **What stands before the bounds on the rows does not end like one.** -/
theorem selectBody {d : Dialect} (hd : d ≠ .postgres) : Unbounded (selectBody d) := by
  have hordering : Unbounded (ordering d) :=
    ((word " AS".toList 'C' rfl (by decide)).add (word " DES".toList 'C' rfl (by decide))).mul _
  have hfrom := ((identifier d).mul (Grammar.word " FROM ")).mul
    (Grammar.word "SELECT " * projection d)
  exact (((hfrom.mul_clause _ (condition hd .filter)).mul_clause _ (identifier d).commas).mul_clause
    _ (condition hd .having)).mul_clause _ hordering.commas

end Unbounded

/-- **An offset by itself** is no bound on the rows where there is only an offset after a limit. -/
theorem offset_notMem {d : Dialect} (hd : d ≠ .postgres) (hcs : cs ∈ selectBody d) :
    cs ++ " OFFSET ?".toList ++ ";".toList ∉ selectText d := by
  have hbounds : bounds d = clause " LIMIT " (word "?" * clause " OFFSET " (word "?")) := by
    have hmark : ∀ d : Dialect, (∀ k, d.placeholder k = "?") → mark d = word "?" := by
      intro d h
      ext xs
      exact ⟨fun ⟨k, hk⟩ => hk.trans (congrArg _ (h (k + 1))),
        fun hxs => ⟨0, hxs.trans (congrArg _ (h 1).symm)⟩⟩
    cases d with
    | mysql | sqlite => rw [bounds, hmark _ fun _ => rfl]
    | postgres => exact absurd rfl hd
  rintro hmem
  obtain ⟨_, hmem, _, rfl, heq⟩ := Language.mem_mul.mp hmem
  obtain ⟨xs, hxs, ys, hys, rfl⟩ := Language.mem_mul.mp hmem
  have heq := List.append_cancel_right heq
  rw [hbounds] at hys
  rcases hys with rfl | hys
  -- Without bounds, what stands before them would end like one.
  · refine Unbounded.selectBody hd xs hxs [] ⟨cs ++ " OFFSE".toList, ?_⟩
    rw [List.nil_append, ← List.append_nil xs, heq]
    simp
  obtain ⟨_, rfl, _, hlimit, rfl⟩ := Language.mem_mul.mp hys
  obtain ⟨_, rfl, _, hoffset, rfl⟩ := Language.mem_mul.mp hlimit
  rcases hoffset with rfl | hoffset
  -- A limit does not end like an offset.
  · have hends := congrArg List.reverse heq
    simp at hends
  -- After a limit and an offset, what stands before the offset would end like a limit.
  · obtain ⟨_, rfl, _, rfl, rfl⟩ := Language.mem_mul.mp hoffset
    have hsame : (xs ++ " LIMIT ?".toList) ++ " OFFSET ?".toList = cs ++ " OFFSET ?".toList := by
      simpa using heq
    have hcut : xs ++ " LIMIT ?".toList = cs := List.append_cancel_right hsame
    refine Unbounded.selectBody hd cs hcs [] ⟨xs ++ " LIMI".toList, ?_⟩
    rw [List.nil_append, ← hcut]
    simp

end Grammar

/-! ## What templates become -/

open Grammar

/-- **The template is written in the language**: if it resolves, its text is in the language. -/
def Writes (d : Dialect) (m : Model) (is : List Item) (L : Language Char) : Prop :=
  ∀ ps, resolveAll m is = .ok ps → ∀ bound, renderFrom d bound ps ∈ L

variable {d : Dialect} {m : Model} {is js : List Item} {L M : Language Char}

namespace Writes

theorem nil : Writes d m [] 1 := by
  rintro ps ⟨⟩ bound
  rfl

theorem append (h : Writes d m is L) (h' : Writes d m js M) : Writes d m (is ++ js) (L * M) := by
  intro ps hps bound
  obtain ⟨qs, rs, hqs, hrs, rfl⟩ := resolveAll_append_eq_ok.mp hps
  rw [renderFrom_append]
  exact mul_mem (h qs hqs bound) (h' rs hrs _)

theorem mono (h : Writes d m is L) (hL : ∀ cs ∈ L, cs ∈ M) : Writes d m is M :=
  fun ps hps bound => hL _ (h ps hps bound)

/-- An item is written as the piece that it becomes. -/
theorem of_resolve {i : Item} (h : ∀ p, i.resolve m = .ok p → ∀ bound, p.chars d bound ∈ L) :
    Writes d m [i] L := by
  intro ps hps bound
  obtain ⟨p, qs, hp, hqs, rfl⟩ := resolveAll_cons_eq_ok.mp hps
  cases hqs
  simpa [renderFrom] using h p hp bound

theorem text (s : String) : Writes d m [.text s] (word s) :=
  of_resolve fun p hp bound => by cases hp; rfl

theorem cons_text (s : String) (h : Writes d m is L) : Writes d m (.text s :: is) (word s * L) :=
  (text s).append h

theorem arg (v : Value) : Writes d m [.arg v] (mark d) :=
  of_resolve fun p hp bound => by cases hp; exact ⟨bound, rfl⟩

theorem refusal (e : Error) : Writes d m [.refusal e] L :=
  of_resolve fun p hp => by cases hp

theorem name {s : String} (hs : d.quoteChar ∉ s.toList) : Writes d m [.name s] (identifier d) :=
  of_resolve fun p hp bound => by cases hp; exact ⟨s, hs, rfl⟩

theorem table (hm : d.quoteChar ∉ m.table.toList) : Writes d m [.table] (identifier d) :=
  of_resolve fun p hp bound => by cases hp; exact ⟨m.table, hm, rfl⟩

theorem column (hm : ∀ f ∈ m.fields, d.quoteChar ∉ f.columnName.toList) (c : String) :
    Writes d m [.column c] (identifier d) := by
  refine of_resolve fun p hp bound => ?_
  cases hf : m.field? c with
  | none => simp [Item.resolve, hf] at hp
  | some f =>
    simp only [Item.resolve, hf, Except.ok.injEq] at hp
    exact hp ▸ ⟨f.columnName, hm f (Model.mem_of_field? hf).1, rfl⟩

theorem grouped (h : Writes d m is L) : Writes d m (grouped is) (word "(" * (L * word ")")) :=
  (text "(").append (h.append (text ")"))

/-- A list with at least one item is written as one. -/
theorem listed {α : Type} {f : α → List Item} {xs : List α} (hxs : xs ≠ [])
    (h : ∀ x ∈ xs, Writes d m (f x) L) : Writes d m (listed (xs.map f)) (commas L) := by
  induction xs with
  | nil => exact absurd rfl hxs
  | cons x xs ih =>
    obtain ⟨hx, hrest⟩ := List.forall_mem_cons.mp h
    cases xs with
    | nil =>
      refine mono (L := L) ?_ fun _ => mem_commas
      simpa [Sql.listed] using hx
    | cons y ys =>
      have hlist := hx.append (cons_text "," (ih (by simp) hrest))
      refine mono (L := L * (word "," * commas L)) ?_ ?_
      · simpa [Sql.listed, List.intercalate_cons_cons] using hlist
      · rintro _ hmem
        obtain ⟨cs, hcs, _, hrest, rfl⟩ := Language.mem_mul.mp hmem
        obtain ⟨_, rfl, zs, hzs, rfl⟩ := Language.mem_mul.mp hrest
        exact cons_mem_commas hcs hzs

/-- A clause that is left out. -/
theorem noClause (keyword : String) (L : Language Char) : Writes d m [] (clause keyword L) :=
  nil.mono fun _ h => .inl h

/-- A clause that is not left out. -/
theorem clause {keyword : String} (h : Writes d m is L) :
    Writes d m (.text keyword :: is) (clause keyword L) :=
  (h.cons_text keyword).mono fun _ => mem_optional

end Writes

/-! ## Expressions -/

section Expressions

variable (hm : ∀ f ∈ m.fields, d.quoteChar ∉ f.columnName.toList)
include hm

theorem Aggregate.writes_items (a : Aggregate) : Writes d m a.items (Grammar.aggregate d) :=
  (((Writes.text _).append (.column hm a.column)).append (.text ")")).mono
    fun _ hcs => ⟨a.function, hcs⟩

theorem Subject.writes_items (clause : Clause) {s : Subject} (hs : ∀ r, .fragment r ∉ s.sources) :
    Writes d m (s.items clause) (Grammar.subject d clause) := by
  cases s with
  | fragment r => exact absurd List.mem_cons_self (hs r)
  | column c =>
    cases clause with
    | filter => exact .column hm c.name
    | having => exact (Writes.column hm c.name).mono fun _ => .inl
  | aggregate a =>
    cases clause with
    | filter => exact .refusal _
    | having => exact (a.writes_items hm).mono fun _ => .inr

theorem Operand.writes_items (clause : Clause) {o : Operand} (ho : ∀ r, .fragment r ∉ o.sources) :
    Writes d m (o.items clause) (Grammar.subject d clause + mark d) := by
  cases o with
  | subject s => exact (s.writes_items hm clause ho).mono fun _ => .inl
  | value v => exact (Writes.arg v).mono fun _ => .inr

/-- **A condition is written as one.** -/
theorem Predicate.writes_items (clause : Clause) {p : Predicate} (hp : p.Plain) :
    Writes d m (p.items clause) (condition d clause) := by
  have hsign (op : Comparison) : Writes d m [.text (" " ++ op.sign ++ " ")] comparison :=
    (Writes.text _).mono fun _ hcs => ⟨op, hcs⟩
  -- Induction on the condition; the parts of all but comparisons stand in parentheses.
  induction p with
  | compare l op r =>
    obtain ⟨hl, hr⟩ := plain_append hp
    rw [items_compare, ← List.append_assoc]
    exact (((l.writes_items hm clause hl).append (hsign op)).append
      (r.writes_items hm clause hr)).mono fun _ => .compare
  | compareTruth l op r ih =>
    obtain ⟨hl, hr⟩ := plain_append hp
    rw [items_compareTruth, ← List.append_assoc]
    refine (((l.writes_items hm clause hl).append (hsign op)).append (ih hr).grouped).mono ?_
    rintro _ hmem
    obtain ⟨cs, hcs, _, hnested, rfl⟩ := Language.mem_mul.mp hmem
    obtain ⟨p, hp, rfl⟩ := mem_parens hnested
    exact .compareTruth hcs hp
  | both l r ihl ihr =>
    obtain ⟨hl, hr⟩ := plain_append hp
    rw [items_both, ← List.append_assoc]
    refine (((ihl hl).grouped.append (.text " AND ")).append (ihr hr).grouped).mono ?_
    rintro _ hmem
    obtain ⟨p, q, hp, hq, rfl⟩ := mem_joined hmem
    exact .both hp hq
  | either l r ihl ihr =>
    obtain ⟨hl, hr⟩ := plain_append hp
    rw [items_either, ← List.append_assoc]
    refine (((ihl hl).grouped.append (.text " OR ")).append (ihr hr).grouped).mono ?_
    rintro _ hmem
    obtain ⟨p, q, hp, hq, rfl⟩ := mem_joined hmem
    exact .either hp hq
  | negation p ih =>
    rw [items_negation]
    refine ((Writes.text " NOT ").append (ih hp).grouped).mono ?_
    rintro _ hmem
    obtain ⟨_, rfl, _, hnested, rfl⟩ := Language.mem_mul.mp hmem
    obtain ⟨p, hp, rfl⟩ := mem_parens hnested
    exact .negation hp
  | fragment r => exact absurd List.mem_cons_self (hp r)

/-- Conditions that all have to hold are one condition. -/
theorem writes_conditionItems (keyword : String) (clause : Clause) {ps : List Predicate}
    (hps : ∀ r, .fragment r ∉ ps.flatMap Predicate.sources) :
    Writes d m (conditionItems keyword clause ps)
      (Grammar.clause keyword (condition d clause)) := by
  cases ps with
  | nil => exact .noClause _ _
  | cons p ps =>
    have hplain : (ps.foldl Predicate.both p).Plain := fun r => by
      rw [sources_foldl_both]
      exact hps r
    exact (Predicate.writes_items hm clause hplain).clause

/-- A projected item with its label. -/
theorem Selectable.writes_items {s : Selectable} (hs : ∀ r, .fragment r ∉ s.sources)
    (hlabel : ∀ l ∈ s.label?, d.quoteChar ∉ l.toList) :
    Writes d m s.items
      ((identifier d + Grammar.aggregate d) * optional (word " AS " * identifier d)) := by
  have hlabelled {label : Option String} (h : ∀ l ∈ label, d.quoteChar ∉ l.toList) :
      Writes d m (labelItems label) (optional (word " AS " * identifier d)) := by
    cases label with
    | none => exact .noClause _ _
    | some l => exact (Writes.name (h l rfl)).clause
  cases s with
  | column c =>
    exact ((Writes.column hm c.name).mono fun _ => .inl).append (hlabelled hlabel)
  | aggregate a => exact ((a.writes_items hm).mono fun _ => .inr).append (hlabelled hlabel)
  | fragment r => exact absurd List.mem_cons_self (hs r)

theorem writes_projectionItems {ss : List Selectable}
    (hss : ∀ r, .fragment r ∉ ss.flatMap Selectable.sources)
    (hlabels : ∀ l ∈ ss.filterMap Selectable.label?, d.quoteChar ∉ l.toList) :
    Writes d m (projectionItems ss) (projection d) := by
  cases ss with
  | nil => exact (Writes.text "*").mono fun _ => .inl
  | cons s ss =>
    refine (Writes.listed (List.cons_ne_nil s ss) fun s' hs' => ?_).mono fun _ => .inr
    refine s'.writes_items hm (fun r hr => hss r ?_) fun l hl => hlabels l ?_
    · exact List.mem_flatMap.mpr ⟨s', hs', hr⟩
    · exact List.mem_filterMap.mpr ⟨s', hs', hl⟩

omit hm in
/-- A clause with a list in it. -/
theorem writes_clauseItems {α : Type} (keyword : String) {f : α → List Item} (xs : List α)
    (h : ∀ x ∈ xs, Writes d m (f x) L) :
    Writes d m (clauseItems keyword (xs.map f)) (Grammar.clause keyword (commas L)) := by
  cases xs with
  | nil => exact .noClause _ _
  | cons x xs => exact (Writes.listed (List.cons_ne_nil x xs) h).clause

end Expressions

/-! ## Statements -/

/-- A statement without parts that are written by hand has no fragments among its sources. -/
theorem Statement.notMem_sources {stmt : Statement} (h : stmt.fragments = []) (r : Fragment) :
    .fragment r ∉ stmt.clauseSources := by
  intro hr
  have hmem : r ∈ stmt.fragments := List.mem_filterMap.mpr ⟨_, hr, rfl⟩
  rw [h] at hmem
  exact List.not_mem_nil hmem

namespace Select

/-- The template of a statement that reads rows, as far as all of the rows. -/
def bodyItems (s : Select) : List Item :=
  [.text "SELECT "] ++ projectionItems s.columns ++ ([.text " FROM "] ++ [tableItem s.table]) ++
    whereItems s.wheres ++ clauseItems " GROUP BY " (s.groupBy.map fun c => [.column c.name]) ++
    havingItems s.having ++ clauseItems " ORDER BY " (s.orderBy.map orderingItems)

/-- The bounds of a statement that reads rows. -/
def boundsItems (s : Select) : List Item :=
  boundItems " LIMIT " s.limit ++ boundItems " OFFSET " s.offset

theorem items_eq (s : Select) : s.items = s.bodyItems ++ s.boundsItems ++ [.text ";"] := by
  simp [items, bodyItems, boundsItems]

/-- **All but the bounds is well formed.** -/
theorem writes_body {s : Select} (htable : s.table = none)
    (hraw : (Statement.select s).fragments = [])
    (hnames : ∀ n ∈ (Statement.select s).names m, d.quoteChar ∉ n.toList) :
    Writes d m s.bodyItems (selectBody d) := by
  obtain ⟨hm, hlabels⟩ : (∀ f ∈ m.fields, d.quoteChar ∉ f.columnName.toList) ∧
      ∀ l ∈ (Statement.select s).labels, d.quoteChar ∉ l.toList :=
    ⟨fun f hf =>
        hnames _ (List.mem_cons_of_mem _ (List.mem_append_left _ (List.mem_map_of_mem hf))),
      fun l hl => hnames _ (List.mem_cons_of_mem _ (List.mem_append_right _ hl))⟩
  have hsources := Statement.notMem_sources hraw
  simp only [Statement.clauseSources, List.mem_append, not_or] at hsources
  have hordering : ∀ o ∈ s.orderBy, Writes d m (orderingItems o) (ordering d) := by
    intro o _
    refine (Writes.column hm o.column).append ?_
    cases o.descending with
    | false => exact (Writes.text " ASC").mono fun _ => .inl
    | true => exact (Writes.text " DESC").mono fun _ => .inr
  have hfrom : Writes d m [tableItem s.table] (identifier d) := by
    rw [htable]
    exact .table (hnames _ List.mem_cons_self)
  have hselect := ((Writes.text "SELECT ").append (writes_projectionItems hm
    (fun r => (hsources r).1.1.1.1) hlabels)).append ((Writes.text " FROM ").append hfrom)
  exact (((hselect.append (writes_conditionItems hm " WHERE " .filter
    fun r => (hsources r).1.1.1.2)).append (writes_clauseItems " GROUP BY " s.groupBy
    fun c _ => .column hm c.name)).append (writes_conditionItems hm " HAVING " .having
    fun r => (hsources r).1.1.2)).append (writes_clauseItems " ORDER BY " s.orderBy hordering)

/-- A bound on the rows, if there is one. -/
theorem writes_boundItems (keyword : String) (n : Option (BoundedInt .i64)) :
    Writes d m (boundItems keyword n) (clause keyword (mark d)) := by
  cases n with
  | none => exact .noClause _ _
  | some n => exact (Writes.arg _).clause

/-- **Bounds are well formed** unless there is an offset by itself where that is not known. -/
theorem writes_bounds {s : Select} (h : d = .postgres ∨ s.offset = none ∨ s.limit ≠ none) :
    Writes d m s.boundsItems (bounds d) := by
  have hoffset := writes_boundItems (d := d) (m := m) " OFFSET " s.offset
  unfold boundsItems
  cases hlimit : s.limit with
  | some n =>
    cases d with
    | mysql | sqlite => exact ((Writes.arg (.int .i64 n)).append hoffset).clause
    | postgres => exact (writes_boundItems " LIMIT " (some n)).append hoffset
  | none =>
    cases d with
    | mysql | sqlite =>
      have hnone : s.offset = none := by simpa [hlimit] using h
      rw [hnone]
      exact .noClause _ _
    | postgres => exact (writes_boundItems " LIMIT " none).append hoffset

end Select

/-- **Which statements that read rows are well formed**: those with a limit or without an offset,
and all of them in the dialect that knows an offset by itself. -/
theorem select_wellFormed {read : Instance → String → Except Error Value} {s : Select} {q : Query}
    (htable : s.table = none) (hraw : (Statement.select s).fragments = [])
    (hnames : ∀ n ∈ (Statement.select s).names m, d.quoteChar ∉ n.toList)
    (h : (Statement.select s).compile d m read = .ok q) :
    q.sql.toList ∈ selectText d ↔ d = .postgres ∨ s.offset = none ∨ s.limit ≠ none := by
  obtain ⟨ps, hps, hq⟩ := bind_eq_ok.mp h
  cases hq
  have hitems : resolveAll m (s.bodyItems ++ (s.boundsItems ++ [.text ";"])) = .ok ps := by
    rw [← List.append_assoc, ← s.items_eq]
    exact hps
  have hbody := Select.writes_body htable hraw hnames
  rw [render, String.toList_ofList]
  constructor
  · -- An offset by itself stands between all of the rows and the end of the text.
    contrapose!
    rintro ⟨hd, hoffset, hlimit⟩
    obtain ⟨n, hn⟩ := Option.ne_none_iff_exists'.mp hoffset
    obtain ⟨qs, rs, hqs, hrs, rfl⟩ := resolveAll_append_eq_ok.mp hitems
    have hrest : ∀ bound, renderFrom d bound rs = " OFFSET ?".toList ++ ";".toList := by
      simp only [Select.boundsItems, hlimit, hn] at hrs
      cases hrs
      cases d with
      | mysql | sqlite => simp [renderFrom, Piece.chars, Dialect.placeholder]
      | postgres => exact absurd rfl hd
    rw [renderFrom_append, hrest, ← List.append_assoc]
    exact offset_notMem hd (hbody qs hqs 0)
  · intro hbounds
    have htext := (hbody.append (Select.writes_bounds hbounds)).append (.text ";")
    rw [List.append_assoc] at htext
    exact htext ps hitems 0

/-- A page of a report on the gauge, with every clause. -/
def gaugeReport : Select :=
  ((((((Select.all.project [.column ⟨"level", some "l"⟩, .aggregate ⟨.count, "id", none⟩]).filter
    (.negation (.compare (.column ⟨"id", none⟩) .lt (.value .null)))).group
    [⟨"level", none⟩, ⟨"id", none⟩]).filterGroups
    (.compare (.aggregate ⟨.max, "id", none⟩) .gt (.subject (.column ⟨"level", none⟩)))).order
    [⟨"level", true⟩, ⟨"id", false⟩]).atMost ⟨10, by decide⟩).skip ⟨20, by decide⟩

/-- The page is well formed. -/
theorem gaugeReport_wellFormed : gaugeReport.table = none ∧
    (Statement.select gaugeReport).fragments = [] ∧
    (∀ n ∈ (Statement.select gaugeReport).names gaugeModel,
      Dialect.sqlite.quoteChar ∉ n.toList) ∧
    ∃ read q, (Statement.select gaugeReport).compile .sqlite gaugeModel read = .ok q ∧
      q.args = [.null, .int .i64 ⟨10, by decide⟩, .int .i64 ⟨20, by decide⟩] ∧
      q.sql.toList ∈ selectText .sqlite := by
  have htable : gaugeReport.table = none := rfl
  have hraw : (Statement.select gaugeReport).fragments = [] := rfl
  have hnames : ∀ n ∈ (Statement.select gaugeReport).names gaugeModel,
      Dialect.sqlite.quoteChar ∉ n.toList := by decide
  obtain ⟨q, hq, hargs⟩ : ∃ q, (Statement.select gaugeReport).compile .sqlite gaugeModel
      (fun _ _ => .ok .null) = .ok q ∧
      q.args = [.null, .int .i64 ⟨10, by decide⟩, .int .i64 ⟨20, by decide⟩] := ⟨_, rfl, rfl⟩
  exact ⟨htable, hraw, hnames, _, q, hq, hargs,
    (select_wellFormed htable hraw hnames hq).mpr (.inr (.inr nofun))⟩

/-- **An offset by itself is written where it is not known.** -/
theorem offsetByItself_rejected : ∃ read q,
    (Statement.select (Select.all.skip ⟨20, by decide⟩)).compile .mysql gaugeModel read = .ok q ∧
    (Statement.select (Select.all.skip ⟨20, by decide⟩)).fragments = [] ∧
    (∀ n ∈ (Statement.select (Select.all.skip ⟨20, by decide⟩)).names gaugeModel,
      Dialect.mysql.quoteChar ∉ n.toList) ∧
    q.sql = "SELECT * FROM `gauge` OFFSET ?;" ∧ q.sql.toList ∉ selectText .mysql := by
  have hbody : "SELECT * FROM `gauge`".toList ∈ selectBody .mysql :=
    (Select.writes_body (d := .mysql) (m := gaugeModel) (s := .all) rfl rfl (by decide)) _ rfl 0
  refine ⟨fun _ _ => .ok .null, ⟨"SELECT * FROM `gauge` OFFSET ?;", [.int .i64 ⟨20, by decide⟩]⟩,
    by decide, rfl, by decide, rfl, ?_⟩
  exact offset_notMem (by decide) hbody

end EntityMapper.Sql

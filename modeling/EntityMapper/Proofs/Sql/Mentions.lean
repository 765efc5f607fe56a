import EntityMapper.Proofs.Sql.Binding

/-!
# What statements mention

Whether a statement can be written in a model is decided by what it mentions: the fields of its
entity, which the model may not have, and what has no place where it stands. Mentions are in the
order of the text, so that the first that is out of place is the one that is reported, however
deep it stands in a condition.

## Main definitions

* `Mention`: what a statement mentions; `Mention.Allowed m x`, `Mention.error x`
* `Predicate.mentions`, …, `Statement.mentions`: the mentions of expressions and of statements
* `Item.asks i`: the item may have no answer in a model

## Main results

* `map_resolveAll_filter`: only the items that ask decide whether a template resolves
* `filter_template`: the items of a statement that ask are its mentions
* `exists_resolveAll_template`, `resolveAll_template_eq_error`: when the template of a statement
  resolves, and the error if it does not
-/

namespace EntityMapper.Sql

/-! ## Mentions -/

/-- **What a statement mentions**: a field by its name, or something that has no place where it
stands, which is an aggregate in a condition on rows or a column that is assigned nothing. -/
inductive Mention where
  | field (name : String)
  | rowAggregate (a : Aggregate)
  | bareColumn (c : Column)
  deriving DecidableEq

namespace Mention

/-- **The model has what is mentioned.** What has no place where it stands is in no model. -/
def Allowed (m : Model) : Mention → Prop
  | field name => (m.field? name).isSome
  | rowAggregate _ => False
  | bareColumn _ => False

instance (m : Model) : DecidablePred (Allowed m)
  | field name => inferInstanceAs (Decidable ((m.field? name).isSome = true))
  | rowAggregate _ => inferInstanceAs (Decidable False)
  | bareColumn _ => inferInstanceAs (Decidable False)

/-- The error that a mention is answered with if the model has not what is mentioned. -/
def error : Mention → Error
  | field name => .unknownField name
  | rowAggregate a =>
    .unsupportedExpression ("aggregate " ++ a.function.word ++ "(" ++ a.column ++ ") in Where")
  | bareColumn c =>
    .unsupportedAssignableType ("bare column " ++ Text.quoted c.name ++ " in UPDATE SET")

/-- The item of a template that a mention becomes. -/
def item : Mention → Item
  | field name => .column name
  | x => .refusal x.error

/-- Everything that is mentioned is allowed if the fields are known and nothing is out of place. -/
theorem forall_allowed_iff {m : Model} {xs : List Mention} :
    (∀ x ∈ xs, x.Allowed m) ↔ (∀ name, field name ∈ xs → (m.field? name).isSome) ∧
      (∀ a, rowAggregate a ∉ xs) ∧ ∀ c, bareColumn c ∉ xs := by
  constructor
  · intro h
    exact ⟨fun name hx => h _ hx, fun a => h _, fun c => h _⟩
  · rintro ⟨hfields, haggregates, hcolumns⟩ x hx
    cases x with
    | field name => exact hfields name hx
    | rowAggregate a => exact haggregates a hx
    | bareColumn c => exact hcolumns c hx

/-- An item that comes from a mention resolves if the mention is allowed. -/
theorem resolve_item_eq_ok {m : Model} {x : Mention} :
    (∃ p, x.item.resolve m = .ok p) ↔ x.Allowed m := by
  cases x with
  | field name => cases hf : m.field? name <;> simp [item, Item.resolve, Allowed, hf]
  | rowAggregate | bareColumn => simp [item, Item.resolve, Allowed]

theorem resolve_item_eq_error {m : Model} {x : Mention} {err : Error} :
    x.item.resolve m = .error err ↔ ¬ x.Allowed m ∧ err = x.error := by
  cases x with
  | field name =>
    cases hf : m.field? name <;> simp [item, Item.resolve, Allowed, error, hf, eq_comm]
  | rowAggregate | bareColumn => simp [item, Item.resolve, Allowed, eq_comm]

end Mention

/-! ## The mentions of expressions and statements -/

/-- The mentions of the subject of a comparison. Groups have aggregates, and rows have none. -/
def Subject.mentions (clause : Clause) : Subject → List Mention
  | .column c => [.field c.name]
  | .fragment _ => []
  | .aggregate a =>
    match clause with
    | .having => [.field a.column]
    | .filter => [.rowAggregate a]

/-- The mentions of the other side of a comparison. -/
def Operand.mentions (clause : Clause) : Operand → List Mention
  | .subject s => s.mentions clause
  | .value _ => []

/-- **The mentions of a condition**, from the left. -/
def Predicate.mentions (clause : Clause) : Predicate → List Mention
  | compare l _ r => l.mentions clause ++ r.mentions clause
  | compareTruth l _ r => l.mentions clause ++ r.mentions clause
  | both l r => l.mentions clause ++ r.mentions clause
  | either l r => l.mentions clause ++ r.mentions clause
  | negation p => p.mentions clause
  | fragment _ => []

/-- The mentions of a projected item. -/
def Selectable.mentions : Selectable → List Mention
  | .column c => [.field c.name]
  | .aggregate a => [.field a.column]
  | .fragment _ => []

/-- The mentions of an assignment of an update. -/
def Update.assignmentMentions : Assignable → List Mention
  | .assignment c _ => [.field c]
  | .column c => [.bareColumn c]
  | .fragment _ => []

namespace Statement

/-- The statement reads, changes or deletes rows that are there. -/
def OnRows : Statement → Prop
  | select _ | update _ | delete _ => True
  | insert _ | handwritten _ => False

/-- The statement changes nothing in the rows: it is an update without assignments. -/
def Idle : Statement → Prop
  | update u => u.assignments = []
  | _ => False

/-- **The mentions of a statement on rows**, in the order of its text. -/
def mentions : Statement → List Mention
  | select s =>
    s.columns.flatMap Selectable.mentions ++ s.wheres.flatMap (Predicate.mentions .filter) ++
      s.groupBy.map (fun c => .field c.name) ++ s.having.flatMap (Predicate.mentions .having) ++
      s.orderBy.map fun o => .field o.column
  | update u =>
    u.assignments.flatMap Update.assignmentMentions ++
      u.wheres.flatMap (Predicate.mentions .filter)
  | delete s => s.wheres.flatMap (Predicate.mentions .filter)
  -- Insertions have their own rules, and what is written by hand is not looked into.
  | insert _ | handwritten _ => []

end Statement

/-! ## Templates that are asked of a model -/

/-- **The item may have no answer in a model**: it is a field, or a refusal. -/
def Item.asks : Item → Bool
  | column _ | refusal _ => true
  | _ => false

@[simp] theorem Item.asks_text (s : String) : (text s).asks = false := rfl

theorem Item.resolve_of_not_asks (m : Model) {i : Item} (h : i.asks = false) :
    ∃ p, i.resolve m = .ok p := by
  cases i with
  | column | refusal => cases h
  | _ => exact ⟨_, rfl⟩

/-- **Only the items that ask decide** whether a template resolves, and how it fails. -/
theorem map_resolveAll_filter (m : Model) (is : List Item) :
    (resolveAll m (is.filter Item.asks)).map (fun _ => ()) =
      (resolveAll m is).map fun _ => () := by
  have hcons (i : Item) (is : List Item) : (resolveAll m (i :: is)).map (fun _ => ()) =
      i.resolve m >>= fun _ => (resolveAll m is).map fun _ => () := by
    rw [resolveAll]
    cases i.resolve m with
    | error err => rfl
    | ok p => cases resolveAll m is <;> rfl
  induction is with
  | nil => rfl
  | cons i is ih =>
    by_cases hi : i.asks
    · rw [List.filter_cons_of_pos hi, hcons, hcons, ih]
    · obtain ⟨p, hp⟩ := i.resolve_of_not_asks m (by simpa using hi)
      rw [List.filter_cons_of_neg hi, hcons, ih, hp]
      rfl

/-- Mentions resolve together if all of them are allowed. -/
theorem exists_resolveAll_mentions {m : Model} {xs : List Mention} :
    (∃ ps, resolveAll m (xs.map Mention.item) = .ok ps) ↔ ∀ x ∈ xs, x.Allowed m := by
  induction xs with
  | nil => simp [resolveAll]
  | cons x xs ih =>
    rw [List.map_cons, List.forall_mem_cons, ← ih, ← Mention.resolve_item_eq_ok]
    simp only [resolveAll_cons_eq_ok]
    constructor
    · rintro ⟨_, p, qs, hp, hqs, rfl⟩
      exact ⟨⟨p, hp⟩, qs, hqs⟩
    · rintro ⟨⟨p, hp⟩, qs, hqs⟩
      exact ⟨p :: qs, p, qs, hp, hqs, rfl⟩

/-- **The first mention that is not allowed** decides the error. -/
theorem resolveAll_mentions_eq_error {m : Model} {xs : List Mention} {err : Error} :
    resolveAll m (xs.map Mention.item) = .error err ↔
      ∃ before x after, xs = before ++ x :: after ∧ (∀ y ∈ before, y.Allowed m) ∧
        ¬ x.Allowed m ∧ err = x.error := by
  induction xs with
  | nil => simp [resolveAll]
  | cons x xs ih =>
    rw [List.map_cons, resolveAll]
    by_cases hx : x.Allowed m
    -- The first mention is allowed, and so it is before the one that is not.
    · obtain ⟨p, hp⟩ := Mention.resolve_item_eq_ok.mpr hx
      have hrest : (x.item.resolve m >>= fun p => resolveAll m (xs.map Mention.item) >>=
          fun ps => .ok (p :: ps)) = .error err ↔
          resolveAll m (xs.map Mention.item) = .error err := by
        rw [hp]
        cases resolveAll m (xs.map Mention.item) <;> simp [bind, Except.bind]
      refine hrest.trans (ih.trans ⟨?_, ?_⟩)
      · rintro ⟨before, y, after, rfl, hbefore, hy⟩
        exact ⟨x :: before, y, after, rfl, List.forall_mem_cons.mpr ⟨hx, hbefore⟩, hy⟩
      · rintro ⟨_ | ⟨z, before⟩, y, after, hxs, hbefore, hy, herr⟩
        · obtain ⟨rfl, -⟩ := List.cons.inj hxs
          exact absurd hx hy
        · obtain ⟨-, rfl⟩ := List.cons.inj hxs
          exact ⟨before, y, after, rfl, (List.forall_mem_cons.mp hbefore).2, hy, herr⟩
    · have hfault : x.item.resolve m = .error x.error :=
        Mention.resolve_item_eq_error.mpr ⟨hx, rfl⟩
      rw [hfault]
      constructor
      · intro h
        cases h
        exact ⟨[], x, xs, rfl, by simp, hx, rfl⟩
      · rintro ⟨_ | ⟨z, before⟩, y, after, hxs, hbefore, -, rfl⟩
        · obtain ⟨rfl, -⟩ := List.cons.inj hxs
          rfl
        · obtain ⟨rfl, -⟩ := List.cons.inj hxs
          exact absurd (hbefore _ List.mem_cons_self) hx

/-! ## The templates of expressions and statements -/

/-- Commas ask nothing. -/
theorem filter_listed (parts : List (List Item)) :
    (listed parts).filter Item.asks = parts.flatMap (List.filter Item.asks) := by
  induction parts with
  | nil => rfl
  | cons is parts ih =>
    cases parts with
    | nil => simp [listed]
    | cons js parts =>
      simp only [listed] at ih ⊢
      simp [List.intercalate_cons_cons, ih]

theorem filter_clauseItems (keyword : String) (parts : List (List Item)) :
    (clauseItems keyword parts).filter Item.asks = parts.flatMap (List.filter Item.asks) := by
  cases parts with
  | nil => rfl
  | cons is parts => exact filter_listed (is :: parts)

theorem filter_labelItems (label : Option String) : (labelItems label).filter Item.asks = [] := by
  cases label <;> rfl

theorem filter_boundItems (keyword : String) (n : Option (BoundedInt .i64)) :
    (Select.boundItems keyword n).filter Item.asks = [] := by
  cases n <;> rfl

theorem asks_tableItem (table : Option String) : (tableItem table).asks = false := by
  cases table <;> rfl

theorem Subject.filter_items (clause : Clause) (s : Subject) :
    (s.items clause).filter Item.asks = (s.mentions clause).map Mention.item := by
  cases s with
  | aggregate a => cases clause <;> rfl
  | _ => rfl

theorem Operand.filter_items (clause : Clause) (o : Operand) :
    (o.items clause).filter Item.asks = (o.mentions clause).map Mention.item := by
  cases o with
  | subject s => exact s.filter_items clause
  | value v => rfl

/-- **What a condition asks is what it mentions**, in the clause that it stands in. -/
theorem Predicate.filter_items (clause : Clause) (p : Predicate) :
    (p.items clause).filter Item.asks = (p.mentions clause).map Mention.item := by
  -- Induction on the condition: the text around its parts asks nothing.
  induction p with
  | compare l op r =>
    simp [items, mentions, l.filter_items, r.filter_items]
  | compareTruth l op r ih => simp [items, mentions, l.filter_items, ih]
  | both l r ihl ihr | either l r ihl ihr => simp [items, mentions, ihl, ihr]
  | negation p ih => simp [items, mentions, ih]
  | fragment r => rfl

theorem mentions_foldl_both (clause : Clause) (p : Predicate) (ps : List Predicate) :
    (ps.foldl Predicate.both p).mentions clause =
      p.mentions clause ++ ps.flatMap (Predicate.mentions clause) := by
  induction ps generalizing p with
  | nil => simp
  | cons q ps ih => simp [ih, Predicate.mentions]

theorem filter_conditionItems (keyword : String) (clause : Clause) (ps : List Predicate) :
    (conditionItems keyword clause ps).filter Item.asks =
      (ps.flatMap (Predicate.mentions clause)).map Mention.item := by
  cases ps with
  | nil => rfl
  | cons p ps =>
    have h := (ps.foldl Predicate.both p).filter_items clause
    rwa [mentions_foldl_both] at h

theorem Selectable.filter_items (s : Selectable) :
    s.items.filter Item.asks = s.mentions.map Mention.item := by
  cases s with
  | column c => exact congrArg (Item.column c.name :: ·) (filter_labelItems c.label)
  | aggregate a => exact congrArg (Item.column a.column :: ·) (filter_labelItems a.label)
  | fragment r => rfl

theorem filter_projectionItems (ss : List Selectable) :
    (projectionItems ss).filter Item.asks = (ss.flatMap Selectable.mentions).map Mention.item := by
  cases ss with
  | nil => rfl
  | cons s ss =>
    rw [projectionItems, filter_listed, List.flatMap_map, List.map_flatMap]
    · simp only [Selectable.filter_items]
    · nofun

theorem Update.filter_assignmentItems (a : Assignable) :
    (assignmentItems a).filter Item.asks = (assignmentMentions a).map Mention.item := by
  cases a <;> rfl

theorem Select.filter_items (s : Select) :
    s.items.filter Item.asks = (Statement.select s).mentions.map Mention.item := by
  have hgroup : (clauseItems " GROUP BY " (s.groupBy.map fun c => [.column c.name])).filter
      Item.asks = s.groupBy.map fun c => .column c.name := by
    rw [filter_clauseItems, List.flatMap_map, List.map_eq_flatMap]
    rfl
  have horder : (clauseItems " ORDER BY " (s.orderBy.map orderingItems)).filter Item.asks =
      s.orderBy.map fun o => .column o.column := by
    rw [filter_clauseItems, List.flatMap_map, List.map_eq_flatMap]
    rfl
  simp [items, Statement.mentions, whereItems, havingItems, asks_tableItem, Function.comp_def,
    filter_projectionItems, filter_conditionItems, filter_boundItems, hgroup, horder, Mention.item]

theorem Update.filter_items (u : Update) :
    u.items.filter Item.asks = (Statement.update u).mentions.map Mention.item := by
  simp [items, Statement.mentions, whereItems, asks_tableItem, filter_listed,
    filter_conditionItems, List.flatMap_map, List.map_flatMap, filter_assignmentItems]

theorem Delete.filter_items (s : Delete) :
    s.items.filter Item.asks = (Statement.delete s).mentions.map Mention.item := by
  simp [items, Statement.mentions, whereItems, asks_tableItem, filter_conditionItems]

namespace Statement

variable {m : Model} {read : Instance → String → Except Error Value} {stmt : Statement}

/-- **What a statement on rows asks is what it mentions**, in the order of its text. -/
theorem filter_template (h : stmt.OnRows) (d : Dialect) :
    (stmt.template d m read).filter Item.asks = stmt.mentions.map Mention.item := by
  cases stmt with
  | select s => exact s.filter_items
  | update u => exact u.filter_items
  | delete s => exact s.filter_items
  | insert | handwritten => exact h.elim

/-- **A statement on rows can be written** if everything that it mentions is allowed. -/
theorem exists_resolveAll_template (h : stmt.OnRows) (d : Dialect) :
    (∃ ps, resolveAll m (stmt.template d m read) = .ok ps) ↔
      ∀ x ∈ stmt.mentions, x.Allowed m := by
  have hmap := map_resolveAll_filter m (stmt.template d m read)
  rw [filter_template h] at hmap
  rw [← exists_resolveAll_mentions]
  constructor <;> rintro ⟨ps, hps⟩
  · obtain ⟨qs, hqs, -⟩ := map_eq_ok.mp (hmap.trans (map_eq_ok.mpr ⟨ps, hps, rfl⟩))
    exact ⟨qs, hqs⟩
  · obtain ⟨qs, hqs, -⟩ := map_eq_ok.mp (hmap.symm.trans (map_eq_ok.mpr ⟨ps, hps, rfl⟩))
    exact ⟨qs, hqs⟩

/-- **The first mention of a statement on rows that is not allowed** decides the error. -/
theorem resolveAll_template_eq_error (h : stmt.OnRows) (d : Dialect) {err : Error} :
    resolveAll m (stmt.template d m read) = .error err ↔
      ∃ before x after, stmt.mentions = before ++ x :: after ∧ (∀ y ∈ before, y.Allowed m) ∧
        ¬ x.Allowed m ∧ err = x.error := by
  have hmap := map_resolveAll_filter m (stmt.template d m read)
  rw [filter_template h] at hmap
  rw [← resolveAll_mentions_eq_error, ← map_eq_error (f := fun _ => ()), ← hmap, map_eq_error]

end Statement

end EntityMapper.Sql

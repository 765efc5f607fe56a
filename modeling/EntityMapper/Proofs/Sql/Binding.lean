import EntityMapper.Proofs.Result
import EntityMapper.Sql.Statement

/-!
# What statements bind

The arguments of a statement come from its parts: from the values and the fragments in its clauses,
and from the fields of the instances that it inserts. The sources of a statement are these parts in
the order of its text. A template binds its sources: whatever model resolves it, its pieces carry
the values of the sources, and no other fragments than theirs.

## Main definitions

* `Source`, `Source.values read`: where arguments come from, and the values found there
* `Predicate.sources`, …, `Statement.clauseSources`, `Statement.rowSources`: the sources of
  expressions and of statements
* `Statement.sources`, `Statement.fragments`: all sources, and the fragments among them
* `Binds m read is ss`: the template binds the sources

## Main results

* `Statement.binds_template`: the template of a statement binds the sources of the statement
-/

namespace EntityMapper.Sql

/-! ## Sources -/

/-- **Where arguments of a statement come from**: a value in a clause, a fragment, or a field of an
instance that is inserted. -/
inductive Source where
  | value (v : Value)
  | fragment (r : Fragment)
  | field (i : Instance) (name : String)

/-- **The values of a source**; reading a field may fail. -/
def Source.values (read : Instance → String → Except Error Value) :
    Source → List (Except Error Value)
  | value v => [.ok v]
  | fragment r => r.args.map .ok
  | field i name => [read i name]

/-- The fragment that a source is. -/
def Source.fragment? : Source → Option Fragment
  | fragment r => some r
  | _ => none

/-- The sources of the subject of a comparison. -/
def Subject.sources : Subject → List Source
  | .column _ => []
  | .aggregate _ => []
  | .fragment r => [.fragment r]

/-- The sources of the other side of a comparison. -/
def Operand.sources : Operand → List Source
  | .subject s => s.sources
  | .value v => [.value v]

/-- **The sources of a condition**, from the left. -/
def Predicate.sources : Predicate → List Source
  | compare l _ r => l.sources ++ r.sources
  | compareTruth l _ r => l.sources ++ r.sources
  | both l r => l.sources ++ r.sources
  | either l r => l.sources ++ r.sources
  | negation p => p.sources
  | fragment r => [.fragment r]

/-- The sources of a projected item. -/
def Selectable.sources : Selectable → List Source
  | .column _ => []
  | .aggregate _ => []
  | .fragment r => [.fragment r]

/-- The sources of an assignment. -/
def Assignable.sources : Assignable → List Source
  | .assignment _ v => [.value v]
  | .column _ => []
  | .fragment r => [.fragment r]

/-- The source that a bound on the rows is. -/
def boundSources (n : Option (BoundedInt .i64)) : List Source :=
  n.toList.map fun n => .value (.int .i64 n)

namespace Statement

/-- The sources of the clauses of a statement, in the order of its text. The rows of an insertion
are no clause of it. -/
def clauseSources : Statement → List Source
  | select s =>
    s.columns.flatMap Selectable.sources ++ s.wheres.flatMap Predicate.sources ++
      s.having.flatMap Predicate.sources ++ boundSources s.limit ++ boundSources s.offset
  | insert s =>
    match s.upsert with
    | some u => u.assignments.flatMap Assignable.sources
    | none => []
  | update u => u.assignments.flatMap Assignable.sources ++ u.wheres.flatMap Predicate.sources
  | delete s => s.wheres.flatMap Predicate.sources
  | handwritten q => q.args.map .value

/-- The sources of the rows of an insertion: for every instance the fields of the statement. -/
def rowSources (m : Model) : Statement → List Source
  | insert s => s.rows.flatMap fun i => (s.targets m).map fun t => .field i t.1
  | _ => []

/-- **The sources of a statement**, in the order of its text. -/
def sources (m : Model) (stmt : Statement) : List Source := stmt.rowSources m ++ stmt.clauseSources

/-- The fragments that are used in a statement. -/
def fragments (stmt : Statement) : List Fragment := stmt.clauseSources.filterMap Source.fragment?

end Statement

/-! ## Templates that bind sources -/

/-- **The template binds the sources** in the model: if it resolves, its pieces carry the values of
the sources, in order, and no other fragments than theirs. -/
def Binds (m : Model) (read : Instance → String → Except Error Value) (is : List Item)
    (ss : List Source) : Prop :=
  ∀ ps, resolveAll m is = .ok ps →
    (ps.flatMap Piece.args).map .ok = ss.flatMap (Source.values read) ∧
      ∀ r, .fragment r ∈ ps → .fragment r ∈ ss

/-- A template resolves if its first item and the rest of it do. -/
theorem resolveAll_cons_eq_ok {m : Model} {i : Item} {is : List Item} {ps : List Piece} :
    resolveAll m (i :: is) = .ok ps ↔
      ∃ p qs, i.resolve m = .ok p ∧ resolveAll m is = .ok qs ∧ ps = p :: qs := by
  simp only [resolveAll, bind_eq_ok, Except.ok.injEq]
  grind

theorem resolveAll_append_eq_ok {m : Model} {is js : List Item} {ps : List Piece} :
    resolveAll m (is ++ js) = .ok ps ↔
      ∃ qs rs, resolveAll m is = .ok qs ∧ resolveAll m js = .ok rs ∧ ps = qs ++ rs := by
  induction is generalizing ps with
  | nil => simp [resolveAll]
  | cons i is ih =>
    rw [List.cons_append, resolveAll_cons_eq_ok]
    constructor
    · rintro ⟨p, _, hp, h, rfl⟩
      obtain ⟨qs, rs, hqs, hrs, rfl⟩ := ih.mp h
      exact ⟨p :: qs, rs, resolveAll_cons_eq_ok.mpr ⟨p, qs, hp, hqs, rfl⟩, hrs, rfl⟩
    · rintro ⟨_, rs, h, hrs, rfl⟩
      obtain ⟨p, qs, hp, hqs, rfl⟩ := resolveAll_cons_eq_ok.mp h
      exact ⟨p, qs ++ rs, hp, ih.mpr ⟨qs, rs, hqs, hrs, rfl⟩, rfl⟩

namespace Binds

variable {m : Model} {read : Instance → String → Except Error Value}
  {is js : List Item} {ss ts : List Source}

theorem nil : Binds m read [] [] := by
  rintro ps h
  cases h
  simp

/-- Templates one after another bind their sources one after another. -/
theorem append (h : Binds m read is ss) (h' : Binds m read js ts) :
    Binds m read (is ++ js) (ss ++ ts) := by
  intro ps hps
  obtain ⟨qs, rs, hqs, hrs, rfl⟩ := resolveAll_append_eq_ok.mp hps
  obtain ⟨hv, hf⟩ := h qs hqs
  obtain ⟨hv', hf'⟩ := h' rs hrs
  refine ⟨by simp [hv, hv'], fun r hr => ?_⟩
  rcases List.mem_append.mp hr with hr | hr
  · exact List.mem_append_left _ (hf r hr)
  · exact List.mem_append_right _ (hf' r hr)

/-- An item that becomes a piece without arguments binds nothing. -/
theorem of_silent {i : Item}
    (h : ∀ p, i.resolve m = .ok p → p.args = [] ∧ ∀ r, p ≠ .fragment r) :
    Binds m read [i] [] := by
  intro ps hps
  obtain ⟨p, qs, hp, hqs, rfl⟩ := resolveAll_cons_eq_ok.mp hps
  cases hqs
  obtain ⟨ha, hr⟩ := h p hp
  simp [ha, fun r => (hr r).symm]

theorem text (s : String) : Binds m read [.text s] [] :=
  of_silent fun p hp => by cases hp; simp [Piece.args]

theorem table : Binds m read [.table] [] :=
  of_silent fun p hp => by cases hp; simp [Piece.args]

theorem name (s : String) : Binds m read [.name s] [] :=
  of_silent fun p hp => by cases hp; simp [Piece.args]

theorem column (c : String) : Binds m read [.column c] [] :=
  of_silent fun p hp => by
    cases hc : m.field? c with
    | none => simp [Item.resolve, hc] at hp
    | some f =>
      simp only [Item.resolve, hc, Except.ok.injEq] at hp
      simp [← hp, Piece.args]

theorem arg (v : Value) : Binds m read [.arg v] [.value v] := by
  rintro ps h
  cases h
  simp [Source.values, Piece.args]

theorem fragment (r : Fragment) : Binds m read [.fragment r] [.fragment r] := by
  rintro ps h
  cases h
  simp [Source.values, Piece.args]

/-- A refusal resolves nowhere. -/
theorem refusal (e : Error) : Binds m read [.refusal e] ss := by
  rintro ps h
  cases h

/-- The value of a field comes from reading the field. -/
theorem valueItem (i : Instance) (f : String) :
    Binds m read [Insert.valueItem (read i f)] [.field i f] := by
  rintro ps h
  cases hr : read i f with
  | error e => simp [Insert.valueItem, hr, resolveAll, Item.resolve, bind, Except.bind] at h
  | ok v =>
    simp only [Insert.valueItem, hr] at h
    cases h
    simp [Source.values, Piece.args, hr]

/-- Text in front binds nothing. -/
theorem cons_text (s : String) (h : Binds m read is ss) : Binds m read (.text s :: is) ss :=
  (text s).append h

/-- Templates with commas between them bind their sources in order. -/
theorem listed {α : Type} {f : α → List Item} {g : α → List Source} {xs : List α}
    (h : ∀ x ∈ xs, Binds m read (f x) (g x)) :
    Binds m read (listed (xs.map f)) (xs.flatMap g) := by
  induction xs with
  | nil => exact nil
  | cons x xs ih =>
    obtain ⟨hx, hxs⟩ := List.forall_mem_cons.mp h
    cases xs with
    | nil => simpa [Sql.listed] using hx
    | cons y ys =>
      -- The comma binds nothing, and the rest follows it.
      have := hx.append (cons_text "," (ih hxs))
      simpa [Sql.listed, List.intercalate_cons_cons] using this

/-- Templates that bind nothing bind nothing together. -/
theorem listed_silent {α : Type} {f : α → List Item} {xs : List α}
    (h : ∀ x ∈ xs, Binds m read (f x) []) : Binds m read (Sql.listed (xs.map f)) [] := by
  have hl := listed (g := fun _ => []) h
  rwa [List.flatMap_eq_nil_iff.mpr fun _ _ => rfl] at hl

end Binds

/-! ## The templates of expressions and statements -/

section Templates

variable {m : Model} {read : Instance → String → Except Error Value}

theorem Aggregate.binds_items (a : Aggregate) : Binds m read a.items [] :=
  ((Binds.text _).append (Binds.column a.column)).append (Binds.text ")")

theorem Subject.binds_items (clause : Clause) (s : Subject) :
    Binds m read (s.items clause) s.sources := by
  cases s with
  | column c => exact Binds.column c.name
  | fragment r => exact Binds.fragment r
  | aggregate a =>
    cases clause with
    | having => exact a.binds_items
    | filter => exact Binds.refusal _

theorem Operand.binds_items (clause : Clause) (o : Operand) :
    Binds m read (o.items clause) o.sources := by
  cases o with
  | subject s => exact s.binds_items clause
  | value v => exact Binds.arg v

/-- **A condition binds its sources**, from the left. -/
theorem Predicate.binds_items (clause : Clause) (p : Predicate) :
    Binds m read (p.items clause) p.sources := by
  -- Induction on the condition: the text around its parts binds nothing.
  induction p with
  | compare l op r =>
    simpa [items, sources] using
      (l.binds_items clause).append (Binds.cons_text _ (r.binds_items clause))
  | compareTruth l op r ih =>
    simpa [items, sources] using (l.binds_items clause).append
      (Binds.cons_text _ (Binds.cons_text "(" (ih.append (Binds.text ")"))))
  | both l r ihl ihr | either l r ihl ihr =>
    simpa [items, sources] using Binds.cons_text "(" (ihl.append
      (Binds.cons_text ")" (Binds.cons_text _ (Binds.cons_text "(" (ihr.append (Binds.text ")"))))))
  | negation p ih =>
    simpa [items, sources] using
      Binds.cons_text " NOT " (Binds.cons_text "(" (ih.append (Binds.text ")")))
  | fragment r => exact Binds.fragment r

/-- Joining conditions keeps the order of their sources. -/
theorem sources_foldl_both (p : Predicate) (ps : List Predicate) :
    (ps.foldl Predicate.both p).sources = p.sources ++ ps.flatMap Predicate.sources := by
  induction ps generalizing p with
  | nil => simp
  | cons q ps ih => simp [ih, Predicate.sources]

theorem binds_conditionItems (keyword : String) (clause : Clause) (ps : List Predicate) :
    Binds m read (conditionItems keyword clause ps) (ps.flatMap Predicate.sources) := by
  cases ps with
  | nil => exact Binds.nil
  | cons p ps =>
    have h : Binds m read _ _ :=
      Binds.cons_text keyword ((ps.foldl Predicate.both p).binds_items clause)
    rwa [sources_foldl_both] at h

theorem binds_labelItems (label : Option String) : Binds m read (labelItems label) [] := by
  cases label with
  | none => exact Binds.nil
  | some s => exact Binds.cons_text " AS " (Binds.name s)

theorem Selectable.binds_items (s : Selectable) : Binds m read s.items s.sources := by
  cases s with
  | column c => exact (Binds.column c.name).append (binds_labelItems c.label)
  | aggregate a => exact a.binds_items.append (binds_labelItems a.label)
  | fragment r => exact Binds.fragment r

theorem binds_projectionItems (ss : List Selectable) :
    Binds m read (projectionItems ss) (ss.flatMap Selectable.sources) := by
  cases ss with
  | nil => exact Binds.text "*"
  | cons s ss => exact Binds.listed fun s _ => s.binds_items

theorem binds_tableItem (table : Option String) : Binds m read [tableItem table] [] := by
  cases table with
  | none => exact Binds.table
  | some s => exact Binds.text s

/-- A clause of parts that bind nothing. -/
theorem binds_clauseItems {α : Type} (keyword : String) {f : α → List Item} {xs : List α}
    (h : ∀ x ∈ xs, Binds m read (f x) []) :
    Binds m read (clauseItems keyword (xs.map f)) [] := by
  cases xs with
  | nil => exact Binds.nil
  | cons x xs => exact Binds.cons_text keyword (Binds.listed_silent h)

theorem binds_boundItems (keyword : String) (n : Option (BoundedInt .i64)) :
    Binds m read (Select.boundItems keyword n) (boundSources n) := by
  cases n with
  | none => exact Binds.nil
  | some n => exact Binds.cons_text keyword (Binds.arg _)

theorem Update.binds_assignmentItems (a : Assignable) :
    Binds m read (Update.assignmentItems a) a.sources := by
  cases a with
  | assignment c v => exact (Binds.column c).append (Binds.cons_text " = " (Binds.arg v))
  | column c => exact Binds.refusal _
  | fragment r => exact Binds.fragment r

/-- An assignment of a conflict clause binds its value, if the incoming value binds nothing. -/
theorem Upsert.binds_assignmentItems (d : Dialect) {incoming : String → List Item}
    (h : ∀ c, Binds m read (incoming c) []) (a : Assignable) :
    Binds m read (Upsert.assignmentItems d incoming a) a.sources := by
  cases a with
  | assignment c v => exact (Binds.column c).append (Binds.cons_text "=" (Binds.arg v))
  | column c => exact (Binds.column c.name).append (Binds.cons_text "=" (h c.name))
  | fragment r => exact Binds.refusal _

theorem Upsert.binds_items (u : Upsert) (d : Dialect) :
    Binds m read (u.items d) (u.assignments.flatMap Assignable.sources) := by
  have hvalues : ∀ c, Binds m read [.text "VALUES(", .column c, .text ")"] [] := fun c =>
    Binds.cons_text "VALUES(" ((Binds.column c).append (Binds.text ")"))
  have hexcluded : ∀ c, Binds m read [.text "EXCLUDED.", .column c] [] := fun c =>
    Binds.cons_text "EXCLUDED." (Binds.column c)
  have hconflict : Binds m read ([.text " ON CONFLICT ("] ++
      listed (u.conflictFields.map fun c => [.column c]) ++ [.text ") DO UPDATE SET "]) [] :=
    ((Binds.text _).append (Binds.listed_silent fun c _ => Binds.column c)).append (Binds.text _)
  -- The dialects differ in how the incoming value is named, which binds nothing.
  unfold Upsert.items
  split
  · exact Binds.refusal _
  · cases d with
    | mysql =>
      exact Binds.cons_text _ (Binds.listed fun a _ => binds_assignmentItems .mysql hvalues a)
    | sqlite | postgres =>
      dsimp only
      split
      · exact Binds.refusal _
      · exact hconflict.append
          (Binds.listed fun a _ => binds_assignmentItems _ hexcluded a)

/-- A row of an insertion binds the fields of its instance. -/
theorem Insert.binds_rowItems (targets : List (String × Item)) (i : Instance) :
    Binds m read
      ([.text "("] ++ listed (targets.map fun t => [valueItem (read i t.1)]) ++ [.text ")"])
      (targets.map fun t => .field i t.1) := by
  have hl : Binds m read (listed (targets.map fun t => [valueItem (read i t.1)]))
      (targets.flatMap fun t => [.field i t.1]) :=
    Binds.listed fun t _ => Binds.valueItem i t.1
  rw [← List.map_eq_flatMap] at hl
  simpa using ((Binds.text "(").append hl).append (Binds.text ")")

theorem Select.binds_items (s : Select) :
    Binds m read s.items (Statement.select s).clauseSources := by
  have hgroup : Binds m read (clauseItems " GROUP BY " (s.groupBy.map fun c => [.column c.name]))
      [] := binds_clauseItems _ fun c _ => Binds.column c.name
  have horder : Binds m read (clauseItems " ORDER BY " (s.orderBy.map orderingItems)) [] :=
    binds_clauseItems _ fun o _ => (Binds.column o.column).append (Binds.text _)
  -- Put together from the end of the text.
  have hrest := hgroup.append ((binds_conditionItems " HAVING " .having s.having).append
    (horder.append ((binds_boundItems " LIMIT " s.limit).append
      ((binds_boundItems " OFFSET " s.offset).append (Binds.text ";")))))
  have hfrom := Binds.cons_text " FROM " ((binds_tableItem s.table).append
    ((binds_conditionItems " WHERE " .filter s.wheres).append hrest))
  simpa [items, Statement.clauseSources, whereItems, havingItems] using
    Binds.cons_text "SELECT " ((binds_projectionItems s.columns).append hfrom)

theorem Update.binds_items (u : Update) :
    Binds m read u.items (Statement.update u).clauseSources := by
  have hset : Binds m read (listed (u.assignments.map assignmentItems))
      (u.assignments.flatMap Assignable.sources) :=
    Binds.listed fun a _ => binds_assignmentItems a
  have hwhere : Binds m read _ _ :=
    (binds_conditionItems " WHERE " .filter u.wheres).append (Binds.text ";")
  simpa [items, Statement.clauseSources, whereItems] using
    Binds.cons_text "UPDATE " ((binds_tableItem u.table).append
      (Binds.cons_text " SET " (hset.append hwhere)))

theorem Delete.binds_items (s : Delete) :
    Binds m read s.items (Statement.delete s).clauseSources := by
  have hwhere : Binds m read _ _ :=
    (binds_conditionItems " WHERE " .filter s.wheres).append (Binds.text ";")
  simpa [items, Statement.clauseSources, whereItems] using
    Binds.cons_text "DELETE FROM " ((binds_tableItem s.table).append hwhere)

theorem Insert.binds_targets (s : Insert) :
    Binds m read (listed ((s.targets m).map fun t => [t.2])) [] := by
  refine Binds.listed_silent fun t ht => ?_
  unfold Insert.targets at ht
  split at ht
  · obtain ⟨f, -, rfl⟩ := List.mem_map.mp ht
    exact Binds.name f.columnName
  · obtain ⟨c, -, rfl⟩ := List.mem_map.mp ht
    exact Binds.column c

theorem Insert.binds_items (d : Dialect) (s : Insert) :
    Binds m read (s.items d m read) ((Statement.insert s).sources m) := by
  have hhead : Binds m read _ _ := Binds.cons_text "INSERT INTO " (Binds.table.append
    (Binds.cons_text " (" (s.binds_targets.append (Binds.text ") VALUES "))))
  have hrows : Binds m read (listed (s.rows.map fun i => [.text "("] ++
      listed ((s.targets m).map fun t => [valueItem (read i t.1)]) ++ [.text ")"]))
      (s.rows.flatMap fun i => (s.targets m).map fun t => .field i t.1) :=
    Binds.listed fun i _ => binds_rowItems (s.targets m) i
  -- The rows come first, and the conflict clause, if there is one, after them.
  cases hu : s.upsert with
  | none =>
    simpa [items, Statement.sources, Statement.rowSources, Statement.clauseSources, hu] using
      hhead.append (hrows.append (Binds.text ";"))
  | some u =>
    simpa [items, Statement.sources, Statement.rowSources, Statement.clauseSources, hu] using
      hhead.append (hrows.append ((u.binds_items d).append (Binds.text ";")))

end Templates

end EntityMapper.Sql

import EntityMapper.Proofs.Model.Writing
import EntityMapper.Proofs.Sql.Binding

/-!
# Names in quotes

A name in quotes is read up to a quote that is not doubled; a doubled quote stands for one in the
name. Statements write their names as they are. So each name is read back, and reading ends where
the rest of the statement begins, just when there is no quote in the name.

## Main definitions

* `readName ch cs`: the name in quotes that a text begins with, and the rest of the text
* `doubled ch cs`: characters with every quote doubled
* `Statement.names m stmt`: the names that a statement may write
* `Spaced names is`: a template in which a separator follows every name

## Main results

* `readInside_eq_some`: what is read from a text
* `Statement.spaced_template`: in every statement, a separator follows every name
* `names_readable`: which names of a statement are read back
-/

namespace EntityMapper.Sql

/-! ## Reading names -/

/-- **The rest of a name in quotes**, up to the quote that ends it, and the rest of the text. A
doubled quote is one in the name. -/
def readInside (ch : Char) : List Char → Option (List Char × List Char)
  | [] => none
  | [c] => if c = ch then some ([], []) else none
  | c :: c' :: cs =>
    if c = ch then
      if c' = ch then (readInside ch cs).map fun p => (ch :: p.1, p.2) else some ([], c' :: cs)
    else (readInside ch (c' :: cs)).map fun p => (c :: p.1, p.2)

/-- **The name in quotes** that a text begins with, and the rest of the text. -/
def readName (ch : Char) : List Char → Option (String × List Char)
  | [] => none
  | c :: cs => if c = ch then (readInside ch cs).map fun p => (String.ofList p.1, p.2) else none

/-- Characters with every quote doubled. -/
def doubled (ch : Char) (cs : List Char) : List Char :=
  cs.flatMap fun c => if c = ch then [c, c] else [c]

variable {ch : Char} {cs rest : List Char}

theorem doubled_cons (ch c : Char) (cs : List Char) :
    doubled ch (c :: cs) = (if c = ch then [c, c] else [c]) ++ doubled ch cs := rfl

theorem length_le_doubled (ch : Char) (cs : List Char) : cs.length ≤ (doubled ch cs).length := by
  induction cs with
  | nil => exact Nat.le_refl 0
  | cons c cs ih =>
    rw [doubled_cons]
    split <;> simp only [List.length_append, List.length_cons, List.length_nil] <;> omega

/-- Doubling the quotes changes nothing just where there are none. -/
theorem doubled_eq_self : doubled ch cs = cs ↔ ch ∉ cs := by
  induction cs with
  | nil => simp [doubled]
  | cons c cs ih =>
    rw [doubled_cons]
    by_cases hc : c = ch
    · subst hc
      simp only [↓reduceIte, List.mem_cons, true_or, not_true_eq_false, iff_false]
      intro h
      have hlength := congrArg List.length h
      have := length_le_doubled c cs
      simp only [List.length_append, List.length_cons, List.length_nil] at hlength
      omega
    · simp [hc, ih, Ne.symm hc]

/-- A name with its quotes doubled is read back. -/
theorem readInside_doubled (hrest : rest.head? ≠ some ch) (cs : List Char) :
    readInside ch (doubled ch cs ++ ch :: rest) = some (cs, rest) := by
  induction cs with
  | nil =>
    cases rest with
    | nil => simp [doubled, readInside]
    | cons c rest =>
      have hc : c ≠ ch := fun h => hrest (by rw [h]; rfl)
      simp [doubled, readInside, hc]
  | cons c cs ih =>
    rw [doubled_cons]
    by_cases hc : c = ch
    · subst hc
      simp [readInside, ih]
    · rw [if_neg hc]
      -- Something follows the character in any case.
      obtain ⟨c', cs', hcs'⟩ : ∃ c' cs', doubled ch cs ++ ch :: rest = c' :: cs' :=
        List.exists_cons_of_ne_nil (by simp)
      rw [hcs'] at ih
      simp [hcs', readInside, hc, ih]

/-- What is read has stood in the text with its quotes doubled. -/
theorem eq_of_readInside {s : List Char} (h : readInside ch s = some (cs, rest)) :
    s = doubled ch cs ++ ch :: rest ∧ rest.head? ≠ some ch := by
  induction s using readInside.induct ch generalizing cs with
  | case1 => cases h
  | case2 => simp_all [readInside, doubled]
  | case3 c hc => simp [readInside, hc] at h
  | case4 s ih =>
    simp only [readInside, ↓reduceIte, Option.map_eq_some_iff, Prod.mk.injEq] at h
    obtain ⟨⟨cs', _⟩, hread, rfl, rfl⟩ := h
    obtain ⟨rfl, hrest⟩ := ih hread
    exact ⟨by simp [doubled_cons], hrest⟩
  | case5 c s hc =>
    simp only [readInside, ↓reduceIte, hc] at h
    cases h
    exact ⟨rfl, by simpa using hc⟩
  | case6 c c' s hc ih =>
    simp only [readInside, hc, ↓reduceIte, Option.map_eq_some_iff, Prod.mk.injEq] at h
    obtain ⟨⟨cs', _⟩, hread, rfl, rfl⟩ := h
    obtain ⟨heq, hrest⟩ := ih hread
    exact ⟨by simp [doubled_cons, hc, heq], hrest⟩

/-- **What is read from a text** is what has been written with its quotes doubled. -/
theorem readInside_eq_some {s : List Char} : readInside ch s = some (cs, rest) ↔
    s = doubled ch cs ++ ch :: rest ∧ rest.head? ≠ some ch := by
  refine ⟨eq_of_readInside, ?_⟩
  rintro ⟨rfl, hrest⟩
  exact readInside_doubled hrest cs

/-- **A name that is written as it is** is read back just when there is no quote in it. -/
theorem readName_quote (d : Dialect) (name : String) (hrest : rest.head? ≠ some d.quoteChar) :
    readName d.quoteChar ((d.quote name).toList ++ rest) = some (name, rest) ↔
      d.quoteChar ∉ name.toList := by
  have hname (p : List Char × List Char) :
      (String.ofList p.1, p.2) = (name, rest) ↔ p = (name.toList, rest) := by
    rw [Prod.mk.injEq, ← String.toList_inj, String.toList_ofList, Prod.ext_iff]
  simp only [Dialect.quote, String.toList_ofList, List.cons_append, List.append_assoc,
    List.nil_append, readName, ↓reduceIte, Option.map_eq_some_iff, hname, exists_eq_right,
    readInside_eq_some]
  rw [and_iff_left hrest, List.append_cancel_right_eq, eq_comm, doubled_eq_self]

/-! ## The names of a statement -/

/-- The label of a projected item. -/
def Selectable.label? : Selectable → Option String
  | .column c => c.label
  | .aggregate a => a.label
  | .fragment _ => none

/-- The labels in a statement. -/
def Statement.labels : Statement → List String
  | select s => s.columns.filterMap Selectable.label?
  | _ => []

/-- **The names that a statement may write**: the table and the columns of the model, and labels. -/
def Statement.names (m : Model) (stmt : Statement) : List String :=
  m.table :: (m.fields.map Field.columnName ++ stmt.labels)

/-! ## What follows names -/

/-- What the text after a name begins with. -/
def separators : List Char := [' ', ',', ';', ')', '=']

theorem quoteChar_notMem_separators (d : Dialect) : d.quoteChar ∉ separators := by
  cases d <;> decide

/-- The text begins with a separator. -/
def Separates (s : String) : Prop := ∃ ch ∈ separators, s.toList.head? = some ch

instance (s : String) : Decidable (Separates s) :=
  List.decidableBEx (fun ch => s.toList.head? = some ch) separators

/-- **The item ends a name** in front of it. A refusal does so because nothing is written at all. -/
def Item.Ends : Item → Prop
  | text s => Separates s
  | refusal _ => True
  | _ => False

/-- The template begins with an item that ends a name. -/
def Led (is : List Item) : Prop := ∃ i rest, is = i :: rest ∧ i.Ends

/-- The item becomes a name. -/
def Item.IsName : Item → Prop
  | table | column _ | name _ => True
  | _ => False

/-- If the item is a name by itself, it is one of the given ones. -/
def Item.Among (names : List String) : Item → Prop
  | name s => s ∈ names
  | _ => True

/-- **A separator follows every name**, and names by themselves are among the given ones. -/
def Spaced (names : List String) : List Item → Prop
  | [] => True
  | i :: is => i.Among names ∧ (i.IsName → Led is) ∧ Spaced names is

/-- A separator follows every name of the template in every text that goes on with a separator. -/
def SpacedBefore (names : List String) (is : List Item) : Prop :=
  ∀ js, Led js → Spaced names js → Spaced names (is ++ js)

/-- The same of a template that is empty, or begins with a separator itself. -/
def SpacedBetween (names : List String) (is : List Item) : Prop :=
  ∀ js, Led js → Spaced names js → Led (is ++ js) ∧ Spaced names (is ++ js)

variable {names : List String} {is js : List Item}

namespace SpacedBefore

theorem single (i : Item) (h : i.Among names) : SpacedBefore names [i] :=
  fun _ hled hjs => ⟨h, fun _ => hled, hjs⟩

theorem append (h : SpacedBefore names is) (h' : SpacedBetween names js) :
    SpacedBefore names (is ++ js) := by
  intro ks hled hks
  obtain ⟨hled', hks'⟩ := h' ks hled hks
  rw [List.append_assoc]
  exact h _ hled' hks'

/-- Text may stand in front of anything. -/
theorem cons_text (s : String) (h : SpacedBefore names is) : SpacedBefore names (.text s :: is) :=
  fun js hled hjs => ⟨trivial, nofun, h js hled hjs⟩

/-- A separator in front is one that may follow a name. -/
theorem after {s : String} (hs : Separates s) (h : SpacedBefore names is) :
    SpacedBetween names (.text s :: is) :=
  fun js hled hjs => ⟨⟨.text s, is ++ js, rfl, hs⟩, h.cons_text s js hled hjs⟩

/-- A statement ends with a separator. -/
theorem finished (h : SpacedBefore names is) : Spaced names (is ++ [.text ";"]) :=
  h [.text ";"] ⟨.text ";", [], rfl, ';', by decide, rfl⟩ ⟨trivial, nofun, trivial⟩

end SpacedBefore

namespace SpacedBetween

theorem nil : SpacedBetween names [] := fun _ hled hjs => ⟨hled, hjs⟩

theorem before (h : SpacedBetween names is) : SpacedBefore names is :=
  fun js hled hjs => (h js hled hjs).2

theorem append (h : SpacedBetween names is) (h' : SpacedBetween names js) :
    SpacedBetween names (is ++ js) := by
  intro ks hled hks
  obtain ⟨hled', hks'⟩ := h' ks hled hks
  rw [List.append_assoc]
  exact h _ hled' hks'

theorem text {s : String} (hs : Separates s) : SpacedBetween names [.text s] :=
  fun js _ hjs => ⟨⟨.text s, js, rfl, hs⟩, trivial, nofun, hjs⟩

theorem refusal (e : Error) : SpacedBetween names [.refusal e] :=
  fun js _ hjs => ⟨⟨.refusal e, js, rfl, trivial⟩, trivial, nofun, hjs⟩

end SpacedBetween

/-- The comma of a list is a separator. -/
theorem spaced_listed {α : Type} {f : α → List Item} {xs : List α}
    (h : ∀ x ∈ xs, SpacedBefore names (f x)) : SpacedBefore names (listed (xs.map f)) := by
  induction xs with
  | nil => exact SpacedBetween.nil.before
  | cons x xs ih =>
    obtain ⟨hx, hxs⟩ := List.forall_mem_cons.mp h
    cases xs with
    | nil => simpa [listed] using hx
    | cons y ys =>
      have := hx.append ((ih hxs).after (s := ",") (by decide))
      simpa [listed, List.intercalate_cons_cons] using this

/-! ## The templates of expressions and statements -/

theorem Aggregate.spaced_items (a : Aggregate) : SpacedBefore names a.items :=
  SpacedBefore.cons_text _
    ((SpacedBefore.single (.column a.column) trivial).append (.text (by decide)))

theorem Subject.spaced_items (clause : Clause) (s : Subject) :
    SpacedBefore names (s.items clause) := by
  cases s with
  | column c => exact .single _ trivial
  | fragment r => exact .single _ trivial
  | aggregate a =>
    cases clause with
    | having => exact a.spaced_items
    | filter => exact .single _ trivial

theorem Operand.spaced_items (clause : Clause) (o : Operand) :
    SpacedBefore names (o.items clause) := by
  cases o with
  | subject s => exact s.spaced_items clause
  | value v => exact .single _ trivial

/-- Nested conditions end at a parenthesis. -/
theorem SpacedBefore.grouped (h : SpacedBefore names is) :
    SpacedBefore names (.text "(" :: (is ++ [.text ")"])) :=
  .cons_text "(" (h.append (.text (by decide)))

theorem separates_sign (op : Comparison) : Separates (" " ++ op.sign ++ " ") := by
  cases op <;> decide

/-- **A separator follows every name of a condition.** -/
theorem Predicate.spaced_items (clause : Clause) (p : Predicate) :
    SpacedBefore names (p.items clause) := by
  -- Induction on the condition: its parts are followed by an operator or a parenthesis.
  induction p with
  | compare l op r =>
    simpa [items] using (l.spaced_items clause).append
      ((r.spaced_items clause).after (separates_sign op))
  | compareTruth l op r ih =>
    simpa [items] using (l.spaced_items clause).append (ih.grouped.after (separates_sign op))
  | both l r ihl ihr | either l r ihl ihr =>
    simpa [items] using ihl.grouped.append (ihr.grouped.after (by decide))
  | negation p ih => simpa [items] using ih.grouped.cons_text " NOT "
  | fragment r => exact .single _ trivial

theorem spaced_conditionItems {keyword : String} (hkeyword : Separates keyword) (clause : Clause)
    (ps : List Predicate) : SpacedBetween names (conditionItems keyword clause ps) := by
  unfold conditionItems
  cases Predicate.all? ps with
  | none => exact .nil
  | some p => exact (p.spaced_items clause).after hkeyword

theorem spaced_clauseItems {α : Type} {keyword : String} (hkeyword : Separates keyword)
    {f : α → List Item} {xs : List α} (h : ∀ x ∈ xs, SpacedBefore names (f x)) :
    SpacedBetween names (clauseItems keyword (xs.map f)) := by
  cases xs with
  | nil => exact .nil
  | cons x xs => exact (spaced_listed h).after hkeyword

theorem spaced_boundItems {keyword : String} (hkeyword : Separates keyword)
    (n : Option (BoundedInt .i64)) : SpacedBetween names (Select.boundItems keyword n) := by
  cases n with
  | none => exact .nil
  | some n => exact (SpacedBefore.single (.arg _) trivial).after hkeyword

theorem spaced_labelItems {label : Option String} (h : ∀ s ∈ label, s ∈ names) :
    SpacedBetween names (labelItems label) := by
  cases label with
  | none => exact .nil
  | some s => exact (SpacedBefore.single (.name s) (h s rfl)).after (s := " AS ") (by decide)

theorem Selectable.spaced_items {s : Selectable} (h : ∀ l ∈ s.label?, l ∈ names) :
    SpacedBefore names s.items := by
  cases s with
  | column c =>
    exact (SpacedBefore.single (.column c.name) trivial).append (spaced_labelItems h)
  | aggregate a => exact a.spaced_items.append (spaced_labelItems h)
  | fragment r => exact .single _ trivial

theorem spaced_projectionItems {ss : List Selectable}
    (h : ∀ s ∈ ss, ∀ l ∈ s.label?, l ∈ names) : SpacedBefore names (projectionItems ss) := by
  cases ss with
  | nil => exact .single _ trivial
  | cons s ss => exact spaced_listed fun s hs => s.spaced_items (h s hs)

/-- The table of a statement, whoever names it. -/
theorem spaced_tableItem (table : Option String) : SpacedBefore names [tableItem table] := by
  cases table <;> exact .single _ trivial

theorem Select.spaced_items {s : Select} (h : ∀ c ∈ s.columns, ∀ l ∈ c.label?, l ∈ names) :
    Spaced names s.items := by
  have horder : ∀ o ∈ s.orderBy, SpacedBefore names (orderingItems o) := by
    intro o _
    refine (SpacedBefore.single (.column o.column) trivial).append (.text ?_)
    cases o.descending <;> decide
  have hgroup : ∀ c ∈ s.groupBy, SpacedBefore names [.column c.name] :=
    fun _ _ => .single _ trivial
  have hwheres : SpacedBetween names (conditionItems " WHERE " .filter s.wheres) :=
    spaced_conditionItems (by decide) .filter _
  have hgroups : SpacedBetween names
      (clauseItems " GROUP BY " (s.groupBy.map fun c => [.column c.name])) :=
    spaced_clauseItems (by decide) hgroup
  have hhaving : SpacedBetween names (conditionItems " HAVING " .having s.having) :=
    spaced_conditionItems (by decide) .having _
  have horders : SpacedBetween names (clauseItems " ORDER BY " (s.orderBy.map orderingItems)) :=
    spaced_clauseItems (by decide) horder
  have hlimit : SpacedBetween names (boundItems " LIMIT " s.limit) :=
    spaced_boundItems (by decide) _
  have hoffset : SpacedBetween names (boundItems " OFFSET " s.offset) :=
    spaced_boundItems (by decide) _
  -- Put together from the end of the text.
  have hrest := hwheres.append
    (hgroups.append (hhaving.append (horders.append (hlimit.append hoffset))))
  have hfrom := ((spaced_tableItem s.table).append hrest).after (s := " FROM ") (by decide)
  have hselect := ((spaced_projectionItems h).append hfrom).cons_text "SELECT "
  simpa [items, whereItems, havingItems] using
    hselect.finished

theorem Update.spaced_items (u : Update) : Spaced names u.items := by
  have hset : ∀ a ∈ u.assignments, SpacedBefore names (assignmentItems a) := by
    intro a _
    cases a with
    | assignment c v =>
      exact (SpacedBefore.single (.column c) trivial).append
        ((SpacedBefore.single (.arg v) trivial).after (s := " = ") (by decide))
    | column c => exact .single _ trivial
    | fragment r => exact .single _ trivial
  have hwheres : SpacedBetween names (conditionItems " WHERE " .filter u.wheres) :=
    spaced_conditionItems (by decide) .filter _
  have hrest := ((spaced_listed hset).append hwheres).after (s := " SET ") (by decide)
  have hupdate := ((spaced_tableItem u.table).append hrest).cons_text "UPDATE "
  simpa [items, whereItems] using
    hupdate.finished

theorem Delete.spaced_items (s : Delete) : Spaced names s.items := by
  have hwheres : SpacedBetween names (conditionItems " WHERE " .filter s.wheres) :=
    spaced_conditionItems (by decide) .filter _
  have hdelete := ((spaced_tableItem s.table).append hwheres).cons_text "DELETE FROM "
  simpa [items, whereItems] using
    hdelete.finished

/-- An assignment of a conflict clause, if the incoming value may be followed by a separator. -/
theorem Upsert.spaced_assignmentItems (d : Dialect) {incoming : String → List Item}
    (h : ∀ c, SpacedBefore names (incoming c)) (a : Assignable) :
    SpacedBefore names (assignmentItems d incoming a) := by
  cases a with
  | assignment c v =>
    exact (SpacedBefore.single (.column c) trivial).append
      ((SpacedBefore.single (.arg v) trivial).after (s := "=") (by decide))
  | column c =>
    exact (SpacedBefore.single (.column c.name) trivial).append
      ((h c.name).after (s := "=") (by decide))
  | fragment r => exact .single _ trivial

theorem Upsert.spaced_items (u : Upsert) (d : Dialect) : SpacedBetween names (u.items d) := by
  have hcolumn : ∀ c : String, SpacedBefore names [.column c] := fun c => .single _ trivial
  have hvalues : ∀ c, SpacedBefore names [.text "VALUES(", .column c, .text ")"] := fun c =>
    ((hcolumn c).append (.text (by decide))).cons_text "VALUES("
  have hexcluded : ∀ c, SpacedBefore names [.text "EXCLUDED.", .column c] := fun c =>
    (hcolumn c).cons_text "EXCLUDED."
  have hassign (d : Dialect) {incoming : String → List Item}
      (h : ∀ c, SpacedBefore names (incoming c)) :
      SpacedBefore names (u.assignmentList d incoming) :=
    spaced_listed fun a _ => spaced_assignmentItems d h a
  have hfields : SpacedBefore names (listed (u.conflictFields.map fun c => [.column c])) :=
    spaced_listed fun c _ => hcolumn c
  have hconflict (d : Dialect) :=
    hfields.append ((hassign d hexcluded).after (s := ") DO UPDATE SET ") (by decide))
  unfold Upsert.items
  split
  · exact .refusal _
  · cases d with
    | mysql => exact (hassign .mysql hvalues).after (by decide)
    | sqlite | postgres =>
      dsimp only
      split
      · exact .refusal _
      · simpa using (hconflict _).after (s := " ON CONFLICT (") (by decide)

/-- A row of an insertion is in parentheses. -/
theorem Insert.spaced_rowItems (targets : List (String × Item))
    (read : String → Except Error Value) : SpacedBefore names
      ([.text "("] ++ listed (targets.map fun t => [valueItem (read t.1)]) ++ [.text ")"]) := by
  have hvalue : ∀ r, SpacedBefore names [valueItem r] := by
    rintro (e | v)
    · exact .single _ trivial
    · exact .single _ trivial
  simpa using SpacedBefore.grouped (spaced_listed fun t (_ : t ∈ targets) => hvalue (read t.1))

theorem Insert.spaced_items (d : Dialect) {m : Model}
    (read : Instance → String → Except Error Value) (s : Insert)
    (h : ∀ f ∈ m.fields, f.columnName ∈ names) : Spaced names (s.items d m read) := by
  have htarget : ∀ t ∈ s.targets m, SpacedBefore names [t.2] := by
    intro t ht
    unfold Insert.targets at ht
    split at ht
    · obtain ⟨f, hf, rfl⟩ := List.mem_map.mp ht
      exact .single _ (h f hf)
    · obtain ⟨c, -, rfl⟩ := List.mem_map.mp ht
      exact .single _ trivial
  -- Put together from the end of the text.
  have hrow (i : Instance) : SpacedBefore names ([.text "("] ++
      listed ((s.targets m).map fun t => [valueItem (read i t.1)]) ++ [.text ")"]) :=
    spaced_rowItems (s.targets m) (read i)
  have hinsert {tail : List Item} (htail : SpacedBetween names tail) :=
    have hrows := ((spaced_listed fun i (_ : i ∈ s.rows) => hrow i).append htail).after
      (s := ") VALUES ") (by decide)
    have htargets := ((spaced_listed htarget).append hrows).after (s := " (") (by decide)
    ((SpacedBefore.single .table trivial).append htargets).cons_text "INSERT INTO "
  cases hu : s.upsert with
  | none => simpa [items, hu] using (hinsert .nil).finished
  | some u => simpa [items, hu] using (hinsert (u.spaced_items d)).finished

/-- **In every statement, a separator follows every name.** -/
theorem Statement.spaced_template (d : Dialect) (m : Model)
    (read : Instance → String → Except Error Value) (stmt : Statement) :
    Spaced (stmt.names m) (stmt.template d m read) := by
  cases stmt with
  | select s =>
    refine s.spaced_items fun c hc l hl => ?_
    have hlabel : l ∈ (select s).labels := List.mem_filterMap.mpr ⟨c, hc, hl⟩
    exact List.mem_cons_of_mem _ (List.mem_append_right _ hlabel)
  | insert s =>
    refine s.spaced_items d read fun f hf => ?_
    exact List.mem_cons_of_mem _ (List.mem_append_left _ (List.mem_map_of_mem hf))
  | update u => exact u.spaced_items
  | delete s => exact s.spaced_items
  | handwritten q => exact ⟨trivial, nofun, trivial⟩

/-! ## Names in pieces -/

/-- What an item becomes is a name only if the item is one. -/
theorem Item.resolve_eq_name {m : Model} {i : Item} {n : String}
    (h : i.resolve m = .ok (.name n)) : i.IsName ∧
      (i = .name n ∨ n = m.table ∨ n ∈ m.fields.map Field.columnName) := by
  cases i with
  | table =>
    cases h
    exact ⟨trivial, .inr (.inl rfl)⟩
  | name s =>
    cases h
    exact ⟨trivial, .inl rfl⟩
  | column c =>
    refine ⟨trivial, .inr (.inr ?_)⟩
    cases hf : m.field? c with
    | none => simp [resolve, hf] at h
    | some f =>
      simp only [resolve, hf, Except.ok.injEq, Piece.name.injEq] at h
      exact h ▸ List.mem_map_of_mem (Model.mem_of_field? hf).1
  | _ => cases h

/-- **After every name stands the text of a separator.** -/
theorem Spaced.resolve {m : Model} {stmt : Statement} {is : List Item}
    (his : Spaced (stmt.names m) is) {before after : List Piece} {n : String}
    (h : resolveAll m is = .ok (before ++ .name n :: after)) :
    n ∈ stmt.names m ∧ ∃ s rest, after = .text s :: rest ∧ Separates s := by
  -- Induction on the template: the name is what its first item becomes, or comes later.
  induction is generalizing before with
  | nil => simp [resolveAll] at h
  | cons i is ih =>
    obtain ⟨p, qs, hp, hqs, hps⟩ := resolveAll_cons_eq_ok.mp h
    obtain ⟨hamong, hled, hspaced⟩ := his
    cases before with
    | cons b before =>
      obtain ⟨rfl, rfl⟩ := List.cons.inj hps
      exact ih hspaced hqs
    | nil =>
      obtain ⟨rfl, rfl⟩ := List.cons.inj hps
      obtain ⟨hname, horigin⟩ := Item.resolve_eq_name hp
      refine ⟨?_, ?_⟩
      · rcases horigin with rfl | rfl | hcolumn
        · exact hamong
        · exact List.mem_cons_self
        · exact List.mem_cons_of_mem _ (List.mem_append_left _ hcolumn)
      · obtain ⟨j, js, rfl, hends⟩ := hled hname
        obtain ⟨p', rest, hp', -, rfl⟩ := resolveAll_cons_eq_ok.mp hqs
        cases j with
        | text s =>
          cases hp'
          exact ⟨s, rest, rfl, hends⟩
        | refusal e => cases hp'
        | _ => cases hends

/-- No name goes on after a separator. -/
theorem renderFrom_head?_ne (d : Dialect) (bound : Nat) {s : String} (hs : Separates s)
    (rest : List Piece) : (renderFrom d bound (.text s :: rest)).head? ≠ some d.quoteChar := by
  obtain ⟨ch, hch, hhead⟩ := hs
  rw [renderFrom, Piece.chars, List.head?_append, hhead]
  rintro heq
  exact quoteChar_notMem_separators d (Option.some.inj heq ▸ hch)

/-- **Which names of a statement are read back.** Every name that a statement writes stands in
quotes somewhere in its text. Reading it there gives the name back, and ends where the rest of the
text begins, just when there is no quote in the name. -/
theorem names_readable {d : Dialect} {m : Model} {read : Instance → String → Except Error Value}
    {stmt : Statement} {q : Query} (h : stmt.compile d m read = .ok q) :
    ∃ ps, resolveAll m (stmt.template d m read) = .ok ps ∧ q.sql.toList = renderFrom d 0 ps ∧
      ∀ before n after, ps = before ++ .name n :: after → n ∈ stmt.names m ∧
        ∃ rest, rest = renderFrom d (before.flatMap Piece.args).length after ∧
          q.sql.toList = renderFrom d 0 before ++ ((d.quote n).toList ++ rest) ∧
          (readName d.quoteChar ((d.quote n).toList ++ rest) = some (n, rest) ↔
            d.quoteChar ∉ n.toList) := by
  obtain ⟨ps, hps, hsql⟩ : ∃ ps, resolveAll m (stmt.template d m read) = .ok ps ∧
      q.sql.toList = renderFrom d 0 ps := by
    cases stmt with
    | handwritten q' =>
      cases h
      exact ⟨[.text q.sql], rfl, by simp [renderFrom, Piece.chars]⟩
    | _ =>
      obtain ⟨ps, hps, hq⟩ := bind_eq_ok.mp h
      cases hq
      exact ⟨ps, hps, String.toList_ofList⟩
  refine ⟨ps, hps, hsql, ?_⟩
  rintro before n after rfl
  obtain ⟨hn, s, rest, rfl, hs⟩ := (stmt.spaced_template d m read).resolve hps
  refine ⟨hn, _, rfl, ?_, readName_quote d n (renderFrom_head?_ne d _ hs rest)⟩
  rw [hsql, renderFrom_append, Nat.zero_add]
  rfl

/-- A projection under a label. -/
def labelled (label : String) : Statement :=
  .select (Select.all.project [.column ⟨"id", some label⟩])

/-- A label with anything but a quote in it is read back. -/
theorem strangeLabel_readable : ∃ read,
    (labelled "a` (b); --").compile .postgres gaugeModel read =
      .ok ⟨"SELECT \"id\" AS \"a` (b); --\" FROM \"gauge\";", []⟩ ∧
    readName '"' "\"a` (b); --\" FROM \"gauge\";".toList =
      some ("a` (b); --", " FROM \"gauge\";".toList) := by
  have h : (labelled "a` (b); --").compile .postgres gaugeModel (fun _ _ => .ok .null) =
      .ok ⟨"SELECT \"id\" AS \"a` (b); --\" FROM \"gauge\";", []⟩ := by decide
  obtain ⟨ps, hps, -, hnames⟩ := names_readable h
  cases hps
  obtain ⟨-, rest, rfl, -, hread⟩ := hnames [.text "SELECT ", .name "id", .text " AS "]
    "a` (b); --" [.text " FROM ", .name "gauge", .text ";"] rfl
  exact ⟨_, h, hread.mpr (by decide)⟩

/-- **A label that ends its own quotes** is written as a label with one more column after it. -/
theorem closingLabel_projects : ∃ read,
    (labelled "a`,`reading").compile .mysql gaugeModel read =
      .ok ⟨"SELECT `id` AS `a`,`reading` FROM `gauge`;", []⟩ ∧
    (Statement.select (Select.all.project
      [.column ⟨"id", some "a"⟩, .column ⟨"level", none⟩])).compile .mysql gaugeModel read =
      .ok ⟨"SELECT `id` AS `a`,`reading` FROM `gauge`;", []⟩ ∧
    readName '\x60' "`a`,`reading` FROM `gauge`;".toList =
      some ("a", ",`reading` FROM `gauge`;".toList) :=
  ⟨fun _ _ => .ok .null, by decide, by decide, by decide⟩

end EntityMapper.Sql

import EntityMapper.Proofs.Model.Accessor
import EntityMapper.Proofs.Sql.Binding

/-!
# The text and the arguments of insertions

An insertion lists the columns of its fields, and then binds the contents of these fields for one
instance after the other. What it does about rows that are there already comes after that.

## Main definitions

* `Insert.selected m s`: the fields of an insertion
* `Insert.header d m s`: the text of an insertion up to its rows
* `Insert.Selects s name`: the field of that name is inserted

## Main results

* `Insert.resolveAll_body`: the pieces of an insertion up to the end of its rows
* `take_drop_flatMap`: a group among groups of equal length
-/

namespace EntityMapper.Sql

/-! ## Lists -/

/-- **A group among groups of equal length.** -/
theorem take_drop_flatMap {α β : Type} {g : α → List β} {k : Nat} {xs : List α}
    (h : ∀ x ∈ xs, (g x).length = k) {n : Nat} {x : α} (hx : xs[n]? = some x) :
    ((xs.flatMap g).drop (n * k)).take k = g x := by
  induction xs generalizing n with
  | nil => simp at hx
  | cons y ys ih =>
    obtain ⟨hy, hys⟩ := List.forall_mem_cons.mp h
    rw [List.flatMap_cons]
    cases n with
    | zero =>
      obtain rfl : y = x := by simpa using hx
      rw [Nat.zero_mul, List.drop_zero, List.take_left' hy]
    | succ n =>
      rw [Nat.succ_mul, Nat.add_comm, ← List.drop_drop, List.drop_left' hy]
      exact ih hys (by simpa using hx)

/-- Pieces with commas between them bind what the pieces bind. -/
theorem args_intercalate (pss : List (List Piece)) :
    ([Piece.text ","].intercalate pss).flatMap Piece.args =
      pss.flatMap fun ps => ps.flatMap Piece.args := by
  induction pss with
  | nil => rfl
  | cons ps pss ih =>
    cases pss with
    | nil => simp
    | cons qs pss => simp [List.intercalate_cons_cons, Piece.args, ih]

/-- Names with commas between them, in a dialect. -/
theorem renderFrom_intercalate (d : Dialect) (bound : Nat) (names : List String) :
    renderFrom d bound ([Piece.text ","].intercalate (names.map fun s => [.name s])) =
      ",".toList.intercalate (names.map fun s => (d.quote s).toList) := by
  induction names with
  | nil => rfl
  | cons s names ih =>
    cases names with
    | nil => simp [renderFrom, Piece.chars]
    | cons t names =>
      simpa [List.intercalate_cons_cons, renderFrom, Piece.chars, Piece.args] using ih

/-- A name between texts, and a list of names before another text, in a dialect. -/
theorem renderFrom_listing (d : Dialect) (a b c table : String) (names : List String) :
    renderFrom d 0 ([.text a, .name table, .text b] ++
        [Piece.text ","].intercalate (names.map fun s => [.name s]) ++ [.text c]) =
      a.toList ++ (d.quote table).toList ++ b.toList ++
        ",".toList.intercalate (names.map fun s => (d.quote s).toList) ++ c.toList := by
  rw [renderFrom_append, renderFrom_append, renderFrom_intercalate]
  simp [renderFrom, Piece.chars]

/-- Templates with commas between them resolve one after another. -/
theorem resolveAll_listed {m : Model} {iss : List (List Item)} {pss : List (List Piece)}
    (h : List.Forall₂ (fun is ps => resolveAll m is = .ok ps) iss pss) :
    resolveAll m (listed iss) = .ok ([Piece.text ","].intercalate pss) := by
  induction h with
  | nil => rfl
  | cons hx hxs ih =>
    cases hxs with
    | nil => simpa [listed] using hx
    | cons hy hys =>
      have hrest := resolveAll_cons_eq_ok (i := .text ",").mpr ⟨_, _, rfl, ih, rfl⟩
      have := resolveAll_append_eq_ok.mpr ⟨_, _, hx, hrest, rfl⟩
      simpa [listed, List.intercalate_cons_cons] using this

namespace Insert

/-! ## The fields of an insertion -/

/-- The field of that name is inserted: it is named, or no field is. -/
def Selects (s : Insert) (name : String) : Prop := s.columns = [] ∨ name ∈ s.columns

/-- **The fields of an insertion**: those that are named, or all of them. -/
def selected (m : Model) (s : Insert) : List Field :=
  if s.columns.isEmpty then m.fields else s.columns.filterMap m.field?

/-- **The text of an insertion up to its rows** lists the columns of its fields. -/
def header (d : Dialect) (m : Model) (s : Insert) : List Char :=
  "INSERT INTO ".toList ++ (d.quote m.table).toList ++ " (".toList ++
    ",".toList.intercalate ((s.selected m).map fun f => (d.quote f.columnName).toList) ++
    ") VALUES ".toList

variable {s : Insert} {m : Model} {e : Entity}

/-- The fields that are named stand for fields of the model. -/
theorem mem_selected {f : Field} (h : f ∈ s.selected m) :
    f ∈ m.fields ∧ s.Selects f.fieldName := by
  unfold selected at h
  split at h
  · next hc => exact ⟨h, .inl (List.isEmpty_iff.mp hc)⟩
  · obtain ⟨c, hc, hf⟩ := List.mem_filterMap.mp h
    obtain ⟨hmem, rfl⟩ := Model.mem_of_field? hf
    exact ⟨hmem, .inr hc⟩

/-- A field of a derived entity is inserted if its name is selected. -/
theorem mem_selected_of_selects (he : e.Derived) (hm : m.Fits e) {f : Field} (hf : f ∈ m.fields)
    (h : s.Selects f.fieldName) : f ∈ s.selected m := by
  unfold selected
  split
  · exact hf
  · next hc =>
    refine List.mem_filterMap.mpr ⟨f.fieldName, ?_, hm.field?_eq he hf⟩
    exact h.resolve_left (mt List.isEmpty_iff.mpr hc)

/-- **The names and the columns in an insertion** are those of its fields, in order. -/
theorem forall₂_targets (hs : ∀ c ∈ s.columns, (m.field? c).isSome) :
    List.Forall₂ (fun t f => f ∈ m.fields ∧ t.1 = f.fieldName ∧
      t.2.resolve m = .ok (.name f.columnName)) (s.targets m) (s.selected m) := by
  unfold targets selected
  split
  · exact List.forall₂_map_left_iff.mpr (List.forall₂_same.mpr fun f hf => ⟨hf, rfl, rfl⟩)
  · clear *- hs
    generalize s.columns = cs at hs ⊢
    induction cs with
    | nil => exact .nil
    | cons c cs ih =>
      obtain ⟨hc, hcs⟩ := List.forall_mem_cons.mp hs
      obtain ⟨f, hf⟩ := Option.isSome_iff_exists.mp hc
      rw [List.map_cons, List.filterMap_cons_some hf]
      obtain ⟨hmem, rfl⟩ := Model.mem_of_field? hf
      exact .cons ⟨hmem, rfl, by simp [Item.resolve, hf]⟩ (ih hcs)

/-- An insertion has fields if its entity has. -/
theorem selected_ne_nil (hm : m.Fits e) (he : e.fields ≠ [])
    (hs : ∀ c ∈ s.columns, (m.field? c).isSome) : s.selected m ≠ [] := by
  unfold selected
  split
  · intro hf
    have hnames := hm.names_eq
    rw [hf, List.map_nil] at hnames
    exact he (List.map_eq_nil_iff.mp hnames.symm)
  · next hc =>
    obtain ⟨c, hmem⟩ := List.exists_mem_of_ne_nil _ (mt List.isEmpty_iff.mpr hc)
    obtain ⟨f, hf⟩ := Option.isSome_iff_exists.mp (hs c hmem)
    exact List.ne_nil_of_mem (List.mem_filterMap.mpr ⟨c, hmem, hf⟩)

/-! ## The pieces of an insertion -/

/-- The pieces of an insertion up to its rows. -/
def headPieces (m : Model) (s : Insert) : List Piece :=
  [.text "INSERT INTO ", .name m.table, .text " ("] ++
    [Piece.text ","].intercalate ((s.selected m).map fun f => [.name f.columnName]) ++
    [.text ") VALUES "]

/-- The pieces of a row. -/
def rowPieces (fs : List Field) (i : Instance) : List Piece :=
  [.text "("] ++ [Piece.text ","].intercalate (fs.map fun f => [.arg (i.content f)]) ++ [.text ")"]

/-- The pieces of an insertion up to the end of its rows. -/
def bodyPieces (m : Model) (s : Insert) : List Piece :=
  s.headPieces m ++ [Piece.text ","].intercalate (s.rows.map (rowPieces (s.selected m)))

/-- The template of an insertion up to the end of its rows. -/
def bodyItems (m : Model) (read : Instance → String → Except Error Value) (s : Insert) :
    List Item :=
  [.text "INSERT INTO ", .table, .text " ("] ++ listed ((s.targets m).map fun t => [t.2]) ++
    [.text ") VALUES "] ++
    listed (s.rows.map fun i =>
      [.text "("] ++ listed ((s.targets m).map fun t => [valueItem (read i t.1)]) ++ [.text ")"])

/-- What comes after the rows of an insertion. -/
def tailItems (d : Dialect) (s : Insert) : List Item :=
  (match s.upsert with
    | some u => u.items d
    | none => []) ++ [.text ";"]

theorem items_eq_append (d : Dialect) (m : Model) (read : Instance → String → Except Error Value)
    (s : Insert) : s.items d m read = s.bodyItems m read ++ s.tailItems d := by
  cases hu : s.upsert <;> simp [items, bodyItems, tailItems, hu]

/-- **The pieces of an insertion up to the end of its rows**, if the fields are there to be
read. -/
theorem resolveAll_body {read : Instance → String → Except Error Value}
    (hs : ∀ c ∈ s.columns, (m.field? c).isSome)
    (hread : ∀ i ∈ s.rows, ∀ f ∈ m.fields, read i f.fieldName = .ok (i.content f)) :
    resolveAll m (s.bodyItems m read) = .ok (s.bodyPieces m) := by
  -- The columns of the header and the values of each row follow the same fields.
  have htargets := forall₂_targets hs
  have hcolumns : resolveAll m (listed ((s.targets m).map fun t => [t.2])) =
      .ok ([Piece.text ","].intercalate ((s.selected m).map fun f => [.name f.columnName])) := by
    refine resolveAll_listed ?_
    rw [List.forall₂_map_left_iff, List.forall₂_map_right_iff]
    exact htargets.imp fun t f h => resolveAll_cons_eq_ok.mpr ⟨_, _, h.2.2, rfl, rfl⟩
  have hrow : ∀ i ∈ s.rows, resolveAll m ([.text "("] ++
      listed ((s.targets m).map fun t => [valueItem (read i t.1)]) ++ [.text ")"]) =
      .ok (rowPieces (s.selected m) i) := by
    intro i hi
    have hvalues : resolveAll m (listed ((s.targets m).map fun t => [valueItem (read i t.1)])) =
        .ok ([Piece.text ","].intercalate ((s.selected m).map fun f => [.arg (i.content f)])) := by
      refine resolveAll_listed ?_
      rw [List.forall₂_map_left_iff, List.forall₂_map_right_iff]
      refine htargets.imp fun t f h => ?_
      rw [h.2.1, hread i hi f h.1]
      rfl
    exact resolveAll_append_eq_ok.mpr ⟨_, _, resolveAll_append_eq_ok.mpr
      ⟨_, _, rfl, hvalues, rfl⟩, rfl, rfl⟩
  have hrows : resolveAll m (listed (s.rows.map fun i => [.text "("] ++
      listed ((s.targets m).map fun t => [valueItem (read i t.1)]) ++ [.text ")"])) =
      .ok ([Piece.text ","].intercalate (s.rows.map (rowPieces (s.selected m)))) := by
    refine resolveAll_listed ?_
    rw [List.forall₂_map_left_iff, List.forall₂_map_right_iff]
    exact List.forall₂_same.mpr hrow
  -- Texts in between resolve to themselves.
  have hhead : resolveAll m ([.text "INSERT INTO ", .table, .text " ("] ++
      listed ((s.targets m).map fun t => [t.2]) ++ [.text ") VALUES "]) = .ok (s.headPieces m) :=
    resolveAll_append_eq_ok.mpr ⟨_, _, resolveAll_append_eq_ok.mpr
      ⟨_, _, rfl, hcolumns, rfl⟩, rfl, rfl⟩
  exact resolveAll_append_eq_ok.mpr ⟨_, _, hhead, hrows, rfl⟩

theorem args_headPieces (m : Model) (s : Insert) : (s.headPieces m).flatMap Piece.args = [] := by
  simp [headPieces, args_intercalate, Piece.args, List.flatMap_map]

/-- The rows of an insertion bind the contents of its fields, one instance after the other. -/
theorem args_body (m : Model) (s : Insert) : (s.bodyPieces m).flatMap Piece.args =
    s.rows.flatMap fun i => (s.selected m).map i.content := by
  have hrow : ∀ i, (rowPieces (s.selected m) i).flatMap Piece.args =
      (s.selected m).map i.content := by
    intro i
    simp [rowPieces, args_intercalate, Piece.args, List.flatMap_map, ← List.map_eq_flatMap]
  simp [bodyPieces, args_headPieces, args_intercalate, List.flatMap_map, hrow]

theorem renderFrom_headPieces (d : Dialect) (m : Model) (s : Insert) :
    renderFrom d 0 (s.headPieces m) = s.header d m := by
  have h := renderFrom_listing d "INSERT INTO " " (" ") VALUES " m.table
    ((s.selected m).map Field.columnName)
  rwa [List.map_map, List.map_map] at h

/-- The text of an insertion begins with its header. -/
theorem header_prefix (d : Dialect) (m : Model) (s : Insert) (ps : List Piece) :
    s.header d m <+: renderFrom d 0 (s.bodyPieces m ++ ps) := by
  rw [bodyPieces, List.append_assoc, renderFrom_append, renderFrom_headPieces]
  exact List.prefix_append _ _

end Insert

end EntityMapper.Sql

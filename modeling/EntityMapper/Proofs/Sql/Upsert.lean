import EntityMapper.Proofs.Sql.Dialects
import EntityMapper.Proofs.Sql.Insertion

/-!
# What becomes of insertions

In the model of its entity an insertion is refused for the first of its faults, or else written out
whole: the columns of its fields, a row of placeholders for every instance, and what is to be done
about rows that are there already. The arguments are the contents of the fields, instance after
instance, and after them the values that the conflict clause assigns.

## Main definitions

* `Upsert.fault? d m u`, `Insert.fault? d m s`: the first fault of a conflict clause and of an
  insertion
* `Upsert.Accepted d m u`, `Insert.Accepted d m s`: conflict clauses and insertions without fault
* `Insert.tuples d n k`: rows of placeholders
* `Insert.Composed d e m s q`: the statement that is written for an insertion
* `Resolves m is fault ps`: the template resolves to the pieces, unless there is a fault

## Main results

* `Insert.fault?_eq_none`: insertions without fault
* `Insert.resolves_items`: the template of an insertion has the faults of the insertion
* `Insert.composed_render`: the text and the arguments of an insertion without fault
-/

namespace EntityMapper.Sql

/-! ## Faults -/

/-- The fault of a field that the model has not. -/
def missing? (m : Model) (name : String) : Option Error :=
  if (m.field? name).isSome then none else some (.unknownField name)

theorem missing?_eq_none {m : Model} {name : String} :
    missing? m name = none ↔ (m.field? name).isSome := by
  unfold missing?
  cases m.field? name <;> simp

namespace Upsert

/-- The fault of an assignment in a conflict clause: its field is missing, or it is a fragment. -/
def assignmentFault? (d : Dialect) (m : Model) : Assignable → Option Error
  | .assignment c _ => missing? m c
  | .column c => missing? m c.name
  | .fragment r => some (r.refusal d)

/-- The fault of the conflict fields. One dialect does not look at them. -/
def conflictFault? (d : Dialect) (m : Model) (u : Upsert) : Option Error :=
  if d = .mysql then none
  else if u.conflictFields = [] then some .noConflictColumns
  else u.conflictFields.findSome? (missing? m)

/-- **The first fault of a conflict clause**: there has to be an assignment, then the conflict
fields count, and then the assignments in their order. -/
def fault? (d : Dialect) (m : Model) (u : Upsert) : Option Error :=
  if u.assignments = [] then some .noUpdatedColumns
  else (u.conflictFault? d m).or (u.assignments.findSome? (assignmentFault? d m))

/-- **A conflict clause that can be written** in the model and the dialect. -/
structure Accepted (d : Dialect) (m : Model) (u : Upsert) : Prop where
  updates : u.assignments ≠ []
  fragmentless : ∀ r, .fragment r ∉ u.assignments
  assigned : ∀ c v, .assignment c v ∈ u.assignments → (m.field? c).isSome
  taken : ∀ c, .column c ∈ u.assignments → (m.field? c.name).isSome
  conflicts : d ≠ .mysql → u.conflictFields ≠ [] ∧ ∀ c ∈ u.conflictFields, (m.field? c).isSome

theorem conflictFault?_eq_none {d : Dialect} {m : Model} {u : Upsert} :
    u.conflictFault? d m = none ↔
      (d ≠ .mysql → u.conflictFields ≠ [] ∧ ∀ c ∈ u.conflictFields, (m.field? c).isSome) := by
  unfold conflictFault?
  by_cases hd : d = .mysql
  · simp [hd]
  · by_cases hc : u.conflictFields = []
    · simp [hd, hc]
    · simp [hd, hc, missing?_eq_none]

theorem fault?_eq_none {d : Dialect} {m : Model} {u : Upsert} :
    u.fault? d m = none ↔ u.Accepted d m := by
  have hfault : u.fault? d m = none ↔ u.assignments ≠ [] ∧ u.conflictFault? d m = none ∧
      ∀ a ∈ u.assignments, assignmentFault? d m a = none := by
    unfold fault?
    by_cases hu : u.assignments = []
    · simp [hu]
    · simp [hu]
  rw [hfault, conflictFault?_eq_none]
  constructor
  · rintro ⟨hupdates, hconflicts, hassignments⟩
    exact ⟨hupdates, fun r hr => (nomatch hassignments (.fragment r) hr),
      fun c v hc => missing?_eq_none.mp (hassignments (.assignment c v) hc),
      fun c hc => missing?_eq_none.mp (hassignments (.column c) hc), hconflicts⟩
  · rintro ⟨hupdates, hfragments, hassigned, htaken, hconflicts⟩
    refine ⟨hupdates, hconflicts, fun a ha => ?_⟩
    cases a with
    | assignment c v => exact missing?_eq_none.mpr (hassigned c v ha)
    | column c => exact missing?_eq_none.mpr (htaken c ha)
    | fragment r => exact absurd ha (hfragments r)

end Upsert

namespace Insert

/-- **The first fault of an insertion**: its fields come before its conflict clause. -/
def fault? (d : Dialect) (m : Model) (s : Insert) : Option Error :=
  (s.columns.findSome? (missing? m)).or (s.upsert.bind fun u => u.fault? d m)

/-- **An insertion that can be written** in the model and the dialect. -/
structure Accepted (d : Dialect) (m : Model) (s : Insert) : Prop where
  fields : ∀ c ∈ s.columns, (m.field? c).isSome
  clause : ∀ u, s.upsert = some u → u.Accepted d m

theorem fault?_eq_none {d : Dialect} {m : Model} {s : Insert} :
    s.fault? d m = none ↔ s.Accepted d m := by
  have hfault : s.fault? d m = none ↔ (∀ c ∈ s.columns, (m.field? c).isSome) ∧
      ∀ u, s.upsert = some u → u.fault? d m = none := by
    simp [fault?, missing?_eq_none]
  rw [hfault]
  constructor
  · rintro ⟨hfields, hclause⟩
    exact ⟨hfields, fun u hu => Upsert.fault?_eq_none.mp (hclause u hu)⟩
  · rintro ⟨hfields, hclause⟩
    exact ⟨hfields, fun u hu => Upsert.fault?_eq_none.mpr (hclause u hu)⟩

end Insert

/-! ## Templates with faults -/

/-- **The template resolves to the pieces**, unless there is a fault. -/
def Resolves (m : Model) (is : List Item) (fault : Option Error) (ps : List Piece) : Prop :=
  resolveAll m is = fault.elim (.ok ps) .error

/-- The column of a field. -/
def columnOf (m : Model) (name : String) : String := ((m.field? name).map Field.columnName).getD ""

namespace Resolves

variable {m : Model} {is js : List Item} {fault fault' : Option Error} {ps qs : List Piece}

/-- Of two templates one after the other, the faults of the first one come first. -/
theorem append (h : Resolves m is fault ps) (h' : fault = none → Resolves m js fault' qs) :
    Resolves m (is ++ js) (fault.or fault') (ps ++ qs) := by
  unfold Resolves at h h' ⊢
  rw [resolveAll_append, h]
  cases fault with
  | some err => rfl
  | none =>
    rw [h' rfl]
    cases fault' <;> rfl

theorem text (s : String) : Resolves m [.text s] none [.text s] := rfl

theorem cons_text (s : String) (h : Resolves m is fault ps) :
    Resolves m (.text s :: is) fault (.text s :: ps) :=
  (text s).append fun _ => h

/-- A text at the end does not matter. -/
theorem append_text (h : Resolves m is fault ps) (s : String) :
    Resolves m (is ++ [.text s]) fault (ps ++ [.text s]) := by
  have := h.append fun _ => text s
  rwa [Option.or_none] at this

theorem column (c : String) : Resolves m [.column c] (missing? m c) [.name (columnOf m c)] := by
  unfold Resolves missing? columnOf
  cases hc : m.field? c <;> simp [resolveAll, Item.resolve, hc, bind, Except.bind]

/-- Templates with commas between them have the faults of each of them, in order. -/
theorem listed {α : Type} {f : α → List Item} {faultOf : α → Option Error} {g : α → List Piece}
    {xs : List α} (h : ∀ x ∈ xs, Resolves m (f x) (faultOf x) (g x)) :
    Resolves m (listed (xs.map f)) (xs.findSome? faultOf)
      ([Piece.text ","].intercalate (xs.map g)) := by
  induction xs with
  | nil => rfl
  | cons x xs ih =>
    obtain ⟨hx, hxs⟩ := List.forall_mem_cons.mp h
    have hfault : (x :: xs).findSome? faultOf = (faultOf x).or (xs.findSome? faultOf) := by
      rw [List.findSome?_cons]
      cases faultOf x <;> rfl
    rw [hfault]
    cases xs with
    | nil => simpa [Sql.listed] using hx
    | cons y ys =>
      have := hx.append fun _ => cons_text "," (ih hxs)
      simpa [Sql.listed, List.intercalate_cons_cons] using this

end Resolves

/-! ## The template of an insertion -/

namespace Upsert

variable {m : Model} {d : Dialect}

/-- The pieces of an incoming value. -/
def incomingPieces (d : Dialect) (column : String) : List Piece :=
  match d with
  | .mysql => [.text "VALUES(", .name column, .text ")"]
  | .sqlite | .postgres => [.text "EXCLUDED.", .name column]

/-- The pieces of an assignment in a conflict clause. -/
def assignmentPieces (d : Dialect) (m : Model) : Assignable → List Piece
  | .assignment c v => [.name (columnOf m c), .text "=", .arg v]
  | .column c => [.name (columnOf m c.name), .text "="] ++ incomingPieces d (columnOf m c.name)
  | .fragment _ => []

/-- **The pieces of a conflict clause** without fault. -/
def pieces (d : Dialect) (m : Model) (u : Upsert) : List Piece :=
  (match d with
    | .mysql => [.text " ON DUPLICATE KEY UPDATE "]
    | .sqlite | .postgres =>
      [.text " ON CONFLICT ("] ++
        [Piece.text ","].intercalate (u.conflictFields.map fun c => [.name (columnOf m c)]) ++
        [.text ") DO UPDATE SET "]) ++
    [Piece.text ","].intercalate (u.assignments.map (assignmentPieces d m))

/-- The value that an assignment gives. -/
def assignedValue? : Assignable → Option Value
  | .assignment _ v => some v
  | .column _ => none
  | .fragment _ => none

theorem resolves_assignmentItems {incoming : String → List Item}
    (h : ∀ c, Resolves m (incoming c) (missing? m c) (incomingPieces d (columnOf m c)))
    (a : Assignable) :
    Resolves m (assignmentItems d incoming a) (assignmentFault? d m a) (assignmentPieces d m a) := by
  cases a with
  | assignment c v =>
    have hvalue : Resolves m [.text "=", .arg v] none [.text "=", .arg v] := rfl
    have := (Resolves.column (m := m) c).append fun _ => hvalue
    rwa [Option.or_none] at this
  | column c =>
    have := (Resolves.column (m := m) c.name).append_text "=" |>.append fun _ => h c.name
    rwa [Option.or_self] at this
  | fragment r => rfl

/-- **The template of a conflict clause has the faults of the clause**, and else its pieces. -/
theorem resolves_items (u : Upsert) : Resolves m (u.items d) (u.fault? d m) (u.pieces d m) := by
  unfold items fault? conflictFault? pieces
  by_cases hu : u.assignments = []
  · simp only [hu, List.isEmpty_nil, ↓reduceIte]
    rfl
  · have hassignments {incoming : String → List Item}
        (h : ∀ c, Resolves m (incoming c) (missing? m c) (incomingPieces d (columnOf m c))) :
        Resolves m (u.assignmentList d incoming) (u.assignments.findSome? (assignmentFault? d m))
          ([Piece.text ","].intercalate (u.assignments.map (assignmentPieces d m))) :=
      .listed fun a _ => resolves_assignmentItems h a
    have hconflict : Resolves m ([.text " ON CONFLICT ("] ++
        listed (u.conflictFields.map fun c => [.column c]) ++ [.text ") DO UPDATE SET "])
        (u.conflictFields.findSome? (missing? m)) ([.text " ON CONFLICT ("] ++
          [Piece.text ","].intercalate (u.conflictFields.map fun c => [.name (columnOf m c)]) ++
          [.text ") DO UPDATE SET "]) :=
      (Resolves.cons_text " ON CONFLICT (" (.listed fun c _ => .column c)).append_text _
    rw [if_neg (by simpa using hu), if_neg hu]
    cases d with
    | mysql =>
      exact (hassignments fun c =>
        (Resolves.cons_text "VALUES(" (.column c)).append_text ")").cons_text _
    | sqlite | postgres =>
      by_cases hc : u.conflictFields = []
      · simp only [hc, List.isEmpty_nil, ↓reduceIte, reduceCtorEq]
        rfl
      · simp only [List.isEmpty_iff, hc, ↓reduceIte, reduceCtorEq]
        exact hconflict.append fun _ =>
          hassignments fun c => Resolves.cons_text "EXCLUDED." (.column c)

/-- A conflict clause without fragments binds the values that it assigns. -/
theorem args_pieces (u : Upsert) :
    (u.pieces d m).flatMap Piece.args = u.assignments.filterMap assignedValue? := by
  have hassignment (a : Assignable) :
      (assignmentPieces d m a).flatMap Piece.args = (assignedValue? a).toList := by
    cases a with
    | column c => cases d <;> rfl
    | _ => rfl
  have hassignments : (u.assignments.map (assignmentPieces d m)).flatMap
      (fun ps => ps.flatMap Piece.args) = u.assignments.filterMap assignedValue? := by
    simp [List.flatMap_map, hassignment, List.filterMap_eq_flatMap_toList]
  cases d <;> simp [pieces, args_intercalate, hassignments, Piece.args, List.flatMap_map]

end Upsert

namespace Insert

variable {d : Dialect} {m : Model} {e : Entity} {s : Insert}
  {read : Instance → String → Except Error Value}

/-- The pieces of the conflict clause, if there is one. -/
def clausePieces (d : Dialect) (m : Model) (s : Insert) : List Piece :=
  match s.upsert with
  | some u => u.pieces d m
  | none => []

/-- The values that the conflict clause assigns, if there is one. -/
def assignedValues (s : Insert) : List Value :=
  match s.upsert with
  | some u => u.assignments.filterMap Upsert.assignedValue?
  | none => []

/-- The rows of an insertion have no faults but those of its fields. -/
theorem resolves_bodyItems
    (hread : ∀ i ∈ s.rows, ∀ f ∈ m.fields, read i f.fieldName = .ok (i.content f)) :
    Resolves m (s.bodyItems m read) (s.columns.findSome? (missing? m)) (s.bodyPieces m) := by
  cases hfault : s.columns.findSome? (missing? m) with
  | none =>
    have hs : ∀ c ∈ s.columns, (m.field? c).isSome := fun c hc =>
      missing?_eq_none.mp (List.findSome?_eq_none_iff.mp hfault c hc)
    exact resolveAll_body hs hread
  -- The columns stand before the rows, and their faults are found there.
  | some err =>
    have hne : s.columns.isEmpty = false := by
      cases hc : s.columns with
      | nil => simp [hc] at hfault
      | cons c cs => rfl
    have hcolumns : Resolves m (listed ((s.targets m).map fun t => [t.2]))
        (s.columns.findSome? (missing? m))
        ([Piece.text ","].intercalate (s.columns.map fun c => [.name (columnOf m c)])) := by
      simp only [targets, hne, Bool.false_eq_true, ↓reduceIte, List.map_map]
      exact .listed fun c _ => .column c
    have htable : Resolves m [.text "INSERT INTO ", .table, .text " ("] none
        [.text "INSERT INTO ", .name m.table, .text " ("] := rfl
    have hhead := (htable.append fun _ => hcolumns).append_text ") VALUES "
    rw [hfault] at hhead
    have hrows (is : List Item) : some err = none → Resolves m is none [] := nofun
    exact hhead.append (hrows _)

/-- **The template of an insertion has the faults of the insertion**, and else its pieces. -/
theorem resolves_items
    (hread : ∀ i ∈ s.rows, ∀ f ∈ m.fields, read i f.fieldName = .ok (i.content f)) :
    Resolves m (s.items d m read) (s.fault? d m)
      (s.bodyPieces m ++ (s.clausePieces d m ++ [.text ";"])) := by
  have htail : Resolves m (s.tailItems d) (s.upsert.bind fun u => u.fault? d m)
      (s.clausePieces d m ++ [.text ";"]) := by
    unfold tailItems clausePieces
    cases s.upsert with
    | none => rfl
    | some u => exact u.resolves_items.append_text ";"
  rw [items_eq_append]
  exact (resolves_bodyItems hread).append fun _ => htail

/-! ## The text of an insertion -/

/-- A row of `k` placeholders, after `bound` others. -/
def tuple (d : Dialect) (k bound : Nat) : List Char :=
  "(".toList ++
    ",".toList.intercalate ((List.range k).map fun j => (d.placeholder (bound + j + 1)).toList) ++
    ")".toList

/-- **Rows of placeholders**: `n` rows of `k`, numbered throughout. -/
def tuples (d : Dialect) (n k : Nat) : List Char :=
  ",".toList.intercalate ((List.range n).map fun i => tuple d k (i * k))

/-- The names of the fields of an insertion: those that are named, or all of them. -/
def fieldNames (e : Entity) (s : Insert) : List String :=
  if s.columns.isEmpty then e.fields.map FieldDecl.name else s.columns

/-- **The statement that is written for an insertion.** -/
structure Composed (d : Dialect) (e : Entity) (m : Model) (s : Insert) (q : Query) : Prop where
  /-- One list of columns, one row of placeholders for each instance, and the conflict clause. -/
  text : q.sql.toList = "INSERT INTO ".toList ++ (d.quote m.table).toList ++ " (".toList ++
    ",".toList.intercalate ((s.fieldNames e).map fun c => (d.quote (columnOf m c)).toList) ++
    ") VALUES ".toList ++ tuples d s.rows.length (s.fieldNames e).length ++
    renderFrom d (s.rows.length * (s.fieldNames e).length) (s.clausePieces d m) ++ ";".toList
  /-- What the fields hold, instance after instance, and then what the clause assigns. -/
  args : q.args.map some =
    (s.rows.flatMap fun i => (s.fieldNames e).map (e.read? i)) ++ s.assignedValues.map some

/-- Parts that bind `k` arguments each, with commas between them. -/
theorem renderFrom_parts (d : Dialect) {k : Nat} {textAfter : Nat → List Char}
    {pss : List (List Piece)} (h : ∀ ps ∈ pss, (ps.flatMap Piece.args).length = k ∧
      ∀ bound, renderFrom d bound ps = textAfter bound) (bound : Nat) :
    renderFrom d bound ([Piece.text ","].intercalate pss) =
      ",".toList.intercalate ((List.range pss.length).map fun n => textAfter (bound + n * k)) := by
  induction pss generalizing bound with
  | nil => rfl
  | cons ps pss ih =>
    obtain ⟨⟨hargs, htext⟩, hpss⟩ := List.forall_mem_cons.mp h
    cases pss with
    | nil => simp [htext]
    | cons qs pss =>
      have hrest := ih hpss (bound + k)
      -- Every part is counted from the one before it.
      have hnumber (n : Nat) : bound + (n + 1) * k = bound + k + n * k := by
        rw [Nat.succ_mul]
        omega
      rw [List.length_cons, List.range_succ_eq_map, List.map_cons, List.map_map,
        List.intercalate_cons_cons]
      rw [List.length_cons, List.range_succ_eq_map, List.map_cons, List.map_map] at hrest ⊢
      simp only [List.intercalate_cons_cons, Function.comp_def,
        Nat.succ_eq_add_one] at hrest ⊢
      simp [renderFrom_append, htext, hargs, hrest, renderFrom, Piece.chars, Piece.args, hnumber]

theorem renderFrom_rowPieces (d : Dialect) (fs : List Field) (i : Instance) (bound : Nat) :
    renderFrom d bound (rowPieces fs i) = tuple d fs.length bound := by
  have hvalue : ∀ ps ∈ fs.map (fun f => [Piece.arg (i.content f)]),
      (ps.flatMap Piece.args).length = 1 ∧
        ∀ bound, renderFrom d bound ps = (d.placeholder (bound + 1)).toList := by
    simp [Piece.args, renderFrom, Piece.chars]
  have hvalues := renderFrom_parts d hvalue bound
  simp only [List.length_map, Nat.mul_one] at hvalues
  simp [rowPieces, renderFrom_append, renderFrom, Piece.chars, Piece.args, hvalues, tuple]

/-- The fields of an insertion bear its names. -/
theorem selected_names (hm : m.Fits e) (hs : ∀ c ∈ s.columns, (m.field? c).isSome) :
    (s.selected m).map Field.fieldName = s.fieldNames e := by
  have htargets := (forall₂_targets hs).imp fun _ _ h => h.2.1
  have hnames : (s.targets m).map Prod.fst = s.fieldNames e := by
    unfold targets fieldNames
    split
    · rw [List.map_map, ← hm.names_eq]
      rfl
    · rw [List.map_map]
      exact List.map_id _
  have hsame : List.Forall₂ Eq ((s.targets m).map Prod.fst)
      ((s.selected m).map Field.fieldName) := by
    rwa [List.forall₂_map_left_iff, List.forall₂_map_right_iff]
  rw [List.forall₂_eq_eq_eq] at hsame
  rw [← hsame, hnames]

theorem args_clausePieces (d : Dialect) (m : Model) (s : Insert) :
    (s.clausePieces d m).flatMap Piece.args = s.assignedValues := by
  unfold clausePieces assignedValues
  cases s.upsert with
  | none => rfl
  | some u => exact u.args_pieces

/-- The columns of an insertion are those of its names. -/
theorem selected_columns (he : e.Derived) (hm : m.Fits e)
    (hs : ∀ c ∈ s.columns, (m.field? c).isSome) :
    (s.selected m).map Field.columnName = (s.fieldNames e).map (columnOf m) := by
  rw [← s.selected_names hm hs, List.map_map]
  refine List.map_congr_left fun f hf => ?_
  simp [columnOf, hm.field?_eq he (mem_selected hf).1]

/-- The rows of an insertion are rows of placeholders. -/
theorem renderFrom_rows (d : Dialect) (m : Model) (s : Insert) :
    renderFrom d 0 ([Piece.text ","].intercalate (s.rows.map (rowPieces (s.selected m)))) =
      tuples d s.rows.length (s.selected m).length := by
  have hrow : ∀ ps ∈ s.rows.map (rowPieces (s.selected m)),
      (ps.flatMap Piece.args).length = (s.selected m).length ∧
        ∀ bound, renderFrom d bound ps = tuple d (s.selected m).length bound := by
    intro ps hps
    obtain ⟨i, -, rfl⟩ := List.mem_map.mp hps
    refine ⟨?_, renderFrom_rowPieces d _ i⟩
    simp [rowPieces, args_intercalate, Piece.args, List.flatMap_map]
  rw [renderFrom_parts d hrow, List.length_map, tuples]
  simp only [Nat.zero_add]

/-- The text of an insertion up to the end of its rows. -/
theorem renderFrom_bodyPieces (d : Dialect) (m : Model) (s : Insert) :
    renderFrom d 0 (s.bodyPieces m) =
      s.header d m ++ tuples d s.rows.length (s.selected m).length := by
  rw [bodyPieces, renderFrom_append, renderFrom_headPieces, args_headPieces, List.length_nil,
    renderFrom_rows]

/-- **The text and the arguments of an insertion without fault.** -/
theorem composed_render (he : e.Derived) (hm : m.Fits e) (hholds : ∀ i ∈ s.rows, e.Holds i)
    (hs : ∀ c ∈ s.columns, (m.field? c).isSome) :
    s.Composed d e m (render d (s.bodyPieces m ++ (s.clausePieces d m ++ [.text ";"]))) := by
  have hnames := s.selected_names hm hs
  have hlength : (s.selected m).length = (s.fieldNames e).length := by
    rw [← hnames, List.length_map]
  constructor
  · have hbound : ((s.bodyPieces m).flatMap Piece.args).length =
        s.rows.length * (s.selected m).length := by
      simp [args_body]
    have hheader : s.header d m = "INSERT INTO ".toList ++ (d.quote m.table).toList ++
        " (".toList ++ ",".toList.intercalate
          ((s.fieldNames e).map fun c => (d.quote (columnOf m c)).toList) ++
        ") VALUES ".toList := by
      have hcolumns := congrArg (List.map fun c => (d.quote c).toList)
        (s.selected_columns he hm hs)
      rw [List.map_map, List.map_map] at hcolumns
      exact congrArg (fun cs => "INSERT INTO ".toList ++ (d.quote m.table).toList ++
        " (".toList ++ ",".toList.intercalate cs ++ ") VALUES ".toList) hcolumns
    have htext : renderFrom d 0 (s.bodyPieces m ++ (s.clausePieces d m ++ [.text ";"])) =
        s.header d m ++ tuples d s.rows.length (s.fieldNames e).length ++
          renderFrom d (s.rows.length * (s.fieldNames e).length) (s.clausePieces d m) ++
          ";".toList := by
      rw [renderFrom_append, renderFrom_append, renderFrom_bodyPieces, hbound, hlength]
      simp [renderFrom, Piece.chars]
    rw [← hheader, ← htext]
    exact String.toList_ofList
  · have hrow : ∀ i ∈ s.rows, ((s.selected m).map i.content).map some =
        (s.fieldNames e).map (e.read? i) := by
      intro i hi
      rw [← hnames, List.map_map, List.map_map]
      refine List.map_congr_left fun f hf => ?_
      have hf' := (mem_selected hf).1
      exact (((hholds i hi).content_of_mem hm hf').1.symm.trans (he.read?_eq hm hf' i).symm)
    have hcells : (s.rows.flatMap fun i => (s.selected m).map i.content).map some =
        s.rows.flatMap fun i => (s.fieldNames e).map (e.read? i) := by
      rw [List.map_flatMap]
      exact List.flatMap_congr hrow
    simp [args_body, args_clausePieces, Piece.args, hcells]

end Insert

end EntityMapper.Sql

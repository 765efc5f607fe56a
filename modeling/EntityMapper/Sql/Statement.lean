import EntityMapper.Sql.QueryType
import EntityMapper.Sql.Template

/-!
# Statements

The four kinds of statement about an entity, and statements written by hand; what each is made
of, the calls that add to it, and its compilation to text and arguments.

## Main definitions

* `Select`, `Update`, `Delete`, `Insert`, `Upsert`: the statements, with their calls
* `Statement`: a statement of any kind
* `Statement.refusal?`: a fault that shows before the entity's model is known
* `Statement.template`, `Statement.compile`: a statement in a model and a dialect
-/

namespace EntityMapper.Sql

open EntityMapper.Text

/-! ## Reading rows -/

/-- **A statement that reads rows.** -/
structure Select where
  table : Option String
  columns : List Selectable
  wheres : List Predicate
  groupBy : List Column
  having : List Predicate
  orderBy : List Ordering
  limit : Option (BoundedInt .i64)
  offset : Option (BoundedInt .i64)
  deriving DecidableEq

namespace Select

/-- Everything from the entity's table. -/
def all : Select := ⟨none, [], [], [], [], [], none, none⟩

/-- Another projection. -/
def project (s : Select) (columns : List Selectable) : Select := { s with columns := columns }

/-- Reads another table. -/
def fromTable (s : Select) (table : String) : Select := { s with table := some table }

/-- One more condition on the rows. -/
def filter (s : Select) (p : Predicate) : Select := { s with wheres := s.wheres ++ [p] }

/-- More columns to group by. -/
def group (s : Select) (columns : List Column) : Select :=
  { s with groupBy := s.groupBy ++ columns }

/-- One more condition on the groups. -/
def filterGroups (s : Select) (p : Predicate) : Select := { s with having := s.having ++ [p] }

/-- More fields to order by. -/
def order (s : Select) (orderings : List Ordering) : Select :=
  { s with orderBy := s.orderBy ++ orderings }

/-- At most so many rows. -/
def atMost (s : Select) (n : BoundedInt .i64) : Select := { s with limit := some n }

/-- Without the first so many rows. -/
def skip (s : Select) (n : BoundedInt .i64) : Select := { s with offset := some n }

/-- A bound on the rows, as an argument. -/
def boundItems (keyword : String) : Option (BoundedInt .i64) → List Item
  | none => []
  | some n => [.text keyword, .arg (.int .i64 n)]

/-- A field that rows are ordered by. -/
def orderingItems (o : Ordering) : List Item :=
  [.column o.column, .text (if o.descending then " DESC" else " ASC")]

/-- **The template of a statement that reads rows.** -/
def items (s : Select) : List Item :=
  .text "SELECT " :: projectionItems s.columns ++ [.text " FROM ", tableItem s.table] ++
    whereItems s.wheres ++
    clauseItems " GROUP BY " (s.groupBy.map fun c => [.column c.name]) ++
    havingItems s.having ++
    clauseItems " ORDER BY " (s.orderBy.map orderingItems) ++
    boundItems " LIMIT " s.limit ++
    boundItems " OFFSET " s.offset ++ [.text ";"]

end Select

/-! ## Changing rows -/

/-- **A statement that changes rows.** -/
structure Update where
  table : Option String
  assignments : List Assignable
  wheres : List Predicate
  deriving DecidableEq

namespace Update

/-- No change to the entity's table yet. -/
def start : Update := ⟨none, [], []⟩

/-- Changes another table. -/
def fromTable (u : Update) (table : String) : Update := { u with table := some table }

/-- More assignments. -/
def set (u : Update) (assignments : List Assignable) : Update :=
  { u with assignments := u.assignments ++ assignments }

/-- One more condition on the rows. -/
def filter (u : Update) (p : Predicate) : Update := { u with wheres := u.wheres ++ [p] }

/-- An assignment of an update. There is no incoming value that a bare column could take. -/
def assignmentItems : Assignable → List Item
  | .assignment c v => [.column c, .text " = ", .arg v]
  | .fragment r => [.fragment r]
  | .column c =>
    [.refusal (.unsupportedAssignableType ("bare column " ++ quoted c.name ++ " in UPDATE SET"))]

/-- **The template of a statement that changes rows.** -/
def items (u : Update) : List Item :=
  [.text "UPDATE ", tableItem u.table, .text " SET "] ++
    listed (u.assignments.map assignmentItems) ++ whereItems u.wheres ++ [.text ";"]

end Update

/-! ## Deleting rows -/

/-- **A statement that deletes rows.** -/
structure Delete where
  table : Option String
  wheres : List Predicate
  deriving DecidableEq

namespace Delete

/-- All rows of the entity's table. -/
def all : Delete := ⟨none, []⟩

/-- Deletes from another table. -/
def fromTable (s : Delete) (table : String) : Delete := { s with table := some table }

/-- One more condition on the rows. -/
def filter (s : Delete) (p : Predicate) : Delete := { s with wheres := s.wheres ++ [p] }

/-- **The template of a statement that deletes rows.** -/
def items (s : Delete) : List Item :=
  [.text "DELETE FROM ", tableItem s.table] ++ whereItems s.wheres ++ [.text ";"]

end Delete

/-! ## Inserting rows -/

/-- What to do about rows that are there already: the fields that tell them apart, and the
assignments to make. -/
structure Upsert where
  conflictFields : List String
  assignments : List Assignable
  deriving DecidableEq

namespace Upsert

/-- An assignment of a conflict clause; `incoming` is how the value that was to be inserted is
written. A fragment has no place here. -/
def assignmentItems (d : Dialect) (incoming : String → List Item) : Assignable → List Item
  | .assignment c v => [.column c, .text "=", .arg v]
  | .column c => [.column c.name, .text "="] ++ incoming c.name
  | .fragment r =>
    [.refusal (.unsupportedAssignable
      ("raw expression " ++ quoted r.text ++ " in " ++ d.label ++ " upsert"))]

/-- The assignments of a conflict clause. -/
def assignmentList (u : Upsert) (d : Dialect) (incoming : String → List Item) : List Item :=
  listed (u.assignments.map (assignmentItems d incoming))

/-- **The template of a conflict clause.** One dialect resolves every conflict alike and takes no
conflict fields. -/
def items (u : Upsert) (d : Dialect) : List Item :=
  if u.assignments.isEmpty then [.refusal .noUpdatedColumns]
  else match d with
    | .mysql =>
      .text " ON DUPLICATE KEY UPDATE " ::
        u.assignmentList d fun c => [.text "VALUES(", .column c, .text ")"]
    | .sqlite | .postgres =>
      -- Of two faults the missing assignments come first, in every dialect.
      if u.conflictFields.isEmpty then [.refusal .noConflictColumns]
      else
        [.text " ON CONFLICT ("] ++ listed (u.conflictFields.map fun c => [.column c]) ++
          [.text ") DO UPDATE SET "] ++
          u.assignmentList d fun c => [.text "EXCLUDED.", .column c]

end Upsert

/-- **A statement that inserts rows.** -/
structure Insert where
  rows : List Instance
  columns : List String
  upsert : Option Upsert
  deriving DecidableEq

namespace Insert

/-- No rows yet. -/
def start : Insert := ⟨[], [], none⟩

/-- More rows. -/
def values (s : Insert) (rows : List Instance) : Insert := { s with rows := s.rows ++ rows }

/-- Inserts these fields only; with no field named, all of them. -/
def only (s : Insert) (columns : List String) : Insert := { s with columns := columns }

/-- Updates the rows that are there already. -/
def onConflict (s : Insert) (u : Upsert) : Insert := { s with upsert := some u }

/-- The fields of the statement, each with its column. -/
def targets (m : Model) (s : Insert) : List (String × Item) :=
  if s.columns.isEmpty then m.fields.map fun f => (f.fieldName, .name f.columnName)
  else s.columns.map fun c => (c, .column c)

/-- A value of an inserted row. -/
def valueItem : Except Error Value → Item
  | .ok v => .arg v
  | .error e => .refusal e

/-- **The template of a statement that inserts rows**; `read i f` is the value of the field `f` of
the instance `i`. -/
def items (d : Dialect) (m : Model) (read : Instance → String → Except Error Value)
    (s : Insert) : List Item :=
  let targets := s.targets m
  [.text "INSERT INTO ", .table, .text " ("] ++ listed (targets.map fun t => [t.2]) ++
    [.text ") VALUES "] ++
    listed (s.rows.map fun i =>
      [.text "("] ++ listed (targets.map fun t => [valueItem (read i t.1)]) ++ [.text ")"]) ++
    -- The clause comes after all rows, and so do its arguments.
    (match s.upsert with
      | some u => u.items d
      | none => []) ++ [.text ";"]

end Insert

/-! ## Statements of any kind -/

/-- **A statement** about an entity, or one written by hand. -/
inductive Statement where
  | select (s : Select)
  | insert (s : Insert)
  | update (s : Update)
  | delete (s : Delete)
  | handwritten (q : Query)
  deriving DecidableEq

namespace Statement

/-- What a statement does. -/
def queryType : Statement → QueryType
  | select _ => .select
  | insert _ => .insert
  | update _ => .update
  | delete _ => .delete
  | handwritten q => QueryType.ofSql q.sql

/-- **A fault that shows before the entity's model is known**: nothing to insert or to change. -/
def refusal? : Statement → Option Error
  | insert s => if s.rows.isEmpty then some .insertZeroRow else none
  | update u => if u.assignments.isEmpty then some .noUpdatedColumns else none
  | _ => none

/-- The template of a statement in a model. -/
def template (d : Dialect) (m : Model) (read : Instance → String → Except Error Value) :
    Statement → List Item
  | select s => s.items
  | insert s => s.items d m read
  | update u => u.items
  | delete s => s.items
  | handwritten q => [.text q.sql]

/-- **The text and the arguments of a statement** in a model and a dialect. A statement written by
hand stays as it is. -/
def compile (d : Dialect) (m : Model) (read : Instance → String → Except Error Value) :
    Statement → Except Error Query
  | handwritten q => .ok q
  | s => do
    let ps ← resolveAll m (s.template d m read)
    .ok (render d ps)

end Statement

end EntityMapper.Sql

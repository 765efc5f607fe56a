import EntityMapper.Error
import EntityMapper.Model.Basic
import EntityMapper.Sql.Piece

/-!
# Statement templates

A statement is written first as a template, in which columns are still the fields of the entity
and the table is not yet known. Resolving the template by a model goes through its items from the
left; the first item that the model has no answer to decides the error.

## Main definitions

* `Item`, `Item.resolve m i`: the items of a template, and the piece that each becomes
* `resolveAll m is`: a template in the model
* `listed`: items separated by commas
* `Selectable.items`, `Predicate.items`, `whereItems`: expressions as templates
-/

namespace EntityMapper.Sql

/-! ## Items -/

/-- **An item of a template.** A refusal is an item that no model resolves. -/
inductive Item where
  | text (s : String)
  | table
  | column (field : String)
  | name (s : String)
  | arg (v : Value)
  | fragment (r : Fragment)
  | refusal (e : Error)
  deriving DecidableEq

/-- **The piece that an item becomes in a model.** -/
def Item.resolve (m : Model) : Item → Except Error Piece
  | text s => .ok (.text s)
  | table => .ok (.name m.table)
  | column c =>
    match m.field? c with
    | some f => .ok (.name f.columnName)
    | none => .error (.unknownField c)
  | name s => .ok (.name s)
  | arg v => .ok (.arg v)
  | fragment r => .ok (.fragment r)
  | refusal e => .error e

/-- **A template in a model**: the pieces of its items, or the error of the first that fails. -/
def resolveAll (m : Model) : List Item → Except Error (List Piece)
  | [] => .ok []
  | i :: is => do
    let p ← i.resolve m
    let ps ← resolveAll m is
    .ok (p :: ps)

/-- Items with commas between them. -/
def listed (parts : List (List Item)) : List Item := [Item.text ","].intercalate parts

/-! ## Expressions -/

/-- Where in a statement a condition stands. -/
inductive Clause where
  | filter
  | having
  deriving DecidableEq, Repr

/-- An aggregate, as in projections. -/
def Aggregate.items (a : Aggregate) : List Item :=
  [.text (a.function.word ++ "("), .column a.column, .text ")"]

/-- The label of a projected item. -/
def labelItems : Option String → List Item
  | some s => [.text " AS ", .name s]
  | none => []

/-- A projected item. -/
def Selectable.items : Selectable → List Item
  | .column c => .column c.name :: labelItems c.label
  | .aggregate a => a.items ++ labelItems a.label
  | .fragment r => [.fragment r]

/-- A projection; the empty one is everything. -/
def projectionItems : List Selectable → List Item
  | [] => [.text "*"]
  | ss => listed (ss.map Selectable.items)

/-- The subject of a comparison. Rows are filtered before they are grouped, so that an aggregate
has no value there. -/
def Subject.items (clause : Clause) : Subject → List Item
  | .column c => [.column c.name]
  | .fragment r => [.fragment r]
  | .aggregate a =>
    match clause with
    | .having => a.items
    | .filter =>
      [.refusal (.unsupportedExpression
        ("aggregate " ++ a.function.word ++ "(" ++ a.column ++ ") in Where"))]

/-- The other side of a comparison. -/
def Operand.items (clause : Clause) : Operand → List Item
  | .subject s => s.items clause
  | .value v => [.arg v]

/-- **A condition.** Nested conditions, and nothing else, stand in parentheses. -/
def Predicate.items (clause : Clause) : Predicate → List Item
  | compare l op r =>
    l.items clause ++ [.text (" " ++ op.sign ++ " ")] ++ r.items clause
  | compareTruth l op r =>
    l.items clause ++ [.text (" " ++ op.sign ++ " "), .text "("] ++ r.items clause ++ [.text ")"]
  | both l r =>
    [.text "("] ++ l.items clause ++ [.text ")", .text " AND ", .text "("] ++ r.items clause ++
      [.text ")"]
  | either l r =>
    [.text "("] ++ l.items clause ++ [.text ")", .text " OR ", .text "("] ++ r.items clause ++
      [.text ")"]
  | negation p => [.text " NOT ", .text "("] ++ p.items clause ++ [.text ")"]
  | fragment r => [.fragment r]

/-- A clause of conditions that all have to hold; no clause without conditions. -/
def conditionItems (keyword : String) (clause : Clause) (ps : List Predicate) : List Item :=
  match Predicate.all? ps with
  | none => []
  | some p => .text keyword :: p.items clause

/-- The conditions on the rows of a statement. -/
def whereItems (ps : List Predicate) : List Item := conditionItems " WHERE " .filter ps

/-- The conditions on the groups of a statement. -/
def havingItems (ps : List Predicate) : List Item := conditionItems " HAVING " .having ps

/-- The table of a statement: another one takes the place of the model's, written as it is. -/
def tableItem : Option String → Item
  | some s => .text s
  | none => .table

/-- What is written before and after items, unless there are none of them. -/
def clauseItems (keyword : String) : List (List Item) → List Item
  | [] => []
  | parts => .text keyword :: listed parts

end EntityMapper.Sql

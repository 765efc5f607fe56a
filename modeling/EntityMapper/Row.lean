import EntityMapper.Error
import EntityMapper.Value.Conversion

/-!
# Result rows

A row of a result: the names of its columns and one value for each. Names may repeat, and a name
stands for its first column.

## Main definitions

* `Row`, `Row.make`: rows, and the check that names and values are equally many
* `Row.get? r c`, `Row.tryGet r c t`: the value of a column, as it is and as a given type
* `ExecResult`: what a statement without rows answers
-/

namespace EntityMapper

open EntityMapper.Text

/-- **A result row.** -/
structure Row where
  columns : List String
  values : List Value
  length_eq : columns.length = values.length

namespace Row

/-- A row of the given columns and values, which have to be equally many. -/
def make (columns : List String) (values : List Value) : Except Error Row :=
  if h : columns.length = values.length then .ok ⟨columns, values, h⟩
  else .error (.other ("row has " ++ naturalText columns.length ++ " columns but " ++
    naturalText values.length ++ " values"))

/-- The columns with their values, in order. -/
def cells (r : Row) : List (String × Value) := r.columns.zip r.values

/-- The value of the first column of a name. -/
def get? (r : Row) (column : String) : Option Value := r.cells.lookup column

/-- The value of the first column of a name, in the form that belongs to a type. -/
def tryGet (r : Row) (column : String) (t : ValueType) : Except Error Value :=
  match r.get? column with
  | none => .error (.unknownColumn column)
  | some v => (t.store v).mapError fun e => .decode column e.message

end Row

/-- What a statement without rows answers: how many rows it changed, and the identifier that the
last inserted row was given, if the driver tells. -/
structure ExecResult where
  rowsAffected : Nat
  lastInsertId : Option Int
  deriving DecidableEq, Repr

namespace ExecResult

/-- The diagnostic text of an answer. -/
def diagnostic (r : ExecResult) : String :=
  "ExecResult \x7b rows_affected: " ++ naturalText r.rowsAffected ++ ", last_insert_id: " ++
    (match r.lastInsertId with
      | some n => "Some(" ++ integerText n ++ ")"
      | none => "None") ++ " \x7d"

end ExecResult

end EntityMapper

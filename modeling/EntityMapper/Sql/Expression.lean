import EntityMapper.Value.Basic

/-!
# Expressions

What statements are made of: columns, named by the fields of an entity, aggregates over them,
literal values, conditions, and fragments of SQL written by hand.

## Main definitions

* `Column`, `Fragment`, `Aggregate`: the leaves
* `Subject`, `Operand`: the two sides of a comparison
* `Predicate`: conditions; `Predicate.all?` joins a list of them
* `Selectable`, `Assignable`, `Ordering`: the items of projections, assignments and orders
-/

namespace EntityMapper.Sql

/-- A column, given by the name of its field; a label counts only in a projection. -/
structure Column where
  name : String
  label : Option String
  deriving DecidableEq, Repr

/-- **A fragment of SQL written by hand**, with the arguments for the places it marks. -/
structure Fragment where
  text : String
  args : List Value
  deriving DecidableEq

/-- The aggregate functions. -/
inductive AggregateFunction where
  | avg | sum | count | max | min
  deriving DecidableEq, Repr

/-- The name of a function in SQL. -/
def AggregateFunction.word : AggregateFunction → String
  | avg => "AVG"
  | sum => "SUM"
  | count => "COUNT"
  | max => "MAX"
  | min => "MIN"

/-- An aggregate over a field; a label counts only in a projection. -/
structure Aggregate where
  function : AggregateFunction
  column : String
  label : Option String
  deriving DecidableEq, Repr

/-- The comparisons. -/
inductive Comparison where
  | eq | ne | lt | le | gt | ge
  deriving DecidableEq, Repr

/-- The sign of a comparison in SQL. -/
def Comparison.sign : Comparison → String
  | eq => "="
  | ne => "!="
  | lt => "<"
  | le => "<="
  | gt => ">"
  | ge => ">="

/-- What a comparison is about. -/
inductive Subject where
  | column (c : Column)
  | aggregate (a : Aggregate)
  | fragment (r : Fragment)
  deriving DecidableEq

/-- What a subject is compared with. -/
inductive Operand where
  | subject (s : Subject)
  | value (v : Value)
  deriving DecidableEq

/-- **A condition.** A comparison may also be with the truth of another condition. -/
inductive Predicate where
  | compare (left : Subject) (op : Comparison) (right : Operand)
  | compareTruth (left : Subject) (op : Comparison) (right : Predicate)
  | both (left right : Predicate)
  | either (left right : Predicate)
  | negation (p : Predicate)
  | fragment (r : Fragment)
  deriving DecidableEq

/-- The conditions of a list joined from the left; no condition for the empty list. -/
def Predicate.all? : List Predicate → Option Predicate
  | [] => none
  | p :: ps => some (ps.foldl Predicate.both p)

/-- An item of a projection. -/
inductive Selectable where
  | column (c : Column)
  | aggregate (a : Aggregate)
  | fragment (r : Fragment)
  deriving DecidableEq

/-- An item of an assignment list: a field with its new value, a field that takes over the value
that was to be inserted, or a fragment. -/
inductive Assignable where
  | assignment (column : String) (value : Value)
  | column (c : Column)
  | fragment (r : Fragment)
  deriving DecidableEq

/-- A field that rows are ordered by. -/
structure Ordering where
  column : String
  descending : Bool
  deriving DecidableEq, Repr

end EntityMapper.Sql

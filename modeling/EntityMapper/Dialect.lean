import EntityMapper.Text.Integer

/-!
# Dialects

The three dialects of SQL that statements are written in, as far as they differ in quoting names
and in marking the places of arguments.

## Main definitions

* `Dialect`: the dialects
* `Dialect.quoteChar`, `Dialect.quote`: names in quotes
* `Dialect.placeholder d k`: the mark for the argument number `k`, counted from 1
-/

namespace EntityMapper

open EntityMapper.Text

/-- **The dialects of SQL.** -/
inductive Dialect where
  | mysql
  | sqlite
  | postgres
  deriving DecidableEq, Repr

namespace Dialect

/-- The dialect that is used unless another one is chosen. -/
def standard : Dialect := mysql

/-- The word for the dialect. -/
def label : Dialect → String
  | mysql => "MySql"
  | sqlite => "Sqlite"
  | postgres => "Postgres"

/-- The character around a name. -/
def quoteChar : Dialect → Char
  | mysql | sqlite => '\x60'
  | postgres => '"'

/-- **The mark for an argument.** Only one dialect numbers its arguments. -/
def placeholder : Dialect → Nat → String
  | mysql, _ | sqlite, _ => "?"
  | postgres, k => "$" ++ naturalText k

/-- **A name in quotes**; the characters of the name are not changed. -/
def quote (d : Dialect) (name : String) : String :=
  String.ofList (d.quoteChar :: name.toList ++ [d.quoteChar])

end Dialect

end EntityMapper

import EntityMapper.Error
import EntityMapper.Sql.Piece
import EntityMapper.Sql.QueryType

/-!
# Traces

What the library reports about its own work, apart from its results.

## Main definitions

* `TraceLevel`: how much a report matters
* `Notice`: the reports
* `Notice.level`, `Notice.target`, `Notice.fields`: a report in the form in which it is kept
-/

namespace EntityMapper

open EntityMapper.Text

/-- How much a report matters. -/
inductive TraceLevel where
  | error | warn | info | debug | trace
  deriving DecidableEq, Repr

namespace TraceLevel

/-- The word for a level in traces. -/
def label : TraceLevel → String
  | error => "ERROR"
  | warn => "WARN"
  | info => "INFO"
  | debug => "DEBUG"
  | trace => "TRACE"

/-- The word for a level in diagnostics. -/
def diagnostic : TraceLevel → String
  | error => "Level(Error)"
  | warn => "Level(Warn)"
  | info => "Level(Info)"
  | debug => "Level(Debug)"
  | trace => "Level(Trace)"

end TraceLevel

/-- Whether a statement answers with rows. -/
inductive StatementMode where
  | query
  | exec
  deriving DecidableEq, Repr

/-- **The reports.** -/
inductive Notice where
  /-- An entity got a model. -/
  | registered (entity table : String) (fields : Nat)
  /-- The two ways of reading a field disagree. -/
  | layoutDisagrees (entity field : String)
  /-- A statement goes to a driver. -/
  | statement (mode : StatementMode) (inTransaction : Bool) (q : Sql.Query)
  /-- A statement is logged before it runs; its text may be cut. -/
  | logged (level : TraceLevel) (kind : Sql.QueryType) (table sql : String) (args : List Value)
  | rollbackFailed (e : Error)
  /-- A transaction was abandoned while it was open. -/
  | abandoned
  | abandonedRollbackFailed (fault : String)
  /-- A transaction was abandoned where nothing can run any more. -/
  | abandonedOutside

namespace Notice

/-- How much a report matters. -/
def level : Notice → TraceLevel
  | registered .. | statement .. | abandoned => .debug
  | layoutDisagrees .. | rollbackFailed _ | abandonedRollbackFailed _ | abandonedOutside => .warn
  | logged l .. => l

/-- Which part of the library reports. -/
def target : Notice → String
  | statement .. | logged .. => "microrm.sql"
  | _ => "microrm"

/-- The contents of a report, by name. -/
def fields : Notice → List (String × String)
  | registered e t n =>
    [("message", "registered model"), ("entity", e), ("table", t), ("fields", naturalText n)]
  | layoutDisagrees e f =>
    [("message", "raw-memory accessor disagrees with reflective accessor"), ("entity", e),
      ("field", f)]
  | statement mode inTransaction q =>
    let word := match mode with
      | .query => "query"
      | .exec => "exec"
    [("message", if inTransaction then "tx " ++ word else word), ("sql", q.sql),
      ("params", naturalText q.args.length)]
  | logged _ kind table sql args =>
    [("query_type", kind.word), ("table", table), ("param_count", naturalText args.length),
      ("sql", sql), ("args", Value.diagnosticList args)]
  | rollbackFailed e => [("message", "transaction rollback failed"), ("error", e.message)]
  | abandoned => [("message", "open transaction dropped, rolling back")]
  | abandonedRollbackFailed s =>
    [("message", "rollback of dropped transaction failed"), ("error", s)]
  | abandonedOutside =>
    [("message", "transaction dropped outside a tokio runtime; not rolled back")]

end Notice

end EntityMapper

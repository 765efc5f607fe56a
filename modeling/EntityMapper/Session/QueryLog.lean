import EntityMapper.Session.Pipeline
import EntityMapper.Text.Boundary
import EntityMapper.Trace

/-!
# Logging statements

A middleware that logs every statement before it runs: as a notice, in which long statements are
cut, or through a callback, which gets the whole statement.

## Main definitions

* `QueryLog`: the settings
* `QueryLog.shownSql`: the text of a statement as it is logged
* `QueryLog.middleware`: the middleware
-/

namespace EntityMapper

open EntityMapper.Text

/-- **The settings of a log**: the level of its notices, after how many bytes statements are cut,
and whether there is a callback. -/
structure QueryLog where
  level : TraceLevel
  maxLength : Option Nat
  hasCallback : Bool
  deriving DecidableEq, Repr

namespace QueryLog

/-- Notices for debugging, with statements cut after 200 bytes. -/
def standard : QueryLog := ⟨.debug, some 200, false⟩

/-- The diagnostic text of the settings. -/
def diagnostic (l : QueryLog) : String :=
  "QueryLog \x7b level: " ++ l.level.diagnostic ++ ", max_sql_length: " ++
    (match l.maxLength with
      | some n => "Some(" ++ naturalText n ++ ")"
      | none => "None") ++ ", log_fn: " ++ (if l.hasCallback then "true" else "false") ++ " \x7d"

/-- **The text of a statement as it is logged**: three dots stand for what was cut. -/
def shownSql (l : QueryLog) (sql : String) : String :=
  match l.maxLength with
  | some limit =>
    if limit < utf8Length sql.toList then cutText limit sql ++ "..." else sql
  | none => sql

/-- The notice about a statement. -/
def notice (l : QueryLog) (kind : Sql.QueryType) (table : String) (q : Sql.Query) : Notice :=
  .logged l.level kind table (l.shownSql q.sql) q.args

/-- **The middleware.** A statement that does not compile goes no further. -/
def middleware {m : Type → Type} [Monad m] (l : QueryLog) (report : Notice → m Unit)
    (callback : Sql.Query → m Unit) : Middleware m := fun next call => do
  match ← call.query with
  | .error e => pure (.error e)
  | .ok q =>
    -- A callback takes the place of the notice, and gets the statement uncut.
    if l.hasCallback then callback q
    else report (l.notice call.queryType call.model.table q)
    next call

end QueryLog

end EntityMapper

import EntityMapper.Driver.Basic

/-!
# The scripted driver

A driver without a database: it answers every statement with the next entry of a script, whether
inside or outside a transaction, and keeps what it was sent.

## Main definitions

* `Scripted.Entry`: the entries of a script
* `Scripted.State`: the rest of the script, the statements received, and the faults to show
* `Scripted.driver`: the driver
-/

namespace EntityMapper.Scripted

open EntityMapper.Text

/-- **An entry of a script.** -/
inductive Entry where
  | rows (columns : List String) (rows : List (List Value))
  | exec (r : ExecResult)
  | fault (message : String)
  deriving DecidableEq

/-- The diagnostic text of an entry. -/
def Entry.diagnostic : Entry → String
  | rows columns rs =>
    "Rows \x7b columns: " ++ Value.listText (columns.map quoted) ++ ", rows: " ++
      Value.listText (rs.map Value.diagnosticList) ++ " \x7d"
  | exec r => "Exec(" ++ r.diagnostic ++ ")"
  | fault m => "Error(" ++ quoted m ++ ")"

/-- The faults that a driver is told to show, and how long it takes for a statement. -/
structure Faults where
  atBegin : Option String
  atCommit : Option String
  atRollback : Option String
  delay : Duration
  deriving DecidableEq

/-- A driver that shows no faults. -/
def Faults.none : Faults := ⟨.none, .none, .none, ⟨0⟩⟩

/-- **The state of a scripted driver.** -/
structure State where
  script : List Entry
  statements : List Sql.Query
  faults : Faults
  deriving DecidableEq

/-- The state at first. -/
def State.start (script : List Entry) (faults : Faults) : State := ⟨script, [], faults⟩

/-- The state after receiving a statement: it is kept, and takes an entry of the script. -/
def State.receive (s : State) (q : Sql.Query) : State :=
  { s with script := s.script.tail, statements := s.statements ++ [q] }

/-- The entry that a statement takes, or why there is none. -/
def State.entry (s : State) (q : Sql.Query) : Except Error Entry :=
  match s.script with
  -- A fault is shown to either kind of statement.
  | .fault m :: _ => .error (.driver m)
  | e :: _ => .ok e
  | [] => .error (.driver ("unexpected statement: " ++ q.sql))

/-- An entry as the answer to a query. -/
def Entry.asRows (q : Sql.Query) : Entry → Except Error (List Row)
  | .rows columns rs => rs.mapM (Row.make columns)
  | e => .error (.driver ("expected a query, got " ++ e.diagnostic ++ " for " ++ q.sql))

/-- An entry as the answer to a statement without rows. -/
def Entry.asExec (q : Sql.Query) : Entry → Except Error ExecResult
  | .exec r => .ok r
  | e => .error (.driver ("expected an exec, got " ++ e.diagnostic ++ " for " ++ q.sql))

/-- A statement, answered by the next entry. -/
def State.statement {α : Type} (read : Entry → Except Error α) (q : Sql.Query) (s : State) :
    Turn State (Reply α) :=
  ⟨.answered s.faults.delay (s.entry q >>= read), [q.sql], s.receive q⟩

/-- A step of a transaction, which fails with the given fault if there is one. Only statements take
time. -/
def State.transactionStep (s : State) (event : String) (fault : Option String) :
    Turn State (Reply Unit) :=
  ⟨.answered ⟨0⟩ (match fault with
    | some m => .error (.driver m)
    | none => .ok ()), [event], s⟩

/-- **The scripted driver.** -/
def driver : Driver State where
  query _ q s := s.statement (Entry.asRows q) q
  execute _ q s := s.statement (Entry.asExec q) q
  beginTransaction options s := s.transactionStep options.beginSql s.faults.atBegin
  forgo s := s
  commit s := s.transactionStep "COMMIT" s.faults.atCommit
  rollback s := s.transactionStep "ROLLBACK" s.faults.atRollback
  abandon _ s :=
    ⟨match s.faults.atRollback with
      | some m => [.abandonedRollbackFailed (Error.driver m).message]
      | none => [], ["ROLLBACK"], s⟩

end EntityMapper.Scripted

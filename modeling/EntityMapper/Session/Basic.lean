import EntityMapper.Model.Accessor
import EntityMapper.Run.Access
import EntityMapper.Session.Pipeline

/-!
# Sessions

A session is what statements are run in: a database, or a transaction on it. Both have the
settings of the database, and a statement that takes longer than they allow is given up.

## Main definitions

* `Settings`, `Database σ`: a database with its settings and middlewares
* `Session σ`: a database or a transaction on it
* `withTimeout`: a program with the time that a statement may take
* `Session.queryRows`, `Session.execQuery`: running a compiled statement
-/

namespace EntityMapper

open EntityMapper.Text

/-! ## Databases -/

/-- **The settings of a database**: its dialect, how instances are reached, how many middlewares
there are, how long a statement may take, and the registry of its models. -/
structure Settings where
  dialect : Dialect
  accessor : AccessorKind
  middlewareCount : Nat
  timeout : Option Duration
  registry : Nat
  deriving DecidableEq, Repr

namespace Settings

/-- The settings as the diagnostic text of a structure of the given name. -/
def diagnosticAs (name : String) (s : Settings) : String :=
  name ++ " \x7b dialect: " ++ s.dialect.label ++ ", accessor: " ++ s.accessor.label ++
    ", middlewares: " ++ naturalText s.middlewareCount ++ ", query_timeout: " ++
    (match s.timeout with
      | some d => "Some(" ++ d.text ++ ")"
      | none => "None") ++ " \x7d"

/-- The diagnostic text of the settings. -/
def diagnostic (s : Settings) : String := s.diagnosticAs "Core"

/-- The diagnostic text of a database with the settings. -/
def databaseDiagnostic (s : Settings) : String := "Db \x7b core: " ++ s.diagnostic ++ " \x7d"

/-- The diagnostic text of a transaction under the settings. -/
def transactionDiagnostic (s : Settings) (done : Bool) : String :=
  "Tx \x7b core: " ++ s.diagnostic ++ ", done: " ++ (if done then "true" else "false") ++ " \x7d"

end Settings

variable {σ α : Type}

/-- **A database**: its settings, and the middlewares around its operations. -/
structure Database (σ : Type) where
  settings : Settings
  middlewares : List (Middleware (Run σ))

/-! ## Sessions -/

/-- **A session**: the number of a database, with the transaction on it if there is one. -/
structure Session (σ : Type) where
  index : Nat
  transaction : Option Nat
  database : Database σ

/-- The session outside of transactions. -/
def Session.plain (index : Nat) (d : Database σ) : Session σ := ⟨index, none, d⟩

/-- A transaction as a session. It belongs to the database that it was begun on. -/
def Session.ofTransaction (databases : Nat → Database σ) (id : Nat) : Run σ (Session σ) := do
  let h ← handleOf id
  pure ⟨h.database, some id, databases h.database⟩

/-- **A program with the time that a statement may take**; after that the statement is given up,
which is an error. -/
def withTimeout (limit : Option Duration) (x : Run σ (Except Error α)) :
    Run σ (Except Error α) := do
  match limit with
  | none => x
  | some d =>
    -- The time runs from here on, and covers waiting for the lock as well.
    match ← withDeadline ((← get).now + d.ticks) x with
    | some result => pure result
    | none => pure (.error (.timeout d))

namespace Session

/-- A step of the driver that answers a statement. In a transaction it needs the lock, and the
transaction has to be open. -/
def send (s : Session σ) (step : Bool → Driver σ → σ → Turn σ (Reply α)) :
    Run σ (Except Error α) := do
  match s.transaction with
  | none => await (← call s.index (step false))
  | some id =>
    -- The lock is kept over the answer, so that nobody ends the transaction meanwhile.
    holdingLock id do
      match (← handleOf id).requireOpen with
      | .error e => pure (.error e)
      | .ok () => await (← call s.index (step true))

/-- A compiled statement, with a notice, in the time that it may take. -/
def statement (s : Session σ) (mode : StatementMode) (q : Sql.Query)
    (step : Bool → Driver σ → σ → Turn σ (Reply α)) : Run σ (Except Error α) := do
  report (.statement mode s.transaction.isSome q)
  withTimeout s.database.settings.timeout (s.send step)

/-- **Running a compiled statement that answers with rows.** -/
def queryRows (s : Session σ) (q : Sql.Query) : Run σ (Except Error (List Row)) :=
  s.statement .query q fun inTransaction driver => driver.query inTransaction q

/-- **Running a compiled statement without rows.** -/
def execQuery (s : Session σ) (q : Sql.Query) : Run σ (Except Error ExecResult) :=
  s.statement .exec q fun inTransaction driver => driver.execute inTransaction q

end Session

end EntityMapper

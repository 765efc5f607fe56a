import EntityMapper.Session.Operation
import EntityMapper.Session.QueryLog

/-!
# Middlewares of scenarios

The middlewares that a scenario can put around the operations of a database: they watch, answer by
themselves, change what comes back, or register entities while an operation is under way.

## Main definitions

* `Stage`: the middlewares, as data
* `Stage.middleware`: what each of them does
-/

namespace EntityMapper.Scenario

open EntityMapper.Sql

variable {σ : Type}

/-- **The middlewares of scenarios.** -/
inductive Stage where
  /-- Logs the kind of statement before, and whether there was an error after. -/
  | record (name : String)
  /-- Logs what there is to see. -/
  | inspect
  /-- Refuses statements of one kind. -/
  | deny (kind : QueryType) (text : String)
  /-- Answers without rows. -/
  | answerExec (r : ExecResult)
  /-- Answers with a value that nobody asks for. -/
  | answerForeign
  /-- Answers with an instance of an entity, or a list of one. -/
  | answerEntity (e : Entity) (values : List (String × Value)) (many : Bool)
  /-- Replaces errors. -/
  | replaceErrors (text : String)
  /-- Logs statements. -/
  | log (l : QueryLog)
  /-- Registers an entity with another table, before or after compiling the statement. -/
  | rename (e : Entity) (table : String) (compileFirst : Bool)

/-- A blank instance with values written by name, up to the first that cannot be. -/
def fill (e : Entity) (values : List (String × Value)) : Except Error Instance :=
  values.foldlM (fun i v => e.write i v.1 v.2) e.blank

/-- The diagnostic text of a result. -/
def resultText : Except Error Output → String
  | .ok o => "Ok(" ++ o.diagnostic ++ ")"
  | .error e => "Err(" ++ Text.quoted e.message ++ ")"

/-- The text of a compiled statement, or why there is none. -/
def sqlOf (r : Except Error Query) : Except Error String := r.map Query.sql

/-- Logs, from inside a stage. -/
def logEntry (e : LogEntry) : StateT (Option Query) (Run σ) Unit := liftM (m := Run σ) (writeLog e)

/-- The stage that logs what there is to see. -/
def inspectStage : Middleware (Run σ) := fun next c => do
  logEntry (.context (c.diagnostic (← get)) (some c.model.table))
  logEntry (.compiled (← c.query))
  logEntry (.context (c.diagnostic (← get)) none)
  let result ← next c
  logEntry (.result (resultText result))
  pure result

/-- The stage that registers an entity with another table. -/
def renameStage (registry : Nat) (e : Entity) (table : String) (compileFirst : Bool) :
    Middleware (Run σ) := fun next c => do
  if compileFirst then let _ ← c.query
  let renamed ← liftM (m := Run σ) (registerEntity registry e [.tableName table])
  -- The operation still has the model that it began with, whatever the registry has now.
  let fresh ← liftM (m := Run σ) c.build
  let kept ← c.query
  logEntry (.renamed (renamed.map Model.table) c.model.table (sqlOf fresh) (sqlOf kept))
  next c

/-- **What a middleware of a scenario does.** -/
def Stage.middleware (registry : Nat) : Stage → Middleware (Run σ)
  | record name => fun next c => do
    logEntry (.line (name ++ ":before:" ++ c.queryType.word))
    let result ← next c
    logEntry (.line (name ++ ":after:" ++
      (match result with
        | .ok _ => "false"
        | .error _ => "true")))
    pure result
  | inspect => inspectStage
  | deny kind text => fun next c =>
    if c.queryType = kind then pure (.error (.other text)) else next c
  | answerExec r => fun _ _ => pure (.ok (.exec r))
  | answerForeign => fun _ _ => pure (.ok .foreign)
  | answerEntity e values many => fun _ _ =>
    pure ((fill e values).map fun i => if many then .many e [i] else .one e i)
  | replaceErrors text => fun next c => do
    match ← next c with
    | .ok o => pure (.ok o)
    | .error _ => pure (.error (.other text))
  | log l => l.middleware report fun q => writeLog (.statement q)
  | rename e table compileFirst => renameStage registry e table compileFirst

end EntityMapper.Scenario

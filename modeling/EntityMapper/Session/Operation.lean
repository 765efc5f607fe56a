import EntityMapper.Session.Basic
import EntityMapper.Sql.Statement

/-!
# Operations

What can be done with a statement in a session: compiling it, reading one row or all rows as
instances of an entity, or running it without rows.

## Main definitions

* `Session.build`: compiling a statement
* `Demand`: what an operation asks for
* `Session.perform`: the last stage of the pipeline
* `Session.operate`: an operation through the middlewares
* `Session.get`, `Session.getAll`, `Session.exec`: the operations
-/

namespace EntityMapper

open EntityMapper.Sql

variable {σ : Type}

/-- Notes that a model is examined for access by position. What the examination finds is reported
once for every model. -/
def examineLayout (registry : Nat) (e : Entity) (m : Model) : Run σ Unit := do
  let w ← get
  if (registry, m.serial) ∈ w.examined then pure ()
  else
    -- The note is made whatever is found, so that a fault is not reported twice.
    set { w with examined := (registry, m.serial) :: w.examined }
    match layoutFault? e m with
    | some (.disagrees entity field _ _) => report (.layoutDisagrees entity field)
    | _ => pure ()

/-- Compiling the statement reads a field of an instance. -/
def Sql.Statement.readsFields (m : Model) : Statement → Bool
  | .insert s =>
    let targets := s.targets m
    !s.rows.isEmpty && !targets.isEmpty &&
      targets.all fun t => match t.2.resolve m with
        | .ok _ => true
        | .error _ => false
  | _ => false

namespace Session

/-- The registry of the models. -/
def registry (s : Session σ) : Nat := s.database.settings.registry

/-- The model of an entity. -/
def model (s : Session σ) (e : Entity) : Run σ (Except Error Model) := modelOf s.registry e

/-- The use of a model for access to instances in the way of the settings. -/
def useModel (s : Session σ) (e : Entity) (m : Model) : Run σ Unit :=
  match s.database.settings.accessor with
  | .byName => pure ()
  | .byPosition => if m.isModelOf e then examineLayout s.registry e m else pure ()

/-- **Compiling a statement** about an entity. -/
def build (s : Session σ) (e : Entity) (stmt : Statement) : Run σ (Except Error Query) := do
  match stmt with
  | .handwritten q => pure (.ok q)
  | _ =>
    match stmt.refusal? with
    | some err => pure (.error err)
    | none =>
      match ← s.model e with
      | .error err => pure (.error err)
      | .ok m =>
        -- Only an insertion gets to instances, and only if all of its columns are found.
        if stmt.readsFields m then s.useModel e m
        let settings := s.database.settings
        pure (stmt.compile settings.dialect m (readField settings.accessor e m))

end Session

/-- **What an operation asks for**: the first row, all rows, or no rows. -/
inductive Demand where
  | first
  | all
  | exec
  deriving DecidableEq, Repr

namespace Session

/-- A row as an instance of an entity. -/
def decode (s : Session σ) (e : Entity) (m : Model) (r : Row) : Run σ (Except Error Instance) := do
  s.useModel e m
  pure (decodeRow s.database.settings.accessor e m r)

/-- Rows as instances of an entity, up to the first that is none. -/
def decodeAll (s : Session σ) (e : Entity) (m : Model) :
    List Row → Run σ (Except Error (List Instance))
  | [] => pure (.ok [])
  | r :: rs => do
    match ← s.decode e m r with
    | .error err => pure (.error err)
    | .ok i =>
      match ← s.decodeAll e m rs with
      | .error err => pure (.error err)
      | .ok is => pure (.ok (i :: is))

/-- A compiled statement, with its rows decoded as the operation asks. -/
def answer (s : Session σ) (e : Entity) (d : Demand) (m : Model) (q : Query) :
    Run σ (Except Error Output) := do
  match d with
  | .exec =>
    match ← s.execQuery q with
    | .error err => pure (.error err)
    | .ok r => pure (.ok (.exec r))
  | .first =>
    match ← s.queryRows q with
    | .error err => pure (.error err)
    | .ok [] => pure (.error .noRows)
    | .ok (r :: _) => pure ((← s.decode e m r).map (.one e))
  | .all =>
    match ← s.queryRows q with
    | .error err => pure (.error err)
    | .ok rs => pure ((← s.decodeAll e m rs).map (.many e))

/-- **The last stage of the pipeline**: the compiled statement is run. -/
def perform (s : Session σ) (e : Entity) (d : Demand) : Handler (Run σ) := fun c => do
  match ← c.query with
  | .error err => pure (.error err)
  | .ok q => s.answer e d c.model q

/-- **An operation through the middlewares.** Without a model of the entity none of them is
reached. -/
def operate (s : Session σ) (e : Entity) (stmt : Statement) (d : Demand) :
    Run σ (Except Error Output) := do
  match ← s.model e with
  | .error err => pure (.error err)
  | .ok m =>
    let c : Call (Run σ) := ⟨stmt.queryType, m, s.build e stmt⟩
    -- Nothing is compiled at first; the first stage that asks for the statement sees to it.
    let (result, _) ← (pipeline s.database.middlewares (s.perform e d) c).run none
    pure result

/-- **The first row of a statement** as an instance of an entity. -/
def get (s : Session σ) (e : Entity) (stmt : Statement) : Run σ (Except Error Instance) := do
  pure ((← s.operate e stmt .first) >>= Output.asOne e)

/-- **All rows of a statement** as instances of an entity. -/
def getAll (s : Session σ) (e : Entity) (stmt : Statement) :
    Run σ (Except Error (List Instance)) := do
  pure ((← s.operate e stmt .all) >>= Output.asMany e)

/-- **A statement without rows.** An insertion of nothing goes no further. -/
def exec (s : Session σ) (e : Entity) (stmt : Statement) : Run σ (Except Error ExecResult) := do
  match stmt with
  -- Unlike other faults of a statement, this one does not get to the middlewares.
  | .insert ⟨[], _, _⟩ => pure (.error .insertZeroRow)
  | _ => pure ((← s.operate e stmt .exec) >>= Output.asExec)

end Session

end EntityMapper

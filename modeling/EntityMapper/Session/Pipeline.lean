import EntityMapper.Model.Basic
import EntityMapper.Row
import EntityMapper.Sql.Piece
import EntityMapper.Sql.QueryType

/-!
# The pipeline around statements

Every operation passes through a list of middlewares, the first of which is the outermost: it sees
the call first and the result last. A middleware may answer by itself, or hand the call on and
change what comes back. The statement is compiled when somebody asks for it first, and the
compiled form is kept for the rest of the operation.

## Main definitions

* `Call m`: what a middleware sees of an operation
* `Call.query`: the compiled statement, compiled at most once
* `Handler m`, `Middleware m`: the stages of the pipeline, with effects in the monad `m`
* `pipeline ms h`: the middlewares around the last stage
* `Output`: what an operation yields, and its conversion to what was asked for

## Main results

* `pipeline_append`: a pipeline is the first middlewares around the pipeline of the rest
-/

namespace EntityMapper

/-! ## Results -/

/-- **What an operation yields**: an instance of some entity, a list of them, a value of a type
that no operation asks for, or the answer to a statement without rows. -/
inductive Output where
  | one (e : Entity) (i : Instance)
  | many (e : Entity) (is : List Instance)
  | foreign
  | exec (r : ExecResult)
  deriving DecidableEq

namespace Output

/-- The diagnostic text of a result; values are not shown. -/
def diagnostic : Output → String
  | exec r => "Exec(" ++ r.diagnostic ++ ")"
  | _ => "Value(..)"

/-- A value of another type than the one asked for. -/
def foreignFault : Error := .other "middleware returned a value that is not <type>"

/-- A result without a value where one was asked for. -/
def execFault : Error := .other "middleware returned an exec result for a query"

/-- The instance of an entity that was asked for. -/
def asOne (e : Entity) : Output → Except Error Instance
  | one e' i => if e'.identity = e.identity then .ok i else .error foreignFault
  | exec _ => .error execFault
  | _ => .error foreignFault

/-- The list of instances that was asked for. -/
def asMany (e : Entity) : Output → Except Error (List Instance)
  | many e' is => if e'.identity = e.identity then .ok is else .error foreignFault
  | exec _ => .error execFault
  | _ => .error foreignFault

/-- The answer without rows that was asked for. -/
def asExec : Output → Except Error ExecResult
  | exec r => .ok r
  | _ => .error (.other "middleware returned a value for an exec")

end Output

/-! ## Stages -/

variable {m : Type → Type} [Monad m]

/-- **What a middleware sees of an operation**: what the statement does, the model of its entity,
and how to compile it. -/
structure Call (m : Type → Type) where
  queryType : Sql.QueryType
  model : Model
  build : m (Except Error Sql.Query)

/-- The diagnostic text of a call, given the compiled statement if there is one already. -/
def Call.diagnostic (c : Call m) (compiled : Option Sql.Query) : String :=
  "QueryContext \x7b query_type: " ++ c.queryType.label ++ ", table: " ++
    Text.quoted c.model.table ++ ", compiled: " ++
    (match compiled with
      | some q => "Some(" ++ q.diagnostic ++ ")"
      | none => "None") ++ " \x7d"

/-- **A stage of the pipeline.** The compiled statement is kept between the stages. -/
abbrev Handler (m : Type → Type) : Type :=
  Call m → StateT (Option Sql.Query) m (Except Error Output)

/-- **A middleware** makes a stage out of the next one. -/
abbrev Middleware (m : Type → Type) : Type := Handler m → Handler m

/-- **The compiled statement.** It is compiled when somebody asks for it first and kept from then
on; a failure is not kept. -/
def Call.query (c : Call m) : StateT (Option Sql.Query) m (Except Error Sql.Query) := do
  match ← get with
  | some q => pure (.ok q)
  | none =>
    match ← c.build with
    | .ok q =>
      -- From now on all stages see this statement, even if the model is replaced.
      set (some q)
      pure (.ok q)
    | .error e => pure (.error e)

/-- **The middlewares around the last stage**, the first one outermost. -/
def pipeline (ms : List (Middleware m)) (last : Handler m) : Handler m :=
  ms.foldr (fun middleware next => middleware next) last

omit [Monad m] in
@[simp] theorem pipeline_nil (last : Handler m) : pipeline [] last = last := rfl

omit [Monad m] in
@[simp] theorem pipeline_cons (a : Middleware m) (ms : List (Middleware m)) (last : Handler m) :
    pipeline (a :: ms) last = a (pipeline ms last) := rfl

omit [Monad m] in
/-- A pipeline is the first middlewares around the pipeline of the rest. -/
theorem pipeline_append (ms ns : List (Middleware m)) (last : Handler m) :
    pipeline (ms ++ ns) last = pipeline ms (pipeline ns last) := by
  simp [pipeline]

end EntityMapper

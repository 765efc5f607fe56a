import EntityMapper.Driver.Basic
import EntityMapper.Text.Hex
import EntityMapper.Text.Segments
import EntityMapper.Wire.ColumnType

/-!
# The driver for a server with typed columns

One client connection, behind a lock, to a server that prepares a statement, tells the types of
its parameters and columns, and runs it with the parameters in binary. An open transaction holds
the lock until it has ended; all other calls wait.

## Main definitions

* `Typed.Prepared`: what the server makes of a statement
* `Typed.State`: the statements to come, the faults to show, and whether the lock is held
* `Typed.encodeParameters`: arguments as the bytes of parameters
* `Typed.readRows`: the cells that the server sends, as rows
* `Typed.driver`: the driver
-/

namespace EntityMapper.Typed

open EntityMapper.Text EntityMapper.Wire

/-- **What the server makes of a statement**: the types of its parameters and columns, its rows,
and the tag that it reports at the end; or a refusal, when preparing it or when running it. -/
structure Prepared where
  parameters : List ColumnType
  columns : List (String × ColumnType)
  rows : List (List (Option (List UInt8)))
  tag : String
  runFault : Bool
  prepareFault : Bool

/-- A statement with no parameters and no result. -/
def Prepared.empty : Prepared := ⟨[], [], [], "SELECT 0", false, false⟩

/-- Which steps of transactions the server refuses, and how long it takes to answer. -/
structure Faults where
  atBegin : Bool
  atCommit : Bool
  atRollback : Bool
  latency : Duration
  deriving DecidableEq

/-- **The state of the driver and its server**: what the server will make of the statements to
come, and whether a transaction holds the lock. -/
structure State where
  statements : List Prepared
  faults : Faults
  locked : Bool

/-- The state at first. -/
def State.start (statements : List Prepared) (faults : Faults) : State :=
  ⟨statements, faults, false⟩

/-! ## Parameters and results -/

/-- The bytes of the parameters from number `i` on. -/
def encodeFrom (i : Nat) : List (ColumnType × Value) → Except Error (List (Option (List UInt8)))
  | [] => .ok []
  | (t, v) :: rest =>
    match encodeParameter t v with
    | .error _ => .error (.query (.parameter i))
    | .ok bs => (encodeFrom (i + 1) rest).map (bs :: ·)

/-- **Arguments as the bytes of parameters**: their number is looked at first. -/
def encodeParameters (ts : List ColumnType) (vs : List Value) :
    Except Error (List (Option (List UInt8))) :=
  if ts.length = vs.length then encodeFrom 0 (ts.zip vs)
  else .error (.query (.parameterCount ts.length vs.length))

/-- The bytes of parameters in a report. -/
def parametersText (ps : List (Option (List UInt8))) : String :=
  "[" ++ String.intercalate "," (ps.map fun
    | some bs => String.ofList (hexOfBytes bs)
    | none => "null") ++ "]"

/-- The values of a row from column number `i` on. -/
def readCells (i : Nat) :
    List ((String × ColumnType) × Option (List UInt8)) → Except Error (List Value)
  | [] => .ok []
  | ((name, t), cell) :: rest =>
    match decodeCell t cell with
    | some v => (readCells (i + 1) rest).map (v :: ·)
    | none => .error (.decode name ("error deserializing column " ++ naturalText i))

/-- **The cells that the server sends, as rows**; the first cell that has no value decides. -/
def readRows (columns : List (String × ColumnType)) (rows : List (List (Option (List UInt8)))) :
    Except Error (List Row) :=
  rows.mapM fun cells => do
    let values ← readCells 0 (columns.zip cells)
    Row.make (columns.map Prod.fst) values

/-- The number of rows that a tag tells: its last word, if that is a number of 64 bits. -/
def rowsOfTag (tag : String) : Nat :=
  match (segments ' ' tag.toList).getLast? with
  | some word =>
    -- A tag that does not end in a number counts as no rows.
    match readInteger 0 0xFFFFFFFFFFFFFFFF word with
    | .ok n => n.toNat
    | .error _ => 0
  | none => 0

/-! ## The driver -/

/-- A refusal by the server. -/
def refused (fails : Bool) : Except Error Unit :=
  if fails then .error (.query .server) else .ok ()

/-- An answer of the server to what it was sent. -/
def State.answer {α : Type} (s : State) (result : Except Error α) (events : List String) :
    Turn State (Reply α) :=
  ⟨.answered s.faults.latency result, events, s⟩

/-- A statement of someone who has the lock: it is prepared; then its arguments are encoded; then
it is run. -/
def State.run {α : Type} (read : Prepared → Except Error α) (q : Sql.Query) (s : State) :
    Turn State (Reply α) :=
  -- A statement that nothing was set up for is taken as an empty one.
  let p := s.statements.headD .empty
  let next := { s with statements := s.statements.tail }
  let prepare := "prepare " ++ q.sql
  if p.prepareFault then next.answer (.error (.query .server)) [prepare]
  else match encodeParameters p.parameters q.args with
    -- Only the text has reached the server.
    | .error e => next.answer (.error e) [prepare]
    | .ok ps =>
      next.answer (refused p.runFault >>= fun _ => read p)
        [prepare, "bind " ++ parametersText ps]

/-- A call that needs the lock waits while it is held. -/
def State.lock {α : Type} (s : State) (call : State → Turn State (Reply α)) :
    Turn State (Reply α) :=
  if s.locked then ⟨.waiting, [], s⟩ else call s

/-- A statement inside the transaction that holds the lock, or outside of any. -/
def State.statement {α : Type} (inTransaction : Bool) (read : Prepared → Except Error α)
    (q : Sql.Query) (s : State) : Turn State (Reply α) :=
  if inTransaction then s.run read q else s.lock (State.run read q)

/-- The beginning of a transaction, which takes the lock unless the server refuses. -/
def State.begin (options : TransactionOptions) (s : State) : Turn State (Reply Unit) :=
  { s with locked := !s.faults.atBegin }.answer (refused s.faults.atBegin) [options.beginSql]

/-- The state with the lock given back. -/
def State.unlock (s : State) : State := { s with locked := false }

/-- The end of a transaction, which gives the lock back whether the server refuses or not. -/
def State.finish (event : String) (fails : Bool) (s : State) : Turn State (Reply Unit) :=
  s.unlock.answer (refused fails) [event]

/-- **The driver.** A transaction that is abandoned where nothing can run any more gives the lock
back without telling the server. -/
def driver : Driver State where
  query inTransaction q s :=
    s.statement inTransaction (fun p => readRows p.columns p.rows) q
  execute inTransaction q s :=
    s.statement inTransaction (fun p => .ok ⟨rowsOfTag p.tag, none⟩) q
  beginTransaction options s := s.lock (State.begin options)
  forgo s := s.unlock
  commit s := s.finish "COMMIT" s.faults.atCommit
  rollback s := s.finish "ROLLBACK" s.faults.atRollback
  abandon running s :=
    if running then
      ⟨if s.faults.atRollback then [.abandonedRollbackFailed QueryFault.server.message] else [],
        ["ROLLBACK"], s.unlock⟩
    else ⟨[.abandonedOutside], [], s.unlock⟩

end EntityMapper.Typed

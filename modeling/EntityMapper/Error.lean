import EntityMapper.Duration

/-!
# Errors

Everything that can go wrong between a statement and its result, by cause; the wording is in one
function.

## Main definitions

* `QueryFault`: what a server or its connection refuses
* `Error`: the causes of failure
* `Error.message e`: the wording
-/

namespace EntityMapper

open EntityMapper.Text

/-- What goes wrong when a server runs a statement. -/
inductive QueryFault where
  | server
  | parameter (index : Nat)
  | parameterCount (expected given : Nat)
  deriving DecidableEq, Repr

/-- The wording of a server fault. -/
def QueryFault.message : QueryFault → String
  | server => "db error"
  | parameter i => "error serializing parameter " ++ naturalText i
  | parameterCount n m =>
    "expected " ++ naturalText n ++ " parameters but got " ++ naturalText m

/-- **The causes of failure.** -/
inductive Error where
  /-- Only a record with named fields can be mapped. -/
  | invalidEntityShape (entity : String)
  /-- A segment of a field's tag is no pair of key and value. -/
  | invalidTagContent (segment : String)
  /-- Two fields of an entity have one column. -/
  | duplicateColumn (place : String)
  | unknownField (name : String)
  | unknownColumn (name : String)
  /-- An expression stands where it cannot be compiled. -/
  | unsupportedExpression (place : String)
  /-- An assignment has no place in the conflict clause. -/
  | unsupportedAssignable (place : String)
  /-- An assignment has no place in an update. -/
  | unsupportedAssignableType (place : String)
  | insertZeroRow
  | noUpdatedColumns
  | noConflictColumns
  | noRows
  /-- A transaction failed for a cause, and undoing it failed as well. -/
  | failedToRollback (cause rollback : Error) (inPanic : Bool)
  | panicked (payload : String)
  | decode (column message : String)
  /-- A model of one entity was used to access another in memory. -/
  | modelMismatch (model : String)
  | transactionDone
  | driver (message : String)
  | query (fault : QueryFault)
  | timeout (after : Duration)
  | other (message : String)
  deriving DecidableEq

namespace Error

/-- **The wording of an error.** -/
def message : Error → String
  | invalidEntityShape s =>
    "orm: only a struct with named fields can be registered as an entity, got " ++ s
  | invalidTagContent s => "orm: invalid tag content: " ++ s
  | duplicateColumn s => "orm: duplicate column " ++ s
  | unknownField s => "orm: unknown field " ++ s
  | unknownColumn s => "orm: unknown column " ++ s
  | unsupportedExpression s => "orm: unsupported expression " ++ s
  | unsupportedAssignable s => "orm: unsupported assignable " ++ s
  | unsupportedAssignableType s => "orm: unsupported assignable type " ++ s
  | insertZeroRow => "orm: insert with zero rows"
  | noUpdatedColumns => "orm: no columns to update"
  | noConflictColumns => "orm: upsert needs at least one conflict column"
  | noRows => "orm: no rows in result set"
  | failedToRollback cause rollback inPanic =>
    "orm: rollback failed (panicked: " ++ (if inPanic then "true" else "false") ++ "): cause: " ++
      message cause ++ ", rollback: " ++ message rollback
  | panicked s => "orm: transaction body panicked: " ++ s
  | decode c m => "Decode error on column '" ++ c ++ "': " ++ m
  | modelMismatch m => "orm: model of " ++ m ++ " cannot be used to access <entity>"
  | transactionDone => "orm: transaction has already been committed or rolled back"
  | driver s => "Driver error: " ++ s
  | query f => "Query error: " ++ f.message
  | timeout d => "Query timeout after " ++ d.text
  | other s => s

/-- No row was there to read. -/
def isNoRows : Error → Bool
  | noRows => true
  | _ => false

/-- The statement took longer than it may. -/
def isTimeout : Error → Bool
  | timeout _ => true
  | _ => false

/-- Undoing a failed transaction failed. -/
def isFailedToRollback : Error → Bool
  | failedToRollback .. => true
  | _ => false

end Error

end EntityMapper

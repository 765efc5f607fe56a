import EntityMapper.Session.Basic

/-!
# Transactions

Beginning, ending and abandoning transactions; and running a body of work in one, which is
committed or rolled back by how the body ends.

## Main definitions

* `beginTransaction`, `commit`, `rollback`: the steps
* `abandon`: giving up a handle, which rolls back a transaction that is open
* `Payload`, `Ending α`: how a body of work ends
* `settle`, `settleBlock`: ending a transaction by how its body ended
* `doTransaction`: a body in a transaction of its own
* `doAmbient`: a body in the current transaction, or in one that becomes current
* `transactionBlock`: a body whose transaction is ended without asking whether it still is open
-/

namespace EntityMapper

variable {σ α β : Type}

/-! ## Steps -/

/-- **Begins a transaction** in the time that a statement may take. Whoever gives up before it has
begun has no transaction, whatever becomes of it on the server. -/
def beginTransaction (index : Nat) (d : Database σ) (options : TransactionOptions) :
    Run σ (Except Error Nat) := do
  let begun ← withTimeout d.settings.timeout do
    match ← call index fun driver => driver.beginTransaction options with
    | .waiting => waitForever
    -- Whoever gives up from here on has asked for the connection, and lets go of it.
    | reply => onInterrupt (await reply) do changeState index (← read).driver.forgo
  match begun with
  | .error e => pure (.error e)
  | .ok () => pure (.ok (← openHandle index))

/-- Takes the driver's side out of a handle, waiting for its lock, and makes the step of the driver
that ends the transaction. -/
def finish (id : Nat) (step : Driver σ → σ → Turn σ (Reply Unit)) : Run σ (Except Error Unit) := do
  let h ← handleOf id
  -- Programs run one after another here: nobody would ever give back a lock that is held.
  if h.locked then waitForever
  else
    let (taken, h) := h.take
    -- The handle is closed before the driver is asked; a fault there does not open it again.
    setHandle id h
    match taken with
    | .error e => pure (.error e)
    | .ok () => await (← call h.database step)

/-- **Commits a transaction.** -/
def commit (id : Nat) : Run σ (Except Error Unit) := finish id Driver.commit

/-- **Rolls a transaction back.** -/
def rollback (id : Nat) : Run σ (Except Error Unit) := do
  let result ← finish id Driver.rollback
  match result with
  | .error e => report (.rollbackFailed e)
  | .ok () => pure ()
  pure result

/-- **Gives up a handle.** A transaction that is still open is rolled back, and nobody waits for
it. -/
def abandon (id : Nat) : Run σ Unit := do
  let (wasOpen, h) := (← handleOf id).drop
  setHandle id h
  if wasOpen then
    report .abandoned
    -- There is nobody to hear of a fault, so that the driver leaves notices instead.
    let running := (← read).running
    let notices ← call h.database fun driver => driver.abandon running
    notices.forM report

/-- The transaction has been ended by somebody. -/
def isDone (id : Nat) : Run σ Bool := do
  pure (← handleOf id).done

/-- **The current transaction**, unless it has been ended. -/
def currentTransaction : Run σ (Option Nat) := do
  match (← read).ambient with
  | none => pure none
  | some id => pure (if ← isDone id then none else some id)

/-! ## Bodies of work -/

/-- What a panic carries: a text, or something that is none. -/
inductive Payload where
  | text (s : String)
  | other
  deriving DecidableEq, Repr

/-- The text of a panic in messages. -/
def Payload.message : Payload → String
  | text s => s
  | other => "unknown panic payload"

/-- **How a body of work ends**: with a result, with an error, or in a panic. -/
inductive Ending (α : Type) where
  | ok (a : α)
  | error (e : Error)
  | panic (p : Payload)

/-- An error in a transaction, after rolling back. -/
def afterRollback (cause : Error) (inPanic : Bool) (otherwise : Ending α) :
    Except Error Unit → Ending α
  | .ok () => otherwise
  | .error e => .error (.failedToRollback cause e inPanic)

/-- **Ends a transaction by how its body ended**: a result commits it, an error or a panic rolls it
back. If the body has ended the transaction itself, there is nothing to do. -/
def settle (id : Nat) (ending : Ending α) : Run σ (Ending α) := do
  if ← isDone id then pure ending
  else match ending with
    | .ok a =>
      match ← commit id with
      | .ok () => pure (.ok a)
      | .error e => pure (.error e)
    | .error e => pure (afterRollback e false (.error e) (← rollback id))
    -- A panic goes on unless rolling back fails; then only its text is left of it.
    | .panic p => pure (afterRollback (.panicked p.message) true (.panic p) (← rollback id))

/-- **A body in a transaction of its own.** If it is interrupted, the transaction is given up. What
the body leaves besides its ending is handed on; there is nothing of it if the transaction could not
be begun. -/
def doTransaction (index : Nat) (d : Database σ) (options : TransactionOptions)
    (body : Nat → Run σ (Ending α × β)) : Run σ (Ending α × Option β) := do
  match ← beginTransaction index d options with
  | .error e => pure (.error e, none)
  | .ok id =>
    andFinally (do
      let (ending, b) ← body id
      pure (← settle id ending, some b)) (abandon id)

/-- **A body in the current transaction**, which is left to whoever began it; or, without one, in a
transaction of its own that is current for as long as the body runs. -/
def doAmbient (index : Nat) (d : Database σ) (options : TransactionOptions)
    (body : Nat → Run σ (Ending α × β)) : Run σ (Ending α × Option β) := do
  match ← currentTransaction with
  | some id =>
    let (ending, b) ← body id
    pure (ending, some b)
  | none =>
    doTransaction index d options fun id =>
      withReader (fun s => { s with ambient := some id }) (body id)

/-- Ends a transaction by how its body ended, without asking whether it still is open. A panic
leaves it as it is. -/
def settleBlock (id : Nat) (ending : Ending α) : Run σ (Ending α) := do
  match ending with
  | .ok a =>
    match ← commit id with
    | .ok () => pure (.ok a)
    | .error e => pure (.error e)
  | .error e => pure (afterRollback e false (.error e) (← rollback id))
  -- Giving the handle up is what rolls back here.
  | .panic p => pure (.panic p)

/-- **A body whose transaction is ended without asking whether it still is open.** After a panic or
an interruption it is given up. -/
def transactionBlock (index : Nat) (d : Database σ) (options : TransactionOptions)
    (body : Nat → Run σ (Ending α × β)) : Run σ (Ending α × Option β) := do
  match ← beginTransaction index d options with
  | .error e => pure (.error e, none)
  | .ok id =>
    andFinally (do
      let (ending, b) ← body id
      pure (← settleBlock id ending, some b)) (abandon id)

end EntityMapper

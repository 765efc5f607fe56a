import EntityMapper.Run.Clock

/-!
# What programs reach

The steps in which a run reaches the drivers of databases, the registries of models, and the
handles of transactions.

## Main definitions

* `call`, `await`: calling a driver, and waiting for its answer
* `modelOf`, `registerEntity`: the models of a registry
* `openHandle`, `handleOf`, `setHandle`: the handles of transactions
* `holdingLock`: a program that holds the lock of a transaction
-/

namespace EntityMapper

variable {σ α : Type}

/-! ## Drivers -/

/-- **A step of the driver of a database.** -/
def call (database : Nat) (step : Driver σ → σ → Turn σ α) : Run σ α := do
  let driver := (← read).driver
  let w ← get
  let turn := step driver (w.states database)
  set { w with
    states := update w.states database turn.next
    events := w.events ++ turn.events.map (Event.mk database) }
  pure turn.outcome

/-- Changes the state of the driver of a database. -/
def changeState (database : Nat) (f : σ → σ) : Run σ Unit :=
  modify fun w => { w with states := update w.states database (f (w.states database)) }

/-- Waits for the answer to a call. -/
def await : Reply α → Run σ (Except Error α)
  | .answered delay result => do
    wait delay
    pure result
  | .waiting => waitForever

/-! ## Registries -/

/-- Registers an entity in a registry. -/
def registerEntity (registry : Nat) (e : Entity) (options : List ModelOption) :
    Run σ (Except Error Model) := do
  let w ← get
  match (w.registries registry).register e options with
  | .error err => pure (.error err)
  | .ok (m, r) =>
    set { w with registries := update w.registries registry r }
    report (.registered e.name m.table m.fields.length)
    pure (.ok m)

/-- The model of an entity in a registry, which registers it if it has none. -/
def modelOf (registry : Nat) (e : Entity) : Run σ (Except Error Model) := do
  match ((← get).registries registry).lookup? e with
  | some m => pure (.ok m)
  -- Nobody has chosen anything for the entity, which then has no options.
  | none => registerEntity registry e []

/-! ## Transactions -/

/-- The handle of a transaction. -/
def handleOf (id : Nat) : Run σ Handle := do
  pure ((← get).handles id)

/-- Changes the handle of a transaction. -/
def setHandle (id : Nat) (h : Handle) : Run σ Unit :=
  modify fun w => { w with handles := update w.handles id h }

/-- A new transaction on a database. -/
def openHandle (database : Nat) : Run σ Nat := do
  let w ← get
  set { w with handles := update w.handles w.begun (Handle.opened database), begun := w.begun + 1 }
  pure w.begun

/-- **Runs a program that holds the lock of a transaction**, waiting for it first. The lock is
given back when the program ends or is interrupted. -/
def holdingLock (id : Nat) (x : Run σ α) : Run σ α := do
  match (← handleOf id).acquire? with
  | none => waitForever
  | some h =>
    setHandle id h
    -- The handle is read again, as the program may have changed it.
    andFinally x do setHandle id (← handleOf id).release

end EntityMapper

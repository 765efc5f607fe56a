import EntityMapper.Driver.Basic
import EntityMapper.Model.Registry
import EntityMapper.Transaction.Handle

/-!
# Runs

Programs that use databases, what they change while they run, and what they see of the programs
around them.

## Main definitions

* `Event`, `LogEntry`: what is told about a run
* `RunState σ`: what a run changes
* `Scope σ`: what a part of a program sees of those around it
* `Run σ`: programs
* `report`, `writeLog`, `takeEvents`: telling about a run
-/

namespace EntityMapper

/-! ## The state of a run -/

/-- Why a program is interrupted: a deadline has passed, or what it waits for never comes. -/
inductive Interrupt where
  | deadline (tick : Nat)
  | never
  deriving DecidableEq, Repr

/-- What a database saw. -/
structure Event where
  database : Nat
  text : String
  deriving DecidableEq, Repr

/-- An entry of the log that callbacks write to. -/
inductive LogEntry where
  | line (s : String)
  | context (text : String) (table : Option String)
  | compiled (result : Except Error Sql.Query)
  | result (text : String)
  | statement (q : Sql.Query)
  | renamed (table : Except Error String) (contextTable : String)
      (fresh kept : Except Error String)

/-- **What a run changes**: the clock, in ticks; the states of the drivers; the registries, and
which of their models were examined for access by position; the transactions begun so far, and
the names that some of them have; the events not yet reported; notices; and the log. -/
structure RunState (σ : Type) where
  now : Nat
  states : Nat → σ
  registries : Nat → Registry
  examined : List (Nat × Nat)
  handles : Nat → Handle
  begun : Nat
  names : List (String × Nat)
  events : List Event
  trace : List Notice
  log : List LogEntry

/-- A function with another value at one place. -/
def update {α : Type} (f : Nat → α) (i : Nat) (a : α) : Nat → α := fun j => if j = i then a else f j

/-- **What a part of a program sees of those around it**: the driver of all databases, the
transaction that is current, the one whose body the part is in, the deadlines set, and whether
anything can still be sent. -/
structure Scope (σ : Type) where
  driver : Driver σ
  ambient : Option Nat
  enclosing : Option Nat
  deadlines : List Nat
  running : Bool

/-- **Programs.** What a program has changed before it is interrupted stays changed. -/
abbrev Run (σ : Type) : Type → Type := ReaderT (Scope σ) (ExceptT Interrupt (StateM (RunState σ)))

variable {σ α : Type}

/-! ## Reports -/

/-- Leaves a notice. -/
def report (n : Notice) : Run σ Unit := modify fun w => { w with trace := w.trace ++ [n] }

/-- Writes to the log. -/
def writeLog (e : LogEntry) : Run σ Unit := modify fun w => { w with log := w.log ++ [e] }

/-- The events not yet reported, those of one database after those of another, in which order the
databases are numbered. -/
def takeEvents (databases : Nat) : Run σ (List Event) := do
  let w ← get
  set { w with events := [] }
  pure ((List.range databases).flatMap fun i => w.events.filter fun e => e.database = i)

end EntityMapper

import EntityMapper.Run.Basic

/-!
# The clock of a run

The clock of a run moves only when somebody waits. A wait ends at a tick of the clock, or earlier
at a deadline that somebody around it has set; the program is then interrupted up to the one who
set the deadline.

## Main definitions

* `Duration.ticks`: how long a wait is on the clock
* `waitUntil`, `wait`, `waitForever`: waiting
* `withDeadline`: a program with a deadline
* `onInterrupt`, `andFinally`: what is done when a program is interrupted
-/

namespace EntityMapper

variable {σ α : Type}

/-! ## Waiting -/

/-- The ticks of a span of time. The clock ticks every millisecond, and a wait that is no whole
number of ticks ends at the next one. -/
def Duration.ticks (d : Duration) : Nat := (d.nanoseconds + 999999) / 1000000

/-- The earliest of the deadlines before a tick. -/
def earliestBefore (limit : Nat) (deadlines : List Nat) : Option Nat :=
  (deadlines.filter (· < limit)).min?

/-- Moves the clock to a tick, unless it is there already. -/
def advance (tick : Nat) : Run σ Unit := modify fun w => { w with now := max w.now tick }

/-- **Waits until a tick**, or is interrupted by the earliest deadline before it. -/
def waitUntil (tick : Nat) : Run σ Unit := do
  match earliestBefore tick (← read).deadlines with
  -- A deadline at the very tick comes too late: the wait is over by then.
  | some d => advance d; throw (.deadline d)
  | none => advance tick

/-- Waits for a span of time. -/
def wait (d : Duration) : Run σ Unit := do
  waitUntil ((← get).now + d.ticks)

/-- Waits for what never comes. -/
def waitForever : Run σ α := do
  match (← read).deadlines.min? with
  | some d => advance d; throw (.deadline d)
  | none => throw .never

/-- **Runs a program with a deadline**; no result if it is interrupted by it. -/
def withDeadline (tick : Nat) (x : Run σ α) : Run σ (Option α) :=
  tryCatch (withReader (fun s => { s with deadlines := tick :: s.deadlines }) (some <$> x))
    fun
    -- Any other deadline was set further out, and goes on to whoever set it.
    | .deadline t => if t = tick then pure none else throw (.deadline t)
    | .never => throw .never

/-- Runs a program and, only if it is interrupted, another after it. -/
def onInterrupt (x : Run σ α) (cleanup : Run σ Unit) : Run σ α :=
  tryCatch x fun i => do
    cleanup
    throw i

/-- Runs a program and another after it, whether it is interrupted or not. -/
def andFinally (x : Run σ α) (cleanup : Run σ Unit) : Run σ α := do
  let a ← onInterrupt x cleanup
  cleanup
  pure a

end EntityMapper

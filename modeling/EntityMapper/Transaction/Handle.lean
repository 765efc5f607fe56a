import EntityMapper.Error

/-!
# Transaction handles

A handle stands for a transaction on a driver. The driver's side is behind a lock, which a
statement holds until it is answered or given up. Whoever ends the transaction takes the driver's
side out; after that nothing reaches the driver through the handle any more.

## Main definitions

* `Handle`: the state of a handle
* `Handle.acquire?`, `Handle.release`: taking the lock and giving it back
* `Handle.take`: taking the driver's side out to end the transaction
* `Handle.drop`: what is left to do when the handle is given up

## Main results

* `take_take`: the driver's side is taken out at most once
* `drop_take`: nothing is left to do after the transaction was ended
-/

namespace EntityMapper

/-- **The state of a handle**: the database of its transaction, whether the driver's side is still
there, whether somebody has ended it, and whether the lock is held. -/
structure Handle where
  database : Nat
  isOpen : Bool
  done : Bool
  locked : Bool
  deriving DecidableEq, Repr

namespace Handle

/-- A transaction that has just begun. -/
def opened (database : Nat) : Handle := ⟨database, true, false, false⟩

/-- Taking the lock, if it is free. -/
def acquire? (h : Handle) : Option Handle :=
  if h.locked then none else some { h with locked := true }

/-- Giving the lock back. -/
def release (h : Handle) : Handle := { h with locked := false }

/-- The driver's side is there, to run a statement. -/
def requireOpen (h : Handle) : Except Error Unit :=
  if h.isOpen then .ok () else .error .transactionDone

/-- **Taking the driver's side out** to end the transaction; whoever comes second finds it gone.
Either way the transaction counts as done. -/
def take (h : Handle) : Except Error Unit × Handle :=
  (h.requireOpen, { h with isOpen := false, done := true })

/-- Giving the handle up: whether the driver still has to be told, and the handle afterwards. -/
def drop (h : Handle) : Bool × Handle := (h.isOpen, { h with isOpen := false })

/-- The driver's side is taken out at most once. -/
theorem take_take (h : Handle) : h.take.2.take.1 = .error .transactionDone := rfl

/-- Nothing is left to do after the transaction was ended. -/
theorem drop_take (h : Handle) : h.take.2.drop.1 = false := rfl

end Handle

end EntityMapper

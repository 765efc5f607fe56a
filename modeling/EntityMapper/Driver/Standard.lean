import EntityMapper.Driver.Scripted
import EntityMapper.Driver.Typed

/-!
# The drivers together

Every database has one of the two kinds of driver.

## Main definitions

* `DriverState`, `standardDriver`: the scripted driver and the driver for typed columns side by side
* `DriverState.extendScript`, `DriverState.showFaults`: changing a scripted driver
-/

namespace EntityMapper

/-- The state of a driver of one of the two kinds. -/
abbrev DriverState : Type := Scripted.State ⊕ Typed.State

/-- **The drivers together.** -/
def standardDriver : Driver DriverState := Scripted.driver.either Typed.driver

namespace DriverState

/-- More entries at the end of the script of a scripted driver. -/
def extendScript (entries : List Scripted.Entry) : DriverState → DriverState
  | .inl s => .inl { s with script := s.script ++ entries }
  | .inr t => .inr t

/-- More faults for a scripted driver to show: those given take the place of earlier ones. -/
def showFaults (begins commits rolls : Option String) (delay : Option Duration) :
    DriverState → DriverState
  | .inl s =>
    .inl { s with faults := {
      atBegin := begins <|> s.faults.atBegin
      atCommit := commits <|> s.faults.atCommit
      atRollback := rolls <|> s.faults.atRollback
      delay := delay.getD s.faults.delay } }
  | .inr t => .inr t

end DriverState

end EntityMapper

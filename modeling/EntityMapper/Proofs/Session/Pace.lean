import EntityMapper.Proofs.Run.Pace
import EntityMapper.Proofs.Session.Congruence

/-!
# Operations at the pace of a limit

An operation with a limit for its statement does what it does without one on a driver that gives its
answers up in time, through all its parts: its model is found or registered, the middlewares are
passed, the statement is compiled and sent, and the rows are decoded. Middlewares must not tell the
two apart, as long as those behind them do not.

## Main definitions

* `P.Parts x y`, `P.Stages next next'`: parts of operations, and stages, that come to the same
* `Middleware.Impartial P a`: middlewares that cannot tell the two drivers apart

## Main results

* `programs_build`, `programs_answer`: compiling a statement, and a compiled statement
* `stages_pipeline`, `programs_ask`: operations through middlewares
* `Scenario.Stage.impartial`: the middlewares of scenarios
-/

namespace EntityMapper

open EntityMapper.Sql

variable {σ α β : Type}

namespace Pace

variable {P : Pace σ}

/-! ## Models and instances -/

theorem programs_examineLayout (registry : Nat) (e : Entity) (m : Model) :
    P.Programs (examineLayout registry e m : Run σ Unit) (examineLayout registry e m) := by
  refine .get_bind fun c w hc hw => ?_
  split
  · exact ⟨rfl, hw⟩
  · -- A fault is told, or not.
    cases layoutFault? e m with
    | none => exact ⟨rfl, hw.unlocked, hw.holds⟩
    | some fault => cases fault <;> exact ⟨rfl, hw.unlocked, hw.holds⟩

theorem programs_useModel (s : Session σ) (e : Entity) (m : Model) :
    P.Programs (s.useModel e m) (s.useModel e m) := by
  unfold Session.useModel
  split
  · exact .pure ()
  · split
    · exact programs_examineLayout _ e m
    · exact .pure ()

theorem programs_decode (s : Session σ) (e : Entity) (m : Model) (r : Row) :
    P.Programs (s.decode e m r) (s.decode e m r) :=
  (programs_useModel s e m).bind fun _ => .pure _

/-- **Statements are compiled alike.** -/
theorem programs_build (s : Session σ) (e : Entity) (stmt : Statement) :
    P.Programs (s.build e stmt) (s.build e stmt) :=
  Programs.congruence.build s s rfl (programs_modelOf _ e) (programs_useModel s e) stmt

/-! ## Compiled statements -/

variable {s : Session σ}

/-- **A compiled statement with its rows decoded**, with the limit and without it. -/
theorem programs_answer (hs : P.covers s.index) (e : Entity) (demand : Demand) (m : Model)
    (q : Query) :
    P.Programs ((s.timed (some P.limit)).answer e demand m q)
      ((s.timed none).answer e demand m q) := by
  have hrows : P.Programs ((s.timed (some P.limit)).queryRows q) ((s.timed none).queryRows q) :=
    programs_statement hs (fun b st h => P.query b q st h) (fun b st h => P.keeps.query b q st h)
      .query q
  have hexec : P.Programs ((s.timed (some P.limit)).execQuery q) ((s.timed none).execQuery q) :=
    programs_statement hs (fun b st h => P.execute b q st h)
      (fun b st h => P.keeps.execute b q st h) .exec q
  exact Programs.congruence.answer _ _ hrows hexec (programs_decode s e m) demand

/-! ## Stages -/

/-- **Parts of operations that come to the same**, whatever is kept of the compiled statement. -/
def Parts (P : Pace σ) (x y : Part σ α) : Prop := ∀ kept, P.Programs (x.run kept) (y.run kept)

/-- The statement of a call is compiled once on either driver. -/
theorem parts_query {call : Call (Run σ)} (h : P.Programs call.build call.build) :
    P.Parts call.query call.query :=
  Programs.congruence.query ⟨rfl, rfl, h⟩

/-- **Stages that come to the same** on calls whose statement is compiled alike. -/
def Stages (P : Pace σ) (next next' : Handler (Run σ)) : Prop :=
  ∀ call, P.Programs call.build call.build → P.Parts (next call) (next' call)

end Pace

/-- **A middleware cannot tell the two drivers apart** if those behind it do not. -/
def Middleware.Impartial (P : Pace σ) (a : Middleware (Run σ)) : Prop :=
  ∀ next next', P.Stages next next' → P.Stages (a next) (a next')

namespace Pace

variable {P : Pace σ} {s : Session σ}

/-- Middlewares around stages that come to the same. -/
theorem stages_pipeline {ms : List (Middleware (Run σ))} (hms : ∀ a ∈ ms, a.Impartial P)
    {last last' : Handler (Run σ)} (hlast : P.Stages last last') :
    P.Stages (pipeline ms last) (pipeline ms last') :=
  related_pipeline hms hlast

/-- The last stage. -/
theorem stages_perform (hs : P.covers s.index) (e : Entity) (demand : Demand) :
    P.Stages ((s.timed (some P.limit)).perform e demand) ((s.timed none).perform e demand) :=
  fun _ hcall =>
    Programs.congruence.perform _ _ e demand (programs_answer hs e demand) ⟨rfl, rfl, hcall⟩

/-- **Operations, with the limit and without it**, through middlewares that cannot tell the two
drivers apart. -/
theorem programs_ask (hs : P.covers s.index) (hms : ∀ a ∈ s.database.middlewares, a.Impartial P)
    (e : Entity) (stmt : Statement) (demand : Demand) :
    P.Programs ((s.timed (some P.limit)).ask e stmt demand) ((s.timed none).ask e stmt demand) :=
  Programs.congruence.ask _ _ e stmt demand (programs_modelOf _ e) fun _ =>
    stages_pipeline hms (stages_perform hs e demand) _ (programs_build s e stmt)

end Pace

/-! ## The middlewares of scenarios -/

namespace Scenario

/-- **The middlewares of scenarios cannot tell the two drivers apart.** -/
theorem Stage.impartial (P : Pace σ) (registry : Nat) (stage : Stage) :
    Middleware.Impartial P (stage.middleware registry : Middleware (Run σ)) :=
  fun next next' hnext call hcall => stage.related Pace.Programs.congruence Pace.programs_writeLog
    Pace.programs_report Pace.programs_registerEntity registry next next' ⟨rfl, rfl, hcall⟩
    (hnext call hcall)

end Scenario

end EntityMapper

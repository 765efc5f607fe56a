import EntityMapper.Proofs.Run.Congruence
import EntityMapper.Proofs.Session.Nesting

/-!
# Operations related part by part

A relation that goes along with how programs are put together goes along with the stages of an
operation as well. What is kept of the compiled statement is the same on both sides, and so is all
that the stages see of a call. The middlewares of scenarios keep any such relation that registering
entities and telling about the run are in.

## Main definitions

* `Part.Related R x y`, `Call.Related R call call'`: parts of operations and calls that are related

## Main results

* `Congruence.query`: the compiled statement
* `Congruence.perform`, `related_pipeline`, `Congruence.ask`: the last stage, the middlewares around
  it, and the whole operation
* `Scenario.Stage.related`: the middlewares of scenarios
-/

namespace EntityMapper

open EntityMapper.Sql

variable {σ : Type}

/-- **Parts of operations that are related**, whatever is kept of the compiled statement. -/
def Part.Related {α : Type} (R : (α : Type) → Run σ α → Run σ α → Prop) (x y : Part σ α) : Prop :=
  ∀ kept, R _ (x.run kept) (y.run kept)

/-- **Calls that are related**: what is seen of them is the same, and they are compiled alike. -/
structure Call.Related (R : (α : Type) → Run σ α → Run σ α → Prop) (call call' : Call (Run σ)) :
    Prop where
  queryType : call'.queryType = call.queryType
  model : call'.model = call.model
  build : R _ call.build call'.build

/-- What every middleware keeps is kept by all of them around a last stage. -/
theorem related_pipeline {S : Handler (Run σ) → Handler (Run σ) → Prop}
    {ms : List (Middleware (Run σ))}
    (hms : ∀ a ∈ ms, ∀ next next', S next next' → S (a next) (a next'))
    {last last' : Handler (Run σ)} (hlast : S last last') :
    S (pipeline ms last) (pipeline ms last') := by
  induction ms with
  | nil => exact hlast
  | cons a ms ih =>
    obtain ⟨ha, hms⟩ := List.forall_mem_cons.mp hms
    exact ha _ _ (ih hms)

variable {R : (α : Type) → Run σ α → Run σ α → Prop}

namespace Congruence

variable (hR : Congruence R)
include hR

/-! ## Parts put together -/

section Parts

variable {α β : Type}

theorem related_pure (a : α) : Part.Related R (Pure.pure a) (Pure.pure a) :=
  fun kept => hR.pure (a, kept)

theorem related_get : Part.Related R MonadState.get MonadState.get :=
  fun kept => hR.pure (kept, kept)

theorem related_lift {x y : Run σ α} (h : R _ x y) : Part.Related R (liftM x) (liftM y) :=
  fun _ => hR.bind h fun _ => hR.pure _

theorem related_bind {x y : Part σ α} {f g : α → Part σ β} (hx : Part.Related R x y)
    (hf : ∀ a, Part.Related R (f a) (g a)) : Part.Related R (x >>= f) (y >>= g) := by
  intro kept
  rw [StateT.run_bind, StateT.run_bind]
  exact hR.bind (hx kept) fun p => hf p.1 p.2

theorem related_bind_ok {x y : Part σ (Except Error α)} {f g : Except Error α → Part σ β}
    (hx : Part.Related R x y) (herror : ∀ err, Part.Related R (f (.error err)) (g (.error err)))
    (hok : ∀ a, Part.Related R (f (.ok a)) (g (.ok a))) : Part.Related R (x >>= f) (y >>= g) := by
  refine hR.related_bind hx fun r => ?_
  cases r with
  | error err => exact herror err
  | ok a => exact hok a

end Parts

/-! ## Operations -/

/-- **The compiled statement** is compiled once on either side. -/
theorem query {call call' : Call (Run σ)} (hcall : Call.Related R call call') :
    Part.Related R call.query call'.query := by
  refine hR.related_bind hR.related_get fun kept => ?_
  cases kept with
  | some q => exact hR.related_pure _
  | none =>
    refine hR.related_bind_ok (hR.related_lift hcall.build) (fun _ => hR.related_pure _) fun q => ?_
    exact fun _ => hR.pure _

variable (s s' : Session σ) (e : Entity)

/-- **The last stage**, if compiled statements are answered alike. -/
theorem perform (d : Demand) (hanswer : ∀ m q, R _ (s.answer e d m q) (s'.answer e d m q))
    {call call' : Call (Run σ)} (hcall : Call.Related R call call') :
    Part.Related R (s.perform e d call) (s'.perform e d call') := by
  refine hR.related_bind_ok (hR.query hcall) (fun _ => hR.related_pure _) fun q => ?_
  dsimp only
  rw [hcall.model]
  exact hR.related_lift (hanswer call.model q)

/-- **An operation**, if models are found alike and the stages are related. -/
theorem ask (stmt : Statement) (d : Demand) (hmodel : R _ (s.model e) (s'.model e))
    (hstages : ∀ m, Part.Related R
      (pipeline s.database.middlewares (s.perform e d) (s.callOf e stmt m))
      (pipeline s'.database.middlewares (s'.perform e d) (s'.callOf e stmt m))) :
    R _ (s.ask e stmt d) (s'.ask e stmt d) := by
  have hoperate : R _ (s.operate e stmt d) (s'.operate e stmt d) := by
    refine hR.bind_ok hmodel (fun _ => hR.pure _) fun m => ?_
    exact hR.bind (hstages m none) fun p => hR.pure p.1
  by_cases hempty : ∃ columns upsert, d = .exec ∧ stmt = .insert ⟨[], columns, upsert⟩
  · obtain ⟨columns, upsert, rfl, rfl⟩ := hempty
    exact hR.pure _
  · have hstmt : ∀ columns upsert, d = .exec → stmt ≠ .insert ⟨[], columns, upsert⟩ :=
      fun columns upsert hd h => hempty ⟨columns, upsert, hd, h⟩
    rw [s.ask_eq e stmt d hstmt, s'.ask_eq e stmt d hstmt]
    exact hR.map _ hoperate

end Congruence

/-! ## The middlewares of scenarios -/

/-- **The middlewares of scenarios keep what is related**, if registering entities and telling about
the run are in the relation. -/
theorem Scenario.Stage.related (hR : Congruence R)
    (hlog : ∀ entry, R _ (writeLog entry) (writeLog entry))
    (hreport : ∀ n, R _ (report n) (report n))
    (hregister : ∀ registry e options,
      R _ (registerEntity registry e options) (registerEntity registry e options))
    (registry : Nat) (stage : Stage) (next next' : Handler (Run σ)) {call call' : Call (Run σ)}
    (hcall : Call.Related R call call') (hon : Part.Related R (next call) (next' call')) :
    Part.Related R (stage.middleware registry next call)
      (stage.middleware registry next' call') := by
  have hentry (entry : LogEntry) : Part.Related R (logEntry entry) (logEntry entry) :=
    hR.related_lift (hlog entry)
  have hquery := hR.query hcall
  obtain ⟨kind', m', build'⟩ := call'
  obtain ⟨rfl, rfl, hbuild⟩ := hcall
  cases stage with
  | record name =>
    exact hR.related_bind (hentry _) fun _ => hR.related_bind hon fun r =>
      hR.related_bind (hentry _) fun _ => hR.related_pure r
  | inspect =>
    refine hR.related_bind hR.related_get fun _ => hR.related_bind (hentry _) fun _ =>
      hR.related_bind hquery fun _ => hR.related_bind (hentry _) fun _ =>
      hR.related_bind hR.related_get fun _ => hR.related_bind (hentry _) fun _ => ?_
    exact hR.related_bind hon fun r => hR.related_bind (hentry _) fun _ => hR.related_pure r
  | deny kind text =>
    show Part.Related R (if call.queryType = kind then _ else _)
      (if call.queryType = kind then _ else _)
    split
    · exact hR.related_pure _
    · exact hon
  | answerExec r => exact hR.related_pure _
  | answerForeign => exact hR.related_pure _
  | answerEntity e values many => exact hR.related_pure _
  | replaceErrors text =>
    exact hR.related_bind_ok hon (fun _ => hR.related_pure _) fun _ => hR.related_pure _
  | log l =>
    refine hR.related_bind_ok hquery (fun _ => hR.related_pure _) fun q => ?_
    dsimp only
    split
    · exact hR.related_bind (hentry _) fun _ => hon
    · exact hR.related_bind (hR.related_lift (hreport _)) fun _ => hon
  | rename e table compileFirst =>
    have hrenamed := hR.related_lift (hregister registry e [.tableName table])
    have hfresh := hR.related_lift hbuild
    show Part.Related R (renameStage registry e table compileFirst next call)
      (renameStage registry e table compileFirst next' ⟨call.queryType, call.model, build'⟩)
    unfold renameStage
    cases compileFirst with
    | true =>
      exact hR.related_bind hquery fun _ => hR.related_bind hrenamed fun _ =>
        hR.related_bind hfresh fun _ => hR.related_bind hquery fun _ =>
        hR.related_bind (hentry _) fun _ => hon
    | false =>
      exact hR.related_bind hrenamed fun _ => hR.related_bind hfresh fun _ =>
        hR.related_bind hquery fun _ => hR.related_bind (hentry _) fun _ => hon

end EntityMapper

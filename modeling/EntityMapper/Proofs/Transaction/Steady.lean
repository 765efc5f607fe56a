import EntityMapper.Proofs.Session.Congruence
import EntityMapper.Proofs.Session.Delivery

/-!
# Transactions stay on their databases

The handle of a transaction names the database that the transaction was begun on. Steady programs
do not change that: statements, the beginnings and the ends of transactions, and whatever is put
together from them, as long as the middlewares around statements are steady. A middleware is, if it
gets to handles only by running statements and by beginning and ending transactions.

## Main definitions

* `Keeps w w'`: transactions stay on their databases
* `Run.Steady x`, `Part.Steady x`: so they do whatever the program comes to
* `Handler.Steady`, `Middleware.Steady`: stages of the pipeline that are steady

## Main results

* `Run.Steady.bind`, `Run.Steady.tryCatch`: programs put together from steady ones
* `steady_pipeline`, `Session.steady_ask`: operations through steady middlewares
* `steady_beginTransaction`, `steady_commit`, `steady_rollback`, `steady_abandon`: transactions
* `steady_doTransaction`, `steady_doAmbient`: bodies of work
* `Scenario.Stage.steady`: the middlewares of scenarios
-/

namespace EntityMapper

open EntityMapper.Sql

variable {σ α β : Type}

/-- **Transactions stay on their databases**, and none is forgotten. -/
structure Keeps (w w' : RunState σ) : Prop where
  begun : w.begun ≤ w'.begun
  database : ∀ id < w.begun, (w'.handles id).database = (w.handles id).database

namespace Keeps

variable {w w₁ w₂ : RunState σ}

theorem refl (w : RunState σ) : Keeps w w := ⟨Nat.le_refl _, fun _ _ => rfl⟩

theorem trans (h : Keeps w w₁) (h' : Keeps w₁ w₂) : Keeps w w₂ where
  begun := Nat.le_trans h.begun h'.begun
  database id hid := by rw [h'.database id (Nat.lt_of_lt_of_le hid h.begun), h.database id hid]

/-- A handle may change but for its database. -/
theorem of_update {id : Nat} {h : Handle} (hbegun : w₁.begun = w.begun)
    (hhandles : w₁.handles = update w.handles id h)
    (hdatabase : h.database = (w.handles id).database) : Keeps w w₁ where
  begun := Nat.le_of_eq hbegun.symm
  database id' _ := by
    rw [hhandles]
    by_cases heq : id' = id
    · rw [heq, update_same, hdatabase]
    · rw [update, if_neg heq]

end Keeps

/-! ## Steady programs -/

/-- **Transactions stay on their databases**, whatever the program comes to. -/
def Run.Steady (x : Run σ α) : Prop := ∀ c w, Keeps w (x.eval c w).2

namespace Run.Steady

variable {x : Run σ α}

/-- A program that leaves the handles as they are. -/
theorem of_kept (h : ∀ c w, (x.eval c w).2.begun = w.begun ∧ (x.eval c w).2.handles = w.handles) :
    x.Steady := by
  intro c w
  obtain ⟨hbegun, hhandles⟩ := h c w
  exact ⟨Nat.le_of_eq hbegun.symm, fun id _ => by rw [hhandles]⟩

theorem pure (a : α) : Run.Steady (Pure.pure a : Run σ α) := fun _ w => .refl w

theorem bind {f : α → Run σ β} (hx : x.Steady) (hf : ∀ a, (f a).Steady) : (x >>= f).Steady := by
  intro c w
  have hw := hx c w
  rw [eval_bind]
  rcases hx' : x.eval c w with ⟨i | a, w₁⟩ <;> rw [hx'] at hw
  · exact hw
  · exact hw.trans (hf a c w₁)

theorem map (f : α → β) (hx : x.Steady) : (f <$> x).Steady := by
  rw [map_eq_pure_bind]
  exact hx.bind fun a => .pure (f a)

theorem tryCatch {f : Interrupt → Run σ α} (hx : x.Steady) (hf : ∀ i, (f i).Steady) :
    Run.Steady (MonadExcept.tryCatch x f : Run σ α) := by
  intro c w
  have hw := hx c w
  rw [eval_tryCatch]
  rcases hx' : x.eval c w with ⟨i | a, w₁⟩ <;> rw [hx'] at hw
  · exact hw.trans (hf i c w₁)
  · exact hw

theorem withReader (f : Scope σ → Scope σ) (hx : x.Steady) :
    Run.Steady (MonadWithReader.withReader f x : Run σ α) :=
  fun c w => hx (f c) w

/-- Steady programs are put together from steady ones. -/
theorem congruence : Congruence fun _ (x _ : Run σ _) => x.Steady := ⟨pure, bind⟩

end Run.Steady

theorem steady_get : Run.Steady (get : Run σ (RunState σ)) := fun _ w => .refl w

theorem steady_read : Run.Steady (read : Run σ (Scope σ)) := fun _ w => .refl w

theorem steady_throw (i : Interrupt) : Run.Steady (throw i : Run σ α) := fun _ w => .refl w

/-- What concerns nobody else is steady. -/
theorem Run.Quiet.steady {x : Run σ α} (hx : x.Quiet) : x.Steady :=
  .of_kept fun c w => ⟨(hx c w).begun, (hx c w).handles⟩

/-! ## Waiting and interruptions -/

theorem steady_waitForever : Run.Steady (waitForever : Run σ α) := by
  refine .of_kept fun c w => ?_
  obtain ⟨now, ⟨-, h⟩ | ⟨d, -, h⟩⟩ := eval_waitForever α c w
  · rw [h]
    exact ⟨rfl, rfl⟩
  · rw [h]
    exact ⟨rfl, rfl⟩

theorem steady_await (reply : Reply α) : Run.Steady (await reply : Run σ (Except Error α)) := by
  refine .of_kept fun c w => ?_
  obtain ⟨now, res, h, -⟩ := eval_await reply c w
  rw [h]
  exact ⟨rfl, rfl⟩

section Interruptions

variable {x : Run σ α} {cleanup : Run σ Unit}

theorem steady_onInterrupt (hx : x.Steady) (hcleanup : cleanup.Steady) :
    (onInterrupt x cleanup).Steady :=
  hx.tryCatch fun i => hcleanup.bind fun _ => steady_throw i

theorem steady_andFinally (hx : x.Steady) (hcleanup : cleanup.Steady) :
    (andFinally x cleanup).Steady :=
  (steady_onInterrupt hx hcleanup).bind fun a => hcleanup.bind fun _ => .pure a

theorem steady_withDeadline (tick : Nat) (hx : x.Steady) : (withDeadline tick x).Steady := by
  refine ((hx.map some).withReader _).tryCatch fun i => ?_
  cases i with
  | deadline t =>
    show Run.Steady (if t = tick then pure none else throw (.deadline t))
    split
    · exact .pure none
    · exact steady_throw _
  | never => exact steady_throw _

theorem steady_withTimeout (limit : Option Duration) {x : Run σ (Except Error α)} (hx : x.Steady) :
    (withTimeout limit x).Steady := by
  cases limit with
  | none => exact hx
  | some d =>
    refine steady_get.bind fun w => (steady_withDeadline _ hx).bind fun r => ?_
    cases r with
    | none => exact .pure _
    | some result => exact .pure result

end Interruptions

/-! ## Drivers, registries and handles -/

theorem steady_call (i : Nat) (step : Driver σ → σ → Turn σ α) : (call i step).Steady := by
  refine .of_kept fun c w => ?_
  rw [eval_call]
  exact ⟨rfl, rfl⟩

theorem steady_changeState (i : Nat) (f : σ → σ) : (changeState i f).Steady :=
  .of_kept fun _ _ => ⟨rfl, rfl⟩

theorem steady_registerEntity (registry : Nat) (e : Entity) (options : List ModelOption) :
    (registerEntity registry e options : Run σ (Except Error Model)).Steady := by
  refine .of_kept fun c w => ?_
  rw [eval_registerEntity]
  cases (w.registries registry).register e options with
  | error err => exact ⟨rfl, rfl⟩
  | ok p => exact ⟨rfl, rfl⟩

theorem steady_modelOf (registry : Nat) (e : Entity) :
    (modelOf registry e : Run σ (Except Error Model)).Steady := by
  intro c w
  rw [eval_modelOf]
  cases (w.registries registry).lookup? e with
  | some m => exact .refl w
  | none => exact steady_registerEntity registry e [] c w

theorem steady_isDone (id : Nat) : (isDone id : Run σ Bool).Steady := fun _ w => .refl w

/-- A new transaction takes no handle from another one. -/
theorem steady_openHandle (i : Nat) : (openHandle i : Run σ Nat).Steady :=
  fun _ _ => ⟨Nat.le_succ _, fun _ hid => congrArg Handle.database (if_neg (Nat.ne_of_lt hid))⟩

/-! ## Operations -/

namespace Session

variable (s : Session σ)

theorem steady_build (e : Entity) (stmt : Statement) : (s.build e stmt).Steady := by
  refine .of_kept fun c w => ?_
  obtain ⟨built, w', h, -, hhandles, hbegun⟩ := s.exists_eval_build e stmt c w
  rw [h]
  exact ⟨hbegun, hhandles⟩

theorem steady_answer (e : Entity) (d : Demand) (m : Model) (q : Query) :
    (s.answer e d m q).Steady := by
  refine .of_kept fun c w => ?_
  have hsent := s.sent_answer e d m q c w
  exact ⟨hsent.begun, hsent.handles⟩

end Session

/-- **A part of an operation is steady**, whatever is kept of the compiled statement. -/
def Part.Steady (x : Part σ α) : Prop := ∀ kept, Run.Steady (x.run kept)

/-- **A stage is steady** on calls that are compiled steadily. -/
def Handler.Steady (next : Handler (Run σ)) : Prop :=
  ∀ call : Call (Run σ), call.build.Steady → Part.Steady (next call)

/-- **A middleware is steady** if it makes steady stages out of steady ones. -/
def Middleware.Steady (a : Middleware (Run σ)) : Prop :=
  ∀ next : Handler (Run σ), next.Steady → Handler.Steady (a next)

theorem steady_pipeline {ms : List (Middleware (Run σ))} {last : Handler (Run σ)}
    (hms : ∀ a ∈ ms, a.Steady) (hlast : last.Steady) : Handler.Steady (pipeline ms last) :=
  @related_pipeline σ (fun next _ => next.Steady) ms (fun a ha next _ => hms a ha next)
    last last hlast

namespace Session

variable (s : Session σ)

theorem steady_perform (e : Entity) (d : Demand) : Handler.Steady (s.perform e d) :=
  fun _ hcall => Run.Steady.congruence.perform s s e d (s.steady_answer e d) ⟨rfl, rfl, hcall⟩

/-- **Operations are steady** through steady middlewares. -/
theorem steady_ask (hs : ∀ a ∈ s.database.middlewares, a.Steady) (e : Entity) (stmt : Statement)
    (d : Demand) : (s.ask e stmt d).Steady :=
  Run.Steady.congruence.ask s s e stmt d (steady_modelOf _ e) fun _ =>
    steady_pipeline hs (s.steady_perform e d) _ (s.steady_build e stmt)

end Session

/-! ## Transactions -/

theorem steady_beginTransaction (i : Nat) (d : Database σ) (options : TransactionOptions) :
    (beginTransaction i d options).Steady := by
  refine (steady_withTimeout _ ((steady_call i _).bind fun reply => ?_)).bind fun begun => ?_
  · cases reply with
    | waiting => exact steady_waitForever
    | answered delay r =>
      exact steady_onInterrupt (steady_await _)
        (steady_read.bind fun c => steady_changeState i c.driver.forgo)
  · cases begun with
    | error e => exact .pure _
    | ok u => exact (steady_openHandle i).bind fun id => .pure _

theorem steady_finish (id : Nat) (step : Driver σ → σ → Turn σ (Reply Unit)) :
    (finish id step).Steady := by
  intro c w
  rcases hw : w.handles id with ⟨db, isOpen, done, locked⟩
  cases locked with
  | true =>
    obtain ⟨now, res, h, -⟩ := eval_finish_locked (c := c) hw step
    rw [h]
    exact ⟨Nat.le_refl _, fun _ _ => rfl⟩
  | false =>
    cases isOpen with
    | true =>
      obtain ⟨now, res, h, -⟩ := eval_finish_open (c := c) hw step
      rw [h]
      exact .of_update rfl rfl (by rw [hw])
    | false =>
      rw [eval_finish_closed hw]
      exact .of_update rfl rfl (by rw [hw])

theorem steady_commit (id : Nat) : (commit id : Run σ (Except Error Unit)).Steady :=
  steady_finish id Driver.commit

theorem steady_rollback (id : Nat) : (rollback id : Run σ (Except Error Unit)).Steady := by
  refine (steady_finish id Driver.rollback).bind fun result => ?_
  cases result with
  | error e => exact (quiet_report _).steady.bind fun _ => .pure _
  | ok u => exact .pure _

theorem steady_abandon (id : Nat) : (abandon id : Run σ Unit).Steady := by
  intro c w
  rcases hw : w.handles id with ⟨db, isOpen, done, locked⟩
  cases isOpen with
  | true =>
    obtain ⟨trace, h⟩ := eval_abandon_open (c := c) hw
    rw [h]
    exact .of_update rfl rfl (by rw [hw])
  | false =>
    rw [eval_abandon_gone hw]
    exact .refl w

theorem steady_settle (id : Nat) (ending : Ending α) :
    (settle id ending : Run σ (Ending α)).Steady :=
  Run.Steady.congruence.settle (steady_isDone id) (steady_commit id) (steady_rollback id) ending

section Bodies

variable (i : Nat) (d : Database σ) (options : TransactionOptions)
  {body : Nat → Run σ (Ending α × β)}

/-- A body and the end of its transaction. -/
theorem steady_settled (id : Nat) {x : Run σ (Ending α × β)} (hx : x.Steady) :
    Run.Steady (andFinally (do
      let (ending, b) ← x
      pure (← settle id ending, some b)) (abandon id)) :=
  steady_andFinally (hx.bind fun p => (steady_settle id p.1).bind fun _ => .pure _)
    (steady_abandon id)

theorem steady_doTransaction (hbody : ∀ id, (body id).Steady) :
    (doTransaction i d options body).Steady := by
  refine (steady_beginTransaction i d options).bind fun begun => ?_
  cases begun with
  | error e => exact .pure _
  | ok id => exact steady_settled id (hbody id)

theorem steady_currentTransaction : (currentTransaction : Run σ (Option Nat)).Steady := by
  refine steady_read.bind fun c => ?_
  cases c.ambient with
  | none => exact .pure _
  | some id => exact (steady_isDone id).bind fun _ => .pure _

theorem steady_doAmbient (hbody : ∀ id, (body id).Steady) :
    (doAmbient i d options body).Steady := by
  refine steady_currentTransaction.bind fun current => ?_
  cases current with
  | some id => exact (hbody id).bind fun p => .pure _
  | none => exact steady_doTransaction i d options fun id => (hbody id).withReader _

end Bodies

/-! ## The middlewares of scenarios -/

namespace Scenario

/-- **The middlewares of scenarios are steady.** -/
theorem Stage.steady (registry : Nat) (stage : Stage) :
    Middleware.Steady (stage.middleware registry : Middleware (Run σ)) :=
  fun next hnext call hcall => stage.related Run.Steady.congruence
    (fun entry => (quiet_writeLog entry).steady) (fun n => (quiet_report n).steady)
    steady_registerEntity registry next next ⟨rfl, rfl, hcall⟩ (hnext call hcall)

end Scenario

end EntityMapper

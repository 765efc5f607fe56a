import EntityMapper.Proofs.Run.Mirror
import EntityMapper.Proofs.Session.Congruence

/-!
# Operations that mirror each other

An operation on a transaction does what it does outside of transactions, through all its parts:
its model is found or registered, the middlewares are passed, the statement is compiled and sent,
and the rows are decoded. Middlewares must not tell the two sides apart, as long as those behind
them do not.

## Main definitions

* `M.outside d`, `M.inside d`: the sessions on the two sides of a mirror
* `M.Parts x y`, `M.Stages next next'`: parts of operations and stages that mirror each other
* `Middleware.Blind M a`: middlewares that cannot tell the two sides apart
* `Operation`, `Session.carryOut`: operations one after another

## Main results

* `programs_statement`: compiled statements
* `stages_pipeline`, `programs_ask`: operations through middlewares
* `programs_carryOut`: operations one after another
* `Scenario.Stage.blind`: the middlewares of scenarios
-/

namespace EntityMapper

open EntityMapper.Sql

variable {σ α β : Type}

namespace Mirror

/-- The session outside of transactions. -/
def outside (M : Mirror σ) (d : Database σ) : Session σ := .plain M.index d

/-- The session on the transaction. -/
def inside (M : Mirror σ) (d : Database σ) : Session σ := ⟨M.index, some M.id, d⟩

variable {M : Mirror σ} (d : Database σ)

/-! ## Statements -/

/-- The mirror while a program holds the lock of the transaction. -/
def locking (M : Mirror σ) : Mirror σ := { M with handle := { M.handle with locked := true } }

/-- The handle that a program on the inside finds. -/
theorem Programs.handleOf_bind {x : Run σ α} {g : Handle → Run σ α}
    (h : M.Programs x (g M.handle)) : M.Programs x (handleOf M.id >>= g) := by
  intro c w w' hc hw
  rw [eval_bind, eval_handleOf]
  dsimp only
  rw [hw.handle]
  exact h c w w' hc hw

/-- **A program that holds the lock on the inside**, if nobody has it. -/
theorem programs_holdingLock (hM : M.handle.locked = false) {x y : Run σ α}
    (h : M.locking.Programs x y) : M.Programs x (holdingLock M.id y) := by
  intro c w w' hc hw
  let taken : RunState σ :=
    { w' with handles := update w'.handles M.id { M.handle with locked := true } }
  have htaken : M.locking.States w taken := { hw with handle := update_same .. }
  rcases hy : y.eval (c.later M.lag) taken with ⟨res, v'⟩
  have hinner : M.locking.Outcomes (x.eval c w) (res, v') := hy ▸ h c w taken hc htaken
  obtain ⟨hres, hv⟩ := hinner
  rw [eval_holdingLock y _ hw.handle hM hy]
  -- Given back, the lock leaves the handle as it was.
  have hreleased : (v'.handles M.id).release = M.handle := by
    rw [show v'.handles M.id = M.locking.handle from hv.handle]
    simp [locking, Handle.release, ← hM]
  exact ⟨hres, { hv with handle := (update_same ..).trans hreleased }⟩

section Statements

variable (hM : M.handle = .opened M.index)
include hM

/-- **A statement is sent on either side.** Only inside of the transaction there is a lock. -/
theorem programs_send {step : Bool → Driver σ → σ → Turn σ (Reply α)}
    (hstep : ∀ s t, M.related s t →
      (step false M.driver s).Alike M.related (step true M.driver t)) :
    M.Programs ((M.outside d).send step) ((M.inside d).send step) := by
  have hopen : M.locking.handle.requireOpen = .ok () := by
    rw [locking, hM]
    rfl
  have hsent : M.locking.Programs (call M.index (step false) >>= await)
      (call M.index (step true) >>= await) :=
    (programs_call (M := M.locking) hstep).bind fun reply => programs_await reply
  refine programs_holdingLock (by rw [hM]; rfl) (Programs.handleOf_bind (M := M.locking) ?_)
  rw [hopen]
  exact hsent

/-- **A compiled statement** is answered alike in the time that it may take. -/
theorem programs_statement {step : Bool → Driver σ → σ → Turn σ (Reply α)}
    (hstep : ∀ s t, M.related s t →
      (step false M.driver s).Alike M.related (step true M.driver t))
    (mode : StatementMode) (q : Query) :
    M.Programs ((M.outside d).statement mode q step) ((M.inside d).statement mode q step) :=
  (programs_report _ _).bind fun _ => programs_withTimeout _ (programs_send d hM hstep)

end Statements

/-! ## Models and instances -/

theorem programs_examineLayout (registry : Nat) (e : Entity) (m : Model) :
    M.Programs (examineLayout registry e m : Run σ Unit) (examineLayout registry e m) := by
  refine .get_bind fun w w' hw => ?_
  rw [hw.examined]
  split
  · exact .pure ()
  · refine Programs.bind (.set { hw with examined := rfl }) fun _ => ?_
    split
    · exact programs_report _ _
    · exact .pure ()

theorem programs_useModel (e : Entity) (m : Model) :
    M.Programs ((M.outside d).useModel e m) ((M.inside d).useModel e m) := by
  show M.Programs ((M.outside d).useModel e m) ((M.outside d).useModel e m)
  unfold Session.useModel
  split
  · exact .pure ()
  · split
    · exact programs_examineLayout _ e m
    · exact .pure ()

theorem programs_decode (e : Entity) (m : Model) (r : Row) :
    M.Programs ((M.outside d).decode e m r) ((M.inside d).decode e m r) :=
  (programs_useModel d e m).bind fun _ => .pure _

/-- **Statements are compiled alike.** -/
theorem programs_build (e : Entity) (stmt : Statement) :
    M.Programs ((M.outside d).build e stmt) ((M.inside d).build e stmt) :=
  Programs.congruence.build _ _ rfl (programs_modelOf _ e) (programs_useModel d e) stmt

/-- **A compiled statement with its rows decoded.** -/
theorem programs_answer (hM : M.handle = .opened M.index) (e : Entity) (demand : Demand) (m : Model)
    (q : Query) :
    M.Programs ((M.outside d).answer e demand m q) ((M.inside d).answer e demand m q) := by
  have hrows : M.Programs ((M.outside d).queryRows q) ((M.inside d).queryRows q) :=
    programs_statement d hM (M.query q) .query q
  have hexec : M.Programs ((M.outside d).execQuery q) ((M.inside d).execQuery q) :=
    programs_statement d hM (M.execute q) .exec q
  exact Programs.congruence.answer _ _ hrows hexec (programs_decode d e m) demand

/-! ## Stages -/

/-- **Parts of operations that mirror each other**, whatever is kept of the compiled statement. -/
def Parts (M : Mirror σ) (x y : Part σ α) : Prop := ∀ kept, M.Programs (x.run kept) (y.run kept)

/-- **Calls that mirror each other**: all that is seen of them is the same. -/
structure Calls (M : Mirror σ) (call call' : Call (Run σ)) : Prop where
  queryType : call'.queryType = call.queryType
  model : call'.model = call.model
  build : M.Programs call.build call'.build

theorem Calls.related {call call' : Call (Run σ)} (h : M.Calls call call') :
    Call.Related (fun _ => M.Programs) call call' :=
  ⟨h.queryType, h.model, h.build⟩

/-- **Stages that mirror each other.** -/
def Stages (M : Mirror σ) (next next' : Handler (Run σ)) : Prop :=
  ∀ call call', M.Calls call call' → M.Parts (next call) (next' call')

end Mirror

/-- **A middleware cannot tell the two sides apart** if those behind it do not. -/
def Middleware.Blind (M : Mirror σ) (a : Middleware (Run σ)) : Prop :=
  ∀ next next', M.Stages next next' → M.Stages (a next) (a next')

namespace Mirror

variable {M : Mirror σ} (d : Database σ)

/-- Middlewares around stages that mirror each other. -/
theorem stages_pipeline {ms : List (Middleware (Run σ))} (hms : ∀ a ∈ ms, a.Blind M)
    {last last' : Handler (Run σ)} (hlast : M.Stages last last') :
    M.Stages (pipeline ms last) (pipeline ms last') :=
  related_pipeline hms hlast

section Operations

variable (hM : M.handle = .opened M.index)
include hM

/-- The last stage. -/
theorem stages_perform (e : Entity) (demand : Demand) :
    M.Stages ((M.outside d).perform e demand) ((M.inside d).perform e demand) :=
  fun _ _ hcall =>
    Programs.congruence.perform _ _ e demand (programs_answer d hM e demand) hcall.related

/-- **Operations mirror each other** through middlewares that cannot tell the two sides apart. -/
theorem programs_ask (hd : ∀ a ∈ d.middlewares, a.Blind M) (e : Entity) (stmt : Statement)
    (demand : Demand) :
    M.Programs ((M.outside d).ask e stmt demand) ((M.inside d).ask e stmt demand) :=
  Programs.congruence.ask _ _ e stmt demand (programs_modelOf _ e) fun _ =>
    stages_pipeline hd (stages_perform d hM e demand) _ _ ⟨rfl, rfl, programs_build d e stmt⟩

end Operations

end Mirror

/-! ## Operations one after another -/

/-- **An operation to carry out**: compiling a statement, or running it with a demand. -/
inductive Operation where
  | build (e : Entity) (stmt : Statement)
  | ask (e : Entity) (stmt : Statement) (d : Demand)

/-- What an operation yields. -/
def Operation.Result : Operation → Type
  | build _ _ => Query
  | ask _ _ d => d.Result

namespace Session

/-- An operation in a session. -/
def attempt (s : Session σ) : (t : Operation) → Run σ (Except Error t.Result)
  | .build e stmt => s.build e stmt
  | .ask e stmt d => s.ask e stmt d

/-- **Operations one after another**, each with what it came to. -/
def carryOut (s : Session σ) :
    List Operation → Run σ (List (Σ t : Operation, Except Error t.Result))
  | [] => pure []
  | t :: ts => do
    let r ← s.attempt t
    let rs ← s.carryOut ts
    pure (⟨t, r⟩ :: rs)

end Session

/-- **Operations one after another mirror each other.** -/
theorem Mirror.programs_carryOut {M : Mirror σ} (d : Database σ)
    (hM : M.handle = .opened M.index) (hd : ∀ a ∈ d.middlewares, a.Blind M)
    (ts : List Operation) :
    M.Programs ((M.outside d).carryOut ts) ((M.inside d).carryOut ts) := by
  induction ts with
  | nil => exact .pure _
  | cons t ts ih =>
    refine Mirror.Programs.bind ?_ fun r => ih.bind fun rs => .pure _
    cases t with
    | build e stmt => exact programs_build d e stmt
    | ask e stmt demand => exact programs_ask d hM hd e stmt demand

/-! ## The middlewares of scenarios -/

namespace Scenario

/-- **The middlewares of scenarios cannot tell the two sides apart.** -/
theorem Stage.blind (M : Mirror σ) (registry : Nat) (stage : Stage) :
    Middleware.Blind M (stage.middleware registry : Middleware (Run σ)) :=
  fun next next' hnext call call' hcall => stage.related Mirror.Programs.congruence
    Mirror.programs_writeLog (fun n => Mirror.programs_report n n) Mirror.programs_registerEntity
    registry next next' hcall.related (hnext call call' hcall)

end Scenario

end EntityMapper

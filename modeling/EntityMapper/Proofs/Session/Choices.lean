import EntityMapper.Proofs.Run.Eval
import EntityMapper.Scenario.Stage

/-!
# What middlewares choose

A middleware that answers a call by itself, or hands it on once and works on what comes back, is
told by what it chooses. An operation through such middlewares is made of parts, each of which takes
it from one point to another or is interrupted.

## Main definitions

* `Choice m`, `Chooser m`: what a middleware chooses, and how
* `Chooser.middleware`: the middleware that does what is chosen
* `Part σ α`, `Point σ`: the parts of an operation, and the points between them
* `outcome c x p`, `Reaches c x p a p'`, `Breaks c x p i w`: what a part comes to

## Main results

* `Reaches.outcome_bind`, `reaches_bind`: one part after another
* `Scenario.Stage.middleware_eq`: the middlewares of scenarios choose
-/

namespace EntityMapper

variable {σ α β : Type}

/-! ## Choices -/

section Choices

variable {m : Type → Type}

/-- **What a middleware chooses**: to answer a call, or to hand it on and to work on what comes
back. -/
inductive Choice (m : Type → Type) where
  | answer (r : Except Error Output)
  | handOn (after : Except Error Output → StateT (Option Sql.Query) m (Except Error Output))

/-- **How a middleware chooses.** It may do anything meanwhile, but does not reach the next one. -/
abbrev Chooser (m : Type → Type) : Type := Call m → StateT (Option Sql.Query) m (Choice m)

/-- **The middleware that does what is chosen.** It hands on the call that it was given. -/
def Chooser.middleware [Monad m] (d : Chooser m) : Middleware m := fun next call => do
  match ← d call with
  | .answer r => pure r
  | .handOn after => do
    let r ← next call
    after r

/-- What the log of statements chooses: a statement that does not compile is answered. -/
def QueryLog.chooser [Monad m] (l : QueryLog) (report : Notice → m Unit)
    (callback : Sql.Query → m Unit) : Chooser m := fun call => do
  match ← call.query with
  | .error e => pure (.answer (.error e))
  | .ok q =>
    if l.hasCallback then callback q
    else report (l.notice call.queryType call.model.table q)
    pure (.handOn pure)

theorem QueryLog.middleware_eq [Monad m] [LawfulMonad m] (l : QueryLog) (report : Notice → m Unit)
    (callback : Sql.Query → m Unit) :
    l.middleware report callback = (l.chooser report callback).middleware := by
  funext next call
  simp only [QueryLog.middleware, QueryLog.chooser, Chooser.middleware, bind_assoc]
  congr 1
  funext r
  cases r with
  | error e => simp
  | ok q => by_cases h : l.hasCallback <;> simp [h]

end Choices

/-! ## The middlewares of scenarios -/

namespace Scenario

/-- **What a middleware of a scenario chooses.** -/
def Stage.chooser (registry : Nat) : Stage → Chooser (Run σ)
  | record name => fun c => do
    logEntry (.line (name ++ ":before:" ++ c.queryType.word))
    pure (.handOn fun result => do
      logEntry (.line (name ++ ":after:" ++
        (match result with
          | .ok _ => "false"
          | .error _ => "true")))
      pure result)
  | inspect => fun c => do
    logEntry (.context (c.diagnostic (← get)) (some c.model.table))
    logEntry (.compiled (← c.query))
    logEntry (.context (c.diagnostic (← get)) none)
    pure (.handOn fun result => do
      logEntry (.result (resultText result))
      pure result)
  | deny kind text => fun c =>
    if c.queryType = kind then pure (.answer (.error (.other text))) else pure (.handOn pure)
  | answerExec r => fun _ => pure (.answer (.ok (.exec r)))
  | answerForeign => fun _ => pure (.answer (.ok .foreign))
  | answerEntity e values many => fun _ =>
    pure (.answer ((fill e values).map fun i => if many then .many e [i] else .one e i))
  | replaceErrors text => fun _ => pure (.handOn fun
    | .ok o => pure (.ok o)
    | .error _ => pure (.error (.other text)))
  | log l => l.chooser report fun q => writeLog (.statement q)
  | rename e table compileFirst => fun c => do
    if compileFirst then let _ ← c.query
    let renamed ← liftM (m := Run σ) (registerEntity registry e [.tableName table])
    let fresh ← liftM (m := Run σ) c.build
    let kept ← c.query
    logEntry (.renamed (renamed.map Model.table) c.model.table (sqlOf fresh) (sqlOf kept))
    pure (.handOn pure)

/-- **The middlewares of scenarios choose.** -/
theorem Stage.middleware_eq (registry : Nat) (stage : Stage) :
    (stage.middleware registry : Middleware (Run σ)) = (stage.chooser registry).middleware := by
  funext next call
  cases stage with
  | record name =>
    rw [Chooser.middleware, chooser, bind_assoc]
    rfl
  | inspect => simp [Stage.middleware, chooser, Chooser.middleware, inspectStage]
  | deny kind text =>
    by_cases h : call.queryType = kind <;>
      simp [Stage.middleware, chooser, Chooser.middleware, h]
  | answerExec r => simp [Stage.middleware, chooser, Chooser.middleware]
  | answerForeign => simp [Stage.middleware, chooser, Chooser.middleware]
  | answerEntity e values many => simp [Stage.middleware, chooser, Chooser.middleware]
  | replaceErrors text => rfl
  | log l => rw [Stage.middleware, chooser, QueryLog.middleware_eq]
  | rename e table compileFirst =>
    by_cases h : compileFirst <;>
      simp [Stage.middleware, chooser, Chooser.middleware, renameStage, h]

end Scenario

/-! ## Parts of an operation -/

/-- **A part of an operation.** It may look at the compiled statement that is kept, or keep one. -/
abbrev Part (σ α : Type) : Type := StateT (Option Sql.Query) (Run σ) α

/-- **A point of an operation**: what is kept of the compiled statement, and the state of the
run. -/
structure Point (σ : Type) where
  kept : Option Sql.Query
  state : RunState σ

/-- What a part of an operation comes to from a point. -/
def outcome (c : Scope σ) (x : Part σ α) (p : Point σ) :
    Except Interrupt (α × Option Sql.Query) × RunState σ :=
  Run.eval (x.run p.kept) c p.state

/-- The part ends, with a result, at another point. -/
def Reaches (c : Scope σ) (x : Part σ α) (p : Point σ) (a : α) (p' : Point σ) : Prop :=
  outcome c x p = (.ok (a, p'.kept), p'.state)

/-- The part is interrupted. -/
def Breaks (c : Scope σ) (x : Part σ α) (p : Point σ) (i : Interrupt) (w : RunState σ) : Prop :=
  outcome c x p = (.error i, w)

section Parts

variable {c : Scope σ} {x : Part σ α} {p p' : Point σ} {a : α}

theorem reaches_or_breaks (c : Scope σ) (x : Part σ α) (p : Point σ) :
    (∃ a p', Reaches c x p a p') ∨ ∃ i w, Breaks c x p i w := by
  unfold Reaches Breaks
  rcases outcome c x p with ⟨i | ⟨a, kept⟩, w⟩
  · exact .inr ⟨i, w, rfl⟩
  · exact .inl ⟨a, ⟨kept, w⟩, rfl⟩

/-- A part that ends does so in one way. -/
theorem Reaches.unique {a' : α} {p'' : Point σ} (h : Reaches c x p a p')
    (h' : Reaches c x p a' p'') : a = a' ∧ p' = p'' := by
  have heq := h.symm.trans h'
  rcases p' with ⟨kept, w⟩
  rcases p'' with ⟨kept', w'⟩
  simp only [Prod.mk.injEq, Except.ok.injEq] at heq
  obtain ⟨⟨rfl, rfl⟩, rfl⟩ := heq
  exact ⟨rfl, rfl⟩

/-- A part that ends is not interrupted. -/
theorem Reaches.not_breaks {i : Interrupt} {w : RunState σ} (h : Reaches c x p a p') :
    ¬ Breaks c x p i w := by
  intro h'
  cases h.symm.trans h'

theorem reaches_pure (a : α) (p : Point σ) : Reaches c (pure a) p a p := rfl

/-- After a part that ends comes what follows it. -/
theorem Reaches.outcome_bind (h : Reaches c x p a p') (f : α → Part σ β) :
    outcome c (x >>= f) p = outcome c (f a) p' := by
  simp only [Reaches, outcome] at h ⊢
  rw [StateT.run_bind, eval_bind, h]

/-- After a part that is interrupted comes nothing. -/
theorem Breaks.bind {i : Interrupt} {w : RunState σ} (h : Breaks c x p i w) (f : α → Part σ β) :
    Breaks c (x >>= f) p i w := by
  simp only [Breaks, outcome] at h ⊢
  rw [StateT.run_bind, eval_bind, h]

/-- **Two parts, one after the other**, end where the second one ends. -/
theorem reaches_bind {f : α → Part σ β} {b : β} :
    Reaches c (x >>= f) p b p' ↔ ∃ a p₁, Reaches c x p a p₁ ∧ Reaches c (f a) p₁ b p' := by
  constructor
  · intro h
    obtain ⟨a, p₁, hx⟩ | ⟨i, w, hx⟩ := reaches_or_breaks c x p
    · exact ⟨a, p₁, hx, (hx.outcome_bind f).symm.trans h⟩
    · exact absurd (hx.bind f) h.not_breaks
  · rintro ⟨a, p₁, hx, hf⟩
    exact (hx.outcome_bind f).trans hf

/-- What two parts come to depends on what the first one comes to. -/
theorem outcome_bind_congr {y : Part σ α} {q : Point σ} (h : outcome c x p = outcome c y q)
    (f : α → Part σ β) : outcome c (x >>= f) p = outcome c (y >>= f) q := by
  simp only [outcome] at h ⊢
  rw [StateT.run_bind, StateT.run_bind, eval_bind, eval_bind, h]

/-- A program that does not look at what is kept. -/
theorem outcome_lift (c : Scope σ) (x : Run σ α) (p : Point σ) :
    outcome c (liftM x : Part σ α) p = match x.eval c p.state with
      | (.ok a, w) => (.ok (a, p.kept), w)
      | (.error i, w) => (.error i, w) := by
  have hrun : (liftM x : Part σ α).run p.kept = (fun a => (a, p.kept)) <$> x := by
    simp
  rw [outcome, hrun]
  exact eval_map (fun a => (a, p.kept)) x c p.state

theorem snd_outcome_lift (c : Scope σ) (x : Run σ α) (p : Point σ) :
    (outcome c (liftM x : Part σ α) p).2 = (x.eval c p.state).2 := by
  rw [outcome_lift]
  rcases x.eval c p.state with ⟨i | a, w⟩
  · rfl
  · rfl

/-- Who asks for the compiled statement gets the one that is kept. -/
theorem reaches_query_kept {call : Call (Run σ)} (q : Sql.Query) (w : RunState σ) :
    Reaches c call.query ⟨some q, w⟩ (.ok q) ⟨some q, w⟩ := rfl

/-- Where none is kept, the statement is compiled, and kept if that succeeds. -/
theorem reaches_query_built {call : Call (Run σ)} {w w' : RunState σ}
    {built : Except Error Sql.Query} (h : call.build.eval c w = (.ok built, w')) :
    Reaches c call.query ⟨none, w⟩ built ⟨built.toOption, w'⟩ := by
  have hget : Reaches c (get : Part σ (Option Sql.Query)) ⟨none, w⟩ none ⟨none, w⟩ := rfl
  have hlift : Reaches c (liftM call.build : Part σ (Except Error Sql.Query)) ⟨none, w⟩ built
      ⟨none, w'⟩ := by
    rw [Reaches, outcome_lift, h]
  refine (hget.outcome_bind _).trans ((hlift.outcome_bind _).trans ?_)
  cases built with
  | error err => rfl
  | ok q => rfl

end Parts

end EntityMapper

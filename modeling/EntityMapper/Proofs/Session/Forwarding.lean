import EntityMapper.Proofs.Session.Delivery

/-!
# Middlewares that only forward

A middleware that leaves databases alone, and always hands a call on and passes back what comes, is
not seen by an operation. Through any number of them the last stage runs the compiled statement, and
what it answers is what the caller gets.

## Main definitions

* `Chooser.Forwards d s e stmt`: the middleware only forwards the operation
* `Forwarded c x y p v`: a part does what a program does, from another state that is like its own

## Main results

* `Settled.forwarded`: the stages of an operation through middlewares that only forward
* `Forwarded.eval_ask`: so does the whole operation
* `Scenario.Stage.forwards`: the middlewares of scenarios that only forward
-/

namespace EntityMapper

open EntityMapper.Sql

variable {σ α : Type}

/-- **The middleware only forwards the operation**: it leaves databases alone, hands a call on whose
statement compiles, and passes back whatever comes. -/
structure Chooser.Forwards (d : Chooser (Run σ)) (s : Session σ) (e : Entity) (stmt : Statement) :
    Prop where
  harmless : d.IsHarmless
  handsOn (m : Model) (q : Query) (c : Scope σ) (p : Point σ) : Settled s e stmt m p →
    s.compiled e stmt m = .ok q →
      ∃ after p₁, Reaches c (d (s.callOf e stmt m)) p (.handOn after) p₁ ∧
        ∀ r p₂, Settled s e stmt m p₂ → ∃ p₃, Reaches c (after r) p₂ r p₃

/-- A part that ends, and what follows it. -/
theorem Reaches.bind {β : Type} {c : Scope σ} {x : Part σ α} {f : α → Part σ β} {p p₁ p₂ : Point σ}
    {a : α} {b : β} (h : Reaches c x p a p₁) (h' : Reaches c (f a) p₁ b p₂) :
    Reaches c (x >>= f) p b p₂ :=
  reaches_bind.mpr ⟨a, p₁, h, h'⟩

section Forwarding

variable {s : Session σ} {e : Entity} {stmt : Statement} {m : Model} {q : Query} {c : Scope σ}
  {p : Point σ} {ds : List (Chooser (Run σ))}
  {afters : List (Except Error Output → Part σ (Except Error Output))}

/-- **The way in** through middlewares that only forward. -/
theorem Settled.exists_wayIn (hp : Settled s e stmt m p) (hds : ∀ d ∈ ds, d.Forwards s e stmt)
    (hq : s.compiled e stmt m = .ok q) (c : Scope σ) :
    ∃ afters p₁, WayIn c (s.callOf e stmt m) ds p afters p₁ ∧ ∀ after ∈ afters, ∀ r p₂,
      Settled s e stmt m p₂ → ∃ p₃, Reaches c (after r) p₂ r p₃ := by
  induction ds generalizing p with
  | nil => exact ⟨[], p, .nil p, nofun⟩
  | cons d ds ih =>
    obtain ⟨hd, hds⟩ := List.forall_mem_cons.mp hds
    obtain ⟨after, p₁, hchoice, hafter⟩ := hd.handsOn m q c p hp hq
    have hp₁ := (((hd.harmless (s.callOf e stmt m)).settled hp).reaches _ _ hchoice).1
    obtain ⟨afters, p₂, hin, hafters⟩ := ih hp₁ hds
    exact ⟨after :: afters, p₂, .cons hchoice hin, List.forall_mem_cons.mpr ⟨hafter, hafters⟩⟩

/-- **The way back** through middlewares that only forward. -/
theorem Settled.reaches_passBack (hp : Settled s e stmt m p)
    (hharmless : ∀ after ∈ afters, ∀ r, Harmless (s.callOf e stmt m) (after r))
    (hafters : ∀ after ∈ afters, ∀ r p₂, Settled s e stmt m p₂ →
      ∃ p₃, Reaches c (after r) p₂ r p₃) (r : Except Error Output) :
    ∃ p₁, Reaches c (passBack afters r) p r p₁ := by
  induction afters with
  | nil => exact ⟨p, reaches_pure r p⟩
  | cons after afters ih =>
    obtain ⟨hafter, hafters⟩ := List.forall_mem_cons.mp hafters
    obtain ⟨-, hharmless⟩ := List.forall_mem_cons.mp hharmless
    obtain ⟨p₁, hback⟩ := ih hharmless hafters
    have hp₁ := (((harmless_passBack hharmless r).settled hp).reaches _ _ hback).1
    obtain ⟨p₂, h⟩ := hafter r p₁ hp₁
    exact ⟨p₂, (hback.outcome_bind after).trans h⟩

end Forwarding

/-- **A part does what a program does** from a state that leaves databases as they are at the point:
it ends with the same result or is interrupted for the same reason, and leaves databases as the
program does. -/
structure Forwarded (c : Scope σ) (x : Part σ (Except Error Output))
    (y : Run σ (Except Error Output)) (p : Point σ) (v : RunState σ) : Prop where
  ends (r : Except Error Output) (v' : RunState σ) : y.eval c v = (.ok r, v') →
    ∃ p', Reaches c x p r p' ∧ Untouched v' p'.state
  breaks (i : Interrupt) (v' : RunState σ) : y.eval c v = (.error i, v') → Breaks c x p i v'

section Operations

variable {s : Session σ} {e : Entity} {stmt : Statement} {m : Model} {q : Query}
  {p : Point σ} {ds : List (Chooser (Run σ))}

/-- What was answered is in the same registries as before. -/
theorem Settled.of_sent {d : Demand} {built : Except Error Query} {driver : Driver σ} {p' : Point σ}
    (hp : Settled s e stmt m p) (hsent : Sent s d built driver p.state p'.state)
    (hkept : p'.kept = p.kept) : Settled s e stmt m p' where
  model := by rw [hsent.registries]; exact hp.model
  kept := by rw [hkept]; exact hp.kept

/-- **An operation through middlewares that only forward** does what its compiled statement does,
whatever it asks for. -/
theorem Settled.forwarded (hp : Settled s e stmt m p) (hds : ∀ d ∈ ds, d.Forwards s e stmt)
    (hq : s.compiled e stmt m = .ok q) (c : Scope σ) :
    ∃ v, Untouched p.state v ∧ ∀ d, Forwarded c
      (pipeline (ds.map Chooser.middleware) (s.perform e d) (s.callOf e stmt m))
      (s.answer e d m q) p v := by
  obtain ⟨afters, p₁, hin, hafters⟩ := hp.exists_wayIn hds hq c
  obtain ⟨hp₁, hw₁, hharmless⟩ := hin.settled (fun d hd => (hds d hd).harmless) hp
  obtain ⟨p₂, hquery, hp₂, hw₂⟩ := hp₁.reaches_query (c := c)
  refine ⟨p₂.state, hw₁.trans hw₂, fun d => ?_⟩
  have hperform : outcome c (s.perform e d (s.callOf e stmt m)) p₁ =
      outcome c (liftM (s.answer e d m q) : Part σ (Except Error Output)) p₂ := by
    rw [hq] at hquery
    exact hquery.outcome_bind _
  have hall := hin.outcome_pipeline [] (s.perform e d)
  rw [List.append_nil, pipeline_nil, outcome_bind_congr hperform] at hall
  constructor
  · intro r v' hanswer
    have hlift : Reaches c (liftM (s.answer e d m q) : Part σ (Except Error Output)) p₂ r
        ⟨p₂.kept, v'⟩ := by rw [Reaches, outcome_lift, hanswer]
    have hsent := s.sent_answer e d m q c p₂.state
    rw [hanswer] at hsent
    have hp₃ : Settled s e stmt m ⟨p₂.kept, v'⟩ := hp₂.of_sent hsent rfl
    obtain ⟨p₄, hback⟩ := hp₃.reaches_passBack hharmless hafters r
    have hw₄ := (((harmless_passBack hharmless r).settled hp₃).reaches _ _ hback).2
    refine ⟨p₄, ?_, hw₄⟩
    rw [Reaches, hall, hlift.outcome_bind]
    exact hback
  · intro i v' hanswer
    have hlift : Breaks c (liftM (s.answer e d m q) : Part σ (Except Error Output)) p₂ i v' := by
      rw [Breaks, outcome_lift, hanswer]
    rw [Breaks, hall]
    exact hlift.bind _

/-- **What an operation comes to** whose stages only forward what its compiled statement comes to. -/
theorem Forwarded.eval_ask {d : Demand} {c : Scope σ} {w w₁ v v' : RunState σ}
    {res : Except Interrupt (Except Error Output)}
    (h : Forwarded c (pipeline s.database.middlewares (s.perform e d) (s.callOf e stmt m))
      (s.answer e d m q) ⟨none, w₁⟩ v)
    (hstmt : ∀ columns upsert, d = .exec → stmt ≠ .insert ⟨[], columns, upsert⟩)
    (hm : (s.model e).eval c w = (.ok (.ok m), w₁))
    (hanswer : (s.answer e d m q).eval c v = (res, v')) :
    ∃ u, (s.ask e stmt d).eval c w = (res.map (· >>= Output.convert e d), u) ∧
      Untouched v' u := by
  rw [s.ask_eq e stmt d hstmt, eval_map]
  cases res with
  | ok r =>
    obtain ⟨p, hp, hu⟩ := h.ends r v' hanswer
    rw [Session.eval_operate_of_reaches hm hp]
    exact ⟨p.state, rfl, hu⟩
  | error i =>
    rw [Session.eval_operate_of_breaks hm (h.breaks i v' hanswer)]
    exact ⟨v', rfl, .refl v'⟩

end Operations

/-! ## The middlewares of scenarios -/

namespace Scenario

/-- The middleware of a scenario only watches. -/
def Stage.Watches : Stage → Prop
  | record _ | inspect | log _ => True
  | _ => False

/-- **The middlewares of scenarios that only watch** only forward. -/
theorem Stage.forwards (registry : Nat) {stage : Stage} (h : stage.Watches) (s : Session σ)
    (e : Entity) (stmt : Statement) :
    (stage.chooser registry : Chooser (Run σ)).Forwards s e stmt where
  harmless := by
    refine Stage.isHarmless registry fun e table compileFirst heq => ?_
    rw [heq] at h
    exact h
  handsOn m q c p hp hq := by
    have hlog (entry : LogEntry) (p : Point σ) : Reaches c (logEntry entry) p ()
        ⟨p.kept, { p.state with log := p.state.log ++ [entry] }⟩ := rfl
    have hget (p : Point σ) : Reaches c (get : Part σ (Option Query)) p p.kept p := rfl
    cases stage with
    | record name =>
      exact ⟨_, _, (hlog _ p).bind (reaches_pure _ _),
        fun r p₂ _ => ⟨_, (hlog _ p₂).bind (reaches_pure r _)⟩⟩
    | inspect =>
      -- The first entry is about the statement that is kept so far.
      have hlogged (entry : LogEntry) : Settled s e stmt m
          ⟨p.kept, { p.state with log := p.state.log ++ [entry] }⟩ :=
        hp.of_untouched rfl (quiet_writeLog entry c p.state)
      obtain ⟨p₂, hquery, -, -⟩ := (hlogged (.context ((s.callOf e stmt m).diagnostic p.kept)
        (some m.table))).reaches_query (c := c)
      refine ⟨_, _, (hget p).bind ((hlog _ p).bind (hquery.bind ((hlog _ p₂).bind ((hget _).bind
        ((hlog _ _).bind (reaches_pure _ _)))))), fun r p₃ _ => ?_⟩
      exact ⟨_, (hlog _ p₃).bind (reaches_pure r _)⟩
    | log l =>
      obtain ⟨p₁, hquery, -, -⟩ := hp.reaches_query (c := c)
      rw [hq] at hquery
      have hwritten : Reaches c (liftM (writeLog (.statement q) : Run σ Unit) : Part σ Unit) p₁ ()
        ⟨p₁.kept, { p₁.state with log := p₁.state.log ++ [.statement q] }⟩ := rfl
      have hreported (n : Notice) : Reaches c (liftM (report n : Run σ Unit) : Part σ Unit) p₁ ()
        ⟨p₁.kept, { p₁.state with trace := p₁.state.trace ++ [n] }⟩ := rfl
      have hlogged : ∃ p₂, Reaches c
          (if l.hasCallback then do
              liftM (writeLog (.statement q) : Run σ Unit)
              pure (.handOn pure)
            else do
              liftM (report (l.notice stmt.queryType m.table q) : Run σ Unit)
              pure (.handOn pure) : Part σ (Choice (Run σ))) p₁ (.handOn pure) p₂ := by
        by_cases hcallback : l.hasCallback
        · rw [if_pos hcallback]
          exact ⟨_, hwritten.bind (reaches_pure _ _)⟩
        · rw [if_neg hcallback]
          exact ⟨_, (hreported _).bind (reaches_pure _ _)⟩
      obtain ⟨p₂, hlogged⟩ := hlogged
      exact ⟨pure, p₂, hquery.bind hlogged, fun r p₃ _ => ⟨p₃, reaches_pure r p₃⟩⟩
    | _ => exact h.elim

end Scenario

end EntityMapper

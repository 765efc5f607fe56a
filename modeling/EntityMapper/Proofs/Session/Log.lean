import EntityMapper.Proofs.Session.Delivery
import EntityMapper.Proofs.Session.Indifference

/-!
# A log between middlewares

A log of statements is put anywhere between the middlewares of a session. It compiles the statement
earlier than it would be compiled without it. For the caller and for the drivers this makes no
difference if the middlewares behind the log do not depend on what is compiled, and those in front of
it do not on the way back; but if the statement cannot be compiled, the fault goes back from where
the log is.

## Main definitions

* `Session.withMiddlewares s ms`: the session with other middlewares
* `Demand.conclude e d`: what an operation comes to, given what its stages come to
* `Session.GetsTo s e stmt d ds c w m afters p`: the call of an operation gets behind middlewares
* `Session.unlogged s outer inner`, `Session.logged s outer l callback inner`: the session without a
  log, and with one
* `Transparent s outer l callback inner e stmt d c w`: what a log makes of an operation

## Main results

* `outcome_pipeline_of_turned`: what is behind a middleware that answers makes no difference
* `Session.query_ends`, `Session.of_reaches_query`: asking for the statement ends, and only tells
* `log_transparent`: logs are transparent
* `rename_behind_log`: but not if the entity is registered anew behind them
-/

namespace EntityMapper

open EntityMapper.Sql

variable {σ α : Type}

/-! ## Sessions with other middlewares -/

/-- **The session with other middlewares** around its operations. -/
def Session.withMiddlewares (s : Session σ) (ms : List (Middleware (Run σ))) : Session σ :=
  { s with database := ⟨{ s.database.settings with middlewareCount := ms.length }, ms⟩ }

namespace Session

variable (s : Session σ) (ms : List (Middleware (Run σ))) (e : Entity)

theorem decodeAll_withMiddlewares (m : Model) (rs : List Row) :
    (s.withMiddlewares ms).decodeAll e m rs = s.decodeAll e m rs := by
  induction rs with
  | nil => rfl
  | cons r rs ih =>
    rw [decodeAll, decodeAll, ih]
    rfl

theorem answer_withMiddlewares (d : Demand) (m : Model) (q : Query) :
    (s.withMiddlewares ms).answer e d m q = s.answer e d m q := by
  cases d with
  | all =>
    simp only [answer, decodeAll_withMiddlewares]
    rfl
  | _ => rfl

/-- The last stage has nothing to do with middlewares. -/
theorem perform_withMiddlewares (d : Demand) :
    (s.withMiddlewares ms).perform e d = s.perform e d := by
  funext call
  unfold perform
  simp only [answer_withMiddlewares]

end Session

/-- **What an operation comes to**, given what its stages come to: the caller gets what came out of
them as what was asked for. -/
def Demand.conclude (e : Entity) (d : Demand)
    (r : Except Interrupt (Except Error Output × Option Query) × RunState σ) :
    Except Interrupt (Except Error d.Result) × RunState σ :=
  (r.1.map fun out => out.1 >>= Output.convert e d, r.2)

section Concluding

variable {s : Session σ} {e : Entity} {stmt : Statement} {d : Demand} {c : Scope σ}
  {w w₁ : RunState σ} {m : Model}

/-- Without a model the caller gets the fault of its registration. -/
theorem Session.eval_ask_of_error (hstmt : ∀ columns upsert, d = .exec →
    stmt ≠ .insert ⟨[], columns, upsert⟩) {err : Error}
    (hm : (s.model e).eval c w = (.ok (.error err), w₁)) :
    (s.ask e stmt d).eval c w = (.ok (.error err), w₁) := by
  rw [s.ask_eq e stmt d hstmt, eval_map, Session.eval_operate_of_error hm]
  rfl

/-- An operation concludes with what comes out of its middlewares. -/
theorem Session.eval_ask_of_model (hstmt : ∀ columns upsert, d = .exec →
    stmt ≠ .insert ⟨[], columns, upsert⟩) (hm : (s.model e).eval c w = (.ok (.ok m), w₁))
    (ms : List (Middleware (Run σ))) :
    ((s.withMiddlewares ms).ask e stmt d).eval c w = d.conclude e
      (outcome c (pipeline ms (s.perform e d) (s.callOf e stmt m)) ⟨none, w₁⟩) := by
  have hperform := s.perform_withMiddlewares ms e d
  rw [(s.withMiddlewares ms).ask_eq e stmt d hstmt, eval_map, ← hperform]
  obtain ⟨r, p, h⟩ | ⟨i, w', h⟩ := reaches_or_breaks c
    (pipeline ms ((s.withMiddlewares ms).perform e d) (s.callOf e stmt m)) ⟨none, w₁⟩
  · rw [Session.eval_operate_of_reaches (s := s.withMiddlewares ms) hm h,
      show outcome c _ _ = _ from h]
    rfl
  · rw [Session.eval_operate_of_breaks (s := s.withMiddlewares ms) hm h,
      show outcome c _ _ = _ from h]
    rfl

/-- Parts in step conclude in the same way. -/
theorem Part.InStep.conclude {A : Point σ → Point σ → Prop} {x y : Part σ (Except Error Output)}
    (h : Part.InStep A Eq x y) (hA : ∀ p p', A p p' → p.state.Matches p'.state) {p p' : Point σ}
    (hp : A p p') (e : Entity) (d : Demand) :
    MatchingOutcomes (d.conclude e (outcome c x p)) (d.conclude e (outcome c y p')) := by
  obtain ⟨r, _, p₁, p₁', hx, hy, rfl, hp₁⟩ | ⟨i, v, v', hx, hy, hv⟩ := h c p p' hp
  · rw [show outcome c x p = _ from hx, show outcome c y p' = _ from hy]
    exact ⟨rfl, hA p₁ p₁' hp₁⟩
  · rw [show outcome c x p = _ from hx, show outcome c y p' = _ from hy]
    exact ⟨rfl, hv⟩

end Concluding

/-! ## Calls that get to a log -/

/-- **What is behind a middleware that answers**, or is interrupted, makes no difference. -/
theorem outcome_pipeline_of_turned {c : Scope σ} {call : Call (Run σ)} {ds : List (Chooser (Run σ))}
    {p : Point σ} (h : ¬ ∃ afters p₁, WayIn c call ds p afters p₁) (ms ms' : List (Middleware (Run σ)))
    (last : Handler (Run σ)) :
    outcome c (pipeline (ds.map Chooser.middleware ++ ms) last call) p =
      outcome c (pipeline (ds.map Chooser.middleware ++ ms') last call) p := by
  induction ds generalizing p with
  | nil => exact absurd ⟨[], p, .nil p⟩ h
  | cons d ds ih =>
    rw [List.map_cons, List.cons_append, List.cons_append, pipeline_cons, pipeline_cons]
    obtain ⟨r | after, p₁, hd⟩ | ⟨i, w, hd⟩ := reaches_or_breaks c (d call) p
    · exact (reaches_of_answer hd _).trans (reaches_of_answer hd _).symm
    · -- It hands the call on, so that one of the others does not.
      rw [outcome_of_handOn hd, outcome_of_handOn hd]
      apply outcome_bind_congr
      apply ih
      rintro ⟨afters, p₂, hin⟩
      exact h ⟨after :: afters, p₂, .cons hd hin⟩
    · exact (breaks_middleware hd _).trans (breaks_middleware hd _).symm

/-- **The call of an operation gets behind the middlewares** `ds`, with the model `m`: all of them
hand it on, so that `p` is reached and `afters` are left to do on the way back. -/
structure Session.GetsTo (s : Session σ) (e : Entity) (stmt : Statement) (d : Demand)
    (ds : List (Chooser (Run σ))) (c : Scope σ) (w : RunState σ) (m : Model)
    (afters : List (Except Error Output → Part σ (Except Error Output))) (p : Point σ) : Prop where
  nonempty : ∀ columns upsert, d = .exec → stmt ≠ .insert ⟨[], columns, upsert⟩
  way : ∃ w₁, (s.model e).eval c w = (.ok (.ok m), w₁) ∧
    WayIn c (s.callOf e stmt m) ds ⟨none, w₁⟩ afters p

/-- **Asking for the statement ends, and only tells**, where the entity has a model. What is compiled
is what was offered, and is kept. -/
theorem Session.query_ends {s : Session σ} {e : Entity} {p : Point σ} (hp : s.Registered e p.state)
    (stmt : Statement) (m : Model) (c : Scope σ) :
    ∃ r p', Reaches c (s.callOf e stmt m).query p r p' ∧ p.state.Matches p'.state ∧
      ∀ q, r = .ok q → s.Offers e stmt q p ∧ p'.kept = some q := by
  rcases p with ⟨_ | q, w⟩
  · -- The model is there, so that compiling registers nothing.
    obtain ⟨m', hm'⟩ := Option.isSome_iff_exists.mp hp
    obtain ⟨w', hbuild, hw'⟩ := s.eval_build_kept (c := c) stmt hm'
    refine ⟨_, _, reaches_query_built hbuild, hw', fun q hq => ⟨.inr ⟨rfl, m', hm', hq⟩, ?_⟩⟩
    rw [hq]
    rfl
  · refine ⟨_, _, reaches_query_kept q w, .refl w, ?_⟩
    rintro _ ⟨⟩
    exact ⟨.inl rfl, rfl⟩

/-- **What asking for the statement comes to**, where the entity has a model. -/
theorem Session.of_reaches_query {s : Session σ} {e : Entity} {stmt : Statement} {m : Model}
    {c : Scope σ} {p p₁ : Point σ} {r : Except Error Query} (hp : s.Registered e p.state)
    (h : Reaches c (s.callOf e stmt m).query p r p₁) :
    p.state.Matches p₁.state ∧ ∀ q, r = .ok q → s.Offers e stmt q p ∧ p₁.kept = some q := by
  obtain ⟨r', p', hends, hstates, hoffers⟩ := Session.query_ends hp stmt m c
  obtain ⟨rfl, rfl⟩ := h.unique hends
  exact ⟨hstates, hoffers⟩

/-- A program that does not look at what is kept leaves it. -/
theorem kept_of_reaches_lift {c : Scope σ} {x : Run σ α} {p p' : Point σ} {a : α}
    (h : Reaches c (liftM x : Part σ α) p a p') : p'.kept = p.kept := by
  rw [Reaches, outcome_lift] at h
  rcases hx : x.eval c p.state with ⟨i | b, w⟩
  · rw [hx] at h
    cases h
  · rw [hx] at h
    simp only [Prod.mk.injEq, Except.ok.injEq] at h
    exact h.1.2.symm

/-! ## Logs -/

section Logs

variable {l : QueryLog} {callback : Query → Run σ Unit} {c : Scope σ} {call : Call (Run σ)}
  {p p₁ : Point σ}

/-- A log that gets the compiled statement tells of it and goes on. -/
theorem QueryLog.outcome_middleware_of_ok {q : Query} (h : Reaches c call.query p (.ok q) p₁)
    (next : Handler (Run σ)) (f : Except Error Output → Part σ α) :
    outcome c (l.middleware report callback next call >>= f) p = outcome c (do
      liftM (l.tell callback call q)
      let r ← next call
      f r) p₁ := by
  rw [middleware_eq, Chooser.middleware, chooser_eq, bind_assoc, bind_assoc]
  refine (h.outcome_bind _).trans ?_
  simp

/-- A log that gets none returns the fault. -/
theorem QueryLog.outcome_middleware_of_error {err : Error}
    (h : Reaches c call.query p (.error err) p₁) (next : Handler (Run σ))
    (f : Except Error Output → Part σ α) :
    outcome c (l.middleware report callback next call >>= f) p = outcome c (f (.error err)) p₁ := by
  rw [middleware_eq, Chooser.middleware, chooser_eq, bind_assoc, bind_assoc]
  refine (h.outcome_bind _).trans ?_
  simp

end Logs

namespace Session

/-- The session with the middlewares `outer` and `inner`. -/
def unlogged (s : Session σ) (outer inner : List (Chooser (Run σ))) : Session σ :=
  s.withMiddlewares ((outer ++ inner).map Chooser.middleware)

/-- **The session with a log** between the middlewares `outer` and `inner`. -/
def logged (s : Session σ) (outer : List (Chooser (Run σ))) (l : QueryLog)
    (callback : Query → Run σ Unit) (inner : List (Chooser (Run σ))) : Session σ :=
  s.withMiddlewares (outer.map Chooser.middleware ++
    l.middleware report callback :: inner.map Chooser.middleware)

end Session

/-- **What a log makes of an operation.** Where the call gets to it, it asks for the statement.

Unless that is a fault, the caller gets what he would get without the log, and drivers, registries
and transactions are left as they would be; before anything behind it runs, the log tells of the
statement, once, and nothing else than this statement gets to the driver. A fault goes back through
the middlewares in front of the log, and nothing has happened behind it. -/
structure Transparent (s : Session σ) (outer : List (Chooser (Run σ))) (l : QueryLog)
    (callback : Query → Run σ Unit) (inner : List (Chooser (Run σ))) (e : Entity) (stmt : Statement)
    (d : Demand) (c : Scope σ) (w : RunState σ) : Prop where
  asked : ∀ m afters p, s.GetsTo e stmt d outer c w m afters p →
    ∃ built p₁, Reaches c (s.callOf e stmt m).query p built p₁
  same : (∀ m afters p err p₁, s.GetsTo e stmt d outer c w m afters p →
      ¬ Reaches c (s.callOf e stmt m).query p (.error err) p₁) →
    MatchingOutcomes (((s.unlogged outer inner).ask e stmt d).eval c w)
      (((s.logged outer l callback inner).ask e stmt d).eval c w)
  told : ∀ m afters p q p₁, s.GetsTo e stmt d outer c w m afters p →
    Reaches c (s.callOf e stmt m).query p (.ok q) p₁ →
    ((s.logged outer l callback inner).ask e stmt d).eval c w = d.conclude e (outcome c (do
      liftM (l.tell callback (s.callOf e stmt m) q)
      let r ← pipeline (inner.map Chooser.middleware) (s.perform e d) (s.callOf e stmt m)
      passBack afters r) p₁)
  forwarded : ∀ m afters p q p₁ p₂ afters' p₃, s.GetsTo e stmt d outer c w m afters p →
    Reaches c (s.callOf e stmt m).query p (.ok q) p₁ →
    Reaches c (liftM (l.tell callback (s.callOf e stmt m) q)) p₁ () p₂ →
    WayIn c (s.callOf e stmt m) inner p₂ afters' p₃ →
    p₃.kept = some q ∧
      outcome c (s.perform e d (s.callOf e stmt m)) p₃ =
        outcome c (liftM (s.answer e d m q)) p₃ ∧
      Sent s d (.ok q) c.driver p₃.state (outcome c (s.perform e d (s.callOf e stmt m)) p₃).2
  refused : ∀ m afters p err p₁, s.GetsTo e stmt d outer c w m afters p →
    Reaches c (s.callOf e stmt m).query p (.error err) p₁ →
    p.state.Matches p₁.state ∧
      ((s.logged outer l callback inner).ask e stmt d).eval c w =
        d.conclude e (outcome c (passBack afters (.error err)) p₁)

section Transparency

variable {s : Session σ} {outer inner : List (Chooser (Run σ))} {l : QueryLog}
  {callback : Query → Run σ Unit} {e : Entity} {stmt : Statement} {d : Demand} {c : Scope σ}
  {w : RunState σ} {m : Model}
  {afters : List (Except Error Output → Part σ (Except Error Output))} {p : Point σ}

/-- Where a call gets behind tolerant middlewares, the entity still has a model, and they work in
step on the way back. -/
theorem Session.GetsTo.tolerant (h : s.GetsTo e stmt d outer c w m afters p)
    (houter : ∀ d ∈ outer, d.Tolerant s e stmt) :
    s.Registered e p.state ∧ ∀ after ∈ afters, ∀ q r,
      Part.InStep (s.Ahead e stmt q) Eq (after r) (after r) := by
  obtain ⟨w₁, hm, hin⟩ := h.way
  apply hin.tolerant houter
  exact Option.isSome_iff_exists.mpr ⟨m, lookup?_of_modelOf hm⟩

/-- What an operation comes to from where its call gets to. -/
theorem Session.GetsTo.eval_ask (h : s.GetsTo e stmt d outer c w m afters p)
    (ms : List (Middleware (Run σ))) :
    ((s.withMiddlewares (outer.map Chooser.middleware ++ ms)).ask e stmt d).eval c w =
      d.conclude e (outcome c
        (pipeline ms (s.perform e d) (s.callOf e stmt m) >>= passBack afters) p) := by
  obtain ⟨w₁, hm, hin⟩ := h.way
  rw [Session.eval_ask_of_model h.nonempty hm, hin.outcome_pipeline]

/-- **Without the log, and with it**, what is behind it runs in step. -/
theorem Session.GetsTo.matches (h : s.GetsTo e stmt d outer c w m afters p)
    (houter : ∀ d ∈ outer, d.Tolerant s e stmt) (hinner : ∀ d ∈ inner, d.Indifferent s e stmt)
    (hcallback : ∀ q, (callback q).Silent) {q : Query} {p₁ : Point σ}
    (hquery : Reaches c (s.callOf e stmt m).query p (.ok q) p₁) :
    MatchingOutcomes (((s.unlogged outer inner).ask e stmt d).eval c w)
      (((s.logged outer l callback inner).ask e stmt d).eval c w) := by
  obtain ⟨hregistered, hafters⟩ := h.tolerant houter
  obtain ⟨hp₁, hok⟩ := Session.of_reaches_query hregistered hquery
  obtain ⟨hoffers, hkept⟩ := hok q rfl
  obtain ⟨w₂, htell, hw₂⟩ :=
    QueryLog.silent_tell hcallback l (s.callOf e stmt m) q c p₁.state
  have htold : Reaches c (liftM (l.tell callback (s.callOf e stmt m) q) : Part σ Unit) p₁ ()
      ⟨p₁.kept, w₂⟩ := by
    rw [Reaches, outcome_lift, htell]
  -- With the log, what is behind it starts one point ahead.
  have hahead : s.Ahead e stmt q p ⟨p₁.kept, w₂⟩ := ⟨hp₁.trans hw₂, hoffers, hkept⟩
  have hstep : Part.InStep (s.Ahead e stmt q) Eq
      (pipeline (inner.map Chooser.middleware) (s.perform e d) (s.callOf e stmt m) >>=
        passBack afters)
      (pipeline (inner.map Chooser.middleware) (s.perform e d) (s.callOf e stmt m) >>=
        passBack afters) := by
    apply Part.InStep.bind (inStep_pipeline hinner (inStep_perform d))
    rintro r _ rfl
    exact inStep_passBack (fun after hafter => hafters after hafter q) r
  rw [Session.unlogged, List.map_append, h.eval_ask, Session.logged, h.eval_ask, pipeline_cons,
    QueryLog.outcome_middleware_of_ok hquery, htold.outcome_bind]
  exact hstep.conclude (fun _ _ hp => hp.states) hahead e d

/-- **A log is transparent** where the middlewares behind it do not depend on what is compiled, and
those in front of it do not on the way back, and where its callback only tells. -/
theorem log_transparent (s : Session σ) (outer : List (Chooser (Run σ))) (l : QueryLog)
    (callback : Query → Run σ Unit) (inner : List (Chooser (Run σ))) (e : Entity) (stmt : Statement)
    (d : Demand) (houter : ∀ d ∈ outer, d.Tolerant s e stmt)
    (hinner : ∀ d ∈ inner, d.Indifferent s e stmt) (hcallback : ∀ q, (callback q).Silent)
    (c : Scope σ) (w : RunState σ) : Transparent s outer l callback inner e stmt d c w where
  asked := by
    intro m afters p h
    obtain ⟨built, p₁, hquery, -⟩ :=
      Session.query_ends (h.tolerant houter).1 stmt m c
    exact ⟨built, p₁, hquery⟩
  same := by
    intro hok
    by_cases hempty : ∃ columns upsert, d = .exec ∧ stmt = .insert ⟨[], columns, upsert⟩
    · -- An insertion of nothing gets to no middleware.
      obtain ⟨columns, upsert, rfl, rfl⟩ := hempty
      exact .refl _
    have hstmt : ∀ columns upsert, d = .exec → stmt ≠ .insert ⟨[], columns, upsert⟩ :=
      fun columns upsert hd h => hempty ⟨columns, upsert, hd, h⟩
    obtain ⟨err | m, w₁, hm⟩ := s.exists_eval_model e c w
    · -- Neither does an operation on an entity without a model.
      rw [Session.unlogged, Session.logged,
        Session.eval_ask_of_error (s := s.withMiddlewares _) hstmt hm,
        Session.eval_ask_of_error (s := s.withMiddlewares _) hstmt hm]
      exact .refl _
    · by_cases hin : ∃ afters p, WayIn c (s.callOf e stmt m) outer ⟨none, w₁⟩ afters p
      · obtain ⟨afters, p, hin⟩ := hin
        have h : s.GetsTo e stmt d outer c w m afters p := ⟨hstmt, w₁, hm, hin⟩
        obtain ⟨built, p₁, hquery, -⟩ :=
          Session.query_ends (h.tolerant houter).1 stmt m c
        rcases built with err | q
        · exact absurd hquery (hok m afters p err p₁ h)
        · exact h.matches houter hinner hcallback hquery
      · -- What turns around in front of the log does not get to it.
        rw [Session.unlogged, Session.logged, Session.eval_ask_of_model hstmt hm,
          Session.eval_ask_of_model hstmt hm, List.map_append, outcome_pipeline_of_turned hin]
        exact .refl _
  told := by
    intro m afters p q p₁ h hquery
    rw [Session.logged, h.eval_ask, pipeline_cons, QueryLog.outcome_middleware_of_ok hquery]
  forwarded := by
    intro m afters p q p₁ p₂ afters' p₃ h hquery htell hin
    obtain ⟨-, hok⟩ := Session.of_reaches_query (h.tolerant houter).1 hquery
    obtain ⟨-, hkept₁⟩ := hok q rfl
    have hkept₂ : p₂.kept = some q := (kept_of_reaches_lift htell).trans hkept₁
    have hkept₃ : p₃.kept = some q := hin.kept_of_indifferent hinner hkept₂
    have hperform : outcome c (s.perform e d (s.callOf e stmt m)) p₃ =
        outcome c (liftM (s.answer e d m q)) p₃ := by
      rcases p₃ with ⟨_, w₃⟩
      subst hkept₃
      exact (reaches_query_kept q w₃).outcome_bind _
    refine ⟨hkept₃, hperform, ?_⟩
    rw [hperform, snd_outcome_lift]
    exact s.sent_answer e d m q c p₃.state
  refused := by
    intro m afters p err p₁ h hquery
    constructor
    · exact (Session.of_reaches_query (h.tolerant houter).1 hquery).1
    · rw [Session.logged, h.eval_ask, pipeline_cons, QueryLog.outcome_middleware_of_error hquery]

end Transparency

/-- A log that cuts statements after four bytes, with a callback. -/
def shortLog : QueryLog := ⟨.debug, some 4, true⟩

/-- The callback of scenarios, which writes statements to the log. -/
def noteStatement (q : Query) : Run (Scripted.State × List DriverCall) Unit :=
  writeLog (.statement q)

/-- A database with guests, outside of transactions. -/
def frontDesk : Session (Scripted.State × List DriverCall) :=
  .plain 0 ⟨⟨.postgres, .byName, 0, none, 0⟩, []⟩

/-- Its scope, with a record of the calls of its driver. -/
def guestScope : Scope (Scripted.State × List DriverCall) :=
  (Scenario.startScope Scripted.driver).recording

/-- A stage of a scenario as it chooses. -/
def guestStage (stage : Scenario.Stage) : Chooser (Run (Scripted.State × List DriverCall)) :=
  stage.chooser 0

/-- A stage that registers guests anew after the statement was compiled, and one behind it. -/
def lateStages : List (Chooser (Run (Scripted.State × List DriverCall))) :=
  [guestStage (.rename guest "visitors" true), guestStage (.record "inner")]

/-- A stage that registers guests anew before the statement is compiled. -/
def earlyStages : List (Chooser (Run (Scripted.State × List DriverCall))) :=
  [guestStage (.rename guest "visitors" false)]

/-- All guests are deleted. -/
def checkout : Statement := .delete ⟨none, []⟩

/-- The call of a driver that is answered with one row. -/
def executed (sql : String) : DriverCall := .execute ⟨sql, []⟩ (.answered ⟨0⟩ (.ok ⟨1, none⟩))

/-- A log in front of a stage that has the statement compiled and registers guests anew: the callback
gets the whole statement, then the stage behind it runs, and the driver gets the same statement. -/
theorem loggedDeletion_transparent :
    (∀ d ∈ [guestStage (.record "outer")], d.Tolerant frontDesk guest checkout) ∧
    (∀ d ∈ lateStages, d.Indifferent frontDesk guest checkout) ∧
    (∀ q, (noteStatement q).Silent) ∧
    Transparent frontDesk [guestStage (.record "outer")] shortLog noteStatement lateStages guest
      checkout .exec guestScope watchedState ∧
    (∃ afters p p₁, frontDesk.GetsTo guest checkout .exec [guestStage (.record "outer")] guestScope
        watchedState guestModel afters p ∧
      Reaches guestScope (frontDesk.callOf guest checkout guestModel).query p
        (.ok ⟨"DELETE FROM \"guests\";", []⟩) p₁) ∧
    ∃ w', ((frontDesk.logged [guestStage (.record "outer")] shortLog noteStatement lateStages).ask
        guest checkout .exec).eval guestScope watchedState =
        (.ok (.ok (⟨1, none⟩ : ExecResult)), w') ∧
      w'.calls 0 = [executed "DELETE FROM \"guests\";"] ∧
      w'.log = [.line "outer:before:DELETE", .statement ⟨"DELETE FROM \"guests\";", []⟩,
        .renamed (.ok "visitors") "guests" (.ok "DELETE FROM \"visitors\";")
          (.ok "DELETE FROM \"guests\";"),
        .line "inner:before:DELETE", .line "inner:after:false", .line "outer:after:false"] := by
  have houter : ∀ d ∈ [guestStage (.record "outer")], d.Tolerant frontDesk guest checkout :=
    List.forall_mem_singleton.mpr (Scenario.Stage.tolerant 0 _)
  have hinner : ∀ d ∈ lateStages, d.Indifferent frontDesk guest checkout := by
    simp only [lateStages, List.forall_mem_cons]
    exact ⟨Scenario.Stage.indifferent 0 (.inl rfl), Scenario.Stage.indifferent 0 trivial, nofun⟩
  have hcallback (q : Query) : (noteStatement q).Silent := silent_writeLog _
  have htransparent := log_transparent frontDesk [guestStage (.record "outer")] shortLog
    noteStatement lateStages guest checkout .exec houter hinner hcallback guestScope watchedState
  -- The first stage hands the call on after an entry in the log.
  let w₁ := { watchedState with log := [.line "outer:before:DELETE"] }
  obtain ⟨after, hrecord⟩ : ∃ after, Reaches guestScope
      (guestStage (.record "outer") (frontDesk.callOf guest checkout guestModel))
      ⟨none, watchedState⟩ (.handOn after) ⟨none, w₁⟩ :=
    ⟨_, reaches_bind.mpr ⟨(), ⟨none, w₁⟩, rfl, reaches_pure _ _⟩⟩
  have hgets : frontDesk.GetsTo guest checkout .exec [guestStage (.record "outer")] guestScope
      watchedState guestModel [after] ⟨none, w₁⟩ :=
    ⟨nofun, watchedState, rfl, .cons hrecord (.nil _)⟩
  have hasked : Reaches guestScope (frontDesk.callOf guest checkout guestModel).query ⟨none, w₁⟩
      (.ok ⟨"DELETE FROM \"guests\";", []⟩) ⟨some ⟨"DELETE FROM \"guests\";", []⟩, w₁⟩ := rfl
  exact ⟨houter, hinner, hcallback, htransparent, ⟨_, _, _, hgets, hasked⟩, _, rfl, rfl, rfl⟩

/-- **Registering the entity anew behind a log** comes too late: with the log the driver gets the
statement about the old table, and without it the one about the new table. -/
theorem rename_behind_log :
    (∃ p p₁, frontDesk.GetsTo guest checkout .exec [] guestScope watchedState guestModel [] p ∧
      Reaches guestScope (frontDesk.callOf guest checkout guestModel).query p
        (.ok ⟨"DELETE FROM \"guests\";", []⟩) p₁) ∧
    (∃ w₁ w₂, ((frontDesk.unlogged [] earlyStages).ask guest checkout .exec).eval guestScope
        watchedState = (.ok (.ok (⟨1, none⟩ : ExecResult)), w₁) ∧
      ((frontDesk.logged [] shortLog noteStatement earlyStages).ask guest checkout .exec).eval
        guestScope watchedState = (.ok (.ok (⟨1, none⟩ : ExecResult)), w₂) ∧
      w₁.calls 0 = [executed "DELETE FROM \"visitors\";"] ∧
      w₂.calls 0 = [executed "DELETE FROM \"guests\";"]) ∧
    ¬ MatchingOutcomes
      (((frontDesk.unlogged [] earlyStages).ask guest checkout .exec).eval guestScope watchedState)
      (((frontDesk.logged [] shortLog noteStatement earlyStages).ask guest checkout .exec).eval
        guestScope watchedState) := by
  have hgets : frontDesk.GetsTo guest checkout .exec [] guestScope watchedState guestModel []
      ⟨none, watchedState⟩ :=
    ⟨nofun, watchedState, rfl, .nil _⟩
  obtain ⟨w, hasked⟩ : ∃ w, Reaches guestScope (frontDesk.callOf guest checkout guestModel).query
      ⟨none, watchedState⟩ (.ok ⟨"DELETE FROM \"guests\";", []⟩)
      ⟨some ⟨"DELETE FROM \"guests\";", []⟩, w⟩ := ⟨_, rfl⟩
  obtain ⟨w₁, hwithout, hcalls₁⟩ : ∃ w₁,
      ((frontDesk.unlogged [] earlyStages).ask guest checkout .exec).eval guestScope watchedState =
        (.ok (.ok (⟨1, none⟩ : ExecResult)), w₁) ∧
      w₁.calls 0 = [executed "DELETE FROM \"visitors\";"] := ⟨_, rfl, rfl⟩
  obtain ⟨w₂, hwith, hcalls₂⟩ : ∃ w₂,
      ((frontDesk.logged [] shortLog noteStatement earlyStages).ask guest checkout .exec).eval
        guestScope watchedState = (.ok (.ok (⟨1, none⟩ : ExecResult)), w₂) ∧
      w₂.calls 0 = [executed "DELETE FROM \"guests\";"] := ⟨_, rfl, rfl⟩
  refine ⟨⟨_, _, hgets, hasked⟩, ⟨w₁, w₂, hwithout, hwith, hcalls₁, hcalls₂⟩, ?_⟩
  intro hmatch
  obtain ⟨-, hw⟩ := hmatch.of_eq hwithout hwith
  -- Matching runs leave the drivers with the same calls.
  have hcalls : w₂.calls 0 = w₁.calls 0 := by
    rw [RunState.calls, RunState.calls, hw.states]
  rw [hcalls₁, hcalls₂] at hcalls
  simp [executed] at hcalls

end EntityMapper

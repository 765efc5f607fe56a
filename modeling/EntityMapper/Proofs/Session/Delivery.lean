import EntityMapper.Proofs.Driver.Recording
import EntityMapper.Proofs.Session.Harmless

/-!
# What gets to a driver

Through middlewares that leave databases alone, an operation makes at most one call of a driver: it
carries the compiled statement, and is made only if the statement was compiled. If the entity of the
operation cannot be registered, or the statement cannot be compiled, no driver is called, and the
caller gets the fault unless a middleware returned something of its own.

## Main definitions

* `Demand.next d driver b q st`: the step of a driver that an operation makes
* `Sent s d built driver w w'`: what an operation does to databases
* `Turns`: where a call turns around
* `RunsAt c call last ds p q`: a middleware runs at a point
* `Interferes c call last ds p given`: a middleware returns something of its own
* `DriverCall.Carries d q`: the call of an operation with a statement
* `Delivery s ds e stmt d built c w out`: what an operation delivers

## Main results

* `Session.eval_statement`: a statement makes at most one step of the driver
* `perform_sent`: so does the last stage, with the compiled statement
* `RunsAt.settled`: middlewares run at settled points
* `eq_or_interferes`: what is answered comes out, unless a middleware interferes
* `operation_delivers`: what an operation delivers
-/

namespace EntityMapper

open EntityMapper.Sql

variable {σ α β : Type}

/-! ## Statements -/

namespace Session

/-- **A statement makes at most one step of the driver**, and leaves registries and transactions as
they are. -/
theorem eval_statement (s : Session σ) (mode : StatementMode) (q : Query)
    (step : Bool → Driver σ → σ → Turn σ (Reply α)) (c : Scope σ) (w : RunState σ) :
    let w' := ((s.statement mode q step).eval c w).2
    w'.registries = w.registries ∧ w'.handles = w.handles ∧ w'.begun = w.begun ∧
      (w'.states = w.states ∨ w'.states = update w.states s.index
        (step s.transaction.isSome c.driver (w.states s.index)).next) := by
  intro w'
  cases hs : s.transaction with
  | none =>
    obtain ⟨now, trace, res, h, -⟩ := s.eval_statement_plain (c := c) (w := w) hs mode q step
    have hw' : w' = _ := congrArg Prod.snd h
    rw [hw']
    exact ⟨rfl, rfl, rfl, .inr rfl⟩
  | some id =>
    rcases hw : w.handles id with ⟨db, isOpen, done, locked⟩
    cases locked with
    | true =>
      obtain ⟨now, trace, res, h, -⟩ := s.eval_statement_locked (c := c) hs hw mode q step
      have hw' : w' = _ := congrArg Prod.snd h
      rw [hw']
      exact ⟨rfl, rfl, rfl, .inl rfl⟩
    | false =>
      cases isOpen with
      | true =>
        obtain ⟨now, trace, res, h, -⟩ := s.eval_statement_open (c := c) hs hw mode q step
        have hw' : w' = _ := congrArg Prod.snd h
        rw [hw']
        exact ⟨rfl, rfl, rfl, .inr rfl⟩
      | false =>
        obtain ⟨trace, h⟩ := s.eval_statement_gone (c := c) hs hw mode q step
        have hw' : w' = _ := congrArg Prod.snd h
        rw [hw']
        exact ⟨rfl, rfl, rfl, .inl rfl⟩

end Session

/-- The step of a driver that an operation makes. -/
def Demand.next (d : Demand) (driver : Driver σ) (inTransaction : Bool) (q : Query) (st : σ) : σ :=
  match d with
  | .exec => (driver.execute inTransaction q st).next
  | _ => (driver.query inTransaction q st).next

/-- **What an operation does to databases**: nothing, or one step of its own driver with the
statement that was built. -/
structure Sent (s : Session σ) (d : Demand) (built : Except Error Query) (driver : Driver σ)
    (w w' : RunState σ) : Prop where
  states : w'.states = w.states ∨ ∃ q, built = .ok q ∧ w'.states =
    update w.states s.index (d.next driver s.transaction.isSome q (w.states s.index))
  registries : w'.registries = w.registries
  handles : w'.handles = w.handles
  begun : w'.begun = w.begun

section Sent

variable {s : Session σ} {d : Demand} {built : Except Error Query} {driver : Driver σ}
  {w w₁ w₂ : RunState σ}

theorem Sent.of_untouched (h : Untouched w w₁) : Sent s d built driver w w₁ :=
  ⟨.inl h.states, h.registries, h.handles, h.begun⟩

theorem Sent.trans_untouched (h : Sent s d built driver w w₁) (h' : Untouched w₁ w₂) :
    Sent s d built driver w w₂ where
  states := by rw [h'.states]; exact h.states
  registries := h'.registries.trans h.registries
  handles := h'.handles.trans h.handles
  begun := h'.begun.trans h.begun

theorem Untouched.trans_sent (h : Untouched w w₁) (h' : Sent s d built driver w₁ w₂) :
    Sent s d built driver w w₂ where
  states := by rw [← h.states]; exact h'.states
  registries := h'.registries.trans h.registries
  handles := h'.handles.trans h.handles
  begun := h'.begun.trans h.begun

/-- What was built makes at most one step. -/
theorem Sent.states_of_ok {q : Query} (h : Sent s d (.ok q) driver w w₁) :
    w₁.states = w.states ∨ w₁.states = update w.states s.index
      (d.next driver s.transaction.isSome q (w.states s.index)) := by
  obtain hstates | ⟨q', hq, hstates⟩ := h.states
  · exact .inl hstates
  · cases hq
    exact .inr hstates

/-- What was not built does not get to any driver. -/
theorem Sent.states_of_error {err : Error} (h : Sent s d (.error err) driver w w₁) :
    w₁.states = w.states := by
  obtain hstates | ⟨q, hq, -⟩ := h.states
  · exact hstates
  · cases hq

end Sent

namespace Session

theorem sent_execQuery (s : Session σ) (q : Query) (c : Scope σ) (w : RunState σ) :
    Sent s .exec (.ok q) c.driver w ((s.execQuery q).eval c w).2 := by
  obtain ⟨hregistries, hhandles, hbegun, hstates⟩ := s.eval_statement .exec q
    (fun inTransaction driver => driver.execute inTransaction q) c w
  exact ⟨hstates.imp id fun h => ⟨q, rfl, h⟩, hregistries, hhandles, hbegun⟩

theorem sent_queryRows (s : Session σ) {d : Demand} (hd : d ≠ .exec) (q : Query) (c : Scope σ)
    (w : RunState σ) : Sent s d (.ok q) c.driver w ((s.queryRows q).eval c w).2 := by
  obtain ⟨hregistries, hhandles, hbegun, hstates⟩ := s.eval_statement .query q
    (fun inTransaction driver => driver.query inTransaction q) c w
  refine ⟨hstates.imp id fun h => ⟨q, rfl, ?_⟩, hregistries, hhandles, hbegun⟩
  cases d with
  | exec => exact absurd rfl hd
  | _ => exact h

/-- **A compiled statement** makes at most one step of the driver. -/
theorem sent_answer (s : Session σ) (e : Entity) (d : Demand) (m : Model) (q : Query) (c : Scope σ)
    (w : RunState σ) : Sent s d (.ok q) c.driver w ((s.answer e d m q).eval c w).2 := by
  -- What follows the statement only decodes what was answered.
  cases d with
  | exec =>
    refine (s.sent_execQuery q c w).trans_untouched (untouched_bind _ (fun r => ?_) c w)
    cases r with
    | error err => exact .pure _
    | ok r => exact .pure _
  | first =>
    have hsent := s.sent_queryRows (d := .first) nofun q c w
    refine hsent.trans_untouched (untouched_bind _ (fun rows => ?_) c w)
    rcases rows with err | _ | ⟨r, rs⟩
    · exact .pure _
    · exact .pure _
    · exact (s.quiet_decode e m r).bind fun _ => .pure _
  | all =>
    have hsent := s.sent_queryRows (d := .all) nofun q c w
    refine hsent.trans_untouched (untouched_bind _ (fun rows => ?_) c w)
    cases rows with
    | error err => exact .pure _
    | ok rs => exact (s.quiet_decodeAll e m rs).bind fun _ => .pure _

end Session

/-! ## Points at which middlewares run -/

/-- **Where a call turns around**: at the first middleware that answers it, or at the last stage if
there is none. -/
inductive Turns (c : Scope σ) (call : Call (Run σ)) (last : Handler (Run σ)) :
    List (Chooser (Run σ)) → Point σ → List (Except Error Output → Part σ (Except Error Output)) →
    Except Error Output → Point σ → Prop where
  | answered {outer d inner p afters p₁ r p₂} (hin : WayIn c call outer p afters p₁)
    (h : Reaches c (d call) p₁ (.answer r) p₂) :
    Turns c call last (outer ++ d :: inner) p afters r p₂
  | through {ds p afters p₁ r p₂} (hin : WayIn c call ds p afters p₁)
    (h : Reaches c (last call) p₁ r p₂) : Turns c call last ds p afters r p₂

/-- **The points at which middlewares run** in an operation: where one is entered, where what comes
back gets to it, and wherever it gets from there without concerning anybody else. -/
inductive RunsAt (c : Scope σ) (call : Call (Run σ)) (last : Handler (Run σ))
    (ds : List (Chooser (Run σ))) (p : Point σ) : Point σ → Prop where
  | entered {outer d inner afters p₁} (hsplit : ds = outer ++ d :: inner)
    (hin : WayIn c call outer p afters p₁) : RunsAt c call last ds p p₁
  | passed {outer after inner r p₁ r' p₂}
    (hturn : Turns c call last ds p (outer ++ after :: inner) r p₁)
    (h : Reaches c (passBack inner r) p₁ r' p₂) : RunsAt c call last ds p p₂
  | within {α : Type} {x : Part σ α} {a p₁ p₂} (hp₁ : RunsAt c call last ds p p₁)
    (hx : Harmless call x) (h : Reaches c x p₁ a p₂) : RunsAt c call last ds p p₂

/-- **A middleware returns something of its own** instead of what it might be given: it answers
something else, or changes what comes back. -/
inductive Interferes (c : Scope σ) (call : Call (Run σ)) (last : Handler (Run σ))
    (ds : List (Chooser (Run σ))) (p : Point σ) (given : Except Error Output) : Prop where
  | answers {outer d inner afters p₁ r p₂} (hsplit : ds = outer ++ d :: inner)
    (hin : WayIn c call outer p afters p₁) (h : Reaches c (d call) p₁ (.answer r) p₂)
    (hr : r ≠ given)
  | changes {outer after inner r p₁ r' p₂ r'' p₃}
    (hturn : Turns c call last ds p (outer ++ after :: inner) r p₁)
    (hback : Reaches c (passBack inner r) p₁ r' p₂) (h : Reaches c (after r') p₂ r'' p₃)
    (hr : r'' ≠ r')

/-! ## Settled operations -/

section Operations

variable {s : Session σ} {e : Entity} {stmt : Statement} {m : Model} {d : Demand} {c : Scope σ}
  {p p' p₁ p₂ : Point σ} {ds : List (Chooser (Run σ))} {r : Except Error Output}
  {last : Handler (Run σ)}
  {afters : List (Except Error Output → Part σ (Except Error Output))}

/-- What the last stage comes to at a settled point. -/
theorem Settled.outcome_perform (hp : Settled s e stmt m p) (d : Demand) :
    ∃ p₁, Settled s e stmt m p₁ ∧ Untouched p.state p₁.state ∧
      outcome c (s.perform e d (s.callOf e stmt m)) p =
        outcome c (match s.compiled e stmt m with
          | .error err => pure (.error err)
          | .ok q => liftM (s.answer e d m q) : Part σ (Except Error Output)) p₁ := by
  obtain ⟨p₁, hquery, hp₁, hw₁⟩ := hp.reaches_query (c := c)
  exact ⟨p₁, hp₁, hw₁, hquery.outcome_bind _⟩

/-- **The last stage** asks for the compiled statement, and nothing else gets to a driver. -/
theorem Settled.perform (hp : Settled s e stmt m p) :
    (∀ r p', Reaches c (s.perform e d (s.callOf e stmt m)) p r p' →
      Settled s e stmt m p' ∧ Sent s d (s.compiled e stmt m) c.driver p.state p'.state ∧
        ∀ err, s.compiled e stmt m = .error err → r = .error err) ∧
    ∀ i w, Breaks c (s.perform e d (s.callOf e stmt m)) p i w →
      Sent s d (s.compiled e stmt m) c.driver p.state w := by
  obtain ⟨p₁, hp₁, hw₁, hperform⟩ := hp.outcome_perform (c := c) d
  simp only [Reaches, Breaks, hperform]
  cases hcompiled : s.compiled e stmt m with
  | error err =>
    have hpure := reaches_pure (c := c) (Except.error err : Except Error Output) p₁
    constructor
    · intro r p' h
      obtain ⟨rfl, rfl⟩ := hpure.unique h
      refine ⟨hp₁, .of_untouched hw₁, ?_⟩
      rintro err' ⟨⟩
      rfl
    · intro i w h
      exact absurd h hpure.not_breaks
  | ok q =>
    have hsent := hw₁.trans_sent (s.sent_answer e d m q c p₁.state)
    rw [outcome_lift]
    rcases hanswer : (s.answer e d m q).eval c p₁.state with ⟨i | r, w⟩ <;> rw [hanswer] at hsent
    · constructor
      · rintro r p' ⟨⟩
      · rintro i' w' ⟨⟩
        exact hsent
    · constructor
      · rintro r' ⟨kept, w'⟩ h
        simp only [Prod.mk.injEq, Except.ok.injEq] at h
        obtain ⟨⟨rfl, rfl⟩, rfl⟩ := h
        refine ⟨⟨?_, hp₁.kept⟩, hsent, ?_⟩
        · rw [hsent.registries]
          exact hp.model
        · rintro err ⟨⟩
      · rintro i w' ⟨⟩

/-- **A call turns around** at a settled point. -/
theorem Turns.settled (hturn : Turns c (s.callOf e stmt m) (s.perform e d) ds p afters r p')
    (hds : ∀ d ∈ ds, d.IsHarmless) (hp : Settled s e stmt m p) :
    Settled s e stmt m p' ∧ Sent s d (s.compiled e stmt m) c.driver p.state p'.state ∧
      ∀ after ∈ afters, ∀ r, Harmless (s.callOf e stmt m) (after r) := by
  cases hturn with
  | @answered outer d' inner _ _ p₁ _ _ hin h =>
    rw [List.forall_mem_append, List.forall_mem_cons] at hds
    obtain ⟨houter, hd', -⟩ := hds
    obtain ⟨hp₁, hw₁, hafters⟩ := hin.settled houter hp
    obtain ⟨hp', hw'⟩ := ((hd' (s.callOf e stmt m)).settled hp₁).reaches _ _ h
    exact ⟨hp', .of_untouched (hw₁.trans hw'), hafters⟩
  | through hin h =>
    obtain ⟨hp₁, hw₁, hafters⟩ := hin.settled hds hp
    obtain ⟨hp', hsent, -⟩ := (hp₁.perform (c := c)).1 _ _ h
    exact ⟨hp', hw₁.trans_sent hsent, hafters⟩

/-- **Middlewares run at settled points.** -/
theorem RunsAt.settled (h : RunsAt c (s.callOf e stmt m) (s.perform e d) ds p p')
    (hds : ∀ d ∈ ds, d.IsHarmless) (hp : Settled s e stmt m p) : Settled s e stmt m p' := by
  induction h with
  | @entered outer d' inner afters p₁ hsplit hin =>
    rw [hsplit, List.forall_mem_append] at hds
    exact (hin.settled hds.1 hp).1
  | passed hturn h =>
    obtain ⟨hp₁, -, hafters⟩ := hturn.settled hds hp
    rw [List.forall_mem_append, List.forall_mem_cons] at hafters
    exact (((harmless_passBack hafters.2.2 _).settled hp₁).reaches _ _ h).1
  | within _ hx h ih => exact ((hx.settled ih).reaches _ _ h).1

/-- **What is answered comes out**, unless a middleware changes it on its way. -/
theorem eq_or_changes {call : Call (Run σ)} {given : Except Error Output}
    (outer : List (Except Error Output → Part σ (Except Error Output)))
    (hturn : Turns c call last ds p (outer ++ afters) given p₁) {r' : Except Error Output}
    (h : Reaches c (passBack afters given) p₁ r' p₂) :
    r' = given ∨ Interferes c call last ds p given := by
  induction afters generalizing outer r' p₂ with
  | nil => exact .inl ((reaches_pure given p₁).unique h).1.symm
  | cons after inner ih =>
    obtain ⟨r₁, p', hback, hafter⟩ := reaches_bind.mp h
    have hshift : Turns c call last ds p ((outer ++ [after]) ++ inner) given p₁ := by
      rwa [List.append_assoc]
    obtain rfl | hinterferes := ih _ hshift hback
    · by_cases hr : r' = r₁
      · exact .inl hr
      · exact .inr (.changes hturn hback hafter hr)
    · exact .inr hinterferes

/-- A fault of the statement is what turns around, unless a middleware answers something else. -/
theorem Turns.eq_or_answers (hturn : Turns c (s.callOf e stmt m) (s.perform e d) ds p afters r p')
    (hds : ∀ d ∈ ds, d.IsHarmless) (hp : Settled s e stmt m p) {err : Error}
    (hcompiled : s.compiled e stmt m = .error err) :
    r = .error err ∨
      Interferes c (s.callOf e stmt m) (s.perform e d) ds p (.error err) := by
  cases hturn with
  | answered hin h =>
    by_cases hr : r = .error err
    · exact .inl hr
    · exact .inr (.answers rfl hin h hr)
  | through hin h =>
    obtain ⟨hp₁, -, -⟩ := hin.settled hds hp
    obtain ⟨-, -, hfault⟩ := (hp₁.perform (c := c)).1 _ _ h
    exact .inl (hfault err hcompiled)

/-- What comes out after a call has turned around. -/
theorem Turns.delivers (hturn : Turns c (s.callOf e stmt m) (s.perform e d) ds p afters r p')
    (hds : ∀ d ∈ ds, d.IsHarmless) (hp : Settled s e stmt m p) :
    Sent s d (s.compiled e stmt m) c.driver p.state (outcome c (passBack afters r) p').2 ∧
      ∀ err r' p'', s.compiled e stmt m = .error err → Reaches c (passBack afters r) p' r' p'' →
        r' = .error err ∨
          Interferes c (s.callOf e stmt m) (s.perform e d) ds p (.error err) := by
  obtain ⟨hp', hsent, hafters⟩ := hturn.settled hds hp
  constructor
  · exact hsent.trans_untouched ((harmless_passBack hafters r).settled hp').untouched
  · intro err r' p'' hcompiled h
    obtain rfl | hinterferes := hturn.eq_or_answers hds hp hcompiled
    · exact eq_or_changes [] hturn h
    · exact .inr hinterferes

/-- **Harmless middlewares around the last stage of an operation**: at most the compiled statement
gets to a driver, and a fault of the statement comes out, unless a middleware interferes. -/
theorem pipeline_delivers (hds : ∀ d ∈ ds, d.IsHarmless) (hp : Settled s e stmt m p) (d : Demand) :
    Sent s d (s.compiled e stmt m) c.driver p.state
        (outcome c (pipeline (ds.map Chooser.middleware) (s.perform e d) (s.callOf e stmt m)) p).2 ∧
      ∀ err r p', s.compiled e stmt m = .error err →
        Reaches c (pipeline (ds.map Chooser.middleware) (s.perform e d) (s.callOf e stmt m)) p r
          p' →
        r = .error err ∨
          Interferes c (s.callOf e stmt m) (s.perform e d) ds p (.error err) := by
  have hnested := pipeline_nested c (s.callOf e stmt m) (s.perform e d) ds p
  obtain ⟨afters, p₁, hin⟩ | ⟨outer, d', inner, afters, p₁, rfl, hin, ⟨r, p₂, h⟩ | ⟨i, w, h⟩⟩ :=
    hnested.total
  · obtain ⟨hp₁, hw₁, -⟩ := hin.settled hds hp
    have hresult := hnested.through afters p₁ hin
    obtain ⟨r, p₂, h⟩ | ⟨i, w, h⟩ := reaches_or_breaks c (s.perform e d (s.callOf e stmt m)) p₁
    · have hturn : Turns c _ (s.perform e d) ds p afters r p₂ := .through hin h
      rw [h.outcome_bind] at hresult
      simp only [Reaches, hresult]
      exact hturn.delivers hds hp
    · have hbreaks := h.bind (passBack afters)
      simp only [Reaches, hresult]
      rw [hbreaks]
      refine ⟨hw₁.trans_sent ((hp₁.perform (c := c)).2 i w h), ?_⟩
      rintro err r p' - ⟨⟩
  · have hturn : Turns c _ (s.perform e d) (outer ++ d' :: inner) p afters r p₂ := .answered hin h
    have hresult := hnested.answered outer d' inner afters p₁ r p₂ rfl hin h
    simp only [Reaches, hresult]
    exact hturn.delivers hds hp
  · have hresult := hnested.interrupted outer d' inner afters p₁ i w rfl hin h
    rw [List.forall_mem_append, List.forall_mem_cons] at hds
    obtain ⟨hp₁, hw₁, -⟩ := hin.settled hds.1 hp
    have hw : Untouched p₁.state w := ((hds.2.1 (s.callOf e stmt m)).settled hp₁).breaks i w h
    simp only [Reaches, hresult]
    refine ⟨.of_untouched (hw₁.trans hw), ?_⟩
    rintro err r p' - ⟨⟩

end Operations

/-! ## Deliveries -/

/-- The call carries the statement of an operation, in the way that the operation asks for. -/
def DriverCall.Carries (d : Demand) (q : Query) : DriverCall → Prop
  | .execute q' _ => d = .exec ∧ q' = q
  | .query q' _ => d ≠ .exec ∧ q' = q
  | _ => False

/-- What is sent is one call. -/
theorem Sent.calls {s : Session (σ × List DriverCall)} {d : Demand} {built : Except Error Query}
    {driver : Driver σ} {w w' : RunState (σ × List DriverCall)}
    (h : Sent s d built driver.recording w w') :
    w'.states = w.states ∨ ∃ q entry, built = .ok q ∧ entry.Carries d q ∧
      w'.calls s.index = w.calls s.index ++ [entry] ∧
      ∀ j, j ≠ s.index → w'.states j = w.states j := by
  obtain hstates | ⟨q, hbuilt, hstates⟩ := h.states
  · exact .inl hstates
  · have hothers : ∀ j, j ≠ s.index → w'.states j = w.states j := by
      intro j hj
      rw [hstates]
      exact if_neg hj
    right
    cases d with
    | exec =>
      refine ⟨q, .execute q (driver.execute s.transaction.isSome q (w.states s.index).1).outcome,
        hbuilt, ⟨rfl, rfl⟩, ?_, hothers⟩
      rw [RunState.calls, hstates, update_same]
      rfl
    | _ =>
      refine ⟨q, .query q (driver.query s.transaction.isSome q (w.states s.index).1).outcome,
        hbuilt, ⟨by simp, rfl⟩, ?_, hothers⟩
      rw [RunState.calls, hstates, update_same]
      rfl

section Registration

variable {s : Session σ} {e : Entity} {stmt : Statement} {c : Scope σ} {w w₁ : RunState σ}

/-- Looking for a model leaves drivers and transactions as they are. -/
theorem Session.of_eval_model {r : Except Error Model} (h : (s.model e).eval c w = (.ok r, w₁)) :
    w₁.states = w.states ∧ w₁.handles = w.handles ∧ w₁.begun = w.begun := by
  rw [Session.model, eval_modelOf] at h
  cases hl : (w.registries s.registry).lookup? e with
  | some m =>
    rw [hl] at h
    cases h
    exact ⟨rfl, rfl, rfl⟩
  | none =>
    simp only [hl, eval_registerEntity] at h
    cases hr : (w.registries s.registry).register e [] with
    | error err =>
      rw [hr] at h
      cases h
      exact ⟨rfl, rfl, rfl⟩
    | ok p =>
      rw [hr] at h
      cases h
      exact ⟨rfl, rfl, rfl⟩

/-- Building a statement is never interrupted, and leaves drivers and transactions as they are. -/
theorem Session.exists_eval_build (s : Session σ) (e : Entity) (stmt : Statement) (c : Scope σ)
    (w : RunState σ) : ∃ built w', (s.build e stmt).eval c w = (.ok built, w') ∧
      w'.states = w.states ∧ w'.handles = w.handles ∧ w'.begun = w.begun := by
  obtain ⟨err | m, w₁, hm⟩ := s.exists_eval_model e c w
  · by_cases hwritten : ∃ q, stmt = .handwritten q
    · obtain ⟨q, rfl⟩ := hwritten
      exact ⟨_, _, rfl, rfl, rfl, rfl⟩
    · rw [s.build_of_ne_handwritten e fun q h => hwritten ⟨q, h⟩]
      cases stmt.refusal? with
      | some err => exact ⟨_, _, rfl, rfl, rfl, rfl⟩
      | none =>
        dsimp only
        rw [eval_bind, hm]
        exact ⟨_, _, rfl, of_eval_model hm⟩
  · obtain ⟨hstates, hhandles, hbegun⟩ := of_eval_model hm
    obtain ⟨w', h, hw' | hw'⟩ := Session.eval_build_compiled stmt hm
    · exact ⟨_, _, h, hw'.states, hw'.handles, hw'.begun⟩
    · exact ⟨_, _, h, hw'.states.trans hstates, hw'.handles.trans hhandles,
        hw'.begun.trans hbegun⟩

/-- **The last stage of an operation** makes at most one step of the driver of its session, with the
statement that is kept or else compiled, wherever it is reached. -/
theorem Session.perform_states (s : Session σ) (e : Entity) (stmt : Statement) (m : Model)
    (d : Demand) (c : Scope σ) (p : Point σ) :
    let w' := (outcome c (s.perform e d (s.callOf e stmt m)) p).2
    w'.states = p.state.states ∨
      ∃ q, (p.kept = some q ∨ ∃ w₁, (s.build e stmt).eval c p.state = (.ok (.ok q), w₁)) ∧
        w'.states = update p.state.states s.index
          (d.next c.driver s.transaction.isSome q (p.state.states s.index)) := by
  let answered (q : Query) : Part σ (Except Error Output) := liftM (s.answer e d m q)
  have hanswer (q : Query) (w : RunState σ) :
      (outcome c (answered q) ⟨some q, w⟩).2.states = w.states ∨
        (outcome c (answered q) ⟨some q, w⟩).2.states = update w.states s.index
          (d.next c.driver s.transaction.isSome q (w.states s.index)) := by
    rw [snd_outcome_lift]
    exact (s.sent_answer e d m q c w).states_of_ok
  rcases p with ⟨_ | q, w⟩
  · obtain ⟨built, w₁, hbuild, hw₁, -⟩ := s.exists_eval_build e stmt c w
    have hquery : Reaches c (s.callOf e stmt m).query ⟨none, w⟩ built ⟨built.toOption, w₁⟩ :=
      reaches_query_built hbuild
    rw [Session.perform, hquery.outcome_bind]
    cases built with
    | error err => exact .inl hw₁
    | ok q =>
      have hstates := hanswer q w₁
      rw [hw₁] at hstates
      exact hstates.imp id fun h => ⟨q, .inr ⟨w₁, hbuild⟩, h⟩
  · exact (hanswer q w).imp id fun h => ⟨q, .inl rfl, h⟩

end Registration

/-- **What an operation delivers.** At most one call of a driver, with the statement that was built,
which is what every middleware gets that asks for it. Transactions are left as they are. If the
entity cannot be registered, or the statement cannot be built, no driver is called, and the caller
gets the fault, unless the operation is interrupted or a middleware returned something of its
own. -/
structure Delivery (s : Session (σ × List DriverCall))
    (ds : List (Chooser (Run (σ × List DriverCall)))) (e : Entity) (stmt : Statement) (d : Demand)
    (built : Except Error Query) (c : Scope (σ × List DriverCall))
    (w : RunState (σ × List DriverCall))
    (result : Except Interrupt (Except Error d.Result) × RunState (σ × List DriverCall)) :
    Prop where
  calls : result.2.states = w.states ∨ ∃ q entry, built = .ok q ∧ entry.Carries d q ∧
    result.2.calls s.index = w.calls s.index ++ [entry] ∧
    ∀ j, j ≠ s.index → result.2.states j = w.states j
  handles : result.2.handles = w.handles
  queries : ∀ m w₁, (s.model e).eval c w = (.ok (.ok m), w₁) →
    ∀ p, RunsAt c (s.callOf e stmt m) (s.perform e d) ds ⟨none, w₁⟩ p →
      ∃ p', Reaches c (s.callOf e stmt m).query p built p'
  unregistered : ∀ err w₁, (s.model e).eval c w = (.ok (.error err), w₁) →
    result.2.states = w.states ∧ (result.1 = .ok (.error err) ∨
      ∃ err', built = .error err' ∧ result.1 = .ok (.error err'))
  unbuilt : ∀ err m w₁, built = .error err → (s.model e).eval c w = (.ok (.ok m), w₁) →
    result.2.states = w.states ∧ (result.1 = .ok (.error err) ∨ (∃ i, result.1 = .error i) ∨
      Interferes c (s.callOf e stmt m) (s.perform e d) ds ⟨none, w₁⟩ (.error err))

section Deliveries

variable {s : Session (σ × List DriverCall)} {ds : List (Chooser (Run (σ × List DriverCall)))}
  {e : Entity} {stmt : Statement} {d : Demand} {built : Except Error Query} {c : Scope σ}
  {w w₁ w' : RunState (σ × List DriverCall)} {m : Model}

/-- Whoever asks for the compiled statement gets what was built. -/
theorem RunsAt.reaches_query (hds : ∀ d ∈ ds, d.IsHarmless)
    (hbuilt : (s.build e stmt).eval c.recording w = (.ok built, w'))
    (hm : (s.model e).eval c.recording w = (.ok (.ok m), w₁))
    {p : Point (σ × List DriverCall)}
    (hp : RunsAt c.recording (s.callOf e stmt m) (s.perform e d) ds ⟨none, w₁⟩ p) :
    ∃ p', Reaches c.recording (s.callOf e stmt m).query p built p' := by
  obtain ⟨w₂, hcompiled, -⟩ := Session.eval_build_compiled stmt hm
  cases hcompiled.symm.trans hbuilt
  have hstart : Settled s e stmt m ⟨none, w₁⟩ := ⟨lookup?_of_modelOf hm, nofun⟩
  obtain ⟨p', h, -⟩ := (hp.settled hds hstart).reaches_query (c := c.recording)
  exact ⟨p', h⟩

/-- An insertion of nothing delivers nothing. -/
theorem delivery_empty {columns : List String} {upsert : Option Upsert}
    (hds : ∀ d ∈ ds, d.IsHarmless) (hstmt : stmt = .insert ⟨[], columns, upsert⟩)
    (hbuilt : (s.build e stmt).eval c.recording w = (.ok built, w')) :
    Delivery s ds e stmt d built c.recording w (.ok (.error .insertZeroRow), w) where
  calls := .inl rfl
  handles := rfl
  queries _ _ hm _ hp := hp.reaches_query hds hbuilt hm
  unregistered _ _ _ := by
    subst hstmt
    cases hbuilt
    exact ⟨rfl, .inr ⟨_, rfl, rfl⟩⟩
  unbuilt err _ _ hfault _ := by
    subst hstmt
    cases hbuilt
    cases hfault
    exact ⟨rfl, .inl rfl⟩

/-- Without a model of its entity, an operation delivers nothing. -/
theorem delivery_unregistered {err : Error}
    (hm : (s.model e).eval c.recording w = (.ok (.error err), w₁)) :
    Delivery s ds e stmt d built c.recording w (.ok (.error err), w₁) := by
  obtain ⟨hstates, hhandles, -⟩ := Session.of_eval_model hm
  refine ⟨.inl hstates, hhandles, ?_, ?_, ?_⟩
  · intro m w₂ hm'
    cases hm.symm.trans hm'
  · intro err' w₂ hm'
    cases hm.symm.trans hm'
    exact ⟨hstates, .inl rfl⟩
  · intro err' m w₂ _ hm'
    cases hm.symm.trans hm'

/-- With a model of its entity, an operation delivers what its middlewares and its last stage
send. -/
theorem delivery_of_sent (hds : ∀ d ∈ ds, d.IsHarmless)
    (hbuilt : (s.build e stmt).eval c.recording w = (.ok built, w'))
    (hm : (s.model e).eval c.recording w = (.ok (.ok m), w₁))
    {result : Except Interrupt (Except Error d.Result) × RunState (σ × List DriverCall)}
    (hsent : Sent s d (s.compiled e stmt m) c.recording.driver w₁ result.2)
    (hfault : ∀ err, s.compiled e stmt m = .error err → result.1 = .ok (.error err) ∨
      (∃ i, result.1 = .error i) ∨ Interferes c.recording (s.callOf e stmt m) (s.perform e d) ds
        ⟨none, w₁⟩ (.error err)) :
    Delivery s ds e stmt d built c.recording w result := by
  obtain ⟨w₂, hcompiled, -⟩ := Session.eval_build_compiled stmt hm
  cases hcompiled.symm.trans hbuilt
  obtain ⟨hstates, hhandles, -⟩ := Session.of_eval_model hm
  refine ⟨?_, hsent.handles.trans hhandles, ?_, ?_, ?_⟩
  · rw [RunState.calls, RunState.calls, ← hstates]
    exact hsent.calls
  · intro m' w₃ hm' p hp
    exact hp.reaches_query hds hbuilt hm'
  · intro err w₃ hm'
    cases hm.symm.trans hm'
  · intro err m' w₃ herr hm'
    cases hm.symm.trans hm'
    rw [herr] at hsent
    exact ⟨hsent.states_of_error.trans hstates, hfault err herr⟩

/-- **Nothing but the compiled statement gets to a driver, and only if it was compiled**, whatever
session the operation is in, and through all middlewares that leave databases alone. -/
theorem operation_delivers (s : Session (σ × List DriverCall))
    (hs : s.database.middlewares = ds.map Chooser.middleware) (hds : ∀ d ∈ ds, d.IsHarmless)
    (e : Entity) (stmt : Statement) (d : Demand) (c : Scope σ)
    (w : RunState (σ × List DriverCall)) :
    ∃ built w', (s.build e stmt).eval c.recording w = (.ok built, w') ∧
      Delivery s ds e stmt d built c.recording w ((s.ask e stmt d).eval c.recording w) := by
  obtain ⟨built, w', hbuilt, -⟩ := s.exists_eval_build e stmt c.recording w
  refine ⟨built, w', hbuilt, ?_⟩
  have hasked := s.asked c.recording e stmt d w
  generalize (s.ask e stmt d).eval c.recording w = result at hasked ⊢
  cases hasked with
  | empty _ hstmt => exact delivery_empty hds hstmt hbuilt
  | unknown hm => exact delivery_unregistered hm
  | returned hm h hv =>
    rw [hs] at h
    have hstart : Settled s e stmt _ ⟨none, _⟩ := ⟨lookup?_of_modelOf hm, nofun⟩
    obtain ⟨hsent, hfault⟩ := pipeline_delivers (c := c.recording) hds hstart d
    rw [h] at hsent
    refine delivery_of_sent hds hbuilt hm hsent fun err herr => ?_
    obtain rfl | hinterferes := hfault err _ _ herr h
    · cases hv
      exact .inl rfl
    · exact .inr (.inr hinterferes)
  | interrupted hm h =>
    rw [hs] at h
    have hstart : Settled s e stmt _ ⟨none, _⟩ := ⟨lookup?_of_modelOf hm, nofun⟩
    obtain ⟨hsent, -⟩ := pipeline_delivers (c := c.recording) hds hstart d
    rw [h] at hsent
    exact delivery_of_sent hds hbuilt hm hsent fun err herr => .inr (.inl ⟨_, rfl⟩)

end Deliveries

/-- Stages that look at everything and answer nothing by themselves, unless the statement cannot be
compiled. -/
def watchers : List Scenario.Stage := [.inspect, .log .standard, .record "last"]

/-- A transaction behind these stages. -/
def watched : Session (Scripted.State × List DriverCall) :=
  ⟨0, some 0, ⟨⟨.postgres, .byName, 3, none, 0⟩, watchers.map (Scenario.Stage.middleware 0)⟩⟩

/-- The state in which the transaction is open, and guests are registered. -/
def watchedState : RunState (Scripted.State × List DriverCall) :=
  { Scenario.startState (.start [.exec ⟨1, none⟩] .none, []) [] with
    registries := fun _ => Registry.empty.store guestModel }

/-- In the transaction, an update without assignments gets to no driver, and a deletion gets there
once. -/
theorem watchedDeletion_delivers :
    let ds := watchers.map (Scenario.Stage.chooser 0)
    let c := Scenario.startScope Scripted.driver
    let q : Query := ⟨"DELETE FROM \"guests\";", []⟩
    watched.database.middlewares = ds.map Chooser.middleware ∧ (∀ d ∈ ds, d.IsHarmless) ∧
    ∃ w₁ w₂, w₁.calls 0 = [] ∧
      Delivery watched ds guest (.update ⟨none, [], []⟩) .exec (.error .noUpdatedColumns)
        c.recording watchedState (.ok (.error .noUpdatedColumns), w₁) ∧
      w₂.calls 0 = [.execute q (.answered ⟨0⟩ (.ok ⟨1, none⟩))] ∧
      Delivery watched ds guest (.delete ⟨none, []⟩) .exec (.ok q) c.recording watchedState
        (.ok (.ok ⟨1, none⟩), w₂) := by
  intro ds c q
  have hs : watched.database.middlewares = ds.map Chooser.middleware := by
    rw [List.map_map]
    exact List.map_congr_left fun stage _ => stage.middleware_eq 0
  have hds : ∀ d ∈ ds, d.IsHarmless := by
    simp only [ds, watchers, List.map_cons, List.map_nil, List.forall_mem_cons]
    exact ⟨Scenario.Stage.isHarmless 0 nofun, Scenario.Stage.isHarmless 0 nofun,
      Scenario.Stage.isHarmless 0 nofun, nofun⟩
  have hupdated : ∃ w₁, (watched.ask guest (.update ⟨none, [], []⟩) .exec).eval c.recording
      watchedState = (.ok (.error .noUpdatedColumns), w₁) ∧ w₁.calls 0 = [] := ⟨_, rfl, rfl⟩
  have hdeleted : ∃ w₂, (watched.ask guest (.delete ⟨none, []⟩) .exec).eval c.recording
      watchedState = (.ok (.ok (⟨1, none⟩ : ExecResult)), w₂) ∧
      w₂.calls 0 = [.execute q (.answered ⟨0⟩ (.ok ⟨1, none⟩))] := ⟨_, rfl, rfl⟩
  obtain ⟨w₁, hw₁, hcalls₁⟩ := hupdated
  obtain ⟨w₂, hw₂, hcalls₂⟩ := hdeleted
  obtain ⟨_, _, hbuilt₁, hdelivery₁⟩ :=
    operation_delivers watched hs hds guest (.update ⟨none, [], []⟩) .exec c watchedState
  obtain ⟨_, _, hbuilt₂, hdelivery₂⟩ :=
    operation_delivers watched hs hds guest (.delete ⟨none, []⟩) .exec c watchedState
  rw [hw₁] at hdelivery₁
  rw [hw₂] at hdelivery₂
  cases hbuilt₁
  cases hbuilt₂
  exact ⟨hs, hds, w₁, w₂, hcalls₁, hdelivery₁, hcalls₂, hdelivery₂⟩

end EntityMapper

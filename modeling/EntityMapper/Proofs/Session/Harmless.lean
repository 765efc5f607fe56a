import EntityMapper.Proofs.Run.Matching
import EntityMapper.Proofs.Session.Nesting

/-!
# Middlewares that leave databases alone

A middleware that does no input and output of its own and leaves registries alone may look at the
compiled statement that is kept, ask for it, have it compiled anew, and do what concerns nobody
else. Around an operation such middlewares leave the drivers, the registries and the transactions
as they are, and whenever one of them asks for the compiled statement, it gets the same.

## Main definitions

* `Untouched w w'`: drivers, registries and transactions are left as they are
* `Run.Quiet x`: the program `x` always leaves them so
* `Harmless call x`, `Chooses call x`, `Chooser.IsHarmless d`: what such middlewares are made of
* `Session.compiled s e stmt m`: the statement compiled in a model
* `Settled s e stmt m p`: the model is kept at a point, and no other compiled statement

## Main results

* `Settled.reaches_query`: who asks for the compiled statement gets it
* `Harmless.settled`, `Chooses.settled`: harmless parts leave everything settled
* `WayIn.settled`, `harmless_passBack`: so do the way in and the way back
* `Scenario.Stage.isHarmless`: the middlewares of scenarios that are harmless
-/

namespace EntityMapper

open EntityMapper.Sql

variable {σ α β : Type}

/-! ## Programs that concern nobody else -/

/-- **Drivers, registries and transactions are left as they are.** -/
structure Untouched (w w' : RunState σ) : Prop where
  states : w'.states = w.states
  registries : w'.registries = w.registries
  handles : w'.handles = w.handles
  begun : w'.begun = w.begun

theorem Untouched.refl (w : RunState σ) : Untouched w w := ⟨rfl, rfl, rfl, rfl⟩

theorem Untouched.trans {w w₁ w₂ : RunState σ} (h : Untouched w w₁) (h' : Untouched w₁ w₂) :
    Untouched w w₂ :=
  ⟨h'.states.trans h.states, h'.registries.trans h.registries, h'.handles.trans h.handles,
    h'.begun.trans h.begun⟩

/-- What only tells leaves them as they are. -/
theorem RunState.Matches.untouched {w w' : RunState σ} (h : w.Matches w') : Untouched w w' :=
  ⟨h.states, h.registries, h.handles, h.begun⟩

/-- **The program concerns nobody else**: whatever it comes to, drivers, registries and transactions
are left as they are. -/
def Run.Quiet (x : Run σ α) : Prop := ∀ c w, Untouched w (x.eval c w).2

theorem quiet_writeLog (entry : LogEntry) : Run.Quiet (writeLog entry : Run σ Unit) :=
  fun _ _ => ⟨rfl, rfl, rfl, rfl⟩

theorem quiet_report (n : Notice) : Run.Quiet (report n : Run σ Unit) :=
  fun _ _ => ⟨rfl, rfl, rfl, rfl⟩

theorem Run.Quiet.pure (a : α) : Run.Quiet (Pure.pure a : Run σ α) := fun _ w => .refl w

/-- After a program comes what concerns nobody else. -/
theorem untouched_bind (x : Run σ α) {f : α → Run σ β} (hf : ∀ a, (f a).Quiet) (c : Scope σ)
    (w : RunState σ) : Untouched (x.eval c w).2 ((x >>= f).eval c w).2 := by
  rw [eval_bind]
  rcases x.eval c w with ⟨i | a, w₁⟩
  · exact .refl w₁
  · exact hf a c w₁

theorem Run.Quiet.bind {x : Run σ α} {f : α → Run σ β} (hx : x.Quiet) (hf : ∀ a, (f a).Quiet) :
    (x >>= f).Quiet :=
  fun c w => (hx c w).trans (untouched_bind x hf c w)

/-- What concerns nobody else is put together from what concerns nobody else. -/
theorem Run.Quiet.congruence : Congruence fun _ (x _ : Run σ _) => x.Quiet := ⟨.pure, .bind⟩

namespace Session

/-- Reading a row as an instance concerns nobody else. -/
theorem quiet_decode (s : Session σ) (e : Entity) (m : Model) (r : Row) :
    (s.decode e m r).Quiet := by
  intro c w
  obtain ⟨examined, trace, h⟩ := s.eval_useModel e m c w
  rw [decode, eval_bind, h]
  exact ⟨rfl, rfl, rfl, rfl⟩

theorem quiet_decodeAll (s : Session σ) (e : Entity) (m : Model) (rs : List Row) :
    (s.decodeAll e m rs).Quiet :=
  Run.Quiet.congruence.decodeAll s s (s.quiet_decode e m) rs

end Session

/-! ## What harmless middlewares are made of -/

/-- **Parts that leave databases alone**: they may look at the compiled statement that is kept, ask
for it, have it compiled anew without keeping it, and do what concerns nobody else. -/
inductive Harmless (call : Call (Run σ)) : {α : Type} → Part σ α → Prop where
  | pure {α : Type} (a : α) : Harmless call (pure a)
  | kept : Harmless call get
  | query : Harmless call call.query
  | build : Harmless call (liftM call.build)
  | own {α : Type} {x : Run σ α} (h : x.Quiet) : Harmless call (liftM x)
  | bind {α β : Type} {x : Part σ α} {f : α → Part σ β} (hx : Harmless call x)
    (hf : ∀ a, Harmless call (f a)) : Harmless call (x >>= f)

/-- **Choosing harmlessly**: a harmless part, and then an answer, or a call handed on to which what
comes back is worked on harmlessly. -/
inductive Chooses (call : Call (Run σ)) : Part σ (Choice (Run σ)) → Prop where
  | answer (r : Except Error Output) : Chooses call (pure (.answer r))
  | handOn {after : Except Error Output → Part σ (Except Error Output)}
    (h : ∀ r, Harmless call (after r)) : Chooses call (pure (.handOn after))
  | step {α : Type} {x : Part σ α} {f : α → Part σ (Choice (Run σ))} (hx : Harmless call x)
    (hf : ∀ a, Chooses call (f a)) : Chooses call (x >>= f)

/-- **The middleware does no input and output of its own and leaves registries alone.** -/
def Chooser.IsHarmless (d : Chooser (Run σ)) : Prop := ∀ call, Chooses call (d call)

/-! ## The compiled statement -/

namespace Session

/-- **The statement compiled in a model.** -/
def compiled (s : Session σ) (e : Entity) (stmt : Statement) (m : Model) : Except Error Query :=
  match stmt with
  | .handwritten q => .ok q
  | _ =>
    match stmt.refusal? with
    | some err => .error err
    | none =>
      stmt.compile s.database.settings.dialect m (readField s.database.settings.accessor e m)

theorem compiled_of_refusal (s : Session σ) (e : Entity) {stmt : Statement} (m : Model)
    {err : Error} (hr : stmt.refusal? = some err) : s.compiled e stmt m = .error err := by
  cases stmt with
  | handwritten q => cases hr
  | _ => simp [compiled, hr]

theorem compiled_of_no_refusal (s : Session σ) (e : Entity) {stmt : Statement} (m : Model)
    (hstmt : ∀ q, stmt ≠ .handwritten q) (hr : stmt.refusal? = none) :
    s.compiled e stmt m = stmt.compile s.database.settings.dialect m
      (readField s.database.settings.accessor e m) := by
  cases stmt with
  | handwritten q => exact absurd rfl (hstmt q)
  | _ => simp [compiled, hr]

variable {s : Session σ} {e : Entity} {m : Model} {c : Scope σ} {w w₁ : RunState σ}

/-- Building a statement where the model of its entity can be had. -/
theorem eval_build_compiled (stmt : Statement) (hm : (s.model e).eval c w = (.ok (.ok m), w₁)) :
    ∃ w', (s.build e stmt).eval c w = (.ok (s.compiled e stmt m), w') ∧
      (w.Matches w' ∨ w₁.Matches w') := by
  by_cases hwritten : ∃ q, stmt = .handwritten q
  · obtain ⟨q, rfl⟩ := hwritten
    exact ⟨w, rfl, .inl (.refl w)⟩
  · have hstmt : ∀ q, stmt ≠ .handwritten q := fun q h => hwritten ⟨q, h⟩
    cases hr : stmt.refusal? with
    | some err =>
      refine ⟨w, ?_, .inl (.refl w)⟩
      rw [s.build_of_ne_handwritten e hstmt, hr, s.compiled_of_refusal e m hr]
      rfl
    | none =>
      obtain ⟨examined, trace, h⟩ := s.eval_build_of_model e hstmt hr hm
      rw [← s.compiled_of_no_refusal e m hstmt hr] at h
      exact ⟨_, h, .inr ⟨rfl, rfl, rfl, rfl, rfl, rfl, rfl⟩⟩

/-- Building a statement in the model that is kept for its entity only tells. -/
theorem eval_build_kept (stmt : Statement) (hm : (w.registries s.registry).lookup? e = some m) :
    ∃ w', (s.build e stmt).eval c w = (.ok (s.compiled e stmt m), w') ∧ w.Matches w' := by
  have heval : (s.model e).eval c w = (.ok (.ok m), w) := by rw [model, eval_modelOf, hm]
  obtain ⟨w', h, hw' | hw'⟩ := eval_build_compiled stmt heval
  · exact ⟨w', h, hw'⟩
  · exact ⟨w', h, hw'⟩

end Session

/-! ## Settled points -/

/-- **The model of the operation is kept at the point**, and of compiled statements at most the one
that is compiled in it. -/
structure Settled (s : Session σ) (e : Entity) (stmt : Statement) (m : Model) (p : Point σ) :
    Prop where
  model : (p.state.registries s.registry).lookup? e = some m
  kept : ∀ q, p.kept = some q → s.compiled e stmt m = .ok q

section Settled

variable {s : Session σ} {e : Entity} {stmt : Statement} {m : Model} {c : Scope σ} {p p' : Point σ}

/-- What concerns nobody else leaves a point settled. -/
theorem Settled.of_untouched (h : Settled s e stmt m p) (hkept : p'.kept = p.kept)
    (hstate : Untouched p.state p'.state) : Settled s e stmt m p' where
  model := by rw [hstate.registries]; exact h.model
  kept := by rw [hkept]; exact h.kept

/-- **Who asks for the compiled statement gets it.** -/
theorem Settled.reaches_query (h : Settled s e stmt m p) :
    ∃ p', Reaches c (s.callOf e stmt m).query p (s.compiled e stmt m) p' ∧
      Settled s e stmt m p' ∧ Untouched p.state p'.state := by
  rcases p with ⟨_ | q, w⟩
  · obtain ⟨w', hbuild, hw'⟩ := s.eval_build_kept (c := c) stmt h.model
    have hp' : Settled s e stmt m ⟨none, w'⟩ := h.of_untouched rfl hw'.untouched
    refine ⟨_, reaches_query_built hbuild, ⟨hp'.model, fun q hq => ?_⟩, hw'.untouched⟩
    -- What is kept from now on is what was compiled.
    cases hcompiled : s.compiled e stmt m with
    | error err => simp [hcompiled, Except.toOption] at hq
    | ok q' =>
      obtain rfl : q' = q := by simpa [hcompiled, Except.toOption] using hq
      rfl
  · refine ⟨⟨some q, w⟩, ?_, h, .refl w⟩
    rw [h.kept q rfl]
    exact reaches_query_kept q w

/-- **What a part leaves settled**: points that it reaches are settled, and whatever it comes to,
drivers, registries and transactions are left as they are. -/
structure LeavesSettled (s : Session σ) (e : Entity) (stmt : Statement) (m : Model) (c : Scope σ)
    (x : Part σ α) (p : Point σ) : Prop where
  reaches : ∀ a p', Reaches c x p a p' → Settled s e stmt m p' ∧ Untouched p.state p'.state
  breaks : ∀ i w, Breaks c x p i w → Untouched p.state w

/-- A part that ends. -/
theorem LeavesSettled.of_reaches {x : Part σ α} {a : α} (h : Reaches c x p a p')
    (hp' : Settled s e stmt m p') (hw : Untouched p.state p'.state) :
    LeavesSettled s e stmt m c x p where
  reaches a' p'' h' := by
    obtain ⟨-, rfl⟩ := h.unique h'
    exact ⟨hp', hw⟩
  breaks i w h' := absurd h' h.not_breaks

/-- Drivers, registries and transactions are left as they are, whatever a part comes to. -/
theorem LeavesSettled.untouched {x : Part σ α} (h : LeavesSettled s e stmt m c x p) :
    Untouched p.state (outcome c x p).2 := by
  obtain ⟨a, p', hx⟩ | ⟨i, w, hx⟩ := reaches_or_breaks c x p
  · rw [hx]
    exact (h.reaches a p' hx).2
  · rw [hx]
    exact h.breaks i w hx

/-- Two parts, one after the other. -/
theorem LeavesSettled.bind {x : Part σ α} {f : α → Part σ β} (hx : LeavesSettled s e stmt m c x p)
    (hf : ∀ a p', Reaches c x p a p' → Settled s e stmt m p' →
      LeavesSettled s e stmt m c (f a) p') :
    LeavesSettled s e stmt m c (x >>= f) p where
  reaches b p'' h := by
    obtain ⟨a, p', hxa, hfb⟩ := reaches_bind.mp h
    obtain ⟨hp', hw⟩ := hx.reaches a p' hxa
    obtain ⟨hp'', hw'⟩ := (hf a p' hxa hp').reaches b p'' hfb
    exact ⟨hp'', hw.trans hw'⟩
  breaks i w h := by
    obtain ⟨a, p', hxa⟩ | ⟨i', w', hxi⟩ := reaches_or_breaks c x p
    · obtain ⟨hp', hw⟩ := hx.reaches a p' hxa
      rw [Breaks, hxa.outcome_bind] at h
      exact hw.trans ((hf a p' hxa hp').breaks i w h)
    · obtain ⟨rfl, rfl⟩ : i' = i ∧ w' = w := by
        have heq := (hxi.bind f).symm.trans h
        simpa using heq
      exact hx.breaks i' w' hxi

/-- **Harmless parts** leave everything settled. -/
theorem Harmless.settled {x : Part σ α} (hx : Harmless (s.callOf e stmt m) x)
    (hp : Settled s e stmt m p) : LeavesSettled s e stmt m c x p := by
  induction hx generalizing p with
  | pure a => exact .of_reaches (reaches_pure a p) hp (.refl _)
  | kept => exact .of_reaches (a := p.kept) rfl hp (.refl _)
  | query =>
    obtain ⟨p', h, hp', hw⟩ := hp.reaches_query (c := c)
    exact .of_reaches h hp' hw
  | build =>
    -- The model is kept, so that compiling the statement anew registers nothing.
    obtain ⟨w', hbuild, hw'⟩ := s.eval_build_kept (c := c) stmt hp.model
    have hreaches : Reaches c (liftM (s.build e stmt) : Part σ (Except Error Query)) p
        (s.compiled e stmt m) ⟨p.kept, w'⟩ := by rw [Reaches, outcome_lift, hbuild]
    exact .of_reaches hreaches (hp.of_untouched rfl hw'.untouched) hw'.untouched
  | @own α x hquiet =>
    have hw := hquiet c p.state
    rcases hx : x.eval c p.state with ⟨i | a, w⟩
    · rw [hx] at hw
      have hbreaks : Breaks c (liftM x : Part σ α) p i w := by rw [Breaks, outcome_lift, hx]
      refine ⟨fun a p' h => absurd hbreaks h.not_breaks, fun i' w' h => ?_⟩
      obtain ⟨-, rfl⟩ : i = i' ∧ w = w' := by simpa using hbreaks.symm.trans h
      exact hw
    · rw [hx] at hw
      have hreaches : Reaches c (liftM x : Part σ α) p a ⟨p.kept, w⟩ := by
        rw [Reaches, outcome_lift, hx]
      exact .of_reaches hreaches (hp.of_untouched rfl hw) hw
  | bind _ _ ihx ihf => exact (ihx hp).bind fun a p' _ hp' => ihf a hp'

/-- **Choosing harmlessly** leaves everything settled. -/
theorem Chooses.settled {x : Part σ (Choice (Run σ))} (hx : Chooses (s.callOf e stmt m) x)
    (hp : Settled s e stmt m p) : LeavesSettled s e stmt m c x p := by
  induction hx generalizing p with
  | answer r => exact .of_reaches (reaches_pure _ p) hp (.refl _)
  | handOn _ => exact .of_reaches (reaches_pure _ p) hp (.refl _)
  | step hx _ ih => exact (hx.settled hp).bind fun a p' _ hp' => ih a hp'

/-- What is done after a call was handed on harmlessly is harmless. -/
theorem Chooses.harmless {call : Call (Run σ)} {x : Part σ (Choice (Run σ))} (hx : Chooses call x)
    {after : Except Error Output → Part σ (Except Error Output)}
    (h : Reaches c x p (.handOn after) p') (r : Except Error Output) : Harmless call (after r) := by
  induction hx generalizing p with
  | answer r' => cases ((reaches_pure _ p).unique h).1
  | @handOn after' hafter =>
    cases ((reaches_pure (c := c) (Choice.handOn after') p).unique h).1
    exact hafter r
  | step _ _ ih =>
    obtain ⟨a, p₁, -, hf⟩ := reaches_bind.mp h
    exact ih a hf

/-! ## The way of a call -/

variable {ds : List (Chooser (Run σ))}
  {afters : List (Except Error Output → Part σ (Except Error Output))}

/-- **The way in** leaves everything settled, and what is done on the way back is harmless. -/
theorem WayIn.settled (hin : WayIn c (s.callOf e stmt m) ds p afters p')
    (hds : ∀ d ∈ ds, d.IsHarmless) (hp : Settled s e stmt m p) :
    Settled s e stmt m p' ∧ Untouched p.state p'.state ∧
      ∀ after ∈ afters, ∀ r, Harmless (s.callOf e stmt m) (after r) := by
  induction hin with
  | nil p => exact ⟨hp, .refl _, nofun⟩
  | @cons d ds after afters p p₁ p₂ h _ ih =>
    obtain ⟨hd, hds⟩ := List.forall_mem_cons.mp hds
    have hchooses := hd (s.callOf e stmt m)
    obtain ⟨hp₁, hw₁⟩ := (hchooses.settled hp).reaches _ _ h
    obtain ⟨hp₂, hw₂, hafters⟩ := ih hds hp₁
    exact ⟨hp₂, hw₁.trans hw₂, List.forall_mem_cons.mpr ⟨hchooses.harmless h, hafters⟩⟩

/-- **The way back** is harmless. -/
theorem harmless_passBack {call : Call (Run σ)}
    (h : ∀ after ∈ afters, ∀ r, Harmless call (after r)) (r : Except Error Output) :
    Harmless call (passBack afters r) := by
  induction afters with
  | nil => exact .pure r
  | cons after afters ih =>
    obtain ⟨hafter, hafters⟩ := List.forall_mem_cons.mp h
    exact .bind (ih hafters) hafter

end Settled

/-! ## The middlewares of scenarios -/

namespace Scenario

/-- **The middlewares of scenarios are harmless**, but for the one that registers an entity. -/
theorem Stage.isHarmless (registry : Nat) {stage : Stage}
    (h : ∀ e table compileFirst, stage ≠ .rename e table compileFirst) :
    (stage.chooser registry : Chooser (Run σ)).IsHarmless := by
  intro call
  have hlog (entry : LogEntry) : Harmless call (logEntry entry : Part σ Unit) :=
    .own (quiet_writeLog entry)
  cases stage with
  | record name =>
    exact .step (hlog _) fun _ => .handOn fun r => .bind (hlog _) fun _ => .pure r
  | inspect =>
    refine .step .kept fun _ => .step (hlog _) fun _ => .step .query fun _ => .step (hlog _)
      fun _ => .step .kept fun _ => .step (hlog _) fun _ => .handOn fun r => ?_
    exact .bind (hlog _) fun _ => .pure r
  | deny kind text =>
    show Chooses call (if call.queryType = kind then _ else _)
    split
    · exact .answer _
    · exact .handOn .pure
  | answerExec r => exact .answer _
  | answerForeign => exact .answer _
  | answerEntity e values many => exact .answer _
  | replaceErrors text =>
    refine .handOn fun r => ?_
    cases r with
    | error err => exact .pure _
    | ok o => exact .pure _
  | log l =>
    refine .step .query fun r => ?_
    cases r with
    | error err => exact .answer _
    | ok q =>
      dsimp only
      split
      · exact .step (.own (quiet_writeLog _)) fun _ => .handOn .pure
      · exact .step (.own (quiet_report _)) fun _ => .handOn .pure
  | rename e table compileFirst => exact absurd rfl (h e table compileFirst)

end Scenario

end EntityMapper

import EntityMapper.Proofs.Session.Harmless

/-!
# Middlewares that do not depend on what is compiled

A statement is compiled when somebody asks for it first. Two runs of an operation may differ in who
that is: in one of them the statement is kept already, in the other one it is not, but would be the
same if it were compiled now. A middleware is indifferent to this if from such a pair of points it
chooses the same, and leaves such a pair. Registering the entity of the operation anew before the
statement is compiled is what a middleware has to refrain from.

## Main definitions

* `Part.InStep A R x y`: parts that keep the relation `A` between points
* `Abreast q p p'`, `Session.Ahead s e stmt q p p'`: points where the statement is kept on both
  sides, and points of which the first one may still have it to compile
* `Session.Alike s e stmt q`: choices that go on alike
* `Chooser.Indifferent s e stmt d`: middlewares that do not depend on what is compiled
* `Chooser.Tolerant s e stmt d`: middlewares that do not depend on it on the way back
* `Scenario.Stage.Spares e`: stages that do not register the entity before the statement is compiled

## Main results

* `inStep_query_bind`: the compiled statement is the same for both
* `inStep_pipeline`: indifferent middlewares around an indifferent stage
* `inStep_perform`: the last stage
* `Scenario.Stage.indifferent`, `Scenario.Stage.tolerant`: the middlewares of scenarios
-/

namespace EntityMapper

open EntityMapper.Sql

variable {σ α α' β β' : Type}

/-! ## Parts in step -/

/-- **Parts in step**: from points in the relation `A` both of them end, with results in the relation
`R` and at points in the relation `A`, or both are interrupted in the same way. -/
def Part.InStep (A : Point σ → Point σ → Prop) (R : α → α' → Prop) (x : Part σ α) (y : Part σ α') :
    Prop :=
  ∀ c p p', A p p' →
    (∃ a b p₁ p₁', Reaches c x p a p₁ ∧ Reaches c y p' b p₁' ∧ R a b ∧ A p₁ p₁') ∨
      ∃ i w w', Breaks c x p i w ∧ Breaks c y p' i w' ∧ w.Matches w'

namespace Part.InStep

variable {A : Point σ → Point σ → Prop} {R : α → α' → Prop} {R' : β → β' → Prop}

theorem pure {a : α} {b : α'} (h : R a b) :
    Part.InStep A R (Pure.pure a : Part σ α) (Pure.pure b) := by
  intro c p p' hp
  exact .inl ⟨a, b, p, p', reaches_pure a p, reaches_pure b p', h, hp⟩

/-- **Parts one after another.** -/
theorem bind {x : Part σ α} {y : Part σ α'} {f : α → Part σ β} {g : α' → Part σ β'}
    (hx : Part.InStep A R x y) (hf : ∀ a b, R a b → Part.InStep A R' (f a) (g b)) :
    Part.InStep A R' (x >>= f) (y >>= g) := by
  intro c p p' hp
  obtain ⟨a, b, p₁, p₁', hxa, hyb, hab, hp₁⟩ | ⟨i, w, w', hxi, hyi, hw⟩ := hx c p p' hp
  · -- Both go on, from points that are in the relation again.
    have hend := hf a b hab c p₁ p₁' hp₁
    unfold Reaches Breaks at hend ⊢
    rwa [hxa.outcome_bind f, hyb.outcome_bind g]
  · exact .inr ⟨i, w, w', hxi.bind f, hyi.bind g, hw⟩

/-- Programs that look at what is kept, and do the same whatever it is. -/
theorem get_bind {f : Option Query → Part σ α} {g : Option Query → Part σ α'}
    (h : ∀ k k', Part.InStep A R (f k) (g k')) :
    Part.InStep A R (MonadState.get >>= f) (MonadState.get >>= g) := by
  intro c p p' hp
  have hget (p : Point σ) : Reaches c (MonadState.get : Part σ (Option Query)) p p.kept p := rfl
  have hend := h p.kept p'.kept c p p' hp
  unfold Reaches Breaks at hend ⊢
  rwa [(hget p).outcome_bind f, (hget p').outcome_bind g]

/-- **Programs that match** are in step if they leave the points in the relation. -/
theorem lift {x y : Run σ α} (hxy : x.Matches y) (hA : ∀ p p', A p p' → p.state.Matches p'.state)
    (hkeeps : ∀ c p p' a w w', A p p' → x.eval c p.state = (.ok a, w) → w.Matches w' →
      A ⟨p.kept, w⟩ ⟨p'.kept, w'⟩) :
    Part.InStep A Eq (liftM x : Part σ α) (liftM y) := by
  intro c p p' hp
  unfold Reaches Breaks
  rw [outcome_lift, outcome_lift]
  obtain ⟨a, w, w', hx, hy, hw⟩ | ⟨i, w, w', hx, hy, hw⟩ :=
    (hxy c p.state p'.state (hA p p' hp)).cases
  · rw [hx, hy]
    exact .inl ⟨a, a, ⟨p.kept, w⟩, ⟨p'.kept, w'⟩, rfl, rfl, rfl, hkeeps c p p' a w w' hp hx hw⟩
  · rw [hx, hy]
    exact .inr ⟨i, w, w', rfl, rfl, hw⟩

end Part.InStep

/-! ## What is kept on both sides -/

/-- **The statement is kept on both sides**, where nothing else differs but what is told. -/
structure Abreast (q : Query) (p p' : Point σ) : Prop where
  states : p.state.Matches p'.state
  left : p.kept = some q
  right : p'.kept = some q

section Abreast

variable {q : Query} {call : Call (Run σ)}

/-- Once the statement is kept, whatever matches is in step. -/
theorem inStep_lift_of_kept {x y : Run σ α} (hxy : x.Matches y) :
    Part.InStep (Abreast q) Eq (liftM x : Part σ α) (liftM y) := by
  refine .lift hxy (fun _ _ hp => hp.states) ?_
  intro c p p' a w w' hp _ hw
  exact ⟨hw, hp.left, hp.right⟩

/-- The statement that is kept is the one that is found on both sides. -/
theorem inStep_query_of_kept :
    Part.InStep (Abreast q) (fun r r' => r = .ok q ∧ r' = .ok q) call.query call.query := by
  rintro c ⟨_, w⟩ ⟨_, w'⟩ ⟨hw, rfl, rfl⟩
  exact .inl ⟨.ok q, .ok q, ⟨some q, w⟩, ⟨some q, w'⟩, reaches_query_kept q w,
    reaches_query_kept q w', ⟨rfl, rfl⟩, hw, rfl, rfl⟩

end Abreast

/-! ## One side ahead of the other -/

namespace Session

variable (s : Session σ) (e : Entity) (stmt : Statement) (q : Query)

/-- **The point offers the statement**: it is kept, or nothing is kept yet and the model that is kept
for the entity compiles to it. -/
def Offers (p : Point σ) : Prop :=
  p.kept = some q ∨ p.kept = none ∧
    ∃ m, (p.state.registries s.registry).lookup? e = some m ∧ s.compiled e stmt m = .ok q

/-- **A point ahead of another one**: it keeps the statement that the other one offers, and nothing
else differs but what is told. -/
structure Ahead (p p' : Point σ) : Prop where
  states : p.state.Matches p'.state
  offers : s.Offers e stmt q p
  kept : p'.kept = some q

/-- **The program leaves the model of the entity** as it is. -/
def Keeps (x : Run σ α) : Prop :=
  ∀ c w m, (w.registries s.registry).lookup? e = some m →
    ((x.eval c w).2.registries s.registry).lookup? e = some m

end Session

section Ahead

variable {s : Session σ} {e : Entity} {stmt : Statement} {q : Query} {m : Model}

theorem Abreast.ahead {p p' : Point σ} (h : Abreast q p p') : s.Ahead e stmt q p p' :=
  ⟨h.states, .inl h.left, h.right⟩

/-- What is in step where the statement is kept, once it was asked for. -/
theorem inStep_of_abreast (s : Session σ) (e : Entity) (stmt : Statement) {R : α → α' → Prop}
    {x : Part σ α} {y : Part σ α'} {c : Scope σ} {p p' : Point σ}
    (h : Part.InStep (Abreast q) R x y) (hp : Abreast q p p') :
    (∃ a b p₁ p₁', Reaches c x p a p₁ ∧ Reaches c y p' b p₁' ∧ R a b ∧ s.Ahead e stmt q p₁ p₁') ∨
      ∃ i w w', Breaks c x p i w ∧ Breaks c y p' i w' ∧ w.Matches w' := by
  obtain ⟨a, b, p₁, p₁', hx, hy, hab, hp₁⟩ | hbreak := h c p p' hp
  · exact .inl ⟨a, b, p₁, p₁', hx, hy, hab, hp₁.ahead⟩
  · exact .inr hbreak

theorem Run.Silent.keeps {x : Run σ Unit} (hx : x.Silent) : s.Keeps e x := by
  intro c w m hm
  obtain ⟨w', hend, hw'⟩ := hx c w
  rw [hend, hw'.registries]
  exact hm

theorem Session.keeps_build (s : Session σ) (e : Entity) (stmt : Statement) :
    s.Keeps e (s.build e stmt) := by
  intro c w m hm
  obtain ⟨w', hbuild, hw'⟩ := s.eval_build_kept (c := c) stmt hm
  rw [hbuild, hw'.registries]
  exact hm

/-- Registering an entity leaves a registry as it is, or keeps a model of this entity in it. -/
theorem registries_registerEntity (registry : Nat) (e : Entity) (options : List ModelOption)
    (c : Scope σ) (w : RunState σ) (i : Nat) :
    ((registerEntity registry e options).eval c w).2.registries i = w.registries i ∨
      ∃ m : Model, m.identity = e.identity ∧
        ((registerEntity registry e options).eval c w).2.registries i =
          (w.registries i).store m := by
  rw [eval_registerEntity]
  cases hregister : (w.registries registry).register e options with
  | error err => exact .inl rfl
  | ok r =>
    obtain ⟨m, registered⟩ := r
    obtain ⟨hm, rfl⟩ := Registry.register_eq_ok.mp hregister
    by_cases hi : i = registry
    · subst hi
      exact .inr ⟨m, identity_of_model hm, if_pos rfl⟩
    · exact .inl (if_neg hi)

/-- Registering an entity leaves the models of all others as they are. -/
theorem keeps_registerEntity {e' : Entity} (he : e'.identity ≠ e.identity) (registry : Nat)
    (options : List ModelOption) : s.Keeps e (registerEntity registry e' options) := by
  intro c w m hm
  obtain hsame | ⟨m', hm', hstored⟩ :=
    registries_registerEntity registry e' options c w s.registry
  · rw [hsame]
    exact hm
  · rw [hstored, Registry.lookup?_store_of_ne _ (hm' ▸ he.symm)]
    exact hm

/-- **Programs that match and leave the model of the entity as it is** are in step, whether the
statement was compiled or not. -/
theorem inStep_lift {x y : Run σ α} (hxy : x.Matches y) (hx : s.Keeps e x) :
    Part.InStep (s.Ahead e stmt q) Eq (liftM x : Part σ α) (liftM y) := by
  refine .lift hxy (fun _ _ hp => hp.states) ?_
  intro c p p' a w w' hp hxa hw
  refine ⟨hw, ?_, hp.kept⟩
  rcases hp.offers with hkept | ⟨hkept, m, hm, hcompiled⟩
  · exact .inl hkept
  · -- What would be compiled depends on the model alone.
    have hm' := hx c p.state m hm
    rw [hxa] at hm'
    exact .inr ⟨hkept, m, hm', hcompiled⟩

/-- **Who asks for the statement gets the one that is offered**, and keeps it. -/
theorem Session.Offers.reaches_query {c : Scope σ} {p : Point σ} (h : s.Offers e stmt q p) :
    ∃ w, Reaches c (s.callOf e stmt m).query p (.ok q) ⟨some q, w⟩ ∧ p.state.Matches w := by
  rcases p with ⟨kept, w⟩
  obtain rfl | ⟨rfl, m', hm', hcompiled⟩ : kept = some q ∨ kept = none ∧ _ := h
  · exact ⟨w, reaches_query_kept q w, .refl w⟩
  · obtain ⟨w', hbuild, hw'⟩ := s.eval_build_kept (c := c) stmt hm'
    rw [hcompiled] at hbuild
    exact ⟨w', reaches_query_built hbuild, hw'⟩

/-- **The compiled statement is the same for both**, and is kept on both sides from then on. -/
theorem inStep_query_bind {R : α → α' → Prop} {f : Except Error Query → Part σ α}
    {g : Except Error Query → Part σ α'}
    (h : Part.InStep (Abreast q) R (f (.ok q)) (g (.ok q))) :
    Part.InStep (s.Ahead e stmt q) R ((s.callOf e stmt m).query >>= f)
      ((s.callOf e stmt m).query >>= g) := by
  intro c p p' hp
  obtain ⟨w, hleft, hw⟩ := hp.offers.reaches_query (m := m) (c := c)
  obtain ⟨w', hright, hw'⟩ : ∃ w', Reaches c (s.callOf e stmt m).query p' (.ok q) ⟨some q, w'⟩ ∧
      p'.state.Matches w' :=
    Session.Offers.reaches_query (.inl hp.kept)
  have hstates : w.Matches w' := hw.symm.trans (hp.states.trans hw')
  have habreast : Abreast q ⟨some q, w⟩ ⟨some q, w'⟩ := ⟨hstates, rfl, rfl⟩
  have hend := inStep_of_abreast s e stmt (c := c) h habreast
  unfold Reaches Breaks at hend ⊢
  rwa [hleft.outcome_bind f, hright.outcome_bind g]

/-- **The last stage.** -/
theorem inStep_perform (d : Demand) :
    Part.InStep (s.Ahead e stmt q) Eq (s.perform e d (s.callOf e stmt m))
      (s.perform e d (s.callOf e stmt m)) := by
  apply inStep_query_bind
  exact inStep_lift_of_kept (s.matches_answer e d m q)

end Ahead

/-! ## Middlewares in step -/

/-- **Choices that go on alike**: the same answer, or what comes back is worked on in step. -/
inductive Session.Alike (s : Session σ) (e : Entity) (stmt : Statement) (q : Query) :
    Choice (Run σ) → Choice (Run σ) → Prop where
  | answer (r : Except Error Output) : Alike s e stmt q (.answer r) (.answer r)
  | handOn {after after' : Except Error Output → Part σ (Except Error Output)}
    (h : ∀ r, Part.InStep (s.Ahead e stmt q) Eq (after r) (after' r)) :
    Alike s e stmt q (.handOn after) (.handOn after')

/-- A middleware that hands the call on and returns what comes back. -/
theorem alike_pure {s : Session σ} {e : Entity} {stmt : Statement} {q : Query} :
    s.Alike e stmt q (.handOn pure) (.handOn pure) :=
  .handOn fun _ => .pure rfl

/-- **The middleware does not depend on what is compiled**: whether the statement is kept already or
not, it chooses alike. -/
def Chooser.Indifferent (s : Session σ) (e : Entity) (stmt : Statement) (d : Chooser (Run σ)) :
    Prop :=
  ∀ m q, Part.InStep (s.Ahead e stmt q) (s.Alike e stmt q) (d (s.callOf e stmt m))
    (d (s.callOf e stmt m))

section Pipelines

variable {s : Session σ} {e : Entity} {stmt : Statement} {q : Query} {m : Model}
  {d : Chooser (Run σ)} {ds : List (Chooser (Run σ))}
  {afters : List (Except Error Output → Part σ (Except Error Output))}

/-- One middleware around a stage. -/
theorem inStep_middleware (hd : d.Indifferent s e stmt) {next : Handler (Run σ)}
    (hnext : Part.InStep (s.Ahead e stmt q) Eq (next (s.callOf e stmt m))
      (next (s.callOf e stmt m))) :
    Part.InStep (s.Ahead e stmt q) Eq (d.middleware next (s.callOf e stmt m))
      (d.middleware next (s.callOf e stmt m)) := by
  refine (hd m q).bind ?_
  rintro choice choice' (r | hafter)
  · exact .pure rfl
  · refine hnext.bind ?_
    rintro r _ rfl
    exact hafter r

/-- **Indifferent middlewares around an indifferent stage.** -/
theorem inStep_pipeline (hds : ∀ d ∈ ds, d.Indifferent s e stmt) {last : Handler (Run σ)}
    (hlast : Part.InStep (s.Ahead e stmt q) Eq (last (s.callOf e stmt m))
      (last (s.callOf e stmt m))) :
    Part.InStep (s.Ahead e stmt q) Eq
      (pipeline (ds.map Chooser.middleware) last (s.callOf e stmt m))
      (pipeline (ds.map Chooser.middleware) last (s.callOf e stmt m)) := by
  induction ds with
  | nil => exact hlast
  | cons d ds ih =>
    obtain ⟨hd, hds⟩ := List.forall_mem_cons.mp hds
    exact inStep_middleware hd (ih hds)

/-- The way back through middlewares that work in step. -/
theorem inStep_passBack
    (h : ∀ after ∈ afters, ∀ r, Part.InStep (s.Ahead e stmt q) Eq (after r) (after r))
    (r : Except Error Output) :
    Part.InStep (s.Ahead e stmt q) Eq (passBack afters r) (passBack afters r) := by
  induction afters with
  | nil => exact .pure rfl
  | cons after afters ih =>
    obtain ⟨hafter, hafters⟩ := List.forall_mem_cons.mp h
    refine (ih hafters).bind ?_
    rintro r' _ rfl
    exact hafter r'

/-- **The statement stays kept** on the way in. -/
theorem WayIn.kept_of_indifferent {c : Scope σ} {p p' : Point σ}
    (hin : WayIn c (s.callOf e stmt m) ds p afters p') (hds : ∀ d ∈ ds, d.Indifferent s e stmt)
    (hp : p.kept = some q) : p'.kept = some q := by
  induction hin with
  | nil p => exact hp
  | @cons d ds after afters p p₁ p₂ h _ ih =>
    obtain ⟨hd, hds⟩ := List.forall_mem_cons.mp hds
    -- A middleware is in step with itself, so that what it reaches keeps the statement.
    have hself : s.Ahead e stmt q p p := ⟨.refl _, .inl hp, hp⟩
    obtain ⟨_, _, _, p₁', -, hreach, -, hp₁⟩ | ⟨i, w, -, hbreak, -, -⟩ := hd m q c p p hself
    · obtain ⟨-, rfl⟩ := h.unique hreach
      exact ih hds hp₁.kept
    · exact absurd hbreak h.not_breaks

end Pipelines

/-! ## The way back -/

/-- **What a part leaves and yields**: where it ends, the state still has the property `I`, and the
result has the property `Q`. -/
def Part.Yields (I : RunState σ → Prop) (Q : α → Prop) (x : Part σ α) : Prop :=
  ∀ c p a p', I p.state → Reaches c x p a p' → I p'.state ∧ Q a

namespace Part.Yields

variable {I : RunState σ → Prop} {Q : α → Prop} {Q' : β → Prop}

theorem pure {a : α} (h : Q a) : Part.Yields I Q (Pure.pure a : Part σ α) := by
  intro c p a' p' hp hreach
  obtain ⟨rfl, rfl⟩ := (reaches_pure a p).unique hreach
  exact ⟨hp, h⟩

theorem get : Part.Yields I (fun _ => True) (MonadState.get : Part σ (Option Query)) := by
  intro c p k p' hp hreach
  have hget : Reaches c (MonadState.get : Part σ (Option Query)) p p.kept p := rfl
  obtain ⟨-, rfl⟩ := hget.unique hreach
  exact ⟨hp, trivial⟩

/-- To keep a statement leaves the state of the run as it is. -/
theorem set (kept : Option Query) :
    Part.Yields I (fun _ => True) (MonadStateOf.set kept : Part σ PUnit) := by
  intro c p a p' hp hreach
  have hset : Reaches c (MonadStateOf.set kept : Part σ PUnit) p ⟨⟩ ⟨kept, p.state⟩ := rfl
  obtain ⟨-, rfl⟩ := hset.unique hreach
  exact ⟨hp, trivial⟩

theorem bind {x : Part σ α} {f : α → Part σ β} (hx : Part.Yields I Q x)
    (hf : ∀ a, Q a → Part.Yields I Q' (f a)) : Part.Yields I Q' (x >>= f) := by
  intro c p b p' hp hreach
  obtain ⟨a, p₁, hxa, hfb⟩ := reaches_bind.mp hreach
  obtain ⟨hp₁, ha⟩ := hx c p a p₁ hp hxa
  exact hf a ha c p₁ b p' hp₁ hfb

theorem lift {x : Run σ α} (hx : ∀ c w, I w → I (x.eval c w).2) :
    Part.Yields I (fun _ => True) (liftM x : Part σ α) := by
  intro c p a p' hp hreach
  have hstate : p'.state = (x.eval c p.state).2 := by
    rw [← snd_outcome_lift, hreach]
  exact ⟨hstate ▸ hx c p.state hp, trivial⟩

/-- What yields anything after asking for the compiled statement. -/
theorem query {call : Call (Run σ)} (hbuild : ∀ c w, I w → I (call.build.eval c w).2) :
    Part.Yields I (fun _ => True) call.query := by
  refine Part.Yields.get.bind fun kept _ => ?_
  rcases kept with _ | q
  · refine (Part.Yields.lift hbuild).bind fun built _ => ?_
    rcases built with err | q
    · exact .pure trivial
    · exact (Part.Yields.set (some q)).bind fun _ _ => .pure trivial
  · exact .pure trivial

end Part.Yields

/-- The entity has a model. -/
def Session.Registered (s : Session σ) (e : Entity) (w : RunState σ) : Prop :=
  ((w.registries s.registry).lookup? e).isSome

/-- **The middleware does not depend on what is compiled once a call comes back**, and leaves the
entity registered. On the way in it may do anything else. -/
def Chooser.Tolerant (s : Session σ) (e : Entity) (stmt : Statement) (d : Chooser (Run σ)) : Prop :=
  ∀ m, Part.Yields (s.Registered e) (fun choice => ∀ q, s.Alike e stmt q choice choice)
    (d (s.callOf e stmt m))

section Registered

variable {s : Session σ} {e : Entity} {stmt : Statement} {m : Model}

theorem Session.Keeps.registered {x : Run σ α} (hx : s.Keeps e x) (c : Scope σ) (w : RunState σ)
    (hw : s.Registered e w) : s.Registered e (x.eval c w).2 := by
  obtain ⟨m, hm⟩ := Option.isSome_iff_exists.mp hw
  exact Option.isSome_iff_exists.mpr ⟨m, hx c w m hm⟩

/-- Registering any entity leaves those registered that are. -/
theorem registered_registerEntity (registry : Nat) (e' : Entity) (options : List ModelOption)
    (c : Scope σ) (w : RunState σ) (hw : s.Registered e w) :
    s.Registered e ((registerEntity registry e' options).eval c w).2 := by
  unfold Session.Registered
  obtain hsame | ⟨m, -, hstored⟩ := registries_registerEntity registry e' options c w s.registry
  · rw [hsame]
    exact hw
  · rw [hstored]
    exact Registry.isSome_lookup?_store _ m hw

/-- **The way in** through tolerant middlewares, which work in step on the way back. -/
theorem WayIn.tolerant {c : Scope σ} {ds : List (Chooser (Run σ))} {p p' : Point σ}
    {afters : List (Except Error Output → Part σ (Except Error Output))}
    (hin : WayIn c (s.callOf e stmt m) ds p afters p') (hds : ∀ d ∈ ds, d.Tolerant s e stmt)
    (hp : s.Registered e p.state) :
    s.Registered e p'.state ∧ ∀ after ∈ afters, ∀ q r,
      Part.InStep (s.Ahead e stmt q) Eq (after r) (after r) := by
  induction hin with
  | nil p => exact ⟨hp, nofun⟩
  | @cons d ds after afters p p₁ p₂ h _ ih =>
    obtain ⟨hd, hds⟩ := List.forall_mem_cons.mp hds
    -- What the middleware leaves to do is what it chose.
    obtain ⟨hp₁, halike⟩ := hd m c p _ p₁ hp h
    obtain ⟨hp₂, hafters⟩ := ih hds hp₁
    refine ⟨hp₂, List.forall_mem_cons.mpr ⟨fun q r => ?_, hafters⟩⟩
    cases halike q with
    | handOn hafter => exact hafter r

end Registered

/-! ## Logs -/

namespace QueryLog

/-- **What a log does with a compiled statement**: it calls its callback, or leaves a notice. -/
def tell (l : QueryLog) (callback : Query → Run σ Unit) (call : Call (Run σ)) (q : Query) :
    Run σ Unit :=
  if l.hasCallback then callback q else report (l.notice call.queryType call.model.table q)

/-- A log asks for the compiled statement, tells of it, and hands the call on. -/
theorem chooser_eq (l : QueryLog) (callback : Query → Run σ Unit) (call : Call (Run σ)) :
    l.chooser report callback call = (do
      match ← call.query with
      | .error err => pure (.answer (.error err))
      | .ok q =>
        liftM (l.tell callback call q)
        pure (.handOn pure) : Part σ (Choice (Run σ))) := by
  rw [chooser]
  congr 1
  funext r
  rcases r with err | q
  · rfl
  · by_cases h : l.hasCallback <;> simp [tell, h]

variable {callback : Query → Run σ Unit}

/-- A log with a callback that only tells does so as well. -/
theorem silent_tell (hcallback : ∀ q, (callback q).Silent) (l : QueryLog) (call : Call (Run σ))
    (q : Query) : (l.tell callback call q).Silent := by
  unfold tell
  split
  · exact hcallback q
  · exact silent_report _

/-- **Logs are indifferent** to whether the statement is compiled before they ask for it. -/
theorem indifferent (hcallback : ∀ q, (callback q).Silent) (l : QueryLog) (s : Session σ)
    (e : Entity) (stmt : Statement) : (l.chooser report callback).Indifferent s e stmt := by
  intro m q
  rw [chooser_eq]
  apply inStep_query_bind
  have htell := silent_tell hcallback l (s.callOf e stmt m) q
  apply Part.InStep.bind (inStep_lift_of_kept (htell.matches htell))
  intro _ _ _
  exact .pure alike_pure

/-- **Logs are tolerant.** -/
theorem tolerant (hcallback : ∀ q, (callback q).Silent) (l : QueryLog) (s : Session σ) (e : Entity)
    (stmt : Statement) : (l.chooser report callback).Tolerant s e stmt := by
  intro m
  rw [chooser_eq]
  apply Part.Yields.bind (.query (s.keeps_build e stmt).registered)
  intro r _
  rcases r with err | q
  · exact .pure fun q => .answer _
  · have htell := silent_tell hcallback l (s.callOf e stmt m) q
    apply Part.Yields.bind (.lift htell.keeps.registered)
    intro _ _
    exact .pure fun q => alike_pure

end QueryLog

/-! ## The middlewares of scenarios -/

namespace Scenario

/-- **The stage does not register the entity before the statement is compiled.** -/
def Stage.Spares (e : Entity) : Stage → Prop
  | rename e' _ compileFirst => compileFirst = true ∨ e'.identity ≠ e.identity
  | _ => True

variable {s : Session σ} {e : Entity} {stmt : Statement} {q : Query} {m : Model}

theorem inStep_logEntry (entry entry' : LogEntry) :
    Part.InStep (s.Ahead e stmt q) Eq (logEntry entry : Part σ Unit) (logEntry entry') :=
  inStep_lift ((silent_writeLog entry).matches (silent_writeLog entry'))
    (silent_writeLog entry).keeps

theorem inStep_logEntry_of_kept (entry entry' : LogEntry) :
    Part.InStep (Abreast q) Eq (logEntry entry : Part σ Unit) (logEntry entry') :=
  inStep_lift_of_kept ((silent_writeLog entry).matches (silent_writeLog entry'))

/-- A stage that writes an entry about what comes back. -/
theorem alike_logEntry (entry : Except Error Output → LogEntry) :
    s.Alike e stmt q (.handOn fun r => do logEntry (entry r); Pure.pure r)
      (.handOn fun r => do logEntry (entry r); Pure.pure r) := by
  apply Session.Alike.handOn
  intro r
  exact (inStep_logEntry _ _).bind fun _ _ _ => .pure rfl

/-- A stage that replaces errors. -/
theorem alike_replaceErrors (text : String) :
    s.Alike e stmt q
      (.handOn fun
        | .ok o => Pure.pure (.ok o)
        | .error _ => Pure.pure (.error (.other text)))
      (.handOn fun
        | .ok o => Pure.pure (.ok o)
        | .error _ => Pure.pure (.error (.other text))) := by
  apply Session.Alike.handOn
  rintro (err | o)
  · exact .pure rfl
  · exact .pure rfl

/-- **The middlewares of scenarios are indifferent**, but for the one that registers the entity
before the statement is compiled. -/
theorem Stage.indifferent (registry : Nat) {stage : Stage} (h : stage.Spares e) :
    (stage.chooser registry : Chooser (Run σ)).Indifferent s e stmt := by
  intro m q
  cases stage with
  | record name =>
    apply Part.InStep.bind (inStep_logEntry _ _)
    intro _ _ _
    exact .pure (alike_logEntry _)
  | inspect =>
    -- What is found kept is written to the log, and used for nothing else.
    apply Part.InStep.get_bind
    intro k k'
    apply Part.InStep.bind (inStep_logEntry _ _)
    intro _ _ _
    apply inStep_query_bind
    apply Part.InStep.bind (inStep_logEntry_of_kept _ _)
    intro _ _ _
    apply Part.InStep.get_bind
    intro k k'
    apply Part.InStep.bind (inStep_logEntry_of_kept _ _)
    intro _ _ _
    exact .pure (alike_logEntry _)
  | deny kind text =>
    show Part.InStep _ _ (if stmt.queryType = kind then _ else _)
      (if stmt.queryType = kind then _ else _)
    split
    · exact .pure (.answer _)
    · exact .pure alike_pure
  | answerExec r => exact .pure (.answer _)
  | answerForeign => exact .pure (.answer _)
  | answerEntity e values many => exact .pure (.answer _)
  | replaceErrors text => exact .pure (alike_replaceErrors text)
  | log l => exact l.indifferent (fun q => silent_writeLog _) s e stmt m q
  | rename e' table compileFirst =>
    have hregister := matches_registerEntity (σ := σ) registry e' [.tableName table]
    have hbuild := s.matches_build e stmt
    rcases compileFirst with _ | _
    · -- Another entity is registered, and the statement may be compiled as before.
      have he : e'.identity ≠ e.identity := h.resolve_left nofun
      apply Part.InStep.bind (inStep_lift hregister (keeps_registerEntity he registry _))
      rintro renamed _ rfl
      apply Part.InStep.bind (inStep_lift hbuild (s.keeps_build e stmt))
      rintro fresh _ rfl
      apply inStep_query_bind
      apply Part.InStep.bind (inStep_logEntry_of_kept _ _)
      intro _ _ _
      exact .pure alike_pure
    · -- The statement is compiled first, so that whatever is registered comes too late.
      apply inStep_query_bind
      apply Part.InStep.bind (inStep_lift_of_kept hregister)
      rintro renamed _ rfl
      apply Part.InStep.bind (inStep_lift_of_kept hbuild)
      rintro fresh _ rfl
      apply Part.InStep.bind inStep_query_of_kept
      rintro _ _ ⟨rfl, rfl⟩
      apply Part.InStep.bind (inStep_logEntry_of_kept _ _)
      intro _ _ _
      exact .pure alike_pure

/-- **The middlewares of scenarios are tolerant**, all of them. -/
theorem Stage.tolerant (registry : Nat) (stage : Stage) :
    (stage.chooser registry : Chooser (Run σ)).Tolerant s e stmt := by
  intro m
  have hlog (entry : LogEntry) :
      Part.Yields (s.Registered e) (fun _ => True) (logEntry entry : Part σ Unit) :=
    .lift (silent_writeLog entry).keeps.registered
  have hquery : Part.Yields (s.Registered e) (fun _ => True) (s.callOf e stmt m).query :=
    .query (s.keeps_build e stmt).registered
  cases stage with
  | record name => exact (hlog _).bind fun _ _ => .pure fun q => alike_logEntry _
  | inspect =>
    refine Part.Yields.get.bind fun _ _ => (hlog _).bind fun _ _ => hquery.bind fun _ _ =>
      (hlog _).bind fun _ _ => Part.Yields.get.bind fun _ _ => (hlog _).bind fun _ _ => ?_
    exact .pure fun q => alike_logEntry _
  | deny kind text =>
    show Part.Yields _ _ (if stmt.queryType = kind then _ else _)
    split
    · exact .pure fun q => .answer _
    · exact .pure fun q => alike_pure
  | answerExec r => exact .pure fun q => .answer _
  | answerForeign => exact .pure fun q => .answer _
  | answerEntity e values many => exact .pure fun q => .answer _
  | replaceErrors text => exact .pure fun q => alike_replaceErrors text
  | log l => exact l.tolerant (fun q => silent_writeLog _) s e stmt m
  | rename e' table compileFirst =>
    have hregister := Part.Yields.lift
      (registered_registerEntity (s := s) (e := e) registry e' [.tableName table])
    have hbuild := Part.Yields.lift (s.keeps_build e stmt).registered
    have hrename : Part.Yields (s.Registered e) (fun choice => ∀ q, s.Alike e stmt q choice choice)
        (do
          let renamed ← liftM (m := Run σ) (registerEntity registry e' [.tableName table])
          let fresh ← liftM (m := Run σ) (s.build e stmt)
          let kept ← (s.callOf e stmt m).query
          logEntry (.renamed (renamed.map Model.table) m.table (sqlOf fresh) (sqlOf kept))
          Pure.pure (.handOn Pure.pure) : Part σ (Choice (Run σ))) :=
      hregister.bind fun _ _ => hbuild.bind fun _ _ => hquery.bind fun _ _ =>
        (hlog _).bind fun _ _ => .pure fun q => alike_pure
    rcases compileFirst with _ | _
    · exact hrename
    · exact hquery.bind fun _ _ => hrename

end Scenario

end EntityMapper

import EntityMapper.Driver.Scripted
import EntityMapper.Proofs.Session.Choices
import EntityMapper.Scenario.Run

/-!
# Middlewares around an operation

Around the last stage of an operation, middlewares choose one after another, the first one first,
until one of them answers; only if none does is the last stage reached, once. What was answered
passes back through the middlewares that handed the call on, the last of them first. The caller
gets what comes out of the first one, if it has the shape that was asked for.

## Main definitions

* `WayIn c call ds p afters p'`: the middlewares `ds` all hand the call on
* `passBack afters`: the way back
* `Nested c call last ds p`: what middlewares around a last stage come to
* `Session.ask s e stmt d`: the operation with a demand
* `Converted e d r v`: what the caller gets for what came back
* `Asked s c e stmt d w`: what an operation comes to

## Main results

* `WayIn.outcome_pipeline`: the middlewares that hand a call on, around others
* `pipeline_nested`: middlewares around any last stage are nested
* `Output.converted`: the three conversions
* `operation_nested`: so are those of an operation, and its caller gets what comes out of them
-/

namespace EntityMapper

variable {σ : Type}

/-! ## The way of a call -/

/-- **The way in**: the middlewares choose in order, each from the point that the one before it
reached, and all of them hand the call on. -/
inductive WayIn (c : Scope σ) (call : Call (Run σ)) : List (Chooser (Run σ)) → Point σ →
    List (Except Error Output → Part σ (Except Error Output)) → Point σ → Prop where
  | nil (p : Point σ) : WayIn c call [] p [] p
  | cons {d ds after afters p p₁ p₂} (h : Reaches c (d call) p (.handOn after) p₁)
    (hs : WayIn c call ds p₁ afters p₂) : WayIn c call (d :: ds) p (after :: afters) p₂

/-- **The way back**: the last middleware is the first that works on what was answered. -/
def passBack : List (Except Error Output → Part σ (Except Error Output)) → Except Error Output →
    Part σ (Except Error Output)
  | [], r => pure r
  | after :: afters, r => do
    let r' ← passBack afters r
    after r'

/-- **What middlewares around a last stage come to.** The first one that answers turns the call
around, and nothing behind it is reached; if there is none, the last stage is reached, once. Either
way what was answered passes back through all those, and only those, that handed the call on. -/
structure Nested (c : Scope σ) (call : Call (Run σ)) (last : Handler (Run σ))
    (ds : List (Chooser (Run σ))) (p : Point σ)
    (result : Except Interrupt (Except Error Output × Option Sql.Query) × RunState σ) : Prop where
  answered : ∀ outer d inner afters p₁ r p₂, ds = outer ++ d :: inner →
    WayIn c call outer p afters p₁ → Reaches c (d call) p₁ (.answer r) p₂ →
    result = outcome c (passBack afters r) p₂
  through : ∀ afters p₁, WayIn c call ds p afters p₁ →
    result = outcome c (last call >>= passBack afters) p₁
  interrupted : ∀ outer d inner afters p₁ i w, ds = outer ++ d :: inner →
    WayIn c call outer p afters p₁ → Breaks c (d call) p₁ i w → result = (.error i, w)
  total : (∃ afters p₁, WayIn c call ds p afters p₁) ∨
    ∃ outer d inner afters p₁, ds = outer ++ d :: inner ∧ WayIn c call outer p afters p₁ ∧
      ((∃ r p₂, Reaches c (d call) p₁ (.answer r) p₂) ∨ ∃ i w, Breaks c (d call) p₁ i w)

section Ways

variable {c : Scope σ} {call : Call (Run σ)} {d : Chooser (Run σ)} {ds : List (Chooser (Run σ))}
  {p p₁ p₂ : Point σ} {r : Except Error Output}
  {after : Except Error Output → Part σ (Except Error Output)}
  {afters : List (Except Error Output → Part σ (Except Error Output))}

/-- What a middleware does that hands a call on. -/
theorem outcome_of_handOn (h : Reaches c (d call) p (.handOn after) p₁) (next : Handler (Run σ)) :
    outcome c (d.middleware next call) p = outcome c (next call >>= after) p₁ :=
  h.outcome_bind _

/-- What a middleware does that answers a call. -/
theorem reaches_of_answer (h : Reaches c (d call) p (.answer r) p₁) (next : Handler (Run σ)) :
    Reaches c (d.middleware next call) p r p₁ :=
  h.outcome_bind _

/-- A middleware that is interrupted as it chooses reaches nothing. -/
theorem breaks_middleware {i : Interrupt} {w : RunState σ} (h : Breaks c (d call) p i w)
    (next : Handler (Run σ)) : Breaks c (d.middleware next call) p i w :=
  h.bind _

/-- **The middlewares that hand a call on**, around any others: what these come to, from the point
that is reached, passes back. -/
theorem WayIn.outcome_pipeline (hin : WayIn c call ds p afters p₁)
    (inner : List (Middleware (Run σ))) (last : Handler (Run σ)) :
    outcome c (pipeline (ds.map Chooser.middleware ++ inner) last call) p =
      outcome c (pipeline inner last call >>= passBack afters) p₁ := by
  induction hin with
  | nil p =>
    rw [List.map_nil, List.nil_append]
    show _ = outcome c (pipeline inner last call >>= pure) p
    rw [bind_pure]
  | @cons d ds after afters p p₁ p₂ hd _ ih =>
    rw [List.map_cons, List.cons_append, pipeline_cons, outcome_of_handOn hd,
      outcome_bind_congr ih after, bind_assoc]
    rfl

/-- **Middlewares around any last stage are nested.** -/
theorem pipeline_nested (c : Scope σ) (call : Call (Run σ)) (last : Handler (Run σ))
    (ds : List (Chooser (Run σ))) (p : Point σ) :
    Nested c call last ds p (outcome c (pipeline (ds.map Chooser.middleware) last call) p) where
  answered := by
    rintro outer d inner afters p₁ r p₂ rfl hin h
    rw [List.map_append, hin.outcome_pipeline, List.map_cons, pipeline_cons]
    exact (reaches_of_answer h _).outcome_bind _
  through := by
    intro afters p₁ hin
    have hall := hin.outcome_pipeline [] last
    rwa [List.append_nil] at hall
  interrupted := by
    rintro outer d inner afters p₁ i w rfl hin h
    rw [List.map_append, hin.outcome_pipeline, List.map_cons, pipeline_cons]
    exact (breaks_middleware h _).bind _
  total := by
    induction ds generalizing p with
    | nil => exact .inl ⟨[], p, .nil p⟩
    | cons d ds ih =>
      obtain ⟨r | after, p₁, h⟩ | ⟨i, w, h⟩ := reaches_or_breaks c (d call) p
      · exact .inr ⟨[], d, ds, [], p, rfl, .nil p, .inl ⟨r, p₁, h⟩⟩
      · obtain ⟨afters, p₂, hin⟩ | ⟨outer, d', inner, afters, p₂, hsplit, hin, hend⟩ := ih p₁
        · exact .inl ⟨after :: afters, p₂, .cons h hin⟩
        · exact .inr ⟨d :: outer, d', inner, after :: afters, p₂, by rw [hsplit, List.cons_append],
            .cons h hin, hend⟩
      · exact .inr ⟨[], d, ds, [], p, rfl, .nil p, .inr ⟨i, w, h⟩⟩

end Ways

/-! ## What the caller gets -/

/-- What an operation yields that asks for it. -/
def Demand.Result : Demand → Type
  | first => Instance
  | all => List Instance
  | exec => ExecResult

/-- **The operation with a demand.** -/
def Session.ask (s : Session σ) (e : Entity) (stmt : Sql.Statement) :
    (d : Demand) → Run σ (Except Error d.Result)
  | .first => s.get e stmt
  | .all => s.getAll e stmt
  | .exec => s.exec e stmt

namespace Output

/-- The result has the shape that was asked for. -/
def Fits (e : Entity) : Demand → Output → Prop
  | .first, one e' _ => e'.identity = e.identity
  | .all, many e' _ => e'.identity = e.identity
  | .exec, exec _ => True
  | _, _ => False

/-- The fault of a result of another shape. -/
def misfit : Demand → Output → Error
  | .exec, _ => .other "middleware returned a value for an exec"
  | _, exec _ => execFault
  | _, _ => foreignFault

/-- A result as what was asked for. -/
def convert (e : Entity) : (d : Demand) → Output → Except Error d.Result
  | .first => asOne e
  | .all => asMany e
  | .exec => asExec

end Output

/-- **What the caller gets for what came back**: a fault as it is, a value that has the shape that
was asked for, and a fault for any other. -/
inductive Converted (e : Entity) : (d : Demand) → Except Error Output → Except Error d.Result →
    Prop where
  | fault (d : Demand) (err : Error) : Converted e d (.error err) (.error err)
  | one {e' : Entity} (i : Instance) (he : e'.identity = e.identity) :
    Converted e .first (.ok (.one e' i)) (.ok i)
  | many {e' : Entity} (is : List Instance) (he : e'.identity = e.identity) :
    Converted e .all (.ok (.many e' is)) (.ok is)
  | exec (r : ExecResult) : Converted e .exec (.ok (.exec r)) (.ok r)
  | misfit {d : Demand} {o : Output} (h : ¬ o.Fits e d) :
    Converted e d (.ok o) (.error (o.misfit d))

/-- A result of the shape that was asked for is what the caller gets. -/
theorem Converted.of_fits {e : Entity} {d : Demand} {o : Output} (h : o.Fits e d) :
    Converted e d (.ok o) (o.convert e d) := by
  cases d with
  | first =>
    cases o with
    | one e' i =>
      have hconvert : Output.convert e .first (.one e' i) = .ok i := if_pos h
      exact hconvert ▸ .one i h
    | _ => exact h.elim
  | all =>
    cases o with
    | many e' is =>
      have hconvert : Output.convert e .all (.many e' is) = .ok is := if_pos h
      exact hconvert ▸ .many is h
    | _ => exact h.elim
  | exec =>
    cases o with
    | exec r => exact .exec r
    | _ => exact h.elim

/-- A result of any other shape is a fault. -/
theorem Output.convert_of_not_fits {e : Entity} {d : Demand} {o : Output} (h : ¬ o.Fits e d) :
    o.convert e d = .error (o.misfit d) := by
  cases d with
  | first =>
    cases o with
    | one e' i => exact if_neg h
    | _ => rfl
  | all =>
    cases o with
    | many e' is => exact if_neg h
    | _ => rfl
  | exec =>
    cases o with
    | exec r => exact absurd trivial h
    | _ => rfl

/-- **The conversions** tell all shapes apart. -/
theorem Output.converted (e : Entity) (d : Demand) (r : Except Error Output) :
    Converted e d r (r >>= Output.convert e d) := by
  cases r with
  | error err => exact .fault d err
  | ok o =>
    show Converted e d (.ok o) (o.convert e d)
    by_cases h : o.Fits e d
    · exact .of_fits h
    · rw [Output.convert_of_not_fits h]
      exact .misfit h

/-! ## Operations -/

/-- The call that an operation makes with the model of its entity. -/
def Session.callOf (s : Session σ) (e : Entity) (stmt : Sql.Statement) (m : Model) :
    Call (Run σ) :=
  ⟨stmt.queryType, m, s.build e stmt⟩

/-- **What an operation comes to**: a fault before any middleware is reached, or what the caller
gets for what comes out of the first one. -/
inductive Asked (s : Session σ) (c : Scope σ) (e : Entity) (stmt : Sql.Statement) (d : Demand)
    (w : RunState σ) : Except Interrupt (Except Error d.Result) × RunState σ → Prop where
  | empty {columns upsert} (hd : d = .exec) (h : stmt = .insert ⟨[], columns, upsert⟩) :
    Asked s c e stmt d w (.ok (.error .insertZeroRow), w)
  | unknown {err w'} (h : (s.model e).eval c w = (.ok (.error err), w')) :
    Asked s c e stmt d w (.ok (.error err), w')
  | returned {m w₁ r v p} (hm : (s.model e).eval c w = (.ok (.ok m), w₁))
    (h : Reaches c (pipeline s.database.middlewares (s.perform e d) (s.callOf e stmt m))
      ⟨none, w₁⟩ r p) (hv : Converted e d r v) : Asked s c e stmt d w (.ok v, p.state)
  | interrupted {m w₁ i w'} (hm : (s.model e).eval c w = (.ok (.ok m), w₁))
    (h : Breaks c (pipeline s.database.middlewares (s.perform e d) (s.callOf e stmt m))
      ⟨none, w₁⟩ i w') : Asked s c e stmt d w (.error i, w')

section Operations

variable {s : Session σ} {c : Scope σ} {e : Entity} {stmt : Sql.Statement} {d : Demand}
  {w w₁ w' : RunState σ} {m : Model}

/-- Looking for a model is not interrupted. -/
theorem Session.exists_eval_model (s : Session σ) (e : Entity) (c : Scope σ) (w : RunState σ) :
    ∃ r w', (s.model e).eval c w = (.ok r, w') := by
  rw [Session.model, eval_modelOf]
  cases (w.registries s.registry).lookup? e with
  | some m => exact ⟨_, _, rfl⟩
  | none =>
    dsimp only
    rw [eval_registerEntity]
    cases (w.registries s.registry).register e [] with
    | error err => exact ⟨_, _, rfl⟩
    | ok p => exact ⟨_, _, rfl⟩

theorem Session.eval_operate_of_error {err : Error}
    (hm : (s.model e).eval c w = (.ok (.error err), w')) :
    (s.operate e stmt d).eval c w = (.ok (.error err), w') := by
  rw [Session.operate, eval_bind, hm]
  rfl

theorem Session.eval_operate_of_reaches {r : Except Error Output} {p : Point σ}
    (hm : (s.model e).eval c w = (.ok (.ok m), w₁))
    (h : Reaches c (pipeline s.database.middlewares (s.perform e d) (s.callOf e stmt m))
      ⟨none, w₁⟩ r p) : (s.operate e stmt d).eval c w = (.ok r, p.state) := by
  rw [Session.operate, eval_bind, hm]
  dsimp only
  simp only [Reaches, outcome, Session.callOf] at h
  rw [eval_bind, h]
  rfl

theorem Session.eval_operate_of_breaks {i : Interrupt}
    (hm : (s.model e).eval c w = (.ok (.ok m), w₁))
    (h : Breaks c (pipeline s.database.middlewares (s.perform e d) (s.callOf e stmt m))
      ⟨none, w₁⟩ i w') : (s.operate e stmt d).eval c w = (.error i, w') := by
  rw [Session.operate, eval_bind, hm]
  dsimp only
  simp only [Breaks, outcome, Session.callOf] at h
  rw [eval_bind, h]

/-- The operation with a demand converts what comes out of the middlewares, unless it is an
insertion of nothing. -/
theorem Session.ask_eq (s : Session σ) (e : Entity) (stmt : Sql.Statement) (d : Demand)
    (h : ∀ columns upsert, d = .exec → stmt ≠ .insert ⟨[], columns, upsert⟩) :
    s.ask e stmt d = (· >>= Output.convert e d) <$> s.operate e stmt d := by
  cases d with
  | first => rfl
  | all => rfl
  | exec =>
    show s.exec e stmt = _
    unfold Session.exec
    split
    · exact absurd rfl (h _ _ rfl)
    · rfl

/-- **What an operation comes to.** -/
theorem Session.asked (s : Session σ) (c : Scope σ) (e : Entity) (stmt : Sql.Statement)
    (d : Demand) (w : RunState σ) : Asked s c e stmt d w ((s.ask e stmt d).eval c w) := by
  by_cases hempty : ∃ columns upsert, d = .exec ∧ stmt = .insert ⟨[], columns, upsert⟩
  · obtain ⟨columns, upsert, rfl, rfl⟩ := hempty
    exact .empty rfl rfl
  · rw [s.ask_eq e stmt d fun columns upsert hd hstmt => hempty ⟨columns, upsert, hd, hstmt⟩,
      eval_map]
    obtain ⟨err | m, w₁, hm⟩ := s.exists_eval_model e c w
    · rw [Session.eval_operate_of_error hm]
      exact .unknown hm
    · obtain ⟨r, p, h⟩ | ⟨i, w', h⟩ := reaches_or_breaks c
        (pipeline s.database.middlewares (s.perform e d) (s.callOf e stmt m)) ⟨none, w₁⟩
      · rw [Session.eval_operate_of_reaches hm h]
        exact .returned hm h (Output.converted e d r)
      · rw [Session.eval_operate_of_breaks hm h]
        exact .interrupted hm h

/-- **Operations are nested**: the middlewares of a session are nested around any last stage, that
of an operation among them, and the caller of an operation gets what comes out of the first one as
what was asked for, or a fault. -/
theorem operation_nested (s : Session σ) {ds : List (Chooser (Run σ))}
    (hs : s.database.middlewares = ds.map Chooser.middleware) (c : Scope σ) :
    (∀ call last p, Nested c call last ds p
      (outcome c (pipeline s.database.middlewares last call) p)) ∧
    ∀ e stmt d w, Asked s c e stmt d w ((s.ask e stmt d).eval c w) := by
  constructor
  · intro call last p
    rw [hs]
    exact pipeline_nested c call last ds p
  · intro e stmt d w
    exact s.asked c e stmt d w

end Operations

/-- Three stages, of which the second refuses deletions. -/
def guards : List Scenario.Stage :=
  [.record "outer", .deny .delete "no deletions", .record "inner"]

/-- Guests, of whom only the numbers are known. -/
def guest : Entity :=
  ⟨0, "Guest", .record, some "guests", [⟨"id", ⟨.int .i64, false⟩, none, .null, .content, false⟩]⟩

/-- The model of guests. -/
def guestModel : Model := ⟨0, "Guest", "guests", [⟨"id", "id", ⟨.int .i64, false⟩, 0⟩], 0⟩

/-- A deletion is answered by the second stage, passes back through the first one, and gets neither
to the third one nor to the driver. -/
theorem refusedDeletion_nested :
    let s : Session Scripted.State :=
      .plain 0 ⟨⟨.postgres, .byName, 3, none, 0⟩, guards.map (Scenario.Stage.middleware 0)⟩
    let ds : List (Chooser (Run Scripted.State)) := guards.map (Scenario.Stage.chooser 0)
    let c := Scenario.startScope Scripted.driver
    let w : RunState Scripted.State := { Scenario.startState (.start [] .none) [] with
      registries := fun _ => Registry.empty.store guestModel }
    let stmt : Sql.Statement := .delete ⟨none, []⟩
    s.database.middlewares = ds.map Chooser.middleware ∧
    ∃ w', Nested c (s.callOf guest stmt guestModel) (s.perform guest .exec) ds ⟨none, w⟩
        (.ok (.error (.other "no deletions"), none), w') ∧
      Asked s c guest stmt .exec w (.ok (.error (.other "no deletions")), w') ∧
      w'.log = [.line "outer:before:DELETE", .line "outer:after:true"] ∧
      (w'.states 0).statements = [] := by
  intro s ds c w stmt
  have hs : s.database.middlewares = ds.map Chooser.middleware := by
    rw [List.map_map]
    exact List.map_congr_left fun stage _ => stage.middleware_eq 0
  obtain ⟨hnested, hasked⟩ := operation_nested s hs c
  exact ⟨hs, _, hnested (s.callOf guest stmt guestModel) (s.perform guest .exec) ⟨none, w⟩,
    hasked guest stmt .exec w, rfl, rfl⟩

end EntityMapper

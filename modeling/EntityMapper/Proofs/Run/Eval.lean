import EntityMapper.Session.Basic

/-!
# Evaluating programs

What a program comes to when it is run in a scope from a state: its result, or why it was
interrupted, and the state that it leaves. Every primitive of programs has one equation.

## Main definitions

* `Run.eval x c w`: the outcome of the program `x` in the scope `c` from the state `w`

## Main results

* `eval_bind`, `eval_tryCatch`, …: the primitives of programs
* `eval_modelOf`: a model that is kept is handed out, and any other entity is registered
-/

namespace EntityMapper

variable {σ α β : Type}

/-- **The outcome of a program** in a scope from a state. -/
def Run.eval (x : Run σ α) (c : Scope σ) (w : RunState σ) :
    Except Interrupt α × RunState σ :=
  (x.run c).run w

/-! ## Primitives -/

@[simp] theorem eval_pure (a : α) (c : Scope σ) (w : RunState σ) :
    Run.eval (pure a) c w = (.ok a, w) := rfl

@[simp] theorem eval_bind (x : Run σ α) (f : α → Run σ β) (c : Scope σ) (w : RunState σ) :
    Run.eval (x >>= f) c w = match x.eval c w with
      | (.ok a, w') => (f a).eval c w'
      | (.error i, w') => (.error i, w') := by
  simp only [Run.eval, bind, ReaderT.bind, ReaderT.run, ExceptT.bind, ExceptT.mk, ExceptT.run,
    StateT.bind]
  rcases x c w with ⟨_ | _, _⟩ <;> rfl

@[simp] theorem eval_map (f : α → β) (x : Run σ α) (c : Scope σ) (w : RunState σ) :
    Run.eval (f <$> x) c w = match x.eval c w with
      | (.ok a, w') => (.ok (f a), w')
      | (.error i, w') => (.error i, w') := by
  rw [map_eq_pure_bind, eval_bind]
  rfl

@[simp] theorem eval_get (c : Scope σ) (w : RunState σ) :
    Run.eval (get : Run σ (RunState σ)) c w = (.ok w, w) := rfl

@[simp] theorem eval_set (v : RunState σ) (c : Scope σ) (w : RunState σ) :
    Run.eval (set v : Run σ Unit) c w = (.ok (), v) := rfl

@[simp] theorem eval_modify (f : RunState σ → RunState σ) (c : Scope σ) (w : RunState σ) :
    Run.eval (modify f : Run σ Unit) c w = (.ok (), f w) := rfl

@[simp] theorem eval_read (c : Scope σ) (w : RunState σ) :
    Run.eval (read : Run σ (Scope σ)) c w = (.ok c, w) := rfl

@[simp] theorem eval_throw (i : Interrupt) (c : Scope σ) (w : RunState σ) :
    Run.eval (throw i : Run σ α) c w = (.error i, w) := rfl

@[simp] theorem eval_withReader (f : Scope σ → Scope σ) (x : Run σ α) (c : Scope σ)
    (w : RunState σ) : Run.eval (withReader f x) c w = x.eval (f c) w := rfl

@[simp] theorem eval_tryCatch (x : Run σ α) (f : Interrupt → Run σ α) (c : Scope σ)
    (w : RunState σ) :
    Run.eval (tryCatch x f) c w = match x.eval c w with
      | (.ok a, w') => (.ok a, w')
      | (.error i, w') => (f i).eval c w' := by
  simp only [Run.eval, tryCatch, tryCatchThe, MonadExceptOf.tryCatch, ReaderT.run,
    ExceptT.tryCatch, ExceptT.mk, ExceptT.run, bind, StateT.bind]
  rcases x c w with ⟨_ | _, _⟩ <;> rfl

@[simp] theorem eval_report (n : Notice) (c : Scope σ) (w : RunState σ) :
    Run.eval (report n) c w = (.ok (), { w with trace := w.trace ++ [n] }) := rfl

/-! ## Registries -/

/-- Registering an entity keeps its model, and leaves a notice. -/
theorem eval_registerEntity (registry : Nat) (e : Entity) (os : List ModelOption) (c : Scope σ)
    (w : RunState σ) :
    (registerEntity registry e os).eval c w = match (w.registries registry).register e os with
      | .error err => (.ok (.error err), w)
      | .ok (m, r) =>
        (.ok (.ok m), { w with
          registries := update w.registries registry r
          trace := w.trace ++ [.registered e.name m.table m.fields.length] }) := by
  simp only [registerEntity, eval_bind, eval_get]
  cases (w.registries registry).register e os with
  | error err => rfl
  | ok p => rfl

/-- **A model that is kept is handed out**; any other entity is registered without options. -/
theorem eval_modelOf (registry : Nat) (e : Entity) (c : Scope σ) (w : RunState σ) :
    (modelOf registry e).eval c w = match (w.registries registry).lookup? e with
      | some m => (.ok (.ok m), w)
      | none => (registerEntity registry e []).eval c w := by
  simp only [modelOf, eval_bind, eval_get]
  cases (w.registries registry).lookup? e with
  | none => rfl
  | some m => rfl

end EntityMapper

import EntityMapper.Proofs.Session.Build

/-!
# Histories of registries

A registry is asked for models and given registrations by any number of programs, one call after
another. The calls form a history, in which each call starts from the registry that the call before
it left; whatever else happens between two calls leaves the registry alone.

## Main definitions

* `RegistryCall`: asking for a model, or registering an entity with options
* `RegistryCall.Does`: the three outcomes of a call
* `History`: calls one after another, with their results
* `Reliable`: what programs may rely on

## Main results

* `does_of_eval`: every call has one of the three outcomes
* `History.lookup?_eq_some`, `History.lookup?_eq_none`: what histories keep
* `registry_reliable`: the laws of a registry over all histories
-/

namespace EntityMapper

open EntityMapper.Sql

variable {σ : Type}

/-! ## Serial numbers -/

namespace Model

/-- The model with another serial number. -/
def withSerial (serial : Nat) (m : Model) : Model := { m with serial := serial }

theorem withOption_withSerial (n : Nat) (m : Model) (o : ModelOption) :
    (m.withSerial n).withOption o = (m.withOption o).map (withSerial n) := by
  cases o with
  | tableName t => rfl
  | columnName f c =>
    show (renameColumn f c m.fields).map _ = ((renameColumn f c m.fields).map _).map _
    cases renameColumn f c m.fields <;> rfl

theorem withOptions_withSerial (n : Nat) (m : Model) (os : List ModelOption) :
    (m.withSerial n).withOptions os = (m.withOptions os).map (withSerial n) := by
  induction os generalizing m with
  | nil => rfl
  | cons o os ih =>
    rw [withOptions, withOptions, withOption_withSerial]
    cases m.withOption o with
    | error err => rfl
    | ok m' => exact ih m'

end Model

theorem checkColumns_withSerial (n : Nat) (m : Model) :
    (m.withSerial n).checkColumns = m.checkColumns.map (Model.withSerial n) := by
  unfold Model.checkColumns Model.withSerial
  cases repeatedColumn? [] m.fields <;> rfl

/-- **The serial number decides nothing** about a registration. -/
theorem model_withSerial (e : Entity) (os : List ModelOption) (n n' : Nat) :
    e.model os n' = (e.model os n).map (Model.withSerial n') := by
  by_cases hshape : e.shape = .record
  · have hmodel (k : Nat) : e.model os k = fieldsFrom 0 e.fields >>= fun fs =>
        Model.withOptions ⟨e.identity, e.name, e.defaultTable, fs, k⟩ os >>=
          Model.checkColumns := by
      simp [Entity.model, hshape]
    rw [hmodel n, hmodel n']
    cases fieldsFrom 0 e.fields with
    | error err => rfl
    | ok fs =>
      -- Both models are the same up to the serial number when the options come to be applied.
      have hos : Model.withOptions ⟨e.identity, e.name, e.defaultTable, fs, n'⟩ os = _ :=
        Model.withOptions_withSerial n' ⟨e.identity, e.name, e.defaultTable, fs, n⟩ os
      show Model.withOptions _ os >>= _ = (Model.withOptions _ os >>= _).map _
      rw [hos]
      cases Model.withOptions ⟨e.identity, e.name, e.defaultTable, fs, n⟩ os with
      | error err => rfl
      | ok m => exact checkColumns_withSerial n' m
  · simp [Entity.model, hshape, bind, Except.bind, throw, throwThe, MonadExceptOf.throw, Except.map]

/-! ## One call -/

/-- **A call on a registry.** -/
inductive RegistryCall where
  | get (e : Entity)
  | register (e : Entity) (options : List ModelOption)

namespace RegistryCall

/-- The entity that a call is about. -/
def entity : RegistryCall → Entity
  | get e => e
  | register e _ => e

/-- The call as a program. -/
def program (registry : Nat) : RegistryCall → Run σ (Except Error Model)
  | get e => modelOf registry e
  | register e os => registerEntity registry e os

/-- The options with which the call registers its entity, if it does. -/
def options? (r : Registry) : RegistryCall → Option (List ModelOption)
  | get e => if (r.lookup? e).isSome then none else some []
  | register _ os => some os

/-- The call has put a model of its own choice in the place of the one kept for the entity. -/
def Replaces (e : Entity) : RegistryCall × Except Error Model → Prop
  | (register e' _, .ok _) => e'.identity = e.identity
  | _ => False

/-- The call leaves the entity without a model of the caller's choice: it is about another entity,
or asks for the model, or fails. -/
def Spares (e : Entity) (p : RegistryCall × Except Error Model) : Prop :=
  p.1.entity.identity = e.identity → p.1 = get e ∨ ∃ err, p.2 = .error err

theorem Spares.not_replaces {e : Entity} {p : RegistryCall × Except Error Model}
    (h : Spares e p) : ¬ Replaces e p := by
  rcases p with ⟨call | ⟨e', os⟩, err | m⟩
  · exact id
  · exact id
  · exact id
  · intro hreplaces
    rcases h hreplaces with hget | ⟨err, herr⟩
    · cases hget
    · cases herr

/-- **The outcomes of a call**: a model is found, or the entity is registered, or it is refused. -/
inductive Does (r : Registry) : RegistryCall → Except Error Model → Registry → Prop where
  | found {e m} (hm : r.lookup? e = some m) : Does r (get e) (.ok m) r
  | registered {call os m} (hos : options? r call = some os)
    (hm : call.entity.model os r.issued = .ok m) : Does r call (.ok m) (r.store m)
  | refused {call os err} (hos : options? r call = some os)
    (hm : call.entity.model os r.issued = .error err) : Does r call (.error err) r

end RegistryCall

section Calls

variable {registry : Nat} {call : RegistryCall} {res : Except Error Model} {c : Scope σ}
  {w w' : RunState σ}

/-- A registration is refused, and then nothing has changed; or it is not. -/
theorem registerEntity_cases (registry : Nat) (e : Entity) (os : List ModelOption) (c : Scope σ)
    (w : RunState σ) :
    (∃ err, e.model os (w.registries registry).issued = .error err ∧
      (registerEntity registry e os).eval c w = (.ok (.error err), w)) ∨
    ∃ m w', e.model os (w.registries registry).issued = .ok m ∧
      (registerEntity registry e os).eval c w = (.ok (.ok m), w') ∧
        w'.registries registry = (w.registries registry).store m := by
  rw [eval_registerEntity]
  cases hm : e.model os (w.registries registry).issued with
  | error err =>
    have hr : (w.registries registry).register e os = .error err := by
      rw [Registry.register, hm]
      rfl
    exact .inl ⟨err, rfl, by rw [hr]⟩
  | ok m =>
    have hr := Registry.register_eq_ok.mpr ⟨hm, rfl⟩
    exact .inr ⟨m, _, rfl, by rw [hr], by simp [update]⟩

/-- **Every call has one of the three outcomes**, and a refusal leaves the state as it was. -/
theorem eval_program (registry : Nat) (call : RegistryCall) (c : Scope σ) (w : RunState σ) :
    ∃ res w', (call.program registry).eval c w = (.ok res, w') ∧
      call.Does (w.registries registry) res (w'.registries registry) ∧
        ∀ err, res = .error err → w' = w := by
  cases call with
  | get e =>
    rw [RegistryCall.program, eval_modelOf]
    cases hl : (w.registries registry).lookup? e with
    | some m => exact ⟨.ok m, w, rfl, .found hl, by nofun⟩
    | none =>
      have hos : RegistryCall.options? (w.registries registry) (.get e) = some [] := by
        simp [RegistryCall.options?, hl]
      rcases registerEntity_cases registry e [] c w with ⟨err, hm, heval⟩ | ⟨m, w', hm, heval, hw⟩
      · exact ⟨_, _, heval, .refused hos hm, fun _ _ => rfl⟩
      · exact ⟨_, _, heval, hw ▸ .registered hos hm, by nofun⟩
  | register e os =>
    rcases registerEntity_cases registry e os c w with ⟨err, hm, heval⟩ | ⟨m, w', hm, heval, hw⟩
    · exact ⟨_, _, heval, .refused rfl hm, fun _ _ => rfl⟩
    · exact ⟨_, _, heval, hw ▸ .registered rfl hm, by nofun⟩

theorem does_of_eval (h : (call.program registry).eval c w = (.ok res, w')) :
    call.Does (w.registries registry) res (w'.registries registry) := by
  obtain ⟨res₁, w₁, heval, hdoes, -⟩ := eval_program registry call c w
  cases heval.symm.trans h
  exact hdoes

end Calls

namespace Registry

/-- Entities of one identity have one model. -/
theorem lookup?_congr (r : Registry) {e e' : Entity} (h : e'.identity = e.identity) :
    r.lookup? e' = r.lookup? e := by
  rw [lookup?, lookup?, h]

end Registry

namespace RegistryCall.Does

variable {r r' : Registry} {call : RegistryCall} {res : Except Error Model} {e : Entity} {m : Model}

/-- A call that has a model leaves it in the registry. -/
theorem lookup?_entity (h : call.Does r (.ok m) r') : r'.lookup? call.entity = some m := by
  cases h with
  | found hm => exact hm
  | registered hos hm => exact r.lookup?_store (identity_of_model hm)

/-- A model that is asked for in vain is not kept, and the entity cannot be registered as it is. -/
theorem of_get_error {err : Error} (h : (get e).Does r (.error err) r') :
    r.lookup? e = none ∧ e.model [] r.issued = .error err := by
  cases h with
  | refused hos hm =>
    cases hl : r.lookup? e with
    | some m => simp [options?, hl] at hos
    | none =>
      obtain rfl : [] = _ := by simpa [options?, hl] using hos
      exact ⟨rfl, hm⟩

/-- A call is nothing to entities of another identity. -/
theorem lookup?_of_ne (h : call.Does r res r') (he : e.identity ≠ call.entity.identity) :
    r'.lookup? e = r.lookup? e := by
  cases h with
  | found => rfl
  | refused => rfl
  | registered hos hm => exact r.lookup?_store_of_ne (identity_of_model hm ▸ he)

/-- A model that is kept stays, unless a registration replaces it. -/
theorem lookup?_eq_some (h : call.Does r res r') (hm : r.lookup? e = some m)
    (hcall : ¬ Replaces e (call, res)) : r'.lookup? e = some m := by
  by_cases he : e.identity = call.entity.identity
  · cases h with
    | found => exact hm
    | refused => exact hm
    | registered hos =>
      cases call with
      -- Asking for a model that is kept registers nothing.
      | get e' =>
        have hfound : r.lookup? e' = some m := (r.lookup?_congr he.symm).trans hm
        simp [options?, hfound] at hos
      | register e' os' => exact absurd he.symm hcall
  · rw [h.lookup?_of_ne he, hm]

/-- An entity that cannot be registered as it is has no model, unless a registration with options
gives it one. -/
theorem lookup?_eq_none (h : call.Does r res r') (hm : r.lookup? e = none) {n : Nat} {err : Error}
    (hfault : e.model [] n = .error err)
    (hcall : Spares e (call, res)) : r'.lookup? e = none := by
  by_cases he : call.entity.identity = e.identity
  · cases h with
    | found => exact hm
    | refused => exact hm
    | registered hos hm' =>
      rcases hcall he with rfl | ⟨err', herr⟩
      · simp only [options?, hm, Option.isSome_none, Bool.false_eq_true, if_false,
          Option.some.injEq] at hos
        subst hos
        rw [model_withSerial _ _ n, entity, hfault] at hm'
        cases hm'
      · cases herr
  · rw [h.lookup?_of_ne (Ne.symm he), hm]

end RegistryCall.Does

/-! ## Histories -/

/-- **Calls on a registry, one after another**, with their results. Any program makes a call, from
any state in which the registry is what the calls before have made of it. -/
inductive History (σ : Type) (registry : Nat) :
    List (RegistryCall × Except Error Model) → Registry → Registry → Prop where
  | nil (r : Registry) : History σ registry [] r r
  | cons {call : RegistryCall} {res : Except Error Model} {c : Scope σ} {w w' : RunState σ}
    {h : List (RegistryCall × Except Error Model)} {r : Registry}
    (hcall : (call.program registry).eval c w = (.ok res, w'))
    (hrest : History σ registry h (w'.registries registry) r) :
    History σ registry ((call, res) :: h) (w.registries registry) r

namespace History

variable {registry : Nat} {h h' : List (RegistryCall × Except Error Model)} {r r' : Registry}
  {e : Entity} {m : Model}

/-- A history in two parts. -/
theorem of_append (hist : History σ registry (h ++ h') r r') :
    ∃ r₁, History σ registry h r r₁ ∧ History σ registry h' r₁ r' := by
  induction h generalizing r with
  | nil => exact ⟨r, .nil r, hist⟩
  | cons p h ih =>
    cases hist with
    | cons hcall hrest =>
      obtain ⟨r₁, hfirst, hsecond⟩ := ih hrest
      exact ⟨r₁, .cons hcall hfirst, hsecond⟩

/-- The calls of a history are nothing to entities of other identities. -/
theorem lookup?_of_ne (hist : History σ registry h r r')
    (he : ∀ p ∈ h, e.identity ≠ p.1.entity.identity) : r'.lookup? e = r.lookup? e := by
  induction hist with
  | nil => rfl
  | cons hcall hrest ih =>
    obtain ⟨hfirst, hothers⟩ := List.forall_mem_cons.mp he
    rw [ih hothers, (does_of_eval hcall).lookup?_of_ne hfirst]

/-- **A model that is kept stays** until a registration replaces it. -/
theorem lookup?_eq_some (hist : History σ registry h r r') (hm : r.lookup? e = some m)
    (hcalls : ∀ p ∈ h, ¬ RegistryCall.Replaces e p) : r'.lookup? e = some m := by
  induction hist with
  | nil => exact hm
  | cons hcall hrest ih =>
    obtain ⟨hfirst, hothers⟩ := List.forall_mem_cons.mp hcalls
    exact ih ((does_of_eval hcall).lookup?_eq_some hm hfirst) hothers

/-- **An entity that cannot be registered as it is** stays without a model until a registration
with options gives it one. -/
theorem lookup?_eq_none (hist : History σ registry h r r') (hm : r.lookup? e = none) {n : Nat}
    {err : Error} (hfault : e.model [] n = .error err)
    (hcalls : ∀ p ∈ h, RegistryCall.Spares e p) : r'.lookup? e = none := by
  induction hist with
  | nil => exact hm
  | cons hcall hrest ih =>
    obtain ⟨hfirst, hothers⟩ := List.forall_mem_cons.mp hcalls
    exact ih ((does_of_eval hcall).lookup?_eq_none hm hfault hfirst) hothers

end History

/-! ## Builds in a history -/

namespace Session

variable {s : Session σ} {e : Entity} {stmt : Statement} {c : Scope σ} {w : RunState σ}

/-- Building a statement in the model that is kept for its entity. -/
theorem eval_build_of_lookup? (hstmt : ∀ q, stmt ≠ .handwritten q) (hr : stmt.refusal? = none)
    {m : Model} (hm : (w.registries s.registry).lookup? e = some m) :
    ∃ w', (s.build e stmt).eval c w = (.ok (stmt.compile s.database.settings.dialect m
      (readField s.database.settings.accessor e m)), w') := by
  have heval : (s.model e).eval c w = (.ok (.ok m), w) := by rw [Session.model, eval_modelOf, hm]
  obtain ⟨examined, trace, hbuild⟩ := s.eval_build_of_model e hstmt hr heval
  exact ⟨_, hbuild⟩

/-- Building a statement about an entity that cannot be registered as it is. -/
theorem eval_build_of_fault (hstmt : ∀ q, stmt ≠ .handwritten q) (hr : stmt.refusal? = none)
    (hm : (w.registries s.registry).lookup? e = none) {n : Nat} {err : Error}
    (hfault : e.model [] n = .error err) : (s.build e stmt).eval c w = (.ok (.error err), w) := by
  have hmodel : e.model [] (w.registries s.registry).issued = .error err := by
    rw [model_withSerial e [] n, hfault]
    rfl
  have heval : (s.model e).eval c w = (.ok (.error err), w) := by
    rw [Session.model, eval_modelOf, hm]
    rcases registerEntity_cases s.registry e [] c w with ⟨err', hm', heval⟩ | ⟨m, w', hm', -⟩
    · cases hmodel.symm.trans hm'
      exact heval
    · cases hmodel.symm.trans hm'
  simp [s.build_of_ne_handwritten e hstmt, hr, heval]

/-- **A statement is built twice alike.** Between the two builds anything may be registered, but no
registration gives the entity of the statement another model. -/
theorem build_again (s : Session σ) (e : Entity) (stmt : Statement) (c : Scope σ)
    (w : RunState σ) :
    ∃ q w₁, (s.build e stmt).eval c w = (.ok q, w₁) ∧
      ∀ (h : List (RegistryCall × Except Error Model)) (c' : Scope σ) (w₂ : RunState σ),
        History σ s.registry h (w₁.registries s.registry) (w₂.registries s.registry) →
        (∀ p ∈ h, RegistryCall.Spares e p) →
          ∃ w₃, (s.build e stmt).eval c' w₂ = (.ok q, w₃) := by
  by_cases hstmt : ∀ q, stmt ≠ .handwritten q
  · cases hr : stmt.refusal? with
    | some err =>
      have hbuild (c : Scope σ) (w : RunState σ) :
          (s.build e stmt).eval c w = (.ok (.error err), w) := by
        simp [s.build_of_ne_handwritten e hstmt, hr]
      exact ⟨_, w, hbuild c w, fun h c' w₂ _ _ => ⟨w₂, hbuild c' w₂⟩⟩
    | none =>
      obtain ⟨res, w₁, heval, hdoes, hsame⟩ := eval_program s.registry (.get e) c w
      cases res with
      | ok m =>
        obtain ⟨examined, trace, hbuild⟩ := s.eval_build_of_model e hstmt hr heval
        refine ⟨_, _, hbuild, fun h c' w₂ hist hcalls => ?_⟩
        have hkept : (w₂.registries s.registry).lookup? e = some m :=
          hist.lookup?_eq_some hdoes.lookup?_entity fun p hp => (hcalls p hp).not_replaces
        exact eval_build_of_lookup? hstmt hr hkept
      | error err =>
        obtain rfl := hsame err rfl
        obtain ⟨hnone, hfault⟩ := hdoes.of_get_error
        refine ⟨_, w₁, eval_build_of_fault hstmt hr hnone hfault, fun h c' w₂ hist hcalls => ?_⟩
        have hstill := hist.lookup?_eq_none hnone hfault hcalls
        exact ⟨w₂, eval_build_of_fault hstmt hr hstill hfault⟩
  · obtain ⟨q, rfl⟩ : ∃ q, stmt = .handwritten q := by simpa using hstmt
    exact ⟨.ok q, w, rfl, fun h c' w₂ _ _ => ⟨w₂, rfl⟩⟩

end Session

/-! ## The laws of a registry -/

/-- **What programs may rely on** when they use a registry. -/
structure Reliable (σ : Type) (registry : Nat) : Prop where
  /-- Every call has a result. -/
  answered (call : RegistryCall) (c : Scope σ) (w : RunState σ) :
    ∃ res w', (call.program registry).eval c w = (.ok res, w')
  /-- A call that fails changes nothing. -/
  failed (call : RegistryCall) (c : Scope σ) (w w' : RunState σ) (err : Error) :
    (call.program registry).eval c w = (.ok (.error err), w') → w' = w
  /-- Asking for a model that is kept changes nothing either. -/
  found (e : Entity) (m : Model) (c : Scope σ) (w : RunState σ) :
    (w.registries registry).lookup? e = some m →
      ((RegistryCall.get e).program registry).eval c w = (.ok (.ok m), w)
  /-- Asking for a model that is not kept is a registration without options. -/
  missing (e : Entity) (c : Scope σ) (w : RunState σ) :
    (w.registries registry).lookup? e = none →
      ((RegistryCall.get e).program registry).eval c w =
        ((RegistryCall.register e []).program registry).eval c w
  /-- The model that a call has returned is kept until a registration replaces it. -/
  kept (before after : List (RegistryCall × Except Error Model)) (call : RegistryCall) (m : Model)
    (r r' : Registry) :
    History σ registry (before ++ (call, .ok m) :: after) r r' →
      (∀ p ∈ after, ¬ RegistryCall.Replaces call.entity p) → r'.lookup? call.entity = some m
  /-- Calls about other entities do not matter. -/
  others (h : List (RegistryCall × Except Error Model)) (e : Entity) (r r' : Registry) :
    History σ registry h r r' → (∀ p ∈ h, e.identity ≠ p.1.entity.identity) →
      r'.lookup? e = r.lookup? e
  /-- A statement that is built again is built alike. -/
  rebuilt (s : Session σ) (e : Entity) (stmt : Statement) (c : Scope σ) (w : RunState σ) :
    s.registry = registry → ∃ q w₁, (s.build e stmt).eval c w = (.ok q, w₁) ∧
      ∀ (h : List (RegistryCall × Except Error Model)) (c' : Scope σ) (w₂ : RunState σ),
        History σ registry h (w₁.registries registry) (w₂.registries registry) →
        (∀ p ∈ h, RegistryCall.Spares e p) →
          ∃ w₃, (s.build e stmt).eval c' w₂ = (.ok q, w₃)

/-- **Every registry is reliable**, whatever its history. -/
theorem registry_reliable (σ : Type) (registry : Nat) : Reliable σ registry where
  answered call c w := by
    obtain ⟨res, w', heval, -⟩ := eval_program registry call c w
    exact ⟨res, w', heval⟩
  failed call c w w' err h := by
    obtain ⟨res, w₁, heval, -, hsame⟩ := eval_program registry call c w
    cases heval.symm.trans h
    exact hsame err rfl
  found e m c w hm := by rw [RegistryCall.program, eval_modelOf, hm]
  missing e c w hm := by rw [RegistryCall.program, eval_modelOf, hm, RegistryCall.program]
  kept before after call m r r' hist hafter := by
    obtain ⟨r₁, -, hrest⟩ := hist.of_append
    cases hrest with
    | cons hcall hlater => exact hlater.lookup?_eq_some (does_of_eval hcall).lookup?_entity hafter
  others h e r r' hist he := hist.lookup?_of_ne he
  rebuilt s e stmt c w hs := by
    subst hs
    exact s.build_again e stmt c w

end EntityMapper

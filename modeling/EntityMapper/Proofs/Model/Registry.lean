import EntityMapper.Model.Registry
import EntityMapper.Proofs.Result

/-!
# Laws of registries

A registration yields a model of its entity, and the registry keeps that model.

## Main results

* `model_eq_ok`: what a successful registration went through
* `lookup?_store`: the model that is kept last is the one that is found
* `lookup?_store_of_ne`: other entities keep their models
* `lookup?_of_register`: after a registration the registry has its model
-/

namespace EntityMapper

/-- An option changes neither the entity nor the serial number of a model. -/
theorem withOption_eq_ok {m m' : Model} {o : ModelOption} (h : m.withOption o = .ok m') :
    m'.identity = m.identity ∧ m'.entityName = m.entityName ∧ m'.serial = m.serial := by
  cases o with
  | tableName t =>
    cases h
    exact ⟨rfl, rfl, rfl⟩
  | columnName f c =>
    obtain ⟨fs, -, rfl⟩ := map_eq_ok.mp h
    exact ⟨rfl, rfl, rfl⟩

theorem withOptions_eq_ok {m m' : Model} {os : List ModelOption} (h : m.withOptions os = .ok m') :
    m'.identity = m.identity ∧ m'.entityName = m.entityName ∧ m'.serial = m.serial := by
  induction os generalizing m with
  | nil =>
    cases h
    exact ⟨rfl, rfl, rfl⟩
  | cons o os ih =>
    obtain ⟨m₁, ho, hos⟩ := bind_eq_ok.mp h
    obtain ⟨h₁, h₂, h₃⟩ := withOption_eq_ok ho
    obtain ⟨h₁', h₂', h₃'⟩ := ih hos
    exact ⟨h₁'.trans h₁, h₂'.trans h₂, h₃'.trans h₃⟩

theorem checkColumns_eq_ok {m m' : Model} :
    m.checkColumns = .ok m' ↔ m' = m ∧ repeatedColumn? [] m.fields = none := by
  unfold Model.checkColumns
  cases repeatedColumn? [] m.fields <;> simp [eq_comm]

/-- **What a successful registration went through**: the entity is a record, its tags were read, the
options applied, and the columns found distinct. -/
theorem model_eq_ok {e : Entity} {os : List ModelOption} {serial : Nat} {m : Model} :
    e.model os serial = .ok m ↔
      e.shape = .record ∧ ∃ fs, fieldsFrom 0 e.fields = .ok fs ∧
        Model.withOptions ⟨e.identity, e.name, e.defaultTable, fs, serial⟩ os = .ok m ∧
          repeatedColumn? [] m.fields = none := by
  by_cases hs : e.shape = .record
  -- With the right shape the first step does nothing.
  · rw [show e.model os serial = (do
        let fs ← fieldsFrom 0 e.fields
        let m ← Model.withOptions ⟨e.identity, e.name, e.defaultTable, fs, serial⟩ os
        m.checkColumns) by simp [Entity.model, hs]]
    simp only [bind_eq_ok, checkColumns_eq_ok]
    constructor
    · rintro ⟨fs, hf, m', hm, rfl, hc⟩
      exact ⟨hs, fs, hf, hm, hc⟩
    · rintro ⟨-, fs, hf, hm, hc⟩
      exact ⟨fs, hf, m, hm, rfl, hc⟩
  · simp [Entity.model, hs, bind, Except.bind, throw, throwThe, MonadExceptOf.throw]

/-- A registration yields a model of its entity. -/
theorem identity_of_model {e : Entity} {os : List ModelOption} {serial : Nat} {m : Model}
    (h : e.model os serial = .ok m) : m.identity = e.identity := by
  obtain ⟨-, fs, -, hm, -⟩ := model_eq_ok.mp h
  exact (withOptions_eq_ok hm).1

namespace Registry

/-- **The model that is kept last is the one that is found.** -/
theorem lookup?_store {e : Entity} {m : Model} (r : Registry) (h : m.identity = e.identity) :
    (r.store m).lookup? e = some m := by
  simp [lookup?, store, h]

/-- Keeping a model changes nothing for other entities. -/
theorem lookup?_store_of_ne (r : Registry) {e : Entity} {m : Model} (h : e.identity ≠ m.identity) :
    (r.store m).lookup? e = r.lookup? e := by
  have hne : ¬ (e.identity == m.identity) := by simpa using h
  rw [lookup?, store, List.lookup_cons, lookup?]
  simp only [hne]
  induction r.kept with
  | nil => rfl
  | cons p ps ih =>
    by_cases hp : p.1 = m.identity
    · rw [List.filter_cons_of_neg (by simpa using hp), ih, List.lookup_cons]
      simp [hp, hne]
    · rw [List.filter_cons_of_pos (by simpa using hp), List.lookup_cons, List.lookup_cons, ih]

/-- An entity that has a model keeps having one. -/
theorem isSome_lookup?_store (r : Registry) {e : Entity} (m : Model) (h : (r.lookup? e).isSome) :
    ((r.store m).lookup? e).isSome := by
  by_cases he : e.identity = m.identity
  · rw [lookup?_store r he.symm]
    rfl
  · rwa [lookup?_store_of_ne r he]

theorem register_eq_ok {r r' : Registry} {e : Entity} {os : List ModelOption} {m : Model} :
    r.register e os = .ok (m, r') ↔ e.model os r.issued = .ok m ∧ r' = r.store m := by
  unfold register
  rw [bind_eq_ok]
  constructor
  · rintro ⟨m₁, hm, h⟩
    cases h
    exact ⟨hm, rfl⟩
  · rintro ⟨hm, rfl⟩
    exact ⟨m, hm, rfl⟩

/-- After a registration the registry has its model. -/
theorem lookup?_of_register {r r' : Registry} {e : Entity} {os : List ModelOption} {m : Model}
    (h : r.register e os = .ok (m, r')) : r'.lookup? e = some m := by
  obtain ⟨hm, rfl⟩ := register_eq_ok.mp h
  exact lookup?_store r (identity_of_model hm)

end Registry

end EntityMapper

import EntityMapper.Proofs.Session.Insertion
import EntityMapper.Proofs.Session.Screening
import EntityMapper.Proofs.Sql.Upsert

/-!
# Insertions in sessions

Building an insertion about a derived entity, whose instances are read by name, always has a
result: there have to be instances, the entity has to have a model, and in this model the insertion
is refused for its first fault or written out whole. The model is one of the entity, since a
registry keeps only models that registrations have made.

## Main definitions

* `Registry.Issued r e`: what the registry keeps for the entity was made for it
* `Insert.Concluded d e s got res`: what building the insertion comes to, given what the registry
  has for the entity

## Main results

* `History.issued`: registries keep what was made for their entities
* `build_insert_concluded`: building an insertion always has a result, which its faults decide
-/

namespace EntityMapper

open EntityMapper.Sql

variable {σ : Type}

/-! ## Models that were made for an entity -/

namespace Registry

/-- **What the registry keeps for the entity was made for it** by a registration. -/
def Issued (r : Registry) (e : Entity) : Prop :=
  ∀ m, r.lookup? e = some m → ∃ os n, e.model os n = .ok m

theorem issued_empty (e : Entity) : empty.Issued e := by
  rintro m ⟨⟩

/-- What the registry has for the entity fits it. -/
theorem Issued.fits {r r' : Registry} {e : Entity} {m : Model} (h : r.Issued e)
    (hget : r.get e = .ok (m, r')) : m.Fits e := by
  unfold get at hget
  cases hl : r.lookup? e with
  | some m' =>
    rw [hl] at hget
    cases hget
    obtain ⟨os, n, hm⟩ := h m hl
    exact fits_of_model hm
  | none =>
    rw [hl] at hget
    exact fits_of_model (register_eq_ok.mp hget).1

end Registry

/-- A call keeps what was made for an entity, if no other entity has its identity. -/
theorem RegistryCall.Does.issued {r r' : Registry} {call : RegistryCall} {res : Except Error Model}
    {e : Entity} (h : call.Does r res r') (hr : r.Issued e)
    (hcall : call.entity.identity = e.identity → call.entity = e) : r'.Issued e := by
  intro m hm
  by_cases he : e.identity = call.entity.identity
  · obtain rfl := hcall he.symm
    cases h with
    | found => exact hr m hm
    | refused => exact hr m hm
    | @registered _ os m' _ hm' =>
      rw [r.lookup?_store (identity_of_model hm')] at hm
      cases hm
      exact ⟨os, r.issued, hm'⟩
  · exact hr m (h.lookup?_of_ne he ▸ hm)

/-- **Registries keep what was made for their entities**, whatever their history. -/
theorem History.issued {registry : Nat} {h : List (RegistryCall × Except Error Model)}
    {r r' : Registry} {e : Entity} (hist : History σ registry h r r') (hr : r.Issued e)
    (hcalls : ∀ p ∈ h, p.1.entity.identity = e.identity → p.1.entity = e) : r'.Issued e := by
  induction hist with
  | nil => exact hr
  | cons hcall hrest ih =>
    obtain ⟨hfirst, hothers⟩ := List.forall_mem_cons.mp hcalls
    exact ih ((does_of_eval hcall).issued hr hfirst) hothers

/-! ## Building insertions -/

/-- **What building an insertion comes to**, given what the registry has for its entity. -/
structure Sql.Insert.Concluded (d : Dialect) (e : Entity) (ins : Insert)
    (got : Except Error (Model × Registry)) (res : Except Error Query) : Prop where
  /-- Without a model the fault of the entity is the error. -/
  unregistered (err : Error) : got = .error err → res = .error err
  /-- In a model the insertion is built just when it can be written. -/
  built (m : Model) (r : Registry) : got = .ok (m, r) →
    ((∃ q, res = .ok q) ↔ ins.Accepted d m)
  /-- The first fault is the error. -/
  refused (m : Model) (r : Registry) (err : Error) : got = .ok (m, r) →
    (res = .error err ↔ ins.fault? d m = some err)
  /-- The statement that is built has all rows and all arguments in place. -/
  written (m : Model) (r : Registry) (q : Query) : got = .ok (m, r) → res = .ok q →
    ins.Composed d e m q

section Concluded

variable {d : Dialect} {e : Entity} {m : Model} {ins : Insert}

/-- An insertion about an entity that has no model. -/
theorem concluded_unregistered (err : Error) : ins.Concluded d e (.error err) (.error err) where
  unregistered _ h := by
    cases h
    rfl
  built _ _ h := by cases h
  refused _ _ _ h := by cases h
  written _ _ _ h := by cases h

/-- An insertion that has a fault in the model. -/
theorem concluded_refused (r : Registry) {err : Error} (hfault : ins.fault? d m = some err) :
    ins.Concluded d e (.ok (m, r)) (.error err) where
  unregistered _ h := by cases h
  built _ _ h := by
    cases h
    rw [← Insert.fault?_eq_none, hfault]
    simp
  refused _ _ _ h := by
    cases h
    rw [hfault, Except.error.injEq, Option.some.injEq]
  written _ _ _ _ h := by cases h

/-- An insertion that has no fault in the model. -/
theorem concluded_written (r : Registry) {q : Query} (hfault : ins.fault? d m = none)
    (hq : ins.Composed d e m q) : ins.Concluded d e (.ok (m, r)) (.ok q) where
  unregistered _ h := by cases h
  built _ _ h := by
    cases h
    exact iff_of_true ⟨q, rfl⟩ (Insert.fault?_eq_none.mp hfault)
  refused _ _ _ h := by
    cases h
    rw [hfault]
    simp
  written _ _ _ h hq' := by
    cases h
    exact Except.ok.inj hq' ▸ hq

/-- What becomes of an insertion that is compiled in a model of its entity. -/
theorem concluded_compile (r : Registry) (he : e.Derived) (hm : m.Fits e)
    (hholds : ∀ i ∈ ins.rows, e.Holds i) :
    ins.Concluded d e (.ok (m, r)) ((Statement.insert ins).compile d m (readField .byName e m)) := by
  have hread : ∀ i ∈ ins.rows, ∀ f ∈ m.fields,
      readField .byName e m i f.fieldName = .ok (i.content f) := by
    intro i hi f hf
    exact he.readField_eq hm hf (k := .byName) (by nofun) ((hholds i hi).content_of_mem hm hf).1
  have hcompile : (Statement.insert ins).compile d m (readField .byName e m) =
      (resolveAll m (ins.items d m (readField .byName e m))).map (render d) := rfl
  rw [hcompile, Insert.resolves_items hread]
  cases hfault : ins.fault? d m with
  | some err => exact concluded_refused r hfault
  | none =>
    have haccepted := Insert.fault?_eq_none.mp hfault
    exact concluded_written r hfault (Insert.composed_render he hm hholds haccepted.fields)

end Concluded

/-- **Building an insertion about a derived entity**, with access by name, always has a result.
Without instances the registry is not asked; with instances the faults of the insertion decide, in
their order, and without a fault all rows and all arguments are in place. -/
theorem build_insert_concluded {s : Session σ} (hs : s.database.settings.accessor = .byName)
    {e : Entity} (he : e.Derived) {ins : Insert} (hholds : ∀ i ∈ ins.rows, e.Holds i)
    (c : Scope σ) {w : RunState σ} (hw : (w.registries s.registry).Issued e) :
    (ins.rows = [] →
      (s.build e (.insert ins)).eval c w = (.ok (.error .insertZeroRow), w)) ∧
    (ins.rows ≠ [] → ∃ res w', (s.build e (.insert ins)).eval c w = (.ok res, w') ∧
      ins.Concluded s.database.settings.dialect e ((w.registries s.registry).get e) res) := by
  have hhand : ∀ q, Statement.insert ins ≠ .handwritten q := by
    rintro q ⟨⟩
  constructor
  · intro hrows
    have hrefusal : (Statement.insert ins).refusal? = some .insertZeroRow := by
      simp [Statement.refusal?, hrows]
    exact s.eval_build_of_refusal e hhand hrefusal c w
  · intro hrows
    have hrefusal : (Statement.insert ins).refusal? = none := by
      simp [Statement.refusal?, hrows]
    rcases s.eval_build_cases e hhand hrefusal c w with ⟨err, hgot, heval⟩ | ⟨m, r, w', hgot, heval⟩
    · refine ⟨_, w, heval, ?_⟩
      rw [hgot]
      exact concluded_unregistered err
    · refine ⟨_, w', heval, ?_⟩
      rw [hs, hgot]
      exact concluded_compile r he (hw.fits hgot) hholds

/-- Two sensors; those that are known already get the new level, and a note. -/
def sensorUpsert : Insert :=
  { sensorInsert with
    upsert := some ⟨["id"], [.column ⟨"level", none⟩, .assignment "note" (.text "seen")]⟩ }

/-- The sensors in a dialect that numbers its arguments: the note comes after both rows. -/
theorem sensorUpsert_written : ∃ q w',
    (Session.build (σ := Scripted.State) (.plain 0 ⟨⟨.postgres, .byName, 0, none, 0⟩, []⟩) sensor
      (.insert sensorUpsert)).eval (Scenario.startScope Scripted.driver)
        (Scenario.startState (.start [] .none) []) = (.ok (.ok q), w') ∧
    q.sql.toList = ("INSERT INTO \"sensor\" (\"reading\",\"id\") VALUES ($1,$2),($3,$4)" ++
      " ON CONFLICT (\"id\") DO UPDATE SET \"reading\"=EXCLUDED.\"reading\",\"note\"=$5;").toList ∧
    q.args.map some = [some (.single (Decimal.Binary.quietNaN _ false)),
      some (.int .u8 ⟨7, by decide⟩), some .null, some (.int .u8 ⟨8, by decide⟩),
      some (.text "seen")] := by
  have hderived : sensor.Derived := ⟨by decide, by decide⟩
  have hholds : ∀ i ∈ sensorUpsert.rows, sensor.Holds i := sensorInsert_holds
  obtain ⟨-, hbuild⟩ := build_insert_concluded (σ := Scripted.State)
    (s := .plain 0 ⟨⟨.postgres, .byName, 0, none, 0⟩, []⟩) rfl hderived hholds
    (Scenario.startScope Scripted.driver) (w := Scenario.startState (.start [] .none) [])
    (Registry.issued_empty sensor)
  obtain ⟨res, w', heval, hconcluded⟩ := hbuild (by decide)
  obtain ⟨q, rfl⟩ := (hconcluded.built _ _ rfl).mpr (Insert.fault?_eq_none.mp (by decide))
  have hcomposed := hconcluded.written _ _ q rfl rfl
  refine ⟨q, w', heval, hcomposed.text.trans ?_, hcomposed.args.trans ?_⟩
  · decide +kernel
  · rfl

end EntityMapper

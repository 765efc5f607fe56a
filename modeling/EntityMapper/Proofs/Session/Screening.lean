import EntityMapper.Driver.Scripted
import EntityMapper.Proofs.Session.History
import EntityMapper.Proofs.Sql.Dialects
import EntityMapper.Proofs.Sql.Mentions
import EntityMapper.Scenario.Run

/-!
# Statements that are refused

A statement that reads, changes or deletes rows is built from the model of its entity, and nothing
but what it mentions decides whether that works. The reasons against it have an order: an update
without assignments comes before a fault of the entity, and that one before the mentions in the
order of the text.

## Main definitions

* `Statement.Screened stmt got res`: what building the statement comes to, given what the registry
  has for the entity

## Main results

* `eval_model_cases`: the model of an entity is what its registry has for it
* `eval_build_cases`: building a statement is compiling it in this model
* `build_screened`: building a statement on rows always has a result, which is decided by its
  mentions
-/

namespace EntityMapper

open EntityMapper.Sql

variable {σ : Type}

/-! ## The model of an entity -/

/-- **The model of an entity in a session is what the registry has for it**; a registry that has
none, and cannot have one, stays as it is. -/
theorem Session.eval_model_cases (s : Session σ) (e : Entity) (c : Scope σ) (w : RunState σ) :
    (∃ err, (w.registries s.registry).get e = .error err ∧
      (s.model e).eval c w = (.ok (.error err), w)) ∨
    ∃ m r w', (w.registries s.registry).get e = .ok (m, r) ∧
      (s.model e).eval c w = (.ok (.ok m), w') ∧ w'.registries s.registry = r := by
  rw [Session.model, eval_modelOf, Registry.get]
  cases hl : (w.registries s.registry).lookup? e with
  | some m => exact .inr ⟨m, _, w, rfl, rfl, rfl⟩
  | none =>
    rcases registerEntity_cases s.registry e [] c w with ⟨err, hm, heval⟩ | ⟨m, w', hm, heval, hw⟩
    · refine .inl ⟨err, ?_, heval⟩
      simp only [Registry.register, hm]
      rfl
    · exact .inr ⟨m, _, w', Registry.register_eq_ok.mpr ⟨hm, rfl⟩, heval, hw⟩

/-- A fault that shows before the model is known is the result, and the registry is not asked. -/
theorem Session.eval_build_of_refusal (s : Session σ) (e : Entity) {stmt : Statement} {err : Error}
    (hstmt : ∀ q, stmt ≠ .handwritten q) (hr : stmt.refusal? = some err) (c : Scope σ)
    (w : RunState σ) : (s.build e stmt).eval c w = (.ok (.error err), w) := by
  rw [s.build_of_ne_handwritten e hstmt, hr]
  rfl

/-- **Building a statement is compiling it in the model that the registry has**, if it has one. -/
theorem Session.eval_build_cases (s : Session σ) (e : Entity) {stmt : Statement}
    (hstmt : ∀ q, stmt ≠ .handwritten q) (hr : stmt.refusal? = none) (c : Scope σ)
    (w : RunState σ) :
    (∃ err, (w.registries s.registry).get e = .error err ∧
      (s.build e stmt).eval c w = (.ok (.error err), w)) ∨
    ∃ m r w', (w.registries s.registry).get e = .ok (m, r) ∧
      (s.build e stmt).eval c w = (.ok (stmt.compile s.database.settings.dialect m
        (readField s.database.settings.accessor e m)), w') := by
  rcases s.eval_model_cases e c w with ⟨err, hgot, hmodel⟩ | ⟨m, r, w', hgot, hmodel, -⟩
  · refine .inl ⟨err, hgot, ?_⟩
    simp [s.build_of_ne_handwritten e hstmt, hr, hmodel]
  · obtain ⟨examined, trace, heval⟩ := s.eval_build_of_model e hstmt hr hmodel
    exact .inr ⟨m, r, _, hgot, heval⟩

/-! ## Building statements on rows -/

/-- **What building a statement on rows comes to**, given what the registry has for its entity. -/
structure Sql.Statement.Screened (stmt : Statement) (got : Except Error (Model × Registry))
    (res : Except Error Query) : Prop where
  /-- An update has to change something, whatever its entity. -/
  idle : stmt.Idle → res = .error .noUpdatedColumns
  /-- Without a model the fault of the entity is the error. -/
  unregistered (err : Error) : ¬ stmt.Idle → got = .error err → res = .error err
  /-- In a model the statement is written just when all fields that it mentions are known, and
  neither an aggregate nor a bare column is out of place. -/
  written (m : Model) (r : Registry) : ¬ stmt.Idle → got = .ok (m, r) →
    ((∃ q, res = .ok q) ↔
      (∀ name, .field name ∈ stmt.mentions → (m.field? name).isSome) ∧
        (∀ a, .rowAggregate a ∉ stmt.mentions) ∧ ∀ c, .bareColumn c ∉ stmt.mentions)
  /-- The first mention that the model does not allow decides the error. -/
  refused (m : Model) (r : Registry) (err : Error) : ¬ stmt.Idle → got = .ok (m, r) →
    (res = .error err ↔
      ∃ before x after, stmt.mentions = before ++ x :: after ∧ (∀ y ∈ before, y.Allowed m) ∧
        ¬ x.Allowed m ∧ err = x.error)

theorem refusal?_of_idle {stmt : Statement} (h : stmt.Idle) :
    stmt.refusal? = some .noUpdatedColumns := by
  cases stmt with
  | update u => simp [Statement.refusal?, show u.assignments = [] from h]
  | _ => exact h.elim

theorem refusal?_of_not_idle {stmt : Statement} (hrows : stmt.OnRows) (h : ¬ stmt.Idle) :
    stmt.refusal? = none := by
  cases stmt with
  | update u => simp [Statement.refusal?, show u.assignments ≠ [] from h]
  | insert | handwritten => exact hrows.elim
  | _ => rfl

/-- A statement on rows in a model is written if all that it mentions is allowed, and else refused
for the first mention that is not. -/
theorem screened_compile {stmt : Statement} (hrows : stmt.OnRows) (hidle : ¬ stmt.Idle) (m : Model)
    (r : Registry) (d : Dialect) (read : Instance → String → Except Error Value) :
    stmt.Screened (.ok (m, r)) (stmt.compile d m read) := by
  have hhand : ∀ q, stmt ≠ .handwritten q := by
    rintro q rfl
    exact hrows
  rw [Statement.compile_eq hhand]
  refine ⟨fun h => absurd h hidle, nofun, fun m' r' _ hgot => ?_, fun m' r' err _ hgot => ?_⟩
  · cases hgot
    rw [← Mention.forall_allowed_iff, ← Statement.exists_resolveAll_template hrows d]
    simp only [map_eq_ok]
    exact ⟨fun ⟨_, ps, hps, _⟩ => ⟨ps, hps⟩, fun ⟨ps, hps⟩ => ⟨_, ps, hps, rfl⟩⟩
  · cases hgot
    rw [map_eq_error, Statement.resolveAll_template_eq_error hrows]

/-- **Building a statement on rows** always has a result, and what the statement mentions decides
it: in every session, for every entity, and from every state. -/
theorem build_screened (s : Session σ) (e : Entity) {stmt : Statement} (hrows : stmt.OnRows)
    (c : Scope σ) (w : RunState σ) :
    ∃ res w', (s.build e stmt).eval c w = (.ok res, w') ∧
      stmt.Screened ((w.registries s.registry).get e) res := by
  have hhand : ∀ q, stmt ≠ .handwritten q := by
    rintro q rfl
    exact hrows
  by_cases hidle : stmt.Idle
  · refine ⟨_, w, s.eval_build_of_refusal e hhand (refusal?_of_idle hidle) c w, ?_⟩
    exact ⟨fun _ => rfl, fun _ h => absurd hidle h, fun _ _ h => absurd hidle h,
      fun _ _ _ h => absurd hidle h⟩
  · have hrefusal := refusal?_of_not_idle hrows hidle
    rcases s.eval_build_cases e hhand hrefusal c w with ⟨err, hgot, heval⟩ | ⟨m, r, w', hgot, heval⟩
    · refine ⟨_, w, heval, ?_⟩
      rw [hgot]
      exact ⟨fun h => absurd h hidle, fun err' _ h => by cases h; rfl, nofun, nofun⟩
    · refine ⟨_, w', heval, ?_⟩
      rw [hgot]
      exact screened_compile hrows hidle m r _ _

/-- An entity to try refusals on: a shelf with its number. -/
def shelf : Entity :=
  ⟨0, "Shelf", .record, none,
    [⟨"number", ⟨.int .i32, false⟩, none, .int .i32 (BoundedInt.zero _), .content, false⟩]⟩

/-- Shelves by a field that there is not. Before it comes an aggregate, deep in a condition on
rows; its own field is not there either. -/
def shelfQuery : Statement := .select
  { Select.all with
    columns := [.aggregate ⟨.max, "number", none⟩]
    wheres := [.compare (.column ⟨"number", none⟩) .gt (.value .null),
      .negation (.compareTruth (.column ⟨"number", none⟩) .eq
        (.compare (.aggregate ⟨.sum, "width", none⟩) .lt (.value .null)))]
    orderBy := [⟨"height", true⟩] }

/-- The aggregate is reported, and not a field that is missing. -/
theorem shelfQuery_refused : shelfQuery.OnRows ∧
    ∃ w', (Session.build (σ := Scripted.State) (.plain 0 ⟨⟨.sqlite, .byName, 0, none, 0⟩, []⟩)
      shelf shelfQuery).eval (Scenario.startScope Scripted.driver)
        (Scenario.startState (.start [] .none) []) =
      (.ok (.error (.unsupportedExpression "aggregate SUM(width) in Where")), w') := by
  have hrows : shelfQuery.OnRows := trivial
  obtain ⟨res, w', heval, hscreened⟩ := build_screened (σ := Scripted.State)
    (.plain 0 ⟨⟨.sqlite, .byName, 0, none, 0⟩, []⟩) shelf hrows
    (Scenario.startScope Scripted.driver) (Scenario.startState (.start [] .none) [])
  have hres := (hscreened.refused _ _ _ id rfl).mpr
    ⟨[.field "number", .field "number", .field "number"], .rowAggregate ⟨.sum, "width", none⟩,
      [.field "height"], rfl, by decide, id, rfl⟩
  refine ⟨hrows, w', ?_⟩
  rw [heval, hres]
  rfl

end EntityMapper

import EntityMapper.Proofs.Session.Build
import EntityMapper.Transaction.Basic

/-!
# Programs related part by part

Some relations of programs go along with how programs are put together: where the parts of two
programs are related, so are the programs. In any such relation, statements are compiled alike if
models are found and used alike, compiled statements are answered alike if they are sent and their
rows are read alike, and transactions are settled alike if they are committed and rolled back alike.

## Main definitions

* `Congruence R`: the relation goes along with how programs are put together

## Main results

* `Congruence.bind_ok`: programs that go on with what has succeeded
* `Congruence.build`, `Congruence.decodeAll`, `Congruence.answer`: what operations are made of
* `Congruence.settle`: transactions ended by how their bodies ended
-/

namespace EntityMapper

open EntityMapper.Sql

variable {σ : Type}

/-- **The relation goes along with how programs are put together.** What holds of single programs
is such a relation if it looks at the first program only. -/
structure Congruence (R : (α : Type) → Run σ α → Run σ α → Prop) : Prop where
  pure {α : Type} (a : α) : R α (Pure.pure a) (Pure.pure a)
  bind {α β : Type} {x y : Run σ α} {f g : α → Run σ β} (hx : R α x y)
    (hf : ∀ a, R β (f a) (g a)) : R β (x >>= f) (y >>= g)

namespace Congruence

variable {R : (α : Type) → Run σ α → Run σ α → Prop} (hR : Congruence R)
include hR

theorem map {α β : Type} {x y : Run σ α} (f : α → β) (hx : R _ x y) : R _ (f <$> x) (f <$> y) := by
  rw [map_eq_pure_bind, map_eq_pure_bind]
  exact hR.bind hx fun a => hR.pure (f a)

/-- **Programs that go on with what has succeeded**, and answer a fault by themselves. -/
theorem bind_ok {ε α β : Type} {x y : Run σ (Except ε α)} {f g : Except ε α → Run σ β}
    (hx : R _ x y) (herror : ∀ err, R _ (f (.error err)) (g (.error err)))
    (hok : ∀ a, R _ (f (.ok a)) (g (.ok a))) : R _ (x >>= f) (y >>= g) := by
  refine hR.bind hx fun r => ?_
  cases r with
  | error err => exact herror err
  | ok a => exact hok a

/-- **A transaction ended by how its body ended**, if ending it is in the relation. -/
theorem settle {α : Type} {id : Nat} (hdone : R _ (isDone id) (isDone id))
    (hcommit : R _ (commit id) (commit id)) (hrollback : R _ (rollback id) (rollback id))
    (ending : Ending α) : R _ (EntityMapper.settle id ending) (EntityMapper.settle id ending) := by
  refine hR.bind hdone fun done => ?_
  cases done with
  | true => exact hR.pure ending
  | false =>
    cases ending with
    | ok a => exact hR.bind_ok hcommit (fun _ => hR.pure _) fun _ => hR.pure _
    | error e => exact hR.bind hrollback fun _ => hR.pure _
    | panic p => exact hR.bind hrollback fun _ => hR.pure _

variable (s s' : Session σ) {e : Entity} {m : Model}

/-- **Compiling a statement**, in sessions on the same database. -/
theorem build (hdatabase : s'.database = s.database) (hmodel : R _ (s.model e) (s'.model e))
    (huse : ∀ m, R _ (s.useModel e m) (s'.useModel e m)) (stmt : Statement) :
    R _ (s.build e stmt) (s'.build e stmt) := by
  by_cases hwritten : ∃ q, stmt = .handwritten q
  · obtain ⟨q, rfl⟩ := hwritten
    exact hR.pure _
  · have hstmt : ∀ q, stmt ≠ .handwritten q := fun q h => hwritten ⟨q, h⟩
    rw [s.build_of_ne_handwritten e hstmt, s'.build_of_ne_handwritten e hstmt, hdatabase]
    cases stmt.refusal? with
    | some err => exact hR.pure _
    | none =>
      refine hR.bind_ok hmodel (fun _ => hR.pure _) fun m => ?_
      dsimp only
      split
      · exact hR.bind (huse m) fun _ => hR.pure _
      · exact hR.pure _

/-- **Reading rows as instances**, if each is read alike. -/
theorem decodeAll (hdecode : ∀ r, R _ (s.decode e m r) (s'.decode e m r)) (rs : List Row) :
    R _ (s.decodeAll e m rs) (s'.decodeAll e m rs) := by
  induction rs with
  | nil => exact hR.pure _
  | cons r rs ih =>
    refine hR.bind_ok (hdecode r) (fun _ => hR.pure _) fun i => ?_
    exact hR.bind_ok ih (fun _ => hR.pure _) fun is => hR.pure _

/-- **A compiled statement with its rows decoded**, if it is sent and its rows are read alike. -/
theorem answer {q : Query} (hrows : R _ (s.queryRows q) (s'.queryRows q))
    (hexec : R _ (s.execQuery q) (s'.execQuery q))
    (hdecode : ∀ r, R _ (s.decode e m r) (s'.decode e m r)) (d : Demand) :
    R _ (s.answer e d m q) (s'.answer e d m q) := by
  cases d with
  | exec => exact hR.bind_ok hexec (fun _ => hR.pure _) fun r => hR.pure _
  | first =>
    refine hR.bind_ok hrows (fun _ => hR.pure _) fun rs => ?_
    cases rs with
    | nil => exact hR.pure _
    | cons r rs => exact hR.bind (hdecode r) fun _ => hR.pure _
  | all =>
    refine hR.bind_ok hrows (fun _ => hR.pure _) fun rs => ?_
    exact hR.bind (hR.decodeAll s s' hdecode rs) fun _ => hR.pure _

end Congruence

end EntityMapper

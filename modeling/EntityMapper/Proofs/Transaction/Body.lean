import EntityMapper.Proofs.Driver.Recording

/-!
# Bodies of work on a transaction

A body of work does one operation after the other on the transaction that it is given, each of
which may depend on what those before it came to, and ends in one of the three ways. While the
transaction is open, the driver gets the statements of the body; the first commit or rollback is the
last call that reaches it.

## Main definitions

* `Body α`: bodies of work
* `Body.run`: a body as a program, which tells whether it ended the transaction itself
* `Ran`: what a body leaves of a transaction that was open

## Main results

* `eval_run_gone`: a body on a transaction that is over
* `eval_run_open`: a body on an open transaction
-/

namespace EntityMapper

/-- **A body of work**: finitely many operations on a transaction, and an ending. -/
inductive Body (α : Type) where
  | finish (ending : Ending α)
  | query (q : Sql.Query) (next : Except Error (List Row) → Body α)
  | execute (q : Sql.Query) (next : Except Error ExecResult → Body α)
  | commit (next : Except Error Unit → Body α)
  | rollback (next : Except Error Unit → Body α)
  | isDone (next : Bool → Body α)

variable {σ α : Type}

/-- **A body as a program** on the transaction `id`, with how it ends and whether it has called for
a commit or a rollback itself. -/
def Body.run (index : Nat) (d : Database σ) (id : Nat) : Body α → Run σ (Ending α × Bool)
  | finish ending => pure (ending, false)
  | query q next => do
    let r ← Session.queryRows ⟨index, some id, d⟩ q
    (next r).run index d id
  | execute q next => do
    let r ← Session.execQuery ⟨index, some id, d⟩ q
    (next r).run index d id
  | commit next => do
    let r ← EntityMapper.commit id
    let (ending, _) ← (next r).run index d id
    pure (ending, true)
  | rollback next => do
    let r ← EntityMapper.rollback id
    let (ending, _) ← (next r).run index d id
    pure (ending, true)
  | isDone next => do
    let b ← EntityMapper.isDone id
    (next b).run index d id

/-- **A body on a transaction that is over** does not reach the driver. -/
theorem eval_run_gone (body : Body α) {index id : Nat} (d : Database σ) (c : Scope σ)
    {w : RunState σ} (hw : w.handles id = ⟨index, false, true, false⟩) :
    ∃ ending called trace, (body.run index d id).eval c w =
      (.ok (ending, called), { w with trace := trace }) := by
  -- Induction on the body: whatever an operation is, it leaves the handle as it was.
  induction body generalizing w with
  | finish ending => exact ⟨ending, false, w.trace, rfl⟩
  | query q next ih =>
    obtain ⟨t₁, h₁⟩ := Session.eval_statement_gone (s := ⟨index, some id, d⟩) (c := c) rfl hw .query
      q fun b driver => driver.query b q
    obtain ⟨ending, called, trace, h⟩ := ih _ (w := { w with trace := t₁ }) hw
    refine ⟨ending, called, trace, ?_⟩
    rw [Body.run, eval_bind, Session.queryRows, h₁]
    exact h
  | execute q next ih =>
    obtain ⟨t₁, h₁⟩ := Session.eval_statement_gone (s := ⟨index, some id, d⟩) (c := c) rfl hw .exec
      q fun b driver => driver.execute b q
    obtain ⟨ending, called, trace, h⟩ := ih _ (w := { w with trace := t₁ }) hw
    refine ⟨ending, called, trace, ?_⟩
    rw [Body.run, eval_bind, Session.execQuery, h₁]
    exact h
  | commit next ih =>
    obtain ⟨ending, called, trace, h⟩ := ih (.error .transactionDone) hw
    refine ⟨ending, true, trace, ?_⟩
    rw [Body.run, eval_bind, commit, eval_finish_gone hw]
    simp [h]
  | rollback next ih =>
    obtain ⟨t₁, h₁⟩ := eval_rollback (eval_finish_gone hw Driver.rollback (c := c))
    obtain ⟨ending, called, trace, h⟩ :=
      ih (.error .transactionDone) (w := { w with trace := t₁ }) hw
    refine ⟨ending, true, trace, ?_⟩
    rw [Body.run, eval_bind, h₁]
    simp [h]
  | isDone next ih =>
    obtain ⟨ending, called, trace, h⟩ := ih true hw
    refine ⟨ending, called, trace, ?_⟩
    rw [Body.run, eval_bind, eval_isDone, hw]
    exact h

/-- **What a body leaves of a transaction that was open.** Either it is still open, and the driver
has had statements only; or the body has ended it, and the driver has had statements and then the
call that ended it. An interruption comes from a deadline, or from a driver that does not answer. -/
inductive Ran (d : Driver σ) (index id : Nat) (ds : List Nat)
    (w : RunState (σ × List DriverCall)) :
    Except Interrupt (Ending α × Bool) → RunState (σ × List DriverCall) → Prop where
  | unfinished {ending w'} (calls : List DriverCall)
    (hw' : w'.handles id = ⟨index, true, false, false⟩)
    (hcalls : w'.calls index = w.calls index ++ calls) (hstatements : ∀ x ∈ calls, x.IsStatement) :
    Ran d index id ds w (.ok (ending, false)) w'
  | ended {ending w'} (calls : List DriverCall) (last : DriverCall)
    (hw' : w'.handles id = ⟨index, false, true, false⟩)
    (hcalls : w'.calls index = w.calls index ++ (calls ++ [last]))
    (hstatements : ∀ x ∈ calls, x.IsStatement) (hlast : last.IsEnd) :
    Ran d index id ds w (.ok (ending, true)) w'
  | interrupted {i w'} (h : ds = [] → ¬ d.Answers) : Ran d index id ds w (.error i) w'

/-- A statement before a body is one of its statements. -/
theorem Ran.cons {d : Driver σ} {index id : Nat} {ds : List Nat}
    {w w₁ w' : RunState (σ × List DriverCall)} {res : Except Interrupt (Ending α × Bool)}
    (h : Ran d index id ds w₁ res w') (call : DriverCall) (hcall : call.IsStatement)
    (hw₁ : w₁.calls index = w.calls index ++ [call]) : Ran d index id ds w res w' := by
  cases h with
  | unfinished calls hw' hcalls hstatements =>
    refine .unfinished (call :: calls) hw' ?_ (List.forall_mem_cons.mpr ⟨hcall, hstatements⟩)
    rw [hcalls, hw₁, List.append_assoc, List.singleton_append]
  | ended calls last hw' hcalls hstatements hlast =>
    refine .ended (call :: calls) last hw' ?_ (List.forall_mem_cons.mpr ⟨hcall, hstatements⟩) hlast
    rw [hcalls, hw₁, List.append_assoc, List.singleton_append, List.cons_append]
  | interrupted h => exact .interrupted h

/-- An operation before the rest of a body. -/
theorem Ran.bind {d : Driver σ} {index id : Nat} {ds : List Nat} {β : Type}
    {x : Run (σ × List DriverCall) β} {k : β → Run (σ × List DriverCall) (Ending α × Bool)}
    {c : Scope (σ × List DriverCall)} {w w₁ : RunState (σ × List DriverCall)}
    {res : Except Interrupt β} (hx : x.eval c w = (res, w₁))
    (hok : ∀ r, res = .ok r → ∃ res' w', (k r).eval c w₁ = (res', w') ∧
      Ran d index id ds w res' w')
    (herror : ∀ i, res = .error i → ds = [] → ¬ d.Answers) :
    ∃ res' w', Run.eval (x >>= k) c w = (res', w') ∧ Ran d index id ds w res' w' := by
  cases res with
  | ok r =>
    obtain ⟨res', w', h, hran⟩ := hok r rfl
    exact ⟨res', w', by simp [hx, h], hran⟩
  | error i => exact ⟨.error i, w₁, by simp [hx], .interrupted (herror i rfl)⟩

/-- A body after the call that has ended the transaction. -/
theorem eval_ended (body : Body α) {index id : Nat} (d : Database (σ × List DriverCall))
    (c : Scope σ) {w w₁ : RunState (σ × List DriverCall)}
    (hw₁ : w₁.handles id = ⟨index, false, true, false⟩) (last : DriverCall)
    (hcalls : w₁.calls index = w.calls index ++ [last]) (hlast : last.IsEnd) :
    ∃ res w', Run.eval (do
        let (ending, _) ← body.run index d id
        pure (ending, true)) c.recording w₁ = (res, w') ∧
      Ran c.driver index id c.deadlines w res w' := by
  obtain ⟨ending, called, trace, h⟩ := eval_run_gone body d c.recording hw₁
  refine ⟨.ok (ending, true), { w₁ with trace := trace }, ?_,
    .ended [] last hw₁ hcalls (by simp) hlast⟩
  rw [eval_bind, h]
  rfl

/-- **A body on an open transaction.** -/
theorem eval_run_open (body : Body α) {index id : Nat} (d : Database (σ × List DriverCall))
    (c : Scope σ) {w : RunState (σ × List DriverCall)}
    (hw : w.handles id = ⟨index, true, false, false⟩) :
    ∃ res w', (body.run index d id).eval c.recording w = (res, w') ∧
      Ran c.driver index id c.deadlines w res w' := by
  -- Induction on the body, as long as the transaction is open: a statement leaves it open.
  induction body generalizing w with
  | finish ending => exact ⟨_, w, rfl, .unfinished [] hw (by simp) (by simp)⟩
  | query q next ih =>
    obtain ⟨now, trace, res, h, ht⟩ := Session.eval_statement_open (s := ⟨index, some id, d⟩)
      (c := c.recording) rfl hw .query q fun b driver => driver.query b q
    refine Ran.bind h (fun r hr => ?_) fun i hi hds hd => ?_
    · obtain ⟨res', w', h', hran⟩ := ih r (w := { w.after .. with trace := trace }) hw
      exact ⟨res', w', h', hran.cons (.query q _) trivial (calls_after w index _ now)⟩
    · subst hi
      exact hd.query _ _ _ (ht.eq_waiting hds)
  | execute q next ih =>
    obtain ⟨now, trace, res, h, ht⟩ := Session.eval_statement_open (s := ⟨index, some id, d⟩)
      (c := c.recording) rfl hw .exec q fun b driver => driver.execute b q
    refine Ran.bind h (fun r hr => ?_) fun i hi hds hd => ?_
    · obtain ⟨res', w', h', hran⟩ := ih r (w := { w.after .. with trace := trace }) hw
      exact ⟨res', w', h', hran.cons (.execute q _) trivial (calls_after w index _ now)⟩
    · subst hi
      exact hd.execute _ _ _ (ht.eq_waiting hds)
  | commit next ih =>
    -- From here on the transaction is over, and the rest does not reach the driver.
    obtain ⟨now, res, h, ha⟩ := eval_finish_open (c := c.recording) hw Driver.commit
    refine Ran.bind h (fun r hr => ?_) fun i hi hds hd => ?_
    · exact eval_ended (next r) d c (update_same ..) (.commit _) (calls_after w index _ now) trivial
    · subst hi
      exact hd.commit _ (ha.eq_waiting hds)
  -- A rollback ends the transaction as a commit does, and leaves a notice if it fails.
  | rollback next ih =>
    obtain ⟨now, res, h, ha⟩ := eval_finish_open (c := c.recording) hw Driver.rollback
    obtain ⟨trace, h⟩ := eval_rollback h
    refine Ran.bind h (fun r hr => ?_) fun i hi hds hd => ?_
    · exact eval_ended (next r) d c (update_same ..) (.rollback _) (calls_after w index _ now)
        trivial
    · subst hi
      exact hd.rollback _ (ha.eq_waiting hds)
  | isDone next ih =>
    obtain ⟨res, w', h, hran⟩ := ih false hw
    refine ⟨res, w', ?_, hran⟩
    rw [Body.run, eval_bind, eval_isDone, hw]
    exact h

end EntityMapper

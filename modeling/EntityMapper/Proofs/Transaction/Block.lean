import EntityMapper.Driver.Scripted
import EntityMapper.Proofs.Transaction.Outcome
import EntityMapper.Scenario.Run

/-!
# Blocks and transactions of their own

A block ends its transaction without asking whether it still is open. Its driver is called as for a
transaction of its own, whatever the body does. So is the caller answered, unless the body has ended
the transaction itself: then the block is refused what has been done already, and the caller gets
this refusal instead of a result, or beside an error.

## Main definitions

* `Body.Calm`: bodies that never panic
* `Ending.refused`: an ending when ending the transaction once more is refused
* `blockResult`: the result of a block, from that of a transaction of its own

## Main results

* `eval_settleBlock_open`, `eval_settleBlock_over`: a block that ends its transaction
* `blockResult_eq_iff`: when the results are the same
* `block_follows`: blocks against transactions of their own
-/

namespace EntityMapper

variable {σ α β : Type}

/-! ## Bodies without panics -/

/-- **The body never panics**, whatever it is answered. -/
def Body.Calm : Body α → Prop
  | finish ending => ∀ p, ending ≠ .panic p
  | query _ next => ∀ r, (next r).Calm
  | execute _ next => ∀ r, (next r).Calm
  | commit next => ∀ r, (next r).Calm
  | rollback next => ∀ r, (next r).Calm
  | isDone next => ∀ b, (next b).Calm

/-- The rest of a body after the call that ends the transaction, without the note of that call. -/
theorem of_eval_ended {x : Run σ (Ending α × Bool)} {c : Scope σ} {w w' : RunState σ}
    {ending : Ending α} {called : Bool}
    (h : Run.eval (do
        let (ending, _) ← x
        pure (ending, true)) c w = (.ok (ending, called), w')) :
    ∃ called', x.eval c w = (.ok (ending, called'), w') := by
  rw [eval_bind] at h
  rcases hx : x.eval c w with ⟨i | ⟨ending₁, called₁⟩, w₁⟩ <;> rw [hx] at h
  · cases h
  · cases h
    exact ⟨called₁, rfl⟩

/-- A body that never panics ends in a result or in an error. -/
theorem Body.Calm.ending_ne {body : Body α} (h : body.Calm) {index id : Nat} {d : Database σ}
    {c : Scope σ} {w w' : RunState σ} {ending : Ending α} {called : Bool}
    (hrun : (body.run index d id).eval c w = (.ok (ending, called), w')) (p : Payload) :
    ending ≠ .panic p := by
  -- Induction on the body: what is left of it after an operation is as calm.
  induction body generalizing w called with
  | finish ending₀ =>
    cases hrun
    exact h p
  | query q next ih =>
    rw [run, eval_bind] at hrun
    rcases hop : (Session.queryRows ⟨index, some id, d⟩ q).eval c w with ⟨i | r, w₁⟩ <;>
      rw [hop] at hrun
    · cases hrun
    · exact ih r (h r) hrun
  | execute q next ih =>
    rw [run, eval_bind] at hrun
    rcases hop : (Session.execQuery ⟨index, some id, d⟩ q).eval c w with ⟨i | r, w₁⟩ <;>
      rw [hop] at hrun
    · cases hrun
    · exact ih r (h r) hrun
  | commit next ih =>
    rw [run, eval_bind] at hrun
    rcases hop : (EntityMapper.commit id).eval c w with ⟨i | r, w₁⟩ <;> rw [hop] at hrun
    · cases hrun
    · obtain ⟨called', hrest⟩ := of_eval_ended hrun
      exact ih r (h r) hrest
  | rollback next ih =>
    rw [run, eval_bind] at hrun
    rcases hop : (EntityMapper.rollback id).eval c w with ⟨i | r, w₁⟩ <;> rw [hop] at hrun
    · cases hrun
    · obtain ⟨called', hrest⟩ := of_eval_ended hrun
      exact ih r (h r) hrest
  | isDone next ih => exact ih _ (h _) hrun

/-! ## Results -/

/-- **An ending when ending the transaction once more is refused.** A result is lost to the refusal,
and an error is kept beside it. A panic does not end the transaction. -/
def Ending.refused : Ending α → Ending α
  | ok _ => error .transactionDone
  | error e => error (.failedToRollback e .transactionDone false)
  | panic p => panic p

/-- A refusal is never taken for what was to be told. -/
theorem Ending.refused_ne {ending : Ending α} (h : ∀ p, ending ≠ .panic p) :
    ending.refused ≠ ending := by
  cases ending with
  | ok a => nofun
  | error e =>
    -- The error that is told holds the other one.
    intro heq
    have hsize := congrArg sizeOf (Ending.error.inj heq)
    simp only [Error.failedToRollback.sizeOf_spec] at hsize
    omega
  | panic p => exact absurd rfl (h p)

/-- **The result of a block**, from that of a transaction of its own: refused, if the body has ended
the transaction itself. -/
def blockResult :
    Except Interrupt (Ending α × Option Bool) → Except Interrupt (Ending α × Option Bool)
  | .ok (ending, some true) => .ok (ending.refused, some true)
  | res => res

/-- **The results are the same** unless the body has ended the transaction itself. -/
theorem blockResult_eq_iff {res : Except Interrupt (Ending α × Option Bool)}
    (h : ∀ p, res ≠ .ok (.panic p, some true)) :
    blockResult res = res ↔ ∀ ending, res ≠ .ok (ending, some true) := by
  constructor
  · rintro heq ending rfl
    have hcalm : ∀ p, ending ≠ .panic p := fun p hp => h p (hp ▸ rfl)
    exact Ending.refused_ne hcalm (by simpa [blockResult] using heq)
  · intro hne
    unfold blockResult
    split
    · next ending => exact absurd rfl (hne ending)
    · rfl

/-! ## Ending a block -/

section Settle

variable {index id : Nat} {ending : Ending α} {c : Scope σ} {w : RunState σ}

/-- **A block whose transaction is open** ends it as a transaction of its own is ended. -/
theorem eval_settleBlock_open (hw : w.handles id = ⟨index, true, false, false⟩)
    (hending : ∀ p, ending ≠ .panic p) :
    (settleBlock id ending).eval c w = (settle id ending).eval c w := by
  unfold settle
  rw [eval_bind, eval_isDone, hw]
  cases ending with
  | ok a => rfl
  | error e => rfl
  | panic p => exact absurd rfl (hending p)

/-- **A block whose transaction is over** is refused what its body has done already. -/
theorem eval_settleBlock_over (ending : Ending α) (c : Scope σ)
    (hw : w.handles id = ⟨index, false, true, false⟩) :
    ∃ trace,
      (settleBlock id ending).eval c w = (.ok ending.refused, { w with trace := trace }) := by
  cases ending with
  | ok a =>
    refine ⟨w.trace, ?_⟩
    rw [settleBlock, eval_bind, commit, eval_finish_gone hw]
    rfl
  | error e =>
    obtain ⟨trace, h⟩ := eval_rollback (eval_finish_gone (c := c) hw Driver.rollback)
    refine ⟨trace, ?_⟩
    rw [settleBlock, eval_bind, h]
    rfl
  | panic p => exact ⟨w.trace, rfl⟩

end Settle

/-- **A body and the end of its block**, after the transaction has begun, against the end of a
transaction of its own. -/
theorem eval_settledBlock {body : Body α} (hbody : body.Calm) {index id : Nat}
    (d : Database (σ × List DriverCall)) (c : Scope σ) {w : RunState (σ × List DriverCall)}
    (hw : w.handles id = ⟨index, true, false, false⟩) :
    ∃ res w' trace,
      Run.eval (andFinally (do
        let (ending, b) ← body.run index d id
        pure (← settle id ending, some b)) (abandon id)) c.recording w = (res, w') ∧
      Run.eval (andFinally (do
        let (ending, b) ← body.run index d id
        pure (← settleBlock id ending, some b)) (abandon id)) c.recording w =
          (blockResult res, { w' with trace := trace }) ∧
      ∀ p, res ≠ .ok (.panic p, some true) := by
  obtain ⟨res₁, w₁, hrun, hran⟩ := eval_run_open body d c hw
  cases hran with
  | @unfinished ending _ calls hw₁ hcalls hstatements =>
    have hopen : w₁.handles id = .idle index true := hw₁
    obtain ⟨res, w', heval, hres⟩ := eval_closing c hrun hopen
    have hkept : blockResult res = res := by
      rcases hres with ⟨_, _, rfl, -⟩ | ⟨_, rfl, -⟩ <;> rfl
    refine ⟨res, w', w'.trace, heval, ?_, ?_⟩
    · rw [hkept, ← heval]
      refine eval_andFinally_congr ?_ _
      simp only [eval_bind, hrun, eval_settleBlock_open hw₁ (hbody.ending_ne hrun)]
    · rintro p rfl
      rcases hres with ⟨_, _, h, -⟩ | ⟨_, h, -⟩ <;> cases h
  | @ended ending _ calls last hw₁ hcalls hstatements hlast =>
    have hsettle : (settle id ending).eval c.recording w₁ = (.ok ending, w₁) := by
      unfold settle
      rw [eval_bind, eval_isDone, hw₁]
      rfl
    obtain ⟨trace, hblock⟩ := eval_settleBlock_over ending c.recording hw₁
    have hover : ({ w₁ with trace := trace } : RunState _).handles id =
      ⟨index, false, true, false⟩ := hw₁
    refine ⟨.ok (ending, some true), w₁, trace,
      eval_andFinally (by simp [hrun, hsettle]) (eval_abandon_gone hw₁),
      eval_andFinally (by simp [hrun, hblock, blockResult]) (eval_abandon_gone hover), ?_⟩
    rintro p h
    exact hbody.ending_ne hrun p (by cases h; rfl)
  | @interrupted i _ h =>
    obtain ⟨w', habandon⟩ := eval_abandon id c.recording w₁
    exact ⟨.error i, w', w'.trace, eval_andFinally (by simp [hrun]) habandon,
      eval_andFinally (by simp [hrun, blockResult]) habandon, nofun⟩

/-- **A block against a transaction of its own.** Both leave the same state, up to the notices, and
so have called the driver alike. They tell the caller the same just when the body has not ended the
transaction itself. -/
theorem block_follows (index : Nat) (d : Database (σ × List DriverCall))
    (options : TransactionOptions) {body : Body α} (hbody : body.Calm) (c : Scope σ)
    (w : RunState (σ × List DriverCall)) :
    ∃ res w' trace,
      (doTransaction index d options (body.run index d)).eval c.recording w = (res, w') ∧
      (transactionBlock index d options (body.run index d)).eval c.recording w =
        (blockResult res, { w' with trace := trace }) ∧
      (blockResult res = res ↔ ∀ ending, res ≠ .ok (ending, some true)) := by
  obtain ⟨res, w₁, hbegin, hbeginning⟩ := eval_beginTransaction index d options c.recording w
  rw [doTransaction, transactionBlock, eval_bind, eval_bind, hbegin]
  cases hbeginning with
  | begun delay now h =>
    obtain ⟨res, w', trace, hdo, hblock, hpanic⟩ := eval_settledBlock hbody d c
      (w := { w.after index (c.recording.driver.beginTransaction options (w.states index)) now with
        handles := update w.handles w.begun (Handle.opened index)
        begun := w.begun + 1 }) (update_same w.handles w.begun (Handle.opened index))
    exact ⟨res, w', trace, hdo, hblock, blockResult_eq_iff hpanic⟩
  -- Without a transaction there is nothing to end.
  | failed delay now e h => exact ⟨_, _, _, rfl, rfl, blockResult_eq_iff (by simp)⟩
  | timedOut t now st ht hst => exact ⟨_, _, _, rfl, rfl, blockResult_eq_iff (by simp)⟩
  | deadline t w₁ ht => exact ⟨_, _, _, rfl, rfl, blockResult_eq_iff (by simp)⟩
  | never w₁ hds hreply => exact ⟨_, _, _, rfl, rfl, blockResult_eq_iff (by simp)⟩

/-- A deletion that is committed by the body itself, unless it fails. -/
def purge : Body Nat :=
  .execute ⟨"DELETE FROM guests;", []⟩ fun
    | .ok r => .commit fun
      | .ok () => .finish (.ok r.rowsAffected)
      | .error e => .finish (.error e)
    | .error e => .finish (.error e)

theorem purge_calm : purge.Calm := by
  rintro (e | r)
  · exact nofun
  · rintro (e | ⟨⟩) <;> exact nofun

/-- A database of a scripted driver, with a record of its calls. -/
def scriptedDatabase : Database (Scripted.State × List DriverCall) :=
  ⟨⟨.postgres, .byName, 0, none, 0⟩, []⟩

/-- The start of a run with a script, in which a rollback may fail. -/
def scriptedStart (script : List Scripted.Entry) (atRollback : Option String) :
    RunState (Scripted.State × List DriverCall) :=
  Scenario.startState (.start script ⟨none, none, atRollback, ⟨0⟩⟩, []) []

/-- The deletion and the rollback after it fail: both tell the same, and have called the driver
alike. -/
theorem failedPurge_follows :
    purge.Calm ∧ ∃ told w₁ w₂, told = .ok (.error
        (.failedToRollback (.driver "locked") (.driver "gone") false), some false) ∧
      (doTransaction 0 scriptedDatabase .standard (purge.run 0 scriptedDatabase)).eval
        (Scenario.startScope Scripted.driver).recording
        (scriptedStart [.fault "locked"] (some "gone")) = (told, w₁) ∧
      (transactionBlock 0 scriptedDatabase .standard (purge.run 0 scriptedDatabase)).eval
        (Scenario.startScope Scripted.driver).recording
        (scriptedStart [.fault "locked"] (some "gone")) = (told, w₂) ∧
      w₂.calls 0 = w₁.calls 0 ∧
      w₁.calls 0 = [.beginTransaction .standard (.answered ⟨0⟩ (.ok ())),
        .execute ⟨"DELETE FROM guests;", []⟩ (.answered ⟨0⟩ (.error (.driver "locked"))),
        .rollback (.answered ⟨0⟩ (.error (.driver "gone")))] := by
  obtain ⟨told, w₁, trace, hdo, hblock, hsame⟩ := block_follows 0 scriptedDatabase .standard
    purge_calm (Scenario.startScope Scripted.driver)
    (scriptedStart [.fault "locked"] (some "gone"))
  have htold : told = .ok (.error
      (.failedToRollback (.driver "locked") (.driver "gone") false), some false) :=
    (congrArg Prod.fst hdo).symm
  have hcalls : w₁.calls 0 = [.beginTransaction .standard (.answered ⟨0⟩ (.ok ())),
      .execute ⟨"DELETE FROM guests;", []⟩ (.answered ⟨0⟩ (.error (.driver "locked"))),
      .rollback (.answered ⟨0⟩ (.error (.driver "gone")))] :=
    (congrArg (fun p => p.2.calls 0) hdo).symm
  -- The body has left the transaction open, so that nothing is refused.
  rw [hsame.mpr (by simp [htold])] at hblock
  exact ⟨purge_calm, told, w₁, _, htold, hdo, hblock, rfl, hcalls⟩

/-- **A block disowns what was committed**: with the same calls of the driver, a transaction of
its own tells of the deletion that the body has committed, and a block tells that the transaction is
over. -/
theorem committedPurge_refused :
    purge.Calm ∧ ∃ w₁ w₂,
      (doTransaction 0 scriptedDatabase .standard (purge.run 0 scriptedDatabase)).eval
        (Scenario.startScope Scripted.driver).recording (scriptedStart [.exec ⟨1, none⟩] none) =
          (.ok (.ok 1, some true), w₁) ∧
      (transactionBlock 0 scriptedDatabase .standard (purge.run 0 scriptedDatabase)).eval
        (Scenario.startScope Scripted.driver).recording (scriptedStart [.exec ⟨1, none⟩] none) =
          (.ok (.error .transactionDone, some true), w₂) ∧
      w₂.calls 0 = w₁.calls 0 ∧
      w₁.calls 0 = [.beginTransaction .standard (.answered ⟨0⟩ (.ok ())),
        .execute ⟨"DELETE FROM guests;", []⟩ (.answered ⟨0⟩ (.ok ⟨1, none⟩)),
        .commit (.answered ⟨0⟩ (.ok ()))] :=
  ⟨purge_calm, _, _, rfl, rfl, rfl, rfl⟩

end EntityMapper

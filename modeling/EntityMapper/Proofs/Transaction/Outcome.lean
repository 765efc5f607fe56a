import EntityMapper.Proofs.Transaction.Body

/-!
# How transactions conclude

A body in a transaction of its own: what the caller gets, and what the driver was called for. A
body that leaves the transaction open is followed by exactly one call, by how it ended; after a body
that has ended the transaction itself there is none.

## Main definitions

* `Settles ending call outcome`: the call that follows an ending, and what the caller gets
* `Closes ending isOpen calls outcome`: the calls that follow, if the transaction is open or over
* `NotBegun limit options calls e`: why a transaction has not begun
* `Concluded`: what becomes of a body in a transaction of its own
* `Finished index id w w'`: a transaction is over, and no other one has begun or ended

## Main results

* `eval_settle_open`: ending a transaction by how its body ended
* `eval_closing`: the end of any program in a transaction of its own
* `doTransaction_concludes`: a body in a transaction of its own
-/

namespace EntityMapper

variable {σ α : Type}

/-- **The call that follows an ending**, and what the caller gets for the reply to it. A result
commits, and an error or a panic rolls back; its cause is not lost if rolling back fails. -/
inductive Settles : Ending α → DriverCall → Ending α → Prop where
  | committed (a : α) (delay : Duration) :
    Settles (.ok a) (.commit (.answered delay (.ok ()))) (.ok a)
  | commitFailed (a : α) (delay : Duration) (e : Error) :
    Settles (.ok a) (.commit (.answered delay (.error e))) (.error e)
  | rolledBack (e : Error) (delay : Duration) :
    Settles (.error e) (.rollback (.answered delay (.ok ()))) (.error e)
  | rollbackFailed (e : Error) (delay : Duration) (r : Error) :
    Settles (.error e) (.rollback (.answered delay (.error r)))
      (.error (.failedToRollback e r false))
  | resumed (p : Payload) (delay : Duration) :
    Settles (.panic p) (.rollback (.answered delay (.ok ()))) (.panic p)
  | notResumed (p : Payload) (delay : Duration) (r : Error) :
    Settles (.panic p) (.rollback (.answered delay (.error r)))
      (.error (.failedToRollback (.panicked p.message) r true))

/-- **The end of a body in a transaction of its own**: one call that settles the transaction, if it
is still open, and none if the body has ended it. -/
inductive Closes (ending : Ending α) : Bool → List DriverCall → Ending α → Prop where
  | settled {call outcome} (h : Settles ending call outcome) : Closes ending true [call] outcome
  | kept : Closes ending false [] ending

/-- **Why a transaction has not begun**: the driver has answered with a fault, or the time was
over, in which case the driver may have forgone it. -/
inductive NotBegun (limit : Option Duration) (options : TransactionOptions) :
    List DriverCall → Error → Prop where
  | failed (delay : Duration) (e : Error) :
    NotBegun limit options [.beginTransaction options (.answered delay (.error e))] e
  | timedOut (reply : Reply Unit) (t : Duration) (h : limit = some t) :
    NotBegun limit options [.beginTransaction options reply] (.timeout t)
  | forgone (reply : Reply Unit) (t : Duration) (h : limit = some t) :
    NotBegun limit options [.beginTransaction options reply, .forgo] (.timeout t)

/-- **What becomes of a body in a transaction of its own.** Beside the caller's result stands
whether the body has ended the transaction itself, and nothing if the body was not run. -/
inductive Concluded (c : Scope σ) (index : Nat) (d : Database (σ × List DriverCall))
    (options : TransactionOptions) (body : Body α) (w : RunState (σ × List DriverCall)) :
    Except Interrupt (Ending α × Option Bool) → RunState (σ × List DriverCall) → Prop where
  /-- Without a transaction the body is not run. -/
  | notBegun {w'} (calls : List DriverCall) (e : Error)
    (hcalls : w'.calls index = w.calls index ++ calls)
    (h : NotBegun d.settings.timeout options calls e) :
    Concluded c index d options body w (.ok (.error e, none)) w'
  /-- A body that has ended the transaction is not followed by any call. -/
  | kept {w₁ w₂ w' ending} (delay : Duration)
    (hbegun : w₁.calls index =
      w.calls index ++ [.beginTransaction options (.answered delay (.ok ()))])
    (hbody : (body.run index d w.begun).eval c.recording w₁ = (.ok (ending, true), w₂))
    (hran : Ran c.driver index w.begun c.deadlines w₁ (.ok (ending, true)) w₂)
    (hcalls : w'.calls index = w₂.calls index) :
    Concluded c index d options body w (.ok (ending, some true)) w'
  /-- Any other body is followed by one call. -/
  | settled {w₁ w₂ w' ending outcome} (delay : Duration) (call : DriverCall)
    (hbegun : w₁.calls index =
      w.calls index ++ [.beginTransaction options (.answered delay (.ok ()))])
    (hbody : (body.run index d w.begun).eval c.recording w₁ = (.ok (ending, false), w₂))
    (hran : Ran c.driver index w.begun c.deadlines w₁ (.ok (ending, false)) w₂)
    (hcalls : w'.calls index = w₂.calls index ++ [call]) (hsettles : Settles ending call outcome) :
    Concluded c index d options body w (.ok (outcome, some false)) w'
  /-- Where no deadline is set, only a driver that does not answer interrupts. -/
  | interrupted {i w'} (h : c.deadlines = [] → ¬ c.driver.Answers) :
    Concluded c index d options body w (.error i) w'

/-- What a commit or a rollback of an open transaction may come to. -/
inductive Ended (d : Driver σ) (ds : List Nat) (before : List DriverCall)
    (entry : Reply Unit → DriverCall) :
    Except Interrupt (Except Error Unit) → List DriverCall → Prop where
  | answered (delay : Duration) (r : Except Error Unit) :
    Ended d ds before entry (.ok r) (before ++ [entry (.answered delay r)])
  | interrupted {i after} (h : ds = [] → ¬ d.Answers) : Ended d ds before entry (.error i) after

/-- Waiting for the reply to the call that ends a transaction. -/
theorem Ended.of_awaited {d : Driver σ} {ds : List Nat} {before : List DriverCall}
    {entry : Reply Unit → DriverCall} {reply : Reply Unit}
    {res : Except Interrupt (Except Error Unit)} {after : List DriverCall}
    (ha : Awaited ds reply res) (hafter : after = before ++ [entry reply])
    (h : d.Answers → reply ≠ .waiting) : Ended d ds before entry res after := by
  cases res with
  | ok r =>
    obtain ⟨delay, rfl⟩ := ha.eq_answered
    exact hafter ▸ .answered delay r
  | error i => exact .interrupted fun hds hd => h hd (ha.eq_waiting hds)

/-- **A transaction is over**, and no other one has begun or ended. -/
structure Finished (index id : Nat) (w w' : RunState σ) : Prop where
  handles : w'.handles = update w.handles id ⟨index, false, true, false⟩
  begun : w'.begun = w.begun

theorem Finished.handle {index id : Nat} {w w' : RunState σ} (h : Finished index id w w') :
    w'.handles id = ⟨index, false, true, false⟩ := by
  rw [h.handles, update_same]

section Settle

variable {index id : Nat} (c : Scope σ) {w : RunState (σ × List DriverCall)}
  (hw : w.handles id = ⟨index, true, false, false⟩)
include hw

/-- Committing an open transaction. -/
theorem eval_commit_open : ∃ res w', (commit id).eval c.recording w = (res, w') ∧
    Finished index id w w' ∧
    Ended c.driver c.deadlines (w.calls index) .commit res (w'.calls index) := by
  obtain ⟨now, res, h, ha⟩ := eval_finish_open (c := c.recording) hw Driver.commit
  refine ⟨res, _, h, ⟨rfl, rfl⟩, ?_⟩
  exact Ended.of_awaited ha (calls_after w index _ now) fun hd => hd.commit _

/-- Rolling back an open transaction. -/
theorem eval_rollback_open : ∃ res w', (rollback id).eval c.recording w = (res, w') ∧
    Finished index id w w' ∧
    Ended c.driver c.deadlines (w.calls index) .rollback res (w'.calls index) := by
  obtain ⟨now, res, h, ha⟩ := eval_finish_open (c := c.recording) hw Driver.rollback
  obtain ⟨trace, h⟩ := eval_rollback h
  refine ⟨res, _, h, ⟨rfl, rfl⟩, ?_⟩
  exact Ended.of_awaited ha (calls_after w index _ now) fun hd => hd.rollback _

omit hw in
/-- What follows an ending is settled by the reply to the call that ends the transaction. -/
theorem eval_bind_ended {x : Run (σ × List DriverCall) (Except Error Unit)}
    {k : Except Error Unit → Run (σ × List DriverCall) (Ending α)} {ending : Ending α}
    {entry : Reply Unit → DriverCall} (outcome : Except Error Unit → Ending α)
    {res : Except Interrupt (Except Error Unit)} {w' : RunState (σ × List DriverCall)}
    (hx : x.eval c.recording w = (res, w')) (hw' : Finished index id w w')
    (hended : Ended c.driver c.deadlines (w.calls index) entry res (w'.calls index))
    (hk : ∀ r, (k r).eval c.recording w' = (.ok (outcome r), w'))
    (hsettles : ∀ delay r, Settles ending (entry (.answered delay r)) (outcome r)) :
    ∃ res w', Run.eval (x >>= k) c.recording w = (res, w') ∧ Finished index id w w' ∧
      ((∃ call outcome, res = .ok outcome ∧ Settles ending call outcome ∧
          w'.calls index = w.calls index ++ [call]) ∨
        ∃ i, res = .error i ∧ (c.deadlines = [] → ¬ c.driver.Answers)) := by
  rw [eval_bind, hx]
  generalize hafter : w'.calls index = after at hended
  cases hended with
  | answered delay r =>
    exact ⟨_, w', hk r, hw', .inl ⟨_, _, rfl, hsettles delay r, hafter⟩⟩
  | interrupted hi => exact ⟨_, w', rfl, hw', .inr ⟨_, rfl, hi⟩⟩

/-- A result after committing. -/
def afterCommit (a : α) : Except Error Unit → Ending α
  | .ok () => .ok a
  | .error e => .error e

/-- **Ending a transaction by how its body ended**, when it is still open. -/
theorem eval_settle_open (ending : Ending α) :
    ∃ res w', (settle id ending).eval c.recording w = (res, w') ∧ Finished index id w w' ∧
      ((∃ call outcome, res = .ok outcome ∧ Settles ending call outcome ∧
          w'.calls index = w.calls index ++ [call]) ∨
        ∃ i, res = .error i ∧ (c.deadlines = [] → ¬ c.driver.Answers)) := by
  unfold settle
  rw [eval_bind, eval_isDone, hw]
  dsimp only
  rw [if_neg Bool.false_ne_true]
  cases ending with
  | ok a =>
    -- A result is committed, and becomes an error if that fails.
    obtain ⟨res, w', h, hw', hended⟩ := eval_commit_open c hw
    refine eval_bind_ended c (afterCommit a) h hw' hended ?_ ?_
    · rintro (e | ⟨⟩) <;> rfl
    · rintro delay (e | ⟨⟩)
      · exact .commitFailed a delay e
      · exact .committed a delay
  | error e =>
    -- An error or a panic rolls back, and stays the cause if that fails.
    obtain ⟨res, w', h, hw', hended⟩ := eval_rollback_open c hw
    refine eval_bind_ended c (afterRollback e false (.error e)) h hw' hended (fun _ => rfl) ?_
    rintro delay (r | ⟨⟩)
    · exact .rollbackFailed e delay r
    · exact .rolledBack e delay
  | panic p =>
    obtain ⟨res, w', h, hw', hended⟩ := eval_rollback_open c hw
    refine eval_bind_ended c (afterRollback (.panicked p.message) true (.panic p)) h hw' hended
      (fun _ => rfl) ?_
    rintro delay (r | ⟨⟩)
    · exact .notResumed p delay r
    · exact .resumed p delay

end Settle

/-- The handle of a transaction with nobody at work on it: open, or over. -/
def Handle.idle (index : Nat) (isOpen : Bool) : Handle := ⟨index, isOpen, !isOpen, false⟩

/-- **The end of any program in a transaction of its own.** If the program has ended the
transaction, its ending is handed on; otherwise one call settles the transaction. -/
theorem eval_closing {β : Type} {index id : Nat} {isOpen : Bool} {ending : Ending α} {b : β}
    (c : Scope σ) {x : Run (σ × List DriverCall) (Ending α × β)}
    {w w₁ : RunState (σ × List DriverCall)} (hx : x.eval c.recording w = (.ok (ending, b), w₁))
    (hw₁ : w₁.handles id = .idle index isOpen) :
    ∃ res w', Run.eval (andFinally (do
        let (ending, b) ← x
        pure (← settle id ending, some b)) (abandon id)) c.recording w = (res, w') ∧
      ((∃ last outcome, res = .ok (outcome, some b) ∧ Closes ending isOpen last outcome ∧
          w'.calls index = w₁.calls index ++ last ∧ Finished index id w₁ w') ∨
        ∃ i, res = .error i ∧ (c.deadlines = [] → ¬ c.driver.Answers)) := by
  cases isOpen with
  | false =>
    have hsettle : (settle id ending).eval c.recording w₁ = (.ok ending, w₁) := by
      unfold settle
      rw [eval_bind, eval_isDone, hw₁]
      rfl
    refine ⟨_, w₁, eval_andFinally (by simp [hx, hsettle]) (eval_abandon_gone hw₁),
      .inl ⟨[], ending, rfl, .kept, by simp, ?_, rfl⟩⟩
    have hover : w₁.handles id = ⟨index, false, true, false⟩ := hw₁
    rw [← hover, update_self]
  | true =>
    obtain ⟨res, w', hsettle, hover, hres⟩ := eval_settle_open c hw₁ ending
    -- Giving the handle up does nothing any more.
    have heval : Run.eval (andFinally (do
        let (ending, b) ← x
        pure (← settle id ending, some b)) (abandon id)) c.recording w =
        (res.map (·, some b), w') :=
      eval_andFinally (by cases res <;> simp [hx, hsettle, Except.map])
        (eval_abandon_gone hover.handle)
    rcases hres with ⟨call, outcome, rfl, hsettles, hcalls⟩ | ⟨i, rfl, hi⟩
    · exact ⟨_, w', heval, .inl ⟨[call], outcome, rfl, .settled hsettles, hcalls, hover⟩⟩
    · exact ⟨_, w', heval, .inr ⟨i, rfl, hi⟩⟩

/-- A body and the end of its transaction, after the transaction has begun. -/
theorem eval_settledBody (body : Body α) {index id : Nat} (d : Database (σ × List DriverCall))
    (c : Scope σ) {w₁ : RunState (σ × List DriverCall)}
    (hw₁ : w₁.handles id = ⟨index, true, false, false⟩) :
    ∃ res w', Run.eval (andFinally (do
        let (ending, b) ← body.run index d id
        pure (← settle id ending, some b)) (abandon id)) c.recording w₁ = (res, w') ∧
      ((∃ ending called w₂, (body.run index d id).eval c.recording w₁ = (.ok (ending, called), w₂) ∧
          Ran c.driver index id c.deadlines w₁ (.ok (ending, called)) w₂ ∧
          ((called = true ∧ res = .ok (ending, some true) ∧ w'.calls index = w₂.calls index) ∨
            ∃ call outcome, called = false ∧ res = .ok (outcome, some false) ∧
              Settles ending call outcome ∧ w'.calls index = w₂.calls index ++ [call])) ∨
        ∃ i, res = .error i ∧ (c.deadlines = [] → ¬ c.driver.Answers)) := by
  obtain ⟨res₂, w₂, hbody, hran⟩ := eval_run_open body d c hw₁
  cases hran with
  | @unfinished ending _ calls hw₂ hcalls hstatements =>
    have hopen : w₂.handles id = .idle index true := hw₂
    obtain ⟨res, w', heval, hres⟩ := eval_closing c hbody hopen
    refine ⟨res, w', heval, ?_⟩
    rcases hres with ⟨last, outcome, rfl, hcloses, hlast, -⟩ | ⟨i, rfl, hi⟩
    · cases hcloses with
      | settled hsettles =>
        exact .inl ⟨ending, false, w₂, hbody, .unfinished calls hw₂ hcalls hstatements,
          .inr ⟨_, outcome, rfl, rfl, hsettles, hlast⟩⟩
    · exact .inr ⟨i, rfl, hi⟩
  | @ended ending _ calls last hw₂ hcalls hstatements hlast =>
    have hover : w₂.handles id = .idle index false := hw₂
    obtain ⟨res, w', heval, hres⟩ := eval_closing c hbody hover
    refine ⟨res, w', heval, ?_⟩
    rcases hres with ⟨after, outcome, rfl, hcloses, hw', -⟩ | ⟨i, rfl, hi⟩
    · cases hcloses with
      | kept =>
        refine .inl ⟨ending, true, w₂, hbody, .ended calls last hw₂ hcalls hstatements hlast,
          .inl ⟨rfl, rfl, ?_⟩⟩
        rw [hw', List.append_nil]
    · exact .inr ⟨i, rfl, hi⟩
  | @interrupted i _ h =>
    obtain ⟨w', habandon⟩ := eval_abandon id c.recording w₂
    exact ⟨_, w', eval_andFinally (by simp [hbody]) habandon, .inr ⟨i, rfl, h⟩⟩

/-- **A body in a transaction of its own.** -/
theorem doTransaction_concludes (index : Nat) (d : Database (σ × List DriverCall))
    (options : TransactionOptions) (body : Body α) (c : Scope σ)
    (w : RunState (σ × List DriverCall)) :
    ∃ res w', (doTransaction index d options (body.run index d)).eval c.recording w = (res, w') ∧
      Concluded c index d options body w res w' := by
  obtain ⟨res, w₁, hbegin, hbeginning⟩ := eval_beginTransaction index d options c.recording w
  let reply := (c.driver.beginTransaction options (w.states index).1).outcome
  have hcalls : ∀ now, (w.after index (c.recording.driver.beginTransaction options (w.states index))
      now).calls index = w.calls index ++ [.beginTransaction options reply] :=
    fun now => calls_after w index _ now
  rw [doTransaction, eval_bind, hbegin]
  cases hbeginning with
  | begun delay now h =>
    have hreply : reply = .answered delay (.ok ()) := h
    let w₁ : RunState (σ × List DriverCall) :=
      { w.after index (c.recording.driver.beginTransaction options (w.states index)) now with
        handles := update w.handles w.begun (Handle.opened index)
        begun := w.begun + 1 }
    have hw₁ : w₁.handles w.begun = ⟨index, true, false, false⟩ := update_same ..
    obtain ⟨res, w', heval, hres⟩ := eval_settledBody body d c hw₁
    refine ⟨res, w', heval, ?_⟩
    rcases hres with ⟨ending, called, w₂, hbody, hran, ⟨rfl, rfl, hw'⟩ |
      ⟨call, outcome, rfl, rfl, hsettles, hw'⟩⟩ | ⟨i, rfl, hi⟩
    · refine .kept delay ?_ hbody hran hw'
      exact hreply ▸ hcalls now
    · refine .settled delay call ?_ hbody hran hw' hsettles
      exact hreply ▸ hcalls now
    · exact .interrupted hi
  | failed delay now e h =>
    have hreply : reply = .answered delay (.error e) := h
    exact ⟨_, _, rfl, .notBegun _ e (hreply ▸ hcalls now) (.failed delay e)⟩
  | timedOut t now st ht hst =>
    refine ⟨_, _, rfl, ?_⟩
    -- The driver may have been told to forgo the transaction.
    rcases hst with rfl | rfl
    · exact .notBegun _ _ (hcalls now) (.timedOut reply t ht)
    · refine .notBegun [.beginTransaction options reply, .forgo] _ ?_ (.forgone reply t ht)
      rw [calls_after]
      exact List.append_assoc (w.calls index) [.beginTransaction options reply] [.forgo]
  | deadline t w₁ ht =>
    refine ⟨_, w₁, rfl, .interrupted fun hds => ?_⟩
    simp [show c.recording.deadlines = [] from hds] at ht
  | never w₁ hds hreply =>
    exact ⟨_, w₁, rfl, .interrupted fun _ hd => hd.beginTransaction _ _ hreply⟩

end EntityMapper

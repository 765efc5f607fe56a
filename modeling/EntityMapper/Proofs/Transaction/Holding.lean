import EntityMapper.Proofs.Transaction.Nesting

/-!
# Transactions at hand

Programs on transactions of which at most one is open, which is then the current one. A request on
the open transaction makes one call of the driver, and may leave it over; one on any other
transaction makes none. A new transaction takes the place of one that is over.

## Main definitions

* `Holding index ambient ids cur w`: the transactions `ids` are at hand, and `cur` is open
* `Requested`, `Begins`: what a request, and beginning a transaction, comes to

## Main results

* `Request.eval_run_open`, `Request.eval_run_gone`: requests
* `Holding.finish`, `Holding.opened`, `Holding.leave`: how one open transaction follows another
* `Holding.eval_currentTransaction`: the current transaction is the open one
* `eval_beginTransaction_recorded`: beginning a transaction
-/

namespace EntityMapper

variable {σ α : Type}

/-! ## Requests -/

/-- What is answered to a statement. -/
theorem Timed.replied {limit : Option Duration} {ds : List Nat} {reply : Reply α}
    {r : Except Error α} (h : Timed limit ds reply (.ok r)) : Replied limit reply r := by
  cases h with
  | answered delay r h => exact .inl ⟨delay, h⟩
  | timedOut t h => exact .inr ⟨t, h, rfl⟩

/-- **What a request on an open transaction comes to**: its call and the answer, the transaction
being open or over afterwards. -/
inductive Requested (c : Scope σ) (limit : Option Duration) (index id : Nat) (r : Request)
    (w : RunState (σ × List DriverCall)) :
    Except Interrupt (Except Error Answer) → RunState (σ × List DriverCall) → Prop where
  | answered {call a w'} {isOpen : Bool} (hmade : Made limit r call a)
    (hopen : isOpen = true ↔ r.IsStatement) (hcalls : w'.calls index = w.calls index ++ [call])
    (hbegun : w'.begun = w.begun)
    (hhandles : w'.handles = update w.handles id (.idle index isOpen)) :
    Requested c limit index id r w (.ok a) w'
  | interrupted {i w'} (h : c.deadlines = [] → ¬ c.driver.Answers) :
    Requested c limit index id r w (.error i) w'

section Requests

variable {index id : Nat} (c : Scope σ) (d : Database (σ × List DriverCall))
  {w : RunState (σ × List DriverCall)}

/-- **A request on an open transaction** makes one call. -/
theorem Request.eval_run_open (r : Request) (hw : w.handles id = .idle index true) :
    ∃ res w', (r.run index d id).eval c.recording w = (res, w') ∧
      Requested c d.settings.timeout index id r w res w' := by
  have hsame : w.handles = update w.handles id (.idle index true) := by rw [← hw, update_self]
  cases r with
  | query q =>
    obtain ⟨now, trace, res, h, ht⟩ := Session.eval_statement_open (s := ⟨index, some id, d⟩)
      (c := c.recording) rfl hw .query q fun b driver => driver.query b q
    rw [run, eval_map, Session.queryRows, h]
    cases res with
    | ok r =>
      refine ⟨_, _, rfl, .answered (.query q ht.replied) (iff_of_true rfl trivial) ?_ rfl hsame⟩
      exact calls_after w index _ now
    | error i => exact ⟨_, _, rfl, .interrupted fun hds hd => hd.query _ _ _ (ht.eq_waiting hds)⟩
  | execute q =>
    obtain ⟨now, trace, res, h, ht⟩ := Session.eval_statement_open (s := ⟨index, some id, d⟩)
      (c := c.recording) rfl hw .exec q fun b driver => driver.execute b q
    rw [run, eval_map, Session.execQuery, h]
    cases res with
    | ok r =>
      refine ⟨_, _, rfl, .answered (.execute q ht.replied) (iff_of_true rfl trivial) ?_ rfl hsame⟩
      exact calls_after w index _ now
    | error i => exact ⟨_, _, rfl, .interrupted fun hds hd => hd.execute _ _ _ (ht.eq_waiting hds)⟩
  | commit =>
    obtain ⟨now, res, h, ha⟩ := eval_finish_open (c := c.recording) hw Driver.commit
    rw [run, eval_map, EntityMapper.commit, h]
    cases res with
    | ok r =>
      obtain ⟨delay, hreply⟩ := ha.eq_answered
      refine ⟨_, _, rfl, .answered (.commit delay r) (by simp [IsStatement]) ?_ rfl rfl⟩
      exact hreply ▸ calls_after w index _ now
    | error i => exact ⟨_, _, rfl, .interrupted fun hds hd => hd.commit _ (ha.eq_waiting hds)⟩
  | rollback =>
    obtain ⟨now, res, h, ha⟩ := eval_finish_open (c := c.recording) hw Driver.rollback
    obtain ⟨trace, h⟩ := eval_rollback h
    rw [run, eval_map, h]
    cases res with
    | ok r =>
      obtain ⟨delay, hreply⟩ := ha.eq_answered
      refine ⟨_, _, rfl, .answered (.rollback delay r) (by simp [IsStatement]) ?_ rfl rfl⟩
      exact hreply ▸ calls_after w index _ now
    | error i => exact ⟨_, _, rfl, .interrupted fun hds hd => hd.rollback _ (ha.eq_waiting hds)⟩

/-- **A request on a transaction that is over** is refused. -/
theorem Request.eval_run_gone (r : Request) (hw : w.handles id = .idle index false) :
    ∃ trace, (r.run index d id).eval c.recording w =
      (.ok (.error .transactionDone), { w with trace := trace }) := by
  cases r with
  | query q =>
    obtain ⟨trace, h⟩ := Session.eval_statement_gone (s := ⟨index, some id, d⟩) (c := c.recording)
      rfl hw .query q fun b driver => driver.query b q
    exact ⟨trace, by rw [run, eval_map, Session.queryRows, h]; rfl⟩
  | execute q =>
    obtain ⟨trace, h⟩ := Session.eval_statement_gone (s := ⟨index, some id, d⟩) (c := c.recording)
      rfl hw .exec q fun b driver => driver.execute b q
    exact ⟨trace, by rw [run, eval_map, Session.execQuery, h]; rfl⟩
  | commit =>
    exact ⟨w.trace, by rw [run, eval_map, EntityMapper.commit, eval_finish_gone hw]; rfl⟩
  | rollback =>
    obtain ⟨trace, h⟩ := eval_rollback (eval_finish_gone hw Driver.rollback (c := c.recording))
    exact ⟨trace, by rw [run, eval_map, h]; rfl⟩

end Requests

/-! ## Transactions at hand -/

/-- **Transactions at hand**, of which at most the transaction `cur` is open. It is current, and
whatever is current is at hand. -/
structure Holding (index : Nat) (ambient : Option Nat) {n : Nat} (ids : Fin n → Nat)
    (cur : Option Nat) (w : RunState σ) : Prop where
  handle : ∀ h, w.handles (ids h) = .idle index (decide (cur = some (ids h)))
  lt : ∀ h, ids h < w.begun
  current : ∀ id ∈ cur, ambient = some id
  known : ∀ id ∈ ambient, ∃ h, ids h = id

namespace Holding

variable {index n : Nat} {ambient cur : Option Nat} {ids : Fin n → Nat} {id : Nat}
  {w w' : RunState σ}

/-- Nothing is at hand at first. -/
theorem start (index : Nat) (w : RunState σ) :
    Holding index none (Fin.elim0 : Fin 0 → Nat) none w :=
  ⟨fun h => h.elim0, fun h => h.elim0, nofun, nofun⟩

/-- The open transaction is open. -/
theorem handle_open {h : Fin n} (hw : Holding index ambient ids (some (ids h)) w) :
    w.handles (ids h) = .idle index true := by
  simpa using hw.handle h

/-- Any other transaction is over. -/
theorem handle_over (hw : Holding index ambient ids cur w) {h : Fin n} (hcur : cur ≠ some (ids h)) :
    w.handles (ids h) = .idle index false := by
  simpa [hcur] using hw.handle h

/-- What the run does to anything else does not matter. -/
theorem congr (hw : Holding index ambient ids cur w) (hhandles : w'.handles = w.handles)
    (hbegun : w'.begun = w.begun) : Holding index ambient ids cur w' :=
  ⟨hhandles ▸ hw.handle, hbegun ▸ hw.lt, hw.current, hw.known⟩

/-- **A transaction is over**, which is the open one if there is any. -/
theorem finish (hw : Holding index ambient ids cur w) (hcur : ∀ j ∈ cur, j = id)
    (h : Finished index id w w') : Holding index ambient ids none w' := by
  refine ⟨fun k => ?_, h.begun ▸ hw.lt, nofun, hw.known⟩
  rw [h.handles]
  by_cases hk : ids k = id
  · subst hk
    exact update_same ..
  · have hother : cur ≠ some (ids k) := fun hcur' => hk (hcur _ hcur')
    simpa [update, hk] using hw.handle_over hother

/-- One of the transactions at hand is at hand once more. -/
theorem cons (hw : Holding index ambient ids cur w) (h : Fin n) :
    Holding index ambient (Fin.cons (ids h) ids : Fin (n + 1) → Nat) cur w := by
  refine ⟨fun k => ?_, fun k => ?_, hw.current, fun id hid => ?_⟩
  · cases k using Fin.cases with
    | zero => exact hw.handle h
    | succ k => exact hw.handle k
  · cases k using Fin.cases with
    | zero => exact hw.lt h
    | succ k => exact hw.lt k
  · obtain ⟨k, hk⟩ := hw.known id hid
    exact ⟨k.succ, hk⟩

/-- The open transaction is at hand. -/
theorem exists_eq (hw : Holding index ambient ids (some id) w) : ∃ h, ids h = id :=
  hw.known id (hw.current id rfl)

/-- The open transaction is at hand once more. -/
theorem cons_current (hw : Holding index ambient ids (some id) w) :
    Holding index ambient (Fin.cons id ids : Fin (n + 1) → Nat) (some id) w := by
  obtain ⟨h, rfl⟩ := hw.exists_eq
  exact hw.cons h

/-- A transaction at hand is forgotten, which is not the current one. -/
theorem tail (hw : Holding index ambient (Fin.cons id ids : Fin (n + 1) → Nat) cur w)
    (hknown : ∀ id ∈ ambient, ∃ h, ids h = id) : Holding index ambient ids cur w :=
  ⟨fun h => hw.handle h.succ, fun h => hw.lt h.succ, hw.current, hknown⟩

/-- The scope in which a new transaction is current ends when none is open any more. -/
theorem leave {inner : Option Nat}
    (hw' : Holding index inner (Fin.cons id ids : Fin (n + 1) → Nat) none w')
    (hknown : ∀ id ∈ ambient, ∃ h, ids h = id) :
    Holding index ambient (Fin.cons id ids : Fin (n + 1) → Nat) none w' := by
  refine ⟨hw'.handle, hw'.lt, nofun, fun j hj => ?_⟩
  obtain ⟨h, rfl⟩ := hknown j hj
  exact ⟨h.succ, rfl⟩

/-- **A new transaction** is at hand, and current in a scope of its own. -/
theorem opened (hw : Holding index ambient ids none w)
    (hhandles : w'.handles = update w.handles w.begun (Handle.opened index))
    (hbegun : w'.begun = w.begun + 1) :
    Holding index (some w.begun) (Fin.cons w.begun ids : Fin (n + 1) → Nat) (some w.begun) w' := by
  refine ⟨fun k => ?_, fun k => ?_, fun id hid => hid, fun id hid => ⟨0, ?_⟩⟩
  · rw [hhandles]
    cases k using Fin.cases with
    | zero => simp [Handle.opened, Handle.idle]
    | succ k =>
      have hne : ids k ≠ w.begun := (hw.lt k).ne
      simpa [update, hne, hne.symm] using hw.handle k
  · rw [hbegun]
    cases k using Fin.cases with
    | zero => exact Nat.lt_succ_self _
    | succ k => exact Nat.lt_succ_of_lt (hw.lt k)
  · exact Option.some.inj hid

/-- **The current transaction**, unless it is over, is the open one. -/
theorem eval_currentTransaction {c : Scope σ} (hw : Holding index c.ambient ids cur w) :
    currentTransaction.eval c w = (.ok cur, w) := by
  rw [currentTransaction, eval_bind, eval_read]
  dsimp only
  cases hambient : c.ambient with
  | none =>
    cases cur with
    | none => rfl
    | some id => exact absurd ((hw.current id rfl).symm.trans hambient) nofun
  | some id =>
    obtain ⟨h, rfl⟩ := hw.known id hambient
    simp only [eval_bind, eval_isDone, hw.handle h]
    cases cur with
    | none => rfl
    | some id =>
      obtain rfl : ids h = id := Option.some.inj (hambient.symm.trans (hw.current id rfl))
      simp [Handle.idle]

end Holding

/-! ## Beginning and closing -/

/-- **What beginning a transaction comes to.** Other transactions are as they were. -/
inductive Begins (c : Scope σ) (limit : Option Duration) (options : TransactionOptions)
    (index : Nat) (w : RunState (σ × List DriverCall)) :
    Except Interrupt (Except Error Nat) → RunState (σ × List DriverCall) → Prop where
  | begun {w'} (delay : Duration) (hcalls : w'.calls index =
      w.calls index ++ [.beginTransaction options (.answered delay (.ok ()))])
    (hhandles : w'.handles = update w.handles w.begun (Handle.opened index))
    (hbegun : w'.begun = w.begun + 1) : Begins c limit options index w (.ok (.ok w.begun)) w'
  | notBegun {calls e w'} (h : NotBegun limit options calls e)
    (hcalls : w'.calls index = w.calls index ++ calls) (hhandles : w'.handles = w.handles)
    (hbegun : w'.begun = w.begun) : Begins c limit options index w (.ok (.error e)) w'
  | interrupted {i w'} (h : c.deadlines = [] → ¬ c.driver.Answers) :
    Begins c limit options index w (.error i) w'

/-- **Beginning a transaction**, with the calls of the driver. -/
theorem eval_beginTransaction_recorded (index : Nat) (d : Database (σ × List DriverCall))
    (options : TransactionOptions) (c : Scope σ) (w : RunState (σ × List DriverCall)) :
    ∃ res w', (beginTransaction index d options).eval c.recording w = (res, w') ∧
      Begins c d.settings.timeout options index w res w' := by
  obtain ⟨res, w', heval, hbeginning⟩ := eval_beginTransaction index d options c.recording w
  let reply := (c.driver.beginTransaction options (w.states index).1).outcome
  have hcalls : ∀ now, (w.after index (c.recording.driver.beginTransaction options (w.states index))
      now).calls index = w.calls index ++ [.beginTransaction options reply] :=
    fun now => calls_after w index _ now
  refine ⟨res, w', heval, ?_⟩
  cases hbeginning with
  | begun delay now h =>
    have hreply : reply = .answered delay (.ok ()) := h
    exact .begun delay (hreply ▸ hcalls now) rfl rfl
  | failed delay now e h =>
    have hreply : reply = .answered delay (.error e) := h
    exact .notBegun (.failed delay e) (hreply ▸ hcalls now) rfl rfl
  | timedOut t now st ht hst =>
    -- The driver may have been told to forgo the transaction.
    rcases hst with rfl | rfl
    · exact .notBegun (.timedOut reply t ht) (hcalls now) rfl rfl
    · refine .notBegun (.forgone reply t ht) ?_ rfl rfl
      rw [calls_after]
      exact List.append_assoc (w.calls index) [.beginTransaction options reply] [.forgo]
  | deadline t w' ht =>
    exact .interrupted fun hds => absurd (hds ▸ ht : t ∈ []) List.not_mem_nil
  | never w' _ hreply => exact .interrupted fun _ hd => hd.beginTransaction _ _ hreply

end EntityMapper

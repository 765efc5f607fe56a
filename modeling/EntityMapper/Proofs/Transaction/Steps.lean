import EntityMapper.Proofs.Run.Clock
import EntityMapper.Transaction.Basic

/-!
# Steps on transactions

What statements, commits and rollbacks on a transaction come to when nobody holds its lock. While
the driver's side is there, each makes one step of the driver and waits for the reply. Once it was
taken out, the driver is not reached any more.

## Main definitions

* `RunState.after w i turn now`: the state after a step of a driver
* `Timed limit deadlines reply`: what a statement may come to

## Main results

* `eval_statement_plain`: statements from outside of transactions
* `eval_statement_open`, `eval_statement_gone`: statements on a transaction
* `eval_finish_open`, `eval_finish_gone`: ending a transaction
* `eval_abandon_open`, `eval_abandon_gone`: giving a handle up
* `eval_beginTransaction`: beginning a transaction
* `of_eval_beginTransaction`: a transaction that has begun
-/

namespace EntityMapper

variable {σ α : Type}

/-! ## Updates -/

@[simp] theorem update_same (f : Nat → α) (i : Nat) (a : α) : update f i a i = a := if_pos rfl

@[simp] theorem update_update (f : Nat → α) (i : Nat) (a b : α) :
    update (update f i a) i b = update f i b := by
  funext j
  simp only [update]
  split <;> rfl

@[simp] theorem update_self (f : Nat → α) (i : Nat) : update f i (f i) = f := by
  funext j
  simp only [update]
  split
  · next h => rw [h]
  · rfl

/-! ## Steps of drivers -/

/-- **The state after a step of a driver** and some waiting. -/
def RunState.after (w : RunState σ) (i : Nat) (turn : Turn σ α) (now : Nat) : RunState σ :=
  { w with
    now := now
    states := update w.states i turn.next
    events := w.events ++ turn.events.map (Event.mk i) }

@[simp] theorem eval_call (i : Nat) (step : Driver σ → σ → Turn σ α) (c : Scope σ)
    (w : RunState σ) : (call i step).eval c w =
      (.ok (step c.driver (w.states i)).outcome,
        w.after i (step c.driver (w.states i)) w.now) := by
  simp only [call, eval_bind, eval_read, eval_get, eval_set, eval_pure]
  rfl

@[simp] theorem eval_handleOf (id : Nat) (c : Scope σ) (w : RunState σ) :
    (handleOf id).eval c w = (.ok (w.handles id), w) := rfl

@[simp] theorem eval_setHandle (id : Nat) (h : Handle) (c : Scope σ) (w : RunState σ) :
    (setHandle id h).eval c w = (.ok (), { w with handles := update w.handles id h }) := rfl

@[simp] theorem eval_isDone (id : Nat) (c : Scope σ) (w : RunState σ) :
    (isDone id).eval c w = (.ok (w.handles id).done, w) := rfl

/-- A step of a driver that is waited for. -/
theorem eval_call_await (i : Nat) (step : Driver σ → σ → Turn σ (Reply α)) (c : Scope σ)
    (w : RunState σ) :
    ∃ now res, Run.eval (do await (← call i step)) c w =
        (res, w.after i (step c.driver (w.states i)) now) ∧
      Awaited c.deadlines (step c.driver (w.states i)).outcome res := by
  obtain ⟨now, res, h, ha⟩ := eval_await (step c.driver (w.states i)).outcome c
    (w.after i (step c.driver (w.states i)) w.now)
  refine ⟨now, res, ?_, ha⟩
  simp only [eval_bind, eval_call]
  exact h

/-! ## Statements -/

/-- **What a statement may come to** in the time that it may take: the answer, an error when that
time is over, or an interruption from outside. -/
inductive Timed (limit : Option Duration) (ds : List Nat) (reply : Reply α) :
    Except Interrupt (Except Error α) → Prop where
  | answered (delay : Duration) (r : Except Error α) (h : reply = .answered delay r) :
    Timed limit ds reply (.ok r)
  | timedOut (d : Duration) (h : limit = some d) : Timed limit ds reply (.ok (.error (.timeout d)))
  | deadline (d : Nat) (h : d ∈ ds) : Timed limit ds reply (.error (.deadline d))
  | never (hds : ds = []) (hreply : reply = .waiting) : Timed limit ds reply (.error .never)

/-- Without deadlines around it, a statement is interrupted only if it is never answered. -/
theorem Timed.eq_waiting {limit : Option Duration} {ds : List Nat} {reply : Reply α}
    {i : Interrupt} (h : Timed limit ds reply (.error i)) (hds : ds = []) : reply = .waiting := by
  cases h with
  | deadline d hd => simp [hds] at hd
  | never _ hreply => exact hreply

/-- **A program that waits for a reply, in the time that it may take.** When that time is over, the
program has been interrupted. -/
theorem eval_withTimeout {limit : Option Duration} {x : Run σ (Except Error α)} {c : Scope σ}
    {w : RunState σ} {P : Except Interrupt (Except Error α) → RunState σ → Prop} (reply : Reply α)
    (h : ∀ ds, ∃ res w', x.eval { c with deadlines := ds } w = (res, w') ∧ P res w' ∧
      Awaited ds reply res) :
    ∃ res w', (withTimeout limit x).eval c w = (res, w') ∧ Timed limit c.deadlines reply res ∧
      (P res w' ∨ ∃ d i, limit = some d ∧ res = .ok (.error (.timeout d)) ∧ P (.error i) w') := by
  cases limit with
  | none =>
    obtain ⟨res, w', hx, hp, ha⟩ := h c.deadlines
    refine ⟨res, w', hx, ?_, .inl hp⟩
    clear hx
    generalize c.deadlines = ds at ha ⊢
    cases ha with
    | answered delay r => exact .answered delay r rfl
    | deadline t ht => exact .deadline t ht
    | never => exact .never rfl rfl
  | some d =>
    -- Inside, the limit is one more deadline.
    obtain ⟨res, w', hx, hp, ha⟩ := h ((w.now + d.ticks) :: c.deadlines)
    cases ha with
    | answered delay r =>
      refine ⟨_, w', ?_, .answered delay r rfl, .inl hp⟩
      simp [withTimeout, eval_withDeadline, hx]
    -- A deadline from around the statement is not its own and goes on outwards.
    | deadline t ht =>
      by_cases htick : t = w.now + d.ticks
      · refine ⟨_, w', ?_, .timedOut d rfl, .inr ⟨d, _, rfl, rfl, hp⟩⟩
        simp [withTimeout, eval_withDeadline, hx, htick]
      · refine ⟨_, w', ?_, .deadline t ((List.mem_cons.mp ht).resolve_left htick), .inl hp⟩
        simp [withTimeout, eval_withDeadline, hx, htick]

/-- **A program that holds the lock** gives it back, whatever it comes to. -/
theorem eval_holdingLock {id : Nat} {h : Handle} (x : Run σ α) (c : Scope σ) {w w' : RunState σ}
    {res : Except Interrupt α} (hw : w.handles id = h) (hlock : h.locked = false)
    (hx : x.eval c { w with handles := update w.handles id { h with locked := true } } =
      (res, w')) :
    (holdingLock id x).eval c w =
      (res, { w' with handles := update w'.handles id (w'.handles id).release }) := by
  have hacquire : h.acquire? = some { h with locked := true } := by simp [Handle.acquire?, hlock]
  simp only [holdingLock, eval_bind, eval_handleOf, hw, hacquire, eval_setHandle]
  exact eval_andFinally hx rfl

namespace Session

variable {s : Session σ} {id db : Nat} {done : Bool} {c : Scope σ} {w : RunState σ}

/-- A statement on an open transaction makes a step of the driver, and holds the lock meanwhile. -/
theorem eval_send_open (hs : s.transaction = some id) (hw : w.handles id = ⟨db, true, done, false⟩)
    (step : Bool → Driver σ → σ → Turn σ (Reply α)) :
    ∃ now res, (s.send step).eval c w =
        (res, w.after s.index (step true c.driver (w.states s.index)) now) ∧
      Awaited c.deadlines (step true c.driver (w.states s.index)).outcome res := by
  let w₁ : RunState σ := { w with handles := update w.handles id ⟨db, true, done, true⟩ }
  obtain ⟨now, res, h, ha⟩ := eval_call_await s.index (step true) c w₁
  refine ⟨now, res, ?_, ha⟩
  rw [send, hs]
  let turn := step true c.driver (w₁.states s.index)
  refine (eval_holdingLock _ c hw rfl (?_ : _ = (res, w₁.after s.index turn now))).trans ?_
  · rw [eval_bind, eval_handleOf, show w₁.handles id = ⟨db, true, done, true⟩ from update_same ..]
    exact h
  -- Given back, the lock leaves the handle as it was.
  · simp [w₁, turn, RunState.after, Handle.release, ← hw]

/-- A statement on a transaction that is over does not reach the driver. -/
theorem eval_send_gone (hs : s.transaction = some id)
    (hw : w.handles id = ⟨db, false, done, false⟩)
    (step : Bool → Driver σ → σ → Turn σ (Reply α)) :
    (s.send step).eval c w = (.ok (.error .transactionDone), w) := by
  let w₁ : RunState σ := { w with handles := update w.handles id ⟨db, false, done, true⟩ }
  rw [send, hs]
  refine (eval_holdingLock _ c hw rfl (?_ : _ = (.ok (.error .transactionDone), w₁))).trans ?_
  · rw [eval_bind, eval_handleOf, show w₁.handles id = ⟨db, false, done, true⟩ from update_same ..]
    rfl
  · simp [w₁, Handle.release, ← hw]

/-- A statement does not get past the lock while somebody else holds it. -/
theorem eval_send_locked {isOpen : Bool} (hs : s.transaction = some id)
    (hw : w.handles id = ⟨db, isOpen, done, true⟩)
    (step : Bool → Driver σ → σ → Turn σ (Reply α)) :
    ∃ now res, (s.send step).eval c w = (res, { w with now := now }) ∧
      Awaited c.deadlines (.waiting : Reply α) res := by
  obtain ⟨now, res, h, ha⟩ := eval_await (.waiting : Reply α) c w
  refine ⟨now, res, ?_, ha⟩
  rw [send, hs]
  show Run.eval (holdingLock id _) c w = _
  rw [holdingLock, eval_bind, eval_handleOf, hw]
  exact h

/-- **A statement from outside of transactions** makes one step of the driver. -/
theorem eval_statement_plain (hs : s.transaction = none) (mode : StatementMode) (q : Sql.Query)
    (step : Bool → Driver σ → σ → Turn σ (Reply α)) :
    ∃ now trace res, (s.statement mode q step).eval c w = (res,
        { w.after s.index (step false c.driver (w.states s.index)) now with trace := trace }) ∧
      Timed s.database.settings.timeout c.deadlines
        (step false c.driver (w.states s.index)).outcome res := by
  let turn := step false c.driver (w.states s.index)
  let w₁ : RunState σ :=
    { w with trace := w.trace ++ [.statement mode s.transaction.isSome q] }
  have hsend (ds : List Nat) : ∃ res w', (s.send step).eval { c with deadlines := ds } w₁ =
      (res, w') ∧ (∃ now, w' = w₁.after s.index turn now) ∧ Awaited ds turn.outcome res := by
    obtain ⟨now, res, h, ha⟩ := eval_call_await s.index (step false) { c with deadlines := ds } w₁
    rw [send, hs]
    exact ⟨res, _, h, ⟨now, rfl⟩, ha⟩
  obtain ⟨res, w', h, ht, ⟨now, rfl⟩ | ⟨_, _, -, -, now, rfl⟩⟩ :=
    eval_withTimeout turn.outcome hsend
  all_goals
    refine ⟨now, w₁.trace, res, ?_, ht⟩
    rw [statement, eval_bind, eval_report]
    exact h

/-- **A statement waits for the lock** while somebody else holds it. -/
theorem eval_statement_locked {isOpen : Bool} (hs : s.transaction = some id)
    (hw : w.handles id = ⟨db, isOpen, done, true⟩) (mode : StatementMode) (q : Sql.Query)
    (step : Bool → Driver σ → σ → Turn σ (Reply α)) :
    ∃ now trace res, (s.statement mode q step).eval c w =
        (res, { w with now := now, trace := trace }) ∧
      Timed s.database.settings.timeout c.deadlines (.waiting : Reply α) res := by
  let w₁ : RunState σ :=
    { w with trace := w.trace ++ [.statement mode s.transaction.isSome q] }
  have htimed : ∃ res now, (withTimeout s.database.settings.timeout (s.send step)).eval c w₁ =
      (res, { w₁ with now := now }) ∧
        Timed s.database.settings.timeout c.deadlines (.waiting : Reply α) res := by
    obtain ⟨res, w', h, ht, ⟨now, rfl⟩ | ⟨_, _, -, -, now, rfl⟩⟩ :=
      eval_withTimeout (.waiting : Reply α) (P := fun _ w' => ∃ now, w' = { w₁ with now := now })
        fun ds => by
        obtain ⟨now, res, hsend, ha⟩ :=
          s.eval_send_locked (c := { c with deadlines := ds }) (w := w₁) hs hw step
        exact ⟨res, _, hsend, ⟨now, rfl⟩, ha⟩
    · exact ⟨res, now, h, ht⟩
    · exact ⟨res, now, h, ht⟩
  obtain ⟨res, now, h, ht⟩ := htimed
  refine ⟨now, w₁.trace, res, ?_, ht⟩
  rw [statement, eval_bind, eval_report]
  exact h

/-- **A statement on an open transaction** makes one step of the driver. -/
theorem eval_statement_open (hs : s.transaction = some id)
    (hw : w.handles id = ⟨db, true, done, false⟩) (mode : StatementMode) (q : Sql.Query)
    (step : Bool → Driver σ → σ → Turn σ (Reply α)) :
    ∃ now trace res, (s.statement mode q step).eval c w = (res,
        { w.after s.index (step true c.driver (w.states s.index)) now with trace := trace }) ∧
      Timed s.database.settings.timeout c.deadlines
        (step true c.driver (w.states s.index)).outcome res := by
  let w₁ : RunState σ :=
    { w with trace := w.trace ++ [.statement mode s.transaction.isSome q] }
  let turn := step true c.driver (w.states s.index)
  have htimed : ∃ res now, (withTimeout s.database.settings.timeout (s.send step)).eval c w₁ =
      (res, w₁.after s.index turn now) ∧
        Timed s.database.settings.timeout c.deadlines turn.outcome res := by
    obtain ⟨res, w', h, ht, ⟨now, rfl⟩ | ⟨_, _, -, -, now, rfl⟩⟩ :=
      eval_withTimeout turn.outcome (P := fun _ w' => ∃ now, w' = w₁.after s.index turn now)
        fun ds => by
        obtain ⟨now, res, hsend, ha⟩ :=
          s.eval_send_open (c := { c with deadlines := ds }) (w := w₁) hs hw step
        exact ⟨res, _, hsend, ⟨now, rfl⟩, ha⟩
    · exact ⟨res, now, h, ht⟩
    · exact ⟨res, now, h, ht⟩
  obtain ⟨res, now, h, ht⟩ := htimed
  refine ⟨now, w₁.trace, res, ?_, ht⟩
  rw [statement, eval_bind, eval_report]
  exact h

/-- **A statement on a transaction that is over** is refused. -/
theorem eval_statement_gone (hs : s.transaction = some id)
    (hw : w.handles id = ⟨db, false, done, false⟩) (mode : StatementMode) (q : Sql.Query)
    (step : Bool → Driver σ → σ → Turn σ (Reply α)) :
    ∃ trace, (s.statement mode q step).eval c w =
      (.ok (.error .transactionDone), { w with trace := trace }) := by
  let w₁ : RunState σ :=
    { w with trace := w.trace ++ [.statement mode s.transaction.isSome q] }
  have hsend : ∀ c : Scope σ, (s.send step).eval c w₁ = (.ok (.error .transactionDone), w₁) :=
    fun c => s.eval_send_gone (w := w₁) hs hw step
  refine ⟨w₁.trace, ?_⟩
  rw [statement, eval_bind, eval_report]
  show (withTimeout s.database.settings.timeout (s.send step)).eval c w₁ = _
  cases s.database.settings.timeout with
  | none => exact hsend c
  | some d =>
    rw [withTimeout, eval_bind, eval_get]
    show Run.eval (withDeadline (w₁.now + d.ticks) (s.send step) >>= _) c w₁ = _
    rw [eval_bind, eval_withDeadline, hsend]
    rfl

end Session

/-! ## Ending and giving up -/

section Finish

variable {id db : Nat} {done locked : Bool} {c : Scope σ} {w : RunState σ}

/-- **Ending an open transaction** takes the driver's side out and makes one step of the driver. -/
theorem eval_finish_open (hw : w.handles id = ⟨db, true, done, false⟩)
    (step : Driver σ → σ → Turn σ (Reply Unit)) :
    ∃ now res, (finish id step).eval c w = (res,
        { w.after db (step c.driver (w.states db)) now with
          handles := update w.handles id ⟨db, false, true, false⟩ }) ∧
      Awaited c.deadlines (step c.driver (w.states db)).outcome res := by
  obtain ⟨now, res, h, ha⟩ := eval_call_await db step c
    { w with handles := update w.handles id ⟨db, false, true, false⟩ }
  refine ⟨now, res, ?_, ha⟩
  rw [finish, eval_bind, eval_handleOf, hw]
  exact h

/-- **Ending a transaction that is closed** does not reach the driver, and marks it as done. -/
theorem eval_finish_closed (hw : w.handles id = ⟨db, false, done, false⟩)
    (step : Driver σ → σ → Turn σ (Reply Unit)) :
    (finish id step).eval c w = (.ok (.error .transactionDone),
      { w with handles := update w.handles id ⟨db, false, true, false⟩ }) := by
  rw [finish, eval_bind, eval_handleOf, hw]
  rfl

/-- Ending a transaction that is over changes nothing. -/
theorem eval_finish_gone (hw : w.handles id = ⟨db, false, true, false⟩)
    (step : Driver σ → σ → Turn σ (Reply Unit)) :
    (finish id step).eval c w = (.ok (.error .transactionDone), w) := by
  have hupdate : update w.handles id ⟨db, false, true, false⟩ = w.handles := by simp [← hw]
  rw [eval_finish_closed hw, hupdate]

/-- Whoever ends a transaction waits for the lock while somebody else holds it. -/
theorem eval_finish_locked {isOpen : Bool} (hw : w.handles id = ⟨db, isOpen, done, true⟩)
    (step : Driver σ → σ → Turn σ (Reply Unit)) :
    ∃ now res, (finish id step).eval c w = (res, { w with now := now }) ∧
      Awaited c.deadlines (.waiting : Reply Unit) res := by
  obtain ⟨now, res, h, ha⟩ := eval_await (.waiting : Reply Unit) c w
  refine ⟨now, res, ?_, ha⟩
  rw [finish, eval_bind, eval_handleOf, hw]
  exact h

/-- Rolling back is ending with a notice. -/
theorem eval_rollback {res : Except Interrupt (Except Error Unit)} {w' : RunState σ}
    (h : (finish id Driver.rollback).eval c w = (res, w')) :
    ∃ trace, (rollback id).eval c w = (res, { w' with trace := trace }) := by
  simp only [rollback, eval_bind, h]
  rcases res with i | e | ⟨⟩
  · exact ⟨w'.trace, rfl⟩
  · exact ⟨_, rfl⟩
  · exact ⟨w'.trace, rfl⟩

/-- Reports change only the trace. -/
theorem eval_forM_report (ns : List Notice) (c : Scope σ) (w : RunState σ) :
    ∃ trace, (ns.forM report).eval c w = (.ok (), { w with trace := trace }) := by
  induction ns generalizing w with
  | nil => exact ⟨w.trace, rfl⟩
  | cons n ns ih =>
    obtain ⟨trace, h⟩ := ih { w with trace := w.trace ++ [n] }
    refine ⟨trace, ?_⟩
    show Run.eval (report n >>= fun _ => ns.forM report) c w = _
    rw [eval_bind, eval_report]
    exact h

/-- **Giving up an open transaction** makes one step of the driver, which nobody waits for. -/
theorem eval_abandon_open (hw : w.handles id = ⟨db, true, done, locked⟩) :
    ∃ trace, (abandon id).eval c w = (.ok (),
      { w.after db (c.driver.abandon c.running (w.states db)) w.now with
        handles := update w.handles id ⟨db, false, done, locked⟩
        trace := trace }) := by
  let w₁ : RunState σ := { w with
    handles := update w.handles id ⟨db, false, done, locked⟩
    trace := w.trace ++ [.abandoned] }
  obtain ⟨trace, h⟩ := eval_forM_report (c.driver.abandon c.running (w.states db)).outcome c
    (w₁.after db (c.driver.abandon c.running (w.states db)) w.now)
  refine ⟨trace, ?_⟩
  rw [abandon, eval_bind, eval_handleOf, hw]
  exact h

/-- **Giving up a transaction that is over** does nothing. -/
theorem eval_abandon_gone (hw : w.handles id = ⟨db, false, done, locked⟩) :
    (abandon id).eval c w = (.ok (), w) := by
  have hupdate : update w.handles id ⟨db, false, done, locked⟩ = w.handles := by simp [← hw]
  rw [abandon, eval_bind, eval_handleOf, hw]
  show (_, { w with handles := update w.handles id ⟨db, false, done, locked⟩ }) = _
  rw [hupdate]

/-- Giving up a handle is never interrupted. -/
theorem eval_abandon (id : Nat) (c : Scope σ) (w : RunState σ) :
    ∃ w', (abandon id).eval c w = (.ok (), w') := by
  rcases hw : w.handles id with ⟨db, _ | _, done, locked⟩
  · exact ⟨w, eval_abandon_gone hw⟩
  · obtain ⟨trace, h⟩ := eval_abandon_open (c := c) hw
    exact ⟨_, h⟩

end Finish

/-! ## Beginning -/

/-- **What beginning a transaction may come to**, when the driver has made its step: a new handle,
the fault that the driver answers, an error when the time is over, or an interruption. A transaction
that is given up before it has begun may be forgone by the driver. -/
inductive Beginning (limit : Option Duration) (index : Nat) (c : Scope σ) (w : RunState σ)
    (turn : Turn σ (Reply Unit)) : Except Interrupt (Except Error Nat) → RunState σ → Prop where
  | begun (delay : Duration) (now : Nat) (h : turn.outcome = .answered delay (.ok ())) :
    Beginning limit index c w turn (.ok (.ok w.begun))
      { w.after index turn now with
        handles := update w.handles w.begun (Handle.opened index)
        begun := w.begun + 1 }
  | failed (delay : Duration) (now : Nat) (e : Error)
    (h : turn.outcome = .answered delay (.error e)) :
    Beginning limit index c w turn (.ok (.error e)) (w.after index turn now)
  | timedOut (d : Duration) (now : Nat) (st : σ) (h : limit = some d)
    (hst : st = turn.next ∨ st = c.driver.forgo turn.next) :
    Beginning limit index c w turn (.ok (.error (.timeout d)))
      (w.after index { turn with next := st } now)
  | deadline (d : Nat) (w' : RunState σ) (h : d ∈ c.deadlines) :
    Beginning limit index c w turn (.error (.deadline d)) w'
  | never (w' : RunState σ) (h : c.deadlines = []) (hreply : turn.outcome = .waiting) :
    Beginning limit index c w turn (.error .never) w'

/-- What beginning a transaction does in the time that it may take: the step of the driver, which
may forgo the transaction when nobody waits for it any more. -/
def awaitBeginning (index : Nat) (options : TransactionOptions) : Run σ (Except Error Unit) := do
  match ← call index fun driver => driver.beginTransaction options with
  | .waiting => waitForever
  | reply => onInterrupt (await reply) do changeState index (← read).driver.forgo

/-- What is left of the driver when a transaction has begun, or has been given up before. -/
def LeftBy (d : Driver σ) (w : RunState σ) (index : Nat) (turn : Turn σ (Reply Unit))
    (res : Except Interrupt (Except Error Unit)) (w' : RunState σ) : Prop :=
  ∃ now st, w' = w.after index { turn with next := st } now ∧
    (st = turn.next ∨ st = d.forgo turn.next) ∧ ∀ r, res = .ok r → st = turn.next

/-- What comes of a beginning that was answered or given up: with an answer, a new handle. -/
def ofBeginning (index : Nat) (w : RunState σ) :
    Except Interrupt (Except Error Unit) → Except Interrupt (Except Error Nat) × RunState σ
  | .error i => (.error i, w)
  | .ok (.error e) => (.ok (.error e), w)
  | .ok (.ok ()) => (.ok (.ok w.begun), { w with
    handles := update w.handles w.begun (Handle.opened index), begun := w.begun + 1 })

theorem eval_awaitBeginning (index : Nat) (options : TransactionOptions) (c : Scope σ)
    (w : RunState σ) :
    ∃ res w', (awaitBeginning index options).eval c w = (res, w') ∧
      LeftBy c.driver w index (c.driver.beginTransaction options (w.states index)) res w' ∧
      Awaited c.deadlines (c.driver.beginTransaction options (w.states index)).outcome res := by
  rw [awaitBeginning, eval_bind, eval_call]
  generalize c.driver.beginTransaction options (w.states index) = turn
  obtain ⟨now, res, h, ha⟩ := eval_await turn.outcome c (w.after index turn w.now)
  dsimp only
  split
  · next hreply =>
    rw [hreply] at h ha
    exact ⟨res, _, h, ⟨now, turn.next, rfl, .inl rfl, fun _ _ => rfl⟩, hreply ▸ ha⟩
  · cases res with
    | ok r =>
      refine ⟨.ok r, w.after index turn now, ?_,
        ⟨now, turn.next, rfl, .inl rfl, fun _ _ => rfl⟩, ha⟩
      rw [eval_onInterrupt, h]
      rfl
    -- Nobody waits for the transaction any more, and the driver forgoes it.
    | error i =>
      refine ⟨.error i, w.after index { turn with next := c.driver.forgo turn.next } now, ?_,
        ⟨now, _, rfl, .inr rfl, nofun⟩, ha⟩
      rw [eval_onInterrupt, h]
      simp only [changeState, eval_bind, eval_read, eval_modify, RunState.after, update_same,
        update_update]

/-- A transaction is begun when it was answered in time. -/
theorem eval_beginTransaction_of {index : Nat} {d : Database σ} {options : TransactionOptions}
    {c : Scope σ} {w w' : RunState σ} {res : Except Interrupt (Except Error Unit)}
    (h : (withTimeout d.settings.timeout (awaitBeginning index options)).eval c w = (res, w')) :
    (beginTransaction index d options).eval c w = ofBeginning index w' res := by
  have hbind : beginTransaction index d options =
      withTimeout d.settings.timeout (awaitBeginning index options) >>= _ := rfl
  rw [hbind, eval_bind, h]
  rcases res with i | e | ⟨⟩ <;> rfl

/-- **Beginning a transaction.** -/
theorem eval_beginTransaction (index : Nat) (d : Database σ) (options : TransactionOptions)
    (c : Scope σ) (w : RunState σ) :
    ∃ res w', (beginTransaction index d options).eval c w = (res, w') ∧
      Beginning d.settings.timeout index c w
        (c.driver.beginTransaction options (w.states index)) res w' := by
  let turn := c.driver.beginTransaction options (w.states index)
  have hawait : ∀ ds, ∃ res w',
      (awaitBeginning index options).eval { c with deadlines := ds } w = (res, w') ∧
        LeftBy c.driver w index turn res w' ∧ Awaited ds turn.outcome res :=
    fun ds => eval_awaitBeginning index options { c with deadlines := ds } w
  obtain ⟨res, w', h, ht, hp⟩ := eval_withTimeout turn.outcome hawait
  refine ⟨_, _, eval_beginTransaction_of h, ?_⟩
  cases ht with
  | answered delay r hr =>
    rcases hp with ⟨now, st, rfl, -, hst⟩ | ⟨t, i, hlimit, hres, now, st, rfl, hst, -⟩
    · obtain rfl := hst r rfl
      rcases r with e | ⟨⟩
      · exact .failed delay now e hr
      · exact .begun delay now hr
    · cases hres
      exact .timedOut t now st hlimit hst
  | timedOut t hlimit =>
    rcases hp with ⟨now, st, rfl, hst, -⟩ | ⟨t', i, -, -, now, st, rfl, hst, -⟩
    · exact .timedOut t now st hlimit hst
    · exact .timedOut t now st hlimit hst
  | deadline t ht => exact .deadline t w' ht
  | never hds hreply => exact .never w' hds hreply

/-- **A transaction has begun**: the driver has made one step, and there is a new handle. -/
theorem of_eval_beginTransaction {index id : Nat} {d : Database σ} {options : TransactionOptions}
    {c : Scope σ} {w w₁ : RunState σ}
    (h : (beginTransaction index d options).eval c w = (.ok (.ok id), w₁)) :
    ∃ delay now,
      (c.driver.beginTransaction options (w.states index)).outcome = .answered delay (.ok ()) ∧
      id = w.begun ∧ w₁ =
        { w.after index (c.driver.beginTransaction options (w.states index)) now with
          handles := update w.handles w.begun (Handle.opened index)
          begun := w.begun + 1 } := by
  obtain ⟨res, w', heval, hbeginning⟩ := eval_beginTransaction index d options c w
  rw [h] at heval
  cases heval
  cases hbeginning with
  | begun delay now houtcome => exact ⟨delay, now, houtcome, rfl, rfl⟩

end EntityMapper

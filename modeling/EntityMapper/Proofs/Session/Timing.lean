import EntityMapper.Proofs.Transaction.Steps

/-!
# Statements in the time that they may take

What waiting for a reply comes to, and when, is settled by the reply, by the clock, and by the
deadlines around it. With a limit of its own a statement comes to what it would come to without
one, had the driver given up on the answer in time.

## Main definitions

* `Reply.arrival deadlines now reply`: what waiting for a reply comes to, and when
* `Reply.within limit reply`: the reply to somebody who waits so long and no longer
* `Session.IsOpen s w`: statements of the session get to the driver
* `Database.timed d limit`, `Session.timed s limit`: with another limit of time

## Main results

* `eval_await_eq`: waiting for a reply
* `eval_withTimeout_arrival`: waiting for it so long and no longer
* `Session.eval_statement_eq`: statements in the time that they may take
-/

namespace EntityMapper

variable {σ α : Type}

/-! ## Deadlines -/

@[simp] theorem earliestBefore_nil (limit : Nat) : earliestBefore limit [] = none := rfl

/-- A deadline after the limit does not count. -/
theorem earliestBefore_cons_of_le {limit d : Nat} (h : limit ≤ d) (ds : List Nat) :
    earliestBefore limit (d :: ds) = earliestBefore limit ds := by
  rw [earliestBefore, earliestBefore, List.filter_cons_of_neg (by simpa using h)]

/-- **The first of some deadlines** is one of the others only if that one is before it. -/
theorem min?_cons_eq (d : Nat) (ds : List Nat) :
    (d :: ds).min? = some ((earliestBefore d ds).getD d) := by
  rw [List.min?_eq_some_iff]
  cases h : earliestBefore d ds with
  | none =>
    have hnone : ds.filter (· < d) = [] := List.min?_eq_none_iff.mp h
    refine ⟨List.mem_cons_self, List.forall_mem_cons.mpr ⟨Nat.le_refl d, fun e he => ?_⟩⟩
    simpa using List.filter_eq_nil_iff.mp hnone e he
  | some e =>
    obtain ⟨hmem, hmin⟩ := List.min?_eq_some_iff.mp h
    obtain ⟨he, hlt⟩ := List.mem_filter.mp hmem
    have hed : e < d := by simpa using hlt
    refine ⟨List.mem_cons_of_mem d he, List.forall_mem_cons.mpr ⟨Nat.le_of_lt hed, fun f hf => ?_⟩⟩
    by_cases hfd : f < d
    · exact hmin f (List.mem_filter.mpr ⟨hf, by simpa using hfd⟩)
    · exact Nat.le_trans (Nat.le_of_lt hed) (Nat.le_of_not_lt hfd)

/-- A deadline before the limit hides those after it. -/
theorem earliestBefore_cons_of_lt {limit d : Nat} (h : d < limit) (ds : List Nat) :
    earliestBefore limit (d :: ds) = some ((earliestBefore d ds).getD d) := by
  have hfilter : (ds.filter (· < limit)).filter (· < d) = ds.filter (· < d) := by
    rw [List.filter_filter]
    refine List.filter_congr fun e _ => ?_
    simpa using fun hed => Nat.lt_trans hed h
  rw [earliestBefore, List.filter_cons_of_pos (by simpa using h), min?_cons_eq, earliestBefore,
    hfilter, earliestBefore]

/-- The earliest deadline before a limit is before it. -/
theorem lt_of_earliestBefore {limit d : Nat} {ds : List Nat}
    (h : earliestBefore limit ds = some d) : d < limit := by
  simpa using (List.mem_filter.mp (List.min?_mem h)).2

/-! ## Arrivals -/

/-- **What waiting for a reply comes to**, from a tick on and under deadlines, and when: the answer,
or the interruption by a deadline before it. -/
def Reply.arrival (ds : List Nat) (now : Nat) : Reply α → Except Interrupt (Except Error α) × Nat
  | .answered delay r =>
    match earliestBefore (now + delay.ticks) ds with
    | some d => (.error (.deadline d), max now d)
    | none => (.ok r, now + delay.ticks)
  | .waiting =>
    match ds.min? with
    | some d => (.error (.deadline d), max now d)
    | none => (.error .never, now)

/-- An answer that no deadline comes before. -/
theorem Reply.arrival_of_none {ds : List Nat} {now : Nat} {delay : Duration}
    (h : earliestBefore (now + delay.ticks) ds = none) (r : Except Error α) :
    (answered delay r).arrival ds now = (.ok r, now + delay.ticks) := by
  rw [arrival, h]

/-- **Waiting for a reply.** -/
theorem eval_await_eq (reply : Reply α) (c : Scope σ) (w : RunState σ) :
    (await reply).eval c w =
      ((reply.arrival c.deadlines w.now).1,
        { w with now := (reply.arrival c.deadlines w.now).2 }) := by
  cases reply with
  | answered delay r =>
    simp only [await, wait, waitUntil, eval_bind, eval_get, eval_read, Reply.arrival]
    cases earliestBefore (w.now + delay.ticks) c.deadlines with
    | some d => rfl
    | none => simp [advance]
  | waiting =>
    simp only [await, waitForever, eval_bind, eval_read, Reply.arrival]
    cases c.deadlines.min? with
    | some d => rfl
    | none => rfl

/-- **A reply to somebody who waits so long and no longer**: an answer that comes too late is given
up. One that comes just in time is not. -/
def Reply.within (limit : Option Duration) (reply : Reply α) : Reply α :=
  match limit, reply with
  | none, reply => reply
  | some t, .answered delay r =>
    if t.ticks < delay.ticks then .answered t (.error (.timeout t)) else .answered delay r
  | some t, .waiting => .answered t (.error (.timeout t))

theorem Reply.within_of_le {t delay : Duration} (h : delay.ticks ≤ t.ticks) (r : Except Error α) :
    (answered delay r).within (some t) = .answered delay r := if_neg (Nat.not_lt.mpr h)

theorem Reply.within_of_lt {t delay : Duration} (h : t.ticks < delay.ticks) (r : Except Error α) :
    (answered delay r).within (some t) = .answered t (.error (.timeout t)) := if_pos h

/-- What is given up at a limit of its own, after which others go on. -/
def givenUp (t : Duration) (tick : Nat) :
    Except Interrupt (Except Error α) × Nat → Except Interrupt (Except Error α) × Nat
  | (.error (.deadline d), now) =>
    (if d = tick then .ok (.error (.timeout t)) else .error (.deadline d), now)
  | (res, now) => (res, now)

/-- **Waiting with one more deadline**, at which the reply is given up, is waiting for the reply
within the limit. -/
theorem Reply.arrival_within (t : Duration) (reply : Reply α) (ds : List Nat) (now : Nat) :
    givenUp t (now + t.ticks) (reply.arrival ((now + t.ticks) :: ds) now) =
      (reply.within (some t)).arrival ds now := by
  obtain ⟨tick, htick⟩ : ∃ tick, tick = now + t.ticks := ⟨_, rfl⟩
  -- A deadline of somebody else that comes first is not the limit.
  have hgiven : givenUp (α := α) t tick (.error (.deadline ((earliestBefore tick ds).getD tick)),
        max now ((earliestBefore tick ds).getD tick)) =
      (Reply.answered t (.error (.timeout t))).arrival ds now := by
    rw [arrival, ← htick]
    cases h : earliestBefore tick ds with
    | none =>
      have hmax : max now tick = tick := Nat.max_eq_right (htick ▸ Nat.le_add_right now t.ticks)
      simp [givenUp, hmax]
    | some d => simp [givenUp, (lt_of_earliestBefore h).ne]
  rw [← htick]
  cases reply with
  | answered delay r =>
    by_cases hlate : t.ticks < delay.ticks
    · have hlt : tick < now + delay.ticks := htick ▸ Nat.add_lt_add_left hlate now
      rw [within_of_lt hlate, ← hgiven, arrival, earliestBefore_cons_of_lt hlt]
    · have hle : now + delay.ticks ≤ tick :=
        htick ▸ Nat.add_le_add_left (Nat.le_of_not_lt hlate) now
      rw [within_of_le (Nat.le_of_not_lt hlate), arrival, arrival, earliestBefore_cons_of_le hle]
      cases h : earliestBefore (now + delay.ticks) ds with
      | none => rfl
      | some d => simp [givenUp, ((lt_of_earliestBefore h).trans_le hle).ne]
  | waiting => rw [within, ← hgiven, arrival, min?_cons_eq]

/-- **A program in the time that it may take** has one more deadline, at which it is given up. -/
theorem eval_withTimeout_some (t : Duration) (x : Run σ (Except Error α)) (c : Scope σ)
    (w : RunState σ) :
    (withTimeout (some t) x).eval c w =
      match x.eval { c with deadlines := (w.now + t.ticks) :: c.deadlines } w with
      | (.ok r, w₁) => (.ok r, w₁)
      | (.error (.deadline d), w₁) =>
        (if d = w.now + t.ticks then .ok (.error (.timeout t)) else .error (.deadline d), w₁)
      | (.error .never, w₁) => (.error .never, w₁) := by
  simp only [withTimeout, eval_bind, eval_get, eval_withDeadline]
  generalize w.now + t.ticks = tick
  rcases x.eval { c with deadlines := tick :: c.deadlines } w with ⟨(d | _) | r, w₁⟩
  · by_cases hd : d = tick
    · simp [hd]
    · simp [hd]
  · rfl
  · rfl

/-- **A program that waits for a reply, in the time that it may take.** What the program does is
told by what it does under any deadlines. -/
theorem eval_withTimeout_arrival {limit : Option Duration} {x : Run σ (Except Error α)}
    {c : Scope σ} {w : RunState σ} (reply : Reply α) (after : Nat → RunState σ)
    (h : ∀ ds, x.eval { c with deadlines := ds } w =
      ((reply.arrival ds w.now).1, after (reply.arrival ds w.now).2)) :
    (withTimeout limit x).eval c w =
      (((reply.within limit).arrival c.deadlines w.now).1,
        after ((reply.within limit).arrival c.deadlines w.now).2) := by
  cases limit with
  | none => exact h c.deadlines
  | some t =>
    rw [← reply.arrival_within t c.deadlines w.now, eval_withTimeout_some, h]
    generalize w.now + t.ticks = tick
    rcases reply.arrival (tick :: c.deadlines) w.now with ⟨(d | _) | r, now⟩
    · rfl
    · rfl
    · rfl

/-! ## Statements -/

namespace Session

/-- **Statements of the session get to the driver**: it is on no transaction, or on one that is open
and whose lock nobody holds. -/
def IsOpen (s : Session σ) (w : RunState σ) : Prop :=
  ∀ id, s.transaction = some id → (w.handles id).isOpen = true ∧ (w.handles id).locked = false

variable {s : Session σ} {c : Scope σ} {w : RunState σ}

/-- A statement that gets to the driver, and the answer. -/
theorem eval_send_eq (hs : s.IsOpen w) (step : Bool → Driver σ → σ → Turn σ (Reply α)) :
    let turn := step s.transaction.isSome c.driver (w.states s.index)
    let arrival := turn.outcome.arrival c.deadlines w.now
    (s.send step).eval c w = (arrival.1, w.after s.index turn arrival.2) := by
  intro turn arrival
  have hanswer (inTransaction : Bool) (w : RunState σ) :
      Run.eval (do await (← call s.index (step inTransaction))) c w =
        let turn := step inTransaction c.driver (w.states s.index)
        ((turn.outcome.arrival c.deadlines w.now).1,
          w.after s.index turn (turn.outcome.arrival c.deadlines w.now).2) := by
    rw [eval_bind, eval_call]
    exact eval_await_eq _ c _
  rw [send]
  cases hid : s.transaction with
  | none =>
    simp only [turn, arrival, hid] at hanswer ⊢
    exact hanswer false w
  | some id =>
    obtain ⟨hopen, hlocked⟩ := hs id hid
    let h := w.handles id
    let w₁ : RunState σ := { w with handles := update w.handles id { h with locked := true } }
    have hrequire : ({ h with locked := true } : Handle).requireOpen = .ok () := if_pos hopen
    refine (eval_holdingLock _ c (h := h) rfl hlocked
      (?_ : _ = (arrival.1, w₁.after s.index turn arrival.2))).trans ?_
    · rw [eval_bind, eval_handleOf]
      simp only [update_same, hrequire, turn, arrival, hid]
      exact hanswer true w₁
    -- Given back, the lock leaves the handle as it was.
    · have hreleased : { h with locked := false } = w.handles id := by
        simp only [h, ← hlocked]
      simp [w₁, RunState.after, Handle.release, hreleased]

/-- **A statement in the time that it may take.** -/
theorem eval_statement_eq (hs : s.IsOpen w) (mode : StatementMode) (q : Sql.Query)
    (step : Bool → Driver σ → σ → Turn σ (Reply α)) :
    let turn := step s.transaction.isSome c.driver (w.states s.index)
    let arrival := (turn.outcome.within s.database.settings.timeout).arrival c.deadlines w.now
    (s.statement mode q step).eval c w = (arrival.1,
      { w.after s.index turn arrival.2 with
        trace := w.trace ++ [.statement mode s.transaction.isSome q] }) := by
  intro turn arrival
  let w₁ : RunState σ :=
    { w with trace := w.trace ++ [.statement mode s.transaction.isSome q] }
  rw [statement, eval_bind, eval_report]
  exact eval_withTimeout_arrival (w := w₁) turn.outcome (w₁.after s.index turn) fun ds =>
    eval_send_eq (c := { c with deadlines := ds }) (w := w₁) hs step

/-- A statement on a transaction that is over is refused at once. -/
theorem eval_statement_over {id db : Nat} {done : Bool} (hid : s.transaction = some id)
    (hw : w.handles id = ⟨db, false, done, false⟩) (mode : StatementMode) (q : Sql.Query)
    (step : Bool → Driver σ → σ → Turn σ (Reply α)) :
    (s.statement mode q step).eval c w = (.ok (.error .transactionDone),
      { w with trace := w.trace ++ [.statement mode s.transaction.isSome q] }) := by
  let w₁ : RunState σ :=
    { w with trace := w.trace ++ [.statement mode s.transaction.isSome q] }
  have hsend (c : Scope σ) : (s.send step).eval c w₁ = (.ok (.error .transactionDone), w₁) :=
    eval_send_gone (w := w₁) hid hw step
  rw [statement, eval_bind, eval_report]
  show (withTimeout s.database.settings.timeout (s.send step)).eval c w₁ = _
  cases s.database.settings.timeout with
  | none => exact hsend c
  | some t => rw [eval_withTimeout_some, hsend]

end Session

/-! ## Settings of the time -/

/-- The database with a limit of time for statements, or without one. -/
def Database.timed (d : Database σ) (limit : Option Duration) : Database σ :=
  { d with settings := { d.settings with timeout := limit } }

/-- The session with a limit of time for statements, or without one. -/
def Session.timed (s : Session σ) (limit : Option Duration) : Session σ :=
  { s with database := s.database.timed limit }

end EntityMapper

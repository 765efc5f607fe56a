import EntityMapper.Proofs.Run.Pace

/-!
# Transactions at the pace of a limit

Transactions that begin in time begin as they do without a limit. Ending one takes no notice of any
limit, and so does whatever a body of work comes to.

## Main results

* `programs_beginTransaction`: beginning a transaction, with the limit and without it
* `programs_commit`, `programs_rollback`, `programs_abandon`: ending one
* `programs_doTransaction`, `programs_doAmbient`, `programs_transactionBlock`: bodies of work
-/

namespace EntityMapper

variable {σ α β : Type}

/-! ## Beginning -/

/-- What waiting for the beginning of a transaction comes to: if it is interrupted, the driver
forgoes the transaction. -/
def begunOrForgone (d : Driver σ) (index : Nat) (w : RunState σ) (turn : Turn σ (Reply Unit)) :
    Except Interrupt (Except Error Unit) × Nat → Except Interrupt (Except Error Unit) × RunState σ
  | (.ok r, now) => (.ok r, w.after index turn now)
  | (.error i, now) => (.error i, w.after index { turn with next := d.forgo turn.next } now)

section Beginning

variable {index : Nat} {options : TransactionOptions} {c : Scope σ} {w : RunState σ}
  {delay : Duration} {r : Except Error Unit}
  (h : (c.driver.beginTransaction options (w.states index)).outcome = .answered delay r)
include h

/-- Waiting for the beginning of a transaction that is answered, under any deadlines. -/
theorem eval_awaitBeginning_eq (ds : List Nat) :
    (awaitBeginning index options).eval { c with deadlines := ds } w =
      begunOrForgone c.driver index w (c.driver.beginTransaction options (w.states index))
        ((Reply.answered delay r).arrival ds w.now) := by
  rw [awaitBeginning, eval_bind, eval_call]
  generalize c.driver.beginTransaction options (w.states index) = turn at h ⊢
  simp only [h, eval_onInterrupt, eval_await_eq]
  rcases harrival : (Reply.answered delay r).arrival ds w.now with ⟨i | r', now⟩
  · have hnow : (Reply.answered delay r).arrival ds (w.after index turn w.now).now =
        (.error i, now) := harrival
    simp only [hnow, changeState, eval_bind, eval_read, eval_modify, begunOrForgone]
    simp [RunState.after]
  · have hnow : (Reply.answered delay r).arrival ds (w.after index turn w.now).now =
        (.ok r', now) := harrival
    simp only [hnow]
    rfl

/-- **A transaction that begins in time** begins as it does without a limit. -/
theorem eval_awaitBeginning_timed {t : Duration} (ht : delay.ticks ≤ t.ticks) :
    (withTimeout (some t) (awaitBeginning index options)).eval c w =
      (awaitBeginning index options).eval c w := by
  have hplain : (awaitBeginning index options).eval c w = _ := eval_awaitBeginning_eq h c.deadlines
  obtain ⟨tick, htick⟩ : ∃ tick, tick = w.now + t.ticks := ⟨_, rfl⟩
  have hle : w.now + delay.ticks ≤ tick := htick ▸ Nat.add_le_add_left ht _
  rw [eval_withTimeout_some, ← htick, eval_awaitBeginning_eq h, hplain, Reply.arrival,
    Reply.arrival, earliestBefore_cons_of_le hle]
  cases hd : earliestBefore (w.now + delay.ticks) c.deadlines with
  | none => rfl
  | some d =>
    -- Whoever interrupts it does so before the limit.
    have hne : d ≠ tick := ((lt_of_earliestBefore hd).trans_le hle).ne
    simp [begunOrForgone, hne]

end Beginning

namespace Pace

variable {P : Pace σ}

/-- The two drivers begin transactions alike. -/
theorem timely_beginTransaction (P : Pace σ) :
    P.timely.beginTransaction = P.driver.beginTransaction := by rw [P.rest]

theorem timely_forgo (P : Pace σ) : P.timely.forgo = P.driver.forgo := by rw [P.rest]

theorem timely_commit (P : Pace σ) : P.timely.commit = P.driver.commit := by rw [P.rest]

theorem timely_rollback (P : Pace σ) : P.timely.rollback = P.driver.rollback := by rw [P.rest]

theorem timely_abandon (P : Pace σ) : P.timely.abandon = P.driver.abandon := by rw [P.rest]

theorem programs_awaitBeginning (index : Nat) (options : TransactionOptions) :
    P.Programs (awaitBeginning index options) (awaitBeginning index options) := by
  refine (programs_call index (congrFun P.timely_beginTransaction options)
    (P.keeps.beginTransaction options)).bind fun reply => ?_
  cases reply with
  | waiting => exact programs_waitForever
  | answered delay r =>
    refine programs_onInterrupt (programs_await _) (.read_bind fun c hc => ?_)
    have hforgo : (P.scope c).driver.forgo = c.driver.forgo := by
      rw [hc]
      exact P.timely_forgo
    rw [hforgo]
    exact programs_changeState index (hc ▸ P.keeps.forgo)

/-- **Beginning a transaction**, with the limit and without it. -/
theorem programs_beginTransaction {index : Nat} (hindex : P.covers index) (d : Database σ)
    (options : TransactionOptions) :
    P.Programs (beginTransaction index (d.timed (some P.limit)) options)
      (beginTransaction index (d.timed none) options) := by
  have hbegun : P.Programs (withTimeout (some P.limit) (awaitBeginning index options))
      (awaitBeginning index options) := by
    intro c w hc hw
    obtain ⟨delay, r, hreply, hlimit⟩ := P.begins options _ (hw.holds index hindex)
    rw [← hc] at hreply
    rw [eval_awaitBeginning_timed hreply hlimit]
    exact programs_awaitBeginning index options c w hc hw
  exact hbegun.bind_ok (fun _ => .pure _) fun _ =>
    (programs_openHandle index).bind fun id => .pure _

/-! ## Ending -/

/-- Ending a transaction takes no notice of a limit. -/
theorem programs_finish (id : Nat) {step : Driver σ → σ → Turn σ (Reply Unit)}
    (hstep : step P.timely = step P.driver)
    (hkeeps : ∀ s, P.holds s → P.holds (step P.driver s).next) :
    P.Programs (finish id step) (finish id step) := by
  refine .handleOf_bind fun h hh => ?_
  simp only [hh, Bool.false_eq_true, if_false]
  refine (programs_setHandle id (h := h.take.2) hh).bind fun _ => ?_
  cases h.take.1 with
  | error e => exact .pure _
  | ok u => exact (programs_call h.database hstep hkeeps).bind fun reply => programs_await reply

theorem programs_commit (id : Nat) : P.Programs (commit id) (commit id) :=
  programs_finish id P.timely_commit P.keeps.commit

theorem programs_rollback (id : Nat) : P.Programs (rollback id) (rollback id) := by
  refine (programs_finish id P.timely_rollback P.keeps.rollback).bind fun r => ?_
  cases r with
  | error e => exact (programs_report _).bind fun _ => .pure _
  | ok u => exact .pure _

theorem programs_forM_report (ns : List Notice) :
    P.Programs (ns.forM report : Run σ Unit) (ns.forM report) := by
  induction ns with
  | nil => exact .pure ()
  | cons n ns ih => exact (programs_report n).bind fun _ => ih

theorem programs_abandon (id : Nat) : P.Programs (abandon id) (abandon id) := by
  refine .handleOf_bind fun h hh => ?_
  refine (programs_setHandle id (h := h.drop.2) hh).bind fun _ => ?_
  show P.Programs (if h.isOpen then _ else _) (if h.isOpen then _ else _)
  split
  · refine (programs_report _).bind fun _ => .read_bind fun c _ => ?_
    exact (programs_call _ (congrFun P.timely_abandon c.running)
      (P.keeps.abandon c.running)).bind programs_forM_report
  · exact .pure ()

theorem programs_isDone (id : Nat) : P.Programs (isDone id : Run σ Bool) (isDone id) :=
  .handleOf_bind fun h _ => .pure h.done

theorem programs_currentTransaction :
    P.Programs (currentTransaction : Run σ (Option Nat)) currentTransaction := by
  refine .read_bind fun c _ => ?_
  rw [show (P.scope c).ambient = c.ambient from rfl]
  cases c.ambient with
  | none => exact .pure none
  | some id => exact (programs_isDone id).bind fun b => .pure _

/-! ## Bodies of work -/

theorem programs_settle (id : Nat) (ending : Ending α) :
    P.Programs (settle id ending) (settle id ending) :=
  Programs.congruence.settle (programs_isDone id) (programs_commit id) (programs_rollback id) ending

theorem programs_settleBlock (id : Nat) (ending : Ending α) :
    P.Programs (settleBlock id ending) (settleBlock id ending) := by
  cases ending with
  | ok a => exact (programs_commit id).bind_ok (fun _ => .pure _) fun _ => .pure _
  | error e => exact (programs_rollback id).bind fun r => .pure _
  | panic p => exact .pure _

section Bodies

variable {index : Nat} (hindex : P.covers index) (d : Database σ) (options : TransactionOptions)
  {body body' : Nat → Run σ (Ending α × β)} (hbody : ∀ id, P.Programs (body id) (body' id))
include hindex hbody

/-- **A body in a transaction of its own**, with the limit and without it. -/
theorem programs_doTransaction :
    P.Programs (doTransaction index (d.timed (some P.limit)) options body)
      (doTransaction index (d.timed none) options body') := by
  refine (programs_beginTransaction hindex d options).bind_ok (fun _ => .pure _) fun id => ?_
  refine programs_andFinally ((hbody id).bind fun p => ?_) (programs_abandon id)
  exact (programs_settle id p.1).bind fun ending => .pure _

/-- **A body in the current transaction**, or in one that becomes current. -/
theorem programs_doAmbient :
    P.Programs (doAmbient index (d.timed (some P.limit)) options body)
      (doAmbient index (d.timed none) options body') := by
  refine programs_currentTransaction.bind fun current => ?_
  cases current with
  | some id => exact (hbody id).bind fun p => .pure _
  | none =>
    exact programs_doTransaction hindex d options fun id =>
      .withReader (fun _ => rfl) (fun _ => rfl) (hbody id)

/-- **A body whose transaction is ended without asking** whether it still is open. -/
theorem programs_transactionBlock :
    P.Programs (transactionBlock index (d.timed (some P.limit)) options body)
      (transactionBlock index (d.timed none) options body') := by
  refine (programs_beginTransaction hindex d options).bind_ok (fun _ => .pure _) fun id => ?_
  refine programs_andFinally ((hbody id).bind fun p => ?_) (programs_abandon id)
  exact (programs_settleBlock id p.1).bind fun ending => .pure _

end Bodies

end Pace

end EntityMapper

import EntityMapper.Proofs.Transaction.Steps

/-!
# Drivers that record their calls

A driver that keeps, beside its own state, what it was called for and what became of each call. It
behaves as the driver that it is made of.

## Main definitions

* `DriverCall`: a call of a driver, with what became of it
* `Driver.recording d`: the driver `d` with a record of its calls
* `Driver.Answers d`: the driver leaves no call without an answer

## Main results

* `beginTransaction_begun`: the record of a transaction that has begun
-/

namespace EntityMapper

variable {σ α : Type}

/-- **A call of a driver**, with what became of it. -/
inductive DriverCall where
  | query (q : Sql.Query) (reply : Reply (List Row))
  | execute (q : Sql.Query) (reply : Reply ExecResult)
  | beginTransaction (options : TransactionOptions) (reply : Reply Unit)
  | forgo
  | commit (reply : Reply Unit)
  | rollback (reply : Reply Unit)
  | abandon

namespace DriverCall

/-- The call carries a statement. -/
def IsStatement : DriverCall → Prop
  | query _ _ | execute _ _ => True
  | _ => False

/-- The call commits or rolls back, and its caller waits for the reply. -/
def IsEnd : DriverCall → Prop
  | commit _ | rollback _ => True
  | _ => False

end DriverCall

/-- A step with an entry in the record. -/
def Turn.recorded (t : Turn σ α) (calls : List DriverCall) (entry : α → DriverCall) :
    Turn (σ × List DriverCall) α :=
  ⟨t.outcome, t.events, (t.next, calls ++ [entry t.outcome])⟩

/-- **A driver with a record of its calls.** -/
def Driver.recording (d : Driver σ) : Driver (σ × List DriverCall) where
  query b q s := (d.query b q s.1).recorded s.2 (.query q)
  execute b q s := (d.execute b q s.1).recorded s.2 (.execute q)
  beginTransaction o s := (d.beginTransaction o s.1).recorded s.2 (.beginTransaction o)
  forgo s := (d.forgo s.1, s.2 ++ [.forgo])
  commit s := (d.commit s.1).recorded s.2 .commit
  rollback s := (d.rollback s.1).recorded s.2 .rollback
  abandon b s := (d.abandon b s.1).recorded s.2 fun _ => .abandon

/-- **The driver leaves no call without an answer.** -/
structure Driver.Answers (d : Driver σ) : Prop where
  query : ∀ b q s, (d.query b q s).outcome ≠ .waiting
  execute : ∀ b q s, (d.execute b q s).outcome ≠ .waiting
  beginTransaction : ∀ o s, (d.beginTransaction o s).outcome ≠ .waiting
  commit : ∀ s, (d.commit s).outcome ≠ .waiting
  rollback : ∀ s, (d.rollback s).outcome ≠ .waiting

/-- The scope with a record of the calls of its driver. -/
def Scope.recording (c : Scope σ) : Scope (σ × List DriverCall) :=
  ⟨c.driver.recording, c.ambient, c.enclosing, c.deadlines, c.running⟩

/-- The calls that the driver of a database has had. -/
def RunState.calls (w : RunState (σ × List DriverCall)) (i : Nat) : List DriverCall :=
  (w.states i).2

@[simp] theorem calls_after (w : RunState (σ × List DriverCall)) (i : Nat)
    (turn : Turn (σ × List DriverCall) α) (now : Nat) :
    (w.after i turn now).calls i = turn.next.2 := by
  simp [RunState.calls, RunState.after]

/-- **A transaction has begun**: its handle is open, and the record goes on with its beginning. -/
theorem beginTransaction_begun {index id : Nat} {db : Database (σ × List DriverCall)}
    {options : TransactionOptions} {c : Scope σ} {w w' : RunState (σ × List DriverCall)}
    (hbegun : (beginTransaction index db options).eval c.recording w = (.ok (.ok id), w')) :
    (∃ delay, w'.calls index =
      w.calls index ++ [.beginTransaction options (.answered delay (.ok ()))]) ∧
    w'.handles id = Handle.opened index := by
  obtain ⟨delay, now, houtcome, rfl, rfl⟩ := of_eval_beginTransaction hbegun
  refine ⟨⟨delay, ?_⟩, update_same ..⟩
  show (w.after index _ now).calls index = _
  rw [calls_after, ← houtcome]
  rfl

end EntityMapper

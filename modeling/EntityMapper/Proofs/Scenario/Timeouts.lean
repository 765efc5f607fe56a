import EntityMapper.Proofs.Driver.Recording
import EntityMapper.Proofs.Scenario.Pace
import EntityMapper.Proofs.Session.Forwarding

/-!
# A limit of time touches only slow statements

On databases of scripted drivers with a limit of time for statements, a scenario goes as it does
without the limit if slow statements fail in the driver when the time is over. A statement that is
quick comes to what it comes to without the limit. One that is slow is given up at the limit: the
driver has received it once, and has used its answer up; transactions and their locks are as they
were. A body of work that ends with that error is followed by a rollback, for which there is no
limit.

## Main definitions

* `Scripted.inTime t`, `Scripted.quick t covers`: the paces of scripted drivers
* `RunState.timedOut w s mode q t`: the state after a statement that was given up
* `SentInVain s q w u`: what an operation leaves whose statement was given up
* `Site.Impartial site`: databases whose middlewares cannot tell drivers apart
* `TouchesSlowOnly t`: what a limit does

## Main results

* `Session.eval_statement_slow`: slow statements are given up
* `eval_ask_slow`, `eval_ask_slow_plain`: operations with slow statements
* `doTransaction_rolledBack`: a body that ends with an error is followed by one rollback
* `limit_touchesSlowOnly`: a limit touches only slow statements
-/

namespace EntityMapper

open EntityMapper.Sql

variable {σ α β : Type}

/-! ## The paces of scripted drivers -/

namespace Scripted

/-- The delay of a scripted driver stays as it is, whatever it is called for. -/
theorem keeps {holds : State → Prop} (h : ∀ q s, holds s → holds (s.receive q)) :
    driver.Keeps holds where
  query _ q s := h q s
  execute _ q s := h q s
  beginTransaction _ _ hs := hs
  forgo _ hs := hs
  commit _ hs := hs
  rollback _ hs := hs
  abandon _ _ hs := hs

/-- Transactions begin at once. -/
theorem begins (t : Duration) (o : TransactionOptions) (s : State) :
    ∃ delay r, (driver.beginTransaction o s).outcome = .answered delay r ∧
      delay.ticks ≤ t.ticks := by
  refine ⟨⟨0⟩, _, rfl, ?_⟩
  have hzero : (⟨0⟩ : Duration).ticks = 0 := rfl
  rw [hzero]
  exact Nat.zero_le _

/-- **Whatever the delay**, answers that come too late are given up. -/
def inTime (t : Duration) : Pace State where
  limit := t
  driver := driver
  timely := driver.within (some t)
  covers _ := True
  holds _ := True
  keeps := keeps fun _ _ => id
  query _ _ _ _ := rfl
  execute _ _ _ _ := rfl
  rest := rfl
  begins o s _ := begins t o s

/-- A quick statement is not given up. -/
theorem within_statement {read : Entry → Except Error α} {t : Duration} {s : State}
    (h : s.faults.delay.ticks ≤ t.ticks) (q : Query) :
    (s.statement read q).within (some t) = s.statement read q := by
  simp only [Turn.within, State.statement, Reply.within_of_le h]

/-- **If statements are quick**, nothing is given up. -/
def quick (t : Duration) (covers : Nat → Prop) : Pace State where
  limit := t
  driver := driver
  timely := driver
  covers := covers
  holds s := s.faults.delay.ticks ≤ t.ticks
  keeps := keeps fun _ _ => id
  query _ q _ h := (within_statement h q).symm
  execute _ q _ h := (within_statement h q).symm
  rest := rfl
  begins o s _ := begins t o s

end Scripted

/-! ## Slow statements -/

/-- Where transactions are as they were, the session is as open as it was. -/
theorem Session.IsOpen.congr {s : Session σ} {w v : RunState σ} (h : s.IsOpen w)
    (hv : v.handles = w.handles) : s.IsOpen v := fun id hid => by
  rw [hv]
  exact h id hid

/-- **The state after a statement that was given up** at a tick: the driver has received it. All
else is as it was, transactions and their locks included. -/
def RunState.timedOut (w : RunState Scripted.State) (s : Session Scripted.State)
    (mode : StatementMode) (q : Query) (tick : Nat) : RunState Scripted.State :=
  { w with
    now := tick
    states := update w.states s.index ((w.states s.index).receive q)
    events := w.events ++ [⟨s.index, q.sql⟩]
    trace := w.trace ++ [.statement mode s.transaction.isSome q] }

section TimedOut

variable (w : RunState Scripted.State) (s : Session Scripted.State) (mode : StatementMode)
  (q : Query) (tick : Nat)

@[simp] theorem timedOut_now : (w.timedOut s mode q tick).now = tick := rfl

@[simp] theorem timedOut_states : (w.timedOut s mode q tick).states =
    update w.states s.index ((w.states s.index).receive q) := rfl

@[simp] theorem timedOut_handles : (w.timedOut s mode q tick).handles = w.handles := rfl

@[simp] theorem timedOut_begun : (w.timedOut s mode q tick).begun = w.begun := rfl

end TimedOut

/-- **What an operation leaves whose statement was given up**: the driver has received it once,
which has used its answer up, and transactions and their locks are as they were. -/
structure SentInVain (s : Session Scripted.State) (q : Query) (w u : RunState Scripted.State) :
    Prop where
  received : u.states = update w.states s.index ((w.states s.index).receive q)
  handles : u.handles = w.handles
  begun : u.begun = w.begun

namespace SentInVain

variable {s : Session Scripted.State} {q : Query} {w v u : RunState Scripted.State}

/-- A statement is given up in a state that is like the one before. -/
theorem timedOut (hstates : v.states = w.states) (hhandles : v.handles = w.handles)
    (hbegun : v.begun = w.begun) (mode : StatementMode) (tick : Nat) :
    SentInVain s q w (v.timedOut s mode q tick) where
  received := by rw [timedOut_states, hstates]
  handles := hhandles
  begun := hbegun

/-- What leaves databases alone may follow. -/
theorem trans (h : SentInVain s q w v) (h' : Untouched v u) : SentInVain s q w u :=
  ⟨h'.states.trans h.received, h'.handles.trans h.handles, h'.begun.trans h.begun⟩

/-- The session is as open as before. -/
theorem isOpen (h : SentInVain s q w u) (hs : s.IsOpen w) : s.IsOpen u :=
  hs.congr h.handles

end SentInVain

namespace Session

variable {s : Session Scripted.State} {c : Scope Scripted.State} {w w₁ : RunState Scripted.State}
  {t : Duration}

section Statements

variable (hlimit : s.database.settings.timeout = some t) (hs : s.IsOpen w)
  (hds : earliestBefore (w.now + t.ticks) c.deadlines = none)
  (hslow : t.ticks < (w.states s.index).faults.delay.ticks)
include hlimit hs hds hslow

/-- **Slow statements are given up** at the limit. -/
theorem eval_statement_slow (read : Scripted.Entry → Except Error α) {q : Query}
    {step : Bool → Driver Scripted.State → Scripted.State → Turn Scripted.State (Reply α)}
    (hstep : ∀ b st, step b c.driver st = st.statement read q) (mode : StatementMode) :
    (s.statement mode q step).eval c w =
      (.ok (.error (.timeout t)), w.timedOut s mode q (w.now + t.ticks)) := by
  have harrival : (((w.states s.index).statement read q).outcome.within (some t)).arrival
      c.deadlines w.now = (.ok (.error (.timeout t)), w.now + t.ticks) := by
    rw [Scripted.State.statement, Reply.within_of_lt hslow]
    exact Reply.arrival_of_none hds _
  have hafter (tick : Nat) :
      ({ w.after s.index ((w.states s.index).statement read q) tick with
        trace := w.trace ++ [.statement mode s.transaction.isSome q] } : RunState Scripted.State) =
      w.timedOut s mode q tick := rfl
  have heval := eval_statement_eq (c := c) hs mode q step
  simp only [hstep, hlimit, harrival] at heval
  rw [heval, hafter]

variable (hc : c.driver = Scripted.driver)
include hc

theorem eval_queryRows_slow (q : Query) :
    (s.queryRows q).eval c w =
      (.ok (.error (.timeout t)), w.timedOut s .query q (w.now + t.ticks)) :=
  eval_statement_slow hlimit hs hds hslow (Scripted.Entry.asRows q)
    (fun _ _ => by rw [hc]; rfl) .query

theorem eval_execQuery_slow (q : Query) :
    (s.execQuery q).eval c w =
      (.ok (.error (.timeout t)), w.timedOut s .exec q (w.now + t.ticks)) :=
  eval_statement_slow hlimit hs hds hslow (Scripted.Entry.asExec q)
    (fun _ _ => by rw [hc]; rfl) .exec

/-- A compiled statement that is slow, whatever is asked for. -/
theorem eval_answer_slow (e : Entity) (d : Demand) (m : Model) (q : Query) :
    ∃ mode, (s.answer e d m q).eval c w =
      (.ok (.error (.timeout t)), w.timedOut s mode q (w.now + t.ticks)) := by
  have hrows := eval_queryRows_slow hlimit hs hds hslow hc q
  have hexec := eval_execQuery_slow hlimit hs hds hslow hc q
  cases d with
  | exec => exact ⟨.exec, by rw [answer, eval_bind, hexec]; rfl⟩
  | first => exact ⟨.query, by rw [answer, eval_bind, hrows]; rfl⟩
  | all => exact ⟨.query, by rw [answer, eval_bind, hrows]; rfl⟩

end Statements

section Operations

variable {e : Entity} {stmt : Statement} {d : Demand} {m : Model} {q : Query}
  (hlimit : s.database.settings.timeout = some t) (hs : s.IsOpen w) (hds : c.deadlines = [])
  (hslow : t.ticks < (w.states s.index).faults.delay.ticks) (hc : c.driver = Scripted.driver)
  (hstmt : ∀ columns upsert, d = .exec → stmt ≠ .insert ⟨[], columns, upsert⟩)
  (hm : (s.model e).eval c w = (.ok (.ok m), w₁)) (hq : s.compiled e stmt m = .ok q)
include hlimit hs hds hslow hc hstmt hm hq

/-- **An operation whose statement is slow**, through middlewares that only forward. -/
theorem eval_ask_slow {ds : List (Chooser (Run Scripted.State))}
    (hms : s.database.middlewares = ds.map Chooser.middleware)
    (hforwards : ∀ d ∈ ds, d.Forwards s e stmt) :
    ∃ u, (s.ask e stmt d).eval c w = (.ok (.error (.timeout t)), u) ∧ SentInVain s q w u := by
  have hstart : Settled s e stmt m ⟨none, w₁⟩ := ⟨lookup?_of_modelOf hm, nofun⟩
  obtain ⟨v, hv, hforwarded⟩ := hstart.forwarded hforwards hq c
  rw [← hms] at hforwarded
  obtain ⟨hstates, hhandles, hbegun⟩ := of_eval_model hm
  have hvstates : v.states = w.states := hv.states.trans hstates
  have hvhandles : v.handles = w.handles := hv.handles.trans hhandles
  have hvbegun : v.begun = w.begun := hv.begun.trans hbegun
  have hvds : earliestBefore (v.now + t.ticks) c.deadlines = none := by
    rw [hds, earliestBefore_nil]
  obtain ⟨mode, hanswer⟩ := eval_answer_slow hlimit (hs.congr hvhandles) hvds (hvstates ▸ hslow) hc
    e d m q
  obtain ⟨u, hask, hu⟩ := (hforwarded d).eval_ask hstmt hm hanswer
  exact ⟨u, hask, (SentInVain.timedOut hvstates hvhandles hvbegun mode _).trans hu⟩

end Operations

/-- Looking for a model takes no time. -/
theorem now_of_eval_model {e : Entity} {r : Except Error Model}
    (h : (s.model e).eval c w = (.ok r, w₁)) : w₁.now = w.now := by
  rw [model, eval_modelOf] at h
  cases hl : (w.registries s.registry).lookup? e with
  | some m =>
    rw [hl] at h
    cases h
    rfl
  | none =>
    simp only [hl, eval_registerEntity] at h
    cases hr : (w.registries s.registry).register e [] with
    | error err =>
      rw [hr] at h
      cases h
      rfl
    | ok p =>
      rw [hr] at h
      cases h
      rfl

/-- **An operation whose statement is slow**, without middlewares, ends at the limit. -/
theorem eval_ask_slow_plain {e : Entity} {stmt : Statement} {d : Demand} {m : Model} {q : Query}
    (hlimit : s.database.settings.timeout = some t) (hs : s.IsOpen w)
    (hds : earliestBefore (w.now + t.ticks) c.deadlines = none)
    (hslow : t.ticks < (w.states s.index).faults.delay.ticks) (hc : c.driver = Scripted.driver)
    (hstmt : ∀ columns upsert, d = .exec → stmt ≠ .insert ⟨[], columns, upsert⟩)
    (hm : (s.model e).eval c w = (.ok (.ok m), w₁)) (hq : s.compiled e stmt m = .ok q)
    (hms : s.database.middlewares = []) :
    ∃ u, (s.ask e stmt d).eval c w = (.ok (.error (.timeout t)), u) ∧ SentInVain s q w u ∧
      u.now = w.now + t.ticks := by
  obtain ⟨v, hbuild, hv⟩ := s.eval_build_kept (c := c) stmt (lookup?_of_modelOf hm)
  rw [hq] at hbuild
  obtain ⟨hstates, hhandles, hbegun⟩ := of_eval_model hm
  have hvnow : v.now = w.now := hv.now.trans (now_of_eval_model hm)
  have hvstates : v.states = w.states := hv.states.trans hstates
  have hvhandles : v.handles = w.handles := hv.handles.trans hhandles
  have hvbegun : v.begun = w.begun := hv.begun.trans hbegun
  obtain ⟨mode, hanswer⟩ := eval_answer_slow hlimit (hs.congr hvhandles)
    (by rw [hvnow]; exact hds) (hvstates ▸ hslow) hc e d m q
  rw [hvnow] at hanswer
  generalize w.now + t.ticks = tick at hanswer ⊢
  have hquery : Reaches c (s.callOf e stmt m).query ⟨none, w₁⟩ (.ok q) ⟨some q, v⟩ :=
    reaches_query_built hbuild
  have hlift : Reaches c (liftM (s.answer e d m q) : Part Scripted.State (Except Error Output))
      ⟨some q, v⟩ (.error (.timeout t)) ⟨some q, v.timedOut s mode q tick⟩ := by
    rw [Reaches, outcome_lift, hanswer]
  have hperform : Reaches c (pipeline s.database.middlewares (s.perform e d) (s.callOf e stmt m))
      ⟨none, w₁⟩ (.error (.timeout t)) ⟨some q, v.timedOut s mode q tick⟩ := by
    rw [hms]
    exact hquery.bind hlift
  refine ⟨v.timedOut s mode q tick, ?_, .timedOut hvstates hvhandles hvbegun mode tick, rfl⟩
  rw [s.ask_eq e stmt d hstmt, eval_map, eval_operate_of_reaches hm hperform]
  rfl

end Session

/-! ## Rolling back -/

section Rollback

variable {index id : Nat} {c : Scope σ} {w w₁ w₂ : RunState σ} {delay : Duration}
  {r : Except Error Unit}

/-- **Ending an open transaction takes as long as the driver takes**: there is no limit for it. -/
theorem eval_finish_answered (hw : w.handles id = Handle.opened index) (hds : c.deadlines = [])
    {step : Driver σ → σ → Turn σ (Reply Unit)}
    (hreply : (step c.driver (w.states index)).outcome = .answered delay r) :
    (finish id step).eval c w = (.ok r,
      { w.after index (step c.driver (w.states index)) (w.now + delay.ticks) with
        handles := update w.handles id ⟨index, false, true, false⟩ }) := by
  let w₁ : RunState σ := { w with handles := update w.handles id ⟨index, false, true, false⟩ }
  have harrival : (Reply.answered delay r).arrival c.deadlines w.now =
      (.ok r, w.now + delay.ticks) := Reply.arrival_of_none (by rw [hds, earliestBefore_nil]) r
  have hanswer : Run.eval (do await (← call index step)) c w₁ =
      (.ok r, w₁.after index (step c.driver (w.states index)) (w.now + delay.ticks)) := by
    rw [eval_bind, eval_call]
    show (await (step c.driver (w.states index)).outcome).eval c
      (w₁.after index (step c.driver (w.states index)) w.now) = _
    rw [hreply, eval_await_eq]
    have hnow : (w₁.after index (step c.driver (w.states index)) w.now).now = w.now := rfl
    rw [hnow, harrival]
    rfl
  rw [finish, eval_bind, eval_handleOf, hw]
  exact hanswer

/-- **A body of work that ends with an error is followed by one rollback**, however long that
takes. -/
theorem doTransaction_rolledBack {d : Database σ} {options : TransactionOptions}
    {body : Nat → Run σ (Ending α × β)} {e : Error} {b : β}
    (hbegun : (beginTransaction index d options).eval c w = (.ok (.ok id), w₁))
    (hbody : (body id).eval c w₁ = (.ok (.error e, b), w₂))
    (hopen : w₂.handles id = Handle.opened index) (hds : c.deadlines = [])
    (hreply : (c.driver.rollback (w₂.states index)).outcome = .answered delay r) :
    ∃ trace, (doTransaction index d options body).eval c w =
      (.ok (afterRollback e false (.error e) r, some b),
        { w₂.after index (c.driver.rollback (w₂.states index)) (w₂.now + delay.ticks) with
          handles := update w₂.handles id ⟨index, false, true, false⟩
          trace := trace }) := by
  obtain ⟨trace, hrollback⟩ := eval_rollback (eval_finish_answered hopen hds hreply)
  obtain ⟨tick, htick⟩ : ∃ tick, tick = w₂.now + delay.ticks := ⟨_, rfl⟩
  rw [← htick] at hrollback ⊢
  refine ⟨trace, ?_⟩
  let u : RunState σ :=
    { w₂.after index (c.driver.rollback (w₂.states index)) tick with
      handles := update w₂.handles id ⟨index, false, true, false⟩
      trace := trace }
  have hsettle : (settle id (.error e : Ending α)).eval c w₂ =
      (.ok (afterRollback e false (.error e) r), u) := by
    unfold settle
    rw [eval_bind, eval_isDone, hopen]
    show Run.eval (rollback id >>= fun r => pure (afterRollback e false (.error e) r)) c w₂ = _
    rw [eval_bind, hrollback]
    rfl
  have habandon : (abandon id).eval c u = (.ok (), u) := eval_abandon_gone (update_same ..)
  rw [doTransaction, eval_bind, hbegun]
  refine eval_andFinally ?_ habandon
  rw [eval_bind, hbody]
  show Run.eval (settle id (.error e) >>= fun ending => pure (ending, some b)) c w₂ = _
  rw [eval_bind, hsettle]
  rfl

end Rollback

/-! ## What a limit does -/

/-- **The middlewares of the databases cannot tell drivers apart** that differ only in what becomes
of slow statements. -/
def Scenario.Site.Impartial (site : Scenario.Site σ) : Prop :=
  ∀ i, ∀ a ∈ (site.database i).middlewares, ∀ P : Pace σ, a.Impartial P

/-- Databases as they are set up in scenarios. -/
theorem Scenario.siteOf_impartial (fallback : σ) (setups : List (Scenario.Setup σ)) :
    (Scenario.siteOf fallback setups).Impartial := by
  intro i a ha P
  obtain ⟨stage, -, rfl⟩ := List.mem_map.mp ha
  exact Scenario.Stage.impartial P _ stage

/-- **What a limit of time does**, where drivers are scripted. Whatever is done comes in steps from
states in which nobody holds a lock. -/
structure TouchesSlowOnly (t : Duration) : Prop where
  /-- With the limit, steps go as they do without it on a driver in which slow statements fail when
  the time is over; and nobody is left with a lock. -/
  steps {site : Scenario.Site Scripted.State} {steps : List (Scenario.Step Scripted.State)}
    {c : Scope Scripted.State} {w : RunState Scripted.State} (hsite : site.Impartial)
    (hsteps : Scenario.Step.AllFit (fun _ => True) steps) (hc : c.driver = Scripted.driver)
    (hw : ∀ id, (w.handles id).locked = false) :
    (Scenario.runAll (site.timed (some t)) steps).eval c w =
        (Scenario.runAll (site.timed none) steps).eval
          { c with driver := Scripted.driver.within (some t) } w ∧
      ∀ id, (((Scenario.runAll (site.timed (some t)) steps).eval c w).2.handles id).locked = false
  /-- So do whole scenarios. -/
  scenario {site : Scenario.Site Scripted.State} {outside : Bool}
    {steps : List (Scenario.Step Scripted.State)} {c : Scope Scripted.State}
    {w : RunState Scripted.State} (hsite : site.Impartial)
    (hsteps : Scenario.Step.AllFit (fun _ => True) steps) (hc : c.driver = Scripted.driver)
    (hw : ∀ id, (w.handles id).locked = false) :
    (Scenario.program (site.timed (some t)) outside steps).eval c w =
      (Scenario.program (site.timed none) outside steps).eval
        { c with driver := Scripted.driver.within (some t) } w
  /-- As long as statements are quick, the limit makes no difference. -/
  punctual {site : Scenario.Site Scripted.State} {steps : List (Scenario.Step Scripted.State)}
    {c : Scope Scripted.State} {w : RunState Scripted.State} (hsite : site.Impartial)
    (hsteps : Scenario.Step.AllFit (fun st => st.faults.delay.ticks ≤ t.ticks) steps)
    (hc : c.driver = Scripted.driver) (hw : ∀ id, (w.handles id).locked = false)
    (hquick : ∀ i, (w.states i).faults.delay.ticks ≤ t.ticks) :
    (Scenario.runAll (site.timed (some t)) steps).eval c w =
      (Scenario.runAll (site.timed none) steps).eval c w
  /-- An operation whose statement is quick comes to what it comes to without the limit, whatever
  has been done before. -/
  quick {s : Session Scripted.State} {c : Scope Scripted.State} {w : RunState Scripted.State}
    (hms : ∀ a ∈ s.database.middlewares, ∀ P : Pace Scripted.State, a.Impartial P)
    (hc : c.driver = Scripted.driver) (hw : ∀ id, (w.handles id).locked = false)
    (hquick : (w.states s.index).faults.delay.ticks ≤ t.ticks) (e : Entity) (stmt : Statement)
    (d : Demand) :
    ((s.timed (some t)).ask e stmt d).eval c w = ((s.timed none).ask e stmt d).eval c w
  /-- Transactions begin as they do without the limit. -/
  begins {c : Scope Scripted.State} (hc : c.driver = Scripted.driver) (index : Nat)
    (d : Database Scripted.State) (options : TransactionOptions) (w : RunState Scripted.State) :
    (beginTransaction index (d.timed (some t)) options).eval c w =
      (beginTransaction index (d.timed none) options).eval c w
  /-- A slow statement ends at the limit. The driver has received it once. -/
  slow {s : Session Scripted.State} {c : Scope Scripted.State} {w : RunState Scripted.State}
    (hc : c.driver = Scripted.driver) (hs : s.IsOpen w)
    (hds : earliestBefore (w.now + t.ticks) c.deadlines = none)
    (hslow : t.ticks < (w.states s.index).faults.delay.ticks) (q : Query) :
    ((s.timed (some t)).queryRows q).eval c w =
        (.ok (.error (.timeout t)), w.timedOut s .query q (w.now + t.ticks)) ∧
      ((s.timed (some t)).execQuery q).eval c w =
        (.ok (.error (.timeout t)), w.timedOut s .exec q (w.now + t.ticks))
  /-- So does an operation whose statement is slow; a transaction stays open, and its lock free. -/
  slowOperation {s : Session Scripted.State} {e : Entity} {stmt : Statement} {d : Demand}
    {m : Model} {q : Query} {c : Scope Scripted.State} {w w₁ : RunState Scripted.State}
    (hms : s.database.middlewares = [])
    (hstmt : ∀ columns upsert, d = .exec → stmt ≠ .insert ⟨[], columns, upsert⟩)
    (hm : (s.model e).eval c w = (.ok (.ok m), w₁)) (hq : s.compiled e stmt m = .ok q)
    (hc : c.driver = Scripted.driver) (hs : s.IsOpen w)
    (hds : earliestBefore (w.now + t.ticks) c.deadlines = none)
    (hslow : t.ticks < (w.states s.index).faults.delay.ticks) :
    ∃ u, ((s.timed (some t)).ask e stmt d).eval c w = (.ok (.error (.timeout t)), u) ∧
      SentInVain s q w u ∧ s.IsOpen u ∧ u.now = w.now + t.ticks
  /-- Middlewares that only forward do not change that. -/
  forwarded {s : Session Scripted.State} {e : Entity} {stmt : Statement} {d : Demand} {m : Model}
    {q : Query} {ds : List (Chooser (Run Scripted.State))} {c : Scope Scripted.State}
    {w w₁ : RunState Scripted.State}
    (hms : s.database.middlewares = ds.map Chooser.middleware)
    (hforwards : ∀ d ∈ ds, d.Forwards (s.timed (some t)) e stmt)
    (hstmt : ∀ columns upsert, d = .exec → stmt ≠ .insert ⟨[], columns, upsert⟩)
    (hm : (s.model e).eval c w = (.ok (.ok m), w₁)) (hq : s.compiled e stmt m = .ok q)
    (hc : c.driver = Scripted.driver) (hs : s.IsOpen w) (hds : c.deadlines = [])
    (hslow : t.ticks < (w.states s.index).faults.delay.ticks) :
    ∃ u, ((s.timed (some t)).ask e stmt d).eval c w = (.ok (.error (.timeout t)), u) ∧
      SentInVain s q w u ∧ s.IsOpen u
  /-- A body of work that ends with the error is followed by one rollback, however long that
  takes. -/
  rolledBack {σ α β : Type} {index id : Nat} {d : Database (σ × List DriverCall)}
    {options : TransactionOptions} {body : Nat → Run (σ × List DriverCall) (Ending α × β)}
    {c : Scope σ} {w w₁ w₂ : RunState (σ × List DriverCall)} {b : β} {delay : Duration}
    {r : Except Error Unit} (hds : c.deadlines = [])
    (hbegun : (beginTransaction index (d.timed (some t)) options).eval c.recording w =
      (.ok (.ok id), w₁))
    (hbody : (body id).eval c.recording w₁ = (.ok (.error (.timeout t), b), w₂))
    (hopen : w₂.handles id = Handle.opened index)
    (hreply : (c.driver.rollback (w₂.states index).1).outcome = .answered delay r) :
    ∃ u, (doTransaction index (d.timed (some t)) options body).eval c.recording w =
        (.ok (afterRollback (.timeout t) false (.error (.timeout t)) r, some b), u) ∧
      u.calls index = w₂.calls index ++ [.rollback (.answered delay r)] ∧
      u.handles id = ⟨index, false, true, false⟩ ∧ u.now = w₂.now + delay.ticks

/-- **A limit touches only slow statements.** -/
theorem limit_touchesSlowOnly (t : Duration) : TouchesSlowOnly t where
  steps {site steps c w} hsite hsteps hc hw := by
    have hsuits : site.Suits (Scripted.inTime t) :=
      ⟨fun _ => trivial, fun i a ha => hsite i a ha (Scripted.inTime t)⟩
    have hfit : (Scripted.inTime t).Fit w := ⟨hw, fun _ _ => trivial⟩
    obtain ⟨heq, hkept⟩ := Scenario.programs_runAll hsuits steps hsteps c w hc hfit
    exact ⟨heq.symm, hkept.unlocked⟩
  scenario {site outside steps c w} hsite hsteps hc hw := by
    have hsuits : site.Suits (Scripted.inTime t) :=
      ⟨fun _ => trivial, fun i a ha => hsite i a ha (Scripted.inTime t)⟩
    exact (Scenario.programs_program hsuits outside hsteps c w hc ⟨hw, fun _ _ => trivial⟩).1.symm
  punctual {site steps c w} hsite hsteps hc hw hquick := by
    let P := Scripted.quick t fun _ => True
    have hsuits : site.Suits P := ⟨fun _ => trivial, fun i a ha => hsite i a ha P⟩
    have hscope : P.scope c = c := by
      show { c with driver := Scripted.driver } = c
      rw [← hc]
    have heq := (Scenario.programs_runAll hsuits steps hsteps c w hc ⟨hw, fun i _ => hquick i⟩).1
    rw [hscope] at heq
    exact heq.symm
  quick {s c w} hms hc hw hquick e stmt d := by
    let P := Scripted.quick t (· = s.index)
    have hscope : P.scope c = c := by
      show { c with driver := Scripted.driver } = c
      rw [← hc]
    have hfit : P.Fit w := ⟨hw, fun i hi => by rw [show i = s.index from hi]; exact hquick⟩
    have heq := (Pace.programs_ask (P := P) rfl (fun a ha => hms a ha P) e stmt d c w hc hfit).1
    rw [hscope] at heq
    exact heq.symm
  begins {c} hc index d options w := by
    obtain ⟨delay, r, hreply, hlimit⟩ := Scripted.begins t options (w.states index)
    rw [← hc] at hreply
    rw [eval_beginTransaction_of (d := d.timed (some t))
        (eval_awaitBeginning_timed hreply hlimit),
      eval_beginTransaction_of (d := d.timed none) rfl]
  slow {s c w} hc hs hds hslow q :=
    ⟨Session.eval_queryRows_slow (s := s.timed (some t)) rfl hs hds hslow hc q,
      Session.eval_execQuery_slow (s := s.timed (some t)) rfl hs hds hslow hc q⟩
  slowOperation {s e stmt d m q c w w₁} hms hstmt hm hq hc hs hds hslow := by
    obtain ⟨u, hask, hu, hnow⟩ := Session.eval_ask_slow_plain (s := s.timed (some t)) rfl hs hds
      hslow hc hstmt hm hq hms
    have hvain : SentInVain s q w u := ⟨hu.received, hu.handles, hu.begun⟩
    exact ⟨u, hask, hvain, hvain.isOpen hs, hnow⟩
  forwarded {s e stmt d m q ds c w w₁} hms hforwards hstmt hm hq hc hs hds hslow := by
    obtain ⟨u, hask, hu⟩ := Session.eval_ask_slow (s := s.timed (some t)) rfl hs hds hslow hc hstmt
      hm hq hms hforwards
    have hvain : SentInVain s q w u := ⟨hu.received, hu.handles, hu.begun⟩
    exact ⟨u, hask, hvain, hvain.isOpen hs⟩
  rolledBack {σ α β index id d options body c w w₁ w₂ b delay r} hds hbegun hbody hopen hreply := by
    obtain ⟨trace, heval⟩ := doTransaction_rolledBack (c := c.recording) hbegun hbody hopen hds
      hreply
    generalize w₂.now + delay.ticks = tick at heval ⊢
    refine ⟨_, heval, ?_, update_same .., rfl⟩
    rw [← hreply, RunState.calls]
    exact congrArg Prod.snd (update_same w₂.states index _)

/-- A database with stages that watch, whose driver answers three deletions and takes three
milliseconds for each. -/
def guestSetup : Scenario.Setup Scripted.State :=
  ⟨.postgres, .byName, none, watchers,
    .start [.exec ⟨1, none⟩, .exec ⟨2, none⟩, .exec ⟨3, none⟩]
      ⟨none, none, none, .ofMilliseconds 3⟩, none, false⟩

/-- The deletion of all guests. -/
def deleteGuests (place : Scenario.Place) : Scenario.Step Scripted.State :=
  .action 0 false (.statement .exec place guest (.ok (.delete ⟨none, []⟩)))

/-- From now on the driver takes so long. -/
def slowTo (d : Duration) : Scenario.Step Scripted.State :=
  .action 0 false (.adjust fun st => { st with faults := { st.faults with delay := d } })

/-- Three deletions, of which the second is slow, and in a transaction. -/
def deletions : List (Scenario.Step Scripted.State) :=
  [deleteGuests .database, slowTo (.ofMilliseconds 50),
    .transaction 0 false .own .standard [deleteGuests .body] (.ok ()), slowTo (.ofMilliseconds 3),
    deleteGuests .database]

/-- The fault of a step, if it had one, and what was sent since something was told last. -/
def faultAndTexts : Scenario.StepReport → Option Error × List String
  | .step (.error e) _ events => (some e, events.map Event.text)
  | .step _ _ events | .entered events _ => (none, events.map Event.text)

/-- With a limit of ten milliseconds, the second deletion is given up and rolled back, and the third
one gets the third answer. -/
theorem deletions_touched :
    let t : Duration := .ofMilliseconds 10
    let site := Scenario.siteOf (.start [] .none) [guestSetup]
    let c := Scenario.startScope Scripted.driver
    let w := Scenario.startState (.start [] .none) [guestSetup]
    let p := (Scenario.runAll (site.timed (some t)) deletions).eval c w
    p = (Scenario.runAll (site.timed none) deletions).eval
          { c with driver := Scripted.driver.within (some t) } w ∧
      p.1.toOption.map (List.map faultAndTexts) =
        some [(none, ["DELETE FROM \"guests\";"]), (none, []),
          (some (.timeout t), ["ROLLBACK"]), (none, []), (none, ["DELETE FROM \"guests\";"])] ∧
      p.2.now = (Duration.ofMilliseconds 16).ticks ∧ (p.2.states 0).script = [] ∧
      ∀ id, (p.2.handles id).locked = false := by
  intro t site c w p
  have hfit : Scenario.Step.AllFit (fun _ => True) deletions :=
    ⟨trivial, fun _ => id, ⟨trivial, trivial⟩, fun _ => id, trivial, trivial⟩
  obtain ⟨hsame, hunlocked⟩ := (limit_touchesSlowOnly t).steps (c := c) (w := w)
    (Scenario.siteOf_impartial (.start [] .none) [guestSetup]) hfit rfl fun _ => rfl
  exact ⟨hsame, by decide +kernel, by decide +kernel, by decide +kernel, hunlocked⟩

end EntityMapper

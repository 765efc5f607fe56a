import EntityMapper.Proofs.Transaction.Sharing

/-!
# Programs on a shared transaction

A statement, a commit or a rollback that runs by itself makes the steps of a call on the shared
transaction, whatever state the calls before it have left: it may find the lock held, the
transaction open, or the driver's side gone.

## Main definitions

* `Sharing.Matches s w index id`: the state of a run, as far as one transaction goes
* `Follows c limit index id r f x`: the program makes the steps of a call
* `ProgramsFollow c d index id`: so do all programs on a transaction

## Main results

* `Session.queryRows_follows`, `Session.execQuery_follows`: statements
* `commit_follows`, `rollback_follows`: ending a transaction
* `abandon_follows`: giving the handle up
-/

namespace EntityMapper

variable {σ α : Type} {c : Scope σ} {d : Driver σ} {limit : Option Duration}
  {s₀ s : Sharing σ} {w : RunState (σ × List DriverCall)} {index id t : Nat} {r : Request}
  {f : α → Answer} {moves : List Move}

/-- **The state of a run**, as far as one transaction goes. -/
structure Sharing.Matches (s : Sharing σ) (w : RunState (σ × List DriverCall))
    (index id : Nat) : Prop where
  handle : s.handle = w.handles id
  driver : s.driver = w.states index
  database : s.handle.database = index

/-- Where a program that has come to an end leaves its call. -/
def Phase.ofResult (f : α → Answer) : Except Interrupt (Except Error α) → Phase
  | .ok result => .returned (result.map f)
  | .error _ => .cancelled

/-- **The program makes the steps of a call** on a transaction, from the request on. -/
def Follows (c : Scope σ) (limit : Option Duration) (index id : Nat) (r : Request) (f : α → Answer)
    (x : Run (σ × List DriverCall) (Except Error α)) : Prop :=
  ∀ {s : Sharing σ} {w t}, s.Matches w index id → s.dropped = false → s.tasks t = none →
    ∃ res w' moves s', x.eval c.recording w = (res, w') ∧ Path c.driver limit s moves s' ∧
      s'.Matches w' index id ∧ s'.tasks t = some ⟨r, .ofResult f res⟩

/-! ## The last step of a call -/

/-- A call that waits for a reply is answered or given up. -/
theorem Path.timed {p : Phase} {limit' : Option Duration} {ds : List Nat} {reply : Reply α}
    {res : Except Interrupt (Except Error α)} (hpath : Path d limit s₀ moves s)
    (ht : s.tasks t = some ⟨r, p⟩) (hp : p.Suspended)
    (hlimit : ∀ l, limit' = some l → r.IsStatement ∧ limit = some l)
    (htimed : Timed limit' ds reply res)
    (hreply : reply ≠ .waiting → p.reply? = some (reply.map f)) :
    ∃ moves', Path d limit s₀ moves' (s.moved t r (.ofResult f res) (p.leave s.handle)) := by
  cases htimed with
  | answered delay result h =>
    subst h
    exact ⟨_, hpath.snoc (.answer ht (hreply nofun))⟩
  | timedOut l h =>
    obtain ⟨hr, hl⟩ := hlimit l h
    exact ⟨_, hpath.snoc (.timeOut ht hr hp hl)⟩
  | deadline | never => exact ⟨_, hpath.snoc (.cancel ht hp)⟩

/-- Waiting without a limit. -/
theorem Awaited.timed {ds : List Nat} {reply : Reply α} {res : Except Interrupt (Except Error α)}
    (h : Awaited ds reply res) : Timed none ds reply res := by
  cases h with
  | answered delay result => exact .answered delay result rfl
  | deadline d hd => exact .deadline d hd
  | never => exact .never rfl rfl

/-! ## Statements -/

namespace Session

variable {x : Session (σ × List DriverCall)} (hx : x.transaction = some id)
include hx

/-- A statement makes the steps of a call. -/
theorem statement_follows (mode : StatementMode) (q : Sql.Query)
    (step : Bool → Driver (σ × List DriverCall) → σ × List DriverCall →
      Turn (σ × List DriverCall) (Reply α)) (hr : r.IsStatement)
    (hturn : ∀ st, r.turn c.driver.recording st =
      (step true c.driver.recording st).map (Reply.map f)) :
    Follows c x.database.settings.timeout x.index id r f (x.statement mode q step) := by
  intro s w t hs hlive hnew
  have hask : Path c.driver x.database.settings.timeout s _ (s.moved t r .waiting s.handle) :=
    .snoc .nil (.ask t r hnew hlive)
  rcases s with ⟨⟨db, isOpen, done, locked⟩, st, tasks, dropped⟩
  obtain ⟨hhandle, hdriver, hdb⟩ := hs
  dsimp only at hhandle hdriver hdb
  subst hdb hdriver
  have hw := hhandle.symm
  cases locked with
  | true =>
    -- Somebody holds the lock, and the call waits until it is given up.
    obtain ⟨now, trace, res, heval, ht⟩ :=
      eval_statement_locked (c := c.recording) hx hw mode q step
    obtain ⟨moves, hpath⟩ := hask.timed (f := f) (update_same ..) trivial (fun l hl => ⟨hr, hl⟩) ht
      (by simp)
    exact ⟨_, _, moves, _, heval, hpath, ⟨hhandle, rfl, rfl⟩, update_same ..⟩
  | false =>
    cases isOpen with
    | false =>
      -- The lock is free, and the driver's side is gone.
      obtain ⟨trace, heval⟩ := eval_statement_gone (c := c.recording) hx hw mode q step
      exact ⟨_, _, _, _, heval, hask.snoc (.refuse (update_same ..) hr rfl rfl),
        ⟨hhandle, rfl, rfl⟩, update_same ..⟩
    | true =>
      have hreply : (r.turn c.driver.recording (w.states x.index)).outcome =
          (step true c.driver.recording (w.states x.index)).outcome.map f := by rw [hturn]; rfl
      have hnext : (r.turn c.driver.recording (w.states x.index)).next =
          (step true c.driver.recording (w.states x.index)).next := by rw [hturn]; rfl
      obtain ⟨now, trace, res, heval, ht⟩ :=
        eval_statement_open (c := c.recording) hx hw mode q step
      obtain ⟨moves, hpath⟩ := (hask.snoc (.send (update_same ..) hr rfl rfl)).timed (f := f)
        (update_same ..) trivial (fun l hl => ⟨hr, hl⟩) ht fun _ => congrArg some hreply
      exact ⟨_, _, moves, _, heval, hpath,
        ⟨hhandle, hnext.trans (update_same ..).symm, rfl⟩, update_same ..⟩

/-- **A statement that answers with rows** makes the steps of a call. -/
theorem queryRows_follows (q : Sql.Query) :
    Follows c x.database.settings.timeout x.index id (.query q) .rows (x.queryRows q) :=
  statement_follows (r := .query q) hx .query q _ trivial fun _ => rfl

/-- **A statement without rows** makes the steps of a call. -/
theorem execQuery_follows (q : Sql.Query) :
    Follows c x.database.settings.timeout x.index id (.execute q) .result (x.execQuery q) :=
  statement_follows (r := .execute q) hx .exec q _ trivial fun _ => rfl

end Session

/-! ## Ending and giving up -/

/-- A program that ends the transaction makes the steps of a call. -/
theorem finish_follows
    (step : Driver (σ × List DriverCall) → σ × List DriverCall →
      Turn (σ × List DriverCall) (Reply Unit)) (hr : ¬ r.IsStatement)
    (hturn : ∀ st, r.turn c.driver.recording st =
      (step c.driver.recording st).map (Reply.map fun _ => .done)) :
    Follows c limit index id r (fun _ => .done) (finish id step) := by
  intro s w t hs hlive hnew
  have hask : Path c.driver limit s _ (s.moved t r .waiting s.handle) :=
    .snoc .nil (.ask t r hnew hlive)
  rcases s with ⟨⟨db, isOpen, done, locked⟩, st, tasks, dropped⟩
  obtain ⟨hhandle, hdriver, hdb⟩ := hs
  dsimp only at hhandle hdriver hdb
  subst hdb hdriver
  have hw := hhandle.symm
  cases locked with
  | true =>
    -- There is no limit on the time that a commit or a rollback waits for the lock.
    obtain ⟨now, res, heval, ha⟩ := eval_finish_locked (c := c.recording) hw step
    obtain ⟨moves, hpath⟩ := hask.timed (f := fun _ => .done) (update_same ..) trivial (by simp)
      ha.timed (by simp)
    exact ⟨_, _, moves, _, heval, hpath, ⟨hhandle, rfl, rfl⟩, update_same ..⟩
  | false =>
    -- The program takes and marks at once what the steps take and mark one after the other.
    have htake := hask.snoc (.take (update_same ..) hr rfl rfl)
    have hmark := htake.snoc (.mark (update_same ..))
    cases isOpen with
    | false =>
      exact ⟨_, _, _, _, eval_finish_closed (c := c.recording) hw step,
        hmark.snoc (.deny (update_same ..)), ⟨(update_same ..).symm, rfl, rfl⟩, update_same ..⟩
    | true =>
      have hreply : (r.turn c.driver.recording (w.states db)).outcome =
          (step c.driver.recording (w.states db)).outcome.map fun _ => .done := by rw [hturn]; rfl
      have hnext : (r.turn c.driver.recording (w.states db)).next =
          (step c.driver.recording (w.states db)).next := by rw [hturn]; rfl
      obtain ⟨now, res, heval, ha⟩ := eval_finish_open (c := c.recording) hw step
      obtain ⟨moves, hpath⟩ := (hmark.snoc (.finish (update_same ..))).timed (f := fun _ => .done)
        (update_same ..) trivial (by simp) ha.timed fun _ => congrArg some hreply
      exact ⟨_, _, moves, _, heval, hpath,
        ⟨(update_same ..).symm, hnext.trans (update_same ..).symm, rfl⟩, update_same ..⟩

/-- **Committing** makes the steps of a call. -/
theorem commit_follows : Follows c limit index id .commit (fun _ => .done) (commit id) :=
  finish_follows (r := .commit) Driver.commit (fun h => h) fun _ => rfl

/-- **Rolling back** makes the steps of a call. -/
theorem rollback_follows : Follows c limit index id .rollback (fun _ => .done) (rollback id) := by
  intro s w t hs hlive hnew
  obtain ⟨res, w', moves, s', heval, hpath, hs', ht⟩ :=
    finish_follows (r := .rollback) Driver.rollback (fun h => h) (fun _ => rfl) hs hlive hnew
  obtain ⟨trace, heval⟩ := eval_rollback heval
  exact ⟨res, _, moves, s', heval, hpath, ⟨hs'.handle, hs'.driver, hs'.database⟩, ht⟩

/-- **Giving the handle up** is a step, once every call is over. -/
theorem abandon_follows (hs : s.Matches w index id) (hlive : s.dropped = false)
    (hidle : ∀ t task, s.tasks t = some task → task.phase.IsOver) :
    ∃ w' s', (abandon id).eval c.recording w = (.ok (), w') ∧
      Path c.driver limit s [.drop] s' ∧ s'.Matches w' index id := by
  have hdrop : Path c.driver limit s [.drop] _ := .snoc .nil (.drop c.running hlive hidle rfl)
  rcases s with ⟨⟨db, isOpen, done, locked⟩, st, tasks, dropped⟩
  obtain ⟨hhandle, hdriver, hdb⟩ := hs
  dsimp only at hhandle hdriver hdb
  subst hdb hdriver
  have hw := hhandle.symm
  cases isOpen with
  | false =>
    exact ⟨_, _, eval_abandon_gone (c := c.recording) hw, hdrop, ⟨hhandle, rfl, rfl⟩⟩
  | true =>
    obtain ⟨trace, heval⟩ := eval_abandon_open (c := c.recording) hw
    exact ⟨_, _, heval, hdrop, ⟨(update_same ..).symm, (update_same ..).symm, rfl⟩⟩

/-! ## All programs -/

/-- **The programs on a transaction** make the steps of calls on it, or give its handle up. -/
structure ProgramsFollow (c : Scope σ) (d : Database (σ × List DriverCall))
    (index id : Nat) : Prop where
  queryRows : ∀ q, Follows c d.settings.timeout index id (.query q) .rows
    (Session.queryRows ⟨index, some id, d⟩ q)
  execQuery : ∀ q, Follows c d.settings.timeout index id (.execute q) .result
    (Session.execQuery ⟨index, some id, d⟩ q)
  commit : Follows c d.settings.timeout index id .commit (fun _ => .done) (commit id)
  rollback : Follows c d.settings.timeout index id .rollback (fun _ => .done) (rollback id)
  abandon : ∀ {s : Sharing σ} {w}, s.Matches w index id → s.dropped = false →
    (∀ t task, s.tasks t = some task → task.phase.IsOver) →
    ∃ w' s', (abandon id).eval c.recording w = (.ok (), w') ∧
      Path c.driver d.settings.timeout s [.drop] s' ∧ s'.Matches w' index id

theorem programsFollow (c : Scope σ) (d : Database (σ × List DriverCall)) (index id : Nat) :
    ProgramsFollow c d index id where
  queryRows q := Session.queryRows_follows (x := ⟨index, some id, d⟩) rfl q
  execQuery q := Session.execQuery_follows (x := ⟨index, some id, d⟩) rfl q
  commit := commit_follows
  rollback := rollback_follows
  abandon := abandon_follows

end EntityMapper

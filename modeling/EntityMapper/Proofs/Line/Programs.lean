import EntityMapper.Proofs.Line.Holders
import EntityMapper.Proofs.Transaction.Alone

/-!
# Programs on a line

A program that calls the driver while nothing is under way makes the steps of a call on the line:
it asks, sends what the driver sends for it, one command after the answer to the other, and is
answered or gives up. The database sees the commands that the server processes.

## Main definitions

* `Line.Named index names handles handles'`: the transactions of a line and those of a run
* `Line.Matches s w index names`: a line with nothing under way, and the state of a run
* `Line.Followed index t names s w names' s' w'`: the line goes where the run goes
* `Line.ProgramsFollow c d index`: all programs make the steps of calls

## Main results

* `Line.programsFollow`: programs on a database make the steps of calls on its line
* `Line.begin_in_vain`: what is left when a transaction is asked for in vain
-/

namespace EntityMapper.Line

variable {α : Type} {s s' s₀ s₁ : Line} {w w' : RunState Typed.State} {index t j id : Nat}
  {r : Request} {p : Phase} {accepted opened : Bool} {moves : List Move} {texts : List String}
  {entries : List (Command × Option Nat)} {c : Scope Typed.State} {d : Database Typed.State}
  {st : Typed.State} {names names' : Nat → Option Nat}

/-! ## Lines at rest -/

/-- **The handles of a line are those of a run**, which has numbers of its own for the
transactions. -/
structure Named (index : Nat) (names : Nat → Option Nat) (handles : Nat → Option Handle)
    (handles' : Nat → Handle) : Prop where
  eq_map : ∀ j, handles j = (names j).map handles'
  database : ∀ j id, names j = some id → (handles' id).database = index
  unique : ∀ j k id, names j = some id → names k = some id → j = k

/-- The handle of one transaction becomes another one. -/
theorem Named.update {handles : Nat → Option Handle} {handles' : Nat → Handle}
    (hs : Named index names handles handles') (hj : names j = some id) {h : Handle}
    (hh : h.database = index) :
    Named index names (update handles j (some h)) (update handles' id h) where
  eq_map k := by
    by_cases hkj : k = j
    · subst hkj
      rw [update_same, hj, Option.map_some, update_same]
    · rw [EntityMapper.update, if_neg hkj, hs.eq_map]
      refine Option.map_congr fun i hi => (if_neg ?_).symm
      rintro rfl
      exact hkj (hs.unique k j i hi hj)
  database k i hk := by
    rw [EntityMapper.update]
    split
    · exact hh
    · exact hs.database k i hk
  unique := hs.unique

/-- A transaction gets a number that none had. -/
theorem Named.opens {handles : Nat → Option Handle} {handles' : Nat → Handle}
    (hs : Named index names handles handles') (hnew : ∀ j, names j ≠ some id) {h : Handle}
    (hh : h.database = index) (t : Nat) :
    Named index (EntityMapper.update names t (some id)) (EntityMapper.update handles t (some h))
      (EntityMapper.update handles' id h) where
  eq_map j := by
    simp only [EntityMapper.update]
    split
    · simp
    · rw [hs.eq_map]
      refine Option.map_congr fun i hi => (if_neg ?_).symm
      rintro rfl
      exact hnew j hi
  database j i hj := by
    simp only [EntityMapper.update] at hj ⊢
    split
    · exact hh
    · next hi =>
      split at hj
      · exact absurd (Option.some.inj hj).symm hi
      · exact hs.database j i hj
  unique j k i hj hk := by
    simp only [EntityMapper.update] at hj hk
    split at hj <;> split at hk
    · next hjt hkt => exact hjt.trans hkt.symm
    · cases hj
      exact absurd hk (hnew k)
    · cases hk
      exact absurd hj (hnew j)
    · exact hs.unique j k i hj hk

/-- **A line with nothing under way**, and the state of a run. -/
structure Matches (s : Line) (w : RunState Typed.State) (index : Nat) (names : Nat → Option Nat) :
    Prop where
  database : s.database = index
  driver : s.driver = w.states index
  queue : s.queue = []
  idle : ∀ t call, s.calls t = some call → call.phase.IsOver
  handles : Named index names s.handles w.handles
  begun : ∀ j id, names j = some id → id < w.begun

/-- A new line is at rest. -/
theorem matches_start {statements : List Typed.Prepared} {faults : Typed.Faults}
    (hw : w.states index = .start statements faults) :
    (start index statements faults).Matches w index fun _ => none where
  database := rfl
  driver := hw.symm
  queue := rfl
  idle _ _ hu := by cases hu
  handles := ⟨fun _ => rfl, nofun, nofun⟩
  begun := nofun

/-- **The line goes where the run goes**, in the steps of call number `t`; the database sees what
the server processes meanwhile. -/
structure Followed (index t : Nat) (names : Nat → Option Nat) (s : Line)
    (w : RunState Typed.State) (names' : Nat → Option Nat) (s' : Line)
    (w' : RunState Typed.State) : Prop where
  path : ∃ moves, Path s moves s'
  rests : s'.Matches w' index names'
  calls : ∀ u, u ≠ t → s'.calls u = s.calls u
  seen : ∃ entries, s'.log = s.log ++ entries ∧
    w'.events = w.events ++ entries.map fun e => ⟨index, e.1.text⟩

/-- When the call is over, nothing is under way again. -/
theorem Matches.followed (hs : s.Matches w index names) (hpath : Path s moves s')
    (hdatabase : s'.database = s.database) (hqueue : s'.queue = s.queue)
    (hother : ∀ u, u ≠ t → s'.calls u = s.calls u) (ht : s'.calls t = some ⟨r, p⟩) (hp : p.IsOver)
    (hdriver : s'.driver = w'.states index) (hhandles : Named index names' s'.handles w'.handles)
    (hbegun : ∀ j id, names' j = some id → id < w'.begun) (hlog : s'.log = s.log ++ entries)
    (hevents : w'.events = w.events ++ entries.map fun e => ⟨index, e.1.text⟩) :
    Followed index t names s w names' s' w' where
  path := ⟨_, hpath⟩
  rests := {
    database := hdatabase.trans hs.database
    driver := hdriver
    queue := hqueue.trans hs.queue
    idle := fun u call hu => by
      by_cases hut : u = t
      · subst hut
        cases ht.symm.trans hu
        exact hp
      · exact hs.idle u call ((hother u hut).symm.trans hu)
    handles := hhandles
    begun := hbegun }
  calls := hother
  seen := ⟨entries, hlog, hevents⟩

/-! ## Steps of one call -/

/-- The line after the server has processed commands of a call. -/
def exchanged (s : Line) (t : Nat) (r : Request) (p : Phase) (session : Option Nat)
    (entries : List (Command × Option Nat)) : Line :=
  { s.withCall t r p with session := session, log := s.log ++ entries }

theorem withCall_exchanged (s : Line) (t : Nat) (r : Request) (p p' : Phase)
    (session : Option Nat) (entries : List (Command × Option Nat)) :
    (s.exchanged t r p session entries).withCall t r p' = s.exchanged t r p' session entries := by
  simp [exchanged, withCall]

theorem withHandle_withHandle (s : Line) (j : Nat) (h h' : Handle) :
    (s.withHandle j h).withHandle j h' = s.withHandle j h' := by
  simp [withHandle]

/-- **A call sends its commands**, one after the answer to the other. -/
theorem Path.exchange {text : String} {texts : List String} (hpath : Path s₀ moves s)
    (ht : s.calls t = some ⟨r, p⟩) (hp : p.pending? = some (text :: texts, accepted))
    (hqueue : s.queue = []) :
    ∃ moves' session entries, Path s₀ moves' (s.exchanged t r (.busy [] accepted) session entries) ∧
      entries.map (fun e => e.1.text) = text :: texts := by
  -- Induction on the commands: each is processed before the next one is sent.
  induction texts generalizing s p text moves with
  | nil =>
    rcases s with ⟨database, driver, queue, session, log, handles, calls⟩
    cases hqueue
    exact ⟨_, _, [(_, session)], (hpath.snoc (.send ht hp nofun)).snoc (.serve rfl), rfl⟩
  | cons next texts ih =>
    rcases s with ⟨database, driver, queue, session, log, handles, calls⟩
    cases hqueue
    have hserved := (hpath.snoc (.send ht hp nofun)).snoc (.serve rfl)
    obtain ⟨moves', session', entries, hrest, htexts⟩ :=
      ih hserved (calls_withCall_self ..) rfl rfl
    refine ⟨moves', session', (r.command t text accepted, session) :: entries, ?_, ?_⟩
    · simpa [exchanged, withCall] using hrest
    · rw [List.map_cons, htexts]
      rfl

/-- **A line after a call that was engaged in it**: the server has processed what the call sent,
and the call has left what it leaves. -/
structure Settled (s : Line) (t : Nat) (r : Request) (opened : Bool)
    (entries : List (Command × Option Nat)) (s' : Line) : Prop where
  database : s'.database = s.database
  queue : s'.queue = s.queue
  call : ∃ p, p.IsOver ∧ s'.calls t = some ⟨r, p⟩
  calls : ∀ u, u ≠ t → s'.calls u = s.calls u
  log : s'.log = s.log ++ entries
  driver : s'.driver = (s.settle t opened r).driver
  handles : s'.handles = (s.settle t opened r).handles

/-- What a call leaves does not depend on what was processed. -/
theorem settle_exchanged (s : Line) (t : Nat) (r : Request) (p : Phase) (opened : Bool)
    (session : Option Nat) (entries : List (Command × Option Nat)) :
    (s.exchanged t r p session entries).settle t opened r =
      (s.settle t opened r).exchanged t r p session entries := by
  cases r with
  | begin options => cases opened <;> rfl
  | inside j mode q =>
    have hhandles : (s.exchanged t (.inside j mode q) p session entries).handles j = s.handles j :=
      rfl
    cases hj : s.handles j with
    | none => rw [settle_inside_of_none (hhandles.trans hj), settle_inside_of_none hj]
    | some h =>
      rw [settle_inside (hhandles.trans hj), settle_inside hj]
      rfl
  | statement | finish | abandon => rfl

theorem settled_exchanged (s : Line) (t : Nat) (r : Request) (hp : p.IsOver) (opened : Bool)
    (session : Option Nat) (entries : List (Command × Option Nat)) :
    s.Settled t r opened entries ((s.exchanged t r p session entries).settle t opened r) := by
  obtain ⟨hcalls, hqueue, -, hlog, hdatabase⟩ := settle_frame s t opened r
  rw [settle_exchanged]
  exact ⟨hdatabase, hqueue, ⟨p, hp, calls_withCall_self ..⟩,
    fun u hu => (calls_withCall_of_ne _ hu ..).trans (congrFun hcalls u),
    congrArg (· ++ entries) hlog, rfl, rfl⟩

/-- The result is not an error, and no interruption. -/
def succeeds : Except Interrupt (Except Error α) → Bool
  | .ok (.ok _) => true
  | _ => false

section Engaged

variable (hpath : Path s₀ moves s)
  (ht : s.calls t = some ⟨r, .engaged texts accepted⟩) (htexts : texts ≠ []) (hqueue : s.queue = [])
include hpath ht htexts hqueue

/-- A call that is engaged sends its commands, and is answered. -/
theorem Path.answered : ∃ moves' entries s', Path s₀ moves' s' ∧ s.Settled t r accepted entries s' ∧
    entries.map (fun e => e.1.text) = texts := by
  obtain ⟨text, rest, rfl⟩ := List.exists_cons_of_ne_nil htexts
  obtain ⟨moves', session, entries, hbusy, hentries⟩ := hpath.exchange ht rfl hqueue
  have hserved : (s.exchanged t r (.busy [] accepted) session entries).Served t := by
    intro c hc
    have hempty : c ∈ s.queue := hc
    rw [hqueue] at hempty
    cases hempty
  have hanswered := hbusy.snoc (.answer (calls_withCall_self ..) hserved)
  rw [withCall_exchanged] at hanswered
  exact ⟨_, entries, _, hanswered, settled_exchanged _ _ _ (by trivial) _ _ _, hentries⟩

/-- A call that is engaged sends its commands, and is given up. -/
theorem Path.interrupted (hr : r.IsAwaited) : ∃ moves' entries s', Path s₀ moves' s' ∧
    s.Settled t r false entries s' ∧ entries.map (fun e => e.1.text) = texts := by
  obtain ⟨text, rest, rfl⟩ := List.exists_cons_of_ne_nil htexts
  obtain ⟨moves', session, entries, hbusy, hentries⟩ := hpath.exchange ht rfl hqueue
  have hgivenUp := hbusy.snoc (.giveUp (calls_withCall_self ..) hr)
  rw [withCall_exchanged] at hgivenUp
  exact ⟨_, entries, _, hgivenUp, settled_exchanged _ _ _ (by trivial) _ _ _, hentries⟩

/-- **A call that is engaged** sends its commands, and is answered or gives up. -/
theorem Path.engaged {limit : Option Duration} {ds : List Nat} {reply : Reply α}
    {res : Except Interrupt (Except Error α)} (hr : r.IsAwaited)
    (hverdict : verdict reply = some accepted) (htimed : Timed limit ds reply res) :
    ∃ moves' entries s', Path s₀ moves' s' ∧ s.Settled t r (succeeds res) entries s' ∧
      entries.map (fun e => e.1.text) = texts := by
  cases htimed with
  | answered delay result hreply =>
    have haccepted : accepted = succeeds (.ok result : Except Interrupt _) := by
      subst hreply
      cases result <;> exact (Option.some.inj hverdict).symm
    exact haccepted ▸ hpath.answered ht htexts hqueue
  | timedOut | deadline | never => exact hpath.interrupted ht htexts hqueue hr

end Engaged

/-! ## The turns of the driver -/

theorem exists_verdict (delay : Duration) (result : Except Error α) :
    ∃ accepted, verdict (.answered delay result) = some accepted := by
  cases result with
  | ok a => exact ⟨true, rfl⟩
  | error e => exact ⟨false, rfl⟩

/-- A statement of someone who has the lock is answered, and the server sees something of it. -/
theorem run_answered (read : Typed.Prepared → Except Error α) (q : Sql.Query) (st : Typed.State) :
    (∃ accepted, verdict (st.run read q).outcome = some accepted) ∧
      (st.run read q).events ≠ [] := by
  unfold Typed.State.run
  dsimp only
  split
  · exact ⟨exists_verdict .., nofun⟩
  · split
    · exact ⟨exists_verdict .., nofun⟩
    · exact ⟨exists_verdict .., nofun⟩

/-- A call that needs the lock waits while it is held. -/
theorem lock_of_locked (hlocked : st.locked = true)
    (call : Typed.State → Turn Typed.State (Reply α)) : st.lock call = ⟨.waiting, [], st⟩ :=
  if_pos hlocked

theorem lock_of_free (hfree : st.locked = false)
    (call : Typed.State → Turn Typed.State (Reply α)) : st.lock call = call st :=
  if_neg (hfree ▸ Bool.false_ne_true)

/-- Who has taken a free lock gives it back. -/
theorem unlock_of_free (hfree : st.locked = false) :
    Typed.State.unlock { st with locked := true } = st := by
  rw [Typed.State.unlock, ← hfree]

/-! ## Calls that are followed -/

theorem calls_moved_of_ne (s : Line) (p p' : Phase) (u : Nat) (hu : u ≠ t) :
    ((s.withCall t r p).withCall t r p').calls u = s.calls u :=
  (calls_withCall_of_ne _ hu ..).trans (calls_withCall_of_ne s hu ..)

/-- A call that sends nothing is followed. -/
theorem Matches.followed_silently (hs : s.Matches w index names) (hpath : Path s moves s')
    (hp : p.IsOver) (hcalls : s'.calls = ((s.withCall t r .waiting).withCall t r p).calls)
    (hdatabase : s'.database = s.database) (hqueue : s'.queue = s.queue)
    (hlog : s'.log = s.log) (hdriver : s'.driver = s.driver)
    (hstates : w'.states index = w.states index)
    (hhandles : Named index names s'.handles w'.handles) (hbegun : w'.begun = w.begun)
    (hevents : w'.events = w.events) : Followed index t names s w names s' w' := by
  have ht : s'.calls t = some ⟨r, p⟩ := by rw [hcalls, calls_withCall_self]
  refine hs.followed hpath hdatabase hqueue (fun u hu => ?_) ht hp
    (hdriver.trans (hs.driver.trans hstates.symm)) hhandles (hbegun ▸ hs.begun)
    (hlog.trans (List.append_nil _).symm) (hevents.trans (List.append_nil _).symm)
  rw [hcalls, calls_moved_of_ne s _ _ u hu]

/-- A call that waits for a lock is given up. -/
theorem Matches.followed_waiting (hs : s.Matches w index names) (hnew : s.calls t = none)
    (hr : r.IsAwaited) (hstates : w'.states index = w.states index)
    (hhandles : w'.handles = w.handles) (hbegun : w'.begun = w.begun)
    (hevents : w'.events = w.events) :
    Followed index t names s w names ((s.withCall t r .waiting).withCall t r .cancelled) w' := by
  have hcancelled := (Path.nil.snoc (.ask hr hnew)).snoc (.cancel (calls_withCall_self ..))
  exact hs.followed_silently (p := .cancelled) hcancelled trivial rfl rfl rfl rfl rfl hstates
    (hhandles ▸ hs.handles) hbegun hevents

/-- A call that was engaged and has left what it leaves is followed. -/
theorem Matches.followed_settled {β : Type} {turn : Turn Typed.State β}
    (hs : s.Matches w index names) (hpath : Path s moves s')
    (hset : s₁.Settled t r opened entries s')
    (hentries : entries.map (fun e => e.1.text) = turn.events)
    (hdatabase : s₁.database = s.database) (hqueue : s₁.queue = s.queue)
    (hother : ∀ u, u ≠ t → s₁.calls u = s.calls u) (hlog : s₁.log = s.log)
    (hdriver : (s₁.settle t opened r).driver = w'.states index)
    (hhandles : Named index names' (s₁.settle t opened r).handles w'.handles)
    (hbegun : ∀ j id, names' j = some id → id < w'.begun)
    (hevents : w'.events = w.events ++ turn.events.map (Event.mk index)) :
    Followed index t names s w names' s' w' := by
  obtain ⟨p, hp, ht⟩ := hset.call
  refine hs.followed hpath (hset.database.trans hdatabase) (hset.queue.trans hqueue)
    (fun u hu => (hset.calls u hu).trans (hother u hu)) ht hp (hset.driver.trans hdriver)
    (hset.handles ▸ hhandles) hbegun (hlog ▸ hset.log) ?_
  rw [hevents, ← hentries, List.map_map]
  rfl

/-- **A call that was engaged is followed**, whatever it comes to: what it leaves decides how the
run goes on. -/
theorem Matches.followed_engaged {limit : Option Duration} {ds : List Nat} {reply : Reply α}
    {res : Except Interrupt (Except Error α)} {β : Type} {turn : Turn Typed.State β}
    (hs : s.Matches w index names) (hpath : Path s moves s₁)
    (ht : s₁.calls t = some ⟨r, .engaged texts accepted⟩) (htexts : texts = turn.events)
    (hevents : turn.events ≠ []) (hr : r.IsAwaited) (hverdict : verdict reply = some accepted)
    (htimed : Timed limit ds reply res) (hdatabase : s₁.database = s.database)
    (hqueue : s₁.queue = s.queue) (hlog : s₁.log = s.log)
    (hother : ∀ u, u ≠ t → s₁.calls u = s.calls u) :
    ∃ s', ∀ w' names', (s₁.settle t (succeeds res) r).driver = w'.states index →
      Named index names' (s₁.settle t (succeeds res) r).handles w'.handles →
      (∀ j id, names' j = some id → id < w'.begun) →
      w'.events = w.events ++ turn.events.map (Event.mk index) →
      Followed index t names s w names' s' w' := by
  obtain ⟨moves', entries, s', hpath', hset, hentries⟩ :=
    hpath.engaged ht (htexts ▸ hevents) (hqueue.trans hs.queue) hr hverdict htimed
  exact ⟨s', fun w' names' hdriver hhandles hbegun hevents' => hs.followed_settled hpath' hset
    (hentries.trans htexts) hdatabase hqueue hother hlog hdriver hhandles hbegun hevents'⟩

/-! ## Calls from outside of transactions -/

/-- A statement from outside of transactions makes the steps of a call. -/
theorem statement_followed (hc : c.driver = Typed.driver) (hs : s.Matches w index names)
    (hnew : s.calls t = none) (mode : StatementMode) (q : Sql.Query)
    {step : Bool → Driver Typed.State → Typed.State → Turn Typed.State (Reply α)}
    {read : Typed.Prepared → Except Error α}
    (hstep : ∀ b st, step b Typed.driver st = st.statement b read q)
    (hturn : ∀ st, (Request.statement mode q).turn st =
      (st.statement false read q).map verdict) :
    ∃ res w' s', ((Session.plain index d).statement mode q step).eval c w = (res, w') ∧
      Followed index t names s w names s' w' := by
  obtain ⟨now, trace, res, heval, htimed⟩ : ∃ now trace res,
      ((Session.plain index d).statement mode q step).eval c w = (res,
        { w.after index (step false c.driver (w.states index)) now with trace := trace }) ∧
      Timed d.settings.timeout c.deadlines (step false c.driver (w.states index)).outcome res :=
    Session.eval_statement_plain rfl mode q step
  rw [hc, hstep] at heval htimed
  cases hlocked : (w.states index).locked with
  | true =>
    rw [Typed.State.statement, if_neg Bool.false_ne_true, lock_of_locked hlocked] at heval
    exact ⟨res, _, _, heval, hs.followed_waiting (r := .statement mode q) hnew trivial
      (update_same ..) rfl rfl (List.append_nil _)⟩
  | false =>
    have hruns : (w.states index).statement false read q = (w.states index).run read q :=
      lock_of_free hlocked _
    rw [hruns] at heval htimed
    obtain ⟨⟨accepted, hverdict⟩, hevents⟩ := run_answered read q (w.states index)
    have hturn' : (Request.statement mode q).turn s.driver =
        ((w.states index).run read q).map verdict := by rw [hturn, hs.driver, hruns]
    have hengaged := (Path.nil.snoc (.ask (r := .statement mode q) trivial hnew)).snoc
      (.engage (calls_withCall_self ..) trivial ((congrArg Turn.outcome hturn').trans hverdict))
    obtain ⟨s', hfollowed⟩ := hs.followed_engaged hengaged (calls_withCall_self ..)
      (congrArg Turn.events hturn') hevents trivial hverdict htimed rfl rfl rfl
      (calls_moved_of_ne s _ _)
    refine ⟨res, _, s', heval, hfollowed _ _ ?_ hs.handles hs.begun rfl⟩
    have hnext := congrArg Turn.next hturn'
    calc Typed.State.unlock { ((Request.statement mode q).turn s.driver).next with locked := true }
        = Typed.State.unlock { ((w.states index).run read q).next with locked := true } := by
          rw [hnext]; rfl
      _ = ((w.states index).run read q).next :=
          unlock_of_free ((locked_run read q _).trans hlocked)
      _ = _ := (update_same ..).symm

/-! ## Beginning -/

/-- **The driver when a beginning was answered**, or was given up. -/
def afterBeginning {σ : Type} (d : Driver σ) (turn : Turn σ (Reply Unit)) :
    Except Interrupt (Except Error Unit) → σ
  | .ok _ => turn.next
  | .error _ => match turn.outcome with
    | .answered .. => d.forgo turn.next
    | .waiting => turn.next

theorem eval_awaitBeginning_left {σ : Type} (index : Nat) (options : TransactionOptions)
    (c : Scope σ) (w : RunState σ) {turn : Turn σ (Reply Unit)}
    (hturn : c.driver.beginTransaction options (w.states index) = turn) :
    ∃ now res, (awaitBeginning index options).eval c w =
        (res, w.after index { turn with next := afterBeginning c.driver turn res } now) ∧
      Awaited c.deadlines turn.outcome res := by
  rw [awaitBeginning, eval_bind, eval_call, hturn]
  obtain ⟨now, res, h, ha⟩ := eval_await turn.outcome c (w.after index turn w.now)
  dsimp only
  split
  · next hreply =>
    rw [hreply] at h ha
    refine ⟨now, res, h.trans ?_, hreply ▸ ha⟩
    cases res <;> simp [afterBeginning, hreply, RunState.after]
  · next hreply =>
    refine ⟨now, res, ?_, ha⟩
    rw [eval_onInterrupt, h]
    cases res with
    | ok r => rfl
    | error i =>
      simp only [changeState, eval_bind, eval_read, eval_modify, RunState.after, update_same,
        update_update, afterBeginning]
      cases hout : turn.outcome with
      | waiting => exact absurd hout hreply
      | answered => rfl

/-- A transaction that the server refuses does not take the lock. -/
theorem unlock_begin {options : TransactionOptions} {delay : Duration} {e : Error}
    (h : (st.begin options).outcome = .answered delay (.error e)) :
    (st.begin options).next.unlock = (st.begin options).next := by
  have hrefused : st.faults.atBegin = true := by
    cases hfault : st.faults.atBegin with
    | true => rfl
    | false => simp [Typed.State.begin, Typed.State.answer, Typed.refused, hfault] at h
  simp [Typed.State.begin, Typed.State.answer, Typed.State.unlock, hrefused]

/-- A transaction that the server accepts takes the lock. -/
theorem locked_begin {options : TransactionOptions} {delay : Duration}
    (h : (st.begin options).outcome = .answered delay (.ok ())) :
    (st.begin options).next.locked = true := by
  have haccepted : st.faults.atBegin = false := by
    cases hfault : st.faults.atBegin with
    | false => rfl
    | true => simp [Typed.State.begin, Typed.State.answer, Typed.refused, hfault] at h
  simp [Typed.State.begin, Typed.State.answer, haccepted]

/-- **Beginning a transaction while the lock is free.** Who has no transaction in the end does not
have the lock either. -/
theorem eval_beginTransaction_free (hc : c.driver = Typed.driver)
    (hfree : (w.states index).locked = false) (options : TransactionOptions) {turn}
    (hturn : (w.states index).begin options = turn) :
    ∃ now res, (beginTransaction index d options).eval c w =
        ofBeginning index (w.after index
          { turn with next := if succeeds res then turn.next else turn.next.unlock } now) res ∧
      Timed d.settings.timeout c.deadlines turn.outcome res := by
  have hturn' : c.driver.beginTransaction options (w.states index) = turn := by
    rw [hc, ← hturn]
    exact lock_of_free hfree _
  have hawait (ds : List Nat) : ∃ res w',
      (awaitBeginning index options).eval { c with deadlines := ds } w = (res, w') ∧
        (∃ now, w' = w.after index
          { turn with next := if succeeds res then turn.next else turn.next.unlock } now) ∧
        Awaited ds turn.outcome res := by
    obtain ⟨now, res, h, ha⟩ :=
      eval_awaitBeginning_left index options { c with deadlines := ds } w hturn'
    refine ⟨res, _, h, ⟨now, ?_⟩, ha⟩
    congr 2
    subst hturn
    rcases res with i | e | ⟨⟩
    · exact (congrFun (congrArg afterBeginning hc) _ ▸ rfl)
    · obtain ⟨delay, hreply⟩ := ha.eq_answered
      exact (unlock_begin hreply).symm
    · rfl
  obtain ⟨res, w', heval, htimed, hleft⟩ := eval_withTimeout turn.outcome hawait
  rcases hleft with ⟨now, rfl⟩ | ⟨_, i, -, rfl, now, rfl⟩
  · exact ⟨now, res, eval_beginTransaction_of heval, htimed⟩
  · exact ⟨now, _, eval_beginTransaction_of heval, htimed⟩

/-- **Who asks for a transaction and has none in the end**, for the time is over or the task is
cancelled, has sent the command to begin it all the same and let go of the client. There is no
handle by which anybody could end what the server begins. -/
theorem begin_in_vain {res : Except Interrupt (Except Error Nat)} (hc : c.driver = Typed.driver)
    (hfree : (w.states index).locked = false) {options : TransactionOptions}
    (h : (beginTransaction index d options).eval c w = (res, w')) (hres : succeeds res = false) :
    (w'.states index).locked = false ∧ w'.handles = w.handles ∧
      w'.events = w.events ++ [⟨index, options.beginSql⟩] := by
  obtain ⟨now, begun, heval, -⟩ := eval_beginTransaction_free (d := d) hc hfree options rfl
  have hvain (hbegun : succeeds begun = false) : (w.after index
      { (w.states index).begin options with
        next := if succeeds begun then ((w.states index).begin options).next
          else ((w.states index).begin options).next.unlock } now).states index =
        ((w.states index).begin options).next.unlock := by
    rw [hbegun]
    exact update_same ..
  rcases begun with i | e | ⟨⟩
  · cases heval.symm.trans h
    exact ⟨congrArg Typed.State.locked (hvain rfl), rfl, rfl⟩
  · cases heval.symm.trans h
    exact ⟨congrArg Typed.State.locked (hvain rfl), rfl, rfl⟩
  · cases heval.symm.trans h
    cases hres

/-- **Beginning a transaction while the lock is held** comes to nothing. -/
theorem eval_beginTransaction_locked (hc : c.driver = Typed.driver)
    (hlocked : (w.states index).locked = true) (options : TransactionOptions) :
    ∃ now res, (beginTransaction index d options).eval c w = (res, { w with now := now }) ∧
      succeeds res = false := by
  have hturn : c.driver.beginTransaction options (w.states index) =
      ⟨.waiting, [], w.states index⟩ := by
    rw [hc]
    exact lock_of_locked hlocked _
  have hawait (ds : List Nat) : ∃ res w',
      (awaitBeginning index options).eval { c with deadlines := ds } w = (res, w') ∧
        (∃ now i, w' = { w with now := now } ∧ res = .error i) ∧
        Awaited ds (.waiting : Reply Unit) res := by
    obtain ⟨now, res, h, ha⟩ :=
      eval_awaitBeginning_left index options { c with deadlines := ds } w hturn
    rcases res with i | r
    · exact ⟨.error i, _, h, ⟨now, i, by simp [RunState.after, afterBeginning], rfl⟩, ha⟩
    · obtain ⟨delay, hreply⟩ := ha.eq_answered
      cases hreply
  obtain ⟨res, w', heval, -, ⟨now, i, rfl, rfl⟩ | ⟨_, _, -, rfl, now, _, rfl, -⟩⟩ :=
    eval_withTimeout _ hawait
  · exact ⟨now, _, eval_beginTransaction_of heval, rfl⟩
  · exact ⟨now, _, eval_beginTransaction_of heval, rfl⟩

/-- The transactions after a beginning. -/
def named (names : Nat → Option Nat) (t : Nat) :
    Except Interrupt (Except Error Nat) → Nat → Option Nat
  | .ok (.ok id) => update names t (some id)
  | _ => names

/-- **Beginning a transaction** makes the steps of a call. -/
theorem begin_followed (hc : c.driver = Typed.driver) (hs : s.Matches w index names)
    (hnew : s.calls t = none) (options : TransactionOptions) :
    ∃ res w' s', (beginTransaction index d options).eval c w = (res, w') ∧
      Followed index t names s w (named names t res) s' w' := by
  cases hlocked : (w.states index).locked with
  | true =>
    obtain ⟨now, res, heval, hres⟩ := eval_beginTransaction_locked (d := d) hc hlocked options
    have hwaits : Followed index t names s w names _ { w with now := now } :=
      hs.followed_waiting (r := .begin options) hnew trivial rfl rfl rfl rfl
    rcases res with i | e | id
    · exact ⟨_, _, _, heval, hwaits⟩
    · exact ⟨_, _, _, heval, hwaits⟩
    · cases hres
  | false =>
    obtain ⟨now, res, heval, htimed⟩ := eval_beginTransaction_free (d := d) hc hlocked options rfl
    obtain ⟨accepted, hverdict⟩ := exists_verdict (w.states index).faults.latency
      (Typed.refused (w.states index).faults.atBegin)
    have hturn : (Request.begin options).turn s.driver =
        ((w.states index).begin options).map verdict := by
      rw [hs.driver]
      exact congrArg (Turn.map verdict) (lock_of_free hlocked _)
    have hengaged := (Path.nil.snoc (.ask (r := .begin options) trivial hnew)).snoc
      (.engage (calls_withCall_self ..) trivial ((congrArg Turn.outcome hturn).trans hverdict))
    obtain ⟨s', hfollowed⟩ := hs.followed_engaged hengaged (calls_withCall_self ..)
      (congrArg Turn.events hturn) nofun trivial hverdict htimed rfl rfl rfl
      (calls_moved_of_ne s _ _)
    have hdriver (opened : Bool) := congrArg (fun turn : Turn Typed.State (Option Bool) =>
      if opened then { turn.next with locked := true } else turn.next.unlock) hturn
    rcases res with i | e | ⟨⟩
    · exact ⟨_, _, s', heval, hfollowed _ _ ((hdriver false).trans (update_same ..).symm)
        hs.handles hs.begun rfl⟩
    · exact ⟨_, _, s', heval, hfollowed _ _ ((hdriver false).trans (update_same ..).symm)
        hs.handles hs.begun rfl⟩
    · have haccepted : ((w.states index).begin options).next.locked = true := by
        cases htimed with
        | answered delay _ h => exact locked_begin h
      refine ⟨_, _, s', heval, hfollowed _ _ ((hdriver true).trans ?_) ?_ ?_ rfl⟩
      · exact (congrArg _ haccepted.symm).trans (update_same ..).symm
      · have hopened := hs.handles.opens (fun j hj => Nat.lt_irrefl _ (hs.begun j _ hj))
          (h := .opened s.database) hs.database t
        cases hs.database
        exact hopened
      · intro j id hj
        rw [named, update] at hj
        split at hj
        · cases hj
          exact Nat.lt_succ_self _
        · exact Nat.lt_succ_of_lt (hs.begun j id hj)

/-! ## Calls on a transaction -/

theorem Matches.handle (hs : s.Matches w index names) (hj : names j = some id) :
    s.handles j = some (w.handles id) := by
  rw [hs.handles.eq_map, hj]
  rfl

/-- A statement in a transaction makes the steps of a call. -/
theorem inside_followed (hc : c.driver = Typed.driver) (hs : s.Matches w index names)
    (hnew : s.calls t = none) (hj : names j = some id) (mode : StatementMode) (q : Sql.Query)
    {step : Bool → Driver Typed.State → Typed.State → Turn Typed.State (Reply α)}
    {read : Typed.Prepared → Except Error α}
    (hstep : ∀ b st, step b Typed.driver st = st.statement b read q)
    (hturn : ∀ st, (Request.inside j mode q).turn st =
      (st.statement true read q).map verdict) :
    ∃ res w' s', ((Session.mk index (some id) d).statement mode q step).eval c w = (res, w') ∧
      Followed index t names s w names s' w' := by
  have hhandle := hs.handle hj
  have hasked := Path.nil.snoc (.ask (r := .inside j mode q) trivial hnew)
  have hdatabase := hs.handles.database j id hj
  cases hw : w.handles id with | mk db isOpen done locked
  rw [hw] at hhandle hdatabase
  cases locked with
  | true =>
    obtain ⟨now, trace, res, heval, -⟩ :=
      Session.eval_statement_locked (s := ⟨index, some id, d⟩) (c := c) rfl hw mode q step
    exact ⟨res, _, _, heval,
      hs.followed_waiting (r := .inside j mode q) hnew trivial rfl rfl rfl rfl⟩
  | false =>
    have hunchanged : update w.handles id ⟨db, isOpen, done, false⟩ = w.handles := by simp [← hw]
    have hnamed := hunchanged ▸ hs.handles.update hj (h := ⟨db, isOpen, done, false⟩) hdatabase
    cases isOpen with
    | false =>
      obtain ⟨trace, heval⟩ :=
        Session.eval_statement_gone (s := ⟨index, some id, d⟩) (c := c) rfl hw mode q step
      have hrefused := hasked.snoc (.refuse (calls_withCall_self ..) hhandle rfl rfl)
      exact ⟨_, _, _, heval, hs.followed_silently (p := .returned) hrefused trivial rfl rfl rfl rfl
        rfl rfl hnamed rfl rfl⟩
    | true =>
      obtain ⟨now, trace, res, heval, htimed⟩ :=
        Session.eval_statement_open (s := ⟨index, some id, d⟩) (c := c) rfl hw mode q step
      rw [hc, hstep] at heval htimed
      obtain ⟨⟨accepted, hverdict⟩, hevents⟩ := run_answered read q (w.states index)
      have hturn' : (Request.inside j mode q).turn s.driver =
          ((w.states index).run read q).map verdict := by
        rw [hturn, hs.driver]
        rfl
      have hengaged := hasked.snoc (.enter (calls_withCall_self ..) hhandle rfl rfl
        ((congrArg Turn.outcome hturn').trans hverdict))
      obtain ⟨s', hfollowed⟩ := hs.followed_engaged hengaged (calls_withCall_self ..)
        (congrArg Turn.events hturn') hevents trivial hverdict htimed rfl rfl rfl
        (calls_moved_of_ne s _ _)
      refine ⟨res, _, s', heval, hfollowed _ _ ?_ ?_ hs.begun rfl⟩
      · rw [settle_inside (handles_withHandle_self ..)]
        exact (congrArg Turn.next hturn').trans (update_same ..).symm
      -- Given back, the lock leaves the handle as it was.
      · rw [settle_inside (handles_withHandle_self ..), withHandle_withHandle]
        exact hnamed

/-- **Ending a transaction** makes the steps of a call. -/
theorem finish_followed (hc : c.driver = Typed.driver) (hs : s.Matches w index names)
    (hnew : s.calls t = none) (hj : names j = some id) (commits : Bool)
    (step : Driver Typed.State → Typed.State → Turn Typed.State (Reply Unit))
    (fails : Typed.State → Bool) {text : String}
    (hstep : ∀ st, step Typed.driver st = st.finish text (fails st))
    (hturn : ∀ st, (Request.finish j commits).turn st =
      (st.finish text (fails st)).map verdict) :
    ∃ res w' s', (finish id step).eval c w = (res, w') ∧
      Followed index t names s w names s' w' := by
  have hhandle := hs.handle hj
  have hasked := Path.nil.snoc (.ask (r := .finish j commits) trivial hnew)
  have hdatabase := hs.handles.database j id hj
  cases hw : w.handles id with | mk db isOpen done locked
  rw [hw] at hhandle hdatabase
  cases hdatabase
  cases locked with
  | true =>
    obtain ⟨now, res, heval, -⟩ := eval_finish_locked (c := c) hw step
    exact ⟨res, _, _, heval,
      hs.followed_waiting (r := .finish j commits) hnew trivial rfl rfl rfl rfl⟩
  | false =>
    have hnamed := hs.handles.update hj (h := ⟨db, false, true, false⟩) rfl
    cases isOpen with
    | false =>
      have hdenied := hasked.snoc (.deny (calls_withCall_self ..) hhandle rfl rfl)
      exact ⟨_, _, _, eval_finish_closed (c := c) hw step, hs.followed_silently (p := .returned)
        hdenied trivial rfl rfl rfl rfl rfl rfl hnamed rfl rfl⟩
    | true =>
      obtain ⟨now, res, heval, ha⟩ := eval_finish_open (c := c) hw step
      rw [hc, hstep] at heval ha
      have hturn' : (Request.finish j commits).turn s.driver =
          ((w.states db).finish text (fails (w.states db))).map verdict := by
        rw [hturn, hs.driver]
      obtain ⟨accepted, hverdict⟩ := exists_verdict (w.states db).faults.latency
        (Typed.refused (fails (w.states db)))
      have hengaged := hasked.snoc (.take (calls_withCall_self ..) hhandle rfl rfl
        ((congrArg Turn.outcome hturn').trans hverdict))
      obtain ⟨s', hfollowed⟩ := hs.followed_engaged hengaged (calls_withCall_self ..)
        (congrArg Turn.events hturn') nofun trivial hverdict ha.timed rfl rfl rfl
        (calls_moved_of_ne s _ _)
      refine ⟨res, _, s', heval, hfollowed _ _ ?_ hnamed hs.begun rfl⟩
      exact (congrArg (fun turn => turn.next.unlock) hturn').trans (update_same ..).symm

/-- **Giving a handle up** makes the steps of a call of the driver, if the transaction is open. -/
theorem abandon_followed (hc : c.driver = Typed.driver) (hrunning : c.running = true)
    (hs : s.Matches w index names) (hnew : s.calls t = none) (hj : names j = some id) :
    ∃ w' s', (abandon id).eval c w = (.ok (), w') ∧ Followed index t names s w names s' w' := by
  have hhandle := hs.handle hj
  have hdatabase := hs.handles.database j id hj
  cases hw : w.handles id with | mk db isOpen done locked
  rw [hw] at hhandle hdatabase
  cases hdatabase
  cases isOpen with
  | false =>
    exact ⟨w, s, eval_abandon_gone hw, ⟨⟨_, .nil⟩, hs, fun _ _ => rfl, ⟨[], by simp⟩⟩⟩
  | true =>
    obtain ⟨trace, heval⟩ := eval_abandon_open (c := c) hw
    rw [hc, hrunning] at heval
    have hturn : (Request.abandon j).turn s.driver = ((Typed.driver.abandon true (w.states db)).map
        fun notices => some notices.isEmpty) := by
      rw [hs.driver]
      rfl
    have htexts := congrArg Turn.events hturn
    have hengaged := Path.nil.snoc (.drop hhandle (fun u call hu _ => hs.idle u call hu) rfl hnew
      (congrArg Turn.outcome hturn))
    obtain ⟨moves, entries, s', hpath, hset, hentries⟩ := hengaged.answered
      (calls_withCall_self ..) (ne_of_eq_of_ne htexts nofun) hs.queue
    refine ⟨_, s', heval, hs.followed_settled hpath hset (hentries.trans htexts) rfl rfl
      (fun u hu => calls_withCall_of_ne _ hu ..) rfl ?_ (hs.handles.update hj rfl) hs.begun rfl⟩
    exact (congrArg (fun turn => turn.next.unlock) hturn).trans (update_same ..).symm

/-! ## All programs -/

/-- **The programs on a database** make the steps of calls on its line. -/
structure ProgramsFollow (c : Scope Typed.State) (d : Database Typed.State) (index : Nat) :
    Prop where
  queryRows : ∀ {s w names t} (q : Sql.Query), s.Matches w index names → s.calls t = none →
    ∃ res w' s', ((Session.plain index d).queryRows q).eval c w = (res, w') ∧
      Followed index t names s w names s' w'
  execQuery : ∀ {s w names t} (q : Sql.Query), s.Matches w index names → s.calls t = none →
    ∃ res w' s', ((Session.plain index d).execQuery q).eval c w = (res, w') ∧
      Followed index t names s w names s' w'
  beginTransaction : ∀ {s w names t} (options : TransactionOptions), s.Matches w index names →
    s.calls t = none → ∃ res w' s', (beginTransaction index d options).eval c w = (res, w') ∧
      Followed index t names s w (named names t res) s' w'
  queryRowsInside : ∀ {s w names t j id} (q : Sql.Query), s.Matches w index names →
    s.calls t = none → names j = some id →
    ∃ res w' s', (Session.queryRows ⟨index, some id, d⟩ q).eval c w = (res, w') ∧
      Followed index t names s w names s' w'
  execQueryInside : ∀ {s w names t j id} (q : Sql.Query), s.Matches w index names →
    s.calls t = none → names j = some id →
    ∃ res w' s', (Session.execQuery ⟨index, some id, d⟩ q).eval c w = (res, w') ∧
      Followed index t names s w names s' w'
  commit : ∀ {s w names t j id}, s.Matches w index names → s.calls t = none →
    names j = some id → ∃ res w' s', (commit id).eval c w = (res, w') ∧
      Followed index t names s w names s' w'
  rollback : ∀ {s w names t j id}, s.Matches w index names → s.calls t = none →
    names j = some id → ∃ res w' s', (rollback id).eval c w = (res, w') ∧
      Followed index t names s w names s' w'
  abandon : ∀ {s w names t j id}, s.Matches w index names → s.calls t = none →
    names j = some id → ∃ w' s', (abandon id).eval c w = (.ok (), w') ∧
      Followed index t names s w names s' w'

/-- **Programs make the steps of calls** wherever calls of the driver can still run. -/
theorem programsFollow (hc : c.driver = Typed.driver) (hrunning : c.running = true) :
    ProgramsFollow c d index where
  queryRows q hs hnew := statement_followed hc hs hnew .query q (fun _ _ => rfl) fun _ => rfl
  execQuery q hs hnew := statement_followed hc hs hnew .exec q (fun _ _ => rfl) fun _ => rfl
  beginTransaction options hs hnew := begin_followed hc hs hnew options
  queryRowsInside q hs hnew hj :=
    inside_followed hc hs hnew hj .query q (fun _ _ => rfl) fun _ => rfl
  execQueryInside q hs hnew hj :=
    inside_followed hc hs hnew hj .exec q (fun _ _ => rfl) fun _ => rfl
  commit hs hnew hj :=
    finish_followed hc hs hnew hj true Driver.commit (fun st => st.faults.atCommit)
      (fun _ => rfl) fun _ => rfl
  rollback hs hnew hj := by
    obtain ⟨res, w', s', heval, h⟩ := finish_followed hc hs hnew hj false Driver.rollback
      (fun st => st.faults.atRollback) (fun _ => rfl) fun _ => rfl
    obtain ⟨trace, heval⟩ := eval_rollback heval
    exact ⟨res, _, s', heval, h.path, ⟨h.rests.database, h.rests.driver, h.rests.queue,
      h.rests.idle, h.rests.handles, h.rests.begun⟩, h.calls, h.seen⟩
  abandon hs hnew hj := abandon_followed hc hrunning hs hnew hj

end EntityMapper.Line

import EntityMapper.Proofs.Model.Writing
import EntityMapper.Proofs.Result
import EntityMapper.Proofs.Session.Forwarding
import EntityMapper.Proofs.Session.Timing

/-!
# Reading the first row, and reading all of them

Whether one row is asked for or all of them, the same statement is sent, and what it is answered
with is read row by row, each row for itself. Reading the first one takes no notice of those after
it; reading all of them comes to an instance for each, or to the fault of the first row that cannot
be read.

## Main definitions

* `Reading k e m answered first all`: what reading comes to, for what was answered
* `Answered s q c w u answered`: what a statement is answered with, and what gets to the driver
* `ReadAlike s e q c w first u all u'`: what reading the first row and reading all of them have in
  common

## Main results

* `Session.eval_decodeAll`: reading rows as instances
* `reading_of`: what reading comes to
* `Session.answered_queryRows`: what a statement is answered with
* `reads_alike`: reading the first row, and reading all of them
-/

namespace EntityMapper

open EntityMapper.Sql

variable {σ : Type}

/-! ## Reading rows -/

/-- The first of some rows as an instance. -/
def decodeFirst (k : AccessorKind) (e : Entity) (m : Model) : List Row → Except Error Instance
  | [] => .error .noRows
  | r :: _ => decodeRow k e m r

namespace Session

variable {s : Session σ} {e : Entity} {m : Model} {q : Query} {c : Scope σ} {v v' : RunState σ}
  {answered : Except Interrupt (Except Error (List Row))}

theorem eval_decode (s : Session σ) (e : Entity) (m : Model) (r : Row) (c : Scope σ)
    (w : RunState σ) :
    ∃ w', (s.decode e m r).eval c w = (.ok (decodeRow s.database.settings.accessor e m r), w') := by
  obtain ⟨examined, trace, h⟩ := s.eval_useModel e m c w
  rw [decode, eval_bind, h]
  exact ⟨_, rfl⟩

/-- **Rows are read one after another**, each for itself. -/
theorem eval_decodeAll (s : Session σ) (e : Entity) (m : Model) (rs : List Row) (c : Scope σ)
    (w : RunState σ) : ∃ w', (s.decodeAll e m rs).eval c w =
      (.ok (rs.mapM (decodeRow s.database.settings.accessor e m)), w') := by
  induction rs generalizing w with
  | nil => exact ⟨w, rfl⟩
  | cons r rs ih =>
    obtain ⟨w₁, hr⟩ := s.eval_decode e m r c w
    rw [decodeAll, eval_bind, hr, List.mapM_cons]
    cases decodeRow s.database.settings.accessor e m r with
    | error err => exact ⟨w₁, rfl⟩
    | ok i =>
      obtain ⟨w₂, hrs⟩ := ih w₁
      dsimp only
      rw [eval_bind, hrs]
      cases rs.mapM (decodeRow s.database.settings.accessor e m) with
      | error err => exact ⟨w₂, rfl⟩
      | ok is => exact ⟨w₂, rfl⟩

/-- The first row of what a statement is answered with. -/
theorem eval_answer_first (h : (s.queryRows q).eval c v = (answered, v')) :
    ∃ v₁, (s.answer e .first m q).eval c v = (answered.map fun rows =>
        (rows >>= decodeFirst s.database.settings.accessor e m).map (.one e), v₁) ∧
      Untouched v' v₁ := by
  rw [answer, eval_bind, h]
  rcases answered with i | err | _ | ⟨r, rs⟩
  · exact ⟨v', rfl, .refl v'⟩
  · exact ⟨v', rfl, .refl v'⟩
  · exact ⟨v', rfl, .refl v'⟩
  · have hquiet := s.quiet_decode e m r c v'
    obtain ⟨v₁, hr⟩ := s.eval_decode e m r c v'
    rw [hr] at hquiet
    dsimp only
    rw [eval_bind, hr]
    exact ⟨v₁, rfl, hquiet⟩

/-- All rows of what a statement is answered with. -/
theorem eval_answer_all (h : (s.queryRows q).eval c v = (answered, v')) :
    ∃ v₁, (s.answer e .all m q).eval c v = (answered.map fun rows =>
        (rows >>= List.mapM (decodeRow s.database.settings.accessor e m)).map (.many e), v₁) ∧
      Untouched v' v₁ := by
  rw [answer, eval_bind, h]
  rcases answered with i | err | rs
  · exact ⟨v', rfl, .refl v'⟩
  · exact ⟨v', rfl, .refl v'⟩
  · have hquiet := s.quiet_decodeAll e m rs c v'
    obtain ⟨v₁, hrs⟩ := s.eval_decodeAll e m rs c v'
    rw [hrs] at hquiet
    dsimp only
    rw [eval_bind, hrs]
    exact ⟨v₁, rfl, hquiet⟩

end Session

/-- **What reading comes to**, for what was answered. -/
structure Reading (k : AccessorKind) (e : Entity) (m : Model)
    (answered : Except Interrupt (Except Error (List Row)))
    (first : Except Interrupt (Except Error Instance))
    (all : Except Interrupt (Except Error (List Instance))) : Prop where
  interrupted : ∀ i, answered = .error i → first = .error i ∧ all = .error i
  failed : ∀ err, answered = .ok (.error err) → first = .ok (.error err) ∧ all = .ok (.error err)
  empty : answered = .ok (.ok []) → first = .ok (.error .noRows)
  /-- The first row is read, whatever the later ones are. -/
  row : ∀ r rs, answered = .ok (.ok (r :: rs)) → first = .ok (decodeRow k e m r)
  /-- All rows are read, each for itself. -/
  rows : ∀ rs, answered = .ok (.ok rs) → ∀ is,
    all = .ok (.ok is) ↔ List.Forall₂ (fun r i => decodeRow k e m r = .ok i) rs is
  /-- The fault is that of the first row that cannot be read. -/
  fault : ∀ rs, answered = .ok (.ok rs) → ∀ err,
    all = .ok (.error err) ↔ ∃ before r after, rs = before ++ r :: after ∧
      (∀ r' ∈ before, ∃ i, decodeRow k e m r' = .ok i) ∧ decodeRow k e m r = .error err
  head : ∀ i is, all = .ok (.ok (i :: is)) → first = .ok (.ok i)

/-- **What reading comes to.** -/
theorem reading_of (k : AccessorKind) (e : Entity) (m : Model)
    (answered : Except Interrupt (Except Error (List Row))) :
    Reading k e m answered (answered.map (· >>= decodeFirst k e m))
      (answered.map (· >>= List.mapM (decodeRow k e m))) := by
  constructor
  case interrupted => rintro i rfl; exact ⟨rfl, rfl⟩
  case failed => rintro err rfl; exact ⟨rfl, rfl⟩
  case empty => rintro rfl; rfl
  case row => rintro r rs rfl; rfl
  case rows =>
    rintro rs rfl is
    exact (Except.ok.injEq ..).to_iff.trans mapM_eq_ok
  case fault =>
    rintro rs rfl err
    exact (Except.ok.injEq ..).to_iff.trans mapM_eq_error
  case head =>
    intro i is hall
    obtain ⟨rows, rfl, hrows⟩ := map_eq_ok.mp hall
    obtain ⟨rs, rfl, hrs⟩ := bind_eq_ok.mp hrows
    cases mapM_eq_ok.mp hrs with
    | cons hr _ => exact congrArg Except.ok hr

/-! ## Sending a statement -/

/-- **What a statement is answered with, and what gets to the driver**: nothing, or one call with
the statement. Rows come from the driver; and what it answers arrives, if the session is open and
there is time for it. -/
structure Answered (s : Session (σ × List DriverCall)) (q : Query) (c : Scope σ)
    (w u : RunState (σ × List DriverCall)) (answered : Except Interrupt (Except Error (List Row))) :
    Prop where
  sent : (u.states = w.states ∧ ∀ rows, answered ≠ .ok (.ok rows)) ∨
    u.calls s.index = w.calls s.index ++
        [.query q (c.driver.query s.transaction.isSome q (w.states s.index).1).outcome] ∧
      (∀ i, i ≠ s.index → u.states i = w.states i) ∧
      ∀ rows, answered = .ok (.ok rows) → ∃ delay,
        (c.driver.query s.transaction.isSome q (w.states s.index).1).outcome =
          .answered delay (.ok rows)
  arrives : s.IsOpen w → c.deadlines = [] → ∀ delay rows,
    (c.driver.query s.transaction.isSome q (w.states s.index).1).outcome =
      .answered delay (.ok rows) →
    (∀ t, s.database.settings.timeout = some t → delay.ticks ≤ t.ticks) →
    answered = .ok (.ok rows)

section Sending

variable {s : Session (σ × List DriverCall)} {q : Query} {c : Scope σ}
  {w w₁ u u₁ : RunState (σ × List DriverCall)}
  {answered : Except Interrupt (Except Error (List Row))}

/-- What leaves drivers and transactions as they are makes no difference to the answer. -/
theorem Answered.congr (h : Answered s q c w u answered) (hstates : w₁.states = w.states)
    (hhandles : w₁.handles = w.handles) (hu : u₁.states = u.states) :
    Answered s q c w₁ u₁ answered := by
  obtain ⟨hsent, harrives⟩ := h
  constructor
  · rw [RunState.calls, RunState.calls, hstates, hu]
    exact hsent
  · intro hopen
    rw [hstates]
    exact harrives fun id hid => by rw [← hhandles]; exact hopen id hid

/-- An answer in time arrives. -/
theorem arrival_within_of_le {α : Type} {limit : Option Duration} {delay : Duration}
    (hlimit : ∀ t, limit = some t → delay.ticks ≤ t.ticks) (r : Except Error α) (now : Nat) :
    ((Reply.answered delay r).within limit).arrival [] now = (.ok r, now + delay.ticks) := by
  cases limit with
  | none => rfl
  | some t =>
    rw [Reply.within_of_le (hlimit t rfl)]
    rfl

/-- What arrives, other than a fault, was answered. -/
theorem exists_answered {α : Type} {limit : Option Duration} {reply : Reply α} {ds : List Nat}
    {now : Nat} {a : α} (h : ((reply.within limit).arrival ds now).1 = .ok (.ok a)) :
    ∃ delay, reply = .answered delay (.ok a) := by
  have harrived (reply : Reply α) (r : Except Error α) (h : (reply.arrival ds now).1 = .ok r) :
      ∃ delay, reply = .answered delay r := by
    cases reply with
    | answered delay r' =>
      rw [Reply.arrival] at h
      split at h
      · cases h
      · cases h
        exact ⟨delay, rfl⟩
    | waiting =>
      rw [Reply.arrival] at h
      split at h <;> cases h
  obtain ⟨delay, hreply⟩ := harrived _ _ h
  -- What was given up is a fault.
  rcases limit with _ | t
  · exact ⟨delay, hreply⟩
  · rcases reply with ⟨delay', r⟩ | _
    · rw [Reply.within] at hreply
      split at hreply <;> cases hreply
      exact ⟨delay, rfl⟩
    · cases hreply

/-- **What a statement is answered with.** -/
theorem Session.answered_queryRows (s : Session (σ × List DriverCall)) (q : Query) (c : Scope σ)
    (w : RunState (σ × List DriverCall)) :
    Answered s q c w ((s.queryRows q).eval c.recording w).2
      ((s.queryRows q).eval c.recording w).1 := by
  by_cases hopen : s.IsOpen w
  · rw [queryRows, eval_statement_eq hopen]
    constructor
    · refine .inr ⟨?_, fun i hi => if_neg hi, fun rows h => exists_answered h⟩
      exact calls_after w s.index _ 0
    · intro _ hds delay rows hreply hlimit
      have hdeadlines : c.recording.deadlines = [] := hds
      have hturn : (c.recording.driver.query s.transaction.isSome q (w.states s.index)).outcome =
          .answered delay (.ok rows) := hreply
      rw [hturn, hdeadlines, arrival_within_of_le hlimit]
  · -- Otherwise it is on a transaction that is over, or whose lock somebody holds.
    simp only [IsOpen, not_forall, exists_prop] at hopen
    obtain ⟨id, hid, hclosed⟩ := hopen
    refine ⟨.inl ?_, fun h => absurd (h id hid) hclosed⟩
    rcases hw : w.handles id with ⟨db, isOpen, done, _ | _⟩
    · obtain rfl : isOpen = false := by simpa [hw] using hclosed
      obtain ⟨trace, h⟩ := s.eval_statement_gone (c := c.recording) hid hw .query q
        fun inTransaction driver => driver.query inTransaction q
      rw [queryRows, h]
      exact ⟨rfl, nofun⟩
    · obtain ⟨now, trace, res, h, ht⟩ := s.eval_statement_locked (c := c.recording) hid hw .query q
        fun inTransaction driver => driver.query inTransaction q
      rw [queryRows, h]
      refine ⟨rfl, ?_⟩
      rintro rows rfl
      cases ht with
      | answered delay r hreply => cases hreply

end Sending

/-! ## Reading -/

/-- **What reading the first row and reading all of them have in common**: without a model of the
entity both fail alike; otherwise both send the same statement, and read what it is answered
with. -/
structure ReadAlike (s : Session (σ × List DriverCall)) (e : Entity) (q : Query) (c : Scope σ)
    (w : RunState (σ × List DriverCall))
    (first : Except Interrupt (Except Error Instance) × RunState (σ × List DriverCall))
    (all : Except Interrupt (Except Error (List Instance)) × RunState (σ × List DriverCall)) :
    Prop where
  unknown : ∀ err w', (s.model e).eval c.recording w = (.ok (.error err), w') →
    first = (.ok (.error err), w') ∧ all = (.ok (.error err), w') ∧ w'.states = w.states
  known : ∀ m w', (s.model e).eval c.recording w = (.ok (.ok m), w') → ∃ answered,
    Answered s q c w first.2 answered ∧ all.2.states = first.2.states ∧
      Reading s.database.settings.accessor e m answered first.1 all.1

section Reads

variable {s : Session (σ × List DriverCall)} {ds : List (Chooser (Run (σ × List DriverCall)))}
  {e : Entity} {stmt : Statement} {q : Query} {c : Scope σ}
  {w w₁ : RunState (σ × List DriverCall)}

/-- An instance is what is asked for, and so are instances. -/
theorem map_one_convert (e : Entity) (x : Except Error Instance) :
    (x.map (.one e) >>= Output.convert e .first) = x := by
  cases x with
  | error err => rfl
  | ok i => exact if_pos rfl

theorem map_many_convert (e : Entity) (x : Except Error (List Instance)) :
    (x.map (.many e) >>= Output.convert e .all) = x := by
  cases x with
  | error err => rfl
  | ok is => exact if_pos rfl

/-- **Reading the first row and reading all of them** come to the same, row by row, through
middlewares that only forward. -/
theorem reads_alike (hs : s.database.middlewares = ds.map Chooser.middleware)
    (hds : ∀ d ∈ ds, d.Forwards s e stmt)
    (hbuild : (s.build e stmt).eval c.recording w = (.ok (.ok q), w₁)) :
    ReadAlike s e q c w ((s.get e stmt).eval c.recording w)
      ((s.getAll e stmt).eval c.recording w) := by
  constructor
  · intro err w' hm
    refine ⟨?_, ?_, (Session.of_eval_model hm).1⟩
    · show (s.ask e stmt .first).eval c.recording w = _
      rw [s.ask_eq e stmt .first nofun, eval_map, Session.eval_operate_of_error hm]
      rfl
    · show (s.ask e stmt .all).eval c.recording w = _
      rw [s.ask_eq e stmt .all nofun, eval_map, Session.eval_operate_of_error hm]
      rfl
  · intro m w' hm
    obtain ⟨w₂, hcompiled, -⟩ := Session.eval_build_compiled stmt hm
    have hq : s.compiled e stmt m = .ok q := by
      simpa using congrArg Prod.fst (hcompiled.symm.trans hbuild)
    have hstart : Settled s e stmt m ⟨none, w'⟩ := ⟨lookup?_of_modelOf hm, nofun⟩
    obtain ⟨v, hv, hforwarded⟩ := hstart.forwarded hds hq c.recording
    rw [← hs] at hforwarded
    have hanswered := s.answered_queryRows q c v
    rcases hrows : (s.queryRows q).eval c.recording v with ⟨answered, v'⟩
    rw [hrows] at hanswered
    -- Either of the two reads what the statement is answered with from the state `v`.
    obtain ⟨v₁, hfirst, hv₁⟩ := Session.eval_answer_first (e := e) (m := m) hrows
    obtain ⟨v₂, hall, hv₂⟩ := Session.eval_answer_all (e := e) (m := m) hrows
    obtain ⟨u, hget, hu⟩ := (hforwarded .first).eval_ask nofun hm hfirst
    obtain ⟨u', hgetAll, hu'⟩ := (hforwarded .all).eval_ask nofun hm hall
    obtain ⟨hstates, hhandles, -⟩ := Session.of_eval_model hm
    have hone : (s.get e stmt).eval c.recording w =
        (answered.map (· >>= decodeFirst s.database.settings.accessor e m), u) := by
      refine hget.trans (congrArg (·, u) ?_)
      cases answered with
      | error i => rfl
      | ok rows => exact congrArg Except.ok (map_one_convert e _)
    have hmany : (s.getAll e stmt).eval c.recording w = (answered.map
        (· >>= List.mapM (decodeRow s.database.settings.accessor e m)), u') := by
      refine hgetAll.trans (congrArg (·, u') ?_)
      cases answered with
      | error i => rfl
      | ok rows => exact congrArg Except.ok (map_many_convert e _)
    rw [hone, hmany]
    refine ⟨answered, ?_, ?_, reading_of _ e m answered⟩
    · exact hanswered.congr (hstates.symm.trans hv.states.symm)
        (hhandles.symm.trans hv.handles.symm) (hu.states.trans hv₁.states)
    · exact (hu'.states.trans hv₂.states).trans (hu.states.trans hv₁.states).symm

end Reads

/-- A database of gauges, with stages that look at everything and with a limit of time. -/
def gauges : Session (Scripted.State × List DriverCall) :=
  .plain 0 ⟨⟨.postgres, .byName, 3, some ⟨5000000⟩, 0⟩, watchers.map (Scenario.Stage.middleware 0)⟩

/-- The start of a run in which a statement is answered with two gauges. The level of the second
is not a number. -/
def gaugesStart : RunState (Scripted.State × List DriverCall) :=
  { Scenario.startState (.start [.rows ["reading", "id"]
      [[.text " 40", .text "7"], [.text "high", .text "8"]]] ⟨none, none, none, ⟨3000000⟩⟩, []) []
    with registries := fun _ => Registry.empty.store gaugeModel }

/-- The first gauge can be read, but not both of them. -/
theorem gauges_alike :
    let ds := watchers.map (Scenario.Stage.chooser 0)
    let c := Scenario.startScope Scripted.driver
    let q : Query := ⟨"SELECT * FROM \"gauge\";", []⟩
    gauges.database.middlewares = ds.map Chooser.middleware ∧
      (∀ d ∈ ds, d.Forwards gauges gauge (.select .all)) ∧
      ∃ w₁ err u u',
        (gauges.build gauge (.select .all)).eval c.recording gaugesStart = (.ok (.ok q), w₁) ∧
        ReadAlike gauges gauge q c gaugesStart
          (.ok (.ok ⟨[.int .u8 ⟨7, by decide⟩, .int .i32 ⟨40, by decide⟩]⟩), u)
          (.ok (.error err), u') := by
  intro ds c q
  have hs : gauges.database.middlewares = ds.map Chooser.middleware := by
    rw [List.map_map]
    exact List.map_congr_left fun stage _ => stage.middleware_eq 0
  have hds : ∀ d ∈ ds, d.Forwards gauges gauge (.select .all) := by
    have hwatch : ∀ stage ∈ watchers, stage.Watches := by
      simp [watchers, Scenario.Stage.Watches]
    intro d hd
    obtain ⟨stage, hstage, rfl⟩ := List.mem_map.mp hd
    exact Scenario.Stage.forwards 0 (hwatch stage hstage) gauges gauge (.select .all)
  obtain ⟨w₁, hbuild⟩ : ∃ w₁, (gauges.build gauge (.select .all)).eval c.recording gaugesStart =
      (.ok (.ok q), w₁) := ⟨_, rfl⟩
  have hget : ((gauges.get gauge (.select .all)).eval c.recording gaugesStart).1 =
      .ok (.ok ⟨[.int .u8 ⟨7, by decide⟩, .int .i32 ⟨40, by decide⟩]⟩) := rfl
  obtain ⟨err, hgetAll⟩ : ∃ err, ((gauges.getAll gauge (.select .all)).eval c.recording
      gaugesStart).1 = .ok (.error err) := ⟨_, rfl⟩
  have halike := reads_alike hs hds hbuild
  rcases hfirst : (gauges.get gauge (.select .all)).eval c.recording gaugesStart with ⟨res, u⟩
  rcases hall : (gauges.getAll gauge (.select .all)).eval c.recording gaugesStart with ⟨res', u'⟩
  rw [hfirst] at hget halike
  rw [hall] at hgetAll halike
  obtain rfl : res = _ := hget
  obtain rfl : res' = _ := hgetAll
  exact ⟨hs, hds, w₁, err, u, u', hbuild, halike⟩

end EntityMapper

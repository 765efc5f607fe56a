import EntityMapper.Proofs.Run.Congruence
import EntityMapper.Proofs.Session.Timing

/-!
# Runs at the pace of a limit

A run in which statements may take so long and no longer goes as a run without a limit does on a
driver that gives its answers up in time. Nothing else in the two runs differs, whatever the
programs are and wherever their deadlines are. What this needs is that nobody holds a lock while
nothing is running, and that transactions begin in time.

## Main definitions

* `Turn.within`, `Driver.within`: steps whose answers are given up in time, and a driver that makes
  only such
* `Driver.Keeps d holds`: states that a driver does not leave
* `Pace σ`: a driver, and one that gives its answers up in time
* `P.Fit w`: states between programs
* `P.Programs x y`: programs that come to the same, each on its driver

## Main results

* `Programs.bind`, `Programs.tryCatch`, `Programs.get_bind`, …: programs put together
* `programs_await`, `programs_call`: waiting, and steps of the driver that are the same
* `programs_statement`: statements, with the limit and without
-/

namespace EntityMapper

variable {σ α β : Type}

/-! ## The two drivers -/

/-- A step whose answer is given up in time. What was sent stays sent. -/
def Turn.within (limit : Option Duration) (turn : Turn σ (Reply α)) : Turn σ (Reply α) :=
  { turn with outcome := turn.outcome.within limit }

/-- **A driver that gives its answers to statements up in time.** -/
def Driver.within (d : Driver σ) (limit : Option Duration) : Driver σ where
  query b q s := (d.query b q s).within limit
  execute b q s := (d.execute b q s).within limit
  beginTransaction := d.beginTransaction
  forgo := d.forgo
  commit := d.commit
  rollback := d.rollback
  abandon := d.abandon

/-- **States that a driver does not leave.** -/
structure Driver.Keeps (d : Driver σ) (holds : σ → Prop) : Prop where
  query : ∀ b q s, holds s → holds (d.query b q s).next
  execute : ∀ b q s, holds s → holds (d.execute b q s).next
  beginTransaction : ∀ o s, holds s → holds (d.beginTransaction o s).next
  forgo : ∀ s, holds s → holds (d.forgo s)
  commit : ∀ s, holds s → holds (d.commit s).next
  rollback : ∀ s, holds s → holds (d.rollback s).next
  abandon : ∀ running s, holds s → holds (d.abandon running s).next

/-- **A driver, and one that gives its answers to statements up in time.** They are alike in all
else, and on states that hold transactions begin in time. -/
structure Pace (σ : Type) where
  limit : Duration
  driver : Driver σ
  timely : Driver σ
  /-- The databases in question. -/
  covers : Nat → Prop
  /-- The states in question. -/
  holds : σ → Prop
  keeps : driver.Keeps holds
  query : ∀ b q s, holds s → timely.query b q s = (driver.query b q s).within (some limit)
  execute : ∀ b q s, holds s → timely.execute b q s = (driver.execute b q s).within (some limit)
  rest : timely = { driver with query := timely.query, execute := timely.execute }
  begins : ∀ o s, holds s → ∃ delay r,
    (driver.beginTransaction o s).outcome = .answered delay r ∧ delay.ticks ≤ limit.ticks

namespace Pace

/-- **States between programs**: nobody holds a lock, and the drivers are where they may be. -/
structure Fit (P : Pace σ) (w : RunState σ) : Prop where
  unlocked : ∀ id, (w.handles id).locked = false
  holds : ∀ i, P.covers i → P.holds (w.states i)

/-- The same scope with the timely driver. -/
def scope (P : Pace σ) (c : Scope σ) : Scope σ := { c with driver := P.timely }

/-- **Programs that come to the same**, each on its driver. -/
def Programs (P : Pace σ) (x y : Run σ α) : Prop :=
  ∀ c w, c.driver = P.driver → P.Fit w →
    y.eval (P.scope c) w = x.eval c w ∧ P.Fit (x.eval c w).2

variable {P : Pace σ}

/-! ## Programs put together -/

namespace Programs

theorem pure (a : α) : P.Programs (Pure.pure a) (Pure.pure a) := fun _ _ _ hw => ⟨rfl, hw⟩

theorem throw (i : Interrupt) :
    P.Programs (MonadExcept.throw i : Run σ α) (MonadExcept.throw i) := fun _ _ _ hw => ⟨rfl, hw⟩

/-- **Programs one after another.** -/
theorem bind {x y : Run σ α} {f g : α → Run σ β} (hx : P.Programs x y)
    (hf : ∀ a, P.Programs (f a) (g a)) : P.Programs (x >>= f) (y >>= g) := by
  intro c w hc hw
  obtain ⟨heq, hv⟩ := hx c w hc hw
  rw [eval_bind, eval_bind, heq]
  rcases hx' : x.eval c w with ⟨i | a, v⟩ <;> rw [hx'] at hv
  · exact ⟨rfl, hv⟩
  · exact hf a c v hc hv

/-- Programs that come to the same are put together from such programs. -/
theorem congruence : Congruence fun _ => P.Programs := ⟨pure, bind⟩

theorem map {x y : Run σ α} (f : α → β) (hx : P.Programs x y) : P.Programs (f <$> x) (f <$> y) :=
  congruence.map f hx

/-- Programs that go on with what has succeeded. -/
theorem bind_ok {ε : Type} {x y : Run σ (Except ε α)} {f g : Except ε α → Run σ β}
    (hx : P.Programs x y) (herror : ∀ err, P.Programs (f (.error err)) (g (.error err)))
    (hok : ∀ a, P.Programs (f (.ok a)) (g (.ok a))) : P.Programs (x >>= f) (y >>= g) :=
  congruence.bind_ok hx herror hok

/-- What is done about an interruption. -/
theorem tryCatch {x y : Run σ α} {f g : Interrupt → Run σ α} (hx : P.Programs x y)
    (hf : ∀ i, P.Programs (f i) (g i)) :
    P.Programs (MonadExcept.tryCatch x f) (MonadExcept.tryCatch y g) := by
  intro c w hc hw
  obtain ⟨heq, hv⟩ := hx c w hc hw
  rw [eval_tryCatch, eval_tryCatch, heq]
  rcases hx' : x.eval c w with ⟨i | a, v⟩ <;> rw [hx'] at hv
  · exact hf i c v hc hv
  · exact ⟨rfl, hv⟩

/-- Programs that depend on the state. -/
theorem get_bind {f g : RunState σ → Run σ α}
    (h : ∀ c w, c.driver = P.driver → P.Fit w →
      (g w).eval (P.scope c) w = (f w).eval c w ∧ P.Fit ((f w).eval c w).2) :
    P.Programs (get >>= f) (get >>= g) := by
  intro c w hc hw
  rw [eval_bind, eval_bind]
  exact h c w hc hw

/-- Programs that depend on the scope. -/
theorem read_bind {f g : Scope σ → Run σ α}
    (h : ∀ c, c.driver = P.driver → P.Programs (f c) (g (P.scope c))) :
    P.Programs (read >>= f) (read >>= g) := by
  intro c w hc hw
  rw [eval_bind, eval_bind]
  exact h c hc c w hc hw

theorem modify {f : RunState σ → RunState σ} (h : ∀ w, P.Fit w → P.Fit (f w)) :
    P.Programs (modify f : Run σ Unit) (modify f) := fun _ w _ hw => ⟨rfl, h w hw⟩

/-- Changes of the scope that leave its driver. -/
theorem withReader {x y : Run σ α} {f : Scope σ → Scope σ} (hdriver : ∀ c, (f c).driver = c.driver)
    (hf : ∀ c, f (P.scope c) = P.scope (f c)) (hx : P.Programs x y) :
    P.Programs (MonadWithReader.withReader f x : Run σ α) (MonadWithReader.withReader f y) := by
  intro c w hc hw
  rw [eval_withReader, eval_withReader, hf]
  exact hx (f c) w ((hdriver c).trans hc) hw

end Programs

/-! ## Waiting -/

theorem programs_advance (tick : Nat) : P.Programs (advance tick : Run σ Unit) (advance tick) :=
  .modify fun _ hw => ⟨hw.unlocked, hw.holds⟩

theorem programs_waitUntil (tick : Nat) :
    P.Programs (waitUntil tick : Run σ Unit) (waitUntil tick) := by
  refine .read_bind fun c _ => ?_
  rw [show (P.scope c).deadlines = c.deadlines from rfl]
  cases earliestBefore tick c.deadlines with
  | none => exact programs_advance tick
  | some d => exact (programs_advance d).bind fun _ => .throw (.deadline d)

theorem programs_wait (d : Duration) : P.Programs (wait d : Run σ Unit) (wait d) :=
  .get_bind fun c w => programs_waitUntil (w.now + d.ticks) c w

theorem programs_waitForever : P.Programs (waitForever : Run σ α) waitForever := by
  refine .read_bind fun c _ => ?_
  rw [show (P.scope c).deadlines = c.deadlines from rfl]
  cases c.deadlines.min? with
  | none => exact .throw .never
  | some d => exact (programs_advance d).bind fun _ => .throw (.deadline d)

theorem programs_await (reply : Reply α) : P.Programs (await reply) (await reply : Run σ _) := by
  cases reply with
  | waiting => exact programs_waitForever
  | answered delay r => exact (programs_wait delay).bind fun _ => .pure r

theorem programs_withDeadline (tick : Nat) {x y : Run σ α} (hx : P.Programs x y) :
    P.Programs (withDeadline tick x) (withDeadline tick y) := by
  have hinner : P.Programs
      (withReader (fun s : Scope σ => { s with deadlines := tick :: s.deadlines }) (some <$> x))
      (withReader (fun s : Scope σ => { s with deadlines := tick :: s.deadlines }) (some <$> y)) :=
    .withReader (fun _ => rfl) (fun _ => rfl) (hx.map some)
  refine hinner.tryCatch fun i => ?_
  cases i with
  | never => exact .throw .never
  | deadline t =>
    show P.Programs (if t = tick then pure none else throw (.deadline t))
      (if t = tick then pure none else throw (.deadline t))
    split
    · exact .pure none
    · exact .throw (.deadline t)

theorem programs_onInterrupt {x y : Run σ α} {cleanup cleanup' : Run σ Unit} (hx : P.Programs x y)
    (hcleanup : P.Programs cleanup cleanup') :
    P.Programs (onInterrupt x cleanup) (onInterrupt y cleanup') :=
  hx.tryCatch fun i => hcleanup.bind fun _ => .throw i

theorem programs_andFinally {x y : Run σ α} {cleanup cleanup' : Run σ Unit} (hx : P.Programs x y)
    (hcleanup : P.Programs cleanup cleanup') :
    P.Programs (andFinally x cleanup) (andFinally y cleanup') :=
  (programs_onInterrupt hx hcleanup).bind fun a => hcleanup.bind fun _ => .pure a

/-! ## Registries and reports -/

theorem programs_report (n : Notice) : P.Programs (report n : Run σ Unit) (report n) :=
  .modify fun _ hw => ⟨hw.unlocked, hw.holds⟩

theorem programs_writeLog (e : LogEntry) : P.Programs (writeLog e : Run σ Unit) (writeLog e) :=
  .modify fun _ hw => ⟨hw.unlocked, hw.holds⟩

theorem programs_takeEvents (databases : Nat) :
    P.Programs (takeEvents databases : Run σ _) (takeEvents databases) :=
  .get_bind fun _ _ _ hw => ⟨rfl, hw.unlocked, hw.holds⟩

theorem programs_registerEntity (registry : Nat) (e : Entity) (options : List ModelOption) :
    P.Programs (registerEntity registry e options : Run σ _)
      (registerEntity registry e options) := by
  intro c w _ hw
  rw [eval_registerEntity, eval_registerEntity]
  refine ⟨rfl, ?_⟩
  cases (w.registries registry).register e options with
  | error err => exact hw
  | ok p => exact ⟨hw.unlocked, hw.holds⟩

theorem programs_modelOf (registry : Nat) (e : Entity) :
    P.Programs (modelOf registry e : Run σ _) (modelOf registry e) := by
  intro c w hc hw
  rw [eval_modelOf, eval_modelOf]
  cases (w.registries registry).lookup? e with
  | some m => exact ⟨rfl, hw⟩
  | none => exact programs_registerEntity registry e [] c w hc hw

/-! ## Drivers and transactions -/

/-- What a step of a driver leaves is fit. -/
theorem Fit.after {w : RunState σ} (hw : P.Fit w) (i : Nat) (turn : Turn σ α) (now : Nat)
    (hturn : P.covers i → P.holds turn.next) : P.Fit (w.after i turn now) where
  unlocked := hw.unlocked
  holds j hj := by
    by_cases hji : j = i
    · subst hji
      simpa [RunState.after] using hturn hj
    · simpa [RunState.after, update, hji] using hw.holds j hj

/-- **Steps of the driver that are the same on both.** -/
theorem programs_call (i : Nat) {step : Driver σ → σ → Turn σ α}
    (hstep : step P.timely = step P.driver)
    (hkeeps : ∀ s, P.holds s → P.holds (step P.driver s).next) :
    P.Programs (call i step) (call i step) := by
  intro c w hc hw
  rw [eval_call, eval_call, hc]
  have hturn : step (P.scope c).driver (w.states i) = step P.driver (w.states i) :=
    congrFun hstep _
  rw [hturn]
  exact ⟨rfl, hw.after i _ _ fun hi => hkeeps _ (hw.holds i hi)⟩

theorem programs_changeState (i : Nat) {f : σ → σ} (hf : ∀ s, P.holds s → P.holds (f s)) :
    P.Programs (changeState i f) (changeState i f) := by
  refine .modify fun w hw => ⟨hw.unlocked, fun j hj => ?_⟩
  by_cases hji : j = i
  · subst hji
    simpa using hf _ (hw.holds j hj)
  · simpa [update, hji] using hw.holds j hj

/-- Programs that depend on a handle, which nobody has locked. -/
theorem Programs.handleOf_bind {id : Nat} {f g : Handle → Run σ α}
    (h : ∀ h : Handle, h.locked = false → P.Programs (f h) (g h)) :
    P.Programs (handleOf id >>= f) (handleOf id >>= g) := by
  intro c w hc hw
  rw [eval_bind, eval_bind, eval_handleOf, eval_handleOf]
  exact h _ (hw.unlocked id) c w hc hw

theorem programs_setHandle (id : Nat) {h : Handle} (hh : h.locked = false) :
    P.Programs (setHandle id h : Run σ Unit) (setHandle id h) := by
  refine .modify fun w hw => ⟨fun j => ?_, hw.holds⟩
  by_cases hj : j = id
  · simpa [hj] using hh
  · simpa [update, hj] using hw.unlocked j

theorem programs_openHandle (database : Nat) :
    P.Programs (openHandle database : Run σ Nat) (openHandle database) := by
  refine .get_bind fun c w _ hw => ⟨rfl, fun j => ?_, hw.holds⟩
  show (update w.handles w.begun (Handle.opened database) j).locked = false
  by_cases hj : j = w.begun
  · simp [hj, Handle.opened]
  · simpa [update, hj] using hw.unlocked j

/-! ## Statements -/

/-- **Statements, with the limit and without it.** -/
theorem programs_statement {s : Session σ} (hs : P.covers s.index)
    {step : Bool → Driver σ → σ → Turn σ (Reply α)}
    (hstep : ∀ b st, P.holds st → step b P.timely st = (step b P.driver st).within (some P.limit))
    (hkeeps : ∀ b st, P.holds st → P.holds (step b P.driver st).next) (mode : StatementMode)
    (q : Sql.Query) :
    P.Programs ((s.timed (some P.limit)).statement mode q step)
      ((s.timed none).statement mode q step) := by
  intro c w hc hw
  by_cases hopen : s.IsOpen w
  · have hholds := hw.holds s.index hs
    have hturn : step s.transaction.isSome (P.scope c).driver (w.states s.index) =
        (step s.transaction.isSome c.driver (w.states s.index)).within (some P.limit) := by
      rw [hc]
      exact hstep _ _ hholds
    have hslow := Session.eval_statement_eq (s := s.timed (some P.limit)) (c := c) hopen mode q step
    have hquick := Session.eval_statement_eq (s := s.timed none) (c := P.scope c) hopen mode q step
    dsimp only [Session.timed, Database.timed] at hslow hquick
    rw [hturn] at hquick
    have hkept : P.holds (step s.transaction.isSome c.driver (w.states s.index)).next := by
      rw [hc]
      exact hkeeps _ _ hholds
    refine ⟨hquick.trans hslow.symm, ?_⟩
    rw [show ((s.timed (some P.limit)).statement mode q step).eval c w = _ from hslow]
    obtain ⟨hunlocked, hafter⟩ := hw.after s.index _ 0 fun _ => hkept
    exact ⟨hunlocked, hafter⟩
  · -- Nobody holds the lock, so that the transaction is over.
    simp only [Session.IsOpen, not_forall, exists_prop] at hopen
    obtain ⟨id, hid, hclosed⟩ := hopen
    have hlocked := hw.unlocked id
    rcases hh : w.handles id with ⟨db, isOpen, done, locked⟩
    obtain rfl : locked = false := by rw [← hlocked, hh]
    obtain rfl : isOpen = false := by simpa [hh] using hclosed
    rw [Session.eval_statement_over (s := s.timed (some P.limit)) hid hh,
      Session.eval_statement_over (s := s.timed none) hid hh]
    exact ⟨rfl, hw.unlocked, hw.holds⟩

end Pace

end EntityMapper

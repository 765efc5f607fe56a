import EntityMapper.Proofs.Run.Clock
import EntityMapper.Proofs.Run.Congruence
import EntityMapper.Proofs.Transaction.Steps

/-!
# Runs that mirror each other

The same work can be done from outside of transactions and inside of one. Two such runs mirror each
other if the driver answers alike on either side, everything else that a program can see is the
same, and the clock of one run is behind that of the other by a fixed time. What one program comes
to, the other comes to as well, up to that time.

## Main definitions

* `Turn.Alike R t u`: two steps of a driver with the same answer
* `Mirror σ`: the two sides of a driver, and the transaction on one of them
* `M.States w w'`, `M.Outcomes p p'`: states and outcomes that mirror each other
* `M.Programs x y`: programs that come to the same on either side

## Main results

* `Programs.bind`, `Programs.tryCatch`, `Programs.get_bind`, …: programs put together
* `programs_await`, `programs_withTimeout`: waiting
* `programs_call`: steps of the driver
* `programs_modelOf`, `programs_registerEntity`: registries
-/

namespace EntityMapper

variable {σ α β : Type}

/-! ## The two sides -/

/-- **Two steps with the same answer**, of which the database sees the same, and which lead to
related states. -/
structure Turn.Alike (R : σ → σ → Prop) (t u : Turn σ α) : Prop where
  outcome : u.outcome = t.outcome
  events : u.events = t.events
  next : R t.next u.next

/-- **The two sides of a driver**: outside of transactions, and inside of the transaction `id` on
the database `index`, whose handle is as given. From states that are related, statements are
answered alike. The clock on the inside is ahead by `lag`. -/
structure Mirror (σ : Type) where
  driver : Driver σ
  related : σ → σ → Prop
  query : ∀ q s t, related s t →
    (driver.query false q s).Alike related (driver.query true q t)
  execute : ∀ q s t, related s t →
    (driver.execute false q s).Alike related (driver.execute true q t)
  index : Nat
  id : Nat
  handle : Handle
  lag : Nat

/-- The interruption on the other side of a mirror. -/
def Interrupt.later (k : Nat) : Interrupt → Interrupt
  | deadline t => deadline (t + k)
  | never => never

/-- The scope with all its deadlines later. -/
def Scope.later (k : Nat) (c : Scope σ) : Scope σ :=
  { c with deadlines := c.deadlines.map (· + k) }

namespace Mirror

/-- **States that mirror each other.** -/
structure States (M : Mirror σ) (w w' : RunState σ) : Prop where
  now : w'.now = w.now + M.lag
  related : M.related (w.states M.index) (w'.states M.index)
  states : ∀ i, i ≠ M.index → w'.states i = w.states i
  registries : w'.registries = w.registries
  examined : w'.examined = w.examined
  log : w'.log = w.log
  handle : w'.handles M.id = M.handle

/-- **Outcomes that mirror each other**: the same result, or the same interruption later. -/
structure Outcomes (M : Mirror σ) (p p' : Except Interrupt α × RunState σ) : Prop where
  result : p'.1 = p.1.mapError (Interrupt.later M.lag)
  states : M.States p.2 p'.2

/-- **Programs that mirror each other.** -/
def Programs (M : Mirror σ) (x y : Run σ α) : Prop :=
  ∀ c w w', c.driver = M.driver → M.States w w' →
    M.Outcomes (x.eval c w) (y.eval (c.later M.lag) w')

variable {M : Mirror σ}

/-- Both programs end with the same result, or both are interrupted. -/
theorem Outcomes.cases {p p' : Except Interrupt α × RunState σ} (h : M.Outcomes p p') :
    (∃ a v v', p = (.ok a, v) ∧ p' = (.ok a, v') ∧ M.States v v') ∨
      ∃ i v v', p = (.error i, v) ∧ p' = (.error (i.later M.lag), v') ∧ M.States v v' := by
  obtain ⟨res, v⟩ := p
  obtain ⟨res', v'⟩ := p'
  obtain ⟨hres, hv⟩ := h
  cases res with
  | ok a => exact .inl ⟨a, v, v', rfl, congrArg (·, v') hres, hv⟩
  | error i => exact .inr ⟨i, v, v', rfl, congrArg (·, v') hres, hv⟩

/-! ## Programs put together -/

namespace Programs

theorem pure (a : α) : M.Programs (Pure.pure a) (Pure.pure a) := fun _ _ _ _ hw => ⟨rfl, hw⟩

theorem throw (i : Interrupt) :
    M.Programs (MonadExcept.throw i : Run σ α) (MonadExcept.throw (i.later M.lag)) :=
  fun _ _ _ _ hw => ⟨rfl, hw⟩

/-- **Programs one after another.** -/
theorem bind {x y : Run σ α} {f g : α → Run σ β} (hx : M.Programs x y)
    (hf : ∀ a, M.Programs (f a) (g a)) : M.Programs (x >>= f) (y >>= g) := by
  intro c w w' hc hw
  rw [eval_bind, eval_bind]
  obtain ⟨a, v, v', hx, hy, hv⟩ | ⟨i, v, v', hx, hy, hv⟩ := (hx c w w' hc hw).cases
  · rw [hx, hy]
    exact hf a c v v' hc hv
  · rw [hx, hy]
    exact ⟨rfl, hv⟩

/-- Programs that mirror each other are put together from such programs. -/
theorem congruence : Congruence fun _ => M.Programs := ⟨pure, bind⟩

theorem map {x y : Run σ α} (f : α → β) (hx : M.Programs x y) : M.Programs (f <$> x) (f <$> y) :=
  congruence.map f hx

/-- What is done about an interruption. -/
theorem tryCatch {x y : Run σ α} {f g : Interrupt → Run σ α} (hx : M.Programs x y)
    (hf : ∀ i, M.Programs (f i) (g (i.later M.lag))) :
    M.Programs (MonadExcept.tryCatch x f) (MonadExcept.tryCatch y g) := by
  intro c w w' hc hw
  rw [eval_tryCatch, eval_tryCatch]
  obtain ⟨a, v, v', hx, hy, hv⟩ | ⟨i, v, v', hx, hy, hv⟩ := (hx c w w' hc hw).cases
  · rw [hx, hy]
    exact ⟨rfl, hv⟩
  · rw [hx, hy]
    exact hf i c v v' hc hv

/-- Programs that depend on the state. -/
theorem get_bind {f g : RunState σ → Run σ α}
    (h : ∀ w w', M.States w w' → M.Programs (f w) (g w')) :
    M.Programs (get >>= f) (get >>= g) := by
  intro c w w' hc hw
  rw [eval_bind, eval_bind]
  exact h w w' hw c w w' hc hw

/-- Programs that depend on the scope. -/
theorem read_bind {f g : Scope σ → Run σ α}
    (h : ∀ c, c.driver = M.driver → M.Programs (f c) (g (c.later M.lag))) :
    M.Programs (read >>= f) (read >>= g) := by
  intro c w w' hc hw
  rw [eval_bind, eval_bind]
  exact h c hc c w w' hc hw

theorem set {v v' : RunState σ} (h : M.States v v') :
    M.Programs (MonadStateOf.set v : Run σ Unit) (MonadStateOf.set v') :=
  fun _ _ _ _ _ => ⟨rfl, h⟩

theorem modify {f g : RunState σ → RunState σ}
    (h : ∀ w w', M.States w w' → M.States (f w) (g w')) :
    M.Programs (modify f : Run σ Unit) (modify g) :=
  fun _ w w' _ hw => ⟨rfl, h w w' hw⟩

/-- Changes of the scope that mirror each other. -/
theorem withReader {x y : Run σ α} {f g : Scope σ → Scope σ}
    (hdriver : ∀ c, (f c).driver = c.driver) (hg : ∀ c, g (c.later M.lag) = (f c).later M.lag)
    (hx : M.Programs x y) :
    M.Programs (MonadWithReader.withReader f x : Run σ α) (MonadWithReader.withReader g y) := by
  intro c w w' hc hw
  rw [eval_withReader, eval_withReader, hg]
  exact hx (f c) w w' ((hdriver c).trans hc) hw

end Programs

/-! ## Waiting -/

/-- The earliest deadline is as much later as they all are. -/
theorem min?_later (k : Nat) (ds : List Nat) : (ds.map (· + k)).min? = ds.min?.map (· + k) := by
  cases ds with
  | nil => rfl
  | cons d ds =>
    rw [List.map_cons, List.min?_cons', List.min?_cons', Option.map_some]
    congr 1
    induction ds generalizing d with
    | nil => rfl
    | cons e ds ih =>
      simp only [List.map_cons, List.foldl_cons]
      rw [Nat.add_min_add_right]
      exact ih (min d e)

theorem earliestBefore_later (k limit : Nat) (ds : List Nat) :
    earliestBefore (limit + k) (ds.map (· + k)) = (earliestBefore limit ds).map (· + k) := by
  rw [earliestBefore, earliestBefore, ← min?_later, List.filter_map]
  congr 3
  funext d
  simp

theorem programs_advance (tick : Nat) :
    M.Programs (advance tick : Run σ Unit) (advance (tick + M.lag)) := by
  refine .modify fun w w' hw => { hw with now := ?_ }
  rw [hw.now]
  exact Nat.add_max_add_right w.now tick M.lag

theorem programs_waitUntil (tick : Nat) :
    M.Programs (waitUntil tick : Run σ Unit) (waitUntil (tick + M.lag)) := by
  refine .read_bind fun c _ => ?_
  simp only [Scope.later, earliestBefore_later]
  cases earliestBefore tick c.deadlines with
  | none => exact programs_advance tick
  | some d => exact (programs_advance d).bind fun _ => .throw (.deadline d)

theorem programs_waitForever : M.Programs (waitForever : Run σ α) waitForever := by
  refine .read_bind fun c _ => ?_
  simp only [Scope.later, min?_later]
  cases c.deadlines.min? with
  | none => exact .throw .never
  | some d => exact (programs_advance d).bind fun _ => .throw (.deadline d)

/-- **Waiting for the same answer.** -/
theorem programs_await (reply : Reply α) : M.Programs (await reply) (await reply : Run σ _) := by
  cases reply with
  | waiting => exact programs_waitForever
  | answered delay r =>
    refine Programs.bind (.get_bind fun w w' hw => ?_) fun _ => .pure r
    rw [hw.now, Nat.add_right_comm]
    exact programs_waitUntil (w.now + delay.ticks)

theorem programs_withDeadline (tick : Nat) {x y : Run σ α} (hx : M.Programs x y) :
    M.Programs (withDeadline tick x) (withDeadline (tick + M.lag) y) := by
  have hinner : M.Programs
      (withReader (fun s : Scope σ => { s with deadlines := tick :: s.deadlines }) (some <$> x))
      (withReader (fun s : Scope σ => { s with deadlines := (tick + M.lag) :: s.deadlines })
        (some <$> y)) := .withReader (fun _ => rfl) (fun _ => rfl) (hx.map some)
  refine hinner.tryCatch fun i => ?_
  cases i with
  | never => exact .throw .never
  | deadline t =>
    show M.Programs (if t = tick then pure none else throw (.deadline t))
      (if t + M.lag = tick + M.lag then pure none else throw (.deadline (t + M.lag)))
    simp only [Nat.add_right_cancel_iff]
    split
    · exact .pure none
    · exact .throw (.deadline t)

/-- **Programs with the time that a statement may take.** -/
theorem programs_withTimeout (limit : Option Duration) {x y : Run σ (Except Error α)}
    (hx : M.Programs x y) : M.Programs (withTimeout limit x) (withTimeout limit y) := by
  cases limit with
  | none => exact hx
  | some d =>
    refine .get_bind fun w w' hw => ?_
    rw [hw.now, Nat.add_right_comm]
    refine (programs_withDeadline (w.now + d.ticks) hx).bind fun r => ?_
    cases r with
    | none => exact .pure _
    | some result => exact .pure result

/-! ## Drivers, registries and reports -/

/-- **Steps of the driver on either side** that are answered alike. -/
theorem programs_call {step step' : Driver σ → σ → Turn σ α}
    (h : ∀ s t, M.related s t → (step M.driver s).Alike M.related (step' M.driver t)) :
    M.Programs (call M.index step) (call M.index step') := by
  refine .read_bind fun c hc => .get_bind fun w w' hw => ?_
  have hturn := h _ _ hw.related
  simp only [Scope.later, hc, hturn.outcome]
  refine Programs.bind (.set { hw with related := ?_, states := fun i hi => ?_ }) fun _ => .pure _
  · simpa using hturn.next
  · simpa [update, hi] using hw.states i hi

/-- Notices may differ: nobody can see them. -/
theorem programs_report (n n' : Notice) : M.Programs (report n : Run σ Unit) (report n') :=
  .modify fun _ _ hw => { hw with }

theorem programs_writeLog (e : LogEntry) : M.Programs (writeLog e : Run σ Unit) (writeLog e) :=
  .modify fun _ _ hw => { hw with log := by rw [hw.log] }

theorem programs_registerEntity (registry : Nat) (e : Entity) (options : List ModelOption) :
    M.Programs (registerEntity registry e options : Run σ _)
      (registerEntity registry e options) := by
  refine .get_bind fun w w' hw => ?_
  rw [hw.registries]
  cases (w.registries registry).register e options with
  | error err => exact .pure _
  | ok p =>
    obtain ⟨m, r⟩ := p
    refine Programs.bind (.set { hw with registries := rfl }) fun _ => ?_
    exact (programs_report _ _).bind fun _ => .pure _

theorem programs_modelOf (registry : Nat) (e : Entity) :
    M.Programs (modelOf registry e : Run σ _) (modelOf registry e) := by
  refine .get_bind fun w w' hw => ?_
  rw [hw.registries]
  cases (w.registries registry).lookup? e with
  | some m => exact .pure _
  | none => exact programs_registerEntity registry e []

end Mirror

end EntityMapper

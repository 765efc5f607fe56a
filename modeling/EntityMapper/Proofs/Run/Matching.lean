import EntityMapper.Proofs.Run.Congruence
import EntityMapper.Proofs.Transaction.Steps

/-!
# Runs that match

What is told about a run, in notices and in the log, and which models were examined for that, is
looked at by nobody in the run. Two runs match if all else in them is the same. Programs match that
come to the same in matching runs: waiting, calling drivers, registering entities, compiling a
statement, and a compiled statement with its rows decoded.

## Main definitions

* `w.Matches w'`: states that are the same but for what is told
* `MatchingOutcomes p p'`, `Run.Matches x y`: outcomes and programs that match
* `Run.Silent x`: the program does nothing but tell

## Main results

* `Run.Matches.bind`, `Run.Matches.get_bind`, …: programs put together
* `Run.Silent.matches`: what only tells matches all that does
* `Session.matches_build`, `Session.matches_answer`: compiling a statement, and a compiled statement
  with its rows decoded
-/

namespace EntityMapper

variable {σ α β : Type}

/-! ## States and outcomes -/

/-- **States that are the same but for what is told** about a run: the notices, the log, and which
models were examined. -/
structure RunState.Matches (w w' : RunState σ) : Prop where
  now : w'.now = w.now
  states : w'.states = w.states
  registries : w'.registries = w.registries
  handles : w'.handles = w.handles
  begun : w'.begun = w.begun
  names : w'.names = w.names
  events : w'.events = w.events

namespace RunState.Matches

theorem refl (w : RunState σ) : w.Matches w := ⟨rfl, rfl, rfl, rfl, rfl, rfl, rfl⟩

theorem trans {w w₁ w₂ : RunState σ} (h : w.Matches w₁) (h' : w₁.Matches w₂) : w.Matches w₂ :=
  ⟨h'.now.trans h.now, h'.states.trans h.states, h'.registries.trans h.registries,
    h'.handles.trans h.handles, h'.begun.trans h.begun, h'.names.trans h.names,
    h'.events.trans h.events⟩

theorem symm {w w' : RunState σ} (h : w.Matches w') : w'.Matches w :=
  ⟨h.now.symm, h.states.symm, h.registries.symm, h.handles.symm, h.begun.symm, h.names.symm,
    h.events.symm⟩

end RunState.Matches

/-- **Outcomes that match**: the same result or interruption, in matching states. -/
structure MatchingOutcomes (p p' : Except Interrupt α × RunState σ) : Prop where
  result : p'.1 = p.1
  states : p.2.Matches p'.2

/-- **Programs that match**: in matching states they come to the same. -/
def Run.Matches (x y : Run σ α) : Prop :=
  ∀ c w w', w.Matches w' → MatchingOutcomes (x.eval c w) (y.eval c w')

theorem MatchingOutcomes.refl (p : Except Interrupt α × RunState σ) : MatchingOutcomes p p :=
  ⟨rfl, .refl _⟩

theorem MatchingOutcomes.of_eq {p p' : Except Interrupt α × RunState σ} (h : MatchingOutcomes p p')
    {res res' : Except Interrupt α} {w w' : RunState σ} (hp : p = (res, w)) (hp' : p' = (res', w')) :
    res' = res ∧ w.Matches w' := by
  subst hp hp'
  exact ⟨h.result, h.states⟩

/-- Both programs end with the same result, or both are interrupted in the same way. -/
theorem MatchingOutcomes.cases {p p' : Except Interrupt α × RunState σ}
    (h : MatchingOutcomes p p') :
    (∃ a v v', p = (.ok a, v) ∧ p' = (.ok a, v') ∧ v.Matches v') ∨
      ∃ i v v', p = (.error i, v) ∧ p' = (.error i, v') ∧ v.Matches v' := by
  obtain ⟨res, v⟩ := p
  obtain ⟨res', v'⟩ := p'
  obtain ⟨rfl, hv⟩ := h.of_eq rfl rfl
  cases res' with
  | ok a => exact .inl ⟨a, v, v', rfl, rfl, hv⟩
  | error i => exact .inr ⟨i, v, v', rfl, rfl, hv⟩

/-! ## Programs put together -/

namespace Run.Matches

theorem pure (a : α) : Run.Matches (Pure.pure a : Run σ α) (Pure.pure a) := fun _ _ _ hw => ⟨rfl, hw⟩

theorem throw (i : Interrupt) :
    Run.Matches (MonadExcept.throw i : Run σ α) (MonadExcept.throw i) := fun _ _ _ hw => ⟨rfl, hw⟩

/-- **Programs one after another.** -/
theorem bind {x y : Run σ α} {f g : α → Run σ β} (hx : x.Matches y)
    (hf : ∀ a, (f a).Matches (g a)) : (x >>= f).Matches (y >>= g) := by
  intro c w w' hw
  rw [eval_bind, eval_bind]
  obtain ⟨a, v, v', hx, hy, hv⟩ | ⟨i, v, v', hx, hy, hv⟩ := (hx c w w' hw).cases
  · rw [hx, hy]
    exact hf a c v v' hv
  · rw [hx, hy]
    exact ⟨rfl, hv⟩

theorem map {x y : Run σ α} (f : α → β) (hx : x.Matches y) : (f <$> x).Matches (f <$> y) := by
  rw [map_eq_pure_bind, map_eq_pure_bind]
  exact hx.bind fun a => .pure (f a)

/-- What is done about an interruption. -/
theorem tryCatch {x y : Run σ α} {f g : Interrupt → Run σ α} (hx : x.Matches y)
    (hf : ∀ i, (f i).Matches (g i)) :
    Run.Matches (MonadExcept.tryCatch x f) (MonadExcept.tryCatch y g) := by
  intro c w w' hw
  rw [eval_tryCatch, eval_tryCatch]
  obtain ⟨a, v, v', hx, hy, hv⟩ | ⟨i, v, v', hx, hy, hv⟩ := (hx c w w' hw).cases
  · rw [hx, hy]
    exact ⟨rfl, hv⟩
  · rw [hx, hy]
    exact hf i c v v' hv

/-- Programs that depend on the state. -/
theorem get_bind {f g : RunState σ → Run σ α} (h : ∀ w w', w.Matches w' → (f w).Matches (g w')) :
    Run.Matches (get >>= f) (get >>= g) := by
  intro c w w' hw
  rw [eval_bind, eval_bind]
  exact h w w' hw c w w' hw

/-- Programs that depend on the scope. -/
theorem read_bind {f g : Scope σ → Run σ α} (h : ∀ c, (f c).Matches (g c)) :
    Run.Matches (read >>= f) (read >>= g) := by
  intro c w w' hw
  rw [eval_bind, eval_bind]
  exact h c c w w' hw

theorem set {v v' : RunState σ} (h : v.Matches v') :
    Run.Matches (MonadStateOf.set v : Run σ Unit) (MonadStateOf.set v') := fun _ _ _ _ => ⟨rfl, h⟩

theorem modify {f g : RunState σ → RunState σ} (h : ∀ w w', w.Matches w' → (f w).Matches (g w')) :
    Run.Matches (modify f : Run σ Unit) (modify g) := fun _ w w' hw => ⟨rfl, h w w' hw⟩

theorem withReader {x y : Run σ α} (f : Scope σ → Scope σ) (hx : x.Matches y) :
    Run.Matches (MonadWithReader.withReader f x : Run σ α) (MonadWithReader.withReader f y) := by
  intro c w w' hw
  rw [eval_withReader, eval_withReader]
  exact hx (f c) w w' hw

/-- Programs that match are put together from programs that match. -/
theorem congruence : Congruence fun _ (x y : Run σ _) => x.Matches y := ⟨pure, bind⟩

end Run.Matches

/-! ## Telling -/

/-- **The program does nothing but tell**, and is not interrupted. -/
def Run.Silent (x : Run σ Unit) : Prop := ∀ c w, ∃ w', x.eval c w = (.ok (), w') ∧ w.Matches w'

theorem silent_report (n : Notice) : (report n : Run σ Unit).Silent :=
  fun _ _ => ⟨_, rfl, rfl, rfl, rfl, rfl, rfl, rfl, rfl⟩

theorem silent_writeLog (entry : LogEntry) : (writeLog entry : Run σ Unit).Silent :=
  fun _ _ => ⟨_, rfl, rfl, rfl, rfl, rfl, rfl, rfl, rfl⟩

/-- **What only tells matches all that does.** -/
theorem Run.Silent.matches {x y : Run σ Unit} (hx : x.Silent) (hy : y.Silent) : x.Matches y := by
  intro c w w' hw
  obtain ⟨v, hv, hwv⟩ := hx c w
  obtain ⟨v', hv', hwv'⟩ := hy c w'
  rw [hv, hv']
  exact ⟨rfl, hwv.symm.trans (hw.trans hwv')⟩

/-! ## Waiting -/

theorem matches_advance (tick : Nat) : (advance tick : Run σ Unit).Matches (advance tick) :=
  .modify fun w w' hw => { hw with now := by rw [hw.now] }

theorem matches_waitUntil (tick : Nat) : (waitUntil tick : Run σ Unit).Matches (waitUntil tick) := by
  refine .read_bind fun c => ?_
  cases earliestBefore tick c.deadlines with
  | none => exact matches_advance tick
  | some d => exact (matches_advance d).bind fun _ => .throw (.deadline d)

theorem matches_waitForever : (waitForever : Run σ α).Matches waitForever := by
  refine .read_bind fun c => ?_
  cases c.deadlines.min? with
  | none => exact .throw .never
  | some d => exact (matches_advance d).bind fun _ => .throw (.deadline d)

theorem matches_await (reply : Reply α) : (await reply : Run σ _).Matches (await reply) := by
  cases reply with
  | waiting => exact matches_waitForever
  | answered delay r =>
    refine Run.Matches.bind (.get_bind fun w w' hw => ?_) fun _ => .pure r
    rw [hw.now]
    exact matches_waitUntil (w.now + delay.ticks)

theorem matches_withDeadline (tick : Nat) {x y : Run σ α} (hx : x.Matches y) :
    (withDeadline tick x).Matches (withDeadline tick y) := by
  refine ((hx.map some).withReader _).tryCatch fun i => ?_
  cases i with
  | never => exact .throw .never
  | deadline t =>
    -- Another program's deadline goes on outwards.
    show Run.Matches (if t = tick then pure none else throw (.deadline t))
      (if t = tick then pure none else throw (.deadline t))
    split
    · exact .pure none
    · exact .throw (.deadline t)

theorem matches_withTimeout (limit : Option Duration) {x y : Run σ (Except Error α)}
    (hx : x.Matches y) : (withTimeout limit x).Matches (withTimeout limit y) := by
  cases limit with
  | none => exact hx
  | some d =>
    refine .get_bind fun w w' hw => ?_
    rw [hw.now]
    refine (matches_withDeadline (w.now + d.ticks) hx).bind fun r => ?_
    cases r with
    | none => exact .pure _
    | some result => exact .pure result

/-! ## Drivers and transactions -/

theorem matches_call (database : Nat) (step : Driver σ → σ → Turn σ α) :
    (call database step).Matches (call database step) := by
  refine .read_bind fun c => .get_bind fun w w' hw => ?_
  rw [hw.states, hw.events]
  exact Run.Matches.bind (.set { hw with states := rfl, events := rfl }) fun _ => .pure _

theorem matches_handleOf (id : Nat) : (handleOf id : Run σ Handle).Matches (handleOf id) := by
  refine .get_bind fun w w' hw => ?_
  rw [hw.handles]
  exact .pure _

theorem matches_setHandle (id : Nat) (h : Handle) :
    (setHandle id h : Run σ Unit).Matches (setHandle id h) :=
  .modify fun w w' hw => { hw with handles := by rw [hw.handles] }

theorem matches_andFinally {x y : Run σ α} {cleanup : Run σ Unit} (hx : x.Matches y)
    (hcleanup : cleanup.Matches cleanup) :
    (andFinally x cleanup).Matches (andFinally y cleanup) := by
  have hinterrupt : (onInterrupt x cleanup).Matches (onInterrupt y cleanup) :=
    hx.tryCatch fun i => hcleanup.bind fun _ => .throw i
  exact hinterrupt.bind fun a => hcleanup.bind fun _ => .pure a

theorem matches_holdingLock (id : Nat) {x y : Run σ α} (hx : x.Matches y) :
    (holdingLock id x).Matches (holdingLock id y) := by
  refine (matches_handleOf id).bind fun h => ?_
  cases h.acquire? with
  | none => exact matches_waitForever
  | some h' =>
    refine (matches_setHandle id h').bind fun _ => matches_andFinally hx ?_
    exact (matches_handleOf id).bind fun h => matches_setHandle id h.release

/-! ## Registries -/

theorem matches_registerEntity (registry : Nat) (e : Entity) (options : List ModelOption) :
    (registerEntity registry e options : Run σ _).Matches (registerEntity registry e options) := by
  refine .get_bind fun w w' hw => ?_
  rw [hw.registries]
  cases (w.registries registry).register e options with
  | error err => exact .pure _
  | ok p =>
    refine Run.Matches.bind (.set { hw with registries := rfl }) fun _ => ?_
    exact ((silent_report _).matches (silent_report _)).bind fun _ => .pure _

theorem matches_modelOf (registry : Nat) (e : Entity) :
    (modelOf registry e : Run σ _).Matches (modelOf registry e) := by
  refine .get_bind fun w w' hw => ?_
  rw [hw.registries]
  cases (w.registries registry).lookup? e with
  | some m => exact .pure _
  | none => exact matches_registerEntity registry e []

/-! ## Statements -/

namespace Session

variable (s : Session σ)

theorem matches_send (step : Bool → Driver σ → σ → Turn σ (Reply α)) :
    (s.send step).Matches (s.send step) := by
  have hsent (inTransaction : Bool) : Run.Matches
      (do await (← call s.index (step inTransaction)) : Run σ (Except Error α))
      (do await (← call s.index (step inTransaction))) :=
    (matches_call s.index (step inTransaction)).bind matches_await
  unfold send
  cases s.transaction with
  | none => exact hsent false
  | some id =>
    -- What matches is sent under the lock, if the transaction is open.
    refine matches_holdingLock id ((matches_handleOf id).bind fun h => ?_)
    cases h.requireOpen with
    | error err => exact .pure _
    | ok _ => exact hsent true

theorem matches_statement (mode : StatementMode) (q : Sql.Query)
    (step : Bool → Driver σ → σ → Turn σ (Reply α)) :
    (s.statement mode q step).Matches (s.statement mode q step) :=
  ((silent_report _).matches (silent_report _)).bind fun _ =>
    matches_withTimeout _ (s.matches_send step)

/-- Using a model does nothing but tell. -/
theorem silent_useModel (e : Entity) (m : Model) : (s.useModel e m).Silent := by
  intro c w
  obtain ⟨examined, trace, h⟩ := s.eval_useModel e m c w
  exact ⟨_, h, rfl, rfl, rfl, rfl, rfl, rfl, rfl⟩

/-- **Compiling a statement.** -/
theorem matches_build (e : Entity) (stmt : Sql.Statement) :
    (s.build e stmt).Matches (s.build e stmt) :=
  Run.Matches.congruence.build s s rfl (matches_modelOf s.registry e)
    (fun m => (s.silent_useModel e m).matches (s.silent_useModel e m)) stmt

theorem matches_decode (e : Entity) (m : Model) (r : Row) :
    (s.decode e m r).Matches (s.decode e m r) :=
  ((s.silent_useModel e m).matches (s.silent_useModel e m)).bind fun _ => .pure _

/-- **A compiled statement with its rows decoded.** -/
theorem matches_answer (e : Entity) (d : Demand) (m : Model) (q : Sql.Query) :
    (s.answer e d m q).Matches (s.answer e d m q) :=
  Run.Matches.congruence.answer s s (s.matches_statement .query q _) (s.matches_statement .exec q _)
    (s.matches_decode e m) d

end Session

end EntityMapper

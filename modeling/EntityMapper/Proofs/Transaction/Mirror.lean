import EntityMapper.Driver.Standard
import EntityMapper.Proofs.Session.Mirror
import EntityMapper.Proofs.Transaction.Outcome

/-!
# Work in a transaction and outside

The same work is done from outside of transactions and in one that has just begun. If the driver
answers statements alike on either side, then so do the two sessions: every operation comes to the
same, and the driver gets the same statements. All that the transaction adds is its beginning and
its end.

## Main definitions

* `Terminal`: the ways to end a transaction
* `Driver.Transparent d related`: a driver whose transactions answer statements as it does otherwise
* `t.LeadsBack d related`: an end after which the driver is as it would be without the transaction
* `Driver.Transparent.mirror`: the two sides of such a driver, with a record of its calls
* `Unchanged`: what a transaction adds to work

## Main results

* `eval_terminal`: ending a transaction that is open
* `Scripted.transparent`, `Typed.transparent`, `standardDriver_transparent`: the drivers
* `standardDriver_leadsBack`: their ends of transactions
* `transaction_transparent`: work in a transaction against the same work outside
-/

namespace EntityMapper

open EntityMapper.Sql

variable {σ τ α β : Type}

/-! ## Ends -/

/-- **The ways to end a transaction.** -/
inductive Terminal where
  | commit
  | rollback
  | abandon

namespace Terminal

/-- Ending a transaction. -/
def run (id : Nat) : Terminal → Run σ Unit
  | commit => (fun _ => ()) <$> EntityMapper.commit id
  | rollback => (fun _ => ()) <$> EntityMapper.rollback id
  | abandon => EntityMapper.abandon id

/-- The call of the driver that ends a transaction so. -/
inductive Makes : Terminal → DriverCall → Prop where
  | commit (reply : Reply Unit) : Makes .commit (.commit reply)
  | rollback (reply : Reply Unit) : Makes .rollback (.rollback reply)
  | abandon : Makes .abandon .abandon

/-- The state of a driver after that call. -/
def next (d : Driver σ) (running : Bool) (s : σ) : Terminal → σ
  | commit => (d.commit s).next
  | rollback => (d.rollback s).next
  | abandon => (d.abandon running s).next

end Terminal

/-- What is done with a result does not change the state. -/
theorem eval_map_snd {x : Run σ α} (f : α → β) {c : Scope σ} {w w' : RunState σ}
    {res : Except Interrupt α} (h : x.eval c w = (res, w')) :
    ∃ res', Run.eval (f <$> x) c w = (res', w') := by
  rw [eval_map, h]
  cases res with
  | ok a => exact ⟨_, rfl⟩
  | error i => exact ⟨_, rfl⟩

/-- **Ending a transaction that is open** makes one call of the driver. -/
theorem eval_terminal {index id : Nat} (c : Scope σ) {w : RunState (σ × List DriverCall)}
    (hw : w.handles id = Handle.opened index) (t : Terminal) :
    ∃ res w' last, (t.run id).eval c.recording w = (res, w') ∧ t.Makes last ∧
      w'.states = update w.states index
        (t.next c.driver c.running (w.states index).1, w.calls index ++ [last]) ∧
      w'.registries = w.registries := by
  cases t with
  | commit =>
    obtain ⟨now, _, h, -⟩ := eval_finish_open (c := c.recording) hw Driver.commit
    obtain ⟨res, h⟩ := eval_map_snd (fun _ => ()) h
    exact ⟨res, _, _, h, .commit _, rfl, rfl⟩
  | rollback =>
    obtain ⟨now, _, h, -⟩ := eval_finish_open (c := c.recording) hw Driver.rollback
    obtain ⟨trace, h⟩ := eval_rollback h
    obtain ⟨res, h⟩ := eval_map_snd (fun _ => ()) h
    exact ⟨res, _, _, h, .rollback _, rfl, rfl⟩
  | abandon =>
    obtain ⟨trace, h⟩ := eval_abandon_open (c := c.recording) hw
    exact ⟨_, _, _, h, .abandon, rfl, rfl⟩

/-! ## Drivers -/

/-- **The transactions of the driver answer statements as it does otherwise.** The states that go
with one another are related: a state from which a transaction has begun with the one after it. From
there on, statements are answered alike. -/
structure Driver.Transparent (d : Driver σ) (related : σ → σ → Prop) : Prop where
  query : ∀ q s t, related s t → (d.query false q s).Alike related (d.query true q t)
  execute : ∀ q s t, related s t → (d.execute false q s).Alike related (d.execute true q t)
  begun : ∀ o s delay, (d.beginTransaction o s).outcome = .answered delay (.ok ()) →
    related s (d.beginTransaction o s).next

/-- **The end of a transaction leads back** to the state in which the driver would be without it. -/
def Terminal.LeadsBack (t : Terminal) (d : Driver σ) (related : σ → σ → Prop) : Prop :=
  ∀ running s s', related s s' → t.next d running s' = s

namespace Scripted

/-- **The scripted driver** makes no difference at all. -/
theorem transparent : driver.Transparent Eq where
  query _ _ _ h := h ▸ ⟨rfl, rfl, rfl⟩
  execute _ _ _ h := h ▸ ⟨rfl, rfl, rfl⟩
  begun _ _ _ _ := rfl

theorem leadsBack (t : Terminal) : t.LeadsBack driver Eq := by
  rintro running s _ rfl
  cases t <;> rfl

end Scripted

namespace Typed

/-- The lock is free, and a transaction has taken it. -/
def Taken (s t : State) : Prop := s.locked = false ∧ t = { s with locked := true }

/-- Given back, the lock is free as it was. -/
theorem Taken.unlock {s t : State} (h : Taken s t) : t.unlock = s := by
  obtain ⟨hs, rfl⟩ := h
  cases s
  cases hs
  rfl

/-- Whoever has the lock gets the same answer. -/
theorem State.alike_statement (read : Prepared → Except Error α) (q : Query) {s t : State}
    (h : Taken s t) : (s.statement false read q).Alike Taken (t.statement true read q) := by
  obtain ⟨hs, rfl⟩ := h
  have hfree : s.statement false read q = s.run read q := by simp [State.statement, State.lock, hs]
  rw [hfree, State.statement, if_pos rfl]
  unfold State.run
  dsimp only
  split
  · exact ⟨rfl, rfl, hs, rfl⟩
  · split <;> exact ⟨rfl, rfl, hs, rfl⟩

/-- **The driver for typed columns** holds its lock for a transaction. -/
theorem transparent : driver.Transparent Taken where
  query q _ _ h := State.alike_statement _ q h
  execute q _ _ h := State.alike_statement _ q h
  begun o s delay h := by
    cases hs : s.locked with
    | true => simp [driver, State.lock, hs] at h
    | false =>
      simp only [driver, State.lock, hs, Bool.false_eq_true, if_false, State.begin, State.answer,
        refused] at h ⊢
      cases hfault : s.faults.atBegin with
      | true => simp [hfault] at h
      | false => exact ⟨hs, rfl⟩

theorem leadsBack (t : Terminal) : t.LeadsBack driver Taken := by
  intro running s s' h
  cases t with
  | commit => exact h.unlock
  | rollback => exact h.unlock
  | abandon => cases running <;> exact h.unlock

end Typed

/-- Steps answered alike stay so where they are those of one of two kinds. -/
theorem Turn.Alike.embed {f : σ → τ} {R : σ → σ → Prop} {S : τ → τ → Prop} {t u : Turn σ α}
    (h : t.Alike R u) (hf : ∀ s s', R s s' → S (f s) (f s')) :
    (t.embed f).Alike S (u.embed f) :=
  ⟨h.outcome, h.events, hf _ _ h.next⟩

/-- Two kinds of driver side by side. -/
theorem Driver.Transparent.either {d : Driver σ} {e : Driver τ} {R : σ → σ → Prop}
    {S : τ → τ → Prop} (hd : d.Transparent R) (he : e.Transparent S) :
    (d.either e).Transparent (Sum.LiftRel R S) where
  query q _ _ h := by
    cases h with
    | inl h => exact (hd.query q _ _ h).embed fun _ _ => .inl
    | inr h => exact (he.query q _ _ h).embed fun _ _ => .inr
  execute q _ _ h := by
    cases h with
    | inl h => exact (hd.execute q _ _ h).embed fun _ _ => .inl
    | inr h => exact (he.execute q _ _ h).embed fun _ _ => .inr
  begun o s delay h := by
    cases s with
    | inl s => exact .inl (hd.begun o s delay h)
    | inr t => exact .inr (he.begun o t delay h)

theorem Terminal.LeadsBack.either {t : Terminal} {d : Driver σ} {e : Driver τ} {R : σ → σ → Prop}
    {S : τ → τ → Prop} (hd : t.LeadsBack d R) (he : t.LeadsBack e S) :
    t.LeadsBack (d.either e) (Sum.LiftRel R S) := by
  intro running _ _ h
  cases h with
  | inl h =>
    refine Eq.trans ?_ (congrArg Sum.inl (hd running _ _ h))
    cases t <;> rfl
  | inr h =>
    refine Eq.trans ?_ (congrArg Sum.inr (he running _ _ h))
    cases t <;> rfl

/-- **The drivers together.** -/
theorem standardDriver_transparent :
    standardDriver.Transparent (Sum.LiftRel Eq Typed.Taken) :=
  Scripted.transparent.either Typed.transparent

theorem standardDriver_leadsBack (t : Terminal) :
    t.LeadsBack standardDriver (Sum.LiftRel Eq Typed.Taken) :=
  (Scripted.leadsBack t).either (Typed.leadsBack t)

/-! ## Records -/

/-- Records that have gone on with the same statements. -/
def Recorded (before before' : List DriverCall) (calls calls' : List DriverCall) : Prop :=
  ∃ xs, calls = before ++ xs ∧ calls' = before' ++ xs ∧ ∀ x ∈ xs, x.IsStatement

/-- A statement goes on with both records. -/
theorem Recorded.snoc {before before' calls calls' : List DriverCall}
    (h : Recorded before before' calls calls') {x : DriverCall} (hx : x.IsStatement) :
    Recorded before before' (calls ++ [x]) (calls' ++ [x]) := by
  obtain ⟨xs, rfl, rfl, hxs⟩ := h
  refine ⟨xs ++ [x], List.append_assoc .., List.append_assoc .., fun y hy => ?_⟩
  rcases List.mem_append.mp hy with hy | hy
  · exact hxs y hy
  · exact List.mem_singleton.mp hy ▸ hx

/-- **The two sides of a transparent driver**, from where the two records stand. -/
def Driver.Transparent.mirror {d : Driver σ} {related : σ → σ → Prop} (h : d.Transparent related)
    (before before' : List DriverCall) (index id lag : Nat) : Mirror (σ × List DriverCall) where
  driver := d.recording
  related s t := related s.1 t.1 ∧ Recorded before before' s.2 t.2
  query q s t hst := by
    have halike := h.query q s.1 t.1 hst.1
    refine ⟨halike.outcome, halike.events, halike.next, ?_⟩
    simp only [Driver.recording, Turn.recorded, halike.outcome]
    exact hst.2.snoc trivial
  execute q s t hst := by
    have halike := h.execute q s.1 t.1 hst.1
    refine ⟨halike.outcome, halike.events, halike.next, ?_⟩
    simp only [Driver.recording, Turn.recorded, halike.outcome]
    exact hst.2.snoc trivial
  index := index
  id := id
  handle := .opened index
  lag := lag

/-! ## Beginning -/

theorem forward_beginTransaction (index : Nat) (d : Database σ) (options : TransactionOptions) :
    (beginTransaction index d options).Forward := by
  have hawait : (awaitBeginning index options : Run σ _).Forward := by
    refine (forward_call index _).bind fun reply => ?_
    cases reply with
    | waiting => exact forward_waitForever
    | answered delay r =>
      refine forward_onInterrupt (forward_await _) (.read_bind fun c => ?_)
      exact .modify fun _ => Nat.le_refl _
  refine (forward_withTimeout d.settings.timeout hawait).bind fun r => ?_
  cases r with
  | error e => exact .pure _
  | ok u => exact Run.Forward.bind (.get_bind fun _ _ => Nat.le_refl _) fun id => .pure _

section Begun

variable {related : σ → σ → Prop} {c : Scope σ} (hdriver : c.driver.Transparent related)
  {index id : Nat} {d : Database (σ × List DriverCall)} {options : TransactionOptions}
  {w w₁ : RunState (σ × List DriverCall)}
  (hbegun : (beginTransaction index d options).eval c.recording w = (.ok (.ok id), w₁))
include hbegun

/-- **Where a transaction has begun**, the state before mirrors the one after it. -/
theorem states_begun : (hdriver.mirror (w.calls index) (w₁.calls index) index id
    (w₁.now - w.now)).States w w₁ := by
  have hnow : w.now ≤ w₁.now := by
    have hforward := forward_beginTransaction index d options c.recording w
    rwa [hbegun] at hforward
  obtain ⟨delay, now, houtcome, rfl, rfl⟩ := of_eval_beginTransaction hbegun
  constructor
  case now => exact (Nat.add_sub_cancel' hnow).symm
  case related =>
    refine ⟨?_, [], (List.append_nil _).symm, (List.append_nil _).symm, nofun⟩
    show related (w.states index).1 (update w.states index _ index).1
    rw [update_same]
    exact hdriver.begun options _ delay houtcome
  case states => exact fun i hi => if_neg hi
  case handle => exact update_same ..
  all_goals rfl

end Begun

/-! ## Work in a transaction -/

/-- **What a transaction adds to work.** Without it the work leads from `w` to `v`. In the
transaction `id`, which has begun from `w` as well, it leads to `v₁`. -/
structure Unchanged (related : σ → σ → Prop) (c : Scope σ) (index id : Nat)
    (options : TransactionOptions) (w v v₁ : RunState (σ × List DriverCall)) : Prop where
  /-- The driver has had the same statements, after the beginning of the transaction. -/
  calls : ∃ statements delay, (∀ x ∈ statements, x.IsStatement) ∧
    v.calls index = w.calls index ++ statements ∧
    v₁.calls index =
      w.calls index ++ .beginTransaction options (.answered delay (.ok ())) :: statements
  driver : related (v.states index).1 (v₁.states index).1
  states : ∀ i, i ≠ index → v₁.states i = v.states i
  registries : v₁.registries = v.registries
  log : v₁.log = v.log
  /-- Ending the transaction makes one more call. If that leads back, then the driver is left as it
  is without the transaction. -/
  ended : ∀ t : Terminal, ∃ res v₂ last, (t.run id).eval c.recording v₁ = (res, v₂) ∧
    t.Makes last ∧ v₂.calls index = v₁.calls index ++ [last] ∧ v₂.registries = v.registries ∧
    (∀ i, i ≠ index → v₂.states i = v.states i) ∧
    (t.LeadsBack c.driver related → (v₂.states index).1 = (v.states index).1)

/-- **Work in a transaction against the same work outside.** Whatever the operations, they come to
the same one by one, errors included, through middlewares that cannot tell where they are. All that
the transaction adds is its beginning and its end; the clock, and with it any deadlines around the
work, is later by the time that the beginning has taken. -/
theorem transaction_transparent {related : σ → σ → Prop} {c : Scope σ}
    (hdriver : c.driver.Transparent related) {index id : Nat}
    {d : Database (σ × List DriverCall)} (hd : ∀ a ∈ d.middlewares, ∀ M, a.Blind M)
    {options : TransactionOptions} {w w₁ : RunState (σ × List DriverCall)}
    (hbegun : (beginTransaction index d options).eval c.recording w = (.ok (.ok id), w₁))
    (ts : List Operation) :
    ∃ res v v₁,
      ((Session.plain index d).carryOut ts).eval c.recording w = (res, v) ∧
      (Session.carryOut ⟨index, some id, d⟩ ts).eval (c.later (w₁.now - w.now)).recording w₁ =
        (res.mapError (.later (w₁.now - w.now)), v₁) ∧
      Unchanged related (c.later (w₁.now - w.now)) index id options w v v₁ := by
  let M := hdriver.mirror (w.calls index) (w₁.calls index) index id (w₁.now - w.now)
  have hstates : M.States w w₁ := states_begun hdriver hbegun
  have hwork := Mirror.programs_carryOut (M := M) d rfl (fun a ha => hd a ha M) ts
  rcases hplain : ((M.outside d).carryOut ts).eval c.recording w with ⟨res, v⟩
  rcases htx : ((M.inside d).carryOut ts).eval (c.recording.later M.lag) w₁ with ⟨res₁, v₁⟩
  obtain ⟨hres, hv⟩ := hplain ▸ htx ▸ hwork c.recording w w₁ rfl hstates
  obtain rfl : res₁ = res.mapError (.later M.lag) := hres
  refine ⟨res, v, v₁, hplain, htx, ?_⟩
  obtain ⟨hrelated, statements, hcalls, hcalls₁, hstatements⟩ := hv.related
  constructor
  case calls =>
    obtain ⟨⟨delay, hbegin⟩, -⟩ := beginTransaction_begun hbegun
    refine ⟨statements, delay, hstatements, hcalls, ?_⟩
    rw [show v₁.calls index = w₁.calls index ++ statements from hcalls₁, hbegin,
      List.append_assoc, List.singleton_append]
  case driver => exact hrelated
  case states => exact hv.states
  case registries => exact hv.registries
  case log => exact hv.log
  case ended =>
    intro t
    obtain ⟨res, v₂, last, h, hmakes, hstates₂, hregistries⟩ :=
      eval_terminal (c.later M.lag) hv.handle t
    refine ⟨res, v₂, last, h, hmakes, ?_, hregistries.trans hv.registries, fun i hi => ?_, ?_⟩
    · rw [RunState.calls, hstates₂]
      exact congrArg Prod.snd (update_same ..)
    · rw [hstates₂, update, if_neg hi]
      exact hv.states i hi
    · intro hback
      rw [hstates₂]
      exact (congrArg Prod.fst (update_same ..)).trans (hback _ _ _ hrelated)

/-- A database of a scripted driver, with middlewares and with a limit of time. -/
def guestBook : Database (Scripted.State × List DriverCall) :=
  ⟨⟨.postgres, .byName, 2, some ⟨10000000⟩, 0⟩,
    [Scenario.Stage.inspect, .record "last"].map (Scenario.Stage.middleware 0)⟩

/-- The start of a run in which a deletion finds two guests and a query finds none. -/
def guestBookStart : RunState (Scripted.State × List DriverCall) :=
  Scenario.startState
    (.start [.exec ⟨2, none⟩, .rows ["id"] []] ⟨none, none, none, ⟨3000000⟩⟩, []) []

/-- The query for guests. -/
def guestQuery : Query := ⟨"SELECT id FROM guests;", []⟩

/-- Operations that succeed, find nothing, and cannot be compiled. -/
def guestBookOperations : List Operation :=
  [.ask guest (.delete ⟨none, []⟩) .exec, .ask guest (.handwritten guestQuery) .first,
    .build guest (.update ⟨none, [], []⟩)]

/-- What they come to. -/
def guestBookResults : List (Σ t : Operation, Except Error t.Result) :=
  [⟨.ask guest (.delete ⟨none, []⟩) .exec, (.ok ⟨2, none⟩ : Except Error ExecResult)⟩,
    ⟨.ask guest (.handwritten guestQuery) .first, .error .noRows⟩,
    ⟨.build guest (.update ⟨none, [], []⟩), .error .noUpdatedColumns⟩]

/-- The scope of a program with nothing around it. -/
def guestBookScope : Scope Scripted.State := Scenario.startScope Scripted.driver

/-- The operations come to the same in a transaction. -/
theorem guestBook_transparent :
    (∀ a ∈ guestBook.middlewares, ∀ M, a.Blind M) ∧ guestBookScope.driver.Transparent Eq ∧
    ∃ w₁ v v₁,
      (beginTransaction 0 guestBook .standard).eval guestBookScope.recording guestBookStart =
        (.ok (.ok 0), w₁) ∧
      ((Session.plain 0 guestBook).carryOut guestBookOperations).eval guestBookScope.recording
        guestBookStart = (.ok guestBookResults, v) ∧
      (Session.carryOut ⟨0, some 0, guestBook⟩ guestBookOperations).eval
        (guestBookScope.later (w₁.now - guestBookStart.now)).recording w₁ =
          (.ok guestBookResults, v₁) ∧
      Unchanged Eq (guestBookScope.later (w₁.now - guestBookStart.now)) 0 0 .standard
        guestBookStart v v₁ := by
  have hblind : ∀ a ∈ guestBook.middlewares, ∀ M, a.Blind M := by
    intro a ha M
    obtain ⟨stage, -, rfl⟩ := List.mem_map.mp ha
    exact stage.blind M 0
  have hdriver : guestBookScope.driver.Transparent Eq := Scripted.transparent
  obtain ⟨w₁, hbegun⟩ : ∃ w₁, (beginTransaction 0 guestBook .standard).eval
      guestBookScope.recording guestBookStart = (.ok (.ok 0), w₁) := ⟨_, rfl⟩
  have hresults : (((Session.plain 0 guestBook).carryOut guestBookOperations).eval
      guestBookScope.recording guestBookStart).1 = .ok guestBookResults := rfl
  obtain ⟨res, v, v₁, hplain, htx, hunchanged⟩ :=
    transaction_transparent hdriver hblind hbegun guestBookOperations
  obtain rfl : res = .ok guestBookResults := by rw [← hresults, hplain]
  exact ⟨hblind, hdriver, w₁, v, v₁, hbegun, hplain, htx, hunchanged⟩

end EntityMapper

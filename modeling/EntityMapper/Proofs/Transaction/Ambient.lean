import EntityMapper.Driver.Scripted
import EntityMapper.Proofs.Transaction.Holding
import EntityMapper.Scenario.Run

/-!
# Transactions in one another

Whatever work is run, and however its transactions are asked for in one another, the program does
what the work does. A task that starts without a current transaction therefore has one transaction
after the other.

## Main definitions

* `Acted`: what a run of work comes to
* `Work.Faithful index d work`: the program of work does what the work does
* `Sole limit options body calls ending`: the calls for a single transaction
* `Sequential`: what a task comes to that starts without a current transaction

## Main results

* `Work.faithful`: the program of any work does what the work does
* `Acts.sole`: a body that leaves its transaction to the owner
* `ambient_sequential`: transactions do not overlap
-/

namespace EntityMapper

variable {σ α : Type}

/-! ## Runs of work -/

/-- **What a run of work comes to**, from where at most the transaction `cur` is open. -/
inductive Acted (c : Scope σ) (limit : Option Duration) (index : Nat) {n : Nat}
    (ids : Fin n → Nat) (cur : Option Nat) (work : Work α n)
    (w : RunState (σ × List DriverCall)) :
    Except Interrupt (Ending α) → RunState (σ × List DriverCall) → Prop where
  | done {calls ending finished cur' w'}
    (hacts : Acts limit ids cur work calls ending finished cur')
    (hcalls : w'.calls index = w.calls index ++ calls)
    (hw' : Holding index c.ambient ids cur' w') :
    Acted c limit index ids cur work w (.ok ending) w'
  /-- Where no deadline is set, only a driver that does not answer interrupts. -/
  | interrupted {i w'} (h : c.deadlines = [] → ¬ c.driver.Answers) :
    Acted c limit index ids cur work w (.error i) w'

/-- A run of what is next is a run of the work, which has made some calls before. -/
theorem Acted.of_next {c : Scope σ} {limit : Option Duration} {index n m : Nat} {ids : Fin n → Nat}
    {ids' : Fin m → Nat} {cur cur₁ : Option Nat} {work : Work α n} {next : Work α m}
    {w w₁ w' : RunState (σ × List DriverCall)} {res : Except Interrupt (Ending α)}
    (h : Acted c limit index ids' cur₁ next w₁ res w') (calls : List DriverCall) (finished : Bool)
    (hcalls : w₁.calls index = w.calls index ++ calls)
    (hacts : ∀ {calls' ending finished' cur'},
      Acts limit ids' cur₁ next calls' ending finished' cur' →
        Acts limit ids cur work (calls ++ calls') ending (finished || finished') cur')
    (hholding : ∀ {cur'}, Holding index c.ambient ids' cur' w' →
      Holding index c.ambient ids cur' w') :
    Acted c limit index ids cur work w res w' := by
  cases h with
  | done hnext hcalls' hw' =>
    refine .done (hacts hnext) ?_ (hholding hw')
    rw [hcalls', hcalls, List.append_assoc]
  | interrupted h => exact .interrupted h

/-- **The program of work does what the work does**, wherever it runs. -/
def Work.Faithful (index : Nat) (d : Database (σ × List DriverCall)) {n : Nat} (work : Work α n) :
    Prop :=
  ∀ {ids : Fin n → Nat} {cur : Option Nat} {c : Scope σ} {w : RunState (σ × List DriverCall)},
    Holding index c.ambient ids cur w →
      ∃ res w', (work.run index d ids).eval c.recording w = (res, w') ∧
        Acted c d.settings.timeout index ids cur work w res w'

namespace Work

variable {index n : Nat} {d : Database (σ × List DriverCall)}

theorem faithful_finish (ending : Ending α) : (finish ending : Work α n).Faithful index d :=
  fun {_ _ _ w} hw => ⟨_, w, rfl, .done (.finish ending) (by simp) hw⟩

theorem faithful_request {h : Fin n} {r : Request} {next : Except Error Answer → Work α n}
    (hnext : ∀ a, (next a).Faithful index d) : (request h r next).Faithful index d := by
  intro ids cur c w hw
  by_cases hcur : cur = some (ids h)
  · subst hcur
    obtain ⟨res, w₁, heval, hrequested⟩ := r.eval_run_open c d hw.handle_open
    rw [run, eval_bind, heval]
    cases hrequested with
    | @answered call a _ isOpen hmade hopen hcalls hbegun hhandles =>
      cases isOpen with
      | true =>
        have hkept : w₁.handles = w.handles := by
          rw [hhandles, ← hw.handle_open, update_self]
        obtain ⟨res, w', hrun, hacted⟩ := hnext a (hw.congr hkept hbegun)
        exact ⟨res, w', hrun, hacted.of_next _ false hcalls
          (fun hacts => .statement (hopen.mp rfl) hmade hacts) id⟩
      | false =>
        obtain ⟨res, w', hrun, hacted⟩ := hnext a (hw.finish (by simp) ⟨hhandles, hbegun⟩)
        exact ⟨res, w', hrun, hacted.of_next _ true hcalls
          (fun hacts => .ends (fun hr => Bool.false_ne_true (hopen.mpr hr)) hmade hacts) id⟩
    | interrupted h => exact ⟨_, w₁, rfl, .interrupted h⟩
  · obtain ⟨trace, heval⟩ := r.eval_run_gone c d (hw.handle_over hcur)
    have hw₁ : Holding index c.ambient ids cur { w with trace := trace } := hw.congr rfl rfl
    obtain ⟨res, w', hrun, hacted⟩ := hnext (.error .transactionDone) hw₁
    refine ⟨res, w', ?_, hacted.of_next [] false (by simp; rfl)
      (fun hacts => .refused hcur hacts) id⟩
    rw [run, eval_bind, heval]
    exact hrun

theorem faithful_isDone {h : Fin n} {next : Bool → Work α n}
    (hnext : ∀ b, (next b).Faithful index d) : (isDone h next).Faithful index d := by
  intro ids cur c w hw
  obtain ⟨res, w', hrun, hacted⟩ := hnext (decide (cur ≠ some (ids h))) hw
  refine ⟨res, w', ?_, hacted.of_next [] false (by simp) .isDone id⟩
  rw [run, eval_bind, eval_isDone, hw.handle h, ← hrun, decide_not]
  rfl

theorem faithful_current {found : Work α (n + 1)} {missing : Work α n}
    (hfound : found.Faithful index d) (hmissing : missing.Faithful index d) :
    (current found missing).Faithful index d := by
  intro ids cur c w hw
  rw [run, eval_bind, hw.eval_currentTransaction]
  cases cur with
  | some id =>
    obtain ⟨res, w', hrun, hacted⟩ := hfound hw.cons_current
    exact ⟨res, w', hrun, hacted.of_next [] false (by simp) .found
      fun hw' => hw'.tail hw.known⟩
  | none =>
    obtain ⟨res, w', hrun, hacted⟩ := hmissing hw
    exact ⟨res, w', hrun, hacted.of_next [] false (by simp) .missing id⟩

section Nested

variable {ids : Fin n → Nat} {options : TransactionOptions} {body : Work α (n + 1)}
  {next : Ending α → Work α (n + 1)} {otherwise : Ending α → Work α n} {c : Scope σ}
  {w : RunState (σ × List DriverCall)}

/-- **Where a transaction is open**, whoever asks for another one works in it. -/
theorem eval_nested_reused {id : Nat} (hbody : body.Faithful index d)
    (hnext : ∀ ending, (next ending).Faithful index d)
    (hw : Holding index c.ambient ids (some id) w) :
    ∃ res w', ((nested options body next otherwise).run index d ids).eval c.recording w =
        (res, w') ∧
      Acted c d.settings.timeout index ids (some id) (nested options body next otherwise) w res
        w' := by
  obtain ⟨res, w₁, hrun, hacted⟩ := hbody hw.cons_current
  rw [run, eval_bind, doAmbient, eval_bind, hw.eval_currentTransaction]
  simp only [eval_bind, hrun]
  cases hacted with
  | @done _ ending _ _ _ hacts hcalls hw₁ =>
    obtain ⟨res, w', hrun', hacted'⟩ := hnext ending hw₁
    exact ⟨res, w', hrun', hacted'.of_next _ _ hcalls (.reused hacts) fun hw' => hw'.tail hw.known⟩
  | interrupted h => exact ⟨_, w₁, rfl, .interrupted h⟩

/-- A body in a scope in which its transaction is current. -/
theorem eval_current_body {id : Nat} {res : Except Interrupt (Ending α)}
    {w' : RunState (σ × List DriverCall)}
    (hrun : (body.run index d (Fin.cons id ids)).eval { c with ambient := some id }.recording w =
      (res, w')) :
    Run.eval (withReader (fun s => { s with ambient := some id }) (do
      let ending ← body.run index d (Fin.cons id ids)
      pure (ending, id))) c.recording w = (res.map (·, id), w') := by
  rw [eval_withReader]
  show Run.eval (body.run index d (Fin.cons id ids) >>= _)
    { c with ambient := some id }.recording w = _
  rw [eval_bind, hrun]
  cases res <;> rfl

/-- **Where no transaction is open**, a new one is begun, which is current in the body and over
after it. -/
theorem eval_nested_fresh (hbody : body.Faithful index d)
    (hnext : ∀ ending, (next ending).Faithful index d)
    (hotherwise : ∀ ending, (otherwise ending).Faithful index d)
    (hw : Holding index c.ambient ids none w) :
    ∃ res w', ((nested options body next otherwise).run index d ids).eval c.recording w =
        (res, w') ∧
      Acted c d.settings.timeout index ids none (nested options body next otherwise) w res w' := by
  obtain ⟨res, w₁, hbegin, hbegins⟩ := eval_beginTransaction_recorded index d options c w
  rw [run, eval_bind, doAmbient, eval_bind, hw.eval_currentTransaction]
  dsimp only
  rw [doTransaction, eval_bind, hbegin]
  cases hbegins with
  | begun delay hcalls hhandles hbegun =>
    dsimp only
    obtain ⟨res, w₂, hrun, hacted⟩ :=
      hbody (c := { c with ambient := some w.begun }) (hw.opened hhandles hbegun)
    have hinner := eval_current_body hrun
    cases hacted with
    | @done calls₁ ending _ cur₁ _ hacts hcalls₁ hw₂ =>
      -- Only this transaction can still be open.
      have hcur : ∀ j ∈ cur₁, j = w.begun := fun j hj => (Option.some.inj (hw₂.current j hj)).symm
      have hisSome : decide (cur₁ = some w.begun) = cur₁.isSome := by
        cases cur₁ with
        | none => rfl
        | some j => simpa using hcur j rfl
      have hhandle : w₂.handles w.begun = .idle index cur₁.isSome := hisSome ▸ hw₂.handle 0
      obtain ⟨res, w₃, hclose, hres⟩ := eval_closing c hinner hhandle
      rw [hclose]
      rcases hres with ⟨last, outcome, rfl, hcloses, hcalls₂, hfinished⟩ | ⟨i, rfl, hi⟩
      · have hcalls₃ : w₃.calls index = w.calls index ++
            (.beginTransaction options (.answered delay (.ok ())) :: calls₁ ++ last) := by
          simp [hcalls₂, hcalls₁, hcalls]
        obtain ⟨res, w', hrun', hacted'⟩ :=
          hnext outcome ((hw₂.finish hcur hfinished).leave hw.known)
        exact ⟨res, w', hrun', hacted'.of_next _ _ hcalls₃
          (.began (fun h => (hw.lt h).ne) hacts hcloses) fun hw' => hw'.tail hw.known⟩
      · exact ⟨_, w₃, rfl, .interrupted hi⟩
    | interrupted h =>
      obtain ⟨w₃, habandon⟩ := eval_abandon w.begun c.recording w₂
      rw [eval_andFinally (by rw [eval_bind, hinner]; rfl) habandon]
      exact ⟨_, w₃, rfl, .interrupted h⟩
  | @notBegun calls e _ h hcalls hhandles hbegun =>
    obtain ⟨res, w', hrun, hacted⟩ := hotherwise (.error e) (hw.congr hhandles hbegun)
    exact ⟨res, w', hrun, hacted.of_next _ false hcalls (.notBegun h) id⟩
  | interrupted h => exact ⟨_, w₁, rfl, .interrupted h⟩

end Nested

/-- **The program of any work does what the work does.** -/
theorem faithful (work : Work α n) : work.Faithful index d := by
  -- Induction on the work: whatever comes next holds the transactions that were at hand before.
  induction work with
  | finish ending => exact faithful_finish ending
  | request h r next ih => exact faithful_request ih
  | isDone h next ih => exact faithful_isDone ih
  | current found missing ihfound ihmissing => exact faithful_current ihfound ihmissing
  | nested options body next otherwise ihbody ihnext ihotherwise =>
    intro ids cur c w hw
    cases cur with
    | some id => exact eval_nested_reused ihbody ihnext hw
    | none => exact eval_nested_fresh ihbody ihnext ihotherwise hw

end Work

/-! ## Tasks -/

/-- **The calls for a single transaction** whose body leaves it to its owner: the transaction is
committed exactly if the body ends with a result. -/
inductive Sole (limit : Option Duration) (options : TransactionOptions) (body : Work α 1) :
    List DriverCall → Ending α → Prop where
  | settled {id delay statements ending last outcome}
    (hbody : Acts limit (fun _ => id) (some id) body statements ending false (some id))
    (hstatements : ∀ x ∈ statements, x.IsStatement) (hsettles : Settles ending last outcome)
    (hcommit : (∃ reply, last = .commit reply) ↔ ∃ a, ending = .ok a) :
    Sole limit options body
      (.beginTransaction options (.answered delay (.ok ())) :: statements ++ [last]) outcome
  | notBegun {calls e} (h : NotBegun limit options calls e) :
    Sole limit options body calls (.error e)

/-- **What a task comes to** that starts without a current transaction. -/
inductive Sequential (c : Scope σ) (limit : Option Duration) (index : Nat) (task : Work α 0)
    (w : RunState (σ × List DriverCall)) :
    Except Interrupt (Ending α) → RunState (σ × List DriverCall) → Prop where
  | done {calls ending finished w'} (hcalls : w'.calls index = w.calls index ++ calls)
    (hacts : Acts limit Fin.elim0 none task calls ending finished none)
    (hblocks : ∃ bs : List (List DriverCall), calls = bs.flatten ∧ ∀ b ∈ bs, Block limit b)
    (hsole : ∀ options body, task = .nested options body .finish .finish → finished = false →
      Sole limit options body calls ending)
    (hcurrent : currentTransaction.eval c.recording w' = (.ok none, w')) :
    Sequential c limit index task w (.ok ending) w'
  | interrupted {i w'} (h : c.deadlines = [] → ¬ c.driver.Answers) :
    Sequential c limit index task w (.error i) w'

/-- A body that does not end its transaction is followed by the call that its ending asks for. -/
theorem Acts.sole {limit : Option Duration} {options : TransactionOptions} {body : Work α 1}
    {calls : List DriverCall} {ending : Ending α} {cur : Option Nat}
    (h : Acts limit Fin.elim0 none (.nested options body .finish .finish) calls ending false cur) :
    Sole limit options body calls ending := by
  generalize hfinished : false = finished at h
  cases h with
  | @began _ _ id _ _ _ _ delay calls₁ last _ ending₁ _ _ finished₁ _ cur₁ _ hnew hbody hcloses
      hnext =>
    cases hnext
    have hids : (Fin.cons id Fin.elim0 : Fin 1 → Nat) = fun _ => id := by
      funext k
      rw [Fin.fin_one_eq_zero k, Fin.cons_zero]
    rw [Bool.or_false] at hfinished
    subst hfinished
    obtain ⟨rfl, hstatements⟩ := hbody.of_not_finished rfl nofun
    cases hcloses with
    | settled hsettles =>
      rw [List.append_nil]
      exact .settled (hids ▸ hbody) hstatements hsettles hsettles.commit_iff
  | notBegun hbegin hnext =>
    cases hnext
    rw [List.append_nil]
    exact .notBegun hbegin

/-- **Transactions do not overlap.** Whatever a task asks for that starts without a current
transaction, one transaction is over before another one begins, and none is current afterwards. -/
theorem ambient_sequential (index : Nat) (d : Database (σ × List DriverCall)) (task : Work α 0)
    {c : Scope σ} (hc : c.ambient = none) (w : RunState (σ × List DriverCall)) :
    ∃ res w', (task.run index d Fin.elim0).eval c.recording w = (res, w') ∧
      Sequential c d.settings.timeout index task w res w' := by
  have hstart : Holding index c.ambient (Fin.elim0 : Fin 0 → Nat) none w := hc ▸ .start index w
  obtain ⟨res, w', hrun, hacted⟩ := task.faithful (d := d) hstart
  refine ⟨res, w', hrun, ?_⟩
  cases hacted with
  | @done calls ending finished cur' _ hacts hcalls hw' =>
    -- Whatever were still open would be current, and nothing is.
    obtain rfl : cur' = none := by
      cases cur' with
      | none => rfl
      | some id => exact absurd ((hw'.current id rfl).symm.trans hc) nofun
    refine .done hcalls hacts hacts.calls_extend.exists_blocks ?_ hw'.eval_currentTransaction
    rintro options body rfl rfl
    exact hacts.sole
  | interrupted h => exact .interrupted h

/-- A body ends its transaction itself, and asks for another one. In that one, work that fails
leaves the decision to the owner. -/
def handOver : Work Unit 0 :=
  .nested .standard
    (.request 0 .commit fun _ => .current (.finish (.panic .other))
      (.nested .standard
        (.nested .standard (.finish (.error .transactionDone)) (fun _ => .finish (.ok ())) .finish)
        .finish .finish))
    .finish .finish

/-- The second transaction begins when the first one is over, and there is no third one. -/
theorem handOver_sequential :
    let db : Database (Scripted.State × List DriverCall) := ⟨⟨.postgres, .byName, 0, none, 0⟩, []⟩
    let c := Scenario.startScope Scripted.driver
    let w := Scenario.startState (Scripted.State.start [] .none, []) []
    ∃ w', (handOver.run 0 db Fin.elim0).eval c.recording w = (.ok (.ok ()), w') ∧
      w'.calls 0 = [.beginTransaction .standard (.answered ⟨0⟩ (.ok ())),
        .commit (.answered ⟨0⟩ (.ok ())), .beginTransaction .standard (.answered ⟨0⟩ (.ok ())),
        .commit (.answered ⟨0⟩ (.ok ()))] ∧
      Sequential c none 0 handOver w (.ok (.ok ())) w' := by
  intro db c w
  have heval : ∃ w', (handOver.run 0 db Fin.elim0).eval c.recording w = (.ok (.ok ()), w') ∧
      w'.calls 0 = [.beginTransaction .standard (.answered ⟨0⟩ (.ok ())),
        .commit (.answered ⟨0⟩ (.ok ())), .beginTransaction .standard (.answered ⟨0⟩ (.ok ())),
        .commit (.answered ⟨0⟩ (.ok ()))] := by
    simp only [handOver, Work.run]
    exact ⟨_, rfl, rfl⟩
  obtain ⟨w₁, hw₁, hcalls⟩ := heval
  obtain ⟨res, w', hrun, hsequential⟩ := ambient_sequential 0 db handOver (c := c) rfl w
  obtain ⟨rfl, rfl⟩ := Prod.mk.inj (hrun.symm.trans hw₁)
  exact ⟨_, hw₁, hcalls, hsequential⟩

end EntityMapper

import EntityMapper.Driver.Scripted
import EntityMapper.Proofs.Transaction.Alone
import EntityMapper.Proofs.Transaction.Coherence
import EntityMapper.Scenario.Run

/-!
# The life cycle of a shared transaction

Whatever the tasks that share a transaction do, and in whichever order: its driver is called for
statements, then once to end it, and not any more after that. Calls that come when somebody has
taken the driver's side out are denied; a statement that fails or is given up leaves the
transaction open.

## Main definitions

* `Denied d limit s t`: what becomes of a call that comes late
* `LifeCycle d limit before moves s`: what tasks and driver can rely on

## Main results

* `transaction_lifeCycle`: the life cycle of a transaction that was begun
-/

namespace EntityMapper

variable {σ : Type} {d : Driver σ} {limit : Option Duration} {before : List DriverCall}
  {moves : List Move} {m : Move} {s s' : Sharing σ} {t : Nat} {r : Request}

/-- **A call that is denied**: it does not reach the driver, goes on until it returns, and returns
that the transaction is done. -/
structure Denied (d : Driver σ) (limit : Option Duration) (s : Sharing σ) (t : Nat) : Prop where
  phase : ∃ r, s.At Phase.IsDenied t r
  untouched : ∀ {m s'}, m.task? = some t → Step d limit m s s' → s'.driver = s.driver
  proceeds : (∃ r, s.tasks t = some ⟨r, .returned (.error .transactionDone)⟩) ∨
    ∃ m s', m.task? = some t ∧ Step d limit m s s'

/-- **The life cycle of a transaction**, after the given moves and with the calls that its driver
has had before. -/
structure LifeCycle (d : Driver σ) (limit : Option Duration) (before : List DriverCall)
    (moves : List Move) (s : Sharing σ) : Prop where
  /-- The driver is called for statements, and then at most once to end the transaction; when the
  handle is given up, it has been called for that, and it was left to abandon the transaction just
  when no commit and no rollback has taken its side out. -/
  calls : ∃ statements ends, s.driver.2 = before ++ statements ++ ends ∧
    (∀ call ∈ statements, call.IsStatement) ∧ (∀ call ∈ ends, call.IsEnd ∨ call = .abandon) ∧
    ends.length ≤ 1 ∧ (s.dropped = true → ends.length = 1) ∧
    (.abandon ∈ ends ↔ s.dropped = true ∧ ¬ Taken moves)
  /-- Only a commit or a rollback, or giving the handle up, closes the transaction. -/
  isOpen : s.handle.isOpen = true ↔ s.dropped = false ∧ ¬ Taken moves
  /-- A transaction that is done is closed. -/
  done : s.handle.done = true → s.handle.isOpen = false
  /-- The lock is free when no statement is with the driver, so that the next one gets there. -/
  usable : s.handle.isOpen = true → (∀ u r, ¬ s.At Phase.Holds u r) →
    ∀ {t r}, s.tasks t = some ⟨r, .waiting⟩ → ∃ m s', (m = .send t ∨ m = .take t true) ∧
      Step d limit m s s'
  /-- Whoever takes the lock when the driver's side was taken out comes late. -/
  late : Taken moves → ∀ {t m s'}, m.TakesLock t → Step d limit m s s' →
    CameLate [m] t ∧ s'.driver = s.driver
  /-- Calls that come late are denied. -/
  denied : ∀ t, CameLate moves t → Denied d limit s t

theorem Stage.calls (hs : Stage before moves s) :
    ∃ statements ends, s.driver.2 = before ++ statements ++ ends ∧
      (∀ call ∈ statements, call.IsStatement) ∧ (∀ call ∈ ends, call.IsEnd ∨ call = .abandon) ∧
      ends.length ≤ 1 ∧ (s.dropped = true → ends.length = 1) ∧
      (.abandon ∈ ends ↔ s.dropped = true ∧ ¬ Taken moves) := by
  cases hs with
  | opened statements hstatements hcalls _ hlive _ _
  | taken statements hstatements hcalls _ hlive _ _ _ _ _ =>
    exact ⟨statements, [], by simp [hcalls], hstatements, by simp, by simp, by simp [hlive],
      by simp [hlive]⟩
  | ended statements hstatements last hlast hcalls _ _ htaken =>
    have hne : .abandon ≠ last := by
      rintro rfl
      exact hlast
    exact ⟨statements, [last], hcalls, hstatements, by simp [hlast], by simp, by simp,
      by simp [htaken, hne]⟩
  | abandoned statements hstatements hcalls _ hdropped _ htaken =>
    exact ⟨statements, [.abandon], hcalls, hstatements, by simp, by simp, by simp,
      by simp [hdropped, htaken]⟩

theorem Stage.isOpen_iff (hs : Stage before moves s) :
    s.handle.isOpen = true ↔ s.dropped = false ∧ ¬ Taken moves := by
  cases hs with
  | opened _ _ _ hopen hlive _ htaken => simp [hopen, hlive, htaken]
  | taken _ _ _ hclosed _ _ _ _ _ htaken | ended _ _ _ _ _ hclosed _ htaken =>
    simp [hclosed, htaken]
  | abandoned _ _ _ hclosed hdropped => simp [hclosed, hdropped]

/-- A call that is denied can only go on to return. -/
theorem Denied.of_at (hs : s.At Phase.IsDenied t r) : Denied d limit s t := by
  obtain ⟨p, ht, hp⟩ := hs
  refine ⟨⟨r, p, ht, hp⟩, ?_, ?_⟩
  · intro m s' hm hstep
    -- The steps that reach the driver are those of a call that waits, or has the driver's side.
    cases hstep with
    | @send _ u _ _ hu | @finish _ u _ hu =>
      cases hm
      rw [ht] at hu
      cases hu
      cases hp
    | drop | elsewhere => cases hm
    | _ => rfl
  · match p, hp with
    | .taken false, _ => exact .inr ⟨_, _, rfl, .mark ht⟩
    | .marked false, _ => exact .inr ⟨_, _, rfl, .deny ht⟩
    | .returned (.error .transactionDone), _ => exact .inl ⟨r, ht⟩

/-- The lock of a closed transaction is taken late. -/
theorem Step.late (hstep : Step d limit m s s') (hclosed : s.handle.isOpen = false)
    (hm : m.TakesLock t) : CameLate [m] t ∧ s'.driver = s.driver := by
  cases hstep with
  | send _ _ hlock hopen =>
    obtain ⟨-, rfl⟩ := Handle.acquire?_eq_some hlock
    exact absurd (Handle.requireOpen_ok hopen) (Bool.eq_false_iff.mp hclosed)
  | refuse =>
    cases hm
    exact ⟨.inl (List.mem_singleton_self _), rfl⟩
  | take _ _ hlock hdrop =>
    obtain ⟨-, rfl⟩ := Handle.acquire?_eq_some hlock
    cases hdrop
    cases hm
    exact ⟨.inr (by simp [hclosed]), rfl⟩
  | _ => cases hm

/-- The lock of an open transaction, when it is free, is taken in time. -/
theorem Step.inTime (hopen : s.handle.isOpen = true) (hfree : s.handle.locked = false)
    (ht : s.tasks t = some ⟨r, .waiting⟩) :
    ∃ m s', (m = .send t ∨ m = .take t true) ∧ Step d limit m s s' := by
  have hlock : s.handle.acquire? = some { s.handle with locked := true } := by
    simp [Handle.acquire?, hfree]
  by_cases hr : r.IsStatement
  · exact ⟨_, _, .inl rfl, .send ht hr hlock (by simp [Handle.requireOpen, hopen])⟩
  · exact ⟨_, _, .inr rfl, .take ht hr hlock (by simp [Handle.drop, hopen]; rfl)⟩

/-- The invariant carries the life cycle. -/
theorem Coherent.lifeCycle (hs : Coherent before moves s) : LifeCycle d limit before moves s where
  calls := hs.stage.calls
  isOpen := hs.stage.isOpen_iff
  done hdone := hs.shut (.inl hdone)
  -- A lock that is held is held by some call, which would be with the driver.
  usable hopen hnone _ _ ht := by
    refine Step.inTime hopen (Bool.eq_false_iff.mpr fun hlocked => ?_) ht
    obtain ⟨u, r, hheld⟩ := hs.lock.locked.mp hlocked
    exact hnone u r hheld
  late htaken _ _ _ hm hstep :=
    hstep.late (Bool.eq_false_iff.mpr fun hopen => (hs.stage.isOpen_iff.mp hopen).2 htaken) hm
  denied t ht := by
    obtain ⟨r, hr⟩ := hs.denies t ht
    exact .of_at hr

/-- **The life cycle of a transaction.** However many tasks share a transaction that was begun, in
whichever order they take their steps, and wherever they are given up. -/
theorem transaction_lifeCycle {index id : Nat} {db : Database (σ × List DriverCall)}
    {options : TransactionOptions} {c : Scope σ} {w w' : RunState (σ × List DriverCall)}
    (hbegun : (beginTransaction index db options).eval c.recording w = (.ok (.ok id), w')) :
    (∃ delay, w'.calls index =
      w.calls index ++ [.beginTransaction options (.answered delay (.ok ()))]) ∧
    (Sharing.begun w' index id).Matches w' index id ∧ ProgramsFollow c db index id ∧
    ∀ {moves s}, Path c.driver db.settings.timeout (.begun w' index id) moves s →
      LifeCycle c.driver db.settings.timeout (w'.calls index) moves s := by
  obtain ⟨hcalls, hhandle⟩ := beginTransaction_begun hbegun
  refine ⟨hcalls, ⟨rfl, rfl, congrArg Handle.database hhandle⟩, programsFollow .., ?_⟩
  intro moves s hpath
  have hstart : Coherent (w'.calls index) [] (.begun w' index id : Sharing σ) :=
    .start rfl (congrArg Handle.isOpen hhandle) (congrArg Handle.done hhandle)
      (congrArg Handle.locked hhandle) (fun _ => rfl) rfl
  exact (hpath.coherent hstart).lifeCycle

/-- Two tasks end a transaction: the commit takes the driver's side out, the rollback comes late. -/
theorem sharedCommit_lifeCycle :
    let db : Database (Scripted.State × List DriverCall) := ⟨⟨.postgres, .byName, 0, none, 0⟩, []⟩
    let c := Scenario.startScope Scripted.driver
    let w := Scenario.startState (Scripted.State.start [] .none, []) []
    ∃ w' moves s, (beginTransaction 0 db .standard).eval c.recording w = (.ok (.ok 0), w') ∧
      Path Scripted.driver none (.begun w' 0 0) moves s ∧ s.dropped = true ∧ Taken moves ∧
      CameLate moves 1 ∧ LifeCycle Scripted.driver none (w'.calls 0) moves s := by
  intro db c w
  -- The rollback takes the lock between the commit's taking the driver's side and its using it.
  have hbegun : (beginTransaction 0 db .standard).eval c.recording w =
      (.ok (.ok 0), ((beginTransaction 0 db .standard).eval c.recording w).2) := rfl
  have hasked : Path Scripted.driver none
      (.begun ((beginTransaction 0 db .standard).eval c.recording w).2 0 0) _ _ :=
    (Path.nil.snoc (.ask 0 .commit rfl rfl)).snoc (.ask 1 .rollback rfl rfl)
  have htaken := (hasked.snoc (.take (t := 0) rfl id rfl rfl)).snoc (.take (t := 1) rfl id rfl rfl)
  have hmarked := (htaken.snoc (.mark (t := 0) rfl)).snoc (.mark (t := 1) rfl)
  have hover := ((hmarked.snoc (.finish (t := 0) rfl)).snoc (.deny (t := 1) rfl)).snoc
    (.answer (t := 0) rfl rfl)
  have hdropped : Path _ _ _ [.ask 0 .commit, .ask 1 .rollback, .take 0 true, .take 1 false,
      .mark 0, .mark 1, .finish 0, .deny 1, .answer 0, .drop] _ :=
    hover.snoc (.drop true rfl (fun t task ht => ?_) rfl)
  · exact ⟨_, _, _, hbegun, hdropped, rfl, ⟨0, by simp⟩, .inr (by simp),
      (transaction_lifeCycle hbegun).2.2.2 hdropped⟩
  · match t with
    | 0 | 1 =>
      cases ht
      trivial
    | _ + 2 => cases ht

end EntityMapper

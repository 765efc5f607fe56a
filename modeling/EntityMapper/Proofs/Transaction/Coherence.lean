import EntityMapper.Proofs.Transaction.Sharing

/-!
# The invariant of shared transactions

What holds of a shared transaction between any two steps: who holds its lock, who has the driver's
side, what the driver was called for, and what becomes of the calls that come late. Each of these
is kept by every step.

## Main definitions

* `Exclusive s`, `Shut s`: the lock, and what a closed transaction is
* `Denies moves s`: calls that come late
* `Stage before moves s`: what the driver was called for, and who has its side
* `Coherent before moves s`: the invariant

## Main results

* `Coherent.step`: every step keeps the invariant
* `Path.coherent`: so does every path
-/

namespace EntityMapper

variable {σ : Type} {d : Driver σ} {limit : Option Duration} {before : List DriverCall}
  {moves : List Move} {m : Move} {s s' : Sharing σ} {t u : Nat} {r r' : Request} {p p' : Phase}
  {h : Handle}

/-! ## Phases of calls -/

/-- A call of the given number is at a phase of the given kind. -/
def Sharing.At (s : Sharing σ) (P : Phase → Prop) (t : Nat) (r : Request) : Prop :=
  ∃ p, s.tasks t = some ⟨r, p⟩ ∧ P p

section At

variable {P : Phase → Prop} (htasks : s'.tasks = update s.tasks t (some ⟨r, p'⟩))
include htasks

/-- The call whose step it is. -/
theorem at_self : s'.At P t r' ↔ r' = r ∧ P p' := by
  simp [Sharing.At, htasks, eq_comm, and_assoc]

/-- Other calls stay where they are. -/
theorem at_of_ne (hu : u ≠ t) : s'.At P u r' ↔ s.At P u r' := by
  simp [Sharing.At, htasks, update, hu]

/-- A call that neither leaves nor enters a kind of phase. -/
theorem at_iff_of_tasks (ht : s.tasks t = some ⟨r, p⟩) (hp : P p' ↔ P p) :
    s'.At P u r' ↔ s.At P u r' := by
  by_cases hu : u = t
  · subst hu
    rw [at_self htasks, hp]
    simp [Sharing.At, ht, eq_comm, and_assoc]
  · exact at_of_ne htasks hu

/-- A call that has just been made. -/
theorem at_iff_of_asked (ht : s.tasks t = none) (hp : ¬ P p') : s'.At P u r' ↔ s.At P u r' := by
  by_cases hu : u = t
  · subst hu
    rw [at_self htasks]
    simp [Sharing.At, ht, hp]
  · exact at_of_ne htasks hu

end At

/-! ## The lock -/

theorem Handle.acquire?_eq_some {h h' : Handle} (hlock : h.acquire? = some h') :
    h.locked = false ∧ h' = { h with locked := true } := by
  unfold Handle.acquire? at hlock
  split at hlock
  · cases hlock
  · next hfree => exact ⟨Bool.eq_false_iff.mpr hfree, (Option.some.inj hlock).symm⟩

theorem Handle.requireOpen_ok (hopen : h.requireOpen = .ok ()) : h.isOpen = true := by
  unfold Handle.requireOpen at hopen
  split at hopen
  · assumption
  · cases hopen

theorem Handle.requireOpen_error {e : Error} (hgone : h.requireOpen = .error e) :
    h.isOpen = false ∧ e = .transactionDone := by
  unfold Handle.requireOpen at hgone
  split at hgone
  · cases hgone
  · next hclosed => exact ⟨Bool.eq_false_iff.mpr hclosed, (Except.error.inj hgone).symm⟩

/-- **The lock is held by one call**, and free when no call holds it. -/
structure Exclusive (s : Sharing σ) : Prop where
  locked : s.handle.locked = true ↔ ∃ t r, s.At Phase.Holds t r
  sole : ∀ {t u r r'}, s.At Phase.Holds t r → s.At Phase.Holds u r' → t = u

namespace Exclusive

/-- Whoever finds the lock free is alone with it. -/
theorem free (hs : Exclusive s) (hfree : s.handle.locked = false) : ¬ s.At Phase.Holds t r :=
  fun hheld => by simp [hs.locked.mpr ⟨t, r, hheld⟩] at hfree

/-- A step without the lock. -/
theorem frame (hs : Exclusive s) (hlocked : s'.handle.locked = s.handle.locked)
    (hheld : ∀ t r, s'.At Phase.Holds t r ↔ s.At Phase.Holds t r) : Exclusive s' :=
  ⟨by simp only [hlocked, hheld, hs.locked], fun ht hu => hs.sole ((hheld _ _).mp ht)
    ((hheld _ _).mp hu)⟩

/-- A call that takes the lock when it is free. -/
theorem acquire (hs : Exclusive s) (hfree : s.handle.locked = false) (hp : p.Holds) :
    Exclusive (s.moved t r p { s.handle with locked := true }) := by
  have hheld : ∀ {u r'}, (s.moved t r p { s.handle with locked := true }).At Phase.Holds u r' →
      u = t := by
    intro u r' hu
    by_contra hne
    exact hs.free hfree ((at_of_ne rfl hne).mp hu)
  exact ⟨⟨fun _ => ⟨t, r, (at_self rfl).mpr ⟨rfl, hp⟩⟩, fun _ => rfl⟩,
    fun hu hv => (hheld hu).trans (hheld hv).symm⟩

/-- A call that stops waiting gives the lock back if it holds it. -/
theorem leave (hs : Exclusive s) (ht : s.tasks t = some ⟨r, p⟩) (hover : ¬ p'.Holds) :
    Exclusive (s.moved t r p' (p.leave s.handle)) := by
  by_cases hp : p.Holds
  -- It was the only one to hold the lock, so that nobody does any more.
  · obtain ⟨reply, rfl⟩ : ∃ reply, p = .sent reply := by
      cases p <;> first | exact ⟨_, rfl⟩ | cases hp
    have hnone : ∀ u r', ¬ (s.moved t r p' (Phase.leave s.handle (.sent reply))).At
        Phase.Holds u r' := by
      intro u r' hu
      by_cases hut : u = t
      · subst hut
        exact hover ((at_self rfl).mp hu).2
      · exact hut (hs.sole ((at_of_ne rfl hut).mp hu) ⟨_, ht, trivial⟩)
    exact ⟨⟨fun hlocked => Bool.noConfusion hlocked, fun ⟨u, r', hu⟩ => absurd hu (hnone u r')⟩,
      fun hu => absurd hu (hnone _ _)⟩
  · refine hs.frame ?_ fun u r' => at_iff_of_tasks rfl ht (iff_of_false hover hp)
    cases p <;> first | rfl | exact absurd trivial hp

/-- **Every step keeps the lock with one call.** -/
theorem step (hs : Exclusive s) (hstep : Step d limit m s s') : Exclusive s' := by
  -- Sending takes the lock, and a call that stops waiting gives it back. Whoever else takes it has
  -- given it back within the step.
  cases hstep with
  | ask t r hnew => exact hs.frame rfl fun u r' => at_iff_of_asked rfl hnew id
  | send ht _ hlock =>
    obtain ⟨hfree, rfl⟩ := Handle.acquire?_eq_some hlock
    exact (hs.acquire (p := .sent _) hfree trivial).frame rfl fun _ _ => Iff.rfl
  | refuse ht _ hlock =>
    obtain ⟨hfree, rfl⟩ := Handle.acquire?_eq_some hlock
    exact hs.frame hfree.symm fun u r' => at_iff_of_tasks rfl ht Iff.rfl
  | take ht _ hlock hdrop =>
    obtain ⟨hfree, rfl⟩ := Handle.acquire?_eq_some hlock
    cases hdrop
    exact hs.frame hfree.symm fun u r' => at_iff_of_tasks rfl ht Iff.rfl
  | mark ht => exact hs.frame rfl fun u r' => at_iff_of_tasks rfl ht Iff.rfl
  | finish ht => exact hs.frame rfl fun u r' => at_iff_of_tasks rfl ht Iff.rfl
  | deny ht => exact hs.frame rfl fun u r' => at_iff_of_tasks rfl ht Iff.rfl
  | answer ht => exact hs.leave ht id
  | timeOut ht => exact hs.leave ht id
  | cancel ht => exact hs.leave ht id
  | drop _ _ _ hdrop =>
    cases hdrop
    exact hs.frame rfl fun _ _ => Iff.rfl
  | elsewhere => exact hs.frame rfl fun _ _ => Iff.rfl

end Exclusive

/-! ## Calls that come late -/

/-- Nobody looks for the driver's side or is done with it while the transaction is open. -/
def Shut (s : Sharing σ) : Prop :=
  s.handle.done = true ∨ (∃ t r, s.At Phase.HasLooked t r) → s.handle.isOpen = false

namespace Shut

/-- A step that leaves the transaction as open as it was. -/
theorem frame (hs : Shut s) (hopen : s'.handle.isOpen = s.handle.isOpen)
    (hdone : s'.handle.done = true → s.handle.done = true)
    (hlooked : ∀ t r, s'.At Phase.HasLooked t r ↔ s.At Phase.HasLooked t r) : Shut s' := by
  rintro (hd | ⟨t, r, ht⟩)
  · exact hopen.trans (hs (.inl (hdone hd)))
  · exact hopen.trans (hs (.inr ⟨t, r, (hlooked t r).mp ht⟩))

/-- A call that stops waiting. -/
theorem leave (hs : Shut s) (ht : s.tasks t = some ⟨r, p⟩) (hp : p.Suspended)
    (hover : ¬ p'.HasLooked) : Shut (s.moved t r p' (p.leave s.handle)) := by
  have hp' : ¬ p.HasLooked := by
    intro hlooked
    cases p <;> trivial
  refine hs.frame ?_ ?_ fun u r' => at_iff_of_tasks rfl ht (iff_of_false hover hp')
  · cases p <;> rfl
  · cases p <;> exact id

/-- Every step keeps a transaction shut that somebody has looked into. -/
theorem step (hs : Shut s) (hstep : Step d limit m s s') : Shut s' := by
  -- Taking and giving up close the transaction, and marking comes after taking only.
  cases hstep with
  | ask t r hnew => exact hs.frame rfl id fun u r' => at_iff_of_asked rfl hnew id
  | send ht _ hlock =>
    obtain ⟨-, rfl⟩ := Handle.acquire?_eq_some hlock
    exact hs.frame rfl id fun u r' => at_iff_of_tasks rfl ht Iff.rfl
  | refuse ht _ hlock =>
    obtain ⟨-, rfl⟩ := Handle.acquire?_eq_some hlock
    exact hs.frame rfl id fun u r' => at_iff_of_tasks rfl ht Iff.rfl
  | take ht _ hlock hdrop =>
    cases hdrop
    exact fun _ => rfl
  | mark ht => exact fun _ => hs (.inr ⟨_, _, _, ht, trivial⟩)
  | finish ht => exact hs.frame rfl id fun u r' => at_iff_of_tasks rfl ht Iff.rfl
  | deny ht => exact hs.frame rfl id fun u r' => at_iff_of_tasks rfl ht Iff.rfl
  | answer ht hp => exact hs.leave ht (Phase.suspended_of_reply? hp) id
  | timeOut ht _ hp => exact hs.leave ht hp id
  | cancel ht hp => exact hs.leave ht hp id
  | drop _ _ _ hdrop =>
    cases hdrop
    exact fun _ => rfl
  | elsewhere => exact hs

end Shut

/-- The call took the lock when the driver's side was gone. -/
def CameLate (moves : List Move) (t : Nat) : Prop := .refuse t ∈ moves ∨ .take t false ∈ moves

/-- **Calls that come late are denied.** -/
def Denies (moves : List Move) (s : Sharing σ) : Prop :=
  ∀ t, CameLate moves t → ∃ r, s.At Phase.IsDenied t r

theorem cameLate_concat : CameLate (moves ++ [m]) t ↔ CameLate moves t ∨ CameLate [m] t := by
  simp only [CameLate, List.mem_append]
  exact or_or_or_comm

namespace Denies

/-- A step in which no call comes late. -/
theorem frame (hs : Denies moves s)
    (hdenied : ∀ u r, s'.At Phase.IsDenied u r ↔ s.At Phase.IsDenied u r)
    (hm : ∀ u, ¬ CameLate [m] u) : Denies (moves ++ [m]) s' := by
  intro u hu
  obtain ⟨r, hr⟩ := hs u ((cameLate_concat.mp hu).resolve_right (hm u))
  exact ⟨r, (hdenied u r).mpr hr⟩

/-- A step of a call that comes late. -/
theorem moved (hs : Denies moves s) (htasks : s'.tasks = update s.tasks t (some ⟨r, p'⟩))
    (hp' : p'.IsDenied) (hm : ∀ u, CameLate [m] u → u = t) : Denies (moves ++ [m]) s' := by
  intro u hu
  by_cases hut : u = t
  · subst hut
    exact ⟨r, (at_self htasks).mpr ⟨rfl, hp'⟩⟩
  · have hnot : ¬ CameLate [m] u := fun hlate => hut (hm u hlate)
    obtain ⟨r', hr'⟩ := hs u ((cameLate_concat.mp hu).resolve_right hnot)
    exact ⟨r', (at_of_ne htasks hut).mpr hr'⟩

/-- A call that stops waiting was not denied. -/
theorem leave (hs : Denies moves s) (htasks : s'.tasks = update s.tasks t (some ⟨r, p'⟩))
    (ht : s.tasks t = some ⟨r, p⟩) (hp : p.Suspended) (hm : ∀ u, ¬ CameLate [m] u) :
    Denies (moves ++ [m]) s' := by
  intro u hu
  obtain ⟨r', hr'⟩ := hs u ((cameLate_concat.mp hu).resolve_right (hm u))
  have hne : u ≠ t := by
    rintro rfl
    obtain ⟨q, hq, hdenied⟩ := hr'
    rw [ht] at hq
    cases hq
    cases p <;> trivial
  exact ⟨r', (at_of_ne htasks hne).mpr hr'⟩

/-- **Every step denies the calls that come late.** -/
theorem step (hs : Denies moves s) (hstep : Step d limit m s s') : Denies (moves ++ [m]) s' := by
  -- A call is denied in the step in which it comes late; after that it does not wait for anything.
  cases hstep with
  | ask t r hnew => exact hs.frame (fun u r' => at_iff_of_asked rfl hnew id) (by simp [CameLate])
  | send ht => exact hs.frame (fun u r' => at_iff_of_tasks rfl ht Iff.rfl) (by simp [CameLate])
  | refuse ht _ _ hgone =>
    obtain ⟨-, rfl⟩ := Handle.requireOpen_error hgone
    exact hs.moved rfl trivial (by simp [CameLate])
  | @take _ t r _ found _ ht _ _ hdrop =>
    cases found with
    | true => exact hs.frame (fun u r' => at_iff_of_tasks rfl ht Iff.rfl) (by simp [CameLate])
    | false => exact hs.moved rfl trivial (by simp [CameLate])
  | @mark _ t r found ht =>
    refine hs.frame (fun u r' => at_iff_of_tasks rfl ht ?_) (by simp [CameLate])
    cases found <;> exact Iff.rfl
  | finish ht => exact hs.frame (fun u r' => at_iff_of_tasks rfl ht Iff.rfl) (by simp [CameLate])
  | deny ht => exact hs.frame (fun u r' => at_iff_of_tasks rfl ht Iff.rfl) (by simp [CameLate])
  | answer ht hp => exact hs.leave rfl ht (Phase.suspended_of_reply? hp) (by simp [CameLate])
  | timeOut ht _ hp => exact hs.leave rfl ht hp (by simp [CameLate])
  | cancel ht hp => exact hs.leave rfl ht hp (by simp [CameLate])
  | drop | elsewhere => exact hs.frame (fun _ _ => Iff.rfl) (by simp [CameLate])

end Denies

/-! ## Calls of the driver -/

/-- Somebody has taken the driver's side out, to end the transaction. -/
def Taken (moves : List Move) : Prop := ∃ t, Move.take t true ∈ moves

/-- **What the driver was called for**, and who has its side: nobody, while the transaction is open;
the call that has taken it out; or nobody any more, once the transaction was ended or abandoned. -/
inductive Stage (before : List DriverCall) (moves : List Move) (s : Sharing σ) : Prop where
  | opened (statements : List DriverCall) (hstatements : ∀ call ∈ statements, call.IsStatement)
    (hcalls : s.driver.2 = before ++ statements) (hopen : s.handle.isOpen = true)
    (hlive : s.dropped = false) (hnone : ∀ t r, ¬ s.At Phase.HasDriver t r)
    (htaken : ¬ Taken moves)
  | taken (statements : List DriverCall) (hstatements : ∀ call ∈ statements, call.IsStatement)
    (hcalls : s.driver.2 = before ++ statements) (hclosed : s.handle.isOpen = false)
    (hlive : s.dropped = false) (t : Nat) (r : Request) (hr : ¬ r.IsStatement)
    (ht : ∀ u r', s.At Phase.HasDriver u r' ↔ u = t ∧ r' = r) (htaken : Taken moves)
  | ended (statements : List DriverCall) (hstatements : ∀ call ∈ statements, call.IsStatement)
    (last : DriverCall) (hlast : last.IsEnd) (hcalls : s.driver.2 = before ++ statements ++ [last])
    (hclosed : s.handle.isOpen = false) (hnone : ∀ t r, ¬ s.At Phase.HasDriver t r)
    (htaken : Taken moves)
  | abandoned (statements : List DriverCall) (hstatements : ∀ call ∈ statements, call.IsStatement)
    (hcalls : s.driver.2 = before ++ statements ++ [.abandon]) (hclosed : s.handle.isOpen = false)
    (hdropped : s.dropped = true) (hnone : ∀ t r, ¬ s.At Phase.HasDriver t r)
    (htaken : ¬ Taken moves)

theorem taken_concat : Taken (moves ++ [m]) ↔ Taken moves ∨ ∃ t, m = .take t true := by
  simp [Taken, exists_or, eq_comm]

namespace Stage

/-- A step that neither reaches the driver nor takes its side out. -/
theorem frame (hs : Stage before moves s) (hcalls' : s'.driver.2 = s.driver.2)
    (hopen' : s'.handle.isOpen = s.handle.isOpen) (hdropped' : s'.dropped = s.dropped)
    (hdriver : ∀ t r, s'.At Phase.HasDriver t r ↔ s.At Phase.HasDriver t r)
    (hm : ∀ t, m ≠ .take t true) : Stage before (moves ++ [m]) s' := by
  have htaken' : Taken (moves ++ [m]) ↔ Taken moves := by simp [taken_concat, hm]
  cases hs with
  | opened statements hstatements hcalls hopen hlive hnone htaken =>
    exact .opened statements hstatements (hcalls'.trans hcalls) (hopen'.trans hopen)
      (hdropped'.trans hlive) (by simpa only [hdriver]) (htaken'.not.mpr htaken)
  | taken statements hstatements hcalls hclosed hlive t r hr ht htaken =>
    exact .taken statements hstatements (hcalls'.trans hcalls) (hopen'.trans hclosed)
      (hdropped'.trans hlive) t r hr (by simpa only [hdriver]) (htaken'.mpr htaken)
  | ended statements hstatements last hlast hcalls hclosed hnone htaken =>
    exact .ended statements hstatements last hlast (hcalls'.trans hcalls) (hopen'.trans hclosed)
      (by simpa only [hdriver]) (htaken'.mpr htaken)
  | abandoned statements hstatements hcalls hclosed hdropped hnone htaken =>
    exact .abandoned statements hstatements (hcalls'.trans hcalls) (hopen'.trans hclosed)
      (hdropped'.trans hdropped) (by simpa only [hdriver]) (htaken'.not.mpr htaken)

/-- A call that stops waiting. -/
theorem leave (hs : Stage before moves s) (ht : s.tasks t = some ⟨r, p⟩) (hp : p.Suspended)
    (hover : ¬ p'.HasDriver) (hm : ∀ t, m ≠ .take t true) :
    Stage before (moves ++ [m]) (s.moved t r p' (p.leave s.handle)) := by
  have hp' : ¬ p.HasDriver := by
    intro hdriver
    cases p <;> trivial
  refine hs.frame rfl ?_ rfl (fun u r' => at_iff_of_tasks rfl ht (iff_of_false hover hp')) hm
  cases p <;> rfl

/-- A transaction from which nobody has taken the driver's side is open. -/
theorem eq_opened (hs : Stage before moves s) (hopen : s.handle.isOpen = true) :
    ∃ statements, (∀ call ∈ statements, call.IsStatement) ∧ s.driver.2 = before ++ statements ∧
      s.dropped = false ∧ (∀ t r, ¬ s.At Phase.HasDriver t r) ∧ ¬ Taken moves := by
  cases hs with
  | opened statements hstatements hcalls _ hlive hnone htaken =>
    exact ⟨statements, hstatements, hcalls, hlive, hnone, htaken⟩
  | taken _ _ _ hclosed | ended _ _ _ _ _ hclosed | abandoned _ _ _ hclosed =>
    exact absurd hopen (Bool.eq_false_iff.mp hclosed)

/-- The driver is called for a statement while the transaction is open. -/
theorem send (hs : Stage before moves s) (hopen : s.handle.isOpen = true) {call : DriverCall}
    (hcall : call.IsStatement) (hcalls' : s'.driver.2 = s.driver.2 ++ [call])
    (hopen' : s'.handle.isOpen = s.handle.isOpen) (hdropped' : s'.dropped = s.dropped)
    (hdriver : ∀ t r, s'.At Phase.HasDriver t r ↔ s.At Phase.HasDriver t r)
    (hm : ∀ t, m ≠ .take t true) : Stage before (moves ++ [m]) s' := by
  obtain ⟨statements, hstatements, hcalls, hlive, hnone, htaken⟩ := hs.eq_opened hopen
  refine .opened (statements ++ [call]) ?_ ?_ (hopen'.trans hopen) (hdropped'.trans hlive)
    (by simpa only [hdriver]) (by simpa [taken_concat, hm] using htaken)
  · simpa [or_imp, forall_and] using ⟨hstatements, hcall⟩
  · rw [hcalls', hcalls, List.append_assoc]

/-- A call takes the driver's side out of the open transaction. -/
theorem take (hs : Stage before moves s) (hopen : s.handle.isOpen = true) (hr : ¬ r.IsStatement)
    (hclosed : h.isOpen = false) :
    Stage before (moves ++ [.take t true]) (s.moved t r (.taken true) h) := by
  obtain ⟨statements, hstatements, hcalls, hlive, hnone, -⟩ := hs.eq_opened hopen
  refine .taken statements hstatements hcalls hclosed hlive t r hr (fun u r' => ?_)
    (taken_concat.mpr (.inr ⟨t, rfl⟩))
  by_cases hu : u = t
  · subst hu
    exact (at_self rfl).trans (by simp [Phase.HasDriver])
  · exact (at_of_ne rfl hu).trans (by simp [hnone, hu])

/-- The call that has the driver's side ends the transaction. -/
theorem finish (hs : Stage before moves s) (ht : s.tasks t = some ⟨r, .marked true⟩) :
    Stage before (moves ++ [.finish t])
      { s.moved t r (.ending (r.turn d.recording s.driver).outcome) s.handle with
        driver := (r.turn d.recording s.driver).next } := by
  have hdriver : s.At Phase.HasDriver t r := ⟨_, ht, trivial⟩
  obtain ⟨call, hcall, -, hend⟩ := r.turn_recording d s.driver
  cases hs with
  | opened _ _ _ _ _ hnone | ended _ _ _ _ _ _ hnone | abandoned _ _ _ _ _ hnone =>
    exact absurd hdriver (hnone t r)
  | taken statements hstatements hcalls hclosed hlive t' r' hr ht' htaken =>
    obtain ⟨rfl, rfl⟩ := (ht' t r).mp hdriver
    refine .ended statements hstatements call (hend hr) ?_ hclosed (fun u r' hu => ?_)
      (taken_concat.mpr (.inl htaken))
    · rw [hcall, hcalls]
    · by_cases hut : u = t
      · subst hut
        exact ((at_self rfl).mp hu).2
      · exact hut ((ht' u r').mp ((at_of_ne rfl hut).mp hu)).1

/-- The transaction is given up when no call is left, and abandoned if it is open. -/
theorem giveUp (hs : Stage before moves s) (running : Bool) (hlive : s.dropped = false)
    (hidle : ∀ t task, s.tasks t = some task → task.phase.IsOver) (hclosed' : h.isOpen = false) :
    Stage before (moves ++ [.drop]) { s with
      handle := h
      driver := if s.handle.isOpen then (d.recording.abandon running s.driver).next else s.driver
      dropped := true } := by
  -- Every call is over, so that nobody is about to finish.
  have hnone : ∀ t r, ¬ s.At Phase.HasDriver t r := by
    rintro t r ⟨p, hp, hdriver⟩
    have hover : p.IsOver := hidle t _ hp
    cases p <;> trivial
  cases hs with
  | opened statements hstatements hcalls hopen _ _ htaken =>
    refine .abandoned statements hstatements ?_ hclosed' rfl hnone (by simpa [taken_concat])
    simp [hopen, Driver.recording, Turn.recorded, hcalls]
  | taken _ _ _ _ _ t r _ ht => exact absurd ((ht t r).mpr ⟨rfl, rfl⟩) (hnone t r)
  | ended statements hstatements last hlast hcalls hclosed _ htaken =>
    refine .ended statements hstatements last hlast ?_ hclosed' hnone (by simpa [taken_concat])
    simp [hclosed, hcalls]
  | abandoned _ _ _ _ hdropped => simp [hlive] at hdropped

/-- **Every step keeps the stage or comes to the next.** -/
theorem step (hs : Stage before moves s) (hstep : Step d limit m s s') :
    Stage before (moves ++ [m]) s' := by
  -- Sending, taking, finishing and giving up move the stage on; all other steps leave it alone.
  cases hstep with
  | ask t r hnew =>
    exact hs.frame rfl rfl rfl (fun u r' => at_iff_of_asked rfl hnew id) (fun _ => Move.noConfusion)
  | @send _ t r _ ht hr hlock hopen =>
    obtain ⟨-, rfl⟩ := Handle.acquire?_eq_some hlock
    obtain ⟨call, hcall, hstatement, -⟩ := r.turn_recording d s.driver
    exact hs.send (Handle.requireOpen_ok hopen) (hstatement hr) hcall rfl rfl
      (fun u r' => at_iff_of_tasks rfl ht Iff.rfl) (fun _ => Move.noConfusion)
  | refuse ht _ hlock =>
    obtain ⟨-, rfl⟩ := Handle.acquire?_eq_some hlock
    exact hs.frame rfl rfl rfl (fun u r' => at_iff_of_tasks rfl ht Iff.rfl)
      (fun _ => Move.noConfusion)
  | take ht hr hlock hdrop =>
    obtain ⟨-, rfl⟩ := Handle.acquire?_eq_some hlock
    cases hdrop
    cases hopen : s.handle.isOpen with
    | false =>
      -- The driver's side is gone already, and the stage stays.
      refine hs.frame rfl hopen.symm rfl (fun u r' => at_iff_of_tasks rfl ht ?_) (by simp)
      exact Iff.rfl
    | true => exact hs.take hopen hr rfl
  | @mark _ t r found ht =>
    refine hs.frame rfl rfl rfl (fun u r' => at_iff_of_tasks rfl ht ?_) (fun _ => Move.noConfusion)
    cases found <;> exact Iff.rfl
  | finish ht => exact hs.finish ht
  | deny ht =>
    exact hs.frame rfl rfl rfl (fun u r' => at_iff_of_tasks rfl ht Iff.rfl)
      (fun _ => Move.noConfusion)
  | answer ht hp =>
    exact hs.leave ht (Phase.suspended_of_reply? hp) id (fun _ => Move.noConfusion)
  | timeOut ht _ hp => exact hs.leave ht hp id (fun _ => Move.noConfusion)
  | cancel ht hp => exact hs.leave ht hp id (fun _ => Move.noConfusion)
  | drop running hlive hidle hdrop =>
    cases hdrop
    exact hs.giveUp running hlive hidle rfl
  | elsewhere => exact hs.frame rfl rfl rfl (fun _ _ => Iff.rfl) (fun _ => Move.noConfusion)

end Stage

/-! ## The invariant -/

/-- **The invariant of the steps.** -/
structure Coherent (before : List DriverCall) (moves : List Move) (s : Sharing σ) : Prop where
  lock : Exclusive s
  shut : Shut s
  denies : Denies moves s
  stage : Stage before moves s

/-- A transaction on which no call was made. -/
theorem Coherent.start (hcalls : s.driver.2 = before) (hopen : s.handle.isOpen = true)
    (hdone : s.handle.done = false) (hfree : s.handle.locked = false)
    (htasks : ∀ t, s.tasks t = none) (hlive : s.dropped = false) : Coherent before [] s := by
  have hnone : ∀ P t r, ¬ s.At P t r := by simp [Sharing.At, htasks]
  refine ⟨⟨by simp [hfree, hnone], fun ht => absurd ht (hnone _ _ _)⟩, ?_, ?_, ?_⟩
  · simp [Shut, hdone, hnone]
  · simp [Denies, CameLate]
  · exact .opened [] (by simp) (by simpa) hopen hlive (hnone _) (by simp [Taken])

/-- **Every step keeps the invariant.** -/
theorem Coherent.step (hs : Coherent before moves s) (hstep : Step d limit m s s') :
    Coherent before (moves ++ [m]) s' :=
  ⟨hs.lock.step hstep, hs.shut.step hstep, hs.denies.step hstep, hs.stage.step hstep⟩

/-- Every path keeps the invariant. -/
theorem Path.coherent {s₀ : Sharing σ} (hs : Coherent before [] s₀)
    (hpath : Path d limit s₀ moves s) : Coherent before moves s := by
  induction hpath with
  | nil => exact hs
  | snoc _ hstep ih => exact ih.step hstep

end EntityMapper

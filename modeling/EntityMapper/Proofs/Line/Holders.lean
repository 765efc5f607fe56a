import EntityMapper.Proofs.Line.Basic
import EntityMapper.Proofs.Transaction.Coherence

/-!
# Who has the client of a line

The lock of the client is with at most one call or transaction at a time. It is handed over without
being free in between when a transaction has begun, and when it is ended or abandoned.

## Main definitions

* `Line.Holder`, `Line.Holds s a`: who may have the lock, and who has it
* `Line.Guarded s`: nobody else has it, and the driver knows

## Main results

* `Line.Step.guarded`, `Line.Path.guarded`: steps in any order keep it so
-/

namespace EntityMapper.Line

variable {s s' : Line} {t j : Nat} {r : Request} {p p' : Phase} {h : Handle} {st : Typed.State}
  {move : Move} {moves : List Move} {accepted : Bool}

/-! ## Holders -/

/-- Who may have the lock of the client. -/
inductive Holder where
  | call (t : Nat)
  | transaction (j : Nat)

/-- **The lock is with a call** while it is active, unless the call is made in a transaction; and
with a transaction while its handle is open. -/
def Holds (s : Line) : Holder → Prop
  | .call t => ∃ r p, s.calls t = some ⟨r, p⟩ ∧ r.TakesClient ∧ p.IsActive
  | .transaction j => ∃ h, s.handles j = some h ∧ h.isOpen = true

variable {a b : Holder}

theorem holds_withCall (ha : (s.withCall t r p).Holds a) :
    (a = .call t ∧ r.TakesClient ∧ p.IsActive) ∨ (a ≠ .call t ∧ s.Holds a) := by
  cases a with
  | transaction j => exact .inr ⟨nofun, ha⟩
  | call u =>
    obtain ⟨r', p', hu, hr, hp⟩ := ha
    by_cases hut : u = t
    · subst hut
      rw [calls_withCall_self] at hu
      cases hu
      exact .inl ⟨rfl, hr, hp⟩
    · rw [calls_withCall_of_ne s hut] at hu
      exact .inr ⟨fun heq => hut (Holder.call.inj heq), r', p', hu, hr, hp⟩

/-- Nobody gets the lock by a call that is not active. -/
theorem holds_of_withCall (ha : (s.withCall t r p).Holds a) (hp : ¬ p.IsActive) :
    a ≠ .call t ∧ s.Holds a :=
  (holds_withCall ha).resolve_left fun h => hp h.2.2

theorem holds_withHandle (ha : (s.withHandle j h).Holds a) :
    (a = .transaction j ∧ h.isOpen = true) ∨ (a ≠ .transaction j ∧ s.Holds a) := by
  cases a with
  | call t => exact .inr ⟨nofun, ha⟩
  | transaction k =>
    obtain ⟨h', hk, hopen⟩ := ha
    by_cases hkj : k = j
    · subst hkj
      rw [handles_withHandle_self] at hk
      cases hk
      exact .inl ⟨rfl, hopen⟩
    · rw [handles_withHandle_of_ne s hkj] at hk
      exact .inr ⟨fun heq => hkj (Holder.transaction.inj heq), h', hk, hopen⟩

theorem holds_withDriver : (s.withDriver st).Holds a ↔ s.Holds a := by
  cases a <;> exact Iff.rfl

/-! ## The steps of the driver -/

/-- From outside of transactions the driver answers only while the lock is free. -/
theorem free_of_turn (hr : r.IsOutside) (hturn : (r.turn st).outcome = some accepted) :
    st.locked = false := by
  cases hlocked : st.locked with
  | false => rfl
  | true =>
    -- A driver that is locked lets the call wait.
    cases r with
    | statement mode q =>
      cases mode <;>
        simp [Request.turn, Turn.map, Typed.driver, Typed.State.statement, Typed.State.lock,
          hlocked, verdict] at hturn
    | begin options =>
      simp [Request.turn, Turn.map, Typed.driver, Typed.State.lock, hlocked, verdict] at hturn
    | inside | finish | abandon => exact hr.elim

theorem locked_run {α : Type} (read : Typed.Prepared → Except Error α) (q : Sql.Query)
    (st : Typed.State) : (st.run read q).next.locked = st.locked := by
  unfold Typed.State.run
  dsimp only
  split
  · rfl
  · split <;> rfl

/-- A statement in a transaction leaves the lock as it is. -/
theorem locked_turn_inside (j : Nat) (mode : StatementMode) (q : Sql.Query) (st : Typed.State) :
    ((Request.inside j mode q).turn st).next.locked = st.locked := by
  cases mode with
  | query => exact locked_run (fun p => Typed.readRows p.columns p.rows) q st
  | exec =>
    let read (p : Typed.Prepared) : Except Error ExecResult := .ok ⟨Typed.rowsOfTag p.tag, none⟩
    exact locked_run read q st

/-! ## Mutual exclusion -/

/-- **The client is guarded**: only one has the lock, and the driver knows that it is taken. -/
structure Guarded (s : Line) : Prop where
  unique : ∀ {a b}, s.Holds a → s.Holds b → a = b
  locked : ∀ {a}, s.Holds a → s.driver.locked = true

namespace Guarded

/-- The lock is taken from somebody, if at all, and stays taken otherwise. -/
theorem of_subset (hs : s.Guarded) (hsubset : ∀ {a}, s'.Holds a → s.Holds a)
    (hlocked : s'.driver.locked = s.driver.locked) : s'.Guarded where
  unique ha hb := hs.unique (hsubset ha) (hsubset hb)
  locked ha := hlocked.trans (hs.locked (hsubset ha))

/-- The lock comes to somebody. -/
theorem of_only (x : Holder) (honly : ∀ {a}, s'.Holds a → a = x)
    (hlocked : s'.driver.locked = true) : s'.Guarded where
  unique ha hb := (honly ha).trans (honly hb).symm
  locked _ := hlocked

/-- The lock is given back. -/
theorem of_none (hnone : ∀ {a}, ¬ s'.Holds a) : s'.Guarded where
  unique ha := absurd ha hnone
  locked ha := absurd ha hnone

theorem not_holds (hs : s.Guarded) (hfree : s.driver.locked = false) : ¬ s.Holds a := fun ha =>
  Bool.false_ne_true (hfree.symm.trans (hs.locked ha))

/-- When a call that has the lock is not active any more, nobody has it. -/
theorem none_withCall (hs : s.Guarded) (hholds : s.Holds (.call t)) (hp : ¬ p.IsActive) :
    ¬ (s.withCall t r p).Holds a := by
  intro ha
  obtain ⟨hne, ha⟩ := holds_of_withCall ha hp
  exact hne (hs.unique ha hholds)

/-- A call that comes to an end gives the lock back or hands it over. -/
theorem settle (hs : s.Guarded) (ht : s.calls t = some ⟨r, p⟩) (hp : p.IsActive)
    (hover : p'.IsOver) (opened : Bool) :
    ((s.withCall t r p').settle t opened r).Guarded := by
  have hp' := hover.not_isActive
  cases r with
  | inside j mode q =>
    have hsubset {a : Holder} (ha : (s.withCall t (.inside j mode q) p').Holds a) : s.Holds a :=
      (holds_of_withCall ha hp').2
    cases hj : (s.withCall t (.inside j mode q) p').handles j with
    | none =>
      rw [settle_inside_of_none hj]
      exact hs.of_subset hsubset rfl
    | some h =>
      rw [settle_inside hj]
      refine hs.of_subset (fun {a} ha => ?_) rfl
      rcases holds_withHandle ha with ⟨rfl, hopen⟩ | ⟨-, ha⟩
      · exact ⟨h, hj, hopen⟩
      · exact hsubset ha
  | begin options =>
    have hholds : s.Holds (.call t) := ⟨_, p, ht, trivial, hp⟩
    cases opened with
    | true =>
      refine .of_only (.transaction t) (fun {a} ha => ?_) (hs.locked hholds)
      rcases holds_withHandle ha with ⟨rfl, -⟩ | ⟨-, ha⟩
      · rfl
      · exact absurd ha (hs.none_withCall hholds hp')
    | false =>
      exact .of_none fun {a} ha => hs.none_withCall hholds hp' (holds_withDriver.mp ha)
  | statement | finish | abandon =>
    have hholds : s.Holds (.call t) := ⟨_, p, ht, trivial, hp⟩
    exact .of_none fun {a} ha => hs.none_withCall hholds hp' (holds_withDriver.mp ha)

end Guarded

/-- The client comes out of a handle, to a call that has just been engaged. -/
theorem Guarded.handOver (hs : s.Guarded) (hholds : s.Holds (.transaction j)) {h : Handle}
    (hclosed : h.isOpen = false) (hlocked : st.locked = true) :
    (((s.withCall t r p).withDriver st).withHandle j h).Guarded := by
  refine .of_only (.call t) (fun {a} ha => ?_) hlocked
  rcases holds_withHandle ha with ⟨-, hopen⟩ | ⟨hne, ha⟩
  · exact absurd (hclosed.symm.trans hopen) Bool.false_ne_true
  · rcases holds_withCall (holds_withDriver.mp ha) with ⟨rfl, -⟩ | ⟨-, ha⟩
    · rfl
    · exact absurd (hs.unique ha hholds) hne

theorem isOpen_of_take {h₁ : Handle} (htake : h.take = (.ok (), h₁)) :
    h.isOpen = true ∧ h₁.isOpen = false := by
  obtain ⟨hopen, rfl⟩ := Prod.mk.inj htake
  exact ⟨Handle.requireOpen_ok hopen, rfl⟩

/-- **Every step keeps the client guarded.** -/
theorem Step.guarded (hstep : Step move s s') (hs : s.Guarded) : s'.Guarded := by
  cases hstep with
  | ask hr hnew => exact hs.of_subset (fun ha => (holds_of_withCall ha Bool.false_ne_true).2) rfl
  | @engage _ t r accepted ht hr hturn =>
    refine .of_only (.call t) (fun {a} ha => ?_) rfl
    rcases holds_withCall (holds_withDriver.mp ha) with ⟨rfl, -⟩ | ⟨-, ha⟩
    · rfl
    · exact absurd ha (hs.not_holds (free_of_turn hr hturn))
  | @enter _ t j mode q h h' accepted ht hhandle hlock hopen hturn =>
    obtain ⟨-, rfl⟩ := Handle.acquire?_eq_some hlock
    refine hs.of_subset (fun {a} ha => ?_) (locked_turn_inside j mode q s.driver)
    rcases holds_withHandle ha with ⟨rfl, -⟩ | ⟨-, ha⟩
    · exact ⟨h, hhandle, Handle.requireOpen_ok hopen⟩
    · rcases holds_withCall (holds_withDriver.mp ha) with ⟨-, hclient, -⟩ | ⟨-, ha⟩
      · exact hclient.elim
      · exact ha
  | take ht hhandle hlock htake hturn =>
    obtain ⟨-, rfl⟩ := Handle.acquire?_eq_some hlock
    obtain ⟨hopen, hclosed⟩ := isOpen_of_take htake
    exact hs.handOver ⟨_, hhandle, hopen⟩ hclosed rfl
  | refuse ht hhandle hlock hgone =>
    obtain ⟨-, rfl⟩ := Handle.acquire?_eq_some hlock
    refine hs.of_subset (fun {a} ha => ?_) rfl
    rcases holds_withHandle ha with ⟨rfl, hopen⟩ | ⟨-, ha⟩
    · exact ⟨_, hhandle, hopen⟩
    · exact (holds_of_withCall ha Bool.false_ne_true).2
  | deny ht hhandle hlock htake =>
    obtain ⟨-, rfl⟩ := Prod.mk.inj htake
    refine hs.of_subset (fun {a} ha => ?_) rfl
    rcases holds_withHandle ha with ⟨-, hopen⟩ | ⟨-, ha⟩
    · cases hopen
    · exact (holds_of_withCall ha Bool.false_ne_true).2
  | @send _ t r p text rest accepted ht hp hserved =>
    refine hs.of_subset (fun {a} ha => ?_) rfl
    -- The call had the lock before it sent anything, if it has it now.
    have ha' : (s.withCall t r (.busy rest accepted)).Holds a := by cases a <;> exact ha
    rcases holds_withCall ha' with ⟨rfl, hclient, -⟩ | ⟨-, ha⟩
    · exact ⟨r, p, ht, hclient, by rw [Phase.IsActive, hp]; rfl⟩
    · exact ha
  | serve hqueue => exact hs.of_subset (fun {a} ha => by cases a <;> exact ha) rfl
  | answer ht hserved => exact hs.settle ht rfl (by trivial) _
  | cancel ht => exact hs.of_subset (fun ha => (holds_of_withCall ha Bool.false_ne_true).2) rfl
  | giveUp ht hr => exact hs.settle ht rfl (by trivial) _
  | drop hhandle hidle hdrop hnew hturn =>
    obtain ⟨hopen, rfl⟩ := Prod.mk.inj hdrop
    exact hs.handOver ⟨_, hhandle, hopen⟩ rfl rfl
  | elsewhere => exact hs.of_subset (fun ha => holds_withDriver.mp ha) rfl

theorem Path.guarded {s₀ : Line} (hpath : Path s₀ moves s) (h₀ : s₀.Guarded) : s.Guarded := by
  induction hpath with
  | nil => exact h₀
  | snoc _ hstep ih => exact hstep.guarded ih

end EntityMapper.Line

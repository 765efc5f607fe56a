import EntityMapper.Proofs.Line.Holders

/-!
# Whose transaction is open on a line

The commands that were sent so far are those that the server has processed and those that wait for
it. What is open in the session when a command is processed follows from the commands before it. A
transaction that is open after all of them is tended: somebody who has the client is going to end
it. There are two ways in which a transaction comes to be left open: whoever begins it gives up
while the server has the command to begin it, and lets go of the client; or the server refuses to
end it. Then statements from outside of transactions run in it.

## Main definitions

* `Line.openAfter cs`: the transaction that is open after commands
* `Line.Forsaken s j`, `Line.Unended cs j`: the two ways to be left open
* `Line.Tended s j`: somebody is going to end the transaction
* `Line.Orderly s`: the invariant
* `Line.Separate s`: no statement from outside of transactions was processed in one

## Main results

* `Line.Step.orderly`, `Line.Path.orderly`: steps in any order keep the invariant
* `Line.plain_inside_leftOpen`: a statement from outside of transactions is processed in one only if
  the transaction was left open
* `Line.not_separate`: such statements are processed in transactions
* `Line.Path.separate`: they are not while nobody gives up in between and the server complies
-/

namespace EntityMapper.Line

variable {s s' : Line} {t j : Nat} {r : Request} {p : Phase} {c : Command} {cs : List Command}
  {before after log : List (Command × Option Nat)} {session : Option Nat} {move : Move}
  {moves : List Move} {accepted : Bool}

/-! ## What is open after commands -/

/-- What is open after a command has just been begun, or was open before and no command has ended
it. -/
theorem eq_some_of_leave {o : Option Nat} (h : c.leave o = some j) :
    (o = some j ∧ ∀ k, c.purpose = .finish k → c.accepted = false) ∨
      c.purpose = .begin j ∧ c.accepted = true := by
  obtain ⟨t, purpose, text, accepted⟩ := c
  cases accepted with
  | false => exact .inl ⟨by cases purpose <;> exact h, fun _ _ => rfl⟩
  | true =>
    cases purpose with
    | plain | inside k => exact .inl ⟨h, nofun⟩
    | finish k => cases h
    | begin k =>
      cases o with
      | some k' => exact .inl ⟨h, nofun⟩
      | none =>
        cases h
        exact .inr ⟨rfl, rfl⟩

/-- The transaction that is open after commands. -/
def openAfter (cs : List Command) : Option Nat := cs.foldl Command.leave none

theorem openAfter_snoc (cs : List Command) (c : Command) :
    openAfter (cs ++ [c]) = c.leave (openAfter cs) := by
  rw [openAfter, List.foldl_append]
  rfl

/-- Where a list goes on after a place, the last element is at this place or after it. -/
theorem snoc_eq_append_cons {α : Type} {xs ys zs : List α} {x y : α}
    (h : xs ++ [x] = ys ++ y :: zs) :
    (xs = ys ∧ x = y) ∨ ∃ zs', xs = ys ++ y :: zs' := by
  rcases List.eq_nil_or_concat zs with rfl | ⟨zs', z, rfl⟩
  · obtain ⟨hxs, hx⟩ := List.append_inj' h rfl
    exact .inl ⟨hxs, List.singleton_inj.mp hx⟩
  · rw [List.concat_eq_append, ← List.cons_append, ← List.append_assoc] at h
    exact .inr ⟨zs', (List.append_inj' h rfl).1⟩

/-- **A log of processed commands** with what is open in the session after them. -/
inductive Processed : List (Command × Option Nat) → Option Nat → Prop where
  | nil : Processed [] none
  | snoc {entries o} (h : Processed entries o) (c : Command) :
    Processed (entries ++ [(c, o)]) (c.leave o)

namespace Processed

theorem eq_openAfter (h : Processed log session) : session = openAfter (log.map Prod.fst) := by
  induction h with
  | nil => rfl
  | snoc _ c ih => rw [List.map_append, List.map_singleton, openAfter_snoc, ← ih]

/-- What is open when a command is processed follows from the commands before it. -/
theorem entry (h : Processed log session) {o : Option Nat}
    (hlog : log = before ++ (c, o) :: after) : o = openAfter (before.map Prod.fst) := by
  induction h generalizing after with
  | nil => simp at hlog
  | snoc hprev c' ih =>
    rcases snoc_eq_append_cons hlog with ⟨rfl, heq⟩ | ⟨after', hlog'⟩
    · cases heq
      exact hprev.eq_openAfter
    · exact ih hlog'

end Processed

/-! ## Transactions that are left open -/

/-- The commands that were sent so far. -/
def sent (s : Line) : List Command := s.log.map Prod.fst ++ s.queue

/-- **Whoever began the transaction has given up** while the command to begin it was under way. -/
def Forsaken (s : Line) (j : Nat) : Prop :=
  ∃ options, s.calls j = some ⟨.begin options, .givenUp⟩

/-- **The server refuses to end the transaction.** -/
def Unended (cs : List Command) (j : Nat) : Prop :=
  ∃ c ∈ cs, c.purpose = .finish j ∧ c.accepted = false

/-- The transaction is left open, after the given commands. -/
def LeftOpen (s : Line) (cs : List Command) (j : Nat) : Prop := s.Forsaken j ∨ Unended cs j

/-- **Somebody is going to end the transaction**: its handle is open, or whoever begins it is going
to have a handle, or whoever ends it has not sent the command yet. -/
inductive Tended (s : Line) (j : Nat) : Prop where
  | handle (hopen : s.Holds (.transaction j))
  | beginning {options p texts} (hj : s.calls j = some ⟨.begin options, p⟩)
    (hp : p.pending? = some (texts, true))
  | ending {t r texts accepted} (ht : s.calls t = some ⟨r, .engaged texts accepted⟩)
    (hr : r.purpose t = .finish j)

/-- **The line is in order**: the log tells what was open; a transaction that is open in the end is
left open or tended; and one that is open where a statement from outside stands is left open. -/
structure Orderly (s : Line) : Prop where
  guarded : s.Guarded
  processed : Processed s.log s.session
  tended : ∀ {j}, openAfter s.sent = some j → s.LeftOpen s.sent j ∨ s.Tended j
  plain : ∀ {cs c cs' j}, s.sent = cs ++ c :: cs' → c.purpose = .plain → openAfter cs = some j →
    s.LeftOpen cs j

/-! ## What steps leave alone -/

theorem isActive_of_pending {texts : List String} (h : p.pending? = some (texts, accepted)) :
    p.IsActive := by
  rw [Phase.IsActive, h]
  rfl

theorem takesClient_of_finish (h : r.purpose t = .finish j) : r.TakesClient := by
  cases r with
  | inside => cases h
  | _ => trivial

/-- A call that is over stays as it is. -/
theorem Step.calls_of_isOver (hstep : Step move s s') (hj : s.calls j = some ⟨r, p⟩)
    (hp : p.IsOver) : s'.calls j = some ⟨r, p⟩ := by
  have hother {t r' p' q} (ht : s.calls t = q) (hq : q ≠ some ⟨r, p⟩) :
      (s.withCall t r' p').calls j = some ⟨r, p⟩ := by
    rw [calls_withCall_of_ne s, hj]
    rintro rfl
    exact hq (ht.symm.trans hj)
  have hsettled {t r' p' q opened} (ht : s.calls t = q) (hq : q ≠ some ⟨r, p⟩) :
      ((s.withCall t r' p').settle t opened r').calls j = some ⟨r, p⟩ := by
    rw [(settle_frame ..).1]
    exact hother ht hq
  -- The call that makes the step is new, or not over.
  have hne {r' p'} (hp' : ¬ p'.IsOver) : some (Call.mk r' p') ≠ some ⟨r, p⟩ := by
    intro heq
    cases heq
    exact hp' hp
  cases hstep with
  | ask _ hnew | drop _ _ _ hnew => exact hother hnew nofun
  | engage ht | enter ht | take ht | refuse ht | deny ht | cancel ht =>
    exact hother ht (hne id)
  | send ht hpending =>
    refine hother ht (hne fun hover => hover.not_isActive (isActive_of_pending hpending))
  | answer ht | giveUp ht => exact hsettled ht (hne id)
  | serve | elsewhere => exact hj

theorem Forsaken.step (h : s.Forsaken j) (hstep : Step move s s') : s'.Forsaken j := by
  obtain ⟨options, hj⟩ := h
  exact ⟨options, hstep.calls_of_isOver hj trivial⟩

theorem LeftOpen.step (h : s.LeftOpen cs j) (hstep : Step move s s') : s'.LeftOpen cs j :=
  h.imp (fun h => h.step hstep) id

theorem Unended.append (h : Unended cs j) (cs' : List Command) : Unended (cs ++ cs') j := by
  obtain ⟨c, hc, hfinish⟩ := h
  exact ⟨c, List.mem_append_left _ hc, hfinish⟩

/-! ## Tending -/

namespace Tended

/-- While somebody tends a transaction, nobody gets through to the server from outside. -/
theorem purpose_ne_plain (h : s.Tended j) (hs : s.Guarded) (ht : s.calls t = some ⟨r, p⟩)
    (hp : p.IsActive) : r.purpose t ≠ .plain := by
  intro hplain
  have hr : r.TakesClient := by
    cases r with
    | inside => cases hplain
    | _ => trivial
  have hholds : s.Holds (.call t) := ⟨r, p, ht, hr, hp⟩
  -- The client belongs to one of them only, which would have two purposes.
  cases h with
  | handle hopen => cases hs.unique hopen hholds
  | @beginning options p' texts hj hpending =>
    have hj' : s.Holds (.call j) := ⟨_, p', hj, trivial, isActive_of_pending hpending⟩
    cases hs.unique hj' hholds
    cases hj.symm.trans ht
    cases hplain
  | @ending t' r' texts accepted ht' hr' =>
    have hends : s.Holds (.call t') := ⟨r', _, ht', takesClient_of_finish hr', rfl⟩
    cases hs.unique hends hholds
    cases ht'.symm.trans ht
    cases hr'.symm.trans hplain

/-- A call that does not tend the transaction comes to another phase. -/
theorem withCall (h : s.Tended j) {r' : Request} {p' : Phase}
    (hbegin : ∀ options p texts, s.calls t = some ⟨.begin options, p⟩ →
      p.pending? = some (texts, true) → j ≠ t)
    (hfinish : ∀ r texts accepted, s.calls t = some ⟨r, .engaged texts accepted⟩ →
      r.purpose t ≠ .finish j) : (s.withCall t r' p').Tended j := by
  cases h with
  | handle hopen => exact .handle hopen
  | @beginning options p texts hj hpending =>
    have hne : j ≠ t := fun heq => hbegin options p texts (heq ▸ hj) hpending heq
    exact .beginning ((calls_withCall_of_ne s hne _ _).trans hj) hpending
  | @ending u r texts accepted hu hr =>
    have hne : u ≠ t := fun heq => hfinish r texts accepted (heq ▸ hu) (heq ▸ hr)
    exact .ending ((calls_withCall_of_ne s hne _ _).trans hu) hr

/-- A call that has not got what it waits for comes to another phase. -/
theorem withCall_of_waiting (h : s.Tended j) (ht : s.calls t = some ⟨r, .waiting⟩)
    {r' : Request} {p' : Phase} : (s.withCall t r' p').Tended j := by
  refine h.withCall (fun _ _ _ ht' hp => ?_) fun _ _ _ ht' => ?_
  · cases ht.symm.trans ht'
    cases hp
  · cases ht.symm.trans ht'

/-- A call that is made first. -/
theorem withCall_of_none (h : s.Tended j) (ht : s.calls t = none)
    {r' : Request} {p' : Phase} : (s.withCall t r' p').Tended j :=
  h.withCall (fun _ _ _ ht' => nomatch ht.symm.trans ht') fun _ _ _ ht' =>
    nomatch ht.symm.trans ht'

/-- Another handle for a transaction: if it was open, it still is. -/
theorem withHandle (h : s.Tended j) {k : Nat} {h' : Handle}
    (hopen : s.Holds (.transaction k) → h'.isOpen = true) : (s.withHandle k h').Tended j := by
  cases h with
  | handle hj =>
    by_cases hjk : j = k
    · subst hjk
      exact .handle ⟨h', handles_withHandle_self s j h', hopen hj⟩
    · obtain ⟨h, hh, hopen'⟩ := hj
      exact .handle ⟨h, (handles_withHandle_of_ne s hjk h').trans hh, hopen'⟩
  | beginning hj hp => exact .beginning hj hp
  | ending ht hr => exact .ending ht hr

/-- The handle of a transaction is closed, which somebody is going to end now. -/
theorem takeOver (h : s.Tended j) {k : Nat} {h' : Handle} {texts : List String}
    (ht : s.calls t = some ⟨r, .engaged texts accepted⟩) (hr : r.purpose t = .finish k) :
    (s.withHandle k h').Tended j := by
  by_cases hjk : j = k
  · subst hjk
    exact .ending ht hr
  · cases h with
    | handle hj =>
      obtain ⟨h, hh, hopen'⟩ := hj
      exact .handle ⟨h, (handles_withHandle_of_ne s hjk h').trans hh, hopen'⟩
    | beginning hj hp => exact .beginning hj hp
    | ending ht hr => exact .ending ht hr

theorem withDriver (h : s.Tended j) (st : Typed.State) : (s.withDriver st).Tended j := by
  cases h with
  | handle hopen => exact .handle (holds_withDriver.mpr hopen)
  | beginning hj hp => exact .beginning hj hp
  | ending ht hr => exact .ending ht hr

/-- Only the calls and the handles matter. -/
theorem congr (h : s.Tended j) (hcalls : s'.calls = s.calls) (hhandles : s'.handles = s.handles) :
    s'.Tended j := by
  cases h with
  | handle hopen =>
    obtain ⟨h, hj, hopen⟩ := hopen
    exact .handle ⟨h, hhandles ▸ hj, hopen⟩
  | beginning hj hp => exact .beginning (hcalls ▸ hj) hp
  | ending ht hr => exact .ending (hcalls ▸ ht) hr

/-- What a call leaves behind closes no handle. -/
theorem settle (h : s.Tended j) (t : Nat) (opened : Bool) (r : Request) :
    (s.settle t opened r).Tended j := by
  cases r with
  | begin options =>
    cases opened with
    | true => exact h.withHandle fun _ => rfl
    | false => exact h.withDriver _
  | inside k mode q =>
    cases hk : s.handles k with
    | none => rwa [settle_inside_of_none hk]
    | some h₁ =>
      rw [settle_inside hk]
      refine h.withHandle fun ⟨h₂, hk', hopen⟩ => ?_
      cases hk.symm.trans hk'
      exact hopen
  | statement | finish | abandon => exact h.withDriver _

/-- **A call sends a command**: it still tends its transaction, or else the command is to end it. -/
theorem send (h : s.Tended j) {text : String} {rest : List String} (ht : s.calls t = some ⟨r, p⟩)
    (hp : p.pending? = some (text :: rest, accepted)) :
    (s.withCall t r (.busy rest accepted)).Tended j ∨ r.purpose t = .finish j := by
  cases h with
  | handle hopen => exact .inl (.handle hopen)
  | @beginning options p' texts hj hpending =>
    by_cases hjt : j = t
    · subst hjt
      cases ht.symm.trans hj
      cases hp.symm.trans hpending
      exact .inl (.beginning (calls_withCall_self ..) rfl)
    · exact .inl (.beginning ((calls_withCall_of_ne s hjt _ _).trans hj) hpending)
  | @ending u r' texts accepted' hu hr =>
    by_cases hut : u = t
    · subst hut
      cases ht.symm.trans hu
      exact .inr hr
    · exact .inl (.ending ((calls_withCall_of_ne s hut _ _).trans hu) hr)

/-- **A busy call is over**: it still tends its transaction, or else it was to begin it. -/
theorem ended (h : s.Tended j) {rest : List String}
    (ht : s.calls t = some ⟨r, .busy rest accepted⟩) (p' : Phase) (opened : Bool) :
    ((s.withCall t r p').settle t opened r).Tended j ∨
      j = t ∧ accepted = true ∧ ∃ options, r = .begin options := by
  cases h with
  | handle hopen =>
    have hmoved : (s.withCall t r p').Tended j := .handle hopen
    exact .inl (hmoved.settle t opened r)
  | @beginning options p texts hj hpending =>
    by_cases hjt : j = t
    · subst hjt
      cases ht.symm.trans hj
      cases hpending
      exact .inr ⟨rfl, rfl, options, rfl⟩
    · have hj' := (calls_withCall_of_ne s hjt r p').trans hj
      exact .inl (settle (.beginning hj' hpending) t opened r)
  | @ending u r' texts accepted' hu hr =>
    have hut : u ≠ t := by
      rintro rfl
      cases ht.symm.trans hu
    have hu' := (calls_withCall_of_ne s hut r p').trans hu
    exact .inl (settle (.ending hu' hr) t opened r)

end Tended

/-! ## The invariant -/

/-- Steps that send nothing. -/
theorem Orderly.of_sent_eq (hs : s.Orderly) (hstep : Step move s s') (hsent : s'.sent = s.sent)
    (hprocessed : Processed s'.log s'.session)
    (htended : ∀ {j}, s.Tended j → s'.Tended j ∨ s'.Forsaken j) : s'.Orderly where
  guarded := hstep.guarded hs.guarded
  processed := hprocessed
  tended hj := by
    rcases hs.tended (hsent ▸ hj) with hleft | ht
    · exact .inl (hsent ▸ hleft.step hstep)
    · exact (htended ht).elim .inr fun hforsaken => .inl (.inl hforsaken)
  plain hcs hc hj := (hs.plain (hsent ▸ hcs) hc hj).step hstep

/-- **A call sends a command.** If it is a statement from outside, nobody tends a transaction. -/
theorem Orderly.send (hs : s.Orderly) {text : String} {rest : List String}
    (ht : s.calls t = some ⟨r, p⟩) (hp : p.pending? = some (text :: rest, accepted))
    (hserved : s.Served t) :
    Orderly { s.withCall t r (.busy rest accepted) with
      queue := s.queue ++ [r.command t text accepted] } := by
  have hstep := Step.send ht hp hserved
  generalize hs' : { s.withCall t r (.busy rest accepted) with
    queue := s.queue ++ [r.command t text accepted] } = s' at hstep ⊢
  have hsent : s'.sent = s.sent ++ [r.command t text accepted] := by
    rw [← hs']
    exact (List.append_assoc ..).symm
  have hcall : s'.calls t = some ⟨r, .busy rest accepted⟩ := by
    rw [← hs']
    exact calls_withCall_self ..
  have hleft {j : Nat} (h : s.LeftOpen s.sent j) : s'.LeftOpen s'.sent j := by
    rw [hsent]
    exact (h.step hstep).imp id fun h => h.append _
  refine ⟨hstep.guarded hs.guarded, by rw [← hs']; exact hs.processed, fun {j} hj => ?_,
    fun {cs c cs' j} hcs hc hj => ?_⟩
  · rw [hsent, openAfter_snoc] at hj
    rcases eq_some_of_leave hj with ⟨hopen, hrefused⟩ | ⟨hbegin, haccepted⟩
    · rcases hs.tended hopen with h | h
      · exact .inl (hleft h)
      · rcases h.send ht hp with hmoved | hfinish
        · rw [← hs']
          exact .inr (hmoved.congr rfl rfl)
        · -- The server refuses to end the transaction that is open.
          rw [hsent]
          exact .inl (.inr ⟨_, List.mem_concat_self, hfinish, hrefused j hfinish⟩)
    · cases r with
      | begin options =>
        cases hbegin
        cases haccepted
        exact .inr (.beginning hcall rfl)
      | statement | inside | finish | abandon => cases hbegin
  · rw [hsent] at hcs
    rcases snoc_eq_append_cons hcs with ⟨rfl, rfl⟩ | ⟨cs'', hcs⟩
    · rcases hs.tended hj with h | h
      · exact h.step hstep
      · exact absurd hc (h.purpose_ne_plain hs.guarded ht (isActive_of_pending hp))
    · exact (hs.plain hcs hc hj).step hstep

/-- **Every step keeps the line in order.** -/
theorem Step.orderly (hstep : Step move s s') (hs : s.Orderly) : s'.Orderly := by
  have hkept := hs.of_sent_eq hstep
  cases hstep with
  | ask _ hnew => exact hkept rfl hs.processed fun h => .inl (h.withCall_of_none hnew)
  | engage ht =>
    exact hkept rfl hs.processed fun h => .inl ((h.withCall_of_waiting ht).withDriver _)
  | enter ht hhandle hlock hopen =>
    obtain ⟨-, rfl⟩ := Handle.acquire?_eq_some hlock
    refine hkept rfl hs.processed fun h => .inl ?_
    exact ((h.withCall_of_waiting ht).withDriver _).withHandle fun _ => Handle.requireOpen_ok hopen
  | take ht =>
    refine hkept rfl hs.processed fun h => .inl ?_
    exact ((h.withCall_of_waiting ht).withDriver _).takeOver (calls_withCall_self ..) rfl
  | refuse ht hhandle hlock hgone =>
    obtain ⟨-, rfl⟩ := Handle.acquire?_eq_some hlock
    refine hkept rfl hs.processed fun h => .inl ?_
    refine (h.withCall_of_waiting ht).withHandle fun ⟨h', hhandle', hopen⟩ => ?_
    cases hhandle.symm.trans hhandle'
    exact hopen
  | deny ht hhandle hlock htake =>
    obtain ⟨-, rfl⟩ := Handle.acquire?_eq_some hlock
    obtain ⟨hgone, -⟩ := Prod.mk.inj htake
    refine hkept rfl hs.processed fun h => .inl ?_
    refine (h.withCall_of_waiting ht).withHandle fun ⟨h', hhandle', hopen⟩ => ?_
    cases hhandle.symm.trans hhandle'
    simp [Handle.requireOpen, hopen] at hgone
  | send ht hp hserved => exact hs.send ht hp hserved
  | serve hqueue =>
    refine hkept ?_ (.snoc hs.processed _) fun h => .inl (h.congr rfl rfl)
    simp [sent, hqueue]
  | @answer _ t r accepted ht hserved =>
    obtain ⟨-, hqueue, hsession, hlog, -⟩ := settle_frame (s.withCall t r .returned) t accepted r
    refine hkept (by rw [sent, hqueue, hlog]; rfl) (by rw [hlog, hsession]; exact hs.processed)
      fun h => .inl ?_
    rcases h.ended ht .returned accepted with h | ⟨rfl, rfl, options, rfl⟩
    · exact h
    · exact .handle ⟨_, handles_withHandle_self .., rfl⟩
  | cancel ht => exact hkept rfl hs.processed fun h => .inl (h.withCall_of_waiting ht)
  | @giveUp _ t r rest accepted ht hr =>
    obtain ⟨hcalls, hqueue, hsession, hlog, -⟩ :=
      settle_frame (s.withCall t r .givenUp) t false r
    refine hkept (by rw [sent, hqueue, hlog]; rfl) (by rw [hlog, hsession]; exact hs.processed)
      fun h => ?_
    rcases h.ended ht .givenUp false with h | ⟨rfl, -, options, rfl⟩
    · exact .inl h
    · exact .inr ⟨options, hcalls ▸ calls_withCall_self ..⟩
  | drop hhandle hidle hdrop hnew =>
    refine hkept rfl hs.processed fun h => .inl ?_
    exact ((h.withCall_of_none hnew).withDriver _).takeOver (calls_withCall_self ..) rfl
  | elsewhere => exact hkept rfl hs.processed fun h => .inl (h.withDriver _)

theorem Path.orderly {s₀ : Line} (hpath : Path s₀ moves s) (h₀ : s₀.Orderly) : s.Orderly := by
  induction hpath with
  | nil => exact h₀
  | snoc _ hstep ih => exact hstep.orderly ih

/-- A new line is in order. -/
theorem orderly_start (database : Nat) (statements : List Typed.Prepared)
    (faults : Typed.Faults) : (start database statements faults).Orderly where
  guarded := .of_none fun {a} ha => by
    cases a with
    | call t =>
      obtain ⟨r, p, ht, -⟩ := ha
      cases ht
    | transaction j =>
      obtain ⟨h, hj, -⟩ := ha
      cases hj
  processed := .nil
  tended hj := by cases hj
  plain hcs := by simp [sent, start] at hcs

/-! ## Statements from outside of transactions -/

/-- **No statement from outside of transactions was processed in one.** -/
def Separate (s : Line) : Prop := ∀ c j, (c, some j) ∈ s.log → c.purpose ≠ .plain

theorem Orderly.leftOpen (hs : s.Orderly) (hlog : s.log = before ++ (c, some j) :: after)
    (hplain : c.purpose = .plain) : s.LeftOpen (before.map Prod.fst) j := by
  have hsent : s.sent = before.map Prod.fst ++ c :: (after.map Prod.fst ++ s.queue) := by
    rw [sent, hlog, List.map_append, List.map_cons, List.append_assoc, List.cons_append]
  exact hs.plain hsent hplain (hs.processed.entry hlog).symm

/-- **Statements from outside of transactions and transactions are kept apart** as long as nobody
gives up while the command to begin a transaction is under way, and the server ends transactions
when it is told to. -/
theorem Path.separate {database : Nat} {statements : List Typed.Prepared} {faults : Typed.Faults}
    (hpath : Path (start database statements faults) moves s) (hbegun : ∀ j, ¬ s.Forsaken j)
    (hended : ∀ j, ¬ Unended (s.log.map Prod.fst) j) : s.Separate := by
  intro c j hc hplain
  obtain ⟨before, after, hlog⟩ := List.append_of_mem hc
  rcases (hpath.orderly (orderly_start ..)).leftOpen hlog hplain with h | h
  · exact hbegun j h
  · refine hended j ?_
    rw [hlog, List.map_append]
    exact h.append _

/-- **A statement from outside is processed in a transaction only if this was left open**: whoever
began it has given up while the command to begin it was under way, or the server has refused to end
it before. -/
theorem plain_inside_leftOpen {database : Nat} {statements : List Typed.Prepared}
    {faults : Typed.Faults} (hpath : Path (start database statements faults) moves s)
    (hlog : s.log = before ++ (c, some j) :: after) (hplain : c.purpose = .plain) :
    (∃ options, s.calls j = some ⟨.begin options, .givenUp⟩) ∨
      ∃ c' ∈ before.map Prod.fst, c'.purpose = .finish j ∧ c'.accepted = false :=
  (hpath.orderly (orderly_start ..)).leftOpen hlog hplain

/-- A statement to try the line with. -/
def deletion : Sql.Query := ⟨"DELETE FROM users;", []⟩

/-- The server refuses to roll back a transaction whose handle is dropped. The driver gives the
client back, and the next statement runs in the transaction. -/
theorem refusedRollback_leftOpen : ∃ moves s before c after,
    Path (start 0 [] ⟨false, false, true, ⟨0⟩⟩) moves s ∧
    s.log = before ++ (c, some 0) :: after ∧ c.purpose = .plain ∧
    c.text = "prepare DELETE FROM users;" ∧
    ((∃ options, s.calls 0 = some ⟨.begin options, .givenUp⟩) ∨
      ∃ c' ∈ before.map Prod.fst, c'.purpose = .finish 0 ∧ c'.accepted = false) := by
  have hasked : Path (start 0 [] ⟨false, false, true, ⟨0⟩⟩) _ _ :=
    (Path.nil.snoc (.ask (t := 0) (r := .begin .standard) trivial rfl)).snoc
      (.engage (t := 0) rfl trivial rfl)
  have hbegun := ((hasked.snoc (.send (t := 0) rfl rfl (by decide))).snoc (.serve rfl)).snoc
    (.answer (t := 0) rfl (by decide))
  have hdropped := hbegun.snoc (.drop (j := 0) (t := 1) rfl (fun u call hu hon => ?_) rfl rfl rfl)
  · have hrolled := ((hdropped.snoc (.send (t := 1) rfl rfl (by decide))).snoc (.serve rfl)).snoc
      (.answer (t := 1) rfl (by decide))
    have hplain := (hrolled.snoc (.ask (t := 2) (r := .statement .exec deletion) trivial rfl)).snoc
      (.engage (t := 2) rfl trivial rfl)
    have hpath := (hplain.snoc (.send (t := 2) rfl rfl (by decide))).snoc (.serve rfl)
    exact ⟨_, _, [_, _], _, [], hpath, rfl, rfl, rfl, plain_inside_leftOpen hpath rfl rfl⟩
  · match u with
    | 0 =>
      cases hu
      exact hon.elim
    | _ + 1 => cases hu

/-- **Statements from outside are not kept apart from transactions.** A transaction is given up
while the command to begin it is under way; the client is free at once, and the next statement,
which is sent behind the command, is processed in the transaction, which nobody is going to end. -/
theorem not_separate : ¬ ∀ (database : Nat) (statements : List Typed.Prepared)
    (faults : Typed.Faults) (moves : List Move) (s : Line),
    Path (start database statements faults) moves s → s.Separate := by
  intro hclaim
  have hsent : Path (start 0 [] ⟨false, false, false, ⟨0⟩⟩) _ _ :=
    ((Path.nil.snoc (.ask (t := 0) (r := .begin .standard) trivial rfl)).snoc
      (.engage (t := 0) rfl trivial rfl)).snoc (.send (t := 0) rfl rfl (by decide))
  have hgivenUp := hsent.snoc (.giveUp (t := 0) rfl trivial)
  have hplain := (hgivenUp.snoc (.ask (t := 1) (r := .statement .exec deletion) trivial rfl)).snoc
    (.engage (t := 1) rfl trivial rfl)
  have hpath := ((hplain.snoc (.send (t := 1) rfl rfl (by decide))).snoc (.serve rfl)).snoc
    (.serve rfl)
  exact hclaim 0 [] _ _ _ hpath _ 0 (List.mem_cons_of_mem _ (List.mem_singleton_self _)) rfl

end EntityMapper.Line

import EntityMapper.Proofs.Run.Eval
import EntityMapper.Run.Access
import Mathlib.Data.List.MinMax

/-!
# Laws of waiting

Waiting moves the clock and changes nothing else. It ends with the answer that is waited for, or is
interrupted by a deadline that was set around it; without deadlines it is interrupted only if the
answer never comes.

## Main definitions

* `Awaited deadlines reply`: what waiting for a reply may come to
* `Run.Forward x`: programs that do not turn the clock back

## Main results

* `eval_onInterrupt`, `eval_andFinally`: what is done when a program is interrupted
* `eval_withDeadline`: a program with a deadline
* `eval_await`: waiting for a reply
* `forward_await`, `forward_withTimeout`, `forward_call`: the clock never goes back
-/

namespace EntityMapper

variable {σ α : Type}

/-! ## Interruptions -/

@[simp] theorem eval_onInterrupt (x : Run σ α) (cleanup : Run σ Unit) (c : Scope σ)
    (w : RunState σ) :
    (onInterrupt x cleanup).eval c w = match x.eval c w with
      | (.ok a, w₁) => (.ok a, w₁)
      | (.error i, w₁) => match cleanup.eval c w₁ with
        | (.ok _, w₂) => (.error i, w₂)
        | (.error j, w₂) => (.error j, w₂) := by
  simp only [onInterrupt, eval_tryCatch, eval_bind, eval_throw]
  rcases x.eval c w with ⟨i | a, w₁⟩
  · rcases h : cleanup.eval c w₁ with ⟨j | u, w₂⟩ <;> simp only [h]
  · rfl

/-- What is done after a program does not change what it comes to. -/
theorem eval_andFinally {x : Run σ α} {cleanup : Run σ Unit} {c : Scope σ} {w w₁ w₂ : RunState σ}
    {res : Except Interrupt α} (hx : x.eval c w = (res, w₁))
    (hcleanup : cleanup.eval c w₁ = (.ok (), w₂)) :
    (andFinally x cleanup).eval c w = (res, w₂) := by
  rw [andFinally, eval_bind, eval_onInterrupt, hx]
  cases res with
  | ok a => simp [hcleanup]
  | error i => simp [hcleanup]

/-- What is done after a program depends on what the program comes to. -/
theorem eval_andFinally_congr {x y : Run σ α} {c : Scope σ} {w : RunState σ}
    (hxy : x.eval c w = y.eval c w) (cleanup : Run σ Unit) :
    (andFinally x cleanup).eval c w = (andFinally y cleanup).eval c w := by
  rw [andFinally, andFinally, eval_bind, eval_bind, eval_onInterrupt, eval_onInterrupt, hxy]

/-- A program that ends has not been changed by what is done after it. -/
theorem of_eval_andFinally {x : Run σ α} {cleanup : Run σ Unit} {a : α} {c : Scope σ}
    {w w' : RunState σ} (h : (andFinally x cleanup).eval c w = (.ok a, w')) :
    ∃ w₁, x.eval c w = (.ok a, w₁) := by
  rw [andFinally, eval_bind, eval_onInterrupt] at h
  rcases hx : x.eval c w with ⟨i | a', w₁⟩ <;> rw [hx] at h <;> dsimp only at h
  · rcases hcleanup : cleanup.eval c w₁ with ⟨j | u, w₂⟩ <;> rw [hcleanup] at h <;> cases h
  · rw [eval_bind] at h
    rcases hcleanup : cleanup.eval c w₁ with ⟨j | u, w₂⟩ <;> rw [hcleanup] at h <;> cases h
    exact ⟨w₁, rfl⟩

/-- **A program with a deadline** is no longer interrupted by this deadline. -/
theorem eval_withDeadline (tick : Nat) (x : Run σ α) (c : Scope σ) (w : RunState σ) :
    (withDeadline tick x).eval c w =
      match x.eval { c with deadlines := tick :: c.deadlines } w with
      | (.ok a, w₁) => (.ok (some a), w₁)
      | (.error (.deadline t), w₁) =>
        if t = tick then (.ok none, w₁) else (.error (.deadline t), w₁)
      | (.error .never, w₁) => (.error .never, w₁) := by
  simp only [withDeadline, eval_tryCatch, eval_withReader, eval_map]
  rcases x.eval { c with deadlines := tick :: c.deadlines } w with ⟨(t | _) | a, w₁⟩
  · by_cases h : t = tick
    · simp [h]
    · simp [h]
  · rfl
  · rfl

/-! ## Waiting -/

/-- **What waiting for a reply may come to**: the answer, or an interruption by one of the
deadlines. Where no deadline is set, what is never answered is waited for in vain. -/
inductive Awaited : List Nat → Reply α → Except Interrupt (Except Error α) → Prop where
  | answered {ds} (delay : Duration) (r : Except Error α) :
    Awaited ds (.answered delay r) (.ok r)
  | deadline {ds reply} (d : Nat) (h : d ∈ ds) : Awaited ds reply (.error (.deadline d))
  | never : Awaited [] .waiting (.error .never)

/-- What is waited for is the answer. -/
theorem Awaited.eq_answered {reply : Reply α} {ds : List Nat} {r : Except Error α}
    (h : Awaited ds reply (.ok r)) : ∃ delay, reply = .answered delay r := by
  cases h with
  | answered delay r => exact ⟨delay, rfl⟩

/-- Without deadlines, waiting is interrupted only if the answer never comes. -/
theorem Awaited.eq_waiting {reply : Reply α} {ds : List Nat} {i : Interrupt}
    (h : Awaited ds reply (.error i)) (hds : ds = []) : reply = .waiting := by
  cases h with
  | deadline d hd => simp [hds] at hd
  | never => rfl

/-- The clock moves to a tick, or to a deadline before it. -/
theorem eval_waitUntil (tick : Nat) (c : Scope σ) (w : RunState σ) :
    ∃ now, (waitUntil tick).eval c w = (.ok (), { w with now := now }) ∨
      ∃ d ∈ c.deadlines,
        (waitUntil tick).eval c w = (.error (.deadline d), { w with now := now }) := by
  simp only [waitUntil, eval_bind, eval_read]
  cases h : earliestBefore tick c.deadlines with
  | none => exact ⟨_, .inl rfl⟩
  | some d =>
    have hd : d ∈ c.deadlines := (List.mem_filter.mp (List.min?_mem h)).1
    exact ⟨_, .inr ⟨d, hd, rfl⟩⟩

/-- What never comes is waited for until the first deadline. -/
theorem eval_waitForever (α : Type) (c : Scope σ) (w : RunState σ) :
    ∃ now, (c.deadlines = [] ∧
        (waitForever : Run σ α).eval c w = (.error .never, { w with now := now })) ∨
      ∃ d ∈ c.deadlines,
        (waitForever : Run σ α).eval c w = (.error (.deadline d), { w with now := now }) := by
  simp only [waitForever, eval_bind, eval_read]
  cases h : c.deadlines.min? with
  | none => exact ⟨w.now, .inl ⟨List.min?_eq_none_iff.mp h, rfl⟩⟩
  | some d => exact ⟨_, .inr ⟨d, List.min?_mem h, rfl⟩⟩

/-- **Waiting for a reply** moves the clock and changes nothing else. -/
theorem eval_await (reply : Reply α) (c : Scope σ) (w : RunState σ) :
    ∃ now res, (await reply).eval c w = (res, { w with now := now }) ∧
      Awaited c.deadlines reply res := by
  cases reply with
  -- The delay passes, unless a deadline comes before its end.
  | answered delay r =>
    obtain ⟨now, h | ⟨d, hd, h⟩⟩ := eval_waitUntil (w.now + delay.ticks) c w
    · exact ⟨now, .ok r, by simp [await, wait, h], .answered delay r⟩
    · exact ⟨now, _, by simp [await, wait, h], .deadline d hd⟩
  -- Only a deadline can end the waiting.
  | waiting =>
    obtain ⟨now, ⟨hc, h⟩ | ⟨d, hd, h⟩⟩ := eval_waitForever (Except Error α) c w
    · exact ⟨now, _, h, hc ▸ .never⟩
    · exact ⟨now, _, h, .deadline d hd⟩

/-! ## The clock never goes back -/

/-- **The clock does not go back**, whatever the program comes to. -/
def Run.Forward (x : Run σ α) : Prop := ∀ c w, w.now ≤ (x.eval c w).2.now

namespace Run.Forward

variable {β : Type} {x : Run σ α}

theorem pure (a : α) : Run.Forward (Pure.pure a : Run σ α) := fun _ _ => Nat.le_refl _

theorem throw (i : Interrupt) : Run.Forward (MonadExcept.throw i : Run σ α) :=
  fun _ _ => Nat.le_refl _

theorem bind {f : α → Run σ β} (hx : x.Forward) (hf : ∀ a, (f a).Forward) :
    (x >>= f).Forward := by
  intro c w
  have hw := hx c w
  rw [eval_bind]
  rcases hx' : x.eval c w with ⟨i | a, w₁⟩ <;> rw [hx'] at hw
  · exact hw
  · exact hw.trans (hf a c w₁)

theorem tryCatch {f : Interrupt → Run σ α} (hx : x.Forward) (hf : ∀ i, (f i).Forward) :
    Run.Forward (MonadExcept.tryCatch x f : Run σ α) := by
  intro c w
  have hw := hx c w
  rw [eval_tryCatch]
  rcases hx' : x.eval c w with ⟨i | a, w₁⟩ <;> rw [hx'] at hw
  · exact hw.trans (hf i c w₁)
  · exact hw

/-- Programs that depend on the state. -/
theorem get_bind {f : RunState σ → Run σ α} (h : ∀ c w, w.now ≤ ((f w).eval c w).2.now) :
    Run.Forward (get >>= f) := fun c w => by
  rw [eval_bind]
  exact h c w

/-- Programs that depend on the scope. -/
theorem read_bind {f : Scope σ → Run σ α} (h : ∀ c, (f c).Forward) :
    Run.Forward (read >>= f) := fun c w => by
  rw [eval_bind]
  exact h c c w

theorem modify {f : RunState σ → RunState σ} (h : ∀ w, w.now ≤ (f w).now) :
    Run.Forward (modify f : Run σ Unit) := fun _ w => h w

end Run.Forward

theorem forward_advance (tick : Nat) : (advance tick : Run σ Unit).Forward :=
  .modify fun _ => Nat.le_max_left ..

theorem forward_waitUntil (tick : Nat) : (waitUntil tick : Run σ Unit).Forward := by
  refine .read_bind fun c => ?_
  split
  · exact (forward_advance _).bind fun _ => .throw _
  · exact forward_advance tick

theorem forward_waitForever : (waitForever : Run σ α).Forward := by
  refine .read_bind fun c => ?_
  split
  · exact (forward_advance _).bind fun _ => .throw _
  · exact .throw _

theorem forward_await (reply : Reply α) : (await reply : Run σ _).Forward := by
  cases reply with
  | waiting => exact forward_waitForever
  | answered delay r =>
    exact Run.Forward.bind (.get_bind fun c w => forward_waitUntil _ c w) fun _ => .pure r

theorem forward_withDeadline (tick : Nat) {x : Run σ α} (hx : x.Forward) :
    (withDeadline tick x).Forward := by
  have hinner : Run.Forward (withReader
      (fun s : Scope σ => { s with deadlines := tick :: s.deadlines }) (some <$> x)) := by
    intro c w
    rw [eval_withReader, map_eq_pure_bind]
    exact hx.bind (fun a => .pure (some a)) _ w
  refine hinner.tryCatch fun i => ?_
  cases i with
  | never => exact .throw _
  | deadline t =>
    show Run.Forward (if t = tick then pure none else throw (.deadline t))
    split
    · exact .pure none
    · exact .throw _

theorem forward_withTimeout (limit : Option Duration) {x : Run σ (Except Error α)}
    (hx : x.Forward) : (withTimeout limit x).Forward := by
  cases limit with
  | none => exact hx
  | some d =>
    refine .get_bind fun c w => ?_
    refine (forward_withDeadline (w.now + d.ticks) hx).bind (fun r => ?_) c w
    cases r with
    | none => exact .pure _
    | some result => exact .pure result

theorem forward_onInterrupt {x : Run σ α} {cleanup : Run σ Unit} (hx : x.Forward)
    (hcleanup : cleanup.Forward) : (onInterrupt x cleanup).Forward :=
  hx.tryCatch fun i => hcleanup.bind fun _ => .throw i

theorem forward_call (i : Nat) (step : Driver σ → σ → Turn σ α) : (call i step).Forward :=
  .read_bind fun _ => .get_bind fun _ _ => Nat.le_refl _

end EntityMapper

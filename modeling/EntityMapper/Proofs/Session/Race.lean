import EntityMapper.Proofs.Session.History

/-!
# Registries used by several tasks

Tasks that share a registry do not use it one after the other. A call that asks for a model reads
the registry, and where it finds none it makes one and stores it in another step; a call that
registers an entity stores its model. Between the steps of a call those of others come in any
order, and of the models that are stored for an entity the last one stays.

So a registration with options is not safe from a call that has looked for the model before, in
vain: this call may store the model without options later.

## Main definitions

* `Race`: a registry, and how far the calls on it have come
* `Race.Step calls s move s'`: the single steps
* `Race.Path calls s moves s'`: steps in any order
* `Race.LastWins calls e m first last m'`: which model is found after a registration

## Main results

* `Race.exists_path_of_eval`: a call without others in between follows a path
* `Race.Path.lookup?_eq`: the model that is stored last is the one that is kept
* `Race.not_always_found`: a registration is lost to a call that began before it
* `Race.found_after_registration`: what is found after a registration has returned
-/

namespace EntityMapper

/-! ## Steps -/

/-- **How far a call has come**: it has begun, looked for the model in vain, found its result, or
returned it. -/
inductive Race.Stage where
  | idle
  | started
  | missed
  | decided (res : Except Error Model)
  | returned (res : Except Error Model)

/-- **A registry that is used by several tasks**, and how far the call of each task has come. -/
structure Race where
  registry : Registry
  stages : Nat → Race.Stage

namespace Race

/-- Nobody has begun yet. -/
def Fresh (s : Race) : Prop := ∀ t, s.stages t = .idle

/-- The call of a task has come to a stage. -/
def reach (s : Race) (t : Nat) (p : Stage) : Race := { s with stages := update s.stages t p }

/-- The result of the call is known. -/
def Stage.Knows : Stage → Prop
  | decided _ | returned _ => True
  | idle | started | missed => False

/-- **The options with which a call is about to register its entity**: those that were given, or
none after a search in vain. -/
def Stage.options? : RegistryCall → Stage → Option (List ModelOption)
  | .get _, missed => some []
  | .register _ os, started => some os
  | _, _ => none

/-- **A step of the call of a task.** -/
inductive Move where
  | start (t : Nat)
  | find (t : Nat) (m : Model)
  | miss (t : Nat)
  | store (t : Nat) (m : Model)
  | refuse (t : Nat) (err : Error)
  | answer (t : Nat) (res : Except Error Model)

namespace Move

/-- The task that makes the step. -/
def task : Move → Nat
  | start t | find t _ | miss t | store t _ | refuse t _ | answer t _ => t

/-- The stage that its call comes to. -/
def stage : Move → Stage
  | start _ => .started
  | miss _ => .missed
  | find _ m | store _ m => .decided (.ok m)
  | refuse _ err => .decided (.error err)
  | answer _ res => .returned res

/-- Only a search in vain makes a call have searched in vain. -/
theorem eq_miss {move : Move} (h : move.stage = .missed) : move = .miss move.task := by
  cases move with
  | miss => rfl
  | _ => cases h

/-- The model that the step stores, with the task. -/
def stored? : Move → Option (Nat × Model)
  | store t m => some (t, m)
  | _ => none

end Move

/-- The models that are stored in steps, in order. -/
def stores (moves : List Move) : List (Nat × Model) := moves.filterMap Move.stored?

theorem mem_stores {t : Nat} {m : Model} {moves : List Move} :
    (t, m) ∈ stores moves ↔ .store t m ∈ moves := by
  rw [stores, List.mem_filterMap]
  constructor
  · rintro ⟨move, hmem, hstored⟩
    cases move with
    | store =>
      cases hstored
      exact hmem
    | _ => cases hstored
  · exact fun hmem => ⟨_, hmem, rfl⟩

theorem stores_cons (move : Move) (moves : List Move) :
    stores (move :: moves) = move.stored?.toList ++ stores moves := by
  cases move <;> rfl

/-- **The steps.** Reading the registry is one of them, and storing a model another one. -/
inductive Step (calls : Nat → RegistryCall) : Race → Move → Race → Prop where
  | start {s t} (h : s.stages t = .idle) : Step calls s (.start t) (s.reach t .started)
  | find {s t e m} (h : s.stages t = .started) (hcall : calls t = .get e)
    (hm : s.registry.lookup? e = some m) :
    Step calls s (.find t m) (s.reach t (.decided (.ok m)))
  | miss {s t e} (h : s.stages t = .started) (hcall : calls t = .get e)
    (hm : s.registry.lookup? e = none) : Step calls s (.miss t) (s.reach t .missed)
  | store {s t os m} (h : (s.stages t).options? (calls t) = some os)
    (hm : (calls t).entity.model os s.registry.issued = .ok m) :
    Step calls s (.store t m)
      (reach { s with registry := s.registry.store m } t (.decided (.ok m)))
  | refuse {s t os err} (h : (s.stages t).options? (calls t) = some os)
    (hm : (calls t).entity.model os s.registry.issued = .error err) :
    Step calls s (.refuse t err) (s.reach t (.decided (.error err)))
  | answer {s t res} (h : s.stages t = .decided res) :
    Step calls s (.answer t res) (s.reach t (.returned res))

/-- **Steps in any order.** -/
inductive Path (calls : Nat → RegistryCall) : Race → List Move → Race → Prop where
  | nil (s : Race) : Path calls s [] s
  | cons {s s₁ s' move moves} (hstep : Step calls s move s₁) (hrest : Path calls s₁ moves s') :
    Path calls s (move :: moves) s'

variable {calls : Nat → RegistryCall} {s s' s₀ : Race} {move : Move} {moves moves' : List Move}
  {e : Entity} {m : Model} {t : Nat} {p : Stage}

namespace Path

theorem single (h : Step calls s move s') : Path calls s [move] s' := .cons h (.nil s')

theorem append (h : Path calls s moves s') {s'' : Race} (h' : Path calls s' moves' s'') :
    Path calls s (moves ++ moves') s'' := by
  induction h with
  | nil => exact h'
  | cons hstep _ ih => exact .cons hstep (ih h')

/-- A path in two parts. -/
theorem of_append (h : Path calls s (moves ++ moves') s') :
    ∃ s₁, Path calls s moves s₁ ∧ Path calls s₁ moves' s' := by
  induction moves generalizing s with
  | nil => exact ⟨s, .nil s, h⟩
  | cons move moves ih =>
    cases h with
    | cons hstep hrest =>
      obtain ⟨s₁, hfirst, hsecond⟩ := ih hrest
      exact ⟨s₁, .cons hstep hfirst, hsecond⟩

/-- A path with a step in it. -/
theorem of_append_cons (h : Path calls s (moves ++ move :: moves') s') :
    ∃ s₁ s₂, Path calls s moves s₁ ∧ Step calls s₁ move s₂ ∧ Path calls s₂ moves' s' := by
  obtain ⟨s₁, hfirst, hsecond⟩ := h.of_append
  cases hsecond with
  | cons hstep hrest => exact ⟨s₁, _, hfirst, hstep, hrest⟩

end Path

/-! ## Stages -/

@[simp] theorem stages_reach_self : (s.reach t p).stages t = p := if_pos rfl

theorem stages_reach_of_ne {t' : Nat} (h : t' ≠ t) : (s.reach t p).stages t' = s.stages t' :=
  if_neg h

/-- Only the task that makes a step comes to another stage. -/
theorem Step.stages_of_ne (h : Step calls s move s') (ht : t ≠ move.task) :
    s'.stages t = s.stages t := by
  cases h <;> exact stages_reach_of_ne ht

theorem Step.stages_task (h : Step calls s move s') : s'.stages move.task = move.stage := by
  cases h <;> exact stages_reach_self

/-- A call registers its entity after a search in vain, or because it is there for that. -/
theorem options?_eq_some {call : RegistryCall} {os : List ModelOption} :
    p.options? call = some os ↔
      (∃ e, call = .get e ∧ p = .missed ∧ os = []) ∨ ∃ e, call = .register e os ∧ p = .started := by
  cases call <;> cases p <;> simp [Stage.options?, eq_comm]

theorem not_knows_of_options? {call : RegistryCall} {os : List ModelOption}
    (h : p.options? call = some os) : ¬ p.Knows := by
  rcases options?_eq_some.mp h with ⟨_, _, rfl, _⟩ | ⟨_, _, rfl⟩ <;> exact id

/-- Whoever makes a step does not know a result, or returns it. -/
theorem Step.not_knows (h : Step calls s move s') :
    ¬ (s.stages move.task).Knows ∨ ∃ res, move = .answer move.task res := by
  cases h with
  | answer => exact .inr ⟨_, rfl⟩
  | start h | find h | miss h =>
    rw [Move.task, h]
    exact .inl id
  | store h | refuse h => exact .inl (not_knows_of_options? h)

/-- A result that is known stays known. -/
theorem Step.knows (h : Step calls s move s') (ht : (s.stages t).Knows) : (s'.stages t).Knows := by
  by_cases htask : t = move.task
  · subst htask
    rcases h.not_knows with hnot | ⟨res, hmove⟩
    · exact absurd ht hnot
    · rw [h.stages_task, hmove]
      exact trivial
  · rwa [h.stages_of_ne htask]

namespace Path

theorem knows (h : Path calls s moves s') (ht : (s.stages t).Knows) : (s'.stages t).Knows := by
  induction h with
  | nil => exact ht
  | cons hstep _ ih => exact ih (hstep.knows ht)

/-- **A call is at the stage that it was at**, or has come to it by one of the steps. -/
theorem stage_or_mem (h : Path calls s moves s') :
    s'.stages t = s.stages t ∨ ∃ move ∈ moves, move.task = t ∧ move.stage = s'.stages t := by
  induction h with
  | nil => exact .inl rfl
  | @cons s s₁ s' move moves hstep _ ih =>
    rcases ih with hsame | ⟨move', hmem, htask, hstage⟩
    · by_cases ht : t = move.task
      · subst ht
        exact .inr ⟨move, List.mem_cons_self, rfl, by rw [hsame, hstep.stages_task]⟩
      · exact .inl (hsame.trans (hstep.stages_of_ne ht))
    · exact .inr ⟨move', List.mem_cons_of_mem _ hmem, htask, hstage⟩

end Path

/-! ## Calls that are alone -/

/-- A result that is known is returned. -/
theorem Path.answered {res : Except Error Model} (h : s.stages t = .decided res) :
    Path calls s [.answer t res] (s.reach t (.returned res)) := .single (.answer h)

/-- A call that is going to register its entity gets to that point. -/
theorem exists_path_of_options {os : List ModelOption}
    (hos : RegistryCall.options? s.registry (calls t) = some os) (ht : s.stages t = .idle) :
    ∃ moves s', Path calls s moves s' ∧ (∀ move ∈ moves, move.task = t) ∧
      s'.registry = s.registry ∧ (s'.stages t).options? (calls t) = some os := by
  cases hcall : calls t with
  | get e =>
    rw [hcall] at hos
    cases hl : s.registry.lookup? e with
    | some m => simp [RegistryCall.options?, hl] at hos
    | none =>
      obtain rfl : [] = os := by simpa [RegistryCall.options?, hl] using hos
      have hstart : Step calls s (.start t) _ := .start ht
      have hmiss : Step calls _ (.miss t) _ := .miss stages_reach_self hcall hl
      exact ⟨_, _, .cons hstart (.single hmiss), by simp [Move.task], rfl, by simp [Stage.options?]⟩
  | register e os' =>
    rw [hcall] at hos
    obtain rfl : os' = os := by simpa [RegistryCall.options?] using hos
    have hstart : Step calls s (.start t) _ := .start ht
    exact ⟨_, _, .single hstart, by simp [Move.task], rfl, by simp [Stage.options?]⟩

/-- **A call without others in between** goes from one registry to the next as its program does. -/
theorem exists_path_of_eval {σ : Type} {registry : Nat} {res : Except Error Model} {c : Scope σ}
    {w w' : RunState σ} (heval : ((calls t).program registry).eval c w = (.ok res, w'))
    (hs : s.registry = w.registries registry) (ht : s.stages t = .idle) :
    ∃ moves s', Path calls s moves s' ∧ (∀ move ∈ moves, move.task = t) ∧
      s'.registry = w'.registries registry ∧ s'.stages t = .returned res := by
  have hdoes := does_of_eval heval
  rw [← hs] at hdoes
  generalize w'.registries registry = r' at hdoes ⊢
  generalize hcall : calls t = call at hdoes
  cases hdoes with
  | found hm =>
    have hstart : Step calls s (.start t) _ := .start ht
    have hfind : Step calls _ (.find t _) _ := .find stages_reach_self hcall hm
    exact ⟨_, _, .cons hstart (.cons hfind (.answered stages_reach_self)), by simp [Move.task],
      rfl, stages_reach_self⟩
  | registered hos hm =>
    rw [← hcall] at hos hm
    obtain ⟨moves, s₁, hpath, htasks, hregistry, hos'⟩ := exists_path_of_options hos ht
    rw [← hregistry] at hm
    have hstore : Step calls s₁ (.store t _) _ := .store hos' hm
    refine ⟨moves ++ _, _, hpath.append (.cons hstore (.answered stages_reach_self)), ?_, ?_,
      stages_reach_self⟩
    · simpa [or_imp, forall_and, Move.task] using htasks
    · exact congrArg (Registry.store · _) hregistry
  | refused hos hm =>
    rw [← hcall] at hos hm
    obtain ⟨moves, s₁, hpath, htasks, hregistry, hos'⟩ := exists_path_of_options hos ht
    rw [← hregistry] at hm
    have hrefuse : Step calls s₁ (.refuse t _) _ := .refuse hos' hm
    refine ⟨moves ++ _, _, hpath.append (.cons hrefuse (.answered stages_reach_self)), ?_, hregistry,
      stages_reach_self⟩
    simpa [or_imp, forall_and, Move.task] using htasks

/-! ## What a registry keeps -/

section Kept

variable (he : ∀ t, (calls t).entity = e)
include he

/-- A model is kept for the entity from the step on that stores one. -/
theorem Step.lookup?_eq (h : Step calls s move s') : s'.registry.lookup? e =
    (move.stored?.map Prod.snd).or (s.registry.lookup? e) := by
  cases h with
  | @store t os m _ hm =>
    rw [he t] at hm
    exact s.registry.lookup?_store (identity_of_model hm)
  | _ => rfl

namespace Path

/-- **The model that is stored last is the one that is kept.** -/
theorem lookup?_eq (h : Path calls s moves s') : s'.registry.lookup? e =
    ((stores moves).getLast?.map Prod.snd).or (s.registry.lookup? e) := by
  induction h with
  | nil => rfl
  | @cons s s₁ s' move moves hstep _ ih =>
    rw [ih, hstep.lookup?_eq he, stores_cons]
    cases move.stored? with
    | none => rfl
    | some stored =>
      rw [Option.toList_some, List.singleton_append, List.getLast?_cons]
      cases (stores moves).getLast? <;> rfl

/-- Where a model is kept, nobody looks for it in vain. -/
theorem miss_notMem (h : Path calls s moves s') (hs : (s.registry.lookup? e).isSome) :
    .miss t ∉ moves := by
  intro hmem
  obtain ⟨first, last, rfl⟩ := List.append_of_mem hmem
  obtain ⟨s₁, s₂, hfirst, hstep, -⟩ := h.of_append_cons
  cases hstep with
  | @miss _ e' _ hcall hm =>
    have he' : e' = e := by simpa [hcall, RegistryCall.entity] using he t
    rw [he', hfirst.lookup?_eq he] at hm
    simp [(Option.or_eq_none_iff.mp hm).2] at hs

end Path

/-- **A call that asks for a model that is kept** finds the one that is kept when it looks. -/
theorem Path.exists_find {i : Nat} {res : Except Error Model} (h : Path calls s moves s')
    (hi : calls i = .get e) (hstart : s.stages i = .started)
    (hkept : (s.registry.lookup? e).isSome) (hres : s'.stages i = .decided res) :
    ∃ seen m' rest s₁, moves = seen ++ .find i m' :: rest ∧ res = .ok m' ∧
      Path calls s seen s₁ ∧ s₁.registry.lookup? e = some m' := by
  rcases h.stage_or_mem (t := i) with hsame | ⟨move, hmem, htask, hstage⟩
  · rw [hsame, hstart] at hres
    cases hres
  rw [hres] at hstage
  obtain ⟨seen, rest, rfl⟩ := List.append_of_mem hmem
  obtain ⟨s₁, s₂, hseen, hstep, -⟩ := h.of_append_cons
  -- The call would register the entity only after a search in vain.
  have hnot (os : List ModelOption) : (s₁.stages i).options? (calls i) ≠ some os := by
    intro hos
    rw [hi] at hos
    rcases options?_eq_some.mp hos with ⟨_, _, hmissed, -⟩ | ⟨_, hregister, -⟩
    · rcases hseen.stage_or_mem (t := i) with hsame | ⟨move', hmem', htask', hstage'⟩
      · rw [hsame, hstart] at hmissed
        cases hmissed
      · rw [hmissed] at hstage'
        rw [Move.eq_miss hstage', htask'] at hmem'
        exact hseen.miss_notMem he hkept hmem'
    · cases hregister
  subst htask
  cases hstep with
  | start | miss | answer => cases hstage
  | store hos | refuse hos => exact absurd hos (hnot _)
  | @find t e' m' _ hcall hm =>
    obtain rfl : e' = e := RegistryCall.get.inj (hcall.symm.trans hi)
    cases hstage
    exact ⟨seen, m', rest, s₁, rfl, rfl, hseen, hm⟩

end Kept

/-! ## What is found after a registration -/

/-- **The last model that is stored wins.** After the steps `first` a registration has stored the
model `m`, and after the steps `last` the model `m'` is found: it is `m` if nothing was stored
since, and otherwise what was stored last. Whoever stores a model in these steps has asked for one,
in vain, before `m` was stored, and stores the model without options. -/
structure LastWins (calls : Nat → RegistryCall) (e : Entity) (m : Model) (first last : List Move)
    (m' : Model) : Prop where
  kept : stores last = [] → m' = m
  replaced (t : Nat) (m'' : Model) : (stores last).getLast? = some (t, m'') → m' = m''
  late (t : Nat) (m'' : Model) : (t, m'') ∈ stores last →
    calls t = .get e ∧ .miss t ∈ first ∧ ∃ n, e.model [] n = .ok m''

section Registration

variable {os : List ModelOption} {j : Nat} (hj : calls j = .register e os)
  (hothers : ∀ t, t ≠ j → calls t = .get e)
include hj hothers

theorem entity_calls (t : Nat) : (calls t).entity = e := by
  by_cases ht : t = j
  · rw [ht, hj]
    rfl
  · rw [hothers t ht]
    rfl

/-- **Whoever stores a model after the registration** has looked for one before it, in vain. -/
theorem late_of_path {first last : List Move} {s₁ s₂ : Race} (hfresh : s₀.Fresh)
    (hfirst : Path calls s₀ first s₁) (hstore : Step calls s₁ (.store j m) s₂)
    (hlast : Path calls s₂ last s) {m' : Model} (hmem : (t, m') ∈ stores last) :
    calls t = .get e ∧ .miss t ∈ first ∧ ∃ n, e.model [] n = .ok m' := by
  have he := entity_calls hj hothers
  have hkept : (s₂.registry.lookup? e).isSome := by
    rw [hstore.lookup?_eq he]
    rfl
  obtain ⟨between, rest, rfl⟩ := List.append_of_mem (mem_stores.mp hmem)
  obtain ⟨s₃, s₄, hbetween, hstep, -⟩ := hlast.of_append_cons
  cases hstep with
  | @store _ os' _ hos hm =>
    -- The registration knows its result, and stores nothing again.
    have ht : t ≠ j := by
      rintro rfl
      refine not_knows_of_options? hos (hbetween.knows ?_)
      rw [show s₂.stages t = .decided (.ok m) from hstore.stages_task]
      exact trivial
    rw [hothers t ht] at hos hm
    obtain ⟨e', hget, hmissed, rfl⟩ | ⟨e', hregister, -⟩ := options?_eq_some.mp hos
    · have hpath := hfirst.append (.cons hstore hbetween)
      rcases hpath.stage_or_mem (t := t) with hsame | ⟨move, hmove, htask, hstage⟩
      · rw [hsame, hfresh t] at hmissed
        cases hmissed
      · rw [hmissed] at hstage
        rw [Move.eq_miss hstage, htask] at hmove
        -- Where a model is kept already, the search is not in vain.
        rcases List.mem_append.mp hmove with hmiss | hmiss
        · exact ⟨hothers t ht, hmiss, _, hm⟩
        · rcases List.mem_cons.mp hmiss with hmiss | hmiss
          · cases hmiss
          · exact absurd hmiss (hbetween.miss_notMem he hkept)
    · cases hregister

/-- A registration that knows its model has stored it. -/
theorem exists_store {before : List Move} (hfresh : s₀.Fresh) (h : Path calls s₀ before s)
    (hres : s.stages j = .decided (.ok m)) :
    ∃ first rest s₁ s₂, before = first ++ .store j m :: rest ∧ Path calls s₀ first s₁ ∧
      Step calls s₁ (.store j m) s₂ ∧ Path calls s₂ rest s := by
  rcases h.stage_or_mem (t := j) with hsame | ⟨move, hmem, htask, hstage⟩
  · rw [hsame, hfresh j] at hres
    cases hres
  rw [hres] at hstage
  obtain ⟨first, rest, rfl⟩ := List.append_of_mem hmem
  obtain ⟨s₁, s₂, hfirst, hstep, hrest⟩ := h.of_append_cons
  cases hstep with
  | start | miss | answer | refuse => cases hstage
  | @find t e' m' _ hcall =>
    rw [show t = j from htask, hj] at hcall
    cases hcall
  | @store t os' m' hos hm =>
    obtain rfl : t = j := htask
    cases hstage
    exact ⟨first, rest, s₁, _, rfl, hfirst, .store hos hm, hrest⟩

/-- **What is found after a registration has returned.** Any number of calls ask for the model of an
entity that one call registers. A call that starts after the registration has returned finds a
model, without making one: the one that was registered, unless somebody who looked in vain before
it was stored has stored another one in the meantime. -/
theorem found_after_registration {before between after : List Move} {i : Nat}
    {res : Except Error Model} (hfresh : s₀.Fresh)
    (hpath : Path calls s₀ (before ++ .answer j (.ok m) :: (between ++ .start i :: after)) s)
    (hres : .answer i res ∈ after) :
    ∃ first last seen m', before ++ .answer j (.ok m) :: (between ++ .start i :: seen) =
        first ++ .store j m :: last ∧
      seen ++ [.find i m'] <+: after ∧ res = .ok m' ∧ LastWins calls e m first last m' := by
  have he := entity_calls hj hothers
  obtain ⟨s₁, s₂, hbefore, hanswer, hpath⟩ := hpath.of_append_cons
  obtain ⟨s₃, s₄, hbetween, hstart, hafter⟩ := hpath.of_append_cons
  obtain ⟨pending, rest, rfl⟩ := List.append_of_mem hres
  obtain ⟨s₅, s₆, hpending, hreturn, -⟩ := hafter.of_append_cons
  -- The registration has stored its model before it returned.
  have hdecided : s₁.stages j = .decided (.ok m) := by
    cases hanswer
    assumption
  obtain ⟨first, tail, r₁, r₂, rfl, hfirst, hstore, htail⟩ :=
    exists_store hj hothers hfresh hbefore hdecided
  have hknown : (s₃.stages j).Knows := by
    refine hbetween.knows ?_
    rw [show s₂.stages j = _ from hanswer.stages_task]
    exact trivial
  have hi : calls i = .get e := by
    refine hothers i ?_
    rintro rfl
    cases hstart with
    | start hidle =>
      rw [hidle] at hknown
      exact hknown
  have hkept : (s₄.registry.lookup? e).isSome := by
    have hto := htail.append (.cons hanswer (hbetween.append (.single hstart)))
    rw [hto.lookup?_eq he, hstore.lookup?_eq he]
    cases (stores _).getLast? <;> rfl
  obtain ⟨seen, m', rest', s₇, rfl, rfl, hseen, hm'⟩ :=
    hpending.exists_find he hi hstart.stages_task hkept (by cases hreturn; assumption)
  have hlast := htail.append (.cons hanswer (hbetween.append (.cons hstart hseen)))
  have hwins := hlast.lookup?_eq he
  rw [hstore.lookup?_eq he, hm'] at hwins
  refine ⟨first, tail ++ .answer j (.ok m) :: (between ++ .start i :: seen), seen, m', by simp,
    ⟨rest' ++ .answer i (.ok m') :: rest, by simp⟩, rfl, fun hnone => ?_, fun t m'' hsome => ?_, ?_⟩
  · rw [hnone] at hwins
    exact Option.some.inj hwins
  · rw [hsome] at hwins
    exact Option.some.inj hwins
  · exact fun t m'' => late_of_path hj hothers hfresh hfirst hstore hlast

end Registration

/-- An entity to try races on: a badge with its number. -/
def badge : Entity :=
  ⟨0, "Badge", .record, none,
    [⟨"number", ⟨.int .i32, false⟩, none, .int .i32 (BoundedInt.zero _), .content, false⟩]⟩

/-- A model of the badge. -/
def badgeModel (table : String) (serial : Nat) : Model :=
  ⟨0, "Badge", table, [⟨"number", "number", ⟨.int .i32, false⟩, 0⟩], serial⟩

/-- One call registers the badge in another table, and all others ask for its model. -/
def badgeCalls (t : Nat) : RegistryCall :=
  if t = 1 then .register badge [.tableName "people"] else .get badge

theorem badgeCalls_of_ne (t : Nat) (ht : t ≠ 1) : badgeCalls t = .get badge := if_neg ht

/-- A call that looked in vain makes its model before the registration does, which so is found. -/
theorem badge_found : ∃ first last seen,
    [.start 0, .miss 0, .start 1, .store 0 (badgeModel "badge" 0), .store 1 (badgeModel "people" 1),
      .answer 1 (.ok (badgeModel "people" 1)), .answer 0 (.ok (badgeModel "badge" 0)), .start 2] ++
      seen = first ++ .store 1 (badgeModel "people" 1) :: last ∧
    LastWins badgeCalls badge (badgeModel "people" 1) first last (badgeModel "people" 1) := by
  obtain ⟨s, hpath⟩ : ∃ s, Path badgeCalls ⟨.empty, fun _ => .idle⟩
      ([.start 0, .miss 0, .start 1, .store 0 (badgeModel "badge" 0),
        .store 1 (badgeModel "people" 1)] ++ .answer 1 (.ok (badgeModel "people" 1)) ::
        ([.answer 0 (.ok (badgeModel "badge" 0))] ++ .start 2 ::
          [.find 2 (badgeModel "people" 1), .answer 2 (.ok (badgeModel "people" 1))])) s :=
    ⟨_, .cons (.start rfl) (.cons (.miss rfl rfl rfl) (.cons (.start rfl) (.cons (.store rfl rfl)
      (.cons (.store rfl rfl) (.cons (.answer rfl) (.cons (.answer rfl) (.cons (.start rfl)
        (.cons (.find rfl rfl rfl) (.single (.answer rfl))))))))))⟩
  have hanswer : Move.answer 2 (.ok (badgeModel "people" 1)) ∈
      [.find 2 (badgeModel "people" 1), .answer 2 (.ok (badgeModel "people" 1))] := by simp
  obtain ⟨first, last, seen, m', hmoves, -, hres, hwins⟩ :=
    found_after_registration rfl badgeCalls_of_ne (fun _ => rfl) hpath hanswer
  obtain rfl := Except.ok.inj hres
  exact ⟨first, last, seen, hmoves, hwins⟩

/-- **A registration is lost to a call that began before it**: it is not so that every call that
starts after the registration has returned finds its model. -/
theorem not_always_found : ¬ ∀ (calls : Nat → RegistryCall) (e : Entity) (os : List ModelOption)
    (j i : Nat) (s₀ s : Race) (m : Model) (res : Except Error Model)
    (before between after : List Move), calls j = .register e os →
      (∀ t, t ≠ j → calls t = .get e) → s₀.Fresh →
      Path calls s₀ (before ++ .answer j (.ok m) :: (between ++ .start i :: after)) s →
      .answer i res ∈ after → res = .ok m := by
  intro hfound
  have hpath : Path badgeCalls ⟨.empty, fun _ => .idle⟩
      ([.start 0, .miss 0, .start 1, .store 1 (badgeModel "people" 0)] ++
        .answer 1 (.ok (badgeModel "people" 0)) :: ([.store 0 (badgeModel "badge" 1)] ++
          .start 2 :: [.find 2 (badgeModel "badge" 1), .answer 2 (.ok (badgeModel "badge" 1))])) _ :=
    .cons (.start rfl) (.cons (.miss rfl rfl rfl) (.cons (.start rfl) (.cons (.store rfl rfl)
      (.cons (.answer rfl) (.cons (.store rfl rfl) (.cons (.start rfl)
        (.cons (.find rfl rfl rfl) (.single (.answer rfl)))))))))
  have hres := hfound badgeCalls badge [.tableName "people"] 1 2 _ _ _ _ _ _ _ rfl
    badgeCalls_of_ne (fun _ => rfl) hpath (List.mem_cons_of_mem _ List.mem_cons_self)
  have htable := congrArg Model.table (Except.ok.inj hres)
  revert htable
  decide

end Race

end EntityMapper

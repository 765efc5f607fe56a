import EntityMapper.Proofs.Session.Pace
import EntityMapper.Proofs.Transaction.Pace

/-!
# Scenarios at the pace of a limit

A scenario on databases with a limit of time for statements goes, step by step, as it does without
the limit on a driver that gives its answers up in time. The steps must not show the settings, in
which the limit is.

## Main definitions

* `Site.timed site limit`: the databases with another limit of time
* `Action.Fits holds`, `Step.Fits holds`: steps that do not show the settings, and leave the states
  of drivers where they may be
* `Site.Suits site P`: databases whose middlewares cannot tell the two drivers of a pace apart

## Main results

* `programs_runAction`: steps by themselves
* `programs_runStep`, `programs_runAll`: steps with steps of their own, and lists of them
* `programs_program`: scenarios
-/

namespace EntityMapper.Scenario

open EntityMapper.Sql

variable {σ : Type}

/-- The databases with a limit of time for statements, or without one. -/
def Site.timed (site : Site σ) (limit : Option Duration) : Site σ :=
  ⟨site.count, fun i => (site.database i).timed limit⟩

/-- **The step does not show the settings**, and leaves the states of drivers where they may be. -/
def Action.Fits (holds : σ → Prop) : Action σ → Prop
  | describeTransaction _ | describeDatabase | settings => False
  | adjust change => ∀ s, holds s → holds (change s)
  | _ => True

mutual

/-- **Neither does any step inside of it.** -/
def Step.Fits (holds : σ → Prop) : Step σ → Prop
  | .action _ _ a => a.Fits holds
  | .transaction _ _ _ _ body _ => Step.AllFit holds body
  | .cancelAfter _ _ steps => Step.AllFit holds steps
  | .spawn _ steps => Step.AllFit holds steps

/-- None of the steps does. -/
def Step.AllFit (holds : σ → Prop) : List (Step σ) → Prop
  | [] => True
  | s :: ss => s.Fits holds ∧ Step.AllFit holds ss

end

/-- **The databases suit the pace**: it covers them all, and their middlewares cannot tell the two
drivers apart. -/
structure Site.Suits (site : Site σ) (P : Pace σ) : Prop where
  covers : ∀ i, P.covers i
  impartial : ∀ i, ∀ a ∈ (site.database i).middlewares, a.Impartial P

/-! ## Places -/

section Places

variable {P : Pace σ}

open Pace

theorem programs_transactionAt (place : Place) :
    P.Programs (transactionAt place : Run σ (Except String Nat)) (transactionAt place) := by
  cases place with
  | database => exact .pure _
  | body =>
    refine .read_bind fun c _ => ?_
    rw [show (P.scope c).enclosing = c.enclosing from rfl]
    cases c.enclosing with
    | some id => exact .pure _
    | none => exact .pure _
  | ambient =>
    refine programs_currentTransaction.bind fun current => ?_
    cases current with
    | some id => exact .pure _
    | none => exact .pure _
  | named s =>
    refine .get_bind fun c w hc hw => ?_
    cases w.names.lookup s with
    | some id => exact ⟨rfl, hw⟩
    | none => exact ⟨rfl, hw⟩

/-- What is done in the session at a place, with the limit and without it. -/
theorem programs_sessionAt_bind {α : Type} (site : Site σ) (index : Nat) (place : Place)
    {f g : Except String (Session σ) → Run σ α}
    (herror : ∀ s, P.Programs (f (.error s)) (g (.error s)))
    (hok : ∀ i transaction, P.Programs
      (f (.ok ((⟨i, transaction, site.database i⟩ : Session σ).timed (some P.limit))))
      (g (.ok ((⟨i, transaction, site.database i⟩ : Session σ).timed none)))) :
    P.Programs (sessionAt (site.timed (some P.limit)) index place >>= f)
      (sessionAt (site.timed none) index place >>= g) := by
  cases place with
  | database => exact hok index none
  | _ =>
    rw [sessionAt, sessionAt, bind_assoc, bind_assoc]
    · refine (programs_transactionAt _).bind_ok herror fun id => ?_
      simp only [Session.ofTransaction, bind_assoc, pure_bind]
      exact .handleOf_bind fun h _ => hok h.database (some id)
    all_goals nofun

/-- What is done with the transaction at a place. -/
theorem programs_onTransaction (place : Place) {work work' : Nat → Run σ (Ending Finding)}
    (hwork : ∀ id, P.Programs (work id) (work' id)) :
    P.Programs (onTransaction place work) (onTransaction place work') :=
  (programs_transactionAt place).bind_ok (fun _ => .pure _) hwork

theorem programs_nameTransaction (name : String) (id : Nat) :
    P.Programs (nameTransaction name id : Run σ Unit) (nameTransaction name id) := by
  refine .get_bind fun c w hc hw => ?_
  have hfit (names : List (String × Nat)) : P.Fit { w with names := names } :=
    ⟨hw.unlocked, hw.holds⟩
  cases w.names.lookup name with
  | none => exact ⟨rfl, hfit _⟩
  | some old => exact programs_abandon old c _ hc (hfit _)

theorem programs_useForAccess (registry : Nat) (k : AccessorKind) (e : Entity) (m : Model) :
    P.Programs (useForAccess registry k e m : Run σ Unit) (useForAccess registry k e m) := by
  cases k with
  | byName => exact .pure ()
  | byPosition =>
    show P.Programs (if m.isModelOf e then _ else _) (if m.isModelOf e then _ else _)
    split
    · exact programs_examineLayout _ e m
    · exact .pure ()

end Places

/-! ## Single steps -/

section Actions

open Pace

variable {P : Pace σ} {site : Site σ}

/-- What is done with a statement, with the limit and without it. -/
theorem programs_runWork {s : Session σ} (hs : P.covers s.index)
    (hms : ∀ a ∈ s.database.middlewares, a.Impartial P) (e : Entity) (stmt : Statement)
    (work : Work) :
    P.Programs (runWork (s.timed (some P.limit)) e stmt work)
      (runWork (s.timed none) e stmt work) := by
  have hask := programs_ask hs hms e stmt
  cases work with
  | build => exact (programs_build s e stmt).bind fun r => .pure _
  | get => exact (hask .first).bind fun r => .pure _
  | getAll => exact (hask .all).bind fun r => .pure _
  | exec => exact (hask .exec).bind fun r => .pure _

/-- **A step by itself**, with the limit and without it. -/
theorem programs_runAction (hsite : site.Suits P) (index : Nat) {a : Action σ}
    (ha : a.Fits P.holds) :
    P.Programs (runAction (site.timed (some P.limit)) index a)
      (runAction (site.timed none) index a) := by
  have hindex := hsite.covers index
  cases a with
  | statement work place e stmt =>
    refine programs_sessionAt_bind site index place (fun s => .pure _) fun i transaction => ?_
    cases stmt with
    | error err => exact .pure _
    | ok stmt => exact programs_runWork (hsite.covers i) (hsite.impartial i) e stmt work
  | register e options => exact (programs_registerEntity _ e options).bind fun r => .pure _
  | model e =>
    exact (programs_modelOf _ e).bind_ok (fun _ => .pure _) fun m =>
      (programs_modelOf _ e).bind_ok (fun _ => .pure _) fun m' => .pure _
  | lookup e name => exact (programs_modelOf _ e).bind_ok (fun _ => .pure _) fun m => .pure _
  | readField e k name start other =>
    refine (programs_modelOf _ other).bind_ok (fun _ => .pure _) fun m => ?_
    dsimp only
    cases fill e start with
    | error err => exact .pure _
    | ok i => exact (programs_useForAccess _ k e m).bind fun _ => .pure _
  | writeRow e k columns values start other =>
    refine (programs_modelOf _ other).bind_ok (fun _ => .pure _) fun m => ?_
    dsimp only
    cases fill e start with
    | error err => exact .pure _
    | ok i =>
      dsimp only
      cases Row.make columns values with
      | error err => exact .pure _
      | ok r => exact (programs_useForAccess _ k e m).bind fun _ => .pure _
  | beginNamed name options =>
    exact (programs_beginTransaction hindex (site.database index) options).bind_ok
      (fun _ => .pure _) fun id => (programs_nameTransaction name id).bind fun _ => .pure _
  | commit place =>
    exact programs_onTransaction place fun id => (programs_commit id).bind fun r => .pure _
  | rollback place =>
    exact programs_onTransaction place fun id => (programs_rollback id).bind fun r => .pure _
  | isDone place =>
    exact programs_onTransaction place fun id => (programs_isDone id).bind fun r => .pure _
  | describeTransaction place => exact ha.elim
  | dropNamed name =>
    refine .get_bind fun c w hc hw => ?_
    dsimp only
    cases w.names.lookup name with
    | none => exact ⟨rfl, hw⟩
    | some id =>
      exact (programs_abandon id).bind (fun _ => .pure _) c
        { w with names := w.names.filter fun p => p.1 ≠ name } hc ⟨hw.unlocked, hw.holds⟩
  | currentTransaction => exact programs_currentTransaction.bind fun r => .pure _
  | adjust change => exact (programs_changeState index ha).bind fun _ => .pure _
  | sleep d => exact (programs_wait d).bind fun _ => .pure _
  | describeDatabase => exact ha.elim
  | settings => exact ha.elim
  | describeLog l => exact .pure _
  | context e q =>
    let s : Session σ := .plain index (site.database index)
    have hbuild := programs_build (P := P) s e (.handwritten q)
    refine (programs_modelOf _ e).bind_ok (fun _ => .pure _) fun m => ?_
    let call : Call (Run σ) := ⟨QueryType.ofSql q.sql, m, s.build e (.handwritten q)⟩
    have hquery : P.Parts call.query call.query := parts_query hbuild
    exact Programs.bind (hquery none) fun p => Programs.bind (hquery p.2) fun p' => .pure _

/-- A body of steps in a transaction, by the form of it. -/
theorem programs_inForm (hsite : site.Suits P) (index : Nat) (form : Form)
    (options : TransactionOptions) {body body' : Nat → Run σ (Ending Finding × List StepReport)}
    (hbody : ∀ id, P.Programs (body id) (body' id)) :
    P.Programs (inForm (site.timed (some P.limit)) index form options body)
      (inForm (site.timed none) index form options body') := by
  have hindex := hsite.covers index
  cases form with
  | own => exact programs_doTransaction hindex (site.database index) options hbody
  | ambient => exact programs_doAmbient hindex (site.database index) options hbody
  | block => exact programs_transactionBlock hindex (site.database index) options hbody

/-! ## Steps and lists of steps -/

mutual

/-- **A step**, with the limit and without it. -/
theorem programs_runStep (hsite : site.Suits P) (s : Step σ) (hs : s.Fits P.holds) :
    P.Programs (runStep (site.timed (some P.limit)) s) (runStep (site.timed none) s) := by
  match s, hs with
  | .action index _ a, hs =>
    exact (programs_runAction hsite index hs).bind fun r =>
      (programs_takeEvents _).bind fun _ => .pure _
  | .transaction index _ form options body ending, hs =>
    refine (programs_inForm hsite index form options fun id => ?_).bind fun p =>
      (programs_takeEvents _).bind fun _ => .pure _
    refine .withReader (fun _ => rfl) (fun _ => rfl) ?_
    refine (programs_takeEvents _).bind fun _ => programs_currentTransaction.bind fun _ => ?_
    exact (programs_runBody hsite body hs).bind fun _ => .pure _
  | .cancelAfter _ d steps, hs =>
    refine .get_bind fun c w => ?_
    exact ((programs_runUntil hsite (w.now + d.ticks) steps hs).bind fun _ =>
      (programs_takeEvents _).bind fun _ => .pure _) c w
  | .spawn _ steps, hs =>
    refine Programs.bind (.withReader (fun _ => rfl) (fun _ => rfl) ?_) fun _ =>
      (programs_takeEvents _).bind fun _ => .pure _
    exact programs_runAll hsite steps hs

/-- **All steps.** -/
theorem programs_runAll (hsite : site.Suits P) (ss : List (Step σ))
    (hss : Step.AllFit P.holds ss) :
    P.Programs (runAll (site.timed (some P.limit)) ss) (runAll (site.timed none) ss) := by
  match ss, hss with
  | [], _ => exact .pure _
  | s :: ss, hss =>
    exact (programs_runStep hsite s hss.1).bind fun _ =>
      (programs_runAll hsite ss hss.2).bind fun _ => .pure _

/-- **The steps of a body.** -/
theorem programs_runBody (hsite : site.Suits P) (ss : List (Step σ))
    (hss : Step.AllFit P.holds ss) :
    P.Programs (runBody (site.timed (some P.limit)) ss) (runBody (site.timed none) ss) := by
  match ss, hss with
  | [], _ => exact .pure _
  | s :: ss, hss =>
    refine (programs_runStep hsite s hss.1).bind fun r => ?_
    dsimp only
    cases failureOf s.caught r with
    | some failure => exact .pure _
    | none => exact (programs_runBody hsite ss hss.2).bind fun _ => .pure _

/-- **Steps before a deadline.** -/
theorem programs_runUntil (hsite : site.Suits P) (deadline : Nat) (ss : List (Step σ))
    (hss : Step.AllFit P.holds ss) :
    P.Programs (runUntil (site.timed (some P.limit)) deadline ss)
      (runUntil (site.timed none) deadline ss) := by
  match ss, hss with
  | [], _ => exact .pure _
  | s :: ss, hss =>
    refine (programs_withDeadline deadline (programs_runStep hsite s hss.1)).bind fun r => ?_
    cases r with
    | none => exact .pure _
    | some r => exact (programs_runUntil hsite deadline ss hss.2).bind fun _ => .pure _

end

/-- **A scenario**, with the limit and without it. -/
theorem programs_program (hsite : site.Suits P) (outside : Bool) {steps : List (Step σ)}
    (hsteps : Step.AllFit P.holds steps) :
    P.Programs (program (site.timed (some P.limit)) outside steps)
      (program (site.timed none) outside steps) := by
  have hclosing (ids : List Nat) : P.Programs (ids.forM abandon) (ids.forM abandon) := by
    induction ids with
    | nil => exact .pure ()
    | cons id ids ih => exact (programs_abandon id).bind fun _ => ih
  have hgivenUp (names : List (String × Nat)) : P.Programs
      (withReader (fun s : Scope σ => { s with running := !outside })
        ((remaining names).forM abandon))
      (withReader (fun s : Scope σ => { s with running := !outside })
        ((remaining names).forM abandon)) :=
    .withReader (fun _ => rfl) (fun _ => rfl) (hclosing _)
  refine (programs_runAll hsite steps hsteps).bind fun reports => .get_bind fun c w => ?_
  exact ((hgivenUp w.names).bind fun _ => (programs_takeEvents _).bind fun _ => .pure _) c w

end Actions

end EntityMapper.Scenario

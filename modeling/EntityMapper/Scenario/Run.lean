import EntityMapper.Scenario.Step

/-!
# Running a scenario

Steps are run in order. Inside a transaction the first error or panic that is not caught ends the
body; everywhere else the later steps run all the same. What is told about a step comes after it,
with the events since something was told last.

## Main definitions

* `Site σ`: the databases of a scenario
* `runAction`: a step by itself
* `runStep`, `runAll`, `runBody`, `runUntil`: steps, and lists of them
* `Setup σ`, `startState`: databases as they are set up, and the beginning of a run
* `runScenario`: a scenario from its beginning to its end
-/

namespace EntityMapper.Scenario

open EntityMapper.Sql

variable {σ α : Type}

/-- **The databases of a scenario.** -/
structure Site (σ : Type) where
  count : Nat
  database : Nat → Database σ

/-! ## Single steps -/

/-- The name stands for no transaction. -/
def noTransaction : String := "no such transaction"

/-- No transaction is current. -/
def noAmbient : String := "no ambient transaction"

/-- The transaction at a place. -/
def transactionAt : Place → Run σ (Except String Nat)
  | .database => pure (.error noTransaction)
  | .body => do
    match (← read).enclosing with
    | some id => pure (.ok id)
    | none => pure (.error noTransaction)
  | .ambient => do
    match ← currentTransaction with
    | some id => pure (.ok id)
    | none => pure (.error noAmbient)
  | .named s => do
    match (← get).names.lookup s with
    | some id => pure (.ok id)
    | none => pure (.error noTransaction)

/-- The session at a place. -/
def sessionAt (site : Site σ) (index : Nat) : Place → Run σ (Except String (Session σ))
  | .database => pure (.ok (.plain index (site.database index)))
  | place => do
    match ← transactionAt place with
    | .ok id => pure (.ok (← Session.ofTransaction site.database id))
    | .error s => pure (.error s)

/-- A result as the ending of a step. -/
def endingOf (found : α → Finding) : Except Error α → Ending Finding
  | .ok a => .ok (found a)
  | .error e => .error e

/-- What is done with a statement in a session. -/
def runWork (s : Session σ) (e : Entity) (stmt : Statement) : Work → Run σ (Ending Finding)
  | .build => do pure (endingOf .query (← s.build e stmt))
  | .get => do pure (endingOf (.entity e) (← s.get e stmt))
  | .getAll => do pure (endingOf (.entities e) (← s.getAll e stmt))
  | .exec => do pure (endingOf .exec (← s.exec e stmt))

/-- What is done with the transaction at a place, if there is one. -/
def onTransaction (place : Place) (work : Nat → Run σ (Ending Finding)) :
    Run σ (Ending Finding) := do
  match ← transactionAt place with
  | .ok id => work id
  | .error s => pure (.ok (.word s))

/-- Names a transaction that has just begun. One that had the name before is given up. -/
def nameTransaction (name : String) (id : Nat) : Run σ Unit := do
  let old := (← get).names.lookup name
  modify fun w => { w with names := w.names.filter (fun p => p.1 ≠ name) ++ [(name, id)] }
  match old with
  | some id => abandon id
  | none => pure ()

/-- A model is used for access to an instance in one of the two ways. -/
def useForAccess (registry : Nat) (k : AccessorKind) (e : Entity) (m : Model) : Run σ Unit :=
  match k with
  | .byName => pure ()
  | .byPosition => if m.isModelOf e then examineLayout registry e m else pure ()

/-- **A step by itself**, in a database given by its number. -/
def runAction (site : Site σ) (index : Nat) : Action σ → Run σ (Ending Finding)
  | .statement work place e stmt => do
    match ← sessionAt site index place with
    | .error s => pure (.ok (.word s))
    | .ok s =>
      match stmt with
      | .error err => pure (.error err)
      | .ok stmt => runWork s e stmt work
  | .register e options => do
    pure (endingOf (.model · none) (← registerEntity (site.database index).settings.registry e
      options))
  | .model e => do
    let registry := (site.database index).settings.registry
    match ← modelOf registry e with
    | .error err => pure (.error err)
    | .ok m =>
      -- Asking once more tells whether the registry has kept the model.
      match ← modelOf registry e with
      | .error err => pure (.error err)
      | .ok m' => pure (.ok (.model m (some (m.serial == m'.serial))))
  | .lookup e name => do
    match ← modelOf (site.database index).settings.registry e with
    | .error err => pure (.error err)
    | .ok m => pure (.ok (.fields (m.field? name) (m.column? name)))
  | .readField e k name start other => do
    let registry := (site.database index).settings.registry
    match ← modelOf registry other with
    | .error err => pure (.error err)
    | .ok m =>
      match fill e start with
      | .error err => pure (.error err)
      | .ok i =>
        useForAccess registry k e m
        pure (endingOf .value (readField k e m i name))
  | .writeRow e k columns values start other => do
    let registry := (site.database index).settings.registry
    match ← modelOf registry other with
    | .error err => pure (.error err)
    | .ok m =>
      match fill e start with
      | .error err => pure (.error err)
      | .ok i =>
        match Row.make columns values with
        | .error err => pure (.error err)
        | .ok r =>
          useForAccess registry k e m
          let (after, result) := writeRow k e m i r
          pure (.ok (.written e after result))
  | .beginNamed name options => do
    match ← beginTransaction index (site.database index) options with
    | .error err => pure (.error err)
    | .ok id =>
      nameTransaction name id
      pure (.ok (.word "open"))
  | .commit place => onTransaction place fun id => do
    pure (endingOf (fun _ => .word "done") (← EntityMapper.commit id))
  | .rollback place => onTransaction place fun id => do
    pure (endingOf (fun _ => .word "done") (← EntityMapper.rollback id))
  | .isDone place => onTransaction place fun id => do
    pure (.ok (.flag (← EntityMapper.isDone id)))
  | .describeTransaction place => onTransaction place fun id => do
    let s ← Session.ofTransaction site.database id
    pure (.ok (.word (s.database.settings.transactionDiagnostic (← EntityMapper.isDone id))))
  | .dropNamed name => do
    match (← get).names.lookup name with
    | none => pure ()
    | some id =>
      -- The name is free before the handle is given up.
      modify fun w => { w with names := w.names.filter fun p => p.1 ≠ name }
      abandon id
    pure (.ok (.word "dropped"))
  | .currentTransaction => do
    pure (.ok (.flag (← EntityMapper.currentTransaction).isSome))
  | .adjust change => do
    changeState index change
    pure (.ok (.word "ok"))
  | .sleep d => do
    wait d
    pure (.ok (.word "slept"))
  | .describeDatabase => pure (.ok (.word (site.database index).settings.databaseDiagnostic))
  | .settings => pure (.ok (.settings (site.database index).settings))
  | .describeLog l => pure (.ok (.word l.diagnostic))
  | .context e q => do
    let s := Session.plain index (site.database index)
    match ← s.model e with
    | .error err => pure (.error err)
    | .ok m =>
      let c : Call (Run σ) := ⟨QueryType.ofSql q.sql, m, s.build e (.handwritten q)⟩
      let (first, compiled) ← c.query.run none
      -- The second time the statement comes from what was kept.
      let (second, compiled) ← c.query.run compiled
      pure (.ok (.context (c.diagnostic none) (c.diagnostic compiled)
        (first.toOption == second.toOption)))

/-! ## Steps and lists of steps -/

/-- The ending of a step that ends the steps around it. -/
def failureOf (caught : Bool) : StepReport → Option (Ending Finding)
  | .step (.error e) .. => if caught then none else some (.error e)
  | .step (.panic p) .. => if caught then none else some (.panic p)
  | _ => none

/-- The ending that a body of steps comes to if none of them ends it. -/
def doneAs : Ending Unit → Ending Finding
  | .ok () => .ok (.word "done")
  | .error e => .error e
  | .panic p => .panic p

/-- A body of steps in a transaction, by the form of it. -/
def inForm (site : Site σ) (index : Nat) (form : Form) (options : TransactionOptions)
    (body : Nat → Run σ (Ending Finding × List StepReport)) :
    Run σ (Ending Finding × Option (List StepReport)) :=
  match form with
  | .own => doTransaction index (site.database index) options body
  | .ambient => doAmbient index (site.database index) options body
  | .block => transactionBlock index (site.database index) options body

mutual

/-- **A step**, and what is told about it. -/
def runStep (site : Site σ) : Step σ → Run σ StepReport
  | .action index _ a => do
    let result ← runAction site index a
    pure (.step result [] (← takeEvents site.count))
  | .transaction index _ form options body ending => do
    let (result, reports) ← inForm site index form options fun id =>
      withReader (fun s => { s with enclosing := some id }) do
        -- What happened while the transaction began is told before the steps of the body.
        let events ← takeEvents site.count
        let ambient := (← currentTransaction).isSome
        let (reports, failure) ← runBody site body
        pure (failure.getD (doneAs ending), .entered events ambient :: reports)
    pure (.step result (reports.getD []) (← takeEvents site.count))
  | .cancelAfter _ d steps => do
    -- All of the steps have this deadline together, and not each one for itself.
    let deadline := (← get).now + d.ticks
    let (reports, finished) ← runUntil site deadline steps
    let word := if finished then "finished" else "cancelled"
    pure (.step (.ok (.word word)) reports (← takeEvents site.count))
  | .spawn _ steps => do
    -- A task of its own takes neither the current transaction nor the enclosing one along.
    let reports ← withReader (fun s => { s with ambient := none, enclosing := none })
      (runAll site steps)
    pure (.step (.ok (.word "joined")) reports (← takeEvents site.count))

/-- **All steps**, whatever becomes of each. -/
def runAll (site : Site σ) : List (Step σ) → Run σ (List StepReport)
  | [] => pure []
  | s :: ss => do
    let r ← runStep site s
    let rs ← runAll site ss
    pure (r :: rs)

/-- **The steps of a body**, up to the first that ends it. -/
def runBody (site : Site σ) : List (Step σ) → Run σ (List StepReport × Option (Ending Finding))
  | [] => pure ([], none)
  | s :: ss => do
    let r ← runStep site s
    match failureOf s.caught r with
    | some failure => pure ([r], some failure)
    | none =>
      let (rs, failure) ← runBody site ss
      pure (r :: rs, failure)

/-- **Steps before a deadline**, and whether all of them ended before it. -/
def runUntil (site : Site σ) (deadline : Nat) : List (Step σ) → Run σ (List StepReport × Bool)
  | [] => pure ([], true)
  | s :: ss => do
    match ← withDeadline deadline (runStep site s) with
    | none => pure ([], false)
    | some r =>
      let (rs, finished) ← runUntil site deadline ss
      pure (r :: rs, finished)

end

/-! ## Scenarios -/

/-- **A database as it is set up**: its settings and middlewares, the state of its driver, the
earlier database whose registry it shares, and whether its settings are logged. -/
structure Setup (σ : Type) where
  dialect : Dialect
  accessor : AccessorKind
  timeout : Option Duration
  stages : List Stage
  state : σ
  sharedWith : Option Nat
  logged : Bool

/-- A database without settings of its own. -/
def Setup.plain (state : σ) : Setup σ :=
  ⟨.standard, .standard, none, [], state, none, false⟩

/-- The numbers of the registries that databases have, `known` being those of the databases before
them. A database has the registry of its own number unless it shares an earlier one. -/
def registryNumbers (known : List Nat) : List (Setup σ) → List Nat
  | [] => known
  | s :: ss =>
    let own := known.length
    let number := match s.sharedWith with
      | some i => known.getD i own
      | none => own
    registryNumbers (known ++ [number]) ss

/-- The settings of a database with the given registry. -/
def Setup.settings (s : Setup σ) (registry : Nat) : Settings :=
  ⟨s.dialect, s.accessor, s.stages.length, s.timeout, registry⟩

/-- The databases of a scenario. -/
def siteOf (fallback : σ) (setups : List (Setup σ)) : Site σ where
  count := setups.length
  database i :=
    let registry := (registryNumbers [] setups).getD i i
    let s := setups.getD i (.plain fallback)
    ⟨s.settings registry, s.stages.map (Stage.middleware registry)⟩

/-- The state of a run at the beginning of a scenario. -/
def startState (fallback : σ) (setups : List (Setup σ)) : RunState σ where
  now := 0
  states i := (setups.getD i (.plain fallback)).state
  registries _ := Registry.empty
  examined := []
  handles _ := Handle.opened 0
  begun := 0
  names := []
  events := []
  trace := []
  log := (setups.filter Setup.logged).map fun s =>
    .line ((s.settings 0).diagnosticAs "DbOptions")

/-- The scope at the beginning of a scenario. -/
def startScope (driver : Driver σ) : Scope σ := ⟨driver, none, none, [], true⟩

/-- The transactions that still have names, in the order of the names. -/
def remaining (names : List (String × Nat)) : List Nat :=
  (names.mergeSort fun p q => p.1 ≤ q.1).map Prod.snd

/-- All steps, and then the transactions that still have names are given up one after another, if
`outside` says so where nothing can be sent any more. -/
def program (site : Site σ) (outside : Bool) (steps : List (Step σ)) :
    Run σ (List StepReport × List Event) := do
  let reports ← runAll site steps
  let names := (← get).names
  withReader (fun s => { s with running := !outside }) ((remaining names).forM abandon)
  let closing ← takeEvents site.count
  pure (reports, closing)

/-- **A scenario from its beginning to its end**: what is told about its steps, the events after
the last of them, and the state that is left. There is nothing to tell of a scenario that waits for
ever. -/
def runScenario (driver : Driver σ) (fallback : σ) (setups : List (Setup σ)) (outside : Bool)
    (steps : List (Step σ)) : Option (List StepReport × List Event) × RunState σ :=
  let site := siteOf fallback setups
  let (result, w) := ((program site outside steps).run (startScope driver)).run
    (startState fallback setups)
  (result.toOption, w)

end EntityMapper.Scenario

import EntityMapper.Scenario.Stage
import EntityMapper.Transaction.Basic

/-!
# Steps of a scenario

A scenario is a program that uses databases, as data: steps, some of which have steps of their own
inside a transaction, before a deadline, or beside the program.

## Main definitions

* `Place`: where a statement is run
* `Action σ`: what a step does by itself
* `Step σ`: the steps
* `Finding`: what a step that went well found
* `StepReport`: what is told about a step
-/

namespace EntityMapper.Scenario

open EntityMapper.Sql

/-- **Where a statement is run**: in a database, in the transaction around the step, in the current
one, or in one that has a name. -/
inductive Place where
  | database
  | body
  | ambient
  | named (s : String)
  deriving DecidableEq, Repr

/-- What is done with a statement. -/
inductive Work where
  | build
  | get
  | getAll
  | exec
  deriving DecidableEq, Repr

/-- **What a step does by itself.** A statement may have failed already when its rows were put
together. -/
inductive Action (σ : Type) where
  | statement (work : Work) (place : Place) (e : Entity) (stmt : Except Error Statement)
  | register (e : Entity) (options : List ModelOption)
  | model (e : Entity)
  | lookup (e : Entity) (name : String)
  | readField (e : Entity) (k : AccessorKind) (name : String) (start : List (String × Value))
      (modelOf : Entity)
  | writeRow (e : Entity) (k : AccessorKind) (columns : List String) (values : List Value)
      (start : List (String × Value)) (modelOf : Entity)
  | beginNamed (name : String) (options : TransactionOptions)
  | commit (place : Place)
  | rollback (place : Place)
  | isDone (place : Place)
  | describeTransaction (place : Place)
  | dropNamed (name : String)
  | currentTransaction
  | adjust (change : σ → σ)
  | sleep (d : Duration)
  | describeDatabase
  | settings
  | describeLog (l : QueryLog)
  | context (e : Entity) (q : Query)

/-- How a body of steps gets its transaction. -/
inductive Form where
  | own
  | ambient
  | block
  deriving DecidableEq, Repr

/-- **A step**, in a database given by its number. An error of a step that is caught does not end
the steps around it. -/
inductive Step (σ : Type) where
  | action (index : Nat) (caught : Bool) (a : Action σ)
  | transaction (index : Nat) (caught : Bool) (form : Form) (options : TransactionOptions)
      (body : List (Step σ)) (ending : Ending Unit)
  | cancelAfter (caught : Bool) (d : Duration) (steps : List (Step σ))
  | spawn (caught : Bool) (steps : List (Step σ))

/-- An error of the step does not end the steps around it. -/
def Step.caught {σ : Type} : Step σ → Bool
  | action _ c _ | transaction _ c .. | cancelAfter c .. | spawn c _ => c

/-- **What a step that went well found.** -/
inductive Finding where
  | word (s : String)
  | flag (b : Bool)
  | query (q : Query)
  | entity (e : Entity) (i : Instance)
  | entities (e : Entity) (is : List Instance)
  | exec (r : ExecResult)
  | model (m : Model) (cached : Option Bool)
  | fields (byField byColumn : Option Field)
  | value (v : Value)
  | written (e : Entity) (after : Instance) (result : Except Error Unit)
  | settings (s : Settings)
  | context (before after : String) (same : Bool)

/-- **What is told about a step**: what it found, what is told about the steps inside, and the
events since something was told last. A body of steps begins by telling of its transaction. -/
inductive StepReport where
  | entered (events : List Event) (ambient : Bool)
  | step (result : Ending Finding) (body : List StepReport) (events : List Event)

end EntityMapper.Scenario

import ExperimentControl.Lib.OrderedDict
import ExperimentControl.Python.Value

/-!
Sequences and their steps (`sequencer/ast.py`), as the parser builds them.
-/

namespace ExperimentControl.Sequencer
open Lib Python

abbrev Env := OrderedDict String Value

structure CallStep where
  device : String
  action : String
  params : Entries
  saveAs : Option String := none
  extract : Option Entries := none
  assign : Option Entries := none
  process : Option String := none
  deriving DecidableEq

structure SetStep where
  device : String
  name : String
  value : Value
  deriving DecidableEq

structure AdaptiveSpec where
  id : String
  controller : Entries
  space : Entries
  bind : List (String × String)
  state : Option Entries := none
  observe : Entries
  stopping : Option Entries := none
  constraints : Option (List Value) := none
  failOnTrialError : Bool := false
  deriving DecidableEq

/-- A missing `else` is the empty list: the runtime reads `else_steps or []`. -/
inductive Step where
  | call (step : CallStep) (disabled : Bool)
  | set (step : SetStep) (disabled : Bool)
  | sleep (seconds : Value) (disabled : Bool)
  | waitUntil (raw : Entries) (disabled : Bool)
  | for_ (bind : List (String × String)) (inExpr : Value) (body : List Step) (disabled : Bool)
  | repeat_ (times : Value) (body : List Step) (disabled : Bool)
  | if_ (condition : Value) (thenSteps elseSteps : List Step) (disabled : Bool)
  | while_ (condition : Value) (body : List Step) (disabled : Bool)
  | atomic (name : Option String) (body : List Step) (disabled : Bool)
  | pause (reason : Option String) (disabled : Bool)
  | parallel (body : List Step) (disabled : Bool)
  | try_ (body finallySteps : List Step) (disabled : Bool)
  | assign (values : Entries) (disabled : Bool)
  | setContext (streams : Value) (fields : Entries) (disabled : Bool)
  | use (sequenceId : String) (args : Option Entries) (disabled : Bool)
  | adaptive (spec : AdaptiveSpec) (body : List Step) (disabled : Bool)

def Step.disabled : Step → Bool
  | .call _ d | .set _ d | .sleep _ d | .waitUntil _ d | .for_ _ _ _ d | .repeat_ _ _ d
  | .if_ _ _ _ d | .while_ _ _ d | .atomic _ _ d | .pause _ d | .parallel _ d | .try_ _ _ d
  | .assign _ d | .setContext _ _ d | .use _ _ d | .adaptive _ _ d => d

def enabled (steps : List Step) : List Step := steps.filter (fun step => !step.disabled)

@[simp] theorem enabled_nil : enabled [] = [] := rfl

theorem enabled_cons (step : Step) (rest : List Step) :
    enabled (step :: rest) = if step.disabled then enabled rest else step :: enabled rest := by
  cases h : step.disabled <;> simp [enabled,h]

structure SequenceSpec where
  vars : Env
  steps : List Step

end ExperimentControl.Sequencer

import Mathlib.Data.List.Dedup
import ExperimentControl.Sequencer.Host

/-!
Parallel steps: how the branches are planned and how one branch runs
(`run_parallel_branch`), against the sequential handlers of the same steps.
-/

namespace ExperimentControl.Sequencer
open Lib Python Prog

variable {World : Type}

def parallelRepeatCount (host : Host World) (env : Env) (times : Value) : Except PyExc Nat :=
  let rendered := do
    let v ← (renderTemplates host.py times).result env.get?
    host.num.toInt v
  match rendered with
  | .error e =>
    if e.kind.isTypeOrValueError then
      .error ⟨.valueError,"parallel repeat.times must render to an integer"⟩
    else .error e
  | .ok n =>
    if n ≤ 0 then .error ⟨.valueError,"parallel repeat.times must be greater than zero"⟩
    else .ok n.toNat

def bodyOperations (branchKind : String) : Nat → List Step →
    Except PyExc (List ParallelBranchOperation)
  | _,[] => .ok []
  | i,child :: rest =>
    if child.disabled then bodyOperations branchKind (i+1) rest
    else match child with
      | .call step _ => do
        let operations ← bodyOperations branchKind (i+1) rest
        pure (⟨some i,.inl step⟩ :: operations)
      | .set step _ => do
        let operations ← bodyOperations branchKind (i+1) rest
        pure (⟨some i,.inr step⟩ :: operations)
      | _ => .error ⟨.valueError,"parallel " ++ branchKind ++
          " branches currently support only call and set steps"⟩

def parallelBranchOperations (host : Host World) (env : Env) :
    Step → Except PyExc (List ParallelBranchOperation)
  | .call step _ => .ok [⟨none,.inl step⟩]
  | .set step _ => .ok [⟨none,.inr step⟩]
  | .atomic _ body _ => bodyOperations "atomic" 0 body
  | .repeat_ times body _ => do
    let _ ← parallelRepeatCount host env times
    bodyOperations "repeat" 0 body
  | _ => .error ⟨.valueError,
      "parallel branches currently support only call, set, atomic, and repeat steps"⟩

def parallelStepOutputNames : CallStep ⊕ SetStep → List String
  | .inr _ => []
  | .inl step =>
    (given step.saveAs).toList ++
      (if (givenEntries step.extract).isSome then [(given step.saveAs).getD "value"] else []) ++
      (givenEntries step.assign).elim [] (List.map Prod.fst)

inductive TargetKind where
  | device | process
  deriving DecidableEq

abbrev Target := TargetKind × String

def targetLabel : Target → String
  | (.device,_) => "device"
  | (.process,_) => "process"

/-- The target of an operation, rendered in `env`. -/
def operationTarget (py : Primitives) (env : Env) (branchPath : String) :
    CallStep ⊕ SetStep → Except PyExc Target
  | .inr step => do
    let device ← (renderTemplates py (.str step.device)).result env.get?
    let device := targetText py device
    if device = "" then .error ⟨.valueError,branchPath ++ ": set.device rendered empty"⟩
    else pure (.device,device)
  | .inl step => do
    let device ← (renderTemplates py (.str step.device)).result env.get?
    let process ← (renderTemplates py (.str (step.process.getD ""))).result env.get?
    let device := targetText py device
    let process := targetText py process
    if device ≠ "" && process ≠ "" then
      .error ⟨.valueError,branchPath ++ ": call may set only one of device / process"⟩
    else if device = "" && process = "" then
      .error ⟨.valueError,branchPath ++ ": call target rendered empty"⟩
    else if process ≠ "" then pure (.process,process)
    else pure (.device,device)

def operationTargets (py : Primitives) (env : Env) (branchPath : String) :
    List ParallelBranchOperation → Except PyExc (List Target)
  | [] => .ok []
  | operation :: rest => do
    let target ← operationTarget py env branchPath operation.step
    let targets ← operationTargets py env branchPath rest
    pure (target :: targets)

/-- Take `keys` for a branch, unless another branch owns one of them. -/
def claimAll {κ : Type} [DecidableEq κ] (refusal : κ → Nat → String) (branch : Nat) :
    List κ → List (κ × Nat) → Except PyExc (List (κ × Nat))
  | [],owners => .ok owners
  | key :: rest,owners =>
    match owners.find? (fun o => o.1 = key) with
    | some (_,owner) => .error ⟨.valueError,refusal key owner⟩
    | none => claimAll refusal branch rest (owners ++ [(key,branch)])

def targetRefusal (host : Host World) (branch : Nat) (target : Target) (owner : Nat) : String :=
  "parallel branches " ++ toString owner ++ " and " ++ toString branch ++ " both target " ++
    targetLabel target ++ " " ++ host.py.repr (.str target.2)

def outputRefusal (host : Host World) (branch : Nat) (name : String) (owner : Nat) : String :=
  "parallel branches " ++ toString owner ++ " and " ++ toString branch ++
    " both write output " ++ host.py.repr (.str name)

def branchRepeatCount (host : Host World) (env : Env) : Step → Except PyExc (Option Nat)
  | .repeat_ times _ _ => do
    let n ← parallelRepeatCount host env times
    pure (some n)
  | _ => .ok none

def isAtomic : Step → Bool
  | .atomic _ _ _ => true
  | _ => false

/-- The loop of `_execute_parallel_step` over the branches. A branch's targets and
outputs are sets: each is claimed once. -/
def parallelPlans (host : Host World) (env : Env) (parentPath : String) :
    Nat → List Step → List (Target × Nat) → List (String × Nat) →
      Except PyExc (List ParallelBranchPlan)
  | _,[],_,_ => .ok []
  | i,branch :: rest,targetOwners,outputOwners =>
    if branch.disabled then parallelPlans host env parentPath (i+1) rest targetOwners outputOwners
    else do
      let operations ← parallelBranchOperations host env branch
      let path := parentPath ++ ".parallel.do[" ++ toString i ++ "]"
      let targets ← operationTargets host.py env path operations
      let targetOwners ← claimAll (targetRefusal host i) i targets.dedup targetOwners
      let outputs := operations.flatMap fun o => parallelStepOutputNames o.step
      let outputOwners ← claimAll (outputRefusal host i) i outputs.dedup outputOwners
      let repeatCount ← branchRepeatCount host env branch
      let plans ← parallelPlans host env parentPath (i+1) rest targetOwners outputOwners
      pure (⟨i,operations,env,path,isAtomic branch,repeatCount⟩ :: plans)

structure BranchCalls (World : Type) where
  callDevice : String → String → Value → Callback World Reply
  callProcess : Option (String → String → Value → Callback World Reply)

structure BranchState (World : Type) where
  world : World
  env : Env
  outputs : Env

abbrev B (World α : Type) := Prog (BranchState World) PyExc α

def branchAsk (f : Callback World Reply) : B World Reply :=
  ofFun fun b => ((f b.world).1,{ b with world := (f b.world).2 })

def branchRender (py : Primitives) (v : Value) : B World Value :=
  ofFun fun b => ((renderTemplates py v).result b.env.get?,b)

def branchExcept (r : Except PyExc Value) : B World Value := ofFun fun b => (r,b)

def branchWrite (name : String) (v : Value) : B World Unit :=
  Prog.modify fun b => { b with env := b.env.set name v, outputs := b.outputs.set name v }

def branchSet (py : Primitives) (calls : BranchCalls World) (step : SetStep) : B World Unit := do
  let device ← branchRender py (.str step.device)
  let device := targetText py device
  if device = "" then Prog.raise ⟨.valueError,"set.device rendered empty"⟩
  else do
    let value ← branchRender py step.value
    let _ ← branchAsk (calls.callDevice device "set"
      (.dict false [("name",.str step.name),("value",value)]))
    pure ()

def branchDispatch (calls : BranchCalls World) (device process action : String) (params : Value) :
    B World Reply :=
  if process ≠ "" then
    match calls.callProcess with
    | none => Prog.raise ⟨.runtimeError,"process calls not supported"⟩
    | some callProcess => branchAsk (callProcess process action params)
  else branchAsk (calls.callDevice device action params)

def orElseValue (a b : Value) : Value := if a.truthy then a else b

def branchErrorText (py : Primitives) (reply : Reply) : String :=
  let error := getD reply "error" .none
  let error := match error with
    | .dict _ entries =>
      orElseValue (orElseValue (getD entries "message" .none) (getD entries "code" .none)) error
    | v => v
  (orElseValue error (.str "request failed")).text py.repr

def branchAssign (py : Primitives) (result : Value) : Entries → B World Unit
  | [] => pure ()
  | (key,.dict _ spec) :: rest => do
    let value ← branchExcept (extractValue py result (getD spec "kind" (.str "scalar"))
      (getD spec "ref" .none))
    branchWrite key value
    branchAssign py result rest
  | _ :: rest => branchAssign py result rest

def branchSave (step : CallStep) (reply : Reply) : B World Unit :=
  match given step.saveAs with
  | some name => branchWrite name (.dict false reply)
  | none => pure ()

def branchRecord (py : Primitives) (step : CallStep) (reply : Reply) : B World Unit :=
  let result := getD reply "result" .none
  match givenEntries step.extract,givenEntries step.assign with
  | some _,some _ => Prog.raise ⟨.valueError,"extract and assign are mutually exclusive"⟩
  | some spec,none => do
    branchSave step reply
    let value ← branchExcept (extractValue py result (getD spec "kind" (.str "scalar"))
      (getD spec "ref" .none))
    branchWrite ((given step.saveAs).getD "value") value
  | none,some assign => do
    branchSave step reply
    branchAssign py result assign
  | none,none => branchSave step reply

def branchCall (py : Primitives) (calls : BranchCalls World) (step : CallStep) : B World Unit := do
  let device ← branchRender py (.str step.device)
  let process ← branchRender py (.str (step.process.getD ""))
  let action ← branchRender py (.str step.action)
  let device := targetText py device
  let process := targetText py process
  let action := targetText py action
  if device ≠ "" && process ≠ "" then
    Prog.raise ⟨.valueError,"call may set only one of device / process"⟩
  else if (device = "" && process = "") || action = "" then
    Prog.raise ⟨.valueError,"call target rendered empty device/process or action"⟩
  else do
    let params ← branchRender py (.dict false step.params)
    let reply ← branchDispatch calls device process action params
    if replyOk reply then branchRecord py step reply
    else Prog.raise ⟨.runtimeError,branchErrorText py reply⟩

def runOperation (py : Primitives) (calls : BranchCalls World) :
    CallStep ⊕ SetStep → B World Unit
  | .inl step => branchCall py calls step
  | .inr step => branchSet py calls step

def operationPath (plan : ParallelBranchPlan) (round : Nat) (operation : ParallelBranchOperation) :
    String :=
  let at_ := operation.sourceIndex.elim "None" toString
  match plan.repeatCount with
  | some n => plan.path ++ ".repeat.do[" ++ at_ ++ "] (iteration " ++ toString (round+1) ++ "/" ++
      toString n ++ ")"
  | none => if plan.atomic then plan.path ++ ".atomic.do[" ++ at_ ++ "]" else plan.path

def schedule (plan : ParallelBranchPlan) : List (String × (CallStep ⊕ SetStep)) :=
  let count := match plan.repeatCount with
    | some 0 | none => 1
    | some n => n
  (List.range count).flatMap fun round =>
    plan.operations.map fun operation => (operationPath plan round operation,operation.step)

def runOperations (py : Primitives) (calls : BranchCalls World) (index : Nat) :
    List (String × (CallStep ⊕ SetStep)) → B World ParallelBranchResult
  | [] => do
    let b ← Prog.get
    pure ⟨index,true,b.outputs,none,none⟩
  | (path,step) :: rest => do
    let r ← attempt (runOperation py calls step)
    match r with
    | .error e => pure ⟨index,false,.empty,some e.message,some path⟩
    | .ok () => runOperations py calls index rest

def runParallelBranch (py : Primitives) (calls : BranchCalls World) (plan : ParallelBranchPlan) :
    B World ParallelBranchResult :=
  runOperations py calls plan.index (schedule plan)

def branchStart (plan : ParallelBranchPlan) (w : World) : BranchState World := ⟨w,plan.env,.empty⟩

end ExperimentControl.Sequencer

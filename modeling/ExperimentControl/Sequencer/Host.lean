import ExperimentControl.Lib.Prog
import ExperimentControl.Sequencer.Eval

/-!
What the runtime asks the rest of the system for, and the data it works on beside
its control state: the environment, the pending waits, the analysis outputs and the
adaptive studies. `World` stands for everything outside the process, so that a
callback may answer differently each time.
-/

namespace ExperimentControl.Sequencer
open Lib Python Prog

/-- A Python float, as its bit pattern. -/
abbrev F64 := UInt64

abbrev Reply := Entries

abbrev Callback (World α : Type) := World → Except PyExc α × World

structure Numeric where
  toFloat : Value → Except PyExc F64
  toInt : Value → Except PyExc Int
  add : F64 → F64 → F64
  sub : F64 → F64 → F64
  lt : F64 → F64 → Bool
  le : F64 → F64 → Bool
  /-- `index / denom` -/
  ratio : Nat → Nat → F64
  mean : List Value → Except PyExc Value
  minimum : List Value → Except PyExc Value
  maximum : List Value → Except PyExc Value

structure Proposal where
  paramsRaw : Entries
  params : Entries
  meta_ : Entries
  deriving DecidableEq

structure Trial where
  ok : Bool
  contextId : Int
  paramsRaw : Entries
  params : Entries
  proposalMeta : Entries
  state : Entries := []
  metrics : Entries := []
  replicates : List (String × List Value) := []
  aggregates : List (String × Entries) := []
  score : Value := .none
  error : Option Entries := none
  observeStartedMono : Option F64 := none
  deriving DecidableEq

structure WaitState where
  startT : F64
  timeoutS : F64
  everyS : F64
  nextSampleT : F64
  stableForS : F64
  condition : Value
  sampleSpec : Entries
  reduceSpec : Option Entries
  samples : List (F64 × Value)
  maxSamples : Nat
  stableSince : Option F64 := none
  lastValue : Value := .none
  lastAgeS : Option F64 := none
  telemetryLabel : Option String := none
  telemetryMaxAgeS : Option F64 := none
  lastCallError : Option String := none

structure Study where
  controllerKind : String
  space : Entries
  trials : List Trial
  lastMode : String

/-- `_AdaptiveFrame`. The controller is named by a handle. `trial` numbers the body runs
of all adaptive steps; the runtime never reads it. -/
structure AdaptiveFrame where
  spec : AdaptiveSpec
  body : List Step
  controller : Nat
  renderedController : Entries
  renderedSpace : Entries
  startedT : F64
  proposal : Option Proposal := none
  trialsCompleted : Nat := 0
  bestScore : Option F64 := none
  noImproveTrials : Nat := 0
  trial : Option Nat := none

structure ObserveState where
  frame : AdaptiveFrame
  proposal : Proposal
  trial : Trial
  repeats : Int
  metricsSpec : Entries
  currentRepeat : Int
  startedT : F64
  nextCheckT : Option F64 := none

structure ParallelBranchOperation where
  sourceIndex : Option Nat
  step : CallStep ⊕ SetStep

structure ParallelBranchPlan where
  index : Nat
  operations : List ParallelBranchOperation
  env : Env
  path : String
  atomic : Bool := false
  repeatCount : Option Nat := none

structure ParallelBranchResult where
  index : Nat
  ok : Bool
  outputs : Env
  error : Option String := none
  path : Option String := none

/-- The callbacks of `SequencerRuntime.__init__`, the adaptive controllers and the
clock. `begin*` may answer with no dispatch object. -/
structure Host (World : Type) where
  py : Primitives
  num : Numeric
  monotonic : World → F64 × World
  callDevice : String → String → Value → Callback World Reply
  callProcess : Option (String → String → Value → Callback World Reply)
  getTelemetry : String → String → Callback World (Option Reply)
  getProcessTelemetry : Option (String → String → Callback World (Option Reply))
  setStreamContext : String → String → Int → Entries → Callback World Unit
  expectStreams : Option (List (String × String) → Int → Callback World Unit)
  setContextDispatch :
    Option ((List (String × String) → Int → Entries → Callback World (Option Nat)) ×
      (Nat → F64 → Callback World (Bool × Option String)))
  parallelDispatch :
    Option ((List ParallelBranchPlan → Callback World (Option Nat)) ×
      (Nat → Callback World (Option (List ParallelBranchResult))))
  cancel : Nat → World → World
  resolveUse : Option (String → Callback World SequenceSpec)
  createController : Value → Value → Int → Callback World Nat
  suggest : Nat → Callback World Value
  tell : Nat → Proposal → Trial → Callback World Unit
  shouldStop : Nat → Option (Callback World Bool)
  generateFromGen : Entries → Env → Option Int → Callback World (List Entries)
  coerceAdaptiveParam : String → Entries → Value → Except PyExc Value
  buildAdaptiveAggregates : List Value → Except PyExc Entries
  waitTimeoutMessage : WaitState → String
  sourcePath : Step → Option String

def Primitives.names : Primitives where
  repr v := match v with
    | .str s => s
    | _ => ""
  parse s := .ok (.name s)
  unary _ _ := .error ⟨.typeError,"bad operand type"⟩
  binary _ _ _ := .error ⟨.typeError,"unsupported operand type(s)"⟩
  compare op a b := match op with
    | .eq => .ok (a = b)
    | .notEq => .ok (a ≠ b)
    | _ => .error ⟨.typeError,"not supported between instances"⟩
  builtin _ _ := .error ⟨.typeError,"bad operand type"⟩
  getattr _ _ := none

/-- Integers, and floats that are only compared: the order of two non-negative floats
is the order of their bits. -/
def Numeric.bits : Numeric where
  toFloat v := match v with
    | .float x => .ok x
    | _ => .error ⟨.typeError,"must be a real number"⟩
  toInt v := match v with
    | .int n => .ok n
    | _ => .error ⟨.typeError,"must be an integer"⟩
  add a b := if b = 0 then a else b
  sub a b := if a = b then 0 else a
  lt a b := a < b
  le a b := a ≤ b
  ratio _ _ := 0
  mean _ := .error ⟨.typeError,"must be a real number"⟩
  minimum _ := .error ⟨.typeError,"must be a real number"⟩
  maximum _ := .error ⟨.typeError,"must be a real number"⟩

/-- A host with a stopped clock, whose devices accept every request and on which
nothing else is configured. -/
def Host.quiet : Host Unit where
  py := .names
  num := .bits
  monotonic w := (0,w)
  callDevice _ _ _ w := (.ok [("ok",.bool true)],w)
  callProcess := none
  getTelemetry _ _ w := (.ok none,w)
  getProcessTelemetry := none
  setStreamContext _ _ _ _ w := (.ok (),w)
  expectStreams := none
  setContextDispatch := none
  parallelDispatch := none
  cancel _ w := w
  resolveUse := none
  createController _ _ _ w := (.ok 0,w)
  suggest _ w := (.error ⟨.other,"no suggestion"⟩,w)
  tell _ _ _ w := (.ok (),w)
  shouldStop _ := none
  generateFromGen _ _ _ w := (.error ⟨.valueError,"unsupported gen"⟩,w)
  coerceAdaptiveParam _ _ v := .ok v
  buildAdaptiveAggregates _ := .ok []
  waitTimeoutMessage _ := "wait_until timed out"
  sourcePath _ := none

structure Data (World : Type) where
  world : World
  env : Env
  contextId : Int
  runId : Nat
  sleepUntil : Option F64
  waitState : Option WaitState
  setContextState : Option Nat
  parallelState : Option Nat
  parallelPendingFailure : Option String
  adaptiveObserveState : Option ObserveState
  analysisOutputs : List Entries
  adaptiveStudies : OrderedDict String Study
  adaptiveStartModes : OrderedDict String String

def Data.new {World : Type} (w : World) : Data World :=
  ⟨w,.empty,-1,0,none,none,none,none,none,none,[],.empty,.empty⟩

abbrev D (World α : Type) := Prog (Data World) PyExc α

variable {World α : Type}

def ask (f : Callback World α) : D World α :=
  ofFun fun d => ((f d.world).1,{ d with world := (f d.world).2 })

def now (host : Host World) : D World F64 :=
  ofFun fun d =>
    (.ok (host.monotonic d.world).1,{ d with world := (host.monotonic d.world).2 })

def except (r : Except PyExc α) : D World α := ofFun fun d => (r,d)

def envView (vars : Env) : D World Env :=
  ofFun fun d => (.ok (buildEnvView d.env vars),d)

def renderIn (host : Host World) (view : Env) (v : Value) : D World Value :=
  except ((renderTemplates host.py v).result view.get?)

/-- `render_templates(v, self._env_view())` -/
def render (host : Host World) (vars : Env) (v : Value) : D World Value := do
  let view ← envView vars
  renderIn host view v

def bindName (name : String) (v : Value) : D World Unit :=
  Prog.modify fun d => { d with env := d.env.set name v }

/-- `str(value or "").strip()` -/
def targetText (py : Primitives) (v : Value) : String :=
  if v.truthy then strip (v.text py.repr) else ""

def given : Option String → Option String
  | some "" => none
  | s => s

def givenEntries : Option Entries → Option Entries
  | some [] => none
  | e => e

def indexed {β : Type} (items : List β) (n : Int) : Option β :=
  if 0 ≤ n then items[n.toNat]?
  else if 0 ≤ n+items.length then items[(n+items.length).toNat]?
  else none

def asIndex : Value → Option Int
  | .int n => some n
  | .bool b => some (if b then 1 else 0)
  | _ => none

/-- `value[ref]` -/
def subscript (v ref : Value) : Except PyExc Value :=
  match v with
  | .dict _ entries =>
    match ref with
    | .str key =>
      match item? entries key with
      | some item => .ok item
      | none => .error ⟨.keyError,key⟩
    | .list _ | .dict _ _ => .error ⟨.typeError,"unhashable type"⟩
    | _ => .error ⟨.keyError,"key"⟩
  | .list items =>
    match asIndex ref with
    | some n => (indexed items n).elim (.error ⟨.indexError,"list index out of range"⟩) .ok
    | none => .error ⟨.typeError,"list indices must be integers or slices"⟩
  | .str s =>
    match asIndex ref with
    | some n => (indexed s.toList n).elim (.error ⟨.indexError,"string index out of range"⟩)
        (fun c => .ok (.str (String.singleton c)))
    | none => .error ⟨.typeError,"string indices must be integers"⟩
  | _ => .error ⟨.typeError,"object is not subscriptable"⟩

def extractValue (py : Primitives) (value : Value) (kind ref : Value) : Except PyExc Value :=
  if kind = .str "scalar" then .ok value
  else if ref = .none then
    .error ⟨.valueError,"Extractor kind " ++ py.repr kind ++ " requires ref"⟩
  else if kind = .str "index" then subscript value ref
  else if kind = .str "key" then subscript value ref
  else if kind = .str "attr" then
    match ref with
    | .str name =>
      match py.getattr value name with
      | some v => .ok v
      | none => .error ⟨.attributeError,name⟩
    | _ => .error ⟨.typeError,"attr extractor requires str ref"⟩
  else .error ⟨.valueError,"Unknown extractor kind " ++ py.repr kind⟩

def typeLabel : Value → String
  | .none => "None"
  | .bool _ => "bool"
  | .int _ => "int"
  | .float _ => "float"
  | .str _ => "str"
  | .list _ => "list"
  | .dict false _ => "dict"
  | .dict true _ => "AttrDict"

def article (v : Value) : String :=
  match v with
  | .none => "None"
  | v => "a " ++ typeLabel v

def keysText : Entries → String
  | [] => "(none)"
  | entries => String.intercalate ", " (entries.map Prod.fst)

def itemCount : Value → Nat
  | .list items => items.length
  | .str s => s.length
  | _ => 0

def extractFromResult (py : Primitives) (result : Value) (spec : Entries) (label : String) :
    Except PyExc Value :=
  let kind := getD spec "kind" (.str "scalar")
  let ref := getD spec "ref" .none
  if kind = .str "scalar" then .ok result
  else if kind = .str "key" then
    match result with
    | .dict _ entries =>
      match ref with
      | .list _ | .dict _ _ => .error ⟨.typeError,"unhashable type"⟩
      | .str key =>
        match item? entries key with
        | some item => .ok item
        | none => .error ⟨.valueError,label ++ ": result has no key " ++ py.repr ref ++
            " (keys: " ++ keysText entries ++ ")"⟩
      | _ => .error ⟨.valueError,label ++ ": result has no key " ++ py.repr ref ++
            " (keys: " ++ keysText entries ++ ")"⟩
    | _ => .error ⟨.valueError,label ++ ": call result is " ++ article result ++
        ", not a mapping with key " ++ py.repr ref⟩
  else if kind = .str "index" then
    match result with
    | .list _ | .str _ =>
      match subscript result ref with
      | .ok v => .ok v
      | .error _ => .error ⟨.valueError,label ++ ": cannot take index " ++ py.repr ref ++
          " of a result with " ++ toString (itemCount result) ++ " items"⟩
    | _ => .error ⟨.valueError,label ++ ": call result is " ++ article result ++
        ", not a list with index " ++ py.repr ref⟩
  else if kind = .str "attr" then
    match ref with
    | .str name =>
      match py.getattr result name with
      | some v => .ok v
      | none => .error ⟨.valueError,label ++ ": call result (" ++ typeLabel result ++
          ") has no attribute " ++ py.repr ref⟩
    | _ => .error ⟨.valueError,label ++ ": call result (" ++ typeLabel result ++
        ") has no attribute " ++ py.repr ref⟩
  else .error ⟨.valueError,label ++ ": unknown extractor kind " ++ py.repr kind⟩

def replyOk (reply : Reply) : Bool := (getD reply "ok" (.bool false)).truthy

def responseErrorText (py : Primitives) (reply : Reply) (target : Option String) : String :=
  let error := getD reply "error" .none
  let plain := if error.truthy then error.text py.repr else "request failed"
  match error with
  | .dict _ entries =>
    let code := getD entries "code" .none
    let who := match given target with
      | some t => "process " ++ py.repr (.str t)
      | none => "the process"
    let message :=
      if (getD entries "message" .none).truthy then getD entries "message" .none
      else if code = .str "unknown_process" then
        .str (who ++ " is not registered with the manager")
      else if code = .str "process_not_running" then .str (who ++ " is not running")
      else getD entries "message" .none
    if message.truthy && code.truthy then
      message.text py.repr ++ " (" ++ code.text py.repr ++ ")"
    else if message.truthy then message.text py.repr
    else if code.truthy then code.text py.repr
    else plain
  | _ => plain

def dispatchCall (host : Host World) (device : String) (process : Option String)
    (action : String) (params : Value) : D World Reply :=
  match process with
  | some p =>
    match host.callProcess with
    | none => pure [("ok",.bool false),
        ("error",.str "process calls not supported (call_process not wired)")]
    | some callProcess => ask (callProcess p action params)
  | none => ask (host.callDevice device action params)

def dispatchGetTelemetry (host : Host World) (device : String) (process : Option String)
    (signal : String) : D World (Option Reply) :=
  match process with
  | some p =>
    match host.getProcessTelemetry with
    | none => pure none
    | some getProcessTelemetry => ask (getProcessTelemetry p signal)
  | none => ask (host.getTelemetry device signal)

def renderCallTarget (host : Host World) (vars : Env) (device process action : Value) :
    D World (String × Option String × String) := do
  let view ← envView vars
  let device ← renderIn host view device
  let process ← renderIn host view process
  let action ← renderIn host view action
  let device := targetText host.py device
  let process := targetText host.py process
  let action := targetText host.py action
  if device ≠ "" && process ≠ "" then
    Prog.raise ⟨.valueError,"call may set only one of device / process after rendering"⟩
  else if (device = "" && process = "") || action = "" then
    Prog.raise ⟨.valueError,"call target rendered empty device/process or action"⟩
  else pure (device,given (some process),action)

/-- `_execute_set_step`; an answer is the message the step fails with. -/
def executeSetStep (host : Host World) (vars : Env) (step : SetStep) : D World (Option String) := do
  let device ← render host vars (.str step.device)
  let device := targetText host.py device
  if device = "" then pure (some "set.device rendered empty")
  else do
    let value ← render host vars step.value
    let reply ← ask (host.callDevice device "set"
      (.dict false [("name",.str step.name),("value",value)]))
    if replyOk reply then pure none else pure (some (responseErrorText host.py reply none))

def assignResults (host : Host World) (result : Value) : Entries → D World Unit
  | [] => pure ()
  | (key,.dict _ spec) :: rest => do
    let value ← except (extractFromResult host.py result spec ("assign " ++ key))
    bindName key value
    assignResults host result rest
  | _ :: rest => assignResults host result rest

def saveReply (step : CallStep) (reply : Reply) : D World Unit :=
  match given step.saveAs with
  | some name => bindName name (.dict false reply)
  | none => pure ()

/-- What `_execute_call_step` does with a good reply. -/
def recordReply (host : Host World) (step : CallStep) (reply : Reply) :
    D World (Option String) := do
  let result := getD reply "result" .none
  saveReply step reply
  match givenEntries step.extract,givenEntries step.assign with
  | some _,some _ => pure (some "extract and assign are mutually exclusive")
  | some spec,none => do
    let target := (given step.saveAs).getD "value"
    let value ← except (extractFromResult host.py result spec ("extract " ++ target))
    bindName target value
    pure none
  | none,some assign => do
    assignResults host result assign
    pure none
  | none,none => pure none

def executeCallStep (host : Host World) (vars : Env) (step : CallStep) :
    D World (Option String) := do
  let (device,process,action) ← renderCallTarget host vars (.str step.device)
    (.str (step.process.getD "")) (.str step.action)
  let params ← render host vars (.dict false step.params)
  let reply ← dispatchCall host device process action params
  if replyOk reply then recordReply host step reply
  else pure (some (responseErrorText host.py reply (some (process.getD device))))

end ExperimentControl.Sequencer

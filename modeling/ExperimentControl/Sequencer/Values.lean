import ExperimentControl.Sequencer.Host

/-!
Values sampled while a sequence runs: telemetry and calls inside values, conditions,
`wait_until`, loop records, stream contexts and the vars of a used sequence.
-/

namespace ExperimentControl.Sequencer
open Lib Python

variable {World : Type}

/-- `max(0.0, x)` -/
def atLeastZero (num : Numeric) (x : F64) : F64 := if num.lt 0 x then x else 0

/-- `isinstance(value, (str, bytes, bytearray, int, float))` -/
def isNumberLike : Value → Bool
  | .str _ | .int _ | .float _ | .bool _ => true
  | _ => false

/-- `float(value)` where a `TypeError` or `ValueError` is passed over. -/
def floatOrSkip (host : Host World) (v : Value) : D World (Option F64) :=
  match host.num.toFloat v with
  | .ok x => pure (some x)
  | .error e => if e.kind.isTypeOrValueError then pure none else Prog.raise e

def ageField (host : Host World) (sample : Reply) : D World (Option F64) :=
  let raw := getD sample "age_s" .none
  if isNumberLike raw then do
    let age ← floatOrSkip host raw
    pure (age.map (atLeastZero host.num))
  else pure none

def sinceField (host : Host World) (sample : Reply) (key : String) : D World (Option F64) :=
  let raw := getD sample key .none
  if isNumberLike raw then do
    let t ← now host
    let at_ ← floatOrSkip host raw
    pure (at_.map fun x => atLeastZero host.num (host.num.sub t x))
  else pure none

def telemetrySampleAge (host : Host World) (sample : Reply) : D World (Option F64) := do
  let age ← ageField host sample
  match age with
  | some a => pure (some a)
  | none => do
    let received ← sinceField host sample "t_mono_recv"
    match received with
    | some a => pure (some a)
    | none => sinceField host sample "t_mono"

/-- A telemetry value inside a value; `spec` is rendered. -/
def resolveTelemetry (host : Host World) (spec : Value) : D World Value :=
  match spec with
  | .dict _ entries =>
    let device := (getD entries "device" (.str "")).text host.py.repr
    let process := (getD entries "process" (.str "")).text host.py.repr
    let signal := (getD entries "signal" (.str "")).text host.py.repr
    if (device = "" && process = "") || signal = "" then pure .none
    else do
      let maxAge ← except (host.num.toFloat (match getD entries "max_age_s" (.int 0) with
        | .none => .int 0
        | raw => raw))
      let sample ← dispatchGetTelemetry host device (given (some process)) signal
      match sample with
      | none | some [] => pure .none
      | some sample => do
        let age ← telemetrySampleAge host sample
        let stale := (Value.float maxAge).truthy && age.elim true fun a => host.num.lt maxAge a
        if stale then pure .none else pure (getD sample "value" .none)
  | _ => pure .none

def permanentCodes : List String :=
  ["unknown_command","bad_parameters","command_not_allowed","invalid_params","unknown_device",
   "unknown_process","unknown_request"]

/-- `_CallFailed.permanent` -/
def callErrorPermanent : Value → Bool
  | .dict _ entries =>
    let isPermanent := fun v => match v with
      | Value.str code => permanentCodes.contains code
      | _ => false
    let detailed := match getD entries "details" .none with
      | .dict _ details => isPermanent (getD details "error_code" .none)
      | _ => false
    (getD entries "retryable" .none = .bool false) || isPermanent (getD entries "code" .none) ||
      detailed
  | _ => false

def mappingOrEmpty : Value → Entries
  | .dict _ entries => entries
  | _ => []

def resolveCall (host : Host World) (vars view : Env) (spec : Value) : D World Value :=
  match spec with
  | .dict _ entries => do
    let (device,process,action) ← renderCallTarget host vars (getD entries "device" (.str ""))
      (getD entries "process" (.str "")) (getD entries "action" (.str ""))
    let params ← renderIn host view (.dict false (mappingOrEmpty (getD entries "params" .none)))
    let reply ← dispatchCall host device process action params
    if replyOk reply then
      match getD entries "extract" .none with
      | .dict _ extract =>
        except (extractFromResult host.py (getD reply "result" .none) extract "extract")
      | _ => pure (getD reply "result" .none)
    else Prog.raise ⟨.callFailed (callErrorPermanent (getD reply "error" .none)),
      "call " ++ process.getD device ++ "." ++ action ++ " failed: " ++
        responseErrorText host.py reply process⟩
  | _ => pure .none

mutual
def resolveValue (host : Host World) (vars view : Env) : Value → D World Value
  | .dict _ entries =>
    match item? entries "telemetry" with
    | some raw => do
      let spec ← renderIn host view raw
      resolveTelemetry host spec
    | none =>
      match item? entries "call" with
      | some spec => resolveCall host vars view spec
      | none => do
        let out ← resolveEntries host vars view entries
        pure (.dict false out)
  | .list items => do
    let out ← resolveItems host vars view items
    pure (.list out)
  | v => renderIn host view v
def resolveEntries (host : Host World) (vars view : Env) : Entries → D World Entries
  | [] => pure []
  | (key,v) :: rest => do
    let v ← resolveValue host vars view v
    let out ← resolveEntries host vars view rest
    pure ((key,v) :: out)
def resolveItems (host : Host World) (vars view : Env) : List Value → D World (List Value)
  | [] => pure []
  | v :: rest => do
    let v ← resolveValue host vars view v
    let out ← resolveItems host vars view rest
    pure (v :: out)
end

def assignValues (host : Host World) (vars : Env) : Entries → D World Unit
  | [] => pure ()
  | (key,v) :: rest => do
    let view ← envView vars
    let value ← resolveValue host vars view v
    bindName key value
    assignValues host vars rest

def conditionHolds (host : Host World) (vars : Env) (cond : Value) : D World Bool := do
  let view ← envView vars
  let resolved ← resolveValue host vars view cond
  except ((evalCondition host.py resolved).result view.get?)

def conditionError (kind : String) (e : PyExc) : PyExc :=
  ⟨.valueError,kind ++ " condition could not be evaluated: " ++ e.message⟩

def noteCallError (message : String) : D World Unit :=
  Prog.modify fun d =>
    { d with waitState := d.waitState.map fun ws => { ws with lastCallError := some message } }

/-- `_eval_condition`: while polling, a missing value means "not yet". -/
def evalConditionLive (host : Host World) (vars : Env) (cond : Value) (kind : String)
    (polling : Bool) : D World Bool :=
  Prog.tryCatch (conditionHolds host vars cond) fun e =>
    if polling then
      match e.kind with
      | .callFailed true => Prog.raise (conditionError kind e)
      | .callFailed false => do
        noteCallError e.message
        pure false
      | .operandError true => pure false
      | _ =>
        if e.kind.isTemplateError then Prog.raise (conditionError kind e) else pure false
    else Prog.raise (conditionError kind e)

def asFloat (host : Host World) (v : Value) (what : String) : Except PyExc F64 :=
  match host.num.toFloat v with
  | .ok x => .ok x
  | .error e =>
    if e.kind.isTypeOrValueError then
      .error ⟨.valueError,what ++ ", got " ++ host.py.repr v⟩
    else .error e

def asInt (host : Host World) (v : Value) (what : String) : Except PyExc Int :=
  match host.num.toInt v with
  | .ok n => .ok n
  | .error e =>
    if e.kind.isTypeOrValueError then
      .error ⟨.valueError,what ++ ", got " ++ host.py.repr v⟩
    else .error e

def indexRecord (num : Numeric) (total i : Nat) (item : Value) : Entries :=
  let u : Value := .float (if 1 < total then num.ratio i (max 1 (total-1)) else 0)
  let setDefault := fun (key : String) (v : Value) (record : Entries) =>
    if (item? record key).isSome then record else setItem record key v
  match item with
  | .dict _ entries =>
    setDefault "u" u (setDefault "count" (.int total) (setDefault "index" (.int i) entries))
  | v => [("value",v),("index",.int i),("u",u),("count",.int total)]

def recordsFromIterable (num : Numeric) (items : List Value) : List Entries :=
  items.zipIdx.map fun (item,i) => indexRecord num items.length i item

def recordsFromRendered (host : Host World) (rendered : Value) (view : Env)
    (serpentineIndex : Option Int) : D World (List Entries) :=
  match rendered with
  | .dict attr entries =>
    match item? entries "gen" with
    | some (.dict _ gen) => ask (host.generateFromGen gen view serpentineIndex)
    | _ => pure (recordsFromIterable host.num [.dict attr entries])
  | .list items => pure (recordsFromIterable host.num items)
  | v => pure (recordsFromIterable host.num [v])

def serpentineIndex (host : Host World) (env : Env) : Except PyExc (Option Int) :=
  match env.get? "__loop_index" with
  | none | some .none => .ok none
  | some raw => do
    let n ← host.num.toInt raw
    pure (some n)

def resolveIterable (host : Host World) (vars : Env) (inExpr : Value) :
    D World (List Entries) := do
  let view ← envView vars
  let rendered ← renderIn host view inExpr
  let d ← Prog.get
  let index ← except (serpentineIndex host d.env)
  recordsFromRendered host rendered view index

def recordIndex (host : Host World) (record : Entries) (fallback : Nat) : Int :=
  match host.num.toInt (getD record "index" (.int fallback)) with
  | .ok n => n
  | .error _ => fallback

def bindFields (record : Entries) : List (String × String) → D World Unit
  | [] => pure ()
  | (source,name) :: rest =>
    match item? record source with
    | none => Prog.raise ⟨.keyError,"loop record is missing bound field " ++ source⟩
    | some v => do
      bindName name v
      bindFields record rest

def bindRecord (host : Host World) (bind : List (String × String)) (record : Entries)
    (index : Nat) : D World Unit := do
  bindFields record bind
  bindName "__loop_index" (.int (recordIndex host record index))

def minWaitEvery (num : Numeric) (floor x : F64) : F64 := if num.lt x floor then floor else x

def minWaitEveryS : F64 := 0x3F747AE147AE147B

/-- `0.1` -/
def defaultEveryS : F64 := 0x3FB999999999999A

def renderSeconds (host : Host World) (view : Env) (raw : Entries) (key : String)
    (default : Value) : D World F64 := do
  let rendered ← renderIn host view (match getD raw key default with
    | .none => default
    | v => v)
  except (asFloat host rendered ("wait_until." ++ key ++ " must be a number"))

def renderMapping (host : Host World) (view : Env) (v : Value) : D World (Option Entries) := do
  let rendered ← renderIn host view v
  match rendered with
  | .dict _ entries => pure (some entries)
  | _ => pure none

def maxSamplesOf (host : Host World) (view : Env) (reduceSpec : Option Entries) : Nat :=
  match reduceSpec.bind fun spec => item? spec "max_samples" with
  | none | some .none => 10000
  | some raw =>
    let n := do
      let v ← (renderTemplates host.py raw).result view.get?
      host.num.toInt v
    match n with
    | .ok n => (max 1 n).toNat
    | .error _ => 10000

def reduceSpecOf (host : Host World) (view : Env) (raw : Entries) : D World (Option Entries) :=
  match getD raw "reduce" .none with
  | .dict attr entries => renderMapping host view (.dict attr entries)
  | _ => pure none

def startWaitUntil (host : Host World) (vars : Env) (raw : Entries) : D World Unit := do
  let view ← envView vars
  let timeoutS ← renderSeconds host view raw "timeout_s" (.int 0)
  let everyS ← renderSeconds host view raw "every_s" (.float defaultEveryS)
  let stableForS ← renderSeconds host view raw "stable_for_s" (.int 0)
  let sampleSpec ← renderMapping host view (getD raw "sample" (.dict false []))
  let reduceSpec ← reduceSpecOf host view raw
  let t ← now host
  let ws : WaitState :=
    { startT := t
      timeoutS := timeoutS
      everyS := minWaitEvery host.num minWaitEveryS everyS
      nextSampleT := t
      stableForS := stableForS
      condition := getD raw "condition" .none
      sampleSpec := sampleSpec.getD []
      reduceSpec := reduceSpec
      samples := []
      maxSamples := maxSamplesOf host view reduceSpec }
  Prog.modify fun d => { d with waitState := some ws }

/-- How one poll of a pending step ended: still pending, finished, or failed. -/
inductive Poll where
  | pending
  | finished
  | failed (message : String)

def setWait (ws : Option WaitState) : D World Unit := Prog.modify fun d => { d with waitState := ws }

def noteSample (host : Host World) (ws : WaitState) : D World (WaitState × Option F64) :=
  match item? ws.sampleSpec "telemetry" with
  | some (.dict _ spec) =>
    let device := (getD spec "device" (.str "")).text host.py.repr
    let process := (getD spec "process" (.str "")).text host.py.repr
    let signal := (getD spec "signal" (.str "")).text host.py.repr
    if (device = "" && process = "") || signal = "" then pure (ws,none)
    else do
      let maxAgeRaw := getD spec "max_age_s" .none
      let maxAge ← (if maxAgeRaw.truthy then floatOrSkip host maxAgeRaw else pure none)
      let ws := { ws with
        telemetryLabel := some ((if device ≠ "" then device else process) ++ "." ++ signal)
        telemetryMaxAgeS := maxAge }
      let cached ← dispatchGetTelemetry host device (given (some process)) signal
      match cached with
      | none => pure (ws,none)
      | some sample => do
        let age ← telemetrySampleAge host sample
        let received := getD sample "t_mono_recv" .none
        let raw := if isNumberLike received then received else getD sample "t_mono" .none
        let stamp := if isNumberLike raw then (host.num.toFloat raw).toOption else none
        pure ({ ws with lastAgeS := age },stamp)
  | _ => pure (ws,none)

def addSample (t : F64) (sample : Value) (stamp : Option F64) (samples : List (F64 × Value)) :
    List (F64 × Value) :=
  match stamp with
  | none => samples ++ [(t,sample)]
  | some stamp =>
    if samples.getLast?.map Prod.fst = some stamp then samples else samples ++ [(stamp,sample)]

def windowOf (host : Host World) (t : F64) (reduceSpec : Option Entries)
    (samples : List (F64 × Value)) : Except PyExc (List (F64 × Value)) :=
  match givenEntries reduceSpec with
  | none => .ok samples
  | some spec => do
    let window ← host.num.toFloat (getD spec "window_s" (.int 0))
    if (Value.float window).truthy then
      pure (samples.filter fun s => host.num.le (host.num.sub t s.1) window)
    else pure samples

def reduceSamples (host : Host World) (reduceSpec : Option Entries) (sample : Value)
    (samples : List (F64 × Value)) : Except PyExc Value :=
  match givenEntries reduceSpec with
  | none => .ok sample
  | some spec =>
    match (samples.map Prod.snd).filter (fun v => v ≠ .none) with
    | [] => .ok sample
    | values =>
      let method := (getD spec "method" (.str "mean")).text host.py.repr
      if method = "mean" then host.num.mean values
      else if method = "min" then host.num.minimum values
      else if method = "max" then host.num.maximum values
      else .ok (values.getLastD .none)

/-- The last part of `_step_wait_until`: is the condition met for long enough? -/
def judgeWait (host : Host World) (t : F64) (ok : Bool) (ws : WaitState) : D World Poll :=
  let next := host.num.add t ws.everyS
  if ok then
    if (Value.float ws.stableForS).truthy then
      let since := ws.stableSince.getD t
      if host.num.le ws.stableForS (host.num.sub t since) then do
        setWait none
        pure .finished
      else do
        setWait (some { ws with stableSince := some since, nextSampleT := next })
        pure .pending
    else do
      setWait none
      pure .finished
  else do
    setWait (some { ws with stableSince := none, nextSampleT := next })
    pure .pending

/-- One sample of a `wait_until`, taken. -/
def takeSample (host : Host World) (vars : Env) (t : F64) (ws : WaitState) (sample : Value) :
    D World Poll := do
  let (ws,stamp) ← noteSample host
    { ws with lastCallError := none, lastValue := sample, lastAgeS := none }
  let samples := addSample t sample stamp ws.samples
  setWait (some { ws with samples := samples })
  let samples ← except (windowOf host t ws.reduceSpec samples)
  let samples := samples.drop (samples.length-ws.maxSamples)
  setWait (some { ws with samples := samples })
  let reduced ← except (reduceSamples host ws.reduceSpec sample samples)
  bindName "sample" sample
  bindName "samples" (.list (samples.map Prod.snd))
  bindName "sample_reduced" reduced
  let ok ← evalConditionLive host vars ws.condition "wait_until" true
  let d ← Prog.get
  judgeWait host t ok (d.waitState.getD ws)

/-- `_step_wait_until` after its check for stop and pause. -/
def stepWaitUntil (host : Host World) (vars : Env) (t : F64) (ws : WaitState) : D World Poll :=
  if (Value.float ws.timeoutS).truthy && host.num.lt ws.timeoutS (host.num.sub t ws.startT) then do
    setWait none
    pure (.failed (host.waitTimeoutMessage ws))
  else if host.num.lt t ws.nextSampleT then pure .pending
  else do
    let view ← envView vars
    let sample ← Prog.attempt (resolveValue host vars view (.dict false ws.sampleSpec))
    match sample with
    | .ok sample => takeSample host vars t ws sample
    | .error e =>
      match e.kind with
      | .callFailed true => do
        setWait none
        pure (.failed ("wait_until sample " ++ e.message))
      | .callFailed false => do
        setWait (some { ws with
          lastCallError := some e.message, nextSampleT := host.num.add t ws.everyS })
        pure .pending
      | _ => Prog.raise e

def splitOnce (sep : Char) (s : String) : Option (String × String) :=
  match s.toList.span (· ≠ sep) with
  | (before,_ :: after) => some (String.ofList before,String.ofList after)
  | _ => none

def streamOf (py : Primitives) : Value → Option (String × String)
  | .dict _ entries =>
    let device := (getD entries "device" (.str "")).text py.repr
    let stream := (getD entries "stream" (.str "")).text py.repr
    if device ≠ "" && stream ≠ "" then some (device,stream) else none
  | .str s => (splitOnce '.' s).orElse fun _ => splitOnce '/' s
  | _ => none

def normalizeStreams (py : Primitives) : Value → List (String × String)
  | .list items => items.filterMap (streamOf py)
  | _ => []

def setStreamContexts (host : Host World) (contextId : Int) (fields : Entries) :
    List (String × String) → D World Unit
  | [] => pure ()
  | (device,stream) :: rest => do
    ask (host.setStreamContext device stream contextId fields)
    setStreamContexts host contextId fields rest

def expectStreamsOf (host : Host World) (streams : List (String × String)) (contextId : Int) :
    D World Unit :=
  match streams,host.expectStreams with
  | _ :: _,some expect => ask (expect streams contextId)
  | _,_ => pure ()

def sequencerRunIdField : String := "sequencer_run_id"

/-- How a step that may go on over several ticks left its tick. -/
inductive Progress where
  | done
  | waiting
  | failed (message : String)

def executeSetContextStep (host : Host World) (vars : Env) (streams : Value) (fields : Entries) :
    D World Progress := do
  Prog.modify fun d => { d with contextId := d.contextId+1 }
  let rendered ← render host vars (.dict false fields)
  let d ← Prog.get
  let fields := setItem (mappingOrEmpty rendered) sequencerRunIdField (.int d.runId)
  let streams := normalizeStreams host.py streams
  match host.setContextDispatch with
  | some (begin,_) => do
    let state ← ask (begin streams d.contextId fields)
    Prog.modify fun d => { d with setContextState := state }
    pure .waiting
  | none => do
    let r ← Prog.attempt (do
      expectStreamsOf host streams d.contextId
      setStreamContexts host d.contextId fields streams)
    match r with
    | .ok () => pure .done
    | .error e => pure (.failed ("set_context failed: " ++ e.message))

def clearSetContext (host : Host World) (d : Data World) : Data World :=
  match d.setContextState with
  | none => d
  | some state => { d with setContextState := none, world := host.cancel state d.world }

def clearParallel (host : Host World) (d : Data World) : Data World :=
  match d.parallelState with
  | none => { d with parallelPendingFailure := none }
  | some state =>
    { d with parallelState := none, parallelPendingFailure := none, world := host.cancel state d.world }

/-- `_step_set_context` after its check for stop and pause. -/
def stepSetContext (host : Host World) (t : F64) (state : Nat) : D World Poll :=
  match host.setContextDispatch with
  | none => do
    Prog.modify (clearSetContext host)
    pure .finished
  | some (_,poll) => do
    let (finished,error) ← ask (poll state t)
    if finished then do
      Prog.modify (clearSetContext host)
      match error with
      | none => pure .finished
      | some message => pure (.failed ("set_context failed: " ++ message))
    else pure .pending

def resolveUseSpec (host : Host World) (sequenceId : String) : D World SequenceSpec :=
  let name := strip sequenceId
  if name = "" then Prog.raise ⟨.valueError,"use.id must not be empty"⟩
  else match host.resolveUse with
    | none => Prog.raise ⟨.runtimeError,"use step " ++ host.py.repr (.str name) ++
        " requires a configured sequence library"⟩
    | some resolve => ask (resolve name)

def mergedUseVars (host : Host World) (vars : Env) (spec : SequenceSpec) (args : Option Entries) :
    D World Env :=
  let merged := vars.update spec.vars
  match givenEntries args with
  | none => pure (resolveVars host.py merged)
  | some args => do
    let rendered ← render host vars (.dict false args)
    let merged := (mappingOrEmpty rendered).foldl (fun out e => out.set e.1 e.2) merged
    pure (resolveVars host.py merged)

end ExperimentControl.Sequencer

import ExperimentControl.Sequencer.Values

/-!
Adaptive steps: proposals, trials and the observation of their metrics.
-/

namespace ExperimentControl.Sequencer
open Lib Python Prog

variable {World : Type}

/-- `int(render_templates(raw, view))`, any failure being the given `TypeError`. -/
def renderIntOr (host : Host World) (vars : Env) (raw : Value) (message : String) : D World Int := do
  let r ← attempt (do
    let v ← render host vars raw
    except (host.num.toInt v))
  match r with
  | .ok n => pure n
  | .error _ => Prog.raise ⟨.typeError,message⟩

def renderFloatOr (host : Host World) (vars : Env) (raw : Value) (message : String) :
    D World F64 := do
  let r ← attempt (do
    let v ← render host vars raw
    except (host.num.toFloat v))
  match r with
  | .ok x => pure x
  | .error _ => Prog.raise ⟨.typeError,message⟩

def coercePositiveInt (host : Host World) (vars : Env) (raw : Value) (name : String) :
    D World Int := do
  let n ← renderIntOr host vars raw (name ++ " must be an integer")
  if n ≤ 0 then Prog.raise ⟨.valueError,name ++ " must be > 0"⟩ else pure n

def observeRepeats (host : Host World) (vars : Env) (observe : Entries) : D World Int :=
  coercePositiveInt host vars (getD observe "repeats" (.int 1)) "adaptive.observe.repeats"

def trialMatchesSpace (host : Host World) (trial : Trial) : Entries → Bool
  | [] => true
  | (name,.dict _ spec) :: rest =>
    match item? trial.params name with
    | none => false
    | some raw =>
      let paramType := (targetText host.py (getD spec "type" (.str ""))).toLower
      if paramType = "categorical" then
        match getD spec "choices" .none with
        | .list choices => choices.contains raw && trialMatchesSpace host trial rest
        | _ => false
      else if paramType ≠ "float" && paramType ≠ "int" then false
      else
        let low := getD spec "min" .none
        let high := getD spec "max" .none
        if isNumberLike raw && isNumberLike low && isNumberLike high then
          match host.num.toFloat raw,host.num.toFloat low,host.num.toFloat high with
          | .ok value,.ok lower,.ok upper =>
            !host.num.lt value lower && !host.num.lt upper value && !host.num.le upper lower &&
              trialMatchesSpace host trial rest
          | _,_,_ => false
        else false
  | _ :: _ => false

def sameKeys (a b : Entries) : Bool :=
  a.all (fun e => (item? b e.1).isSome) && b.all (fun e => (item? a e.1).isSome)

def selectReusableTrials (host : Host World) (study : Option Study) (controllerKind : String)
    (space : Entries) : List Trial :=
  match study with
  | none => []
  | some study =>
    if study.controllerKind ≠ controllerKind || !sameKeys study.space space then []
    else study.trials.filter fun trial => trial.ok && trialMatchesSpace host trial space

/-- `_replay_adaptive_trial`, over the trials of a resumed study. -/
def replayTrials (host : Host World) (controller : Nat) : List Trial → D World Nat
  | [] => pure 0
  | trial :: rest =>
    if trial.params.isEmpty then replayTrials host controller rest
    else do
      let raw := if trial.paramsRaw.isEmpty then trial.params else trial.paramsRaw
      let r ← attempt (ask (host.tell controller ⟨raw,trial.params,trial.proposalMeta⟩ trial))
      let n ← replayTrials host controller rest
      match r with
      | .ok () => pure (n+1)
      | .error _ => pure n

def startMode (d : Data World) (studyId : String) : String :=
  (d.adaptiveStartModes.get? studyId).getD "reset"

/-- `_prepare_adaptive_study`; the answer is the number of replayed trials. -/
def prepareAdaptiveStudy (host : Host World) (studyId : String) (controller : Nat)
    (renderedController renderedSpace : Entries) : D World Nat := do
  let d ← Prog.get
  let mode := startMode d studyId
  let kind := targetText host.py (getD renderedController "kind" (.str ""))
  let reusable := if mode = "resume" || mode = "warm_start" then
    selectReusableTrials host (d.adaptiveStudies.get? studyId) kind renderedSpace else []
  Prog.modify fun d => { d with
    adaptiveStudies := d.adaptiveStudies.set studyId ⟨kind,renderedSpace,reusable,mode⟩ }
  replayTrials host controller reusable

/-- `_execute_adaptive_step`: the frame to push, or the message it fails with. -/
def executeAdaptiveStep (host : Host World) (vars : Env) (spec : AdaptiveSpec)
    (body : List Step) : D World (Except String AdaptiveFrame) :=
  if (spec.constraints.getD []).isEmpty then do
    let controllerSpec ← render host vars (.dict false spec.controller)
    let space ← render host vars (.dict false spec.space)
    let repeats ← observeRepeats host vars spec.observe
    let controller ← ask (host.createController controllerSpec space repeats)
    let replayed ← prepareAdaptiveStudy host spec.id controller (mappingOrEmpty controllerSpec)
      (mappingOrEmpty space)
    let t ← now host
    let frame : AdaptiveFrame :=
      { spec := spec
        body := body
        controller := controller
        renderedController := mappingOrEmpty controllerSpec
        renderedSpace := mappingOrEmpty space
        startedT := t
        trialsCompleted := replayed }
    pure (.ok frame)
  else pure (.error "adaptive.constraints are not supported in v1")

def stopsAtTrials (host : Host World) (vars : Env) (frame : AdaptiveFrame) (stopping : Entries) :
    D World Bool :=
  match getD stopping "max_trials" .none with
  | .none => pure false
  | raw => do
    let limit ← renderIntOr host vars raw "adaptive.stopping.max_trials must be an integer"
    pure (0 ≤ limit && limit ≤ frame.trialsCompleted)

def stopsAtRuntime (host : Host World) (vars : Env) (frame : AdaptiveFrame) (stopping : Entries) :
    D World Bool :=
  match getD stopping "max_runtime_s" .none with
  | .none => pure false
  | raw => do
    let limit ← renderFloatOr host vars raw "adaptive.stopping.max_runtime_s must be a number"
    if host.num.le 0 limit then do
      let t ← now host
      pure (host.num.le limit (host.num.sub t frame.startedT))
    else pure false

def minimizes (host : Host World) (frame : AdaptiveFrame) : Bool :=
  (orText (getD frame.renderedController "direction" (.str "maximize"))) = "minimize"
where
  orText (v : Value) : String := if v.truthy then v.text host.py.repr else "maximize"

def stopsAtScore (host : Host World) (vars : Env) (frame : AdaptiveFrame) (stopping : Entries) :
    D World Bool :=
  match getD stopping "target_score" .none,frame.bestScore with
  | .none,_ | _,none => pure false
  | raw,some best => do
    let target ← renderFloatOr host vars raw "adaptive.stopping.target_score must be a number"
    pure (if minimizes host frame then host.num.le best target else host.num.le target best)

def stopsAtPatience (host : Host World) (vars : Env) (frame : AdaptiveFrame)
    (stopping : Entries) : D World Bool :=
  match getD stopping "patience" .none with
  | .none => pure false
  | raw => do
    let limit ← renderIntOr host vars raw "adaptive.stopping.patience must be an integer"
    pure (0 ≤ limit && limit ≤ frame.noImproveTrials)

def anyOf : List (D World Bool) → D World Bool
  | [] => pure false
  | x :: rest => do
    let b ← x
    if b then pure true else anyOf rest

def controllerStops (host : Host World) (controller : Nat) : D World Bool :=
  match host.shouldStop controller with
  | none => pure false
  | some stop => ask stop

/-- `_adaptive_should_stop`, then the controller's own `should_stop`. -/
def adaptiveShouldStop (host : Host World) (vars : Env) (frame : AdaptiveFrame) : D World Bool :=
  let stopping := frame.spec.stopping.getD []
  anyOf [stopsAtTrials host vars frame stopping,stopsAtRuntime host vars frame stopping,
    stopsAtScore host vars frame stopping,stopsAtPatience host vars frame stopping,
    controllerStops host frame.controller]

def applyAdaptiveSpace (host : Host World) (paramsRaw : Entries) : Entries → Except PyExc Entries
  | [] => .ok []
  | (name,.dict _ spec) :: rest =>
    match item? paramsRaw name with
    | none => .error ⟨.keyError,"adaptive controller proposal is missing parameter " ++
        host.py.repr (.str name)⟩
    | some raw => do
      let value ← host.coerceAdaptiveParam name spec raw
      let params ← applyAdaptiveSpace host paramsRaw rest
      pure ((name,value) :: params)
  | (name,_) :: _ => .error ⟨.typeError,"adaptive.space." ++ name ++ " must be a dict"⟩

def mappingField (raw : Entries) (key message : String) : Except PyExc Entries :=
  let v := getD raw key .none
  if v.truthy then
    match v with
    | .dict _ entries => .ok entries
    | _ => .error ⟨.typeError,message⟩
  else .ok []

def readProposal (host : Host World) (space : Entries) (raw : Value) : Except PyExc Proposal :=
  match raw with
  | .dict _ entries => do
    let paramsRaw ← mappingField entries "params_raw"
      "adaptive controller proposal must include params_raw"
    if paramsRaw.isEmpty then
      .error ⟨.typeError,"adaptive controller proposal must include params_raw"⟩
    else do
      let meta_ ← mappingField entries "meta" "adaptive controller proposal meta must be a dict"
      let params ← applyAdaptiveSpace host paramsRaw space
      pure ⟨paramsRaw,params,meta_⟩
  | _ => .error ⟨.typeError,"adaptive controller must return a dict proposal"⟩

def prepareAdaptiveProposal (host : Host World) (frame : AdaptiveFrame) : D World Proposal := do
  let raw ← ask (host.suggest frame.controller)
  except (readProposal host frame.renderedSpace raw)

def bindProposalFields (values : Entries) : List (String × String) → D World Unit
  | [] => pure ()
  | (source,target) :: rest =>
    match item? values source with
    | none => Prog.raise ⟨.keyError,"adaptive proposal is missing bound field " ++ source⟩
    | some v => do
      bindName target v
      bindProposalFields values rest

def bindAdaptiveProposal (spec : AdaptiveSpec) (proposal : Proposal) : D World Unit :=
  bindProposalFields (proposal.meta_.foldl (fun out e => setItem out e.1 e.2) proposal.params)
    spec.bind

/-- One turn of the loop of `_sample_adaptive_telemetry`. -/
def pollTelemetry (host : Host World) (device process signal : String)
    (timeoutS maxAgeS deadline : F64) : D World (Unit ⊕ Value) := do
  let sample ← dispatchGetTelemetry host device (given (some process)) signal
  let fresh ← freshValue sample
  match fresh with
  | some v => pure (.inr v)
  | none => do
    let t ← now host
    if host.num.le timeoutS 0 || host.num.le deadline t then
      Prog.raise ⟨.runtimeError,"adaptive telemetry source timed out for " ++
        (if process ≠ "" then process else device) ++ "." ++ signal⟩
    else pure (.inl ())
where
  freshValue (sample : Option Reply) : D World (Option Value) :=
    match sample with
    | none | some [] => pure none
    | some sample => do
      let age ← telemetrySampleAge host sample
      if !(Value.float maxAgeS).truthy || age.elim false (fun a => host.num.le a maxAgeS) then
        pure (some (getD sample "value" .none))
      else pure none

def orZero (v : Value) : Value := if v.truthy then v else .float 0

def sampleAdaptiveTelemetry (host : Host World) (config : Entries) : D World Value :=
  let device := targetText host.py (getD config "device" (.str ""))
  let process := targetText host.py (getD config "process" (.str ""))
  let signal := targetText host.py (getD config "signal" (.str ""))
  if (device = "" && process = "") || signal = "" then
    Prog.raise ⟨.valueError,"adaptive telemetry source requires device-or-process and signal"⟩
  else do
    let timeoutS ← except (host.num.toFloat (orZero (getD config "timeout_s" (.float 0))))
    let maxAgeS ← except (host.num.toFloat (orZero (getD config "max_age_s" (.float 0))))
    let t ← now host
    let deadline := host.num.add t (atLeastZero host.num timeoutS)
    Prog.iterate (fun _ => pollTelemetry host device process signal timeoutS maxAgeS deadline) ()

def sampleAdaptiveCall (host : Host World) (vars : Env) (config : Entries) : D World Value := do
  let (device,process,action) ← renderCallTarget host vars (getD config "device" (.str ""))
    (getD config "process" (.str "")) (getD config "action" (.str ""))
  let params ← except (mappingField config "params" "adaptive call source params must be a dict")
  let params ← render host vars (.dict false params)
  let reply ← dispatchCall host device process action params
  if replyOk reply then
    match getD config "extract" .none with
    | .dict _ extract => except (extractValue host.py (getD reply "result" .none)
        (getD extract "kind" (.str "scalar")) (getD extract "ref" .none))
    | _ => pure (getD reply "result" .none)
  else Prog.raise ⟨.runtimeError,
    (getD reply "error" (.str "adaptive call source failed")).text host.py.repr⟩

def sourceKind (host : Host World) (spec : Entries) : String :=
  targetText host.py (getD spec "kind" (.str ""))

def sampleAdaptiveSource (host : Host World) (vars : Env) (sourceSpec : Value) : D World Value :=
  match sourceSpec with
  | .dict _ spec => do
    let config ← except (mappingField spec "config" "adaptive source config must be a dict")
    let rendered ← render host vars (.dict false config)
    let rendered := mappingOrEmpty rendered
    let kind := sourceKind host spec
    if kind = "analysis_output" then
      Prog.raise ⟨.runtimeError,"adaptive analysis_output sources are asynchronous and must be " ++
        "sampled by the adaptive runtime"⟩
    else if kind = "telemetry" then sampleAdaptiveTelemetry host rendered
    else if kind = "call" then sampleAdaptiveCall host vars rendered
    else Prog.raise ⟨.valueError,"unsupported adaptive source kind " ++ host.py.repr (.str kind)⟩
  | _ => Prog.raise ⟨.typeError,"adaptive source specs must be dicts"⟩

/-- `_collect_adaptive_state`, and one round of `_collect_adaptive_metrics`. -/
def sampleSources (host : Host World) (vars : Env) : Entries → D World Entries
  | [] => pure []
  | (name,spec) :: rest => do
    let v ← sampleAdaptiveSource host vars spec
    let out ← sampleSources host vars rest
    pure ((name,v) :: out)

/-- `_finalize_adaptive_metrics_from_replicates` -/
def finalizeMetrics (host : Host World) :
    List (String × List Value) → Except PyExc (Entries × List (String × Entries))
  | [] => .ok ([],[])
  | (name,values) :: rest => do
    let stats ← host.buildAdaptiveAggregates values
    let (metrics,aggregates) ← finalizeMetrics host rest
    let metric := match item? stats "mean" with
      | some mean => mean
      | none => values.getLastD .none
    pure ((name,metric) :: metrics,(name,stats) :: aggregates)

def computeAdaptiveScore (host : Host World) (vars : Env) (observe metrics : Entries)
    (aggregates : List (String × Entries)) : D World Value := do
  let view ← envView vars
  let view := metrics.foldl (fun env e => env.set e.1 e.2) view
  let view := aggregates.foldl (fun env a =>
    a.2.foldl (fun env e => env.set (a.1 ++ "_" ++ e.1) e.2) env) view
  match getD observe "score" .none with
  | .none =>
    match metrics with
    | [(_,v)] => pure v
    | _ => pure .none
  | spec => renderIn host view spec

def appendReplicates (values : Entries) :
    List (String × List Value) → List (String × List Value)
  | [] => []
  | (name,bucket) :: rest =>
    (name,match item? values name with
      | some v => bucket ++ [v]
      | none => bucket) :: appendReplicates values rest

def sampleRounds (host : Host World) (vars : Env) (metricsSpec : Entries) :
    Nat → List (String × List Value) → D World (List (String × List Value))
  | 0,replicates => pure replicates
  | n+1,replicates => do
    let values ← sampleSources host vars metricsSpec
    sampleRounds host vars metricsSpec n (appendReplicates values replicates)

def emptyReplicates (metricsSpec : Entries) : List (String × List Value) :=
  metricsSpec.map fun e => (e.1,[])

/-- The `metrics` of an observe section, if they are a non-empty mapping. -/
def metricsOf (observe : Entries) : Option Entries :=
  match getD observe "metrics" .none with
  | .dict _ (e :: rest) => some (e :: rest)
  | _ => none

def newTrial (proposal : Proposal) (contextId : Int) : Trial :=
  { ok := true
    contextId := contextId
    paramsRaw := proposal.paramsRaw
    params := proposal.params
    proposalMeta := proposal.meta_ }

def failTrial (message : String) (trial : Trial) : Trial :=
  { trial with ok := false, error := some [("message",.str message)] }

/-- `_collect_adaptive_metrics`, up to the aggregates. -/
def collectReplicates (host : Host World) (vars : Env) (observe : Entries) :
    D World (List (String × List Value)) :=
  match metricsOf observe with
  | none => Prog.raise ⟨.typeError,"adaptive.observe.metrics must be a non-empty dict"⟩
  | some metricsSpec => do
    let repeats ← observeRepeats host vars observe
    sampleRounds host vars metricsSpec repeats.toNat (emptyReplicates metricsSpec)

/-- The score of a trial with its metrics; `refusal` is the message for a score that
is no number. -/
def scoreTrial (host : Host World) (vars : Env) (observe : Entries) (refusal : PyExc → String)
    (trial : Trial) : D World Trial := do
  let r ← attempt (computeAdaptiveScore host vars observe trial.metrics trial.aggregates)
  match r with
  | .error e => pure (failTrial e.message trial)
  | .ok score =>
    let trial := { trial with score := score }
    if score = .none then
      pure (failTrial "adaptive step requires a numeric score in v1" trial)
    else match host.num.toFloat score with
      | .error e => pure (failTrial (refusal e) trial)
      | .ok x => pure { trial with score := .float x }

def evaluateTrial (host : Host World) (vars : Env) (observe : Entries) (refusal : PyExc → String)
    (trial : Trial) (replicates : List (String × List Value)) : D World Trial :=
  match finalizeMetrics host replicates with
  | .error e => pure (failTrial e.message trial)
  | .ok (metrics,aggregates) => scoreTrial host vars observe refusal
      { trial with metrics := metrics, replicates := replicates, aggregates := aggregates }

/-- `_collect_adaptive_trial`. What was collected before a failure stays in the trial. -/
def collectAdaptiveTrial (host : Host World) (vars : Env) (spec : AdaptiveSpec)
    (proposal : Proposal) : D World Trial := do
  let d ← Prog.get
  let trial := newTrial proposal d.contextId
  let state ← attempt (sampleSources host vars (spec.state.getD []))
  match state with
  | .error e => pure (failTrial e.message trial)
  | .ok state => do
    let trial := { trial with state := state }
    let replicates ← attempt (collectReplicates host vars spec.observe)
    match replicates with
    | .error e => pure (failTrial e.message trial)
    | .ok replicates =>
      evaluateTrial host vars spec.observe (fun _ => "adaptive score must be numeric") trial
        replicates

def observeUsesAnalysis (host : Host World) (observe : Entries) : Bool :=
  match getD observe "metrics" .none with
  | .dict _ metrics => metrics.any fun e => match e.2 with
    | .dict _ spec => sourceKind host spec = "analysis_output"
    | _ => false
  | _ => false

def updateTracking (host : Host World) (trial : Trial) (frame : AdaptiveFrame) : AdaptiveFrame :=
  let worse := { frame with noImproveTrials := frame.noImproveTrials+1 }
  match trial.score with
  | .none => worse
  | score =>
    match host.num.toFloat score with
    | .error _ => worse
    | .ok x =>
      match frame.bestScore with
      | none => { frame with bestScore := some x, noImproveTrials := 0 }
      | some best =>
        let improved := if minimizes host frame then host.num.lt x best else host.num.lt best x
        if improved then { frame with bestScore := some x, noImproveTrials := 0 } else worse

def publishTrial (trial : Trial) (env : Env) : Env :=
  let env := trial.metrics.foldl (fun env e => env.set e.1 e.2) env
  let env := trial.aggregates.foldl (fun env a =>
    a.2.foldl (fun env e => env.set (a.1 ++ "_" ++ e.1) e.2) env) env
  env.set "score" trial.score

def storeTrial (host : Host World) (frame : AdaptiveFrame) (trial : Trial) : D World Unit :=
  Prog.modify fun d =>
    let study := (d.adaptiveStudies.get? frame.spec.id).getD
      ⟨targetText host.py (getD frame.renderedController "kind" (.str "")),frame.renderedSpace,[],
        startMode d frame.spec.id⟩
    { d with adaptiveStudies :=
        d.adaptiveStudies.set frame.spec.id { study with trials := study.trials ++ [trial] } }

def tellTrial (host : Host World) (frame : AdaptiveFrame) (proposal : Proposal) (trial : Trial) :
    D World Unit :=
  if trial.ok || !frame.spec.failOnTrialError then ask (host.tell frame.controller proposal trial)
  else pure ()

/-- `_finalize_adaptive_trial` up to its last lines: the frame it leaves and what
`tell` raised. -/
def finalizeTrial (host : Host World) (frame : AdaptiveFrame) (proposal : Proposal)
    (trial : Trial) : D World (AdaptiveFrame × Except PyExc Unit) := do
  let trial := { trial with observeStartedMono := none }
  Prog.modify fun d => { d with env := publishTrial trial d.env }
  let r ← attempt (do
    tellTrial host frame proposal trial
    storeTrial host frame trial)
  let frame := updateTracking host trial frame
  pure ({ frame with proposal := none, trialsCompleted := frame.trialsCompleted+1 },r)

def outputLimit : Nat := 512

/-- `record_analysis_output`; the oldest outputs make room. -/
def recordOutput (payload : Entries) (d : Data World) : Data World :=
  let outputs := d.analysisOutputs ++ [payload]
  { d with analysisOutputs := outputs.drop (outputs.length-outputLimit) }

def setObserve (state : Option ObserveState) : D World Unit :=
  Prog.modify fun d => { d with adaptiveObserveState := state }

/-- `_start_adaptive_observation`: a trial to finalise at once, if it failed. -/
def startAdaptiveObservation (host : Host World) (vars : Env) (frame : AdaptiveFrame)
    (proposal : Proposal) : D World (Option Trial) := do
  let d ← Prog.get
  let trial := newTrial proposal d.contextId
  let state ← attempt (sampleSources host vars (frame.spec.state.getD []))
  match state with
  | .error e => pure (some (failTrial e.message trial))
  | .ok state =>
    match metricsOf frame.spec.observe with
    | none => pure (some (failTrial "adaptive.observe.metrics must be a non-empty dict"
        { trial with state := state }))
    | some metricsSpec => do
      let repeats ← observeRepeats host vars frame.spec.observe
      let t ← now host
      let observe : ObserveState :=
        { frame := frame
          proposal := proposal
          trial := { trial with state := state, replicates := emptyReplicates metricsSpec }
          repeats := repeats
          metricsSpec := metricsSpec
          currentRepeat := 0
          startedT := t }
      setObserve (some observe)
      pure none

inductive Match where
  | other
  | stale
  | hit
  deriving DecidableEq

structure OutputSource where
  workspaceId : String
  outputId : String
  requireCurrentContext : Bool
  contextId : Int
  deriving DecidableEq

def matchOutput (host : Host World) (source : OutputSource) (payload : Entries) : Match :=
  if targetText host.py (getD payload "workspace_id" (.str "")) ≠ source.workspaceId then .other
  else if targetText host.py (getD payload "output_id" (.str "")) ≠ source.outputId then .other
  else if source.requireCurrentContext then
    match getD payload "context_id" .none with
    | .none => .other
    | raw =>
      match host.num.toInt raw with
      | .error _ => .other
      | .ok n => if n < source.contextId then .stale else if n ≠ source.contextId then .other else .hit
  else .hit

def takeOutput (host : Host World) (source : OutputSource) :
    List Entries → Option (Match × Entries × List Entries)
  | [] => none
  | payload :: rest =>
    match matchOutput host source payload with
    | .other => (takeOutput host source rest).map fun (m,found,left) => (m,found,payload :: left)
    | m => some (m,payload,rest)

def extractOutputValue (host : Host World) (payload config : Entries) : Except PyExc Value :=
  match getD config "extract" .none with
  | .dict _ extract => extractValue host.py (getD payload "value" .none)
      (getD extract "kind" (.str "scalar")) (getD extract "ref" .none)
  | _ =>
    match item? payload "value" with
    | some v => .ok v
    | none => .ok (.dict false payload)

/-- `5.0`, the default timeout of an analysis output. -/
def defaultTimeoutS : F64 := 0x4014000000000000

def modifyTrial (f : Trial → Trial) : D World Unit :=
  Prog.modify fun d => { d with
    adaptiveObserveState := d.adaptiveObserveState.map fun st => { st with trial := f st.trial } }

/-- The timeout at the end of `_try_sample_analysis_output`. -/
def checkObserveTimeout (host : Host World) (source : OutputSource) (timeoutS : F64) :
    D World Unit :=
  if host.num.lt 0 timeoutS then do
    let t ← now host
    modifyTrial fun trial => { trial with
      error := some (trial.error.getD [])
      observeStartedMono := some (trial.observeStartedMono.getD t) }
    let t' ← now host
    let d ← Prog.get
    let started := (d.adaptiveObserveState.bind (·.trial.observeStartedMono)).getD t
    if host.num.le timeoutS (host.num.sub t' started) then
      Prog.raise ⟨.runtimeError,"adaptive analysis_output timed out for " ++ source.workspaceId ++
        "." ++ source.outputId⟩
    else pure ()
  else pure ()

/-- What an analysis metric asks for: the output, its rendered config and the timeout. -/
def readOutputSource (host : Host World) (view : Env) (sourceSpec : Entries) (contextId : Int) :
    Except PyExc (OutputSource × Entries × F64) := do
  let config ← mappingField sourceSpec "config" "adaptive analysis_output config must be a dict"
  let rendered ← (renderTemplates host.py (.dict false config)).result view.get?
  let rendered := mappingOrEmpty rendered
  let source : OutputSource :=
    { workspaceId := targetText host.py (getD rendered "workspace_id" (.str ""))
      outputId := targetText host.py (getD rendered "output_id" (.str ""))
      requireCurrentContext := (getD rendered "require_current_context" (.bool true)).truthy
      contextId := contextId }
  if source.workspaceId = "" || source.outputId = "" then
    .error ⟨.valueError,"adaptive analysis_output source requires workspace_id and output_id"⟩
  else do
    let timeoutS ← host.num.toFloat (orZero (getD rendered "timeout_s" (.float defaultTimeoutS)))
    pure (source,rendered,timeoutS)

def trySampleAnalysisOutput (host : Host World) (vars : Env) (sourceSpec : Entries)
    (contextId : Int) : D World (Option Value) := do
  let view ← envView vars
  let (source,rendered,timeoutS) ← except (readOutputSource host view sourceSpec contextId)
  let d ← Prog.get
  match takeOutput host source d.analysisOutputs with
  | some (.hit,payload,left) => do
    Prog.modify fun d => { d with analysisOutputs := left }
    let v ← except (extractOutputValue host payload rendered)
    pure (some v)
  | some (_,_,left) => do
    Prog.modify fun d => { d with analysisOutputs := left }
    pure none
  | none => do
    checkObserveTimeout host source timeoutS
    pure none

/-- The first loop of `_collect_adaptive_repeat`: the analysis outputs, up to the
first one that is not there yet. -/
def sampleOutputs (host : Host World) (vars : Env) (contextId : Int) :
    Entries → D World (Option Entries)
  | [] => pure (some [])
  | (name,.dict _ spec) :: rest =>
    if sourceKind host spec ≠ "analysis_output" then sampleOutputs host vars contextId rest
    else do
      let v ← trySampleAnalysisOutput host vars spec contextId
      match v with
      | none => pure none
      | some v => do
        let values ← sampleOutputs host vars contextId rest
        pure (values.map fun values => (name,v) :: values)
  | _ :: _ => Prog.raise ⟨.typeError,"adaptive source specs must be dicts"⟩

def sampleRemaining (host : Host World) (vars : Env) (values : Entries) : Entries → D World Entries
  | [] => pure values
  | (name,spec) :: rest =>
    if (item? values name).isSome then sampleRemaining host vars values rest
    else do
      let v ← sampleAdaptiveSource host vars spec
      sampleRemaining host vars (values ++ [(name,v)]) rest

/-- `0.02`, `_ADAPTIVE_OBSERVE_POLL_S` -/
def observePollS : F64 := 0x3F947AE147AE147B

def modifyObserve (f : ObserveState → ObserveState) : D World Unit :=
  Prog.modify fun d => { d with adaptiveObserveState := d.adaptiveObserveState.map f }

def collectAdaptiveRepeat (host : Host World) (vars : Env) (state : ObserveState) (t : F64) :
    D World Unit := do
  let values ← sampleOutputs host vars state.trial.contextId state.metricsSpec
  match values with
  | none => modifyObserve fun st => { st with nextCheckT := some (host.num.add t observePollS) }
  | some values => do
    modifyObserve fun st => { st with nextCheckT := none }
    let values ← sampleRemaining host vars values state.metricsSpec
    modifyObserve fun st => { st with
      trial := { st.trial with replicates := appendReplicates values st.trial.replicates }
      currentRepeat := st.currentRepeat+1 }

/-- `_step_adaptive_observation`: the trial to finalise, if the observation ended. -/
def stepAdaptiveObservation (host : Host World) (vars : Env) (t : F64) (state : ObserveState) :
    D World (Option Trial) :=
  if state.trial.ok then
    if state.currentRepeat < state.repeats then do
      let r ← attempt (collectAdaptiveRepeat host vars state t)
      match r with
      | .ok () => pure none
      | .error e => do
        let d ← Prog.get
        let trial := (d.adaptiveObserveState.map ObserveState.trial).getD state.trial
        setObserve none
        pure (some (failTrial e.message trial))
    else do
      let trial ← evaluateTrial host vars state.frame.spec.observe PyExc.message state.trial
        state.trial.replicates
      setObserve none
      pure (some trial)
  else do
    setObserve none
    pure (some state.trial)

end ExperimentControl.Sequencer

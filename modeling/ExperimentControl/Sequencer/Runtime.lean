import ExperimentControl.Sequencer.Adaptive
import ExperimentControl.Sequencer.Frames
import ExperimentControl.Sequencer.Parallel

/-!
`SequencerRuntime` (`sequencer/runtime.py`): executing steps, finding the next step,
the terminal unwind, `tick`, and the requests that come in between ticks. Progress
estimates, run events and step details are left out; nothing here reads them.
-/

namespace ExperimentControl.Sequencer
open Lib Python Prog

structure RtState (World : Type) where
  ctl : Ctl
  data : Data World

abbrev RT (World α : Type) := Prog (RtState World) PyExc α

variable {World α : Type}

def onData (x : D World α) : RT World α :=
  zoom RtState.data (fun d s => { s with data := d }) x

def getCtl : RT World Ctl := ofFun fun s => (.ok s.ctl,s)

def getData : RT World (Data World) := ofFun fun s => (.ok s.data,s)

def move (f : Ctl → Ctl) : RT World Unit := Prog.modify fun s => { s with ctl := f s.ctl }

def change (f : Data World → Data World) : RT World Unit :=
  Prog.modify fun s => { s with data := f s.data }

def withVars (x : Env → D World α) : RT World α := do
  let c ← getCtl
  onData (x c.vars)

def clearWaits (host : Host World) (d : Data World) : Data World :=
  clearParallel host { clearSetContext host { d with sleepUntil := none, waitState := none } with
    adaptiveObserveState := none }

def beginTerminalUnwind (host : Host World) (state : RunState) (error : Option String) :
    RT World Bool := do
  let c ← getCtl
  if c.pending.isSome then pure (!c.stack.isEmpty)
  else if !c.hasTerminalUnwindWork then pure false
  else do
    move (Ctl.beginUnwind state error)
    change (clearWaits host)
    pure true

def finishPendingTerminal (host : Host World) : RT World Unit := do
  change (clearWaits host)
  move Ctl.finishPending

def failStep (host : Host World) (message : String) : RT World Bool := do
  let c ← getCtl
  if c.pending.isSome then do
    move (Ctl.noteCleanupFailure message)
    pure true
  else do
    let begun ← beginTerminalUnwind host .error (some message)
    if begun then pure true
    else do
      move (Ctl.setError message)
      pure true

def handleRuntimeException (host : Host World) (message : String) : RT World Bool := do
  let c ← getCtl
  if c.pending.isSome then do
    move (Ctl.noteCleanupFailure message)
    pure true
  else beginTerminalUnwind host .error (some message)

def interruptible (s : RtState World) : Bool :=
  s.ctl.atomicDepth = 0 && s.data.parallelState.isNone

def isInterruptible : RT World Bool := ofFun fun s => (.ok (interruptible s),s)

def checkStopPause (host : Host World) : RT World Bool := do
  let c ← getCtl
  let free ← isInterruptible
  if c.stopRequested && free then do
    move fun c => { c with stopRequested := false }
    let begun ← beginTerminalUnwind host .stopped none
    if begun then pure true
    else do
      change (clearSetContext host)
      move fun c => Ctl.stop { c with activeStep := none }
      pure true
  else if c.pauseRequested && free then do
    move fun c => { c with state := .paused }
    pure true
  else pure false

def trialErrorMessage (host : Host World) (trial : Trial) : String :=
  let message := getD (trial.error.getD []) "message" .none
  if message.truthy then message.text host.py.repr else "adaptive trial failed"

/-- `_finalize_adaptive_trial`. The frame is the one on top of the stack, `owner` the
number of the trial. -/
def finalizeAdaptiveTrial (host : Host World) (frame : AdaptiveFrame) (owner : Option Nat)
    (proposal : Proposal) (trial : Trial) : RT World Unit := do
  let (frame',told) ← onData (finalizeTrial host frame proposal trial)
  move (Ctl.endTrial frame' owner trial.ok)
  match told with
  | .error e => Prog.raise e
  | .ok () =>
    if !trial.ok && frame.spec.failOnTrialError then
      move (Ctl.abortTrial (trialErrorMessage host trial))
    else pure ()

def afterAdaptiveBody (host : Host World) (frame : AdaptiveFrame) : RT World Unit :=
  match frame.proposal with
  | none => pure ()
  | some proposal =>
    if observeUsesAnalysis host frame.spec.observe then do
      move (Ctl.observe frame)
      let failed ← withVars fun vars => startAdaptiveObservation host vars frame proposal
      match failed with
      | none => pure ()
      | some trial => finalizeAdaptiveTrial host frame frame.trial proposal trial
    else do
      let trial ← withVars fun vars => collectAdaptiveTrial host vars frame.spec proposal
      finalizeAdaptiveTrial host frame frame.trial proposal trial

/-- What `on_exit` does beyond the control state: the body of the adaptive frame that
is now on top has ended. -/
def afterExit (host : Host World) (exit : OnExit) : RT World Unit :=
  match exit with
  | .atomic | .restoreVars _ _ _ => pure ()
  | .adaptiveBody => do
    let c ← getCtl
    match c.stack with
    | .adaptive frame :: _ => afterAdaptiveBody host frame
    | _ => pure ()

inductive NextStep where
  | step (step : Step)
  | notReady
  | none_

/-- The end of a frame with an `on_exit`, in `_next_step_above`. -/
def leaveAbove (host : Host World) (f : StepsFrame) (below : List Frame) (exit : OnExit) :
    RT World (Unit ⊕ NextStep) := do
  let before ← getCtl
  move (Ctl.leaveFrame f below)
  afterExit host exit
  let c ← getCtl
  let d ← getData
  if c.state ≠ .running then pure (.inr .none_)
  else if d.adaptiveObserveState.isSome then pure (.inr .notReady)
  else if 0 < before.atomicDepth && c.atomicDepth = 0 then pure (.inr .notReady)
  else pure (.inl ())

def proposeAbove (host : Host World) (frame : AdaptiveFrame) (below : List Frame) :
    RT World (Unit ⊕ NextStep) := do
  let stop ← withVars fun vars => adaptiveShouldStop host vars frame
  if stop then do
    move fun c => { c with stack := below }
    pure (.inl ())
  else do
    let proposal ← onData (prepareAdaptiveProposal host frame)
    move (Ctl.setProposal frame proposal below)
    onData (bindAdaptiveProposal frame.spec proposal)
    move (Ctl.enterBody { frame with proposal := some proposal } below)
    pure (.inl ())

/-- One turn of the loop of `_next_step_above`, on the frame on top. -/
def turnAbove (host : Host World) (top : Frame) (below : List Frame) :
    RT World (Unit ⊕ NextStep) :=
  match top with
  | .steps f =>
    match f.rest with
    | [] =>
      match f.onExit with
      | none => do
        move fun c => { c with stack := below }
        pure (.inl ())
      | some exit => leaveAbove host f below exit
    | step :: rest => do
      move (Ctl.takeStep f step rest below)
      if step.disabled then pure (.inl ()) else pure (.inr (.step step))
  | .for_ bind records index body =>
    match records with
    | [] => do
      move fun c => { c with stack := below }
      pure (.inl ())
    | record :: records => do
      move fun c => { c with stack := .for_ bind records (index+1) body :: below }
      onData (bindRecord host bind record index)
      move (Ctl.turn (.for_ bind records (index+1) body) body below)
      pure (.inl ())
  | .repeat_ remaining body =>
    if remaining ≤ 0 then do
      move fun c => { c with stack := below }
      pure (.inl ())
    else do
      move (Ctl.turn (.repeat_ (remaining-1) body) body below)
      pure (.inl ())
  | .try_ finallySteps finalizing owner =>
    if finalizing then do
      move fun c => { c with stack := below }
      pure (.inl ())
    else do
      move (Ctl.finalize finallySteps owner below)
      pure (.inl ())
  | .while_ condition body => do
    let ok ← withVars fun vars => evalConditionLive host vars condition "while" false
    if ok then do
      move (Ctl.turn (.while_ condition body) body below)
      pure (.inl ())
    else do
      move fun c => { c with stack := below }
      pure (.inl ())
  | .adaptive frame =>
    if frame.proposal.isSome then pure (.inr .notReady) else proposeAbove host frame below

def nextStepAbove (host : Host World) (base : Nat) : RT World NextStep :=
  Prog.iterate (fun _ => do
    let c ← getCtl
    if c.stack.length ≤ base then pure (.inr .none_)
    else match c.stack with
      | [] => pure (.inr .none_)
      | top :: below => turnAbove host top below) ()

/-- The end of a steps frame during the unwind, with what `on_exit` leaves forgotten. -/
def leaveUnwinding (host : Host World) (f : StepsFrame) (below : List Frame) : RT World Unit := do
  move (Ctl.leaveFrame f below)
  match f.onExit with
  | none => pure ()
  | some exit => do
    afterExit host exit
    change fun d => { clearSetContext host { d with sleepUntil := none, waitState := none } with
      adaptiveObserveState := none }

/-- One turn of `_next_terminal_unwind_step` when no cleanup step is above the innermost
finally body. -/
def turnUnwinding (host : Host World) (top : Frame) (below : List Frame) :
    RT World (Unit ⊕ NextStep) :=
  match top with
  | .steps f =>
    if f.runDuringUnwind then
      match f.rest with
      | [] => do
        leaveUnwinding host f below
        pure (.inl ())
      | step :: rest => do
        move (Ctl.takeStep f step rest below)
        if step.disabled then pure (.inl ()) else pure (.inr (.step step))
    else do
      leaveUnwinding host f below
      pure (.inl ())
  | .try_ finallySteps finalizing owner =>
    if finalizing then do
      move fun c => { c with stack := below }
      pure (.inl ())
    else do
      move (Ctl.finalize finallySteps owner below)
      pure (.inl ())
  | _ => do
    move fun c => { c with stack := below }
    pure (.inl ())

def turnTerminalUnwind (host : Host World) : RT World (Unit ⊕ NextStep) := do
  let c ← getCtl
  match c.stack with
  | [] => pure (.inr .none_)
  | top :: below =>
    match c.innermostUnwindBody with
    | some floor =>
      if floor < below.length then do
        let r ← nextStepAbove host (floor+1)
        match r with
        | .none_ => pure (.inl ())
        | r => pure (.inr r)
      else turnUnwinding host top below
    | none => turnUnwinding host top below

def nextTerminalUnwindStep (host : Host World) : RT World NextStep :=
  Prog.iterate (fun _ => turnTerminalUnwind host) ()

def nextStep (host : Host World) : RT World NextStep := do
  let c ← getCtl
  if c.pending.isSome then nextTerminalUnwindStep host else nextStepAbove host 0

def finishWith (host : Host World) (failure : Option String) : RT World Bool :=
  match failure with
  | none => pure false
  | some message => failStep host message

def dispatchParallel (host : Host World) (step : Step) (body : List Step)
    (begin : List ParallelBranchPlan → Callback World (Option Nat)) : RT World Bool := do
  let env ← withVars envView
  match parallelPlans host env ((host.sourcePath step).getD "parallel") 0 body [] [] with
  | .error e => failStep host e.message
  | .ok [] => pure false
  | .ok plans => do
    let state ← onData (ask (begin plans))
    change fun d => { d with parallelState := state }
    pure true

def executeParallelStep (host : Host World) (step : Step) (body : List Step) :
    RT World Bool := do
  let c ← getCtl
  if 0 < c.atomicDepth then failStep host "parallel is not allowed inside an atomic block"
  else match host.parallelDispatch with
    | none => failStep host "parallel dispatcher is not configured"
    | some (begin,_) => dispatchParallel host step body begin

def executeUseStep (host : Host World) (sequenceId : String) (args : Option Entries) :
    RT World Bool := do
  let c ← getCtl
  let name := strip sequenceId
  if name ∈ c.useStack then
    Prog.raise ⟨.runtimeError,"recursive use sequence detected: " ++
      String.intercalate " -> " (c.useStack ++ [name])⟩
  else do
    let spec ← onData (resolveUseSpec host sequenceId)
    let merged ← onData (mergedUseVars host c.vars spec args)
    move (Ctl.enterUse spec.steps merged name)
    pure false

def pauseReason (host : Host World) (reason : Option String) : RT World Unit :=
  match given reason with
  | none => pure ()
  | some reason => do
    let _ ← withVars fun vars => render host vars (.str reason)
    pure ()

def executeStep (host : Host World) (step : Step) : RT World Bool :=
  match step with
  | .call step _ => do
    let failure ← withVars fun vars => executeCallStep host vars step
    finishWith host failure
  | .set step _ => do
    let failure ← withVars fun vars => executeSetStep host vars step
    finishWith host failure
  | .sleep seconds _ => do
    let rendered ← withVars fun vars => render host vars seconds
    let s ← onData (except (asFloat host rendered "sleep: expected seconds as a number"))
    let t ← onData (now host)
    change fun d => { d with sleepUntil := some (host.num.add t s) }
    pure true
  | .waitUntil raw _ => do
    withVars fun vars => startWaitUntil host vars raw
    pure true
  | .for_ bind inExpr body _ => do
    let records ← withVars fun vars => resolveIterable host vars inExpr
    move (Ctl.push (.for_ bind records 0 body))
    pure false
  | .repeat_ times body _ => do
    let rendered ← withVars fun vars => render host vars times
    let n ← onData (except (asInt host rendered "repeat.times must be an integer"))
    move (Ctl.push (.repeat_ n body))
    pure false
  | .if_ condition thenSteps elseSteps _ => do
    let ok ← withVars fun vars => evalConditionLive host vars condition "if" false
    move (Ctl.push (Ctl.plain (if ok then thenSteps else elseSteps)))
    pure false
  | .while_ condition body _ => do
    move (Ctl.push (.while_ condition body))
    pure false
  | .atomic _ body _ => do
    move (Ctl.enterAtomic body)
    pure false
  | .pause reason _ => do
    pauseReason host reason
    move fun c => { c with pauseRequested := true, state := .paused }
    pure true
  | .parallel body d => executeParallelStep host (.parallel body d) body
  | .try_ body finallySteps _ => do
    move (Ctl.enterTry body finallySteps)
    pure false
  | .assign values _ => do
    withVars fun vars => assignValues host vars values
    pure false
  | .setContext streams fields _ => do
    let progress ← withVars fun vars => executeSetContextStep host vars streams fields
    match progress with
    | .done => pure false
    | .waiting => pure true
    | .failed message => failStep host message
  | .use sequenceId args _ => executeUseStep host sequenceId args
  | .adaptive spec body _ => do
    let frame ← withVars fun vars => executeAdaptiveStep host vars spec body
    match frame with
    | .error message => failStep host message
    | .ok frame => do
      move (Ctl.push (.adaptive frame))
      pure false

/-- A pending `sleep`; true goes on with the tick. -/
def resumeSleep (host : Host World) (t : F64) : RT World Bool := do
  let d ← getData
  match d.sleepUntil with
  | none => pure true
  | some until_ =>
    if host.num.lt t until_ then pure false
    else do
      change fun d => { d with sleepUntil := none }
      move fun c => { c with activeStep := none }
      pure true

def afterPoll (host : Host World) (poll : Poll) : RT World Bool :=
  match poll with
  | .pending => pure false
  | .finished => do
    move fun c => { c with activeStep := none }
    pure true
  | .failed message => do
    let _ ← failStep host message
    move fun c => { c with activeStep := none }
    pure true

def resumeWait (host : Host World) (t : F64) : RT World Bool := do
  let d ← getData
  match d.waitState with
  | none => pure true
  | some ws => do
    let stopped ← checkStopPause host
    if stopped then pure false
    else do
      let poll ← withVars fun vars => stepWaitUntil host vars t ws
      afterPoll host poll

def resumeSetContext (host : Host World) (t : F64) : RT World Bool := do
  let d ← getData
  match d.setContextState with
  | none => pure true
  | some state => do
    let stopped ← checkStopPause host
    if stopped then pure false
    else do
      let poll ← onData (stepSetContext host t state)
      afterPoll host poll

def branchFailure (result : ParallelBranchResult) : String :=
  let path := match given result.path with
    | some path => path
    | none => "parallel"
  let error := match given result.error with
    | some error => error
    | none => "request failed"
  "branch " ++ toString result.index ++ " (" ++ path ++ "): " ++ error

def insertByIndex (result : ParallelBranchResult) :
    List ParallelBranchResult → List ParallelBranchResult
  | [] => [result]
  | r :: rest => if r.index ≤ result.index then r :: insertByIndex result rest else result :: r :: rest

/-- `_step_parallel` once the branches are done. -/
def joinParallel (host : Host World) (results : List ParallelBranchResult) : RT World Unit := do
  let d ← getData
  change fun d => { d with parallelState := none, parallelPendingFailure := none }
  let ordered := results.foldl (fun out r => insertByIndex r out) []
  match d.parallelPendingFailure with
  | some message => do
    move fun c => { c with pauseRequested := false, stopRequested := false }
    let _ ← failStep host message
    pure ()
  | none =>
    match ordered.filter (fun r => !r.ok) with
    | [] => change fun d => { d with env := ordered.foldl (fun env r => env.update r.outputs) d.env }
    | failures => do
      let _ ← failStep host
        ("parallel failed: " ++ String.intercalate "; " (failures.map branchFailure))
      pure ()

def resumeParallel (host : Host World) : RT World Bool := do
  let d ← getData
  match d.parallelState,host.parallelDispatch with
  | none,_ => pure true
  | some _,none => Prog.raise ⟨.other,"assertion failed"⟩
  | some state,some (_,poll) => do
    let results ← onData (ask (poll state))
    match results with
    | none => pure false
    | some results => do
      joinParallel host results
      move fun c => { c with activeStep := none }
      pure true

def resumeObservation (host : Host World) (t : F64) : RT World Bool := do
  let d ← getData
  match d.adaptiveObserveState with
  | none => pure true
  | some st => do
    let ended ← withVars fun vars => stepAdaptiveObservation host vars t st
    match ended with
    | none => pure false
    | some trial => do
      let c ← getCtl
      finalizeAdaptiveTrial host st.frame c.observing st.proposal trial
      pure true

/-- The stages of `tick` before its loop, in order, until one ends the tick. -/
def resumeAll : List (RT World Bool) → RT World Bool
  | [] => pure true
  | stage :: rest => do
    let go ← stage
    if go then resumeAll rest else pure false

def resumePending (host : Host World) (t : F64) : RT World Bool :=
  resumeAll [resumeSleep host t,resumeWait host t,resumeSetContext host t,resumeParallel host,
    resumeObservation host t]

def shouldContinue (c : Ctl) : Bool :=
  if c.state ≠ .running then false
  else if c.loopMode = .continuous then true
  else match c.loopsTarget with
    | some n => c.loopsCompleted < n
    | none => false

def resetWaits (host : Host World) (d : Data World) : Data World :=
  clearWaits host { d with env := .empty }

def prepareNextRunLoop (host : Host World) : RT World Unit := do
  let c ← getCtl
  match c.spec with
  | none => move Ctl.stop
  | some spec => do
    move (Ctl.restart spec.steps)
    change (resetWaits host)

def tickMaxSteps : Nat := 200

def tickBudgetS : F64 := 0x3F847AE147AE147B

def sequenceDone (host : Host World) (executed : Nat) : RT World (Nat ⊕ Bool) := do
  let c ← getCtl
  if c.pending.isSome then do
    finishPendingTerminal host
    pure (.inr false)
  else if c.state = .running then do
    move fun c => { c with loopsCompleted := c.loopsCompleted+1 }
    let c ← getCtl
    if shouldContinue c then do
      prepareNextRunLoop host
      pure (.inl executed)
    else do
      move Ctl.stop
      pure (.inr false)
  else pure (.inr false)

def nothingPending (d : Data World) : Bool :=
  d.sleepUntil.isNone && d.waitState.isNone && d.setContextState.isNone && d.parallelState.isNone

def budgetSpent (host : Host World) (executed : Nat) (deadline : F64) : RT World Bool := do
  let free ← isInterruptible
  if free then
    if tickMaxSteps ≤ executed then pure true
    else do
      let t ← onData (now host)
      pure (host.num.le deadline t)
  else pure false

def runStep (host : Host World) (deadline : F64) (executed : Nat) (step : Step) :
    RT World (Nat ⊕ Bool) := do
  move fun c => { c with activeStep := some step }
  let blocked ← executeStep host step
  if blocked then do
    let d ← getData
    move fun c => if nothingPending d then { c with activeStep := none } else c
    pure (.inr false)
  else do
    move fun c => { c with activeStep := none }
    let spent ← budgetSpent host (executed+1) deadline
    if spent then pure (.inr true) else pure (.inl (executed+1))

/-- One turn of the loop of `tick`; `executed` counts the steps of this tick. -/
def tickTurn (host : Host World) (deadline : F64) (executed : Nat) : RT World (Nat ⊕ Bool) := do
  let c ← getCtl
  if c.state ≠ .running then pure (.inr false)
  else do
    let stopped ← checkStopPause host
    if stopped then pure (.inr false)
    else do
      let next ← nextStep host
      match next with
      | .notReady => pure (.inr false)
      | .none_ => sequenceDone host executed
      | .step step => runStep host deadline executed step

def tickLoop (host : Host World) : RT World Bool := do
  let t ← onData (now host)
  Prog.iterate (tickTurn host (host.num.add t tickBudgetS)) 0

/-- The body of `tick`, inside its `try`. -/
def tickBody (host : Host World) : RT World Bool := do
  let c ← getCtl
  if c.pending.isSome && c.stack.isEmpty then do
    finishPendingTerminal host
    pure false
  else do
    let stopped ← checkStopPause host
    if stopped then pure false
    else do
      let t ← onData (now host)
      let go ← resumePending host t
      if go then tickLoop host else pure false

def tickFailed (host : Host World) (e : PyExc) : RT World Bool := do
  let handled ← handleRuntimeException host e.message
  if handled then pure false
  else do
    move fun c => Ctl.setError e.message { c with activeStep := none }
    pure false

/-- `tick`; true says that more work is ready at once. -/
def tick (host : Host World) : RT World Bool := do
  let c ← getCtl
  if c.state ≠ .running then pure false
  else Prog.tryCatch (tickBody host) (tickFailed host)

/-- The arguments of `sequencer.start`. -/
structure StartArgs where
  adaptive : Value := .none
  repeatCount : Value := .none
  continuous : Bool := false
  varsOverride : Value := .none

def readLoops (host : Host World) (args : StartArgs) : Except PyExc (LoopMode × Option Int) :=
  if args.continuous then .ok (.continuous,none)
  else match args.repeatCount with
    | .none => .ok (.once,some 1)
    | raw =>
      match host.num.toInt raw with
      | .error _ => .error ⟨.typeError,"sequencer.start repeat_count must be an integer"⟩
      | .ok n =>
        if n ≤ 0 then .error ⟨.valueError,"sequencer.start repeat_count must be > 0"⟩
        else .ok (if 1 < n then .repeat_ else .once,some n)

def readOverrides : Entries → Env → Except PyExc Env
  | [],out => .ok out
  | (key,v) :: rest,out =>
    if strip key = "" then
      .error ⟨.valueError,"sequencer.start vars_override keys must be non-empty"⟩
    else readOverrides rest (out.set (strip key) v)

def overridesOf : Value → Except PyExc Env
  | .none => .ok .empty
  | .dict _ entries => readOverrides entries .empty
  | _ => .error ⟨.typeError,"sequencer.start vars_override must be a dict"⟩

def readVarsOverride (spec : SequenceSpec) (raw : Value) : Except PyExc Env := do
  let overrides ← overridesOf raw
  let unknown := overrides.keys.filter fun key => !spec.vars.contains key
  if !spec.vars.entries.isEmpty then
    if unknown.isEmpty then pure overrides
    else .error ⟨.valueError,"sequencer.start vars_override contains unknown keys: " ++
      String.intercalate ", " (unknown.mergeSort (fun a b => decide (a ≤ b)))⟩
  else if overrides.keys.isEmpty then pure overrides
  else .error ⟨.valueError,
    "sequencer.start vars_override cannot be used when sequence.vars is empty"⟩

/-- `_normalize_adaptive_start_modes`, entry by entry. -/
def readStartModes (py : Primitives) :
    Entries → OrderedDict String String → Except PyExc (OrderedDict String String)
  | [],out => .ok out
  | (key,v) :: rest,out =>
    let studyId := strip key
    if studyId = "" then
      .error ⟨.typeError,"sequencer.start adaptive override keys must be non-empty"⟩
    else match v with
      | .dict _ entries =>
        let raw := getD entries "mode" (.str "reset")
        let mode := (strip ((if raw.truthy then raw else .str "reset").text py.repr)).toLower
        if mode = "reset" || mode = "resume" || mode = "warm_start" then
          readStartModes py rest (out.set studyId mode)
        else .error ⟨.valueError,"unsupported adaptive start mode " ++ py.repr (.str mode) ++
          " for " ++ py.repr (.str studyId)⟩
      | _ => .error ⟨.typeError,"sequencer.start adaptive override for " ++
          py.repr (.str studyId) ++ " must be a dict"⟩

def normalizeStartModes (py : Primitives) : Value → Except PyExc (OrderedDict String String)
  | .none => .ok .empty
  | .dict _ entries => readStartModes py entries .empty
  | _ => .error ⟨.typeError,"sequencer.start adaptive override must be a dict"⟩

/-- What `start` has changed when it comes to the adaptive override. The history is that
of the run that begins here. -/
def Ctl.startRun (mode : LoopMode) (target : Option Int) (vars : Env) (steps : List Step)
    (c : Ctl) : Ctl :=
  { c with
    vars := vars
    runVars := vars
    loopMode := mode
    loopsTarget := target
    loopsCompleted := 0
    useStack := []
    stack := [plain steps]
    observing := none
    nextOwner := 0
    history := [] }

def Ctl.enterRun (c : Ctl) : Ctl :=
  { c with
    pauseRequested := false
    stopRequested := false
    lastError := none
    pending := none
    cleanupErrors := []
    atomicDepth := 0
    activeStep := none
    state := .running }

def start (host : Host World) (args : StartArgs) : RT World Unit := do
  let c ← getCtl
  match c.spec with
  | none => Prog.raise ⟨.runtimeError,"No sequence loaded"⟩
  | some spec => do
    let (mode,target) ← onData (except (readLoops host args))
    let overrides ← onData (except (readVarsOverride spec args.varsOverride))
    let vars := resolveVars host.py (spec.vars.update overrides)
    change fun d => { d with runId := d.runId+1 }
    move (Ctl.startRun mode target vars spec.steps)
    let modes ← onData (except (normalizeStartModes host.py args.adaptive))
    change fun d => resetWaits host { d with adaptiveStartModes := modes }
    move Ctl.enterRun

/-- What `load` changes; a runtime that is running refuses it. -/
def Ctl.loadSpec (spec : SequenceSpec) (vars : Env) (c : Ctl) : Ctl :=
  { c with
    spec := some spec
    vars := vars
    runVars := vars
    stack := []
    pauseRequested := false
    stopRequested := false
    lastError := none
    pending := none
    cleanupErrors := []
    atomicDepth := 0
    activeStep := none
    state := .idle
    loopMode := .once
    loopsTarget := none
    loopsCompleted := 0
    useStack := []
    observing := none
    nextOwner := 0
    history := [] }

def load (host : Host World) (spec : SequenceSpec) : RT World Unit := do
  let c ← getCtl
  if c.state = .running then Prog.raise ⟨.runtimeError,"Cannot load while running"⟩
  else do
    move (Ctl.loadSpec spec (resolveVars host.py spec.vars))
    change fun d => resetWaits host { d with adaptiveStartModes := .empty }

def requestPause : RT World Unit := move fun c => { c with pauseRequested := true }

def resume : RT World Unit :=
  move fun c => if c.state = .paused then { c with pauseRequested := false, state := .running } else c

def requestStop : RT World Unit :=
  move fun c =>
    if c.state = .paused then
      { c with stopRequested := true, pauseRequested := false, state := .running }
    else { c with stopRequested := true }

/-- `str(reason or "external fault")` -/
def faultText (reason : String) : String := if reason = "" then "external fault" else reason

def fail (host : Host World) (reason : String) : RT World Unit := do
  let c ← getCtl
  let d ← getData
  if c.state ≠ .running && c.state ≠ .paused then pure ()
  else do
    move fun c => { c with pauseRequested := false, stopRequested := false }
    if d.parallelState.isSome then
      change fun d => { d with parallelPendingFailure := some (faultText reason) }
    else do
      change (clearWaits host)
      move fun c => if c.pending.isSome then c.log (.interrupted c.cutBodies) else c
      let begun ← beginTerminalUnwind host .error (some (faultText reason))
      if begun then move fun c => { c with state := .running }
      else move fun c => Ctl.setError (faultText reason) { c with activeStep := none }

def recordAnalysisOutput (payload : Entries) : RT World Unit := change (recordOutput payload)

inductive Request where
  | tick
  | pause
  | resume
  | stop
  | fail (reason : String)
  | output (payload : Entries)

def Request.perform (host : Host World) : Request → RT World Unit
  | .tick => do
    let _ ← Sequencer.tick host
    pure ()
  | .pause => requestPause
  | .resume => Sequencer.resume
  | .stop => requestStop
  | .fail reason => Sequencer.fail host reason
  | .output payload => recordAnalysisOutput payload

def Serves (host : Host World) (s s' : RtState World) : Prop :=
  ∃ r : Request, (r.perform host).Leaves s s'

abbrev Run (host : Host World) : RtState World → RtState World → Prop :=
  Relation.ReflTransGen (Serves host)

inductive Call where
  | load (spec : SequenceSpec)
  | start (args : StartArgs)
  | request (r : Request)

def Call.perform (host : Host World) : Call → RT World Unit
  | .load spec => Sequencer.load host spec
  | .start args => Sequencer.start host args
  | .request r => r.perform host

/-- Any number of calls, in any order, each of which meets `ok`. -/
abbrev Calls (host : Host World) (ok : Ctl → Call → Prop) : RtState World → RtState World → Prop :=
  Relation.ReflTransGen fun s s' => ∃ call : Call, ok s.ctl call ∧ (call.perform host).Leaves s s'

end ExperimentControl.Sequencer

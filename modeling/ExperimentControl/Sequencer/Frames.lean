import ExperimentControl.Sequencer.Host

/-!
The control state of the runtime: the frame stack, the flags and the pending end of
the run, with every change the runtime makes to it. `Move` says once what one such
change can be; the invariants of a run are proved against it.

The fields `owner`, `trial`, `merged`, `runVars`, `observing`, `nextOwner` and `history`
only record what happened. No other field depends on them.
-/

namespace ExperimentControl.Sequencer
open Lib Python

inductive RunState where
  | idle | running | paused | stopped | error
  deriving DecidableEq

def RunState.terminal : RunState → Bool
  | .stopped | .error => true
  | _ => false

/-- The `on_exit` callbacks. A `use` frame puts back the caller's vars; `merged` are the
vars it put in effect. -/
inductive OnExit where
  | atomic
  | restoreVars (previous merged : Env) (sequenceName : String)
  | adaptiveBody

/-- `_Frame`; `rest` are its steps from `index` on. `owner` numbers the try step or the
proposal whose steps these are. -/
structure StepsFrame where
  rest : List Step
  onExit : Option OnExit := none
  runDuringUnwind : Bool := false
  owner : Option Nat := none

inductive Frame where
  | steps (frame : StepsFrame)
  | for_ (bind : List (String × String)) (records : List Entries) (index : Nat) (body : List Step)
  | repeat_ (remaining : Int) (body : List Step)
  | try_ (finallySteps : List Step) (finalizing : Bool) (owner : Nat)
  | while_ (condition : Value) (body : List Step)
  | adaptive (frame : AdaptiveFrame)

/-- What a run has done, as far as the properties of runs speak of it. -/
inductive Event where
  | tryEntered (owner : Nat) (finallySteps : List Step) (vars : Env)
  | proposed (owner : Nat) (body : List Step)
  | handed (owner : Nat) (step : Step) (vars : Env)
  /-- An unwind began, a failure was noted or a fault came in; `cut` are the proposals
  whose body still had work to do. -/
  | interrupted (cut : List Nat)
  | trialEnded (owner : Nat) (ok : Bool)
  /-- A failed trial ended the run on the spot; `owed` says that an unwind was under way or
  finally steps were left. -/
  | trialAborted (owed : Bool)
  /-- The run came to `STOPPED` or `ERROR`. -/
  | terminal

structure Pending where
  state : RunState
  error : Option String
  cleanupFailed : Bool := false

inductive LoopMode where
  | once | repeat_ | continuous
  deriving DecidableEq

structure Ctl where
  spec : Option SequenceSpec
  state : RunState
  stack : List Frame
  vars : Env
  useStack : List String
  atomicDepth : Int
  pauseRequested : Bool
  stopRequested : Bool
  pending : Option Pending
  cleanupErrors : List String
  lastError : Option String
  activeStep : Option Step
  loopMode : LoopMode
  loopsTarget : Option Int
  loopsCompleted : Int
  runVars : Env
  observing : Option Nat
  nextOwner : Nat
  history : List Event

namespace Ctl

def new : Ctl :=
  { spec := none
    state := .idle
    stack := []
    vars := .empty
    useStack := []
    atomicDepth := 0
    pauseRequested := false
    stopRequested := false
    pending := none
    cleanupErrors := []
    lastError := none
    activeStep := none
    loopMode := .once
    loopsTarget := none
    loopsCompleted := 0
    runVars := .empty
    observing := none
    nextOwner := 0
    history := [] }

def log (e : Event) (c : Ctl) : Ctl := { c with history := c.history ++ [e] }

def push (f : Frame) (c : Ctl) : Ctl := { c with stack := f :: c.stack }

def isUnwindBody : Frame → Bool
  | .steps f => f.runDuringUnwind
  | _ => false

def hasTerminalUnwindWork (c : Ctl) : Bool :=
  c.stack.any fun
    | .steps f => f.onExit.isSome || f.runDuringUnwind
    | .try_ finallySteps finalizing _ => !finalizing && !finallySteps.isEmpty
    | _ => false

/-- `_innermost_unwind_body`, as an index from the bottom of the stack. -/
def innermostUnwindBody (c : Ctl) : Option Nat :=
  (c.stack.findIdx? isUnwindBody).map fun i => c.stack.length-1-i

/-- A try step on the stack still has finally steps to run. -/
def finallyOwed (stack : List Frame) : Bool :=
  stack.any fun
    | .steps f => f.runDuringUnwind && !(enabled f.rest).isEmpty
    | .try_ finallySteps finalizing _ => !finalizing && !(enabled finallySteps).isEmpty
    | _ => false

def bodyOwner : Frame → Option Nat
  | .steps f => match f.onExit with
    | some .adaptiveBody => f.owner
    | _ => none
  | _ => none

def cutBodies (c : Ctl) : List Nat :=
  match c.stack with
  | [] => []
  | top :: below =>
    let done := match top with
      | .steps f => c.activeStep.isNone && (enabled f.rest).isEmpty
      | _ => false
    (if done then [] else (bodyOwner top).toList) ++ below.filterMap bodyOwner

/-- `self._use_stack` without the sequence that is left. -/
def leaveUse (name : String) (useStack : List String) : List String :=
  if useStack.getLast? = some name then useStack.dropLast else useStack.erase name

/-- Run an `on_exit` callback; the one of an adaptive body does its work elsewhere. -/
def runExit (exit : Option OnExit) (c : Ctl) : Ctl :=
  match exit with
  | none | some .adaptiveBody => c
  | some .atomic => { c with atomicDepth := c.atomicDepth-1 }
  | some (.restoreVars previous _ name) =>
    { c with vars := previous, useStack := leaveUse name c.useStack }

/-- Pop a steps frame and run its `on_exit`. -/
def leaveFrame (f : StepsFrame) (below : List Frame) (c : Ctl) : Ctl :=
  runExit f.onExit { c with stack := below }

def takeStep (f : StepsFrame) (step : Step) (rest : List Step) (below : List Frame) (c : Ctl) :
    Ctl :=
  let c' := { c with stack := .steps { f with rest := rest } :: below }
  match f.owner with
  | some owner => if step.disabled then c' else c'.log (.handed owner step c.vars)
  | none => c'

def plain (steps : List Step) : Frame := .steps { rest := steps }

def turn (loop : Frame) (body : List Step) (below : List Frame) (c : Ctl) : Ctl :=
  { c with stack := plain body :: loop :: below }

def finalize (finallySteps : List Step) (owner : Nat) (below : List Frame) (c : Ctl) : Ctl :=
  let done := .try_ finallySteps true owner :: below
  let cleanup := Frame.steps
    { rest := finallySteps, runDuringUnwind := true, owner := some owner }
  if finallySteps.isEmpty then { c with stack := done } else { c with stack := cleanup :: done }

def enterTry (body finallySteps : List Step) (c : Ctl) : Ctl :=
  { c with
    stack := plain body :: .try_ finallySteps false c.nextOwner :: c.stack
    nextOwner := c.nextOwner+1
    history := c.history ++ [.tryEntered c.nextOwner finallySteps c.vars] }

def enterAtomic (body : List Step) (c : Ctl) : Ctl :=
  { c with
    atomicDepth := c.atomicDepth+1
    stack := .steps { rest := body, onExit := some .atomic } :: c.stack }

def enterUse (steps : List Step) (merged : Env) (name : String) (c : Ctl) : Ctl :=
  { c with
    useStack := c.useStack ++ [name]
    vars := merged
    stack := .steps { rest := steps, onExit := some (.restoreVars c.vars merged name) } :: c.stack }

def setProposal (frame : AdaptiveFrame) (proposal : Proposal) (below : List Frame) (c : Ctl) : Ctl :=
  { c with stack := .adaptive { frame with proposal := some proposal } :: below }

def enterBody (frame : AdaptiveFrame) (below : List Frame) (c : Ctl) : Ctl :=
  { c with
    stack := .steps { rest := frame.body, onExit := some .adaptiveBody, owner := some c.nextOwner } ::
      .adaptive { frame with trial := some c.nextOwner } :: below
    nextOwner := c.nextOwner+1
    history := c.history ++ [.proposed c.nextOwner frame.body] }

def observe (frame : AdaptiveFrame) (c : Ctl) : Ctl := { c with observing := frame.trial }

/-- The stack after a trial was told and stored; `frame` carries the new counts of the
adaptive frame on top, whose steps stay. -/
def endedStack (frame : AdaptiveFrame) : List Frame → List Frame
  | .adaptive live :: below =>
    .adaptive { frame with body := live.body, trial := live.trial } :: below
  | stack => stack

def endTrial (frame : AdaptiveFrame) (owner : Option Nat) (ok : Bool) (c : Ctl) : Ctl :=
  { c with
    stack := endedStack frame c.stack
    history := c.history ++ owner.toList.map fun o => .trialEnded o ok }

/-- `fail_on_trial_error`: the run ends here. -/
def abortTrial (message : String) (c : Ctl) : Ctl :=
  let c' := { c with
    state := .error
    lastError := some message
    history := c.history ++ [.trialAborted (c.pending.isSome || finallyOwed c.stack),.terminal] }
  if c.pending.isSome then c'.log (.interrupted c.cutBodies) else c'

def beginUnwind (state : RunState) (error : Option String) (c : Ctl) : Ctl :=
  { c with
    pending := some ⟨state,error,false⟩
    cleanupErrors := []
    activeStep := none
    history := c.history ++ [.interrupted c.cutBodies] }

def containsText (part : List Char) : List Char → Bool
  | [] => part.isEmpty
  | c :: rest => part.isPrefixOf (c :: rest) || containsText part rest

/-- `_note_cleanup_failure`; a message already there is not repeated. -/
def noteCleanupFailure (message : String) (c : Ctl) : Ctl :=
  let cleanup := "cleanup failed: " ++ message
  let join := fun (error : Option String) => match error with
    | none | some "" => cleanup
    | some error =>
      if containsText cleanup.toList error.toList then error else error ++ "; " ++ cleanup
  { c with
    pending := c.pending.map fun p => { p with cleanupFailed := true, error := some (join p.error) }
    cleanupErrors := c.cleanupErrors ++ [message]
    history := c.history ++ [.interrupted c.cutBodies] }

def finishPending (c : Ctl) : Ctl :=
  match c.pending with
  | none => { c with
      state := .stopped
      lastError := none
      history := c.history ++ [.terminal] }
  | some p =>
    let state := if p.cleanupFailed then .error else p.state
    { c with
      pending := none
      state := state
      lastError := if state = .error then p.error else none
      history := c.history ++ [.terminal] }

def stop (c : Ctl) : Ctl :=
  { c with
    state := .stopped
    history := c.history ++ [.terminal] }

def setError (message : String) (c : Ctl) : Ctl :=
  { c with
    state := .error
    lastError := some message
    history := c.history ++ [.terminal] }

/-- `_prepare_next_run_loop` -/
def restart (steps : List Step) (c : Ctl) : Ctl :=
  { c with
    stack := [plain steps]
    pending := none
    cleanupErrors := []
    atomicDepth := 0
    useStack := [] }

def hasUnwindBody (stack : List Frame) : Bool := stack.any isUnwindBody

def Executing (c : Ctl) : Prop :=
  (c.state = .running ∨ c.pending.isSome = true) ∧
    (c.pending.isSome = true → hasUnwindBody c.stack = true)

def isLoop : Frame → Bool
  | .for_ _ _ _ _ | .repeat_ _ _ | .while_ _ _ => true
  | _ => false

def isSpent : Frame → Bool
  | .for_ _ _ _ _ | .repeat_ _ _ | .while_ _ _ | .adaptive _ => true
  | .try_ _ finalizing _ => finalizing
  | .steps _ => false

structure SameFrames (c c' : Ctl) : Prop where
  stack : c'.stack = c.stack
  vars : c'.vars = c.vars
  useStack : c'.useStack = c.useStack
  atomicDepth : c'.atomicDepth = c.atomicDepth
  pending : c'.pending = c.pending
  runVars : c'.runVars = c.runVars
  observing : c'.observing = c.observing
  nextOwner : c'.nextOwner = c.nextOwner
  history : c'.history = c.history

/-- What one change of the control state during a run can be. -/
inductive Move : Ctl → Ctl → Prop
  | drop {c : Ctl} {f : Frame} {below : List Frame} (hs : c.stack = f :: below)
      (hf : isSpent f = true) : Move c { c with stack := below }
  | leave {c : Ctl} {f : StepsFrame} {below : List Frame} (hs : c.stack = .steps f :: below)
      (hf : f.rest = [] ∨ c.pending.isSome = true ∧ hasUnwindBody c.stack = false) :
      Move c (c.leaveFrame f below)
  | take {c : Ctl} {f : StepsFrame} {step : Step} {rest : List Step} {below : List Frame}
      (hs : c.stack = .steps f :: below) (hf : f.rest = step :: rest)
      (hc : c.pending.isSome = true → hasUnwindBody c.stack = true) :
      Move c (c.takeStep f step rest below)
  | advance {c : Ctl} {f f' : Frame} {below : List Frame} (hs : c.stack = f :: below)
      (hf : isLoop f = true) (hf' : isLoop f' = true) : Move c { c with stack := f' :: below }
  | turn {c : Ctl} {f f' : Frame} {body : List Step} {below : List Frame}
      (hs : c.stack = f :: below) (hf : isLoop f = true) (hf' : isLoop f' = true) :
      Move c (c.turn f' body below)
  | finalize {c : Ctl} {finallySteps : List Step} {owner : Nat} {below : List Frame}
      (hs : c.stack = .try_ finallySteps false owner :: below) :
      Move c (c.finalize finallySteps owner below)
  | pushLoop {c : Ctl} {f : Frame} (hc : c.Executing) (hf : isLoop f = true) : Move c (c.push f)
  | pushPlain {c : Ctl} {steps : List Step} (hc : c.Executing) : Move c (c.push (plain steps))
  | pushAdaptive {c : Ctl} {frame : AdaptiveFrame} (hc : c.Executing)
      (hf : frame.trial = none) : Move c (c.push (.adaptive frame))
  | enterTry {c : Ctl} {body finallySteps : List Step} (hc : c.Executing) :
      Move c (c.enterTry body finallySteps)
  | enterAtomic {c : Ctl} {body : List Step} (hc : c.Executing) : Move c (c.enterAtomic body)
  | enterUse {c : Ctl} {steps : List Step} {merged : Env} {name : String} (hc : c.Executing)
      (hn : name ∉ c.useStack) : Move c (c.enterUse steps merged name)
  | setProposal {c : Ctl} {frame : AdaptiveFrame} {proposal : Proposal} {below : List Frame}
      (hs : c.stack = .adaptive frame :: below) : Move c (c.setProposal frame proposal below)
  | enterBody {c : Ctl} {frame : AdaptiveFrame} {below : List Frame}
      (hs : c.stack = .adaptive frame :: below)
      (hc : c.pending.isSome = true → hasUnwindBody c.stack = true) :
      Move c (c.enterBody frame below)
  | observe {c : Ctl} {frame : AdaptiveFrame} {below : List Frame}
      (hs : c.stack = .adaptive frame :: below) : Move c (c.observe frame)
  | endTrial {c : Ctl} {frame : AdaptiveFrame} {owner : Option Nat} {ok : Bool}
      (ho : owner = c.observing ∨
        ∃ live below, c.stack = .adaptive live :: below ∧ owner = live.trial) :
      Move c (c.endTrial frame owner ok)
  | abortTrial {c : Ctl} {message : String} : Move c (c.abortTrial message)
  | beginUnwind {c : Ctl} {state : RunState} {error : Option String}
      (hp : c.pending = none) (hs : c.state = .running ∨ c.state = .paused) :
      Move c (c.beginUnwind state error)
  | noteFailure {c : Ctl} {message : String} (hp : c.pending.isSome = true) :
      Move c (c.noteCleanupFailure message)
  | fault {c : Ctl} : Move c (c.log (.interrupted c.cutBodies))
  | finishPending {c : Ctl} (hp : c.pending.isSome = true) (hs : c.stack = []) :
      Move c c.finishPending
  | ended {c c' : Ctl} (h : SameFrames (c.log .terminal) c') (ho : finallyOwed c.stack = false)
      (hp : c.pending.isSome = true → c.stack = []) : Move c c'
  | restart {c : Ctl} {steps : List Step} (hs : c.stack = []) (hp : c.pending = none)
      (hr : c.state = .running) : Move c (c.restart steps)
  | other {c c' : Ctl} (h : SameFrames c c')
      (hs : c'.state = c.state ∨ c'.state.terminal = false) : Move c c'

abbrev Moves : Ctl → Ctl → Prop := Relation.ReflTransGen Move

theorem Moves.keep {I : Ctl → Prop} (hI : ∀ {c c'}, Move c c' → I c → I c') {c c' : Ctl}
    (h : Moves c c') (hc : I c) : I c' := by
  induction h with
  | refl => exact hc
  | tail _ hm ih => exact hI hm ih

end Ctl
end ExperimentControl.Sequencer

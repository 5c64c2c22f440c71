import Mathlib.Algebra.Order.Ring.Rat
import ExperimentControl.Lib.Prog

/-!
The supervision of one managed process (`_manager/process_supervision.py`): starting and stopping
its child, what a supervise tick checks, and how it decides on a restart. What the operating system
answers is a parameter; an exception leaves behind what was done before it.
-/

namespace ExperimentControl.Supervision
open Lib Prog

inductive RestartPolicy where
  | never
  | always
  | onFailure
  deriving DecidableEq

inductive ManagedProcessState where
  | stopped
  | starting
  | running
  | stopping
  | exited
  | failed
  | crashloop
  deriving DecidableEq

structure ProcessSpec where
  processId : String
  heartbeatPeriodS : ℚ := 1
  heartbeatTimeoutS : ℚ := 3
  shutdownTimeoutS : ℚ := 3
  restartPolicy : RestartPolicy := .never
  restartBackoffS : ℚ := 1/2
  maxRestarts : Option Int := none
  heartbeatHardTimeoutS : Option ℚ := none

/-- A `subprocess.Popen`, with the return code that a `poll` has seen. -/
structure Popen where
  pid : Nat
  returncode : Option Int := none
  deriving DecidableEq

inductive Cause where
  | failure
  | exit
  | operator
  deriving DecidableEq

/-- The end of a child, as the tick that saw it found the handle. -/
structure Ended where
  rc : Int
  stopAsked : Bool
  terminatedByManager : Bool
  restartPending : Bool
  deriving DecidableEq

structure History where
  spawns : Nat := 0
  stopAsked : Bool := false
  cause : Cause := .failure
  automatic : Nat := 0
  failedRestarts : Nat := 0
  ends : List Ended := []
  checks : Nat := 0
  deriving DecidableEq

structure ProcessHandle where
  spec : ProcessSpec
  popen : Option Popen := none
  state : ManagedProcessState := .stopped
  rpcEndpoint : Option String := none
  lastStartTMono : Option ℚ := none
  lastHbRecvMono : Option ℚ := none
  lastExitCode : Option Int := none
  restartCount : Int := 0
  lastError : Option String := none
  lastErrorKind : Option String := none
  heartbeatStaleStrikes : Int := 0
  lastStaleDetectedMono : Option ℚ := none
  terminatedByManager : Bool := false
  heartbeatStallReconcileDeadlineMono : Option ℚ := none
  stopRequestedTMono : Option ℚ := none
  nextRestartTMono : Option ℚ := none
  startupCollisionRetryDone : Bool := false
  killAttempts : Nat := 0
  history : History := {}

/-- A heartbeat of a process, as the manager has drained it from its socket. -/
structure Heartbeat where
  processId : String
  recvMono : ℚ
  rpcEndpoint : Option String
  deriving DecidableEq

/-- What the supervisor takes from its surroundings, whose state is `Ω`. -/
structure Host (Ω : Type) where
  poll : Nat → Ω → Except String (Option Int) × Ω
  terminate : Nat → Ω → Except String Unit × Ω
  kill : Nat → Ω → Except String Unit × Ω
  connect : String → Ω → Except String Unit × Ω
  popen : String → Ω → Except String Nat × Ω
  monotonic : Ω → ℚ × Ω
  stopRpc : String → Ω → Bool × Ω
  refresh : Ω → List Heartbeat × Ω
  collisionLogged : String → Ω → Bool × Ω
  cleanupOrphans : Ω → Unit × Ω
  describeExitCode : Int → String
  fixed2 : ℚ → String
  lower : String → String

def Host.spawn {Ω : Type} (host : Host Ω) (id : String) (ω : Ω) : Except String Nat × Ω :=
  match host.connect id ω with
  | (.error e,ω') => (.error e,ω')
  | (.ok _,ω') => host.popen id ω'

structure Host.Quiet {Ω : Type} (host : Host Ω) : Prop where
  poll : ∀ pid ω e, (host.poll pid ω).1 ≠ .error e
  spawn : ∀ id ω e, (host.spawn id (host.monotonic ω).2).1 ≠ .error e

structure SupervisionConf where
  managerLoopStallWarnS : ℚ := 1
  managerLoopStallRecentS : ℚ := 10
  heartbeatHardTimeoutMultiplier : ℚ := 3
  heartbeatStaleStrikesToFail : Int := 2
  heartbeatStallReconcilePeriodMultiplier : ℚ := 5/4
  startupGraceS : ℚ := 10
  startupGraceHardTimeoutS : ℚ := 30

structure Tick where
  nowMono : ℚ
  currentPumpStartMono : Option ℚ := none
  currentPumpGapS : Option ℚ := none
  lastLoopStallMono : Option ℚ := none
  startupSequenceActive : Bool := false
  startupSequenceCompleteMono : Option ℚ := none

def maxKillAttempts : Nat := 5

structure Scope (Ω : Type) where
  handle : ProcessHandle
  received : List Heartbeat
  world : Ω

abbrev Sup (Ω : Type) := Prog (Scope Ω) String

section
variable {Ω α : Type}

def self : Sup Ω ProcessHandle := do
  let s ← Prog.get
  pure s.handle

def update (f : ProcessHandle → ProcessHandle) : Sup Ω Unit :=
  Prog.modify fun s => { s with handle := f s.handle }

def call (f : Ω → Except String α × Ω) : Sup Ω α :=
  ofFun fun s => ((f s.world).1,{ s with world := (f s.world).2 })

def ask (f : Ω → α × Ω) : Sup Ω α :=
  ofFun fun s => (.ok (f s.world).1,{ s with world := (f s.world).2 })

end

def orElse (text : Option String) (default : String) : String :=
  match text with
  | none => default
  | some text => if text = "" then default else text

def ingestProcessHeartbeat (hb : Heartbeat) (h : ProcessHandle) : ProcessHandle :=
  { h with
    lastHbRecvMono := some hb.recvMono
    state := if h.state = .starting then .running else h.state
    startupCollisionRetryDone := if h.state = .starting then false else h.startupCollisionRetryDone
    rpcEndpoint := hb.rpcEndpoint.orElse fun _ => h.rpcEndpoint }

variable {Ω : Type} (host : Host Ω)

/-- `poll` of the child, which keeps a return code it has seen. -/
def poll (p : Popen) : Sup Ω (Option Int) :=
  match p.returncode with
  | some rc => pure (some rc)
  | none => do
    let rc ← call (host.poll p.pid)
    update fun h => { h with popen := some { p with returncode := rc } }
    pure rc

def childAlive : Sup Ω Bool := do
  let h ← self
  match h.popen with
  | none => pure false
  | some p =>
    let rc ← poll host p
    pure rc.isNone

def ProcessHandle.started (pid : Nat) (now : ℚ) (resetCollisionRetry : Bool) (h : ProcessHandle) :
    ProcessHandle :=
  { h with
    popen := some ⟨pid,none⟩
    killAttempts := 0
    state := .starting
    rpcEndpoint := none
    lastStartTMono := some now
    lastHbRecvMono := none
    lastExitCode := none
    stopRequestedTMono := none
    nextRestartTMono := none
    lastError := none
    lastErrorKind := none
    heartbeatStaleStrikes := 0
    lastStaleDetectedMono := none
    terminatedByManager := false
    heartbeatStallReconcileDeadlineMono := none
    startupCollisionRetryDone := if resetCollisionRetry then false else h.startupCollisionRetryDone
    history := { h.history with spawns := h.history.spawns+1,stopAsked := false } }

def ProcessHandle.spawnFailed (exc : String) (h : ProcessHandle) : ProcessHandle :=
  { h with
    popen := none
    state := .failed
    lastError := some exc
    lastErrorKind := some "spawn_error" }

def startProcessHandle (resetCollisionRetry : Bool) : Sup Ω Unit := do
  if ← childAlive host then pure ()
  else
    let h ← self
    if h.state = .crashloop then pure ()
    else
      call (host.connect h.spec.processId)
      match ← attempt (call (host.popen h.spec.processId)) with
      | .error exc =>
        update (·.spawnFailed exc)
        Prog.raise exc
      | .ok pid =>
        let now ← ask host.monotonic
        update (·.started pid now resetCollisionRetry)

def ProcessHandle.foundDead (rc : Int) (h : ProcessHandle) : ProcessHandle :=
  let h := { h with popen := none,lastExitCode := some rc,rpcEndpoint := none }
  if rc ≠ 0 then
    { h with
      state := .failed
      lastErrorKind := some (orElse h.lastErrorKind "nonzero_exit")
      lastError := some (orElse h.lastError ("process exited: " ++ host.describeExitCode rc)) }
  else { h with state := .exited }

def requestStop : Sup Ω Bool := do
  let h ← self
  match h.rpcEndpoint with
  | none => pure false
  | some _ => ask (host.stopRpc h.spec.processId)

def terminateUnless (graceful : Bool) (p : Popen) : Sup Ω Unit := do
  if graceful then pure ()
  else match ← attempt (call (host.terminate p.pid)) with
  | .ok _ => pure ()
  | .error exc => update fun h => { h with lastError := some exc }

def stopChild (p : Popen) : Sup Ω Unit := do
  let graceful ← requestStop host
  terminateUnless host graceful p
  let now ← ask host.monotonic
  update fun h => { h with state := .stopping,stopRequestedTMono := some now,rpcEndpoint := none }

def stopProcessHandle : Sup Ω Unit := do
  let h ← self
  match h.popen with
  | none => update fun h => { h with state := .stopped }
  | some p =>
    match ← poll host p with
    | some rc => update (·.foundDead host rc)
    | none => stopChild host p

def RestartPolicy.restarts : RestartPolicy → Option Int → Bool
  | .never,_ => false
  | .always,_ => true
  | .onFailure,none => false
  | .onFailure,some rc => rc ≠ 0

def maybeScheduleRestart (now : ℚ) (h : ProcessHandle) : ProcessHandle :=
  if h.nextRestartTMono.isSome then h
  else if h.spec.restartPolicy.restarts h.lastExitCode then
    { h with
      nextRestartTMono := some (now+max h.spec.restartBackoffS 0)
      history := { h.history with cause := if h.state = .failed then .failure else .exit } }
  else h

def ProcessHandle.budgetUsed (h : ProcessHandle) : Bool :=
  match h.spec.maxRestarts with
  | none => false
  | some m => m ≤ h.restartCount

def History.restarted (history : History) : History :=
  if history.cause = .failure then { history with automatic := history.automatic+1 } else history

def tryRestartProcess : Sup Ω Unit := do
  let h ← self
  if h.budgetUsed then
    update fun h => { h with state := .crashloop,nextRestartTMono := none }
  else
    let _now ← ask host.monotonic
    update fun h => { h with
      restartCount := h.restartCount+1
      nextRestartTMono := none
      stopRequestedTMono := none
      history := h.history.restarted }
    match ← attempt (startProcessHandle host true) with
    | .ok _ => pure ()
    | .error exc =>
      update fun h => { h with
        history := { h.history with failedRestarts := h.history.failedRestarts+1 } }
      Prog.raise exc

def maybeRestartManagedProcess (now : ℚ) : Sup Ω Unit := do
  update fun h =>
    if (h.state = .failed ∨ h.state = .exited) ∧ h.stopRequestedTMono = none then
      maybeScheduleRestart now h
    else h
  let h ← self
  match h.nextRestartTMono with
  | none => pure ()
  | some t =>
    if now < t then pure ()
    else if ← childAlive host then pure ()
    else tryRestartProcess host

def occursIn (part : List Char) : List Char → Bool
  | [] => part.isEmpty
  | c :: rest => part.isPrefixOf (c :: rest) || occursIn part rest

def isEndpointCollisionProcessStartFailure (h : ProcessHandle) : Bool :=
  let err := (host.lower (orElse h.lastError "")).toList
  occursIn "already in use".toList err || occursIn "bind failed".toList err

def collisionSeen (h : ProcessHandle) : Sup Ω Bool :=
  if isEndpointCollisionProcessStartFailure host h then pure true
  else ask (host.collisionLogged h.spec.processId)

/-- The orphans of an earlier run hold the endpoint: they are cleaned up and the start is tried
again, once. -/
def maybeRecoverProcessStartCollision : Sup Ω Bool := do
  let h ← self
  if h.state ≠ .starting then pure false
  else if h.startupCollisionRetryDone then pure false
  else
    let collision ← collisionSeen host h
    if collision then
      update fun h => { h with startupCollisionRetryDone := true }
      ask host.cleanupOrphans
      match ← attempt (startProcessHandle host false) with
      | .ok _ => pure true
      | .error exc =>
        update fun h => { h with
          state := .failed
          lastError := some ("collision cleanup retry failed: " ++ exc)
          lastErrorKind := some "collision_recover_failed" }
        pure false
    else pure false

def ProcessHandle.exitSeen (rc : Int) (h : ProcessHandle) : ProcessHandle :=
  { h with
    lastExitCode := some rc
    popen := none
    rpcEndpoint := none
    history := { h.history with
      ends := h.history.ends ++
        [⟨rc,h.history.stopAsked,h.terminatedByManager,h.nextRestartTMono.isSome⟩] } }

def updateManagedProcessExitState (rc : Int) : Sup Ω Bool := do
  update (·.exitSeen rc)
  let h ← self
  if h.state = .stopping then
    update fun h => { h with state := .exited }
    pure false
  else if rc = 0 then
    update fun h => { h with state := .stopped }
    pure false
  else if ← maybeRecoverProcessStartCollision host then pure true
  else
    update fun h => { h with
      state := .failed
      lastErrorKind := some (orElse h.lastErrorKind "nonzero_exit")
      lastError := some (orElse h.lastError ("process exited: " ++ host.describeExitCode rc)) }
    pure false

def managerLoopStalled (conf : SupervisionConf) (tick : Tick) : Bool :=
  tick.currentPumpStartMono.any (fun t => conf.managerLoopStallWarnS < max 0 (tick.nowMono-t)) ||
    tick.currentPumpGapS.any (conf.managerLoopStallWarnS < ·) ||
    tick.lastLoopStallMono.any fun t => tick.nowMono-t ≤ conf.managerLoopStallRecentS

def inStartupGrace (conf : SupervisionConf) (tick : Tick) : Bool :=
  tick.startupSequenceActive ||
    tick.startupSequenceCompleteMono.any fun t => tick.nowMono-t ≤ conf.startupGraceS

def heartbeatAgeS (h : ProcessHandle) (now : ℚ) : Option ℚ :=
  match h.lastHbRecvMono with
  | some t => some (now-t)
  | none => h.lastStartTMono.map fun t => now-t

def refreshPendingProcessHeartbeats : Sup Ω Unit := do
  let heartbeats ← ask host.refresh
  Prog.modify fun s => { s with
    handle := (heartbeats.filter fun hb => hb.processId = s.handle.spec.processId).foldl
      (fun h hb => ingestProcessHeartbeat hb h) s.handle
    received := s.received ++ heartbeats }

def refreshIfStale (stale : Bool) : Sup Ω Unit :=
  if stale then refreshPendingProcessHeartbeats host else pure ()

def failStaleProcess (now age : ℚ) : Sup Ω Unit := do
  update fun h => { h with
    state := .failed
    lastErrorKind := some "heartbeat_stale"
    lastError := some (if h.lastHbRecvMono.isSome then
        "heartbeat stale (" ++ host.fixed2 age ++ "s > " ++ host.fixed2 h.spec.heartbeatTimeoutS ++
          "s)"
      else "no heartbeat received " ++ host.fixed2 age ++ "s after spawn (timeout " ++
        host.fixed2 h.spec.heartbeatTimeoutS ++ "s)")
    terminatedByManager := false }
  let h ← self
  match h.popen with
  | none => pure ()
  | some p =>
    match ← poll host p with
    | some _ => pure ()
    | none =>
      match ← attempt (call (host.terminate p.pid)) with
      | .ok _ => update fun h => { h with
          stopRequestedTMono := some now
          terminatedByManager := true }
      | .error exc => update fun h => { h with
          lastError := some (orElse h.lastError "" ++ "; terminate failed: " ++ exc) }

/-- What a stale heartbeat leads to: time to reconcile after a stall, a strike, or the end. -/
def staleHeartbeat (conf : SupervisionConf) (tick : Tick) (age : ℚ) : Sup Ω Unit := do
  let now := tick.nowMono
  update fun h =>
    if h.heartbeatStallReconcileDeadlineMono = none ∧ managerLoopStalled conf tick then
      { h with heartbeatStallReconcileDeadlineMono := some (now+
          max (1/1000) h.spec.heartbeatPeriodS*max 0 conf.heartbeatStallReconcilePeriodMultiplier) }
    else h
  let h ← self
  if h.heartbeatStallReconcileDeadlineMono.any (now < ·) then pure ()
  else
    update fun h =>
      if h.lastStaleDetectedMono.all fun t => max (1/1000) h.spec.heartbeatPeriodS ≤ now-t then
        { h with
          heartbeatStaleStrikes := h.heartbeatStaleStrikes+1
          lastStaleDetectedMono := some now }
      else h
    let h ← self
    let strikesToFail := max 1 conf.heartbeatStaleStrikesToFail
    let hardTimeout := h.spec.heartbeatHardTimeoutS.getD
      (h.spec.heartbeatTimeoutS*max 1 conf.heartbeatHardTimeoutMultiplier)
    let graceDefer := inStartupGrace conf tick && age < conf.startupGraceHardTimeoutS
    if graceDefer then
      update fun h => { h with
        heartbeatStaleStrikes := min h.heartbeatStaleStrikes (strikesToFail-1) }
    else if h.heartbeatStaleStrikes < strikesToFail ∧ age < hardTimeout then pure ()
    else failStaleProcess host now age

def enforceManagedProcessHeartbeatTimeout (conf : SupervisionConf) (tick : Tick) : Sup Ω Unit := do
  let h ← self
  if h.state ≠ .starting ∧ h.state ≠ .running then pure ()
  else
    match heartbeatAgeS h tick.nowMono with
    | none => pure ()
    | some age =>
      refreshIfStale host (h.spec.heartbeatTimeoutS < age)
      let h ← self
      match heartbeatAgeS h tick.nowMono with
      | none => pure ()
      | some age =>
        if age ≤ h.spec.heartbeatTimeoutS then
          update fun h => { h with
            heartbeatStaleStrikes := 0
            lastStaleDetectedMono := none
            heartbeatStallReconcileDeadlineMono := none }
        else staleHeartbeat host conf tick age

def attemptKill (p : Popen) : Sup Ω Unit := do
  match ← attempt (call (host.kill p.pid)) with
  | .ok _ => pure ()
  | .error exc => update fun h => { h with lastError := some exc }

def killChild (p : Popen) : Sup Ω Unit := do
  update fun h => { h with killAttempts := h.killAttempts+1 }
  attemptKill host p
  update fun h =>
    if maxKillAttempts ≤ h.killAttempts then
      { h with
        state := .failed
        lastErrorKind := some (orElse h.lastErrorKind "kill_escalated")
        lastError := some (orElse h.lastError ("process refused to exit after " ++
          toString h.killAttempts ++ " kill() attempts (last poll() = None)")) }
    else h

def enforceManagedProcessStopTimeout (now : ℚ) : Sup Ω Unit := do
  let h ← self
  if h.state ≠ .stopping then pure ()
  else
    match h.popen with
    | none => pure ()
    | some p =>
      match ← poll host p with
      | some _ => pure ()
      | none =>
        match h.stopRequestedTMono with
        | none => update fun h => { h with stopRequestedTMono := some now }
        | some t => if now-t ≤ h.spec.shutdownTimeoutS then pure () else killChild host p

def checkedOff (h : ProcessHandle) : ProcessHandle :=
  { h with history := { h.history with checks := h.history.checks+1 } }

def observeExit : Sup Ω Bool := do
  let h ← self
  match h.popen with
  | none => pure false
  | some p =>
    match ← poll host p with
    | none => pure false
    | some rc => updateManagedProcessExitState host rc

/-- The body of the loop of `supervise_managed_processes`. -/
def superviseProcess (conf : SupervisionConf) (tick : Tick) : Sup Ω Unit := do
  let recovered ← observeExit host
  if recovered then update checkedOff
  else
    enforceManagedProcessHeartbeatTimeout host conf tick
    enforceManagedProcessStopTimeout host tick.nowMono
    maybeRestartManagedProcess host tick.nowMono
    update checkedOff

end ExperimentControl.Supervision

import ExperimentControl.Lib.OrderedDict
import ExperimentControl.Supervision.Processes

/-!
The supervision of the device drivers (`_manager/process_supervision.py` and
`_manager/driver_heartbeat_policy.py`): what a tick does to the handle of a device. Worker threads
hold the lock of a device while they work on it; a tick passes such a device over.
-/

namespace ExperimentControl.Supervision.Drivers
open Lib Prog

inductive DeviceState where
  | ok
  | degraded
  | fault
  | disconnected
  | unknown
  deriving DecidableEq

inductive TelemetryQuality where
  | ok
  | bad
  | missing
  | stale
  deriving DecidableEq

structure DriverHeartbeat where
  deviceReachable : Bool
  deviceState : DeviceState
  deriving DecidableEq

structure AutoReconnectSpec where
  enabled : Bool := false
  onTelemetryStaleS : Option ℚ := none
  onDegradedS : Option ℚ := none
  restartDriverAfterMaxAttempts : Bool := false
  cooldownS : ℚ := 30
  maxAttempts : Option Int := some 3
  resetAttemptsAfterOkS : ℚ := 120

structure DeviceSpec where
  deviceId : String
  autoReconnect : AutoReconnectSpec := {}
  driverHeartbeatHardTimeoutS : Option ℚ := none
  driverRestartOnHeartbeatTimeout : Bool := false
  driverStopTimeoutS : ℚ := 3
  driverKillTimeoutS : ℚ := 3
  driverRestartBackoffS : ℚ := 1/2
  driverMaxRestarts : Option Int := none
  driverRestartHealthyResetS : ℚ := 300

inductive Trigger where
  | degraded
  | telemetryStale
  deriving DecidableEq

structure DeviceHandle where
  spec : DeviceSpec
  process : Option Popen := none
  rpcEndpoint : Option String := none
  lastHbRecvMono : Option ℚ := none
  lastHb : Option DriverHeartbeat := none
  driverProcessState : ManagedProcessState := .stopped
  driverPopenPid : Option Nat := none
  driverLastExitCode : Option Int := none
  driverRestartCount : Int := 0
  driverLastRestartTMono : Option ℚ := none
  driverRestartHealthySinceMono : Option ℚ := none
  driverRestartIsAutomatic : Bool := false
  driverGeneration : Int := 0
  driverReconnectAfterRestart : Bool := false
  driverReconnectGeneration : Option Int := none
  driverLastError : Option String := none
  driverLastErrorKind : Option String := none
  driverStopRequestedTMono : Option ℚ := none
  driverNextRestartTMono : Option ℚ := none
  driverHeartbeatStaleSinceMono : Option ℚ := none
  driverHeartbeatStaleMaxAgeS : Option ℚ := none
  driverHeartbeatStaleGeneration : Option (Option Nat × Option ℚ) := none
  driverRunningSinceMono : Option ℚ := none
  autoReconnectAttempts : Int := 0
  autoReconnectLastAttemptMono : Option ℚ := none
  autoReconnectHealthySinceMono : Option ℚ := none
  autoReconnectLastSuccessMono : Option ℚ := none
  autoReconnectLastError : Option String := none
  autoReconnectSuppressed : Bool := false
  autoReconnectDegradedSinceMono : Option ℚ := none
  autoReconnectWaitingForHealth : Bool := false
  autoReconnectLastTrigger : Option Trigger := none
  autoReconnectPending : Bool := false
  checks : Nat := 0

inductive Job where
  | reconnect (attempt : Int) (ageS : ℚ) (trigger : Trigger) (generation : Int)
  | driverRestart (ageS : ℚ) (trigger : Option Trigger) (generation : Int)
  deriving DecidableEq

/-- What the supervisor of the drivers takes from its surroundings, whose state is `Ω`. -/
structure DriverHost (Ω : Type) where
  poll : Nat → Ω → Except String (Option Int) × Ω
  terminate : Nat → Ω → Except String Unit × Ω
  kill : Nat → Ω → Except String Unit × Ω
  buildDriverCmd : String → Ω → Except String Unit × Ω
  popen : String → Ω → Except String Nat × Ω
  submit : String → Job → Ω → Bool × Ω
  describeExitCode : Int → String
  fixed1 : ℚ → String

/-- The spawn of a driver, once its command line is built. -/
def DriverHost.spawn {Ω : Type} (host : DriverHost Ω) (id : String) (ω : Ω) :
    Except String Nat × Ω :=
  match host.buildDriverCmd id ω with
  | (.error e,ω') => (.error e,ω')
  | (.ok _,ω') => host.popen id ω'

structure DriverHost.Quiet {Ω : Type} (host : DriverHost Ω) : Prop where
  poll : ∀ pid ω e, (host.poll pid ω).1 ≠ .error e
  spawn : ∀ id ω e, (host.spawn id ω).1 ≠ .error e

structure DriverConf where
  heartbeatTimeoutS : ℚ := 3
  heartbeatHardTimeoutS : ℚ := 10

structure DriverTick where
  nowMono : ℚ
  locked : String → Bool := fun _ => false
  telemetryLastRecvMono : String → Option ℚ := fun _ => none
  telemetryLatest : String → List (ℚ × TelemetryQuality) := fun _ => []

structure DriverScope (Ω : Type) where
  handle : DeviceHandle
  world : Ω

abbrev Drv (Ω : Type) := Prog (DriverScope Ω) String

section
variable {Ω α : Type}

def self : Drv Ω DeviceHandle := do
  let s ← Prog.get
  pure s.handle

def update (f : DeviceHandle → DeviceHandle) : Drv Ω Unit :=
  Prog.modify fun s => { s with handle := f s.handle }

def call (f : Ω → Except String α × Ω) : Drv Ω α :=
  ofFun fun s => ((f s.world).1,{ s with world := (f s.world).2 })

def ask (f : Ω → α × Ω) : Drv Ω α :=
  ofFun fun s => (.ok (f s.world).1,{ s with world := (f s.world).2 })

variable (host : DriverHost Ω)

/-- `poll` of the child, which keeps a return code it has seen. -/
def poll (p : Popen) : Drv Ω (Option Int) :=
  match p.returncode with
  | some rc => pure (some rc)
  | none => do
    let rc ← call (host.poll p.pid)
    update fun h => { h with process := some { p with returncode := rc } }
    pure rc

def childAlive : Drv Ω Bool := do
  let h ← self
  match h.process with
  | none => pure false
  | some p =>
    let rc ← poll host p
    pure rc.isNone

end

def updateDeviceDriverExitState {Ω : Type} (host : DriverHost Ω) (rc : Int) (h : DeviceHandle) :
    DeviceHandle :=
  let h := { h with
    driverLastExitCode := some rc
    process := none
    driverRunningSinceMono := none }
  if h.driverProcessState = .stopping ∧ h.driverStopRequestedTMono ≠ none then
    { h with driverProcessState := .stopped }
  else if h.driverLastErrorKind = some "heartbeat_stale" then
    { h with driverProcessState := .failed }
  else if rc = 0 then { h with driverProcessState := .stopped }
  else
    { h with
      driverProcessState := .failed
      driverLastErrorKind := some (orElse h.driverLastErrorKind "nonzero_exit")
      driverLastError :=
        some (orElse h.driverLastError ("driver exited: " ++ host.describeExitCode rc)) }

def observeDriverExit {Ω : Type} (host : DriverHost Ω) : Drv Ω Unit := do
  let h ← self
  match h.process with
  | none => pure ()
  | some p =>
    match ← poll host p with
    | none => pure ()
    | some rc => update (updateDeviceDriverExitState host rc)

namespace DeviceHandle

def heartbeatFromCurrentRun (h : DeviceHandle) : Bool :=
  h.lastHbRecvMono.any fun hb => h.driverRunningSinceMono.all fun since => since ≤ hb

def heartbeatRef (h : DeviceHandle) : Option ℚ :=
  if h.heartbeatFromCurrentRun then h.lastHbRecvMono else h.driverRunningSinceMono

def episodeGeneration (h : DeviceHandle) : Option Nat × Option ℚ :=
  (h.driverPopenPid,h.driverRunningSinceMono)

def clearStaleEpisode (h : DeviceHandle) : DeviceHandle :=
  { h with
    driverHeartbeatStaleSinceMono := none
    driverHeartbeatStaleMaxAgeS := none
    driverHeartbeatStaleGeneration := none }

def forgetOldEpisode (h : DeviceHandle) : DeviceHandle :=
  if h.driverHeartbeatStaleSinceMono ≠ none ∧
      h.driverHeartbeatStaleGeneration ≠ some h.episodeGeneration then h.clearStaleEpisode
  else h

def noteRecovered (h : DeviceHandle) : DeviceHandle :=
  if h.driverHeartbeatStaleSinceMono ≠ none then h.clearStaleEpisode else h

def noteStale (now age : ℚ) (h : DeviceHandle) : DeviceHandle :=
  match h.driverHeartbeatStaleSinceMono with
  | none => { h with
      driverHeartbeatStaleSinceMono := some now
      driverHeartbeatStaleMaxAgeS := some age
      driverHeartbeatStaleGeneration := some h.episodeGeneration }
  | some _ => { h with
      driverHeartbeatStaleMaxAgeS := some (max age (h.driverHeartbeatStaleMaxAgeS.getD 0)) }

def hardTimeoutS (conf : DriverConf) (h : DeviceHandle) : ℚ :=
  h.spec.driverHeartbeatHardTimeoutS.getD conf.heartbeatHardTimeoutS

def heartbeatFailed (now : ℚ) (error : String) (h : DeviceHandle) : DeviceHandle :=
  { h with
    driverProcessState := .failed
    driverRunningSinceMono := none
    driverStopRequestedTMono := some now
    driverLastErrorKind := some "heartbeat_stale"
    driverLastError := some error }

def scheduleHeartbeatRestart (now : ℚ) (h : DeviceHandle) : DeviceHandle :=
  if h.spec.driverRestartOnHeartbeatTimeout then
    { h with
      driverReconnectAfterRestart := h.lastHb.any DriverHeartbeat.deviceReachable
      driverReconnectGeneration := none
      driverRestartIsAutomatic := true
      driverNextRestartTMono := some (now+h.spec.driverRestartBackoffS) }
  else h

end DeviceHandle

section
variable {Ω : Type} (host : DriverHost Ω)

def terminateStale : Drv Ω Unit := do
  let h ← self
  match h.process with
  | none => pure ()
  | some p =>
    match ← attempt (poll host p) with
    | .ok none =>
      let _terminated ← attempt (call (host.terminate p.pid))
      pure ()
    | .ok (some _) | .error _ => pure ()

def failStaleDriver (conf : DriverConf) (now age : ℚ) : Drv Ω Unit := do
  update fun h => h.heartbeatFailed now ("driver heartbeat remained stale for " ++ host.fixed1 age ++
    "s (soft timeout " ++ host.fixed1 conf.heartbeatTimeoutS ++ "s, hard timeout " ++
    host.fixed1 (h.hardTimeoutS conf) ++ "s)")
  terminateStale host
  update (·.scheduleHeartbeatRestart now)

def enforceDeviceDriverHeartbeatTimeout (conf : DriverConf) (now : ℚ) : Drv Ω Unit := do
  let h ← self
  if h.driverProcessState ≠ .running then pure ()
  else
    match h.heartbeatRef with
    | none => pure ()
    | some ref =>
      let age := max 0 (now-ref)
      update (·.forgetOldEpisode)
      if age ≤ conf.heartbeatTimeoutS then update (·.noteRecovered)
      else
        update (·.noteStale now age)
        if age < h.hardTimeoutS conf then pure () else failStaleDriver host conf now age

def DeviceHandle.awaitsStop (h : DeviceHandle) : Bool :=
  h.driverProcessState = .stopping || h.driverProcessState = .failed &&
    (h.driverLastErrorKind = some "heartbeat_stale" ||
      h.driverLastErrorKind = some "auto_reconnect_exhausted")

def killOverdue (overdue : Bool) (p : Popen) : Drv Ω Unit :=
  if overdue then do
    match ← attempt (call (host.kill p.pid)) with
    | .ok _ => pure ()
    | .error exc => update fun h => { h with driverLastError := some exc }
  else pure ()

def giveUpKilling (overdue : Bool) (p : Popen) : Drv Ω Unit :=
  if overdue then do
    match ← poll host p with
    | some _ => pure ()
    | none => update fun h => { h with
        driverProcessState := .failed
        driverLastError := some "kill timeout"
        driverLastErrorKind := some "kill_timeout" }
  else pure ()

def enforceDeviceDriverStopTimeout (now : ℚ) : Drv Ω Unit := do
  let h ← self
  if h.awaitsStop then
    match h.driverStopRequestedTMono,h.process with
    | some t,some p =>
      match ← poll host p with
      | some _ => pure ()
      | none =>
        killOverdue host (h.spec.driverStopTimeoutS < now-t) p
        giveUpKilling host (h.spec.driverStopTimeoutS+h.spec.driverKillTimeoutS < now-t) p
    | _,_ => pure ()
  else pure ()

namespace DeviceHandle

def newGeneration (h : DeviceHandle) : DeviceHandle :=
  { h with
    driverGeneration := h.driverGeneration+1
    driverReconnectGeneration :=
      if h.driverReconnectAfterRestart then some (h.driverGeneration+1)
      else h.driverReconnectGeneration
    lastHb := none
    lastHbRecvMono := none
    driverRunningSinceMono := none
    driverPopenPid := none
    driverProcessState := .starting
    driverLastExitCode := none
    driverStopRequestedTMono := none
    driverLastError := none
    driverLastErrorKind := none
    driverNextRestartTMono := none }

def spawnFailed (previous : DeviceHandle) (exc : String) (h : DeviceHandle) : DeviceHandle :=
  { h with
    lastHb := previous.lastHb
    lastHbRecvMono := previous.lastHbRecvMono
    driverRunningSinceMono := previous.driverRunningSinceMono
    process := none
    driverPopenPid := none
    driverProcessState := .failed
    driverLastError := some exc
    driverLastErrorKind := some "spawn_error" }

def spawned (pid : Nat) (h : DeviceHandle) : DeviceHandle :=
  { h with process := some ⟨pid,none⟩,driverPopenPid := some pid }

def budgetUsed (h : DeviceHandle) : Bool :=
  h.driverRestartIsAutomatic && h.spec.driverMaxRestarts.any fun m => m ≤ h.driverRestartCount

def crashloop (h : DeviceHandle) : DeviceHandle :=
  { h with
    driverProcessState := .crashloop
    driverNextRestartTMono := none
    driverRestartIsAutomatic := false
    driverReconnectAfterRestart := false
    driverReconnectGeneration := none }

def restarting (now : ℚ) (h : DeviceHandle) : DeviceHandle :=
  { h with
    driverRestartCount :=
      if h.driverRestartIsAutomatic then h.driverRestartCount+1 else h.driverRestartCount
    driverLastRestartTMono := some now
    driverRestartHealthySinceMono := none
    driverNextRestartTMono := none }

end DeviceHandle

def startDriver (id : String) : Drv Ω Unit := do
  if ← childAlive host then pure ()
  else
    let h ← self
    if h.driverProcessState = .crashloop then pure ()
    else
      call (host.buildDriverCmd id)
      update (·.newGeneration)
      match ← attempt (call (host.popen id)) with
      | .error exc =>
        update (DeviceHandle.spawnFailed h exc)
        Prog.raise exc
      | .ok pid => update (·.spawned pid)

def maybeRestartDeviceDriver (id : String) (now : ℚ) : Drv Ω Unit := do
  let h ← self
  match h.driverNextRestartTMono with
  | none => pure ()
  | some t =>
    if now < t then pure ()
    else if ← childAlive host then pure ()
    else if h.budgetUsed then update (·.crashloop)
    else
      update (·.restarting now)
      startDriver host id

end

/-- A run that stays healthy for long enough clears the count of automatic restarts. -/
def resetDriverRestartBudgetIfHealthy (conf : DriverConf) (now : ℚ) (h : DeviceHandle) :
    DeviceHandle :=
  if h.driverRestartCount ≤ 0 ∨ h.driverProcessState ≠ .running then
    { h with driverRestartHealthySinceMono := none }
  else if h.heartbeatFromCurrentRun ∧
      h.lastHbRecvMono.any (fun hb => now-hb ≤ conf.heartbeatTimeoutS) then
    match h.driverRestartHealthySinceMono with
    | none => { h with driverRestartHealthySinceMono := some now }
    | some since =>
      if now-since < h.spec.driverRestartHealthyResetS then h
      else { h with driverRestartCount := 0,driverRestartHealthySinceMono := none }
  else { h with driverRestartHealthySinceMono := none }

def latestTelemetryBundleIsAllOk (tick : DriverTick) (id : String) (latest : ℚ) : Bool :=
  let current := (tick.telemetryLatest id).filter fun signal => signal.1 = latest
  !current.isEmpty && current.all fun signal => signal.2 = .ok

namespace DeviceHandle

def deviceOk (h : DeviceHandle) : Bool :=
  h.lastHb.any fun hb => hb.deviceReachable && hb.deviceState = .ok

def degraded (h : DeviceHandle) : Bool :=
  h.lastHb.any fun hb => !hb.deviceReachable || hb.deviceState = .degraded

def notHealthy (h : DeviceHandle) : DeviceHandle := { h with autoReconnectHealthySinceMono := none }

def healthSeen (tick : DriverTick) (id : String) (latest : ℚ) (h : DeviceHandle) : Bool :=
  !h.autoReconnectWaitingForHealth || h.autoReconnectLastSuccessMono.any (· < latest) &&
    latestTelemetryBundleIsAllOk tick id latest

/-- A device that is healthy: since now, or for long enough to forget the attempts. -/
def noteHealthy (now : ℚ) (h : DeviceHandle) : DeviceHandle :=
  match h.autoReconnectHealthySinceMono with
  | none => { h with
      autoReconnectHealthySinceMono := some now
      autoReconnectWaitingForHealth := false }
  | some since =>
    if h.spec.autoReconnect.resetAttemptsAfterOkS ≤ now-since then
      { h with
        autoReconnectAttempts := 0
        autoReconnectSuppressed := false
        autoReconnectLastError := none }
    else h

end DeviceHandle

def autoReconnectResetIfHealthy (tick : DriverTick) (id : String) (h : DeviceHandle) :
    DeviceHandle :=
  let spec := h.spec.autoReconnect
  if spec.enabled = false ∨ h.autoReconnectAttempts ≤ 0 then h
  else
    match tick.telemetryLastRecvMono id,spec.onTelemetryStaleS.orElse fun _ => spec.onDegradedS with
    | some latest,some threshold =>
      if threshold < tick.nowMono-latest then h.notHealthy
      else if spec.onDegradedS ≠ none ∧ h.deviceOk = false then h.notHealthy
      else
        let h := if spec.onDegradedS ≠ none then
            { h with autoReconnectDegradedSinceMono := none } else h
        if h.healthSeen tick id latest then h.noteHealthy tick.nowMono else h.notHealthy
    | _,_ => h.notHealthy

inductive Decision where
  | wait
  | attempt (trigger : Trigger) (ageS : ℚ)
  | restartDriver (ageS : ℚ)
  deriving DecidableEq

def noteDegraded (now : ℚ) (h : DeviceHandle) : Option ℚ × DeviceHandle :=
  match h.spec.autoReconnect.onDegradedS with
  | none => (none,{ h with autoReconnectDegradedSinceMono := none })
  | some threshold =>
    if h.degraded then
      let since := h.autoReconnectDegradedSinceMono.getD now
      (if threshold ≤ now-since then some (now-since) else none,
        { h with autoReconnectDegradedSinceMono := some since })
    else (none,{ h with autoReconnectDegradedSinceMono := none })

def telemetryStaleFor (tick : DriverTick) (id : String) (spec : AutoReconnectSpec) : Option ℚ :=
  match spec.onTelemetryStaleS,tick.telemetryLastRecvMono id with
  | some threshold,some latest =>
    if threshold < tick.nowMono-latest then some (tick.nowMono-latest) else none
  | _,_ => none

def decideOn (now : ℚ) (trigger : Trigger) (age : ℚ) (h : DeviceHandle) : Decision × DeviceHandle :=
  let spec := h.spec.autoReconnect
  if h.autoReconnectPending then (.wait,h)
  else if h.autoReconnectLastAttemptMono.any (fun t => now-t < spec.cooldownS) then (.wait,h)
  else if spec.maxAttempts.any (fun m => m ≤ h.autoReconnectAttempts) then
    if spec.restartDriverAfterMaxAttempts then (.restartDriver age,h)
    else (.wait,{ h with autoReconnectSuppressed := true })
  else (.attempt trigger age,{ h with autoReconnectLastTrigger := some trigger })

def autoReconnectShouldAttempt (conf : DriverConf) (tick : DriverTick) (id : String)
    (h : DeviceHandle) : Decision × DeviceHandle :=
  let spec := h.spec.autoReconnect
  if spec.enabled = false ∨ h.driverProcessState ≠ .running then (.wait,h)
  else if h.heartbeatRef.any (fun ref => conf.heartbeatTimeoutS < tick.nowMono-ref) then (.wait,h)
  else if h.rpcEndpoint = none then (.wait,h)
  else
    let noted := noteDegraded tick.nowMono h
    match noted.1,telemetryStaleFor tick id spec with
    | some age,_ => decideOn tick.nowMono .degraded age noted.2
    | none,some age => decideOn tick.nowMono .telemetryStale age noted.2
    | none,none => (.wait,noted.2)

section
variable {Ω : Type} (host : DriverHost Ω)

def submit (id : String) (job : Job) : Drv Ω Unit := do
  let taken ← ask (host.submit id job)
  update fun h => { h with autoReconnectPending := taken }

def autoReconnectAttempt (id : String) (now age : ℚ) (trigger : Trigger) : Drv Ω Unit := do
  update fun h => { h with
    autoReconnectAttempts := h.autoReconnectAttempts+1
    autoReconnectLastAttemptMono := some now
    autoReconnectLastError := none
    autoReconnectSuppressed := false
    autoReconnectPending := true }
  let h ← self
  submit host id (.reconnect h.autoReconnectAttempts age trigger h.driverGeneration)

def scheduleAutoReconnectDriverRestart (id : String) (age : ℚ) : Drv Ω Unit := do
  let h ← self
  if h.autoReconnectPending then pure ()
  else
    update fun h => { h with autoReconnectPending := true }
    submit host id (.driverRestart age h.autoReconnectLastTrigger h.driverGeneration)

def maybeAutoReconnectDevice (conf : DriverConf) (tick : DriverTick) (id : String) : Drv Ω Unit := do
  update (autoReconnectResetIfHealthy tick id)
  let h ← self
  update fun h => (autoReconnectShouldAttempt conf tick id h).2
  match (autoReconnectShouldAttempt conf tick id h).1 with
  | .wait => pure ()
  | .attempt trigger age => autoReconnectAttempt host id tick.nowMono age trigger
  | .restartDriver age => scheduleAutoReconnectDriverRestart host id age

def checkedOff (h : DeviceHandle) : DeviceHandle := { h with checks := h.checks+1 }

/-- The body of the loop of `supervise_device_drivers`, for a device whose lock is free. -/
def superviseDriver (conf : DriverConf) (tick : DriverTick) (id : String) : Drv Ω Unit := do
  observeDriverExit host
  enforceDeviceDriverHeartbeatTimeout host conf tick.nowMono
  enforceDeviceDriverStopTimeout host tick.nowMono
  maybeRestartDeviceDriver host id tick.nowMono
  update (resetDriverRestartBudgetIfHealthy conf tick.nowMono)
  maybeAutoReconnectDevice host conf tick id
  update checkedOff

end

structure Devices (Ω : Type) where
  devices : OrderedDict String DeviceHandle
  world : Ω

variable {Ω : Type}

def onDevice (id : String) (x : Drv Ω Unit) : Prog (Devices Ω) String Unit := do
  let m ← Prog.get
  match m.devices.get? id with
  | none => Prog.raise ("Unknown device_id '" ++ id ++ "'")
  | some h => zoom (fun m => ⟨h,m.world⟩) (fun s m => ⟨m.devices.set id s.handle,s.world⟩) x

def superviseDeviceDrivers (host : DriverHost Ω) (conf : DriverConf) (tick : DriverTick) :
    Prog (Devices Ω) String Unit := do
  let m ← Prog.get
  Prog.forEach (fun id => if tick.locked id then pure ()
    else onDevice id (superviseDriver host conf tick id)) m.devices.keys

end ExperimentControl.Supervision.Drivers

import ExperimentControl.Supervision.Drivers

/-!
The workers of the automatic reconnects (`_manager/process_supervision.py`). A tick queues the
work and names a trigger for it; the worker looks at the device again before it does anything.
-/

namespace ExperimentControl.Supervision.Drivers
open Lib Prog Option Prod

def Trigger.text : Trigger → String
  | .degraded => "degraded"
  | .telemetryStale => "telemetry_stale"

/-- `str` of a trigger that was remembered, or not. -/
def triggerText (trigger : Option Trigger) : String := trigger.elim "None" Trigger.text

/-- What a trigger asks of the device at the time of a tick. -/
def Trigger.isActive (tick : DriverTick) (id : String) (h : DeviceHandle) : Trigger → Bool
  | .degraded => h.degraded && h.autoReconnectDegradedSinceMono.any fun since =>
      h.spec.autoReconnect.onDegradedS.any fun threshold => threshold ≤ tick.nowMono-since
  | .telemetryStale => h.spec.autoReconnect.onTelemetryStaleS.any fun threshold =>
      (tick.telemetryLastRecvMono id).any fun latest => threshold < tick.nowMono-latest

def DeviceHandle.heartbeatIsStale (conf : DriverConf) (now : ℚ) (h : DeviceHandle) : Bool :=
  h.heartbeatRef.any fun ref => conf.heartbeatTimeoutS < now-ref

/-- Whether the work that was queued is still called for. `current` says whether the manager still
has this handle for the device. -/
def autoReconnectTriggerIsActive (conf : DriverConf) (tick : DriverTick) (id : String)
    (current : Bool) (expectedGeneration : Int) (trigger : Option Trigger) (h : DeviceHandle) :
    Bool :=
  if current = false then false
  else if h.driverGeneration ≠ expectedGeneration then false
  else if h.driverProcessState ≠ .running then false
  else if h.heartbeatIsStale conf tick.nowMono then false
  else trigger.any (Trigger.isActive tick id h)

namespace DeviceHandle

def escalated (now : ℚ) (error : String) (h : DeviceHandle) : DeviceHandle :=
  { h with
    driverProcessState := .failed
    driverRunningSinceMono := none
    driverStopRequestedTMono := some now
    driverLastErrorKind := some "auto_reconnect_exhausted"
    driverLastError := some error
    driverReconnectAfterRestart := true
    driverReconnectGeneration := none
    driverRestartIsAutomatic := true
    driverNextRestartTMono := some (now+h.spec.driverRestartBackoffS)
    autoReconnectDegradedSinceMono := none }

def workDone (h : DeviceHandle) : DeviceHandle := { h with autoReconnectPending := false }

def exhausted (h : DeviceHandle) : Bool :=
  h.spec.autoReconnect.maxAttempts.any fun m => m ≤ h.autoReconnectAttempts

end DeviceHandle

section
variable {Ω : Type} (host : DriverHost Ω)

def escalate (conf : DriverConf) (tick : DriverTick) (id : String) (current : Bool) (age : ℚ)
    (trigger : Option Trigger) (expectedGeneration : Int) : Drv Ω Unit := do
  let h ← self
  if autoReconnectTriggerIsActive conf tick id current expectedGeneration trigger h = false then
    pure ()
  else if h.exhausted = false then pure ()
  else
    update (DeviceHandle.escalated tick.nowMono ("auto-reconnect trigger '" ++ triggerText trigger ++
      "' remained active for " ++ host.fixed1 age ++ "s after " ++
      toString h.autoReconnectAttempts ++ " reconnect attempts"))
    terminateStale host

def runAutoReconnectDriverRestart (conf : DriverConf) (tick : DriverTick) (id : String)
    (current : Bool) (age : ℚ) (trigger : Option Trigger) (expectedGeneration : Int) :
    Drv Ω Unit := do
  escalate host conf tick id current age trigger expectedGeneration
  update DeviceHandle.workDone

end

/-- The reconnect of a device: `answer` says what the calls of the driver came to, and `completion`
when they did. -/
def runAutoReconnect (conf : DriverConf) (tick : DriverTick) (id : String) (current : Bool)
    (trigger : Trigger) (expectedGeneration : Int) (answer : Except String Unit) (completion : ℚ)
    (h : DeviceHandle) : DeviceHandle :=
  if autoReconnectTriggerIsActive conf tick id current expectedGeneration (some trigger) h = false
  then h.workDone
  else
    match answer with
    | .error exc => { h with
        autoReconnectLastError := some exc
        autoReconnectLastAttemptMono := some completion }.workDone
    | .ok _ => { h with
        autoReconnectLastSuccessMono := some completion
        autoReconnectLastAttemptMono := some completion
        autoReconnectLastError := none
        autoReconnectWaitingForHealth := true }.workDone

section
variable {Ω : Type} (host : DriverHost Ω) (conf : DriverConf) (tick : DriverTick) (id : String)

def DeviceHandle.attempting (now : ℚ) (h : DeviceHandle) : DeviceHandle :=
  { h with
    autoReconnectAttempts := h.autoReconnectAttempts+1
    autoReconnectLastAttemptMono := some now
    autoReconnectLastError := none
    autoReconnectSuppressed := false }

/-- What `maybeAutoReconnectDevice` does to a handle, and what it queues. `taken` says whether the
executor takes the work. -/
def turn (taken : Bool) (h : DeviceHandle) : DeviceHandle × Option Job :=
  let decided := autoReconnectShouldAttempt conf tick id (autoReconnectResetIfHealthy tick id h)
  let h := decided.2
  match decided.1 with
  | .wait => (h,none)
  | .attempt trigger age =>
    ({ h.attempting tick.nowMono with autoReconnectPending := taken },
      some (.reconnect (h.autoReconnectAttempts+1) age trigger h.driverGeneration))
  | .restartDriver age =>
    if h.autoReconnectPending then (h,none)
    else ({ h with autoReconnectPending := taken },
      some (.driverRestart age h.autoReconnectLastTrigger h.driverGeneration))

theorem run_maybeAutoReconnect (n : Nat) (h : DeviceHandle) (ω : Ω) : ∃ taken ω',
    (maybeAutoReconnectDevice host conf tick id).run n ⟨h,ω⟩ =
      .ok () ⟨(turn conf tick id taken h).1,ω'⟩ ∧
    (∀ job ∈ (turn conf tick id taken h).2, host.submit id job ω = (taken,ω')) ∧
    ((turn conf tick id taken h).2 = none → ω' = ω) := by
  unfold turn maybeAutoReconnectDevice
  simp only [self,update,run_bind,run_get,run_modify,run_pure]
  generalize
    autoReconnectShouldAttempt conf tick id (autoReconnectResetIfHealthy tick id h) = decided
  obtain ⟨decision,h'⟩ := decided
  cases decision with
  | wait => exact ⟨false,ω,rfl,fun job hjob => (by cases hjob),fun _ => rfl⟩
  | attempt trigger age =>
    let job := Job.reconnect (h'.autoReconnectAttempts+1) age trigger h'.driverGeneration
    refine ⟨(host.submit id job ω).1,(host.submit id job ω).2,rfl,fun queued hqueued => ?_,fun hnone => by cases hnone⟩
    obtain rfl := mem_some_iff.1 hqueued
    rfl
  | restartDriver age =>
    simp only [scheduleAutoReconnectDriverRestart,self,run_bind,run_get,run_pure]
    by_cases hpending : h'.autoReconnectPending = true
    · exact ⟨false,ω,by simp [hpending],fun job hjob => (by simp [hpending] at hjob),fun _ => rfl⟩
    · let job := Job.driverRestart age h'.autoReconnectLastTrigger h'.driverGeneration
      refine ⟨(host.submit id job ω).1,(host.submit id job ω).2,?_,fun queued hqueued => ?_,
        fun hnone => by simp [hpending] at hnone⟩
      · simp only [if_neg hpending]
        rfl
      · simp only [if_neg hpending] at hqueued
        obtain rfl := mem_some_iff.1 hqueued
        rfl

def restartWork (current : Bool) (age : ℚ) (trigger : Option Trigger) (expectedGeneration : Int)
    (h : DeviceHandle) : DeviceHandle :=
  if autoReconnectTriggerIsActive conf tick id current expectedGeneration trigger h = true ∧
      h.exhausted = true then
    (h.escalated tick.nowMono ("auto-reconnect trigger '" ++ triggerText trigger ++
      "' remained active for " ++ host.fixed1 age ++ "s after " ++
      toString h.autoReconnectAttempts ++ " reconnect attempts")).workDone
  else h.workDone

variable {host conf tick id}

/-- The handle is `h`, whatever is known of its child. -/
def IsUpToProcess (h : DeviceHandle) (s : DriverScope Ω) : Prop :=
  ∃ process, s.handle = { h with process := process }

theorem total_terminateStale (h : DeviceHandle) :
    Total (IsUpToProcess h) (terminateStale host) (fun _ => IsUpToProcess h)
      (fun _ _ => False) := by
  have hcall : ∀ {α : Type} (f : Ω → Except String α × Ω),
      Total (IsUpToProcess h) (call f) (fun _ => IsUpToProcess h)
        (fun _ => IsUpToProcess h) := by
    intro α f
    refine .ofFun ?_ ?_
    · rintro s a s' hs hs'
      obtain ⟨-,rfl⟩ := mk.inj hs'
      exact hs
    · rintro s e s' hs hs'
      obtain ⟨-,rfl⟩ := mk.inj hs'
      exact hs
  have hpoll : ∀ p, Total (IsUpToProcess h) (poll host p) (fun _ => IsUpToProcess h)
      (fun _ => IsUpToProcess h) := by
    intro p
    unfold poll
    split
    · exact .pure fun s hs => hs
    · refine (hcall _).bind fun rc => ?_
      refine .bind (Q := fun _ => IsUpToProcess h) (.modify ?_) fun _ => .pure fun s hs => hs
      rintro s ⟨process,hs⟩
      exact ⟨some { p with returncode := rc },by rw [hs]⟩
  unfold terminateStale
  refine .bind (Q := fun _ => IsUpToProcess h) (.bind (Q := fun _ => IsUpToProcess h)
    (.get fun s hs => hs) fun s => .pure fun s hs => hs) fun h' => ?_
  split
  · exact .pure fun s hs => hs
  · refine .bind (Q := fun _ => IsUpToProcess h) ((hpoll _).attempt (fun _ _ hs => hs)
      fun _ _ hs => hs) fun rc => ?_
    split
    · exact .bind (Q := fun _ => IsUpToProcess h) ((hcall _).attempt (fun _ _ hs => hs)
        fun _ _ hs => hs) fun _ => .pure fun s hs => hs
    · exact .pure fun s hs => hs
    · exact .pure fun s hs => hs

theorem total_restart (current : Bool) (age : ℚ) (trigger : Option Trigger) (generation : Int)
    (h : DeviceHandle) :
    Total (fun s => s.handle = h)
      (runAutoReconnectDriverRestart host conf tick id current age trigger generation)
      (fun _ => IsUpToProcess (restartWork host conf tick id current age trigger generation h))
      (fun _ _ => False) := by
  have hdone : ∀ r : DeviceHandle, Total (IsUpToProcess r)
      (update (Ω := Ω) DeviceHandle.workDone) (fun _ => IsUpToProcess r.workDone) (fun _ _ => False) := by
    refine fun r => .modify ?_
    rintro s ⟨process,hs⟩
    exact ⟨process,by rw [hs]; rfl⟩
  have hself : Total (fun s => s.handle = h) (self (Ω := Ω)) (fun h' s => h' = h ∧ s.handle = h)
      (fun _ _ => False) := by
    refine .bind (Q := fun s s' => s = s' ∧ s'.handle = h) (.get fun s hs => ⟨rfl,hs⟩) fun s => ?_
    refine .pure ?_
    rintro s' ⟨rfl,hs⟩
    exact ⟨hs,hs⟩
  unfold runAutoReconnectDriverRestart restartWork
  cases hactive : autoReconnectTriggerIsActive conf tick id current generation trigger h with
  | false =>
    rw [if_neg (by simp)]
    refine .bind (hself.bind fun h' => .each ?_) fun _ => hdone h
    rintro s ⟨rfl,hs⟩
    rw [if_pos hactive]
    exact .pure fun s' hs' => ⟨h'.process,by rw [hs',hs]⟩
  | true =>
    cases hexhausted : h.exhausted with
    | false =>
      rw [if_neg (by simp)]
      refine .bind (hself.bind fun h' => .each ?_) fun _ => hdone h
      rintro s ⟨rfl,hs⟩
      rw [if_neg (by simp [hactive]),if_pos hexhausted]
      exact .pure fun s' hs' => ⟨h'.process,by rw [hs',hs]⟩
    | true =>
      rw [if_pos ⟨rfl,rfl⟩]
      refine .bind (hself.bind fun h' => .each ?_) fun _ => hdone _
      rintro s ⟨rfl,hs⟩
      rw [if_neg (by simp [hactive]),if_neg (by simp [hexhausted])]
      refine .bind (.modify ?_) fun _ => total_terminateStale _
      rintro s' rfl
      exact ⟨h'.process,by rw [hs]; rfl⟩

end

/-- The rest of the manager may do anything to a handle, but for its fields about the reconnects. -/
def DeviceHandle.withReconnects (h' h : DeviceHandle) : DeviceHandle :=
  { h' with
    spec := h.spec
    autoReconnectAttempts := h.autoReconnectAttempts
    autoReconnectLastAttemptMono := h.autoReconnectLastAttemptMono
    autoReconnectHealthySinceMono := h.autoReconnectHealthySinceMono
    autoReconnectLastSuccessMono := h.autoReconnectLastSuccessMono
    autoReconnectLastError := h.autoReconnectLastError
    autoReconnectSuppressed := h.autoReconnectSuppressed
    autoReconnectDegradedSinceMono := h.autoReconnectDegradedSinceMono
    autoReconnectWaitingForHealth := h.autoReconnectWaitingForHealth
    autoReconnectLastTrigger := h.autoReconnectLastTrigger
    autoReconnectPending := h.autoReconnectPending }

structure Recovery where
  handle : DeviceHandle
  current : Bool := true
  telemetryLastRecvMono : Option ℚ := none
  telemetryLatest : List (ℚ × TelemetryQuality) := []
  nowMono : ℚ := 0
  queue : List Job := []

inductive RecoveryEvent where
  /-- The supervision looks at the device. `taken` says whether the executor takes new work. -/
  | turn (t : ℚ) (taken : Bool)
  | work (t : ℚ) (answer : Except String Unit) (completion : ℚ)
  | other (t : ℚ) (handle : DeviceHandle) (current : Bool) (telemetryLastRecvMono : Option ℚ)
    (telemetryLatest : List (ℚ × TelemetryQuality))

namespace Recovery

def clocked (t : ℚ) (s : Recovery) : Recovery := { s with nowMono := max s.nowMono t }

@[simp] theorem clocked_handle (t : ℚ) (s : Recovery) : (s.clocked t).handle = s.handle := rfl

@[simp] theorem clocked_queue (t : ℚ) (s : Recovery) : (s.clocked t).queue = s.queue := rfl

def tick (s : Recovery) : DriverTick :=
  { nowMono := s.nowMono
    telemetryLastRecvMono := fun _ => s.telemetryLastRecvMono
    telemetryLatest := fun _ => s.telemetryLatest }

section
variable {Ω : Type} (host : DriverHost Ω) (conf : DriverConf) (id : String)

def worked (answer : Except String Unit) (completion : ℚ) (s : Recovery) : Job → DeviceHandle
  | .reconnect _ _ trigger generation =>
    runAutoReconnect conf s.tick id s.current trigger generation answer completion s.handle
  | .driverRestart age trigger generation =>
    restartWork host conf s.tick id s.current age trigger generation s.handle

def step (s : Recovery) : RecoveryEvent → Recovery
  | .turn t taken =>
    let s := s.clocked t
    let r := Drivers.turn conf s.tick id taken s.handle
    { s with handle := r.1,queue := s.queue ++ if taken then r.2.toList else [] }
  | .work t answer completion =>
    let s := s.clocked t
    match s.queue with
    | [] => s
    | job :: rest => { s with handle := worked host conf id answer completion s job,queue := rest }
  | .other t handle current recv latest =>
    { s.clocked t with
      handle := handle.withReconnects s.handle
      current := current
      telemetryLastRecvMono := recv
      telemetryLatest := latest }

theorem step_turn (s : Recovery) (t : ℚ) (taken : Bool) :
    s.step host conf id (.turn t taken) = { s.clocked t with
      handle := (Drivers.turn conf (s.clocked t).tick id taken s.handle).1
      queue := s.queue ++
        if taken then (Drivers.turn conf (s.clocked t).tick id taken s.handle).2.toList else [] } :=
  rfl

theorem step_work_of_empty {s : Recovery} (hqueue : s.queue = []) (t : ℚ)
    (answer : Except String Unit) (completion : ℚ) :
    s.step host conf id (.work t answer completion) = s.clocked t := by
  simp [step,hqueue]

theorem step_work {s : Recovery} {job : Job} {rest : List Job} (hqueue : s.queue = job :: rest)
    (t : ℚ) (answer : Except String Unit) (completion : ℚ) :
    s.step host conf id (.work t answer completion) = { s.clocked t with
      handle := worked host conf id answer completion (s.clocked t) job
      queue := rest } := by
  simp [step,hqueue]

/-- What can come about with a device that has been configured. -/
inductive Reachable (spec : DeviceSpec) : Recovery → Prop where
  | start (now : ℚ) : Reachable spec { handle := { spec := spec },nowMono := now }
  | next {s : Recovery} (hs : Reachable spec s) (event : RecoveryEvent) :
    Reachable spec (s.step host conf id event)

end

/-- The supervision, which goes over the devices that the manager has, decides at a time to restart
the driver. -/
structure Escalates (conf : DriverConf) (id : String) (t age : ℚ) (s : Recovery) : Prop where
  current : s.current = true
  decided : (autoReconnectShouldAttempt conf (s.clocked t).tick id
    (autoReconnectResetIfHealthy (s.clocked t).tick id s.handle)).1 = .restartDriver age

/-- Neither the generation of the driver nor what the health of the device is judged by differs. -/
structure SameHealth (s s' : Recovery) : Prop where
  current : s'.current = s.current
  generation : s'.handle.driverGeneration = s.handle.driverGeneration
  state : s'.handle.driverProcessState = s.handle.driverProcessState
  heartbeat : s'.handle.lastHb = s.handle.lastHb
  telemetry : s'.telemetryLastRecvMono = s.telemetryLastRecvMono

/-- What happens until a worker comes to the work that is queued: the supervision looks at the
device again and again, and nothing else touches its health. -/
inductive Awaits {Ω : Type} (host : DriverHost Ω) (conf : DriverConf) (id : String) (s : Recovery) :
    Recovery → Prop where
  | start : Awaits host conf id s s
  | turn {s' : Recovery} (h : Awaits host conf id s s') (t : ℚ) (taken : Bool) :
    Awaits host conf id s (s'.step host conf id (.turn t taken))
  | other {s' : Recovery} (h : Awaits host conf id s s') (t : ℚ) (handle : DeviceHandle)
    (current : Bool) (recv : Option ℚ) (latest : List (ℚ × TelemetryQuality))
    (hsame : s'.SameHealth (s'.step host conf id (.other t handle current recv latest))) :
    Awaits host conf id s (s'.step host conf id (.other t handle current recv latest))

structure RestartScheduled (now : ℚ) (h : DeviceHandle) : Prop where
  state : h.driverProcessState = .failed
  kind : h.driverLastErrorKind = some "auto_reconnect_exhausted"
  automatic : h.driverRestartIsAutomatic = true
  time : h.driverNextRestartTMono = some (now+h.spec.driverRestartBackoffS)

end Recovery

def DeviceHandle.inputs (h : DeviceHandle) :
    DeviceSpec × Int × Option ℚ × Int × ManagedProcessState × Option DriverHeartbeat :=
  (h.spec,h.autoReconnectAttempts,h.autoReconnectDegradedSinceMono,h.driverGeneration,
    h.driverProcessState,h.lastHb)

/-- The time that a device has been degraded since is set when it is needed, and only then. -/
def DeviceHandle.Settled (h : DeviceHandle) : Prop :=
  h.autoReconnectDegradedSinceMono.isSome = (h.degraded && h.spec.autoReconnect.onDegradedS.isSome)

section
variable {conf : DriverConf} {tick : DriverTick} {id : String} {h : DeviceHandle}

theorem settled_noteDegraded (now : ℚ) (h : DeviceHandle) : (noteDegraded now h).2.Settled := by
  unfold noteDegraded
  cases hthreshold : h.spec.autoReconnect.onDegradedS with
  | none => simp [DeviceHandle.Settled,hthreshold]
  | some threshold =>
    cases hdegraded : h.degraded with
    | false =>
      have hdegraded' : DeviceHandle.degraded { h with autoReconnectDegradedSinceMono := none } =
        false := hdegraded
      simp [DeviceHandle.Settled,hdegraded']
    | true => 
      simp only [if_true,DeviceHandle.Settled,hthreshold,isSome_some,Bool.and_true]
      exact hdegraded.symm

theorem DeviceHandle.Settled.noteDegraded (hs : h.Settled) (now : ℚ) :
    (noteDegraded now h).2 = h := by
  unfold Drivers.noteDegraded
  rw [DeviceHandle.Settled] at hs
  cases hthreshold : h.spec.autoReconnect.onDegradedS with
  | none =>
    rw [hthreshold] at hs
    have hnone : h.autoReconnectDegradedSinceMono = none := by simpa using hs
    simp [← hnone]
  | some threshold =>
    rw [hthreshold] at hs
    cases hdegraded : h.degraded with
    | false =>
      have hnone : h.autoReconnectDegradedSinceMono = none := by simpa [hdegraded] using hs
      simp [← hnone]
    | true =>
      obtain ⟨since,hsince⟩ := isSome_iff_exists.1 (hs.trans (by simp [hdegraded]))
      have hkept : some (h.autoReconnectDegradedSinceMono.getD now) =
          h.autoReconnectDegradedSinceMono := by
        rw [hsince]
        rfl
      simp only [if_true]
      rw [hkept]

theorem isActive_degraded_iff : Trigger.degraded.isActive tick id h = true ↔ h.degraded = true ∧
    ∃ since threshold, h.autoReconnectDegradedSinceMono = some since ∧
      h.spec.autoReconnect.onDegradedS = some threshold ∧ threshold ≤ tick.nowMono-since := by
  simp [Trigger.isActive,any_eq_true]

theorem isActive_telemetryStale_iff : Trigger.telemetryStale.isActive tick id h = true ↔
    ∃ threshold latest, h.spec.autoReconnect.onTelemetryStaleS = some threshold ∧
      tick.telemetryLastRecvMono id = some latest ∧ threshold < tick.nowMono-latest := by
  simp [Trigger.isActive,any_eq_true]

variable {trigger : Trigger}

theorem isActive_later {later : DriverTick} {h' : DeviceHandle}
    (hactive : trigger.isActive tick id h = true) (hinputs : h'.inputs = h.inputs)
    (htelemetry : later.telemetryLastRecvMono id = tick.telemetryLastRecvMono id)
    (htime : tick.nowMono ≤ later.nowMono) : trigger.isActive later id h' = true := by
  simp only [DeviceHandle.inputs,Prod.mk.injEq] at hinputs
  obtain ⟨hspec,-,hsince,-,-,hheartbeat⟩ := hinputs
  cases trigger with
  | degraded =>
    obtain ⟨hdegraded,since,threshold,h₁,h₂,hold⟩ := isActive_degraded_iff.1 hactive
    refine isActive_degraded_iff.2 ⟨?_,since,threshold,hsince.trans h₁,?_,
      hold.trans (sub_le_sub_right htime _)⟩
    · rw [DeviceHandle.degraded,hheartbeat]
      exact hdegraded
    · rw [hspec]
      exact h₂
  | telemetryStale =>
    obtain ⟨threshold,latest,h₁,h₂,hold⟩ := isActive_telemetryStale_iff.1 hactive
    refine isActive_telemetryStale_iff.2 ⟨threshold,latest,?_,htelemetry.trans h₂,
      hold.trans_le (sub_le_sub_right htime _)⟩
    rw [hspec]
    exact h₁

theorem deviceOk_of_degraded (hdegraded : h.degraded = true) : h.deviceOk = false := by
  unfold DeviceHandle.degraded at hdegraded
  unfold DeviceHandle.deviceOk
  cases hlast : h.lastHb with
  | none => rfl
  | some heartbeat =>
    rw [hlast] at hdegraded
    cases hreachable : heartbeat.deviceReachable with
    | false => simp [hreachable]
    | true =>
      have hstate : heartbeat.deviceState = .degraded := by simpa [hreachable] using hdegraded
      simp [hstate]

theorem reset_of_active (hactive : trigger.isActive tick id h = true) :
    autoReconnectResetIfHealthy tick id h = h ∨
      autoReconnectResetIfHealthy tick id h = h.notHealthy := by
  unfold autoReconnectResetIfHealthy
  dsimp only
  split
  · exact .inl rfl
  right
  cases trigger with
  | telemetryStale =>
    obtain ⟨threshold,latest,h₁,h₂,hold⟩ := isActive_telemetryStale_iff.1 hactive
    simp only [h₁,h₂,orElse_some]
    rw [if_pos hold]
  | degraded =>
    obtain ⟨hdegraded,since,threshold,-,h₂,-⟩ := isActive_degraded_iff.1 hactive
    split
    · split
      · rfl
      · rw [if_pos ⟨by simp [h₂],deviceOk_of_degraded hdegraded⟩]
    · rfl

theorem decideOn_restartDriver {now age age' : ℚ}
    (hd : (decideOn now trigger age h).1 = .restartDriver age') :
    decideOn now trigger age h = (.restartDriver age',h) ∧ h.autoReconnectPending = false ∧
      h.exhausted = true := by
  unfold decideOn at hd ⊢
  dsimp only at hd ⊢
  split at hd
  · cases hd
  rename_i hpending
  split at hd
  · cases hd
  rename_i hcooldown
  split at hd
  · rename_i hexhausted
    split at hd
    · rename_i hrestarts
      cases hd
      exact ⟨by rw [if_neg hpending,if_neg hcooldown,if_pos hexhausted,if_pos hrestarts],
        by simpa using hpending,hexhausted⟩
    · cases hd
  · cases hd

theorem isActive_noteDegraded {age : ℚ} (h : DeviceHandle)
    (hage : (noteDegraded tick.nowMono h).1 = some age) :
    Trigger.degraded.isActive tick id (noteDegraded tick.nowMono h).2 = true := by
  unfold noteDegraded at hage ⊢
  cases hthreshold : h.spec.autoReconnect.onDegradedS with
  | none => simp [hthreshold] at hage
  | some threshold =>
    simp only [hthreshold] at hage ⊢
    split at hage
    · rename_i hdegraded
      simp only at hage
      split at hage
      · rename_i hold
        rw [if_pos hdegraded]
        exact isActive_degraded_iff.2 ⟨hdegraded,_,threshold,rfl,hthreshold,hold⟩
      · cases hage
    · cases hage

theorem isActive_telemetryStaleFor {age : ℚ}
    (hage : telemetryStaleFor tick id h.spec.autoReconnect = some age) :
    Trigger.telemetryStale.isActive tick id h = true := by
  unfold telemetryStaleFor at hage
  split at hage
  · rename_i threshold latest h₁ h₂
    split at hage
    · rename_i hold
      exact isActive_telemetryStale_iff.2 ⟨threshold,latest,h₁,h₂,hold⟩
    · cases hage
  · cases hage

theorem noteDegraded_eq (now : ℚ) (h : DeviceHandle) :
    ∃ since, (noteDegraded now h).2 = { h with autoReconnectDegradedSinceMono := since } := by
  unfold noteDegraded
  split
  · exact ⟨_,rfl⟩
  · split
    · exact ⟨_,rfl⟩
    · exact ⟨_,rfl⟩

theorem restartDriver_decided {age : ℚ}
    (hd : (autoReconnectShouldAttempt conf tick id h).1 = .restartDriver age) :
    autoReconnectShouldAttempt conf tick id h = (.restartDriver age,(noteDegraded tick.nowMono h).2) ∧
      h.driverProcessState = .running ∧ h.autoReconnectPending = false ∧ h.exhausted = true ∧
      ∃ trigger, Trigger.isActive tick id (noteDegraded tick.nowMono h).2 trigger = true := by
  unfold autoReconnectShouldAttempt at hd ⊢
  dsimp only at hd ⊢
  obtain ⟨since,hnoted⟩ := noteDegraded_eq tick.nowMono h
  split at hd
  · cases hd
  rename_i hrunning
  split at hd
  · cases hd
  rename_i hfresh
  split at hd
  · cases hd
  rename_i hendpoint
  rw [if_neg hrunning,if_neg hfresh,if_neg hendpoint]
  have hstate : h.driverProcessState = .running := not_not.1 fun hne => hrunning (.inr hne)
  have hfacts : ∀ {trigger : Trigger} {age₀ : ℚ},
      (decideOn tick.nowMono trigger age₀ (noteDegraded tick.nowMono h).2).1 = .restartDriver age →
      decideOn tick.nowMono trigger age₀ (noteDegraded tick.nowMono h).2 =
        (.restartDriver age,(noteDegraded tick.nowMono h).2) ∧
      h.autoReconnectPending = false ∧ h.exhausted = true := by
    intro trigger age₀ hdecided
    obtain ⟨heq,hpending,hexhausted⟩ := decideOn_restartDriver hdecided
    rw [hnoted] at hpending hexhausted
    exact ⟨heq,hpending,hexhausted⟩
  cases hdegraded : (noteDegraded tick.nowMono h).1 with
  | some age₀ =>
    rw [hdegraded] at hd
    obtain ⟨heq,hpending,hexhausted⟩ := hfacts hd
    exact ⟨heq,hstate,hpending,hexhausted,.degraded,isActive_noteDegraded h hdegraded⟩
  | none =>
    rw [hdegraded] at hd
    cases hstale : telemetryStaleFor tick id h.spec.autoReconnect with
    | none =>
      rw [hstale] at hd
      cases hd
    | some age₀ =>
      rw [hstale] at hd
      obtain ⟨heq,hpending,hexhausted⟩ := hfacts hd
      have hstale' : telemetryStaleFor tick id (noteDegraded tick.nowMono h).2.spec.autoReconnect =
          some age₀ := by
        rw [hnoted]
        exact hstale
      exact ⟨heq,hstate,hpending,hexhausted,.telemetryStale,isActive_telemetryStaleFor hstale'⟩

theorem decideOn_of_pending {now age : ℚ} (hpending : h.autoReconnectPending = true) :
    decideOn now trigger age h = (.wait,h) := by
  simp [decideOn,hpending]

variable (conf tick id)

theorem shouldAttempt_of_pending (hpending : h.autoReconnectPending = true) :
    (autoReconnectShouldAttempt conf tick id h).1 = .wait ∧
      ((autoReconnectShouldAttempt conf tick id h).2 = h ∨
        (autoReconnectShouldAttempt conf tick id h).2 = (noteDegraded tick.nowMono h).2) := by
  obtain ⟨since,hnoted⟩ := noteDegraded_eq tick.nowMono h
  have hpending' : (noteDegraded tick.nowMono h).2.autoReconnectPending = true := by
    rw [hnoted]
    exact hpending
  unfold autoReconnectShouldAttempt
  dsimp only
  split
  · exact ⟨rfl,.inl rfl⟩
  split
  · exact ⟨rfl,.inl rfl⟩
  split
  · exact ⟨rfl,.inl rfl⟩
  split
  · rw [decideOn_of_pending hpending']
    exact ⟨rfl,.inr rfl⟩
  · rw [decideOn_of_pending hpending']
    exact ⟨rfl,.inr rfl⟩
  · exact ⟨rfl,.inr rfl⟩

def DeviceHandle.marks (h : DeviceHandle) : Bool × Option Trigger × Int × DeviceSpec :=
  (h.autoReconnectPending,h.autoReconnectLastTrigger,h.driverGeneration,h.spec)

theorem marks_reset (h : DeviceHandle) :
    (autoReconnectResetIfHealthy tick id h).marks = h.marks := by
  have hhealthy : ∀ (now : ℚ) (h : DeviceHandle), (h.noteHealthy now).marks = h.marks := by
    intro now h
    unfold DeviceHandle.noteHealthy
    split
    · rfl
    · split <;> rfl
  have hseen : ∀ (latest : ℚ) (h : DeviceHandle), (if h.healthSeen tick id latest = true then
      h.noteHealthy tick.nowMono else h.notHealthy).marks = h.marks := by
    intro latest h
    split
    · exact hhealthy _ h
    · rfl
  have hmaybe : ∀ (c : Prop) [Decidable c] (h : DeviceHandle),
      (if c then { h with autoReconnectDegradedSinceMono := none } else h).marks = h.marks := by
    intro c _ h
    split <;> rfl
  unfold autoReconnectResetIfHealthy
  dsimp only
  split
  · rfl
  split
  · split
    · rfl
    split
    · rfl
    exact (hseen _ _).trans (hmaybe _ h)
  · rfl

theorem turn_of_pending (hpending : h.autoReconnectPending = true) (taken : Bool) :
    (turn conf tick id taken h).2 = none ∧
      ((turn conf tick id taken h).1 = autoReconnectResetIfHealthy tick id h ∨
        (turn conf tick id taken h).1 =
          (noteDegraded tick.nowMono (autoReconnectResetIfHealthy tick id h)).2) := by
  have hpending' : (autoReconnectResetIfHealthy tick id h).autoReconnectPending = true :=
    (congrArg fst (marks_reset tick id h)).trans hpending
  obtain ⟨hwait,hkept⟩ := shouldAttempt_of_pending conf tick id hpending'
  unfold turn
  dsimp only
  rw [hwait]
  exact ⟨rfl,hkept⟩

variable {tick id} in
theorem turn_waits (hpending : h.autoReconnectPending = true) (hsettled : h.Settled)
    (hactive : trigger.isActive tick id h = true) (taken : Bool) :
    turn conf tick id taken h = (h,none) ∨ turn conf tick id taken h = (h.notHealthy,none) := by
  obtain ⟨hnone,hkept⟩ := turn_of_pending conf tick id hpending taken
  have hturn : (turn conf tick id taken h).1 = autoReconnectResetIfHealthy tick id h := by
    rcases hkept with hkept | hkept
    · exact hkept
    rw [hkept]
    rcases reset_of_active hactive with hreset | hreset
    · rw [hreset,hsettled.noteDegraded]
    · rw [hreset]
      exact DeviceHandle.Settled.noteDegraded (h := h.notHealthy) hsettled _
  rcases reset_of_active hactive with hreset | hreset
  · exact .inl (Prod.ext (hturn.trans hreset) hnone)
  · exact .inr (Prod.ext (hturn.trans hreset) hnone)

theorem pending_decideOn (now age : ℚ) (trigger : Trigger) (h : DeviceHandle) :
    (decideOn now trigger age h).2.autoReconnectPending = h.autoReconnectPending := by
  unfold decideOn
  dsimp only
  split
  · rfl
  split
  · rfl
  split
  · split <;> rfl
  · rfl

theorem pending_shouldAttempt (h : DeviceHandle) :
    (autoReconnectShouldAttempt conf tick id h).2.autoReconnectPending = h.autoReconnectPending := by
  obtain ⟨since,hnoted⟩ := noteDegraded_eq tick.nowMono h
  have hkept : (noteDegraded tick.nowMono h).2.autoReconnectPending = h.autoReconnectPending := by
    rw [hnoted]
  unfold autoReconnectShouldAttempt
  dsimp only
  split
  · rfl
  split
  · rfl
  split
  · rfl
  split
  · exact (pending_decideOn _ _ _ _).trans hkept
  · exact (pending_decideOn _ _ _ _).trans hkept
  · exact hkept

theorem pending_turn (taken : Bool) (h : DeviceHandle) : (turn conf tick id taken h).2 = none ∧
        (turn conf tick id taken h).1.autoReconnectPending = h.autoReconnectPending ∨
      (∃ job, (turn conf tick id taken h).2 = some job) ∧ h.autoReconnectPending = false ∧
        (turn conf tick id taken h).1.autoReconnectPending = taken := by
  by_cases hpending : h.autoReconnectPending = true
  · obtain ⟨hnone,hkept⟩ := turn_of_pending conf tick id hpending taken
    have hreset := congrArg fst (marks_reset tick id h)
    refine .inl ⟨hnone,?_⟩
    rcases hkept with hkept | hkept
    · rw [hkept]
      exact hreset
    · obtain ⟨since,hnoted⟩ := noteDegraded_eq tick.nowMono (autoReconnectResetIfHealthy tick id h)
      rw [hkept,hnoted]
      exact hreset
  · have hfalse : h.autoReconnectPending = false := by simpa using hpending
    have hkept := (pending_shouldAttempt conf tick id
      (autoReconnectResetIfHealthy tick id h)).trans (congrArg fst (marks_reset tick id h))
    unfold turn
    dsimp only
    split
    · exact .inl ⟨rfl,hkept⟩
    · exact .inr ⟨⟨_,rfl⟩,hfalse,rfl⟩
    · rw [if_neg (by rw [hkept]; exact hpending)]
      exact .inr ⟨⟨_,rfl⟩,hfalse,rfl⟩

end

namespace Recovery

section
variable {Ω : Type} {host : DriverHost Ω} {conf : DriverConf} {id : String} {s s' : Recovery}

/-- At most one piece of work is queued, and the handle is marked as long as it is. -/
inductive Queued (s : Recovery) : Prop where
  | none (hqueue : s.queue = []) (hpending : s.handle.autoReconnectPending = false)
  | one (job : Job) (hqueue : s.queue = [job]) (hpending : s.handle.autoReconnectPending = true)

theorem Queued.turn (h : s.Queued) (t : ℚ) (taken : Bool) :
    (s.step host conf id (.turn t taken)).Queued := by
  have hturn := pending_turn conf (s.clocked t).tick id taken s.handle
  cases h with
  | none hqueue hpending =>
    rcases hturn with ⟨hnone,hkept⟩ | ⟨⟨job,hjob⟩,-,hmarked⟩
    · exact .none (by simp [step_turn,hqueue,hnone]) (hkept.trans hpending)
    · cases taken with
      | true => exact .one job (by simp [step_turn,hqueue,hjob]) hmarked
      | false => exact .none (by simp [step_turn,hqueue]) hmarked
  | one job hqueue hpending =>
    rcases hturn with ⟨hnone,hkept⟩ | ⟨-,hfalse,-⟩
    · exact .one job (by simp [step_turn,hqueue,hnone]) (hkept.trans hpending)
    · rw [hpending] at hfalse
      cases hfalse

theorem pending_worked (answer : Except String Unit) (completion : ℚ) (s : Recovery) (job : Job) :
    (worked host conf id answer completion s job).autoReconnectPending = false := by
  cases job with
  | reconnect attempt age trigger generation =>
    unfold worked runAutoReconnect
    dsimp only
    split
    · rfl
    · split <;> rfl
  | driverRestart age trigger generation =>
    unfold worked restartWork
    dsimp only
    split <;> rfl

theorem Queued.work (h : s.Queued) (t : ℚ) (answer : Except String Unit) (completion : ℚ) :
    (s.step host conf id (.work t answer completion)).Queued := by
  cases h with
  | none hqueue hpending =>
    rw [step_work_of_empty host conf id hqueue]
    exact .none hqueue hpending
  | one job hqueue hpending =>
    rw [step_work host conf id hqueue]
    exact .none rfl (pending_worked answer completion _ job)

theorem Queued.step (h : s.Queued) (event : RecoveryEvent) : (s.step host conf id event).Queued := by
  cases event with
  | turn t taken => exact h.turn t taken
  | work t answer completion => exact h.work t answer completion
  | other t handle current recv latest =>
    cases h with
    | none hqueue hpending => exact .none hqueue hpending
    | one job hqueue hpending => exact .one job hqueue hpending

theorem Reachable.queued {spec : DeviceSpec} (hs : Reachable host conf id spec s) : s.Queued := by
  induction hs with
  | start now => exact .none rfl rfl
  | next hs event ih => exact ih.step event

/-- A restart of the driver is owed: it is queued, and a trigger calls for it. -/
structure Owed (id : String) (age : ℚ) (remembered : Option Trigger) (s : Recovery) : Prop where
  current : s.current = true
  queue : s.queue = [.driverRestart age remembered s.handle.driverGeneration]
  pending : s.handle.autoReconnectPending = true
  running : s.handle.driverProcessState = .running
  exhausted : s.handle.exhausted = true
  settled : s.handle.Settled
  active : ∃ trigger, Trigger.isActive s.tick id s.handle trigger = true

structure Later (s s' : Recovery) : Prop where
  current : s'.current = s.current
  queue : s'.queue = s.queue
  pending : s'.handle.autoReconnectPending = s.handle.autoReconnectPending
  inputs : s'.handle.inputs = s.handle.inputs
  telemetry : s'.telemetryLastRecvMono = s.telemetryLastRecvMono
  time : s.nowMono ≤ s'.nowMono

theorem Later.trans {s'' : Recovery} (h : s.Later s') (h' : s'.Later s'') : s.Later s'' :=
  ⟨h'.current.trans h.current,h'.queue.trans h.queue,h'.pending.trans h.pending,
    h'.inputs.trans h.inputs,h'.telemetry.trans h.telemetry,h.time.trans h'.time⟩

theorem later_clocked (t : ℚ) (s : Recovery) : s.Later (s.clocked t) :=
  ⟨rfl,rfl,rfl,rfl,rfl,le_max_left _ _⟩

variable {age : ℚ} {remembered : Option Trigger}

theorem Later.isActive (h : s.Later s') {trigger : Trigger}
    (hactive : trigger.isActive s.tick id s.handle = true) :
    trigger.isActive s'.tick id s'.handle = true :=
  isActive_later hactive h.inputs h.telemetry h.time

theorem Owed.later (h : s.Owed id age remembered) (hl : s.Later s') : s'.Owed id age remembered := by
  obtain ⟨trigger,hactive⟩ := h.active
  have hinputs := hl.inputs
  simp only [DeviceHandle.inputs,Prod.mk.injEq] at hinputs
  obtain ⟨hspec,hattempts,hsince,hgeneration,hstate,hheartbeat⟩ := hinputs
  refine ⟨hl.current.trans h.current,?_,hl.pending.trans h.pending,hstate.trans h.running,?_,?_,
    trigger,hl.isActive hactive⟩
  · rw [hl.queue,h.queue,hgeneration]
  · have hexhausted := h.exhausted
    rw [DeviceHandle.exhausted] at hexhausted ⊢
    rw [hspec,hattempts]
    exact hexhausted
  · have hsettled := h.settled
    rw [DeviceHandle.Settled,DeviceHandle.degraded] at hsettled ⊢
    rw [hsince,hheartbeat,hspec]
    exact hsettled

theorem Owed.turn (h : s.Owed id age remembered) (t : ℚ) (taken : Bool) :
    s.Later (s.step host conf id (.turn t taken)) := by
  obtain ⟨trigger,hactive⟩ := h.active
  have hlater := (s.later_clocked t).isActive hactive
  rw [step_turn]
  rcases turn_waits conf h.pending h.settled hlater taken with hturn | hturn
  · rw [hturn]
    exact ⟨rfl,by simp,rfl,rfl,rfl,le_max_left _ _⟩
  · rw [hturn]
    exact ⟨rfl,by simp,rfl,rfl,rfl,le_max_left _ _⟩

theorem later_other {t : ℚ} {handle : DeviceHandle} {current : Bool} {recv : Option ℚ}
    {latest : List (ℚ × TelemetryQuality)}
    (hsame : s.SameHealth (s.step host conf id (.other t handle current recv latest))) :
    s.Later (s.step host conf id (.other t handle current recv latest)) := by
  refine ⟨hsame.current,rfl,rfl,?_,hsame.telemetry,le_max_left _ _⟩
  simp only [DeviceHandle.inputs,Prod.mk.injEq]
  exact ⟨rfl,rfl,rfl,hsame.generation,hsame.state,hsame.heartbeat⟩

theorem Awaits.later (h : Awaits host conf id s s') (ho : s.Owed id age remembered) : s.Later s' := by
  induction h with
  | start => exact ⟨rfl,rfl,rfl,rfl,rfl,le_rfl⟩
  | turn h t taken ih => exact ih.trans ((ho.later ih).turn t taken)
  | other h t handle current recv latest hsame ih => exact ih.trans (later_other hsame)

variable (host) in
theorem Escalates.owed {t : ℚ} (hs : s.Queued) (h : s.Escalates conf id t age) :
    (s.step host conf id (.turn t true)).Owed id age s.handle.autoReconnectLastTrigger := by
  obtain ⟨hdecided,hrunning,hpending,hexhausted,trigger,hactive⟩ := restartDriver_decided h.decided
  have hmarks := marks_reset (s.clocked t).tick id s.handle
  generalize hreset : autoReconnectResetIfHealthy (s.clocked t).tick id s.handle = h₀ at *
  simp only [DeviceHandle.marks,Prod.mk.injEq] at hmarks
  obtain ⟨hmark,hremembered,hgeneration,-⟩ := hmarks
  obtain ⟨since,hnoted⟩ := noteDegraded_eq (s.clocked t).tick.nowMono h₀
  have hsettled := settled_noteDegraded (s.clocked t).tick.nowMono h₀
  rw [hnoted] at hdecided hactive hsettled
  have hqueue : s.queue = [] := by
    cases hs with
    | none hqueue => exact hqueue
    | one job hqueue hmarked =>
      rw [← hmark,hpending] at hmarked
      cases hmarked
  have hturn : Drivers.turn conf (s.clocked t).tick id true s.handle =
      ({ h₀ with autoReconnectDegradedSinceMono := since,autoReconnectPending := true },
        some (.driverRestart age s.handle.autoReconnectLastTrigger h₀.driverGeneration)) := by
    unfold Drivers.turn
    dsimp only
    rw [hreset,hdecided,← hremembered]
    simp only [hpending,Bool.false_eq_true,if_false]
  rw [step_turn,hturn,hqueue]
  exact ⟨h.current,rfl,rfl,hrunning,hexhausted,hsettled,trigger,hactive⟩

theorem Owed.scheduled_iff (h : s.Owed id age remembered) (t : ℚ) (answer : Except String Unit)
    (completion : ℚ) :
    RestartScheduled (s.clocked t).nowMono (s.step host conf id (.work t answer completion)).handle ↔
      (∃ trigger ∈ remembered, Trigger.isActive (s.clocked t).tick id s.handle trigger = true) ∧
        s.handle.heartbeatIsStale conf (s.clocked t).nowMono = false := by
  have hhandle : (s.step host conf id (.work t answer completion)).handle =
      restartWork host conf (s.clocked t).tick id s.current age remembered s.handle.driverGeneration
        s.handle := by
    rw [step_work host conf id h.queue]
    rfl
  have hactive : autoReconnectTriggerIsActive conf (s.clocked t).tick id s.current
      s.handle.driverGeneration remembered s.handle = true ↔
      (∃ trigger ∈ remembered, Trigger.isActive (s.clocked t).tick id s.handle trigger = true) ∧
        s.handle.heartbeatIsStale conf (s.clocked t).nowMono = false := by
    simp only [autoReconnectTriggerIsActive,h.current,h.running]
    cases hstale : s.handle.heartbeatIsStale conf (s.clocked t).nowMono with
    | true =>
      have hstale' : s.handle.heartbeatIsStale conf (s.clocked t).tick.nowMono = true := hstale
      simp [hstale']
    | false =>
      have hstale' : s.handle.heartbeatIsStale conf (s.clocked t).tick.nowMono = false := hstale
      simp [hstale',any_eq_true]
  rw [hhandle,← hactive,restartWork]
  split
  · rename_i hcalled
    exact ⟨fun _ => hcalled.1,fun _ => ⟨rfl,rfl,rfl,rfl⟩⟩
  · rename_i hnot
    refine ⟨fun hscheduled => ?_,fun hcalled => absurd ⟨hcalled,h.exhausted⟩ hnot⟩
    have hstate : s.handle.driverProcessState = .failed := hscheduled.state
    rw [h.running] at hstate
    cases hstate

/-- The worker acts on the trigger that is remembered, which need not be the one that was active. -/
theorem escalation_scheduled {spec : DeviceSpec} (hs : Reachable host conf id spec s) {t : ℚ}
    (he : s.Escalates conf id t age)
    (hw : Awaits host conf id (s.step host conf id (.turn t true)) s') (later : ℚ)
    (answer : Except String Unit) (completion : ℚ) : RestartScheduled (s'.clocked later).nowMono
        (s'.step host conf id (.work later answer completion)).handle ↔
      (∃ trigger ∈ s.handle.autoReconnectLastTrigger,
        Trigger.isActive (s'.clocked later).tick id s'.handle trigger = true) ∧
      s'.handle.heartbeatIsStale conf (s'.clocked later).nowMono = false := by
  have howed := he.owed host hs.queued
  exact (howed.later (hw.later howed)).scheduled_iff later answer completion

end

def idleHost : DriverHost Unit where
  poll := fun _ _ => (.ok none,())
  terminate := fun _ _ => (.ok (),())
  kill := fun _ _ => (.ok (),())
  buildDriverCmd := fun _ _ => (.ok (),())
  popen := fun _ _ => (.ok 1,())
  submit := fun _ _ _ => (true,())
  describeExitCode := fun _ => ""
  fixed1 := fun _ => ""

def oneAttempt : DeviceSpec :=
  { deviceId := "d"
    autoReconnect := {
      enabled := true
      onTelemetryStaleS := some 10
      onDegradedS := some 5
      restartDriverAfterMaxAttempts := true
      cooldownS := 0
      maxAttempts := some 1 } }

def heard (t : ℚ) (state : DeviceState) (telemetry : ℚ) : RecoveryEvent :=
  .other t {
    spec := oneAttempt
    rpcEndpoint := some "tcp://d"
    driverProcessState := .running
    lastHbRecvMono := some t
    lastHb := some { deviceReachable := true,deviceState := state } } true (some telemetry) []

def runEvents (events : List RecoveryEvent) : Recovery :=
  events.foldl (step idleHost {} "d") { handle := { spec := oneAttempt } }

theorem reachable_runEvents (events : List RecoveryEvent) :
    Reachable idleHost {} "d" oneAttempt (runEvents events) := by
  have hfold : ∀ s, Reachable idleHost {} "d" oneAttempt s →
      Reachable idleHost {} "d" oneAttempt (events.foldl (step idleHost {} "d") s) := by
    induction events with
    | nil => exact fun s hs => hs
    | cons event rest ih => exact fun s hs => ih _ (hs.next event)
  exact hfold _ (.start 0)

def triggerChanges : Recovery :=
  runEvents [heard 20 .ok 0,.turn 20 true,.work 21 (.ok ()) 21,heard 22 .degraded 22,.turn 22 true,
    heard 27 .degraded 27]

def triggerStays : Recovery :=
  runEvents [heard 20 .degraded 20,.turn 20 true,heard 25 .degraded 25,.turn 25 true,
    .work 25 (.ok ()) 25,heard 26 .degraded 26]

theorem triggerChanges_reachable : Reachable idleHost {} "d" oneAttempt triggerChanges :=
  reachable_runEvents _

theorem triggerStays_reachable : Reachable idleHost {} "d" oneAttempt triggerStays :=
  reachable_runEvents _

theorem triggerChanges_escalates : triggerChanges.Escalates {} "d" 27 5 :=
  ⟨by decide +kernel,by decide +kernel⟩

theorem triggerStays_escalates : triggerStays.Escalates {} "d" 26 6 :=
  ⟨by decide +kernel,by decide +kernel⟩

theorem escalation_scheduled_stays :
    RestartScheduled ((triggerStays.step idleHost {} "d" (.turn 26 true)).clocked 27).nowMono
      ((triggerStays.step idleHost {} "d" (.turn 26 true)).step idleHost {} "d"
        (.work 27 (.ok ()) 27)).handle :=
  (escalation_scheduled triggerStays_reachable triggerStays_escalates .start 27 (.ok ()) 27).2
    ⟨⟨.degraded,by decide +kernel,by decide +kernel⟩,by decide +kernel⟩

theorem escalation_dropped : ¬ ∀ {s s' : Recovery} {t age : ℚ},
    Reachable idleHost {} "d" oneAttempt s → s.Escalates {} "d" t age →
    Awaits idleHost {} "d" (s.step idleHost {} "d" (.turn t true)) s' → ∀ later : ℚ,
    s'.handle.heartbeatIsStale {} (s'.clocked later).nowMono = false →
    RestartScheduled (s'.clocked later).nowMono
      (s'.step idleHost {} "d" (.work later (.ok ()) later)).handle := by
  intro hall
  have hscheduled := hall triggerChanges_reachable triggerChanges_escalates .start 27
    (by decide +kernel)
  have hstate : ((triggerChanges.step idleHost {} "d" (.turn 27 true)).step idleHost {} "d"
      (.work 27 (.ok ()) 27)).handle.driverProcessState = .running := by decide +kernel
  have hfailed := hscheduled.state
  rw [hstate] at hfailed
  cases hfailed

end Recovery

end ExperimentControl.Supervision.Drivers

import ExperimentControl.Supervision.Drivers
import ExperimentControl.Supervision.Manager

/-!
Whether a tick keeps the failures of one handle from the others.
-/

namespace ExperimentControl.Supervision
open Lib Prog OrderedDict List Option

section
variable {now : ℚ} {c c' : Core}

theorem ExitStep.checks_eq {b : Bool} (hs : ExitStep c b c') :
    c'.history.checks = c.history.checks := by
  cases hs with
  | none => rfl
  | alive => rfl
  | ended rc hchild => rfl
  | recovered rc hchild hstate hrc => rfl

theorem checks_eq_of_log (h : c'.log = c.log) : c'.history.checks = c.history.checks :=
  congrArg (·.2.2) h

theorem Supervised.checks_eq (hs : Supervised now c c') :
    c'.history.checks = c.history.checks+1 := by
  cases hs with
  | recovered he => exact congrArg (·+1) he.checks_eq
  | checked he hb hs hr =>
    have hlog := hr.log_eq.trans (hs.log_eq.trans hb.log_eq)
    exact congrArg (·+1) ((checks_eq_of_log hlog).trans he.checks_eq)

end

/-- Every tick returns, and has gone through the checks of every managed process. -/
def ProcessesIsolated {Ω : Type} (host : Host Ω) : Prop :=
  ∀ (conf : SupervisionConf) (tick : Tick) (m : Manager Ω), ∃ n m',
    (superviseManagedProcesses host conf tick).run n m = .ok () m' ∧
    ∀ id h, m.processes.get? id = some h → ∃ h', m'.processes.get? id = some h' ∧
      h'.history.checks = h.history.checks+1

section
variable {Ω : Type} {host : Host Ω}

theorem processes_tick_returns (hquiet : host.Quiet) (conf : SupervisionConf) (tick : Tick)
    (m : Manager Ω) : ∃ n m', (superviseManagedProcesses host conf tick).run n m = .ok () m' := by
  cases hentries : m.processes.entries with
  | nil =>
    refine ⟨0,m,?_⟩
    simp only [superviseManagedProcesses,run_bind,run_get,OrderedDict.keys,hentries]
    rfl
  | cons entry rest =>
    have hget : m.processes.get? entry.1 = some entry.2 := by
      rw [get?_eq_some_iff,hentries]
      exact mem_cons_self
    have htick : Total _ (superviseManagedProcesses host conf tick) _ _ := total_tick tick hget
    rcases (htick.halts m rfl).cases with ⟨n,a,m',hr⟩ | ⟨n,e,m',hr⟩
    · exact ⟨n,m',hr⟩
    · exact absurd hquiet (htick.triple.raised rfl hr).1

theorem processes_isolated (hquiet : host.Quiet) : ProcessesIsolated host := by
  intro conf tick m
  obtain ⟨n,m',hr⟩ := processes_tick_returns hquiet conf tick m
  refine ⟨n,m',hr,fun id h hget => ?_⟩
  obtain ⟨h',c₁,c₂,hget',h₁,h₂,h₃⟩ := (total_tick tick hget).triple.ok rfl hr
  have hchecks : h'.core.history.checks = h.core.history.checks+1 := by
    rw [checks_eq_of_log h₃.log_eq,h₂.checks_eq,checks_eq_of_log h₁.log_eq]
  exact ⟨h',hget',hchecks⟩

def managerWith (h : ProcessHandle) (ω : Ω) : Manager Ω :=
  ⟨OrderedDict.empty.set h.spec.processId h,ω⟩

variable {e : String} {ω : Ω}

theorem processes_tick_raises {h : ProcessHandle} {conf : SupervisionConf} {tick : Tick}
    {n : Nat} {s : Scope Ω} (hr : (superviseProcess host conf tick).run n ⟨h,[],ω⟩ = .raised e s) :
    (superviseManagedProcesses host conf tick).run n (managerWith h ω) =
      .raised e ((managerWith h ω).put h.spec.processId s) := by
  have hkeys : (managerWith h ω).processes.keys = [h.spec.processId] := rfl
  have hget : (managerWith h ω).processes.get? h.spec.processId = some h := by simp [managerWith]
  have hr' : (superviseProcess host conf tick).run n ⟨h,[],(managerWith h ω).world⟩ =
    .raised e s := hr
  simp only [superviseManagedProcesses,run_bind,run_get,hkeys,run_forEach_cons,
    onHandle,hget,run_zoom,hr']

theorem ProcessesIsolated.not_raised {h : ProcessHandle} {conf : SupervisionConf}
    (hisolated : ProcessesIsolated host) (tick : Tick)
    (hr : ∀ n, ∃ e s, (superviseProcess host conf tick).run n ⟨h,[],ω⟩ = .raised e s) : False := by
  obtain ⟨n,m',hok,-⟩ := hisolated conf tick (managerWith h ω)
  obtain ⟨e,s,hraised⟩ := hr n
  rw [processes_tick_raises hraised] at hok
  cases hok

theorem poll_raises {pid : Nat} (he : (host.poll pid ω).1 = .error e)
    (id : String) (n : Nat) (conf : SupervisionConf) (tick : Tick) :
    ∃ e s, (superviseProcess host conf tick).run n
      ⟨{ spec := { processId := id },popen := some ⟨pid,none⟩ },[],ω⟩ = .raised e s := by
  simp [superviseProcess,observeExit,self,poll,call,run_bind,run_ofFun,he]

theorem start_raises {s : Scope Ω} (hpopen : s.handle.popen = none)
    (hstate : s.handle.state ≠ .crashloop)
    (he : (host.spawn s.handle.spec.processId s.world).1 = .error e) (n : Nat) :
    ∃ e s', (startProcessHandle host true).run n s = .raised e s' := by
  cases hc : (host.connect s.handle.spec.processId s.world).1 with
  | error e' =>
    simp [startProcessHandle,childAlive,self,call,run_bind,run_ofFun,hpopen,hstate,hc]
  | ok u =>
    rw [spawn_connect_ok hc] at he
    simp [startProcessHandle,childAlive,self,update,call,run_bind,run_ofFun,
      run_attempt,hpopen,hstate,hc,he]

theorem restart_raises {id : String}
    (he : (host.spawn id (host.monotonic ω).2).1 = .error e) (n : Nat) (conf : SupervisionConf) :
    ∃ e s, (superviseProcess host conf { nowMono := 0 }).run n
      ⟨{ spec := { processId := id },nextRestartTMono := some 0 },[],ω⟩ = .raised e s := by
  -- the handle on which `try_restart_process` calls `start_process_handle`
  let h : ProcessHandle := {
    spec := { processId := id }
    restartCount := 1
    history := History.restarted {} }
  let s : Scope Ω := ⟨h,[],(host.monotonic ω).2⟩
  obtain ⟨e',s',hr⟩ := start_raises (s := s) rfl (by simp [s,h]) he n
  simp [superviseProcess,observeExit,enforceManagedProcessHeartbeatTimeout,
    enforceManagedProcessStopTimeout,maybeRestartManagedProcess,tryRestartProcess,childAlive,update,
    ask,ProcessHandle.budgetUsed,self,run_bind,run_ofFun,run_attempt,s,h] at hr ⊢
  rw [hr]
  simp [run_bind]

theorem processesIsolated_iff : ProcessesIsolated host ↔ host.Quiet := by
  constructor
  · intro hisolated
    constructor
    · intro pid ω e he
      exact hisolated.not_raised { nowMono := 0 } fun n => poll_raises he "p" n {} { nowMono := 0 }
    · intro id ω e he
      exact hisolated.not_raised { nowMono := 0 } fun n => restart_raises he n {}
  · exact processes_isolated

end

namespace Drivers

abbrev Drives {Ω α : Type} (host : DriverHost Ω) (k : Nat) (x : Drv Ω α) : Prop :=
  Total (fun s => s.handle.checks = k) x (fun _ s => s.handle.checks = k)
    (fun _ s => ¬ host.Quiet ∧ s.handle.checks = k)

section
variable {Ω α β : Type} {host : DriverHost Ω} {k : Nat}

theorem Drives.bind {x : Drv Ω α} {f : α → Drv Ω β} (hx : Drives host k x)
    (hf : ∀ a, Drives host k (f a)) : Drives host k (x >>= f) := Total.bind hx hf

theorem drives_pure (a : α) : Drives host k (pure a) := .pure fun _ h => h

theorem drives_self : Drives host k self :=
  Total.bind (Q := fun _ s => s.handle.checks = k) (.get fun _ h => h) fun _ =>
    .pure fun _ h => h

theorem drives_update {f : DeviceHandle → DeviceHandle} (h : ∀ x, (f x).checks = x.checks) :
    Drives host k (update f) := .modify fun s hs => (h s.handle).trans hs

theorem drives_ask {f : Ω → α × Ω} : Drives host k (ask f) := by
  refine .ofFun ?_ fun s e s' _ hs' => by cases hs'
  rintro s a s' hs hs'
  obtain ⟨-,rfl⟩ := Prod.mk.inj hs'
  exact hs

variable {f : Ω → Except String α × Ω}

theorem total_call (s₀ : DriverScope Ω) : Total (fun s => s = s₀) (call f)
      (fun a s => (f s₀.world).1 = .ok a ∧ s = { s₀ with world := (f s₀.world).2 })
      (fun e s => (f s₀.world).1 = .error e ∧ s = { s₀ with world := (f s₀.world).2 }) := by
  refine .ofFun ?_ ?_
  · rintro s a s' rfl hs'
    obtain ⟨ha,rfl⟩ := Prod.mk.inj hs'
    exact ⟨ha,rfl⟩
  · rintro s e s' rfl hs'
    obtain ⟨he,rfl⟩ := Prod.mk.inj hs'
    exact ⟨he,rfl⟩

theorem drives_call (hf : ∀ ω e, (f ω).1 = .error e → ¬ host.Quiet) : Drives host k (call f) := by
  refine .each fun s₀ hs₀ => (total_call s₀).conseq (fun _ h => h) ?_ ?_
  · rintro a s ⟨-,rfl⟩
    exact hs₀
  · rintro e s ⟨he,rfl⟩
    exact ⟨hf _ e he,hs₀⟩

theorem drives_attempt {x : Drv Ω α} (hx : Drives host k x) : Drives host k (attempt x) :=
  .attempt hx (fun _ _ h => h) fun _ _ h => h.2

theorem drives_attempt_call : Drives host k (attempt (call f)) := by
  refine .each fun s₀ hs₀ => .attempt (total_call s₀) ?_ ?_
  · rintro a s ⟨-,rfl⟩
    exact hs₀
  · rintro e s ⟨-,rfl⟩
    exact hs₀

theorem drives_poll (p : Popen) : Drives host k (poll host p) := by
  unfold poll
  cases p.returncode with
  | some rc => exact drives_pure _
  | none =>
    refine .bind (drives_call fun ω e he hquiet => hquiet.poll _ ω e he) fun rc => ?_
    exact .bind (drives_update fun x => rfl) fun _ => drives_pure _

theorem drives_childAlive : Drives host k (childAlive host) := by
  unfold childAlive
  refine .bind drives_self fun h => ?_
  cases h.process with
  | none => exact drives_pure _
  | some p => exact .bind (drives_poll p) fun rc => drives_pure _

theorem drives_ite {c : Prop} [Decidable c] {x y : Drv Ω α} (hx : Drives host k x)
    (hy : Drives host k y) : Drives host k (if c then x else y) := .ite (fun _ => hx) fun _ => hy

theorem checks_updateExitState (rc : Int) (h : DeviceHandle) :
    (updateDeviceDriverExitState host rc h).checks = h.checks := by
  unfold updateDeviceDriverExitState
  dsimp only
  split
  · rfl
  · split
    · rfl
    · split
      · rfl
      · rfl

theorem drives_observeDriverExit : Drives host k (observeDriverExit host) := by
  unfold observeDriverExit
  refine .bind drives_self fun h => ?_
  cases h.process with
  | none => exact drives_pure _
  | some p =>
    refine .bind (drives_poll p) fun rc => ?_
    cases rc with
    | none => exact drives_pure _
    | some rc => exact drives_update (checks_updateExitState rc)

theorem drives_terminateStale : Drives host k (terminateStale host) := by
  unfold terminateStale
  refine .bind drives_self fun h => ?_
  cases h.process with
  | none => exact drives_pure _
  | some p =>
    refine .bind (drives_attempt (drives_poll p)) fun answer => ?_
    cases answer with
    | error exc => exact drives_pure _
    | ok rc =>
      cases rc with
      | some rc => exact drives_pure _
      | none => exact .bind drives_attempt_call fun _ => drives_pure _

theorem drives_enforceHeartbeatTimeout (conf : DriverConf) (now : ℚ) :
    Drives host k (enforceDeviceDriverHeartbeatTimeout host conf now) := by
  have hforget : ∀ x : DeviceHandle, x.forgetOldEpisode.checks = x.checks := by
    intro x
    unfold DeviceHandle.forgetOldEpisode
    split <;> rfl
  have hrecovered : ∀ x : DeviceHandle, x.noteRecovered.checks = x.checks := by
    intro x
    unfold DeviceHandle.noteRecovered
    split <;> rfl
  have hstale : ∀ (age : ℚ) (x : DeviceHandle), (x.noteStale now age).checks = x.checks := by
    intro age x
    unfold DeviceHandle.noteStale
    split <;> rfl
  have hschedule : ∀ x : DeviceHandle, (x.scheduleHeartbeatRestart now).checks = x.checks := by
    intro x
    unfold DeviceHandle.scheduleHeartbeatRestart
    split <;> rfl
  unfold enforceDeviceDriverHeartbeatTimeout
  refine .bind drives_self fun h => drives_ite (drives_pure _) ?_
  cases h.heartbeatRef with
  | none => exact drives_pure _
  | some ref =>
    refine .bind (drives_update hforget) fun _ => drives_ite (drives_update hrecovered) ?_
    refine .bind (drives_update (hstale _)) fun _ => drives_ite (drives_pure _) ?_
    unfold failStaleDriver
    refine .bind (drives_update fun x => rfl) fun _ => .bind drives_terminateStale fun _ => ?_
    exact drives_update hschedule

theorem drives_enforceStopTimeout (now : ℚ) :
    Drives host k (enforceDeviceDriverStopTimeout host now) := by
  unfold enforceDeviceDriverStopTimeout
  refine .bind drives_self fun h => drives_ite ?_ (drives_pure _)
  cases h.driverStopRequestedTMono with
  | none => exact drives_pure _
  | some t =>
    cases h.process with
    | none => exact drives_pure _
    | some p =>
      refine .bind (drives_poll p) fun rc => ?_
      cases rc with
      | some rc => exact drives_pure _
      | none =>
        refine .bind ?_ fun _ => ?_
        · refine drives_ite (.bind drives_attempt_call fun killed => ?_) (drives_pure _)
          cases killed with
          | ok _ => exact drives_pure _
          | error exc => exact drives_update fun x => rfl
        · refine drives_ite (.bind (drives_poll p) fun rc => ?_) (drives_pure _)
          cases rc with
          | some rc => exact drives_pure _
          | none => exact drives_update fun x => rfl

theorem spawn_build_error {id : String} {ω : Ω} {e : String}
    (h : (host.buildDriverCmd id ω).1 = .error e) : (host.spawn id ω).1 = .error e := by
  unfold DriverHost.spawn
  cases hc : host.buildDriverCmd id ω with
  | mk r ω' =>
    rw [hc] at h
    cases h
    rfl

theorem spawn_build_ok {id : String} {ω : Ω} {u : Unit} (h : (host.buildDriverCmd id ω).1 = .ok u) :
    host.spawn id ω = host.popen id (host.buildDriverCmd id ω).2 := by
  unfold DriverHost.spawn
  cases hc : host.buildDriverCmd id ω with
  | mk r ω' =>
    rw [hc] at h
    cases h
    rfl

theorem drives_startDriver (id : String) : Drives host k (startDriver host id) := by
  unfold startDriver
  refine .bind drives_childAlive fun alive => drives_ite (drives_pure _) ?_
  refine .bind drives_self fun h => drives_ite (drives_pure _) (.each fun s₀ hs₀ => ?_)
  -- what the spawn raises is what the command line or `Popen` raises
  refine .bind (Q := fun _ s => s.handle.checks = k ∧
    host.spawn id s₀.world = host.popen id s.world) ?_ fun _ => ?_
  · refine (total_call s₀).conseq (fun _ h => h) ?_ ?_
    · rintro u s ⟨hok,rfl⟩
      exact ⟨hs₀,spawn_build_ok hok⟩
    · rintro e s ⟨he,rfl⟩
      exact ⟨fun hquiet => hquiet.spawn id s₀.world e (spawn_build_error he),hs₀⟩
  · refine .bind (Q := fun _ s => s.handle.checks = k ∧
      host.spawn id s₀.world = host.popen id s.world) (.modify fun _ h => h) fun _ => ?_
    refine .bind (Q := fun r s => s.handle.checks = k ∧ ∀ e, r = .error e → ¬ host.Quiet)
      (.each fun s₁ hs₁ => .attempt (total_call s₁) ?_ ?_) fun spawned => ?_
    · rintro pid s ⟨-,rfl⟩
      exact ⟨hs₁.1,fun e he => by cases he⟩
    · rintro e s ⟨he,rfl⟩
      refine ⟨hs₁.1,fun _ _ hquiet => hquiet.spawn id s₀.world e ?_⟩
      rw [hs₁.2,he]
    · cases spawned with
      | ok pid => exact .modify fun s hs => hs.1
      | error exc =>
        exact .bind (Q := fun _ s => ¬ host.Quiet ∧ s.handle.checks = k)
          (.modify fun s hs => ⟨hs.2 exc rfl,hs.1⟩) fun _ => .raise fun _ h => h

theorem drives_maybeRestart (id : String) (now : ℚ) :
    Drives host k (maybeRestartDeviceDriver host id now) := by
  unfold maybeRestartDeviceDriver
  refine .bind drives_self fun h => ?_
  cases h.driverNextRestartTMono with
  | none => exact drives_pure _
  | some t =>
    refine drives_ite (drives_pure _) (.bind drives_childAlive fun alive => ?_)
    refine drives_ite (drives_pure _) (drives_ite (drives_update fun x => rfl) ?_)
    exact .bind (drives_update fun x => rfl) fun _ => drives_startDriver id

theorem checks_resetBudget (conf : DriverConf) (now : ℚ) (h : DeviceHandle) :
    (resetDriverRestartBudgetIfHealthy conf now h).checks = h.checks := by
  unfold resetDriverRestartBudgetIfHealthy
  split
  · rfl
  · split
    · split
      · rfl
      · split <;> rfl
    · rfl

end

theorem checks_noteHealthy (now : ℚ) (h : DeviceHandle) : (h.noteHealthy now).checks = h.checks := by
  unfold DeviceHandle.noteHealthy
  split
  · rfl
  · split <;> rfl

theorem checks_autoReconnectReset (tick : DriverTick) (id : String) (h : DeviceHandle) :
    (autoReconnectResetIfHealthy tick id h).checks = h.checks := by
  unfold autoReconnectResetIfHealthy
  dsimp only
  split
  · rfl
  · split
    · split
      · rfl
      · split
        · rfl
        · generalize hx : (if h.spec.autoReconnect.onDegradedS ≠ none then
            { h with autoReconnectDegradedSinceMono := none } else h) = x
          have hchecks : x.checks = h.checks := by
            rw [← hx]
            split <;> rfl
          split
          · rw [checks_noteHealthy,hchecks]
          · exact hchecks
    · rfl

theorem checks_noteDegraded (now : ℚ) (h : DeviceHandle) :
    (noteDegraded now h).2.checks = h.checks := by
  unfold noteDegraded
  split
  · rfl
  · split <;> rfl

theorem checks_decideOn (now : ℚ) (trigger : Trigger) (age : ℚ) (h : DeviceHandle) :
    (decideOn now trigger age h).2.checks = h.checks := by
  unfold decideOn
  dsimp only
  split
  · rfl
  · split
    · rfl
    · split
      · split <;> rfl
      · rfl

theorem checks_shouldAttempt (conf : DriverConf) (tick : DriverTick) (id : String)
    (h : DeviceHandle) : (autoReconnectShouldAttempt conf tick id h).2.checks = h.checks := by
  unfold autoReconnectShouldAttempt
  dsimp only
  split
  · rfl
  · split
    · rfl
    · split
      · rfl
      · split
        · rw [checks_decideOn,checks_noteDegraded]
        · rw [checks_decideOn,checks_noteDegraded]
        · rw [checks_noteDegraded]

section
variable {Ω : Type} {host : DriverHost Ω} {k : Nat}

theorem drives_submit (id : String) (job : Job) : Drives host k (submit host id job) := by
  unfold submit
  exact .bind drives_ask fun taken => drives_update fun x => rfl

theorem drives_maybeAutoReconnect (conf : DriverConf) (tick : DriverTick) (id : String) :
    Drives host k (maybeAutoReconnectDevice host conf tick id) := by
  unfold maybeAutoReconnectDevice
  refine .bind (drives_update (checks_autoReconnectReset tick id)) fun _ => ?_
  refine .bind drives_self fun h => .bind (drives_update (checks_shouldAttempt conf tick id)) ?_
  intro _
  cases (autoReconnectShouldAttempt conf tick id h).1 with
  | wait => exact drives_pure _
  | attempt trigger age =>
    unfold autoReconnectAttempt
    exact .bind (drives_update fun x => rfl) fun _ => .bind drives_self fun h => drives_submit id _
  | restartDriver age =>
    unfold scheduleAutoReconnectDriverRestart
    refine .bind drives_self fun h => drives_ite (drives_pure _) ?_
    exact .bind (drives_update fun x => rfl) fun _ => drives_submit id _

theorem total_superviseDriver (conf : DriverConf) (tick : DriverTick) (id : String) :
    Total (fun s => s.handle.checks = k) (superviseDriver host conf tick id)
      (fun _ s => s.handle.checks = k+1) (fun _ _ => ¬ host.Quiet) := by
  have hpart : ∀ {x : Drv Ω Unit}, Drives host k x → Total (fun s => s.handle.checks = k) x
      (fun _ s => s.handle.checks = k) (fun _ _ => ¬ host.Quiet) := fun hx =>
    hx.conseq (fun _ h => h) (fun _ _ h => h) fun _ _ h => h.1
  unfold superviseDriver
  refine .bind (hpart drives_observeDriverExit) fun _ => ?_
  refine .bind (hpart (drives_enforceHeartbeatTimeout conf tick.nowMono)) fun _ => ?_
  refine .bind (hpart (drives_enforceStopTimeout tick.nowMono)) fun _ => ?_
  refine .bind (hpart (drives_maybeRestart id tick.nowMono)) fun _ => ?_
  refine .bind (hpart (drives_update (checks_resetBudget conf tick.nowMono))) fun _ => ?_
  refine .bind (hpart (drives_maybeAutoReconnect conf tick id)) fun _ => ?_
  exact .modify fun s hs => congrArg (·+1) hs

end

def Visited (tick : DriverTick) (id : String) (h h' : DeviceHandle) : Prop :=
  if tick.locked id then h' = h else h'.checks = h.checks+1

/-- Every tick returns, and has gone through the checks of every device whose lock is free. -/
def DriversIsolated {Ω : Type} (host : DriverHost Ω) : Prop :=
  ∀ (conf : DriverConf) (tick : DriverTick) (m : Devices Ω), ∃ n m',
    (superviseDeviceDrivers host conf tick).run n m = .ok () m' ∧
    ∀ id h, m.devices.get? id = some h → ∃ h', m'.devices.get? id = some h' ∧ Visited tick id h h'

section
variable {Ω : Type} {host : DriverHost Ω}

variable {id : String}

theorem total_onDevice {x : Drv Ω Unit} {m : Devices Ω} {h : DeviceHandle}
    {Q : DriverScope Ω → Prop} {E : Prop} (hget : m.devices.get? id = some h)
    (hx : Total (fun s => s = ⟨h,m.world⟩) x (fun _ => Q) (fun _ _ => E)) :
    Total (fun m' => m' = m) (onDevice id x)
      (fun _ m' => ∃ s, Q s ∧ m' = ⟨m.devices.set id s.handle,s.world⟩) (fun _ _ => E) := by
  unfold onDevice
  refine .bind (Q := fun a m' => a = m ∧ m' = m) (.get fun _ h => ⟨h,h⟩) fun a => .each ?_
  rintro m' ⟨rfl,rfl⟩
  simp only [hget]
  refine .zoom fun m'' hm'' => ?_
  subst hm''
  exact hx.conseq (fun _ h => h) (fun _ s hs => ⟨s,hs,rfl⟩) fun _ _ h => h

theorem total_superviseDeviceDrivers (conf : DriverConf) (tick : DriverTick) (m : Devices Ω) :
    Total (fun m' => m' = m) (superviseDeviceDrivers host conf tick)
      (fun _ m' => ∀ id h, m.devices.get? id = some h →
        ∃ h', m'.devices.get? id = some h' ∧ Visited tick id h h')
      (fun _ _ => ¬ host.Quiet) := by
  -- the devices that are still to come are as they were
  let Loop : List String → Devices Ω → Prop := fun rest m' => rest.Nodup ∧
    (∀ id ∈ rest, (m.devices.get? id).isSome) ∧ ∀ id h, m.devices.get? id = some h →
      ∃ h', m'.devices.get? id = some h' ∧ if id ∈ rest then h' = h else Visited tick id h h'
  have hbody : ∀ id rest, Total (Loop (id :: rest))
      (if tick.locked id then pure () else onDevice id (superviseDriver host conf tick id))
      (fun _ => Loop rest) (fun _ _ => ¬ host.Quiet) := by
    intro id rest
    refine .each fun m₁ hm₁ => ?_
    obtain ⟨hnodup,hkeys,hloop⟩ := hm₁
    obtain ⟨hnotmem,hnodup'⟩ := nodup_cons.1 hnodup
    have hkeys' : ∀ k ∈ rest, (m.devices.get? k).isSome := fun k hk => hkeys k (by simp [hk])
    obtain ⟨h,hget⟩ := isSome_iff_exists.1 (hkeys id (by simp))
    obtain ⟨h₁,hget₁,hsame⟩ := hloop id h hget
    rw [if_pos (by simp)] at hsame
    subst hsame
    refine .ite (fun hlocked => .pure fun m' hm' => ?_) fun hfree => ?_
    · rw [hm']
      refine ⟨hnodup',hkeys',fun k hk hgetk => ?_⟩
      obtain ⟨h',hget',hstate⟩ := hloop k hk hgetk
      refine ⟨h',hget',?_⟩
      by_cases hid : k = id
      · subst hid
        rw [hget] at hgetk
        rw [hget₁] at hget'
        cases hgetk
        cases hget'
        rw [if_neg hnotmem,Visited,if_pos hlocked]
      · simpa [hid] using hstate
    · refine (total_onDevice hget₁ (Q := fun s => s.handle.checks = h₁.checks+1)
        ((total_superviseDriver conf tick id).pre fun s hs => by rw [hs])).conseq (fun _ h => h) ?_
        fun _ _ h => h
      rintro - m' ⟨s,hs,rfl⟩
      refine ⟨hnodup',hkeys',fun k hk hgetk => ?_⟩
      by_cases hid : k = id
      · subst hid
        rw [hget] at hgetk
        cases hgetk
        refine ⟨s.handle,by simp,?_⟩
        rw [if_neg hnotmem,Visited,if_neg hfree]
        exact hs
      · obtain ⟨h',hget',hstate⟩ := hloop k hk hgetk
        refine ⟨h',?_,?_⟩
        · rw [get?_set,if_neg hid]
          exact hget'
        · simpa [hid] using hstate
  unfold superviseDeviceDrivers
  refine .bind (Q := fun a m' => a = m ∧ m' = m) (.get fun _ h => ⟨h,h⟩) fun a => .each ?_
  rintro m' ⟨rfl,rfl⟩
  refine (Total.forEach hbody m'.devices.keys).conseq ?_ ?_ fun _ _ h => h
  · intro m'' hm''
    rw [hm'']
    refine ⟨m'.devices.nodup,?_,fun id h hget => ⟨h,hget,?_⟩⟩
    · intro id hid
      obtain ⟨entry,hentry,rfl⟩ := mem_map.1 hid
      rw [(get?_eq_some_iff _ entry.1 entry.2).2 hentry]
      rfl
    · have hmem : id ∈ m'.devices.keys :=
        mem_map.2 ⟨(id,h),(get?_eq_some_iff _ _ _).1 hget,rfl⟩
      rw [if_pos hmem]
  · rintro - m'' ⟨-,-,hdone⟩ id h hget
    obtain ⟨h',hget',hvisited⟩ := hdone id h hget
    exact ⟨h',hget',by simpa using hvisited⟩

theorem drivers_isolated (hquiet : host.Quiet) : DriversIsolated host := by
  intro conf tick m
  have htick : Total _ (superviseDeviceDrivers host conf tick) _ _ :=
    total_superviseDeviceDrivers conf tick m
  rcases (htick.halts m rfl).cases with ⟨n,a,m',hr⟩ | ⟨n,e,m',hr⟩
  · exact ⟨n,m',hr,htick.triple.ok rfl hr⟩
  · exact absurd hquiet (htick.triple.raised rfl hr)

def devicesWith (h : DeviceHandle) (ω : Ω) : Devices Ω :=
  ⟨OrderedDict.empty.set h.spec.deviceId h,ω⟩

theorem DriversIsolated.not_raised {ω : Ω} {conf : DriverConf} (hisolated : DriversIsolated host)
    (h : DeviceHandle)
    (hr : ∀ n, ∃ e s, (superviseDriver host conf { nowMono := 0 } h.spec.deviceId).run n ⟨h,ω⟩ =
      .raised e s) : False := by
  obtain ⟨n,m',hok,-⟩ := hisolated conf { nowMono := 0 } (devicesWith h ω)
  obtain ⟨e,s,hraised⟩ := hr n
  have hkeys : (devicesWith h ω).devices.keys = [h.spec.deviceId] := rfl
  have hget : (devicesWith h ω).devices.get? h.spec.deviceId = some h := by simp [devicesWith]
  have hraised' : (superviseDriver host conf { nowMono := 0 } h.spec.deviceId).run n
    ⟨h,(devicesWith h ω).world⟩ = .raised e s := hraised
  simp [superviseDeviceDrivers,run_bind,hkeys,run_forEach_cons,onDevice,hget,run_zoom,
    hraised'] at hok

theorem poll_raises {pid : Nat} {ω : Ω} {e : String} (he : (host.poll pid ω).1 = .error e)
    (id : String) (n : Nat) (conf : DriverConf) (tick : DriverTick) :
    ∃ e s, (superviseDriver host conf tick id).run n
      ⟨{ spec := { deviceId := id },process := some ⟨pid,none⟩ },ω⟩ = .raised e s := by
  simp [superviseDriver,observeDriverExit,self,poll,call,run_bind,run_ofFun,he]

theorem start_raises {s : DriverScope Ω} {e : String} (hprocess : s.handle.process = none)
    (hstate : s.handle.driverProcessState ≠ .crashloop) (he : (host.spawn id s.world).1 = .error e)
    (n : Nat) : ∃ e s', (startDriver host id).run n s = .raised e s' := by
  cases hc : (host.buildDriverCmd id s.world).1 with
  | error e' =>
    simp [startDriver,childAlive,self,call,run_bind,run_ofFun,hprocess,hstate,hc]
  | ok u =>
    rw [spawn_build_ok hc] at he
    simp [startDriver,childAlive,self,update,call,run_bind,run_ofFun,run_attempt,
      hprocess,hstate,hc,he]

theorem restart_raises {ω : Ω} {e : String} (he : (host.spawn id ω).1 = .error e)
    (n : Nat) (conf : DriverConf) : ∃ e s, (superviseDriver host conf { nowMono := 0 } id).run n
      ⟨{ spec := { deviceId := id },driverNextRestartTMono := some 0 },ω⟩ = .raised e s := by
  -- the handle on which `maybe_restart_device_driver` calls `start_driver`
  let h : DeviceHandle := { spec := { deviceId := id },driverLastRestartTMono := some 0 }
  let s : DriverScope Ω := ⟨h,ω⟩
  obtain ⟨e',s',hr⟩ := start_raises (s := s) rfl (by simp [s,h]) he n
  simp [superviseDriver,observeDriverExit,enforceDeviceDriverHeartbeatTimeout,
    enforceDeviceDriverStopTimeout,DeviceHandle.awaitsStop,maybeRestartDeviceDriver,childAlive,update,
    DeviceHandle.budgetUsed,DeviceHandle.restarting,self,run_bind,s,h] at hr ⊢
  rw [hr]
  simp

theorem driversIsolated_iff : DriversIsolated host ↔ host.Quiet := by
  constructor
  · intro hisolated
    constructor
    · intro pid ω e he
      let h : DeviceHandle := { spec := { deviceId := "d" },process := some ⟨pid,none⟩ }
      exact hisolated.not_raised h fun n => poll_raises he "d" n {} { nowMono := 0 }
    · intro id ω e he
      let h : DeviceHandle := { spec := { deviceId := id },driverNextRestartTMono := some 0 }
      exact hisolated.not_raised h fun n => restart_raises he n {}
  · exact drivers_isolated

end

end Drivers

/-- Whatever the handles are, both supervise calls return after they have gone through all of them,
if and only if neither a poll nor the spawn of a restart can raise. -/
theorem tick_isolates_iff {Ω Ω' : Type} (host : Host Ω) (drivers : Drivers.DriverHost Ω') :
    ProcessesIsolated host ∧ Drivers.DriversIsolated drivers ↔ host.Quiet ∧ drivers.Quiet :=
  and_congr processesIsolated_iff Drivers.driversIsolated_iff

def spawnlessHost : Host (Nat × Option Int) :=
  { steadyHost none with
    popen := fun _ ω => (.error "[Errno 2] No such file or directory",ω) }

def raisedTick {Ω : Type} (host : Host Ω) (tick : Tick) (m : Manager Ω) : Option (Manager Ω) :=
  match (superviseManagedProcesses host {} tick).run 0 m with
  | .raised _ m' => some m'
  | .ok _ _ | .diverged => none

theorem run_of_raisedTick {Ω : Type} {host : Host Ω} {tick : Tick} {m m' : Manager Ω}
    (h : raisedTick host tick m = some m') :
    ∃ e, (superviseManagedProcesses host {} tick).run 0 m = .raised e m' := by
  unfold raisedTick at h
  split at h
  · rename_i hr
    cases h
    exact ⟨_,hr⟩
  · cases h
  · cases h

def twoProcesses : Manager (Nat × Option Int) :=
  ⟨(OrderedDict.empty.set "a" { spec := { processId := "a" } }).set "b"
    { spec := { processId := "b" } },(0,none)⟩

theorem fresh_twoProcesses : twoProcesses.Fresh := by
  intro id h hget
  simp only [twoProcesses,get?_set,get?_empty] at hget
  split at hget
  · cases hget
    rfl
  · split at hget
    · cases hget
      rfl
    · cases hget

theorem failed_spawn_ends_tick :
    ∃ (m m' : Manager (Nat × Option Int)) (e : String) (h : ProcessHandle),
      Reachable spawnlessHost {} m ∧
      (superviseManagedProcesses spawnlessHost {} (tickAt 100)).run 0 m = .raised e m' ∧
      m'.processes.get? "b" = some h ∧ h.history.checks = 0 := by
  have hrun : ((runEvents spawnlessHost {} [.restart "a"] twoProcesses).bind fun m =>
      (raisedTick spawnlessHost (tickAt 100) m).bind fun m' =>
      (m'.processes.get? "b").map (·.history.checks)) = some 0 := by decide +kernel
  obtain ⟨m,hm,hrun⟩ := bind_eq_some_iff.1 hrun
  obtain ⟨m',htick,hrun⟩ := bind_eq_some_iff.1 hrun
  obtain ⟨h,hget,hchecks⟩ := map_eq_some_iff.1 hrun
  obtain ⟨e,hraised⟩ := run_of_raisedTick htick
  exact ⟨m,m',e,h,.run (.init fresh_twoProcesses) hm,hraised,hget,hchecks⟩

end ExperimentControl.Supervision

import ExperimentControl.Supervision.Steps

/-!
The part of a process handle that the heartbeat timeout works on, and the check as a function of
that part, of the tick and of the heartbeats that wait at the socket.
-/

namespace ExperimentControl.Supervision
open Lib Prog

inductive Trigger where
  | hardTimeout
  | staleStrikes
  deriving DecidableEq

structure Watch where
  spec : ProcessSpec
  state : ManagedProcessState
  lastStartTMono : Option ℚ
  lastHbRecvMono : Option ℚ
  heartbeatStaleStrikes : Int
  lastStaleDetectedMono : Option ℚ
  heartbeatStallReconcileDeadlineMono : Option ℚ

def ProcessHandle.watch (h : ProcessHandle) : Watch where
  spec := h.spec
  state := h.state
  lastStartTMono := h.lastStartTMono
  lastHbRecvMono := h.lastHbRecvMono
  heartbeatStaleStrikes := h.heartbeatStaleStrikes
  lastStaleDetectedMono := h.lastStaleDetectedMono
  heartbeatStallReconcileDeadlineMono := h.heartbeatStallReconcileDeadlineMono

def strikesToFail (conf : SupervisionConf) : Int := max 1 conf.heartbeatStaleStrikesToFail

namespace Watch

def started (spec : ProcessSpec) (now : ℚ) : Watch := ⟨spec,.starting,some now,none,0,none,none⟩

def Up (w : Watch) : Prop := w.state = .starting ∨ w.state = .running

instance (w : Watch) : Decidable w.Up := inferInstanceAs (Decidable (_ ∨ _))

def ageS (w : Watch) (now : ℚ) : Option ℚ :=
  match w.lastHbRecvMono with
  | some t => some (now-t)
  | none => w.lastStartTMono.map fun t => now-t

def periodS (w : Watch) : ℚ := max (1/1000) w.spec.heartbeatPeriodS

def hardTimeoutS (conf : SupervisionConf) (w : Watch) : ℚ :=
  w.spec.heartbeatHardTimeoutS.getD
    (w.spec.heartbeatTimeoutS*max 1 conf.heartbeatHardTimeoutMultiplier)

def heard (w : Watch) (recvMono : ℚ) : Watch :=
  { w with
    lastHbRecvMono := some recvMono
    state := if w.state = .starting then .running else w.state }

def drains (tick : Tick) (waiting : List ℚ) (w : Watch) : List ℚ :=
  if w.Up ∧ (w.ageS tick.nowMono).any (w.spec.heartbeatTimeoutS < ·) then waiting else []

def drained (tick : Tick) (waiting : List ℚ) (w : Watch) : Watch :=
  (w.drains tick waiting).foldl heard w

def cleared (w : Watch) : Watch :=
  { w with
    heartbeatStaleStrikes := 0
    lastStaleDetectedMono := none
    heartbeatStallReconcileDeadlineMono := none }

def reconciling (conf : SupervisionConf) (tick : Tick) (w : Watch) : Watch :=
  if w.heartbeatStallReconcileDeadlineMono = none ∧ managerLoopStalled conf tick then
    { w with heartbeatStallReconcileDeadlineMono := some (tick.nowMono+
        w.periodS*max 0 conf.heartbeatStallReconcilePeriodMultiplier) }
  else w

def struck (now : ℚ) (w : Watch) : Watch :=
  if w.lastStaleDetectedMono.all fun t => w.periodS ≤ now-t then
    { w with
      heartbeatStaleStrikes := w.heartbeatStaleStrikes+1
      lastStaleDetectedMono := some now }
  else w

def judged (conf : SupervisionConf) (tick : Tick) (age : ℚ) (w : Watch) : Watch × Option Trigger :=
  if inStartupGrace conf tick && age < conf.startupGraceHardTimeoutS then
    ({ w with heartbeatStaleStrikes := min w.heartbeatStaleStrikes (strikesToFail conf-1) },none)
  else if w.heartbeatStaleStrikes < strikesToFail conf ∧ age < w.hardTimeoutS conf then (w,none)
  else
    ({ w with state := .failed },
      some (if w.hardTimeoutS conf ≤ age then .hardTimeout else .staleStrikes))

def stale (conf : SupervisionConf) (tick : Tick) (age : ℚ) (w : Watch) : Watch × Option Trigger :=
  let w := w.reconciling conf tick
  if w.heartbeatStallReconcileDeadlineMono.any (tick.nowMono < ·) then (w,none)
  else (w.struck tick.nowMono).judged conf tick age

/-- `enforce_managed_process_heartbeat_timeout`, with the trigger of a failure. -/
def check (conf : SupervisionConf) (tick : Tick) (waiting : List ℚ) (w : Watch) :
    Watch × Option Trigger :=
  if ¬ w.Up then (w,none)
  else
    let w := w.drained tick waiting
    match w.ageS tick.nowMono with
    | none => (w,none)
    | some age =>
      if age ≤ w.spec.heartbeatTimeoutS then (w.cleared,none) else w.stale conf tick age

end Watch

theorem watch_started (pid : Nat) (now : ℚ) (resetCollisionRetry : Bool) (h : ProcessHandle) :
    (h.started pid now resetCollisionRetry).watch = .started h.spec now := rfl

theorem watch_ingest (hb : Heartbeat) (h : ProcessHandle) :
    (ingestProcessHeartbeat hb h).watch = h.watch.heard hb.recvMono := rfl

variable {Ω : Type} (host : Host Ω)

def waitingFor (s : Scope Ω) : List ℚ :=
  ((host.refresh s.world).1.filter fun hb => hb.processId = s.handle.spec.processId).map
    Heartbeat.recvMono

theorem watch_foldl (heartbeats : List Heartbeat) (h : ProcessHandle) :
    (heartbeats.foldl (fun h hb => ingestProcessHeartbeat hb h) h).watch =
      (heartbeats.map Heartbeat.recvMono).foldl Watch.heard h.watch := by
  induction heartbeats generalizing h with
  | nil => rfl
  | cons hb rest ih => rw [List.foldl_cons,ih,watch_ingest,List.map_cons,List.foldl_cons]

abbrev LeavesWatch {α : Type} (w : Watch) (x : Sup Ω α) (w' : Watch) : Prop :=
  Total (fun s => s.handle.watch = w) x (fun _ s => s.handle.watch = w')
    fun _ s => s.handle.watch = w'

variable {host} {w w' w'' : Watch} {α β : Type}

theorem leavesWatch_update {f : ProcessHandle → ProcessHandle} {E : String → Scope Ω → Prop}
    {r : Watch} (hf : ∀ h : ProcessHandle, h.watch = w → (f h).watch = r) :
    Total (fun s => s.handle.watch = w) (update (Ω := Ω) f) (fun _ s => s.handle.watch = r) E :=
  Total.modify fun s hs => hf s.handle hs

theorem leavesWatch_call {f : Ω → Except String α × Ω} : LeavesWatch w (call f) w := by
  refine Total.ofFun ?_ ?_
  · intro s a s' hs hf
    obtain ⟨-,rfl⟩ := Prod.mk.inj hf
    exact hs
  · intro s e s' hs hf
    obtain ⟨-,rfl⟩ := Prod.mk.inj hf
    exact hs

theorem leavesWatch_attempt {f : Ω → Except String α × Ω} : LeavesWatch w (attempt (call f)) w :=
  leavesWatch_call.attempt (fun _ _ hs => hs) fun _ _ hs => hs

theorem leavesWatch_self {f : ProcessHandle → Sup Ω α}
    (hf : ∀ h : ProcessHandle, h.watch = w → LeavesWatch w (f h) w') :
    LeavesWatch w (self >>= f) w' := by
  refine .bind (Q := fun h s => h = s.handle ∧ s.handle.watch = w)
    (.bind (Q := fun a s => a = s ∧ s.handle.watch = w) (.get fun s hs => ⟨rfl,hs⟩) fun a =>
      .pure fun s hs => ⟨by rw [hs.1],hs.2⟩) fun h => .each fun s hs => ?_
  obtain ⟨rfl,hw⟩ := hs
  exact (hf s.handle hw).pre fun s' hs' => by rw [hs',hw]

theorem leavesWatch_poll (p : Popen) : LeavesWatch w (poll host p) w := by
  unfold poll
  split
  · exact .pure fun s hs => hs
  · refine leavesWatch_call.bind fun rc => ?_
    refine .bind (Q := fun _ s => s.handle.watch = w) ?_ fun _ => .pure fun s hs => hs
    exact leavesWatch_update fun h hh => hh

theorem leavesWatch_failStaleProcess (now age : ℚ) :
    LeavesWatch w (failStaleProcess host now age) { w with state := .failed } := by
  unfold failStaleProcess
  refine (leavesWatch_update (r := { w with state := .failed }) ?_).bind fun _ => ?_
  · rintro h rfl
    rfl
  refine leavesWatch_self fun h hh => ?_
  split
  · exact .pure fun s hs => hs
  · refine (leavesWatch_poll _).bind fun rc => ?_
    split
    · exact .pure fun s hs => hs
    · refine leavesWatch_attempt.bind fun terminated => ?_
      split
      · exact leavesWatch_update fun h hh => hh
      · exact leavesWatch_update fun h hh => hh

theorem leavesWatch_stale (conf : SupervisionConf) (tick : Tick) (age : ℚ) :
    LeavesWatch w (staleHeartbeat host conf tick age) (w.stale conf tick age).1 := by
  unfold staleHeartbeat Watch.stale
  refine (leavesWatch_update (r := w.reconciling conf tick) ?_).bind fun _ => ?_
  · rintro h rfl
    rw [apply_ite ProcessHandle.watch]
    rfl
  refine leavesWatch_self fun h hh => ?_
  have hdeadline : h.heartbeatStallReconcileDeadlineMono =
      (w.reconciling conf tick).heartbeatStallReconcileDeadlineMono := by rw [← hh]; rfl
  rw [hdeadline]
  generalize w.reconciling conf tick = w₁
  dsimp only
  split
  · exact .pure fun s hs => hs
  refine (leavesWatch_update (r := w₁.struck tick.nowMono) ?_).bind fun _ => ?_
  · rintro h rfl
    rw [apply_ite ProcessHandle.watch]
    rfl
  refine leavesWatch_self fun h hh => ?_
  generalize w₁.struck tick.nowMono = w₂ at hh ⊢
  subst hh
  refine .ite (fun hgrace => ?_) fun hgrace => ?_
  · rw [Watch.judged,if_pos hgrace]
    exact leavesWatch_update fun h' hh' => by
      rw [← hh']
      rfl
  · refine .ite (fun hfew => ?_) fun hfew => ?_
    · have hfew' : h.watch.heartbeatStaleStrikes < strikesToFail conf ∧
          age < h.watch.hardTimeoutS conf := hfew
      rw [Watch.judged,if_neg hgrace,if_pos hfew']
      exact .pure fun s hs => hs
    · have hmany : ¬ (h.watch.heartbeatStaleStrikes < strikesToFail conf ∧
          age < h.watch.hardTimeoutS conf) := hfew
      rw [Watch.judged,if_neg hgrace,if_neg hmany]
      exact leavesWatch_failStaleProcess _ _

variable (host)

theorem watch_refresh (tick : Tick) (s₀ : Scope Ω) (age : ℚ) (hup : s₀.handle.watch.Up)
    (hage : s₀.handle.watch.ageS tick.nowMono = some age) {E : String → Scope Ω → Prop} :
    Total (fun s => s = s₀) (refreshIfStale host (s₀.handle.watch.spec.heartbeatTimeoutS < age))
      (fun _ s => s.handle.watch = s₀.handle.watch.drained tick (waitingFor host s₀)) E := by
  unfold refreshIfStale
  refine .ite (fun hstale => ?_) fun hfresh => ?_
  · have hdrains : s₀.handle.watch.drains tick (waitingFor host s₀) = waitingFor host s₀ := by
      rw [Watch.drains,if_pos ⟨hup,by simpa [hage] using hstale⟩]
    unfold refreshPendingProcessHeartbeats
    refine .bind (Q := fun heartbeats s => heartbeats = (host.refresh s₀.world).1 ∧
      s.handle = s₀.handle) ?_ fun heartbeats => Total.modify fun s hs => ?_
    · refine Total.ofFun ?_ fun s e s' hs hf => by cases hf
      rintro s heartbeats s' rfl hf
      obtain ⟨hok,rfl⟩ := Prod.mk.inj hf
      cases hok
      exact ⟨rfl,rfl⟩
    · rw [hs.1,hs.2,Watch.drained,hdrains]
      exact watch_foldl _ s₀.handle
  · have hdrains : s₀.handle.watch.drains tick (waitingFor host s₀) = [] := by
      rw [Watch.drains,if_neg]
      rintro ⟨-,hany⟩
      exact hfresh (by simpa [hage] using hany)
    refine .pure fun s hs => ?_
    rw [hs,Watch.drained,hdrains]
    rfl

theorem watch_enforce (conf : SupervisionConf) (tick : Tick) (s₀ : Scope Ω) :
    Total (fun s => s = s₀) (enforceManagedProcessHeartbeatTimeout host conf tick)
      (fun _ s => s.handle.watch = (s₀.handle.watch.check conf tick (waitingFor host s₀)).1)
      (fun _ s => s.handle.watch = (s₀.handle.watch.check conf tick (waitingFor host s₀)).1) := by
  unfold enforceManagedProcessHeartbeatTimeout
  refine total_self_bind (.ite (fun hdown => ?_) fun hrunning => ?_)
  · have hdown' : ¬ s₀.handle.watch.Up := fun hup => hup.elim hdown.1 hdown.2
    rw [Watch.check,if_pos hdown']
    exact .pure fun s hs => by rw [hs]
  have hup : s₀.handle.watch.Up := by
    by_contra hdown
    exact hrunning ⟨fun h => hdown (.inl h),fun h => hdown (.inr h)⟩
  rw [Watch.check,if_neg (not_not.2 hup)]
  have hage : heartbeatAgeS s₀.handle tick.nowMono = s₀.handle.watch.ageS tick.nowMono := rfl
  rw [hage]
  cases hfirst : s₀.handle.watch.ageS tick.nowMono with
  | none =>
    have hdrains : s₀.handle.watch.drained tick (waitingFor host s₀) = s₀.handle.watch := by
      simp [Watch.drained,Watch.drains,hfirst]
    rw [hdrains]
    simp only [hfirst]
    exact .pure fun s hs => by rw [hs]
  | some age =>
    refine .bind (watch_refresh host tick s₀ age hup hfirst) fun _ => ?_
    generalize s₀.handle.watch.drained tick (waitingFor host s₀) = w
    refine leavesWatch_self fun h hh => ?_
    have hage' : heartbeatAgeS h tick.nowMono = w.ageS tick.nowMono := by rw [← hh]; rfl
    have htimeout : h.spec.heartbeatTimeoutS = w.spec.heartbeatTimeoutS := by rw [← hh]; rfl
    rw [hage',htimeout]
    cases hnow : w.ageS tick.nowMono with
    | none =>
      simp only [hnow]
      exact .pure fun s hs => hs
    | some age =>
      simp only [hnow]
      refine .ite (fun hfresh => ?_) fun hstale => ?_
      · rw [if_pos hfresh]
        exact leavesWatch_update fun h' hh' => by
          rw [← hh']
          rfl
      · rw [if_neg hstale]
        exact leavesWatch_stale conf tick age

end ExperimentControl.Supervision

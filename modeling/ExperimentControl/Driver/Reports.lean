import Mathlib.Data.List.Chain
import ExperimentControl.Driver.Health

/-!
The reports of a driver over a whole history.
-/

namespace ExperimentControl.Driver
open Lib Python List

inductive Event where
  | request (payload : Entries) (turn : Turn)
  | telemetry (turn : TelemetryTurn)
  | scheduledStreams (now : ℚ) (runs : Nat → StreamRun)

structure Setup where
  py : Builtins
  interp : Interpreter
  cfg : Config
  deviceId : String

section
variable (su : Setup)

def Setup.moments (r : Runner) : Event → List Runner
  | .request payload turn => [(handleRpcRequest su.py su.cfg turn payload r).2]
  | .telemetry turn => [(r.publishTelemetry su.py su.interp su.cfg su.deviceId turn).2]
  | .scheduledStreams now runs => (r.publishScheduledStreams now runs).2

def Setup.history : Runner → List Event → List Runner
  | _,[] => []
  | r,e :: rest => su.moments r e ++ history ((su.moments r e).getLastD r) rest

/-- From one moment to the next: the device is no longer disconnected only where it has been connected;
an action that has failed, and that nothing has made good, shows; and a tick that reads well reports
the device well, where an action or a connect has succeeded and nothing has failed since. -/
structure Reported (s s' : Standing) : Prop where
  leaves : s.health.deviceState = .disconnected → s'.health.deviceState ≠ .disconnected →
    ⟨.connect,false⟩ ∈ s'.calls.drop s.calls.length
  honest : failedSince s'.calls → s'.health.deviceReachable = false ∧
    (s'.health.deviceState = .degraded ∨ s'.health.deviceState = .disconnected)
  recovers : recovered s.calls → ⟨.telemetry,false⟩ ∈ s'.calls.drop s.calls.length →
    s'.health.deviceState = .ok ∧ s'.health.deviceReachable = true

def Runner.Reports (r r' : Runner) : Prop := Reported r.standing r'.standing

/-- The latch stands for the failures, and the reported health goes with it. -/
structure Standing.Sound (s : Standing) : Prop where
  latch : s.health.actionFailedSinceLastOk = failedSince s.calls
  state : s.health.deviceState = .ok ∨ s.health.deviceState = .degraded ∨
    s.health.deviceState = .disconnected
  unreachable : s.health.actionFailedSinceLastOk → s.health.deviceReachable = false
  demoted : s.health.actionFailedSinceLastOk → s.health.deviceState ≠ .ok

def Runner.StreamsRespect (r : Runner) (now : ℚ) (runs : Nat → StreamRun) (is : List Nat) : Prop :=
  r.actionFailedSinceLastOk → ∀ i ∈ is, ∀ plan, r.scheduledStreamCalls[i]? = some plan →
    plan.nextDueS ≤ now → failed (runs i).result

/-- The event leaves the latch its meaning, and lets a tick lift a demotion. -/
def Setup.Respects (r : Runner) : Event → Prop
  | .request _ turn => turn.shows
  | .telemetry _ => su.cfg.telemetrySignalNames = [] → recovered r.calls → r.deviceState ≠ .degraded
  | .scheduledStreams now runs => r.deviceState ≠ .disconnected → r.scheduledStreamsNeedResync = false →
      r.StreamsRespect now runs (List.range r.scheduledStreamCalls.length)

end

section
variable {s s' : Standing}

theorem Standing.Sound.reported (h : s.Sound) (hsame : s' = s) : Reported s s' := by
  subst hsame
  refine ⟨fun hdisc hstate => absurd hdisc hstate,fun hfailed => ?_,fun _ htick => ?_⟩
  · have hlatch : s'.health.actionFailedSinceLastOk := h.latch ▸ hfailed
    have hok := h.demoted hlatch
    exact ⟨h.unreachable hlatch,by simpa [hok] using h.state⟩
  · simp at htick

theorem failedSince_disconnects {calls before : List DeviceCall}
    (h : ∀ call ∈ before, call.op = .disconnect) : failedSince (calls ++ before) = failedSince calls := by
  induction before using List.reverseRecOn with
  | nil => simp
  | append_singleton before call ih =>
    rw [← append_assoc,failedSince_append,ih fun c hc => h c (by simp [hc])]
    have hop := h call (by simp)
    simp [DeviceCall.failedNext,DeviceOp.isAction,hop]

theorem Standing.Handles.reported (h : s.Sound) (hstep : s.Handles s') : Reported s s' ∧ s'.Sound := by
  obtain ⟨hlatch,hstate,hunreachable,hdemoted⟩ := h
  cases hstep with
  | same => exact ⟨Standing.Sound.reported ⟨hlatch,hstate,hunreachable,hdemoted⟩ rfl,hlatch,hstate,hunreachable,hdemoted⟩
  | bystander op failed hop =>
    have hnext : (⟨op,failed⟩ : DeviceCall).failedNext (failedSince s.calls) = failedSince s.calls := by
      cases op <;> simp_all [DeviceOp.isBystander,DeviceCall.failedNext,DeviceOp.isAction]
    have hsound : Standing.Sound ⟨s.health,s.calls ++ [⟨op,failed⟩]⟩ :=
      ⟨by simpa [hnext] using hlatch,hstate,hunreachable,hdemoted⟩
    refine ⟨⟨fun hdisc hne => absurd hdisc hne,(hsound.reported rfl).honest,fun _ htick => ?_⟩,hsound⟩
    cases op <;> simp_all [DeviceOp.isBystander]
  | actionOk op reachable hop hnot =>
    have hsound : Standing.Sound ⟨⟨reachable,s.health.deviceState,false⟩,s.calls ++ [⟨op,false⟩]⟩ :=
      ⟨by simp [DeviceCall.failedNext,hop],hstate,by simp,by simp⟩
    refine ⟨⟨fun hdisc => absurd hdisc hnot,(hsound.reported rfl).honest,fun _ htick => ?_⟩,hsound⟩
    cases op <;> simp_all [DeviceOp.isAction]
  | actionFailed op hop hnot =>
    have hsound : Standing.Sound ⟨⟨false,.degraded,true⟩,s.calls ++ [⟨op,true⟩]⟩ :=
      ⟨by simp [DeviceCall.failedNext,hop],by simp,by simp,by simp⟩
    refine ⟨⟨fun hdisc => absurd hdisc hnot,(hsound.reported rfl).honest,fun _ htick => ?_⟩,hsound⟩
    simp at htick
  | disconnected failed =>
    have hsound : Standing.Sound ⟨⟨false,.disconnected,s.health.actionFailedSinceLastOk⟩,
        s.calls ++ [⟨.disconnect,failed⟩]⟩ :=
      ⟨by simpa [DeviceCall.failedNext,DeviceOp.isAction] using hlatch,by simp,by simp,by simp⟩
    refine ⟨⟨fun _ hne => absurd rfl hne,(hsound.reported rfl).honest,fun _ htick => ?_⟩,hsound⟩
    simp at htick
  | connected before hop =>
    have hsound : Standing.Sound ⟨⟨true,.ok,false⟩,s.calls ++ before ++ [⟨.connect,false⟩]⟩ :=
      ⟨by rw [failedSince_append]; rfl,by simp,by simp,by simp⟩
    refine ⟨⟨fun _ _ => by simp,(hsound.reported rfl).honest,fun _ _ => ⟨rfl,rfl⟩⟩,hsound⟩
  | connectFailed before hop failed =>
    have hsound : Standing.Sound ⟨⟨false,.disconnected,s.health.actionFailedSinceLastOk⟩,
        s.calls ++ before ++ [⟨.connect,true⟩] ++ [⟨.disconnect,failed⟩]⟩ :=
      ⟨by rw [failedSince_append,failedSince_append,failedSince_disconnects hop]; exact hlatch,
        by simp,by simp,by simp⟩
    refine ⟨⟨fun _ hne => absurd rfl hne,(hsound.reported rfl).honest,fun _ htick => ?_⟩,hsound⟩
    have hbefore : (⟨.telemetry,false⟩ : DeviceCall) ∉ before := fun hmem => by
      simpa using hop _ hmem
    simp [hbefore] at htick

theorem Standing.Ticks.reported {cfg : Config} (h : s.Sound) (hnot : s.health.deviceState ≠ .disconnected)
    (hrespects : cfg.telemetrySignalNames = [] → recovered s.calls → s.health.deviceState ≠ .degraded)
    (hstep : s.Ticks cfg s') : Reported s s' ∧ s'.Sound := by
  have hnext : ∀ failed, (⟨.telemetry,failed⟩ : DeviceCall).failedNext (failedSince s.calls) =
      failedSince s.calls := fun failed => by simp [DeviceCall.failedNext,DeviceOp.isAction]
  have hstate : s.health.deviceState = .ok ∨ s.health.deviceState = .degraded := by
    simpa [hnot] using h.state
  cases hstep with
  | demoted failed hwhy =>
    have hsound : Standing.Sound ⟨⟨false,.degraded,s.health.actionFailedSinceLastOk⟩,
        s.calls ++ [⟨.telemetry,failed⟩]⟩ :=
      ⟨by simpa [hnext] using h.latch,by simp,by simp,by simp⟩
    refine ⟨⟨fun hdisc => absurd hdisc hnot,(hsound.reported rfl).honest,fun hrec htick => ?_⟩,hsound⟩
    -- A tick that reads well, with nothing failed before it, finds the latch clear.
    have hlatch := h.latch
    rw [failedSince_of_recovered hrec] at hlatch
    simp_all
  | partly hlatch =>
    have hfailed : failedSince s.calls = false := h.latch ▸ hlatch
    have hsound : Standing.Sound ⟨⟨true,.degraded,false⟩,s.calls ++ [⟨.telemetry,true⟩]⟩ :=
      ⟨by simpa [hnext] using hfailed.symm,by simp,by simp,by simp⟩
    refine ⟨⟨fun hdisc => absurd hdisc hnot,(hsound.reported rfl).honest,fun hrec htick => ?_⟩,hsound⟩
    simp at htick
  | promoted hlatch hsignals =>
    have hfailed : failedSince s.calls = false := h.latch ▸ hlatch
    have hok : (if s.health.deviceState = .degraded then .ok else s.health.deviceState) = DeviceState.ok := by
      rcases hstate with hs | hs <;> simp [hs]
    rw [hok]
    have hsound : Standing.Sound ⟨⟨true,.ok,false⟩,s.calls ++ [⟨.telemetry,false⟩]⟩ :=
      ⟨by simpa [hnext] using hfailed.symm,by simp,by simp,by simp⟩
    exact ⟨⟨fun hdisc => absurd hdisc hnot,(hsound.reported rfl).honest,fun _ _ => ⟨rfl,rfl⟩⟩,hsound⟩
  | kept hlatch hsignals failed =>
    have hfailed : failedSince s.calls = false := h.latch ▸ hlatch
    have hsound : Standing.Sound ⟨⟨true,s.health.deviceState,false⟩,s.calls ++ [⟨.telemetry,failed⟩]⟩ :=
      ⟨by simpa [hnext] using hfailed.symm,h.state,by simp,by simp⟩
    refine ⟨⟨fun hdisc => absurd hdisc hnot,(hsound.reported rfl).honest,fun hrec _ => ?_⟩,hsound⟩
    have hdeg := hrespects hsignals hrec
    exact ⟨by simpa [hdeg] using hstate,rfl⟩

theorem Standing.Streams.reported {runsWell : Prop} (h : s.Sound)
    (hnot : s.health.deviceState ≠ .disconnected)
    (hrespects : runsWell → s.health.actionFailedSinceLastOk = false)
    (hstep : s.Streams runsWell s') : Reported s s' ∧ s'.Sound := by
  have hnext : ∀ failed, (⟨.scheduledStream,failed⟩ : DeviceCall).failedNext (failedSince s.calls) =
      failedSince s.calls := fun failed => by simp [DeviceCall.failedNext,DeviceOp.isAction]
  cases hstep with
  | idle => exact ⟨h.reported rfl,h⟩
  | ran hwell =>
    have hlatch := hrespects hwell
    have hsound : Standing.Sound ⟨⟨true,s.health.deviceState,s.health.actionFailedSinceLastOk⟩,
        s.calls ++ [⟨.scheduledStream,false⟩]⟩ :=
      ⟨by simpa [hnext] using h.latch,h.state,by simp [hlatch],by simp [hlatch]⟩
    refine ⟨⟨fun hdisc => absurd hdisc hnot,(hsound.reported rfl).honest,fun hrec htick => ?_⟩,hsound⟩
    simp at htick
  | failed =>
    have hsound : Standing.Sound ⟨⟨s.health.deviceReachable,.degraded,s.health.actionFailedSinceLastOk⟩,
        s.calls ++ [⟨.scheduledStream,true⟩]⟩ :=
      ⟨by simpa [hnext] using h.latch,by simp,h.unreachable,by simp⟩
    refine ⟨⟨fun hdisc => absurd hdisc hnot,(hsound.reported rfl).honest,fun hrec htick => ?_⟩,hsound⟩
    simp at htick

end

section
variable {su : Setup} {r : Runner}

theorem reported_one {r' : Runner} (h : Reported r.standing r'.standing ∧ r'.standing.Sound) :
    [r,r'].IsChain Runner.Reports ∧ ∀ later ∈ [r'], later.standing.Sound :=
  ⟨isChain_pair.2 h.1,by simpa using h.2⟩

theorem reported_runPlans {now : ℚ} {runs : Nat → StreamRun} {is : List Nat} (hnodup : is.Nodup)
    (h : r.standing.Sound) (hnot : r.deviceState ≠ .disconnected)
    (hrespects : r.StreamsRespect now runs is) :
    (r :: (Runner.runPlans now runs is r).2).IsChain Runner.Reports ∧
      ∀ r' ∈ (Runner.runPlans now runs is r).2, r'.standing.Sound := by
  induction is generalizing r with
  | nil => simp [Runner.runPlans]
  | cons i rest ih =>
    obtain ⟨hi,hrest⟩ := nodup_cons.1 hnodup
    have hstep := (@streams_runPlan _ (runs i) hnot now i).reported h hnot
      fun ⟨plan,hplan,hdue,hwell⟩ => by
        by_contra hlatch
        have hfailed := hrespects (by simpa [Runner.standing] using hlatch) i (by simp) plan hplan hdue
        simp [hwell] at hfailed
    have hnot' := (@runPlan_frame _ (runs i) hnot now i (i+1) (by omega)).2.2
    have hrespects' : (Runner.runPlan now (runs i) i r).2.StreamsRespect now runs rest := by
      intro hlatch j hj plan hplan hdue
      have hframe := @runPlan_frame _ (runs i) hnot now _ _
        (fun heq : j = i => hi (heq ▸ hj))
      exact hrespects (hframe.2.1 ▸ hlatch) j (by simp [hj]) plan (hframe.1 ▸ hplan) hdue
    have hlater := ih hrest hstep.2 hnot' hrespects'
    unfold Runner.runPlans
    split
    · rename_i hplan
      rw [hplan] at hstep
      exact reported_one hstep
    · rename_i hplan
      rw [hplan] at hstep hlater
      refine ⟨?_,?_⟩
      · exact isChain_cons_cons.2 ⟨hstep.1,hlater.1⟩
      · simpa using ⟨hstep.2,hlater.2⟩

theorem reported_moments {e : Event} (h : r.standing.Sound) (hrespects : su.Respects r e) :
    (r :: su.moments r e).IsChain Runner.Reports ∧ ∀ r' ∈ su.moments r e, r'.standing.Sound := by
  cases e with
  | request payload turn =>
    have hstep := (@handles_request r su.py su.cfg _ payload hrespects).reported h
    exact reported_one hstep
  | telemetry turn =>
    by_cases hdisc : r.deviceState = .disconnected
    · have hsame : (r.publishTelemetry su.py su.interp su.cfg su.deviceId turn).2 = r := by
        simp [Runner.publishTelemetry,hdisc]
      simp only [Setup.moments,hsame]
      exact reported_one ⟨h.reported rfl,h⟩
    · have hstep := (@ticks_publishTelemetry r su.py su.cfg hdisc su.interp su.deviceId turn).reported h hdisc hrespects
      exact reported_one hstep
  | scheduledStreams now runs =>
    unfold Setup.moments Runner.publishScheduledStreams
    dsimp only
    split
    · exact reported_one ⟨h.reported rfl,h⟩
    · rename_i hdisc
      split
      · exact reported_one ⟨h.reported rfl,h⟩
      · rename_i hresync
        exact reported_runPlans nodup_range h hdisc (hrespects hdisc (by simpa using hresync))

theorem start_sound (plans : List ScheduledPlan) : (Runner.start plans).standing.Sound :=
  ⟨rfl,.inr (.inr rfl),by simp [Runner.start,Runner.standing],by simp [Runner.start,Runner.standing]⟩

def Setup.AllRespect (su : Setup) : Runner → List Event → Prop
  | _,[] => True
  | r,e :: rest => su.Respects r e ∧ su.AllRespect ((su.moments r e).getLastD r) rest

theorem isChain_append_of_getLastD {α : Type} {R : α → α → Prop} {a : α} {l rest : List α}
    (h : (a :: l).IsChain R) (hrest : (l.getLastD a :: rest).IsChain R) :
    (a :: (l ++ rest)).IsChain R := by
  induction l generalizing a with
  | nil => simpa using hrest
  | cons b l ih =>
    obtain ⟨hab,hl⟩ := isChain_cons_cons.1 h
    rw [cons_append,isChain_cons_cons]
    exact ⟨hab,ih hl (by rwa [getLastD_cons] at hrest)⟩

theorem reported_history {events : List Event} (h : r.standing.Sound) (hrespect : su.AllRespect r events) :
    (r :: su.history r events).IsChain Runner.Reports := by
  induction events generalizing r with
  | nil => simp [Setup.history]
  | cons e rest ih =>
    obtain ⟨hfirst,hrest⟩ := hrespect
    obtain ⟨hchain,hsound⟩ := reported_moments h hfirst
    have hlast : ((su.moments r e).getLastD r).standing.Sound := by
      cases hm : su.moments r e with
      | nil => exact h
      | cons first later =>
        refine hsound _ ?_
        rw [hm,getLastD_eq_getLast?,getLast?_eq_some_getLast (by simp)]
        exact getLast_mem (by simp)
    exact isChain_append_of_getLastD hchain (ih hlast hrest)

/-- Whatever a driver is asked for, and however its device answers: as long as no scheduled stream runs
well while the latch is set, no device without telemetry signals is found degraded by a tick after its
recovery, and what its device raises can be shown, its reports are honest and recover. -/
theorem health_report_honest (su : Setup) (plans : List ScheduledPlan) (events : List Event)
    (hrespect : su.AllRespect (.start plans) events) :
    (Runner.start plans :: su.history (.start plans) events).IsChain Runner.Reports :=
  reported_history (start_sound plans) hrespect

end

def camera : Setup where
  py := .plain
  interp := .cpython
  cfg := ⟨[],["stream__frames"],["frames"]⟩
  deviceId := "camera"

def cameraWithSignal : Setup :=
  { camera with cfg := ⟨[⟨"gain",[⟨"gain",none,"int64"⟩]⟩],["stream__frames"],["frames"]⟩ }

def framesPlan : ScheduledPlan := ⟨"stream__frames",1,1⟩

def connectEvent : Event := .request [("id",.int 1),("action",.str "connect_device")] wellTurn

def getGain (answer : Except Exc Obj) : Event :=
  .request [("id",.int 2),("action",.str "get"),("params",.dict false [("name",.str "gain")])]
    { wellTurn with getattr := answer }

def timeout : Exc := .plain .other "VISA timeout"

def framesRun (answer : Except Exc Obj) : Event := .scheduledStreams 1 fun _ => ⟨⟨0,0⟩,answer⟩

def gainTick : Event := .telemetry ⟨⟨0,0⟩,fun _ => .returned fun _ => .ok (.int 3)⟩

theorem camera_recovers :
    (Runner.start [framesPlan] :: cameraWithSignal.history (.start [framesPlan])
      [connectEvent,getGain (.error timeout),framesRun (.error timeout),getGain (.ok (.int 3)),gainTick]).IsChain
      Runner.Reports := by
  refine health_report_honest cameraWithSignal [framesPlan] _ ⟨rfl,rfl,?_,rfl,?_,trivial⟩
  · intro _ _ _ i hi plan hplan _
    rfl
  · intro hsignals
    cases hsignals

theorem moments_framesRun {su : Setup} {r : Runner} {v : Obj} (hstate : r.deviceState ≠ .disconnected)
    (hresync : r.scheduledStreamsNeedResync = false) (hplans : r.scheduledStreamCalls = [framesPlan]) :
    ∃ r', su.moments r (framesRun (.ok v)) = [r'] ∧ r'.standing =
      ⟨⟨true,r.deviceState,r.actionFailedSinceLastOk⟩,r.calls ++ [⟨.scheduledStream,false⟩]⟩ := by
  have hwell : r.RunsWell 1 ⟨⟨0,0⟩,.ok v⟩ 0 := ⟨framesPlan,by simp [hplans],le_refl _,rfl⟩
  obtain ⟨hok,hstanding⟩ := standing_runPlan hstate hwell
  refine ⟨(Runner.runPlan 1 ⟨⟨0,0⟩,.ok v⟩ 0 r).2,?_,hstanding⟩
  simp only [framesRun,Setup.moments,Runner.publishScheduledStreams,if_neg hstate,hresync,
    Bool.false_eq_true,if_false,hplans,length_singleton,range_one,Runner.runPlans]
  split
  · rename_i hplan
    simp [hplan] at hok
  · rename_i hplan
    simp [hplan]

def timedOut (plans : List ScheduledPlan) : Runner :=
  (camera.history (.start plans) [connectEvent,getGain (.error timeout)]).getLastD (.start plans)

/-- A stream that runs well after a get has failed reports the camera reachable; and the camera without
signals stays degraded, whatever succeeds and however its ticks read. -/
theorem camera_misreported : ¬(Runner.start [framesPlan] :: camera.history (.start [framesPlan])
        [connectEvent,getGain (.error timeout),framesRun (.ok .none)]).IsChain Runner.Reports ∧
      ¬(Runner.start [] :: camera.history (.start [])
        [connectEvent,getGain (.error timeout),getGain (.ok (.int 3)),.telemetry ⟨⟨0,0⟩,fun _ => .missing⟩]).IsChain
          Runner.Reports := by
  constructor
  · intro h
    have hchain : List.IsChain Runner.Reports (timedOut [framesPlan] ::
        (camera.moments (timedOut [framesPlan]) (framesRun (.ok .none)) ++ [])) :=
      (isChain_cons_cons.1 (isChain_cons_cons.1 h).2).2
    obtain ⟨r',hmoments,hstanding⟩ := @moments_framesRun camera (timedOut [framesPlan])
      .none (by decide) rfl rfl
    rw [hmoments] at hchain
    have hlast : Runner.Reports _ r' := (isChain_cons_cons.1 hchain).1
    have hreachable := (hlast.honest (by rw [hstanding]; rfl)).1
    rw [hstanding] at hreachable
    cases hreachable
  · intro h
    obtain ⟨_,h⟩ := isChain_cons_cons.1 h
    obtain ⟨_,h⟩ := isChain_cons_cons.1 h
    obtain ⟨_,h⟩ := isChain_cons_cons.1 h
    obtain ⟨hlast,_⟩ := isChain_cons_cons.1 h
    have htick : (⟨.telemetry,false⟩ : DeviceCall) ∈ [(⟨.telemetry,false⟩ : DeviceCall)] := by simp
    have hstate := (hlast.recovers rfl htick).1
    cases hstate

end ExperimentControl.Driver

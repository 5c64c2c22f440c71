import Mathlib.Data.Set.Card
import Mathlib.Order.Interval.Finset.Nat
import ExperimentControl.Driver.Containment
import ExperimentControl.Driver.Health

/-!
The accounts of the scheduled streams: since the last resync, every due time of a plan that has passed was
either a call or is counted as missed.
-/

namespace ExperimentControl.Driver
open Lib Python List

/-- The last resync, for each plan the calls made and the misses counted since, and all those before it. -/
structure Ledger where
  base : ℚ
  calls : Nat → Nat
  missed : Nat → Nat
  callsBefore : Nat
  missedBefore : Nat

def Ledger.opened (base : ℚ) (callsBefore missedBefore : Nat) : Ledger :=
  ⟨base,fun _ => 0,fun _ => 0,callsBefore,missedBefore⟩

def Ledger.allCalls (l : Ledger) (n : Nat) : Nat := l.callsBefore+∑ i ∈ Finset.range n, l.calls i
def Ledger.allMissed (l : Ledger) (n : Nat) : Nat := l.missedBefore+∑ i ∈ Finset.range n, l.missed i

@[grind =] def Runner.streamCalls (r : Runner) : Nat := r.calls.countP fun call => call.op = .scheduledStream

/-- By how much plan `i` of a pass raises a counter. -/
def gained (count : Runner → Nat) (r : Runner) (moments : List Runner) (i : Nat) : Nat :=
  moments[i]?.elim 0 count-(r :: moments)[i]?.elim 0 count

/-- A pass without a device leaves the ledger, and a resync opens it anew: neither accounts for any due time. -/
def Ledger.pass (now : ℚ) (r : Runner) (moments : List Runner) (l : Ledger) : Ledger :=
  if r.deviceState = .disconnected then l
  else if r.scheduledStreamsNeedResync then
    .opened now (l.allCalls r.scheduledStreamCalls.length) (l.allMissed r.scheduledStreamCalls.length)
  else
    { l with
      calls i := l.calls i+gained Runner.streamCalls r moments i
      missed i := l.missed i+gained Runner.scheduledStreamMissedTotal r moments i }

section
variable (su : LoopSetup)

def LoopSetup.beforeStreams (it : Iteration) (s : LoopState) : Runner :=
  let s := match it.message with
    | none => s
    | some message => (su.serve it.turn message s).2
  let r := if s.nextHb ≤ it.now then s.runner.publishHeartbeat else s.runner
  if s.nextTel ≤ it.now then (r.publishTelemetry su.py su.interp su.cfg su.deviceId it.telemetry).2 else r

/-- The run loop, its streams scheduled at `start`: the time of the last pass, the state and the ledger. -/
inductive Running (plans : List ScheduledPlan) (start : ℚ) : ℚ → LoopState → Ledger → Prop where
  | start (now : ℚ) : Running plans start start
      (.start (plans.map fun plan => { plan with nextDueS := start+plan.periodS }) now) (.opened start 0 0)
  | pass {t : ℚ} {s s' : LoopState} {l : Ledger} (it : Iteration) : Running plans start t s l →
      t ≤ it.nowStreams → s.runner.stop = false → su.iterate it s = (.ok (),s') →
      Running plans start it.nowStreams s' (l.pass it.nowStreams (su.beforeStreams it s)
        ((su.beforeStreams it s).publishScheduledStreams it.nowStreams it.streams).2)

end

def Runner.schedule (r : Runner) : List ScheduledPlan × Bool × Nat × Nat :=
  (r.scheduledStreamCalls,r.scheduledStreamsNeedResync,r.streamCalls,r.scheduledStreamMissedTotal)

section
variable {r : Runner} {py : Builtins} {cfg : Config} {turn : Turn} {req : Request}

theorem schedule_refresh : (r.refreshCapabilitiesCache turn).2.schedule = r.schedule := by
  unfold Runner.refreshCapabilitiesCache
  grind [Runner.schedule]

theorem schedule_ensure : (r.ensureMembers turn).2.schedule = r.schedule := by
  grind [Runner.ensureMembers,schedule_refresh]

theorem schedule_capabilities : (capabilities turn r).2.schedule = r.schedule := by
  grind [capabilities,schedule_refresh]

theorem schedule_markFailure {what : String} {exc : Exc} : (r.markFailure what exc).2.schedule = r.schedule := by
  grind [Runner.markFailure,Runner.markDeviceUnreachable,Runner.degrade,Runner.schedule]

theorem schedule_asked {op : DeviceOp} {failed : Bool} (hop : op ≠ .scheduledStream) :
    (r.asked op failed).schedule = r.schedule := by
  simp [Runner.schedule,Runner.streamCalls,Runner.asked,hop]

theorem schedule_markActionSucceeded : r.markActionSucceeded.schedule = r.schedule := rfl

theorem schedule_dispatch : (dispatch py cfg turn req r).2.schedule = r.schedule := by
  unfold dispatch rpcRouteShutdown rpcRouteCapabilities rpcRouteRefreshCapabilities rpcRouteGet rpcRouteSet
    rpcRouteStatus rpcRouteCollectRunMetadata rpcRouteIdentity rpcRouteConnectDevice rpcRouteDisconnectDevice
    rpcRouteStreamContextSet rpcRouteStreamContextClear rpcDispatchDeviceCommand Runner.actionReturned
    Runner.connected Runner.disconnected
  repeat' split
  all_goals grind [schedule_refresh,schedule_ensure,schedule_capabilities,schedule_markFailure,schedule_asked,
    schedule_markActionSucceeded,Runner.schedule]

theorem schedule_handle {payload : Entries} : (handleRpcRequest py cfg turn payload r).2.schedule = r.schedule := by
  unfold handleRpcRequest answerException
  grind [schedule_dispatch,Runner.schedule]

theorem schedule_readTelemetry {reads : Nat → PlanRead} {plans : List TelemetryPlan} {i : Nat} {t : Telemetry} :
    (py.readTelemetry reads i plans t r).2.2.schedule = r.schedule := by
  induction plans generalizing i t r with
  | nil => rfl
  | cons plan rest ih =>
    unfold Builtins.readTelemetry
    dsimp only
    split
    · rfl
    · rw [ih]
      rfl

theorem schedule_telemetry {interp : Interpreter} {deviceId : String} {t : TelemetryTurn} :
    (r.publishTelemetry py interp cfg deviceId t).2.schedule = r.schedule := by
  unfold Runner.publishTelemetry Runner.updateTelemetry Runner.applyNoSignals Runner.applyTelemetryQualityState
    Runner.degrade
  grind [schedule_readTelemetry,schedule_asked,Runner.schedule]

variable {su : LoopSetup} {it : Iteration} {s s' : LoopState}

theorem schedule_beforeStreams : (su.beforeStreams it s).schedule = s.runner.schedule := by
  have hserve : ∀ message, (su.serve it.turn message s).2.runner.schedule = s.runner.schedule := by
    intro message
    unfold LoopSetup.serve Runner.endOperation Runner.beginOperation Runner.publishHeartbeat
    grind [schedule_handle,Runner.schedule]
  unfold LoopSetup.beforeStreams Runner.publishHeartbeat
  grind [schedule_telemetry,Runner.schedule]

theorem iterate_streams (h : su.iterate it s = (.ok (),s')) :
    ((su.beforeStreams it s).publishScheduledStreams it.nowStreams it.streams).1 = .ok () ∧
      s'.runner = ((su.beforeStreams it s).publishScheduledStreams it.nowStreams it.streams).2.getLastD
        (su.beforeStreams it s) := by
  unfold LoopSetup.beforeStreams
  unfold LoopSetup.iterate LoopSetup.publish at h
  grind

end

section
variable {now : ℚ} {run : StreamRun} {runs : Nat → StreamRun} {r : Runner} {plan plan' : ScheduledPlan}

/-- What a pass makes of a plan, with that many calls and misses. -/
structure Ran (now : ℚ) (plan plan' : ScheduledPlan) (calls missed : Nat) : Prop where
  period : plan'.periodS = plan.periodS
  ahead : now < plan'.nextDueS
  next : plan'.nextDueS = plan.nextDueS+(calls+missed)*plan.periodS
  passed : calls+missed ≠ 0 → plan'.nextDueS ≤ now+plan.periodS

theorem floor_missed {now due period : ℚ} (hperiod : 0 < period) (hdue : due ≤ now) :
    now < due+(⌊(now-due)/period⌋.toNat+1)*period ∧ due+⌊(now-due)/period⌋.toNat*period ≤ now := by
  have hnonneg : (0 : ℚ) ≤ (now-due)/period := div_nonneg (sub_nonneg.2 hdue) hperiod.le
  have hcast : ((⌊(now-due)/period⌋.toNat : ℕ) : ℚ) = ⌊(now-due)/period⌋ := by
    exact_mod_cast Int.toNat_of_nonneg (Int.floor_nonneg.2 hnonneg)
  rw [hcast]
  have hlow := (le_div_iff₀ hperiod).1 (Int.floor_le ((now-due)/period))
  have hhigh := (div_lt_iff₀ hperiod).1 (Int.lt_floor_add_one ((now-due)/period))
  constructor <;> linarith

theorem streamRan_counts {name : String} {run : StreamRun} (r : Runner) :
    (Runner.streamRan r name run).2.scheduledStreamCalls = r.scheduledStreamCalls ∧
      (Runner.streamRan r name run).2.scheduledStreamsNeedResync = r.scheduledStreamsNeedResync ∧
      (Runner.streamRan r name run).2.scheduledStreamMissedTotal = r.scheduledStreamMissedTotal ∧
      (Runner.streamRan r name run).2.streamCalls = r.streamCalls := by
  unfold Runner.streamRan Runner.degrade Runner.streamCalls
  grind

theorem runPlan_resync {i : Nat} :
    (Runner.runPlan now run i r).2.scheduledStreamsNeedResync = r.scheduledStreamsNeedResync := by
  unfold Runner.runPlan
  split
  · rfl
  · split
    · rfl
    · rw [(streamRan_counts _).2.1]
      rfl

theorem runPlan_ran {i : Nat} (hplan' : (Runner.runPlan now run i r).2.scheduledStreamCalls[i]? = some plan') :
    ∃ plan, r.scheduledStreamCalls[i]? = some plan ∧ (0 < plan.periodS → Ran now plan plan'
      ((Runner.runPlan now run i r).2.streamCalls-r.streamCalls)
      ((Runner.runPlan now run i r).2.scheduledStreamMissedTotal-r.scheduledStreamMissedTotal)) := by
  cases hplan : r.scheduledStreamCalls[i]? with
  | none => simp [Runner.runPlan,hplan] at hplan'
  | some plan =>
    refine ⟨plan,rfl,fun hperiod => ?_⟩
    by_cases hdue : now < plan.nextDueS
    · simp only [Runner.runPlan,hplan,hdue,if_true] at hplan' ⊢
      obtain rfl : plan = plan' := Option.some.inj hplan'
      exact ⟨rfl,hdue,by simp,by simp⟩
    · have hi : i < r.scheduledStreamCalls.length := (List.getElem?_eq_some_iff.1 hplan).1
      obtain ⟨hahead,hpassed⟩ := floor_missed hperiod (not_lt.1 hdue)
      simp only [Runner.runPlan,hplan,hdue,if_false,(streamRan_counts _).1,(streamRan_counts _).2.2.1,
        (streamRan_counts _).2.2.2] at hplan' ⊢
      simp [Runner.asked,Runner.beginOperation,Runner.endOperation,Runner.publishHeartbeat,hi,
        Runner.streamCalls] at hplan' ⊢
      subst hplan'
      exact ⟨rfl,hahead,by ring,fun _ => by dsimp only; linarith⟩

theorem runPlans_frame {is : List Nat} (hstate : r.deviceState ≠ .disconnected) :
    ((Runner.runPlans now runs is r).2.getLastD r).deviceState ≠ .disconnected ∧
      ((Runner.runPlans now runs is r).2.getLastD r).scheduledStreamsNeedResync = r.scheduledStreamsNeedResync ∧
      ∀ j ∉ is, ((Runner.runPlans now runs is r).2.getLastD r).scheduledStreamCalls[j]? =
        r.scheduledStreamCalls[j]? := by
  induction is generalizing r with
  | nil => exact ⟨hstate,rfl,fun _ _ => rfl⟩
  | cons i rest ih =>
    have hframe := fun j => @runPlan_frame r (runs i) hstate now i j
    have hresync := @runPlan_resync now (runs i) r i
    unfold Runner.runPlans
    split
    · rename_i hrun
      rw [hrun] at hframe hresync
      refine ⟨(hframe (i+1) (by omega)).2.2,hresync,fun j hj => (hframe j ?_).1⟩
      exact fun h => hj (h ▸ mem_cons_self)
    · rename_i hrun
      rw [hrun] at hframe hresync
      obtain ⟨hlast,hneed,hothers⟩ := ih (hframe (i+1) (by omega)).2.2
      simp only [getLastD_cons]
      refine ⟨hlast,hneed.trans hresync,fun j hj => ?_⟩
      rw [mem_cons,not_or] at hj
      exact (hothers j hj.2).trans (hframe j hj.1).1

theorem runPlans_ran {a n i : Nat} (hok : (Runner.runPlans now runs (List.range' a n) r).1 = .ok ())
    (hstate : r.deviceState ≠ .disconnected) (hlow : a ≤ i) (hhigh : i < a+n)
    (hplan' : ((Runner.runPlans now runs (List.range' a n) r).2.getLastD r).scheduledStreamCalls[i]? = some plan') :
    ∃ plan, r.scheduledStreamCalls[i]? = some plan ∧ (0 < plan.periodS → Ran now plan plan'
      (gained Runner.streamCalls r (Runner.runPlans now runs (List.range' a n) r).2 (i-a))
      (gained Runner.scheduledStreamMissedTotal r (Runner.runPlans now runs (List.range' a n) r).2 (i-a))) := by
  induction n generalizing a r with
  | zero => omega
  | succ n ih =>
    have hran := fun plan' => @runPlan_ran now (runs a) r plan' a
    have hframe := fun j => @runPlan_frame r (runs a) hstate now a j
    rw [range'_succ] at hok hplan' ⊢
    unfold Runner.runPlans at hok hplan' ⊢
    split at hok
    · cases hok
    · rename_i r₁ hrun
      rw [hrun] at hframe hran
      simp only [hrun,getLastD_cons] at hplan' ⊢
      have hstate₁ := (hframe (a+1) (by omega)).2.2
      rcases Nat.lt_or_eq_of_le hlow with hlt | rfl
      · obtain ⟨k,rfl⟩ := Nat.exists_eq_add_of_lt hlt
        obtain ⟨plan,hplan,hplanRan⟩ := ih hok hstate₁ (by omega) (by omega) hplan'
        refine ⟨plan,(hframe _ (by omega)).1.symm.trans hplan,fun hperiod => ?_⟩
        have hk : a+k+1-a = k+1 := by omega
        have hk' : a+k+1-(a+1) = k := by omega
        simpa [gained,hk,hk'] using hplanRan hperiod
      · have hlater := (@runPlans_frame now runs r₁ (List.range' (a+1) n) hstate₁).2.2 a (by simp)
        obtain ⟨plan,hplan,hplanRan⟩ := hran _ (hlater.symm.trans hplan')
        refine ⟨plan,hplan,fun hperiod => ?_⟩
        simpa [gained] using hplanRan hperiod

/-- The counters are those of the ledger. -/
def Ledger.Balanced (l : Ledger) (r : Runner) : Prop :=
  r.streamCalls = l.allCalls r.scheduledStreamCalls.length ∧
    r.scheduledStreamMissedTotal = l.allMissed r.scheduledStreamCalls.length

/-- After `n` calls and misses the plan is due `n+1` periods after the resync, and the `n`-th due time has passed. -/
structure Ledger.Exact (l : Ledger) (t : ℚ) (i : Nat) (plan : ScheduledPlan) : Prop where
  period : 0 < plan.periodS
  next : plan.nextDueS = l.base+(l.calls i+l.missed i+1)*plan.periodS
  passed : l.base+(l.calls i+l.missed i)*plan.periodS ≤ t

variable {l : Ledger} {t : ℚ}

theorem Ledger.Exact.ran {l' : Ledger} {i calls missed : Nat} (h : l.Exact t i plan) (htime : t ≤ now)
    (hran : Ran now plan plan' calls missed) (hbase : l'.base = l.base)
    (hcalls : l'.calls i = l.calls i+calls) (hmissed : l'.missed i = l.missed i+missed) :
    l'.Exact now i plan' := by
  have hnext : plan'.nextDueS = l'.base+(l'.calls i+l'.missed i+1)*plan'.periodS := by
    rw [hran.next,h.next,hbase,hcalls,hmissed,hran.period]
    push_cast
    ring
  refine ⟨hran.period ▸ h.period,hnext,?_⟩
  by_cases hnone : calls+missed = 0
  · obtain ⟨rfl,rfl⟩ := Nat.add_eq_zero_iff.1 hnone
    have hpassed := h.passed
    simp only [hbase,hcalls,hmissed,hran.period,Nat.add_zero]
    linarith
  · have hpassed := hran.passed hnone
    rw [hnext,hran.period] at hpassed
    rw [hran.period]
    linarith

theorem exact_pass (h : ∀ i plan, r.scheduledStreamCalls[i]? = some plan → l.Exact t i plan) (htime : t ≤ now)
    (hok : (r.publishScheduledStreams now runs).1 = .ok ()) (i : Nat)
    (hplan' : ((r.publishScheduledStreams now runs).2.getLastD r).scheduledStreamCalls[i]? = some plan') :
    (l.pass now r (r.publishScheduledStreams now runs).2).Exact now i plan' ∧
      (((r.publishScheduledStreams now runs).2.getLastD r).deviceState ≠ .disconnected → now < plan'.nextDueS) := by
  unfold Runner.publishScheduledStreams at hok hplan' ⊢
  unfold Ledger.pass
  split_ifs at hok hplan' ⊢ with hstate hresync
  · have hexact := h i plan' hplan'
    exact ⟨⟨hexact.period,hexact.next,hexact.passed.trans htime⟩,fun hnot => absurd hstate hnot⟩
  · simp only [getLastD_cons,getLastD_nil,getElem?_map,Option.map_eq_some_iff] at hplan' ⊢
    obtain ⟨plan,hplan,rfl⟩ := hplan'
    have hperiod := (h i plan hplan).period
    exact ⟨⟨hperiod,by simp [Ledger.opened],by simp [Ledger.opened]⟩,fun _ => by dsimp only; linarith⟩
  · rw [range_eq_range'] at hok hplan' ⊢
    by_cases hin : i < r.scheduledStreamCalls.length
    · obtain ⟨plan,hplan,hran⟩ := runPlans_ran hok hstate (Nat.zero_le i) (by omega) hplan'
      have hexact := h i plan hplan
      have hplanRan := hran hexact.period
      exact ⟨hexact.ran htime hplanRan rfl rfl rfl,fun _ => hplanRan.ahead⟩
    · have hframe := (@runPlans_frame now runs r (List.range' 0 r.scheduledStreamCalls.length) hstate).2.2 i
        fun hmem => hin (by simpa using (mem_range'_1.1 hmem).2)
      rw [hframe,getElem?_eq_none (Nat.le_of_not_lt hin)] at hplan'
      cases hplan'

end

theorem Running.exact {su : LoopSetup} {plans : List ScheduledPlan} {start t : ℚ} {s : LoopState} {l : Ledger}
    (h : Running su plans start t s l) (hperiods : ∀ plan ∈ plans, 0 < plan.periodS) (i : Nat)
    (plan : ScheduledPlan) (hplan : s.runner.scheduledStreamCalls[i]? = some plan) :
    l.Exact t i plan ∧ (s.runner.deviceState ≠ .disconnected → t < plan.nextDueS) := by
  induction h generalizing i plan with
  | start now =>
    simp only [LoopState.start,Runner.start,getElem?_map,Option.map_eq_some_iff] at hplan ⊢
    obtain ⟨plan,hplan,rfl⟩ := hplan
    have hperiod := hperiods plan (mem_of_getElem? hplan)
    exact ⟨⟨hperiod,by simp [Ledger.opened],by simp [Ledger.opened]⟩,fun hnot => absurd rfl hnot⟩
  | @pass _ s _ _ it _ htime _ hiter ih =>
    obtain ⟨hok,hrunner⟩ := iterate_streams hiter
    have hsame : (su.beforeStreams it s).scheduledStreamCalls = s.runner.scheduledStreamCalls :=
      congrArg Prod.fst schedule_beforeStreams
    rw [hrunner] at hplan ⊢
    exact exact_pass (fun i plan hp => (ih i plan (hsame ▸ hp)).1) htime hok i hplan

end ExperimentControl.Driver

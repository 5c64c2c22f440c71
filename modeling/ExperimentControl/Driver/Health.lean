import ExperimentControl.Driver.Runner

/-!
Whether the health report of a driver is honest and recovers: what every request, telemetry tick and
scheduled stream does to the fields that report on the device, against what the device has been asked
for and how it went.
-/

namespace ExperimentControl.Driver
open Lib Python List

/-- `get`, `set`, a device command or a stream RPC -/
def DeviceOp.isAction : DeviceOp → Bool
  | .get | .set | .command | .streamRpc => true
  | _ => false

def DeviceCall.failedNext (pending : Bool) (call : DeviceCall) : Bool :=
  if call.op.isAction then call.failed else if call.op = .connect ∧ !call.failed then false else pending

def failedSince (calls : List DeviceCall) : Bool := calls.foldl DeviceCall.failedNext false

def DeviceCall.recoveredNext (recovered : Bool) (call : DeviceCall) : Bool :=
  if call.failed then false else if call.op.isAction ∨ call.op = .connect then true else recovered

def recovered (calls : List DeviceCall) : Bool := calls.foldl DeviceCall.recoveredNext false

@[simp] theorem failedSince_append (calls : List DeviceCall) (call : DeviceCall) :
    failedSince (calls ++ [call]) = call.failedNext (failedSince calls) := by
  simp [failedSince]

@[simp] theorem recovered_append (calls : List DeviceCall) (call : DeviceCall) :
    recovered (calls ++ [call]) = call.recoveredNext (recovered calls) := by
  simp [recovered]

theorem failedSince_of_recovered {calls : List DeviceCall} (h : recovered calls) :
    failedSince calls = false := by
  induction calls using List.reverseRecOn with
  | nil => rfl
  | append_singleton calls call ih =>
    rw [recovered_append] at h
    rw [failedSince_append]
    obtain ⟨op,failed⟩ := call
    cases op <;> cases failed <;>
      simp_all [DeviceCall.failedNext,DeviceCall.recoveredNext,DeviceOp.isAction]

def DeviceOp.isBystander : DeviceOp → Bool
  | .disconnect | .runMetadata | .identity => true
  | _ => false

structure Standing where
  health : Health
  calls : List DeviceCall

def Runner.standing (r : Runner) : Standing := ⟨r.toHealth,r.calls⟩

namespace Standing

inductive Handles (s : Standing) : Standing → Prop where
  | same : Handles s s
  | bystander (op : DeviceOp) (failed : Bool) (h : op.isBystander) :
      Handles s ⟨s.health,s.calls ++ [⟨op,failed⟩]⟩
  | actionOk (op : DeviceOp) (reachable : Bool) (h : op.isAction)
      (hstate : s.health.deviceState ≠ .disconnected) :
      Handles s ⟨⟨reachable,s.health.deviceState,false⟩,s.calls ++ [⟨op,false⟩]⟩
  | actionFailed (op : DeviceOp) (h : op.isAction) (hstate : s.health.deviceState ≠ .disconnected) :
      Handles s ⟨⟨false,.degraded,true⟩,s.calls ++ [⟨op,true⟩]⟩
  | disconnected (failed : Bool) :
      Handles s ⟨⟨false,.disconnected,s.health.actionFailedSinceLastOk⟩,
        s.calls ++ [⟨.disconnect,failed⟩]⟩
  | connected (before : List DeviceCall) (h : ∀ call ∈ before, call.op = .disconnect) :
      Handles s ⟨⟨true,.ok,false⟩,s.calls ++ before ++ [⟨.connect,false⟩]⟩
  | connectFailed (before : List DeviceCall) (h : ∀ call ∈ before, call.op = .disconnect)
      (failed : Bool) :
      Handles s ⟨⟨false,.disconnected,s.health.actionFailedSinceLastOk⟩,
        s.calls ++ before ++ [⟨.connect,true⟩] ++ [⟨.disconnect,failed⟩]⟩

end Standing

/-- The exception has a `repr`. -/
def Exc.shows (exc : Exc) : Bool := !failed exc.repr

def showsFailure {α : Type} : Except Exc α → Bool
  | .ok _ => true
  | .error exc => exc.shows

def CommandCall.shows : CommandCall → Bool
  | .lookupRaised exc | .signatureRaised exc => exc.shows
  | .missing | .unbound _ _ _ => true
  | .called result => showsFailure result

/-- Whatever a get, a set, a command or a stream raises has a `repr`. -/
def Turn.shows (turn : Turn) : Bool :=
  showsFailure turn.getattr && showsFailure turn.setattr && showsFailure turn.stream && turn.command.shows

variable {r : Runner}

variable (turn : Turn)

@[simp] theorem standing_refreshCapabilitiesCache :
    (r.refreshCapabilitiesCache turn).2.standing = r.standing := by
  unfold Runner.refreshCapabilitiesCache
  split
  · rfl
  · split <;> rfl

@[simp] theorem standing_ensureMembers : (r.ensureMembers turn).2.standing = r.standing := by
  unfold Runner.ensureMembers
  split
  · exact standing_refreshCapabilitiesCache turn
  · rfl

@[simp] theorem standing_capabilities : (capabilities turn r).2.standing = r.standing := by
  unfold capabilities
  split
  · rfl
  · split
    · rfl
    · have hrefresh := standing_refreshCapabilitiesCache (r := r) turn
      split <;> simp_all

theorem deviceState_of_standing {r r' : Runner} (h : r'.standing = r.standing) :
    r'.deviceState = r.deviceState :=
  congrArg (·.health.deviceState) h

theorem handles_markFailure {what : String} {exc : Exc} {op : DeviceOp} (hop : op.isAction)
    (hstate : r.deviceState ≠ .disconnected) (hshows : exc.shows) :
    Standing.Handles r.standing ((r.asked op true).markFailure what exc).2.standing := by
  cases hrepr : exc.repr with
  | error raised => simp [Exc.shows,hrepr,failed] at hshows
  | ok shown =>
    have hstep := Standing.Handles.actionFailed (s := r.standing) op hop hstate
    simpa [Runner.markFailure,hrepr,Runner.markDeviceUnreachable,Runner.degrade,Runner.asked,
      Runner.standing,hstate] using hstep

variable {py : Builtins} {cfg : Config} {turn : Turn} {req : Request}

theorem handles_ensured {use : Runner → Handled}
    (h : ∀ r', r'.standing = r.standing → Standing.Handles r'.standing (use r').2.standing) :
    Standing.Handles r.standing (match r.ensureMembers turn with
      | (.error exc,r) => ((.error exc,r) : Handled)
      | (.ok (),r) => use r).2.standing := by
  have hmembers := standing_ensureMembers (r := r) turn
  split
  · rename_i hensure
    rw [hensure] at hmembers
    rw [← hmembers]
    exact .same
  · rename_i r' hensure
    rw [hensure] at hmembers
    rw [← hmembers]
    exact h r' hmembers

theorem handles_failure {what : String} {exc : Exc} {op : DeviceOp} {reply : String → Reply}
    (hop : op.isAction) (hstate : r.deviceState ≠ .disconnected) (hshows : exc.shows) :
    Standing.Handles r.standing (match (r.asked op true).markFailure what exc with
      | (.error raised,r) => ((.error raised,r) : Handled)
      | (.ok (),r) => match exc.str with
        | .error raised => (.error raised,r)
        | .ok text => (.ok (reply text),r)).2.standing := by
  have hstep := @handles_markFailure _ what _ _ hop hstate hshows
  split
  · rename_i hmark
    rwa [hmark] at hstep
  · rename_i hmark
    rw [hmark] at hstep
    split <;> exact hstep

theorem handles_get (hshows : turn.shows) :
    Standing.Handles r.standing (rpcRouteGet py turn req r).2.standing := by
  unfold rpcRouteGet
  split
  · exact .same
  · rename_i hstate
    split
    · split
      · exact .same
      · apply handles_ensured
        intro r' hr'
        have hstate' : r'.deviceState ≠ .disconnected := deviceState_of_standing hr' ▸ hstate
        split
        · exact .same
        · split
          · exact .same
          · cases hget : turn.getattr with
            | ok value =>
              have hstep := Standing.Handles.actionOk (s := r'.standing) .get r'.deviceReachable rfl hstate'
              simp only [failed]
              split <;> exact hstep
            | error exc =>
              have hexc : exc.shows := by
                simp [Turn.shows,hget,showsFailure] at hshows
                exact hshows.1.1.1
              exact handles_failure rfl hstate' hexc
    · exact .same

theorem handles_set (hshows : turn.shows) :
    Standing.Handles r.standing (rpcRouteSet py turn req r).2.standing := by
  unfold rpcRouteSet
  split
  · exact .same
  · rename_i hstate
    split
    · split
      · exact .same
      · apply handles_ensured
        intro r' hr'
        have hstate' : r'.deviceState ≠ .disconnected := deviceState_of_standing hr' ▸ hstate
        split
        · exact .same
        · split
          · exact .same
          · split
            · exact .same
            · cases hset : turn.setattr with
              | ok done => exact .actionOk .set r'.deviceReachable rfl hstate'
              | error exc =>
                have hexc : exc.shows := by
                  simp [Turn.shows,hset,showsFailure] at hshows
                  exact hshows.1.1.2
                exact handles_failure rfl hstate' hexc
    · exact .same

theorem shows_of_handleCommand {action : String} {params : Entries} {call : CommandCall} {exc : Exc}
    (hshows : call.shows) (h : py.handleCommand action params call = .error exc)
    (hcaller : ¬exc.isCallerError) : exc.shows := by
  unfold Builtins.handleCommand at h
  split at h
  · cases h
    exact absurd rfl hcaller
  · split at h
    · cases h
      exact absurd rfl hcaller
    · cases call with
      | lookupRaised raised =>
        cases h
        exact hshows
      | missing =>
        cases h
        exact absurd rfl hcaller
      | signatureRaised raised =>
        cases h
        exact hshows
      | unbound bindError accepted acceptsAny =>
        cases h
        exact absurd rfl hcaller
      | called result =>
        simp only at h
        subst h
        exact hshows

theorem handles_command (hshows : turn.shows) :
    Standing.Handles r.standing (rpcDispatchDeviceCommand py cfg turn req r).2.standing := by
  unfold rpcDispatchDeviceCommand
  split
  · exact .same
  · rename_i hstate
    split
    · cases hstream : turn.stream with
      | ok result => exact .actionOk .streamRpc true rfl hstate
      | error exc =>
        have hexc : exc.shows := by
          simp [Turn.shows,hstream,showsFailure] at hshows
          exact hshows.1.2
        have hstep := @handles_markFailure _ ("stream rpc " ++ py.values.repr (.str req.action)) _
          .streamRpc rfl hstate hexc
        simp only [failed]
        split <;> simp_all
    · apply handles_ensured
      intro r' hr'
      have hstate' : r'.deviceState ≠ .disconnected := deviceState_of_standing hr' ▸ hstate
      split
      · exact .same
      · rename_i params _
        cases hcall : py.handleCommand req.action params turn.command with
        | ok result => exact .actionOk .command true rfl hstate'
        | error exc =>
          simp only
          split
          · exact .same
          · rename_i hcaller
            have hexc : exc.shows := by
              simp [Turn.shows] at hshows
              exact shows_of_handleCommand hshows.2 hcall hcaller
            have hstep := @handles_markFailure _ ("command " ++ py.values.repr (.str req.action)) _
              .command rfl hstate' hexc
            split <;> simp_all

theorem handles_connect : Standing.Handles r.standing (rpcRouteConnectDevice turn req r).2.standing := by
  unfold rpcRouteConnectDevice
  split
  · exact .same
  · -- A device that is not disconnected is asked to disconnect first.
    have hbefore : ∃ before : List DeviceCall, (∀ call ∈ before, call.op = .disconnect) ∧
        (if r.deviceState = .disconnected then r
          else r.asked .disconnect (failed turn.disconnect)).standing = ⟨r.toHealth,r.calls ++ before⟩ := by
      split
      · exact ⟨[],by simp,by simp [Runner.standing]⟩
      · exact ⟨[⟨.disconnect,failed turn.disconnect⟩],by simp,rfl⟩
    obtain ⟨before,hop,hstanding⟩ := hbefore
    generalize (if r.deviceState = .disconnected then r
      else r.asked .disconnect (failed turn.disconnect)) = r' at hstanding ⊢
    have hhealth : r'.toHealth = r.toHealth := congrArg Standing.health hstanding
    have hcalls : r'.calls = r.calls ++ before := congrArg Standing.calls hstanding
    cases hconnect : turn.connect with
    | ok done =>
      have hstep := Standing.Handles.connected (s := r.standing) before hop
      simp only [standing_refreshCapabilitiesCache]
      simpa [Runner.connected,Runner.markActionSucceeded,Runner.asked,Runner.standing,failed,hcalls] using hstep
    | error exc =>
      have hstep := Standing.Handles.connectFailed (s := r.standing) before hop (failed turn.disconnectAfter)
      simpa [Runner.disconnected,Runner.asked,Runner.standing,failed,hcalls,hhealth] using hstep

theorem handles_disconnect :
    Standing.Handles r.standing (rpcRouteDisconnectDevice turn req r).2.standing := by
  unfold rpcRouteDisconnectDevice
  split
  · exact .same
  · cases turn.disconnect with
    | ok done => exact .disconnected false
    | error exc => exact .bystander .disconnect true rfl

theorem handles_identity :
    Standing.Handles r.standing (rpcRouteIdentity py turn req r).2.standing := by
  unfold rpcRouteIdentity
  cases turn.identity with
  | lookupRaised exc => exact .bystander .identity true rfl
  | missing => exact .same
  | called result => cases result <;> exact .bystander .identity _ rfl

theorem handles_dispatch (hshows : turn.shows) :
    Standing.Handles r.standing (dispatch py cfg turn req r).2.standing := by
  unfold dispatch
  split
  · exact .same
  · simp only [rpcRouteCapabilities,standing_capabilities]
    exact .same
  · unfold rpcRouteRefreshCapabilities
    have hrefresh := standing_refreshCapabilitiesCache (r := r) turn
    split
    · exact .same
    · split
      · rename_i hr
        rw [hr] at hrefresh
        split <;> exact hrefresh ▸ .same
      · rename_i hr
        rw [hr] at hrefresh
        simp only [standing_capabilities,hrefresh]
        exact .same
  · exact handles_get hshows
  · exact handles_set hshows
  · exact .same
  · unfold rpcRouteCollectRunMetadata
    split
    · exact .same
    · exact .bystander .runMetadata _ rfl
  · exact handles_identity
  · exact handles_connect
  · exact handles_disconnect
  · unfold rpcRouteStreamContextSet
    dsimp only
    repeat' split
    all_goals exact .same
  · unfold rpcRouteStreamContextClear
    split <;> exact .same
  · exact handles_command hshows

theorem handles_request {payload : Entries} (hshows : turn.shows) :
    Standing.Handles r.standing (handleRpcRequest py cfg turn payload r).2.standing := by
  unfold handleRpcRequest
  split
  · exact .same
  · rename_i req _
    have hdispatch := @handles_dispatch r py cfg _ req hshows
    split
    · rename_i hd
      rwa [hd] at hdispatch
    · rename_i exc r' hd
      rw [hd] at hdispatch
      have hanswer : (answerException req r' exc).2.standing = r'.standing := by
        unfold answerException
        split
        · rfl
        · split <;> rfl
      rwa [hanswer]

@[simp] theorem standing_beginOperation (name : String) :
    (r.beginOperation name).endOperation.standing = r.standing := rfl

theorem size_set_pos (signals : Signals) (name : String) (signal : Signal) :
    0 < (signals.set name signal).size := by
  have hmem := (OrderedDict.mem_keys_setEntries signals.entries name name signal).2 (.inr rfl)
  simpa [OrderedDict.size,OrderedDict.set] using length_pos_of_mem hmem

theorem size_setOutputs {outputs : List TelemetryOut} {quality : Quality} {error : Option String}
    {signals : Signals} (h : 0 < signals.size ∨ outputs ≠ []) :
    0 < (setOutputs outputs quality error signals).size := by
  induction outputs generalizing signals with
  | nil => simpa [setOutputs] using h
  | cons o rest ih => exact ih (.inl (size_set_pos signals o.signal _))

theorem size_readOutputs {extracted : Nat → Except Exc Obj} {i : Nat} {outputs : List TelemetryOut}
    {signals signals' : Signals} (hread : py.readOutputs extracted i outputs signals = .ok signals')
    (h : 0 < signals.size ∨ outputs ≠ []) : 0 < signals'.size := by
  induction outputs generalizing i signals with
  | nil =>
    cases hread
    simpa using h
  | cons o rest ih =>
    unfold Builtins.readOutputs at hread
    split at hread
    · cases hread
    · exact ih hread (.inl (size_set_pos signals o.signal _))

theorem size_readPlan {plan : TelemetryPlan} {read : PlanRead} {t t' : Telemetry}
    (hread : py.readPlan plan read t = (.ok (),t'))
    (h : 0 < t.signals.size ∨ plan.outputs ≠ []) : 0 < t'.signals.size := by
  have hfail : ∀ exc, (match telemetryFormatError exc with
      | .error raised => ((.error raised,t) : Except Exc Unit × Telemetry)
      | .ok text => (.ok (),⟨setOutputs plan.outputs .bad (some text) t.signals,
          t.callErrors.set plan.method text⟩)) = (.ok (),t') → 0 < t'.signals.size := by
    intro exc hexc
    split at hexc
    · cases hexc
    · cases hexc
      exact size_setOutputs h
  unfold Builtins.readPlan at hread
  cases read with
  | missing =>
    cases hread
    exact size_setOutputs h
  | raised exc => exact hfail exc hread
  | returned extracted =>
    simp only at hread
    split at hread
    · exact hfail _ hread
    · rename_i houtputs
      cases hread
      exact size_readOutputs houtputs h

theorem size_readTelemetry {reads : Nat → PlanRead} {i : Nat} {plans : List TelemetryPlan}
    {t t' : Telemetry} {r' : Runner} (hread : py.readTelemetry reads i plans t r = (.ok (),t',r'))
    (h : 0 < t.signals.size ∨ ∃ plan ∈ plans, plan.outputs ≠ []) : 0 < t'.signals.size := by
  induction plans generalizing i t r with
  | nil =>
    cases hread
    simpa using h
  | cons plan rest ih =>
    unfold Builtins.readTelemetry at hread
    simp only at hread
    split at hread
    · cases hread
    · rename_i t₁ hplan
      refine ih hread ?_
      by_cases houts : plan.outputs = []
      · rcases h with h | ⟨p,hp,hne⟩
        · exact .inl (size_readPlan hplan (.inl h))
        · rcases mem_cons.1 hp with rfl | hp
          · exact absurd houts hne
          · exact .inr ⟨p,hp,hne⟩
      · exact .inl (size_readPlan hplan (.inr houts))

theorem standing_readTelemetry {reads : Nat → PlanRead} {i : Nat} {plans : List TelemetryPlan}
    {t : Telemetry} : (py.readTelemetry reads i plans t r).2.2.standing = r.standing := by
  induction plans generalizing i t r with
  | nil => rfl
  | cons plan rest ih =>
    unfold Builtins.readTelemetry
    simp only
    split
    · rfl
    · rw [ih]
      rfl

theorem qualityCount_ok (signals : Signals) :
    qualityCount signals .ok = signals.size ↔ allOk signals := by
  simp [qualityCount,OrderedDict.size,allOk,countP_eq_length]

/-- What a telemetry tick does to a device that is not disconnected. -/
inductive Standing.Ticks (cfg : Config) (s : Standing) : Standing → Prop where
  | demoted (failed : Bool) (h : failed ∨ s.health.actionFailedSinceLastOk) :
      Ticks cfg s ⟨⟨false,.degraded,s.health.actionFailedSinceLastOk⟩,
        s.calls ++ [⟨.telemetry,failed⟩]⟩
  | partly (h : s.health.actionFailedSinceLastOk = false) :
      Ticks cfg s ⟨⟨true,.degraded,false⟩,s.calls ++ [⟨.telemetry,true⟩]⟩
  | promoted (h : s.health.actionFailedSinceLastOk = false) (hsignals : cfg.telemetrySignalNames ≠ []) :
      Ticks cfg s ⟨⟨true,if s.health.deviceState = .degraded then .ok else s.health.deviceState,false⟩,
        s.calls ++ [⟨.telemetry,false⟩]⟩
  | kept (h : s.health.actionFailedSinceLastOk = false) (hsignals : cfg.telemetrySignalNames = [])
      (failed : Bool) :
      Ticks cfg s ⟨⟨true,s.health.deviceState,false⟩,s.calls ++ [⟨.telemetry,failed⟩]⟩

section
variable (hstate : r.deviceState ≠ .disconnected)
include hstate

theorem ticks_raised : Standing.Ticks cfg r.standing
      (Runner.degrade { r.asked .telemetry true with deviceReachable := false }).standing := by
  have hstep := @Standing.Ticks.demoted cfg r.standing true (.inl rfl)
  simpa [Runner.asked,Runner.degrade,Runner.standing,hstate] using hstep

theorem ticks_noSignals (hsignals : cfg.telemetrySignalNames = [])
    (failed : Bool) : Standing.Ticks cfg r.standing ((r.asked .telemetry failed).applyNoSignals).standing := by
  cases hlatch : r.actionFailedSinceLastOk with
  | true =>
    have hstep := @Standing.Ticks.demoted cfg r.standing failed (.inr hlatch)
    simpa [Runner.applyNoSignals,Runner.asked,Runner.degrade,Runner.standing,hlatch,hstate] using hstep
  | false =>
    have hstep := Standing.Ticks.kept (s := r.standing) hlatch hsignals failed
    simpa [Runner.applyNoSignals,Runner.asked,Runner.standing,hlatch,hstate] using hstep

theorem ticks_signals (hsignals : cfg.telemetrySignalNames ≠ [])
    {signals : Signals} (hpos : 0 < signals.size) : Standing.Ticks cfg r.standing
      (((r.asked .telemetry (!allOk signals)).applyTelemetryQualityState signals)).standing := by
  have hle : qualityCount signals .ok ≤ signals.size := countP_le_length
  have hall := qualityCount_ok signals
  cases hlatch : r.actionFailedSinceLastOk with
  | true =>
    have hstep := @Standing.Ticks.demoted cfg r.standing (!allOk signals) (.inr hlatch)
    by_cases hnone : qualityCount signals .ok = 0 <;>
      simpa [Runner.applyTelemetryQualityState,Runner.asked,Runner.degrade,Runner.standing,hlatch,hstate,
        hnone,hpos.ne'] using hstep
  | false =>
    by_cases hnone : qualityCount signals .ok = 0
    · have hfailed : allOk signals = false := by
        rw [← Bool.not_eq_true,← hall]
        omega
      have hstep := @Standing.Ticks.demoted cfg r.standing true (.inl rfl)
      simpa [Runner.applyTelemetryQualityState,Runner.asked,Runner.degrade,Runner.standing,hlatch,hstate,
        hnone,hfailed] using hstep
    · by_cases hok : qualityCount signals .ok = signals.size
      · have hfailed : allOk signals = true := hall.1 hok
        have hstep := Standing.Ticks.promoted (s := r.standing) hlatch hsignals
        by_cases hdeg : r.deviceState = .degraded <;>
          simpa [Runner.applyTelemetryQualityState,Runner.asked,Runner.standing,hlatch,hstate,hok,hpos.ne',
            hfailed,hdeg] using hstep
      · have hfailed : allOk signals = false := by
          rw [← Bool.not_eq_true,← hall]
          exact hok
        have hbad : 0 < signals.size-qualityCount signals .ok := by omega
        have hstep := @Standing.Ticks.partly cfg r.standing hlatch
        simpa [Runner.applyTelemetryQualityState,Runner.asked,Runner.degrade,Runner.standing,hlatch,hstate,
          hnone,hbad,hpos.ne',hfailed] using hstep

theorem ticks_publishTelemetry {interp : Interpreter} {deviceId : String} {turn : TelemetryTurn} :
    Standing.Ticks cfg r.standing (r.publishTelemetry py interp cfg deviceId turn).2.standing := by
  have hupdate : Standing.Ticks cfg r.standing (r.updateTelemetry py cfg turn).2.standing := by
    unfold Runner.updateTelemetry
    have hread := @standing_readTelemetry { r with telemetrySeq := r.telemetrySeq+1 } py turn.reads 0
      cfg.telemetry ⟨.empty,.empty⟩
    dsimp only
    split
    · rename_i t r' hr
      rw [hr] at hread
      have hstate' : r'.deviceState ≠ .disconnected := deviceState_of_standing hread ▸ hstate
      have hmarked : ∀ marked : Runner, Standing.Ticks cfg r.standing marked.standing →
          Standing.Ticks cfg r.standing
            (if marked.deviceReachable then { marked with lastOkTs := some turn.now } else marked).standing := by
        intro marked h
        split <;> exact h
      refine hmarked _ ?_
      rw [← show r'.standing = r.standing from hread]
      split
      · rename_i hnames
        exact ticks_noSignals (r := { r' with telemetryLastCallErrors := t.callErrors }) hstate'
          (isEmpty_iff.1 hnames) _
      · rename_i hnames
        have houtputs : ∃ plan ∈ cfg.telemetry, plan.outputs ≠ [] := by
          by_contra hno
          apply hnames
          simpa [Config.telemetrySignalNames,flatMap_eq_nil_iff] using hno
        exact ticks_signals (r := { r' with telemetryLastCallErrors := t.callErrors }) hstate'
          (by simpa [List.isEmpty_iff] using hnames) (size_readTelemetry hr (.inr houtputs))
    · rename_i exc t r' hr
      rw [hr] at hread
      have hstate' : r'.deviceState ≠ .disconnected := deviceState_of_standing hread ▸ hstate
      rw [← show r'.standing = r.standing from hread]
      have hstep := @ticks_raised { r' with telemetryLastCallErrors := t.callErrors } cfg hstate'
      split <;> exact hstep
  unfold Runner.publishTelemetry
  rw [if_neg hstate]
  split
  · rename_i hu
    rwa [hu] at hupdate
  · rename_i hu
    rw [hu] at hupdate
    dsimp only
    split <;> exact hupdate

end

/-- What a plan of the scheduled streams does to a device that is not disconnected. -/
inductive Standing.Streams (runsWell : Prop) (s : Standing) : Standing → Prop where
  | idle : Streams runsWell s s
  | ran (h : runsWell) : Streams runsWell s
      ⟨⟨true,s.health.deviceState,s.health.actionFailedSinceLastOk⟩,s.calls ++ [⟨.scheduledStream,false⟩]⟩
  | failed : Streams runsWell s
      ⟨⟨s.health.deviceReachable,.degraded,s.health.actionFailedSinceLastOk⟩,
        s.calls ++ [⟨.scheduledStream,true⟩]⟩

def Runner.RunsWell (r : Runner) (now : ℚ) (run : StreamRun) (i : Nat) : Prop :=
  ∃ plan, r.scheduledStreamCalls[i]? = some plan ∧ plan.nextDueS ≤ now ∧ failed run.result = false

variable {run : StreamRun}

variable (hstate : r.deviceState ≠ .disconnected)
include hstate

theorem streams_runPlan {now : ℚ} {i : Nat} :
    Standing.Streams (r.RunsWell now run i) r.standing (Runner.runPlan now run i r).2.standing := by
  unfold Runner.runPlan
  split
  · exact .idle
  · rename_i plan hplan
    split
    · exact .idle
    · rename_i hdue
      cases hrun : run.result with
      | ok result =>
        have hwell : r.RunsWell now run i := ⟨plan,hplan,not_lt.1 hdue,by simp [failed,hrun]⟩
        have hstep := Standing.Streams.ran (s := r.standing) hwell
        simpa [Runner.streamRan,Runner.asked,Runner.beginOperation,Runner.endOperation,
          Runner.publishHeartbeat,Runner.standing,failed,hstate,hrun] using hstep
      | error exc =>
        have hstep := @Standing.Streams.failed (r.RunsWell now run i) r.standing
        cases hrepr : exc.repr <;>
          simpa [Runner.streamRan,Runner.asked,Runner.beginOperation,Runner.endOperation,
            Runner.publishHeartbeat,Runner.degrade,Runner.standing,failed,hstate,hrun,hrepr] using hstep

theorem standing_runPlan {now : ℚ} {i : Nat} (hwell : r.RunsWell now run i) :
    (Runner.runPlan now run i r).1 = .ok () ∧ (Runner.runPlan now run i r).2.standing =
      ⟨⟨true,r.deviceState,r.actionFailedSinceLastOk⟩,r.calls ++ [⟨.scheduledStream,false⟩]⟩ := by
  obtain ⟨plan,hplan,hdue,hresult⟩ := hwell
  cases hrun : run.result with
  | error exc => simp [hrun,failed] at hresult
  | ok result =>
    simp [Runner.runPlan,hplan,not_lt.2 hdue,hrun,Runner.streamRan,Runner.asked,Runner.beginOperation,
      Runner.endOperation,Runner.publishHeartbeat,Runner.standing,failed,hstate]

theorem runPlan_frame {now : ℚ} {i j : Nat} (hij : j ≠ i) :
    (Runner.runPlan now run i r).2.scheduledStreamCalls[j]? = r.scheduledStreamCalls[j]? ∧
      (Runner.runPlan now run i r).2.actionFailedSinceLastOk = r.actionFailedSinceLastOk ∧
      (Runner.runPlan now run i r).2.deviceState ≠ .disconnected := by
  unfold Runner.runPlan
  split
  · exact ⟨rfl,rfl,hstate⟩
  · split
    · exact ⟨rfl,rfl,hstate⟩
    · cases hrun : run.result with
      | ok result =>
        simp [Runner.streamRan,Runner.asked,Runner.beginOperation,Runner.endOperation,
          Runner.publishHeartbeat,hstate,hrun,getElem?_set_ne (Ne.symm hij)]
      | error exc =>
        cases hrepr : exc.repr <;>
          simp [Runner.streamRan,Runner.asked,Runner.beginOperation,Runner.endOperation,
            Runner.publishHeartbeat,Runner.degrade,hstate,hrun,hrepr,getElem?_set_ne (Ne.symm hij)]

end ExperimentControl.Driver

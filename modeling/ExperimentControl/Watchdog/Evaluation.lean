import ExperimentControl.Interlock.Rules

/-!
The evaluation of a watchdog rule against the latest telemetry (`processes/watchdog.py`): arming,
the alarm, confirmation by fresh samples, and the latch and the disarming that a trigger brings.
-/

namespace ExperimentControl.Watchdog
open Lib Python Sequencer
open Interlock (TelemetryBinding get)

structure WatchdogArm where
  condition : Value
  disarmCondition : Value
  disarmOnTrigger : Bool

structure WatchdogConfirmation where
  sampleAliases : List String
  consecutiveSamples : Nat
  branchConditions : OrderedDict String Value

inductive OnUnknown where
  | ignore
  | trigger
  deriving DecidableEq

structure WatchdogRule where
  name : String
  telemetry : List TelemetryBinding
  condition : Value
  stableForS : F64
  cooldownS : F64
  latch : Bool
  onUnknown : OnUnknown
  arm : Option WatchdogArm := none
  confirmation : Option WatchdogConfirmation := none

structure Progress where
  count : Nat := 0
  lastTMonoRecv : Value := .none
  evidence : List Value := []

structure RuleState where
  stableSinceMono : Option F64 := none
  lastTriggerMono : Option F64 := none
  latched : Bool := false
  armed : Bool := false
  lastEvaluatedMono : Option F64 := none
  alarm : Option Bool := none
  unknown : Option Bool := none
  snapshot : Option Entries := none
  confirmation : Option (OrderedDict String Progress) := none

abbrev Telemetry := String → String → Option Entries

structure Lang where
  py : Primitives
  num : Numeric

section
variable (lang : Lang)

def resolveWatchdogBindingAgeS (sample : Entries) (now : F64) : Except PyExc (Option F64) :=
  match get sample "age_s" with
  | .none => match get sample "t_mono" with
    | .none => .ok none
    | t => do
      let t ← lang.num.toFloat t
      pure (some (lang.num.sub now t))
  | age => do
    let age ← lang.num.toFloat age
    pure (some age)

def ageValue : Option F64 → Value
  | none => .none
  | some age => .float age

def aliasEnv (b : TelemetryBinding) (value quality : Value) (age : Option F64) (ok : Bool) : Value :=
  toAttrdict (.dict false [("value",value),("age_s",ageValue age),("quality",quality),
    ("device",.str b.deviceId),("signal",.str b.signal),("ok",.bool ok)])

def snapshotEntry (b : TelemetryBinding) : Entries :=
  [("device",.str b.deviceId),("signal",.str b.signal),("max_age_s",.float b.maxAgeS)]

/-- `_resolve_watchdog_binding`: the entry of the snapshot, what the conditions see, and whether an
input is missing that the rule requires. -/
def resolveWatchdogBinding (telemetry : Telemetry) (now : F64) (b : TelemetryBinding) :
    Except PyExc (Entries × Option Value × Bool) :=
  match telemetry b.deviceId b.signal with
  | none =>
    let entry := snapshotEntry b ++ [("value",.none),("quality",.str "MISSING"),("age_s",.none),
      ("ok",.bool false)]
    if b.required then .ok (entry,none,true)
    else .ok (entry,some (aliasEnv b .none (.str "MISSING") none false),false)
  | some sample => do
    let age ← resolveWatchdogBindingAgeS lang sample now
    let quality := get sample "quality"
    let fresh := match age with
      | none => false
      | some age => lang.num.le age b.maxAgeS
    let ok := quality = .str "OK" && fresh
    let entry := snapshotEntry b ++ [("value",get sample "value"),("quality",quality),
      ("age_s",ageValue age),("t_mono_recv",get sample "t_mono_recv"),("ok",.bool ok)]
    if ok then pure (entry,some (aliasEnv b (get sample "value") quality age true),false)
    else if b.required then pure (entry,none,true)
    else pure (entry,some (aliasEnv b .none quality age false),false)

def resolveWatchdogBindings (telemetry : Telemetry) (now : F64) :
    List TelemetryBinding → Env → Entries → Bool → Except PyExc (Env × Entries × Bool)
  | [],env,snapshot,unknown => .ok (env,snapshot,unknown)
  | b :: rest,env,snapshot,unknown => do
    let (entry,aliasValue,isUnknown) ← resolveWatchdogBinding lang telemetry now b
    let env := match aliasValue with
      | none => env
      | some v => env.set b.alias_ v
    resolveWatchdogBindings telemetry now rest env
      (setItem snapshot b.alias_ (.dict false entry)) (unknown || isUnknown)

def initialEnv : Env := OrderedDict.empty.set "params" (toAttrdict (.dict false []))

def evaluateWatchdogCondition (condition : Value) (env : Env) (unknown : Bool) : Bool :=
  if unknown then false
  else match (evalCondition lang.py condition).result env.get? with
    | .ok b => b
    | .error _ => false

def evaluateWatchdogAlarm (rule : WatchdogRule) (env : Env) (unknown : Bool) : Bool :=
  if unknown then rule.onUnknown = .trigger
  else evaluateWatchdogCondition lang rule.condition env false

def updateWatchdogArmedState (rule : WatchdogRule) (env : Env) (unknown : Bool) (state : RuleState) :
    RuleState :=
  match rule.arm with
  | none => state
  | some arm =>
    let disarmed := arm.disarmCondition ≠ .none &&
      evaluateWatchdogCondition lang arm.disarmCondition env unknown
    let state := if disarmed then { state with armed := false } else state
    if evaluateWatchdogCondition lang arm.condition env unknown then { state with armed := true }
    else state

def watchdogConfirmationAlarm (rule : WatchdogRule) (env : Env) (alarm : Bool) : Bool :=
  match rule.confirmation with
  | none => alarm
  | some c =>
    if c.branchConditions.entries.isEmpty then alarm
    else alarm && c.branchConditions.entries.any fun e =>
      evaluateWatchdogCondition lang e.2 env false

def resetWatchdogConfirmation (state : RuleState) : RuleState :=
  { state with confirmation := state.confirmation.map fun progress =>
      progress.mapValues fun _ p => { p with count := 0, evidence := [] } }

def pyEq (a b : Value) : Bool :=
  match lang.py.compare .eq a b with
  | .ok equal => equal
  | .error _ => false

def lastItems (n : Nat) (items : List Value) : List Value := items.drop (items.length-n)

/-- One source of `_watchdog_confirmation_ready`: only a sample with a new timestamp counts. -/
def confirmSample (c : WatchdogConfirmation) (env : Env) (entry : Entries) (sampleAlias : String)
    (p : Progress) : Bool × Progress :=
  let marker := get entry "t_mono_recv"
  if !(get entry "ok").truthy || marker = .none then
    (false,{ p with count := 0, evidence := [], lastTMonoRecv := marker })
  else if pyEq lang marker p.lastTMonoRecv then (c.consecutiveSamples ≤ p.count,p)
  else
    let p := { p with lastTMonoRecv := marker }
    let branchAlarm := match c.branchConditions.get? sampleAlias with
      | none => true
      | some condition => evaluateWatchdogCondition lang condition env false
    if !branchAlarm then (false,{ p with count := 0, evidence := [] })
    else
      let seen : Value := .dict false [("t_mono_recv",marker),("value",get entry "value"),
        ("quality",get entry "quality")]
      let p := { p with
        count := p.count+1
        evidence := lastItems c.consecutiveSamples (p.evidence ++ [seen]) }
      (c.consecutiveSamples ≤ p.count,p)

def snapshotOf (snapshot : Entries) (sampleAlias : String) : Entries :=
  match getD snapshot sampleAlias (.dict false []) with
  | .dict _ entry => entry
  | _ => []

def confirmSamples (c : WatchdogConfirmation) (env : Env) (snapshot : Entries) :
    List String → Bool → OrderedDict String Progress → Bool × OrderedDict String Progress
  | [],ready,progress => (ready,progress)
  | sampleAlias :: rest,ready,progress =>
    let (confirmed,p) := confirmSample lang c env (snapshotOf snapshot sampleAlias) sampleAlias
      ((progress.get? sampleAlias).getD {})
    confirmSamples c env snapshot rest (ready || confirmed) (progress.set sampleAlias p)

def freshProgress (c : WatchdogConfirmation) : OrderedDict String Progress :=
  c.sampleAliases.foldl (fun progress sampleAlias => progress.set sampleAlias {}) .empty

def watchdogConfirmationReady (rule : WatchdogRule) (snapshot : Entries) (alarm : Bool) (env : Env)
    (state : RuleState) : Bool × RuleState :=
  match rule.confirmation with
  | none => (true,state)
  | some c =>
    let progress := state.confirmation.getD (freshProgress c)
    let state := { state with confirmation := some progress }
    if !alarm then (false,resetWatchdogConfirmation state)
    else
      let (ready,progress) := confirmSamples lang c env snapshot c.sampleAliases false progress
      (ready,{ state with confirmation := some progress })

/-- `_watchdog_confirmation_gate`: a trigger on unknown inputs needs no samples. -/
def watchdogConfirmationGate (rule : WatchdogRule) (snapshot : Entries) (alarm unknown : Bool)
    (env : Env) (state : RuleState) : Bool × RuleState :=
  if unknown && rule.onUnknown = .trigger then (true,resetWatchdogConfirmation state)
  else watchdogConfirmationReady lang rule snapshot alarm env state

def watchdogStableReady (rule : WatchdogRule) (now : F64) (state : RuleState) : Bool × RuleState :=
  if lang.num.le rule.stableForS 0 then (true,state)
  else
    let since := state.stableSinceMono.getD now
    (lang.num.le rule.stableForS (lang.num.sub now since),{ state with stableSinceMono := some since })

def watchdogCooldownReady (rule : WatchdogRule) (now : F64) (state : RuleState) : Bool :=
  match state.lastTriggerMono with
  | none => true
  | some last => lang.num.le rule.cooldownS (lang.num.sub now last)

def disarmsOnTrigger (rule : WatchdogRule) : Bool :=
  match rule.arm with
  | none => false
  | some arm => arm.disarmOnTrigger

def commitTrigger (rule : WatchdogRule) (state : RuleState) : RuleState :=
  let state := if rule.latch then { state with latched := true } else state
  if disarmsOnTrigger rule then { state with armed := false } else state

def decideTrigger (rule : WatchdogRule) (snapshot : Entries) (alarm unknown : Bool) (env : Env)
    (now : F64) (state : RuleState) : Bool × RuleState :=
  if rule.latch && state.latched then (false,state)
  else
    let (confirmed,state) := watchdogConfirmationGate lang rule snapshot alarm unknown env state
    let (stable,state) := watchdogStableReady lang rule now state
    if !stable then (false,state)
    else if !confirmed then (false,state)
    else if !watchdogCooldownReady lang rule now state then (false,state)
    else (true,commitTrigger rule state)

/-- `evaluate_watchdog_rule`: whether the rule triggers, and its state after that. -/
def evaluateWatchdogRule (rule : WatchdogRule) (telemetry : Telemetry) (now : F64)
    (state : RuleState) : Except PyExc (Bool × RuleState) := do
  let (env,snapshot,unknown) ←
    resolveWatchdogBindings lang telemetry now rule.telemetry initialEnv [] false
  let state := updateWatchdogArmedState lang rule env unknown state
  let alarm := evaluateWatchdogAlarm lang rule env unknown
  let alarm := if unknown then alarm else watchdogConfirmationAlarm lang rule env alarm
  let state := { state with
    lastEvaluatedMono := some now
    alarm := some alarm
    unknown := some unknown
    snapshot := some snapshot }
  if rule.arm.isSome && !state.armed then
    pure (false,resetWatchdogConfirmation { state with stableSinceMono := none })
  else if !alarm then
    pure (false,(watchdogConfirmationReady lang rule snapshot alarm env
      { state with stableSinceMono := none }).2)
  else pure (decideTrigger lang rule snapshot alarm unknown env now state)

def markWatchdogTriggered (now : F64) (state : RuleState) : RuleState :=
  { state with lastTriggerMono := some now }

end

variable (lang : Lang) (rule : WatchdogRule)

@[simp] theorem resetWatchdogConfirmation_latched (state : RuleState) :
    (resetWatchdogConfirmation state).latched = state.latched := rfl

@[simp] theorem resetWatchdogConfirmation_armed (state : RuleState) :
    (resetWatchdogConfirmation state).armed = state.armed := rfl

variable (snapshot : Entries)

theorem watchdogConfirmationReady_frame (alarm : Bool) (env : Env) (state : RuleState) :
    (watchdogConfirmationReady lang rule snapshot alarm env state).2.latched = state.latched ∧
      (watchdogConfirmationReady lang rule snapshot alarm env state).2.armed = state.armed := by
  unfold watchdogConfirmationReady
  split
  · exact ⟨rfl,rfl⟩
  · dsimp only
    split
    · exact ⟨rfl,rfl⟩
    · exact ⟨rfl,rfl⟩

theorem watchdogConfirmationGate_frame (alarm unknown : Bool) (env : Env) (state : RuleState) :
    (watchdogConfirmationGate lang rule snapshot alarm unknown env state).2.latched = state.latched ∧
      (watchdogConfirmationGate lang rule snapshot alarm unknown env state).2.armed = state.armed := by
  unfold watchdogConfirmationGate
  split
  · exact ⟨rfl,rfl⟩
  · exact watchdogConfirmationReady_frame lang rule snapshot alarm env state

theorem watchdogStableReady_frame (now : F64) (state : RuleState) :
    (watchdogStableReady lang rule now state).2.latched = state.latched ∧
      (watchdogStableReady lang rule now state).2.armed = state.armed := by
  unfold watchdogStableReady
  split
  · exact ⟨rfl,rfl⟩
  · exact ⟨rfl,rfl⟩

theorem decideTrigger_cases (alarm unknown : Bool) (env : Env) (now : F64) (state : RuleState) :
    ((decideTrigger lang rule snapshot alarm unknown env now state).1 = false ∧
      (decideTrigger lang rule snapshot alarm unknown env now state).2.latched = state.latched ∧
      (decideTrigger lang rule snapshot alarm unknown env now state).2.armed = state.armed) ∨
    ((decideTrigger lang rule snapshot alarm unknown env now state).1 = true ∧
      (decideTrigger lang rule snapshot alarm unknown env now state).2.latched =
        (rule.latch || state.latched) ∧
      (decideTrigger lang rule snapshot alarm unknown env now state).2.armed =
        (!disarmsOnTrigger rule && state.armed)) := by
  unfold decideTrigger
  split
  · exact .inl ⟨rfl,rfl,rfl⟩
  · have hgate := watchdogConfirmationGate_frame lang rule snapshot alarm unknown env state
    dsimp only
    generalize watchdogConfirmationGate lang rule snapshot alarm unknown env state = gate at hgate ⊢
    have hstable := watchdogStableReady_frame lang rule now gate.2
    generalize watchdogStableReady lang rule now gate.2 = stable at hstable ⊢
    have hlatched := hstable.1.trans hgate.1
    have harmed := hstable.2.trans hgate.2
    split
    · exact .inl ⟨rfl,hlatched,harmed⟩
    · split
      · exact .inl ⟨rfl,hlatched,harmed⟩
      · split
        · exact .inl ⟨rfl,hlatched,harmed⟩
        · refine .inr ⟨rfl,?_,?_⟩
          · cases hl : rule.latch <;> cases hd : disarmsOnTrigger rule <;>
              simp [commitTrigger,hl,hd,hlatched]
          · cases hl : rule.latch <;> cases hd : disarmsOnTrigger rule <;>
              simp [commitTrigger,hl,hd,harmed]

theorem evaluateWatchdogRule_cases {telemetry : Telemetry} {now : F64} {state after : RuleState}
    {triggered : Bool}
    (h : evaluateWatchdogRule lang rule telemetry now state = .ok (triggered,after)) :
    (triggered = false ∧ after.latched = state.latched) ∨
      (triggered = true ∧ after.latched = (rule.latch || state.latched) ∧
        (disarmsOnTrigger rule = true → after.armed = false)) := by
  unfold evaluateWatchdogRule at h
  obtain ⟨⟨env,snapshot,unknown⟩,_,h⟩ := bind_eq_ok h
  dsimp only at h
  have hlatched : (updateWatchdogArmedState lang rule env unknown state).latched = state.latched := by
    unfold updateWatchdogArmedState
    split
    · rfl
    · dsimp only
      split <;> split <;> rfl
  generalize updateWatchdogArmedState lang rule env unknown state = armed at h hlatched
  generalize (if unknown = true then _ else _ : Bool) = alarm at h
  split at h
  · cases h
    exact .inl ⟨rfl,hlatched⟩
  · split at h
    · cases h
      exact .inl ⟨rfl,((watchdogConfirmationReady_frame ..).1).trans hlatched⟩
    · generalize hd : decideTrigger lang rule snapshot alarm unknown env now _ = decision at h
      cases h
      rcases decideTrigger_cases lang rule snapshot alarm unknown env now _ with hno | hyes
      · rw [hd] at hno
        exact .inl ⟨hno.1,hno.2.1.trans hlatched⟩
      · rw [hd] at hyes
        refine .inr ⟨hyes.1,by simpa [hlatched] using hyes.2.1,fun hdisarm => ?_⟩
        simpa [hdisarm] using hyes.2.2

end ExperimentControl.Watchdog

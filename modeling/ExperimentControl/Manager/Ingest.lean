import ExperimentControl.Python.Conversions

/-!
What the manager makes of a telemetry bundle or a heartbeat (`_manager/driver_pub.py`) and of a log
payload (`_manager/logs.py`): the events it publishes, and whether it raises.
-/

namespace ExperimentControl.Manager
open Python

abbrev PubEvent := String × Entries

structure Emitted where
  events : List PubEvent
  raised : Option PyExc := none

namespace Emitted

def returned (events : List PubEvent) : Emitted := ⟨events,none⟩

/-- `first`, then `second` unless `first` raised. -/
def andThen (first second : Emitted) : Emitted :=
  match first.raised with
  | some _ => first
  | none => ⟨first.events ++ second.events,second.raised⟩

@[simp] theorem andThen_raised (first second : Emitted) :
    (first.andThen second).raised = first.raised.or second.raised := by
  cases first with
  | mk events raised => cases raised <;> rfl

theorem andThen_events {first : Emitted} (second : Emitted) (h : first.raised = none) :
    (first.andThen second).events = first.events ++ second.events := by
  simp [andThen,h]

end Emitted

structure Timestamp where
  wall : UInt64
  mono : UInt64

structure Runtime extends Conversions where
  /-- `raw[key]` -/
  subscript : Value → String → Except PyExc Value
  /-- `_safe_json`: `json.dumps`, cut off -/
  safeJson : Value → String
  /-- `str.upper` -/
  upper : String → String

/-- No value has items to subscript, and no letter a capital one. -/
def Runtime.digits : Runtime where
  toConversions := .digits
  subscript _ _ := .error ⟨.typeError,"object is not subscriptable"⟩
  safeJson _ := ""
  upper := id

variable (py : Runtime)

def parseTimestamp (raw : Value) : Except PyExc Timestamp := do
  let wallRaw ← py.subscript raw "t_wall"
  let wall ← py.toFloat wallRaw
  let monoRaw ← py.subscript raw "t_mono"
  let mono ← py.toFloat monoRaw
  pure ⟨wall,mono⟩

def parseBundleTimestamp (now : Timestamp) (msg : Entries) (deviceId : String)
    (topic errorPrefix : String) : Timestamp × List PubEvent :=
  match parseTimestamp py (getKey msg "ts") with
  | .ok ts => (ts,[])
  | .error e =>
    (now,[(topic,[("device_id",.str deviceId),("error",.str (errorPrefix ++ ": " ++ e.message)),
      ("raw",.dict false msg)])])

def telemetryQualities : List String := ["OK","BAD","MISSING","STALE"]

/-- `hash(value)` raises. -/
def unhashable : Value → Bool
  | .list _ | .dict _ _ => true
  | _ => false

def coerceEnum (members : List String) (raw : Value) (default : String) : String :=
  match raw with
  | .str s => if s ∈ members then s else default
  | _ => default

/-- `_is_bad_quality_value`, when the signal has a quality: the set lookup raises for a list or an
object. -/
def isBadQualityValue (raw : Value) : Except PyExc Bool :=
  if coerceEnum telemetryQualities raw "BAD" ≠ "BAD" then .ok false
  else if unhashable raw then .error ⟨.typeError,"unhashable type"⟩
  else .ok (raw ≠ .str "BAD")

def checkSignal (signal : Entries) : Except PyExc Bool := do
  let badQuality ← match item? signal "quality" with
    | none => pure false
    | some raw => isBadQualityValue raw
  let badTs := match getKey signal "ts" with
    | .none => false
    | raw => (parseTimestamp py raw).toOption.isNone
  pure (badQuality || badTs)

def badSignals : Entries → Except PyExc (List String)
  | [] => .ok []
  | (name,.dict _ signal) :: rest => do
    let bad ← checkSignal py signal
    let names ← badSignals rest
    pure (if bad then name :: names else names)
  | _ :: rest => badSignals rest

/-- The entries of `call_errors` that are passed on. -/
def cleanCallErrors (errors : Entries) : Entries :=
  errors.filter fun e => e.1 ≠ "" && match e.2 with
    | .str _ => true
    | _ => false

def telemetryBundle (deviceId : String) (seq : Int) (ts recv : Timestamp) (signals msg : Entries) :
    Entries :=
  let bundle : Entries := [("version",.int 1),("device_id",.str deviceId),("seq",.int seq),
    ("ts",.dict false [("t_wall",.float ts.wall),("t_mono",.float ts.mono),
      ("t_mono_recv",.float recv.mono),("t_wall_recv",.float recv.wall)]),
    ("signals",.dict false signals)]
  match getKey msg "call_errors" with
  | .dict _ errors =>
    if (cleanCallErrors errors).isEmpty then bundle
    else bundle ++ [("call_errors",.dict false (cleanCallErrors errors))]
  | _ => bundle

def telemetryError (entries : Entries) : PubEvent := ("manager.telemetry_error",entries)

/-- `sorted(set(names))` -/
def sortedSet (names : List String) : List String := names.dedup.mergeSort fun a b => decide (a ≤ b)

def ingestTelemetry (now : Timestamp) (msg : Entries) : Emitted :=
  match getKey msg "device_id" with
  | .none => .returned [telemetryError
      [("error",.str "telemetry missing device_id"),("raw",.dict false msg)]]
  | deviceRaw =>
    let deviceId := deviceRaw.text py.repr
    let (ts,tsEvents) := parseBundleTimestamp py now msg deviceId "manager.telemetry_error"
      "telemetry bad ts"
    match getKey msg "signals" with
    | .dict _ signals =>
      match badSignals py signals with
      | .error e => ⟨tsEvents,some e⟩
      | .ok bad =>
        let badEvents := if bad.isEmpty then [] else [telemetryError [("device_id",.str deviceId),
          ("signals",.list ((sortedSet bad).map .str)),
          ("error",.str "telemetry had invalid quality or ts")]]
        match py.toInt (getD msg "seq" (.int (-1))) with
        | .error e => ⟨tsEvents ++ badEvents,some e⟩
        | .ok seq => .returned (tsEvents ++ badEvents ++
            [("manager.telemetry_update",telemetryBundle deviceId seq ts now signals msg)])
    | _ => .returned (tsEvents ++ [telemetryError [("device_id",.str deviceId),
        ("error",.str "telemetry signals must be a dict"),("raw",.dict false msg)]])

def driverStates : List String := ["INIT","OK","DEGRADED","FAULT","SHUTTING_DOWN"]
def deviceStates : List String := ["OK","DEGRADED","FAULT","DISCONNECTED","UNKNOWN"]

/-- `_heartbeat_state_invalid`; a value of JSON is never a member itself. -/
def heartbeatStateInvalid (members : List String) : Option Value → Bool
  | some (.str s) => s ∉ members
  | some _ => true
  | none => false

def ingestHeartbeat (now : Timestamp) (msg : Entries) : Emitted :=
  let failed := fun (entries : Entries) => ("manager.heartbeat_error",entries)
  match getKey msg "device_id" with
  | .none => .returned [failed [("error",.str "heartbeat missing device_id"),("raw",.dict false msg)]]
  | deviceRaw =>
    let deviceId := deviceRaw.text py.repr
    match getKey msg "pid" with
    | .none => .returned []
    | pidRaw =>
      match py.toInt pidRaw with
      | .error _ => .returned [failed [("device_id",.str deviceId),("error",.str "heartbeat bad pid"),
          ("raw",.dict false msg)]]
      | .ok pid =>
        let seq := ((py.toInt (getD msg "seq" (.int (-1)))).toOption).getD (-1)
        let (ts,tsEvents) := parseBundleTimestamp py now msg deviceId "manager.heartbeat_error"
          "heartbeat bad ts"
        let driverState := coerceEnum driverStates (getD msg "driver_state" (.str "INIT")) "INIT"
        let deviceState := coerceEnum deviceStates (getD msg "device_state" (.str "UNKNOWN")) "UNKNOWN"
        let invalid := heartbeatStateInvalid driverStates (item? msg "driver_state") ||
          heartbeatStateInvalid deviceStates (item? msg "device_state")
        let stateEvents := if invalid then [failed [("device_id",.str deviceId),
          ("error",.str "heartbeat had invalid state values"),("raw",.dict false msg)]] else []
        .returned (tsEvents ++ stateEvents ++ [("manager.heartbeat",[("version",.int 1),
          ("device_id",.str deviceId),("pid",.int pid),("seq",.int seq),
          ("driver_state",.str driverState),("device_state",.str deviceState),
          ("device_reachable",.bool (getD msg "device_reachable" (.bool false)).truthy),
          ("device_health",getKey msg "device_health"),("last_error",getKey msg "last_error"),
          ("last_ok_wall",getKey msg "last_ok_wall"),("last_ok_mono",getKey msg "last_ok_mono"),
          ("loop_lag_s",getKey msg "loop_lag_s"),
          ("ts",.dict false [("t_wall",.float ts.wall),("t_mono",.float ts.mono)])])])

def normalizeId : Value → Option String
  | .none => none
  | raw =>
    let text := strip (raw.text py.repr)
    if text = "" then none else some text

def logSeverities : List String := ["debug","info","warning","error","critical"]

def normalizeLogSeverity (raw : Value) : String :=
  let text := (strip ((raw.or (.str "")).text py.repr)).toLower
  let candidate := if text = "warn" then "warning" else text
  if candidate ∈ logSeverities then candidate else "info"

def normalizeLogTs (now : Timestamp) (raw : Value) : Value :=
  let field := fun (key : String) (default : UInt64) => match raw with
    | .dict _ ts => ((py.toFloat (getD ts key (.float default))).toOption).getD default
    | _ => default
  .dict false [("t_wall",.float (field "t_wall" now.wall)),("t_mono",.float (field "t_mono" now.mono))]

def truncated (limit : Nat) (text : String) : String :=
  if limit < text.length then String.ofList (text.toList.take limit) ++ "...(truncated)" else text

def optionalText : Option String → Value
  | none => .none
  | some text => .str text

def emitLogFromPayload (now : Timestamp) (payload : Entries) (defaultTopic : String) : Emitted :=
  let sourceRaw := getKey payload "source_id"
  let deviceId := getKey payload "device_id"
  let processId := getKey payload "process_id"
  let (sourceKind,sourceId) := match getKey payload "source_kind" with
    | .none =>
      if processId ≠ .none then
        (Value.str "process",if sourceRaw = .none then processId else sourceRaw)
      else if deviceId ≠ .none then
        (.str "driver",if sourceRaw = .none then deviceId else sourceRaw)
      else (.str "manager",sourceRaw)
    | kind => (kind,sourceRaw)
  let message := match getKey payload "message" with
    | .none => getD payload "error" (.str "")
    | message => message
  let payloadJson := match getKey payload "payload_json",getKey payload "payload" with
    | .none,.dict attr inner => py.safeJson (.dict attr inner)
    | .none,_ => ""
    | raw,_ => truncated 4000 (raw.text py.repr)
  .returned [("manager.log",[("version",.int 1),
    ("severity",.str (normalizeLogSeverity py (getD payload "severity" (.str "info")))),
    ("topic",.str (strip (((getD payload "topic" (.str defaultTopic)).or (.str "manager.log")).text py.repr))),
    ("source_kind",.str ((normalizeId py sourceKind).getD "manager")),
    ("source_id",optionalText (normalizeId py sourceId)),
    ("device_id",optionalText (normalizeId py deviceId)),
    ("process_id",optionalText (normalizeId py processId)),
    ("stream",.str ((normalizeId py (getD payload "stream" (.str "event"))).getD "event")),
    ("message",.str ((message.or (.str "")).text py.repr)),
    ("payload_json",.str payloadJson),("ts",normalizeLogTs py now (getKey payload "ts"))])]

def unhashableQuality (signal : Value) : Bool :=
  match signal with
  | .dict _ entries => (item? entries "quality").any unhashable
  | _ => false

theorem isBadQualityValue_raises (raw : Value) :
    (∃ e, isBadQualityValue raw = .error e) ↔ unhashable raw = true := by
  unfold isBadQualityValue
  cases hu : unhashable raw with
  | true =>
    have hbad : coerceEnum telemetryQualities raw "BAD" = "BAD" := by
      cases raw <;> simp_all [unhashable,coerceEnum]
    simp [hbad]
  | false =>
    split
    · simp
    · simp

theorem checkSignal_raises (signal : Entries) :
    (∃ e, checkSignal py signal = .error e) ↔ (item? signal "quality").any unhashable = true := by
  cases hq : item? signal "quality" with
  | none => simp [checkSignal,hq,bind,Except.bind,pure,Except.pure]
  | some raw =>
    rw [Option.any_some,← isBadQualityValue_raises]
    cases hbad : isBadQualityValue raw with
    | error e => simp [checkSignal,hq,hbad,bind,Except.bind]
    | ok bad => simp [checkSignal,hq,hbad,bind,Except.bind,pure,Except.pure]

theorem badSignals_raises (signals : Entries) : (∃ e, badSignals py signals = .error e) ↔
      signals.any (fun e => unhashableQuality e.2) = true := by
  induction signals with
  | nil => simp [badSignals]
  | cons entry rest ih =>
    obtain ⟨name,raw⟩ := entry
    rw [List.any_cons,Bool.or_eq_true,← ih]
    cases raw with
    | dict attr signal =>
      rw [show unhashableQuality (.dict attr signal) = (item? signal "quality").any unhashable from rfl,
        ← checkSignal_raises py,badSignals]
      cases hsignal : checkSignal py signal with
      | error e => simp [bind,Except.bind]
      | ok bad =>
        cases hrest : badSignals py rest with
        | error e => simp [bind,Except.bind]
        | ok names => simp [bind,Except.bind,pure,Except.pure]
    | none | bool _ | int _ | float _ | str _ | list _ => simp [badSignals,unhashableQuality]

/-- The bundle is one that `ingest_telemetry` does not come through: its `seq` does not convert, or
a signal gives a list or an object as its quality. -/
def telemetryRaises (msg : Entries) : Bool :=
  match getKey msg "device_id",getKey msg "signals" with
  | .none,_ => false
  | _,.dict _ signals =>
    signals.any (fun e => unhashableQuality e.2) ||
      !(py.toInt (getD msg "seq" (.int (-1)))).toOption.isSome
  | _,_ => false

variable (now : Timestamp)

theorem ingestTelemetry_raised (msg : Entries) :
    (ingestTelemetry py now msg).raised.isSome = telemetryRaises py msg := by
  unfold ingestTelemetry telemetryRaises
  cases hd : getKey msg "device_id" with
  | none => rfl
  | bool _ | int _ | float _ | str _ | list _ | dict _ _ =>
    dsimp only
    cases hs : getKey msg "signals" with
    | dict attr signals =>
      dsimp only
      cases hbad : badSignals py signals with
      | error e =>
        have hany := (badSignals_raises py signals).1 ⟨e,hbad⟩
        simp [hany]
      | ok bad =>
        have hany : signals.any (fun e => unhashableQuality e.2) = false := by
          by_contra h
          obtain ⟨e,he⟩ := (badSignals_raises py signals).2 (by simpa using h)
          simp [he] at hbad
        cases hseq : py.toInt (getD msg "seq" (.int (-1))) with
        | error e => simp [hany,Except.toOption]
        | ok seq => simp [hany,Except.toOption,Emitted.returned]
    | none | bool _ | int _ | float _ | str _ | list _ => rfl

theorem ingestHeartbeat_raised (msg : Entries) : (ingestHeartbeat py now msg).raised = none := by
  unfold ingestHeartbeat
  dsimp only
  split
  · rfl
  · split
    · rfl
    · split <;> rfl

end ExperimentControl.Manager

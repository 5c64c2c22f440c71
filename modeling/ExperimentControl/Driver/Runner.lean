import Mathlib.Data.Rat.Floor
import ExperimentControl.Driver.Objects
import ExperimentControl.Lib.OrderedDict

/-!
`DeviceRunner` (`_driver/runner.py`): the process that owns one device. The requests it answers,
telemetry and scheduled streams, over the health of the device that they all report on.
-/

namespace ExperimentControl.Driver
open Lib Python

inductive DeviceState where
  | ok | degraded | fault | disconnected | unknown
  deriving DecidableEq

def DeviceState.value : DeviceState → String
  | .ok => "OK"
  | .degraded => "DEGRADED"
  | .fault => "FAULT"
  | .disconnected => "DISCONNECTED"
  | .unknown => "UNKNOWN"

inductive DriverState where
  | init | ok | degraded
  deriving DecidableEq

structure Timestamp where
  wall : UInt64
  mono : UInt64
  deriving DecidableEq

structure MemberParamSpec where
  name : String
  kind : String
  required : Bool
  default : Obj
  annotation : Option String

structure MemberSpec where
  name : String
  kind : String
  readable : Bool
  settable : Bool
  valueAnnotation : Option String
  doc : Option String
  params : Option (List MemberParamSpec)
  returnAnnotation : Option String
  source : String

structure TelemetryOut where
  signal : String
  units : Option String
  dtype : String

structure TelemetryPlan where
  method : String
  outputs : List TelemetryOut

structure ScheduledPlan where
  actionName : String
  periodS : ℚ
  nextDueS : ℚ
  deriving DecidableEq

structure Config where
  telemetry : List TelemetryPlan
  /-- the keys of `_stream_rpc` -/
  streamActions : List String
  /-- the keys of `_stream_outputs` -/
  streams : List String

def Config.telemetrySignalNames (cfg : Config) : List String :=
  cfg.telemetry.flatMap fun plan => plan.outputs.map TelemetryOut.signal

structure Health where
  deviceReachable : Bool
  deviceState : DeviceState
  actionFailedSinceLastOk : Bool
  deriving DecidableEq

inductive DeviceOp where
  | connect | disconnect | get | set | command | streamRpc
  | telemetry | scheduledStream | runMetadata | identity
  deriving DecidableEq

structure DeviceCall where
  op : DeviceOp
  failed : Bool
  deriving DecidableEq

inductive Published where
  | heartbeat (seq : Nat) (driverState : DriverState) (health : Health) (lastOkTs : Option Timestamp)
      (lastError : Option String) (operation : Option String) (missedTotal : Nat)
  | telemetry (payload : Obj)

structure Runner extends Health where
  lastError : Option String
  lastOkTs : Option Timestamp
  connectCalled : Bool
  stop : Bool
  membersCache : Option (OrderedDict String MemberSpec)
  capabilitiesCache : Option (List MemberSpec)
  streamContext : OrderedDict String (Int × Entries)
  telemetrySeq : Nat
  heartbeatSeq : Nat
  telemetryLastCallErrors : OrderedDict String String
  currentOperation : Option String
  scheduledStreamCalls : List ScheduledPlan
  scheduledStreamsNeedResync : Bool
  scheduledStreamMissedTotal : Nat
  published : List Published
  calls : List DeviceCall

/-- What the device answers while one request is handled, where it is asked. -/
inductive CommandCall where
  /-- `getattr(self._device, action, None)` raises. -/
  | lookupRaised (exc : Exc)
  | missing
  /-- `inspect.signature` raises anything but a `TypeError` or a `ValueError`. -/
  | signatureRaised (exc : Exc)
  | unbound (bindError : String) (accepted : List String) (acceptsAny : Bool)
  | called (result : Except Exc Obj)

inductive IdentityCall where
  | lookupRaised (exc : Exc)
  | missing
  | called (result : Except Exc Obj)

structure Turn where
  now : Timestamp
  connect : Except Exc Unit
  disconnect : Except Exc Unit
  disconnectAfter : Except Exc Unit
  members : Except Exc (List MemberSpec)
  getattr : Except Exc Obj
  setattr : Except Exc Unit
  stream : Except Exc Obj
  command : CommandCall
  runMetadata : Except Exc Obj
  identity : IdentityCall

/-- The text of an exception, cut off: `_telemetry_format_error` and `_mark_device_unreachable`. -/
def clip (maxLen : Nat) (text : String) : String :=
  if maxLen < text.length then String.ofList (text.toList.take (maxLen-3)) ++ "..." else text

def failed {ε α : Type} : Except ε α → Bool
  | .ok _ => false
  | .error _ => true

def Runner.driverState (r : Runner) : DriverState :=
  if r.deviceReachable then
    match r.deviceState with
    | .ok => .ok
    | .degraded | .fault => .degraded
    | _ => .ok
  else match r.lastError with
    | none | some "" => .init
    | some _ => .degraded

namespace Runner

def asked (r : Runner) (op : DeviceOp) (failed : Bool) : Runner :=
  { r with calls := r.calls ++ [⟨op,failed⟩] }

def publishHeartbeat (r : Runner) : Runner :=
  { r with
    heartbeatSeq := r.heartbeatSeq+1
    published := r.published ++ [.heartbeat (r.heartbeatSeq+1) r.driverState r.toHealth r.lastOkTs
      r.lastError r.currentOperation r.scheduledStreamMissedTotal] }

def beginOperation (r : Runner) (name : String) : Runner :=
  publishHeartbeat { r with currentOperation := some name }

def endOperation (r : Runner) : Runner := { r with currentOperation := none }

def degrade (r : Runner) : Runner :=
  if r.deviceState = .disconnected then r else { r with deviceState := .degraded }

def markActionSucceeded (r : Runner) : Runner := { r with actionFailedSinceLastOk := false }

def markDeviceUnreachable (r : Runner) (reason : String) : Runner :=
  { degrade { r with deviceReachable := false } with
    actionFailedSinceLastOk := true
    lastError := some (clip 200 reason) }

/-- `self._mark_device_unreachable(f"{what} failed: {exc!r}")`: the text is made first. -/
def markFailure (r : Runner) (what : String) (exc : Exc) : Except Exc Unit × Runner :=
  match exc.repr with
  | .error raised => (.error raised,r)
  | .ok shown => (.ok (),r.markDeviceUnreachable (what ++ " failed: " ++ shown))

def refreshCapabilitiesCache (r : Runner) (turn : Turn) : Except Exc Unit × Runner :=
  match turn.members with
  | .ok members =>
    (.ok (),{ r with
      membersCache := some (members.foldl (fun d m => d.set m.name m) .empty)
      capabilitiesCache := some members })
  | .error exc =>
    let r := { r with capabilitiesCache := some [],membersCache := some .empty }
    match exc.repr with
    | .error raised => (.error raised,r)
    | .ok shown => (.ok (),{ r with lastError := some ("capabilities discovery failed: " ++ shown) })

def ensureMembers (r : Runner) (turn : Turn) : Except Exc Unit × Runner :=
  if r.membersCache.isNone then r.refreshCapabilitiesCache turn else (.ok (),r)

def member? (r : Runner) (name : String) : Option MemberSpec :=
  r.membersCache.bind fun members => members.get? name

end Runner

structure Request where
  requestId : Value
  action : String
  params : Entries

structure Reply where
  id : Value
  body : Except (String × Option String) Obj

def rpcOk (id : Value) (result : Obj) : Reply := ⟨id,.ok result⟩

def rpcError (id : Value) (error : String) (code : Option String) : Reply := ⟨id,.error (error,code)⟩

section
variable (py : Builtins)

def Builtins.nonEmptyText (raw : Value) : Option String :=
  let text := strip (((raw.or (.str "")).text py.values.repr))
  if text = "" then none else some text

/-- `RpcActionRequest.parse`, as the runner calls it -/
def Builtins.parseRequest (payload : Entries) : Option Request :=
  let action := match py.nonEmptyText (getKey payload "action") with
    | some action => some action
    | none => py.nonEmptyText (getKey payload "type")
  match action,getKey payload "params" with
  | some action,.none => some ⟨getKey payload "id",action,[]⟩
  | some action,.dict _ params => some ⟨getKey payload "id",action,params⟩
  | _,_ => none

def baseTypes : List String := ["bool","int","float","str"]

def nonEmptyParts (text : String) (sep : Char) : List String :=
  ((text.toList.splitOn sep).map String.ofList).filter (· ≠ "")

def unionBase (parts : List String) : Option String :=
  baseTypes.find? fun base => parts.all (fun p => p = base || p = "none") && parts.contains base &&
    parts.contains "none"

def between (start text : String) (stop : Char) : Option String :=
  if hasPrefix text start ∧ text.toList.getLast? = some stop then
    some (String.ofList ((text.toList.drop start.length).dropLast))
  else none

def parseSimpleAnnotation : Option String → Option String
  | none | some "" => none
  | some annotation =>
    let norm := (( annotation.replace "typing." "").replace " " "").toLower
    if norm ∈ baseTypes then some norm
    else match (between "optional[" norm ']').bind fun inner => baseTypes.find? (· = inner) with
      | some base => some base
      | none =>
        match (between "union[" norm ']').bind fun inner => unionBase (nonEmptyParts inner ',') with
        | some base => some base
        | none => if '|' ∈ norm.toList then unionBase (nonEmptyParts norm '|') else none

def isFinite (bits : UInt64) : Bool := bits &&& 0x7ff0000000000000 ≠ 0x7ff0000000000000

def invalidBoolean : PyExc := ⟨.valueError,"Invalid boolean value"⟩

def Builtins.coerceSimpleValue (value : Value) (kind : String) : Except PyExc Value :=
  if kind = "int" then (py.values.toInt value).map .int
  else if kind = "float" then (py.values.toFloat value).map .float
  else if kind = "str" then .ok (.str (value.text py.values.repr))
  else if kind = "bool" then
    match value with
    | .str s =>
      let lowered := (strip s).toLower
      if lowered = "true" ∨ lowered = "1" then .ok (.bool true)
      else if lowered = "false" ∨ lowered = "0" then .ok (.bool false)
      else .error invalidBoolean
    | .bool b => .ok (.bool b)
    | .int n => if n = 0 ∨ n = 1 then .ok (.bool (n ≠ 0)) else .error invalidBoolean
    | _ => .error invalidBoolean
  else .ok value

def Builtins.coerceFiniteSimpleValue (value : Value) (kind : String) : Except PyExc Value := do
  let coerced ← py.coerceSimpleValue value kind
  match coerced with
  | .float bits =>
    if kind = "float" && !isFinite bits then
      .error ⟨.valueError,"non-finite float values are not allowed"⟩
    else .ok coerced
  | _ => .ok coerced

def sameLiteral : Value → Value → Bool
  | .float a,.float b => (a = b && isFinite a) || (a <<< 1 = 0 && b <<< 1 = 0) ||
      (a = b && a &&& 0x000fffffffffffff = 0)
  | value,allowed => value = allowed

def isLiteral : Value → Bool
  | .list _ | .dict _ _ => false
  | _ => true

def Builtins.parseLiteralAnnotation : Option String → Option (List Value)
  | none | some "" => none
  | some annotation =>
    let text := (strip annotation).toList
    let head := text.takeWhile (· ≠ '[')
    if head = [] ∨ text.getLast? ≠ some ']' ∨ head = text then none
    else if ((head.splitOn '.').getLast?.map fun part => (String.ofList part).toLower) ≠ some "literal" then
      none
    else
      let inner := strip (String.ofList (text.drop (head.length+1)).dropLast)
      if inner = "" then none
      else (py.literalEval inner).filter fun values => values.all isLiteral

def callerError (c : CallerError) (message : String) : Exc := .plain (.caller c) message

/-- The parameter of a command, checked and converted by its annotation. -/
def Builtins.coerceParam (action : String) (coerced : Entries) (param : MemberParamSpec) :
    Except Exc Entries :=
  match item? coerced param.name with
  | none => .ok coerced
  | some value =>
    let bad := "Bad parameters for command " ++ py.values.repr (.str action) ++ ": " ++ param.name
    match py.parseLiteralAnnotation param.annotation with
    | some literals =>
      if literals.any (sameLiteral value) then .ok coerced
      else .error (callerError .badParameters
        (bad ++ " must be one of " ++ py.values.repr (.list literals)))
    | none =>
      match parseSimpleAnnotation param.annotation with
      | none => .ok coerced
      | some kind =>
        match py.coerceFiniteSimpleValue value kind with
        | .ok value => .ok (setItem coerced param.name value)
        | .error exc => .error (callerError .badParameters (bad ++ " (" ++ exc.message ++ ")"))

/-- `raise BadCommandParametersError(...)` of `handle_command` -/
def Builtins.unboundError (action : String) (params : Entries) (bindError : String)
    (accepted : List String) (acceptsAny : Bool) : Exc :=
  let unexpected := if acceptsAny then [] else (params.map Prod.fst).filter (· ∉ accepted)
  let problems := unexpected.map fun name =>
    "unexpected parameter " ++ py.values.repr (.str name) ++
      match py.closeMatch name accepted with
      | some found => " (did you mean " ++ py.values.repr (.str found) ++ "?)"
      | none => ""
  let listing := if accepted.isEmpty then "(none)" else ", ".intercalate accepted
  let detail := if problems.isEmpty then bindError else "; ".intercalate problems
  callerError .badParameters ("Bad parameters for command " ++ py.values.repr (.str action) ++ ": " ++
    detail ++ "; accepted parameters: " ++ listing)

/-- `handle_command`, for an action that is no stream; what the device raises in the call itself is
told apart from what stands before it. -/
def Builtins.handleCommand (action : String) (params : Entries) (call : CommandCall) : Except Exc Obj :=
  let shown := py.values.repr (.str action)
  if hasPrefix action "_" then
    .error (callerError .unknownCommand ("Internal class methods not allowed " ++ shown))
  else if action = "connect" ∨ action = "disconnect" then
    .error (callerError .notAllowed ("Command " ++ shown ++ " is not allowed via RPC"))
  else match call with
    | .lookupRaised exc => .error exc
    | .missing => .error (callerError .unknownCommand ("Unknown command " ++ shown))
    | .signatureRaised exc => .error exc
    | .unbound bindError accepted acceptsAny =>
      .error (py.unboundError action params bindError accepted acceptsAny)
    | .called result => result

abbrev Handled := Except Exc Reply × Runner

def invalidMemberName (name : Value) : Bool :=
  match name with
  | .str s => hasPrefix s "_" || s = "connect" || s = "disconnect"
  | _ => true

section
variable (cfg : Config) (turn : Turn) (req : Request) (r : Runner)

def capabilities : List MemberSpec × Runner :=
  match r.capabilitiesCache with
  | some members => (members,r)
  | none =>
    if !r.deviceReachable ∨ r.deviceState = .disconnected then ([],r)
    else match r.refreshCapabilitiesCache turn with
      | (.error _,r) => ([],r)
      | (.ok (),r) => (r.capabilitiesCache.getD [],r)

def optionalText : Option String → Obj
  | none => .none
  | some text => .str text

def MemberParamSpec.toJson (p : MemberParamSpec) : Obj :=
  .dict [(.str "name",.str p.name),(.str "kind",.str p.kind),(.str "required",.bool p.required),
    (.str "default",p.default),(.str "annotation",optionalText p.annotation)]

def MemberSpec.toJson (m : MemberSpec) : Obj :=
  .dict [(.str "name",.str m.name),(.str "kind",.str m.kind),(.str "readable",.bool m.readable),
    (.str "settable",.bool m.settable),(.str "value_annotation",optionalText m.valueAnnotation),
    (.str "doc",optionalText m.doc),
    (.str "params",match m.params with
      | some params => .list (params.map MemberParamSpec.toJson)
      | none => .none),
    (.str "return_annotation",optionalText m.returnAnnotation),(.str "source",.str m.source)]

def capabilitiesJson (members : List MemberSpec) : Obj :=
  .dict [(.str "version",.int 1),(.str "members",.list (members.map MemberSpec.toJson))]

def rpcRouteShutdown : Handled := (.ok (rpcOk req.requestId .none),{ r with stop := true })

def rpcRouteCapabilities : Handled :=
  let (members,r) := capabilities turn r
  (.ok (rpcOk req.requestId (capabilitiesJson members)),r)

def rpcRouteRefreshCapabilities : Handled :=
  if r.deviceState = .disconnected then (.ok (rpcOk req.requestId (capabilitiesJson [])),r)
  else match r.refreshCapabilitiesCache turn with
    | (.error exc,r) =>
      match exc.repr with
      | .error raised => (.error raised,r)
      | .ok shown =>
        let error := "capabilities discovery failed: " ++ shown
        (.ok (rpcError req.requestId error none),{ r with lastError := some error })
    | (.ok (),r) =>
      let (members,r) := capabilities turn r
      (.ok (rpcOk req.requestId (capabilitiesJson members)),r)

def disconnectedReply : Reply := rpcError req.requestId "Device is disconnected" none

def rpcRouteGet : Handled :=
  if r.deviceState = .disconnected then (.ok (disconnectedReply req),r)
  else match getKey req.params "name" with
    | .str name =>
      if invalidMemberName (.str name) then
        (.ok (rpcError req.requestId "Invalid member name" none),r)
      else match r.ensureMembers turn with
        | (.error exc,r) => (.error exc,r)
        | (.ok (),r) =>
          match r.member? name with
          | none => (.ok (rpcError req.requestId "Unknown member" none),r)
          | some spec =>
            if !spec.readable then
              (.ok (rpcError req.requestId "Member is not readable" none),r)
            else
              let r := r.asked .get (failed turn.getattr)
              match turn.getattr with
              | .error exc =>
                match r.markFailure ("get " ++ py.values.repr (.str name)) exc with
                | (.error raised,r) => (.error raised,r)
                | (.ok (),r) =>
                  match exc.str with
                  | .error raised => (.error raised,r)
                  | .ok text => (.ok (rpcError req.requestId ("get failed: " ++ text) none),r)
              | .ok value =>
                let r := r.markActionSucceeded
                match py.jsonableValue value with
                | .error exc => (.error exc,r)
                | .ok result => (.ok (rpcOk req.requestId result),r)
    | _ => (.ok (rpcError req.requestId "Invalid member name" none),r)

/-- The annotation that `_rpc_route_set` converts the value by. -/
def MemberSpec.setKind (spec : MemberSpec) : Option String :=
  match spec.params with
  | some (first :: _) =>
    match parseSimpleAnnotation first.annotation with
    | some kind => some kind
    | none => parseSimpleAnnotation spec.valueAnnotation
  | _ => parseSimpleAnnotation spec.valueAnnotation

def rpcRouteSet : Handled :=
  if r.deviceState = .disconnected then (.ok (disconnectedReply req),r)
  else match getKey req.params "name" with
    | .str name =>
      if invalidMemberName (.str name) then
        (.ok (rpcError req.requestId "Invalid member name" none),r)
      else match r.ensureMembers turn with
        | (.error exc,r) => (.error exc,r)
        | (.ok (),r) =>
          match r.member? name with
          | none => (.ok (rpcError req.requestId "Unknown member" none),r)
          | some spec =>
            if !spec.settable then
              (.ok (rpcError req.requestId "Member is not settable" none),r)
            else if (spec.setKind.any fun kind =>
                failed (py.coerceFiniteSimpleValue (getKey req.params "value") kind)) then
              (.ok (rpcError req.requestId "Failed to coerce value" none),r)
            else
              let r := r.asked .set (failed turn.setattr)
              match turn.setattr with
              | .error exc =>
                match r.markFailure ("set " ++ py.values.repr (.str name)) exc with
                | (.error raised,r) => (.error raised,r)
                | (.ok (),r) =>
                  match exc.str with
                  | .error raised => (.error raised,r)
                  | .ok text => (.ok (rpcError req.requestId ("set failed: " ++ text) none),r)
              | .ok () => (.ok (rpcOk req.requestId .none),r.markActionSucceeded)
    | _ => (.ok (rpcError req.requestId "Invalid member name" none),r)

def optionalFloat : Option UInt64 → Obj
  | none => .none
  | some bits => .float bits

def DriverState.value : DriverState → String
  | .init => "INIT"
  | .ok => "OK"
  | .degraded => "DEGRADED"

def rpcRouteStatus : Handled :=
  (.ok (rpcOk req.requestId (.dict [(.str "driver_state",.str r.driverState.value),
    (.str "device_reachable",.bool r.deviceReachable),(.str "device_state",.str r.deviceState.value),
    (.str "last_ok_wall",optionalFloat (r.lastOkTs.map Timestamp.wall)),
    (.str "last_ok_mono",optionalFloat (r.lastOkTs.map Timestamp.mono)),
    (.str "last_error",optionalText r.lastError)])),r)

def rpcRouteCollectRunMetadata : Handled :=
  if r.deviceState = .disconnected then (.ok (disconnectedReply req),r)
  else
    let r := r.asked .runMetadata (failed turn.runMetadata)
    (turn.runMetadata.map (rpcOk req.requestId),r)

def rpcRouteIdentity : Handled :=
  match turn.identity with
  | .lookupRaised exc => (.error exc,r.asked .identity true)
  | .missing => (.ok (rpcError req.requestId "identity not supported" "identity_not_supported"),r)
  | .called result =>
    let r := r.asked .identity (failed result)
    match result with
    | .error exc => (.error exc,r)
    | .ok value => ((py.jsonableValue value).map (rpcOk req.requestId),r)

def Runner.disconnected (r : Runner) : Runner :=
  { r with
    deviceReachable := false
    deviceState := .disconnected
    capabilitiesCache := none
    membersCache := none }

def Runner.connected (r : Runner) (now : Timestamp) : Runner :=
  Runner.markActionSucceeded { r with
    deviceReachable := true
    deviceState := .ok
    lastOkTs := some now
    lastError := none }

def rpcRouteConnectDevice : Handled :=
  if r.deviceState = .ok ∧ r.deviceReachable then
    (.ok (rpcError req.requestId ("Device is already connected (" ++ r.deviceState.value ++ ")")
      "already_connected"),r)
  else
    let r := if r.deviceState = .disconnected then r
      else r.asked .disconnect (failed turn.disconnect)
    let r := { r with connectCalled := true }
    let r := r.asked .connect (failed turn.connect)
    match turn.connect with
    | .error exc => (.error exc,(r.asked .disconnect (failed turn.disconnectAfter)).disconnected)
    | .ok () => (.ok (rpcOk req.requestId .none),((r.connected turn.now).refreshCapabilitiesCache turn).2)

def rpcRouteDisconnectDevice : Handled :=
  if r.deviceState = .disconnected then
    (.ok (rpcError req.requestId "Device is already disconnected" "already_disconnected"),r)
  else
    let r := r.asked .disconnect (failed turn.disconnect)
    match turn.disconnect with
    | .error exc => (.error exc,r)
    | .ok () => (.ok (rpcOk req.requestId .none),r.disconnected)

def rpcRouteStreamContextSet : Handled :=
  let fields := getD req.params "fields" (.dict false [])
  match getKey req.params "stream" with
  | .str stream =>
    if stream = "" then (.ok (rpcError req.requestId "stream must be a non-empty string" none),r)
    else if stream ∉ cfg.streams then
      (.ok (rpcError req.requestId ("Unknown stream " ++ py.values.repr (.str stream)) none),r)
    else if getKey req.params "context_id" = .none then
      (.ok (rpcError req.requestId "context_id required" none),r)
    else match py.values.toInt (getKey req.params "context_id") with
      | .error _ => (.ok (rpcError req.requestId "context_id must be int" none),r)
      | .ok contextId =>
        match fields with
        | .none => (.ok (rpcOk req.requestId .none),
            { r with streamContext := r.streamContext.set stream (contextId,[]) })
        | .dict _ entries => (.ok (rpcOk req.requestId .none),
            { r with streamContext := r.streamContext.set stream (contextId,entries) })
        | _ => (.ok (rpcError req.requestId "fields must be a dict" none),r)
  | _ => (.ok (rpcError req.requestId "stream must be a non-empty string" none),r)

def rpcRouteStreamContextClear : Handled :=
  match getKey req.params "stream" with
  | .none => (.ok (rpcOk req.requestId .none),{ r with streamContext := .empty })
  | .str stream => (.ok (rpcOk req.requestId .none),
      { r with streamContext := r.streamContext.erase stream })
  | _ => (.ok (rpcError req.requestId "stream must be a string" none),r)

def Runner.actionReturned (r : Runner) (now : Timestamp) : Runner :=
  Runner.markActionSucceeded { r with
    deviceReachable := true
    lastOkTs := some now
    lastError := none }

def coercedParams : Except Exc Entries :=
  match r.member? req.action with
  | some spec =>
    if spec.kind = "method" then
      (spec.params.getD []).foldlM (py.coerceParam req.action) req.params
    else .ok req.params
  | none => .ok req.params

def rpcDispatchDeviceCommand : Handled :=
  let shown := py.values.repr (.str req.action)
  if r.deviceState = .disconnected then (.ok (disconnectedReply req),r)
  else if req.action ∈ cfg.streamActions then
    let r := r.asked .streamRpc (failed turn.stream)
    match turn.stream with
    | .error exc =>
      match r.markFailure ("stream rpc " ++ shown) exc with
      | (.error raised,r) => (.error raised,r)
      | (.ok (),r) => (.error exc,r)
    | .ok result => (.ok (rpcOk req.requestId result),r.actionReturned turn.now)
  else match r.ensureMembers turn with
    | (.error exc,r) => (.error exc,r)
    | (.ok (),r) =>
      match coercedParams py req r with
      | .error exc => (.error exc,r)
      | .ok params =>
        match py.handleCommand req.action params turn.command with
        | .error exc =>
          if exc.isCallerError then (.error exc,r)
          else match (r.asked .command true).markFailure ("command " ++ shown) exc with
            | (.error raised,r) => (.error raised,r)
            | (.ok (),r) => (.error exc,r)
        | .ok result =>
          (.ok (rpcOk req.requestId result),(r.asked .command false).actionReturned turn.now)

/-- `_build_rpc_registry`, and the device commands behind it -/
def dispatch : Handled :=
  match req.action with
  | "shutdown" => rpcRouteShutdown req r
  | "capabilities" => rpcRouteCapabilities turn req r
  | "refresh_capabilities" => rpcRouteRefreshCapabilities turn req r
  | "get" => rpcRouteGet py turn req r
  | "set" => rpcRouteSet py turn req r
  | "status" => rpcRouteStatus req r
  | "collect_run_metadata" => rpcRouteCollectRunMetadata turn req r
  | "identity" => rpcRouteIdentity py turn req r
  | "connect_device" => rpcRouteConnectDevice turn req r
  | "disconnect_device" => rpcRouteDisconnectDevice turn req r
  | "stream.context.set" => rpcRouteStreamContextSet py cfg req r
  | "stream.context.clear" => rpcRouteStreamContextClear req r
  | _ => rpcDispatchDeviceCommand py cfg turn req r

/-- What `_handle_rpc_request` makes of an exception that a route has raised. -/
def answerException (exc : Exc) : Handled :=
  match exc.cls with
  | .caller c => (exc.str.map fun text => rpcError req.requestId text (some c.code),r)
  | _ =>
    match exc.repr with
    | .error raised => (.error raised,r)
    | .ok shown =>
      (exc.str.map fun text => rpcError req.requestId text none,
        { r with lastError := some ("command " ++ req.action ++ " failed: " ++ shown) })

end

def handleRpcRequest (cfg : Config) (turn : Turn) (payload : Entries) (r : Runner) : Handled :=
  match py.parseRequest payload with
  | none => (.ok (rpcError (getKey payload "id") "Malformed request" none),r)
  | some req =>
    match dispatch py cfg turn req r with
    | (.ok reply,r) => (.ok reply,r)
    | (.error exc,r) => answerException req r exc

inductive Quality where
  | ok | bad | missing | stale
  deriving DecidableEq

def Quality.value : Quality → String
  | .ok => "OK"
  | .bad => "BAD"
  | .missing => "MISSING"
  | .stale => "STALE"

structure Signal where
  value : Obj
  units : Option String
  quality : Quality
  error : Option String

abbrev Signals := OrderedDict String Signal

inductive PlanRead where
  | missing
  | raised (exc : Exc)
  | returned (extracted : Nat → Except Exc Obj)

def telemetryFormatError (exc : Exc) : Except Exc String := exc.repr.map (clip 200)

def Builtins.readOutput (o : TelemetryOut) (extracted : Except Exc Obj) : Except Exc Signal :=
  let converted : Except Exc Obj := match extracted with
    | .error exc => .error exc
    | .ok value => if value.isNone then .ok value else py.coerceScalar value o.dtype
  match converted with
  | .ok value => .ok ⟨value,o.units,.ok,none⟩
  | .error exc => (telemetryFormatError exc).map fun text => ⟨.none,o.units,.bad,some text⟩

def Builtins.readOutputs (extracted : Nat → Except Exc Obj) :
    Nat → List TelemetryOut → Signals → Except Exc Signals
  | _,[],signals => .ok signals
  | i,o :: rest,signals =>
    match py.readOutput o (extracted i) with
    | .error exc => .error exc
    | .ok signal => readOutputs extracted (i+1) rest (signals.set o.signal signal)

def setOutputs (outputs : List TelemetryOut) (quality : Quality) (error : Option String)
    (signals : Signals) : Signals :=
  outputs.foldl (fun signals o => signals.set o.signal ⟨.none,o.units,quality,error⟩) signals

structure Telemetry where
  signals : Signals
  callErrors : OrderedDict String String

/-- One call; an exception of it, or of the text of one of its outputs, marks all its outputs. -/
def Builtins.readPlan (plan : TelemetryPlan) (read : PlanRead) (t : Telemetry) :
    Except Exc Unit × Telemetry :=
  let failPlan (exc : Exc) : Except Exc Unit × Telemetry :=
    match telemetryFormatError exc with
    | .error raised => (.error raised,t)
    | .ok text => (.ok (),⟨setOutputs plan.outputs .bad (some text) t.signals,
        t.callErrors.set plan.method text⟩)
  match read with
  | .missing => (.ok (),{ t with signals := setOutputs plan.outputs .missing none t.signals })
  | .raised exc => failPlan exc
  | .returned extracted =>
    match py.readOutputs extracted 0 plan.outputs t.signals with
    | .error exc => failPlan exc
    | .ok signals => (.ok (),{ t with signals := signals })

/-- `read_telemetry`; every call is announced by a heartbeat. -/
def Builtins.readTelemetry (reads : Nat → PlanRead) : Nat → List TelemetryPlan → Telemetry → Runner →
    Except Exc Unit × Telemetry × Runner
  | _,[],t,r => (.ok (),t,r)
  | i,plan :: rest,t,r =>
    let r := (r.beginOperation ("telemetry:" ++ plan.method)).endOperation
    match py.readPlan plan (reads i) t with
    | (.error exc,t) => (.error exc,t,r)
    | (.ok (),t) => readTelemetry reads (i+1) rest t r

/-- `_telemetry_quality_counts` -/
def qualityCount (signals : Signals) (quality : Quality) : Nat :=
  signals.entries.countP fun e => e.2.quality = quality

def countsText (signals : Signals) : String :=
  "\x7b'OK': " ++ toString (qualityCount signals .ok) ++ ", 'BAD': " ++ toString (qualityCount signals .bad) ++
    ", 'MISSING': " ++ toString (qualityCount signals .missing) ++ ", 'STALE': " ++
    toString (qualityCount signals .stale) ++ ", 'OTHER': 0\x7d"

def Runner.applyTelemetryQualityState (r : Runner) (signals : Signals) : Runner :=
  let total := signals.size
  let okCount := qualityCount signals .ok
  if total = 0 ∨ okCount = 0 then
    { Runner.degrade { r with deviceReachable := false } with
      lastError := some ("telemetry returned no OK signals (" ++ countsText signals ++ ")") }
  else if r.actionFailedSinceLastOk then Runner.degrade { r with deviceReachable := false }
  else
    let r := { r with deviceReachable := true }
    if 0 < total-okCount then
      { r.degrade with
        lastError := some ("telemetry partially degraded (" ++ countsText signals ++ ")") }
    else
      let r := if r.deviceState = .disconnected ∨ r.deviceState = .degraded then
        { r with deviceState := .ok } else r
      { r with lastError := none }

/-- The branch of `_publish_telemetry` for a device without telemetry signals. -/
def Runner.applyNoSignals (r : Runner) : Runner :=
  if r.actionFailedSinceLastOk then Runner.degrade { r with deviceReachable := false }
  else
    let r := { r with deviceReachable := true }
    let r := if r.deviceState = .disconnected then { r with deviceState := .ok } else r
    { r with lastError := none }

/-- `_serialize_signals`, for the signals that `read_telemetry` makes -/
def Signal.toJson (signal : Signal) : Obj :=
  .dict ([(.str "value",signal.value),(.str "units",optionalText signal.units),
    (.str "quality",.str signal.quality.value),(.str "ts",.none)] ++
    match signal.error with
    | none => []
    | some error => [(.str "error",.str (clip 200 error))])

def telemetryPayload (deviceId : String) (seq : Nat) (now : Timestamp) (t : Telemetry) : Obj :=
  .dict ([(.str "version",.int 1),(.str "device_id",.str deviceId),(.str "seq",.json (.int seq)),
    (.str "ts",.dict [(.str "t_wall",.float now.wall),(.str "t_mono",.float now.mono)]),
    (.str "signals",.dict (t.signals.entries.map fun e => (.str e.1,e.2.toJson)))] ++
    if t.callErrors.size = 0 then []
    else [(.str "call_errors",.dict (t.callErrors.entries.map fun e => (.str e.1,.str e.2)))])

structure TelemetryTurn where
  now : Timestamp
  reads : Nat → PlanRead

def allOk (signals : Signals) : Bool := signals.entries.all fun e => e.2.quality = .ok

section
variable (interp : Interpreter) (cfg : Config)

/-- `_publish_telemetry` up to its payload: what has been read, and what it tells about the device. -/
def Runner.updateTelemetry (r : Runner) (turn : TelemetryTurn) : Except Exc Telemetry × Runner :=
  let r := { r with telemetrySeq := r.telemetrySeq+1 }
  match py.readTelemetry turn.reads 0 cfg.telemetry ⟨.empty,.empty⟩ r with
  | (.ok (),t,r) =>
    let r := { r with telemetryLastCallErrors := t.callErrors }.asked .telemetry (!allOk t.signals)
    let r := if cfg.telemetrySignalNames.isEmpty then r.applyNoSignals
      else r.applyTelemetryQualityState t.signals
    (.ok t,if r.deviceReachable then { r with lastOkTs := some turn.now } else r)
  | (.error exc,t,r) =>
    let r := { r with telemetryLastCallErrors := t.callErrors }.asked .telemetry true
    let r := Runner.degrade { r with deviceReachable := false }
    match exc.repr with
    | .error raised => (.error raised,r)
    | .ok shown =>
      let errors := OrderedDict.empty.set "<read_telemetry>" (clip 200 shown)
      (.ok ⟨.empty,errors⟩,{ r with
        lastError := some ("telemetry read failed: " ++ shown)
        telemetryLastCallErrors := errors })

def Runner.publishTelemetry (deviceId : String) (r : Runner) (turn : TelemetryTurn) :
    Except Exc Unit × Runner :=
  if r.deviceState = .disconnected then (.ok (),r)
  else match r.updateTelemetry py cfg turn with
    | (.error exc,r) => (.error exc,r)
    | (.ok t,r) =>
      let payload := telemetryPayload deviceId r.telemetrySeq turn.now t
      match dumpsError interp false 0 payload with
      | some exc => (.error exc,r)
      | none => (.ok (),{ r with published := r.published ++ [.telemetry payload] })

end

structure StreamRun where
  now : Timestamp
  result : Except Exc Obj

namespace Runner

/-- What the outcome of a scheduled stream does to the runner. -/
def streamRan (r : Runner) (actionName : String) (run : StreamRun) : Except Exc Unit × Runner :=
  match run.result with
  | .ok _ =>
    let r := { r with deviceReachable := true }
    let r := if r.deviceState = .disconnected then { r with deviceState := .ok } else r
    (.ok (),{ r with lastOkTs := some run.now,lastError := none })
  | .error exc =>
    let r := r.degrade
    match exc.repr with
    | .error raised => (.error raised,r)
    | .ok shown =>
      (.ok (),{ r with lastError := some ("scheduled stream " ++ actionName ++ " failed: " ++ shown) })

/-- One plan of `_publish_scheduled_streams`; the runs it has missed are counted and left out. -/
def runPlan (now : ℚ) (run : StreamRun) (i : Nat) (r : Runner) : Except Exc Unit × Runner :=
  match r.scheduledStreamCalls[i]? with
  | none => (.ok (),r)
  | some plan =>
    if now < plan.nextDueS then (.ok (),r)
    else
      let missed := ⌊(now-plan.nextDueS)/plan.periodS⌋.toNat
      let plan := { plan with nextDueS := plan.nextDueS+(missed+1)*plan.periodS }
      let r := { r with
        scheduledStreamCalls := r.scheduledStreamCalls.set i plan
        scheduledStreamMissedTotal := r.scheduledStreamMissedTotal+missed }
      let r := (r.beginOperation ("stream:" ++ plan.actionName)).endOperation
      streamRan (r.asked .scheduledStream (failed run.result)) plan.actionName run

/-- The loop of `_publish_scheduled_streams` over the plans with these numbers: what it ends with, and
the runner after each plan. -/
def runPlans (now : ℚ) (runs : Nat → StreamRun) :
    List Nat → Runner → Except Exc Unit × List Runner
  | [],_ => (.ok (),[])
  | i :: rest,r =>
    match runPlan now (runs i) i r with
    | (.error exc,r) => (.error exc,[r])
    | (.ok (),r) =>
      let (result,later) := runPlans now runs rest r
      (result,r :: later)

def publishScheduledStreams (now : ℚ) (runs : Nat → StreamRun) (r : Runner) :
    Except Exc Unit × List Runner :=
  if r.deviceState = .disconnected then (.ok (),[{ r with scheduledStreamsNeedResync := true }])
  else if r.scheduledStreamsNeedResync then
    (.ok (),[{ r with
      scheduledStreamsNeedResync := false
      scheduledStreamCalls := r.scheduledStreamCalls.map fun plan =>
        { plan with nextDueS := now+plan.periodS } }])
  else runPlans now runs (List.range r.scheduledStreamCalls.length) r

end Runner

end

/-- `run` before its first iteration, with the streams it has scheduled -/
def Runner.start (plans : List ScheduledPlan) : Runner where
  deviceReachable := false
  deviceState := .disconnected
  actionFailedSinceLastOk := false
  lastError := none
  lastOkTs := none
  connectCalled := false
  stop := false
  membersCache := none
  capabilitiesCache := none
  streamContext := .empty
  telemetrySeq := 0
  heartbeatSeq := 0
  telemetryLastCallErrors := .empty
  currentOperation := none
  scheduledStreamCalls := plans
  scheduledStreamsNeedResync := false
  scheduledStreamMissedTotal := 0
  published := []
  calls := []

def gainMember : MemberSpec where
  name := "gain"
  kind := "property"
  readable := true
  settable := true
  valueAnnotation := none
  doc := none
  params := none
  returnAnnotation := none
  source := "device"

def wellTurn : Turn where
  now := ⟨0,0⟩
  connect := .ok ()
  disconnect := .ok ()
  disconnectAfter := .ok ()
  members := .ok [gainMember]
  getattr := .ok (.int 3)
  setattr := .ok ()
  stream := .ok .none
  command := .missing
  runMetadata := .ok .none
  identity := .missing

end ExperimentControl.Driver

import ExperimentControl.CommandInterceptors
import ExperimentControl.Lib.OrderedDict

/-!
The worker threads of the device router (`processes/device_router.py`): what each of them does
with one task. The devices, processes and peers behind the sockets may answer anything.
-/

namespace ExperimentControl.Router
open Lib Python CommandInterceptors

structure DeviceTask where
  identity : List UInt8
  deviceId : String
  action : String
  params : Entries
  requestId : Value
  callerProcessId : Value
  sourceKind : Option String
  sourceId : Option String
  deviceEndpoint : Option String
  deviceState : Option String
  chain : List String
  interceptorEndpoints : OrderedDict String (Option String)
  interceptorStates : OrderedDict String (Option String)

structure ProcessTask where
  identity : List UInt8
  processId : String
  request : Entries
  endpoint : Option String
  action : String
  params : Entries
  requestId : Value
  callerProcessId : Option String
  sourceKind : Option String
  sourceId : Option String
  processState : Option String

structure ManagerTask where
  identity : List UInt8
  request : Entries

/-- `allowsDeviceAction` is what the patterns of the route let through. -/
structure MirroredRoute where
  localId : String
  remoteDeviceId : String
  allowsDeviceAction : String → Bool

structure MirroredTask where
  identity : List UInt8
  request : Entries
  route : MirroredRoute

inductive Task where
  | device (task : DeviceTask)
  | process (task : ProcessTask)
  | manager (task : ManagerTask)
  | mirrored (task : MirroredTask)

def Task.identity : Task → List UInt8
  | .device task => task.identity
  | .process task => task.identity
  | .manager task => task.identity
  | .mirrored task => task.identity

def Task.requestId : Task → Value
  | .device task => task.requestId
  | .process task => task.requestId
  | .manager task => get task.request "request_id"
  | .mirrored task => get task.request "request_id"

/-- What the code takes from Python; `eq` is `==` on JSON values, and `None` equals only itself. -/
structure Builtins where
  repr : Value → String
  eq : Value → Value → Bool
  none_eq : ∀ v, v ≠ .none → eq .none v = false
  upper : String → String
  toInt : Value → Except PyExc Int
  safeJson : Value → String

/-- What a socket gives back: a decoded frame, nothing in time, or an exception. -/
inductive Received where
  | frame (value : Value)
  | timeout
  | raised (name message : String)

/-- What one call meets: the exception, if there is one, of making its socket ready (`socket`,
`connect`, `setsockopt`), the id that is stamped on a request without one and the frames that come in
time. -/
structure Exchange where
  unready : Option PyExc := none
  stamp : String := ""
  frames : List Value := []

/-- The surroundings of a worker while it has a task in hand, with one exchange for each call of an
interceptor. -/
structure Wire where
  clock : UInt64
  wall : UInt64
  interceptors : List Exchange := []
  device : Received := .timeout
  process : Exchange := {}
  manager : Exchange := {}
  peer : Received := .timeout
  published : List (String × Entries) := []

def Wire.publish (topic : String) (payload : Entries) (w : Wire) : Wire :=
  { w with published := w.published ++ [(topic,payload)] }

def receive (accepts : Entries → Bool) : List Value → Option Entries
  | [] => none
  | .dict _ reply :: rest => if accepts reply then some reply else receive accepts rest
  | _ :: rest => receive accepts rest

def stampRequest (stamp : String) (request : Entries) : Entries :=
  if (item? request "request_id").isSome then request
  else setItem request "request_id" (.str stamp)

/-- The match of `_call_interceptor` and of the manager client: a reply without an id passes. -/
def acceptsLeniently (b : Builtins) (expected : Value) (reply : Entries) : Bool :=
  expected = .none || get reply "request_id" = .none || b.eq (get reply "request_id") expected

def present : Option String → Bool
  | none | some "" => false
  | some _ => true

def allowedProcessStates : List String := ["STARTING","RUNNING","STOPPING"]

def isRouteAvailable (task : DeviceTask) (processId : String) : Bool :=
  if !present (task.interceptorEndpoints.get? processId).join then false
  else match (task.interceptorStates.get? processId).join with
    | none | some "" => true
    | some state => state ∈ allowedProcessStates

/-- The wire, and the exception that leaves the chain at a call whose socket is not made ready. -/
abbrev Line := Wire × Option PyExc

/-- `_call` of the chain. Where it raises, `deviceWork` takes the exception from the line; what the
chain makes of the call is void. -/
def callInterceptor (b : Builtins) (task : DeviceTask) (processId : String) (request : Entries)
    (l : Line) : CallResult × Line :=
  if !present (task.interceptorEndpoints.get? processId).join then (⟨"unavailable",.none,none⟩,l)
  else match l.1.interceptors with
    | [] => (⟨"timeout",.none,none⟩,l)
    | ⟨some e,_,_⟩ :: _ => (⟨"timeout",.none,none⟩,(l.1,some e))
    | ⟨none,stamp,frames⟩ :: rest =>
      let l := ({ l.1 with interceptors := rest },l.2)
      let expected := get (stampRequest stamp request) "request_id"
      match receive (acceptsLeniently b expected) frames with
      | none => (⟨"timeout",.none,none⟩,l)
      | some reply => (⟨"ok",.dict false reply,none⟩,l)

def interceptorPeers (b : Builtins) (task : DeviceTask) : Peers Line where
  repr := b.repr
  eq := b.eq
  now l := (l.1.clock,l)
  available processId l := (isRouteAvailable task processId,l)
  call := callInterceptor b task
  publish topic payload l := (l.1.publish topic payload,l.2)

def interceptedCommand (task : DeviceTask) : Entries :=
  [("device_id",.str task.deviceId),("action",.str task.action),("params",.dict false task.params)]

def taskCaller (task : DeviceTask) : Caller := ⟨task.requestId,task.callerProcessId,false⟩

def applyCommandInterceptors (b : Builtins) (task : DeviceTask) (w : Wire) :
    Except PyExc (Except Entries Command) × Line :=
  applyCommandInterceptorChain (interceptorPeers b task) (taskCaller task) (interceptedCommand task)
    task.chain (w,none)

def deviceEndpointUnavailableError (b : Builtins) (task : DeviceTask) : Entries :=
  let state := b.upper (strip (task.deviceState.getD ""))
  let transient (code message : String) : Entries :=
    [("code",.str code),("message",.str message),("state",.str state),("retry_after_ms",.int 250),
      ("transient",.bool true),("retryable",.bool true)]
  if state = "STARTING" then
    transient "device_starting" "driver is starting; RPC endpoint is not ready"
  else if state = "STOPPING" then
    transient "device_stopping" "driver is stopping; RPC endpoint is not available"
  else [("code",.str "driver_not_running"),("message",.str "driver is not running")] ++
    if state = "" then [] else [("state",.str state)]

def failed (error : Value) : Value := .dict false [("ok",.bool false),("error",error)]

def textOrNone : Option String → Value
  | none => .none
  | some s => .str s

/-- `_device_rpc_exception_error`; a frame that is no object raises as well. -/
def deviceRpcExceptionError (timeoutMs : Int) (task : DeviceTask) : Received → Entries
  | .timeout =>
    [("code",.str "device_rpc_timeout"),
      ("message",.str ("device RPC timed out after " ++ toString timeoutMs ++ " ms")),
      ("device_id",.str task.deviceId),("action",.str task.action),("timeout_ms",.int timeoutMs),
      ("transient",.bool true),("retryable",.bool true)]
  | .frame _ =>
    [("code",.str "device_rpc_failed"),("message",.str "invalid device response"),
      ("device_id",.str task.deviceId),("action",.str task.action)]
  | .raised name message =>
    let text := if strip message = "" then name else strip message
    [("code",.str "device_rpc_failed"),("message",.str text),
      ("device_id",.str task.deviceId),("action",.str task.action)]

/-- The `manager.command` event; `target` names what the command was for. -/
def commandEvent (b : Builtins) (target : Entries) (action : String) (params : Value)
    (ok status error : Value) (resultJson : String) (requestId callerProcessId : Value)
    (sourceKind sourceId : Option String) (w : Wire) : Entries :=
  [("version",.int 1)] ++ target ++ [("action",.str action),("params_json",.str (b.safeJson params)),
    ("ok",ok),("status",status),("error",error),("result_json",.str resultJson),
    ("request_id",requestId),("caller_process_id",callerProcessId),
    ("source_kind",textOrNone sourceKind),("source_id",textOrNone sourceId),
    ("is_remote_target",.bool false),
    ("ts",.dict false [("t_wall",.float w.wall),("t_mono",.float w.clock)])]

def deviceEvent (b : Builtins) (task : DeviceTask) (params ok status error : Value)
    (resultJson : String) (w : Wire) : Entries :=
  commandEvent b [("device_id",.str task.deviceId)] task.action params ok status error resultJson
    task.requestId task.callerProcessId task.sourceKind task.sourceId w

def answerDevice (b : Builtins) (timeoutMs : Int) (task : DeviceTask) (command : Command)
    (w : Wire) : Value × Wire :=
  match w.device with
  | .frame (.dict attr reply) =>
    let ok := match item? reply "status" with
      | some status => .bool (status = .str "OK")
      | none => get reply "ok"
    (.dict attr reply,w.publish "manager.command" (deviceEvent b task command.params ok
      (get reply "status") (get reply "error") (b.safeJson (get reply "result")) w))
  | received =>
    let error := .dict false (deviceRpcExceptionError timeoutMs task received)
    (failed error,w.publish "manager.command"
      (deviceEvent b task command.params (.bool false) .none error "" w))

/-- One round of `_DeviceWorker._run_loop`. Nothing there catches what the chain raises. -/
def deviceWork (b : Builtins) (timeoutMs : Int) (task : DeviceTask) (w : Wire) :
    Except PyExc (Value × Wire) :=
  if !present task.deviceEndpoint then
    .ok (failed (.dict false (deviceEndpointUnavailableError b task)),w)
  else match applyCommandInterceptors b task w with
    | (_,_,some e) => .error e
    | (.error e,_) => .error e
    | (.ok (.error err),w,none) => .ok (failed (.dict false err),w)
    | (.ok (.ok command),w,none) => .ok (answerDevice b timeoutMs task command w)

def asksTooEarly (b : Builtins) (task : ProcessTask) : Bool :=
  task.action = "process.capabilities" && b.upper (strip (task.processState.getD "")) = "STARTING"

def answeredTooEarly (b : Builtins) (task : ProcessTask) (response : Entries) : Bool :=
  let errorCode := match get response "error" with
    | .dict _ error => strip ((getD error "code" (.str "")).text b.repr)
    | _ => ""
  asksTooEarly b task && (errorCode = "process_rpc_not_ready" || errorCode = "process_starting")

/-- `_publish_process_command`. Membership in a set hashes the status, and a list or an object has
no hash. -/
def publishProcessCommand (b : Builtins) (task : ProcessTask) (response : Entries) (w : Wire) :
    Except PyExc Wire :=
  if answeredTooEarly b task response then .ok w
  else
    let status := get response "status"
    let ok := if status = .str "OK" then .bool true
      else if status = .str "ERROR" then .bool false else get response "ok"
    match status with
    | .list _ => .error ⟨.typeError,"unhashable type: 'list'"⟩
    | .dict _ _ => .error ⟨.typeError,"unhashable type: 'dict'"⟩
    | _ => .ok (w.publish "manager.command" (commandEvent b
        [("device_id",.str ("process:" ++ task.processId)),("process_id",.str task.processId)]
        task.action (.dict false task.params) ok status (get response "error")
        (b.safeJson (get response "result")) task.requestId (textOrNone task.callerProcessId)
        task.sourceKind task.sourceId w))

def notReadyResponse (b : Builtins) (task : ProcessTask) : Entries :=
  let error : Entries := if asksTooEarly b task then
      [("code",.str "process_starting"),
        ("message",.str "process is starting; RPC endpoint not advertised yet"),
        ("retry_after_ms",.int 500)]
    else [("code",.str "process_rpc_not_ready")]
  [("ok",.bool false),("error",.dict false error)]

/-- The `try` of `_call`, and the reply that stands for none. -/
def callProcess (b : Builtins) (task : ProcessTask) (w : Wire) : Entries :=
  let expected := get task.request "request_id"
  let accepts (reply : Entries) := expected = .none || b.eq (get reply "request_id") expected
  (receive accepts w.process.frames).getD [("ok",.bool false),("error",.str "timeout")]

def processResponse (b : Builtins) (task : ProcessTask) (w : Wire) : Entries :=
  if present task.endpoint then callProcess b task w else notReadyResponse b task

/-- `_call` makes its socket ready before its `try`. -/
def processUnready (task : ProcessTask) (w : Wire) : Option PyExc :=
  if present task.endpoint then w.process.unready else none

def processWork (b : Builtins) (task : ProcessTask) (w : Wire) : Except PyExc (Value × Wire) :=
  match processUnready task w with
  | some e => .error e
  | none =>
    let response := processResponse b task w
    match publishProcessCommand b task response w with
    | .error e => .error e
    | .ok w => .ok (.dict false response,w)

/-- `ManagerClient.call` sets the timeouts of its socket outside of its `try`. -/
def managerWork (b : Builtins) (task : ManagerTask) (w : Wire) : Except PyExc Value :=
  match w.manager.unready with
  | some e => .error e
  | none =>
    let expected := get (stampRequest w.manager.stamp task.request) "request_id"
    match receive (acceptsLeniently b expected) w.manager.frames with
    | some reply => .ok (.dict false reply)
    | none => .ok (failed (.str "timeout"))

/-- Whatever `_forward` raises becomes an answer. -/
def mirroredWork (w : Wire) : Value :=
  match w.peer with
  | .frame (.dict attr reply) => .dict attr reply
  | .frame _ => failed (.str "invalid mirrored device response")
  | .timeout => failed (.str "Resource temporarily unavailable")
  | .raised _ message => failed (.str message)

/-- What a worker does with a task: the response, or the exception that ends its thread. -/
def work (b : Builtins) (timeoutMs : Int) (task : Task) (w : Wire) : Except PyExc (Value × Wire) :=
  match task with
  | .device task => deviceWork b timeoutMs task w
  | .process task => processWork b task w
  | .manager task => (managerWork b task w).map (·,w)
  | .mirrored _ => .ok (mirroredWork w,w)

def unhashable : Value → Bool
  | .list _ | .dict _ _ => true
  | _ => false

def NotMadeReady (l : Line) : Prop :=
  ∃ exchange, l.1.interceptors.head? = some exchange ∧ exchange.unready.isSome = true

/-- The processes before one that is there pass the command, and its socket is not made ready. -/
def Unready (b : Builtins) (w : Wire) (task : DeviceTask) : Prop :=
  Refuses (interceptorPeers b task) (taskCaller task) task.chain
    (initialCommand b.repr (interceptedCommand task)) (w,none) fun processId _ l =>
      strip processId ≠ "" ∧ isRouteAvailable task (strip processId) = true ∧ NotMadeReady l

def Crashes (b : Builtins) (w : Wire) : Task → Prop
  | .device task => present task.deviceEndpoint = true ∧ (Unready b w task ∨
    RefusesUnreadably (interceptorPeers b task) (taskCaller task) (interceptedCommand task)
      task.chain (w,none))
  | .process task => (processUnready task w).isSome = true ∨
    unhashable (get (processResponse b task w) "status") = true ∧
      answeredTooEarly b task (processResponse b task w) = false
  | .manager _ => w.manager.unready.isSome = true
  | .mirrored _ => False

section
variable {b : Builtins} {task : DeviceTask} {caller : Caller} {processId : String} {c c' : Command}
variable {l l' : Line}

theorem present_of_route (h : isRouteAvailable task processId = true) :
    present (task.interceptorEndpoints.get? processId).join = true := by
  unfold isRouteAvailable at h
  cases hend : present (task.interceptorEndpoints.get? processId).join with
  | true => rfl
  | false => simp [hend] at h

theorem callInterceptor_unready {request : Entries} (h : l.2 = none)
    (hroute : isRouteAvailable task processId = true) :
    (callInterceptor b task processId request l).2.2.isSome = true ↔ NotMadeReady l := by
  unfold callInterceptor NotMadeReady
  rw [present_of_route hroute]
  cases hcalls : l.1.interceptors with
  | nil => simp [h]
  | cons exchange rest =>
    obtain ⟨unready,stamp,frames⟩ := exchange
    cases unready with
    | some e => simp
    | none =>
      simp only [Bool.not_true,Bool.false_eq_true,if_false,List.head?_cons]
      split <;> simp [h]

theorem callInterceptor_status {request : Entries} (h : NotMadeReady l)
    (hroute : isRouteAvailable task processId = true) :
    (callInterceptor b task processId request l).1.status = "timeout" := by
  obtain ⟨⟨unready,stamp,frames⟩,hhead,hunready⟩ := h
  obtain ⟨e,rfl⟩ := Option.isSome_iff_exists.1 hunready
  obtain ⟨rest,hcalls⟩ := List.head?_eq_some_iff.1 hhead
  unfold callInterceptor
  simp [present_of_route hroute,hcalls]

theorem interceptorPeers_now : (interceptorPeers b task).now l = (l.1.clock,l) := rfl

theorem callInterceptorChecked_line {site : Site} {request : Entries} {r : Except Entries Entries}
    (h : callInterceptorChecked (interceptorPeers b task) caller site request l = (r,l')) :
    l' = (callInterceptor b task site.processId request l).2 := by
  unfold callInterceptorChecked at h
  dsimp only at h
  split at h <;> cases h <;> rfl

theorem applyInterceptorDecision_line {site : Site} {response : Entries}
    {r : Except PyExc (Except Entries Command)}
    (h : applyInterceptorDecision (interceptorPeers b task) site response c l = (r,l')) :
    l'.2 = l.2 := by
  unfold applyInterceptorDecision at h
  split at h
  · split at h <;> cases h <;> rfl
  · split at h <;> cases h <;> rfl
  · cases h
    rfl

/-- The exception of a step is that of the one call it makes. -/
theorem applyInterceptorStep_unready (h : l.2 = none) :
    (applyInterceptorStep (interceptorPeers b task) caller processId c l).2.2.isSome = true ↔
      strip processId ≠ "" ∧ isRouteAvailable task (strip processId) = true ∧ NotMadeReady l := by
  by_cases hnamed : strip processId = ""
  · simp [applyInterceptorStep,validateRouteAvailability,hnamed,emitInterceptorError,
      interceptorPeers,h]
  cases hroute : isRouteAvailable task (strip processId) with
  | false =>
    simp [applyInterceptorStep,validateRouteAvailability,hroute,emitInterceptorError,hnamed,
      interceptorPeers,h]
  | true =>
    have hcall : (callInterceptor b task (strip processId)
        (buildInterceptorRequest c caller l.1.clock) l).2.2.isSome = true ↔ NotMadeReady l :=
      callInterceptor_unready h hroute
    rw [← hcall]
    have hvalid : validateRouteAvailability (interceptorPeers b task)
        ⟨strip processId,c.deviceId,c.action⟩ l = (none,l) := by
      simp [validateRouteAvailability,hnamed,interceptorPeers,hroute]
    have hline : (applyInterceptorStep (interceptorPeers b task) caller processId c l).2.2 =
        (callInterceptor b task (strip processId) (buildInterceptorRequest c caller l.1.clock) l).2.2 := by
      rw [applyInterceptorStep,hvalid]
      simp only [interceptorPeers_now]
      split
      · rename_i hchecked
        rw [← callInterceptorChecked_line hchecked]
        rfl
      · rename_i hchecked
        rw [← callInterceptorChecked_line hchecked]
        split
        · rename_i hdecided
          exact applyInterceptorDecision_line hdecided
        · rename_i hdecided
          rw [← applyInterceptorDecision_line hdecided]
          rfl
        · rename_i hdecided
          exact applyInterceptorDecision_line hdecided
    rw [hline]
    simp [hnamed]

theorem ready_of_answers {response : Entries} (hl : l.2 = none)
    (h : Answers (interceptorPeers b task) caller processId c l response) :
    (applyInterceptorStep (interceptorPeers b task) caller processId c l).2.2 = none := by
  rw [← Option.not_isSome_iff_eq_none,applyInterceptorStep_unready hl]
  rintro ⟨-,hroute,hunready⟩
  have hstatus := h.status
  have hcall : (exchange (interceptorPeers b task) caller processId c l).1.status = "timeout" :=
    callInterceptor_status hunready hroute
  rw [hcall] at hstatus
  exact absurd hstatus (by decide +kernel)

theorem ready_of_passes {chain : List String} {responses : List Entries} (hl : l.2 = none)
    (h : Passes (interceptorPeers b task) caller chain c l responses c' l') : l'.2 = none := by
  induction h with
  | nil => exact hl
  | cons answers _ _ _ ih => exact ih (ready_of_answers hl answers)

theorem applyChain_unready {chain : List String} (hl : l.2 = none)
    (h : Refuses (interceptorPeers b task) caller chain c l fun processId _ l =>
      strip processId ≠ "" ∧ isRouteAvailable task (strip processId) = true ∧ NotMadeReady l) :
    (applyChain (interceptorPeers b task) caller chain c l).2.2.isSome = true := by
  obtain ⟨before,processId,after,responses,c₁,l₁,rfl,hpass,hunready⟩ := h
  have hl₁ := ready_of_passes hl hpass
  have hsome : (applyInterceptorStep (interceptorPeers b task) caller processId c₁ l₁).2.2.isSome :=
    (applyInterceptorStep_unready hl₁).2 hunready
  have hanswer : ¬∃ response, Answers (interceptorPeers b task) caller processId c₁ l₁ response := by
    rintro ⟨response,hans⟩
    rw [ready_of_answers hl₁ hans] at hsome
    cases hsome
  obtain ⟨err,l₂,hstep⟩ := applyInterceptorStep_of_no_answer hanswer
  rw [hpass.run,applyChain_cons,hstep]
  rwa [hstep] at hsome

end

variable {w : Wire} {b : Builtins}

theorem deviceWork_raises_iff {timeoutMs : Int} {task : DeviceTask} :
    (∃ e, deviceWork b timeoutMs task w = .error e) ↔ Crashes b w (.device task) := by
  unfold deviceWork Crashes
  dsimp only
  cases hend : present task.deviceEndpoint with
  | false => simp
  | true =>
    simp only [Bool.not_true,Bool.false_eq_true,if_false,true_and]
    constructor
    · rintro ⟨e,he⟩
      rcases applyChain_cases (interceptorPeers b task) (taskCaller task) task.chain
          (initialCommand b.repr (interceptedCommand task)) (w,none) with
        ⟨_,c,l,hpass,hrun⟩ | ⟨err,l,hrun,before,processId,after,responses,c₁,l₁,hchain,hpass,hstep⟩ |
        ⟨_,_,_,href⟩
      · have hchain : applyCommandInterceptors b task w = (.ok (.ok c),l) := hrun
        have hready := ready_of_passes (l := (w,none)) rfl hpass
        obtain ⟨w',raised⟩ := l
        obtain rfl : raised = none := hready
        rw [hchain] at he
        cases he
      · have hall : applyCommandInterceptors b task w = (.ok (.error err),l) := hrun
        obtain ⟨w',raised⟩ := l
        cases raised with
        | none =>
          rw [hall] at he
          cases he
        | some e' =>
          refine .inl ⟨before,processId,after,responses,c₁,l₁,hchain,hpass,?_⟩
          have hsome : (applyInterceptorStep (interceptorPeers b task) (taskCaller task) processId
              c₁ l₁).2.2.isSome := by rw [hstep]; rfl
          exact (applyInterceptorStep_unready (ready_of_passes rfl hpass)).1 hsome
      · exact .inr href
    · intro hcrash
      rcases hrun : applyCommandInterceptors b task w with ⟨r,w',raised⟩
      cases raised with
      | some e => exact ⟨e,rfl⟩
      | none =>
        rcases hcrash with hunready | href
        · have hsome := applyChain_unready (l := (w,none)) rfl hunready
          have hnone : (applyCommandInterceptors b task w).2.2.isSome = true := hsome
          rw [hrun] at hnone
          cases hnone
        · obtain ⟨e,he⟩ := raises_of_refusesUnreadably href
          have hr : (applyCommandInterceptors b task w).1 = .error e := he
          rw [hrun] at hr
          obtain rfl : r = .error e := hr
          exact ⟨e,rfl⟩

theorem publishProcessCommand_raises_iff {task : ProcessTask} {response : Entries}
    : (∃ e, publishProcessCommand b task response w = .error e) ↔
      unhashable (get response "status") = true ∧ answeredTooEarly b task response = false := by
  unfold publishProcessCommand
  cases answeredTooEarly b task response with
  | true => simp
  | false => cases get response "status" <;> simp [unhashable]

theorem processWork_raises_iff {task : ProcessTask} :
    (∃ e, processWork b task w = .error e) ↔ Crashes b w (.process task) := by
  rw [Crashes,← publishProcessCommand_raises_iff (w := w),processWork]
  cases processUnready task w with
  | some e => simp
  | none =>
    dsimp only
    cases publishProcessCommand b task (processResponse b task w) w <;> simp

theorem managerWork_raises_iff {task : ManagerTask} :
    (∃ e, managerWork b task w = .error e) ↔ w.manager.unready.isSome = true := by
  unfold managerWork
  cases w.manager.unready with
  | some e => simp
  | none =>
    dsimp only
    split <;> simp

theorem work_raises_iff {timeoutMs : Int} {task : Task} :
    (∃ e, work b timeoutMs task w = .error e) ↔ Crashes b w task := by
  cases task with
  | device task => exact deviceWork_raises_iff
  | process task => exact processWork_raises_iff
  | manager task =>
    have hraises : (∃ e, managerWork b task w = .error e) ↔ _ := managerWork_raises_iff
    rw [Crashes,← hraises,work]
    cases managerWork b task w <;> simp [Except.map]
  | mirrored task => simp [work,Crashes]

end ExperimentControl.Router

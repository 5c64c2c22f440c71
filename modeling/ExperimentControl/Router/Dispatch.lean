import ExperimentControl.Router.Workers

/-!
Which worker of the device router (`processes/device_router.py`) a request goes to, and the task
that is made of it.
-/

namespace ExperimentControl.Router
open Lib Python CommandInterceptors

inductive WorkerKey where
  | manager
  | device (deviceId : String)
  | process (processId : String)
  | mirrored (localId : String)
  deriving DecidableEq

/-- What the router knows when a request comes in. `routeAnswer` is what
`_handle_command_interceptor` answers. -/
structure Directory where
  processId : Option String
  rpcEndpoint : Option String
  deviceEndpoints : String → Option String
  deviceStates : String → Option String
  processEndpoints : String → Option String
  processStates : String → Option String
  mirroredRoutes : String → Option MirroredRoute
  chain : String → String → List String
  routeAnswer : Entries → Value

inductive Dispatch where
  | respond (response : Value) (requestId : Value)
  | submit (key : WorkerKey) (task : Task) (bucket queueFullMessage : String) (requestId : Value)
  | raise (e : PyExc)

def nullableStripped (b : Builtins) : Value → Option String
  | .none => none
  | v =>
    let text := strip (v.text b.repr)
    if text = "" then none else some text

def hasHopped (b : Builtins) : Value → Bool
  | .dict _ raw => match b.toInt (getD raw "hop_count" (.int 0)) with
    | .ok n => 0 < n
    | .error _ => false
  | _ => false

def federationError (code message : String) : Value :=
  failed (.dict false [("code",.str code),("message",.str message)])

def dispatchMirroredCommand (b : Builtins) (identity : List UInt8) (req : Entries)
    (route : MirroredRoute) (action : String) : Dispatch :=
  let requestId := get req "request_id"
  if hasHopped b (get req "federation") then
    .respond (federationError "federation_reexport_blocked"
      "mirrored devices cannot be re-exported to another peer") requestId
  else if !route.allowsDeviceAction action then
    .respond (federationError "federation_acl_denied" ("federation policy denied mirrored command " ++
      b.repr (.str route.localId) ++ "." ++ action)) requestId
  else .submit (.mirrored route.localId) (.mirrored ⟨identity,req,route⟩) "mirrored_worker"
    "mirrored worker queue is full" requestId

def chainTable (find : String → Option String) (chain : List String) :
    OrderedDict String (Option String) :=
  chain.foldl (fun table processId => table.set processId (find processId)) .empty

def dispatchDeviceCommand (b : Builtins) (dir : Directory) (identity : List UInt8) (req : Entries) :
    Dispatch :=
  let deviceId := (getD req "device_id" (.str "")).text b.repr
  let action := (getD req "action" (.str "")).text b.repr
  let requestId := get req "request_id"
  let invalid := Dispatch.respond (failed (.str "invalid command")) requestId
  match getD req "params" (.dict false []) with
  | .dict _ params =>
    if deviceId = "" || action = "" then invalid
    else match dir.mirroredRoutes deviceId with
      | some route => dispatchMirroredCommand b identity req route action
      | none =>
        let chain := dir.chain deviceId action
        .submit (.device deviceId) (.device {
          identity, deviceId, action, params, requestId, chain
          callerProcessId := get req "caller_process_id"
          sourceKind := nullableStripped b (get req "source_kind")
          sourceId := nullableStripped b (get req "source_id")
          deviceEndpoint := dir.deviceEndpoints deviceId
          deviceState := dir.deviceStates deviceId
          interceptorEndpoints := chainTable dir.processEndpoints chain
          interceptorStates := chainTable dir.processStates chain })
          "device_worker" "device worker queue is full" requestId
  | _ => invalid

def effectiveRequestId (req : Entries) : Value :=
  match get req "request_id" with
  | .none => match get req "request" with
    | .dict _ inner => get inner "request_id"
    | _ => .none
  | requestId => requestId

def dispatchManagerRpc (b : Builtins) (identity : List UInt8) (req : Entries) : Dispatch :=
  let effective := effectiveRequestId req
  let request := if effective ≠ .none && !b.eq (get req "request_id") effective
    then setItem req "request_id" effective else req
  .submit .manager (.manager ⟨identity,request⟩) "manager_worker" "manager worker queue is full"
    (get req "request_id")

def processRpcEndpoint (dir : Directory) (processId : String) : Option String :=
  match dir.processEndpoints processId with
  | some endpoint => some endpoint
  | none =>
    if dir.processId = some processId && present dir.rpcEndpoint then dir.rpcEndpoint else none

def processRequestSource (b : Builtins) (req : Entries) :
    Option String × Option String × Option String :=
  let caller := nullableStripped b (get req "caller_process_id")
  let kind := (nullableStripped b (get req "source_kind")).map String.toLower
  let source := nullableStripped b (get req "source_id")
  match kind with
  | none =>
    let kind := if caller.isSome then "process" else "manager"
    (caller,some kind,some ((source.or caller).getD "rpc"))
  | some kind =>
    (caller,some kind,if kind = "process" && source.isNone then caller else source)

def dispatchProcessRpc (b : Builtins) (dir : Directory) (identity : List UInt8) (req : Entries) :
    Dispatch :=
  let processId := (getD req "process_id" (.str "")).text b.repr
  let invalid := Dispatch.respond (failed (.dict false [("code",.str "invalid_process_rpc")]))
    (get req "request_id")
  match get req "request" with
  | .dict _ request =>
    if processId = "" then invalid
    else
      let requestId := effectiveRequestId req
      let (caller,sourceKind,sourceId) := processRequestSource b req
      match processRpcEndpoint dir processId with
      | none => dispatchManagerRpc b identity req
      | some endpoint =>
        let action := getD request "type" (.str "process.rpc")
        .submit (.process processId) (.process {
          identity, processId, request, requestId, sourceKind, sourceId
          endpoint := some endpoint
          action := if action.truthy then action.text b.repr else "process.rpc"
          params := match getD request "params" (.dict false []) with
            | .dict _ params => params
            | _ => []
          callerProcessId := caller
          processState := dir.processStates processId })
          "process_worker" "process worker queue is full" requestId
  | _ => invalid

def interceptorRequests : List String :=
  ["manager.interceptors.register","manager.interceptors.unregister","manager.interceptors.list"]

/-- `_handle_external_rpc`. The type of a request is looked up in a set. -/
def handleExternalRpc (b : Builtins) (dir : Directory) (identity : List UInt8) (req : Value) :
    Dispatch :=
  match req with
  | .dict _ req =>
    match get req "type" with
    | .list _ => .raise ⟨.typeError,"unhashable type: 'list'"⟩
    | .dict _ _ => .raise ⟨.typeError,"unhashable type: 'dict'"⟩
    | .str "command" => dispatchDeviceCommand b dir identity req
    | .str "manager.processes.rpc" => dispatchProcessRpc b dir identity req
    | .str rtype =>
      if rtype ∈ interceptorRequests then .respond (dir.routeAnswer req) (get req "request_id")
      else dispatchManagerRpc b identity req
    | _ => dispatchManagerRpc b identity req
  | _ => .respond (failed (.str "invalid request")) .none

def Task.sender (task : Task) : List UInt8 × Value := (task.identity,task.requestId)

def givenRequestId (req : Value) : Value :=
  match req with
  | .dict _ req => if get req "type" = .str "command" then get req "request_id"
    else effectiveRequestId req
  | _ => .none

variable {bucket message : String} {req : Entries} {task : Task} {requestId : Value} {b : Builtins}
variable {identity : List UInt8} {key : WorkerKey}

theorem dispatchMirroredCommand_sender {route : MirroredRoute} {action : String}
    (h : dispatchMirroredCommand b identity req route action = .submit key task bucket message requestId) :
    task.sender = (identity,get req "request_id") := by
  unfold dispatchMirroredCommand at h
  simp only at h
  split at h
  · cases h
  · split at h
    · cases h
    · cases h
      rfl

variable {dir : Directory}

theorem dispatchDeviceCommand_sender
    (h : dispatchDeviceCommand b dir identity req = .submit key task bucket message requestId) :
    task.sender = (identity,get req "request_id") := by
  unfold dispatchDeviceCommand at h
  simp only at h
  split at h
  · split at h
    · cases h
    · split at h
      · exact dispatchMirroredCommand_sender h
      · cases h
        rfl
  · cases h

theorem effectiveRequestId_of_given (h : get req "request_id" ≠ .none) :
    effectiveRequestId req = get req "request_id" := by
  unfold effectiveRequestId
  split
  · rename_i hnone
    exact absurd hnone h
  · rfl

theorem dispatchManagerRpc_sender
    (h : dispatchManagerRpc b identity req = .submit key task bucket message requestId) :
    task.sender = (identity,effectiveRequestId req) := by
  unfold dispatchManagerRpc at h
  cases h
  simp only [Task.sender,Task.identity,Task.requestId,Prod.mk.injEq,true_and]
  split
  · rw [CommandInterceptors.get,getD,item?_setItem,Option.getD_some]
  · rename_i hkept
    by_cases hgiven : get req "request_id" = .none
    · by_cases heff : effectiveRequestId req = .none
      · rw [hgiven,heff]
      · simp [heff,hgiven,b.none_eq _ heff] at hkept
    · exact (effectiveRequestId_of_given hgiven).symm

theorem dispatchProcessRpc_sender
    (h : dispatchProcessRpc b dir identity req = .submit key task bucket message requestId) :
    task.sender = (identity,effectiveRequestId req) := by
  unfold dispatchProcessRpc at h
  simp only at h
  split at h
  · split at h
    · cases h
    · split at h
      · exact dispatchManagerRpc_sender h
      · cases h
        rfl
  · cases h

theorem handleExternalRpc_sender {req : Value}
    (h : handleExternalRpc b dir identity req = .submit key task bucket message requestId) :
    task.sender = (identity,givenRequestId req) := by
  unfold handleExternalRpc at h
  split at h
  · rename_i attr entries
    have hother : get entries "type" ≠ .str "command" →
        givenRequestId (.dict attr entries) = effectiveRequestId entries := by
      intro hne
      simp [givenRequestId,hne]
    split at h
    · cases h
    · cases h
    · rename_i hcommand
      rw [dispatchDeviceCommand_sender h]
      simp [givenRequestId,hcommand]
    · rename_i hprocess
      rw [dispatchProcessRpc_sender h,hother]
      simp [hprocess]
    · rename_i rtype hne _ htype
      split at h
      · cases h
      · rw [dispatchManagerRpc_sender h,hother]
        rw [htype]
        intro he
        exact hne (by simpa using he)
    · rename_i hne _ _
      rw [dispatchManagerRpc_sender h,hother]
      exact hne
  · cases h

end ExperimentControl.Router

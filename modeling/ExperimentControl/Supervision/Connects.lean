import ExperimentControl.Lib.Dialogue
import ExperimentControl.Lib.OrderedDict
import ExperimentControl.Python.Value
import ExperimentControl.Supervision.Processes

/-!
The connect paths of the manager (`manager.py`, `_manager/process_supervision.py`): the RPCs that
each operation issues to the drivers. Operations run on several threads, and each of their RPCs is
answered with anything, or not at all.
-/

namespace ExperimentControl.Supervision.Connects
open Lib Python List Prod

structure ConnectCheckSpec where
  enabled : Bool := false
  identity : Entries := []
  onFail : String := "disconnect"
  deriving DecidableEq

structure Rpc where
  deviceId : String
  action : String
  deriving DecidableEq

/-- What becomes of an RPC. That of a device without an endpoint is never sent. -/
inductive Answer where
  | reply (resp : Entries)
  | raised (exc : String)
  | unregistered
  deriving DecidableEq

abbrev Operation (α : Type) := Dialogue Rpc Answer String α

/-- What the checks take from Python: `repr` and `!=` of two values. -/
structure Lang where
  repr : Value → String
  ne : Value → Value → Bool

def callDeviceRpc (lang : Lang) (deviceId action : String) : Operation Entries := do
  match ← Dialogue.ask ⟨deviceId,action⟩ with
  | .reply resp => pure resp
  | .raised exc => .raise exc
  | .unregistered => .raise ("Device " ++ lang.repr (.str deviceId) ++ " is not registered")

def deviceRpcStatusOk (resp : Entries) : Bool :=
  let okValue := match getD resp "ok" .none with
    | .bool ok => ok
    | _ => false
  match getD resp "status" .none with
  | .str status =>
    let statusNorm := (strip status).toUpper
    if statusNorm = "OK" then true else if statusNorm = "ERROR" then false else okValue
  | _ => okValue

def textOf : Value → Option String
  | .str s => if strip s = "" then none else some (strip s)
  | _ => none

def deviceRpcErrorText (resp : Entries) : String :=
  match getD resp "error" .none with
  | .str s => (textOf (.str s)).getD "device rpc error"
  | .dict _ err =>
    ((textOf (getD err "message" .none)).orElse fun _ => textOf (getD err "code" .none)).getD
      "device rpc error"
  | _ => "device rpc error"

def typeName : Value → String
  | .none => "NoneType"
  | .bool _ => "bool"
  | .int _ => "int"
  | .float _ => "float"
  | .str _ => "str"
  | .list _ => "list"
  | .dict _ _ => "dict"

section
variable (lang : Lang) (devices : OrderedDict String ConnectCheckSpec)

def saysAlreadyConnected (resp : Entries) : Bool :=
  let raw := getD resp "error_code" .none
  let code := (strip (if raw.truthy then raw.text lang.repr else "")).toLower
  code = "already_connected" ||
    occursIn "already connected".toList (deviceRpcErrorText resp).toLower.toList

def requireRunningDriver (deviceId : String) : Operation ConnectCheckSpec :=
  match devices.get? deviceId with
  | none => .raise ("Device " ++ lang.repr (.str deviceId) ++ " is not configured")
  | some spec => do
    if ← Dialogue.flip then pure spec
    else .raise ("Driver process for " ++ lang.repr (.str deviceId) ++ " is not running")

def connectCheckFailedResponse (deviceId : String) (spec : ConnectCheckSpec) (message : String)
    (details : Entries) : Operation Entries := do
  if spec.onFail ≠ "keep_connected" then
    let _ ← Dialogue.attempt (callDeviceRpc lang deviceId "disconnect_device")
  pure [("status",.str "ERROR"),("error",.str message),
    ("error_code",.str "connect_check_failed"),("error_details",.dict false details)]

def mismatches (spec : ConnectCheckSpec) (identity : Entries) : List (String × Value × Value) :=
  spec.identity.filterMap fun e =>
    let actual := getD identity e.1 .none
    if lang.ne actual e.2 then some (e.1,e.2,actual) else none

def mismatchMessage (deviceId : String) (m : String × Value × Value) : String :=
  "connect_check failed for " ++ deviceId ++ ": identity." ++ m.1 ++ " expected " ++
    lang.repr m.2.1 ++ ", got " ++ lang.repr m.2.2

/-- The identity check of `connect_device`, after the connect RPC. -/
def checkIdentity (deviceId : String) (spec : ConnectCheckSpec) (connected : Entries) :
    Operation Entries := do
  let identityResp ← callDeviceRpc lang deviceId "identity"
  if !deviceRpcStatusOk identityResp then
    connectCheckFailedResponse lang deviceId spec
      ("connect_check failed: identity RPC failed: " ++ deviceRpcErrorText identityResp)
      [("device_id",.str deviceId),("identity_error",getD identityResp "error" .none)]
  else
    match getD identityResp "result" .none with
    | .dict attr identity =>
      match mismatches lang spec identity with
      | [] => pure connected
      | m :: rest =>
        connectCheckFailedResponse lang deviceId spec (mismatchMessage lang deviceId m)
          [("device_id",.str deviceId),
            ("checks",.list ((m :: rest).map fun m => .dict false
              [("field",.str m.1),("expected",m.2.1),("actual",m.2.2)])),
            ("identity",.dict attr identity)]
    | other =>
      connectCheckFailedResponse lang deviceId spec
        "connect_check failed: identity RPC must return an object/dict"
        [("device_id",.str deviceId),("actual_type",.str (typeName other))]

def connectDevice (deviceId : String) : Operation Entries := do
  let spec ← requireRunningDriver lang devices deviceId
  let connectResp ← callDeviceRpc lang deviceId "connect_device"
  let ok := deviceRpcStatusOk connectResp
  if !ok && !saysAlreadyConnected lang connectResp then pure connectResp
  else
    let connected : Entries := if ok then connectResp
      else [("status",.str "OK"),("result",.none),("already_connected",.bool true)]
    if spec.enabled then checkIdentity lang deviceId spec connected else pure connected

def disconnectDevice (deviceId : String) : Operation Entries := do
  let _ ← requireRunningDriver lang devices deviceId
  callDeviceRpc lang deviceId "disconnect_device"

/-- `connect_all_devices`, over the devices that have an endpoint by then. -/
def connectAllDevices : List String → Operation (List (String × Entries))
  | [] => pure []
  | deviceId :: rest => do
    if ← Dialogue.flip then
      let result ← Dialogue.attempt (connectDevice lang devices deviceId)
      let results ← connectAllDevices rest
      match result with
      | .ok resp => pure ((deviceId,resp) :: results)
      | .error exc => pure ((deviceId,[("status",.str "ERROR"),("error",.str exc),
          ("error_code",.str "connect_failed")]) :: results)
    else connectAllDevices rest

/-- `_run_auto_connect`, at a registration or a recovery; the device may be gone by then, or the
driver another one. -/
def runAutoConnect (deviceId : String) : Operation Unit := do
  if ← Dialogue.flip then
    let _ ← Dialogue.attempt (connectDevice lang devices deviceId)
    pure ()
  else pure ()

def reconnect (deviceId : String) : Operation Unit := do
  let _ ← Dialogue.attempt (do
    if ← Dialogue.flip then
      let _ ← callDeviceRpc lang deviceId "disconnect_device"
      pure ()
    else .raise "driver heartbeat became stale during auto-reconnect")
  if ← Dialogue.flip then
    let resp ← callDeviceRpc lang deviceId "connect_device"
    if deviceRpcStatusOk resp then pure () else .raise (deviceRpcErrorText resp)
  else .raise "driver heartbeat became stale during auto-reconnect"

/-- `_run_auto_reconnect`; the trigger may have gone by then. -/
def runAutoReconnect (deviceId : String) : Operation Unit := do
  if ← Dialogue.flip then
    let _ ← Dialogue.attempt (reconnect lang deviceId)
    pure ()
  else pure ()

/-- The RPCs of `recover_device`; the connect is left to the registration of the new driver. -/
def recoverDevice (deviceId : String) : Operation Unit := do
  let _ ← Dialogue.attempt (disconnectDevice lang devices deviceId)
  pure ()

/-- The operations of the manager that issue RPCs to the drivers. -/
inductive Kind where
  | connect (deviceId : String)
  | disconnect (deviceId : String)
  | connectAll
  | autoConnect (deviceId : String)
  | recover (deviceId : String)
  | autoReconnect (deviceId : String)
  | command (deviceId action : String)
  deriving DecidableEq

def Kind.body : Kind → Operation Unit
  | .connect id => do
    let _ ← connectDevice lang devices id
    pure ()
  | .disconnect id => do
    let _ ← disconnectDevice lang devices id
    pure ()
  | .connectAll => do
    let _ ← connectAllDevices lang devices devices.keys
    pure ()
  | .autoConnect id => runAutoConnect lang devices id
  | .recover id => recoverDevice lang devices id
  | .autoReconnect id => runAutoReconnect lang id
  | .command id action => do
    let _ ← callDeviceRpc lang id action
    pure ()

end

abbrev Exchange := Rpc × Answer

def OkConnect (e : Exchange) (deviceId : String) : Prop :=
  ∃ resp, e = (⟨deviceId,"connect_device"⟩,.reply resp) ∧ deviceRpcStatusOk resp = true

/-- The reply to an identity RPC, in which every configured field is as it should be. -/
def Matched (lang : Lang) (spec : ConnectCheckSpec) (resp : Entries) : Prop :=
  deviceRpcStatusOk resp = true ∧ ∃ attr identity, getD resp "result" .none = .dict attr identity ∧
    ∀ f ∈ spec.identity, lang.ne (getD identity f.1 .none) f.2 = false

/-- An identity RPC got its reply, and a disconnect RPC was sent. -/
def Heard (e : Exchange) : Prop :=
  (e.1.action = "identity" → ∃ resp, e.2 = .reply resp) ∧
    (e.1.action = "disconnect_device" → e.2 ≠ .unregistered)

section
variable (lang : Lang) (devices : OrderedDict String ConnectCheckSpec)

/-- A device whose identity is checked, and that is disconnected when it is another one. -/
def Checked (deviceId : String) (spec : ConnectCheckSpec) : Prop :=
  devices.get? deviceId = some spec ∧ spec.enabled = true ∧ spec.onFail = "disconnect"

def Answered (deviceId : String) (spec : ConnectCheckSpec) (post : List Exchange) : Prop :=
  (∃ resp, (⟨deviceId,"identity"⟩,.reply resp) ∈ post ∧ Matched lang spec resp) ∨
    ∃ a, a ≠ .unregistered ∧ (⟨deviceId,"disconnect_device"⟩,a) ∈ post

/-- No connect that has succeeded is left without its check. -/
def Settled : List Exchange → Prop
  | [] => True
  | e :: post => (∀ id spec, OkConnect e id → Checked devices id spec →
      Answered lang id spec post) ∧ Settled post

/-- After a connect that has succeeded, nothing keeps the operation from its check. -/
def Undisturbed : List Exchange → Prop
  | [] => True
  | e :: post => (∀ id spec, OkConnect e id → Checked devices id spec →
      ∀ f ∈ post, f.1.deviceId = id → Heard f) ∧ Undisturbed post

/-- No connect of a checked device succeeds in an operation that does not look at identities. -/
def Kind.Undisturbed : Kind → List Exchange → Prop
  | .autoReconnect _,tr | .command _ _,tr =>
    ∀ e ∈ tr, ∀ id spec, OkConnect e id → ¬ Checked devices id spec
  | .connect _,tr | .disconnect _,tr | .connectAll,tr | .autoConnect _,tr | .recover _,tr =>
    Connects.Undisturbed devices tr

variable {lang devices} {tr tr' post : List Exchange} {id : String} {spec : ConnectCheckSpec}

theorem Answered.mono (h : Answered lang id spec tr) (hsub : ∀ e ∈ tr, e ∈ tr') :
    Answered lang id spec tr' := by
  rcases h with ⟨resp,hmem,hm⟩ | ⟨a,ha,hmem⟩
  · exact .inl ⟨resp,hsub _ hmem,hm⟩
  · exact .inr ⟨a,ha,hsub _ hmem⟩

theorem Settled.append (h : Settled lang devices tr) (h' : Settled lang devices tr') :
    Settled lang devices (tr ++ tr') := by
  induction tr with
  | nil => exact h'
  | cons e rest ih =>
    refine ⟨fun id spec he hc => ?_,ih h.2⟩
    exact (h.1 id spec he hc).mono fun f hf => by simp [hf]

theorem Undisturbed.append (h : Undisturbed devices (tr ++ tr')) :
    Undisturbed devices tr ∧ Undisturbed devices tr' := by
  induction tr with
  | nil => exact ⟨trivial,h⟩
  | cons e rest ih =>
    have hrest := ih h.2
    exact ⟨⟨fun id spec he hc f hf hid => h.1 id spec he hc f (by simp [hf]) hid,hrest.1⟩,hrest.2⟩

theorem settled_of_no_connect (h : ∀ e ∈ tr, ∀ id spec, OkConnect e id →
    ¬ Checked devices id spec) : Settled lang devices tr := by
  induction tr with
  | nil => trivial
  | cons e rest ih =>
    refine ⟨fun id spec he hc => absurd hc (h e (by simp) id spec he),?_⟩
    exact ih fun f hf => h f (by simp [hf])

variable {e : Exchange}

theorem Settled.answered {pre : List Exchange}
    (h : Settled lang devices (pre ++ e :: post)) (he : OkConnect e id)
    (hc : Checked devices id spec) : Answered lang id spec post := by
  induction pre with
  | nil => exact h.1 id spec he hc
  | cons f rest ih => exact ih h.2

/-- What `connect_device` promises of its RPCs, when others have gone before them. -/
def Good (lang : Lang) (devices : OrderedDict String ConnectCheckSpec) (tr : List Exchange) : Prop :=
  Undisturbed devices tr → Settled lang devices tr

theorem Good.append (h : Good lang devices tr) (h' : Good lang devices tr') :
    Good lang devices (tr ++ tr') := fun hu =>
  (h hu.append.1).append (h' hu.append.2)

theorem good_of_no_connect (h : ∀ e ∈ tr, ∀ id, ¬ OkConnect e id) : Good lang devices tr :=
  fun _ => settled_of_no_connect fun e he id _ hok => absurd hok (h e he id)

theorem not_okConnect (h : e.1.action ≠ "connect_device") (id : String) : ¬ OkConnect e id := by
  rintro ⟨resp,rfl,-⟩
  exact h rfl

structure Closing (lang : Lang) (id : String) (spec : ConnectCheckSpec) (post : List Exchange) :
    Prop where
  quiet : ∀ e ∈ post, e.1.action ≠ "connect_device"
  answered : spec.onFail = "disconnect" → (∀ f ∈ post, f.1.deviceId = id → Heard f) →
    Answered lang id spec post

theorem Closing.good {a : Answer} (h : Closing lang id spec post)
    (hget : devices.get? id = some spec) :
    Good lang devices ((⟨id,"connect_device"⟩,a) :: post) := by
  rintro ⟨hheard,-⟩
  refine ⟨fun id' spec' hok hc => ?_,settled_of_no_connect fun e he id' _ hok =>
    absurd hok (not_okConnect (h.quiet e he) id')⟩
  have hid : id' = id := by
    obtain ⟨resp,heq,-⟩ := hok
    cases heq
    rfl
  subst hid
  have hspec : spec' = spec := by
    have := hc.1
    rw [hget] at this
    cases this
    rfl
  subst hspec
  exact h.answered hc.2.2 (hheard id' spec' hok hc)

theorem sat_callDeviceRpc {Q : List Exchange → Except String Entries → Prop} {action : String}
    (hreply : ∀ resp, Q (tr ++ [(⟨id,action⟩,.reply resp)]) (.ok resp))
    (hnone : ∀ a, (∀ resp, a ≠ .reply resp) → ∀ e, Q (tr ++ [(⟨id,action⟩,a)]) (.error e)) :
    Dialogue.Sat Q tr (callDeviceRpc lang id action) := by
  refine .bind (.ask fun a => ?_)
  cases a with
  | reply resp => exact .pure (hreply resp)
  | raised exc => exact .raise (hnone _ (by simp) _)
  | unregistered => exact .raise (hnone _ (by simp) _)

theorem sat_disconnect {Q : List Exchange → Except String Entries → Prop}
    (h : ∀ a r, Q (tr ++ [(⟨id,"disconnect_device"⟩,a)]) r) :
    Dialogue.Sat Q tr (callDeviceRpc lang id "disconnect_device") :=
  sat_callDeviceRpc (fun _ => h _ _) fun a _ _ => h a _

theorem sat_connectCheckFailed (message : String) (details : Entries) :
    Dialogue.Sat (fun tr' _ => (∃ a, tr' = tr ++ [(⟨id,"disconnect_device"⟩,a)]) ∨
      (spec.onFail ≠ "disconnect" ∧ tr' = tr)) tr
      (connectCheckFailedResponse lang id spec message details) := by
  unfold connectCheckFailedResponse
  by_cases h : spec.onFail = "keep_connected"
  · simp only [h,ne_eq,not_true_eq_false,if_false]
    exact .inr ⟨by decide,rfl⟩
  · simp only [h,ne_eq,not_false_eq_true,if_true]
    refine .bind (.attempt (sat_disconnect fun a _ => ?_))
    exact .inl ⟨a,rfl⟩

theorem closing_of_failed {i : Answer}
    (h : (∃ a, tr' = tr ++ [(⟨id,"identity"⟩,i)] ++ [(⟨id,"disconnect_device"⟩,a)]) ∨
      (spec.onFail ≠ "disconnect" ∧ tr' = tr ++ [(⟨id,"identity"⟩,i)])) :
    ∃ post, tr' = tr ++ post ∧ Closing lang id spec post := by
  rcases h with ⟨a,rfl⟩ | ⟨hne,rfl⟩
  · refine ⟨[(⟨id,"identity"⟩,i),(⟨id,"disconnect_device"⟩,a)],by simp,?_,fun _ hheard => ?_⟩
    · simp
    · exact .inr ⟨a,(hheard (⟨id,"disconnect_device"⟩,a) (by simp) rfl).2 rfl,by simp⟩
  · exact ⟨_,rfl,by simp,fun heq => absurd heq hne⟩

theorem sat_checkIdentity (connected : Entries) :
    Dialogue.Sat (fun tr' _ => ∃ post, tr' = tr ++ post ∧ Closing lang id spec post) tr
      (checkIdentity lang id spec connected) := by
  unfold checkIdentity
  refine .bind (sat_callDeviceRpc (fun resp => ?_) fun a ha e => ?_)
  · refine .ite (fun _ => ?_) fun hok => ?_
    · exact (sat_connectCheckFailed _ _).mono fun tr' _ h => closing_of_failed h
    · split
      · rename_i attr identity hresult
        cases hmis : mismatches lang spec identity with
        | nil =>
          refine .pure ⟨_,rfl,by simp,fun _ _ => .inl ⟨resp,by simp,by simpa using hok,attr,
            identity,hresult,fun f hf => ?_⟩⟩
          have hnone := filterMap_eq_nil_iff.1 hmis f hf
          simpa using hnone
        | cons m rest => exact (sat_connectCheckFailed _ _).mono fun tr' _ h => closing_of_failed h
      · exact (sat_connectCheckFailed _ _).mono fun tr' _ h => closing_of_failed h
  · refine ⟨_,rfl,by simp,fun _ hheard => ?_⟩
    obtain ⟨resp,hresp⟩ := (hheard _ (mem_singleton.2 rfl) rfl).1 rfl
    exact absurd hresp (ha resp)

theorem sat_requireRunningDriver {Q : List Exchange → Except String ConnectCheckSpec → Prop}
    (hok : ∀ spec, devices.get? id = some spec → Q tr (.ok spec)) (herr : ∀ e, Q tr (.error e)) :
    Dialogue.Sat Q tr (requireRunningDriver lang devices id) := by
  unfold requireRunningDriver
  cases hget : devices.get? id with
  | none => exact .raise (herr _)
  | some spec =>
    refine .bind (.flip fun running => ?_)
    exact .ite (fun _ => .pure (hok spec hget)) fun _ => .raise (herr _)

theorem sat_connectDevice (htr : Good lang devices tr) :
    Dialogue.Sat (fun tr' _ => Good lang devices tr') tr (connectDevice lang devices id) := by
  -- a connect that did not succeed has nothing to be checked
  have hfailed : ∀ a, (∀ resp, a = .reply resp → deviceRpcStatusOk resp = false) →
      Good lang devices (tr ++ [(⟨id,"connect_device"⟩,a)]) := by
    intro a ha
    refine htr.append (good_of_no_connect fun e he id' hok => ?_)
    obtain ⟨resp,rfl,hresp⟩ := hok
    obtain ⟨-,heq⟩ := mk.inj (mem_singleton.1 he)
    rw [ha resp heq.symm] at hresp
    cases hresp
  unfold connectDevice
  refine .bind (sat_requireRunningDriver (fun spec hget => ?_) fun _ => htr)
  refine .bind (sat_callDeviceRpc (fun resp => ?_) fun a ha _ => hfailed a fun resp heq =>
    absurd heq (ha resp))
  refine .ite (fun hnot => .pure (hfailed _ fun resp' heq => ?_)) fun _ => .ite (fun _ => ?_) ?_
  · cases heq
    simp only [Bool.and_eq_true,Bool.not_eq_true'] at hnot
    exact hnot.1
  · refine (sat_checkIdentity _).mono fun tr' _ h => ?_
    obtain ⟨post,rfl,hpost⟩ := h
    rw [append_assoc]
    exact htr.append (hpost.good hget)
  · intro hdisabled
    refine .pure (htr.append fun _ => settled_of_no_connect fun e he id' spec' hok hc => ?_)
    rw [mem_singleton] at he
    obtain ⟨resp',heq,-⟩ := hok
    rw [he] at heq
    cases heq
    have hspec := hc.1
    rw [hget] at hspec
    cases hspec
    exact hdisabled hc.2.1

theorem sat_connectAll (ids : List String) (htr : Good lang devices tr) :
    Dialogue.Sat (fun tr' _ => Good lang devices tr') tr (connectAllDevices lang devices ids) := by
  induction ids generalizing tr with
  | nil => exact htr
  | cons id rest ih =>
    refine .bind (.flip fun registered => .ite (fun _ => ?_) fun _ => ih htr)
    refine .bind (.attempt ((sat_connectDevice htr).mono fun tr₁ result h₁ => ?_))
    refine .bind ((ih h₁).mono fun tr₂ r h₂ => ?_)
    cases r with
    | error e => exact h₂
    | ok results =>
      cases result with
      | ok resp => exact h₂
      | error exc => exact h₂

theorem sat_disconnectDevice (htr : Good lang devices tr) :
    Dialogue.Sat (fun tr' _ => Good lang devices tr') tr (disconnectDevice lang devices id) :=
  .bind (sat_requireRunningDriver (fun _ _ => sat_disconnect fun a _ =>
    htr.append (good_of_no_connect fun e he id' => not_okConnect (by
      rw [mem_singleton.1 he]
      simp) id')) fun _ => htr)

theorem sat_body (kind : Kind) :
    Dialogue.Sat (fun tr _ => kind.Undisturbed devices tr → Settled lang devices tr) []
      (kind.body lang devices) := by
  have hnil : Good lang devices [] := fun _ => trivial
  cases kind with
  | connect id =>
    refine .bind ((sat_connectDevice hnil).mono fun tr r h => ?_)
    cases r with
    | ok resp => exact h
    | error e => exact h
  | disconnect id =>
    refine .bind ((sat_disconnectDevice hnil).mono fun tr r h => ?_)
    cases r with
    | ok resp => exact h
    | error e => exact h
  | connectAll =>
    refine .bind ((sat_connectAll devices.keys hnil).mono fun tr r h => ?_)
    cases r with
    | ok results => exact h
    | error e => exact h
  | autoConnect id =>
    refine .bind (.flip fun current => .ite (fun _ => ?_) fun _ => hnil)
    exact .bind (.attempt ((sat_connectDevice hnil).mono fun tr _ h => h))
  | recover id =>
    exact .bind (.attempt ((sat_disconnectDevice hnil).mono fun tr _ h => h))
  | autoReconnect id =>
    exact .all (fun tr _ h => settled_of_no_connect h) _
  | command id action =>
    refine .bind (sat_callDeviceRpc (fun resp h => ?_) fun a _ _ h => ?_)
    · exact settled_of_no_connect h
    · exact settled_of_no_connect h

theorem trace_split {s : Crowd Kind Rpc Answer String} {i : Nat}
    {pre post : List (Nat × Exchange)} (h : s.log = pre ++ (i,e) :: post) :
    s.trace i = ((pre.filter fun e => e.1 = i).map snd) ++
      e :: ((post.filter fun e => e.1 = i).map snd) := by
  simp [Crowd.trace,h]

/-- Whatever the operations of the manager do at the same time, one that has ended and that was not
kept from its check has left no device connected whose identity is not the configured one. -/
theorem connects_are_checked {s : Crowd Kind Rpc Answer String}
    (hs : Crowd.Reachable (Kind.body lang devices) s) {i : Nat} {kind : Kind}
    (hi : s.Completed i kind) (hu : kind.Undisturbed devices (s.trace i))
    {pre post : List (Nat × Exchange)} {resp : Entries}
    (hlog : s.log = pre ++ (i,⟨id,"connect_device"⟩,.reply resp) :: post)
    (hok : deviceRpcStatusOk resp = true) (hc : Checked devices id spec) :
    (∃ resp', (i,⟨id,"identity"⟩,.reply resp') ∈ post ∧ Matched lang spec resp') ∨
      ∃ j a, a ≠ .unregistered ∧ (j,⟨id,"disconnect_device"⟩,a) ∈ post := by
  obtain ⟨-,hsettled⟩ := hs.completed sat_body hi
  have hsettled := hsettled hu
  rw [trace_split hlog] at hsettled
  have hmem : ∀ e, e ∈ (post.filter fun e => e.1 = i).map snd → (i,e) ∈ post := by
    intro e he
    obtain ⟨⟨j,e'⟩,hfilter,rfl⟩ := mem_map.1 he
    obtain ⟨hpost,hj⟩ := mem_filter.1 hfilter
    obtain rfl : j = i := of_decide_eq_true hj
    exact hpost
  rcases hsettled.answered ⟨resp,rfl,hok⟩ hc with ⟨resp',hresp,hm⟩ | ⟨a,ha,hdisc⟩
  · exact .inl ⟨resp',hmem _ hresp,hm⟩
  · exact .inr ⟨i,a,ha,hmem _ hdisc⟩

end

def checkedDevices : OrderedDict String ConnectCheckSpec :=
  OrderedDict.empty.set "laser" { enabled := true,identity := [("serial",.str "A")] }

def plainLang : Lang where
  repr _ := ""
  ne a b := a ≠ b

def okReply : Answer := .reply [("status",.str "OK")]

def identityReply (serial : String) : Answer :=
  .reply [("status",.str "OK"),("result",.dict false [("serial",.str serial)])]

theorem connects_are_checked_swapped :
    (∃ resp', (0,(⟨"laser","identity"⟩ : Rpc),Answer.reply resp') ∈
        [(0,⟨"laser","identity"⟩,identityReply "B"),(0,⟨"laser","disconnect_device"⟩,okReply)] ∧
        Matched plainLang { enabled := true,identity := [("serial",.str "A")] } resp') ∨
      ∃ (j : Nat) (a : Answer), a ≠ .unregistered ∧ (j,(⟨"laser","disconnect_device"⟩ : Rpc),a) ∈
        [(0,⟨"laser","identity"⟩,identityReply "B"),
          (0,⟨"laser","disconnect_device"⟩,okReply)] := by
  have hplay : (Crowd.play (Kind.body plainLang checkedDevices) [.begins (.connect "laser"),
      .chooses 0 true,.answers 0 okReply,.answers 0 (identityReply "B"),.answers 0 okReply]
      {}).map Crowd.seen = some ([(.connect "laser",true)],
        [(0,⟨"laser","connect_device"⟩,okReply),(0,⟨"laser","identity"⟩,identityReply "B"),
          (0,⟨"laser","disconnect_device"⟩,okReply)]) := by decide +kernel
  obtain ⟨s,hs,hseen⟩ := Option.map_eq_some_iff.1 hplay
  have hlog : s.log = [] ++ (0,⟨"laser","connect_device"⟩,okReply) ::
      [(0,⟨"laser","identity"⟩,identityReply "B"),(0,⟨"laser","disconnect_device"⟩,okReply)] :=
    congrArg snd hseen
  have hreach : Crowd.Reachable (Kind.body plainLang checkedDevices) s :=
    Crowd.Reachable.play .refl hs
  have hdone : s.Completed 0 (.connect "laser") := Crowd.completed_of_seen (by rw [hseen]; rfl)
  have hundisturbed : (Kind.connect "laser").Undisturbed checkedDevices (s.trace 0) := by
    simp [Crowd.trace,hlog,Kind.Undisturbed,Undisturbed,Heard,OkConnect,okReply,identityReply]
  exact connects_are_checked hreach hdone hundisturbed hlog (by decide +kernel)
    ⟨by decide +kernel,rfl,rfl⟩

/-- An auto-reconnect attempt succeeds and asks for no identity; an operator's connect succeeds, the
identity RPC is not answered, and the device stays connected. -/
theorem connect_unchecked : (∃ s : Crowd Kind Rpc Answer String,
      Crowd.Reachable (Kind.body plainLang checkedDevices) s ∧
      s.Completed 0 (.autoReconnect "laser") ∧ s.log = [(0,⟨"laser","disconnect_device"⟩,okReply),
        (0,⟨"laser","connect_device"⟩,okReply)] ∧ ¬ Settled plainLang checkedDevices (s.trace 0)) ∧
    ∃ s : Crowd Kind Rpc Answer String,
      Crowd.Reachable (Kind.body plainLang checkedDevices) s ∧ s.Completed 0 (.connect "laser") ∧
      s.log = [(0,⟨"laser","connect_device"⟩,okReply),
        (0,⟨"laser","identity"⟩,.raised "Resource temporarily unavailable")] ∧
      ¬ Settled plainLang checkedDevices (s.trace 0) := by
  have hok : OkConnect (⟨"laser","connect_device"⟩,okReply) "laser" := ⟨_,rfl,by decide +kernel⟩
  have hc : Checked checkedDevices "laser" { enabled := true,identity := [("serial",.str "A")] } :=
    ⟨by decide +kernel,rfl,rfl⟩
  constructor
  · have hplay : (Crowd.play (Kind.body plainLang checkedDevices) [.begins (.autoReconnect "laser"),
        .chooses 0 true,.chooses 0 true,.answers 0 okReply,.chooses 0 true,.answers 0 okReply]
        {}).map Crowd.seen = some ([(.autoReconnect "laser",true)],
          [(0,⟨"laser","disconnect_device"⟩,okReply),
            (0,⟨"laser","connect_device"⟩,okReply)]) := by decide +kernel
    obtain ⟨s,hs,hseen⟩ := Option.map_eq_some_iff.1 hplay
    have hlog : s.log = [(0,⟨"laser","disconnect_device"⟩,okReply)] ++
        [(0,⟨"laser","connect_device"⟩,okReply)] := congrArg snd hseen
    refine ⟨s,Crowd.Reachable.play .refl hs,Crowd.completed_of_seen (by rw [hseen]; rfl),hlog,?_⟩
    intro hsettled
    rw [trace_split hlog] at hsettled
    have hnone := hsettled.answered hok hc
    simp [Answered] at hnone
  · have hplay : (Crowd.play (Kind.body plainLang checkedDevices) [.begins (.connect "laser"),
        .chooses 0 true,.answers 0 okReply,
        .answers 0 (.raised "Resource temporarily unavailable")] {}).map Crowd.seen =
        some ([(.connect "laser",true)],[(0,⟨"laser","connect_device"⟩,okReply),
          (0,⟨"laser","identity"⟩,.raised "Resource temporarily unavailable")]) := by
      decide +kernel
    obtain ⟨s,hs,hseen⟩ := Option.map_eq_some_iff.1 hplay
    have hlog : s.log = [] ++ (0,⟨"laser","connect_device"⟩,okReply) ::
        [(0,⟨"laser","identity"⟩,.raised "Resource temporarily unavailable")] :=
      congrArg snd hseen
    refine ⟨s,Crowd.Reachable.play .refl hs,Crowd.completed_of_seen (by rw [hseen]; rfl),hlog,?_⟩
    intro hsettled
    rw [trace_split hlog] at hsettled
    have hnone := hsettled.answered hok hc
    simp [Answered] at hnone

end ExperimentControl.Supervision.Connects

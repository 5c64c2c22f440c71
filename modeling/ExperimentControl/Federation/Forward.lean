import ExperimentControl.Federation.Relay
import ExperimentControl.Router.Dispatch

/-!
The hub's side of a request for a mirror (`federation/hub.py`, `_manager/internal_rpc.py`): whether
it is forwarded to the peer, and as what.
-/

namespace ExperimentControl.Federation
open Python

def mirroredLifecycleTypes : List String :=
  ["device.connect","device.disconnect","device.driver.start","device.driver.stop",
    "device.driver.restart","device.recover"]

/-- `_process_mirrors.get(process_id)` -/
def processMirror? (config : Peers) (localId : String) : Option Mirror :=
  (processMirrors config).find? fun mirror => mirror.localId = localId

def withPeer (config : Peers) (mirror : Mirror) : Option (Mirror × FederationPeerConfig) :=
  (config.peers.find? fun peer => peer.peerId = mirror.peerId).map fun peer => (mirror,peer)

/-- What becomes of a request: the hub does not take it, answers it, or gives it to a worker. -/
inductive Forwarding where
  | declined
  | denied (message : String)
  | submit (mirror : Mirror) (peer : FederationPeerConfig) (outbound : Entries)

/-- Of `int` the hop count needs that it leaves integers alone. -/
structure Builtins extends Router.Builtins where
  toInt_int : ∀ n, toInt (.int n) = .ok n

def Builtins.digits : Builtins where
  repr := Conversions.digits.repr
  eq v w := v = w
  none_eq v h := by simpa using Ne.symm h
  upper := id
  toInt := Conversions.digits.toInt
  safeJson _ := ""
  toInt_int _ := rfl

section
variable (b : Builtins)

/-- `int(raw.get("hop_count", 0))`, and 0 where that is no number -/
def hopCount : Value → Int
  | .dict _ raw => ((b.toInt (getD raw "hop_count" (.int 0))).toOption).getD 0
  | _ => 0

theorem hasHopped_iff (raw : Value) : Router.hasHopped b.toBuiltins raw = true ↔ 0 < hopCount b raw := by
  cases raw with
  | dict attr entries =>
    simp only [Router.hasHopped,hopCount]
    cases b.toInt (getD entries "hop_count" (.int 0)) with
    | ok n => simp [Except.toOption]
    | error e => simp [Except.toOption]
  | none | bool _ | int _ | float _ | str _ | list _ => simp [Router.hasHopped,hopCount]

def nextFederationMeta (instanceId : String) (raw : Value) : Value :=
  .dict false [("origin_instance_id",.str instanceId),("hop_count",.int (hopCount b raw+1))]

variable (fnmatchcase : String → String → Bool) (config : Peers) (instanceId : String)

def actionOf (req : Entries) : String := (getD req "action" (.str "")).text b.repr

def deviceRequestAllowed (policy : FederationPolicy) (rtype : String) (req : Entries) : Bool :=
  if rtype = "command" then policy.allowsDeviceAction fnmatchcase (actionOf b req)
  else policy.allowLifecycleOps

def outboundFor (field : String) (mirror : Mirror) (req : Entries) : Entries :=
  setItem (setItem req field (.str mirror.remoteId)) "federation"
    (nextFederationMeta b instanceId (getKey req "federation"))

def tryDispatchDeviceForward (req : Entries) (rtype deviceId : String) : Forwarding :=
  match (mirror? config deviceId).bind (withPeer config) with
  | none => .declined
  | some (mirror,peer) =>
    if rtype ≠ "command" ∧ rtype ∉ mirroredLifecycleTypes then .declined
    else if deviceRequestAllowed b fnmatchcase peer.policy rtype req then
      .submit mirror peer (outboundFor b instanceId "device_id" mirror req)
    else .denied (if rtype = "command" then
        "federation policy denied mirrored command " ++ b.repr (.str deviceId) ++ "." ++ actionOf b req
      else "federation policy denied mirrored lifecycle request " ++ b.repr (.str rtype))

def processActionAllowed (policy : FederationPolicy) (action : String) : Bool :=
  action = "process.capabilities" || policy.allowsProcessAction fnmatchcase action

def innerAction (req : Entries) : String :=
  match getKey req "request" with
  | .dict _ request => (getD request "type" (.str "")).text b.repr
  | _ => ""

def tryDispatchProcessForward (req : Entries) (processId : String) : Forwarding :=
  match (processMirror? config processId).bind (withPeer config) with
  | none => .declined
  | some (mirror,peer) =>
    if processActionAllowed fnmatchcase peer.policy (innerAction b req) then
      .submit mirror peer (outboundFor b instanceId "process_id" mirror req)
    else .denied ("federation policy denied mirrored process rpc " ++ b.repr (.str processId) ++ "." ++
      innerAction b req)

variable (localDevice localProcess : String → Bool)

/-- The first attempt of `_handle_internal_rpc`. The text of a type that is no text is none of those
that are forwarded. -/
def internalDeviceForward (req : Entries) : Forwarding :=
  match getKey req "type",getKey req "device_id" with
  | .str rtype,.str deviceId => if localDevice deviceId then .declined
    else tryDispatchDeviceForward b fnmatchcase config instanceId req rtype deviceId
  | _,_ => .declined

def internalProcessForward (req : Entries) : Forwarding :=
  match getKey req "type",getKey req "process_id" with
  | .str "manager.processes.rpc",.str processId => if localProcess processId then .declined
    else tryDispatchProcessForward b fnmatchcase config instanceId req processId
  | _,_ => .declined

def DeviceForwarded (req : Entries) (mirror : Mirror) (peer : FederationPeerConfig) : Prop :=
  ∃ rtype deviceId, getKey req "type" = .str rtype ∧ getKey req "device_id" = .str deviceId ∧
    localDevice deviceId = false ∧
    (mirror? config deviceId).bind (withPeer config) = some (mirror,peer) ∧
    (rtype = "command" ∨ rtype ∈ mirroredLifecycleTypes) ∧
    deviceRequestAllowed b fnmatchcase peer.policy rtype req = true

def ProcessForwarded (req : Entries) (mirror : Mirror) (peer : FederationPeerConfig) : Prop :=
  getKey req "type" = .str "manager.processes.rpc" ∧ ∃ processId, getKey req "process_id" = .str processId ∧
    localProcess processId = false ∧
    (processMirror? config processId).bind (withPeer config) = some (mirror,peer) ∧
    processActionAllowed fnmatchcase peer.policy (innerAction b req) = true

variable (req : Entries)

theorem tryDispatchDeviceForward_submit_iff (rtype deviceId : String)
    (mirror : Mirror) (peer : FederationPeerConfig) (outbound : Entries) :
    tryDispatchDeviceForward b fnmatchcase config instanceId req rtype deviceId =
        .submit mirror peer outbound ↔
      (mirror? config deviceId).bind (withPeer config) = some (mirror,peer) ∧
        (rtype = "command" ∨ rtype ∈ mirroredLifecycleTypes) ∧
        deviceRequestAllowed b fnmatchcase peer.policy rtype req = true ∧
        outbound = outboundFor b instanceId "device_id" mirror req := by
  unfold tryDispatchDeviceForward
  cases hmirror : (mirror? config deviceId).bind (withPeer config) with
  | none => simp
  | some found =>
    obtain ⟨m,p⟩ := found
    simp only [Option.some.injEq,Prod.mk.injEq]
    constructor
    · intro h
      split at h
      · cases h
      rename_i hkind
      split at h
      · rename_i hallow
        cases h
        exact ⟨⟨rfl,rfl⟩,by tauto,hallow,rfl⟩
      · cases h
    · rintro ⟨⟨rfl,rfl⟩,hkind,hallow,rfl⟩
      rw [if_neg (by tauto),if_pos hallow]

theorem tryDispatchProcessForward_submit_iff (processId : String) (mirror : Mirror)
    (peer : FederationPeerConfig) (outbound : Entries) :
    tryDispatchProcessForward b fnmatchcase config instanceId req processId =
        .submit mirror peer outbound ↔
      (processMirror? config processId).bind (withPeer config) = some (mirror,peer) ∧
        processActionAllowed fnmatchcase peer.policy (innerAction b req) = true ∧
        outbound = outboundFor b instanceId "process_id" mirror req := by
  unfold tryDispatchProcessForward
  cases hmirror : (processMirror? config processId).bind (withPeer config) with
  | none => simp
  | some found =>
    obtain ⟨m,p⟩ := found
    simp only [Option.some.injEq,Prod.mk.injEq]
    constructor
    · intro h
      split at h
      · rename_i hallow
        cases h
        exact ⟨⟨rfl,rfl⟩,hallow,rfl⟩
      · cases h
    · rintro ⟨⟨rfl,rfl⟩,hallow,rfl⟩
      rw [if_pos hallow]

theorem internalDeviceForward_submit_iff (mirror : Mirror)
    (peer : FederationPeerConfig) (outbound : Entries) :
    internalDeviceForward b fnmatchcase config instanceId localDevice req =
        .submit mirror peer outbound ↔
      DeviceForwarded b fnmatchcase config localDevice req mirror peer ∧
        outbound = outboundFor b instanceId "device_id" mirror req := by
  unfold internalDeviceForward DeviceForwarded
  constructor
  · intro h
    split at h
    · rename_i rtype deviceId htype hid
      split at h
      · cases h
      · rename_i hlocal
        obtain ⟨hmirror,hkind,hallow,hout⟩ :=
          (tryDispatchDeviceForward_submit_iff b fnmatchcase config instanceId _ _ _ _ _ _).1 h
        exact ⟨⟨rtype,deviceId,htype,hid,by simpa using hlocal,hmirror,hkind,hallow⟩,hout⟩
    · cases h
  · rintro ⟨⟨rtype,deviceId,htype,hid,hlocal,hmirror,hkind,hallow⟩,hout⟩
    rw [htype,hid]
    dsimp only
    rw [if_neg (by simp [hlocal]),tryDispatchDeviceForward_submit_iff]
    exact ⟨hmirror,hkind,hallow,hout⟩

theorem internalProcessForward_submit_iff (mirror : Mirror)
    (peer : FederationPeerConfig) (outbound : Entries) :
    internalProcessForward b fnmatchcase config instanceId localProcess req =
        .submit mirror peer outbound ↔
      ProcessForwarded b fnmatchcase config localProcess req mirror peer ∧
        outbound = outboundFor b instanceId "process_id" mirror req := by
  unfold internalProcessForward ProcessForwarded
  constructor
  · intro h
    split at h
    · rename_i processId htype hid
      split at h
      · cases h
      · rename_i hlocal
        obtain ⟨hmirror,hallow,hout⟩ :=
          (tryDispatchProcessForward_submit_iff b fnmatchcase config instanceId _ _ _ _ _).1 h
        exact ⟨⟨htype,processId,hid,by simpa using hlocal,hmirror,hallow⟩,hout⟩
    · cases h
  · rintro ⟨⟨htype,processId,hid,hlocal,hmirror,hallow⟩,hout⟩
    rw [htype,hid]
    change (if localProcess processId = true then .declined
      else tryDispatchProcessForward b fnmatchcase config instanceId req processId) = _
    rw [if_neg (by simp [hlocal]),tryDispatchProcessForward_submit_iff]
    exact ⟨hmirror,hallow,hout⟩

theorem outboundFor_hopCount (field : String) (mirror : Mirror) (req : Entries) :
    hopCount b (getKey (outboundFor b instanceId field mirror req) "federation") =
      hopCount b (getKey req "federation")+1 := by
  have hitem : getD [("origin_instance_id",Value.str instanceId),
      ("hop_count",.int (hopCount b (getKey req "federation")+1))] "hop_count" (.int 0) =
        .int (hopCount b (getKey req "federation")+1) := rfl
  simp only [outboundFor,getKey_setItem,if_true]
  rw [nextFederationMeta,hopCount,hitem,b.toInt_int]
  rfl

end

def lifecycleConfig : FederationConfig :=
  { laserConfig with
    peers := [{ laserPeer with policy := { allowLifecycleOps := true } }]
    peersOnce := by decide
    localsOnce := by decide }

end ExperimentControl.Federation

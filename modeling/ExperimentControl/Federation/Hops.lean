import ExperimentControl.Federation.Forward
import ExperimentControl.Lib.Runs

/-!
Requests between instances.
-/

namespace ExperimentControl.Federation
open Lib Python

structure Node where
  config : FederationConfig
  instanceId : String

/-- What else decides over a request when it comes in: what the router and the manager know at that
moment, and whether there is a worker with room for it. The routes of the router are made of the
configuration. -/
structure Surroundings where
  directory : Router.Directory
  identity : List UInt8
  stamp : String
  localDevice : String → Bool
  localProcess : String → Bool
  routerRoom : Bool
  deviceRoom : String → Bool
  processRoom : String → Bool

inductive Entrance where
  | router
  | manager
  deriving DecidableEq

section
variable (b : Builtins) (fnmatchcase : String → String → Bool) (node : Node)

/-- `_mirrored_routes`, of what `mirror_route_entries` lists -/
def mirroredRoute? (localId : String) : Option Router.MirroredRoute :=
  if node.config.enabled then
    ((mirror? node.config.toPeers localId).bind (withPeer node.config.toPeers)).map fun found =>
      ⟨found.1.localId,found.1.remoteId,found.2.policy.allowsDeviceAction fnmatchcase⟩
  else none

/-- `_next_federation_meta` of the router: an origin that is given is kept. -/
def routerFederationMeta (instanceId : String) (raw : Value) : Value :=
  let origin := match raw with
    | .dict _ entries => match getKey entries "origin_instance_id" with
      | .str s => if strip s = "" then instanceId else strip s
      | _ => instanceId
    | _ => instanceId
  .dict false [("origin_instance_id",.str origin),("hop_count",.int (hopCount b raw+1))]

/-- `_MirroredDeviceWorker._forward`: the endpoint of the peer, and what is sent there. -/
def routerForward (task : Router.MirroredTask) : Option (String × Entries) :=
  ((mirror? node.config.toPeers task.route.localId).bind (withPeer node.config.toPeers)).map
    fun found => (found.2.routerRpc,
      setItem (setItem task.request "device_id" (.str task.route.remoteDeviceId)) "federation"
        (routerFederationMeta b node.instanceId (getKey task.request "federation")))

def Forwarding.sent (room : String → Bool) : Forwarding → Option (String × Entries)
  | .submit mirror peer outbound =>
    if room mirror.localId then some (peer.routerRpc,outbound) else none
  | _ => none

def managerForward (env : Surroundings) (req : Entries) : Option (String × Entries) :=
  match internalDeviceForward b fnmatchcase node.config.toPeers node.instanceId env.localDevice req with
  | .declined => (internalProcessForward b fnmatchcase node.config.toPeers node.instanceId
      env.localProcess req).sent env.processRoom
  | forwarding => forwarding.sent env.deviceRoom

def sentByWorker (env : Surroundings) : Router.Dispatch → Option (String × Entries)
  | .submit _ (.mirrored task) _ _ _ => routerForward b node task
  | .submit _ (.manager task) _ _ _ =>
    managerForward b fnmatchcase node env (Router.stampRequest env.stamp task.request)
  | _ => none

def routerDirectory (env : Surroundings) : Router.Directory :=
  { env.directory with mirroredRoutes := mirroredRoute? fnmatchcase node }

/-- Where an instance sends a request that comes in, if it sends it to a peer. -/
def forward (env : Surroundings) (entrance : Entrance) (req : Entries) : Option (String × Entries) :=
  match entrance with
  | .manager => managerForward b fnmatchcase node env req
  | .router =>
    if env.routerRoom then
      sentByWorker b fnmatchcase node env (Router.handleExternalRpc b.toBuiltins
        (routerDirectory fnmatchcase node env) env.identity (.dict false req))
    else none

def HandedOn (env : Surroundings) (req : Entries) : Prop :=
  match getKey req "type" with
  | .str "command" => False
  | .str "manager.processes.rpc" => isMapping (getKey req "request") = true ∧
    ∃ processId, getKey req "process_id" = .str processId ∧ processId ≠ "" ∧
      Router.processRpcEndpoint env.directory processId = none
  | _ => True

/-- A request of the kinds that the hub forwards, for a mirror of a peer whose policy lets it through,
that finds a worker with room. -/
def Reexported (env : Surroundings) (entrance : Entrance) (req : Entries) : Prop :=
  (entrance = .router → env.routerRoom = true ∧ HandedOn env req) ∧ ∃ mirror peer,
    (DeviceForwarded b fnmatchcase node.config.toPeers env.localDevice req mirror peer ∧
      env.deviceRoom mirror.localId = true) ∨
    (ProcessForwarded b fnmatchcase node.config.toPeers env.localProcess req mirror peer ∧
      env.processRoom mirror.localId = true)

def SameButId (req req' : Entries) : Prop := ∀ key, key ≠ "request_id" → item? req' key = item? req key

theorem SameButId.refl (req : Entries) : SameButId req req := fun _ _ => rfl

variable {req req' : Entries}

section
variable (h : SameButId req req')
include h

theorem SameButId.setItem (v : Value) :
    SameButId req (setItem req' "request_id" v) := by
  intro key hkey
  rw [item?_setItem_ite,if_neg hkey,h key hkey]

theorem SameButId.stampRequest (stamp : String) :
    SameButId req (Router.stampRequest stamp req') := by
  unfold Router.stampRequest
  split
  · exact h
  · exact h.setItem _

theorem SameButId.get {k : String} (hkey : k ≠ "request_id") : getKey req' k = getKey req k := by
  rw [Python.getKey,Python.getKey,getD,getD,h k hkey]

theorem SameButId.deviceForwarded (config : Peers)
    (localDevice : String → Bool) (mirror : Mirror) (peer : FederationPeerConfig) :
    DeviceForwarded b fnmatchcase config localDevice req' mirror peer ↔
      DeviceForwarded b fnmatchcase config localDevice req mirror peer := by
  unfold DeviceForwarded deviceRequestAllowed actionOf
  simp only [h.get (k := "type") (by decide),h.get (k := "device_id") (by decide),getD,
    h "action" (by decide)]

theorem SameButId.processForwarded (config : Peers)
    (localProcess : String → Bool) (mirror : Mirror) (peer : FederationPeerConfig) :
    ProcessForwarded b fnmatchcase config localProcess req' mirror peer ↔
      ProcessForwarded b fnmatchcase config localProcess req mirror peer := by
  unfold ProcessForwarded innerAction
  simp only [h.get (k := "type") (by decide),h.get (k := "process_id") (by decide),
    h.get (k := "request") (by decide)]

end

variable {b} {dir : Router.Directory} {identity : List UInt8} {req : Entries}

def ToManager (d : Router.Dispatch) (request : Entries) : Prop :=
  ∃ key sender bucket message requestId,
    d = .submit key (.manager ⟨sender,request⟩) bucket message requestId

def ToMirror (d : Router.Dispatch) (task : Router.MirroredTask) : Prop :=
  ∃ key bucket message requestId, d = .submit key (.mirrored task) bucket message requestId

theorem dispatchManagerRpc_toManager (b : Builtins) (identity : List UInt8) (req : Entries) :
    ∃ request, ToManager (Router.dispatchManagerRpc b.toBuiltins identity req) request ∧
      SameButId req request := by
  refine ⟨_,⟨_,_,_,_,_,rfl⟩,?_⟩
  split
  · exact (SameButId.refl req).setItem _
  · exact SameButId.refl req

theorem dispatchDeviceCommand_mirrored {task : Router.MirroredTask}
    (h : ToMirror (Router.dispatchDeviceCommand b.toBuiltins dir identity req) task) :
    hopCount b (getKey req "federation") ≤ 0 ∧ task.request = req := by
  obtain ⟨key,bucket,message,requestId,h⟩ := h
  unfold Router.dispatchDeviceCommand at h
  dsimp only at h
  split at h
  · split at h
    · cases h
    · split at h
      · unfold Router.dispatchMirroredCommand at h
        dsimp only at h
        split at h
        · cases h
        · rename_i hhops
          split at h
          · cases h
          · cases h
            rw [hasHopped_iff] at hhops
            exact ⟨Int.not_lt.1 hhops,rfl⟩
      · cases h
  · cases h

theorem dispatchDeviceCommand_not_toManager (request : Entries) :
    ¬ToManager (Router.dispatchDeviceCommand b.toBuiltins dir identity req) request := by
  rintro ⟨key,sender,bucket,message,requestId,h⟩
  unfold Router.dispatchDeviceCommand at h
  dsimp only at h
  split at h
  · split at h
    · cases h
    · split at h
      · unfold Router.dispatchMirroredCommand at h
        dsimp only at h
        split at h
        · cases h
        · split at h <;> cases h
      · cases h
  · cases h

def Elsewhere (d : Router.Dispatch) : Prop :=
  (∀ request, ¬ToManager d request) ∧ ∀ task, ¬ToMirror d task

theorem elsewhere_respond (response requestId : Value) : Elsewhere (.respond response requestId) := by
  constructor
  · rintro request ⟨_,_,_,_,_,h⟩
    cases h
  · rintro task ⟨_,_,_,_,h⟩
    cases h

theorem elsewhere_raise (e : PyExc) : Elsewhere (.raise e) := by
  constructor
  · rintro request ⟨_,_,_,_,_,h⟩
    cases h
  · rintro task ⟨_,_,_,_,h⟩
    cases h

theorem elsewhere_process (key : Router.WorkerKey) (task : Router.ProcessTask)
    (bucket message : String) (requestId : Value) :
    Elsewhere (.submit key (.process task) bucket message requestId) := by
  constructor
  · rintro request ⟨_,_,_,_,_,h⟩
    cases h
  · rintro task ⟨_,_,_,_,h⟩
    cases h

theorem dispatchProcessRpc_cases {processId : String} (hid : getKey req "process_id" = .str processId) :
    (isMapping (getKey req "request") = true ∧ processId ≠ "" ∧
        Router.processRpcEndpoint dir processId = none ∧
        Router.dispatchProcessRpc b.toBuiltins dir identity req =
          Router.dispatchManagerRpc b.toBuiltins identity req) ∨
      (¬(isMapping (getKey req "request") = true ∧ processId ≠ "" ∧
        Router.processRpcEndpoint dir processId = none) ∧
        Elsewhere (Router.dispatchProcessRpc b.toBuiltins dir identity req)) := by
  have htext : (getD req "process_id" (.str "")).text b.repr = processId := by
    unfold Python.getKey getD at hid
    cases hitem : item? req "process_id" with
    | none => simp [hitem] at hid
    | some v =>
      rw [hitem,Option.getD_some] at hid
      simp [getD,hitem,hid,Value.text]
  have hget : ∀ v, CommandInterceptors.get req "request" = v → getKey req "request" = v := fun v h => h
  unfold Router.dispatchProcessRpc
  dsimp only
  rw [htext]
  cases hreq : CommandInterceptors.get req "request" with
  | dict attr request =>
    rw [hget _ hreq]
    dsimp only
    by_cases hempty : processId = ""
    · rw [if_pos hempty]
      exact .inr ⟨fun h => h.2.1 hempty,elsewhere_respond _ _⟩
    · rw [if_neg hempty]
      cases hend : Router.processRpcEndpoint dir processId with
      | none => exact .inl ⟨rfl,hempty,rfl,rfl⟩
      | some endpoint => exact .inr ⟨by simp,elsewhere_process _ _ _ _ _⟩
  | none | bool _ | int _ | float _ | str _ | list _ =>
    rw [hget _ hreq]
    exact .inr ⟨by simp [isMapping],elsewhere_respond _ _⟩

theorem dispatchProcessRpc_manager_or_elsewhere (b : Builtins) (dir : Router.Directory)
    (identity : List UInt8) (req : Entries) :
    Router.dispatchProcessRpc b.toBuiltins dir identity req =
        Router.dispatchManagerRpc b.toBuiltins identity req ∨
      Elsewhere (Router.dispatchProcessRpc b.toBuiltins dir identity req) := by
  unfold Router.dispatchProcessRpc
  dsimp only
  split
  · split
    · exact .inr (elsewhere_respond _ _)
    · split
      · exact .inl rfl
      · exact .inr (elsewhere_process _ _ _ _ _)
  · exact .inr (elsewhere_respond _ _)

theorem handleExternalRpc_cases (b : Builtins) (dir : Router.Directory) (identity : List UInt8)
    (attr : Bool) (req : Entries) :
    Elsewhere (Router.handleExternalRpc b.toBuiltins dir identity (.dict attr req)) ∨
    Router.handleExternalRpc b.toBuiltins dir identity (.dict attr req) =
        Router.dispatchManagerRpc b.toBuiltins identity req ∨
    Router.handleExternalRpc b.toBuiltins dir identity (.dict attr req) =
        Router.dispatchDeviceCommand b.toBuiltins dir identity req := by
  unfold Router.handleExternalRpc
  dsimp only
  split
  · exact .inl (elsewhere_raise _)
  · exact .inl (elsewhere_raise _)
  · exact .inr (.inr rfl)
  · rcases dispatchProcessRpc_manager_or_elsewhere b dir identity req with h | h
    · exact .inr (.inl h)
    · exact .inl h
  · split
    · exact .inl (elsewhere_respond _ _)
    · exact .inr (.inl rfl)
  · exact .inr (.inl rfl)

def ForwardableKind (req : Entries) : Prop :=
  (∃ rtype, getKey req "type" = .str rtype ∧ (rtype = "command" ∨ rtype ∈ mirroredLifecycleTypes)) ∨
    (getKey req "type" = .str "manager.processes.rpc" ∧
      ∃ processId, getKey req "process_id" = .str processId)

theorem DeviceForwarded.kind {config : Peers} {localDevice : String → Bool} {mirror : Mirror}
    {peer : FederationPeerConfig} (h : DeviceForwarded b fnmatchcase config localDevice req mirror peer) :
    ForwardableKind req := by
  obtain ⟨rtype,_,htype,_,_,_,hkind,_⟩ := h
  exact .inl ⟨rtype,htype,hkind⟩

theorem ProcessForwarded.kind {config : Peers} {localProcess : String → Bool} {mirror : Mirror}
    {peer : FederationPeerConfig} (h : ProcessForwarded b fnmatchcase config localProcess req mirror peer) :
    ForwardableKind req := by
  obtain ⟨htype,processId,hid,_⟩ := h
  exact .inr ⟨htype,processId,hid⟩

theorem handedOn_cases (b : Builtins) (dir : Router.Directory) (identity : List UInt8) (attr : Bool)
    {env : Surroundings} (hdir : ∀ processId, Router.processRpcEndpoint dir processId =
      Router.processRpcEndpoint env.directory processId) {req : Entries}
    (hkind : ForwardableKind req) :
    (HandedOn env req ∧ Router.handleExternalRpc b.toBuiltins dir identity (.dict attr req) =
        Router.dispatchManagerRpc b.toBuiltins identity req) ∨
      (¬HandedOn env req ∧ ∀ request, ¬ToManager
        (Router.handleExternalRpc b.toBuiltins dir identity (.dict attr req)) request) := by
  have hget : ∀ v, getKey req "type" = v → CommandInterceptors.get req "type" = v := fun v h => h
  rcases hkind with ⟨rtype,htype,rfl | hlife⟩ | ⟨htype,processId,hid⟩
  · refine .inr ⟨by simp [HandedOn,htype],?_⟩
    unfold Router.handleExternalRpc
    dsimp only
    rw [hget _ htype]
    exact dispatchDeviceCommand_not_toManager
  · refine .inl ?_
    simp only [mirroredLifecycleTypes,List.mem_cons,List.not_mem_nil,or_false] at hlife
    rcases hlife with rfl | rfl | rfl | rfl | rfl | rfl <;>
      simp [HandedOn,htype,Router.handleExternalRpc,hget _ htype,Router.interceptorRequests]
  · have hrouter : Router.handleExternalRpc b.toBuiltins dir identity (.dict attr req) =
        Router.dispatchProcessRpc b.toBuiltins dir identity req := by
      simp [Router.handleExternalRpc,hget _ htype]
    have hhanded : HandedOn env req ↔ isMapping (getKey req "request") = true ∧ processId ≠ "" ∧
        Router.processRpcEndpoint dir processId = none := by
      simp only [HandedOn,htype,hid,hdir,Value.str.injEq]
      refine and_congr_right fun _ => ⟨?_,fun h => ⟨_,rfl,h⟩⟩
      rintro ⟨_,he,h⟩
      exact he ▸ h
    rw [hhanded,hrouter]
    rcases @dispatchProcessRpc_cases b dir identity _ _ hid with
      ⟨h₁,h₂,h₃,heq⟩ | ⟨hnot,helse⟩
    · exact .inl ⟨⟨h₁,h₂,h₃⟩,heq⟩
    · exact .inr ⟨hnot,helse.1⟩

section
variable (b : Builtins) {fnmatchcase : String → String → Bool} {node : Node} {env : Surroundings}

variable {req : Entries}

theorem internalDeviceForward_of_process (fnmatchcase : String → String → Bool) (config : Peers)
    (instanceId : String) (localDevice : String → Bool)
    (htype : getKey req "type" = .str "manager.processes.rpc") :
    internalDeviceForward b fnmatchcase config instanceId localDevice req = .declined := by
  unfold internalDeviceForward
  rw [htype]
  split
  · rename_i rtype deviceId hrtype _
    obtain rfl := Value.str.inj hrtype
    split
    · rfl
    · unfold tryDispatchDeviceForward
      split
      · rfl
      · rw [if_pos (by decide)]
  · rfl

theorem Forwarding.sent_none_iff {forwarding : Forwarding}
    {forwarded : Mirror → FederationPeerConfig → Prop} {made : Mirror → Entries}
    (h : ∀ mirror peer outbound, forwarding = .submit mirror peer outbound ↔
      forwarded mirror peer ∧ outbound = made mirror) (room : String → Bool) :
    forwarding.sent room = none ↔
      ¬∃ mirror peer, forwarded mirror peer ∧ room mirror.localId = true := by
  constructor
  · rintro hnone ⟨mirror,peer,hforwarded,hroom⟩
    rw [(h mirror peer _).2 ⟨hforwarded,rfl⟩,Forwarding.sent,if_pos hroom] at hnone
    cases hnone
  · intro hnot
    cases forwarding with
    | submit mirror peer outbound =>
      have hforwarded := ((h mirror peer outbound).1 rfl).1
      rw [Forwarding.sent,if_neg fun hroom => hnot ⟨mirror,peer,hforwarded,hroom⟩]
    | denied message => rfl
    | declined => rfl

theorem managerForward_none_iff (req : Entries) :
    managerForward b fnmatchcase node env req = none ↔ ¬∃ mirror peer,
      (DeviceForwarded b fnmatchcase node.config.toPeers env.localDevice req mirror peer ∧
        env.deviceRoom mirror.localId = true) ∨
      (ProcessForwarded b fnmatchcase node.config.toPeers env.localProcess req mirror peer ∧
        env.processRoom mirror.localId = true) := by
  have hsubmit := internalDeviceForward_submit_iff b fnmatchcase node.config.toPeers node.instanceId
    env.localDevice req
  have hdevice := Forwarding.sent_none_iff hsubmit env.deviceRoom
  have hprocess := Forwarding.sent_none_iff (internalProcessForward_submit_iff b fnmatchcase
    node.config.toPeers node.instanceId env.localProcess req) env.processRoom
  unfold managerForward
  split
  · rename_i hd
    rw [hprocess]
    have hno : ∀ m p, ¬DeviceForwarded b fnmatchcase node.config.toPeers env.localDevice req m p := by
      intro m p h
      have hnow := (hsubmit m p _).2 ⟨h,rfl⟩
      rw [hd] at hnow
      cases hnow
    simp only [hno,false_and,false_or]
  · rename_i hd
    rw [hdevice]
    have hno : ∀ m p, ¬ProcessForwarded b fnmatchcase node.config.toPeers env.localProcess req m p :=
      fun m p h => hd (internalDeviceForward_of_process b _ _ _ _ h.1)
    simp only [hno,false_and,or_false]

theorem sentByWorker_manager {d : Router.Dispatch} {request : Entries} (h : ToManager d request) :
    sentByWorker b fnmatchcase node env d =
      managerForward b fnmatchcase node env (Router.stampRequest env.stamp request) := by
  obtain ⟨_,_,_,_,_,rfl⟩ := h
  rfl

theorem sentByWorker_elsewhere {d : Router.Dispatch} (h : Elsewhere d) :
    sentByWorker b fnmatchcase node env d = none := by
  unfold sentByWorker
  split
  · rename_i task _ _ _
    exact absurd ⟨_,_,_,_,rfl⟩ (h.2 task)
  · rename_i task _ _ _
    exact absurd ⟨_,_,_,_,_,rfl⟩ (h.1 task.request)
  · rfl

theorem forward_none_iff (entrance : Entrance) (hhops : 0 < hopCount b (getKey req "federation")) :
    forward b fnmatchcase node env entrance req = none ↔
      ¬Reexported b fnmatchcase node env entrance req := by
  cases entrance with
  | manager =>
    unfold forward Reexported
    rw [managerForward_none_iff]
    simp
  | router =>
    have hcases := @handedOn_cases b (routerDirectory fnmatchcase node env) env.identity false env
      (fun _ => rfl) req
    obtain ⟨request,hmanager,hsame⟩ := dispatchManagerRpc_toManager b env.identity req
    -- What the hub would send gets there, or is not handed on.
    have hgets : Reexported b fnmatchcase node env .router req →
        Router.handleExternalRpc b.toBuiltins (routerDirectory fnmatchcase node env) env.identity
          (.dict false req) = Router.dispatchManagerRpc b.toBuiltins env.identity req := by
      rintro ⟨hrouter,mirror,peer,hsent⟩
      rcases hcases (hsent.elim (·.1.kind) (·.1.kind)) with ⟨_,heq⟩ | ⟨hnot,_⟩
      · exact heq
      · exact absurd (hrouter rfl).2 hnot
    cases hroom : env.routerRoom with
    | false => simp [forward,Reexported,hroom]
    | true =>
      simp only [forward,hroom,if_true]
      have helsewhere : ∀ d, Elsewhere d → Router.handleExternalRpc b.toBuiltins
          (routerDirectory fnmatchcase node env) env.identity (.dict false req) = d →
          ¬Reexported b fnmatchcase node env .router req := by
        intro d hd heq hre
        rw [hgets hre] at heq
        exact hd.1 request (heq ▸ hmanager)
      rcases handleExternalRpc_cases b (routerDirectory fnmatchcase node env) env.identity false req
        with hd | heq | heq
      · exact iff_of_true (sentByWorker_elsewhere b hd) (helsewhere _ hd rfl)
      · rw [heq,sentByWorker_manager b hmanager,managerForward_none_iff]
        have hsame' := hsame.stampRequest env.stamp
        simp only [hsame'.deviceForwarded,hsame'.processForwarded]
        refine not_congr ⟨fun hsent => ⟨fun _ => ⟨hroom,?_⟩,hsent⟩,fun h => h.2⟩
        obtain ⟨mirror,peer,hsent⟩ := hsent
        rcases hcases (hsent.elim (·.1.kind) (·.1.kind)) with ⟨hhanded,_⟩ | ⟨_,hnot⟩
        · exact hhanded
        · exact absurd (heq ▸ hmanager) (hnot request)
      · have hd : Elsewhere (Router.dispatchDeviceCommand b.toBuiltins
            (routerDirectory fnmatchcase node env) env.identity req) := by
          refine ⟨dispatchDeviceCommand_not_toManager,fun task h => ?_⟩
          have hle := (dispatchDeviceCommand_mirrored h).1
          omega
        rw [heq]
        exact iff_of_true (sentByWorker_elsewhere b hd) (helsewhere _ hd heq)

variable {outbound : Entries} {endpoint : String}

theorem Forwarding.sent_hopCount {forwarding : Forwarding} {room : String → Bool}
    (h : ∀ mirror peer outbound, forwarding = .submit mirror peer outbound →
      hopCount b (getKey outbound "federation") = hopCount b (getKey req "federation")+1)
    (hsent : forwarding.sent room = some (endpoint,outbound)) :
    hopCount b (getKey outbound "federation") = hopCount b (getKey req "federation")+1 := by
  cases forwarding with
  | submit mirror peer out =>
    by_cases hroom : room mirror.localId = true
    · rw [Forwarding.sent,if_pos hroom] at hsent
      cases hsent
      exact h mirror peer _ rfl
    · rw [Forwarding.sent,if_neg hroom] at hsent
      cases hsent
  | denied message => cases hsent
  | declined => cases hsent

theorem managerForward_hopCount
    (h : managerForward b fnmatchcase node env req = some (endpoint,outbound)) :
    hopCount b (getKey outbound "federation") = hopCount b (getKey req "federation")+1 := by
  unfold managerForward at h
  split at h
  · refine Forwarding.sent_hopCount b (fun mirror peer out hsubmit => ?_) h
    rw [((internalProcessForward_submit_iff b _ _ _ _ _ _ _ _).1 hsubmit).2,outboundFor_hopCount]
  · refine Forwarding.sent_hopCount b (fun mirror peer out hsubmit => ?_) h
    rw [((internalDeviceForward_submit_iff b _ _ _ _ _ _ _ _).1 hsubmit).2,outboundFor_hopCount]

theorem routerForward_hopCount {task : Router.MirroredTask}
    (h : routerForward b node task = some (endpoint,outbound)) :
    hopCount b (getKey outbound "federation") = hopCount b (getKey task.request "federation")+1 := by
  obtain ⟨found,_,heq⟩ := Option.map_eq_some_iff.1 h
  obtain ⟨_,rfl⟩ := Prod.mk.inj heq
  have hitem : ∀ origin : Value, getD [("origin_instance_id",origin),
      ("hop_count",.int (hopCount b (getKey task.request "federation")+1))] "hop_count" (.int 0) =
        .int (hopCount b (getKey task.request "federation")+1) := fun _ => rfl
  simp only [getKey_setItem,if_true,routerFederationMeta]
  rw [hopCount,hitem,b.toInt_int]
  rfl

theorem forward_hopCount {entrance : Entrance}
    (h : forward b fnmatchcase node env entrance req = some (endpoint,outbound)) :
    hopCount b (getKey outbound "federation") = hopCount b (getKey req "federation")+1 := by
  cases entrance with
  | manager => exact managerForward_hopCount b h
  | router =>
    unfold forward at h
    dsimp only at h
    split at h
    · rcases handleExternalRpc_cases b (routerDirectory fnmatchcase node env) env.identity false req
        with hd | heq | heq
      · rw [sentByWorker_elsewhere b hd] at h
        cases h
      · obtain ⟨request,hmanager,hsame⟩ := dispatchManagerRpc_toManager b env.identity req
        rw [heq,sentByWorker_manager b hmanager] at h
        rw [managerForward_hopCount b h,(hsame.stampRequest env.stamp).get (by decide)]
      · rw [heq] at h
        unfold sentByWorker at h
        split at h
        · rename_i hd
          have htask := (dispatchDeviceCommand_mirrored ⟨_,_,_,_,hd⟩).2
          rw [routerForward_hopCount b h,htask]
        · rename_i hd
          exact absurd ⟨_,_,_,_,_,hd⟩ (dispatchDeviceCommand_not_toManager _)
        · cases h
    · cases h

end

end

/-- A request at an instance; `crossed` counts the links that it has come over. -/
structure Packet (ι : Type) where
  at_ : ι
  entrance : Entrance
  crossed : Nat
  req : Entries

/-- The requests that wait at the instances, and how many links each request that was forwarded had
come over then. -/
structure Network (ι : Type) where
  waiting : List (Packet ι) := []
  sent : List Nat := []

inductive NetworkStep (ι : Type) where
  | client (at_ : ι) (entrance : Entrance) (req : Entries)
  | handle (k : Nat) (env : Surroundings)

section
variable {ι : Type} (b : Builtins) (fnmatchcase : String → String → Bool) (nodes : ι → Node)
  (listens : String → Option ι)

def Network.step (net : Network ι) : NetworkStep ι → Network ι
  | .client at_ entrance req => { net with waiting := net.waiting ++ [⟨at_,entrance,0,req⟩] }
  | .handle k env =>
    match net.waiting[k]? with
    | none => net
    | some packet =>
      let waiting := net.waiting.eraseIdx k
      match forward b fnmatchcase (nodes packet.at_) env packet.entrance packet.req with
      | none => { net with waiting }
      | some (endpoint,outbound) =>
        { waiting := waiting ++ (listens endpoint).toList.map fun at_ =>
            ⟨at_,.router,packet.crossed+1,outbound⟩
          sent := net.sent ++ [packet.crossed+1] }

/-- No client claims a negative number of hops, and the hub sends on nothing that has hopped. -/
def Guarded (net : Network ι) : NetworkStep ι → Prop
  | .client _ _ req => 0 ≤ hopCount b (getKey req "federation")
  | .handle k env => ∀ packet, net.waiting[k]? = some packet →
    0 < hopCount b (getKey packet.req "federation") →
      ¬Reexported b fnmatchcase (nodes packet.at_) env packet.entrance packet.req

structure HopsKept (net : Network ι) : Prop where
  waiting : ∀ packet ∈ net.waiting, packet.crossed ≤ 1 ∧
    (packet.crossed : Int) ≤ hopCount b (getKey packet.req "federation")
  sent : ∀ n ∈ net.sent, n ≤ 1

theorem HopsKept.step {net : Network ι} (h : HopsKept b net) (move : NetworkStep ι)
    (hok : Guarded b fnmatchcase nodes net move) :
    HopsKept b (net.step b fnmatchcase nodes listens move) := by
  cases move with
  | client at_ entrance req =>
    refine ⟨fun packet hpacket => ?_,h.sent⟩
    rcases List.mem_append.1 hpacket with hold | hnew
    · exact h.waiting packet hold
    · obtain rfl := List.mem_singleton.1 hnew
      exact ⟨Nat.zero_le 1,hok⟩
  | handle k env =>
    cases hk : net.waiting[k]? with
    | none => simpa only [Network.step,hk] using h
    | some packet =>
      have hmem := List.mem_of_getElem? hk
      obtain ⟨hcrossed,hhops⟩ := h.waiting packet hmem
      have hrest : ∀ p ∈ net.waiting.eraseIdx k, p.crossed ≤ 1 ∧
          (p.crossed : Int) ≤ hopCount b (getKey p.req "federation") :=
        fun p hp => h.waiting p (List.mem_of_mem_eraseIdx hp)
      cases hforward : forward b fnmatchcase (nodes packet.at_) env packet.entrance packet.req with
      | none =>
        simp only [Network.step,hk,hforward]
        exact ⟨hrest,h.sent⟩
      | some out =>
        obtain ⟨endpoint,outbound⟩ := out
        have hfirst : packet.crossed = 0 := by
          by_contra hne
          have hpos : 0 < hopCount b (getKey packet.req "federation") := by omega
          rw [(forward_none_iff b packet.entrance hpos).2 (hok packet hk hpos)] at hforward
          cases hforward
        have hout := forward_hopCount b hforward
        simp only [Network.step,hk,hforward]
        constructor
        · intro p hp
          rcases List.mem_append.1 hp with hold | hnew
          · exact hrest p hold
          · obtain ⟨at_,_,rfl⟩ := List.mem_map.1 hnew
            exact ⟨by simp [hfirst],by simp only [hout]; omega⟩
        · intro n hn
          rcases List.mem_append.1 hn with hold | hnew
          · exact h.sent n hold
          · rw [List.mem_singleton.1 hnew,hfirst]

end

/-- An instance forwards no request that has hopped exactly if the hub would not send it on; and where
it never does, no request crosses two links. -/
theorem no_second_link (b : Builtins) (fnmatchcase : String → String → Bool) :
    (∀ (node : Node) (env : Surroundings) (entrance : Entrance) (req : Entries),
      0 < hopCount b (getKey req "federation") →
        (forward b fnmatchcase node env entrance req = none ↔
          ¬Reexported b fnmatchcase node env entrance req)) ∧
    ∀ (ι : Type) (nodes : ι → Node) (listens : String → Option ι) (moves : List (NetworkStep ι)),
      Meets (Network.step b fnmatchcase nodes listens) (Guarded b fnmatchcase nodes) {} moves →
        ∀ n ∈ (run (Network.step b fnmatchcase nodes listens) {} moves).sent, n ≤ 1 := by
  constructor
  · intro node env entrance req hhops
    exact forward_none_iff b entrance hhops
  · intro ι nodes listens moves hmeets
    have hkept := Meets.invariant (P := HopsKept b)
      (fun net move h hok => HopsKept.step b fnmatchcase nodes listens h move hok) hmeets
        ⟨by simp,by simp⟩
    exact hkept.sent

def lifecycleNode : Node := ⟨lifecycleConfig,"desk"⟩

def freeSurroundings : Surroundings where
  directory := ⟨none,none,fun _ => none,fun _ => none,fun _ => none,fun _ => none,fun _ => none,
    fun _ _ => [],fun _ => .none⟩
  identity := []
  stamp := ""
  localDevice _ := false
  localProcess _ := false
  routerRoom := true
  deviceRoom _ := true
  processRoom _ := true

def hoppedConnect : Entries :=
  [("type",.str "device.connect"),("device_id",.str "lab_laser"),
    ("federation",.dict false [("origin_instance_id",.str "bench"),("hop_count",.int 1)])]

theorem hopped_connect_reexported :
    ¬∀ (b : Builtins) (fnmatchcase : String → String → Bool) (node : Node) (env : Surroundings)
      (entrance : Entrance) (req : Entries), 0 < hopCount b (getKey req "federation") →
        forward b fnmatchcase node env entrance req = none := by
  intro h
  have hsent := h .digits (fun _ _ => false) lifecycleNode freeSurroundings .router hoppedConnect
    (by decide)
  revert hsent
  decide

end ExperimentControl.Federation

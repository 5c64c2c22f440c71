import ExperimentControl.Federation.Config

/-!
What the federation hub (`federation/hub.py`) makes of an event that a peer publishes: the remote
ids in it are those of the peer, and what is passed on to the local manager is about a mirror.
-/

namespace ExperimentControl.Federation
open Python

/-- What a `MirroredDeviceRuntime` or a `MirroredProcessRuntime` is made with. -/
structure Mirror extends MirrorConfig where
  peerId : String

/-- `_mirrors`, in the order of its insertions -/
def deviceMirrors (config : Peers) : List Mirror :=
  config.peers.flatMap fun peer => peer.mirrorDevices.map fun mirror => ⟨mirror,peer.peerId⟩

def processMirrors (config : Peers) : List Mirror :=
  config.peers.flatMap fun peer => peer.mirrorProcesses.map fun mirror => ⟨mirror,peer.peerId⟩

/-- `_mirrors.get(local_id)` -/
def mirror? (config : Peers) (localId : String) : Option Mirror :=
  (deviceMirrors config).find? fun mirror => mirror.localId = localId

def mirrorForRemote (mirrors : List Mirror) (peer : FederationPeerConfig) (remoteId : String) :
    Option Mirror :=
  mirrors.find? fun mirror => mirror.peerId = peer.peerId && mirror.remoteId = remoteId

/-- What is made of an event: a call of the manager, or what is kept of the heartbeat of a process. -/
inductive Handed where
  | ingestTelemetry (payload : Entries)
  | ingestHeartbeat (localId : String) (payload : Entries)
  | liveness (localId : String) (payload : Entries)
  | emitLog (payload : Entries)
  | publish (topic : String) (payload : Entries)
  | processHeartbeat (localId : String) (payload : Entries)

def Handed.payload : Handed → Entries
  | .ingestTelemetry payload | .ingestHeartbeat _ payload | .liveness _ payload | .emitLog payload
  | .publish _ payload | .processHeartbeat _ payload => payload

/-- `device_id` of an object that has a text there, without the blanks around it; else empty -/
def namedDeviceId : Value → String
  | .dict _ entries => match getKey entries "device_id" with
    | .str s => strip s
    | _ => ""
  | _ => ""

def firstNamed (first second : String) : String := if first = "" then second else first

def remoteDeviceId (topic : String) (payload : Entries) : String :=
  let top := namedDeviceId (.dict false payload)
  if top ≠ "" then top
  else if topic = "manager.command_interceptor.error" then
    firstNamed (namedDeviceId (getKey payload "error")) (namedDeviceId (getKey payload "command"))
  else if topic = "manager.command_interceptor.modified" then
    firstNamed (namedDeviceId (getKey payload "before")) (namedDeviceId (getKey payload "after"))
  else ""

def resolveLocalId (config : Peers) (peer : FederationPeerConfig) (topic : String)
    (payload : Entries) : Option String :=
  let remoteId := remoteDeviceId topic payload
  if remoteId = "" then none
  else (mirrorForRemote (deviceMirrors config) peer remoteId).map (·.localId)

def rewriteDeviceId (localId remoteId : String) (container : Entries) : Entries :=
  match getKey container "device_id" with
  | .str raw => if raw = remoteId then setItem container "device_id" (.str localId) else container
  | _ => container

def rewriteChild (localId remoteId : String) (out : Entries) (key : String) : Entries :=
  match getKey out key with
  | .dict _ child => setItem out key (.dict false (rewriteDeviceId localId remoteId child))
  | _ => out

def childKeys : List String := ["error","command","before","after"]

def rewritePayload (payload : Entries) (localId peerId remoteId : String)
    (includeOriginMeta : Bool) : Entries :=
  let out := childKeys.foldl (rewriteChild localId remoteId) (rewriteDeviceId localId remoteId payload)
  if includeOriginMeta then
    setItem (setItem (setItem (setItem out "source_kind" (.str "federated")) "is_remote" (.bool true))
      "owner_peer_id" (.str peerId)) "remote_device_id" (.str remoteId)
  else out

theorem rewriteDeviceId_get (localId remoteId : String) (container : Entries) :
    getKey (rewriteDeviceId localId remoteId container) "device_id" =
      if getKey container "device_id" = .str remoteId then .str localId else getKey container "device_id" := by
  unfold rewriteDeviceId
  cases hid : getKey container "device_id" with
  | str raw =>
    dsimp only
    split
    · rename_i h
      simp [h]
    · rename_i h
      simp [h,hid]
  | none | bool _ | int _ | float _ | list _ | dict _ _ => simp [hid]

theorem rewriteDeviceId_item {key : String} (hkey : key ≠ "device_id") (localId remoteId : String)
    (container : Entries) :
    item? (rewriteDeviceId localId remoteId container) key = item? container key := by
  unfold rewriteDeviceId
  split
  · split
    · rw [item?_setItem_ite,if_neg hkey]
    · rfl
  · rfl

theorem rewriteChild_item {key child : String} (hkey : key ≠ child) (localId remoteId : String)
    (out : Entries) : item? (rewriteChild localId remoteId out child) key = item? out key := by
  unfold rewriteChild
  split
  · rw [item?_setItem_ite,if_neg hkey]
  · rfl

theorem rewriteChildren_item {key : String} {keys : List String} (hkey : key ∉ keys)
    (localId remoteId : String) (out : Entries) :
    item? (keys.foldl (rewriteChild localId remoteId) out) key = item? out key := by
  induction keys generalizing out with
  | nil => rfl
  | cons child rest ih =>
    rw [List.mem_cons,not_or] at hkey
    rw [List.foldl_cons,ih hkey.2,rewriteChild_item hkey.1]

def originKeys : List String := ["source_kind","is_remote","owner_peer_id"]

def relayEventVerbatim (peer : FederationPeerConfig) (topic : String) (payload : Entries) :
    Option Handed :=
  if topic = "manager.heartbeat" ∨ topic = "manager.telemetry_update" then none
  else
    let out := payload.filter fun entry => entry.1 ∉ originKeys
    let out := if peer.relay.includeOriginMeta then
      setItem (setItem (setItem out "source_kind" (.str "federated")) "is_remote" (.bool true))
        "owner_peer_id" (.str peer.peerId)
      else out
    some (if topic = "manager.log" then .emitLog out else .publish topic out)

section
variable (repr : Value → String)

def resolveProcess (config : Peers) (peer : FederationPeerConfig) (payload : Entries) :
    Option Mirror :=
  let remoteId := strip ((getD payload "process_id" (.str "")).text repr)
  if remoteId = "" then none else mirrorForRemote (processMirrors config) peer remoteId

def stampProcess (peer : FederationPeerConfig) (mirror : Mirror) (out : Entries) : Entries :=
  let out := setItem (setItem (setItem out "process_id" (.str mirror.localId))
    "is_remote" (.bool true)) "source_kind" (.str "process")
  if peer.relay.includeOriginMeta then
    setItem (setItem out "owner_peer_id" (.str peer.peerId)) "remote_process_id" (.str mirror.remoteId)
  else out

def relayProcessTelemetry (config : Peers) (peer : FederationPeerConfig) (payload : Entries) :
    Option Handed :=
  (resolveProcess repr config peer payload).map fun mirror =>
    .publish "manager.process_telemetry_update" (stampProcess peer mirror payload)

def heartbeatKeys : List String := ["state","process_state","pid","metrics","ts"]

def keptItems (keys : List String) (payload : Entries) : Entries :=
  keys.filterMap fun key => (item? payload key).map fun v => (key,v)

theorem keptItems_item {keys : List String} {key : String} (hkey : key ∉ keys) (payload : Entries) :
    item? (keptItems keys payload) key = none := by
  unfold item? keptItems
  rw [Option.map_eq_none_iff,List.find?_eq_none]
  intro entry hentry
  obtain ⟨kept,hkept,hitem⟩ := List.mem_filterMap.1 hentry
  obtain ⟨v,_,rfl⟩ := Option.map_eq_some_iff.1 hitem
  have hne : kept ≠ key := fun heq => hkey (heq ▸ hkept)
  simpa using hne

def relayProcessHeartbeat (config : Peers) (peer : FederationPeerConfig) (payload : Entries) :
    Option Handed :=
  (resolveProcess repr config peer payload).map fun mirror =>
    .processHeartbeat mirror.localId (stampProcess peer mirror (keptItems heartbeatKeys payload))

def handOver (topic localId : String) (rewritten : Entries) : Handed :=
  if topic = "manager.telemetry_update" then .ingestTelemetry rewritten
  else if topic = "manager.heartbeat" then .ingestHeartbeat localId rewritten
  else if topic = "manager.liveness" then .liveness localId rewritten
  else if topic = "manager.log" then .emitLog rewritten
  else .publish topic rewritten

def relayEvent (config : Peers) (peer : FederationPeerConfig) (topic : String) (payload : Entries) :
    Option Handed :=
  if topic = "manager.process_telemetry_update" then relayProcessTelemetry repr config peer payload
  else if topic = "manager.process.heartbeat" then relayProcessHeartbeat repr config peer payload
  else match resolveLocalId config peer topic payload with
    | none =>
      if peer.relay.onlyMirroredDevices then none else relayEventVerbatim peer topic payload
    | some localId => (mirror? config localId).map fun mirror =>
      handOver topic localId (rewritePayload payload localId peer.peerId mirror.remoteId
        peer.relay.includeOriginMeta)

end

def Named (peer : FederationPeerConfig) (id : Value) : Prop :=
  id = .none ∨ ∃ localId ∈ peer.localIds, id = .str localId

def OriginKept (repr : Value → String) (config : Peers) (peer : FederationPeerConfig)
    (topic : String) (payload : Entries) (out : Handed) (key : String) : Prop :=
  item? out.payload key = none ∨
    ∀ w out', relayEvent repr config peer topic (setItem payload key w) = some out' →
      item? out'.payload key = item? out.payload key

/-- The top-level ids of what is passed on are local ids of this peer, and the peer chooses none of
the origin keys. -/
structure WithinBoundary (repr : Value → String) (config : Peers) (peer : FederationPeerConfig)
    (topic : String) (payload : Entries) (out : Handed) : Prop where
  device : Named peer (getKey out.payload "device_id")
  process : Named peer (getKey out.payload "process_id")
  origin : ∀ key ∈ originKeys, OriginKept repr config peer topic payload out key

def OriginUnclaimed (peer : FederationPeerConfig) (keys : List String) (payload : Entries) : Prop :=
  peer.relay.includeOriginMeta = true ∨ ∀ key ∈ keys, item? payload key = none

def ExactRemoteId (peer : FederationPeerConfig) (id : Value) : Prop :=
  ∃ mirror ∈ peer.mirrorDevices, mirror.remoteId ≠ "" ∧ id = .str mirror.remoteId

/-- What the peer may write into an event for the hub to keep the boundary. -/
def Honest (peer : FederationPeerConfig) (topic : String) (payload : Entries) : Prop :=
  if topic = "manager.process_telemetry_update" then
    Named peer (getKey payload "device_id") ∧ OriginUnclaimed peer ["owner_peer_id"] payload
  else if topic = "manager.process.heartbeat" then True
  else
    (ExactRemoteId peer (getKey payload "device_id") ∨ Named peer (getKey payload "device_id")) ∧
      Named peer (getKey payload "process_id") ∧ OriginUnclaimed peer originKeys payload

def NamesSomething (payload : Entries) : Prop :=
  getKey payload "device_id" ≠ .none ∨ getKey payload "process_id" ≠ .none

section
variable {config : Peers} {peer : FederationPeerConfig}

variable {mirror : Mirror}

theorem mem_deviceMirrors (hpeer : peer ∈ config.peers)
    (hm : mirror ∈ deviceMirrors config) (hid : mirror.peerId = peer.peerId) :
    mirror.toMirrorConfig ∈ peer.mirrorDevices := by
  obtain ⟨owner,howner,hmirror⟩ := List.mem_flatMap.1 hm
  obtain ⟨m,hmem,rfl⟩ := List.mem_map.1 hmirror
  obtain rfl := List.inj_on_of_nodup_map config.peersOnce howner hpeer hid
  exact hmem

theorem mem_processMirrors (hpeer : peer ∈ config.peers)
    (hm : mirror ∈ processMirrors config) (hid : mirror.peerId = peer.peerId) :
    mirror.toMirrorConfig ∈ peer.mirrorProcesses := by
  obtain ⟨owner,howner,hmirror⟩ := List.mem_flatMap.1 hm
  obtain ⟨m,hmem,rfl⟩ := List.mem_map.1 hmirror
  obtain rfl := List.inj_on_of_nodup_map config.peersOnce howner hpeer hid
  exact hmem

theorem deviceMirrors_localIds_nodup (config : Peers) :
    ((deviceMirrors config).map (·.localId)).Nodup := by
  have hsub : ((deviceMirrors config).map (·.localId)).Sublist
      (config.peers.flatMap FederationPeerConfig.localIds) := by
    unfold deviceMirrors
    rw [List.map_flatMap]
    induction config.peers with
    | nil => exact List.Sublist.refl _
    | cons owner rest ih =>
      rw [List.flatMap_cons,List.flatMap_cons]
      refine List.Sublist.append ?_ ih
      rw [List.map_map]
      exact List.sublist_append_left _ _
  exact config.localsOnce.sublist hsub

theorem mirror?_of_mem (hm : mirror ∈ deviceMirrors config) :
    mirror? config mirror.localId = some mirror := by
  unfold mirror?
  cases hfound : (deviceMirrors config).find? fun m => m.localId = mirror.localId with
  | none => exact absurd (List.find?_eq_none.1 hfound mirror hm) (by simp)
  | some found =>
    have hid : found.localId = mirror.localId := by simpa using List.find?_some hfound
    rw [List.inj_on_of_nodup_map (deviceMirrors_localIds_nodup config)
      (List.mem_of_find?_eq_some hfound) hm hid]

theorem mirrorForRemote_some {mirrors : List Mirror} {remoteId : String}
    (h : mirrorForRemote mirrors peer remoteId = some mirror) :
    mirror ∈ mirrors ∧ mirror.peerId = peer.peerId ∧ mirror.remoteId = remoteId := by
  have hp := List.find?_some h
  rw [Bool.and_eq_true,decide_eq_true_eq,decide_eq_true_eq] at hp
  exact ⟨List.mem_of_find?_eq_some h,hp.1,hp.2⟩

theorem resolveLocalId_some {topic : String} {payload : Entries} {localId : String}
    (h : resolveLocalId config peer topic payload = some localId) :
    ∃ mirror ∈ deviceMirrors config, mirror.peerId = peer.peerId ∧
      mirror.remoteId = remoteDeviceId topic payload ∧ mirror.remoteId ≠ "" ∧
      mirror.localId = localId := by
  unfold resolveLocalId at h
  dsimp only at h
  split at h
  · cases h
  · rename_i hne
    obtain ⟨mirror,hfound,hlocal⟩ := Option.map_eq_some_iff.1 h
    obtain ⟨hmem,hid,hremote⟩ := mirrorForRemote_some hfound
    exact ⟨mirror,hmem,hid,hremote,hremote ▸ hne,hlocal⟩

theorem resolveProcess_some {repr : Value → String} {payload : Entries}
    (h : resolveProcess repr config peer payload = some mirror) :
    mirror ∈ processMirrors config ∧ mirror.peerId = peer.peerId := by
  unfold resolveProcess at h
  dsimp only at h
  split at h
  · cases h
  · obtain ⟨hmem,hid,_⟩ := mirrorForRemote_some h
    exact ⟨hmem,hid⟩

theorem localId_of_resolveProcess {repr : Value → String} {payload : Entries}
    (hpeer : peer ∈ config.peers) (h : resolveProcess repr config peer payload = some mirror) :
    mirror.localId ∈ peer.localIds := by
  obtain ⟨hmem,hid⟩ := resolveProcess_some h
  exact List.mem_append_right _ (List.mem_map_of_mem (mem_processMirrors hpeer hmem hid))

variable {key : String}

theorem resolveLocalId_setItem (hkey : key ∈ originKeys) (topic : String)
    (payload : Entries) (w : Value) : resolveLocalId config peer topic (setItem payload key w) =
      resolveLocalId config peer topic payload := by
  have hother : ∀ other ∉ originKeys, getKey (setItem payload key w) other = getKey payload other := by
    intro other hne
    have hk : other ≠ key := fun heq => hne (heq ▸ hkey)
    rw [getKey_setItem,if_neg hk]
  have htop : namedDeviceId (.dict false (setItem payload key w)) =
      namedDeviceId (.dict false payload) := by
    simp only [namedDeviceId,hother "device_id" (by decide)]
  have hremote : remoteDeviceId topic (setItem payload key w) = remoteDeviceId topic payload := by
    unfold remoteDeviceId
    rw [htop,hother "error" (by decide),hother "command" (by decide),hother "before" (by decide),
      hother "after" (by decide)]
  unfold resolveLocalId
  rw [hremote]

theorem resolveProcess_setItem (hkey : key ∈ originKeys) (repr : Value → String)
    (payload : Entries) (w : Value) : resolveProcess repr config peer (setItem payload key w) =
      resolveProcess repr config peer payload := by
  have hid : getD (setItem payload key w) "process_id" (.str "") = getD payload "process_id" (.str "") := by
    simp only [originKeys,List.mem_cons,List.not_mem_nil,or_false] at hkey
    rcases hkey with rfl | rfl | rfl <;> simp [getD]
  unfold resolveProcess
  rw [hid]

theorem handOver_payload (topic localId : String) (rewritten : Entries) :
    (handOver topic localId rewritten).payload = rewritten := by
  unfold handOver
  split
  · rfl
  split
  · rfl
  split
  · rfl
  split <;> rfl

/-- How the events of one path are handed over, whatever their origin keys are. -/
structure HandsOver (repr : Value → String) (config : Peers) (peer : FederationPeerConfig)
    (topic : String) (payload : Entries) (make : Entries → Handed) : Prop where
  self : relayEvent repr config peer topic payload = some (make payload)
  varied : ∀ key ∈ originKeys, ∀ w, relayEvent repr config peer topic (setItem payload key w) =
    some (make (setItem payload key w))

variable {repr : Value → String} {topic : String} {payload : Entries} {make : Entries → Handed}

theorem HandsOver.origin_written (h : HandsOver repr config peer topic payload make)
    (hkey : key ∈ originKeys) {v : Option Value} (hv : ∀ p, item? (make p).payload key = v) :
    OriginKept repr config peer topic payload (make payload) key := by
  refine .inr fun w out' hout => ?_
  rw [h.varied key hkey w,Option.some.injEq] at hout
  rw [← hout,hv,hv]

theorem HandsOver.origin_passed (h : HandsOver repr config peer topic payload make)
    (hkey : key ∈ originKeys) (hv : ∀ p, item? (make p).payload key = item? p key) :
    OriginKept repr config peer topic payload (make payload) key ↔ item? payload key = none := by
  constructor
  · intro hkept
    rcases hkept with hnone | hsame
    · rwa [hv] at hnone
    · cases hitem : item? payload key with
      | none => rfl
      | some v =>
        -- Another value of the peer gives another value in what is passed on.
        have hother := hsame (.list [v]) _ (h.varied key hkey (.list [v]))
        rw [hv,hv,item?_setItem,hitem,Option.some.injEq] at hother
        have hsize := congrArg sizeOf hother
        simp at hsize
        omega
  · intro hnone
    exact .inl (by rw [hv,hnone])

variable (mirror : Mirror)

theorem stampProcess_origin (hkey : key ∈ originKeys)
    (hwritten : peer.relay.includeOriginMeta = true ∨ key ≠ "owner_peer_id") :
    ∃ v, ∀ p, item? (stampProcess peer mirror p) key = v := by
  simp only [originKeys,List.mem_cons,List.not_mem_nil,or_false] at hkey
  unfold stampProcess
  cases hmeta : peer.relay.includeOriginMeta with
  | true => rcases hkey with rfl | rfl | rfl <;> simp
  | false => rcases hkey with rfl | rfl | rfl <;> simp_all

theorem stampProcess_owner (hmeta : peer.relay.includeOriginMeta = false)
    (p : Entries) : item? (stampProcess peer mirror p) "owner_peer_id" = item? p "owner_peer_id" := by
  simp [stampProcess,hmeta]

theorem stampProcess_device (p : Entries) :
    getKey (stampProcess peer mirror p) "device_id" = getKey p "device_id" := by
  unfold stampProcess
  cases peer.relay.includeOriginMeta <;> simp

theorem stampProcess_process (p : Entries) :
    getKey (stampProcess peer mirror p) "process_id" = .str mirror.localId := by
  unfold stampProcess
  cases peer.relay.includeOriginMeta <;> simp

theorem rewritePayload_item (hkey : key ∉ "device_id" :: childKeys) {includeOriginMeta : Bool}
    (hstamped : includeOriginMeta = false ∨ key ∉ originKeys ++ ["remote_device_id"]) (p : Entries)
    (localId peerId remoteId : String) :
    item? (rewritePayload p localId peerId remoteId includeOriginMeta) key = item? p key := by
  rw [List.mem_cons,not_or] at hkey
  have hchildren : item? (childKeys.foldl (rewriteChild localId remoteId)
      (rewriteDeviceId localId remoteId p)) key = item? p key := by
    rw [rewriteChildren_item hkey.2,rewriteDeviceId_item hkey.1]
  unfold rewritePayload
  cases includeOriginMeta with
  | true =>
    simp only [Bool.true_eq_false,false_or,originKeys,List.cons_append,List.nil_append,List.mem_cons,
      List.not_mem_nil,or_false,not_or] at hstamped
    simp [hstamped,hchildren]
  | false => exact hchildren

theorem rewritePayload_origin (hkey : key ∈ originKeys) (localId peerId remoteId : String) :
    ∃ v, ∀ p, item? (rewritePayload p localId peerId remoteId true) key = v := by
  simp only [originKeys,List.mem_cons,List.not_mem_nil,or_false] at hkey
  rcases hkey with rfl | rfl | rfl <;> simp [rewritePayload]

theorem rewritePayload_device (p : Entries) (localId peerId remoteId : String)
    (includeOriginMeta : Bool) :
    getKey (rewritePayload p localId peerId remoteId includeOriginMeta) "device_id" =
      if getKey p "device_id" = .str remoteId then .str localId else getKey p "device_id" := by
  have hchildren : getKey (childKeys.foldl (rewriteChild localId remoteId)
      (rewriteDeviceId localId remoteId p)) "device_id" =
        getKey (rewriteDeviceId localId remoteId p) "device_id" := by
    simp only [Python.getKey,getD]
    rw [rewriteChildren_item (by decide)]
  rw [← rewriteDeviceId_get,← hchildren]
  unfold rewritePayload
  cases includeOriginMeta <;> simp

theorem HandsOver.origin_iff (h : HandsOver repr config peer topic payload make)
    {l : List String} (hsub : l ⊆ originKeys)
    (hwritten : ∀ key ∈ originKeys, peer.relay.includeOriginMeta = true ∨ key ∉ l →
      ∃ v, ∀ p, item? (make p).payload key = v) (hpassed : peer.relay.includeOriginMeta = false →
      ∀ key ∈ l, ∀ p, item? (make p).payload key = item? p key) :
    (∀ key ∈ originKeys, OriginKept repr config peer topic payload (make payload) key) ↔
      OriginUnclaimed peer l payload := by
  unfold OriginUnclaimed
  constructor
  · intro hkept
    cases hmeta : peer.relay.includeOriginMeta with
    | true => exact .inl rfl
    | false =>
      refine .inr fun key hkey => ?_
      exact (h.origin_passed (hsub hkey) (hpassed hmeta key hkey)).1 (hkept key (hsub hkey))
  · intro hunclaimed key hkey
    by_cases hw : peer.relay.includeOriginMeta = true ∨ key ∉ l
    · obtain ⟨v,hv⟩ := hwritten key hkey hw
      exact h.origin_written hkey hv
    · rw [not_or,Bool.not_eq_true,not_not] at hw
      obtain ⟨hmeta,hp⟩ := hw
      have hnone := hunclaimed.resolve_left (by simp [hmeta])
      exact (h.origin_passed hkey (hpassed hmeta key hp)).2 (hnone key hp)

variable {out : Handed}

theorem relayProcessTelemetry_honest (hpeer : peer ∈ config.peers)
    (htopic : topic = "manager.process_telemetry_update")
    (h : relayEvent repr config peer topic payload = some out) :
    (WithinBoundary repr config peer topic payload out ↔
      Named peer (getKey payload "device_id") ∧ OriginUnclaimed peer ["owner_peer_id"] payload) ∧
    NamesSomething out.payload := by
  subst htopic
  obtain ⟨mirror,hmirror,rfl⟩ := Option.map_eq_some_iff.1 h
  have hlocal : mirror.localId ∈ peer.localIds := localId_of_resolveProcess hpeer hmirror
  have hands : HandsOver repr config peer "manager.process_telemetry_update" payload fun p =>
      .publish "manager.process_telemetry_update" (stampProcess peer mirror p) := by
    refine ⟨h,fun key hkey w => ?_⟩
    change relayProcessTelemetry repr config peer (setItem payload key w) = _
    rw [relayProcessTelemetry,resolveProcess_setItem hkey,hmirror]
    rfl
  have horigin := hands.origin_iff (l := ["owner_peer_id"]) (by decide)
    (fun key hkey hw => stampProcess_origin mirror hkey (by simpa using hw))
    (fun hmeta key hkey p => List.mem_singleton.1 hkey ▸ stampProcess_owner mirror hmeta p)
  have hprocess : getKey (stampProcess peer mirror payload) "process_id" = .str mirror.localId :=
    stampProcess_process mirror payload
  refine ⟨?_,.inr (hprocess ▸ Value.noConfusion)⟩
  rw [← horigin,← stampProcess_device mirror payload]
  constructor
  · intro hb
    exact ⟨hb.device,hb.origin⟩
  · rintro ⟨hdevice,hkept⟩
    exact ⟨hdevice,.inr ⟨mirror.localId,hlocal,hprocess⟩,hkept⟩

theorem relayProcessHeartbeat_within (hpeer : peer ∈ config.peers)
    (htopic : topic = "manager.process.heartbeat")
    (h : relayEvent repr config peer topic payload = some out) :
    WithinBoundary repr config peer topic payload out ∧ NamesSomething out.payload := by
  subst htopic
  obtain ⟨mirror,hmirror,rfl⟩ := Option.map_eq_some_iff.1 h
  have hlocal : mirror.localId ∈ peer.localIds := localId_of_resolveProcess hpeer hmirror
  have hands : HandsOver repr config peer "manager.process.heartbeat" payload fun p =>
      .processHeartbeat mirror.localId (stampProcess peer mirror (keptItems heartbeatKeys p)) := by
    refine ⟨h,fun key hkey w => ?_⟩
    change relayProcessHeartbeat repr config peer (setItem payload key w) = _
    rw [relayProcessHeartbeat,resolveProcess_setItem hkey,hmirror]
    rfl
  have hprocess : getKey (stampProcess peer mirror (keptItems heartbeatKeys payload)) "process_id" =
    .str mirror.localId := stampProcess_process mirror (keptItems heartbeatKeys payload)
  refine ⟨⟨.inl ?_,.inr ⟨mirror.localId,hlocal,hprocess⟩,fun key hkey => ?_⟩,
    .inr (hprocess ▸ Value.noConfusion)⟩
  · change getKey (stampProcess peer mirror (keptItems heartbeatKeys payload)) "device_id" = .none
    rw [stampProcess_device,Python.getKey,getD,keptItems_item (by decide)]
    rfl
  · by_cases hw : peer.relay.includeOriginMeta = true ∨ key ≠ "owner_peer_id"
    · obtain ⟨v,hv⟩ := stampProcess_origin mirror hkey hw
      exact hands.origin_written hkey fun p => hv _
    · rw [not_or,Bool.not_eq_true,not_not] at hw
      obtain ⟨hmeta,rfl⟩ := hw
      refine .inl ?_
      change item? (stampProcess peer mirror (keptItems heartbeatKeys payload)) "owner_peer_id" = none
      rw [stampProcess_owner mirror hmeta,keptItems_item (by decide)]

theorem rewritten_named_iff {mirror : MirrorConfig} (hmirror : mirror ∈ peer.mirrorDevices)
    (hne : mirror.remoteId ≠ "") {id : Value}
    (hexact : ∀ other ∈ peer.mirrorDevices, other.remoteId ≠ "" → id = .str other.remoteId →
      other.remoteId = mirror.remoteId) :
    Named peer (if id = .str mirror.remoteId then .str mirror.localId else id) ↔
      ExactRemoteId peer id ∨ Named peer id := by
  by_cases hid : id = .str mirror.remoteId
  · have hlocal : mirror.localId ∈ peer.localIds :=
      List.mem_append_left _ (List.mem_map_of_mem hmirror)
    rw [if_pos hid]
    exact ⟨fun _ => .inl ⟨mirror,hmirror,hne,hid⟩,fun _ => .inr ⟨mirror.localId,hlocal,rfl⟩⟩
  · rw [if_neg hid]
    constructor
    · exact .inr
    · rintro (⟨other,hmem,hother,heq⟩ | hnamed)
      · exact absurd (hexact other hmem hother heq ▸ heq) hid
      · exact hnamed

theorem remoteDeviceId_exact {mirror : MirrorConfig} (hne : mirror.remoteId ≠ "")
    (hid : getKey payload "device_id" = .str mirror.remoteId) :
    remoteDeviceId topic payload = mirror.remoteId := by
  have htop : namedDeviceId (.dict false payload) = mirror.remoteId := by
    simp only [namedDeviceId,hid,mirror.remoteStripped]
  unfold remoteDeviceId
  dsimp only
  rw [htop,if_pos hne]

theorem relayDevice_honest (hpeer : peer ∈ config.peers)
    (honly : peer.relay.onlyMirroredDevices = true)
    (htelemetry : topic ≠ "manager.process_telemetry_update")
    (hheartbeat : topic ≠ "manager.process.heartbeat")
    (h : relayEvent repr config peer topic payload = some out) :
    (WithinBoundary repr config peer topic payload out ↔
      (ExactRemoteId peer (getKey payload "device_id") ∨ Named peer (getKey payload "device_id")) ∧
        Named peer (getKey payload "process_id") ∧ OriginUnclaimed peer originKeys payload) ∧
    (NamesSomething out.payload ↔ NamesSomething payload) := by
  have hpath : ∀ p, relayEvent repr config peer topic p =
      (resolveLocalId config peer topic p).bind fun localId =>
        (mirror? config localId).map fun mirror =>
          handOver topic localId (rewritePayload p localId peer.peerId mirror.remoteId
            peer.relay.includeOriginMeta) := by
    intro p
    rw [relayEvent,if_neg htelemetry,if_neg hheartbeat,honly]
    cases resolveLocalId config peer topic p <;> rfl
  rw [hpath] at h
  cases hresolved : resolveLocalId config peer topic payload with
  | none =>
    rw [hresolved] at h
    cases h
  | some localId =>
    obtain ⟨mirror,hmem,hid,hremote,hne,rfl⟩ := resolveLocalId_some hresolved
    have hmirror := mem_deviceMirrors hpeer hmem hid
    let make := fun p => handOver topic mirror.localId (rewritePayload p mirror.localId peer.peerId
      mirror.remoteId peer.relay.includeOriginMeta)
    have hmake : ∀ p, resolveLocalId config peer topic p = some mirror.localId →
        relayEvent repr config peer topic p = some (make p) := by
      intro p hp
      rw [hpath,hp,Option.bind_some,mirror?_of_mem hmem,Option.map_some]
    have hands : HandsOver repr config peer topic payload make :=
      ⟨hmake payload hresolved,fun key hkey w => hmake _ (by rw [resolveLocalId_setItem hkey,hresolved])⟩
    obtain rfl : make payload = out := by
      have hself := hmake payload hresolved
      rw [hpath,h,Option.some.injEq] at hself
      exact hself.symm
    have hpayload : ∀ p, (make p).payload = rewritePayload p mirror.localId peer.peerId
        mirror.remoteId peer.relay.includeOriginMeta := fun p => handOver_payload _ _ _
    have horigin := hands.origin_iff (List.Subset.refl originKeys)
      (fun key hkey hw => by
        have hmeta := hw.resolve_right fun hn => hn hkey
        simp only [hpayload,hmeta]
        exact rewritePayload_origin hkey _ _ _)
      (fun hmeta key hkey p => by
        have hkeys : key ∉ "device_id" :: childKeys := by
          simp only [originKeys,List.mem_cons,List.not_mem_nil,or_false] at hkey
          rcases hkey with rfl | rfl | rfl <;> decide
        rw [hpayload,rewritePayload_item hkeys (.inl hmeta)])
    have hdevice : Named peer (getKey (make payload).payload "device_id") ↔
        ExactRemoteId peer (getKey payload "device_id") ∨ Named peer (getKey payload "device_id") := by
      rw [hpayload,rewritePayload_device]
      refine rewritten_named_iff hmirror hne fun other _ hother heq => ?_
      rw [hremote,remoteDeviceId_exact hother heq]
    have hprocess : getKey (make payload).payload "process_id" = getKey payload "process_id" := by
      rw [hpayload]
      simp only [Python.getKey,getD]
      rw [rewritePayload_item (by decide) (.inr (by decide))]
    constructor
    · rw [← horigin,← hdevice,← hprocess]
      exact ⟨fun hb => ⟨hb.device,hb.process,hb.origin⟩,fun hb => ⟨hb.1,hb.2.1,hb.2.2⟩⟩
    · unfold NamesSomething
      rw [hprocess,hpayload,rewritePayload_device]
      split
      · rename_i hgiven
        simp [hgiven]
      · rfl

end

/-- What the hub hands over of an event of a peer stays within the boundary exactly if the peer writes
the event as an honest one is written. It names something at top level unless it is an event of a
device that does not itself. -/
theorem relay_within_boundary_iff (repr : Value → String) (config : FederationConfig)
    (peer : FederationPeerConfig) (hpeer : peer ∈ config.peers)
    (honly : peer.relay.onlyMirroredDevices = true) (topic : String) (payload : Entries)
    (out : Handed) (h : relayEvent repr config.toPeers peer topic payload = some out) :
    (WithinBoundary repr config.toPeers peer topic payload out ↔ Honest peer topic payload) ∧
    (NamesSomething out.payload ↔ topic = "manager.process_telemetry_update" ∨
      topic = "manager.process.heartbeat" ∨ NamesSomething payload) := by
  unfold Honest
  split
  · rename_i htopic
    have hpath := relayProcessTelemetry_honest hpeer htopic h
    exact ⟨hpath.1,iff_of_true hpath.2 (.inl htopic)⟩
  split
  · rename_i htopic
    have hpath := relayProcessHeartbeat_within hpeer htopic h
    exact ⟨iff_of_true hpath.1 trivial,iff_of_true hpath.2 (.inr (.inl htopic))⟩
  · rename_i htelemetry hheartbeat
    have hpath := relayDevice_honest hpeer honly htelemetry hheartbeat h
    simpa [htelemetry,hheartbeat] using hpath

def laserPeer : FederationPeerConfig where
  peerId := "lab"
  routerRpc := "tcp://lab:6000"
  managerPub := "tcp://lab:6001"
  mirrorDevices := [⟨"lab_laser","laser",by decide,by decide⟩]
  mirrorProcesses := []
  rpcTimeoutMs := 1500
  eventStaleS := 0x4008000000000000
  reconnectBackoffS := 0x3FE0000000000000
  reconnectBackoffMaxS := 0x4024000000000000
  metadataRpcTimeoutMs := 1500
  warmCapabilitiesOnStartup := false
  policy := {}
  relay := {}
  devicesOnce := by decide
  processesOnce := by decide

def laserConfig : FederationConfig where
  peers := [laserPeer]
  peersOnce := by decide
  localsOnce := by decide
  enabled := true

theorem laser_log_within_boundary :
    (WithinBoundary (fun _ => "") laserConfig.toPeers laserPeer "manager.log"
      [("device_id",.str "laser")] (.emitLog (rewritePayload [("device_id",.str "laser")] "lab_laser"
        "lab" "laser" true)) ↔ Honest laserPeer "manager.log" [("device_id",.str "laser")]) ∧
    (NamesSomething (rewritePayload [("device_id",.str "laser")] "lab_laser" "lab" "laser" true) ↔
      "manager.log" = "manager.process_telemetry_update" ∨ "manager.log" = "manager.process.heartbeat" ∨
        NamesSomething [("device_id",.str "laser")]) :=
  relay_within_boundary_iff (fun _ => "") laserConfig laserPeer (by simp [laserConfig]) rfl "manager.log"
    [("device_id",.str "laser")] _ (by rfl)

theorem padded_id_not_rewritten :
    ¬∀ (repr : Value → String) (config : FederationConfig) (peer : FederationPeerConfig),
      peer ∈ config.peers → peer.relay.onlyMirroredDevices = true → ∀ topic payload out,
        relayEvent repr config.toPeers peer topic payload = some out →
          WithinBoundary repr config.toPeers peer topic payload out := by
  intro h
  have hb := h (fun _ => "") laserConfig laserPeer (by simp [laserConfig]) rfl "manager.command"
    [("device_id",.str "laser ")] (.publish "manager.command" (rewritePayload
      [("device_id",.str "laser ")] "lab_laser" "lab" "laser" true)) (by rfl)
  rcases hb.device with hnone | ⟨localId,hlocal,heq⟩
  · revert hnone
    decide
  · obtain rfl : "lab_laser" = localId := (List.mem_singleton.1 hlocal).symm
    revert heq
    decide

end ExperimentControl.Federation

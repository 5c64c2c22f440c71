import ExperimentControl.Federation.Relay
import ExperimentControl.Lib.OrderedDict
import ExperimentControl.Lib.Runs

/-!
The warm-up of the metadata of a peer (`federation/hub.py`): its configuration, its schemas and the
capabilities of its mirrored devices are asked for over one socket, which does not tell the replies
apart, and what is read is stored with the mirrors.
-/

namespace ExperimentControl.Federation
open Lib Python List

inductive MetadataRequest where
  | deviceConfigList
  | telemetrySchemaList
  | processSchemaList
  | capabilities (remoteId : String)
  deriving DecidableEq

/-- The socket of a warm-up: the requests that the peer may still answer, and the replies that wait,
each with the request that it answers. A reply that is not JSON is `None`. -/
structure MetadataSocket where
  unanswered : List MetadataRequest := []
  inbox : List (MetadataRequest × Value) := []

namespace MetadataSocket

def arrive (s : MetadataSocket) (reply : MetadataRequest × Value) : MetadataSocket :=
  if reply.1 ∈ s.unanswered then
    ⟨s.unanswered.erase reply.1,s.inbox ++ [reply]⟩
  else s

end MetadataSocket

/-- What happens during a call of `_dealer_rpc`, and before it. -/
structure Window where
  stopBefore : Bool := false
  sendFails : Bool := false
  stopped : Bool := false
  arrivals : List (MetadataRequest × Value) := []

def MetadataSocket.during (s : MetadataSocket) (request : MetadataRequest) (window : Window) :
    MetadataSocket :=
  let sent := if window.sendFails then s
    else { s with unanswered := s.unanswered ++ [request] }
  window.arrivals.foldl MetadataSocket.arrive sent

abbrev Reading := Option (MetadataRequest × Entries)

/-- `_dealer_rpc`: the first reply that waits, whatever it answers. -/
def dealerRpc (s : MetadataSocket) (request : MetadataRequest) (window : Window) :
    Reading × MetadataSocket :=
  let s := s.during request window
  if window.sendFails || window.stopped then (none,s)
  else match s.inbox with
    | [] => (none,s)
    | (answered,.dict _ reply) :: rest => (some (answered,reply),{ s with inbox := rest })
    | _ :: rest => (none,{ s with inbox := rest })

structure MetadataHead where
  config : Reading
  schema : Reading
  processSchema : Reading
  socket : MetadataSocket

/-- The windows of a warm-up: of its first three calls, and of the calls for the mirrors in turn. -/
structure Windows where
  config : Window
  schema : Window
  processSchema : Window
  capabilities : List Window

/-- The first part of `_fetch_peer_metadata`. -/
def fetchHead (peer : FederationPeerConfig) (windows : Windows) : MetadataHead :=
  let (config,s) := dealerRpc {} .deviceConfigList windows.config
  let (schema,s) := dealerRpc s .telemetrySchemaList windows.schema
  let (processSchema,s) := if peer.mirrorProcesses.isEmpty then (none,s)
    else dealerRpc s .processSchemaList windows.processSchema
  ⟨config,schema,processSchema,s⟩

abbrev Capabilities := OrderedDict String (MetadataRequest × Entries)

def storable (reply : Entries) : Option Entries :=
  if (getKey reply "ok").truthy then
    match getKey reply "result" with
    | .dict _ result => some result
    | _ => none
  else none

structure CapabilityState where
  socket : MetadataSocket
  caps : Capabilities

def askCapabilities (s : CapabilityState) (turn : MirrorConfig × Window) : CapabilityState :=
  let (reading,socket) := dealerRpc s.socket (.capabilities turn.1.remoteId) turn.2
  ⟨socket,match reading with
    | some (answered,reply) => match storable reply with
      | some result => s.caps.set turn.1.remoteId (answered,result)
      | none => s.caps
    | none => s.caps⟩

def capabilityTurns (peer : FederationPeerConfig) (windows : Windows) : List (MirrorConfig × Window) :=
  (peer.mirrorDevices.zip windows.capabilities).takeWhile fun turn => !turn.2.stopBefore

/-- What `_fetch_peer_metadata` returns without an error. -/
structure Fetched where
  config : MetadataRequest × Entries
  schema : MetadataRequest × Entries
  processSchema : Reading
  caps : Capabilities

def fetchPeerMetadata (peer : FederationPeerConfig) (windows : Windows) : Except String Fetched :=
  let head := fetchHead peer windows
  match head.config,head.schema with
  | some config,some schema =>
    let caps := if peer.warmCapabilitiesOnStartup then
      (run askCapabilities ⟨head.socket,.empty⟩ (capabilityTurns peer windows)).caps else .empty
    .ok ⟨config,schema,head.processSchema,caps⟩
  | _,_ => .error "metadata fetch failed (peer unreachable)"

/-- An item that is stored with a mirror, and the request whose reply it is from; a placeholder is
from none. -/
structure Stored where
  origin : Option MetadataRequest
  entry : Entries

structure DeviceMetadata where
  configPayload : Option Stored := none
  schemaEntry : Option Stored := none
  capabilities : Option Stored := none

def dictItems : Value → List Entries
  | .list items => items.filterMap fun
    | .dict _ entries => some entries
    | _ => none
  | _ => []

def replyItems (field : Option String) (reply : Entries) : List Entries :=
  if (getKey reply "ok").truthy then
    match field,getKey reply "result" with
    | none,result => dictItems result
    | some name,.dict _ result => dictItems (getKey result name)
    | _,_ => []
  else []

section
variable (repr : Value → String)

def itemFor (idField remoteId : String) (items : List Entries) : Option Entries :=
  if remoteId = "" then none
  else (items.filter fun item => (getD item idField (.str "")).text repr = remoteId).getLast?

/-- `_rewrite_config_payload` and its siblings -/
def rewriteItem (idField remoteField sourceKind : String) (mirror : Mirror) (item : Entries) : Entries :=
  setItem (setItem (setItem (setItem (setItem item idField (.str mirror.localId))
    "source_kind" (.str sourceKind)) "is_remote" (.bool true)) "owner_peer_id" (.str mirror.peerId))
    remoteField (.str mirror.remoteId)

def placeholderConfig (mirror : Mirror) : Entries :=
  [("version",.int 1),("device_id",.str mirror.localId),("yaml_text",.str ""),
    ("device_metadata",.dict false []),("stream_metadata",.dict false []),
    ("telemetry_calls",.list []),("stream_calls",.list []),("run_meta_calls",.list []),
    ("source_kind",.str "federated"),("is_remote",.bool true),("owner_peer_id",.str mirror.peerId),
    ("remote_device_id",.str mirror.remoteId)]

/-- `_apply_peer_metadata`, for one device mirror of the peer -/
def applyDeviceMetadata (mirror : Mirror) (fetched : Fetched) (old : DeviceMetadata) : DeviceMetadata where
  configPayload :=
    match itemFor repr "device_id" mirror.remoteId (replyItems none fetched.config.2) with
    | some item => some ⟨some fetched.config.1,
        rewriteItem "device_id" "remote_device_id" "federated" mirror item⟩
    | none => match old.configPayload with
      | none => some ⟨none,placeholderConfig mirror⟩
      | some stored => some stored
  schemaEntry :=
    match itemFor repr "device_id" mirror.remoteId (replyItems (some "devices") fetched.schema.2) with
    | some item => some ⟨some fetched.schema.1,
        rewriteItem "device_id" "remote_device_id" "federated" mirror item⟩
    | none => old.schemaEntry
  capabilities := match fetched.caps.get? mirror.remoteId with
    | some (answered,result) => some ⟨some answered,result⟩
    | none => old.capabilities

/-- `_apply_peer_metadata`, for one process mirror of the peer -/
def applyProcessMetadata (mirror : Mirror) (fetched : Fetched) (old : Option Stored) : Option Stored :=
  match fetched.processSchema with
  | none => old
  | some (answered,reply) =>
    match itemFor repr "process_id" mirror.remoteId (replyItems (some "processes") reply) with
    | some item => some ⟨some answered,
        rewriteItem "process_id" "remote_process_id" "process" mirror item⟩
    | none => old

structure Metadata where
  devices : Mirror → DeviceMetadata := fun _ => {}
  processes : Mirror → Option Stored := fun _ => none

/-- What changes the metadata: a warm-up of a peer, or capabilities from elsewhere (the reply to a
forwarded command, or an event of the peer). -/
inductive MetadataInput where
  | warmUp (peerId : String) (windows : Windows)
  | capabilities (localId : String) (entry : Entries)

def applyPeerMetadata (peer : FederationPeerConfig) (fetched : Fetched) (m : Metadata) : Metadata where
  devices := fun mirror =>
    if mirror.peerId = peer.peerId then applyDeviceMetadata repr mirror fetched (m.devices mirror)
    else m.devices mirror
  processes := fun mirror =>
    if mirror.peerId = peer.peerId then applyProcessMetadata repr mirror fetched (m.processes mirror)
    else m.processes mirror

/-- A warm-up and the `_drain_warmup_results` that takes its result, or a write from elsewhere -/
def metadataStep (config : Peers) (m : Metadata) : MetadataInput → Metadata
  | .warmUp peerId windows =>
    match config.peers.find? fun peer => peer.peerId = peerId with
    | none => m
    | some peer => match fetchPeerMetadata peer windows with
      | .error _ => m
      | .ok fetched => applyPeerMetadata repr peer fetched m
  | .capabilities localId entry =>
    let devices := fun mirror : Mirror =>
      if mirror.localId = localId then { m.devices mirror with capabilities := some ⟨none,entry⟩ }
      else m.devices mirror
    { m with devices }

def Own (request : MetadataRequest) (stored : Option Stored) : Prop :=
  ∀ item ∈ stored, ∀ answered ∈ item.origin, answered = request

structure DeviceMetadata.AllOwn (remoteId : String) (m : DeviceMetadata) : Prop where
  config : Own .deviceConfigList m.configPayload
  schema : Own .telemetrySchemaList m.schemaEntry
  capabilities : Own (.capabilities remoteId) m.capabilities

structure Metadata.AllOwn (config : Peers) (m : Metadata) : Prop where
  devices : ∀ mirror ∈ deviceMirrors config, (m.devices mirror).AllOwn mirror.remoteId
  processes : ∀ mirror ∈ processMirrors config, Own .processSchemaList (m.processes mirror)

end
/-- A request that has not been read: it is unanswered, or its reply waits, and nothing else does. -/
inductive MetadataSocket.Pending (request : MetadataRequest) : MetadataSocket → Prop where
  | unanswered : Pending request ⟨[request],[]⟩
  | waits (value : Value) : Pending request ⟨[],[(request,value)]⟩
  | unsent : Pending request ⟨[],[]⟩

theorem MetadataSocket.Pending.arrive {request : MetadataRequest} {s : MetadataSocket}
    (h : s.Pending request) (reply : MetadataRequest × Value) : (s.arrive reply).Pending request := by
  obtain ⟨answered,value⟩ := reply
  cases h with
  | unanswered =>
    by_cases hown : answered = request
    · subst hown
      simpa [MetadataSocket.arrive] using MetadataSocket.Pending.waits value
    · simpa [MetadataSocket.arrive,hown] using MetadataSocket.Pending.unanswered
  | waits value => exact .waits value
  | unsent => exact .unsent

theorem pending_during (request : MetadataRequest) (window : Window) :
    (MetadataSocket.during {} request window).Pending request := by
  have hfold : ∀ (arrivals : List (MetadataRequest × Value)) (s : MetadataSocket),
      s.Pending request → (arrivals.foldl MetadataSocket.arrive s).Pending request := by
    intro arrivals
    induction arrivals with
    | nil => exact fun _ h => h
    | cons reply rest ih => exact fun s h => ih _ (h.arrive reply)
  apply hfold
  cases window.sendFails
  · exact .unanswered
  · exact .unsent

theorem dealerRpc_own {request answered : MetadataRequest} {window : Window} {r : Entries}
    (h : (dealerRpc {} request window).1 = some (answered,r)) :
    answered = request ∧ (dealerRpc {} request window).2 = {} := by
  have hpending := pending_during request window
  revert h
  simp only [dealerRpc]
  cases hstop : (window.sendFails || window.stopped) with
  | true => simp
  | false =>
    generalize MetadataSocket.during {} request window = s at hpending
    cases hpending with
    | unanswered => simp
    | waits value => cases value <;> simp_all
    | unsent => simp

variable {peer : FederationPeerConfig} {windows : Windows}

theorem fetchHead_own
    {config schema : MetadataRequest × Entries} (hconfig : (fetchHead peer windows).config = some config)
    (hschema : (fetchHead peer windows).schema = some schema) :
    config.1 = .deviceConfigList ∧ schema.1 = .telemetrySchemaList ∧
      ∀ reading ∈ (fetchHead peer windows).processSchema, reading.1 = .processSchemaList := by
  obtain ⟨hown,hquiet⟩ := dealerRpc_own (r := config.2) hconfig
  have hschema : (dealerRpc {} .telemetrySchemaList windows.schema).1 = some schema := by
    rw [← hquiet]
    exact hschema
  obtain ⟨hown',hquiet'⟩ := dealerRpc_own (r := schema.2) hschema
  refine ⟨hown,hown',fun reading hreading => ?_⟩
  cases hprocesses : peer.mirrorProcesses.isEmpty with
  | true => simp [fetchHead,hprocesses] at hreading
  | false =>
    have hread : (dealerRpc {} .processSchemaList windows.processSchema).1 = some reading := by
      simpa [fetchHead,hprocesses,hquiet,hquiet'] using hreading
    exact (dealerRpc_own (r := reading.2) hread).1

def firstWaiting (s : MetadataSocket) : Option (MetadataRequest × Entries) :=
  match s.inbox with
  | (answered,.dict _ reply) :: _ => (storable reply).map fun result => (answered,result)
  | _ => none

/-- The call gives up, or the capabilities that wait first, if any, answer its own request. -/
def Timely (s : CapabilityState) (turn : MirrorConfig × Window) : Prop :=
  (turn.2.sendFails || turn.2.stopped) = true ∨
    ∀ waiting ∈ firstWaiting (s.socket.during (.capabilities turn.1.remoteId) turn.2),
      waiting.1 = .capabilities turn.1.remoteId

variable (s : CapabilityState)

theorem askCapabilities_cases (turn : MirrorConfig × Window) :
    Timely s turn ∧ (askCapabilities s turn).caps = s.caps ∨
    ∃ reading, (askCapabilities s turn).caps = s.caps.set turn.1.remoteId reading ∧
      (Timely s turn ↔ reading.1 = .capabilities turn.1.remoteId) := by
  simp only [askCapabilities,dealerRpc,Timely]
  cases hstop : (turn.2.sendFails || turn.2.stopped) with
  | true => exact .inl ⟨.inl rfl,by simp⟩
  | false =>
    generalize (s.socket.during (.capabilities turn.1.remoteId) turn.2) = socket
    obtain ⟨unanswered,_ | ⟨⟨answered,value⟩,rest⟩⟩ := socket
    · simp [firstWaiting]
    · cases value with
      | dict ordered reply =>
        cases hresult : storable reply with
        | none => simp [firstWaiting,hresult]
        | some result =>
          exact .inr ⟨(answered,result),by simp [hresult],by simp [firstWaiting,hresult]⟩
      | _ => simp [firstWaiting]

def OwnCapabilities (caps : Capabilities) (remoteId : String) : Prop :=
  ∀ reading ∈ caps.get? remoteId, reading.1 = .capabilities remoteId

theorem timely_keeps (turn : MirrorConfig × Window)
    (hcaps : ∀ remoteId, OwnCapabilities s.caps remoteId) (htimely : Timely s turn) :
    ∀ remoteId, OwnCapabilities (askCapabilities s turn).caps remoteId := by
  obtain ⟨-,hsame⟩ | ⟨reading,hset,hiff⟩ := askCapabilities_cases s turn
  · rwa [hsame]
  · intro remoteId kept hkept
    rw [hset,OrderedDict.get?_set] at hkept
    by_cases hid : remoteId = turn.1.remoteId
    · rw [if_pos hid,Option.mem_some_iff] at hkept
      rw [← hkept,hid]
      exact hiff.1 htimely
    · rw [if_neg hid] at hkept
      exact hcaps remoteId kept hkept

theorem get?_askCapabilities {s : CapabilityState} {turn : MirrorConfig × Window} {remoteId : String}
    (h : remoteId ≠ turn.1.remoteId) :
    (askCapabilities s turn).caps.get? remoteId = s.caps.get? remoteId := by
  obtain ⟨-,hsame⟩ | ⟨reading,hset,-⟩ := askCapabilities_cases s turn
  · rw [hsame]
  · rw [hset,OrderedDict.get?_set,if_neg h]

theorem get?_run_askCapabilities {turns : List (MirrorConfig × Window)} {remoteId : String}
    (h : remoteId ∉ turns.map (·.1.remoteId)) :
    (run askCapabilities s turns).caps.get? remoteId = s.caps.get? remoteId := by
  induction turns generalizing s with
  | nil => rfl
  | cons turn rest ih =>
    simp only [map_cons,mem_cons,not_or] at h
    rw [run_cons,ih _ h.2,get?_askCapabilities h.1]

theorem meets_of_own {turns : List (MirrorConfig × Window)} {s : CapabilityState}
    (honce : (turns.map (·.1.remoteId)).Nodup)
    (hown : ∀ turn ∈ turns, OwnCapabilities (run askCapabilities s turns).caps turn.1.remoteId) :
    Meets askCapabilities Timely s turns := by
  induction turns generalizing s with
  | nil => trivial
  | cons turn rest ih =>
    simp only [map_cons,nodup_cons] at honce
    refine ⟨?_,ih honce.2 fun later hlater => hown later (mem_cons_of_mem _ hlater)⟩
    obtain ⟨htimely,-⟩ | ⟨reading,hset,hiff⟩ := askCapabilities_cases s turn
    · exact htimely
    · have hread : (run askCapabilities s (turn :: rest)).caps.get? turn.1.remoteId =
          some reading := by
        rw [run_cons,get?_run_askCapabilities _ honce.1,hset]
        simp
      exact hiff.2 (hown turn (by simp) _ hread)

def CapabilitiesInTime (peer : FederationPeerConfig) (windows : Windows) : Prop :=
  (fetchPeerMetadata peer windows).isOk = true → peer.warmCapabilitiesOnStartup = true →
    Meets askCapabilities Timely ⟨(fetchHead peer windows).socket,.empty⟩ (capabilityTurns peer windows)

structure Fetched.Own (fetched : Fetched) (remoteIds : List String) : Prop where
  config : fetched.config.1 = .deviceConfigList
  schema : fetched.schema.1 = .telemetrySchemaList
  processSchema : ∀ reading ∈ fetched.processSchema, reading.1 = .processSchemaList
  capabilities : ∀ remoteId ∈ remoteIds, OwnCapabilities fetched.caps remoteId

theorem fetchPeerMetadata_ok {fetched : Fetched}
    (h : fetchPeerMetadata peer windows = .ok fetched) :
    (fetchHead peer windows).config = some fetched.config ∧
      (fetchHead peer windows).schema = some fetched.schema ∧
      (fetchHead peer windows).processSchema = fetched.processSchema ∧
      fetched.caps = if peer.warmCapabilitiesOnStartup then
        (run askCapabilities ⟨(fetchHead peer windows).socket,.empty⟩ (capabilityTurns peer windows)).caps
      else .empty := by
  unfold fetchPeerMetadata at h
  dsimp only at h
  split at h
  · next hconfig hschema =>
    cases h
    exact ⟨hconfig,hschema,rfl,rfl⟩
  · cases h

theorem map_fst_zip_sublist {α β : Type} (l : List α) (l' : List β) :
    ((l.zip l').map Prod.fst).Sublist l := by
  induction l generalizing l' with
  | nil => simp
  | cons x rest ih =>
    cases l' with
    | nil => simp
    | cons y rest' => simpa using ih rest'

theorem nodup_capabilityTurns (peer : FederationPeerConfig) (windows : Windows) :
    ((capabilityTurns peer windows).map (·.1.remoteId)).Nodup := by
  have hzip : (capabilityTurns peer windows).Sublist (peer.mirrorDevices.zip windows.capabilities) :=
    takeWhile_sublist _
  have hids := ((hzip.map Prod.fst).trans (map_fst_zip_sublist _ _)).map MirrorConfig.remoteId
  rw [map_map] at hids
  exact peer.devicesOnce.sublist hids

theorem mem_of_capabilityTurns
    {turn : MirrorConfig × Window} (h : turn ∈ capabilityTurns peer windows) :
    turn.1 ∈ peer.mirrorDevices :=
  (of_mem_zip ((takeWhile_sublist _).subset h)).1

theorem fetched_own_iff {fetched : Fetched} (h : fetchPeerMetadata peer windows = .ok fetched) :
    fetched.Own (peer.mirrorDevices.map MirrorConfig.remoteId) ↔ CapabilitiesInTime peer windows := by
  obtain ⟨hconfig,hschema,hprocess,hcaps⟩ := fetchPeerMetadata_ok h
  obtain ⟨hownConfig,hownSchema,hownProcess⟩ := fetchHead_own hconfig hschema
  rw [hprocess] at hownProcess
  constructor
  · intro hown _ hwarm
    rw [if_pos hwarm] at hcaps
    refine meets_of_own (nodup_capabilityTurns peer windows) fun turn hturn => ?_
    rw [← hcaps]
    exact hown.capabilities _ (mem_map_of_mem (mem_of_capabilityTurns hturn))
  · intro htime
    refine ⟨hownConfig,hownSchema,hownProcess,fun remoteId _ => ?_⟩
    rw [hcaps]
    cases hwarm : peer.warmCapabilitiesOnStartup with
    | false => simp [OwnCapabilities]
    | true =>
      have hmeets := htime (by rw [h]; rfl) hwarm
      have hempty : ∀ remoteId, OwnCapabilities (OrderedDict.empty : Capabilities) remoteId := by
        simp [OwnCapabilities]
      exact Meets.invariant timely_keeps hmeets hempty remoteId

section
variable (repr : Value → String)

variable {fetched : Fetched}

theorem applyDeviceMetadata_own {mirror : Mirror} {old : DeviceMetadata}
    (hfetched : fetched.Own [mirror.remoteId]) (hold : old.AllOwn mirror.remoteId) :
    (applyDeviceMetadata repr mirror fetched old).AllOwn mirror.remoteId where
  config := by
    simp only [applyDeviceMetadata]
    split
    · simp [Own,hfetched.config]
    · split
      · simp [Own]
      · next stored hstored => exact hstored ▸ hold.config
  schema := by
    simp only [applyDeviceMetadata]
    split
    · simp [Own,hfetched.schema]
    · exact hold.schema
  capabilities := by
    simp only [applyDeviceMetadata]
    split
    · next answered result hread =>
      have hown := hfetched.capabilities _ (by simp) _ hread
      simpa [Own] using hown
    · exact hold.capabilities

theorem applyProcessMetadata_own {mirror : Mirror} {old : Option Stored}
    (hfetched : ∀ reading ∈ fetched.processSchema, reading.1 = .processSchemaList)
    (hold : Own .processSchemaList old) :
    Own .processSchemaList (applyProcessMetadata repr mirror fetched old) := by
  simp only [applyProcessMetadata]
  split
  · exact hold
  · next answered reply hread =>
    split
    · simpa [Own] using hfetched _ hread
    · exact hold

theorem mem_deviceMirrors_of_mem {config : Peers} {peer : FederationPeerConfig} {mirror : MirrorConfig}
    (hpeer : peer ∈ config.peers) (hmirror : mirror ∈ peer.mirrorDevices) :
    ⟨mirror,peer.peerId⟩ ∈ deviceMirrors config :=
  mem_flatMap.2 ⟨peer,hpeer,mem_map_of_mem hmirror⟩

theorem applyPeerMetadata_own_iff {config : Peers} {peer : FederationPeerConfig} {windows : Windows}
    {m : Metadata} (hm : m.AllOwn config) (hpeer : peer ∈ config.peers)
    (hfetched : fetchPeerMetadata peer windows = .ok fetched) :
    (applyPeerMetadata repr peer fetched m).AllOwn config ↔ CapabilitiesInTime peer windows := by
  rw [← fetched_own_iff hfetched]
  constructor
  · intro hown
    obtain ⟨hconfig,hschema,hprocess,-⟩ := fetchPeerMetadata_ok hfetched
    obtain ⟨hownConfig,hownSchema,hownProcess⟩ := fetchHead_own hconfig hschema
    refine ⟨hownConfig,hownSchema,hprocess ▸ hownProcess,?_⟩
    intro remoteId hid reading hreading
    obtain ⟨mirror,hmirror,rfl⟩ := mem_map.1 hid
    have hstored := (hown.devices _ (mem_deviceMirrors_of_mem hpeer hmirror)).capabilities
    simp only [applyPeerMetadata,if_true,applyDeviceMetadata] at hstored
    rw [Option.mem_def.1 hreading] at hstored
    exact hstored _ rfl _ rfl
  · intro hown
    refine ⟨fun mirror hmirror => ?_,fun mirror hmirror => ?_⟩
    · simp only [applyPeerMetadata]
      split
      · next hid =>
        have hmem : mirror.remoteId ∈ peer.mirrorDevices.map MirrorConfig.remoteId :=
          mem_map_of_mem (mem_deviceMirrors hpeer hmirror hid)
        have hone : fetched.Own [mirror.remoteId] := { hown with
          capabilities := fun remoteId hone => hown.capabilities _ (mem_singleton.1 hone ▸ hmem) }
        exact applyDeviceMetadata_own repr hone (hm.devices mirror hmirror)
      · exact hm.devices mirror hmirror
    · simp only [applyPeerMetadata]
      split
      · exact applyProcessMetadata_own repr hown.processSchema (hm.processes mirror hmirror)
      · exact hm.processes mirror hmirror

/-- The warm-ups of this peer, if it is one, read its capabilities in time. -/
def InTime (config : Peers) : MetadataInput → Prop
  | .warmUp peerId windows => ∀ peer ∈ config.peers.find? fun peer => peer.peerId = peerId,
      CapabilitiesInTime peer windows
  | .capabilities _ _ => True

theorem metadataStep_own_iff (config : Peers) (m : Metadata) (input : MetadataInput)
    (hm : m.AllOwn config) : (metadataStep repr config m input).AllOwn config ↔ InTime config input := by
  cases input with
  | warmUp peerId windows =>
    cases hpeer : config.peers.find? fun peer => peer.peerId = peerId with
    | none => simpa [metadataStep,InTime,hpeer] using hm
    | some peer =>
      cases hfetched : fetchPeerMetadata peer windows with
      | error reason =>
        have hnone : CapabilitiesInTime peer windows := by
          simp [CapabilitiesInTime,hfetched,Except.isOk,Except.toBool]
        simpa [metadataStep,InTime,hpeer,hfetched,hnone] using hm
      | ok fetched =>
        simpa [metadataStep,InTime,hpeer,hfetched] using
          applyPeerMetadata_own_iff repr hm (mem_of_find?_eq_some hpeer) hfetched
  | capabilities localId entry =>
    refine iff_of_true ⟨fun mirror hmirror => ?_,hm.processes⟩ trivial
    have hold := hm.devices mirror hmirror
    simp only [metadataStep]
    split
    · exact { hold with capabilities := by simp [Own] }
    · exact hold

/-- All along a run of warm-ups and other writes, what is stored for each mirror from a warm-up is from
the reply to the request for exactly that, just when every warm-up without an error reads, as the
capabilities of a mirror, none that another reply gives. -/
theorem metadata_own_iff (config : Peers) (inputs : List MetadataInput) :
    (∀ reached, reached <+: inputs → (run (metadataStep repr config) {} reached).AllOwn config) ↔
      ∀ input ∈ inputs, InTime config input := by
  have hfirst : Metadata.AllOwn config {} := by
    refine ⟨fun mirror _ => ⟨?_,?_,?_⟩,fun mirror _ => ?_⟩ <;> simp [Own]
  rw [Meets.iff_always (metadataStep_own_iff repr config) hfirst,meets_inputs]

end

def warmPeer : FederationPeerConfig :=
  { laserPeer with
    mirrorProcesses := [⟨"lab_scan","scan",by decide,by decide⟩]
    warmCapabilitiesOnStartup := true
    processesOnce := by decide }

def warmConfig : Peers where
  peers := [warmPeer]
  peersOnce := by decide
  localsOnce := by decide

def slowSchema : Windows where
  config := { arrivals := [(.deviceConfigList,.dict false [("ok",.bool true),("result",.list [])])] }
  schema := { arrivals := [(.telemetrySchemaList,.dict false
    [("ok",.bool true),("result",.dict false [("devices",.list [])])])] }
  processSchema := {}
  capabilities := [{ arrivals := [(.processSchemaList,.dict false
    [("ok",.bool true),("result",.dict false [("processes",.list [])])])] }]

theorem process_schema_stored_as_capabilities :
    ¬∀ (repr : Value → String) (config : Peers) (inputs : List MetadataInput),
      (run (metadataStep repr config) {} inputs).AllOwn config := by
  intro h
  have hown := ((h (fun _ => "") warmConfig [.warmUp "lab" slowSchema]).devices
    ⟨⟨"lab_laser","laser",by decide,by decide⟩,"lab"⟩ (.head _)).capabilities
  have hstored := hown _ (by rfl) .processSchemaList (by rfl)
  cases hstored

end ExperimentControl.Federation

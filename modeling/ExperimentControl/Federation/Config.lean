import Mathlib.Data.List.Nodup
import ExperimentControl.Python.Conversions

/-!
The federation section of a manager's configuration (`federation/config.py`). What its parser
checks of ids is carried by the configuration.
-/

namespace ExperimentControl.Federation
open Python

def defaultFederationRelayTopics : List String :=
  ["manager.telemetry_update","manager.process_telemetry_update","manager.heartbeat",
    "manager.liveness","manager.process.heartbeat","manager.log","manager.command",
    "manager.command_interceptor.error","manager.command_interceptor.modified"]

structure FederationRelayConfig where
  topics : List String := defaultFederationRelayTopics
  onlyMirroredDevices : Bool := true
  includeOriginMeta : Bool := true

structure FederationPolicy where
  allowDeviceActions : List String := ["*"]
  denyDeviceActions : List String := []
  allowLifecycleOps : Bool := false
  allowAdminOps : Bool := false
  allowProcessActions : List String := []
  denyProcessActions : List String := []

namespace FederationPolicy
variable (fnmatchcase : String → String → Bool)

def allows (action : String) (deny allow : List String) : Bool :=
  let text := strip action
  text ≠ "" && !deny.any (fnmatchcase text) && allow.any (fnmatchcase text)

def allowsDeviceAction (policy : FederationPolicy) (action : String) : Bool :=
  allows fnmatchcase action policy.denyDeviceActions policy.allowDeviceActions

def allowsProcessAction (policy : FederationPolicy) (action : String) : Bool :=
  allows fnmatchcase action policy.denyProcessActions policy.allowProcessActions

end FederationPolicy

/-- `MirroredDeviceConfig` and `MirroredProcessConfig` -/
structure MirrorConfig where
  localId : String
  remoteId : String
  localStripped : strip localId = localId
  remoteStripped : strip remoteId = remoteId
  deriving DecidableEq

/-- A peer maps no remote device and no remote process twice. -/
structure FederationPeerConfig where
  peerId : String
  routerRpc : String
  managerPub : String
  mirrorDevices : List MirrorConfig
  mirrorProcesses : List MirrorConfig
  rpcTimeoutMs : Int
  eventStaleS : UInt64
  reconnectBackoffS : UInt64
  reconnectBackoffMaxS : UInt64
  metadataRpcTimeoutMs : Int
  warmCapabilitiesOnStartup : Bool
  policy : FederationPolicy
  relay : FederationRelayConfig
  devicesOnce : (mirrorDevices.map MirrorConfig.remoteId).Nodup
  processesOnce : (mirrorProcesses.map MirrorConfig.remoteId).Nodup

def FederationPeerConfig.localIds (peer : FederationPeerConfig) : List String :=
  peer.mirrorDevices.map MirrorConfig.localId ++ peer.mirrorProcesses.map MirrorConfig.localId

structure Peers where
  peers : List FederationPeerConfig
  peersOnce : (peers.map FederationPeerConfig.peerId).Nodup
  localsOnce : (peers.flatMap FederationPeerConfig.localIds).Nodup

structure FederationConfig extends Peers where
  enabled : Bool

end ExperimentControl.Federation

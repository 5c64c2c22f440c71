import ExperimentControl.Federation.Relay
import ExperimentControl.Manager.Ingest

/-!
One poll of the federation hub (`federation/hub.py`): the events that wait at the sockets of the
peers are taken in turn, and the manager's functions for them run inside the same loop. What the
manager adds to an event it publishes (journal, log, sinks) is left out; it does not raise.
-/

namespace ExperimentControl.Federation
open Python Manager Function

/-- What a `MirroredDeviceRuntime` keeps of the events about it, without the times of reception. -/
structure MirrorEvents where
  lastHbPayload : Option Entries := none
  lastLiveness : Option String := none
  lastLivenessAgeS : Option UInt64 := none
  lastLivenessHardTimeoutS : Option UInt64 := none
  lastLivenessHeartbeatPid : Option Int := none

structure HubEvents where
  devices : String → MirrorEvents := fun _ => {}
  /-- `last_hb_payload` of the process mirrors -/
  processes : String → Option Entries := fun _ => none
  /-- `_last_liveness` -/
  lastLiveness : String → Option String := fun _ => none

/-- `None` for a value that is absent or does not convert; only `TypeError` and `ValueError` are
caught. -/
def convertOrNone {α : Type} (convert : Value → Except PyExc α) (raw : Value) :
    Except PyExc (Option α) :=
  if raw = .none then .ok none
  else match convert raw with
    | .ok a => .ok (some a)
    | .error e => if e.kind = .typeError ∨ e.kind = .valueError then .ok none else .error e

def escapes {α : Type} (convert : Value → Except PyExc α) (raw : Value) : Bool :=
  raw ≠ .none && match convert raw with
    | .ok _ => false
    | .error e => e.kind ≠ .typeError && e.kind ≠ .valueError

theorem convertOrNone_cases {α : Type} (convert : Value → Except PyExc α) (raw : Value) :
    (∃ a, convertOrNone convert raw = .ok a ∧ escapes convert raw = false) ∨
    ∃ e, convertOrNone convert raw = .error e ∧ escapes convert raw = true := by
  unfold convertOrNone escapes
  by_cases hnone : raw = .none
  · exact .inl ⟨none,by simp [hnone]⟩
  · cases convert raw with
    | ok a => exact .inl ⟨some a,by simp [hnone]⟩
    | error e =>
      by_cases hcaught : e.kind = .typeError ∨ e.kind = .valueError
      · refine .inl ⟨none,by simp [hnone,hcaught],?_⟩
        rcases hcaught with h | h <;> simp [h]
      · rw [not_or] at hcaught
        exact .inr ⟨e,by simp [hnone,hcaught]⟩

section
variable (py : Manager.Runtime)

def livenessStates : List String := ["ONLINE","DISCONNECTED","STALE","OFFLINE"]

/-- `max(0.0, x)` -/
def notNegative (x : UInt64) : UInt64 := if py.lt 0 x then x else 0

/-- What a liveness event changes of its mirror, and what is raised on the way. -/
def recordLiveness (rewritten : Entries) (liveness : String) (mirror : MirrorEvents) :
    MirrorEvents × Option PyExc :=
  let mirror := if liveness ∈ livenessStates then { mirror with lastLiveness := some liveness } else mirror
  match convertOrNone py.toFloat (getKey rewritten "age_s") with
  | .error e => (mirror,some e)
  | .ok age =>
    let mirror := { mirror with lastLivenessAgeS := age.map (notNegative py) }
    match convertOrNone py.toFloat (getKey rewritten "heartbeat_hard_timeout_s") with
    | .error e => (mirror,some e)
    | .ok hardTimeout =>
      let mirror := { mirror with lastLivenessHardTimeoutS := hardTimeout }
      match convertOrNone py.toInt (getKey rewritten "heartbeat_pid") with
      | .error e => (mirror,some e)
      | .ok pid => ({ mirror with lastLivenessHeartbeatPid := pid },none)

def stampRecv (now : Timestamp) (payload : Entries) : Entries :=
  let ts := match getKey payload "ts" with
    | .dict _ ts => ts
    | _ => []
  setItem payload "ts" (.dict false
    (setItem (setItem ts "t_mono_recv" (.float now.mono)) "t_wall_recv" (.float now.wall)))

def publishManagerEvent (now : Timestamp) (topic : String) (payload : Entries) : Emitted :=
  .returned [(topic,if topic = "manager.process_telemetry_update" then stampRecv now payload else payload)]

/-- The end of `_relay_event` and of the paths for processes: what is kept, and what the manager makes
of the event. -/
def HubEvents.accept (hub : HubEvents) (now : Timestamp) : Handed → HubEvents × Emitted
  | .ingestTelemetry payload => (hub,ingestTelemetry py now payload)
  | .ingestHeartbeat localId payload =>
    let mirror := { hub.devices localId with lastHbPayload := some payload }
    ({ hub with devices := update hub.devices localId mirror },ingestHeartbeat py now payload)
  | .liveness localId payload =>
    let liveness := py.upper (((getKey payload "liveness").or (.str "")).text py.repr)
    let recorded := recordLiveness py payload liveness (hub.devices localId)
    let hub := { hub with
      devices := update hub.devices localId recorded.1
      lastLiveness := if liveness ∈ livenessStates then
        update hub.lastLiveness localId (some liveness) else hub.lastLiveness }
    (hub,match recorded.2 with
      | some e => ⟨[],some e⟩
      | none => publishManagerEvent now "manager.liveness" payload)
  | .emitLog payload => (hub,emitLogFromPayload py now payload "manager.log")
  | .publish topic payload => (hub,publishManagerEvent now topic payload)
  | .processHeartbeat localId payload =>
    ({ hub with processes := update hub.processes localId (some payload) },.returned [])

/-- A message of two frames: what decoding the second one gives or raises, and when it is handled.
What is not JSON decodes to `None`. -/
structure PeerMessage where
  topic : String
  payload : Except PyExc Value
  now : Timestamp

/-- What a part of a poll leaves behind; `drained` is what it returns. -/
structure Polled where
  hub : HubEvents
  out : Emitted
  drained : Nat

variable (config : Peers) (peer : FederationPeerConfig)

/-- One turn of the loop of `_drain_peer_events`. -/
def HubEvents.receive (hub : HubEvents) (message : PeerMessage) : HubEvents × Emitted :=
  match message.payload with
  | .error e => (hub,⟨[],some e⟩)
  | .ok (.dict _ payload) =>
    match relayEvent py.repr config peer message.topic payload with
    | none => (hub,.returned [])
    | some handed => hub.accept py message.now handed
  | .ok _ => (hub,.returned [])

def drainPeerEvents (hub : HubEvents) : List PeerMessage → Polled
  | [] => ⟨hub,.returned [],0⟩
  | message :: rest =>
    let received := hub.receive py config peer message
    match received.2.raised with
    | some _ => ⟨received.1,received.2,0⟩
    | none =>
      let polled := drainPeerEvents received.1 rest
      ⟨polled.hub,received.2.andThen polled.out,polled.drained+1⟩

/-- The loop of `handle_poll_events` over the sockets; `waiting` is what waits at one that can be
read. -/
def pollPeers (waiting : FederationPeerConfig → Option (List PeerMessage)) (hub : HubEvents) :
    List FederationPeerConfig → Polled
  | [] => ⟨hub,.returned [],0⟩
  | peer :: rest =>
    let first := drainPeerEvents py config peer hub ((waiting peer).getD [])
    match first.out.raised with
    | some _ => first
    | none =>
      let polled := pollPeers waiting first.hub rest
      ⟨polled.hub,first.out.andThen polled.out,first.drained+polled.drained⟩

/-- The peers that have a socket: `activate` makes none if the federation is disabled. -/
def FederationConfig.listened (config : FederationConfig) : List FederationPeerConfig :=
  if config.enabled then config.peers else []

def handlePollEvents (config : FederationConfig) (hub : HubEvents)
    (waiting : FederationPeerConfig → Option (List PeerMessage)) : Polled :=
  pollPeers py config.toPeers waiting hub config.listened

def badBundle (payload : Entries) : Bool :=
  match getKey payload "signals" with
  | .dict _ signals => signals.any (fun e => unhashableQuality e.2) ||
      !(py.toInt (getD payload "seq" (.int (-1)))).toOption.isSome
  | _ => false

def badLiveness (payload : Entries) : Bool :=
  escapes py.toFloat (getKey payload "age_s") ||
    escapes py.toFloat (getKey payload "heartbeat_hard_timeout_s") ||
    escapes py.toInt (getKey payload "heartbeat_pid")

/-- The events that stop a poll: they do not decode, or are about a mirrored device and have a bad
field of a bundle or of a liveness event. -/
def stopsPoll (message : PeerMessage) : Bool :=
  match message.payload with
  | .error _ => true
  | .ok (.dict _ payload) =>
    (resolveLocalId config peer message.topic payload).isSome &&
      ((message.topic = "manager.telemetry_update" && badBundle py payload) ||
        (message.topic = "manager.liveness" && badLiveness py payload))
  | .ok _ => false

def Handed.raises : Handed → Bool
  | .ingestTelemetry payload => telemetryRaises py payload
  | .liveness _ payload => badLiveness py payload
  | _ => false

theorem recordLiveness_raised (rewritten : Entries) (liveness : String) (mirror : MirrorEvents) :
    (recordLiveness py rewritten liveness mirror).2.isSome = badLiveness py rewritten := by
  unfold recordLiveness badLiveness
  rcases convertOrNone_cases py.toFloat (getKey rewritten "age_s") with ⟨age,hage,hok⟩ | ⟨e,hage,hesc⟩
  · rcases convertOrNone_cases py.toFloat (getKey rewritten "heartbeat_hard_timeout_s") with
      ⟨hard,hhard,hok'⟩ | ⟨e,hhard,hesc⟩
    · rcases convertOrNone_cases py.toInt (getKey rewritten "heartbeat_pid") with
        ⟨pid,hpid,hok''⟩ | ⟨e,hpid,hesc⟩
      · simp [hage,hhard,hpid,hok,hok',hok'']
      · simp [hage,hhard,hpid,hok,hok',hesc]
    · simp [hage,hhard,hok,hesc]
  · simp [hage,hesc]

theorem recordLiveness_raised_eq (rewritten : Entries) (liveness : String)
    (mirror mirror' : MirrorEvents) : (recordLiveness py rewritten liveness mirror).2 =
      (recordLiveness py rewritten liveness mirror').2 := by
  unfold recordLiveness
  cases convertOrNone py.toFloat (getKey rewritten "age_s") with
  | error e => rfl
  | ok age =>
    cases convertOrNone py.toFloat (getKey rewritten "heartbeat_hard_timeout_s") with
    | error e => rfl
    | ok hard => cases convertOrNone py.toInt (getKey rewritten "heartbeat_pid") <;> rfl

theorem accept_raised (hub : HubEvents) (now : Timestamp) (handed : Handed) :
    (hub.accept py now handed).2.raised.isSome = handed.raises py := by
  cases handed with
  | ingestTelemetry payload => exact ingestTelemetry_raised py now payload
  | ingestHeartbeat localId payload => exact congrArg Option.isSome (ingestHeartbeat_raised py now payload)
  | liveness localId payload =>
    rw [Handed.raises,← recordLiveness_raised py payload
      (py.upper (((getKey payload "liveness").or (.str "")).text py.repr)) (hub.devices localId)]
    simp only [HubEvents.accept]
    split
    · rename_i h
      simp [h]
    · rename_i h
      simp [h,publishManagerEvent,Emitted.returned]
  | emitLog payload => rfl
  | publish topic payload => rfl
  | processHeartbeat localId payload => rfl

theorem accept_out (hub hub' : HubEvents) (now : Timestamp) (handed : Handed) :
    (hub.accept py now handed).2 = (hub'.accept py now handed).2 := by
  cases handed with
  | liveness localId payload =>
    simp only [HubEvents.accept]
    rw [recordLiveness_raised_eq py payload _ (hub.devices localId) (hub'.devices localId)]
  | _ => rfl

theorem receive_out (hub hub' : HubEvents) (message : PeerMessage) :
    (hub.receive py config peer message).2 = (hub'.receive py config peer message).2 := by
  unfold HubEvents.receive
  split
  · rfl
  · split
    · rfl
    · exact accept_out py hub hub' _ _
  · rfl

variable {payload : Entries}

theorem relayEvent_resolved {topic : String} {localId : String}
    (htelemetry : topic ≠ "manager.process_telemetry_update")
    (hheartbeat : topic ≠ "manager.process.heartbeat")
    (h : resolveLocalId config peer topic payload = some localId) :
    ∃ remoteId, relayEvent py.repr config peer topic payload =
      some (handOver topic localId (rewritePayload payload localId peer.peerId remoteId
        peer.relay.includeOriginMeta)) := by
  obtain ⟨mirror,hmem,_,_,_,rfl⟩ := resolveLocalId_some h
  refine ⟨mirror.remoteId,?_⟩
  rw [relayEvent,if_neg htelemetry,if_neg hheartbeat,h]
  dsimp only
  rw [mirror?_of_mem hmem,Option.map_some]

theorem relayEvent_unresolved_raises {topic : String} {handed : Handed}
    (hresolve : topic = "manager.process_telemetry_update" ∨ topic = "manager.process.heartbeat" ∨
      resolveLocalId config peer topic payload = none)
    (h : relayEvent py.repr config peer topic payload = some handed) : handed.raises py = false := by
  unfold relayEvent at h
  split at h
  · obtain ⟨mirror,_,rfl⟩ := Option.map_eq_some_iff.1 h
    rfl
  split at h
  · obtain ⟨mirror,_,rfl⟩ := Option.map_eq_some_iff.1 h
    rfl
  rename_i htelemetry hheartbeat
  rw [(hresolve.resolve_left htelemetry).resolve_left hheartbeat] at h
  dsimp only at h
  split at h
  · cases h
  · unfold relayEventVerbatim at h
    split at h
    · cases h
    · obtain rfl := Option.some.inj h
      split <;> rfl

theorem rewritten_badBundle (payload : Entries) (localId peerId remoteId : String)
    (includeOriginMeta : Bool) :
    badBundle py (rewritePayload payload localId peerId remoteId includeOriginMeta) =
      badBundle py payload := by
  unfold badBundle
  simp only [Python.getKey,getD]
  rw [rewritePayload_item (by decide) (.inr (by decide)),
    rewritePayload_item (by decide) (.inr (by decide))]

theorem rewritten_badLiveness (payload : Entries) (localId peerId remoteId : String)
    (includeOriginMeta : Bool) :
    badLiveness py (rewritePayload payload localId peerId remoteId includeOriginMeta) =
      badLiveness py payload := by
  unfold badLiveness
  simp only [Python.getKey,getD]
  rw [rewritePayload_item (by decide) (.inr (by decide)),
    rewritePayload_item (by decide) (.inr (by decide)),
    rewritePayload_item (by decide) (.inr (by decide))]

theorem telemetryRaises_of_device (h : getKey payload "device_id" ≠ .none) :
    telemetryRaises py payload = badBundle py payload := by
  unfold telemetryRaises badBundle
  cases hid : getKey payload "device_id" with
  | none => exact absurd hid h
  | bool _ | int _ | float _ | str _ | list _ | dict _ _ =>
    cases getKey payload "signals" <;> rfl

theorem resolved_device {localId : String}
    (h : resolveLocalId config peer "manager.telemetry_update" payload = some localId) :
    getKey payload "device_id" ≠ .none := by
  obtain ⟨mirror,_,_,hremote,hne,_⟩ := resolveLocalId_some h
  intro hnone
  apply hne
  rw [hremote]
  simp [remoteDeviceId,namedDeviceId,hnone]

theorem receive_raised (hub : HubEvents) (message : PeerMessage) :
    (hub.receive py config peer message).2.raised.isSome = stopsPoll py config peer message := by
  unfold HubEvents.receive stopsPoll
  cases message.payload with
  | error e => rfl
  | ok v =>
    cases v with
    | dict attr payload =>
      dsimp only
      cases hresolved : resolveLocalId config peer message.topic payload with
      | none =>
        cases hrelay : relayEvent py.repr config peer message.topic payload with
        | none => rfl
        | some handed =>
          rw [accept_raised]
          exact relayEvent_unresolved_raises py config peer (.inr (.inr hresolved)) hrelay
      | some localId =>
        by_cases hprocess : message.topic = "manager.process_telemetry_update" ∨
            message.topic = "manager.process.heartbeat"
        · have hstops : ((some localId).isSome &&
              ((message.topic = "manager.telemetry_update" && badBundle py payload) ||
                (message.topic = "manager.liveness" && badLiveness py payload))) = false := by
            rcases hprocess with h | h <;> simp [h]
          cases hrelay : relayEvent py.repr config peer message.topic payload with
          | none => exact hstops.symm
          | some handed =>
            rw [accept_raised,hstops]
            rcases hprocess with h | h
            · exact relayEvent_unresolved_raises py config peer (.inl h) hrelay
            · exact relayEvent_unresolved_raises py config peer (.inr (.inl h)) hrelay
        · rw [not_or] at hprocess
          obtain ⟨remoteId,hrelay⟩ :=
            relayEvent_resolved py config peer hprocess.1 hprocess.2 hresolved
          rw [hrelay]
          dsimp only
          rw [accept_raised,handOver]
          split
          · rename_i htopic
            have hdevice : getKey (rewritePayload payload localId peer.peerId remoteId
                peer.relay.includeOriginMeta) "device_id" ≠ .none := by
              rw [rewritePayload_device]
              split
              · exact Value.noConfusion
              · exact resolved_device config peer (htopic ▸ hresolved)
            rw [Handed.raises,telemetryRaises_of_device py hdevice,rewritten_badBundle]
            simp [htopic]
          split
          · rename_i htopic
            simp [htopic,Handed.raises]
          split
          · rename_i htopic
            simp [htopic,Handed.raises,rewritten_badLiveness]
          · rename_i htelemetry _ hliveness
            have hother : ∀ handed : Handed, handed.raises py = false →
                handed.raises py = ((some localId).isSome &&
                  ((message.topic = "manager.telemetry_update" && badBundle py payload) ||
                    (message.topic = "manager.liveness" && badLiveness py payload))) := by
              intro handed h
              simp [h,htelemetry,hliveness]
            split
            · exact hother _ rfl
            · exact hother _ rfl
    | none | bool _ | int _ | float _ | str _ | list _ => rfl

def relayed (message : PeerMessage) : List PubEvent :=
  (({} : HubEvents).receive py config peer message).2.events

theorem receive_events (hub : HubEvents) (message : PeerMessage) :
    (hub.receive py config peer message).2.events = relayed py config peer message := by
  rw [relayed,receive_out py config peer hub {}]

theorem drain_raised (hub : HubEvents) (messages : List PeerMessage) :
    (drainPeerEvents py config peer hub messages).out.raised.isSome =
      messages.any (stopsPoll py config peer) := by
  induction messages generalizing hub with
  | nil => rfl
  | cons message rest ih =>
    have hraised := receive_raised py config peer hub message
    unfold drainPeerEvents
    cases hr : (hub.receive py config peer message).2.raised with
    | some e =>
      rw [hr] at hraised
      simp [hr,← hraised]
    | none =>
      rw [hr] at hraised
      simp [hr,← hraised,ih]

theorem drain_events (hub : HubEvents) (messages : List PeerMessage)
    (h : messages.any (stopsPoll py config peer) = false) :
    (drainPeerEvents py config peer hub messages).out.events =
      messages.flatMap (relayed py config peer) := by
  induction messages generalizing hub with
  | nil => rfl
  | cons message rest ih =>
    rw [List.any_cons,Bool.or_eq_false_iff] at h
    have hraised := receive_raised py config peer hub message
    rw [h.1,Option.isSome_eq_false_iff,Option.isNone_iff_eq_none] at hraised
    unfold drainPeerEvents
    simp only [hraised]
    rw [Emitted.andThen_events _ hraised,receive_events,ih _ h.2,List.flatMap_cons]

variable (waiting : FederationPeerConfig → Option (List PeerMessage))

def stopWaiting (peer : FederationPeerConfig) : Bool :=
  ((waiting peer).getD []).any (stopsPoll py config peer)

theorem poll_raised (hub : HubEvents) (peers : List FederationPeerConfig) :
    (pollPeers py config waiting hub peers).out.raised.isSome =
      peers.any (stopWaiting py config waiting) := by
  induction peers generalizing hub with
  | nil => rfl
  | cons peer rest ih =>
    have hraised := drain_raised py config peer hub ((waiting peer).getD [])
    unfold pollPeers
    cases hr : (drainPeerEvents py config peer hub ((waiting peer).getD [])).out.raised with
    | some e =>
      rw [hr] at hraised
      simp [hr,stopWaiting,← hraised]
    | none =>
      rw [hr] at hraised
      simp [hr,stopWaiting,← hraised,ih]

theorem poll_events (hub : HubEvents) (peers : List FederationPeerConfig)
    (h : peers.any (stopWaiting py config waiting) = false) :
    (pollPeers py config waiting hub peers).out.events =
      peers.flatMap fun peer => ((waiting peer).getD []).flatMap (relayed py config peer) := by
  induction peers generalizing hub with
  | nil => rfl
  | cons peer rest ih =>
    rw [List.any_cons,Bool.or_eq_false_iff] at h
    have hraised := drain_raised py config peer hub ((waiting peer).getD [])
    rw [stopWaiting] at h
    rw [h.1,Option.isSome_eq_false_iff,Option.isNone_iff_eq_none] at hraised
    unfold pollPeers
    simp only [hraised]
    rw [Emitted.andThen_events _ hraised,drain_events py config peer hub _ h.1,ih _ h.2,
      List.flatMap_cons]

end

/-- The poll returns, and what each waiting message is relayed as is emitted once, in order. -/
def PollsThrough (py : Manager.Runtime) (config : FederationConfig) (hub : HubEvents)
    (waiting : FederationPeerConfig → Option (List PeerMessage)) : Prop :=
  let polled := handlePollEvents py config hub waiting
  polled.out.raised = none ∧ polled.out.events = config.listened.flatMap fun peer =>
    ((waiting peer).getD []).flatMap (relayed py config.toPeers peer)

/-- A poll comes through exactly if none of the messages that wait stops it. -/
theorem poll_through_iff (py : Manager.Runtime) (config : FederationConfig) (hub : HubEvents)
    (waiting : FederationPeerConfig → Option (List PeerMessage)) :
    PollsThrough py config hub waiting ↔
      ∀ peer ∈ config.listened, ∀ messages, waiting peer = some messages →
        ∀ message ∈ messages, stopsPoll py config.toPeers peer message = false := by
  have hcond : (config.listened.any (stopWaiting py config.toPeers waiting) = false) ↔
      ∀ peer ∈ config.listened, ∀ messages, waiting peer = some messages →
        ∀ message ∈ messages, stopsPoll py config.toPeers peer message = false := by
    rw [List.any_eq_false]
    refine forall₂_congr fun peer _ => ?_
    unfold stopWaiting
    cases waiting peer <;> simp
  rw [← hcond]
  have hraised := poll_raised py config.toPeers waiting hub config.listened
  constructor
  · intro h
    rw [← hraised]
    change (handlePollEvents py config hub waiting).out.raised.isSome = false
    rw [h.1]
    rfl
  · intro h
    rw [h,Option.isSome_eq_false_iff,Option.isNone_iff_eq_none] at hraised
    exact ⟨hraised,poll_events py config.toPeers waiting hub config.listened h⟩

def nullBundle : PeerMessage where
  topic := "manager.telemetry_update"
  payload := .ok (.dict false [("device_id",.str "laser"),("signals",.dict false []),
    ("seq",.none)])
  now := ⟨0,0⟩

theorem null_bundle_stops_poll :
    ¬∀ (py : Manager.Runtime) (config : FederationConfig) (hub : HubEvents)
      (waiting : FederationPeerConfig → Option (List PeerMessage)),
      PollsThrough py config hub waiting := by
  intro h
  have hpoll := (h .digits laserConfig {} fun _ => some [nullBundle]).1
  revert hpoll
  decide

end ExperimentControl.Federation

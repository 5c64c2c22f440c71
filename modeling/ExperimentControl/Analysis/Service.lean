import ExperimentControl.Analysis.Execute
import Mathlib.Data.List.Sort

/-!
The workspaces of the stream analysis process: how they are installed, deleted, cleared, reset and
reloaded, with the stream index, the latest outputs and the readers that hang on them.
-/

namespace ExperimentControl.Analysis
open Lib

section
variable (K : Kernels)

/-- `context_id` and `context_fields`; "no context" has neither. -/
structure Context where
  contextId : Option Int
  contextFields : Option K.Fields

structure Payload where
  output : Output K
  stream : String × String
  seq : Option Int
  context : Context K

structure Stream where
  shmName : String
  slotCount : Nat
  lastSeq : Int
  context : Option (Context K)
  contextBySeq : OrderedDict Int (Context K)

/-- Settings of the process; a period of 0 is off. -/
structure Settings where
  histOutputPeriod : Nat
  traceOutputPeriod : Nat
  contextCacheLimit : Nat
  storeConfigured : Bool
  deriving DecidableEq

structure Service where
  settings : Settings
  workspaces : OrderedDict String (WorkspaceRuntime K)
  latest : OrderedDict (String × String) (Payload K)
  traceWriters : OrderedDict (String × String) Nat
  histLastEmit : OrderedDict String Nat
  traceLastEmit : OrderedDict String Nat
  streamToWorkspaces : OrderedDict (String × String) (List String)
  streams : OrderedDict (String × String) (Stream K)
  storeDirty : Bool
  processedUpdates : Nat

inductive ServiceError where
  | compile (e : CompileError)
  | revisionConflict (expected : Int) (current : Option Nat)
  | storeNotConfigured
  | storeNotFound
  | storeUnreadable
  | storePayload
  | storeEntryObject
  | storeEntryId
  deriving DecidableEq

end

def Service.initial (K : Kernels) (settings : Settings) : Service K where
  settings := settings
  workspaces := .empty
  latest := .empty
  traceWriters := .empty
  histLastEmit := .empty
  traceLastEmit := .empty
  streamToWorkspaces := .empty
  streams := .empty
  storeDirty := false
  processedUpdates := 0

variable {K : Kernels}

/-- `_rebuild_stream_index`: the enabled workspaces by stream. -/
def streamIndex (workspaces : OrderedDict String (WorkspaceRuntime K)) :
    OrderedDict (String × String) (List String) :=
  workspaces.entries.foldl (fun index e =>
    if e.2.compiled.enabled then
      let key := e.2.compiled.streamKey
      let ids := (index.get? key).getD []
      index.set key (if ids.contains e.2.compiled.workspaceId then ids
        else ids ++ [e.2.compiled.workspaceId])
    else index) .empty

/-- With `_reconcile_stream_runtime_keys`, which lets go of the streams that nobody subscribes to. -/
def Service.rebuildStreamIndex (s : Service K) : Service K :=
  let index := streamIndex s.workspaces
  { s with
    streamToWorkspaces := index
    streams := s.streams.filterKeys fun key => index.contains key }

def Service.traceActive (s : Service K) (key : String × String) : Bool :=
  s.workspaces.entries.any fun e =>
    e.2.compiled.enabled && e.2.compiled.workspaceId = key.1 &&
      e.2.compiled.outputs.any fun out => out.kind = .trace && out.outputId = key.2

def Service.reconcileTraceWriters (s : Service K) : Service K :=
  { s with traceWriters := s.traceWriters.filterKeys s.traceActive }

/-- `_clear_workspace_snapshot_outputs`, of the workspace or of one of its nodes. -/
def Service.clearSnapshotOutputs (s : Service K) (id : String) (nodeId : Option String) :
    Service K :=
  { s with
    latest := s.latest.filterEntries fun key payload =>
      key.1 ≠ id || nodeId.any (payload.output.nodeId ≠ ·) }

def Service.pruneSnapshotOutputs (s : Service K) (c : CompiledWorkspace K) : Service K :=
  { s with
    latest := s.latest.filterKeys fun key =>
      key.1 ≠ c.workspaceId || (c.outputs.map (·.outputId)).contains key.2 }

/-- The filters and the trace limit of a snapshot request. -/
structure SnapshotParams where
  kinds : Option (List Kind)
  outputIds : Option (List String)
  maxTracePoints : Option Nat
  deriving DecidableEq

/-- The outputs of `_workspace_snapshot_payload`. -/
def Service.snapshotOutputs (s : Service K) (id : String) (params : SnapshotParams) :
    Option (List (PublishOutput × Payload K)) :=
  (s.workspaces.get? id).map fun w => w.compiled.outputs.filterMap fun out =>
    if params.outputIds.any fun ids => !ids.contains out.outputId then none
    else match s.latest.get? (id,out.outputId) with
      | none => none
      | some payload =>
        if params.kinds.any fun kinds => !kinds.contains payload.output.kind then none
        else match payload.output.kind,params.maxTracePoints with
          | .trace,some limit => (K.decimate limit payload.output.value).map fun value =>
              (out,{ payload with output := { payload.output with value } })
          | _,_ => some (out,payload)

/-- `_validate_workspace_expected_revision`. -/
def checkExpectedRevision (existing : Option (WorkspaceRuntime K)) (expected : Option Int) :
    Except ServiceError Unit :=
  match expected,existing with
  | none,_ => .ok ()
  | some expected,none => if expected = 0 then .ok () else .error (.revisionConflict expected none)
  | some expected,some w =>
    if expected = w.revision then .ok () else .error (.revisionConflict expected (some w.revision))

def workspaceDirtyNodes (old new : CompiledWorkspace K) : List String :=
  marked (fun n => match old.nodes.get? n,new.nodes.get? n with
    | some before,some after => !before.same after
    | _,_ => true) (sourcesOf new.nodes) new.order

def workspaceReusedNodeState (existing : Option (WorkspaceRuntime K)) (c : CompiledWorkspace K) :
    OrderedDict String (Cell K) :=
  match existing with
  | none => .empty
  | some w =>
    let dirty := workspaceDirtyNodes w.compiled c
    w.nodeState.filterKeys fun n => n ∉ dirty && match w.compiled.nodes.get? n,c.nodes.get? n with
      | some before,some after => before.same after
      | _,_ => false

def initStatefulNode (c : CompiledWorkspace K) (nodeState : OrderedDict String (Cell K))
    (n : String) : OrderedDict String (Cell K) :=
  if nodeState.contains n then nodeState
  else match c.nodes.get? n with
    | some node => if opStateful node.op then nodeState.set n node.newCell else nodeState
    | none => nodeState

def initStatefulNodes (c : CompiledWorkspace K) (nodeState : OrderedDict String (Cell K)) :
    OrderedDict String (Cell K) :=
  c.order.foldl (initStatefulNode c) nodeState

/-- `_workspace_runtime_from_compiled`, with the new states and the axis; a state that is not kept
counts as reset. -/
def newRuntime (existing : Option (WorkspaceRuntime K)) (config : Config K)
    (c : CompiledWorkspace K) (axis : K.Axis) : WorkspaceRuntime K :=
  let reused := workspaceReusedNodeState existing c
  { compiled := c
    rawConfig := { config with workspaceId := c.workspaceId,enabled := c.enabled }
    nodeState := initStatefulNodes c reused
    processedSamples := (existing.map (·.processedSamples)).getD 0
    droppedSamples := (existing.map (·.droppedSamples)).getD 0
    revision := (existing.map (·.revision+1)).getD 1
    xAxis := axis
    resets := match existing with
      | none => fun _ => 0
      | some w => fun n => if reused.contains n then w.resets n else w.resets n+1 }

def resetNodeIds (existing : Option (WorkspaceRuntime K)) (c : CompiledWorkspace K) : List String :=
  let reused := workspaceReusedNodeState existing c
  (initStatefulNodes c reused).keys.filter fun n => !reused.contains n

/-- What follows the checks of `_put_workspace_from_config`. -/
def Service.install (s : Service K) (config : Config K) (c : CompiledWorkspace K) (axis : K.Axis)
    (markDirty : Bool) : Service K :=
  let existing := s.workspaces.get? c.workspaceId
  let s := { s with workspaces := s.workspaces.set c.workspaceId (newRuntime existing config c axis) }
  let s := s.pruneSnapshotOutputs c
  let s := (resetNodeIds existing c).foldl
    (fun s nodeId => s.clearSnapshotOutputs c.workspaceId (some nodeId)) s
  let s := s.rebuildStreamIndex.reconcileTraceWriters
  { s with storeDirty := s.storeDirty || markDirty && s.settings.storeConfigured }

/-- `_put_workspace_from_config`; the axes are what the streams resolve to. -/
def Service.put (s : Service K) (config : Config K) (expected : Option Int)
    (axes : String × String → K.Axis) (markDirty : Bool) : Except ServiceError (Service K) :=
  match compileWorkspaceGraph config with
  | .error e => .error (.compile e)
  | .ok c =>
    match checkExpectedRevision (s.workspaces.get? c.workspaceId) expected with
    | .error e => .error e
    | .ok () => .ok (s.install config c (axes c.streamKey) markDirty)

def Service.delete (s : Service K) (id : String) (expected : Option Int) :
    Except ServiceError (Service K) :=
  let current : Option Nat := (s.workspaces.get? id).map (·.revision)
  match expected with
  | some expected =>
    if current.any fun revision => expected = (revision : Int) then .ok (removed s id)
    else .error (.revisionConflict expected current)
  | none => .ok (removed s id)
where
  removed (s : Service K) (id : String) : Service K :=
    let known := s.workspaces.contains id
    let s := { s with workspaces := s.workspaces.erase id }
    let s := (s.clearSnapshotOutputs id none).reconcileTraceWriters
    let s := { s with
      histLastEmit := s.histLastEmit.erase id
      traceLastEmit := s.traceLastEmit.erase id }
    let s := s.rebuildStreamIndex
    { s with storeDirty := s.storeDirty || known && s.settings.storeConfigured }

def Service.clear (s : Service K) (markDirty : Bool) : Service K :=
  let s : Service K := { s with
    workspaces := .empty
    latest := .empty
    traceWriters := .empty
    histLastEmit := .empty
    traceLastEmit := .empty }
  let s := s.rebuildStreamIndex
  { s with storeDirty := s.storeDirty || markDirty && s.settings.storeConfigured }

def Cell.reset (cell : Cell K) : Cell K := ⟨K.reset cell.state,[]⟩

def WorkspaceRuntime.resetStates (w : WorkspaceRuntime K) : WorkspaceRuntime K :=
  { w with
    nodeState := w.nodeState.mapValues fun _ cell => cell.reset
    resets := fun n => w.resets n+1 }

def WorkspaceRuntime.resetNode (w : WorkspaceRuntime K) (nodeId : String) :
    Option (WorkspaceRuntime K) :=
  (w.nodeState.get? nodeId).map fun cell =>
    { w with
      nodeState := w.nodeState.set nodeId cell.reset
      resets := Function.update w.resets nodeId (w.resets nodeId+1) }

/-- `stream_analysis.workspace.reset`, where it is refused the service as it was. -/
def Service.reset (s : Service K) (id nodeId : Option String) : Service K :=
  match id,nodeId with
  | none,some _ => s
  | none,none =>
    { s with workspaces := s.workspaces.mapValues (fun _ w => w.resetStates),latest := .empty }
  | some id,nodeId =>
    match s.workspaces.get? id with
    | none => s
    | some w =>
      match nodeId with
      | none =>
        { s with workspaces := s.workspaces.set id w.resetStates }.clearSnapshotOutputs id none
      | some nodeId =>
        match w.resetNode nodeId with
        | none => s
        | some w =>
          { s with workspaces := s.workspaces.set id w }.clearSnapshotOutputs id (some nodeId)

/-- What is below `workspaces` in a store. -/
inductive StoreWorkspaces (K : Kernels) where
  | null
  | list (items : List (Option (Config K)))
  /-- The keys as `_normalize_id` makes them. -/
  | mapping (items : List (String × Option (Config K)))
  | other

/-- A loaded store file; an item that is no object is missing. -/
inductive StorePayload (K : Kernels) where
  | null
  | list (items : List (Option (Config K)))
  | workspaces (items : StoreWorkspaces K)
  /-- A single workspace, with `workspace_id` and `graph`. -/
  | single (config : Config K)
  | emptyObject
  | otherObject
  | other

/-- What `_reload_workspace_store` finds at the path. -/
inductive StoreFile (K : Kernels) where
  | missing
  | unreadable
  | loaded (payload : StorePayload K)

def storeSourceItems : StorePayload K → Except ServiceError (List (Option String × Option (Config K)))
  | .null => .ok []
  | .list items => .ok (items.map fun item => (none,item))
  | .workspaces .null => .ok []
  | .workspaces (.list items) => .ok (items.map fun item => (none,item))
  | .workspaces (.mapping items) => .ok (items.map fun e => (some e.1,e.2))
  | .workspaces .other => .error .storePayload
  | .single config => .ok [(none,some config)]
  | .emptyObject => .ok []
  | .otherObject => .error .storePayload
  | .other => .error .storePayload

def storeNormalizeEntry (e : Option String × Option (Config K)) : Except ServiceError (Config K) :=
  match e.2 with
  | none => .error .storeEntryObject
  | some config =>
    let config := match normalizeId config.workspaceId,e.1 with
      | none,some key => { config with workspaceId := Python.strip key }
      | _,_ => config
    if (normalizeId config.workspaceId).isNone then .error .storeEntryId else .ok config

def parseStorePayload (payload : StorePayload K) : Except ServiceError (List (Config K)) := do
  let items ← storeSourceItems payload
  let entries ← items.mapM storeNormalizeEntry
  return entries.insertionSort fun a b => a.workspaceId ≤ b.workspaceId

/-- The loop of `_reload_workspace_store`, with the service at the entry that fails. -/
def Service.loadEntries (axes : String × String → K.Axis) :
    Service K → List (Config K) → Service K × Except ServiceError Unit
  | s,[] => (s,.ok ())
  | s,config :: rest =>
    match s.put config none axes false with
    | .ok s => s.loadEntries axes rest
    | .error e => (s,.error e)

/-- `_reload_workspace_store(strict_missing=True)`. -/
def Service.reload (s : Service K) (file : StoreFile K) (axes : String × String → K.Axis) :
    Service K × Except ServiceError Unit :=
  if !s.settings.storeConfigured then (s,.error .storeNotConfigured)
  else match file with
    | .missing => (s,.error .storeNotFound)
    | .unreadable => (s,.error .storeUnreadable)
    | .loaded payload =>
      match parseStorePayload payload with
      | .error e => (s,.error e)
      | .ok configs =>
        match (s.clear false).loadEntries axes configs with
        | (s,.ok ()) => ({ s with storeDirty := false },.ok ())
        | (s,.error e) => (s,.error e)

end ExperimentControl.Analysis

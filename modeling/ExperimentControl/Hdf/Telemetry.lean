import ExperimentControl.Hdf.Values
import ExperimentControl.Lib.OrderedDict
import Mathlib.Algebra.Order.Field.Rat

/-!
The telemetry part of the HDF writer: the schema map and the datasets that device and process
telemetry share, schema ingestion, and the batch of rows that goes through staging arrays into the
datasets.
-/

namespace ExperimentControl.Hdf
open Lib Python

/-- An entry of `_device_map`. -/
structure Entry where
  signals : List String
  dtypes : List String
  units : List String
  deriving DecidableEq

inductive Source where
  | device | process
  deriving DecidableEq

/-- The cells of one row; `signals` follows the fields of the dataset. -/
structure Cells where
  tWall : UInt64
  tMono : UInt64
  tWallRecv : UInt64
  seq : Int
  signals : List Cell
  deriving DecidableEq

structure TelemetryDataset where
  source : Source
  schema : Entry
  fields : List (String × FieldType)
  rows : List Cells
  deriving DecidableEq

def TelemetryDataset.append (d : TelemetryDataset) (rows : List Cells) : TelemetryDataset :=
  { d with rows := d.rows ++ rows }

def fixedFields : List String := ["t_wall","t_mono","t_wall_recv","seq"]

def createDeviceDataset (py : Py) (source : Source) (ident : String) (entry : Entry) :
    Option TelemetryDataset := do
  guard (py.groupName ident)
  guard (entry.signals.length = entry.dtypes.length)
  let types ← entry.dtypes.mapM py.dtypeFor
  guard (fixedFields ++ entry.signals).Nodup
  pure ⟨source,entry,entry.signals.zip types,[]⟩

/-- One element of a schema answer; `entry` is missing where reading it raises. -/
structure SchemaItem where
  ident : String
  entry : Option Entry
  deriving DecidableEq

structure Telemetry where
  deviceMap : OrderedDict String Entry
  datasets : OrderedDict String TelemetryDataset

/-- One round of the loop of `_ingest_schema`. -/
def ingestDevice (py : Py) (writeEnabled : String → Bool) (t : Telemetry) (item : SchemaItem) :
    Telemetry :=
  match item.entry with
  | none => { t with deviceMap := t.deviceMap.erase item.ident }
  | some entry =>
    let deviceMap := t.deviceMap.set item.ident entry
    if writeEnabled item.ident && !t.datasets.contains item.ident && !entry.signals.isEmpty then
      match createDeviceDataset py .device item.ident entry with
      | some d => ⟨deviceMap,t.datasets.set item.ident d⟩
      | none => { t with deviceMap := deviceMap.erase item.ident }
    else { t with deviceMap := deviceMap }

/-- `_ingest_schema`, with its result put into `_device_map` as all callers do. -/
def ingestSchema (py : Py) (writeEnabled : String → Bool) (answer : List SchemaItem)
    (t : Telemetry) : Telemetry :=
  answer.foldl (ingestDevice py writeEnabled) { t with deviceMap := .empty }

/-- One round of the loop of `_ingest_process_schema`. -/
def ingestProcess (py : Py) (writeEnabled : String → Bool) (t : Telemetry) (item : SchemaItem) :
    Telemetry :=
  if item.ident = "" then t
  else
    match item.entry with
    | none => { t with deviceMap := t.deviceMap.erase item.ident }
    | some entry =>
      if entry.signals.isEmpty then t
      else
        let deviceMap := t.deviceMap.set item.ident entry
        if writeEnabled item.ident && !t.datasets.contains item.ident then
          match createDeviceDataset py .process item.ident entry with
          | some d => ⟨deviceMap,t.datasets.set item.ident d⟩
          | none => { t with deviceMap := deviceMap.erase item.ident }
        else { t with deviceMap := deviceMap }

def ingestProcessSchema (py : Py) (writeEnabled : String → Bool) (answer : List SchemaItem)
    (t : Telemetry) : Telemetry :=
  answer.foldl (ingestProcess py writeEnabled) t

/-- The process ids that `_ingest_process_schema` returns. -/
def seenProcesses (answer : List SchemaItem) : List String :=
  (answer.filter fun item =>
    item.ident ≠ "" && item.entry.any fun entry => !entry.signals.isEmpty).map (·.ident)

/-- `_is_device_enabled` and `_is_process_enabled`, for the ids that are switched off. -/
def isEnabled (disabled : List String) (ident : String) : Bool :=
  let text := strip ident
  text ≠ "" && text ∉ disabled

/-- What one schema request meets: the clock, and the answer or the failure. -/
structure SchemaCall where
  now : ℚ
  answer : Option (List SchemaItem)

/-- The caches that keep `_ensure_device` from asking too often. -/
structure SchemaCaches where
  absent : OrderedDict String ℚ
  rpcError : OrderedDict String ℚ

def schemaAbsentTtlS : ℚ := 3
def schemaRpcErrorBackoffS : ℚ := 1/2

def monoCacheActive (cache : OrderedDict String ℚ) (key : String) (period now : ℚ) : Bool :=
  (cache.get? key).any fun last => now-last < period

abbrev Msg := List (String × Value)

structure TelemetryState where
  maps : Telemetry
  caches : SchemaCaches
  disabledDevices : List String
  disabledProcesses : List String
  knownProcessIds : List String
  /-- Whether `_telemetry_group` and `_process_telemetry_group` are set. -/
  telemetryGroup : Bool
  processTelemetryGroup : Bool
  buf : List Msg

def ensureDevice (py : Py) (call : SchemaCall) (s : TelemetryState) (device : String) :
    Bool × TelemetryState :=
  if !isEnabled s.disabledDevices device then (false,s)
  else if s.maps.datasets.contains device then (true,s)
  else if !s.telemetryGroup then (false,s)
  else if monoCacheActive s.caches.absent device schemaAbsentTtlS call.now then (false,s)
  else if monoCacheActive s.caches.rpcError device schemaRpcErrorBackoffS call.now then (false,s)
  else
    match call.answer with
    | none =>
      (false,{ s with caches.rpcError := s.caches.rpcError.set device call.now })
    | some answer =>
      let s := { s with maps := ingestSchema py (isEnabled s.disabledDevices) answer s.maps }
      if s.maps.datasets.contains device then
        (true,{ s with caches.absent := s.caches.absent.erase device })
      else (false,{ s with caches.absent := s.caches.absent.set device call.now })

/-- `ts.get(key, default)` where the default is not a number. -/
def tsField (py : Py) (ts : Value) (key : String) : Option UInt64 :=
  match ts with
  | .dict _ entries => py.float (getD entries key (.float nan))
  | _ => none

def signalValue (sigs : List (String × Value)) (name : String) : Value :=
  match getD sigs name (.dict false []) with
  | .dict _ entries => getD entries "value" .none
  | _ => .none

/-- The assignments of the loop over `zip(signals, dtypes, strict=True)`. -/
def assignSignals (py : Py) (fields : List (String × FieldType)) (sigs : List (String × Value)) :
    List String → List String → Option (List (String × Cell))
  | [],[] => some []
  | name :: names,dtype :: dtypes => do
    let value ← py.convertValue (signalValue sigs name) dtype
    let field ← fields.find? fun f => f.1 = name
    let cell ← py.store field.2 value
    let rest ← assignSignals py fields sigs names dtypes
    pure ((name,cell) :: rest)
  | _,_ => none

def assigned (cells : List (String × Cell)) (name : String) : Cell :=
  ((cells.reverse.find? fun c => c.1 = name).map Prod.snd).getD .stale

/-- The body of the `try` of `_write_buffered_rows_batch`: the row as the staging array gets it. -/
def convertRow (py : Py) (info : Entry) (fields : List (String × FieldType))
    (msg : Msg) : Option Cells := do
  let ts := getD msg "ts" (.dict false [])
  let tWall ← tsField py ts "t_wall"
  let tMono ← tsField py ts "t_mono"
  let tWallRecv ← tsField py ts "t_wall_recv"
  let seq ← py.int (getD msg "seq" (.int (-1)))
  let sigs := match getD msg "signals" (.dict false []) with
    | .dict _ entries => entries
    | _ => []
  guard (fitsInt64 seq)
  let cells ← assignSignals py fields sigs info.signals info.dtypes
  pure ⟨tWall,tMono,tWallRecv,seq,fields.map fun f => assigned cells f.1⟩

structure Staged where
  state : TelemetryState
  staging : OrderedDict String (List Cells)

def appendRows (datasets : OrderedDict String TelemetryDataset) (device : String)
    (rows : List Cells) : OrderedDict String TelemetryDataset :=
  match datasets.get? device with
  | some d => datasets.set device (d.append rows)
  | none => datasets

/-- `_flush_telemetry_batch`, and the count set back to zero. -/
def Staged.flush (s : Staged) (device : String) : Staged :=
  let rows := (s.staging.get? device).getD []
  { state := { s.state with maps.datasets := appendRows s.state.maps.datasets device rows }
    staging := s.staging.set device [] }

def Staged.row (py : Py) (capacity : Nat) (s : Staged) (msg : Msg) (call : SchemaCall) : Staged :=
  match py.normalizeDeviceId (getD msg "device_id" .none) with
  | none => s
  | some device =>
    match ensureDevice py call s.state device with
    | (false,state) => { s with state := state }
    | (true,state) =>
      let s := { s with state := state }
      match s.state.maps.datasets.get? device,s.state.maps.deviceMap.get? device with
      | some d,some info =>
        match convertRow py info d.fields msg with
        | none => s
        | some cells =>
          let rows := (s.staging.get? device).getD []
          let s := { s with staging := s.staging.set device (rows ++ [cells]) }
          if capacity ≤ rows.length+1 then s.flush device else s
      | _,_ => s

/-- `_telemetry_batch_rows` and `_event_batch_rows` -/
def batchRows (flushEveryN : Nat) : Nat := min (max flushEveryN 1024) 8192

/-- `_write_buffered_rows_batch` with a file open. Each row comes with what a schema request in its
turn would meet. -/
def writeBufferedRowsBatch (py : Py) (capacity : Nat) (rows : List (Msg × SchemaCall))
    (s : TelemetryState) : TelemetryState :=
  if s.telemetryGroup then
    let done := rows.foldl (fun (s : Staged) r => s.row py capacity r.1 r.2) ⟨s,.empty⟩
    (done.staging.keys.foldl Staged.flush done).state
  else s

/-- `_buffer_append` and `_buffer_event`; the drop policy is `drop_newest`. -/
def bufferAppend {α : Type} (bound : Nat) (buf : List α) (item : α) : List α :=
  if buf.length = bound then buf else buf ++ [item]

def nonEmptyText (py : Py) (raw : Value) : Option String :=
  let text := if raw.truthy then strip (py.str raw) else ""
  if text = "" then none else some text

def enabledDeviceId (py : Py) (disabled : List String) (msg : Msg) : Option String :=
  (nonEmptyText py (getD msg "device_id" .none)).filter fun device => isEnabled disabled device

def telemetryUpdate (py : Py) (bound : Nat) (msg : Msg) (s : TelemetryState) : TelemetryState :=
  match enabledDeviceId py s.disabledDevices msg with
  | some _ => { s with buf := bufferAppend bound s.buf msg }
  | none => s

def insertId (ids : List String) (ident : String) : List String :=
  if ident ∈ ids then ids else ids ++ [ident]

def processTelemetryUpdate (py : Py) (bound : Nat) (msg : Msg) (s : TelemetryState) :
    TelemetryState :=
  let process := strip (py.str (getD msg "process_id" (.str "")))
  if process = "" then s
  else
    let s := { s with knownProcessIds := insertId s.knownProcessIds process }
    if isEnabled s.disabledProcesses process then
      { s with buf := bufferAppend bound s.buf (setItem msg "device_id" (.str process)) }
    else s

/-- What `_clear_buffered_for_disabled` keeps of the buffered telemetry rows. -/
def keepRow (py : Py) (disabled : List String) (msg : Msg) : Bool :=
  match py.normalizeDeviceId (getD msg "device_id" .none) with
  | some ident => ident ∉ disabled
  | none => true

/-- `_clear_buffered_for_disabled`, its part for telemetry. -/
def TelemetryState.clearBuffered (py : Py) (s : TelemetryState) (disabled : List String) :
    TelemetryState :=
  { s with buf := s.buf.filter (keepRow py disabled) }

def changedIds (disable : Bool) (ids disabled : List String) : List String :=
  if disable then ids.filter (· ∉ disabled) else ids.filter (· ∈ disabled)

def toggled (disable : Bool) (ids disabled : List String) : List String :=
  if disable then disabled ++ changedIds disable ids disabled
  else disabled.filter (· ∉ ids)

/-- `_rpc_hdf_devices_toggle`, for a list of ids without repetition; `answer` is what a schema
request meets. -/
def toggleDevices (py : Py) (disable : Bool) (ids : List String)
    (answer : Option (List SchemaItem)) (s : TelemetryState) : TelemetryState :=
  let changed := changedIds disable ids s.disabledDevices
  let s := { s with disabledDevices := toggled disable ids s.disabledDevices }
  if changed = [] then s
  else if disable then s.clearBuffered py changed
  else
    match answer with
    | some answer =>
      if s.telemetryGroup then
        { s with maps := ingestSchema py (isEnabled s.disabledDevices) answer s.maps }
      else s
    | none => s

/-- `_ingest_process_schema`, and the ids it has seen put to the known ones. -/
def TelemetryState.ingestProcesses (py : Py) (s : TelemetryState) (answer : List SchemaItem) :
    TelemetryState :=
  { s with
    maps := ingestProcessSchema py (isEnabled s.disabledProcesses) answer s.maps
    knownProcessIds := (seenProcesses answer).foldl insertId s.knownProcessIds }

def toggleProcesses (py : Py) (disable : Bool) (ids : List String)
    (answer : Option (List SchemaItem)) (s : TelemetryState) : TelemetryState :=
  let changed := changedIds disable ids s.disabledProcesses
  let s := { s with disabledProcesses := toggled disable ids s.disabledProcesses }
  if changed = [] then s
  else if disable then s.clearBuffered py changed
  else
    match answer with
    | some answer => if s.processTelemetryGroup then s.ingestProcesses py answer else s
    | none => s

/-- The telemetry part of `_configure_active_file`: the per-file maps start empty and are filled
from the schema answers that arrive. -/
def TelemetryState.configure (py : Py) (devices processes : Option (List SchemaItem))
    (s : TelemetryState) : TelemetryState :=
  let s := { s with
    maps := ⟨.empty,.empty⟩
    telemetryGroup := true
    processTelemetryGroup := true }
  let s := match devices with
    | some answer =>
      { s with maps := ingestSchema py (isEnabled s.disabledDevices) answer s.maps }
    | none => s
  match processes with
  | some answer => s.ingestProcesses py answer
  | none => s

/-- The telemetry part of `_reset_per_file_state`. -/
def TelemetryState.reset (s : TelemetryState) : TelemetryState :=
  { s with maps := ⟨.empty,.empty⟩, telemetryGroup := false, processTelemetryGroup := false }

end ExperimentControl.Hdf

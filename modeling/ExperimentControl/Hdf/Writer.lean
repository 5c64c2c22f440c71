import ExperimentControl.Hdf.Chunks
import ExperimentControl.Hdf.Tables

/-!
The state of the writer, and the write of a batch: the flush batches of the background thread and
the drain of the live buffers go through the same four sections.
-/

namespace ExperimentControl.Hdf
open Lib Python

structure File where
  events : List EventRow
  contexts : ContextTable
  sessions : Key → OrderedDict Nat Dataset

def File.empty : File := ⟨[],.empty,fun _ => .empty⟩

/-- An entry of `_stream_expectations_by_context`; a count of `-1` is none. -/
structure Expectation where
  expectedCount : Option Nat
  strict : Bool
  deriving DecidableEq

/-- An entry of `_strict_stream_errors`. -/
structure StrictError where
  key : Key
  reason : String
  contextId : Option Int
  expectedCount : Option Nat
  rowsWritten : Option Nat
  deriving DecidableEq

/-- What is expected of the streams of a file, and what its finalization found. -/
structure Strict where
  expectations : OrderedDict (Int × Key) Expectation
  /-- `_expected_context_id_append_failures` -/
  appendFailures : OrderedDict (Int × Key) String
  errors : List StrictError
  acquisitionOk : Bool

def Strict.initial : Strict := ⟨.empty,.empty,[],true⟩

/-- `_FlushBatch`; it is flushed to the disk or not. -/
structure FlushBatch where
  bufferedRows : List Msg
  eventRows : List (String × Msg)
  contextRows : List ContextRow
  streams : OrderedDict Key Buf
  streamMeta : Key → Option StreamMeta

/-- A stop or a rotation on its way through the background queue. -/
inductive FileOp where
  | stop
  | rotate (disabledDevices : Option (List String))
  deriving DecidableEq

inductive BgItem where
  | batch (batch : FlushBatch)
  | fileOp (op : FileOp)

inductive OpStage where
  | waiting
  | submitted
  | done
  deriving DecidableEq

/-- A file that was closed, with what its finalization left, and what had happened on the streams. -/
structure ClosedFile where
  file : File
  strict : Strict
  history : Key → List Noted

/-- A message of the manager that the writer subscribes to. -/
inductive Message where
  | telemetryUpdate (msg : Msg)
  | processTelemetryUpdate (msg : Msg)
  | event (topic : String) (msg : Msg)
  | chunkReady (c : ChunkReadyMessage)
  /-- A device configuration, with the schemas that its `stream_calls` give. -/
  | deviceConfig (deviceId : String) (schemas : List (String × Schema))

/-- The state of the writer; `now` is the monotonic clock. -/
structure Writer where
  now : ℚ
  telemetry : TelemetryState
  /-- `_process_telemetry_group` is of a file that was given up. -/
  staleProcessGroup : Bool
  eventBuf : List (String × Msg)
  streams : Key → Stream
  buffers : OrderedDict Key Buf
  seenContextIds : List Int
  pendingContextRows : List ContextRow
  columnsCache : ColumnsCache
  strict : Strict
  file : Option File
  queue : List BgItem
  op : Option (FileOp × OpStage)
  held : List Message
  closed : List ClosedFile
  /-- `_stop_evt`, once `close` has run. -/
  stopped : Bool

/-- The writer when its main loop starts, with no file open. -/
def Writer.initial (disabledDevices disabledProcesses : List String) : Writer where
  now := 0
  telemetry :=
    { maps := ⟨.empty,.empty⟩
      caches := ⟨.empty,.empty⟩
      disabledDevices := disabledDevices
      disabledProcesses := disabledProcesses
      knownProcessIds := []
      telemetryGroup := false
      processTelemetryGroup := false
      buf := [] }
  staleProcessGroup := false
  eventBuf := []
  streams := fun _ => .initial
  buffers := .empty
  seenContextIds := []
  pendingContextRows := []
  columnsCache := ⟨none,false⟩
  strict := .initial
  file := none
  queue := []
  op := none
  held := []
  closed := []
  stopped := false

def Writer.lane (w : Writer) (k : Key) : Lane := ⟨w.streams k,w.buffers.get? k⟩

def Writer.putStream (w : Writer) (k : Key) (s : Stream) : Writer :=
  { w with streams := Function.update w.streams k s }

/-- `_bump_stream_context_counter`, for the contexts of the rows written. -/
def bumpContexts (rows : OrderedDict Int Nat) (ids : List Int) : OrderedDict Int Nat :=
  ids.foldl (fun rows id =>
    if 0 ≤ id then rows.set id ((rows.get? id).getD 0+1) else rows) rows

/-- What `_write_single_stream_buffer` and the handler around it leave in the maps of a stream. -/
def Lane.wrote (conf : Conf) (now : ℚ) (o : WriteOutcome) (l : Lane) : Lane :=
  let l := if o.bad = 0 then l else
    l.count fun c =>
      { c with
        payloadSizeFailures := c.payloadSizeFailures+o.bad
        lastError := "stream payload size mismatch" }
  match o.finish with
  | .nothing => l
  | .metaMissing frames =>
    l.count fun c =>
      { c with
        metaMissingDropped := c.metaMissingDropped+frames
        lastError := "dtype/shape unresolved" }
  | .raised =>
    l.count fun c =>
      { c with writeFailures := c.writeFailures+1, lastError := "stream write failed" }
  | .stored seq contextId =>
    let l := l.count fun c => { c with rowsWritten := c.rowsWritten+seq.length }
    ({ l with
      stream.contextRows := bumpContexts l.stream.contextRows contextId
      stream.lastWrittenSeq := max l.stream.lastWrittenSeq (seq.foldl max 0) } : Lane).trimContextMap
        conf now

def Stream.liveMeta (s : Stream) : LiveMeta :=
  ⟨s.schema,s.reader.map (·.info.layout),s.activeSession.getD 1⟩

/-- `_write_single_stream_buffer`, with the handler around it. -/
def Writer.writeStream (conf : Conf) (fault : Fault) (captured : Option StreamMeta)
    (w : Writer) (k : Key) (buf : Buf) : Writer :=
  match w.file with
  | none => w
  | some f =>
    let o := writeSingleStreamBuffer fault (isEnabled w.telemetry.disabledDevices k.1) captured
      (w.streams k).liveMeta (f.sessions k) buf
    { w.putStream k (((w.lane k).wrote conf w.now o).stream) with
      file := some { f with sessions := Function.update f.sessions k o.datasets } }

/-- What a write meets outside of the writer: for each telemetry row a schema request in its turn,
for each context row a request for the columns, and for each stream HDF5. -/
structure WriteCalls where
  schema : Nat → SchemaCall
  columns : Nat → ColumnsReply
  fault : Key → Fault

def withReplies {α β : Type} (replies : Nat → β) (l : List α) : List (α × β) :=
  l.zipIdx.map fun e => (e.1,replies e.2)

variable (py : Py) (conf : Conf) (calls : WriteCalls)

/-- `_write_context_rows_batch`; the answer is false where it raises. -/
def Writer.writeContexts (rows : List ContextRow) (w : Writer) : Writer × Bool :=
  match w.file with
  | none => (w,true)
  | some f =>
    let (contexts,cache,ok) :=
      writeContextRows py (withReplies calls.columns rows) f.contexts w.columnsCache
    ({ w with file := some { f with contexts := contexts }, columnsCache := cache },ok)

def Writer.writeTelemetry (rows : List Msg) (w : Writer) : Writer :=
  { w with
    telemetry := writeBufferedRowsBatch py (batchRows conf.flushEveryN)
      (withReplies calls.schema rows) w.telemetry }

/-- `_write_event_rows_batch`; the answer is false where it raises. -/
def Writer.writeEvents (rows : List (String × Msg)) (w : Writer) : Writer × Bool :=
  match w.file with
  | none => (w,true)
  | some f =>
    let (appended,ok) := writeEventRows py (batchRows conf.flushEveryN) w.telemetry.disabledDevices
      rows [] []
    ({ w with file := some { f with events := f.events ++ appended } },ok)

/-- `_write_stream_buffers_batch` -/
def Writer.writeStreams (streamMeta : Key → Option StreamMeta) (streams : OrderedDict Key Buf)
    (w : Writer) : Writer :=
  streams.entries.foldl (fun w e =>
    w.writeStream conf (calls.fault e.1) (streamMeta e.1) e.1 e.2) w

/-- `_handle_flush_batch`; the answer is false where it raises. -/
def Writer.handleFlushBatch (b : FlushBatch) (w : Writer) : Writer × Bool :=
  match w.writeContexts py calls b.contextRows with
  | (w,false) => (w,false)
  | (w,true) =>
    match (w.writeTelemetry py conf calls b.bufferedRows).writeEvents py conf b.eventRows with
    | (w,false) => (w,false)
    | (w,true) => (w.writeStreams conf calls b.streamMeta b.streams,true)

/-- `_clear_stream_buffer`, as the write leaves a live buffer. -/
def Buf.written (b : Buf) : Buf := if b.data = [] then b else .empty

def Writer.liveBatch (w : Writer) : FlushBatch where
  bufferedRows := w.telemetry.buf
  eventRows := w.eventBuf
  contextRows := w.pendingContextRows
  streams := w.buffers
  streamMeta := fun _ => none

/-- `_drain_pending_to_file`; the answer is false where it raises. -/
def Writer.drainPendingToFile (w : Writer) : Writer × Bool :=
  let b := w.liveBatch
  match w.writeContexts py calls b.contextRows with
  | (w,false) => (w,false)
  | (w,true) =>
    let w := { w with pendingContextRows := [], telemetry.buf := [] }
    let w := w.writeTelemetry py conf calls b.bufferedRows
    match ({ w with eventBuf := [] }).writeEvents py conf b.eventRows with
    | (w,false) => (w,false)
    | (w,true) =>
      let w := w.writeStreams conf calls b.streamMeta b.streams
      ({ w with buffers := w.buffers.mapValues fun _ buf => buf.written },true)

end ExperimentControl.Hdf

import ExperimentControl.Hdf.Batches
import ExperimentControl.Hdf.Staging
import ExperimentControl.Hdf.Filters

/-!
What one message of a batch costs the others: when every row of a batch that converts, and every
valid frame, comes into its dataset.
-/

namespace ExperimentControl.Hdf
open Lib Python List

def datasetOf (datasets : OrderedDict Nat Dataset) (m : StreamMeta) : Dataset :=
  (datasets.get? m.session).getD (Dataset.ofRows m.schema [])

def Row.valid (schema : Schema) (m : StreamMeta) (r : Row) : Bool :=
  r.good schema.nbytes (m.schema.metadataDtype.map MetaDtype.itemsize) && decide (fitsInt64 r.contextId)

/-- A buffer of the batch holds these rows, of an enabled device, and their dataset is known: it
holds the rows `old`. -/
structure FrameTarget (w : Writer) (f : File) (b : FlushBatch) (k : Key) (m : StreamMeta)
    (schema : Schema) (old : List Stored) (rows : List Row) : Prop where
  buffered : b.streams.get? k = some (Buf.ofRows rows)
  enabled : isEnabled w.telemetry.disabledDevices k.1 = true
  known : resolveMeta (b.streamMeta k) (w.streams k).liveMeta = some m
  metadata : m.schema.metadataDtype.all validMetadata = true
  fields : sameFields (metadataFields schema) (metadataFields m.schema) = true
  dataset : datasetOf (f.sessions k) m = Dataset.ofRows schema old

def FramesAppended (m : StreamMeta) (schema : Schema) (old : List Stored) (rows : List Row)
    (datasets : OrderedDict Nat Dataset) : Prop :=
  ∃ written : List Row, written.Perm (rows.filter (Row.valid schema m)) ∧
    written.Pairwise Row.seqLe ∧
    datasetOf datasets m =
      Dataset.ofRows schema (old ++ written.map fun r => ⟨r,m.schema.metadataDtype⟩)

def FramesFit (m : StreamMeta) (schema : Schema) (rows : List Row) : Prop :=
  ∀ r ∈ rows, r.good schema.nbytes (m.schema.metadataDtype.map MetaDtype.itemsize) = true →
    fitsInt64 r.contextId

theorem Dataset.ofRows_injective_length {schema schema' : Schema} {rows rows' : List Stored}
    (h : Dataset.ofRows schema rows = Dataset.ofRows schema' rows') :
    schema = schema' ∧ rows.length = rows'.length := by
  have hschema := congrArg Dataset.schema h
  have hlength := congrArg (·.data.length) h
  simp only [Dataset.ofRows,length_map] at hschema hlength
  exact ⟨hschema,hlength⟩

variable {m : StreamMeta} {schema : Schema} {datasets : OrderedDict Nat Dataset} {old : List Stored}

theorem framesAppended_of_none {rows : List Row}
    (h : datasetOf datasets m = Dataset.ofRows schema old) :
    FramesAppended m schema old rows datasets ↔ rows.filter (Row.valid schema m) = [] := by
  constructor
  · intro happended
    obtain ⟨written,hperm,-,hdataset⟩ := happended
    rw [h] at hdataset
    have hlength := (Dataset.ofRows_injective_length hdataset).2
    simp only [length_append,length_map] at hlength
    have hwritten : written = [] := length_eq_zero_iff.1 (by omega)
    rw [hwritten] at hperm
    exact hperm.symm.eq_nil
  · intro hnil
    exact ⟨[],by rw [hnil],List.Pairwise.nil,by simpa using h⟩

theorem ensureStreamDataset_target (hmeta : m.schema.metadataDtype.all validMetadata = true)
    (hfields : sameFields (metadataFields schema) (metadataFields m.schema) = true)
    (hdataset : datasetOf datasets m = Dataset.ofRows schema old) :
    ∃ datasets', ensureStreamDataset .none datasets m.session m.schema =
        some (Dataset.ofRows schema old,datasets') ∧
      datasets'.get? m.session = some (Dataset.ofRows schema old) := by
  unfold ensureStreamDataset
  simp only [hmeta,Bool.not_true,Bool.false_eq_true,if_false]
  cases hget : datasets.get? m.session with
  | some d =>
    have hd : d = Dataset.ofRows schema old := by
      simpa [datasetOf,hget] using hdataset
    subst hd
    have hsame : sameFields (metadataFields (Dataset.ofRows schema old).schema)
        (metadataFields m.schema) = true := hfields
    simp only [hsame,if_true]
    exact ⟨datasets,rfl,hget⟩
  | none =>
    have hd : Dataset.ofRows m.schema [] = Dataset.ofRows schema old := by
      simpa [datasetOf,hget] using hdataset
    rw [← hd]
    refine ⟨datasets.set m.session (Dataset.ofRows m.schema []),?_,by simp⟩
    simp

theorem runOperations_unfit {s : Store} {d : Dataset} (hdata : d.data.length = s.old)
    (hseq : d.seq.length = s.old) (hmono : d.t0MonoNs.length = s.old)
    (hwall : d.t0WallNs.length = s.old) (hseq' : s.buf.seq.length = s.count)
    (hmono' : s.buf.t0MonoNs.length = s.count) (hwall' : s.buf.t0WallNs.length = s.count)
    (hunfit : ∃ c ∈ s.contexts, ¬fitsInt64 c) (tail : List (Dataset → Option Dataset)) :
    ∃ d', runOperations .none (s.columnOperations ++ tail) d = (d',false) ∧
      d'.data = d.data ++ s.buf.data := by
  have hdata' : s.buf.data.length = s.count := rfl
  have hall : s.contexts.all (fun c => decide (fitsInt64 c)) = false := by
    rw [all_eq_false]
    obtain ⟨c,hc,hno⟩ := hunfit
    exact ⟨c,hc,by simpa using hno⟩
  refine ⟨{ d with
    data := d.data ++ s.buf.data
    seq := d.seq ++ s.buf.seq
    t0MonoNs := d.t0MonoNs ++ s.buf.t0MonoNs
    t0WallNs := d.t0WallNs ++ s.buf.t0WallNs
    contextId := resizeTo 0 (s.old+s.count) d.contextId },?_,rfl⟩
  simp only [Store.columnOperations,cons_append,nil_append,runOperations_none_cons,
    assignFrom_resize _ hdata hdata',assignFrom_resize _ hseq hseq',
    assignFrom_resize _ hmono hmono',assignFrom_resize _ hwall hwall',hall,Option.map_some,
    Bool.false_eq_true,if_false]

theorem writeSingleStreamBuffer_target {captured : Option StreamMeta} {live : LiveMeta}
    {rows : List Row} (hknown : resolveMeta captured live = some m)
    (hmeta : m.schema.metadataDtype.all validMetadata = true)
    (hfields : sameFields (metadataFields schema) (metadataFields m.schema) = true)
    (hdataset : datasetOf datasets m = Dataset.ofRows schema old) : FramesAppended m schema old rows
      (writeSingleStreamBuffer .none true captured live datasets (Buf.ofRows rows)).datasets ↔
      FramesFit m schema rows := by
  by_cases hrows : rows = []
  · subst hrows
    simp only [writeSingleStreamBuffer,Buf.ofRows_nil,show Buf.empty.data = [] from rfl,if_true]
    rw [framesAppended_of_none hdataset]
    simp [FramesFit]
  · have hne : (Buf.ofRows rows).data ≠ [] := by simpa [Buf.ofRows] using hrows
    obtain ⟨datasets',hensure,hget⟩ := ensureStreamDataset_target hmeta hfields hdataset
    simp only [writeSingleStreamBuffer,hne,if_false,Bool.not_true,Bool.false_eq_true,hknown,
      hensure]
    constructor
    · intro happended
      by_contra hunfit
      simp only [FramesFit,not_forall] at hunfit
      obtain ⟨r,hr,hgood,hno⟩ := hunfit
      obtain ⟨written,bad,harranged,hperm,-,-⟩ := Buf.arranged_ofRows rows schema.nbytes
        (m.schema.metadataDtype.map MetaDtype.itemsize)
      have hmem : r ∈ written := hperm.mem_iff.2 (mem_filter.2 ⟨hr,hgood⟩)
      have hwritten : (Buf.ofRows written).data ≠ [] := by
        simp only [Buf.ofRows,ne_eq,map_eq_nil_iff]
        exact ne_nil_of_mem hmem
      have hold : (Dataset.ofRows schema old).data.length = old.length := by simp [Dataset.ofRows]
      obtain ⟨d',hrun,hdata⟩ := runOperations_unfit
        (s := ⟨Buf.ofRows written,old.length,m.schema.metadataDtype⟩)
        (d := Dataset.ofRows schema old) (by simp [Dataset.ofRows]) (by simp [Dataset.ofRows])
        (by simp [Dataset.ofRows]) (by simp [Dataset.ofRows])
        (by simp [Store.count,Buf.ofRows]) (by simp [Store.count,Buf.ofRows])
        (by simp [Store.count,Buf.ofRows])
        ⟨r.contextId,by
          simp only [Store.contexts,Store.count,Buf.ofRows,length_map,if_true]
          exact mem_map_of_mem hmem,hno⟩
        ((m.schema.metadataDtype.getD []).flatMap (Store.fieldOperations
          ⟨Buf.ofRows written,old.length,m.schema.metadataDtype⟩) ++ [some])
      simp only [writeFrames,show (Dataset.ofRows schema old).schema = schema from rfl,harranged,
        hold,metadataAligned_ofRows hfields,hwritten,Bool.not_true,Bool.false_eq_true,if_false,
        Store.operations,hrun] at happended
      obtain ⟨valid,hvalid,-,hdone⟩ := happended
      simp only [datasetOf,OrderedDict.get?_set,if_true,Option.getD_some] at hdone
      have hcount := congrArg (·.data.length) hdone
      simp only [hdata,Dataset.ofRows,Buf.ofRows,length_append,length_map] at hcount
      have hshort : (rows.filter (Row.valid schema m)).length <
          (rows.filter (Row.good schema.nbytes
            (m.schema.metadataDtype.map MetaDtype.itemsize))).length := by
        have hsplit : rows.filter (Row.valid schema m) = (rows.filter (Row.good schema.nbytes
            (m.schema.metadataDtype.map MetaDtype.itemsize))).filter
              fun r => decide (fitsInt64 r.contextId) := by
          rw [filter_filter]
          apply filter_congr
          intro r _
          rw [Row.valid,Bool.and_comm]
        rw [hsplit,length_filter_lt_length_iff_exists]
        exact ⟨r,mem_filter.2 ⟨hr,hgood⟩,by simpa using hno⟩
      have hlen := hvalid.length_eq
      have hlen' := hperm.length_eq
      omega
    · intro hfits
      obtain ⟨written,hperm,hsorted,-,-,hdone⟩ := writeFrames_ofRows hfields hget
        (fun r hr => hfits r (mem_filter.1 hr).1 (mem_filter.1 hr).2)
      refine ⟨written,?_,hsorted,by simp [datasetOf,hdone]⟩
      have hsame : rows.filter (Row.valid schema m) = rows.filter (Row.good schema.nbytes
          (m.schema.metadataDtype.map MetaDtype.itemsize)) := by
        apply filter_congr
        intro r hr
        cases hgood : r.good schema.nbytes (m.schema.metadataDtype.map MetaDtype.itemsize) with
        | false => simp [Row.valid,hgood]
        | true => simp [Row.valid,hgood,hfits r hr hgood]
      rwa [hsame]

structure Writer.Open (w : Writer) (f : File) : Prop where
  file : w.file = some f
  group : w.telemetry.telemetryGroup = true

def WriteCalls.reliable (schema : Nat → SchemaCall) (columns : Nat → ColumnsReply) : WriteCalls :=
  ⟨schema,columns,fun _ => .none⟩

section
variable (py : Py) (calls : WriteCalls) (w : Writer) (f : File) (b : FlushBatch)

def FlushBatch.telemetryRows (cells : TelemetryState → String → Msg → Option Cells)
    (ident : String) : List Cells :=
  rowsFor ident (Hdf.telemetryRows py cells (withReplies calls.schema b.bufferedRows) w.telemetry)

/-- Every row of the batch whose own contents convert, every context row and every valid frame has
come to the end of its dataset, in order, and nothing else has. -/
structure Isolated (w' : Writer) : Prop where
  telemetry : ∀ ident, w'.telemetry.maps.rows ident =
    w.telemetry.maps.rows ident ++ b.telemetryRows py calls w (ownCells py) ident
  file : ∃ f', w'.file = some f' ∧
    f'.events = f.events ++ eventRows py w.telemetry.disabledDevices b.eventRows ∧
    f'.contexts.rows = f.contexts.rows ++ b.contextRows ∧
    ∀ {k m schema old rows}, FrameTarget w f b k m schema old rows →
      FramesAppended m schema old rows (f'.sessions k)

/-- Where every telemetry row converts alike by `_device_map` and by its dataset, so do all that go to
one dataset. -/
theorem FlushBatch.telemetryRows_alike {py : Py} {calls : WriteCalls} {w : Writer} {b : FlushBatch}
    (h : ConvertAlike py (withReplies calls.schema b.bufferedRows) w.telemetry) (ident : String) :
    b.telemetryRows py calls w (mappedCells py) ident =
      b.telemetryRows py calls w (ownCells py) ident := by
  rw [FlushBatch.telemetryRows,FlushBatch.telemetryRows,h.telemetryRows]

structure FlushBatch.Barren : Prop where
  events : Hdf.eventRows py w.telemetry.disabledDevices b.eventRows = []
  frames : ∀ {k m schema old rows}, FrameTarget w f b k m schema old rows →
    rows.filter (Row.valid schema m) = []

def FlushBatch.EventRaises : Prop :=
  ∃ r ∈ b.eventRows, eventOutcome py w.telemetry.disabledDevices r.1 r.2 = .raised

/-- What a batch must not hold together: a context row that raises with anything after it that
could be lost, an event that raises with another event or a frame, a frame whose context id does
not fit with other frames. And the entries of `_device_map` are those of the datasets. -/
def FlushBatch.Compatible : Prop :=
  let contexts := withReplies calls.columns b.contextRows
  (ContextsConvert py contexts f.contexts w.columnsCache ∧
    (∀ ident, b.telemetryRows py calls w (mappedCells py) ident =
      b.telemetryRows py calls w (ownCells py) ident) ∧
    (¬b.EventRaises py w ∧
        (∀ {k m schema old rows}, FrameTarget w f b k m schema old rows →
          FramesFit m schema rows) ∨
      b.EventRaises py w ∧ b.Barren py w f)) ∨
  (¬ContextsConvert py contexts f.contexts w.columnsCache ∧
    ContextsStored py contexts f.contexts w.columnsCache ∧
    (∀ ident, b.telemetryRows py calls w (ownCells py) ident = []) ∧ b.Barren py w f)

end

section
variable {py : Py} {conf : Conf} {schema : Nat → SchemaCall} {columns : Nat → ColumnsReply}
  {w : Writer} {f : File} {b : FlushBatch}

theorem map_fst_withReplies {α β : Type} (replies : Nat → β) (l : List α) :
    (withReplies replies l).map Prod.fst = l := by
  simp only [withReplies,map_map]
  exact zipIdx_map_fst 0 l

variable (py conf) in
theorem Writer.handleFlushBatch_cases (calls : WriteCalls) (b : FlushBatch) (hopen : w.Open f) :
    let done := w.handleFlushBatch py conf calls b
    let contexts := writeContextRows py (withReplies calls.columns b.contextRows) f.contexts
      w.columnsCache
    let events := writeEventRows py (batchRows conf.flushEveryN) w.telemetry.disabledDevices
      b.eventRows [] []
    (contexts.2.2 = false ∧ done.2 = false ∧ done.1.telemetry = w.telemetry ∧
      done.1.file = some { f with contexts := contexts.1 }) ∨
    (contexts.2.2 = true ∧
      done.1.telemetry = writeBufferedRowsBatch py (batchRows conf.flushEveryN)
        (withReplies calls.schema b.bufferedRows) w.telemetry ∧
      done.2 = events.2 ∧
      done.1.file = some { f with
        contexts := contexts.1
        events := f.events ++ events.1
        sessions := if events.2 then fun k => match b.streams.get? k with
            | some buf => (w.outcome (calls.fault k) (b.streamMeta k) f k buf).datasets
            | none => f.sessions k
          else f.sessions }) := by
  simp only [Writer.handleFlushBatch,Writer.writeContexts,hopen.file]
  rcases writeContextRows py (withReplies calls.columns b.contextRows) f.contexts
    w.columnsCache with ⟨contexts,cache,ok⟩
  cases ok with
  | false => exact .inl ⟨rfl,rfl,rfl,rfl⟩
  | true =>
    right
    have hdisabled := writeBufferedRowsBatch_disabled py (batchRows conf.flushEveryN)
      (withReplies calls.schema b.bufferedRows) w.telemetry
    simp only [Writer.writeTelemetry,Writer.writeEvents,hdisabled]
    rcases writeEventRows py (batchRows conf.flushEveryN) w.telemetry.disabledDevices
      b.eventRows [] [] with ⟨events,ok⟩
    cases ok with
    | false => exact ⟨trivial,rfl,rfl,rfl⟩
    | true =>
      simp only
      rw [Writer.writeStreams_of_file rfl]
      refine ⟨trivial,rfl,trivial,?_⟩
      simp only [if_true,Option.some.injEq,File.mk.injEq,true_and]
      funext k
      simp only [Writer.outcome,hdisabled]
      cases b.streams.get? k with
      | none => rfl
      | some buf => rfl

variable (py conf) in
theorem Writer.drainPendingToFile_eq (calls : WriteCalls) (hopen : w.Open f) (ident : String) :
    let done := w.drainPendingToFile py conf calls
    let handled := w.handleFlushBatch py conf calls w.liveBatch
    done.1.file = handled.1.file ∧
      done.1.telemetry.maps.rows ident = handled.1.telemetry.maps.rows ident := by
  simp only [Writer.drainPendingToFile,Writer.handleFlushBatch,Writer.writeContexts,hopen.file]
  rcases writeContextRows py (withReplies calls.columns w.liveBatch.contextRows) f.contexts
    w.columnsCache with ⟨contexts,cache,ok⟩
  cases ok with
  | false => exact ⟨rfl,rfl⟩
  | true =>
    have hdisabled := fun s => writeBufferedRowsBatch_disabled py (batchRows conf.flushEveryN)
      (withReplies calls.schema w.liveBatch.bufferedRows) s
    have hbare : { w.telemetry with buf := [] }.bare = w.telemetry.bare := rfl
    have hrows : (writeBufferedRowsBatch py (batchRows conf.flushEveryN)
        (withReplies calls.schema w.liveBatch.bufferedRows)
        { w.telemetry with buf := [] }).maps.rows ident =
        (writeBufferedRowsBatch py (batchRows conf.flushEveryN)
          (withReplies calls.schema w.liveBatch.bufferedRows) w.telemetry).maps.rows ident := by
      rw [writeBufferedRowsBatch_rows py _ _ hopen.group,
        writeBufferedRowsBatch_rows py _ _ (s := { w.telemetry with buf := [] }) hopen.group,
        telemetryRows_congr mappedCells_bare _ hbare]
    simp only [Writer.writeTelemetry,Writer.writeEvents,hdisabled]
    rcases writeEventRows py (batchRows conf.flushEveryN) w.telemetry.disabledDevices
      w.liveBatch.eventRows [] [] with ⟨events,ok⟩
    cases ok with
    | false => exact ⟨rfl,hrows⟩
    | true =>
      simp only
      rw [Writer.writeStreams_of_file rfl,Writer.writeStreams_of_file rfl]
      refine ⟨?_,hrows⟩
      simp only [Option.some.injEq,File.mk.injEq,true_and]
      funext k
      simp only [Writer.outcome,hdisabled]

variable (py) in
theorem writeEventRows_appended (capacity : Nat) (disabled : List String)
    (rows : List (String × Msg)) :
    let done := writeEventRows py capacity disabled rows [] []
    (done.2 = true ↔ ¬∃ r ∈ rows, eventOutcome py disabled r.1 r.2 = .raised) ∧
      (done.1 = eventRows py disabled rows ↔
        (¬∃ r ∈ rows, eventOutcome py disabled r.1 r.2 = .raised) ∨
          eventRows py disabled rows = []) := by
  by_cases hraised : ∃ r ∈ rows, eventOutcome py disabled r.1 r.2 = .raised
  · obtain ⟨hok,hlt | ⟨happended,-,hnil⟩⟩ := writeEventRows_raised capacity hraised [] []
    · refine ⟨by simp [hok,hraised],?_⟩
      simp only [hraised,not_true_eq_false,false_or]
      constructor
      · intro heq
        rw [heq] at hlt
        simp at hlt
      · intro hnil
        rw [hnil] at hlt
        simp at hlt
    · exact ⟨by simp [hok,hraised],by simp [happended,hnil]⟩
  · have hnone : ∀ r ∈ rows, eventOutcome py disabled r.1 r.2 ≠ .raised := by
      intro r hr heq
      exact hraised ⟨r,hr,heq⟩
    have hdone := writeEventRows_ok capacity hnone [] []
    rw [hdone]
    simp [hraised]

theorem framesAppended_of_aborted :
    (∀ {k m schema old rows}, FrameTarget w f b k m schema old rows →
      FramesAppended m schema old rows (f.sessions k)) ↔
      ∀ {k m schema old rows}, FrameTarget w f b k m schema old rows →
        rows.filter (Row.valid schema m) = [] := by
  constructor
  · intro h k m schema old rows target
    exact (framesAppended_of_none target.dataset).1 (h target)
  · intro h k m schema old rows target
    exact (framesAppended_of_none target.dataset).2 (h target)

theorem FrameTarget.outcome {k : Key} {m : StreamMeta} {schema' : Schema} {old : List Stored}
    {rows : List Row} (target : FrameTarget w f b k m schema' old rows) :
    FramesAppended m schema' old rows
        (w.outcome .none (b.streamMeta k) f k (Buf.ofRows rows)).datasets ↔
      FramesFit m schema' rows := by
  rw [Writer.outcome,target.enabled]
  exact writeSingleStreamBuffer_target target.known target.metadata target.fields target.dataset

variable {calls : WriteCalls}

theorem isolated_of_contextRaised {w' : Writer} (htelemetry : w'.telemetry = w.telemetry)
    (hfile : w'.file = some { f with contexts := (writeContextRows py
      (withReplies calls.columns b.contextRows) f.contexts w.columnsCache).1 }) :
    Isolated py calls w f b w' ↔
      ContextsStored py (withReplies calls.columns b.contextRows) f.contexts w.columnsCache ∧
        (∀ ident, b.telemetryRows py calls w (ownCells py) ident = []) ∧ b.Barren py w f := by
  have hstored := writeContextRows_stored py (withReplies calls.columns b.contextRows)
    f.contexts w.columnsCache
  rw [map_fst_withReplies] at hstored
  constructor
  · intro h
    obtain ⟨f',hf',hevents,hcontexts,hframes⟩ := h.file
    rw [hfile] at hf'
    cases hf'
    refine ⟨hstored.1 hcontexts,?_,?_,framesAppended_of_aborted.1 hframes⟩
    · intro ident
      have hrows := h.telemetry ident
      rw [htelemetry] at hrows
      exact self_eq_append_right.1 hrows
    · exact self_eq_append_right.1 hevents
  · intro h
    obtain ⟨hcontexts,hrows,hbarren⟩ := h
    refine ⟨fun ident => by rw [htelemetry,hrows,append_nil],_,hfile,?_,
      hstored.2 hcontexts,framesAppended_of_aborted.2 hbarren.frames⟩
    rw [hbarren.events,append_nil]

theorem isolated_of_contextsWritten {w' : Writer} (hopen : w.Open f)
    (hfault : ∀ k, calls.fault k = .none)
    (hcontexts : (writeContextRows py (withReplies calls.columns b.contextRows) f.contexts
      w.columnsCache).1.rows = f.contexts.rows ++ b.contextRows)
    (htelemetry : w'.telemetry = writeBufferedRowsBatch py (batchRows conf.flushEveryN)
      (withReplies calls.schema b.bufferedRows) w.telemetry) (hfile : w'.file = some { f with
      contexts := (writeContextRows py (withReplies calls.columns b.contextRows) f.contexts
        w.columnsCache).1
      events := f.events ++ (writeEventRows py (batchRows conf.flushEveryN)
        w.telemetry.disabledDevices b.eventRows [] []).1
      sessions := if (writeEventRows py (batchRows conf.flushEveryN)
          w.telemetry.disabledDevices b.eventRows [] []).2 then
          fun k => match b.streams.get? k with
            | some buf => (w.outcome (calls.fault k) (b.streamMeta k) f k buf).datasets
            | none => f.sessions k
        else f.sessions }) :
    Isolated py calls w f b w' ↔
      (∀ ident, b.telemetryRows py calls w (mappedCells py) ident =
        b.telemetryRows py calls w (ownCells py) ident) ∧
      (¬b.EventRaises py w ∧
          (∀ {k m schema old rows}, FrameTarget w f b k m schema old rows →
            FramesFit m schema rows) ∨
        b.EventRaises py w ∧ b.Barren py w f) := by
  have hrows := fun ident => writeBufferedRowsBatch_rows py (batchRows conf.flushEveryN)
    (withReplies calls.schema b.bufferedRows) hopen.group ident
  obtain ⟨hok,happended⟩ := writeEventRows_appended py (batchRows conf.flushEveryN)
    w.telemetry.disabledDevices b.eventRows
  constructor
  · intro h
    obtain ⟨f',hf',hevents,-,hframes⟩ := h.file
    rw [hfile] at hf'
    cases hf'
    have hconverted := happended.1 (append_cancel_left hevents)
    refine ⟨?_,?_⟩
    · intro ident
      have htel := h.telemetry ident
      rw [htelemetry,hrows] at htel
      exact append_cancel_left htel
    · by_cases hraises : b.EventRaises py w
      · right
        have hfalse := Bool.not_eq_true _ ▸ mt hok.1 (not_not.2 hraises)
        simp only [hfalse,Bool.false_eq_true,if_false] at hframes
        exact ⟨hraises,hconverted.resolve_left (not_not.2 hraises),
          framesAppended_of_aborted.1 hframes⟩
      · left
        refine ⟨hraises,?_⟩
        intro k m schema' old rows target
        have hframe := hframes target
        simp only [hok.2 hraises,if_true,target.buffered,hfault] at hframe
        exact target.outcome.1 hframe
  · intro h
    obtain ⟨hmapped,hsections⟩ := h
    refine ⟨?_,_,hfile,?_,hcontexts,?_⟩
    · intro ident
      rw [htelemetry,hrows]
      exact congrArg _ (hmapped ident)
    · rcases hsections with ⟨hno,-⟩ | ⟨-,hbarren⟩
      · exact congrArg _ (happended.2 (.inl hno))
      · exact congrArg _ (happended.2 (.inr hbarren.events))
    · intro k m schema' old rows target
      rcases hsections with ⟨hno,hfit⟩ | ⟨hraises,hbarren⟩
      · simp only [hok.2 hno,if_true,target.buffered,hfault]
        exact target.outcome.2 (hfit target)
      · have hfalse := Bool.not_eq_true _ ▸ mt hok.1 (not_not.2 hraises)
        simp only [hfalse,Bool.false_eq_true,if_false]
        exact framesAppended_of_aborted.2 hbarren.frames target

theorem Writer.handleFlushBatch_isolated (hopen : w.Open f) :
    Isolated py (.reliable schema columns) w f b
        (w.handleFlushBatch py conf (.reliable schema columns) b).1 ↔
      b.Compatible py (.reliable schema columns) w f := by
  have hconvert := writeContextRows_ok py (withReplies columns b.contextRows) f.contexts
    w.columnsCache
  have hstored := writeContextRows_stored py (withReplies columns b.contextRows) f.contexts
    w.columnsCache
  rw [map_fst_withReplies] at hstored
  rcases w.handleFlushBatch_cases py conf (.reliable schema columns) b hopen with
    ⟨hraised,-,htelemetry,hfile⟩ | ⟨hok,htelemetry,-,hfile⟩
  · have hnot : ¬ContextsConvert py (withReplies columns b.contextRows) f.contexts
        w.columnsCache := by
      rw [← hconvert]
      exact Bool.eq_false_iff.1 hraised
    rw [isolated_of_contextRaised htelemetry hfile]
    constructor
    · exact fun h => .inr ⟨hnot,h⟩
    · intro h
      exact (h.resolve_left fun hleft => hnot hleft.1).2
  · have hyes := hconvert.1 hok
    rw [isolated_of_contextsWritten hopen (fun _ => rfl) (hstored.2 hyes.stored) htelemetry hfile]
    constructor
    · exact fun h => .inl ⟨hyes,h⟩
    · intro h
      exact (h.resolve_right fun hright => hright.1 hyes).2

theorem Isolated.congr {w' w'' : Writer} (hfile : w'.file = w''.file)
    (hrows : ∀ ident, w'.telemetry.maps.rows ident = w''.telemetry.maps.rows ident) :
    Isolated py calls w f b w' ↔ Isolated py calls w f b w'' := by
  constructor
  · intro h
    exact ⟨fun ident => by rw [← hrows,h.telemetry],by rw [← hfile]; exact h.file⟩
  · intro h
    exact ⟨fun ident => by rw [hrows,h.telemetry],by rw [hfile]; exact h.file⟩

variable (py conf schema columns) in
/-- A bad row costs only itself just in compatible batches, for the batches of the background thread
and for the drain of the live buffers. -/
theorem batch_isolated_iff (hopen : w.Open f) : (∀ b, Isolated py (.reliable schema columns) w f b
        (w.handleFlushBatch py conf (.reliable schema columns) b).1 ↔
      b.Compatible py (.reliable schema columns) w f) ∧
    (Isolated py (.reliable schema columns) w f w.liveBatch
        (w.drainPendingToFile py conf (.reliable schema columns)).1 ↔
      w.liveBatch.Compatible py (.reliable schema columns) w f) := by
  refine ⟨fun b => Writer.handleFlushBatch_isolated hopen,?_⟩
  have hdrain := fun ident => w.drainPendingToFile_eq py conf (.reliable schema columns) hopen ident
  rw [Isolated.congr (hdrain "").1 fun ident => (hdrain ident).2]
  exact Writer.handleFlushBatch_isolated hopen

end

def plainConf : Conf := ⟨5,10000,20000,10000,1000,fun _ _ => true⟩

def fileOpened : Writer :=
  { Writer.initial [] [] with
    telemetry := (Writer.initial [] []).telemetry.configure plainPy none none
    file := some .empty }

def unanswered : WriteCalls := .reliable (fun _ => ⟨0,none⟩) fun _ => .unavailable

theorem batch_isolated_fileOpened : (∀ b, Isolated plainPy unanswered fileOpened .empty b
        (fileOpened.handleFlushBatch plainPy plainConf unanswered b).1 ↔
      b.Compatible plainPy unanswered fileOpened .empty) ∧
    (Isolated plainPy unanswered fileOpened .empty fileOpened.liveBatch
        (fileOpened.drainPendingToFile plainPy plainConf unanswered).1 ↔
      fileOpened.liveBatch.Compatible plainPy unanswered fileOpened .empty) :=
  batch_isolated_iff plainPy plainConf (fun _ => ⟨0,none⟩) (fun _ => .unavailable) ⟨rfl,rfl⟩

def badLog : FlushBatch where
  bufferedRows := []
  eventRows := [("manager.log",[("ts",.str "now")]),("manager.log",[])]
  contextRows := []
  streams := .empty
  streamMeta := fun _ => none

theorem bad_log_costs_another : ¬Isolated plainPy unanswered fileOpened .empty badLog
      (fileOpened.handleFlushBatch plainPy plainConf unanswered badLog).1 := by
  intro h
  obtain ⟨f',hf',hevents,-⟩ := h.file
  have hwritten : ((fileOpened.handleFlushBatch plainPy plainConf unanswered badLog).1.file.map
      fun f => f.events.length) = some 0 := by rfl
  have hconverts : (eventRows plainPy fileOpened.telemetry.disabledDevices
      badLog.eventRows).length = 1 := by rfl
  rw [hf'] at hwritten
  simp [hevents,File.empty,hconverts] at hwritten

end ExperimentControl.Hdf

import ExperimentControl.Hdf.Frames

/-!
The datasets of a stream session and `_write_single_stream_buffer`: the operations on the datasets
are run one after the other, so that a failure leaves the columns as the code leaves them.
-/

namespace ExperimentControl.Hdf
open Lib Shm List

/-- The datasets of one session, as columns; there is one for each field of the metadata. -/
structure Dataset where
  schema : Schema
  data : List Bytes
  seq : List Nat
  t0MonoNs : List Nat
  t0WallNs : List Nat
  contextId : List Int
  metadata : List (MetaField × List Bytes)
  deriving DecidableEq

structure Stored where
  row : Row
  metadataDtype : Option MetaDtype
  deriving DecidableEq

def Stored.field (s : Stored) (name : String) : Bytes :=
  MetaDtype.field (s.metadataDtype.getD []) name (s.row.event.metadata.getD [])

def metadataFields (schema : Schema) : MetaDtype := schema.metadataDtype.getD []

def Dataset.ofRows (schema : Schema) (rows : List Stored) : Dataset where
  schema := schema
  data := rows.map (·.row.event.payload)
  seq := rows.map (·.row.event.seq)
  t0MonoNs := rows.map (·.row.event.t0MonoNs)
  t0WallNs := rows.map (·.row.event.t0WallNs)
  contextId := rows.map (·.row.contextId)
  metadata := (metadataFields schema).map fun f => (f,rows.map fun r => r.field f.name)

def reservedNames : List String := ["data","seq","t0_mono_ns","t0_wall_ns","context_id"]

def identChar (c : Char) : Bool := c = '_' || c.isAlphanum

def isIdentifier (name : String) : Bool :=
  match name.toList with
  | [] => false
  | c :: rest => (c = '_' || c.isAlpha) && rest.all identChar

/-- `_validated_frame_metadata_dtype`: what it accepts. -/
def validMetadata (d : MetaDtype) : Bool :=
  !d.isEmpty && d.all fun f =>
    f.name ∉ reservedNames && isIdentifier f.name && 0 < f.dtype.itemsize

def sameFields (cached asked : MetaDtype) : Bool :=
  (asked.all fun f => f ∈ cached) && cached.all fun f => f.name ∈ asked.map (·.name)

/-- Where HDF5 fails in a write: at the creation of the datasets, or after some operations. -/
inductive Fault where
  | none
  | create
  | after (operations : Nat)
  deriving DecidableEq

def ensureStreamDataset (fault : Fault) (datasets : OrderedDict Nat Dataset) (session : Nat)
    (schema : Schema) : Option (Dataset × OrderedDict Nat Dataset) :=
  if !(schema.metadataDtype.all validMetadata) then none
  else
    match datasets.get? session with
    | some d =>
      if sameFields (metadataFields d.schema) (metadataFields schema) then some (d,datasets)
      else none
    | none =>
      if fault = .create then none
      else
        let d := Dataset.ofRows schema []
        some (d,datasets.set session d)

/-- `ds.resize((n,))` -/
def resizeTo {α : Type} (fill : α) (n : Nat) (column : List α) : List α :=
  column.take n ++ List.replicate (n-column.length) fill

/-- `ds[old:old+n] = values`; `none` where the lengths differ. -/
def assignFrom {α : Type} (old n : Nat) (values column : List α) : Option (List α) :=
  if values.length = n then some (column.take old ++ values) else none

def zeros (n : Nat) : Bytes := List.replicate n 0

structure Store where
  buf : Buf
  /-- `data_ds.shape[0]` before -/
  old : Nat
  metadataDtype : Option MetaDtype

def Store.count (s : Store) : Nat := s.buf.data.length

def Store.contexts (s : Store) : List Int :=
  if s.buf.contextId.length = s.count then s.buf.contextId else List.replicate s.count (-1)

def Store.fieldValues (s : Store) (d : MetaDtype) (name : String) : List Bytes :=
  s.buf.frameMetadata.map fun record => d.field name (record.getD [])

def setField (name : String) (f : List Bytes → Option (List Bytes))
    (metadata : List (MetaField × List Bytes)) : Option (List (MetaField × List Bytes)) :=
  metadata.mapM fun m => if m.1.name = name then (f m.2).map fun column => (m.1,column) else some m

/-- The operations on the datasets that every session has. -/
def Store.columnOperations (s : Store) : List (Dataset → Option Dataset) :=
  let total := s.old+s.count
  [fun d => some { d with data := resizeTo (zeros d.schema.nbytes) total d.data },
    fun d => some { d with seq := resizeTo 0 total d.seq },
    fun d => some { d with t0MonoNs := resizeTo 0 total d.t0MonoNs },
    fun d => some { d with t0WallNs := resizeTo 0 total d.t0WallNs },
    fun d => some { d with contextId := resizeTo 0 total d.contextId },
    fun d => (assignFrom s.old s.count s.buf.data d.data).map fun c => { d with data := c },
    fun d => (assignFrom s.old s.count s.buf.seq d.seq).map fun c => { d with seq := c },
    fun d => (assignFrom s.old s.count s.buf.t0MonoNs d.t0MonoNs).map fun c =>
      { d with t0MonoNs := c },
    fun d => (assignFrom s.old s.count s.buf.t0WallNs d.t0WallNs).map fun c =>
      { d with t0WallNs := c },
    -- `np.asarray(context_list, dtype=int64)` raises where an id does not fit
    fun d =>
      if s.contexts.all fun c => decide (fitsInt64 c) then
        (assignFrom s.old s.count s.contexts d.contextId).map fun c => { d with contextId := c }
      else none]

def Store.fieldOperations (s : Store) (f : MetaField) : List (Dataset → Option Dataset) :=
  [fun d => (setField f.name (fun c => some (resizeTo (zeros f.dtype.itemsize) (s.old+s.count) c))
      d.metadata).map fun m => { d with metadata := m },
    fun d => (setField f.name (assignFrom s.old s.count
      (s.fieldValues (s.metadataDtype.getD []) f.name)) d.metadata).map fun m =>
        { d with metadata := m }]

def Store.operations (s : Store) : List (Dataset → Option Dataset) :=
  s.columnOperations ++ ((s.metadataDtype.getD []).flatMap s.fieldOperations ++ [some])

def runOperations : Fault → List (Dataset → Option Dataset) → Dataset → Dataset × Bool
  | _,[],d => (d,true)
  | .after 0,_ :: _,d => (d,false)
  | .after (n+1),op :: rest,d =>
    match op d with
    | some d => runOperations (.after n) rest d
    | none => (d,false)
  | fault,op :: rest,d =>
    match op d with
    | some d => runOperations fault rest d
    | none => (d,false)

def metadataAligned (d : Dataset) (old : Nat) (asked : MetaDtype) : Bool :=
  asked.all fun f => d.metadata.any fun m => m.1 = f && m.2.length = old

/-- What the flush batch knows of a stream, captured when it was handed over. -/
structure StreamMeta where
  schema : Schema
  session : Nat
  deriving DecidableEq

/-- How `_write_single_stream_buffer` ends. -/
inductive WriteEnd where
  | nothing
  | metaMissing (frames : Nat)
  | raised
  | stored (seq : List Nat) (contextId : List Int)
  deriving DecidableEq

structure WriteOutcome where
  datasets : OrderedDict Nat Dataset
  bad : Nat
  finish : WriteEnd

/-- What a write without the metadata of its batch takes from the live maps. -/
structure LiveMeta where
  schema : Option Schema
  layout : Option Schema
  session : Nat

def resolveMeta (captured : Option StreamMeta) (live : LiveMeta) : Option StreamMeta :=
  match captured with
  | some m => some m
  | none =>
    match live.schema,live.layout with
    | some s,some l => some ⟨{ s with metadataDtype := s.metadataDtype.or l.metadataDtype },live.session⟩
    | some s,none => some ⟨s,live.session⟩
    | none,some l => some ⟨l,live.session⟩
    | none,none => none

/-- The part of `_write_single_stream_buffer` after the datasets are there. -/
def writeFrames (fault : Fault) (m : StreamMeta) (d : Dataset)
    (datasets : OrderedDict Nat Dataset) (buf : Buf) : WriteOutcome :=
  match buf.arranged d.schema.nbytes (m.schema.metadataDtype.map MetaDtype.itemsize) with
  | none => ⟨datasets,0,.raised⟩
  | some (bad,buf) =>
    if buf.data = [] then ⟨datasets,bad,.nothing⟩
    else if !metadataAligned d d.data.length (metadataFields m.schema) then ⟨datasets,bad,.raised⟩
    else
      let store : Store := ⟨buf,d.data.length,m.schema.metadataDtype⟩
      match runOperations fault store.operations d with
      | (d,true) => ⟨datasets.set m.session d,bad,.stored buf.seq store.contexts⟩
      | (d,false) => ⟨datasets.set m.session d,bad,.raised⟩

def writeSingleStreamBuffer (fault : Fault) (enabled : Bool) (captured : Option StreamMeta)
    (live : LiveMeta) (datasets : OrderedDict Nat Dataset) (buf : Buf) : WriteOutcome :=
  if buf.data = [] then ⟨datasets,0,.nothing⟩
  else if !enabled then ⟨datasets,0,.nothing⟩
  else
    match resolveMeta captured live with
    | none => ⟨datasets,0,.metaMissing buf.data.length⟩
    | some m =>
      match ensureStreamDataset fault datasets m.session m.schema with
      | none => ⟨datasets,0,.raised⟩
      | some (d,datasets) => writeFrames fault m d datasets buf

theorem assignFrom_resizeTo {α : Type} (fill : α) (more : List α) {old n : Nat}
    {column values : List α} (hcolumn : column.length = old) (hvalues : values.length = n) :
    assignFrom old n values (resizeTo fill (old+n) (column ++ more)) = some (column ++ values) := by
  have htake : (resizeTo fill (old+n) (column ++ more)).take old = column := by
    rw [resizeTo,take_append_of_le_length,take_take,Nat.min_eq_left (Nat.le_add_right _ _),
      ← hcolumn,take_left]
    rw [length_take,length_append]
    omega
  rw [assignFrom,if_pos hvalues,htake]

theorem assignFrom_resize {α : Type} (fill : α) {old n : Nat} {column values : List α}
    (hcolumn : column.length = old) (hvalues : values.length = n) :
    assignFrom old n values (resizeTo fill (old+n) column) = some (column ++ values) := by
  have h := assignFrom_resizeTo fill [] hcolumn hvalues
  rwa [append_nil] at h

theorem runOperations_none_cons (op : Dataset → Option Dataset)
    (rest : List (Dataset → Option Dataset)) (d : Dataset) : runOperations .none (op :: rest) d =
      match op d with
      | some d => runOperations .none rest d
      | none => (d,false) := rfl

theorem runOperations_columns {s : Store} {d : Dataset} (tail : List (Dataset → Option Dataset))
    (hdata : d.data.length = s.old) (hseq : d.seq.length = s.old)
    (hmono : d.t0MonoNs.length = s.old) (hwall : d.t0WallNs.length = s.old)
    (hctx : d.contextId.length = s.old) (hseq' : s.buf.seq.length = s.count)
    (hmono' : s.buf.t0MonoNs.length = s.count) (hwall' : s.buf.t0WallNs.length = s.count)
    (hctx' : s.contexts.length = s.count) (hfits : ∀ c ∈ s.contexts, fitsInt64 c) :
    runOperations .none (s.columnOperations ++ tail) d =
      runOperations .none tail { d with
        data := d.data ++ s.buf.data
        seq := d.seq ++ s.buf.seq
        t0MonoNs := d.t0MonoNs ++ s.buf.t0MonoNs
        t0WallNs := d.t0WallNs ++ s.buf.t0WallNs
        contextId := d.contextId ++ s.contexts } := by
  have hdata' : s.buf.data.length = s.count := rfl
  have hall : s.contexts.all (fun c => decide (fitsInt64 c)) = true := by
    rw [all_eq_true]
    intro c hc
    simpa using hfits c hc
  simp only [Store.columnOperations,cons_append,nil_append,runOperations_none_cons,
    assignFrom_resize _ hdata hdata',assignFrom_resize _ hseq hseq',assignFrom_resize _ hmono hmono',
    assignFrom_resize _ hwall hwall',assignFrom_resize _ hctx hctx',hall,if_true,Option.map_some]

theorem setField_map (fields : MetaDtype) (name : String)
    (column column' : MetaField → List Bytes) (f : List Bytes → Option (List Bytes))
    (h : ∀ field ∈ fields, field.name = name → f (column field) = some (column' field))
    (hother : ∀ field ∈ fields, field.name ≠ name → column' field = column field) :
    setField name f (fields.map fun field => (field,column field)) =
      some (fields.map fun field => (field,column' field)) := by
  induction fields with
  | nil => rfl
  | cons field rest ih =>
    have hrest := ih (fun g hg => h g (by simp [hg])) fun g hg => hother g (by simp [hg])
    simp only [setField] at hrest
    simp only [setField,map_cons,mapM_cons,hrest]
    by_cases hname : field.name = name
    · simp [hname,h field (by simp) hname]
    · simp [hname,hother field (by simp) hname]

def fieldColumn (before values : String → List Bytes) (done : List String) (name : String) :
    List Bytes :=
  if name ∈ done then before name ++ values name else before name

section
variable (fields asked : MetaDtype) (before : String → List Bytes) (store : Store)
  (tail : List (Dataset → Option Dataset))

theorem runOperations_metadata (d : Dataset) (done : List String)
    (hmeta : d.metadata = fields.map fun g => (g,fieldColumn before
      (store.fieldValues (store.metadataDtype.getD [])) done g.name))
    (hbefore : ∀ name, (before name).length = store.old)
    (hvalues : store.buf.frameMetadata.length = store.count) :
    runOperations .none (asked.flatMap store.fieldOperations ++ tail) d =
      runOperations .none tail { d with metadata := fields.map fun g => (g,fieldColumn before
        (store.fieldValues (store.metadataDtype.getD [])) (done ++ asked.map (·.name)) g.name) } := by
  have hlength : ∀ name, (store.fieldValues (store.metadataDtype.getD []) name).length =
      store.count := fun name => by simp [Store.fieldValues,hvalues]
  induction asked generalizing done d with
  | nil => simp [← hmeta]
  | cons f rest ih =>
    have hresize := setField_map fields f.name
      (fun g => fieldColumn before
        (store.fieldValues (store.metadataDtype.getD [])) done g.name)
      (fun g => if g.name = f.name then
        resizeTo (zeros f.dtype.itemsize) (store.old+store.count) (fieldColumn before
          (store.fieldValues (store.metadataDtype.getD [])) done g.name)
        else fieldColumn before (store.fieldValues (store.metadataDtype.getD [])) done g.name)
      (fun c => some (resizeTo (zeros f.dtype.itemsize) (store.old+store.count) c))
      (fun g _ hg => by simp [hg]) (fun g _ hg => by simp [hg])
    have hassign := setField_map fields f.name
      (fun g => if g.name = f.name then
        resizeTo (zeros f.dtype.itemsize) (store.old+store.count) (fieldColumn before
          (store.fieldValues (store.metadataDtype.getD [])) done g.name)
        else fieldColumn before (store.fieldValues (store.metadataDtype.getD [])) done g.name)
      (fun g => fieldColumn before
        (store.fieldValues (store.metadataDtype.getD [])) (done ++ [f.name]) g.name)
      (assignFrom store.old store.count
        (store.fieldValues (store.metadataDtype.getD []) f.name))
      (fun g _ hg => by
        simp only [hg,if_true,fieldColumn,mem_append,mem_singleton,or_true]
        split
        · exact assignFrom_resizeTo _ _ (hbefore _) (hlength _)
        · exact assignFrom_resize _ (hbefore _) (hlength _))
      (fun g _ hg => by simp [fieldColumn,hg])
    have hrest := ih { d with metadata := fields.map fun g => (g,fieldColumn before
      (store.fieldValues (store.metadataDtype.getD [])) (done ++ [f.name]) g.name) }
      (done ++ [f.name]) rfl
    simp only [flatMap_cons,Store.fieldOperations,cons_append,nil_append,
      runOperations_none_cons,hmeta,hresize,Option.map_some,hassign] at hrest ⊢
    rw [hrest]
    simp

end

variable {schema : Schema}

theorem runOperations_ofRows (old : List Stored) (asked : Option MetaDtype) {rows : List Row}
    (hfields : ∀ g ∈ metadataFields schema, g.name ∈ (asked.getD []).map (·.name))
    (hfits : ∀ r ∈ rows, fitsInt64 r.contextId) :
    runOperations .none (Store.operations ⟨Buf.ofRows rows,old.length,asked⟩)
        (Dataset.ofRows schema old) =
      (Dataset.ofRows schema (old ++ rows.map fun r => ⟨r,asked⟩),true) := by
  generalize hstore : (⟨Buf.ofRows rows,old.length,asked⟩ : Store) = store
  have hold : store.old = old.length := by rw [← hstore]
  have hbuf : store.buf = Buf.ofRows rows := by rw [← hstore]
  have hasked : store.metadataDtype = asked := by rw [← hstore]
  have hcount : store.count = rows.length := by simp [Store.count,hbuf]
  have hcontexts : store.contexts = rows.map fun r => r.contextId := by
    rw [Store.contexts,hbuf,hcount]
    simp [Buf.ofRows]
  have hcolumns := runOperations_columns (s := store) (d := Dataset.ofRows schema old)
    ((asked.getD []).flatMap store.fieldOperations ++ [some])
    (by simp [Dataset.ofRows,hold]) (by simp [Dataset.ofRows,hold]) (by simp [Dataset.ofRows,hold])
    (by simp [Dataset.ofRows,hold]) (by simp [Dataset.ofRows,hold])
    (by simp [hbuf,hcount,Buf.ofRows]) (by simp [hbuf,hcount,Buf.ofRows])
    (by simp [hbuf,hcount,Buf.ofRows]) (by simp [hcontexts,hcount])
    (by rw [hcontexts]; simpa using hfits)
  have hmeta := runOperations_metadata (metadataFields schema) (asked.getD [])
    (fun name => old.map fun r => r.field name) store [some]
    { Dataset.ofRows schema old with
      data := (Dataset.ofRows schema old).data ++ store.buf.data
      seq := (Dataset.ofRows schema old).seq ++ store.buf.seq
      t0MonoNs := (Dataset.ofRows schema old).t0MonoNs ++ store.buf.t0MonoNs
      t0WallNs := (Dataset.ofRows schema old).t0WallNs ++ store.buf.t0WallNs
      contextId := (Dataset.ofRows schema old).contextId ++ store.contexts }
    [] (by simp [fieldColumn,Dataset.ofRows]) (by simp [hold])
    (by simp [hbuf,hcount,Buf.ofRows])
  rw [Store.operations,hasked,hcolumns,hmeta,runOperations_none_cons]
  simp only [runOperations,Prod.mk.injEq,and_true]
  simp only [hbuf,hcontexts,Dataset.ofRows,Buf.ofRows,map_append,map_map,
    nil_append,Dataset.mk.injEq,true_and]
  refine ⟨rfl,rfl,rfl,rfl,rfl,?_⟩
  apply map_congr_left
  intro g hg
  simp only [fieldColumn,hfields g hg,if_true,Store.fieldValues,hbuf,hasked,Buf.ofRows,map_map]
  rfl

theorem sameFields_names {cached asked : MetaDtype} (h : sameFields cached asked = true) :
    ∀ g ∈ cached, g.name ∈ asked.map (·.name) := by
  simp only [sameFields,Bool.and_eq_true,all_eq_true,decide_eq_true_eq] at h
  exact h.2

theorem metadataAligned_ofRows {old : List Stored} {asked : MetaDtype}
    (h : sameFields (metadataFields schema) asked = true) :
    metadataAligned (Dataset.ofRows schema old) old.length asked = true := by
  simp only [sameFields,Bool.and_eq_true,all_eq_true,decide_eq_true_eq] at h
  simp only [metadataAligned,all_eq_true,any_eq_true]
  intro f hf
  exact ⟨(f,old.map fun r => r.field f.name),by
    simp only [Dataset.ofRows,mem_map]
    exact ⟨f,h.1 f hf,rfl⟩,by simp⟩

theorem writeFrames_ofRows {m : StreamMeta} {old : List Stored}
    {datasets : OrderedDict Nat Dataset} {rows : List Row}
    (hsame : sameFields (metadataFields schema) (metadataFields m.schema) = true)
    (hd : datasets.get? m.session = some (Dataset.ofRows schema old)) (hfits : ∀ r ∈ rows.filter
      (Row.good schema.nbytes (m.schema.metadataDtype.map MetaDtype.itemsize)),
        fitsInt64 r.contextId) : ∃ written, written.Perm (rows.filter
        (Row.good schema.nbytes (m.schema.metadataDtype.map MetaDtype.itemsize))) ∧
      written.Pairwise Row.seqLe ∧
      (writeFrames .none m (Dataset.ofRows schema old) datasets (Buf.ofRows rows)).bad +
        written.length = rows.length ∧
      (writeFrames .none m (Dataset.ofRows schema old) datasets (Buf.ofRows rows)).finish =
        (if written = [] then .nothing
          else .stored (written.map (·.event.seq)) (written.map (·.contextId))) ∧
      (∀ session, (writeFrames .none m (Dataset.ofRows schema old) datasets
          (Buf.ofRows rows)).datasets.get? session =
        if session = m.session then
          some (Dataset.ofRows schema (old ++ written.map fun r => ⟨r,m.schema.metadataDtype⟩))
        else datasets.get? session) := by
  obtain ⟨written,bad,harranged,hperm,hsorted,hcount⟩ := Buf.arranged_ofRows rows schema.nbytes
    (m.schema.metadataDtype.map MetaDtype.itemsize)
  have hold : (Dataset.ofRows schema old).data.length = old.length := by simp [Dataset.ofRows]
  have hrun := runOperations_ofRows old m.schema.metadataDtype (sameFields_names hsame)
    (fun r hr => hfits r (hperm.mem_iff.1 hr))
  have hnil : (Buf.ofRows written).data = [] ↔ written = [] := by simp [Buf.ofRows]
  refine ⟨written,hperm,hsorted,?_⟩
  simp only [writeFrames,harranged,hold,metadataAligned_ofRows hsame,show
    (Dataset.ofRows schema old).schema = schema from rfl,hnil,Bool.not_true,Bool.false_eq_true,
    if_false,hrun]
  by_cases hw : written = []
  · subst hw
    refine ⟨hcount,by simp,?_⟩
    intro session
    by_cases hs : session = m.session
    · simp [hs,hd]
    · simp [hs]
  · simp only [hw,if_false]
    refine ⟨hcount,?_,fun session => by rw [OrderedDict.get?_set]⟩
    simp [Buf.ofRows,Store.contexts,Store.count]

end ExperimentControl.Hdf

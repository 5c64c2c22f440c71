import Mathlib.Algebra.GroupWithZero.Nat
import ExperimentControl.Hdf.Values
import ExperimentControl.Lib.OrderedDict
import ExperimentControl.Shm.Ring
import Mathlib.Data.List.Sort
import Mathlib.Algebra.BigOperators.Group.List.Basic

/-!
The frames of one stream on their way from the ring to a file: the six parallel lists of a stream
buffer, the datasets of a session, and the write of a buffer into these.
-/

namespace ExperimentControl.Hdf
open Lib Shm List

abbrev Bytes := List UInt8

/-- `(device_id, stream)` -/
abbrev Key := String × String

deriving instance DecidableEq for ShmEvent

structure Dtype where
  name : String
  itemsize : Nat
  deriving DecidableEq

structure MetaField where
  name : String
  dtype : Dtype
  deriving DecidableEq

abbrev MetaDtype := List MetaField

def MetaDtype.itemsize (d : MetaDtype) : Nat := (d.map (·.dtype.itemsize)).sum

def MetaDtype.field (d : MetaDtype) (name : String) (record : Bytes) : Bytes :=
  let before := d.takeWhile fun f => f.name ≠ name
  let width := ((d.find? fun f => f.name = name).map (·.dtype.itemsize)).getD 0
  (record.drop (MetaDtype.itemsize before)).take width

/-- An entry of `_stream_schema`, and the layout of a ring. -/
structure Schema where
  dtype : Dtype
  shape : List Nat
  metadataDtype : Option MetaDtype
  deriving DecidableEq

def Schema.nbytes (s : Schema) : Nat := s.dtype.itemsize*s.shape.prod

structure Row where
  event : ShmEvent
  contextId : Int
  deriving DecidableEq

/-- An entry of `_stream_buffers`. -/
structure Buf where
  data : List Bytes
  seq : List Nat
  t0MonoNs : List Nat
  t0WallNs : List Nat
  contextId : List Int
  frameMetadata : List (Option Bytes)
  deriving DecidableEq

def Buf.empty : Buf := ⟨[],[],[],[],[],[]⟩

/-- `_append_resolved_stream_event` -/
def Buf.append (b : Buf) (event : ShmEvent) (contextId : Int) : Buf where
  data := b.data ++ [event.payload]
  seq := b.seq ++ [event.seq]
  t0MonoNs := b.t0MonoNs ++ [event.t0MonoNs]
  t0WallNs := b.t0WallNs ++ [event.t0WallNs]
  contextId := b.contextId ++ [contextId]
  frameMetadata := b.frameMetadata ++ [event.metadata]

def Buf.ofRows (rows : List Row) : Buf where
  data := rows.map (·.event.payload)
  seq := rows.map (·.event.seq)
  t0MonoNs := rows.map (·.event.t0MonoNs)
  t0WallNs := rows.map (·.event.t0WallNs)
  contextId := rows.map (·.contextId)
  frameMetadata := rows.map (·.event.metadata)

@[simp] theorem Buf.ofRows_nil : Buf.ofRows [] = .empty := rfl

/-- `[values[idx] for idx in idx_list]`; `none` where an index is out of range. -/
def pick {α : Type} (values : List α) (idx : List Nat) : Option (List α) :=
  idx.mapM fun i => values[i]?

/-- `_reindex_stream_frame_lists` -/
def Buf.reindex (b : Buf) (idx : List Nat) : Option Buf := do
  let data ← pick b.data idx
  let seq ← pick b.seq idx
  let t0MonoNs ← pick b.t0MonoNs idx
  let t0WallNs ← pick b.t0WallNs idx
  let contextId ← if b.contextId.isEmpty then some [] else pick b.contextId idx
  let frameMetadata ← if b.frameMetadata.isEmpty then some [] else pick b.frameMetadata idx
  pure ⟨data,seq,t0MonoNs,t0WallNs,contextId,frameMetadata⟩

theorem pick_map {α β : Type} (f : α → β) (values : List α) (idx : List Nat) :
    pick (values.map f) idx = (pick values idx).map (List.map f) := by
  induction idx with
  | nil => rfl
  | cons i rest ih =>
    simp only [pick,mapM_cons,getElem?_map] at ih ⊢
    rw [ih]
    cases values[i]? with
    | none => rfl
    | some v =>
      cases List.mapM (fun i => values[i]?) rest with
      | none => rfl
      | some vs => rfl

variable {idx : List Nat} {α : Type}

theorem pick_eq_pmap {values : List α} (h : ∀ i ∈ idx, i < values.length) :
    pick values idx = some (idx.pmap (fun i hi => values.get ⟨i,hi⟩) h) := by
  induction idx with
  | nil => rfl
  | cons i rest ih =>
    have hi := getElem?_eq_getElem (h i (by simp))
    have hrest := ih fun j hj => h j (by simp [hj])
    simp only [pick] at hrest
    simp [pick,hi,hrest]

theorem pick_range (values : List α) : pick values (List.range values.length) = some values := by
  rw [pick_eq_pmap (by simp)]
  congr 1
  apply ext_getElem
  · simp
  · intro i _ _
    simp

theorem pick_perm {values picked : List α}
    (hidx : idx.Perm (List.range values.length)) (h : pick values idx = some picked) :
    picked.Perm values := by
  have hlt : ∀ i ∈ idx, i < values.length := fun i hi => mem_range.1 (hidx.mem_iff.1 hi)
  have hrange : ∀ i ∈ List.range values.length, i < values.length := fun i => mem_range.1
  rw [pick_eq_pmap hlt,Option.some.injEq] at h
  have hvalues := pick_range values
  rw [pick_eq_pmap hrange,Option.some.injEq] at hvalues
  rw [← h]
  exact (hidx.pmap _).trans (by rw [hvalues])

theorem pick_filter (p : α → Bool) (values : List α) :
    pick values ((List.range values.length).filter fun i => (values[i]?).any p) =
      some (values.filter p) := by
  induction values with
  | nil => rfl
  | cons v rest ih =>
    have htail : ∀ idx : List Nat, pick (v :: rest) (idx.map Nat.succ) = pick rest idx := by
      intro idx
      simp only [pick,mapM_map]
      rfl
    rw [length_cons,range_succ_eq_map,filter_cons,filter_map]
    have hcomp : ((fun i => ((v :: rest)[i]?).any p) ∘ Nat.succ) = fun i => (rest[i]?).any p := by
      funext i
      simp
    rw [hcomp]
    cases hv : p v with
    | false =>
      simp only [getElem?_cons_zero,Option.any_some,hv,Bool.false_eq_true,if_false,htail,ih]
      simp [hv]
    | true =>
      simp only [getElem?_cons_zero,Option.any_some,hv,if_true]
      have hrest := (htail _).trans ih
      simp only [pick] at hrest
      simp [pick,hrest,hv]

theorem Buf.reindex_ofRows {rows : List Row} (h : ∀ i ∈ idx, i < rows.length) :
    ∃ picked, pick rows idx = some picked ∧
      (Buf.ofRows rows).reindex idx = some (Buf.ofRows picked) := by
  have hpicked := pick_eq_pmap h
  generalize idx.pmap (fun i hi => rows.get ⟨i,hi⟩) h = picked at hpicked
  refine ⟨picked,hpicked,?_⟩
  cases rows with
  | nil =>
    cases idx with
    | nil =>
      have hnil : [] = picked := by simpa [pick] using hpicked
      subst hnil
      rfl
    | cons i rest => exact absurd (h i (by simp)) (by simp)
  | cons r rest =>
    simp only [Buf.reindex,Buf.ofRows,pick_map,hpicked]
    rfl

def sortOrder (seq : List Nat) (n : Nat) : List Nat :=
  (List.range n).insertionSort fun i j => seq.getD i 0 ≤ seq.getD j 0

/-- `any(seq_list[idx] > seq_list[idx + 1] for idx in range(n - 1))` -/
def outOfOrder (seq : List Nat) (n : Nat) : Bool :=
  (List.range (n-1)).any fun i => seq.getD (i+1) 0 < seq.getD i 0

def Buf.sorted (b : Buf) : Option Buf :=
  let n := b.data.length
  if b.seq.length < n then none
  else if n > 1 && outOfOrder b.seq n then b.reindex (sortOrder b.seq n)
  else some b

def Buf.repaired (b : Buf) (metaSize : Option Nat) : Buf :=
  let n := b.data.length
  { b with
    contextId :=
      if !b.contextId.isEmpty && b.contextId.length ≠ n then List.replicate n (-1) else b.contextId
    frameMetadata :=
      if metaSize.isSome && b.frameMetadata.length ≠ n then List.replicate n none
      else b.frameMetadata }

def sizeOk (nbytes : Nat) (payload : Bytes) : Bool := payload.length = nbytes

def metadataOk (metaSize : Option Nat) (metadata : Option Bytes) : Bool :=
  match metaSize,metadata with
  | none,_ => true
  | some _,none => false
  | some size,some bytes => bytes.length = size

def Buf.goodAt (b : Buf) (nbytes : Nat) (metaSize : Option Nat) (i : Nat) : Bool :=
  (b.data[i]?).any (sizeOk nbytes) && (b.frameMetadata[i]?).elim true (metadataOk metaSize)

def Buf.filtered (b : Buf) (nbytes : Nat) (metaSize : Option Nat) : Option (Nat × Buf) :=
  let n := b.data.length
  let keep := (List.range n).filter (b.goodAt nbytes metaSize)
  if keep.length = n then some (0,b)
  else if keep = [] then some (n,.empty)
  else (b.reindex keep).map fun b => (n-keep.length,b)

def Buf.arranged (b : Buf) (nbytes : Nat) (metaSize : Option Nat) : Option (Nat × Buf) := do
  let b ← b.sorted
  (b.repaired metaSize).filtered nbytes metaSize

def Row.good (nbytes : Nat) (metaSize : Option Nat) (r : Row) : Bool :=
  sizeOk nbytes r.event.payload && metadataOk metaSize r.event.metadata

def Row.seqLe (r r' : Row) : Prop := r.event.seq ≤ r'.event.seq

instance : IsTrans Row Row.seqLe := ⟨fun _ _ _ => Nat.le_trans⟩

theorem sortOrder_perm (seq : List Nat) (n : Nat) : (sortOrder seq n).Perm (List.range n) :=
  perm_insertionSort _ _

variable (rows : List Row)

theorem Buf.sorted_ofRows :
    ∃ rows', (Buf.ofRows rows).sorted = some (Buf.ofRows rows') ∧ rows'.Perm rows ∧
      rows'.Pairwise Row.seqLe := by
  have hdata : (Buf.ofRows rows).data.length = rows.length := by simp [Buf.ofRows]
  have hseq : (Buf.ofRows rows).seq.length = rows.length := by simp [Buf.ofRows]
  have hget : ∀ i (hi : i < rows.length), (Buf.ofRows rows).seq.getD i 0 = rows[i].event.seq := by
    intro i hi
    simp [Buf.ofRows,hi]
  simp only [Buf.sorted,hdata,hseq,Nat.lt_irrefl,if_false]
  split
  next =>
    have hlt : ∀ i ∈ sortOrder (Buf.ofRows rows).seq rows.length, i < rows.length := fun i hi =>
      mem_range.1 ((sortOrder_perm _ _).mem_iff.1 hi)
    obtain ⟨picked,hpicked,hreindex⟩ := Buf.reindex_ofRows hlt
    refine ⟨picked,hreindex,pick_perm (sortOrder_perm _ _) hpicked,?_⟩
    rw [pick_eq_pmap hlt,Option.some.injEq] at hpicked
    rw [← hpicked,pairwise_pmap]
    have hsorted : (sortOrder (Buf.ofRows rows).seq rows.length).Pairwise
        (fun i j => (Buf.ofRows rows).seq.getD i 0 ≤ (Buf.ofRows rows).seq.getD j 0) := by
      have htotal : Std.Total fun i j : Nat =>
          (Buf.ofRows rows).seq.getD i 0 ≤ (Buf.ofRows rows).seq.getD j 0 :=
        ⟨fun i j => Nat.le_total _ _⟩
      have htrans : IsTrans Nat fun i j =>
          (Buf.ofRows rows).seq.getD i 0 ≤ (Buf.ofRows rows).seq.getD j 0 :=
        ⟨fun _ _ _ => Nat.le_trans⟩
      exact pairwise_insertionSort _ _
    refine hsorted.imp ?_
    intro i j hij hi hj
    rw [hget i hi,hget j hj] at hij
    exact hij
  next hordered =>
    refine ⟨rows,rfl,List.Perm.refl _,?_⟩
    have hchain : ∀ i (hi : i+1 < rows.length), rows[i].event.seq ≤ rows[i+1].event.seq := by
      intro i hi
      by_contra hgt
      apply hordered
      have hmem : i ∈ List.range (rows.length-1) := by
        rw [mem_range]
        omega
      simp only [Bool.and_eq_true,decide_eq_true_eq]
      refine ⟨by omega,?_⟩
      rw [outOfOrder,any_eq_true]
      refine ⟨i,hmem,?_⟩
      rw [hget i (by omega),hget (i+1) hi]
      simpa using hgt
    rw [← isChain_iff_pairwise,isChain_iff_getElem]
    exact fun i hi => hchain i hi

@[simp] theorem Buf.length_data_ofRows : (Buf.ofRows rows).data.length = rows.length := by
  simp [Buf.ofRows]

theorem Buf.repaired_ofRows (metaSize : Option Nat) :
    (Buf.ofRows rows).repaired metaSize = Buf.ofRows rows := by
  simp [Buf.repaired,Buf.ofRows]

theorem Buf.goodAt_ofRows (nbytes : Nat) (metaSize : Option Nat) {i : Nat} (hi : i < rows.length) :
    (Buf.ofRows rows).goodAt nbytes metaSize i = (rows[i]?).any (Row.good nbytes metaSize) := by
  simp [Buf.goodAt,Buf.ofRows,Row.good,hi]

theorem Buf.filtered_ofRows (nbytes : Nat) (metaSize : Option Nat) :
    (Buf.ofRows rows).filtered nbytes metaSize =
      some (rows.length-(rows.filter (Row.good nbytes metaSize)).length,
        Buf.ofRows (rows.filter (Row.good nbytes metaSize))) := by
  have hkeep : (List.range rows.length).filter ((Buf.ofRows rows).goodAt nbytes metaSize) =
      (List.range rows.length).filter fun i => (rows[i]?).any (Row.good nbytes metaSize) := by
    apply filter_congr
    intro i hi
    exact Buf.goodAt_ofRows rows nbytes metaSize (mem_range.1 hi)
  have hpicked := pick_filter (Row.good nbytes metaSize) rows
  simp only [Buf.filtered,Buf.length_data_ofRows,hkeep]
  generalize hidx : (List.range rows.length).filter
    (fun i => (rows[i]?).any (Row.good nbytes metaSize)) = keep at hpicked
  have hlt : ∀ i ∈ keep, i < rows.length := by
    intro i hi
    rw [← hidx] at hi
    exact mem_range.1 (mem_filter.1 hi).1
  have hlength : keep.length = (rows.filter (Row.good nbytes metaSize)).length := by
    rw [pick_eq_pmap hlt,Option.some.injEq] at hpicked
    rw [← hpicked,length_pmap]
  rw [← hlength]
  split
  next hall =>
    have hfilter : rows.filter (Row.good nbytes metaSize) = rows :=
      filter_sublist.eq_of_length (by rw [← hlength,hall])
    rw [hfilter,hall,Nat.sub_self]
  next =>
    split
    next hnone =>
      have hempty : rows.filter (Row.good nbytes metaSize) = [] := by
        rw [← length_eq_zero_iff,← hlength,hnone,length_nil]
      rw [hempty,hnone,length_nil,Nat.sub_zero,Buf.ofRows_nil]
    next =>
      obtain ⟨picked,hpick,hreindex⟩ := Buf.reindex_ofRows hlt
      have hsame : picked = rows.filter (Row.good nbytes metaSize) :=
        Option.some.inj (hpick.symm.trans hpicked)
      rw [hreindex,hsame]
      rfl

theorem Buf.arranged_ofRows (nbytes : Nat) (metaSize : Option Nat) :
    ∃ rows' bad, (Buf.ofRows rows).arranged nbytes metaSize = some (bad,Buf.ofRows rows') ∧
      rows'.Perm (rows.filter (Row.good nbytes metaSize)) ∧ rows'.Pairwise Row.seqLe ∧
      bad + rows'.length = rows.length := by
  obtain ⟨sorted,hsorted,hperm,hpairwise⟩ := Buf.sorted_ofRows rows
  refine ⟨sorted.filter (Row.good nbytes metaSize),
    sorted.length-(sorted.filter (Row.good nbytes metaSize)).length,?_,hperm.filter _,
    hpairwise.filter _,?_⟩
  · simp [Buf.arranged,hsorted,Buf.repaired_ofRows,Buf.filtered_ofRows]
  · have hle : (sorted.filter (Row.good nbytes metaSize)).length ≤ sorted.length :=
      length_filter_le _ _
    have hlen := hperm.length_eq
    omega

end ExperimentControl.Hdf

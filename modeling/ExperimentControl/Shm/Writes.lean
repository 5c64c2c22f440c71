import ExperimentControl.Shm.Readers

/-!
Whole calls of `ShmRingWriter.write` and `write_batch`, with the checks they make first.
-/

namespace ExperimentControl.Shm
open Lib List Function

/-- An array by what the ring looks at; a dtype is its text, and has an item size. -/
structure NdArray (itemsize : String → Nat) where
  dtype : String
  shape : List Nat
  bytes : List UInt8
  nbytes : bytes.length = itemsize dtype * shape.prod

/-- A ring as `create` lays it out. -/
structure Ring (itemsize : String → Nat) where
  layout : ShmLayout
  dtype : String
  shape : List Nat
  metadataDtype : Option String
  payload_nbytes : layout.payloadNbytes = itemsize dtype * shape.prod
  metadata_nbytes : layout.metadataNbytes = metadataDtype.map itemsize

/-- How a call ends: it returns, one of its checks raises, or packing a slot's fields does. -/
inductive Outcome (α : Type) where
  | returned (result : α)
  | rejected (message : String)
  | broken
  deriving DecidableEq

def tupleText : List Nat → String
  | [n] => "(" ++ toString n ++ ",)"
  | ns => "(" ++ ", ".intercalate (ns.map toString) ++ ")"

def applyStores (memory : Cell → Nat) (stores : List Store) : Cell → Nat :=
  stores.foldl (fun memory store => update memory store.1 store.2) memory

/-- What `write` does once its checks have passed. -/
def commitWrite (l : ShmLayout) (call : WriteCall) (w : World) : World × Outcome Nat :=
  let slot := w.nextSlot
  let seq := w.nextSeq+1
  let stores := writeStores l slot seq call
  let memory := applyStores w.memory stores.1
  if stores.2 then
    ({ w with
      memory := memory
      nextSeq := seq
      nextSlot := (slot+1) % l.slotCount
      assigned := w.assigned ++ [(seq,call)] },.returned seq)
  else ({ w with memory := memory },.broken)

section
variable {itemsize : String → Nat} (r : Ring itemsize)

/-- The checks of `write`: the message of the first that raises. -/
def writeError (arr : NdArray itemsize) (metadata : Option (NdArray itemsize)) : Option String :=
  if arr.dtype ≠ r.dtype then
    some ("dtype mismatch: got " ++ arr.dtype ++ ", expected " ++ r.dtype)
  else if arr.shape ≠ r.shape then
    some ("shape mismatch: got " ++ tupleText arr.shape ++ ", expected " ++ tupleText r.shape)
  else match r.metadataDtype,metadata with
    | none,none => none
    | none,some _ => some "metadata provided for a ring without a metadata schema"
    | some _,none => some "metadata required by the SHM ring schema"
    | some dtype,some metadata =>
      if metadata.dtype ≠ dtype ∨ metadata.shape ≠ [] then
        some ("metadata mismatch: got dtype=" ++ metadata.dtype ++ ", shape=" ++
          tupleText metadata.shape ++ "; expected dtype=" ++ dtype ++ ", shape=()")
      else none

def write (arr : NdArray itemsize) (t0MonoNs t0WallNs : Int) (metadata : Option (NdArray itemsize))
    (w : World) : World × Outcome Nat :=
  match writeError r arr metadata with
  | some message => (w,.rejected message)
  | none => commitWrite r.layout ⟨arr.bytes,t0MonoNs,t0WallNs,metadata.map NdArray.bytes⟩ w

/-- `batch[i]`; the zeros at the end fill up a frame that the batch does not have. -/
def NdArray.frame (batch : NdArray itemsize) (i : Nat) : NdArray itemsize where
  dtype := batch.dtype
  shape := batch.shape.tail
  bytes :=
    let size := itemsize batch.dtype * batch.shape.tail.prod
    (batch.bytes.drop (i*size) ++ List.replicate size 0).take size
  nbytes := by simp

/-- The checks of `write_batch`, with the timestamps as they are converted. -/
def batchError (batch : NdArray itemsize) (mono wall : Except String (List Int))
    (metadata : Option (NdArray itemsize)) : Except String (Nat × List Int × List Int) :=
  match batch.shape with
  | [] => .error "batched stream payload must have a leading batch axis"
  | count :: rest =>
    if rest ≠ r.shape then
      .error ("batched shape mismatch: got " ++ tupleText batch.shape ++ ", expected (n, " ++
        tupleText r.shape ++ ")")
    else if batch.dtype ≠ r.dtype then
      .error ("dtype mismatch: got " ++ batch.dtype ++ ", expected " ++ r.dtype)
    else if count < 1 ∨ r.layout.slotCount < count then
      .error "batch size must be between 1 and the ring slot count"
    else do
      let mono ← mono
      let wall ← wall
      if mono.length ≠ count ∨ wall.length ≠ count then
        .error "batch timestamps must contain one value per frame"
      else match r.metadataDtype,metadata with
        | none,none => .ok (count,mono,wall)
        | none,some _ => .error "metadata provided for a ring without a metadata schema"
        | some _,none => .error "metadata required by the SHM ring schema"
        | some dtype,some metadata =>
          if metadata.dtype ≠ dtype ∨ metadata.shape ≠ [count] then
            .error "batch metadata must match the ring schema and batch size"
          else .ok (count,mono,wall)

/-- The loop of `write_batch` over the frames from `i` on; `first` is 0 until a frame is written. -/
def writeFrames (batch : NdArray itemsize) (mono wall : List Int)
    (metadata : Option (NdArray itemsize)) :
    Nat → Nat → Nat × Nat → World → World × Outcome (Nat × Nat)
  | 0,_,range,w => (w,.returned range)
  | n+1,i,range,w =>
    match write r (batch.frame i) (mono.getD i 0) (wall.getD i 0) (metadata.map (·.frame i)) w with
    | (w,.returned seq) =>
      writeFrames batch mono wall metadata n (i+1) (if i = 0 then seq else range.1,seq) w
    | (w,.rejected message) => (w,.rejected message)
    | (w,.broken) => (w,.broken)

/-- Write multiple logical frames and return their inclusive seq range. `asUint64` is what numpy
makes of a list of timestamps. -/
def writeBatch (asUint64 : List Int → Except String (List Int)) (batch : NdArray itemsize)
    (t0MonoNs t0WallNs : List Int) (metadata : Option (NdArray itemsize)) (w : World) :
    World × Outcome (Nat × Nat) :=
  match batchError r batch (asUint64 t0MonoNs) (asUint64 t0WallNs) metadata with
  | .error message => (w,.rejected message)
  | .ok (count,mono,wall) => writeFrames r batch mono wall metadata count 0 (0,0) w

variable {metadata : Option (NdArray itemsize)}

theorem writeError_none {arr : NdArray itemsize}
    (h : writeError r arr metadata = none) (hslots : 0 < r.layout.slotCount) (mono wall : Int) :
    WriteCall.valid r.layout ⟨arr.bytes,mono,wall,metadata.map NdArray.bytes⟩ = true := by
  unfold writeError at h
  split at h
  · cases h
  split at h
  · cases h
  next hdtype hshape =>
    have hpayload : arr.bytes.length = r.layout.payloadNbytes := by
      rw [arr.nbytes,r.payload_nbytes,not_not.1 hdtype,not_not.1 hshape]
    have hmetadata : (metadata.map NdArray.bytes).map List.length = r.layout.metadataNbytes := by
      rw [r.metadata_nbytes]
      split at h
      · next hnone => simp [hnone]
      · cases h
      · cases h
      · next dtype given hsome =>
        split at h
        · cases h
        · next hok =>
          simp only [not_or,not_not] at hok
          simp [hsome,given.nbytes,hok.1,hok.2]
    simp [WriteCall.valid,hpayload,hmetadata,hslots]

theorem batchError_ok {batch : NdArray itemsize} {mono wall : Except String (List Int)}
    {checked : Nat × List Int × List Int}
    (h : batchError r batch mono wall metadata = .ok checked) :
    (batch.shape.head? = some checked.1 ∧ mono = .ok checked.2.1 ∧ wall = .ok checked.2.2 ∧
        checked.2.1.length = checked.1 ∧ checked.2.2.length = checked.1) ∧
      1 ≤ checked.1 ∧ batch.dtype = r.dtype ∧ batch.shape.tail = r.shape ∧
      (∀ dtype, r.metadataDtype = some dtype →
        ∃ given, metadata = some given ∧ given.dtype = dtype ∧ given.shape.tail = []) ∧
      (r.metadataDtype = none → metadata = none) := by
  unfold batchError at h
  split at h
  · cases h
  next count rest hshape =>
  split at h
  · cases h
  next hrest =>
  split at h
  · cases h
  next hdtype =>
  split at h
  · cases h
  next hcount =>
  have hone : 1 ≤ count := by omega
  have htail : batch.shape.tail = r.shape := by simp [hshape,not_not.1 hrest]
  cases mono with
  | error e => cases h
  | ok mono =>
  cases wall with
  | error e => cases h
  | ok wall =>
  simp only [bind,Except.bind] at h
  split at h
  · cases h
  next hlengths =>
  simp only [not_or,not_not] at hlengths
  have hread : batch.shape.head? = some count ∧ Except.ok (ε := String) mono = .ok mono ∧
      Except.ok (ε := String) wall = .ok wall ∧ mono.length = count ∧ wall.length = count :=
    ⟨by rw [hshape,head?_cons],rfl,rfl,hlengths⟩
  split at h
  · next hring =>
    cases h
    exact ⟨hread,hone,not_not.1 hdtype,htail,by simp [hring],fun _ => rfl⟩
  · cases h
  · cases h
  · next dtype given hring =>
    split at h
    · cases h
    · next hok =>
      cases h
      simp only [not_or,not_not] at hok
      refine ⟨hread,hone,not_not.1 hdtype,htail,?_,by simp [hring]⟩
      rintro dtype' hdtype'
      rw [hring,Option.some.injEq] at hdtype'
      exact ⟨given,rfl,hok.1.trans hdtype',by simp [hok.2]⟩

theorem writeError_frame {batch : NdArray itemsize} {mono wall : Except String (List Int)}
    {checked : Nat × List Int × List Int}
    (h : batchError r batch mono wall metadata = .ok checked) (i : Nat) :
    writeError r (batch.frame i) (metadata.map (·.frame i)) = none := by
  obtain ⟨-,-,hdtype,hshape,hmetadata,hnone⟩ := batchError_ok r h
  have hframe : (batch.frame i).dtype = r.dtype ∧ (batch.frame i).shape = r.shape := ⟨hdtype,hshape⟩
  simp only [writeError,hframe.1,hframe.2,ne_eq,not_true_eq_false,if_false]
  cases hring : r.metadataDtype with
  | none => simp [hnone hring]
  | some dtype =>
    obtain ⟨given,rfl,hd,hs⟩ := hmetadata dtype hring
    have hgiven : (given.frame i).dtype = dtype ∧ (given.frame i).shape = [] := ⟨hd,hs⟩
    simp [hgiven.1,hgiven.2]

end

theorem applyStores_cons (memory : Cell → Nat) (store : Store) (rest : List Store) :
    applyStores memory (store :: rest) = applyStores (update memory store.1 store.2) rest := rfl

theorem applyStores_append (memory : Cell → Nat) (first second : List Store) :
    applyStores memory (first ++ second) = applyStores (applyStores memory first) second := by
  simp [applyStores]

theorem applyStores_of_not_mem {stores : List Store} {c : Cell}
    (h : ∀ store ∈ stores, store.1 ≠ c) (memory : Cell → Nat) :
    applyStores memory stores c = memory c := by
  induction stores generalizing memory with
  | nil => rfl
  | cons store rest ih =>
    rw [applyStores_cons,ih (fun s hs => h s (mem_cons_of_mem _ hs)),update_of_ne]
    exact Ne.symm (h store (by simp))

theorem applyStores_of_mem {stores : List Store} (hnodup : (stores.map Prod.fst).Nodup) {c : Cell}
    {v : Nat} (h : (c,v) ∈ stores) (memory : Cell → Nat) : applyStores memory stores c = v := by
  induction stores generalizing memory with
  | nil => cases h
  | cons store rest ih =>
    obtain ⟨hfresh,hnodup⟩ := nodup_cons.1 hnodup
    rw [applyStores_cons]
    rcases mem_cons.1 h with rfl | h
    · rw [applyStores_of_not_mem,update_self]
      intro s hs heq
      exact hfresh (mem_map.2 ⟨s,hs,heq⟩)
    · exact ih hnodup h _

def publishes (writing : Writing) (stores : List Store) : List (Nat × WriteCall) :=
  stores.flatMap fun store =>
    if store.1 = seqEnd writing.slot ∧ store.2 ≠ 0 then [(writing.seq,writing.call)] else []

theorem continueWrite_all (l : ShmLayout) (stores : List Store) (w : World) (writing : Writing)
    (hwriting : w.writing = some writing) (hpending : writing.pending = stores) :
    Relation.ReflTransGen (WriterStep l) w { w with
      memory := applyStores w.memory stores
      writing := some { writing with pending := [] }
      assigned := w.assigned ++ publishes writing stores } := by
  induction stores generalizing w writing with
  | nil =>
    have hsame : { w with
        memory := applyStores w.memory []
        writing := some { writing with pending := [] }
        assigned := w.assigned ++ publishes writing [] } = w := by
      cases w
      cases writing
      simp_all [applyStores,publishes]
    rw [hsame]
  | cons store rest ih =>
    obtain ⟨c,v⟩ := store
    have hstep : continueWrite l w = some { w with
        memory := update w.memory c v
        writing := some { writing with pending := rest }
        assigned := w.assigned ++ publishes writing [(c,v)] } := by
      simp [continueWrite,hwriting,hpending,publishes]
    have hrest := ih { w with
        memory := update w.memory c v
        writing := some { writing with pending := rest }
        assigned := w.assigned ++ publishes writing [(c,v)] } { writing with pending := rest } rfl rfl
    refine Relation.ReflTransGen.head (.advance hstep) ?_
    simpa [applyStores_cons,publishes] using hrest

theorem publishes_writeStores (l : ShmLayout) (call : WriteCall) (slot n : Nat) (writing : Writing)
    (hslot : writing.slot = slot) (hseq : writing.seq = n+1) (hcall : writing.call = call) :
    publishes writing (writeStores l slot (n+1) call).1 =
      if (writeStores l slot (n+1) call).2 then [(n+1,call)] else [] := by
  have hnone : ∀ stores : List Store, (∀ c v, (c,v) ∈ stores → c = seqEnd slot → v = 0) →
      publishes writing stores = [] := by
    intro stores h
    rw [publishes,flatMap_eq_nil_iff]
    rintro ⟨c,v⟩ hmem
    rw [if_neg]
    rintro ⟨hc,hv⟩
    exact hv (h c v hmem (hc.trans (by rw [hslot])))
  have hfill : publishes writing (fillStores slot (n+1) call) = [] :=
    hnone _ fun c v hmem => (fillStores_cell hmem).2
  have hinvalidate : publishes writing (invalidateStores slot) = [] :=
    hnone _ fun c v hmem _ => by
      simp only [invalidateStores,mem_cons,Prod.mk.injEq,not_mem_nil,or_false] at hmem
      omega
  have hhints : publishes writing (hintStores l slot (n+1)) = [] := by
    apply hnone
    intro c v hmem hc
    unfold hintStores at hmem
    split at hmem
    · subst hc
      simp [seqEnd] at hmem
    · simp at hmem
  have happend : ∀ first second, publishes writing (first ++ second) =
      publishes writing first ++ publishes writing second := by simp [publishes]
  rw [writeStores_eq,happend,happend,hfill,hinvalidate,publishStores]
  split
  · have hcons : publishes writing ((seqEnd slot,n+1) :: hintStores l slot (n+1)) =
        (n+1,call) :: publishes writing (hintStores l slot (n+1)) := by
      simp [publishes,hslot,hseq,hcall]
    rw [hcons,hhints]
    rfl
  · rfl

theorem commitWrite_steps {l : ShmLayout} {call : WriteCall} {w : World}
    (hidle : w.writing = none) (hvalid : call.valid l = true) :
    Relation.ReflTransGen (WriterStep l) w (commitWrite l call w).1 := by
  have hstart : startWrite l call w = some { w with
      writing := some ⟨call,w.nextSlot,w.nextSeq+1,(writeStores l w.nextSlot (w.nextSeq+1) call).1,
        (writeStores l w.nextSlot (w.nextSeq+1) call).2⟩ } := by
    simp [startWrite,hidle,hvalid]
  refine Relation.ReflTransGen.head (.start call hstart) ?_
  refine (continueWrite_all l _ _ _ rfl rfl).trans (Relation.ReflTransGen.single (.advance ?_))
  rw [publishes_writeStores l call w.nextSlot w.nextSeq _ rfl rfl rfl]
  cases hret : (writeStores l w.nextSlot (w.nextSeq+1) call).2 with
  | true => simp [continueWrite,commitWrite,hret,hidle]
  | false => simp [continueWrite,commitWrite,hret,hidle]

end ExperimentControl.Shm

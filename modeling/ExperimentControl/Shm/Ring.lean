import Mathlib.Algebra.Group.Nat.Defs
import ExperimentControl.Lib.Loads
import Mathlib.Data.List.Basic

/-!
The shared memory ring (`shm/shm_ring.py`): one writer and any number of readers that share nothing
but memory. A write invalidates a slot, fills it and publishes it by its end marker; a read looks at
the markers before and after it copies.
-/

namespace ExperimentControl.Shm
open Lib

structure ShmLayout where
  slotCount : Nat
  payloadNbytes : Nat
  layoutVersion : Nat
  dtypeStrLen : Nat
  shapeLen : Nat
  metadataDtypeStrLen : Nat
  metadataNbytes : Option Nat

/-- What is loaded or stored in one step: a word of the header or of a slot entry, or a byte. -/
inductive Cell where
  | lastSeq
  | lastSlot
  | word (slot i : Nat)
  | payload (slot i : Nat)
  | metadata (slot i : Nat)
  deriving DecidableEq

def seqBegin (slot : Nat) : Cell := .word slot 0
def t0Mono (slot : Nat) : Cell := .word slot 1
def t0Wall (slot : Nat) : Cell := .word slot 2

/-- `SEQ_END_OFFSET` is the offset of the reserved flags. -/
def seqEnd (slot : Nat) : Cell := .word slot 4

/-- The arguments of a `write`; the array and the metadata as their bytes. -/
structure WriteCall where
  payload : List UInt8
  t0MonoNs : Int
  t0WallNs : Int
  metadata : Option (List UInt8)

def WriteCall.valid (l : ShmLayout) (call : WriteCall) : Bool :=
  call.payload.length = l.payloadNbytes && call.metadata.map List.length = l.metadataNbytes &&
    0 < l.slotCount

abbrev Store := Cell × Nat

/-- What `struct` takes for a `Q`. -/
def packQ : Int → Option Nat
  | .ofNat n => if n < 2^64 then some n else none
  | .negSucc _ => none

/-- `pack_into` with a list of `Q`s: it raises at the first value that does not fit, with the ones
before it in place. -/
def packFields (slot : Nat) : Nat → List Int → List Store × Bool
  | _,[] => ([],true)
  | i,v :: rest =>
    match packQ v with
    | none => ([],false)
    | some n =>
      let packed := packFields slot (i+1) rest
      ((.word slot i,n) :: packed.1,packed.2)

def copyBytes (place : Nat → Cell) (bytes : List UInt8) : List Store :=
  bytes.mapIdx fun i byte => (place i,byte.toNat)

def slotFields (seq : Nat) (call : WriteCall) : List Int :=
  [seq,call.t0MonoNs,call.t0WallNs,0,0,0,0,0]

def fillStores (slot seq : Nat) (call : WriteCall) : List Store :=
  copyBytes (.payload slot) call.payload ++ copyBytes (.metadata slot) (call.metadata.getD []) ++
    (packFields slot 0 (slotFields seq call)).1

def invalidateStores (slot : Nat) : List Store := [(seqBegin slot,0),(seqEnd slot,0)]

def hintStores (l : ShmLayout) (slot seq : Nat) : List Store :=
  if 2 ≤ l.layoutVersion then [(.lastSeq,seq),(.lastSlot,slot)] else []

/-- The stores of a `write`, and whether it returns. -/
def writeStores (l : ShmLayout) (slot seq : Nat) (call : WriteCall) : List Store × Bool :=
  let filled := invalidateStores slot ++ fillStores slot seq call
  if (packFields slot 0 (slotFields seq call)).2 then
    (filled ++ (seqEnd slot,seq) :: hintStores l slot seq,true)
  else (filled,false)

/-- A `write` that is under way. -/
structure Writing where
  call : WriteCall
  slot : Nat
  seq : Nat
  pending : List Store
  returns : Bool

/-- The memory, the writer, and the calls by the sequence number they were published under. -/
structure World where
  memory : Cell → Nat
  nextSeq : Nat
  nextSlot : Nat
  writing : Option Writing
  assigned : List (Nat × WriteCall)

def World.init : World := ⟨fun _ => 0,0,0,none,[]⟩

def startWrite (l : ShmLayout) (call : WriteCall) (w : World) : Option World :=
  match w.writing with
  | some _ => none
  | none =>
    if call.valid l then
      let stores := writeStores l w.nextSlot (w.nextSeq+1) call
      some { w with writing := some ⟨call,w.nextSlot,w.nextSeq+1,stores.1,stores.2⟩ }
    else none

def continueWrite (l : ShmLayout) (w : World) : Option World :=
  match w.writing with
  | none => none
  | some writing =>
    match writing.pending with
    | [] =>
      if writing.returns then
        some { w with
          nextSeq := writing.seq
          nextSlot := (writing.slot+1) % l.slotCount
          writing := none }
      else some { w with writing := none }
    | (cell,v) :: rest =>
      -- the end marker is what makes the write visible
      let published := if cell = seqEnd writing.slot ∧ v ≠ 0 then [(writing.seq,writing.call)] else []
      some { w with
        memory := Function.update w.memory cell v
        writing := some { writing with pending := rest }
        assigned := w.assigned ++ published }

inductive WriterStep (l : ShmLayout) : World → World → Prop where
  | start {w w' : World} (call : WriteCall) : startWrite l call w = some w' → WriterStep l w w'
  | advance {w w' : World} : continueWrite l w = some w' → WriterStep l w w'

structure ShmEvent where
  seq : Nat
  t0MonoNs : Nat
  t0WallNs : Nat
  payload : List UInt8
  metadata : Option (List UInt8)

abbrev Reader := Loads Cell Nat

def readBytes (place : Nat → Cell) (n : Nat) : Reader (List UInt8) := do
  let bytes ← Loads.cells ((List.range n).map place)
  pure (bytes.map UInt8.ofNat)

def readMetadata (l : ShmLayout) (slot : Nat) : Reader (Option (List UInt8)) :=
  match l.metadataNbytes with
  | none => pure none
  | some n => do
    let bytes ← readBytes (.metadata slot) n
    pure (some bytes)

def readStableSlot (l : ShmLayout) (slot : Nat) (expected : Int) : Reader (Option ShmEvent) := do
  let first ← Loads.cell (seqBegin slot)
  let last ← Loads.cell (seqEnd slot)
  if first = 0 ∨ first ≠ last ∨ (last : Int) ≠ expected then pure none
  else
    let mono ← Loads.cell (t0Mono slot)
    let wall ← Loads.cell (t0Wall slot)
    let _shot ← Loads.cell (.word slot 3)
    let payload ← readBytes (.payload slot) l.payloadNbytes
    let metadata ← readMetadata l slot
    let firstAfter ← Loads.cell (seqBegin slot)
    let lastAfter ← Loads.cell (seqEnd slot)
    if (firstAfter : Int) ≠ expected ∨ (lastAfter : Int) ≠ expected ∨ firstAfter ≠ lastAfter then
      pure none
    else pure (some ⟨expected.toNat,mono,wall,payload,metadata⟩)

def readLastHint (l : ShmLayout) : Reader (Option Nat) :=
  if l.layoutVersion < 2 then pure none
  else do
    let _seq ← Loads.cell .lastSeq
    let slot ← Loads.cell .lastSlot
    pure (some slot)

def trySlots (l : ShmLayout) (seqTarget : Int) : List Nat → Reader (Option ShmEvent)
  | [] => pure none
  | slot :: rest => do
    match ← readStableSlot l slot seqTarget with
    | some event => pure (some event)
    | none => trySlots l seqTarget rest

def hintedSlots (l : ShmLayout) (hint : Nat) : List Nat :=
  hint :: (List.range 32).flatMap fun d =>
    [(hint+(d+1)) % l.slotCount,(((hint : Int)-(d+1)) % (l.slotCount : Int)).toNat]

def readEvent (l : ShmLayout) (seqTarget : Int) : Reader (Option ShmEvent) := do
  let all := List.range l.slotCount
  match ← readLastHint l with
  | some hint =>
    if hint < l.slotCount then trySlots l seqTarget (hintedSlots l hint ++ all)
    else trySlots l seqTarget all
  | none => trySlots l seqTarget all

def findEntries (lastSeenSeq : Int) : List Nat → Reader (List (Nat × Nat))
  | [] => pure []
  | slot :: rest => do
    let first ← Loads.cell (seqBegin slot)
    let last ← Loads.cell (seqEnd slot)
    let entries ← findEntries lastSeenSeq rest
    if first = 0 ∨ first ≠ last ∨ (last : Int) ≤ lastSeenSeq then pure entries
    else pure ((last,slot) :: entries)

def readEntries (l : ShmLayout) : List (Nat × Nat) → Reader (List ShmEvent)
  | [] => pure []
  | (seq,slot) :: rest => do
    let event ← readStableSlot l slot seq
    let events ← readEntries l rest
    pure (event.toList ++ events)

def readEvents (l : ShmLayout) (lastSeenSeq : Int) : Reader (List ShmEvent) := do
  let all := List.range l.slotCount
  let slots ← do
    match ← readLastHint l with
    | some hint =>
      if hint < l.slotCount then pure (all.map fun i => (hint+i) % l.slotCount) else pure all
    | none => pure all
  let entries ← findEntries lastSeenSeq slots
  readEntries l (entries.mergeSort fun a b => a.1 ≤ b.1)

end ExperimentControl.Shm

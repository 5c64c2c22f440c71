import ExperimentControl.Hdf.StreamWrites
import ExperimentControl.Hdf.Telemetry

/-!
What the main thread does with the chunk messages of one stream: attaching to the ring, matching
frames with the contexts that messages announce, and the sweeps of the two maps.
-/

namespace ExperimentControl.Hdf
open Lib Shm Python

/-- The settings of the writer; `keepEvent` is `_should_keep_event` under the configured mode. -/
structure Conf where
  contextResolveTtlS : ℚ
  contextPendingMaxPerStream : Int
  contextMapMaxPerStream : Int
  bufferMaxMessages : Nat
  flushEveryN : Nat
  keepEvent : String → Msg → Bool

def Conf.resolveTtlS (conf : Conf) : ℚ := max (1/10) conf.contextResolveTtlS
def Conf.pendingMax (conf : Conf) : Nat := (max 1 conf.contextPendingMaxPerStream).toNat
def Conf.mapMax (conf : Conf) : Nat := (max 1 conf.contextMapMaxPerStream).toNat

def contextMapTtlS : ℚ := 60
def contextMapWrittenMargin : Nat := 512

structure ChunkSequenceRange where
  firstSeq : Nat
  finalSeq : Nat
  positive : 1 ≤ firstSeq
  ordered : firstSeq ≤ finalSeq

def ChunkSequenceRange.batchCount (r : ChunkSequenceRange) : Nat := r.finalSeq-r.firstSeq+1

def ChunkSequenceRange.seqs (r : ChunkSequenceRange) : List Nat :=
  List.range' r.firstSeq r.batchCount

/-- A parsed `manager.chunk_ready` message. -/
structure ChunkReadyMessage where
  deviceId : String
  stream : String
  shmName : String
  range : Option ChunkSequenceRange
  contextId : Option Int
  contextFields : Option (List (String × Value))

structure RingInfo where
  layout : Schema
  slotCount : Nat
  deriving DecidableEq

/-- A `ShmRingReader`. -/
structure Reader where
  name : String
  info : RingInfo
  deriving DecidableEq

/-- The stable frames of a ring at the time of a read, by sequence number. -/
structure RingContents where
  events : List ShmEvent
  sorted : events.Pairwise fun e e' => e.seq < e'.seq

/-- `read_events(last_seq)`; nothing seen yet reads all. -/
def RingContents.after (r : RingContents) (lastSeq : Option Nat) : List ShmEvent :=
  r.events.filter fun e => lastSeq.all fun last => last < e.seq

structure PendingEvent where
  event : ShmEvent
  firstSeenMono : ℚ
  deriving DecidableEq

/-- An entry of `_stream_counters`. -/
structure Counters where
  chunkReadySeen : Nat
  eventsRead : Nat
  rowsWritten : Nat
  seqGap : Nat
  startupSeqGap : Nat
  attachFailures : Nat
  drainFailures : Nat
  payloadSizeFailures : Nat
  writeFailures : Nat
  bufferDiscarded : Nat
  metaMissingDropped : Nat
  metadataSchemaMismatch : Nat
  invalidSeqRange : Nat
  firstSeq : Option Nat
  lastSeq : Option Nat
  lastError : String
  deriving DecidableEq

def Counters.zero : Counters := ⟨0,0,0,0,0,0,0,0,0,0,0,0,0,none,none,""⟩

def Counters.noteSeq (c : Counters) (seq : Nat) : Counters :=
  { c with
    firstSeq := some (c.firstSeq.elim seq fun first => min first seq)
    lastSeq := some (c.lastSeq.elim seq fun last => max last seq) }

/-- The share that a stream has in the writer's counters of context matches. -/
structure ContextTally where
  resolvedExact : Nat
  lateResolved : Nat
  writtenMinus1Missing : Nat
  evictedPendingOverflow : Nat
  evictedMapOverflow : Nat
  deriving DecidableEq

def ContextTally.zero : ContextTally := ⟨0,0,0,0,0⟩

/-- What happened on a stream, for the statements about its runs. Attachments to rings are
numbered. -/
inductive Noted where
  | announced (ring : Nat) (range : ChunkSequenceRange) (contextId : Option Int) (now : ℚ)
  | refused (range : ChunkSequenceRange)
  | read (ring : Nat) (event : ShmEvent) (now : ℚ)
  | overflow (ring : Nat) (seq : Nat)
  /-- A ring was attached, to be read from the number after `lastSeq`. -/
  | attached (ring : Nat) (lastSeq : Option Nat)
  | reset (lastSeq : Option Nat) (carried : List Row)

structure Stream where
  reader : Option Reader
  lastSeq : Option Nat
  schema : Option Schema
  droppedTotal : Nat
  sessions : Option Nat
  activeSession : Option Nat
  contextBySeq : OrderedDict Nat (Int × ℚ)
  pendingBySeq : OrderedDict Nat PendingEvent
  lastWrittenSeq : Nat
  counters : Counters
  /-- `rows_written_total` for each context -/
  contextRows : OrderedDict Int Nat
  tally : ContextTally
  ring : Nat
  log : List Noted

def Stream.initial : Stream where
  reader := none
  lastSeq := none
  schema := none
  droppedTotal := 0
  sessions := none
  activeSession := none
  contextBySeq := .empty
  pendingBySeq := .empty
  lastWrittenSeq := 0
  counters := .zero
  contextRows := .empty
  tally := .zero
  ring := 0
  log := []

/-- A stream and its entry in `_stream_buffers`. -/
structure Lane where
  stream : Stream
  buf : Option Buf

def Lane.buffer (l : Lane) : Buf := l.buf.getD .empty

def Lane.note (l : Lane) (n : Noted) : Lane := { l with stream.log := n :: l.stream.log }

def Lane.count (l : Lane) (f : Counters → Counters) : Lane :=
  { l with stream.counters := f l.stream.counters }

def Lane.appendResolved (l : Lane) (event : ShmEvent) (contextId : Int) : Lane :=
  { l with buf := some (l.buffer.append event contextId) }

def Lane.storeContextForSeq (l : Lane) (now : ℚ) (contextId : Int) (seq : Nat) : Lane :=
  { l with stream.contextBySeq := l.stream.contextBySeq.set seq (contextId,now) }

def Lane.resolvePendingStreamEvent (l : Lane) (contextId : Int) (seq : Nat) : Lane :=
  match l.stream.pendingBySeq.get? seq with
  | none => l
  | some p =>
    let l := { l with stream.pendingBySeq := l.stream.pendingBySeq.erase seq }
    let l := l.appendResolved p.event contextId
    { l with
      stream.tally.lateResolved := l.stream.tally.lateResolved+1
      stream.contextBySeq := l.stream.contextBySeq.erase seq }

/-- The loop of `_handle_chunk_ready` over the numbers that a message announces. -/
def Lane.announce (l : Lane) (now : ℚ) (contextId : Int) (seqs : List Nat) : Lane :=
  seqs.foldl (fun l seq =>
    (l.storeContextForSeq now contextId seq).resolvePendingStreamEvent contextId seq) l

/-- One round of `_flush_pending_as_unknown`. -/
def Lane.giveUp (countOverflow : Bool) (l : Lane) (seq : Nat) : Lane :=
  match l.stream.pendingBySeq.get? seq with
  | none => l
  | some p =>
    let l := { l with stream.pendingBySeq := l.stream.pendingBySeq.erase seq }
    let l := l.appendResolved p.event (-1)
    let l := { l with
      stream.tally.writtenMinus1Missing := l.stream.tally.writtenMinus1Missing+1 }
    if countOverflow then
      ({ l with
        stream.tally.evictedPendingOverflow := l.stream.tally.evictedPendingOverflow+1 }).note
          (.overflow l.stream.ring seq)
    else l

def Lane.flushPendingAsUnknown (l : Lane) (countOverflow : Bool) (seqs : List Nat) : Lane :=
  seqs.foldl (Lane.giveUp countOverflow) l

def sortedKeys {α : Type} (d : OrderedDict Nat α) : List Nat :=
  d.keys.insertionSort (· ≤ ·)

def Lane.enforcePendingContextCap (conf : Conf) (l : Lane) : Lane :=
  let pending := l.stream.pendingBySeq
  if pending.size ≤ conf.pendingMax then l
  else
    l.flushPendingAsUnknown true ((sortedKeys pending).take (pending.size-conf.pendingMax))

def Lane.expirePendingContext (conf : Conf) (now : ℚ) (l : Lane) : Lane :=
  let expired := (l.stream.pendingBySeq.entries.filter fun e =>
    conf.resolveTtlS ≤ now-e.2.firstSeenMono).map Prod.fst
  l.flushPendingAsUnknown false (expired.insertionSort (· ≤ ·))

def Lane.capContextMap (conf : Conf) (l : Lane) : Lane :=
  let map := l.stream.contextBySeq
  if map.size ≤ conf.mapMax then l
  else
    ((sortedKeys map).take (map.size-conf.mapMax)).foldl (fun l seq =>
      ({ l with
        stream.contextBySeq := l.stream.contextBySeq.erase seq
        stream.tally.evictedMapOverflow := l.stream.tally.evictedMapOverflow+1 } : Lane).note
          (.overflow l.stream.ring seq)) l

def Lane.trimContextMap (conf : Conf) (now : ℚ) (l : Lane) : Lane :=
  let floor := l.stream.lastWrittenSeq-contextMapWrittenMargin
  let unwritten := if floor > 0 then
      l.stream.contextBySeq.filterEntries fun seq _ => floor < seq
    else l.stream.contextBySeq
  let fresh := unwritten.filterEntries fun _ e => now-e.2 < contextMapTtlS
  ({ l with stream.contextBySeq := fresh } : Lane).capContextMap conf

/-- One round of `_sweep_context_buffers`. -/
def Lane.sweep (conf : Conf) (now : ℚ) (l : Lane) : Lane :=
  ((l.enforcePendingContextCap conf).expirePendingContext conf now).trimContextMap conf now

end ExperimentControl.Hdf

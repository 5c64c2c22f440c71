import ExperimentControl.Hdf.Streams

/-!
`_handle_chunk_ready`: from the message to the frames that it makes the writer read.
-/

namespace ExperimentControl.Hdf
open Lib Shm Python

def Lane.discardBuffered (l : Lane) (reason : String) : Lane :=
  let discarded := l.buffer.data.length
  if discarded = 0 then l
  else
    l.count fun c =>
      { c with bufferDiscarded := c.bufferDiscarded+discarded, lastError := reason }

def Lane.resetRuntimeState (l : Lane) : Lane :=
  let l := l.discardBuffered "buffer discarded on stream drain reset"
  { l with
    stream.reader := none
    stream.lastSeq := none
    stream.schema := none
    stream.pendingBySeq := .empty
    stream.contextBySeq := .empty
    stream.lastWrittenSeq := 0
    buf := none }

/-- `_handle_chunk_ready_disabled_device` -/
def Lane.disabledDevice (l : Lane) (seq : Option Nat) : Lane :=
  let lastSeq := match seq,l.stream.lastSeq with
    | some seq,some last => some (max last seq)
    | some seq,none => some seq
    | none,last => last
  { l with
    stream.lastSeq := lastSeq
    stream.pendingBySeq := .empty
    stream.contextBySeq := .empty
    buf := none }

/-- `_next_stream_session`; `existing` are the sessions that the open file has for the stream. -/
def nextStreamSession (existing : List Nat) (sessions : Option Nat) : Nat :=
  max (existing.foldl max 0+1) (sessions.getD 0+1)

/-- The comparison of the configured metadata dtype with that of the ring: `none` where one of the
two is not valid. -/
def sameMetadata (schema : Schema) (layout : Schema) : Option Bool :=
  if schema.metadataDtype.all validMetadata && layout.metadataDtype.all validMetadata then
    some (schema.metadataDtype = layout.metadataDtype)
  else none

def Lane.attached (l : Lane) (reader : Reader) (session : Nat) (initialSeq : Option Nat) : Lane :=
  let l := { l with
    stream.reader := some reader
    stream.sessions := some session
    stream.activeSession := some session }
  let l := match initialSeq with
    | some first =>
      let l := { l with stream.lastSeq := some (first-1) }
      if 1 < first then
        l.count fun c =>
          { c with startupSeqGap := c.startupSeqGap+(first-1), seqGap := c.seqGap+(first-1) }
      else l
    | none => { l with stream.lastSeq := none }
  let l := { l with stream.droppedTotal := 0 }
  let l := l.discardBuffered "buffer discarded on ring re-attach"
  let l := { l with
    stream.pendingBySeq := .empty
    stream.contextBySeq := .empty
    stream.lastWrittenSeq := 0
    stream.ring := l.stream.ring+1
    buf := none }
  l.note (.attached l.stream.ring l.stream.lastSeq)

def Lane.ensureReader (l : Lane) (c : ChunkReadyMessage) (attach : Option RingInfo)
    (existing : List Nat) : Option Reader × Lane :=
  match l.stream.reader.filter fun r => r.name = c.shmName with
  | some r => (some r,l)
  | none =>
    match attach with
    | none =>
      (none,l.count fun k =>
        { k with attachFailures := k.attachFailures+1, lastError := "stream attach failed" })
    | some info =>
      match l.stream.schema.elim (some true) fun schema => sameMetadata schema info.layout with
      | none => (none,l)
      | some false =>
        (none,l.count fun k =>
          { k with
            metadataSchemaMismatch := k.metadataSchemaMismatch+1
            lastError := "configured metadata dtype differs from ring layout" })
      | some true =>
        let reader : Reader := ⟨c.shmName,info⟩
        (some reader,l.attached reader (nextStreamSession existing l.stream.sessions)
          (c.range.map (·.firstSeq)))

/-- The body of the loop of `_append_chunk_ready_events`; `last` and `dropped` are its locals. -/
def Lane.appendEvent (now : ℚ) (s : Lane × Option Nat × Nat) (event : ShmEvent) :
    Lane × Option Nat × Nat :=
  let (l,last,dropped) := s
  let gap := last.elim 0 fun last => event.seq-last-1
  let l := l.count fun c => { c with seqGap := c.seqGap+gap }
  let l := (l.count fun c => c.noteSeq event.seq).note (.read l.stream.ring event now)
  let l := match l.stream.contextBySeq.get? event.seq with
    | some (contextId,_) =>
      let l := { l with stream.contextBySeq := l.stream.contextBySeq.erase event.seq }
      let l := l.appendResolved event contextId
      { l with stream.tally.resolvedExact := l.stream.tally.resolvedExact+1 }
    | none =>
      { l with stream.pendingBySeq := l.stream.pendingBySeq.set event.seq ⟨event,now⟩ }
  (l,some event.seq,dropped+gap)

/-- `_append_chunk_ready_events`, for at least one frame. -/
def Lane.appendEvents (conf : Conf) (now : ℚ) (layout : Schema) (l : Lane)
    (events : List ShmEvent) : Lane :=
  let l := l.count fun c => { c with eventsRead := c.eventsRead+events.length }
  let (l,last,dropped) :=
    events.foldl (Lane.appendEvent now) (l,l.stream.lastSeq,l.stream.droppedTotal)
  let l := { l with
    stream.lastSeq := last
    stream.droppedTotal := dropped
    stream.schema := some (l.stream.schema.getD layout) }
  l.sweep conf now

def Lane.announceContext (l : Lane) (now : ℚ) (c : ChunkReadyMessage) : Lane :=
  match c.range with
  | none => l
  | some range =>
    let l := l.note (.announced l.stream.ring range c.contextId now)
    match c.contextId with
    | none => l
    | some contextId => l.announce now contextId range.seqs

def Lane.takeEvents (conf : Conf) (now : ℚ) (layout : Schema) (l : Lane)
    (drained : Option RingContents) : Lane :=
  match drained with
  | none =>
    let l := l.count fun k =>
      { k with drainFailures := k.drainFailures+1, lastError := "stream drain failed" }
    l.resetRuntimeState
  | some contents =>
    let events := contents.after l.stream.lastSeq
    if events = [] then (l.expirePendingContext conf now).trimContextMap conf now
    else l.appendEvents conf now layout events

def rangeFits (info : RingInfo) (range : Option ChunkSequenceRange) : Bool :=
  range.all fun r => r.batchCount ≤ max 1 info.slotCount

def Lane.refuse (l : Lane) (range : Option ChunkSequenceRange) : Lane :=
  match range with
  | some r => l.note (.refused r)
  | none => l

/-- `_handle_chunk_ready` for an enabled device, after the reader is there. -/
def Lane.withReader (conf : Conf) (now : ℚ) (l : Lane) (c : ChunkReadyMessage) (reader : Reader)
    (drained : Option RingContents) : Lane :=
  if rangeFits reader.info c.range then
    (l.announceContext now c).takeEvents conf now reader.info.layout drained
  else
    (l.count fun k =>
      { k with
        invalidSeqRange := k.invalidSeqRange+1
        lastError := "chunk range exceeds ring capacity" }).refuse c.range

/-- What a message meets: attaching to its ring, if need be, and reading it. -/
structure RingCalls where
  attach : Option RingInfo
  drained : Option RingContents

def Lane.seen (l : Lane) (c : ChunkReadyMessage) : Lane :=
  l.count fun k =>
    let k := { k with chunkReadySeen := k.chunkReadySeen+1 }
    c.range.elim k fun r => k.noteSeq r.finalSeq

def Lane.handleChunkReady (conf : Conf) (now : ℚ) (enabled : Bool) (existing : List Nat)
    (calls : RingCalls) (c : ChunkReadyMessage) (l : Lane) : Lane :=
  let l := l.seen c
  if enabled then
    match l.ensureReader c calls.attach existing with
    | (none,l) => l.refuse c.range
    | (some reader,l) => l.withReader conf now c reader calls.drained
  else (l.refuse c.range).disabledDevice (c.range.map (·.finalSeq))

end ExperimentControl.Hdf

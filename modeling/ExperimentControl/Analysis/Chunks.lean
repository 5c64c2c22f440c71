import ExperimentControl.Analysis.Reuse

/-!
`_handle_chunk_ready`: from a message about a ring to the frames that are read from it, each with the
context that it is evaluated in, and where the next message reads on.
-/

namespace ExperimentControl.Analysis
open Lib Service

inductive IntField where
  | missing
  | other
  | int (value : Int)
  deriving DecidableEq

/-- `_as_exact_int_or_none`. -/
def IntField.value? : IntField → Option Int
  | .int value => some value
  | _ => none

structure ChunkSequenceRange where
  firstSeq : Int
  finalSeq : Int
  positive : 1 ≤ firstSeq
  ordered : firstSeq ≤ finalSeq

def ChunkSequenceRange.batchCount (r : ChunkSequenceRange) : Int := r.finalSeq-r.firstSeq+1

/-- `range(first_seq, final_seq + 1)`. -/
def ChunkSequenceRange.seqs (r : ChunkSequenceRange) : List Int :=
  (List.range r.batchCount.toNat).map fun (i : Nat) => r.firstSeq+i

theorem ChunkSequenceRange.mem_seqs (r : ChunkSequenceRange) (seq : Int) :
    seq ∈ r.seqs ↔ r.firstSeq ≤ seq ∧ seq ≤ r.finalSeq := by
  simp only [seqs,batchCount,List.mem_map,List.mem_range]
  constructor
  · intro h
    obtain ⟨i,hi,rfl⟩ := h
    omega
  · intro h
    exact ⟨(seq-r.firstSeq).toNat,by omega,by omega⟩

section
variable (K : Kernels)

/-- A `manager.chunk_ready` message; texts are as `_normalize_id` makes them. -/
structure ChunkMessage where
  deviceId : Option String
  stream : Option String
  shmName : Option String
  seq : IntField
  firstSeq : IntField
  batchCount : IntField
  context : Context K

end

section
variable {K : Kernels}

def ChunkSequenceRange.fits (r : ChunkSequenceRange) (maxBatchCount : Option Nat) :
    Except String (Option ChunkSequenceRange) :=
  if maxBatchCount.any fun limit => ((max 1 limit : Nat) : Int) < r.batchCount then
    .error "chunk batch_count exceeds the shared-memory ring capacity"
  else .ok (some r)

def parseChunkSequenceRange (msg : ChunkMessage K) (maxBatchCount : Option Nat) :
    Except String (Option ChunkSequenceRange) :=
  let batchCount := msg.batchCount.value?
  if msg.seq = .other then .error "chunk seq must be an integer"
  else if msg.firstSeq = .other then .error "chunk first_seq must be an integer"
  else if msg.batchCount = .other then .error "chunk batch_count must be an integer"
  else match msg.seq.value? with
    | none =>
      if msg.firstSeq.value?.isSome || !batchCount.all (· = 1) then
        .error "first_seq/batch_count require seq"
      else .ok none
    | some seq =>
      if hseq : seq < 1 then .error "chunk seq must be positive"
      else match msg.firstSeq.value? with
        | none =>
          if !batchCount.all (· = 1) then
            .error "legacy single-frame chunks must have batch_count=1"
          else
            let range : ChunkSequenceRange := ⟨seq,seq,Int.not_lt.1 hseq,Int.le_refl seq⟩
            range.fits maxBatchCount
        | some first =>
          if hfirst : 1 ≤ first ∧ first ≤ seq then
            if batchCount ≠ some (seq-first+1) then
              .error "chunk batch_count must equal seq - first_seq + 1"
            else
              let range : ChunkSequenceRange := ⟨first,seq,hfirst.1,hfirst.2⟩
              range.fits maxBatchCount
          else .error "chunk first_seq must be positive and <= seq"

theorem parseChunkSequenceRange_fits {msg : ChunkMessage K} {limit : Option Nat}
    {range : Option ChunkSequenceRange} (h : parseChunkSequenceRange msg limit = .ok range) :
    parseChunkSequenceRange msg none = .ok range := by
  have hfits : ∀ r : ChunkSequenceRange, r.fits limit = .ok range → r.fits none = .ok range := by
    intro r hr
    unfold ChunkSequenceRange.fits at hr
    split at hr
    · cases hr
    · exact hr
  unfold parseChunkSequenceRange at h ⊢
  dsimp only at h ⊢
  repeat' split at h
  all_goals simp_all

end

section
variable (K : Kernels)

/-- A frame of a ring; one whose payload does not decode has no array. -/
structure RingEvent where
  seq : Int
  array : Option K.Array
  telemetry : K.Telemetry

structure RingContents where
  events : List (RingEvent K)
  sorted : events.Pairwise fun a b => a.seq < b.seq

structure Delivery where
  attach : Option Nat
  ring : Option (RingContents K)
  order : List String → List String
  order_perm : ∀ ids, (order ids).Perm ids
  env : RingEvent K → Surroundings

structure Execution where
  workspaceId : String
  stream : String × String
  shmName : String
  seq : Int
  context : Context K

structure Handling where
  service : Service K
  executions : List (Execution K)
  raised : Option String

end

variable {K : Kernels}

def RingContents.readEvents (r : RingContents K) (lastSeenSeq : Int) : List (RingEvent K) :=
  r.events.filter fun e => lastSeenSeq < e.seq

def Context.isAbsent (c : Context K) : Bool := c.contextId.isNone && c.contextFields.isNone

def Context.absent : Context K := ⟨none,none⟩

def Service.setStream (s : Service K) (key : String × String) (st : Stream K) : Service K :=
  { s with streams := s.streams.set key st }

def Service.resetChunkReaderState (s : Service K) (key : String × String) : Service K :=
  { s with streams := s.streams.erase key }

def Stream.attached (shmName : String) (slotCount : Nat) (initialSeq : Option Int) : Stream K where
  shmName := shmName
  slotCount := slotCount
  lastSeq := max 0 (initialSeq.getD 1-1)
  context := none
  contextBySeq := .empty

def Service.ensureReader (s : Service K) (key : String × String) (shmName : String)
    (initialSeq : Option Int) (attach : Option Nat) : Service K × Option (Stream K) :=
  match (s.streams.get? key).filter fun st => st.shmName = shmName with
  | some st => (s,some st)
  | none =>
    match attach with
    | none => (s.resetChunkReaderState key,none)
    | some slotCount =>
      let st := Stream.attached shmName slotCount initialSeq
      (s.setStream key st,some st)

def Stream.rememberContextForSeq (limit : Nat) (context : Context K) (st : Stream K) (seq : Int) :
    Stream K :=
  let bucket := (st.contextBySeq.erase seq).set seq context
  { st with contextBySeq := OrderedDict.popOldest^[bucket.size-limit] bucket }

/-- `_pop_context_for_seq`: nothing where there is no entry. -/
def Stream.popContextForSeq (st : Stream K) (seq : Int) : Context K × Stream K :=
  match st.contextBySeq.get? seq with
  | none => (.absent,st)
  | some context => (context,{ st with contextBySeq := st.contextBySeq.erase seq })

def Stream.pruneContextCache (st : Stream K) (lastSeq : Int) : Stream K :=
  { st with contextBySeq := st.contextBySeq.filterKeys fun seq => !decide (seq ≤ lastSeq) }

/-- The context of a frame, and the one that is carried on (`_resolve_chunk_event_context`). -/
def resolveChunkEventContext (popped : Context K) (seq : Int) (msgSeq : Option Int)
    (msgContext current : Context K) : Context K × Context K :=
  let context := if popped.isAbsent && msgSeq = some seq then msgContext else popped
  if context.isAbsent then (current,current) else (context,context)

/-- The contexts that a message announces (`_extract_chunk_message_context`). -/
def Stream.rememberRange (limit : Nat) (context : Context K) (range : Option ChunkSequenceRange)
    (st : Stream K) : Stream K :=
  match range with
  | none => st
  | some range => range.seqs.foldl (Stream.rememberContextForSeq limit context) st

def Stream.store (st : Stream K) (latestSeq : Int) (current : Context K) : Stream K :=
  let st := { st with lastSeq := latestSeq }.pruneContextCache latestSeq
  { st with context := if current.isAbsent then none else some current }

structure Prepared (K : Kernels) where
  key : String × String
  shmName : String
  workspaceIds : List String
  range : Option ChunkSequenceRange
  context : Context K
  lastSeq : Int

def Prepared.msgSeq (p : Prepared K) : Option Int := p.range.map (·.finalSeq)

/-- The locals of `_process_chunk_events`. -/
structure Progress (K : Kernels) where
  service : Service K
  latestSeq : Int
  current : Context K
  executions : List (Execution K)
  raised : Option String

def Service.withStream {α : Type} (s : Service K) (key : String × String) (default : α)
    (f : Stream K → α × Stream K) : α × Service K :=
  match s.streams.get? key with
  | none => (default,s)
  | some st => ((f st).1,s.setStream key (f st).2)

def Progress.resolve (m : Prepared K) (p : Progress K) (event : RingEvent K) :
    (Context K × Context K) × Service K :=
  let (popped,s) := p.service.withStream m.key .absent fun st => st.popContextForSeq event.seq
  (resolveChunkEventContext popped event.seq m.msgSeq m.context p.current,s)

def Prepared.shot (m : Prepared K) (event : RingEvent K) (context : Context K) (array : K.Array)
    (isLast : Bool) : Shot K :=
  ⟨m.key,some event.seq,context,array,event.telemetry,isLast⟩

/-- The body of the loop of `_process_chunk_events`. -/
def Progress.processEvent (m : Prepared K) (env : RingEvent K → Surroundings) (p : Progress K)
    (event : RingEvent K) (isLast : Bool) : Progress K :=
  let latestSeq := max p.latestSeq event.seq
  let ((context,current),s) := p.resolve m event
  match event.array with
  | none => { p with service := s,latestSeq,current }
  | some array =>
    let handled := s.processWorkspaces (m.shot event context array isLast) (env event) m.workspaceIds
    { service := handled.service
      latestSeq := latestSeq
      current := current
      executions := p.executions ++ handled.executed.map fun id =>
        ⟨id,m.key,m.shmName,event.seq,context⟩
      raised := handled.raised }

/-- `_process_chunk_events`; an exception that escapes ends the loop. -/
def Progress.processEvents (m : Prepared K) (env : RingEvent K → Surroundings) :
    Progress K → List (RingEvent K) → Progress K
  | p,[] => p
  | p,event :: rest =>
    let p := p.processEvent m env event rest.isEmpty
    if p.raised.isSome then p else p.processEvents m env rest

/-- `_normalize_chunk_payload`. -/
def ChunkMessage.parts (msg : ChunkMessage K) : Option ((String × String) × String) :=
  match msg.deviceId,msg.stream,msg.shmName with
  | some deviceId,some stream,some shmName => some ((deviceId,stream),shmName)
  | _,_,_ => none

def Service.prepareChunkReady (s : Service K) (msg : ChunkMessage K) (d : Delivery K) :
    Service K × Option (Prepared K) :=
  match msg.parts with
  | none => (s,none)
  | some (key,shmName) =>
    let workspaceIds := (s.streamToWorkspaces.get? key).getD []
    if workspaceIds.isEmpty then (s,none)
    else match parseChunkSequenceRange msg none with
      | .error _ => (s,none)
      | .ok range =>
        match s.ensureReader key shmName (range.map (·.firstSeq)) d.attach with
        | (s,none) => (s,none)
        | (s,some st) =>
          match parseChunkSequenceRange msg (some st.slotCount) with
          | .error _ => (s.resetChunkReaderState key,none)
          | .ok _ => (s,some ⟨key,shmName,d.order workspaceIds,range,msg.context,st.lastSeq⟩)

def filterChunkEventsForMessage (events : List (RingEvent K)) (msgSeq : Option Int) :
    List (RingEvent K) :=
  match msgSeq with
  | none => events
  | some final => events.filter fun e => e.seq ≤ final

/-- `_load_chunk_events`; there are none where the read fails. -/
def Service.loadChunkEvents (s : Service K) (m : Prepared K) (ring : Option (RingContents K)) :
    Service K × List (RingEvent K) :=
  match ring with
  | none => (s.resetChunkReaderState m.key,[])
  | some ring =>
    let all := ring.readEvents m.lastSeq
    let events := filterChunkEventsForMessage all m.msgSeq
    if !all.isEmpty && events.isEmpty then
      ((s.withStream m.key () fun st => ((),st.pruneContextCache m.lastSeq)).2,events)
    else (s,events)

/-- Before the first frame: the context that the stream carries. -/
def Service.progress (s : Service K) (m : Prepared K) : Progress K where
  service := s
  latestSeq := m.lastSeq
  current := ((s.streams.get? m.key).bind (·.context)).getD .absent
  executions := []
  raised := none

/-- `_handle_chunk_ready`, from the frames that were read. -/
def Service.handleEvents (s : Service K) (m : Prepared K) (env : RingEvent K → Surroundings)
    (events : List (RingEvent K)) : Handling K :=
  if events.isEmpty then ⟨s,[],none⟩
  else
    let p := (s.progress m).processEvents m env events
    match p.raised with
    | some id => ⟨p.service,p.executions,some id⟩
    | none =>
      let s := (p.service.withStream m.key () fun st => ((),st.store p.latestSeq p.current)).2
      ⟨s,p.executions,none⟩

/-- The frames that a message gives to the workspaces, as far as it is not refused, with the service
by then. -/
def Service.frames (s : Service K) (msg : ChunkMessage K) (d : Delivery K) :
    Service K × Option (Prepared K × List (RingEvent K)) :=
  match s.prepareChunkReady msg d with
  | (s,none) => (s,none)
  | (s,some m) =>
    let s := (s.withStream m.key () fun st =>
      ((),st.rememberRange s.settings.contextCacheLimit m.context m.range)).2
    let (s,events) := s.loadChunkEvents m d.ring
    (s,some (m,events))

def Service.handleChunkReady (s : Service K) (msg : ChunkMessage K) (d : Delivery K) : Handling K :=
  match s.frames msg d with
  | (s,none) => ⟨s,[],none⟩
  | (s,some (m,events)) => s.handleEvents m d.env events

variable {s t : Service K}

theorem Service.ensureReader_some {key : String × String} {shmName : String}
    {initialSeq : Option Int} {attach : Option Nat} {st : Stream K}
    (h : s.ensureReader key shmName initialSeq attach = (t,some st)) :
    st.shmName = shmName ∧ t.streams.get? key = some st ∧
      (t = s ∨ ∃ slotCount, attach = some slotCount ∧ st = Stream.attached shmName slotCount initialSeq ∧
        t = s.setStream key st ∧ ∀ old, s.streams.get? key = some old → old.shmName ≠ shmName) := by
  unfold Service.ensureReader at h
  split at h
  · rename_i st' hfound
    cases h
    obtain ⟨hget,hname⟩ := Option.filter_eq_some_iff.1 hfound
    exact ⟨by simpa using hname,hget,.inl rfl⟩
  · rename_i hnone
    split at h
    · cases h
    · rename_i slotCount
      cases h
      refine ⟨rfl,by simp [Service.setStream],.inr ⟨slotCount,rfl,rfl,rfl,?_⟩⟩
      intro old hold hname
      simp [hold,hname] at hnone

variable {d : Delivery K} {m : Prepared K} {msg : ChunkMessage K}

theorem Service.prepareChunkReady_some (h : s.prepareChunkReady msg d = (t,some m)) :
    msg.parts = some (m.key,m.shmName) ∧
      m.workspaceIds = d.order ((s.streamToWorkspaces.get? m.key).getD []) ∧
      parseChunkSequenceRange msg none = .ok m.range ∧ m.context = msg.context ∧
      ∃ st, s.ensureReader m.key m.shmName (m.range.map (·.firstSeq)) d.attach = (t,some st) ∧
        m.lastSeq = st.lastSeq ∧ parseChunkSequenceRange msg (some st.slotCount) = .ok m.range := by
  unfold Service.prepareChunkReady at h
  split at h
  · cases h
  · rename_i key shmName hparts
    simp only at h
    split at h
    · cases h
    · split at h
      · cases h
      · rename_i range hrange
        split at h
        · cases h
        · rename_i u st hreader
          split at h
          · cases h
          · rename_i fitted hfitted
            cases h
            have hsame : fitted = range := by
              have hagain := parseChunkSequenceRange_fits hfitted
              rw [hrange] at hagain
              exact (Except.ok.inj hagain).symm
            exact ⟨hparts,rfl,hrange,rfl,st,hreader,rfl,hsame ▸ hfitted⟩

theorem Service.prepareChunkReady_subscribers (h : s.prepareChunkReady msg d = (t,some m)) :
    m.workspaceIds ≠ [] := by
  have hids := (prepareChunkReady_some h).2.1
  unfold Service.prepareChunkReady at h
  split at h
  · cases h
  · simp only at h
    split at h
    · cases h
    · rename_i key shmName hparts hsome
      split at h
      · cases h
      · split at h
        · cases h
        · split at h
          · cases h
          · cases h
            intro hnil
            have hperm := d.order_perm ((s.streamToWorkspaces.get? key).getD [])
            simp only at hnil
            rw [hnil] at hperm
            exact hsome (by simp [hperm.nil_eq.symm])

variable {events : List (RingEvent K)} {s u : Service K}

theorem Service.frames_some (h : s.frames msg d = (u,some (m,events))) :
    ∃ t, s.prepareChunkReady msg d = (t,some m) ∧ (t.withStream m.key () fun st =>
        ((),st.rememberRange t.settings.contextCacheLimit m.context m.range)).2.loadChunkEvents m
          d.ring = (u,events) := by
  unfold Service.frames at h
  split at h
  · cases h
  · rename_i t m' hprepare
    cases h
    exact ⟨t,hprepare,rfl⟩

theorem Service.frames_none
    (h : s.frames msg d = (u,none)) : s.prepareChunkReady msg d = (u,none) := by
  unfold Service.frames at h
  split at h
  · rename_i t hprepare
    cases h
    exact hprepare
  · cases h

theorem Service.withStream_of_get? {α : Type} {s : Service K} {key : String × String}
    {st : Stream K} (h : s.streams.get? key = some st) (a : α) (f : Stream K → α × Stream K) :
    s.withStream key a f = ((f st).1,s.setStream key (f st).2) := by
  simp [Service.withStream,h]

theorem Service.streams_setStream (s : Service K) (key : String × String) (st : Stream K) :
    (s.setStream key st).streams.get? key = some st := by
  simp [Service.setStream]

theorem Service.loadChunkEvents_mem (s : Service K) (m : Prepared K)
    (ring : Option (RingContents K)) (e : RingEvent K) : e ∈ (s.loadChunkEvents m ring).2 ↔
      ∃ contents, ring = some contents ∧ e ∈ contents.events ∧ m.lastSeq < e.seq ∧
        ∀ final ∈ m.msgSeq, e.seq ≤ final := by
  unfold Service.loadChunkEvents
  cases ring with
  | none => simp
  | some contents =>
    have hmem : e ∈ filterChunkEventsForMessage (contents.readEvents m.lastSeq) m.msgSeq ↔
        e ∈ contents.events ∧ m.lastSeq < e.seq ∧ ∀ final ∈ m.msgSeq, e.seq ≤ final := by
      cases hfinal : m.msgSeq with
      | none => simp [filterChunkEventsForMessage,RingContents.readEvents]
      | some final =>
        simp only [filterChunkEventsForMessage,RingContents.readEvents,List.mem_filter,
          decide_eq_true_eq,Option.mem_def,Option.some.injEq,forall_eq']
        tauto
    simp only [Option.some.injEq,exists_eq_left']
    split
    · exact hmem
    · exact hmem

theorem Service.loadChunkEvents_some {ring : Option (RingContents K)}
    (h : s.loadChunkEvents m ring = (u,events)) (hevents : events ≠ []) : u = s := by
  unfold Service.loadChunkEvents at h
  split at h
  · cases h
    exact absurd rfl hevents
  · simp only at h
    split at h
    · rename_i hempty
      cases h
      simp only [Bool.and_eq_true,List.isEmpty_iff] at hempty
      exact absurd hempty.2 hevents
    · cases h
      rfl

theorem Service.loadChunkEvents_sorted (s : Service K) (m : Prepared K)
    (ring : Option (RingContents K)) :
    (s.loadChunkEvents m ring).2.Pairwise fun a b => a.seq < b.seq := by
  unfold Service.loadChunkEvents
  split
  · exact List.Pairwise.nil
  · rename_i contents
    have hread : (contents.readEvents m.lastSeq).Pairwise fun a b => a.seq < b.seq :=
      contents.sorted.filter _
    have hfilter : (filterChunkEventsForMessage (contents.readEvents m.lastSeq) m.msgSeq).Pairwise
        fun a b => a.seq < b.seq := by
      unfold filterChunkEventsForMessage
      split
      · exact hread
      · exact hread.filter _
    simp only
    split
    · exact hfilter
    · exact hfilter

structure Stream.SameCursor (st st' : Stream K) : Prop where
  shmName : st'.shmName = st.shmName
  slotCount : st'.slotCount = st.slotCount
  lastSeq : st'.lastSeq = st.lastSeq
  context : st'.context = st.context

theorem Stream.SameCursor.refl (st : Stream K) : st.SameCursor st := ⟨rfl,rfl,rfl,rfl⟩

theorem Stream.SameCursor.trans {st t u : Stream K} (h : st.SameCursor t) (h' : t.SameCursor u) :
    st.SameCursor u :=
  ⟨h'.shmName.trans h.shmName,h'.slotCount.trans h.slotCount,h'.lastSeq.trans h.lastSeq,
    h'.context.trans h.context⟩

theorem Stream.rememberRange_sameCursor (limit : Nat) (context : Context K)
    (range : Option ChunkSequenceRange) (st : Stream K) :
    st.SameCursor (st.rememberRange limit context range) := by
  unfold Stream.rememberRange
  cases range with
  | none => exact .refl st
  | some range =>
    simp only
    induction range.seqs generalizing st with
    | nil => exact .refl st
    | cons seq rest ih =>
      have hrest := ih (st.rememberContextForSeq limit context seq)
      exact ⟨hrest.shmName,hrest.slotCount,hrest.lastSeq,hrest.context⟩

theorem Stream.popContextForSeq_sameCursor (st : Stream K) (seq : Int) :
    st.SameCursor (st.popContextForSeq seq).2 := by
  unfold Stream.popContextForSeq
  split
  · exact .refl st
  · exact ⟨rfl,rfl,rfl,rfl⟩

theorem Service.frames_stream (h : s.frames msg d = (u,some (m,events))) :
    ∃ t st, s.ensureReader m.key m.shmName (m.range.map (·.firstSeq)) d.attach = (t,some st) ∧
      m.lastSeq = st.lastSeq ∧ (∀ st', u.streams.get? m.key = some st' → st.SameCursor st') ∧
      (events ≠ [] → ∃ st', u.streams.get? m.key = some st') := by
  obtain ⟨t,hprepare,hload⟩ := frames_some h
  obtain ⟨_,_,_,_,st,hreader,hlast,_⟩ := prepareChunkReady_some hprepare
  obtain ⟨hname,hget,_⟩ := ensureReader_some hreader
  have hsame := st.rememberRange_sameCursor t.settings.contextCacheLimit m.context m.range
  rw [withStream_of_get? hget] at hload
  refine ⟨t,st,hreader,hlast,?_,?_⟩
  · intro st' hst'
    unfold Service.loadChunkEvents at hload
    split at hload
    · cases hload
      simp [Service.resetChunkReaderState,OrderedDict.get?_erase_eq] at hst'
    · simp only at hload
      split at hload
      · cases hload
        rw [withStream_of_get? (t.streams_setStream m.key _),streams_setStream] at hst'
        cases hst'
        exact hsame.trans ⟨rfl,rfl,rfl,rfl⟩
      · cases hload
        rw [streams_setStream] at hst'
        cases hst'
        exact hsame
  · intro hevents
    rw [loadChunkEvents_some hload hevents]
    exact ⟨_,t.streams_setStream m.key _⟩

end ExperimentControl.Analysis

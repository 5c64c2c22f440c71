import ExperimentControl.Lib.OrderedDict
import ExperimentControl.Lib.Runs
import ExperimentControl.Python.Conversions

/-!
Chunk announcements in the manager (`_manager/driver_pub.py`): what a driver announces is
normalised, kept as the latest descriptor of its stream and published again.
-/

namespace ExperimentControl.Manager
open Lib Python OrderedDict

section
variable (b : Conversions)

/-- `_as_exact_int_or_none` -/
def exactInt? : Value → Option Int
  | .none | .bool _ => none
  | .float bits => if b.isInteger bits then (b.toInt (.float bits)).toOption else none
  | v => (b.toInt v).toOption

structure ChunkSequenceRange where
  firstSeq : Int
  finalSeq : Int
  positive : 1 ≤ firstSeq
  ordered : firstSeq ≤ finalSeq

def ChunkSequenceRange.batchCount (r : ChunkSequenceRange) : Int := r.finalSeq-r.firstSeq+1

theorem one_le_of_not {seq : Int} (h : ¬ seq < 1) : 1 ≤ seq := Int.not_lt.1 h

theorem one_le_of_both {first seq : Int} (h : 1 ≤ first ∧ first ≤ seq) : 1 ≤ first := h.1

theorem le_of_both {first seq : Int} (h : 1 ≤ first ∧ first ≤ seq) : first ≤ seq := h.2

/-- `parse_chunk_sequence_range` without a limit on the batch, as the manager calls it. -/
def parseChunkSequenceRange (payload : Entries) : Except String (Option ChunkSequenceRange) :=
  let seq := exactInt? b (getKey payload "seq")
  let firstSeq := exactInt? b (getKey payload "first_seq")
  let batchCount := exactInt? b (getKey payload "batch_count")
  if getKey payload "seq" ≠ .none ∧ seq = none then .error "chunk seq must be an integer"
  else if getKey payload "first_seq" ≠ .none ∧ firstSeq = none then
    .error "chunk first_seq must be an integer"
  else if getKey payload "batch_count" ≠ .none ∧ batchCount = none then
    .error "chunk batch_count must be an integer"
  else match seq with
    | none =>
      if firstSeq.isSome || !batchCount.all (· = 1) then .error "first_seq/batch_count require seq"
      else .ok none
    | some seq =>
      if hseq : seq < 1 then .error "chunk seq must be positive"
      else match firstSeq with
        | none =>
          if !batchCount.all (· = 1) then
            .error "legacy single-frame chunks must have batch_count=1"
          else .ok (some ⟨seq,seq,one_le_of_not hseq,Int.le_refl seq⟩)
        | some first =>
          if hfirst : 1 ≤ first ∧ first ≤ seq then
            if batchCount ≠ some (seq-first+1) then
              .error "chunk batch_count must equal seq - first_seq + 1"
            else .ok (some ⟨first,seq,one_le_of_both hfirst,le_of_both hfirst⟩)
          else .error "chunk first_seq must be positive and <= seq"

def coerceIntField (desc : Entries) (key : String) : Entries :=
  match item? desc key with
  | none | some .none => desc
  | some v => match b.toInt v with
    | .ok n => setItem desc key (.int n)
    | .error _ => desc

def writeRange (desc : Entries) : Option ChunkSequenceRange → Entries
  | none => desc
  | some r =>
    setItem (setItem (setItem desc "seq" (.int r.finalSeq)) "first_seq" (.int r.firstSeq))
      "batch_count" (.int r.batchCount)

def descriptorRaw (msg : Entries) : Entries :=
  match getKey msg "descriptor" with
  | .dict _ desc => desc
  | _ => msg

def normalizedChunkDescriptor (msg : Entries) : Except PyExc (Option Entries) :=
  let desc := descriptorRaw msg
  let deviceId := (((getKey desc "device_id").or (getKey msg "device_id")).or (.str "")).text b.repr
  let stream := (((getKey desc "stream").or (getKey msg "stream")).or (.str "")).text b.repr
  let shmName := getKey desc "shm_name"
  if deviceId = "" ∨ stream = "" then .ok none
  else if !shmName.truthy then .ok none
  else
    match b.toInt (getD desc "version" (.int 1)) with
    | .error e => .error e
    | .ok version =>
      let desc := setItem desc "version" (.int version)
      let desc := setItem desc "device_id" (.str deviceId)
      let desc := setItem desc "stream" (.str stream)
      let desc := setItem desc "shm_name" shmName
      let layout := ((b.toInt (getD desc "layout_version" (.int 1))).toOption).getD 1
      let desc := setItem desc "layout_version" (.int layout)
      let desc := ["seq","first_seq","batch_count","t0_mono_ns","t0_wall_ns"].foldl (coerceIntField b) desc
      match parseChunkSequenceRange b desc with
      | .error _ => .ok none
      | .ok range => .ok (some (writeRange desc range))

end

/-- `_positive_limit` of the two limits. -/
structure ChunkLimits where
  maxDevices : Nat
  maxStreams : Nat

/-- `_latest_chunk_desc` and `_chunk_device_order`, with what was published on
`manager.chunk_ready`. -/
structure ChunkRelay where
  latest : OrderedDict String (OrderedDict String Entries)
  order : List String
  published : List Entries

namespace ChunkRelay

def new : ChunkRelay := ⟨.empty,[],[]⟩

def evictOneDevice (limit : Nat) (deviceId : String) (m : ChunkRelay) : ChunkRelay :=
  if m.latest.contains deviceId || decide (m.latest.size < max 1 limit) then m
  else match m.order.head?.or m.latest.keys.head? with
    | none => m
    | some oldest =>
      { m with latest := m.latest.erase oldest, order := m.order.filter (· ≠ oldest) }

def touch (deviceId : String) (m : ChunkRelay) : ChunkRelay :=
  { m with order := m.order.filter (· ≠ deviceId) ++ [deviceId] }

/-- `_ensure_chunk_device_slot`: the streams of the device, once it has a slot. -/
def ensureChunkDeviceSlot (limits : ChunkLimits) (deviceId : String) (m : ChunkRelay) :
    OrderedDict String Entries × ChunkRelay :=
  let m := m.evictOneDevice limits.maxDevices deviceId
  let cache := (m.latest.get? deviceId).getD .empty
  (cache,{ m with latest := m.latest.set deviceId cache }.touch deviceId)

def storeStream (limit : Nat) (stream : String) (desc : Entries) (cache : OrderedDict String Entries) :
    OrderedDict String Entries :=
  let cache :=
    if cache.contains stream then cache.erase stream
    else if max 1 limit ≤ cache.size then cache.popOldest
    else cache
  cache.set stream desc

def storeChunkDescriptor (limits : ChunkLimits) (deviceId stream : String) (desc : Entries)
    (m : ChunkRelay) : ChunkRelay :=
  let (cache,m) := m.ensureChunkDeviceSlot limits deviceId
  { m with latest := m.latest.set deviceId (storeStream limits.maxStreams stream desc cache) }

/-- `manager._latest_chunk_desc.get(device_id, {}).get(stream)` -/
def cached (m : ChunkRelay) (deviceId stream : String) : Option Entries :=
  (m.latest.get? deviceId).bind fun streams => streams.get? stream

end ChunkRelay

section
variable (b : Conversions) (limits : ChunkLimits)

def streamOf (desc : Entries) : String × String :=
  ((getKey desc "device_id").text b.repr,(getKey desc "stream").text b.repr)

/-- The comparison with the descriptor that was kept before; both numbers are integers or `None`. -/
def isRepetition (previous : Option Entries) (desc : Entries) : Bool :=
  previous.any fun previous => getKey desc "seq" ≠ .none && getKey previous "seq" = getKey desc "seq"

def ingestChunkReady (msg : Entries) (m : ChunkRelay) : Except PyExc ChunkRelay :=
  match normalizedChunkDescriptor b msg with
  | .error e => .error e
  | .ok none => .ok m
  | .ok (some desc) =>
    let (deviceId,stream) := streamOf b desc
    if isRepetition (m.cached deviceId stream) desc then .ok m
    else
      let m := m.storeChunkDescriptor limits deviceId stream desc
      .ok { m with published := m.published ++ [desc] }

/-- `_handle_chunk_ready_topic` -/
def ChunkRelay.step (m : ChunkRelay) (msg : Entries) : ChunkRelay :=
  match ingestChunkReady b limits msg m with
  | .ok m => m
  | .error _ => m

end

namespace ChunkRelay
variable {b : Conversions} {limits : ChunkLimits}

theorem storeStream_get? {limit : Nat} {stream : String} {desc : Entries}
    {cache : OrderedDict String Entries} {s : String} {d : Entries}
    (h : (storeStream limit stream desc cache).get? s = some d) :
    (s = stream ∧ d = desc) ∨ (s ≠ stream ∧ cache.get? s = some d) := by
  unfold storeStream at h
  dsimp only at h
  rw [get?_set] at h
  split at h
  · rename_i hs
    exact .inl ⟨hs,(Option.some.inj h).symm⟩
  · rename_i hs
    refine .inr ⟨hs,?_⟩
    split at h
    · exact get?_erase cache stream s d h
    · split at h
      · exact get?_popOldest cache s d h
      · exact h

theorem evictOneDevice_get? {limit : Nat} {deviceId : String} {m : ChunkRelay} {dev : String}
    {streams : OrderedDict String Entries}
    (h : (m.evictOneDevice limit deviceId).latest.get? dev = some streams) :
    m.latest.get? dev = some streams := by
  unfold evictOneDevice at h
  split at h
  · exact h
  · split at h
    · exact h
    · exact get?_erase _ _ _ _ h

@[simp] theorem evictOneDevice_published (limit : Nat) (deviceId : String) (m : ChunkRelay) :
    (m.evictOneDevice limit deviceId).published = m.published := by
  unfold evictOneDevice
  split
  · rfl
  · split <;> rfl

theorem cached_storeChunkDescriptor {deviceId stream : String} {desc : Entries} {m : ChunkRelay}
    {dev s : String} {d : Entries}
    (h : (m.storeChunkDescriptor limits deviceId stream desc).cached dev s = some d) :
    (dev = deviceId ∧ s = stream ∧ d = desc) ∨
    (¬(dev = deviceId ∧ s = stream) ∧ m.cached dev s = some d) := by
  simp only [cached,storeChunkDescriptor,ensureChunkDeviceSlot,touch,get?_set,
    Option.bind_eq_some_iff] at h
  obtain ⟨streams,hstreams,hd⟩ := h
  by_cases hdev : dev = deviceId
  · simp only [hdev,if_true,Option.some.injEq] at hstreams
    subst hstreams
    rcases storeStream_get? hd with ⟨hs,rfl⟩ | ⟨hs,hold⟩
    · exact .inl ⟨hdev,hs,rfl⟩
    · refine .inr ⟨fun h => hs h.2,?_⟩
      cases hslot : (m.evictOneDevice limits.maxDevices deviceId).latest.get? deviceId with
      | none => simp [hslot] at hold
      | some cache =>
        rw [hslot,Option.getD_some] at hold
        simp [cached,hdev,evictOneDevice_get? hslot,hold]
  · simp only [hdev,if_false] at hstreams
    refine .inr ⟨fun h => hdev h.1,?_⟩
    simp [cached,evictOneDevice_get? hstreams,hd]

@[simp] theorem storeChunkDescriptor_published (deviceId stream : String) (desc : Entries)
    (m : ChunkRelay) :
    (m.storeChunkDescriptor limits deviceId stream desc).published = m.published := by
  simp [storeChunkDescriptor,ensureChunkDeviceSlot,touch]

end ChunkRelay

/-- `shm_name` and sequence number of a frame. -/
abbrev FrameId := Value × Int

def Announces (desc : Entries) (frame : FrameId) : Prop :=
  getKey desc "shm_name" = frame.1 ∧ ∃ first final, getKey desc "first_seq" = .int first ∧
    getKey desc "seq" = .int final ∧ first ≤ frame.2 ∧ frame.2 ≤ final

structure SameFrames (desc desc' : Entries) : Prop where
  ring : getKey desc "shm_name" = getKey desc' "shm_name"
  first : getKey desc "first_seq" = getKey desc' "first_seq"
  final : getKey desc "seq" = getKey desc' "seq"

theorem SameFrames.announces {desc desc' : Entries} (h : SameFrames desc desc') {frame : FrameId}
    (hf : Announces desc' frame) : Announces desc frame := by
  unfold Announces at hf ⊢
  rwa [h.ring,h.first,h.final]

variable (b : Conversions) (limits : ChunkLimits)

def lastPublished (published : List Entries) (stream : String × String) : Option Entries :=
  (published.filter fun desc => streamOf b desc = stream).getLast?

def AnnouncesMore (m : ChunkRelay) (desc : Entries) : Prop :=
  ∃ frame, Announces desc frame ∧
    ∀ previous, lastPublished b m.published (streamOf b desc) = some previous → ¬Announces previous frame

/-- What becomes of a message that is accepted: it is published after those before it, and what is
not published announces no more than the last published message of its stream, but the same again. -/
def Relayed (m : ChunkRelay) (msg : Entries) : Prop :=
  ∀ desc, normalizedChunkDescriptor b msg = .ok (some desc) →
    (AnnouncesMore b m desc → (m.step b limits msg).published = m.published ++ [desc]) ∧
    ((m.step b limits msg).published = m.published ++ [desc] ∨
      (m.step b limits msg).published = m.published ∧
      ∃ previous, lastPublished b m.published (streamOf b desc) = some previous ∧
        SameFrames previous desc)

/-- A message whose final number is that of the descriptor in the cache is about the same frames. -/
def Distinct (m : ChunkRelay) (msg : Entries) : Prop :=
  ∀ desc, normalizedChunkDescriptor b msg = .ok (some desc) →
    ∀ previous, m.cached (streamOf b desc).1 (streamOf b desc).2 = some previous →
      isRepetition (some previous) desc = true → SameFrames previous desc

def Cached (m : ChunkRelay) : Prop :=
  ∀ dev stream desc, m.cached dev stream = some desc →
    lastPublished b m.published (dev,stream) = some desc

variable {b limits}

theorem lastPublished_append (published : List Entries) (desc : Entries) (stream : String × String) :
    lastPublished b (published ++ [desc]) stream =
      if streamOf b desc = stream then some desc else lastPublished b published stream := by
  unfold lastPublished
  rw [List.filter_append]
  split
  · rename_i h
    simp [h]
  · rename_i h
    simp [h]

theorem step_cases (m : ChunkRelay) (msg : Entries) :
    (m.step b limits msg = m ∧ ∀ desc, normalizedChunkDescriptor b msg ≠ .ok (some desc)) ∨
    ∃ desc, normalizedChunkDescriptor b msg = .ok (some desc) ∧
      ((isRepetition (m.cached (streamOf b desc).1 (streamOf b desc).2) desc = true ∧
          m.step b limits msg = m) ∨
        isRepetition (m.cached (streamOf b desc).1 (streamOf b desc).2) desc = false ∧
          m.step b limits msg =
            { m.storeChunkDescriptor limits (streamOf b desc).1 (streamOf b desc).2 desc with
              published := m.published ++ [desc] }) := by
  unfold ChunkRelay.step ingestChunkReady
  cases hnorm : normalizedChunkDescriptor b msg with
  | error e => exact .inl ⟨rfl,fun desc h => nomatch h⟩
  | ok found =>
    cases found with
    | none => exact .inl ⟨rfl,fun desc h => nomatch h⟩
    | some desc =>
      refine .inr ⟨desc,rfl,?_⟩
      cases hrep : isRepetition (m.cached (streamOf b desc).1 (streamOf b desc).2) desc with
      | true => exact .inl ⟨rfl,by simp [hrep]⟩
      | false => exact .inr ⟨rfl,by simp [hrep]⟩

theorem Cached.new : Cached b ChunkRelay.new := by
  intro dev stream desc h
  cases h

theorem Cached.step {m : ChunkRelay} (h : Cached b m) (msg : Entries) :
    Cached b (m.step b limits msg) := by
  rcases @step_cases b limits m msg with ⟨heq,_⟩ | ⟨desc,_,⟨_,heq⟩ | ⟨_,heq⟩⟩
  · rwa [heq]
  · rwa [heq]
  · rw [heq]
    intro dev stream d hd
    rw [lastPublished_append]
    rcases ChunkRelay.cached_storeChunkDescriptor hd with ⟨rfl,rfl,rfl⟩ | ⟨hne,hold⟩
    · simp
    · have hother : streamOf b desc ≠ (dev,stream) := fun heq => hne (by simp [heq])
      simpa [hother] using h dev stream d hold

theorem relayed_iff {m : ChunkRelay} (h : Cached b m) (msg : Entries) :
    Relayed b limits m msg ↔ Distinct b m msg := by
  rcases @step_cases b limits m msg with
    ⟨_,hnone⟩ | ⟨desc,hdesc,⟨hrep,heq⟩ | ⟨hrep,heq⟩⟩
  · exact ⟨fun _ desc hdesc => absurd hdesc (hnone desc),fun _ desc hdesc => absurd hdesc (hnone desc)⟩
  · -- The message is suppressed: the cached descriptor is the last published one.
    have hkept : (m.step b limits msg).published = m.published := by rw [heq]
    have hnot : (m.step b limits msg).published ≠ m.published ++ [desc] := by simp [hkept]
    cases hprev : m.cached (streamOf b desc).1 (streamOf b desc).2 with
    | none => simp [hprev,isRepetition] at hrep
    | some previous =>
      have hlast := h _ _ previous hprev
      constructor
      · intro hr desc' hdesc' previous' hprev' _
        obtain rfl : desc = desc' := by simpa [hdesc] using hdesc'
        obtain rfl : previous = previous' := by simpa [hprev] using hprev'
        obtain ⟨_,hpub⟩ := hr desc hdesc
        rcases hpub with hpub | ⟨_,last,hl,hsame⟩
        · exact absurd hpub hnot
        · obtain rfl : previous = last := Option.some.inj (hlast.symm.trans hl)
          exact hsame
      · intro hd desc' hdesc'
        obtain rfl : desc = desc' := by simpa [hdesc] using hdesc'
        have hsame := hd desc hdesc previous hprev (hprev ▸ hrep)
        refine ⟨?_,.inr ⟨hkept,previous,hlast,hsame⟩⟩
        intro hmore
        obtain ⟨frame,hframe,hnew⟩ := hmore
        exact absurd (hsame.announces hframe) (hnew previous hlast)
  · -- The message is published.
    have hpub : (m.step b limits msg).published = m.published ++ [desc] := by rw [heq]
    constructor
    · intro _ desc' hdesc' previous hprev hrep'
      obtain rfl : desc = desc' := by simpa [hdesc] using hdesc'
      rw [hprev,hrep'] at hrep
      cases hrep
    · intro _ desc' hdesc'
      obtain rfl : desc = desc' := by simpa [hdesc] using hdesc'
      exact ⟨fun _ => hpub,.inl hpub⟩

/-- Along any sequence of messages, every announcement is relayed exactly if no message that is
about other frames has the final number of the cached descriptor of its stream. -/
theorem announcements_relayed_iff (b : Conversions) (limits : ChunkLimits) (msgs : List Entries) :
    Meets (ChunkRelay.step b limits) (Relayed b limits) .new msgs ↔
      Meets (ChunkRelay.step b limits) (Distinct b) .new msgs :=
  Meets.congr (P := Cached b) (fun _ msg h => Cached.step h msg) (fun _ msg h => relayed_iff h msg) Cached.new msgs

def firstFrameOf (ring : String) : Entries :=
  [("device_id",.str "camera"),("stream",.str "image"),("shm_name",.str ring),("seq",.int 1)]

def announcedAs (ring : String) : Entries :=
  firstFrameOf ring ++ [("version",.int 1),("layout_version",.int 1),("first_seq",.int 1),
    ("batch_count",.int 1)]

theorem new_ring_not_announced :
    ¬Meets (ChunkRelay.step .digits ⟨4096,2048⟩) (Relayed .digits ⟨4096,2048⟩) .new
      [firstFrameOf "ring_a",firstFrameOf "ring_b"] := by
  intro h
  obtain ⟨_,hrelayed,_⟩ := h
  have hsecond := (hrelayed (announcedAs "ring_b") (by rfl)).2
  rcases hsecond with hpub | ⟨_,previous,hlast,hsame⟩
  · revert hpub
    decide
  · obtain rfl : announcedAs "ring_a" = previous := Option.some.inj (Eq.trans (by rfl) hlast)
    have hring := hsame.ring
    revert hring
    decide

end ExperimentControl.Manager

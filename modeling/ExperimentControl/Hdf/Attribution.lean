import ExperimentControl.Hdf.Gaps
import ExperimentControl.Hdf.Writer

/-!
Which context a buffered frame of a stream is written with (`processes/hdf_writer.py`).
-/

namespace ExperimentControl.Hdf
open Lib Shm OrderedDict List Option

/-- What happens to a stream while files are written: beside the messages, the writes of earlier batches and
the frames dropped at the hard limit. -/
inductive StreamEvent where
  | message (i : ChunkInput)
  | sweep (now : ℚ)
  | taken
  | cleared
  | wrote (now : ℚ) (o : WriteOutcome)
  | dropped (n : Nat)

/-- The round of `_drop_oldest_stream_frames` for this stream. -/
def Lane.dropOldest (l : Lane) (n : Nat) : Lane :=
  { l with
    stream.droppedTotal := l.stream.droppedTotal+min n l.buffer.data.length
    buf := l.buf.map fun b =>
      let drop := min n b.data.length
      { b with
        data := b.data.drop drop
        seq := b.seq.drop drop
        t0MonoNs := b.t0MonoNs.drop drop
        t0WallNs := b.t0WallNs.drop drop
        contextId := b.contextId.drop drop } }

variable (conf : Conf)

def Lane.step (l : Lane) : StreamEvent → Lane
  | .message i => l.handle conf i
  | .sweep now => l.sweep conf now
  | .taken => { l with buf := none }
  | .cleared => l.disabledDevice none
  | .wrote now o => l.wrote conf now o
  | .dropped n => l.dropOldest n

/-- A message announced the context for the frame number since the current ring was attached. -/
def Stream.Announced (s : Stream) (contextId : Int) (seq : Nat) : Prop :=
  ∃ range now, .announced s.ring range (some contextId) now ∈ s.log ∧ seq ∈ range.seqs

/-- Frames and contexts are matched by the numbers announced on the ring. -/
structure Lane.Attributed (l : Lane) : Prop where
  rows : Forall₂ (fun seq contextId => contextId = -1 ∨ l.stream.Announced contextId seq)
    l.buffer.seq l.buffer.contextId
  pending : ∀ seq p, l.stream.pendingBySeq.get? seq = some p → p.event.seq = seq
  contexts : ∀ seq c, l.stream.contextBySeq.get? seq = some c → l.stream.Announced c.1 seq
  apart : ∀ seq, l.stream.pendingBySeq.get? seq = none ∨ l.stream.contextBySeq.get? seq = none

/-- The stream has at least this log on the same ring. -/
def Lane.Extends (l l' : Lane) : Prop := l'.stream.ring = l.stream.ring ∧ l.stream.log ⊆ l'.stream.log

namespace Lane
variable {conf : Conf} {l l' : Lane}

theorem Extends.announced (h : l.Extends l') {contextId : Int} {seq : Nat}
    (ha : l.stream.Announced contextId seq) : l'.stream.Announced contextId seq := by
  obtain ⟨range,now,hmem,hseq⟩ := ha
  exact ⟨range,now,h.2 (h.1 ▸ hmem),hseq⟩

theorem Extends.refl (l : Lane) : l.Extends l := ⟨rfl,Subset.refl _⟩

/-- Entries may go from the maps, and the log may grow. -/
theorem Attributed.shrink (h : l.Attributed) (hext : l.Extends l')
    (hbuf : l'.buf = l.buf)
    (hpending : ∀ seq p, l'.stream.pendingBySeq.get? seq = some p → l.stream.pendingBySeq.get? seq = some p)
    (hcontexts : ∀ seq c, l'.stream.contextBySeq.get? seq = some c →
      l.stream.contextBySeq.get? seq = some c) : l'.Attributed where
  rows := by
    rw [buffer,hbuf]
    exact h.rows.imp fun _ _ hrow => hrow.imp_right hext.announced
  pending seq p hp := h.pending seq p (hpending seq p hp)
  contexts seq c hc := hext.announced (h.contexts seq c (hcontexts seq c hc))
  apart seq := (h.apart seq).imp (fun hnone => eq_none_iff_forall_not_mem.2 fun p hp => by simp [hpending seq p hp] at hnone)
    fun hnone => eq_none_iff_forall_not_mem.2 fun c hc => by simp [hcontexts seq c hc] at hnone

/-- What the matching of frames and contexts reads. -/
def matching (l : Lane) : Option Buf × Nat × List Noted × OrderedDict Nat PendingEvent × OrderedDict Nat (Int × ℚ) :=
  (l.buf,l.stream.ring,l.stream.log,l.stream.pendingBySeq,l.stream.contextBySeq)

theorem Attributed.congr (h : l.Attributed) (heq : l'.matching = l.matching) : l'.Attributed := by
  simp only [matching,Prod.mk.injEq] at heq
  obtain ⟨hbuf,hring,hlog,hpending,hcontexts⟩ := heq
  exact h.shrink ⟨hring,hlog ▸ Subset.refl _⟩ hbuf (by simp [hpending]) (by simp [hcontexts])

theorem Attributed.count (h : l.Attributed) (f : Counters → Counters) : (l.count f).Attributed := h.congr rfl

theorem Attributed.note (h : l.Attributed) (n : Noted) : (l.note n).Attributed :=
  h.shrink ⟨rfl,subset_cons_self _ _⟩ rfl (fun _ _ hp => hp) fun _ _ hc => hc

/-- Nothing is held after a reset. -/
theorem attributed_fresh (hbuf : l.buf = none) (hpending : l.stream.pendingBySeq = .empty)
    (hcontexts : l.stream.contextBySeq = .empty) : l.Attributed where
  rows := by
    rw [buffer,hbuf]
    exact .nil
  pending := by simp [hpending]
  contexts := by simp [hcontexts]
  apart := by simp [hpending]

theorem Attributed.appendResolved (h : l.Attributed) (event : ShmEvent) (contextId : Int)
    (hctx : contextId = -1 ∨ l.stream.Announced contextId event.seq) :
    (l.appendResolved event contextId).Attributed where
  rows := rel_append h.rows (.cons hctx .nil)
  pending := h.pending
  contexts := h.contexts
  apart := h.apart

theorem Attributed.dropPending (h : l.Attributed) (seq : Nat) :
    ({ l with stream.pendingBySeq := l.stream.pendingBySeq.erase seq } : Lane).Attributed :=
  h.shrink (Extends.refl l) rfl (fun _ _ hp => get?_erase _ _ _ _ hp) fun _ _ hc => hc

theorem Attributed.dropContext (h : l.Attributed) (seq : Nat) :
    ({ l with stream.contextBySeq := l.stream.contextBySeq.erase seq } : Lane).Attributed :=
  h.shrink (Extends.refl l) rfl (fun _ _ hp => hp) fun _ _ hc => get?_erase _ _ _ _ hc

theorem Attributed.announceOne (h : l.Attributed) (now : ℚ) {contextId : Int} {seq : Nat}
    (ha : l.stream.Announced contextId seq) :
    ((l.storeContextForSeq now contextId seq).resolvePendingStreamEvent contextId seq).Attributed := by
  unfold resolvePendingStreamEvent
  cases hp : l.stream.pendingBySeq.get? seq with
  | none =>
    simp only [storeContextForSeq,hp]
    refine ⟨h.rows,h.pending,fun seq' c hc => ?_,fun seq' => ?_⟩
    · dsimp only at hc
      rw [get?_set] at hc
      split at hc
      · rename_i heq
        cases hc
        exact heq ▸ ha
      · exact h.contexts seq' c hc
    · by_cases heq : seq' = seq
      · exact .inl (heq ▸ hp)
      · dsimp only
        rw [get?_set,if_neg heq]
        exact h.apart seq'
  | some p =>
    simp only [storeContextForSeq,hp]
    have hrow := (h.dropPending seq).appendResolved p.event contextId (.inr (h.pending seq p hp ▸ ha))
    refine hrow.shrink ⟨rfl,Subset.refl _⟩ rfl (fun _ _ hp => hp) fun seq' c hc => ?_
    dsimp only [Lane.appendResolved] at hc
    rw [get?_erase_eq,get?_set] at hc
    split at hc
    · cases hc
    · exact hc

theorem Attributed.giveUp (h : l.Attributed) (countOverflow : Bool) (seq : Nat) :
    (l.giveUp countOverflow seq).Attributed := by
  unfold Lane.giveUp
  cases hp : l.stream.pendingBySeq.get? seq with
  | none => exact h
  | some p =>
    have hrow := (h.dropPending seq).appendResolved p.event (-1) (.inl rfl)
    cases countOverflow with
    | false => exact hrow.congr rfl
    | true => exact (hrow.note (.overflow l.stream.ring seq)).congr rfl

theorem Attributed.flush (h : l.Attributed) (countOverflow : Bool) (seqs : List Nat) :
    (l.flushPendingAsUnknown countOverflow seqs).Attributed :=
  foldlRecOn seqs _ h fun _ hl seq _ => hl.giveUp countOverflow seq

theorem Attributed.enforceCap (h : l.Attributed) : (l.enforcePendingContextCap conf).Attributed := by
  unfold enforcePendingContextCap
  dsimp only
  split
  · exact h
  · exact h.flush _ _

theorem Attributed.trim (h : l.Attributed) (now : ℚ) : (l.trimContextMap conf now).Attributed := by
  have hfresh : ∀ map : OrderedDict Nat (Int × ℚ),
      (∀ seq c, map.get? seq = some c → l.stream.contextBySeq.get? seq = some c) →
      (({ l with stream.contextBySeq := map } : Lane).capContextMap conf).Attributed := by
    intro map hmap
    have hl := @Attributed.shrink l { l with stream.contextBySeq := map } h (Extends.refl l) rfl
      (fun _ _ hp => hp) hmap
    unfold capContextMap
    dsimp only
    split
    · exact hl
    · exact foldlRecOn _ _ hl fun l' hl seq _ =>
        ((hl.dropContext seq).note (.overflow l'.stream.ring seq)).congr rfl
  unfold trimContextMap
  refine hfresh _ ?_
  intro seq c hc
  rw [get?_filterEntries] at hc
  have hc := (filter_eq_some_iff.1 hc).1
  split at hc
  · rw [get?_filterEntries] at hc
    exact (filter_eq_some_iff.1 hc).1
  · exact hc

theorem Attributed.sweep (h : l.Attributed) (now : ℚ) : (l.sweep conf now).Attributed :=
  (h.enforceCap.flush _ _).trim now

theorem Attributed.appendEvent (h : l.Attributed) (now : ℚ) (last : Option Nat) (dropped : Nat)
    (event : ShmEvent) : (Lane.appendEvent now (l,last,dropped) event).1.Attributed := by
  have hl := ((h.count fun c => { c with seqGap := c.seqGap+last.elim 0 fun last => event.seq-last-1 }).count
    fun c => c.noteSeq event.seq).note (.read l.stream.ring event now)
  unfold Lane.appendEvent
  dsimp only [Lane.count,Lane.note] at hl ⊢
  cases hc : l.stream.contextBySeq.get? event.seq with
  | some c =>
    have hrow := (hl.dropContext event.seq).appendResolved event c.1 (.inr (hl.contexts event.seq c hc))
    exact hrow.congr rfl
  | none =>
    refine ⟨hl.rows,fun seq p hp => ?_,hl.contexts,fun seq => ?_⟩
    · dsimp only at hp
      rw [get?_set] at hp
      split at hp
      · rename_i heq
        cases hp
        exact heq.symm
      · exact hl.pending seq p hp
    · by_cases heq : seq = event.seq
      · exact .inr (heq ▸ hc)
      · dsimp only
        rw [get?_set,if_neg heq]
        exact hl.apart seq

theorem Attributed.appendEvents (h : l.Attributed) (now : ℚ) (layout : Schema) (events : List ShmEvent) :
    (l.appendEvents conf now layout events).Attributed := by
  have hfold : ∀ s : Lane × Option Nat × Nat, s.1.Attributed →
      (events.foldl (Lane.appendEvent now) s).1.Attributed := fun s hs =>
    foldlRecOn (motive := fun s : Lane × Option Nat × Nat => s.1.Attributed) events _ hs fun s hl event _ =>
      hl.appendEvent now s.2.1 s.2.2 event
  have hl := hfold (l.count fun c => { c with eventsRead := c.eventsRead+events.length },l.stream.lastSeq,
    l.stream.droppedTotal) (h.congr rfl)
  unfold Lane.appendEvents
  refine Attributed.sweep ?_ now
  exact hl.congr rfl

theorem Attributed.announceContext (h : l.Attributed) (now : ℚ) (c : ChunkReadyMessage) :
    (l.announceContext now c).Attributed := by
  unfold Lane.announceContext
  split
  · exact h
  · rename_i range _
    have hl := h.note (.announced l.stream.ring range c.contextId now)
    dsimp only
    split
    · exact hl
    · rename_i contextId hctx
      rw [hctx] at hl ⊢
      have hall : ∀ seq ∈ range.seqs,
          (l.note (.announced l.stream.ring range (some contextId) now)).stream.Announced contextId seq :=
        fun seq hseq => ⟨range,now,mem_cons_self,hseq⟩
      unfold announce
      refine (foldlRecOn (motive := fun l' : Lane => l'.Attributed ∧
        (l.note (.announced l.stream.ring range (some contextId) now)).Extends l') range.seqs _
        ⟨hl,Extends.refl _⟩ ?_).1
      intro l' hl' seq hseq
      refine ⟨hl'.1.announceOne now (hl'.2.announced (hall seq hseq)),?_⟩
      unfold resolvePendingStreamEvent
      split <;> exact hl'.2

theorem Attributed.takeEvents (h : l.Attributed) (now : ℚ) (layout : Schema)
    (drained : Option RingContents) : (l.takeEvents conf now layout drained).Attributed := by
  unfold Lane.takeEvents
  cases drained with
  | none => exact attributed_fresh rfl rfl rfl
  | some contents =>
    dsimp only
    split
    · exact (h.flush _ _).trim now
    · exact h.appendEvents now layout _

theorem Attributed.refuse (h : l.Attributed) (range : Option ChunkSequenceRange) :
    (l.refuse range).Attributed := by
  cases range with
  | none => exact h
  | some range => exact h.note _

theorem Attributed.handle (h : l.Attributed) (i : ChunkInput) : (l.handle conf i).Attributed := by
  have hseen : (l.seen i.chunk).Attributed := h.count _
  unfold Lane.handle Lane.handleChunkReady
  dsimp only
  split
  · have hreader : ((l.seen i.chunk).ensureReader i.chunk i.calls.attach i.existing).2.Attributed := by
      unfold ensureReader
      split
      · exact hseen
      · split
        · exact hseen.congr rfl
        · split
          · exact hseen
          · exact hseen.congr rfl
          · exact attributed_fresh rfl rfl rfl
    split
    · rename_i heq
      rw [heq] at hreader
      exact hreader.refuse _
    · rename_i heq
      rw [heq] at hreader
      unfold withReader
      split
      · exact (hreader.announceContext _ _).takeEvents _ _ _
      · exact (hreader.count _).refuse _
  · exact attributed_fresh rfl rfl rfl

theorem Attributed.wrote (h : l.Attributed) (now : ℚ) (o : WriteOutcome) : (l.wrote conf now o).Attributed := by
  have hbad : ∀ f : Counters → Counters, (if o.bad = 0 then l else l.count f).Attributed := by
    intro f
    split
    · exact h
    · exact h.count f
  unfold Lane.wrote
  dsimp only
  split
  · exact hbad _
  · exact (hbad _).count _
  · exact (hbad _).count _
  · refine Attributed.trim ?_ now
    exact (hbad _).congr rfl

theorem Attributed.dropOldest (h : l.Attributed) (n : Nat) : (l.dropOldest n).Attributed where
  rows := by
    have hrows := h.rows
    cases hbuf : l.buf with
    | none =>
      simp only [Lane.dropOldest,buffer,hbuf,Option.map_none,Option.getD_none]
      exact .nil
    | some b =>
      simp only [buffer,hbuf,Option.getD_some] at hrows
      simp only [Lane.dropOldest,buffer,hbuf,Option.map_some,Option.getD_some]
      exact forall₂_drop _ hrows
  pending := h.pending
  contexts := h.contexts
  apart := h.apart

theorem Attributed.step (h : l.Attributed) (event : StreamEvent) : (l.step conf event).Attributed := by
  cases event with
  | message i => exact h.handle i
  | sweep now => exact h.sweep now
  | taken => exact ⟨.nil,h.pending,h.contexts,h.apart⟩
  | cleared => exact attributed_fresh rfl rfl rfl
  | wrote now o => exact h.wrote now o
  | dropped n => exact h.dropOldest n

end Lane

/-- Whatever is announced, read, written and dropped, in any order: a frame in the buffer carries a context
that was announced for its number on the ring it was read from, or none; and no frame waits for a context
that is known. -/
theorem stream_attributed (events : List StreamEvent) :
    (events.foldl (Lane.step conf) ⟨.initial,none⟩).Attributed :=
  foldlRecOn (motive := Lane.Attributed) events _ (Lane.attributed_fresh rfl rfl rfl)
    fun _ hl event _ => hl.step event

end ExperimentControl.Hdf

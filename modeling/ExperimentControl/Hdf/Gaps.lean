import ExperimentControl.Hdf.Chunks
import ExperimentControl.Lib.Runs
import Mathlib.Algebra.Order.Group.Multiset
import Mathlib.Tactic.Linarith

/-!
What the counters of a stream say about the frames of one attachment to a ring: how far the stream has
come since its baseline is what was read, what was missed, and what passed by while the device was
disabled.
-/

namespace ExperimentControl.Hdf
open Lib Shm OrderedDict List Option

structure ChunkInput where
  now : ℚ
  enabled : Bool
  existing : List Nat
  calls : RingCalls
  chunk : ChunkReadyMessage

section
variable (conf : Conf)

def Lane.handle (l : Lane) (i : ChunkInput) : Lane :=
  l.handleChunkReady conf i.now i.enabled i.existing i.calls i.chunk

def Lane.located (l : Lane) (i : ChunkInput) : Option Reader × Lane :=
  (l.seen i.chunk).ensureReader i.chunk i.calls.attach i.existing

def Lane.framesWith (l : Lane) (i : ChunkInput) (reader : Reader) : List ShmEvent :=
  if rangeFits reader.info i.chunk.range then
    i.calls.drained.elim [] fun contents => contents.after l.stream.lastSeq
  else []

def Lane.framesRead (l : Lane) (i : ChunkInput) : List ShmEvent :=
  match i.enabled,l.located i with
  | true,(some reader,l) => l.framesWith i reader
  | _,_ => []

def Lane.Waits (l : Lane) (i : ChunkInput) (event : ShmEvent) : Prop :=
  ((l.located i).2.announceContext i.now i.chunk).stream.contextBySeq.get? event.seq = none

def Lane.passedBy (l : Lane) (i : ChunkInput) : Nat :=
  match i.enabled,i.chunk.range,l.stream.lastSeq with
  | false,some range,some last => range.finalSeq-last
  | false,some _,none => 1
  | _,_,_ => 0

def Lane.firstNumber (l : Lane) (i : ChunkInput) : Option Nat :=
  if i.enabled then (l.framesRead i).head?.map (·.seq)
  else i.chunk.range.map (·.finalSeq)

inductive LaneInput where
  | message (i : ChunkInput)
  | sweep (now : ℚ)
  | taken
  | cleared

/-- One attachment: the stream, the numbers appended to its buffer so far, the numbers passed over,
and the number before the first one. -/
structure Attachment where
  lane : Lane
  appended : List Nat
  passed : Nat
  baseline : Option Int

/-- The message that causes the attachment: its `first_seq` gives the baseline. -/
def Attachment.begin (l : Lane) (i : ChunkInput) : Attachment where
  lane := l.handle conf i
  appended := (l.handle conf i).buffer.seq
  passed := 0
  baseline := (i.chunk.range.map fun r => (r.firstSeq-1 : Int)).or
    ((l.firstNumber i).map fun (seq : Nat) => (seq-1 : Int))

def Attachment.step (a : Attachment) (input : LaneInput) : Attachment :=
  match input with
  | .message i =>
    let after := a.lane.handle conf i
    { lane := after
      appended := a.appended ++ after.buffer.seq.drop a.lane.buffer.seq.length
      passed := a.passed+a.lane.passedBy i
      baseline := a.baseline.or ((a.lane.firstNumber i).map fun (seq : Nat) => (seq-1 : Int)) }
  | .sweep now =>
    let after := a.lane.sweep conf now
    { a with
      lane := after
      appended := a.appended ++ after.buffer.seq.drop a.lane.buffer.seq.length }
  | .taken => { a with lane := { a.lane with buf := none } }
  | .cleared => { a with lane := a.lane.disabledDevice none }

end

def Lane.waiting (l : Lane) : Multiset Nat :=
  (l.stream.pendingBySeq.entries.map fun e => e.2.event.seq : List Nat)

/-- The buffer gets these numbers; each of them was read, or waited and waits no longer. -/
structure Lane.Moves (l l' : Lane) (read new : List Nat) : Prop where
  seqs : l'.buffer.seq = l.buffer.seq ++ new
  kept : (new : Multiset Nat)+l'.waiting ≤ l.waiting+(read : Multiset Nat)

namespace Lane

theorem Moves.trans {l l' l'' : Lane} {read read' new new' : List Nat} (h : l.Moves l' read new)
    (h' : l'.Moves l'' read' new') : l.Moves l'' (read ++ read') (new ++ new') where
  seqs := by rw [h'.seqs,h.seqs,append_assoc]
  kept := by
    rw [← Multiset.coe_add,← Multiset.coe_add]
    calc (new : Multiset Nat)+new'+l''.waiting = new+(new'+l''.waiting) := add_assoc _ _ _
      _ ≤ new+(l'.waiting+read') := add_le_add le_rfl h'.kept
      _ = new+l'.waiting+read' := (add_assoc _ _ _).symm
      _ ≤ l.waiting+read+read' := add_le_add h.kept le_rfl
      _ = l.waiting+(read+read') := add_assoc _ _ _

def meters (l : Lane) : Option Reader × Nat × Option Nat × Nat × Nat × Nat :=
  (l.stream.reader,l.stream.ring,l.stream.lastSeq,l.stream.counters.eventsRead,
    l.stream.counters.seqGap,l.stream.counters.startupSeqGap)

def Quiet (l l' : Lane) : Prop := l'.meters = l.meters ∧ ∃ new, l.Moves l' [] new

theorem Quiet.trans {l l' l'' : Lane} (h : l.Quiet l') (h' : l'.Quiet l'') : l.Quiet l'' := by
  obtain ⟨hmeters,new,hmoves⟩ := h
  obtain ⟨hmeters',new',hmoves'⟩ := h'
  exact ⟨hmeters'.trans hmeters,new ++ new',hmoves.trans hmoves'⟩

variable {l l' : Lane}

theorem quiet_of_le (hmeters : l'.meters = l.meters) (hbuf : l'.buf = l.buf)
    (hwaiting : l'.waiting ≤ l.waiting) : l.Quiet l' :=
  ⟨hmeters,[],by simp [Lane.buffer,hbuf],by simpa using hwaiting⟩

theorem Quiet.refl (l : Lane) : l.Quiet l := quiet_of_le rfl rfl le_rfl

theorem Quiet.foldl {α : Type} {f : Lane → α → Lane} (h : ∀ (l : Lane) x, l.Quiet (f l x)) (xs : List α)
    (l : Lane) : l.Quiet (xs.foldl f l) := by
  induction xs generalizing l with
  | nil => exact .refl l
  | cons x rest ih => exact (h l x).trans (ih (f l x))

theorem quiet_count (l : Lane) (f : Counters → Counters)
    (hf : ∀ c, (f c).eventsRead = c.eventsRead ∧ (f c).seqGap = c.seqGap ∧
      (f c).startupSeqGap = c.startupSeqGap) : l.Quiet (l.count f) := by
  obtain ⟨hevents,hgap,hstartup⟩ := hf l.stream.counters
  refine quiet_of_le ?_ rfl le_rfl
  simp [meters,count,hevents,hgap,hstartup]

theorem quiet_note (l : Lane) (n : Noted) : l.Quiet (l.note n) := quiet_of_le rfl rfl le_rfl

theorem quiet_refuse (l : Lane) (range : Option ChunkSequenceRange) : l.Quiet (l.refuse range) := by
  cases range with
  | none => exact .refl l
  | some range => exact l.quiet_note _

theorem moves_release {seq : Nat} {p : PendingEvent}
    (hget : l.stream.pendingBySeq.get? seq = some p) (hseqs : l'.buffer.seq = l.buffer.seq ++ [p.event.seq])
    (hpending : l'.stream.pendingBySeq = l.stream.pendingBySeq.erase seq) :
    l.Moves l' [] [p.event.seq] where
  seqs := hseqs
  kept := by
    have hperm := (perm_erase hget).map (·.2.event.seq)
    have hwaiting : l.waiting = (p.event.seq :: (l'.stream.pendingBySeq.entries.map
        fun e => e.2.event.seq) : List Nat) := by
      rw [waiting,hpending]
      exact Multiset.coe_eq_coe.2 hperm
    rw [hwaiting,waiting,Multiset.coe_add,Multiset.coe_add]
    simp

theorem quiet_resolvePending (l : Lane) (contextId : Int) (seq : Nat) :
    l.Quiet (l.resolvePendingStreamEvent contextId seq) := by
  unfold resolvePendingStreamEvent
  split
  · exact .refl l
  · rename_i p hget
    exact ⟨rfl,_,moves_release hget rfl rfl⟩

theorem quiet_announce (l : Lane) (now : ℚ) (contextId : Int) (seqs : List Nat) :
    l.Quiet (l.announce now contextId seqs) := by
  refine Quiet.foldl (fun l seq => ?_) seqs l
  have hstore : l.Quiet (l.storeContextForSeq now contextId seq) := quiet_of_le rfl rfl le_rfl
  exact hstore.trans (quiet_resolvePending _ contextId seq)

theorem quiet_announceContext (l : Lane) (now : ℚ) (c : ChunkReadyMessage) :
    l.Quiet (l.announceContext now c) := by
  unfold announceContext
  split
  · exact .refl l
  · split
    · exact l.quiet_note _
    · exact (l.quiet_note _).trans (quiet_announce _ now _ _)

theorem quiet_giveUp (countOverflow : Bool) (l : Lane) (seq : Nat) :
    l.Quiet (l.giveUp countOverflow seq) := by
  unfold giveUp
  split
  · exact .refl l
  · rename_i p hget
    split
    · exact ⟨rfl,_,moves_release hget rfl rfl⟩
    · exact ⟨rfl,_,moves_release hget rfl rfl⟩

theorem quiet_flush (l : Lane) (countOverflow : Bool) (seqs : List Nat) :
    l.Quiet (l.flushPendingAsUnknown countOverflow seqs) :=
  Quiet.foldl (quiet_giveUp countOverflow) seqs l

variable (conf : Conf) (now : ℚ)

theorem quiet_enforceCap (l : Lane) : l.Quiet (l.enforcePendingContextCap conf) := by
  unfold enforcePendingContextCap
  dsimp only
  split
  · exact .refl l
  · exact l.quiet_flush true _

theorem quiet_expire (l : Lane) : l.Quiet (l.expirePendingContext conf now) := l.quiet_flush false _

theorem quiet_capContextMap (l : Lane) : l.Quiet (l.capContextMap conf) := by
  unfold capContextMap
  dsimp only
  split
  · exact .refl l
  · refine Quiet.foldl (fun l seq => ?_) _ l
    exact quiet_of_le rfl rfl le_rfl

theorem quiet_trim (l : Lane) : l.Quiet (l.trimContextMap conf now) := by
  unfold trimContextMap
  dsimp only
  generalize filterEntries _ _ = fresh
  have hfilter : l.Quiet { l with stream.contextBySeq := fresh } := quiet_of_le rfl rfl le_rfl
  exact hfilter.trans (quiet_capContextMap conf _)

theorem quiet_sweep (l : Lane) : l.Quiet (l.sweep conf now) :=
  ((l.quiet_enforceCap conf).trans (quiet_expire conf now _)).trans (quiet_trim conf now _)

def origin (last : Option Nat) (events : List ShmEvent) : Option Int :=
  (last.map fun (n : Nat) => (n : Int)).or (events.head?.map fun e => (e.seq-1 : Int))

theorem waiting_set (l : Lane) (event : ShmEvent) :
    Lane.waiting { l with
      stream.pendingBySeq := l.stream.pendingBySeq.set event.seq ⟨event,now⟩ } ≤
        l.waiting+([event.seq] : List Nat) := by
  obtain ⟨rest,hbefore,hafter⟩ := perm_flatMap_set l.stream.pendingBySeq
    (fun p => [p.event.seq]) event.seq ⟨event,now⟩
  rw [← map_eq_flatMap] at hbefore hafter
  rw [waiting,waiting,Multiset.coe_eq_coe.2 hbefore,Multiset.coe_eq_coe.2 hafter,Multiset.coe_add,
    Multiset.coe_le]
  refine (perm_append_comm.subperm).trans ?_
  exact (subperm_append_right _).2 (sublist_append_right _ _).subperm

theorem appendEvent_meters (l : Lane) (last : Option Nat) (dropped : Nat) (event : ShmEvent) :
    (Lane.appendEvent now (l,last,dropped) event).1.meters = (l.count fun c =>
        { c with seqGap := c.seqGap+last.elim 0 fun n => event.seq-n-1 }).meters := by
  unfold Lane.appendEvent
  dsimp only
  split
  · rfl
  · rfl

theorem appendEvent_moves (l : Lane) (last : Option Nat) (dropped : Nat) (event : ShmEvent) :
    ∃ new, l.Moves (Lane.appendEvent now (l,last,dropped) event).1 [event.seq] new := by
  unfold Lane.appendEvent
  dsimp only
  split
  · refine ⟨[event.seq],rfl,?_⟩
    exact (add_comm _ _).le
  · refine ⟨[],by simp [Lane.buffer,Lane.count,Lane.note],?_⟩
    rw [Multiset.coe_nil,zero_add]
    exact waiting_set now l event

theorem foldl_appendEvent (events : List ShmEvent) (hasc : events.Pairwise fun e e' => e.seq < e'.seq)
    (l : Lane) (last : Option Nat) (hlast : ∀ n ∈ last, ∀ e ∈ events, n < e.seq) (dropped : Nat) :
    ∃ missed new dropped', (events.foldl (Lane.appendEvent now) (l,last,dropped)).1.meters =
        (l.count fun c => { c with seqGap := c.seqGap+missed }).meters ∧
      (events.foldl (Lane.appendEvent now) (l,last,dropped)).2 =
        ((events.getLast?.map (·.seq)).or last,dropped') ∧
      l.Moves (events.foldl (Lane.appendEvent now) (l,last,dropped)).1 (events.map (·.seq)) new ∧
      (events = [] → missed = 0) ∧
      ∀ base n, origin last events = some base →
        (events.getLast?.map (·.seq)).or last = some n → (n-base : Int) = events.length+missed := by
  induction events generalizing l last dropped with
  | nil =>
    refine ⟨0,[],dropped,rfl,rfl,⟨by simp,by simp⟩,fun _ => rfl,fun base n hbase hn => ?_⟩
    simp only [getLast?_nil,map_none,none_or] at hn
    simp only [origin,hn,map_some,some_or,Option.some.injEq] at hbase
    simp [← hbase]
  | cons e rest ih =>
    obtain ⟨hhead,htail⟩ := pairwise_cons.1 hasc
    obtain ⟨first,hfirst⟩ := appendEvent_moves now l last dropped e
    have hmeters := appendEvent_meters now l last dropped e
    have hnext : ∀ n ∈ some e.seq, ∀ e' ∈ rest, n < e'.seq := by simpa using hhead
    rw [foldl_cons]
    have hresult : (Lane.appendEvent now (l,last,dropped) e).2 =
        (some e.seq,dropped+last.elim 0 fun n => e.seq-n-1) := rfl
    rcases hstep : Lane.appendEvent now (l,last,dropped) e with ⟨l₁,last₁,dropped₁⟩
    rw [hstep] at hfirst hmeters hresult
    obtain ⟨rfl,rfl⟩ := Prod.mk.inj hresult
    obtain ⟨missed,new,dropped',hmeters',hlast',hmoves,-,hfar⟩ := ih htail l₁ (some e.seq) hnext
      (dropped+last.elim 0 fun n => e.seq-n-1)
    have hgetLast : (((e :: rest).getLast?.map (·.seq)).or last) =
        ((rest.getLast?.map (·.seq)).or (some e.seq)) := by
      cases rest with
      | nil => simp
      | cons e' rest => simp [getLast?_cons]
    refine ⟨(last.elim 0 fun n => e.seq-n-1)+missed,first ++ new,dropped',?_,?_,hfirst.trans hmoves,
      by simp,?_⟩
    · simp only [meters,Lane.count,Prod.mk.injEq] at hmeters hmeters' ⊢
      obtain ⟨hreader,hring,hseq,hread,hgap,hstartup⟩ := hmeters'
      rw [hreader,hring,hseq,hread,hgap,hstartup]
      refine ⟨hmeters.1,hmeters.2.1,hmeters.2.2.1,hmeters.2.2.2.1,?_,hmeters.2.2.2.2.2⟩
      rw [hmeters.2.2.2.2.1,add_assoc]
    · rw [hlast',hgetLast]
    · intro base n hbase hn
      rw [hgetLast] at hn
      have hrest := hfar e.seq n (by simp [origin]) hn
      cases last with
      | none =>
        simp only [origin,map_none,none_or,head?_cons,map_some,Option.some.injEq] at hbase
        simp only [elim_none,length_cons]
        push_cast
        linarith
      | some m =>
        have hm := hlast m rfl e (by simp)
        simp only [origin,map_some,some_or,Option.some.injEq] at hbase
        simp only [elim_some,length_cons]
        push_cast
        omega

theorem foldl_appendEvent_resolved (events : List ShmEvent)
    (hasc : events.Pairwise fun e e' => e.seq < e'.seq) (l : Lane) (last : Option Nat) (dropped : Nat)
    (hknown : ∀ e ∈ events, l.stream.contextBySeq.get? e.seq ≠ none) :
    (events.foldl (Lane.appendEvent now) (l,last,dropped)).1.buffer.seq =
        l.buffer.seq ++ events.map (·.seq) ∧
      (events.foldl (Lane.appendEvent now) (l,last,dropped)).1.waiting = l.waiting := by
  induction events generalizing l last dropped with
  | nil => simp
  | cons e rest ih =>
    obtain ⟨hhead,htail⟩ := pairwise_cons.1 hasc
    obtain ⟨context,hcontext⟩ := ne_none_iff_exists'.1 (hknown e (by simp))
    have hstep : (Lane.appendEvent now (l,last,dropped) e).1.buffer.seq = l.buffer.seq ++ [e.seq] ∧
        (Lane.appendEvent now (l,last,dropped) e).1.waiting = l.waiting ∧
        (Lane.appendEvent now (l,last,dropped) e).1.stream.contextBySeq =
          l.stream.contextBySeq.erase e.seq := by
      simp only [Lane.appendEvent,Lane.count,Lane.note,hcontext]
      exact ⟨rfl,rfl,rfl⟩
    obtain ⟨hseqs,hwaiting,hmap⟩ := hstep
    rw [foldl_cons]
    rcases hstep : Lane.appendEvent now (l,last,dropped) e with ⟨l₁,last₁,dropped₁⟩
    rw [hstep] at hseqs hwaiting hmap
    have hrest : ∀ e' ∈ rest, l₁.stream.contextBySeq.get? e'.seq ≠ none := by
      intro e' he'
      rw [hmap,get?_erase_eq,if_neg (hhead e' he').ne']
      exact hknown e' (mem_cons_of_mem _ he')
    obtain ⟨hseqs',hwaiting'⟩ := ih htail l₁ last₁ dropped₁ hrest
    rw [hseqs',hwaiting',hseqs,hwaiting]
    simp

/-- These frames are read, and nothing else happens to the meters; frames that all have a context are
appended in order if none was waiting. -/
structure Reads (l l' : Lane) (events : List ShmEvent) (resolved : Prop) : Prop where
  ascending : events.Pairwise fun e e' => e.seq < e'.seq
  above : ∀ n ∈ l.stream.lastSeq, ∀ e ∈ events, n < e.seq
  moves : ∃ new, l.Moves l' (events.map (·.seq)) new
  meters : ∃ missed,
    l'.meters = (l.stream.reader,l.stream.ring,(events.getLast?.map (·.seq)).or l.stream.lastSeq,
      l.stream.counters.eventsRead+events.length,l.stream.counters.seqGap+missed,
      l.stream.counters.startupSeqGap) ∧
    (events = [] → missed = 0) ∧
    ∀ base n, origin l.stream.lastSeq events = some base → l'.stream.lastSeq = some n →
      (n-base : Int) = events.length+missed
  inOrder : resolved → l.waiting = 0 →
    l'.buffer.seq = l.buffer.seq ++ events.map (·.seq) ∧ l'.waiting = 0

theorem Quiet.still (h : l.Quiet l') (hwaiting : l.waiting = 0) :
    l'.buffer.seq = l.buffer.seq ∧ l'.waiting = 0 := by
  obtain ⟨-,new,hmoves⟩ := h
  have hnone : (new : Multiset Nat)+l'.waiting = 0 := by
    have hkept := hmoves.kept
    rwa [hwaiting,Multiset.coe_nil,zero_add,Multiset.le_zero] at hkept
  have hnew : (new : Multiset Nat) = 0 := Multiset.le_zero.1 (hnone ▸ Multiset.le_add_right _ _)
  have hwaiting' : l'.waiting = 0 := Multiset.le_zero.1 (hnone ▸ Multiset.le_add_left _ _)
  rw [Multiset.coe_eq_zero] at hnew
  exact ⟨by simpa [hnew] using hmoves.seqs,hwaiting'⟩

theorem Quiet.fields (h : l'.meters = l.meters) :
    l'.stream.reader = l.stream.reader ∧ l'.stream.ring = l.stream.ring ∧
      l'.stream.lastSeq = l.stream.lastSeq ∧
      l'.stream.counters.eventsRead = l.stream.counters.eventsRead ∧
      l'.stream.counters.seqGap = l.stream.counters.seqGap ∧
      l'.stream.counters.startupSeqGap = l.stream.counters.startupSeqGap := by
  simpa only [Lane.meters,Prod.mk.injEq] using h

theorem Quiet.reads (h : l.Quiet l') (resolved : Prop) : l.Reads l' [] resolved where
  ascending := .nil
  above := by simp
  moves := h.2
  inOrder _ hwaiting := by simpa using h.still hwaiting
  meters := by
    refine ⟨0,h.1,fun _ => rfl,fun base n hbase hn => ?_⟩
    rw [(Quiet.fields h.1).2.2.1] at hn
    simp only [origin,hn,map_some,some_or,Option.some.injEq] at hbase
    simp [← hbase]

variable {l l₁ l' : Lane}

theorem Reads.after {events : List ShmEvent} {resolved : Prop} (h : l.Quiet l₁)
    (hreads : l₁.Reads l' events resolved) : l.Reads l' events resolved where
  ascending := hreads.ascending
  above := by
    rw [← (Quiet.fields h.1).2.2.1]
    exact hreads.above
  inOrder hresolved hwaiting := by
    obtain ⟨hseqs,hstill⟩ := h.still hwaiting
    rw [← hseqs]
    exact hreads.inOrder hresolved hstill
  moves := by
    obtain ⟨hmeters,new,hmoves⟩ := h
    obtain ⟨new',hmoves'⟩ := hreads.moves
    exact ⟨new ++ new',hmoves.trans hmoves'⟩
  meters := by
    obtain ⟨hreader,hring,hlast,hread,hgap,hstartup⟩ := Quiet.fields h.1
    have hmeters := hreads.meters
    rwa [hreader,hring,hlast,hread,hgap,hstartup] at hmeters

theorem Reads.before {events : List ShmEvent} {resolved : Prop}
    (hreads : l.Reads l₁ events resolved) (h : l₁.Quiet l') : l.Reads l' events resolved where
  ascending := hreads.ascending
  above := hreads.above
  inOrder hresolved hwaiting := by
    obtain ⟨hseqs,hstill⟩ := hreads.inOrder hresolved hwaiting
    rw [← hseqs]
    exact h.still hstill
  moves := by
    obtain ⟨hmeters,new,hmoves⟩ := h
    obtain ⟨new',hmoves'⟩ := hreads.moves
    exact ⟨new' ++ new,by simpa using hmoves'.trans hmoves⟩
  meters := by
    obtain ⟨missed,hmeters,hnone,hfar⟩ := hreads.meters
    refine ⟨missed,h.1.trans hmeters,hnone,fun base n hbase hn => hfar base n hbase ?_⟩
    rw [← (Quiet.fields h.1).2.2.1]
    exact hn

theorem after_ascending (contents : RingContents) (last : Option Nat) :
    (contents.after last).Pairwise (fun e e' => e.seq < e'.seq) ∧
      ∀ n ∈ last, ∀ e ∈ contents.after last, n < e.seq := by
  refine ⟨contents.sorted.sublist filter_sublist,fun n hn e he => ?_⟩
  have hmem := (mem_filter.1 he).2
  rw [hn] at hmem
  simpa using hmem

theorem appendEvents_reads (l : Lane) (layout : Schema) (contents : RingContents) :
    l.Reads (l.appendEvents conf now layout (contents.after l.stream.lastSeq))
      (contents.after l.stream.lastSeq)
      (∀ e ∈ contents.after l.stream.lastSeq, l.stream.contextBySeq.get? e.seq ≠ none) := by
  obtain ⟨hasc,hlast⟩ := after_ascending contents l.stream.lastSeq
  generalize contents.after l.stream.lastSeq = events at hasc hlast
  let l₀ := l.count fun c => { c with eventsRead := c.eventsRead+events.length }
  obtain ⟨missed,new,dropped,hmeters,hresult,hmoves,hnone,hfar⟩ :=
    foldl_appendEvent now events hasc l₀ l.stream.lastSeq hlast l.stream.droppedTotal
  have hresolved := foldl_appendEvent_resolved now events hasc l₀ l.stream.lastSeq
    l.stream.droppedTotal
  unfold appendEvents
  refine Reads.before ?_ (quiet_sweep conf now _)
  change l.Reads { (events.foldl (appendEvent now) (l₀,l.stream.lastSeq,l.stream.droppedTotal)).1 with
    stream.lastSeq :=
      (events.foldl (appendEvent now) (l₀,l.stream.lastSeq,l.stream.droppedTotal)).2.1
    stream.droppedTotal :=
      (events.foldl (appendEvent now) (l₀,l.stream.lastSeq,l.stream.droppedTotal)).2.2
    stream.schema := _ } events _
  rw [hresult]
  generalize (events.foldl (appendEvent now) (l₀,l.stream.lastSeq,l.stream.droppedTotal)).1 = l₁ at *
  refine ⟨hasc,hlast,⟨new,hmoves.seqs,hmoves.kept⟩,⟨missed,?_,hnone,hfar⟩,fun hknown hwaiting => ?_⟩
  · obtain ⟨hreader,hring,-,hread,hgap,hstartup⟩ := Quiet.fields hmeters
    simp only [meters,hreader,hring,hread,hgap,hstartup,l₀,count]
  · obtain ⟨hseqs,hstill⟩ := hresolved hknown
    exact ⟨hseqs,hstill.trans hwaiting⟩

theorem takeEvents_reads (l : Lane) (layout : Schema) (contents : RingContents) :
    l.Reads (l.takeEvents conf now layout (some contents)) (contents.after l.stream.lastSeq)
      (∀ e ∈ contents.after l.stream.lastSeq, l.stream.contextBySeq.get? e.seq ≠ none) := by
  unfold takeEvents
  dsimp only
  split
  · rename_i hnone
    rw [hnone]
    exact ((quiet_expire conf now l).trans (quiet_trim conf now _)).reads _
  · exact appendEvents_reads conf now l layout contents

theorem ring_resetRuntimeState (l : Lane) : l.resetRuntimeState.stream.ring = l.stream.ring := by
  unfold resetRuntimeState discardBuffered
  dsimp only
  split
  · rfl
  · rfl

theorem withReader_reads (l : Lane) (i : ChunkInput) (reader : Reader) :
    ((l.withReader conf i.now i.chunk reader i.calls.drained).stream.reader = none ∧
      (l.withReader conf i.now i.chunk reader i.calls.drained).stream.ring = l.stream.ring) ∨
      l.Reads (l.withReader conf i.now i.chunk reader i.calls.drained) (l.framesWith i reader)
        (∀ e ∈ l.framesWith i reader,
          (l.announceContext i.now i.chunk).stream.contextBySeq.get? e.seq ≠ none) := by
  unfold withReader framesWith
  split
  · have hquiet := l.quiet_announceContext i.now i.chunk
    cases hdrained : i.calls.drained with
    | none =>
      refine .inl ⟨rfl,?_⟩
      rw [takeEvents,ring_resetRuntimeState]
      exact (Quiet.fields hquiet.1).2.1
    | some contents =>
      have hreads := takeEvents_reads conf i.now (l.announceContext i.now i.chunk) reader.info.layout
        contents
      rw [(Quiet.fields hquiet.1).2.2.1] at hreads
      exact .inr (hreads.after hquiet)
  · refine .inr (Quiet.reads (Quiet.trans (l.quiet_count _ ?_) (quiet_refuse _ _)) _)
    exact fun _ => ⟨rfl,rfl,rfl⟩

/-- The stream starts over: nothing waits or is buffered, and what the counter of gaps gets for the
numbers before the first is in the counter of startup gaps too. -/
structure StartsOver (l l' : Lane) (range : Option ChunkSequenceRange) : Prop where
  ring : l'.stream.ring = l.stream.ring+1
  lastSeq : l'.stream.lastSeq = range.map fun r => r.firstSeq-1
  eventsRead : l'.stream.counters.eventsRead = l.stream.counters.eventsRead
  gaps : l'.stream.counters.seqGap+l.stream.counters.startupSeqGap =
    l.stream.counters.seqGap+l'.stream.counters.startupSeqGap
  seqs : l'.buffer.seq = []
  waiting : l'.waiting = 0

theorem startsOver_attached (l : Lane) (reader : Reader) (session : Nat)
    (range : Option ChunkSequenceRange) :
    l.StartsOver (l.attached reader session (range.map (·.firstSeq))) range := by
  unfold attached discardBuffered
  cases range with
  | none =>
    dsimp only [map_none]
    split
    · exact ⟨rfl,rfl,rfl,rfl,rfl,rfl⟩
    · exact ⟨rfl,rfl,rfl,rfl,rfl,rfl⟩
  | some r =>
    dsimp only [map_some]
    split
    · split
      · exact ⟨rfl,rfl,rfl,by simp only [count,note]; omega,rfl,rfl⟩
      · exact ⟨rfl,rfl,rfl,by simp only [count,note]; omega,rfl,rfl⟩
    · split
      · exact ⟨rfl,rfl,rfl,rfl,rfl,rfl⟩
      · exact ⟨rfl,rfl,rfl,rfl,rfl,rfl⟩

theorem StartsOver.after {range : Option ChunkSequenceRange}
    (h : l₁.StartsOver l' range) (hquiet : l.Quiet l₁) : l.StartsOver l' range := by
  obtain ⟨-,hring,-,hread,hgap,hstartup⟩ := Quiet.fields hquiet.1
  refine ⟨?_,h.lastSeq,?_,?_,h.seqs,h.waiting⟩
  · rw [h.ring,hring]
  · rw [h.eventsRead,hread]
  · have hgaps := h.gaps
    rwa [hgap,hstartup] at hgaps

theorem quiet_seen (l : Lane) (c : ChunkReadyMessage) : l.Quiet (l.seen c) := by
  refine l.quiet_count _ fun k => ?_
  cases c.range with
  | none => exact ⟨rfl,rfl,rfl⟩
  | some range => exact ⟨rfl,rfl,rfl⟩

theorem located_cases (l : Lane) (i : ChunkInput) :
    (∃ reader, l.located i = (some reader,l.seen i.chunk)) ∨
    (∃ l', l.located i = (none,l') ∧ l.Quiet l') ∨
    ∃ reader l', l.located i = (some reader,l') ∧ l.StartsOver l' i.chunk.range := by
  unfold located ensureReader
  split
  · exact .inl ⟨_,rfl⟩
  have hseen := l.quiet_seen i.chunk
  split
  · refine .inr (.inl ⟨_,rfl,hseen.trans (quiet_count _ _ ?_)⟩)
    exact fun _ => ⟨rfl,rfl,rfl⟩
  · split
    · exact .inr (.inl ⟨_,rfl,hseen⟩)
    · refine .inr (.inl ⟨_,rfl,hseen.trans (quiet_count _ _ ?_)⟩)
      exact fun _ => ⟨rfl,rfl,rfl⟩
    · exact .inr (.inr ⟨_,_,rfl,(startsOver_attached _ _ _ i.chunk.range).after hseen⟩)

theorem handle_eq_match (l : Lane) (i : ChunkInput) (henabled : i.enabled = true) :
    l.handle conf i = match l.located i with
      | (none,l) => l.refuse i.chunk.range
      | (some reader,l) => l.withReader conf i.now i.chunk reader i.calls.drained := by
  exact if_pos henabled

theorem handle_enabled (l : Lane) (i : ChunkInput) (henabled : i.enabled = true) :
    ((l.handle conf i).stream.reader = none ∧ l.stream.ring ≤ (l.handle conf i).stream.ring) ∨
    l.Reads (l.handle conf i) (l.framesRead i) (∀ e ∈ l.framesRead i, ¬ l.Waits i e) ∨
    ∃ l', l.StartsOver l' i.chunk.range ∧
      l'.Reads (l.handle conf i) (l.framesRead i) (∀ e ∈ l.framesRead i, ¬ l.Waits i e) := by
  have hhandle := l.handle_eq_match conf i henabled
  rcases l.located_cases i with ⟨reader,hlocated⟩ | ⟨l',hlocated,hquiet⟩ | ⟨reader,l',hlocated,hstart⟩
  · have hseen := l.quiet_seen i.chunk
    simp only [hhandle,framesRead,henabled,hlocated,Waits]
    rcases (l.seen i.chunk).withReader_reads conf i reader with ⟨hnone,hring⟩ | hreads
    · exact .inl ⟨hnone,hring.ge⟩
    · exact .inr (.inl (hreads.after hseen))
  · simp only [hhandle,framesRead,henabled,hlocated]
    exact .inr (.inl (Quiet.reads (hquiet.trans (quiet_refuse _ _)) _))
  · simp only [hhandle,framesRead,henabled,hlocated,Waits]
    rcases l'.withReader_reads conf i reader with ⟨hnone,hring⟩ | hreads
    · exact .inl ⟨hnone,by rw [hring,hstart.ring]; exact Nat.le_succ _⟩
    · exact .inr (.inr ⟨l',hstart,hreads⟩)

def passTo (seq : Option Nat) (last : Option Nat) : Option Nat :=
  seq.elim last fun seq => some (last.elim seq fun last => max last seq)

/-- The stream passes over numbers up to this one, and has nothing in memory. -/
structure PassesBy (l l' : Lane) (seq : Option Nat) : Prop where
  meters : l'.meters = (l.stream.reader,l.stream.ring,passTo seq l.stream.lastSeq,
    l.stream.counters.eventsRead,l.stream.counters.seqGap,l.stream.counters.startupSeqGap)
  seqs : l'.buffer.seq = []
  waiting : l'.waiting = 0

theorem passesBy_disabledDevice (l : Lane) (seq : Option Nat) :
    l.PassesBy (l.disabledDevice seq) seq := by
  refine ⟨?_,rfl,rfl⟩
  cases seq with
  | none => rfl
  | some seq =>
    cases hlast : l.stream.lastSeq with
    | none => simp [meters,disabledDevice,passTo,hlast]
    | some last => simp [meters,disabledDevice,passTo,hlast]

theorem handle_disabled (l : Lane) (i : ChunkInput) (hdisabled : i.enabled = false) :
    l.PassesBy (l.handle conf i) (i.chunk.range.map (·.finalSeq)) := by
  have hhandle : l.handle conf i = ((l.seen i.chunk).refuse i.chunk.range).disabledDevice
      (i.chunk.range.map (·.finalSeq)) := by
    simp [handle,handleChunkReady,hdisabled]
  have hquiet := (l.quiet_seen i.chunk).trans (quiet_refuse _ i.chunk.range)
  have hpasses := passesBy_disabledDevice ((l.seen i.chunk).refuse i.chunk.range)
    (i.chunk.range.map (·.finalSeq))
  rw [hhandle]
  refine ⟨?_,hpasses.seqs,hpasses.waiting⟩
  obtain ⟨hreader,hring,hlast,hread,hgap,hstartup⟩ := Quiet.fields hquiet.1
  rw [hpasses.meters,hreader,hring,hlast,hread,hgap,hstartup]

end Lane

def Attachment.far (a : Attachment) (before : Lane) : Int :=
  let now := a.lane.stream.counters
  let old := before.stream.counters
  (now.eventsRead-old.eventsRead)+((now.seqGap-old.seqGap)-(now.startupSeqGap-old.startupSeqGap))+
    a.passed

namespace Attachment

structure Reckoned (before : Lane) (a : Attachment) : Prop where
  lastSeq : a.lane.stream.lastSeq.map (fun (n : Nat) => (n : Int)) = a.baseline.map (·+a.far before)
  unset : a.lane.stream.lastSeq = none → a.far before = 0

def held (a : Attachment) : Multiset Nat := (a.appended : Multiset Nat)+a.lane.waiting

structure Delivered (a : Attachment) : Prop where
  nodup : a.held.Nodup
  below : ∀ seq ∈ a.held, ∃ last ∈ a.lane.stream.lastSeq, seq ≤ last

/-- Nothing waits, and the frames were appended in their order. -/
def InOrder (a : Attachment) : Prop := a.lane.waiting = 0 ∧ a.appended.Pairwise (· < ·)

variable {before : Lane} {resolved : Prop} {events : List ShmEvent} {l : Lane} {a : Attachment}

theorem Reckoned.reads (h : a.Reckoned before) (hreads : a.lane.Reads l events resolved)
    (appended : List Nat) : Reckoned before ⟨l,appended,a.passed,
      a.baseline.or (events.head?.map fun e => (e.seq-1 : Int))⟩ := by
  obtain ⟨missed,hmeters,hnone,hmissed⟩ := hreads.meters
  simp only [Lane.meters,Prod.mk.injEq] at hmeters
  obtain ⟨-,-,hlast,hread,hgap,hstartup⟩ := hmeters
  have hfar (baseline : Option Int) :
      far ⟨l,appended,a.passed,baseline⟩ before = a.far before+(events.length+missed) := by
    simp only [far,hread,hgap,hstartup]
    omega
  have hreckoned := h.lastSeq
  cases hbefore : a.lane.stream.lastSeq with
  | none =>
    have hbaseline : a.baseline = none := by simpa [hbefore] using hreckoned
    have hzero := h.unset hbefore
    cases events with
    | nil =>
      have hunset : l.stream.lastSeq = none := by simpa [hbefore] using hlast
      exact ⟨by simp [hunset,hbaseline],fun _ => by simp [hfar,hzero,hnone rfl]⟩
    | cons e rest =>
      obtain ⟨n,hn⟩ : ∃ n, l.stream.lastSeq = some n := by
        simp [hlast,getLast?_cons]
      have hfirst := hmissed (e.seq-1) n (by simp [Lane.origin,hbefore]) hn
      refine ⟨?_,fun hunset => absurd (hn.symm.trans hunset) (by simp)⟩
      simp only [hn,hbaseline,hfar,hzero,map_some,none_or,head?_cons,Option.some.injEq]
      omega
  | some m =>
    obtain ⟨base,hbaseline,hm⟩ : ∃ base, a.baseline = some base ∧ base+a.far before = m := by
      simpa [hbefore,eq_comm] using hreckoned
    obtain ⟨n,hn⟩ : ∃ n, l.stream.lastSeq = some n := by
      rw [hlast,hbefore]
      cases events.getLast? <;> simp
    have hnext := hmissed m n (by simp [Lane.origin,hbefore]) hn
    refine ⟨?_,fun hunset => absurd (hn.symm.trans hunset) (by simp)⟩
    simp only [hn,hbaseline,hfar,map_some,some_or,Option.some.injEq]
    omega

theorem le_getLast (hasc : events.Pairwise fun e e' => e.seq < e'.seq)
    {e : ShmEvent} (he : e ∈ events) : ∃ last ∈ events.getLast?, e.seq ≤ last.seq := by
  obtain ⟨last,hlast⟩ : ∃ last, events.getLast? = some last := by
    rw [← isSome_iff_exists,getLast?_isSome]
    exact ne_nil_of_mem he
  obtain ⟨front,rfl⟩ := getLast?_eq_some_iff.1 hlast
  refine ⟨last,hlast,?_⟩
  rcases mem_append.1 he with hfront | hend
  · exact ((pairwise_append.1 hasc).2.2 e hfront last (by simp)).le
  · rw [mem_singleton.1 hend]

theorem Delivered.reads (h : a.Delivered)
    (hreads : a.lane.Reads l events resolved) (passed : Nat) (baseline : Option Int) :
    Delivered ⟨l,a.appended ++ l.buffer.seq.drop a.lane.buffer.seq.length,passed,baseline⟩ := by
  obtain ⟨new,hmoves⟩ := hreads.moves
  obtain ⟨missed,hmeters,-⟩ := hreads.meters
  simp only [Lane.meters,Prod.mk.injEq] at hmeters
  have hlast := hmeters.2.2.1
  have hheld : held ⟨l,a.appended ++ l.buffer.seq.drop a.lane.buffer.seq.length,passed,baseline⟩ ≤
      a.held+(events.map fun e => e.seq : List Nat) := by
    rw [hmoves.seqs,drop_left,held,held,← Multiset.coe_add,add_assoc,add_assoc]
    exact add_le_add le_rfl hmoves.kept
  have hread : (events.map (·.seq)).Nodup := by
    refine List.Pairwise.map _ (fun e e' hlt => ?_) hreads.ascending
    exact hlt.ne
  have hapart : Disjoint a.held (events.map fun e => e.seq : List Nat) := by
    rw [Multiset.disjoint_left]
    intro seq hseq hmem
    obtain ⟨last,hlast,hle⟩ := h.below seq hseq
    obtain ⟨e,he,rfl⟩ := mem_map.1 (Multiset.mem_coe.1 hmem)
    exact absurd (hreads.above last hlast e he) (by omega)
  have hnew : ∀ e ∈ events, ∃ n ∈ l.stream.lastSeq, e.seq ≤ n := by
    intro e he
    obtain ⟨last,hget,hle⟩ := le_getLast hreads.ascending he
    refine ⟨last.seq,?_,hle⟩
    rw [hlast,mem_def.1 hget]
    rfl
  have hold : ∀ n ∈ a.lane.stream.lastSeq, ∃ n' ∈ l.stream.lastSeq, n ≤ n' := by
    intro n hn
    cases hget : events.getLast? with
    | none => exact ⟨n,by rw [hlast,hget]; exact hn,le_rfl⟩
    | some last =>
      have hmem : last ∈ events := mem_of_getLast? hget
      exact ⟨last.seq,by rw [hlast,hget]; rfl,(hreads.above n hn last hmem).le⟩
  refine ⟨Multiset.nodup_of_le hheld ?_,fun seq hseq => ?_⟩
  · exact Multiset.nodup_add.2 ⟨h.nodup,Multiset.coe_nodup.2 hread,hapart⟩
  · rcases Multiset.mem_add.1 (Multiset.mem_of_le hheld hseq) with hmem | hmem
    · obtain ⟨n,hn,hle⟩ := h.below seq hmem
      obtain ⟨n',hn',hle'⟩ := hold n hn
      exact ⟨n',hn',hle.trans hle'⟩
    · obtain ⟨e,he,rfl⟩ := mem_map.1 (Multiset.mem_coe.1 hmem)
      exact hnew e he

theorem InOrder.reads (h : a.Delivered) (horder : a.InOrder)
    (hreads : a.lane.Reads l events resolved)
    (hresolved : resolved) (passed : Nat) (baseline : Option Int) :
    InOrder ⟨l,a.appended ++ l.buffer.seq.drop a.lane.buffer.seq.length,passed,baseline⟩ := by
  obtain ⟨hseqs,hwaiting⟩ := hreads.inOrder hresolved horder.1
  refine ⟨hwaiting,?_⟩
  rw [hseqs,drop_left,pairwise_append]
  refine ⟨horder.2,hreads.ascending.map _ fun e e' hlt => hlt,fun seq hseq seq' hseq' => ?_⟩
  obtain ⟨last,hlast,hle⟩ := h.below seq (Multiset.mem_add.2 (.inl hseq))
  obtain ⟨e,he,rfl⟩ := mem_map.1 hseq'
  exact hle.trans_lt (hreads.above last hlast e he)

theorem Reckoned.passesBy (h : a.Reckoned before) {i : ChunkInput} (hdisabled : i.enabled = false)
    (hpasses : a.lane.PassesBy l (i.chunk.range.map (·.finalSeq))) (appended : List Nat) :
    Reckoned before ⟨l,appended,a.passed+a.lane.passedBy i,
      a.baseline.or ((a.lane.firstNumber i).map fun (seq : Nat) => (seq-1 : Int))⟩ := by
  have hmeters := hpasses.meters
  simp only [Lane.meters,Prod.mk.injEq] at hmeters
  obtain ⟨-,-,hlast,hread,hgap,hstartup⟩ := hmeters
  have hfar (baseline : Option Int) :
      far ⟨l,appended,a.passed+a.lane.passedBy i,baseline⟩ before =
        a.far before+a.lane.passedBy i := by
    simp only [far,hread,hgap,hstartup]
    omega
  have hreckoned := h.lastSeq
  cases hrange : i.chunk.range with
  | none =>
    have hsame : l.stream.lastSeq = a.lane.stream.lastSeq := by simpa [hrange,Lane.passTo] using hlast
    have hpassed : a.lane.passedBy i = 0 := by simp [Lane.passedBy,hrange]
    have hfirst : a.lane.firstNumber i = none := by simp [Lane.firstNumber,hdisabled,hrange]
    refine ⟨?_,fun hunset => ?_⟩
    · rw [hfar]
      simpa [hpassed,hfirst,hsame] using hreckoned
    · rw [hfar]
      simpa [hpassed] using h.unset (hsame ▸ hunset)
  | some range =>
    cases hbefore : a.lane.stream.lastSeq with
    | none =>
      have hbaseline : a.baseline = none := by simpa [hbefore] using hreckoned
      have hn : l.stream.lastSeq = some range.finalSeq := by
        simpa [hrange,hbefore,Lane.passTo] using hlast
      refine ⟨?_,fun hunset => absurd (hn.symm.trans hunset) (by simp)⟩
      rw [hfar,h.unset hbefore]
      simp [hn,hbaseline,Lane.firstNumber,Lane.passedBy,hdisabled,hrange,hbefore]
    | some m =>
      obtain ⟨base,hbaseline,hm⟩ : ∃ base, a.baseline = some base ∧ base+a.far before = m := by
        simpa [hbefore,eq_comm] using hreckoned
      have hn : l.stream.lastSeq = some (max m range.finalSeq) := by
        simpa [hrange,hbefore,Lane.passTo] using hlast
      refine ⟨?_,fun hunset => absurd (hn.symm.trans hunset) (by simp)⟩
      have hpassed : a.lane.passedBy i = range.finalSeq-m := by
        simp [Lane.passedBy,hdisabled,hrange,hbefore]
      rw [hfar,hpassed]
      simp only [hn,hbaseline,map_some,some_or,Option.some.injEq]
      omega

theorem Delivered.passesBy (h : a.Delivered) {seq : Option Nat}
    (hpasses : a.lane.PassesBy l seq) (passed : Nat) (baseline : Option Int) :
    Delivered ⟨l,a.appended ++ l.buffer.seq.drop a.lane.buffer.seq.length,passed,baseline⟩ := by
  have hheld : held ⟨l,a.appended ++ l.buffer.seq.drop a.lane.buffer.seq.length,passed,baseline⟩ ≤
      a.held := by
    simpa [held,hpasses.seqs,hpasses.waiting] using Multiset.zero_le a.lane.waiting
  have hmeters := hpasses.meters
  simp only [Lane.meters,Prod.mk.injEq] at hmeters
  refine ⟨Multiset.nodup_of_le hheld h.nodup,fun n hn => ?_⟩
  obtain ⟨last,hlast,hle⟩ := h.below n (Multiset.mem_of_le hheld hn)
  rw [hmeters.2.2.1,mem_def.1 hlast]
  cases seq with
  | none => exact ⟨last,rfl,hle⟩
  | some seq => exact ⟨max last seq,rfl,by omega⟩

theorem InOrder.passesBy (h : a.InOrder) {seq : Option Nat}
    (hpasses : a.lane.PassesBy l seq) (passed : Nat) (baseline : Option Int) :
    InOrder ⟨l,a.appended ++ l.buffer.seq.drop a.lane.buffer.seq.length,passed,baseline⟩ := by
  refine ⟨hpasses.waiting,?_⟩
  simpa [hpasses.seqs] using h.2

variable (conf : Conf)

def Within (before : Lane) (a : Attachment) : Prop :=
  a.lane.stream.ring = before.stream.ring+1 ∧ a.lane.stream.reader ≠ none

def NoneWaits (a : Attachment) (input : LaneInput) : Prop :=
  match input with
  | .message i => ∀ e ∈ a.lane.framesRead i, ¬ a.lane.Waits i e
  | _ => True

/-- The attachment began at this state or is over, and what it holds while it lasts. -/
structure Follows (before : Lane) (a : Attachment) : Prop where
  later : before.stream.ring+1 ≤ a.lane.stream.ring
  sound : a.Within before → a.Reckoned before ∧ a.Delivered

theorem Reckoned.congr (h : a.Reckoned before)
    (hmeters : l.meters = a.lane.meters) (appended : List Nat) :
    Reckoned before ⟨l,appended,a.passed,a.baseline⟩ := by
  obtain ⟨-,-,hlast,hread,hgap,hstartup⟩ := Lane.Quiet.fields hmeters
  have hfar : far ⟨l,appended,a.passed,a.baseline⟩ before = a.far before := by
    simp only [far,hread,hgap,hstartup]
  refine ⟨?_,fun hunset => ?_⟩
  · rw [hfar]
    exact (congrArg _ hlast).trans h.lastSeq
  · rw [hfar]
    exact h.unset (hlast.symm.trans hunset)

theorem sound_startsOver {before l : Lane} {range : Option ChunkSequenceRange}
    (h : before.StartsOver l range) :
    Reckoned before ⟨l,[],0,range.map fun r => (r.firstSeq-1 : Int)⟩ ∧
      Delivered ⟨l,[],0,range.map fun r => (r.firstSeq-1 : Int)⟩ ∧
      InOrder ⟨l,[],0,range.map fun r => (r.firstSeq-1 : Int)⟩ := by
  have hgaps := h.gaps
  have hfar : far ⟨l,[],0,range.map fun r => (r.firstSeq-1 : Int)⟩ before = 0 := by
    simp only [far,h.eventsRead]
    omega
  have hheld : held ⟨l,[],0,range.map fun r => (r.firstSeq-1 : Int)⟩ = 0 := by
    simp [held,h.waiting]
  refine ⟨⟨?_,fun _ => hfar⟩,⟨by rw [hheld]; exact Multiset.nodup_zero,by simp [hheld]⟩,h.waiting,.nil⟩
  rw [hfar,h.lastSeq]
  cases range with
  | none => rfl
  | some r =>
    have hpositive := r.positive
    simp only [map_some,Option.some.injEq]
    omega

theorem Follows.begin (l : Lane) (i : ChunkInput)
    (hattached : (l.handle conf i).stream.ring = l.stream.ring+1) :
    (begin conf l i).Follows l ∧ ((∀ e ∈ l.framesRead i, ¬ l.Waits i e) →
      (begin conf l i).Within l → (begin conf l i).InOrder) := by
  cases henabled : i.enabled with
  | false =>
    have hmeters := (l.handle_disabled conf i henabled).meters
    simp only [Lane.meters,Prod.mk.injEq] at hmeters
    omega
  | true =>
    rcases l.handle_enabled conf i henabled with ⟨hnone,-⟩ | hreads | ⟨l',hstart,hreads⟩
    · exact ⟨⟨hattached.ge,fun h => absurd hnone h.2⟩,fun _ h => absurd hnone h.2⟩
    · obtain ⟨missed,hmeters,-⟩ := hreads.meters
      simp only [Lane.meters,Prod.mk.injEq] at hmeters
      omega
    · obtain ⟨hreckoned,hdelivered,horder⟩ := sound_startsOver hstart
      have hbegin : Attachment.begin conf l i = ⟨l.handle conf i,
          [] ++ (l.handle conf i).buffer.seq.drop l'.buffer.seq.length,0,
          (i.chunk.range.map fun r => (r.firstSeq-1 : Int)).or
            ((l.framesRead i).head?.map fun e => (e.seq-1 : Int))⟩ := by
        simp [Attachment.begin,hstart.seqs,Lane.firstNumber,henabled,Function.comp_def]
      rw [hbegin]
      exact ⟨⟨hattached.ge,fun _ => ⟨hreckoned.reads hreads _,hdelivered.reads hreads _ _⟩⟩,
        fun hresolved _ => horder.reads hdelivered hreads hresolved _ _⟩

theorem Follows.reads {a a' : Attachment} (h : a.Follows before)
    (hreads : a.lane.Reads a'.lane events resolved)
    (ha' : a' = ⟨a'.lane,a.appended ++ a'.lane.buffer.seq.drop a.lane.buffer.seq.length,a.passed,
      a.baseline.or (events.head?.map fun e => (e.seq-1 : Int))⟩) :
    a'.Follows before ∧
      ((a.Within before → a.InOrder) → resolved → a'.Within before → a'.InOrder) := by
  obtain ⟨missed,hmeters,-⟩ := hreads.meters
  simp only [Lane.meters,Prod.mk.injEq] at hmeters
  obtain ⟨hreader,hring,-⟩ := hmeters
  have hwithin : a'.Within before → a.Within before := fun hw => ⟨hring ▸ hw.1,hreader ▸ hw.2⟩
  refine ⟨⟨hring ▸ h.later,fun hw => ?_⟩,fun horder hresolved hw => ?_⟩
  · obtain ⟨hreckoned,hdelivered⟩ := h.sound (hwithin hw)
    rw [ha']
    exact ⟨hreckoned.reads hreads _,hdelivered.reads hreads _ _⟩
  · rw [ha']
    exact (horder (hwithin hw)).reads (h.sound (hwithin hw)).2 hreads hresolved _ _

theorem Follows.step (h : a.Follows before) (input : LaneInput) :
    (a.step conf input).Follows before ∧ ((a.Within before → a.InOrder) → a.NoneWaits input →
      (a.step conf input).Within before → (a.step conf input).InOrder) := by
  cases input with
  | message i =>
    cases henabled : i.enabled with
    | false =>
      have hpasses := a.lane.handle_disabled conf i henabled
      have hmeters := hpasses.meters
      simp only [Lane.meters,Prod.mk.injEq] at hmeters
      have hwithin : (a.step conf (.message i)).Within before → a.Within before := fun hw =>
        ⟨hmeters.2.1 ▸ hw.1,hmeters.1 ▸ hw.2⟩
      refine ⟨⟨hmeters.2.1 ▸ h.later,fun hw => ?_⟩,fun horder _ hw => ?_⟩
      · obtain ⟨hreckoned,hdelivered⟩ := h.sound (hwithin hw)
        exact ⟨hreckoned.passesBy henabled hpasses _,hdelivered.passesBy hpasses _ _⟩
      · exact (horder (hwithin hw)).passesBy hpasses _ _
    | true =>
      have hpassed : a.lane.passedBy i = 0 := by simp [Lane.passedBy,henabled]
      rcases a.lane.handle_enabled conf i henabled with ⟨hnone,hring⟩ | hreads | ⟨l',hstart,hreads⟩
      · exact ⟨⟨h.later.trans hring,fun hw => absurd hnone hw.2⟩,fun _ _ hw => absurd hnone hw.2⟩
      · refine h.reads hreads ?_
        simp [Attachment.step,hpassed,Lane.firstNumber,henabled,Function.comp_def]
      · obtain ⟨missed,hmeters,-⟩ := hreads.meters
        simp only [Lane.meters,Prod.mk.injEq] at hmeters
        have hring : (a.step conf (.message i)).lane.stream.ring = a.lane.stream.ring+1 :=
          hmeters.2.1.trans hstart.ring
        have hlater := h.later
        refine ⟨⟨by omega,fun hw => ?_⟩,fun _ _ hw => ?_⟩
        · have hsame := hw.1
          omega
        · have hsame := hw.1
          omega
  | sweep now =>
    have hlane : (a.step conf (.sweep now)).lane = a.lane.sweep conf now := by
      simp only [Attachment.step]
    have hreads := (a.lane.quiet_sweep conf now).reads True
    rw [← hlane] at hreads
    obtain ⟨hfollows,hordered⟩ := h.reads hreads (by simp [Attachment.step])
    exact ⟨hfollows,fun horder _ => hordered horder trivial⟩
  | taken =>
    refine ⟨⟨h.later,fun hw => ?_⟩,fun horder _ hw => horder hw⟩
    obtain ⟨hreckoned,hdelivered⟩ := h.sound hw
    have hsame : Lane.meters { a.lane with buf := none } = a.lane.meters := rfl
    exact ⟨hreckoned.congr hsame _,⟨hdelivered.nodup,hdelivered.below⟩⟩
  | cleared =>
    have hpasses := a.lane.passesBy_disabledDevice none
    have hdrop : (a.lane.disabledDevice none).buffer.seq.drop a.lane.buffer.seq.length = [] := by
      simp [hpasses.seqs]
    have hstep : a.step conf .cleared = ⟨a.lane.disabledDevice none,
        a.appended ++ (a.lane.disabledDevice none).buffer.seq.drop a.lane.buffer.seq.length,
        a.passed,a.baseline⟩ := by
      simp [Attachment.step,hdrop]
    rw [hstep]
    refine ⟨⟨h.later,fun hw => ?_⟩,fun horder _ hw => (horder hw).passesBy hpasses _ _⟩
    obtain ⟨hreckoned,hdelivered⟩ := h.sound hw
    exact ⟨hreckoned.congr hpasses.meters _,hdelivered.passesBy hpasses _ _⟩

theorem baseline_step {base : Int} (a : Attachment) (input : LaneInput)
    (h : a.baseline = some base) : (a.step conf input).baseline = some base := by
  cases input with
  | message i => simp [Attachment.step,h]
  | sweep now => simpa [Attachment.step] using h
  | taken => simpa [Attachment.step] using h
  | cleared => simpa [Attachment.step] using h

theorem follows_run (l : Lane) (i : ChunkInput)
    (hattached : (l.handle conf i).stream.ring = l.stream.ring+1) (rest : List LaneInput) :
    (run (step conf) (begin conf l i) rest).Follows l :=
  run_invariant (fun _ input h => (h.step conf input).1) (Follows.begin conf l i hattached).1 rest

/-- From the message that attaches a ring on, for as long as the attachment lasts: the last number is
the baseline and what was read, missed and passed over since; no frame is appended twice; and if none
waits, they are appended in the order of their numbers. The baseline is the number before the first of
that message, or before the first number that the stream gets where the message has none. -/
theorem gaps_counted (l : Lane) (i : ChunkInput)
    (hattached : (l.handle conf i).stream.ring = l.stream.ring+1) (rest : List LaneInput)
    (hwithin : (run (step conf) (begin conf l i) rest).Within l) :
    let a := run (step conf) (begin conf l i) rest
    (∀ last, a.lane.stream.lastSeq = some last →
      ∃ baseline, a.baseline = some baseline ∧ last-baseline = a.far l) ∧
    (∀ range, i.chunk.range = some range →
      a.baseline = some (range.firstSeq-1 : Int) ∧ a.lane.stream.lastSeq ≠ none) ∧
    a.appended.Nodup ∧
    ((∀ e ∈ l.framesRead i, ¬ l.Waits i e) → Meets (step conf) NoneWaits (begin conf l i) rest →
      a.appended.Pairwise (· < ·)) := by
  intro a
  obtain ⟨hreckoned,hdelivered⟩ := (follows_run conf l i hattached rest).sound hwithin
  have hlast := hreckoned.lastSeq
  refine ⟨fun last hsome => ?_,fun range hrange => ?_,?_,fun hfirst hmeets => ?_⟩
  · change a.lane.stream.lastSeq.map _ = a.baseline.map _ at hlast
    rw [hsome] at hlast
    obtain ⟨base,hbase,heq⟩ : ∃ base, a.baseline = some base ∧ base+a.far l = last := by
      simpa [eq_comm] using hlast
    exact ⟨base,hbase,by omega⟩
  · have hbase : a.baseline = some (range.firstSeq-1 : Int) := by
      refine run_invariant (fun a input h => baseline_step conf a input h) ?_ rest
      simp [begin,hrange]
    refine ⟨hbase,fun hnone => ?_⟩
    change a.lane.stream.lastSeq.map _ = a.baseline.map _ at hlast
    simp [hnone,hbase] at hlast
  · exact Multiset.coe_nodup.1 (Multiset.nodup_of_le (Multiset.le_add_right _ _) hdelivered.nodup)
  · obtain ⟨hfollows,horder⟩ := Follows.begin conf l i hattached
    have hrun := Meets.invariant (fun a input (h : a.Follows l ∧ (a.Within l → a.InOrder)) hnone =>
      ⟨(h.1.step conf input).1,(h.1.step conf input).2 h.2 hnone⟩) hmeets ⟨hfollows,horder hfirst⟩
    exact (hrun.2 hwithin).2

def frameInput (enabled : Bool) (seq : Nat) (hseq : 1 ≤ seq) : ChunkInput where
  now := 0
  enabled := enabled
  existing := []
  calls := ⟨some ⟨⟨⟨"<i4",4⟩,[],none⟩,8⟩,some ⟨[⟨seq,0,0,[],none⟩],by simp⟩⟩
  chunk := ⟨"camera","frames","ring",some ⟨seq,seq,hseq,le_rfl⟩,some 7,none⟩

def plainConf : Conf := ⟨1,100,100,100,1,fun _ _ => true⟩

theorem gaps_counted_two :
    let a := run (step plainConf) (begin plainConf ⟨.initial,none⟩ (frameInput true 3 (by decide)))
      [.message (frameInput true 6 (by decide))]
    a.appended = [3,6] ∧
      ∃ baseline, a.baseline = some baseline ∧ (6-baseline : Int) = a.far ⟨.initial,none⟩ :=
  ⟨by decide,(gaps_counted plainConf ⟨.initial,none⟩ (frameInput true 3 (by decide)) (by decide)
    [.message (frameInput true 6 (by decide))] ⟨by decide,by decide⟩).1 6 (by decide)⟩

theorem passed_disabled :
    let a := run (step plainConf) (begin plainConf ⟨.initial,none⟩ (frameInput true 3 (by decide)))
      [.message (frameInput false 6 (by decide))]
    let counters := a.lane.stream.counters
    a.Within ⟨.initial,none⟩ ∧ a.lane.stream.lastSeq = some 6 ∧ a.baseline = some 2 ∧
      (6-2 : Int) ≠ counters.eventsRead+(counters.seqGap-counters.startupSeqGap) :=
  ⟨⟨by decide,by decide⟩,by decide,by decide,by decide⟩

end Attachment

end ExperimentControl.Hdf

import ExperimentControl.Analysis.Feed

/-!
Contexts of frames: which context a frame is evaluated in, compared with the one that was announced
for it.
-/

namespace ExperimentControl.Analysis
open Lib OrderedDict List Service

section
variable {K : Kernels}

theorem Stream.rememberContextForSeq_get? {limit : Nat} {context c : Context K} {st : Stream K}
    {seq x : Int} (h : (st.rememberContextForSeq limit context seq).contextBySeq.get? x = some c) :
    x = seq ∧ c = context ∨ x ≠ seq ∧ st.contextBySeq.get? x = some c := by
  have hset := get?_iterate_popOldest _ _ x c h
  rw [get?_set] at hset
  split at hset
  · rename_i heq
    cases hset
    exact .inl ⟨heq,rfl⟩
  · rename_i hne
    exact .inr ⟨hne,get?_erase _ _ x c hset⟩

theorem Stream.rememberRange_get? {limit : Nat} {context c : Context K}
    {range : Option ChunkSequenceRange} {st : Stream K} {x : Int}
    (h : (st.rememberRange limit context range).contextBySeq.get? x = some c) :
    (∃ r ∈ range, r.firstSeq ≤ x ∧ x ≤ r.finalSeq) ∧ c = context ∨
      (¬ ∃ r ∈ range, r.firstSeq ≤ x ∧ x ≤ r.finalSeq) ∧ st.contextBySeq.get? x = some c := by
  cases range with
  | none => exact .inr ⟨by simp,h⟩
  | some range =>
    have hfold : ∀ (seqs : List Int) (st : Stream K),
        (seqs.foldl (Stream.rememberContextForSeq limit context) st).contextBySeq.get? x = some c →
        x ∈ seqs ∧ c = context ∨ x ∉ seqs ∧ st.contextBySeq.get? x = some c := by
      intro seqs
      induction seqs with
      | nil =>
        intro st hst
        exact .inr ⟨by simp,hst⟩
      | cons seq rest ih =>
        intro st hst
        cases ih _ hst with
        | inl hrest => exact .inl ⟨by simp [hrest.1],hrest.2⟩
        | inr hfirst =>
          cases Stream.rememberContextForSeq_get? hfirst.2 with
          | inl hnew => exact .inl ⟨by simp [hnew.1],hnew.2⟩
          | inr hold => exact .inr ⟨by simp [hold.1,hfirst.1],hold.2⟩
    have hmem := range.mem_seqs x
    cases hfold range.seqs st h with
    | inl hin => exact .inl ⟨⟨range,rfl,hmem.1 hin.1⟩,hin.2⟩
    | inr hout => exact .inr ⟨by simpa using fun hfirst hfinal => hout.1 (hmem.2 ⟨hfirst,hfinal⟩),hout.2⟩

structure Stream.Forgets (st st' : Stream K) : Prop where
  shmName : st'.shmName = st.shmName
  contexts : ∀ seq c, st'.contextBySeq.get? seq = some c → st.contextBySeq.get? seq = some c

variable (st : Stream K)

theorem Stream.Forgets.refl : st.Forgets st := ⟨rfl,fun _ _ h => h⟩

theorem Stream.Forgets.trans {st t u : Stream K} (h : st.Forgets t) (h' : t.Forgets u) :
    st.Forgets u :=
  ⟨h'.shmName.trans h.shmName,fun seq c hc => h.contexts seq c (h'.contexts seq c hc)⟩

theorem Stream.forgets_popContextForSeq (seq : Int) : st.Forgets (st.popContextForSeq seq).2 := by
  unfold Stream.popContextForSeq
  split
  · exact .refl st
  · exact ⟨rfl,fun x c h => get?_erase _ seq x c h⟩

theorem Stream.forgets_pruneContextCache (lastSeq : Int) :
    st.Forgets (st.pruneContextCache lastSeq) := by
  refine ⟨rfl,?_⟩
  intro seq c h
  simp only [Stream.pruneContextCache,get?_filterKeys] at h
  split at h
  · exact h
  · cases h

theorem Stream.forgets_store (latestSeq : Int) (current : Context K) :
    st.Forgets (st.store latestSeq current) :=
  ⟨rfl,(Stream.forgets_pruneContextCache { st with lastSeq := latestSeq } latestSeq).contexts⟩

def Service.Forgets (key : String × String) (s s' : Service K) : Prop :=
  ∀ st', s'.streams.get? key = some st' → (∀ seq, st'.contextBySeq.get? seq = none) ∨
    ∃ st, s.streams.get? key = some st ∧ st.Forgets st'

variable {key : String × String}

theorem Service.Forgets.of_streams {s s' : Service K}
    (h : ∀ st', s'.streams.get? key = some st' → s.streams.get? key = some st') :
    Forgets key s s' :=
  fun st' hst' => .inr ⟨st',h st' hst',.refl st'⟩

theorem Service.Forgets.trans {s t u : Service K} (h : Forgets key s t)
    (h' : Forgets key t u) : Forgets key s u := by
  intro st' hst'
  cases h' st' hst' with
  | inl hnone => exact .inl hnone
  | inr hold =>
    obtain ⟨st,hst,hforgets⟩ := hold
    cases h st hst with
    | inl hnone =>
      refine .inl ?_
      intro seq
      cases hseq : st'.contextBySeq.get? seq with
      | none => rfl
      | some c => simpa [hnone] using hforgets.contexts seq c hseq
    | inr holder =>
      obtain ⟨st₀,hst₀,hforgets₀⟩ := holder
      exact .inr ⟨st₀,hst₀,hforgets₀.trans hforgets⟩

variable (s : Service K)

theorem Service.forgets_resetChunkReaderState (key : String × String) :
    Forgets key s (s.resetChunkReaderState key) := by
  intro st' hst'
  simp [Service.resetChunkReaderState,get?_erase_eq] at hst'

theorem Service.forgets_withStream {α : Type} (key : String × String) (a : α)
    {f : Stream K → α × Stream K} (hf : ∀ st : Stream K, st.Forgets (f st).2) :
    Forgets key s (s.withStream key a f).2 := by
  cases hst : s.streams.get? key with
  | none => exact .of_streams (by simp [Service.withStream,hst])
  | some st =>
    rw [withStream_of_get? hst]
    intro st' hst'
    rw [streams_setStream] at hst'
    cases hst'
    exact .inr ⟨st,hst,hf st⟩

theorem Service.forgets_ensureReader (key : String × String) (shmName : String)
    (initialSeq : Option Int) (attach : Option Nat) :
    Forgets key s (s.ensureReader key shmName initialSeq attach).1 := by
  unfold Service.ensureReader
  split
  · exact .of_streams fun _ h => h
  · split
    · exact s.forgets_resetChunkReaderState key
    · intro st' hst'
      rw [streams_setStream] at hst'
      cases hst'
      exact .inl fun _ => rfl

variable {msg : ChunkMessage K}

theorem Service.forgets_prepareChunkReady
    {shmName : String} (hparts : msg.parts = some (key,shmName))
    (d : Delivery K) : Forgets key s (s.prepareChunkReady msg d).1 := by
  unfold Service.prepareChunkReady
  simp only [hparts]
  split
  · exact .of_streams fun _ h => h
  · split
    · exact .of_streams fun _ h => h
    · rename_i range _
      have hreader := s.forgets_ensureReader key shmName (range.map (·.firstSeq)) d.attach
      generalize s.ensureReader key shmName (range.map (·.firstSeq)) d.attach = result at hreader
      obtain ⟨t,reader⟩ := result
      cases reader with
      | none => exact hreader
      | some st =>
        simp only
        split
        · exact hreader.trans (t.forgets_resetChunkReaderState key)
        · exact hreader

theorem Service.forgets_loadChunkEvents (m : Prepared K)
    (ring : Option (RingContents K)) : Forgets m.key s (s.loadChunkEvents m ring).1 := by
  unfold Service.loadChunkEvents
  split
  · exact s.forgets_resetChunkReaderState m.key
  · simp only
    split
    · exact s.forgets_withStream m.key () fun st => st.forgets_pruneContextCache m.lastSeq
    · exact .of_streams fun _ h => h

theorem Progress.forgets_processEvent (m : Prepared K) (env : RingEvent K → Surroundings)
    (p : Progress K) (event : RingEvent K) (isLast : Bool) :
    Service.Forgets m.key p.service (p.processEvent m env event isLast).service := by
  have hresolve : Service.Forgets m.key p.service (p.resolve m event).2 :=
    p.service.forgets_withStream m.key Context.absent fun st => st.forgets_popContextForSeq event.seq
  unfold Progress.processEvent
  simp only
  split
  · exact hresolve
  · apply hresolve.trans
    apply Service.Forgets.of_streams
    intro st' hst'
    rwa [(processWorkspaces_frame _ _ _ _).2] at hst'

theorem Progress.forgets_processEvents (m : Prepared K) (env : RingEvent K → Surroundings)
    (p : Progress K) (events : List (RingEvent K)) :
    Service.Forgets m.key p.service (p.processEvents m env events).service := by
  induction events generalizing p with
  | nil => exact .of_streams fun _ h => h
  | cons event rest ih =>
    have hfirst := p.forgets_processEvent m env event rest.isEmpty
    unfold Progress.processEvents
    simp only
    split
    · exact hfirst
    · exact hfirst.trans (ih _)

theorem Service.forgets_handleEvents (m : Prepared K)
    (env : RingEvent K → Surroundings) (events : List (RingEvent K)) :
    Forgets m.key s (s.handleEvents m env events).service := by
  have hloop := (s.progress m).forgets_processEvents m env events
  unfold Service.handleEvents
  split
  · exact .of_streams fun _ h => h
  · simp only
    split
    · exact hloop
    · exact hloop.trans (forgets_withStream _ m.key () fun st => st.forgets_store _ _)

/-- What is remembered of the frames of a ring is what was announced for them. -/
def Service.Agrees (s : Service K)
    (announced : String × String → String → Int → Option (Context K)) : Prop :=
  ∀ key st, s.streams.get? key = some st → ∀ seq c, st.contextBySeq.get? seq = some c →
    announced key st.shmName seq = some c

variable {announced : String × String → String → Int → Option (Context K)}

theorem Service.Agrees.forgets {s s' : Service K} (h : s.Agrees announced)
    (htouches : Touches key s s') (hforgets : Forgets key s s') : s'.Agrees announced := by
  intro other st' hst' seq c hc
  by_cases hkey : other = key
  · subst hkey
    cases hforgets st' hst' with
    | inl hnone => simp [hnone] at hc
    | inr hold =>
      obtain ⟨st,hst,hfewer⟩ := hold
      rw [hfewer.shmName]
      exact h other st hst seq c (hfewer.contexts seq c hc)
  · rw [htouches.streams other hkey] at hst'
    exact h other st' hst' seq c hc

variable {m : Prepared K}

theorem Prepared.announce_other (hkey : key ≠ m.key)
    (announced : String × String → String → Int → Option (Context K)) (shmName : String)
    (seq : Int) : m.announce announced key shmName seq = announced key shmName seq := by
  simp [Prepared.announce,hkey]

theorem Service.Agrees.frames {s u : Service K} {d : Delivery K} {events : List (RingEvent K)}
    (h : s.Agrees announced)
    (hframes : s.frames msg d = (u,some (m,events))) : u.Agrees (m.announce announced) := by
  obtain ⟨t,hprepare,hload⟩ := frames_some hframes
  obtain ⟨hparts,_,_,_,st,hreader,_,_⟩ := prepareChunkReady_some hprepare
  obtain ⟨hname,hget,_⟩ := ensureReader_some hreader
  have htouches := (s.touches_prepareChunkReady hparts d).1
  have hforgets := s.forgets_prepareChunkReady hparts d
  rw [hprepare] at htouches hforgets
  have hagrees : t.Agrees announced := h.forgets htouches hforgets
  have hremembered : (t.withStream m.key () fun st =>
      ((),st.rememberRange t.settings.contextCacheLimit m.context m.range)).2.Agrees
        (m.announce announced) := by
    rw [withStream_of_get? hget]
    intro other st' hst' seq c hc
    by_cases hkey : other = m.key
    · subst hkey
      rw [streams_setStream] at hst'
      cases hst'
      rw [(st.rememberRange_sameCursor _ _ _).shmName,hname]
      cases Stream.rememberRange_get? hc with
      | inl hin =>
        obtain ⟨⟨r,hr,hrange⟩,rfl⟩ := hin
        simp only [Option.mem_def] at hr
        simp [Prepared.announce,hr,hrange]
      | inr hout =>
        have hold := hagrees m.key st hget seq c hout.2
        have hnot : m.range.any (fun r => r.firstSeq ≤ seq ∧ seq ≤ r.finalSeq) = false := by
          rw [Bool.eq_false_iff]
          intro hany
          simp only [Option.any_eq_true,decide_eq_true_eq] at hany
          exact hout.1 hany
        simp only [Prepared.announce,hnot]
        simpa [hname] using hold
    · rw [(t.touches_setStream m.key _).streams other hkey] at hst'
      rw [Prepared.announce_other hkey]
      exact hagrees other st' hst' seq c hc
  have hloaded := touches_loadChunkEvents (t.withStream m.key () fun st =>
    ((),st.rememberRange t.settings.contextCacheLimit m.context m.range)).2 m d.ring
  have hforgotten := forgets_loadChunkEvents (t.withStream m.key () fun st =>
    ((),st.rememberRange t.settings.contextCacheLimit m.context m.range)).2 m d.ring
  rw [hload] at hloaded hforgotten
  exact hremembered.forgets hloaded hforgotten

/-- The announced context of the frame is the one that is carried, or it is a context at all and is
remembered or stands in the message. -/
def Progress.Recalls (m : Prepared K)
    (announced : String × String → String → Int → Option (Context K)) (p : Progress K)
    (event : RingEvent K) : Prop :=
  ∀ c, announced m.key m.shmName event.seq = some c → c = p.current ∨
    c.isAbsent = false ∧ (m.msgSeq = some event.seq ∨
      ∃ st, p.service.streams.get? m.key = some st ∧ st.contextBySeq.contains event.seq = true)

def Progress.RecallsAll (m : Prepared K) (env : RingEvent K → Surroundings)
    (announced : String × String → String → Int → Option (Context K)) :
    Progress K → List (RingEvent K) → Prop
  | _,[] => True
  | p,event :: rest => (event.array.isSome = true → p.Recalls m announced event) ∧
      ((p.processEvent m env event rest.isEmpty).raised = none →
        (p.processEvent m env event rest.isEmpty).RecallsAll m env announced rest)

/-- The stream of the message is attached to its ring and remembers what was announced. -/
structure Progress.Attached (m : Prepared K)
    (announced : String × String → String → Int → Option (Context K)) (p : Progress K) : Prop where
  stream : ∃ st, p.service.streams.get? m.key = some st ∧ st.shmName = m.shmName ∧
    ∀ seq c, st.contextBySeq.get? seq = some c → announced m.key m.shmName seq = some c
  final : ∀ final, m.msgSeq = some final → announced m.key m.shmName final = some m.context

theorem Stream.popContextForSeq_fst (seq : Int) :
    (st.popContextForSeq seq).1 = (st.contextBySeq.get? seq).getD .absent := by
  unfold Stream.popContextForSeq
  split
  · rename_i hnone
    simp [hnone]
  · rename_i context hsome
    simp [hsome]

variable {p : Progress K}

theorem Progress.Attached.resolve_iff
    (h : p.Attached m announced) {event : RingEvent K} {c : Context K}
    (hc : announced m.key m.shmName event.seq = some c) :
    (p.resolve m event).1.1 = c ↔ c = p.current ∨ c.isAbsent = false ∧ (m.msgSeq = some event.seq ∨
        ∃ st, p.service.streams.get? m.key = some st ∧ st.contextBySeq.contains event.seq = true) := by
  obtain ⟨st,hst,_,hcache⟩ := h.stream
  have hstream : (∃ st, p.service.streams.get? m.key = some st ∧
      st.contextBySeq.contains event.seq = true) ↔ st.contextBySeq.contains event.seq = true := by
    simp [hst]
  rw [hstream]
  have hresolve : (p.resolve m event).1.1 = (resolveChunkEventContext
      ((st.contextBySeq.get? event.seq).getD .absent) event.seq m.msgSeq m.context p.current).1 := by
    unfold Progress.resolve
    rw [withStream_of_get? hst,← Stream.popContextForSeq_fst]
  rw [hresolve]
  simp only [resolveChunkEventContext,OrderedDict.contains]
  have hmessage : m.msgSeq = some event.seq → m.context = c := by
    intro hfinal
    have hannounced := h.final event.seq hfinal
    rw [hc] at hannounced
    exact (Option.some.inj hannounced).symm
  have hnone : (Context.absent : Context K).isAbsent = true := rfl
  have hcarried : p.current = c ↔ c = p.current := eq_comm
  cases hcached : st.contextBySeq.get? event.seq with
  | none =>
    by_cases hfinal : m.msgSeq = some event.seq
    · cases habsent : c.isAbsent with
      | true => simpa [hnone,hfinal,hmessage hfinal,habsent] using hcarried
      | false => simp [hnone,hfinal,hmessage hfinal,habsent]
    · simpa [hnone,hfinal] using hcarried
  | some cached =>
    have hsame : cached = c := by
      have hannounced := hcache event.seq cached hcached
      rw [hc] at hannounced
      exact (Option.some.inj hannounced).symm
    subst hsame
    cases habsent : cached.isAbsent with
    | true =>
      by_cases hfinal : m.msgSeq = some event.seq
      · simpa [hfinal,hmessage hfinal,habsent] using hcarried
      · simpa [hfinal,habsent] using hcarried
    | false => simp [habsent]

/-- A frame is in the context that was announced for it, as far as one was. -/
def Execution.Faithful (announced : String × String → String → Int → Option (Context K))
    (e : Execution K) : Prop :=
  ∀ c, announced e.stream e.shmName e.seq = some c → e.context = c

theorem Service.processWorkspaces_executed {s : Service K} {ids : List String} (hids : ids ≠ [])
    (henabled : s.Enabled ids) (shot : Shot K) (env : Surroundings) :
    (s.processWorkspaces shot env ids).executed ≠ [] := by
  cases ids with
  | nil => exact absurd rfl hids
  | cons id rest =>
    obtain ⟨w,hw,hrun⟩ := henabled id (by simp)
    simp only [Service.processWorkspaces,hw,hrun,if_true]
    generalize s.processWorkspace id w shot env = result
    obtain ⟨t,returned⟩ := result
    cases returned with
    | false => simp
    | true => simp

theorem Progress.Attached.processEvent
    (h : p.Attached m announced) (env : RingEvent K → Surroundings) (event : RingEvent K)
    (isLast : Bool) : (p.processEvent m env event isLast).Attached m announced := by
  obtain ⟨st,hst,hname,hcache⟩ := h.stream
  obtain ⟨st',hst',hsame⟩ := Progress.processEvent_stream hst env event isLast
  refine ⟨⟨st',hst',hsame.shmName.trans hname,?_⟩,h.final⟩
  intro seq c hc
  cases p.forgets_processEvent m env event isLast st' hst' with
  | inl hnone => simp [hnone] at hc
  | inr hold =>
    obtain ⟨old,hget,hforgets⟩ := hold
    rw [hst] at hget
    cases hget
    exact hcache seq c (hforgets.contexts seq c hc)

theorem Progress.Attached.processEvent_iff (h : p.Attached m announced) (hids : m.workspaceIds ≠ [])
    (henabled : p.service.Enabled m.workspaceIds) (env : RingEvent K → Surroundings)
    (event : RingEvent K) (isLast : Bool) :
    (∀ e ∈ (p.processEvent m env event isLast).executions, e.Faithful announced) ↔
      (∀ e ∈ p.executions, e.Faithful announced) ∧
        (event.array.isSome = true → p.Recalls m announced event) := by
  have htouches : Service.Touches m.key p.service (p.resolve m event).2 :=
    p.service.touches_withStream m.key Context.absent fun st => st.popContextForSeq event.seq
  unfold Progress.processEvent
  cases harray : event.array with
  | none => simp
  | some array =>
    have hexecuted := processWorkspaces_executed hids (htouches.sameGraphs.enabled henabled)
      (m.shot event (p.resolve m event).1.1 array isLast) (env event)
    simp only [forall_mem_append,forall_mem_map,Option.isSome_some,true_implies]
    refine and_congr_right fun _ => ?_
    constructor
    · intro hfaithful c hc
      obtain ⟨id,rest,heq⟩ := exists_cons_of_ne_nil hexecuted
      have hcontext := hfaithful id (by simp [heq]) c hc
      exact (h.resolve_iff hc).1 hcontext
    · intro hrecalls id _ c hc
      exact (h.resolve_iff hc).2 (hrecalls c hc)

theorem Progress.Attached.processEvents_iff
    (h : p.Attached m announced) (hids : m.workspaceIds ≠ [])
    (henabled : p.service.Enabled m.workspaceIds) (env : RingEvent K → Surroundings)
    (events : List (RingEvent K)) :
    (∀ e ∈ (p.processEvents m env events).executions, e.Faithful announced) ↔
      (∀ e ∈ p.executions, e.Faithful announced) ∧ p.RecallsAll m env announced events := by
  induction events generalizing p with
  | nil => simp [Progress.processEvents,Progress.RecallsAll]
  | cons event rest ih =>
    have hfirst := h.processEvent_iff hids henabled env event rest.isEmpty
    have htouches := p.touches_processEvent m env event rest.isEmpty
    unfold Progress.processEvents Progress.RecallsAll
    simp only
    cases hraised : (p.processEvent m env event rest.isEmpty).raised with
    | some id => simpa [hraised] using hfirst
    | none =>
      have hrest := ih (h.processEvent env event rest.isEmpty) (htouches.sameGraphs.enabled henabled)
      simp only [Option.isSome_none,Bool.false_eq_true,if_false,true_implies]
      rw [hrest,hfirst,and_assoc]

/-- The frames of the message are evaluated in the contexts that were announced for them. -/
def Feed.Faithful (f : Feed K) : Input K → Prop
  | .chunk msg d => f.ended = false → ∀ e ∈ (f.service.handleChunkReady msg d).executions,
      e.Faithful (f.handle msg d).announced
  | _ => True

def Feed.Recalls (f : Feed K) : Input K → Prop
  | .chunk msg d => f.ended = false → ∀ u m events, f.service.frames msg d = (u,some (m,events)) →
      (u.progress m).RecallsAll m d.env (m.announce f.announced) events
  | _ => True

theorem Service.Agrees.progress {s u : Service K} {d : Delivery K} {events : List (RingEvent K)}
    (h : s.Agrees announced)
    (hframes : s.frames msg d = (u,some (m,events))) (hevents : events ≠ []) :
    (u.progress m).Attached m (m.announce announced) := by
  obtain ⟨_,_,hreader,_,hsame,hthere⟩ := frames_stream hframes
  obtain ⟨st,hst⟩ := hthere hevents
  have hname : st.shmName = m.shmName :=
    (hsame st hst).shmName.trans (ensureReader_some hreader).1
  constructor
  · refine ⟨st,hst,hname,?_⟩
    intro seq c hc
    exact hname ▸ h.frames hframes m.key st hst seq c hc
  · intro final hfinal
    simp only [Prepared.msgSeq,Option.map_eq_some_iff] at hfinal
    obtain ⟨r,hr,rfl⟩ := hfinal
    simp [Prepared.announce,hr,r.ordered]

theorem Feed.faithful_iff {f : Feed K} (h : f.service.Indexed)
    (hagrees : f.service.Agrees f.announced) (i : Input K) : f.Faithful i ↔ f.Recalls i := by
  cases i with
  | edit e => exact Iff.rfl
  | reset id nodeId => exact Iff.rfl
  | chunk msg d =>
    refine forall_congr' fun _ => ?_
    cases hframes : f.service.frames msg d with
    | mk u frames =>
      cases frames with
      | none => simp [Service.handleChunkReady,hframes]
      | some e =>
        obtain ⟨m,events⟩ := e
        have hannounced : (f.handle msg d).announced = m.announce f.announced := by
          simp [Feed.handle,hframes]
        simp only [Service.handleChunkReady,hframes,hannounced,Prod.mk.injEq,Option.some.injEq]
        have hone : ∀ P : Service K → Prepared K → List (RingEvent K) → Prop,
            (∀ u' m' events', u = u' ∧ m = m' ∧ events = events' → P u' m' events') ↔ P u m events := by
          intro P
          constructor
          · intro hall
            exact hall u m events ⟨rfl,rfl,rfl⟩
          · intro hP u' m' events' heq
            obtain ⟨rfl,rfl,rfl⟩ := heq
            exact hP
        rw [hone]
        by_cases hevents : events = []
        · subst hevents
          simp [Service.handleEvents,Progress.RecallsAll]
        · obtain ⟨_,_,_,henabled⟩ := h.frames hframes
          obtain ⟨t,hprepare,_⟩ := frames_some hframes
          have hiff := (hagrees.progress hframes hevents).processEvents_iff
            (prepareChunkReady_subscribers hprepare) henabled d.env events
          have hexecutions : (u.handleEvents m d.env events).executions =
              ((u.progress m).processEvents m d.env events).executions := by
            simp only [Service.handleEvents,List.isEmpty_iff,hevents,if_false]
            split
            · rfl
            · rfl
          rw [hexecutions,hiff]
          simp [Service.progress]

theorem Feed.agrees_step {f : Feed K} (h : f.service.Agrees f.announced) (i : Input K) :
    (f.step i).service.Agrees (f.step i).announced := by
  unfold Feed.step
  split
  · exact h
  · cases i with
    | edit e => exact fun key st hst => h key st (edit_streams hst)
    | reset id nodeId =>
      intro key st hst
      simp only [reset_streams] at hst
      exact h key st hst
    | chunk msg d =>
      simp only [Feed.handle,Service.handleChunkReady]
      cases hparts : msg.parts with
      | none => simpa [Service.frames,Service.prepareChunkReady,hparts] using h
      | some e =>
        cases hframes : f.service.frames msg d with
        | mk u frames =>
          cases frames with
          | none =>
            have htouches := (f.service.touches_frames hparts d).1
            have hforgets := f.service.forgets_prepareChunkReady hparts d
            rw [hframes] at htouches
            rw [frames_none hframes] at hforgets
            exact h.forgets htouches hforgets
          | some e =>
            obtain ⟨m,events⟩ := e
            exact (h.frames hframes).forgets (u.touches_handleEvents m d.env events)
              (u.forgets_handleEvents m d.env events)

/-- In a run of edits, resets and messages, every frame is evaluated in the context that was
announced for it just if every announced context is the carried one or a context that is recalled. -/
theorem faithful_iff_recalls (settings : Settings) (inputs : List (Input K)) :
    Meets Feed.step Feed.Faithful (Feed.initial K settings) inputs ↔
      Meets Feed.step Feed.Recalls (Feed.initial K settings) inputs := by
  apply Meets.congr (P := fun f => f.service.Indexed ∧ f.service.Agrees f.announced)
  · intro f i h
    exact ⟨Feed.indexed_step h.1 i,Feed.agrees_step h.2 i⟩
  · intro f i h
    exact Feed.faithful_iff h.1 h.2 i
  · refine ⟨Feed.indexed settings [],?_⟩
    intro key st hst
    cases hst

end

def twoFrames : List (Input integers) :=
  [watch "w",.chunk (announce "ring" 1 ⟨some 7,none⟩) (delivery [1] (by simp) []),
    .chunk (announce "ring" 2 .absent) (delivery [1,2] (by simp) [])]

theorem context_carried_over :
    ¬ Meets Feed.step Feed.Faithful (Feed.initial integers noThrottle) twoFrames := by
  intro h
  obtain ⟨_,_,hsecond,_⟩ := h
  have hcontext := hsecond rfl _ (mem_singleton.2 rfl) .absent rfl
  exact absurd (congrArg Context.contextId hcontext) (by decide)

end ExperimentControl.Analysis

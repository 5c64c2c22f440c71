import ExperimentControl.Analysis.Isolation

/-!
The cursor of a stream: which frames of a ring the workspaces execute, over attachments, failed reads,
edits and the writes to the ring.
-/

namespace ExperimentControl.Analysis
open Lib List Option Service Prod

section
variable {K : Kernels}

theorem Service.processWorkspaces_sublist (s : Service K) (shot : Shot K) (env : Surroundings)
    (ids : List String) : (s.processWorkspaces shot env ids).executed.Sublist ids := by
  induction ids generalizing s with
  | nil => exact Sublist.refl []
  | cons id rest ih =>
    unfold Service.processWorkspaces
    cases hw : s.workspaces.get? id with
    | none => exact (ih s).cons id
    | some w =>
      simp only
      split
      · generalize s.processWorkspace id w shot env = result
        obtain ⟨t,returned⟩ := result
        cases returned with
        | false => simp
        | true => exact (ih t).cons_cons id
      · exact (ih s).cons id

/-- What the frames of a message add to the log, whether or not an exception escapes. -/
structure Prepared.Logs (m : Prepared K) (events : List (RingEvent K)) (log : List (Execution K)) :
    Prop where
  frames : (log.map Execution.frame).Sublist (events.flatMap m.executors)
  ring : ∀ e ∈ log, e.stream = m.key ∧ e.shmName = m.shmName

theorem Progress.processEvent_log (m : Prepared K) (env : RingEvent K → Surroundings)
    (p : Progress K) (event : RingEvent K) (isLast : Bool) :
    ∃ log, (p.processEvent m env event isLast).executions = p.executions ++ log ∧
      m.Logs [event] log := by
  unfold Progress.processEvent
  cases harray : event.array with
  | none => exact ⟨[],by simp,⟨by simp,by simp⟩⟩
  | some array =>
    refine ⟨_,rfl,⟨?_,?_⟩⟩
    · have hexecuted := processWorkspaces_sublist (p.resolve m event).2
        (m.shot event (p.resolve m event).1.1 array isLast) (env event) m.workspaceIds
      simpa [Prepared.executors,harray,Execution.frame,Function.comp_def] using
        hexecuted.map fun id => (id,event.seq)
    · intro e he
      obtain ⟨id,_,rfl⟩ := mem_map.1 he
      exact ⟨rfl,rfl⟩

theorem Progress.processEvents_log (m : Prepared K) (env : RingEvent K → Surroundings)
    (p : Progress K) (events : List (RingEvent K)) :
    ∃ log, (p.processEvents m env events).executions = p.executions ++ log ∧ m.Logs events log := by
  induction events generalizing p with
  | nil => exact ⟨[],by simp [Progress.processEvents],⟨by simp,by simp⟩⟩
  | cons event rest ih =>
    obtain ⟨first,hfirst,hlogs⟩ := p.processEvent_log m env event rest.isEmpty
    have hframes : (first.map Execution.frame).Sublist (m.executors event) := by
      simpa using hlogs.frames
    unfold Progress.processEvents
    simp only
    split
    · refine ⟨first,hfirst,⟨?_,hlogs.ring⟩⟩
      rw [flatMap_cons]
      exact hframes.trans (sublist_append_left _ _)
    · obtain ⟨more,hmore,hlogs'⟩ := ih (p.processEvent m env event rest.isEmpty)
      refine ⟨first ++ more,by rw [hmore,hfirst,append_assoc],⟨?_,?_⟩⟩
      · rw [map_append,flatMap_cons]
        exact hframes.append hlogs'.frames
      · intro e he
        cases mem_append.1 he with
        | inl hold => exact hlogs.ring e hold
        | inr hnew => exact hlogs'.ring e hnew

theorem Service.handleEvents_log (s : Service K) (m : Prepared K)
    (env : RingEvent K → Surroundings) (events : List (RingEvent K)) :
    m.Logs events (s.handleEvents m env events).executions := by
  unfold Service.handleEvents
  split
  · exact ⟨by simp,by simp⟩
  · obtain ⟨log,hlog,hlogs⟩ := (s.progress m).processEvents_log m env events
    simp only [Service.progress,nil_append] at hlog
    simp only
    split
    · rw [show s.progress m = ⟨s,m.lastSeq,_,[],none⟩ from rfl,hlog]
      exact hlogs
    · rw [show s.progress m = ⟨s,m.lastSeq,_,[],none⟩ from rfl,hlog]
      exact hlogs

end

section
variable (K : Kernels)

structure Ring where
  slotCount : Nat
  nextSeq : Int
  contents : RingContents K
  bounded : ∀ e ∈ contents.events, e.seq < nextSeq

structure Visit where
  attachFails : Bool
  readFails : Bool
  order : List String → List String
  order_perm : ∀ ids, (order ids).Perm ids
  env : RingEvent K → Surroundings

inductive Happening where
  | create (shmName : String) (slotCount : Nat)
  | write (shmName : String) (array : Option K.Array) (telemetry : K.Telemetry)
  | lose (shmName : String)
  | edit (edit : Edit K)
  | reset (id nodeId : Option String)
  | chunk (msg : ChunkMessage K) (visit : Visit K)

structure Rig where
  feed : Feed K
  rings : OrderedDict String (Ring K)
  held : List (Execution K)

end

section
variable {K : Kernels}

def Ring.create (slotCount : Nat) : Ring K := ⟨slotCount,1,⟨[],Pairwise.nil⟩,by simp⟩

def Ring.next (r : Ring K) (array : Option K.Array) (telemetry : K.Telemetry) : RingEvent K :=
  ⟨r.nextSeq,array,telemetry⟩

/-- The next frame, over the oldest one where all slots are taken. -/
def Ring.write (r : Ring K) (array : Option K.Array) (telemetry : K.Telemetry) : Ring K where
  slotCount := r.slotCount
  nextSeq := r.nextSeq+1
  contents :=
    ⟨(r.contents.events ++ [r.next array telemetry]).drop
        (r.contents.events.length+1-r.slotCount),by
      refine Pairwise.sublist (drop_sublist _ _) ?_
      rw [pairwise_append]
      refine ⟨r.contents.sorted,by simp,?_⟩
      intro a ha b hb
      simp only [mem_singleton] at hb
      subst hb
      exact r.bounded a ha⟩
  bounded e he := by
    have hmem := (drop_sublist _ _).subset he
    cases mem_append.1 hmem with
    | inl hold =>
      have hlt := r.bounded e hold
      omega
    | inr hnew =>
      simp only [mem_singleton] at hnew
      subst hnew
      exact Int.lt_succ r.nextSeq

def Ring.lose (r : Ring K) : Ring K where
  slotCount := r.slotCount
  nextSeq := r.nextSeq
  contents := ⟨r.contents.events.tail,r.contents.sorted.sublist (tail_sublist _)⟩
  bounded e he := r.bounded e (mem_of_mem_tail he)

def Rig.changeRing (r : Rig K) (shmName : String) (f : Ring K → Ring K) : Rig K :=
  match r.rings.get? shmName with
  | none => r
  | some ring => { r with rings := r.rings.set shmName (f ring) }

def Rig.delivery (r : Rig K) (msg : ChunkMessage K) (v : Visit K) : Delivery K where
  attach := if v.attachFails then none else (msg.shmName.bind r.rings.get?).map (·.slotCount)
  ring := if v.readFails then none else (msg.shmName.bind r.rings.get?).map (·.contents)
  order := v.order
  order_perm := v.order_perm
  env := v.env

def Rig.stillHeld (r : Rig K) (msg : ChunkMessage K) (v : Visit K) : List (Execution K) :=
  match (r.feed.service.frames msg (r.delivery msg v)).2 with
  | some (m,_) => if v.readFails then r.held.filter fun e => e.stream ≠ m.key else r.held
  | none => r.held

def Rig.step (r : Rig K) (h : Happening K) : Rig K :=
  if r.feed.ended then r
  else match h with
    | .create shmName slotCount =>
      if r.rings.contains shmName then r
      else { r with rings := r.rings.set shmName (Ring.create slotCount) }
    | .write shmName array telemetry => r.changeRing shmName fun ring => ring.write array telemetry
    | .lose shmName => r.changeRing shmName Ring.lose
    | .edit e =>
      { r with
        feed := r.feed.step (.edit e)
        held := r.held.filter fun x =>
          decide ((r.feed.service.edit e).Subscribed x.stream x.workspaceId) }
    | .reset id nodeId => { r with feed := r.feed.step (.reset id nodeId) }
    | .chunk msg v =>
      { r with
        feed := r.feed.step (.chunk msg (r.delivery msg v))
        held := r.stillHeld msg v ++
          (r.feed.service.handleChunkReady msg (r.delivery msg v)).executions }

def Rig.initial (K : Kernels) (settings : Settings) : Rig K := ⟨.initial K settings,.empty,[]⟩

def Execution.Before (a b : Execution K) : Prop :=
  a.workspaceId = b.workspaceId → a.stream = b.stream → a.shmName = b.shmName → a.seq < b.seq

/-- Each workspace executed the frames of each ring in their order, and each at most once. -/
def Feed.InOrder (f : Feed K) : Prop := f.executions.Pairwise Execution.Before

def Feed.After (f : Feed K) (key : String × String) (shmName id : String) (seq : Int) : Prop :=
  ∀ e ∈ f.executions, e.workspaceId = id → e.stream = key → e.shmName = shmName → e.seq < seq

/-- A message that fits its ring, is read and is handled to its end: the workspaces that stayed
subscribed since they executed a frame of the ring execute all that follow in it, up to the final one
that is announced. -/
def Rig.CatchesUp (r : Rig K) : Happening K → Prop
  | .chunk msg v => r.feed.ended = false → (r.step (.chunk msg v)).feed.ended = false →
      v.readFails = false → ∀ key shmName ring range, msg.parts = some (key,shmName) →
      r.rings.get? shmName = some ring →
      parseChunkSequenceRange msg (some ring.slotCount) = .ok range →
      ∀ e ∈ r.held, e.stream = key → e.shmName = shmName →
      ∀ x ∈ ring.contents.events, x.array.isSome = true → r.feed.After key shmName e.workspaceId x.seq →
      (∀ final ∈ range.map (·.finalSeq), x.seq ≤ final) →
      ∃ y ∈ (r.step (.chunk msg v)).feed.executions, y.workspaceId = e.workspaceId ∧ y.stream = key ∧
        y.shmName = shmName ∧ y.seq = x.seq
  | _ => True

/-- Reading on after this frame repeats none that was executed and, for the workspaces that stayed
subscribed, leaves none out. -/
structure Rig.ReadsOn (r : Rig K) (key : String × String) (shmName : String) (lastSeq : Int)
    (ring : Ring K) : Prop where
  executed : ∀ e ∈ r.feed.executions, e.stream = key → e.shmName = shmName → e.seq ≤ lastSeq
  missed : ∀ e ∈ r.held, e.stream = key → e.shmName = shmName → lastSeq < ring.nextSeq ∧
    ∀ x ∈ ring.contents.events, x.array.isSome = true →
      r.feed.After key shmName e.workspaceId x.seq → lastSeq < x.seq

/-- Where a message attaches its ring, it reads on from its own first frame as the ring was read
before; and the ring can be attached while a workspace stays subscribed that read it. -/
def Rig.Resumes (r : Rig K) : Happening K → Prop
  | .chunk msg v => r.feed.ended = false → ∀ key shmName ring range,
      msg.parts = some (key,shmName) → r.rings.get? shmName = some ring →
      parseChunkSequenceRange msg (some ring.slotCount) = .ok range →
      (∀ st, r.feed.service.streams.get? key = some st → st.shmName ≠ shmName) →
      (v.attachFails = true → ∀ e ∈ r.held, e.stream = key → e.shmName ≠ shmName) ∧
        (v.attachFails = false →
          r.ReadsOn key shmName (max 0 ((range.map (·.firstSeq)).getD 1-1)) ring)
  | _ => True

/-- While the process runs, every stream that is attached reads on from its cursor. -/
structure Rig.Follows (r : Rig K) : Prop where
  subscribed : ∀ e ∈ r.held, r.feed.service.Subscribed e.stream e.workspaceId
  streams : ∀ key st, r.feed.service.streams.get? key = some st →
    ∃ ring, r.rings.get? st.shmName = some ring ∧ st.slotCount = ring.slotCount ∧
      r.ReadsOn key st.shmName st.lastSeq ring

structure Rig.Sound (r : Rig K) : Prop where
  indexed : r.feed.service.Indexed
  inOrder : r.feed.InOrder
  follows : r.feed.ended = false → r.Follows

/-- The ring after some more writes: frames that were read are kept or lost, and others are new. -/
structure Ring.Later (ring ring' : Ring K) : Prop where
  slotCount : ring'.slotCount = ring.slotCount
  nextSeq : ring.nextSeq ≤ ring'.nextSeq
  events : ∀ x ∈ ring'.contents.events, x ∈ ring.contents.events ∨ ring.nextSeq ≤ x.seq

variable (ring : Ring K)

theorem Ring.Later.refl : ring.Later ring :=
  ⟨rfl,Int.le_refl _,fun _ hx => .inl hx⟩

theorem Ring.later_write (array : Option K.Array) (telemetry : K.Telemetry) :
    ring.Later (ring.write array telemetry) where
  slotCount := rfl
  nextSeq := by simp [Ring.write]
  events x hx := by
    cases mem_append.1 ((drop_sublist _ _).subset hx) with
    | inl hold => exact .inl hold
    | inr hnew =>
      simp only [mem_singleton] at hnew
      exact .inr (hnew ▸ Int.le_refl _)

theorem Ring.later_lose : ring.Later ring.lose :=
  ⟨rfl,Int.le_refl _,fun _ hx => .inl (mem_of_mem_tail hx)⟩

variable {shmName : String} {key : String × String} {r r' : Rig K}

theorem Rig.ReadsOn.later {lastSeq : Int}
    {ring ring' : Ring K} (h : r.ReadsOn key shmName lastSeq ring)
    (hexecutions : r'.feed.executions = r.feed.executions) (hheld : ∀ e ∈ r'.held, e ∈ r.held)
    (hlater : ring.Later ring') : r'.ReadsOn key shmName lastSeq ring' where
  executed e he := h.executed e (hexecutions ▸ he)
  missed e he hkey hname := by
    obtain ⟨hnext,hmissed⟩ := h.missed e (hheld e he) hkey hname
    have hnextSeq := hlater.nextSeq
    refine ⟨by omega,?_⟩
    intro x hx harray hafter
    cases hlater.events x hx with
    | inl hold =>
      refine hmissed x hold harray ?_
      intro y hy
      exact hafter y (hexecutions ▸ hy)
    | inr hnew => omega

theorem Rig.Follows.later (h : r.Follows)
    (hstreams : ∀ key st, r'.feed.service.streams.get? key = some st →
      r.feed.service.streams.get? key = some st)
    (hexecutions : r'.feed.executions = r.feed.executions) (hheld : ∀ e ∈ r'.held, e ∈ r.held)
    (hrings : ∀ name ring, r.rings.get? name = some ring →
      ∃ ring', r'.rings.get? name = some ring' ∧ ring.Later ring')
    (hsubscribed : ∀ e ∈ r'.held, r'.feed.service.Subscribed e.stream e.workspaceId) :
    r'.Follows where
  subscribed := hsubscribed
  streams key st hst := by
    obtain ⟨ring,hring,hslots,hreads⟩ := h.streams key st (hstreams key st hst)
    obtain ⟨ring',hring',hlater⟩ := hrings st.shmName ring hring
    exact ⟨ring',hring',hslots.trans hlater.slotCount.symm,hreads.later hexecutions hheld hlater⟩

variable {ring : Ring K}

theorem Rig.changeRing_later (r : Rig K) (shmName : String) {f : Ring K → Ring K}
    (hf : ∀ ring : Ring K, ring.Later (f ring)) {name : String}
    (hring : r.rings.get? name = some ring) :
    ∃ ring', (r.changeRing shmName f).rings.get? name = some ring' ∧ ring.Later ring' := by
  unfold Rig.changeRing
  split
  · exact ⟨ring,hring,.refl ring⟩
  · rename_i changed hchanged
    simp only [OrderedDict.get?_set]
    by_cases hname : name = shmName
    · subst hname
      rw [hring] at hchanged
      cases hchanged
      exact ⟨f ring,by simp,hf ring⟩
    · exact ⟨ring,by simp [hname,hring],.refl ring⟩

theorem Rig.changeRing_feed (r : Rig K) (shmName : String) (f : Ring K → Ring K) :
    (r.changeRing shmName f).feed = r.feed ∧ (r.changeRing shmName f).held = r.held := by
  unfold Rig.changeRing
  split
  · exact ⟨rfl,rfl⟩
  · exact ⟨rfl,rfl⟩

variable {r : Rig K}

theorem Rig.Sound.changeRing (h : r.Sound) (shmName : String) {f : Ring K → Ring K}
    (hf : ∀ ring : Ring K, ring.Later (f ring)) : (r.changeRing shmName f).Sound := by
  obtain ⟨hfeed,hheld⟩ := r.changeRing_feed shmName f
  constructor
  · exact hfeed ▸ h.indexed
  · exact hfeed ▸ h.inOrder
  · intro hrunning
    rw [hfeed] at hrunning
    refine (h.follows hrunning).later (by simp [hfeed]) (by rw [hfeed]) (by simp [hheld])
      (fun name ring hring => r.changeRing_later shmName hf hring) ?_
    intro e he
    rw [hheld] at he
    exact hfeed ▸ (h.follows hrunning).subscribed e he

theorem Rig.Sound.create (h : r.Sound)
    (hfresh : r.rings.contains shmName = false) (slotCount : Nat) :
    { r with rings := r.rings.set shmName (Ring.create slotCount) }.Sound where
  indexed := h.indexed
  inOrder := h.inOrder
  follows hrunning := by
    refine (h.follows hrunning).later (fun _ _ hst => hst) rfl (fun _ he => he) ?_
      (h.follows hrunning).subscribed
    intro name ring hring
    have hother : name ≠ shmName := by
      intro hname
      rw [OrderedDict.contains,← hname,hring] at hfresh
      cases hfresh
    exact ⟨ring,by simp [hother,hring],.refl ring⟩

theorem Rig.Sound.edit (h : r.Sound) (hrunning : r.feed.ended = false) (e : Edit K) :
    (r.step (.edit e)).Sound := by
  simp only [Rig.step,Feed.step,hrunning,Bool.false_eq_true,if_false]
  constructor
  · exact h.indexed.edit e
  · exact h.inOrder
  · intro _
    refine (h.follows hrunning).later (fun _ _ hst => edit_streams hst) rfl ?_
      (fun _ ring hring => ⟨ring,hring,.refl ring⟩) ?_
    · intro x hx
      exact (mem_filter.1 hx).1
    · intro x hx
      simpa using (mem_filter.1 hx).2

theorem Rig.Sound.reset (h : r.Sound) (hrunning : r.feed.ended = false)
    (id nodeId : Option String) : (r.step (.reset id nodeId)).Sound := by
  simp only [Rig.step,Feed.step,hrunning,Bool.false_eq_true,if_false]
  have hsame := r.feed.service.reset_sameGraphs id nodeId
  constructor
  · exact h.indexed.of_same hsame
  · exact h.inOrder
  · intro _
    refine (h.follows hrunning).later ?_ rfl (fun _ he => he)
      (fun _ ring hring => ⟨ring,hring,.refl ring⟩) ?_
    · intro key st hst
      simpa only [reset_streams] using hst
    · intro x hx
      exact (hsame.subscribed x.stream x.workspaceId).2 ((h.follows hrunning).subscribed x hx)

variable {msg : ChunkMessage K}

theorem ChunkMessage.shmName_of_parts
    (h : msg.parts = some (key,shmName)) : msg.shmName = some shmName := by
  unfold ChunkMessage.parts at h
  split at h
  · rename_i hname
    cases h
    exact hname
  · cases h

variable {m : Prepared K} {events : List (RingEvent K)} {u : Service K} {v : Visit K}

theorem Rig.Follows.readsOn (h : r.Follows) (hrunning : r.feed.ended = false)
    (hok : r.Resumes (.chunk msg v))
    (hframes : r.feed.service.frames msg (r.delivery msg v) = (u,some (m,events))) :
    ∃ ring, r.rings.get? m.shmName = some ring ∧ r.ReadsOn m.key m.shmName m.lastSeq ring ∧
      ∀ st', u.streams.get? m.key = some st' →
        st'.shmName = m.shmName ∧ st'.slotCount = ring.slotCount ∧ st'.lastSeq = m.lastSeq := by
  obtain ⟨t,hprepare,_⟩ := frames_some hframes
  obtain ⟨hparts,_,_,_,st,hreader,hlast,hfits⟩ := prepareChunkReady_some hprepare
  obtain ⟨t',st₁,hreader',_,hsame,_⟩ := frames_stream hframes
  rw [hreader] at hreader'
  cases hreader'
  obtain ⟨hname,hget,hcase⟩ := ensureReader_some hreader
  suffices hring : ∃ ring, r.rings.get? m.shmName = some ring ∧ st.slotCount = ring.slotCount ∧
      r.ReadsOn m.key m.shmName m.lastSeq ring by
    obtain ⟨ring,hring,hslots,hreads⟩ := hring
    refine ⟨ring,hring,hreads,?_⟩
    intro st' hst'
    have hcursor := hsame st' hst'
    exact ⟨hcursor.shmName.trans hname,hcursor.slotCount.trans hslots,
      hcursor.lastSeq.trans hlast.symm⟩
  cases hcase with
  | inl hattached =>
    subst hattached
    obtain ⟨ring,hring,hslots,hreads⟩ := h.streams m.key st hget
    exact ⟨ring,hname ▸ hring,hslots,hname ▸ hlast ▸ hreads⟩
  | inr hnew =>
    obtain ⟨slotCount,hattach,hst,_,hother⟩ := hnew
    simp only [Rig.delivery,ChunkMessage.shmName_of_parts hparts,bind_some] at hattach
    split at hattach
    · cases hattach
    · rename_i hattaches
      obtain ⟨ring,hring,hslots⟩ := map_eq_some_iff.1 hattach
      have hslotCount : st.slotCount = ring.slotCount := by rw [hst,hslots,Stream.attached]
      have hstart : m.lastSeq = max 0 ((m.range.map (·.firstSeq)).getD 1-1) := by
        rw [hlast,hst,Stream.attached]
      refine ⟨ring,hring,hslotCount,?_⟩
      rw [hstart]
      exact (hok hrunning m.key m.shmName ring m.range hparts hring (hslotCount ▸ hfits) hother).2
        (by simpa using hattaches)

theorem Rig.Sound.refused (h : r.Sound) (hrunning : r.feed.ended = false)
    (hframes : r.feed.service.frames msg (r.delivery msg v) = (u,none)) :
    (r.step (.chunk msg v)).Sound := by
  have hprepare := frames_none hframes
  have hhandle : r.feed.service.handleChunkReady msg (r.delivery msg v) = ⟨u,[],none⟩ := by
    simp [Service.handleChunkReady,hframes]
  have hsame : r.feed.service.SameGraphs u := by
    cases hparts : msg.parts with
    | none =>
      simp only [Service.prepareChunkReady,hparts,Prod.mk.injEq,and_true] at hprepare
      exact hprepare ▸ .refl _
    | some e =>
      have htouches := (r.feed.service.touches_prepareChunkReady hparts (r.delivery msg v)).1
      rw [hprepare] at htouches
      exact htouches.sameGraphs
  have hstep : r.step (.chunk msg v) =
      { r with feed := { r.feed with service := u } } := by
    simp [Rig.step,Feed.step,hrunning,Feed.handle,hhandle,hframes,Rig.stillHeld]
  rw [hstep]
  constructor
  · exact h.indexed.of_same hsame
  · exact h.inOrder
  · intro _
    refine (h.follows hrunning).later ?_ rfl (fun _ he => he)
      (fun _ ring hring => ⟨ring,hring,.refl ring⟩) ?_
    · exact fun key st hst => prepareChunkReady_none hprepare hst
    · exact fun e he => (hsame.subscribed _ _).2 ((h.follows hrunning).subscribed e he)

variable {log : List (Execution K)}

theorem Prepared.Logs.mem (h : m.Logs events log) {e : Execution K} (he : e ∈ log) :
    e.workspaceId ∈ m.workspaceIds ∧ ∃ event ∈ events, e.seq = event.seq := by
  have hframe := h.frames.subset (mem_map_of_mem he)
  obtain ⟨event,hevent,hmem⟩ := mem_flatMap.1 hframe
  obtain ⟨_,hid,hseq⟩ := mem_executors.1 hmem
  exact ⟨hid,event,hevent,hseq⟩

theorem Rig.step_accepted (hrunning : r.feed.ended = false)
    (hframes : r.feed.service.frames msg (r.delivery msg v) = (u,some (m,events))) :
    r.step (.chunk msg v) = { r with
      feed := ⟨(u.handleEvents m v.env events).service,(u.handleEvents m v.env events).raised.isSome,
        r.feed.executions ++ (u.handleEvents m v.env events).executions,m.announce r.feed.announced⟩
      held := (if v.readFails then r.held.filter fun e => e.stream ≠ m.key else r.held) ++
        (u.handleEvents m v.env events).executions } := by
  have hhandle : r.feed.service.handleChunkReady msg (r.delivery msg v) =
      u.handleEvents m v.env events := by
    simp only [Service.handleChunkReady,hframes]
    rfl
  simp [Rig.step,Feed.step,hrunning,Feed.handle,hhandle,hframes,Rig.stillHeld]

theorem Feed.InOrder.append {f : Feed K} (h : f.InOrder) (hnodup : m.workspaceIds.Nodup)
    (hsorted : events.Pairwise fun a b => a.seq < b.seq) (hafter : ∀ e ∈ events, m.lastSeq < e.seq)
    (hexecuted : ∀ e ∈ f.executions, e.stream = m.key → e.shmName = m.shmName → e.seq ≤ m.lastSeq)
    (hlogs : m.Logs events log) :
    (f.executions ++ log).Pairwise Execution.Before := by
  rw [pairwise_append]
  refine ⟨h,?_,?_⟩
  · have hframes := (executors_ordered hnodup hsorted).sublist hlogs.frames
    rw [pairwise_map] at hframes
    exact hframes.imp fun hab hid _ _ => hab hid
  · intro a ha b hb _ hstream hname
    obtain ⟨hkey,hring⟩ := hlogs.ring b hb
    obtain ⟨_,event,hevent,hseq⟩ := hlogs.mem hb
    have hold := hexecuted a ha (hstream.trans hkey) (hname.trans hring)
    have hnew := hafter event hevent
    omega

theorem Rig.ReadsOn.advance (h : r.ReadsOn m.key m.shmName m.lastSeq ring)
    (hexecutions : r'.feed.executions = r.feed.executions ++ log)
    (hheld : ∀ e ∈ r'.held, (e ∈ r.held ∧ (e.stream = m.key → e.workspaceId ∈ m.workspaceIds)) ∨ e ∈ log)
    (hlog : ∀ e ∈ log, e.workspaceId ∈ m.workspaceIds ∧ e.stream = m.key ∧ e.shmName = m.shmName ∧
      m.lastSeq < e.seq) {latest : Int} (hlatest : m.lastSeq ≤ latest)
    (hupto : ∀ e ∈ log, e.seq ≤ latest) (hnext : latest < ring.nextSeq ∨ latest = m.lastSeq)
    (hall : ∀ x ∈ ring.contents.events, x.array.isSome = true → m.lastSeq < x.seq → x.seq ≤ latest →
      ∀ id ∈ m.workspaceIds, ∃ y ∈ log, y.workspaceId = id ∧ y.seq = x.seq) :
    r'.ReadsOn m.key m.shmName latest ring where
  executed e he hkey hname := by
    rw [hexecutions] at he
    cases mem_append.1 he with
    | inl hold =>
      have hbefore := h.executed e hold hkey hname
      omega
    | inr hnew => exact hupto e hnew
  missed e he hkey hname := by
    have hid : e.workspaceId ∈ m.workspaceIds := by
      cases hheld e he with
      | inl hold => exact hold.2 hkey
      | inr hnew => exact (hlog e hnew).1
    constructor
    · cases hnext with
      | inl hlt => exact hlt
      | inr heq =>
        cases hheld e he with
        | inl hold =>
          have hbefore := (h.missed e hold.1 hkey hname).1
          omega
        | inr hnew =>
          have hafter := (hlog e hnew).2.2.2
          have hlast := hupto e hnew
          omega
    · intro x hx harray hafter
      by_contra hnot
      by_cases hlater : m.lastSeq < x.seq
      · obtain ⟨y,hy,hyid,hyseq⟩ := hall x hx harray hlater (by omega) e.workspaceId hid
        obtain ⟨_,hykey,hyname,_⟩ := hlog y hy
        have hlt := hafter y (by rw [hexecutions]; exact mem_append_right _ hy) hyid hykey hyname
        omega
      · cases hheld e he with
        | inl hold =>
          have hmissed := (h.missed e hold.1 hkey hname).2 x hx harray (by
            intro y hy
            exact hafter y (by rw [hexecutions]; exact mem_append_left _ hy))
          omega
        | inr hnew =>
          have hlt := hafter e (by rw [hexecutions]; exact mem_append_right _ hnew) rfl hkey hname
          have hlast := (hlog e hnew).2.2.2
          omega

theorem Rig.ReadsOn.other {lastSeq : Int} (h : r.ReadsOn key shmName lastSeq ring)
    (hexecutions : r'.feed.executions = r.feed.executions ++ log)
    (hheld : ∀ e ∈ r'.held, e ∈ r.held ∨ e ∈ log) (hlog : ∀ e ∈ log, e.stream ≠ key) :
    r'.ReadsOn key shmName lastSeq ring where
  executed e he hkey hname := by
    rw [hexecutions] at he
    cases mem_append.1 he with
    | inl hold => exact h.executed e hold hkey hname
    | inr hnew => exact absurd hkey (hlog e hnew)
  missed e he hkey hname := by
    cases hheld e he with
    | inl hold =>
      obtain ⟨hnext,hmissed⟩ := h.missed e hold hkey hname
      refine ⟨hnext,?_⟩
      intro x hx harray hafter
      apply hmissed x hx harray
      intro y hy
      exact hafter y (by rw [hexecutions]; exact mem_append_left _ hy)
    | inr hnew => exact absurd hkey (hlog e hnew)

theorem seq_le_getLast (hsorted : events.Pairwise fun a b => a.seq < b.seq)
    {last : RingEvent K} (hlast : events.getLast? = some last) : ∀ e ∈ events, e.seq ≤ last.seq := by
  obtain ⟨before,rfl⟩ := getLast?_eq_some_iff.1 hlast
  rw [pairwise_append] at hsorted
  intro e he
  cases mem_append.1 he with
  | inl hold => exact Int.le_of_lt (hsorted.2.2 e hold last (by simp))
  | inr hnew =>
    simp only [mem_singleton] at hnew
    exact hnew ▸ Int.le_refl _

theorem Service.handleEvents_cursor (h : u.Indexed)
    (hnodup : m.workspaceIds.Nodup) (hids : u.Enabled m.workspaceIds)
    (env : RingEvent K → Surroundings) (hthere : events ≠ [] → ∃ st, u.streams.get? m.key = some st)
    (hsorted : events.Pairwise fun a b => a.seq < b.seq) (hafter : ∀ e ∈ events, m.lastSeq < e.seq)
    (hraised : (u.handleEvents m env events).raised = none) :
    (u.handleEvents m env events).executions.map Execution.frame = events.flatMap m.executors ∧
      ∀ st', (u.handleEvents m env events).service.streams.get? m.key = some st' →
        ∃ st, u.streams.get? m.key = some st ∧ st'.shmName = st.shmName ∧
          st'.slotCount = st.slotCount ∧
          (events = [] ∧ st'.lastSeq = st.lastSeq ∨ ∃ last, events.getLast? = some last ∧ st'.lastSeq = last.seq) := by
  by_cases hevents : events = []
  · subst hevents
    refine ⟨by simp [Service.handleEvents],?_⟩
    intro st' hst'
    exact ⟨st',by simpa [Service.handleEvents] using hst',rfl,rfl,.inl ⟨rfl,rfl⟩⟩
  · obtain ⟨st,hst⟩ := hthere hevents
    obtain ⟨hexecutions,left,hleft,hname,hslots,hlast⟩ :=
      (handleEvents_done h hnodup hids hst env hevents hsorted hafter).2 hraised
    refine ⟨hexecutions,?_⟩
    intro st' hst'
    rw [hleft] at hst'
    cases hst'
    have hget := getLast?_eq_some_getLast hevents
    exact ⟨st,hst,hname,hslots,.inr ⟨_,hget,hlast _ hget⟩⟩

theorem Rig.frames_events
    (hframes : r.feed.service.frames msg (r.delivery msg v) = (u,some (m,events)))
    (hring : r.rings.get? m.shmName = some ring) (e : RingEvent K) :
    e ∈ events ↔ v.readFails = false ∧ e ∈ ring.contents.events ∧ m.lastSeq < e.seq ∧
      ∀ final ∈ m.msgSeq, e.seq ≤ final := by
  obtain ⟨_,hprepare,_⟩ := frames_some hframes
  obtain ⟨hparts,_⟩ := prepareChunkReady_some hprepare
  rw [(Service.frames_events hframes).2 e]
  simp only [Rig.delivery,ChunkMessage.shmName_of_parts hparts,bind_some,hring,map_some]
  cases v.readFails with
  | true => simp
  | false => simp

theorem Rig.ReadsOn.handled
    (hframes : r.feed.service.frames msg (r.delivery msg v) = (u,some (m,events)))
    (hring : r.rings.get? m.shmName = some ring) (h : r.ReadsOn m.key m.shmName m.lastSeq ring)
    (hlogs : m.Logs events log) (hall : log.map Execution.frame = events.flatMap m.executors)
    (hexecutions : r'.feed.executions = r.feed.executions ++ log)
    (hheld : ∀ e ∈ r'.held, (e ∈ r.held ∧ (e.stream = m.key → e.workspaceId ∈ m.workspaceIds)) ∨ e ∈ log)
    {latest : Int} (hlatest : events = [] ∧ latest = m.lastSeq ∨
      ∃ last, events.getLast? = some last ∧ latest = last.seq) :
    r'.ReadsOn m.key m.shmName latest ring := by
  obtain ⟨hsorted,_⟩ := Service.frames_events hframes
  have hafter := frames_after hframes
  have hlog : ∀ e ∈ log, e.workspaceId ∈ m.workspaceIds ∧ e.stream = m.key ∧
      e.shmName = m.shmName ∧ m.lastSeq < e.seq := by
    intro e he
    obtain ⟨hid,event,hevent,hseq⟩ := hlogs.mem he
    obtain ⟨hstream,hname⟩ := hlogs.ring e he
    exact ⟨hid,hstream,hname,hseq ▸ hafter event hevent⟩
  cases hlatest with
  | inl hnone =>
    obtain ⟨hnil,hsame⟩ := hnone
    have hempty : log = [] := by simpa [hnil] using hall
    subst hsame
    refine h.advance hexecutions hheld hlog (Int.le_refl _) (by simp [hempty]) (.inr rfl) ?_
    intro x _ _ hlater hupto
    omega
  | inr hsome =>
    obtain ⟨last,hlast,hsame⟩ := hsome
    have hmem := mem_of_getLast? hlast
    obtain ⟨hread,hcontents,hlater,hfinal⟩ := (Rig.frames_events hframes hring last).1 hmem
    subst hsame
    refine h.advance hexecutions hheld hlog (by omega) ?_ (.inl (ring.bounded last hcontents)) ?_
    · intro e he
      obtain ⟨_,event,hevent,hseq⟩ := hlogs.mem he
      exact hseq ▸ seq_le_getLast hsorted hlast event hevent
    · intro x hx harray hnew hupto id hid
      have hevent : x ∈ events := by
        refine (Rig.frames_events hframes hring x).2 ⟨hread,hx,hnew,?_⟩
        intro final hmsg
        have hle := hfinal final hmsg
        omega
      have hframe : (id,x.seq) ∈ log.map Execution.frame := by
        rw [hall]
        exact mem_flatMap.2 ⟨x,hevent,mem_executors.2 ⟨harray,hid,rfl⟩⟩
      obtain ⟨y,hy,hyframe⟩ := mem_map.1 hframe
      exact ⟨y,hy,congrArg fst hyframe,congrArg snd hyframe⟩

theorem Rig.Follows.accepted (h : r.Follows) (hindexed : r.feed.service.Indexed)
    (hrunning : r.feed.ended = false) (hok : r.Resumes (.chunk msg v))
    (hframes : r.feed.service.frames msg (r.delivery msg v) = (u,some (m,events)))
    (hraised : (u.handleEvents m v.env events).raised = none) : (r.step (.chunk msg v)).Follows := by
  obtain ⟨ring,hring,hreads,hcursor⟩ := h.readsOn hrunning hok hframes
  obtain ⟨hindexed',hnodup,hmem,henabled⟩ := hindexed.frames hframes
  obtain ⟨hsorted,_⟩ := Service.frames_events hframes
  obtain ⟨_,_,_,_,_,hthere⟩ := frames_stream hframes
  obtain ⟨hall,hleft⟩ := handleEvents_cursor hindexed' hnodup henabled v.env hthere hsorted
    (frames_after hframes) hraised
  obtain ⟨_,hprepare,_⟩ := frames_some hframes
  obtain ⟨hparts,_⟩ := prepareChunkReady_some hprepare
  have htouches : Service.Touches m.key r.feed.service (u.handleEvents m v.env events).service := by
    have hbefore := (r.feed.service.touches_frames hparts (r.delivery msg v)).1
    rw [hframes] at hbefore
    exact hbefore.trans (u.touches_handleEvents m v.env events)
  have hlogs := u.handleEvents_log m v.env events
  rw [Rig.step_accepted hrunning hframes]
  generalize u.handleEvents m v.env events = handled at *
  have hheld : ∀ e ∈ (if v.readFails then r.held.filter fun e => e.stream ≠ m.key else r.held) ++
      handled.executions, e ∈ r.held ∨ e ∈ handled.executions := by
    intro e he
    refine (mem_append.1 he).imp ?_ id
    intro hold
    split at hold
    · exact (mem_filter.1 hold).1
    · exact hold
  constructor
  · intro e he
    refine (htouches.sameGraphs.subscribed _ _).2 ?_
    cases hheld e he with
    | inl hold => exact h.subscribed e hold
    | inr hnew =>
      rw [(hlogs.ring e hnew).1]
      exact (hmem e.workspaceId).1 (hlogs.mem hnew).1
  · intro key st' hst'
    by_cases hkey : key = m.key
    · subst hkey
      obtain ⟨st,hst,hname,hslots,hlatest⟩ := hleft st' hst'
      obtain ⟨hname',hslots',hlast⟩ := hcursor st hst
      rw [hname,hname']
      refine ⟨ring,hring,hslots.trans hslots',?_⟩
      refine hreads.handled hframes hring hlogs hall rfl ?_
        (hlatest.imp_left fun hnone => ⟨hnone.1,hnone.2.trans hlast⟩)
      intro e he
      refine (hheld e he).imp_left ?_
      exact fun hold => ⟨hold,fun hstream => (hmem _).2 (hstream ▸ h.subscribed e hold)⟩
    · obtain ⟨other,hother,hslots,hreads'⟩ := h.streams key st' (htouches.streams key hkey ▸ hst')
      refine ⟨other,hother,hslots,hreads'.other rfl hheld ?_⟩
      intro e he hstream
      exact hkey (hstream.symm.trans (hlogs.ring e he).1)

theorem Rig.Sound.accepted (h : r.Sound) (hrunning : r.feed.ended = false)
    (hok : r.Resumes (.chunk msg v))
    (hframes : r.feed.service.frames msg (r.delivery msg v) = (u,some (m,events))) :
    (r.step (.chunk msg v)).Sound := by
  have hstep := Rig.step_accepted hrunning hframes
  obtain ⟨hindexed,hnodup,_⟩ := h.indexed.frames hframes
  constructor
  · rw [hstep]
    exact hindexed.of_same (u.touches_handleEvents m v.env events).sameGraphs
  · rw [hstep]
    obtain ⟨ring,_,hreads,_⟩ := (h.follows hrunning).readsOn hrunning hok hframes
    exact h.inOrder.append hnodup (Service.frames_events hframes).1 (Service.frames_after hframes)
      hreads.executed (u.handleEvents_log m v.env events)
  · intro hgoesOn
    refine (h.follows hrunning).accepted h.indexed hrunning hok hframes ?_
    simpa [hstep] using hgoesOn

theorem Rig.Sound.step (h : r.Sound) (i : Happening K) (hok : r.Resumes i) : (r.step i).Sound := by
  cases hended : r.feed.ended with
  | true => simpa [Rig.step,hended] using h
  | false =>
    cases i with
    | create shmName slotCount =>
      simp only [Rig.step,hended,Bool.false_eq_true,if_false]
      split
      · exact h
      · rename_i hfresh
        exact h.create (by simpa using hfresh) slotCount
    | write shmName array telemetry =>
      simp only [Rig.step,hended,Bool.false_eq_true,if_false]
      exact h.changeRing shmName fun ring => ring.later_write array telemetry
    | lose shmName =>
      simp only [Rig.step,hended,Bool.false_eq_true,if_false]
      exact h.changeRing shmName Ring.later_lose
    | edit e => exact h.edit hended e
    | reset id nodeId => exact h.reset hended id nodeId
    | chunk msg v =>
      cases hframes : r.feed.service.frames msg (r.delivery msg v) with
      | mk u frames =>
        cases frames with
        | none => exact h.refused hended hframes
        | some e => exact h.accepted hended hok hframes

theorem Rig.Follows.reader (h : r.Follows) (hrunning : r.feed.ended = false)
    (hok : r.Resumes (.chunk msg v)) (hparts : msg.parts = some (key,shmName))
    (hring : r.rings.get? shmName = some ring) {range : Option ChunkSequenceRange}
    (hfits : parseChunkSequenceRange msg (some ring.slotCount) = .ok range) {e : Execution K}
    (he : e ∈ r.held) (hkey : e.stream = key) (hname : e.shmName = shmName) :
    ∃ t st, r.feed.service.ensureReader key shmName (range.map (·.firstSeq))
      (r.delivery msg v).attach = (t,some st) ∧ st.slotCount = ring.slotCount := by
  unfold Service.ensureReader
  cases hfound : (r.feed.service.streams.get? key).filter fun st => st.shmName = shmName with
  | some st =>
    obtain ⟨hst,hshm⟩ := filter_eq_some_iff.1 hfound
    obtain ⟨ring',hring',hslots,_⟩ := h.streams key st hst
    rw [of_decide_eq_true hshm,hring] at hring'
    cases hring'
    exact ⟨_,st,rfl,hslots⟩
  | none =>
    have hother : ∀ st, r.feed.service.streams.get? key = some st → st.shmName ≠ shmName := by
      intro st hst hshm
      simp [hst,hshm] at hfound
    have hattaches : v.attachFails = false := by
      cases hfails : v.attachFails with
      | false => rfl
      | true =>
        exact absurd hname
          ((hok hrunning key shmName ring range hparts hring hfits hother).1 hfails e he hkey)
    have hattach : (r.delivery msg v).attach = some ring.slotCount := by
      simp [Rig.delivery,hattaches,ChunkMessage.shmName_of_parts hparts,hring]
    rw [hattach]
    exact ⟨_,_,rfl,rfl⟩

theorem Service.frames_of_reader {s t : Service K} {d : Delivery K}
    (hparts : msg.parts = some (key,shmName))
    (hids : (s.streamToWorkspaces.get? key).getD [] ≠ []) {range : Option ChunkSequenceRange}
    {st : Stream K}
    (hreader : s.ensureReader key shmName (range.map (·.firstSeq)) d.attach = (t,some st))
    (hfits : parseChunkSequenceRange msg (some st.slotCount) = .ok range) :
    ∃ u m events, s.frames msg d = (u,some (m,events)) := by
  have hprepare : s.prepareChunkReady msg d = (t,some ⟨key,shmName,
      d.order ((s.streamToWorkspaces.get? key).getD []),range,msg.context,st.lastSeq⟩) := by
    simp [Service.prepareChunkReady,hparts,hids,parseChunkSequenceRange_fits hfits,hreader,hfits]
  simp only [Service.frames,hprepare]
  exact ⟨_,_,_,rfl⟩

theorem Rig.Sound.catchesUp (h : r.Sound) {i : Happening K} (hok : r.Resumes i) :
    r.CatchesUp i := by
  cases i with
  | chunk msg v =>
    intro hrunning hgoesOn hread key shmName ring range hparts hring hfits e he hkey hname x hx harray
      hafter hfinal
    have hfollows := h.follows hrunning
    obtain ⟨t,st,hreader,hslots⟩ :=
      hfollows.reader hrunning hok hparts hring hfits he hkey hname
    have hsubscribed : r.feed.service.Subscribed key e.workspaceId := hkey ▸ hfollows.subscribed e he
    have hids : (r.feed.service.streamToWorkspaces.get? key).getD [] ≠ [] :=
      ne_nil_of_mem ((h.indexed.subscribers key e.workspaceId).2 hsubscribed)
    obtain ⟨u,m,events,hframes⟩ :=
      frames_of_reader hparts hids hreader (hslots.symm ▸ hfits)
    obtain ⟨_,hprepare,_⟩ := frames_some hframes
    obtain ⟨hparts',_,hrange,_⟩ := prepareChunkReady_some hprepare
    rw [hparts] at hparts'
    rw [parseChunkSequenceRange_fits hfits] at hrange
    cases hparts'
    cases hrange
    obtain ⟨ring',hring',hreads,_⟩ := hfollows.readsOn hrunning hok hframes
    rw [hring] at hring'
    cases hring'
    have hevent : x ∈ events := (Rig.frames_events hframes hring x).2
      ⟨hread,hx,(hreads.missed e he hkey hname).2 x hx harray hafter,hfinal⟩
    obtain ⟨hindexed,hnodup,hmem,henabled⟩ := h.indexed.frames hframes
    obtain ⟨_,_,_,_,_,hthere⟩ := frames_stream hframes
    have hstep := Rig.step_accepted hrunning hframes
    have hraised : (u.handleEvents m v.env events).raised = none := by
      simpa [hstep] using hgoesOn
    obtain ⟨hall,_⟩ := handleEvents_cursor hindexed hnodup henabled v.env hthere
      (Service.frames_events hframes).1 (Service.frames_after hframes) hraised
    have hframe : (e.workspaceId,x.seq) ∈
        (u.handleEvents m v.env events).executions.map Execution.frame := by
      rw [hall]
      exact mem_flatMap.2
        ⟨x,hevent,mem_executors.2 ⟨harray,(hmem e.workspaceId).2 hsubscribed,rfl⟩⟩
    obtain ⟨y,hy,hyframe⟩ := mem_map.1 hframe
    obtain ⟨hystream,hyname⟩ := (u.handleEvents_log m v.env events).ring y hy
    refine ⟨y,?_,congrArg fst hyframe,hystream,hyname,congrArg snd hyframe⟩
    rw [hstep]
    exact mem_append_right _ hy
  | create => trivial
  | write => trivial
  | lose => trivial
  | edit => trivial
  | reset => trivial

theorem Rig.sound_initial (settings : Settings) : (Rig.initial K settings).Sound where
  indexed := Feed.indexed settings []
  inOrder := Pairwise.nil
  follows _ := ⟨by simp [Rig.initial],fun key st hst => by cases hst⟩

/-- In every run in which each attachment of a ring reads on as the ring was read before, the
workspaces execute the frames of each ring in their order, each at most once, and those that stay
subscribed catch up with every message. -/
theorem inOrder_of_resumes (settings : Settings) (happenings : List (Happening K))
    (hok : Meets Rig.step Rig.Resumes (Rig.initial K settings) happenings) :
    (run Rig.step (Rig.initial K settings) happenings).feed.InOrder ∧
      Meets Rig.step Rig.CatchesUp (Rig.initial K settings) happenings := by
  have hsound := Rig.sound_initial (K := K) settings
  constructor
  · exact (hok.invariant (P := Rig.Sound) (fun _ i h hi => h.step i hi) hsound).inOrder
  · exact hok.imp (P := Rig.Sound) (fun _ i h hi => ⟨h.catchesUp hi,h.step i hi⟩) hsound

end

theorem id_perm (ids : List String) : (id ids).Perm ids := .refl _

def visit (msg : ChunkMessage integers) : Happening integers :=
  .chunk msg ⟨false,false,id,id_perm,fun _ => ⟨0,fun _ _ => false,fun _ => false⟩⟩

def writeFrame : Happening integers := .write "ring" (some [7]) ()

def watchRing : Happening integers := .edit (.put (watchConfig "w") none fun _ => ())

def twoWrites : List (Happening integers) :=
  [.create "ring" 4,writeFrame,watchRing,visit (announce "ring" 1 .absent),writeFrame,
    visit (announce "ring" 2 .absent)]

theorem inOrder_of_resumes_twoWrites :
    (run Rig.step (Rig.initial integers noThrottle) twoWrites).feed.InOrder ∧
      Meets Rig.step Rig.CatchesUp (Rig.initial integers noThrottle) twoWrites := by
  refine inOrder_of_resumes noThrottle twoWrites ⟨trivial,trivial,trivial,?_,trivial,?_,trivial⟩
  · intro _ key shmName ring range _ _ _ _
    refine ⟨by simp,fun _ => ⟨?_,?_⟩⟩
    · intro e he
      cases he
    · intro e he
      cases he
  · intro _ key shmName ring range hparts _ _ hother
    cases hparts
    exact absurd rfl (hother _ rfl)

/-- A message about nine frames, which do not fit into the ring, drops the reader; the next one
attaches it again and names a frame that was executed. -/
def repeated : List (Happening integers) :=
  [.create "ring" 4,writeFrame,watchRing,visit (announce "ring" 1 .absent),
    visit { announce "ring" 9 .absent with firstSeq := .int 1,batchCount := .int 9 },
    visit (announce "ring" 1 .absent)]

theorem executed_twice : ¬ ((run Rig.step (Rig.initial integers noThrottle) repeated).feed.InOrder ∧
      Meets Rig.step Rig.CatchesUp (Rig.initial integers noThrottle) repeated) := by
  intro h
  have hlt := rel_of_pairwise_cons h.1 (mem_singleton_self _) rfl rfl rfl
  exact absurd hlt (by decide)

end ExperimentControl.Analysis

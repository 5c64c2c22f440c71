import ExperimentControl.Analysis.Feed

/-!
Workspaces of one stream among each other: a message is handled to its end, and every workspace
executes every frame once, as long as the rings that traces are published through can be created.
-/

namespace ExperimentControl.Analysis
open Lib OrderedDict List Service

section
variable {K : Kernels}

def Service.Publishes (s : Service K) (id : String) (env : Surroundings) (out : Output K) : Prop :=
  out.kind = .trace → K.size out.value ≠ 0 →
    s.traceWriters.get? (id,out.outputId) = some (max 1 (K.size out.value)) ∨
      env.createFails (id,out.outputId) (max 1 (K.size out.value)) = false

variable (s : Service K)

theorem Service.ensureTraceWriter_returns (key : String × String) (points : Nat)
    (env : Surroundings) : (s.ensureTraceWriter key points env).2 = true ↔
      s.traceWriters.get? key = some (max 1 points) ∨ env.createFails key (max 1 points) = false := by
  unfold Service.ensureTraceWriter
  simp only
  split
  · rename_i hthere
    simp [hthere]
  · rename_i hnone
    split
    · rename_i hfails
      simp [hnone,hfails]
    · rename_i hcreates
      exact iff_of_true rfl (.inr (by simpa using hcreates))

theorem Service.ensureTraceWriter_other {key other : String × String}
    (hother : other ≠ key) (points : Nat) (env : Surroundings) :
    (s.ensureTraceWriter key points env).1.traceWriters.get? other = s.traceWriters.get? other := by
  unfold Service.ensureTraceWriter
  simp only
  split
  · rfl
  · split
    · simp [get?_erase_eq,hother]
    · simp [get?_erase_eq,hother]

theorem Service.publishOutput_returns (id : String) (shot : Shot K)
    (env : Surroundings) (out : Output K) :
    (s.publishOutput id shot env out).2 = true ↔ s.Publishes id env out := by
  unfold Service.publishOutput Service.Publishes
  cases hkind : out.kind with
  | trace =>
    simp only [true_implies]
    split
    · rename_i hempty
      simp [hempty]
    · rename_i hpoints
      rw [← s.ensureTraceWriter_returns (id,out.outputId) (K.size out.value) env]
      generalize s.ensureTraceWriter (id,out.outputId) (K.size out.value) env = result
      obtain ⟨t,there⟩ := result
      cases there with
      | false => simp [hpoints]
      | true => simp
  | _ => simp

variable {id : String}

theorem Service.publishOutput_other {shot : Shot K}
    {env : Surroundings} {out : Output K} {key : String × String} (hkey : key ≠ (id,out.outputId)) :
    (s.publishOutput id shot env out).1.traceWriters.get? key = s.traceWriters.get? key := by
  unfold Service.publishOutput
  split
  · split
    · rfl
    · have hother := s.ensureTraceWriter_other hkey (K.size out.value) env
      dsimp only
      generalize s.ensureTraceWriter (id,out.outputId) (K.size out.value) env = result at hother
      obtain ⟨t,there⟩ := result
      cases there with
      | false => exact hother
      | true =>
        dsimp only
        split
        · exact hother
        · exact hother
  · rfl

theorem Service.publishOutputs_returns (id : String) (shot : Shot K)
    (env : Surroundings) {outputs : List (Output K)} (hnodup : (outputs.map (·.outputId)).Nodup) :
    (s.publishOutputs id shot env outputs).2 = true ↔ ∀ out ∈ outputs, s.Publishes id env out := by
  induction outputs generalizing s with
  | nil => simp [Service.publishOutputs]
  | cons out rest ih =>
    rw [map_cons,nodup_cons] at hnodup
    have hreturns := s.publishOutput_returns id shot env out
    have hrest : ∀ out' ∈ rest,
        ((s.publishOutput id shot env out).1.Publishes id env out' ↔ s.Publishes id env out') := by
      intro out' hout'
      have hother : (id,out'.outputId) ≠ (id,out.outputId) := by
        intro heq
        have hsame : out'.outputId = out.outputId := (Prod.mk.inj heq).2
        exact hnodup.1 (hsame ▸ mem_map_of_mem hout')
      unfold Service.Publishes
      rw [s.publishOutput_other hother]
    unfold Service.publishOutputs
    generalize s.publishOutput id shot env out = result at hreturns hrest
    obtain ⟨t,returned⟩ := result
    cases returned with
    | false =>
      simp only [Bool.false_eq_true,false_iff] at hreturns
      simp [hreturns]
    | true =>
      simp only [true_iff] at hreturns
      simp only [ih t hnodup.2,forall_mem_cons,hreturns,true_and]
      exact forall₂_congr hrest

/-- Every output that the workspace publishes for the frame finds or gets its ring. -/
def Service.CreatesRings (s : Service K) (shot : Shot K) (env : Surroundings) (id : String) : Prop :=
  ∀ w, s.workspaces.get? id = some w → w.compiled.enabled = true → ∀ outputs,
    (w.executeEvent shot.observation (s.includes w.compiled shot env).1
      (s.includes w.compiled shot env).2.1).2 = .ok outputs → ∀ out ∈ outputs, s.Publishes id env out

variable {w : WorkspaceRuntime K}

theorem outputPayloads_nodup (h : w.compiled.WellFormed)
    (values : Values K) (includeHist includeTrace : Bool) :
    ((w.outputPayloads values includeHist includeTrace).map (·.outputId)).Nodup := by
  have hsub : ((w.outputPayloads values includeHist includeTrace).map (·.outputId)).Sublist
      (w.compiled.outputs.map (·.outputId)) := by
    unfold WorkspaceRuntime.outputPayloads
    induction w.compiled.outputs with
    | nil => exact List.Sublist.refl []
    | cons out rest ih =>
      rw [filterMap_cons]
      split
      · exact ih.cons _
      · rename_i o ho
        simp only [Option.map_eq_some_iff] at ho
        obtain ⟨value,_,rfl⟩ := ho
        exact ih.cons_cons _
  exact h.outputs_nodup.sublist hsub

namespace Service

theorem includes_writers (c : CompiledWorkspace K) (shot : Shot K)
    (env : Surroundings) : (s.includes c shot env).2.2.traceWriters = s.traceWriters := by
  unfold includes allowHistOutputs allowTraceOutputs
  simp only
  repeat' split
  all_goals rfl

theorem processWorkspace_returns
    (hw : s.workspaces.get? id = some w) (hwellFormed : w.compiled.WellFormed)
    (henabled : w.compiled.enabled = true) (shot : Shot K) (env : Surroundings) :
    (s.processWorkspace id w shot env).2 = true ↔ s.CreatesRings shot env id := by
  have hwriters := s.includes_writers w.compiled shot env
  have hrings : s.CreatesRings shot env id ↔ ∀ outputs,
      (w.executeEvent shot.observation (s.includes w.compiled shot env).1
        (s.includes w.compiled shot env).2.1).2 = .ok outputs →
      ∀ out ∈ outputs, s.Publishes id env out := by
    unfold CreatesRings
    simp [hw,henabled]
  rw [hrings]
  unfold processWorkspace
  generalize s.includes w.compiled shot env = included at hwriters
  obtain ⟨includeHist,includeTrace,t⟩ := included
  simp only at hwriters ⊢
  have houtputs := (executeEvent_frame w shot.observation includeHist includeTrace).2.2
  generalize w.executeEvent shot.observation includeHist includeTrace = result at houtputs
  obtain ⟨v,result⟩ := result
  cases result with
  | error e => simp
  | ok outputs =>
    obtain ⟨values,hvalues⟩ := houtputs outputs rfl
    have hnodup : (outputs.map (·.outputId)).Nodup :=
      hvalues ▸ outputPayloads_nodup hwellFormed values includeHist includeTrace
    simp [publishOutputs_returns _ id shot env hnodup,Publishes,hwriters]

structure Apart (id : String) (s s' : Service K) : Prop where
  settings : s'.settings = s.settings
  workspaces : ∀ other, other ≠ id → s'.workspaces.get? other = s.workspaces.get? other
  histLastEmit : ∀ other, other ≠ id → s'.histLastEmit.get? other = s.histLastEmit.get? other
  traceLastEmit : ∀ other, other ≠ id → s'.traceLastEmit.get? other = s.traceLastEmit.get? other
  traceWriters : ∀ key : String × String, key.1 ≠ id →
    s'.traceWriters.get? key = s.traceWriters.get? key

theorem Apart.refl (id : String) (s : Service K) : Apart id s s :=
  ⟨rfl,fun _ _ => rfl,fun _ _ => rfl,fun _ _ => rfl,fun _ _ => rfl⟩

theorem Apart.trans {s t u : Service K} (h : Apart id s t)
    (h' : Apart id t u) : Apart id s u where
  settings := h'.settings.trans h.settings
  workspaces other hother := (h'.workspaces other hother).trans (h.workspaces other hother)
  histLastEmit other hother := (h'.histLastEmit other hother).trans (h.histLastEmit other hother)
  traceLastEmit other hother := (h'.traceLastEmit other hother).trans (h.traceLastEmit other hother)
  traceWriters key hkey := (h'.traceWriters key hkey).trans (h.traceWriters key hkey)

theorem includes_apart (c : CompiledWorkspace K) (shot : Shot K)
    (env : Surroundings) : Apart c.workspaceId s (s.includes c shot env).2.2 := by
  have hhist : Apart c.workspaceId s (s.allowHistOutputs c env.now).2 := by
    unfold allowHistOutputs
    repeat' split
    all_goals constructor
    all_goals intros
    all_goals simp_all
  have htrace : ∀ t : Service K, Apart c.workspaceId t (t.allowTraceOutputs c env.now).2 := by
    intro t
    unfold allowTraceOutputs
    repeat' split
    all_goals constructor
    all_goals intros
    all_goals simp_all
  unfold includes
  simp only
  split
  · exact hhist.trans (htrace _)
  · exact hhist

theorem publishOutput_apart (id : String) (shot : Shot K)
    (env : Surroundings) (out : Output K) : Apart id s (s.publishOutput id shot env out).1 := by
  have hensure : ∀ name points, Apart id s (s.ensureTraceWriter (id,name) points env).1 := by
    intro name points
    unfold ensureTraceWriter
    simp only
    repeat' split
    all_goals refine ⟨rfl,fun _ _ => rfl,fun _ _ => rfl,fun _ _ => rfl,?_⟩
    all_goals intro key hkey
    all_goals have hother : key ≠ (id,name) := fun heq => hkey (heq ▸ rfl)
    all_goals simp [get?_erase_eq,hother]
  unfold publishOutput
  split
  · split
    · exact .refl id s
    · have hkey := hensure out.outputId (K.size out.value)
      dsimp only
      generalize s.ensureTraceWriter (id,out.outputId) (K.size out.value) env = result at hkey
      obtain ⟨t,there⟩ := result
      cases there with
      | false => exact hkey
      | true =>
        dsimp only
        split
        · exact hkey
        · exact hkey.trans ⟨rfl,fun _ _ => rfl,fun _ _ => rfl,fun _ _ => rfl,fun _ _ => rfl⟩
  · exact ⟨rfl,fun _ _ => rfl,fun _ _ => rfl,fun _ _ => rfl,fun _ _ => rfl⟩

theorem publishOutputs_apart (id : String) (shot : Shot K)
    (env : Surroundings) (outputs : List (Output K)) :
    Apart id s (s.publishOutputs id shot env outputs).1 := by
  induction outputs generalizing s with
  | nil => exact .refl id s
  | cons out rest ih =>
    have hfirst := s.publishOutput_apart id shot env out
    unfold publishOutputs
    generalize s.publishOutput id shot env out = result at hfirst
    obtain ⟨t,returned⟩ := result
    cases returned with
    | false => exact hfirst
    | true => exact hfirst.trans (ih t)

theorem processWorkspace_apart
    (hnamed : w.compiled.workspaceId = id) (shot : Shot K) (env : Surroundings) :
    Apart id s (s.processWorkspace id w shot env).1 := by
  have hincludes := s.includes_apart w.compiled shot env
  rw [hnamed] at hincludes
  have hset : ∀ (t : Service K) (v : WorkspaceRuntime K) (processed : Nat),
      Apart id t { t with workspaces := t.workspaces.set id v,processedUpdates := processed } := by
    intro t v processed
    refine ⟨rfl,?_,fun _ _ => rfl,fun _ _ => rfl,fun _ _ => rfl⟩
    intro other hother
    simp [hother]
  unfold processWorkspace
  generalize s.includes w.compiled shot env = included at hincludes
  obtain ⟨includeHist,includeTrace,t⟩ := included
  simp only at hincludes ⊢
  generalize w.executeEvent shot.observation includeHist includeTrace = result
  obtain ⟨v,result⟩ := result
  cases result with
  | error e => exact hincludes.trans (hset t _ _)
  | ok outputs =>
    exact (hincludes.trans (hset t _ _)).trans (publishOutputs_apart _ id shot env outputs)

end Service

theorem emitDue_congr {last last' : OrderedDict String Nat}
    (h : last'.get? id = last.get? id) (period now : Nat) :
    emitDue period last' id now = emitDue period last id now := by
  simp [emitDue,h]

theorem Service.Apart.includes {s s' : Service K} (h : Apart id s s')
    {c : CompiledWorkspace K} (hother : c.workspaceId ≠ id) (shot : Shot K) (env : Surroundings) :
    (s'.includes c shot env).1 = (s.includes c shot env).1 ∧
      (s'.includes c shot env).2.1 = (s.includes c shot env).2.1 := by
  have hhist : (s'.allowHistOutputs c env.now).1 = (s.allowHistOutputs c env.now).1 := by
    unfold Service.allowHistOutputs
    rw [h.settings,emitDue_congr (h.histLastEmit c.workspaceId hother)]
    repeat' split
    all_goals rfl
  have hkept : ∀ t : Service K, (t.allowHistOutputs c env.now).2.settings = t.settings ∧
      (t.allowHistOutputs c env.now).2.traceLastEmit = t.traceLastEmit := by
    intro t
    unfold Service.allowHistOutputs
    repeat' split
    all_goals exact ⟨rfl,rfl⟩
  have htrace : ((s'.allowHistOutputs c env.now).2.allowTraceOutputs c env.now).1 =
      ((s.allowHistOutputs c env.now).2.allowTraceOutputs c env.now).1 := by
    unfold Service.allowTraceOutputs
    rw [(hkept s').1,(hkept s').2,(hkept s).1,(hkept s).2,h.settings,
      emitDue_congr (h.traceLastEmit c.workspaceId hother)]
    repeat' split
    all_goals rfl
  unfold Service.includes
  simp only
  split
  · exact ⟨hhist,htrace⟩
  · exact ⟨hhist,rfl⟩

theorem Service.Apart.createsRings {id other : String} {s s' : Service K} (h : Apart id s s')
    (hnamed : ∀ w, s.workspaces.get? other = some w → w.compiled.workspaceId = other)
    (hother : other ≠ id) (shot : Shot K) (env : Surroundings) :
    s'.CreatesRings shot env other ↔ s.CreatesRings shot env other := by
  unfold Service.CreatesRings Service.Publishes
  rw [h.workspaces other hother]
  constructor
  · intro hrings w hw
    have hincludes := h.includes (hnamed w hw ▸ hother) shot env
    have hold := hrings w hw
    simpa only [hincludes.1,hincludes.2,h.traceWriters (other,_) hother] using hold
  · intro hrings w hw
    have hincludes := h.includes (hnamed w hw ▸ hother) shot env
    simpa only [hincludes.1,hincludes.2,h.traceWriters (other,_) hother] using hrings w hw

theorem Service.processWorkspaces_returns {s : Service K} (h : s.Indexed) {ids : List String}
    (hnodup : ids.Nodup) (hids : s.Enabled ids) (shot : Shot K) (env : Surroundings) :
    ((s.processWorkspaces shot env ids).raised = none ↔ ∀ id ∈ ids, s.CreatesRings shot env id) ∧
      ((s.processWorkspaces shot env ids).raised = none →
        (s.processWorkspaces shot env ids).executed = ids) := by
  induction ids generalizing s with
  | nil => simp [Service.processWorkspaces]
  | cons id rest ih =>
    obtain ⟨w,hw,henabled⟩ := hids id (by simp)
    rw [nodup_cons] at hnodup
    have hreturns := s.processWorkspace_returns hw (h.wellFormed id w hw) henabled shot env
    have hapart := s.processWorkspace_apart (h.named id w hw) shot env
    have hframe := (s.processWorkspace_frame hw shot env).1
    have hrest : ∀ other ∈ rest,
        ((s.processWorkspace id w shot env).1.CreatesRings shot env other ↔
          s.CreatesRings shot env other) := by
      intro other hmem
      have hother : other ≠ id := fun heq => hnodup.1 (heq ▸ hmem)
      exact hapart.createsRings (h.named other) hother shot env
    simp only [Service.processWorkspaces,hw,henabled,if_true]
    generalize s.processWorkspace id w shot env = result at hreturns hframe hrest
    obtain ⟨t,returned⟩ := result
    cases returned with
    | false =>
      simp only [Bool.false_eq_true,false_iff] at hreturns
      simp [hreturns]
    | true =>
      simp only [true_iff] at hreturns
      have henabledRest : t.Enabled rest :=
        hframe.enabled fun other hmem => hids other (by simp [hmem])
      obtain ⟨hiff,hexecuted⟩ := ih (h.of_same hframe) hnodup.2 henabledRest
      simp only [hiff,forall_mem_cons,hreturns,true_and]
      refine ⟨forall₂_congr hrest,?_⟩
      intro hrings
      rw [hexecuted (hiff.2 hrings)]

/-- Every frame finds or gets the rings of the workspaces, those before it having been executed. -/
def Progress.CreatesRings (m : Prepared K) (env : RingEvent K → Surroundings) :
    Progress K → List (RingEvent K) → Prop
  | _,[] => True
  | p,event :: rest =>
    (∀ array, event.array = some array → ∀ id ∈ m.workspaceIds, (p.resolve m event).2.CreatesRings
      (m.shot event (p.resolve m event).1.1 array rest.isEmpty) (env event) id) ∧
      (p.processEvent m env event rest.isEmpty).CreatesRings m env rest

def Prepared.executors (m : Prepared K) (event : RingEvent K) : List (String × Int) :=
  if event.array.isSome then m.workspaceIds.map fun id => (id,event.seq) else []

def Execution.frame (e : Execution K) : String × Int := (e.workspaceId,e.seq)

variable {m : Prepared K}

theorem Progress.processEvent_returns {p : Progress K}
    (h : p.service.Indexed) (hnodup : m.workspaceIds.Nodup) (hids : p.service.Enabled m.workspaceIds)
    (hraised : p.raised = none) (env : RingEvent K → Surroundings) (event : RingEvent K)
    (isLast : Bool) :
    ((p.processEvent m env event isLast).raised = none ↔ ∀ array, event.array = some array →
      ∀ id ∈ m.workspaceIds, (p.resolve m event).2.CreatesRings
        (m.shot event (p.resolve m event).1.1 array isLast) (env event) id) ∧
      ((p.processEvent m env event isLast).raised = none →
        (p.processEvent m env event isLast).executions.map Execution.frame =
          p.executions.map Execution.frame ++ m.executors event) ∧
      (p.processEvent m env event isLast).latestSeq = max p.latestSeq event.seq := by
  have hresolve : Service.Touches m.key p.service (p.resolve m event).2 :=
    p.service.touches_withStream m.key Context.absent fun st => st.popContextForSeq event.seq
  unfold Progress.processEvent
  cases harray : event.array with
  | none => simp [hraised,Prepared.executors,harray]
  | some array =>
    obtain ⟨hiff,hexecuted⟩ := processWorkspaces_returns (h.of_same hresolve.sameGraphs)
      hnodup (hresolve.sameGraphs.enabled hids) (m.shot event (p.resolve m event).1.1 array isLast)
      (env event)
    refine ⟨by simp [hiff],?_,rfl⟩
    intro hnone
    simp only at hnone
    simp [hexecuted hnone,Prepared.executors,harray,Execution.frame,Function.comp_def]

theorem Progress.processEvents_returns {p : Progress K}
    (h : p.service.Indexed) (hnodup : m.workspaceIds.Nodup) (hids : p.service.Enabled m.workspaceIds)
    (hraised : p.raised = none) (env : RingEvent K → Surroundings) (events : List (RingEvent K)) :
    ((Progress.processEvents m env p events).raised = none ↔ p.CreatesRings m env events) ∧
      ((Progress.processEvents m env p events).raised = none →
        (Progress.processEvents m env p events).executions.map Execution.frame =
            p.executions.map Execution.frame ++ events.flatMap m.executors ∧
          (Progress.processEvents m env p events).latestSeq =
            events.foldl (fun latest event => max latest event.seq) p.latestSeq) := by
  induction events generalizing p with
  | nil => simp [Progress.processEvents,Progress.CreatesRings,hraised]
  | cons event rest ih =>
    have htouches := p.touches_processEvent m env event rest.isEmpty
    obtain ⟨hiff,hexecutions,hlatest⟩ :=
      Progress.processEvent_returns h hnodup hids hraised env event rest.isEmpty
    unfold Progress.processEvents Progress.CreatesRings
    simp only
    cases hnext : (p.processEvent m env event rest.isEmpty).raised with
    | some id =>
      have hfails := (not_congr hiff).1 (by simp [hnext])
      simp only [Option.isSome_some,if_true,hnext]
      exact ⟨iff_of_false (by simp) fun hall => hfails hall.1,by simp⟩
    | none =>
      obtain ⟨hiffRest,hrest⟩ := ih (h.of_same htouches.sameGraphs) (htouches.sameGraphs.enabled hids)
        hnext
      simp only [Option.isSome_none,Bool.false_eq_true,if_false]
      refine ⟨?_,?_⟩
      · rw [hiffRest,← hiff]
        simp [hnext]
      · intro hnone
        obtain ⟨hall,hlast⟩ := hrest hnone
        exact ⟨by rw [hall,hexecutions hnext,flatMap_cons,append_assoc],
          by rw [hlast,hlatest,foldl_cons]⟩

/-- A message is handled to its end: no exception escapes, every subscriber has executed every frame
once, and the stream is read up to the last frame. -/
structure Handling.Complete (h : Handling K) (s : Service K) (m : Prepared K)
    (events : List (RingEvent K)) : Prop where
  returns : h.raised = none
  once : ∀ id, s.Subscribed m.key id → ∀ event ∈ events, event.array.isSome = true →
    (h.executions.map Execution.frame).count (id,event.seq) = 1
  cursor : ∃ st, h.service.streams.get? m.key = some st ∧
    ∀ last ∈ events.getLast?, st.lastSeq = last.seq

theorem mem_executors {event : RingEvent K} {x : String × Int} :
    x ∈ m.executors event ↔ event.array.isSome = true ∧ x.1 ∈ m.workspaceIds ∧ x.2 = event.seq := by
  unfold Prepared.executors
  split
  · rename_i harray
    simp only [mem_map,harray,true_and]
    constructor
    · intro h
      obtain ⟨id,hid,rfl⟩ := h
      exact ⟨hid,rfl⟩
    · intro h
      exact ⟨x.1,h.1,by rw [← h.2]⟩
  · rename_i harray
    simp [harray]

variable {events : List (RingEvent K)}

theorem executors_ordered (hnodup : m.workspaceIds.Nodup)
    (hsorted : events.Pairwise fun a b => a.seq < b.seq) :
    (events.flatMap m.executors).Pairwise fun a b => a.1 = b.1 → a.2 < b.2 := by
  rw [pairwise_flatMap]
  constructor
  · intro event _
    unfold Prepared.executors
    split
    · rw [pairwise_map]
      exact hnodup.imp fun hne heq => absurd heq hne
    · exact List.Pairwise.nil
  · refine hsorted.imp ?_
    intro a b hab x hx y hy _
    rw [(mem_executors.1 hx).2.2,(mem_executors.1 hy).2.2]
    exact hab

theorem executors_nodup (hnodup : m.workspaceIds.Nodup)
    (hsorted : events.Pairwise fun a b => a.seq < b.seq) :
    (events.flatMap m.executors).Nodup := by
  refine (executors_ordered hnodup hsorted).imp ?_
  intro a b hab heq
  have hlt := hab (congrArg Prod.fst heq)
  rw [heq] at hlt
  omega

theorem foldl_max_getLast {latest : Int}
    (hsorted : events.Pairwise fun a b => a.seq < b.seq) (hlatest : ∀ e ∈ events, latest < e.seq) :
    ∀ last ∈ events.getLast?,
      events.foldl (fun latest event => max latest event.seq) latest = last.seq := by
  induction events generalizing latest with
  | nil => simp
  | cons event rest ih =>
    rw [pairwise_cons] at hsorted
    have hfirst := hlatest event (by simp)
    have hmax : max latest event.seq = event.seq := by omega
    intro last hlast
    rw [foldl_cons,hmax]
    cases rest with
    | nil =>
      have hsame : event = last := by simpa using hlast
      simp [hsame]
    | cons next more =>
      rw [getLast?_cons_cons] at hlast
      exact ih hsorted.2 (fun e he => hsorted.1 e he) last hlast

theorem Service.handleEvents_done {u : Service K} (h : u.Indexed)
    (hnodup : m.workspaceIds.Nodup) (hids : u.Enabled m.workspaceIds) {st : Stream K}
    (hst : u.streams.get? m.key = some st) (env : RingEvent K → Surroundings)
    (hevents : events ≠ [])
    (hsorted : events.Pairwise fun a b => a.seq < b.seq) (hafter : ∀ e ∈ events, m.lastSeq < e.seq) :
    ((u.handleEvents m env events).raised = none ↔ (u.progress m).CreatesRings m env events) ∧
      ((u.handleEvents m env events).raised = none →
        (u.handleEvents m env events).executions.map Execution.frame = events.flatMap m.executors ∧
          ∃ st', (u.handleEvents m env events).service.streams.get? m.key = some st' ∧
            st'.shmName = st.shmName ∧ st'.slotCount = st.slotCount ∧
            ∀ last ∈ events.getLast?, st'.lastSeq = last.seq) := by
  obtain ⟨hiff,hdone⟩ := Progress.processEvents_returns (p := u.progress m) h hnodup hids rfl env
    events
  obtain ⟨st',hst',hsame⟩ := Progress.processEvents_stream (p := u.progress m) hst env events
  have hempty : events.isEmpty = false := by simpa using hevents
  unfold Service.handleEvents
  simp only [hempty,Bool.false_eq_true,if_false]
  rw [← hiff]
  cases hraised : ((u.progress m).processEvents m env events).raised with
  | some id => simp
  | none =>
    obtain ⟨hexecutions,hlatest⟩ := hdone hraised
    refine ⟨by simp,?_⟩
    intro _
    refine ⟨hexecutions,?_⟩
    rw [withStream_of_get? hst']
    refine ⟨_,streams_setStream _ m.key _,hsame.shmName,hsame.slotCount,?_⟩
    intro last hlast
    exact hlatest.trans (foldl_max_getLast hsorted hafter last hlast)

theorem Service.frames_events {s u : Service K} {msg : ChunkMessage K} {d : Delivery K}
    (h : s.frames msg d = (u,some (m,events))) :
    (events.Pairwise fun a b => a.seq < b.seq) ∧ ∀ e, e ∈ events ↔
      ∃ contents, d.ring = some contents ∧ e ∈ contents.events ∧ m.lastSeq < e.seq ∧
        ∀ final ∈ m.msgSeq, e.seq ≤ final := by
  obtain ⟨t,_,hload⟩ := frames_some h
  have hsorted := loadChunkEvents_sorted (t.withStream m.key () fun st =>
    ((),st.rememberRange t.settings.contextCacheLimit m.context m.range)).2 m d.ring
  have hmem := loadChunkEvents_mem (t.withStream m.key () fun st =>
    ((),st.rememberRange t.settings.contextCacheLimit m.context m.range)).2 m d.ring
  rw [hload] at hsorted hmem
  exact ⟨hsorted,hmem⟩

theorem Service.frames_after {s u : Service K} {msg : ChunkMessage K} {d : Delivery K}
    (h : s.frames msg d = (u,some (m,events))) :
    ∀ e ∈ events, m.lastSeq < e.seq := by
  intro e he
  obtain ⟨_,_,_,hafter,_⟩ := ((frames_events h).2 e).1 he
  exact hafter

/-- In every state of the process, a message that makes frames be executed is handled to its end
just if every frame finds or gets the rings of the workspaces. -/
theorem complete_iff_createsRings (settings : Settings) (inputs : List (Input K))
    (msg : ChunkMessage K) (d : Delivery K) (u : Service K) (m : Prepared K)
    (events : List (RingEvent K))
    (hframes : (run Feed.step (Feed.initial K settings) inputs).service.frames msg d =
      (u,some (m,events))) (hevents : events ≠ []) :
    ((run Feed.step (Feed.initial K settings) inputs).service.handleChunkReady msg d).Complete
        (run Feed.step (Feed.initial K settings) inputs).service m events ↔
      (u.progress m).CreatesRings m d.env events := by
  have hindexed := Feed.indexed settings inputs
  generalize (run Feed.step (Feed.initial K settings) inputs).service = s at hframes hindexed ⊢
  obtain ⟨hindexed',hnodup,hmem,henabled⟩ := hindexed.frames hframes
  obtain ⟨hsorted,_⟩ := frames_events hframes
  obtain ⟨_,_,_,_,_,hthere⟩ := frames_stream hframes
  obtain ⟨st,hst⟩ := hthere hevents
  obtain ⟨hiff,hdone⟩ := handleEvents_done hindexed' hnodup henabled hst d.env hevents hsorted
    (frames_after hframes)
  have hhandle : s.handleChunkReady msg d = u.handleEvents m d.env events := by
    simp [Service.handleChunkReady,hframes]
  rw [hhandle,← hiff]
  constructor
  · exact (·.returns)
  · intro hraised
    obtain ⟨hexecutions,st',hst',_,_,hlast⟩ := hdone hraised
    constructor
    · exact hraised
    · intro id hsubscribed event hevent harray
      rw [hexecutions]
      apply count_eq_one_of_mem (executors_nodup hnodup hsorted)
      rw [mem_flatMap]
      exact ⟨event,hevent,mem_executors.2 ⟨harray,(hmem id).2 hsubscribed,rfl⟩⟩
    · exact ⟨st',hst',hlast⟩

end

theorem pairwise_one : [(1 : Int)].Pairwise (· < ·) := by simp

def firstFrame (failing : List String) : Delivery integers := delivery [1] pairwise_one failing

def CompletesFrames (inputs : List (Input integers)) (msg : ChunkMessage integers)
    (d : Delivery integers) : Prop :=
  ∀ u m events,
    (run Feed.step (Feed.initial integers noThrottle) inputs).service.frames msg d =
      (u,some (m,events)) → events ≠ [] →
    ((run Feed.step (Feed.initial integers noThrottle) inputs).service.handleChunkReady msg d).Complete
      (run Feed.step (Feed.initial integers noThrottle) inputs).service m events

theorem complete_iff_createsRings_two :
    ∃ u m events, (run Feed.step (Feed.initial integers noThrottle) [watch "a",watch "b"]).service.frames
        (announce "ring" 1 .absent) (firstFrame []) = (u,some (m,events)) ∧
      ((run Feed.step (Feed.initial integers noThrottle) [watch "a",watch "b"]).service.handleChunkReady
        (announce "ring" 1 .absent) (firstFrame [])).Complete
          (run Feed.step (Feed.initial integers noThrottle) [watch "a",watch "b"]).service m events := by
  refine ⟨_,_,_,rfl,(complete_iff_createsRings noThrottle [watch "a",watch "b"]
    (announce "ring" 1 .absent) (firstFrame []) _ _ _ rfl (cons_ne_nil _ _)).2 ?_⟩
  refine ⟨?_,trivial⟩
  intro array _ id _ w _ _ outputs _ out _ _ _
  exact .inr rfl

theorem frame_lost_to_ring :
    ¬ CompletesFrames [watch "a",watch "b"] (announce "ring" 1 .absent) (firstFrame ["a"]) := by
  intro h
  have hcomplete := h _ _ _ rfl (cons_ne_nil _ _)
  exact absurd hcomplete.returns (by decide)

end ExperimentControl.Analysis

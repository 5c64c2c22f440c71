import ExperimentControl.Analysis.Reuse

/-!
Snapshots of outputs over edits, resets and events: what is remembered of an output, and when it is
still what the output names.
-/

namespace ExperimentControl.Analysis
open Lib OrderedDict List Option Service

section
variable {K : Kernels}

def StatefulIn (nodes : Nodes K) (n : String) : Prop :=
  ∃ node, nodes.get? n = some node ∧ opStateful node.op = true

/-- The payload is of the node that the output names, under its present definition and those of all
that it depends on, and since their last resets. -/
structure WorkspaceRuntime.Shows (w : WorkspaceRuntime K) (out : PublishOutput) (p : Payload K) :
    Prop where
  node : p.output.nodeId = out.nodeId
  graph : SameCone p.output.nodes w.compiled.nodes out.nodeId
  resets : ∀ a, Cone (depsOf w.compiled.nodes) out.nodeId a → StatefulIn w.compiled.nodes a →
    p.output.resets a = w.resets a

structure Service.Current (s : Service K) : Prop where
  wellFormed : ∀ id w, s.workspaces.get? id = some w → w.compiled.WellFormed
  remembered : ∀ id o p, s.latest.get? (id,o) = some p → ∃ w, s.workspaces.get? id = some w ∧
    ∃ out ∈ w.compiled.outputs, out.outputId = o ∧ w.Shows out p

/-- A put or a reset of a node drops every payload that it outdates: what is remembered is of a node
that begins anew, or of the node that the output names, with nothing edited or begun anew in its
cone. -/
def Service.Drops (s : Service K) : Action K → Prop
  | .edit (.put config expected _) => ∀ c, compileWorkspaceGraph config = .ok c →
      checkExpectedRevision (s.workspaces.get? c.workspaceId) expected = .ok () →
      ∀ w, s.workspaces.get? c.workspaceId = some w → ∀ out ∈ c.outputs, ∀ p,
        s.latest.get? (c.workspaceId,out.outputId) = some p →
        p.output.nodeId ∈ resetNodeIds (some w) c ∨
          p.output.nodeId = out.nodeId ∧ SameCone w.compiled.nodes c.nodes out.nodeId ∧
            ∀ a, Cone (depsOf c.nodes) out.nodeId a → a ∉ resetNodeIds (some w) c
  | .reset (some id) (some n) => ∀ w, s.workspaces.get? id = some w →
      w.nodeState.contains n = true → ∀ out ∈ w.compiled.outputs, ∀ p,
        s.latest.get? (id,out.outputId) = some p →
        p.output.nodeId = n ∨ ¬ Cone (depsOf w.compiled.nodes) out.nodeId n
  | _ => True

variable {key : String × String} {s : Service K} {p : Payload K} {id : String}

theorem clearSnapshotOutputs_get? {nodeId : Option String}
    (h : (s.clearSnapshotOutputs id nodeId).latest.get? key = some p) :
    s.latest.get? key = some p ∧ (key.1 = id → ∃ n, nodeId = some n ∧ p.output.nodeId ≠ n) := by
  simp only [Service.clearSnapshotOutputs,get?_filterEntries,filter_eq_some_iff] at h
  refine ⟨h.1,?_⟩
  intro hid
  cases nodeId with
  | none => simp [hid] at h
  | some n => exact ⟨n,rfl,by simpa [hid] using h.2⟩

theorem foldl_clearSnapshotOutputs_get? {ids : List String}
    (h : (ids.foldl (fun s nodeId => s.clearSnapshotOutputs id (some nodeId)) s).latest.get? key =
      some p) :
    s.latest.get? key = some p ∧ (key.1 = id → p.output.nodeId ∉ ids) := by
  induction ids generalizing s with
  | nil => exact ⟨h,by simp⟩
  | cons n rest ih =>
    obtain ⟨hget,hrest⟩ := ih h
    obtain ⟨hold,hn⟩ := clearSnapshotOutputs_get? hget
    refine ⟨hold,?_⟩
    intro hid
    obtain ⟨m,hm,hne⟩ := hn hid
    cases hm
    simp [hne,hrest hid]

variable {config : Config K} {c : CompiledWorkspace K} {axis : K.Axis}

theorem install_latest_get? {markDirty : Bool}
    (h : (s.install config c axis markDirty).latest.get? key = some p) :
    s.latest.get? key = some p ∧ (key.1 = c.workspaceId →
      (∃ out ∈ c.outputs, out.outputId = key.2) ∧
        p.output.nodeId ∉ resetNodeIds (s.workspaces.get? c.workspaceId) c) := by
  obtain ⟨hpruned,hkept⟩ := foldl_clearSnapshotOutputs_get? h
  simp only [Service.pruneSnapshotOutputs,get?_filterKeys] at hpruned
  split at hpruned
  · rename_i hkeep
    refine ⟨hpruned,fun hid => ⟨?_,hkept hid⟩⟩
    simpa [hid] using hkeep
  · cases hpruned

theorem initStatefulNode_contains {nodeState : OrderedDict String (Cell K)} {n a : String}
    (h : nodeState.contains a = true ∨ n = a ∧ StatefulIn c.nodes a) :
    (initStatefulNode c nodeState n).contains a = true := by
  unfold initStatefulNode
  split
  · rename_i hold
    cases h with
    | inl hcontains => exact hcontains
    | inr hnew => exact hnew.1 ▸ hold
  · cases h with
    | inl hcontains =>
      split
      · split
        · simp only [OrderedDict.contains,get?_set] at hcontains ⊢
          split
          · rfl
          · exact hcontains
        · exact hcontains
      · exact hcontains
    | inr hnew =>
      obtain ⟨rfl,node,hnode,hop⟩ := hnew
      simp [hnode,hop,OrderedDict.contains]

theorem initStatefulNodes_contains
    {nodeState : OrderedDict String (Cell K)} {a : String} (ha : a ∈ c.order)
    (hstateful : StatefulIn c.nodes a) : (initStatefulNodes c nodeState).contains a = true := by
  have hfold : ∀ (order : List String) (nodeState : OrderedDict String (Cell K)),
      nodeState.contains a = true ∨ a ∈ order →
      (order.foldl (initStatefulNode c) nodeState).contains a = true := by
    intro order
    induction order with
    | nil =>
      intro nodeState h
      simpa using h
    | cons n rest ih =>
      intro nodeState h
      apply ih
      cases h with
      | inl hcontains => exact .inl (initStatefulNode_contains (.inl hcontains))
      | inr hmem =>
        cases mem_cons.1 hmem with
        | inl heq => exact .inl (initStatefulNode_contains (.inr ⟨heq.symm,hstateful⟩))
        | inr hrest => exact .inr hrest
  exact hfold c.order nodeState (.inr ha)

variable {w : WorkspaceRuntime K}

theorem newRuntime_resets {a : String} (ha : a ∈ c.order) (hstateful : StatefulIn c.nodes a)
    (hkept : a ∉ resetNodeIds (some w) c) :
    (newRuntime (some w) config c axis).resets a = w.resets a := by
  have hreused : (workspaceReusedNodeState (some w) c).contains a = true := by
    by_contra hnot
    apply hkept
    have hinit := @initStatefulNodes_contains _ c (workspaceReusedNodeState (some w) c) a ha hstateful
    rw [OrderedDict.contains,isSome_iff_exists] at hinit
    obtain ⟨cell,hcell⟩ := hinit
    rw [get?_eq_some_iff] at hcell
    exact mem_filter.2 ⟨mem_map_of_mem hcell,by simpa using hnot⟩
  simp [newRuntime,hreused]

theorem Service.Current.install (h : s.Current) {markDirty : Bool} (hc : c.WellFormed)
    (hdrops : ∀ w, s.workspaces.get? c.workspaceId = some w → ∀ out ∈ c.outputs, ∀ p,
      s.latest.get? (c.workspaceId,out.outputId) = some p →
      p.output.nodeId ∈ resetNodeIds (some w) c ∨
        p.output.nodeId = out.nodeId ∧ SameCone w.compiled.nodes c.nodes out.nodeId ∧
          ∀ a, Cone (depsOf c.nodes) out.nodeId a → a ∉ resetNodeIds (some w) c) :
    (s.install config c axis markDirty).Current where
  wellFormed id w hw := by
    rw [install_workspaces,get?_set] at hw
    split at hw
    · cases hw
      exact hc
    · exact h.wellFormed id w hw
  remembered id o p hp := by
    obtain ⟨hold,hnew⟩ := install_latest_get? hp
    obtain ⟨w,hw,was,hwas,hid,hshows⟩ := h.remembered id o p hold
    rw [install_workspaces,get?_set]
    by_cases hsame : id = c.workspaceId
    · subst hsame
      obtain ⟨⟨out,hout,ho⟩,hkept⟩ := hnew rfl
      simp only at ho
      subst ho
      rw [hw] at hkept
      obtain ⟨hnode,hcone,hstates⟩ := (hdrops w hw out hout p hold).resolve_left hkept
      rw [if_pos rfl]
      refine ⟨_,rfl,out,hout,rfl,?_⟩
      have hwasNode : was.nodeId = out.nodeId := hshows.node.symm.trans hnode
      constructor
      · exact hnode
      · exact (hwasNode ▸ hshows.graph).trans hcone
      · intro a ha hstateful
        have hexecuted := hc.topological.cone (hc.outputs_executed out hout) ha
        rw [hw,newRuntime_resets hexecuted hstateful (hstates a ha)]
        apply hshows.resets
        · exact hwasNode ▸ hcone.cone ha
        · obtain ⟨x,y,hx,hy,hxy⟩ := hcone a ha
          obtain ⟨node,hnode',hop⟩ := hstateful
          have hsame : y = node := Option.some.inj (hy.symm.trans hnode')
          subst hsame
          exact ⟨x,hx,(NodeSpec.same_iff.1 hxy).1 ▸ hop⟩
    · rw [if_neg hsame]
      exact ⟨w,hw,was,hwas,hid,hshows⟩

variable {w w' : WorkspaceRuntime K}

theorem Service.Current.set {s s' : Service K} (h : s.Current) (hw : s.workspaces.get? id = some w)
    (hgraph : w'.compiled = w.compiled) (hset : s'.workspaces = s.workspaces.set id w')
    (hlatest : ∀ key p, s'.latest.get? key = some p → s.latest.get? key = some p ∧
      (key.1 = id → ∀ out ∈ w.compiled.outputs, out.outputId = key.2 → w.Shows out p →
        w'.Shows out p)) : s'.Current where
  wellFormed other v hv := by
    rw [hset,get?_set] at hv
    split at hv
    · cases hv
      exact hgraph ▸ h.wellFormed id w hw
    · exact h.wellFormed other v hv
  remembered other o p hp := by
    obtain ⟨hold,hkept⟩ := hlatest (other,o) p hp
    obtain ⟨v,hv,out,hout,ho,hshows⟩ := h.remembered other o p hold
    rw [hset,get?_set]
    by_cases hsame : other = id
    · subst hsame
      rw [hw] at hv
      cases hv
      rw [if_pos rfl]
      exact ⟨w',rfl,out,hgraph ▸ hout,ho,hkept rfl out hout ho hshows⟩
    · rw [if_neg hsame]
      exact ⟨v,hv,out,hout,ho,hshows⟩

theorem Service.Current.delete {s s' : Service K} (h : s.Current)
    {expected : Option Int} (hdelete : s.delete id expected = .ok s') : s'.Current := by
  have hlatest : s'.latest = (s.clearSnapshotOutputs id none).latest := by
    unfold Service.delete at hdelete
    cases expected with
    | none =>
      cases hdelete
      rfl
    | some expected =>
      simp only at hdelete
      split at hdelete
      · cases hdelete
        rfl
      · cases hdelete
  have hworkspaces := (delete_ok hdelete).2
  constructor
  · intro other w hw
    rw [hworkspaces,get?_erase_eq] at hw
    split at hw
    · cases hw
    · exact h.wellFormed other w hw
  · intro other o p hp
    rw [hlatest] at hp
    obtain ⟨hold,hgone⟩ := clearSnapshotOutputs_get? hp
    have hother : other ≠ id := by
      intro hsame
      obtain ⟨n,hn,_⟩ := hgone hsame
      cases hn
    rw [hworkspaces,get?_erase_eq,if_neg hother]
    exact h.remembered other o p hold

theorem Service.Current.loadEntries (h : s.Current)
    (hnone : ∀ key, s.latest.get? key = none) (axes : String × String → K.Axis)
    (configs : List (Config K)) : (s.loadEntries axes configs).1.Current := by
  refine (loadEntries_invariant (P := fun t : Service K =>
    t.Current ∧ ∀ key, t.latest.get? key = none) ?_ ⟨h,hnone⟩).1
  intro s config c _ hc hs
  obtain ⟨hcurrent,hnone⟩ := hs
  constructor
  · apply hcurrent.install (compileWorkspaceGraph_wellFormed hc)
    intro w _ out _ p hp
    simp [hnone] at hp
  · intro key
    cases hp : (s.install config c (axes c.streamKey) false).latest.get? key with
    | none => rfl
    | some p =>
      have hold := (install_latest_get? hp).1
      simp [hnone] at hold

theorem Service.current_clear (s : Service K) (markDirty : Bool) : (s.clear markDirty).Current := by
  constructor
  · intro id w hw
    cases hw
  · intro id o p hp
    cases hp

theorem WorkspaceRuntime.Shows.resetNode {out : PublishOutput}
    (h : w.Shows out p) {n : String} (hreset : w.resetNode n = some w')
    (hn : ¬ Cone (depsOf w.compiled.nodes) out.nodeId n) : w'.Shows out p := by
  simp only [WorkspaceRuntime.resetNode,map_eq_some_iff] at hreset
  obtain ⟨cell,_,rfl⟩ := hreset
  constructor
  · exact h.node
  · exact h.graph
  · intro a ha hstateful
    have hother : a ≠ n := fun heq => hn (heq ▸ ha)
    simp only [Function.update_of_ne hother]
    exact h.resets a ha hstateful

theorem Service.Current.resetNode (h : s.Current) {id n : String}
    (hw : s.workspaces.get? id = some w)
    (hreset : w.resetNode n = some w') (hdrops : s.Drops (.reset (some id) (some n))) :
    ({ s with workspaces := s.workspaces.set id w' }.clearSnapshotOutputs id (some n)).Current := by
  have hparts : w.nodeState.contains n = true ∧ w'.compiled = w.compiled := by
    simp only [WorkspaceRuntime.resetNode,map_eq_some_iff] at hreset
    obtain ⟨cell,hcell,rfl⟩ := hreset
    exact ⟨by simp [OrderedDict.contains,hcell],rfl⟩
  apply h.set hw hparts.2 rfl
  intro key p hp
  obtain ⟨hold,hgone⟩ := clearSnapshotOutputs_get? hp
  refine ⟨hold,?_⟩
  intro hsame out hout ho hshows
  obtain ⟨m,hm,hother⟩ := hgone hsame
  cases hm
  have hp' : s.latest.get? (id,out.outputId) = some p := by
    rw [ho,← hsame]
    exact hold
  exact hshows.resetNode hreset ((hdrops w hw hparts.1 out hout p hp').resolve_left hother)

theorem Service.Current.reset (h : s.Current) {id nodeId : Option String}
    (hdrops : s.Drops (.reset id nodeId)) : (s.reset id nodeId).Current := by
  cases id with
  | none =>
    cases nodeId with
    | some n => exact h
    | none =>
      constructor
      · intro id w hw
        simp only [Service.reset,get?_mapValues,map_eq_some_iff] at hw
        obtain ⟨before,hbefore,rfl⟩ := hw
        exact h.wellFormed id before hbefore
      · intro id o p hp
        cases hp
  | some id =>
    cases hw : s.workspaces.get? id with
    | none => simpa only [Service.reset,hw] using h
    | some w =>
      cases nodeId with
      | none =>
        simp only [Service.reset,hw]
        have hgraph : w.resetStates.compiled = w.compiled := rfl
        apply h.set hw hgraph rfl
        intro key p hp
        obtain ⟨hold,hgone⟩ := clearSnapshotOutputs_get? hp
        refine ⟨hold,?_⟩
        intro hsame
        obtain ⟨n,hn,_⟩ := hgone hsame
        cases hn
      | some n =>
        cases hreset : w.resetNode n with
        | none => simpa only [Service.reset,hw,hreset] using h
        | some w' =>
          simp only [Service.reset,hw,hreset]
          exact h.resetNode hw hreset hdrops

theorem outputPayloads_shows (h : w.compiled.WellFormed)
    {values : Values K} {includeHist includeTrace : Bool} {o : Output K}
    (ho : o ∈ w.outputPayloads values includeHist includeTrace) :
    ∃ out ∈ w.compiled.outputs, out.outputId = o.outputId ∧
      ∀ stream seq context, w.Shows out ⟨o,stream,seq,context⟩ := by
  simp only [WorkspaceRuntime.outputPayloads,mem_filterMap,map_eq_some_iff] at ho
  obtain ⟨out,hout,value,_,rfl⟩ := ho
  refine ⟨out,hout,rfl,?_⟩
  intro stream seq context
  constructor
  · rfl
  · exact h.sameCone (h.outputs_executed out hout)
  · intro a _ _
    rfl

namespace Service

theorem publishOutput_latest (s : Service K) (id : String) (shot : Shot K)
    (env : Surroundings) (out : Output K) : (s.publishOutput id shot env out).1.latest = s.latest ∨
      (s.publishOutput id shot env out).1.latest = (s.remember id shot out).latest := by
  have hensure : ∀ key points, (s.ensureTraceWriter key points env).1.latest = s.latest := by
    intro key points
    unfold ensureTraceWriter
    simp only
    repeat' split
    all_goals rfl
  unfold publishOutput
  split
  · split
    · exact .inl rfl
    · have hkey := hensure (id,out.outputId) (K.size out.value)
      dsimp only
      generalize s.ensureTraceWriter (id,out.outputId) (K.size out.value) env = result at hkey
      obtain ⟨t,there⟩ := result
      cases there with
      | false => exact .inl hkey
      | true =>
        dsimp only
        split
        · exact .inl hkey
        · refine .inr ?_
          simp only at hkey
          simp [remember,hkey]
  · exact .inr rfl

theorem Current.publishOutput (h : s.Current)
    (hw : s.workspaces.get? id = some w) {shot : Shot K} {env : Surroundings} {o : Output K}
    (ho : ∃ out ∈ w.compiled.outputs, out.outputId = o.outputId ∧
      ∀ stream seq context, w.Shows out ⟨o,stream,seq,context⟩) :
    (s.publishOutput id shot env o).1.Current := by
  have hworkspaces := (s.publishOutput_steady id shot env o).workspaces
  constructor
  · intro other v hv
    rw [hworkspaces] at hv
    exact h.wellFormed other v hv
  · intro other name p hp
    rw [hworkspaces]
    cases s.publishOutput_latest id shot env o with
    | inl hsame =>
      rw [hsame] at hp
      exact h.remembered other name p hp
    | inr hnew =>
      rw [hnew] at hp
      simp only [remember,get?_set] at hp
      split at hp
      · rename_i hkey
        cases hkey
        cases hp
        obtain ⟨out,hout,hid,hshows⟩ := ho
        exact ⟨w,hw,out,hout,hid,hshows _ _ _⟩
      · exact h.remembered other name p hp

theorem Current.publishOutputs (h : s.Current)
    (hw : s.workspaces.get? id = some w) {shot : Shot K}
    {env : Surroundings} {outputs : List (Output K)}
    (houtputs : ∀ o ∈ outputs, ∃ out ∈ w.compiled.outputs, out.outputId = o.outputId ∧
      ∀ stream seq context, w.Shows out ⟨o,stream,seq,context⟩) :
    (s.publishOutputs id shot env outputs).1.Current := by
  induction outputs generalizing s with
  | nil => exact h
  | cons o rest ih =>
    have hfirst : (s.publishOutput id shot env o).1.Current :=
      h.publishOutput hw (houtputs o (by simp))
    have hworkspaces := (s.publishOutput_steady id shot env o).workspaces
    unfold publishOutputs
    generalize s.publishOutput id shot env o = result at hfirst hworkspaces
    obtain ⟨t,returned⟩ := result
    cases returned with
    | false => exact hfirst
    | true =>
      simp only at hfirst hworkspaces
      apply ih hfirst (hworkspaces ▸ hw)
      intro o' ho'
      exact houtputs o' (by simp [ho'])

theorem Current.processWorkspace (h : s.Current)
    (hw : s.workspaces.get? id = some w) (shot : Shot K)
    (env : Surroundings) : (s.processWorkspace id w shot env).1.Current := by
  obtain ⟨hsteady,hlatest⟩ := s.includes_frame w.compiled shot env
  have hworkspaces := hsteady.workspaces
  unfold Service.processWorkspace
  clear hsteady
  generalize s.includes w.compiled shot env = included at hworkspaces hlatest
  obtain ⟨includeHist,includeTrace,t⟩ := included
  simp only at hworkspaces hlatest ⊢
  -- an execution keeps the graph and the resets, so what was shown stays shown
  have hset : ∀ (w' : WorkspaceRuntime K) (s' : Service K), w'.compiled = w.compiled →
      w'.resets = w.resets → s'.workspaces = t.workspaces.set id w' → s'.latest = t.latest →
      s'.Current := by
    intro w' s' hgraph hresets hset hkept
    apply h.set hw hgraph (hworkspaces ▸ hset)
    intro key p hp
    rw [hkept,hlatest] at hp
    refine ⟨hp,?_⟩
    intro _ out _ _ hshows
    exact ⟨hshows.node,hgraph ▸ hshows.graph,hgraph ▸ hresets ▸ hshows.resets⟩
  obtain ⟨hgraph,hresets,houtputs⟩ := executeEvent_frame w shot.observation includeHist includeTrace
  generalize w.executeEvent shot.observation includeHist includeTrace = result at hgraph hresets houtputs
  obtain ⟨v,result⟩ := result
  simp only at hgraph hresets houtputs
  cases result with
  | error e =>
    exact hset { v with droppedSamples := v.droppedSamples+1 } _ hgraph hresets rfl rfl
  | ok outputs =>
    let v' := { v with processedSamples := v.processedSamples+1 }
    let t' : Service K := { t with
      workspaces := t.workspaces.set id v'
      processedUpdates := t.processedUpdates+1 }
    have hcurrent : t'.Current := hset v' t' hgraph hresets rfl rfl
    have hget : t'.workspaces.get? id = some v' := by simp [t']
    obtain ⟨values,heq⟩ := houtputs outputs rfl
    apply hcurrent.publishOutputs hget
    intro o ho
    obtain ⟨out,hout,hid,hshows⟩ := outputPayloads_shows (h.wellFormed id w hw) (heq ▸ ho)
    refine ⟨out,hgraph ▸ hout,hid,?_⟩
    intro stream seq context
    have hsame := hshows stream seq context
    exact ⟨hsame.node,hgraph ▸ hsame.graph,hgraph ▸ hresets ▸ hsame.resets⟩

theorem Current.processWorkspaces (h : s.Current) (shot : Shot K)
    (env : Surroundings) (ids : List String) :
    (s.processWorkspaces shot env ids).service.Current := by
  induction ids generalizing s with
  | nil => exact h
  | cons id rest ih =>
    unfold processWorkspaces
    cases hw : s.workspaces.get? id with
    | none => exact ih h
    | some w =>
      simp only
      split
      · have hnext := h.processWorkspace hw shot env
        generalize s.processWorkspace id w shot env = result at hnext
        obtain ⟨t,returned⟩ := result
        cases returned with
        | false => exact hnext
        | true => exact ih hnext
      · exact ih h

theorem Current.act (h : s.Current) {a : Action K} (hdrops : s.Drops a) :
    (s.act a).Current := by
  cases a with
  | reset id nodeId => exact h.reset hdrops
  | event shot env => exact h.processWorkspaces shot env _
  | edit edit =>
    simp only [Service.act]
    cases edit with
    | read id => exact h
    | put config expected axes =>
      simp only [edit]
      cases hput : s.put config expected axes true with
      | error e => exact h
      | ok s' =>
        obtain ⟨c,hc,hexpected,rfl⟩ := put_ok hput
        exact h.install (compileWorkspaceGraph_wellFormed hc) (hdrops c hc hexpected)
    | delete id expected =>
      simp only [edit]
      cases hdelete : s.delete id expected with
      | error e => exact h
      | ok s' => exact h.delete hdelete
    | clear => exact s.current_clear true
    | reload file axes =>
      simp only [edit]
      cases s.reload_cases file axes with
      | inl hsame =>
        rw [hsame]
        exact h
      | inr hloaded =>
        obtain ⟨payload,configs,dirty,_,_,heq⟩ := hloaded
        have hcurrent := (s.current_clear false).loadEntries (fun _ => rfl) axes configs
        rw [heq]
        exact ⟨hcurrent.wellFormed,hcurrent.remembered⟩

theorem snapshotOutputs_remembered {params : SnapshotParams}
    {items : List (PublishOutput × Payload K)} (h : s.snapshotOutputs id params = some items)
    {out : PublishOutput} (hmem : (out,p) ∈ items) :
    ∃ w, s.workspaces.get? id = some w ∧ out ∈ w.compiled.outputs ∧
      ∃ was, s.latest.get? (id,out.outputId) = some was ∧ p.output.nodeId = was.output.nodeId ∧
        p.output.nodes = was.output.nodes ∧ p.output.resets = was.output.resets := by
  simp only [snapshotOutputs,map_eq_some_iff] at h
  obtain ⟨w,hw,rfl⟩ := h
  obtain ⟨out',hout,hitem⟩ := mem_filterMap.1 hmem
  refine ⟨w,hw,?_⟩
  split at hitem
  · cases hitem
  · split at hitem
    · cases hitem
    · rename_i was hwas
      split at hitem
      · cases hitem
      · split at hitem
        · simp only [map_eq_some_iff] at hitem
          obtain ⟨value,_,heq⟩ := hitem
          cases heq
          exact ⟨hout,was,hwas,rfl,rfl,rfl⟩
        · cases hitem
          exact ⟨hout,p,hwas,rfl,rfl,rfl⟩

end Service

/-- In every run whose puts and resets of nodes drop the payloads that they outdate, a snapshot
shows every output as what it names now, under the present definitions and since the last resets. -/
theorem snapshot_current_of_drops (settings : Settings) (actions : List (Action K))
    (hdrops : Meets Service.act Service.Drops (Service.initial K settings) actions) (id : String)
    (params : SnapshotParams) (items : List (PublishOutput × Payload K))
    (hitems : (run Service.act (Service.initial K settings) actions).snapshotOutputs id params =
      some items) (out : PublishOutput) (p : Payload K) (hmem : (out,p) ∈ items) :
    ∃ w, (run Service.act (Service.initial K settings) actions).workspaces.get? id = some w ∧
      out ∈ w.compiled.outputs ∧ w.Shows out p := by
  have hcurrent := hdrops.invariant (P := Service.Current) (fun s a h hok => h.act hok) (by
    constructor
    · intro id w hw
      cases hw
    · intro id o p hp
      cases hp)
  obtain ⟨w,hw,hout,was,hwas,hnode,hnodes,hresets⟩ := snapshotOutputs_remembered hitems hmem
  obtain ⟨w',hw',out',hout',ho,hshows⟩ := hcurrent.remembered id out.outputId was hwas
  rw [hw] at hw'
  cases hw'
  have hsame : out' = out :=
    inj_on_of_nodup_map (hcurrent.wellFormed id w hw).outputs_nodup hout' hout ho
  subst hsame
  exact ⟨w,hw,hout,hnode.trans hshows.node,hnodes ▸ hshows.graph,hresets ▸ hshows.resets⟩

end

def scaledMeanConfig : Config integers :=
  ⟨"w",true,some [integerNode "src" "source.stream" ⟨1,1⟩ [],
    integerNode "mean" "trace.rolling_mean" ⟨1,2⟩ [("trace","src")],
    integerNode "scaled" "trace.scale" ⟨2,1⟩ [("trace","mean")]],
    some [traceOutput "source" "src",traceOutput "result" "scaled"]⟩

def everyOutput : SnapshotParams := ⟨none,none,none⟩

def Service.shown (s : Service integers) : List (String × String) :=
  ((s.snapshotOutputs "w" everyOutput).getD []).map fun e => (e.1.outputId,e.2.output.nodeId)

def resetMean : Action integers := .reset (some "w") (some "mean")

/-- The mean is published itself, so its reset drops its payload and leaves that of the source. -/
theorem snapshot_current_of_drops_source : (run Service.act (Service.initial integers noThrottle)
      [putMean 2 "mean",frame [1],resetMean]).shown = [("source","src")] ∧
    ∀ items, (run Service.act (Service.initial integers noThrottle)
        [putMean 2 "mean",frame [1],resetMean]).snapshotOutputs "w" everyOutput = some items →
      ∀ out p, (out,p) ∈ items → ∃ w, (run Service.act (Service.initial integers noThrottle)
            [putMean 2 "mean",frame [1],resetMean]).workspaces.get? "w" = some w ∧
          out ∈ w.compiled.outputs ∧ w.Shows out p := by
  refine ⟨by decide,?_⟩
  intro items hitems out p hmem
  refine snapshot_current_of_drops noThrottle [putMean 2 "mean",frame [1],resetMean] ?_ "w"
    everyOutput items hitems out p hmem
  refine ⟨?_,trivial,?_,trivial⟩
  · intro c hc _ w hw
    cases hw
  · intro w hw _ out hout p hp
    cases hw
    cases hout with
    | head =>
      refine .inr ?_
      intro hcone
      -- the source depends on nothing
      have hsrc : "mean" = "src" := hcone.subset (P := fun a => a = "src") rfl (by
        intro a d ha hd
        subst ha
        cases hd)
      exact absurd hsrc (by decide)
    | tail _ htail =>
      cases htail with
      | head =>
        cases hp
        exact .inl rfl
      | tail _ hnone => cases hnone

theorem stale_snapshot : ¬ ∀ items, (run Service.act (Service.initial integers noThrottle)
        [.edit (.put scaledMeanConfig none fun _ => ()),frame [1],resetMean]).snapshotOutputs "w"
          everyOutput = some items → ∀ out p, (out,p) ∈ items →
        ∃ w, (run Service.act (Service.initial integers noThrottle)
            [.edit (.put scaledMeanConfig none fun _ => ()),frame [1],resetMean]).workspaces.get? "w" =
              some w ∧ out ∈ w.compiled.outputs ∧ w.Shows out p := by
  intro h
  obtain ⟨w,hw,_,hshows⟩ := h _ rfl _ _ (mem_cons_of_mem _ (mem_singleton.2 rfl))
  cases hw
  have hresets := hshows.resets "mean" (Cone.self.dep (by decide)) ⟨_,rfl,by decide⟩
  exact absurd hresets (by decide)

end ExperimentControl.Analysis

import ExperimentControl.Analysis.Events
import ExperimentControl.Analysis.Revisions

/-!
Accumulators over edits: a state is carried over while its node and all that it depends on keep
their definitions, and what every action does to the workspaces.
-/

namespace ExperimentControl.Analysis
open Lib OrderedDict List Service

section
variable {K : Kernels}

theorem sameInputs_iff {a b : OrderedDict String String} :
    sameInputs a b = true ↔ ∀ e, e ∈ a.entries ↔ e ∈ b.entries := by
  simp only [sameInputs,Bool.and_eq_true,all_eq_true,decide_eq_true_eq,get?_eq_some_iff]
  constructor
  · intro h e
    exact ⟨fun he => h.1 e he,fun he => h.2 e he⟩
  · intro h
    exact ⟨fun e he => (h e).1 he,fun e he => (h e).2 he⟩

theorem NodeSpec.same_iff {a b : NodeSpec K} :
    a.same b = true ↔ a.op = b.op ∧ a.params = b.params ∧ ∀ e, e ∈ a.inputs.entries ↔ e ∈ b.inputs.entries := by
  simp [NodeSpec.same,sameInputs_iff,and_assoc]

theorem NodeSpec.same_refl (a : NodeSpec K) : a.same a = true := by simp [NodeSpec.same_iff]

theorem NodeSpec.same_trans {a b c : NodeSpec K} (hab : a.same b = true) (hbc : b.same c = true) :
    a.same c = true := by
  rw [NodeSpec.same_iff] at *
  exact ⟨hab.1.trans hbc.1,hab.2.1.trans hbc.2.1,fun e => (hab.2.2 e).trans (hbc.2.2 e)⟩

theorem NodeSpec.same_deps {a b : NodeSpec K} (h : a.same b = true) {d : String} :
    d ∈ a.deps ↔ d ∈ b.deps := by
  rw [NodeSpec.same_iff] at h
  simp only [NodeSpec.deps,mem_map,mem_filter,h.1]
  constructor
  · intro hd
    obtain ⟨e,he,heq⟩ := hd
    exact ⟨e,⟨(h.2.2 e).1 he.1,he.2⟩,heq⟩
  · intro hd
    obtain ⟨e,he,heq⟩ := hd
    exact ⟨e,⟨(h.2.2 e).2 he.1,he.2⟩,heq⟩

def SameAt (g h : Nodes K) (n : String) : Prop :=
  ∃ a b, g.get? n = some a ∧ h.get? n = some b ∧ a.same b = true

/-- The node and everything that it depends on in the second graph are as in the first one. -/
def SameCone (g h : Nodes K) (n : String) : Prop := ∀ a, Cone (depsOf h) n a → SameAt g h a

variable {n : String}

theorem SameAt.trans {f g h : Nodes K} (hfg : SameAt f g n) (hgh : SameAt g h n) :
    SameAt f h n := by
  obtain ⟨a,b,ha,hb,hab⟩ := hfg
  obtain ⟨b',c,hb',hc,hbc⟩ := hgh
  rw [hb] at hb'
  cases hb'
  exact ⟨a,c,ha,hc,NodeSpec.same_trans hab hbc⟩

theorem SameAt.deps {g h : Nodes K} {n d : String} (hsame : SameAt g h n) :
    d ∈ depsOf h n ↔ d ∈ depsOf g n := by
  obtain ⟨a,b,ha,hb,hab⟩ := hsame
  simp only [depsOf,ha,hb,Option.map_some,Option.getD_some]
  exact (NodeSpec.same_deps hab).symm

theorem SameCone.cone {g h : Nodes K} {n a : String} (hsame : SameCone g h n)
    (ha : Cone (depsOf h) n a) : Cone (depsOf g) n a :=
  ha.congr fun x hx _ hd => (hsame x hx).deps.1 hd

theorem SameCone.trans {f g h : Nodes K} (hfg : SameCone f g n)
    (hgh : SameCone g h n) : SameCone f h n := by
  intro a ha
  exact (hfg a (hgh.cone ha)).trans (hgh a ha)

variable {c : CompiledWorkspace K}

theorem CompiledWorkspace.WellFormed.sameCone (h : c.WellFormed)
    (hn : n ∈ c.order) : SameCone c.nodes c.nodes n := by
  intro a ha
  have hdeclared := h.declared a (h.topological.cone hn ha)
  rw [OrderedDict.contains,Option.isSome_iff_exists] at hdeclared
  obtain ⟨node,hnode⟩ := hdeclared
  exact ⟨node,node,hnode,hnode,node.same_refl⟩

theorem sameCone_of_not_dirty {old new : CompiledWorkspace K} (h : new.WellFormed)
    (hn : n ∈ new.order) (hclean : n ∉ workspaceDirtyNodes old new) :
    SameCone old.nodes new.nodes n := by
  have hsources : ∀ m, ∀ d ∈ depsOf new.nodes m, d ∈ sourcesOf new.nodes m := by
    intro m d hd
    simp only [depsOf,sourcesOf] at hd ⊢
    cases hm : new.nodes.get? m with
    | none => simp [hm] at hd
    | some node =>
      simp only [hm,Option.map_some,Option.getD_some,NodeSpec.deps,mem_map,mem_filter] at hd
      obtain ⟨e,he,heq⟩ := hd
      simp only [Option.map_some,Option.getD_some,NodeSpec.sources]
      exact heq ▸ mem_map_of_mem he.1
  intro a ha
  have hseed := unmarked_cone hsources h.topological h.nodup hn hclean ha
  split at hseed
  · rename_i before after hbefore hafter
    exact ⟨before,after,hbefore,hafter,by simpa using hseed⟩
  · cases hseed

/-- What the states of a workspace were fed with: each contribution was computed when the node and
what it depends on were defined as they are now. -/
structure WorkspaceRuntime.Meaningful (w : WorkspaceRuntime K) : Prop where
  wellFormed : w.compiled.WellFormed
  contributions : ∀ n cell, w.nodeState.get? n = some cell → ∀ g ∈ cell.contributions,
    SameCone g w.compiled.nodes n

def KeepsCones (w : WorkspaceRuntime K) (c : CompiledWorkspace K) : Prop :=
  ∀ n cell, (workspaceReusedNodeState (some w) c).get? n = some cell → cell.contributions ≠ [] →
    n ∉ c.order → SameCone w.compiled.nodes c.nodes n

theorem initStatefulNodes_get? {nodeState : OrderedDict String (Cell K)}
    {cell : Cell K} (h : (initStatefulNodes c nodeState).get? n = some cell) :
    nodeState.get? n = some cell ∨ cell.contributions = [] := by
  unfold initStatefulNodes at h
  generalize c.order = order at h
  induction order generalizing nodeState with
  | nil => exact .inl h
  | cons m rest ih =>
    rw [foldl_cons] at h
    cases ih h with
    | inl hget =>
      unfold initStatefulNode at hget
      split at hget
      · exact .inl hget
      · split at hget
        · split at hget
          · rw [get?_set] at hget
            split at hget
            · cases hget
              exact .inr rfl
            · exact .inl hget
          · exact .inl hget
        · exact .inl hget
    | inr hnew => exact .inr hnew

variable {w : WorkspaceRuntime K}

theorem reusedNodeState_get?
    {cell : Cell K} (h : (workspaceReusedNodeState (some w) c).get? n = some cell) :
    w.nodeState.get? n = some cell ∧ n ∉ workspaceDirtyNodes w.compiled c := by
  simp only [workspaceReusedNodeState,get?_filterKeys] at h
  by_cases hdirty : n ∈ workspaceDirtyNodes w.compiled c
  · simp [hdirty] at h
  · refine ⟨?_,hdirty⟩
    generalize (decide (n ∉ workspaceDirtyNodes w.compiled c) && _) = keep at h
    cases keep with
    | false => cases h
    | true => exact h

theorem WorkspaceRuntime.Meaningful.newRuntime {existing : Option (WorkspaceRuntime K)} {config : Config K}
    {axis : K.Axis} (hc : c.WellFormed)
    (h : ∀ w ∈ existing, w.Meaningful) (hkeeps : ∀ w ∈ existing, KeepsCones w c) :
    (newRuntime existing config c axis).Meaningful where
  wellFormed := hc
  contributions n cell hcell g hg := by
    cases initStatefulNodes_get? hcell with
    | inl hreused =>
      cases existing with
      | none => simp [workspaceReusedNodeState] at hreused
      | some w =>
        obtain ⟨hold,hclean⟩ := reusedNodeState_get? hreused
        have hsame : SameCone w.compiled.nodes c.nodes n := by
          by_cases hn : n ∈ c.order
          · exact sameCone_of_not_dirty hc hn hclean
          · exact hkeeps w rfl n cell hreused (ne_nil_of_mem hg) hn
        exact ((h w rfl).contributions n cell hold g hg).trans hsame
    | inr hnone => simp [hnone] at hg

theorem setCell_contributions {nodes : Nodes K} {axis : K.Axis} {obs : Observation K}
    {includeHist : Bool} {node : NodeSpec K} {values : Values K}
    {nodeState : OrderedDict String (Cell K)} {m n : String} {cell : Cell K}
    (h : (setCell nodeState m
      (executeNode nodes axis obs includeHist node values (nodeState.get? m)).1).get? n = some cell)
    {g : Nodes K} (hg : g ∈ cell.contributions) :
    (g = nodes ∧ n = m) ∨ ∃ before, nodeState.get? n = some before ∧ g ∈ before.contributions := by
  unfold setCell at h
  split at h
  · rename_i after hafter
    rw [get?_set] at h
    split at h
    · rename_i hnm
      cases h
      cases executeNode_contributions hafter g hg with
      | inl hnew => exact .inl ⟨hnew,hnm⟩
      | inr hold => exact .inr (hnm ▸ hold)
    · exact .inr ⟨cell,h,hg⟩
  · exact .inr ⟨cell,h,hg⟩

theorem executeNodes_contributions {nodes : Nodes K} {axis : K.Axis} {obs : Observation K}
    {includeHist : Bool} {order : List String} {values : Values K}
    {nodeState : OrderedDict String (Cell K)} {cell : Cell K}
    (h : (executeNodes nodes axis obs includeHist order values nodeState).1.get? n = some cell)
    {g : Nodes K} (hg : g ∈ cell.contributions) :
    (g = nodes ∧ n ∈ order) ∨ ∃ before, nodeState.get? n = some before ∧ g ∈ before.contributions := by
  induction order generalizing values nodeState with
  | nil => exact .inr ⟨cell,h,hg⟩
  | cons m rest ih =>
    unfold executeNodes at h
    cases hm : nodes.get? m with
    | none =>
      simp only [hm] at h
      exact .inr ⟨cell,h,hg⟩
    | some node =>
      have hset := @setCell_contributions _ nodes axis obs includeHist node values nodeState m n
      simp only [hm] at h
      split at h
      · rename_i after value hnode
        rw [hnode] at hset
        cases ih h with
        | inl hnew => exact .inl ⟨hnew.1,by simp [hnew.2]⟩
        | inr hbefore =>
          obtain ⟨before,hget,hmem⟩ := hbefore
          cases hset hget hmem with
          | inl hnew => exact .inl ⟨hnew.1,by simp [hnew.2]⟩
          | inr hold => exact .inr hold
      · rename_i after e hnode
        rw [hnode] at hset
        cases hset h hg with
        | inl hnew => exact .inl ⟨hnew.1,by simp [hnew.2]⟩
        | inr hold => exact .inr hold

theorem WorkspaceRuntime.Meaningful.executeEvent (h : w.Meaningful) (obs : Observation K)
    (includeHist includeTrace : Bool) :
    (w.executeEvent obs includeHist includeTrace).1.Meaningful where
  wellFormed := h.wellFormed
  contributions n cell hcell g hg := by
    cases executeNodes_contributions hcell hg with
    | inl hnew => exact hnew.1 ▸ h.wellFormed.sameCone hnew.2
    | inr hold =>
      obtain ⟨before,hget,hmem⟩ := hold
      exact h.contributions n before hget g hmem

theorem WorkspaceRuntime.Meaningful.resetStates (h : w.Meaningful) : w.resetStates.Meaningful where
  wellFormed := h.wellFormed
  contributions n cell hcell g hg := by
    simp only [WorkspaceRuntime.resetStates,get?_mapValues,Option.map_eq_some_iff] at hcell
    obtain ⟨before,_,rfl⟩ := hcell
    simp [Cell.reset] at hg

theorem WorkspaceRuntime.Meaningful.resetNode {w w' : WorkspaceRuntime K} (h : w.Meaningful) {nodeId : String}
    (hreset : w.resetNode nodeId = some w') : w'.Meaningful := by
  simp only [WorkspaceRuntime.resetNode,Option.map_eq_some_iff] at hreset
  obtain ⟨old,_,rfl⟩ := hreset
  constructor
  · exact h.wellFormed
  · intro n cell hcell g hg
    simp only [get?_set] at hcell
    split at hcell
    · cases hcell
      simp [Cell.reset] at hg
    · exact h.contributions n cell hcell g hg

inductive Action (K : Kernels) where
  | edit (edit : Edit K)
  | reset (id nodeId : Option String)
  | event (shot : Shot K) (env : Surroundings)

def Service.act (s : Service K) : Action K → Service K
  | .edit edit => s.edit edit
  | .reset id nodeId => s.reset id nodeId
  | .event shot env =>
    (s.processWorkspaces shot env ((s.streamToWorkspaces.get? shot.stream).getD [])).service

def Service.All (P : WorkspaceRuntime K → Prop) (s : Service K) : Prop :=
  ∀ id w, s.workspaces.get? id = some w → P w

section
variable {P : WorkspaceRuntime K → Prop} {s : Service K}

theorem Service.All.set (h : s.All P) {id : String} {w : WorkspaceRuntime K} (hw : P w)
    {s' : Service K} (hset : s'.workspaces = s.workspaces.set id w) : s'.All P := by
  intro other w' hw'
  rw [hset,get?_set] at hw'
  split at hw'
  · cases hw'
    exact hw
  · exact h other w' hw'

theorem Service.All.of_eq (h : s.All P) {s' : Service K} (hsame : s'.workspaces = s.workspaces) :
    s'.All P := by
  intro id w hw
  exact h id w (hsame ▸ hw)

structure Service.Steady (s s' : Service K) : Prop where
  settings : s'.settings = s.settings
  workspaces : s'.workspaces = s.workspaces
  streamToWorkspaces : s'.streamToWorkspaces = s.streamToWorkspaces
  streams : s'.streams = s.streams

theorem Service.Steady.refl (s : Service K) : s.Steady s := ⟨rfl,rfl,rfl,rfl⟩

theorem Service.Steady.trans {s t u : Service K} (h : s.Steady t) (h' : t.Steady u) : s.Steady u :=
  ⟨h'.settings.trans h.settings,h'.workspaces.trans h.workspaces,
    h'.streamToWorkspaces.trans h.streamToWorkspaces,h'.streams.trans h.streams⟩

theorem Service.includes_frame (s : Service K) (c : CompiledWorkspace K) (shot : Shot K)
    (env : Surroundings) : s.Steady (s.includes c shot env).2.2 ∧
      (s.includes c shot env).2.2.latest = s.latest := by
  have hhist : s.Steady (s.allowHistOutputs c env.now).2 ∧
      (s.allowHistOutputs c env.now).2.latest = s.latest := by
    unfold Service.allowHistOutputs
    repeat' split
    all_goals exact ⟨⟨rfl,rfl,rfl,rfl⟩,rfl⟩
  have htrace : ∀ t : Service K, t.Steady (t.allowTraceOutputs c env.now).2 ∧
      (t.allowTraceOutputs c env.now).2.latest = t.latest := by
    intro t
    unfold Service.allowTraceOutputs
    repeat' split
    all_goals exact ⟨⟨rfl,rfl,rfl,rfl⟩,rfl⟩
  unfold Service.includes
  simp only
  split
  · exact ⟨hhist.1.trans (htrace _).1,(htrace _).2.trans hhist.2⟩
  · exact hhist

theorem Service.publishOutput_steady (s : Service K) (id : String) (shot : Shot K)
    (env : Surroundings) (out : Output K) : s.Steady (s.publishOutput id shot env out).1 := by
  have hensure : ∀ key points, s.Steady (s.ensureTraceWriter key points env).1 := by
    intro key points
    unfold Service.ensureTraceWriter
    simp only
    repeat' split
    all_goals exact ⟨rfl,rfl,rfl,rfl⟩
  unfold Service.publishOutput
  split
  · split
    · exact .refl s
    · have hkey := hensure (id,out.outputId) (K.size out.value)
      dsimp only
      generalize s.ensureTraceWriter (id,out.outputId) (K.size out.value) env = result at hkey
      obtain ⟨t,there⟩ := result
      cases there with
      | false => exact hkey
      | true =>
        dsimp only
        split
        · exact hkey
        · exact hkey.trans ⟨rfl,rfl,rfl,rfl⟩
  · exact ⟨rfl,rfl,rfl,rfl⟩

theorem Service.publishOutputs_steady (s : Service K) (id : String) (shot : Shot K)
    (env : Surroundings) (outputs : List (Output K)) :
    s.Steady (s.publishOutputs id shot env outputs).1 := by
  induction outputs generalizing s with
  | nil => exact .refl s
  | cons out rest ih =>
    have hfirst := s.publishOutput_steady id shot env out
    unfold Service.publishOutputs
    generalize s.publishOutput id shot env out = result at hfirst
    obtain ⟨t,returned⟩ := result
    cases returned with
    | false => exact hfirst
    | true => exact hfirst.trans (ih t)

theorem Service.All.processWorkspaces (hexecute : ∀ w obs includeHist includeTrace, P w →
      P (WorkspaceRuntime.executeEvent w obs includeHist includeTrace).1)
    (hcount : ∀ w processed dropped, P w →
      P { w with processedSamples := processed,droppedSamples := dropped })
    (h : s.All P) (shot : Shot K) (env : Surroundings) (ids : List String) :
    (s.processWorkspaces shot env ids).service.All P := by
  have hone : ∀ (s : Service K) id w, s.All P → P w → (s.processWorkspace id w shot env).1.All P := by
    intro s id w hs hw
    have hincludes := (s.includes_frame w.compiled shot env).1.workspaces
    have hdone := fun includeHist includeTrace =>
      hexecute w shot.observation includeHist includeTrace hw
    unfold Service.processWorkspace
    generalize s.includes w.compiled shot env = included at hincludes
    obtain ⟨includeHist,includeTrace,t⟩ := included
    have hafter := hdone includeHist includeTrace
    simp only
    generalize w.executeEvent shot.observation includeHist includeTrace = result at hafter
    obtain ⟨w',result⟩ := result
    cases result with
    | error e =>
      apply (hs.of_eq hincludes).set (hcount w' w'.processedSamples (w'.droppedSamples+1) hafter)
      rfl
    | ok outputs =>
      intro other v hv
      rw [(publishOutputs_steady _ _ _ _ _).workspaces,get?_set] at hv
      split at hv
      · cases hv
        exact hcount w' (w'.processedSamples+1) w'.droppedSamples hafter
      · exact hs.of_eq hincludes other v hv
  induction ids generalizing s with
  | nil => exact h
  | cons id rest ih =>
    unfold Service.processWorkspaces
    cases hw : s.workspaces.get? id with
    | none => exact ih h
    | some w =>
      simp only
      split
      · have hnext := hone s id w h (h id w hw)
        generalize s.processWorkspace id w shot env = result at hnext
        obtain ⟨t,returned⟩ := result
        cases returned with
        | false => exact hnext
        | true => exact ih hnext
      · exact ih h

theorem Service.All.reset (hstates : ∀ w : WorkspaceRuntime K, P w → P w.resetStates)
    (hnode : ∀ (w w' : WorkspaceRuntime K) nodeId, P w → w.resetNode nodeId = some w' → P w')
    (h : s.All P) (id nodeId : Option String) : (s.reset id nodeId).All P := by
  unfold Service.reset
  split
  · exact h
  · intro other w hw
    simp only [get?_mapValues,Option.map_eq_some_iff] at hw
    obtain ⟨before,hbefore,rfl⟩ := hw
    exact hstates before (h other before hbefore)
  · split
    · exact h
    · rename_i id _ w hw
      split
      · exact h.set (hstates w (h id w hw)) rfl
      · split
        · exact h
        · rename_i w' hreset
          exact h.set (hnode w w' _ (h id w hw) hreset) rfl

end

def WorkspaceRuntime.Unfed (w : WorkspaceRuntime K) : Prop :=
  ∀ n cell, w.nodeState.get? n = some cell → cell.contributions = []

theorem WorkspaceRuntime.Unfed.newRuntime {existing : Option (WorkspaceRuntime K)}
    (h : ∀ w ∈ existing, w.Unfed) (config : Config K) (c : CompiledWorkspace K) (axis : K.Axis) :
    (newRuntime existing config c axis).Unfed := by
  intro n cell hcell
  cases initStatefulNodes_get? hcell with
  | inl hreused =>
    cases existing with
    | none => simp [workspaceReusedNodeState] at hreused
    | some w => exact h w rfl n cell (reusedNodeState_get? hreused).1
  | inr hnone => exact hnone

theorem WorkspaceRuntime.Unfed.keepsCones (h : w.Unfed)
    (c : CompiledWorkspace K) : KeepsCones w c := by
  intro n cell hcell hfed
  exact absurd (h n cell (reusedNodeState_get? hcell).1) hfed

variable {s : Service K}

theorem Service.All.install {P : WorkspaceRuntime K → Prop} (h : s.All P)
    {config : Config K} {axis : K.Axis} {markDirty : Bool}
    (hnew : P (newRuntime (s.workspaces.get? c.workspaceId) config c axis)) :
    (s.install config c axis markDirty).All P :=
  h.set hnew (s.install_workspaces config c axis markDirty)

theorem Service.All.loadEntries (axes : String × String → K.Axis)
    {configs : List (Config K)} (h : s.All fun w => w.Meaningful ∧ w.Unfed) :
    (s.loadEntries axes configs).1.All fun w => w.Meaningful ∧ w.Unfed := by
  refine loadEntries_invariant (P := fun t : Service K =>
    t.All fun w => w.Meaningful ∧ w.Unfed) ?_ h
  intro s config c _ hc hs
  apply hs.install
  have hexisting : ∀ w ∈ s.workspaces.get? c.workspaceId, w.Meaningful ∧ w.Unfed :=
    fun w hw => hs c.workspaceId w hw
  constructor
  · exact .newRuntime (compileWorkspaceGraph_wellFormed hc) (fun w hw => (hexisting w hw).1)
      fun w hw => (hexisting w hw).2.keepsCones c
  · exact .newRuntime (fun w hw => (hexisting w hw).2) config c _

/-- A put keeps no fed state of a node that it does not execute and whose ancestors it edits. -/
def Service.Reuses (s : Service K) : Action K → Prop
  | .edit (.put config expected _) => ∀ c, compileWorkspaceGraph config = .ok c →
      checkExpectedRevision (s.workspaces.get? c.workspaceId) expected = .ok () →
      ∀ w, s.workspaces.get? c.workspaceId = some w → KeepsCones w c
  | _ => True

theorem Service.All.act (h : s.All WorkspaceRuntime.Meaningful) {a : Action K}
    (hreuses : s.Reuses a) : (s.act a).All WorkspaceRuntime.Meaningful := by
  cases a with
  | reset id nodeId =>
    exact h.reset (fun _ hw => hw.resetStates) (fun _ _ _ hw hreset => hw.resetNode hreset) id nodeId
  | event shot env =>
    apply h.processWorkspaces
    · intro w obs includeHist includeTrace hw
      exact hw.executeEvent obs includeHist includeTrace
    · intro w processed dropped hw
      exact ⟨hw.wellFormed,hw.contributions⟩
  | edit edit =>
    simp only [Service.act]
    cases edit with
    | read id => exact h
    | put config expected axes =>
      simp only [Service.edit]
      cases hput : s.put config expected axes true with
      | error e => exact h
      | ok s' =>
        obtain ⟨c,hc,hexpected,rfl⟩ := put_ok hput
        apply h.install
        exact .newRuntime (compileWorkspaceGraph_wellFormed hc) (fun w hw => h c.workspaceId w hw)
          fun w hw => hreuses c hc hexpected w hw
    | delete id expected =>
      simp only [Service.edit]
      cases hdelete : s.delete id expected with
      | error e => exact h
      | ok s' =>
        intro other w hw
        simp only at hw
        rw [(delete_ok hdelete).2,get?_erase_eq] at hw
        split at hw
        · cases hw
        · exact h other w hw
    | clear =>
      intro id w hw
      cases hw
    | reload file axes =>
      simp only [Service.edit]
      cases s.reload_cases file axes with
      | inl hsame => exact h.of_eq (by rw [hsame])
      | inr hloaded =>
        obtain ⟨payload,configs,dirty,_,_,heq⟩ := hloaded
        have hcleared : (s.clear false).All fun w => w.Meaningful ∧ w.Unfed := by
          intro id w hw
          cases hw
        intro id w hw
        rw [heq] at hw
        exact (hcleared.loadEntries axes id w hw).1

/-- In every run whose puts reuse no fed state of an unexecuted node over edited ancestors, what a
node that is executed has accumulated was computed under the present definitions of the node and of
all that it depends on. -/
theorem meaningful_of_reuses (settings : Settings) (actions : List (Action K))
    (hreuses : Meets Service.act Service.Reuses (Service.initial K settings) actions) (id : String)
    (w : WorkspaceRuntime K)
    (hw : (run Service.act (Service.initial K settings) actions).workspaces.get? id = some w) :
    ∀ n ∈ w.compiled.order, ∀ cell, w.nodeState.get? n = some cell → ∀ g ∈ cell.contributions,
      SameCone g w.compiled.nodes n := by
  have hall := hreuses.invariant (P := Service.All WorkspaceRuntime.Meaningful)
    (fun s a h hok => h.act hok) (by
      intro id w hw
      cases hw)
  intro n _ cell hcell
  exact (hall id w hw).contributions n cell hcell

end

def meanConfig (factor : Int) (published : String) : Config integers :=
  ⟨"w",true,some [integerNode "src" "source.stream" ⟨1,1⟩ [],
    integerNode "scaled" "trace.scale" ⟨factor,1⟩ [("trace","src")],
    integerNode "mean" "trace.rolling_mean" ⟨1,2⟩ [("trace","scaled")]],
    some [traceOutput "source" "src",traceOutput "result" published]⟩

def putMean (factor : Int) (published : String) : Action integers :=
  .edit (.put (meanConfig factor published) none fun _ => ())

def frame (samples : List Int) : Action integers :=
  .event ⟨("digitizer","adc"),some 1,⟨none,none⟩,samples,(),true⟩ ⟨0,fun _ _ => false,fun _ => false⟩

theorem meaningful_of_reuses_edited : ∃ w, (run Service.act (Service.initial integers noThrottle)
        [putMean 2 "mean",frame [1],putMean 3 "mean",frame [1]]).workspaces.get? "w" = some w ∧
      ∀ n ∈ w.compiled.order, ∀ cell, w.nodeState.get? n = some cell → ∀ g ∈ cell.contributions,
        SameCone g w.compiled.nodes n := by
  refine ⟨_,rfl,meaningful_of_reuses noThrottle
    [putMean 2 "mean",frame [1],putMean 3 "mean",frame [1]] ?_ "w" _ rfl⟩
  refine ⟨?_,trivial,?_,trivial,trivial⟩
  · intro c hc _ w hw
    cases hw
  · intro c hc _ w hw n cell hcell _ hn
    cases hc
    cases hw
    have hold := (reusedNodeState_get? hcell).1
    rw [get?_eq_some_iff] at hold
    have hmean : n = "mean" := congrArg Prod.fst (mem_singleton.1 hold)
    subst hmean
    exact absurd hn (by decide)

theorem stale_accumulator : ¬ ∀ w, (run Service.act (Service.initial integers noThrottle)
        [putMean 2 "mean",frame [1],putMean 3 "src",putMean 3 "mean"]).workspaces.get? "w" = some w →
      ∀ n ∈ w.compiled.order, ∀ cell, w.nodeState.get? n = some cell → ∀ g ∈ cell.contributions,
        SameCone g w.compiled.nodes n := by
  intro h
  have hcone := h _ rfl "mean" (by decide) _ rfl _ (mem_singleton.2 rfl) "scaled"
    (Cone.self.dep (by decide))
  obtain ⟨a,b,ha,hb,hab⟩ := hcone
  cases ha
  cases hb
  cases hab

end ExperimentControl.Analysis

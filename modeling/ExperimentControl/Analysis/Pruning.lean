import ExperimentControl.Analysis.Events
import ExperimentControl.Lib.Runs

/-!
What a workspace publishes next to what else it publishes: two workspaces with the same nodes and
different outputs, over the same events.
-/

namespace ExperimentControl.Analysis
open Lib OrderedDict List Function

section
variable {K : Kernels}

def CompiledWorkspace.histograms (c : CompiledWorkspace K) : Bool :=
  c.outputs.any fun out => out.kind = .histAgg || out.kind = .hist2d

def CompiledWorkspace.traces (c : CompiledWorkspace K) : Bool :=
  c.outputs.any fun out => out.kind = .trace

/-- The workspace after an event, and what it publishes for it. -/
def WorkspaceRuntime.handle (w : WorkspaceRuntime K) (shot : Shot K) :
    WorkspaceRuntime K × List (Output K) :=
  match w.executeEvent shot.observation w.compiled.histograms
      (shot.isLast && w.compiled.traces) with
  | (w,.error _) => ({ w with droppedSamples := w.droppedSamples+1 },[])
  | (w,.ok outputs) => ({ w with processedSamples := w.processedSamples+1 },outputs)

theorem Service.processWorkspace_handle (s : Service K) (hhist : s.settings.histOutputPeriod = 0)
    (htrace : s.settings.traceOutputPeriod = 0) (id : String) (w : WorkspaceRuntime K)
    (shot : Shot K) (env : Surroundings) : ∃ updates, s.processWorkspace id w shot env =
      Service.publishOutputs id shot env { s with
        workspaces := s.workspaces.set id (w.handle shot).1
        processedUpdates := updates } (w.handle shot).2 := by
  have hincludes : s.includes w.compiled shot env =
      (w.compiled.histograms,shot.isLast && w.compiled.traces,s) := by
    have hist : s.allowHistOutputs w.compiled env.now = (w.compiled.histograms,s) := by
      unfold Service.allowHistOutputs CompiledWorkspace.histograms
      cases w.compiled.outputs.any fun out => out.kind = .histAgg || out.kind = .hist2d with
      | true => simp [hhist]
      | false => rfl
    have trace : s.allowTraceOutputs w.compiled env.now = (w.compiled.traces,s) := by
      unfold Service.allowTraceOutputs CompiledWorkspace.traces
      cases w.compiled.outputs.any fun out => out.kind = .trace with
      | true => simp [htrace]
      | false => rfl
    unfold Service.includes
    cases hlast : shot.isLast with
    | true => simp [hist,trace]
    | false => simp [hist]
  unfold Service.processWorkspace WorkspaceRuntime.handle
  simp only [hincludes]
  generalize w.executeEvent shot.observation w.compiled.histograms
    (shot.isLast && w.compiled.traces) = result
  obtain ⟨after,outputs⟩ := result
  cases outputs with
  | error e => exact ⟨s.processedUpdates,rfl⟩
  | ok outputs => exact ⟨s.processedUpdates+1,rfl⟩

def WorkspaceRuntime.published (w : WorkspaceRuntime K) (shot : Shot K) (outputId : String) :
    Option K.Value :=
  ((w.handle shot).2.find? fun out => out.outputId = outputId).map (·.value)

def stoppingNode (nodes : Nodes K) (axis : K.Axis) (obs : Observation K) (includeHist : Bool) :
    List String → Values K → OrderedDict String (Cell K) → Option String
  | [],_,_ => none
  | n :: rest,values,nodeState =>
    match nodes.get? n with
    | none => some n
    | some node =>
      match executeNode nodes axis obs includeHist node values (nodeState.get? n) with
      | (cell,.ok value) => stoppingNode nodes axis obs includeHist rest
          (update values n value) (setCell nodeState n cell)
      | (_,.error _) => some n

def WorkspaceRuntime.stoppingNode (w : WorkspaceRuntime K) (shot : Shot K) : Option String :=
  Analysis.stoppingNode w.compiled.nodes w.xAxis shot.observation w.compiled.histograms
    w.compiled.order (fun _ => none) w.nodeState

/-- Histograms are built in both or in neither, or the node depends on none. -/
def CompiledWorkspace.BuildsAlike (c d : CompiledWorkspace K) (n : String) : Prop :=
  c.histograms = d.histograms ∨ ∀ m, Cone (depsOf c.nodes) n m →
    ∀ node, c.nodes.get? m = some node → node.op ∉ aggregateOps

def CompiledWorkspace.Shares (c d : CompiledWorkspace K) (n : String) : Prop :=
  n ∈ c.order ∧ n ∈ d.order ∧ c.BuildsAlike d n

structure Twin (K : Kernels) where
  left : WorkspaceRuntime K
  right : WorkspaceRuntime K

def Twin.step (t : Twin K) (shot : Shot K) : Twin K :=
  ⟨(t.left.handle shot).1,(t.right.handle shot).1⟩

def Twin.Alike (outputId : String) (t : Twin K) (shot : Shot K) : Prop :=
  t.left.published shot outputId = t.right.published shot outputId

def Twin.Contained (t : Twin K) (shot : Shot K) : Prop :=
  ∀ n, n ∈ t.left.stoppingNode shot ∨ n ∈ t.right.stoppingNode shot →
    t.left.compiled.Shares t.right.compiled n

variable {node : NodeSpec K}

theorem NodeSpec.source_mem_deps {port source : String}
    (h : node.inputs.get? port = some source) (hplain : ¬ (node.fitsAxis = true ∧ port = "x")) :
    source ∈ node.deps := by
  rw [get?_eq_some_iff] at h
  refine mem_map.2 ⟨(port,source),mem_filter.2 ⟨h,?_⟩,rfl⟩
  rw [Bool.not_eq_true',Bool.eq_false_iff]
  intro hspecial
  simp only [isSpecialInputSource,Bool.and_eq_true,decide_eq_true_eq] at hspecial
  obtain ⟨⟨hop,hport⟩,hsource⟩ := hspecial
  apply hplain
  subst hport
  have hx := (get?_eq_some_iff _ _ _).2 h
  simp [NodeSpec.fitsAxis,hop,hx,hsource]

variable {values values' : Values K}

section
variable (h : ∀ d ∈ node.deps, values d = values' d)
include h

theorem NodeSpec.port_congr {port : String} (hplain : ¬ (node.fitsAxis = true ∧ port = "x")) :
    node.port values port = node.port values' port := by
  unfold NodeSpec.port
  cases hsource : node.inputs.get? port with
  | none => rfl
  | some source => exact h source (NodeSpec.source_mem_deps hsource hplain)

theorem NodeSpec.ports_congr (axis : K.Axis) :
    node.ports axis values = node.ports axis values' := by
  funext port
  unfold NodeSpec.ports
  by_cases hspecial : node.fitsAxis = true ∧ port = "x"
  · have hy : node.port values "y" = node.port values' "y" := NodeSpec.port_congr h (by simp)
    simp [hspecial,hy]
  · simp only [NodeSpec.port_congr h hspecial]
    simp [hspecial]

theorem NodeSpec.gateOpen_congr : node.gateOpen values = node.gateOpen values' := by
  unfold NodeSpec.gateOpen
  cases hsource : node.inputs.get? "gate" with
  | none => rfl
  | some source =>
    have hdep := NodeSpec.source_mem_deps hsource (by simp)
    simp [h source hdep]

theorem executeNode_congr {includeHist includeHist' : Bool}
    (hinclude : includeHist = includeHist' ∨ node.op ∉ aggregateOps) (nodes : Nodes K)
    (axis : K.Axis) (obs : Observation K) (cell : Option (Cell K)) :
    executeNode nodes axis obs includeHist node values cell =
      executeNode nodes axis obs includeHist' node values' cell := by
  have hplain : node.op ≠ "fit.curve_1d" → node.port values = node.port values' := by
    intro hop
    funext port
    exact NodeSpec.port_congr h (by simp [NodeSpec.fitsAxis,hop])
  unfold executeNode
  by_cases haggregate : aggregateOps.contains node.op = true
  · have hsame : includeHist = includeHist' := by
      cases hinclude with
      | inl hsame => exact hsame
      | inr hnot => exact absurd (contains_iff_mem.1 haggregate) hnot
    have hop : node.op ≠ "fit.curve_1d" := by
      intro hop
      rw [hop] at haggregate
      cases haggregate
    simp only [haggregate,if_true,executeAggregate,NodeSpec.gateOpen_congr h,hplain hop,hsame]
  · by_cases hupdate : updateOps.contains node.op = true
    · simp only [haggregate,hupdate,if_true,NodeSpec.ports_congr h,NodeSpec.gateOpen_congr h]
      rfl
    · have hop : node.op ≠ "fit.curve_1d" := by
        intro hop
        rw [hop] at hupdate
        exact hupdate rfl
      simp only [haggregate,hupdate,NodeSpec.gateOpen_congr h,hplain hop]
      rfl

end

structure Agree (shared : Set String) (values values' : Values K)
    (nodeState nodeState' : OrderedDict String (Cell K)) : Prop where
  values : Set.EqOn values values' shared
  states : ∀ n ∈ shared, nodeState.get? n = nodeState'.get? n

theorem get?_setCell (nodeState : OrderedDict String (Cell K)) (n m : String)
    (cell : Option (Cell K)) :
    (setCell nodeState n cell).get? m = if m = n then cell.or (nodeState.get? m) else nodeState.get? m := by
  cases cell with
  | none => simp [setCell]
  | some cell =>
    simp only [setCell,get?_set]
    by_cases hm : m = n
    · simp [hm]
    · simp [hm]

variable {shared : Set String} {nodeState nodeState' : OrderedDict String (Cell K)}

section
variable (h : Agree shared values values' nodeState nodeState')
include h

theorem Agree.symm : Agree shared values' values nodeState' nodeState :=
  ⟨h.values.symm,fun n hn => (h.states n hn).symm⟩

theorem Agree.skip {n : String} (hn : n ∉ shared)
    (value : Option K.Value) (cell : Option (Cell K)) :
    Agree shared (update values n value) values' (setCell nodeState n cell) nodeState' where
  values m hm := by
    have hne : m ≠ n := fun heq => hn (heq ▸ hm)
    simp [hne,h.values hm]
  states m hm := by
    have hne : m ≠ n := fun heq => hn (heq ▸ hm)
    simp [get?_setCell,hne,h.states m hm]

theorem Agree.both (n : String) (value : Option K.Value) (cell : Option (Cell K)) :
    Agree shared (update values n value) (update values' n value)
      (setCell nodeState n cell) (setCell nodeState' n cell) where
  values m hm := by
    by_cases hmn : m = n
    · subst hmn
      simp
    · simp [hmn,h.values hm]
  states m hm := by
    simp [get?_setCell,h.states m hm]

end

def AgreeAfter (shared : Set String)
    (result result' : OrderedDict String (Cell K) × Except String (Values K)) : Prop :=
  (∀ n ∈ shared, result.1.get? n = result'.1.get? n) ∧
    match result.2,result'.2 with
    | .ok values,.ok values' => Set.EqOn values values' shared
    | .error _,.error _ => True
    | _,_ => False

theorem executeNodes_skip {nodes : Nodes K} {axis : K.Axis} {obs : Observation K}
    {includeHist : Bool} {n : String} (hn : n ∉ shared) (rest : List String)
    {values : Values K} {nodeState : OrderedDict String (Cell K)}
    (hcontained : ∀ m ∈ stoppingNode nodes axis obs includeHist (n :: rest) values nodeState,
      m ∈ shared) : ∃ value cell,
      executeNodes nodes axis obs includeHist (n :: rest) values nodeState =
        executeNodes nodes axis obs includeHist rest (update values n value)
          (setCell nodeState n cell) ∧
      stoppingNode nodes axis obs includeHist (n :: rest) values nodeState =
        stoppingNode nodes axis obs includeHist rest (update values n value)
          (setCell nodeState n cell) := by
  rw [stoppingNode] at hcontained
  rw [executeNodes,stoppingNode]
  cases hnode : nodes.get? n with
  | none =>
    simp only [hnode,Option.mem_def,Option.some.injEq,forall_eq'] at hcontained
    exact absurd hcontained hn
  | some node =>
    simp only [hnode] at hcontained ⊢
    generalize executeNode nodes axis obs includeHist node values (nodeState.get? n) = result at *
    obtain ⟨cell,value⟩ := result
    cases value with
    | error e =>
      simp only [Option.mem_def,Option.some.injEq,forall_eq'] at hcontained
      exact absurd hcontained hn
    | ok value => exact ⟨value,cell,rfl,rfl⟩

section
variable {nodes : Nodes K} {axis : K.Axis} {obs : Observation K} {includeHist includeHist' : Bool}
  {shared : Set String}

theorem Agree.past {values values' : Values K} {nodeState nodeState' : OrderedDict String (Cell K)}
    (h : Agree shared values values' nodeState nodeState') {n : String} (hn : n ∉ shared)
    {keep : String → Bool} {rest : List String}
    (hcontained : ∀ m ∈ stoppingNode nodes axis obs includeHist ((n :: rest).filter keep) values
      nodeState, m ∈ shared) :
    ∃ values₁ nodeState₁, Agree shared values₁ values' nodeState₁ nodeState' ∧
      (∀ m ∈ stoppingNode nodes axis obs includeHist (rest.filter keep) values₁ nodeState₁,
        m ∈ shared) ∧
      executeNodes nodes axis obs includeHist ((n :: rest).filter keep) values nodeState =
        executeNodes nodes axis obs includeHist (rest.filter keep) values₁ nodeState₁ := by
  by_cases hkeep : keep n = true
  · rw [filter_cons_of_pos hkeep] at hcontained ⊢
    obtain ⟨value,cell,hexecute,hstop⟩ := executeNodes_skip hn (rest.filter keep) hcontained
    exact ⟨_,_,h.skip hn value cell,hstop ▸ hcontained,hexecute⟩
  · rw [filter_cons_of_neg hkeep] at hcontained ⊢
    exact ⟨values,nodeState,h,hcontained,rfl⟩

theorem executeNodes_agree (hclosed : ∀ n ∈ shared, ∀ d ∈ depsOf nodes n, d ∈ shared)
    (hinclude : ∀ n ∈ shared, includeHist = includeHist' ∨
      ∀ node, nodes.get? n = some node → node.op ∉ aggregateOps) {keep keep' : String → Bool}
    (hkeep : ∀ n ∈ shared, keep n = true ∧ keep' n = true) (order : List String)
    {values values' : Values K} {nodeState nodeState' : OrderedDict String (Cell K)}
    (h : Agree shared values values' nodeState nodeState')
    (hleft : ∀ n ∈ stoppingNode nodes axis obs includeHist (order.filter keep) values nodeState,
      n ∈ shared)
    (hright : ∀ n ∈ stoppingNode nodes axis obs includeHist' (order.filter keep') values' nodeState',
      n ∈ shared) :
    AgreeAfter shared (executeNodes nodes axis obs includeHist (order.filter keep) values nodeState)
      (executeNodes nodes axis obs includeHist' (order.filter keep') values' nodeState') := by
  induction order generalizing values values' nodeState nodeState' with
  | nil => exact ⟨h.states,h.values⟩
  | cons n rest ih =>
    by_cases hn : n ∈ shared
    · obtain ⟨hp,hq⟩ := hkeep n hn
      rw [filter_cons_of_pos hp] at hleft ⊢
      rw [filter_cons_of_pos hq] at hright ⊢
      rw [stoppingNode] at hleft hright
      rw [executeNodes,executeNodes]
      cases hnode : nodes.get? n with
      | none => exact ⟨h.states,trivial⟩
      | some node =>
        have hdeps : ∀ d ∈ node.deps, values d = values' d := by
          intro d hd
          exact h.values (hclosed n hn d (by simpa [depsOf,hnode] using hd))
        have hsame := executeNode_congr hdeps
          ((hinclude n hn).imp_right fun hplain => hplain node hnode) nodes axis obs (nodeState.get? n)
        rw [← h.states n hn]
        simp only [hnode,← h.states n hn,← hsame] at hleft hright ⊢
        generalize executeNode nodes axis obs includeHist node values (nodeState.get? n) = result at *
        obtain ⟨cell,value⟩ := result
        cases value with
        | error e => exact ⟨(h.both n none cell).states,trivial⟩
        | ok value => exact ih (h.both n value cell) hleft hright
    · -- each execution runs on past the node, as far as it keeps it
      obtain ⟨values₁,nodeState₁,h₁,hleft₁,hexecute₁⟩ := h.past hn hleft
      obtain ⟨values₂,nodeState₂,h₂,hright₂,hexecute₂⟩ := h₁.symm.past hn hright
      rw [hexecute₁,hexecute₂]
      exact ih h₂.symm hleft₁ hright₂

end

def WorkspaceRuntime.execution (w : WorkspaceRuntime K) (shot : Shot K) :
    OrderedDict String (Cell K) × Except String (Values K) :=
  executeNodes w.compiled.nodes w.xAxis shot.observation w.compiled.histograms w.compiled.order
    (fun _ => none) w.nodeState

theorem WorkspaceRuntime.handle_frame (w : WorkspaceRuntime K) (shot : Shot K) :
    (w.handle shot).1.compiled = w.compiled ∧ (w.handle shot).1.xAxis = w.xAxis ∧
      (w.handle shot).1.nodeState = (w.execution shot).1 := by
  unfold WorkspaceRuntime.handle WorkspaceRuntime.executeEvent WorkspaceRuntime.execution
  generalize executeNodes w.compiled.nodes w.xAxis shot.observation w.compiled.histograms
    w.compiled.order (fun _ => none) w.nodeState = result
  obtain ⟨nodeState,values⟩ := result
  cases values with
  | error e => exact ⟨rfl,rfl,rfl⟩
  | ok values => exact ⟨rfl,rfl,rfl⟩

theorem find?_payload {outputs : List PublishOutput} (hnodup : (outputs.map (·.outputId)).Nodup)
    {out : PublishOutput} (hout : out ∈ outputs) {value : PublishOutput → Option K.Value}
    {payload : PublishOutput → K.Value → Output K}
    (hpayload : ∀ o v, (payload o v).outputId = o.outputId ∧ (payload o v).value = v) :
    ((outputs.filterMap fun o => (value o).map (payload o)).find?
      fun p => p.outputId = out.outputId).map (·.value) = value out := by
  induction outputs with
  | nil => cases hout
  | cons o rest ih =>
    rw [map_cons,nodup_cons] at hnodup
    have hother : ∀ p ∈ rest.filterMap fun o => (value o).map (payload o),
        p.outputId ∈ rest.map (·.outputId) := by
      intro p hp
      obtain ⟨o',ho',hmap⟩ := mem_filterMap.1 hp
      obtain ⟨v,_,rfl⟩ := Option.map_eq_some_iff.1 hmap
      rw [(hpayload o' v).1]
      exact mem_map_of_mem ho'
    cases mem_cons.1 hout with
    | inl heq =>
      subst heq
      cases hvalue : value out with
      | none =>
        have hnone : (rest.filterMap fun o => (value o).map (payload o)).find?
            (fun p => p.outputId = out.outputId) = none := by
          rw [find?_eq_none]
          intro p hp hid
          exact hnodup.1 (of_decide_eq_true hid ▸ hother p hp)
        simp [hvalue,hnone]
      | some v => simp [hvalue,(hpayload out v).1,(hpayload out v).2]
    | inr hrest =>
      have hne : o.outputId ≠ out.outputId := fun heq => hnodup.1 (heq ▸ mem_map_of_mem hrest)
      cases hvalue : value o with
      | none => simpa [hvalue] using ih hnodup.2 hrest
      | some v => simpa [hvalue,(hpayload o v).1,hne] using ih hnodup.2 hrest

theorem WorkspaceRuntime.published_eq {w : WorkspaceRuntime K} (hw : w.compiled.WellFormed)
    {out : PublishOutput} (hout : out ∈ w.compiled.outputs) (shot : Shot K) :
    w.published shot out.outputId = match (w.execution shot).2 with
      | .ok values => outputValue out.kind (values out.nodeId) w.compiled.histograms
          (shot.isLast && w.compiled.traces)
      | .error _ => none := by
  unfold WorkspaceRuntime.published WorkspaceRuntime.handle WorkspaceRuntime.executeEvent
    WorkspaceRuntime.execution
  generalize executeNodes w.compiled.nodes w.xAxis shot.observation w.compiled.histograms
    w.compiled.order (fun _ => none) w.nodeState = result
  obtain ⟨nodeState,values⟩ := result
  cases values with
  | error e => rfl
  | ok values => exact find?_payload hw.outputs_nodup hout (fun _ _ => ⟨rfl,rfl⟩)

theorem parseWorkspaceRoot_nodes {a b : Config K} (h : a.nodes = b.nodes) {id id' : String}
    {enabled enabled' : Bool} {nodesList nodesList' : List (NodeSpec K)} {nodes nodes' : Nodes K}
    (ha : parseWorkspaceRoot a = .ok (id,enabled,nodesList,nodes))
    (hb : parseWorkspaceRoot b = .ok (id',enabled',nodesList',nodes')) : nodes = nodes' := by
  unfold parseWorkspaceRoot at ha hb
  rw [h] at ha
  obtain ⟨_,_,ha⟩ := ok_of_bind ha
  obtain ⟨_,_,hb⟩ := ok_of_bind hb
  dsimp only at ha hb
  split at ha
  · cases ha
  · rename_i hsome
    rw [if_neg hsome] at hb
    obtain ⟨list,hlist,ha⟩ := ok_of_bind ha
    obtain ⟨list',hlist',hb⟩ := ok_of_bind hb
    rw [hlist] at hlist'
    cases hlist'
    obtain ⟨dict,hdict,ha⟩ := ok_of_bind ha
    obtain ⟨dict',hdict',hb⟩ := ok_of_bind hb
    rw [hdict] at hdict'
    cases hdict'
    cases ha
    cases hb
    rfl

structure SameNodes (c d : CompiledWorkspace K) (order : List String) : Prop where
  nodes : c.nodes = d.nodes
  types : c.nodeOutputTypes = d.nodeOutputTypes
  left : ∃ keep, c.order = order.filter keep
  right : ∃ keep, d.order = order.filter keep

theorem compileWorkspaceGraph_sameNodes {a b : Config K} (h : a.nodes = b.nodes)
    {c d : CompiledWorkspace K} (hc : compileWorkspaceGraph a = .ok c)
    (hd : compileWorkspaceGraph b = .ok d) : ∃ order, SameNodes c d order := by
  obtain ⟨_,order,hroot,_,horder,hvalid,_⟩ := compileWorkspaceGraph_parts hc
  obtain ⟨_,order',hroot',_,horder',hvalid',_⟩ := compileWorkspaceGraph_parts hd
  obtain ⟨full,hfull,keep,hkeep,_⟩ := compileWorkspaceGraph_order hc
  obtain ⟨full',hfull',keep',hkeep',_⟩ := compileWorkspaceGraph_order hd
  have hnodes := parseWorkspaceRoot_nodes h hroot hroot'
  rw [← hnodes] at horder' hvalid' hfull'
  rw [horder] at horder' hfull hfull'
  have hsame : order = order' := Option.some.inj horder'
  have hleft : order = full := Option.some.inj hfull
  have hright : order = full' := Option.some.inj hfull'
  rw [← hsame,hvalid] at hvalid'
  exact ⟨order,hnodes,congrArg Prod.fst (Except.ok.inj hvalid'),⟨keep,hleft ▸ hkeep⟩,
    ⟨keep',hright ▸ hkeep'⟩⟩

theorem CompiledWorkspace.Shares.deps {c d : CompiledWorkspace K} (hc : c.WellFormed)
    (hd : d.WellFormed) (hnodes : c.nodes = d.nodes) {n m : String} (h : c.Shares d n)
    (hm : m ∈ depsOf c.nodes n) : c.Shares d m := by
  obtain ⟨hleft,hright,hplain⟩ := h
  refine ⟨hc.topological.closed hleft hm,hd.topological.closed hright (hnodes ▸ hm),?_⟩
  exact hplain.imp_right fun hcone x hx => hcone x (Cone.of_dep hm hx)

def CompiledWorkspace.newCell? (c : CompiledWorkspace K) (n : String) : Option (Cell K) :=
  (c.nodes.get? n).bind fun node => if opStateful node.op then some node.newCell else none

theorem initStatefulNode_get? (c : CompiledWorkspace K) (nodeState : OrderedDict String (Cell K))
    (m n : String) : (initStatefulNode c nodeState m).get? n =
      if n = m then (nodeState.get? n).or (c.newCell? n) else nodeState.get? n := by
  unfold initStatefulNode CompiledWorkspace.newCell?
  by_cases hn : n = m
  · subst hn
    cases hcell : nodeState.get? n with
    | some cell => simp [OrderedDict.contains,hcell]
    | none =>
      cases hnode : c.nodes.get? n with
      | none => simp [OrderedDict.contains,hcell]
      | some node =>
        by_cases hop : opStateful node.op = true
        · simp [OrderedDict.contains,hcell,hop]
        · simp [OrderedDict.contains,hcell,hop]
  · simp only [hn,if_false]
    split
    · rfl
    · split
      · split
        · simp [hn]
        · rfl
      · rfl

theorem initStatefulNodes_empty {c : CompiledWorkspace K} {n : String} (hn : n ∈ c.order) :
    (initStatefulNodes c .empty).get? n = c.newCell? n := by
  have hfold : ∀ (order : List String) (nodeState : OrderedDict String (Cell K)),
      (order.foldl (initStatefulNode c) nodeState).get? n =
        if n ∈ order then (nodeState.get? n).or (c.newCell? n) else nodeState.get? n := by
    intro order
    induction order with
    | nil => simp
    | cons m rest ih =>
      intro nodeState
      rw [foldl_cons,ih,initStatefulNode_get?]
      by_cases hm : n = m
      · by_cases hrest : n ∈ rest
        · simp [hm,hm ▸ hrest,Option.or_assoc]
        · simp [hm,hm ▸ hrest]
      · simp [hm]
  unfold initStatefulNodes
  rw [hfold,if_pos hn]
  simp

structure Twin.Sound (c d : CompiledWorkspace K) (t : Twin K) : Prop where
  left : t.left.compiled = c
  right : t.right.compiled = d
  axis : t.left.xAxis = t.right.xAxis
  states : ∀ n, c.Shares d n → t.left.nodeState.get? n = t.right.nodeState.get? n

section
variable {c d : CompiledWorkspace K} {order : List String}

variable {shot : Shot K}

theorem Twin.Sound.executions {t : Twin K} (h : t.Sound c d) (hc : c.WellFormed) (hd : d.WellFormed)
    (hsame : SameNodes c d order) (hok : t.Contained shot) :
    AgreeAfter ({n | c.Shares d n}) (t.left.execution shot) (t.right.execution shot) := by
  obtain ⟨keep,hkeep⟩ := hsame.left
  obtain ⟨keep',hkeep'⟩ := hsame.right
  have hkept : ∀ n ∈ {n | c.Shares d n}, keep n = true ∧ keep' n = true := by
    intro n hn
    obtain ⟨hleft,hright,_⟩ := hn
    rw [hkeep] at hleft
    rw [hkeep'] at hright
    exact ⟨(mem_filter.1 hleft).2,(mem_filter.1 hright).2⟩
  have hinclude : ∀ n ∈ {n | c.Shares d n}, c.histograms = d.histograms ∨
      ∀ node, c.nodes.get? n = some node → node.op ∉ aggregateOps := by
    intro n hn
    exact hn.2.2.imp_right fun hcone => hcone n .self
  have hstart : Agree ({n | c.Shares d n}) (fun _ => none) (fun _ => none) t.left.nodeState
      t.right.nodeState := ⟨fun _ _ => rfl,h.states⟩
  have hleft := fun n hn => hok n (.inl hn)
  have hright := fun n hn => hok n (.inr hn)
  unfold WorkspaceRuntime.stoppingNode at hleft hright
  unfold WorkspaceRuntime.execution
  rw [h.left,h.right] at hleft hright ⊢
  rw [← h.axis,← hsame.nodes] at hright ⊢
  rw [hkeep] at hleft ⊢
  rw [hkeep'] at hright ⊢
  exact executeNodes_agree (fun n hn m hm => hn.deps hc hd hsame.nodes hm) hinclude hkept order
    hstart hleft hright

theorem Twin.Sound.step {t : Twin K} (h : t.Sound c d) (hc : c.WellFormed) (hd : d.WellFormed)
    (hsame : SameNodes c d order) (hok : t.Contained shot) :
    (t.step shot).Sound c d := by
  obtain ⟨hcompiled,haxis,hstates⟩ := t.left.handle_frame shot
  obtain ⟨hcompiled',haxis',hstates'⟩ := t.right.handle_frame shot
  constructor
  · exact hcompiled.trans h.left
  · exact hcompiled'.trans h.right
  · exact haxis.trans (h.axis.trans haxis'.symm)
  · intro n hn
    have hexecutions := (h.executions hc hd hsame hok).1 n hn
    simp [Twin.step,hstates,hstates',hexecutions]

theorem histograms_of_mem {out : PublishOutput} (hout : out ∈ c.outputs)
    (hkind : out.kind = .histAgg ∨ out.kind = .hist2d) : c.histograms = true := by
  refine any_eq_true.2 ⟨out,hout,?_⟩
  simpa using hkind

theorem traces_of_mem {out : PublishOutput} (hout : out ∈ c.outputs) (hkind : out.kind = .trace) :
    c.traces = true :=
  any_eq_true.2 ⟨out,hout,by simpa using hkind⟩

theorem outputValue_eq {out out' : PublishOutput} (hout : out ∈ c.outputs) (hout' : out' ∈ d.outputs)
    (hkind : out'.kind = out.kind) (value : Option K.Value) (isLast : Bool) :
    outputValue out.kind value c.histograms (isLast && c.traces) =
      outputValue out'.kind value d.histograms (isLast && d.traces) := by
  rw [hkind]
  cases h : out.kind with
  | trace => simp [outputValue,traces_of_mem hout h,traces_of_mem hout' (hkind.trans h)]
  | histAgg =>
    simp [outputValue,histograms_of_mem hout (.inl h),
      histograms_of_mem hout' (.inl (hkind.trans h))]
  | hist2d =>
    simp [outputValue,histograms_of_mem hout (.inr h),
      histograms_of_mem hout' (.inr (hkind.trans h))]
  | scalar => rfl
  | fit1d => rfl
  | paramsMap => rfl
  | record => rfl

theorem Twin.Sound.alike {t : Twin K} (h : t.Sound c d) (hc : c.WellFormed) (hd : d.WellFormed)
    (hsame : SameNodes c d order) (hok : t.Contained shot) {out out' : PublishOutput}
    (hout : out ∈ c.outputs) (hout' : out' ∈ d.outputs) (hid : out'.outputId = out.outputId)
    (hnode : out'.nodeId = out.nodeId) (hshared : c.Shares d out.nodeId) :
    t.Alike out.outputId shot := by
  have hkind : out'.kind = out.kind := by
    have htype := hd.outputs_kind out' hout'
    rw [← hsame.types,hnode,hc.outputs_kind out hout] at htype
    exact (Option.some.inj htype).symm
  have hleft := WorkspaceRuntime.published_eq (h.left ▸ hc) (h.left ▸ hout) shot
  have hright := WorkspaceRuntime.published_eq (h.right ▸ hd) (h.right ▸ hout') shot
  have hresults := (h.executions hc hd hsame hok).2
  unfold Twin.Alike
  rw [hleft,← hid,hright,h.left,h.right,hnode]
  cases hvalues : (t.left.execution shot).2 with
  | error e =>
    cases hvalues' : (t.right.execution shot).2 with
    | error e' => rfl
    | ok values' => simp [hvalues,hvalues'] at hresults
  | ok values =>
    cases hvalues' : (t.right.execution shot).2 with
    | error e' => simp [hvalues,hvalues'] at hresults
    | ok values' =>
      simp only [hvalues,hvalues'] at hresults
      have hvalue : values out.nodeId = values' out.nodeId := hresults hshared
      simp only [hvalue]
      exact outputValue_eq hout hout' hkind _ _

end

/-- Two new workspaces with the same nodes publish the same values for an output of both, event by
event, where they build what it depends on alike and no other node fails. -/
theorem alike_of_shares {a b : Config K} (hnodes : a.nodes = b.nodes) {c d : CompiledWorkspace K}
    (hc : compileWorkspaceGraph a = .ok c) (hd : compileWorkspaceGraph b = .ok d) (axis : K.Axis)
    {out out' : PublishOutput} (hout : out ∈ c.outputs) (hout' : out' ∈ d.outputs)
    (hid : out'.outputId = out.outputId) (hnode : out'.nodeId = out.nodeId)
    (hbuilds : c.BuildsAlike d out.nodeId) (shots : List (Shot K))
    (hok : Meets Twin.step Twin.Contained ⟨newRuntime none a c axis,newRuntime none b d axis⟩ shots) :
    Meets Twin.step (Twin.Alike out.outputId) ⟨newRuntime none a c axis,newRuntime none b d axis⟩
      shots := by
  obtain ⟨order,hsame⟩ := compileWorkspaceGraph_sameNodes hnodes hc hd
  have hwell := compileWorkspaceGraph_wellFormed hc
  have hwell' := compileWorkspaceGraph_wellFormed hd
  have hshared : c.Shares d out.nodeId :=
    ⟨hwell.outputs_executed out hout,hnode ▸ hwell'.outputs_executed out' hout',hbuilds⟩
  refine hok.imp (P := Twin.Sound c d) ?_ ?_
  · intro t shot h hcontained
    exact ⟨h.alike hwell hwell' hsame hcontained hout hout' hid hnode hshared,
      h.step hwell hwell' hsame hcontained⟩
  · refine ⟨rfl,rfl,rfl,?_⟩
    intro n hn
    have hleft := initStatefulNodes_empty hn.1
    have hright := initStatefulNodes_empty hn.2.1
    simp only [newRuntime,workspaceReusedNodeState]
    rw [hleft,hright,CompiledWorkspace.newCell?,CompiledWorkspace.newCell?,hsame.nodes]

end

structure Tally where
  samples : List (Int × Int)
  sampleCount : Nat
  lastFit : Option Int
  deriving DecidableEq

inductive Reading where
  | trace (samples : List Int)
  | scalar (value : Int)
  | histogram (bins : List (Int × Int))
  | fit (center : Int)
  deriving DecidableEq

def peak (bins : List (Int × Int)) : Int :=
  (bins.foldl (fun best bin => if best.2 < bin.2 then bin else best) (0,0)).1

def Tally.fitHistogram (t : Tally) (everyN : Nat) (hist : Option Reading) : Tally :=
  let count := t.sampleCount+1
  let fitted := match hist with
    | some (.histogram bins) => if 4 ≤ bins.length then some (peak bins) else t.lastFit
    | _ => t.lastFit
  if count = 1 || count % max 1 everyN = 0 then ⟨t.samples,count,fitted⟩
  else ⟨t.samples,count,t.lastFit⟩

def tallies : Kernels where
  Params := Nat
  decParams := inferInstance
  State := Tally
  Value := Reading
  Axis := Unit
  Array := List Int
  Fields := Unit
  Telemetry := Unit
  setChannelMode _ params := params
  source _ := some ("digitizer","adc")
  valid _ _ := true
  newState _ _ := ⟨[],0,none⟩
  isInstance _ _ := true
  reset _ := ⟨[],0,none⟩
  eval op index port _ array _ _ :=
    match op,port "trace" with
    | "source.stream",_ => .ok (some (.trace array))
    | "trace.window_mean",some (.trace samples) => .ok (samples[index]?.map .scalar)
    | _,_ => .ok none
  gateOpen _ := true
  update _ everyN t port _ :=
    let t := t.fitHistogram everyN (port "hist")
    (t,.ok (t.lastFit.map .fit))
  updateSample _ t port :=
    match port "x",port "y" with
    | some (.scalar x),some (.scalar y) =>
      ({ t with samples := t.samples ++ [(x,y)] },.ok (some (.scalar y)))
    | _,_ => (t,.ok none)
  payload _ t _ := .histogram t.samples
  axisUnresolved _ := false
  axisValues _ trace := trace
  publish _ value := some value
  size
    | .trace samples => samples.length
    | _ => 0
  decimate limit
    | .trace samples => some (.trace (samples.take limit))
    | value => some value

instance : DecidableEq tallies.Value := inferInstanceAs (DecidableEq Reading)

instance (t : Twin tallies) (shot : Shot tallies) : Decidable (t.Alike "fit" shot) :=
  inferInstanceAs (Decidable (_ = _))

def tallyNode (nodeId op : String) (params : Nat) (inputs : List (String × String)) :
    Option (RawNode tallies) :=
  some ⟨some nodeId,some op,some params,some (inputs.map fun e => (some e.1,some e.2))⟩

def fitConfig (outputs : List (Option RawOutput)) : Config tallies where
  workspaceId := "w"
  enabled := true
  nodes := some [
    tallyNode "src" "source.stream" 0 [],
    tallyNode "x" "trace.window_mean" 0 [("trace","src")],
    tallyNode "y" "trace.window_mean" 1 [("trace","src")],
    tallyNode "bins" "aggregate.bin_stats" 0 [("x","x"),("y","y")],
    tallyNode "fit" "fit.from_hist_agg" 5 [("hist","bins")]]
  outputs := some outputs

def rawOutput (outputId nodeId : String) : Option RawOutput := some ⟨some outputId,some nodeId,none⟩

def scan : List (Shot tallies) :=
  [[1,1],[2,3],[3,5],[4,3],[5,1]].map fun array =>
    ⟨("digitizer","adc"),none,⟨none,none⟩,array,(),true⟩

def fitOnly : Config tallies := fitConfig [rawOutput "fit" "fit"]

def fitAndHistogram : Config tallies :=
  fitConfig [rawOutput "fit" "fit",rawOutput "histogram" "bins"]

def fitAndSample : Config tallies :=
  fitConfig [rawOutput "bins" "bins",rawOutput "fit" "fit",rawOutput "y" "y"]

theorem Twin.contained_of_runs {K : Kernels} {t : Twin K} {shots : List (Shot K)}
    (h : Meets Twin.step (fun t shot => t.left.stoppingNode shot = none ∧
      t.right.stoppingNode shot = none) t shots) : Meets Twin.step Twin.Contained t shots := by
  refine h.imp (P := fun _ => True) ?_ trivial
  intro t shot _ hnone
  refine ⟨?_,trivial⟩
  intro n hn
  simp [hnone.1,hnone.2] at hn

theorem alike_of_shares_scan : ∃ c d, compileWorkspaceGraph fitAndHistogram = .ok c ∧
    compileWorkspaceGraph fitAndSample = .ok d ∧ Meets Twin.step (Twin.Alike "fit")
      ⟨newRuntime none fitAndHistogram c (),newRuntime none fitAndSample d ()⟩ scan := by
  let out : PublishOutput := ⟨"fit","fit",.fit1d,none⟩
  refine ⟨_,_,rfl,rfl,@alike_of_shares tallies fitAndHistogram fitAndSample rfl _ _ rfl rfl () out out
    ?_ ?_ rfl rfl (.inl ?_) scan ?_⟩
  · decide +kernel
  · decide +kernel
  · decide +kernel
  · exact Twin.contained_of_runs (by decide +kernel)

theorem fit_not_published : ∃ c d, compileWorkspaceGraph fitOnly = .ok c ∧
    compileWorkspaceGraph fitAndHistogram = .ok d ∧ ¬ Meets Twin.step (Twin.Alike "fit")
      ⟨newRuntime none fitOnly c (),newRuntime none fitAndHistogram d ()⟩ scan := by
  refine ⟨_,_,rfl,rfl,?_⟩
  decide +kernel

end ExperimentControl.Analysis

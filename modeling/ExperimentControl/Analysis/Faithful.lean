import ExperimentControl.Analysis.Pruning

/-!
What the execution order of a compiled workspace holds, whatever topological sorter compiled it, and
that executing it publishes what executing every node publishes.
-/

namespace ExperimentControl.Analysis
open Lib OrderedDict List Option Prod

/-- `list(TopologicalSorter(deps).static_order())`, where it does not raise: what is documented of it
for dependencies that are keys themselves. -/
structure Sorter where
  staticOrder : (String → List String) → List String → Option (List String)
  topological : ∀ {deps : String → List String} {keys order : List String}, keys.Nodup →
    (∀ n ∈ keys, ∀ d ∈ deps n, d ∈ keys) → staticOrder deps keys = some order →
    Topological deps [] order
  perm : ∀ {deps : String → List String} {keys order : List String}, keys.Nodup →
    (∀ n ∈ keys, ∀ d ∈ deps n, d ∈ keys) → staticOrder deps keys = some order → order.Perm keys

def layered : Sorter where
  staticOrder deps keys := staticOrder deps keys
  topological hkeys _ horder := (staticOrder_spec hkeys horder).1.topological
  perm hkeys _ horder := by
    obtain ⟨hlayered,hall⟩ := staticOrder_spec hkeys horder
    exact (perm_ext_iff_of_nodup hlayered.nodup hkeys).2 fun n =>
      ⟨hlayered.subset n,hall n⟩

section
variable {K : Kernels}

/-- `compile_workspace_graph`, with any sorter. -/
def compileWorkspaceGraphBy (sorter : Sorter) (config : Config K) :
    Except CompileError (CompiledWorkspace K) := do
  let (workspaceId,enabled,nodesList,nodes) ← parseWorkspaceRoot config
  checkDependencies nodes nodesList
  let order ← ((sorter.staticOrder (depsOf nodes) nodes.keys).elim (.error .cyclic) .ok : Except _ _)
  let (outType,sources) ← validateNodes nodes order
  let streamKey ← streamKeyOf nodes sources
  let outputs ← compileWorkspaceOutputs config nodes outType
  return {
    workspaceId := workspaceId
    enabled := enabled
    nodes := nodes
    order := pruneUnreachableNodes (depsOf nodes) order outputs sources
    streamSourceNodeIds := sources
    streamKey := streamKey
    nodeOutputTypes := outType
    outputs := outputs }

theorem compileWorkspaceGraphBy_layered (config : Config K) :
    compileWorkspaceGraphBy layered config = compileWorkspaceGraph config := rfl

theorem compileWorkspaceGraphBy_parts {sorter : Sorter} {config : Config K} {c : CompiledWorkspace K}
    (h : compileWorkspaceGraphBy sorter config = .ok c) :
    ∃ nodesList order, parseWorkspaceRoot config = .ok (c.workspaceId,c.enabled,nodesList,c.nodes) ∧
      checkDependencies c.nodes nodesList = .ok () ∧
      sorter.staticOrder (depsOf c.nodes) c.nodes.keys = some order ∧
      validateNodes c.nodes order = .ok (c.nodeOutputTypes,c.streamSourceNodeIds) ∧
      compileWorkspaceOutputs config c.nodes c.nodeOutputTypes = .ok c.outputs ∧
      c.order = pruneUnreachableNodes (depsOf c.nodes) order c.outputs c.streamSourceNodeIds := by
  unfold compileWorkspaceGraphBy at h
  obtain ⟨⟨workspaceId,enabled,nodesList,nodes⟩,hroot,h⟩ := ok_of_bind h
  obtain ⟨_,hdeps,h⟩ := ok_of_bind h
  obtain ⟨order,horder,h⟩ := ok_of_bind h
  obtain ⟨⟨outType,sources⟩,hvalid,h⟩ := ok_of_bind h
  obtain ⟨streamKey,_,h⟩ := ok_of_bind h
  obtain ⟨outputs,houtputs,h⟩ := ok_of_bind h
  cases h
  exact ⟨nodesList,order,hroot,hdeps,some_of_elim horder,hvalid,houtputs,rfl⟩

/-- The node at the other end of an input has the type that is declared for its port. -/
def NodeSpec.Fed (nodes : Nodes K) (node : NodeSpec K) (port source : String) : Prop :=
  ∃ spec feeding given, opSpec? node.op = some spec ∧ nodes.get? source = some feeding ∧
    opSpec? feeding.op = some given ∧
    (spec.inputTypes ++ spec.optionalInputTypes).lookup port = some given.outputType

def NodeSpec.Complete (node : NodeSpec K) : Prop :=
  ∃ spec, opSpec? node.op = some spec ∧
    ∀ port ∈ spec.inputTypes.map fst, node.inputs.contains port = true

/-- The order that is executed is this one without nodes that nothing published depends on, and the
ports are fed by nodes as they are declared. -/
structure CompiledWorkspace.PrunedFrom (c : CompiledWorkspace K) (order : List String) : Prop where
  nodup : c.order.Nodup
  cones : ∀ out ∈ c.outputs, ∀ n, Cone (depsOf c.nodes) out.nodeId n → n ∈ c.order
  sources : ∀ n node, c.nodes.get? n = some node → node.op ∈ sourceOps → n ∈ c.order
  after : ∀ n ∈ c.order, ∀ d ∈ depsOf c.nodes n,
    d ∈ c.order ∧ c.order.idxOf d < c.order.idxOf n
  complete : ∀ n node, c.nodes.get? n = some node → node.Complete
  fed : ∀ n node, c.nodes.get? n = some node → ∀ port source, node.inputs.get? port = some source →
    isSpecialInputSource node.op port source = false → node.Fed c.nodes port source
  unpruned : order.Perm c.nodes.keys ∧ Topological (depsOf c.nodes) [] order ∧
    ∃ keep : String → Bool, c.order = order.filter keep

def CompiledWorkspace.unpruned (c : CompiledWorkspace K) (order : List String) :
    CompiledWorkspace K :=
  { c with order := order }

variable {nodes : Nodes K}

theorem checkDependencies_ok {nodesList : List (NodeSpec K)}
    (h : checkDependencies nodes nodesList = .ok ()) :
    ∀ node ∈ nodesList, ∀ d ∈ node.deps, nodes.contains d = true := by
  intro node hnode d hd
  have hchecked := forM_ok_iff.1 h node hnode
  simp only at hchecked
  split at hchecked
  · rename_i hempty
    by_contra hnot
    have hmem : d ∈ node.deps.filter fun dep => !nodes.contains dep :=
      mem_filter.2 ⟨hd,by simpa using hnot⟩
    rw [isEmpty_iff.1 hempty] at hmem
    cases hmem
  · cases hchecked

def Typed (nodes : Nodes K) (outType : OrderedDict String Kind) : Prop :=
  ∀ n kind, outType.get? n = some kind →
    ∃ node spec, nodes.get? n = some node ∧ opSpec? node.op = some spec ∧ spec.outputType = kind

variable {node : NodeSpec K}

theorem validateCompiledNode_ok {outType outType' : OrderedDict String Kind}
    {sources sources' : List String}
    (h : validateCompiledNode node outType sources = .ok (outType',sources')) :
    ∃ spec, opSpec? node.op = some spec ∧ validateNodeInputContract node spec outType = .ok () ∧
      outType' = outType.set node.nodeId spec.outputType ∧
      sources' = if sourceOps.contains node.op then sources ++ [node.nodeId] else sources := by
  unfold validateCompiledNode at h
  obtain ⟨spec,hspec,h⟩ := ok_of_bind h
  obtain ⟨_,hcontract,h⟩ := ok_of_bind h
  simp only at h
  split at h
  · cases h
  · split at h
    · cases h
    · cases h
      exact ⟨spec,some_of_elim hspec,hcontract,rfl,rfl⟩

theorem validateNodeInputContract_ok {spec : OpSpec}
    {outType : OrderedDict String Kind} (h : validateNodeInputContract node spec outType = .ok ()) :
    (∀ port ∈ spec.inputTypes.map fst, node.inputs.contains port = true) ∧
      ∀ port source, node.inputs.get? port = some source →
        isSpecialInputSource node.op port source = false →
        ∃ kind, (spec.inputTypes ++ spec.optionalInputTypes).lookup port = some kind ∧
          outType.get? source = some kind := by
  unfold validateNodeInputContract at h
  dsimp only at h
  split at h
  · cases h
  · rename_i hports
    simp only [Bool.or_eq_true,Bool.not_eq_true',not_or,Bool.not_eq_false] at hports
    obtain ⟨hmissing,hunknown⟩ := hports
    rw [List.isEmpty_iff] at hmissing hunknown
    constructor
    · intro port hport
      by_contra hnot
      have hmem : port ∈ (spec.inputTypes.map fst).filter fun port =>
          !node.inputs.contains port := mem_filter.2 ⟨hport,by simpa using hnot⟩
      rw [hmissing] at hmem
      cases hmem
    · intro port source hsource hplain
      have hentry := (get?_eq_some_iff _ _ _).1 hsource
      have hchecked := forM_ok_iff.1 h (port,source) hentry
      simp only [hplain,Bool.false_eq_true,if_false] at hchecked
      split at hchecked
      · rename_i hsame
        have hknown : port ∈ spec.inputTypes.map fst ++ spec.optionalInputTypes.map fst := by
          by_contra hnot
          have hmem : port ∈ node.inputs.keys.filter fun port =>
              port ∉ spec.inputTypes.map fst ++ spec.optionalInputTypes.map fst :=
            mem_filter.2 ⟨mem_map_of_mem hentry,by simpa using hnot⟩
          rw [hunknown] at hmem
          cases hmem
        cases hkind : (spec.inputTypes ++ spec.optionalInputTypes).lookup port with
        | some kind => exact ⟨kind,rfl,hsame.trans hkind⟩
        | none =>
          rw [lookup_eq_none_iff] at hkind
          rw [← map_append] at hknown
          obtain ⟨e,he,heq⟩ := mem_map.1 hknown
          have hne := hkind e he
          simp [heq] at hne
      · cases hchecked

structure NodeSpec.Checked (nodes : Nodes K) (sources : List String) (node : NodeSpec K) : Prop where
  complete : node.Complete
  fed : ∀ port source, node.inputs.get? port = some source →
    isSpecialInputSource node.op port source = false → node.Fed nodes port source
  source : node.op ∈ sourceOps → node.nodeId ∈ sources

theorem validateCompiledNode_checked
    (hnode : nodes.get? node.nodeId = some node) {outType outType' : OrderedDict String Kind}
    {sources sources' : List String} (htyped : Typed nodes outType)
    (h : validateCompiledNode node outType sources = .ok (outType',sources')) :
    Typed nodes outType' ∧ node.Checked nodes sources' ∧ ∀ n ∈ sources, n ∈ sources' := by
  obtain ⟨spec,hspec,hcontract,htypes,hsources⟩ := validateCompiledNode_ok h
  obtain ⟨hports,hfed⟩ := validateNodeInputContract_ok hcontract
  refine ⟨?_,⟨⟨spec,hspec,hports⟩,?_,?_⟩,?_⟩
  · intro n kind hkind
    rw [htypes,get?_set] at hkind
    split at hkind
    · rename_i hsame
      exact ⟨node,spec,hsame ▸ hnode,hspec,Option.some.inj hkind⟩
    · exact htyped n kind hkind
  · intro port source hsource hplain
    obtain ⟨kind,hlookup,hkind⟩ := hfed port source hsource hplain
    obtain ⟨feeding,given,hfeeding,hgiven,houtput⟩ := htyped source kind hkind
    exact ⟨spec,feeding,given,hspec,hfeeding,hgiven,houtput ▸ hlookup⟩
  · intro hop
    simp [hsources,hop]
  · intro n hn
    rw [hsources]
    split
    · simp [hn]
    · exact hn

theorem validateNodes_checked
    (hkeyed : ∀ n node, nodes.get? n = some node → node.nodeId = n) {order sources : List String}
    {outType : OrderedDict String Kind} (h : validateNodes nodes order = .ok (outType,sources)) :
    ∀ n ∈ order, ∀ node, nodes.get? n = some node → node.Checked nodes sources := by
  refine foldlM_forall (P := fun acc : OrderedDict String Kind × List String => Typed nodes acc.1)
    (Q := fun n acc => ∀ node, nodes.get? n = some node → node.Checked nodes acc.2) ?_ ?_ h
  · intro acc n next _ htyped hnext
    cases hnode : nodes.get? n with
    | none =>
      simp only [hnode] at hnext
      cases hnext
      exact ⟨htyped,by simp,fun _ hx => hx⟩
    | some node =>
      simp only [hnode] at hnext
      have hid := hkeyed n node hnode
      obtain ⟨htypes,hchecked,hkept⟩ := validateCompiledNode_checked (hid ▸ hnode) htyped hnext
      refine ⟨htypes,?_,?_⟩
      · intro other hother
        cases hother
        exact hchecked
      · intro x hx other hother
        obtain ⟨hcomplete,hfed,hsource⟩ := hx other hother
        exact ⟨hcomplete,hfed,fun hop => hkept _ (hsource hop)⟩
  · simp [Typed]

theorem compileWorkspaceGraphBy_pruned {sorter : Sorter} {config : Config K} {c : CompiledWorkspace K}
    (h : compileWorkspaceGraphBy sorter config = .ok c) :
    ∃ order, sorter.staticOrder (depsOf c.nodes) c.nodes.keys = some order ∧ c.PrunedFrom order := by
  obtain ⟨nodesList,order,hroot,hdeps,horder,hvalid,houtputs,hpruned⟩ :=
    compileWorkspaceGraphBy_parts h
  have hkeyed := parseWorkspaceRoot_keyed hroot
  have hids := fun n node hn => (hkeyed n node hn).1
  have hclosed : ∀ n ∈ c.nodes.keys, ∀ d ∈ depsOf c.nodes n, d ∈ c.nodes.keys := by
    intro n _ d hd
    unfold depsOf at hd
    cases hnode : c.nodes.get? n with
    | none => simp [hnode] at hd
    | some node =>
      simp only [hnode,map_some,getD_some] at hd
      exact mem_keys_of_contains (checkDependencies_ok hdeps node (hkeyed n node hnode).2 d hd)
  have htopological := sorter.topological c.nodes.nodup hclosed horder
  have hperm := sorter.perm c.nodes.nodup hclosed horder
  have hchecked := validateNodes_checked hids hvalid
  have hinOrder : ∀ n node, c.nodes.get? n = some node → n ∈ order := by
    intro n node hnode
    exact hperm.mem_iff.2 (mem_map_of_mem ((get?_eq_some_iff _ _ _).1 hnode))
  have houts : ∀ out ∈ c.outputs, out.nodeId ∈ order := by
    intro out hout
    exact hperm.mem_iff.2
      (mem_keys_of_contains ((compileWorkspaceOutputs_ok houtputs).2 out hout).1)
  obtain ⟨keep,hkeep,hkept,hseeds,hsources⟩ :=
    pruneUnreachableNodes_spec htopological houts (validateNodes_sources hids hvalid)
  rw [← hpruned] at hkeep hseeds hsources
  have hpart : Topological (depsOf c.nodes) [] c.order := by
    rw [hkeep]
    exact htopological.filter fun n _ => hkept n
  refine ⟨order,horder,?_⟩
  exact {
    nodup := hkeep ▸ (hperm.nodup_iff.2 c.nodes.nodup).filter keep
    cones := fun out hout n hn => hpart.cone (hseeds out hout) hn
    sources := by
      intro n node hnode hop
      have hsource := (hchecked n (hinOrder n node hnode) node hnode).source hop
      exact hsources n (hids n node hnode ▸ hsource)
    after := fun n hn d hd => ⟨hpart.closed hn hd,hpart.idxOf_lt hn hd (by simp)⟩
    complete := fun n node hnode => (hchecked n (hinOrder n node hnode) node hnode).complete
    fed := fun n node hnode => (hchecked n (hinOrder n node hnode) node hnode).fed
    unpruned := ⟨hperm,htopological,keep,hkeep⟩ }

theorem stoppingNode_of_ok {axis : K.Axis} {obs : Observation K}
    {includeHist : Bool} {order : List String} {values after : Values K}
    {nodeState : OrderedDict String (Cell K)}
    (h : (executeNodes nodes axis obs includeHist order values nodeState).2 = .ok after) :
    stoppingNode nodes axis obs includeHist order values nodeState = none := by
  induction order generalizing values nodeState with
  | nil => rfl
  | cons n rest ih =>
    rw [executeNodes] at h
    rw [stoppingNode]
    cases hnode : nodes.get? n with
    | none => simp [hnode] at h
    | some node =>
      simp only [hnode] at h ⊢
      generalize executeNode nodes axis obs includeHist node values (nodeState.get? n) = result at *
      obtain ⟨cell,value⟩ := result
      cases value with
      | error e => cases h
      | ok value => exact ih h

theorem stoppingNode_mem {axis : K.Axis} {obs : Observation K}
    {includeHist : Bool} {order : List String} {values : Values K}
    {nodeState : OrderedDict String (Cell K)} :
    ∀ n ∈ stoppingNode nodes axis obs includeHist order values nodeState, n ∈ order := by
  induction order generalizing values nodeState with
  | nil => simp [stoppingNode]
  | cons m rest ih =>
    intro n hn
    rw [stoppingNode] at hn
    cases hnode : nodes.get? m with
    | none =>
      simp only [hnode,mem_def,Option.some.injEq] at hn
      simp [hn]
    | some node =>
      simp only [hnode] at hn
      generalize executeNode nodes axis obs includeHist node values (nodeState.get? m) = result at hn
      obtain ⟨cell,value⟩ := result
      cases value with
      | error e =>
        simp only [mem_def,Option.some.injEq] at hn
        simp [hn]
      | ok value => exact mem_cons_of_mem m (ih n hn)

end

/-- The arguments of `_execute_workspace_event`. -/
structure EventArgs (K : Kernels) where
  observation : Observation K
  includeHist : Bool
  includeTrace : Bool

variable {K : Kernels}

/-- What a workspace publishes event by event, where it does not raise. -/
def WorkspaceRuntime.publications (w : WorkspaceRuntime K) :
    List (EventArgs K) → List (Except String (List (Output K)))
  | [] => []
  | event :: rest =>
    let (w,outputs) := w.executeEvent event.observation event.includeHist event.includeTrace
    outputs :: w.publications rest

theorem outputPayloads_congr {w w' : WorkspaceRuntime K} (hnodes : w.compiled.nodes = w'.compiled.nodes)
    (houtputs : w.compiled.outputs = w'.compiled.outputs) (hresets : w.resets = w'.resets)
    {values values' : Values K}
    (hvalues : ∀ out ∈ w.compiled.outputs, values out.nodeId = values' out.nodeId)
    (includeHist includeTrace : Bool) : w.outputPayloads values includeHist includeTrace =
      w'.outputPayloads values' includeHist includeTrace := by
  unfold WorkspaceRuntime.outputPayloads
  rw [← houtputs,hnodes,hresets]
  apply filterMap_congr
  intro out hout
  rw [hvalues out hout]

/-- The first workspace executes the pruned order and the second one every node, from the same
states. -/
structure Mirrors (c : CompiledWorkspace K) (order : List String) (w w' : WorkspaceRuntime K) :
    Prop where
  pruned : w.compiled = c
  unpruned : w'.compiled = c.unpruned order
  axis : w.xAxis = w'.xAxis
  resets : w.resets = w'.resets
  states : ∀ n ∈ c.order, w.nodeState.get? n = w'.nodeState.get? n

section
variable {c : CompiledWorkspace K} {order : List String}

theorem Mirrors.step {w w' : WorkspaceRuntime K} (h : Mirrors c order w w')
    (hpruned : c.PrunedFrom order) (event : EventArgs K) {outputs : List (Output K)}
    (hok : (w'.executeEvent event.observation event.includeHist event.includeTrace).2 = .ok outputs) :
    (w.executeEvent event.observation event.includeHist event.includeTrace).2 = .ok outputs ∧
      Mirrors c order (w.executeEvent event.observation event.includeHist event.includeTrace).1
        (w'.executeEvent event.observation event.includeHist event.includeTrace).1 := by
  obtain ⟨_,_,keep,hkeep⟩ := hpruned.unpruned
  let shared : Set String := {n | n ∈ c.order}
  have hclosed : ∀ n ∈ shared, ∀ d ∈ depsOf c.nodes n, d ∈ shared :=
    fun n hn d hd => (hpruned.after n hn d hd).1
  have hall : ∀ n ∈ shared, keep n = true ∧ (fun _ => true : String → Bool) n = true := by
    intro n hn
    have hmem : n ∈ order.filter keep := hkeep ▸ hn
    exact ⟨(mem_filter.1 hmem).2,rfl⟩
  have hstart : Agree shared (fun _ => none) (fun _ => none) w.nodeState w'.nodeState :=
    ⟨fun _ _ => rfl,h.states⟩
  simp only [WorkspaceRuntime.executeEvent,h.pruned,h.unpruned,h.axis,CompiledWorkspace.unpruned]
    at hok ⊢
  cases hvalues : (executeNodes c.nodes w'.xAxis event.observation event.includeHist order
      (fun _ => none) w'.nodeState).2 with
  | error e => simp [hvalues,Except.map] at hok
  | ok values =>
    have hleft : ∀ n ∈ stoppingNode c.nodes w'.xAxis event.observation event.includeHist
        (order.filter keep) (fun _ => none) w.nodeState, n ∈ shared := by
      intro n hn
      have hmem := stoppingNode_mem n hn
      rwa [← hkeep] at hmem
    have hright : ∀ n ∈ stoppingNode c.nodes w'.xAxis event.observation event.includeHist
        (order.filter fun _ => true) (fun _ => none) w'.nodeState, n ∈ shared := by
      rw [filter_true,stoppingNode_of_ok hvalues]
      simp
    have hagree := executeNodes_agree hclosed (fun _ _ => .inl rfl) hall order hstart hleft hright
    rw [filter_true,← hkeep] at hagree
    obtain ⟨hstates,hresults⟩ := hagree
    cases hvalues' : (executeNodes c.nodes w'.xAxis event.observation event.includeHist c.order
        (fun _ => none) w.nodeState).2 with
    | error e => simp [hvalues,hvalues'] at hresults
    | ok values' =>
      simp only [hvalues,hvalues'] at hresults
      constructor
      · simp only [← hok,hvalues,Except.map,Except.ok.injEq]
        apply outputPayloads_congr
        · rfl
        · rfl
        · exact h.resets
        · intro out hout
          exact hresults (hpruned.cones out hout _ .self)
      · exact ⟨rfl,rfl,rfl,h.resets,hstates⟩

theorem Mirrors.publications {w w' : WorkspaceRuntime K} (h : Mirrors c order w w')
    (hpruned : c.PrunedFrom order) (events : List (EventArgs K))
    (hok : ∀ outputs ∈ w'.publications events, outputs.isOk = true) :
    w.publications events = w'.publications events := by
  induction events generalizing w w' with
  | nil => rfl
  | cons event rest ih =>
    simp only [WorkspaceRuntime.publications,mem_cons,forall_eq_or_imp] at hok ⊢
    obtain ⟨hhere,hlater⟩ := hok
    cases houtputs : (w'.executeEvent event.observation event.includeHist event.includeTrace).2 with
    | error e => simp [houtputs,Except.isOk,Except.toBool] at hhere
    | ok outputs =>
      obtain ⟨hsame,hnext⟩ := h.step hpruned event houtputs
      rw [hsame,ih hnext hlater]

end

theorem mirrors_newRuntime (config : Config K) {c : CompiledWorkspace K} {order : List String}
    (hpruned : c.PrunedFrom order) (axis : K.Axis) : Mirrors c order (newRuntime none config c axis)
      (newRuntime none config (c.unpruned order) axis) := by
  obtain ⟨_,_,keep,hkeep⟩ := hpruned.unpruned
  refine ⟨rfl,rfl,rfl,rfl,?_⟩
  intro n hn
  have hmem : n ∈ (c.unpruned order).order := by
    rw [hkeep] at hn
    exact (mem_filter.1 hn).1
  simp only [newRuntime,workspaceReusedNodeState]
  rw [initStatefulNodes_empty hn,initStatefulNodes_empty hmem]
  rfl

/-- The compiled order holds what the outputs and the sources need, each node after what it reads,
every port but one for the samples of a stream is fed by a node of its type, and executing that order
publishes the same as executing every node, as long as no node raises. -/
theorem prunedOrder_faithful (sorter : Sorter) {config : Config K} {c : CompiledWorkspace K}
    (h : compileWorkspaceGraphBy sorter config = .ok c) :
    ∃ order, sorter.staticOrder (depsOf c.nodes) c.nodes.keys = some order ∧ c.PrunedFrom order ∧
      ∀ (axis : K.Axis) (events : List (EventArgs K)),
        (∀ outputs ∈ (newRuntime none config (c.unpruned order) axis).publications events,
          outputs.isOk = true) → (newRuntime none config c axis).publications events =
          (newRuntime none config (c.unpruned order) axis).publications events := by
  obtain ⟨order,horder,hpruned⟩ := compileWorkspaceGraphBy_pruned h
  refine ⟨order,horder,hpruned,?_⟩
  intro axis events hok
  exact (mirrors_newRuntime config hpruned axis).publications hpruned events hok

def meanOnly : Config integers where
  workspaceId := "w"
  enabled := true
  nodes := some [
    integerNode "src" "source.stream" ⟨1,1⟩ [],
    integerNode "scaled" "trace.scale" ⟨2,1⟩ [("trace","src")],
    integerNode "mean" "trace.rolling_mean" ⟨1,2⟩ [("trace","src")]]
  outputs := some [traceOutput "out" "mean"]

def meanEvents : List (EventArgs integers) :=
  [[1,2],[3,4]].map fun frame => ⟨⟨frame,none,()⟩,true,true⟩

theorem prunedOrder_faithful_mean : ∃ c, compileWorkspaceGraphBy layered meanOnly = .ok c ∧
    c.order = ["src","mean"] ∧ c.PrunedFrom ["src","scaled","mean"] ∧
    (newRuntime none meanOnly c ()).publications meanEvents =
      (newRuntime none meanOnly (c.unpruned ["src","scaled","mean"]) ()).publications meanEvents := by
  refine ⟨_,rfl,by decide +kernel,?_⟩
  obtain ⟨order,horder,hpruned,hsame⟩ := @prunedOrder_faithful integers layered meanOnly _ rfl
  have hall : order = ["src","scaled","mean"] := by
    apply Option.some.inj
    rw [← horder]
    decide +kernel
  subst hall
  exact ⟨hpruned,hsame () meanEvents (by decide +kernel)⟩

def indexFit : Config integers where
  workspaceId := "w"
  enabled := true
  nodes := some [
    integerNode "src" "source.stream" ⟨1,1⟩ [],
    integerNode "fit" "fit.curve_1d" ⟨1,1⟩ [("x",sampleIndexInputToken),("y","src")]]
  outputs := some [traceOutput "out" "fit"]

theorem indexFit_unfed : ∃ c, compileWorkspaceGraphBy layered indexFit = .ok c ∧
    ¬ ∀ n node, c.nodes.get? n = some node → ∀ port source, node.inputs.get? port = some source →
      node.Fed c.nodes port source := by
  refine ⟨_,rfl,?_⟩
  intro h
  obtain ⟨_,_,_,_,hfeeding,_⟩ := h "fit" _ rfl "x" sampleIndexInputToken rfl
  cases hfeeding

end ExperimentControl.Analysis

import ExperimentControl.Lib.Checks
import ExperimentControl.Lib.Dag
import ExperimentControl.Lib.OrderedDict
import ExperimentControl.Python.Value

/-!
Workspace graphs of the stream analysis process (`processes/stream_analysis.py`): the operators, and
`compile_workspace_graph` from a configuration to the nodes in execution order and the outputs.
-/

namespace ExperimentControl.Analysis
open Lib OrderedDict List Prod

inductive Kind where
  | trace
  | record
  | scalar
  | fit1d
  | paramsMap
  | histAgg
  | hist2d
  deriving DecidableEq

structure OpSpec where
  inputTypes : List (String × Kind)
  outputType : Kind
  optionalInputTypes : List (String × Kind)
  stateful : Bool
  deriving DecidableEq

def stateless (inputTypes : List (String × Kind)) (outputType : Kind) : OpSpec :=
  ⟨inputTypes,outputType,[],false⟩

def gated (inputTypes : List (String × Kind)) (outputType : Kind) : OpSpec :=
  ⟨inputTypes,outputType,[("gate",.scalar)],true⟩

def OPS : List (String × OpSpec) := [
  ("source.stream",stateless [] .trace),
  ("source.records",stateless [] .record),
  ("source.context_field",stateless [] .scalar),
  ("source.telemetry_nearest",stateless [] .scalar),
  ("scalar.add",stateless [("a",.scalar),("b",.scalar)] .scalar),
  ("scalar.subtract",stateless [("a",.scalar),("b",.scalar)] .scalar),
  ("scalar.multiply",stateless [("a",.scalar),("b",.scalar)] .scalar),
  ("scalar.divide",stateless [("a",.scalar),("b",.scalar)] .scalar),
  ("scalar.threshold",stateless [("x",.scalar)] .scalar),
  ("record.field",stateless [("record",.record)] .scalar),
  ("record.filter_eq",stateless [("record",.record)] .scalar),
  ("trace.divide",stateless [("a",.trace),("b",.trace)] .trace),
  ("trace.add_scalar",stateless [("trace",.trace),("scalar",.scalar)] .trace),
  ("trace.subtract_scalar",stateless [("trace",.trace),("scalar",.scalar)] .trace),
  ("trace.multiply_scalar",stateless [("trace",.trace),("scalar",.scalar)] .trace),
  ("trace.divide_scalar",stateless [("trace",.trace),("scalar",.scalar)] .trace),
  ("trace.rolling_mean",⟨[("trace",.trace)],.trace,[],true⟩),
  ("trace.block_average",⟨[("trace",.trace)],.trace,[],true⟩),
  ("trace.decimate",stateless [("trace",.trace)] .trace),
  ("trace.crop",stateless [("trace",.trace)] .trace),
  ("trace.gate",⟨[("trace",.trace)],.trace,[("gate",.scalar)],false⟩),
  ("trace.window_mean",stateless [("trace",.trace)] .scalar),
  ("trace.scale",stateless [("trace",.trace)] .trace),
  ("trace.subtract_background",stateless [("trace",.trace)] .trace),
  ("trace.integrate",stateless [("trace",.trace)] .scalar),
  ("fit.curve_1d",gated [("x",.trace),("y",.trace)] .fit1d),
  ("fit.yhat",stateless [("fit",.fit1d)] .trace),
  ("fit.xhat",stateless [("fit",.fit1d)] .trace),
  ("fit.yhat_dense",stateless [("fit",.fit1d)] .trace),
  ("fit.xhat_dense",stateless [("fit",.fit1d)] .trace),
  ("fit.param",stateless [("fit",.fit1d)] .scalar),
  ("fit.params",stateless [("fit",.fit1d)] .paramsMap),
  ("fit.from_hist_agg",gated [("hist",.histAgg)] .fit1d),
  ("aggregate.bin_stats",gated [("x",.scalar),("y",.scalar)] .histAgg),
  ("aggregate.bin_ratio_stats",
    gated [("x",.scalar),("numerator",.scalar),("denominator",.scalar)] .histAgg),
  ("hist.divide",stateless [("numerator",.histAgg),("denominator",.histAgg)] .histAgg),
  ("aggregate.bin2d_stats",gated [("x",.scalar),("y",.scalar),("z",.scalar)] .hist2d)]

/-- `OPS.get(op)`. -/
def opSpec? (op : String) : Option OpSpec := OPS.lookup op

def opStateful (op : String) : Bool := (opSpec? op).any (·.stateful)

def sourceOps : List String := ["source.stream","source.records"]

/-- What the process leaves to numerical code: the parameters of the nodes, the accumulators of the
stateful ones, and the values. -/
structure Kernels where
  Params : Type
  /-- `==` on parameters. -/
  decParams : DecidableEq Params
  State : Type
  Value : Type
  Axis : Type
  Array : Type
  /-- The `context_fields` of a message. -/
  Fields : Type
  Telemetry : Type
  /-- `params.setdefault("channel_mode", mode)`. -/
  setChannelMode : String → Params → Params
  /-- The normalised `device_id` and `stream`. -/
  source : Params → Option (String × String)
  valid : String → Params → Bool
  /-- `from_params` of the state class of an operator. -/
  newState : String → Params → State
  isInstance : String → State → Bool
  reset : State → State
  eval : String → Params → (String → Option Value) → Bool → Array → Option Fields → Telemetry →
    Except String (Option Value)
  /-- `_gate_open`. -/
  gateOpen : Value → Bool
  update : String → Params → State → (String → Option Value) → Bool →
    State × Except String (Option Value)
  /-- `update_sample` of an aggregate. -/
  updateSample : String → State → (String → Option Value) → State × Except String (Option Value)
  /-- `payload` of an aggregate, with its last sample. -/
  payload : String → State → Option Value → Value
  axisUnresolved : Axis → Bool
  /-- `axis_values` for as many samples as the trace has. -/
  axisValues : Axis → Option Value → Option Value
  publish : Kind → Value → Option Value
  /-- `trace.size`. -/
  size : Value → Nat
  /-- `_decimate_snapshot_trace`. -/
  decimate : Nat → Value → Option Value

instance (K : Kernels) : DecidableEq K.Params := K.decParams

section
variable (K : Kernels)

/-- A node of a configuration; ids are as `_normalize_id` makes them. -/
structure RawNode where
  nodeId : Option String
  op : Option String
  params : Option K.Params
  inputs : Option (List (Option String × Option String))

structure RawOutput where
  outputId : Option String
  nodeId : Option String
  label : Option String
  deriving DecidableEq

/-- A configuration; an entry that is not of the type that is needed is missing. -/
structure Config where
  /-- `str(workspace_id or "")`. -/
  workspaceId : String
  enabled : Bool
  nodes : Option (List (Option (RawNode K)))
  outputs : Option (List (Option RawOutput))

structure NodeSpec where
  nodeId : String
  op : String
  params : K.Params
  inputs : OrderedDict String String

structure PublishOutput where
  outputId : String
  nodeId : String
  kind : Kind
  label : Option String
  deriving DecidableEq

abbrev Nodes := OrderedDict String (NodeSpec K)

structure CompiledWorkspace where
  workspaceId : String
  enabled : Bool
  nodes : Nodes K
  order : List String
  streamSourceNodeIds : List String
  streamKey : String × String
  nodeOutputTypes : OrderedDict String Kind
  outputs : List PublishOutput

/-- The checks that a configuration can fail, each with the place that it names. -/
inductive CompileError where
  | nodeObject (index : Nat)
  | nodeId (index : Nat)
  | nodeOp (index : Nat)
  | nodeParams (index : Nat)
  | nodeInputs (index : Nat)
  | nodeInputEntries (index : Nat)
  | workspaceId
  | nodesList
  | duplicateNode (nodeId : String)
  | unknownInputs (nodeId : String) (missing : List String)
  | cyclic
  | unknownOperator (op : String)
  | inputsMismatch (nodeId : String) (missing unknown : List String)
  | inputType (nodeId port source : String)
  | sourceStream (nodeId : String)
  | params (nodeId : String)
  | noSource
  | streamKeys
  | outputsList
  | outputObject (index : Nat)
  | outputId (index : Nat)
  | duplicateOutput (outputId : String)
  | outputNodeId (index : Nat)
  | outputUnknownNode (index : Nat) (nodeId : String)
  | outputNoType (index : Nat) (nodeId : String)
  | outputKind (index : Nat) (kind : Kind)
  deriving DecidableEq

end

variable {K : Kernels}

def normalizeId (raw : String) : Option String :=
  if Python.strip raw = "" then none else some (Python.strip raw)

def sampleIndexInputToken : String := "__sample_index__"

def isSpecialInputSource (op port sourceId : String) : Bool :=
  op = "fit.curve_1d" && port = "x" && sourceId = sampleIndexInputToken

def NodeSpec.deps (node : NodeSpec K) : List String :=
  (node.inputs.entries.filter fun e => !isSpecialInputSource node.op e.1 e.2).map snd

/-- `node.inputs.values()`. -/
def NodeSpec.sources (node : NodeSpec K) : List String := node.inputs.entries.map snd

def depsOf (nodes : Nodes K) (n : String) : List String := ((nodes.get? n).map NodeSpec.deps).getD []

def sourcesOf (nodes : Nodes K) (n : String) : List String :=
  ((nodes.get? n).map NodeSpec.sources).getD []

def sameInputs (a b : OrderedDict String String) : Bool :=
  a.entries.all (fun e => b.get? e.1 = some e.2) && b.entries.all (fun e => a.get? e.1 = some e.2)

def NodeSpec.same (a b : NodeSpec K) : Bool :=
  a.op = b.op && a.params = b.params && sameInputs a.inputs b.inputs

def normalizeNodeLegacyOp (op : String) (params : K.Params) : String × K.Params :=
  match op with
  | "source.stream_average" => ("source.stream",K.setChannelMode "average" params)
  | "source.stream_sum" => ("source.stream",K.setChannelMode "sum" params)
  | op => (op,params)

def normalizeNodeInputs (index : Nat) (inputs : List (Option String × Option String)) :
    Except CompileError (OrderedDict String String) :=
  inputs.foldlM (fun inputs e => match e with
    | (some port,some source) => .ok (inputs.set port source)
    | _ => .error (.nodeInputEntries index)) .empty

def normalizeNode (index : Nat) (raw : Option (RawNode K)) : Except CompileError (NodeSpec K) :=
  match raw with
  | none => .error (.nodeObject index)
  | some raw => do
    let nodeId ← (raw.nodeId.elim (.error (.nodeId index)) .ok : Except _ _)
    let op ← (raw.op.elim (.error (.nodeOp index)) .ok : Except _ _)
    let params ← (raw.params.elim (.error (.nodeParams index)) .ok : Except _ _)
    let entries ← (raw.inputs.elim (.error (.nodeInputs index)) .ok : Except _ _)
    let inputs ← normalizeNodeInputs index entries
    let (op,params) := normalizeNodeLegacyOp op params
    return ⟨nodeId,op,params,inputs⟩

def parseWorkspaceRoot (config : Config K) :
    Except CompileError (String × Bool × List (NodeSpec K) × Nodes K) := do
  let workspaceId ← ((normalizeId config.workspaceId).elim (.error .workspaceId) .ok : Except _ _)
  let raws := config.nodes.getD []
  if raws.isEmpty then throw .nodesList
  let nodesList ← raws.zipIdx.mapM fun e => normalizeNode e.2 e.1
  let nodes ← nodesList.foldlM (fun (nodes : Nodes K) node =>
    if nodes.contains node.nodeId then .error (.duplicateNode node.nodeId)
    else .ok (nodes.set node.nodeId node)) .empty
  return (workspaceId,config.enabled,nodesList,nodes)

/-- The check of `_compile_workspace_dependencies`. -/
def checkDependencies (nodes : Nodes K) (nodesList : List (NodeSpec K)) : Except CompileError Unit :=
  nodesList.forM fun node =>
    let missing := node.deps.filter fun dep => !nodes.contains dep
    if missing.isEmpty then .ok () else .error (.unknownInputs node.nodeId missing)

def validateNodeInputContract (node : NodeSpec K) (sig : OpSpec)
    (outType : OrderedDict String Kind) : Except CompileError Unit := do
  let required := sig.inputTypes.map fst
  let expected := required ++ sig.optionalInputTypes.map fst
  let missing := required.filter fun port => !node.inputs.contains port
  let unknown := node.inputs.keys.filter fun port => port ∉ expected
  if !missing.isEmpty || !unknown.isEmpty then
    throw (.inputsMismatch node.nodeId missing unknown)
  node.inputs.entries.forM fun e =>
    if isSpecialInputSource node.op e.1 e.2 then .ok ()
    else if outType.get? e.2 = (sig.inputTypes ++ sig.optionalInputTypes).lookup e.1 then .ok ()
    else .error (.inputType node.nodeId e.1 e.2)

/-- `_validate_compiled_node`, on the types so far and the source nodes so far. -/
def validateCompiledNode (node : NodeSpec K) (outType : OrderedDict String Kind)
    (sources : List String) : Except CompileError (OrderedDict String Kind × List String) := do
  let sig ← ((opSpec? node.op).elim (.error (.unknownOperator node.op)) .ok : Except _ _)
  validateNodeInputContract node sig outType
  let isSource := sourceOps.contains node.op
  if isSource && (K.source node.params).isNone then throw (.sourceStream node.nodeId)
  if !K.valid node.op node.params then throw (.params node.nodeId)
  return (outType.set node.nodeId sig.outputType,
    if isSource then sources ++ [node.nodeId] else sources)

def validateNodes (nodes : Nodes K) (order : List String) :
    Except CompileError (OrderedDict String Kind × List String) :=
  order.foldlM (fun acc nodeId => match nodes.get? nodeId with
    | some node => validateCompiledNode node acc.1 acc.2
    | none => .ok acc) (.empty,[])

def publishableKinds : List Kind := [.scalar,.histAgg,.hist2d,.trace,.paramsMap,.fit1d]

def compileWorkspaceOutputItem (nodes : Nodes K) (outType : OrderedDict String Kind)
    (outputs : List PublishOutput) (index : Nat) (item : Option RawOutput) :
    Except CompileError PublishOutput :=
  match item with
  | none => .error (.outputObject index)
  | some item => do
    let outputId ← (item.outputId.elim (.error (.outputId index)) .ok : Except _ _)
    if outputId ∈ outputs.map (·.outputId) then throw (.duplicateOutput outputId)
    let nodeId ← (item.nodeId.elim (.error (.outputNodeId index)) .ok : Except _ _)
    if !nodes.contains nodeId then throw (.outputUnknownNode index nodeId)
    let kind ← ((outType.get? nodeId).elim (.error (.outputNoType index nodeId)) .ok : Except _ _)
    if kind ∉ publishableKinds then throw (.outputKind index kind)
    return ⟨outputId,nodeId,kind,item.label⟩

def compileWorkspaceOutputs (config : Config K) (nodes : Nodes K)
    (outType : OrderedDict String Kind) : Except CompileError (List PublishOutput) := do
  let raws ← (config.outputs.elim (.error .outputsList) .ok : Except _ _)
  raws.zipIdx.foldlM (fun outputs e => do
    let output ← compileWorkspaceOutputItem nodes outType outputs e.2 e.1
    return outputs ++ [output]) []

def pruneUnreachableNodes (deps : String → List String) (order : List String)
    (outputs : List PublishOutput) (sources : List String) : List String :=
  let queue := outputs.map (·.nodeId) ++ sources
  let reached := reachable deps order queue sources
  order.filter fun nodeId => nodeId ∈ reached

def streamKeyOf (nodes : Nodes K) (sources : List String) :
    Except CompileError (String × String) :=
  match sources.filterMap fun nodeId => (nodes.get? nodeId).bind fun node => K.source node.params with
  | [] => .error .noSource
  | key :: rest => if rest.all (· = key) then .ok key else .error .streamKeys

def compileWorkspaceGraph (config : Config K) : Except CompileError (CompiledWorkspace K) := do
  let (workspaceId,enabled,nodesList,nodes) ← parseWorkspaceRoot config
  checkDependencies nodes nodesList
  let order ← ((staticOrder (depsOf nodes) nodes.keys).elim (.error .cyclic) .ok : Except _ _)
  let (outType,sources) ← validateNodes nodes order
  let streamKey ← streamKeyOf nodes sources
  let outputs ← compileWorkspaceOutputs config nodes outType
  return {
    workspaceId := workspaceId
    enabled := enabled
    nodes := nodes
    order := pruneUnreachableNodes (depsOf nodes) order outputs sources
    streamSourceNodeIds := sources
    streamKey := streamKey
    nodeOutputTypes := outType
    outputs := outputs }

variable {nodes : Nodes K} {config : Config K}

theorem parseWorkspaceRoot_keyed {id : String} {enabled : Bool} {nodesList : List (NodeSpec K)}
    (h : parseWorkspaceRoot config = .ok (id,enabled,nodesList,nodes)) :
    ∀ n node, nodes.get? n = some node → node.nodeId = n ∧ node ∈ nodesList := by
  unfold parseWorkspaceRoot at h
  obtain ⟨workspaceId,_,h⟩ := ok_of_bind h
  dsimp only at h
  split at h
  · cases h
  · obtain ⟨list,_,h⟩ := ok_of_bind h
    obtain ⟨dict,hdict,h⟩ := ok_of_bind h
    cases h
    apply foldlM_invariant (P := fun nodes : Nodes K =>
      ∀ n node, nodes.get? n = some node → node.nodeId = n ∧ node ∈ nodesList) ?_ ?_ hdict
    · intro nodes node next hnode hnodes hnext n other hother
      split at hnext
      · cases hnext
      · cases hnext
        rw [get?_set] at hother
        split at hother
        · cases hother
          exact ⟨by simp_all,hnode⟩
        · exact hnodes n other hother
    · simp

variable {outType : OrderedDict String Kind}

theorem validateNodes_sources
    (hkeyed : ∀ n node, nodes.get? n = some node → node.nodeId = n) {order sources : List String}
    (h : validateNodes nodes order = .ok (outType,sources)) :
    ∀ n ∈ sources, n ∈ order := by
  apply foldlM_invariant (P := fun acc : OrderedDict String Kind × List String =>
    ∀ n ∈ acc.2, n ∈ order) ?_ ?_ h
  · intro acc nodeId next hmem hacc hnext n hn
    split at hnext
    · rename_i node hnode
      unfold validateCompiledNode at hnext
      obtain ⟨sig,_,hnext⟩ := ok_of_bind hnext
      obtain ⟨_,_,hnext⟩ := ok_of_bind hnext
      simp only at hnext
      split at hnext
      · cases hnext
      · split at hnext
        · cases hnext
        · cases hnext
          simp only at hn
          split at hn
          · cases mem_append.1 hn with
            | inl hold => exact hacc n hold
            | inr hnew =>
              have hsame : n = node.nodeId := by simpa using hnew
              rw [hsame,hkeyed nodeId node hnode]
              exact hmem
          · exact hacc n hn
    · cases hnext
      exact hacc n hn
  · simp

variable {outputs : List PublishOutput}

theorem compileWorkspaceOutputItem_ok {index : Nat} {item : Option RawOutput} {out : PublishOutput}
    (h : compileWorkspaceOutputItem nodes outType outputs index item = .ok out) :
    out.outputId ∉ outputs.map (·.outputId) ∧ nodes.contains out.nodeId = true ∧
      outType.get? out.nodeId = some out.kind := by
  unfold compileWorkspaceOutputItem at h
  cases item with
  | none => cases h
  | some item =>
    obtain ⟨outputId,_,h⟩ := ok_of_bind h
    dsimp only at h
    split at h
    · cases h
    · obtain ⟨nodeId,_,h⟩ := ok_of_bind h
      split at h
      · cases h
      · obtain ⟨kind,hkind,h⟩ := ok_of_bind h
        split at h
        · cases h
        · cases h
          refine ⟨by assumption,by simp_all,some_of_elim hkind⟩

theorem compileWorkspaceOutputs_ok
    (h : compileWorkspaceOutputs config nodes outType = .ok outputs) :
    (outputs.map (·.outputId)).Nodup ∧ ∀ out ∈ outputs, nodes.contains out.nodeId = true ∧
      outType.get? out.nodeId = some out.kind := by
  unfold compileWorkspaceOutputs at h
  obtain ⟨raws,_,h⟩ := ok_of_bind h
  apply foldlM_invariant (P := fun outputs : List PublishOutput =>
    (outputs.map (·.outputId)).Nodup ∧ ∀ out ∈ outputs, nodes.contains out.nodeId = true ∧
      outType.get? out.nodeId = some out.kind) ?_ ?_ h
  · intro outputs e next _ houtputs hnext
    obtain ⟨out,hout,hnext⟩ := ok_of_bind hnext
    cases hnext
    obtain ⟨hfresh,hnode,hkind⟩ := compileWorkspaceOutputItem_ok hout
    constructor
    · rw [map_append,nodup_append]
      refine ⟨houtputs.1,by simp,?_⟩
      intro a ha b hb heq
      simp at hb
      exact hfresh (hb ▸ heq ▸ ha)
    · intro other hother
      cases mem_append.1 hother with
      | inl hold => exact houtputs.2 other hold
      | inr hnew =>
        have hsame : other = out := by simpa using hnew
        exact hsame ▸ ⟨hnode,hkind⟩
  · simp

structure CompiledWorkspace.WellFormed (c : CompiledWorkspace K) : Prop where
  topological : Topological (depsOf c.nodes) [] c.order
  nodup : c.order.Nodup
  declared : ∀ n ∈ c.order, c.nodes.contains n = true
  outputs_nodup : (c.outputs.map (·.outputId)).Nodup
  outputs_executed : ∀ out ∈ c.outputs, out.nodeId ∈ c.order
  outputs_kind : ∀ out ∈ c.outputs, c.nodeOutputTypes.get? out.nodeId = some out.kind

variable {c : CompiledWorkspace K}

theorem compileWorkspaceGraph_parts (h : compileWorkspaceGraph config = .ok c) :
    ∃ nodesList order, parseWorkspaceRoot config = .ok (c.workspaceId,c.enabled,nodesList,c.nodes) ∧
      checkDependencies c.nodes nodesList = .ok () ∧
      staticOrder (depsOf c.nodes) c.nodes.keys = some order ∧
      validateNodes c.nodes order = .ok (c.nodeOutputTypes,c.streamSourceNodeIds) ∧
      streamKeyOf c.nodes c.streamSourceNodeIds = .ok c.streamKey ∧
      compileWorkspaceOutputs config c.nodes c.nodeOutputTypes = .ok c.outputs ∧
      c.order = pruneUnreachableNodes (depsOf c.nodes) order c.outputs c.streamSourceNodeIds := by
  unfold compileWorkspaceGraph at h
  obtain ⟨⟨workspaceId,enabled,nodesList,nodes⟩,hroot,h⟩ := ok_of_bind h
  obtain ⟨_,hdeps,h⟩ := ok_of_bind h
  obtain ⟨order,horder,h⟩ := ok_of_bind h
  obtain ⟨⟨outType,sources⟩,hvalid,h⟩ := ok_of_bind h
  obtain ⟨streamKey,hkey,h⟩ := ok_of_bind h
  obtain ⟨outputs,houtputs,h⟩ := ok_of_bind h
  cases h
  exact ⟨nodesList,order,hroot,hdeps,some_of_elim horder,hvalid,hkey,houtputs,rfl⟩

theorem pruneUnreachableNodes_spec {deps : String → List String} {order sources : List String}
    (h : Topological deps [] order)
    (houtputs : ∀ out ∈ outputs, out.nodeId ∈ order) (hsources : ∀ n ∈ sources, n ∈ order) :
    ∃ keep : String → Bool, pruneUnreachableNodes deps order outputs sources = order.filter keep ∧
      (∀ n, keep n = true → ∀ d ∈ deps n, keep d = true) ∧
      (∀ out ∈ outputs, out.nodeId ∈ pruneUnreachableNodes deps order outputs sources) ∧
      ∀ n ∈ sources, n ∈ pruneUnreachableNodes deps order outputs sources := by
  have hqueue : ∀ n ∈ outputs.map (·.nodeId) ++ sources, n ∈ order := by
    intro n hn
    cases mem_append.1 hn with
    | inl hnode =>
      obtain ⟨out,hmem,heq⟩ := mem_map.1 hnode
      exact heq ▸ houtputs out hmem
    | inr hsource => exact hsources n hsource
  have hreached : ∀ n ∈ sources, n ∈ outputs.map (·.nodeId) ++ sources := by
    intro n hn
    exact mem_append.2 (.inr hn)
  obtain ⟨hseeds,hclosed⟩ := reachable_closed h hqueue hreached
  refine ⟨fun n => decide (n ∈ reachable deps order (outputs.map (·.nodeId) ++ sources) sources),
    rfl,?_,?_,?_⟩
  · intro n hn d hd
    simp only [decide_eq_true_eq] at hn ⊢
    exact hclosed n hn d hd
  · intro out hmem
    refine mem_filter.2 ⟨houtputs out hmem,?_⟩
    simp only [decide_eq_true_eq]
    exact hseeds _ (mem_append.2 (.inl (mem_map_of_mem hmem)))
  · intro n hn
    refine mem_filter.2 ⟨hsources n hn,?_⟩
    simp only [decide_eq_true_eq]
    exact hseeds n (hreached n hn)

theorem mem_keys_of_contains {n : String} (h : nodes.contains n = true) : n ∈ nodes.keys := by
  rw [OrderedDict.contains,Option.isSome_iff_exists] at h
  obtain ⟨node,hnode⟩ := h
  rw [get?_eq_some_iff] at hnode
  exact mem_map_of_mem hnode

theorem compileWorkspaceGraph_order (h : compileWorkspaceGraph config = .ok c) :
    ∃ order, staticOrder (depsOf c.nodes) c.nodes.keys = some order ∧
      ∃ keep : String → Bool, c.order = order.filter keep ∧
        (∀ n ∈ order, keep n = true → ∀ d ∈ depsOf c.nodes n, keep d = true) ∧
        ∀ out ∈ c.outputs, out.nodeId ∈ c.order := by
  obtain ⟨nodesList,order,hroot,hdeps,horder,hvalid,_,houtputs,hpruned⟩ :=
    compileWorkspaceGraph_parts h
  obtain ⟨hlayered,hall⟩ := staticOrder_spec c.nodes.nodup horder
  have hkeyed := parseWorkspaceRoot_keyed hroot
  have hsources := validateNodes_sources (fun n node hn => (hkeyed n node hn).1) hvalid
  have hinOrder : ∀ out ∈ c.outputs, out.nodeId ∈ order := by
    intro out hmem
    exact hall _ (mem_keys_of_contains ((compileWorkspaceOutputs_ok houtputs).2 out hmem).1)
  obtain ⟨keep,hkeep,hclosed,hseeds,_⟩ :=
    pruneUnreachableNodes_spec hlayered.topological hinOrder hsources
  refine ⟨order,horder,keep,hpruned.trans hkeep,?_,?_⟩
  · intro n _ hn d hd
    exact hclosed n hn d hd
  · intro out hmem
    rw [hpruned]
    exact hseeds out hmem

theorem compileWorkspaceGraph_wellFormed
    (h : compileWorkspaceGraph config = .ok c) : c.WellFormed := by
  obtain ⟨order,horder,keep,hkeep,hclosed,hexecuted⟩ := compileWorkspaceGraph_order h
  obtain ⟨_,_,_,_,_,_,_,houtputs,_⟩ := compileWorkspaceGraph_parts h
  obtain ⟨hlayered,_⟩ := staticOrder_spec c.nodes.nodup horder
  constructor
  · rw [hkeep]
    exact hlayered.topological.filter hclosed
  · rw [hkeep]
    exact hlayered.nodup.filter keep
  · intro n hn
    rw [hkeep] at hn
    have hkey := hlayered.subset n (mem_filter.1 hn).1
    obtain ⟨⟨key,node⟩,hmem,heq⟩ := mem_map.1 hkey
    simp only at heq
    rw [OrderedDict.contains,Option.isSome_iff_exists]
    exact ⟨node,(get?_eq_some_iff _ _ _).2 (heq ▸ hmem)⟩
  · exact (compileWorkspaceOutputs_ok houtputs).1
  · exact hexecuted
  · intro out hout
    exact ((compileWorkspaceOutputs_ok houtputs).2 out hout).2

end ExperimentControl.Analysis

import ExperimentControl.Analysis.Graph

/-!
The execution of one event by one workspace (`_execute_workspace_event`): the nodes in order, each
from the values before it and its own state, and the payloads of the outputs.
-/

namespace ExperimentControl.Analysis
open Lib

section
variable (K : Kernels)

structure Cell where
  state : K.State
  contributions : List (Nodes K)

structure WorkspaceRuntime where
  compiled : CompiledWorkspace K
  rawConfig : Config K
  nodeState : OrderedDict String (Cell K)
  processedSamples : Nat
  droppedSamples : Nat
  revision : Nat
  xAxis : K.Axis
  resets : String → Nat

structure Observation where
  array : K.Array
  contextFields : Option K.Fields
  telemetry : K.Telemetry

/-- A payload of `_build_workspace_output_payloads`, and what it was computed under. -/
structure Output where
  outputId : String
  nodeId : String
  kind : Kind
  value : K.Value
  nodes : Nodes K
  resets : String → Nat

abbrev Values := String → Option K.Value

end

section
variable {K : Kernels}

/-- `values.get(node.inputs[port])`. -/
def NodeSpec.port (node : NodeSpec K) (values : Values K) (port : String) : Option K.Value :=
  (node.inputs.get? port).bind values

def NodeSpec.gateOpen (node : NodeSpec K) (values : Values K) : Bool :=
  match node.inputs.get? "gate" with
  | none => true
  | some source => (values source).any K.gateOpen

def NodeSpec.newCell (node : NodeSpec K) : Cell K := ⟨K.newState node.op node.params,[]⟩

def NodeSpec.cell (node : NodeSpec K) (cell : Option (Cell K)) : Cell K :=
  match cell with
  | some cell => if K.isInstance node.op cell.state then cell else node.newCell
  | none => node.newCell

def aggregateOps : List String :=
  ["aggregate.bin_stats","aggregate.bin_ratio_stats","aggregate.bin2d_stats"]

def updateOps : List String :=
  ["trace.rolling_mean","trace.block_average","fit.curve_1d","fit.from_hist_agg"]

def NodeSpec.fitsAxis (node : NodeSpec K) : Bool :=
  node.op = "fit.curve_1d" && node.inputs.get? "x" = some sampleIndexInputToken

def NodeSpec.ports (node : NodeSpec K) (axis : K.Axis) (values : Values K) :
    String → Option K.Value := fun port =>
  if node.fitsAxis && port = "x" then K.axisValues axis (node.port values "y")
  else node.port values port

def executeAggregate (nodes : Nodes K) (includeHist : Bool) (node : NodeSpec K) (values : Values K)
    (cell : Option (Cell K)) : Option (Cell K) × Except String (Option K.Value) :=
  let cell := node.cell cell
  if node.gateOpen values then
    let (state,sample) := K.updateSample node.op cell.state (node.port values)
    (some ⟨state,nodes :: cell.contributions⟩,
      sample.map fun sample => if includeHist then some (K.payload node.op state sample) else none)
  else (some cell,.ok (if includeHist then some (K.payload node.op cell.state none) else none))

/-- `_execute_workspace_node`: the state and the value of the node afterwards. -/
def executeNode (nodes : Nodes K) (axis : K.Axis) (obs : Observation K) (includeHist : Bool)
    (node : NodeSpec K) (values : Values K) (cell : Option (Cell K)) :
    Option (Cell K) × Except String (Option K.Value) :=
  if aggregateOps.contains node.op then executeAggregate nodes includeHist node values cell
  else if updateOps.contains node.op then
    -- a declared axis that cannot be resolved gives no fit
    if node.fitsAxis && K.axisUnresolved axis then (cell,.ok none)
    else
      let cell := node.cell cell
      let (state,value) := K.update node.op node.params cell.state (node.ports axis values)
        (node.gateOpen values)
      (some ⟨state,nodes :: cell.contributions⟩,value)
  else (cell,K.eval node.op node.params (node.port values) (node.gateOpen values) obs.array
    obs.contextFields obs.telemetry)

def setCell (nodeState : OrderedDict String (Cell K)) (n : String) (cell : Option (Cell K)) :
    OrderedDict String (Cell K) :=
  match cell with
  | some cell => nodeState.set n cell
  | none => nodeState

/-- The loop over the order: it stops at the first node that raises. -/
def executeNodes (nodes : Nodes K) (axis : K.Axis) (obs : Observation K) (includeHist : Bool) :
    List String → Values K → OrderedDict String (Cell K) →
      OrderedDict String (Cell K) × Except String (Values K)
  | [],values,nodeState => (nodeState,.ok values)
  | n :: rest,values,nodeState =>
    match nodes.get? n with
    | none => (nodeState,.error n)
    | some node =>
      match executeNode nodes axis obs includeHist node values (nodeState.get? n) with
      | (cell,.ok value) => executeNodes nodes axis obs includeHist rest (Function.update values n value)
          (setCell nodeState n cell)
      | (cell,.error e) => (setCell nodeState n cell,.error e)

def outputValue (kind : Kind) (value : Option K.Value) (includeHist includeTrace : Bool) :
    Option K.Value :=
  match kind with
  | .histAgg | .hist2d => if includeHist then value.bind (K.publish kind) else none
  | .trace => if includeTrace then value.bind (K.publish kind) else none
  | .scalar | .paramsMap | .fit1d => value.bind (K.publish kind)
  | .record => none

def WorkspaceRuntime.outputPayloads (w : WorkspaceRuntime K) (values : Values K)
    (includeHist includeTrace : Bool) : List (Output K) :=
  w.compiled.outputs.filterMap fun out =>
    (outputValue out.kind (values out.nodeId) includeHist includeTrace).map fun value =>
      ⟨out.outputId,out.nodeId,out.kind,value,w.compiled.nodes,w.resets⟩

def WorkspaceRuntime.executeEvent (w : WorkspaceRuntime K) (obs : Observation K)
    (includeHist includeTrace : Bool) : WorkspaceRuntime K × Except String (List (Output K)) :=
  let (nodeState,values) := executeNodes w.compiled.nodes w.xAxis obs includeHist w.compiled.order
    (fun _ => none) w.nodeState
  let w := { w with nodeState }
  (w,values.map fun values => w.outputPayloads values includeHist includeTrace)

theorem executeNode_contributions {nodes : Nodes K} {axis : K.Axis} {obs : Observation K}
    {includeHist : Bool} {node : NodeSpec K} {values : Values K} {cell : Option (Cell K)}
    {after : Cell K} (h : (executeNode nodes axis obs includeHist node values cell).1 = some after) :
    ∀ g ∈ after.contributions, g = nodes ∨ ∃ before, cell = some before ∧ g ∈ before.contributions := by
  have hcell : ∀ g ∈ (node.cell cell).contributions,
      ∃ before, cell = some before ∧ g ∈ before.contributions := by
    intro g hg
    cases cell with
    | none => simp [NodeSpec.cell,NodeSpec.newCell] at hg
    | some before =>
      simp only [NodeSpec.cell] at hg
      split at hg
      · exact ⟨before,rfl,hg⟩
      · simp [NodeSpec.newCell] at hg
  intro g hg
  unfold executeNode at h
  split at h
  · unfold executeAggregate at h
    dsimp only at h
    split at h
    · cases h
      cases List.mem_cons.1 hg with
      | inl heq => exact .inl heq
      | inr hold => exact .inr (hcell g hold)
    · cases h
      exact .inr (hcell g hg)
  · split at h
    · split at h
      · exact .inr ⟨after,h,hg⟩
      · cases h
        cases List.mem_cons.1 hg with
        | inl heq => exact .inl heq
        | inr hold => exact .inr (hcell g hold)
    · exact .inr ⟨after,h,hg⟩

theorem executeEvent_frame (w : WorkspaceRuntime K) (obs : Observation K)
    (includeHist includeTrace : Bool) :
    (w.executeEvent obs includeHist includeTrace).1.compiled = w.compiled ∧
      (w.executeEvent obs includeHist includeTrace).1.resets = w.resets ∧
      ∀ outputs, (w.executeEvent obs includeHist includeTrace).2 = .ok outputs →
        ∃ values, outputs = w.outputPayloads values includeHist includeTrace := by
  refine ⟨rfl,rfl,?_⟩
  intro outputs h
  simp only [WorkspaceRuntime.executeEvent] at h
  cases hvalues : (executeNodes w.compiled.nodes w.xAxis obs includeHist w.compiled.order
      (fun _ => none) w.nodeState).2 with
  | error e => simp [hvalues,Except.map] at h
  | ok values =>
    simp only [hvalues,Except.map,Except.ok.injEq] at h
    exact ⟨values,h.symm⟩

end

structure IntegerParams where
  factor : Int
  window : Nat
  deriving DecidableEq

structure IntegerMean where
  window : Nat
  traces : List (List Int)
  deriving DecidableEq

def sumTraces (traces : List (List Int)) : List Int :=
  traces.foldr (fun trace sum => if sum.isEmpty then trace else trace.zipWith (· + ·) sum) []

def IntegerMean.update (m : IntegerMean) (trace : Option (List Int)) :
    IntegerMean × Option (List Int) :=
  match trace with
  | none => (m,none)
  | some trace =>
    if m.window ≤ 1 then (m,some trace)
    else
      let kept := if m.window ≤ m.traces.length then m.traces.tail else m.traces
      let traces := kept ++ [trace]
      (⟨m.window,traces⟩,some ((sumTraces traces).map (· / (traces.length : Int))))

def integers : Kernels where
  Params := IntegerParams
  decParams := inferInstance
  State := IntegerMean
  Value := List Int
  Axis := Unit
  Array := List Int
  Fields := Int
  Telemetry := Unit
  setChannelMode _ params := params
  source _ := some ("digitizer","adc")
  valid op params := op ≠ "trace.rolling_mean" || 0 < params.window
  newState _ params := ⟨params.window,[]⟩
  isInstance op _ := op = "trace.rolling_mean"
  reset m := { m with traces := [] }
  eval op params port _ array _ _ :=
    match op with
    | "source.stream" => .ok (some array)
    | "trace.scale" => .ok ((port "trace").map fun trace => trace.map (· * params.factor))
    | _ => .ok none
  gateOpen _ := true
  update _ _ m port _ := let (m,mean) := m.update (port "trace"); (m,.ok mean)
  updateSample _ m _ := (m,.ok none)
  payload _ _ _ := []
  axisUnresolved _ := false
  axisValues _ trace := trace
  publish _ trace := some trace
  size trace := trace.length
  decimate limit trace := some (trace.take limit)

def integerNode (nodeId op : String) (params : IntegerParams) (inputs : List (String × String)) :
    Option (RawNode integers) :=
  some ⟨some nodeId,some op,some params,some (inputs.map fun e => (some e.1,some e.2))⟩

def traceOutput (outputId nodeId : String) : Option RawOutput :=
  some ⟨some outputId,some nodeId,none⟩

end ExperimentControl.Analysis

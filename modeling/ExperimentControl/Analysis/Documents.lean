import ExperimentControl.Analysis.Graph
import ExperimentControl.Python.Conversions

/-!
Workspace configurations as the JSON documents that the store keeps, and how `compile_workspace_graph`
reads them. The operators' own checks and numerical code are those of any kernels.
-/

namespace ExperimentControl.Analysis
open Lib Python OrderedDict List Option Prod

/-- The names in `OP_PARAM_SCHEMAS`. -/
@[irreducible] def OP_PARAM_SCHEMAS : List (String × List String) := [
  ("source.stream",["device_id","stream","channel_mode","channel_index","channel_indices"]),
  ("source.context_field",["field"]),
  ("source.records",["device_id","stream"]),
  ("source.telemetry_nearest",["device_id","signal","max_dt_s"]),
  ("scalar.threshold",["threshold","mode"]),
  ("record.field",["field"]),
  ("record.filter_eq",["field","value"]),
  ("trace.rolling_mean",["window_traces"]),
  ("trace.block_average",["block_traces"]),
  ("trace.decimate",["method","target_points"]),
  ("trace.crop",["start_idx","stop_idx"]),
  ("trace.window_mean",["start_idx","stop_idx"]),
  ("trace.scale",["factor"]),
  ("trace.subtract_background",["bg_start_idx","bg_stop_idx"]),
  ("fit.curve_1d",["model","baseline_mode","every_n","sigma_y","dense_eval_points","t0_s"]),
  ("fit.yhat",[]),
  ("fit.xhat",[]),
  ("fit.yhat_dense",[]),
  ("fit.xhat_dense",[]),
  ("fit.param",["name","field"]),
  ("fit.params",[]),
  ("fit.from_hist_agg",["y_source","model","baseline_mode","every_n","sigma_y","dense_eval_points",
    "t0_s","chi2_sigma_source","min_count","x_min","x_max"]),
  ("aggregate.bin_stats",["auto_range","x_min","x_max","bin_count"]),
  ("aggregate.bin_ratio_stats",["auto_range","x_min","x_max","bin_count"]),
  ("hist.divide",["require_equal_counts","align_auto_bins"]),
  ("aggregate.bin2d_stats",["x_auto_range","x_min","x_max","x_bin_count","y_auto_range","y_min",
    "y_max","y_bin_count"])]

/-- `OP_PARAM_SCHEMAS.get(op, [])` -/
def declaredParams (op : String) : List String := (OP_PARAM_SCHEMAS.lookup op).getD []

/-- `_normalize_id`; `repr` renders what is not text. -/
def normalizeIdOf (repr : Value → String) (raw : Value) : Option String :=
  normalizeId (if raw.truthy then raw.text repr else "")

def setDefault (params : Entries) (key : String) (value : Value) : Entries :=
  match item? params key with
  | some _ => params
  | none => setItem params key value

/-- The same kernels on parameters as a document gives them. -/
def Kernels.onDocuments (K : Kernels) (repr : Python.Value → String) (decode : Entries → K.Params) : Kernels :=
  { K with
    Params := Entries
    decParams := inferInstance
    setChannelMode := fun mode params => setDefault params "channel_mode" (.str mode)
    source := fun params => do
      let deviceId ← normalizeIdOf repr (getKey params "device_id")
      let stream ← normalizeIdOf repr (getKey params "stream")
      return (deviceId,stream)
    valid := fun op params => K.valid op (decode params)
    newState := fun op params => K.newState op (decode params)
    eval := fun op params => K.eval op (decode params)
    update := fun op params => K.update op (decode params) }

section
variable {K : Kernels} {repr : Python.Value → String} {decode : Entries → K.Params}

/-- `_normalize_node_params`: an object, or nothing. -/
def objectOrNone : Value → Option Entries
  | .none => some []
  | .dict _ entries => some entries
  | _ => none

def rawNode (raw : Value) : Option (RawNode (K.onDocuments repr decode)) :=
  match raw with
  | .dict _ node => some {
      nodeId := normalizeIdOf repr (getKey node "node_id")
      op := normalizeIdOf repr (getKey node "op")
      params := objectOrNone (getKey node "params")
      inputs := (objectOrNone (getKey node "inputs")).map fun inputs =>
        inputs.map fun e => (normalizeIdOf repr (.str e.1),normalizeIdOf repr e.2) }
  | _ => none

def rawOutputOf (repr : Value → String) (raw : Value) : Option RawOutput :=
  match raw with
  | .dict _ item => some {
      outputId := normalizeIdOf repr (getKey item "output_id")
      nodeId := normalizeIdOf repr (getKey item "node_id")
      label := match getKey item "label" with
        | .str label => normalizeId label
        | _ => none }
  | _ => none

/-- `config["graph"]["nodes"]`, where these are an object and a list. -/
def nodesRaw (config : Entries) : Option (List Value) :=
  match getKey config "graph" with
  | .dict _ graph => match getKey graph "nodes" with
    | .list nodes => some nodes
    | _ => none
  | _ => none

def outputsRaw (config : Entries) : Option (List Value) :=
  match getKey config "publish" with
  | .dict _ publish => match getKey publish "outputs" with
    | .none => some []
    | .list outputs => some outputs
    | _ => none
  | _ => some []

variable (K repr decode)

/-- What `compile_workspace_graph` reads of a stored configuration. -/
def readConfig (config : Entries) : Config (K.onDocuments repr decode) where
  workspaceId :=
    let raw := getKey config "workspace_id"
    if raw.truthy then raw.text repr else ""
  enabled := (getD config "enabled" (.bool true)).truthy
  nodes := (nodesRaw config).map fun nodes => nodes.map (@rawNode K repr decode)
  outputs := (outputsRaw config).map fun outputs => outputs.map (rawOutputOf repr)

end

section
variable (repr : Python.Value → String)

def textAt (obj : Entries) (key : String) : String := (normalizeIdOf repr (getKey obj key)).getD ""

def opAt (node : Entries) : String :=
  if textAt repr node "op" = "source.stream_average" ∨ textAt repr node "op" = "source.stream_sum" then
    "source.stream"
  else textAt repr node "op"

def paramsAt (node : Entries) : Entries :=
  let params := (objectOrNone (getKey node "params")).getD []
  if textAt repr node "op" = "source.stream_average" then
    setDefault params "channel_mode" (.str "average")
  else if textAt repr node "op" = "source.stream_sum" then
    setDefault params "channel_mode" (.str "sum")
  else params

def sourceAt (node : Entries) (port : String) : Option String :=
  (((objectOrNone (getKey node "inputs")).getD []).reverse.find? fun e =>
    normalizeIdOf repr (.str e.1) = some port).bind fun e => normalizeIdOf repr e.2

end

variable {K : Kernels} {repr : Python.Value → String} {decode : Entries → K.Params}

theorem normalizeId_ne {raw id : String} (h : normalizeId raw = some id) :
    id = Python.strip raw ∧ id ≠ "" := by
  unfold normalizeId at h
  split at h
  · cases h
  case isFalse hne =>
    obtain rfl : Python.strip raw = id := by simpa using h
    exact ⟨rfl,hne⟩

theorem textAt_of_some {obj : Entries} {key id : String}
    (h : normalizeIdOf repr (getKey obj key) = some id) : textAt repr obj key = id ∧ id ≠ "" := by
  refine ⟨by simp [textAt,h],?_⟩
  exact (normalizeId_ne h).2

variable {index : Nat}

theorem get?_normalizeNodeInputs {entries : List (Option String × Option String)}
    {inputs : OrderedDict String String} (h : normalizeNodeInputs index entries = .ok inputs)
    (port : String) :
    inputs.get? port = (entries.reverse.find? fun e => e.1 = some port).bind snd := by
  unfold normalizeNodeInputs at h
  -- The entries are assigned from the front, so the last one of a port is found first in the reverse.
  induction entries using List.reverseRecOn generalizing inputs with
  | nil =>
    cases h
    simp
  | append_singleton before e ih =>
    rw [foldlM_append] at h
    obtain ⟨earlier,hearlier,h⟩ := ok_of_bind h
    obtain ⟨later,hlater,h⟩ := ok_of_bind h
    cases h
    rcases e with ⟨_ | name,_ | source⟩ <;> try cases hlater
    rw [get?_set,ih hearlier]
    by_cases hport : name = port
    · simp [hport]
    · simp [hport,Ne.symm hport]

theorem normalizeNode_rawNode {raw : Python.Value}
    {node : NodeSpec (K.onDocuments repr decode)} (h : normalizeNode index (rawNode raw) = .ok node) :
    ∃ attr obj, raw = .dict attr obj ∧ node.nodeId = textAt repr obj "node_id" ∧ node.nodeId ≠ "" ∧
      node.op = opAt repr obj ∧ node.params = paramsAt repr obj ∧
      ∀ port, node.inputs.get? port = sourceAt repr obj port := by
  cases raw with
  | dict attr obj =>
    refine ⟨attr,obj,rfl,?_⟩
    unfold rawNode normalizeNode at h
    dsimp only at h
    obtain ⟨nodeId,hid,h⟩ := ok_of_bind h
    obtain ⟨op,hop,h⟩ := ok_of_bind h
    obtain ⟨params,hparams,h⟩ := ok_of_bind h
    obtain ⟨entries,hentries,h⟩ := ok_of_bind h
    obtain ⟨inputs,hinputs,h⟩ := ok_of_bind h
    obtain ⟨hidText,hidNe⟩ := textAt_of_some (some_of_elim hid)
    obtain ⟨hopText,-⟩ := textAt_of_some (some_of_elim hop)
    have hgiven := some_of_elim hparams
    cases h
    obtain ⟨given,hnamed,hpairs⟩ := map_eq_some_iff.1 (some_of_elim hentries)
    refine ⟨hidText.symm,hidNe,?_,?_,?_⟩
    · unfold opAt normalizeNodeLegacyOp
      rw [hopText]
      split <;> simp_all
    · unfold paramsAt normalizeNodeLegacyOp
      rw [hopText,hgiven]
      split
      · rfl
      · rfl
      case h_3 haverage hsum =>
        rw [if_neg haverage,if_neg hsum]
        rfl
    · intro port
      rw [get?_normalizeNodeInputs hinputs port,← hpairs]
      unfold sourceAt
      rw [hnamed,← map_reverse,find?_map]
      rw [Option.bind_map]
      simp only [Function.comp_def,Option.getD_some]
  | _ => cases h

theorem entries_of_foldlM {list : List (NodeSpec (K.onDocuments repr decode))}
    {before nodes : Nodes (K.onDocuments repr decode)}
    (h : list.foldlM (fun (nodes : Nodes _) node =>
      if nodes.contains node.nodeId then Except.error (CompileError.duplicateNode node.nodeId)
      else .ok (nodes.set node.nodeId node)) before = .ok nodes) :
    nodes.entries.map snd = before.entries.map snd ++ list := by
  induction list generalizing before with
  | nil =>
    cases h
    simp
  | cons node rest ih =>
    rw [foldlM_cons] at h
    obtain ⟨next,hnext,hrest⟩ := ok_of_bind h
    split at hnext
    · cases hnext
    case isFalse hnew =>
      cases hnext
      have hfresh := (contains_eq_false before node.nodeId).1 (by simpa using hnew)
      rw [ih hrest]
      simp [entries_set_of_new before node.nodeId node hfresh]

theorem parseWorkspaceRoot_documents {config : Entries} {id : String} {enabled : Bool}
    {list : List (NodeSpec (K.onDocuments repr decode))} {nodes : Nodes (K.onDocuments repr decode)}
    (h : parseWorkspaceRoot (readConfig K repr decode config) = .ok (id,enabled,list,nodes)) :
    ∃ raws, nodesRaw config = some raws ∧ raws ≠ [] ∧
      Forall₂ (fun raw node => ∃ index, normalizeNode index (rawNode raw) = .ok node) raws
        (nodes.entries.map snd) ∧
      nodes.entries.map snd = list ∧ id = textAt repr config "workspace_id" ∧ id ≠ "" := by
  unfold parseWorkspaceRoot at h
  obtain ⟨workspaceId,hid,h⟩ := ok_of_bind h
  dsimp only at h
  split at h
  · cases h
  case isFalse hsome =>
    obtain ⟨nodesList,hlist,h⟩ := ok_of_bind h
    obtain ⟨dict,hdict,h⟩ := ok_of_bind h
    cases h
    have hentries := entries_of_foldlM hdict
    simp only [OrderedDict.empty,map_nil,nil_append] at hentries
    cases hraws : nodesRaw config with
    | none => simp [readConfig,hraws] at hsome
    | some raws =>
      refine ⟨raws,rfl,?_,?_,hentries,?_⟩
      · rintro rfl
        simp [readConfig,hraws] at hsome
      · rw [hentries]
        have hread := mapM_ok_iff.1 hlist
        simp only [readConfig,hraws,map_some,getD_some,zipIdx_map,forall₂_map_left_iff] at hread
        rw [← zipIdx_map_fst 0 raws,forall₂_map_left_iff]
        exact hread.imp fun e node hnode => ⟨e.2,hnode⟩
      · exact ⟨(textAt_of_some (some_of_elim hid)).1.symm,(normalizeId_ne (some_of_elim hid)).2⟩

variable {outType : OrderedDict String Kind}

theorem validateCompiledNode_ports {node : NodeSpec K}
    {sources : List String} {r : OrderedDict String Kind × List String}
    (h : validateCompiledNode node outType sources = .ok r) :
    ∃ sig, opSpec? node.op = some sig ∧ ∀ port, node.inputs.contains port →
      port ∈ sig.inputTypes.map fst ++ sig.optionalInputTypes.map fst := by
  unfold validateCompiledNode at h
  obtain ⟨sig,hsig,h⟩ := ok_of_bind h
  obtain ⟨_,hcontract,-⟩ := ok_of_bind h
  refine ⟨sig,some_of_elim hsig,fun port hport => ?_⟩
  unfold validateNodeInputContract at hcontract
  dsimp only at hcontract
  split at hcontract
  · cases hcontract
  case isFalse hmatch =>
    by_contra hunknown
    have hkey : port ∈ node.inputs.keys := by
      rw [OrderedDict.contains,isSome_iff_exists] at hport
      obtain ⟨source,hsource⟩ := hport
      exact mem_map_of_mem ((get?_eq_some_iff _ _ _).1 hsource)
    have hfound : port ∈ node.inputs.keys.filter fun port =>
        port ∉ sig.inputTypes.map fst ++ sig.optionalInputTypes.map fst :=
      mem_filter.2 ⟨hkey,by simpa using hunknown⟩
    have hnone : (node.inputs.keys.filter fun port =>
        port ∉ sig.inputTypes.map fst ++ sig.optionalInputTypes.map fst) = [] := by
      simp at hmatch
      simpa using hmatch.2
    rw [hnone] at hfound
    cases hfound

theorem compileWorkspaceGraph_ports {config : Config K} {c : CompiledWorkspace K}
    (h : compileWorkspaceGraph config = .ok c) {node : NodeSpec K}
    (hnode : node ∈ c.nodes.entries.map snd) :
    ∃ sig, opSpec? node.op = some sig ∧ ∀ port, node.inputs.contains port →
      port ∈ sig.inputTypes.map fst ++ sig.optionalInputTypes.map fst := by
  obtain ⟨list,order,-,-,horder,hvalid,-⟩ := compileWorkspaceGraph_parts h
  obtain ⟨e,he,rfl⟩ := mem_map.1 hnode
  have hordered : e.1 ∈ order := (staticOrder_spec c.nodes.nodup horder).2 _ (mem_map_of_mem he)
  obtain ⟨before,after,hstep⟩ := foldlM_step hvalid e.1 hordered
  have hget : c.nodes.get? e.1 = some e.2 := (get?_eq_some_iff _ _ _).2 he
  simp only [hget] at hstep
  exact validateCompiledNode_ports hstep

def RawOutput.Gives (item : RawOutput) (out : PublishOutput) : Prop :=
  item.outputId = some out.outputId ∧ item.nodeId = some out.nodeId ∧ item.label = out.label

theorem compileWorkspaceOutputItem_gives {nodes : Nodes K}
    {before : List PublishOutput} {item : Option RawOutput} {out : PublishOutput}
    (h : compileWorkspaceOutputItem nodes outType before index item = .ok out) :
    ∃ raw, item = some raw ∧ raw.Gives out := by
  unfold compileWorkspaceOutputItem at h
  cases item with
  | none => cases h
  | some raw =>
    obtain ⟨outputId,hid,h⟩ := ok_of_bind h
    dsimp only at h
    split at h
    · cases h
    · obtain ⟨nodeId,hnode,h⟩ := ok_of_bind h
      split at h
      · cases h
      · obtain ⟨kind,-,h⟩ := ok_of_bind h
        split at h
        · cases h
        · cases h
          exact ⟨raw,rfl,some_of_elim hid,some_of_elim hnode,rfl⟩

theorem outputs_of_foldlM {nodes : Nodes K}
    {raws : List (Option RawOutput × Nat)} {before outputs : List PublishOutput}
    (h : raws.foldlM (fun outputs e => do
      let output ← compileWorkspaceOutputItem nodes outType outputs e.2 e.1
      return outputs ++ [output]) before = .ok outputs) : ∃ later, outputs = before ++ later ∧
      Forall₂ (fun e out => ∃ raw, e.1 = some raw ∧ RawOutput.Gives raw out) raws later := by
  induction raws generalizing before with
  | nil =>
    cases h
    exact ⟨[],by simp,.nil⟩
  | cons e rest ih =>
    rw [foldlM_cons] at h
    obtain ⟨next,hnext,hrest⟩ := ok_of_bind h
    obtain ⟨out,hout,hnext⟩ := ok_of_bind hnext
    cases hnext
    obtain ⟨later,hlater,hgives⟩ := ih hrest
    exact ⟨out :: later,by simp [hlater],.cons (compileWorkspaceOutputItem_gives hout) hgives⟩

theorem compileWorkspaceOutputs_documents {config : Entries}
    {nodes : Nodes (K.onDocuments repr decode)} {outputs : List PublishOutput}
    (h : compileWorkspaceOutputs (readConfig K repr decode config) nodes outType = .ok outputs) :
    ∃ raws, outputsRaw config = some raws ∧
      Forall₂ (fun raw out => ∃ item, rawOutputOf repr raw = some item ∧ item.Gives out)
        raws outputs := by
  unfold compileWorkspaceOutputs at h
  obtain ⟨items,hitems,h⟩ := ok_of_bind h
  obtain ⟨raws,hraws,rfl⟩ := map_eq_some_iff.1 (some_of_elim hitems)
  obtain ⟨later,rfl,hgives⟩ := outputs_of_foldlM h
  refine ⟨raws,hraws,?_⟩
  rw [zipIdx_map,forall₂_map_left_iff] at hgives
  rw [← zipIdx_map_fst 0 raws,forall₂_map_left_iff]
  exact hgives

end ExperimentControl.Analysis

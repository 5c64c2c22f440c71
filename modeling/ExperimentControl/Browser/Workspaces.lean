import ExperimentControl.Analysis.Documents
import ExperimentControl.Analysis.Execute
import ExperimentControl.Browser.StreamWorkspace

/-!
A stored workspace in the browser: when the graph that is shown, and written back with the next save, is
the one that the stream analysis process has compiled.
-/

namespace ExperimentControl.Browser
open Analysis Lib Python Prod

def portsOf (op : String) : List String :=
  ((STREAM_DAG_OPS.lookup op).map fun spec => spec.inputs ++ spec.optionalInputs).getD []

def inBackend (op : String) (spec : StreamDagOpDef) : Bool :=
  (opSpec? op).any fun sig => sig.inputTypes.map fst = spec.inputs &&
    sig.optionalInputTypes.map fst = spec.optionalInputs && declaredParams op = spec.params

theorem tables_agree : ∀ e ∈ STREAM_DAG_OPS, inBackend e.1 e.2 = true := by decide +kernel

theorem known_operator {op : String} {spec : StreamDagOpDef} (h : STREAM_DAG_OPS.lookup op = some spec) :
    declaredParams op = spec.params ∧ ∀ sig, opSpec? op = some sig →
      sig.inputTypes.map fst ++ sig.optionalInputTypes.map fst = portsOf op := by
  obtain ⟨before,after,hops,-⟩ := List.lookup_eq_some_iff.1 h
  have hagree := tables_agree (op,spec) (by simp [hops])
  simp only [inBackend,Option.any_eq_true,Bool.and_eq_true,decide_eq_true_eq] at hagree
  obtain ⟨sig,hsig,⟨hinputs,hoptional⟩,hparams⟩ := hagree
  refine ⟨hparams,fun other hother => ?_⟩
  obtain rfl : sig = other := by simpa [hsig] using hother
  simp [portsOf,h,hinputs,hoptional]

def StreamDagNodeConfig.source? (node : StreamDagNodeConfig) (port : String) : Option String :=
  (node.inputs.lookup port).filter fun source => source ≠ ""

section
variable {K : Kernels} {repr : Python.Value → String} {decode : Entries → K.Params}

/-- The shown node is the compiled one: its operator, a legacy source's mode among the parameters, its
inputs, and every parameter of the operator that is given. -/
structure SameNode (node : NodeSpec (K.onDocuments repr decode)) (shown : StreamDagNodeConfig) :
    Prop where
  nodeId : shown.nodeId = node.nodeId
  op : shown.op = node.op
  inputs : ∀ port, shown.source? port = node.inputs.get? port
  params : ∀ name ∈ declaredParams node.op, ∀ v : Value, item? node.params name = some v →
    item? shown.params name = some v

structure SameOutput (out : PublishOutput) (shown : StreamDagOutputConfig) : Prop where
  outputId : shown.outputId = out.outputId
  nodeId : shown.nodeId = out.nodeId
  label : shown.label = out.label

/-- Node by node and output by output, with none dropped, added or replaced. -/
structure SameGraph (c : CompiledWorkspace (K.onDocuments repr decode))
    (shown : StreamAnalysisWorkspaceConfig) : Prop where
  nodes : List.Forall₂ SameNode (c.nodes.entries.map snd) shown.graphNodes
  outputs : List.Forall₂ SameOutput c.outputs shown.publishOutputs

end

def Js.load (js : Js) (id : String) (config : Entries) : Option StreamAnalysisWorkspaceConfig :=
  (js.normalizeStreamWorkspaceRecord (.dict false [(id,.dict false config)])).get? id

section
variable (js : Js)

def Js.textAt (obj : Entries) (own stored : String) : String :=
  trim (js.textOf (item? obj own) (item? obj stored))

def Js.opText (entry : Entries) : String := trim (js.textOf (item? entry "op") none)

def sourceUnder (entry : Entries) (port : String) : Option String :=
  some (trim (stringOf (item? (propertiesOf (item? entry "inputs")) port))) |>.filter fun s => s ≠ ""

def Js.givenAt (entry : Entries) (name : String) : Option Value :=
  (item? (propertiesOf (item? entry "params")) name).or
    (item? (defaultParamsForOp (opOf (js.opText entry))) name)

def Js.paramAt (entry : Entries) (name : String) : Option Value :=
  match legacyMode (js.opText entry) with
  | some mode =>
    if name = "channel_mode" ∧ trim (js.textOf (js.givenAt entry name) none) = "" then some (.str mode)
    else js.givenAt entry name
  | none => js.givenAt entry name

def Js.readsNode (raw : Value) : Bool :=
  (properties raw).any fun entry => js.textAt entry "nodeId" "node_id" ≠ "" &&
    (STREAM_DAG_OPS.lookup (opOf (js.opText entry))).isSome

def Js.readsOutput (raw : Value) : Bool :=
  (properties raw).any fun entry => js.textAt entry "outputId" "output_id" ≠ "" &&
    js.textAt entry "nodeId" "node_id" ≠ ""

theorem isSome_normalizeDagNode (raw : Value) : (js.normalizeDagNode raw).isSome = js.readsNode raw := by
  unfold Js.normalizeDagNode Js.readsNode Js.textAt Js.opText
  cases properties raw with
  | none => rfl
  | some entry =>
    simp only [Option.bind_eq_bind,Option.bind_some,Option.any_some]
    split
    · simp_all
    · cases hspec : STREAM_DAG_OPS.lookup (opOf (trim (js.textOf (item? entry "op") none))) <;> simp_all

theorem isSome_normalizeDagOutput (raw : Value) :
    (js.normalizeDagOutput raw).isSome = js.readsOutput raw := by
  unfold Js.normalizeDagOutput Js.readsOutput Js.textAt
  cases properties raw with
  | none => rfl
  | some entry =>
    simp only [Option.bind_eq_bind,Option.bind_some,Option.any_some]
    split
    · simp_all
      tauto
    · simp_all

end

structure NodeReading where
  nodeId : String
  op : String
  source : String → Option String
  param : String → Option Value

structure NodeReading.Agrees (stored seen : NodeReading) : Prop where
  nodeId : seen.nodeId = stored.nodeId
  op : seen.op = stored.op
  inputs : ∀ port ∈ portsOf stored.op, seen.source port = stored.source port
  params : ∀ name ∈ declaredParams stored.op, ∀ v, stored.param name = some v →
    seen.param name = some v

theorem NodeReading.agrees_congr {a b stored : NodeReading} (hid : a.nodeId = b.nodeId)
    (hop : a.op = b.op) (hsource : ∀ port ∈ portsOf a.op, a.source port = b.source port)
    (hparam : ∀ name ∈ declaredParams a.op, a.param name = b.param name) :
    stored.Agrees a ↔ stored.Agrees b := by
  constructor
  · rintro ⟨hsameId,hsameOp,hinputs,hparams⟩
    refine ⟨hid ▸ hsameId,hop ▸ hsameOp,fun port hport => ?_,fun name hname v hv => ?_⟩
    · rw [← hsource port (hsameOp ▸ hport)]
      exact hinputs port hport
    · rw [← hparam name (hsameOp ▸ hname)]
      exact hparams name hname v hv
  · rintro ⟨hsameId,hsameOp,hinputs,hparams⟩
    have hsame : a.op = stored.op := hop.trans hsameOp
    refine ⟨hid.trans hsameId,hsame,fun port hport => ?_,fun name hname v hv => ?_⟩
    · rw [hsource port (hsame ▸ hport)]
      exact hinputs port hport
    · rw [hparam name (hsame ▸ hname)]
      exact hparams name hname v hv

def storedNode (repr : Value → String) (raw : Value) : NodeReading :=
  let entry := propertiesOf (some raw)
  ⟨textAt repr entry "node_id",opAt repr entry,sourceAt repr entry,item? (paramsAt repr entry)⟩

def Js.seenNode (js : Js) (raw : Value) : NodeReading :=
  let entry := propertiesOf (some raw)
  ⟨js.textAt entry "nodeId" "node_id",opOf (js.opText entry),sourceUnder entry,js.paramAt entry⟩

def StreamDagNodeConfig.reading (node : StreamDagNodeConfig) : NodeReading :=
  ⟨node.nodeId,node.op,node.source?,item? node.params⟩

@[simp] theorem storedNode_op (repr : Value → String) (raw : Value) :
    (storedNode repr raw).op = opAt repr (propertiesOf (some raw)) := by
  simp only [storedNode]

@[simp] theorem reading_op (node : StreamDagNodeConfig) : node.reading.op = node.op := by
  simp only [StreamDagNodeConfig.reading]

structure StreamDagNodeConfig.Tidy (node : StreamDagNodeConfig) : Prop where
  known : (STREAM_DAG_OPS.lookup node.op).isSome
  ports : ∀ port, port ∉ portsOf node.op → node.source? port = none

theorem lookup_map_pair {α : Type} (f : String → α) (l : List String) (name : String) :
    (l.map fun n => (n,f n)).lookup name = if name ∈ l then some (f name) else none := by
  induction l with
  | nil => simp
  | cons n rest ih =>
    by_cases hn : name = n
    · simp [hn]
    · have hbeq : (name == n) = false := by simpa using hn
      simp [List.lookup_cons,hbeq,ih,hn]

theorem item?_givenParams (op : String) (spec : StreamDagOpDef) (src : Entries) {name : String}
    (h : name ∈ spec.params) :
    item? (givenParams op spec src) name = (item? src name).or (item? (defaultParamsForOp op) name) := by
  have hfold : ∀ (names : List String) (d : Entries),
      item? (names.foldl (setGiven src) d) name =
        if name ∈ names then (item? src name).or (item? d name) else item? d name := by
    intro names
    induction names with
    | nil => simp
    | cons n rest ih =>
      intro d
      rw [List.foldl_cons,ih,setGiven]
      cases hn : item? src n with
      | none => by_cases hname : name = n <;> simp_all
      | some v => by_cases hname : name = n <;> simp_all
  rw [givenParams,hfold,if_pos h]

theorem legacyMode_some {opText mode : String} (h : legacyMode opText = some mode) :
    opOf opText = "source.stream" := by
  simp [opOf,h]

section
variable {js : Js}

theorem normalizeDagNode_some {raw : Value} {node : StreamDagNodeConfig}
    (h : js.normalizeDagNode raw = some node) : ∃ entry spec, properties raw = some entry ∧
      STREAM_DAG_OPS.lookup (opOf (js.opText entry)) = some spec ∧
      node = ⟨js.textAt entry "nodeId" "node_id",opOf (js.opText entry),
        js.applyLegacyMode (legacyMode (js.opText entry))
          (givenParams (opOf (js.opText entry)) spec (propertiesOf (item? entry "params"))),
        givenInputs spec (propertiesOf (item? entry "inputs"))⟩ := by
  unfold Js.normalizeDagNode at h
  cases hentry : properties raw with
  | none => simp [hentry] at h
  | some entry =>
    simp only [hentry,Option.bind_eq_bind,Option.bind_some] at h
    split at h
    · cases h
    · obtain ⟨spec,hspec,hnode⟩ := Option.bind_eq_some_iff.1 h
      cases hnode
      exact ⟨entry,spec,rfl,hspec,rfl⟩

theorem source?_givenInputs {nodeId op : String} {params : Entries} (spec : StreamDagOpDef)
    (entry : Entries) (port : String) :
    (⟨nodeId,op,params,givenInputs spec (propertiesOf (item? entry "inputs"))⟩ :
      StreamDagNodeConfig).source? port =
      if port ∈ spec.inputs ++ spec.optionalInputs then sourceUnder entry port else none := by
  have hinputs : givenInputs spec (propertiesOf (item? entry "inputs")) =
      (spec.inputs ++ spec.optionalInputs).map fun name =>
        (name,trim (stringOf (item? (propertiesOf (item? entry "inputs")) name))) := by
    simp only [givenInputs,defaultInputsForOp,List.map_map]
    apply List.map_congr_left
    intro name _
    dsimp only [Function.comp_def]
    split <;> simp_all
  unfold StreamDagNodeConfig.source?
  rw [hinputs,lookup_map_pair fun name => trim (stringOf (item? (propertiesOf (item? entry "inputs")) name))]
  split <;> rfl

theorem item?_applyLegacyMode {entry : Entries} {spec : StreamDagOpDef}
    (hspec : STREAM_DAG_OPS.lookup (opOf (js.opText entry)) = some spec) {name : String}
    (hname : name ∈ spec.params) : item? (js.applyLegacyMode (legacyMode (js.opText entry))
      (givenParams (opOf (js.opText entry)) spec (propertiesOf (item? entry "params")))) name =
      js.paramAt entry name := by
  have hgiven : ∀ name ∈ spec.params, item? (givenParams (opOf (js.opText entry)) spec
      (propertiesOf (item? entry "params"))) name = js.givenAt entry name :=
    fun name hname => item?_givenParams _ spec _ hname
  unfold Js.applyLegacyMode Js.paramAt
  cases hmode : legacyMode (js.opText entry) with
  | none => exact hgiven name hname
  | some mode =>
    -- Only the stream source is legacy, and it has the parameter.
    have hmem : "channel_mode" ∈ spec.params := by
      rw [legacyMode_some hmode] at hspec
      have hdeclared := (known_operator hspec).1
      rw [← hdeclared]
      decide +kernel
    simp only [hgiven _ hmem]
    by_cases hchannel : name = "channel_mode"
    · subst hchannel
      split <;> simp_all
    · split <;> simp_all

theorem agrees_normalizeDagNode {raw : Value} {node : StreamDagNodeConfig}
    (h : js.normalizeDagNode raw = some node) :
    node.Tidy ∧ ∀ stored : NodeReading, stored.Agrees node.reading ↔ stored.Agrees (js.seenNode raw) := by
  obtain ⟨entry,spec,hentry,hspec,rfl⟩ := normalizeDagNode_some h
  have hports : portsOf (opOf (js.opText entry)) = spec.inputs ++ spec.optionalInputs := by
    simp [portsOf,hspec]
  have hdeclared := (known_operator hspec).1
  have hseen : js.seenNode raw = ⟨js.textAt entry "nodeId" "node_id",opOf (js.opText entry),
      sourceUnder entry,js.paramAt entry⟩ := by
    simp [Js.seenNode,propertiesOf,hentry]
  refine ⟨⟨by simp [hspec],fun port hport => ?_⟩,fun stored => ?_⟩
  · rw [source?_givenInputs,if_neg]
    rwa [← hports]
  · rw [hseen]
    refine NodeReading.agrees_congr ?_ ?_ ?_ ?_
    · rfl
    · rfl
    · intro port hport
      simp only [StreamDagNodeConfig.reading,hports] at hport ⊢
      rw [source?_givenInputs,if_pos hport]
    · intro name hname
      simp only [StreamDagNodeConfig.reading,hdeclared] at hname ⊢
      exact item?_applyLegacyMode hspec hname

end

section
variable {K : Kernels} {repr : Python.Value → String} {decode : Entries → K.Params} {js : Js}

theorem sameNode_iff {raw : Value} {index : Nat} {node : NodeSpec (K.onDocuments repr decode)}
    (h : normalizeNode index (rawNode raw) = .ok node)
    (hports : ∃ sig, opSpec? node.op = some sig ∧ ∀ port, node.inputs.contains port →
      port ∈ sig.inputTypes.map fst ++ sig.optionalInputTypes.map fst)
    {shown : StreamDagNodeConfig} (htidy : shown.Tidy) :
    SameNode node shown ↔ (storedNode repr raw).Agrees shown.reading := by
  obtain ⟨attr,entry,rfl,hid,-,hop,hparams,hinputs⟩ := normalizeNode_rawNode h
  have hstored : storedNode repr (.dict attr entry) =
      ⟨node.nodeId,node.op,node.inputs.get?,item? node.params⟩ := by
    have hsource : sourceAt repr entry = node.inputs.get? := funext fun port => (hinputs port).symm
    simp only [storedNode,propertiesOf,properties,Option.bind_some,Option.getD_some,hid,hop,hparams,
      hsource]
  rw [hstored]
  constructor
  · rintro ⟨hsameId,hsameOp,hsources,hgiven⟩
    exact ⟨hsameId,hsameOp,fun port _ => hsources port,hgiven⟩
  · rintro ⟨hsameId,hsameOp,hsources,hgiven⟩
    refine ⟨hsameId,hsameOp,fun port => ?_,hgiven⟩
    by_cases hport : port ∈ portsOf node.op
    · exact hsources port hport
    · -- Neither side has a source outside of the operator's ports.
      obtain ⟨sig,hsig,hknown⟩ := hports
      have hopEq : shown.op = node.op := hsameOp
      obtain ⟨spec,hspec⟩ := Option.isSome_iff_exists.1 htidy.known
      rw [hopEq] at hspec
      have hnone : node.inputs.contains port = false := by
        by_contra hsome
        exact hport ((known_operator hspec).2 sig hsig ▸ hknown port (by simpa using hsome))
      rw [(OrderedDict.contains_eq_false _ _).1 hnone]
      exact htidy.ports port (hopEq ▸ hport)

theorem tidy_defaultGraph (w : StreamAnalysisWorkspaceConfig) :
    ∀ node ∈ (js.defaultGraphForLegacyWorkspace w).1, node.Tidy := by
  have hbare : ∀ (nodeId op : String) (params : Entries) (ports : List (String × String)),
      (STREAM_DAG_OPS.lookup op).isSome → (∀ e ∈ ports, e.1 ∈ portsOf op) →
      (⟨nodeId,op,params,ports⟩ : StreamDagNodeConfig).Tidy := by
    intro nodeId op params ports hknown hports
    refine ⟨hknown,fun port hport => ?_⟩
    have hnone : ports.lookup port = none := by
      rw [List.lookup_eq_none_iff]
      intro e he
      simp only [bne_iff_ne]
      rintro rfl
      exact hport (hports e he)
    simp [StreamDagNodeConfig.source?,hnone]
  intro node hnode
  simp only [Js.defaultGraphForLegacyWorkspace,List.cons_append,List.mem_cons,List.mem_append,
    List.not_mem_nil,or_false] at hnode
  rcases hnode with rfl | hbg | rfl | rfl | rfl | rfl
  · exact hbare "src" "source.stream" _ [] (by decide +kernel) (by simp)
  · split at hbg
    · obtain rfl := List.mem_singleton.1 hbg
      exact hbare _ _ _ _ (by decide +kernel) (by decide +kernel)
    · cases hbg
  · refine hbare _ _ _ _ (by decide +kernel) ?_
    have hport : "trace" ∈ portsOf "trace.crop" := by decide +kernel
    simpa using hport
  · exact hbare _ _ _ _ (by decide +kernel) (by decide +kernel)
  · exact hbare "ctx_x" "source.context_field" _ [] (by decide +kernel) (by simp)
  · exact hbare _ _ _ _ (by decide +kernel) (by decide +kernel)

end

def storedOutput (repr : Value → String) (raw : Value) : StreamDagOutputConfig :=
  let entry := propertiesOf (some raw)
  ⟨textAt repr entry "output_id",textAt repr entry "node_id",normalizeId (stringOf (item? entry "label"))⟩

def Js.seenOutput (js : Js) (raw : Value) : StreamDagOutputConfig :=
  let entry := propertiesOf (some raw)
  let label := trim (stringOf (item? entry "label"))
  ⟨js.textAt entry "outputId" "output_id",js.textAt entry "nodeId" "node_id",
    if label = "" then none else some label⟩

theorem normalizeDagOutput_some {js : Js} {raw : Value} {shown : StreamDagOutputConfig}
    (h : js.normalizeDagOutput raw = some shown) : shown = js.seenOutput raw := by
  unfold Js.normalizeDagOutput at h
  cases hentry : properties raw with
  | none => simp [hentry] at h
  | some entry =>
    simp only [hentry,Option.bind_eq_bind,Option.bind_some] at h
    split at h
    · cases h
    · cases h
      simp [Js.seenOutput,propertiesOf,hentry,Js.textAt]

theorem sameOutput_iff {repr : Value → String} {raw : Value} {item : RawOutput}
    (hitem : rawOutputOf repr raw = some item) {out : PublishOutput} (hgives : item.Gives out)
    {shown : StreamDagOutputConfig} : SameOutput out shown ↔ shown = storedOutput repr raw := by
  cases raw with
  | dict attr entry =>
    simp only [rawOutputOf,Option.some.injEq] at hitem
    subst hitem
    obtain ⟨hid,hnode,hlabel⟩ := hgives
    dsimp only at hid hnode hlabel
    have hidText := (textAt_of_some hid).1
    have hnodeText := (textAt_of_some hnode).1
    have hlabelText : normalizeId (stringOf (item? entry "label")) = out.label := by
      have hempty : normalizeId "" = none := by decide
      rw [← hlabel]
      unfold getKey getD stringOf
      rcases item? entry "label" with _ | (_ | _ | _ | _ | _ | _ | _) <;> simp [hempty]
    have hstored : storedOutput repr (.dict attr entry) = ⟨out.outputId,out.nodeId,out.label⟩ := by
      simp [storedOutput,propertiesOf,properties,hidText,hnodeText,hlabelText]
    rw [hstored]
    constructor
    · rintro ⟨hid,hnode,hlabel⟩
      rw [← hid,← hnode,← hlabel]
    · rintro rfl
      exact ⟨rfl,rfl,rfl⟩
  | _ => cases hitem

section
variable {α β γ : Type}

theorem forall₂_filterMap {R : α → β → Prop} {S : α → γ → Prop} {f : γ → Option β} {p : γ → Bool}
    (hp : ∀ c, (f c).isSome = p c) (hRS : ∀ c b, f c = some b → ∀ a, R a b ↔ S a c) {as : List α}
    {cs : List γ} : List.Forall₂ R as (cs.filterMap f) ↔ List.Forall₂ S as (cs.filter p) := by
  induction cs generalizing as with
  | nil => simp
  | cons c rest ih =>
    have hc := hp c
    cases hf : f c with
    | none =>
      rw [hf] at hc
      simp [hf,← hc,ih]
    | some b =>
      rw [hf] at hc
      rw [List.filterMap_cons,List.filter_cons,hf,← hc]
      cases as with
      | nil => simp
      | cons a as => simp [List.forall₂_cons,hRS c b hf a,ih]

theorem isEmpty_filterMap {f : γ → Option β} {p : γ → Bool} (hp : ∀ c, (f c).isSome = p c)
    (cs : List γ) : (cs.filterMap f).isEmpty = (cs.filter p).isEmpty := by
  induction cs with
  | nil => rfl
  | cons c rest ih =>
    have hc := hp c
    cases hf : f c <;> simp_all [← hc]

def ReadOrLegacy (reads : α → β → Prop) (stands : α → γ → Prop) (stored : List α) (read : List β)
    (legacy : List γ) : Prop :=
  if read.isEmpty then List.Forall₂ stands stored legacy else List.Forall₂ reads stored read

end

def Js.legacyGraph (js : Js) (id : String) (config : Entries) :
    List StreamDagNodeConfig × List StreamDagOutputConfig :=
  js.defaultGraphForLegacyWorkspace (js.settingsOf id config)

/-- The browser reads a document as the backend does. Of the stored nodes and outputs it reads those
under its own keys where these are there, drops the entries that it cannot make anything of, and reads
of each node only the ports and parameters that it knows. -/
structure ReadsAlike (js : Js) (repr : Value → String) (config : Entries) : Prop where
  workspaceId : trim (textAt repr config "workspace_id") = textAt repr config "workspace_id"
  nodes : ReadOrLegacy (fun raw seen => (storedNode repr raw).Agrees (js.seenNode seen))
    (fun raw node => (storedNode repr raw).Agrees node.reading) ((nodesRaw config).getD [])
    ((graphNodesRaw config).filter js.readsNode)
    (js.legacyGraph (textAt repr config "workspace_id") config).1
  outputs : ReadOrLegacy (fun raw seen => js.seenOutput seen = storedOutput repr raw)
    (fun raw shown => shown = storedOutput repr raw) ((outputsRaw config).getD [])
    ((publishOutputsRaw config).filter js.readsOutput)
    (js.legacyGraph (textAt repr config "workspace_id") config).2

section
variable {K : Kernels} {repr : Python.Value → String} {decode : Entries → K.Params} {js : Js}

theorem load_eq (id : String) (config : Entries) (hid : id ≠ "") :
    js.load id config = if trim id = id then some (js.normalizeWorkspace id config) else none := by
  unfold Js.load Js.normalizeStreamWorkspaceRecord objectEntries properties
  simp only [List.foldl_cons,List.foldl_nil]
  by_cases htrim : trim id = ""
  · rw [if_pos htrim,if_neg fun heq => hid (heq.symm.trans htrim)]
    rfl
  · rw [if_neg htrim,OrderedDict.get?_set]
    by_cases hsame : trim id = id
    · rw [if_pos hsame.symm,if_pos hsame,hsame]
    · rw [if_neg (Ne.symm hsame),if_neg hsame]
      rfl

variable {raws : List Value}

theorem nodes_iff {nodes : List (NodeSpec (K.onDocuments repr decode))}
    (hread : List.Forall₂ (fun raw node => ∃ index, normalizeNode index (rawNode raw) = .ok node) raws nodes)
    (hports : ∀ node ∈ nodes, ∃ sig, opSpec? node.op = some sig ∧ ∀ port, node.inputs.contains port →
      port ∈ sig.inputTypes.map fst ++ sig.optionalInputTypes.map fst)
    {shown : List StreamDagNodeConfig} (htidy : ∀ node ∈ shown, node.Tidy) :
    List.Forall₂ SameNode nodes shown ↔
      List.Forall₂ (fun raw node => (storedNode repr raw).Agrees node.reading) raws shown := by
  induction hread generalizing shown with
  | nil => simp
  | @cons raw node raws nodes hnode _ ih =>
    cases shown with
    | nil => simp
    | cons first rest =>
      obtain ⟨index,hnode⟩ := hnode
      rw [List.forall₂_cons,List.forall₂_cons,
        sameNode_iff hnode (hports node (by simp)) (htidy first (by simp)),
        ih (fun node hnode => hports node (by simp [hnode])) fun node hnode => htidy node (by simp [hnode])]

theorem outputs_iff {outputs : List PublishOutput}
    (hread : List.Forall₂ (fun raw out => ∃ item, rawOutputOf repr raw = some item ∧ item.Gives out)
      raws outputs) {shown : List StreamDagOutputConfig} : List.Forall₂ SameOutput outputs shown ↔
      List.Forall₂ (fun raw out => out = storedOutput repr raw) raws shown := by
  induction hread generalizing shown with
  | nil => simp
  | cons hout _ ih =>
    cases shown with
    | nil => simp
    | cons first rest =>
      obtain ⟨item,hitem,hgives⟩ := hout
      rw [List.forall₂_cons,List.forall₂_cons,sameOutput_iff hitem hgives,ih]

theorem shownNodes_iff (js : Js) (raws : List Value) (id : String) (config : Entries) :
    List.Forall₂ (fun raw node => (storedNode repr raw).Agrees node.reading) raws
        (js.normalizeWorkspace id config).graphNodes ↔
      ReadOrLegacy (fun raw seen => (storedNode repr raw).Agrees (js.seenNode seen))
        (fun raw node => (storedNode repr raw).Agrees node.reading) raws
        ((graphNodesRaw config).filter js.readsNode) (js.legacyGraph id config).1 := by
  unfold ReadOrLegacy Js.normalizeWorkspace
  dsimp only
  rw [isEmpty_filterMap (isSome_normalizeDagNode js)]
  split
  · rfl
  · exact forall₂_filterMap (isSome_normalizeDagNode js) fun _ _ hnode raw =>
      (agrees_normalizeDagNode hnode).2 (storedNode repr raw)

theorem shownOutputs_iff (js : Js) (raws : List Value) (id : String) (config : Entries) :
    List.Forall₂ (fun raw shown => shown = storedOutput repr raw) raws
        (js.normalizeWorkspace id config).publishOutputs ↔
      ReadOrLegacy (fun raw seen => js.seenOutput seen = storedOutput repr raw)
        (fun raw shown => shown = storedOutput repr raw) raws
        ((publishOutputsRaw config).filter js.readsOutput) (js.legacyGraph id config).2 := by
  unfold ReadOrLegacy Js.normalizeWorkspace
  dsimp only
  rw [isEmpty_filterMap (isSome_normalizeDagOutput js)]
  split
  · rfl
  · exact forall₂_filterMap (isSome_normalizeDagOutput js) fun _ _ hshown raw => by
      rw [normalizeDagOutput_some hshown]

theorem tidy_shown (js : Js) (id : String) (config : Entries) :
    ∀ node ∈ (js.normalizeWorkspace id config).graphNodes, node.Tidy := by
  intro node hnode
  unfold Js.normalizeWorkspace at hnode
  dsimp only at hnode
  split at hnode
  · exact tidy_defaultGraph _ node hnode
  · obtain ⟨raw,-,hraw⟩ := List.mem_filterMap.1 hnode
    exact (agrees_normalizeDagNode hraw).1

/-- The document has no graph under the browser's keys, and its ids, operators and labels are the same
texts on both sides. -/
structure SpelledAlike (js : Js) (repr : Value → String) (config : Entries) : Prop where
  workspaceId : trim (textAt repr config "workspace_id") = textAt repr config "workspace_id"
  graphNodes : coalesce (item? config "graphNodes") none = none
  publishOutputs : coalesce (item? config "publishOutputs") none = none
  nodes : ∀ raw ∈ (nodesRaw config).getD [],
    js.textAt (propertiesOf (some raw)) "nodeId" "node_id" =
        textAt repr (propertiesOf (some raw)) "node_id" ∧
      js.opText (propertiesOf (some raw)) = textAt repr (propertiesOf (some raw)) "op"
  outputs : ∀ raw ∈ (outputsRaw config).getD [], js.seenOutput raw = storedOutput repr raw

/-- A node that the browser keeps: it knows the operator, an old source gives a mode that is not blank,
and each port has the source that stands as a text under exactly its name. -/
structure NodeKept (js : Js) (repr : Value → String) (entry : Entries) : Prop where
  known : (STREAM_DAG_OPS.lookup (opAt repr entry)).isSome
  mode : (legacyMode (textAt repr entry "op")).isSome →
    ((item? (propertiesOf (item? entry "params")) "channel_mode").any fun v =>
      trim (js.textOf (some v) none) ≠ "") = true
  inputs : ∀ port ∈ portsOf (opAt repr entry), sourceUnder entry port = sourceAt repr entry port

instance (js : Js) (repr : Value → String) (config : Entries) : Decidable (SpelledAlike js repr config) :=
  decidable_of_iff (_ ∧ _ ∧ _ ∧ _ ∧ _) ⟨fun ⟨a,b,c,d,e⟩ => ⟨a,b,c,d,e⟩,fun ⟨a,b,c,d,e⟩ => ⟨a,b,c,d,e⟩⟩

instance (js : Js) (repr : Value → String) (entry : Entries) : Decidable (NodeKept js repr entry) :=
  decidable_of_iff (_ ∧ _ ∧ _) ⟨fun ⟨a,b,c⟩ => ⟨a,b,c⟩,fun ⟨a,b,c⟩ => ⟨a,b,c⟩⟩

theorem opOf_textAt (repr : Value → String) (entry : Entries) :
    opOf (textAt repr entry "op") = opAt repr entry := by
  unfold opOf opAt legacyMode
  split <;> simp_all

theorem objectOrNone_getKey (entry : Entries) (key : String) :
    (objectOrNone (getKey entry key)).getD [] = propertiesOf (item? entry key) := by
  unfold getKey getD objectOrNone propertiesOf properties
  rcases item? entry key with _ | (_ | _ | _ | _ | _ | _ | _) <;> rfl

theorem item?_setDefault (params : Entries) (key : String) (v : Value) (name : String) :
    item? (setDefault params key v) name =
      if name = key then (item? params key).or (some v) else item? params name := by
  unfold setDefault
  cases h : item? params key with
  | none => simp
  | some given => by_cases hname : name = key <;> simp [hname,h]

theorem item?_paramsAt (repr : Value → String) (entry : Entries) (name : String) :
    item? (paramsAt repr entry) name =
      match legacyMode (textAt repr entry "op") with
      | some mode =>
        if name = "channel_mode" then
          (item? (propertiesOf (item? entry "params")) "channel_mode").or (some (.str mode))
        else item? (propertiesOf (item? entry "params")) name
      | none => item? (propertiesOf (item? entry "params")) name := by
  unfold paramsAt legacyMode
  rw [objectOrNone_getKey]
  by_cases haverage : textAt repr entry "op" = "source.stream_average"
  · simp [haverage,item?_setDefault]
  · by_cases hsum : textAt repr entry "op" = "source.stream_sum"
    · simp [hsum,item?_setDefault]
    · simp [haverage,hsum]

theorem legacyMode_text {opText mode : String} (h : legacyMode opText = some mode) :
    trim mode ≠ "" ∧ mode ≠ "single" := by
  unfold legacyMode at h
  split at h
  · cases h
    decide +kernel
  · cases h
    decide +kernel
  · cases h

theorem trim_textOf_str (mode : String) : trim (js.textOf (some (.str mode)) none) = trim mode := rfl

theorem mode_iff {entry : Entries} {mode : String} (hop : js.opText entry = textAt repr entry "op")
    (hmode : legacyMode (textAt repr entry "op") = some mode) :
    (∀ v, item? (paramsAt repr entry) "channel_mode" = some v →
        js.paramAt entry "channel_mode" = some v) ↔
      ((item? (propertiesOf (item? entry "params")) "channel_mode").any fun v =>
        trim (js.textOf (some v) none) ≠ "") = true := by
  obtain ⟨hnonblank,hother⟩ := legacyMode_text hmode
  have hdefault : item? (defaultParamsForOp (opOf (js.opText entry))) "channel_mode" =
      some (.str "single") := by
    rw [hop,legacyMode_some hmode]
    decide
  rw [item?_paramsAt,hmode]
  simp only [if_true]
  unfold Js.paramAt Js.givenAt
  rw [hdefault,hop,hmode]
  cases hgiven : item? (propertiesOf (item? entry "params")) "channel_mode" with
  | none =>
    -- The default of the operator hides the mode of the old one.
    have hsingle : trim (js.textOf (some (.str "single")) none) ≠ "" := by
      rw [trim_textOf_str]
      decide +kernel
    simp [hsingle,Ne.symm hother]
  | some v =>
    by_cases hblank : trim (js.textOf (some v) none) = ""
    · have hne : v ≠ .str mode := by
        rintro rfl
        exact hnonblank (by rwa [trim_textOf_str] at hblank)
      simp [hblank,Ne.symm hne]
    · simp [hblank]

theorem agrees_seenNode {raw : Value} {entry : Entries} (hentry : propertiesOf (some raw) = entry)
    (hid : js.textAt entry "nodeId" "node_id" = textAt repr entry "node_id")
    (hop : js.opText entry = textAt repr entry "op") :
    (STREAM_DAG_OPS.lookup (opAt repr entry)).isSome ∧ (storedNode repr raw).Agrees (js.seenNode raw) ↔
      NodeKept js repr entry := by
  have hseenOp : opOf (js.opText entry) = opAt repr entry := by rw [hop,opOf_textAt]
  have hstored : storedNode repr raw =
      ⟨textAt repr entry "node_id",opAt repr entry,sourceAt repr entry,item? (paramsAt repr entry)⟩ := by
    rw [storedNode,hentry]
  have hseen : js.seenNode raw =
      ⟨textAt repr entry "node_id",opAt repr entry,sourceUnder entry,js.paramAt entry⟩ := by
    rw [Js.seenNode,hentry,hid,hseenOp]
  rw [hstored,hseen]
  constructor
  · rintro ⟨hknown,hagrees⟩
    have hinputs := hagrees.inputs
    have hparams := hagrees.params
    dsimp only at hinputs hparams
    refine ⟨hknown,fun hlegacy => ?_,hinputs⟩
    obtain ⟨mode,hmode⟩ := Option.isSome_iff_exists.1 hlegacy
    refine (mode_iff hop hmode).1 fun v hv => hparams "channel_mode" ?_ v hv
    rw [← opOf_textAt,legacyMode_some hmode]
    decide +kernel
  · rintro ⟨hknown,hmodes,hinputs⟩
    refine ⟨hknown,⟨?_,?_,?_,?_⟩⟩ <;> dsimp only
    · exact hinputs
    intro name _ v hv
    cases hmode : legacyMode (textAt repr entry "op") with
    | none =>
      rw [item?_paramsAt,hmode] at hv
      dsimp only at hv
      unfold Js.paramAt Js.givenAt
      rw [hop,hmode,hv]
      rfl
    | some mode =>
      by_cases hname : name = "channel_mode"
      · subst hname
        exact (mode_iff hop hmode).2 (hmodes (by simp [hmode])) v hv
      · rw [item?_paramsAt,hmode] at hv
        simp only [if_neg hname] at hv
        unfold Js.paramAt Js.givenAt
        rw [hop,hmode,hv]
        simp [hname]

theorem coalesce_of_none {first : Option Value} (h : coalesce first none = none) (second : Option Value) :
    coalesce first second = second := by
  unfold coalesce at *
  split <;> simp_all

theorem getKey_eq {entries : Entries} {key : String} {v : Value} (h : getKey entries key = v)
    (hne : v ≠ .none) : item? entries key = some v := by
  unfold getKey getD at h
  cases hitem : item? entries key with
  | none => exact absurd (by simpa [hitem] using h.symm) hne
  | some w => simpa [hitem] using h

variable {config : Entries}

theorem graphNodesRaw_eq (hraws : nodesRaw config = some raws)
    (hown : coalesce (item? config "graphNodes") none = none) : graphNodesRaw config = raws := by
  unfold nodesRaw at hraws
  split at hraws
  case h_1 graph hgraph =>
    split at hraws
    case h_1 nodes hnodes =>
      obtain rfl : nodes = raws := by simpa using hraws
      rw [graphNodesRaw,coalesce_of_none hown,getKey_eq hgraph (by simp)]
      have hitem := getKey_eq hnodes (by simp)
      simp [propertiesOf,properties,hitem,arrayOf]
    case h_2 => cases hraws
  case h_2 => cases hraws

theorem publishOutputsRaw_eq {items : List Value} (hitems : outputsRaw config = some items)
    (hown : coalesce (item? config "publishOutputs") none = none) : publishOutputsRaw config = items := by
  rw [publishOutputsRaw,coalesce_of_none hown]
  unfold outputsRaw at hitems
  split at hitems
  case h_1 publish hpublish =>
    rw [getKey_eq hpublish (by simp)]
    simp only [propertiesOf,properties,Option.bind_some,Option.getD_some]
    split at hitems
    case h_1 hnone =>
      obtain rfl : items = [] := by simpa using hitems.symm
      unfold getKey getD at hnone
      cases hitem : item? publish "outputs" with
      | none => rfl
      | some v =>
        obtain rfl : v = .none := by simpa [hitem] using hnone
        rfl
    case h_2 outputs houtputs =>
      obtain rfl : outputs = items := by simpa using hitems
      rw [getKey_eq houtputs (by simp)]
      rfl
    case h_3 => cases hitems
  case h_2 hother =>
    obtain rfl : items = [] := by simpa using hitems.symm
    unfold getKey getD at hother
    rcases hitem : item? config "publish" with _ | (_ | _ | _ | _ | _ | _ | _)
    case some.dict => simp [hitem] at hother
    all_goals rfl

theorem readOrLegacy_iff {α β : Type} {reads : α → α → Prop} {stands : α → β → Prop} {stored : List α}
    {legacy : List β} {p : α → Bool} (hne : stored ≠ [])
    (hlegacy : List.Forall₂ stands stored legacy → ∃ a ∈ stored, p a = true) :
    ReadOrLegacy reads stands stored (stored.filter p) legacy ↔
      ∀ a ∈ stored, p a = true ∧ reads a a := by
  unfold ReadOrLegacy
  split
  case isTrue hempty =>
    have hnone : ∀ a ∈ stored, ¬ p a = true := by simpa using hempty
    constructor
    · intro h
      obtain ⟨a,ha,hp⟩ := hlegacy h
      exact absurd hp (hnone a ha)
    · intro h
      obtain ⟨a,rest,rfl⟩ := List.exists_cons_of_ne_nil hne
      exact absurd (h a (by simp)).1 (hnone a (by simp))
  case isFalse =>
    constructor
    · intro h
      have hall : ∀ a ∈ stored, p a = true := by
        rw [← List.length_filter_eq_length_iff]
        exact h.length_eq.symm
      rw [List.filter_eq_self.2 hall,List.forall₂_same] at h
      exact fun a ha => ⟨hall a ha,h a ha⟩
    · intro h
      rw [List.filter_eq_self.2 fun a ha => (h a ha).1,List.forall₂_same]
      exact fun a ha => (h a ha).2

theorem accepted_node {nodes : List (NodeSpec (K.onDocuments repr decode))}
    (hread : List.Forall₂ (fun raw node => ∃ index, normalizeNode index (rawNode raw) = .ok node) raws
      nodes) :
    ∀ raw ∈ raws, ∃ entry, properties raw = some entry ∧ textAt repr entry "node_id" ≠ "" := by
  induction hread with
  | nil => simp
  | cons hnode _ ih =>
    obtain ⟨index,hnode⟩ := hnode
    obtain ⟨attr,entry,rfl,hid,hne,-⟩ := normalizeNode_rawNode hnode
    intro raw hraw
    cases List.mem_cons.1 hraw with
    | inl heq => exact ⟨entry,by rw [heq]; rfl,hid ▸ hne⟩
    | inr hin => exact ih raw hin

theorem accepted_output {outputs : List PublishOutput}
    (hread : List.Forall₂ (fun raw out => ∃ item, rawOutputOf repr raw = some item ∧ item.Gives out)
      raws outputs) : ∀ raw ∈ raws, ∃ entry, properties raw = some entry ∧
      textAt repr entry "output_id" ≠ "" ∧ textAt repr entry "node_id" ≠ "" := by
  induction hread with
  | nil => simp
  | @cons first out raws outputs hout _ ih =>
    intro raw hraw
    cases List.mem_cons.1 hraw with
    | inl heq =>
      obtain ⟨item,hitem,hid,hnode,-⟩ := hout
      cases first with
      | dict attr entry =>
        simp only [rawOutputOf,Option.some.injEq] at hitem
        subst hitem
        dsimp only at hid hnode
        obtain ⟨hidText,hidNe⟩ := textAt_of_some hid
        obtain ⟨hnodeText,hnodeNe⟩ := textAt_of_some hnode
        exact ⟨entry,by rw [heq]; rfl,hidText ▸ hidNe,hnodeText ▸ hnodeNe⟩
      | _ => cases hitem
    | inr hin => exact ih raw hin

theorem readsAlike_iff {c : CompiledWorkspace (K.onDocuments repr decode)}
    (hok : compileWorkspaceGraph (readConfig K repr decode config) = .ok c)
    (hspelled : SpelledAlike js repr config) : ReadsAlike js repr config ↔
      (∀ raw ∈ (nodesRaw config).getD [], NodeKept js repr (propertiesOf (some raw))) ∧
        (outputsRaw config).getD [] ≠ [] := by
  obtain ⟨list,order,hroot,-,-,-,-,houtputs,-⟩ := compileWorkspaceGraph_parts hok
  obtain ⟨raws,hraws,hraws_ne,hread,-⟩ := parseWorkspaceRoot_documents hroot
  obtain ⟨items,hitems,hgives⟩ := compileWorkspaceOutputs_documents houtputs
  obtain ⟨hid,hownNodes,hownOutputs,hnodes,houts⟩ := hspelled
  have haccepted := accepted_node hread
  have haccepted' := accepted_output hgives
  have hseenNodes := graphNodesRaw_eq hraws hownNodes
  have hseenOutputs := publishOutputsRaw_eq hitems hownOutputs
  simp only [hraws,hitems,Option.getD_some] at hnodes houts ⊢
  have hreadsNode : ∀ raw ∈ raws, js.readsNode raw =
      (STREAM_DAG_OPS.lookup (opAt repr (propertiesOf (some raw)))).isSome := by
    intro raw hraw
    obtain ⟨entry,hentry,hne⟩ := haccepted raw hraw
    obtain ⟨hidRaw,hopRaw⟩ := hnodes raw hraw
    simp only [propertiesOf,hentry,Option.bind_some,Option.getD_some] at hidRaw hopRaw ⊢
    simp [Js.readsNode,hentry,hidRaw,hne,hopRaw,opOf_textAt]
  have hreadsOutput : ∀ raw ∈ items, js.readsOutput raw = true := by
    intro raw hraw
    obtain ⟨entry,hentry,hidNe,hnodeNe⟩ := haccepted' raw hraw
    have hsame := houts raw hraw
    simp only [Js.seenOutput,storedOutput,propertiesOf,hentry,Option.bind_some,Option.getD_some,
      StreamDagOutputConfig.mk.injEq] at hsame
    simp [Js.readsOutput,hentry,hsame.1,hsame.2.1,hidNe,hnodeNe]
  have hkept : ∀ raw ∈ raws, js.readsNode raw = true ∧
      (storedNode repr raw).Agrees (js.seenNode raw) ↔ NodeKept js repr (propertiesOf (some raw)) := by
    intro raw hraw
    obtain ⟨hidRaw,hopRaw⟩ := hnodes raw hraw
    rw [hreadsNode raw hraw]
    exact agrees_seenNode rfl hidRaw hopRaw
  have hnodesIff : ReadOrLegacy (fun raw seen => (storedNode repr raw).Agrees (js.seenNode seen))
      (fun raw node => (storedNode repr raw).Agrees node.reading) raws (raws.filter js.readsNode)
      (js.legacyGraph (textAt repr config "workspace_id") config).1 ↔
      ∀ raw ∈ raws, NodeKept js repr (propertiesOf (some raw)) := by
    rw [readOrLegacy_iff hraws_ne]
    · exact forall₂_congr hkept
    · -- An entry that is as a node of the legacy graph can be read.
      intro hstands
      obtain ⟨raw,rest,hcons⟩ := List.exists_cons_of_ne_nil hraws_ne
      rw [hcons] at hstands
      obtain ⟨node,legacy,hagrees,-,hlegacy⟩ := List.forall₂_cons_left_iff.1 hstands
      have hmem : node ∈ (js.legacyGraph (textAt repr config "workspace_id") config).1 :=
        hlegacy ▸ List.mem_cons_self
      have hknown := (tidy_defaultGraph _ node hmem).known
      have hop := hagrees.op
      rw [reading_op,storedNode_op] at hop
      have hraw : raw ∈ raws := by simp [hcons]
      exact ⟨raw,hraw,by rw [hreadsNode raw hraw,← hop,hknown]⟩
  have houtputsIff : ReadOrLegacy (fun raw seen => js.seenOutput seen = storedOutput repr raw)
      (fun raw shown => shown = storedOutput repr raw) items (items.filter js.readsOutput)
      (js.legacyGraph (textAt repr config "workspace_id") config).2 ↔ items ≠ [] := by
    by_cases hempty : items = []
    · subst hempty
      simp [ReadOrLegacy,Js.legacyGraph,Js.defaultGraphForLegacyWorkspace]
    · rw [readOrLegacy_iff hempty]
      · exact iff_of_true (fun raw hraw => ⟨hreadsOutput raw hraw,houts raw hraw⟩) hempty
      · intro _
        obtain ⟨first,rest,rfl⟩ := List.exists_cons_of_ne_nil hempty
        exact ⟨first,by simp,hreadsOutput first (by simp)⟩
  constructor
  · rintro ⟨-,halike,halike'⟩
    simp only [hraws,hitems,Option.getD_some,hseenNodes,hseenOutputs] at halike halike'
    exact ⟨hnodesIff.mp halike,houtputsIff.mp halike'⟩
  · rintro ⟨hall,hsome⟩
    refine ⟨hid,?_,?_⟩
    · simp only [hraws,Option.getD_some,hseenNodes]
      exact hnodesIff.mpr hall
    · simp only [hitems,Option.getD_some,hseenOutputs]
      exact houtputsIff.mpr hsome

/-- The browser has, under the id of the workspace, the graph that the backend has compiled. -/
def Keeps (js : Js) (c : CompiledWorkspace (K.onDocuments repr decode)) (config : Entries) : Prop :=
  ∃ shown, js.load c.workspaceId config = some shown ∧ SameGraph c shown

theorem keeps_iff {c : CompiledWorkspace (K.onDocuments repr decode)}
    (hok : compileWorkspaceGraph (readConfig K repr decode config) = .ok c) :
    Keeps js c config ↔ ReadsAlike js repr config := by
  obtain ⟨list,order,hroot,-,-,-,-,houtputs,-⟩ := compileWorkspaceGraph_parts hok
  obtain ⟨raws,hraws,-,hread,-,hid,hne⟩ := parseWorkspaceRoot_documents hroot
  obtain ⟨items,hitems,hgives⟩ := compileWorkspaceOutputs_documents houtputs
  have hnodes := (nodes_iff hread (fun node hnode => compileWorkspaceGraph_ports hok hnode)
    (tidy_shown js c.workspaceId config)).trans (shownNodes_iff js raws c.workspaceId config)
  have houts := (outputs_iff hgives).trans (shownOutputs_iff js items c.workspaceId config)
  rw [Keeps,load_eq c.workspaceId config hne]
  constructor
  · rintro ⟨shown,hload,hsame⟩
    split at hload
    case isFalse => cases hload
    case isTrue htrim =>
      cases hload
      refine ⟨hid ▸ htrim,?_,?_⟩
      · simpa [hraws,← hid] using hnodes.1 hsame.nodes
      · simpa [hitems,← hid] using houts.1 hsame.outputs
  · rintro ⟨htrim,halikeNodes,halikeOutputs⟩
    refine ⟨_,if_pos (hid ▸ htrim),hnodes.2 ?_,houts.2 ?_⟩
    · simpa [hraws,← hid] using halikeNodes
    · simpa [hitems,← hid] using halikeOutputs

/-- An accepted workspace is kept exactly if the browser reads its document alike. Under the backend's
own keys this says that it knows every operator, that every old source gives its mode, that the inputs
stand as texts under exactly their names, and that something is published. -/
theorem browser_keeps_workspace {config : Entries} {c : CompiledWorkspace (K.onDocuments repr decode)}
    (hok : compileWorkspaceGraph (readConfig K repr decode config) = .ok c) :
    (Keeps js c config ↔ ReadsAlike js repr config) ∧ (SpelledAlike js repr config →
        (Keeps js c config ↔
          (∀ raw ∈ (nodesRaw config).getD [], NodeKept js repr (propertiesOf (some raw))) ∧
            (outputsRaw config).getD [] ≠ [])) :=
  ⟨keeps_iff hok,fun hspelled => (keeps_iff hok).trans (readsAlike_iff hok hspelled)⟩

end

def plainJs : Js where
  render v := match v with
    | .none => "null"
    | .bool true => "true"
    | .bool false => "false"
    | .int n => toString n
    | _ => ""
  number v := match v with
    | .none => some 0
    | .bool b => some (if b then 1 else 0)
    | .int n => some n
    | _ => none
  ofNumber x := .int x.floor

def nodeDocument (nodeId op : String) (params inputs : Entries) : Value :=
  .dict false [("node_id",.str nodeId),("op",.str op),("params",.dict false params),
    ("inputs",.dict false inputs)]

def cameraDocument (sourceOp : String) (mode : Entries) (op : String) (published : Bool) : Entries :=
  [("workspace_id",.str "ws-1"),
    ("graph",.dict false [("nodes",.list [
      nodeDocument "src" sourceOp ([("device_id",.str "camera"),("stream",.str "frames")] ++ mode) [],
      nodeDocument "value" op [] [("trace",.str "src")]])]),
    ("publish",.dict false [("outputs",.list (if published then
      [.dict false [("output_id",.str "value"),("node_id",.str "value")]] else []))])]

def compileCamera (config : Entries) :=
  compileWorkspaceGraph (readConfig integers (fun _ => "") (fun _ => ⟨1,1⟩) config)

theorem summed_camera_is_kept : ∃ c, compileCamera (cameraDocument "source.stream_sum"
      [("channel_mode",.str "sum")] "trace.integrate" true) = .ok c ∧
    Keeps plainJs c (cameraDocument "source.stream_sum" [("channel_mode",.str "sum")] "trace.integrate"
      true) := by
  have hok : (compileCamera (cameraDocument "source.stream_sum" [("channel_mode",.str "sum")]
      "trace.integrate" true)).isOk = true := by decide +kernel
  cases hc : compileCamera (cameraDocument "source.stream_sum" [("channel_mode",.str "sum")]
      "trace.integrate" true) with
  | error e => simp [hc,Except.isOk,Except.toBool] at hok
  | ok c =>
    exact ⟨c,rfl,((browser_keeps_workspace hc).2 (by decide +kernel)).2
      ⟨by decide +kernel,by decide +kernel⟩⟩

theorem not_kept {config : Entries} (hok : (compileCamera config).isOk = true)
    (hspelled : SpelledAlike plainJs (fun _ => "") config)
    (hlost : ¬ ((∀ raw ∈ (nodesRaw config).getD [],
        NodeKept plainJs (fun _ => "") (propertiesOf (some raw))) ∧ (outputsRaw config).getD [] ≠ [])) :
    ∃ c, compileCamera config = .ok c ∧ ¬ Keeps plainJs c config := by
  cases hc : compileCamera config with
  | error e => simp [hc,Except.isOk,Except.toBool] at hok
  | ok c => exact ⟨c,rfl,fun hkeeps => hlost ((readsAlike_iff hc hspelled).1 ((keeps_iff hc).1 hkeeps))⟩

theorem camera_not_kept :
    (∃ c, compileCamera (cameraDocument "source.stream" [] "trace.gate" true) = .ok c ∧
      ¬ Keeps plainJs c (cameraDocument "source.stream" [] "trace.gate" true)) ∧
    (∃ c, compileCamera (cameraDocument "source.stream_average" [] "trace.integrate" true) = .ok c ∧
      ¬ Keeps plainJs c (cameraDocument "source.stream_average" [] "trace.integrate" true)) ∧
    ∃ c, compileCamera (cameraDocument "source.stream" [] "trace.integrate" false) = .ok c ∧
      ¬ Keeps plainJs c (cameraDocument "source.stream" [] "trace.integrate" false) := by
  refine ⟨not_kept ?_ ?_ ?_,not_kept ?_ ?_ ?_,not_kept ?_ ?_ ?_⟩ <;> decide +kernel

end ExperimentControl.Browser

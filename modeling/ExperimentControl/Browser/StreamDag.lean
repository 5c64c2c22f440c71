import ExperimentControl.Browser.Js

/-!
The operators that the browser knows and the nodes and outputs that it makes of a stored workspace
(`features/stream/dag.ts`).
-/

namespace ExperimentControl.Browser
open Python

structure StreamDagOpDef where
  inputs : List String
  optionalInputs : List String
  params : List String
  deriving DecidableEq

structure StreamDagNodeConfig where
  nodeId : String
  op : String
  params : Entries
  inputs : List (String × String)
  deriving DecidableEq

structure StreamDagOutputConfig where
  outputId : String
  nodeId : String
  label : Option String
  deriving DecidableEq

@[irreducible] def STREAM_DAG_OPS : List (String × StreamDagOpDef) := [
  ("source.stream",⟨[],[],["device_id","stream","channel_mode","channel_index","channel_indices"]⟩),
  ("source.context_field",⟨[],[],["field"]⟩),
  ("source.telemetry_nearest",⟨[],[],["device_id","signal","max_dt_s"]⟩),
  ("scalar.add",⟨["a","b"],[],[]⟩),
  ("scalar.subtract",⟨["a","b"],[],[]⟩),
  ("scalar.multiply",⟨["a","b"],[],[]⟩),
  ("scalar.divide",⟨["a","b"],[],[]⟩),
  ("scalar.threshold",⟨["x"],[],["threshold","mode"]⟩),
  ("trace.divide",⟨["a","b"],[],[]⟩),
  ("trace.add_scalar",⟨["trace","scalar"],[],[]⟩),
  ("trace.subtract_scalar",⟨["trace","scalar"],[],[]⟩),
  ("trace.multiply_scalar",⟨["trace","scalar"],[],[]⟩),
  ("trace.divide_scalar",⟨["trace","scalar"],[],[]⟩),
  ("trace.rolling_mean",⟨["trace"],[],["window_traces"]⟩),
  ("trace.block_average",⟨["trace"],[],["block_traces"]⟩),
  ("trace.decimate",⟨["trace"],[],["method","target_points"]⟩),
  ("trace.crop",⟨["trace"],[],["start_idx","stop_idx"]⟩),
  ("trace.window_mean",⟨["trace"],[],["start_idx","stop_idx"]⟩),
  ("trace.subtract_background",⟨["trace"],[],["bg_start_idx","bg_stop_idx"]⟩),
  ("trace.integrate",⟨["trace"],[],[]⟩),
  ("trace.scale",⟨["trace"],[],["factor"]⟩),
  ("fit.curve_1d",⟨["x","y"],["gate"],
    ["model","baseline_mode","every_n","sigma_y","dense_eval_points","t0_s"]⟩),
  ("fit.yhat",⟨["fit"],[],[]⟩),
  ("fit.xhat",⟨["fit"],[],[]⟩),
  ("fit.yhat_dense",⟨["fit"],[],[]⟩),
  ("fit.xhat_dense",⟨["fit"],[],[]⟩),
  ("fit.param",⟨["fit"],[],["name","field"]⟩),
  ("fit.params",⟨["fit"],[],[]⟩),
  ("fit.from_hist_agg",⟨["hist"],["gate"],["y_source","model","baseline_mode","every_n","sigma_y",
    "dense_eval_points","t0_s","chi2_sigma_source","min_count","x_min","x_max"]⟩),
  ("aggregate.bin_stats",⟨["x","y"],["gate"],["auto_range","x_min","x_max","bin_count"]⟩),
  ("aggregate.bin_ratio_stats",⟨["x","numerator","denominator"],["gate"],
    ["auto_range","x_min","x_max","bin_count"]⟩),
  ("hist.divide",⟨["numerator","denominator"],[],["require_equal_counts","align_auto_bins"]⟩),
  ("aggregate.bin2d_stats",⟨["x","y","z"],["gate"],["x_auto_range","x_min","x_max","x_bin_count",
    "y_auto_range","y_min","y_max","y_bin_count"]⟩)]

def DEFAULT_STREAM_CONTEXT_FIELD : String := "freq_hz"
def DEFAULT_BIN_COUNT : Int := 30
def DEFAULT_BIN_X_MIN : Int := -15000000
def DEFAULT_BIN_X_MAX : Int := 15000000
def DEFAULT_TRACE_MAX_POINTS : Int := 1200

def defaultBins : Entries := [("auto_range",.bool false),("x_min",.int DEFAULT_BIN_X_MIN),
  ("x_max",.int DEFAULT_BIN_X_MAX),("bin_count",.int DEFAULT_BIN_COUNT)]

def defaultParamsForOp (op : String) : Entries :=
  match op with
  | "source.stream" => [("device_id",.str ""),("stream",.str ""),("channel_mode",.str "single"),
      ("channel_index",.int 0),("channel_indices",.str "")]
  | "source.context_field" => [("field",.str DEFAULT_STREAM_CONTEXT_FIELD)]
  | "source.telemetry_nearest" => [("device_id",.str ""),("signal",.str ""),("max_dt_s",.int 2)]
  | "scalar.threshold" => [("threshold",.int 0),("mode",.str "gt")]
  | "trace.crop" => [("start_idx",.int 0)]
  | "trace.subtract_background" => [("bg_start_idx",.int 0),("bg_stop_idx",.int 1)]
  | "trace.scale" => [("factor",.int 1)]
  | "trace.rolling_mean" => [("window_traces",.int 1)]
  | "trace.block_average" => [("block_traces",.int 8)]
  | "trace.decimate" => [("method",.str "minmax"),("target_points",.int DEFAULT_TRACE_MAX_POINTS)]
  | "fit.curve_1d" => [("model",.str "gaussian"),("baseline_mode",.str "none"),("every_n",.int 1),
      ("dense_eval_points",.int 200)]
  | "fit.param" => [("name",.str "center"),("field",.str "value")]
  | "fit.from_hist_agg" => [("y_source",.str "mean"),("model",.str "gaussian"),
      ("baseline_mode",.str "none"),("every_n",.int 1),("dense_eval_points",.int 200),
      ("chi2_sigma_source",.str "sem"),("min_count",.int 1)]
  | "aggregate.bin_stats" => defaultBins
  | "aggregate.bin_ratio_stats" => defaultBins
  | "aggregate.bin2d_stats" => [("x_auto_range",.bool false),("x_min",.int DEFAULT_BIN_X_MIN),
      ("x_max",.int DEFAULT_BIN_X_MAX),("x_bin_count",.int DEFAULT_BIN_COUNT),
      ("y_auto_range",.bool false),("y_min",.int (-1)),("y_max",.int 1),
      ("y_bin_count",.int DEFAULT_BIN_COUNT)]
  | _ => []

def defaultInputsForOp (spec : StreamDagOpDef) : List (String × String) :=
  (spec.inputs ++ spec.optionalInputs).map fun name => (name,"")

def legacyMode (opText : String) : Option String :=
  match opText with
  | "source.stream_average" => some "average"
  | "source.stream_sum" => some "sum"
  | _ => none

def opOf (opText : String) : String := if (legacyMode opText).isSome then "source.stream" else opText

def setGiven (paramsSrc params : Entries) (name : String) : Entries :=
  match item? paramsSrc name with
  | some v => setItem params name v
  | none => params

def givenParams (op : String) (spec : StreamDagOpDef) (paramsSrc : Entries) : Entries :=
  spec.params.foldl (setGiven paramsSrc) (defaultParamsForOp op)

def Js.applyLegacyMode (js : Js) (mode : Option String) (params : Entries) : Entries :=
  match mode with
  | some mode =>
    if trim (js.textOf (item? params "channel_mode") none) = "" then
      setItem params "channel_mode" (.str mode)
    else params
  | none => params

def givenInputs (spec : StreamDagOpDef) (inputsSrc : Entries) : List (String × String) :=
  (defaultInputsForOp spec).map fun e =>
    let rawValue := stringOf (item? inputsSrc e.1)
    if trim rawValue = "" then e else (e.1,trim rawValue)

def Js.normalizeDagNode (js : Js) (raw : Value) : Option StreamDagNodeConfig := do
  let obj ← properties raw
  let nodeId := trim (js.textOf (item? obj "nodeId") (item? obj "node_id"))
  let opText := trim (js.textOf (item? obj "op") none)
  if nodeId = "" then none
  let spec ← STREAM_DAG_OPS.lookup (opOf opText)
  let params := givenParams (opOf opText) spec (propertiesOf (item? obj "params"))
  return {
    nodeId := nodeId
    op := opOf opText
    params := js.applyLegacyMode (legacyMode opText) params
    inputs := givenInputs spec (propertiesOf (item? obj "inputs")) }

def Js.normalizeDagOutput (js : Js) (raw : Value) : Option StreamDagOutputConfig := do
  let obj ← properties raw
  let outputId := trim (js.textOf (item? obj "outputId") (item? obj "output_id"))
  let nodeId := trim (js.textOf (item? obj "nodeId") (item? obj "node_id"))
  if outputId = "" || nodeId = "" then none
  let label := trim (stringOf (item? obj "label"))
  return ⟨outputId,nodeId,if label = "" then none else some label⟩

end ExperimentControl.Browser

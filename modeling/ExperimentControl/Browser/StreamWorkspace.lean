import ExperimentControl.Browser.StreamDag
import ExperimentControl.Lib.OrderedDict

/-!
The workspaces that the browser makes of the stored ones (`features/stream/workspace.ts`), down to the
graph that it falls back to for a workspace without one.
-/

namespace ExperimentControl.Browser
open Lib Python

structure StreamAnalysisSettings where
  traceStartIdx : Int
  traceStopIdx : Option Int
  backgroundEnabled : Bool
  backgroundStartIdx : Int
  backgroundStopIdx : Int

structure StreamBinStatsSettings where
  contextField : String
  xMin : Rat
  xMax : Rat
  binCount : Int
  autoRange : Bool

/-- The parts of a workspace that its graph is read from, or made from where there is none. -/
structure StreamAnalysisWorkspaceConfig where
  workspaceId : String
  /-- `deviceId` and `stream` of the legacy selection. -/
  stream : Option (String × String)
  channelIndex : Int
  analysis : StreamAnalysisSettings
  binStats : StreamBinStatsSettings
  graphNodes : List StreamDagNodeConfig
  publishOutputs : List StreamDagOutputConfig
  enabled : Bool

def DEFAULT_INTEGRAL_OUTPUT_ID : String := "integral"
def DEFAULT_BIN_OUTPUT_ID : String := "bin_stats"

def Js.normalizeNonNegativeInt (js : Js) (value : Option Value) (fallback : Int) : Int :=
  match js.numberOf value with
  | none => max 0 fallback
  | some parsed => max 0 (trunc parsed)

def Js.normalizePositiveInt (js : Js) (value : Option Value) (fallback : Int) : Int :=
  match js.numberOf value with
  | none => max 1 fallback
  | some parsed => max 1 (trunc parsed)

def defaultStreamAnalysisSettings : StreamAnalysisSettings := ⟨0,none,false,0,0⟩

def Js.normalizeStreamAnalysisSettings (js : Js) (raw : Option Value) : StreamAnalysisSettings :=
  match raw.bind properties with
  | none => defaultStreamAnalysisSettings
  | some obj =>
    let defaults := defaultStreamAnalysisSettings
    { traceStartIdx := js.normalizeNonNegativeInt (item? obj "traceStartIdx") defaults.traceStartIdx
      traceStopIdx := match js.numberOf (item? obj "traceStopIdx") with
        | some stop => if 0 < stop then some (trunc stop) else none
        | none => none
      backgroundEnabled := item? obj "backgroundEnabled" = some (.bool true)
      backgroundStartIdx :=
        js.normalizeNonNegativeInt (item? obj "backgroundStartIdx") defaults.backgroundStartIdx
      backgroundStopIdx :=
        js.normalizeNonNegativeInt (item? obj "backgroundStopIdx") defaults.backgroundStopIdx }

def defaultStreamBinStatsSettings : StreamBinStatsSettings :=
  ⟨DEFAULT_STREAM_CONTEXT_FIELD,DEFAULT_BIN_X_MIN,DEFAULT_BIN_X_MAX,DEFAULT_BIN_COUNT,true⟩

def Js.normalizeStreamBinStatsSettings (js : Js) (raw : Option Value) : StreamBinStatsSettings :=
  match raw.bind properties with
  | none => defaultStreamBinStatsSettings
  | some obj =>
    let defaults := defaultStreamBinStatsSettings
    let contextFieldRaw := trim (stringOf (item? obj "contextField"))
    let xMin := (js.numberOf (item? obj "xMin")).getD defaults.xMin
    let xMax := (js.numberOf (item? obj "xMax")).getD defaults.xMax
    { contextField := if contextFieldRaw = "" then defaults.contextField else contextFieldRaw
      xMin := xMin
      xMax := if xMax ≤ xMin then xMin+1 else xMax
      binCount := js.normalizePositiveInt (item? obj "binCount") defaults.binCount
      autoRange := item? obj "autoRange" ≠ some (.bool false) }

def Js.defaultGraphForLegacyWorkspace (js : Js) (workspace : StreamAnalysisWorkspaceConfig) :
    List StreamDagNodeConfig × List StreamDagOutputConfig :=
  let stream := workspace.stream.getD ("","")
  let channel := Value.int workspace.channelIndex
  let src : StreamDagNodeConfig := ⟨"src","source.stream",
    [("device_id",.str stream.1),("stream",.str stream.2),("channel_mode",.str "single"),
      ("channel_index",channel),("channel_indices",.str (js.text channel))],[]⟩
  let bg : List StreamDagNodeConfig :=
    if workspace.analysis.backgroundEnabled then [⟨"bg","trace.subtract_background",
      [("bg_start_idx",.int workspace.analysis.backgroundStartIdx),
        ("bg_stop_idx",.int workspace.analysis.backgroundStopIdx)],[("trace","src")]⟩]
    else []
  let traceNodeId := if workspace.analysis.backgroundEnabled then "bg" else "src"
  let stop : Entries := match workspace.analysis.traceStopIdx with
    | none => []
    | some stop => [("stop_idx",.int stop)]
  let crop : StreamDagNodeConfig := ⟨"crop","trace.crop",
    ("start_idx",.int workspace.analysis.traceStartIdx) :: stop,[("trace",traceNodeId)]⟩
  let integral : StreamDagNodeConfig := ⟨"integral","trace.integrate",[],[("trace","crop")]⟩
  let ctx : StreamDagNodeConfig :=
    ⟨"ctx_x","source.context_field",[("field",.str workspace.binStats.contextField)],[]⟩
  let bin : StreamDagNodeConfig := ⟨"bin","aggregate.bin_stats",
    [("auto_range",.bool workspace.binStats.autoRange),
      ("x_min",js.ofNumber workspace.binStats.xMin),("x_max",js.ofNumber workspace.binStats.xMax),
      ("bin_count",.int workspace.binStats.binCount)],[("x","ctx_x"),("y","integral")]⟩
  (src :: bg ++ [crop,integral,ctx,bin],
    [⟨DEFAULT_INTEGRAL_OUTPUT_ID,"integral",none⟩,⟨DEFAULT_BIN_OUTPUT_ID,"bin",none⟩])

def graphNodesRaw (obj : Entries) : List Value :=
  arrayOf (coalesce (item? obj "graphNodes") (item? (propertiesOf (item? obj "graph")) "nodes"))

def publishOutputsRaw (obj : Entries) : List Value :=
  arrayOf (coalesce (item? obj "publishOutputs") (item? (propertiesOf (item? obj "publish")) "outputs"))

def streamTarget (obj : Entries) : Option (String × String) :=
  let streamRaw := propertiesOf (item? obj "stream")
  let deviceId := stringOf (item? streamRaw "deviceId")
  let stream := stringOf (item? streamRaw "stream")
  if deviceId = "" || stream = "" then none else some (deviceId,stream)

/-- A workspace before its graph is read; the display name is left out, and so are the selection and
the channel that are read back from the graph afterwards. -/
def Js.settingsOf (js : Js) (workspaceId : String) (obj : Entries) : StreamAnalysisWorkspaceConfig :=
  let ownId := trim (stringOf (item? obj "workspaceId"))
  { workspaceId := if ownId = "" then workspaceId else ownId
    stream := streamTarget obj
    channelIndex := match js.numberOf (item? obj "channelIndex") with
      | some channel => if 0 ≤ channel then trunc channel else 0
      | none => 0
    analysis := js.normalizeStreamAnalysisSettings (item? obj "analysis")
    binStats := js.normalizeStreamBinStatsSettings (item? obj "binStats")
    graphNodes := []
    publishOutputs := []
    enabled := item? obj "enabled" ≠ some (.bool false) }

def Js.normalizeWorkspace (js : Js) (workspaceId : String) (obj : Entries) :
    StreamAnalysisWorkspaceConfig :=
  let normalized := js.settingsOf workspaceId obj
  let graphNodes := (graphNodesRaw obj).filterMap js.normalizeDagNode
  let publishOutputs := (publishOutputsRaw obj).filterMap js.normalizeDagOutput
  let legacy := js.defaultGraphForLegacyWorkspace normalized
  { normalized with
    graphNodes := if graphNodes.isEmpty then legacy.1 else graphNodes
    publishOutputs := if publishOutputs.isEmpty then legacy.2 else publishOutputs }

/-- `Object.entries(raw)`, where it is an object. -/
def objectEntries : Value → Entries
  | .dict _ entries => entries
  | .list items => items.zipIdx.map fun e => (toString e.2,e.1)
  | _ => []

def Js.normalizeStreamWorkspaceRecord (js : Js) (raw : Value) :
    OrderedDict String StreamAnalysisWorkspaceConfig :=
  (objectEntries raw).foldl (fun out e =>
    let workspaceId := trim e.1
    match properties e.2 with
    | some obj =>
      if workspaceId = "" then out else out.set workspaceId (js.normalizeWorkspace workspaceId obj)
    | none => out) .empty

end ExperimentControl.Browser

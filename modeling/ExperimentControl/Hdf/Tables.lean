import ExperimentControl.Hdf.Telemetry

/-!
The two tables of a file that messages of all devices share: the event log and the context table
with its columns.
-/

namespace ExperimentControl.Hdf
open Lib Python

structure EventRow where
  tWall : UInt64
  tMono : UInt64
  kind : String
  severity : String
  deviceId : String
  action : String
  paramsJson : String
  ok : Bool
  error : String
  resultJson : String
  topic : String
  message : String
  payloadJson : String
  deriving DecidableEq

/-- What a message comes to in the loop of `_write_event_rows_batch`. -/
inductive EventOutcome where
  | raised
  | skipped
  | row (row : EventRow)
  deriving DecidableEq

section
variable (py : Py)

/-- `str(msg.get(key, default))` -/
def textOf (msg : Msg) (key default : String) : String := py.str (getD msg key (.str default))

/-- `str(msg.get(key, "") or "")` -/
def textOrEmpty (msg : Msg) (key : String) : String :=
  let v := getD msg key (.str "")
  if v.truthy then py.str v else ""

def commandRow (tWall tMono : UInt64) (device topic : String) (msg : Msg) : EventRow where
  tWall := tWall
  tMono := tMono
  kind := "command"
  severity := "info"
  deviceId := device
  action := textOf py msg "action" ""
  paramsJson := textOf py msg "params_json" ""
  ok := (getD msg "ok" (.bool false)).truthy
  error := textOrEmpty py msg "error"
  resultJson := textOf py msg "result_json" ""
  topic := topic
  message := ""
  payloadJson := ""

def logRow (tWall tMono : UInt64) (msg : Msg) : EventRow where
  tWall := tWall
  tMono := tMono
  kind := "event"
  severity := textOf py msg "severity" ""
  deviceId := textOrEmpty py msg "device_id"
  action := ""
  paramsJson := ""
  ok := false
  error := textOrEmpty py msg "error"
  resultJson := ""
  topic := textOrEmpty py msg "topic"
  message := textOrEmpty py msg "message"
  payloadJson := textOrEmpty py msg "payload_json"

/-- The body of the loop of `_write_event_rows_batch`. -/
def eventOutcome (disabledDevices : List String) (topic : String) (msg : Msg) : EventOutcome :=
  let ts := getD msg "ts" (.dict false [])
  match tsField py ts "t_wall",tsField py ts "t_mono" with
  | some tWall,some tMono =>
    if topic = "manager.command" then
      match py.normalizeDeviceId (getD msg "device_id" .none) with
      | none => .skipped
      | some device =>
        if isEnabled disabledDevices device then .row (commandRow py tWall tMono device topic msg)
        else .skipped
    else if topic = "manager.log" then .row (logRow py tWall tMono msg)
    else .skipped
  | _,_ => .raised

/-- The loop of `_write_event_rows_batch`: what it appends to the dataset, and whether it comes to
its end. A full staging array is flushed when the next row comes. -/
def writeEventRows (capacity : Nat) (disabledDevices : List String) :
    List (String × Msg) → List EventRow → List EventRow → List EventRow × Bool
  | [],appended,staged => (appended ++ staged,true)
  | (topic,msg) :: rest,appended,staged =>
    match eventOutcome py disabledDevices topic msg with
    | .raised => (appended,false)
    | .skipped => writeEventRows capacity disabledDevices rest appended staged
    | .row row =>
      if capacity ≤ staged.length then
        writeEventRows capacity disabledDevices rest (appended ++ staged) [row]
      else writeEventRows capacity disabledDevices rest appended (staged ++ [row])

def eventRows (disabledDevices : List String) (rows : List (String × Msg)) : List EventRow :=
  rows.filterMap fun r =>
    match eventOutcome py disabledDevices r.1 r.2 with
    | .row row => some row
    | _ => none

end

inductive ColumnType where
  | float64 | int64 | bool
  deriving DecidableEq

abbrev ColumnsSpec := List (String × ColumnType)

structure ContextRow where
  contextId : Int
  fields : List (String × Value)
  tsWallNs : Int
  tsMonoNs : Int
  deriving DecidableEq

structure ContextColumn where
  name : String
  type : ColumnType
  values : List Cell
  deriving DecidableEq

/-- `/context_table` and what the writer keeps about its columns. `rows` is the dataset `data`, with
the fields in place of the JSON text of them. -/
structure ContextTable where
  rows : List ContextRow
  columnsReady : Bool
  columns : List ContextColumn

def ContextTable.empty : ContextTable := ⟨[],false,[]⟩

/-- `_cached_context_columns_spec` and `_cached_context_columns_no_spec` -/
structure ColumnsCache where
  spec : Option ColumnsSpec
  noSpec : Bool

/-- What `_fetch_context_columns_spec` meets: no answer in time, a spec, or none loaded. -/
inductive ColumnsReply where
  | unavailable
  | spec (spec : ColumnsSpec)
  | noSpec

def ColumnsCache.fetch (c : ColumnsCache) : ColumnsReply → ColumnsCache
  | .unavailable => c
  | .spec spec => ⟨some spec,false⟩
  | .noSpec => ⟨none,true⟩

def sequencerRunIdField : String := "sequencer_run_id"

/-- `_infer_context_columns_from_fields` -/
def inferColumns (fields : List (String × Value)) : ColumnsSpec :=
  fields.filterMap fun f =>
    match f.2 with
    | .bool _ => some (f.1,.bool)
    | .int _ | .float _ => some (f.1,if f.1 = sequencerRunIdField then .int64 else .float64)
    | _ => none

def missingValue : ColumnType → Cell
  | .float64 => .float nan
  | .int64 => .int (-1)
  | .bool => .int 255

variable (py : Py)

/-- `coerce_context_value`, and the value stored; `none` where the dataset refuses it. -/
def coerceContextValue (type : ColumnType) (value : Value) : Option Cell :=
  match type,value with
  | .int64,.bool b => some (.int (if b then 1 else 0))
  | .int64,.int n => if fitsInt64 n then some (.int n) else none
  | .int64,.float bits =>
    match py.intOfFloat bits with
    | some n => if fitsInt64 n then some (.int n) else none
    | none => some (missingValue .int64)
  | .bool,.bool b => some (.int (if b then 1 else 0))
  | .bool,.int n => some (if n = 0 ∨ n = 1 then .int n else missingValue .bool)
  | .float64,.bool b => some (((py.floatOfInt (if b then 1 else 0)).map Cell.float).getD (.float nan))
  | .float64,.int n => some (((py.floatOfInt n).map Cell.float).getD (.float nan))
  | .float64,.float bits => some (.float bits)
  | type,_ => some (missingValue type)

/-- `ds.resize((index + 1,))` and `ds[index] = value` -/
def ContextColumn.put (c : ContextColumn) (index : Nat) (value : Cell) : ContextColumn :=
  { c with values := c.values.take index ++ List.replicate (index-c.values.length) (.int 0) ++ [value] }

def ContextColumn.resize (c : ContextColumn) (n : Nat) : ContextColumn :=
  { c with values := c.values.take n ++ List.replicate (n-c.values.length) (.int 0) }

/-- `_write_context_columns_at`: the columns afterwards, and whether it comes to its end. -/
def writeColumnsAt (index : Nat) (fields : List (String × Value)) :
    List ContextColumn → List ContextColumn × Bool
  | [] => ([],true)
  | c :: rest =>
    match coerceContextValue py c.type (getD fields c.name .none) with
    | none => (c.resize (index+1) :: rest,false)
    | some value =>
      let (done,ok) := writeColumnsAt index fields rest
      (c.put index value :: done,ok)

def backfillColumns : List ContextRow → Nat → List ContextColumn → List ContextColumn × Bool
  | [],_,columns => (columns,true)
  | row :: rest,index,columns =>
    match writeColumnsAt py index row.fields columns with
    | (columns,true) => backfillColumns rest (index+1) columns
    | (columns,false) => (columns,false)

/-- `_init_context_columns_from_spec`, with the rows there are filled in. -/
def initColumns (t : ContextTable) (spec : ColumnsSpec) : ContextTable × Bool :=
  if spec = [] then (t,true)
  else
    let columns := (spec.filter fun s => s.1 ≠ "").map fun s =>
      (⟨s.1,s.2,t.rows.map fun _ => missingValue s.2⟩ : ContextColumn)
    let (columns,ok) := backfillColumns py t.rows 0 columns
    ({ t with columnsReady := true, columns := columns },ok)

def ensureContextColumns (reply : ColumnsReply) (t : ContextTable) (cache : ColumnsCache)
    (fields : List (String × Value)) : ContextTable × ColumnsCache × Bool :=
  if t.columnsReady then (t,cache,true)
  else
    match cache.spec with
    | some spec =>
      let (t,ok) := initColumns py t spec
      (t,cache,ok)
    | none =>
      if cache.noSpec && fields.isEmpty then (t,cache,true)
      else
        let cache := cache.fetch reply
        match cache.spec with
        | some spec =>
          let (t,ok) := initColumns py t spec
          (t,cache,ok)
        | none =>
          if cache.noSpec && !fields.isEmpty then
            let (t,ok) := initColumns py t (inferColumns fields)
            (t,cache,ok)
          else (t,cache,true)

/-- The body of the loop of `_write_context_rows_batch`. -/
def writeContextRow (reply : ColumnsReply) (t : ContextTable) (cache : ColumnsCache)
    (row : ContextRow) : ContextTable × ColumnsCache × Bool :=
  match ensureContextColumns py reply t cache row.fields with
  | (t,cache,false) => (t,cache,false)
  | (t,cache,true) =>
    if fitsInt64 row.contextId ∧ fitsInt64 row.tsWallNs ∧ fitsInt64 row.tsMonoNs then
      let (columns,ok) := writeColumnsAt py t.rows.length row.fields t.columns
      ({ t with rows := t.rows ++ [row], columns := columns },cache,ok)
    else (t,cache,false)

/-- `_write_context_rows_batch` with a file open. -/
def writeContextRows : List (ContextRow × ColumnsReply) → ContextTable → ColumnsCache →
    ContextTable × ColumnsCache × Bool
  | [],t,cache => (t,cache,true)
  | (row,reply) :: rest,t,cache =>
    match writeContextRow py reply t cache row with
    | (t,cache,true) => writeContextRows rest t cache
    | (t,cache,false) => (t,cache,false)

end ExperimentControl.Hdf

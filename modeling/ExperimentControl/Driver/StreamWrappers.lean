import ExperimentControl.Driver.Objects
import ExperimentControl.Lib.OrderedDict
import ExperimentControl.Lib.Checks

/-!
The stream calls of a driver (`_driver/stream_wrappers.py`): what a device method returns, taken apart
into the shots of each output and published to the rings (`_driver/runner.py`), where one call has
several outputs.
-/

namespace ExperimentControl.Driver
open Lib Python

structure NdArray where
  dtype : String
  shape : List Nat
  values : List Nat → Int

namespace NdArray

/-- `value[idx]` -/
def row (a : NdArray) (idx : Nat) : NdArray := ⟨a.dtype,a.shape.tail,fun at_ => a.values (idx :: at_)⟩

def count (a : NdArray) : Nat := a.shape.headD 0

end NdArray

inductive StreamKind where
  | frame | records
  deriving DecidableEq

/-- `StreamOut`, whose frames have a shape. -/
structure StreamOut where
  stream : String
  kind : StreamKind
  dtype : String
  shape : List Nat
  ringSlots : Nat
  shape_ne : kind = .frame → shape ≠ []

structure StreamMeta where
  name : String
  dtype : String

/-- `StreamCall`, with several outputs; the capabilities of a device are refused where two outputs have one
stream. -/
structure StreamCall where
  method : String
  outputs : List StreamOut
  declared : List StreamMeta
  several : 2 ≤ outputs.length
  distinct : (outputs.map StreamOut.stream).Nodup

inductive StreamValue where
  | ndarray (a : NdArray)
  /-- a list or a tuple, with `np.asarray` of each item -/
  | sequence (items : List (Except Exc NdArray))
  /-- anything else, with `np.asarray` of it -/
  | scalar (asarray : Except Exc NdArray)

inductive StreamData where
  | dict (entries : List (String × StreamValue))
  | other

/-- The metadata that a method returns, with `np.asarray` of each value. -/
abbrev StreamMetadata := List (String × Except Exc NdArray)

/-- What the method returns: data, and metadata where it is a `StreamResult`. -/
structure StreamReturn where
  data : StreamData
  metadata : Option StreamMetadata

abbrev MetaRow := List (String × Int)

structure Frame where
  array : NdArray
  metadata : Option MetaRow

abbrev Rings := String → List Frame

def Rings.append (rings : Rings) (stream : String) (frames : List Frame) : Rings :=
  fun s => if s = stream then rings s ++ frames else rings s

def valueError (message : String) : Exc := .plain .valueError message

section
variable (out : StreamOut)

def ensureShotShape (arr : NdArray) : Except Exc NdArray :=
  if arr.dtype ≠ out.dtype then
    .error (valueError ("Stream '" ++ out.stream ++ "' dtype mismatch: got " ++ arr.dtype ++ ", expected " ++
      out.dtype))
  else if arr.shape ≠ out.shape then
    .error (valueError ("Stream '" ++ out.stream ++ "' shot shape mismatch: got " ++ shapeText arr.shape ++
      ", expected " ++ shapeText out.shape))
  else .ok arr

def asSingleShot (asarray : Except Exc NdArray) : Except Exc (List NdArray) := do
  let shot ← ensureShotShape out (← asarray)
  return [shot]

def asBatchShots (value : NdArray) (nBatch : Nat) : Except Exc (List NdArray) :=
  if value.shape ≠ [] ∧ value.count = nBatch ∧ value.shape.tail = out.shape then
    (List.range nBatch).mapM fun idx => ensureShotShape out (value.row idx)
  else
    .error (valueError ("Stream '" ++ out.stream ++ "' batched shape mismatch: got " ++
      shapeText value.shape ++ ", expected (" ++ toString nBatch ++ ", " ++ shapeText out.shape ++ ")"))

def asSequenceShots (items : List (Except Exc NdArray)) (expectedLen : Nat) : Except Exc (List NdArray) :=
  if items.length ≠ expectedLen then
    .error (valueError ("Stream '" ++ out.stream ++ "' list length " ++ toString items.length ++ " != " ++
      toString expectedLen))
  else items.mapM fun item => item >>= ensureShotShape out

/-- `_as_shot_list`, for an output that is no record stream -/
def asShotList (value : StreamValue) (nBatch : Nat) (allowBatch : Bool) : Except Exc (List NdArray) :=
  match value with
  | .ndarray a =>
    if a.shape = out.shape then (ensureShotShape out a).map fun shot => [shot]
    else if allowBatch then asBatchShots out a nBatch
    else .error (valueError ("Stream '" ++ out.stream ++ "' shot shape mismatch: got " ++
      shapeText a.shape ++ ", expected " ++ shapeText out.shape))
  | .sequence items => asSequenceShots out items (if allowBatch then nBatch else 1)
  | .scalar asarray =>
    if nBatch = 1 then asSingleShot out asarray
    else .error (.plain .typeError ("Stream '" ++ out.stream ++
      "' expected ndarray or list/tuple for n_batch=" ++ toString nBatch))

end

def lookup {α : Type} (entries : List (String × α)) (key : String) : Option α :=
  (entries.find? fun e => e.1 = key).map Prod.snd

/-- `_collect_multi_output_shots`: the shots of each output, in the order of the outputs -/
def collectMultiOutputShots (outputs : List StreamOut) (ret : StreamData) (nBatch : Nat)
    (nBatchProvided : Bool) : Except Exc (List (StreamOut × List NdArray)) :=
  if outputs.any fun out => out.kind = .records then
    .error (valueError "Record streams currently require a single output per stream call")
  else match ret with
    | .other => .error (.plain .typeError
        "Stream call with multiple outputs must return dict[str, ndarray|list]")
    | .dict entries => outputs.mapM fun out =>
        match lookup entries out.stream with
        | none => .error (.plain .other ("Missing stream output '" ++ out.stream ++ "' in return dict"))
        | some value => (asShotList out value nBatch nBatchProvided).map fun shots => (out,shots)

def unwrapStreamResult (ret : StreamReturn) (declared : List StreamMeta) :
    Except Exc (StreamData × StreamMetadata) :=
  if declared.isEmpty then
    match ret.metadata with
    | some (_ :: _) =>
      .error (valueError "StreamResult metadata was returned but none is declared")
    | _ => .ok (ret.data,[])
  else match ret.metadata with
    | none => .error (.plain .typeError "Stream call with declared metadata must return StreamResult")
    | some values =>
      if (∀ item ∈ declared, item.name ∈ values.map Prod.fst) ∧
          ∀ name ∈ values.map Prod.fst, name ∈ declared.map StreamMeta.name then
        .ok (ret.data,values)
      else .error (valueError "Stream metadata keys mismatch")

def metadataColumn (values : StreamMetadata) (count : Nat) (item : StreamMeta) :
    Except Exc (String × (Nat → Int)) :=
  match lookup values item.name with
  | none => .error (.plain .other item.name)
  | some (.error exc) => .error exc
  | some (.ok value) =>
    let value := if value.shape = [] ∧ count = 1 then
      ⟨value.dtype,[1],fun at_ => value.values at_.tail⟩ else value
    if value.shape ≠ [count] then
      .error (valueError ("Stream metadata '" ++ item.name ++ "' shape mismatch: got " ++
        shapeText value.shape ++ ", expected (" ++ toString count ++ ",)"))
    else if value.dtype ≠ item.dtype then
      .error (valueError ("Stream metadata '" ++ item.name ++ "' dtype mismatch: got " ++ value.dtype ++
        ", expected " ++ item.dtype))
    else .ok (item.name,fun i => value.values [i])

/-- `_metadata_array`: `none` where nothing is declared, else one row for each frame of the call -/
def metadataArray (declared : List StreamMeta) (values : StreamMetadata) (count : Nat) :
    Except Exc (Option (List MetaRow)) :=
  if declared.isEmpty then .ok none
  else (declared.mapM (metadataColumn values count)).map fun columns =>
    some ((List.range count).map fun i => columns.map fun column => (column.1,column.2 i))

section
variable (stackDtype : String → String)

/-- `np.stack(shots, axis=0)` of shots of one shape and type; numpy may give the type another byte
order. -/
def stack (shots : List NdArray) : Except Exc NdArray :=
  match shots with
  | [] => .error (valueError "need at least one array to stack")
  | first :: _ => .ok ⟨stackDtype first.dtype,shots.length :: first.shape,fun at_ =>
      match at_ with
      | [] => 0
      | i :: rest => match shots[i]? with
        | some shot => shot.values rest
        | none => 0⟩

/-- `ShmRingWriter.write`, called by `publish_stream`. The ring of a stream has metadata exactly where the
stream's call declares it. -/
def publishStream (out : StreamOut) (declared : List StreamMeta) (arr : NdArray) (metadata : Option MetaRow)
    (rings : Rings) : Except Exc Rings :=
  if arr.dtype ≠ out.dtype then
    .error (valueError ("Stream '" ++ out.stream ++ "' dtype mismatch: got " ++ arr.dtype ++ ", expected " ++
      out.dtype))
  else if arr.shape ≠ out.shape then
    .error (valueError ("Stream '" ++ out.stream ++ "' shape mismatch: got " ++ shapeText arr.shape ++
      ", expected " ++ shapeText out.shape))
  else if declared.isEmpty ≠ metadata.isNone then .error (valueError "metadata mismatch")
  else .ok (rings.append out.stream [⟨arr,metadata⟩])

def batchFrames (batch : NdArray) (metadata : Option (List MetaRow)) : List Frame :=
  (List.range batch.count).map fun i => ⟨batch.row i,metadata.bind fun rows => rows[i]?⟩

def publishStreamBatch (out : StreamOut) (declared : List StreamMeta) (batch : NdArray)
    (metadata : Option (List MetaRow)) (rings : Rings) : Except Exc Rings :=
  if batch.dtype ≠ out.dtype then
    .error (valueError ("Stream '" ++ out.stream ++ "' dtype mismatch: got " ++ batch.dtype ++
      ", expected " ++ out.dtype))
  else if batch.shape = [] ∨ batch.shape.tail ≠ out.shape then
    .error (valueError ("Stream '" ++ out.stream ++ "' batch shape mismatch: got " ++
      shapeText batch.shape ++ ", expected (n, " ++ shapeText out.shape ++ ")"))
  else if batch.count < 1 ∨ out.ringSlots < batch.count then
    .error (valueError ("Stream '" ++ out.stream ++ "' batch size must be between 1 and " ++
      toString out.ringSlots))
  else match metadata with
    | none =>
      if declared.isEmpty then .ok (rings.append out.stream (batchFrames batch none))
      else .error (valueError "metadata required by the SHM ring schema")
    | some rows =>
      if declared.isEmpty then
        .error (valueError "metadata provided for a ring without a metadata schema")
      else if rows.length ≠ batch.count then
        .error (valueError "batch metadata must match the ring schema and batch size")
      else .ok (rings.append out.stream (batchFrames batch metadata))

def publishAll {α : Type} (publish : α → Rings → Except Exc Rings) : List α → Rings → Option Exc × Rings
  | [],rings => (none,rings)
  | a :: rest,rings =>
    match publish a rings with
    | .error exc => (some exc,rings)
    | .ok rings => publishAll publish rest rings

/-- What `_publish_multi_output` does for an output, where `n_batch` is given. -/
def publishBatch (declared : List StreamMeta) (metadata : Option (List MetaRow))
    (o : StreamOut × List NdArray) (rings : Rings) : Except Exc Rings := do
  publishStreamBatch o.1 declared (← stack stackDtype o.2) metadata rings

/-- What it does for shot `o.1` of an output, where it is not. -/
def publishShot (declared : List StreamMeta) (metadata : Option (List MetaRow))
    (o : Nat × StreamOut × List NdArray) (rings : Rings) : Except Exc Rings :=
  match o.2.2[o.1]? with
  | none => .error (.plain .other "list index out of range")
  | some shot => publishStream o.2.1 declared shot (metadata.bind fun rows => rows[o.1]?) rings

def publishMultiOutput (declared : List StreamMeta) (values : StreamMetadata)
    (shotLists : List (StreamOut × List NdArray)) (nBatch : Nat) (nBatchProvided : Bool) (rings : Rings) :
    Option Exc × Rings :=
  match metadataArray declared values nBatch with
  | .error exc => (some exc,rings)
  | .ok metadata =>
    if nBatchProvided then publishAll (publishBatch stackDtype declared metadata) shotLists rings
    else
      publishAll (publishShot declared metadata)
        ((List.range nBatch).flatMap fun i => shotLists.map fun o => (i,o)) rings

end

/-- What a call is given: `n_batch`, where its arguments have it, after `int()`, and what the method then
returns or raises. -/
structure StreamTurn where
  nBatch : Option (Except Exc Int)
  method : Option (Except Exc StreamReturn)

def maxBatch (outputs : List StreamOut) : Nat :=
  (outputs.map StreamOut.ringSlots).foldr min ((outputs.head?.map StreamOut.ringSlots).getD 0)

/-- What the wrapper and `_invoke_stream_callable` find out before anything is published. -/
def invokeStream (call : StreamCall) (turn : StreamTurn) : Except Exc (StreamReturn × Nat × Bool) :=
  let notFound : Exc := .plain .other ("Stream method '" ++ call.method ++ "' not found")
  match turn.nBatch with
  | none => match turn.method with
    | none => .error notFound
    | some result => result.map fun ret => (ret,1,false)
  | some (.error exc) => .error exc
  | some (.ok n) =>
    if (maxBatch call.outputs : Int) < n then
      .error (valueError ("n_batch=" ++ toString n ++ " exceeds stream ring capacity " ++
        toString (maxBatch call.outputs)))
    else match turn.method with
      | none => .error notFound
      | some result =>
        if n < 1 then .error (valueError "n_batch must be >= 1")
        else result.map fun ret => (ret,n.toNat,true)

/-- A stream call with several outputs: the wrapper of `build_stream_wrapper` -/
def streamCall (stackDtype : String → String) (call : StreamCall) (turn : StreamTurn) (rings : Rings) :
    Option Exc × Rings :=
  match invokeStream call turn with
  | .error exc => (some exc,rings)
  | .ok (ret,nBatch,nBatchProvided) =>
    match unwrapStreamResult ret call.declared with
    | .error exc => (some exc,rings)
    | .ok (data,values) =>
      match collectMultiOutputShots call.outputs data nBatch nBatchProvided with
      | .error exc => (some exc,rings)
      | .ok shotLists =>
        publishMultiOutput stackDtype call.declared values shotLists nBatch nBatchProvided rings

end ExperimentControl.Driver

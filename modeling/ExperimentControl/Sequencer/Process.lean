import ExperimentControl.Sequencer.Runtime

/-!
`SequencerProcess` (`sequencer/sequencer.py`): the loaded sequence, the requests that
load one or start a run, and how a start that fails puts the sequence before it back.
Events and logs that these requests publish are left out.
-/

namespace ExperimentControl.Sequencer.Process
open Lib Python Ctl Prog

variable {World : Type}

structure ParsedSequence extends SequenceSpec where
  requireHdfWriting : Bool := false

structure SequenceLibraryEntry where
  sequenceId : String
  path : String
  text : String
  spec : ParsedSequence

abbrev SequenceLibrary := OrderedDict String SequenceLibraryEntry

/-- What `_set_loaded_sequence` records of a sequence; all of it is missing until then. -/
structure LoadedSequence where
  spec : ParsedSequence
  text : String
  source : String
  sourceKind : String

structure ProcState (World : Type) where
  runtime : RtState World
  sequenceLibrary : Option SequenceLibrary
  loadedSequence : Option LoadedSequence
  activeSequenceId : Option String
  loadedRevision : Nat
  loadedRunId : Option Nat

def ProcState.new (library : Option SequenceLibrary) (w : World) : ProcState World :=
  ⟨⟨Ctl.new,Data.new w⟩,library,none,none,0,none⟩

structure Services (World : Type) where
  host : Host World
  readText : String → Callback World String
  loadSequenceText : String → String → Callback World (Except String ParsedSequence)
  hdfStatus : Callback World Value
  checkDevicesConnected : ParsedSequence → Env → Callback World (List String)

inductive RpcReply where
  | ok (status : String)
  | err (code : String) (message : Option String)
  deriving DecidableEq

def RpcReply.isError : RpcReply → Bool
  | .ok _ => false
  | .err _ _ => true

def invalidParams : RpcReply := .err "invalid_params" none

abbrev PR (World α : Type) := Prog (ProcState World) PyExc α

def onRuntime {α : Type} (x : RT World α) : PR World α :=
  zoom ProcState.runtime (fun rt p => { p with runtime := rt }) x

def callOut {α : Type} (f : Callback World α) : PR World α := onRuntime (onData (ask f))

def orRaise {α : Type} (r : Except PyExc α) : PR World α := ofFun fun p => (r,p)

/-- What `_set_loaded_sequence` changes once the runtime has taken the sequence. -/
def ProcState.record (seq : LoadedSequence) (active : Option String) (p : ProcState World) :
    ProcState World :=
  { p with
    loadedRevision := p.loadedRevision+1
    loadedSequence := some seq
    loadedRunId := none
    activeSequenceId := active }

def setLoadedSequence (sv : Services World) (seq : LoadedSequence) (active : Option String) :
    PR World Unit := do
  onRuntime (load sv.host seq.spec.toSequenceSpec)
  Prog.modify (ProcState.record seq active)

def SequenceLibraryEntry.sequence (entry : SequenceLibraryEntry) : LoadedSequence :=
  ⟨entry.spec,entry.text,entry.path,"library"⟩

def setLoadedSequenceFromLibraryEntry (sv : Services World) (entry : SequenceLibraryEntry) :
    PR World Unit :=
  setLoadedSequence sv entry.sequence (some entry.sequenceId)

structure Snapshot where
  sequence : LoadedSequence
  activeSequenceId : Option String
  runId : Option Nat

def loadedSequenceSnapshot (p : ProcState World) : Option Snapshot :=
  p.loadedSequence.map fun seq => ⟨seq,p.activeSequenceId,p.loadedRunId⟩

/-- `_restore_loaded_sequence`; a runtime that refuses the sequence is left as it is. -/
def restoreLoadedSequence (sv : Services World) : Option Snapshot → PR World Unit
  | none => pure ()
  | some snapshot => do
    match ← attempt (setLoadedSequence sv snapshot.sequence snapshot.activeSequenceId) with
    | .error _ => pure ()
    | .ok () => Prog.modify fun p => { p with loadedRunId := snapshot.runId }

def readParams (raw : Value) : Option Entries :=
  if !raw.truthy then some []
  else match raw with
    | .dict _ entries => some entries
    | _ => none

def SequenceLibrary.getEntry (py : Primitives) (library : SequenceLibrary) (sequenceId : String) :
    Except PyExc SequenceLibraryEntry :=
  let key := strip sequenceId
  if key = "" then .error ⟨.valueError,"sequence_id must not be empty"⟩
  else match library.get? key with
    | some entry => .ok entry
    | none => .error ⟨.keyError,
        py.repr (.str ("unknown sequence library id " ++ py.repr (.str key)))⟩

/-- `params.adaptive`: a dict, or missing -/
def readAdaptive (params : Entries) : Except PyExc Value :=
  match getD params "adaptive" .none with
  | .none => .ok .none
  | .dict a entries => .ok (.dict a entries)
  | _ => .error ⟨.typeError,"sequencer.start params.adaptive must be a dict"⟩

/-- `str(sequence_id).strip()`, or the empty text -/
def sequenceIdText (py : Primitives) (params : Entries) : String :=
  match getD params "sequence_id" .none with
  | .none => ""
  | v => strip (v.text py.repr)

def askedEntry (py : Primitives) (library : Option SequenceLibrary) (params : Entries) :
    Except PyExc (Option SequenceLibraryEntry) := do
  let _ ← readAdaptive params
  if sequenceIdText py params = "" then pure none
  else match library with
    | none => .error ⟨.runtimeError,
        "sequencer.start sequence_id requires configured sequence library"⟩
    | some library => do
      let entry ← library.getEntry py (sequenceIdText py params)
      pure (some entry)

def readContinuous (params : Entries) : Except PyExc Bool :=
  match getD params "continuous" (.bool false) with
  | .bool b => .ok b
  | .none => .ok false
  | _ => .error ⟨.typeError,"sequencer.start params.continuous must be a bool"⟩

def readOverride (params : Entries) : Except PyExc Value :=
  match getD params "vars_override" .none with
  | .none => .ok .none
  | .dict a entries => .ok (.dict a entries)
  | _ => .error ⟨.typeError,"sequencer.start params.vars_override must be a dict"⟩

/-- The arguments of `runtime.start`, which it reads once the sequence is loaded. -/
def readStartArgs (params : Entries) : Except PyExc StartArgs := do
  let continuous ← readContinuous params
  let varsOverride ← readOverride params
  let adaptive ← readAdaptive params
  pure ⟨adaptive,getD params "repeat_count" .none,continuous,varsOverride⟩

def writingActive : Value → Bool
  | .dict _ resp =>
    match getD resp "result" .none with
    | .dict _ result => (getD result "writing_active" .none).truthy
    | _ => false
  | _ => false

def hdfNotWriting : String := "requires.hdf_writing: hdf_writer is not currently writing"

def devicesNotConnected (missing : List String) : String :=
  "devices not connected: " ++ String.intercalate ", " missing

def failStart (sv : Services World) (reason : String) : PR World (Option String) := do
  onRuntime (Sequencer.fail sv.host reason)
  pure (some reason)

def checkStartPreconditions (sv : Services World) : PR World (Option String) := do
  let p ← Prog.get
  match p.loadedSequence with
  | none => pure none
  | some seq => do
    let writing ←
      if seq.spec.requireHdfWriting then do
        let resp ← callOut sv.hdfStatus
        pure (writingActive resp)
      else pure true
    if !writing then failStart sv hdfNotWriting
    else do
      let p ← Prog.get
      let missing ← callOut (sv.checkDevicesConnected seq.spec p.runtime.ctl.vars)
      if missing.isEmpty then pure none else failStart sv (devicesNotConnected missing)

/-- The part of `_rpc_sequencer_start` whose exceptions it answers. -/
def attemptStart (sv : Services World) (asked : Option SequenceLibraryEntry) (params : Entries) :
    PR World (Option String) := do
  match asked with
  | some entry => setLoadedSequenceFromLibraryEntry sv entry
  | none => pure ()
  let args ← orRaise (readStartArgs params)
  onRuntime (Sequencer.start sv.host args)
  checkStartPreconditions sv

def rpcSequencerStart (sv : Services World) (raw : Value) : PR World RpcReply :=
  match readParams raw with
  | none => pure invalidParams
  | some params => do
    let p ← Prog.get
    match askedEntry sv.host.py p.sequenceLibrary params with
    | .error e => pure (.err "start_failed" (some e.message))
    | .ok asked => do
      let previous := if asked.isSome then loadedSequenceSnapshot p else none
      match ← attempt (attemptStart sv asked params) with
      | .error e => do
        restoreLoadedSequence sv previous
        pure (.err "start_failed" (some e.message))
      | .ok (some reason) => do
        restoreLoadedSequence sv previous
        pure (.err "start_failed" (some reason))
      | .ok none => do
        Prog.modify fun p => { p with loadedRunId := some p.runtime.data.runId }
        pure (.ok "running")

/-- The rest of `_rpc_sequencer_load`, once there is a text. -/
def loadText (sv : Services World) (text source sourceKind : String) : PR World RpcReply := do
  match ← callOut (sv.loadSequenceText text source) with
  | .error message => pure (.err "invalid_sequence" (some message))
  | .ok spec => do
    setLoadedSequence sv ⟨spec,text,source,sourceKind⟩ none
    pure (.ok "loaded")

def rpcSequencerLoad (sv : Services World) (raw : Value) : PR World RpcReply :=
  match readParams raw with
  | none => pure invalidParams
  | some params =>
    let path := getD params "path" .none
    let text := getD params "text" .none
    if path.truthy then do
      let source := path.text sv.host.py.repr
      match ← attempt (callOut (sv.readText source)) with
      | .error e => pure (.err "read_failed" (some e.message))
      | .ok text => loadText sv text source "path"
    else if text.truthy then loadText sv (text.text sv.host.py.repr) "sequence_yaml" "rpc"
    else pure (.err "missing_yaml" none)

/-- `str(params.get("sequence_id", "")).strip()` -/
def libraryIdText (py : Primitives) (params : Entries) : String :=
  strip ((getD params "sequence_id" (.str "")).text py.repr)

def rpcSequencerLibraryLoad (sv : Services World) (raw : Value) : PR World RpcReply :=
  match readParams raw with
  | none => pure invalidParams
  | some params =>
    let sequenceId := libraryIdText sv.host.py params
    if sequenceId = "" then pure (.err "missing_sequence_id" none)
    else do
      let p ← Prog.get
      match p.sequenceLibrary with
      | none => pure (.err "library_not_configured"
          (some "sequencer sequence library is not configured"))
      | some library => do
        match ← attempt (do
          let entry ← orRaise (library.getEntry sv.host.py sequenceId)
          setLoadedSequenceFromLibraryEntry sv entry) with
        | .error e =>
          pure (.err (if e.kind = .keyError then "unknown_sequence_id" else "load_failed")
            (some e.message))
        | .ok () => pure (.ok "loaded")

end ExperimentControl.Sequencer.Process

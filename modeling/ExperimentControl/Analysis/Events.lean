import ExperimentControl.Analysis.Service

/-!
One event of a stream: every workspace that subscribes executes it, and its outputs are published,
traces through a shared-memory ring of their own.
-/

namespace ExperimentControl.Analysis
open Lib

section
variable (K : Kernels)

structure Shot where
  stream : String × String
  seq : Option Int
  context : Context K
  array : K.Array
  telemetry : K.Telemetry
  isLast : Bool

/-- What the surroundings decide while an event is handled. -/
structure Surroundings where
  now : Nat
  createFails : String × String → Nat → Bool
  writeFails : String × String → Bool

/-- How the handling of an event ends; an exception escapes where there is one. -/
structure Handled where
  service : Service K
  executed : List String
  raised : Option String

end

variable {K : Kernels}

def Shot.observation (shot : Shot K) : Observation K :=
  ⟨shot.array,shot.context.contextFields,shot.telemetry⟩

def emitDue (period : Nat) (last : OrderedDict String Nat) (id : String) (now : Nat) : Bool :=
  (last.get? id).all fun prev => prev+period ≤ now

namespace Service

def allowHistOutputs (s : Service K) (c : CompiledWorkspace K) (now : Nat) :
    Bool × Service K :=
  if !c.outputs.any fun out => out.kind = .histAgg || out.kind = .hist2d then (false,s)
  else if s.settings.histOutputPeriod = 0 then (true,s)
  else if emitDue s.settings.histOutputPeriod s.histLastEmit c.workspaceId now then
    (true,{ s with histLastEmit := s.histLastEmit.set c.workspaceId now })
  else (false,s)

def allowTraceOutputs (s : Service K) (c : CompiledWorkspace K) (now : Nat) :
    Bool × Service K :=
  if !c.outputs.any fun out => out.kind = .trace then (false,s)
  else if s.settings.traceOutputPeriod = 0 then (true,s)
  else if emitDue s.settings.traceOutputPeriod s.traceLastEmit c.workspaceId now then
    (true,{ s with traceLastEmit := s.traceLastEmit.set c.workspaceId now })
  else (false,s)

/-- `_remember_latest_output_clean`. -/
def remember (s : Service K) (id : String) (shot : Shot K) (out : Output K) : Service K :=
  { s with latest := s.latest.set (id,out.outputId) ⟨out,shot.stream,shot.seq,shot.context⟩ }

def ensureTraceWriter (s : Service K) (key : String × String) (points : Nat)
    (env : Surroundings) : Service K × Bool :=
  let points := max 1 points
  if s.traceWriters.get? key = some points then (s,true)
  else
    let s := { s with traceWriters := s.traceWriters.erase key }
    if env.createFails key points then (s,false)
    else ({ s with traceWriters := s.traceWriters.set key points },true)

/-- `_publish_output_update`, with whether it returns. -/
def publishOutput (s : Service K) (id : String) (shot : Shot K) (env : Surroundings)
    (out : Output K) : Service K × Bool :=
  match out.kind with
  | .trace =>
    if K.size out.value = 0 then (s,true)
    else
      let key := (id,out.outputId)
      match s.ensureTraceWriter key (K.size out.value) env with
      | (s,false) => (s,false)
      | (s,true) => (if env.writeFails key then s else s.remember id shot out,true)
  | _ => (s.remember id shot out,true)

def publishOutputs (id : String) (shot : Shot K) (env : Surroundings) :
    Service K → List (Output K) → Service K × Bool
  | s,[] => (s,true)
  | s,out :: rest =>
    match s.publishOutput id shot env out with
    | (s,false) => (s,false)
    | (s,true) => s.publishOutputs id shot env rest

def includes (s : Service K) (c : CompiledWorkspace K) (shot : Shot K)
    (env : Surroundings) : Bool × Bool × Service K :=
  let (includeHist,s) := s.allowHistOutputs c env.now
  if shot.isLast then
    let (includeTrace,s) := s.allowTraceOutputs c env.now
    (includeHist,includeTrace,s)
  else (includeHist,false,s)

/-- A workspace executes the event and publishes; a node that fails drops the event. -/
def processWorkspace (s : Service K) (id : String) (w : WorkspaceRuntime K) (shot : Shot K)
    (env : Surroundings) : Service K × Bool :=
  let (includeHist,includeTrace,s) := s.includes w.compiled shot env
  match w.executeEvent shot.observation includeHist includeTrace with
  | (w,.error _) =>
    ({ s with
      workspaces := s.workspaces.set id { w with droppedSamples := w.droppedSamples+1 } },true)
  | (w,.ok outputs) =>
    let s := { s with
      workspaces := s.workspaces.set id { w with processedSamples := w.processedSamples+1 }
      processedUpdates := s.processedUpdates+1 }
    s.publishOutputs id shot env outputs

def processWorkspaces (shot : Shot K) (env : Surroundings) :
    Service K → List String → Handled K
  | s,[] => ⟨s,[],none⟩
  | s,id :: rest =>
    match s.workspaces.get? id with
    | none => s.processWorkspaces shot env rest
    | some w =>
      if w.compiled.enabled then
        match s.processWorkspace id w shot env with
        | (s,false) => ⟨s,[id],some id⟩
        | (s,true) =>
          let handled := s.processWorkspaces shot env rest
          { handled with executed := id :: handled.executed }
      else s.processWorkspaces shot env rest

end Service

end ExperimentControl.Analysis

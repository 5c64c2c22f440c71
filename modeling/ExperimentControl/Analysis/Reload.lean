import ExperimentControl.Analysis.Feed
import ExperimentControl.Analysis.Snapshots

/-!
A reload of the workspace store that is answered with an error: when the running workspaces survive
it.
-/

namespace ExperimentControl.Analysis
open Lib Service OrderedDict

section
variable {K : Kernels}

structure VisibleRuntime (K : Kernels) where
  compiled : CompiledWorkspace K
  rawConfig : Config K
  nodeState : String → Option K.State
  processedSamples : Nat
  droppedSamples : Nat
  revision : Nat
  xAxis : K.Axis

def WorkspaceRuntime.visible (w : WorkspaceRuntime K) : VisibleRuntime K where
  compiled := w.compiled
  rawConfig := w.rawConfig
  nodeState := fun n => (w.nodeState.get? n).map (·.state)
  processedSamples := w.processedSamples
  droppedSamples := w.droppedSamples
  revision := w.revision
  xAxis := w.xAxis

/-- The workspaces with their states and revisions, the stream index and the latest outputs. -/
structure Service.Unchanged (before after : Service K) : Prop where
  workspaces : ∀ id, (after.workspaces.get? id).map (·.visible) =
    (before.workspaces.get? id).map (·.visible)
  streams : ∀ key id, id ∈ (after.streamToWorkspaces.get? key).getD [] ↔
    id ∈ (before.streamToWorkspaces.get? key).getD []
  latest : ∀ key, after.latest.get? key = before.latest.get? key

variable (s : Service K)

theorem Service.Unchanged.refl : s.Unchanged s :=
  ⟨fun _ => rfl,fun _ _ => Iff.rfl,fun _ => rfl⟩

/-- The entries before the first that does not compile, with their graphs. -/
def graphsOf : List (Config K) → List (Config K × CompiledWorkspace K)
  | [] => []
  | config :: rest =>
    match compileWorkspaceGraph config with
    | .error _ => []
    | .ok c => (config,c) :: graphsOf rest

/-- The workspace of an id after these entries, each of which edits what those before it made of `w`. -/
def editedBy (axes : String × String → K.Axis) (id : String) (entries : List (Config K × CompiledWorkspace K))
    (w : Option (WorkspaceRuntime K)) : Option (WorkspaceRuntime K) :=
  (entries.filter fun e => e.2.workspaceId = id).foldl
    (fun w e => some (newRuntime w e.1 e.2 (axes e.2.streamKey))) w

def Unloadable (s : Service K) (file : StoreFile K) : Prop :=
  s.settings.storeConfigured = false ∨
    ∀ payload, file = .loaded payload → ∃ e, parseStorePayload payload = .error e

/-- The workspaces are as if each had just been made from the entries of its id, the index names their
subscribers, and nothing is published. -/
structure Renewed (s : Service K) (axes : String × String → K.Axis)
    (entries : List (Config K × CompiledWorkspace K)) : Prop where
  workspaces : ∀ id, (s.workspaces.get? id).map (·.visible) = (editedBy axes id entries none).map (·.visible)
  streams : ∀ key id, id ∈ (s.streamToWorkspaces.get? key).getD [] ↔ s.Subscribed key id
  latest : ∀ key, s.latest.get? key = none

theorem Service.put_none (config : Config K) (axes : String × String → K.Axis) (markDirty : Bool) :
    s.put config none axes markDirty = match compileWorkspaceGraph config with
      | .error e => .error (.compile e)
      | .ok c => .ok (s.install config c (axes c.streamKey) markDirty) := by
  unfold Service.put
  cases compileWorkspaceGraph config <;> rfl

theorem Service.loadEntries_get? (axes : String × String → K.Axis) (configs : List (Config K)) (id : String) :
    (s.loadEntries axes configs).1.workspaces.get? id =
      editedBy axes id (graphsOf configs) (s.workspaces.get? id) := by
  induction configs generalizing s with
  | nil => rfl
  | cons config rest ih =>
    cases hc : compileWorkspaceGraph config with
    | error e => simp [Service.loadEntries,put_none,hc,graphsOf,editedBy]
    | ok c =>
      simp only [Service.loadEntries,put_none,hc,graphsOf,ih,install_workspaces,get?_set,editedBy,List.filter_cons]
      by_cases hid : c.workspaceId = id
      · simp [hid]
      · simp [hid,Ne.symm hid]

theorem Service.loadEntries_latest {s : Service K} (h : ∀ key, s.latest.get? key = none)
    (axes : String × String → K.Axis) (configs : List (Config K)) (key : String × String) :
    (s.loadEntries axes configs).1.latest.get? key = none := by
  refine loadEntries_invariant (P := fun s : Service K => ∀ key, s.latest.get? key = none) ?_ h key
  intro t config c _ _ ht key
  cases hp : (t.install config c (axes c.streamKey) false).latest.get? key with
  | none => rfl
  | some p =>
    have hold := (install_latest_get? hp).1
    simp [ht] at hold

theorem Service.subscribed_of_visible {s s' : Service K}
    (h : ∀ id, (s'.workspaces.get? id).map (·.visible) = (s.workspaces.get? id).map (·.visible))
    (key : String × String) (id : String) : s.Subscribed key id → s'.Subscribed key id := by
  rintro ⟨w,hw,henabled,hkey⟩
  have hvisible := h id
  rw [hw,Option.map_some,Option.map_eq_some_iff] at hvisible
  obtain ⟨w',hw',hsame⟩ := hvisible
  have hcompiled : w'.compiled = w.compiled := congrArg VisibleRuntime.compiled hsame
  exact ⟨w',hw',hcompiled ▸ henabled,hcompiled ▸ hkey⟩

theorem unchanged_loadEntries_iff (axes : String × String → K.Axis) (configs : List (Config K)) :
    s.Unchanged ((s.clear false).loadEntries axes configs).1 ↔ Renewed s axes (graphsOf configs) := by
  have hget := (s.clear false).loadEntries_get? axes configs
  have hlatest := loadEntries_latest (s := s.clear false) (fun _ => rfl) axes configs
  have hindexed : ((s.clear false).loadEntries axes configs).1.Indexed :=
    Service.Indexed.loadEntries (Service.Indexed.clear false) axes configs
  generalize ((s.clear false).loadEntries axes configs).1 = s' at hget hlatest hindexed
  have hnew (id : String) : s'.workspaces.get? id = editedBy axes id (graphsOf configs) none := hget id
  have hstreams (hsame : ∀ id, (s'.workspaces.get? id).map (·.visible) = (s.workspaces.get? id).map (·.visible))
      (key : String × String) (id : String) :
      id ∈ (s'.streamToWorkspaces.get? key).getD [] ↔ s.Subscribed key id :=
    (hindexed.subscribers key id).trans
      ⟨subscribed_of_visible (fun id => (hsame id).symm) key id,subscribed_of_visible hsame key id⟩
  constructor
  · intro h
    refine ⟨fun id => ?_,fun key id => ?_,fun key => ?_⟩
    · rw [← h.workspaces id,hnew]
    · rw [← h.streams,hstreams h.workspaces]
    · rw [← h.latest,hlatest]
  · intro h
    have hsame (id : String) : (s'.workspaces.get? id).map (·.visible) = (s.workspaces.get? id).map (·.visible) := by
      rw [h.workspaces id,hnew]
    refine ⟨hsame,fun key id => ?_,fun key => ?_⟩
    · rw [hstreams hsame,h.streams]
    · rw [h.latest,hlatest]

/-- A reload that fails leaves the workspaces as they were exactly where it fails before it clears them, or
they were as if just made from the entries before the one that fails. -/
theorem reload_unchanged_iff (s s' : Service K) (file : StoreFile K)
    (axes : String × String → K.Axis) (e : ServiceError) (h : s.reload file axes = (s',.error e)) :
    s.Unchanged s' ↔ Unloadable s file ∨ ∃ payload configs, file = .loaded payload ∧
      parseStorePayload payload = .ok configs ∧ Renewed s axes (graphsOf configs) := by
  unfold Service.reload at h
  cases hconfigured : s.settings.storeConfigured with
  | false =>
    simp [hconfigured] at h
    rw [← h.1]
    exact ⟨fun _ => .inl (.inl hconfigured),fun _ => .refl s⟩
  | true =>
    simp only [hconfigured,Bool.not_true,Bool.false_eq_true,if_false] at h
    cases file with
    | missing =>
      cases h
      exact ⟨fun _ => .inl (.inr (by simp)),fun _ => .refl s⟩
    | unreadable =>
      cases h
      exact ⟨fun _ => .inl (.inr (by simp)),fun _ => .refl s⟩
    | loaded payload =>
      cases hparse : parseStorePayload payload with
      | error e' =>
        simp only [hparse] at h
        cases h
        refine ⟨fun _ => .inl (.inr ?_),fun _ => .refl s⟩
        intro parsed hparsed
        cases hparsed
        exact ⟨_,hparse⟩
      | ok configs =>
        simp only [hparse] at h
        have hs' : s' = ((s.clear false).loadEntries axes configs).1 := by
          generalize (s.clear false).loadEntries axes configs = result at h
          obtain ⟨loaded,result⟩ := result
          cases result with
          | ok _ => cases h
          | error _ =>
            cases h
            rfl
        rw [hs',unchanged_loadEntries_iff]
        constructor
        · intro hrenewed
          exact .inr ⟨payload,configs,rfl,hparse,hrenewed⟩
        · rintro ((hnot | hfails) | ⟨parsed,configs',hparsed,hparse',hrenewed⟩)
          · simp [hconfigured] at hnot
          · obtain ⟨e',he'⟩ := hfails payload rfl
            simp [hparse] at he'
          · cases hparsed
            rw [hparse] at hparse'
            cases hparse'
            exact hrenewed

end

def emptyConfig : Config integers := ⟨"v",true,some [],some []⟩

def running : Service integers :=
  match (Service.initial integers noThrottle).put (sourceConfig true) none (fun _ => ()) true with
  | .ok s => s
  | .error _ => Service.initial integers noThrottle

theorem reload_unchanged_iff_other : running.Unchanged running ↔
      Unloadable running (.loaded .otherObject) ∨ ∃ payload configs, .loaded .otherObject = StoreFile.loaded payload ∧
        parseStorePayload payload = .ok configs ∧ Renewed running (fun _ => ()) (graphsOf configs) :=
  reload_unchanged_iff running running (.loaded .otherObject) (fun _ => ()) .storePayload rfl

theorem reload_changes :
    ¬ ∀ s' e, running.reload (.loaded (.list [some emptyConfig])) (fun _ => ()) = (s',.error e) →
      running.Unchanged s' := by
  intro hall
  have hsame := hall _ _ rfl
  have hw := hsame.workspaces "w"
  cases hw

end ExperimentControl.Analysis

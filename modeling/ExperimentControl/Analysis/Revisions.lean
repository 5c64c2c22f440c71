import ExperimentControl.Analysis.Service
import ExperimentControl.Lib.Runs

/-!
Editors of workspaces: clients read a workspace with its revision, and put or delete it later with
the revision that they read, among clears, reloads and unconditional edits.
-/

namespace ExperimentControl.Analysis
open Lib OrderedDict List Service

section
variable {K : Kernels}

structure Version (K : Kernels) where
  workspaceId : String
  revision : Nat
  config : Config K

structure Editing (K : Kernels) where
  service : Service K
  installed : List (Version K)
  reads : List (Version K)

inductive Edit (K : Kernels) where
  | read (id : String)
  | put (config : Config K) (expected : Option Int) (axes : String × String → K.Axis)
  | delete (id : String) (expected : Option Int)
  | clear
  | reload (file : StoreFile K) (axes : String × String → K.Axis)

def WorkspaceRuntime.version (id : String) (w : WorkspaceRuntime K) : Version K :=
  ⟨id,w.revision,w.rawConfig⟩

def Service.versions (s : Service K) : List (Version K) :=
  s.workspaces.entries.map fun e => e.2.version e.1

/-- The service after an edit; a refused one leaves it as it is. -/
def Service.edit (s : Service K) : Edit K → Service K
  | .read _ => s
  | .put config expected axes =>
    match s.put config expected axes true with
    | .ok s => s
    | .error _ => s
  | .delete id expected =>
    match s.delete id expected with
    | .ok s => s
    | .error _ => s
  | .clear => s.clear true
  | .reload file axes => (s.reload file axes).1

/-- The version that `stream_analysis.workspace.get` answers with. -/
def Service.read (s : Service K) : Edit K → Option (Version K)
  | .read id => (s.workspaces.get? id).map fun w => w.version id
  | _ => none

def Editing.step (e : Editing K) (edit : Edit K) : Editing K where
  service := e.service.edit edit
  installed := e.installed ++ (e.service.edit edit).versions
  reads := e.reads ++ (e.service.read edit).toList

def Editing.initial (K : Kernels) (settings : Settings) : Editing K := ⟨.initial K settings,[],[]⟩

def Editing.Unambiguous (e : Editing K) : Prop :=
  ∀ v ∈ e.installed, ∀ v' ∈ e.installed,
    v.workspaceId = v'.workspaceId → v.revision = v'.revision → v.config = v'.config

/-- A put or delete on the revision of a read is only accepted where it replaces what was read. -/
def Editing.NoLostUpdate (e : Editing K) : Prop :=
  ∀ v ∈ e.reads, ∀ id, id = v.workspaceId →
    (∀ config axes s c, compileWorkspaceGraph config = .ok c → c.workspaceId = id →
      e.service.put config (some v.revision) axes true = .ok s →
      ∃ w, e.service.workspaces.get? id = some w ∧ w.rawConfig = v.config) ∧
    ∀ s, e.service.delete id (some v.revision) = .ok s →
      ∃ w, e.service.workspaces.get? id = some w ∧ w.rawConfig = v.config

/-- A graph is installed under an id that was used before only where it replaces the workspace. -/
def Editing.Continues (e : Editing K) : Edit K → Prop
  | .put config expected _ => ∀ c, compileWorkspaceGraph config = .ok c →
      checkExpectedRevision (e.service.workspaces.get? c.workspaceId) expected = .ok () →
      e.service.workspaces.contains c.workspaceId = true ∨
        c.workspaceId ∉ e.installed.map (·.workspaceId)
  | .reload (.loaded payload) _ => ∀ configs, parseStorePayload payload = .ok configs →
      ∀ config ∈ configs, ∀ c, compileWorkspaceGraph config = .ok c →
        c.workspaceId ∉ e.installed.map (·.workspaceId)
  | _ => True

structure Editing.Sound (e : Editing K) : Prop where
  unambiguous : e.Unambiguous
  current : ∀ id w, e.service.workspaces.get? id = some w → 0 < w.revision ∧
    ∀ v ∈ e.installed, v.workspaceId = id →
      v.revision ≤ w.revision ∧ (v.revision = w.revision → v.config = w.rawConfig)
  reads : ∀ v ∈ e.reads, v ∈ e.installed ∧ 0 < v.revision

def Follows (used : List String) (before after : Service K) : Prop :=
  ∀ id w', after.workspaces.get? id = some w' → 0 < w'.revision ∧
    ((∃ w, before.workspaces.get? id = some w ∧
      (w'.revision = w.revision ∧ w'.rawConfig = w.rawConfig ∨ w'.revision = w.revision+1)) ∨
    id ∉ used)

variable (s : Service K)

theorem foldl_clearSnapshotOutputs_workspaces (id : String) (ids : List String) :
    (ids.foldl (fun s nodeId => s.clearSnapshotOutputs id (some nodeId)) s).workspaces =
      s.workspaces := by
  induction ids generalizing s with
  | nil => rfl
  | cons first rest ih => exact ih _

theorem Service.install_workspaces (config : Config K) (c : CompiledWorkspace K)
    (axis : K.Axis) (markDirty : Bool) : (s.install config c axis markDirty).workspaces =
      s.workspaces.set c.workspaceId
        (newRuntime (s.workspaces.get? c.workspaceId) config c axis) := by
  simp [Service.install,Service.reconcileTraceWriters,Service.rebuildStreamIndex,foldl_clearSnapshotOutputs_workspaces,Service.pruneSnapshotOutputs]

theorem newRuntime_revision (existing : Option (WorkspaceRuntime K)) (config : Config K)
    (c : CompiledWorkspace K) (axis : K.Axis) :
    (newRuntime existing config c axis).revision = (existing.map (·.revision+1)).getD 1 := rfl

theorem Service.put_ok {s s' : Service K} {config : Config K} {expected : Option Int}
    {axes : String × String → K.Axis} {markDirty : Bool}
    (h : s.put config expected axes markDirty = .ok s') :
    ∃ c, compileWorkspaceGraph config = .ok c ∧
      checkExpectedRevision (s.workspaces.get? c.workspaceId) expected = .ok () ∧
      s' = s.install config c (axes c.streamKey) markDirty := by
  unfold Service.put at h
  cases hc : compileWorkspaceGraph config with
  | error e => simp [hc] at h
  | ok c =>
    cases hexpected : checkExpectedRevision (s.workspaces.get? c.workspaceId) expected with
    | error e => simp [hc,hexpected] at h
    | ok _ =>
      simp only [hc,hexpected,Except.ok.injEq] at h
      exact ⟨c,rfl,hexpected,h.symm⟩

variable {s : Service K}

theorem Service.loadEntries_invariant {P : Service K → Prop} {axes : String × String → K.Axis}
    {configs : List (Config K)}
    (hinstall : ∀ s config c, config ∈ configs → compileWorkspaceGraph config = .ok c → P s →
      P (s.install config c (axes c.streamKey) false)) (h : P s) :
    P (s.loadEntries axes configs).1 := by
  induction configs generalizing s with
  | nil => exact h
  | cons config rest ih =>
    unfold Service.loadEntries
    cases hput : s.put config none axes false with
    | error e => exact h
    | ok s' =>
      obtain ⟨c,hc,_,rfl⟩ := put_ok hput
      apply ih
      · exact fun t other d hmem => hinstall t other d (mem_cons_of_mem config hmem)
      · exact hinstall s config c (by simp) hc h

theorem Service.delete_ok {s s' : Service K} {id : String} {expected : Option Int}
    (h : s.delete id expected = .ok s') :
    (∀ revision ∈ expected, ∃ w, s.workspaces.get? id = some w ∧ revision = w.revision) ∧
      s'.workspaces = s.workspaces.erase id := by
  unfold Service.delete at h
  cases expected with
  | none =>
    cases h
    exact ⟨by simp,rfl⟩
  | some revision =>
    simp only at h
    split at h
    · rename_i hcurrent
      cases h
      refine ⟨?_,rfl⟩
      intro r hr
      cases hr
      cases hw : s.workspaces.get? id with
      | none => simp [hw] at hcurrent
      | some w => exact ⟨w,rfl,by simpa [hw] using hcurrent⟩
    · cases h

theorem Service.reload_cases (file : StoreFile K) (axes : String × String → K.Axis) :
    (s.reload file axes).1 = s ∨ ∃ payload configs dirty, file = .loaded payload ∧
      parseStorePayload payload = .ok configs ∧ (s.reload file axes).1 =
        { ((s.clear false).loadEntries axes configs).1 with storeDirty := dirty } := by
  unfold Service.reload
  split
  · exact .inl rfl
  · cases file with
    | missing => exact .inl rfl
    | unreadable => exact .inl rfl
    | loaded payload =>
      cases hparse : parseStorePayload payload with
      | error e => simp [hparse]
      | ok configs =>
        simp only [hparse]
        refine .inr ⟨payload,configs,?_⟩
        generalize (s.clear false).loadEntries axes configs = result
        obtain ⟨loaded,result⟩ := result
        cases result with
        | ok _ => exact ⟨false,rfl,hparse,rfl⟩
        | error _ => exact ⟨loaded.storeDirty,rfl,hparse,rfl⟩

def Unused (used : List String) (s : Service K) : Prop :=
  ∀ id w, s.workspaces.get? id = some w → 0 < w.revision ∧ id ∉ used

variable {used : List String}

theorem Unused.install (h : Unused used s)
    {config : Config K} {c : CompiledWorkspace K} (axis : K.Axis) (markDirty : Bool)
    (hid : c.workspaceId ∉ used) : Unused used (s.install config c axis markDirty) := by
  intro id w hw
  rw [install_workspaces,get?_set] at hw
  split at hw
  · rename_i hsame
    cases hw
    refine ⟨?_,hsame ▸ hid⟩
    rw [newRuntime_revision]
    cases s.workspaces.get? c.workspaceId <;> simp
  · exact h id w hw

theorem Unused.loadEntries {configs : List (Config K)}
    (h : Unused used s) (axes : String × String → K.Axis)
    (hids : ∀ config ∈ configs, ∀ c, compileWorkspaceGraph config = .ok c → c.workspaceId ∉ used) :
    Unused used (s.loadEntries axes configs).1 := by
  refine loadEntries_invariant (P := Unused used) ?_ h
  intro s config c hmem hc hs
  exact hs.install (axes c.streamKey) false (hids config hmem c hc)

theorem Unused.follows {before after : Service K} (h : Unused used after) :
    Follows used before after := by
  intro id w hw
  exact ⟨(h id w hw).1,.inr (h id w hw).2⟩

theorem Follows.rfl'
    (hpos : ∀ id w, s.workspaces.get? id = some w → 0 < w.revision) : Follows used s s := by
  intro id w hw
  exact ⟨hpos id w hw,.inl ⟨w,hw,.inl ⟨rfl,rfl⟩⟩⟩

variable {e : Editing K}

theorem Editing.Sound.follows (h : e.Sound) {edit : Edit K} (hcontinues : e.Continues edit) :
    Follows (e.installed.map (·.workspaceId)) e.service (e.service.edit edit) := by
  have hpos : ∀ id w, e.service.workspaces.get? id = some w → 0 < w.revision :=
    fun id w hw => (h.current id w hw).1
  cases edit with
  | read id => exact .rfl' hpos
  | put config expected axes =>
    simp only [Service.edit]
    cases hput : e.service.put config expected axes true with
    | error _ => exact .rfl' hpos
    | ok s =>
      obtain ⟨c,hc,hexpected,rfl⟩ := put_ok hput
      intro id w hw
      simp only at hw
      rw [install_workspaces,get?_set] at hw
      split at hw
      · rename_i hsame
        cases hw
        rw [newRuntime_revision]
        cases hold : e.service.workspaces.get? c.workspaceId with
        | none =>
          have hnot := (hcontinues c hc hexpected).resolve_left (by simp [OrderedDict.contains,hold])
          exact ⟨by simp,.inr (hsame ▸ hnot)⟩
        | some old => exact ⟨by simp,.inl ⟨old,hsame ▸ hold,.inr (by simp)⟩⟩
      · exact ⟨hpos id w hw,.inl ⟨w,hw,.inl ⟨rfl,rfl⟩⟩⟩
  | delete id expected =>
    simp only [Service.edit]
    cases hdelete : e.service.delete id expected with
    | error _ => exact .rfl' hpos
    | ok s =>
      intro other w hw
      simp only at hw
      rw [(delete_ok hdelete).2,get?_erase_eq] at hw
      split at hw
      · cases hw
      · exact ⟨hpos other w hw,.inl ⟨w,hw,.inl ⟨rfl,rfl⟩⟩⟩
  | clear =>
    apply Unused.follows
    intro id w hw
    cases hw
  | reload file axes =>
    have hcleared : Unused (e.installed.map (·.workspaceId)) (e.service.clear false) := by
      intro id w hw
      cases hw
    simp only [Service.edit]
    cases e.service.reload_cases file axes with
    | inl hsame =>
      rw [hsame]
      exact .rfl' hpos
    | inr hloaded =>
      obtain ⟨payload,configs,dirty,rfl,hparse,heq⟩ := hloaded
      rw [heq]
      have hunused := hcleared.loadEntries axes (hcontinues configs hparse)
      apply Unused.follows
      intro id w hw
      exact hunused id w hw

theorem mem_versions {v : Version K} (h : v ∈ s.versions) :
    ∃ w, s.workspaces.get? v.workspaceId = some w ∧ v = w.version v.workspaceId := by
  obtain ⟨entry,hentry,rfl⟩ := mem_map.1 h
  exact ⟨entry.2,(get?_eq_some_iff _ _ _).2 hentry,rfl⟩

theorem Editing.Sound.newer (h : e.Sound) {after : Service K}
    (hfollows : Follows (e.installed.map (·.workspaceId)) e.service after) {id : String}
    {w' : WorkspaceRuntime K} (hw' : after.workspaces.get? id = some w') {v : Version K}
    (hv : v ∈ e.installed) (hid : v.workspaceId = id) :
    v.revision ≤ w'.revision ∧ (v.revision = w'.revision → v.config = w'.rawConfig) := by
  obtain ⟨_,hcase⟩ := hfollows id w' hw'
  cases hcase with
  | inl hbefore =>
    obtain ⟨w,hw,hstep⟩ := hbefore
    obtain ⟨hle,heq⟩ := (h.current id w hw).2 v hv hid
    cases hstep with
    | inl hsame =>
      rw [hsame.1,hsame.2]
      exact ⟨hle,heq⟩
    | inr hgrown =>
      refine ⟨by omega,?_⟩
      intro hrevision
      omega
  | inr hunused => exact absurd (mem_map.2 ⟨v,hv,hid⟩) hunused

theorem Editing.Sound.step (h : e.Sound) {edit : Edit K}
    (hcontinues : e.Continues edit) : (e.step edit).Sound := by
  have hfollows := h.follows hcontinues
  have hsame : ∀ id w', (e.service.edit edit).workspaces.get? id = some w' →
      ∀ v ∈ (e.service.edit edit).versions, v.workspaceId = id →
        v.revision = w'.revision ∧ v.config = w'.rawConfig := by
    intro id w' hw' v hv hid
    obtain ⟨w,hw,heq⟩ := mem_versions hv
    rw [hid,hw'] at hw
    cases hw
    rw [heq]
    exact ⟨rfl,rfl⟩
  constructor
  · intro v hv v' hv' hid hrevision
    cases mem_append.1 hv with
    | inl hold =>
      cases mem_append.1 hv' with
      | inl hold' => exact h.unambiguous v hold v' hold' hid hrevision
      | inr hnew' =>
        obtain ⟨w,hw,heq⟩ := mem_versions hnew'
        have hnewer := (h.newer hfollows hw hold hid).2
        rw [heq] at hrevision ⊢
        exact hnewer hrevision
    | inr hnew =>
      obtain ⟨w,hw,heq⟩ := mem_versions hnew
      cases mem_append.1 hv' with
      | inl hold' =>
        have hnewer := (h.newer hfollows hw hold' hid.symm).2
        rw [heq] at hrevision ⊢
        exact (hnewer hrevision.symm).symm
      | inr hnew' =>
        have hother := (hsame v.workspaceId w hw v' hnew' hid.symm).2
        rw [hother,heq]
        rfl
  · intro id w' hw'
    refine ⟨(hfollows id w' hw').1,?_⟩
    intro v hv hid
    cases mem_append.1 hv with
    | inl hold => exact h.newer hfollows hw' hold hid
    | inr hnew =>
      obtain ⟨hrevision,hconfig⟩ := hsame id w' hw' v hnew hid
      exact ⟨by omega,fun _ => hconfig⟩
  · intro v hv
    cases mem_append.1 hv with
    | inl hold => exact ⟨mem_append.2 (.inl (h.reads v hold).1),(h.reads v hold).2⟩
    | inr hnew =>
      cases edit with
      | read id =>
        simp only [Service.read,Option.mem_toList,Option.map_eq_some_iff] at hnew
        obtain ⟨w,hw,rfl⟩ := hnew
        refine ⟨?_,(h.current id w hw).1⟩
        refine mem_append.2 (.inr (mem_map.2 ⟨(id,w),?_,rfl⟩))
        exact (get?_eq_some_iff _ _ _).1 hw
      | _ => simp [Service.read] at hnew

theorem Editing.Sound.noLostUpdate (h : e.Sound) : e.NoLostUpdate := by
  intro v hv id hid
  obtain ⟨hinstalled,hpos⟩ := h.reads v hv
  constructor
  · intro config axes s c hc hcid hput
    obtain ⟨c',hc',hexpected,_⟩ := put_ok hput
    have hsame : c = c' := Except.ok.inj (hc.symm.trans hc')
    subst hsame
    rw [hcid] at hexpected
    cases hw : e.service.workspaces.get? id with
    | none =>
      simp [checkExpectedRevision,hw] at hexpected
      omega
    | some w =>
      refine ⟨w,rfl,?_⟩
      simp only [checkExpectedRevision,hw] at hexpected
      split at hexpected
      · exact (((h.current id w hw).2 v hinstalled hid.symm).2 (by omega)).symm
      · cases hexpected
  · intro s hdelete
    obtain ⟨w,hw,hrevision⟩ := (delete_ok hdelete).1 v.revision rfl
    exact ⟨w,hw,(((h.current id w hw).2 v hinstalled hid.symm).2 (by omega)).symm⟩

theorem Editing.initial_sound (settings : Settings) : (Editing.initial K settings).Sound := by
  constructor
  · simp [Editing.Unambiguous,Editing.initial]
  · intro id w hw
    cases hw
  · simp [Editing.initial]

/-- In every run in which no id is used again after its workspace was given up, an id and a
revision denote one configuration, and no update is lost. -/
theorem noLostUpdate_of_continues (settings : Settings) (edits : List (Edit K))
    (hcontinues : Meets Editing.step Editing.Continues (Editing.initial K settings) edits) :
    (run Editing.step (Editing.initial K settings) edits).Unambiguous ∧
      (run Editing.step (Editing.initial K settings) edits).NoLostUpdate := by
  have hsound := hcontinues.invariant (P := Editing.Sound) (fun e edit h hok => h.step hok)
    (Editing.initial_sound settings)
  exact ⟨hsound.unambiguous,hsound.noLostUpdate⟩

end

def sourceConfig (enabled : Bool) : Config integers :=
  ⟨"w",enabled,some [integerNode "src" "source.stream" ⟨1,1⟩ []],some [traceOutput "o" "src"]⟩

def noThrottle : Settings := ⟨0,0,8192,true⟩

theorem noLostUpdate_of_continues_twice : (run Editing.step (Editing.initial integers noThrottle)
      [.put (sourceConfig true) none (fun _ => ()),.read "w",
        .put (sourceConfig false) (some 1) (fun _ => ())]).Unambiguous ∧
    (run Editing.step (Editing.initial integers noThrottle)
      [.put (sourceConfig true) none (fun _ => ()),.read "w",
        .put (sourceConfig false) (some 1) (fun _ => ())]).NoLostUpdate := by
  apply noLostUpdate_of_continues
  refine ⟨?_,trivial,?_,trivial⟩
  · intro c _ _
    exact .inr (by simp [Editing.initial])
  · intro c hc _
    cases hc
    exact .inl rfl

theorem update_lost_after_delete : ¬ (run Editing.step (Editing.initial integers noThrottle)
      [.put (sourceConfig true) none (fun _ => ()),.read "w",.delete "w" none,
        .put (sourceConfig false) none (fun _ => ())]).NoLostUpdate := by
  intro hno
  obtain ⟨hput,_⟩ := hno ⟨"w",1,sourceConfig true⟩ (by exact mem_singleton.2 rfl) "w" rfl
  obtain ⟨w,hw,hconfig⟩ := hput (sourceConfig true) (fun _ => ()) _ _ rfl rfl rfl
  cases hw
  have henabled := congrArg Config.enabled hconfig
  cases henabled

end ExperimentControl.Analysis

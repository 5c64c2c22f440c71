import ExperimentControl.Analysis.Chunks

/-!
The process from message to message: edits, resets and chunk messages in any order, and the
workspaces that the messages of a stream reach.
-/

namespace ExperimentControl.Analysis
open Lib OrderedDict List Service

section
variable {K : Kernels}

def Service.Subscribed (s : Service K) (key : String × String) (id : String) : Prop :=
  ∃ w, s.workspaces.get? id = some w ∧ w.compiled.enabled = true ∧ w.compiled.streamKey = key

instance (s : Service K) (key : String × String) (id : String) : Decidable (s.Subscribed key id) :=
  match h : s.workspaces.get? id with
  | none => isFalse (by simp [Service.Subscribed,h])
  | some w => decidable_of_iff (w.compiled.enabled = true ∧ w.compiled.streamKey = key)
      (by simp [Service.Subscribed,h])

/-- The graphs are compiled ones, and the stream index names the subscribers of each stream once. -/
structure Service.Indexed (s : Service K) : Prop where
  wellFormed : ∀ id w, s.workspaces.get? id = some w → w.compiled.WellFormed
  named : ∀ id w, s.workspaces.get? id = some w → w.compiled.workspaceId = id
  subscribers : ∀ key id, id ∈ (s.streamToWorkspaces.get? key).getD [] ↔ s.Subscribed key id
  nodup : ∀ key, ((s.streamToWorkspaces.get? key).getD []).Nodup

/-- What `_rebuild_stream_index` does with one workspace. -/
def subscribe (index : OrderedDict (String × String) (List String)) (w : WorkspaceRuntime K) :
    OrderedDict (String × String) (List String) :=
  if w.compiled.enabled then
    let ids := (index.get? w.compiled.streamKey).getD []
    index.set w.compiled.streamKey
      (if ids.contains w.compiled.workspaceId then ids else ids ++ [w.compiled.workspaceId])
  else index

variable (workspaces : OrderedDict String (WorkspaceRuntime K))

theorem streamIndex_eq : streamIndex workspaces =
      workspaces.entries.foldl (fun index e => subscribe index e.2) .empty := rfl

theorem mem_subscribe (index : OrderedDict (String × String) (List String))
    (w : WorkspaceRuntime K) (key : String × String) (id : String) :
    id ∈ ((subscribe index w).get? key).getD [] ↔ id ∈ (index.get? key).getD [] ∨
      w.compiled.enabled = true ∧ w.compiled.streamKey = key ∧ w.compiled.workspaceId = id := by
  unfold subscribe
  by_cases henabled : w.compiled.enabled = true
  · simp only [henabled,if_true,get?_set]
    by_cases hkey : key = w.compiled.streamKey
    · subst hkey
      simp only [if_true,Option.getD_some]
      split
      · rename_i hmem
        simp only [contains_iff_mem] at hmem
        constructor
        · exact .inl
        · intro h
          cases h with
          | inl hold => exact hold
          | inr hnew => exact hnew.2.2 ▸ hmem
      · simp [eq_comm]
    · have hother : ¬ w.compiled.streamKey = key := fun h => hkey h.symm
      simp [hkey,hother]
  · simp [henabled]

theorem subscribe_nodup {index : OrderedDict (String × String) (List String)}
    (h : ∀ key, ((index.get? key).getD []).Nodup) (w : WorkspaceRuntime K)
    (key : String × String) : (((subscribe index w).get? key).getD []).Nodup := by
  unfold subscribe
  split
  · simp only [get?_set]
    split
    · simp only [Option.getD_some]
      split
      · exact h _
      · rename_i hfresh
        rw [nodup_append]
        refine ⟨h _,by simp,?_⟩
        intro a ha b hb heq
        simp only [mem_singleton] at hb
        simp only [contains_iff_mem] at hfresh
        exact hfresh (hb ▸ heq ▸ ha)
    · exact h key
  · exact h key

theorem mem_streamIndex (key : String × String) (id : String) :
    id ∈ ((streamIndex workspaces).get? key).getD [] ↔ ∃ e ∈ workspaces.entries,
      e.2.compiled.enabled = true ∧ e.2.compiled.streamKey = key ∧
        e.2.compiled.workspaceId = id := by
  have hfold : ∀ (entries : List (String × WorkspaceRuntime K)) index,
      id ∈ ((entries.foldl (fun index e => subscribe index e.2) index).get? key).getD [] ↔
        id ∈ (index.get? key).getD [] ∨ ∃ e ∈ entries, e.2.compiled.enabled = true ∧
          e.2.compiled.streamKey = key ∧ e.2.compiled.workspaceId = id := by
    intro entries
    induction entries with
    | nil => simp
    | cons e rest ih =>
      intro index
      simp [ih,mem_subscribe,or_assoc]
  rw [streamIndex_eq,hfold]
  simp

theorem streamIndex_nodup
    (key : String × String) : (((streamIndex workspaces).get? key).getD []).Nodup := by
  have hfold : ∀ (entries : List (String × WorkspaceRuntime K)) index,
      (∀ key, ((index.get? key).getD [] : List String).Nodup) →
      (((entries.foldl (fun index e => subscribe index e.2) index).get? key).getD []).Nodup := by
    intro entries
    induction entries with
    | nil =>
      intro index h
      exact h key
    | cons e rest ih =>
      intro index h
      exact ih _ (subscribe_nodup h e.2)
  exact hfold workspaces.entries .empty (by simp)

theorem Service.Indexed.of_streamIndex {s : Service K}
    (hwellFormed : ∀ id w, s.workspaces.get? id = some w → w.compiled.WellFormed)
    (hnamed : ∀ id w, s.workspaces.get? id = some w → w.compiled.workspaceId = id)
    (hindex : s.streamToWorkspaces = streamIndex s.workspaces) : s.Indexed where
  wellFormed := hwellFormed
  named := hnamed
  subscribers key id := by
    rw [hindex,mem_streamIndex]
    constructor
    · intro h
      obtain ⟨e,he,henabled,hkey,hid⟩ := h
      have hw : s.workspaces.get? e.1 = some e.2 := (get?_eq_some_iff _ _ _).2 he
      rw [hnamed e.1 e.2 hw] at hid
      exact ⟨e.2,hid ▸ hw,henabled,hkey⟩
    · intro h
      obtain ⟨w,hw,henabled,hkey⟩ := h
      exact ⟨(id,w),(get?_eq_some_iff _ _ _).1 hw,henabled,hkey,hnamed id w hw⟩
  nodup key := hindex ▸ streamIndex_nodup s.workspaces key

/-- The second service has the graphs, the stream index and the settings of the first. -/
structure Service.SameGraphs (s s' : Service K) : Prop where
  settings : s'.settings = s.settings
  streamToWorkspaces : s'.streamToWorkspaces = s.streamToWorkspaces
  compiled : ∀ id, (s'.workspaces.get? id).map (·.compiled) = (s.workspaces.get? id).map (·.compiled)

variable (s : Service K)

theorem Service.SameGraphs.refl : s.SameGraphs s := ⟨rfl,rfl,fun _ => rfl⟩

theorem Service.SameGraphs.trans {s t u : Service K} (h : s.SameGraphs t) (h' : t.SameGraphs u) :
    s.SameGraphs u :=
  ⟨h'.settings.trans h.settings,h'.streamToWorkspaces.trans h.streamToWorkspaces,
    fun id => (h'.compiled id).trans (h.compiled id)⟩

variable {id : String}

theorem Service.SameGraphs.get? {s s' : Service K} (h : s.SameGraphs s')
    {w' : WorkspaceRuntime K} (hw : s'.workspaces.get? id = some w') :
    ∃ w, s.workspaces.get? id = some w ∧ w'.compiled = w.compiled := by
  have hsame := h.compiled id
  rw [hw,Option.map_some] at hsame
  obtain ⟨w,hw,heq⟩ := Option.map_eq_some_iff.1 hsame.symm
  exact ⟨w,hw,heq.symm⟩

theorem Service.SameGraphs.symm {s s' : Service K} (h : s.SameGraphs s') : s'.SameGraphs s :=
  ⟨h.settings.symm,h.streamToWorkspaces.symm,fun id => (h.compiled id).symm⟩

theorem Service.SameGraphs.subscribed {s s' : Service K} (h : s.SameGraphs s')
    (key : String × String) (id : String) : s'.Subscribed key id ↔ s.Subscribed key id := by
  have hto : ∀ {t u : Service K}, t.SameGraphs u → u.Subscribed key id → t.Subscribed key id := by
    intro t u htu hu
    obtain ⟨w',hw',henabled,hkey⟩ := hu
    obtain ⟨w,hw,heq⟩ := htu.get? hw'
    exact ⟨w,hw,heq ▸ henabled,heq ▸ hkey⟩
  exact ⟨hto h,hto h.symm⟩

def Service.Enabled (s : Service K) (ids : List String) : Prop :=
  ∀ id ∈ ids, ∃ w, s.workspaces.get? id = some w ∧ w.compiled.enabled = true

theorem Service.SameGraphs.enabled {s s' : Service K} (h : s.SameGraphs s') {ids : List String}
    (hids : s.Enabled ids) : s'.Enabled ids := by
  intro id hid
  obtain ⟨w,hw,henabled⟩ := hids id hid
  obtain ⟨w',hw',heq⟩ := h.symm.get? hw
  exact ⟨w',hw',heq ▸ henabled⟩

theorem Service.Indexed.of_same {s s' : Service K} (h : s.Indexed) (hsame : s.SameGraphs s') :
    s'.Indexed where
  wellFormed id w' hw' := by
    obtain ⟨w,hw,heq⟩ := hsame.get? hw'
    exact heq ▸ h.wellFormed id w hw
  named id w' hw' := by
    obtain ⟨w,hw,heq⟩ := hsame.get? hw'
    exact heq ▸ h.named id w hw
  subscribers key id := by
    rw [hsame.streamToWorkspaces,hsame.subscribed]
    exact h.subscribers key id
  nodup key := hsame.streamToWorkspaces ▸ h.nodup key

variable {markDirty : Bool}

theorem Service.Indexed.install {s : Service K} (h : s.Indexed) {config : Config K}
    {c : CompiledWorkspace K} {axis : K.Axis} (hc : c.WellFormed) :
    (s.install config c axis markDirty).Indexed := by
  have hworkspaces := s.install_workspaces config c axis markDirty
  apply Service.Indexed.of_streamIndex
  · intro id w hw
    rw [hworkspaces,get?_set] at hw
    split at hw
    · cases hw
      exact hc
    · exact h.wellFormed id w hw
  · intro id w hw
    rw [hworkspaces,get?_set] at hw
    split at hw
    · rename_i hid
      cases hw
      exact hid.symm
    · exact h.named id w hw
  · rfl

theorem Service.Indexed.loadEntries {s : Service K} (h : s.Indexed)
    (axes : String × String → K.Axis) (configs : List (Config K)) :
    (s.loadEntries axes configs).1.Indexed := by
  refine loadEntries_invariant (P := Service.Indexed) ?_ h
  intro s config c _ hc hs
  exact hs.install (compileWorkspaceGraph_wellFormed hc)

theorem Service.Indexed.clear {s : Service K} (markDirty : Bool) : (s.clear markDirty).Indexed := by
  apply Service.Indexed.of_streamIndex
  · intro id w hw
    cases hw
  · intro id w hw
    cases hw
  · rfl

theorem Service.Indexed.delete {s s' : Service K} (h : s.Indexed)
    {expected : Option Int} (hdelete : s.delete id expected = .ok s') : s'.Indexed := by
  have hworkspaces := (delete_ok hdelete).2
  have hold : ∀ other w, s'.workspaces.get? other = some w → s.workspaces.get? other = some w := by
    intro other w hw
    rw [hworkspaces,get?_erase_eq] at hw
    split at hw
    · cases hw
    · exact hw
  apply Service.Indexed.of_streamIndex
  · exact fun other w hw => h.wellFormed other w (hold other w hw)
  · exact fun other w hw => h.named other w (hold other w hw)
  · unfold Service.delete at hdelete
    cases expected with
    | none =>
      cases hdelete
      rfl
    | some expected =>
      simp only at hdelete
      split at hdelete
      · cases hdelete
        rfl
      · cases hdelete

theorem Service.Indexed.edit {s : Service K} (h : s.Indexed) (e : Edit K) : (s.edit e).Indexed := by
  unfold Service.edit
  cases e with
  | read id => exact h
  | put config expected axes =>
    simp only
    cases hput : s.put config expected axes true with
    | error e => exact h
    | ok s' =>
      obtain ⟨c,hc,_,rfl⟩ := put_ok hput
      exact h.install (compileWorkspaceGraph_wellFormed hc)
  | delete id expected =>
    simp only
    cases hdelete : s.delete id expected with
    | error e => exact h
    | ok s' => exact h.delete hdelete
  | clear => exact Service.Indexed.clear true
  | reload file axes =>
    simp only
    cases s.reload_cases file axes with
    | inl hsame =>
      rw [hsame]
      exact h
    | inr hloaded =>
      obtain ⟨payload,configs,dirty,_,_,heq⟩ := hloaded
      have hcleared : (s.clear false).Indexed := Service.Indexed.clear false
      rw [heq]
      exact (hcleared.loadEntries axes configs).of_same ⟨rfl,rfl,fun _ => rfl⟩

theorem Service.reset_sameGraphs (id nodeId : Option String) :
    s.SameGraphs (s.reset id nodeId) := by
  have hset : ∀ (w' : WorkspaceRuntime K) {id : String} {w : WorkspaceRuntime K},
      s.workspaces.get? id = some w → w'.compiled = w.compiled → ∀ nodeId : Option String,
      s.SameGraphs
        ({ s with workspaces := s.workspaces.set id w' }.clearSnapshotOutputs id nodeId) := by
    intro w' id w hw hgraph nodeId
    refine ⟨rfl,rfl,?_⟩
    intro other
    simp only [Service.clearSnapshotOutputs,get?_set]
    split
    · rename_i heq
      simp [heq,hw,hgraph]
    · rfl
  unfold Service.reset
  split
  · exact .refl s
  · refine ⟨rfl,rfl,?_⟩
    intro other
    simp only [get?_mapValues,Option.map_map]
    rfl
  · split
    · exact .refl s
    · rename_i w hw
      split
      · exact hset w.resetStates hw rfl none
      · split
        · exact .refl s
        · rename_i nodeId _ w' hreset
          have hgraph : w'.compiled = w.compiled := by
            simp only [WorkspaceRuntime.resetNode,Option.map_eq_some_iff] at hreset
            obtain ⟨cell,_,rfl⟩ := hreset
            rfl
          exact hset w' hw hgraph (some nodeId)

variable {key : String × String} {st : Stream K}

theorem get?_of_filterKeys {d : OrderedDict (String × String) (Stream K)} {p : String × String → Bool}
    (h : (d.filterKeys p).get? key = some st) :
    d.get? key = some st := by
  rw [get?_filterKeys] at h
  split at h
  · exact h
  · cases h

theorem Service.removed_streams {s : Service K}
    (h : (Service.delete.removed s id).streams.get? key = some st) : s.streams.get? key = some st :=
  get?_of_filterKeys h

theorem Service.clear_streams {s : Service K} (h : (s.clear markDirty).streams.get? key = some st) :
    s.streams.get? key = some st :=
  get?_of_filterKeys h

theorem foldl_clearSnapshotOutputs_streams (id : String) (ids : List String) :
    (ids.foldl (fun s nodeId => s.clearSnapshotOutputs id (some nodeId)) s).streams = s.streams := by
  induction ids generalizing s with
  | nil => rfl
  | cons first rest ih => exact ih _

theorem Service.install_streams {s : Service K} {config : Config K} {c : CompiledWorkspace K}
    {axis : K.Axis} (h : (s.install config c axis markDirty).streams.get? key = some st) :
    s.streams.get? key = some st := by
  have hkept := get?_of_filterKeys h
  rwa [foldl_clearSnapshotOutputs_streams] at hkept

theorem Service.loadEntries_streams {s : Service K} {axes : String × String → K.Axis}
    {configs : List (Config K)} (h : (s.loadEntries axes configs).1.streams.get? key = some st) :
    s.streams.get? key = some st := by
  refine loadEntries_invariant (P := fun t : Service K =>
    t.streams.get? key = some st → s.streams.get? key = some st) ?_ id h
  intro t config c _ _ ht hst
  exact ht (install_streams hst)

theorem Service.edit_streams {s : Service K} {e : Edit K}
    (h : (s.edit e).streams.get? key = some st) : s.streams.get? key = some st := by
  unfold Service.edit at h
  cases e with
  | read id => exact h
  | put config expected axes =>
    simp only at h
    split at h
    · rename_i s' hput
      obtain ⟨c,_,_,rfl⟩ := put_ok hput
      exact install_streams h
    · exact h
  | delete id expected =>
    simp only at h
    split at h
    · rename_i s' hdelete
      unfold Service.delete at hdelete
      cases expected with
      | none =>
        cases hdelete
        exact removed_streams h
      | some expected =>
        simp only at hdelete
        split at hdelete
        · cases hdelete
          exact removed_streams h
        · cases hdelete
    · exact h
  | clear => exact clear_streams h
  | reload file axes =>
    simp only at h
    cases s.reload_cases file axes with
    | inl hsame => rwa [hsame] at h
    | inr hloaded =>
      obtain ⟨payload,configs,dirty,_,_,heq⟩ := hloaded
      rw [heq] at h
      have hloadedStream : ((s.clear false).loadEntries axes configs).1.streams.get? key = some st := h
      exact clear_streams (loadEntries_streams hloadedStream)

theorem Service.reset_streams (id nodeId : Option String) :
    (s.reset id nodeId).streams = s.streams := by
  unfold Service.reset
  repeat' split
  all_goals rfl

theorem Service.Steady.sameGraphs {s s' : Service K} (h : s.Steady s') : s.SameGraphs s' :=
  ⟨h.settings,h.streamToWorkspaces,fun _ => by rw [h.workspaces]⟩

theorem Service.processWorkspace_frame {s : Service K} {w : WorkspaceRuntime K}
    (hw : s.workspaces.get? id = some w) (shot : Shot K) (env : Surroundings) :
    s.SameGraphs (s.processWorkspace id w shot env).1 ∧
      (s.processWorkspace id w shot env).1.streams = s.streams := by
  obtain ⟨hsteady,_⟩ := s.includes_frame w.compiled shot env
  unfold Service.processWorkspace
  generalize s.includes w.compiled shot env = included at hsteady
  obtain ⟨includeHist,includeTrace,t⟩ := included
  simp only at hsteady ⊢
  have hset : ∀ (v : WorkspaceRuntime K) (u : Service K), v.compiled = w.compiled →
      u.workspaces = t.workspaces.set id v → u.settings = t.settings →
      u.streamToWorkspaces = t.streamToWorkspaces → s.SameGraphs u := by
    intro v u hgraph hset hsettings hindex
    refine ⟨hsettings.trans hsteady.settings,hindex.trans hsteady.streamToWorkspaces,?_⟩
    intro other
    rw [hset,hsteady.workspaces,get?_set]
    split
    · rename_i heq
      simp [heq,hw,hgraph]
    · rfl
  have hgraph : (w.executeEvent shot.observation includeHist includeTrace).1.compiled = w.compiled :=
    rfl
  generalize w.executeEvent shot.observation includeHist includeTrace = result at hgraph
  obtain ⟨v,result⟩ := result
  cases result with
  | error e =>
    exact ⟨hset { v with droppedSamples := v.droppedSamples+1 } _ hgraph rfl rfl rfl,hsteady.streams⟩
  | ok outputs =>
    let v' := { v with processedSamples := v.processedSamples+1 }
    let t' : Service K := { t with
      workspaces := t.workspaces.set id v'
      processedUpdates := t.processedUpdates+1 }
    have hpublished := t'.publishOutputs_steady id shot env outputs
    exact ⟨(hset v' t' hgraph rfl rfl rfl).trans hpublished.sameGraphs,
      hpublished.streams.trans hsteady.streams⟩

theorem Service.processWorkspaces_frame (shot : Shot K) (env : Surroundings)
    (ids : List String) : s.SameGraphs (s.processWorkspaces shot env ids).service ∧
      (s.processWorkspaces shot env ids).service.streams = s.streams := by
  induction ids generalizing s with
  | nil => exact ⟨.refl s,rfl⟩
  | cons id rest ih =>
    unfold Service.processWorkspaces
    cases hw : s.workspaces.get? id with
    | none => exact ih s
    | some w =>
      simp only
      split
      · have hnext := s.processWorkspace_frame hw shot env
        generalize s.processWorkspace id w shot env = result at hnext
        obtain ⟨t,returned⟩ := result
        cases returned with
        | false => exact hnext
        | true => exact ⟨hnext.1.trans (ih t).1,(ih t).2.trans hnext.2⟩
      · exact ih s

/-- A message leaves the graphs alone, and of the streams all but its own. -/
structure Service.Touches (key : String × String) (s s' : Service K) : Prop where
  sameGraphs : s.SameGraphs s'
  streams : ∀ other, other ≠ key → s'.streams.get? other = s.streams.get? other

theorem Service.Touches.refl (key : String × String) (s : Service K) : s.Touches key s :=
  ⟨.refl s,fun _ _ => rfl⟩

theorem Service.Touches.trans {s t u : Service K} (h : Touches key s t)
    (h' : Touches key t u) : Touches key s u :=
  ⟨h.sameGraphs.trans h'.sameGraphs,
    fun other hother => (h'.streams other hother).trans (h.streams other hother)⟩

theorem Service.touches_setStream (key : String × String) (st : Stream K) :
    Touches key s (s.setStream key st) where
  sameGraphs := ⟨rfl,rfl,fun _ => rfl⟩
  streams other hother := by simp [Service.setStream,hother]

theorem Service.touches_resetChunkReaderState (key : String × String) :
    Touches key s (s.resetChunkReaderState key) where
  sameGraphs := ⟨rfl,rfl,fun _ => rfl⟩
  streams other hother := by
    simp [Service.resetChunkReaderState,get?_erase_eq,hother]

theorem Service.touches_withStream {α : Type} (key : String × String) (a : α)
    (f : Stream K → α × Stream K) : Touches key s (s.withStream key a f).2 := by
  unfold Service.withStream
  split
  · exact .refl key s
  · exact s.touches_setStream key _

theorem Service.touches_ensureReader (key : String × String) (shmName : String)
    (initialSeq : Option Int) (attach : Option Nat) :
    Touches key s (s.ensureReader key shmName initialSeq attach).1 := by
  unfold Service.ensureReader
  split
  · exact .refl key s
  · split
    · exact s.touches_resetChunkReaderState key
    · exact s.touches_setStream key _

variable {shmName : String} {msg : ChunkMessage K}

theorem Service.touches_prepareChunkReady (hparts : msg.parts = some (key,shmName))
    (d : Delivery K) : Touches key s (s.prepareChunkReady msg d).1 ∧
      ∀ m ∈ (s.prepareChunkReady msg d).2, m.key = key := by
  unfold Service.prepareChunkReady
  simp only [hparts]
  split
  · exact ⟨.refl key s,by simp⟩
  · split
    · exact ⟨.refl key s,by simp⟩
    · rename_i range _
      have hreader := s.touches_ensureReader key shmName (range.map (·.firstSeq)) d.attach
      generalize s.ensureReader key shmName (range.map (·.firstSeq)) d.attach = result at hreader
      obtain ⟨t,reader⟩ := result
      cases reader with
      | none => exact ⟨hreader,by simp⟩
      | some st =>
        simp only
        split
        · exact ⟨hreader.trans (t.touches_resetChunkReaderState key),by simp⟩
        · exact ⟨hreader,by simp⟩

theorem Service.prepareChunkReady_none {s u : Service K} {d : Delivery K}
    (h : s.prepareChunkReady msg d = (u,none))
    (hst : u.streams.get? key = some st) : s.streams.get? key = some st := by
  have hreset : ∀ (t : Service K) (own : String × String), Touches own s t →
      (t.resetChunkReaderState own).streams.get? key = some st → s.streams.get? key = some st := by
    intro t own htouches hget
    by_cases hkey : key = own
    · subst hkey
      simp [Service.resetChunkReaderState,get?_erase_eq] at hget
    · rw [(t.touches_resetChunkReaderState own).streams key hkey] at hget
      rwa [htouches.streams key hkey] at hget
  unfold Service.prepareChunkReady at h
  split at h
  · cases h
    exact hst
  · rename_i own shmName hparts
    simp only at h
    split at h
    · cases h
      exact hst
    · split at h
      · cases h
        exact hst
      · rename_i range _
        have htouches := s.touches_ensureReader own shmName (range.map (·.firstSeq)) d.attach
        split at h
        · rename_i t hreader
          cases h
          unfold Service.ensureReader at hreader
          split at hreader
          · cases hreader
          · split at hreader
            · cases hreader
              exact hreset s own (.refl own s) hst
            · cases hreader
        · rename_i t found hreader
          rw [hreader] at htouches
          split at h
          · cases h
            exact hreset t own htouches hst
          · cases h

theorem Service.touches_loadChunkEvents (m : Prepared K)
    (ring : Option (RingContents K)) : Touches m.key s (s.loadChunkEvents m ring).1 := by
  unfold Service.loadChunkEvents
  split
  · exact s.touches_resetChunkReaderState m.key
  · simp only
    split
    · exact s.touches_withStream m.key () _
    · exact .refl m.key s

theorem Progress.touches_processEvent (m : Prepared K) (env : RingEvent K → Surroundings)
    (p : Progress K) (event : RingEvent K) (isLast : Bool) :
    Service.Touches m.key p.service (p.processEvent m env event isLast).service := by
  have hresolve : Service.Touches m.key p.service (p.resolve m event).2 :=
    p.service.touches_withStream m.key Context.absent fun st => st.popContextForSeq event.seq
  unfold Progress.processEvent
  simp only
  split
  · exact hresolve
  · have hframe := (p.resolve m event).2.processWorkspaces_frame
      (m.shot event (p.resolve m event).1.1 ‹K.Array› isLast) (env event) m.workspaceIds
    exact hresolve.trans ⟨hframe.1,fun other _ => by rw [hframe.2]⟩

theorem Progress.touches_processEvents (m : Prepared K) (env : RingEvent K → Surroundings)
    (p : Progress K) (events : List (RingEvent K)) :
    Service.Touches m.key p.service (Progress.processEvents m env p events).service := by
  induction events generalizing p with
  | nil => exact .refl m.key p.service
  | cons event rest ih =>
    have hfirst := p.touches_processEvent m env event rest.isEmpty
    unfold Progress.processEvents
    simp only
    split
    · exact hfirst
    · exact hfirst.trans (ih _)

variable {m : Prepared K}

theorem Progress.processEvent_stream {p : Progress K}
    (hst : p.service.streams.get? m.key = some st) (env : RingEvent K → Surroundings)
    (event : RingEvent K) (isLast : Bool) :
    ∃ st', (p.processEvent m env event isLast).service.streams.get? m.key = some st' ∧
      st.SameCursor st' := by
  have hresolve : (p.resolve m event).2.streams.get? m.key =
      some (st.popContextForSeq event.seq).2 := by
    unfold Progress.resolve
    rw [withStream_of_get? hst]
    exact p.service.streams_setStream m.key _
  refine ⟨_,?_,st.popContextForSeq_sameCursor event.seq⟩
  unfold Progress.processEvent
  simp only
  split
  · exact hresolve
  · rw [(processWorkspaces_frame _ _ _ _).2]
    exact hresolve

theorem Progress.processEvents_stream {p : Progress K}
    (hst : p.service.streams.get? m.key = some st) (env : RingEvent K → Surroundings)
    (events : List (RingEvent K)) :
    ∃ st', (Progress.processEvents m env p events).service.streams.get? m.key = some st' ∧
      st.SameCursor st' := by
  induction events generalizing p st with
  | nil => exact ⟨st,hst,.refl st⟩
  | cons event rest ih =>
    obtain ⟨next,hnext,hsame⟩ := Progress.processEvent_stream hst env event rest.isEmpty
    unfold Progress.processEvents
    simp only
    split
    · exact ⟨next,hnext,hsame⟩
    · obtain ⟨last,hlast,hsame'⟩ := ih hnext
      exact ⟨last,hlast,hsame.trans hsame'⟩

theorem Service.touches_handleEvents (m : Prepared K)
    (env : RingEvent K → Surroundings) (events : List (RingEvent K)) :
    Touches m.key s (s.handleEvents m env events).service := by
  unfold Service.handleEvents
  split
  · exact .refl m.key s
  · have hloop := Progress.touches_processEvents m env (s.progress m) events
    simp only
    split
    · exact hloop
    · exact hloop.trans (touches_withStream _ m.key () _)

theorem Service.touches_frames (hparts : msg.parts = some (key,shmName)) (d : Delivery K) :
    Touches key s (s.frames msg d).1 ∧ ∀ e ∈ (s.frames msg d).2, e.1.key = key := by
  have hprepare := s.touches_prepareChunkReady hparts d
  unfold Service.frames
  generalize s.prepareChunkReady msg d = result at hprepare
  obtain ⟨t,prepared⟩ := result
  cases prepared with
  | none => exact ⟨hprepare.1,by simp⟩
  | some m =>
    have hkey : m.key = key := hprepare.2 m rfl
    subst hkey
    simp only at hprepare ⊢
    have hremember := t.touches_withStream m.key () fun st =>
      ((),st.rememberRange t.settings.contextCacheLimit m.context m.range)
    exact ⟨(hprepare.1.trans hremember).trans (touches_loadChunkEvents _ m d.ring),by simp⟩

theorem Service.touches_handleChunkReady (hparts : msg.parts = some (key,shmName))
    (d : Delivery K) : Touches key s (s.handleChunkReady msg d).service := by
  have hframes := s.touches_frames hparts d
  unfold Service.handleChunkReady
  generalize s.frames msg d = result at hframes
  obtain ⟨t,frames⟩ := result
  cases frames with
  | none => exact hframes.1
  | some e =>
    obtain ⟨m,events⟩ := e
    have hkey : m.key = key := hframes.2 (m,events) rfl
    subst hkey
    exact hframes.1.trans (t.touches_handleEvents m d.env events)

theorem Service.handleChunkReady_of_parts
    (hparts : msg.parts = none) (d : Delivery K) : s.handleChunkReady msg d = ⟨s,[],none⟩ := by
  simp [Service.handleChunkReady,Service.frames,Service.prepareChunkReady,hparts]

theorem Service.Indexed.frames {s u : Service K} (h : s.Indexed)
    {d : Delivery K} {events : List (RingEvent K)}
    (hframes : s.frames msg d = (u,some (m,events))) :
    u.Indexed ∧ m.workspaceIds.Nodup ∧ (∀ id, id ∈ m.workspaceIds ↔ s.Subscribed m.key id) ∧
      u.Enabled m.workspaceIds := by
  obtain ⟨t,hprepare,_⟩ := frames_some hframes
  obtain ⟨hparts,hids,_⟩ := prepareChunkReady_some hprepare
  have htouches := (s.touches_frames hparts d).1
  rw [hframes] at htouches
  have hperm : m.workspaceIds.Perm ((s.streamToWorkspaces.get? m.key).getD []) :=
    hids ▸ d.order_perm _
  have hmem : ∀ id, id ∈ m.workspaceIds ↔ s.Subscribed m.key id :=
    fun id => hperm.mem_iff.trans (h.subscribers m.key id)
  have henabled : s.Enabled m.workspaceIds := by
    intro id hid
    obtain ⟨w,hw,henabled,_⟩ := (hmem id).1 hid
    exact ⟨w,hw,henabled⟩
  exact ⟨h.of_same htouches.sameGraphs,hperm.nodup_iff.2 (h.nodup m.key),hmem,
    htouches.sameGraphs.enabled henabled⟩

inductive Input (K : Kernels) where
  | edit (edit : Edit K)
  | reset (id nodeId : Option String)
  | chunk (msg : ChunkMessage K) (delivery : Delivery K)

structure Feed (K : Kernels) where
  service : Service K
  ended : Bool
  executions : List (Execution K)
  announced : String × String → String → Int → Option (Context K)

def Feed.initial (K : Kernels) (settings : Settings) : Feed K :=
  ⟨.initial K settings,false,[],fun _ _ _ => none⟩

def Prepared.announce (m : Prepared K)
    (announced : String × String → String → Int → Option (Context K)) :
    String × String → String → Int → Option (Context K) := fun key shmName seq =>
  if key = m.key ∧ shmName = m.shmName ∧ m.range.any (fun r => r.firstSeq ≤ seq ∧ seq ≤ r.finalSeq) then
    some m.context
  else announced key shmName seq

def Feed.handle (f : Feed K) (msg : ChunkMessage K) (d : Delivery K) : Feed K where
  service := (f.service.handleChunkReady msg d).service
  ended := (f.service.handleChunkReady msg d).raised.isSome
  executions := f.executions ++ (f.service.handleChunkReady msg d).executions
  announced := match (f.service.frames msg d).2 with
    | some (m,_) => m.announce f.announced
    | none => f.announced

def Feed.step (f : Feed K) (i : Input K) : Feed K :=
  if f.ended then f
  else match i with
    | .edit e => { f with service := f.service.edit e }
    | .reset id nodeId => { f with service := f.service.reset id nodeId }
    | .chunk msg d => f.handle msg d

theorem Feed.indexed_step {f : Feed K} (h : f.service.Indexed) (i : Input K) :
    (f.step i).service.Indexed := by
  unfold Feed.step
  split
  · exact h
  · cases i with
    | edit e => exact h.edit e
    | reset id nodeId => exact h.of_same (f.service.reset_sameGraphs id nodeId)
    | chunk msg d =>
      cases hparts : msg.parts with
      | none =>
        simp only [Feed.handle,f.service.handleChunkReady_of_parts hparts d]
        exact h
      | some e => exact h.of_same (f.service.touches_handleChunkReady hparts d).sameGraphs

theorem Feed.indexed (settings : Settings) (inputs : List (Input K)) :
    (run Feed.step (Feed.initial K settings) inputs).service.Indexed := by
  have hinitial : (Feed.initial K settings).service.Indexed := by
    apply Service.Indexed.of_streamIndex
    · intro id w hw
      cases hw
    · intro id w hw
      cases hw
    · rfl
  exact run_invariant (P := fun f : Feed K => f.service.Indexed) (fun _ i h => Feed.indexed_step h i)
    hinitial inputs

end

def watchConfig (id : String) : Config integers :=
  ⟨id,true,some [integerNode "src" "source.stream" ⟨1,1⟩ []],some [traceOutput "source" "src"]⟩

def watch (id : String) : Input integers := .edit (.put (watchConfig id) none fun _ => ())

def announce (shmName : String) (seq : Int) (context : Context integers) : ChunkMessage integers :=
  ⟨some "digitizer",some "adc",some shmName,.int seq,.missing,.missing,context⟩

def delivery (seqs : List Int) (h : seqs.Pairwise (· < ·)) (failing : List String) :
    Delivery integers where
  attach := some 4
  ring := some ⟨seqs.map fun seq => ⟨seq,some [seq],()⟩,by simpa [pairwise_map] using h⟩
  order := id
  order_perm _ := .refl _
  env _ := ⟨0,fun key _ => failing.contains key.1,fun _ => false⟩

end ExperimentControl.Analysis

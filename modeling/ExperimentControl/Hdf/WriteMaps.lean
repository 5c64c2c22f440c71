import ExperimentControl.Hdf.Telemetry

/-!
The schema map and the telemetry datasets agree as long as each schema answer keeps the fields of
the ids that have a dataset.
-/

namespace ExperimentControl.Hdf
open Lib Python OrderedDict List Bool

def Entry.Names (e : Entry) (d : TelemetryDataset) : Prop :=
  e.signals = d.schema.signals ∧ e.dtypes = d.schema.dtypes

/-- Every dataset has an entry with its fields, and has the fields it was created with. -/
structure Telemetry.Consistent (py : Py) (t : Telemetry) : Prop where
  named : ∀ {ident d}, t.datasets.get? ident = some d →
    ∃ e, t.deviceMap.get? ident = some e ∧ e.Names d
  created : ∀ {ident d}, t.datasets.get? ident = some d →
    createDeviceDataset py d.source ident d.schema = some { d with rows := [] }

def Agree (answer : List SchemaItem) : Prop :=
  ∀ i ∈ answer, ∀ j ∈ answer, i.ident = j.ident → ∀ e, i.entry = some e →
    ∃ e', j.entry = some e' ∧ e'.signals = e.signals ∧ e'.dtypes = e.dtypes

/-- A device schema answer lists every id that has a dataset, with the fields of the dataset. -/
structure KeepsDevices (answer : List SchemaItem) (datasets : OrderedDict String TelemetryDataset) :
    Prop where
  listed : ∀ {ident d}, datasets.get? ident = some d → ∃ item ∈ answer, item.ident = ident
  same : ∀ item ∈ answer, ∀ {d}, datasets.get? item.ident = some d →
    ∃ e, item.entry = some e ∧ e.Names d
  agree : Agree answer

/-- A process schema answer has the fields of the datasets for the ids that it lists. -/
structure KeepsProcesses (answer : List SchemaItem)
    (datasets : OrderedDict String TelemetryDataset) : Prop where
  same : ∀ item ∈ answer, ∀ {d}, datasets.get? item.ident = some d →
    ∃ e, item.entry = some e ∧ (e.signals ≠ [] → e.Names d)
  agree : Agree answer

variable {py : Py}

variable {entry : Entry}

theorem createDeviceDataset_eq {source : Source} {ident : String}
    {d : TelemetryDataset} (h : createDeviceDataset py source ident entry = some d) :
    d.source = source ∧ d.schema = entry ∧ d.rows = [] := by
  simp only [createDeviceDataset,Option.bind_eq_bind,Option.bind_eq_some_iff] at h
  obtain ⟨_,-,_,-,types,-,_,-,h⟩ := h
  have h := Option.some.inj h
  simp [← h]

theorem Telemetry.Consistent.empty : (⟨.empty,.empty⟩ : Telemetry).Consistent py :=
  ⟨by simp,by simp⟩

structure Telemetry.ConsistentBut (py : Py) (rest : List SchemaItem) (t : Telemetry) : Prop where
  named : ∀ {ident d}, t.datasets.get? ident = some d →
    (∃ e, t.deviceMap.get? ident = some e ∧ e.Names d) ∨ ∃ item ∈ rest, item.ident = ident
  created : ∀ {ident d}, t.datasets.get? ident = some d →
    createDeviceDataset py d.source ident d.schema = some { d with rows := [] }
  same : ∀ item ∈ rest, ∀ {d}, t.datasets.get? item.ident = some d →
    ∃ e, item.entry = some e ∧ e.Names d

variable {t : Telemetry}

theorem Telemetry.ConsistentBut.done (h : t.ConsistentBut py []) : t.Consistent py :=
  ⟨fun hd => (h.named hd).resolve_right (by simp),h.created⟩

variable {item : SchemaItem} {rest : List SchemaItem}

section
variable (h : t.ConsistentBut py (item :: rest))
include h

theorem Telemetry.ConsistentBut.set (hentry : item.entry = some entry) :
    ({ t with deviceMap := t.deviceMap.set item.ident entry } : Telemetry).ConsistentBut py rest := by
  refine ⟨?_,h.created,fun i hi => h.same i (mem_cons_of_mem _ hi)⟩
  intro ident d hd
  by_cases hident : ident = item.ident
  · obtain ⟨e,he,hnames⟩ := h.same item mem_cons_self (hident ▸ hd)
    rw [hentry] at he
    have he := Option.some.inj he
    exact .inl ⟨entry,by simp [hident],he ▸ hnames⟩
  · simp only [get?_set,hident,if_false]
    rcases h.named hd with hnamed | ⟨i,hi,hident'⟩
    · exact .inl hnamed
    · rcases mem_cons.1 hi with rfl | hi
      · exact absurd hident'.symm hident
      · exact .inr ⟨i,hi,hident'⟩

theorem Telemetry.ConsistentBut.erase {map : OrderedDict String Entry}
    (hnone : t.datasets.get? item.ident = none)
    (hmap : ∀ ident, ident ≠ item.ident → map.get? ident = t.deviceMap.get? ident) :
    ({ t with deviceMap := map } : Telemetry).ConsistentBut py rest := by
  refine ⟨?_,h.created,fun i hi => h.same i (mem_cons_of_mem _ hi)⟩
  intro ident d hd
  have hident : ident ≠ item.ident := by
    rintro rfl
    simp [hnone] at hd
  simp only [hmap ident hident]
  rcases h.named hd with hnamed | ⟨i,hi,hident'⟩
  · exact .inl hnamed
  · rcases mem_cons.1 hi with rfl | hi
    · exact absurd hident'.symm hident
    · exact .inr ⟨i,hi,hident'⟩

theorem Telemetry.ConsistentBut.create {d : TelemetryDataset} {source : Source}
    (hentry : item.entry = some entry) (hagree : Agree (item :: rest))
    (hnew : createDeviceDataset py source item.ident entry = some d) :
    (⟨t.deviceMap.set item.ident entry,t.datasets.set item.ident d⟩ : Telemetry).ConsistentBut py
      rest := by
  obtain ⟨hsource,hschema,hrows⟩ := createDeviceDataset_eq hnew
  have hnames : entry.Names d := by simp [Entry.Names,hschema]
  refine ⟨?_,?_,?_⟩
  · intro ident d' hd'
    by_cases hident : ident = item.ident
    · simp only [get?_set,hident,if_true,Option.some.injEq] at hd'
      exact .inl ⟨entry,by simp [hident],hd' ▸ hnames⟩
    · simp only [get?_set,hident,if_false] at hd' ⊢
      rcases h.named hd' with hnamed | ⟨i,hi,hident'⟩
      · exact .inl hnamed
      · rcases mem_cons.1 hi with rfl | hi
        · exact absurd hident'.symm hident
        · exact .inr ⟨i,hi,hident'⟩
  · intro ident d' hd'
    by_cases hident : ident = item.ident
    · simp only [get?_set,hident,if_true,Option.some.injEq] at hd'
      subst hd'
      rw [hident,hsource,hschema,hnew]
      cases d
      simp_all
    · simp only [get?_set,hident,if_false] at hd'
      exact h.created hd'
  · intro i hi d' hd'
    by_cases hident : i.ident = item.ident
    · simp only [get?_set,hident,if_true,Option.some.injEq] at hd'
      obtain ⟨e,he,hsignals,hdtypes⟩ :=
        hagree item mem_cons_self i (mem_cons_of_mem _ hi) hident.symm entry hentry
      exact ⟨e,he,by rw [← hd']; simp [Entry.Names,hschema,hsignals,hdtypes]⟩
    · simp only [get?_set,hident,if_false] at hd'
      exact h.same i (mem_cons_of_mem _ hi) hd'

end

theorem Agree.tail (h : Agree (item :: rest)) : Agree rest :=
  fun i hi j hj => h i (mem_cons_of_mem _ hi) j (mem_cons_of_mem _ hj)

variable {writeEnabled : String → Bool}

theorem ingestDevice_consistentBut (h : t.ConsistentBut py (item :: rest))
    (hagree : Agree (item :: rest)) : (ingestDevice py writeEnabled t item).ConsistentBut py rest := by
  cases hentry : item.entry with
  | none =>
    have hnone : t.datasets.get? item.ident = none := by
      cases hd : t.datasets.get? item.ident with
      | none => rfl
      | some d =>
        obtain ⟨e,he,-⟩ := h.same item mem_cons_self hd
        simp [hentry] at he
    have herase := h.erase hnone (fun ident hne => by
      rw [get?_erase_eq,if_neg hne] : ∀ ident, ident ≠ item.ident →
        (t.deviceMap.erase item.ident).get? ident = t.deviceMap.get? ident)
    simpa only [ingestDevice,hentry] using herase
  | some entry =>
    simp only [ingestDevice,hentry]
    split
    next hcreate =>
      have hnone : t.datasets.get? item.ident = none := by
        simp only [and_eq_true,not_eq_true'] at hcreate
        exact (t.datasets.contains_eq_false _).1 hcreate.1.2
      split
      next d hd => exact h.create hentry hagree hd
      next =>
        apply h.erase hnone
        intro ident hne
        simp [get?_erase_eq,hne]
    next => exact h.set hentry

theorem ingestSchema_consistent {answer : List SchemaItem}
    (h : t.Consistent py) (hkeeps : KeepsDevices answer t.datasets) :
    (ingestSchema py writeEnabled answer t).Consistent py := by
  have hrun : ∀ (items : List SchemaItem) (t : Telemetry), t.ConsistentBut py items → Agree items →
      (items.foldl (ingestDevice py writeEnabled) t).Consistent py := by
    intro items
    induction items with
    | nil => exact fun t h _ => h.done
    | cons item rest ih =>
      intro t h hagree
      exact ih _ (ingestDevice_consistentBut h hagree) hagree.tail
  have hstart : ({ t with deviceMap := .empty } : Telemetry).ConsistentBut py answer :=
    ⟨fun hd => .inr (hkeeps.listed hd),h.created,hkeeps.same⟩
  exact hrun answer _ hstart hkeeps.agree

theorem ingestProcess_datasets (writeEnabled : String → Bool) (t : Telemetry) (item : SchemaItem) :
    (ingestProcess py writeEnabled t item).datasets = t.datasets ∨
      ∃ entry d, item.entry = some entry ∧
        createDeviceDataset py .process item.ident entry = some d ∧
        t.datasets.get? item.ident = none ∧
        (ingestProcess py writeEnabled t item).datasets = t.datasets.set item.ident d := by
  simp only [ingestProcess]
  split
  next => exact .inl rfl
  next =>
    cases hentry : item.entry with
    | none => exact .inl rfl
    | some entry =>
      simp only []
      split
      next => exact .inl rfl
      next =>
        split
        next hcreate =>
          simp only [and_eq_true,not_eq_true',contains_eq_false] at hcreate
          split
          next d hd => exact .inr ⟨entry,d,rfl,hd,hcreate.2,rfl⟩
          next => exact .inl rfl
        next => exact .inl rfl

theorem ingestProcess_consistent (h : t.Consistent py)
    (hsame : ∀ {d}, t.datasets.get? item.ident = some d →
      ∃ e, item.entry = some e ∧ (e.signals ≠ [] → e.Names d)) :
    (ingestProcess py writeEnabled t item).Consistent py := by
  simp only [ingestProcess]
  split
  next => exact h
  next =>
    cases hentry : item.entry with
    | none =>
      have hnone : t.datasets.get? item.ident = none := by
        cases hd : t.datasets.get? item.ident with
        | none => rfl
        | some d =>
          obtain ⟨e,he,-⟩ := hsame hd
          simp [hentry] at he
      have hbut : t.ConsistentBut py [item] :=
        ⟨fun hd => .inl (h.named hd),h.created,by simp [hnone]⟩
      apply Telemetry.ConsistentBut.done
      apply hbut.erase hnone
      intro ident hne
      rw [get?_erase_eq,if_neg hne]
    | some entry =>
      simp only []
      split
      next => exact h
      next hsignals =>
        have hbut : t.ConsistentBut py [item] := by
          refine ⟨fun hd => .inl (h.named hd),h.created,?_⟩
          intro i hi d hd
          rw [mem_singleton.1 hi] at hd ⊢
          obtain ⟨e,he,hnames⟩ := hsame hd
          rw [hentry] at he
          have he := Option.some.inj he
          subst he
          exact ⟨entry,hentry,hnames (by simpa using hsignals)⟩
        have hagree : Agree [item] := by
          intro i hi j hj _ e he
          rw [mem_singleton.1 hi] at he
          exact ⟨e,by rw [mem_singleton.1 hj]; exact he,rfl,rfl⟩
        apply Telemetry.ConsistentBut.done
        split
        next hcreate =>
          simp only [and_eq_true,not_eq_true',contains_eq_false] at hcreate
          split
          next d hd => exact hbut.create hentry hagree hd
          next =>
            apply hbut.erase hcreate.2
            intro ident hne
            simp [get?_erase_eq,hne]
        next => exact hbut.set hentry

theorem ingestProcessSchema_consistent {answer : List SchemaItem}
    (h : t.Consistent py) (hkeeps : KeepsProcesses answer t.datasets) :
    (ingestProcessSchema py writeEnabled answer t).Consistent py := by
  obtain ⟨hsame,hagree⟩ := hkeeps
  unfold ingestProcessSchema
  induction answer generalizing t with
  | nil => exact h
  | cons item rest ih =>
    apply ih (ingestProcess_consistent h (hsame item mem_cons_self)) _ hagree.tail
    intro i hi d hd
    have hi := mem_cons_of_mem item hi
    rcases ingestProcess_datasets writeEnabled t item with heq | ⟨entry,new,hentry,hnew,-,heq⟩
    · exact hsame i hi (heq ▸ hd)
    · rw [heq,get?_set] at hd
      split at hd
      next hident =>
        obtain ⟨-,hschema,-⟩ := createDeviceDataset_eq hnew
        obtain ⟨e,he,hsignals,hdtypes⟩ :=
          hagree item mem_cons_self i hi hident.symm entry hentry
        have hd := Option.some.inj hd
        exact ⟨e,he,fun _ => by simp [Entry.Names,← hd,hschema,hsignals,hdtypes]⟩
      next => exact hsame i hi hd

/-- A row of this device makes `_ensure_device` ask for the schema. -/
def asksSchema (call : SchemaCall) (s : TelemetryState) (device : String) : Bool :=
  isEnabled s.disabledDevices device && !s.maps.datasets.contains device && s.telemetryGroup &&
    !monoCacheActive s.caches.absent device schemaAbsentTtlS call.now &&
    !monoCacheActive s.caches.rpcError device schemaRpcErrorBackoffS call.now

variable {call : SchemaCall} {s : TelemetryState} {device : String}

theorem ensureDevice_of_quiet (h : asksSchema call s device = false) :
    ensureDevice py call s device =
      (isEnabled s.disabledDevices device && s.maps.datasets.contains device,s) := by
  simp only [asksSchema,and_eq_false_iff,not_eq_false'] at h
  unfold ensureDevice
  cases henabled : isEnabled s.disabledDevices device with
  | false => simp
  | true =>
    cases hcontains : s.maps.datasets.contains device with
    | true => simp
    | false =>
      rcases h with (((h | h) | h) | h) | h
      · simp [henabled] at h
      · simp [hcontains] at h
      · simp [h]
      · simp [h]
      · simp [h]

theorem ensureDevice_of_asks (h : asksSchema call s device = true) :
    ∃ b caches, ensureDevice py call s device = (b,{ s with caches := caches }) ∧
        call.answer = none ∧ b = false ∨
      ∃ answer, call.answer = some answer ∧
        let maps := ingestSchema py (isEnabled s.disabledDevices) answer s.maps
        ensureDevice py call s device = (b,{ s with caches := caches, maps := maps }) ∧
          b = maps.datasets.contains device := by
  simp only [asksSchema,and_eq_true,not_eq_true'] at h
  obtain ⟨⟨⟨⟨h1,h2⟩,h3⟩,h4⟩,h5⟩ := h
  unfold ensureDevice
  simp only [h1,h2,h3,h4,h5]
  cases hanswer : call.answer with
  | none => exact ⟨false,_,.inl ⟨rfl,rfl,rfl⟩⟩
  | some answer =>
    cases hcontains : (ingestSchema py (isEnabled s.disabledDevices) answer
        s.maps).datasets.contains device with
    | true =>
      exact ⟨true,{ s.caches with absent := s.caches.absent.erase device },
        .inr ⟨answer,rfl,by simp [hcontains]⟩⟩
    | false =>
      exact ⟨false,{ s.caches with absent := s.caches.absent.set device call.now },
        .inr ⟨answer,rfl,by simp [hcontains]⟩⟩

theorem get?_appendRows (datasets : OrderedDict String TelemetryDataset) (device ident : String)
    (rows : List Cells) : (appendRows datasets device rows).get? ident =
      if ident = device then (datasets.get? device).map fun d => d.append rows
      else datasets.get? ident := by
  unfold appendRows
  cases hd : datasets.get? device with
  | none =>
    by_cases h : ident = device
    · simp [h,hd]
    · simp [h]
  | some d => simp

theorem Telemetry.Consistent.appendRows (h : t.Consistent py) (device : String)
    (rows : List Cells) :
    ({ t with datasets := Hdf.appendRows t.datasets device rows } : Telemetry).Consistent py := by
  have hold : ∀ {ident d}, (Hdf.appendRows t.datasets device rows).get? ident = some d →
      ∃ d', t.datasets.get? ident = some d' ∧ d.schema = d'.schema ∧ d.source = d'.source ∧
        d.fields = d'.fields := by
    intro ident d hd
    rw [get?_appendRows] at hd
    split at hd
    next hident =>
      obtain ⟨d',hd',rfl⟩ := Option.map_eq_some_iff.1 hd
      exact ⟨d',hident ▸ hd',rfl,rfl,rfl⟩
    next => exact ⟨d,hd,rfl,rfl,rfl⟩
  constructor
  · intro ident d hd
    obtain ⟨d',hd',hschema,-⟩ := hold hd
    obtain ⟨e,he,hnames⟩ := h.named hd'
    exact ⟨e,he,by simpa [Entry.Names,hschema] using hnames⟩
  · intro ident d hd
    obtain ⟨d',hd',hschema,hsource,hfields⟩ := hold hd
    rw [hschema,hsource,hfields]
    exact h.created hd'

variable {isProcess : String → Bool}

/-- What a row meets when it is written: an answer that it asks for keeps the fields of the
datasets, no answer is about a process, and a process has its dataset. -/
structure RowHarmless (py : Py) (isProcess : String → Bool) (s : TelemetryState) (msg : Msg)
    (call : SchemaCall) : Prop where
  keeps : ∀ device answer, py.normalizeDeviceId (getD msg "device_id" .none) = some device →
    asksSchema call s device = true → call.answer = some answer →
      KeepsDevices answer s.maps.datasets
  devices : ∀ answer, call.answer = some answer → ∀ item ∈ answer, isProcess item.ident = false
  processes : ∀ device, py.normalizeDeviceId (getD msg "device_id" .none) = some device →
    isProcess device = true → s.maps.datasets.contains device = true

def BatchHarmless (py : Py) (isProcess : String → Bool) (capacity : Nat) :
    List (Msg × SchemaCall) → Staged → Prop
  | [],_ => True
  | r :: rest,s => RowHarmless py isProcess s.state r.1 r.2 ∧
      BatchHarmless py isProcess capacity rest (s.row py capacity r.1 r.2)

theorem ensureDevice_consistent (h : s.maps.Consistent py)
    (hkeeps : ∀ answer, asksSchema call s device = true → call.answer = some answer →
      KeepsDevices answer s.maps.datasets) :
    (ensureDevice py call s device).2.maps.Consistent py := by
  cases hasks : asksSchema call s device with
  | false =>
    rw [ensureDevice_of_quiet hasks]
    exact h
  | true =>
    obtain ⟨b,caches,⟨heq,-⟩ | ⟨answer,hanswer,heq,-⟩⟩ := ensureDevice_of_asks hasks
    · rw [heq]
      exact h
    · rw [heq]
      exact ingestSchema_consistent h (hkeeps answer hasks hanswer)

theorem Staged.flush_consistent {s : Staged} (h : s.state.maps.Consistent py) (device : String) :
    (s.flush device).state.maps.Consistent py :=
  h.appendRows device _

theorem Staged.row_consistent {capacity : Nat} {s : Staged} {msg : Msg}
    (h : s.state.maps.Consistent py) (hrow : RowHarmless py isProcess s.state msg call) :
    (s.row py capacity msg call).state.maps.Consistent py := by
  unfold Staged.row
  split
  next => exact h
  next device hdevice =>
    have hensured := ensureDevice_consistent h fun answer => hrow.keeps device answer hdevice
    split
    next state heq =>
      rw [heq] at hensured
      exact hensured
    next state heq =>
      rw [heq] at hensured
      have hstate : state.maps.Consistent py := hensured
      simp only []
      split
      next =>
        split
        next => exact hstate
        next =>
          split
          next => exact Staged.flush_consistent hstate device
          next => exact hstate
      next => exact hstate

theorem writeBufferedRowsBatch_consistent {capacity : Nat} {rows : List (Msg × SchemaCall)}
    (h : s.maps.Consistent py) (hbatch : BatchHarmless py isProcess capacity rows ⟨s,.empty⟩) :
    (writeBufferedRowsBatch py capacity rows s).maps.Consistent py := by
  unfold writeBufferedRowsBatch
  split
  next =>
    have hrows : ∀ (rows : List (Msg × SchemaCall)) (s : Staged), s.state.maps.Consistent py →
        BatchHarmless py isProcess capacity rows s →
        (rows.foldl (fun (s : Staged) r => s.row py capacity r.1 r.2) s).state.maps.Consistent
          py := by
      intro rows
      induction rows with
      | nil => exact fun s h _ => h
      | cons r rest ih =>
        intro s h hb
        simp only [foldl_cons]
        exact ih _ (Staged.row_consistent h hb.1) hb.2
    have hflushes : ∀ (devices : List String) (s : Staged), s.state.maps.Consistent py →
        (devices.foldl Staged.flush s).state.maps.Consistent py := by
      intro devices
      induction devices with
      | nil => exact fun s h => h
      | cons device rest ih => exact fun s h => ih _ (Staged.flush_consistent h device)
    exact hflushes _ _ (hrows _ _ h hbatch)
  next => exact h

end ExperimentControl.Hdf

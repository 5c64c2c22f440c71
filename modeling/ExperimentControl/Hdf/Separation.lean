import ExperimentControl.Hdf.WriteMaps

/-!
The device filter and the process filter, over the runs of the telemetry part of the writer: the
rows that a batch puts into the datasets of processes do not depend on a toggle of devices, nor
those of devices on a toggle of processes.
-/

namespace ExperimentControl.Hdf
open Lib Python OrderedDict List

variable {py : Py}

variable {writeEnabled : String → Bool}

theorem ingestDevice_other {t : Telemetry} {item : SchemaItem}
    {ident : String} (h : item.ident ≠ ident) :
    (ingestDevice py writeEnabled t item).datasets.get? ident = t.datasets.get? ident := by
  have hne : ident ≠ item.ident := Ne.symm h
  unfold ingestDevice
  split
  next => rfl
  next =>
    split
    next =>
      split
      next => simp [hne]
      next => rfl
    next => rfl

theorem ingestSchema_other {answer : List SchemaItem}
    {t : Telemetry} {ident : String} (h : ∀ item ∈ answer, item.ident ≠ ident) :
    (ingestSchema py writeEnabled answer t).datasets.get? ident = t.datasets.get? ident := by
  have hrun : ∀ (items : List SchemaItem) (t : Telemetry), (∀ item ∈ items, item.ident ≠ ident) →
      (items.foldl (ingestDevice py writeEnabled) t).datasets.get? ident =
        t.datasets.get? ident := by
    intro items
    induction items with
    | nil => exact fun t _ => rfl
    | cons item rest ih =>
      intro t h
      have hrest := ih (ingestDevice py writeEnabled t item) fun i hi => h i (by simp [hi])
      exact hrest.trans (ingestDevice_other (h item (by simp)))
  exact hrun answer _ h

theorem get?_foldl_flush (devices : List String) (h : devices.Nodup) (s : Staged) (ident : String) :
    (devices.foldl Staged.flush s).state.maps.datasets.get? ident = if ident ∈ devices then
        (s.state.maps.datasets.get? ident).map fun d => d.append ((s.staging.get? ident).getD [])
      else s.state.maps.datasets.get? ident := by
  induction devices generalizing s with
  | nil => simp
  | cons device rest ih =>
    rw [nodup_cons] at h
    rw [foldl_cons,ih h.2]
    simp only [Staged.flush,get?_appendRows,get?_set,mem_cons]
    by_cases hident : ident = device
    · simp [hident,h.1]
    · simp [hident]

theorem TelemetryDataset.append_nil (d : TelemetryDataset) : d.append [] = d := by
  simp [TelemetryDataset.append]

variable (py) in
theorem writeBufferedRowsBatch_get? (capacity : Nat) (rows : List (Msg × SchemaCall))
    {s : TelemetryState} (hgroup : s.telemetryGroup = true) (ident : String) :
    let done := rows.foldl (fun (s : Staged) r => s.row py capacity r.1 r.2) ⟨s,.empty⟩
    (writeBufferedRowsBatch py capacity rows s).maps.datasets.get? ident =
      (done.state.maps.datasets.get? ident).map fun d =>
        d.append ((done.staging.get? ident).getD []) := by
  simp only [writeBufferedRowsBatch,hgroup,if_true]
  generalize rows.foldl (fun (s : Staged) r => s.row py capacity r.1 r.2) ⟨s,.empty⟩ = done
  rw [get?_foldl_flush done.staging.keys done.staging.nodup]
  split
  next => rfl
  next hmem =>
    have hnone : done.staging.get? ident = none := by
      cases hget : done.staging.get? ident with
      | none => rfl
      | some rows =>
        rw [get?_eq_some_iff] at hget
        exact absurd (mem_map_of_mem hget) hmem
    cases done.state.maps.datasets.get? ident with
    | none => rfl
    | some d => simp [hnone,TelemetryDataset.append_nil]

theorem convertRow_congr {info info' : Entry} {d : TelemetryDataset} (h : info.Names d)
    (h' : info'.Names d) (msg : Msg) :
    convertRow py info d.fields msg = convertRow py info' d.fields msg := by
  unfold convertRow
  rw [h.1,h.2,h'.1,h'.2]

variable {isProcess : String → Bool}

structure SameProcesses (isProcess : String → Bool) (s s' : Staged) : Prop where
  datasets : ∀ p, isProcess p = true →
    s.state.maps.datasets.get? p = s'.state.maps.datasets.get? p
  staging : ∀ p, isProcess p = true → s.staging.get? p = s'.staging.get? p
  enabled : ∀ p, isProcess p = true →
    isEnabled s.state.disabledDevices p = isEnabled s'.state.disabledDevices p

variable {s s' : Staged}

theorem SameProcesses.symm (h : SameProcesses isProcess s s') : SameProcesses isProcess s' s :=
  ⟨fun p hp => (h.datasets p hp).symm,fun p hp => (h.staging p hp).symm,
    fun p hp => (h.enabled p hp).symm⟩

theorem SameProcesses.trans {s s' s'' : Staged} (h : SameProcesses isProcess s s')
    (h' : SameProcesses isProcess s' s'') : SameProcesses isProcess s s'' :=
  ⟨fun p hp => (h.datasets p hp).trans (h'.datasets p hp),
    fun p hp => (h.staging p hp).trans (h'.staging p hp),
    fun p hp => (h.enabled p hp).trans (h'.enabled p hp)⟩

variable (py) in
theorem ensureDevice_disabled (call : SchemaCall) (s : TelemetryState) (device : String) :
    (ensureDevice py call s device).2.disabledDevices = s.disabledDevices := by
  cases hasks : asksSchema call s device with
  | false => rw [ensureDevice_of_quiet hasks]
  | true =>
    obtain ⟨b,caches,⟨heq,-⟩ | ⟨answer,-,heq,-⟩⟩ := ensureDevice_of_asks hasks
    · rw [heq]
    · rw [heq]

variable {call : SchemaCall}

variable (py) in
theorem ensureDevice_process (s : TelemetryState) (device : String) {p : String}
    (hanswer : ∀ answer, call.answer = some answer → ∀ item ∈ answer, isProcess item.ident = false)
    (hp : isProcess p = true) :
    (ensureDevice py call s device).2.maps.datasets.get? p = s.maps.datasets.get? p := by
  cases hasks : asksSchema call s device with
  | false => rw [ensureDevice_of_quiet hasks]
  | true =>
    obtain ⟨b,caches,⟨heq,-⟩ | ⟨answer,hsome,heq,-⟩⟩ := ensureDevice_of_asks hasks
    · rw [heq]
    · rw [heq]
      apply ingestSchema_other
      rintro item hitem rfl
      have hno := hanswer answer hsome item hitem
      simp [hp] at hno

variable {msg : Msg} {device : String}

theorem Staged.row_device (capacity : Nat) (s : Staged)
    (hdevice : py.normalizeDeviceId (getD msg "device_id" .none) = some device)
    (hno : isProcess device = false)
    (hanswer : ∀ answer, call.answer = some answer → ∀ item ∈ answer,
      isProcess item.ident = false) :
    SameProcesses isProcess (s.row py capacity msg call) s := by
  have hne : ∀ p, isProcess p = true → p ≠ device := by
    rintro p hp rfl
    simp [hno] at hp
  have hensured := fun p (hp : isProcess p = true) =>
    ensureDevice_process py s.state device hanswer hp
  have hdisabled := ensureDevice_disabled py call s.state device
  simp only [Staged.row,hdevice]
  split
  next state heq =>
    rw [heq] at hensured hdisabled
    exact ⟨hensured,fun p _ => rfl,fun p _ => by rw [hdisabled]⟩
  next state heq =>
    rw [heq] at hensured hdisabled
    have hsame : SameProcesses isProcess { s with state := state } s :=
      ⟨hensured,fun p _ => rfl,fun p _ => by rw [hdisabled]⟩
    split
    next =>
      split
      next => exact hsame
      next =>
        split
        next =>
          refine ⟨fun p hp => ?_,fun p hp => ?_,hsame.enabled⟩
          · simpa [Staged.flush,get?_appendRows,hne p hp] using hensured p hp
          · simp [Staged.flush,hne p hp]
        next => exact ⟨hensured,fun p hp => by simp [hne p hp],hsame.enabled⟩
    next => exact hsame

theorem asksSchema_of_contains {s : TelemetryState}
    (h : s.maps.datasets.contains device = true) : asksSchema call s device = false := by
  simp [asksSchema,h]

theorem contains_eq_true {κ α : Type} [DecidableEq κ] {d : OrderedDict κ α} {k : κ} :
    d.contains k = true ↔ ∃ v, d.get? k = some v := by
  rw [OrderedDict.contains,Option.isSome_iff_exists]

variable {capacity : Nat}

theorem Staged.row_of_dataset {s : Staged} {d : TelemetryDataset} {info : Entry}
    (hdevice : py.normalizeDeviceId (getD msg "device_id" .none) = some device)
    (hd : s.state.maps.datasets.get? device = some d)
    (hinfo : s.state.maps.deviceMap.get? device = some info) : s.row py capacity msg call =
      if isEnabled s.state.disabledDevices device then
        match convertRow py info d.fields msg with
        | none => s
        | some cells =>
          let rows := (s.staging.get? device).getD []
          let s := { s with staging := s.staging.set device (rows ++ [cells]) }
          if capacity ≤ rows.length+1 then s.flush device else s
      else s := by
  have hcontains : s.state.maps.datasets.contains device = true := contains_eq_true.2 ⟨d,hd⟩
  simp only [Staged.row,hdevice,ensureDevice_of_quiet (asksSchema_of_contains hcontains),
    hcontains,Bool.and_true]
  cases isEnabled s.state.disabledDevices device with
  | false => rfl
  | true =>
    simp only [hd,hinfo]
    rfl

theorem SameProcesses.row_process (h : SameProcesses isProcess s s')
    (hdevice : py.normalizeDeviceId (getD msg "device_id" .none) = some device)
    (hp : isProcess device = true) (hs : s.state.maps.Consistent py)
    (hs' : s'.state.maps.Consistent py) (hcontains : s.state.maps.datasets.contains device = true) :
    SameProcesses isProcess (s.row py capacity msg call) (s'.row py capacity msg call) := by
  obtain ⟨d,hd⟩ := contains_eq_true.1 hcontains
  have hd' : s'.state.maps.datasets.get? device = some d := by rw [← h.datasets device hp,hd]
  obtain ⟨info,hinfo,hnames⟩ := hs.named hd
  obtain ⟨info',hinfo',hnames'⟩ := hs'.named hd'
  rw [Staged.row_of_dataset hdevice hd hinfo,Staged.row_of_dataset hdevice hd' hinfo',
    convertRow_congr hnames hnames' msg,h.enabled device hp]
  split
  next =>
    cases convertRow py info' d.fields msg with
    | none => exact h
    | some cells =>
      have hstaging := h.staging device hp
      simp only [hstaging]
      split
      next =>
        refine ⟨fun p hp => ?_,fun p hp => ?_,h.enabled⟩
        · simp only [Staged.flush,get?_appendRows,get?_set,if_true]
          rw [h.datasets p hp,h.datasets device ‹_›]
        · simp only [Staged.flush,get?_set]
          rw [h.staging p hp]
      next =>
        refine ⟨h.datasets,fun p hp => ?_,h.enabled⟩
        simp only [get?_set]
        rw [h.staging p hp]
  next => exact h

theorem SameProcesses.row (h : SameProcesses isProcess s s') (hs : s.state.maps.Consistent py)
    (hs' : s'.state.maps.Consistent py) (hrow : RowHarmless py isProcess s.state msg call) :
    SameProcesses isProcess (s.row py capacity msg call) (s'.row py capacity msg call) := by
  cases hdevice : py.normalizeDeviceId (getD msg "device_id" .none) with
  | none => simpa only [Staged.row,hdevice] using h
  | some device =>
    cases hp : isProcess device with
    | true => exact h.row_process hdevice hp hs hs' (hrow.processes device hdevice hp)
    | false =>
      have hleft := Staged.row_device capacity s hdevice hp hrow.devices
      have hright := Staged.row_device capacity s' hdevice hp hrow.devices
      exact (hleft.trans h).trans hright.symm

theorem SameProcesses.batch {rows : List (Msg × SchemaCall)}
    {s s' : TelemetryState} (h : SameProcesses isProcess ⟨s,.empty⟩ ⟨s',.empty⟩)
    (hgroup : s.telemetryGroup = s'.telemetryGroup) (hs : s.maps.Consistent py)
    (hs' : s'.maps.Consistent py) (hbatch : BatchHarmless py isProcess capacity rows ⟨s,.empty⟩)
    (hbatch' : BatchHarmless py isProcess capacity rows ⟨s',.empty⟩) {p : String}
    (hp : isProcess p = true) : (writeBufferedRowsBatch py capacity rows s).maps.datasets.get? p =
      (writeBufferedRowsBatch py capacity rows s').maps.datasets.get? p := by
  have hrows : ∀ (rows : List (Msg × SchemaCall)) (s s' : Staged), SameProcesses isProcess s s' →
      s.state.maps.Consistent py → s'.state.maps.Consistent py →
      BatchHarmless py isProcess capacity rows s → BatchHarmless py isProcess capacity rows s' →
      SameProcesses isProcess (rows.foldl (fun (s : Staged) r => s.row py capacity r.1 r.2) s)
        (rows.foldl (fun (s : Staged) r => s.row py capacity r.1 r.2) s') := by
    intro rows
    induction rows with
    | nil => exact fun s s' h _ _ _ _ => h
    | cons r rest ih =>
      intro s s' h hs hs' hb hb'
      simp only [foldl_cons]
      exact ih _ _ (h.row hs hs' hb.1) (Staged.row_consistent hs hb.1)
        (Staged.row_consistent hs' hb'.1) hb.2 hb'.2
  cases hg : s.telemetryGroup with
  | false =>
    have hg' : s'.telemetryGroup = false := by rw [← hgroup,hg]
    simpa [writeBufferedRowsBatch,hg,hg'] using h.datasets p hp
  | true =>
    have hg' : s'.telemetryGroup = true := by rw [← hgroup,hg]
    have hdone := hrows rows _ _ h hs hs' hbatch hbatch'
    have hleft := writeBufferedRowsBatch_get? py capacity rows hg p
    have hright := writeBufferedRowsBatch_get? py capacity rows hg' p
    simp only [hleft,hright,hdone.datasets p hp,hdone.staging p hp]

structure Telemetry.SameDevices (isProcess : String → Bool) (t t' : Telemetry) : Prop where
  datasets : ∀ x, isProcess x = false → t.datasets.get? x = t'.datasets.get? x
  entries : ∀ x, isProcess x = false → t.deviceMap.get? x = t'.deviceMap.get? x

theorem Telemetry.SameDevices.ingestDevice {t t' : Telemetry}
    {item : SchemaItem} (h : t.SameDevices isProcess t') (hitem : isProcess item.ident = false) :
    (ingestDevice py writeEnabled t item).SameDevices isProcess
      (ingestDevice py writeEnabled t' item) := by
  have hcontains : t.datasets.contains item.ident = t'.datasets.contains item.ident := by
    simp only [OrderedDict.contains,h.datasets _ hitem]
  have hset : ∀ entry x, isProcess x = false → (t.deviceMap.set item.ident entry).get? x =
      (t'.deviceMap.set item.ident entry).get? x := by
    intro entry x hx
    simp only [get?_set,h.entries x hx]
  unfold Hdf.ingestDevice
  rw [hcontains]
  split
  next => exact ⟨h.datasets,fun x hx => by simp only [get?_erase_eq,h.entries x hx]⟩
  next entry hentry =>
    split
    next =>
      split
      next d hd =>
        exact ⟨fun x hx => by simp only [get?_set,h.datasets x hx],hset entry⟩
      next =>
        refine ⟨h.datasets,fun x hx => ?_⟩
        simp only [get?_erase_eq,hset entry x hx]
    next => exact ⟨h.datasets,hset entry⟩

variable (py) in
theorem Telemetry.SameDevices.ingestSchema (writeEnabled : String → Bool)
    {answer : List SchemaItem} {t t' : Telemetry} (h : t.SameDevices isProcess t')
    (hanswer : ∀ item ∈ answer, isProcess item.ident = false) :
    (ingestSchema py writeEnabled answer t).SameDevices isProcess
      (ingestSchema py writeEnabled answer t') := by
  have hrun : ∀ (items : List SchemaItem) (t t' : Telemetry), t.SameDevices isProcess t' →
      (∀ item ∈ items, isProcess item.ident = false) →
      (items.foldl (Hdf.ingestDevice py writeEnabled) t).SameDevices isProcess
        (items.foldl (Hdf.ingestDevice py writeEnabled) t') := by
    intro items
    induction items with
    | nil => exact fun t t' h _ => h
    | cons item rest ih =>
      exact fun t t' h hi => ih _ _ (h.ingestDevice (hi item (by simp)))
        fun i hi' => hi i (by simp [hi'])
  exact hrun answer _ _ ⟨h.datasets,fun _ _ => rfl⟩ hanswer

structure SameDevices (isProcess : String → Bool) (s s' : TelemetryState) : Prop where
  maps : s.maps.SameDevices isProcess s'.maps
  caches : s.caches = s'.caches
  disabled : s.disabledDevices = s'.disabledDevices
  group : s.telemetryGroup = s'.telemetryGroup

theorem SameDevices.contains {s s' : TelemetryState} (h : SameDevices isProcess s s')
    (hno : isProcess device = false) :
    s.maps.datasets.contains device = s'.maps.datasets.contains device := by
  simp only [OrderedDict.contains,h.maps.datasets _ hno]

theorem SameDevices.ensureDevice {s s' : TelemetryState}
    (h : SameDevices isProcess s s') (hno : isProcess device = false)
    (hanswer : ∀ answer, call.answer = some answer → ∀ item ∈ answer,
      isProcess item.ident = false) :
    (ensureDevice py call s device).1 = (ensureDevice py call s' device).1 ∧
      SameDevices isProcess (ensureDevice py call s device).2
        (ensureDevice py call s' device).2 := by
  unfold Hdf.ensureDevice
  rw [h.disabled,h.contains hno,h.group,h.caches]
  cases isEnabled s'.disabledDevices device with
  | false => exact ⟨rfl,h⟩
  | true =>
    cases s'.maps.datasets.contains device with
    | true => exact ⟨rfl,h⟩
    | false =>
      cases s'.telemetryGroup with
      | false => exact ⟨rfl,h⟩
      | true =>
        simp only [Bool.not_true,Bool.false_eq_true,if_false]
        split
        next => exact ⟨rfl,h⟩
        next =>
          split
          next => exact ⟨rfl,h⟩
          next =>
            cases hcall : call.answer with
            | none => exact ⟨rfl,h.maps,rfl,rfl,rfl⟩
            | some answer =>
              have hmaps := h.maps.ingestSchema py (isEnabled s'.disabledDevices) (hanswer answer hcall)
              have hcontains : (ingestSchema py (isEnabled s'.disabledDevices) answer
                  s.maps).datasets.contains device =
                    (ingestSchema py (isEnabled s'.disabledDevices) answer
                      s'.maps).datasets.contains device := by
                simp only [OrderedDict.contains,hmaps.datasets _ hno]
              simp only [hcontains]
              split
              next => exact ⟨rfl,hmaps,rfl,rfl,rfl⟩
              next => exact ⟨rfl,hmaps,rfl,rfl,rfl⟩

structure SameDeviceRows (isProcess : String → Bool) (s s' : Staged) : Prop where
  state : SameDevices isProcess s.state s'.state
  staging : ∀ x, isProcess x = false → s.staging.get? x = s'.staging.get? x

namespace SameDeviceRows

theorem of_process (capacity : Nat) (call : SchemaCall) {s : Staged}
    (hdevice : py.normalizeDeviceId (getD msg "device_id" .none) = some device)
    (hp : isProcess device = true) (hcontains : s.state.maps.datasets.contains device = true) :
    SameDeviceRows isProcess (s.row py capacity msg call) s := by
  have hne : ∀ x, isProcess x = false → x ≠ device := by
    rintro x hx rfl
    simp [hp] at hx
  have hsame : SameDeviceRows isProcess s s :=
    ⟨⟨⟨fun _ _ => rfl,fun _ _ => rfl⟩,rfl,rfl,rfl⟩,fun _ _ => rfl⟩
  simp only [Staged.row,hdevice,ensureDevice_of_quiet (asksSchema_of_contains hcontains),
    hcontains,Bool.and_true]
  cases isEnabled s.state.disabledDevices device with
  | false => exact hsame
  | true =>
    simp only []
    split
    next =>
      split
      next => exact hsame
      next =>
        split
        next =>
          refine ⟨⟨⟨fun x hx => ?_,fun _ _ => rfl⟩,rfl,rfl,rfl⟩,fun x hx => ?_⟩
          · simp [Staged.flush,get?_appendRows,hne x hx]
          · simp [Staged.flush,hne x hx]
        next =>
          refine ⟨⟨⟨fun _ _ => rfl,fun _ _ => rfl⟩,rfl,rfl,rfl⟩,fun x hx => ?_⟩
          simp [hne x hx]
    next => exact hsame

theorem symm (h : SameDeviceRows isProcess s s') : SameDeviceRows isProcess s' s :=
  ⟨⟨⟨fun x hx => (h.state.maps.datasets x hx).symm,fun x hx => (h.state.maps.entries x hx).symm⟩,
    h.state.caches.symm,h.state.disabled.symm,h.state.group.symm⟩,
    fun x hx => (h.staging x hx).symm⟩

theorem trans {s s' s'' : Staged} (h : SameDeviceRows isProcess s s')
    (h' : SameDeviceRows isProcess s' s'') : SameDeviceRows isProcess s s'' :=
  ⟨⟨⟨fun x hx => (h.state.maps.datasets x hx).trans (h'.state.maps.datasets x hx),
      fun x hx => (h.state.maps.entries x hx).trans (h'.state.maps.entries x hx)⟩,
    h.state.caches.trans h'.state.caches,h.state.disabled.trans h'.state.disabled,
    h.state.group.trans h'.state.group⟩,
    fun x hx => (h.staging x hx).trans (h'.staging x hx)⟩

theorem row_device (h : SameDeviceRows isProcess s s')
    (hdevice : py.normalizeDeviceId (getD msg "device_id" .none) = some device)
    (hno : isProcess device = false)
    (hanswer : ∀ answer, call.answer = some answer → ∀ item ∈ answer,
      isProcess item.ident = false) :
    SameDeviceRows isProcess (s.row py capacity msg call) (s'.row py capacity msg call) := by
  obtain ⟨hfst,hsnd⟩ := h.state.ensureDevice hno hanswer
  simp only [Staged.row,hdevice]
  generalize ensureDevice py call s.state device = r at hfst hsnd
  generalize ensureDevice py call s'.state device = r' at hfst hsnd
  obtain ⟨b,state⟩ := r
  obtain ⟨b',state'⟩ := r'
  simp only at hfst hsnd
  subst hfst
  cases b with
  | false => exact ⟨hsnd,h.staging⟩
  | true =>
    simp only [hsnd.maps.datasets device hno,hsnd.maps.entries device hno,h.staging device hno]
    split
    next =>
      split
      next => exact ⟨hsnd,h.staging⟩
      next =>
        split
        next =>
          refine ⟨⟨⟨fun x hx => ?_,hsnd.maps.entries⟩,hsnd.caches,hsnd.disabled,hsnd.group⟩,
            fun x hx => ?_⟩
          · simp only [Staged.flush,get?_appendRows,get?_set,if_true,
              hsnd.maps.datasets x hx,hsnd.maps.datasets device hno]
          · simp only [Staged.flush,get?_set,h.staging x hx]
        next =>
          refine ⟨hsnd,fun x hx => ?_⟩
          simp only [get?_set,h.staging x hx]
    next => exact ⟨hsnd,h.staging⟩

theorem row
    (h : SameDeviceRows isProcess s s') (hrow : RowHarmless py isProcess s.state msg call)
    (hrow' : RowHarmless py isProcess s'.state msg call) :
    SameDeviceRows isProcess (s.row py capacity msg call) (s'.row py capacity msg call) := by
  cases hdevice : py.normalizeDeviceId (getD msg "device_id" .none) with
  | none => simpa only [Staged.row,hdevice] using h
  | some device =>
    cases hp : isProcess device with
    | true =>
      have hleft := of_process capacity call hdevice hp
        (hrow.processes device hdevice hp)
      have hright := of_process capacity call hdevice hp
        (hrow'.processes device hdevice hp)
      exact (hleft.trans h).trans hright.symm
    | false => exact h.row_device hdevice hp hrow.devices

end SameDeviceRows

theorem SameDevices.batch {rows : List (Msg × SchemaCall)}
    {s s' : TelemetryState} (h : SameDevices isProcess s s')
    (hbatch : BatchHarmless py isProcess capacity rows ⟨s,.empty⟩)
    (hbatch' : BatchHarmless py isProcess capacity rows ⟨s',.empty⟩) {x : String}
    (hx : isProcess x = false) : (writeBufferedRowsBatch py capacity rows s).maps.datasets.get? x =
      (writeBufferedRowsBatch py capacity rows s').maps.datasets.get? x := by
  have hrows : ∀ (rows : List (Msg × SchemaCall)) (s s' : Staged), SameDeviceRows isProcess s s' →
      BatchHarmless py isProcess capacity rows s → BatchHarmless py isProcess capacity rows s' →
      SameDeviceRows isProcess (rows.foldl (fun (s : Staged) r => s.row py capacity r.1 r.2) s)
        (rows.foldl (fun (s : Staged) r => s.row py capacity r.1 r.2) s') := by
    intro rows
    induction rows with
    | nil => exact fun s s' h _ _ => h
    | cons r rest ih =>
      intro s s' h hb hb'
      simp only [foldl_cons]
      exact ih _ _ (h.row hb.1 hb'.1) hb.2 hb'.2
  cases hg : s.telemetryGroup with
  | false =>
    have hg' : s'.telemetryGroup = false := by rw [← h.group,hg]
    simpa [writeBufferedRowsBatch,hg,hg'] using h.maps.datasets x hx
  | true =>
    have hg' : s'.telemetryGroup = true := by rw [← h.group,hg]
    have hdone := hrows rows ⟨s,.empty⟩ ⟨s',.empty⟩ ⟨h,fun _ _ => rfl⟩ hbatch hbatch'
    have hleft := writeBufferedRowsBatch_get? py capacity rows hg x
    have hright := writeBufferedRowsBatch_get? py capacity rows hg' x
    simp only [hleft,hright,hdone.state.maps.datasets x hx,hdone.staging x hx]

end ExperimentControl.Hdf

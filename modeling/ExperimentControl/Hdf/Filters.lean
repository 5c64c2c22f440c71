import ExperimentControl.Hdf.Separation

/-!
The runs of the telemetry part of the writer: messages, batches handed over and written, toggles of
devices and processes, and files opened and closed.
-/

namespace ExperimentControl.Hdf
open Lib Python List

structure TelemetrySystem where
  state : TelemetryState
  queued : List (List Msg)

inductive TelemetryInput where
  | telemetryUpdate (msg : Msg)
  | processTelemetryUpdate (msg : Msg)
  | handOff
  /-- The background thread writes a batch; a schema request of the i-th row meets `calls i`. -/
  | write (calls : Nat → SchemaCall)
  | toggleDevices (disable : Bool) (ids : List String) (answer : Option (List SchemaItem))
  | toggleProcesses (disable : Bool) (ids : List String) (answer : Option (List SchemaItem))
  | configure (disabled : Option (List String)) (devices processes : Option (List SchemaItem))
  | reset

def withCalls (rows : List Msg) (calls : Nat → SchemaCall) : List (Msg × SchemaCall) :=
  rows.zipIdx.map fun r => (r.1,calls r.2)

/-- The disabled devices that a request to open a file names, or those of before. -/
def TelemetryState.disable (s : TelemetryState) (disabled : Option (List String)) :
    TelemetryState :=
  { s with disabledDevices := disabled.getD s.disabledDevices }

section
variable (py : Py) (capacity bound : Nat)

def TelemetrySystem.step (sys : TelemetrySystem) : TelemetryInput → TelemetrySystem
  | .telemetryUpdate msg => { sys with state := telemetryUpdate py bound msg sys.state }
  | .processTelemetryUpdate msg =>
    { sys with state := Hdf.processTelemetryUpdate py bound msg sys.state }
  | .handOff =>
    ⟨{ sys.state with buf := [] },sys.queued ++ [sys.state.buf]⟩
  | .write calls =>
    match sys.queued with
    | [] => sys
    | rows :: rest => ⟨writeBufferedRowsBatch py capacity (withCalls rows calls) sys.state,rest⟩
  | .toggleDevices disable ids answer =>
    { sys with state := Hdf.toggleDevices py disable ids answer sys.state }
  | .toggleProcesses disable ids answer =>
    { sys with state := Hdf.toggleProcesses py disable ids answer sys.state }
  | .configure disabled devices processes =>
    let state := sys.state.disable disabled
    let state := (state.clearBuffered py state.disabledDevices).configure py devices processes
    { sys with state := state.clearBuffered py state.disabledDevices }
  | .reset => { sys with state := sys.state.reset }

def TelemetrySystem.init (disabledDevices disabledProcesses : List String) : TelemetrySystem :=
  { state :=
      { maps := ⟨.empty,.empty⟩
        caches := ⟨.empty,.empty⟩
        disabledDevices := disabledDevices
        disabledProcesses := disabledProcesses
        knownProcessIds := []
        telemetryGroup := false
        processTelemetryGroup := false
        buf := [] }
    queued := [] }

def TelemetrySystem.run (sys : TelemetrySystem) (inputs : List TelemetryInput) :
    TelemetrySystem :=
  inputs.foldl (TelemetrySystem.step py capacity bound) sys

variable (isProcess : String → Bool)

def OnlyDevices (ids : List String) : Prop :=
  ∀ p, isProcess p = true → p ∉ ids ∧ strip p ∉ ids

def OnlyProcesses (ids : List String) : Prop :=
  ∀ x, isProcess x = false → x ∉ ids ∧ strip x ∉ ids

def Ingested (group disable : Bool) (ids disabled : List String) : Prop :=
  group = true ∧ disable = false ∧ changedIds disable ids disabled ≠ []

/-- No id is used for a device and for a process, and the schema answers that are ingested keep the
fields of the ids that have a dataset. -/
def TelemetryInput.Harmless (sys : TelemetrySystem) : TelemetryInput → Prop
  | .telemetryUpdate _ | .processTelemetryUpdate _ | .handOff | .reset => True
  | .write calls => ∀ rows ∈ sys.queued.head?,
      BatchHarmless py isProcess capacity (withCalls rows calls) ⟨sys.state,.empty⟩
  | .toggleDevices disable ids answer => OnlyDevices isProcess ids ∧
      (Ingested sys.state.telemetryGroup disable ids sys.state.disabledDevices →
        ∀ items ∈ answer, (∀ item ∈ items, isProcess item.ident = false) ∧
          KeepsDevices items sys.state.maps.datasets)
  | .toggleProcesses disable ids answer => OnlyProcesses isProcess ids ∧
      (Ingested sys.state.processTelemetryGroup disable ids sys.state.disabledProcesses →
        ∀ items ∈ answer, (∀ item ∈ items, isProcess item.ident = true) ∧
          KeepsProcesses items sys.state.maps.datasets)
  | .configure disabled devices processes =>
      (∀ ids ∈ disabled, OnlyDevices isProcess ids) ∧
      (∀ items ∈ devices, (∀ item ∈ items, isProcess item.ident = false) ∧ Agree items) ∧
      (∀ items ∈ processes, (∀ item ∈ items, isProcess item.ident = true) ∧ Agree items)

/-- The states of the runs whose inputs are all harmless. -/
inductive Reached : TelemetrySystem → Prop where
  | init {disabledDevices disabledProcesses : List String} :
      Reached (.init disabledDevices disabledProcesses)
  | step {sys : TelemetrySystem} {input : TelemetryInput} : Reached sys →
      input.Harmless py capacity isProcess sys → Reached (sys.step py capacity bound input)

/-- The buffered rows of the ids that `mine` holds for. -/
def rowsOf (mine : String → Bool) (buf : List Msg) : List Msg :=
  buf.filter fun msg => (py.normalizeDeviceId (getD msg "device_id" .none)).any mine

/-- A toggle of devices changes nothing for the rows of processes: not those in the buffer, not
whether a message gets there, and not what a batch puts into the datasets. -/
structure DevicesUnseen (s s' : TelemetryState) : Prop where
  buffered : rowsOf py isProcess s'.buf = rowsOf py isProcess s.buf
  admitted : ∀ msg, s.buf.length < bound →
    rowsOf py isProcess (processTelemetryUpdate py bound msg s').buf =
      rowsOf py isProcess (processTelemetryUpdate py bound msg s).buf
  written : ∀ rows, BatchHarmless py isProcess capacity rows ⟨s,.empty⟩ →
    BatchHarmless py isProcess capacity rows ⟨s',.empty⟩ → ∀ p, isProcess p = true →
      (writeBufferedRowsBatch py capacity rows s').maps.datasets.get? p =
        (writeBufferedRowsBatch py capacity rows s).maps.datasets.get? p

/-- A toggle of processes changes nothing for the rows of devices. -/
structure ProcessesUnseen (s s' : TelemetryState) : Prop where
  buffered : rowsOf py (fun x => !isProcess x) s'.buf = rowsOf py (fun x => !isProcess x) s.buf
  admitted : ∀ msg, s.buf.length < bound →
    rowsOf py (fun x => !isProcess x) (telemetryUpdate py bound msg s').buf =
      rowsOf py (fun x => !isProcess x) (telemetryUpdate py bound msg s).buf
  written : ∀ rows, BatchHarmless py isProcess capacity rows ⟨s,.empty⟩ →
    BatchHarmless py isProcess capacity rows ⟨s',.empty⟩ → ∀ x, isProcess x = false →
      (writeBufferedRowsBatch py capacity rows s').maps.datasets.get? x =
        (writeBufferedRowsBatch py capacity rows s).maps.datasets.get? x

end

section
variable {py : Py} {capacity bound : Nat} {isProcess : String → Bool}

variable {disable : Bool} {ident : String}

theorem mem_changedIds {ids disabled : List String}
    (h : ident ∈ changedIds disable ids disabled) : ident ∈ ids := by
  unfold changedIds at h
  split at h
  · exact (mem_filter.1 h).1
  · exact (mem_filter.1 h).1

theorem mem_toggled {ids disabled : List String}
    (h : ident ∉ ids) : ident ∈ toggled disable ids disabled ↔ ident ∈ disabled := by
  have hchanged : ident ∉ changedIds disable ids disabled := fun hc => h (mem_changedIds hc)
  unfold toggled
  split
  · simp [hchanged]
  · simp [h]

theorem isEnabled_toggled (disable : Bool) {ids : List String} (disabled : List String)
    (h : strip ident ∉ ids) :
    isEnabled (toggled disable ids disabled) ident = isEnabled disabled ident := by
  simp only [isEnabled,mem_toggled h]

variable {s : TelemetryState} {mine : String → Bool}

theorem rowsOf_clearBuffered {disabled : List String} (h : ∀ x, mine x = true → x ∉ disabled) :
    rowsOf py mine (s.clearBuffered py disabled).buf = rowsOf py mine s.buf := by
  simp only [rowsOf,TelemetryState.clearBuffered,filter_filter]
  apply filter_congr
  intro msg _
  unfold keepRow
  cases py.normalizeDeviceId (getD msg "device_id" .none) with
  | none => rfl
  | some x =>
    cases hx : mine x with
    | false => simp [hx]
    | true => simp [hx,h x hx]

variable (py) in
theorem toggleDevices_cases (disable : Bool) (ids : List String)
    (answer : Option (List SchemaItem)) (s : TelemetryState) :
    let s₁ := { s with disabledDevices := toggled disable ids s.disabledDevices }
    toggleDevices py disable ids answer s = s₁ ∨
      toggleDevices py disable ids answer s =
        s₁.clearBuffered py (changedIds disable ids s.disabledDevices) ∨
      ∃ items, answer = some items ∧
        Ingested s.telemetryGroup disable ids s.disabledDevices ∧
        toggleDevices py disable ids answer s =
          { s₁ with maps := ingestSchema py (isEnabled s₁.disabledDevices) items s.maps } := by
  simp only [toggleDevices]
  split
  next => exact .inl rfl
  next hchanged =>
    cases disable with
    | true => exact .inr (.inl rfl)
    | false =>
      cases answer with
      | none => exact .inl rfl
      | some items =>
        cases hgroup : s.telemetryGroup with
        | false => exact .inl rfl
        | true => exact .inr (.inr ⟨items,rfl,⟨rfl,rfl,hchanged⟩,rfl⟩)

variable (py) in
theorem toggleProcesses_cases (disable : Bool) (ids : List String)
    (answer : Option (List SchemaItem)) (s : TelemetryState) :
    let s₁ := { s with disabledProcesses := toggled disable ids s.disabledProcesses }
    toggleProcesses py disable ids answer s = s₁ ∨
      toggleProcesses py disable ids answer s =
        s₁.clearBuffered py (changedIds disable ids s.disabledProcesses) ∨
      ∃ items, answer = some items ∧
        Ingested s.processTelemetryGroup disable ids s.disabledProcesses ∧
        toggleProcesses py disable ids answer s = s₁.ingestProcesses py items := by
  simp only [toggleProcesses]
  split
  next => exact .inl rfl
  next hchanged =>
    cases disable with
    | true => exact .inr (.inl rfl)
    | false =>
      cases answer with
      | none => exact .inl rfl
      | some items =>
        cases hgroup : s.processTelemetryGroup with
        | false => exact .inl rfl
        | true => exact .inr (.inr ⟨items,rfl,⟨rfl,rfl,hchanged⟩,rfl⟩)

variable (py) in
theorem buf_toggleDevices (disable : Bool) {ids : List String}
    (answer : Option (List SchemaItem)) (s : TelemetryState) (h : ∀ x, mine x = true → x ∉ ids) :
    rowsOf py mine (toggleDevices py disable ids answer s).buf = rowsOf py mine s.buf ∧
      (toggleDevices py disable ids answer s).buf.length ≤ s.buf.length := by
  rcases toggleDevices_cases py disable ids answer s with heq | heq | ⟨items,-,-,heq⟩
  · simp [heq]
  · rw [heq]
    exact ⟨rowsOf_clearBuffered fun x hx hc => h x hx (mem_changedIds hc),
      length_filter_le _ _⟩
  · simp [heq]

variable (py) in
theorem buf_toggleProcesses (disable : Bool) {ids : List String}
    (answer : Option (List SchemaItem)) (s : TelemetryState) (h : ∀ x, mine x = true → x ∉ ids) :
    rowsOf py mine (toggleProcesses py disable ids answer s).buf = rowsOf py mine s.buf ∧
      (toggleProcesses py disable ids answer s).buf.length ≤ s.buf.length := by
  rcases toggleProcesses_cases py disable ids answer s with heq | heq | ⟨items,-,-,heq⟩
  · simp [heq]
  · rw [heq]
    exact ⟨rowsOf_clearBuffered fun x hx hc => h x hx (mem_changedIds hc),
      length_filter_le _ _⟩
  · simp [heq,TelemetryState.ingestProcesses]

theorem rowsOf_bufferAppend {buf buf' : List Msg} (msg : Msg)
    (h : rowsOf py mine buf' = rowsOf py mine buf ∧ buf'.length ≤ buf.length)
    (hbuf : buf.length < bound) :
    rowsOf py mine (bufferAppend bound buf' msg) = rowsOf py mine (bufferAppend bound buf msg) := by
  have hne := Nat.ne_of_lt hbuf
  have hne' := Nat.ne_of_lt (Nat.lt_of_le_of_lt h.2 hbuf)
  have hrows := h.1
  simp only [bufferAppend,hne,hne',if_false]
  simp only [rowsOf,filter_append] at hrows ⊢
  rw [hrows]

theorem TelemetryState.ingestProcesses_consistent {items : List SchemaItem}
    (h : s.maps.Consistent py) (hkeeps : KeepsProcesses items s.maps.datasets) :
    (s.ingestProcesses py items).maps.Consistent py :=
  ingestProcessSchema_consistent h hkeeps

variable {answer : Option (List SchemaItem)}

theorem toggleDevices_consistent {ids : List String} (h : s.maps.Consistent py)
    (hkeeps : Ingested s.telemetryGroup disable ids s.disabledDevices → ∀ items ∈ answer,
      KeepsDevices items s.maps.datasets) :
    (toggleDevices py disable ids answer s).maps.Consistent py := by
  rcases toggleDevices_cases py disable ids answer s with
    heq | heq | ⟨items,hanswer,hingested,heq⟩
  · rw [heq]
    exact h
  · rw [heq]
    exact h
  · rw [heq]
    exact ingestSchema_consistent h (hkeeps hingested items hanswer)

theorem toggleProcesses_consistent {ids : List String} (h : s.maps.Consistent py)
    (hkeeps : Ingested s.processTelemetryGroup disable ids s.disabledProcesses → ∀ items ∈ answer,
      KeepsProcesses items s.maps.datasets) :
    (toggleProcesses py disable ids answer s).maps.Consistent py := by
  rcases toggleProcesses_cases py disable ids answer s with
    heq | heq | ⟨items,hanswer,hingested,heq⟩
  · rw [heq]
    exact h
  · rw [heq]
    exact h
  · rw [heq]
    exact TelemetryState.ingestProcesses_consistent h (hkeeps hingested items hanswer)

theorem ingestProcesses_if_given {processes : Option (List SchemaItem)}
    (hprocesses : ∀ items ∈ processes, (∀ item ∈ items, isProcess item.ident = true) ∧ Agree items)
    (h : s.maps.Consistent py) (hno : ∀ p, isProcess p = true → s.maps.datasets.get? p = none) :
    (match processes with
      | some answer => s.ingestProcesses py answer
      | none => s).maps.Consistent py := by
  cases hp : processes with
  | none => exact h
  | some items =>
    have hitems := hprocesses items hp
    refine TelemetryState.ingestProcesses_consistent h ⟨?_,hitems.2⟩
    intro item hitem d hd
    simp [hno item.ident (hitems.1 item hitem)] at hd

theorem configure_consistent {devices processes : Option (List SchemaItem)}
    (hdevices : ∀ items ∈ devices, (∀ item ∈ items, isProcess item.ident = false) ∧ Agree items)
    (hprocesses : ∀ items ∈ processes,
      (∀ item ∈ items, isProcess item.ident = true) ∧ Agree items) :
    (s.configure py devices processes).maps.Consistent py := by
  unfold TelemetryState.configure
  apply ingestProcesses_if_given hprocesses
  · cases hd : devices with
    | none => exact Telemetry.Consistent.empty
    | some items =>
      exact ingestSchema_consistent Telemetry.Consistent.empty
        ⟨by simp,by simp,(hdevices items hd).2⟩
  · intro p hp
    cases hd : devices with
    | none => rfl
    | some items =>
      apply ingestSchema_other
      rintro item hitem rfl
      have hno := (hdevices items hd).1 item hitem
      simp [hp] at hno

variable {sys : TelemetrySystem}

theorem TelemetrySystem.step_consistent {input : TelemetryInput}
    (h : sys.state.maps.Consistent py) (hinput : input.Harmless py capacity isProcess sys) :
    (sys.step py capacity bound input).state.maps.Consistent py := by
  cases input with
  | telemetryUpdate msg =>
    simp only [TelemetrySystem.step,telemetryUpdate]
    split <;> exact h
  | processTelemetryUpdate msg =>
    simp only [TelemetrySystem.step,Hdf.processTelemetryUpdate]
    split
    · exact h
    · split <;> exact h
  | handOff => exact h
  | write calls =>
    simp only [TelemetrySystem.step]
    split
    · exact h
    next rows rest hqueued =>
      exact writeBufferedRowsBatch_consistent h (hinput rows (by simp [hqueued]))
  | toggleDevices disable ids answer =>
    exact toggleDevices_consistent h fun hi items hitems => (hinput.2 hi items hitems).2
  | toggleProcesses disable ids answer =>
    exact toggleProcesses_consistent h fun hi items hitems => (hinput.2 hi items hitems).2
  | configure disabled devices processes => exact configure_consistent hinput.2.1 hinput.2.2
  | reset => exact Telemetry.Consistent.empty

theorem Reached.consistent (h : Reached py capacity bound isProcess sys) :
    sys.state.maps.Consistent py := by
  induction h with
  | init => exact Telemetry.Consistent.empty
  | step _ hinput ih => exact TelemetrySystem.step_consistent ih hinput

variable (py) in
theorem ingestProcess_other (writeEnabled : String → Bool) (t : Telemetry) {item : SchemaItem}
    (h : isProcess item.ident = true) :
    (ingestProcess py writeEnabled t item).SameDevices isProcess t := by
  have hne : ∀ x, isProcess x = false → x ≠ item.ident := by
    rintro x hx rfl
    simp [h] at hx
  unfold ingestProcess
  split
  · exact ⟨fun _ _ => rfl,fun _ _ => rfl⟩
  · split
    · exact ⟨fun _ _ => rfl,fun x hx => by simp [OrderedDict.get?_erase_eq,hne x hx]⟩
    · split
      · exact ⟨fun _ _ => rfl,fun _ _ => rfl⟩
      · simp only []
        split
        · split
          · exact ⟨fun x hx => by simp [hne x hx],fun x hx => by simp [hne x hx]⟩
          · exact ⟨fun _ _ => rfl,fun x hx => by simp [OrderedDict.get?_erase_eq,hne x hx]⟩
        · exact ⟨fun _ _ => rfl,fun x hx => by simp [hne x hx]⟩

theorem ingestProcessSchema_other {writeEnabled : String → Bool} {items : List SchemaItem}
    {t : Telemetry} (h : ∀ item ∈ items, isProcess item.ident = true) :
    (ingestProcessSchema py writeEnabled items t).SameDevices isProcess t := by
  unfold ingestProcessSchema
  induction items generalizing t with
  | nil => exact ⟨fun _ _ => rfl,fun _ _ => rfl⟩
  | cons item rest ih =>
    have hrest := ih (t := ingestProcess py writeEnabled t item) fun i hi => h i (by simp [hi])
    have hitem := ingestProcess_other py writeEnabled t (h item (by simp))
    exact ⟨fun x hx => (hrest.datasets x hx).trans (hitem.datasets x hx),
      fun x hx => (hrest.entries x hx).trans (hitem.entries x hx)⟩

theorem toggleDevices_sameProcesses {ids : List String} (hids : OnlyDevices isProcess ids)
    (hanswer : Ingested s.telemetryGroup disable ids s.disabledDevices → ∀ items ∈ answer,
      ∀ item ∈ items, isProcess item.ident = false) :
    SameProcesses isProcess ⟨toggleDevices py disable ids answer s,.empty⟩ ⟨s,.empty⟩ ∧
      (toggleDevices py disable ids answer s).telemetryGroup = s.telemetryGroup := by
  have henabled := fun p (hp : isProcess p = true) =>
    isEnabled_toggled disable s.disabledDevices (hids p hp).2
  rcases toggleDevices_cases py disable ids answer s with
    heq | heq | ⟨items,hsome,hingested,heq⟩
  · rw [heq]
    exact ⟨⟨fun _ _ => rfl,fun _ _ => rfl,henabled⟩,rfl⟩
  · rw [heq]
    exact ⟨⟨fun _ _ => rfl,fun _ _ => rfl,henabled⟩,rfl⟩
  · rw [heq]
    refine ⟨⟨fun p hp => ?_,fun _ _ => rfl,henabled⟩,rfl⟩
    apply ingestSchema_other
    rintro item hitem rfl
    have hno := hanswer hingested items hsome item hitem
    simp [hp] at hno

variable (py) in
theorem toggleProcesses_sameDevices {ids : List String}
    (hanswer : Ingested s.processTelemetryGroup disable ids s.disabledProcesses →
      ∀ items ∈ answer, ∀ item ∈ items, isProcess item.ident = true) :
    SameDevices isProcess (toggleProcesses py disable ids answer s) s := by
  rcases toggleProcesses_cases py disable ids answer s with
    heq | heq | ⟨items,hsome,hingested,heq⟩
  · rw [heq]
    exact ⟨⟨fun _ _ => rfl,fun _ _ => rfl⟩,rfl,rfl,rfl⟩
  · rw [heq]
    exact ⟨⟨fun _ _ => rfl,fun _ _ => rfl⟩,rfl,rfl,rfl⟩
  · rw [heq]
    exact ⟨ingestProcessSchema_other (hanswer hingested items hsome),rfl,rfl,rfl⟩

theorem toggleDevices_unseen {ids : List String} (h : sys.state.maps.Consistent py)
    (hinput : (TelemetryInput.toggleDevices disable ids answer).Harmless py capacity isProcess sys) :
    DevicesUnseen py capacity bound isProcess sys.state
      (toggleDevices py disable ids answer sys.state) := by
  obtain ⟨hids,hanswer⟩ := hinput
  have hbuf := buf_toggleDevices py disable answer sys.state fun p hp => (hids p hp).1
  have hafter := toggleDevices_consistent h
    fun hi items hitems => (hanswer hi items hitems).2
  obtain ⟨hsame,hgroup⟩ := toggleDevices_sameProcesses
    (s := sys.state) hids fun hi items hitems => (hanswer hi items hitems).1
  refine ⟨hbuf.1,?_,?_⟩
  · intro msg hroom
    have hfilter : (toggleDevices py disable ids answer sys.state).disabledProcesses =
        sys.state.disabledProcesses := by
      rcases toggleDevices_cases py disable ids answer sys.state with
        heq | heq | ⟨items,-,-,heq⟩
      · rw [heq]
      · rw [heq]; rfl
      · rw [heq]
    simp only [processTelemetryUpdate,hfilter]
    split
    · exact hbuf.1
    · split
      · exact rowsOf_bufferAppend _ hbuf hroom
      · exact hbuf.1
  · intro rows hbatch hbatch' p hp
    exact hsame.batch hgroup hafter h hbatch' hbatch hp

theorem toggleProcesses_unseen {ids : List String}
    (hinput : (TelemetryInput.toggleProcesses disable ids answer).Harmless py capacity isProcess
      sys) : ProcessesUnseen py capacity bound isProcess sys.state
      (toggleProcesses py disable ids answer sys.state) := by
  obtain ⟨hids,hanswer⟩ := hinput
  have hbuf := @buf_toggleProcesses py (fun x => !isProcess x) disable ids answer sys.state
    fun x hx => (hids x (by simpa using hx)).1
  have hsame := toggleProcesses_sameDevices py (s := sys.state)
    fun hi items hitems => (hanswer hi items hitems).1
  refine ⟨hbuf.1,?_,?_⟩
  · intro msg hroom
    simp only [telemetryUpdate,hsame.disabled]
    split
    · exact rowsOf_bufferAppend _ hbuf hroom
    · exact hbuf.1
  · intro rows hbatch hbatch' x hx
    exact hsame.batch hbatch' hbatch hx

/-- In a run that uses no id for a device and for a process, and whose schema answers keep the
fields of the ids that have a dataset, every dataset has its entry, and the two filters do not see
each other. -/
theorem write_maps_agree {sys : TelemetrySystem} (h : Reached py capacity bound isProcess sys) :
    sys.state.maps.Consistent py ∧ (∀ disable ids answer,
        (TelemetryInput.toggleDevices disable ids answer).Harmless py capacity isProcess sys →
          DevicesUnseen py capacity bound isProcess sys.state
            (toggleDevices py disable ids answer sys.state)) ∧ (∀ disable ids answer,
        (TelemetryInput.toggleProcesses disable ids answer).Harmless py capacity isProcess sys →
          ProcessesUnseen py capacity bound isProcess sys.state
            (toggleProcesses py disable ids answer sys.state)) :=
  ⟨h.consistent,fun _ _ _ hinput => toggleDevices_unseen h.consistent hinput,
    fun _ _ _ hinput => toggleProcesses_unseen hinput⟩

end

def plainPy : Py where
  repr _ := ""
  floatOfInt _ := none
  floatOfText _ := none
  intOfFloat _ := none
  intOfText _ := none
  intOfLiteral _ := none
  roundFloat32 bits := bits
  groupName name := name ≠ ""

def laserItem : SchemaItem := ⟨"laser",some ⟨["power"],["float64"],["mW"]⟩⟩
def lockItem : SchemaItem := ⟨"lock",some ⟨["error"],["float64"],["V"]⟩⟩

def switchedOff : TelemetrySystem :=
  ((TelemetrySystem.init [] []).step plainPy 1024 8
      (.configure none (some [laserItem]) (some [lockItem]))).step plainPy 1024 8
    (.toggleDevices true ["laser"] none)

theorem agree_singleton (item : SchemaItem) : Agree [item] := by
  intro i hi j hj _ e he
  rw [mem_singleton.1 hi] at he
  exact ⟨e,by rw [mem_singleton.1 hj,he],rfl,rfl⟩

theorem reached_switchedOff : Reached plainPy 1024 8 (fun x => x = "lock") switchedOff := by
  refine Reached.step (Reached.step Reached.init ⟨by simp,?_,?_⟩) ⟨?_,?_⟩
  · simp [agree_singleton,laserItem]
  · simp [agree_singleton,lockItem]
  · intro p hp
    have hp : p = "lock" := by simpa using hp
    subst hp
    decide
  · rintro ⟨-,hdisable,-⟩
    simp at hdisable

theorem write_maps_agree_switchedOff : switchedOff.state.maps.datasets.contains "lock" = true ∧
      switchedOff.state.maps.Consistent plainPy :=
  ⟨by decide,(write_maps_agree reached_switchedOff).1⟩

def switchedOn : TelemetrySystem :=
  switchedOff.step plainPy 1024 8 (.toggleDevices false ["laser"] (some [laserItem]))

def sharedId : TelemetrySystem :=
  (TelemetrySystem.init [] []).run plainPy 1024 8
    [.configure none none (some [laserItem]),.processTelemetryUpdate [("process_id",.str "laser")],
      .handOff]

def TelemetrySystem.laserRows (sys : TelemetrySystem) : Option Nat :=
  let sys := sys.step plainPy 1024 8 (.write fun _ => ⟨0,none⟩)
  (sys.state.maps.datasets.get? "laser").map (·.rows.length)

theorem write_maps_diverge : (switchedOn.state.maps.datasets.contains "lock" = true ∧
      switchedOn.state.maps.deviceMap.get? "lock" = none) ∧ sharedId.laserRows = some 1 ∧
      (sharedId.step plainPy 1024 8 (.toggleDevices true ["laser"] none)).laserRows = some 0 := by
  refine ⟨?_,?_,?_⟩
  · decide
  · decide
  · decide

end ExperimentControl.Hdf

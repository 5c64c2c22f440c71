import ExperimentControl.Hdf.Separation

/-!
The telemetry rows of a batch: the staging arrays do not show in the datasets, each of which gets
the rows of its own device in their order.
-/

namespace ExperimentControl.Hdf
open Lib Python OrderedDict List Option Bool

def Telemetry.rows (t : Telemetry) (ident : String) : List Cells :=
  ((t.datasets.get? ident).map (·.rows)).getD []

section
variable (py : Py)

def rowTarget (call : SchemaCall) (s : TelemetryState) (msg : Msg) :
    Option String × TelemetryState :=
  match py.normalizeDeviceId (getD msg "device_id" .none) with
  | none => (none,s)
  | some device =>
    match ensureDevice py call s device with
    | (true,s) => (some device,s)
    | (false,s) => (none,s)

def ownCells (s : TelemetryState) (device : String) (msg : Msg) : Option Cells := do
  let d ← s.maps.datasets.get? device
  convertRow py d.schema d.fields msg

/-- A row by the entry that `_device_map` has at the time. -/
def mappedCells (s : TelemetryState) (device : String) (msg : Msg) : Option Cells := do
  let d ← s.maps.datasets.get? device
  let info ← s.maps.deviceMap.get? device
  convertRow py info d.fields msg

def telemetryRows (cells : TelemetryState → String → Msg → Option Cells) :
    List (Msg × SchemaCall) → TelemetryState → List (String × Cells)
  | [],_ => []
  | (msg,call) :: rest,s =>
    let (device,s) := rowTarget py call s msg
    (device.bind fun device => (cells s device msg).map fun c => (device,c)).toList ++
      telemetryRows cells rest s

/-- Row by row: the entry of `_device_map` at a row's turn converts it as its dataset's schema does. -/
def ConvertAlike : List (Msg × SchemaCall) → TelemetryState → Prop
  | [],_ => True
  | (msg,call) :: rest,s =>
    (∀ ident ∈ (rowTarget py call s msg).1, mappedCells py (rowTarget py call s msg).2 ident msg =
      ownCells py (rowTarget py call s msg).2 ident msg) ∧
    ConvertAlike rest (rowTarget py call s msg).2

end

def rowsFor (ident : String) (rows : List (String × Cells)) : List Cells :=
  (rows.filter fun r => r.1 = ident).map Prod.snd

theorem ConvertAlike.telemetryRows {py : Py} {rows : List (Msg × SchemaCall)} {s : TelemetryState}
    (h : ConvertAlike py rows s) :
    telemetryRows py (mappedCells py) rows s = telemetryRows py (ownCells py) rows s := by
  induction rows generalizing s with
  | nil => rfl
  | cons row rest ih =>
    obtain ⟨msg,call⟩ := row
    rw [ConvertAlike] at h
    rw [Hdf.telemetryRows,Hdf.telemetryRows]
    generalize rowTarget py call s msg = target at h
    obtain ⟨device,s'⟩ := target
    dsimp only at h ⊢
    rw [ih h.2]
    cases device with
    | none => rfl
    | some ident => rw [Option.bind_some,Option.bind_some,h.1 ident rfl]

theorem rowsFor_append (ident : String) (rows rows' : List (String × Cells)) :
    rowsFor ident (rows ++ rows') = rowsFor ident rows ++ rowsFor ident rows' := by
  simp [rowsFor]

def TelemetryDataset.bare (d : TelemetryDataset) : TelemetryDataset := { d with rows := [] }

def Telemetry.bare (t : Telemetry) : Telemetry :=
  { t with datasets := t.datasets.mapValues fun _ d => d.bare }

def TelemetryState.bare (s : TelemetryState) : TelemetryState :=
  { s with maps := s.maps.bare, buf := [] }

@[simp] theorem TelemetryState.bare_disabledDevices (s : TelemetryState) :
    s.bare.disabledDevices = s.disabledDevices := rfl

variable {py : Py}

theorem createDeviceDataset_rows {source : Source} {ident : String} {entry : Entry}
    {d : TelemetryDataset} (h : createDeviceDataset py source ident entry = some d) :
    d.rows = [] := by
  simp only [createDeviceDataset,bind_eq_bind,bind_eq_some_iff] at h
  obtain ⟨-,-,-,-,types,-,-,-,hd⟩ := h
  cases hd
  rfl

variable (enabled : String → Bool)

theorem ingestDevice_bare (t : Telemetry) (item : SchemaItem) :
    ingestDevice py enabled t.bare item = (ingestDevice py enabled t item).bare := by
  unfold ingestDevice
  cases item.entry with
  | none => rfl
  | some entry =>
    simp only [Telemetry.bare,contains_mapValues]
    split
    · cases hcreate : createDeviceDataset py .device item.ident entry with
      | none => rfl
      | some d =>
        have hbare : d.bare = d := by
          rw [TelemetryDataset.bare,← createDeviceDataset_rows hcreate]
        simp [mapValues_set,hbare]
    · rfl

theorem ingestSchema_bare (answer : List SchemaItem) (t : Telemetry) :
    ingestSchema py enabled answer t.bare = (ingestSchema py enabled answer t).bare := by
  have hrun : ∀ (items : List SchemaItem) (t : Telemetry),
      items.foldl (ingestDevice py enabled) t.bare =
        (items.foldl (ingestDevice py enabled) t).bare := by
    intro items
    induction items with
    | nil => exact fun t => rfl
    | cons item rest ih =>
      intro t
      rw [foldl_cons,ingestDevice_bare,ih,foldl_cons]
  exact hrun answer { t with deviceMap := .empty }

variable (call : SchemaCall)

theorem ensureDevice_bare (s : TelemetryState) (device : String) :
    ensureDevice py call s.bare device =
      ((ensureDevice py call s device).1,(ensureDevice py call s device).2.bare) := by
  have hcontains : s.bare.maps.datasets.contains device = s.maps.datasets.contains device :=
    contains_mapValues _ _ _
  cases hasks : asksSchema call s device with
  | false =>
    have hbare : asksSchema call s.bare device = false := by
      rw [← hasks]
      simp only [asksSchema,hcontains]
      rfl
    rw [ensureDevice_of_quiet hasks,ensureDevice_of_quiet hbare,hcontains]
    rfl
  | true =>
    simp only [asksSchema,and_eq_true,not_eq_true'] at hasks
    obtain ⟨⟨⟨⟨henabled,hmissing⟩,hgroup⟩,habsent⟩,herror⟩ := hasks
    rw [hmissing] at hcontains
    simp only [ensureDevice,hcontains]
    simp only [TelemetryState.bare,henabled,hmissing,hgroup,habsent,herror]
    cases call.answer with
    | none => rfl
    | some answer =>
      simp only [ingestSchema_bare]
      simp only [Telemetry.bare,contains_mapValues]
      cases (ingestSchema py (isEnabled s.disabledDevices) answer s.maps).datasets.contains
        device with
      | false => rfl
      | true => rfl

theorem rowTarget_bare (s : TelemetryState) (msg : Msg) : rowTarget py call s.bare msg =
      ((rowTarget py call s msg).1,(rowTarget py call s msg).2.bare) := by
  unfold rowTarget
  cases py.normalizeDeviceId (getD msg "device_id" .none) with
  | none => rfl
  | some device =>
    simp only [ensureDevice_bare]
    rcases ensureDevice py call s device with ⟨ok,s'⟩
    cases ok with
    | false => rfl
    | true => rfl

theorem mappedCells_bare (s : TelemetryState) (device : String) (msg : Msg) :
    mappedCells py s.bare device msg = mappedCells py s device msg := by
  simp only [mappedCells,TelemetryState.bare,Telemetry.bare,get?_mapValues]
  cases s.maps.datasets.get? device with
  | none => rfl
  | some d => rfl

theorem telemetryRows_bare {cells : TelemetryState → String → Msg → Option Cells}
    (hcells : ∀ s device msg, cells s.bare device msg = cells s device msg)
    (rows : List (Msg × SchemaCall)) (s : TelemetryState) :
    telemetryRows py cells rows s.bare = telemetryRows py cells rows s := by
  induction rows generalizing s with
  | nil => rfl
  | cons r rest ih =>
    obtain ⟨msg,call⟩ := r
    simp only [telemetryRows,rowTarget_bare,ih,hcells]

theorem telemetryRows_congr {cells : TelemetryState → String → Msg → Option Cells}
    (hcells : ∀ s device msg, cells s.bare device msg = cells s device msg)
    (rows : List (Msg × SchemaCall)) {s s' : TelemetryState} (h : s.bare = s'.bare) :
    telemetryRows py cells rows s = telemetryRows py cells rows s' := by
  rw [← telemetryRows_bare hcells,h,telemetryRows_bare hcells]

def Staged.rows (s : Staged) (ident : String) : List Cells :=
  s.state.maps.rows ident ++ (s.staging.get? ident).getD []

def Staged.Based (s : Staged) : Prop :=
  ∀ ident, s.state.maps.datasets.contains ident = false → s.staging.get? ident = none

variable (py) in
theorem ingestDevice_rows (t : Telemetry) (item : SchemaItem) (ident : String) :
    (ingestDevice py enabled t item).rows ident = t.rows ident ∧ (t.datasets.contains ident = true →
        (ingestDevice py enabled t item).datasets.contains ident = true) := by
  unfold ingestDevice
  cases item.entry with
  | none => exact ⟨rfl,id⟩
  | some entry =>
    simp only
    split
    next hnew =>
      cases hcreate : createDeviceDataset py .device item.ident entry with
      | none => exact ⟨rfl,id⟩
      | some d =>
        simp only [and_eq_true,not_eq_true',contains_eq_false] at hnew
        simp only [Telemetry.rows,OrderedDict.contains,get?_set]
        split
        next heq =>
          subst heq
          simp [hnew.1.2,createDeviceDataset_rows hcreate]
        next => exact ⟨rfl,id⟩
    next => exact ⟨rfl,id⟩

theorem ingestSchema_rows (answer : List SchemaItem) (t : Telemetry) (ident : String) :
    (ingestSchema py enabled answer t).rows ident = t.rows ident ∧
      (t.datasets.contains ident = true →
        (ingestSchema py enabled answer t).datasets.contains ident = true) := by
  have hrun : ∀ (items : List SchemaItem) (t : Telemetry),
      (items.foldl (ingestDevice py enabled) t).rows ident = t.rows ident ∧
        (t.datasets.contains ident = true →
          (items.foldl (ingestDevice py enabled) t).datasets.contains ident = true) := by
    intro items
    induction items with
    | nil => exact fun t => ⟨rfl,id⟩
    | cons item rest ih =>
      intro t
      have hitem := ingestDevice_rows py enabled t item ident
      have hrest := ih (ingestDevice py enabled t item)
      exact ⟨hrest.1.trans hitem.1,fun h => hrest.2 (hitem.2 h)⟩
  exact hrun answer _

variable (py) in
theorem ensureDevice_rows (s : TelemetryState) (device ident : String) :
    (ensureDevice py call s device).2.maps.rows ident = s.maps.rows ident ∧
      (s.maps.datasets.contains ident = true →
        (ensureDevice py call s device).2.maps.datasets.contains ident = true) := by
  cases hasks : asksSchema call s device with
  | false =>
    rw [ensureDevice_of_quiet hasks]
    exact ⟨rfl,id⟩
  | true =>
    obtain ⟨b,caches,⟨heq,-⟩ | ⟨answer,-,heq,-⟩⟩ := ensureDevice_of_asks hasks
    · rw [heq]
      exact ⟨rfl,id⟩
    · rw [heq]
      exact ingestSchema_rows _ _ _ _

variable {device : String}

theorem ensureDevice_contains {call : SchemaCall} {s s' : TelemetryState}
    (h : ensureDevice py call s device = (true,s')) :
    s'.maps.datasets.contains device = true := by
  cases hasks : asksSchema call s device with
  | false =>
    rw [ensureDevice_of_quiet hasks] at h
    simp only [Prod.mk.injEq,and_eq_true] at h
    rw [← h.2]
    exact h.1.2
  | true =>
    obtain ⟨b,caches,⟨heq,-,hb⟩ | ⟨answer,-,heq,hb⟩⟩ := ensureDevice_of_asks hasks
    · rw [heq] at h
      simp [hb] at h
    · rw [heq] at h
      simp only [Prod.mk.injEq] at h
      rw [← h.2,← h.1,hb]

theorem rowTarget_eq {call : SchemaCall} {s : TelemetryState} {msg : Msg}
    (hdevice : py.normalizeDeviceId (getD msg "device_id" .none) = some device) :
    rowTarget py call s msg = (if (ensureDevice py call s device).1 then some device else none,
        (ensureDevice py call s device).2) := by
  simp only [rowTarget,hdevice]
  rcases ensureDevice py call s device with ⟨ok,s'⟩
  cases ok with
  | false => rfl
  | true => rfl

theorem Staged.flush_rows {s : Staged}
    (hd : s.state.maps.datasets.contains device = true) (ident : String) :
    (s.flush device).rows ident = s.rows ident := by
  obtain ⟨d,hget⟩ := contains_eq_true.1 hd
  simp only [rows,flush,Telemetry.rows,get?_appendRows,get?_set]
  by_cases hident : ident = device
  · subst hident
    simp [hget,TelemetryDataset.append]
  · simp [hident]

theorem bare_appendRows (datasets : OrderedDict String TelemetryDataset) (device : String)
    (rows : List Cells) :
    (appendRows datasets device rows).mapValues (fun _ d => d.bare) =
      datasets.mapValues fun _ d => d.bare := by
  unfold appendRows
  cases hget : datasets.get? device with
  | none => rfl
  | some d =>
    have hbare : (datasets.mapValues fun _ d => d.bare).get? device = some (d.append rows).bare := by
      rw [get?_mapValues,hget]
      rfl
    simp only
    rw [mapValues_set]
    exact set_of_get? _ _ _ hbare

theorem Staged.flush_bare (s : Staged) (device : String) :
    (s.flush device).state.bare = s.state.bare := by
  simp only [flush,TelemetryState.bare,Telemetry.bare,bare_appendRows]

theorem Staged.Based.flush {s : Staged} (h : s.Based)
    (hd : s.state.maps.datasets.contains device = true) : (s.flush device).Based := by
  intro ident hident
  have hne : ident ≠ device := by
    intro heq
    subst heq
    obtain ⟨d,hget⟩ := contains_eq_true.1 hd
    simp [Staged.flush,get?_appendRows,hget,OrderedDict.contains] at hident
  have hmissing : s.state.maps.datasets.contains ident = false := by
    simpa [Staged.flush,get?_appendRows,OrderedDict.contains,hne] using hident
  simp [Staged.flush,hne,h ident hmissing]

variable (capacity : Nat)

theorem Staged.row_eq_match {s : Staged} {msg : Msg} {call : SchemaCall} {device : String}
    (hdevice : py.normalizeDeviceId (getD msg "device_id" .none) = some device) {state : TelemetryState}
    (hensure : ensureDevice py call s.state device = (true,state)) :
    s.row py capacity msg call = match mappedCells py state device msg with
      | none => { s with state := state }
      | some cells =>
        let rows := (s.staging.get? device).getD []
        let s : Staged := ⟨state,s.staging.set device (rows ++ [cells])⟩
        if capacity ≤ rows.length+1 then s.flush device else s := by
  simp only [Staged.row,hdevice,hensure,mappedCells]
  obtain ⟨d,hd⟩ := contains_eq_true.1 (ensureDevice_contains hensure)
  cases hinfo : state.maps.deviceMap.get? device with
  | none => simp [hd]
  | some info =>
    cases hcells : convertRow py info d.fields msg with
    | none => simp [hd,hcells]
    | some cells => simp [hd,hcells]

variable (py) in
theorem Staged.row_spec {s : Staged} (h : s.Based) (msg : Msg) (call : SchemaCall) :
    (s.row py capacity msg call).Based ∧
      (s.row py capacity msg call).state.bare = (rowTarget py call s.state msg).2.bare ∧
      ∀ ident, (s.row py capacity msg call).rows ident = s.rows ident ++
        rowsFor ident ((rowTarget py call s.state msg).1.bind fun device =>
          (mappedCells py (rowTarget py call s.state msg).2 device msg).map fun c =>
            (device,c)).toList := by
  cases hdevice : py.normalizeDeviceId (getD msg "device_id" .none) with
  | none =>
    have hrow : s.row py capacity msg call = s := by
      simp [Staged.row,hdevice]
    have htarget : rowTarget py call s.state msg = (none,s.state) := by
      simp [rowTarget,hdevice]
    rw [hrow,htarget]
    exact ⟨h,rfl,fun ident => by simp [rowsFor]⟩
  | some device =>
    have hrows := fun ident => ensureDevice_rows py call s.state device ident
    rw [rowTarget_eq hdevice]
    rcases hensure : ensureDevice py call s.state device with ⟨ok,state⟩
    rw [hensure] at hrows
    have hbased : Staged.Based { s with state := state } := by
      intro ident hident
      apply h ident
      rw [← not_eq_true] at hident ⊢
      exact fun hc => hident ((hrows ident).2 hc)
    have hsame : ∀ ident, Staged.rows { s with state := state } ident = s.rows ident := by
      intro ident
      simp only [Staged.rows,(hrows ident).1]
    cases ok with
    | false =>
      have hrow : s.row py capacity msg call = { s with state := state } := by
        simp [Staged.row,hdevice,hensure]
      rw [hrow]
      exact ⟨hbased,rfl,fun ident => by simp [hsame,rowsFor]⟩
    | true =>
      have hcontains := ensureDevice_contains hensure
      rw [row_eq_match capacity hdevice hensure]
      simp only [if_true,bind_some]
      cases mappedCells py state device msg with
      | none => exact ⟨hbased,rfl,fun ident => by simp [hsame,rowsFor]⟩
      | some cells =>
        have hset : ∀ ident, Staged.rows ⟨state,s.staging.set device
            ((s.staging.get? device).getD [] ++ [cells])⟩ ident =
              s.rows ident ++ rowsFor ident [(device,cells)] := by
          intro ident
          rw [← hsame ident]
          by_cases hident : device = ident
          · subst hident
            simp [Staged.rows,rowsFor]
          · have hident' : ident ≠ device := fun heq => hident heq.symm
            simp [Staged.rows,rowsFor,hident,hident']
        have hbased' : Staged.Based ⟨state,s.staging.set device
            ((s.staging.get? device).getD [] ++ [cells])⟩ := by
          intro ident hident
          have hne : ident ≠ device := by
            intro heq
            subst heq
            simp [hcontains] at hident
          simp [hne,hbased ident hident]
        simp only [map_some,toList_some]
        split
        · exact ⟨hbased'.flush hcontains,Staged.flush_bare _ _,fun ident => by
            rw [Staged.flush_rows hcontains,hset]⟩
        · exact ⟨hbased',rfl,hset⟩

variable (py) in
theorem writeBufferedRowsBatch_rows (rows : List (Msg × SchemaCall))
    {s : TelemetryState} (hgroup : s.telemetryGroup = true) (ident : String) :
    (writeBufferedRowsBatch py capacity rows s).maps.rows ident =
      s.maps.rows ident ++ rowsFor ident (telemetryRows py (mappedCells py) rows s) := by
  have hrun : ∀ (rows : List (Msg × SchemaCall)) (s : Staged), s.Based →
      (rows.foldl (fun (s : Staged) r => s.row py capacity r.1 r.2) s).Based ∧
        (rows.foldl (fun (s : Staged) r => s.row py capacity r.1 r.2) s).rows ident =
          s.rows ident ++ rowsFor ident (telemetryRows py (mappedCells py) rows s.state) := by
    intro rows
    induction rows with
    | nil => exact fun s h => ⟨h,by simp [telemetryRows,rowsFor]⟩
    | cons r rest ih =>
      intro s h
      obtain ⟨msg,call⟩ := r
      obtain ⟨hbased,hbare,hrows⟩ := Staged.row_spec py capacity h msg call
      obtain ⟨hdone,hrest⟩ := ih _ hbased
      refine ⟨hdone,?_⟩
      rw [foldl_cons,hrest,hrows,telemetryRows_congr mappedCells_bare rest hbare]
      simp only [telemetryRows,rowsFor_append,append_assoc]
  have hstart : Staged.Based ⟨s,.empty⟩ := fun _ _ => rfl
  obtain ⟨hbased,hrows⟩ := hrun rows ⟨s,.empty⟩ hstart
  have hget := writeBufferedRowsBatch_get? py capacity rows hgroup ident
  have hempty : Staged.rows ⟨s,.empty⟩ ident = s.maps.rows ident := by
    simp [Staged.rows]
  rw [hempty] at hrows
  rw [← hrows]
  generalize rows.foldl (fun (s : Staged) r => s.row py capacity r.1 r.2) ⟨s,.empty⟩ = done at *
  simp only at hget
  simp only [Telemetry.rows,Staged.rows,hget]
  cases hd : done.state.maps.datasets.get? ident with
  | none =>
    have hnone := hbased ident ((contains_eq_false _ _).2 hd)
    simp [hnone]
  | some d => simp [TelemetryDataset.append]

variable (py) in
theorem rowTarget_disabled (s : TelemetryState) (msg : Msg) :
    (rowTarget py call s msg).2.disabledDevices = s.disabledDevices := by
  cases hdevice : py.normalizeDeviceId (getD msg "device_id" .none) with
  | none => simp [rowTarget,hdevice]
  | some device =>
    rw [rowTarget_eq hdevice]
    exact ensureDevice_disabled py call s device

variable (py) in
theorem writeBufferedRowsBatch_disabled (rows : List (Msg × SchemaCall)) (s : TelemetryState) :
    (writeBufferedRowsBatch py capacity rows s).disabledDevices = s.disabledDevices := by
  have hrows : ∀ (rows : List (Msg × SchemaCall)) (s : Staged), s.Based →
      (rows.foldl (fun (s : Staged) r => s.row py capacity r.1 r.2) s).state.disabledDevices =
        s.state.disabledDevices := by
    intro rows
    induction rows with
    | nil => exact fun s _ => rfl
    | cons r rest ih =>
      intro s h
      obtain ⟨hbased,hbare,-⟩ := Staged.row_spec py capacity h r.1 r.2
      have hdisabled := congrArg TelemetryState.disabledDevices hbare
      simp only [TelemetryState.bare_disabledDevices,rowTarget_disabled] at hdisabled
      rw [foldl_cons,ih _ hbased,hdisabled]
  have hflush : ∀ (devices : List String) (s : Staged),
      (devices.foldl Staged.flush s).state.disabledDevices = s.state.disabledDevices := by
    intro devices
    induction devices with
    | nil => exact fun s => rfl
    | cons device rest ih =>
      intro s
      rw [foldl_cons,ih]
      rfl
  unfold writeBufferedRowsBatch
  split
  · simp only [hflush]
    exact hrows rows _ fun _ _ => rfl
  · rfl

end ExperimentControl.Hdf

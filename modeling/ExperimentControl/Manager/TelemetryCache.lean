import ExperimentControl.Lib.OrderedDict
import ExperimentControl.Manager.Ingest

/-!
The caches of latest telemetry values (`_manager/driver_pub.py`). A bundle that does not raise is stored
as a whole and published once, or changes nothing.
-/

namespace ExperimentControl.Manager
open Lib Python OrderedDict List Option

structure TelemetrySignal where
  value : Value
  units : Value
  quality : String
  ts : Timestamp

abbrev Stamped := Timestamp × TelemetrySignal

abbrev NamedSignal := String × Stamped

abbrev SignalCache := OrderedDict String Stamped

structure TelemetryCache where
  latest : OrderedDict String SignalCache
  lastBundleTs : OrderedDict String Timestamp
  lastRecvMono : OrderedDict String UInt64
  deviceOrder : OrderedDict String Unit
  evictedDevices : Nat
  evictedSignals : Nat

/-- The configured caps, which `_positive_limit` raises to one. -/
structure CacheLimits where
  maxDevices : Nat
  maxSignals : Nat

def positiveLimit (value : Nat) : Nat := max 1 value

def touchLru (order : OrderedDict String Unit) (key : String) : OrderedDict String Unit :=
  (order.erase key).set key ()

variable (py : Runtime) (limits : CacheLimits)

def evictOneDevice (deviceId : String) (c : TelemetryCache) : TelemetryCache :=
  if c.latest.contains deviceId || c.latest.size < positiveLimit limits.maxDevices then c
  else
    match (c.deviceOrder.keys ++ c.latest.keys).head? with
    | none => c
    | some oldest =>
      { latest := c.latest.erase oldest
        lastBundleTs := c.lastBundleTs.erase oldest
        lastRecvMono := c.lastRecvMono.erase oldest
        deviceOrder := c.deviceOrder.erase oldest
        evictedDevices := c.evictedDevices+1
        evictedSignals := c.evictedSignals }

def ensureDeviceSlot (deviceId : String) (c : TelemetryCache) : TelemetryCache :=
  let c := evictOneDevice limits deviceId c
  { c with
    latest := if c.latest.contains deviceId then c.latest else c.latest.set deviceId .empty
    deviceOrder := touchLru c.deviceOrder deviceId }

/-- The cache with room for `name` at its end. -/
def roomFor (name : String) (cache : SignalCache) : SignalCache :=
  if cache.contains name then cache.erase name
  else if positiveLimit limits.maxSignals ≤ cache.size then cache.popOldest else cache

def storeSignal (deviceId name : String) (value : Stamped) (c : TelemetryCache) :
    TelemetryCache :=
  let c := ensureDeviceSlot limits deviceId c
  let cache := (c.latest.get? deviceId).getD .empty
  { c with
    latest := c.latest.set deviceId ((roomFor limits name cache).set name value)
    evictedSignals := c.evictedSignals+if !cache.contains name && decide (positiveLimit limits.maxSignals ≤ cache.size)
      then 1 else 0 }

def telemetrySignal (bundleTs : Timestamp) (signal : Entries) : TelemetrySignal where
  value := getKey signal "value"
  units := getKey signal "units"
  quality := coerceEnum telemetryQualities (getD signal "quality" (.str "BAD")) "BAD"
  ts := match getKey signal "ts" with
    | .none => bundleTs
    | raw => (parseTimestamp py raw).toOption.getD bundleTs

/-- The loop of `ingest_telemetry` over the signals; it ends where one raises. -/
def storeSignals (recv bundleTs : Timestamp) (deviceId : String) : Entries → TelemetryCache → TelemetryCache
  | [],c => c
  | (name,.dict _ signal) :: rest,c =>
    match checkSignal py signal with
    | .error _ => c
    | .ok _ => storeSignals recv bundleTs deviceId rest
        (storeSignal limits deviceId name (recv,telemetrySignal py bundleTs signal) c)
  | _ :: rest,c => storeSignals recv bundleTs deviceId rest c

def TelemetryCache.received (c : TelemetryCache) (deviceId : String) (ts now : Timestamp) : TelemetryCache :=
  { c with
    lastBundleTs := c.lastBundleTs.set deviceId ts
    lastRecvMono := c.lastRecvMono.set deviceId now.mono
    deviceOrder := touchLru c.deviceOrder deviceId }

/-- The device and the signals of a bundle that has both. -/
def bundleOf (msg : Entries) : Option (String × Entries) :=
  match getKey msg "device_id",getKey msg "signals" with
  | .none,_ => none
  | deviceRaw,.dict _ signals => some (deviceRaw.text py.repr,signals)
  | _,_ => none

def bundleTs (now : Timestamp) (msg : Entries) (deviceId : String) : Timestamp :=
  (parseBundleTimestamp py now msg deviceId "manager.telemetry_error" "telemetry bad ts").1

/-- What `ingest_telemetry` does to the caches; `ingestTelemetry` is what it publishes. -/
def cacheTelemetry (now : Timestamp) (msg : Entries) (c : TelemetryCache) : TelemetryCache :=
  match bundleOf py msg with
  | none => c
  | some (deviceId,signals) =>
    let ts := bundleTs py now msg deviceId
    let c := storeSignals py limits now ts deviceId signals (ensureDeviceSlot limits deviceId c)
    match badSignals py signals with
    | .error _ => c
    | .ok _ => c.received deviceId ts now

abbrev Stored := (String × String) × Stamped

def TelemetryCache.value? (c : TelemetryCache) (key : String × String) :
    Option Stamped :=
  (c.latest.get? key.1).bind (·.get? key.2)

/-- The value is the last one stored under the key. -/
def Last (log : List Stored) (e : Stored) : Prop :=
  ∃ before after, log = before ++ e :: after ∧ e.1 ∉ after.map Prod.fst

/-- The caches keep to their caps, the order has the keys of `latest`, and every signal has the value
stored last. -/
structure Sound (c : TelemetryCache) (log : List Stored) : Prop where
  devices : c.latest.size ≤ positiveLimit limits.maxDevices
  signals : ∀ d cache, c.latest.get? d = some cache → cache.size ≤ positiveLimit limits.maxSignals
  keys : ∀ d, c.deviceOrder.contains d = c.latest.contains d
  shown : ∀ key value, c.value? key = some value → Last log (key,value)

variable {limits} {c : TelemetryCache} {log : List Stored} {deviceId name : String}

theorem roomFor_size {cache : SignalCache} (h : cache.size ≤ positiveLimit limits.maxSignals) :
    (roomFor limits name cache).size < positiveLimit limits.maxSignals := by
  have hpos : 0 < positiveLimit limits.maxSignals := Nat.lt_of_lt_of_le Nat.one_pos (Nat.le_max_left _ _)
  unfold roomFor
  split
  · rename_i hold
    obtain ⟨v,hv⟩ := isSome_iff_exists.1 hold
    have := (perm_erase hv).length_eq
    simp only [size,length_cons] at *
    omega
  · split
    · simp only [size,popOldest,length_tail] at *
      omega
    · omega

theorem roomFor_new (cache : SignalCache) : (roomFor limits name cache).get? name = none := by
  unfold roomFor
  split
  · simp [get?_erase_eq]
  · rename_i hnew
    have hnone : cache.get? name = none := by simpa [OrderedDict.contains] using hnew
    split
    · by_contra h
      obtain ⟨v,hv⟩ := ne_none_iff_exists'.1 h
      simp [cache.get?_popOldest name v hv] at hnone
    · exact hnone

theorem get?_roomFor {cache : SignalCache} {x : String} {v : Stamped}
    (h : (roomFor limits name cache).get? x = some v) : cache.get? x = some v := by
  unfold roomFor at h
  split at h
  · exact cache.get?_erase name x v h
  · split at h
    · exact cache.get?_popOldest x v h
    · exact h

theorem contains_touchLru (order : OrderedDict String Unit) (d : String) :
    (touchLru order name).contains d = (decide (d = name) || order.contains d) := by
  by_cases hd : d = name
  · simp [touchLru,OrderedDict.contains,hd]
  · simp [touchLru,OrderedDict.contains,get?_erase_eq,hd]

variable (deviceId) in
theorem Sound.evict (h : Sound limits c log) : Sound limits (evictOneDevice limits deviceId c) log ∧
    ((evictOneDevice limits deviceId c).latest.contains deviceId = true ∨
      (evictOneDevice limits deviceId c).latest.size < positiveLimit limits.maxDevices) := by
  unfold evictOneDevice
  split
  · rename_i hroom
    exact ⟨h,by simpa using hroom⟩
  rename_i hfull
  simp only [Bool.or_eq_true,decide_eq_true_eq,not_or,not_lt] at hfull
  have hmem (d : String) : d ∈ c.deviceOrder.keys ++ c.latest.keys → d ∈ c.latest.keys := by
    have hkeys := Bool.eq_iff_iff.1 (h.keys d)
    simp only [OrderedDict.contains,isSome_iff_ne_none,Ne,get?_eq_none_iff,not_not] at hkeys
    simp [hkeys]
  cases hoff : (c.deviceOrder.keys ++ c.latest.keys).head? with
  | none =>
    have hnil : c.latest.keys = [] := (append_eq_nil_iff.1 (head?_eq_none_iff.1 hoff)).2
    have hzero : c.latest.size = 0 := by simpa [size,OrderedDict.keys] using hnil
    have hpos : 0 < positiveLimit limits.maxDevices := Nat.lt_of_lt_of_le Nat.one_pos (Nat.le_max_left _ _)
    omega
  | some oldest =>
    have hin := hmem oldest (mem_of_head? hoff)
    obtain ⟨cache,hcache⟩ := ne_none_iff_exists'.1 (mt (get?_eq_none_iff _ _).1 (not_not.2 hin))
    have hsize := (perm_erase hcache).length_eq
    have hdevices := h.devices
    simp only [size,length_cons] at hsize hdevices ⊢
    refine ⟨⟨?_,?_,?_,?_⟩,.inr ?_⟩
    · simp only [size]
      omega
    · exact fun d cache hd => h.signals d cache (c.latest.get?_erase oldest d cache hd)
    · intro d
      have := h.keys d
      simp only [OrderedDict.contains,get?_erase_eq] at this ⊢
      split
      · rfl
      · exact this
    · intro key value hv
      obtain ⟨cache,hd,hn⟩ := bind_eq_some_iff.1 hv
      exact h.shown key value (bind_eq_some_iff.2 ⟨cache,c.latest.get?_erase oldest _ cache hd,hn⟩)
    · omega

theorem size_set_of_new {κ α : Type} [DecidableEq κ] {d : OrderedDict κ α} {k : κ} (h : d.get? k = none)
    (v : α) : (d.set k v).size = d.size+1 := by
  simp [size,entries_set_of_new d k v h]

variable (deviceId) in
theorem Sound.slot (h : Sound limits c log) : Sound limits (ensureDeviceSlot limits deviceId c) log := by
  obtain ⟨h,hroom⟩ := h.evict deviceId
  unfold ensureDeviceSlot
  generalize evictOneDevice limits deviceId c = c at h hroom
  refine ⟨?_,fun d cache hd => ?_,fun d => ?_,fun key value hv => ?_⟩
  · dsimp only
    split
    · exact h.devices
    · rename_i hnew
      rw [size_set_of_new ((contains_eq_false _ _).1 (by simpa using hnew))]
      exact hroom.resolve_left hnew
  · dsimp only at hd
    split at hd
    · exact h.signals d cache hd
    · rw [get?_set] at hd
      split at hd
      · cases hd
        exact Nat.zero_le _
      · exact h.signals d cache hd
  · rw [contains_touchLru,h.keys d]
    dsimp only
    split
    · by_cases hd : d = deviceId <;> simp_all
    · by_cases hd : d = deviceId <;> simp [OrderedDict.contains,hd]
  · obtain ⟨cache,hd,hn⟩ := bind_eq_some_iff.1 hv
    dsimp only at hd
    split at hd
    · exact h.shown key value (bind_eq_some_iff.2 ⟨cache,hd,hn⟩)
    · rw [get?_set] at hd
      split at hd
      · cases hd
        cases hn
      · exact h.shown key value (bind_eq_some_iff.2 ⟨cache,hd,hn⟩)

variable (limits c deviceId) in
theorem slot_get? : ∃ cache, (ensureDeviceSlot limits deviceId c).latest.get? deviceId = some cache := by
  unfold ensureDeviceSlot
  dsimp only
  split
  · rename_i hold
    exact isSome_iff_exists.1 hold
  · exact ⟨.empty,by simp⟩

theorem slot_of_get? {cache : SignalCache} (h : c.latest.get? deviceId = some cache) :
    (ensureDeviceSlot limits deviceId c).latest = c.latest := by
  have hold : c.latest.contains deviceId = true := isSome_iff_exists.2 ⟨cache,h⟩
  simp [ensureDeviceSlot,evictOneDevice,hold]

theorem Sound.store (h : Sound limits c log) (value : Stamped) :
    Sound limits (storeSignal limits deviceId name value c) (log ++ [((deviceId,name),value)]) := by
  have h := h.slot deviceId
  obtain ⟨cache,hcache⟩ := slot_get? limits c deviceId
  unfold storeSignal
  generalize ensureDeviceSlot limits deviceId c = c at h hcache
  simp only [hcache,getD_some]
  refine ⟨?_,fun d cache' hd => ?_,fun d => ?_,fun key v hv => ?_⟩
  · have hkeys := congrArg length (keys_set hcache ((roomFor limits name cache).set name value))
    simp only [OrderedDict.keys,length_map] at hkeys
    exact hkeys.trans_le h.devices
  · rw [get?_set] at hd
    split at hd
    · cases hd
      rw [size_set_of_new (roomFor_new cache)]
      exact roomFor_size (h.signals _ cache hcache)
    · exact h.signals d cache' hd
  · rw [h.keys d]
    by_cases hd : d = deviceId <;> simp [OrderedDict.contains,hd,hcache]
  · obtain ⟨cache',hd,hn⟩ := bind_eq_some_iff.1 hv
    rw [get?_set] at hd
    have hother (hne : key ≠ (deviceId,name)) (hkept : c.value? key = some v) :
        Last (log ++ [((deviceId,name),value)]) (key,v) := by
      obtain ⟨before,after,rfl,hafter⟩ := h.shown key v hkept
      exact ⟨before,after ++ [((deviceId,name),value)],by simp,by simpa using ⟨by simpa using hafter,hne⟩⟩
    obtain ⟨d,n⟩ := key
    by_cases hdev : d = deviceId
    · subst hdev
      rw [if_pos rfl] at hd
      cases hd
      rw [get?_set] at hn
      by_cases hname : n = name
      · subst hname
        rw [if_pos rfl] at hn
        cases hn
        exact ⟨log,[],rfl,by simp⟩
      · rw [if_neg hname] at hn
        exact hother (by simp [hname]) (bind_eq_some_iff.2 ⟨cache,hcache,get?_roomFor hn⟩)
    · rw [if_neg hdev] at hd
      exact hother (by simp [hdev]) (bind_eq_some_iff.2 ⟨cache',hd,hn⟩)

def SignalCache.storing (limits : CacheLimits) (cache : SignalCache)
    (values : List NamedSignal) : SignalCache :=
  values.foldl (fun cache e => (roomFor limits e.1 cache).set e.1 e.2) cache

theorem latest_foldl {cache : SignalCache} (values : List NamedSignal)
    (h : c.latest.get? deviceId = some cache) :
    (values.foldl (fun c e => storeSignal limits deviceId e.1 e.2 c) c).latest.get? deviceId =
      some (SignalCache.storing limits cache values) := by
  induction values generalizing c cache with
  | nil => exact h
  | cons e rest ih =>
    refine ih ?_
    simp [storeSignal,slot_of_get? h,h]

theorem Sound.foldl (values : List NamedSignal) (h : Sound limits c log) :
    Sound limits (values.foldl (fun c e => storeSignal limits deviceId e.1 e.2 c) c)
      (log ++ values.map fun e => ((deviceId,e.1),e.2)) := by
  induction values generalizing c log with
  | nil => simpa using h
  | cons e rest ih => simpa using ih (h.store e.2)

def wellFormed (recv ts : Timestamp) (signals : Entries) : List NamedSignal :=
  signals.filterMap fun
    | (name,.dict _ signal) => some (name,recv,telemetrySignal py ts signal)
    | _ => none

def storedBy (now : Timestamp) (msg : Entries) : List Stored :=
  match bundleOf py msg with
  | none => []
  | some (deviceId,signals) =>
    (wellFormed py now (bundleTs py now msg deviceId) signals).map fun e => ((deviceId,e.1),e.2)

variable {py} {now : Timestamp} {msg : Entries}

theorem storeSignals_eq {recv ts : Timestamp} {signals : Entries} {bad : List String}
    (h : badSignals py signals = .ok bad) : storeSignals py limits recv ts deviceId signals c =
      (wellFormed py recv ts signals).foldl (fun c e => storeSignal limits deviceId e.1 e.2 c) c := by
  induction signals generalizing c bad with
  | nil => rfl
  | cons entry rest ih =>
    obtain ⟨name,raw⟩ := entry
    cases raw with
    | dict attr signal =>
      obtain ⟨_,hsignal,h⟩ := bind_eq_ok h
      obtain ⟨names,hrest,-⟩ := bind_eq_ok h
      simpa [storeSignals,hsignal,wellFormed] using ih hrest
    | none | bool _ | int _ | float _ | str _ | list _ => exact ih h

/-- The one update of the message is about its device and has all its signals and its number. -/
def Publishes (py : Runtime) (now : Timestamp) (msg : Entries) : Prop :=
  ∃ deviceId signals seq bundle, bundleOf py msg = some (deviceId,signals) ∧
    py.toInt (getD msg "seq" (.int (-1))) = .ok seq ∧
    (ingestTelemetry py now msg).events.filter (fun e => e.1 = "manager.telemetry_update") =
      [("manager.telemetry_update",bundle)] ∧
    getKey bundle "device_id" = .str deviceId ∧ getKey bundle "seq" = .int seq ∧
    getKey bundle "signals" = .dict false signals

theorem telemetryBundle_keys (seq : Int) (ts : Timestamp) (signals : Entries) :
    getKey (telemetryBundle deviceId seq ts now signals msg) "device_id" = .str deviceId ∧
    getKey (telemetryBundle deviceId seq ts now signals msg) "seq" = .int seq ∧
    getKey (telemetryBundle deviceId seq ts now signals msg) "signals" = .dict false signals := by
  unfold telemetryBundle
  dsimp only
  split
  · split <;> exact ⟨rfl,rfl,rfl⟩
  · exact ⟨rfl,rfl,rfl⟩

variable (now) in
theorem ingestTelemetry_of_bundle (h : telemetryRaises py msg = false) :
    match bundleOf py msg with
    | none => (ingestTelemetry py now msg).events ≠ [] ∧
        ∀ e ∈ (ingestTelemetry py now msg).events, e.1 = "manager.telemetry_error"
    | some (_,signals) => (∃ bad, badSignals py signals = .ok bad) ∧ Publishes py now msg := by
  have hts (d : String) : ∀ e ∈ (parseBundleTimestamp py now msg d "manager.telemetry_error"
      "telemetry bad ts").2, e.1 = "manager.telemetry_error" := by
    unfold parseBundleTimestamp
    split <;> simp
  unfold telemetryRaises at h
  unfold Publishes ingestTelemetry bundleOf
  cases hd : getKey msg "device_id" with
  | none => simp [Emitted.returned,telemetryError]
  | bool _ | int _ | float _ | str _ | list _ | dict _ _ =>
    dsimp only
    cases hs : getKey msg "signals" with
    | dict attr signals =>
      simp only [hd,hs,Bool.or_eq_false_iff,Bool.not_eq_false'] at h ⊢
      cases hbad : badSignals py signals with
      | error e => simp [(badSignals_raises py signals).1 ⟨e,hbad⟩] at h
      | ok bad =>
        cases hseq : py.toInt (getD msg "seq" (.int (-1))) with
        | error e => simp [hseq,Except.toOption] at h
        | ok seq =>
          refine ⟨⟨bad,rfl⟩,_,signals,seq,?_,rfl,rfl,?_,?_⟩
          rotate_left
          · dsimp only [Emitted.returned]
            rw [filter_append,filter_append,filter_eq_nil_iff.2 fun e he => ?_]
            · split <;> rfl
            · simp [hts _ e he]
          · exact telemetryBundle_keys ..
    | none | bool _ | int _ | float _ | str _ | list _ =>
      simp only [Emitted.returned,mem_append,mem_singleton]
      refine ⟨by simp,?_⟩
      rintro e (he | rfl)
      · exact hts _ e he
      · rfl

theorem Sound.received {cache : SignalCache} (h : Sound limits c log)
    (hold : c.latest.get? deviceId = some cache) (ts : Timestamp) : Sound limits (c.received deviceId ts now) log where
  devices := h.devices
  signals := h.signals
  keys d := by
    simp only [TelemetryCache.received,contains_touchLru,h.keys]
    by_cases hd : d = deviceId <;> simp [OrderedDict.contains,hd,hold]
  shown := h.shown

variable (limits c now) in
theorem cacheTelemetry_of_bundle {signals : Entries} (hb : bundleOf py msg = some (deviceId,signals))
    (h : telemetryRaises py msg = false) : ∃ (values : List NamedSignal) (cache : SignalCache) (ts : Timestamp),
      storedBy py now msg = values.map (fun e => ((deviceId,e.1),e.2)) ∧
      (ensureDeviceSlot limits deviceId c).latest.get? deviceId = some cache ∧
      cacheTelemetry py limits now msg c = (values.foldl (fun c e => storeSignal limits deviceId e.1 e.2 c)
        (ensureDeviceSlot limits deviceId c)).received deviceId ts now := by
  have hbad := ingestTelemetry_of_bundle now h
  simp only [hb] at hbad
  obtain ⟨⟨bad,hbad⟩,-⟩ := hbad
  obtain ⟨cache,hcache⟩ := slot_get? limits c deviceId
  refine ⟨_,cache,bundleTs py now msg deviceId,by simp [storedBy,hb]; rfl,hcache,?_⟩
  simp [cacheTelemetry,hb,hbad,storeSignals_eq hbad]

theorem Sound.step (hs : Sound limits c log) (h : telemetryRaises py msg = false) :
    Sound limits (cacheTelemetry py limits now msg c) (log ++ storedBy py now msg) := by
  cases hb : bundleOf py msg with
  | none => simpa [cacheTelemetry,storedBy,hb] using hs
  | some bundle =>
    obtain ⟨values,cache,ts,hstored,hcache,hc⟩ := cacheTelemetry_of_bundle limits c now hb h
    rw [hc,hstored]
    exact ((hs.slot _).foldl values).received (latest_foldl values hcache) ts

def TelemetryCache.run (py : Runtime) (limits : CacheLimits) (msgs : List (Timestamp × Entries)) : TelemetryCache :=
  msgs.foldl (fun c m => cacheTelemetry py limits m.1 m.2 c) ⟨.empty,.empty,.empty,.empty,0,0⟩

/-- The signals of a bundle up to the first that raises. -/
def keptOf (py : Runtime) (now : Timestamp) (msg : Entries) : List Stored :=
  match bundleOf py msg with
  | none => []
  | some (deviceId,signals) =>
    (wellFormed py now (bundleTs py now msg deviceId)
      (signals.takeWhile fun e => !unhashableQuality e.2)).map fun e => ((deviceId,e.1),e.2)

theorem storeSignals_takeWhile (recv ts : Timestamp) (signals : Entries) (c : TelemetryCache) :
    storeSignals py limits recv ts deviceId signals c =
      (wellFormed py recv ts (signals.takeWhile fun e => !unhashableQuality e.2)).foldl
        (fun c e => storeSignal limits deviceId e.1 e.2 c) c := by
  induction signals generalizing c with
  | nil => rfl
  | cons entry rest ih =>
    obtain ⟨name,raw⟩ := entry
    cases raw with
    | dict attr signal =>
      have hraises := checkSignal_raises py signal
      cases hcheck : checkSignal py signal with
      | error e =>
        have hbad : unhashableQuality (.dict attr signal) = true := hraises.1 ⟨e,hcheck⟩
        simp [storeSignals,hcheck,hbad,wellFormed]
      | ok _ =>
        have hgood : unhashableQuality (.dict attr signal) = false :=
          Bool.eq_false_iff.2 fun hbad => by simpa [hcheck] using hraises.2 hbad
        simpa [storeSignals,hcheck,hgood,wellFormed] using ih _
    | none | bool _ | int _ | float _ | str _ | list _ => exact ih c

theorem Sound.any (hs : Sound limits c log) (now : Timestamp) (msg : Entries) :
    Sound limits (cacheTelemetry py limits now msg c) (log ++ keptOf py now msg) := by
  unfold cacheTelemetry keptOf
  cases hb : bundleOf py msg with
  | none => simpa using hs
  | some bundle =>
    obtain ⟨cache,hcache⟩ := slot_get? limits c bundle.1
    have hsound := @Sound.foldl limits _ _ bundle.1 (wellFormed py now (bundleTs py now msg bundle.1)
      (bundle.2.takeWhile fun e => !unhashableQuality e.2)) (hs.slot bundle.1)
    dsimp only
    rw [storeSignals_takeWhile]
    split
    · exact hsound
    · exact hsound.received (latest_foldl _ hcache) _

/-- Whatever is sent, bundles that raise too: the caches keep to their caps, and every signal has the value
stored last. -/
theorem telemetry_bounded (msgs : List (Timestamp × Entries)) :
    Sound limits (TelemetryCache.run py limits msgs) (msgs.flatMap fun m => keptOf py m.1 m.2) := by
  have hrun (msgs : List (Timestamp × Entries)) : ∀ c log, Sound limits c log →
      Sound limits (msgs.foldl (fun c m => cacheTelemetry py limits m.1 m.2 c) c)
        (log ++ msgs.flatMap fun m => keptOf py m.1 m.2) := by
    induction msgs with
    | nil => exact fun c log hs => by simpa using hs
    | cons m rest ih =>
      intro c log hs
      rw [flatMap_cons,← append_assoc]
      exact ih _ _ (hs.any m.1 m.2)
  refine hrun msgs _ [] ⟨Nat.zero_le _,fun d cache hd => ?_,fun d => rfl,fun key value hv => ?_⟩
  · cases hd
  · cases hv

end ExperimentControl.Manager

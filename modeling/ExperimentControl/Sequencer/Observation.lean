import ExperimentControl.Sequencer.Runtime

/-!
One poll of an adaptive observation.
-/

namespace ExperimentControl.Sequencer
open Lib Python Prog List Option Except

variable {World : Type}

section
variable {host : Host World} {source source' : OutputSource} {buffer : List Entries}
  {payload : Entries}

def isMatch (host : Host World) (source : OutputSource) (payload : Entries) : Bool :=
  matchOutput host source payload ≠ .other

def hits (host : Host World) (source : OutputSource) (buffer : List Entries) : List Entries :=
  buffer.filter fun payload => matchOutput host source payload = .hit

theorem isMatch_of_hit (h : matchOutput host source payload = .hit) :
    isMatch host source payload = true := by
  simp [isMatch,h]

theorem hits_cons (payload : Entries) (rest : List Entries) : hits host source (payload :: rest) =
      if matchOutput host source payload = .hit then payload :: hits host source rest
      else hits host source rest := by
  simp [hits,filter_cons]

theorem hits_append (xs ys : List Entries) :
    hits host source (xs ++ ys) = hits host source xs ++ hits host source ys :=
  filter_append ..

theorem takeOutput_eq (host : Host World) (source : OutputSource) (buffer : List Entries) :
    takeOutput host source buffer = (buffer.find? (isMatch host source)).map fun payload =>
        (matchOutput host source payload,payload,buffer.eraseP (isMatch host source)) := by
  induction buffer with
  | nil => rfl
  | cons payload rest ih =>
    cases hm : matchOutput host source payload with
    | other =>
      have hno : isMatch host source payload = false := by simp [isMatch,hm]
      simp only [takeOutput,hm,ih,find?_cons,hno,eraseP_cons]
      simp [Option.map_map,Function.comp_def]
    | stale | hit =>
      have hyes : isMatch host source payload = true := by simp [isMatch,hm]
      simp [takeOutput,hm,hyes]

theorem hits_eraseP_of_hit (hp : buffer.find? (isMatch host source) = some payload)
    (hm : matchOutput host source payload = .hit) :
    hits host source buffer = payload :: hits host source (buffer.eraseP (isMatch host source)) := by
  induction buffer with
  | nil => cases hp
  | cons first rest ih =>
    cases hf : isMatch host source first with
    | true =>
      simp only [find?_cons,hf,Option.some.injEq] at hp
      subst hp
      simp [hits_cons,hf,hm]
    | false =>
      simp only [find?_cons,hf] at hp
      have hno : matchOutput host source first = .other := by simpa [isMatch] using hf
      simp [hits_cons,hf,hno,ih hp]

theorem hits_eraseP_of_not_hit (h : ∀ payload, buffer.find? (isMatch host source) = some payload →
      matchOutput host source payload ≠ .hit) :
    hits host source (buffer.eraseP (isMatch host source)) = hits host source buffer := by
  induction buffer with
  | nil => rfl
  | cons first rest ih =>
    cases hf : isMatch host source first with
    | true =>
      have hno : matchOutput host source first ≠ .hit := h first (by simp [hf])
      simp [hits_cons,hf,hno]
    | false =>
      have hrest := ih (by simpa [hf] using h)
      simp [hits_cons,hf,hrest]

theorem find?_of_hits {first : Entries} {rest : List Entries}
    (h : hits host source buffer = first :: rest) :
    ∃ payload, buffer.find? (isMatch host source) = some payload := by
  have hmem : first ∈ hits host source buffer := by simp [h]
  obtain ⟨hmem,hhit⟩ := mem_filter.1 hmem
  have := find?_isSome.2 ⟨first,hmem,isMatch_of_hit (by simpa using hhit)⟩
  exact isSome_iff_exists.1 this

def Apart (source source' : OutputSource) : Prop :=
  source.workspaceId ≠ source'.workspaceId ∨ source.outputId ≠ source'.outputId

section
variable (h : Apart source source')
include h

theorem Apart.symm : Apart source' source :=
  h.imp Ne.symm Ne.symm

theorem Apart.other (hm : isMatch host source payload = true) :
    matchOutput host source' payload = .other := by
  simp only [isMatch,matchOutput] at hm ⊢
  split at hm
  · simp at hm
  · rename_i hw
    split at hm
    · simp at hm
    · rename_i ho
      simp only [ne_eq,not_not] at hw ho
      rcases h with h | h
      · rw [if_pos (by rw [hw]; exact h)]
      · by_cases hw' : targetText host.py (getD payload "workspace_id" (.str "")) ≠
            source'.workspaceId
        · rw [if_pos hw']
        · rw [if_neg hw',if_pos (by rw [ho]; exact h)]

theorem Apart.hits_eraseP (buffer : List Entries) :
    hits host source' (buffer.eraseP (isMatch host source)) = hits host source' buffer := by
  induction buffer with
  | nil => rfl
  | cons first rest ih =>
    cases hf : isMatch host source first with
    | true => simp [hits_cons,hf,h.other hf]
    | false => simp [hits_cons,hf,ih]

theorem Apart.find?_eraseP (buffer : List Entries) :
    (buffer.eraseP (isMatch host source)).find? (isMatch host source') =
      buffer.find? (isMatch host source') := by
  induction buffer with
  | nil => rfl
  | cons first rest ih =>
    cases hf : isMatch host source first with
    | true =>
      have hno : isMatch host source' first = false := by simp [isMatch,h.other hf]
      simp [hf,hno]
    | false => simp [hf,find?_cons,ih]

end

end

structure OutputMetric where
  name : String
  source : OutputSource
  config : Entries
  timeoutS : F64
  deriving DecidableEq

/-- The analysis metrics of an observation, in the order in which it asks for them. -/
def readMetrics (host : Host World) (view : Env) (contextId : Int) :
    Entries → Except PyExc (List OutputMetric)
  | [] => .ok []
  | (name,.dict _ spec) :: rest =>
    if sourceKind host spec ≠ "analysis_output" then readMetrics host view contextId rest
    else
      match readOutputSource host view spec contextId,readMetrics host view contextId rest with
      | .ok (source,config,timeoutS),.ok metrics => .ok (⟨name,source,config,timeoutS⟩ :: metrics)
      | .error e,_ | _,.error e => .error e
  | _ :: _ => .error ⟨.typeError,"adaptive source specs must be dicts"⟩

def nextValue (host : Host World) (m : OutputMetric) (buffer : List Entries) : Option Value :=
  match buffer.find? (isMatch host m.source) with
  | none => none
  | some payload =>
    if matchOutput host m.source payload = .hit then
      (extractOutputValue host payload m.config).toOption
    else none

def takeEach (host : Host World) : List OutputMetric → List Entries → List Entries
  | [],buffer => buffer
  | m :: metrics,buffer => takeEach host metrics (buffer.eraseP (isMatch host m.source))

def outputValues (host : Host World) (metrics : List OutputMetric) (buffer : List Entries) :
    Entries :=
  metrics.filterMap fun m => (nextValue host m buffer).map fun v => (m.name,v)

section
variable {host : Host World} {vars : Env} {contextId : Int} {metrics : List OutputMetric}

variable {m : OutputMetric}

theorem nextValue_eq_some {buffer : List Entries} {v : Value}
    (h : nextValue host m buffer = some v) :
    ∃ payload, buffer.find? (isMatch host m.source) = some payload ∧
      matchOutput host m.source payload = .hit ∧
      extractOutputValue host payload m.config = .ok v := by
  simp only [nextValue] at h
  split at h
  · cases h
  · rename_i payload hp
    split at h
    · rename_i hm
      refine ⟨payload,hp,hm,?_⟩
      cases he : extractOutputValue host payload m.config with
      | ok v' =>
        simp only [he,Except.toOption,Option.some.injEq] at h
        rw [h]
      | error e => simp [he,Except.toOption] at h
    · cases h

theorem nextValue_eraseP {m m' : OutputMetric} (h : Apart m.source m'.source)
    (buffer : List Entries) :
    nextValue host m' (buffer.eraseP (isMatch host m.source)) = nextValue host m' buffer := by
  simp only [nextValue,h.find?_eraseP]

theorem outputValues_eraseP (h : ∀ m' ∈ metrics, Apart m.source m'.source) (buffer : List Entries) :
    outputValues host metrics (buffer.eraseP (isMatch host m.source)) =
      outputValues host metrics buffer := by
  refine filterMap_congr fun m' hm' => ?_
  rw [nextValue_eraseP (h m' hm')]

theorem readMetrics_cons {view : Env} {name : String} {spec : Value} {rest : Entries}
    (h : readMetrics host view contextId ((name,spec) :: rest) = .ok metrics) :
    ∃ attr entries, spec = .dict attr entries ∧ ((sourceKind host entries ≠ "analysis_output" ∧
        readMetrics host view contextId rest = .ok metrics) ∨
      ∃ m others, sourceKind host entries = "analysis_output" ∧ metrics = m :: others ∧
        m.name = name ∧
        readOutputSource host view entries contextId = .ok (m.source,m.config,m.timeoutS) ∧
        readMetrics host view contextId rest = .ok others) := by
  cases spec with
  | dict attr entries =>
    refine ⟨attr,entries,rfl,?_⟩
    simp only [readMetrics] at h
    split at h
    · exact .inl ⟨‹_›,h⟩
    · rename_i hk
      split at h
      · rename_i source config timeoutS others hsource hothers
        simp only [ok.injEq] at h
        exact .inr ⟨_,others,by simpa using hk,h.symm,rfl,hsource,hothers⟩
      · cases h
      · cases h
  | none | bool _ | int _ | float _ | str _ | list _ => simp [readMetrics] at h

variable {spec : Entries}

theorem readMetrics_names {view : Env} (h : readMetrics host view contextId spec = .ok metrics) :
    (metrics.map OutputMetric.name).Sublist (spec.map Prod.fst) := by
  induction spec generalizing metrics with
  | nil =>
    simp only [readMetrics,ok.injEq] at h
    simp [← h]
  | cons e rest ih =>
    obtain ⟨attr,entries,_,⟨_,hrest⟩ | ⟨m,others,_,rfl,hname,_,hrest⟩⟩ := readMetrics_cons h
    · exact (ih hrest).cons _
    · simp only [map_cons,hname]
      exact (ih hrest).cons_cons _

variable {n : Nat} {d : Data World}

theorem trySample_run {entries : Entries}
    (h : readOutputSource host (buildEnvView d.env vars) entries contextId =
      .ok (m.source,m.config,m.timeoutS)) :
    (trySampleAnalysisOutput host vars entries contextId).run n d =
      (match takeOutput host m.source d.analysisOutputs with
        | some (.hit,payload,left) => do
          Prog.modify fun d => { d with analysisOutputs := left }
          let v ← except (extractOutputValue host payload m.config)
          pure (some v)
        | some (_,_,left) => do
          Prog.modify fun d => { d with analysisOutputs := left }
          pure none
        | none => do
          checkObserveTimeout host m.source m.timeoutS
          pure none : D World (Option Value)).run n d := by
  simp only [trySampleAnalysisOutput,run_bind,envView,run_ofFun,except,h]
  rfl

theorem trySample_served {entries : Entries} {v : Value}
    (h : readOutputSource host (buildEnvView d.env vars) entries contextId =
      .ok (m.source,m.config,m.timeoutS)) (hv : nextValue host m d.analysisOutputs = some v) :
    (trySampleAnalysisOutput host vars entries contextId).run n d =
      .ok (some v) { d with
        analysisOutputs := d.analysisOutputs.eraseP (isMatch host m.source) } := by
  obtain ⟨payload,hp,hm,he⟩ := nextValue_eq_some hv
  rw [trySample_run h,takeOutput_eq,hp]
  simp only [map_some,hm]
  simp [run_bind,except,run_ofFun,he]

theorem sampleOutputs_served
    (h : readMetrics host (buildEnvView d.env vars) contextId spec = .ok metrics)
    (hapart : metrics.Pairwise fun m m' => Apart m.source m'.source)
    (hv : ∀ m ∈ metrics, (nextValue host m d.analysisOutputs).isSome) :
    (sampleOutputs host vars contextId spec).run n d =
      .ok (some (outputValues host metrics d.analysisOutputs))
        { d with analysisOutputs := takeEach host metrics d.analysisOutputs } := by
  induction spec generalizing metrics d with
  | nil =>
    simp only [readMetrics,ok.injEq] at h
    subst h
    rfl
  | cons e rest ih =>
    obtain ⟨name,value⟩ := e
    obtain ⟨attr,entries,rfl,⟨hk,hrest⟩ | ⟨m,others,hk,rfl,rfl,hsource,hrest⟩⟩ :=
      readMetrics_cons h
    · rw [sampleOutputs,if_pos hk]
      exact ih hrest hapart hv
    · obtain ⟨hm,hothers⟩ := pairwise_cons.1 hapart
      obtain ⟨v,hval⟩ := isSome_iff_exists.1 (hv m mem_cons_self)
      have hrun := ih (d := { d with
        analysisOutputs := d.analysisOutputs.eraseP (isMatch host m.source) }) hrest hothers (by
          intro m' hm'
          rw [nextValue_eraseP (hm m' hm')]
          exact hv m' (mem_cons_of_mem _ hm'))
      simp only [outputValues_eraseP hm] at hrun
      simp only [sampleOutputs,hk,ne_eq,not_true_eq_false,if_false,run_bind,
        trySample_served hsource hval,hrun]
      simp [outputValues,hval,takeEach]

theorem sampleOutputs_waits
    (h : readMetrics host (buildEnvView d.env vars) contextId spec = .ok (m :: metrics))
    (hm : ∀ payload, d.analysisOutputs.find? (isMatch host m.source) = some payload →
      matchOutput host m.source payload ≠ .hit) : (sampleOutputs host vars contextId spec).run n d =
      (if (d.analysisOutputs.find? (isMatch host m.source)).isSome then
        .ok none { d with
          analysisOutputs := d.analysisOutputs.eraseP (isMatch host m.source) }
      else match (checkObserveTimeout host m.source m.timeoutS).run n d with
        | .ok () d' => .ok none d'
        | .raised e d' => .raised e d'
        | .diverged => .diverged) := by
  induction spec with
  | nil => simp [readMetrics] at h
  | cons e rest ih =>
    obtain ⟨name,value⟩ := e
    obtain ⟨attr,entries,rfl,⟨hk,hrest⟩ | ⟨m',others,hk,hcons,rfl,hsource,hrest⟩⟩ :=
      readMetrics_cons h
    · rw [sampleOutputs,if_pos hk]
      exact ih hrest
    · obtain ⟨rfl,rfl⟩ := List.cons.inj hcons
      simp only [sampleOutputs,hk,ne_eq,not_true_eq_false,if_false,run_bind,
        trySample_run hsource,takeOutput_eq]
      cases hp : d.analysisOutputs.find? (isMatch host m.source) with
      | none =>
        simp only [map_none,run_bind]
        cases (checkObserveTimeout host m.source m.timeoutS).run n d <;> simp
      | some payload =>
        have hmatch : isMatch host m.source payload = true := find?_some hp
        have hstale : matchOutput host m.source payload = .stale := by
          cases hc : matchOutput host m.source payload with
          | other => simp [isMatch,hc] at hmatch
          | stale => rfl
          | hit => exact absurd hc (hm payload hp)
        simp [hstale,run_bind]

end

def Beside (d₀ d : Data World) : Prop := d = { d₀ with world := d.world }

theorem Beside.refl (d : Data World) : Beside d d := rfl

def Outward {α : Type} (x : D World α) : Prop := ∀ d₀, Keeps (Beside d₀) x

section
variable {α β : Type} {host : Host World}

theorem outward_pure (a : α) : Outward (pure a : D World α) := fun _ => .pure fun _ h => h

theorem outward_raise (e : PyExc) : Outward (Prog.raise e : D World α) :=
  fun _ => .raise fun _ h => h

theorem outward_bind {x : D World α} {f : α → D World β} (hx : Outward x)
    (hf : ∀ a, Outward (f a)) : Outward (x >>= f) :=
  fun d₀ => (hx d₀).bind fun a => hf a d₀

theorem outward_ite {c : Prop} [Decidable c] {x y : D World α} (hx : Outward x)
    (hy : Outward y) : Outward (if c then x else y) :=
  fun d₀ => .ite (fun _ => hx d₀) (fun _ => hy d₀)

theorem outward_ask (f : Callback World α) : Outward (ask f) := by
  refine fun d₀ => keeps_ofFun fun d hd => ?_
  simp only [Beside] at hd ⊢
  rw [hd]

theorem outward_now : Outward (now host) := by
  refine fun d₀ => keeps_ofFun fun d hd => ?_
  simp only [Beside] at hd ⊢
  rw [hd]

theorem outward_except (r : Except PyExc α) : Outward (except r : D World α) :=
  fun _ => keeps_ofFun fun _ h => h

variable (vars : Env)

theorem outward_render (v : Value) : Outward (render host vars v) :=
  outward_bind (fun _ => keeps_ofFun fun _ h => h) fun _ => outward_except _

theorem outward_iterate {body : β → D World (β ⊕ α)} {b : β} (h : ∀ b, Outward (body b)) :
    Outward (Prog.iterate body b) := by
  refine fun d₀ => .iterate fun b => (h b d₀).post ?_
  intro r d hd
  cases r <;> exact hd

theorem outward_dispatchCall (device : String) (process : Option String) (action : String)
    (params : Value) : Outward (dispatchCall host device process action params) := by
  unfold dispatchCall
  split
  · split
    · exact outward_pure _
    · exact outward_ask _
  · exact outward_ask _

theorem outward_dispatchGetTelemetry (device : String) (process : Option String)
    (signal : String) : Outward (dispatchGetTelemetry host device process signal) := by
  unfold dispatchGetTelemetry
  split
  · split
    · exact outward_pure _
    · exact outward_ask _
  · exact outward_ask _

theorem outward_floatOrSkip (v : Value) : Outward (floatOrSkip host v) := by
  unfold floatOrSkip
  split
  · exact outward_pure _
  · exact outward_ite (outward_pure _) (outward_raise _)

theorem outward_sinceField (sample : Reply) (key : String) : Outward (sinceField host sample key) :=
  outward_ite (outward_bind outward_now fun _ =>
    outward_bind (outward_floatOrSkip _) fun _ => outward_pure _) (outward_pure _)

theorem outward_telemetrySampleAge (sample : Reply) : Outward (telemetrySampleAge host sample) := by
  refine outward_bind ?_ fun age => ?_
  · exact outward_ite (outward_bind (outward_floatOrSkip _) fun _ => outward_pure _)
      (outward_pure _)
  · cases age with
    | some a => exact outward_pure _
    | none =>
      refine outward_bind (outward_sinceField _ _) fun received => ?_
      cases received with
      | some a => exact outward_pure _
      | none => exact outward_sinceField _ _

theorem outward_pollTelemetry (device process signal : String) (timeoutS maxAgeS deadline : F64) :
    Outward (pollTelemetry host device process signal timeoutS maxAgeS deadline) := by
  refine outward_bind (outward_dispatchGetTelemetry _ _ _) fun sample => ?_
  refine outward_bind ?_ fun fresh => ?_
  · unfold pollTelemetry.freshValue
    split
    · exact outward_pure _
    · exact outward_pure _
    · exact outward_bind (outward_telemetrySampleAge _) fun _ =>
        outward_ite (outward_pure _) (outward_pure _)
  · cases fresh with
    | some v => exact outward_pure _
    | none =>
      exact outward_bind outward_now fun _ => outward_ite (outward_raise _) (outward_pure _)

theorem outward_sampleAdaptiveTelemetry (config : Entries) :
    Outward (sampleAdaptiveTelemetry host config) := by
  refine outward_ite (outward_raise _) ?_
  refine outward_bind (outward_except _) fun _ => outward_bind (outward_except _) fun _ => ?_
  exact outward_bind outward_now fun _ => outward_iterate fun _ => outward_pollTelemetry _ _ _ _ _ _

theorem outward_renderCallTarget (device process action : Value) :
    Outward (renderCallTarget host vars device process action) := by
  refine outward_bind (fun _ => keeps_ofFun fun _ h => h) fun _ => ?_
  refine outward_bind (outward_except _) fun _ => outward_bind (outward_except _) fun _ => ?_
  refine outward_bind (outward_except _) fun _ => ?_
  exact outward_ite (outward_raise _) (outward_ite (outward_raise _) (outward_pure _))

theorem outward_sampleAdaptiveCall (config : Entries) :
    Outward (sampleAdaptiveCall host vars config) := by
  refine outward_bind (outward_renderCallTarget _ _ _ _) fun _ => ?_
  refine outward_bind (outward_except _) fun _ => outward_bind (outward_render _ _) fun _ => ?_
  refine outward_bind (outward_dispatchCall _ _ _ _) fun reply => outward_ite ?_ (outward_raise _)
  split
  · exact outward_except _
  · exact outward_pure _

theorem outward_sampleAdaptiveSource (spec : Value) :
    Outward (sampleAdaptiveSource host vars spec) := by
  unfold sampleAdaptiveSource
  split
  · refine outward_bind (outward_except _) fun _ => outward_bind (outward_render _ _) fun _ => ?_
    exact outward_ite (outward_raise _) (outward_ite (outward_sampleAdaptiveTelemetry _)
      (outward_ite (outward_sampleAdaptiveCall _ _) (outward_raise _)))
  · exact outward_raise _

theorem outward_sampleRemaining (values spec : Entries) :
    Outward (sampleRemaining host vars values spec) := by
  induction spec generalizing values with
  | nil => exact outward_pure _
  | cons e rest ih =>
    exact outward_ite (ih values)
      (outward_bind (outward_sampleAdaptiveSource _ _) fun _ => ih _)

theorem sampleRemaining_values {vars : Env} {values values' spec : Entries} {n : Nat}
    {d d' : Data World} (h : (sampleRemaining host vars values spec).run n d = .ok values' d') :
    values <+: values' := by
  induction spec generalizing values d with
  | nil =>
    simp only [sampleRemaining,run_pure,Outcome.ok.injEq] at h
    exact h.1 ▸ prefix_rfl
  | cons e rest ih =>
    simp only [sampleRemaining] at h
    split at h
    · exact ih h
    · rw [run_bind] at h
      split at h
      · exact (prefix_append _ _).trans (ih h)
      · cases h
      · cases h

end

def pollObservation (host : Host World) (vars : Env) : D World (Option Trial) := do
  let t ← now host
  let d ← Prog.get
  match d.adaptiveObserveState with
  | none => pure none
  | some st => stepAdaptiveObservation host vars t st

def clocked (host : Host World) (d : Data World) : Data World :=
  { d with world := (host.monotonic d.world).2 }

def served (host : Host World) (metrics : List OutputMetric) (st : ObserveState)
    (d : Data World) : Data World :=
  { clocked host d with
    analysisOutputs := takeEach host metrics d.analysisOutputs
    adaptiveObserveState := some { st with nextCheckT := none } }

def Missing (host : Host World) (m : OutputMetric) (buffer : List Entries) : Prop :=
  ∀ payload, buffer.find? (isMatch host m.source) = some payload →
    matchOutput host m.source payload ≠ .hit

def Ready (host : Host World) (vars : Env) (metrics : List OutputMetric) (d : Data World) : Prop :=
  ∀ st, d.adaptiveObserveState = some st → st.currentRepeat < st.repeats →
    (∃ m rest, metrics = m :: rest ∧ Missing host m d.analysisOutputs) ∨
    (∀ m ∈ metrics, (nextValue host m d.analysisOutputs).isSome) ∧
      ∃ n values d', (sampleRemaining host vars (outputValues host metrics d.analysisOutputs)
        st.metricsSpec).run n (served host metrics st d) = .ok values d'

structure Observing (host : Host World) (vars : Env) (metrics : List OutputMetric)
    (st : ObserveState) (d : Data World) : Prop where
  state : d.adaptiveObserveState = some st
  ok : st.trial.ok = true
  metrics : readMetrics host (buildEnvView d.env vars) st.trial.contextId st.metricsSpec =
    .ok metrics

def Polled (d d' : Data World) : Prop :=
  d' = { d with
    world := d'.world
    analysisOutputs := d'.analysisOutputs
    adaptiveObserveState := d'.adaptiveObserveState }

structure Stays (st st' : ObserveState) : Prop where
  metricsSpec : st'.metricsSpec = st.metricsSpec
  repeats : st'.repeats = st.repeats
  ok : st'.trial.ok = st.trial.ok
  contextId : st'.trial.contextId = st.trial.contextId

structure Waited (st st' : ObserveState) : Prop extends Stays st st' where
  currentRepeat : st'.currentRepeat = st.currentRepeat
  replicates : st'.trial.replicates = st.trial.replicates

variable {host : Host World} {vars : Env} {metrics : List OutputMetric} {st : ObserveState}
  {d d' : Data World} {n : Nat}

theorem Observing.poll (h : Observing host vars metrics st d) :
    (pollObservation host vars).run n d =
      (stepAdaptiveObservation host vars (host.monotonic d.world).1 st).run n (clocked host d) := by
  simp [pollObservation,run_bind,now,run_ofFun,clocked,h.state]

theorem Observing.poll_repeat (h : Observing host vars metrics st d)
    (hcur : st.currentRepeat < st.repeats) : (pollObservation host vars).run n d =
      match (collectAdaptiveRepeat host vars st (host.monotonic d.world).1).run n
        (clocked host d) with
      | .ok () d' => .ok none d'
      | .raised e d' => .ok (some (failTrial e.message
          ((d'.adaptiveObserveState.map ObserveState.trial).getD st.trial)))
          { d' with adaptiveObserveState := none }
      | .diverged => .diverged := by
  rw [h.poll,stepAdaptiveObservation,if_pos h.ok,if_pos hcur,run_bind,run_attempt]
  cases (collectAdaptiveRepeat host vars st (host.monotonic d.world).1).run n
    (clocked host d) with
  | ok a d' => rfl
  | raised e d' => rfl
  | diverged => rfl

def Idled (st : ObserveState) (d d' : Data World) : Prop :=
  Polled d d' ∧ d'.analysisOutputs = d.analysisOutputs ∧
    ∃ st', d'.adaptiveObserveState = some st' ∧ Waited st st'

theorem Idled.world {w : World} (h : Idled st d d') : Idled st d { d' with world := w } := by
  obtain ⟨hp,ho,hst⟩ := h
  refine ⟨?_,ho,hst⟩
  simp only [Polled] at hp ⊢
  rw [hp]

theorem Idled.mapObserve {f : ObserveState → ObserveState} (hf : ∀ st, Waited st (f st))
    (h : Idled st d d') :
    Idled st d { d' with adaptiveObserveState := d'.adaptiveObserveState.map f } := by
  obtain ⟨hp,ho,st',hst,hw⟩ := h
  refine ⟨?_,ho,f st',by simp [hst],?_⟩
  · simp only [Polled] at hp ⊢
    rw [hp]
  · have hf' := hf st'
    exact ⟨⟨hf'.metricsSpec.trans hw.metricsSpec,hf'.repeats.trans hw.repeats,
      hf'.ok.trans hw.ok,hf'.contextId.trans hw.contextId⟩,
      hf'.currentRepeat.trans hw.currentRepeat,hf'.replicates.trans hw.replicates⟩

theorem checkObserveTimeout_keeps (source : OutputSource) (timeoutS : F64) :
    Keeps (Idled st d) (checkObserveTimeout host source timeoutS) := by
  have hnow : Keeps (Idled st d) (now host) := keeps_ofFun fun _ h => h.world
  refine .ite (fun _ => ?_) (fun _ => .pure fun _ h => h)
  refine hnow.bind fun t => ?_
  refine .bind (Q := fun _ => Idled st d) (.modify ?_) fun _ => ?_
  · intro d' h
    exact h.mapObserve fun st => ⟨⟨rfl,rfl,rfl,rfl⟩,rfl,rfl⟩
  · refine hnow.bind fun t' => ?_
    refine .bind (Q := fun _ => Idled st d) (.get fun _ h => h) fun _ => ?_
    exact .ite (fun _ => .raise fun _ h => h)
      (fun _ => .pure fun _ h => h)

theorem Observing.clocked_metrics (h : Observing host vars metrics st d) :
    readMetrics host (buildEnvView (clocked host d).env vars) st.trial.contextId st.metricsSpec =
      .ok metrics := h.metrics

theorem Observing.poll_served (h : Observing host vars metrics st d)
    (hcur : st.currentRepeat < st.repeats)
    (hapart : metrics.Pairwise fun m m' => Apart m.source m'.source)
    (hv : ∀ m ∈ metrics, (nextValue host m d.analysisOutputs).isSome) :
    (pollObservation host vars).run n d =
      match (sampleRemaining host vars (outputValues host metrics d.analysisOutputs)
        st.metricsSpec).run n (served host metrics st d) with
      | .ok values d' => .ok none { d' with
          adaptiveObserveState := d'.adaptiveObserveState.map fun st => { st with
            trial := { st.trial with replicates := appendReplicates values st.trial.replicates }
            currentRepeat := st.currentRepeat+1 } }
      | .raised e d' => .ok (some (failTrial e.message
          ((d'.adaptiveObserveState.map ObserveState.trial).getD st.trial)))
          { d' with adaptiveObserveState := none }
      | .diverged => .diverged := by
  have hserved : { clocked host d with
      analysisOutputs := takeEach host metrics (clocked host d).analysisOutputs
      adaptiveObserveState := (clocked host d).adaptiveObserveState.map fun st =>
        { st with nextCheckT := none } } = served host metrics st d := by
    simp [served,clocked,h.state]
  rw [h.poll_repeat hcur]
  simp only [collectAdaptiveRepeat,run_bind,
    sampleOutputs_served h.clocked_metrics hapart hv,modifyObserve,run_modify,hserved]
  rw [show (clocked host d).analysisOutputs = d.analysisOutputs from rfl]
  cases (sampleRemaining host vars (outputValues host metrics d.analysisOutputs)
    st.metricsSpec).run n (served host metrics st d) with
  | ok values d' => rfl
  | raised e d' => rfl
  | diverged => rfl

def checkLater (host : Host World) (t : F64) (d : Data World) : Data World :=
  { d with adaptiveObserveState := d.adaptiveObserveState.map fun st =>
      { st with nextCheckT := some (host.num.add t observePollS) } }

theorem Idled.checkLater (t : F64) (h : Idled st d d') : Idled st d (checkLater host t d') :=
  h.mapObserve fun _ => ⟨⟨rfl,rfl,rfl,rfl⟩,rfl,rfl⟩

theorem Observing.poll_waits {m : OutputMetric} {rest : List OutputMetric}
    (h : Observing host vars (m :: rest) st d) (hcur : st.currentRepeat < st.repeats)
    (hm : Missing host m d.analysisOutputs) : (pollObservation host vars).run n d =
      if (d.analysisOutputs.find? (isMatch host m.source)).isSome then
        .ok none (checkLater host (host.monotonic d.world).1 { clocked host d with
          analysisOutputs := d.analysisOutputs.eraseP (isMatch host m.source) })
      else match (checkObserveTimeout host m.source m.timeoutS).run n (clocked host d) with
        | .ok () d' => .ok none (checkLater host (host.monotonic d.world).1 d')
        | .raised e d' => .ok (some (failTrial e.message
            ((d'.adaptiveObserveState.map ObserveState.trial).getD st.trial)))
            { d' with adaptiveObserveState := none }
        | .diverged => .diverged := by
  rw [h.poll_repeat hcur]
  simp only [collectAdaptiveRepeat,run_bind,sampleOutputs_waits h.clocked_metrics hm]
  rw [show (clocked host d).analysisOutputs = d.analysisOutputs from rfl]
  by_cases hsome : (d.analysisOutputs.find? (isMatch host m.source)).isSome
  · rw [if_pos hsome,if_pos hsome]
    rfl
  · rw [if_neg hsome,if_neg hsome]
    cases (checkObserveTimeout host m.source m.timeoutS).run n (clocked host d) with
    | ok a d' => rfl
    | raised e d' => rfl
    | diverged => rfl

theorem computeAdaptiveScore_run (observe trialMetrics : Entries)
    (aggregates : List (String × Entries)) :
    (∃ v, (computeAdaptiveScore host vars observe trialMetrics aggregates).run n d = .ok v d) ∨
      ∃ e, (computeAdaptiveScore host vars observe trialMetrics aggregates).run n d =
        .raised e d := by
  simp only [computeAdaptiveScore,run_bind,envView,run_ofFun]
  split
  · split <;> exact .inl ⟨_,rfl⟩
  · simp only [renderIn,except,run_ofFun]
    split
    · rename_i hv
      simp only [Prod.mk.injEq] at hv
      rw [← hv.2]
      exact .inl ⟨_,rfl⟩
    · rename_i hv
      simp only [Prod.mk.injEq] at hv
      rw [← hv.2]
      exact .inr ⟨_,rfl⟩

theorem evaluateTrial_run (observe : Entries) (refusal : PyExc → String) (trial : Trial) :
    ∃ trial', (evaluateTrial host vars observe refusal trial trial.replicates).run n d =
      .ok trial' d ∧ trial'.replicates = trial.replicates := by
  unfold evaluateTrial
  split
  · exact ⟨_,rfl,rfl⟩
  · simp only [scoreTrial,run_bind,run_attempt]
    rcases @computeAdaptiveScore_run World host vars d n observe _ _ with
      ⟨v,hv⟩ | ⟨e,he⟩
    · rw [hv]
      simp only []
      split
      · exact ⟨_,rfl,rfl⟩
      · split <;> exact ⟨_,rfl,rfl⟩
    · rw [he]
      exact ⟨_,rfl,rfl⟩

theorem Observing.poll_ends (h : Observing host vars metrics st d)
    (hdone : st.repeats ≤ st.currentRepeat) :
    ∃ trial d', (pollObservation host vars).run n d = .ok (some trial) d' ∧
      trial.replicates = st.trial.replicates := by
  obtain ⟨trial,htrial,hreps⟩ := @evaluateTrial_run World host vars
    (clocked host d) n st.frame.spec.observe PyExc.message st.trial
  refine ⟨trial,{ clocked host d with adaptiveObserveState := none },?_,hreps⟩
  rw [h.poll,stepAdaptiveObservation,if_pos h.ok,if_neg (by omega),run_bind,htrial]
  rfl

theorem Observing.poll_pending (h : Observing host vars metrics st d)
    (hapart : metrics.Pairwise fun m m' => Apart m.source m'.source)
    (hready : Ready host vars metrics d) (hrun : (pollObservation host vars).run n d = .ok none d') :
    Polled d d' ∧ st.currentRepeat < st.repeats ∧ ∃ st', d'.adaptiveObserveState = some st' ∧
      ((∃ m rest, metrics = m :: rest ∧ Missing host m d.analysisOutputs ∧
          d'.analysisOutputs = d.analysisOutputs.eraseP (isMatch host m.source) ∧ Waited st st') ∨
        ((∀ m ∈ metrics, (nextValue host m d.analysisOutputs).isSome) ∧
          d'.analysisOutputs = takeEach host metrics d.analysisOutputs ∧ Stays st st' ∧
          st'.currentRepeat = st.currentRepeat+1 ∧
          ∃ values, outputValues host metrics d.analysisOutputs <+: values ∧
            st'.trial.replicates = appendReplicates values st.trial.replicates)) := by
  have hcur : st.currentRepeat < st.repeats := by
    by_contra hdone
    obtain ⟨trial,d₁,hend,-⟩ := h.poll_ends (n := n) (by omega)
    rw [hend] at hrun
    simp at hrun
  rcases hready st h.state hcur with ⟨m,rest,rfl,hm⟩ | ⟨hv,-⟩
  · rw [h.poll_waits hcur hm] at hrun
    have hidle : Idled st d (clocked host d) :=
      ⟨rfl,rfl,st,h.state,⟨⟨rfl,rfl,rfl,rfl⟩,rfl,rfl⟩⟩
    split at hrun
    · simp only [Outcome.ok.injEq,true_and] at hrun
      subst hrun
      obtain ⟨-,-,st',hst,hw⟩ := hidle.checkLater (host.monotonic d.world).1
      exact ⟨rfl,hcur,st',hst,.inl ⟨m,rest,rfl,hm,rfl,hw⟩⟩
    · rename_i hnone
      have hkeeps := @checkObserveTimeout_keeps World host st d m.source m.timeoutS n _ hidle
      split at hrun
      · rename_i d₁ hd₁
        rw [hd₁] at hkeeps
        simp only [Outcome.ok.injEq,true_and] at hrun
        subst hrun
        obtain ⟨hp,ho,st',hst,hw⟩ := hkeeps.checkLater (host.monotonic d.world).1
        refine ⟨hp,hcur,st',hst,.inl ⟨m,rest,rfl,hm,?_,hw⟩⟩
        have hno : ∀ payload ∈ d.analysisOutputs, ¬ isMatch host m.source payload = true := by
          simpa using hnone
        exact ho.trans (eraseP_of_forall_not hno).symm
      · cases hrun
      · cases hrun
  · rw [h.poll_served hcur hapart hv] at hrun
    split at hrun
    · rename_i values d₁ hd₁
      have hbeside : Beside (served host metrics st d) d₁ :=
        (outward_sampleRemaining vars _ _ (served host metrics st d)).ok (Beside.refl _) hd₁
      simp only [Outcome.ok.injEq,true_and] at hrun
      subst hrun
      rw [hbeside]
      refine ⟨rfl,hcur,_,rfl,.inr ⟨hv,rfl,⟨rfl,rfl,rfl,rfl⟩,rfl,values,?_,rfl⟩⟩
      exact sampleRemaining_values hd₁
    · cases hrun
    · cases hrun

end ExperimentControl.Sequencer

import ExperimentControl.Sequencer.Observation

/-!
Analysis outputs on their way into a trial, from the start of its observation to its
end: which of them the trial has recorded, and when it has them all.
-/

namespace ExperimentControl.Sequencer
open Lib Python Prog List Option Bool Prod

variable {World : Type}

def bucketOf (replicates : List (String × List Value)) (name : String) : List Value :=
  ((replicates.find? fun r => r.1 = name).map snd).getD []

/-- The outputs for a metric are the ones it took, each of them in the replicates, and
the ones in the buffer. -/
def Recorded (host : Host World) (m : OutputMetric) (outputs buffer : List Entries)
    (replicates : List (String × List Value)) : Prop :=
  ∃ taken, hits host m.source outputs = taken ++ hits host m.source buffer ∧
    List.Forall₂ (fun payload v => extractOutputValue host payload m.config = .ok v) taken
      (bucketOf replicates m.name)

structure Ledger (host : Host World) (vars : Env) (metrics : List OutputMetric)
    (outputs : List Entries) (st : ObserveState) (d : Data World) : Prop where
  observing : Observing host vars metrics st d
  names : st.trial.replicates.map fst = st.metricsSpec.map fst
  recorded : ∀ m ∈ metrics, Recorded host m outputs d.analysisOutputs st.trial.replicates
  counted : ∀ m ∈ metrics, ((bucketOf st.trial.replicates m.name).length : Int) = st.currentRepeat
  bounded : st.currentRepeat ≤ st.repeats

section
variable {host : Host World} {vars : Env} {metrics : List OutputMetric} {st : ObserveState}
  {d d' : Data World} {n : Nat} {outputs buffer : List Entries}

theorem item?_extended {values values' : Entries} {name : String} {v : Value}
    (h : item? values name = some v) (hp : values <+: values') : item? values' name = some v := by
  obtain ⟨more,rfl⟩ := hp
  simp only [item?,map_eq_some_iff] at h ⊢
  obtain ⟨e,he,hv⟩ := h
  exact ⟨e,by rw [find?_append,he]; rfl,hv⟩

theorem appendReplicates_names (values : Entries) (replicates : List (String × List Value)) :
    (appendReplicates values replicates).map fst = replicates.map fst := by
  induction replicates with
  | nil => rfl
  | cons r rest ih => simp [appendReplicates,ih]

theorem bucketOf_append {values : Entries} {replicates : List (String × List Value)}
    {name : String} {v : Value} (hv : item? values name = some v)
    (hname : name ∈ replicates.map fst) :
    bucketOf (appendReplicates values replicates) name = bucketOf replicates name ++ [v] := by
  induction replicates with
  | nil => simp at hname
  | cons r rest ih =>
    obtain ⟨name',bucket⟩ := r
    by_cases heq : name' = name
    · subst heq
      simp [bucketOf,appendReplicates,hv]
    · have hrest : name ∈ rest.map fst := by
        rcases mem_cons.1 hname with h | h
        · exact absurd h.symm heq
        · exact h
      have := ih hrest
      simp only [bucketOf] at this
      simpa [bucketOf,appendReplicates,heq] using this

theorem bucketOf_emptyReplicates (spec : Entries) (name : String) :
    bucketOf (emptyReplicates spec) name = [] := by
  induction spec with
  | nil => rfl
  | cons e rest ih =>
    simp only [bucketOf,emptyReplicates] at ih
    by_cases heq : e.1 = name
    · simp [bucketOf,emptyReplicates,heq]
    · simpa [bucketOf,emptyReplicates,heq] using ih

variable {m : OutputMetric}

theorem item?_outputValues (hnames : (metrics.map OutputMetric.name).Nodup)
    (hv : ∀ m ∈ metrics, (nextValue host m buffer).isSome) (hm : m ∈ metrics) :
    item? (outputValues host metrics buffer) m.name = nextValue host m buffer := by
  induction metrics with
  | nil => simp at hm
  | cons m' rest ih =>
    simp only [map_cons,nodup_cons] at hnames
    obtain ⟨v,hval⟩ := isSome_iff_exists.1 (hv m' mem_cons_self)
    rcases mem_cons.1 hm with rfl | hm
    · simp [outputValues,hval,item?]
    · have hne : m'.name ≠ m.name := by
        intro heq
        exact hnames.1 (heq ▸ mem_map_of_mem hm)
      have := ih hnames.2 (fun m hm => hv m (mem_cons_of_mem _ hm)) hm
      simp only [outputValues,item?] at this
      simpa [outputValues,hval,item?,hne] using this

theorem hits_takeEach_apart {source : OutputSource}
    (h : ∀ m ∈ metrics, Apart m.source source) (buffer : List Entries) :
    hits host source (takeEach host metrics buffer) = hits host source buffer := by
  induction metrics generalizing buffer with
  | nil => rfl
  | cons m rest ih =>
    rw [takeEach,ih (fun m hm => h m (mem_cons_of_mem _ hm)),
      (h m mem_cons_self).hits_eraseP]

theorem hits_takeEach (hapart : metrics.Pairwise fun m m' => Apart m.source m'.source)
    (hm : m ∈ metrics) {v : Value} (hv : nextValue host m buffer = some v) :
    ∃ payload, extractOutputValue host payload m.config = .ok v ∧ hits host m.source buffer =
        payload :: hits host m.source (takeEach host metrics buffer) := by
  induction metrics generalizing buffer with
  | nil => simp at hm
  | cons m' rest ih =>
    obtain ⟨hm',hrest⟩ := pairwise_cons.1 hapart
    rcases mem_cons.1 hm with rfl | hm
    · obtain ⟨payload,hp,hhit,he⟩ := nextValue_eq_some hv
      refine ⟨payload,he,?_⟩
      rw [takeEach,hits_takeEach_apart fun m' h => (hm' m' h).symm]
      exact hits_eraseP_of_hit hp hhit
    · obtain ⟨payload,he,hhits⟩ := ih hrest hm ((nextValue_eraseP (hm' m hm) buffer).trans hv)
      rw [(hm' m hm).hits_eraseP] at hhits
      exact ⟨payload,he,hhits⟩

theorem hits_waited {m₀ : OutputMetric} {rest : List OutputMetric}
    (hapart : (m₀ :: rest).Pairwise fun m m' => Apart m.source m'.source)
    (hmissing : Missing host m₀ buffer) (hm : m ∈ m₀ :: rest) :
    hits host m.source (buffer.eraseP (isMatch host m₀.source)) = hits host m.source buffer := by
  rcases mem_cons.1 hm with rfl | hm
  · exact hits_eraseP_of_not_hit hmissing
  · exact ((pairwise_cons.1 hapart).1 m hm).hits_eraseP buffer

theorem Observing.stays {st' : ObserveState} (h : Observing host vars metrics st d)
    (hp : Polled d d') (hst : d'.adaptiveObserveState = some st') (hs : Stays st st') :
    Observing host vars metrics st' d' := by
  refine ⟨hst,hs.ok.trans h.ok,?_⟩
  have henv : d'.env = d.env := by rw [hp]
  rw [henv,hs.contextId,hs.metricsSpec]
  exact h.metrics

theorem recordOutput_eq {payload : Entries} (hroom : d.analysisOutputs.length < outputLimit) :
    recordOutput payload d = { d with analysisOutputs := d.analysisOutputs ++ [payload] } := by
  have hkept : (d.analysisOutputs ++ [payload]).length-outputLimit = 0 := by
    rw [length_append,length_singleton]
    omega
  rw [recordOutput,hkept,drop_zero]

theorem Ledger.arrive (h : Ledger host vars metrics outputs st d) (payload : Entries)
    (hroom : d.analysisOutputs.length < outputLimit) :
    Ledger host vars metrics (outputs ++ [payload]) st (recordOutput payload d) := by
  rw [recordOutput_eq hroom]
  refine ⟨⟨h.observing.state,h.observing.ok,h.observing.metrics⟩,h.names,?_,h.counted,h.bounded⟩
  intro m hm
  obtain ⟨taken,hhits,hvalues⟩ := h.recorded m hm
  refine ⟨taken,?_,hvalues⟩
  rw [hits_append,hits_append,hhits,append_assoc]

theorem Ledger.poll (h : Ledger host vars metrics outputs st d)
    (hkeys : (st.metricsSpec.map fst).Nodup)
    (hapart : metrics.Pairwise fun m m' => Apart m.source m'.source)
    (hready : Ready host vars metrics d) (hrun : (pollObservation host vars).run n d = .ok none d') :
    ∃ st', Ledger host vars metrics outputs st' d' ∧ Stays st st' := by
  obtain ⟨hp,hcur,st',hst,⟨m₀,rest,rfl,hmissing,hbuffer,hw⟩ |
    ⟨hv,hbuffer,hs,hrepeat,values,hvalues,hreps⟩⟩ := h.observing.poll_pending hapart hready hrun
  · refine ⟨st',⟨h.observing.stays hp hst hw.toStays,?_,?_,?_,?_⟩,hw.toStays⟩
    · rw [hw.replicates,hw.metricsSpec]
      exact h.names
    · intro m hm
      obtain ⟨taken,hhits,htaken⟩ := h.recorded m hm
      refine ⟨taken,?_,by rw [hw.replicates]; exact htaken⟩
      rw [hbuffer,hits_waited hapart hmissing hm]
      exact hhits
    · intro m hm
      rw [hw.replicates,hw.currentRepeat]
      exact h.counted m hm
    · rw [hw.currentRepeat,hw.repeats]
      exact h.bounded
  · have hnames := readMetrics_names h.observing.metrics
    have hbucket : ∀ m ∈ metrics, ∀ v, nextValue host m d.analysisOutputs = some v →
        bucketOf st'.trial.replicates m.name = bucketOf st.trial.replicates m.name ++ [v] := by
      intro m hm v hval
      rw [hreps]
      refine bucketOf_append (item?_extended ?_ hvalues) ?_
      · rw [item?_outputValues (hkeys.sublist hnames) hv hm,hval]
      · rw [h.names]
        exact hnames.subset (mem_map_of_mem hm)
    refine ⟨st',⟨h.observing.stays hp hst hs,?_,?_,?_,?_⟩,hs⟩
    · rw [hreps,appendReplicates_names,hs.metricsSpec]
      exact h.names
    · intro m hm
      obtain ⟨taken,hhits,htaken⟩ := h.recorded m hm
      obtain ⟨v,hval⟩ := isSome_iff_exists.1 (hv m hm)
      obtain ⟨payload,he,hfirst⟩ := hits_takeEach hapart hm hval
      refine ⟨taken ++ [payload],?_,?_⟩
      · rw [hbuffer,hhits,hfirst]
        simp
      · rw [hbucket m hm v hval]
        exact rel_append htaken (.cons he .nil)
    · intro m hm
      obtain ⟨v,hval⟩ := isSome_iff_exists.1 (hv m hm)
      have := h.counted m hm
      rw [hbucket m hm v hval,hrepeat]
      simp
      omega
    · rw [hrepeat,hs.repeats]
      omega

end

/-- A tick comes to the pending observation: nothing else is waited for, and no stop or
pause is due. -/
structure Idle (s : RtState World) : Prop where
  running : s.ctl.state = .running
  stack : s.ctl.pending.isSome = true → s.ctl.stack ≠ []
  free : interruptible s = true → s.ctl.stopRequested = false ∧ s.ctl.pauseRequested = false
  sleepUntil : s.data.sleepUntil = none
  waitState : s.data.waitState = none
  setContextState : s.data.setContextState = none
  parallelState : s.data.parallelState = none

section
variable {host : Host World} {s : RtState World} {st : ObserveState} {n : Nat}

theorem Idle.checkStopPause (h : Idle s) :
    (Sequencer.checkStopPause host).run n s = .ok false s := by
  simp only [Sequencer.checkStopPause,run_bind,getCtl,isInterruptible,run_ofFun]
  cases hfree : interruptible s with
  | true =>
    obtain ⟨hstop,hpause⟩ := h.free hfree
    simp [hstop,hpause]
  | false => simp

theorem Idle.resumePending (h : Idle s) (t : F64) :
    (Sequencer.resumePending host t).run n s = (resumeObservation host t).run n s := by
  simp only [Sequencer.resumePending,resumeAll,run_bind,resumeSleep,resumeWait,
    resumeSetContext,resumeParallel,getData,run_ofFun,h.sleepUntil,h.waitState,
    h.setContextState,h.parallelState,run_pure,if_true]
  cases (resumeObservation host t).run n s with
  | ok go s' => cases go <;> rfl
  | raised e s' => rfl
  | diverged => rfl

theorem Idle.tick (h : Idle s) (hst : s.data.adaptiveObserveState = some st) {d' : Data World}
    (hpoll : (pollObservation host s.ctl.vars).run n s.data = .ok none d') :
    (Sequencer.tick host).run n s = .ok false { s with data := d' } := by
  have hidle : Idle { s with data := clocked host s.data } := ⟨h.running,h.stack,h.free,
    h.sleepUntil,h.waitState,h.setContextState,h.parallelState⟩
  have hstack : (s.ctl.pending.isSome && s.ctl.stack.isEmpty) = false := by
    cases hp : s.ctl.pending.isSome with
    | false => rfl
    | true => simpa using h.stack hp
  have hstep : (stepAdaptiveObservation host s.ctl.vars (host.monotonic s.data.world).1 st).run n
      (clocked host s.data) = .ok none d' := by
    simpa [pollObservation,run_bind,now,run_ofFun,clocked,hst] using hpoll
  have hresume : (Sequencer.resumePending host (host.monotonic s.data.world).1).run n
      { s with data := clocked host s.data } = .ok false { s with data := d' } := by
    have hobs : (clocked host s.data).adaptiveObserveState = some st := hst
    rw [hidle.resumePending]
    simp only [resumeObservation,run_bind,getData,run_ofFun,hobs,withVars,getCtl,onData,
      zoom,hstep,run_pure]
  have hnow : (onData (now host)).run n s =
      .ok (host.monotonic s.data.world).1 { s with data := clocked host s.data } := rfl
  have hbody : (tickBody host).run n s = .ok false { s with data := d' } := by
    simp only [tickBody,run_bind,getCtl,run_ofFun,hstack,false_eq_true,if_false,
      h.checkStopPause,hnow,hresume,run_pure]
  simp only [Sequencer.tick,run_bind,getCtl,run_ofFun,h.running,Prog.tryCatch]
  simp [hbody]

end

/-- What may happen while a trial is pending: outputs arrive, as long as the buffer has
room for them, and ticks poll, each in a state that meets `ok`. -/
inductive Watched (host : Host World) (ok : RtState World → Prop) (s₀ : RtState World) :
    List Entries → Nat → RtState World → Prop
  | start : Watched host ok s₀ [] 0 s₀
  | arrive {arrived : List Entries} {ticks : Nat} {s : RtState World} (payload : Entries) :
    Watched host ok s₀ arrived ticks s → s.data.analysisOutputs.length < outputLimit →
    Watched host ok s₀ (arrived ++ [payload]) ticks
      { s with data := recordOutput payload s.data }
  | tick {arrived : List Entries} {ticks n : Nat} {s : RtState World} {d : Data World} :
    Watched host ok s₀ arrived ticks s → ok s →
    (pollObservation host s.ctl.vars).run n s.data = .ok none d →
    Watched host ok s₀ arrived (ticks+1) { s with data := d }

/-- The next repeat of the runtime's observation waits at its first metric or goes through. -/
def ReadyIn (host : Host World) (metrics : List OutputMetric) (s : RtState World) : Prop :=
  Ready host s.ctl.vars metrics s.data

section
variable {host : Host World} {metrics : List OutputMetric} {s s' : RtState World}
  {st : ObserveState} {arrived outputs : List Entries} {ticks n : Nat}

theorem Stays.refl (st : ObserveState) : Stays st st := ⟨rfl,rfl,rfl,rfl⟩

theorem Stays.trans {st₁ st₂ : ObserveState} (h : Stays st st₁) (h' : Stays st₁ st₂) :
    Stays st st₂ :=
  ⟨h'.metricsSpec.trans h.metricsSpec,h'.repeats.trans h.repeats,h'.ok.trans h.ok,
    h'.contextId.trans h.contextId⟩

theorem Ledger.watched (hw : Watched host (ReadyIn host metrics) s arrived ticks s')
    (h : Ledger host s.ctl.vars metrics outputs st s.data)
    (hkeys : (st.metricsSpec.map fst).Nodup)
    (hapart : metrics.Pairwise fun m m' => Apart m.source m'.source) :
    ∃ st', Stays st st' ∧ Ledger host s'.ctl.vars metrics (outputs ++ arrived) st' s'.data := by
  induction hw with
  | start => exact ⟨st,.refl st,by simpa using h⟩
  | arrive payload _ hroom ih =>
    obtain ⟨st',hs,hl⟩ := ih
    refine ⟨st',hs,?_⟩
    rw [← append_assoc]
    exact hl.arrive payload hroom
  | tick _ hready hpoll ih =>
    obtain ⟨st',hs,hl⟩ := ih
    have hkeys' : (st'.metricsSpec.map fst).Nodup := by rwa [hs.metricsSpec]
    obtain ⟨st₂,hl₂,hs₂⟩ := hl.poll hkeys' hapart hready hpoll
    exact ⟨st₂,hs.trans hs₂,hl₂⟩

def Supplied (host : Host World) (metrics : List OutputMetric) (st : ObserveState)
    (bound ticks : Nat) (buffer : List Entries) : Prop :=
  ∃ early late, buffer = early ++ late ∧ early.length+ticks ≤ bound ∧
    ∀ m ∈ metrics, st.repeats ≤ st.currentRepeat+(hits host m.source early).length

theorem takeEach_append (hapart : metrics.Pairwise fun m m' => Apart m.source m'.source)
    {early : List Entries} (late : List Entries)
    (h : ∀ m ∈ metrics, (early.find? (isMatch host m.source)).isSome) :
    takeEach host metrics (early ++ late) = takeEach host metrics early ++ late ∧
      (takeEach host metrics early).length+metrics.length = early.length := by
  induction metrics generalizing early with
  | nil => simp [takeEach]
  | cons m rest ih =>
    obtain ⟨hm,hrest⟩ := pairwise_cons.1 hapart
    obtain ⟨payload,hmem,hmatch⟩ := find?_isSome.1 (h m mem_cons_self)
    have hlen := length_eraseP_of_mem hmem hmatch
    have hpos := length_pos_of_mem hmem
    obtain ⟨happend,hcount⟩ := @ih hrest (early.eraseP (isMatch host m.source)) (by
      intro m' hm'
      rw [(hm m' hm').find?_eraseP]
      exact h m' (mem_cons_of_mem _ hm'))
    refine ⟨?_,?_⟩
    · rw [takeEach,eraseP_append_left hmatch late hmem,happend]
      rfl
    · rw [takeEach,length_cons]
      omega

theorem find?_early {m : OutputMetric} {early : List Entries} (late : List Entries)
    (hneed : st.repeats ≤ st.currentRepeat+(hits host m.source early).length)
    (hcur : st.currentRepeat < st.repeats) : (early.find? (isMatch host m.source)).isSome ∧
      (early ++ late).find? (isMatch host m.source) = early.find? (isMatch host m.source) := by
  cases hh : hits host m.source early with
  | nil =>
    rw [hh] at hneed
    simp at hneed
    omega
  | cons first rest =>
    obtain ⟨payload,hp⟩ := find?_of_hits hh
    refine ⟨by simp [hp],?_⟩
    rw [find?_append,hp]
    rfl

variable {bound : Nat}

theorem Supplied.arrive {buffer : List Entries}
    (h : Supplied host metrics st bound ticks buffer) (payload : Entries) :
    Supplied host metrics st bound ticks (buffer ++ [payload]) := by
  obtain ⟨early,late,rfl,hlen,hneed⟩ := h
  exact ⟨early,late ++ [payload],by simp,hlen,hneed⟩

variable {vars : Env}

theorem Supplied.poll {d d' : Data World} {st' : ObserveState}
    (h : Supplied host metrics st bound ticks d.analysisOutputs)
    (hobs : Observing host vars metrics st d) (hne : metrics ≠ [])
    (hapart : metrics.Pairwise fun m m' => Apart m.source m'.source)
    (hready : Ready host vars metrics d) (hpoll : (pollObservation host vars).run n d = .ok none d')
    (hst' : d'.adaptiveObserveState = some st') :
    Supplied host metrics st' bound (ticks+1) d'.analysisOutputs := by
  obtain ⟨early,late,hbuffer,hlen,hneed⟩ := h
  obtain ⟨-,hcur,st₁,hst₁,hcase⟩ := hobs.poll_pending hapart hready hpoll
  obtain rfl : st₁ = st' := by simpa [hst₁] using hst'
  rcases hcase with ⟨m₀,rest,rfl,hmissing,hleft,hw⟩ | ⟨hv,hleft,hs,hrepeat,-⟩
  · -- A stale output was thrown away; it stood among the first.
    obtain ⟨hsome,hfind⟩ := find?_early late (hneed m₀ mem_cons_self) hcur
    obtain ⟨payload,hmem,hmatch⟩ := find?_isSome.1 hsome
    have hmissing' : Missing host m₀ early := by
      intro payload hp
      refine hmissing payload ?_
      rw [hbuffer,hfind]
      exact hp
    refine ⟨early.eraseP (isMatch host m₀.source),late,?_,?_,?_⟩
    · rw [hleft,hbuffer,eraseP_append_left hmatch late hmem]
    · have := length_eraseP_of_mem hmem hmatch
      have := length_pos_of_mem hmem
      omega
    · intro m hm
      rw [hits_waited hapart hmissing' hm,hw.repeats,hw.currentRepeat]
      exact hneed m hm
  · -- Every metric took its output, and all of these stood among the first.
    have hsome : ∀ m ∈ metrics, (early.find? (isMatch host m.source)).isSome :=
      fun m hm => (find?_early late (hneed m hm) hcur).1
    obtain ⟨happend,hcount⟩ := takeEach_append hapart late hsome
    have hpos := length_pos_iff.2 hne
    refine ⟨takeEach host metrics early,late,?_,by omega,?_⟩
    · rw [hleft,hbuffer,happend]
    · intro m hm
      obtain ⟨v,hval⟩ := isSome_iff_exists.1 (hv m hm)
      have hval' : nextValue host m early = some v := by
        rw [← hval,hbuffer]
        simp only [nextValue,(find?_early late (hneed m hm) hcur).2]
      obtain ⟨payload,-,hfirst⟩ := hits_takeEach hapart hm hval'
      have := hneed m hm
      rw [hfirst,length_cons] at this
      rw [hs.repeats,hrepeat]
      omega

theorem Supplied.watched (hw : Watched host (ReadyIn host metrics) s arrived ticks s')
    (h : Ledger host s.ctl.vars metrics outputs st s.data)
    (hs : Supplied host metrics st bound 0 s.data.analysisOutputs)
    (hne : metrics ≠ []) (hkeys : (st.metricsSpec.map fst).Nodup)
    (hapart : metrics.Pairwise fun m m' => Apart m.source m'.source) :
    ∃ st', Stays st st' ∧ Ledger host s'.ctl.vars metrics (outputs ++ arrived) st' s'.data ∧
      Supplied host metrics st' bound ticks s'.data.analysisOutputs := by
  induction hw with
  | start => exact ⟨st,.refl st,by simpa using h,hs⟩
  | @arrive arrived ticks s₁ payload hw hroom ih =>
    obtain ⟨st',hst,hl,hsup⟩ := ih
    refine ⟨st',hst,?_,?_⟩
    · rw [← append_assoc]
      exact hl.arrive payload hroom
    · simp only [recordOutput_eq hroom]
      exact hsup.arrive payload
  | tick hw hready hpoll ih =>
    obtain ⟨st',hst,hl,hsup⟩ := ih
    have hkeys' : (st'.metricsSpec.map fst).Nodup := by rwa [hst.metricsSpec]
    obtain ⟨st₂,hl₂,hs₂⟩ := hl.poll hkeys' hapart hready hpoll
    exact ⟨st₂,hst.trans hs₂,hl₂,
      hsup.poll hl.observing hne hapart hready hpoll hl₂.observing.state⟩

variable {d : Data World}

theorem Supplied.poll_returns (h : Supplied host metrics st bound ticks d.analysisOutputs)
    (hobs : Observing host vars metrics st d)
    (hapart : metrics.Pairwise fun m m' => Apart m.source m'.source)
    (hready : Ready host vars metrics d) :
    ∃ n, (∃ d', (pollObservation host vars).run n d = .ok none d') ∨
      ∃ trial d', (pollObservation host vars).run n d = .ok (some trial) d' ∧
        st.repeats ≤ st.currentRepeat ∧ trial.replicates = st.trial.replicates := by
  obtain ⟨early,late,hbuffer,hlen,hneed⟩ := h
  by_cases hcur : st.currentRepeat < st.repeats
  · rcases hready st hobs.state hcur with ⟨m,rest,rfl,hmissing⟩ | ⟨hv,n,values,d₁,hrun⟩
    · obtain ⟨hsome,hfind⟩ := find?_early late (hneed m mem_cons_self) hcur
      have hpoll := hobs.poll_waits (n := 0) hcur hmissing
      rw [if_pos (by rw [hbuffer,hfind]; exact hsome)] at hpoll
      exact ⟨0,.inl ⟨_,hpoll⟩⟩
    · have hpoll := hobs.poll_served (n := n) hcur hapart hv
      rw [hrun] at hpoll
      exact ⟨n,.inl ⟨_,hpoll⟩⟩
  · obtain ⟨trial,d',hrun,hreps⟩ := hobs.poll_ends (n := 0) (by omega)
    exact ⟨0,.inr ⟨trial,d',hrun,by omega,hreps⟩⟩

structure Begins (frame : AdaptiveFrame) (st : ObserveState) (d : Data World) : Prop where
  state : d.adaptiveObserveState = some st
  ok : st.trial.ok = true
  metricsSpec : metricsOf frame.spec.observe = some st.metricsSpec
  replicates : st.trial.replicates = emptyReplicates st.metricsSpec
  currentRepeat : st.currentRepeat = 0
  repeats : 0 < st.repeats

theorem observeRepeats_pos (vars : Env) (observe : Entries) :
    Triple (fun _ => True) (observeRepeats host vars observe) (fun n _ => 0 < n)
      (fun _ _ => True) := by
  refine .bind .any fun n => ?_
  refine .ite (fun _ => .raise fun _ h => h) fun hn => ?_
  exact .pure fun _ _ => by omega

theorem startAdaptiveObservation_begins (vars : Env) (frame : AdaptiveFrame) (proposal : Proposal) :
    Triple (fun _ => True) (startAdaptiveObservation host vars frame proposal)
      (fun r d => r = none → ∃ st, Begins frame st d) (fun _ _ => True) := by
  refine .bind .any fun d => ?_
  refine .bind .any fun state => ?_
  cases state with
  | error e => exact .pure fun _ _ h => by cases h
  | ok state =>
    cases hspec : metricsOf frame.spec.observe with
    | none => exact .pure fun _ _ h => by cases h
    | some metricsSpec =>
      refine .bind (observeRepeats_pos vars _) fun repeats => ?_
      refine .bind (Q := fun _ _ => 0 < repeats)
        (fun _ _ h => h) fun t => ?_
      refine .bind (Q := fun _ d => ∃ st, Begins frame st d)
        (.modify ?_) fun _ => .pure fun _ h _ => h
      intro d hpos
      exact ⟨_,rfl,rfl,hspec,rfl,rfl,hpos⟩

theorem Begins.ledger {frame : AdaptiveFrame} (h : Begins frame st d)
    (hmetrics : readMetrics host (buildEnvView d.env vars) st.trial.contextId st.metricsSpec =
      .ok metrics) :
    Ledger host vars metrics d.analysisOutputs st d := by
  refine ⟨⟨h.state,h.ok,hmetrics⟩,?_,?_,?_,?_⟩
  · simp [h.replicates,emptyReplicates,Function.comp_def]
  · intro m hm
    exact ⟨[],rfl,by rw [h.replicates,bucketOf_emptyReplicates]; exact .nil⟩
  · intro m hm
    rw [h.replicates,bucketOf_emptyReplicates,h.currentRepeat]
    rfl
  · rw [h.currentRepeat]
    exact Int.le_of_lt h.repeats

theorem readMetrics_ne_nil {view : Env} {contextId : Int} {spec : Entries}
    (h : readMetrics host view contextId spec = .ok metrics)
    (huses : (spec.any fun e => match e.2 with
      | .dict _ entries => sourceKind host entries = "analysis_output"
      | _ => false) = true) : metrics ≠ [] := by
  induction spec generalizing metrics with
  | nil => simp at huses
  | cons e rest ih =>
    obtain ⟨name,value⟩ := e
    obtain ⟨attr,entries,rfl,⟨hk,hrest⟩ | ⟨m,others,_,rfl,_,_,_⟩⟩ := readMetrics_cons h
    · refine ih hrest ?_
      simpa [any_cons,hk] using huses
    · simp

theorem Begins.metrics_ne_nil {frame : AdaptiveFrame}
    (h : Begins frame st d) (huses : observeUsesAnalysis host frame.spec.observe = true)
    (hmetrics : readMetrics host (buildEnvView d.env vars) st.trial.contextId st.metricsSpec =
      .ok metrics) : metrics ≠ [] := by
  have hspec := h.metricsSpec
  simp only [metricsOf] at hspec
  simp only [observeUsesAnalysis] at huses
  split at hspec
  · rename_i attr e rest hdict
    simp only [Option.some.injEq] at hspec
    rw [hdict,hspec] at huses
    exact readMetrics_ne_nil hmetrics huses
  · cases hspec

/-- In every watch whose repeats wait at their first metric or go through, the outputs that
a metric took are in the replicates. Once every metric has been sent its outputs, no tick
times out, and after as many ticks as there are outputs in the buffer the trial has them
all. -/
theorem outputs_recorded {World : Type} {host : Host World} {frame : AdaptiveFrame}
    {proposal : Proposal} {n : Nat} {d : Data World} {s s' : RtState World} {st : ObserveState}
    {metrics : List OutputMetric} {arrived : List Entries} {ticks : Nat}
    (hstart : (startAdaptiveObservation host s.ctl.vars frame proposal).run n d = .ok none s.data)
    (huses : observeUsesAnalysis host frame.spec.observe = true)
    (hst : s.data.adaptiveObserveState = some st) (hkeys : (st.metricsSpec.map fst).Nodup)
    (hmetrics : readMetrics host (buildEnvView s.data.env s.ctl.vars) st.trial.contextId
      st.metricsSpec = .ok metrics)
    (hapart : metrics.Pairwise fun m m' => Apart m.source m'.source)
    (hw : Watched host (ReadyIn host metrics) s arrived ticks s') :
    (∃ st', s'.data.adaptiveObserveState = some st' ∧ ∀ m ∈ metrics,
      Recorded host m (s.data.analysisOutputs ++ arrived) s'.data.analysisOutputs
        st'.trial.replicates) ∧ ((∀ m ∈ metrics,
        st.repeats ≤ (hits host m.source (s.data.analysisOutputs ++ arrived)).length) →
      ∀ {arrived' : List Entries} {ticks' : Nat} {s'' : RtState World},
        Watched host (ReadyIn host metrics) s' arrived' ticks' s'' →
        ticks' ≤ s'.data.analysisOutputs.length ∧ (ReadyIn host metrics s'' → ∃ n,
          (∃ d', (pollObservation host s''.ctl.vars).run n s''.data = .ok none d' ∧
            (Idle s'' → (tick host).run n s'' = .ok false { s'' with data := d' })) ∨
          ∃ trial d', (pollObservation host s''.ctl.vars).run n s''.data = .ok (some trial) d' ∧
            ∀ m ∈ metrics, (bucketOf trial.replicates m.name).length = st.repeats)) := by
  obtain ⟨st₀,hbegins⟩ := (startAdaptiveObservation_begins _ frame proposal).ok trivial hstart rfl
  obtain rfl : st₀ = st := by simpa [hbegins.state] using hst
  obtain ⟨st',hs',hl'⟩ := Ledger.watched hw (hbegins.ledger hmetrics) hkeys hapart
  refine ⟨⟨st',hl'.observing.state,hl'.recorded⟩,?_⟩
  intro henough arrived' ticks' s'' hw'
  have hkeys' : (st'.metricsSpec.map fst).Nodup := by rwa [hs'.metricsSpec]
  have hsupplied : Supplied host metrics st' s'.data.analysisOutputs.length 0
      s'.data.analysisOutputs := by
    refine ⟨s'.data.analysisOutputs,[],by simp,by omega,?_⟩
    intro m hm
    obtain ⟨taken,hhits,hvalues⟩ := hl'.recorded m hm
    have hcount := hl'.counted m hm
    have hlen := hvalues.length_eq
    have := henough m hm
    rw [hhits,length_append] at this
    rw [hs'.repeats]
    omega
  obtain ⟨st'',hs'',hl'',early,late,hbuffer,hlen,hneed⟩ := Supplied.watched hw' hl' hsupplied
    (hbegins.metrics_ne_nil huses hmetrics) hkeys' hapart
  refine ⟨by omega,fun hready => ?_⟩
  have hsupplied'' : Supplied host metrics st'' s'.data.analysisOutputs.length ticks'
      s''.data.analysisOutputs := ⟨early,late,hbuffer,hlen,hneed⟩
  obtain ⟨n,⟨d',hpoll⟩ | ⟨trial,d',hpoll,hdone,hreps⟩⟩ :=
    hsupplied''.poll_returns hl''.observing hapart hready
  · exact ⟨n,.inl ⟨d',hpoll,fun hidle => hidle.tick hl''.observing.state hpoll⟩⟩
  · refine ⟨n,.inr ⟨trial,d',hpoll,?_⟩⟩
    intro m hm
    have := hl''.counted m hm
    have := hl''.bounded
    rw [hreps]
    have := hs'.repeats
    have := hs''.repeats
    omega

end

def outputMetric (outputId : String) : Value :=
  .dict false [("kind",.str "analysis_output"),("config",.dict false
    [("workspace_id",.str "w"),("output_id",.str outputId)])]

def pairFrame : AdaptiveFrame where
  spec :=
    { id := "pair"
      controller := []
      space := []
      bind := []
      observe := [("metrics",.dict false [("a",outputMetric "a"),("b",outputMetric "b")])]
      stopping := none }
  body := []
  controller := 0
  renderedController := []
  renderedSpace := []
  startedT := 0

def outputOf (outputId : String) (v : Int) : Entries :=
  [("workspace_id",.str "w"),("output_id",.str outputId),("context_id",.int (-1)),("value",.int v)]

def pairMetric (name : String) : OutputMetric :=
  ⟨name,⟨"w",name,true,-1⟩,[("workspace_id",.str "w"),("output_id",.str name)],defaultTimeoutS⟩

def pendingData (r : Outcome (Data World) PyExc (Option Trial)) : Option (Data World) :=
  match r with
  | .ok none d => some d
  | _ => none

theorem of_pendingData {r : Outcome (Data World) PyExc (Option Trial)} {d : Data World}
    (h : pendingData r = some d) : r = .ok none d := by
  unfold pendingData at h
  split at h
  · cases h
    rfl
  · cases h

def pairStart : Option (Data Unit) :=
  pendingData ((startAdaptiveObservation Host.quiet .empty pairFrame ⟨[],[],[]⟩).run 0 (Data.new ()))

def pairReads (d : Data Unit) (st : ObserveState) : Bool :=
  d.analysisOutputs.isEmpty && decide ((st.metricsSpec.map fst).Nodup) &&
    decide (readMetrics Host.quiet (buildEnvView d.env .empty) st.trial.contextId st.metricsSpec =
      .ok [pairMetric "a",pairMetric "b"])

def pairReady (d : Data Unit) (st : ObserveState) : Bool :=
  let metrics := [pairMetric "a",pairMetric "b"]
  metrics.all (fun m => (nextValue Host.quiet m d.analysisOutputs).isSome) &&
    match (sampleRemaining Host.quiet .empty (outputValues Host.quiet metrics d.analysisOutputs)
      st.metricsSpec).run 0 (served Host.quiet metrics st d) with
    | .ok _ _ => true
    | _ => false

theorem ready_of_pairReady {s : RtState Unit} {st : ObserveState} (hvars : s.ctl.vars = .empty)
    (hst : s.data.adaptiveObserveState = some st) (h : pairReady s.data st = true) :
    ReadyIn Host.quiet [pairMetric "a",pairMetric "b"] s := by
  intro st' hst' _
  obtain rfl : st = st' := by simpa [hst] using hst'
  simp only [pairReady,and_eq_true] at h
  refine .inr ⟨fun m hm => all_eq_true.1 h.1 m hm,0,?_⟩
  rw [hvars]
  have hrun := h.2
  split at hrun
  · rename_i values d' hd'
    exact ⟨values,d',hd'⟩
  · cases hrun

def pairRuntime (d : Data Unit) : RtState Unit := ⟨{ Ctl.new with state := .running },d⟩

/-- Both outputs arrive, the second metric's first, and the next tick records them. -/
theorem pair_outputs_recorded : ∃ s s' : RtState Unit,
    Watched Host.quiet (ReadyIn Host.quiet [pairMetric "a",pairMetric "b"]) s
      [outputOf "b" 2,outputOf "a" 1] 1 s' ∧ s'.data.analysisOutputs = [] ∧
    ∃ st', s'.data.adaptiveObserveState = some st' ∧
      ∀ m ∈ [pairMetric "a",pairMetric "b"], Recorded Host.quiet m
        [outputOf "b" 2,outputOf "a" 1] s'.data.analysisOutputs st'.trial.replicates := by
  have hrun : (pairStart.bind fun d => d.adaptiveObserveState.bind fun st =>
      let d₁ := recordOutput (outputOf "a" 1) (recordOutput (outputOf "b" 2) d)
      (pendingData ((pollObservation Host.quiet .empty).run 0 d₁)).bind fun d₂ =>
        d₁.adaptiveObserveState.map fun st₁ =>
          (pairReads d st,pairReady d₁ st₁,d₂.analysisOutputs)) = some (true,true,[]) := by
    decide +kernel
  obtain ⟨d,hd,hrun⟩ := bind_eq_some_iff.1 hrun
  obtain ⟨st,hst,hrun⟩ := bind_eq_some_iff.1 hrun
  obtain ⟨d₂,hd₂,hrun⟩ := bind_eq_some_iff.1 hrun
  obtain ⟨st₁,hst₁,hfields⟩ := map_eq_some_iff.1 hrun
  simp only [Prod.mk.injEq] at hfields
  obtain ⟨hreads,hready,hleft⟩ := hfields
  simp only [pairReads,and_eq_true,List.isEmpty_iff,decide_eq_true_eq] at hreads
  obtain ⟨⟨hempty,hkeys⟩,hmetrics⟩ := hreads
  have hw : Watched Host.quiet (ReadyIn Host.quiet [pairMetric "a",pairMetric "b"])
      (pairRuntime d) [outputOf "b" 2,outputOf "a" 1] 1 (pairRuntime d₂) := by
    refine .tick (.arrive _ (.arrive _ .start ?_) ?_) ?_ (of_pendingData hd₂)
    · simp [pairRuntime,hempty,outputLimit]
    · rw [recordOutput_eq (by simp [pairRuntime,hempty,outputLimit])]
      simp [pairRuntime,hempty,outputLimit]
    · exact ready_of_pairReady rfl hst₁ hready
  have hstart : (startAdaptiveObservation Host.quiet (pairRuntime d).ctl.vars pairFrame
      ⟨[],[],[]⟩).run 0 (Data.new ()) = .ok none (pairRuntime d).data := of_pendingData hd
  have hrecorded := (outputs_recorded hstart (by decide +kernel) hst hkeys hmetrics
    (by simp [Apart,pairMetric]) hw).1
  refine ⟨pairRuntime d,pairRuntime d₂,hw,hleft,?_⟩
  rw [show (pairRuntime d).data.analysisOutputs = [] from hempty] at hrecorded
  exact hrecorded

/-- Only the first metric's output is there at the first tick. It is taken, and nothing is
recorded. -/
theorem first_output_lost : ¬ ∀ (s s' : RtState Unit) (st st' : ObserveState)
    (metrics : List OutputMetric) (arrived : List Entries) (ticks n : Nat),
    (startAdaptiveObservation Host.quiet s.ctl.vars pairFrame ⟨[],[],[]⟩).run n (Data.new ()) =
      .ok none s.data → s.data.adaptiveObserveState = some st →
    readMetrics Host.quiet (buildEnvView s.data.env s.ctl.vars) st.trial.contextId
      st.metricsSpec = .ok metrics →
    Watched Host.quiet (fun _ => True) s arrived ticks s' →
    s'.data.adaptiveObserveState = some st' →
    ∀ m ∈ metrics, Recorded Host.quiet m (s.data.analysisOutputs ++ arrived)
      s'.data.analysisOutputs st'.trial.replicates := by
  intro h
  have hrun : (pairStart.bind fun d => d.adaptiveObserveState.bind fun st =>
      (pendingData ((pollObservation Host.quiet .empty).run 0
        (recordOutput (outputOf "a" 1) d))).bind fun d₂ =>
        d₂.adaptiveObserveState.map fun st₂ => (pairReads d st,d₂.analysisOutputs,
          bucketOf st₂.trial.replicates "a")) = some (true,[],[]) := by
    decide +kernel
  obtain ⟨d,hd,hrun⟩ := bind_eq_some_iff.1 hrun
  obtain ⟨st,hst,hrun⟩ := bind_eq_some_iff.1 hrun
  obtain ⟨d₂,hd₂,hrun⟩ := bind_eq_some_iff.1 hrun
  obtain ⟨st₂,hst₂,hfields⟩ := map_eq_some_iff.1 hrun
  simp only [Prod.mk.injEq] at hfields
  obtain ⟨hreads,hleft,hbucket⟩ := hfields
  simp only [pairReads,and_eq_true,List.isEmpty_iff,decide_eq_true_eq] at hreads
  obtain ⟨⟨hempty,-⟩,hmetrics⟩ := hreads
  have hw : Watched Host.quiet (fun _ => True) (pairRuntime d) [outputOf "a" 1] 1
      (pairRuntime d₂) := by
    refine .tick (.arrive _ .start ?_) trivial (of_pendingData hd₂)
    simp [pairRuntime,hempty,outputLimit]
  obtain ⟨taken,hhits,hvalues⟩ := h (pairRuntime d) (pairRuntime d₂) st st₂ _ _ 1 0
    (of_pendingData hd) hst hmetrics hw hst₂ (pairMetric "a") List.mem_cons_self
  have htaken : taken = [] := by
    rw [show (pairMetric "a").name = "a" from rfl,hbucket] at hvalues
    cases hvalues
    rfl
  rw [htaken,show (pairRuntime d₂).data.analysisOutputs = [] from hleft,
    show (pairRuntime d).data.analysisOutputs = [] from hempty] at hhits
  have hone : hits Host.quiet (pairMetric "a").source [outputOf "a" 1] ≠ [] := by decide +kernel
  exact hone hhits

end ExperimentControl.Sequencer

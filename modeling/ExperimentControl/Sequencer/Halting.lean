import ExperimentControl.Sequencer.Runtime

/-!
What the runtime does on its data returns or raises, and leaves a parallel dispatch alone.
-/

namespace ExperimentControl.Sequencer
open Lib Python Prog List

variable {World α β : Type}

structure Waits where
  wait : Bool
  setContext : Option Nat
  parallel : Option Nat
  observing : Bool

def Data.waits (d : Data World) : Waits :=
  ⟨d.waitState.isSome,d.setContextState,d.parallelState,d.adaptiveObserveState.isSome⟩

def Steady (x : D World α) : Prop := ∀ w, Settles (fun d => d.waits = w) x

section
variable {host : Host World} {vars : Env}

@[simp] theorem steady_pure (a : α) : Steady (pure a : D World α) :=
  fun _ => Total.pure fun _ h => h

@[simp] theorem steady_raise (e : PyExc) : Steady (Prog.raise e : D World α) :=
  fun _ => Total.raise fun _ h => h

@[simp] theorem steady_get : Steady (Prog.get : D World (Data World)) :=
  fun _ => Total.get fun _ h => h

theorem steady_modify {f : Data World → Data World} (h : ∀ d, (f d).waits = d.waits) :
    Steady (Prog.modify f : D World Unit) :=
  fun _ => Total.modify fun d hd => (h d).trans hd

theorem steady_ofFun {f : Data World → Except PyExc α × Data World}
    (h : ∀ d, (f d).2.waits = d.waits) : Steady (ofFun f : D World α) := by
  refine fun p => ⟨keeps_ofFun fun d hd => (h d).trans hd,fun d _ => halts_ofFun f d⟩

@[simp] theorem steady_ask (f : Callback World α) : Steady (ask f) := steady_ofFun fun _ => rfl

@[simp] theorem steady_now : Steady (now host) := steady_ofFun fun _ => rfl

@[simp] theorem steady_except (r : Except PyExc α) : Steady (except r : D World α) :=
  steady_ofFun fun _ => rfl

@[simp] theorem steady_envView : Steady (envView vars : D World Env) := steady_ofFun fun _ => rfl

variable {x : D World α}

@[simp] theorem steady_bind {f : α → D World β} (hx : Steady x)
    (hf : ∀ a, Steady (f a)) : Steady (x >>= f) :=
  fun p => (hx p).bind fun a => hf a p

@[simp] theorem steady_ite {c : Prop} [Decidable c] {x y : D World α} (hx : Steady x)
    (hy : Steady y) : Steady (if c then x else y) :=
  fun p => Total.ite (fun _ => hx p) (fun _ => hy p)

@[simp] theorem steady_attempt (hx : Steady x) : Steady (attempt x) :=
  fun p => (hx p).attempt (fun _ _ h => h) (fun _ _ h => h)

@[simp] theorem steady_tryCatch {handler : PyExc → D World α} (hx : Steady x)
    (hh : ∀ e, Steady (handler e)) : Steady (Prog.tryCatch x handler) :=
  fun p => (hx p).tryCatch fun e => hh e p

variable (view : Env)

@[simp] theorem steady_renderIn (v : Value) : Steady (renderIn host view v) :=
  steady_except _

@[simp] theorem steady_render (v : Value) : Steady (render host vars v) := by
  simp [render]

@[simp] theorem steady_bindName (name : String) (v : Value) :
    Steady (bindName name v : D World Unit) := steady_modify fun _ => rfl

@[simp] theorem steady_dispatchCall (device : String) (process : Option String) (action : String)
    (params : Value) : Steady (dispatchCall host device process action params) := by
  unfold dispatchCall
  split
  · split <;> simp
  · simp

@[simp] theorem steady_dispatchGetTelemetry (device : String) (process : Option String)
    (signal : String) : Steady (dispatchGetTelemetry host device process signal) := by
  unfold dispatchGetTelemetry
  split
  · split <;> simp
  · simp

@[simp] theorem steady_renderCallTarget (device process action : Value) :
    Steady (renderCallTarget host vars device process action) := by
  refine steady_bind steady_envView fun view => ?_
  refine steady_bind (steady_renderIn _ _) fun _ => steady_bind (steady_renderIn _ _) fun _ => ?_
  refine steady_bind (steady_renderIn _ _) fun _ => ?_
  exact steady_ite (steady_raise _) (steady_ite (steady_raise _) (steady_pure _))

@[simp] theorem steady_executeSetStep (step : SetStep) :
    Steady (executeSetStep host vars step) := by
  refine steady_bind (steady_render _) fun _ => steady_ite (steady_pure _) ?_
  refine steady_bind (steady_render _) fun _ => steady_bind (steady_ask _) fun _ => ?_
  exact steady_ite (steady_pure _) (steady_pure _)

@[simp] theorem steady_assignResults (result : Value) (specs : Entries) :
    Steady (assignResults host result specs) := by
  induction specs with
  | nil => simp [assignResults]
  | cons e rest ih =>
    obtain ⟨key,v⟩ := e
    cases v <;> simp [assignResults,ih]

variable (step : CallStep)

@[simp] theorem steady_saveReply (reply : Reply) :
    Steady (saveReply step reply : D World Unit) := by
  unfold saveReply
  split <;> simp

@[simp] theorem steady_recordReply (reply : Reply) : Steady (recordReply host step reply) := by
  unfold recordReply
  refine steady_bind (by simp) fun _ => ?_
  split <;> simp

@[simp] theorem steady_executeCallStep : Steady (executeCallStep host vars step) := by
  refine steady_bind (steady_renderCallTarget _ _ _) fun _ => steady_bind (steady_render _) fun _ => ?_
  refine steady_bind (steady_dispatchCall _ _ _ _) fun _ => ?_
  exact steady_ite (steady_recordReply _ _) (steady_pure _)

@[simp] theorem steady_floatOrSkip (v : Value) : Steady (floatOrSkip host v) := by
  unfold floatOrSkip
  split <;> simp

variable (sample : Reply)

@[simp] theorem steady_ageField : Steady (ageField host sample) := by
  simp [ageField]

@[simp] theorem steady_sinceField (key : String) : Steady (sinceField host sample key) := by
  refine steady_ite ?_ (steady_pure _)
  exact steady_bind steady_now fun _ => steady_bind (steady_floatOrSkip _) fun _ => steady_pure _

@[simp] theorem steady_telemetrySampleAge : Steady (telemetrySampleAge host sample) := by
  refine steady_bind (steady_ageField _) fun age => ?_
  cases age with
  | some a => simp
  | none =>
    refine steady_bind (steady_sinceField _ _) fun received => ?_
    cases received <;> simp

@[simp] theorem steady_resolveTelemetry (spec : Value) : Steady (resolveTelemetry host spec) := by
  unfold resolveTelemetry
  split
  · refine steady_ite (steady_pure _) ?_
    refine steady_bind (steady_except _) fun _ => ?_
    refine steady_bind (steady_dispatchGetTelemetry _ _ _) fun sample => ?_
    split
    · simp
    · simp
    · exact steady_bind (steady_telemetrySampleAge _) fun _ => steady_ite (steady_pure _) (steady_pure _)
  · simp

@[simp] theorem steady_resolveCall (spec : Value) : Steady (resolveCall host vars view spec) := by
  unfold resolveCall
  split
  · refine steady_bind (steady_renderCallTarget _ _ _) fun _ => ?_
    refine steady_bind (steady_renderIn _ _) fun _ => ?_
    refine steady_bind (steady_dispatchCall _ _ _ _) fun _ => steady_ite ?_ (steady_raise _)
    split <;> simp
  · simp

mutual
theorem steady_resolveValue (view : Env) : (v : Value) → Steady (resolveValue host vars view v)
  | .dict _ entries => by
    unfold resolveValue
    split
    · simp
    · split
      · simp
      · exact steady_bind (steady_resolveEntries view entries) fun _ => steady_pure _
  | .list items => by
    unfold resolveValue
    exact steady_bind (steady_resolveItems view items) fun _ => steady_pure _
  | .none => by simp [resolveValue]
  | .bool _ => by simp [resolveValue]
  | .int _ => by simp [resolveValue]
  | .float _ => by simp [resolveValue]
  | .str _ => by simp [resolveValue]
theorem steady_resolveEntries (view : Env) :
    (entries : Entries) → Steady (resolveEntries host vars view entries)
  | [] => by simp [resolveEntries]
  | (key,v) :: rest => by
    unfold resolveEntries
    exact steady_bind (steady_resolveValue view v) fun _ =>
      steady_bind (steady_resolveEntries view rest) fun _ => steady_pure _
theorem steady_resolveItems (view : Env) :
    (items : List Value) → Steady (resolveItems host vars view items)
  | [] => by simp [resolveItems]
  | v :: rest => by
    unfold resolveItems
    exact steady_bind (steady_resolveValue view v) fun _ =>
      steady_bind (steady_resolveItems view rest) fun _ => steady_pure _
end

@[simp] theorem steady_assignValues (values : Entries) : Steady (assignValues host vars values) := by
  induction values with
  | nil => simp [assignValues]
  | cons e rest ih =>
    refine steady_bind steady_envView fun view => ?_
    refine steady_bind (steady_resolveValue _ _) fun _ => ?_
    exact steady_bind (steady_bindName _ _) fun _ => ih

theorem steady_conditionHolds (cond : Value) : Steady (conditionHolds host vars cond) := by
  refine steady_bind steady_envView fun view => ?_
  exact steady_bind (steady_resolveValue _ _) fun _ => steady_except _

@[simp] theorem steady_evalConditionLive (cond : Value) (kind : String) (polling : Bool) :
    Steady (evalConditionLive host vars cond kind polling) := by
  refine steady_tryCatch (steady_conditionHolds cond) fun e => ?_
  have hnote : Steady (noteCallError e.message : D World Unit) :=
    steady_modify fun _ => by simp [Data.waits]
  refine steady_ite ?_ (steady_raise _)
  split
  · simp
  · exact steady_bind hnote fun _ => steady_pure _
  · simp
  · exact steady_ite (steady_raise _) (steady_pure _)

@[simp] theorem steady_resolveIterable (inExpr : Value) :
    Steady (resolveIterable host vars inExpr) := by
  refine steady_bind steady_envView fun view => steady_bind (steady_renderIn _ _) fun _ => ?_
  refine steady_bind steady_get fun _ => steady_bind (steady_except _) fun _ => ?_
  unfold recordsFromRendered
  split
  · split <;> simp
  · simp
  · simp

@[simp] theorem steady_bindRecord (bind : List (String × String)) (record : Entries)
    (index : Nat) : Steady (bindRecord host bind record index) := by
  refine steady_bind ?_ fun _ => steady_bindName _ _
  induction bind with
  | nil => simp [bindFields]
  | cons e rest ih =>
    obtain ⟨source,name⟩ := e
    unfold bindFields
    split
    · simp
    · exact steady_bind (steady_bindName _ _) fun _ => ih

theorem steady_renderMapping (v : Value) : Steady (renderMapping host view v) := by
  refine steady_bind (steady_renderIn _ _) fun rendered => ?_
  cases rendered <;> simp

theorem steady_renderSeconds (raw : Entries) (key : String) (default : Value) :
    Steady (renderSeconds host view raw key default) :=
  steady_bind (steady_renderIn _ _) fun _ => steady_except _

theorem steady_noteSample (ws : WaitState) : Steady (noteSample host ws) := by
  unfold noteSample
  split
  · refine steady_ite (steady_pure _) ?_
    refine steady_bind (steady_ite (steady_floatOrSkip _) (steady_pure _)) fun _ => ?_
    refine steady_bind (steady_dispatchGetTelemetry _ _ _) fun cached => ?_
    cases cached with
    | none => simp
    | some sample => exact steady_bind (steady_telemetrySampleAge _) fun _ => steady_pure _
  · simp

theorem steady_setStreamContexts (contextId : Int) (fields : Entries)
    (streams : List (String × String)) : Steady (setStreamContexts host contextId fields streams) := by
  induction streams with
  | nil => simp [setStreamContexts]
  | cons e rest ih => exact steady_bind (steady_ask _) fun _ => ih

@[simp] theorem steady_resolveUseSpec (sequenceId : String) :
    Steady (resolveUseSpec host sequenceId) := by
  refine steady_ite (steady_raise _) ?_
  split <;> simp

@[simp] theorem steady_mergedUseVars (spec : SequenceSpec) (args : Option Entries) :
    Steady (mergedUseVars host vars spec args) := by
  unfold mergedUseVars
  split
  · simp
  · exact steady_bind (steady_render _) fun _ => steady_pure _

theorem steady_renderIntOr (raw : Value) (message : String) :
    Steady (renderIntOr host vars raw message) := by
  refine steady_bind (steady_attempt (steady_bind (steady_render _) fun _ => steady_except _)) fun r => ?_
  cases r <;> simp

theorem steady_renderFloatOr (raw : Value) (message : String) :
    Steady (renderFloatOr host vars raw message) := by
  refine steady_bind (steady_attempt (steady_bind (steady_render _) fun _ => steady_except _)) fun r => ?_
  cases r <;> simp

theorem steady_observeRepeats (observe : Entries) : Steady (observeRepeats host vars observe) :=
  steady_bind (steady_renderIntOr _ _) fun _ => steady_ite (steady_raise _) (steady_pure _)

theorem steady_replayTrials (controller : Nat) (trials : List Trial) :
    Steady (replayTrials host controller trials) := by
  induction trials with
  | nil => simp [replayTrials]
  | cons trial rest ih =>
    refine steady_ite ih (steady_bind (steady_attempt (steady_ask _)) fun r => ?_)
    refine steady_bind ih fun n => ?_
    cases r <;> simp

@[simp] theorem steady_executeAdaptiveStep (spec : AdaptiveSpec) (body : List Step) :
    Steady (executeAdaptiveStep host vars spec body) := by
  refine steady_ite ?_ (steady_pure _)
  refine steady_bind (steady_render _) fun _ => steady_bind (steady_render _) fun _ => ?_
  refine steady_bind (steady_observeRepeats _) fun _ => steady_bind (steady_ask _) fun _ => ?_
  refine steady_bind ?_ fun _ => steady_bind steady_now fun _ => steady_pure _
  exact steady_bind steady_get fun _ => steady_bind (steady_modify fun _ => rfl) fun _ =>
    steady_replayTrials _ _

theorem steady_anyOf {stops : List (D World Bool)} (h : ∀ x ∈ stops, Steady x) :
    Steady (anyOf stops) := by
  induction stops with
  | nil => simp [anyOf]
  | cons x rest ih =>
    refine steady_bind (h x mem_cons_self) fun b => steady_ite (steady_pure _) ?_
    exact ih fun y hy => h y (mem_cons_of_mem _ hy)

variable (frame : AdaptiveFrame)

theorem steady_stops (stopping : Entries) : Steady (stopsAtTrials host vars frame stopping) ∧
      Steady (stopsAtRuntime host vars frame stopping) ∧
      Steady (stopsAtScore host vars frame stopping) ∧
      Steady (stopsAtPatience host vars frame stopping) := by
  refine ⟨?_,?_,?_,?_⟩
  · unfold stopsAtTrials
    split
    · simp
    · exact steady_bind (steady_renderIntOr _ _) fun _ => steady_pure _
  · unfold stopsAtRuntime
    split
    · simp
    · refine steady_bind (steady_renderFloatOr _ _) fun _ => steady_ite ?_ (steady_pure _)
      exact steady_bind steady_now fun _ => steady_pure _
  · unfold stopsAtScore
    split
    · simp
    · simp
    · exact steady_bind (steady_renderFloatOr _ _) fun _ => steady_pure _
  · unfold stopsAtPatience
    split
    · simp
    · exact steady_bind (steady_renderIntOr _ _) fun _ => steady_pure _

@[simp] theorem steady_adaptiveShouldStop : Steady (adaptiveShouldStop host vars frame) := by
  obtain ⟨htrials,hruntime,hscore,hpatience⟩ :=
    @steady_stops World host vars frame (frame.spec.stopping.getD [])
  refine steady_anyOf fun x hx => ?_
  simp only [mem_cons,not_mem_nil,or_false] at hx
  rcases hx with rfl | rfl | rfl | rfl | rfl
  · exact htrials
  · exact hruntime
  · exact hscore
  · exact hpatience
  · unfold controllerStops
    split <;> simp

@[simp] theorem steady_prepareAdaptiveProposal : Steady (prepareAdaptiveProposal host frame) :=
  steady_bind (steady_ask _) fun _ => steady_except _

@[simp] theorem steady_bindAdaptiveProposal (spec : AdaptiveSpec) (proposal : Proposal) :
    Steady (bindAdaptiveProposal spec proposal : D World Unit) := by
  unfold bindAdaptiveProposal
  generalize proposal.meta_.foldl (fun out e => setItem out e.1 e.2) proposal.params = values
  induction spec.bind with
  | nil => simp [bindProposalFields]
  | cons e rest ih =>
    obtain ⟨source,target⟩ := e
    unfold bindProposalFields
    split
    · simp
    · exact steady_bind (steady_bindName _ _) fun _ => ih

end

variable {host : Host World} {vars : Env}

theorem steady_evaluateTrial (observe : Entries) (refusal : PyExc → String) (trial : Trial)
    (replicates : List (String × List Value)) :
    Steady (evaluateTrial host vars observe refusal trial replicates) := by
  unfold evaluateTrial
  split
  · simp
  · refine steady_bind (steady_attempt (steady_bind steady_envView fun view => ?_)) fun r => ?_
    · dsimp only
      split
      · split <;> simp
      · simp
    · cases r with
      | error e => simp
      | ok score =>
        refine steady_ite (steady_pure _) ?_
        split <;> simp

@[simp] theorem steady_finalizeTrial (frame : AdaptiveFrame) (proposal : Proposal)
    (trial : Trial) : Steady (finalizeTrial host frame proposal trial) := by
  refine steady_bind (steady_modify fun _ => rfl) fun _ => ?_
  refine steady_bind (steady_attempt (steady_bind ?_ fun _ => steady_modify fun _ => rfl)) fun _ =>
    steady_pure _
  unfold tellTrial
  split <;> simp

theorem steady_checkObserveTimeout (source : OutputSource) (timeoutS : F64) :
    Steady (checkObserveTimeout host source timeoutS) := by
  refine steady_ite ?_ (steady_pure _)
  refine steady_bind steady_now fun _ => ?_
  refine steady_bind (steady_modify fun _ => by simp [Data.waits]) fun _ => ?_
  refine steady_bind steady_now fun _ => steady_bind steady_get fun _ => ?_
  exact steady_ite (steady_raise _) (steady_pure _)

theorem steady_trySampleAnalysisOutput (spec : Entries) (contextId : Int) :
    Steady (trySampleAnalysisOutput host vars spec contextId) := by
  refine steady_bind steady_envView fun view => steady_bind (steady_except _) fun found => ?_
  refine steady_bind steady_get fun d => ?_
  split
  · refine steady_bind (steady_modify fun _ => rfl) fun _ => ?_
    exact steady_bind (steady_except _) fun _ => steady_pure _
  · exact steady_bind (steady_modify fun _ => rfl) fun _ => steady_pure _
  · exact steady_bind (steady_checkObserveTimeout _ _) fun _ => steady_pure _

theorem steady_sampleOutputs (contextId : Int) (specs : Entries) :
    Steady (sampleOutputs host vars contextId specs) := by
  induction specs with
  | nil => simp [sampleOutputs]
  | cons e rest ih =>
    obtain ⟨name,v⟩ := e
    cases v with
    | dict attr entries =>
      refine steady_ite ih (steady_bind (steady_trySampleAnalysisOutput _ _) fun v => ?_)
      cases v with
      | none => simp
      | some v => exact steady_bind ih fun _ => steady_pure _
    | none | bool _ | int _ | float _ | str _ | list _ => simp [sampleOutputs]

theorem steady_modifyObserve (f : ObserveState → ObserveState) :
    Steady (modifyObserve f : D World Unit) := steady_modify fun _ => by simp [Data.waits]

end ExperimentControl.Sequencer

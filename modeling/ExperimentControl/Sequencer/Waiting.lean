import ExperimentControl.Sequencer.Halting
import ExperimentControl.Sequencer.Observation

/-!
What a step can leave to later ticks: a wait, a context change, parallel branches, an observation.
-/

namespace ExperimentControl.Sequencer
open Lib Python Prog

variable {World α β : Type}

inductive Job where
  | wait | setContext | parallel | observation
  deriving DecidableEq

def Waits.idle (w : Waits) : Job → Prop
  | .wait => w.wait = false
  | .setContext => w.setContext = none
  | .parallel => w.parallel = none
  | .observation => w.observing = false

def Only (job : Job) (d : Data World) : Prop := ∀ other, other ≠ job → d.waits.idle other

def Free (d : Data World) : Prop := ∀ job, d.waits.idle job

theorem Free.only {d : Data World} (h : Free d) (job : Job) : Only job d := fun other _ => h other

theorem Only.free {j : Job} {d : Data World} (h : Only j d) (hidle : d.waits.idle j) : Free d := by
  intro other
  by_cases hother : other = j
  · exact hother ▸ hidle
  · exact h other hother

theorem Only.change {job : Job} {d d' : Data World} (h : Only job d)
    (hsame : ∀ other, other ≠ job → d.waits.idle other → d'.waits.idle other) : Only job d' :=
  fun other hother => hsame other hother (h other hother)

def Still (x : D World α) : Prop := ∀ w, Keeps (fun d => d.waits = w) x

variable {x : D World α}

theorem Steady.still (h : Steady x) : Still x := fun w => (h w).triple

theorem Outward.still (h : Outward x) : Still x := by
  intro w n d hd
  have hwaits : ∀ d' : Data World, Beside d d' → d'.waits = w := by
    intro d' hd'
    rw [← hd,hd']
    rfl
  exact (h d).conseq (fun _ h => h) (fun _ => hwaits) (fun _ => hwaits) n d (Beside.refl d)

theorem Still.keeps (h : Still x) {I : Waits → Prop} : Keeps (fun d => I d.waits) x := by
  intro n d hd
  have hback : ∀ d' : Data World, d'.waits = d.waits → I d'.waits := fun d' hd' => hd' ▸ hd
  exact (h d.waits).conseq (fun _ h => h) (fun _ => hback) (fun _ => hback) n d rfl

theorem Still.only (h : Still x) (job : Job) : Keeps (Only job) x :=
  Still.keeps h (I := fun w => ∀ other, other ≠ job → w.idle other)

theorem Still.free (h : Still x) : Keeps (Free : Data World → Prop) x :=
  Still.keeps h (I := fun w => ∀ job, w.idle job)

theorem still_bind {f : α → D World β} (hx : Still x) (hf : ∀ a, Still (f a)) : Still (x >>= f) :=
  fun w => (hx w).bind fun a => hf a w

theorem still_attempt (hx : Still x) : Still (attempt x) :=
  fun w => (hx w).attempt (fun _ _ h => h) fun _ _ h => h

variable {host : Host World} {vars : Env}

theorem still_pure (a : α) : Still (pure a : D World α) := (steady_pure a).still

theorem still_sampleSources (specs : Entries) : Still (sampleSources host vars specs) := by
  induction specs with
  | nil => exact still_pure _
  | cons e rest ih =>
    refine still_bind (outward_sampleAdaptiveSource vars e.2).still fun _ => ?_
    exact still_bind ih fun _ => still_pure _

theorem still_sampleRounds (metricsSpec : Entries) (n : Nat)
    (replicates : List (String × List Value)) :
    Still (sampleRounds host vars metricsSpec n replicates) := by
  induction n generalizing replicates with
  | zero => exact still_pure _
  | succ n ih => exact still_bind (still_sampleSources _) fun _ => ih _

theorem still_collectAdaptiveTrial (spec : AdaptiveSpec) (proposal : Proposal) :
    Still (collectAdaptiveTrial host vars spec proposal) := by
  refine still_bind steady_get.still fun d => ?_
  refine still_bind (still_attempt (still_sampleSources _)) fun state => ?_
  cases state with
  | error e => exact still_pure _
  | ok state =>
    have hcollect : Still (collectReplicates host vars spec.observe) := by
      unfold collectReplicates
      split
      · exact (steady_raise _).still
      · exact still_bind (steady_observeRepeats _).still fun _ => still_sampleRounds _ _ _
    refine still_bind (still_attempt hcollect) fun replicates => ?_
    cases replicates with
    | error e => exact still_pure _
    | ok replicates => exact (steady_evaluateTrial _ _ _ _).still

variable {job : Job}

theorem Only.setWait {d : Data World} (h : Only .wait d) (ws : Option WaitState) :
    Only .wait { d with waitState := ws } := by
  refine h.change fun other hother hidle => ?_
  cases other with
  | wait => exact absurd rfl hother
  | setContext | parallel | observation => exact hidle

theorem only_setWait (ws : Option WaitState) : Keeps (Only .wait) (setWait ws : D World Unit) :=
  .modify fun _ hd => hd.setWait ws

theorem only_startWaitUntil (raw : Entries) :
    Keeps (Only .wait) (startWaitUntil host vars raw) := by
  refine .bind (steady_envView.still.only _) fun view => ?_
  refine .bind ((steady_renderSeconds _ _ _ _).still.only _) fun _ => ?_
  refine .bind ((steady_renderSeconds _ _ _ _).still.only _) fun _ => ?_
  refine .bind ((steady_renderSeconds _ _ _ _).still.only _) fun _ => ?_
  refine .bind ((steady_renderMapping _ _).still.only _) fun _ => ?_
  have hreduce : Steady (reduceSpecOf host view raw) := by
    unfold reduceSpecOf
    split
    · exact steady_renderMapping _ _
    · simp
  refine .bind (hreduce.still.only _) fun _ => ?_
  exact .bind (steady_now.still.only _) fun _ => only_setWait _

def Answered (job : Job) (poll : Poll) (d : Data World) : Prop :=
  Only job d ∧ (poll ≠ .pending → Free d)

theorem answered_pending : Triple (Only job) (pure .pending : D World Poll) (Answered job)
    (fun _ => Only job) :=
  .pure fun _ h => ⟨h,fun hne => absurd rfl hne⟩

theorem answered_pure (poll : Poll) : Triple Free (pure poll : D World Poll) (Answered job)
    (fun _ => Only job) :=
  .pure fun _ h => ⟨h.only job,fun _ => h⟩

theorem answered_endWait (poll : Poll) : Triple (Only .wait) (do
    setWait none
    pure poll : D World Poll) (Answered .wait) (fun _ => Only .wait) := by
  refine .bind (Q := fun _ => Free) (.modify fun d hd => ?_) fun _ =>
    answered_pure poll
  exact (hd.setWait none).free rfl

theorem answered_keepWait (ws : WaitState) : Triple (Only .wait) (do
    setWait (some ws)
    pure .pending : D World Poll) (Answered .wait) (fun _ => Only .wait) :=
  .bind (only_setWait _) fun _ => answered_pending

variable (t : F64)

theorem answered_takeSample (ws : WaitState) (sample : Value) :
    Triple (Only .wait) (takeSample host vars t ws sample) (Answered .wait)
      (fun _ => Only .wait) := by
  refine .bind ((steady_noteSample _).still.only _) fun _ => ?_
  refine .bind (only_setWait _) fun _ => ?_
  refine .bind ((steady_except _).still.only _) fun _ => ?_
  refine .bind (only_setWait _) fun _ => ?_
  refine .bind ((steady_except _).still.only _) fun _ => ?_
  refine .bind ((steady_bindName _ _).still.only _) fun _ => ?_
  refine .bind ((steady_bindName _ _).still.only _) fun _ => ?_
  refine .bind ((steady_bindName _ _).still.only _) fun _ => ?_
  refine .bind ((steady_evalConditionLive _ _ _).still.only _) fun ok => ?_
  refine .bind (steady_get.still.only _) fun d => ?_
  refine .ite (fun _ => ?_) fun _ => answered_keepWait _
  refine .ite (fun _ => ?_) fun _ => answered_endWait _
  exact .ite (fun _ => answered_endWait _) fun _ => answered_keepWait _

theorem answered_stepWaitUntil (ws : WaitState) :
    Triple (Only .wait) (stepWaitUntil host vars t ws) (Answered .wait) (fun _ => Only .wait) := by
  refine .ite (fun _ => answered_endWait _) fun _ => ?_
  refine .ite (fun _ => answered_pending) fun _ => ?_
  refine .bind (steady_envView.still.only _) fun view => ?_
  refine .bind ((steady_attempt (steady_resolveValue _ _)).still.only _) fun sample => ?_
  cases sample with
  | ok sample => exact answered_takeSample _ _ _
  | error e =>
    dsimp only
    split
    · exact answered_endWait _
    · exact answered_keepWait _
    · exact .raise fun _ h => h

theorem only_executeSetContextStep (streams : Value) (fields : Entries) :
    Triple Free (executeSetContextStep host vars streams fields)
      (fun progress d => Only .setContext d ∧ (progress = .done → Free d))
      (fun _ => Only .setContext) := by
  have hraise : ∀ d : Data World, Free d → Only .setContext d := fun d h => h.only _
  refine .bind (Q := fun _ => Free) (.modify fun d h => h) fun _ => ?_
  refine .bind ((steady_render _).still.free.conseq (fun _ h => h) (fun _ _ h => h)
    fun _ => hraise) fun _ => ?_
  refine .bind (Q := fun _ => Free) (.get fun _ h => h) fun d => ?_
  split
  · refine .bind ((steady_ask _).still.free.conseq (fun _ h => h) (fun _ _ h => h)
      fun _ => hraise) fun state => ?_
    refine .bind (Q := fun _ => Only .setContext) (.modify fun d h => ?_)
      fun _ => .pure fun _ h => ⟨h,fun hdone => nomatch hdone⟩
    refine (h.only .setContext).change fun other hother hidle => ?_
    cases other with
    | setContext => exact absurd rfl hother
    | wait | parallel | observation => exact hidle
  · have hstreams : Steady (do
        expectStreamsOf host (normalizeStreams host.py streams) d.contextId
        setStreamContexts host d.contextId
          (setItem (mappingOrEmpty ‹Value›) sequencerRunIdField (.int d.runId))
          (normalizeStreams host.py streams) : D World Unit) := by
      refine steady_bind ?_ fun _ => steady_setStreamContexts _ _ _
      unfold expectStreamsOf
      split <;> simp
    refine .bind ((steady_attempt hstreams).still.free.conseq (fun _ h => h)
      (fun _ _ h => h) fun _ => hraise) fun r => ?_
    cases r with
    | ok u => exact .pure fun _ h => ⟨h.only _,fun _ => h⟩
    | error e => exact .pure fun _ h => ⟨h.only _,fun hdone => nomatch hdone⟩

variable (d : Data World)

theorem clearSetContext_idle (other : Job) (h : d.waits.idle other) :
    (clearSetContext host d).waits.idle other := by
  unfold clearSetContext
  split
  · exact h
  · cases other with
    | setContext => rfl
    | wait | parallel | observation => exact h

theorem clearSetContext_setContextState : (clearSetContext host d).setContextState = none := by
  unfold clearSetContext
  split <;> simp_all

theorem answered_stepSetContext (state : Nat) :
    Triple (Only .setContext) (stepSetContext host t state) (Answered .setContext)
      (fun _ => Only .setContext) := by
  have hclear : Triple (Only .setContext) (Prog.modify (clearSetContext host) : D World Unit)
      (fun _ => Free) (fun _ => Only .setContext) := by
    refine .modify fun d hd => Only.free (j := .setContext) ?_ ?_
    · exact hd.change fun other _ => clearSetContext_idle d other
    · exact clearSetContext_setContextState d
  unfold stepSetContext
  split
  · exact .bind hclear fun _ => answered_pure _
  · refine .bind ((steady_ask _).still.only _) fun result => ?_
    refine .ite (fun _ => ?_) fun _ => answered_pending
    refine .bind hclear fun _ => ?_
    split <;> exact answered_pure _

theorem Only.setObserve {d : Data World} (h : Only .observation d) (st : Option ObserveState) :
    Only .observation { d with adaptiveObserveState := st } := by
  refine h.change fun other hother hidle => ?_
  cases other with
  | observation => exact absurd rfl hother
  | wait | setContext | parallel => exact hidle

theorem only_setObserve (st : Option ObserveState) :
    Keeps (Only .observation) (setObserve st : D World Unit) :=
  .modify fun _ hd => hd.setObserve st

theorem only_startAdaptiveObservation (frame : AdaptiveFrame) (proposal : Proposal) :
    Keeps (Only .observation) (startAdaptiveObservation host vars frame proposal) := by
  refine .bind (steady_get.still.only _) fun d => ?_
  refine .bind ((still_attempt (still_sampleSources _)).only _) fun state => ?_
  cases state with
  | error e => exact (still_pure _).only _
  | ok state =>
    dsimp only
    split
    · exact (still_pure _).only _
    · refine .bind ((steady_observeRepeats _).still.only _) fun _ => ?_
      refine .bind (steady_now.still.only _) fun _ => ?_
      exact .bind (only_setObserve _) fun _ => (still_pure _).only _

theorem still_collectAdaptiveRepeat (st : ObserveState) (t : F64) :
    Still (collectAdaptiveRepeat host vars st t) := by
  refine still_bind (steady_sampleOutputs _ _).still fun values => ?_
  cases values with
  | none => exact (steady_modifyObserve _).still
  | some values =>
    refine still_bind (steady_modifyObserve _).still fun _ => ?_
    refine still_bind (outward_sampleRemaining vars _ _).still fun _ => ?_
    exact (steady_modifyObserve _).still

theorem ended_stepAdaptiveObservation (st : ObserveState) :
    Triple (Only .observation) (stepAdaptiveObservation host vars t st)
      (fun ended d => Only .observation d ∧ (ended.isSome = true → Free d))
      (fun _ => Only .observation) := by
  have hend : ∀ trial, Triple (Only .observation) (do
      setObserve none
      pure (some trial) : D World (Option Trial))
      (fun ended d => Only .observation d ∧ (ended.isSome = true → Free d))
      (fun _ => Only .observation) := by
    intro trial
    refine .bind (Q := fun _ => Free) (.modify fun d hd => ?_) fun _ =>
      .pure fun _ h => ⟨h.only _,fun _ => h⟩
    exact (hd.setObserve none).free rfl
  refine .ite (fun _ => .ite (fun _ => ?_) fun _ => ?_) fun _ => hend _
  · refine .bind ((still_attempt (still_collectAdaptiveRepeat _ _)).only _) fun r => ?_
    cases r with
    | ok u => exact .pure fun _ h => ⟨h,fun hsome => nomatch hsome⟩
    | error e => exact .bind (steady_get.still.only _) fun _ => hend _
  · exact .bind ((steady_evaluateTrial _ _ _ _).still.only _) fun _ => hend _

theorem free_clearWaits : Free (clearWaits host d) := by
  have hparallel : ∀ d : Data World, (clearParallel host d).parallelState = none ∧
      (clearParallel host d).waitState = d.waitState ∧
      (clearParallel host d).setContextState = d.setContextState ∧
      (clearParallel host d).adaptiveObserveState = d.adaptiveObserveState := by
    intro d
    unfold clearParallel
    split <;> simp_all
  intro job
  obtain ⟨hp,hw,hs,ho⟩ := hparallel { clearSetContext host { d with
    sleepUntil := none, waitState := none } with adaptiveObserveState := none }
  cases job with
  | parallel => exact hp
  | observation => exact congrArg Option.isSome ho
  | setContext => exact hs.trans (clearSetContext_setContextState _)
  | wait =>
    have hwait := @clearSetContext_idle World host
      { d with sleepUntil := none, waitState := none } .wait rfl
    exact (congrArg Option.isSome hw).trans hwait

end ExperimentControl.Sequencer

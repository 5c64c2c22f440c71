import ExperimentControl.Sequencer.Standing

/-!
Whole ticks and the requests between them: what stands at the head of a tick stands
after it, and one job at most is under way.
-/

namespace ExperimentControl.Sequencer
open Lib Python Ctl Prog

variable {World α β : Type}

def Busy (host : Host World) (job : Job) (d : Data World) : Prop :=
  Only job d ∧ (d.waits.parallel.isSome = true → host.parallelDispatch.isSome = true)

def Orderly (host : Host World) (d : Data World) : Prop := ∃ job, Busy host job d

variable (host : Host World)

theorem Only.orderly {job : Job} {d : Data World} (h : Only job d)
    (hjob : job ≠ .parallel) : Orderly host d := by
  refine ⟨job,h,fun hsome => ?_⟩
  have hnone : d.waits.parallel = none := h .parallel hjob.symm
  simp [hnone] at hsome

theorem Orderly.same {host : Host World} {d d' : Data World} (h : Orderly host d)
    (hwaits : d'.waits = d.waits) : Orderly host d' := by
  unfold Orderly Busy Only
  rw [hwaits]
  exact h

theorem recordOutput_waits (payload : Entries) (d : Data World) :
    (recordOutput payload d).waits = d.waits := by
  simp only [recordOutput,Data.waits]

theorem tidy_orderly : Tidy host (Orderly host) := by
  refine ⟨fun _ h => (h.only .wait).orderly host (by decide),?_⟩
  rintro d ⟨job,honly,hdispatch⟩
  refine ⟨job,honly.change fun other _ => clearSetContext_idle d other,?_⟩
  unfold clearSetContext
  split <;> exact hdispatch

theorem Free.orderly {d : Data World} (h : Free d) : Orderly host d :=
  (h.only .wait).orderly host (by decide)

theorem Still.busy {x : D World α} (h : Still x) (host : Host World) (job : Job) :
    Keeps (Busy host job) x :=
  Still.keeps h (I := fun w => (∀ other, other ≠ job → w.idle other) ∧
    (w.parallel.isSome = true → host.parallelDispatch.isSome = true))

section
variable {I J : Ctl → Prop} {E : PyExc → RtState World → Prop}

def Executed (host : Host World) (I J : Ctl → Prop) (blocked : Bool) (s : RtState World) : Prop :=
  if blocked then Both (Rest J) (Orderly host) s else Both (Going I) Free s

def Raises (host : Host World) (I : Ctl → Prop) (_ : PyExc) : RtState World → Prop :=
  Both (Going I) (Orderly host)

variable (w : Guarded I J) (host : Host World)
include w

theorem both_fail (message : String) :
    Triple (Both (Going I) Free) (failStep host message) (Executed host I J) E := by
  refine Triple.post (both_failStep w host message fun _ h => h) ?_
  rintro _ s ⟨rfl,hs⟩
  exact ⟨hs.1.rest w,hs.2.orderly host⟩

theorem both_finishWith (failure : Option String) :
    Triple (Both (Going I) Free) (finishWith host failure) (Executed host I J) E := by
  cases failure with
  | none => exact both_pure fun c d hc hd => ⟨hc,hd⟩
  | some message => exact both_fail w host message

omit w in
theorem both_free {x : D World α} (hx : Still x) :
    Triple (Both (Going I) Free) (onData x) (fun _ => Both (Going I) Free) (Raises host I) :=
  (both_onData hx.free).conseq (fun _ h => h) (fun _ _ h => h)
    fun _ _ hs => ⟨hs.1,hs.2.orderly host⟩

omit w in
theorem both_freeVars {x : Env → D World α} (hx : ∀ vars, Still (x vars)) :
    Triple (Both (Going I) Free) (withVars x) (fun _ => Both (Going I) Free) (Raises host I) :=
  (both_withVars fun vars => (hx vars).free).conseq (fun _ h => h) (fun _ _ h => h)
    fun _ _ hs => ⟨hs.1,hs.2.orderly host⟩

theorem both_push {g : Ctl → Ctl} (hq : ∀ c, Quiet c (g c)) (hs : ∀ c, (g c).stack ≠ []) :
    Triple (Both (Going I) Free) (do move g; pure false : RT World Bool)
      (Executed host I J) E := by
  refine .bind (both_move (L := Going I) fun c hc => ?_) fun _ =>
    both_pure fun c d hc hd => ⟨hc,hd⟩
  exact ⟨w.quiet hc.1 (hq c),(hq c).state.trans hc.2.1,fun _ => hs c⟩

theorem both_blocked {job : Job} (hjob : job ≠ .parallel) :
    Triple (Both (Going I) (Only job)) (pure true : RT World Bool) (Executed host I J) E :=
  both_pure fun _ _ hc hd => ⟨hc.rest w,hd.orderly host hjob⟩

variable (step : Step)

theorem both_dispatchParallel (body : List Step)
    (begin : List ParallelBranchPlan → Callback World (Option Nat))
    (hbegin : host.parallelDispatch.isSome = true) :
    Triple (Both (Going I) Free) (dispatchParallel host step body begin) (Executed host I J)
      (Raises host I) := by
  refine .bind (both_freeVars host fun _ => steady_envView.still) fun env => ?_
  split
  · exact both_fail w host _
  · exact both_pure fun c d hc hd => ⟨hc,hd⟩
  · refine .bind (both_free host (steady_ask _).still) fun state => ?_
    refine .bind (both_change (H := Busy host .parallel) fun d hd => ?_) fun _ =>
      both_pure fun c d hc hd => ⟨hc.rest w,.parallel,hd⟩
    refine ⟨(hd.only .parallel).change fun other hother hidle => ?_,fun _ => hbegin⟩
    cases other with
    | parallel => exact absurd rfl hother
    | wait | setContext | observation => exact hidle

theorem both_executeParallelStep (body : List Step) :
    Triple (Both (Going I) Free) (executeParallelStep host step body) (Executed host I J)
      (Raises host I) := by
  refine both_read fun c hc => ?_
  refine both_pre (L := Going I) (H := Free) ?_ (fun c' hc' => hc' ▸ hc) fun _ h => h
  refine .ite (fun _ => both_fail w host _) fun _ => ?_
  cases hdispatch : host.parallelDispatch with
  | none => exact both_fail w host _
  | some callbacks => exact both_dispatchParallel w host step body _ (by simp [hdispatch])

theorem both_executeUseStep (sequenceId : String) (args : Option Entries) :
    Triple (Both (Going I) Free) (executeUseStep host sequenceId args) (Executed host I J)
      (Raises host I) := by
  refine both_read fun c hc => ?_
  refine both_pre (L := Going I) (H := Free) ?_ (fun c' hc' => hc' ▸ hc) fun _ h => h
  refine .ite (fun _ => ?_) fun _ => ?_
  · exact .raise fun s hs => ⟨hs.1,hs.2.orderly host⟩
  refine .bind (both_free host (steady_resolveUseSpec _).still) fun spec => ?_
  refine .bind (both_free host (steady_mergedUseVars _ _).still) fun merged => ?_
  exact both_push w host (fun _ => ⟨rfl,rfl,rfl⟩) fun _ => by simp [enterUse]

omit w in
theorem both_pauseReason (reason : Option String) :
    Triple (Both (Going I) Free) (pauseReason host reason) (fun _ => Both (Going I) Free)
      (Raises host I) := by
  unfold pauseReason
  cases given reason with
  | none => exact both_pure fun c d hc hd => ⟨hc,hd⟩
  | some reason =>
    refine .bind (both_freeVars host fun _ => (steady_render _).still) fun _ => ?_
    exact both_pure fun c d hc hd => ⟨hc,hd⟩

theorem both_executeStep : Triple (Both (Going I) Free) (executeStep host step) (Executed host I J)
      (Raises host I) := by
  cases step with
  | call step disabled =>
    refine .bind (both_freeVars host fun _ => (steady_executeCallStep _).still)
      fun failure => both_finishWith w host failure
  | set step disabled =>
    refine .bind (both_freeVars host fun _ => (steady_executeSetStep _).still)
      fun failure => both_finishWith w host failure
  | sleep seconds disabled =>
    refine .bind (both_freeVars host fun _ => (steady_render _).still) fun _ => ?_
    refine .bind (both_free host (steady_except _).still) fun _ => ?_
    refine .bind (both_free host steady_now.still) fun _ => ?_
    refine .bind (both_change (H := Only .wait) fun d hd => hd.only _) fun _ => ?_
    exact both_blocked w host (by decide)
  | waitUntil raw disabled =>
    refine .bind (Q := fun _ => Both (Going I) (Only .wait)) ?_ fun _ =>
      both_blocked w host (by decide)
    refine (both_withVars fun vars => only_startWaitUntil raw).conseq (fun _ h => ⟨h.1,h.2.only _⟩)
      (fun _ _ h => h) fun _ s hs => ⟨hs.1,hs.2.orderly host (by decide)⟩
  | for_ bind inExpr body disabled =>
    refine .bind (both_freeVars host fun _ => (steady_resolveIterable _).still)
      fun records => ?_
    exact both_push w host (fun _ => ⟨rfl,rfl,rfl⟩) fun _ => by simp [push]
  | repeat_ times body disabled =>
    refine .bind (both_freeVars host fun _ => (steady_render _).still) fun _ => ?_
    refine .bind (both_free host (steady_except _).still) fun n => ?_
    exact both_push w host (fun _ => ⟨rfl,rfl,rfl⟩) fun _ => by simp [push]
  | if_ condition thenSteps elseSteps disabled =>
    refine .bind (both_freeVars host fun _ => (steady_evalConditionLive _ _ _).still)
      fun ok => ?_
    exact both_push w host (fun _ => ⟨rfl,rfl,rfl⟩) fun _ => by simp [push]
  | while_ condition body disabled =>
    exact both_push w host (fun _ => ⟨rfl,rfl,rfl⟩) fun _ => by simp [push]
  | atomic label body disabled =>
    exact both_push w host (fun _ => ⟨rfl,rfl,rfl⟩) fun _ => by simp [enterAtomic]
  | pause reason disabled =>
    refine .bind (both_pauseReason host reason) fun _ => ?_
    refine .bind (both_move (L := Rest J) fun c hc => ?_) fun _ =>
      both_pure fun c d hc hd => ⟨hc,hd.orderly host⟩
    exact ⟨w.ended (w.pause hc.1 hc.2.1) ⟨rfl,rfl,rfl⟩,hc.2.2⟩
  | parallel body disabled => exact both_executeParallelStep w host _ body
  | try_ body finallySteps disabled =>
    exact both_push w host (fun _ => ⟨rfl,rfl,rfl⟩) fun _ => by simp [enterTry]
  | assign values disabled =>
    refine .bind (both_freeVars host fun _ => (steady_assignValues _).still) fun _ => ?_
    exact both_pure fun c d hc hd => ⟨hc,hd⟩
  | setContext streams fields disabled =>
    refine .bind (Q := fun progress => Both (Going I)
      fun d => Only .setContext d ∧ (progress = .done → Free d)) ?_ fun progress => ?_
    · exact (both_withVars fun vars => only_executeSetContextStep streams fields).conseq
        (fun _ h => h) (fun _ _ h => h) fun _ s hs => ⟨hs.1,hs.2.orderly host (by decide)⟩
    cases progress with
    | done => exact both_pure fun c d hc hd => ⟨hc,hd.2 rfl⟩
    | waiting => exact both_pure fun c d hc hd => ⟨hc.rest w,hd.1.orderly host (by decide)⟩
    | failed message =>
      refine (both_failStep w host message fun _ h => h.only .setContext).conseq
        (fun _ h => ⟨h.1,h.2.1⟩) ?_ fun _ _ h => h
      rintro _ s ⟨rfl,hs⟩
      exact ⟨hs.1.rest w,hs.2.orderly host (by decide)⟩
  | use sequenceId args disabled => exact both_executeUseStep w host sequenceId args
  | adaptive spec body disabled =>
    refine .bind (both_freeVars host fun _ => (steady_executeAdaptiveStep _ _).still)
      fun frame => ?_
    cases frame with
    | error message => exact both_fail w host message
    | ok frame => exact both_push w host (fun _ => ⟨rfl,rfl,rfl⟩) fun _ => by simp [push]

def Passed (host : Host World) (I J : Ctl → Prop) (go : Bool) (s : RtState World) : Prop :=
  if go then Both (Standing I J) Free s else Both (Rest J) (Orderly host) s

theorem both_clearActive {F : Data World → Prop} :
    Triple (Both (Standing I J) F) (move fun c => { c with activeStep := none } : RT World Unit)
      (fun _ => Both (Standing I J) F) E :=
  both_move fun _ hc => hc.quiet w ⟨rfl,rfl,rfl⟩ rfl

theorem both_afterPoll {job : Job} (hjob : job ≠ .parallel) (poll : Poll) :
    Triple (Both (Going I) (Answered job poll)) (afterPoll host poll) (Passed host I J) E := by
  cases poll with
  | pending => exact both_pure fun c d hc hd => ⟨hc.rest w,hd.1.orderly host hjob⟩
  | finished =>
    refine both_pre (L := Standing I J) (H := Free) ?_ (fun _ h => .inl h)
      fun _ h => h.2 (by simp)
    exact .bind (both_clearActive w) fun _ => both_pure fun c d hc hd => ⟨hc,hd⟩
  | failed message =>
    refine both_pre (L := Going I) (H := Free) ?_ (fun _ h => h) fun _ h => h.2 (by simp)
    refine .bind (both_failStep w host message fun _ h => h) fun _ => ?_
    refine (Triple.bind (both_clearActive w) fun _ => ?_).pre fun _ h => h.2
    exact both_pure fun c d hc hd => ⟨hc,hd⟩

theorem both_unlessStopped {job : Job} (hjob : job ≠ .parallel) {x : RT World Poll}
    (hx : Triple (Both (Going I) (Only job)) x (fun poll => Both (Going I) (Answered job poll))
      (Raises host I)) :
    Triple (Both (Going I) (Only job)) (do
        let stopped ← checkStopPause host
        if stopped then pure false else do
          let poll ← x
          afterPoll host poll)
      (Passed host I J) (Raises host I) := by
  refine .bind (both_checkStopPause w host (tidy_only host job)) fun stopped => ?_
  cases stopped with
  | true => exact both_pure fun c d hc hd => ⟨hc,hd.orderly host hjob⟩
  | false => exact .bind hx fun poll => both_afterPoll w host hjob poll

theorem both_resumeWait (t : F64) :
    Triple (Both (Going I) (Only .wait)) (resumeWait host t) (Passed host I J) (Raises host I) := by
  refine both_readData fun d hd => ?_
  cases hws : d.waitState with
  | none =>
    refine both_pure fun c d' hc hd' => ⟨.inl hc,hd' ▸ hd.free ?_⟩
    simp [Waits.idle,Data.waits,hws]
  | some ws =>
    refine both_pre (L := Going I) (H := Only .wait) ?_ (fun _ h => h) fun _ h => h ▸ hd
    refine both_unlessStopped w host (by decide) ?_
    exact (both_withVars fun vars => answered_stepWaitUntil t ws).conseq (fun _ h => h)
      (fun _ _ h => h) fun _ s hs => ⟨hs.1,hs.2.orderly host (by decide)⟩

theorem both_resumeSetContext (t : F64) :
    Triple (Both (Going I) (Only .setContext)) (resumeSetContext host t) (Passed host I J)
      (Raises host I) := by
  refine both_readData fun d hd => ?_
  cases hstate : d.setContextState with
  | none => exact both_pure fun c d' hc hd' => ⟨.inl hc,hd' ▸ hd.free hstate⟩
  | some state =>
    refine both_pre (L := Going I) (H := Only .setContext) ?_ (fun _ h => h) fun _ h => h ▸ hd
    refine both_unlessStopped w host (by decide) ?_
    exact (both_onData (answered_stepSetContext t state)).conseq (fun _ h => h)
      (fun _ _ h => h) fun _ s hs => ⟨hs.1,hs.2.orderly host (by decide)⟩

omit w in
theorem Busy.joined {host : Host World} {d : Data World} (h : Busy host .parallel d) :
    Free { d with parallelState := none, parallelPendingFailure := none } := by
  refine Only.free (j := .parallel) (h.1.change fun other hother hidle => ?_) rfl
  cases other with
  | parallel => exact absurd rfl hother
  | wait | setContext | observation => exact hidle

theorem both_joinParallel (results : List ParallelBranchResult) :
    Triple (Both (Going I) (Busy host .parallel)) (joinParallel host results)
      (fun _ => Both (Standing I J) Free) E := by
  have hfail : ∀ message, Triple (Both (Going I) Free) (do
      let _ ← failStep host message
      pure () : RT World Unit) (fun _ => Both (Standing I J) Free) E := fun message =>
    .bind (both_failStep w host message fun _ h => h) fun _ =>
      .pure fun _ h => h.2
  refine both_readData fun d hd => ?_
  refine .bind (both_change (H := Free) fun d' hd' => ?_) fun _ => ?_
  · subst hd'
    exact hd.joined
  dsimp only
  cases d.parallelPendingFailure with
  | some message =>
    refine .bind (both_move (L := Going I) fun c hc => ?_) fun _ => hfail message
    exact hc.quiet w ⟨rfl,rfl,rfl⟩ rfl
  | none =>
    dsimp only
    split
    · exact .modify fun s hs => ⟨.inl hs.1,hs.2⟩
    · exact hfail _

theorem both_resumeParallel :
    Triple (Both (Going I) (Busy host .parallel)) (resumeParallel host) (Passed host I J)
      (Raises host I) := by
  refine both_readData fun d hd => ?_
  split
  · rename_i hstate
    exact both_pure fun c d' hc hd' => ⟨.inl hc,hd' ▸ hd.1.free hstate⟩
  · rename_i hstate hnone
    have hsome := hd.2 (by simp [Data.waits,hstate])
    simp [hnone] at hsome
  · refine .bind (Q := fun _ => Both (Going I) (Busy host .parallel)) ?_ fun results => ?_
    · refine (both_onData ((steady_ask _).still.busy host .parallel)).conseq ?_ (fun _ _ h => h) ?_
      · exact fun s hs => ⟨hs.1,by rw [show s.data = d from hs.2]; exact hd⟩
      · exact fun _ s hs => ⟨hs.1,.parallel,hs.2⟩
    cases results with
    | none => exact both_pure fun c d' hc hd' => ⟨hc.rest w,.parallel,hd'⟩
    | some results =>
      refine .bind (both_joinParallel w host results) fun _ => ?_
      exact .bind (both_clearActive w) fun _ => both_pure fun c d hc hd => ⟨hc,hd⟩

/-- As `Passed`, unless a failed trial has cut the run off. -/
def Observed (host : Host World) (I J : Ctl → Prop) (go : Bool) (s : RtState World) : Prop :=
  Passed host I J go s ∨ Aborted s.ctl

theorem both_resumeObservation (t : F64) :
    Triple (Both (Going I) (Only .observation)) (resumeObservation host t)
      (Observed host I J) (Raises host I) := by
  refine both_readData fun d hd => ?_
  cases hst : d.adaptiveObserveState with
  | none =>
    refine both_pure fun c d' hc hd' => .inl ⟨.inl hc,hd' ▸ hd.free ?_⟩
    simp [Waits.idle,Data.waits,hst]
  | some st =>
    refine .bind (Q := fun ended => Both (Going I)
      fun d => Only .observation d ∧ (ended.isSome = true → Free d)) ?_ fun ended => ?_
    · refine (both_withVars fun vars => ended_stepAdaptiveObservation t st).conseq ?_
        (fun _ _ h => h) fun _ s hs => ⟨hs.1,hs.2.orderly host (by decide)⟩
      exact fun s hs => ⟨hs.1,by rw [show s.data = d from hs.2]; exact hd⟩
    cases ended with
    | none => exact both_pure fun c d hc hd => .inl ⟨hc.rest w,hd.1.orderly host (by decide)⟩
    | some trial =>
      refine both_read fun c hc => ?_
      refine .bind (Q := fun _ => Both (Tried I J c.pending.isSome c.stack.length) Free)
        ?_ fun _ => ?_
      · refine (both_finalizeAdaptiveTrial (F := Free) w host st.frame c.observing st.proposal trial
          fun h => h.free).conseq ?_ (fun _ _ h => h) ?_
        · exact fun s hs => ⟨by rw [show s.ctl = c from hs.1]; exact hc.seek,hs.2.2 rfl⟩
        · refine fun _ s hs => ⟨hs.1.going fun hp hempty => ?_,hs.2.orderly host⟩
          have habove := hs.1.above
          rw [hempty] at habove
          exact hc.2.2 hp (List.length_eq_zero_iff.1 (Nat.le_zero.1 habove))
      · refine .pure fun s hs => ?_
        rcases hs.1 with hgo | hover | hcut
        · refine .inl ⟨.inl (hgo.going fun hp hempty => ?_),hs.2⟩
          have habove := hgo.above
          rw [hempty] at habove
          exact hc.2.2 hp (List.length_eq_zero_iff.1 (Nat.le_zero.1 habove))
        · exact .inl ⟨.inr hover.2,hs.2⟩
        · exact .inr hcut.aborted

omit w in
theorem both_resumeSleep (w : Guarded I J) (job : Job) (t : F64) :
    Triple (Both (Going I) (Busy host job)) (resumeSleep host t)
      (fun go s => if go then Both (Going I) (Busy host job) s else Both (Rest J) (Orderly host) s)
      E := by
  refine both_readData fun d hd => ?_
  refine both_pre (L := Going I) (H := Busy host job) ?_ (fun _ h => h) fun _ h => h ▸ hd
  cases d.sleepUntil with
  | none => exact both_pure fun c d hc hd => ⟨hc,hd⟩
  | some until_ =>
    refine .ite (fun _ => both_pure fun c d hc hd => ⟨hc.rest w,job,hd⟩) fun _ => ?_
    refine .bind (both_change (H := Busy host job) fun d hd => hd) fun _ => ?_
    refine .bind (both_move (L := Going I) fun c hc => ?_) fun _ =>
      both_pure fun c d hc hd => ⟨hc,hd⟩
    exact hc.quiet w ⟨rfl,rfl,rfl⟩ rfl

omit w in
theorem both_idleStages {K : Ctl → Prop} {F : Data World → Prop} {t : F64} :
    ((∀ d, F d → d.waits.idle .wait) → Triple (Both K F) (resumeWait host t)
      (fun go s => go = true ∧ Both K F s) E) ∧
    ((∀ d, F d → d.waits.idle .setContext) → Triple (Both K F) (resumeSetContext host t)
      (fun go s => go = true ∧ Both K F s) E) ∧
    ((∀ d, F d → d.waits.idle .parallel) → Triple (Both K F) (resumeParallel host)
      (fun go s => go = true ∧ Both K F s) E) ∧
    ((∀ d, F d → d.waits.idle .observation) → Triple (Both K F) (resumeObservation host t)
      (fun go s => go = true ∧ Both K F s) E) := by
  refine ⟨fun h => ?_,fun h => ?_,fun h => ?_,fun h => ?_⟩ <;>
    refine both_readData fun d hd => ?_
  · have hnone : d.waitState = none := by simpa [Waits.idle,Data.waits] using h d hd
    simp only [hnone]
    exact both_pure fun c d' hc hd' => ⟨rfl,hc,hd' ▸ hd⟩
  · have hnone : d.setContextState = none := h d hd
    simp only [hnone]
    exact both_pure fun c d' hc hd' => ⟨rfl,hc,hd' ▸ hd⟩
  · have hnone : d.parallelState = none := h d hd
    simp only [hnone]
    exact both_pure fun c d' hc hd' => ⟨rfl,hc,hd' ▸ hd⟩
  · have hnone : d.adaptiveObserveState = none := by simpa [Waits.idle,Data.waits] using h d hd
    simp only [hnone]
    exact both_pure fun c d' hc hd' => ⟨rfl,hc,hd' ▸ hd⟩

omit w in
theorem resumeAll_cons {P R : RtState World → Prop} {Q : Bool → RtState World → Prop}
    {stage : RT World Bool} {rest : List (RT World Bool)}
    (hstage : Triple P stage (fun go s => if go then R s else Q false s) E)
    (hrest : Triple R (resumeAll rest) Q E) :
    Triple P (resumeAll (stage :: rest)) Q E := by
  refine .bind hstage fun go => ?_
  cases go with
  | true => exact hrest
  | false => exact .pure fun _ h => h

omit w in
theorem resumeAll_idle {P : RtState World → Prop} {Q : Bool → RtState World → Prop}
    {stage : RT World Bool} {rest : List (RT World Bool)}
    (hstage : Triple P stage (fun go s => go = true ∧ P s) E)
    (hrest : Triple P (resumeAll rest) Q E) :
    Triple P (resumeAll (stage :: rest)) Q E := by
  refine resumeAll_cons (R := P) (hstage.post ?_) hrest
  rintro _ s ⟨rfl,hs⟩
  exact hs

theorem both_resumePending (job : Job) (t : F64) :
    Triple (Both (Going I) (Busy host job)) (resumePending host t) (Observed host I J)
      (Raises host I) := by
  refine resumeAll_cons (R := Both (Going I) (Busy host job)) ?_ ?_
  · refine (both_resumeSleep host w job t).post ?_
    intro go s hs
    cases go with
    | true => exact hs
    | false => exact .inl hs
  have hidle := fun (other : Job) (h : other ≠ job) (d : Data World) (hd : Busy host job d) =>
    hd.1 other h
  have hfree := fun (other : Job) (d : Data World) (hd : Free d) => hd other
  obtain ⟨hwait,hcontext,hparallel,hobserve⟩ := @both_idleStages World (Raises host I) host
    (Going I) (Busy host job) t
  obtain ⟨_,fcontext,fparallel,fobserve⟩ := @both_idleStages World (Raises host I) host
    (Standing I J) Free t
  have hend : Triple (Both (Standing I J) Free) (resumeAll [] : RT World Bool)
      (Observed host I J) (Raises host I) := .pure fun _ h => .inl h
  have hpassed : ∀ {go : Bool} {s : RtState World}, Passed host I J go s →
      if go then Both (Standing I J) Free s else Observed host I J false s := by
    intro go s hs
    cases go with
    | true => exact hs
    | false => exact .inl hs
  have fobserve' := resumeAll_idle (fobserve (hfree _)) hend
  have fparallel' := resumeAll_idle (fparallel (hfree _)) fobserve'
  cases job with
  | wait =>
    refine resumeAll_cons (R := Both (Standing I J) Free) ?_
      (resumeAll_idle (fcontext (hfree _)) fparallel')
    exact (both_resumeWait w host t).conseq (fun _ h => ⟨h.1,h.2.1⟩) (fun _ _ => hpassed)
      fun _ _ h => h
  | setContext =>
    refine resumeAll_idle (hwait (hidle _ (by decide))) ?_
    refine resumeAll_cons (R := Both (Standing I J) Free) ?_ fparallel'
    exact (both_resumeSetContext w host t).conseq (fun _ h => ⟨h.1,h.2.1⟩) (fun _ _ => hpassed)
      fun _ _ h => h
  | parallel =>
    refine resumeAll_idle (hwait (hidle _ (by decide))) ?_
    refine resumeAll_idle (hcontext (hidle _ (by decide))) ?_
    refine resumeAll_cons (R := Both (Standing I J) Free) ?_ fobserve'
    exact (both_resumeParallel w host).post fun _ _ => hpassed
  | observation =>
    refine resumeAll_idle (hwait (hidle _ (by decide))) ?_
    refine resumeAll_idle (hcontext (hidle _ (by decide))) ?_
    refine resumeAll_idle (hparallel (hidle _ (by decide))) ?_
    refine .bind ((both_resumeObservation w host t).pre fun _ h => ⟨h.1,h.2.1⟩)
      fun go => ?_
    cases go with
    | true => exact .pure fun _ h => h
    | false => exact .pure fun _ h => h

omit w in
theorem both_budgetSpent {K : Ctl → Prop} (executed : Nat) (deadline : F64) :
    Triple (Both K Free) (budgetSpent host executed deadline) (fun _ => Both K Free) E := by
  refine .bind both_isInterruptible fun free => ?_
  refine .ite (fun _ => ?_) fun _ => both_pure fun c d hc hd => ⟨hc,hd⟩
  refine .ite (fun _ => both_pure fun c d hc hd => ⟨hc,hd⟩) fun _ => ?_
  refine .bind (both_now host fun d _ hd => hd) fun _ => ?_
  exact both_pure fun c d hc hd => ⟨hc,hd⟩

def Looped (host : Host World) (I J : Ctl → Prop) (r : Nat ⊕ Bool) (s : RtState World) : Prop :=
  match r with
  | .inl _ => Both (Standing I J) Free s
  | .inr _ => Both (Rest J) (Orderly host) s

theorem both_runStep (deadline : F64) (executed : Nat) (step : Step) :
    Triple (Both (Going I) Free) (runStep host deadline executed step) (Looped host I J)
      (Raises host I) := by
  refine .bind (both_move (L := Going I) fun c hc => ?_) fun _ => ?_
  · exact hc.quiet w ⟨rfl,rfl,rfl⟩ rfl
  refine .bind (both_executeStep w host step) fun blocked => ?_
  cases blocked with
  | true =>
    refine both_readData (K := Rest J) (F := Orderly host) fun d hd => ?_
    refine .bind (both_move (L := Rest J) fun c hc => ?_) fun _ =>
      both_pure fun c d' hc hd' => ⟨hc,hd' ▸ hd⟩
    split
    · exact ⟨w.ended hc.1 ⟨rfl,rfl,rfl⟩,hc.2⟩
    · exact hc
  | false =>
    refine .bind (both_move (L := Going I) fun c hc => ?_) fun _ => ?_
    · exact hc.quiet w ⟨rfl,rfl,rfl⟩ rfl
    refine .bind (both_budgetSpent host _ _) fun spent => ?_
    cases spent with
    | true => exact both_pure fun c d hc hd => ⟨hc.rest w,hd.orderly host⟩
    | false => exact both_pure fun c d hc hd => ⟨.inl hc,hd⟩

theorem both_finishPendingTerminal {F : Data World → Prop} :
    Triple (Both (fun c => I c ∧ c.pending.isSome = true) F) (finishPendingTerminal host)
      (fun _ => Both (Rest J) (Orderly host)) E := by
  refine .bind (both_change (H := Orderly host) fun d _ =>
    (free_clearWaits d).orderly host) fun _ => both_move fun c hc => ?_
  refine ⟨w.finish hc.1 hc.2,occupied_of_none ?_⟩
  unfold finishPending
  cases hp : c.pending with
  | none => simp [hp] at hc
  | some p => rfl

theorem both_prepareNextRunLoop :
    Triple (Both (fun c => I c ∧ c.state = .running ∧ c.pending = none) Free)
      (prepareNextRunLoop host) (fun _ => Both (Standing I J) Free) E := by
  refine both_read fun c hc => ?_
  cases c.spec with
  | none =>
    refine both_move fun c' hc' => ?_
    subst hc'
    exact .inr ⟨w.stop hc.1 hc.2.2,by simp [stop],hc.2.2⟩
  | some spec =>
    refine .bind (both_move (L := Standing I J) fun c' hc' => ?_) fun _ => ?_
    · subst hc'
      refine .inl ⟨w.quiet hc.1 ⟨rfl,hc.2.2.symm,rfl⟩,hc.2.1,occupied_of_none rfl⟩
    · exact both_change fun d _ => free_clearWaits _

theorem both_sequenceDone (executed : Nat) :
    Triple (Offered I J .none_) (sequenceDone host executed) (Looped host I J) E := by
  refine .or ?_ ?_
  · refine both_read fun c hc => ?_
    refine .ite (fun hp => ?_) fun hp => ?_
    · refine .bind (both_pre (both_finishPendingTerminal w host)
        (fun c' hc' => hc' ▸ ⟨hc.1,hp⟩) fun _ h => h) fun _ => .pure fun _ h => h
    have hnone : c.pending = none := by simpa using hp
    refine .ite (fun _ => ?_) fun hstate => absurd hc.2 hstate
    refine .bind (both_move
      (L := fun c => I c ∧ c.state = .running ∧ c.pending = none) fun c' hc' => ?_) fun _ => ?_
    · subst hc'
      exact ⟨w.quiet hc.1 ⟨rfl,rfl,rfl⟩,hc.2,hnone⟩
    refine both_read fun c₁ hc₁ => ?_
    refine both_pre (L := fun c => I c ∧ c.state = .running ∧ c.pending = none) (H := Free) ?_
      (fun c' hc' => hc' ▸ hc₁) fun _ h => h
    refine .ite (fun _ => ?_) fun _ => ?_
    · exact .bind (both_prepareNextRunLoop w host) fun _ =>
        both_pure fun c d hc hd => ⟨hc,hd⟩
    · refine .bind (both_move (L := Rest J) fun c hc => ?_) fun _ =>
        both_pure fun c d hc hd => ⟨hc,hd.orderly host⟩
      exact ⟨w.stop hc.1 hc.2.2,occupied_of_none hc.2.2⟩
  · refine both_read fun c hc => ?_
    refine .ite (fun hp => by simp [hc.2.2] at hp) fun _ => ?_
    refine .ite (fun hstate => absurd hstate hc.2.1) fun _ => ?_
    exact both_pure fun c' d hc' hd =>
      ⟨hc' ▸ ⟨hc.1,occupied_of_none hc.2.2⟩,hd.orderly host (by decide)⟩

/-- What is known of the control state once `_next_step` has answered. -/
def Fetched : NextStep → Ctl → Prop
  | .step _,c => c.Executing
  | .notReady,_ => True
  | .none_,c => c.pending.isSome = true ∨ c.state = .running → c.stack = []

omit w in
theorem fetched_nextStep : Triple (fun s : RtState World => s.ctl.state = .running) (nextStep host)
      (fun r s => Fetched r s.ctl) (fun _ _ => True) := by
  intro n s hs
  refine (@guides_nextStep World s.ctl host).conseq (fun _ h => h) ?_ (fun _ _ _ => trivial) n s
    ⟨Relation.ReflTransGen.refl,hs⟩
  intro r s' hr
  cases r with
  | step step => exact hr.2
  | notReady => trivial
  | none_ => exact hr.2

theorem both_tickTurn (deadline : F64) (executed : Nat) :
    Triple (Both (Standing I J) Free) (tickTurn host deadline executed)
      (fun r s => Looped host I J r s ∨ Aborted s.ctl)
      (fun e s => Raises host I e s ∨ Aborted s.ctl) := by
  refine both_read fun c hc => ?_
  refine .ite (fun _ => ?_) fun hr => ?_
  · exact both_pure fun c' d hc' hd => .inl ⟨hc' ▸ hc.rest w,hd.orderly host⟩
  have hgoing : Going I c := by
    rcases hc with h | h
    · exact h
    · exact absurd h.2.1 hr
  refine both_pre (L := Going I) (H := Free) ?_ (fun c' hc' => hc' ▸ hgoing) fun _ h => h
  refine .bind (both_checkStopPause w host ⟨fun _ h => h,fun d h other =>
    clearSetContext_idle d other (h other)⟩) fun stopped => ?_
  cases stopped with
  | true => exact both_pure fun c d hc hd => .inl ⟨hc,hd.orderly host⟩
  | false =>
    refine .bind (Q := fun r s => (Offered I J r s ∨ Aborted s.ctl) ∧ Fetched r s.ctl) ?_
      fun next => ?_
    · refine ((both_nextStep w host).and (fetched_nextStep host)).conseq (fun s hs => ⟨hs,hs.1.2.1⟩)
        (fun _ _ h => h) fun _ s hs => hs.1.imp_left fun h => ⟨h.1,h.2.orderly host (by decide)⟩
    cases next with
    | notReady =>
      exact .pure fun s hs => hs.1.imp_left fun h => ⟨h.1,h.2.orderly host (by decide)⟩
    | none_ =>
      refine (Triple.or (P := Offered I J .none_)
        (N := fun s => Aborted s.ctl ∧ Fetched .none_ s.ctl) ?_ ?_).pre fun s hs =>
          hs.1.imp_right fun h => ⟨h,hs.2⟩
      · exact (both_sequenceDone w host executed).post fun _ _ h => Or.inl h
      · exact (aborted_of_guides (R := fun _ _ => True) (M := Moves)
          (fun c₀ => @guides_sequenceDone World c₀ _ host executed)
          (fun _ _ _ h => ⟨h,trivial⟩) fun _ _ h => h).conseq (fun _ h => h)
          (fun _ _ h => .inr h.1) fun _ _ h => .inr h
    | step step =>
      refine (Triple.or (P := Both (Going I) Free)
        (N := fun s => Aborted s.ctl ∧ s.ctl.Executing) ?_ ?_).pre fun s hs =>
          hs.1.imp_right fun h => ⟨h,hs.2⟩
      · exact (both_runStep w host deadline executed step).conseq (fun _ h => h)
          (fun _ _ h => .inl h) fun _ _ h => .inl h
      · exact (aborted_of_guides (R := fun _ _ => True)
          (fun c₀ => @guides_runStep World c₀ host deadline executed step)
          (fun _ _ _ h => ⟨h,trivial⟩) fun _ _ h => h.1).conseq (fun _ h => h)
          (fun _ _ h => .inr h.1) fun _ _ h => .inr h

theorem both_tickLoop : Triple (fun s => Both (Standing I J) Free s ∨ Aborted s.ctl) (tickLoop host)
      (fun _ s => Both (Rest J) (Orderly host) s ∨ Aborted s.ctl)
      (fun e s => Raises host I e s ∨ Aborted s.ctl) := by
  have hlost : ∀ {x : RT World (Nat ⊕ Bool)},
      (∀ c₀, Guides (Via c₀ fun _ => True) x (fun _ => Moves c₀) (Via c₀ Live)) →
      Triple (fun s => Aborted s.ctl) x (fun _ s => Aborted s.ctl)
        (fun _ s => Aborted s.ctl) := fun h =>
    (aborted_of_guides (R := fun _ _ => True) h (fun _ _ _ h => ⟨h,trivial⟩) fun _ _ h => h.1).conseq
      (fun _ h => ⟨h,trivial⟩) (fun _ _ h => h.1) fun _ _ h => h
  refine .bind (Q := fun _ s => Both (Standing I J) Free s ∨ Aborted s.ctl) ?_
    fun t => ?_
  · intro n s hs
    exact hs
  refine .iterate (I := fun _ s => Both (Standing I J) Free s ∨ Aborted s.ctl)
    fun executed => ?_
  refine Triple.post (Q := fun r s => Looped host I J r s ∨ Aborted s.ctl) ?_ ?_
  · refine (both_tickTurn w host _ executed).or ?_
    refine (hlost fun c₀ => ?_).conseq (fun _ h => h) (fun _ _ h => .inr h) fun _ _ h => .inr h
    exact guides_pre (@guides_tickTurn World c₀ host _ executed) fun _ h => h.1
  · intro r s hs
    cases r with
    | inl executed => exact hs
    | inr more => exact hs

theorem both_tickBody : Triple (Both (Going I) (Orderly host)) (tickBody host)
      (fun _ s => Both (Rest J) (Orderly host) s ∨ Aborted s.ctl)
      (fun e s => Raises host I e s ∨ Aborted s.ctl) := by
  refine both_read fun c hc => ?_
  refine .ite (fun hdone => ?_) fun _ => ?_
  · simp only [Bool.and_eq_true,List.isEmpty_iff] at hdone
    exact absurd hdone.2 (hc.2.2 hdone.1)
  refine both_pre (L := Going I) (H := Orderly host) ?_ (fun c' hc' => hc' ▸ hc) fun _ h => h
  refine .bind (both_checkStopPause w host (tidy_orderly host)) fun stopped => ?_
  cases stopped with
  | true => exact .pure fun _ h => .inl h
  | false =>
    refine .bind (both_now (K := Going I) (F := Orderly host) host fun d _ hd => hd)
      fun t => ?_
    refine .bind (Q := Observed host I J) ?_ fun go => ?_
    · intro n s hs
      obtain ⟨job,hjob⟩ := hs.2
      exact (both_resumePending w host job t).conseq (fun _ h => h) (fun _ _ h => h)
        (fun _ _ h => .inl h) n s ⟨hs.1,hjob⟩
    cases go with
    | true => exact both_tickLoop w host
    | false => exact .pure fun _ h => h

theorem both_tickFailed (e : PyExc) :
    Triple (Raises host I e) (tickFailed host e) (fun _ => Both (Rest J) (Orderly host)) E := by
  refine .bind (Q := fun handled => Both
    (fun c => Going I c ∧ c.pending.isSome = handled) (Orderly host)) ?_ fun handled => ?_
  · refine both_read (K := Going I) fun c hc => ?_
    refine .ite (fun hp => ?_) fun _ => ?_
    · refine .bind (both_move (L := fun c => Going I c ∧ c.pending.isSome = true)
        fun c' hc' => ?_) fun _ => both_pure fun c d hc hd => ⟨hc,hd⟩
      subst hc'
      exact ⟨⟨w.note _ hc.1 hp,hc.2.1,fun _ => hc.2.2 hp⟩,by simpa [noteCleanupFailure] using hp⟩
    · exact both_pre (both_beginTerminalUnwind host (w.unwind _) fun _ h => h.orderly host)
        (fun c' hc' => hc' ▸ hc) fun _ h => h
  · cases handled with
    | true => exact both_pure fun c d hc hd => ⟨hc.1.rest w,hd⟩
    | false =>
      refine .bind (both_move (L := Rest J) fun c hc => ?_) fun _ =>
        both_pure fun c d hc hd => ⟨hc,hd⟩
      have hnone : c.pending = none := by simpa using hc.2
      exact ⟨w.error _ (w.quiet hc.1.1 ⟨rfl,rfl,rfl⟩) hnone,occupied_of_none hnone⟩

theorem tick_of_body {P Q : RtState World → Prop} (hP : ∀ s, P s → s.ctl.state = .running)
    (hbody : Triple P (tickBody host) (fun _ => Q) (fun e s => Raises host I e s ∨ Aborted s.ctl)) :
    Triple P (tick host)
      (fun _ s => Q s ∨ Both (Rest J) (Orderly host) s ∨ Aborted s.ctl) (fun _ _ => False) := by
  intro n s hs
  refine (both_read (K := fun c => c = s.ctl) (F := fun d => d = s.data) fun c hc => ?_) n s ⟨rfl,rfl⟩
  refine .ite (fun hstate => absurd (hc ▸ hP s hs) hstate) fun _ => ?_
  refine (Triple.tryCatch (P := P) (M := fun e s =>
    (Raises host I e s ∨ Aborted s.ctl) ∧ Live s.ctl) ?_ fun e => ?_).pre fun t ht => ?_
  · intro n s hs
    refine (hbody.and (@guides_tickBody World s.ctl host)).conseq (fun _ h => h)
      (fun _ _ h => .inl h.1) (fun _ s' h => ⟨h.1,h.2.2⟩) n s
      ⟨hs,Relation.ReflTransGen.refl,.inl (.inr (hP s hs))⟩
  · refine (Triple.or (P := Raises host I e) (N := fun s => Aborted s.ctl ∧ Live s.ctl)
      ?_ ?_).pre fun s hs => hs.1.imp_right fun h => ⟨h,hs.2⟩
    · exact (both_tickFailed w host e).post fun _ _ h => Or.inr (Or.inl h)
    · intro n s hs
      refine (@guides_tickFailed World s.ctl (fun _ => False) host e).conseq (fun _ h => h) ?_
        (fun _ _ h => h) n s ⟨Relation.ReflTransGen.refl,hs.2⟩
      exact fun _ s' hs' => .inr (.inr (Ctl.Moves.aborted hs' hs.1))
  · have heq : t = s := by
      cases t
      cases s
      obtain ⟨hctl,hdata⟩ := ht
      simp_all
    exact heq ▸ hs

theorem both_tick : Triple (Both (Going I) (Orderly host)) (tick host)
      (fun _ s => Both (Rest J) (Orderly host) s ∨ Aborted s.ctl) (fun _ _ => False) := by
  refine (tick_of_body w host (fun s hs => hs.1.2.1) (both_tickBody w host)).post ?_
  rintro _ s ((hs | hs) | hs)
  · exact .inl hs
  · exact .inr hs
  · exact hs

end

/-- A run that has begun is not idle, and what is to end it is an end, with its error. -/
structure Sound (c : Ctl) : Prop where
  begun : c.state ≠ .idle
  ends : ∀ p, c.pending = some p → p.state.terminal = true
  reports : ∀ p, c.pending = some p → p.state = .error ∨ p.cleanupFailed = true →
    p.error.isSome = true

theorem Sound.same {c c' : Ctl} (h : Sound c) (hs : c'.state ≠ .idle)
    (hp : c'.pending = c.pending) : Sound c' :=
  ⟨hs,fun p hp' => h.ends p (hp.symm.trans hp'),fun p hp' => h.reports p (hp.symm.trans hp')⟩

theorem Sound.quit {c : Ctl} (hs : c.state ≠ .idle) (hp : c.pending = none) : Sound c :=
  ⟨hs,fun p hp' => by simp [hp] at hp',fun p hp' => by simp [hp] at hp'⟩

theorem guarded_sound : Guarded Sound Sound where
  quiet h hq := h.same (by rw [hq.state]; exact h.begun) hq.pending
  ended h hq := h.same (by rw [hq.state]; exact h.begun) hq.pending
  leave h := h
  note message h hp := by
    refine ⟨h.begun,?_,?_⟩
    · intro p hp'
      obtain ⟨p₀,hp₀,rfl⟩ := Option.map_eq_some_iff.1 hp'
      exact h.ends p₀ hp₀
    · intro p hp' _
      obtain ⟨p₀,hp₀,rfl⟩ := Option.map_eq_some_iff.1 hp'
      rfl
  unwind message h hp := by
    refine ⟨h.begun,?_,?_⟩ <;> rintro p ⟨⟩
    · rfl
    · exact fun _ => rfl
  unwindStop h hp := by
    refine ⟨h.begun,?_,?_⟩ <;> rintro p ⟨⟩
    · rfl
    · rintro (hstate | hfailed)
      · cases hstate
      · cases hfailed
  pause h _ := h.same (by simp) rfl
  stop h hp := Sound.quit (by simp [stop]) hp
  error message h hp := Sound.quit (by simp [setError]) hp
  finish {c} h hp := by
    obtain ⟨p,hsome⟩ := Option.isSome_iff_exists.1 hp
    have hterm := h.ends p hsome
    refine Sound.quit ?_ ?_
    · simp only [finishPending,hsome]
      split
      · simp
      · intro hidle
        rw [hidle] at hterm
        cases hterm
    · simp [finishPending,hsome]
  abort message h hp := by
    refine Sound.quit ?_ ((abortTrial_pending message _).trans hp)
    unfold abortTrial
    dsimp only
    split <;> simp [log]

variable (host : Host World)

def Stands (s : RtState World) : Prop := Both (Rest Sound) (Orderly host) s

theorem stands_tick : Triple (Stands host) (tick host) (fun _ s => Stands host s ∨ Aborted s.ctl)
      (fun _ _ => False) := by
  intro n s hs
  by_cases hstate : s.ctl.state = .running
  · exact both_tick guarded_sound host n s ⟨⟨hs.1.1,hstate,hs.1.2⟩,hs.2⟩
  · refine (both_read (K := fun c => c = s.ctl) (F := fun d => d = s.data) fun c hc => ?_) n s
      ⟨rfl,rfl⟩
    refine .ite (fun _ => ?_) fun hr => absurd (by rw [hc]; exact hstate) hr
    refine both_pure fun c' d hc' hd => .inl ?_
    rw [hc',hc,hd]
    exact hs

theorem stands_move {f : Ctl → Ctl} (hstate : ∀ c, c.state ≠ .idle → (f c).state ≠ .idle)
    (hpending : ∀ c, (f c).pending = c.pending) (hstack : ∀ c, (f c).stack = c.stack) :
    Triple (Stands host) (move f : RT World Unit) (fun _ => Stands host) (fun _ _ => False) := by
  refine both_move fun c hc => ⟨hc.1.same (hstate c hc.1.begun) (hpending c),?_⟩
  unfold Occupied
  rw [hpending,hstack]
  exact hc.2

theorem stands_fail (reason : String) :
    Triple (Stands host) (Sequencer.fail host reason) (fun _ => Stands host)
      (fun _ _ => False) := by
  refine both_read (K := Rest Sound) fun c hc => both_readData fun d hd => ?_
  refine both_pre (L := Rest Sound) (H := Orderly host) ?_ (fun c' hc' => hc' ▸ hc)
    fun d' hd' => hd' ▸ hd
  refine .ite (fun _ => both_pure fun c d hc hd => ⟨hc,hd⟩) fun _ => ?_
  refine .bind (stands_move host (fun _ h => h) (fun _ => rfl) fun _ => rfl) fun _ => ?_
  refine .ite (fun _ => both_change fun d hd => hd) fun _ => ?_
  refine .bind (both_change (H := Orderly host) fun d _ =>
    (free_clearWaits d).orderly host) fun _ => ?_
  refine .bind (stands_move host ?_ ?_ ?_) fun _ => ?_
  · intro c hc
    split <;> exact hc
  · intro c
    split <;> rfl
  · intro c
    split <;> rfl
  refine .bind (rest_beginTerminalUnwind host (guarded_sound.unwind _)
    fun _ h => h.orderly host) fun begun => ?_
  refine .ite (fun _ => ?_) fun hbegun => ?_
  · exact both_move (L := Rest Sound) fun c hc => ⟨hc.1.1.same (by simp) rfl,hc.1.2⟩
  · refine both_move (L := Rest Sound) fun c hc => ?_
    have hnone : c.pending = none := by simpa [hbegun] using hc.2
    exact ⟨Sound.quit (by simp [setError]) hnone,occupied_of_none hnone⟩

theorem stands_perform (r : Request) :
    Triple (Stands host) (r.perform host) (fun _ s => Stands host s ∨ Aborted s.ctl)
      (fun _ _ => False) := by
  cases r with
  | tick => exact .bind (stands_tick host) fun _ => .pure fun _ h => h
  | pause =>
    have h : Triple (Stands host) requestPause (fun _ => Stands host) (fun _ _ => False) :=
      stands_move host (fun _ h => h) (fun _ => rfl) fun _ => rfl
    exact h.post fun _ _ h => .inl h
  | resume =>
    have h : Triple (Stands host) Sequencer.resume (fun _ => Stands host)
        (fun _ _ => False) := by
      refine stands_move host (fun c hc => ?_) (fun c => ?_) fun c => ?_
      · split
        · simp
        · exact hc
      · split <;> rfl
      · split <;> rfl
    exact h.post fun _ _ h => .inl h
  | stop =>
    have h : Triple (Stands host) requestStop (fun _ => Stands host) (fun _ _ => False) := by
      refine stands_move host (fun c hc => ?_) (fun c => ?_) fun c => ?_
      · split
        · simp
        · exact hc
      · split <;> rfl
      · split <;> rfl
    exact h.post fun _ _ h => .inl h
  | fail reason => exact (stands_fail host reason).post fun _ _ h => .inl h
  | output payload =>
    have h : Triple (Stands host) (recordAnalysisOutput payload) (fun _ => Stands host)
        (fun _ _ => False) := both_change fun d hd => hd.same (recordOutput_waits payload d)
    exact h.post fun _ _ h => .inl h

variable {host}

variable {s s' : RtState World}

theorem Serves.aborted (h : Serves host s s') (ha : Aborted s.ctl) : Aborted s'.ctl :=
  (Run.moves (.single h)).aborted ha

theorem Serves.stands (h : Serves host s s') (hs : Stands host s) :
    Stands host s' ∨ Aborted s'.ctl := by
  obtain ⟨r,hr⟩ := h
  have hperform : Triple (Stands host) (r.perform host)
      (fun _ s => Stands host s ∨ Aborted s.ctl) (fun _ s => Stands host s ∨ Aborted s.ctl) :=
    (stands_perform host r).conseq (fun _ h => h) (fun _ _ h => h) fun _ _ h => False.elim h
  exact hperform.leaves (I := fun s => Stands host s ∨ Aborted s.ctl) hs hr

theorem Run.stands (h : Run host s s') (hs : Stands host s) : Stands host s' ∨ Aborted s'.ctl := by
  induction h with
  | refl => exact .inl hs
  | tail _ hserve ih =>
    rcases ih with hstands | ha
    · exact hserve.stands hstands
    · exact .inr (hserve.aborted ha)

theorem start_stands {args : StartArgs} {n : Nat}
    (h : (start host args).run n s = .ok () s') : Stands host s' := by
  have hbegun := start_begun h
  refine ⟨⟨Sound.quit (by rw [hbegun.state]; simp) hbegun.pending,occupied_of_none hbegun.pending⟩,?_⟩
  have hfree : Triple (fun _ => True) (start host args) (fun _ s => Free s.data)
      (fun _ _ => True) := by
    refine .bind .any fun c => ?_
    cases c.spec with
    | none => exact .raise fun _ _ => trivial
    | some spec =>
      refine .bind .any fun loops => ?_
      refine .bind .any fun overrides => ?_
      refine .bind .any fun _ => ?_
      refine .bind .any fun _ => ?_
      refine .bind .any fun modes => ?_
      refine .bind (Q := fun _ s => Free s.data)
        (.modify fun s _ => free_clearWaits _) fun _ => ?_
      exact .modify fun s hs => hs
  exact (hfree.ok trivial h).orderly host

end ExperimentControl.Sequencer

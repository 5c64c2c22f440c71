import ExperimentControl.Sequencer.Control

/-!
Executing steps, `tick` and the requests between ticks as `Ctl.Move`s, and the runs
they make up.
-/

namespace ExperimentControl.Sequencer
open Lib Python Ctl Prog

variable {World : Type}

section
variable {c₀ c : Ctl} {E : Ctl → Prop}

variable (host : Host World)

theorem guides_fail (message : String) :
    Guides (Via c₀ Live) (failStep host message) (fun _ => Via c₀ Live) E :=
  guides_conseq (guides_failStep host message) (fun _ h => h) (fun _ _ h => h.2) fun _ h => h

theorem guides_finishWith (failure : Option String) :
    Guides (Via c₀ Live) (finishWith host failure) (fun _ => Via c₀ Live) E := by
  cases failure with
  | none => exact guides_pure fun _ h => h
  | some message => exact guides_fail host message

theorem guides_dispatchParallel (step : Step) (body : List Step)
    (begin : List ParallelBranchPlan → Callback World (Option Nat)) :
    Guides (Via c₀ Live) (dispatchParallel host step body begin) (fun _ => Via c₀ Live) (Via c₀ Live) := by
  refine .bind (guides_withVars _ fun _ h => h) fun env => ?_
  split
  · exact guides_fail host _
  · exact guides_pure fun _ h => h
  · refine .bind (guides_onData _ fun _ h => h) fun state => ?_
    exact .bind (guides_change _) fun _ => guides_pure fun _ h => h

theorem guides_executeParallelStep (step : Step) (body : List Step) :
    Guides (Via c₀ Live) (executeParallelStep host step body) (fun _ => Via c₀ Live) (Via c₀ Live) := by
  refine .bind guides_getCtl fun c => ?_
  refine guides_pre (P := Via c₀ Live) ?_ fun _ h => h.2
  refine .ite (fun _ => guides_fail host _) fun _ => ?_
  cases host.parallelDispatch with
  | none => exact guides_fail host _
  | some callbacks => exact guides_dispatchParallel host step body _

theorem guides_push {g : Ctl → Ctl} (hm : ∀ c, c.Executing → Move c (g c))
    (hp : ∀ c, (g c).pending = c.pending) (hr : ∀ c, (g c).state = c.state) :
    Guides (Via c₀ Executing) (do move g; pure false : RT World Bool) (fun _ => Via c₀ Live) E := by
  refine .bind (guides_move (Q := Via c₀ Live) ?_) fun _ => guides_pure fun _ h => h
  intro c hc
  refine ⟨hc.1.tail (hm c hc.2),Active.live ?_⟩
  unfold Active
  rw [hp,hr]
  exact hc.2.1.symm

theorem executing_live (c : Ctl) (h : Via c₀ Executing c) : Via c₀ Live c := ⟨h.1,h.2.live⟩

theorem guides_executeUseStep (sequenceId : String) (args : Option Entries) :
    Guides (Via c₀ Executing) (executeUseStep host sequenceId args) (fun _ => Via c₀ Live)
      (Via c₀ Live) := by
  refine guides_read fun c hc => ?_
  have hlive : ∀ c', c' = c → Via c₀ Live c' := by
    intro c' hc'
    subst hc'
    exact executing_live c' hc
  refine .ite (fun _ => guides_raise hlive) fun hname => ?_
  refine .bind (guides_onData _ hlive) fun spec => ?_
  refine .bind (guides_onData _ hlive) fun merged => ?_
  refine .bind (guides_move (Q := Via c₀ Live) ?_) fun _ => guides_pure fun _ h => h
  intro c' hc'
  subst hc'
  exact ⟨hc.1.tail (.enterUse hc.2 hname),.inl hc.2.1.symm⟩

theorem guides_pauseReason (reason : Option String) :
    Guides (Via c₀ Executing) (pauseReason host reason) (fun _ => Via c₀ Executing)
      (Via c₀ Live) := by
  unfold pauseReason
  cases given reason with
  | none => exact guides_pure fun _ h => h
  | some reason =>
    exact .bind (guides_withVars _ executing_live) fun _ => guides_pure fun _ h => h

theorem executeAdaptiveStep_trial (vars : Env) (spec : AdaptiveSpec) (body : List Step) :
    Triple (fun _ => True) (executeAdaptiveStep host vars spec body)
      (fun r _ => ∀ frame, r = .ok frame → frame.trial = none) (fun _ _ => True) := by
  refine .ite (fun _ => ?_) fun _ => .pure fun _ _ _ h => nomatch h
  refine .bind .any fun _ => ?_
  refine .bind .any fun _ => ?_
  refine .bind .any fun _ => ?_
  refine .bind .any fun _ => ?_
  refine .bind .any fun _ => ?_
  refine .bind .any fun _ => ?_
  refine .pure fun _ _ frame h => ?_
  cases h
  rfl

theorem guides_executeStep (step : Step) :
    Guides (Via c₀ Executing) (executeStep host step) (fun _ => Via c₀ Live) (Via c₀ Live) := by
  cases step with
  | call step disabled =>
    refine .bind (guides_withVars _ executing_live) fun failure => ?_
    exact guides_pre (guides_finishWith host failure) executing_live
  | set step disabled =>
    refine .bind (guides_withVars _ executing_live) fun failure => ?_
    exact guides_pre (guides_finishWith host failure) executing_live
  | sleep seconds disabled =>
    refine .bind (guides_withVars _ executing_live) fun _ => ?_
    refine .bind (guides_onData _ executing_live) fun _ => ?_
    refine .bind (guides_now host) fun _ => ?_
    exact .bind (guides_change _) fun _ => guides_pure executing_live
  | waitUntil raw disabled =>
    exact .bind (guides_withVars _ executing_live) fun _ => guides_pure executing_live
  | for_ bind inExpr body disabled =>
    refine .bind (guides_withVars _ executing_live) fun records => ?_
    exact guides_push (fun c hc => .pushLoop hc rfl) (fun _ => rfl) fun _ => rfl
  | repeat_ times body disabled =>
    refine .bind (guides_withVars _ executing_live) fun _ => ?_
    refine .bind (guides_onData _ executing_live) fun n => ?_
    exact guides_push (fun c hc => .pushLoop hc rfl) (fun _ => rfl) fun _ => rfl
  | if_ condition thenSteps elseSteps disabled =>
    refine .bind (guides_withVars _ executing_live) fun ok => ?_
    exact guides_push (fun c hc => .pushPlain hc) (fun _ => rfl) fun _ => rfl
  | while_ condition body disabled =>
    exact guides_push (fun c hc => .pushLoop hc rfl) (fun _ => rfl) fun _ => rfl
  | atomic label body disabled =>
    exact guides_push (fun c hc => .enterAtomic hc) (fun _ => rfl) fun _ => rfl
  | pause reason disabled =>
    refine .bind (guides_pauseReason host reason) fun _ => ?_
    refine .bind (guides_move (Q := Via c₀ Live) ?_) fun _ => guides_pure fun _ h => h
    intro c hc
    refine ⟨hc.1.tail (.other ⟨rfl,rfl,rfl,rfl,rfl,rfl,rfl,rfl,rfl⟩ (.inr rfl)),?_⟩
    exact .inr (.inl rfl)
  | parallel body disabled =>
    exact guides_pre (guides_executeParallelStep host _ body) executing_live
  | try_ body finallySteps disabled =>
    exact guides_push (fun c hc => .enterTry hc) (fun _ => rfl) fun _ => rfl
  | assign values disabled =>
    exact .bind (guides_withVars _ executing_live) fun _ => guides_pure executing_live
  | setContext streams fields disabled =>
    refine .bind (guides_withVars _ executing_live) fun progress => ?_
    cases progress with
    | done => exact guides_pure executing_live
    | waiting => exact guides_pure executing_live
    | failed message => exact guides_pre (guides_fail host message) executing_live
  | use sequenceId args disabled => exact guides_executeUseStep host sequenceId args
  | adaptive spec body disabled =>
    refine .bind (guides_withVarsGiven (executeAdaptiveStep_trial host · spec body)
      executing_live) fun frame => ?_
    refine guides_given fun hframe => ?_
    cases frame with
    | error message => exact guides_pre (guides_fail host message) executing_live
    | ok frame =>
      exact guides_push (fun c hc => .pushAdaptive hc (hframe frame rfl)) (fun _ => rfl)
        fun _ => rfl

theorem Ctl.Move.flags {c' : Ctl} (h : SameFrames c c') (hs : c'.state = c.state) : Move c c' :=
  .other h (.inl hs)

theorem guides_clearActive :
    Guides (Via c₀ Live) (move fun c => { c with activeStep := none } : RT World Unit)
      (fun _ => Via c₀ Live) E :=
  guides_move fun _ hc =>
    via_move hc.1 (.flags ⟨rfl,rfl,rfl,rfl,rfl,rfl,rfl,rfl,rfl⟩ rfl) hc.2

theorem guides_resumeSleep (t : F64) :
    Guides (Via c₀ Live) (resumeSleep host t) (fun _ => Via c₀ Live) E := by
  refine .bind guides_getData fun d => ?_
  cases d.sleepUntil with
  | none => exact guides_pure fun _ h => h
  | some until_ =>
    refine .ite (fun _ => guides_pure fun _ h => h) fun _ => ?_
    refine .bind (guides_change _) fun _ => ?_
    exact .bind guides_clearActive fun _ => guides_pure fun _ h => h

theorem guides_afterPoll (poll : Poll) :
    Guides (Via c₀ Live) (afterPoll host poll) (fun _ => Via c₀ Live) E := by
  cases poll with
  | pending => exact guides_pure fun _ h => h
  | finished => exact .bind guides_clearActive fun _ => guides_pure fun _ h => h
  | failed message =>
    refine .bind (guides_fail host message) fun _ => ?_
    exact .bind guides_clearActive fun _ => guides_pure fun _ h => h

theorem guides_unlessStopped {x : RT World Bool}
    (hx : Guides (Via c₀ Live) x (fun go c => if go then Via c₀ Live c else Moves c₀ c)
      (Via c₀ Live)) :
    Guides (Via c₀ Live) (do
        let stopped ← checkStopPause host
        if stopped then pure false else x)
      (fun go c => if go then Via c₀ Live c else Moves c₀ c) (Via c₀ Live) := by
  refine .bind (guides_checkStopPause host fun _ h => h) fun stopped => ?_
  cases stopped with
  | true => exact guides_pure fun _ h => by simpa using h
  | false => exact guides_pre hx fun _ h => by simpa using h

theorem goes_of_live (go : Bool) (c : Ctl) (h : Via c₀ Live c) :
    if go then Via c₀ Live c else Moves c₀ c := by
  cases go with
  | true => exact h
  | false => exact h.1

theorem guides_resumeWait (t : F64) :
    Guides (Via c₀ Live) (resumeWait host t) (fun go c => if go then Via c₀ Live c else Moves c₀ c)
      (Via c₀ Live) := by
  refine .bind guides_getData fun d => ?_
  cases d.waitState with
  | none => exact guides_pure fun c h => goes_of_live true c h
  | some ws =>
    refine guides_unlessStopped host ?_
    refine .bind (guides_withVars _ fun _ h => h) fun poll => ?_
    exact guides_conseq (guides_afterPoll host poll) (fun _ h => h) goes_of_live fun _ h => h

theorem guides_resumeSetContext (t : F64) : Guides (Via c₀ Live) (resumeSetContext host t)
      (fun go c => if go then Via c₀ Live c else Moves c₀ c) (Via c₀ Live) := by
  refine .bind guides_getData fun d => ?_
  cases d.setContextState with
  | none => exact guides_pure fun c h => goes_of_live true c h
  | some state =>
    refine guides_unlessStopped host ?_
    refine .bind (guides_onData _ fun _ h => h) fun poll => ?_
    exact guides_conseq (guides_afterPoll host poll) (fun _ h => h) goes_of_live fun _ h => h

theorem guides_joinParallel (results : List ParallelBranchResult) :
    Guides (Via c₀ Live) (joinParallel host results) (fun _ => Via c₀ Live) E := by
  refine .bind guides_getData fun d => ?_
  refine .bind (guides_change _) fun _ => ?_
  dsimp only
  cases d.parallelPendingFailure with
  | some message =>
    refine .bind (guides_move (Q := Via c₀ Live) ?_) fun _ => ?_
    · intro c hc
      exact via_move hc.1 (.flags ⟨rfl,rfl,rfl,rfl,rfl,rfl,rfl,rfl,rfl⟩ rfl) hc.2
    · exact .bind (guides_fail host message) fun _ => guides_pure fun _ h => h
  | none =>
    dsimp only
    split
    · exact guides_change _
    · exact .bind (guides_fail host _) fun _ => guides_pure fun _ h => h

theorem guides_resumeParallel :
    Guides (Via c₀ Live) (resumeParallel host) (fun _ => Via c₀ Live) (Via c₀ Live) := by
  refine .bind guides_getData fun d => ?_
  split
  · exact guides_pure fun _ h => h
  · exact guides_raise fun _ h => h
  · refine .bind (guides_onData _ fun _ h => h) fun results => ?_
    cases results with
    | none => exact guides_pure fun _ h => h
    | some results =>
      refine .bind (guides_joinParallel host results) fun _ => ?_
      exact .bind guides_clearActive fun _ => guides_pure fun _ h => h

theorem guides_resumeObservation (t : F64) :
    Guides (Via c₀ Live) (resumeObservation host t) (fun _ => Moves c₀) (Via c₀ Live) := by
  refine .bind guides_getData fun d => ?_
  cases d.adaptiveObserveState with
  | none => exact guides_pure fun _ h => h.1
  | some st =>
    refine .bind (guides_withVars _ fun _ h => h) fun ended => ?_
    cases ended with
    | none => exact guides_pure fun _ h => h.1
    | some trial =>
      refine guides_read fun c hc => ?_
      refine .bind (Q := fun _ => On (Moves c₀)) ?_ fun _ => guides_pure fun _ h => h
      refine guides_conseq (@guides_finalizeAdaptiveTrial _ c₀ c.pending.isSome [] host st.frame
        c.observing st.proposal trial) ?_ (fun _ _ h => h.1) fun _ h => h
      intro c' hc'
      subst hc'
      exact ⟨hc.1,rfl,List.nil_suffix,hc.2,.inl rfl⟩

theorem guides_resumePending (t : F64) :
    Guides (Via c₀ Live) (resumePending host t) (fun _ => Moves c₀) (Via c₀ Live) := by
  refine .bind (guides_resumeSleep host t) fun go => ?_
  cases go with
  | false => exact guides_pure fun _ h => h.1
  | true =>
    refine .bind (guides_resumeWait host t) fun go => ?_
    cases go with
    | false => exact guides_pure fun _ h => h
    | true =>
      refine .bind (guides_resumeSetContext host t) fun go => ?_
      cases go with
      | false => exact guides_pure fun _ h => h
      | true =>
        refine .bind (guides_resumeParallel host) fun go => ?_
        cases go with
        | false => exact guides_pure fun _ h => h.1
        | true =>
          refine .bind (guides_resumeObservation host t) fun go => ?_
          cases go with
          | false => exact guides_pure fun _ h => h
          | true => exact guides_pure fun _ h => h

theorem guides_prepareNextRunLoop (c' : Ctl) (hm : Moves c₀ c')
    (hs : c'.stack = []) (hp : c'.pending = none) (hr : c'.state = .running) :
    Guides (fun c => c = c') (prepareNextRunLoop host) (fun _ => Moves c₀) E := by
  refine guides_read fun c hc => ?_
  subst hc
  cases c.spec with
  | none =>
    refine guides_move fun c' hc' => ?_
    subst hc'
    refine hm.tail (.ended ⟨rfl,rfl,rfl,rfl,rfl,rfl,rfl,rfl,rfl⟩ (finallyOwed_of_no_stack hs) ?_)
    exact fun _ => hs
  | some spec =>
    refine .bind (guides_move (Q := Moves c₀) fun c' hc' => ?_) fun _ => guides_change _
    subst hc'
    exact hm.tail (.restart hs hp hr)

theorem guides_sequenceDone (executed : Nat) :
    Guides (Answer c₀ .none_) (sequenceDone host executed) (fun _ => Moves c₀) E := by
  refine guides_read fun c hc => ?_
  obtain ⟨hm,hempty⟩ := hc
  refine .ite (fun hp => ?_) fun hp => ?_
  · refine .bind (guides_pre (@guides_finishPendingTerminal World c₀ _ host) ?_) fun _ =>
      guides_pure fun _ h => h
    intro c' hc'
    subst hc'
    exact ⟨hm,hp,hempty (.inl hp)⟩
  · refine .ite (fun hr => ?_) fun hr => guides_pure fun c' hc' => hc' ▸ hm
    have hs := hempty (.inr hr)
    have hnone : c.pending = none := by simpa using hp
    refine .bind (guides_move (Q := fun c' => Moves c₀ c' ∧ c'.stack = [] ∧
      c'.pending = none ∧ c'.state = .running) ?_) fun _ => ?_
    · intro c' hc'
      subst hc'
      exact ⟨hm.tail (.flags ⟨rfl,rfl,rfl,rfl,rfl,rfl,rfl,rfl,rfl⟩ rfl),hs,hnone,hr⟩
    · refine guides_read fun c₁ hc₁ => ?_
      obtain ⟨hm₁,hs₁,hp₁,hr₁⟩ := hc₁
      refine .ite (fun _ => ?_) fun _ => ?_
      · exact .bind (guides_prepareNextRunLoop host c₁ hm₁ hs₁ hp₁ hr₁) fun _ =>
          guides_pure fun _ h => h
      · refine .bind (guides_move (Q := Moves c₀) ?_) fun _ => guides_pure fun _ h => h
        intro c' hc'
        subst hc'
        exact hm₁.tail (.ended ⟨rfl,rfl,rfl,rfl,rfl,rfl,rfl,rfl,rfl⟩ (finallyOwed_of_no_stack hs₁)
          fun _ => hs₁)

theorem guides_budgetSpent (executed : Nat) (deadline : F64) {P : Ctl → Prop} :
    Guides P (budgetSpent host executed deadline) (fun _ => P) E := by
  refine .bind guides_isInterruptible fun free => ?_
  refine .ite (fun _ => ?_) fun _ => guides_pure fun _ h => h
  refine .ite (fun _ => guides_pure fun _ h => h) fun _ => ?_
  exact .bind (guides_now host) fun _ => guides_pure fun _ h => h

theorem guides_runStep (deadline : F64) (executed : Nat) (step : Step) :
    Guides (Via c₀ Executing) (runStep host deadline executed step) (fun _ => Moves c₀)
      (Via c₀ Live) := by
  refine .bind (guides_move (Q := Via c₀ Executing) ?_) fun _ => ?_
  · intro c hc
    exact via_move hc.1 (.flags ⟨rfl,rfl,rfl,rfl,rfl,rfl,rfl,rfl,rfl⟩ rfl) hc.2
  refine .bind (guides_executeStep host step) fun blocked => ?_
  refine .ite (fun _ => ?_) fun _ => ?_
  · refine .bind guides_getData fun d => ?_
    refine .bind (guides_move (Q := Moves c₀) ?_) fun _ => guides_pure fun _ h => h
    intro c hc
    split
    · exact hc.1.tail (.flags ⟨rfl,rfl,rfl,rfl,rfl,rfl,rfl,rfl,rfl⟩ rfl)
    · exact hc.1
  · refine .bind guides_clearActive fun _ => ?_
    refine .bind (guides_budgetSpent host _ deadline) fun spent => ?_
    refine .ite (fun _ => ?_) fun _ => ?_
    · exact guides_pure fun _ h => h.1
    · exact guides_pure fun _ h => h.1

theorem guides_tickTurn (deadline : F64) (executed : Nat) :
    Guides (Moves c₀) (tickTurn host deadline executed) (fun _ => Moves c₀) (Via c₀ Live) := by
  refine guides_read fun c hc => ?_
  refine .ite (fun _ => guides_pure fun c' hc' => hc' ▸ hc) fun hr => ?_
  have hrun : c.state = .running := by simpa using hr
  refine guides_pre (P := Via c₀ fun c => c.state = .running) ?_ fun c' hc' => hc' ▸ ⟨hc,hrun⟩
  refine .bind (guides_checkStopPause host fun c' hc' => ⟨hc'.1,.inl (.inr hc'.2)⟩)
    fun stopped => ?_
  cases stopped with
  | true => exact guides_pure fun _ h => by simpa using h
  | false =>
    refine .bind (guides_pre (@guides_nextStep World c₀ host) fun _ h => by simpa using h)
      fun next => ?_
    cases next with
    | notReady => exact guides_pure fun _ h => h
    | none_ => exact guides_sequenceDone host executed
    | step step => exact guides_runStep host deadline executed step

theorem guides_tickLoop : Guides (Moves c₀) (tickLoop host) (fun _ => Moves c₀) (Via c₀ Live) := by
  refine .bind (guides_now host) fun t => ?_
  refine .iterate (I := fun _ => On (Moves c₀)) fun executed => ?_
  refine Triple.post (guides_tickTurn host _ executed) ?_
  intro r s hr
  cases r with
  | inl executed => exact hr
  | inr more => exact hr

theorem guides_tickBody :
    Guides (Via c₀ Live) (tickBody host) (fun _ => Moves c₀) (Via c₀ Live) := by
  refine guides_read fun c hc => ?_
  refine .ite (fun hdone => ?_) fun _ => ?_
  · refine .bind (guides_pre (@guides_finishPendingTerminal World c₀ _ host) ?_) fun _ =>
      guides_pure fun _ h => h
    intro c' hc'
    subst hc'
    simp only [Bool.and_eq_true,List.isEmpty_iff] at hdone
    exact ⟨hc.1,hdone⟩
  · refine guides_pre (P := Via c₀ Live) ?_ fun c' hc' => hc' ▸ hc
    refine .bind (guides_checkStopPause host fun _ h => h) fun stopped => ?_
    cases stopped with
    | true => exact guides_pure fun _ h => by simpa using h
    | false =>
      refine guides_pre (P := Via c₀ Live) ?_ fun _ h => by simpa using h
      refine .bind (guides_now host) fun t => ?_
      refine .bind (guides_resumePending host t) fun go => ?_
      refine .ite (fun _ => guides_tickLoop host) fun _ => ?_
      exact guides_pure fun _ h => h

theorem guides_tickFailed (e : PyExc) :
    Guides (Via c₀ Live) (tickFailed host e) (fun _ => Moves c₀) E := by
  refine .bind (Q := fun handled => On (Via c₀ fun c => handled = false → Unwound c))
    ?_ fun handled => ?_
  · refine guides_read fun c hc => ?_
    refine .ite (fun hp => ?_) fun _ => ?_
    · refine .bind (guides_move (Q := Moves c₀) ?_) fun _ =>
        guides_pure fun _ h => ⟨h,fun hf => nomatch hf⟩
      intro c' hc'
      subst hc'
      exact hc.1.tail (.noteFailure hp)
    · refine guides_conseq (@guides_beginTerminalUnwind World c₀ _ host _ _)
        (fun c' hc' => hc' ▸ hc) ?_ fun _ h => h
      intro begun c' hc'
      refine ⟨hc'.1,fun hb => ?_⟩
      subst hb
      exact hc'.2
  · cases handled with
    | true => exact guides_pure fun _ h => h.1
    | false =>
      refine .bind (guides_move (Q := Moves c₀) ?_) fun _ => guides_pure fun _ h => h
      intro c hc
      exact hc.1.tail (Unwound.ended (hc.2 rfl) ⟨rfl,rfl,rfl,rfl,rfl,rfl,rfl,rfl,rfl⟩)

theorem guides_tick : Guides (Moves c₀) (tick host) (fun _ => Moves c₀) (fun _ => False) := by
  refine guides_read fun c hc => ?_
  refine .ite (fun _ => guides_pure fun c' hc' => hc' ▸ hc) fun hr => ?_
  have hrun : c.state = .running := by simpa using hr
  refine guides_pre (P := Via c₀ Live) ?_ fun c' hc' => hc' ▸ ⟨hc,.inl (.inr hrun)⟩
  exact .tryCatch (guides_tickBody host) fun e => guides_tickFailed host e

theorem resume_move : Move c (if c.state = .paused then
    { c with pauseRequested := false, state := .running } else c) := by
  split
  · exact .other ⟨rfl,rfl,rfl,rfl,rfl,rfl,rfl,rfl,rfl⟩ (.inr rfl)
  · exact .flags ⟨rfl,rfl,rfl,rfl,rfl,rfl,rfl,rfl,rfl⟩ rfl

theorem requestStop_move : Move c (if c.state = .paused then
    { c with stopRequested := true, pauseRequested := false, state := .running }
    else { c with stopRequested := true }) := by
  split
  · exact .other ⟨rfl,rfl,rfl,rfl,rfl,rfl,rfl,rfl,rfl⟩ (.inr rfl)
  · exact .flags ⟨rfl,rfl,rfl,rfl,rfl,rfl,rfl,rfl,rfl⟩ rfl

theorem guides_failRequest (reason : String) :
    Guides (Moves c₀) (Sequencer.fail host reason) (fun _ => Moves c₀) (fun _ => False) := by
  refine guides_read fun c hc => ?_
  refine .bind guides_getData fun d => ?_
  refine .ite (fun _ => guides_pure fun c' hc' => hc' ▸ hc) fun hr => ?_
  have hlive : Live c := by
    simp only [Bool.and_eq_true,decide_eq_true_eq,not_and,ne_eq,not_not] at hr
    by_cases hrun : c.state = .running
    · exact .inl (.inr hrun)
    · exact .inr (.inl (hr hrun))
  refine .bind (guides_move (Q := Via c₀ Live) ?_) fun _ => ?_
  · intro c' hc'
    subst hc'
    exact via_move hc (.flags ⟨rfl,rfl,rfl,rfl,rfl,rfl,rfl,rfl,rfl⟩ rfl) hlive
  refine .ite (fun _ => ?_) fun _ => ?_
  · exact guides_conseq (P := Via c₀ Live) (E := fun _ => False) (guides_change _) (fun _ h => h)
      (fun _ _ h => h.1) fun _ h => h
  · refine .bind (guides_change _) fun _ => ?_
    refine .bind (guides_move (Q := Via c₀ Live) ?_) fun _ => ?_
    · intro c' hc'
      split
      · exact via_move hc'.1 .fault hc'.2
      · exact hc'
    refine .bind (guides_beginTerminalUnwind host _ _) fun begun => ?_
    cases begun with
    | true =>
      simp only [if_true]
      refine guides_move fun c' hc' => ?_
      exact hc'.1.tail (.other ⟨rfl,rfl,rfl,rfl,rfl,rfl,rfl,rfl,rfl⟩ (.inr rfl))
    | false =>
      simp only [Bool.false_eq_true,if_false]
      refine guides_move fun c' hc' => ?_
      exact hc'.1.tail (Unwound.ended hc'.2 ⟨rfl,rfl,rfl,rfl,rfl,rfl,rfl,rfl,rfl⟩)

theorem guides_perform (r : Request) :
    Guides (Moves c₀) (r.perform host) (fun _ => Moves c₀) (fun _ => False) := by
  cases r with
  | tick => exact .bind (guides_tick host) fun _ => guides_pure fun _ h => h
  | pause =>
    show Guides (Moves c₀) requestPause (fun _ => Moves c₀) (fun _ => False)
    exact guides_move fun c hc => hc.tail (.flags ⟨rfl,rfl,rfl,rfl,rfl,rfl,rfl,rfl,rfl⟩ rfl)
  | resume =>
    show Guides (Moves c₀) Sequencer.resume (fun _ => Moves c₀) (fun _ => False)
    exact guides_move fun c hc => hc.tail resume_move
  | stop =>
    show Guides (Moves c₀) requestStop (fun _ => Moves c₀) (fun _ => False)
    exact guides_move fun c hc => hc.tail requestStop_move
  | fail reason => exact guides_failRequest host reason
  | output payload =>
    show Guides (Moves c₀) (recordAnalysisOutput payload) (fun _ => Moves c₀) (fun _ => False)
    exact guides_change _

end

variable {host : Host World} {s s' : RtState World}

theorem Run.moves (h : Run host s s') : Moves s.ctl s'.ctl := by
  induction h with
  | refl => exact .refl
  | @tail t u _ hserve ih =>
    obtain ⟨r,hr⟩ := hserve
    have hperform : Guides (Moves t.ctl) (r.perform host) (fun _ => Moves t.ctl) (Moves t.ctl) :=
      guides_conseq (guides_perform host r) (fun _ h => h) (fun _ _ h => h) fun _ h => False.elim h
    have hmoves : Moves t.ctl u.ctl := Triple.leaves (P := On (Moves t.ctl)) hperform Relation.ReflTransGen.refl hr
    exact ih.trans hmoves

structure Begun (c : Ctl) : Prop where
  stack : ∃ steps, c.stack = [plain steps]
  history : c.history = []
  state : c.state = .running
  pending : c.pending = none
  observing : c.observing = none

theorem start_begun {args : StartArgs} {n : Nat}
    (h : (start host args).run n s = .ok () s') : Begun s'.ctl := by
  have hstart : Guides (fun c => c = s.ctl) (start host args) (fun _ => Begun) (fun _ => True) := by
    refine guides_read fun c _ => ?_
    cases c.spec with
    | none => exact guides_raise fun _ _ => trivial
    | some spec =>
      refine .bind (guides_onData _ fun _ _ => trivial) fun loops => ?_
      refine .bind (guides_onData _ fun _ _ => trivial) fun overrides => ?_
      refine .bind (guides_change _) fun _ => ?_
      refine .bind (guides_move (Q := fun c => c.stack = [plain spec.steps] ∧
        c.history = [] ∧ c.observing = none) fun _ _ => ⟨rfl,rfl,rfl⟩) fun _ => ?_
      refine .bind (guides_onData _ fun _ _ => trivial) fun modes => ?_
      refine .bind (guides_change _) fun _ => guides_move ?_
      intro c hc
      exact ⟨⟨spec.steps,hc.1⟩,hc.2.1,rfl,rfl,hc.2.2⟩
  exact hstart.ok (show On (fun c => c = s.ctl) s from rfl) h

def startThen (host : Host World) (args : StartArgs) (n : Nat) (requests : List Request)
    (s : RtState World) : Option (RtState World) :=
  match (start host args).run n s with
  | .ok () s' => runAll n (requests.map (Request.perform host)) s'
  | _ => none

theorem startThen_run {args : StartArgs} {n : Nat} {requests : List Request}
    (h : startThen host args n requests s = some s') :
    ∃ s₁, (start host args).run n s = .ok () s₁ ∧ Run host s₁ s' := by
  unfold startThen at h
  cases hstart : (start host args).run n s with
  | ok u s₁ =>
    rw [hstart] at h
    refine ⟨s₁,rfl,runAll_chain ?_ h⟩
    intro x hx t t' hleaves
    obtain ⟨r,_,rfl⟩ := List.mem_map.1 hx
    exact ⟨r,hleaves⟩
  | raised e s₁ =>
    rw [hstart] at h
    cases h
  | diverged =>
    rw [hstart] at h
    cases h

def loadedWith (world : World) (steps : List Step) : RtState World :=
  ⟨Ctl.loadSpec ⟨.empty,steps⟩ .empty Ctl.new,Data.new world⟩

end ExperimentControl.Sequencer

import ExperimentControl.Sequencer.History

/-!
The finally guarantee: when a run comes to its end, every try step it entered has had its finally
steps handed out, each once and in order.
-/

namespace ExperimentControl.Sequencer
open Lib Python Ctl List Bool

/-- Every try step entered so far has had its finally steps handed out. -/
def FinallyDone (history : List Event) : Prop :=
  ∀ owner F vars, .tryEntered owner F vars ∈ history → handedSteps owner history = enabled F

def owesFinally : Frame → Bool
  | .steps f => f.runDuringUnwind && !(enabled f.rest).isEmpty
  | .try_ finallySteps finalizing _ => !finalizing && !(enabled finallySteps).isEmpty
  | _ => false

@[simp] theorem finallyOwed_cons (f : Frame) (below : List Frame) :
    finallyOwed (f :: below) = (owesFinally f || finallyOwed below) := by
  cases f <;> rfl

theorem owesFinally_of_isLoop {f : Frame} (h : isLoop f = true) : owesFinally f = false := by
  cases f with
  | steps f => cases h
  | try_ _ _ _ => cases h
  | for_ _ _ _ _ | repeat_ _ _ | while_ _ _ | adaptive _ => rfl

theorem owesFinally_plain (steps : List Step) : owesFinally (plain steps) = false := rfl

section
variable {c c' : Ctl}

structure Accounted (c : Ctl) : Prop where
  fresh : Fresh c
  steps : ∀ owner F vars, .tryEntered owner F vars ∈ c.history → account owner c = enabled F
  kinds : ∀ f ∈ c.stack, ∀ owner F vars, ownerOf f = some owner →
    .tryEntered owner F vars ∈ c.history → kindOf f = .try_ ∨ kindOf f = .cleanup

theorem Ctl.Move.newTry (hm : Move c c') {owner : Nat} {F : List Step} {vars : Env}
    (h : .tryEntered owner F vars ∈ c'.history) : .tryEntered owner F vars ∈ c.history ∨
      ∃ body, owner = c.nextOwner ∧ c' = c.enterTry body F := by
  rcases hm.event_origin h rfl with hold | ⟨_,_,_,_,_,heq⟩ |
    ⟨ho,⟨body,F',hc',heq⟩ | ⟨_,_,_,_,heq⟩⟩
  · exact .inl hold
  · cases heq
  · obtain ⟨_,rfl,_⟩ := Event.tryEntered.inj heq
    exact .inr ⟨body,ho,hc'⟩
  · cases heq

theorem Ctl.Move.kinds (hm : Move c c') (h : Accounted c) :
    ∀ f ∈ c'.stack, ∀ owner F vars, ownerOf f = some owner →
      .tryEntered owner F vars ∈ c'.history → kindOf f = .try_ ∨ kindOf f = .cleanup := by
  intro f hf owner F vars ho hmem
  rcases hm.frame_origin hf ho with ⟨g,hg,hgo,hkind⟩ | ⟨rfl,⟨_,_,_,hkind⟩ | ⟨frame,below,hc',_⟩⟩
  · have hold : .tryEntered owner F vars ∈ c.history := by
      rcases hm.newTry hmem with hold | ⟨_,rfl,_⟩
      · exact hold
      · exact absurd (h.fresh.frames g hg _ hgo) (Nat.lt_irrefl _)
    rcases hkind with heq | ⟨_,hcleanup⟩
    · rw [← heq]
      exact h.kinds g hg owner F vars hgo hold
    · exact .inr hcleanup
  · exact .inl hkind
  · -- a body that is entered takes the next number, which no try step has
    subst hc'
    rcases mem_append.1 hmem with hold | hnew
    · exact absurd (h.fresh.events _ hold _ rfl) (Nat.lt_irrefl _)
    · cases mem_singleton.1 hnew

theorem Accounted.cleanup (h : Accounted c) {f : StepsFrame} (hf : .steps f ∈ c.stack)
    {owner : Nat} (ho : f.owner = some owner) {F : List Step} {vars : Env}
    (hmem : .tryEntered owner F vars ∈ c.history) : f.runDuringUnwind = true := by
  have hkind := h.kinds _ hf owner F vars ho hmem
  cases hrun : f.runDuringUnwind with
  | true => rfl
  | false =>
    simp only [kindOf,hrun] at hkind
    split at hkind
    · cases ‹_ = true›
    · split at hkind <;> simp at hkind

theorem Ctl.Move.accounted (hm : Move c c') (h : Accounted c) : Accounted c' := by
  refine ⟨hm.fresh h.fresh,?_,hm.kinds h⟩
  intro owner F vars hmem
  rcases hm.newTry hmem with hold | ⟨body,rfl,rfl⟩
  · rcases hm.account_eq (h.fresh.events _ hold owner rfl) with heq | ⟨f,below,hs,howner,_,hnone,_⟩
    · rw [heq]
      exact h.steps owner F vars hold
    · -- the frame the unwind throws away is no cleanup body, so its steps are not finally steps
      have htop : Frame.steps f ∈ c.stack := by simp [hs]
      have hrun := h.cleanup htop howner hold
      have := any_eq_false.1 hnone _ htop
      simp [isUnwindBody,hrun] at this
  · refine h.fresh.account_new rfl rfl ?_
    simp [Ctl.enterTry,owedBy,plain]

theorem Accounted.done (h : Accounted c) (ho : finallyOwed c.stack = false) :
    FinallyDone c.history := by
  intro owner F vars hmem
  have howed : owed owner c.stack = [] := by
    refine flatMap_eq_nil_iff.2 fun f hf => ?_
    have hfalse := any_eq_false.1 ho f hf
    cases f with
    | steps f =>
      by_cases howner : f.owner = some owner
      · have hrun := h.cleanup hf howner hmem
        simpa [owedBy,howner,hrun] using hfalse
      · simp [owedBy,howner]
    | try_ F' finalizing o =>
      cases finalizing with
      | true => simp [owedBy]
      | false =>
        have : enabled F' = [] := by simpa using hfalse
        simp [owedBy,this]
    | for_ _ _ _ _ | repeat_ _ _ | while_ _ _ | adaptive _ => rfl
  have hsteps := h.steps owner F vars hmem
  rwa [account,howed,append_nil] at hsteps

theorem FinallyDone.quiet {history events : List Event} (h : FinallyDone history)
    (he : ∀ e ∈ events, e.owner = none) : FinallyDone (history ++ events) := by
  intro owner F vars hmem
  rw [handedSteps_append,handedSteps_quiet he,append_nil]
  rcases mem_append.1 hmem with hold | hnew
  · exact h owner F vars hold
  · cases he _ hnew

/-- Nothing is owed in a terminal state, and nothing was owed when one was entered. -/
structure Settled (c : Ctl) : Prop where
  accounted : Accounted c
  still : c.state.terminal = true →
    finallyOwed c.stack = false ∧ (c.pending.isSome = true → c.stack = [])
  ends : ∀ history, history ++ [.terminal] <+: c.history → FinallyDone history

theorem Settled.executing (h : Settled c) (hc : c.Executing) : c.state.terminal = false := by
  by_contra hterm
  have hterm' : c.state.terminal = true := by simpa using hterm
  obtain ⟨hon,hbody⟩ := hc
  rcases hon with hrun | hpend
  · simp [hrun,RunState.terminal] at hterm'
  · have hempty := (h.still hterm').2 hpend
    have := hbody hpend
    simp [hempty,hasUnwindBody] at this

theorem Settled.not_pending (h : Settled c) (hterm : c.state.terminal = true) {f : Frame}
    {below : List Frame} (hs : c.stack = f :: below) : c.pending.isSome = false := by
  cases hpend : c.pending.isSome with
  | false => rfl
  | true =>
    have hempty := (h.still hterm).2 hpend
    rw [hs] at hempty
    cases hempty

theorem Settled.still_frames (h : Settled c) {f : Frame} {below : List Frame}
    (hs : c.stack = f :: below) (hr : c'.state = c.state) (hp : c'.pending = c.pending)
    (ho : finallyOwed c.stack = false → finallyOwed c'.stack = false) : c'.state.terminal = true →
      finallyOwed c'.stack = false ∧ (c'.pending.isSome = true → c'.stack = []) := by
  intro hterm
  rw [hr] at hterm
  refine ⟨ho (h.still hterm).1,fun hpend => ?_⟩
  rw [hp,h.not_pending hterm hs] at hpend
  cases hpend

theorem abort_clean {message : String} (h : .trialAborted true ∉ (c.abortTrial message).history) :
    c.pending.isSome = false ∧ finallyOwed c.stack = false := by
  rw [abortTrial_history] at h
  cases hp : c.pending.isSome with
  | true => simp [abortEvents,hp] at h
  | false =>
    cases ho : finallyOwed c.stack with
    | true => simp [abortEvents,hp,ho] at h
    | false => exact ⟨rfl,rfl⟩

theorem Ctl.Move.still (hm : Move c c') (h : Settled c) (hok : .trialAborted true ∉ c'.history) :
    c'.state.terminal = true →
      finallyOwed c'.stack = false ∧ (c'.pending.isSome = true → c'.stack = []) := by
  have hsame : ∀ {c' : Ctl}, c'.stack = c.stack → c'.state = c.state →
      c'.pending.isSome = c.pending.isSome → c'.state.terminal = true →
      finallyOwed c'.stack = false ∧ (c'.pending.isSome = true → c'.stack = []) := by
    intro c' hs hr hp hterm
    rw [hr] at hterm
    rw [hs,hp]
    exact h.still hterm
  have hnot : ∀ {c' : Ctl}, c.Executing → c'.state = c.state → c'.state.terminal = true →
      finallyOwed c'.stack = false ∧ (c'.pending.isSome = true → c'.stack = []) := by
    intro c' hc hr hterm
    rw [hr,h.executing hc] at hterm
    cases hterm
  cases hm with
  | drop hs hf =>
    refine h.still_frames hs rfl rfl fun ho => ?_
    rw [hs,finallyOwed_cons,or_eq_false_iff] at ho
    exact ho.2
  | @leave f below hs hf =>
    refine h.still_frames hs (leaveFrame_state f below c) (leaveFrame_pending f below c) fun ho => ?_
    rw [hs,finallyOwed_cons,or_eq_false_iff] at ho
    rw [leaveFrame_stack]
    exact ho.2
  | @take f step rest below hs hf hc =>
    refine h.still_frames hs (takeStep_state f step rest below c)
      (takeStep_pending f step rest below c) fun ho => ?_
    rw [hs,finallyOwed_cons,or_eq_false_iff] at ho
    rw [takeStep_stack,finallyOwed_cons,ho.2,Bool.or_false]
    have htop := ho.1
    cases hrun : f.runDuringUnwind with
    | false => simp [owesFinally]
    | true =>
      simp only [owesFinally,hrun,hf,enabled_cons] at htop
      cases hd : step.disabled with
      | true => simpa [owesFinally,hd] using htop
      | false => simp [hd] at htop
  | advance hs hf hf' =>
    refine h.still_frames hs rfl rfl fun ho => ?_
    rw [hs,finallyOwed_cons,or_eq_false_iff] at ho
    simp [owesFinally_of_isLoop hf',ho.2]
  | turn hs hf hf' =>
    refine h.still_frames hs rfl rfl fun ho => ?_
    rw [hs,finallyOwed_cons,or_eq_false_iff] at ho
    simp [Ctl.turn,owesFinally_of_isLoop hf',ho.2,owesFinally_plain]
  | @finalize F owner below hs =>
    refine h.still_frames hs (finalize_state F owner below c) (finalize_pending F owner below c)
      fun ho => ?_
    rw [hs,finallyOwed_cons,or_eq_false_iff] at ho
    rcases finalize_stack F owner below c with ⟨hstack,_⟩ | hstack
    · simp [hstack,owesFinally,ho.2]
    · have hF : enabled F = [] := by simpa [owesFinally] using ho.1
      simp [hstack,owesFinally,ho.2,hF]
  | pushLoop hc hf => exact hnot hc rfl
  | pushPlain hc | pushAdaptive hc hf | enterTry hc | enterAtomic hc | enterUse hc hn =>
    exact hnot hc rfl
  | setProposal hs =>
    refine h.still_frames hs rfl rfl fun ho => ?_
    rw [hs,finallyOwed_cons] at ho
    simpa [Ctl.setProposal,owesFinally] using ho
  | enterBody hs hc =>
    refine h.still_frames hs rfl rfl fun ho => ?_
    rw [hs,finallyOwed_cons] at ho
    simpa [Ctl.enterBody,owesFinally] using ho
  | observe hs => exact hsame rfl rfl rfl
  | @endTrial frame owner ok ho =>
    rcases endedStack_cases frame c.stack with heq | ⟨live,frame',below,hs,_,heq⟩
    · exact hsame heq rfl rfl
    · refine h.still_frames hs rfl rfl fun ho => ?_
      rw [hs,finallyOwed_cons] at ho
      simpa [Ctl.endTrial,heq,owesFinally] using ho
  | abortTrial =>
    intro _
    have hclean := abort_clean hok
    rw [abortTrial_stack,abortTrial_pending]
    exact ⟨hclean.2,fun hp => by simp [hclean.1] at hp⟩
  | beginUnwind hp hs =>
    intro hterm
    rcases hs with hr | hr
    · simp [Ctl.beginUnwind,hr,RunState.terminal] at hterm
    · simp [Ctl.beginUnwind,hr,RunState.terminal] at hterm
  | noteFailure hp => exact hsame rfl rfl (by simp [Ctl.noteCleanupFailure])
  | fault => exact hsame rfl rfl rfl
  | finishPending hp hs =>
    intro _
    rw [finishPending_stack,hs]
    exact ⟨rfl,fun _ => rfl⟩
  | ended hframes ho hp =>
    intro _
    rw [hframes.stack,hframes.pending]
    exact ⟨ho,hp⟩
  | restart hs hp hr =>
    intro hterm
    simp [Ctl.restart,hr,RunState.terminal] at hterm
  | other hframes hs =>
    rcases hs with hr | hr
    · exact hsame hframes.stack hr (by rw [hframes.pending])
    · intro hterm
      rw [hr] at hterm
      cases hterm

theorem Ctl.Move.ends (hm : Move c c') (h : Settled c) (hok : .trialAborted true ∉ c'.history) :
    ∀ history, history ++ [.terminal] <+: c'.history → FinallyDone history := by
  intro history hpre
  obtain ⟨events,hh,hevents⟩ := hm.events
  rw [hh] at hpre
  rcases prefix_append_cases hpre with hold | ⟨before,after,hnew,rfl⟩
  · exact h.ends history hold
  · -- the run ends here: nothing is owed, and the events before the end have no owner
    have hclean : finallyOwed c.stack = false ∧ ∀ e ∈ events, e.owner = none := by
      rcases hevents with hnone | ⟨owner,ok,_,heq⟩ | ⟨ho,heq⟩ | ⟨message,rfl,heq⟩
      · have := hnone .terminal (by simp [hnew])
        cases this
      · have hmem : .terminal ∈ owner.toList.map fun o => Event.trialEnded o ok := by
          rw [← heq,hnew]
          simp
        obtain ⟨_,_,hcontra⟩ := mem_map.1 hmem
        cases hcontra
      · exact ⟨ho,by simp [heq,Event.owner]⟩
      · rw [heq]
        exact ⟨(abort_clean hok).2,abortEvents_owner c⟩
    exact (h.accounted.done hclean.1).quiet fun e hmem => hclean.2 e (by simp [hnew,hmem])

theorem Ctl.Move.settled (hm : Move c c') (hok : .trialAborted true ∉ c'.history)
    (h : Settled c) : Settled c' :=
  ⟨hm.accounted h.accounted,hm.still h hok,hm.ends h hok⟩

end

section
variable {World : Type}

theorem Begun.settled {c : Ctl} (h : Begun c) : Settled c := by
  have hhistory := h.history
  have hstate := h.state
  refine ⟨⟨h.fresh,?_,?_⟩,?_,?_⟩
  · intro owner F vars hmem
    rw [hhistory] at hmem
    cases hmem
  · intro f hf owner F vars ho hmem
    rw [hhistory] at hmem
    cases hmem
  · intro hterm
    simp [hstate,RunState.terminal] at hterm
  · intro history hpre
    rw [hhistory,prefix_nil] at hpre
    simp at hpre

/-- In every run in which no failed trial ends the run over the head of an unwind or of
finally steps still owed: whenever a terminal state is entered, every try step entered
before has had each enabled finally step handed out once, in order. -/
theorem finally_steps_executed (host : Host World) (args : StartArgs) (n : Nat)
    (s₀ s₁ s : RtState World) (hstart : (start host args).run n s₀ = .ok () s₁)
    (hrun : Run host s₁ s) (hclean : .trialAborted true ∉ s.ctl.history) :
    (∀ history, history ++ [.terminal] <+: s.ctl.history → FinallyDone history) ∧
      (s.ctl.state.terminal = true → FinallyDone s.ctl.history) := by
  have hsettled := hrun.moves.keepUntil Ctl.Move.settled hclean (start_begun hstart).settled
  exact ⟨hsettled.ends,fun hterm => hsettled.accounted.done (hsettled.still hterm).1⟩

end

def switch (action : String) : Step := .call ⟨"hv",action,[],none,none,none,none⟩ false

def noAbort (history : List Event) : Bool :=
  history.all fun
    | .trialAborted true => false
    | _ => true

theorem not_mem_of_noAbort {history : List Event} (h : noAbort history = true) :
    .trialAborted true ∉ history := by
  intro hmem
  have := all_eq_true.1 h _ hmem
  cases this

theorem switched_off_at_the_end : ∃ s₁ s,
    (start Host.quiet {}).run 30 (loadedWith () [.try_ [switch "on"] [switch "off"] false,
      .try_ [.use "" none false] [switch "off"] false]) = .ok () s₁ ∧
    Run Host.quiet s₁ s ∧ s.ctl.state = .error ∧ (handedSteps 0 s.ctl.history).length = 1 ∧
    (handedSteps 1 s.ctl.history).length = 1 ∧ FinallyDone s.ctl.history := by
  have hrun : ((startThen Host.quiet {} 30 [.tick,.tick] (loadedWith ()
      [.try_ [switch "on"] [switch "off"] false,
        .try_ [.use "" none false] [switch "off"] false])).map fun s =>
      (s.ctl.state,(handedSteps 0 s.ctl.history).length,(handedSteps 1 s.ctl.history).length,
        noAbort s.ctl.history)) = some (.error,1,1,true) := by decide +kernel
  obtain ⟨s,hs,hfields⟩ := Option.map_eq_some_iff.1 hrun
  simp only [Prod.mk.injEq] at hfields
  obtain ⟨hstate,hfirst,hsecond,hclean⟩ := hfields
  obtain ⟨s₁,hstart,hmoves⟩ := startThen_run hs
  refine ⟨s₁,s,hstart,hmoves,hstate,hfirst,hsecond,?_⟩
  refine (finally_steps_executed Host.quiet {} 30 _ s₁ s hstart hmoves
    (not_mem_of_noAbort hclean)).2 ?_
  rw [hstate]
  rfl

def suggestingHost : Host Unit :=
  { Host.quiet with
    suggest := fun _ w => (.ok (.dict false [("params_raw",.dict false [("x",.int 1)])]),w) }

def tuneSpec : AdaptiveSpec where
  id := "tune"
  controller := [("kind",.str "adaptive.adaptive_grid_1d")]
  space := [("x",.dict false [("type",.str "int"),("min",.int 0),("max",.int 9)])]
  bind := [("x","x")]
  observe := [("metrics",.dict false [("signal",.dict false [("kind",.str "telemetry"),
    ("config",.dict false [("device",.str "adc"),("signal",.str "v")])])])]
  stopping := some [("max_trials",.int 1)]

theorem failed_trial_skips_finally : ¬ ∀ s₁ s,
    (start suggestingHost {}).run 30 (loadedWith () [.try_ [.adaptive
      { tuneSpec with failOnTrialError := true } [switch "on"] false] [switch "off"] false]) =
        .ok () s₁ →
    Run suggestingHost s₁ s → s.ctl.state.terminal = true → FinallyDone s.ctl.history := by
  intro h
  have hrun : ((startThen suggestingHost {} 30 [.tick] (loadedWith () [.try_ [.adaptive
      { tuneSpec with failOnTrialError := true } [switch "on"] false] [switch "off"] false])).map
      fun s => (s.ctl.state,handedSteps 0 s.ctl.history |>.isEmpty,s.ctl.history.any fun
        | .tryEntered 0 F _ => !(enabled F).isEmpty
        | _ => false)) = some (.error,true,true) := by decide +kernel
  obtain ⟨s,hs,hfields⟩ := Option.map_eq_some_iff.1 hrun
  simp only [Prod.mk.injEq,List.isEmpty_iff] at hfields
  obtain ⟨hstate,hnone,hentered⟩ := hfields
  obtain ⟨s₁,hstart,hmoves⟩ := startThen_run hs
  have hdone := h s₁ s hstart hmoves (by rw [hstate]; rfl)
  obtain ⟨e,hmem,he⟩ := List.any_eq_true.1 hentered
  split at he
  · rename_i F vars
    have hF := hdone 0 F vars hmem
    rw [hnone] at hF
    simp [← hF] at he
  · cases he

end ExperimentControl.Sequencer

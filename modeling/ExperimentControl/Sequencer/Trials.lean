import ExperimentControl.Sequencer.Finally
import ExperimentControl.Sequencer.Ticking

/-!
Adaptive trials and the bodies they stand for.
-/

namespace ExperimentControl.Sequencer
open Lib Python Ctl List Option Prog

def Cut (owner : Nat) (history : List Event) : Prop :=
  ∃ cut, .interrupted cut ∈ history ∧ owner ∈ cut

def BodyRan (owner : Nat) (history : List Event) : Prop :=
  ∃ body, .proposed owner body ∈ history ∧ handedSteps owner history = enabled body

variable {owner : Nat}

theorem Cut.mono {history history' : List Event} (h : Cut owner history)
    (hh : history <+: history') : Cut owner history' := by
  obtain ⟨cut,hmem,ho⟩ := h
  exact ⟨cut,hh.subset hmem,ho⟩

def Spent (history : List Event) : List Frame → Prop
  | [] => True
  | f :: below =>
    (∀ g owner, f = .steps g → bodyOwner f = some owner → hasUnwindBody (f :: below) = false →
      enabled g.rest = [] ∨ Cut owner history) ∧ Spent history below

def TrialsOn (history : List Event) : List Frame → Prop
  | [] => True
  | f :: below =>
    (∀ frame owner, f = .adaptive frame → frame.trial = some owner →
      (∃ body, .proposed owner body ∈ history) ∧ ∀ g ∈ below, ownerOf g ≠ some owner) ∧
    TrialsOn history below

structure Tracked (c : Ctl) : Prop where
  fresh : Fresh c
  kinds : ∀ f ∈ c.stack, ∀ owner body, ownerOf f = some owner →
    .proposed owner body ∈ c.history → kindOf f = .body
  steps : ∀ owner body, .proposed owner body ∈ c.history →
    account owner c = enabled body ∨ Cut owner c.history
  spent : c.pending.isSome = true → Spent c.history c.stack
  trials : TrialsOn c.history c.stack
  observing : ∀ owner, c.observing = some owner →
    (∃ body, .proposed owner body ∈ c.history) ∧ ∀ g ∈ c.stack, ownerOf g ≠ some owner
  ended : ∀ history owner, history ++ [.trialEnded owner true] <+: c.history →
    BodyRan owner history ∨ Cut owner history

section
variable {c c' : Ctl}

theorem Spent.grow {history history' : List Event} {stack : List Frame} (h : Spent history stack)
    (hh : history <+: history') : Spent history' stack := by
  induction stack with
  | nil => trivial
  | cons f below ih =>
    refine ⟨?_,ih h.2⟩
    intro g owner hf ho hnone
    exact (h.1 g owner hf ho hnone).imp_right fun hcut => hcut.mono hh

variable {f : Frame} {history : List Event} {below : List Frame}

theorem Spent.other
    (h : Spent history below) (hf : bodyOwner f = none) : Spent history (f :: below) := by
  refine ⟨?_,h⟩
  intro g owner _ ho
  rw [hf] at ho
  cases ho

theorem Spent.above (h : Spent history below) (hf : hasUnwindBody (f :: below) = true) :
    Spent history (f :: below) := by
  refine ⟨?_,h⟩
  intro g owner _ _ hnone
  rw [hf] at hnone
  cases hnone

theorem bodyOwner_of_isLoop (h : isLoop f = true) : bodyOwner f = none := by
  cases f with
  | steps f => cases h
  | try_ _ _ _ => cases h
  | for_ _ _ _ _ | repeat_ _ _ | while_ _ _ | adaptive _ => rfl

theorem spent_of_cutBodies (c : Ctl) : Spent (c.history ++ [.interrupted c.cutBodies]) c.stack := by
  have hcut : ∀ owner, owner ∈ c.cutBodies →
      Cut owner (c.history ++ [.interrupted c.cutBodies]) := by
    intro owner ho
    exact ⟨c.cutBodies,by simp,ho⟩
  have hbelow : ∀ stack : List Frame,
      (∀ f ∈ stack, ∀ owner, bodyOwner f = some owner → owner ∈ c.cutBodies) →
      Spent (c.history ++ [.interrupted c.cutBodies]) stack := by
    intro stack h
    induction stack with
    | nil => trivial
    | cons f below ih =>
      refine ⟨?_,ih fun g hg => h g (mem_cons_of_mem _ hg)⟩
      intro g owner _ ho _
      exact .inr (hcut owner (h f mem_cons_self owner ho))
  cases hs : c.stack with
  | nil => trivial
  | cons top below =>
    refine ⟨?_,hbelow below ?_⟩
    · intro g owner hg ho _
      subst hg
      by_cases hdone : (c.activeStep.isNone && (enabled g.rest).isEmpty) = true
      · simp only [Bool.and_eq_true,List.isEmpty_iff] at hdone
        exact .inl hdone.2
      · refine .inr (hcut owner ?_)
        simp only [cutBodies,hs,hdone]
        simp [ho]
    · intro f hf owner ho
      simp only [cutBodies,hs,mem_append,mem_filterMap]
      exact .inr ⟨f,hf,ho⟩

theorem Ctl.Move.spent (hm : Move c c') (h : c.pending.isSome = true → Spent c.history c.stack) :
    c'.pending.isSome = true → Spent c'.history c'.stack := by
  intro hp
  have htail : ∀ {f : Frame} {below : List Frame}, c.stack = f :: below →
      c.pending.isSome = true → Spent c.history below := by
    intro f below hs hp
    have := h hp
    rw [hs] at this
    exact this.2
  cases hm with
  | drop hs hf => exact htail hs hp
  | leave hs hf =>
    rw [leaveFrame_pending] at hp
    rw [leaveFrame_history,leaveFrame_stack]
    exact htail hs hp
  | @take f step rest below hs hf hc =>
    rw [takeStep_pending] at hp
    have hbody := hc hp
    rw [hs] at hbody
    rw [takeStep_stack]
    exact ((htail hs hp).grow (by rw [takeStep_history]; exact prefix_append _ _)).above hbody
  | advance hs hf hf' => exact (htail hs hp).other (bodyOwner_of_isLoop hf')
  | turn hs hf hf' => exact ((htail hs hp).other (bodyOwner_of_isLoop hf')).other rfl
  | @finalize F owner below hs =>
    rw [finalize_pending] at hp
    rw [finalize_history]
    have hdone : Spent c.history (.try_ F true owner :: below) := (htail hs hp).other rfl
    rcases finalize_stack F owner below c with ⟨hstack,_⟩ | hstack
    · rw [hstack]
      exact hdone
    · rw [hstack]
      exact hdone.other rfl
  | pushLoop hc hf => exact (h hp).other (bodyOwner_of_isLoop hf)
  | pushPlain hc | pushAdaptive hc hf | enterAtomic hc | enterUse hc hn => exact (h hp).other rfl
  | enterTry hc =>
    exact (((h hp).grow (prefix_append _ _)).other rfl).other rfl
  | setProposal hs => exact (htail hs hp).other rfl
  | @enterBody frame below hs hc =>
    have hbody := hc hp
    rw [hs] at hbody
    refine Spent.above ?_ hbody
    exact ((htail hs hp).grow (prefix_append _ _)).other rfl
  | observe hs => exact h hp
  | @endTrial frame owner ok ho =>
    refine Spent.grow ?_ (prefix_append _ _)
    rcases endedStack_cases frame c.stack with heq | ⟨live,frame',below,hs,_,heq⟩
    · rw [show (c.endTrial frame owner ok).stack = c.stack from heq]
      exact h hp
    · rw [show (c.endTrial frame owner ok).stack = .adaptive frame' :: below from heq]
      exact (htail hs hp).other rfl
  | abortTrial =>
    rw [abortTrial_pending] at hp
    rw [abortTrial_stack,abortTrial_history]
    exact (h hp).grow (prefix_append _ _)
  | beginUnwind hp' hs => exact spent_of_cutBodies c
  | noteFailure hp' => exact (h hp').grow (prefix_append _ _)
  | fault => exact (h hp).grow (prefix_append _ _)
  | finishPending hp' hs =>
    rw [finishPending_stack,hs]
    trivial
  | ended hsame ho hp' =>
    rw [hsame.pending] at hp
    rw [hsame.stack,hsame.history]
    exact (h hp).grow (prefix_append _ _)
  | restart hs hp' hr => cases hp
  | other hsame hs =>
    rw [hsame.pending] at hp
    rw [hsame.stack,hsame.history]
    exact h hp

theorem TrialsOn.grow {history history' : List Event} {stack : List Frame}
    (h : TrialsOn history stack) (hh : history <+: history') : TrialsOn history' stack := by
  induction stack with
  | nil => trivial
  | cons f below ih =>
    refine ⟨?_,ih h.2⟩
    intro frame owner hf ho
    obtain ⟨⟨body,hmem⟩,hbelow⟩ := h.1 frame owner hf ho
    exact ⟨⟨body,hh.subset hmem⟩,hbelow⟩

theorem TrialsOn.other
    (h : TrialsOn history below) (hf : ∀ frame, f = .adaptive frame → frame.trial = none) :
    TrialsOn history (f :: below) := by
  refine ⟨?_,h⟩
  intro frame owner heq ho
  rw [hf frame heq] at ho
  cases ho

theorem TrialsOn.replace {frame frame' : AdaptiveFrame}
    (h : TrialsOn history (.adaptive frame :: below))
    (ht : frame'.trial = frame.trial) : TrialsOn history (.adaptive frame' :: below) := by
  refine ⟨?_,h.2⟩
  intro g owner heq ho
  cases heq
  exact h.1 frame owner rfl (ht.symm.trans ho)

theorem not_adaptive_of_isLoop (h : isLoop f = true) :
    ∀ frame, f = .adaptive frame → frame.trial = none := by
  intro frame heq
  rw [heq] at h
  cases h

theorem Ctl.Move.trials (hm : Move c c') (hf : Fresh c) (h : TrialsOn c.history c.stack) :
    TrialsOn c'.history c'.stack := by
  have htail : ∀ {f : Frame} {below : List Frame}, c.stack = f :: below →
      TrialsOn c.history below := by
    intro f below hs
    rw [hs] at h
    exact h.2
  cases hm with
  | drop hs hspent => exact htail hs
  | leave hs hleave =>
    rw [leaveFrame_history,leaveFrame_stack]
    exact htail hs
  | take hs hrest hc =>
    rw [takeStep_stack,takeStep_history]
    exact ((htail hs).grow (prefix_append _ _)).other fun _ heq => nomatch heq
  | advance hs hloop hloop' => exact (htail hs).other (not_adaptive_of_isLoop hloop')
  | turn hs hloop hloop' =>
    exact ((htail hs).other (not_adaptive_of_isLoop hloop')).other fun _ heq => nomatch heq
  | @finalize F owner below hs =>
    rw [finalize_history]
    have hdone : TrialsOn c.history (.try_ F true owner :: below) :=
      (htail hs).other fun _ heq => nomatch heq
    rcases finalize_stack F owner below c with ⟨hstack,_⟩ | hstack
    · rw [hstack]
      exact hdone
    · rw [hstack]
      exact hdone.other fun _ heq => nomatch heq
  | pushLoop hc hloop => exact h.other (not_adaptive_of_isLoop hloop)
  | pushPlain hc => exact h.other fun _ heq => nomatch heq
  | enterAtomic hc => exact h.other fun _ heq => nomatch heq
  | enterUse hc hn => exact h.other fun _ heq => nomatch heq
  | pushAdaptive hc htrial =>
    refine h.other fun frame heq => ?_
    cases heq
    exact htrial
  | @enterTry body F hc =>
    have hgrown := h.grow (prefix_append c.history [.tryEntered c.nextOwner F c.vars])
    have htry : TrialsOn _ (.try_ F false c.nextOwner :: c.stack) :=
      hgrown.other fun _ heq => nomatch heq
    exact htry.other fun _ heq => nomatch heq
  | setProposal hs =>
    rw [hs] at h
    exact h.replace rfl
  | @enterBody frame below hs hc =>
    refine TrialsOn.other ⟨?_,(htail hs).grow (prefix_append _ _)⟩ fun _ heq => nomatch heq
    intro g owner heq ho
    cases heq
    cases ho
    refine ⟨⟨frame.body,by simp [Ctl.enterBody]⟩,?_⟩
    intro g hg hgo
    exact Nat.lt_irrefl _ (hf.frames g (by simp [hs,hg]) _ hgo)
  | observe hs => exact h
  | @endTrial frame owner ok hend =>
    refine TrialsOn.grow ?_ (prefix_append _ _)
    rcases endedStack_cases frame c.stack with heq | ⟨live,frame',below,hs,htrial,heq⟩
    · rw [show (c.endTrial frame owner ok).stack = c.stack from heq]
      exact h
    · rw [show (c.endTrial frame owner ok).stack = .adaptive frame' :: below from heq]
      rw [hs] at h
      exact h.replace htrial
  | abortTrial =>
    rw [abortTrial_stack,abortTrial_history]
    exact h.grow (prefix_append _ _)
  | beginUnwind hp hs | noteFailure hp | fault => exact h.grow (prefix_append _ _)
  | finishPending hp hs =>
    rw [finishPending_stack,hs]
    trivial
  | ended hsame howed hp =>
    rw [hsame.stack,hsame.history]
    exact h.grow (prefix_append _ _)
  | @restart steps hs hp hr =>
    show TrialsOn c.history [plain steps]
    exact TrialsOn.other trivial fun _ heq => nomatch heq
  | other hsame hs =>
    rw [hsame.stack,hsame.history]
    exact h

theorem Ctl.Move.newProposal (hm : Move c c') {owner : Nat} {body : List Step}
    (h : .proposed owner body ∈ c'.history) :
    .proposed owner body ∈ c.history ∨ ∃ frame below, owner = c.nextOwner ∧
      c.stack = .adaptive frame :: below ∧ c' = c.enterBody frame below ∧ body = frame.body := by
  rcases hm.event_origin h rfl with hold | ⟨_,_,_,_,_,heq⟩ |
    ⟨ho,⟨_,_,_,heq⟩ | ⟨frame,below,hs,hc',heq⟩⟩
  · exact .inl hold
  · cases heq
  · cases heq
  · obtain ⟨_,rfl⟩ := Event.proposed.inj heq
    exact .inr ⟨frame,below,ho,hs,hc',rfl⟩

theorem Tracked.kinds_move (h : Tracked c) (hm : Move c c') :
    ∀ f ∈ c'.stack, ∀ owner body, ownerOf f = some owner →
      .proposed owner body ∈ c'.history → kindOf f = .body := by
  intro f hf owner body ho hmem
  rcases hm.frame_origin hf ho with ⟨g,hg,hgo,hkind⟩ | ⟨rfl,⟨b,F,hc',_⟩ | ⟨_,_,_,hkind⟩⟩
  · have hbody : kindOf g = .body := by
      rcases hm.newProposal hmem with hold | ⟨_,_,rfl,_⟩
      · exact h.kinds g hg owner body hgo hold
      · exact absurd (h.fresh.frames g hg _ hgo) (Nat.lt_irrefl _)
    rcases hkind with heq | ⟨htry,_⟩
    · rw [← heq]
      exact hbody
    · rw [hbody] at htry
      cases htry
  · -- a try step that is entered takes the next number, which no proposal has
    subst hc'
    rcases mem_append.1 hmem with hold | hnew
    · exact absurd (h.fresh.events _ hold _ rfl) (Nat.lt_irrefl _)
    · cases mem_singleton.1 hnew
  · exact hkind

theorem bodyOwner_of_kindOf {f : StepsFrame} (h : kindOf (.steps f) = .body) :
    bodyOwner (.steps f) = f.owner := by
  cases hrun : f.runDuringUnwind with
  | true => simp [kindOf,hrun] at h
  | false =>
    simp only [kindOf,hrun,Bool.false_eq_true,if_false] at h
    split at h
    · rename_i hexit
      simp [bodyOwner,hexit]
    · cases h

theorem Tracked.steps_move (h : Tracked c) (hm : Move c c') :
    ∀ owner body, .proposed owner body ∈ c'.history →
      account owner c' = enabled body ∨ Cut owner c'.history := by
  intro owner body hmem
  rcases hm.newProposal hmem with hold | ⟨frame,below,rfl,hs,rfl,rfl⟩
  · have hprev := h.steps owner body hold
    rcases hm.account_eq (h.fresh.events _ hold owner rfl) with heq |
      ⟨f,below,hs,howner,hp,hnone,rfl⟩
    · rw [heq]
      exact hprev.imp_right fun hcut => hcut.mono hm.history
    · -- the unwind throws the body away: it had no step left, or it was cut
      have hkind := h.kinds (.steps f) (by simp [hs]) owner body howner hold
      have hspent := h.spent hp
      rw [hs] at hspent hnone
      rcases hspent.1 f owner rfl ((bodyOwner_of_kindOf hkind).trans howner) hnone with hrest | hcut
      · refine hprev.imp (fun hacc => ?_) fun hcut => hcut.mono hm.history
        rw [← hacc]
        refine account_frames ?_ (leaveFrame_history f below c)
        simp [hs,owedBy,hrest]
      · exact .inr (hcut.mono hm.history)
  · refine .inl (h.fresh.account_new rfl rfl ?_)
    simp [Ctl.enterBody,hs,owedBy]

theorem Tracked.observing_move (h : Tracked c) (hm : Move c c') :
    ∀ owner, c'.observing = some owner →
      (∃ body, .proposed owner body ∈ c'.history) ∧ ∀ g ∈ c'.stack, ownerOf g ≠ some owner := by
  have hkept : ∀ owner, c.observing = some owner →
      (∃ body, .proposed owner body ∈ c'.history) ∧ ∀ g ∈ c'.stack, ownerOf g ≠ some owner := by
    intro owner ho
    obtain ⟨⟨body,hmem⟩,hnone⟩ := h.observing owner ho
    exact ⟨⟨body,hm.history.subset hmem⟩,hm.no_frame (h.fresh.events _ hmem owner rfl) hnone⟩
  intro owner ho
  cases hm with
  | @observe frame below hs =>
    have htrials := h.trials
    rw [hs] at htrials
    obtain ⟨hproposed,hbelow⟩ := htrials.1 frame owner rfl ho
    refine ⟨hproposed,?_⟩
    intro g hg hgo
    have hg' : g ∈ .adaptive frame :: below := hs ▸ hg
    rcases mem_cons.1 hg' with rfl | hg'
    · cases hgo
    · exact hbelow g hg' hgo
  | leave hs hleave =>
    refine hkept owner ?_
    unfold Ctl.leaveFrame Ctl.runExit at ho
    split at ho <;> exact ho
  | take hs hrest hc =>
    refine hkept owner ?_
    unfold Ctl.takeStep at ho
    dsimp only at ho
    split at ho
    · split at ho <;> exact ho
    · exact ho
  | finalize hs =>
    refine hkept owner ?_
    unfold Ctl.finalize at ho
    dsimp only at ho
    split at ho <;> exact ho
  | abortTrial =>
    refine hkept owner ?_
    unfold Ctl.abortTrial at ho
    split at ho <;> exact ho
  | finishPending hp hs =>
    refine hkept owner ?_
    unfold Ctl.finishPending at ho
    split at ho <;> exact ho
  | ended hsame howed hp =>
    rw [hsame.observing] at ho
    exact hkept owner ho
  | other hsame hs =>
    rw [hsame.observing] at ho
    exact hkept owner ho
  | drop _ _ | advance _ _ _ | turn _ _ _ | pushLoop _ _ | pushPlain _ | pushAdaptive _ _
  | enterTry _ | enterAtomic _ | enterUse _ _ | setProposal _ | enterBody _ _ | endTrial _
  | beginUnwind _ _ | noteFailure _ | fault | restart _ _ _ => exact hkept owner ho

theorem Tracked.ends (h : Tracked c) {owner : Nat} (hend : some owner = c.observing ∨
      ∃ live below, c.stack = .adaptive live :: below ∧ some owner = live.trial) :
    BodyRan owner c.history ∨ Cut owner c.history := by
  have hgone : (∃ body, .proposed owner body ∈ c.history) ∧
      ∀ g ∈ c.stack, ownerOf g ≠ some owner := by
    rcases hend with hobs | ⟨live,below,hs,htrial⟩
    · exact h.observing owner hobs.symm
    · have htrials := h.trials
      rw [hs] at htrials
      obtain ⟨hproposed,hbelow⟩ := htrials.1 live owner rfl htrial.symm
      refine ⟨hproposed,?_⟩
      intro g hg
      rw [hs] at hg
      rcases mem_cons.1 hg with rfl | hg
      · exact fun ho => nomatch ho
      · exact hbelow g hg
  obtain ⟨⟨body,hmem⟩,hnone⟩ := hgone
  refine (h.steps owner body hmem).imp_left fun hacc => ⟨body,hmem,?_⟩
  have howed : owed owner c.stack = [] :=
    flatMap_eq_nil_iff.2 fun f hf => owedBy_of_ownerOf (hnone f hf)
  rwa [account,howed,append_nil] at hacc

theorem Tracked.ended_move (h : Tracked c) (hm : Move c c') :
    ∀ history owner, history ++ [.trialEnded owner true] <+: c'.history →
      BodyRan owner history ∨ Cut owner history := by
  intro history owner hpre
  obtain ⟨events,hh,hevents⟩ := hm.events
  rw [hh] at hpre
  rcases prefix_append_cases hpre with hold | ⟨before,after,hnew,rfl⟩
  · exact h.ended history owner hold
  · have hmem : .trialEnded owner true ∈ events := by simp [hnew]
    rcases hevents with hnone | ⟨trial,ok,hend,heq⟩ | ⟨_,heq⟩ | ⟨message,_,heq⟩
    · cases hnone _ hmem
    · cases trial with
      | none => simp [heq] at hmem
      | some o =>
        rw [heq] at hnew hmem
        obtain ⟨rfl,_⟩ : owner = o ∧ true = ok := by simpa using hmem
        -- nothing else is written down, so the history is the one the trial ended in
        obtain rfl : before = [] := by
          cases before with
          | nil => rfl
          | cons e before => simp at hnew
        rw [append_nil]
        exact h.ends hend
    · simp [heq] at hmem
    · simp only [heq,abortEvents,mem_append,mem_cons,reduceCtorEq,false_or,not_mem_nil] at hmem
      split at hmem <;> simp at hmem

theorem Ctl.Move.tracked (hm : Move c c') (h : Tracked c) : Tracked c' where
  fresh := hm.fresh h.fresh
  kinds := h.kinds_move hm
  steps := h.steps_move hm
  spent := hm.spent h.spent
  trials := hm.trials h.fresh h.trials
  observing := h.observing_move hm
  ended := h.ended_move hm

theorem Begun.tracked (h : Begun c) : Tracked c := by
  have hhistory := h.history
  obtain ⟨steps,hstack⟩ := h.stack
  refine ⟨h.fresh,?_,?_,?_,?_,?_,?_⟩
  · intro f hf owner body ho hmem
    rw [hhistory] at hmem
    cases hmem
  · intro owner body hmem
    rw [hhistory] at hmem
    cases hmem
  · intro hp
    rw [h.pending] at hp
    cases hp
  · rw [hstack]
    exact TrialsOn.other trivial fun _ heq => nomatch heq
  · intro owner ho
    rw [h.observing] at ho
    cases ho
  · intro history owner hpre
    rw [hhistory,prefix_nil] at hpre
    simp at hpre

end

variable {World : Type}

end ExperimentControl.Sequencer

import ExperimentControl.Sequencer.Run

/-!
The history of a run: it only grows, and the numbers it gives to try steps and
proposals are never used twice.
-/

namespace ExperimentControl.Sequencer
open Lib Python Ctl List

def ownerOf : Frame → Option Nat
  | .steps f => f.owner
  | .try_ _ _ owner => some owner
  | _ => none

def Event.owner : Event → Option Nat
  | .tryEntered owner _ _ | .proposed owner _ | .handed owner _ _ => some owner
  | _ => none

def handedSteps (owner : Nat) (history : List Event) : List Step :=
  history.filterMap fun
    | .handed o step _ => if o = owner then some step else none
    | _ => none

theorem ownerOf_of_isLoop {f : Frame} (h : isLoop f = true) : ownerOf f = none := by
  cases f with
  | steps f => cases h
  | try_ _ _ _ => cases h
  | for_ _ _ _ _ | repeat_ _ _ | while_ _ _ | adaptive _ => rfl

@[simp] theorem ownerOf_plain (steps : List Step) : ownerOf (plain steps) = none := rfl

variable {c c' : Ctl}

variable (f : StepsFrame)

@[simp] theorem leaveFrame_history (below : List Frame) (c : Ctl) :
    (c.leaveFrame f below).history = c.history := by
  unfold Ctl.leaveFrame Ctl.runExit
  split <;> rfl

@[simp] theorem leaveFrame_nextOwner (below : List Frame) (c : Ctl) :
    (c.leaveFrame f below).nextOwner = c.nextOwner := by
  unfold Ctl.leaveFrame Ctl.runExit
  split <;> rfl

def takeEvents (f : StepsFrame) (step : Step) (vars : Env) : List Event :=
  match f.owner with
  | some owner => if step.disabled then [] else [.handed owner step vars]
  | none => []

theorem takeStep_history (step : Step) (rest : List Step) (below : List Frame) (c : Ctl) :
    (c.takeStep f step rest below).history = c.history ++ takeEvents f step c.vars := by
  unfold Ctl.takeStep takeEvents
  cases f.owner with
  | none => simp
  | some owner =>
    dsimp only
    split
    · simp
    · rfl

@[simp] theorem takeStep_nextOwner (step : Step) (rest : List Step)
    (below : List Frame) (c : Ctl) : (c.takeStep f step rest below).nextOwner = c.nextOwner := by
  unfold Ctl.takeStep
  dsimp only
  split
  · split <;> rfl
  · rfl

variable (F : List Step)

@[simp] theorem finalize_history (owner : Nat) (below : List Frame) (c : Ctl) :
    (c.finalize F owner below).history = c.history := by
  unfold Ctl.finalize
  dsimp only
  split <;> rfl

@[simp] theorem finalize_nextOwner (owner : Nat) (below : List Frame) (c : Ctl) :
    (c.finalize F owner below).nextOwner = c.nextOwner := by
  unfold Ctl.finalize
  dsimp only
  split <;> rfl

theorem finalize_stack (owner : Nat) (below : List Frame) (c : Ctl) :
    (c.finalize F owner below).stack = .try_ F true owner :: below ∧ F = [] ∨
    (c.finalize F owner below).stack =
      .steps { rest := F, runDuringUnwind := true, owner := some owner } ::
        .try_ F true owner :: below := by
  cases F with
  | nil => exact .inl ⟨rfl,rfl⟩
  | cons step rest => exact .inr rfl

variable {f : Frame}

theorem mem_endedStack {frame : AdaptiveFrame} {stack : List Frame}
    (h : f ∈ endedStack frame stack) : f ∈ stack ∨ ∃ frame', f = .adaptive frame' := by
  rcases endedStack_cases frame stack with heq | ⟨live,frame',below,rfl,_,heq⟩
  · rw [heq] at h
    exact .inl h
  · rw [heq] at h
    rcases mem_cons.1 h with rfl | h
    · exact .inr ⟨frame',rfl⟩
    · exact .inl (mem_cons_of_mem _ h)

variable {e : Event}

theorem endEvents_owner {trial : Option Nat} {ok : Bool}
    (he : e ∈ trial.toList.map fun owner => Event.trialEnded owner ok) : e.owner = none := by
  obtain ⟨owner,_,rfl⟩ := mem_map.1 he
  rfl

theorem finishPending_history (c : Ctl) : c.finishPending.history = c.history ++ [.terminal] := by
  unfold Ctl.finishPending
  split <;> rfl

@[simp] theorem finishPending_stack (c : Ctl) : c.finishPending.stack = c.stack := by
  unfold Ctl.finishPending
  split <;> rfl

@[simp] theorem finishPending_nextOwner (c : Ctl) : c.finishPending.nextOwner = c.nextOwner := by
  unfold Ctl.finishPending
  split <;> rfl

def abortEvents (c : Ctl) : List Event :=
  [.trialAborted (c.pending.isSome || finallyOwed c.stack),.terminal] ++
    if c.pending.isSome then [.interrupted c.cutBodies] else []

theorem abortTrial_history (message : String) (c : Ctl) :
    (c.abortTrial message).history = c.history ++ abortEvents c := by
  unfold Ctl.abortTrial abortEvents
  cases c.pending with
  | none => simp
  | some p => simp [Ctl.log,cutBodies]

theorem abortEvents_owner (c : Ctl) : ∀ e ∈ abortEvents c, e.owner = none := by
  intro e he
  simp only [abortEvents,mem_append,mem_cons] at he
  rcases he with (rfl | rfl | he) | he
  · rfl
  · rfl
  · cases he
  · split at he
    · simp only [mem_singleton] at he
      subst he
      rfl
    · cases he

@[simp] theorem abortTrial_nextOwner (message : String) (c : Ctl) :
    (c.abortTrial message).nextOwner = c.nextOwner := by
  unfold Ctl.abortTrial
  split <;> rfl

theorem mem_takeEvents {f : StepsFrame} {step : Step} {vars : Env}
    (h : e ∈ takeEvents f step vars) : ∃ owner, f.owner = some owner ∧ e = .handed owner step vars := by
  unfold takeEvents at h
  cases howner : f.owner with
  | none => simp [howner] at h
  | some owner =>
    rw [howner] at h
    dsimp only at h
    split at h
    · cases h
    · exact ⟨owner,rfl,mem_singleton.1 h⟩

variable {owner : Nat}

theorem Ctl.Move.event_origin (hm : Move c c') (he : e ∈ c'.history) (ho : e.owner = some owner) :
    e ∈ c.history ∨ (∃ f below step, c.stack = .steps f :: below ∧ f.owner = some owner ∧
      e = .handed owner step c.vars) ∨ owner = c.nextOwner ∧
      ((∃ body F, c' = c.enterTry body F ∧ e = .tryEntered owner F c.vars) ∨
        ∃ frame below, c.stack = .adaptive frame :: below ∧ c' = c.enterBody frame below ∧
          e = .proposed owner frame.body) := by
  have hquiet : ∀ {events : List Event}, (∀ e ∈ events, e.owner = none) →
      e ∈ c.history ++ events → e ∈ c.history := by
    intro events hnone hmem
    rcases mem_append.1 hmem with hold | hnew
    · exact hold
    · rw [hnone e hnew] at ho
      cases ho
  cases hm with
  | leave hs hf =>
    rw [leaveFrame_history] at he
    exact .inl he
  | @take f step rest below hs hf hc =>
    rw [takeStep_history] at he
    rcases mem_append.1 he with hold | hnew
    · exact .inl hold
    · obtain ⟨o,howner,rfl⟩ := mem_takeEvents hnew
      cases ho
      exact .inr (.inl ⟨f,below,step,hs,howner,rfl⟩)
  | finalize hs =>
    rw [finalize_history] at he
    exact .inl he
  | @enterTry body F hc =>
    rcases mem_append.1 he with hold | hnew
    · exact .inl hold
    · obtain rfl := mem_singleton.1 hnew
      cases ho
      exact .inr (.inr ⟨rfl,.inl ⟨body,F,rfl,rfl⟩⟩)
  | @enterBody frame below hs hc =>
    rcases mem_append.1 he with hold | hnew
    · exact .inl hold
    · obtain rfl := mem_singleton.1 hnew
      cases ho
      exact .inr (.inr ⟨rfl,.inr ⟨frame,below,hs,rfl,rfl⟩⟩)
  | endTrial hend => exact .inl (hquiet (fun _ => endEvents_owner) he)
  | abortTrial =>
    rw [abortTrial_history] at he
    exact .inl (hquiet (abortEvents_owner c) he)
  | beginUnwind hp hs | noteFailure hp | fault =>
    exact .inl (hquiet (by simp [Event.owner]) he)
  | finishPending hp hs =>
    rw [finishPending_history] at he
    exact .inl (hquiet (by simp [Event.owner]) he)
  | ended hsame hnone hp =>
    rw [hsame.history] at he
    exact .inl (hquiet (by simp [Event.owner]) he)
  | other hsame hs =>
    rw [hsame.history] at he
    exact .inl he
  | drop _ _ | advance _ _ _ | turn _ _ _ | pushLoop _ _ | pushPlain _ | pushAdaptive _ _
  | enterAtomic _ | enterUse _ _ | setProposal _ | observe _ | restart _ _ _ => exact .inl he

def Event.isEnd : Event → Bool
  | .trialEnded _ _ | .terminal => true
  | _ => false

theorem Ctl.Move.events (hm : Move c c') : ∃ events, c'.history = c.history ++ events ∧
    ((∀ e ∈ events, e.isEnd = false) ∨
      (∃ owner ok, Ends owner c ∧ events = owner.toList.map fun o => .trialEnded o ok) ∨
      (finallyOwed c.stack = false ∧ events = [.terminal]) ∨
      ∃ message, c' = c.abortTrial message ∧ events = abortEvents c) := by
  cases hm with
  | leave hs hf => exact ⟨[],by simp,.inl (by simp)⟩
  | take hs hf hc =>
    refine ⟨_,takeStep_history _ _ _ _ c,.inl fun e he => ?_⟩
    obtain ⟨_,_,rfl⟩ := mem_takeEvents he
    rfl
  | finalize hs => exact ⟨[],by simp,.inl (by simp)⟩
  | enterTry hc | enterBody hs hc | beginUnwind hp hs | noteFailure hp | fault =>
    exact ⟨_,rfl,.inl (by simp [Event.isEnd])⟩
  | @endTrial frame owner ok ho => exact ⟨_,rfl,.inr (.inl ⟨owner,ok,ho,rfl⟩)⟩
  | @abortTrial message =>
    exact ⟨_,abortTrial_history message c,.inr (.inr (.inr ⟨message,rfl,rfl⟩))⟩
  | finishPending hp hs =>
    exact ⟨_,finishPending_history c,.inr (.inr (.inl ⟨finallyOwed_of_no_stack hs,rfl⟩))⟩
  | ended hsame ho hp => exact ⟨_,hsame.history,.inr (.inr (.inl ⟨ho,rfl⟩))⟩
  | other hsame hs => exact ⟨[],by simp [hsame.history],.inl (by simp)⟩
  | drop _ _ | advance _ _ _ | turn _ _ _ | pushLoop _ _ | pushPlain _ | pushAdaptive _ _
  | enterAtomic _ | enterUse _ _ | setProposal _ | observe _ | restart _ _ _ =>
    exact ⟨[],(append_nil _).symm,.inl (by simp)⟩

theorem Ctl.Move.history (h : Move c c') : c.history <+: c'.history := by
  obtain ⟨events,hh,_⟩ := h.events
  rw [hh]
  exact prefix_append _ _

theorem Ctl.Moves.history (h : Moves c c') : c.history <+: c'.history := by
  induction h with
  | refl => exact prefix_refl _
  | tail _ hm ih => exact ih.trans hm.history

theorem Ctl.Moves.keepUntil {I : Ctl → Prop}
    (hI : ∀ {c c'}, Move c c' → e ∉ c'.history → I c → I c') (h : Moves c c')
    (he : e ∉ c'.history) (hc : I c) : I c' := by
  induction h with
  | refl => exact hc
  | tail _ hm ih => exact hI hm he (ih fun hmem => he (hm.history.subset hmem))

theorem prefix_append_cases {history past events : List Event}
    (h : past ++ [e] <+: history ++ events) : past ++ [e] <+: history ∨
      ∃ before after, events = before ++ e :: after ∧ past = history ++ before := by
  obtain ⟨rest,hrest⟩ := h
  rw [append_assoc,append_eq_append_iff] at hrest
  rcases hrest with ⟨gap,hpast,hgap⟩ | ⟨gap,hpast,hgap⟩
  · cases gap with
    | nil =>
      refine .inr ⟨[],rest,by simpa using hgap.symm,?_⟩
      rw [append_nil] at hpast
      rw [append_nil]
      exact hpast.symm
    | cons e' gap =>
      refine .inl ⟨gap,?_⟩
      simp only [cons_append,List.cons.injEq] at hgap
      rw [hpast,← hgap.1,append_assoc]
      rfl
  · exact .inr ⟨gap,rest,hgap,hpast⟩

inductive FrameKind where
  | cleanup | body | try_ | other
  deriving DecidableEq

def kindOf : Frame → FrameKind
  | .steps f =>
    if f.runDuringUnwind then .cleanup
    else match f.onExit with
      | some .adaptiveBody => .body
      | _ => .other
  | .try_ _ _ _ => .try_
  | _ => .other

theorem Ctl.Move.frame_origin (hm : Move c c') (hf : f ∈ c'.stack) (ho : ownerOf f = some owner) :
    (∃ g ∈ c.stack, ownerOf g = some owner ∧
      (kindOf g = kindOf f ∨ kindOf g = .try_ ∧ kindOf f = .cleanup)) ∨ owner = c.nextOwner ∧
      ((∃ body F, c' = c.enterTry body F ∧ kindOf f = .try_) ∨
        ∃ frame below, c' = c.enterBody frame below ∧ kindOf f = .body) := by
  have hold : ∀ {g : Frame}, g ∈ c.stack → g = f → (∃ g ∈ c.stack, ownerOf g = some owner ∧
      (kindOf g = kindOf f ∨ kindOf g = .try_ ∧ kindOf f = .cleanup)) := by
    intro g hg heq
    subst heq
    exact ⟨g,hg,ho,.inl rfl⟩
  have hnone : ∀ {g : Frame}, ownerOf g = none → f ≠ g := by
    intro g hg heq
    rw [heq,hg] at ho
    cases ho
  cases hm with
  | drop hs hspent => exact .inl (hold (by simp [hs,hf]) rfl)
  | leave hs hleave =>
    rw [leaveFrame_stack] at hf
    exact .inl (hold (by simp [hs,hf]) rfl)
  | @take g step rest below hs hrest hc =>
    rw [takeStep_stack] at hf
    rcases mem_cons.1 hf with rfl | hf
    · exact .inl ⟨.steps g,by simp [hs],ho,.inl rfl⟩
    · exact .inl (hold (by simp [hs,hf]) rfl)
  | advance hs hloop hloop' =>
    rcases mem_cons.1 hf with heq | hf
    · exact absurd heq (hnone (ownerOf_of_isLoop hloop'))
    · exact .inl (hold (by simp [hs,hf]) rfl)
  | turn hs hloop hloop' =>
    rcases mem_cons.1 hf with heq | hf
    · exact absurd heq (hnone rfl)
    · rcases mem_cons.1 hf with heq | hf
      · exact absurd heq (hnone (ownerOf_of_isLoop hloop'))
      · exact .inl (hold (by simp [hs,hf]) rfl)
  | @finalize F o below hs =>
    have htop : Frame.try_ F false o ∈ c.stack := by simp [hs]
    have hdone : f ∈ Frame.try_ F true o :: below → ∃ g ∈ c.stack, ownerOf g = some owner ∧
        (kindOf g = kindOf f ∨ kindOf g = .try_ ∧ kindOf f = .cleanup) := by
      intro hf
      rcases mem_cons.1 hf with rfl | hf
      · exact ⟨_,htop,ho,.inl rfl⟩
      · exact hold (by simp [hs,hf]) rfl
    rcases finalize_stack F o below c with ⟨hstack,_⟩ | hstack
    · rw [hstack] at hf
      exact .inl (hdone hf)
    · rw [hstack] at hf
      rcases mem_cons.1 hf with rfl | hf
      · exact .inl ⟨_,htop,ho,.inr ⟨rfl,rfl⟩⟩
      · exact .inl (hdone hf)
  | pushLoop hc hloop =>
    rcases mem_cons.1 hf with heq | hf
    · exact absurd heq (hnone (ownerOf_of_isLoop hloop))
    · exact .inl (hold hf rfl)
  | pushPlain hc | pushAdaptive hc htrial | enterAtomic hc | enterUse hc hn =>
    rcases mem_cons.1 hf with heq | hf
    · exact absurd heq (hnone rfl)
    · exact .inl (hold hf rfl)
  | @enterTry body F hc =>
    rcases mem_cons.1 hf with heq | hf
    · exact absurd heq (hnone rfl)
    · rcases mem_cons.1 hf with rfl | hf
      · cases ho
        exact .inr ⟨rfl,.inl ⟨body,F,rfl,rfl⟩⟩
      · exact .inl (hold hf rfl)
  | setProposal hs =>
    rcases mem_cons.1 hf with heq | hf
    · exact absurd heq (hnone rfl)
    · exact .inl (hold (by simp [hs,hf]) rfl)
  | @enterBody frame below hs hc =>
    rcases mem_cons.1 hf with rfl | hf
    · cases ho
      exact .inr ⟨rfl,.inr ⟨frame,below,rfl,rfl⟩⟩
    · rcases mem_cons.1 hf with heq | hf
      · exact absurd heq (hnone rfl)
      · exact .inl (hold (by simp [hs,hf]) rfl)
  | observe hs => exact .inl (hold hf rfl)
  | endTrial hend =>
    rcases mem_endedStack hf with hmem | ⟨frame',heq⟩
    · exact .inl (hold hmem rfl)
    · exact absurd heq (hnone rfl)
  | abortTrial =>
    rw [abortTrial_stack] at hf
    exact .inl (hold hf rfl)
  | beginUnwind hp hs | noteFailure hp | fault => exact .inl (hold hf rfl)
  | finishPending hp hs =>
    rw [finishPending_stack] at hf
    exact .inl (hold hf rfl)
  | ended hsame howed hp =>
    rw [hsame.stack] at hf
    exact .inl (hold hf rfl)
  | restart hs hp hr => exact absurd (mem_singleton.1 hf) (hnone rfl)
  | other hsame hs =>
    rw [hsame.stack] at hf
    exact .inl (hold hf rfl)

theorem Ctl.Move.nextOwner_le (hm : Move c c') : c.nextOwner ≤ c'.nextOwner := by
  cases hm with
  | enterTry _ | enterBody _ _ => exact Nat.le_succ _
  | leave _ _ => exact Nat.le_of_eq (leaveFrame_nextOwner _ _ c).symm
  | take _ _ _ => exact Nat.le_of_eq (takeStep_nextOwner _ _ _ _ c).symm
  | finalize _ => exact Nat.le_of_eq (finalize_nextOwner _ _ _ c).symm
  | abortTrial => exact Nat.le_of_eq (abortTrial_nextOwner _ c).symm
  | finishPending _ _ => exact Nat.le_of_eq (finishPending_nextOwner c).symm
  | ended h _ _ => exact Nat.le_of_eq h.nextOwner.symm
  | other h _ => exact Nat.le_of_eq h.nextOwner.symm
  | drop _ _ | advance _ _ _ | turn _ _ _ | pushLoop _ _ | pushPlain _ | pushAdaptive _ _
  | enterAtomic _ | enterUse _ _ | setProposal _ | observe _ | endTrial _ | beginUnwind _ _
  | noteFailure _ | fault | restart _ _ _ => exact Nat.le_refl _

structure Fresh (c : Ctl) : Prop where
  frames : ∀ f ∈ c.stack, ∀ owner, ownerOf f = some owner → owner < c.nextOwner
  events : ∀ e ∈ c.history, ∀ owner, e.owner = some owner → owner < c.nextOwner

theorem Ctl.Move.fresh (hm : Move c c') (h : Fresh c) : Fresh c' := by
  have hle := hm.nextOwner_le
  refine ⟨?_,?_⟩
  · intro f hf owner ho
    rcases hm.frame_origin hf ho with ⟨g,hg,hgo,_⟩ | ⟨rfl,⟨body,F,rfl,_⟩ | ⟨frame,below,rfl,_⟩⟩
    · exact Nat.lt_of_lt_of_le (h.frames g hg owner hgo) hle
    · exact Nat.lt_succ_self _
    · exact Nat.lt_succ_self _
  · intro e he owner ho
    rcases hm.event_origin he ho with hold | ⟨f,below,step,hs,howner,_⟩ |
      ⟨rfl,⟨body,F,rfl,_⟩ | ⟨frame,below,_,rfl,_⟩⟩
    · exact Nat.lt_of_lt_of_le (h.events e hold owner ho) hle
    · exact Nat.lt_of_lt_of_le (h.frames (.steps f) (by simp [hs]) owner howner) hle
    · exact Nat.lt_succ_self _
    · exact Nat.lt_succ_self _

theorem Begun.fresh (h : Begun c) : Fresh c := by
  obtain ⟨⟨steps,hstack⟩,hhistory,_,_,_⟩ := h
  refine ⟨?_,?_⟩
  · intro f hf owner ho
    rw [hstack,mem_singleton] at hf
    subst hf
    cases ho
  · intro e he
    rw [hhistory] at he
    cases he

theorem Ctl.Move.no_frame (hm : Move c c') (hlt : owner < c.nextOwner)
    (h : ∀ g ∈ c.stack, ownerOf g ≠ some owner) : ∀ g ∈ c'.stack, ownerOf g ≠ some owner := by
  intro g hg ho
  rcases hm.frame_origin hg ho with ⟨f,hf,hfo,_⟩ | ⟨rfl,_⟩
  · exact h f hf hfo
  · exact Nat.lt_irrefl _ hlt

def owedBy (owner : Nat) : Frame → List Step
  | .steps f => if f.owner = some owner then enabled f.rest else []
  | .try_ F finalizing o => if o = owner ∧ finalizing = false then enabled F else []
  | _ => []

def owed (owner : Nat) (stack : List Frame) : List Step := stack.flatMap (owedBy owner)

@[simp] theorem owed_cons (owner : Nat) (f : Frame) (below : List Frame) :
    owed owner (f :: below) = owedBy owner f ++ owed owner below := rfl

theorem owedBy_of_ownerOf (h : ownerOf f ≠ some owner) : owedBy owner f = [] := by
  cases f with
  | steps f => simpa [owedBy,ownerOf] using fun he => absurd he h
  | try_ F finalizing o =>
    have hne : o ≠ owner := fun he => h (by rw [he]; rfl)
    simp [owedBy,hne]
  | for_ _ _ _ _ | repeat_ _ _ | while_ _ _ | adaptive _ => rfl

theorem owedBy_unowned (h : ownerOf f = none) : owedBy owner f = [] :=
  owedBy_of_ownerOf (by rw [h]; simp)

theorem owedBy_of_isSpent (h : isSpent f = true) : owedBy owner f = [] := by
  cases f with
  | steps f => cases h
  | try_ F finalizing o =>
    have hfin : finalizing = true := h
    simp [owedBy,hfin]
  | for_ _ _ _ _ | repeat_ _ _ | while_ _ _ | adaptive _ => rfl

def account (owner : Nat) (c : Ctl) : List Step :=
  handedSteps owner c.history ++ owed owner c.stack

theorem handedSteps_append (owner : Nat) (history events : List Event) :
    handedSteps owner (history ++ events) =
      handedSteps owner history ++ handedSteps owner events := filterMap_append

variable {events : List Event}

theorem handedSteps_eq_nil
    (h : ∀ e ∈ events, e.owner ≠ some owner) : handedSteps owner events = [] := by
  refine filterMap_eq_nil_iff.2 fun e he => ?_
  have hne := h e he
  cases e with
  | handed o step vars =>
    have : o ≠ owner := fun ho => hne (by rw [ho]; rfl)
    simp [this]
  | tryEntered _ _ _ | proposed _ _ | interrupted _ | trialEnded _ _ | trialAborted _ | terminal =>
    rfl

theorem handedSteps_quiet (h : ∀ e ∈ events, e.owner = none) : handedSteps owner events = [] :=
  handedSteps_eq_nil fun e he => by rw [h e he]; simp

theorem account_quiet (hs : owed owner c'.stack = owed owner c.stack)
    (hh : c'.history = c.history ++ events) (he : ∀ e ∈ events, e.owner = none) :
    account owner c' = account owner c := by
  rw [account,account,hh,handedSteps_append,handedSteps_quiet he,hs,append_nil]

theorem account_frames (hs : owed owner c'.stack = owed owner c.stack)
    (hh : c'.history = c.history) : account owner c' = account owner c := by
  rw [account,account,hh,hs]

theorem account_takeStep {f : StepsFrame} {step : Step} {rest : List Step}
    {below : List Frame} (hs : c.stack = .steps f :: below) (hf : f.rest = step :: rest) :
    account owner (c.takeStep f step rest below) = account owner c := by
  rw [account,account,takeStep_history,takeStep_stack,hs,handedSteps_append,owed_cons,owed_cons]
  unfold takeEvents owedBy
  cases howner : f.owner with
  | none => simp [handedSteps,howner]
  | some o =>
    dsimp only
    by_cases ho : o = owner
    · subst ho
      rw [hf]
      cases hd : step.disabled with
      | true => simp [handedSteps,enabled_cons,hd,howner]
      | false => simp [handedSteps,enabled_cons,hd,howner]
    · cases hd : step.disabled with
      | true => simp [handedSteps,ho,howner]
      | false => simp [handedSteps,ho,howner]

theorem owed_finalize (owner : Nat) (F : List Step) (o : Nat) (below : List Frame) (c : Ctl) :
    owed owner (c.finalize F o below).stack = owed owner (.try_ F false o :: below) := by
  rcases finalize_stack F o below c with ⟨h,hF⟩ | h
  · rw [h,hF]
    by_cases ho : o = owner <;> simp [owedBy,ho,enabled]
  · rw [h]
    by_cases ho : o = owner <;> simp [owedBy,ho]

theorem Ctl.Move.account_eq (hm : Move c c') (ho : owner < c.nextOwner) :
    account owner c' = account owner c ∨
    ∃ f below, c.stack = .steps f :: below ∧ f.owner = some owner ∧ c.pending.isSome = true ∧
      hasUnwindBody c.stack = false ∧ c' = c.leaveFrame f below := by
  cases hm with
  | drop hs hf => exact .inl (account_frames (by simp [hs,owedBy_of_isSpent hf]) rfl)
  | @leave f below hs hf =>
    by_cases howner : f.owner = some owner
    · rcases hf with hrest | hunwind
      · refine .inl (account_frames ?_ (leaveFrame_history f below c))
        simp [hs,owedBy,hrest,enabled]
      · exact .inr ⟨f,below,hs,howner,hunwind.1,hunwind.2,rfl⟩
    · refine .inl (account_frames ?_ (leaveFrame_history f below c))
      simp [hs,owedBy,howner]
  | take hs hf hc => exact .inl (account_takeStep hs hf)
  | advance hs hf hf' =>
    refine .inl (account_frames ?_ rfl)
    simp [hs,owedBy_unowned (ownerOf_of_isLoop hf),owedBy_unowned (ownerOf_of_isLoop hf')]
  | turn hs hf hf' =>
    refine .inl (account_frames ?_ rfl)
    simp [Ctl.turn,hs,owedBy_unowned (ownerOf_of_isLoop hf),
      owedBy_unowned (ownerOf_of_isLoop hf'),owedBy_unowned (ownerOf_plain _)]
  | @finalize F o below hs =>
    refine .inl (account_frames ?_ (finalize_history F o below c))
    rw [owed_finalize,hs]
  | pushLoop hc hf =>
    refine .inl (account_frames ?_ rfl)
    simp [Ctl.push,owedBy_unowned (ownerOf_of_isLoop hf)]
  | pushPlain hc | pushAdaptive hc hf | enterAtomic hc | enterUse hc hn =>
    exact .inl (account_frames rfl rfl)
  | @enterTry body F hc =>
    have hne : c.nextOwner ≠ owner := by omega
    refine .inl ?_
    simp [account,Ctl.enterTry,handedSteps,owedBy,plain,hne]
  | setProposal hs =>
    refine .inl (account_frames ?_ rfl)
    rw [hs]
    rfl
  | @enterBody frame below hs hc =>
    have hne : c.nextOwner ≠ owner := by omega
    refine .inl ?_
    simp [account,Ctl.enterBody,handedSteps,owedBy,hne,hs]
  | observe hs => exact .inl (account_frames rfl rfl)
  | @endTrial frame trial ok htrial =>
    refine .inl (account_quiet ?_ rfl fun e he => endEvents_owner he)
    rcases endedStack_cases frame c.stack with heq | ⟨live,frame',below,hs,_,heq⟩
    · simp only [Ctl.endTrial,heq]
    · simp only [Ctl.endTrial,hs]
      rfl
  | abortTrial =>
    refine .inl (account_quiet ?_ (abortTrial_history _ c) (abortEvents_owner c))
    rw [abortTrial_stack]
  | beginUnwind hp hs | noteFailure hp | fault =>
    exact .inl (account_quiet rfl rfl (by simp [Event.owner]))
  | finishPending hp hs =>
    refine .inl (account_quiet ?_ (finishPending_history c) (by simp [Event.owner]))
    rw [finishPending_stack]
  | ended hsame ho hp =>
    refine .inl (account_quiet ?_ hsame.history (by simp [Event.owner]))
    rw [hsame.stack]
    rfl
  | restart hs hp hr =>
    refine .inl (account_frames ?_ rfl)
    rw [hs]
    rfl
  | other hsame hs =>
    refine .inl (account_frames ?_ hsame.history)
    rw [hsame.stack]

theorem Fresh.account_new (h : Fresh c) {steps : List Step}
    (hh : c'.history = c.history ++ [e]) (he : handedSteps c.nextOwner [e] = [])
    (hs : owed c.nextOwner c'.stack = steps ++ owed c.nextOwner c.stack) :
    account c.nextOwner c' = steps := by
  have hhanded : handedSteps c.nextOwner c.history = [] := by
    refine handedSteps_eq_nil fun e he ho => ?_
    have := h.events e he _ ho
    omega
  have howed : owed c.nextOwner c.stack = [] := by
    refine flatMap_eq_nil_iff.2 fun f hf => owedBy_of_ownerOf fun ho => ?_
    have := h.frames f hf _ ho
    omega
  rw [account,hh,handedSteps_append,hhanded,he,hs,howed]
  simp

end ExperimentControl.Sequencer

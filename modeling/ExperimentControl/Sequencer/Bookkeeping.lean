import ExperimentControl.Sequencer.History

/-!
What `_atomic_depth`, `_use_stack` and `_vars` have to do with the frame stack.
-/

namespace ExperimentControl.Sequencer
open Lib Python Ctl Prog List Option

namespace OnExit

def isAtomic : OnExit → Bool
  | .atomic => true
  | _ => false

def useName : OnExit → Option String
  | .restoreVars _ _ name => some name
  | _ => none

def mergedVars : OnExit → Option Env
  | .restoreVars _ merged _ => some merged
  | _ => none

end OnExit

def exitOf : Frame → Option OnExit
  | .steps f => f.onExit
  | _ => none

/-- The `on_exit` callbacks that wait on the stack, innermost first. -/
def exits (stack : List Frame) : List OnExit := stack.filterMap exitOf

def atomicFrames (exits : List OnExit) : Nat := exits.countP OnExit.isAtomic

def useNames (exits : List OnExit) : List String := (exits.filterMap OnExit.useName).reverse

/-- The vars of the innermost `use` frame, or the run's own. -/
def levelVars (runVars : Env) (exits : List OnExit) : Env :=
  (exits.findSome? OnExit.mergedVars).getD runVars

/-- Every `use` frame puts back the vars of the level below it. -/
def Restores (runVars : Env) : List OnExit → Prop
  | [] => True
  | exit :: below =>
    (∀ previous merged name, exit = .restoreVars previous merged name →
      previous = levelVars runVars below) ∧ Restores runVars below

structure Levels (c : Ctl) : Prop where
  depth : c.atomicDepth = atomicFrames (exits c.stack)
  uses : c.useStack = useNames (exits c.stack)
  vars : c.vars = levelVars c.runVars (exits c.stack)
  restores : Restores c.runVars (exits c.stack)

@[simp] theorem exits_cons (f : Frame) (below : List Frame) :
    exits (f :: below) = (exitOf f).toList ++ exits below := by
  unfold exits
  cases h : exitOf f <;> simp [h]

theorem exitOf_of_isSpent {f : Frame} (h : isSpent f = true) : exitOf f = none := by
  cases f with
  | steps f => cases h
  | for_ _ _ _ _ | repeat_ _ _ | try_ _ _ _ | while_ _ _ | adaptive _ => rfl

theorem exitOf_of_isLoop {f : Frame} (h : isLoop f = true) : exitOf f = none := by
  cases f with
  | steps f => cases h
  | for_ _ _ _ _ | repeat_ _ _ | try_ _ _ _ | while_ _ _ | adaptive _ => rfl

@[simp] theorem exitOf_plain (steps : List Step) : exitOf (plain steps) = none := rfl

section
variable {c c' : Ctl}

section
variable (h : Levels c)
include h

theorem Levels.same (he : exits c'.stack = exits c.stack)
    (hd : c'.atomicDepth = c.atomicDepth) (hu : c'.useStack = c.useStack) (hv : c'.vars = c.vars)
    (hr : c'.runVars = c.runVars) : Levels c' := by
  refine ⟨?_,?_,?_,?_⟩
  · rw [hd,he,h.depth]
  · rw [hu,he,h.uses]
  · rw [hv,hr,he,h.vars]
  · rw [hr,he]
    exact h.restores

theorem Levels.frames {stack : List Frame} (he : exits stack = exits c.stack) :
    Levels { c with stack := stack } := h.same he rfl rfl rfl rfl

theorem Levels.leaveFrame {f : StepsFrame} {below : List Frame}
    (hs : c.stack = .steps f :: below) : Levels (c.leaveFrame f below) := by
  have hexits : exits c.stack = f.onExit.toList ++ exits below := by
    rw [hs,exits_cons]
    rfl
  cases hexit : f.onExit with
  | none =>
    simp only [Ctl.leaveFrame,runExit,hexit]
    refine h.frames ?_
    simp [hexits,hexit]
  | some exit =>
    have hcons : exits c.stack = exit :: exits below := by simp [hexits,hexit]
    obtain ⟨hdepth,huses,hvars,hrest⟩ := h
    rw [hcons] at hdepth huses hvars hrest
    cases exit with
    | atomic =>
      simp only [Ctl.leaveFrame,runExit,hexit]
      refine ⟨?_,huses,hvars,hrest.2⟩
      simp only [atomicFrames,countP_cons,OnExit.isAtomic] at hdepth ⊢
      simp at hdepth
      omega
    | adaptiveBody =>
      simp only [Ctl.leaveFrame,runExit,hexit]
      exact ⟨hdepth,huses,hvars,hrest.2⟩
    | restoreVars previous merged name =>
      simp only [Ctl.leaveFrame,runExit,hexit]
      refine ⟨hdepth,?_,hrest.1 previous merged name rfl,hrest.2⟩
      simp only [useNames,filterMap_cons,OnExit.useName,reverse_cons] at huses
      simp [leaveUse,huses,useNames]

theorem Levels.enterAtomic {body : List Step} : Levels (c.enterAtomic body) := by
  refine ⟨?_,?_,?_,?_⟩
  · simp only [Ctl.enterAtomic,exits_cons,exitOf,toList_some,singleton_append,
      atomicFrames,countP_cons,OnExit.isAtomic]
    have := h.depth
    simp only [atomicFrames] at this
    simp
    omega
  · exact h.uses
  · exact h.vars
  · exact ⟨fun _ _ _ h => (nomatch h),h.restores⟩

theorem Levels.enterUse {steps : List Step} {merged : Env} {name : String} :
    Levels (c.enterUse steps merged name) := by
  refine ⟨h.depth,?_,rfl,?_,h.restores⟩
  · simp only [Ctl.enterUse,exits_cons,exitOf,toList_some,singleton_append,useNames,
      filterMap_cons,OnExit.useName,reverse_cons]
    rw [h.uses]
    rfl
  · intro previous m n heq
    obtain ⟨rfl,rfl,rfl⟩ := OnExit.restoreVars.inj heq
    exact h.vars

end

@[simp] theorem exits_finalize (F : List Step) (owner : Nat) (below : List Frame) (c : Ctl) :
    exits (c.finalize F owner below).stack = exits below := by
  rcases finalize_stack F owner below c with ⟨h,_⟩ | h
  · rw [h]
    rfl
  · rw [h]
    rfl

theorem Ctl.Move.levels (hm : Move c c') (h : Levels c) : Levels c' := by
  cases hm with
  | drop hs hf => exact h.frames (by simp [hs,exitOf_of_isSpent hf])
  | leave hs hf => exact h.leaveFrame hs
  | @take f step rest below hs hf hc =>
    have hexits : exits (c.takeStep f step rest below).stack = exits c.stack := by
      rw [takeStep_stack,hs,exits_cons,exits_cons]
      rfl
    refine h.same hexits ?_ ?_ ?_ ?_ <;>
    · unfold Ctl.takeStep
      dsimp only
      split
      · split <;> rfl
      · rfl
  | advance hs hf hf' =>
    exact h.frames (by simp [hs,exitOf_of_isLoop hf,exitOf_of_isLoop hf'])
  | turn hs hf hf' =>
    exact h.frames (by simp [hs,exitOf_of_isLoop hf,exitOf_of_isLoop hf'])
  | @finalize F owner below hs =>
    have hexits : exits (c.finalize F owner below).stack = exits c.stack := by
      rw [exits_finalize,hs,exits_cons]
      rfl
    refine h.same hexits ?_ ?_ ?_ ?_ <;>
    · unfold Ctl.finalize
      dsimp only
      split <;> rfl
  | pushLoop hc hf => exact h.frames (by simp [exitOf_of_isLoop hf])
  | pushPlain hc => exact h.frames (by simp)
  | pushAdaptive hc hf => exact h.frames rfl
  | enterTry hc => exact h.same rfl rfl rfl rfl rfl
  | enterAtomic hc => exact h.enterAtomic
  | enterUse hc hn => exact h.enterUse
  | setProposal hs => exact h.frames (by rw [hs]; rfl)
  | @enterBody frame below hs hc =>
    have hexits : exits (c.enterBody frame below).stack = .adaptiveBody :: exits c.stack := by
      rw [hs]
      rfl
    refine ⟨?_,?_,?_,?_⟩
    · rw [hexits]
      exact h.depth
    · rw [hexits]
      exact h.uses
    · rw [hexits]
      exact h.vars
    · rw [hexits]
      exact ⟨fun _ _ _ h => (nomatch h),h.restores⟩
  | observe hs => exact h.same rfl rfl rfl rfl rfl
  | @endTrial frame owner ok ho =>
    refine h.same ?_ rfl rfl rfl rfl
    rcases endedStack_cases frame c.stack with heq | ⟨live,frame',below,hs,_,heq⟩
    · simp only [Ctl.endTrial,heq]
    · simp only [Ctl.endTrial,hs]
      rfl
  | abortTrial =>
    refine h.same (by rw [abortTrial_stack]) ?_ ?_ ?_ ?_ <;>
    · unfold Ctl.abortTrial
      split <;> rfl
  | beginUnwind hp hs | noteFailure hp | fault => exact h.same rfl rfl rfl rfl rfl
  | finishPending hp hs =>
    refine h.same (by rw [finishPending_stack]) ?_ ?_ ?_ ?_ <;>
    · unfold Ctl.finishPending
      split <;> rfl
  | ended hsame ho hp =>
    exact h.same (by rw [hsame.stack]; rfl) hsame.atomicDepth hsame.useStack hsame.vars
      hsame.runVars
  | restart hs hp hr =>
    obtain ⟨_,_,hvars,_⟩ := h
    rw [hs] at hvars
    exact ⟨rfl,rfl,hvars,trivial⟩
  | other hsame hs =>
    exact h.same (by rw [hsame.stack]) hsame.atomicDepth hsame.useStack hsame.vars hsame.runVars

def OnLevel (runVars : Env) (history : List Event) : List Frame → Prop
  | [] => True
  | f :: below =>
    (∀ owner, ownerOf f = some owner → ∀ F vars, .tryEntered owner F vars ∈ history →
      vars = levelVars runVars (exits (f :: below))) ∧ OnLevel runVars history below

structure Sees (c : Ctl) : Prop where
  frames : OnLevel c.runVars c.history c.stack
  steps : ∀ owner step vars F vars', .handed owner step vars ∈ c.history →
    .tryEntered owner F vars' ∈ c.history → vars = vars'

theorem OnLevel.unowned {runVars : Env} {history : List Event} {f : Frame} {below : List Frame}
    (h : OnLevel runVars history below) (hf : ownerOf f = none) :
    OnLevel runVars history (f :: below) := by
  refine ⟨?_,h⟩
  intro owner ho
  rw [hf] at ho
  cases ho

theorem OnLevel.grow {runVars : Env} {history history' : List Event} {stack : List Frame}
    (h : OnLevel runVars history stack)
    (hnew : ∀ f ∈ stack, ∀ owner, ownerOf f = some owner → ∀ F vars,
      .tryEntered owner F vars ∈ history' → .tryEntered owner F vars ∈ history) :
    OnLevel runVars history' stack := by
  induction stack with
  | nil => trivial
  | cons f below ih =>
    refine ⟨?_,ih h.2 fun g hg => hnew g (mem_cons_of_mem _ hg)⟩
    intro owner ho F vars hmem
    exact h.1 owner ho F vars (hnew f mem_cons_self owner ho F vars hmem)

section
variable (h : Sees c)
include h

theorem Sees.tail {f : Frame} {below : List Frame} (hs : c.stack = f :: below) :
    OnLevel c.runVars c.history below := by
  have := h.frames
  rw [hs] at this
  exact this.2

theorem Sees.same (hr : c'.runVars = c.runVars) (hs : OnLevel c.runVars c.history c'.stack)
    (hh : ∀ e ∈ c'.history, e ∈ c.history ∨ e.owner = none) : Sees c' := by
  have hold : ∀ e ∈ c'.history, ∀ owner, e.owner = some owner → e ∈ c.history := by
    intro e he owner ho
    rcases hh e he with hmem | hnone
    · exact hmem
    · rw [hnone] at ho
      cases ho
  refine ⟨?_,?_⟩
  · rw [hr]
    exact hs.grow fun f hf owner ho F vars hmem => hold _ hmem owner rfl
  · intro owner step vars F vars' hhanded htry
    exact h.steps owner step vars F vars' (hold _ hhanded owner rfl) (hold _ htry owner rfl)

theorem Sees.quiet (hr : c'.runVars = c.runVars) (hs : c'.stack = c.stack)
    {events : List Event} (hh : c'.history = c.history ++ events)
    (he : ∀ e ∈ events, e.owner = none) : Sees c' := by
  refine h.same hr (by rw [hs]; exact h.frames) ?_
  intro e hmem
  rw [hh] at hmem
  exact (mem_append.1 hmem).imp_right (he e)

theorem Sees.takeStep (hl : Levels c) {f : StepsFrame} {step : Step}
    {rest : List Step} {below : List Frame} (hs : c.stack = .steps f :: below) :
    Sees (c.takeStep f step rest below) := by
  have hr : (c.takeStep f step rest below).runVars = c.runVars := by
    unfold Ctl.takeStep
    dsimp only
    split
    · split <;> rfl
    · rfl
  have hold : ∀ owner F vars, .tryEntered owner F vars ∈ (c.takeStep f step rest below).history →
      .tryEntered owner F vars ∈ c.history := by
    intro owner F vars hmem
    rw [takeStep_history] at hmem
    rcases mem_append.1 hmem with hmem | hnew
    · exact hmem
    · obtain ⟨_,_,hnew⟩ := mem_takeEvents hnew
      cases hnew
  have hframes := h.frames
  rw [hs] at hframes
  refine ⟨?_,?_⟩
  · rw [hr,takeStep_stack]
    refine @OnLevel.grow _ c.history _ _ ⟨?_,hframes.2⟩ fun _ _ owner _ => hold owner
    exact hframes.1
  · intro owner step' vars F vars' hhanded htry
    rw [takeStep_history] at hhanded
    have htry' := hold owner F vars' htry
    rcases mem_append.1 hhanded with hhanded | hnew
    · exact h.steps owner step' vars F vars' hhanded htry'
    · obtain ⟨o,howner,heq⟩ := mem_takeEvents hnew
      obtain ⟨rfl,rfl,rfl⟩ := Event.handed.inj heq
      rw [hl.vars,hs]
      exact (hframes.1 owner howner F vars' htry').symm

theorem Sees.enterTry (hl : Levels c) (hf : Fresh c) {body F : List Step} :
    Sees (c.enterTry body F) := by
  have hcases : ∀ owner F' vars, .tryEntered owner F' vars ∈ (c.enterTry body F).history →
      .tryEntered owner F' vars ∈ c.history ∨ owner = c.nextOwner ∧ vars = c.vars := by
    intro owner F' vars hmem
    refine (mem_append.1 hmem).imp_right fun hnew => ?_
    obtain ⟨rfl,rfl,rfl⟩ := Event.tryEntered.inj (mem_singleton.1 hnew)
    exact ⟨rfl,rfl⟩
  refine ⟨?_,?_⟩
  · refine OnLevel.unowned ⟨?_,?_⟩ rfl
    · intro owner ho F' vars hmem
      cases ho
      rcases hcases _ F' vars hmem with hold | ⟨_,rfl⟩
      · have := hf.events _ hold _ rfl
        omega
      · exact hl.vars
    · refine h.frames.grow ?_
      intro f hfmem owner ho F' vars hmem
      rcases hcases owner F' vars hmem with hold | ⟨rfl,_⟩
      · exact hold
      · have := hf.frames f hfmem _ ho
        omega
  · intro owner step vars F' vars' hhanded htry
    have hhanded' : .handed owner step vars ∈ c.history := by
      rcases mem_append.1 hhanded with hold | hnew
      · exact hold
      · cases mem_singleton.1 hnew
    rcases hcases owner F' vars' htry with hold | ⟨rfl,_⟩
    · exact h.steps owner step vars F' vars' hhanded' hold
    · have := hf.events _ hhanded' _ rfl
      omega

theorem Sees.enterBody (hf : Fresh c) {frame : AdaptiveFrame} {below : List Frame}
    (hs : c.stack = .adaptive frame :: below) : Sees (c.enterBody frame below) := by
  have hold : ∀ e ∈ (c.enterBody frame below).history,
      e ∈ c.history ∨ e = .proposed c.nextOwner frame.body := by
    intro e he
    exact (mem_append.1 he).imp_right mem_singleton.1
  have htry : ∀ owner F vars, .tryEntered owner F vars ∈ (c.enterBody frame below).history →
      .tryEntered owner F vars ∈ c.history := by
    intro owner F vars hmem
    rcases hold _ hmem with hmem | hnew
    · exact hmem
    · cases hnew
  refine ⟨⟨?_,?_⟩,?_⟩
  · intro owner ho F vars hmem
    cases ho
    have := hf.events _ (htry _ F vars hmem) _ rfl
    omega
  · exact OnLevel.unowned ((h.tail hs).grow fun _ _ owner _ => htry owner) rfl
  · intro owner step vars F vars' hhanded hmem
    refine h.steps owner step vars F vars' ?_ (htry owner F vars' hmem)
    rcases hold _ hhanded with hhanded | hnew
    · exact hhanded
    · cases hnew

end

theorem Ctl.Move.sees (hm : Move c c') (hl : Levels c) (hf : Fresh c) (h : Sees c) : Sees c' := by
  cases hm with
  | drop hs hf' => exact h.same rfl (h.tail hs) fun e he => .inl he
  | @leave f below hs hf' =>
    have hr : (c.leaveFrame f below).runVars = c.runVars := by
      unfold Ctl.leaveFrame Ctl.runExit
      split <;> rfl
    refine h.same hr ?_ ?_
    · rw [leaveFrame_stack]
      exact h.tail hs
    · intro e he
      rw [leaveFrame_history] at he
      exact .inl he
  | take hs hf' hc => exact h.takeStep hl hs
  | advance hs hf₁ hf₂ =>
    exact h.same rfl ((h.tail hs).unowned (ownerOf_of_isLoop hf₂)) fun e he => .inl he
  | turn hs hf₁ hf₂ =>
    exact h.same rfl (((h.tail hs).unowned (ownerOf_of_isLoop hf₂)).unowned rfl)
      fun e he => .inl he
  | @finalize F owner below hs =>
    have hr : (c.finalize F owner below).runVars = c.runVars := by
      unfold Ctl.finalize
      dsimp only
      split <;> rfl
    have hframes := h.frames
    rw [hs] at hframes
    refine h.same hr ?_ ?_
    · rcases finalize_stack F owner below c with ⟨hstack,_⟩ | hstack
      · rw [hstack]
        exact hframes
      · rw [hstack]
        exact ⟨hframes.1,hframes⟩
    · intro e he
      rw [finalize_history] at he
      exact .inl he
  | pushLoop hc hf' =>
    exact h.same rfl (h.frames.unowned (ownerOf_of_isLoop hf')) fun e he => .inl he
  | pushPlain hc | pushAdaptive hc hf' | enterAtomic hc | enterUse hc hn =>
    exact h.same rfl (h.frames.unowned rfl) fun e he => .inl he
  | enterTry hc => exact h.enterTry hl hf
  | setProposal hs => exact h.same rfl ((h.tail hs).unowned rfl) fun e he => .inl he
  | enterBody hs hc => exact h.enterBody hf hs
  | observe hs => exact h.same rfl h.frames fun e he => .inl he
  | @endTrial frame owner ok ho =>
    refine h.same rfl ?_ fun e he => (mem_append.1 he).imp_right endEvents_owner
    rcases endedStack_cases frame c.stack with heq | ⟨live,frame',below,hs,_,heq⟩
    · simp only [Ctl.endTrial,heq]
      exact h.frames
    · simp only [Ctl.endTrial,heq]
      exact (h.tail hs).unowned rfl
  | abortTrial =>
    refine h.quiet ?_ (abortTrial_stack _ c) (abortTrial_history _ c) (abortEvents_owner c)
    unfold Ctl.abortTrial
    split <;> rfl
  | beginUnwind hp hs | noteFailure hp | fault => exact h.quiet rfl rfl rfl (by simp [Event.owner])
  | finishPending hp hs =>
    refine h.quiet ?_ (finishPending_stack c) (finishPending_history c) (by simp [Event.owner])
    unfold Ctl.finishPending
    split <;> rfl
  | ended hsame ho hp =>
    exact h.quiet hsame.runVars hsame.stack hsame.history (by simp [Event.owner])
  | restart hs hp hr =>
    exact h.same rfl (@OnLevel.unowned _ _ _ [] trivial rfl) fun e he => .inl he
  | other hsame hs =>
    exact h.quiet hsame.runVars hsame.stack (show _ = _ ++ [] by simp [hsame.history]) (by simp)

structure Kept (c : Ctl) : Prop where
  levels : Levels c
  fresh : Fresh c
  sees : Sees c

theorem Ctl.Move.kept (hm : Move c c') (h : Kept c) : Kept c' :=
  ⟨hm.levels h.levels,hm.fresh h.fresh,hm.sees h.levels h.fresh h.sees⟩

theorem Kept.blank (hs : exits c.stack = []) (ho : ∀ f ∈ c.stack, ownerOf f = none)
    (hh : c.history = []) (hd : c.atomicDepth = 0) (hu : c.useStack = []) (hv : c.vars = c.runVars) :
    Kept c := by
  refine ⟨⟨?_,?_,?_,?_⟩,⟨?_,?_⟩,⟨?_,?_⟩⟩
  · rw [hs,hd]
    rfl
  · rw [hs,hu]
    rfl
  · rw [hs,hv]
    rfl
  · rw [hs]
    trivial
  · intro f hf owner h
    rw [ho f hf] at h
    cases h
  · intro e he
    rw [hh] at he
    cases he
  · generalize c.stack = stack at ho
    induction stack with
    | nil => trivial
    | cons f below ih =>
      exact (ih fun g hg => ho g (mem_cons_of_mem _ hg)).unowned (ho f mem_cons_self)
  · intro owner step vars F vars' h
    rw [hh] at h
    cases h

end

section
variable {World : Type}

/-- `start` gets as far as the adaptive override and raises there, when the stack has been
replaced and `_atomic_depth` not yet reset. -/
def OverrideRefused (host : Host World) (c : Ctl) (args : StartArgs) : Prop :=
  ∃ spec loops overrides e, c.spec = some spec ∧ readLoops host args = .ok loops ∧
    readVarsOverride spec args.varsOverride = .ok overrides ∧
    normalizeStartModes host.py args.adaptive = .error e

theorem guides_start (host : Host World) {args : StartArgs} {c : Ctl} (h : Kept c)
    (hrefused : OverrideRefused host c args → atomicFrames (exits c.stack) = 0) :
    Guides (fun c' => c' = c) (start host args) (fun _ => Kept) Kept := by
  have hkept : ∀ c', c' = c → Kept c' := by
    intro c' hc'
    subst hc'
    exact h
  refine guides_read fun c' hc' => ?_
  subst hc'
  cases hspec : c'.spec with
  | none => exact guides_raise hkept
  | some spec =>
    refine .bind (guides_except fun _ _ => hkept) fun loops => ?_
    refine guides_given fun hloops => ?_
    refine .bind (guides_except fun _ _ => hkept) fun overrides => ?_
    refine guides_given fun hoverrides => ?_
    refine .bind (guides_change _) fun _ => ?_
    refine .bind (guides_move
      (Q := fun c'' => c'' = c'.startRun loops.1 loops.2
        (resolveVars host.py (spec.vars.update overrides)) spec.steps) ?_) fun _ => ?_
    · intro c'' hc''
      rw [hc'']
    refine .bind (guides_except ?_) fun modes => ?_
    · intro e he c'' hc''
      subst hc''
      refine Kept.blank rfl ?_ rfl ?_ rfl rfl
      · intro f hf
        simp only [Ctl.startRun,mem_singleton] at hf
        subst hf
        rfl
      · have := h.levels.depth
        rw [hrefused ⟨spec,loops,overrides,e,hspec,hloops,hoverrides,he⟩] at this
        exact this
    · refine guides_given fun _ => ?_
      refine .bind (guides_change _) fun _ => guides_move ?_
      intro c'' hc''
      subst hc''
      refine Kept.blank rfl ?_ rfl rfl rfl rfl
      intro f hf
      simp only [Ctl.enterRun,Ctl.startRun,mem_singleton] at hf
      subst hf
      rfl

theorem guides_load (host : Host World) (spec : SequenceSpec) :
    Guides Kept (load host spec) (fun _ => Kept) Kept := by
  refine guides_read fun c hc => ?_
  refine .ite (fun _ => guides_raise fun c' hc' => hc' ▸ hc) fun _ => ?_
  refine .bind (guides_move (Q := Kept) ?_) fun _ => guides_change _
  intro c' _
  exact Kept.blank rfl (fun f hf => nomatch hf) rfl rfl rfl rfl

/-- No `start` whose adaptive override is refused comes in while an atomic step is on
the stack. -/
def KeepsDepth (host : Host World) (c : Ctl) : Call → Prop
  | .start args => OverrideRefused host c args → atomicFrames (exits c.stack) = 0
  | _ => True

theorem Calls.kept {host : Host World} {s s' : RtState World}
    (h : Calls host (KeepsDepth host) s s') (hs : Kept s.ctl) : Kept s'.ctl := by
  induction h with
  | refl => exact hs
  | @tail t u _ hcall ih =>
    obtain ⟨call,hok,hleaves⟩ := hcall
    cases call with
    | load spec =>
      exact Triple.leaves (P := On Kept) (I := On Kept) (guides_load host spec) ih hleaves
    | start args =>
      exact Triple.leaves (I := On Kept) (guides_start host ih hok)
        (show On (fun c => c = t.ctl) t from rfl) hleaves
    | request r =>
      have hrun : Run host t u := .single ⟨r,hleaves⟩
      exact hrun.moves.keep Ctl.Move.kept ih

structure Bookkept (c : Ctl) : Prop where
  depth : c.atomicDepth = atomicFrames (exits c.stack)
  uses : c.useStack = useNames (exits c.stack)
  vars : c.vars = levelVars c.runVars (exits c.stack)
  finally_ : ∀ owner step vars F vars', .handed owner step vars ∈ c.history →
    .tryEntered owner F vars' ∈ c.history → vars = vars'

/-- In every state reached by calls none of which is a late refusal inside an atomic
step, the three fields agree with the stack and every finally step has seen the vars of
its try step. -/
theorem stack_bookkeeping (host : Host World) (data : Data World) (s : RtState World)
    (h : Calls host (KeepsDepth host) ⟨Ctl.new,data⟩ s) : Bookkept s.ctl := by
  have hnew : Kept Ctl.new := Kept.blank rfl (fun f hf => nomatch hf) rfl rfl rfl rfl
  have hkept := Calls.kept h hnew
  exact ⟨hkept.levels.depth,hkept.levels.uses,hkept.levels.vars,hkept.sees.steps⟩

end

def pausingAtomic : SequenceSpec := ⟨.empty,[.atomic none [.pause none false] false]⟩

theorem pausing_atomic_bookkept :
    ∃ s, Calls Host.quiet (KeepsDepth Host.quiet) ⟨Ctl.new,Data.new ()⟩ s ∧
      s.ctl.state = .paused ∧ s.ctl.atomicDepth = 1 ∧ Bookkept s.ctl := by
  have hrun : ((runAll 5 (([.load pausingAtomic,.start {},.request .tick] : List Call).map
      (Call.perform Host.quiet)) ⟨Ctl.new,Data.new ()⟩).map fun s =>
        (s.ctl.state,s.ctl.atomicDepth)) = some (.paused,1) := by rfl
  obtain ⟨s,hs,hfields⟩ := map_eq_some_iff.1 hrun
  rw [Prod.mk.injEq] at hfields
  have hcalls : Calls Host.quiet (KeepsDepth Host.quiet) ⟨Ctl.new,Data.new ()⟩ s := by
    refine runAll_chain ?_ hs
    intro x hx s s' hleaves
    obtain ⟨call,hcall,rfl⟩ := mem_map.1 hx
    refine ⟨call,?_,hleaves⟩
    simp only [mem_cons,not_mem_nil,or_false] at hcall
    rcases hcall with rfl | rfl | rfl
    · trivial
    · intro hrefused
      obtain ⟨_,_,_,e,_,_,_,he⟩ := hrefused
      cases he
    · trivial
  exact ⟨s,hcalls,hfields.1,hfields.2,stack_bookkeeping Host.quiet (Data.new ()) s hcalls⟩

def refusedRestart : List Call :=
  [.load pausingAtomic,.start {},.request .tick,.start { adaptive := .int 5 }]

theorem refused_start_keeps_depth :
    ¬ ∀ s, Calls Host.quiet (fun _ _ => True) ⟨Ctl.new,Data.new ()⟩ s → Bookkept s.ctl := by
  intro h
  have hrun : ((runAll 5 (refusedRestart.map (Call.perform Host.quiet))
      ⟨Ctl.new,Data.new ()⟩).map fun s =>
        (s.ctl.atomicDepth,atomicFrames (exits s.ctl.stack))) = some (1,0) := by rfl
  obtain ⟨s,hs,hcounts⟩ := map_eq_some_iff.1 hrun
  have hcalls : Calls Host.quiet (fun _ _ => True) ⟨Ctl.new,Data.new ()⟩ s := by
    refine runAll_chain ?_ hs
    intro x hx s s' hleaves
    obtain ⟨call,_,rfl⟩ := mem_map.1 hx
    exact ⟨call,trivial,hleaves⟩
  have hdepth := (h s hcalls).depth
  rw [Prod.mk.injEq] at hcounts
  rw [hcounts.1,hcounts.2] at hdepth
  cases hdepth

end ExperimentControl.Sequencer

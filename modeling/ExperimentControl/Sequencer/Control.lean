import ExperimentControl.Sequencer.Runtime

/-!
Every function of the runtime changes the control state by `Ctl.Move`s alone: the
runtime refines the relation on control states, whatever its data do.
-/

namespace ExperimentControl.Sequencer
open Lib Python Ctl Prog List

variable {World α β : Type}

def On (P : Ctl → Prop) (s : RtState World) : Prop := P s.ctl

abbrev Guides (P : Ctl → Prop) (x : RT World α) (Q : α → Ctl → Prop) (E : Ctl → Prop) : Prop :=
  Triple (On P) x (fun a => On (Q a)) (fun _ => On E)

section
variable {P P' E E' : Ctl → Prop} {Q Q' : α → Ctl → Prop}

variable {x : RT World α}

theorem guides_conseq (h : Guides P x Q E) (hp : ∀ c, P' c → P c)
    (hq : ∀ a c, Q a c → Q' a c) (he : ∀ c, E c → E' c) : Guides P' x Q' E' :=
  .conseq h (fun s hs => hp s.ctl hs) (fun a s hs => hq a s.ctl hs)
    (fun _ s hs => he s.ctl hs)

theorem guides_pre (h : Guides P x Q E) (hp : ∀ c, P' c → P c) : Guides P' x Q E :=
  guides_conseq h hp (fun _ _ h => h) (fun _ h => h)

theorem guides_given {φ : Prop} (h : φ → Guides P x Q E) :
    Guides (fun c => φ ∧ P c) x Q E := fun n s hs => h hs.1 n s hs.2

theorem guides_onData (x : D World α) (he : ∀ c, P c → E c) : Guides P (onData x) (fun _ => P) E :=
  .zoom (fun _ _ _ h => h) (fun s _ _ h => he s.ctl h)

theorem guides_except {r : Except PyExc α} (he : ∀ e, r = .error e → ∀ c, P c → E c) :
    Guides P (onData (except r) : RT World α) (fun a c => r = .ok a ∧ P c) E := by
  intro n s hs
  cases r with
  | ok a => exact ⟨rfl,hs⟩
  | error e => exact he e rfl s.ctl hs

theorem guides_change (f : Data World → Data World) : Guides P (change f) (fun _ => P) E :=
  .modify fun _ h => h

theorem guides_getCtl : Guides P (getCtl : RT World Ctl) (fun c c' => c' = c ∧ P c') E := by
  refine .ofFun ?_ ?_
  · intro s c s' hs h
    simp only [Prod.mk.injEq,Except.ok.injEq] at h
    obtain ⟨rfl,rfl⟩ := h
    exact ⟨rfl,hs⟩
  · intro s e s' hs h
    simp at h

theorem guides_getData : Guides P (getData : RT World (Data World)) (fun _ => P) E := by
  refine .ofFun ?_ ?_
  · intro s d s' hs h
    simp only [Prod.mk.injEq] at h
    exact h.2 ▸ hs
  · intro s e s' hs h
    simp at h

theorem guides_isInterruptible : Guides P (isInterruptible : RT World Bool) (fun _ => P) E := by
  refine .ofFun ?_ ?_
  · intro s d s' hs h
    simp only [Prod.mk.injEq] at h
    exact h.2 ▸ hs
  · intro s e s' hs h
    simp at h

theorem guides_move {f : Ctl → Ctl} {Q : Ctl → Prop} (h : ∀ c, P c → Q (f c)) :
    Guides P (move f : RT World Unit) (fun _ => Q) E :=
  .modify fun s hs => h s.ctl hs

theorem guides_now (host : Host World) : Guides P (onData (now host)) (fun _ => P) E := by
  intro n s hs
  exact hs

theorem guides_withVars (x : Env → D World α) (he : ∀ c, P c → E c) :
    Guides P (withVars x) (fun _ => P) E := by
  refine .bind guides_getCtl fun c => ?_
  exact guides_conseq (guides_onData (P := P) (x c.vars) he) (fun _ h => h.2) (fun _ _ h => h)
    (fun _ h => h)

theorem guides_read {x : Ctl → RT World α} (h : ∀ c, P c → Guides (fun c' => c' = c) (x c) Q E) :
    Guides P (getCtl >>= x) Q E := by
  intro n s hs
  exact h s.ctl hs n s rfl

theorem guides_withVarsGiven {x : Env → D World α} {φ : α → Prop}
    (hx : ∀ vars, Triple (fun _ => True) (x vars) (fun a _ => φ a) (fun _ _ => True))
    (he : ∀ c, P c → E c) : Guides P (withVars x) (fun a c => φ a ∧ P c) E := by
  refine guides_read fun c hc => ?_
  intro n s hs
  obtain rfl : s.ctl = c := hs
  have hφ := hx s.ctl.vars n s.data trivial
  simp only [onData,zoom]
  cases hr : (x s.ctl.vars).run n s.data with
  | ok a d =>
    rw [hr] at hφ
    exact ⟨hφ,hc⟩
  | raised e d => exact he s.ctl hc
  | diverged => trivial

theorem guides_pure {a : α} (h : ∀ c, P c → Q a c) : Guides P (pure a : RT World α) Q E :=
  .pure fun s hs => h s.ctl hs

theorem guides_raise {e : PyExc} (h : ∀ c, P c → E c) : Guides P (Prog.raise e : RT World α) Q E :=
  .raise fun s hs => h s.ctl hs

end

/-- The control state was reached from `c₀`. -/
def Via (c₀ : Ctl) (Q : Ctl → Prop) (c : Ctl) : Prop := Moves c₀ c ∧ Q c

def Active (c : Ctl) : Prop := c.pending.isSome = true ∨ c.state = .running

def Live (c : Ctl) : Prop := Active c ∨ c.state = .paused ∨ c.hasTerminalUnwindWork = false

theorem Active.live {c : Ctl} (h : Active c) : Live c := .inl h

theorem Ctl.Executing.live {c : Ctl} (h : c.Executing) : Live c := .inl h.1.symm

variable {c₀ c : Ctl} {E : Ctl → Prop}

theorem via_move {Q : Ctl → Prop} {c' : Ctl} (h : Moves c₀ c) (hm : Move c c') (hq : Q c') :
    Via c₀ Q c' := ⟨h.tail hm,hq⟩

theorem finallyOwed_of_no_work {c : Ctl} (h : c.hasTerminalUnwindWork = false) :
    finallyOwed c.stack = false := by
  simp only [hasTerminalUnwindWork,finallyOwed,any_eq_false] at h ⊢
  intro f hf
  have hfalse := h f hf
  cases f with
  | steps f =>
    simp only [Bool.or_eq_true,not_or,Bool.not_eq_true] at hfalse
    simp [hfalse.2]
  | try_ F finalizing owner =>
    cases F with
    | nil => simp
    | cons s rest =>
      simp only [isEmpty_cons,Bool.not_false,Bool.and_true,Bool.not_eq_true'] at hfalse
      simp [hfalse]
  | for_ b r i body | repeat_ n body | while_ cond body | adaptive frame => simp

theorem finallyOwed_of_no_stack {c : Ctl} (h : c.stack = []) : finallyOwed c.stack = false := by
  simp [finallyOwed,h]

def Unwound (c : Ctl) : Prop :=
  c.hasTerminalUnwindWork = false ∧ (c.pending.isSome = true → c.stack = [])

theorem Unwound.ended {c c' : Ctl} (h : Unwound c) (hs : SameFrames (c.log .terminal) c') :
    Move c c' :=
  .ended hs (finallyOwed_of_no_work h.1) h.2

theorem guides_beginTerminalUnwind (host : Host World) (state : RunState) (error : Option String) :
    Guides (Via c₀ Live) (beginTerminalUnwind host state error)
      (fun begun => Via c₀ fun c => if begun then c.pending.isSome = true else Unwound c) E := by
  refine guides_read fun c hc => ?_
  refine .ite (fun hp => ?_) fun hp => ?_
  · refine guides_pure ?_
    intro c' hc'
    subst hc'
    refine ⟨hc.1,?_⟩
    cases hs : c'.stack with
    | nil => simp [Unwound,hasTerminalUnwindWork,hs]
    | cons f below => simpa using hp
  · refine .ite (fun hw => ?_) fun hw => ?_
    · refine guides_pure ?_
      intro c' hc'
      subst hc'
      refine ⟨hc.1,?_⟩
      simp only [Bool.not_eq_true'] at hw
      simp only [Bool.false_eq_true,if_false]
      exact ⟨hw,fun h => absurd h hp⟩
    · refine .bind (guides_move (Q := Via c₀ fun c => c.pending.isSome = true) ?_)
        fun _ => ?_
      · intro c' hc'
        subst hc'
        have hnone : c'.pending = none := by simpa using hp
        refine via_move hc.1 (.beginUnwind hnone ?_) rfl
        rcases hc.2 with (h | h) | h | h
        · exact absurd h hp
        · exact .inl h
        · exact .inr h
        · simp [h] at hw
      · refine .bind (guides_change _) fun _ => ?_
        exact guides_pure fun c h => by simpa using h

theorem guides_failStep (host : Host World) (message : String) :
    Guides (Via c₀ Live) (failStep host message) (fun blocked c => blocked = true ∧ Via c₀ Live c)
      E := by
  refine guides_read fun c hc => ?_
  refine .ite (fun hp => ?_) fun hp => ?_
  · refine .bind (guides_move (Q := Via c₀ Live) ?_) fun _ =>
      guides_pure fun _ h => ⟨rfl,h⟩
    intro c' hc'
    subst hc'
    refine ⟨hc.1.tail (.noteFailure hp),.inl (.inl ?_)⟩
    simpa [noteCleanupFailure] using hp
  · refine .bind (guides_pre (@guides_beginTerminalUnwind World c₀ _ host _ _) ?_)
      fun begun => ?_
    · intro c' hc'
      subst hc'
      exact hc
    · cases begun with
      | true => exact guides_pure fun _ h => ⟨rfl,h.1,.inl (.inl h.2)⟩
      | false =>
        refine .bind (guides_move (Q := Via c₀ Live) ?_) fun _ =>
          guides_pure fun _ h => ⟨rfl,h⟩
        intro c' hc'
        obtain ⟨hm,hu⟩ := hc'
        exact ⟨hm.tail (Unwound.ended hu ⟨rfl,rfl,rfl,rfl,rfl,rfl,rfl,rfl,rfl⟩),.inr (.inr hu.1)⟩

theorem guides_finishPendingTerminal (host : Host World) :
    Guides (Via c₀ fun c => c.pending.isSome = true ∧ c.stack = []) (finishPendingTerminal host)
      (fun _ => Moves c₀) E := by
  refine .bind (guides_change _) fun _ => guides_move ?_
  intro c hc
  exact hc.1.tail (.finishPending hc.2.1 hc.2.2)

theorem guides_checkStopPause (host : Host World) {P : Ctl → Prop} (hP : ∀ c, P c → Via c₀ Live c) :
    Guides P (checkStopPause host) (fun stopped c => if stopped then Moves c₀ c else P c) E := by
  refine guides_read fun c hc => ?_
  obtain ⟨hm,hl⟩ := hP c hc
  refine .bind guides_isInterruptible fun free => ?_
  refine .ite (fun _ => ?_) fun _ => ?_
  · refine .bind (guides_move (Q := Via c₀ Live) ?_) fun _ => ?_
    · intro c' hc'
      subst hc'
      exact via_move hm (.other ⟨rfl,rfl,rfl,rfl,rfl,rfl,rfl,rfl,rfl⟩ (.inl rfl)) hl
    · refine .bind (guides_beginTerminalUnwind host _ _) fun begun => ?_
      cases begun with
      | true => exact guides_pure fun _ h => by simpa using h.1
      | false =>
        refine .bind (guides_change _) fun _ => ?_
        refine .bind (guides_move (Q := Moves c₀) ?_) fun _ =>
          guides_pure fun _ h => by simpa using h
        intro c' hc'
        obtain ⟨hm',hu⟩ := hc'
        exact hm'.tail (Unwound.ended hu ⟨rfl,rfl,rfl,rfl,rfl,rfl,rfl,rfl,rfl⟩)
  · refine .ite (fun _ => ?_) fun _ => ?_
    · refine .bind (guides_move (Q := Moves c₀) ?_) fun _ =>
        guides_pure fun _ h => by simpa using h
      intro c' hc'
      subst hc'
      exact hm.tail (.other ⟨rfl,rfl,rfl,rfl,rfl,rfl,rfl,rfl,rfl⟩ (.inr rfl))
    · refine guides_pure fun c' hc' => ?_
      subst hc'
      simpa using hc

def Floor (unwinding : Bool) (S : List Frame) : Prop :=
  if unwinding then ∃ f below, S = .steps f :: below ∧ f.runDuringUnwind = true else S = []

/-- At the head of the loop that looks for a step above `S`. -/
structure Seeking (c₀ : Ctl) (unwinding : Bool) (S : List Frame) (c : Ctl) : Prop where
  moves : Moves c₀ c
  pending : c.pending.isSome = unwinding
  above : S <:+ c.stack
  running : unwinding = false → c.state = .running

variable {unwinding : Bool} {S : List Frame}

theorem Seeking.active (h : Seeking c₀ unwinding S c) : Active c := by
  cases unwinding with
  | false => exact .inr (h.running rfl)
  | true => exact .inl h.pending

theorem Seeking.live (h : Seeking c₀ unwinding S c) : Live c := h.active.live

theorem Seeking.hasUnwindBody (hS : Floor unwinding S) (h : Seeking c₀ unwinding S c) :
    c.pending.isSome = true → hasUnwindBody c.stack = true := by
  intro hp
  rw [h.pending] at hp
  subst hp
  simp only [Floor,if_true] at hS
  obtain ⟨f,below,rfl,hf⟩ := hS
  refine any_eq_true.2 ⟨.steps f,?_,hf⟩
  exact h.above.subset mem_cons_self

theorem Seeking.executing (hS : Floor unwinding S) (h : Seeking c₀ unwinding S c) :
    c.Executing := ⟨h.active.symm,h.hasUnwindBody hS⟩

variable {frame : AdaptiveFrame}

theorem suffix_tail_of_adaptive (hS : Floor unwinding S)
    {rest : List Frame} (h : S <:+ .adaptive frame :: rest) : S <:+ rest := by
  rcases suffix_cons_iff.1 h with h | h
  · cases unwinding with
    | false =>
      simp only [Floor,Bool.false_eq_true,if_false] at hS
      exact hS ▸ nil_suffix
    | true =>
      obtain ⟨f,below,rfl,_⟩ := hS
      cases h
  · exact h

theorem endedStack_cases (frame : AdaptiveFrame) (stack : List Frame) :
    endedStack frame stack = stack ∨
    ∃ live frame' below, stack = .adaptive live :: below ∧ frame'.trial = live.trial ∧
      endedStack frame stack = .adaptive frame' :: below := by
  unfold endedStack
  split
  · rename_i live below
    exact .inr ⟨live,{ frame with body := live.body, trial := live.trial },below,rfl,rfl,rfl⟩
  · exact .inl rfl

theorem suffix_endedStack (frame : AdaptiveFrame) {stack : List Frame} (h : S <:+ stack.tail) :
    S <:+ endedStack frame stack := by
  rcases endedStack_cases frame stack with heq | ⟨live,frame',below,rfl,_,heq⟩
  · rw [heq]
    exact h.trans (tail_suffix _)
  · rw [heq]
    exact h.trans (suffix_cons _ _)

theorem live_endTrial (frame : AdaptiveFrame) (owner : Option Nat) (ok : Bool) (h : Live c) :
    Live (c.endTrial frame owner ok) := by
  rcases endedStack_cases frame c.stack with heq | ⟨live,frame',below,hs,_,heq⟩
  · simpa [Live,Active,hasTerminalUnwindWork,Ctl.endTrial,heq] using h
  · simpa [Live,Active,hasTerminalUnwindWork,Ctl.endTrial,endedStack,hs] using h

@[simp] theorem abortTrial_pending (message : String) (c : Ctl) :
    (c.abortTrial message).pending = c.pending := by
  unfold Ctl.abortTrial
  split <;> rfl

@[simp] theorem abortTrial_stack (message : String) (c : Ctl) :
    (c.abortTrial message).stack = c.stack := by
  unfold Ctl.abortTrial
  split <;> rfl

def Ends (owner : Option Nat) (c : Ctl) : Prop :=
  owner = c.observing ∨ ∃ live below, c.stack = .adaptive live :: below ∧ owner = live.trial

theorem guides_finalizeAdaptiveTrial (host : Host World) (frame : AdaptiveFrame)
    (owner : Option Nat) (proposal : Proposal) (trial : Trial) :
    Guides (fun c => Moves c₀ c ∧ c.pending.isSome = unwinding ∧ S <:+ c.stack.tail ∧ Live c ∧
        Ends owner c) (finalizeAdaptiveTrial host frame owner proposal trial)
      (fun _ c => Moves c₀ c ∧ c.pending.isSome = unwinding ∧ S <:+ c.stack) (Via c₀ Live) := by
  refine .bind (guides_onData _ fun c h => ⟨h.1,h.2.2.2.1⟩) fun r => ?_
  obtain ⟨frame',told⟩ := r
  refine .bind (guides_move
    (Q := fun c => Moves c₀ c ∧ c.pending.isSome = unwinding ∧ S <:+ c.stack ∧ Live c) ?_)
    fun _ => ?_
  · intro c hc
    obtain ⟨hm,hp,hs,hl,howner⟩ := hc
    exact ⟨hm.tail (.endTrial howner),hp,suffix_endedStack frame' hs,
      live_endTrial frame' owner trial.ok hl⟩
  · cases told with
    | error e => exact guides_raise fun c h => ⟨h.1,h.2.2.2⟩
    | ok u =>
      refine .ite (fun _ => ?_) fun _ => guides_pure fun c h => ⟨h.1,h.2.1,h.2.2.1⟩
      refine guides_move ?_
      intro c hc
      obtain ⟨hm,hp,hs,_⟩ := hc
      refine ⟨hm.tail .abortTrial,?_,?_⟩
      · rw [abortTrial_pending]
        exact hp
      · rw [abortTrial_stack]
        exact hs

theorem guides_afterAdaptiveBody (host : Host World) {rest : List Frame} (hs : S <:+ rest) :
    Guides (fun c => Moves c₀ c ∧ c.pending.isSome = unwinding ∧ c.stack = .adaptive frame :: rest ∧
        Live c) (afterAdaptiveBody host frame)
      (fun _ c => Moves c₀ c ∧ c.pending.isSome = unwinding ∧ S <:+ c.stack) (Via c₀ Live) := by
  have hsuf : S <:+ .adaptive frame :: rest := hs.trans (suffix_cons _ _)
  unfold afterAdaptiveBody
  cases frame.proposal with
  | none =>
    refine guides_pure fun c h => ⟨h.1,h.2.1,?_⟩
    rw [h.2.2.1]
    exact hsuf
  | some proposal =>
    have hfinalize : ∀ trial, Guides (fun c => Moves c₀ c ∧ c.pending.isSome = unwinding ∧
        c.stack = .adaptive frame :: rest ∧ Live c)
        (finalizeAdaptiveTrial host frame frame.trial proposal trial)
        (fun _ c => Moves c₀ c ∧ c.pending.isSome = unwinding ∧ S <:+ c.stack) (Via c₀ Live) := by
      intro trial
      refine guides_pre (guides_finalizeAdaptiveTrial host frame frame.trial proposal trial) ?_
      intro c hc
      obtain ⟨hm,hp,hst,hl⟩ := hc
      refine ⟨hm,hp,?_,hl,.inr ⟨frame,rest,hst,rfl⟩⟩
      rw [hst]
      exact hs
    refine .ite (fun _ => ?_) fun _ => ?_
    · refine .bind (guides_move (Q := fun c => Moves c₀ c ∧ c.pending.isSome = unwinding ∧
        c.stack = .adaptive frame :: rest ∧ Live c) ?_) fun _ => ?_
      · intro c hc
        exact ⟨hc.1.tail (.observe hc.2.2.1),hc.2⟩
      refine .bind (guides_withVars _ fun c h => ⟨h.1,h.2.2.2⟩) fun failed => ?_
      cases failed with
      | none =>
        refine guides_pure fun c h => ⟨h.1,h.2.1,?_⟩
        rw [h.2.2.1]
        exact hsuf
      | some trial => exact hfinalize trial
    · refine .bind (guides_withVars _ fun c h => ⟨h.1,h.2.2.2⟩) fun trial => ?_
      exact hfinalize trial

theorem guides_afterExit (host : Host World) (exit : OnExit)
    (hS : ∀ {frame rest}, S <:+ Frame.adaptive frame :: rest → S <:+ rest) :
    Guides (fun c => Moves c₀ c ∧ c.pending.isSome = unwinding ∧ S <:+ c.stack ∧ Live c)
      (afterExit host exit)
      (fun _ c => Moves c₀ c ∧ c.pending.isSome = unwinding ∧ S <:+ c.stack) (Via c₀ Live) := by
  unfold afterExit
  cases exit with
  | atomic => exact guides_pure fun c h => ⟨h.1,h.2.1,h.2.2.1⟩
  | restoreVars p m n => exact guides_pure fun c h => ⟨h.1,h.2.1,h.2.2.1⟩
  | adaptiveBody =>
    refine guides_read fun c hc => ?_
    obtain ⟨hm,hp,hs,hl⟩ := hc
    split
    · rename_i frame rest hst
      rw [hst] at hs
      refine guides_pre (guides_afterAdaptiveBody host (hS hs)) ?_
      intro c' hc'
      subst hc'
      exact ⟨hm,hp,hst,hl⟩
    · refine guides_pure ?_
      intro c' hc'
      subst hc'
      exact ⟨hm,hp,hs⟩

variable (f : StepsFrame)

variable (below : List Frame)

@[simp] theorem leaveFrame_stack (c : Ctl) : (c.leaveFrame f below).stack = below := by
  unfold Ctl.leaveFrame Ctl.runExit
  split <;> rfl

@[simp] theorem leaveFrame_pending (c : Ctl) : (c.leaveFrame f below).pending = c.pending := by
  unfold Ctl.leaveFrame Ctl.runExit
  split <;> rfl

@[simp] theorem leaveFrame_state (c : Ctl) : (c.leaveFrame f below).state = c.state := by
  unfold Ctl.leaveFrame Ctl.runExit
  split <;> rfl

def Sought (c₀ : Ctl) (unwinding : Bool) (S : List Frame) : Unit ⊕ NextStep → Ctl → Prop
  | .inl (),c => Seeking c₀ unwinding S c
  | .inr (.step _),c => Moves c₀ c ∧ c.Executing
  | .inr .notReady,c => Moves c₀ c
  | .inr .none_,c => Moves c₀ c ∧ c.pending.isSome = unwinding ∧
      S <:+ c.stack ∧ (c.state = .running → c.stack = S)

variable {below : List Frame}

theorem guides_leaveAbove (host : Host World) {f : StepsFrame} (exit : OnExit)
    (hS : Floor unwinding S) (h : Seeking c₀ unwinding S c) (hst : c.stack = .steps f :: below)
    (hrest : f.rest = []) (hsuf : S <:+ below) :
    Guides (fun c' => c' = c) (leaveAbove host f below exit) (Sought c₀ unwinding S)
      (Via c₀ Live) := by
  refine .bind guides_getCtl fun before => ?_
  refine .bind (guides_move
    (Q := fun c => Moves c₀ c ∧ c.pending.isSome = unwinding ∧ S <:+ c.stack ∧ Live c) ?_)
    fun _ => ?_
  · intro c' hc'
    obtain ⟨_,rfl⟩ := hc'
    refine ⟨h.moves.tail (.leave hst (.inl hrest)),?_,?_,?_⟩
    · rw [leaveFrame_pending]
      exact h.pending
    · rw [leaveFrame_stack]
      exact hsuf
    · refine Active.live ?_
      have hact := h.active
      unfold Active at hact ⊢
      rwa [leaveFrame_pending,leaveFrame_state]
  refine .bind (guides_afterExit host exit (suffix_tail_of_adaptive hS)) fun _ => ?_
  refine guides_read fun c₁ hc₁ => ?_
  obtain ⟨hm,hp,hs⟩ := hc₁
  refine .bind guides_getData fun d => ?_
  refine .ite (fun hr => ?_) fun hr => ?_
  · refine guides_pure ?_
    intro c' hc'
    subst hc'
    exact ⟨hm,hp,hs,fun h => absurd h hr⟩
  · refine .ite (fun _ => ?_) fun _ => ?_
    · exact guides_pure fun c' hc' => hc' ▸ hm
    · refine .ite (fun _ => ?_) fun _ => ?_
      · exact guides_pure fun c' hc' => hc' ▸ hm
      · refine guides_pure ?_
        intro c' hc'
        subst hc'
        exact ⟨hm,hp,hs,fun _ => by simpa using hr⟩

theorem Seeking.step {c' : Ctl} (h : Seeking c₀ unwinding S c) (hm : Move c c')
    (hp : c'.pending = c.pending) (hr : c'.state = c.state) (hs : S <:+ c'.stack) :
    Seeking c₀ unwinding S c' :=
  ⟨h.moves.tail hm,by rw [hp]; exact h.pending,hs,fun hu => by rw [hr]; exact h.running hu⟩

variable {g : Ctl → Ctl}

theorem guides_seek (h : Seeking c₀ unwinding S c) (hm : Move c (g c))
    (hp : (g c).pending = c.pending) (hr : (g c).state = c.state) (hs : S <:+ (g c).stack) :
    Guides (fun c' => c' = c) (move g : RT World Unit)
      (fun _ c' => c' = g c ∧ Seeking c₀ unwinding S c') E :=
  guides_move fun c' hc' => by
    subst hc'
    exact ⟨rfl,h.step hm hp hr hs⟩

theorem guides_seekNext (h : Seeking c₀ unwinding S c) (hm : Move c (g c))
    (hp : (g c).pending = c.pending) (hr : (g c).state = c.state) (hs : S <:+ (g c).stack) :
    Guides (fun c' => c' = c) (do move g; pure (.inl ()) : RT World (Unit ⊕ NextStep))
      (Sought c₀ unwinding S) E :=
  .bind (guides_seek h hm hp hr hs) fun _ => guides_pure fun _ h => h.2

theorem guides_proposeAbove (host : Host World)
    (hS : Floor unwinding S) (h : Seeking c₀ unwinding S c) (hst : c.stack = .adaptive frame :: below)
    (hsuf : S <:+ below) :
    Guides (fun c' => c' = c) (proposeAbove host frame below) (Sought c₀ unwinding S)
      (Via c₀ Live) := by
  have hlive : ∀ c', c' = c → Via c₀ Live c' := by
    intro c' hc'
    subst hc'
    exact ⟨h.moves,h.live⟩
  refine .bind (guides_withVars _ hlive) fun stop => ?_
  refine .ite (fun _ => ?_) fun _ => ?_
  · exact guides_seekNext h (.drop hst rfl) rfl rfl hsuf
  · refine .bind (guides_onData _ hlive) fun proposal => ?_
    refine .bind (guides_seek h (.setProposal hst) rfl rfl
      (hsuf.trans (suffix_cons _ _))) fun _ => ?_
    refine .bind (guides_onData _ fun c' hc' => ⟨hc'.2.moves,hc'.2.live⟩) fun _ => ?_
    refine .bind (guides_move (Q := Seeking c₀ unwinding S) ?_) fun _ =>
      guides_pure fun _ h => h
    intro c' hc'
    obtain ⟨rfl,hc'⟩ := hc'
    refine hc'.step (.enterBody rfl (hc'.hasUnwindBody hS)) rfl rfl ?_
    exact (hsuf.trans (suffix_cons _ _)).trans (suffix_cons _ _)

variable (step : Step)

@[simp] theorem takeStep_pending (rest : List Step)
    (below : List Frame) (c : Ctl) : (c.takeStep f step rest below).pending = c.pending := by
  unfold Ctl.takeStep
  dsimp only
  split
  · split <;> rfl
  · rfl

@[simp] theorem takeStep_state (rest : List Step)
    (below : List Frame) (c : Ctl) : (c.takeStep f step rest below).state = c.state := by
  unfold Ctl.takeStep
  dsimp only
  split
  · split <;> rfl
  · rfl

@[simp] theorem takeStep_stack (rest : List Step) (below : List Frame) (c : Ctl) :
    (c.takeStep f step rest below).stack = .steps { f with rest := rest } :: below := by
  unfold Ctl.takeStep
  dsimp only
  split
  · split <;> rfl
  · rfl

variable (F : List Step)

variable (owner : Nat)

@[simp] theorem finalize_pending (below : List Frame) (c : Ctl) :
    (c.finalize F owner below).pending = c.pending := by
  unfold Ctl.finalize
  dsimp only
  split <;> rfl

@[simp] theorem finalize_state (below : List Frame) (c : Ctl) :
    (c.finalize F owner below).state = c.state := by
  unfold Ctl.finalize
  dsimp only
  split <;> rfl

theorem suffix_finalize_stack (below : List Frame) (c : Ctl) :
    below <:+ (c.finalize F owner below).stack := by
  unfold Ctl.finalize
  dsimp only
  split
  · exact suffix_cons _ _
  · exact (suffix_cons _ _).trans (suffix_cons _ _)

theorem guides_turnAbove (host : Host World) {top : Frame}
    (hS : Floor unwinding S) (h : Seeking c₀ unwinding S c) (hst : c.stack = top :: below)
    (hsuf : S <:+ below) :
    Guides (fun c' => c' = c) (turnAbove host top below) (Sought c₀ unwinding S) (Via c₀ Live) := by
  unfold turnAbove
  cases top with
  | steps f =>
    dsimp only
    cases hrest : f.rest with
    | nil =>
      cases hexit : f.onExit with
      | none =>
        refine guides_seekNext h ?_ rfl rfl hsuf
        have := Move.leave (c := c) hst (.inl hrest)
        simpa [Ctl.leaveFrame,Ctl.runExit,hexit] using this
      | some exit => exact guides_leaveAbove host exit hS h hst hrest hsuf
    | cons step rest =>
      have hs : S <:+ (c.takeStep f step rest below).stack := by
        rw [takeStep_stack]
        exact hsuf.trans (suffix_cons _ _)
      refine .bind (guides_seek h (.take hst hrest (h.hasUnwindBody hS))
        (takeStep_pending f step rest below c) (takeStep_state f step rest below c) hs) fun _ => ?_
      refine .ite (fun _ => guides_pure fun _ h => h.2) fun _ => ?_
      exact guides_pure fun _ h => ⟨h.2.moves,h.2.executing hS⟩
  | for_ bind records index body =>
    cases records with
    | nil => exact guides_seekNext h (.drop hst rfl) rfl rfl hsuf
    | cons record records =>
      refine .bind (guides_seek h (.advance hst rfl rfl) rfl rfl
        (hsuf.trans (suffix_cons _ _))) fun _ => ?_
      refine .bind (guides_onData _ fun c' hc' => ⟨hc'.2.moves,hc'.2.live⟩) fun _ => ?_
      refine .bind (guides_move (Q := Seeking c₀ unwinding S) ?_) fun _ =>
        guides_pure fun _ h => h
      intro c' hc'
      obtain ⟨rfl,hc'⟩ := hc'
      refine hc'.step (.turn rfl rfl rfl) rfl rfl ?_
      exact (hsuf.trans (suffix_cons _ _)).trans (suffix_cons _ _)
  | repeat_ remaining body =>
    refine .ite (fun _ => guides_seekNext h (.drop hst rfl) rfl rfl hsuf) fun _ => ?_
    refine guides_seekNext h (.turn hst rfl rfl) rfl rfl ?_
    exact (hsuf.trans (suffix_cons _ _)).trans (suffix_cons _ _)
  | try_ F finalizing owner =>
    cases finalizing with
    | true => exact guides_seekNext h (.drop hst rfl) rfl rfl hsuf
    | false =>
      exact guides_seekNext h (.finalize hst) (finalize_pending F owner below c)
        (finalize_state F owner below c) (hsuf.trans (suffix_finalize_stack F owner below c))
  | while_ condition body =>
    refine .bind (guides_withVars _ ?_) fun ok => ?_
    · intro c' hc'
      subst hc'
      exact ⟨h.moves,h.live⟩
    · refine .ite (fun _ => ?_) fun _ => ?_
      · refine guides_seekNext h (.turn hst rfl rfl) rfl rfl ?_
        exact (hsuf.trans (suffix_cons _ _)).trans (suffix_cons _ _)
      · exact guides_seekNext h (.drop hst rfl) rfl rfl hsuf
  | adaptive frame =>
    refine .ite (fun _ => ?_) fun _ => guides_proposeAbove host hS h hst hsuf
    refine guides_pure ?_
    intro c' hc'
    subst hc'
    exact h.moves

theorem guides_nextStepAbove (host : Host World) (hS : Floor unwinding S) :
    Guides (Seeking c₀ unwinding S) (nextStepAbove host S.length)
      (fun r => Sought c₀ unwinding S (.inr r)) (Via c₀ Live) := by
  refine .iterate (I := fun _ => On (Seeking c₀ unwinding S)) fun _ => ?_
  refine .conseq (Q := fun r => On (Sought c₀ unwinding S r)) (E := fun _ => On (Via c₀ Live))
    (P := On (Seeking c₀ unwinding S)) ?_ (fun _ h => h) ?_ (fun _ _ h => h)
  · refine guides_read fun c hc => ?_
    refine .ite (fun hlen => ?_) fun hlen => ?_
    · refine guides_pure ?_
      intro c' hc'
      subst hc'
      have heq := hc.above.eq_of_length_le hlen
      exact ⟨hc.moves,hc.pending,hc.above,fun _ => heq.symm⟩
    · cases hst : c.stack with
      | nil => simp [hst] at hlen
      | cons top below =>
        refine guides_turnAbove host hS hc hst ?_
        have habove := hc.above
        rw [hst] at habove hlen
        rcases suffix_cons_iff.1 habove with heq | hsuf
        · simp [heq] at hlen
        · exact hsuf
  · intro r s hr
    cases r with
    | inl u => exact hr
    | inr r => exact hr

def Unwinding (c₀ : Ctl) : Ctl → Prop := Via c₀ fun c => c.pending.isSome = true

def Found (c₀ : Ctl) : Unit ⊕ NextStep → Ctl → Prop
  | .inl (),c => Unwinding c₀ c
  | .inr (.step _),c => Moves c₀ c ∧ c.Executing
  | .inr .notReady,c => Moves c₀ c
  | .inr .none_,c => Unwinding c₀ c ∧ c.stack = []

theorem guides_leaveUnwinding (host : Host World) {f : StepsFrame}
    (h : Unwinding c₀ c) (hst : c.stack = .steps f :: below)
    (hf : f.rest = [] ∨ hasUnwindBody c.stack = false) :
    Guides (fun c' => c' = c) (leaveUnwinding host f below) (fun _ => Unwinding c₀)
      (Via c₀ Live) := by
  refine .bind (guides_move (Q := Unwinding c₀) ?_) fun _ => ?_
  · intro c' hc'
    subst hc'
    refine ⟨h.1.tail (.leave hst (hf.imp_right fun hu => ⟨h.2,hu⟩)),?_⟩
    simpa only [leaveFrame_pending] using h.2
  · cases f.onExit with
    | none => exact guides_pure fun _ h => h
    | some exit =>
      refine .bind (Q := fun _ => On (Unwinding c₀)) ?_ fun _ => guides_change _
      refine guides_conseq (@guides_afterExit _ c₀ true [] host exit fun _ => nil_suffix) ?_ ?_
        fun _ h => h
      · intro c' hc'
        exact ⟨hc'.1,hc'.2,nil_suffix,.inl (.inl hc'.2)⟩
      · intro _ c' hc'
        exact ⟨hc'.1,hc'.2.1⟩

theorem guides_unwind (h : Unwinding c₀ c) (hm : Move c (g c)) (hp : (g c).pending = c.pending) :
    Guides (fun c' => c' = c) (do move g; pure (.inl ()) : RT World (Unit ⊕ NextStep))
      (Found c₀) E := by
  refine .bind (guides_move (Q := Unwinding c₀) ?_) fun _ => guides_pure fun _ h => h
  intro c' hc'
  subst hc'
  refine ⟨h.1.tail hm,?_⟩
  simpa only [hp] using h.2

theorem guides_turnUnwinding (host : Host World) {top : Frame}
    (h : Unwinding c₀ c) (hst : c.stack = top :: below)
    (htop : isUnwindBody top = true ∨ hasUnwindBody c.stack = false) :
    Guides (fun c' => c' = c) (turnUnwinding host top below) (Found c₀) (Via c₀ Live) := by
  unfold turnUnwinding
  cases top with
  | steps f =>
    dsimp only
    refine .ite (fun hrun => ?_) fun hrun => ?_
    · have hbody : hasUnwindBody c.stack = true := by
        simp [hasUnwindBody,hst,isUnwindBody,hrun]
      cases hrest : f.rest with
      | nil =>
        refine .bind (guides_leaveUnwinding host h hst (.inl hrest)) fun _ => ?_
        exact guides_pure fun _ h => h
      | cons step rest =>
        refine .bind (guides_move
          (Q := fun c' => Moves c₀ c' ∧ c'.pending.isSome = true ∧ hasUnwindBody c'.stack = true)
          ?_) fun _ => ?_
        · intro c' hc'
          subst hc'
          refine ⟨h.1.tail (.take hst hrest fun _ => hbody),?_,?_⟩
          · rw [takeStep_pending]
            exact h.2
          · rw [takeStep_stack]
            simp [hasUnwindBody,isUnwindBody,hrun]
        · refine .ite (fun _ => ?_) fun _ => ?_
          · exact guides_pure fun _ h => ⟨h.1,h.2.1⟩
          · exact guides_pure fun _ h => ⟨h.1,.inr h.2.1,fun _ => h.2.2⟩
    · have hnone : hasUnwindBody c.stack = false := by
        rcases htop with htop | htop
        · exact absurd htop hrun
        · exact htop
      refine .bind (guides_leaveUnwinding host h hst (.inr hnone)) fun _ => ?_
      exact guides_pure fun _ h => h
  | try_ F finalizing owner =>
    cases finalizing with
    | true => exact guides_unwind h (.drop hst rfl) rfl
    | false => exact guides_unwind h (.finalize hst) (finalize_pending F owner below c)
  | for_ bind records index body => exact guides_unwind h (.drop hst rfl) rfl
  | repeat_ remaining body => exact guides_unwind h (.drop hst rfl) rfl
  | while_ condition body => exact guides_unwind h (.drop hst rfl) rfl
  | adaptive frame => exact guides_unwind h (.drop hst rfl) rfl

theorem innermostUnwindBody_eq_none (h : c.innermostUnwindBody = none) :
    hasUnwindBody c.stack = false := by
  simp only [innermostUnwindBody,Option.map_eq_none_iff,findIdx?_eq_none_iff] at h
  simp only [hasUnwindBody,any_eq_false]
  intro f hf
  simp [h f hf]

theorem innermostUnwindBody_eq_some {floor : Nat} (h : c.innermostUnwindBody = some floor) :
    ∃ above f below, c.stack = above ++ .steps f :: below ∧ f.runDuringUnwind = true ∧
      floor = below.length := by
  simp only [innermostUnwindBody,Option.map_eq_some_iff,findIdx?_eq_some_iff_getElem] at h
  obtain ⟨i,⟨hi,hbody,_⟩,rfl⟩ := h
  cases hf : c.stack[i] with
  | steps f =>
    rw [hf] at hbody
    refine ⟨c.stack.take i,f,c.stack.drop (i+1),?_,hbody,?_⟩
    · rw [← hf,getElem_cons_drop,take_append_drop]
    · rw [length_drop]
      omega
  | for_ _ _ _ _ | repeat_ _ _ | try_ _ _ _ | while_ _ _ | adaptive _ =>
    rw [hf] at hbody
    cases hbody

theorem guides_turnTerminalUnwind (host : Host World) :
    Guides (Unwinding c₀) (turnTerminalUnwind host) (Found c₀) (Via c₀ Live) := by
  refine guides_read fun c hc => ?_
  cases hst : c.stack with
  | nil =>
    refine guides_pure ?_
    intro c' hc'
    subst hc'
    exact ⟨hc,hst⟩
  | cons top below =>
    dsimp only
    cases hin : c.innermostUnwindBody with
    | none =>
      exact guides_turnUnwinding host hc hst (.inr (innermostUnwindBody_eq_none hin))
    | some floor =>
      obtain ⟨above,f,rest,hsplit,hf,hfloor⟩ := innermostUnwindBody_eq_some hin
      refine .ite (fun hlt => ?_) fun hlt => ?_
      · have hlen : floor+1 = (Frame.steps f :: rest).length := by simp [hfloor]
        rw [hlen]
        refine .bind (Q := fun r => On (Sought c₀ true (.steps f :: rest) (.inr r)))
          (guides_pre (guides_nextStepAbove host ⟨f,rest,rfl,hf⟩) ?_) fun r => ?_
        · intro c' hc'
          subst hc'
          exact ⟨hc.1,hc.2,⟨above,hsplit.symm⟩,fun h => nomatch h⟩
        · cases r with
          | step step => exact guides_pure fun _ h => h
          | notReady => exact guides_pure fun _ h => h
          | none_ => exact guides_pure fun _ h => ⟨h.1,h.2.1⟩
      · refine guides_turnUnwinding host hc hst (.inl ?_)
        rw [hst] at hsplit
        cases above with
        | nil =>
          obtain ⟨rfl,rfl⟩ := List.cons.inj hsplit
          exact hf
        | cons a above =>
          have := congrArg List.length hsplit
          simp at this
          omega

theorem guides_nextTerminalUnwindStep (host : Host World) :
    Guides (Unwinding c₀) (nextTerminalUnwindStep host) (fun r => Found c₀ (.inr r))
      (Via c₀ Live) := by
  refine .iterate (I := fun _ => On (Unwinding c₀)) fun _ => ?_
  refine Triple.post (guides_turnTerminalUnwind host) ?_
  intro r s hr
  cases r with
  | inl u => exact hr
  | inr r => exact hr

/-- What `_next_step` answers. -/
def Answer (c₀ : Ctl) : NextStep → Ctl → Prop
  | .step _,c => Moves c₀ c ∧ c.Executing
  | .notReady,c => Moves c₀ c
  | .none_,c => Moves c₀ c ∧ (c.pending.isSome = true ∨ c.state = .running → c.stack = [])

theorem guides_nextStep (host : Host World) :
    Guides (Via c₀ fun c => c.state = .running) (nextStep host) (Answer c₀) (Via c₀ Live) := by
  refine guides_read fun c hc => ?_
  refine .ite (fun hp => ?_) fun hp => ?_
  · refine guides_conseq (@guides_nextTerminalUnwindStep World c₀ host) ?_ ?_ fun _ h => h
    · intro c' hc'
      subst hc'
      exact ⟨hc.1,hp⟩
    · intro r c' hr
      cases r with
      | step step => exact hr
      | notReady => exact hr
      | none_ => exact ⟨hr.1.1,fun _ => hr.2⟩
  · refine guides_conseq (@guides_nextStepAbove World c₀ false [] host rfl)
      ?_ ?_ fun _ h => h
    · intro c' hc'
      subst hc'
      exact ⟨hc.1,by simpa using hp,nil_suffix,fun _ => hc.2⟩
    · intro r c' hr
      cases r with
      | step step => exact hr
      | notReady => exact hr
      | none_ =>
        obtain ⟨hm,hpend,_,hempty⟩ := hr
        refine ⟨hm,fun h => ?_⟩
        rcases h with h | h
        · simp [hpend] at h
        · exact hempty h

end ExperimentControl.Sequencer

import ExperimentControl.Sequencer.Waiting
import ExperimentControl.Sequencer.History

/-!
What a tick makes of a property of the control state that no change of the frames
touches: it holds at the head of the loop, and what it comes to when the run pauses or
ends holds after the tick, unless a failed trial has cut the run off.
-/

namespace ExperimentControl.Sequencer
open Lib Python Ctl Prog List

variable {World α β : Type}

def Aborted (c : Ctl) : Prop := .trialAborted true ∈ c.history

def Occupied (c : Ctl) : Prop := c.pending.isSome = true → c.stack ≠ []

/-- Neither the state nor what is to end the run differs. -/
structure Quiet (c c' : Ctl) : Prop where
  state : c'.state = c.state
  pending : c'.pending = c.pending
  lastError : c'.lastError = c.lastError

/-- `I` stands while the run is on, `J` when it has paused or ended. -/
structure Guarded (I J : Ctl → Prop) : Prop where
  quiet : ∀ {c c'}, I c → Quiet c c' → I c'
  ended : ∀ {c c'}, J c → Quiet c c' → J c'
  leave : ∀ {c}, I c → J c
  note : ∀ {c} message, I c → c.pending.isSome = true → I (c.noteCleanupFailure message)
  unwind : ∀ {c} message, I c → c.pending = none → I (c.beginUnwind .error (some message))
  unwindStop : ∀ {c}, I c → c.pending = none → I (c.beginUnwind .stopped none)
  pause : ∀ {c}, I c → c.state = .running → J { c with state := .paused }
  stop : ∀ {c}, I c → c.pending = none → J c.stop
  error : ∀ {c} message, I c → c.pending = none → J (c.setError message)
  finish : ∀ {c}, I c → c.pending.isSome = true → J c.finishPending
  abort : ∀ {c} message, I c → c.pending = none → J (c.abortTrial message)

def Both (K : Ctl → Prop) (F : Data World → Prop) (s : RtState World) : Prop :=
  K s.ctl ∧ F s.data

section
variable {K L : Ctl → Prop} {F H : Data World → Prop} {E : PyExc → RtState World → Prop}
variable {Q : α → RtState World → Prop}

theorem both_move {f : Ctl → Ctl} (h : ∀ c, K c → L (f c)) :
    Triple (Both K F) (move f : RT World Unit) (fun _ => Both L F) E :=
  .modify fun _ hs => ⟨h _ hs.1,hs.2⟩

theorem both_change {f : Data World → Data World} (h : ∀ d, F d → H (f d)) :
    Triple (Both K F) (change f) (fun _ => Both K H) E :=
  .modify fun _ hs => ⟨hs.1,h _ hs.2⟩

theorem both_onData {x : D World α} {G : α → Data World → Prop} {M : PyExc → Data World → Prop}
    (hx : Triple F x G M) :
    Triple (Both K F) (onData x) (fun a => Both K (G a)) (fun e => Both K (M e)) := by
  intro n s hs
  have h := hx n s.data hs.2
  simp only [onData,zoom]
  cases hr : x.run n s.data with
  | ok a d => rw [hr] at h; exact ⟨hs.1,h⟩
  | raised e d => rw [hr] at h; exact ⟨hs.1,h⟩
  | diverged => trivial

theorem both_withVars {x : Env → D World α} {G : α → Data World → Prop}
    {M : PyExc → Data World → Prop} (hx : ∀ vars, Triple F (x vars) G M) :
    Triple (Both K F) (withVars x) (fun a => Both K (G a)) (fun e => Both K (M e)) := by
  refine .bind (Q := fun _ => Both K F) ?_ fun c => both_onData (hx c.vars)
  intro n s hs
  exact hs

theorem both_read {x : Ctl → RT World α}
    (h : ∀ c, K c → Triple (Both (fun c' => c' = c) F) (x c) Q E) :
    Triple (Both K F) (getCtl >>= x) Q E := by
  intro n s hs
  exact h s.ctl hs.1 n s ⟨rfl,hs.2⟩

theorem both_readData {x : Data World → RT World α}
    (h : ∀ d, F d → Triple (Both K (fun d' => d' = d)) (x d) Q E) :
    Triple (Both K F) (getData >>= x) Q E := by
  intro n s hs
  exact h s.data hs.2 n s ⟨hs.1,rfl⟩

theorem both_now (host : Host World) (hF : ∀ d w, F d → F { d with world := w }) :
    Triple (Both K F) (onData (now host)) (fun _ => Both K F) E := by
  intro n s hs
  exact ⟨hs.1,hF _ _ hs.2⟩

theorem both_isInterruptible :
    Triple (Both K F) (isInterruptible : RT World Bool) (fun _ => Both K F) E := by
  intro n s hs
  exact hs

theorem both_pure {a : α} (h : ∀ c d, K c → F d → Q a ⟨c,d⟩) :
    Triple (Both K F) (pure a : RT World α) Q E :=
  .pure fun s hs => h s.ctl s.data hs.1 hs.2

theorem both_pre {x : RT World α} (h : Triple (Both L H) x Q E) (hK : ∀ c, K c → L c)
    (hF : ∀ d, F d → H d) : Triple (Both K F) x Q E :=
  h.pre fun _ hs => ⟨hK _ hs.1,hF _ hs.2⟩

end

def Going (I : Ctl → Prop) (c : Ctl) : Prop := I c ∧ c.state = .running ∧ Occupied c

def Over (J : Ctl → Prop) (c : Ctl) : Prop := J c ∧ c.state ≠ .running ∧ c.pending = none

def Standing (I J : Ctl → Prop) (c : Ctl) : Prop := Going I c ∨ Over J c

def Rest (J : Ctl → Prop) (c : Ctl) : Prop := J c ∧ Occupied c

theorem occupied_of_none {c : Ctl} (h : c.pending = none) : Occupied c := by
  intro hp
  simp [h] at hp

variable {I J : Ctl → Prop} {F : Data World → Prop} {E : PyExc → RtState World → Prop}

theorem Going.quiet (w : Guarded I J) {c c' : Ctl} (h : Going I c) (hq : Quiet c c')
    (hs : c'.stack = c.stack) : Going I c' := by
  refine ⟨w.quiet h.1 hq,hq.state.trans h.2.1,?_⟩
  unfold Occupied
  rw [hq.pending,hs]
  exact h.2.2

theorem Going.rest (w : Guarded I J) {c : Ctl} (h : Going I c) : Rest J c := ⟨w.leave h.1,h.2.2⟩

theorem Standing.quiet (w : Guarded I J) {c c' : Ctl} (h : Standing I J c) (hq : Quiet c c')
    (hs : c'.stack = c.stack) : Standing I J c' := by
  refine h.imp (fun h => h.quiet w hq hs) fun h => ⟨w.ended h.1 hq,?_,hq.pending.trans h.2.2⟩
  rw [hq.state]
  exact h.2.1

theorem Standing.rest (w : Guarded I J) {c : Ctl} (h : Standing I J c) : Rest J c := by
  rcases h with h | h
  · exact h.rest w
  · exact ⟨h.1,occupied_of_none h.2.2⟩

/-- A property of the data that holds of free data, and that forgetting a context change keeps. -/
structure Tidy (host : Host World) (F : Data World → Prop) : Prop where
  free : ∀ d, Free d → F d
  clear : ∀ d, F d → F (clearSetContext host d)

variable (host : Host World)

theorem tidy_only (job : Job) : Tidy host (Only job) :=
  ⟨fun _ h => h.only job,fun d h => h.change fun other _ => clearSetContext_idle d other⟩

theorem rest_beginTerminalUnwind {state : RunState} {error : Option String}
    (hI : ∀ {c}, I c → c.pending = none → I (c.beginUnwind state error)) (hF : ∀ d, Free d → F d) :
    Triple (Both (Rest I) F) (beginTerminalUnwind host state error)
      (fun begun => Both (fun c => Rest I c ∧ c.pending.isSome = begun) F) E := by
  refine both_read fun c hc => ?_
  refine .ite (fun hp => ?_) fun hp => ?_
  · refine both_pure fun c' d hc' hd => ?_
    subst hc'
    have hstack := hc.2 hp
    refine ⟨⟨hc,?_⟩,hd⟩
    simpa [hp] using hstack
  have hnone : c.pending = none := by simpa using hp
  refine .ite (fun _ => ?_) fun hw => ?_
  · exact both_pure fun c' d hc' hd => ⟨hc' ▸ ⟨hc,by simp [hnone]⟩,hd⟩
  refine .bind (both_move (L := fun c => Rest I c ∧ c.pending.isSome = true)
    fun c' hc' => ?_) fun _ => ?_
  · subst hc'
    refine ⟨⟨hI hc.1 hnone,fun _ hs => ?_⟩,rfl⟩
    simp only [Bool.not_eq_true',Bool.not_eq_false] at hw
    have hstack : c'.stack = [] := hs
    simp [hasTerminalUnwindWork,hstack] at hw
  · refine .bind (both_change fun d _ => hF _ (free_clearWaits d)) fun _ => ?_
    exact both_pure fun c d h hd => ⟨h,hd⟩

theorem both_beginTerminalUnwind {state : RunState} {error : Option String}
    (hI : ∀ {c}, I c → c.pending = none → I (c.beginUnwind state error)) (hF : ∀ d, Free d → F d) :
    Triple (Both (Going I) F) (beginTerminalUnwind host state error)
      (fun begun => Both (fun c => Going I c ∧ c.pending.isSome = begun) F) E := by
  refine (rest_beginTerminalUnwind (I := fun c => I c ∧ c.state = .running) host
    (fun h hp => ⟨hI h.1 hp,h.2⟩) hF).conseq ?_ ?_ fun _ _ h => h
  · exact fun s hs => ⟨⟨⟨hs.1.1,hs.1.2.1⟩,hs.1.2.2⟩,hs.2⟩
  · exact fun _ s hs => ⟨⟨⟨hs.1.1.1.1,hs.1.1.1.2,hs.1.1.2⟩,hs.1.2⟩,hs.2⟩

theorem both_failStep (w : Guarded I J) (host : Host World) (message : String)
    (hF : ∀ d, Free d → F d) : Triple (Both (Going I) F) (failStep host message)
      (fun blocked s => blocked = true ∧ Both (Standing I J) F s) E := by
  refine both_read fun c hc => ?_
  refine .ite (fun hp => ?_) fun hp => ?_
  · refine .bind (both_move (L := Going I) fun c' hc' => ?_) fun _ => ?_
    · subst hc'
      exact ⟨w.note message hc.1 hp,hc.2.1,fun _ => hc.2.2 hp⟩
    · exact .pure fun _ h => ⟨rfl,.inl h.1,h.2⟩
  · refine .bind (both_pre (both_beginTerminalUnwind host (w.unwind message) hF)
      (fun c' hc' => hc' ▸ hc) fun _ h => h) fun begun => ?_
    refine .ite (fun _ => ?_) fun hbegun => ?_
    · exact .pure fun _ h => ⟨rfl,.inl h.1.1,h.2⟩
    · refine .bind (both_move (L := Over J) fun c' hc' => ?_) fun _ => ?_
      · have hnone : c'.pending = none := by simpa [hbegun] using hc'.2
        exact ⟨w.error message hc'.1.1 hnone,by simp [setError],hnone⟩
      · exact .pure fun _ h => ⟨rfl,.inr h.1,h.2⟩

theorem both_checkStopPause (w : Guarded I J) (host : Host World) (hF : Tidy host F) :
    Triple (Both (Going I) F) (checkStopPause host)
      (fun stopped => Both (if stopped then Rest J else Going I) F) E := by
  refine both_read fun c hc => ?_
  refine .bind both_isInterruptible fun free => ?_
  refine .ite (fun _ => ?_) fun _ => ?_
  · refine .bind (both_move (L := Going I) fun c' hc' => ?_) fun _ => ?_
    · subst hc'
      exact hc.quiet w ⟨rfl,rfl,rfl⟩ rfl
    · refine .bind (both_beginTerminalUnwind host w.unwindStop hF.free) fun begun => ?_
      refine .ite (fun _ => ?_) fun hbegun => ?_
      · exact both_pure fun c d h hd => ⟨h.1.rest w,hd⟩
      · refine .bind (both_change hF.clear) fun _ => ?_
        refine .bind (both_move (L := Rest J) fun c' hc' => ?_) fun _ =>
          both_pure fun c d h hd => ⟨h,hd⟩
        have hnone : c'.pending = none := by simpa [hbegun] using hc'.2
        exact ⟨w.stop (w.quiet hc'.1.1 ⟨rfl,rfl,rfl⟩) hnone,occupied_of_none hnone⟩
  · refine .ite (fun _ => ?_) fun _ => ?_
    · refine .bind (both_move (L := Rest J) fun c' hc' => ?_) fun _ =>
        both_pure fun c d h hd => ⟨h,hd⟩
      subst hc'
      exact ⟨w.pause hc.1 hc.2.1,hc.2.2⟩
    · refine both_pure fun c' d hc' hd => ?_
      subst hc'
      exact ⟨hc,hd⟩

/-- The run goes on, with or without an unwind, over this many frames at least. -/
structure Seek (I : Ctl → Prop) (unwinding : Bool) (base : Nat) (c : Ctl) : Prop where
  inv : I c
  running : c.state = .running
  pending : c.pending.isSome = unwinding
  above : base ≤ c.stack.length

structure CutOff (c : Ctl) : Prop where
  aborted : Aborted c
  ended : c.state ≠ .running
  pending : c.pending.isSome = true

def Tried (I J : Ctl → Prop) (unwinding : Bool) (base : Nat) (c : Ctl) : Prop :=
  Seek I unwinding base c ∨ unwinding = false ∧ Over J c ∨ CutOff c

variable {unwinding : Bool} {base : Nat} {c c' : Ctl}

theorem Seek.step (w : Guarded I J) {base' : Nat} (h : Seek I unwinding base c) (hq : Quiet c c')
    (habove : base' ≤ c'.stack.length) : Seek I unwinding base' c' :=
  ⟨w.quiet h.inv hq,hq.state.trans h.running,by rw [hq.pending]; exact h.pending,habove⟩

theorem Seek.lower {base' : Nat} (h : Seek I unwinding base c) (hle : base' ≤ base) :
    Seek I unwinding base' c :=
  ⟨h.inv,h.running,h.pending,Nat.le_trans hle h.above⟩

theorem Seek.going (h : Seek I unwinding base c) (hbase : unwinding = true → c.stack ≠ []) :
    Going I c :=
  ⟨h.inv,h.running,fun hp => hbase (h.pending.symm.trans hp)⟩

theorem Going.seek (h : Going I c) : Seek I c.pending.isSome c.stack.length c :=
  ⟨h.1,h.2.1,rfl,Nat.le_refl _⟩

theorem length_endedStack (frame : AdaptiveFrame) (stack : List Frame) :
    (endedStack frame stack).length = stack.length := by
  rcases endedStack_cases frame stack with h | ⟨live,frame',below,hs,_,h⟩
  · rw [h]
  · rw [h,hs]
    rfl

theorem abortTrial_quits (w : Guarded I J) (message : String) (h : Seek I unwinding base c) :
    unwinding = false ∧ Over J (c.abortTrial message) ∨ CutOff (c.abortTrial message) := by
  have hstate : (c.abortTrial message).state ≠ .running := by
    unfold Ctl.abortTrial
    dsimp only
    split <;> simp [log]
  cases hp : c.pending with
  | none =>
    refine .inl ⟨?_,w.abort message h.inv hp,hstate,?_⟩
    · simpa [hp] using h.pending.symm
    · rw [abortTrial_pending,hp]
  | some p =>
    refine .inr ⟨?_,hstate,?_⟩
    · unfold Aborted
      rw [abortTrial_history]
      simp [abortEvents,hp]
    · rw [abortTrial_pending,hp]
      rfl

theorem both_finalizeAdaptiveTrial (w : Guarded I J) (host : Host World) (frame : AdaptiveFrame)
    (owner : Option Nat) (proposal : Proposal) (trial : Trial)
    (hF : ∀ {β : Type} {x : D World β}, Still x → Keeps F x) :
    Triple (Both (Seek I unwinding base) F) (finalizeAdaptiveTrial host frame owner proposal trial)
      (fun _ => Both (Tried I J unwinding base) F) (fun _ => Both (Seek I unwinding base) F) := by
  refine .bind (both_onData (hF (steady_finalizeTrial _ _ _).still)) fun r => ?_
  obtain ⟨frame',told⟩ := r
  refine .bind (both_move (L := Seek I unwinding base) fun c hc => ?_) fun _ => ?_
  · refine hc.step w ⟨rfl,rfl,rfl⟩ ?_
    simp only [endTrial,length_endedStack]
    exact hc.above
  · cases told with
    | error e => exact .raise fun _ h => h
    | ok u =>
      refine .ite (fun _ => ?_) fun _ => both_pure fun c d hc hd => ⟨.inl hc,hd⟩
      exact both_move fun c hc => .inr (abortTrial_quits w _ hc)

theorem both_afterAdaptiveBody (w : Guarded I J) (host : Host World) (frame : AdaptiveFrame) :
    Triple (Both (Seek I unwinding base) (Only .observation)) (afterAdaptiveBody host frame)
      (fun _ => Both (Tried I J unwinding base) (Only .observation))
      (fun _ => Both (Seek I unwinding base) (Only .observation)) := by
  have hstill : ∀ {β : Type} {x : D World β}, Still x → Keeps (Only .observation) x :=
    fun h => h.only _
  unfold afterAdaptiveBody
  split
  · exact both_pure fun c d hc hd => ⟨.inl hc,hd⟩
  · refine .ite (fun _ => ?_) fun _ => ?_
    · refine .bind (both_move (L := Seek I unwinding base) fun c hc => ?_) fun _ => ?_
      · exact hc.step w ⟨rfl,rfl,rfl⟩ hc.above
      refine .bind (both_withVars fun vars => only_startAdaptiveObservation _ _)
        fun failed => ?_
      cases failed with
      | none => exact both_pure fun c d hc hd => ⟨.inl hc,hd⟩
      | some trial => exact both_finalizeAdaptiveTrial w host frame _ _ trial hstill
    · refine .bind (both_withVars fun vars =>
        (still_collectAdaptiveTrial _ _).only .observation) fun trial => ?_
      exact both_finalizeAdaptiveTrial w host frame _ _ trial hstill

theorem both_afterExit (w : Guarded I J) (host : Host World) (exit : OnExit) :
    Triple (Both (Seek I unwinding base) (Only .observation)) (afterExit host exit)
      (fun _ => Both (Tried I J unwinding base) (Only .observation))
      (fun _ => Both (fun c => Seek I unwinding base c ∧ c.stack ≠ []) (Only .observation)) := by
  cases exit with
  | atomic | restoreVars previous merged name => exact both_pure fun c d hc hd => ⟨.inl hc,hd⟩
  | adaptiveBody =>
    refine both_read fun c hc => ?_
    split
    · rename_i frame below hstack
      have hlen : base ≤ c.stack.length := hc.above
      refine (both_pre (@both_afterAdaptiveBody World I J unwinding c.stack.length w host frame)
        (fun c' hc' => by rw [hc']; exact ⟨hc.inv,hc.running,hc.pending,Nat.le_refl _⟩)
        fun _ h => h).conseq (fun _ h => h) ?_ ?_
      · exact fun _ s hs => ⟨hs.1.imp_left fun h => h.lower hlen,hs.2⟩
      · refine fun _ s hs => ⟨⟨hs.1.lower hlen,fun hempty => ?_⟩,hs.2⟩
        have := hs.1.above
        rw [hempty,hstack] at this
        simp at this
    · exact both_pure fun c' d hc' hd => ⟨.inl (hc' ▸ hc),hd⟩

def Turned (I J : Ctl → Prop) (unwinding : Bool) (base : Nat) :
    Unit ⊕ NextStep → RtState World → Prop
  | .inl (),s => Both (Seek I unwinding base) Free s
  | .inr (.step _),s => Both (fun c => Seek I unwinding base c ∧ c.stack ≠ []) Free s
  | .inr .notReady,s => Both (Seek I unwinding base) (Only .observation) s
  | .inr .none_,s =>
    Both (Seek I unwinding base) Free s ∨
      unwinding = false ∧ Both (Over J) (Only .observation) s ∨ CutOff s.ctl

def Thrown (I : Ctl → Prop) (unwinding : Bool) (base : Nat) (_ : PyExc) : RtState World → Prop :=
  Both (fun c => Seek I unwinding base c ∧ c.stack ≠ []) (Only .observation)

theorem both_seekNext (w : Guarded I J) {g : Ctl → Ctl} (h : Seek I unwinding base c)
    (hq : Quiet c (g c)) (habove : base ≤ (g c).stack.length) :
    Triple (Both (fun c' => c' = c) Free) (do move g; pure (.inl ()) : RT World (Unit ⊕ NextStep))
      (Turned I J unwinding base) (Thrown I unwinding base) := by
  refine .bind (both_move (L := Seek I unwinding base) fun c' hc' => ?_) fun _ =>
    both_pure fun c' d hc' hd => ⟨hc',hd⟩
  subst hc'
  exact h.step w hq habove

theorem quiet_leaveFrame (f : StepsFrame) (below : List Frame) (c : Ctl) :
    Quiet c (c.leaveFrame f below) := by
  refine ⟨leaveFrame_state f below c,leaveFrame_pending f below c,?_⟩
  unfold Ctl.leaveFrame Ctl.runExit
  split <;> rfl

theorem quiet_takeStep (f : StepsFrame) (step : Step) (rest : List Step) (below : List Frame)
    (c : Ctl) : Quiet c (c.takeStep f step rest below) := by
  refine ⟨takeStep_state f step rest below c,takeStep_pending f step rest below c,?_⟩
  unfold Ctl.takeStep
  dsimp only
  split
  · split <;> rfl
  · rfl

theorem quiet_finalize (F : List Step) (owner : Nat) (below : List Frame) (c : Ctl) :
    Quiet c (c.finalize F owner below) := by
  refine ⟨finalize_state F owner below c,finalize_pending F owner below c,?_⟩
  unfold Ctl.finalize
  dsimp only
  split <;> rfl

variable {below : List Frame}

theorem both_leaveAbove (w : Guarded I J) (host : Host World) {f : StepsFrame}
    (exit : OnExit) (h : Seek I unwinding base c) (hbelow : base ≤ below.length) :
    Triple (Both (fun c' => c' = c) Free) (leaveAbove host f below exit)
      (Turned I J unwinding base) (Thrown I unwinding base) := by
  refine both_read fun c' hc' => ?_
  subst hc'
  refine .bind (both_move (L := Seek I unwinding base) fun c hc => ?_) fun _ => ?_
  · subst hc
    exact h.step w (quiet_leaveFrame f below c) (by rw [leaveFrame_stack]; exact hbelow)
  refine .bind (both_pre (both_afterExit w host exit) (fun _ h => h)
    fun _ h => h.only _) fun _ => ?_
  refine both_read fun c₂ hc₂ => both_readData fun d hd => ?_
  refine .ite (fun hstate => ?_) fun hstate => ?_
  · refine both_pure fun c' d' hc' hd' => ?_
    subst hc' hd'
    rcases hc₂ with hgo | hover | hcut
    · exact absurd hgo.running hstate
    · exact .inr (.inl ⟨hover.1,hover.2,hd⟩)
    · exact .inr (.inr hcut)
  · have hseek : Seek I unwinding base c₂ := by
      rcases hc₂ with hgo | hover | hcut
      · exact hgo
      · exact absurd hover.2.2.1 hstate
      · exact absurd hcut.ended hstate
    refine .ite (fun _ => ?_) fun hidle => ?_
    · exact both_pure fun c' d' hc' hd' => ⟨hc' ▸ hseek,hd' ▸ hd⟩
    · refine .ite (fun _ => ?_) fun _ => ?_
      · exact both_pure fun c' d' hc' hd' => ⟨hc' ▸ hseek,hd' ▸ hd⟩
      · refine both_pure fun c' d' hc' hd' => ⟨hc' ▸ hseek,hd' ▸ hd.free ?_⟩
        simpa [Waits.idle,Data.waits] using hidle

variable {top : Frame}

section
variable (h : Seek I unwinding base c)
include h

theorem thrown_of_stack {u : List Frame}
    (hstack : c.stack = top :: u) {d : Data World} (hd : Only .observation d) (e : PyExc) :
    Thrown I unwinding base e ⟨c,d⟩ := ⟨⟨h,by simp [hstack]⟩,hd⟩

theorem both_ask (hstack : c.stack = top :: below) {x : D World α} (hx : Still x) :
    Triple (Both (fun c' => c' = c) Free) (onData x) (fun _ => Both (fun c' => c' = c) Free)
      (Thrown I unwinding base) := by
  refine (both_onData hx.free).conseq (fun _ h => h) (fun _ _ h => h) fun e s hs => ?_
  have hctl : s.ctl = c := hs.1
  have hdata : Free s.data := hs.2
  have hthrown := thrown_of_stack (hctl ▸ h) (hctl ▸ hstack) (hdata.only .observation) e
  exact hthrown

theorem both_askVars
    (hstack : c.stack = top :: below) {x : Env → D World α} (hx : ∀ vars, Still (x vars)) :
    Triple (Both (fun c' => c' = c) Free) (withVars x)
      (fun _ => Both (fun c' => c' = c) Free) (Thrown I unwinding base) :=
  both_read fun c' hc' => by
    subst hc'
    exact both_ask h hstack (hx _)

end

theorem both_proposeAbove (w : Guarded I J) (host : Host World) {frame : AdaptiveFrame}
    (h : Seek I unwinding base c) (hstack : c.stack = .adaptive frame :: below)
    (hbelow : base ≤ below.length) :
    Triple (Both (fun c' => c' = c) Free) (proposeAbove host frame below)
      (Turned I J unwinding base) (Thrown I unwinding base) := by
  refine .bind (both_askVars h hstack fun _ => (steady_adaptiveShouldStop _).still)
    fun stop => ?_
  refine .ite (fun _ => both_seekNext w h ⟨rfl,rfl,rfl⟩ hbelow) fun _ => ?_
  refine .bind (both_ask h hstack (steady_prepareAdaptiveProposal _).still)
    fun proposal => ?_
  have hset : Seek I unwinding base (c.setProposal frame proposal below) :=
    h.step w ⟨rfl,rfl,rfl⟩ (Nat.le_succ_of_le hbelow)
  refine .bind (both_move (L := fun c' => c' = c.setProposal frame proposal below)
    fun c' hc' => by rw [hc']) fun _ => ?_
  refine .bind (both_ask hset rfl (steady_bindAdaptiveProposal _ _).still) fun _ => ?_
  refine both_seekNext w hset ⟨rfl,rfl,rfl⟩ ?_
  exact Nat.le_succ_of_le (Nat.le_succ_of_le hbelow)

theorem both_turnAbove (w : Guarded I J) (host : Host World)
    (h : Seek I unwinding base c) (hstack : c.stack = top :: below) (hbelow : base ≤ below.length) :
    Triple (Both (fun c' => c' = c) Free) (turnAbove host top below)
      (Turned I J unwinding base) (Thrown I unwinding base) := by
  have hdrop : Triple (Both (fun c' => c' = c) Free) (do
      move fun c => { c with stack := below }
      pure (.inl ()) : RT World (Unit ⊕ NextStep)) (Turned I J unwinding base)
      (Thrown I unwinding base) := both_seekNext w h ⟨rfl,rfl,rfl⟩ hbelow
  have hturn : ∀ loop body, Triple (Both (fun c' => c' = c) Free) (do
      move (Ctl.turn loop body below)
      pure (.inl ()) : RT World (Unit ⊕ NextStep)) (Turned I J unwinding base)
      (Thrown I unwinding base) := fun loop body =>
    both_seekNext w h ⟨rfl,rfl,rfl⟩ (Nat.le_succ_of_le (Nat.le_succ_of_le hbelow))
  unfold turnAbove
  cases top with
  | steps f =>
    dsimp only
    cases f.rest with
    | nil =>
      cases f.onExit with
      | none => exact hdrop
      | some exit => exact both_leaveAbove w host exit h hbelow
    | cons step rest =>
      refine .bind (both_move (L := fun c => Seek I unwinding base c ∧ c.stack ≠ [])
        fun c' hc' => ?_) fun _ => ?_
      · subst hc'
        rw [takeStep_stack]
        exact ⟨h.step w (quiet_takeStep f step rest below c')
          (by rw [takeStep_stack]; exact Nat.le_succ_of_le hbelow),by simp⟩
      · refine .ite (fun _ => ?_) fun _ => both_pure fun c' d hc' hd => ⟨hc',hd⟩
        exact both_pure fun c' d hc' hd => ⟨hc'.1,hd⟩
  | for_ bind records index body =>
    cases records with
    | nil => exact hdrop
    | cons record records =>
      have hadvance : Seek I unwinding base
          { c with stack := .for_ bind records (index+1) body :: below } :=
        h.step w ⟨rfl,rfl,rfl⟩ (Nat.le_succ_of_le hbelow)
      refine .bind (both_move (L := fun c' => c' =
        { c with stack := .for_ bind records (index+1) body :: below }) fun c' hc' => by rw [hc'])
        fun _ => ?_
      refine .bind (both_ask hadvance rfl (steady_bindRecord _ _ _).still) fun _ => ?_
      exact both_seekNext w hadvance ⟨rfl,rfl,rfl⟩ (Nat.le_succ_of_le (Nat.le_succ_of_le hbelow))
  | repeat_ remaining body =>
    exact .ite (fun _ => hdrop) fun _ => hturn _ _
  | try_ F finalizing owner =>
    refine .ite (fun _ => hdrop) fun _ => ?_
    refine both_seekNext w h (quiet_finalize F owner below c) (Nat.le_trans hbelow ?_)
    exact (suffix_finalize_stack F owner below c).length_le
  | while_ condition body =>
    refine .bind (both_askVars h hstack fun _ =>
      (steady_evalConditionLive _ _ _).still) fun ok => ?_
    exact .ite (fun _ => hturn _ _) fun _ => hdrop
  | adaptive frame =>
    refine .ite (fun _ => ?_) fun _ => both_proposeAbove w host h hstack hbelow
    exact both_pure fun c' d hc' hd => ⟨hc' ▸ h,hd.only _⟩

theorem both_nextStepAbove (w : Guarded I J) (host : Host World) (base : Nat) :
    Triple (Both (Seek I unwinding base) Free) (nextStepAbove host base)
      (fun r => Turned I J unwinding base (.inr r)) (Thrown I unwinding base) := by
  refine .iterate (I := fun _ => Both (Seek I unwinding base) Free) fun _ => ?_
  refine Triple.post (Q := Turned I J unwinding base) ?_ ?_
  · refine both_read fun c hc => ?_
    refine .ite (fun _ => ?_) fun hlen => ?_
    · exact both_pure fun c' d hc' hd => .inl ⟨hc' ▸ hc,hd⟩
    · cases hstack : c.stack with
      | nil => simp [hstack] at hlen
      | cons top below =>
        refine both_turnAbove w host hc hstack ?_
        simp only [hstack,length_cons] at hlen
        omega
  · intro r s hr
    cases r with
    | inl u => exact hr
    | inr r => exact hr

def Lost (c : Ctl) : Prop := Aborted c ∧ c.pending.isSome = true

def Swept (I : Ctl → Prop) : Unit ⊕ NextStep → RtState World → Prop
  | .inl (),s => Both (Seek I true 0) Free s ∨ Lost s.ctl
  | .inr (.step _),s => Both (Seek I true 1) Free s ∨ Aborted s.ctl
  | .inr .notReady,s => Both (Seek I true 1) (Only .observation) s ∨ Aborted s.ctl
  | .inr .none_,s => Both (Seek I true 0) Free s ∨ Aborted s.ctl

def Slipped (I : Ctl → Prop) (_ : PyExc) (s : RtState World) : Prop :=
  Both (Seek I true 1) (Only .observation) s ∨ Aborted s.ctl

theorem CutOff.lost (h : CutOff c) : Lost c := ⟨h.aborted,h.pending⟩

theorem Thrown.slipped {e : PyExc} {s : RtState World} (h : Thrown I true base e s) :
    Slipped I e s :=
  .inl ⟨⟨h.1.1.inv,h.1.1.running,h.1.1.pending,length_pos_iff.2 h.1.2⟩,h.2⟩

theorem Ctl.Moves.aborted (h : Moves c c') (ha : Aborted c) : Aborted c' := h.history.subset ha

theorem aborted_of_guides {P : Ctl → Prop} {x : RT World α} {Q : Ctl → α → Ctl → Prop}
    {R : α → Ctl → Prop} {M : Ctl → Ctl → Prop} (h : ∀ c₀, Guides (Via c₀ P) x (Q c₀) (M c₀))
    (hQ : ∀ c₀ a c, Q c₀ a c → Moves c₀ c ∧ R a c) (hM : ∀ c₀ c, M c₀ c → Moves c₀ c) :
    Triple (fun s => Aborted s.ctl ∧ P s.ctl) x (fun a s => Aborted s.ctl ∧ R a s.ctl)
      (fun _ s => Aborted s.ctl) := by
  intro n s hs
  refine (h s.ctl).conseq (fun _ h => h) ?_ ?_ n s ⟨Relation.ReflTransGen.refl,hs.2⟩
  · intro a s' hs'
    obtain ⟨hmoves,hR⟩ := hQ _ _ _ hs'
    exact ⟨hmoves.aborted hs.1,hR⟩
  · intro _ s' hs'
    exact (hM _ _ hs').aborted hs.1

theorem both_leaveUnwinding (w : Guarded I J) (host : Host World) {f : StepsFrame}
    (h : Seek I true base c) :
    Triple (Both (fun c' => c' = c) Free) (leaveUnwinding host f below)
      (fun _ => Swept I (.inl ())) (Slipped I) := by
  refine .bind (both_move (L := Seek I true 0) fun c' hc' => ?_) fun _ => ?_
  · subst hc'
    exact h.step w (quiet_leaveFrame f below c') (Nat.zero_le _)
  cases f.onExit with
  | none => exact both_pure fun c d hc hd => .inl ⟨hc,hd⟩
  | some exit =>
    refine .bind (Q := fun _ => Both (Tried I J true 0) (Only .observation)) ?_ fun _ => ?_
    · refine (both_afterExit w host exit).conseq (fun _ hs => ⟨hs.1,hs.2.only _⟩) (fun _ _ h => h) ?_
      exact fun e s hs => Thrown.slipped (e := e) hs
    · refine .modify fun s hs => ?_
      have hfree : Free { clearSetContext host { s.data with sleepUntil := none, waitState := none }
          with adaptiveObserveState := none } := by
        refine Only.free (Only.setObserve ?_ none) rfl
        refine hs.2.change fun other _ hidle => clearSetContext_idle _ other ?_
        cases other with
        | wait => rfl
        | setContext | parallel | observation => exact hidle
      rcases hs.1 with hgo | hover | hcut
      · exact .inl ⟨hgo,hfree⟩
      · cases hover.1
      · exact .inr hcut.lost

theorem both_sweep (w : Guarded I J) {g : Ctl → Ctl} (h : Seek I true base c) (hq : Quiet c (g c)) :
    Triple (Both (fun c' => c' = c) Free) (do move g; pure (.inl ()) : RT World (Unit ⊕ NextStep))
      (Swept I) (Slipped I) := by
  refine .bind (both_move (L := Seek I true 0) fun c' hc' => ?_) fun _ =>
    both_pure fun c' d hc' hd => .inl ⟨hc',hd⟩
  subst hc'
  exact h.step w hq (Nat.zero_le _)

theorem both_turnUnwinding (w : Guarded I J) (host : Host World) (h : Seek I true base c) :
    Triple (Both (fun c' => c' = c) Free) (turnUnwinding host top below) (Swept I) (Slipped I) := by
  have hleave : ∀ f, Triple (Both (fun c' => c' = c) Free) (do
      leaveUnwinding host f below
      pure (.inl ()) : RT World (Unit ⊕ NextStep)) (Swept I) (Slipped I) := fun f =>
    .bind (both_leaveUnwinding w host h) fun _ => .pure fun _ h => h
  unfold turnUnwinding
  cases top with
  | steps f =>
    dsimp only
    refine .ite (fun _ => ?_) fun _ => hleave f
    cases f.rest with
    | nil => exact hleave f
    | cons step rest =>
      refine .bind (both_move (L := Seek I true 1) fun c' hc' => ?_) fun _ => ?_
      · subst hc'
        exact h.step w (quiet_takeStep f step rest below c') (by rw [takeStep_stack]; simp)
      · refine .ite (fun _ => ?_) fun _ => ?_
        · exact both_pure fun c' d hc' hd => .inl ⟨hc'.lower (Nat.zero_le _),hd⟩
        · exact both_pure fun c' d hc' hd => .inl ⟨hc',hd⟩
  | try_ F finalizing owner =>
    refine .ite (fun _ => both_sweep w h ⟨rfl,rfl,rfl⟩) fun _ => ?_
    exact both_sweep w h (quiet_finalize F owner below c)
  | for_ bind records index body => exact both_sweep w h ⟨rfl,rfl,rfl⟩
  | repeat_ remaining body => exact both_sweep w h ⟨rfl,rfl,rfl⟩
  | while_ condition body => exact both_sweep w h ⟨rfl,rfl,rfl⟩
  | adaptive frame => exact both_sweep w h ⟨rfl,rfl,rfl⟩

theorem both_turnTerminalUnwind (w : Guarded I J) (host : Host World) :
    Triple (Both (Seek I true 0) Free) (turnTerminalUnwind host) (Swept I) (Slipped I) := by
  refine both_read fun c hc => ?_
  cases hstack : c.stack with
  | nil => exact both_pure fun c' d hc' hd => .inl ⟨hc' ▸ hc,hd⟩
  | cons top below =>
    dsimp only
    cases c.innermostUnwindBody with
    | none => exact both_turnUnwinding w host hc
    | some floor =>
      refine .ite (fun hlt => ?_) fun _ => both_turnUnwinding w host hc
      have hseek : Seek I true (floor+1) c := by
        refine hc.step w ⟨rfl,rfl,rfl⟩ ?_
        rw [hstack,length_cons]
        omega
      -- the steps above the innermost cleanup body leave that body on the stack
      refine .bind (Q := fun r => Turned I J true (floor+1) (.inr r)) ?_ fun r => ?_
      · refine (both_nextStepAbove w host (floor+1)).conseq ?_ (fun _ _ h => h) ?_
        · exact fun s hs => ⟨by rw [hs.1]; exact hseek,hs.2⟩
        · exact fun e s hs => Thrown.slipped hs
      · cases r with
        | step step =>
          exact .pure fun s hs => .inl ⟨hs.1.1.lower (Nat.le_add_left _ _),hs.2⟩
        | notReady =>
          exact .pure fun s hs => .inl ⟨hs.1.lower (Nat.le_add_left _ _),hs.2⟩
        | none_ =>
          refine .pure fun s hs => ?_
          rcases hs with hgo | hover | hcut
          · exact .inl ⟨hgo.1.lower (Nat.zero_le _),hgo.2⟩
          · cases hover.1
          · exact .inr hcut.lost

theorem swept_of_lost :
    Triple (fun s => Lost s.ctl) (turnTerminalUnwind host) (Swept I) (Slipped I) := by
  refine (aborted_of_guides (R := fun r c => r = .inl () → c.pending.isSome = true)
    (fun c₀ => @guides_turnTerminalUnwind World c₀ host) ?_ fun _ _ h => h.1).conseq
    (fun _ h => h) ?_ fun _ _ h => .inr h
  · intro c₀ r c hr
    cases r with
    | inl u => exact ⟨hr.1,fun _ => hr.2⟩
    | inr r =>
      refine ⟨?_,fun hinl => nomatch hinl⟩
      cases r with
      | step step => exact hr.1
      | notReady => exact hr
      | none_ => exact hr.1.1
  · intro r s hs
    cases r with
    | inl u => exact .inr ⟨hs.1,hs.2 rfl⟩
    | inr r => cases r <;> exact .inr hs.1

theorem both_nextTerminalUnwindStep (w : Guarded I J) (host : Host World) :
    Triple (Both (Seek I true 0) Free) (nextTerminalUnwindStep host)
      (fun r => Swept I (.inr r)) (Slipped I) := by
  refine (Triple.iterate (I := fun _ => Swept I (.inl ())) fun _ => ?_).pre fun _ h => Or.inl h
  refine Triple.post ((both_turnTerminalUnwind w host).or (swept_of_lost host)) ?_
  intro r s hr
  cases r with
  | inl u => exact hr
  | inr r => exact hr

/-- What `_next_step` answers in a run that is not cut off. -/
def Offered (I J : Ctl → Prop) : NextStep → RtState World → Prop
  | .step _,s => Both (Going I) Free s
  | .notReady,s => Both (Rest J) (Only .observation) s
  | .none_,s =>
    Both (fun c => I c ∧ c.state = .running) Free s ∨ Both (Over J) (Only .observation) s

theorem both_nextStep (w : Guarded I J) (host : Host World) :
    Triple (Both (Going I) Free) (nextStep host) (fun r s => Offered I J r s ∨ Aborted s.ctl)
      (fun _ s => Both (Going I) (Only .observation) s ∨ Aborted s.ctl) := by
  refine both_read fun c hc => ?_
  refine .ite (fun hp => ?_) fun hp => ?_
  · refine (both_nextTerminalUnwindStep w host).conseq ?_ ?_ ?_
    · intro s hs
      rw [← hs.1] at hp
      exact ⟨⟨by rw [hs.1]; exact hc.1,by rw [hs.1]; exact hc.2.1,hp,Nat.zero_le _⟩,hs.2⟩
    · intro r s hr
      cases r with
      | step step =>
        exact hr.imp_left fun h => ⟨h.1.going fun _ => length_pos_iff.1 h.1.above,h.2⟩
      | notReady =>
        refine hr.imp_left fun h => ⟨?_,h.2⟩
        exact (h.1.going fun _ => length_pos_iff.1 h.1.above).rest w
      | none_ => exact hr.imp_left fun h => .inl ⟨⟨h.1.inv,h.1.running⟩,h.2⟩
    · exact fun _ s hs => hs.imp_left fun h =>
        ⟨h.1.going fun _ => length_pos_iff.1 h.1.above,h.2⟩
  · have hfalse : c.pending.isSome = false := by simpa using hp
    refine (@both_nextStepAbove World I J false w host 0).conseq ?_ ?_ ?_
    · intro s hs
      exact ⟨by rw [hs.1]; exact ⟨hc.1,hc.2.1,hfalse,Nat.zero_le _⟩,hs.2⟩
    · intro r s hr
      cases r with
      | step step => exact .inl ⟨hr.1.1.going (absurd · Bool.false_ne_true),hr.2⟩
      | notReady => exact .inl ⟨(hr.1.going (absurd · Bool.false_ne_true)).rest w,hr.2⟩
      | none_ =>
        rcases hr with hgo | hover | hcut
        · exact .inl (.inl ⟨⟨hgo.1.inv,hgo.1.running⟩,hgo.2⟩)
        · exact .inl (.inr hover.2)
        · exact .inr hcut.aborted
    · exact fun _ s hs => .inl ⟨hs.1.1.going (absurd · Bool.false_ne_true),hs.2⟩

end ExperimentControl.Sequencer

import ExperimentControl.Supervision.Manager

/-!
Whether the restart policy is honoured.
-/

namespace ExperimentControl.Supervision
open Lib Option Prod

/-- While the operator has not asked for a stop, only the termination of a silent child leaves a
stop request, and only a handle that is down has a restart pending. -/
structure Unasked (c : Core) : Prop where
  state : c.state ≠ .stopping
  terminated : c.terminatedByManager = true ↔ c.stopRequestedTMono ≠ none
  up : c.Up → c.stopRequestedTMono = none
  pending : c.Up ∨ c.stopRequestedTMono ≠ none → c.nextRestartTMono = none

def Told (c : Core) : Prop := c.history.stopAsked = false → Unasked c

section
variable {now : ℚ} {c c' : Core}

theorem Told.polled (h : Told c) (hp : c.Polled c') : Told c' := by
  cases hp with
  | same => exact h
  | learned rc hc => exact fun hasked => ⟨(h hasked).1,(h hasked).2,(h hasked).3,(h hasked).4⟩

theorem Told.heard (h : Told c) (hh : Heard c c') : Told c' := by
  cases hh with
  | same => exact h
  | running hs =>
    intro hasked
    have hu := h hasked
    exact ⟨by simp,hu.terminated,fun _ => hu.up (.inl hs),fun hor =>
      hu.pending (hor.imp (fun _ => .inl hs) id)⟩

theorem told_started : Told c.started := fun _ =>
  ⟨by simp [Core.started],by simp [Core.started],fun _ => rfl,fun _ => rfl⟩

theorem Unasked.down {state : ManagedProcessState} (h : Unasked c) (hs : state ≠ .stopping)
    (hdown : ¬ Core.Up { c with state := state }) : Unasked { c with state := state } :=
  ⟨hs,h.terminated,fun hup => absurd hup hdown,fun hor => h.pending (hor.imp
    (fun hup => absurd hup hdown) id)⟩

theorem Told.exit {b : Bool} (h : Told c) (he : ExitStep c b c') : Told c' := by
  cases he with
  | none => exact h
  | alive => exact h
  | ended rc hchild =>
    intro hasked
    have hu := h hasked
    have hstate : c.exitState rc = if rc = 0 then .stopped else .failed := if_neg hu.state
    have hdown : Unasked { c with state := c.exitState rc } :=
      hu.down (by rw [hstate]; split <;> simp) (by simp only [Core.Up,hstate]; split <;> simp)
    exact ⟨hdown.1,hdown.2,hdown.3,hdown.4⟩
  | recovered rc hchild hs hrc => exact told_started

theorem Told.heartbeat (h : Told c) (hs : HeartbeatStep now c c') : Told c' := by
  cases hs with
  | same => exact h
  | heard hs => exact h.heard (.running hs)
  | failed hup hp =>
    refine Told.polled (fun hasked => ?_) hp
    have hu := h hasked
    have hreq := hu.up hup
    exact ⟨by simp [Core.silent],by simp [Core.silent,hreq],fun _ => hreq,fun _ =>
      hu.pending (.inl hup)⟩
  | terminated hup hchild =>
    intro hasked
    have hu := h hasked
    exact ⟨by simp,by simp,fun hup' => by simp [Core.Up] at hup',fun _ => hu.pending (.inl hup)⟩

theorem Told.stopCheck (h : Told c) (hs : StopStep now c c') : Told c' := by
  cases hs with
  | same hp => exact h.polled hp
  | rearmed hstate => exact fun hasked => absurd hstate (h hasked).state
  | killed hstate => exact fun hasked => absurd hstate (h hasked).state

theorem Told.scheduled (h : Told c) : Told (c.scheduled now) := by
  unfold Core.scheduled
  split
  · rename_i hcond
    intro hasked
    have hu := h hasked
    refine ⟨hu.state,hu.terminated,hu.up,fun hor => ?_⟩
    -- nothing is scheduled for a handle that is up, or that the manager has terminated
    rcases hor with hup | hreq
    · rcases hup with hup | hup
      · exact absurd hcond.1 (by simp_all)
      · exact absurd hcond.1 (by simp_all)
    · exact absurd hcond.2.1 hreq
  · exact h

theorem Told.spawnFailed (h : Told c) : Told c.spawnFailed := fun hasked =>
  have hu := h hasked
  ⟨by simp [Core.spawnFailed],hu.terminated,fun hup => by simp [Core.spawnFailed,Core.Up] at hup,
    fun hor => hu.pending (hor.imp (fun hup => by simp [Core.spawnFailed,Core.Up] at hup) id)⟩

theorem Told.started (h : Told c) (hs : Started c c') : Told c' := by
  cases hs with
  | alive hp => exact h.polled hp
  | crashloop hp => exact h.polled hp
  | spawned => exact told_started

theorem Told.startRaised (h : Told c) (hs : StartRaised c c') : Told c' := by
  cases hs with
  | before hp => exact h.polled hp
  | spawn => exact h.spawnFailed

theorem Told.restarting (h : Told c) (hdue : c.Due now) : Told c.restarting := by
  intro hasked
  have hsame : c.history.restarted.stopAsked = c.history.stopAsked := by
    unfold History.restarted
    split
    · rfl
    · rfl
  have hu := h (hsame ▸ hasked)
  obtain ⟨t,ht,-⟩ := hdue
  have hpending : c.nextRestartTMono ≠ none := by simp [ht]
  have hreq : c.stopRequestedTMono = none := by
    by_contra hreq
    exact hpending (hu.pending (.inr hreq))
  have hterm : ¬ c.terminatedByManager = true := fun hterm => hu.terminated.1 hterm hreq
  exact ⟨hu.state,by simpa [Core.restarting] using hterm,fun _ => rfl,fun _ => rfl⟩

theorem Core.Polled.due (hp : c.Polled c') (hdue : c.Due now) : c'.Due now := by
  cases hp with
  | same => exact hdue
  | learned rc hc => exact hdue

theorem Told.crashloop (h : Told c) :
    Told { c with state := .crashloop,nextRestartTMono := none } := fun hasked =>
  have hu := h hasked
  ⟨by simp,hu.terminated,fun hup => by simp [Core.Up] at hup,fun _ => rfl⟩

theorem Told.restartCheck (h : Told c) (hs : RestartStep now c c') : Told c' := by
  cases hs with
  | idle hp => exact h.scheduled.polled hp
  | due hdue hp hgone hretried =>
    have h₁ := h.scheduled.polled hp
    cases hretried with
    | crashloop => exact h₁.crashloop
    | restarted hleft hs => exact (h₁.restarting (hp.due hdue)).started hs

theorem Told.restartRaised (h : Told c) (hs : RestartRaised now c c') : Told c' := by
  cases hs with
  | poll halive => exact h.scheduled
  | due hdue hp hgone hraised =>
    cases hraised with
    | restarted hleft hs =>
      have h₁ := ((h.scheduled.polled hp).restarting (hp.due hdue)).startRaised hs
      exact fun hasked => ⟨(h₁ hasked).1,(h₁ hasked).2,(h₁ hasked).3,(h₁ hasked).4⟩

theorem Told.checkedOff (h : Told c) : Told c.checkedOff := fun hasked =>
  ⟨(h hasked).1,(h hasked).2,(h hasked).3,(h hasked).4⟩

theorem told_kept : Kept now Told Told where
  heard := Told.heard
  exit := Told.exit
  heartbeat := Told.heartbeat
  stopCheck := Told.stopCheck
  restartCheck := Told.restartCheck
  restartRaised := Told.restartRaised
  weaken := id
  checkedOff := Told.checkedOff
  heardAfter := Told.heard

theorem Stopped.stopAsked {rc : Option Int} (hs : Stopped c rc c') :
    c'.history.stopAsked = c.history.stopAsked := by
  cases hs with
  | none => rfl
  | dead => rfl
  | alive => rfl

theorem Told.moved {id : String} {e : Event} (h : Told c) (hm : Moved id c e c') : Told c' := by
  have hasked : ∀ {x : Core}, x.history.stopAsked = true → Told x := fun hx hno => by
    rw [hx] at hno
    cases hno
  cases hm with
  | aside hh => exact h.heard hh
  | tick ht => exact ht.keeps told_kept h
  | started hs => exact h.started hs
  | startRaised hs => exact h.startRaised hs
  | stopped hs => exact hasked hs.stopAsked
  | stopRaised => exact hasked rfl
  | restarted t hs => exact hasked hs.stopAsked
  | restartRaised => exact hasked rfl

end

theorem told_of_reachable {Ω : Type} {host : Host Ω} {conf : SupervisionConf} {m : Manager Ω}
    {id : String} {h : ProcessHandle} (hm : Reachable host conf m)
    (hget : m.processes.get? id = some h) : Told h.core := by
  refine hm.invariant (fun h hh _ => ?_) (fun _ _ _ _ hmoved h => h.moved hmoved) hget
  rw [hh]
  exact ⟨by simp [ProcessHandle.core],by simp [ProcessHandle.core],fun _ => rfl,fun _ => rfl⟩

/-- A restart is scheduled, or a child was started again, or the budget is used up. -/
def Core.Honoured (c : Core) : Prop :=
  c.nextRestartTMono ≠ none ∨ c.child ≠ none ∨ c.state = .crashloop ∧ c.budgetUsed = true

/-- The policy asks for a restart after this end. -/
def Ended.Wants (e : Ended) (policy : RestartPolicy) : Prop :=
  policy = .always ∨ policy = .onFailure ∧ (e.rc ≠ 0 ∨ e.terminatedByManager = true)

section
variable {now : ℚ} {c c' : Core} {e : Ended}

theorem Heard.honoured_iff (hh : Heard c c') : c'.Honoured ↔ c.Honoured := by
  cases hh with
  | same => exact Iff.rfl
  | running hs => simp [Core.Honoured,hs]

theorem Heard.spec_eq (hh : Heard c c') : c'.spec = c.spec := by
  cases hh with
  | same => rfl
  | running => rfl

theorem restartCheck_honoured (hchild : c.child = none) (hstate : c.state ≠ .crashloop)
    (hs : RestartStep now c c') :
    c'.Honoured ↔ (c.scheduled now).nextRestartTMono ≠ none := by
  have hchild' : (c.scheduled now).child = none := by simp [hchild]
  cases hs with
  | idle hp =>
    rw [hp.eq_of_no_child hchild']
    simp [Core.Honoured,hchild,hstate]
  | due hdue hp hgone hretried =>
    rw [hp.eq_of_no_child hchild'] at hretried
    obtain ⟨t,ht,-⟩ := hdue
    have hnext : (c.scheduled now).nextRestartTMono ≠ none := by simp [ht]
    cases hretried with
    | crashloop hused => exact iff_of_true (.inr (.inr ⟨rfl,hused⟩)) hnext
    | restarted hleft hstarted =>
      have hstarted' := hstarted.of_no_child hchild' (by
        change (c.scheduled now).state ≠ .crashloop
        simpa using hstate)
      rw [hstarted']
      exact iff_of_true (.inr (.inl (by simp [Core.started]))) hnext

theorem restartRaised_lost (hchild : c.child = none) (hstate : c.state ≠ .crashloop)
    (hs : RestartRaised now c c') :
    ¬ c'.Honoured ∧ c'.history.failedRestarts = c.history.failedRestarts+1 := by
  have hchild' : (c.scheduled now).child = none := by simp [hchild]
  have hstate' : (c.scheduled now).restarting.state ≠ .crashloop := by
    change (c.scheduled now).state ≠ .crashloop
    simpa using hstate
  have hlog : (c.scheduled now).restarting.log = c.log := restarting_log.trans scheduled_log
  have hcount : (c.scheduled now).restarting.history.failedRestarts = c.history.failedRestarts :=
    congrArg (·.2.1) hlog
  cases hs with
  | poll halive =>
    rw [hchild] at halive
    cases halive
  | due hdue hp hgone hraised =>
    rw [hp.eq_of_no_child hchild'] at hraised
    cases hraised with
    | restarted hleft hstart =>
      cases hstart with
      | before hp' =>
        rw [hp'.eq_of_no_child hchild']
        refine ⟨?_,by simp [Core.restartFailed,hcount]⟩
        rintro (hnext | hchild | ⟨hcrash,-⟩)
        · exact hnext rfl
        · exact hchild hchild'
        · exact hstate' hcrash
      | spawn =>
        refine ⟨?_,by simp [Core.restartFailed,Core.spawnFailed,hcount]⟩
        rintro (hnext | hchild | ⟨hcrash,-⟩)
        · exact hnext rfl
        · exact hchild rfl
        · cases hcrash

def Core.endedWith (c : Core) (rc : Int) : Core :=
  { c.exitSeen rc with state := c.exitState rc }

def Core.endOf (c : Core) (rc : Int) : Ended :=
  ⟨rc,c.history.stopAsked,c.terminatedByManager,c.nextRestartTMono.isSome⟩

def Ended.Restartable (e : Ended) : Prop :=
  e.terminatedByManager = false ∧ (e.rc ≠ 0 ∨ e.restartPending = true)

theorem restartable_iff (rc : Int) (hu : Unasked c)
    (hwants : (c.endOf rc).Wants c.spec.restartPolicy) :
    ((c.endedWith rc).scheduled now).nextRestartTMono ≠ none ↔ (c.endOf rc).Restartable := by
  have hstate : c.exitState rc = if rc = 0 then .stopped else .failed := if_neg hu.state
  have hterm : c.stopRequestedTMono = none ↔ c.terminatedByManager = false := by
    have := hu.terminated
    cases hreq : c.stopRequestedTMono <;> simp_all
  rw [scheduled_next]
  unfold Core.endedWith Ended.Restartable Core.endOf
  simp only [Core.exitSeen,hstate]
  cases hnext : c.nextRestartTMono with
  | some t =>
    have hreq : c.stopRequestedTMono = none := by
      by_contra hreq
      have := hu.pending (.inr hreq)
      rw [hnext] at this
      cases this
    simp [hterm.1 hreq]
  | none =>
    by_cases hrc : rc = 0
    · simp [hrc]
    · have hpolicy : c.spec.restartPolicy.restarts (some rc) = true := by
        rcases hwants with hp | ⟨hp,-⟩
        · rw [hp]
          rfl
        · rw [hp]
          simpa [RestartPolicy.restarts] using hrc
      simp [hrc,hpolicy,hterm]

theorem endedWith_down (rc : Int) : ¬ (c.endedWith rc).Up ∧ (c.endedWith rc).state ≠ .stopping ∧
    (c.endedWith rc).state ≠ .crashloop := by
  have hstate : (c.endedWith rc).state = c.exitState rc := rfl
  unfold Core.Up
  rw [hstate]
  cases c.exitState_cases rc with
  | inl h => simp [h.2]
  | inr h =>
    cases h.2 with
    | inl hstopped => simp [hstopped]
    | inr hfailed => simp [hfailed]

theorem ended_steps {rc : Int} {c₂ c₃ : Core} (hb : HeartbeatStep now (c.endedWith rc) c₂)
    (hs : StopStep now c₂ c₃) : c₃ = c.endedWith rc := by
  obtain ⟨hdown,hstopping,-⟩ := endedWith_down (c := c) rc
  have h₂ : c₂ = c.endedWith rc := by
    cases hb with
    | same => rfl
    | heard hstate => exact absurd (.inl hstate) hdown
    | failed hup => exact absurd hup hdown
    | terminated hup => exact absurd hup hdown
  subst h₂
  cases hs with
  | same hp => exact hp.eq_of_no_child rfl
  | rearmed hstate => exact absurd hstate hstopping
  | killed hstate => exact absurd hstate hstopping

theorem append_singleton_ne {l : List Ended} (h : l = l ++ [e]) : False := by
  have := congrArg List.length h
  simp at this

theorem exitStep_ended {b : Bool} (hs : ExitStep c b c') : c' = c ∧ b = false ∨
    ∃ rc, c'.history.ends = c.history.ends ++ [c.endOf rc] ∧ (b = false ∧ c' = c.endedWith rc ∨
        b = true ∧ c.Up ∧ rc ≠ 0 ∧ c' = (c.exitSeen rc).started) := by
  cases hs with
  | none => exact .inl ⟨rfl,rfl⟩
  | alive => exact .inl ⟨rfl,rfl⟩
  | ended rc hchild => exact .inr ⟨rc,rfl,.inl ⟨rfl,rfl⟩⟩
  | recovered rc hchild hstate hrc => exact .inr ⟨rc,rfl,.inr ⟨rfl,.inl hstate,hrc,rfl⟩⟩

theorem supervised_honoured (htold : Told c) (hs : Supervised now c c')
    (hend : c'.history.ends = c.history.ends ++ [e]) (hasked : e.stopAsked = false)
    (hwants : e.Wants c.spec.restartPolicy) : (c'.Honoured ↔ e.Restartable) ∧
      c'.history.failedRestarts = c.history.failedRestarts := by
  cases hs with
  | recovered he =>
    rcases exitStep_ended he with ⟨-,hb⟩ | ⟨rc,hends,⟨hb,-⟩ | ⟨-,hup,hrc,rfl⟩⟩
    · cases hb
    · cases hb
    · obtain rfl : e = c.endOf rc := by
        have := hend.symm.trans hends
        simpa using this
      have hu := htold hasked
      have hterm : c.terminatedByManager = false := by
        by_contra hterm
        exact hu.terminated.1 (by simpa using hterm) (hu.up hup)
      exact ⟨iff_of_true (.inr (.inl (by simp [Core.started,Core.checkedOff])))
        ⟨hterm,.inl hrc⟩,rfl⟩
  | @checked c₁ c₂ c₃ c₄ he hb hs hr =>
    have hlog := hr.log_eq.trans (hs.log_eq.trans hb.log_eq)
    have hends : c₄.history.ends = c₁.history.ends := congrArg fst hlog
    have hcount : c₄.history.failedRestarts = c₁.history.failedRestarts :=
      congrArg (·.2.1) hlog
    change c₄.history.ends = c.history.ends ++ [e] at hend
    rw [hends] at hend
    rcases exitStep_ended he with ⟨rfl,-⟩ | ⟨rc,hends',⟨-,rfl⟩ | ⟨hb,-⟩⟩
    · exact absurd hend append_singleton_ne
    · obtain rfl : e = c.endOf rc := by
        have := hend.symm.trans hends'
        simpa using this
      refine ⟨?_,hcount⟩
      rw [ended_steps hb hs] at hr
      have hrestart := restartCheck_honoured (c := c.endedWith rc) rfl (endedWith_down rc).2.2 hr
      exact hrestart.trans (restartable_iff rc (htold hasked) hwants)
    · cases hb

theorem raised_lost (hs : SuperviseRaised now c c')
    (hend : c'.history.ends = c.history.ends ++ [e]) :
    ¬ c'.Honoured ∧ c'.history.failedRestarts = c.history.failedRestarts+1 := by
  cases hs with
  | exit => exact absurd hend append_singleton_ne
  | heartbeat he hb =>
    rcases exitStep_ended he with ⟨rfl,-⟩ | ⟨rc,-,⟨-,rfl⟩ | ⟨hb',-⟩⟩
    · rw [hb.2] at hend
      exact absurd hend append_singleton_ne
    · exact absurd hb.1 (endedWith_down (c := c) rc).1
    · cases hb'
  | stop he hb halive =>
    rcases exitStep_ended he with ⟨h₁,-⟩ | ⟨rc,-,⟨-,rfl⟩ | ⟨hb',-⟩⟩
    · rw [h₁] at hb
      have hends : c'.history.ends = c.history.ends := congrArg fst hb.log_eq
      rw [hends] at hend
      exact absurd hend append_singleton_ne
    · rw [ended_steps hb (.same .same)] at halive
      cases halive
    · cases hb'
  | restart he hb hs hr =>
    rcases exitStep_ended he with ⟨h₁,-⟩ | ⟨rc,-,⟨-,rfl⟩ | ⟨hb',-⟩⟩
    · rw [h₁] at hb
      have hends := hr.log_eq.trans (congrArg fst (hs.log_eq.trans hb.log_eq))
      rw [hends] at hend
      exact absurd hend append_singleton_ne
    · rw [ended_steps hb hs] at hr
      exact restartRaised_lost (c := c.endedWith rc) rfl (endedWith_down rc).2.2 hr
    · cases hb'

theorem ticked_honoured_iff (htold : Told c) (ht : Ticked now c c')
    (hend : c'.history.ends = c.history.ends ++ [e]) (hasked : e.stopAsked = false)
    (hwants : e.Wants c.spec.restartPolicy) :
    c'.Honoured ↔ e.Restartable ∧ c'.history.failedRestarts = c.history.failedRestarts := by
  cases ht with
  | skipped hh =>
    have hends : c'.history.ends = c.history.ends := congrArg fst hh.log_eq
    rw [hends] at hend
    exact absurd hend append_singleton_ne
  | @done c₁ c₂ _ h₁ h₂ h₃ =>
    have hends₁ : c₁.history.ends = c.history.ends := congrArg fst h₁.log_eq
    have hends₃ : c'.history.ends = c₂.history.ends := congrArg fst h₃.log_eq
    have hcount₁ : c₁.history.failedRestarts = c.history.failedRestarts :=
      congrArg (·.2.1) h₁.log_eq
    have hcount₃ : c'.history.failedRestarts = c₂.history.failedRestarts :=
      congrArg (·.2.1) h₃.log_eq
    obtain ⟨hiff,hcount⟩ := supervised_honoured (htold.heard h₁) h₂
      (by rw [← hends₃,hend,hends₁]) hasked (by rwa [h₁.spec_eq])
    rw [h₃.honoured_iff,hiff]
    exact ⟨fun h => ⟨h,by rw [hcount₃,hcount,hcount₁]⟩,fun h => h.1⟩
  | @raised c₁ _ h₁ h₂ =>
    have hends₁ : c₁.history.ends = c.history.ends := congrArg fst h₁.log_eq
    have hcount₁ : c₁.history.failedRestarts = c.history.failedRestarts :=
      congrArg (·.2.1) h₁.log_eq
    obtain ⟨hlost,hcount⟩ := raised_lost h₂ (by rw [hend,hends₁])
    exact iff_of_false hlost (by omega)

end

/-- A restart is scheduled, or a child was started again, or the budget is used up. -/
def ProcessHandle.Honoured (h : ProcessHandle) : Prop :=
  h.nextRestartTMono ≠ none ∨ h.popen ≠ none ∨ h.state = .crashloop ∧ h.budgetUsed = true

theorem honoured_core (h : ProcessHandle) : h.core.Honoured ↔ h.Honoured := by
  have hchild : h.core.child ≠ none ↔ h.popen ≠ none := by simp [ProcessHandle.core]
  unfold Core.Honoured ProcessHandle.Honoured
  rw [hchild]
  rfl

/-- When a tick of any history sees a child end that the operator has not asked to, after which the
policy wants a restart, the policy is honoured if and only if the manager had not terminated the
child itself, the exit code is not 0 or a restart was pending, and no restart raised in the tick. -/
theorem policy_honoured_iff {Ω : Type} {host : Host Ω} {conf : SupervisionConf} {m m' : Manager Ω}
    {id : String} {h h' : ProcessHandle} {e : Ended} (tick : Tick) (hm : Reachable host conf m)
    (htick : (superviseManagedProcesses host conf tick).Leaves m m')
    (hget : m.processes.get? id = some h) (hget' : m'.processes.get? id = some h')
    (hend : h'.history.ends = h.history.ends ++ [e]) (hasked : e.stopAsked = false)
    (hwants : e.Wants h.spec.restartPolicy) :
    h'.Honoured ↔ (e.terminatedByManager = false ∧ (e.rc ≠ 0 ∨ e.restartPending = true)) ∧
      h'.history.failedRestarts = h.history.failedRestarts := by
  obtain ⟨h'',hget'',hticked⟩ := ticked_of_leaves hget htick
  rw [hget'] at hget''
  cases hget''
  rw [← honoured_core]
  exact ticked_honoured_iff (told_of_reachable hm hget) hticked hend hasked hwants

theorem crash_honoured : ∃ (m m' : Manager (Nat × Option Int)) (h h' : ProcessHandle),
      Reachable (steadyHost (some 1)) {} m ∧
      (superviseManagedProcesses (steadyHost (some 1)) {} (tickAt 5)).run 0 m = .ok () m' ∧
      m.processes.get? "p" = some h ∧ m'.processes.get? "p" = some h' ∧
      h'.history.ends = [⟨1,false,false,false⟩] ∧ h'.Honoured := by
  have hrun : ((runEvents (steadyHost (some 1)) {} [.start "p"]
      (managerOf { processId := "p",restartPolicy := .onFailure })).bind fun m =>
      (m.processes.get? "p").bind fun h =>
      (Event.after (steadyHost (some 1)) {} (.tick (tickAt 5)) m).bind fun m' =>
      (m'.processes.get? "p").map fun h' =>
        (h.spec.restartPolicy,h.history,h'.history)) =
      some (.onFailure,{ spawns := 1 },
        { spawns := 1,ends := [⟨1,false,false,false⟩],checks := 1 }) := by decide +kernel
  obtain ⟨m,hm,hrun⟩ := bind_eq_some_iff.1 hrun
  obtain ⟨h,hget,hrun⟩ := bind_eq_some_iff.1 hrun
  obtain ⟨m',htick,hrun⟩ := bind_eq_some_iff.1 hrun
  obtain ⟨h',hget',hseen⟩ := map_eq_some_iff.1 hrun
  simp only [mk.injEq] at hseen
  obtain ⟨hpolicy,hbefore,hafter⟩ := hseen
  have hreach := Reachable.run (.init (fresh_managerOf _)) hm
  have hiff := policy_honoured_iff (e := ⟨1,false,false,false⟩) (tickAt 5) hreach
    (leaves_of_after htick) hget hget' (by simp [hbefore,hafter]) rfl
    (.inr ⟨hpolicy,.inl (by decide)⟩)
  refine ⟨m,m',h,h',hreach,run_of_after htick,hget,hget',by rw [hafter],hiff.2 ⟨⟨rfl,?_⟩,?_⟩⟩
  · exact .inl (by decide)
  · rw [hbefore,hafter]

theorem clean_exit_lost : ∃ (m m' : Manager (Nat × Option Int)) (h h' : ProcessHandle),
      Reachable (steadyHost (some 0)) {} m ∧
      (superviseManagedProcesses (steadyHost (some 0)) {} (tickAt 5)).run 0 m = .ok () m' ∧
      m.processes.get? "p" = some h ∧ m'.processes.get? "p" = some h' ∧
      h.spec.restartPolicy = .always ∧ h.popen ≠ none ∧ h.history.stopAsked = false ∧
      h'.popen = none ∧ ¬ h'.Honoured := by
  have hrun : ((runEvents (steadyHost (some 0)) {} [.start "p"]
      (managerOf { processId := "p",restartPolicy := .always })).bind fun m =>
      (m.processes.get? "p").bind fun h =>
      (Event.after (steadyHost (some 0)) {} (.tick (tickAt 5)) m).bind fun m' =>
      (m'.processes.get? "p").map fun h' =>
        ((h.spec.restartPolicy,h.popen,h.history.stopAsked),
          (h'.popen,h'.nextRestartTMono,h'.state))) =
      some ((.always,some ⟨0,none⟩,false),(none,none,.stopped)) := by decide +kernel
  obtain ⟨m,hm,hrun⟩ := bind_eq_some_iff.1 hrun
  obtain ⟨h,hget,hrun⟩ := bind_eq_some_iff.1 hrun
  obtain ⟨m',htick,hrun⟩ := bind_eq_some_iff.1 hrun
  obtain ⟨h',hget',hseen⟩ := map_eq_some_iff.1 hrun
  simp only [mk.injEq] at hseen
  obtain ⟨⟨hpolicy,hpopen,hasked⟩,hpopen',hnext,hstate⟩ := hseen
  refine ⟨m,m',h,h',Reachable.run (.init (fresh_managerOf _)) hm,run_of_after htick,hget,hget',
    hpolicy,by simp [hpopen],hasked,hpopen',?_⟩
  simp [ProcessHandle.Honoured,hpopen',hnext,hstate]

end ExperimentControl.Supervision

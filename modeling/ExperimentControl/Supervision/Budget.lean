import ExperimentControl.Supervision.Manager

/-!
What `CRASHLOOP` tells about the restarts before it.
-/

namespace ExperimentControl.Supervision
open Lib Option

/-- The counter counts the restarts that failures led to, and `CRASHLOOP` means that the budget is
used up. -/
structure Counted (c : Core) : Prop where
  count : c.restartCount = c.history.automatic
  crashloop : c.state = .crashloop → ∃ m, c.spec.maxRestarts = some m ∧ m ≤ c.history.automatic

def Calm (now : ℚ) (c : Core) : Prop :=
  (c.nextRestartTMono.any (fun t => t ≤ now) = true → c.history.cause = .failure) ∧
    (c.nextRestartTMono = none → c.stopRequestedTMono = none →
      (c.state = .exited → c.spec.restartPolicy.restarts c.lastExitCode = false) ∧
      (c.state = .stopping → c.spec.restartPolicy = .never))

instance (now : ℚ) (c : Core) : Decidable (Calm now c) := inferInstanceAs (Decidable (_ ∧ _))

section
variable {now : ℚ} {c c' : Core}

section
variable (h : Counted c)
include h

namespace Counted

theorem mono (hspec : c'.spec = c.spec)
    (hcount : c'.restartCount = c.restartCount) (hauto : c'.history.automatic = c.history.automatic)
    (hstate : c'.state = .crashloop → c.state = .crashloop) : Counted c' := by
  refine ⟨by rw [hcount,hauto,h.count],fun hcrash => ?_⟩
  obtain ⟨m,hm,hle⟩ := h.crashloop (hstate hcrash)
  exact ⟨m,by rw [hspec,hm],by rw [hauto]; exact hle⟩

theorem polled (hp : c.Polled c') : Counted c' := by
  cases hp with
  | same => exact h
  | learned rc hc => exact h.mono rfl rfl rfl id

theorem heard (hh : Heard c c') : Counted c' := by
  cases hh with
  | same => exact h
  | running hs => exact h.mono rfl rfl rfl (by simp)

theorem start (hs : Started c c') : Counted c' := by
  cases hs with
  | alive hp => exact h.polled hp
  | crashloop hp => exact h.polled hp
  | spawned => exact h.mono rfl rfl rfl (by simp [Core.started])

theorem startRaised (hs : StartRaised c c') : Counted c' := by
  cases hs with
  | before hp => exact h.polled hp
  | spawn => exact h.mono rfl rfl rfl (by simp [Core.spawnFailed])

theorem exit {b : Bool} (he : ExitStep c b c') : Counted c' := by
  cases he with
  | none => exact h
  | alive => exact h
  | ended rc hchild =>
    refine h.mono rfl rfl rfl fun hcrash => ?_
    change c.exitState rc = .crashloop at hcrash
    have hcases := c.exitState_cases rc
    simp [hcrash] at hcases
  | recovered rc hchild hs hrc => exact h.mono rfl rfl rfl (by simp [Core.started])

theorem heartbeat (hs : HeartbeatStep now c c') : Counted c' := by
  cases hs with
  | same => exact h
  | heard hs => exact h.mono rfl rfl rfl (by simp)
  | failed hup hp =>
    have hsilent : Counted c.silent := h.mono rfl rfl rfl (by simp [Core.silent])
    exact hsilent.polled hp
  | terminated hup hchild => exact h.mono rfl rfl rfl (by simp)

theorem stopCheck (hs : StopStep now c c') : Counted c' := by
  cases hs with
  | same hp => exact h.polled hp
  | rearmed hstate => exact h.mono rfl rfl rfl (by simp [hstate])
  | killed hstate => exact h.mono rfl rfl rfl (by simp)

theorem scheduled : Counted (c.scheduled now) := by
  obtain ⟨next,cause,hs⟩ := scheduled_frame c now
  rw [hs]
  exact h.mono rfl rfl rfl id

theorem restarting (hcause : c.history.cause = .failure) : Counted c.restarting := by
  have hhistory : c.restarting.history.automatic = c.history.automatic+1 := by
    simp [Core.restarting,History.restarted,hcause]
  refine ⟨?_,fun hcrash => ?_⟩
  · rw [hhistory]
    change c.restartCount+1 = _
    rw [h.count]
    push_cast
    rfl
  · obtain ⟨m,hm,hle⟩ := h.crashloop hcrash
    refine ⟨m,hm,?_⟩
    rw [hhistory]
    push_cast
    omega

theorem used (hused : c.budgetUsed = true) :
    ∃ m, c.spec.maxRestarts = some m ∧ m ≤ c.history.automatic := by
  unfold Core.budgetUsed at hused
  cases hm : c.spec.maxRestarts with
  | none => simp [hm] at hused
  | some m =>
    rw [hm] at hused
    refine ⟨m,rfl,?_⟩
    rw [← h.count]
    exact of_decide_eq_true hused

theorem retried (hcause : c.history.cause = .failure) (hs : Retried c c') : Counted c' := by
  cases hs with
  | crashloop hused => exact ⟨h.count,fun _ => h.used hused⟩
  | restarted hleft hstarted => exact (h.restarting hcause).start hstarted

theorem retryRaised (hcause : c.history.cause = .failure)
    (hs : RetryRaised c c') : Counted c' := by
  cases hs with
  | restarted hleft hraised =>
    exact ((h.restarting hcause).startRaised hraised).mono rfl rfl rfl id

end Counted

end

theorem Core.Polled.cause_eq (hp : c.Polled c') : c'.history.cause = c.history.cause := by
  cases hp with
  | same => rfl
  | learned rc hc => rfl

theorem Calm.due (h : Calm now c) (hdue : (c.scheduled now).Due now) :
    (c.scheduled now).history.cause = .failure := by
  unfold Core.scheduled at hdue ⊢
  split
  · rename_i hcond
    obtain ⟨hstate,hreq,hnext,hpolicy⟩ := hcond
    rcases hstate with hstate | hstate
    · simp [hstate]
    · have hno := (h.2 hnext hreq).1 hstate
      rw [hpolicy] at hno
      cases hno
  · rename_i hcond
    rw [if_neg hcond] at hdue
    obtain ⟨t,ht,hle⟩ := hdue
    exact h.1 (by simp [ht,hle])

theorem Counted.restartCheck (h : Counted c) (hcalm : Calm now c) (hs : RestartStep now c c') :
    Counted c' := by
  cases hs with
  | idle hp => exact h.scheduled.polled hp
  | due hdue hp hgone hretried =>
    exact (h.scheduled.polled hp).retried (by rw [hp.cause_eq,hcalm.due hdue]) hretried

theorem Counted.restartRaised (h : Counted c) (hcalm : Calm now c) (hs : RestartRaised now c c') :
    Counted c' := by
  cases hs with
  | poll halive => exact h.scheduled
  | due hdue hp hgone hraised =>
    exact (h.scheduled.polled hp).retryRaised (by rw [hp.cause_eq,hcalm.due hdue]) hraised

section
variable (h : Calm now c)
include h

theorem Calm.polled (hp : c.Polled c') : Calm now c' := by
  cases hp with
  | same => exact h
  | learned rc hc => exact h

theorem Calm.state {state : ManagedProcessState} (hexited : state ≠ .exited)
    (hstopping : state ≠ .stopping) : Calm now { c with state := state } :=
  ⟨h.1,fun _ _ => ⟨fun hs => absurd hs hexited,fun hs => absurd hs hstopping⟩⟩

theorem Calm.heard (hh : Heard c c') : Calm now c' := by
  cases hh with
  | same => exact h
  | running hs => exact h.state (by simp) (by simp)

theorem Calm.exit {b : Bool} (he : ExitStep c b c') : Calm now c' := by
  cases he with
  | none => exact h
  | alive => exact h
  | ended rc hchild =>
    refine ⟨h.1,fun hnext hreq => ⟨fun hexited => ?_,fun hstopping => ?_⟩⟩
    · change c.exitState rc = .exited at hexited
      have hstate : c.state = .stopping := by
        simpa [hexited] using c.exitState_cases rc
      change c.spec.restartPolicy.restarts (some rc) = false
      rw [(h.2 hnext hreq).2 hstate]
      rfl
    · change c.exitState rc = .stopping at hstopping
      have hcases := c.exitState_cases rc
      simp [hstopping] at hcases
  | recovered rc hchild hs hrc =>
    exact ⟨by simp [Core.started],fun _ _ => by simp [Core.started]⟩

theorem Calm.heartbeat (hs : HeartbeatStep now c c') : Calm now c' := by
  cases hs with
  | same => exact h
  | heard hs => exact h.state (by simp) (by simp)
  | failed hup hp =>
    have hfailed : Calm now { c with state := .failed } := h.state (by simp) (by simp)
    exact Calm.polled (c := c.silent) hfailed hp
  | terminated hup hchild => exact ⟨h.1,fun _ hreq => by cases hreq⟩

theorem Calm.stopCheck (hs : StopStep now c c') : Calm now c' := by
  cases hs with
  | same hp => exact h.polled hp
  | rearmed hstate hreq => exact ⟨h.1,fun _ hreq' => by cases hreq'⟩
  | killed hstate hreq => exact h.state (by simp) (by simp)

end

theorem counted_kept : Kept now (fun c => Counted c ∧ Calm now c) Counted where
  heard h hh := ⟨h.1.heard hh,h.2.heard hh⟩
  exit h he := ⟨h.1.exit he,h.2.exit he⟩
  heartbeat h hs := ⟨h.1.heartbeat hs,h.2.heartbeat hs⟩
  stopCheck h hs := ⟨h.1.stopCheck hs,h.2.stopCheck hs⟩
  restartCheck h hs := h.1.restartCheck h.2 hs
  restartRaised h hs := h.1.restartRaised h.2 hs
  weaken h := h.1
  checkedOff h := h.mono rfl rfl rfl id
  heardAfter h hh := h.heard hh

theorem Counted.asked (h : Counted c) : Counted c.asked := h.mono rfl rfl rfl id

theorem Counted.stopped {rc : Option Int} (h : Counted c) (hs : Stopped c rc c') : Counted c' := by
  cases hs with
  | none hchild => exact h.mono rfl rfl rfl (by simp)
  | dead rc hchild =>
    refine h.mono rfl rfl rfl ?_
    unfold Core.foundDead
    dsimp only
    split
    · simp
    · simp
  | alive t hchild => exact h.mono rfl rfl rfl (by simp)

def Event.Calms (c : Core) : Event → Prop
  | .tick t => Calm t.nowMono c
  | .start _ | .stop _ | .restart _ | .heartbeats _ => True

theorem Counted.moved {p : String} {e : Event} (h : Counted c) (hcalm : e.Calms c)
    (hm : Moved p c e c') : Counted c' := by
  cases hm with
  | aside hh => exact h.heard hh
  | tick ht => exact ht.keeps counted_kept ⟨h,hcalm⟩
  | started hs => exact h.start hs
  | startRaised hs => exact h.startRaised hs
  | stopped hs => exact h.asked.stopped hs
  | stopRaised => exact h.asked
  | restarted now hs => exact (h.asked.stopped hs).mono rfl rfl rfl id
  | restartRaised => exact h.asked

end

instance (c : Core) : (e : Event) → Decidable (e.Calms c)
  | .tick t => inferInstanceAs (Decidable (Calm t.nowMono c))
  | .start _ | .stop _ | .restart _ | .heartbeats _ => inferInstanceAs (Decidable True)

section
variable {Ω : Type} (host : Host Ω) (conf : SupervisionConf) (id : String)

def Event.CalmFor (m : Manager Ω) (e : Event) : Prop :=
  ∀ h ∈ m.processes.get? id,e.Calms h.core

/-- The states of the manager in a history whose ticks all find the handle of the process calm. -/
inductive CalmRun : Manager Ω → Prop where
  | init {m : Manager Ω} : m.Fresh → CalmRun m
  | step {m m' : Manager Ω} (e : Event) :
      CalmRun m → e.CalmFor id m → (e.run host conf).Leaves m m' → CalmRun m'

end

section
variable {Ω : Type} {host : Host Ω} {conf : SupervisionConf} {id : String} {m m' : Manager Ω}
  {h : ProcessHandle}

theorem CalmRun.counted (hm : CalmRun host conf id m) (hget : m.processes.get? id = some h) :
    Counted h.core := by
  induction hm generalizing h with
  | init hm =>
    rw [hm id h hget]
    exact ⟨rfl,fun hcrash => by cases hcrash⟩
  | @step m m' e _ hcalm he ih =>
    cases hbefore : m.processes.get? id with
    | none =>
      have habsent := (settles_absent e).triple.leaves hbefore he
      rw [habsent] at hget
      cases hget
    | some h₀ =>
      obtain ⟨h',hget',hmove⟩ := moved_of_leaves hbefore he
      rw [hget] at hget'
      cases hget'
      exact (ih hbefore).moved (hcalm h₀ hbefore) hmove

/-- In a history whose ticks find no restart due that a failure did not lead to, the counter is the
number of restarts that failures led to, and `CRASHLOOP` is entered only when these have used up the
budget. -/
theorem crashloop_budget_used (hm : CalmRun host conf id m) (hget : m.processes.get? id = some h) :
    h.restartCount = h.history.automatic ∧
      (h.state = .crashloop → ∃ n, h.spec.maxRestarts = some n ∧ n ≤ h.history.automatic) :=
  ⟨(hm.counted hget).count,(hm.counted hget).crashloop⟩

end

def runCalmly {Ω : Type} (host : Host Ω) (conf : SupervisionConf) (id : String) :
    List Event → Manager Ω → Option (Manager Ω)
  | [],m => some m
  | e :: rest,m =>
    (m.processes.get? id).bind fun h =>
      if e.Calms h.core then (e.after host conf m).bind (runCalmly host conf id rest) else none

theorem CalmRun.run {Ω : Type} {host : Host Ω} {conf : SupervisionConf} {id : String}
    {m m' : Manager Ω} {events : List Event} (hm : CalmRun host conf id m)
    (hrun : runCalmly host conf id events m = some m') : CalmRun host conf id m' := by
  induction events generalizing m with
  | nil =>
    cases hrun
    exact hm
  | cons e rest ih =>
    obtain ⟨h,hget,hrun⟩ := bind_eq_some_iff.1 hrun
    split at hrun
    · rename_i hcalm
      obtain ⟨m₁,h₁,hrest⟩ := bind_eq_some_iff.1 hrun
      have hcalm' : e.CalmFor id m := by
        intro h' hget'
        rw [mem_def,hget] at hget'
        cases hget'
        exact hcalm
      exact ih (.step e hm hcalm' (leaves_of_after h₁)) hrest
    · cases hrun

theorem dying_child_used_budget : ∃ (m : Manager (Nat × Option Int)) (h : ProcessHandle),
      CalmRun (steadyHost (some 1)) {} "p" m ∧ m.processes.get? "p" = some h ∧
      h.state = .crashloop ∧ h.restartCount = h.history.automatic ∧
      ∃ n, h.spec.maxRestarts = some n ∧ n ≤ h.history.automatic := by
  have hrun : ((runCalmly (steadyHost (some 1)) {} "p" [.start "p",.tick (tickAt 10),
        .tick (tickAt 20),.tick (tickAt 30),.tick (tickAt 40)]
      (managerOf { processId := "p",restartPolicy := .onFailure,maxRestarts := some 1 })).bind
      fun m => (m.processes.get? "p").map (·.state)) = some .crashloop := by decide +kernel
  obtain ⟨m,hm,hrun⟩ := bind_eq_some_iff.1 hrun
  obtain ⟨h,hget,hstate⟩ := map_eq_some_iff.1 hrun
  have hcalm := CalmRun.run (.init (fresh_managerOf _)) hm
  obtain ⟨hcount,hcrash⟩ := crashloop_budget_used hcalm hget
  exact ⟨m,h,hcalm,hget,hstate,hcount,hcrash hstate⟩

theorem operator_restarts_crashloop : ∃ (m : Manager (Nat × Option Int)) (h : ProcessHandle),
      Reachable (steadyHost none) {} m ∧ m.processes.get? "p" = some h ∧
      h.spec.maxRestarts = some 1 ∧ h.state = .crashloop ∧ h.history.automatic = 0 := by
  have hrun : ((runEvents (steadyHost none) {} [.start "p",.heartbeats [⟨"p",1,none⟩],
        .restart "p",.tick (tickAt 100),.heartbeats [⟨"p",101,none⟩],.restart "p",
        .tick (tickAt 200)]
      (managerOf { processId := "p",maxRestarts := some 1 })).bind fun m =>
      (m.processes.get? "p").map fun h =>
        (h.spec.maxRestarts,h.state,h.history.automatic)) =
      some (some 1,.crashloop,0) := by decide +kernel
  obtain ⟨m,hm,hrun⟩ := bind_eq_some_iff.1 hrun
  obtain ⟨h,hget,hseen⟩ := map_eq_some_iff.1 hrun
  simp only [Prod.mk.injEq] at hseen
  exact ⟨m,h,.run (.init (fresh_managerOf _)) hm,hget,hseen.1,hseen.2.1,hseen.2.2⟩

end ExperimentControl.Supervision

import ExperimentControl.Supervision.Manager

/-!
Whether a stop sticks.
-/

namespace ExperimentControl.Supervision
open Lib Option

/-- No tick will start a child: the budget is used up, or nothing is pending and nothing will be
scheduled. -/
structure Stays (c : Core) : Prop where
  down : ¬ c.Up
  held : c.budgetUsed = true ∨ c.nextRestartTMono = none ∧
    (c.stopRequestedTMono ≠ none ∨ c.child = none ∧
      (c.state ≠ .failed ∧ c.state ≠ .exited ∨ c.spec.restartPolicy.restarts c.lastExitCode = false))

/-- The handle stays as it is, with `k` children started so far. -/
def Parked (k : Nat) (c : Core) : Prop := Stays c ∧ c.history.spawns = k

section
variable {k : Nat} {now : ℚ} {c c' : Core}

theorem Parked.polled (h : Parked k c) (hp : c.Polled c') : Parked k c' := by
  cases hp with
  | same => exact h
  | learned rc hc =>
    refine ⟨⟨h.1.down,?_⟩,h.2⟩
    rcases h.1.held with hb | ⟨hn,hs | ⟨hchild,-⟩⟩
    · exact .inl hb
    · exact .inr ⟨hn,.inl hs⟩
    · rw [hc] at hchild
      cases hchild

theorem Parked.heard (h : Parked k c) (hh : Heard c c') : Parked k c' := by
  cases hh with
  | same => exact h
  | running hs => exact absurd (.inl hs) h.1.down

theorem Parked.exit {b : Bool} (h : Parked k c) (he : ExitStep c b c') : Parked k c' := by
  cases he with
  | none => exact h
  | alive => exact h
  | ended rc hchild =>
    refine ⟨⟨?_,?_⟩,h.2⟩
    · have hcases := c.exitState_cases rc
      intro hup
      cases hup with
      | inl hstate => simp [show c.exitState rc = _ from hstate] at hcases
      | inr hstate => simp [show c.exitState rc = _ from hstate] at hcases
    · rcases h.1.held with hb | ⟨hn,hs | ⟨hnone,-⟩⟩
      · exact .inl hb
      · exact .inr ⟨hn,.inl hs⟩
      · exact absurd hnone hchild
  | recovered rc hchild hs hrc => exact absurd (.inl hs) h.1.down

theorem Parked.heartbeat (h : Parked k c) (hs : HeartbeatStep now c c') : Parked k c' := by
  cases hs with
  | same => exact h
  | heard hs => exact absurd (.inl hs) h.1.down
  | failed hup => exact absurd hup h.1.down
  | terminated hup => exact absurd hup h.1.down

theorem Parked.stopCheck (h : Parked k c) (hs : StopStep now c c') : Parked k c' := by
  cases hs with
  | same hp => exact h.polled hp
  | rearmed hstate hreq =>
    refine ⟨⟨h.1.down,?_⟩,h.2⟩
    rcases h.1.held with hb | ⟨hn,-⟩
    · exact .inl hb
    · exact .inr ⟨hn,.inl (by simp)⟩
  | killed hstate hreq =>
    refine ⟨⟨by simp [Core.Up],?_⟩,h.2⟩
    rcases h.1.held with hb | ⟨hn,-⟩
    · exact .inl hb
    · exact .inr ⟨hn,.inl hreq⟩

theorem Stays.scheduled (h : Stays c) (now : ℚ) (hb : c.budgetUsed = false) :
    c.scheduled now = c ∧ c.nextRestartTMono = none := by
  rcases h.held with hused | ⟨hn,hs⟩
  · rw [hb] at hused
    cases hused
  · refine ⟨if_neg ?_,hn⟩
    rintro ⟨hstate,hreq,-,hpolicy⟩
    rcases hs with hs | ⟨-,⟨hf,he⟩ | hno⟩
    · exact hs hreq
    · exact hstate.elim hf he
    · rw [hpolicy] at hno
      cases hno

theorem Core.Polled.budgetUsed_eq (h : c.Polled c') : c'.budgetUsed = c.budgetUsed := by
  cases h with
  | same => rfl
  | learned rc hc => rfl

section
variable (h : Parked k c)
include h

theorem Parked.scheduled : Parked k (c.scheduled now) := by
  cases hb : c.budgetUsed with
  | false =>
    rw [(h.1.scheduled now hb).1]
    exact h
  | true =>
    refine ⟨⟨?_,.inl (by simp [hb])⟩,?_⟩
    · simpa [Core.Up] using h.1.down
    · obtain ⟨next,cause,hs⟩ := scheduled_frame c now
      rw [hs]
      exact h.2

theorem Parked.due {c₁ : Core} (hdue : (c.scheduled now).Due now)
    (hp : (c.scheduled now).Polled c₁) : c₁.budgetUsed = true := by
  rw [hp.budgetUsed_eq,budgetUsed_scheduled]
  by_contra hb
  obtain ⟨hsame,hnone⟩ := h.1.scheduled now (Bool.eq_false_iff.2 hb)
  obtain ⟨t,ht,-⟩ := hdue
  rw [hsame,hnone] at ht
  cases ht

theorem Parked.restartCheck (hs : RestartStep now c c') : Parked k c' := by
  cases hs with
  | idle hp => exact h.scheduled.polled hp
  | due hdue hp hgone hretried =>
    have hused := h.due hdue hp
    have hparked := h.scheduled.polled hp
    cases hretried with
    | crashloop => exact ⟨⟨by simp [Core.Up],.inl hused⟩,hparked.2⟩
    | restarted hleft => exact absurd hused (by simp [hleft])

theorem Parked.restartRaised (hs : RestartRaised now c c') : Parked k c' := by
  cases hs with
  | poll halive => exact h.scheduled
  | due hdue hp hgone hraised =>
    have hused := h.due hdue hp
    cases hraised with
    | restarted hleft => exact absurd hused (by simp [hleft])

theorem Parked.checkedOff : Parked k c.checkedOff := ⟨⟨h.1.down,h.1.held⟩,h.2⟩

theorem Parked.asked : Parked k c.asked := ⟨⟨h.1.down,h.1.held⟩,h.2⟩

end

theorem parked_kept : Kept now (Parked k) (Parked k) where
  heard := Parked.heard
  exit := Parked.exit
  heartbeat := Parked.heartbeat
  stopCheck := Parked.stopCheck
  restartCheck := Parked.restartCheck
  restartRaised := Parked.restartRaised
  weaken := id
  checkedOff := Parked.checkedOff
  heardAfter := Parked.heard

theorem Parked.stopped {rc : Option Int} (h : Parked k c) (hs : Stopped c.asked rc c') :
    Parked k c' := by
  have hheld := h.1.held
  cases hs with
  | none hchild =>
    refine ⟨⟨by simp [Core.Up],?_⟩,h.2⟩
    rcases hheld with hb | ⟨hn,-⟩
    · exact .inl hb
    · exact .inr ⟨hn,.inr ⟨hchild,.inl (by simp)⟩⟩
  | dead rc hchild =>
    refine ⟨⟨?_,?_⟩,h.2⟩
    · unfold Core.Up Core.foundDead
      dsimp only
      split <;> simp
    · rcases hheld with hb | ⟨hn,hs | ⟨hnone,-⟩⟩
      · exact .inl hb
      · exact .inr ⟨hn,.inl hs⟩
      · exact absurd hnone hchild
  | alive t hchild =>
    refine ⟨⟨by simp [Core.Up],?_⟩,h.2⟩
    rcases hheld with hb | ⟨hn,-⟩
    · exact .inl hb
    · exact .inr ⟨hn,.inl (by simp)⟩

def Event.leaves (id : String) : Event → Prop
  | .start k | .restart k => k ≠ id
  | .tick _ | .stop _ | .heartbeats _ => True

theorem Parked.moved {id : String} {e : Event} (h : Parked k c) (he : e.leaves id)
    (hm : Moved id c e c') : Parked k c' := by
  cases hm with
  | aside hh => exact h.heard hh
  | tick ht => exact ht.keeps parked_kept h
  | started | startRaised | restarted | restartRaised => exact absurd rfl he
  | stopped hs => exact h.stopped hs
  | stopRaised => exact h.asked

end

/-- No restart is pending, and if the child is found dead, its exit will not lead to one. -/
def StopSticks {Ω : Type} (host : Host Ω) (m : Manager Ω) (h : ProcessHandle) : Prop :=
  h.budgetUsed = true ∨ h.nextRestartTMono = none ∧
    ∀ rc, h.exitNow host m.world = some rc →
      h.stopRequestedTMono ≠ none ∨ h.spec.restartPolicy.restarts (some rc) = false

section
variable {Ω : Type} {host : Host Ω} {conf : SupervisionConf} {id : String}

theorem parked_of_stop {m : Manager Ω} {h : ProcessHandle} {c' : Core} (hcond : StopSticks host m h)
    (hs : Stopped h.core.asked (h.exitNow host m.world) c') : Parked c'.history.spawns c' := by
  refine ⟨?_,rfl⟩
  have hbudget : h.core.budgetUsed = h.budgetUsed := rfl
  generalize hrc : h.exitNow host m.world = rc at hs
  cases hs with
  | none hchild =>
    refine ⟨by simp [Core.Up],?_⟩
    rcases hcond with hb | ⟨hn,-⟩
    · exact .inl hb
    · exact .inr ⟨hn,.inr ⟨hchild,.inl (by simp)⟩⟩
  | dead rc hchild =>
    refine ⟨?_,?_⟩
    · unfold Core.Up Core.foundDead
      dsimp only
      split <;> simp
    · rcases hcond with hb | ⟨hn,hdead⟩
      · exact .inl hb
      · rcases hdead rc hrc with hreq | hpolicy
        · exact .inr ⟨hn,.inl hreq⟩
        · exact .inr ⟨hn,.inr ⟨rfl,.inr hpolicy⟩⟩
  | alive t hchild =>
    refine ⟨by simp [Core.Up],?_⟩
    rcases hcond with hb | ⟨hn,-⟩
    · exact .inl hb
    · exact .inr ⟨hn,.inl (by simp)⟩

/-- The manager takes a step in which the operator does not ask for the process to run. -/
def Step (host : Host Ω) (conf : SupervisionConf) (id : String) (m m' : Manager Ω) : Prop :=
  ∃ e : Event, e.leaves id ∧ (e.run host conf).Leaves m m'

theorem parked_of_steps {m m' : Manager Ω} {k : Nat}
    (hsteps : Relation.ReflTransGen (Step host conf id) m m')
    (hparked : ∃ h, m.processes.get? id = some h ∧ Parked k h.core) :
    ∃ h', m'.processes.get? id = some h' ∧ Parked k h'.core := by
  induction hsteps with
  | refl => exact hparked
  | tail _ hstep ih =>
    obtain ⟨e,he,hleaves⟩ := hstep
    obtain ⟨h,hget,hp⟩ := ih
    obtain ⟨h',hget',hmoved⟩ := moved_of_leaves hget hleaves
    exact ⟨h',hget',hp.moved he hmoved⟩

/-- A stop that left no restart behind sticks: whatever happens then, as long as the operator does
not start or restart the process, no tick starts a child for it. -/
theorem stop_sticks {m m₁ m₂ m₃ : Manager Ω} {h h₂ h₃ : ProcessHandle} {n : Nat} (tick : Tick)
    (hget : m.processes.get? id = some h) (hstop : (stopProcess host id).run n m = .ok () m₁)
    (hcond : StopSticks host m h) (hsteps : Relation.ReflTransGen (Step host conf id) m₁ m₂)
    (htick : (superviseManagedProcesses host conf tick).Leaves m₂ m₃)
    (hget₂ : m₂.processes.get? id = some h₂) (hget₃ : m₃.processes.get? id = some h₃) :
    h₃.history.spawns = h₂.history.spawns := by
  obtain ⟨s,hs,rfl⟩ := (total_onHandle hget (total_stopAsOperator ⟨h,[],m.world⟩)).triple.ok rfl hstop
  have hparked : ∃ h', (m.put id s).processes.get? id = some h' ∧
      Parked s.handle.history.spawns h'.core :=
    ⟨s.handle,by simp [hget],parked_of_stop hcond hs⟩
  obtain ⟨h',hget',hp⟩ := parked_of_steps hsteps hparked
  rw [hget₂] at hget'
  cases hget'
  have htick' : ((Event.tick tick).run host conf).Leaves m₂ m₃ := htick
  obtain ⟨h'',hget'',hmoved⟩ := moved_of_leaves hget₂ htick'
  rw [hget₃] at hget''
  cases hget''
  have hp' := Parked.moved (e := .tick tick) hp trivial hmoved
  exact hp'.2.trans hp.2.symm

end

/-- A running child is stopped, and the tick after its time to stop leaves it so. -/
theorem running_stop_sticks : ∃ (m m₁ m₂ : Manager (Nat × Option Int)) (h₂ h₃ : ProcessHandle),
      (stopProcess (steadyHost none) "p").run 0 m = .ok () m₁ ∧
      (superviseManagedProcesses (steadyHost none) {} (tickAt 100)).run 0 m₁ = .ok () m₂ ∧
      m₁.processes.get? "p" = some h₂ ∧ m₂.processes.get? "p" = some h₃ ∧
      h₂.history.spawns = 1 ∧ h₃.history.spawns = h₂.history.spawns := by
  have hrun : ((runEvents (steadyHost none) {} [.start "p"]
      (managerOf { processId := "p",restartPolicy := .always })).bind fun m =>
      (m.processes.get? "p").bind fun h =>
      (Event.after (steadyHost none) {} (.stop "p") m).bind fun m₁ =>
      (m₁.processes.get? "p").bind fun h₂ =>
      (Event.after (steadyHost none) {} (.tick (tickAt 100)) m₁).bind fun m₂ =>
      (m₂.processes.get? "p").map fun _ =>
        (h.nextRestartTMono,h.exitNow (steadyHost none) m.world,h₂.history.spawns)) =
      some (none,none,1) := by decide +kernel
  obtain ⟨m,-,hrun⟩ := bind_eq_some_iff.1 hrun
  obtain ⟨h,hget,hrun⟩ := bind_eq_some_iff.1 hrun
  obtain ⟨m₁,hstop,hrun⟩ := bind_eq_some_iff.1 hrun
  obtain ⟨h₂,hget₂,hrun⟩ := bind_eq_some_iff.1 hrun
  obtain ⟨m₂,htick,hrun⟩ := bind_eq_some_iff.1 hrun
  obtain ⟨h₃,hget₃,hseen⟩ := map_eq_some_iff.1 hrun
  simp only [Prod.mk.injEq] at hseen
  obtain ⟨hnext,hexit,hspawns⟩ := hseen
  have hcond : StopSticks (steadyHost none) m h := by
    refine .inr ⟨hnext,fun rc hrc => ?_⟩
    rw [hexit] at hrc
    cases hrc
  exact ⟨m,m₁,m₂,h₂,h₃,run_of_after hstop,run_of_after htick,hget₂,hget₃,hspawns,
    stop_sticks (tickAt 100) hget (run_of_after hstop) hcond .refl (leaves_of_after htick) hget₂ hget₃⟩

theorem stop_undone_by_pending_restart :
    ∃ (m m₁ m₂ : Manager (Nat × Option Int)), Reachable (steadyHost none) {} m ∧
      (stopProcess (steadyHost none) "p").run 0 m = .ok () m₁ ∧
      (superviseManagedProcesses (steadyHost none) {} (tickAt 100)).run 0 m₁ = .ok () m₂ ∧
      m₁.spawns "p" = some 0 ∧ m₂.spawns "p" = some 1 := by
  have hrun : ((runEvents (steadyHost none) {} [.restart "p"] (managerOf { processId := "p" })).bind
      fun m => (Event.after (steadyHost none) {} (.stop "p") m).bind fun m₁ =>
      (Event.after (steadyHost none) {} (.tick (tickAt 100)) m₁).map fun m₂ =>
        (m₁.spawns "p",m₂.spawns "p")) = some (some 0,some 1) := by decide +kernel
  obtain ⟨m,hm,hrun⟩ := bind_eq_some_iff.1 hrun
  obtain ⟨m₁,hstop,hrun⟩ := bind_eq_some_iff.1 hrun
  obtain ⟨m₂,htick,hseen⟩ := map_eq_some_iff.1 hrun
  simp only [Prod.mk.injEq] at hseen
  exact ⟨m,m₁,m₂,.run (.init (fresh_managerOf _)) hm,run_of_after hstop,run_of_after htick,hseen.1,
    hseen.2⟩

end ExperimentControl.Supervision

import ExperimentControl.Supervision.Processes

/-!
What a supervise tick does to a handle, whatever the operating system answers.
-/

namespace ExperimentControl.Supervision
open Lib Prog Prod

structure Core where
  spec : ProcessSpec
  state : ManagedProcessState
  child : Option (Option Int)
  lastExitCode : Option Int
  restartCount : Int
  terminatedByManager : Bool
  stopRequestedTMono : Option ℚ
  nextRestartTMono : Option ℚ
  history : History

def ProcessHandle.core (h : ProcessHandle) : Core where
  spec := h.spec
  state := h.state
  child := h.popen.map Popen.returncode
  lastExitCode := h.lastExitCode
  restartCount := h.restartCount
  terminatedByManager := h.terminatedByManager
  stopRequestedTMono := h.stopRequestedTMono
  nextRestartTMono := h.nextRestartTMono
  history := h.history

namespace Core

def started (c : Core) : Core :=
  { c with
    child := some none
    state := .starting
    lastExitCode := none
    stopRequestedTMono := none
    nextRestartTMono := none
    terminatedByManager := false
    history := { c.history with spawns := c.history.spawns+1,stopAsked := false } }

def spawnFailed (c : Core) : Core := { c with child := none,state := .failed }

def exitSeen (c : Core) (rc : Int) : Core :=
  { c with
    lastExitCode := some rc
    child := none
    history := { c.history with
      ends := c.history.ends ++
        [⟨rc,c.history.stopAsked,c.terminatedByManager,c.nextRestartTMono.isSome⟩] } }

def exitState (c : Core) (rc : Int) : ManagedProcessState :=
  if c.state = .stopping then .exited else if rc = 0 then .stopped else .failed

theorem exitState_cases (c : Core) (rc : Int) : c.state = .stopping ∧ c.exitState rc = .exited ∨
    c.state ≠ .stopping ∧ (c.exitState rc = .stopped ∨ c.exitState rc = .failed) := by
  unfold exitState
  by_cases hstopping : c.state = .stopping
  · simp [hstopping]
  · by_cases hrc : rc = 0
    · simp [hstopping,hrc]
    · simp [hstopping,hrc]

def scheduled (c : Core) (now : ℚ) : Core :=
  if (c.state = .failed ∨ c.state = .exited) ∧ c.stopRequestedTMono = none ∧
      c.nextRestartTMono = none ∧ c.spec.restartPolicy.restarts c.lastExitCode = true then
    { c with
      nextRestartTMono := some (now+max c.spec.restartBackoffS 0)
      history := { c.history with cause := if c.state = .failed then .failure else .exit } }
  else c

def budgetUsed (c : Core) : Bool :=
  match c.spec.maxRestarts with
  | none => false
  | some m => m ≤ c.restartCount

def restarting (c : Core) : Core :=
  { c with
    restartCount := c.restartCount+1
    nextRestartTMono := none
    stopRequestedTMono := none
    history := c.history.restarted }

def restartFailed (c : Core) : Core :=
  { c with history := { c.history with failedRestarts := c.history.failedRestarts+1 } }

def gone (c : Core) : Bool := c.child.all Option.isSome

inductive Polled (c : Core) : Core → Prop where
  | same : Polled c c
  | learned (rc : Option Int) : c.child = some none → Polled c { c with child := some rc }

end Core

def Acts {Ω α : Type} (P : Core → Prop) (x : Sup Ω α) (Q : α → Core → Prop) (E : Core → Prop) :
    Prop :=
  Total (fun s => P s.handle.core) x (fun a s => Q a s.handle.core) fun _ s => E s.handle.core

namespace Acts
variable {Ω α β : Type} {P P' : Core → Prop} {E E' M : Core → Prop} {Q Q' : α → Core → Prop}
variable {R : β → Core → Prop} {x : Sup Ω α} {f : α → Sup Ω β}

theorem conseq (h : Acts P x Q E) (hp : ∀ c, P' c → P c) (hq : ∀ a c, Q a c → Q' a c)
    (he : ∀ c, E c → E' c) : Acts P' x Q' E' :=
  Total.conseq h (fun _ => hp _) (fun _ _ => hq _ _) fun _ _ => he _

theorem pre (h : Acts P x Q E) (hp : ∀ c, P' c → P c) : Acts P' x Q E :=
  h.conseq hp (fun _ _ h => h) fun _ h => h

theorem post (h : Acts P x Q E) (hq : ∀ a c, Q a c → Q' a c) : Acts P x Q' E :=
  h.conseq (fun _ h => h) hq fun _ h => h

theorem error (h : Acts P x Q E) (he : ∀ c, E c → E' c) : Acts P x Q E' :=
  h.conseq (fun _ h => h) (fun _ _ h => h) he

theorem each (h : ∀ c, P c → Acts (fun c' => c' = c) x Q E) : Acts P x Q E :=
  Total.each fun s hs => Total.pre (h s.handle.core hs) (by
    rintro _ rfl
    rfl)

theorem pure {a : α} (h : ∀ c, P c → Q a c) : Acts P (pure a : Sup Ω α) Q E :=
  Total.pure fun _ => h _

theorem raise {e : String} (h : ∀ c, P c → E c) : Acts P (Prog.raise e : Sup Ω α) Q E :=
  Total.raise fun _ => h _

theorem bind (hx : Acts P x Q E) (hf : ∀ a, Acts (Q a) (f a) R E) : Acts P (x >>= f) R E :=
  Total.bind hx hf

theorem ite {c : Prop} [Decidable c] {y z : Sup Ω α} (hy : c → Acts P y Q E)
    (hz : ¬ c → Acts P z Q E) : Acts P (if c then y else z) Q E := Total.ite hy hz

theorem attempt (hx : Acts P x Q M) :
    Acts P (attempt x) (fun r c => match r with | .ok a => Q a c | .error _ => M c) E :=
  Total.attempt hx (fun _ _ h => h) fun _ _ h => h

end Acts

section
variable {Ω α : Type} {P : Core → Prop} {E : Core → Prop}

theorem acts_self : Acts P (self : Sup Ω ProcessHandle) (fun h c => h.core = c ∧ P c) E :=
  Total.bind (Q := fun a s => a = s ∧ P s.handle.core) (.get fun _ h => ⟨rfl,h⟩) fun _ =>
    .pure fun _ h => ⟨by rw [h.1],h.2⟩

variable {c : Core}

theorem acts_self_bind {f : ProcessHandle → Sup Ω α} {Q : α → Core → Prop}
    (hf : ∀ h : ProcessHandle, h.core = c → Acts (fun c' => c' = c) (f h) Q E) :
    Acts (fun c' => c' = c) (self >>= f) Q E := by
  refine .bind acts_self fun h => .each fun c' hc' => ?_
  obtain ⟨hh,rfl⟩ := hc'
  exact hf h hh

theorem total_self_bind {s₀ : Scope Ω} {f : ProcessHandle → Sup Ω α} {Q : α → Scope Ω → Prop}
    {E : String → Scope Ω → Prop} (hf : Total (fun s => s = s₀) (f s₀.handle) Q E) :
    Total (fun s => s = s₀) (self >>= f) Q E := by
  refine .bind (Q := fun h s => h = s₀.handle ∧ s = s₀)
    (.bind (Q := fun a s => a = s₀ ∧ s = s₀) (.get fun s hs => ⟨hs,hs⟩) fun a =>
      .pure fun s hs => ⟨by rw [hs.1],hs.2⟩) fun h => .each fun s hs => ?_
  obtain ⟨rfl,rfl⟩ := hs
  exact hf

theorem acts_update {f : ProcessHandle → ProcessHandle} {Q : Unit → Core → Prop}
    (h : ∀ x : ProcessHandle, P x.core → Q () (f x).core) : Acts P (update f : Sup Ω Unit) Q E :=
  Total.modify fun s hs => h s.handle hs

theorem acts_update_rest {f : ProcessHandle → ProcessHandle} (h : ∀ x, (f x).core = x.core) :
    Acts P (update f : Sup Ω Unit) (fun _ => P) E :=
  acts_update fun x hx => by rwa [h x]

theorem acts_call {f : Ω → Except String α × Ω} :
    Acts P (call f) (fun _ => P) (fun c => (∃ ω e, (f ω).1 = .error e) ∧ P c) := by
  refine Total.ofFun ?_ ?_
  · intro s a s' hs hf
    obtain ⟨-,rfl⟩ := mk.inj hf
    exact hs
  · intro s e s' hs hf
    obtain ⟨he,rfl⟩ := mk.inj hf
    exact ⟨⟨s.world,e,he⟩,hs⟩

theorem acts_ask {f : Ω → α × Ω} : Acts P (ask f) (fun _ => P) E := by
  refine Total.ofFun ?_ ?_
  · intro s a s' hs hf
    obtain ⟨-,rfl⟩ := mk.inj hf
    exact hs
  · intro s e s' hs hf
    cases hf

theorem acts_attempt_call {f : Ω → Except String α × Ω} :
    Acts P (attempt (call f)) (fun _ => P) E :=
  (acts_call.attempt).post (by
    intro r c hc
    cases r with
    | ok a => exact hc
    | error e => exact hc.2)

variable {host : Host Ω}

structure PollAnswer (c : Core) (rc : Option Int) (c' : Core) : Prop where
  polled : c.Polled c'
  child : c'.child = some rc

structure PollRaised (host : Host Ω) (c c' : Core) : Prop where
  raises : ¬ host.Quiet
  same : c' = c
  alive : c.child = some none

theorem acts_poll {p : Popen} (hp : c.child = some p.returncode) :
    Acts (fun c' => c' = c) (poll host p) (PollAnswer c) (PollRaised host c) := by
  unfold poll
  cases hrc : p.returncode with
  | some rc =>
    refine .pure fun c' hc' => ?_
    subst hc'
    exact ⟨.same,by rw [hp,hrc]⟩
  | none =>
    have hraised : (∃ ω e, (host.poll p.pid ω).1 = .error e) → ¬ host.Quiet := by
      rintro ⟨ω,e,he⟩ hquiet
      exact hquiet.poll p.pid ω e he
    refine .bind (acts_call.error fun c' hc' => ⟨hraised hc'.1,hc'.2,by rw [hp,hrc]⟩) fun rc => ?_
    refine .bind (acts_update (Q := fun _ => PollAnswer c rc) fun h hh => ?_)
      fun _ => .pure fun _ h => h
    subst hh
    exact ⟨.learned rc (by rw [hp,hrc]),rfl⟩

theorem child_of_core {h : ProcessHandle} {p : Popen} (hc : h.core = c)
    (hp : h.popen = some p) : c.child = some p.returncode := by
  subst hc
  simp [ProcessHandle.core,hp]

theorem no_child_of_core {h : ProcessHandle} (hc : h.core = c) (hp : h.popen = none) :
    c.child = none := by
  subst hc
  simp [ProcessHandle.core,hp]

theorem acts_childAlive :
    Acts (fun c' => c' = c) (childAlive host) (fun alive c' => c.Polled c' ∧ c'.gone = !alive)
      (PollRaised host c) := by
  unfold childAlive
  refine acts_self_bind fun h hc => ?_
  cases hp : h.popen with
  | none =>
    refine .pure fun c' hc' => ?_
    subst hc'
    exact ⟨.same,by simp [Core.gone,no_child_of_core hc hp]⟩
  | some p =>
    refine .bind (acts_poll (child_of_core hc hp)) fun rc => .pure fun c' hc' => ?_
    refine ⟨hc'.polled,?_⟩
    rw [Core.gone,hc'.child]
    cases rc with
    | none => rfl
    | some rc => rfl

end

/-- `start_process_handle` has returned. -/
inductive Started (c : Core) : Core → Prop where
  | alive {c' : Core} : c.Polled c' → c'.gone = false → Started c c'
  | crashloop {c' : Core} : c.Polled c' → c.state = .crashloop → Started c c'
  | spawned : Started c c.started

inductive StartRaised (c : Core) : Core → Prop where
  | before {c' : Core} : c.Polled c' → StartRaised c c'
  | spawn : StartRaised c c.spawnFailed

namespace Core.Polled
variable {c c' : Core}

theorem state_eq (h : c.Polled c') : c'.state = c.state := by
  cases h with
  | same => rfl
  | learned rc hc => rfl

theorem started_eq (h : c.Polled c') : c'.started = c.started := by
  cases h with
  | same => rfl
  | learned rc hc => rfl

theorem spawnFailed_eq (h : c.Polled c') : c'.spawnFailed = c.spawnFailed := by
  cases h with
  | same => rfl
  | learned rc hc => rfl

end Core.Polled

section
variable {Ω : Type} {host : Host Ω} {c : Core}

theorem acts_startProcessHandle (r : Bool) :
    Acts (fun c' => c' = c) (startProcessHandle host r) (fun _ => Started c) (StartRaised c) := by
  unfold startProcessHandle
  refine .bind (acts_childAlive.error fun c' hc' => hc'.same ▸ .before .same) fun alive => ?_
  cases alive with
  | true => exact .pure fun c' hc' => .alive hc'.1 hc'.2
  | false =>
    refine .each fun c₁ hc₁ => acts_self_bind fun h hh => ?_
    refine .ite (fun hcrash => .pure ?_) fun _ => ?_
    · rintro _ rfl
      refine .crashloop hc₁.1 ?_
      rw [← hc₁.1.state_eq,← hh]
      exact hcrash
    · refine .bind (acts_call.error fun c' hc' => hc'.2 ▸ .before hc₁.1) fun _ => ?_
      refine .bind acts_call.attempt fun spawned => ?_
      cases spawned with
      | error exc =>
        refine .bind (acts_update (Q := fun _ c' => StartRaised c c') fun x hx => ?_)
          fun _ => .raise fun _ h => h
        obtain ⟨-,hx⟩ := hx
        have hfailed : (x.spawnFailed exc).core = c₁.spawnFailed := by
          rw [← hx]
          rfl
        rw [hfailed,hc₁.1.spawnFailed_eq]
        exact .spawn
      | ok pid =>
        refine .bind acts_ask fun now => acts_update fun x hx => ?_
        have hstarted : (x.started pid now r).core = c₁.started := by
          rw [← hx]
          rfl
        rw [hstarted,hc₁.1.started_eq]
        exact .spawned

theorem total_childAlive_gone {s₀ : Scope Ω} (hgone : s₀.handle.core.gone = true) :
    Total (fun s => s = s₀) (childAlive host) (fun alive s => alive = false ∧ s = s₀)
      (fun _ _ => False) := by
  unfold childAlive
  refine total_self_bind ?_
  cases hp : s₀.handle.popen with
  | none => exact .pure fun s' hs' => ⟨rfl,hs'⟩
  | some p =>
    cases hrc : p.returncode with
    | none => simp [Core.gone,ProcessHandle.core,hp,hrc] at hgone
    | some rc =>
      simp only [poll,hrc]
      refine .bind (Q := fun a s' => a = some rc ∧ s' = s₀) (.pure fun s' hs' => ⟨rfl,hs'⟩) fun a => ?_
      refine .pure fun s' hs' => ⟨?_,hs'.2⟩
      rw [hs'.1]
      rfl

theorem spawn_connect_error {id : String} {ω : Ω} {e : String}
    (h : (host.connect id ω).1 = .error e) : (host.spawn id ω).1 = .error e := by
  unfold Host.spawn
  cases hc : host.connect id ω with
  | mk r ω' =>
    rw [hc] at h
    cases h
    rfl

theorem spawn_connect_ok {id : String} {ω : Ω} {u : Unit} (h : (host.connect id ω).1 = .ok u) :
    host.spawn id ω = host.popen id (host.connect id ω).2 := by
  unfold Host.spawn
  cases hc : host.connect id ω with
  | mk r ω' =>
    rw [hc] at h
    cases h
    rfl

theorem total_startProcessHandle_gone {s₀ : Scope Ω} (r : Bool)
    (hgone : s₀.handle.core.gone = true) :
    Total (fun s => s = s₀) (startProcessHandle host r) (fun _ _ => True)
      (fun _ _ => ∃ e, (host.spawn s₀.handle.spec.processId s₀.world).1 = .error e) := by
  unfold startProcessHandle
  refine .bind ((total_childAlive_gone hgone).conseq (fun _ h => h) (fun _ _ h => h)
    fun _ _ h => h.elim) fun alive => .each fun s hs => ?_
  obtain ⟨rfl,rfl⟩ := hs
  refine total_self_bind ?_
  refine .ite (fun _ => .pure fun _ _ => trivial) fun _ => ?_
  refine .bind (Q := fun _ s' => host.spawn s.handle.spec.processId s.world =
    host.popen s.handle.spec.processId s'.world) ?_ fun _ => ?_
  · refine .ofFun ?_ ?_
    · rintro _ a s₁ rfl hs₁
      obtain ⟨hok,rfl⟩ := mk.inj hs₁
      exact spawn_connect_ok hok
    · rintro _ e s₁ rfl hs₁
      exact ⟨e,spawn_connect_error (mk.inj hs₁).1⟩
  · refine .bind (Q := fun a _ => ∀ e, a = .error e →
      (host.spawn s.handle.spec.processId s.world).1 = .error e) ?_ fun spawned => ?_
    · refine .attempt (Q := fun _ _ => True)
        (M := fun e _ => (host.spawn s.handle.spec.processId s.world).1 = .error e)
        (.ofFun (fun _ _ _ _ _ => trivial) ?_) (fun a s _ e he => by cases he) ?_
      · intro s' e s₁ hs' hs₁
        obtain ⟨herr,-⟩ := mk.inj hs₁
        rw [hs']
        exact herr
      · rintro e s hs _ ⟨⟩
        exact hs
    · cases spawned with
      | error exc =>
        refine .bind (Q := fun _ _ => ∃ e,
          (host.spawn s.handle.spec.processId s.world).1 = .error e)
          (.modify fun s hs => ⟨exc,hs exc rfl⟩) fun _ => .raise fun _ h => h
      | ok pid =>
        refine .bind (Q := fun _ _ => True) (.ofFun (fun _ _ _ _ _ => trivial) ?_) fun now =>
          .modify fun _ _ => trivial
        intro s e s₁ _ hs₁
        cases hs₁

/-- What the poll at the head of the tick leads to, and whether the start was tried again. -/
inductive ExitStep (c : Core) : Bool → Core → Prop where
  | none : c.child = none → ExitStep c false c
  | alive : c.child = some none → ExitStep c false c
  | ended (rc : Int) : c.child ≠ none →
      ExitStep c false { c.exitSeen rc with state := c.exitState rc }
  | recovered (rc : Int) : c.child ≠ none → c.state = .starting → rc ≠ 0 →
      ExitStep c true (c.exitSeen rc).started

variable {c' : Core}

theorem Core.Polled.eq_of_no_child (h : c.Polled c') (hchild : c.child = none) : c' = c := by
  cases h with
  | same => rfl
  | learned rc hc =>
    rw [hchild] at hc
    cases hc

theorem Started.of_no_child (h : Started c c') (hchild : c.child = none)
    (hstate : c.state ≠ .crashloop) : c' = c.started := by
  cases h with
  | alive hpolled halive =>
    rw [hpolled.eq_of_no_child hchild,Core.gone,hchild] at halive
    cases halive
  | crashloop hpolled hcrash => exact absurd hcrash hstate
  | spawned => rfl

variable {E : Core → Prop}

theorem acts_maybeRecover (hchild : c.child = none) :
    Acts (fun c' => c' = c) (maybeRecoverProcessStartCollision host)
      (fun recovered c' => if recovered then c.state = .starting ∧ c' = c.started
        else c' = c ∨ c' = { c with state := .failed }) E := by
  unfold maybeRecoverProcessStartCollision
  refine acts_self_bind fun h hh => ?_
  have hkeep : ∀ c', c' = c → c' = c ∨ c' = { c with state := .failed } := fun _ => .inl
  refine .ite (fun _ => .pure hkeep) fun hstarting => ?_
  have hstate : c.state = .starting := by
    rw [← hh]
    exact not_not.1 hstarting
  refine .ite (fun _ => .pure hkeep) fun _ => ?_
  refine .bind (Q := fun _ c' => c' = c) ?_ fun collision => ?_
  · unfold collisionSeen
    exact .ite (fun _ => .pure fun _ h => h) fun _ => acts_ask
  refine .ite (fun _ => ?_) fun _ => .pure hkeep
  refine .bind (acts_update_rest fun _ => rfl) fun _ => .bind acts_ask fun _ => ?_
  refine .bind (acts_startProcessHandle false).attempt fun started => ?_
  cases started with
  | ok _ =>
    refine .pure fun c' hc' => ⟨hstate,?_⟩
    exact hc'.of_no_child hchild (by simp [hstate])
  | error exc =>
    refine .bind (acts_update (Q := fun _ c' => c' = { c with state := .failed }) fun x hx => ?_)
      fun _ => .pure fun _ h => .inr h
    generalize hx' : x.core = c' at hx
    have hcore : ({ x with
        state := .failed
        lastError := some ("collision cleanup retry failed: " ++ exc)
        lastErrorKind := some "collision_recover_failed" } : ProcessHandle).core =
        { c' with state := .failed } := by
      rw [← hx']
      rfl
    rw [hcore]
    cases hx with
    | before hpolled => rw [hpolled.eq_of_no_child hchild]
    | spawn => simp [Core.spawnFailed,← hchild]

theorem acts_updateExitState (rc : Int) (hchild : c.child ≠ none) :
    Acts (fun c' => c.Polled c') (updateManagedProcessExitState host rc) (ExitStep c)
      (fun _ => False) := by
  unfold updateManagedProcessExitState
  have hseen : ∀ {x : ProcessHandle}, c.Polled x.core → (x.exitSeen rc).core = c.exitSeen rc := by
    intro x hx
    generalize hx' : x.core = c' at hx
    have hcore : (x.exitSeen rc).core = c'.exitSeen rc := by
      rw [← hx']
      rfl
    rw [hcore]
    cases hx with
    | same => rfl
    | learned rc hc => rfl
  refine .bind (acts_update (Q := fun _ c' => c' = c.exitSeen rc) fun x hx => hseen hx)
    fun _ => acts_self_bind fun h hh => ?_
  have hstate : h.state = c.state := congrArg Core.state hh
  have hended : ∀ state, c.exitState rc = state → ExitStep c false { c.exitSeen rc with state } := by
    rintro _ rfl
    exact .ended rc hchild
  refine .ite (fun hstopping => ?_) fun hstopping => .ite (fun hrc => ?_) fun hrc => ?_
  · refine .bind (acts_update (Q := fun _ => ExitStep c false) fun x hx => ?_) fun _ =>
      .pure fun _ h => h
    have := hended .exited (by simp [Core.exitState,← hstate,hstopping])
    rw [← hx] at this
    exact this
  · refine .bind (acts_update (Q := fun _ => ExitStep c false) fun x hx => ?_) fun _ =>
      .pure fun _ h => h
    have := hended .stopped (by simp [Core.exitState,← hstate,hstopping,hrc])
    rw [← hx] at this
    exact this
  · refine .bind (acts_maybeRecover rfl) fun recovered => ?_
    cases recovered with
    | true =>
      refine .ite (fun _ => .pure fun c' hc' => ?_) fun h => absurd rfl h
      rw [hc'.2]
      exact .recovered rc hchild hc'.1 hrc
    | false =>
      refine .ite (absurd · Bool.false_ne_true) fun _ => ?_
      refine .bind (acts_update (Q := fun _ => ExitStep c false) fun x hx => ?_) fun _ =>
        .pure fun _ h => h
      have := hended .failed (by simp [Core.exitState,← hstate,hstopping,hrc])
      rcases hx with hx | hx
      · rw [← hx] at this
        exact this
      · have hsame : ({ c.exitSeen rc with state := .failed } : Core) =
            { x.core with state := .failed } := by rw [hx]
        rw [hsame] at this
        exact this

theorem acts_observeExit :
    Acts (fun c' => c' = c) (observeExit host) (ExitStep c) (PollRaised host c) := by
  unfold observeExit
  refine acts_self_bind fun h hh => ?_
  cases hp : h.popen with
  | none =>
    refine .pure fun c' hc' => ?_
    subst hc'
    exact .none (no_child_of_core hh hp)
  | some p =>
    have hchild := child_of_core hh hp
    refine .bind (acts_poll hchild) fun rc => ?_
    cases rc with
    | none =>
      refine .pure fun c' hc' => ?_
      obtain ⟨hpolled,hnone⟩ := hc'
      cases hpolled with
      | same => exact .alive hnone
      | learned rc hc =>
        cases hnone
        have hsame : ({ c with child := some none } : Core) = c := by rw [← hc]
        rw [hsame]
        exact .alive hc
    | some rc =>
      refine ((acts_updateExitState rc (by simp [hchild])).pre fun c' hc' => hc'.polled).error ?_
      exact fun _ h => h.elim

def Core.Up (c : Core) : Prop := c.state = .starting ∨ c.state = .running

def Core.silent (c : Core) : Core := { c with state := .failed,terminatedByManager := false }

inductive HeartbeatStep (now : ℚ) (c : Core) : Core → Prop where
  | same : HeartbeatStep now c c
  | heard : c.state = .starting → HeartbeatStep now c { c with state := .running }
  | failed {c' : Core} : c.Up → c.silent.Polled c' → HeartbeatStep now c c'
  | terminated : c.Up → c.child = some none →
      HeartbeatStep now c
        { c with state := .failed,terminatedByManager := true,stopRequestedTMono := some now }

def HeartbeatRaised (c c' : Core) : Prop := c.Up ∧ c' = c.silent

theorem acts_failStaleProcess (now age : ℚ) (hup : c.Up) :
    Acts (fun c' => c' = c) (failStaleProcess host now age) (fun _ => HeartbeatStep now c)
      (fun c' => ¬ host.Quiet ∧ HeartbeatRaised c c') := by
  unfold failStaleProcess
  refine .bind (acts_update (Q := fun _ c' => c' = c.silent) fun x hx => by rw [← hx]; rfl)
    fun _ => acts_self_bind fun h hh => ?_
  cases hp : h.popen with
  | none =>
    refine .pure fun c' hc' => .failed hup ?_
    rw [hc']
    exact .same
  | some p =>
    refine .bind ((acts_poll (child_of_core hh hp)).error fun c' hc' =>
      ⟨hc'.raises,hup,hc'.same⟩) fun rc => ?_
    cases rc with
    | some rc => exact .pure fun c' hc' => .failed hup hc'.polled
    | none =>
      refine .each fun c' hc' => ?_
      refine .bind acts_attempt_call fun terminated => ?_
      cases terminated with
      | ok _ =>
        refine acts_update fun x hx => ?_
        have hchild : c.child = some none ∧ c' = c.silent := by
          obtain ⟨hpolled,hnone⟩ := hc'
          cases hpolled with
          | same => exact ⟨hnone,rfl⟩
          | learned rc hc =>
            cases hnone
            exact ⟨hc,by rw [← hc]⟩
        have hcore : ({ x with stopRequestedTMono := some now,terminatedByManager := true } :
            ProcessHandle).core =
            { c with state := .failed,terminatedByManager := true,stopRequestedTMono := some now } := by
          have hx' : x.core = c.silent := hx.trans hchild.2
          change ({ x.core with stopRequestedTMono := some now,terminatedByManager := true } : Core) = _
          rw [hx']
          rfl
        rw [hcore]
        exact .terminated hup hchild.1
      | error exc =>
        refine acts_update fun x hx => .failed hup ?_
        change c.silent.Polled x.core
        rw [hx]
        exact hc'.polled

inductive Heard (c : Core) : Core → Prop where
  | same : Heard c c
  | running : c.state = .starting → Heard c { c with state := .running }

theorem Heard.trans {c₁ c₂ : Core} (h₁ : Heard c c₁) (h₂ : Heard c₁ c₂) : Heard c c₂ := by
  cases h₁ with
  | same => exact h₂
  | running hs =>
    cases h₂ with
    | same => exact .running hs
    | running hs' => cases hs'

theorem heard_ingest (hb : Heartbeat) (h : ProcessHandle) :
    Heard h.core (ingestProcessHeartbeat hb h).core := by
  by_cases hs : h.state = .starting
  · have hcore : (ingestProcessHeartbeat hb h).core = { h.core with state := .running } := by
      simp [ingestProcessHeartbeat,ProcessHandle.core,hs]
    rw [hcore]
    exact .running hs
  · have hcore : (ingestProcessHeartbeat hb h).core = h.core := by
      simp [ingestProcessHeartbeat,ProcessHandle.core,hs]
    rw [hcore]
    exact .same

theorem heard_foldl (heartbeats : List Heartbeat) (h : ProcessHandle) :
    Heard h.core (heartbeats.foldl (fun h hb => ingestProcessHeartbeat hb h) h).core := by
  induction heartbeats generalizing h with
  | nil => exact .same
  | cons hb rest ih => exact (heard_ingest hb h).trans (ih _)

theorem acts_refreshIfStale (stale : Bool) :
    Acts (fun c' => c' = c) (refreshIfStale host stale) (fun _ => Heard c) E := by
  have hsame : ∀ c', c' = c → Heard c c' := by
    rintro _ rfl
    exact .same
  unfold refreshIfStale
  refine .ite (fun _ => ?_) fun _ => .pure hsame
  unfold refreshPendingProcessHeartbeats
  refine .bind acts_ask fun heartbeats => Total.modify fun s hs => ?_
  subst hs
  exact heard_foldl _ s.handle

variable {now : ℚ}

theorem HeartbeatStep.of_heard {c₁ c' : Core} (h : Heard c c₁)
    (hstep : HeartbeatStep now c₁ c') : HeartbeatStep now c c' := by
  cases h with
  | same => exact hstep
  | running hs =>
    have hup : c.Up := .inl hs
    cases hstep with
    | same => exact .heard hs
    | heard hs' => cases hs'
    | failed _ hpolled => exact .failed hup hpolled
    | terminated _ hchild => exact .terminated hup hchild

variable (conf : SupervisionConf)

variable (tick : Tick)

theorem acts_staleHeartbeat (age : ℚ) (hup : c.Up) :
    Acts (fun c' => c' = c) (staleHeartbeat host conf tick age)
      (fun _ => HeartbeatStep tick.nowMono c) (fun c' => ¬ host.Quiet ∧ HeartbeatRaised c c') := by
  have hsame : ∀ c', c' = c → HeartbeatStep tick.nowMono c c' := by
    rintro _ rfl
    exact .same
  unfold staleHeartbeat
  refine .bind (acts_update_rest fun x => by split <;> rfl) fun _ => acts_self_bind fun h _ => ?_
  refine .ite (fun _ => .pure hsame) fun _ => ?_
  refine .bind (acts_update_rest fun x => by split <;> rfl) fun _ => acts_self_bind fun h _ => ?_
  refine .ite (fun _ => ?_) fun _ => .ite (fun _ => .pure hsame) fun _ =>
    acts_failStaleProcess _ _ hup
  refine (acts_update_rest ?_).post fun _ c' hc' => hsame c' hc'
  exact fun x => rfl

theorem acts_enforceHeartbeatTimeout :
    Acts (fun c' => c' = c) (enforceManagedProcessHeartbeatTimeout host conf tick)
      (fun _ => HeartbeatStep tick.nowMono c) (fun c' => ¬ host.Quiet ∧ HeartbeatRaised c c') := by
  have hsame : ∀ c', c' = c → HeartbeatStep tick.nowMono c c' := by
    rintro _ rfl
    exact .same
  unfold enforceManagedProcessHeartbeatTimeout
  refine acts_self_bind fun h hh => ?_
  refine .ite (fun _ => .pure hsame) fun hstate => ?_
  have hup : c.Up := by
    rw [← hh]
    by_contra hdown
    simp only [Core.Up,not_or] at hdown
    exact hstate hdown
  cases heartbeatAgeS h tick.nowMono with
  | none => exact .pure hsame
  | some age =>
    refine .bind (acts_refreshIfStale _) fun _ => .each fun c₁ hc₁ => ?_
    have hup₁ : c₁.Up := by
      cases hc₁ with
      | same => exact hup
      | running hs => exact .inr rfl
    have hsame₁ : ∀ c', c' = c₁ → HeartbeatStep tick.nowMono c c' := by
      rintro _ rfl
      exact .of_heard hc₁ .same
    refine acts_self_bind fun h₁ _ => ?_
    cases heartbeatAgeS h₁ tick.nowMono with
    | none => exact .pure hsame₁
    | some age =>
      refine .ite (fun _ => ?_) fun _ => ?_
      · refine (acts_update_rest ?_).post fun _ c' hc' => hsame₁ c' hc'
        exact fun x => rfl
      · refine (acts_staleHeartbeat conf tick age hup₁).conseq (fun _ h => h)
          (fun _ c' hc' => .of_heard hc₁ hc') fun c' hc' => ⟨hc'.1,hup,?_⟩
        rw [hc'.2.2]
        cases hc₁ with
        | same => rfl
        | running hs => rfl

inductive StopStep (now : ℚ) (c : Core) : Core → Prop where
  | same {c' : Core} : c.Polled c' → StopStep now c c'
  | rearmed : c.state = .stopping → c.stopRequestedTMono = none →
      StopStep now c { c with stopRequestedTMono := some now }
  | killed : c.state = .stopping → c.stopRequestedTMono ≠ none →
      StopStep now c { c with state := .failed }

theorem Core.Polled.eq_of_alive (h : PollAnswer c none c') : c' = c := by
  obtain ⟨hpolled,hnone⟩ := h
  cases hpolled with
  | same => rfl
  | learned rc hc =>
    cases hnone
    rw [← hc]

theorem acts_killChild (p : Popen) (now : ℚ) (hstate : c.state = .stopping)
    (hreq : c.stopRequestedTMono ≠ none) :
    Acts (fun c' => c' = c) (killChild host p) (fun _ => StopStep now c) E := by
  unfold killChild
  refine .bind (acts_update_rest fun x => rfl) fun _ => .bind (Q := fun _ c' => c' = c) ?_ fun _ => ?_
  · unfold attemptKill
    refine .bind acts_attempt_call fun killed => ?_
    cases killed with
    | ok _ => exact .pure fun _ h => h
    | error exc => exact acts_update_rest fun x => rfl
  · refine acts_update fun x hx => ?_
    by_cases hmax : maxKillAttempts ≤ x.killAttempts
    · have hkilled : StopStep now c _ := .killed hstate hreq
      rw [if_pos hmax]
      rw [← hx] at hkilled ⊢
      exact hkilled
    · rw [if_neg hmax,hx]
      exact .same .same

theorem acts_enforceStopTimeout (now : ℚ) :
    Acts (fun c' => c' = c) (enforceManagedProcessStopTimeout host now) (fun _ => StopStep now c)
      (PollRaised host c) := by
  have hsame : ∀ c', c' = c → StopStep now c c' := by
    rintro _ rfl
    exact .same .same
  unfold enforceManagedProcessStopTimeout
  refine acts_self_bind fun h hh => .ite (fun _ => .pure hsame) fun hstopping => ?_
  have hstate : c.state = .stopping := by
    rw [← hh]
    exact not_not.1 hstopping
  cases hp : h.popen with
  | none => exact .pure hsame
  | some p =>
    refine .bind (acts_poll (child_of_core hh hp)) fun rc => ?_
    cases rc with
    | some rc => exact .pure fun c' hc' => .same hc'.polled
    | none =>
      refine .each fun c' hc' => ?_
      rw [Core.Polled.eq_of_alive hc']
      have hreq : h.stopRequestedTMono = c.stopRequestedTMono :=
        congrArg Core.stopRequestedTMono hh
      cases ht : h.stopRequestedTMono with
      | none =>
        refine acts_update fun x hx => ?_
        have hrearmed : StopStep now c _ := .rearmed hstate (by rw [← hreq,ht])
        rw [← hx] at hrearmed ⊢
        exact hrearmed
      | some t =>
        refine .ite (fun _ => .pure hsame) fun _ => acts_killChild p now hstate ?_
        simp [← hreq,ht]

/-- `try_restart_process` has returned. -/
inductive Retried (c : Core) : Core → Prop where
  | crashloop : c.budgetUsed = true →
      Retried c { c with state := .crashloop,nextRestartTMono := none }
  | restarted {c' : Core} : c.budgetUsed = false → Started c.restarting c' → Retried c c'

inductive RetryRaised (c : Core) : Core → Prop where
  | restarted {c' : Core} : c.budgetUsed = false → StartRaised c.restarting c' →
      RetryRaised c c'.restartFailed

def StartAttempted {ε α : Type} (quiet : Prop) (c : Core) : Except ε α → Core → Prop
  | .ok _,c' => Started c c'
  | .error _,c' => ¬ quiet ∧ StartRaised c c'

theorem acts_tryRestartProcess (hgone : c.gone = true) :
    Acts (fun c' => c' = c) (tryRestartProcess host) (fun _ => Retried c)
      (fun c' => ¬ host.Quiet ∧ RetryRaised c c') := by
  unfold tryRestartProcess
  refine acts_self_bind fun h hh => ?_
  have hbudget : h.budgetUsed = c.budgetUsed := by
    rw [← hh]
    rfl
  refine .ite (fun hused => ?_) fun hleft => ?_
  · refine acts_update fun x hx => ?_
    have hcrash := Retried.crashloop (hbudget ▸ hused)
    rw [← hx] at hcrash ⊢
    exact hcrash
  · have hleft' : c.budgetUsed = false := by
      rw [← hbudget]
      exact Bool.eq_false_iff.2 hleft
    refine Total.each fun s₀ hs₀ => ?_
    refine .bind (Q := fun _ s => s = { s₀ with world := (host.monotonic s₀.world).2 }) ?_ fun _ => ?_
    · refine .ofFun ?_ fun s e s' _ hs' => by cases hs'
      rintro s a s' rfl hs'
      obtain ⟨-,rfl⟩ := mk.inj hs'
      rfl
    refine .bind (Q := fun _ s => s.world = (host.monotonic s₀.world).2 ∧
      s.handle.core = c.restarting) (.modify fun s hs => ?_) fun _ => .each fun s hs => ?_
    · rw [hs,← hs₀]
      exact ⟨rfl,rfl⟩
    · have hstart : Total (fun s' => s' = s) (startProcessHandle host true)
          (fun _ s' => Started c.restarting s'.handle.core)
          (fun _ s' => StartRaised c.restarting s'.handle.core) :=
        Total.pre (acts_startProcessHandle true) fun s' hs' => by rw [hs',hs.2]
      have hgone' : s.handle.core.gone = true := by
        rw [hs.2]
        exact hgone
      refine .bind (((total_startProcessHandle_gone true hgone').and hstart).attempt
        (R := fun a (s' : Scope Ω) => StartAttempted host.Quiet c.restarting a s'.handle.core)
        (fun _ _ h => h.2) ?_) fun started => ?_
      · rintro - s' ⟨⟨e,he⟩,hs'⟩
        rw [hs.1] at he
        exact ⟨fun hquiet => hquiet.spawn _ s₀.world e he,hs'⟩
      · cases started with
        | ok _ => exact .pure fun s' hs' => .restarted hleft' hs'
        | error exc =>
          refine .bind (Q := fun _ s' => ¬ host.Quiet ∧ RetryRaised c s'.handle.core)
            (.modify fun s' hs' => ⟨hs'.1,.restarted hleft' hs'.2⟩) fun _ => .raise fun _ h => h

def Core.Due (c : Core) (now : ℚ) : Prop := ∃ t, c.nextRestartTMono = some t ∧ t ≤ now

inductive RestartStep (now : ℚ) (c : Core) : Core → Prop where
  | idle {c' : Core} : (c.scheduled now).Polled c' →
      c'.gone = false ∨ ¬ (c.scheduled now).Due now → RestartStep now c c'
  | due {c₁ c' : Core} : (c.scheduled now).Due now → (c.scheduled now).Polled c₁ →
      c₁.gone = true → Retried c₁ c' → RestartStep now c c'

inductive RestartRaised (now : ℚ) (c : Core) : Core → Prop where
  | poll : c.child = some none → RestartRaised now c (c.scheduled now)
  | due {c₁ c' : Core} : (c.scheduled now).Due now → (c.scheduled now).Polled c₁ →
      c₁.gone = true → RetryRaised c₁ c' → RestartRaised now c c'

theorem core_maybeScheduleRestart (now : ℚ) (h : ProcessHandle) :
    (if (h.state = .failed ∨ h.state = .exited) ∧ h.stopRequestedTMono = none then
      maybeScheduleRestart now h else h).core = h.core.scheduled now := by
  unfold Core.scheduled maybeScheduleRestart
  by_cases hstate : (h.state = .failed ∨ h.state = .exited) ∧ h.stopRequestedTMono = none
  · cases hnext : h.nextRestartTMono with
    | some t => simp [ProcessHandle.core,hnext]
    | none =>
      by_cases hpolicy : h.spec.restartPolicy.restarts h.lastExitCode = true
      · simp [ProcessHandle.core,hnext,hstate,hpolicy]
      · simp [ProcessHandle.core,hnext,hpolicy]
  · rw [if_neg hstate,if_neg]
    exact fun h' => hstate ⟨h'.1,h'.2.1⟩

theorem scheduled_frame (c : Core) (now : ℚ) : ∃ next cause, c.scheduled now =
    { c with nextRestartTMono := next,history := { c.history with cause := cause } } := by
  unfold Core.scheduled
  split
  · exact ⟨_,_,rfl⟩
  · exact ⟨_,_,rfl⟩

@[simp] theorem scheduled_child : (c.scheduled now).child = c.child := by
  obtain ⟨next,cause,h⟩ := scheduled_frame c now
  rw [h]

@[simp] theorem scheduled_state : (c.scheduled now).state = c.state := by
  obtain ⟨next,cause,h⟩ := scheduled_frame c now
  rw [h]

@[simp] theorem budgetUsed_scheduled : (c.scheduled now).budgetUsed = c.budgetUsed := by
  obtain ⟨next,cause,h⟩ := scheduled_frame c now
  rw [h]
  rfl

theorem scheduled_next : (c.scheduled now).nextRestartTMono ≠ none ↔
    c.nextRestartTMono ≠ none ∨ (c.state = .failed ∨ c.state = .exited) ∧
      c.stopRequestedTMono = none ∧ c.spec.restartPolicy.restarts c.lastExitCode = true := by
  unfold Core.scheduled
  split
  · rename_i hcond
    simp [hcond.1,hcond.2.1,hcond.2.2.2]
  · rename_i hcond
    constructor
    · exact .inl
    · rintro (hnext | ⟨hstate,hreq,hpolicy⟩)
      · exact hnext
      · exact fun hnext => hcond ⟨hstate,hreq,hnext,hpolicy⟩

/-- What the history tells of the past: the ends seen, the restarts that raised, and the ticks. -/
def Core.log (c : Core) : List Ended × Nat × Nat :=
  (c.history.ends,c.history.failedRestarts,c.history.checks)

theorem Core.Polled.log_eq (hp : c.Polled c') : c'.log = c.log := by
  cases hp with
  | same => rfl
  | learned rc hc => rfl

@[simp] theorem scheduled_log : (c.scheduled now).log = c.log := by
  obtain ⟨next,cause,h⟩ := scheduled_frame c now
  rw [h]
  rfl

@[simp] theorem restarting_log : c.restarting.log = c.log := by
  unfold Core.log Core.restarting History.restarted
  dsimp only
  split
  · rfl
  · rfl

theorem Started.log_eq (hs : Started c c') : c'.log = c.log := by
  cases hs with
  | alive hp => exact hp.log_eq
  | crashloop hp => exact hp.log_eq
  | spawned => rfl

theorem RestartStep.log_eq (hs : RestartStep now c c') : c'.log = c.log := by
  cases hs with
  | idle hp => exact hp.log_eq.trans scheduled_log
  | due hdue hp hgone hretried =>
    have hlog := hp.log_eq.trans scheduled_log
    cases hretried with
    | crashloop => exact hlog
    | restarted hleft hstarted => exact hstarted.log_eq.trans (restarting_log.trans hlog)

theorem HeartbeatStep.log_eq (hs : HeartbeatStep now c c') : c'.log = c.log := by
  cases hs with
  | same => rfl
  | heard => rfl
  | failed hup hp => exact hp.log_eq
  | terminated => rfl

theorem StopStep.log_eq (hs : StopStep now c c') : c'.log = c.log := by
  cases hs with
  | same hp => exact hp.log_eq
  | rearmed => rfl
  | killed => rfl

theorem Heard.log_eq (hh : Heard c c') : c'.log = c.log := by
  cases hh with
  | same => rfl
  | running => rfl

theorem RestartRaised.log_eq (hs : RestartRaised now c c') : c'.history.ends = c.history.ends := by
  cases hs with
  | poll => exact congrArg fst scheduled_log
  | due hdue hp hgone hraised =>
    have hlog := hp.log_eq.trans scheduled_log
    cases hraised with
    | restarted hleft hstart =>
      have hrestarting := restarting_log.trans hlog
      cases hstart with
      | before hp' => exact congrArg fst (hp'.log_eq.trans hrestarting)
      | spawn => exact congrArg fst hrestarting

theorem acts_maybeRestart (now : ℚ) :
    Acts (fun c' => c' = c) (maybeRestartManagedProcess host now) (fun _ => RestartStep now c)
      (fun c' => ¬ host.Quiet ∧ RestartRaised now c c') := by
  unfold maybeRestartManagedProcess
  refine .bind (acts_update (Q := fun _ c' => c' = c.scheduled now) fun x hx => ?_) fun _ => ?_
  · rw [core_maybeScheduleRestart,hx]
  refine acts_self_bind fun h hh => ?_
  have hnext : h.nextRestartTMono = (c.scheduled now).nextRestartTMono :=
    congrArg Core.nextRestartTMono hh
  have hidle : ¬ (c.scheduled now).Due now → ∀ c', c' = c.scheduled now → RestartStep now c c' := by
    rintro hdue _ rfl
    exact .idle .same (.inr hdue)
  cases ht : h.nextRestartTMono with
  | none =>
    refine .pure (hidle ?_)
    rintro ⟨t,ht',-⟩
    rw [← hnext,ht] at ht'
    cases ht'
  | some t =>
    refine .ite (fun hlt => .pure (hidle ?_)) fun hge => ?_
    · rintro ⟨t',ht',hle⟩
      rw [← hnext,ht] at ht'
      cases ht'
      exact absurd hlt (not_lt.2 hle)
    · have hdue : (c.scheduled now).Due now := ⟨t,by rw [← hnext,ht],not_lt.1 hge⟩
      refine .bind (acts_childAlive.error fun c' hc' =>
        ⟨hc'.raises,hc'.same ▸ .poll (scheduled_child ▸ hc'.alive)⟩) fun alive => ?_
      cases alive with
      | true => exact .pure fun c' hc' => .idle hc'.1 (.inl hc'.2)
      | false =>
        refine .each fun c₁ hc₁ => ?_
        exact (acts_tryRestartProcess hc₁.2).conseq (fun _ h => h) (fun _ _ h => .due hdue hc₁.1 hc₁.2 h)
          fun _ h => ⟨h.1,.due hdue hc₁.1 hc₁.2 h.2⟩

def Core.checkedOff (c : Core) : Core :=
  { c with history := { c.history with checks := c.history.checks+1 } }

inductive Supervised (now : ℚ) (c : Core) : Core → Prop where
  | recovered {c₁ : Core} : ExitStep c true c₁ → Supervised now c c₁.checkedOff
  | checked {c₁ c₂ c₃ c₄ : Core} : ExitStep c false c₁ → HeartbeatStep now c₁ c₂ →
      StopStep now c₂ c₃ → RestartStep now c₃ c₄ → Supervised now c c₄.checkedOff

inductive SuperviseRaised (now : ℚ) (c : Core) : Core → Prop where
  | exit : SuperviseRaised now c c
  | heartbeat {c₁ c' : Core} : ExitStep c false c₁ → HeartbeatRaised c₁ c' →
      SuperviseRaised now c c'
  | stop {c₁ c' : Core} : ExitStep c false c₁ → HeartbeatStep now c₁ c' → c'.child = some none →
      SuperviseRaised now c c'
  | restart {c₁ c₂ c₃ c' : Core} : ExitStep c false c₁ → HeartbeatStep now c₁ c₂ →
      StopStep now c₂ c₃ → RestartRaised now c₃ c' → SuperviseRaised now c c'

theorem acts_superviseProcess : Acts (fun c' => c' = c) (superviseProcess host conf tick)
      (fun _ => Supervised tick.nowMono c)
      (fun c' => ¬ host.Quiet ∧ SuperviseRaised tick.nowMono c c') := by
  have hchecked : ∀ {E : Core → Prop} {P : Core → Prop}, (∀ c', P c' →
      Supervised tick.nowMono c c'.checkedOff) →
      Acts (Ω := Ω) P (update checkedOff) (fun _ => Supervised tick.nowMono c) E := by
    intro E P hP
    exact acts_update fun x hx => hP _ hx
  unfold superviseProcess
  refine .bind (acts_observeExit.error fun c' hc' => ⟨hc'.raises,hc'.same ▸ .exit⟩) fun recovered => ?_
  cases recovered with
  | true => exact .ite (fun _ => hchecked fun c' hc' => .recovered hc') fun h => absurd rfl h
  | false =>
    refine .ite (absurd · Bool.false_ne_true) fun _ => .each fun c₁ h₁ => ?_
    refine .bind
      ((acts_enforceHeartbeatTimeout conf tick).error fun c' hc' => ⟨hc'.1,.heartbeat h₁ hc'.2⟩)
      fun _ => .each fun c₂ h₂ => ?_
    refine .bind ((acts_enforceStopTimeout _).error fun c' hc' =>
      ⟨hc'.raises,hc'.same ▸ .stop h₁ h₂ hc'.alive⟩) fun _ => .each fun c₃ h₃ => ?_
    refine .bind ((acts_maybeRestart _).error fun c' hc' => ⟨hc'.1,.restart h₁ h₂ h₃ hc'.2⟩)
      fun _ => ?_
    exact hchecked fun c' hc' => .checked h₁ h₂ h₃ hc'

def Core.foundDead (c : Core) (rc : Int) : Core :=
  { c with
    child := none
    lastExitCode := some rc
    state := if rc ≠ 0 then .failed else .exited }

/-- What `stop_process_handle` leads to, given the exit code that it sees. -/
inductive Stopped (c : Core) : Option Int → Core → Prop where
  | none : c.child = none → Stopped c none { c with state := .stopped }
  | dead (rc : Int) : c.child ≠ none → Stopped c (some rc) (c.foundDead rc)
  | alive (now : ℚ) : c.child = some none →
      Stopped c none { c with state := .stopping,stopRequestedTMono := some now }

end

def ProcessHandle.exitNow {Ω : Type} (host : Host Ω) (h : ProcessHandle) (ω : Ω) : Option Int :=
  match h.popen with
  | none => none
  | some p =>
    match p.returncode with
    | some rc => some rc
    | none =>
      match (host.poll p.pid ω).1 with
      | .ok rc => rc
      | .error _ => none

variable {Ω : Type} {host : Host Ω}

theorem total_poll {p : Popen} {s₀ : Scope Ω} (hp : s₀.handle.popen = some p) :
    Total (fun s => s = s₀) (poll host p) (fun rc s => s₀.handle.exitNow host s₀.world = rc ∧
        PollAnswer s₀.handle.core rc s.handle.core)
      (fun _ s => s.handle.core = s₀.handle.core) := by
  have hcore : Total (fun s => s = s₀) (poll host p)
      (fun rc s => PollAnswer s₀.handle.core rc s.handle.core)
      (fun _ s => PollRaised host s₀.handle.core s.handle.core) :=
    Total.pre (acts_poll (child_of_core rfl hp)) fun s hs => by rw [hs]
  have hanswer : Total (fun s => s = s₀) (poll host p)
      (fun rc _ => s₀.handle.exitNow host s₀.world = rc) (fun _ _ => True) := by
    unfold poll
    cases hrc : p.returncode with
    | some rc => exact .pure fun s hs => by simp [ProcessHandle.exitNow,hp,hrc]
    | none =>
      have hcall : Total (fun s => s = s₀) (call (host.poll p.pid))
          (fun rc _ => s₀.handle.exitNow host s₀.world = rc) (fun _ _ => True) := by
        refine .ofFun ?_ fun _ _ _ _ _ => trivial
        rintro s rc s' rfl hs'
        obtain ⟨hok,-⟩ := mk.inj hs'
        simp [ProcessHandle.exitNow,hp,hrc,hok]
      refine .bind hcall fun rc => ?_
      refine .bind (Q := fun _ _ => s₀.handle.exitNow host s₀.world = rc)
        (.modify fun _ h => h) fun _ => .pure fun _ h => h
  exact (hanswer.and hcore).conseq (fun _ h => h) (fun _ _ h => h) fun _ _ h => h.2.same

theorem acts_stopChild {c : Core} (p : Popen) (hchild : c.child = some none) {E : Core → Prop} :
    Acts (fun c' => c' = c) (stopChild host p) (fun _ => Stopped c none) E := by
  unfold stopChild
  refine .bind (Q := fun _ c' => c' = c) ?_ fun graceful => ?_
  · unfold requestStop
    refine acts_self_bind fun h _ => ?_
    cases h.rpcEndpoint with
    | none => exact .pure fun _ h => h
    | some _ => exact acts_ask
  · refine .bind (Q := fun _ c' => c' = c) ?_ fun _ => ?_
    · unfold terminateUnless
      refine .ite (fun _ => .pure fun _ h => h) fun _ => ?_
      refine .bind acts_attempt_call fun terminated => ?_
      cases terminated with
      | ok _ => exact .pure fun _ h => h
      | error exc => exact acts_update_rest fun x => rfl
    · refine .bind acts_ask fun now => acts_update fun x hx => ?_
      have hstopped := Stopped.alive now hchild
      rw [← hx] at hstopped ⊢
      exact hstopped

theorem total_stopProcessHandle (s₀ : Scope Ω) : Total (fun s => s = s₀) (stopProcessHandle host)
      (fun _ s => Stopped s₀.handle.core (s₀.handle.exitNow host s₀.world) s.handle.core)
      (fun _ s => s.handle.core = s₀.handle.core) := by
  unfold stopProcessHandle
  refine total_self_bind ?_
  cases hp : s₀.handle.popen with
  | none =>
    refine .modify fun s' hs' => ?_
    rw [hs']
    have hnow : s₀.handle.exitNow host s₀.world = none := by simp [ProcessHandle.exitNow,hp]
    rw [hnow]
    exact .none (no_child_of_core rfl hp)
  | some p =>
    have hchild := child_of_core (c := s₀.handle.core) rfl hp
    refine .bind (total_poll hp) fun rc => ?_
    cases rc with
    | some rc =>
      refine .modify fun s' hs' => ?_
      rw [hs'.1]
      have hdead : (s'.handle.foundDead host rc).core = s₀.handle.core.foundDead rc := by
        have hcore : (s'.handle.foundDead host rc).core = s'.handle.core.foundDead rc := by
          unfold ProcessHandle.foundDead Core.foundDead
          by_cases hrc : rc ≠ 0
          · simp only [if_pos hrc]
            rfl
          · simp only [if_neg hrc]
            rfl
        rw [hcore]
        have hpolled := hs'.2.polled
        generalize s'.handle.core = c' at hpolled
        cases hpolled with
        | same => rfl
        | learned rc hc => rfl
      rw [hdead]
      exact .dead rc (by simp [hchild])
    | none =>
      refine Total.each fun s' hs' => ?_
      have hsame := Core.Polled.eq_of_alive hs'.2
      rw [hs'.1]
      have halive : s₀.handle.core.child = some none := by
        rw [← hs'.2.child,hsame]
      have hstop : Acts (fun c' => c' = s₀.handle.core) (stopChild host p)
          (fun _ => Stopped s₀.handle.core none) (fun c' => c' = s₀.handle.core) :=
        acts_stopChild p halive
      refine Total.pre hstop fun s'' hs'' => ?_
      rw [hs'',hsame]

end ExperimentControl.Supervision

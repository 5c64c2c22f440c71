import ExperimentControl.Lib.Runs
import ExperimentControl.Watchdog.Process

/-!
Runs of the watchdog with what they leave behind: for every rule, what its evaluations found and
how its ruleset was switched on and off.
-/

namespace ExperimentControl.Watchdog
open Lib Python Sequencer List Option

/-- What an evaluation of a rule reads off the telemetry; a rule without an arm section counts as
armed. -/
structure Findings where
  env : Env
  snapshot : Entries
  unknown : Bool
  alarm : Bool
  armed : Bool

section
variable (lang : Lang)

def findings (rule : WatchdogRule) (telemetry : Telemetry) (now : F64) (state : RuleState) :
    Except PyExc Findings := do
  let (env,snapshot,unknown) ←
    resolveWatchdogBindings lang telemetry now rule.telemetry initialEnv [] false
  let alarm := evaluateWatchdogAlarm lang rule env unknown
  pure ⟨env,snapshot,unknown,
    if unknown then alarm else watchdogConfirmationAlarm lang rule env alarm,
    rule.arm.isNone || (updateWatchdogArmedState lang rule env unknown state).armed⟩

def noted (rule : WatchdogRule) (found : Findings) (now : F64) (state : RuleState) : RuleState :=
  { updateWatchdogArmedState lang rule found.env found.unknown state with
    lastEvaluatedMono := some now
    alarm := some found.alarm
    unknown := some found.unknown
    snapshot := some found.snapshot }

def decision (rule : WatchdogRule) (found : Findings) (now : F64) (state : RuleState) :
    Bool × RuleState :=
  if !found.armed then (false,resetWatchdogConfirmation { state with stableSinceMono := none })
  else if !found.alarm then
    (false,(watchdogConfirmationReady lang rule found.snapshot false found.env
      { state with stableSinceMono := none }).2)
  else decideTrigger lang rule found.snapshot true found.unknown found.env now state

variable (rule : WatchdogRule)

theorem evaluateWatchdogRule_eq (telemetry : Telemetry) (now : F64) (state : RuleState) :
    evaluateWatchdogRule lang rule telemetry now state =
      (findings lang rule telemetry now state).map fun found =>
        decision lang rule found now (noted lang rule found now state) := by
  unfold evaluateWatchdogRule findings
  cases resolveWatchdogBindings lang telemetry now rule.telemetry initialEnv [] false with
  | error e => rfl
  | ok resolved =>
    obtain ⟨env,snapshot,unknown⟩ := resolved
    simp only [bind,Except.bind,pure,Except.pure,Except.map,decision,noted,Bool.not_or]
    generalize (if unknown = true then _ else _ : Bool) = alarm
    cases harm : rule.arm with
    | none => cases alarm <;> rfl
    | some arm =>
      cases harmed : (updateWatchdogArmedState lang rule env unknown state).armed with
      | false => simp
      | true => cases alarm <;> simp

theorem updateWatchdogArmedState_frame (env : Env) (unknown : Bool) (state : RuleState) :
    (updateWatchdogArmedState lang rule env unknown state).stableSinceMono = state.stableSinceMono ∧
      (updateWatchdogArmedState lang rule env unknown state).latched = state.latched ∧
      (updateWatchdogArmedState lang rule env unknown state).confirmation = state.confirmation := by
  unfold updateWatchdogArmedState
  split
  · exact ⟨rfl,rfl,rfl⟩
  · dsimp only
    split <;> split <;> exact ⟨rfl,rfl,rfl⟩

@[simp] theorem noted_stableSinceMono (found : Findings) (now : F64) (state : RuleState) :
    (noted lang rule found now state).stableSinceMono = state.stableSinceMono :=
  (updateWatchdogArmedState_frame lang rule found.env found.unknown state).1

@[simp] theorem noted_latched (found : Findings) (now : F64)
    (state : RuleState) : (noted lang rule found now state).latched = state.latched :=
  (updateWatchdogArmedState_frame lang rule found.env found.unknown state).2.1

@[simp] theorem noted_confirmation (found : Findings) (now : F64)
    (state : RuleState) : (noted lang rule found now state).confirmation = state.confirmation :=
  (updateWatchdogArmedState_frame lang rule found.env found.unknown state).2.2

end

structure Evaluation where
  rule : WatchdogRule
  found : Findings
  now : F64
  triggered : Bool

inductive Moment where
  | evaluation (e : Evaluation)
  | switched (enable : Bool)

/-- A run so far: for every rule, its evaluations and the switching of its ruleset, in order. -/
structure Recorded where
  system : System
  history : Key → List Moment

section
variable (lang : Lang)

def evaluationOf (sys : System) (key : Key) (now : F64) (telemetry : Telemetry) :
    Option Evaluation :=
  match findRule sys.process key,sys.process.states.get? key with
  | some rule,some state =>
    match findings lang rule telemetry now state,evaluateWatchdogRule lang rule telemetry now state with
    | .ok found,.ok (triggered,_) => some ⟨rule,found,now,triggered⟩
    | _,_ => none
  | _,_ => none

def moments (sys : System) (event : Event) (key : Key) : List Moment :=
  match event with
  | .evaluate other now telemetry =>
    if key = other then ((evaluationOf lang sys key now telemetry).map Moment.evaluation).toList else []
  | .setEnabled watchdogId enable => if key.1 = watchdogId then [.switched enable] else []
  | .clearLatch _ => []
  | .chainDone _ => []

def Recorded.start (entries : OrderedDict String WatchdogEntry) : Recorded :=
  ⟨.start entries,fun _ => []⟩

def Recorded.step (r : Recorded) (event : Event) : Option Recorded :=
  (r.system.step lang event).map fun system =>
    ⟨system,fun key => r.history key ++ moments lang r.system event key⟩

/-- What the runs reach whose events meet the condition in the state that they find. -/
inductive Reachable (ok : System → Event → Prop) : Recorded → Prop where
  | start (entries : OrderedDict String WatchdogEntry) : Reachable ok (.start entries)
  | step {r r' : Recorded} {event : Event} : Reachable ok r → ok r.system event →
      r.step lang event = some r' → Reachable ok r'

end

section
variable {lang : Lang} {r r' : Recorded} {key : Key}

theorem step_evaluate {now : F64} {telemetry : Telemetry}
    (hstep : r.step lang (.evaluate key now telemetry) = some r') :
    ∃ rule state found after, findRule r.system.process key = some rule ∧
      r.system.process.states.get? key = some state ∧
      findings lang rule telemetry now state = .ok found ∧
      r'.system.process.states = r.system.process.states.set key after ∧
      r'.system.process.entries = r.system.process.entries ∧
      (∀ other, r'.history other = if other = key then r.history key ++ [.evaluation ⟨rule,found,now,
        (decision lang rule found now (noted lang rule found now state)).1⟩] else r.history other) ∧
      (after = (decision lang rule found now (noted lang rule found now state)).2 ∨
        after = resetWatchdogConfirmation (markWatchdogTriggered now
          (decision lang rule found now (noted lang rule found now state)).2)) := by
  obtain ⟨system,hsystem,rfl⟩ := map_eq_some_iff.1 hstep
  obtain ⟨rule,state,triggered,after,hrule,hstate,heval,hcases⟩ := stepEvaluate_cases hsystem
  have heq := evaluateWatchdogRule_eq lang rule telemetry now state
  cases hfound : findings lang rule telemetry now state with
  | error e => simp [heval,hfound,Except.map] at heq
  | ok found =>
    simp only [heval,hfound,Except.map,Except.ok.injEq] at heq
    have hhistory : ∀ other, r.history other ++ moments lang r.system (.evaluate key now telemetry) other =
        if other = key then r.history key ++ [.evaluation ⟨rule,found,now,
          (decision lang rule found now (noted lang rule found now state)).1⟩] else r.history other := by
      intro other
      by_cases hother : other = key
      · subst hother
        simp [moments,evaluationOf,hrule,hstate,hfound,heval,← heq]
      · simp [moments,hother]
    rcases hcases with ⟨_,rfl⟩ | ⟨_,_,rfl⟩
    · exact ⟨rule,state,found,after,hrule,hstate,hfound,rfl,rfl,hhistory,.inl (by rw [← heq])⟩
    · exact ⟨rule,state,found,_,hrule,hstate,hfound,rfl,rfl,hhistory,.inr (by rw [← heq])⟩

theorem clearAll_cases {keys : List Key} {p : WatchdogProcess} {state : RuleState}
    (h : (keys.foldl (fun p key => clearRuleState key p) p).states.get? key = some state) :
    p.states.get? key = some state ∨ ∃ before : RuleState, state = resetWatchdogConfirmation
      { before with latched := false, armed := false, stableSinceMono := none } := by
  induction keys generalizing p with
  | nil => exact .inl h
  | cons first rest ih =>
    rcases ih h with hget | hcleared
    · rw [clearRuleState_get?] at hget
      split at hget
      · obtain ⟨before,_,rfl⟩ := map_eq_some_iff.1 hget
        exact .inr ⟨before,rfl⟩
      · exact .inl hget
    · exact .inr hcleared

theorem clearAll_entries (keys : List Key) (p : WatchdogProcess) :
    (keys.foldl (fun p key => clearRuleState key p) p).entries = p.entries := by
  induction keys generalizing p with
  | nil => rfl
  | cons first rest ih =>
    rw [foldl_cons,ih]
    unfold clearRuleState
    split <;> rfl

end

def Moment.Alarming : Moment → Prop
  | .evaluation e => e.found.armed = true ∧ e.found.alarm = true
  | .switched enable => enable = true

def OpenSince (t0 : F64) (history : List Moment) : Prop :=
  ∃ older e since, history = older ++ .evaluation e :: since ∧ e.now = t0 ∧
    ∀ m ∈ Moment.evaluation e :: since, m.Alarming

theorem OpenSince.append {t0 : F64} {history : List Moment} {m : Moment} (h : OpenSince t0 history)
    (hm : m.Alarming) : OpenSince t0 (history ++ [m]) := by
  obtain ⟨older,e,since,rfl,hnow,hsince⟩ := h
  refine ⟨older,e,since ++ [m],by simp,hnow,fun x hx => ?_⟩
  rw [← cons_append,mem_append,mem_singleton] at hx
  rcases hx with hx | rfl
  · exact hsince x hx
  · exact hm

theorem openSince_last {history : List Moment} {e : Evaluation}
    (h : (Moment.evaluation e).Alarming) : OpenSince e.now (history ++ [.evaluation e]) :=
  ⟨history,e,[],rfl,rfl,by simpa using h⟩

/-- A rule that has to be stable triggers only where its alarm has held for that long. -/
def StableBefore (num : Numeric) (past : List Moment) : Moment → Prop
  | .evaluation e => e.triggered = true → num.le e.rule.stableForS 0 = false →
    ∃ t0, OpenSince t0 (past ++ [.evaluation e]) ∧
      num.le e.rule.stableForS (num.sub e.now t0) = true
  | .switched _ => True

/-- A ruleset is switched on again only when no stability window of its rules is open. -/
def ClosedOnEnable (sys : System) : Event → Prop
  | .setEnabled watchdogId true => ∀ entry, sys.process.entries.get? watchdogId = some entry →
    entry.enabled = false → ∀ key state, key.1 = watchdogId →
    sys.process.states.get? key = some state → state.stableSinceMono = none
  | _ => True

def WindowsHold (r : Recorded) : Prop :=
  ∀ key entry state t0, r.system.process.entries.get? key.1 = some entry → entry.enabled = true →
    r.system.process.states.get? key = some state → state.stableSinceMono = some t0 →
    OpenSince t0 (r.history key)

section
variable (lang : Lang)

theorem decideTrigger_stable (rule : WatchdogRule) (snapshot : Entries) (alarm unknown : Bool)
    (env : Env) (now : F64) (state : RuleState) :
    ((decideTrigger lang rule snapshot alarm unknown env now state).2.stableSinceMono =
        state.stableSinceMono ∨
      (decideTrigger lang rule snapshot alarm unknown env now state).2.stableSinceMono =
        some (state.stableSinceMono.getD now)) ∧
    ((decideTrigger lang rule snapshot alarm unknown env now state).1 = true →
      lang.num.le rule.stableForS 0 = false →
      lang.num.le rule.stableForS (lang.num.sub now (state.stableSinceMono.getD now)) = true) := by
  have hgate : (watchdogConfirmationGate lang rule snapshot alarm unknown env state).2.stableSinceMono =
      state.stableSinceMono := by
    unfold watchdogConfirmationGate watchdogConfirmationReady
    split
    · rfl
    · split
      · rfl
      · dsimp only
        split <;> rfl
  have hcommit : ∀ s : RuleState, (commitTrigger rule s).stableSinceMono = s.stableSinceMono := by
    intro s
    unfold commitTrigger
    dsimp only
    split <;> split <;> rfl
  unfold decideTrigger
  split
  · simp
  · dsimp only
    generalize watchdogConfirmationGate lang rule snapshot alarm unknown env state = gate at hgate ⊢
    cases hpos : lang.num.le rule.stableForS 0 with
    | true =>
      simp only [watchdogStableReady,hpos,if_true,Bool.not_true,Bool.false_eq_true,if_false]
      refine ⟨.inl ?_,fun _ h => by cases h⟩
      split <;> [skip; split] <;> simp [hcommit,hgate]
    | false =>
      simp only [watchdogStableReady,hpos,Bool.false_eq_true,if_false,hgate]
      refine ⟨.inr ?_,fun htrigger _ => ?_⟩
      · split <;> [skip; split <;> [skip; split]] <;> simp [hcommit]
      · split at htrigger
        · cases htrigger
        · rename_i hstable
          simpa using hstable

theorem decision_stable (rule : WatchdogRule) (found : Findings) (now : F64) (state : RuleState) :
    (∀ t0, (decision lang rule found now state).2.stableSinceMono = some t0 →
      found.armed = true ∧ found.alarm = true ∧
        (state.stableSinceMono = some t0 ∨ state.stableSinceMono = none ∧ t0 = now)) ∧
    ((decision lang rule found now state).1 = true → lang.num.le rule.stableForS 0 = false →
      found.armed = true ∧ found.alarm = true ∧
        lang.num.le rule.stableForS (lang.num.sub now (state.stableSinceMono.getD now)) = true) := by
  unfold decision
  cases harmed : found.armed with
  | false => simp [resetWatchdogConfirmation]
  | true =>
    cases halarm : found.alarm with
    | false =>
      have hclosed : ∀ s : RuleState, (watchdogConfirmationReady lang rule found.snapshot false
          found.env { s with stableSinceMono := none }).2.stableSinceMono = none := by
        intro s
        unfold watchdogConfirmationReady
        split <;> rfl
      simp [hclosed]
    | true =>
      obtain ⟨hwindow,hstable⟩ :=
        decideTrigger_stable lang rule found.snapshot true found.unknown found.env now state
      simp only [Bool.not_true,Bool.false_eq_true,if_false,true_and]
      refine ⟨fun t0 ht0 => ?_,hstable⟩
      rcases hwindow with hsame | hopened
      · exact .inl (hsame.symm.trans ht0)
      · rw [hopened,Option.some.injEq] at ht0
        cases hs : state.stableSinceMono with
        | none => exact .inr ⟨rfl,by simpa [hs] using ht0.symm⟩
        | some t => exact .inl (by simpa [hs] using ht0)

end

section
variable {lang : Lang} {r r' : Recorded}

theorem findRule_enabled {p : WatchdogProcess} {key : Key} {rule : WatchdogRule}
    (h : findRule p key = some rule) {entry : WatchdogEntry} (hentry : p.entries.get? key.1 = some entry) :
    entry.enabled = true := by
  unfold findRule at h
  rw [hentry] at h
  dsimp only at h
  split at h
  · assumption
  · cases h

theorem history_evaluate {key : Key} {now : F64} {telemetry : Telemetry} (hopen : WindowsHold r)
    (hall : ∀ key, Justified (StableBefore lang.num) (r.history key))
    (hstep : r.step lang (.evaluate key now telemetry) = some r') :
    WindowsHold r' ∧ ∀ key, Justified (StableBefore lang.num) (r'.history key) := by
  obtain ⟨rule,state,found,after,hrule,hstate,_,hstates,hentries,hhistory,hafter⟩ :=
    step_evaluate hstep
  have hdecision := decision_stable lang rule found now (noted lang rule found now state)
  generalize hd : decision lang rule found now (noted lang rule found now state) = d
    at hhistory hafter hdecision
  rw [noted_stableSinceMono] at hdecision
  have hstable : after.stableSinceMono = d.2.stableSinceMono := by
    rcases hafter with rfl | rfl <;> rfl
  -- what the evaluation leaves of an open window, for a rule that is armed and alarming
  have hextend : ∀ t0, found.armed = true → found.alarm = true →
      state.stableSinceMono = some t0 ∨ state.stableSinceMono = none ∧ t0 = now →
      OpenSince t0 (r.history key ++ [.evaluation ⟨rule,found,now,d.1⟩]) := by
    intro t0 harmed halarm ht0
    have hm : (Moment.evaluation ⟨rule,found,now,d.1⟩).Alarming := ⟨harmed,halarm⟩
    rcases ht0 with hold | ⟨_,rfl⟩
    · cases hentry : r.system.process.entries.get? key.1 with
      | none =>
        unfold findRule at hrule
        rw [hentry] at hrule
        cases hrule
      | some entry =>
        exact (hopen key entry state t0 hentry (findRule_enabled hrule hentry) hstate hold).append hm
    · exact openSince_last hm
  constructor
  · intro other entry s t0 hentry henabled hget hs
    rw [hentries] at hentry
    rw [hstates,OrderedDict.get?_set] at hget
    rw [hhistory]
    by_cases hother : other = key
    · rw [if_pos hother,Option.some.injEq] at hget
      subst hget
      rw [hstable] at hs
      rw [if_pos hother]
      obtain ⟨harmed,halarm,hcases⟩ := hdecision.1 t0 hs
      exact hextend t0 harmed halarm hcases
    · rw [if_neg hother] at hget ⊢
      exact hopen other entry s t0 hentry henabled hget hs
  · intro other
    rw [hhistory]
    split
    · refine justified_append_singleton.2 ⟨hall key,fun htriggered hpos => ?_⟩
      obtain ⟨harmed,halarm,hlong⟩ := hdecision.2 htriggered hpos
      refine ⟨state.stableSinceMono.getD now,hextend _ harmed halarm ?_,hlong⟩
      cases state.stableSinceMono with
      | none => exact .inr ⟨rfl,rfl⟩
      | some t => exact .inl rfl
    · exact hall other

theorem windowsHold_setEnabled {watchdogId : String} {enable : Bool} (hopen : WindowsHold r)
    (hok : ClosedOnEnable r.system (.setEnabled watchdogId enable))
    (hstep : r.step lang (.setEnabled watchdogId enable) = some r') : WindowsHold r' := by
  cases hstep
  intro key entry state t0 hentry henabled hget hs
  simp only [setEnabled,OrderedDict.get?_mapValues,map_eq_some_iff] at hentry
  obtain ⟨before,hbefore,rfl⟩ := hentry
  by_cases hkey : key.1 = watchdogId
  · rw [if_pos hkey] at henabled
    cases henabled
    simp only [moments,hkey,if_true]
    cases hold : before.enabled with
    | true => exact (hopen key before state t0 hbefore hold hget hs).append rfl
    | false =>
      have hclosed := hok before (hkey ▸ hbefore) hold key state hkey hget
      rw [hclosed] at hs
      cases hs
  · rw [if_neg hkey] at henabled
    simpa [moments,hkey] using hopen key before state t0 hbefore henabled hget hs

theorem windowsHold_clearLatch {params : Value} (hopen : WindowsHold r)
    (hstep : r.step lang (.clearLatch params) = some r') : WindowsHold r' := by
  cases hstep
  intro key entry state t0 hentry henabled hget hs
  have hentries := clearAll_entries (clearTargets lang.py.repr r.system.process params) r.system.process
  have hentry' : r.system.process.entries.get? key.1 = some entry := hentries ▸ hentry
  rcases clearAll_cases hget with hold | ⟨before,rfl⟩
  · simpa [moments] using hopen key entry state t0 hentry' henabled hold hs
  · cases hs

theorem justified_quiet {key : Key} {event : Event} (hstep : r.step lang event = some r')
    (hquiet : ∀ now telemetry other, event ≠ .evaluate other now telemetry)
    (h : Justified (StableBefore lang.num) (r.history key)) :
    Justified (StableBefore lang.num) (r'.history key) := by
  obtain ⟨system,_,rfl⟩ := map_eq_some_iff.1 hstep
  cases event with
  | evaluate other now telemetry => exact absurd rfl (hquiet now telemetry other)
  | clearLatch params => simpa [moments] using h
  | chainDone other => simpa [moments] using h
  | setEnabled watchdogId enable =>
    by_cases hkey : key.1 = watchdogId
    · simpa [moments,hkey,justified_append_singleton,StableBefore] using h
    · simpa [moments,hkey] using h

theorem windows_step {event : Event} (hopen : WindowsHold r)
    (hall : ∀ key, Justified (StableBefore lang.num) (r.history key))
    (hok : ClosedOnEnable r.system event) (hstep : r.step lang event = some r') :
    WindowsHold r' ∧ ∀ key, Justified (StableBefore lang.num) (r'.history key) := by
  cases event with
  | evaluate key now telemetry => exact history_evaluate hopen hall hstep
  | clearLatch params =>
    exact ⟨windowsHold_clearLatch hopen hstep,fun key =>
      justified_quiet hstep (fun _ _ _ h => by cases h) (hall key)⟩
  | chainDone other =>
    refine ⟨?_,fun key => justified_quiet hstep (fun _ _ _ h => by cases h) (hall key)⟩
    cases hstep
    intro key entry state t0 hentry henabled hget hs
    simpa [moments] using hopen key entry state t0 hentry henabled hget hs
  | setEnabled watchdogId enable =>
    exact ⟨windowsHold_setEnabled hopen hok hstep,fun key =>
      justified_quiet hstep (fun _ _ _ h => by cases h) (hall key)⟩

/-- In every run in which no ruleset is switched on again while a stability window of its rules is
open, a rule that has to be stable triggers only after its ruleset was on, and every evaluation found
it armed and alarming, for that long. -/
theorem triggers_when_stable (h : Reachable lang ClosedOnEnable r) (key : Key) :
    Justified (StableBefore lang.num) (r.history key) := by
  suffices hboth : WindowsHold r ∧ ∀ key, Justified (StableBefore lang.num) (r.history key) from
    hboth.2 key
  induction h with
  | start entries =>
    refine ⟨fun key entry state t0 _ _ hget hs => ?_,fun _ => justified_nil⟩
    rw [initialStates_get? hget] at hs
    cases hs
  | step _ hok hstep ih => exact windows_step ih.1 ih.2 hok hstep

theorem reachable_of_run {ok : System → Event → Prop} {events : List Event}
    (hr : Reachable lang ok r) (hok : ∀ sys, ∀ event ∈ events, ok sys event)
    (hrun : events.foldlM (Recorded.step lang) r = some r') : Reachable lang ok r' := by
  induction events generalizing r with
  | nil =>
    cases hrun
    exact hr
  | cons event rest ih =>
    rw [foldlM_cons] at hrun
    obtain ⟨mid,hmid,hrest⟩ := bind_eq_some_iff.1 hrun
    refine ih (hr.step (hok _ event (by simp)) hmid) (fun sys later hlater => ?_) hrest
    exact hok sys later (by simp [hlater])

theorem not_openSince_nil {t0 : F64} : ¬ OpenSince t0 [] := by
  rintro ⟨older,e,since,heq,_⟩
  simp at heq

theorem OpenSince.head_or_tail {t0 : F64} {m : Moment} {later : List Moment}
    (h : OpenSince t0 (m :: later)) :
    (∃ e, m = .evaluation e ∧ e.now = t0) ∨ OpenSince t0 later := by
  obtain ⟨older,e,since,heq,hnow,hsince⟩ := h
  cases older with
  | nil =>
    obtain ⟨rfl,_⟩ := List.cons.inj heq
    exact .inl ⟨e,rfl,hnow⟩
  | cons first older =>
    obtain ⟨_,rfl⟩ := List.cons.inj heq
    exact .inr ⟨older,e,since,rfl,hnow,hsince⟩

theorem OpenSince.after_off {t0 : F64} {past later : List Moment}
    (h : OpenSince t0 (past ++ .switched false :: later)) : OpenSince t0 later := by
  obtain ⟨older,e,since,heq,hnow,hsince⟩ := h
  rcases append_eq_append_iff.1 heq with ⟨more,_,hlater⟩ | ⟨more,_,hwindow⟩
  · cases more with
    | nil => simp at hlater
    | cons m more =>
      obtain ⟨_,rfl⟩ := List.cons.inj hlater
      exact ⟨more,e,since,rfl,hnow,hsince⟩
  · have hoff : Moment.switched false ∈ Moment.evaluation e :: since := by simp [hwindow]
    cases hsince _ hoff

end

/-- Times in units of the least positive float, whose sums and differences are those of the bits. -/
def ticks : Lang := ⟨.names,{ Numeric.bits with add := fun a b => a+b, sub := fun a b => a-b }⟩

def sustained : WatchdogRule := { overcurrent with stableForS := 10 }

def sustainedWatchdog : Recorded := .start (OrderedDict.empty.set "hv-watch" ⟨[sustained],true⟩)

def Moment.brief : Moment → (F64 × F64 × Bool) ⊕ Bool
  | .evaluation e => .inl (e.now,e.rule.stableForS,e.triggered)
  | .switched enable => .inr enable

theorem switched_of_brief {m : Moment} {enable : Bool} (h : m.brief = .inr enable) :
    m = .switched enable := by
  cases m with
  | evaluation e => cases h
  | switched b =>
    cases h
    rfl

theorem evaluation_of_brief {m : Moment} {now stableForS : F64} {triggered : Bool}
    (h : m.brief = .inl (now,stableForS,triggered)) :
    ∃ e, m = .evaluation e ∧ e.now = now ∧ e.rule.stableForS = stableForS ∧
      e.triggered = triggered := by
  cases m with
  | evaluation e =>
    cases h
    exact ⟨e,rfl,rfl,rfl,rfl⟩
  | switched b => cases h

theorem sustained_alarm_triggers :
    ∃ r, [evaluateAt 1,evaluateAt 5,evaluateAt 20].foldlM (Recorded.step ticks) sustainedWatchdog =
        some r ∧ (r.history overcurrentKey).map Moment.brief =
        [.inl (1,10,false),.inl (5,10,false),.inl (20,10,true)] ∧
      Justified (StableBefore ticks.num) (r.history overcurrentKey) := by
  have hbrief : ([evaluateAt 1,evaluateAt 5,evaluateAt 20].foldlM (Recorded.step ticks)
      sustainedWatchdog).map (fun r => (r.history overcurrentKey).map Moment.brief) =
      some [.inl (1,10,false),.inl (5,10,false),.inl (20,10,true)] := by
    decide +kernel
  obtain ⟨r,hrun,hr⟩ := map_eq_some_iff.1 hbrief
  refine ⟨r,hrun,hr,triggers_when_stable (reachable_of_run (.start _) ?_ hrun) overcurrentKey⟩
  intro sys event hevent
  simp only [mem_cons,not_mem_nil,or_false] at hevent
  rcases hevent with rfl | rfl | rfl <;> trivial

/-- The ruleset is switched off and on again after the first alarm: the next evaluation triggers. -/
theorem window_outlives_pause :
    ∃ r, [evaluateAt 1,.setEnabled "hv-watch" false,.setEnabled "hv-watch" true,
        evaluateAt 20].foldlM (Recorded.step ticks) sustainedWatchdog = some r ∧
      (r.history overcurrentKey).map Moment.brief =
        [.inl (1,10,false),.inr false,.inr true,.inl (20,10,true)] ∧
      ¬ Justified (StableBefore ticks.num) (r.history overcurrentKey) := by
  have hbrief : ([evaluateAt 1,.setEnabled "hv-watch" false,.setEnabled "hv-watch" true,
      evaluateAt 20].foldlM (Recorded.step ticks) sustainedWatchdog).map
        (fun r => (r.history overcurrentKey).map Moment.brief) =
      some [.inl (1,10,false),.inr false,.inr true,.inl (20,10,true)] := by
    decide +kernel
  obtain ⟨r,hrun,hr⟩ := map_eq_some_iff.1 hbrief
  refine ⟨r,hrun,hr,fun hall => ?_⟩
  generalize r.history overcurrentKey = history at hr hall
  simp only [map_eq_cons_iff,map_eq_nil_iff] at hr
  obtain ⟨m1,_,rfl,_,m2,_,rfl,hm2,m3,_,rfl,hm3,m4,_,rfl,hm4,rfl⟩ := hr
  obtain rfl := switched_of_brief hm2
  obtain ⟨e,rfl,hnow,hstable,htriggered⟩ := evaluation_of_brief hm4
  obtain ⟨t0,hopen,hlong⟩ := hall [m1,.switched false,m3] (.evaluation e) [] rfl htriggered
    (by rw [hstable]; decide +kernel)
  have hon : OpenSince t0 [m3,.evaluation e] := @OpenSince.after_off t0 [m1] _ hopen
  obtain rfl := switched_of_brief hm3
  have ht0 : e.now = t0 := by
    rcases hon.head_or_tail with ⟨_,heq,_⟩ | hlast
    · cases heq
    · rcases hlast.head_or_tail with ⟨_,heq,hnow⟩ | hnil
      · cases heq
        exact hnow
      · exact absurd hnil not_openSince_nil
  rw [← ht0,hnow,hstable] at hlong
  revert hlong
  decide +kernel

end ExperimentControl.Watchdog

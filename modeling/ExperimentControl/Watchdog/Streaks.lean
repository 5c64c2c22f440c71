import Mathlib.Data.List.Chain
import ExperimentControl.Watchdog.Histories

/-!
Confirmation by samples: the streak of evaluations that stands behind the count of a confirmation
source, and behind every trigger that needs confirmation.
-/

namespace ExperimentControl.Watchdog
open Lib Python Sequencer OrderedDict List Option
open Interlock (TelemetryBinding get)

def Evaluation.sample (e : Evaluation) (sampleAlias : String) : Entries :=
  snapshotOf e.found.snapshot sampleAlias

def Evaluation.marker (e : Evaluation) (sampleAlias : String) : Value :=
  get (e.sample sampleAlias) "t_mono_recv"

def Evaluation.valid (e : Evaluation) (sampleAlias : String) : Bool :=
  (get (e.sample sampleAlias) "ok").truthy && e.marker sampleAlias ≠ .none

def evaluations (history : List Moment) : List Evaluation :=
  history.filterMap fun m => match m with
    | .evaluation e => some e
    | .switched _ => none

section
variable (lang : Lang)

def branchHolds (c : WatchdogConfirmation) (sampleAlias : String) (e : Evaluation) : Bool :=
  match c.branchConditions.get? sampleAlias with
  | none => true
  | some condition => evaluateWatchdogCondition lang condition e.found.env false

def sameSample (sampleAlias : String) (later earlier : Evaluation) : Bool :=
  pyEq lang (later.marker sampleAlias) (earlier.marker sampleAlias)

/-- The evaluations in the window, the first and the last of them counted: all with the alarm on, the
rule armed and a valid sample; the branch holds at all of them, except where the sample of a counted
one is read again; two counted ones in a row have different samples. -/
structure Confirms (c : WatchdogConfirmation) (sampleAlias : String)
    (window counted : List Evaluation) : Prop where
  among : counted.Sublist window
  starts : counted.head? = window.head?
  holds : ∀ e ∈ window, e.found.alarm = true ∧ e.found.armed = true ∧ e.valid sampleAlias = true
  branch : ∀ e ∈ counted, branchHolds lang c sampleAlias e = true
  rereads : ∀ e ∈ window, branchHolds lang c sampleAlias e = true ∨
    ∃ x ∈ counted, sameSample lang sampleAlias e x = true
  changes : counted.IsChain fun earlier later => sameSample lang sampleAlias later earlier = false

def Streak (c : WatchdogConfirmation) (sampleAlias : String) (past : List Evaluation) (p : Progress) :
    Prop :=
  ∃ older window counted, past = older ++ window ∧ Confirms lang c sampleAlias window counted ∧
    counted.length = p.count ∧ ∀ last, counted.getLast? = some last →
      last.marker sampleAlias = p.lastTMonoRecv

theorem streak_zero {c : WatchdogConfirmation} {sampleAlias : String} {past : List Evaluation}
    {p : Progress} (h : p.count = 0) : Streak lang c sampleAlias past p :=
  ⟨past,[],[],by simp,⟨.slnil,rfl,by simp,by simp,by simp,.nil⟩,h.symm,by simp⟩

end

section
variable {lang : Lang} {c : WatchdogConfirmation} {sampleAlias : String} {past : List Evaluation}
  {p : Progress} {e : Evaluation}

theorem Streak.reread (h : Streak lang c sampleAlias past p) (halarm : e.found.alarm = true)
    (harmed : e.found.armed = true) (hvalid : e.valid sampleAlias = true)
    (hsame : pyEq lang (e.marker sampleAlias) p.lastTMonoRecv = true) :
    Streak lang c sampleAlias (past ++ [e]) p := by
  obtain ⟨older,window,counted,rfl,hc,hcount,hlast⟩ := h
  rcases eq_nil_or_concat counted with rfl | ⟨first,last,rfl⟩
  · exact streak_zero lang hcount.symm
  · rw [concat_eq_append] at hc hcount hlast
    have hmarker : last.marker sampleAlias = p.lastTMonoRecv := hlast last (by simp)
    have hne : window ≠ [] := by
      rintro rfl
      have := hc.starts
      simp at this
    refine ⟨older,window ++ [e],first ++ [last],by simp,⟨?_,?_,?_,hc.branch,?_,hc.changes⟩,hcount,hlast⟩
    · exact hc.among.trans (sublist_append_left window [e])
    · rw [hc.starts,head?_append_of_ne_nil window hne]
    · intro x hx
      rw [mem_append,mem_singleton] at hx
      rcases hx with hx | rfl
      · exact hc.holds x hx
      · exact ⟨halarm,harmed,hvalid⟩
    · intro x hx
      rw [mem_append,mem_singleton] at hx
      rcases hx with hx | rfl
      · exact hc.rereads x hx
      · refine .inr ⟨last,by simp,?_⟩
        unfold sameSample
        rwa [hmarker]

theorem Streak.next (h : Streak lang c sampleAlias past p) (halarm : e.found.alarm = true)
    (harmed : e.found.armed = true) (hvalid : e.valid sampleAlias = true)
    (hbranch : branchHolds lang c sampleAlias e = true)
    (hnew : pyEq lang (e.marker sampleAlias) p.lastTMonoRecv = false) {p' : Progress}
    (hcount' : p'.count = p.count+1) (hlast' : p'.lastTMonoRecv = e.marker sampleAlias) :
    Streak lang c sampleAlias (past ++ [e]) p' := by
  obtain ⟨older,window,counted,rfl,hc,hcount,hlast⟩ := h
  have hend : ∀ (xs : List Evaluation) (last : Evaluation), (xs ++ [e]).getLast? = some last →
      last.marker sampleAlias = p'.lastTMonoRecv := by
    intro xs last h
    obtain rfl : e = last := by simpa using h
    exact hlast'.symm
  rcases eq_nil_or_concat counted with rfl | ⟨first,last,rfl⟩
  · refine ⟨older ++ window,[e],[e],rfl,⟨Sublist.refl _,rfl,?_,?_,?_,List.IsChain.singleton e⟩,?_,hend []⟩
    · simpa using ⟨halarm,harmed,hvalid⟩
    · simpa using hbranch
    · simpa using .inl hbranch
    · simp [hcount',← hcount]
  · rw [concat_eq_append] at hc hcount hlast
    have hmarker : last.marker sampleAlias = p.lastTMonoRecv := hlast last (by simp)
    have hne : window ≠ [] := by
      rintro rfl
      have := hc.starts
      simp at this
    refine ⟨older,window ++ [e],(first ++ [last]) ++ [e],by simp,⟨?_,?_,?_,?_,?_,?_⟩,?_,hend _⟩
    · exact hc.among.append (Sublist.refl [e])
    · rw [head?_append_of_ne_nil _ (by simp),hc.starts,head?_append_of_ne_nil window hne]
    · intro x hx
      rw [mem_append,mem_singleton] at hx
      rcases hx with hx | rfl
      · exact hc.holds x hx
      · exact ⟨halarm,harmed,hvalid⟩
    · intro x hx
      rw [mem_append,mem_singleton] at hx
      rcases hx with hx | rfl
      · exact hc.branch x hx
      · exact hbranch
    · intro x hx
      rw [mem_append,mem_singleton] at hx
      rcases hx with hx | rfl
      · rcases hc.rereads x hx with hb | ⟨y,hy,hsame⟩
        · exact .inl hb
        · exact .inr ⟨y,mem_append_left _ hy,hsame⟩
      · exact .inl hbranch
    · refine isChain_append.2 ⟨hc.changes,List.IsChain.singleton e,?_⟩
      intro x hx y hy
      simp only [getLast?_append,getLast?_singleton,some_or,mem_def,
        Option.some.injEq,head?_cons] at hx hy
      subst hx hy
      unfold sameSample
      rwa [hmarker]
    · rw [hcount',← hcount]
      simp

def seenSample (sampleAlias : String) (e : Evaluation) : Value :=
  .dict false [("t_mono_recv",e.marker sampleAlias),("value",get (e.sample sampleAlias) "value"),
    ("quality",get (e.sample sampleAlias) "quality")]

theorem confirmSample_eq (lang : Lang) (c : WatchdogConfirmation) (sampleAlias : String)
    (e : Evaluation) (p : Progress) :
    confirmSample lang c e.found.env (e.sample sampleAlias) sampleAlias p =
      if e.valid sampleAlias = false then
        (false,{ p with count := 0, evidence := [], lastTMonoRecv := e.marker sampleAlias })
      else if pyEq lang (e.marker sampleAlias) p.lastTMonoRecv = true then
        (c.consecutiveSamples ≤ p.count,p)
      else if branchHolds lang c sampleAlias e = false then
        (false,{ p with count := 0, evidence := [], lastTMonoRecv := e.marker sampleAlias })
      else (c.consecutiveSamples ≤ p.count+1,{ p with
        count := p.count+1
        lastTMonoRecv := e.marker sampleAlias
        evidence := lastItems c.consecutiveSamples (p.evidence ++ [seenSample sampleAlias e]) }) := by
  have hvalid : (!(get (e.sample sampleAlias) "ok").truthy ||
      decide (get (e.sample sampleAlias) "t_mono_recv" = .none)) = !e.valid sampleAlias := by
    by_cases hnone : get (e.sample sampleAlias) "t_mono_recv" = .none <;>
      simp [Evaluation.valid,Evaluation.marker,hnone]
  unfold confirmSample branchHolds
  dsimp only
  rw [hvalid]
  cases e.valid sampleAlias with
  | false => rfl
  | true =>
    have hmarker : get (e.sample sampleAlias) "t_mono_recv" = e.marker sampleAlias := rfl
    simp only [Bool.not_true,Bool.false_eq_true,if_false,Bool.true_eq_false,hmarker]
    by_cases hsame : pyEq lang (e.marker sampleAlias) p.lastTMonoRecv = true
    · rw [if_pos hsame,if_pos hsame]
    · rw [if_neg hsame,if_neg hsame]
      cases c.branchConditions.get? sampleAlias with
      | none => rfl
      | some condition =>
        cases hb : evaluateWatchdogCondition lang condition e.found.env false <;> simp [hb,seenSample]

theorem confirmSample_streak (h : Streak lang c sampleAlias past p) (halarm : e.found.alarm = true)
    (harmed : e.found.armed = true) : Streak lang c sampleAlias (past ++ [e])
        (confirmSample lang c e.found.env (e.sample sampleAlias) sampleAlias p).2 ∧
      ((confirmSample lang c e.found.env (e.sample sampleAlias) sampleAlias p).1 = true →
        c.consecutiveSamples ≤
          (confirmSample lang c e.found.env (e.sample sampleAlias) sampleAlias p).2.count) := by
  rw [confirmSample_eq]
  split
  · exact ⟨streak_zero lang rfl,by simp⟩
  · rename_i hvalid
    rw [Bool.not_eq_false] at hvalid
    split
    · rename_i hsame
      exact ⟨h.reread halarm harmed hvalid hsame,by simp⟩
    · rename_i hnew
      rw [Bool.not_eq_true] at hnew
      split
      · exact ⟨streak_zero lang rfl,by simp⟩
      · rename_i hbranch
        rw [Bool.not_eq_false] at hbranch
        exact ⟨h.next halarm harmed hvalid hbranch hnew rfl rfl,by simp⟩

end

section
variable (lang : Lang)

variable (c : WatchdogConfirmation)

theorem confirmSamples_spec (env : Env) (snapshot : Entries)
    {aliases : List String} (hnodup : aliases.Nodup) (ready : Bool)
    (progress : OrderedDict String Progress) :
    (∀ a, a ∉ aliases → (confirmSamples lang c env snapshot aliases ready progress).2.get? a =
        progress.get? a) ∧
    (∀ a ∈ aliases, (confirmSamples lang c env snapshot aliases ready progress).2.get? a =
        some (confirmSample lang c env (snapshotOf snapshot a) a ((progress.get? a).getD {})).2) ∧
    ((confirmSamples lang c env snapshot aliases ready progress).1 = true → ready = true ∨
      ∃ a ∈ aliases,
        (confirmSample lang c env (snapshotOf snapshot a) a ((progress.get? a).getD {})).1 = true) := by
  induction aliases generalizing ready progress with
  | nil => exact ⟨fun _ _ => rfl,by simp,fun h => .inl h⟩
  | cons first rest ih =>
    obtain ⟨hfirst,hrest⟩ := nodup_cons.1 hnodup
    simp only [confirmSamples]
    generalize hout : confirmSample lang c env (snapshotOf snapshot first) first
      ((progress.get? first).getD {}) = out
    obtain ⟨hother,hin,hready⟩ := ih hrest (ready || out.1) (progress.set first out.2)
    refine ⟨fun a ha => ?_,fun a ha => ?_,fun h => ?_⟩
    · simp only [mem_cons,not_or] at ha
      rw [hother a ha.2,get?_set,if_neg ha.1]
    · rcases mem_cons.1 ha with rfl | ha
      · rw [hother a hfirst,get?_set,if_pos rfl,hout]
      · have hne : a ≠ first := fun h => hfirst (h ▸ ha)
        rw [hin a ha,get?_set,if_neg hne]
    · rcases hready h with hor | ⟨a,ha,hconfirmed⟩
      · rcases Bool.or_eq_true_iff.1 hor with hold | hnew
        · exact .inl hold
        · exact .inr ⟨first,by simp,by rw [hout]; exact hnew⟩
      · have hne : a ≠ first := fun h => hfirst (h ▸ ha)
        rw [get?_set,if_neg hne] at hconfirmed
        exact .inr ⟨a,mem_cons_of_mem _ ha,hconfirmed⟩

def Streaks (c : WatchdogConfirmation) (past : List Evaluation)
    (progress : Option (OrderedDict String Progress)) : Prop :=
  ∀ d, progress = some d → ∀ a ∈ c.sampleAliases, ∀ p, d.get? a = some p → Streak lang c a past p

theorem streaks_none (past : List Evaluation) : Streaks lang c past none := fun _ h => by cases h

theorem streaks_reset (past : List Evaluation) (state : RuleState) :
    Streaks lang c past (resetWatchdogConfirmation state).confirmation := by
  intro d hd a _ p hp
  obtain ⟨before,_,rfl⟩ := map_eq_some_iff.1 hd
  rw [get?_mapValues] at hp
  obtain ⟨old,_,rfl⟩ := map_eq_some_iff.1 hp
  exact streak_zero lang rfl

theorem freshProgress_get? {a : String} {p : Progress}
    (h : (freshProgress c).get? a = some p) : p = {} := by
  have hfold : ∀ (aliases : List String) (d : OrderedDict String Progress),
      (∀ a p, d.get? a = some p → p = {}) → ∀ a p,
      (aliases.foldl (fun d a => d.set a {}) d).get? a = some p → p = {} := by
    intro aliases
    induction aliases with
    | nil => exact fun d hd => hd
    | cons first rest ih =>
      intro d hd
      apply ih
      intro a p hget
      rw [get?_set] at hget
      split at hget
      · exact (Option.some.inj hget).symm
      · exact hd a p hget
  exact hfold _ _ (by simp) a p h

variable {lang} {c : WatchdogConfirmation} {past : List Evaluation} {rule : WatchdogRule}
  {state : RuleState}

variable {e : Evaluation}

theorem ready_streaks (hc : rule.confirmation = some c)
    (hnodup : c.sampleAliases.Nodup) (hs : Streaks lang c past state.confirmation)
    (halarm : e.found.alarm = true) (harmed : e.found.armed = true) : Streaks lang c (past ++ [e])
        (watchdogConfirmationReady lang rule e.found.snapshot true e.found.env state).2.confirmation ∧
      ((watchdogConfirmationReady lang rule e.found.snapshot true e.found.env state).1 = true →
        ∃ a ∈ c.sampleAliases, ∃ p, c.consecutiveSamples ≤ p.count ∧
          Streak lang c a (past ++ [e]) p) := by
  unfold watchdogConfirmationReady
  simp only [hc,Bool.not_true,Bool.false_eq_true,if_false]
  have hstart : ∀ a ∈ c.sampleAliases, Streak lang c a past
      (((state.confirmation.getD (freshProgress c)).get? a).getD {}) := by
    intro a ha
    cases hget : (state.confirmation.getD (freshProgress c)).get? a with
    | none => exact streak_zero lang rfl
    | some p =>
      cases hconf : state.confirmation with
      | none =>
        rw [hconf,getD_none] at hget
        rw [freshProgress_get? c hget]
        exact streak_zero lang rfl
      | some d =>
        rw [hconf,getD_some] at hget
        exact hs d hconf a ha p hget
  obtain ⟨_,hin,hready⟩ := confirmSamples_spec lang c e.found.env e.found.snapshot hnodup false
    (state.confirmation.getD (freshProgress c))
  constructor
  · intro d hd a ha p hp
    cases hd
    rw [hin a ha,Option.some.injEq] at hp
    subst hp
    exact (confirmSample_streak (hstart a ha) halarm harmed).1
  · intro h
    rcases hready h with hfalse | ⟨a,ha,hconfirmed⟩
    · cases hfalse
    · obtain ⟨hstreak,hcount⟩ := confirmSample_streak (hstart a ha) halarm harmed
      exact ⟨a,ha,_,hcount hconfirmed,hstreak⟩

theorem commitTrigger_confirmation (rule : WatchdogRule) (state : RuleState) :
    (commitTrigger rule state).confirmation = state.confirmation := by
  unfold commitTrigger
  dsimp only
  split <;> split <;> rfl

theorem watchdogStableReady_confirmation (rule : WatchdogRule) (now : F64) (state : RuleState) :
    (watchdogStableReady lang rule now state).2.confirmation = state.confirmation := by
  unfold watchdogStableReady
  split <;> rfl

theorem decideTrigger_streaks (hc : rule.confirmation = some c) (hnodup : c.sampleAliases.Nodup)
    (hs : (rule.latch && state.latched) = false → Streaks lang c past state.confirmation)
    (halarm : e.found.alarm = true) (harmed : e.found.armed = true) (now : F64) :
    ((rule.latch && (decideTrigger lang rule e.found.snapshot true e.found.unknown e.found.env now
          state).2.latched) = false → Streaks lang c (past ++ [e]) (decideTrigger lang rule
            e.found.snapshot true e.found.unknown e.found.env now state).2.confirmation) ∧
      ((decideTrigger lang rule e.found.snapshot true e.found.unknown e.found.env now state).1 = true →
        e.found.unknown = false → ∃ a ∈ c.sampleAliases, ∃ p, c.consecutiveSamples ≤ p.count ∧
          Streak lang c a (past ++ [e]) p) := by
  unfold decideTrigger
  cases hlatched : (rule.latch && state.latched) with
  | true => simp [hlatched]
  | false =>
    have hgate : Streaks lang c (past ++ [e]) (watchdogConfirmationGate lang rule e.found.snapshot true
          e.found.unknown e.found.env state).2.confirmation ∧
        ((watchdogConfirmationGate lang rule e.found.snapshot true e.found.unknown e.found.env
            state).1 = true → e.found.unknown = false → ∃ a ∈ c.sampleAliases, ∃ p,
          c.consecutiveSamples ≤ p.count ∧ Streak lang c a (past ++ [e]) p) := by
      unfold watchdogConfirmationGate
      split
      · rename_i hunknown
        refine ⟨streaks_reset lang c _ state,fun _ hknown => ?_⟩
        simp [hknown] at hunknown
      · obtain ⟨hstreaks,hready⟩ := ready_streaks hc hnodup (hs hlatched) halarm harmed
        exact ⟨hstreaks,fun h _ => hready h⟩
    simp only [Bool.false_eq_true,if_false]
    generalize watchdogConfirmationGate lang rule e.found.snapshot true e.found.unknown e.found.env
      state = gate at hgate ⊢
    have hstable := @watchdogStableReady_confirmation lang rule now gate.2
    generalize watchdogStableReady lang rule now gate.2 = stable at hstable ⊢
    have hconf : Streaks lang c (past ++ [e]) stable.2.confirmation := hstable ▸ hgate.1
    split
    · exact ⟨fun _ => hconf,by simp⟩
    · split
      · exact ⟨fun _ => hconf,by simp⟩
      · rename_i hconfirmed
        split
        · exact ⟨fun _ => hconf,by simp⟩
        · refine ⟨fun _ => ?_,fun _ => hgate.2 (by simpa using hconfirmed)⟩
          rw [commitTrigger_confirmation]
          exact hconf

theorem decision_streaks (hc : rule.confirmation = some c) (hnodup : c.sampleAliases.Nodup)
    (hs : (rule.latch && state.latched) = false → Streaks lang c past state.confirmation)
    (now : F64) : ((rule.latch && (decision lang rule e.found now state).2.latched) = false →
        Streaks lang c (past ++ [e]) (decision lang rule e.found now state).2.confirmation) ∧
      ((decision lang rule e.found now state).1 = true → e.found.unknown = false →
        ∃ a ∈ c.sampleAliases, ∃ p, c.consecutiveSamples ≤ p.count ∧
          Streak lang c a (past ++ [e]) p) := by
  unfold decision
  cases harmed : e.found.armed with
  | false => exact ⟨fun _ => streaks_reset lang c _ _,by simp⟩
  | true =>
    cases halarm : e.found.alarm with
    | false =>
      refine ⟨fun _ => ?_,by simp⟩
      simp only [Bool.not_true,Bool.false_eq_true,if_false,Bool.not_false,if_true,
        watchdogConfirmationReady,hc]
      exact streaks_reset lang c _ _
    | true =>
      simp only [Bool.not_true,Bool.false_eq_true,if_false]
      exact decideTrigger_streaks hc hnodup hs halarm harmed now

end

def ruleOf (p : WatchdogProcess) (key : Key) : Option WatchdogRule :=
  (p.entries.get? key.1).bind fun entry => entry.rules.find? fun rule => rule.name = key.2

theorem ruleOf_of_findRule {p : WatchdogProcess} {key : Key} {rule : WatchdogRule}
    (h : findRule p key = some rule) : ruleOf p key = some rule := by
  unfold findRule at h
  unfold ruleOf
  cases hentry : p.entries.get? key.1 with
  | none => simp [hentry] at h
  | some entry =>
    rw [hentry] at h
    dsimp only at h
    split at h
    · exact h
    · cases h

theorem ruleOf_setEnabled (watchdogId : String) (enable : Bool) (p : WatchdogProcess) (key : Key) :
    ruleOf (setEnabled watchdogId enable p) key = ruleOf p key := by
  unfold ruleOf setEnabled
  rw [get?_mapValues]
  cases p.entries.get? key.1 with
  | none => rfl
  | some entry =>
    simp only [map_some,bind_some]
    split <;> rfl

def progressOf (state : RuleState) (sampleAlias : String) : Progress :=
  (state.confirmation.bind fun d => d.get? sampleAlias).getD {}

section
variable (lang : Lang)

def NeverBack (sampleAlias : String) (window : List Evaluation) : Prop :=
  ∀ x y z, [x,y,z].Sublist window → sameSample lang sampleAlias z x = true →
    sameSample lang sampleAlias y x = true

/-- A rule with confirmation triggers, while it knows its inputs, only after as many counted samples
of one source as it needs. -/
def ConfirmedBefore (past : List Moment) : Moment → Prop
  | .evaluation e => e.triggered = true → e.found.unknown = false → ∀ c,
    e.rule.confirmation = some c → c.sampleAliases.Nodup → ∃ a ∈ c.sampleAliases,
      ∃ older window counted, evaluations past ++ [e] = older ++ window ∧
        Confirms lang c a window counted ∧ c.consecutiveSamples ≤ counted.length ∧
        (NeverBack lang a window →
          counted.Pairwise fun earlier later => sameSample lang a later earlier = false)
  | .switched _ => True

def StreaksHold (r : Recorded) : Prop :=
  ∀ key rule c state, ruleOf r.system.process key = some rule → rule.confirmation = some c →
    c.sampleAliases.Nodup → r.system.process.states.get? key = some state →
    (rule.latch && state.latched) = false →
    Streaks lang c (evaluations (r.history key)) state.confirmation

/-- An evaluation that reads a sample which a source looked at last does not raise its count. -/
def RereadsKeep (r : Recorded) (key : Key) : Prop :=
  ∀ now telemetry r' e, r.step lang (.evaluate key now telemetry) = some r' →
    evaluationOf lang r.system key now telemetry = some e → ∀ c, e.rule.confirmation = some c →
    c.sampleAliases.Nodup → ∀ state after, r.system.process.states.get? key = some state →
    r'.system.process.states.get? key = some after → ∀ a ∈ c.sampleAliases,
      pyEq lang (e.marker a) (progressOf state a).lastTMonoRecv = true →
        (progressOf after a).count ≤ (progressOf state a).count

end

section
variable {lang : Lang} {r r' : Recorded} {key : Key}

theorem pairwise_of_neverBack {a : String} {window counted : List Evaluation}
    (hsub : counted.Sublist window) (hback : NeverBack lang a window)
    (hchain : counted.IsChain fun earlier later => sameSample lang a later earlier = false) :
    counted.Pairwise fun earlier later => sameSample lang a later earlier = false := by
  induction counted with
  | nil => exact .nil
  | cons x rest ih =>
    refine .cons (fun z hz => ?_) (ih ((sublist_cons_self x rest).trans hsub) hchain.tail)
    cases rest with
    | nil => cases hz
    | cons y rest =>
      have hnext : sameSample lang a y x = false := (isChain_cons_cons.1 hchain).1
      rcases mem_cons.1 hz with rfl | hz
      · exact hnext
      · by_contra hsame
        rw [Bool.not_eq_false] at hsame
        have hthree : [x,y,z].Sublist (x :: y :: rest) :=
          .cons_cons x (.cons_cons y (singleton_sublist.2 hz))
        rw [hback x y z (hthree.trans hsub) hsame] at hnext
        cases hnext

theorem streaks_evaluate {now : F64} {telemetry : Telemetry} (hstreaks : StreaksHold lang r)
    (hall : ∀ key, Justified (ConfirmedBefore lang) (r.history key))
    (hstep : r.step lang (.evaluate key now telemetry) = some r') :
    StreaksHold lang r' ∧ ∀ key, Justified (ConfirmedBefore lang) (r'.history key) := by
  obtain ⟨rule,state,found,after,hrule,hstate,_,hstates,hentries,hhistory,hafter⟩ :=
    step_evaluate hstep
  generalize hd : decision lang rule found now (noted lang rule found now state) = d
    at hhistory hafter
  -- what the decision says of the streaks of the rule's own confirmation
  have hdecision : ∀ c, rule.confirmation = some c → c.sampleAliases.Nodup →
      ((rule.latch && d.2.latched) = false →
        Streaks lang c (evaluations (r.history key) ++ [⟨rule,found,now,d.1⟩]) d.2.confirmation) ∧
      (d.1 = true → found.unknown = false → ∃ a ∈ c.sampleAliases, ∃ p, c.consecutiveSamples ≤ p.count ∧
          Streak lang c a (evaluations (r.history key) ++ [⟨rule,found,now,d.1⟩]) p) := by
    intro c hc hnodup
    have hbefore : (rule.latch && (noted lang rule found now state).latched) = false →
        Streaks lang c (evaluations (r.history key)) (noted lang rule found now state).confirmation := by
      intro hlatched
      rw [noted_confirmation]
      rw [noted_latched] at hlatched
      exact hstreaks key rule c state (ruleOf_of_findRule hrule) hc hnodup hstate hlatched
    have h := @decision_streaks lang c _ rule _ ⟨rule,found,now,d.1⟩ hc hnodup hbefore now
    dsimp only at h
    rw [hd] at h
    exact h
  constructor
  · intro other rule' c s hrule' hc hnodup hget hlatched
    have hsame : ruleOf r'.system.process other = ruleOf r.system.process other := by
      unfold ruleOf
      rw [hentries]
    rw [hsame] at hrule'
    rw [hstates,get?_set] at hget
    rw [hhistory]
    by_cases hother : other = key
    · subst hother
      rw [ruleOf_of_findRule hrule,Option.some.injEq] at hrule'
      subst hrule'
      rw [if_pos rfl,Option.some.injEq] at hget
      subst hget
      rw [if_pos rfl]
      simp only [evaluations,filterMap_append,filterMap_cons,filterMap_nil]
      rcases hafter with rfl | rfl
      · exact (hdecision c hc hnodup).1 hlatched
      · exact streaks_reset lang c _ _
    · rw [if_neg hother] at hget ⊢
      exact hstreaks other rule' c s hrule' hc hnodup hget hlatched
  · intro other
    rw [hhistory]
    split
    · refine justified_append_singleton.2 ⟨hall key,fun htriggered hknown c hc hnodup => ?_⟩
      obtain ⟨a,ha,p,hcount,older,window,counted,heq,hconfirms,hlength,_⟩ :=
        (hdecision c hc hnodup).2 htriggered hknown
      refine ⟨a,ha,older,window,counted,heq,hconfirms,hlength ▸ hcount,fun hback => ?_⟩
      exact pairwise_of_neverBack hconfirms.among hback hconfirms.changes
    · exact hall other

theorem confirmed_quiet {event : Event} (hstep : r.step lang event = some r')
    (hquiet : ∀ now telemetry other, event ≠ .evaluate other now telemetry)
    (h : Justified (ConfirmedBefore lang) (r.history key)) :
    Justified (ConfirmedBefore lang) (r'.history key) ∧
      evaluations (r'.history key) = evaluations (r.history key) := by
  obtain ⟨system,_,rfl⟩ := map_eq_some_iff.1 hstep
  cases event with
  | evaluate other now telemetry => exact absurd rfl (hquiet now telemetry other)
  | clearLatch params => simpa [moments] using h
  | chainDone other => simpa [moments] using h
  | setEnabled watchdogId enable =>
    by_cases hkey : key.1 = watchdogId
    · simpa [moments,hkey,justified_append_singleton,ConfirmedBefore,evaluations] using h
    · simpa [moments,hkey] using h

/-- An event that evaluates no rule leaves the evaluations, so the streaks are told by the states alone. -/
theorem streaks_quiet {event : Event} (hstep : r.step lang event = some r')
    (hquiet : ∀ now telemetry other, event ≠ .evaluate other now telemetry)
    (hall : ∀ key, Justified (ConfirmedBefore lang) (r.history key))
    (hstates : StreaksHold lang { r with system := r'.system }) :
    StreaksHold lang r' ∧ ∀ key, Justified (ConfirmedBefore lang) (r'.history key) := by
  have hsame := fun key => confirmed_quiet hstep hquiet (hall key)
  refine ⟨fun key rule c state hrule hc hnodup hget hlatched => ?_,fun key => (hsame key).1⟩
  rw [(hsame key).2]
  exact hstates key rule c state hrule hc hnodup hget hlatched

theorem streaks_step {event : Event} (hstreaks : StreaksHold lang r)
    (hall : ∀ key, Justified (ConfirmedBefore lang) (r.history key))
    (hstep : r.step lang event = some r') :
    StreaksHold lang r' ∧ ∀ key, Justified (ConfirmedBefore lang) (r'.history key) := by
  cases event with
  | evaluate key now telemetry => exact streaks_evaluate hstreaks hall hstep
  | clearLatch params =>
    refine streaks_quiet hstep (fun _ _ _ h => by cases h) hall ?_
    cases hstep
    intro key rule c state hrule hc hnodup hget hlatched
    have hentries := clearAll_entries (clearTargets lang.py.repr r.system.process params) r.system.process
    have hrule' : ruleOf r.system.process key = some rule := by
      unfold ruleOf at hrule ⊢
      rwa [← hentries]
    rcases clearAll_cases hget with hold | ⟨before,rfl⟩
    · exact hstreaks key rule c state hrule' hc hnodup hold hlatched
    · exact streaks_reset lang c _ _
  | chainDone other =>
    refine streaks_quiet hstep (fun _ _ _ h => by cases h) hall ?_
    cases hstep
    exact hstreaks
  | setEnabled watchdogId enable =>
    refine streaks_quiet hstep (fun _ _ _ h => by cases h) hall ?_
    cases hstep
    intro key rule c state hrule
    exact hstreaks key rule c state ((ruleOf_setEnabled ..).symm.trans hrule)

theorem progressOf_reset (state : RuleState) (a : String) :
    (progressOf (resetWatchdogConfirmation state) a).count = 0 := by
  unfold progressOf resetWatchdogConfirmation
  cases state.confirmation with
  | none => rfl
  | some d =>
    simp only [map_some,bind_some,get?_mapValues]
    cases d.get? a <;> rfl

theorem ready_count {rule : WatchdogRule} {c : WatchdogConfirmation} {state : RuleState}
    {e : Evaluation} {a : String} (hc : rule.confirmation = some c) (hnodup : c.sampleAliases.Nodup)
    (ha : a ∈ c.sampleAliases)
    (hsame : pyEq lang (e.marker a) (progressOf state a).lastTMonoRecv = true) :
    (progressOf (watchdogConfirmationReady lang rule e.found.snapshot true e.found.env state).2 a).count ≤
      (progressOf state a).count := by
  have hstart : ((state.confirmation.getD (freshProgress c)).get? a).getD {} = progressOf state a := by
    unfold progressOf
    cases state.confirmation with
    | none =>
      cases hget : (freshProgress c).get? a with
      | none => simp [hget]
      | some p => simp [hget,freshProgress_get? c hget]
    | some d => rfl
  have hin := (confirmSamples_spec lang c e.found.env e.found.snapshot hnodup false
    (state.confirmation.getD (freshProgress c))).2.1 a ha
  have hafter : progressOf
      (watchdogConfirmationReady lang rule e.found.snapshot true e.found.env state).2 a =
      (confirmSample lang c e.found.env (e.sample a) a (progressOf state a)).2 := by
    unfold watchdogConfirmationReady
    simp only [hc,Bool.not_true,Bool.false_eq_true,if_false]
    unfold progressOf
    simp only [bind_some,hin,getD_some]
    rw [hstart]
    rfl
  rw [hafter,confirmSample_eq]
  split
  · exact Nat.zero_le _
  · exact Nat.le_refl _

theorem decision_count {rule : WatchdogRule} {c : WatchdogConfirmation} {state : RuleState}
    {e : Evaluation} {a : String} (hc : rule.confirmation = some c) (hnodup : c.sampleAliases.Nodup)
    (ha : a ∈ c.sampleAliases)
    (hsame : pyEq lang (e.marker a) (progressOf state a).lastTMonoRecv = true) (now : F64) :
    (progressOf (decision lang rule e.found now state).2 a).count ≤ (progressOf state a).count := by
  unfold decision
  split
  · rw [progressOf_reset]
    exact Nat.zero_le _
  · split
    · simp only [watchdogConfirmationReady,hc,Bool.not_false,if_true]
      rw [progressOf_reset]
      exact Nat.zero_le _
    · unfold decideTrigger
      split
      · exact Nat.le_refl _
      · have hgate : (progressOf (watchdogConfirmationGate lang rule e.found.snapshot true
            e.found.unknown e.found.env state).2 a).count ≤ (progressOf state a).count := by
          unfold watchdogConfirmationGate
          split
          · rw [progressOf_reset]
            exact Nat.zero_le _
          · exact ready_count hc hnodup ha hsame
        dsimp only
        generalize watchdogConfirmationGate lang rule e.found.snapshot true e.found.unknown e.found.env
          state = gate at hgate ⊢
        have hstable := @watchdogStableReady_confirmation lang rule now gate.2
        generalize watchdogStableReady lang rule now gate.2 = stable at hstable ⊢
        have hkept : progressOf stable.2 a = progressOf gate.2 a := by simp only [progressOf,hstable]
        split
        · rwa [hkept]
        · split
          · rwa [hkept]
          · split
            · rwa [hkept]
            · have hcommit : progressOf (commitTrigger rule stable.2) a = progressOf stable.2 a := by
                simp only [progressOf,commitTrigger_confirmation]
              rwa [hcommit,hkept]

theorem rereads_keep (key : Key) : RereadsKeep lang r key := by
  intro now telemetry r' e hstep he c hc hnodup state after hstate hafter a ha hsame
  obtain ⟨rule,before,found,later,hrule,hbefore,hfound,hstates,_,_,hlater⟩ := step_evaluate hstep
  obtain rfl : state = before := Option.some.inj (hstate.symm.trans hbefore)
  have heq : e.rule = rule ∧ e.found = found := by
    unfold evaluationOf at he
    simp only [hrule,hbefore,hfound] at he
    split at he
    · cases he
      rename_i hok _
      cases hok
      exact ⟨rfl,rfl⟩
    · cases he
  obtain ⟨rfl,rfl⟩ := heq
  rw [hstates,get?_set,if_pos rfl,Option.some.injEq] at hafter
  subst hafter
  have hnoted : progressOf (noted lang e.rule e.found now state) a = progressOf state a := by
    simp only [progressOf,noted_confirmation]
  rcases hlater with rfl | rfl
  · rw [← hnoted] at hsame ⊢
    exact decision_count hc hnodup ha hsame now
  · rw [progressOf_reset]
    exact Nat.zero_le _

/-- In every run, a rule with confirmation that triggers while it knows its inputs has a streak of
counted samples of one source behind it, and reading a sample once more raises no count. -/
theorem triggers_when_confirmed (h : Reachable lang (fun _ _ => True) r) (key : Key) :
    Justified (ConfirmedBefore lang) (r.history key) ∧ RereadsKeep lang r key := by
  refine ⟨?_,rereads_keep key⟩
  suffices hboth : StreaksHold lang r ∧ ∀ key, Justified (ConfirmedBefore lang) (r.history key) from
    hboth.2 key
  induction h with
  | start entries =>
    refine ⟨fun key rule c state _ _ _ hget _ => ?_,fun _ => justified_nil⟩
    rw [initialStates_get? hget]
    exact streaks_none lang c _
  | step _ _ hstep ih => exact streaks_step ih.1 ih.2 hstep

end

/-- As before, but with the branch holding at every evaluation from the first counted one to the last,
samples that are read again included. -/
def StrictlyConfirmedBefore (lang : Lang) (past : List Moment) : Moment → Prop
  | .evaluation e => e.triggered = true → e.found.unknown = false → ∀ c,
    e.rule.confirmation = some c → ∃ a ∈ c.sampleAliases, ∃ older window later,
      ∃ counted : List Evaluation, evaluations past ++ [e] = older ++ (window ++ later) ∧ counted.Sublist window ∧
        counted.head? = window.head? ∧ counted.getLast? = window.getLast? ∧
        counted.length = c.consecutiveSamples ∧
        (∀ x ∈ window, x.found.alarm = true ∧ x.found.armed = true ∧ x.valid a = true ∧
          branchHolds lang c a x = true) ∧
        counted.Pairwise fun earlier later => sameSample lang a later earlier = false
  | .switched _ => True

def gaugeLang : Lang where
  py := { Primitives.names with
    parse := fun expr => match expr with
      | "a.value" => .ok (.attr (.name "a") "value")
      | "b.value" => .ok (.attr (.name "b") "value")
      | _ => .ok (.name expr)
    compare := fun op x y => match op,x,y with
      | .gt,.int m,.int n => .ok (n < m)
      | op,x,y => Primitives.names.compare op x y }
  num := ticks.num

def gaugeConfirmation (n : Nat) : WatchdogConfirmation where
  sampleAliases := ["a","b"]
  consecutiveSamples := n
  branchConditions := (OrderedDict.empty.set "a"
    (.dict false [("gt",.list [.str "$\x7ba.value\x7d",.str "$\x7bb.value\x7d"])])).set "b"
    (.dict false [("gt",.list [.str "$\x7bb.value\x7d",.int 8])])

def gaugeRule (n : Nat) : WatchdogRule where
  name := "pressure"
  telemetry := [{ alias_ := "a", deviceId := "a", signal := "p", maxAgeS := 1 },
    { alias_ := "b", deviceId := "b", signal := "p", maxAgeS := 1 }]
  condition := .dict false [("always",.bool true)]
  stableForS := 0
  cooldownS := 0
  latch := false
  onUnknown := .ignore
  confirmation := some (gaugeConfirmation n)

def gaugeWatchdog (n : Nat) : Recorded := .start (OrderedDict.empty.set "vacuum" ⟨[gaugeRule n],true⟩)

def gaugeKey : Key := ("vacuum","pressure")

def reading (value : Int) (received : F64) : Entries :=
  [("value",.int value),("quality",.str "OK"),("age_s",.float 0),("t_mono_recv",.float received)]

def gaugesAt (now : F64) (a : Int × F64) (b : Int × F64) : Event :=
  .evaluate gaugeKey now fun device _ =>
    some (if device = "a" then reading a.1 a.2 else reading b.1 b.2)

def rereadRun : List Event :=
  [gaugesAt 1 (7,1) (1,1),gaugesAt 2 (7,1) (9,2),gaugesAt 3 (12,3) (9,2)]

def Moment.row (n : Nat) : Moment → List Value
  | .evaluation e => [.bool e.triggered,.bool e.found.unknown,
    e.marker "a",.bool (branchHolds gaugeLang (gaugeConfirmation n) "a" e),
    e.marker "b",.bool (branchHolds gaugeLang (gaugeConfirmation n) "b" e)]
  | .switched _ => []

def WatchdogConfirmation.parts (c : WatchdogConfirmation) : List String × Nat × Entries :=
  (c.sampleAliases,c.consecutiveSamples,c.branchConditions.entries)

theorem confirmation_ext {c c' : WatchdogConfirmation} (h : c.parts = c'.parts) : c = c' := by
  obtain ⟨aliases,n,⟨entries,_⟩⟩ := c
  obtain ⟨aliases',n',⟨entries',_⟩⟩ := c'
  cases h
  rfl

theorem evaluation_of_row {m : Moment} {n : Nat} {triggered unknown a b : Bool} {ma mb : Value}
    (h : m.row n = [.bool triggered,.bool unknown,ma,.bool a,mb,.bool b]) :
    ∃ e, m = .evaluation e ∧ e.triggered = triggered ∧ e.found.unknown = unknown ∧
      e.marker "a" = ma ∧ branchHolds gaugeLang (gaugeConfirmation n) "a" e = a ∧
      e.marker "b" = mb ∧ branchHolds gaugeLang (gaugeConfirmation n) "b" e = b := by
  cases m with
  | evaluation e =>
    simp only [Moment.row,List.cons.injEq,Value.bool.injEq,and_true] at h
    exact ⟨e,rfl,h⟩
  | switched _ => cases h

def confirmsBy (c : WatchdogConfirmation) (e : Evaluation) : Bool :=
  match e.rule.confirmation with
  | none => false
  | some c' => c'.parts = c.parts

theorem confirmation_of_confirmsBy {c : WatchdogConfirmation} {e : Evaluation}
    (h : confirmsBy c e = true) : e.rule.confirmation = some c := by
  unfold confirmsBy at h
  split at h
  · cases h
  · rename_i c' hc
    rw [hc,confirmation_ext (of_decide_eq_true h)]

theorem middle_mem {α : Type} {older window later : List α} {x y z : α}
    (h : [x,y,z] = older ++ (window ++ later)) (hlen : 2 ≤ window.length) : y ∈ window := by
  match window,hlen with
  | w1 :: w2 :: rest,_ =>
    cases older with
    | nil =>
      simp only [nil_append,cons_append,List.cons.injEq] at h
      simp [h.2.1]
    | cons o older =>
      cases older with
      | nil =>
        simp only [cons_append,nil_append,List.cons.injEq] at h
        simp [h.2.1]
      | cons o' older =>
        have hcount := congrArg List.length h
        simp at hcount
        omega

theorem branch_fails_between :
    ∃ r, rereadRun.foldlM (Recorded.step gaugeLang) (gaugeWatchdog 2) = some r ∧
      ¬ Justified (StrictlyConfirmedBefore gaugeLang) (r.history gaugeKey) := by
  have hrows : (rereadRun.foldlM (Recorded.step gaugeLang) (gaugeWatchdog 2)).map (fun r =>
      (r.history gaugeKey).map (Moment.row 2)) =
      some [[.bool false,.bool false,.float 1,.bool true,.float 1,.bool false],
        [.bool false,.bool false,.float 1,.bool false,.float 2,.bool true],
        [.bool true,.bool false,.float 3,.bool true,.float 2,.bool true]] := by
    decide +kernel
  have hrule : (rereadRun.foldlM (Recorded.step gaugeLang) (gaugeWatchdog 2)).map (fun r =>
      (evaluations (r.history gaugeKey)).map (confirmsBy (gaugeConfirmation 2))) =
      some [true,true,true] := by
    decide +kernel
  obtain ⟨r,hrun,hr⟩ := map_eq_some_iff.1 hrows
  refine ⟨r,hrun,fun hall => ?_⟩
  rw [hrun,map_some,Option.some.injEq] at hrule
  generalize r.history gaugeKey = history at hr hrule hall
  simp only [map_eq_cons_iff,map_eq_nil_iff] at hr
  obtain ⟨m1,_,rfl,h1,m2,_,rfl,h2,m3,_,rfl,h3,rfl⟩ := hr
  obtain ⟨e1,rfl,_,_,_,_,_,hb1⟩ := evaluation_of_row h1
  obtain ⟨e2,rfl,_,_,_,ha2,hm2,_⟩ := evaluation_of_row h2
  obtain ⟨e3,rfl,htriggered,hknown,_,_,hm3,_⟩ := evaluation_of_row h3
  have hc : e3.rule.confirmation = some (gaugeConfirmation 2) := by
    apply confirmation_of_confirmsBy
    simpa [evaluations] using (List.cons.inj (List.cons.inj (List.cons.inj hrule).2).2).1
  obtain ⟨a,ha,older,window,later,counted,heq,hsub,_,_,hlength,hwindow,hdistinct⟩ :=
    hall [.evaluation e1,.evaluation e2] (.evaluation e3) [] rfl htriggered hknown _ hc
  have hlong : 2 ≤ window.length := by
    have hle := hsub.length_le
    have htwo : counted.length = 2 := hlength
    omega
  have hmiddle := middle_mem heq hlong
  simp only [gaugeConfirmation,mem_cons,not_mem_nil,or_false] at ha
  rcases ha with rfl | rfl
  · exact absurd ((hwindow e2 hmiddle).2.2.2) (by rw [ha2]; decide)
  · -- the counted evaluations are the last two, which read one and the same sample
    have hmarker : ∀ x ∈ counted, x.marker "b" = .float 2 := by
      intro x hx
      have hin : x ∈ [e1,e2,e3] := by
        have hmem : x ∈ older ++ (window ++ later) :=
          mem_append_right _ (mem_append_left _ (hsub.subset hx))
        rwa [← heq] at hmem
      simp only [mem_cons,not_mem_nil,or_false] at hin
      rcases hin with rfl | rfl | rfl
      · have hbranch := (hwindow x (hsub.subset hx)).2.2.2
        rw [hb1] at hbranch
        cases hbranch
      · exact hm2
      · exact hm3
    obtain ⟨x,y,rfl⟩ := length_eq_two.1 hlength
    have hdiffer := rel_of_pairwise_cons hdistinct (mem_singleton.2 rfl)
    simp only [sameSample,hmarker x (by simp),hmarker y (by simp)] at hdiffer
    revert hdiffer
    decide

def countAfter (events : List Event) : Option (List Value × Option Nat) :=
  (events.foldlM (Recorded.step gaugeLang) (gaugeWatchdog 2)).map fun r =>
    ((evaluations (r.history gaugeKey)).map fun e => e.marker "a",
      (r.system.process.states.get? gaugeKey).map fun state => (progressOf state "a").count)

theorem samples_read_again :
    (∃ r, rereadRun.foldlM (Recorded.step gaugeLang) (gaugeWatchdog 2) = some r ∧
      ¬ Justified (StrictlyConfirmedBefore gaugeLang) (r.history gaugeKey)) ∧
    countAfter [gaugesAt 1 (7,1) (8,1)] = some ([.float 1],some 0) ∧
    countAfter [gaugesAt 1 (7,1) (8,1),gaugesAt 2 (7,1) (1,2)] =
      some ([.float 1,.float 1],some 1) :=
  ⟨branch_fails_between,by decide +kernel,by decide +kernel⟩

theorem steady_gauge_confirmed :
    ∃ r, [gaugesAt 1 (7,1) (1,1),gaugesAt 2 (7,1) (1,2),gaugesAt 3 (12,3) (1,2)].foldlM
        (Recorded.step gaugeLang) (gaugeWatchdog 2) = some r ∧
      (r.history gaugeKey).map (Moment.row 2) =
        [[.bool false,.bool false,.float 1,.bool true,.float 1,.bool false],
          [.bool false,.bool false,.float 1,.bool true,.float 2,.bool false],
          [.bool true,.bool false,.float 3,.bool true,.float 2,.bool false]] ∧
      Justified (ConfirmedBefore gaugeLang) (r.history gaugeKey) ∧ RereadsKeep gaugeLang r gaugeKey := by
  have hrows : ([gaugesAt 1 (7,1) (1,1),gaugesAt 2 (7,1) (1,2),gaugesAt 3 (12,3) (1,2)].foldlM
      (Recorded.step gaugeLang) (gaugeWatchdog 2)).map (fun r =>
        (r.history gaugeKey).map (Moment.row 2)) =
      some [[.bool false,.bool false,.float 1,.bool true,.float 1,.bool false],
        [.bool false,.bool false,.float 1,.bool true,.float 2,.bool false],
        [.bool true,.bool false,.float 3,.bool true,.float 2,.bool false]] := by
    decide +kernel
  obtain ⟨r,hrun,hr⟩ := map_eq_some_iff.1 hrows
  exact ⟨r,hrun,hr,
    triggers_when_confirmed (reachable_of_run (.start _) (fun _ _ _ => trivial) hrun) gaugeKey⟩

end ExperimentControl.Watchdog

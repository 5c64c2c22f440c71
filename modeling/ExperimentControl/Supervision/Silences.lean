import ExperimentControl.Supervision.Watch
import ExperimentControl.Lib.Runs
import Mathlib.Data.List.Chain
import Mathlib.Tactic.Linarith

/-!
The history of a child's heartbeats and of the ticks that look at them: which silences the strikes of a
failure belong to, and how often the time to reconcile after a stall is opened.
-/

namespace ExperimentControl.Supervision
open Lib List Option

structure Observation where
  time : ℚ
  age : ℚ
  beats : Nat
  deriving DecidableEq

/-- A watch and what has happened since its child was started. -/
structure Watched where
  watch : Watch
  beats : Nat
  observations : List Observation
  strikeBeats : Nat
  openings : List Nat
  failure : Option (Trigger × ℚ)
  lastTick : Option ℚ

inductive WatchInput where
  | heartbeat (recvMono : ℚ)
  | tick (tick : Tick) (waiting : List ℚ)
  | started (now : ℚ)

namespace Watch

def staleAge (tick : Tick) (waiting : List ℚ) (w : Watch) : Option ℚ :=
  if w.Up then
    ((w.drained tick waiting).ageS tick.nowMono).filter (w.spec.heartbeatTimeoutS < ·)
  else none

def opens (conf : SupervisionConf) (tick : Tick) (w : Watch) : Bool :=
  w.heartbeatStallReconcileDeadlineMono = none ∧ managerLoopStalled conf tick

def counts (conf : SupervisionConf) (tick : Tick) (w : Watch) : Bool :=
  !(w.reconciling conf tick).heartbeatStallReconcileDeadlineMono.any (tick.nowMono < ·) &&
    w.lastStaleDetectedMono.all fun t => w.periodS ≤ tick.nowMono-t

end Watch

namespace Watched

def start (spec : ProcessSpec) (now : ℚ) : Watched := ⟨.started spec now,0,[],0,[],none,none⟩

variable (conf : SupervisionConf)

def ticked (tick : Tick) (waiting : List ℚ) (s : Watched) : Watched :=
  let w := s.watch.drained tick waiting
  let beats := s.beats+(s.watch.drains tick waiting).length
  let (after,trigger) := s.watch.check conf tick waiting
  let next := { s with
    watch := after
    beats := beats
    failure := (trigger.map fun g => (g,tick.nowMono)).or s.failure
    lastTick := some tick.nowMono }
  match s.watch.staleAge tick waiting with
  | none => next
  | some age => { next with
      observations := ⟨tick.nowMono,age,beats⟩ :: s.observations
      strikeBeats := if w.counts conf tick then beats else s.strikeBeats
      openings := if w.opens conf tick then beats :: s.openings else s.openings }

def step (s : Watched) : WatchInput → Watched
  | .heartbeat recvMono => { s with watch := s.watch.heard recvMono,beats := s.beats+1 }
  | .tick tick waiting => s.ticked conf tick waiting
  | .started now => start s.watch.spec now

def Timely (s : Watched) : WatchInput → Prop
  | .tick tick _ => ∀ t ∈ s.lastTick, t ≤ tick.nowMono
  | _ => True

/-- A tick that finds the process silent for too long while strikes are counted comes after no heartbeat
since the last of these. -/
def Apart (s : Watched) : WatchInput → Prop
  | .tick tick waiting => (s.watch.staleAge tick waiting).isSome → 0 < s.watch.heartbeatStaleStrikes →
      s.beats+(s.watch.drains tick waiting).length = s.strikeBeats
  | _ => True

instance (s : Watched) (input : WatchInput) : Decidable (s.Timely input) :=
  match input with
  | .tick tick _ => inferInstanceAs (Decidable (∀ t ∈ s.lastTick, t ≤ tick.nowMono))
  | .heartbeat _ | .started _ => isTrue trivial

instance (s : Watched) (input : WatchInput) : Decidable (s.Apart input) :=
  match input with
  | .tick tick waiting => inferInstanceAs (Decidable ((s.watch.staleAge tick waiting).isSome →
      0 < s.watch.heartbeatStaleStrikes →
        s.beats+(s.watch.drains tick waiting).length = s.strikeBeats))
  | .heartbeat _ | .started _ => isTrue trivial

def OneSilence (s : Watched) (t : ℚ) : Prop :=
  ∃ streak : List Observation, streak.Sublist s.observations ∧
    (streak.length : Int) = strikesToFail conf ∧ (streak.head?.map (·.time)) = some t ∧
    streak.IsChain (fun o o' => s.watch.spec.heartbeatPeriodS ≤ o.time-o'.time) ∧
    (∀ o ∈ streak, s.watch.spec.heartbeatTimeoutS < o.age) ∧
    ∃ beats, ∀ o ∈ streak, o.beats = beats

end Watched

namespace Watch

@[simp] theorem heard_spec (w : Watch) (t : ℚ) : (w.heard t).spec = w.spec := rfl

theorem up_heard (w : Watch) (t : ℚ) : (w.heard t).Up ↔ w.Up := by
  unfold Up heard
  cases w.state <;> simp

theorem ageS_later {w : Watch} {t t' age : ℚ} (h : w.ageS t = some age) :
    w.ageS t' = some (age+(t'-t)) := by
  unfold ageS at h ⊢
  cases hlast : w.lastHbRecvMono with
  | some last =>
    simp only [hlast,Option.some.injEq] at h
    simp only [Option.some.injEq]
    linarith
  | none =>
    simp only [hlast,map_eq_some_iff] at h
    obtain ⟨start,hstart,hage⟩ := h
    simp only [hstart,map_some,Option.some.injEq]
    linarith

theorem up_of_state {w w' : Watch} (h : w'.state = w.state) (hup : w.Up) : w'.Up := by
  unfold Up
  rw [h]
  exact hup

structure Same (w w' : Watch) : Prop where
  spec : w'.spec = w.spec
  up : w'.Up ↔ w.Up
  strikes : w'.heartbeatStaleStrikes = w.heartbeatStaleStrikes
  lastStale : w'.lastStaleDetectedMono = w.lastStaleDetectedMono
  deadline : w'.heartbeatStallReconcileDeadlineMono = w.heartbeatStallReconcileDeadlineMono

theorem Same.trans {w w' w'' : Watch} (h : w.Same w') (h' : w'.Same w'') : w.Same w'' :=
  ⟨h'.spec.trans h.spec,h'.up.trans h.up,h'.strikes.trans h.strikes,h'.lastStale.trans h.lastStale,
    h'.deadline.trans h.deadline⟩

theorem same_heard (w : Watch) (t : ℚ) : w.Same (w.heard t) := ⟨rfl,w.up_heard t,rfl,rfl,rfl⟩

theorem same_drained (tick : Tick) (waiting : List ℚ) (w : Watch) :
    w.Same (w.drained tick waiting) := by
  unfold drained
  generalize w.drains tick waiting = heartbeats
  induction heartbeats generalizing w with
  | nil => exact ⟨rfl,Iff.rfl,rfl,rfl,rfl⟩
  | cons t rest ih => exact (w.same_heard t).trans (ih (w.heard t))

theorem drains_of_down {tick : Tick} {waiting : List ℚ} {w : Watch} (h : ¬ w.Up) :
    w.drains tick waiting = [] := by
  simp [drains,h]

variable (conf : SupervisionConf) {tick : Tick} {waiting : List ℚ} {w : Watch} {age : ℚ}

theorem check_of_down (h : ¬ w.Up) : w.check conf tick waiting = (w,none) := by
  rw [check,if_pos h]

theorem check_of_stale (h : w.staleAge tick waiting = some age) :
    w.check conf tick waiting = (w.drained tick waiting).stale conf tick age ∧
      w.Up ∧ w.spec.heartbeatTimeoutS < age ∧
      (w.drained tick waiting).ageS tick.nowMono = some age := by
  unfold staleAge at h
  split at h
  · rename_i hup
    obtain ⟨hage,hold⟩ := filter_eq_some_iff.1 h
    have hold' : w.spec.heartbeatTimeoutS < age := by simpa using hold
    have hspec := (same_drained tick waiting w).spec
    refine ⟨?_,hup,hold',hage⟩
    rw [check,if_neg (not_not.2 hup)]
    simp only [hage]
    rw [if_neg (by rw [hspec]; exact not_le.2 hold')]
  · cases h

theorem check_of_fresh (hup : w.Up) (h : w.staleAge tick waiting = none) :
    w.check conf tick waiting = (w.drained tick waiting,none) ∨
      w.check conf tick waiting = ((w.drained tick waiting).cleared,none) ∧
        ∃ age, (w.drained tick waiting).ageS tick.nowMono = some age ∧
          age ≤ w.spec.heartbeatTimeoutS := by
  have hspec := (same_drained tick waiting w).spec
  rw [staleAge,if_pos hup] at h
  rw [check,if_neg (not_not.2 hup)]
  cases hage : (w.drained tick waiting).ageS tick.nowMono with
  | none =>
    left
    simp only [hage]
  | some age =>
    have hfresh : age ≤ w.spec.heartbeatTimeoutS := by simpa [hage] using h
    right
    simp only [hage]
    rw [if_pos (by rw [hspec]; exact hfresh)]
    exact ⟨rfl,age,rfl,hfresh⟩

def strikesThen (conf : SupervisionConf) (tick : Tick) (w : Watch) : Int :=
  w.heartbeatStaleStrikes+if w.counts conf tick then 1 else 0

/-- What a stale check leaves: the process goes on, or it fails after its time to reconcile. -/
structure StaleStep (conf : SupervisionConf) (tick : Tick) (w : Watch)
    (r : Watch × Option Trigger) : Prop where
  spec : r.1.spec = w.spec
  age : ∀ now, r.1.ageS now = w.ageS now
  deadline : r.1.heartbeatStallReconcileDeadlineMono =
    (w.reconciling conf tick).heartbeatStallReconcileDeadlineMono
  lastStale : r.1.lastStaleDetectedMono =
    if w.counts conf tick then some tick.nowMono else w.lastStaleDetectedMono
  goesOn : w.heartbeatStaleStrikes < strikesToFail conf → r.2 = none → r.1.state = w.state ∧
    r.1.heartbeatStaleStrikes = min (w.strikesThen conf tick) (strikesToFail conf-1)
  fails : ∀ g, r.2 = some g → r.1.state = .failed ∧
    r.1.heartbeatStaleStrikes = w.strikesThen conf tick ∧
    (∀ d ∈ r.1.heartbeatStallReconcileDeadlineMono, d ≤ tick.nowMono) ∧
    (g = .staleStrikes → strikesToFail conf ≤ w.strikesThen conf tick)

variable (conf : SupervisionConf)

theorem reconciling_eq (tick : Tick) (w : Watch) : ∃ deadline, w.reconciling conf tick =
      { w with heartbeatStallReconcileDeadlineMono := deadline } ∧
      (w.opens conf tick = true → deadline.isSome) ∧
      (w.opens conf tick = false → deadline = w.heartbeatStallReconcileDeadlineMono) := by
  unfold reconciling opens
  split
  · rename_i h
    exact ⟨_,rfl,fun _ => rfl,fun hno => by simp [h] at hno⟩
  · rename_i h
    exact ⟨_,rfl,fun hyes => absurd (by simpa using hyes) h,fun _ => rfl⟩

theorem struck_of_due {now : ℚ} (h : (w.lastStaleDetectedMono.all fun t => w.periodS ≤ now-t) = true) :
    w.struck now = { w with
      heartbeatStaleStrikes := w.heartbeatStaleStrikes+1
      lastStaleDetectedMono := some now } := if_pos h

theorem struck_of_early {now : ℚ}
    (h : (w.lastStaleDetectedMono.all fun t => w.periodS ≤ now-t) = false) : w.struck now = w :=
  if_neg (by rw [h]; exact Bool.false_ne_true)

theorem struck_eq (tick : Tick) (w : Watch)
    (hdue : (w.reconciling conf tick).heartbeatStallReconcileDeadlineMono.any (tick.nowMono < ·) = false) :
    (w.reconciling conf tick).struck tick.nowMono = { w.reconciling conf tick with
      heartbeatStaleStrikes := w.strikesThen conf tick
      lastStaleDetectedMono :=
        if w.counts conf tick then some tick.nowMono else w.lastStaleDetectedMono } := by
  obtain ⟨deadline,heq,-,-⟩ := reconciling_eq conf tick w
  have hcounts : w.counts conf tick =
      w.lastStaleDetectedMono.all fun t => w.periodS ≤ tick.nowMono-t := by
    rw [counts,hdue]
    rfl
  rw [heq]
  cases hc : w.counts conf tick with
  | true =>
    refine (struck_of_due (w := { w with heartbeatStallReconcileDeadlineMono := deadline })
      (hcounts.symm.trans hc)).trans ?_
    simp [strikesThen,hc]
  | false =>
    refine (struck_of_early (w := { w with heartbeatStallReconcileDeadlineMono := deadline })
      (hcounts.symm.trans hc)).trans ?_
    simp [strikesThen,hc]

theorem judged_cases (tick : Tick) (age : ℚ) (w : Watch) : w.judged conf tick age =
        ({ w with heartbeatStaleStrikes := min w.heartbeatStaleStrikes (strikesToFail conf-1) },none) ∨
      (w.heartbeatStaleStrikes < strikesToFail conf ∧ w.judged conf tick age = (w,none)) ∨
      ∃ g, w.judged conf tick age = ({ w with state := .failed },some g) ∧
        (g = .staleStrikes → strikesToFail conf ≤ w.heartbeatStaleStrikes) := by
  unfold judged
  split
  · exact .inl rfl
  split
  · rename_i hstrikes
    exact .inr (.inl ⟨hstrikes.1,rfl⟩)
  · rename_i hmany
    refine .inr (.inr ⟨_,rfl,fun hstale => ?_⟩)
    by_contra hshort
    refine hmany ⟨not_le.1 hshort,not_le.1 fun hhard => ?_⟩
    simp [if_pos hhard] at hstale

theorem stale_step (tick : Tick) (age : ℚ) (w : Watch) :
    w.StaleStep conf tick (w.stale conf tick age) := by
  obtain ⟨deadline,heq,-,-⟩ := reconciling_eq conf tick w
  unfold stale
  dsimp only
  cases hdue : (w.reconciling conf tick).heartbeatStallReconcileDeadlineMono.any (tick.nowMono < ·) with
  | true =>
    have hcounts : w.counts conf tick = false := by
      rw [counts,hdue]
      rfl
    have hthen : w.strikesThen conf tick = w.heartbeatStaleStrikes := by simp [strikesThen,hcounts]
    rw [if_pos rfl]
    refine ⟨by rw [heq],fun now => by rw [heq]; rfl,rfl,by rw [hcounts,heq]; rfl,fun hfew _ => ?_,
      fun g hg => by cases hg⟩
    rw [hthen,heq]
    exact ⟨rfl,by dsimp only; omega⟩
  | false =>
    rw [if_neg Bool.false_ne_true,struck_eq conf tick w hdue]
    have hpast : ∀ d ∈ (w.reconciling conf tick).heartbeatStallReconcileDeadlineMono,
        d ≤ tick.nowMono := by
      intro d hd
      rw [mem_def.1 hd] at hdue
      simpa using hdue
    rcases judged_cases conf tick age { w.reconciling conf tick with
        heartbeatStaleStrikes := w.strikesThen conf tick
        lastStaleDetectedMono :=
          if w.counts conf tick then some tick.nowMono else w.lastStaleDetectedMono }
      with hcapped | ⟨hk,hsame⟩ | ⟨g,hfailed,hstale⟩
    · rw [hcapped,heq]
      refine ⟨rfl,fun _ => rfl,?_,rfl,fun _ _ => ⟨rfl,rfl⟩,fun g hg => by cases hg⟩
      rw [heq]
    · rw [hsame,heq]
      refine ⟨rfl,fun _ => rfl,?_,rfl,fun _ _ => ⟨rfl,?_⟩,fun g hg => by cases hg⟩
      · rw [heq]
      · dsimp only at hk ⊢
        omega
    · rw [hfailed]
      refine ⟨by rw [heq],fun _ => by rw [heq]; rfl,rfl,rfl,fun _ h => (by cases h),
        fun g' hg' => ?_⟩
      cases hg'
      exact ⟨rfl,rfl,hpast,hstale⟩

end Watch

namespace Watched

/-- Observations that are a period apart, each too old, with no heartbeat between. -/
structure Streak (s : Watched) (streak : List Observation) : Prop where
  observed : streak.Sublist s.observations
  apart : streak.IsChain fun o o' => s.watch.spec.heartbeatPeriodS ≤ o.time-o'.time
  old : ∀ o ∈ streak, s.watch.spec.heartbeatTimeoutS < o.age
  silent : ∀ o ∈ streak, o.beats = s.strikeBeats

/-- The strikes that are counted are a streak, and a failure has one that is long enough. -/
structure Counted (conf : SupervisionConf) (s : Watched) : Prop where
  streak : ∃ streak, s.Streak streak ∧ (streak.length : Int) = s.watch.heartbeatStaleStrikes ∧
    ∀ o ∈ streak.head?, s.watch.lastStaleDetectedMono = some o.time
  running : s.failure = none → s.watch.Up ∧ s.watch.heartbeatStaleStrikes < strikesToFail conf
  failed : s.failure ≠ none → ¬ s.watch.Up
  explained : ∀ t, s.failure = some (.staleStrikes,t) → s.OneSilence conf t
  reconciled : ∀ g t, s.failure = some (g,t) →
    ∀ d ∈ s.watch.heartbeatStallReconcileDeadlineMono, d ≤ t

variable {conf : SupervisionConf} {s : Watched}

theorem counted_start (spec : ProcessSpec) (now : ℚ) : (start spec now).Counted conf where
  streak := ⟨[],⟨.slnil,.nil,by simp,by simp⟩,rfl,by simp⟩
  running _ := ⟨.inl rfl,by simp [start,Watch.started,strikesToFail]⟩
  failed h := absurd rfl h
  explained t h := by cases h
  reconciled g t h := by cases h

theorem Counted.kept (h : s.Counted conf) {w : Watch} (hsame : s.watch.Same w) (beats : Nat)
    (lastTick : Option ℚ) : Counted conf { s with watch := w,beats := beats,lastTick := lastTick } where
  streak := by
    obtain ⟨streak,hstreak,hlength,hlast⟩ := h.streak
    refine ⟨streak,⟨hstreak.observed,?_,?_,hstreak.silent⟩,?_,fun o ho => ?_⟩
    · simpa [hsame.spec] using hstreak.apart
    · simpa [hsame.spec] using hstreak.old
    · simpa [hsame.strikes] using hlength
    · simpa [hsame.lastStale] using hlast o ho
  running hnone := ⟨hsame.up.2 (h.running hnone).1,by simpa [hsame.strikes] using (h.running hnone).2⟩
  failed hsome := fun hup => h.failed hsome (hsame.up.1 hup)
  explained t ht := by simpa [OneSilence,hsame.spec] using h.explained t ht
  reconciled g t ht := by simpa [hsame.deadline] using h.reconciled g t ht

theorem Counted.cleared (h : s.Counted conf) (hnone : s.failure = none) :
    Counted conf { s with watch := s.watch.cleared } where
  streak := ⟨[],⟨nil_sublist _,.nil,by simp,by simp⟩,rfl,by simp⟩
  running hnone := ⟨(h.running hnone).1,by simp [Watch.cleared,strikesToFail]⟩
  failed hsome := absurd hnone hsome
  explained t ht := by simp [hnone] at ht
  reconciled g t ht := by simp [hnone] at ht

variable {waiting : List ℚ}

theorem ticked_of_fresh {tick : Tick} {w : Watch} (hfresh : s.watch.staleAge tick waiting = none)
    (hcheck : s.watch.check conf tick waiting = (w,none)) :
    s.ticked conf tick waiting = { s with
      watch := w
      beats := s.beats+(s.watch.drains tick waiting).length
      lastTick := some tick.nowMono } := by
  simp [ticked,hcheck,hfresh]

theorem ticked_of_stale {tick : Tick} {age : ℚ}
    (hstale : s.watch.staleAge tick waiting = some age) : s.ticked conf tick waiting =
      let w := s.watch.drained tick waiting
      let beats := s.beats+(s.watch.drains tick waiting).length
      { watch := (w.stale conf tick age).1
        beats := beats
        observations := ⟨tick.nowMono,age,beats⟩ :: s.observations
        strikeBeats := if w.counts conf tick then beats else s.strikeBeats
        openings := if w.opens conf tick then beats :: s.openings else s.openings
        failure := ((w.stale conf tick age).2.map fun g => (g,tick.nowMono)).or s.failure
        lastTick := some tick.nowMono } := by
  rw [ticked,hstale,(Watch.check_of_stale conf hstale).1]

theorem Counted.fresh (h : s.Counted conf) {tick : Tick}
    (hfresh : s.watch.staleAge tick waiting = none) : (s.ticked conf tick waiting).Counted conf := by
  by_cases hup : s.watch.Up
  · have hnone : s.failure = none := by
      by_contra hsome
      exact h.failed hsome hup
    have hsame := Watch.same_drained tick waiting s.watch
    rcases Watch.check_of_fresh conf hup hfresh with hcheck | ⟨hcheck,-⟩
    · rw [ticked_of_fresh hfresh hcheck]
      exact h.kept hsame _ _
    · rw [ticked_of_fresh hfresh hcheck]
      exact (h.kept hsame (s.beats+(s.watch.drains tick waiting).length)
        (some tick.nowMono)).cleared hnone
  · rw [ticked_of_fresh hfresh (Watch.check_of_down conf hup)]
    exact h.kept ⟨rfl,Iff.rfl,rfl,rfl,rfl⟩ _ _

theorem Streak.take {streak : List Observation} (h : s.Streak streak) (n : Nat) :
    s.Streak (streak.take n) where
  observed := (take_sublist n streak).trans h.observed
  apart := h.apart.take n
  old o ho := h.old o (mem_of_mem_take ho)
  silent o ho := h.silent o (mem_of_mem_take ho)

theorem Counted.next (h : s.Counted conf) {tick : Tick} {age : ℚ}
    (hstale : s.watch.staleAge tick waiting = some age) (hapart : s.Apart (.tick tick waiting)) :
    ∃ streak, (s.ticked conf tick waiting).Streak streak ∧
      (streak.length : Int) = (s.watch.drained tick waiting).strikesThen conf tick ∧
      (∀ o ∈ streak.head?, (s.ticked conf tick waiting).watch.lastStaleDetectedMono = some o.time) ∧
      ((s.watch.drained tick waiting).counts conf tick = true →
        (streak.head?.map (·.time)) = some tick.nowMono) := by
  obtain ⟨streak,hstreak,hlength,hlast⟩ := h.streak
  obtain ⟨-,hup,hold,-⟩ := Watch.check_of_stale conf hstale
  have hsame := Watch.same_drained tick waiting s.watch
  have hstep := Watch.stale_step conf tick age (s.watch.drained tick waiting)
  have hspec := hstep.spec.trans hsame.spec
  rw [ticked_of_stale hstale]
  cases hcounts : (s.watch.drained tick waiting).counts conf tick with
  | false =>
    refine ⟨streak,⟨hstreak.observed.cons _,?_,?_,?_⟩,?_,fun o ho => ?_,fun h => by cases h⟩
    · simpa [hspec] using hstreak.apart
    · simpa [hspec] using hstreak.old
    · simpa [hcounts] using hstreak.silent
    · simp [Watch.strikesThen,hcounts,hsame.strikes,hlength]
    · rw [hstep.lastStale,hcounts,← hlast o ho,← hsame.lastStale]
      rfl
  | true =>
    have hsilent : ∀ o ∈ streak, o.beats = s.beats+(s.watch.drains tick waiting).length := by
      intro o ho
      have hpositive : 0 < s.watch.heartbeatStaleStrikes := by
        rw [← hlength]
        exact_mod_cast length_pos_of_mem ho
      rw [hstreak.silent o ho,hapart (by rw [hstale]; rfl) hpositive]
    have hperiod : ∀ o ∈ streak.head?, s.watch.spec.heartbeatPeriodS ≤ tick.nowMono-o.time := by
      intro o ho
      simp only [Watch.counts,Bool.and_eq_true,hsame.lastStale,hlast o ho,all_some,
        decide_eq_true_eq,Watch.periodS,hsame.spec] at hcounts
      exact (le_max_right _ _).trans hcounts.2
    refine ⟨⟨tick.nowMono,age,s.beats+(s.watch.drains tick waiting).length⟩ :: streak,
      ⟨hstreak.observed.cons_cons _,?_,?_,?_⟩,?_,?_,fun _ => rfl⟩
    · simp only [hspec]
      exact List.IsChain.cons hstreak.apart hperiod
    · simpa [hspec,hold] using hstreak.old
    · simpa [hcounts] using hsilent
    · simp [Watch.strikesThen,hcounts,hsame.strikes,hlength]
    · simp [hstep.lastStale,hcounts]

theorem Counted.stale (h : s.Counted conf) {tick : Tick} {age : ℚ}
    (hstale : s.watch.staleAge tick waiting = some age)
    (hapart : s.Apart (.tick tick waiting)) : (s.ticked conf tick waiting).Counted conf := by
  obtain ⟨streak,hstreak,hlength,hhead,hnow⟩ := h.next hstale hapart
  obtain ⟨-,hup,-,-⟩ := Watch.check_of_stale conf hstale
  have hnone : s.failure = none := by
    by_contra hsome
    exact h.failed hsome hup
  have hsame := Watch.same_drained tick waiting s.watch
  have hfew : (s.watch.drained tick waiting).heartbeatStaleStrikes < strikesToFail conf := by
    rw [hsame.strikes]
    exact (h.running hnone).2
  have hstep := Watch.stale_step conf tick age (s.watch.drained tick waiting)
  have hone : 1 ≤ strikesToFail conf := le_max_left _ _
  cases hr : ((s.watch.drained tick waiting).stale conf tick age).2 with
  | none =>
    obtain ⟨hstate,hstrikes⟩ := hstep.goesOn hfew hr
    have hgoes : (s.ticked conf tick waiting).failure = none := by
      rw [ticked_of_stale hstale]
      simp [hr,hnone]
    have hcount : (s.ticked conf tick waiting).watch.heartbeatStaleStrikes =
        min (streak.length : Int) (strikesToFail conf-1) := by
      rw [ticked_of_stale hstale,hlength]
      exact hstrikes
    have hrunning : (s.ticked conf tick waiting).watch.Up := by
      rw [ticked_of_stale hstale]
      exact Watch.up_of_state hstate (hsame.up.2 hup)
    refine ⟨⟨_,hstreak.take (strikesToFail conf-1).toNat,?_,fun o ho => hhead o ?_⟩,
      fun _ => ⟨hrunning,by omega⟩,fun hsome => absurd hgoes hsome,fun t ht => ?_,fun g t ht => ?_⟩
    · rw [length_take,hcount]
      omega
    · rw [head?_take] at ho
      split at ho
      · cases ho
      · exact ho
    · rw [hgoes] at ht
      cases ht
    · rw [hgoes] at ht
      cases ht
  | some g =>
    obtain ⟨hstate,hstrikes,hpast,hmany⟩ := hstep.fails g hr
    have hfails : (s.ticked conf tick waiting).failure = some (g,tick.nowMono) := by
      rw [ticked_of_stale hstale]
      simp [hr]
    refine ⟨⟨streak,hstreak,?_,hhead⟩,fun hgoes => ?_,fun _ hrunning => ?_,fun t ht => ?_,
      fun g' t ht => ?_⟩
    · rw [ticked_of_stale hstale,hlength]
      exact hstrikes.symm
    · rw [hfails] at hgoes
      cases hgoes
    · rw [ticked_of_stale hstale] at hrunning
      simp [Watch.Up,hstate] at hrunning
    · rw [hfails] at ht
      cases ht
      have hlong := hmany rfl
      have hcounts : (s.watch.drained tick waiting).counts conf tick = true := by
        by_contra hnot
        simp only [Watch.strikesThen,if_neg hnot] at hlong
        omega
      have hexact : (s.watch.drained tick waiting).strikesThen conf tick = strikesToFail conf := by
        simp only [Watch.strikesThen,if_pos hcounts] at hlong ⊢
        omega
      exact ⟨streak,hstreak.observed,hlength.trans hexact,hnow hcounts,hstreak.apart,hstreak.old,
        _,hstreak.silent⟩
    · rw [hfails] at ht
      cases ht
      rw [ticked_of_stale hstale]
      exact hpast

/-- Each opening of a deadline is after more heartbeats than the one before; after the last of these
heartbeats the deadline stands, and the process has been silent for too long. -/
structure Reconciles (s : Watched) : Prop where
  sorted : s.openings.Pairwise (· > ·)
  le : ∀ beats ∈ s.openings, beats ≤ s.beats
  stands : s.beats ∈ s.openings → s.watch.heartbeatStallReconcileDeadlineMono ≠ none ∧
    ∀ now, (∀ t ∈ s.lastTick, t ≤ now) →
      ∃ age, s.watch.ageS now = some age ∧ s.watch.spec.heartbeatTimeoutS < age

theorem reconciles_start (spec : ProcessSpec) (now : ℚ) : (start spec now).Reconciles where
  sorted := .nil
  le := by simp [start]
  stands h := by simp [start] at h

theorem Reconciles.heartbeat (h : s.Reconciles) (recvMono : ℚ) :
    (s.step conf (.heartbeat recvMono)).Reconciles where
  sorted := h.sorted
  le beats hmem := (h.le beats hmem).trans (Nat.le_succ _)
  stands hmem := absurd (h.le _ hmem) (Nat.not_succ_le_self _)

theorem Reconciles.silent (h : s.Reconciles) {tick : Tick} (htimely : s.Timely (.tick tick waiting))
    (hmem : s.beats+(s.watch.drains tick waiting).length ∈ s.openings) :
    s.watch.drained tick waiting = s.watch ∧ (s.watch.drains tick waiting).length = 0 ∧
      s.watch.heartbeatStallReconcileDeadlineMono ≠ none ∧
      ∃ age, s.watch.ageS tick.nowMono = some age ∧ s.watch.spec.heartbeatTimeoutS < age := by
  have hle := h.le _ hmem
  have hzero : (s.watch.drains tick waiting).length = 0 := by omega
  rw [hzero,add_zero] at hmem
  obtain ⟨hdeadline,hage⟩ := h.stands hmem
  refine ⟨?_,hzero,hdeadline,hage tick.nowMono htimely⟩
  rw [Watch.drained,length_eq_zero_iff.1 hzero]
  rfl

theorem Reconciles.tick (h : s.Reconciles) {tick : Tick}
    (htimely : s.Timely (.tick tick waiting)) : (s.ticked conf tick waiting).Reconciles := by
  have hle : ∀ beats ∈ s.openings, beats ≤ s.beats+(s.watch.drains tick waiting).length :=
    fun beats hmem => (h.le beats hmem).trans (Nat.le_add_right _ _)
  cases hstale : s.watch.staleAge tick waiting with
  | none =>
    by_cases hup : s.watch.Up
    · have hgone : s.beats+(s.watch.drains tick waiting).length ∉ s.openings := by
        intro hmem
        obtain ⟨hsame,-,-,age,hage,hold⟩ := h.silent htimely hmem
        rw [Watch.staleAge,if_pos hup,hsame,hage] at hstale
        simp only [filter_some,decide_eq_true_eq,if_pos hold,reduceCtorEq] at hstale
      rcases Watch.check_of_fresh conf hup hstale with hcheck | ⟨hcheck,-⟩
      · rw [ticked_of_fresh hstale hcheck]
        exact ⟨h.sorted,hle,fun hmem => absurd hmem hgone⟩
      · rw [ticked_of_fresh hstale hcheck]
        exact ⟨h.sorted,hle,fun hmem => absurd hmem hgone⟩
    · rw [ticked_of_fresh hstale (Watch.check_of_down conf hup),Watch.drains_of_down hup]
      refine ⟨h.sorted,h.le,fun hmem => ?_⟩
      obtain ⟨hdeadline,hage⟩ := h.stands hmem
      exact ⟨hdeadline,fun now hnow => hage now fun t ht => (htimely t ht).trans (hnow _ rfl)⟩
  | some age =>
    obtain ⟨-,-,hold,hage⟩ := Watch.check_of_stale conf hstale
    have hsame := Watch.same_drained tick waiting s.watch
    have hstep := Watch.stale_step conf tick age (s.watch.drained tick waiting)
    obtain ⟨deadline,heq,hopens,hkeeps⟩ := Watch.reconciling_eq conf tick (s.watch.drained tick waiting)
    have hspec := hstep.spec.trans hsame.spec
    have hdeadline := hstep.deadline
    have hsilent : ∀ now, (∀ t ∈ some tick.nowMono, t ≤ now) →
        ∃ later, ((s.watch.drained tick waiting).stale conf tick age).1.ageS now = some later ∧
          s.watch.spec.heartbeatTimeoutS < later := by
      intro now hnow
      have hnext := hnow tick.nowMono rfl
      exact ⟨_,(hstep.age now).trans (Watch.ageS_later hage),by linarith⟩
    rw [heq] at hdeadline
    rw [ticked_of_stale hstale]
    cases hopened : (s.watch.drained tick waiting).opens conf tick with
    | true =>
      have hnew : s.beats+(s.watch.drains tick waiting).length ∉ s.openings := by
        intro hmem
        obtain ⟨hdrained,-,hstands,-⟩ := h.silent htimely hmem
        simp only [Watch.opens,hdrained,decide_eq_true_eq] at hopened
        exact hstands hopened.1
      simp only [hopened,if_true]
      refine ⟨pairwise_cons.2 ⟨fun beats hmem => ?_,h.sorted⟩,by simpa using hle,fun _ => ⟨?_,?_⟩⟩
      · exact lt_of_le_of_ne (hle beats hmem) fun heq => hnew (heq ▸ hmem)
      · rw [hdeadline]
        exact isSome_iff_ne_none.1 (hopens hopened)
      · rw [hspec]
        exact hsilent
    | false =>
      simp only [hopened,Bool.false_eq_true,if_false]
      refine ⟨h.sorted,hle,fun hmem => ⟨?_,?_⟩⟩
      · obtain ⟨hdrained,-,hstands,-⟩ := h.silent htimely hmem
        rw [hdeadline]
        dsimp only
        rw [hkeeps hopened,hdrained]
        exact hstands
      · rw [hspec]
        exact hsilent

/-- In a run in which no tick counts a strike onto those of an earlier silence, a failure by strikes has
all its strikes in one silence. A failure is never before an open deadline, and there is at most one
deadline between two heartbeats. -/
theorem strikes_one_silence (conf : SupervisionConf) (spec : ProcessSpec) (now : ℚ)
    (inputs : List WatchInput) (hclock : Meets (step conf) Timely (start spec now) inputs)
    (hapart : Meets (step conf) Apart (start spec now) inputs) :
    let s := run (step conf) (start spec now) inputs
    (∀ t, s.failure = some (.staleStrikes,t) → s.OneSilence conf t) ∧
      (∀ g t, s.failure = some (g,t) →
        ∀ d, s.watch.heartbeatStallReconcileDeadlineMono = some d → d ≤ t) ∧
      s.openings.Nodup := by
  have hcounted : (run (step conf) (start spec now) inputs).Counted conf := by
    refine hapart.invariant (fun s input h hapart => ?_) (counted_start spec now)
    cases input with
    | heartbeat recvMono => exact h.kept (s.watch.same_heard recvMono) _ _
    | started now => exact counted_start _ now
    | tick tick waiting =>
      cases hstale : s.watch.staleAge tick waiting with
      | none => exact h.fresh hstale
      | some age => exact h.stale hstale hapart
  have hreconciles : (run (step conf) (start spec now) inputs).Reconciles := by
    refine hclock.invariant (fun s input h htimely => ?_) (reconciles_start spec now)
    cases input with
    | heartbeat recvMono => exact h.heartbeat recvMono
    | started now => exact reconciles_start _ now
    | tick tick waiting => exact h.tick htimely
  refine ⟨hcounted.explained,hcounted.reconciled,?_⟩
  exact hreconciles.sorted.imp (·.ne')

theorem strikes_one_silence_two :
    let inputs : List WatchInput :=
      [.heartbeat 1,.tick { nowMono := 5 } [],.tick { nowMono := 7 } []]
    let s := run (step {}) (start { processId := "camera" } 0) inputs
    s.failure = some (.staleStrikes,7) ∧ s.OneSilence {} 7 := by
  have hfails : (run (step {}) (start { processId := "camera" } 0)
      [.heartbeat 1,.tick { nowMono := 5 } [],.tick { nowMono := 7 } []]).failure =
        some (.staleStrikes,7) := by decide +kernel
  exact ⟨hfails,(strikes_one_silence {} { processId := "camera" } 0
    [.heartbeat 1,.tick { nowMono := 5 } [],.tick { nowMono := 7 } []] (by decide +kernel)
    (by decide +kernel)).1 7 hfails⟩

theorem two_silences :
    let inputs : List WatchInput :=
      [.heartbeat 1,.tick { nowMono := 5 } [],.heartbeat 6,.tick { nowMono := 10 } []]
    let s := run (step {}) (start { processId := "camera" } 0) inputs
    s.failure = some (.staleStrikes,10) ∧ ¬ s.OneSilence {} 10 := by
  intro inputs s
  have hobserved : s.observations = [⟨10,4,2⟩,⟨5,4,1⟩] := by decide +kernel
  refine ⟨by decide +kernel,?_⟩
  rintro ⟨streak,hsublist,hlength,-,-,-,beats,hbeats⟩
  rw [hobserved] at hsublist
  have htwo : (streak.length : Int) = 2 := by simpa [strikesToFail] using hlength
  have hall : streak = [⟨10,4,2⟩,⟨5,4,1⟩] := hsublist.eq_of_length (by exact_mod_cast htwo)
  rw [hall] at hbeats
  have hlast := hbeats ⟨10,4,2⟩ (by simp)
  have hfirst := hbeats ⟨5,4,1⟩ (by simp)
  dsimp only at hlast hfirst
  omega

end Watched

end ExperimentControl.Supervision

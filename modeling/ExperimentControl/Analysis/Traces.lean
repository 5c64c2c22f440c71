import ExperimentControl.Lib.LastRun
import ExperimentControl.Lib.Runs
import Mathlib.Algebra.BigOperators.Group.List.Basic
import Mathlib.Algebra.Order.Field.Rat
import Mathlib.Tactic.Ring

/-!
The averages of traces (`TraceRollingMeanState`, `TraceBlockAverageState`), over exact numbers: a
running sum, a deque and a counter against the traces of the last run of one length.
-/

namespace ExperimentControl.Analysis
open Lib List

abbrev Trace := List ℚ

def zeros (size : Nat) : Trace := List.replicate size 0

structure TraceRollingMeanState where
  windowTraces : Int
  traces : List Trace
  sumTrace : Option Trace
  deriving DecidableEq

namespace TraceRollingMeanState

def fromParams (windowTraces : Option Int) : Except String TraceRollingMeanState :=
  match windowTraces with
  | none => .error "trace.rolling_mean requires window_traces > 0"
  | some window =>
    if window ≤ 0 then .error "trace.rolling_mean requires window_traces > 0"
    else .ok ⟨window,[],none⟩

def reset (s : TraceRollingMeanState) : TraceRollingMeanState :=
  { s with traces := [],sumTrace := none }

def opened (s : TraceRollingMeanState) (size : Nat) : List Trace × Trace :=
  match s.sumTrace with
  | none => ([],zeros size)
  | some sum => if sum.length ≠ size then ([],zeros size) else (s.traces,sum)

def slid (window : Int) : List Trace × Trace → List Trace × Trace
  | ([],sum) => ([],sum)
  | (oldest :: rest,sum) =>
    if window ≤ (oldest :: rest).length then (rest,sum.zipWith (· - ·) oldest)
    else (oldest :: rest,sum)

/-- The trace is what `_coerce_trace` makes of the input. -/
def update (s : TraceRollingMeanState) (trace : Option Trace) :
    TraceRollingMeanState × Option Trace :=
  match trace with
  | none => (s,none)
  | some trace =>
    if trace.length = 0 then (s,some [])
    else if s.windowTraces ≤ 1 then (s,some trace)
    else
      let (traces,sum) := slid s.windowTraces (s.opened trace.length)
      let traces := traces ++ [trace]
      let sum := sum.zipWith (· + ·) trace
      ({ s with traces,sumTrace := some sum },some (sum.map (· / (max 1 traces.length : Nat))))

end TraceRollingMeanState

structure TraceBlockAverageState where
  blockTraces : Int
  sumTrace : Option Trace
  count : Nat
  lastAverage : Option Trace
  blocksCompleted : Nat
  deriving DecidableEq

namespace TraceBlockAverageState

def fromParams (blockTraces : Option Int) : Except String TraceBlockAverageState :=
  match blockTraces with
  | none => .error "trace.block_average requires block_traces > 0"
  | some block =>
    if block ≤ 0 then .error "trace.block_average requires block_traces > 0"
    else .ok ⟨block,none,0,none,0⟩

def reset (s : TraceBlockAverageState) : TraceBlockAverageState :=
  { s with sumTrace := none,count := 0,lastAverage := none,blocksCompleted := 0 }

def opened (s : TraceBlockAverageState) (size : Nat) : Trace × Nat × Option Trace :=
  match s.sumTrace with
  | none => (zeros size,0,none)
  | some sum => if sum.length ≠ size then (zeros size,0,none) else (sum,s.count,s.lastAverage)

def update (s : TraceBlockAverageState) (trace : Option Trace) :
    TraceBlockAverageState × Option Trace :=
  match trace with
  | none => (s,s.lastAverage)
  | some trace =>
    if trace.length = 0 then (s,some [])
    else if s.blockTraces ≤ 1 then
      ({ s with lastAverage := some trace,blocksCompleted := s.blocksCompleted+1 },some trace)
    else
      let (sum,count,lastAverage) := s.opened trace.length
      let sum := sum.zipWith (· + ·) trace
      let count := count+1
      if s.blockTraces ≤ count then
        let average := some (sum.map (· / ((count : Nat) : ℚ)))
        ({ s with
          sumTrace := some (zeros trace.length)
          count := 0
          lastAverage := average
          blocksCompleted := s.blocksCompleted+1 },average)
      else ({ s with sumTrace := some sum,count,lastAverage },lastAverage)

end TraceBlockAverageState

inductive TraceEvent where
  | update (trace : Option Trace)
  | reset
  deriving DecidableEq

def TraceEvent.traces : TraceEvent → List Trace
  | .update none | .update (some []) | .reset => []
  | .update (some trace) => [trace]

def tracesOf (events : List TraceEvent) : List Trace := events.flatMap TraceEvent.traces

def TraceEvent.addTo (traces : List Trace) : TraceEvent → List Trace
  | .reset => []
  | event => traces ++ event.traces

/-- Those since the length last changed, in the updates since the last reset. -/
def currentRun (events : List TraceEvent) : List Trace :=
  lastRun List.length (events.foldl TraceEvent.addTo [])

def TraceRollingMeanState.step (s : TraceRollingMeanState) : TraceEvent → TraceRollingMeanState
  | .update trace => (s.update trace).1
  | .reset => s.reset

def TraceBlockAverageState.step (s : TraceBlockAverageState) : TraceEvent → TraceBlockAverageState
  | .update trace => (s.update trace).1
  | .reset => s.reset

def sumOf (size : Nat) (traces : List Trace) : Trace :=
  (List.range size).map fun i => (traces.map fun trace => trace.getD i 0).sum

def meanOf (traces : List Trace) : Trace :=
  (sumOf (traces.headD []).length traces).map (· / traces.length)

@[simp] theorem length_sumOf (size : Nat) (traces : List Trace) :
    (sumOf size traces).length = size := by simp [sumOf]

@[simp] theorem sumOf_nil (size : Nat) : sumOf size [] = zeros size := by simp [sumOf,zeros]

variable {trace : Trace} {size : Nat}

theorem sumOf_concat (traces : List Trace) (h : trace.length = size) :
    (sumOf size traces).zipWith (· + ·) trace = sumOf size (traces ++ [trace]) := by
  apply ext_getElem
  · simp [h]
  · intro i hi _
    have hlt : i < trace.length := by simp at hi; omega
    simp [sumOf,getElem?_eq_getElem hlt]

theorem sumOf_tail (oldest : Trace) (rest : List Trace) (h : oldest.length = size) :
    (sumOf size (oldest :: rest)).zipWith (· - ·) oldest = sumOf size rest := by
  apply ext_getElem
  · simp [h]
  · intro i hi _
    have hlt : i < oldest.length := by simp at hi; omega
    simp [sumOf,getElem?_eq_getElem hlt]

theorem meanOf_eq {traces : List Trace} (hne : traces ≠ [])
    (h : ∀ trace ∈ traces, trace.length = size) :
    meanOf traces = (sumOf size traces).map (· / (traces.length : ℚ)) := by
  obtain ⟨first,rest,rfl⟩ := exists_cons_of_ne_nil hne
  simp [meanOf,h first (by simp)]

/-- The part of a run that a trace goes on with: all of it, or nothing where its length is another. -/
structure Continues (run : List Trace) (trace : Trace) (before : List Trace) : Prop where
  lengths : ∀ other ∈ before, other.length = trace.length
  same : before = run ∨ before = [] ∧ ∀ other ∈ run, other.length ≠ trace.length

variable (events : List TraceEvent)

theorem currentRun_update (h : trace ≠ []) : ∃ before, Continues (currentRun events) trace before ∧
      currentRun (events ++ [.update (some trace)]) = before ++ [trace] := by
  obtain ⟨sample,rest,rfl⟩ := exists_cons_of_ne_nil h
  unfold currentRun
  rw [foldl_append]
  simp only [foldl_cons,foldl_nil,TraceEvent.addTo,TraceEvent.traces]
  generalize events.foldl TraceEvent.addTo [] = traces
  by_cases hsame : ∃ other ∈ lastRun List.length traces, other.length = (sample :: rest).length
  · obtain ⟨other,hother,hlength⟩ := hsame
    exact ⟨_,⟨fun t ht => (key_of_mem_lastRun ht hother).trans hlength,.inl rfl⟩,
      lastRun_concat_same hother hlength⟩
  · have hother : ∀ other ∈ lastRun List.length traces, other.length ≠ (sample :: rest).length :=
      fun other hmem heq => hsame ⟨other,hmem,heq⟩
    exact ⟨[],⟨by simp,.inr ⟨rfl,hother⟩⟩,lastRun_concat_other hother⟩

theorem currentRun_skip {trace : Option Trace} (h : trace = none ∨ trace = some []) :
    currentRun (events ++ [.update trace]) = currentRun events := by
  unfold currentRun
  rw [foldl_append]
  rcases h with rfl | rfl
  · simp [TraceEvent.addTo,TraceEvent.traces]
  · simp [TraceEvent.addTo,TraceEvent.traces]

theorem currentRun_reset : currentRun (events ++ [.reset]) = [] := by
  unfold currentRun
  rw [foldl_append]
  rfl

theorem currentRun_suffix : currentRun events <:+ tracesOf events := by
  have hsince : events.foldl TraceEvent.addTo [] <:+ tracesOf events := by
    induction events using List.reverseRecOn with
    | nil => simp [tracesOf]
    | append_singleton events event ih =>
      rw [foldl_append,tracesOf,flatMap_append]
      cases event with
      | reset => exact nil_suffix
      | update trace =>
        obtain ⟨init,hinit⟩ := ih
        refine ⟨init,?_⟩
        rw [← tracesOf,← hinit]
        simp [TraceEvent.addTo]
  exact (lastRun_suffix _ _).trans hsince

theorem Continues.opened {β : Type} {run before : List Trace}
    (h : Continues run trace before) {sum : Trace} (hsum : sum.length = (run.headD []).length)
    (fresh : β) (kept : Trace → β) :
    (match (if run = [] then none else some sum) with
      | none => fresh
      | some sum => if sum.length ≠ trace.length then fresh else kept sum) =
      if before = [] then fresh else kept sum := by
  obtain ⟨hlengths,hsame⟩ := h
  cases run with
  | nil =>
    have hnil : before = [] := by
      rcases hsame with hrun | ⟨hnil,_⟩
      · exact hrun
      · exact hnil
    simp [hnil]
  | cons first rest =>
    simp only [headD_cons] at hsum
    simp only [reduceCtorEq,if_false,hsum]
    rcases hsame with rfl | ⟨rfl,hother⟩
    · simp [hlengths first (by simp)]
    · simp [hother first (by simp)]

structure TraceRollingMeanState.Holds (s : TraceRollingMeanState) (run : List Trace) : Prop where
  traces : s.traces = run.rtake s.windowTraces.toNat
  sum : s.sumTrace = if run = [] then none else some (sumOf (run.headD []).length s.traces)

variable {s : TraceRollingMeanState}

theorem TraceRollingMeanState.Holds.opened {run before : List Trace}
    (h : s.Holds run) (hbefore : Continues run trace before) : s.opened trace.length =
      (before.rtake s.windowTraces.toNat,sumOf trace.length (before.rtake s.windowTraces.toNat)) := by
  unfold TraceRollingMeanState.opened
  rw [h.sum,hbefore.opened (by simp)]
  split
  · rename_i hnil
    simp [hnil]
  · rename_i hne
    rcases hbefore.same with hrun | ⟨hnil,_⟩
    · obtain ⟨first,rest,heq⟩ := exists_cons_of_ne_nil hne
      have hlength := hbefore.lengths first (by simp [heq])
      rw [h.traces,← hrun,heq]
      simp [hlength]
    · exact absurd hnil hne

theorem slid_rtake {window : Nat} {traces : List Trace}
    (h : ∀ trace ∈ traces, trace.length = size) : TraceRollingMeanState.slid (window+1 : Nat)
      (traces.rtake (window+1),sumOf size (traces.rtake (window+1))) =
      (traces.rtake window,sumOf size (traces.rtake window)) := by
  by_cases hshort : traces.length ≤ window
  · have hall : ∀ n, traces.length ≤ n → traces.rtake n = traces := by
      intro n hn
      simp [List.rtake,Nat.sub_eq_zero_of_le hn]
    rw [hall _ hshort,hall _ (Nat.le_succ_of_le hshort)]
    cases traces with
    | nil => rfl
    | cons oldest rest =>
      have hlt : ¬ ((window+1 : Nat) : Int) ≤ ((oldest :: rest).length : Nat) := by omega
      rw [TraceRollingMeanState.slid,if_neg hlt]
  · have hlt : traces.length-(window+1) < traces.length := by omega
    have hnext : traces.rtake window = (traces.rtake (window+1)).tail := by
      simp only [List.rtake,tail_drop]
      congr 1
      omega
    have hlength : (traces.rtake (window+1)).length = window+1 := by
      simp only [List.rtake,length_drop]
      omega
    rw [hnext]
    cases hcut : traces.rtake (window+1) with
    | nil => simp [hcut] at hlength
    | cons oldest rest =>
      have hmem : oldest ∈ traces := by
        have hin : oldest ∈ traces.rtake (window+1) := by simp [hcut]
        exact mem_of_mem_drop hin
      rw [hcut] at hlength
      rw [TraceRollingMeanState.slid,if_pos (by omega),sumOf_tail oldest rest (h oldest hmem)]
      rfl

variable {events : List TraceEvent}

theorem TraceRollingMeanState.Holds.update
    (h : s.Holds (currentRun events)) (hwindow : 1 < s.windowTraces) (htrace : trace ≠ []) :
    (s.update (some trace)).1.Holds (currentRun (events ++ [.update (some trace)])) ∧
      (s.update (some trace)).2 =
        some (meanOf ((currentRun (events ++ [.update (some trace)])).rtake s.windowTraces.toNat)) := by
  obtain ⟨before,hbefore,hrun⟩ := currentRun_update events htrace
  obtain ⟨window,hsize⟩ : ∃ window : Nat, s.windowTraces = (window+1 : Nat) :=
    ⟨s.windowTraces.toNat-1,by omega⟩
  have hopened := h.opened hbefore
  rw [hsize,Int.toNat_natCast] at hopened
  have hempty : ¬ trace.length = 0 := by simpa using htrace
  have hupdate : s.update (some trace) =
      (⟨s.windowTraces,before.rtake window ++ [trace],
          some (sumOf trace.length (before.rtake window ++ [trace]))⟩,
        some ((sumOf trace.length (before.rtake window ++ [trace])).map
          (· / ((before.rtake window ++ [trace]).length : ℚ)))) := by
    unfold TraceRollingMeanState.update
    simp only [hempty,if_false,show ¬ s.windowTraces ≤ 1 by omega,hopened]
    rw [hsize,slid_rtake hbefore.lengths]
    simp only [sumOf_concat _ rfl]
    rw [Nat.max_eq_right (by simp)]
  have hrtake : (before ++ [trace]).rtake s.windowTraces.toNat = before.rtake window ++ [trace] := by
    rw [hsize,Int.toNat_natCast,rtake_concat_succ]
  have hlengths : ∀ other ∈ before.rtake window ++ [trace], other.length = trace.length := by
    intro other hother
    cases mem_append.1 hother with
    | inl hin => exact hbefore.lengths other (mem_of_mem_drop hin)
    | inr hlast => simp at hlast; rw [hlast]
  have hhead : ((before ++ [trace]).headD []).length = trace.length := by
    cases before with
    | nil => rfl
    | cons first rest => exact hbefore.lengths first (by simp)
  rw [hupdate,hrun,hrtake]
  refine ⟨⟨hrtake.symm,?_⟩,?_⟩
  · rw [if_neg (by simp),hhead]
  · rw [meanOf_eq (by simp) hlengths]

namespace TraceRollingMeanState

theorem step_windowTraces (s : TraceRollingMeanState) (event : TraceEvent) :
    (s.step event).windowTraces = s.windowTraces := by
  cases event with
  | reset => rfl
  | update trace =>
    cases trace with
    | none => rfl
    | some trace =>
      simp only [step,update]
      split
      · rfl
      · split
        · rfl
        · rfl

theorem Holds.step
    (h : s.Holds (currentRun events)) (hwindow : 1 < s.windowTraces) (event : TraceEvent) :
    (s.step event).Holds (currentRun (events ++ [event])) := by
  cases event with
  | reset =>
    rw [currentRun_reset]
    exact ⟨by simp [TraceRollingMeanState.step,TraceRollingMeanState.reset],rfl⟩
  | update trace =>
    match trace with
    | none => rwa [currentRun_skip events (.inl rfl)]
    | some [] => rwa [currentRun_skip events (.inr rfl)]
    | some (sample :: rest) => exact (h.update hwindow (cons_ne_nil sample rest)).1

theorem run_windowTraces (s : TraceRollingMeanState)
    (events : List TraceEvent) : (run step s events).windowTraces = s.windowTraces := by
  induction events generalizing s with
  | nil => rfl
  | cons event rest ih => exact (ih (s.step event)).trans (step_windowTraces s event)

theorem holds_run (h : s.Holds [])
    (hwindow : 1 < s.windowTraces) (events : List TraceEvent) :
    (run step s events).Holds (currentRun events) := by
  induction events using List.reverseRecOn with
  | nil => exact h
  | append_singleton events event ih =>
    have hsame := run_windowTraces s events
    simp only [run,foldl_append,foldl_cons,foldl_nil] at ih hsame ⊢
    exact ih.step (hsame ▸ hwindow) event

end TraceRollingMeanState

@[simp] theorem meanOf_singleton (trace : Trace) : meanOf [trace] = trace := by
  apply ext_getElem
  · simp [meanOf]
  · intro i hi hi'
    simp [meanOf,sumOf,getElem?_eq_getElem hi']

theorem TraceRollingMeanState.update_mean {size : Option Int}
    (h : fromParams size = .ok s) (events : List TraceEvent) (htrace : trace ≠ []) :
    ((run step s events).update (some trace)).2 =
      some (meanOf ((currentRun (events ++ [.update (some trace)])).rtake s.windowTraces.toNat)) := by
  have hstart : 0 < s.windowTraces ∧ s.Holds [] := by
    unfold fromParams at h
    split at h
    · cases h
    · split at h
      · cases h
      · rename_i hpos
        cases h
        exact ⟨by simpa using hpos,by simp,rfl⟩
  obtain ⟨hpos,hholds⟩ := hstart
  have hsame := run_windowTraces s events
  by_cases hwindow : 1 < s.windowTraces
  · have hmean := ((holds_run hholds hwindow events).update (hsame ▸ hwindow) htrace).2
    rwa [hsame] at hmean
  · have hone : s.windowTraces = 1 := by omega
    rw [hone] at hsame
    obtain ⟨before,_,hrun⟩ := currentRun_update events htrace
    have hempty : ¬ trace.length = 0 := by simpa using htrace
    rw [hrun,hone]
    simp [TraceRollingMeanState.update,hempty,hsame,rtake_concat_succ before 0 trace]

/-- The traces of the run are counted and summed modulo the size of the block, and the average is the
one of the last whole block. -/
structure TraceBlockAverageState.Holds (s : TraceBlockAverageState) (run : List Trace) : Prop where
  count : s.count = run.length%s.blockTraces.toNat
  average : s.lastAverage = (lastBlock s.blockTraces.toNat run).map meanOf
  sum : 1 < s.blockTraces →
    s.sumTrace = if run = [] then none else some (sumOf (run.headD []).length (run.rtake s.count))

variable {s : TraceBlockAverageState}

theorem TraceBlockAverageState.Holds.opened {run before : List Trace}
    (h : s.Holds run) (hblock : 1 < s.blockTraces) (hbefore : Continues run trace before) :
    s.opened trace.length = (sumOf trace.length (before.rtake (before.length%s.blockTraces.toNat)),
        before.length%s.blockTraces.toNat,(lastBlock s.blockTraces.toNat before).map meanOf) := by
  unfold TraceBlockAverageState.opened
  rw [h.sum hblock,hbefore.opened (by simp)]
  split
  · rename_i hnil
    simp [hnil,lastBlock,show 0 < s.blockTraces by omega]
  · rename_i hne
    rcases hbefore.same with hrun | ⟨hnil,_⟩
    · obtain ⟨first,rest,heq⟩ := exists_cons_of_ne_nil hne
      have hlength := hbefore.lengths first (by simp [heq])
      rw [h.count,h.average,← hrun,heq]
      simp [hlength]
    · exact absurd hnil hne

theorem TraceBlockAverageState.Holds.update
    (h : s.Holds (currentRun events)) (hblock : 0 < s.blockTraces) (htrace : trace ≠ []) :
    (s.update (some trace)).1.Holds (currentRun (events ++ [.update (some trace)])) ∧
      (s.update (some trace)).2 = (s.update (some trace)).1.lastAverage ∧
      ((s.update (some trace)).1.blocksCompleted = s.blocksCompleted ∨
        s.blockTraces.toNat ≤ s.count+1 ∧ (s.update (some trace)).1.count = 0 ∧
          s.blockTraces.toNat ≤ (currentRun (events ++ [.update (some trace)])).length ∧
          (s.update (some trace)).1.lastAverage = some (meanOf
            ((currentRun (events ++ [.update (some trace)])).rtake s.blockTraces.toNat))) := by
  obtain ⟨before,hbefore,hrun⟩ := currentRun_update events htrace
  have hempty : ¬ trace.length = 0 := by simpa using htrace
  rw [hrun]
  by_cases hmany : 1 < s.blockTraces
  · obtain ⟨size,hsize⟩ : ∃ size : Nat, s.blockTraces = size := ⟨s.blockTraces.toNat,by omega⟩
    have hopened := h.opened hmany hbefore
    rw [hsize,Int.toNat_natCast] at hopened ⊢
    have hmod := Nat.mod_lt before.length (show 0 < size by omega)
    have hlengths : ∀ other ∈ before ++ [trace], other.length = trace.length := by
      intro other hother
      cases mem_append.1 hother with
      | inl hin => exact hbefore.lengths other hin
      | inr hlast => simp at hlast; rw [hlast]
    have hhead : ((before ++ [trace]).headD []).length = trace.length := by
      cases before with
      | nil => rfl
      | cons first rest => exact hbefore.lengths first (by simp)
    by_cases hfull : before.length%size+1 = size
    · have hle : size ≤ before.length+1 := by
        have := Nat.mod_le before.length size
        omega
      have hcutLength : ((before ++ [trace]).rtake size).length = size := by
        simp only [List.rtake,length_drop,length_append,length_singleton]
        omega
      have hcut : (before ++ [trace]).rtake size ≠ [] := by
        rw [← length_pos_iff,hcutLength]
        omega
      have hcutLengths : ∀ other ∈ (before ++ [trace]).rtake size, other.length = trace.length :=
        fun other hother => hlengths other (mem_of_mem_drop hother)
      have hupdate : s.update (some trace) =
          (⟨s.blockTraces,some (zeros trace.length),0,some (meanOf ((before ++ [trace]).rtake size)),
              s.blocksCompleted+1⟩,some (meanOf ((before ++ [trace]).rtake size))) := by
        unfold TraceBlockAverageState.update
        simp only [hempty,if_false,show ¬ s.blockTraces ≤ 1 by omega,hopened]
        rw [if_pos (by omega),sumOf_concat _ rfl,← rtake_concat_succ,hfull,
          meanOf_eq hcut hcutLengths,hcutLength]
      have hold : s.count = before.length%size := by
        rcases hbefore.same with hsame | ⟨hnil,_⟩
        · rw [h.count,hsame,hsize,Int.toNat_natCast]
        · rw [hnil] at hfull
          simp at hfull
          omega
      rw [hupdate]
      refine ⟨⟨?_,?_,?_⟩,rfl,.inr ⟨by omega,rfl,by simpa using hle,rfl⟩⟩
      · simp only [hsize,Int.toNat_natCast,length_append,length_singleton]
        rw [← Nat.mod_add_mod,hfull,Nat.mod_self]
      · simp only [hsize,Int.toNat_natCast]
        rw [lastBlock_concat_last hfull]
        rfl
      · intro _
        simp [← hhead]
    · have hupdate : s.update (some trace) =
          (⟨s.blockTraces,some (sumOf trace.length ((before ++ [trace]).rtake (before.length%size+1))),
              before.length%size+1,(lastBlock size before).map meanOf,s.blocksCompleted⟩,
            (lastBlock size before).map meanOf) := by
        unfold TraceBlockAverageState.update
        simp only [hempty,if_false,show ¬ s.blockTraces ≤ 1 by omega,hopened]
        rw [if_neg (by omega),sumOf_concat _ rfl,rtake_concat_succ]
      rw [hupdate]
      refine ⟨⟨?_,?_,?_⟩,rfl,.inl rfl⟩
      · simp only [hsize,Int.toNat_natCast,length_append,length_singleton]
        rw [← Nat.mod_add_mod,Nat.mod_eq_of_lt (show before.length%size+1 < size by omega)]
      · simp only [hsize,Int.toNat_natCast]
        rw [lastBlock_concat (by omega) hfull]
      · intro _
        rw [if_neg (by simp),hhead]
  · have hone : s.blockTraces = 1 := by omega
    have hcount : s.count = 0 := by simp [h.count,hone,Nat.mod_one]
    have hupdate : s.update (some trace) =
        ({ s with lastAverage := some trace,blocksCompleted := s.blocksCompleted+1 },some trace) := by
      simp [TraceBlockAverageState.update,hempty,hone]
    have hlast : (before ++ [trace]).rtake 1 = [trace] := by
      simp [rtake_concat_succ before 0 trace]
    rw [hupdate]
    refine ⟨⟨?_,?_,fun hlt => absurd hlt hmany⟩,rfl,.inr ?_⟩
    · simp [hone,hcount,Nat.mod_one]
    · have hwhole : lastBlock 1 (before ++ [trace]) = some ((before ++ [trace]).rtake 1) :=
        lastBlock_concat_last (by simp [Nat.mod_one]) trace
      simp [hone,hwhole,hlast]
    · simp [hone,hcount,hlast]

theorem TraceBlockAverageState.step_blockTraces (s : TraceBlockAverageState) (event : TraceEvent) :
    (s.step event).blockTraces = s.blockTraces := by
  cases event with
  | reset => rfl
  | update trace =>
    cases trace with
    | none => rfl
    | some trace =>
      simp only [TraceBlockAverageState.step,TraceBlockAverageState.update]
      repeat' split
      all_goals rfl

theorem TraceBlockAverageState.run_blockTraces (s : TraceBlockAverageState)
    (events : List TraceEvent) : (run step s events).blockTraces = s.blockTraces := by
  induction events generalizing s with
  | nil => rfl
  | cons event rest ih => exact (ih (s.step event)).trans (step_blockTraces s event)

theorem TraceBlockAverageState.Holds.step
    (h : s.Holds (currentRun events)) (hblock : 0 < s.blockTraces) (event : TraceEvent) :
    (s.step event).Holds (currentRun (events ++ [event])) := by
  cases event with
  | reset =>
    rw [currentRun_reset]
    refine ⟨?_,?_,fun _ => rfl⟩
    · simp [TraceBlockAverageState.step,TraceBlockAverageState.reset]
    · simp [TraceBlockAverageState.step,TraceBlockAverageState.reset,lastBlock,hblock]
  | update trace =>
    match trace with
    | none => rwa [currentRun_skip events (.inl rfl)]
    | some [] => rwa [currentRun_skip events (.inr rfl)]
    | some (sample :: rest) => exact (h.update hblock (cons_ne_nil sample rest)).1

theorem TraceBlockAverageState.fromParams_ok {size : Option Int}
    (h : fromParams size = .ok s) : 0 < s.blockTraces ∧ s.Holds [] := by
  unfold fromParams at h
  split at h
  · cases h
  · split at h
    · cases h
    · rename_i hpos
      cases h
      have hpos : 0 < (_ : Int) := not_le.1 hpos
      exact ⟨hpos,by simp,by simp [lastBlock,hpos],fun _ => rfl⟩

theorem TraceBlockAverageState.holds_run (h : s.Holds [])
    (hblock : 0 < s.blockTraces) (events : List TraceEvent) :
    (run step s events).Holds (currentRun events) := by
  induction events using List.reverseRecOn with
  | nil => exact h
  | append_singleton events event ih =>
    have hsame := run_blockTraces s events
    simp only [run,foldl_append,foldl_cons,foldl_nil] at ih hsame ⊢
    exact ih.step (hsame ▸ hblock) event

def TraceBlockAverageState.Completes (s : TraceBlockAverageState) (before : List TraceEvent)
    (event : TraceEvent) : Prop :=
  (run step s before).blocksCompleted < (run step s (before ++ [event])).blocksCompleted

theorem TraceBlockAverageState.opened_count (s : TraceBlockAverageState) (size : Nat) :
    (s.opened size).2.1 ≤ s.count := by
  unfold TraceBlockAverageState.opened
  split
  · exact Nat.zero_le _
  · split
    · exact Nat.zero_le _
    · exact Nat.le_refl _

theorem TraceBlockAverageState.step_count (s : TraceBlockAverageState) (event : TraceEvent) :
    (s.step event).count ≤ s.count+event.traces.length := by
  match event with
  | .reset => simp [TraceBlockAverageState.step,TraceBlockAverageState.reset]
  | .update none => exact Nat.le_refl _
  | .update (some []) => exact Nat.le_refl _
  | .update (some (sample :: rest)) =>
    have hopened := s.opened_count (sample :: rest).length
    simp only [TraceBlockAverageState.step,TraceBlockAverageState.update,TraceEvent.traces]
    split
    · exact Nat.le_add_right _ _
    · split
      · exact Nat.le_add_right _ _
      · split
        · exact Nat.zero_le _
        · simpa using hopened

theorem TraceBlockAverageState.run_count (s : TraceBlockAverageState) (events : List TraceEvent) :
    (run step s events).count ≤ s.count+(tracesOf events).length := by
  induction events generalizing s with
  | nil => exact Nat.le_refl _
  | cons event rest ih =>
    have hstep := s.step_count event
    have hrest := ih (s.step event)
    simp only [run_cons,tracesOf,flatMap_cons,length_append] at hrest ⊢
    omega

theorem TraceBlockAverageState.Completes.spec {before : List TraceEvent}
    {event : TraceEvent} (h : s.Completes before event) (hstart : s.Holds [])
    (hblock : 0 < s.blockTraces) :
    event.traces.length = 1 ∧ s.blockTraces.toNat ≤ (run step s before).count+1 ∧
      (run step s (before ++ [event])).count = 0 ∧
      s.blockTraces.toNat ≤ (currentRun (before ++ [event])).length ∧
      (run step s (before ++ [event])).lastAverage =
        some (meanOf ((currentRun (before ++ [event])).rtake s.blockTraces.toNat)) := by
  have hholds := holds_run hstart hblock before
  have hsame := run_blockTraces s before
  unfold TraceBlockAverageState.Completes at h
  simp only [run,foldl_append,foldl_cons,foldl_nil] at h hholds hsame ⊢
  match event with
  | .reset => simp [TraceBlockAverageState.step,TraceBlockAverageState.reset] at h
  | .update none => exact absurd h (Nat.lt_irrefl _)
  | .update (some []) => exact absurd h (Nat.lt_irrefl _)
  | .update (some (sample :: rest)) =>
    obtain ⟨_,_,hcases⟩ := hholds.update (hsame ▸ hblock) (cons_ne_nil sample rest)
    rw [hsame] at hcases
    refine ⟨rfl,?_⟩
    rcases hcases with hnone | hcomplete
    · exact absurd hnone (Nat.ne_of_gt h)
    · exact hcomplete

theorem tracesOf_append (events more : List TraceEvent) :
    tracesOf (events ++ more) = tracesOf events ++ tracesOf more := by
  simp [tracesOf]

/-- The event completes this block. -/
structure TraceBlockAverageState.Block (s : TraceBlockAverageState) (before : List TraceEvent)
    (event : TraceEvent) (block : List Trace) : Prop where
  size : block.length = s.blockTraces.toNat
  lengths : ∀ a ∈ block, ∀ b ∈ block, a.length = b.length
  average : (run step s (before ++ [event])).lastAverage = some (meanOf block)
  last : block <:+ tracesOf (before ++ [event])
  fresh : ∀ earlier last between, before = earlier ++ [last] ++ between → s.Completes earlier last →
    block <:+ tracesOf (between ++ [event])

theorem TraceBlockAverageState.Completes.block {before : List TraceEvent}
    {event : TraceEvent} (h : s.Completes before event) (hstart : s.Holds [])
    (hblock : 0 < s.blockTraces) : ∃ block, s.Block before event block := by
  obtain ⟨hnew,hcount,_,hlong,haverage⟩ := h.spec hstart hblock
  have hcut : (currentRun (before ++ [event])).rtake s.blockTraces.toNat <:+
      tracesOf (before ++ [event]) := (drop_suffix _ _).trans (currentRun_suffix _)
  have hlength : ((currentRun (before ++ [event])).rtake s.blockTraces.toNat).length =
      s.blockTraces.toNat := by
    simp only [List.rtake,length_drop]
    omega
  refine ⟨_,hlength,?_,haverage,hcut,?_⟩
  · intro a ha b hb
    exact key_of_mem_lastRun (mem_of_mem_drop ha) (mem_of_mem_drop hb)
  · intro earlier last between hsplit hearlier
    obtain ⟨_,_,hreset,_,_⟩ := hearlier.spec hstart hblock
    have hsince := (run step s (earlier ++ [last])).run_count between
    rw [hsplit] at hcount hcut hlength ⊢
    have hjoin : run step s (earlier ++ [last] ++ between) =
        run step (run step s (earlier ++ [last])) between := by
      simp [run]
    rw [hjoin] at hcount
    have hall : tracesOf (earlier ++ [last] ++ between ++ [event]) =
        tracesOf (earlier ++ [last]) ++ tracesOf (between ++ [event]) := by
      rw [append_assoc,tracesOf_append]
    rw [hall] at hcut
    refine suffix_of_suffix_length_le hcut (suffix_append _ _) ?_
    rw [hlength,tracesOf_append,length_append]
    simp only [tracesOf,flatMap_cons,flatMap_nil,append_nil] at hsince ⊢
    omega

theorem TraceBlockAverageState.update_average (hstart : s.Holds [])
    (hblock : 0 < s.blockTraces) (events : List TraceEvent) (trace : Option Trace) :
    ((run step s events).update trace).2 = if trace = some [] then some []
      else (lastBlock s.blockTraces.toNat (currentRun (events ++ [.update trace]))).map meanOf := by
  have hholds := holds_run hstart hblock events
  have hsame := run_blockTraces s events
  match trace with
  | none => rw [if_neg (by simp),currentRun_skip events (.inl rfl),← hsame,← hholds.average]; rfl
  | some [] => rfl
  | some (sample :: rest) =>
    obtain ⟨hnext,hout,_⟩ := hholds.update (hsame ▸ hblock) (cons_ne_nil sample rest)
    have hkept : ((run step s events).update (some (sample :: rest))).1.blockTraces =
        s.blockTraces := (step_blockTraces _ (.update (some (sample :: rest)))).trans hsame
    rw [if_neg (by simp),hout,hnext.average,hkept]

/-- A rolling mean is the mean of the last traces of one length, as many as the window holds; a block
average uses each trace in at most one block of traces of one length, and holds the last one of the
current length, an empty trace being answered with an empty one. -/
theorem traces_averaged {size : Option Int} {mean : TraceRollingMeanState}
    {average : TraceBlockAverageState} (hmean : TraceRollingMeanState.fromParams size = .ok mean)
    (haverage : TraceBlockAverageState.fromParams size = .ok average) :
    (∀ events trace, trace ≠ [] →
      ((run TraceRollingMeanState.step mean events).update (some trace)).2 = some (meanOf
          ((currentRun (events ++ [.update (some trace)])).rtake mean.windowTraces.toNat))) ∧
    (∀ before event, average.Completes before event → ∃ block, average.Block before event block) ∧
    ∀ events trace, ((run TraceBlockAverageState.step average events).update trace).2 =
      if trace = some [] then some []
      else (lastBlock average.blockTraces.toNat
        (currentRun (events ++ [.update trace]))).map meanOf := by
  obtain ⟨hblock,hstart⟩ := TraceBlockAverageState.fromParams_ok haverage
  refine ⟨?_,?_,?_⟩
  · intro events trace htrace
    exact TraceRollingMeanState.update_mean hmean events htrace
  · intro before event h
    exact h.block hstart hblock
  · intro events trace
    exact TraceBlockAverageState.update_average hstart hblock events trace

def shiftedTraces : List TraceEvent := [[5],[1,2],[3,4]].map fun trace => .update (some trace)

theorem traces_averaged_pair : ∃ mean average, TraceRollingMeanState.fromParams (some 2) = .ok mean ∧
    TraceBlockAverageState.fromParams (some 2) = .ok average ∧
    ((run TraceRollingMeanState.step mean shiftedTraces).update (some [5,6])).2 = some [4,5] ∧
    ((run TraceBlockAverageState.step average shiftedTraces).update (some [5,6])).2 = some [2,3] := by
  refine ⟨_,_,rfl,rfl,?_⟩
  obtain ⟨hmean,_,haverage⟩ := @traces_averaged (some 2) _ _ rfl rfl
  rw [hmean shiftedTraces [5,6] (by simp),haverage shiftedTraces (some [5,6])]
  decide +kernel

theorem block_not_held : ∃ average, TraceBlockAverageState.fromParams (some 2) = .ok average ∧
    (run TraceBlockAverageState.step average shiftedTraces).lastAverage = some [2,3] ∧
    ((run TraceBlockAverageState.step average shiftedTraces).update (some [])).2 = some [] ∧
    ((run TraceBlockAverageState.step average
      (shiftedTraces ++ [.update (some [9])])).update (some [7,8])).2 = none := by
  refine ⟨_,rfl,?_⟩
  decide +kernel

end ExperimentControl.Analysis

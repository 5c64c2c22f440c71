import ExperimentControl.Lib.Bisect
import ExperimentControl.Lib.OrderedDict
import Mathlib.Algebra.Order.Field.Rat
import Mathlib.Algebra.Order.Group.Abs
import Mathlib.Data.List.Induction

/-!
The recent samples of the telemetry signals (`_record_telemetry_sample`, `_prune_telemetry_history`
and `_lookup_telemetry_nearest` of `processes/stream_analysis.py`). Times and values are finite; what
a difference or a sum of times is rounded to is a parameter.
-/

namespace ExperimentControl.Analysis
open Lib OrderedDict List Option

structure Sample where
  t : ℚ
  value : ℚ
  deriving DecidableEq

def Sample.below (item x : Sample) : Bool := x.t < item.t ∨ x.t = item.t ∧ x.value < item.value

structure TelemetryLimits where
  maxPoints : Nat := 4096
  maxAge : ℚ := 300
  prunePeriod : ℚ := 30

structure TelemetryHistory where
  samples : OrderedDict (String × String) (List Sample) := .empty
  lastPrune : ℚ := 0

def inserted (samples : List Sample) (item : Sample) : List Sample :=
  if samples.getLast?.all fun last => last.t ≤ item.t then samples ++ [item]
  else samples.take (bisectLeft item.below samples) ++
    item :: samples.drop (bisectLeft item.below samples)

/-- `bisect_left(samples, (cutoff, -math.inf))` -/
def placeOf (cutoff : ℚ) (samples : List Sample) : Nat := bisectLeft (fun x => x.t < cutoff) samples

def trimAge (cutoff : ℚ) (samples : List Sample) : List Sample := samples.drop (placeOf cutoff samples)

def trimSize (maxPoints : Nat) (samples : List Sample) : List Sample :=
  if 0 < maxPoints ∧ maxPoints < samples.length then samples.drop (samples.length-maxPoints)
  else samples

inductive TelemetryCall where
  | record (key : String × String) (item : Sample)
  | prune (now : ℚ)

namespace TelemetryHistory
variable (round : ℚ → ℚ) (limits : TelemetryLimits)

def of (s : TelemetryHistory) (key : String × String) : List Sample := (s.samples.get? key).getD []

def young (latest : Sample) (samples : List Sample) : List Sample :=
  if 0 < limits.maxAge then trimAge (round (latest.t-limits.maxAge)) samples else samples

def trimmed (samples : List Sample) : List Sample :=
  match samples.getLast? with
  | none => samples
  | some latest => trimSize limits.maxPoints (young round limits latest samples)

def record (s : TelemetryHistory) (key : String × String) (item : Sample) : TelemetryHistory :=
  { s with samples := s.samples.set key (trimmed round limits (inserted (s.of key) item)) }

def prune (s : TelemetryHistory) (now : ℚ) : TelemetryHistory :=
  if s.samples.entries.isEmpty ∨ now < round (s.lastPrune+limits.prunePeriod) then s
  else if limits.maxAge ≤ 0 then { s with lastPrune := now }
  else
    ⟨(s.samples.mapValues fun _ => trimAge (round (now-limits.maxAge))).filterEntries
      fun _ samples => !samples.isEmpty,now⟩

def step (s : TelemetryHistory) : TelemetryCall → TelemetryHistory
  | .record key item => s.record round limits key item
  | .prune now => s.prune round limits now

def run (calls : List TelemetryCall) : TelemetryHistory := calls.foldl (step round limits) {}

def distance (target : ℚ) (x : Sample) : ℚ := |round (x.t-target)|

/-- The event has a time if it is finite; the limit is what `_normalize_float` makes of it. -/
def lookupNearest (s : TelemetryHistory) (key : String × String) (event : Option ℚ) (now : ℚ)
    (maxDt : Option ℚ) : Option ℚ :=
  let samples := s.of key
  let target := event.getD now
  let idx := placeOf target samples
  let candidates := (if 0 < idx then samples[idx-1]?.toList else []) ++ samples[idx]?.toList
  match minBy (distance round target) candidates with
  | none => none
  | some best =>
    let cutoff := maxDt.getD 2
    if 0 < cutoff ∧ cutoff < distance round target best then none else some best.value

end TelemetryHistory

/-- Sorted by time and within the limits. -/
structure Kept (round : ℚ → ℚ) (limits : TelemetryLimits) (samples : List Sample) : Prop where
  sorted : samples.Pairwise fun x y => x.t ≤ y.t
  size : 0 < limits.maxPoints → samples.length ≤ limits.maxPoints
  age : 0 < limits.maxAge → ∀ latest ∈ samples.getLast?, ∀ x ∈ samples,
    round (latest.t-limits.maxAge) ≤ x.t

/-- What was there is kept but for samples that are older than all others, and for samples beyond the
limit on the size that are no younger than any that is kept. -/
def DropsOldest (limits : TelemetryLimits) (samples kept : List Sample) : Prop :=
  ∃ aged beyond, samples.Perm (aged ++ (beyond ++ kept)) ∧
    (∀ d ∈ aged, ∀ r ∈ beyond ++ kept, d.t < r.t) ∧ (∀ d ∈ beyond, ∀ r ∈ kept, d.t ≤ r.t) ∧
    (beyond ≠ [] → kept.length = limits.maxPoints)

section
variable {samples : List Sample}

theorem inserted_perm (samples : List Sample) (item : Sample) :
    (item :: samples).Perm (inserted samples item) := by
  unfold inserted
  split
  · exact (perm_append_singleton item samples).symm
  · have hsplit : (samples.take (bisectLeft item.below samples) ++
        item :: samples.drop (bisectLeft item.below samples)).Perm (item :: samples) := by
      conv_rhs => rw [← take_append_drop (bisectLeft item.below samples) samples]
      exact perm_middle
    exact hsplit.symm

section
variable (h : samples.Pairwise fun x y => x.t ≤ y.t)
include h

theorem inserted_sorted (item : Sample) :
    (inserted samples item).Pairwise fun x y => x.t ≤ y.t := by
  unfold inserted
  split
  · rename_i hlast
    have hbefore := (sorted_parts Sample.t h samples.length).1
    rw [take_length] at hbefore
    refine pairwise_append.2 ⟨h,pairwise_singleton _ _,fun x hx y hy => ?_⟩
    obtain ⟨last,hin,hle⟩ := hbefore x hx
    rw [mem_singleton.1 hy]
    rw [mem_def.1 hin] at hlast
    exact hle.trans (by simpa using hlast)
  · obtain ⟨hlast,hfirst⟩ := bisectLeft_spec item.below samples
    obtain ⟨hbefore,hafter,hcross⟩ := sorted_parts Sample.t h (bisectLeft item.below samples)
    have hx : ∀ x ∈ samples.take (bisectLeft item.below samples), x.t ≤ item.t := by
      intro x hx
      obtain ⟨last,hin,hle⟩ := hbefore x hx
      have hbelow := hlast last hin
      simp only [Sample.below,decide_eq_true_eq] at hbelow
      exact hle.trans (hbelow.elim le_of_lt (·.1.le))
    have hy : ∀ y ∈ samples.drop (bisectLeft item.below samples), item.t ≤ y.t := by
      intro y hy
      obtain ⟨first,hin,hle⟩ := hafter y hy
      have hbelow := hfirst first hin
      simp only [Sample.below,decide_eq_false_iff_not,not_or,not_lt] at hbelow
      exact hbelow.1.trans hle
    refine pairwise_append.2 ⟨h.sublist (take_sublist _ _),
      pairwise_cons.2 ⟨hy,h.sublist (drop_sublist _ _)⟩,fun x hin y hin' => ?_⟩
    rcases mem_cons.1 hin' with rfl | hin'
    · exact hx x hin
    · exact hcross x hin y hin'

theorem placeOf_spec (cutoff : ℚ) : (∀ x ∈ samples.take (placeOf cutoff samples), x.t < cutoff) ∧
    ∀ y ∈ samples.drop (placeOf cutoff samples), cutoff ≤ y.t := by
  obtain ⟨hlast,hfirst⟩ := bisectLeft_spec (fun x : Sample => decide (x.t < cutoff)) samples
  obtain ⟨hbefore,hafter,-⟩ := sorted_parts Sample.t h (placeOf cutoff samples)
  constructor
  · intro x hx
    obtain ⟨last,hin,hle⟩ := hbefore x hx
    exact hle.trans_lt (by simpa using hlast last hin)
  · intro y hy
    obtain ⟨first,hin,hle⟩ := hafter y hy
    exact (by simpa using hfirst first hin : cutoff ≤ first.t).trans hle

theorem trimAge_spec (cutoff : ℚ) : ∃ aged, samples = aged ++ trimAge cutoff samples ∧
      (∀ d ∈ aged, ∀ r ∈ trimAge cutoff samples, d.t < r.t) ∧
      ∀ r ∈ trimAge cutoff samples, cutoff ≤ r.t := by
  obtain ⟨hbefore,hafter⟩ := placeOf_spec h cutoff
  exact ⟨_,(take_append_drop _ _).symm,fun d hd r hr => (hbefore d hd).trans_le (hafter r hr),hafter⟩

end

theorem trimSize_spec (maxPoints : Nat) (samples : List Sample) :
    ∃ beyond, samples = beyond ++ trimSize maxPoints samples ∧
      (0 < maxPoints → (trimSize maxPoints samples).length ≤ maxPoints) ∧
      (beyond ≠ [] → (trimSize maxPoints samples).length = maxPoints) := by
  unfold trimSize
  split
  · refine ⟨samples.take (samples.length-maxPoints),(take_append_drop _ _).symm,?_⟩
    have hlength : (samples.drop (samples.length-maxPoints)).length = maxPoints := by
      rw [length_drop]
      omega
    exact ⟨fun _ => hlength.le,fun _ => hlength⟩
  · exact ⟨[],rfl,fun _ => by omega,fun h => absurd rfl h⟩

theorem Kept.suffix {round : ℚ → ℚ} {limits : TelemetryLimits} {gone kept : List Sample}
    (h : Kept round limits (gone ++ kept)) : Kept round limits kept where
  sorted := (pairwise_append.1 h.sorted).2.1
  size hpos := by
    have hsize := h.size hpos
    rw [length_append] at hsize
    omega
  age hpos latest hlatest x hx := by
    refine h.age hpos latest ?_ x (mem_append_right _ hx)
    rw [getLast?_append,mem_def.1 hlatest]
    rfl

theorem dropsOldest_suffix {limits : TelemetryLimits} {gone kept : List Sample}
    (hold : ∀ d ∈ gone, ∀ r ∈ kept, d.t < r.t) : DropsOldest limits (gone ++ kept) kept :=
  ⟨gone,[],.refl _,hold,nofun,fun h => absurd rfl h⟩

end

namespace TelemetryHistory
variable {round : ℚ → ℚ} {limits : TelemetryLimits}

theorem young_spec {samples : List Sample} (h : samples.Pairwise fun x y => x.t ≤ y.t)
    (latest : Sample) : ∃ aged, samples = aged ++ young round limits latest samples ∧
      (∀ d ∈ aged, ∀ r ∈ young round limits latest samples, d.t < r.t) ∧
      (0 < limits.maxAge → ∀ r ∈ young round limits latest samples,
        round (latest.t-limits.maxAge) ≤ r.t) := by
  unfold young
  split
  · obtain ⟨aged,hsplit,hold,hcut⟩ := trimAge_spec h (round (latest.t-limits.maxAge))
    exact ⟨aged,hsplit,hold,fun _ => hcut⟩
  · rename_i hage
    exact ⟨[],rfl,nofun,fun h => absurd h hage⟩

theorem trimmed_spec {samples : List Sample} (h : samples.Pairwise fun x y => x.t ≤ y.t) :
    Kept round limits (trimmed round limits samples) ∧
    DropsOldest limits samples (trimmed round limits samples) := by
  unfold trimmed
  cases hlast : samples.getLast? with
  | none =>
    rw [getLast?_eq_none_iff.1 hlast]
    exact ⟨⟨.nil,fun _ => Nat.zero_le _,nofun⟩,[],[],.refl _,nofun,nofun,fun h => absurd rfl h⟩
  | some latest =>
    dsimp only
    obtain ⟨aged,hsplit,hold,hcut⟩ := @young_spec round limits _ h latest
    generalize young round limits latest samples = young at hsplit hold hcut
    obtain ⟨beyond,hyoung,hsize,hfull⟩ := trimSize_spec limits.maxPoints young
    generalize trimSize limits.maxPoints young = kept at hyoung hsize hfull
    subst hyoung hsplit
    have hsorted := (pairwise_append.1 (pairwise_append.1 h).2.1)
    refine ⟨⟨hsorted.2.1,hsize,fun hage last hin x hx => ?_⟩,aged,beyond,.refl _,hold,
      hsorted.2.2,hfull⟩
    have hsame : last = latest := by
      rw [getLast?_append,getLast?_append,mem_def.1 hin] at hlast
      exact Option.some.inj hlast
    rw [hsame]
    exact hcut hage x (mem_append_right _ hx)

theorem of_record (s : TelemetryHistory) (key : String × String) (item : Sample)
    (other : String × String) : (s.record round limits key item).of other =
      if other = key then trimmed round limits (inserted (s.of key) item) else s.of other := by
  unfold record of
  rw [get?_set]
  split <;> rfl

theorem of_prune (s : TelemetryHistory) (now : ℚ) (key : String × String) :
    (s.prune round limits now).of key =
      if now < round (s.lastPrune+limits.prunePeriod) ∨ limits.maxAge ≤ 0 then s.of key
      else trimAge (round (now-limits.maxAge)) (s.of key) := by
  unfold prune
  by_cases hearly : now < round (s.lastPrune+limits.prunePeriod)
  · simp [hearly]
  by_cases hage : limits.maxAge ≤ 0
  · simp only [hearly,hage,or_true,if_true,or_false]
    split <;> rfl
  simp only [hearly,hage,or_false,if_false]
  split
  · rename_i hempty
    have hnone : s.samples.get? key = none := by
      simp [get?,isEmpty_iff.1 hempty]
    simp [of,hnone,trimAge]
  · unfold of
    rw [get?_filterEntries,get?_mapValues]
    cases s.samples.get? key with
    | none => simp [trimAge]
    | some samples =>
      cases htrim : trimAge (round (now-limits.maxAge)) samples with
      | nil => simp [Option.filter,htrim]
      | cons x rest => simp [Option.filter,htrim]

end TelemetryHistory

def TelemetryCall.adds : TelemetryCall → String × String → List Sample
  | .record key item,other => if other = key then [item] else []
  | .prune _,_ => []

namespace TelemetryHistory
variable {round : ℚ → ℚ} {limits : TelemetryLimits}

theorem step_kept {s : TelemetryHistory} {key : String × String} (h : Kept round limits (s.of key))
    (call : TelemetryCall) : Kept round limits ((s.step round limits call).of key) ∧
    DropsOldest limits (call.adds key ++ s.of key) ((s.step round limits call).of key) := by
  have hsame : DropsOldest limits (s.of key) (s.of key) :=
    ⟨[],[],.refl _,nofun,nofun,fun h => absurd rfl h⟩
  cases call with
  | record other item =>
    rw [step,of_record]
    simp only [TelemetryCall.adds]
    split
    · rename_i hkey
      subst hkey
      obtain ⟨hkept,aged,beyond,hperm,hdrops⟩ :=
        @trimmed_spec round limits _ (inserted_sorted h.sorted item)
      exact ⟨hkept,aged,beyond,(inserted_perm _ item).trans hperm,hdrops⟩
    · exact ⟨h,hsame⟩
  | prune now =>
    rw [step,of_prune]
    simp only [TelemetryCall.adds,nil_append]
    split
    · exact ⟨h,hsame⟩
    · obtain ⟨aged,hsplit,hold,-⟩ := trimAge_spec h.sorted (round (now-limits.maxAge))
      generalize trimAge (round (now-limits.maxAge)) (s.of key) = kept at hsplit hold ⊢
      rw [hsplit] at h ⊢
      exact ⟨h.suffix,dropsOldest_suffix hold⟩

theorem run_kept (calls : List TelemetryCall) (key : String × String) :
    Kept round limits ((run round limits calls).of key) := by
  induction calls using List.reverseRecOn with
  | nil => exact ⟨.nil,fun _ => Nat.zero_le _,nofun⟩
  | append_singleton calls call ih =>
    rw [run,foldl_append]
    exact (step_kept ih call).1

theorem lookup_spec (hmono : Monotone round) (hzero : round 0 = 0) {s : TelemetryHistory}
    {key : String × String} (h : (s.of key).Pairwise fun x y => x.t ≤ y.t) (event : Option ℚ)
    (now : ℚ) (maxDt : Option ℚ) :
    (s.lookupNearest round key event now maxDt = none ↔ ∀ x ∈ s.of key,
      0 < maxDt.getD 2 ∧ maxDt.getD 2 < distance round (event.getD now) x) ∧
    ∀ v, s.lookupNearest round key event now maxDt = some v → ∃ x ∈ s.of key, x.value = v ∧
      ∀ y ∈ s.of key, distance round (event.getD now) x ≤ distance round (event.getD now) y := by
  unfold lookupNearest
  dsimp only
  generalize event.getD now = target
  generalize s.of key = samples at h
  obtain ⟨hbefore,hafter⟩ := placeOf_spec h target
  obtain ⟨hlast,hfirst,-⟩ := sorted_parts Sample.t h (placeOf target samples)
  have hplace : placeOf target samples ≤ samples.length := bisectLeft_le _ _
  generalize placeOf target samples = idx at hbefore hafter hlast hfirst hplace
  set candidates := (if 0 < idx then samples[idx-1]?.toList else []) ++ samples[idx]?.toList
    with hcandidates
  have hin : ∀ x ∈ candidates, x ∈ samples := by
    intro x hx
    rcases mem_append.1 hx with hx | hx
    · split at hx
      · exact mem_of_getElem? (mem_toList.1 hx)
      · cases hx
    · exact mem_of_getElem? (mem_toList.1 hx)
  -- no sample is nearer than the candidate on its side of the event
  have hnear : ∀ y ∈ samples, ∃ x ∈ candidates, distance round target x ≤ distance round target y := by
    intro y hy
    rw [← take_append_drop idx samples] at hy
    rcases mem_append.1 hy with hy | hy
    · obtain ⟨last,hend,hle⟩ := hlast y hy
      have hpos : 0 < idx := Nat.pos_of_ne_zero fun h => by simp [h] at hy
      have hcand : last ∈ candidates := by
        have hget : samples[idx-1]? = some last := by
          rw [getLast?_take,if_neg hpos.ne',
            getElem?_eq_getElem (by omega : idx-1 < samples.length)] at hend
          rw [getElem?_eq_getElem (by omega : idx-1 < samples.length)]
          exact hend
        rw [hcandidates,if_pos hpos,hget]
        simp
      refine ⟨last,hcand,abs_le_abs_of_nonpos ?_ (hmono (sub_le_sub_right hle _))⟩
      have hneg := hmono (sub_nonpos.2 (hbefore last (mem_of_getLast? hend)).le)
      rwa [hzero] at hneg
    · obtain ⟨first,hhead,hle⟩ := hfirst y hy
      have hpos := hmono (sub_nonneg.2 (hafter first (mem_of_head? hhead)))
      rw [hzero] at hpos
      rw [head?_drop] at hhead
      exact ⟨first,mem_append_right _ (mem_toList.2 hhead),
        abs_le_abs_of_nonneg hpos (hmono (sub_le_sub_right hle _))⟩
  cases hbest : minBy (distance round target) candidates with
  | none =>
    have hempty : samples = [] := by
      refine eq_nil_iff_forall_not_mem.2 fun y hy => ?_
      obtain ⟨x,hx,-⟩ := hnear y hy
      cases hc : candidates with
      | nil => simp [hc] at hx
      | cons z rest => simp [hc,minBy] at hbest
    simp [hempty]
  | some best =>
    obtain ⟨hmem,hleast⟩ := minBy_spec _ hbest
    have hmin : ∀ y ∈ samples, distance round target best ≤ distance round target y := by
      intro y hy
      obtain ⟨x,hx,hle⟩ := hnear y hy
      exact (hleast x hx).trans hle
    dsimp only
    split
    · rename_i hfar
      exact ⟨⟨fun _ x hx => ⟨hfar.1,hfar.2.trans_le (hmin x hx)⟩,fun _ => rfl⟩,nofun⟩
    · rename_i hnot
      refine ⟨⟨nofun,fun h => absurd (h best (hin best hmem)) hnot⟩,fun v hv => ?_⟩
      exact ⟨best,hin best hmem,Option.some.inj hv,hmin⟩

end TelemetryHistory

open TelemetryHistory in
/-- The samples of a signal stay sorted and within the limits, only the oldest are dropped, and the
value found is that of a sample as near as any. Limits that are not positive are no limits. -/
theorem nearest_exact {round : ℚ → ℚ} (hmono : Monotone round) (hzero : round 0 = 0)
    (limits : TelemetryLimits) (calls : List TelemetryCall) (key : String × String) :
    Kept round limits ((run round limits calls).of key) ∧
    (∀ call : TelemetryCall, DropsOldest limits (call.adds key ++ (run round limits calls).of key)
      (((run round limits calls).step round limits call).of key)) ∧
    (∀ now, 0 < limits.maxAge → round ((run round limits calls).lastPrune+limits.prunePeriod) ≤ now →
      ∀ x ∈ ((run round limits calls).prune round limits now).of key,
        round (now-limits.maxAge) ≤ x.t) ∧ ∀ event now maxDt,
      ((run round limits calls).lookupNearest round key event now maxDt = none ↔
        ∀ x ∈ (run round limits calls).of key,
          0 < maxDt.getD 2 ∧ maxDt.getD 2 < distance round (event.getD now) x) ∧
      ∀ v, (run round limits calls).lookupNearest round key event now maxDt = some v →
        ∃ x ∈ (run round limits calls).of key, x.value = v ∧ ∀ y ∈ (run round limits calls).of key,
          distance round (event.getD now) x ≤ distance round (event.getD now) y := by
  have hkept : Kept round limits ((run round limits calls).of key) := run_kept calls key
  refine ⟨hkept,fun call => (step_kept hkept call).2,fun now hage hlate x hx => ?_,
    lookup_spec hmono hzero hkept.sorted⟩
  rw [of_prune,if_neg (not_or.2 ⟨hlate.not_gt,hage.not_ge⟩)] at hx
  obtain ⟨-,-,-,hcut⟩ := trimAge_spec hkept.sorted (round (now-limits.maxAge))
  exact hcut x hx

def lateFirst : List TelemetryCall :=
  [.record ("laser","power") ⟨1,5⟩,.record ("laser","power") ⟨0,6⟩]

open TelemetryHistory in
theorem nearest_exact_two : ∃ x ∈ (run id {} lateFirst).of ("laser","power"), x.value = 6 ∧
    ∀ y ∈ (run id {} lateFirst).of ("laser","power"), distance id (1/4) x ≤ distance id (1/4) y :=
  ((nearest_exact monotone_id rfl {} lateFirst ("laser","power")).2.2.2
    (some (1/4)) 0 none).2 6 (by decide +kernel)

def sameTime (n : Nat) : List TelemetryCall :=
  (range n).map fun i => .record ("laser","power") ⟨0,i⟩

open TelemetryHistory in
theorem trimmed_sameTime {samples : List Sample} (h : ∀ x ∈ samples, x.t = 0) (value : ℚ) :
    trimmed id {} (inserted samples ⟨0,value⟩) = trimSize 4096 (samples ++ [⟨0,value⟩]) := by
  have hlast : samples.getLast?.all (fun last => last.t ≤ 0) = true := by
    rw [Option.all_eq_true]
    intro last hlast
    simp [h last (mem_of_getLast? hlast)]
  have hnone : placeOf (-300) (samples ++ [⟨0,value⟩]) = 0 := by
    have hzero : ∀ x ∈ samples ++ [⟨0,value⟩], x.t = 0 := by
      intro x hx
      rcases mem_append.1 hx with hx | hx
      · exact h x hx
      · rw [mem_singleton.1 hx]
    have hne : samples ++ [⟨0,value⟩] ≠ [] := by simp
    generalize samples ++ [⟨0,value⟩] = samples at hzero hne
    have hsorted : samples.Pairwise fun x y => x.t ≤ y.t :=
      pairwise_of_forall_mem_list fun x hx y hy => by rw [hzero x hx,hzero y hy]
    have htake : samples.take (placeOf (-300) samples) = [] := by
      refine eq_nil_iff_forall_not_mem.2 fun x hx => ?_
      have hold := (placeOf_spec hsorted (-300)).1 x hx
      rw [hzero x (mem_of_mem_take hx)] at hold
      revert hold
      decide
    simpa [hne] using htake
  rw [inserted,if_pos hlast,trimmed,getLast?_concat]
  simp [young,trimAge,hnone]

theorem trimSize_next (f : Nat → Sample) {n : Nat} (hn : 0 < n) :
    trimSize n ((range n).map f ++ [f n]) = (range' 1 n).map f := by
  have hall : (range n).map f ++ [f n] = (range' 0 (n+1)).map f := by
    rw [← range_eq_range',range_succ,map_append]
    rfl
  rw [trimSize,if_pos ⟨hn,by simp⟩,hall,length_map,length_range',Nat.add_sub_cancel_left,range'_succ]
  rfl

open TelemetryHistory in
theorem of_sameTime_succ {n : Nat}
    (h : (run id {} (sameTime n)).of ("laser","power") = (range n).map fun i => ⟨0,i⟩) :
    (run id {} (sameTime (n+1))).of ("laser","power") =
      trimSize 4096 ((range n).map (fun i => ⟨0,i⟩) ++ [⟨0,n⟩]) := by
  have hrun : run id {} (sameTime (n+1)) =
      (run id {} (sameTime n)).record id {} ("laser","power") ⟨0,n⟩ := by
    simp [run,sameTime,range_succ,foldl_append,step]
  rw [hrun,of_record,if_pos rfl,h,trimmed_sameTime (by simp)]

open TelemetryHistory in
theorem of_sameTime {n : Nat} (hn : n ≤ 4096) :
    (run id {} (sameTime n)).of ("laser","power") = (range n).map fun i => ⟨0,i⟩ := by
  induction n with
  | zero => rfl
  | succ n ih =>
    rw [of_sameTime_succ (ih (by omega)),trimSize,if_neg (by simp; omega)]
    simp [range_succ]

open TelemetryHistory in
/-- A limit of zero seconds does not keep a sample out that is ten seconds away, and a sample is
dropped for others of the same time. -/
theorem far_sample_and_equal_times :
    ((run id {} [.record ("laser","power") ⟨0,7⟩]).lookupNearest id ("laser","power") (some 10) 10
      (some 0) = some 7 ∧
      ∀ x ∈ (run id {} [.record ("laser","power") ⟨0,7⟩]).of ("laser","power"), 0 < distance id 10 x) ∧
    (run id {} (sameTime (4096+1))).of ("laser","power") = (range' 1 4096).map fun i => ⟨0,i⟩ := by
  refine ⟨by decide +kernel,?_⟩
  rw [of_sameTime_succ (of_sameTime (Nat.le_refl _))]
  exact trimSize_next (fun i => ⟨0,i⟩) (by omega)

end ExperimentControl.Analysis

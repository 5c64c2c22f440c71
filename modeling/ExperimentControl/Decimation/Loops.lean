import ExperimentControl.Lib.Tiles
import Mathlib.Algebra.Order.Ring.Rat

/-!
Envelope decimation sample by sample: the loops of `utils/trace_processing.py` and of
`processes/stream_analysis.py`. Of a float only the number that it stands for is looked at, and NaN
stands for none.
-/

namespace ExperimentControl.Decimation
open Lib List

/-- `a < b`, for the numbers of two floats -/
def less : Option ℚ → Option ℚ → Bool
  | some x,some y => x < y
  | _,_ => false

def equal : Option ℚ → Option ℚ → Bool
  | some x,some y => x = y
  | _,_ => false

def bucketRanges (n bucketCount : Nat) : List (Nat × Nat) :=
  if n = 0 ∨ bucketCount = 0 then []
  else (List.range bucketCount).map fun i =>
    let start := i*n/bucketCount
    let stop := (i+1)*n/bucketCount
    (start,if stop ≤ start then min n (start+1) else stop)

section
variable {α : Type} [Inhabited α] (num : α → Option ℚ)

structure Extrema (α : Type) where
  minV : α
  minI : Nat
  maxV : α
  maxI : Nat

def Extrema.lower (e : Extrema α) (idx : Nat) (value : α) : Extrema α :=
  if less (num value) (num e.minV) then { e with minV := value,minI := idx } else e

def Extrema.raise (e : Extrema α) (idx : Nat) (value : α) : Extrema α :=
  if less (num e.maxV) (num value) then { e with maxV := value,maxI := idx } else e

def extrema (points : List α) (start stop : Nat) : Extrema α :=
  (List.range' (start+1) (stop-(start+1))).foldl (fun e idx => (e.lower num idx points[idx]!).raise num idx points[idx]!)
    ⟨points[start]!,start,points[start]!,start⟩

/-- The indices that the loop of `m4` goes through for a bucket. -/
def m4Row (points : List α) (p : Nat × Nat) : List Nat :=
  let e := extrema num points p.1 p.2
  sortedSet [p.1,e.minI,e.maxI,p.2-1]

/-- `out.append(v)` for all of them, until the output is full: then the function returns it. -/
def appendUntil (maxPoints : Nat) (out values : List α) : Except (List α) (List α) :=
  values.foldlM (fun out v =>
    if maxPoints ≤ (out ++ [v]).length then .error ((out ++ [v]).take maxPoints)
    else .ok (out ++ [v])) out

/-- The output of a loop that has come to its end, or has returned before. -/
def finish (maxPoints : Nat) : Except (List α) (List α) → List α
  | .error out => out
  | .ok out => out.take maxPoints

def m4Buckets (maxPoints bucketCount : Nat) (points : List α) : Except (List α) (List α) :=
  (bucketRanges points.length bucketCount).foldlM (fun out p =>
    if p.2 ≤ p.1 then .ok out
    else appendUntil maxPoints out ((m4Row num points p).map (points[·]!))) []

/-- The two appends of `minmax`: the second one is left out where the indices coincide. -/
def appendPair (maxPoints : Nat) (points out : List α) (a b : Nat) : List α :=
  let out := out ++ [points[a]!]
  if b ≠ a ∧ out.length < maxPoints then out ++ [points[b]!] else out

def minmaxBuckets (maxPoints bucketCount : Nat) (points : List α) : Except (List α) (List α) :=
  (bucketRanges points.length bucketCount).foldlM (fun out p =>
    if p.2 ≤ p.1 then .ok out
    else
      let e := extrema num points p.1 p.2
      let out := if e.minI ≤ e.maxI then appendPair maxPoints points out e.minI e.maxI
        else appendPair maxPoints points out e.maxI e.minI
      if maxPoints ≤ out.length then .error (out.take maxPoints) else .ok out) []

def m4Loop (points : List α) (maxPoints : Nat) : List α :=
  finish maxPoints (m4Buckets num maxPoints (max 1 (min (maxPoints/4) points.length)) points)

def minmaxLoop (points : List α) (maxPoints : Nat) : List α :=
  finish maxPoints (minmaxBuckets num maxPoints (max 1 (min (maxPoints/2) points.length)) points)

/-- The output of the loops of `stream_analysis`: `out[:out_count]`, of which no more than
`target_points` slots are ever written. -/
def written : Except (List α) (List α) → List α
  | .error out | .ok out => out

/-- `stream_analysis._decimate_trace_m4` -/
def streamM4 (points : List α) (targetPoints : Nat) : List α :=
  written (m4Buckets num targetPoints (max 1 (min (max 1 (targetPoints/4)) points.length)) points)

/-- `stream_analysis._decimate_trace_minmax` -/
def streamMinmax (points : List α) (targetPoints : Nat) : List α :=
  written (minmaxBuckets num targetPoints (max 1 (min (max 1 (targetPoints/2)) points.length)) points)

end

theorem tiles_bucketRanges {n k : Nat} (hk : 0 < k) (hle : k ≤ n) : Tiles 0 (bucketRanges n k) n ∧
      bucketRanges n k = (List.range k).map fun i => (i*n/k,(i+1)*n/k) := by
  have hlt : ∀ i, i*n/k < (i+1)*n/k := by
    intro i
    have h : i*n+k ≤ (i+1)*n := by rw [Nat.add_mul,one_mul]; omega
    calc i*n/k < i*n/k+1 := Nat.lt_succ_self _
      _ = (i*n+k)/k := (Nat.add_div_right _ hk).symm
      _ ≤ (i+1)*n/k := Nat.div_le_div_right h
  have heq : bucketRanges n k = (List.range k).map fun i => (i*n/k,(i+1)*n/k) := by
    rw [bucketRanges,if_neg (by omega)]
    refine map_congr_left fun i _ => ?_
    simp only [if_neg (Nat.not_le.2 (hlt i))]
  refine ⟨?_,heq⟩
  rw [heq,range_eq_range']
  -- from the `i`-th bucket on
  have hfrom : ∀ m i, i+m = k → Tiles (i*n/k)
      ((List.range' i m).map fun i => (i*n/k,(i+1)*n/k)) n := by
    intro m
    induction m with
    | zero =>
      intro i hi
      have hn : i*n/k = n := by rw [show i = k by omega,Nat.mul_div_cancel_left n hk]
      rw [hn]
      exact .nil n
    | succ m ih =>
      intro i hi
      rw [range'_succ,map_cons]
      exact .cons (hlt i) (ih (i+1) (by omega))
  simpa using hfrom k 0 (by omega)

def leastIndex (f : Nat → Option ℚ) (start stop : Nat) : Nat :=
  (List.range' (start+1) (stop-(start+1))).foldl (fun m i => if less (f i) (f m) then i else m) start

def negated (x : Option ℚ) : Option ℚ := x.map fun x => -x

theorem less_negated (x y : Option ℚ) : less (negated x) (negated y) = less y x := by
  cases x <;> cases y <;> simp [less,negated]

theorem equal_negated (x y : Option ℚ) : equal (negated x) (negated y) = equal x y := by
  cases x <;> cases y <;> simp [equal,negated]

section
variable {f : Nat → Option ℚ} {start stop : Nat}

theorem leastIndex_of_nan (h : f start = none) : leastIndex f start stop = start := by
  unfold leastIndex
  generalize List.range' (start+1) (stop-(start+1)) = l
  induction l with
  | nil => rfl
  | cons i rest ih =>
    have hless : less (f i) (f start) = false := by
      rw [h]
      cases f i <;> rfl
    rw [foldl_cons,hless]
    exact ih

/-- The number at `i` is the least one of the bucket, and was not there before. -/
structure FirstLeast (f : Nat → Option ℚ) (start stop i : Nat) (x : ℚ) : Prop where
  from_start : start ≤ i
  before_stop : i < stop
  here : f i = some x
  least : ∀ j y, start ≤ j → j < stop → f j = some y → x ≤ y
  first : ∀ j y, start ≤ j → j < i → f j = some y → x < y

theorem firstLeast_leastIndex (hlt : start < stop) {x : ℚ} (h : f start = some x) :
    ∃ x, FirstLeast f start stop (leastIndex f start stop) x := by
  obtain ⟨k,rfl⟩ : ∃ k, stop = start+1+k := ⟨stop-(start+1),by omega⟩
  unfold leastIndex
  rw [show start+1+k-(start+1) = k by omega]
  clear hlt
  induction k with
  | zero =>
    refine ⟨x,le_refl _,by simp,h,?_,?_⟩
    · intro j y hj hlt hy
      rw [show j = start by omega,h] at hy
      exact le_of_eq (Option.some.inj hy)
    · intro j y hj hlt
      simp at hlt
      omega
  | succ k ih =>
    obtain ⟨m,⟨hfrom,hbefore,hm,hleast,hfirst⟩⟩ := ih
    rw [range'_1_concat,foldl_append,foldl_cons,foldl_nil]
    generalize (List.range' (start+1) k).foldl (fun m i => if less (f i) (f m) then i else m) start = i
      at hfrom hbefore hm hfirst ⊢
    cases hnew : f (start+1+k) with
    | none =>
      rw [show less none (f i) = false by cases f i <;> rfl]
      refine ⟨m,hfrom,by simp only [Bool.false_eq_true,if_false]; omega,hm,?_,hfirst⟩
      intro j y hj hlt hy
      by_cases hjk : j = start+1+k
      · rw [hjk,hnew] at hy
        cases hy
      · exact hleast j y hj (by omega) hy
    | some z =>
      rw [hm]
      by_cases hz : z < m
      · rw [show less (some z) (some m) = true by simp [less,hz],if_pos rfl]
        refine ⟨z,by omega,by omega,hnew,?_,?_⟩
        · intro j y hj hlt hy
          by_cases hjk : j = start+1+k
          · rw [hjk,hnew] at hy
            exact le_of_eq (Option.some.inj hy)
          · exact le_of_lt (lt_of_lt_of_le hz (hleast j y hj (by omega) hy))
        · intro j y hj hlt hy
          exact lt_of_lt_of_le hz (hleast j y hj hlt hy)
      · rw [show less (some z) (some m) = false by simp [less,hz]]
        refine ⟨m,hfrom,by simp only [Bool.false_eq_true,if_false]; omega,hm,?_,hfirst⟩
        intro j y hj hlt hy
        by_cases hjk : j = start+1+k
        · rw [hjk,hnew] at hy
          exact Option.some.inj hy ▸ not_lt.1 hz
        · exact hleast j y hj (by omega) hy

theorem leastIndex_in_bucket (hlt : start < stop) :
    start ≤ leastIndex f start stop ∧ leastIndex f start stop < stop := by
  cases h : f start with
  | none =>
    rw [leastIndex_of_nan h]
    exact ⟨le_refl _,hlt⟩
  | some x =>
    obtain ⟨y,hy⟩ := firstLeast_leastIndex hlt h
    exact ⟨hy.from_start,hy.before_stop⟩

end

section
variable {α : Type} [Inhabited α] (num : α → Option ℚ) (points : List α)

def numAt (i : Nat) : Option ℚ := num points[i]!

def minIndex (p : Nat × Nat) : Nat := leastIndex (numAt num points) p.1 p.2

def maxIndex (p : Nat × Nat) : Nat := leastIndex (fun i => negated (numAt num points i)) p.1 p.2

theorem Extrema.lower_at (i j a : Nat) :
    (⟨points[i]!,i,points[j]!,j⟩ : Extrema α).lower num a points[a]! =
      let i' := if less (numAt num points a) (numAt num points i) then a else i
      ⟨points[i']!,i',points[j]!,j⟩ := by
  by_cases h : less (num points[a]!) (num points[i]!) = true
  · rw [lower,if_pos h]
    simp only [show less (numAt num points a) (numAt num points i) = true from h,if_true]
  · rw [lower,if_neg h]
    simp only [show less (numAt num points a) (numAt num points i) = false from
      Bool.not_eq_true _ ▸ h,Bool.false_eq_true,if_false]

theorem Extrema.raise_at (i j a : Nat) :
    (⟨points[i]!,i,points[j]!,j⟩ : Extrema α).raise num a points[a]! =
      let j' := if less (negated (numAt num points a)) (negated (numAt num points j)) then a else j
      ⟨points[i]!,i,points[j']!,j'⟩ := by
  simp only [raise,less_negated,numAt]
  by_cases h : less (num points[j]!) (num points[a]!) = true
  · simp only [if_pos h]
  · simp only [if_neg h]

theorem extrema_eq (start stop : Nat) : extrema num points start stop =
    ⟨points[minIndex num points (start,stop)]!,minIndex num points (start,stop),
      points[maxIndex num points (start,stop)]!,maxIndex num points (start,stop)⟩ := by
  unfold extrema minIndex maxIndex leastIndex
  generalize List.range' (start+1) (stop-(start+1)) = l
  -- both indices begin at `start`, and move apart
  have hrun : ∀ (i j : Nat),
      l.foldl (fun e idx => (e.lower num idx points[idx]!).raise num idx points[idx]!)
        (⟨points[i]!,i,points[j]!,j⟩ : Extrema α) =
      let i' := l.foldl (fun m i => if less (numAt num points i) (numAt num points m) then i else m) i
      let j' := l.foldl (fun m i => if less (negated (numAt num points i)) (negated (numAt num points m))
        then i else m) j
      ⟨points[i']!,i',points[j']!,j'⟩ := by
    induction l with
    | nil => exact fun i j => rfl
    | cons a rest ih =>
      intro i j
      rw [foldl_cons,Extrema.lower_at,Extrema.raise_at]
      exact ih _ _
  exact hrun start start

theorem m4Row_eq (p : Nat × Nat) : m4Row num points p =
    sortedSet [p.1,minIndex num points p,maxIndex num points p,p.2-1] := by
  simp only [m4Row,extrema_eq]

/-- The indices that `minmax` takes from a bucket. -/
def minmaxRow (p : Nat × Nat) : List Nat :=
  sortedSet [minIndex num points p,maxIndex num points p]

variable {num points} {p : Nat × Nat}

theorem minmaxRow_eq (p : Nat × Nat) : minmaxRow num points p =
    if minIndex num points p = maxIndex num points p then [minIndex num points p]
    else if minIndex num points p ≤ maxIndex num points p then
      [minIndex num points p,maxIndex num points p]
    else [maxIndex num points p,minIndex num points p] := by
  unfold minmaxRow sortedSet
  generalize minIndex num points p = i
  generalize maxIndex num points p = j
  split
  · rename_i h
    subst h
    simp
  · rename_i h
    rw [dedup_eq_self.2 (by simpa using h)]
    simp only [List.insertionSort,List.foldr,List.orderedInsert]

theorem rows_in_bucket (hlt : p.1 < p.2) : (∀ i ∈ m4Row num points p, p.1 ≤ i ∧ i < p.2) ∧
      ∀ i ∈ minmaxRow num points p, p.1 ≤ i ∧ i < p.2 := by
  have hmin := leastIndex_in_bucket (f := numAt num points) hlt
  have hmax := leastIndex_in_bucket (f := fun i => negated (numAt num points i)) hlt
  constructor
  · intro i hi
    rw [m4Row_eq,mem_sortedSet] at hi
    simp only [mem_cons,not_mem_nil,or_false] at hi
    rcases hi with rfl | rfl | rfl | rfl
    · exact ⟨le_refl _,hlt⟩
    · exact hmin
    · exact hmax
    · omega
  · intro i hi
    rw [minmaxRow,mem_sortedSet] at hi
    simp only [mem_cons,not_mem_nil,or_false] at hi
    rcases hi with rfl | rfl
    · exact hmin
    · exact hmax

end

section
variable {α : Type} {maxPoints : Nat} {out values : List α}

/-- What has been appended so far, of `all` that is to come. -/
def Upto (maxPoints : Nat) (all : List α) : Except (List α) (List α) → Prop
  | .error out => maxPoints ≤ all.length ∧ out = all.take maxPoints
  | .ok out => all.length < maxPoints ∧ out = all

theorem upto_appendUntil (h : out.length < maxPoints) :
    Upto maxPoints (out ++ values) (appendUntil maxPoints out values) := by
  unfold appendUntil
  induction values generalizing out with
  | nil =>
    rw [append_nil]
    exact ⟨h,rfl⟩
  | cons v rest ih =>
    rw [foldlM_cons]
    split
    · rename_i hfull
      rw [length_append,length_singleton] at hfull
      rw [show out ++ v :: rest = (out ++ [v]) ++ rest by simp]
      refine ⟨by simp; omega,?_⟩
      exact (take_append_of_le_length (by simpa using hfull)).symm
    · rename_i hroom
      rw [show out ++ v :: rest = (out ++ [v]) ++ rest by simp]
      exact ih (by omega)

theorem upto_foldlM {β : Type} {step : List α → β → Except (List α) (List α)} {row : β → List α}
    {l : List β} (hstep : ∀ out, ∀ p ∈ l, out.length < maxPoints →
      Upto maxPoints (out ++ row p) (step out p)) (h : out.length < maxPoints) :
    Upto maxPoints (out ++ l.flatMap row) (l.foldlM step out) := by
  induction l generalizing out with
  | nil =>
    rw [flatMap_nil,append_nil]
    exact ⟨h,rfl⟩
  | cons p rest ih =>
    have hp := hstep out p (by simp) h
    rw [foldlM_cons,flatMap_cons,← append_assoc]
    cases hs : step out p with
    | error out' =>
      rw [hs] at hp
      obtain ⟨hfull,rfl⟩ := hp
      refine ⟨by simp at hfull ⊢; omega,?_⟩
      rw [take_append_of_le_length hfull]
    | ok out' =>
      rw [hs] at hp
      obtain ⟨hroom,rfl⟩ := hp
      exact ih (fun out p hp => hstep out p (by simp [hp])) hroom

theorem upto_push (out : List α) (v : α) : Upto maxPoints (out ++ [v])
    (if maxPoints ≤ (out ++ [v]).length then .error ((out ++ [v]).take maxPoints)
      else .ok (out ++ [v])) := by
  split
  · rename_i hfull
    exact ⟨hfull,rfl⟩
  · rename_i hmore
    exact ⟨Nat.not_le.1 hmore,rfl⟩

theorem finish_of_upto {all : List α} {result : Except (List α) (List α)}
    (h : Upto maxPoints all result) : finish maxPoints result = all.take maxPoints := by
  cases result with
  | error out => exact h.2
  | ok out =>
    obtain ⟨-,rfl⟩ := h
    rfl

theorem written_of_upto {all : List α} {result : Except (List α) (List α)}
    (h : Upto maxPoints all result) : written result = all.take maxPoints := by
  cases result with
  | error out => exact h.2
  | ok out =>
    obtain ⟨hroom,rfl⟩ := h
    exact (take_of_length_le hroom.le).symm

end

variable {α : Type} [Inhabited α] {num : α → Option ℚ} {points : List α} {maxPoints k : Nat}

def selected (row : Nat × Nat → List Nat) (k : Nat) (points : List α) : List α :=
  ((bucketRanges points.length k).flatMap row).map (points[·]!)

theorem upto_appendPair {out : List α} {a b : Nat} (hne : b ≠ a) :
    Upto maxPoints (out ++ [a,b].map (points[·]!))
      (if maxPoints ≤ (appendPair maxPoints points out a b).length then
        .error ((appendPair maxPoints points out a b).take maxPoints)
      else .ok (appendPair maxPoints points out a b)) := by
  have hall : out ++ [a,b].map (points[·]!) = (out ++ [points[a]!]) ++ [points[b]!] := by simp
  rw [hall]
  by_cases hfull : (out ++ [points[a]!]).length < maxPoints
  · have hpair : appendPair maxPoints points out a b = out ++ [points[a]!] ++ [points[b]!] :=
      if_pos ⟨hne,hfull⟩
    rw [hpair]
    exact upto_push _ _
  · have hpair : appendPair maxPoints points out a b = out ++ [points[a]!] :=
      if_neg fun h => hfull h.2
    rw [hpair,if_pos (Nat.not_lt.1 hfull)]
    refine ⟨by rw [length_append]; omega,?_⟩
    exact (take_append_of_le_length (Nat.not_lt.1 hfull)).symm

theorem m4Buckets_upto (num : α → Option ℚ) (hmax : 0 < maxPoints) (hk : 0 < k) (hle : k ≤ points.length) :
    Upto maxPoints (selected (m4Row num points) k points) (m4Buckets num maxPoints k points) := by
  have h : Upto maxPoints
      ([] ++ (bucketRanges points.length k).flatMap fun p => (m4Row num points p).map (points[·]!))
      (m4Buckets num maxPoints k points) := by
    refine upto_foldlM (fun out p hp hroom => ?_) hmax
    have hin := (tiles_bucketRanges hk hle).1.mem hp
    rw [if_neg (by omega)]
    exact upto_appendUntil hroom
  simpa only [selected,map_flatMap,nil_append] using h

theorem minmaxBuckets_upto (num : α → Option ℚ) (hmax : 0 < maxPoints) (hk : 0 < k) (hle : k ≤ points.length) :
    Upto maxPoints (selected (minmaxRow num points) k points) (minmaxBuckets num maxPoints k points) := by
  have h : Upto maxPoints
      ([] ++ (bucketRanges points.length k).flatMap fun p => (minmaxRow num points p).map (points[·]!))
      (minmaxBuckets num maxPoints k points) := by
    refine upto_foldlM (fun out p hp hroom => ?_) hmax
    have hin := (tiles_bucketRanges hk hle).1.mem hp
    rw [if_neg (by omega),minmaxRow_eq]
    simp only [extrema_eq]
    generalize minIndex num points (p.1,p.2) = i
    generalize maxIndex num points (p.1,p.2) = j
    by_cases hij : i = j
    · subst hij
      simpa [appendPair] using upto_push out points[i]!
    · by_cases hle' : i ≤ j
      · rw [if_neg hij,if_pos hle',if_pos hle']
        exact upto_appendPair (Ne.symm hij)
      · rw [if_neg hij,if_neg hle',if_neg hle']
        exact upto_appendPair hij
  simpa only [selected,map_flatMap,nil_append] using h

end ExperimentControl.Decimation

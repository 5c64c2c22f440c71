import ExperimentControl.Decimation.Loops

/-!
The decimators of `utils/trace_processing.py` as they work on whole arrays, with what they use of
numpy, and that they give what the loops give. A trace with a NaN goes to the loops.
-/

namespace ExperimentControl.Decimation
open Lib List

section
variable {α : Type}

/-- `op` over the slice from `start` to `stop` -/
def reduceSlice [Inhabited α] (op : α → α → α) (points : List α) (start stop : Nat) : α :=
  (List.range' (start+1) (stop-(start+1))).foldl (fun v i => op v points[i]!) points[start]!

/-- `op.reduceat(points, starts)` -/
def reduceat [Inhabited α] (op : α → α → α) (points : List α) : List Nat → List α
  | [] => []
  | [start] => [reduceSlice op points start points.length]
  | start :: next :: rest =>
    (if start < next then reduceSlice op points start next else points[start]!) ::
      reduceat op points (next :: rest)

/-- `np.repeat` -/
def repeatEach (values : List α) (sizes : List Nat) : List α :=
  (values.zip sizes).flatMap fun p => List.replicate p.2 p.1

def flatnonzero (mask : List Bool) : List Nat :=
  (List.range mask.length).filter fun i => mask[i]! = true

/-- `np.searchsorted`, in an ascending list -/
def searchsorted (sorted : List Nat) (v : Nat) : Nat := (sorted.takeWhile (· < v)).length

end

section
variable {α : Type} [Inhabited α] (num : α → Option ℚ)

def minimum (a b : α) : α := if less (num b) (num a) then b else a

def maximum (a b : α) : α := if less (num a) (num b) then b else a

/-- `hits[np.searchsorted(hits, starts)]`, of the samples that equal the extremum of their bucket -/
def hitIndices (points : List α) (starts sizes : List Nat) (extremum : List α) : List Nat :=
  let hits := flatnonzero (List.zipWith (fun v e => equal (num v) (num e)) points
    (repeatEach extremum sizes))
  starts.map fun start => hits[searchsorted hits start]!

def bucketExtremaIndices (points : List α) (bucketCount : Nat) :
    List Nat × List Nat × List Nat × List Nat :=
  let n := points.length
  let starts := (List.range bucketCount).map fun i => i*n/bucketCount
  let stops := starts.tail ++ [n]
  let sizes := List.zipWith (· - ·) stops starts
  let segMin := reduceat (minimum num) points starts
  let segMax := reduceat (maximum num) points starts
  (starts,hitIndices num points starts sizes segMin,hitIndices num points starts sizes segMax,
    stops.map (· - 1))

def decimateTraceM4 (points : List α) (maxPoints : Nat) : List α :=
  let bucketCount := max 1 (min (maxPoints/4) points.length)
  if !points.all (fun v => (num v).isSome) then m4Loop num points maxPoints
  else
    let (first,mins,maxs,last) := bucketExtremaIndices num points bucketCount
    let rows := (first.zip (mins.zip (maxs.zip last))).map fun (a,b,c,d) =>
      [a,b,c,d].insertionSort (· ≤ ·)
    ((rows.flatMap keepChanged).map (points[·]!)).take maxPoints

def decimateTraceMinmax (points : List α) (maxPoints : Nat) : List α :=
  let bucketCount := max 1 (min (maxPoints/2) points.length)
  if !points.all (fun v => (num v).isSome) then minmaxLoop num points maxPoints
  else
    let (_,mins,maxs,_) := bucketExtremaIndices num points bucketCount
    let rows := (mins.zip maxs).map fun (a,b) => if a ≠ b then [min a b,max a b] else [min a b]
    ((rows.flatMap id).map (points[·]!)).take maxPoints

end

section
variable {α : Type} [Inhabited α] {points : List α} {a : Nat} {l : List (Nat × Nat)}

theorem reduceat_tiles (op : α → α → α) (h : Tiles a l points.length) :
    reduceat op points (l.map Prod.fst) = l.map fun p => reduceSlice op points p.1 p.2 := by
  generalize hn : points.length = n at h
  induction h with
  | nil a => rfl
  | @cons a m b l hlt hrest ih =>
    cases hrest with
    | nil => simp [reduceat,hn]
    | @cons _ m' _ l hlt' hrest =>
      rw [map_cons,map_cons,reduceat,if_pos hlt]
      exact congrArg _ (ih hn)

theorem stops_tiles {b : Nat} (h : Tiles a l b) (hne : l ≠ []) :
    (l.map Prod.fst).tail ++ [b] = l.map Prod.snd := by
  induction h with
  | nil a => exact absurd rfl hne
  | @cons a m b l hlt hrest ih =>
    cases hrest with
    | nil => rfl
    | @cons _ m' _ l hlt' hrest =>
      have htail := ih (by simp)
      simp only [map_cons,tail_cons,cons_append] at htail ⊢
      rw [htail]

omit [Inhabited α] in
theorem repeatEach_tiles (f : Nat × Nat → α) (l : List (Nat × Nat)) :
    repeatEach (l.map f) (l.map fun p => p.2-p.1) = Tiles.spread f l := by
  rw [repeatEach,zip_map',flatMap_map]
  rfl

theorem hit_from {p : Nat → Bool} {n s i : Nat} (hs : s ≤ i) (hi : i < n) (hp : p i = true)
    (hfirst : ∀ j, s ≤ j → j < i → p j = false) :
    ((List.range n).filter p)[searchsorted ((List.range n).filter p) s]! = i := by
  have hsplit : List.range n =
      List.range' 0 s ++ (List.range' s (i-s) ++ i :: List.range' (i+1) (n-(i+1))) := by
    rw [← range'_succ,range_eq_range',show n = s+((i-s)+(n-(i+1)+1)) by omega,
      ← range'_append_1,← range'_append_1]
    congr 3 <;> omega
  have hnone : (List.range' s (i-s)).filter p = [] := by
    rw [filter_eq_nil_iff]
    intro j hj
    rw [mem_range'_1] at hj
    simp [hfirst j hj.1 (by omega)]
  have hbelow : ∀ j ∈ (List.range' 0 s).filter p, decide (j < s) = true := by
    intro j hj
    have := (mem_range'_1.1 (mem_filter.1 hj).1).2
    simpa using this
  have hhits : (List.range n).filter p = (List.range' 0 s).filter p ++
      i :: (List.range' (i+1) (n-(i+1))).filter p := by
    rw [hsplit,filter_append,filter_append,hnone,filter_cons_of_pos hp,nil_append]
  rw [hhits,searchsorted,takeWhile_append_of_pos hbelow,
    takeWhile_cons_of_neg (by simpa using hs),append_nil]
  simp

end

variable {α : Type} [Inhabited α] {num : α → Option ℚ} {points : List α}

theorem reduceSlice_minimum (p : Nat × Nat) :
    reduceSlice (minimum num) points p.1 p.2 = points[minIndex num points p]! := by
  unfold reduceSlice minIndex leastIndex
  generalize List.range' (p.1+1) (p.2-(p.1+1)) = l
  generalize p.1 = i
  induction l generalizing i with
  | nil => rfl
  | cons a rest ih =>
    rw [foldl_cons,foldl_cons,← ih]
    exact congrArg (fun v => rest.foldl _ v) (apply_ite (fun i => points[i]!) _ a i).symm

theorem reduceSlice_maximum (p : Nat × Nat) :
    reduceSlice (maximum num) points p.1 p.2 = points[maxIndex num points p]! := by
  unfold reduceSlice maxIndex leastIndex
  simp only [less_negated]
  generalize List.range' (p.1+1) (p.2-(p.1+1)) = l
  generalize p.1 = i
  induction l generalizing i with
  | nil => rfl
  | cons a rest ih =>
    rw [foldl_cons,foldl_cons,← ih]
    exact congrArg (fun v => rest.foldl _ v) (apply_ite (fun i => points[i]!) _ a i).symm

def FirstHit (num : α → Option ℚ) (points : List α) (p : Nat × Nat) (i : Nat) : Prop :=
  p.1 ≤ i ∧ i < p.2 ∧ equal (numAt num points i) (numAt num points i) = true ∧
    ∀ j, p.1 ≤ j → j < i → equal (numAt num points j) (numAt num points i) = false

theorem hitIndices_tiles {l : List (Nat × Nat)} (h : Tiles 0 l points.length) {g : Nat × Nat → Nat}
    (hg : ∀ p ∈ l, FirstHit num points p (g p)) :
    hitIndices num points (l.map Prod.fst) (l.map fun p => p.2-p.1) (l.map fun p => points[g p]!) =
      l.map g := by
  unfold hitIndices
  rw [repeatEach_tiles (fun p => points[g p]!) l,map_map]
  refine map_congr_left fun p hp => ?_
  obtain ⟨hfrom,hto,hhere,hfirst⟩ := hg p hp
  have hend := (h.mem hp).2.2
  have hlength := h.length_spread fun p => points[g p]!
  have hmask : ∀ i, p.1 ≤ i → i < p.2 → (List.zipWith (fun v e => equal (num v) (num e)) points
      (Tiles.spread (fun p => points[g p]!) l))[i]! =
        equal (numAt num points i) (numAt num points (g p)) := by
    intro i hi hlt
    have hin : i < points.length := by omega
    have hspread := h.getElem?_spread (fun p => points[g p]!) hp hi hlt
    rw [Nat.sub_zero] at hspread
    rw [getElem!_def,getElem?_zipWith,hspread,getElem?_eq_getElem hin]
    simp [numAt,getElem!_pos,hin]
  simp only [Function.comp_apply,flatnonzero,length_zipWith,hlength,Nat.sub_zero,Nat.min_self]
  refine hit_from hfrom (by omega) ?_ fun j hj hlt => ?_
  · rw [hmask _ hfrom hto,hhere]
    rfl
  · rw [hmask j hj (by omega),hfirst j hj hlt]
    rfl

theorem firstHit_extrema (hfinite : ∀ i < points.length, (numAt num points i).isSome = true)
    {p : Nat × Nat} (hlt : p.1 < p.2) (hle : p.2 ≤ points.length) :
    FirstHit num points p (minIndex num points p) ∧ FirstHit num points p (maxIndex num points p) := by
  -- one argument for the trace and for its negative
  have hhit : ∀ f : Nat → Option ℚ, (∀ i < points.length, (f i).isSome = true) →
      let i := leastIndex f p.1 p.2
      p.1 ≤ i ∧ i < p.2 ∧ equal (f i) (f i) = true ∧
        ∀ j, p.1 ≤ j → j < i → equal (f j) (f i) = false := by
    intro f hf
    obtain ⟨x,hx⟩ := Option.isSome_iff_exists.1 (hf p.1 (by omega))
    obtain ⟨y,hfrom,hto,hhere,-,hfirst⟩ := firstLeast_leastIndex hlt hx
    refine ⟨hfrom,hto,by simp [equal,hhere],fun j hj hji => ?_⟩
    obtain ⟨z,hz⟩ := Option.isSome_iff_exists.1 (hf j (by omega))
    have hne := (hfirst j z hj hji hz).ne'
    simp [equal,hhere,hz,hne]
  refine ⟨hhit _ hfinite,?_⟩
  have hmax := hhit (fun i => negated (numAt num points i)) fun i hi => by
    simpa [negated] using hfinite i hi
  simp only [equal_negated] at hmax
  exact hmax

theorem bucketExtremaIndices_eq {k : Nat} (hk : 0 < k) (hle : k ≤ points.length)
    (hfinite : ∀ i < points.length, (numAt num points i).isSome = true) :
    let l := bucketRanges points.length k
    bucketExtremaIndices num points k =
      (l.map Prod.fst,l.map (minIndex num points),l.map (maxIndex num points),l.map fun p => p.2-1) := by
  obtain ⟨h,hranges⟩ := tiles_bucketRanges hk hle
  have hstarts : ((List.range k).map fun i => i*points.length/k) =
      (bucketRanges points.length k).map Prod.fst := by
    rw [hranges,map_map]
    rfl
  have hne : bucketRanges points.length k ≠ [] := by
    rw [hranges]
    simpa using hk.ne'
  have hhits : ∀ p ∈ bucketRanges points.length k, _ := fun p hp =>
    firstHit_extrema hfinite (h.mem hp).2.1 (h.mem hp).2.2
  simp only [bucketExtremaIndices,hstarts,stops_tiles h hne,reduceat_tiles _ h]
  generalize bucketRanges points.length k = l at h hhits
  have hsizes : List.zipWith (· - ·) (l.map Prod.snd) (l.map Prod.fst) = l.map fun p => p.2-p.1 := by
    rw [zipWith_map,zipWith_self]
  simp only [hsizes,reduceSlice_minimum,reduceSlice_maximum,map_map]
  rw [hitIndices_tiles h fun p hp => (hhits p hp).1,hitIndices_tiles h fun p hp => (hhits p hp).2]
  rfl

theorem decimateTraceM4_eq {maxPoints : Nat} (hmax : 0 < maxPoints) (hne : 0 < points.length)
    (hfinite : ∀ i < points.length, (numAt num points i).isSome = true)
    (hall : points.all (fun v => (num v).isSome) = true) :
    decimateTraceM4 num points maxPoints = m4Loop num points maxPoints := by
  have hk : 0 < max 1 (min (maxPoints/4) points.length) := by omega
  have hle : max 1 (min (maxPoints/4) points.length) ≤ points.length := by omega
  rw [m4Loop,finish_of_upto (m4Buckets_upto num hmax hk hle),decimateTraceM4]
  simp only [hall,bucketExtremaIndices_eq hk hle hfinite,Bool.not_true,Bool.false_eq_true,if_false]
  refine congrArg (fun is : List Nat => (is.map (points[·]!)).take maxPoints) ?_
  rw [zip_map',zip_map',zip_map',map_map,flatMap_map]
  refine flatMap_congr fun p _ => ?_
  rw [m4Row_eq]
  exact keepChanged_sorted _

theorem decimateTraceMinmax_eq {maxPoints : Nat} (hmax : 0 < maxPoints) (hne : 0 < points.length)
    (hfinite : ∀ i < points.length, (numAt num points i).isSome = true)
    (hall : points.all (fun v => (num v).isSome) = true) :
    decimateTraceMinmax num points maxPoints = minmaxLoop num points maxPoints := by
  have hk : 0 < max 1 (min (maxPoints/2) points.length) := by omega
  have hle : max 1 (min (maxPoints/2) points.length) ≤ points.length := by omega
  rw [minmaxLoop,finish_of_upto (minmaxBuckets_upto num hmax hk hle),decimateTraceMinmax]
  simp only [hall,bucketExtremaIndices_eq hk hle hfinite,Bool.not_true,Bool.false_eq_true,if_false]
  refine congrArg (fun is : List Nat => (is.map (points[·]!)).take maxPoints) ?_
  rw [zip_map',map_map,flatMap_map]
  refine flatMap_congr fun p _ => ?_
  rw [minmaxRow_eq]
  simp only [Function.comp_apply,id]
  generalize minIndex num points p = i
  generalize maxIndex num points p = j
  by_cases hij : i = j
  · simp [hij]
  · by_cases hle' : i ≤ j
    · simp [hij,hle']
    · simp [hij,hle',Nat.le_of_lt (Nat.not_le.1 hle')]

/-- On a finite trace that has to be cut, the decimators give what the loops give, and so do those of
the stream analysis from four points on. -/
theorem decimators_eq_loops {maxPoints : Nat} (hfinite : ∀ v ∈ points, (num v).isSome = true)
    (hmax : 1 ≤ maxPoints) (hlt : maxPoints < points.length) :
    decimateTraceM4 num points maxPoints = m4Loop num points maxPoints ∧
    decimateTraceMinmax num points maxPoints = minmaxLoop num points maxPoints ∧
    (4 ≤ maxPoints → streamM4 num points maxPoints = m4Loop num points maxPoints ∧
      streamMinmax num points maxPoints = minmaxLoop num points maxPoints) := by
  have hall : points.all (fun v => (num v).isSome) = true := all_eq_true.2 hfinite
  have hat : ∀ i < points.length, (numAt num points i).isSome = true := by
    intro i hi
    rw [numAt,getElem!_pos points i hi]
    exact hfinite _ (getElem_mem hi)
  refine ⟨decimateTraceM4_eq hmax (by omega) hat hall,decimateTraceMinmax_eq hmax (by omega) hat hall,
    fun hfour => ?_⟩
  have hbuckets : max 1 (maxPoints/4) = maxPoints/4 ∧ max 1 (maxPoints/2) = maxPoints/2 := by omega
  have hk4 : 0 < max 1 (min (maxPoints/4) points.length) ∧
    max 1 (min (maxPoints/4) points.length) ≤ points.length := by omega
  have hk2 : 0 < max 1 (min (maxPoints/2) points.length) ∧
    max 1 (min (maxPoints/2) points.length) ≤ points.length := by omega
  constructor
  · have h := m4Buckets_upto num hmax hk4.1 hk4.2
    rw [streamM4,m4Loop,hbuckets.1,written_of_upto h,finish_of_upto h]
  · have h := minmaxBuckets_upto num hmax hk2.1 hk2.2
    rw [streamMinmax,minmaxLoop,hbuckets.2,written_of_upto h,finish_of_upto h]

theorem decimators_eq_loops_five : decimateTraceM4 some [3,1,2,1,2] 4 = m4Loop some [3,1,2,1,2] 4 ∧
    decimateTraceMinmax some [3,1,2,1,2] 4 = minmaxLoop some [3,1,2,1,2] 4 ∧
    (4 ≤ 4 → streamM4 some [3,1,2,1,2] 4 = m4Loop some [3,1,2,1,2] 4 ∧
      streamMinmax some [3,1,2,1,2] 4 = minmaxLoop some [3,1,2,1,2] 4) :=
  decimators_eq_loops (by simp) (by decide) (by decide)

end ExperimentControl.Decimation

import ExperimentControl.Decimation.Vectors

/-!
Decimation by a stride, in `utils/trace_processing.py`, in `processes/stream_analysis.py` and in its
snapshots: when the end of the trace is kept. What the mean of a bucket is does not matter here.
-/

namespace ExperimentControl.Decimation
open Lib List

section
variable {α : Type} [Inhabited α] (num : α → Option ℚ) (mean : List α → α)

/-- `max(1, ceil(n/max_points))` -/
def strideStep (n maxPoints : Nat) : Nat := max 1 ((n+maxPoints-1)/maxPoints)

/-- How many points `points[::step]` has. -/
def strideCount (n step : Nat) : Nat := (n+step-1)/step

/-- `points[::step]` -/
def strided (points : List α) (step : Nat) : List α :=
  (List.range (strideCount points.length step)).map fun i => points[i*step]!

def withEnd (points out : List α) : List α :=
  if !out.isEmpty && !equal (num out.getLast!) (num points.getLast!) then out ++ [points.getLast!]
  else out

def stridedToEnd (points : List α) (maxPoints : Nat) : List α :=
  withEnd num points (strided points (strideStep points.length maxPoints))

def decimateTraceStride (points : List α) (maxPoints : Nat) : List α :=
  (stridedToEnd num points maxPoints).take maxPoints

/-- `stream_analysis._decimate_trace_stride` -/
def streamStride (points : List α) (targetPoints : Nat) : List α :=
  (stridedToEnd num points targetPoints).take targetPoints

/-- `_decimate_snapshot_trace`, of an array -/
def decimateSnapshotTrace (trace : List α) (maxPoints : Nat) : List α :=
  if trace.length ≤ maxPoints then trace
  else
    let decimated := stridedToEnd num trace maxPoints
    if maxPoints < decimated.length then decimated.take maxPoints else decimated

def bucketMeans (points : List α) (bucketCount : Nat) : List α :=
  ((bucketRanges points.length bucketCount).filter fun p => p.1 < p.2).map fun p =>
    mean ((points.drop p.1).take (p.2-p.1))

def decimateTraceMean (points : List α) (maxPoints : Nat) : List α :=
  (bucketMeans mean points (max 1 (min maxPoints points.length))).take maxPoints

/-- What `parse_trace_decimator` knows. -/
inductive Method where
  | stride | mean | m4 | minmax
  deriving DecidableEq

/-- `decimate_trace_values`, of a list of floats: one with a NaN is given back as it is. -/
def decimateTraceValues (values : List α) (mode : Method) (maxPoints : Nat) : List α :=
  if !values.all (fun v => (num v).isSome) then values
  else if maxPoints = 0 ∨ values.length ≤ maxPoints then values
  else match mode with
    | .stride => decimateTraceStride num values maxPoints
    | .mean => decimateTraceMean mean values maxPoints
    | .m4 => decimateTraceM4 num values maxPoints
    | .minmax => decimateTraceMinmax num values maxPoints

def KeepsEnds (points out : List α) : Prop :=
  out.head? = points.head? ∧ out.getLast?.map num = points.getLast?.map num

instance [DecidableEq α] (points out : List α) : Decidable (KeepsEnds num points out) :=
  inferInstanceAs (Decidable (_ ∧ _ = _))

/-- The limit holds in every mode, and all strides keep the ends. -/
def HonoursLimit (points : List α) (maxPoints : Nat) : Prop :=
  (∀ mode, (decimateTraceValues num mean points mode maxPoints).length ≤ maxPoints) ∧
  KeepsEnds num points (decimateTraceStride num points maxPoints) ∧
  KeepsEnds num points (streamStride num points maxPoints) ∧
  KeepsEnds num points (decimateSnapshotTrace num points maxPoints)

/-- The slice leaves room for the last point, or ends with its value. -/
def EndFits (points : List α) (maxPoints : Nat) : Prop :=
  let step := strideStep points.length maxPoints
  let count := strideCount points.length step
  count < maxPoints ∨ num points[(count-1)*step]! = num points[points.length-1]!

end

theorem strideCount_bounds {n maxPoints : Nat} (hn : 0 < n) (hmax : 0 < maxPoints) :
    0 < strideCount n (strideStep n maxPoints) ∧
    strideCount n (strideStep n maxPoints) ≤ maxPoints ∧
    (strideCount n (strideStep n maxPoints)-1)*strideStep n maxPoints < n := by
  have hstep : 0 < strideStep n maxPoints := by unfold strideStep; omega
  have hceil : n ≤ maxPoints*strideStep n maxPoints := by
    have hmod := Nat.div_add_mod (n+maxPoints-1) maxPoints
    have hlt := Nat.mod_lt (n+maxPoints-1) hmax
    have hle : (n+maxPoints-1)/maxPoints ≤ strideStep n maxPoints := Nat.le_max_right _ _
    have := Nat.mul_le_mul_left maxPoints hle
    omega
  generalize strideStep n maxPoints = step at hstep hceil
  have hmod := Nat.div_add_mod (n+step-1) step
  have hlt := Nat.mod_lt (n+step-1) hstep
  unfold strideCount
  have hcount : 0 < (n+step-1)/step := Nat.div_pos (by omega) hstep
  refine ⟨hcount,?_,?_⟩
  · refine Nat.lt_succ_iff.1 ((Nat.div_lt_iff_lt_mul hstep).2 ?_)
    rw [Nat.succ_mul]
    omega
  · rw [Nat.sub_mul,one_mul,Nat.mul_comm]
    omega

variable {α : Type} [Inhabited α] {num : α → Option ℚ} {mean : List α → α} {points : List α}
  {maxPoints : Nat}

theorem length_strided (points : List α) (step : Nat) :
    (strided points step).length = strideCount points.length step := by
  simp [strided]

theorem strided_ends {step : Nat} (hcount : 0 < strideCount points.length step)
    (hin : (strideCount points.length step-1)*step < points.length) :
    (strided points step).head? = points.head? ∧
    (strided points step).getLast? = some points[(strideCount points.length step-1)*step]! := by
  obtain ⟨c,hc⟩ := Nat.exists_eq_succ_of_ne_zero hcount.ne'
  have hpoints : 0 < points.length := by omega
  constructor
  · rw [strided,hc,range_succ_eq_map,map_cons,head?_cons,Nat.zero_mul,
      head?_eq_getElem?,getElem?_eq_getElem hpoints,getElem!_pos points 0 hpoints]
  · rw [strided,hc,range_succ,map_append,map_singleton,getLast?_concat,Nat.succ_sub_one]

theorem getLast!_points (h : 0 < points.length) :
    points.getLast! = points[points.length-1]! ∧ points.getLast? = some points[points.length-1]! := by
  have hin : points.length-1 < points.length := by omega
  have hlast : points.getLast? = some points[points.length-1]! := by
    rw [getLast?_eq_getElem?,getElem?_eq_getElem hin,getElem!_pos points _ hin]
  exact ⟨by rw [List.getLast!_eq_getLast?_getD,hlast]; rfl,hlast⟩

theorem keepsEnds_stride_iff (hfinite : ∀ v ∈ points, (num v).isSome = true) (hmax : 0 < maxPoints)
    (hn : 0 < points.length) :
    KeepsEnds num points (decimateTraceStride num points maxPoints) ↔ EndFits num points maxPoints := by
  obtain ⟨hpos,hle,hin⟩ := strideCount_bounds hn hmax
  obtain ⟨hhead,hlast⟩ := strided_ends hpos hin
  have hlength := length_strided points (strideStep points.length maxPoints)
  obtain ⟨hend!,hend⟩ := getLast!_points hn
  unfold KeepsEnds EndFits decimateTraceStride stridedToEnd withEnd
  dsimp only
  generalize hout : strided points (strideStep points.length maxPoints) = out at *
  generalize strideStep points.length maxPoints = step at *
  generalize strideCount points.length step = count at *
  have hne : out ≠ [] := by
    rintro rfl
    simp at hlength
    omega
  have hout! : out.getLast! = points[(count-1)*step]! := by
    rw [List.getLast!_eq_getLast?_getD,hlast]
    rfl
  have hnum : ∀ i < points.length, ∃ x, num points[i]! = some x := by
    intro i hi
    rw [getElem!_pos points i hi]
    exact Option.isSome_iff_exists.1 (hfinite _ (getElem_mem hi))
  obtain ⟨x,hx⟩ := hnum _ hin
  obtain ⟨y,hy⟩ := hnum (points.length-1) (by omega)
  clear hnum
  rw [hout!,hend!,hx,hy]
  generalize points[(count-1)*step]! = v at *
  generalize points[points.length-1]! = w at *
  simp only [isEmpty_eq_false_iff.2 hne,Bool.not_false,Bool.true_and]
  by_cases hxy : x = y
  · rw [if_neg (by simp [equal,hxy]),take_of_length_le (by omega)]
    simp [hhead,hlast,hend,hx,hy,hxy]
  · rw [if_pos (by simp [equal,hxy])]
    by_cases hroom : count < maxPoints
    · rw [take_of_length_le (by rw [length_append,length_singleton]; omega),
        getLast?_concat,head?_append,hhead]
      simp [hroom,hend,head?_eq_getElem?,getElem?_eq_getElem hn]
    · rw [take_append_of_le_length (by omega),take_of_length_le (by omega)]
      simp [hroom,hlast,hend,hx,hy,hxy]

theorem snapshot_eq_stride (hlt : maxPoints < points.length) :
    decimateSnapshotTrace num points maxPoints = decimateTraceStride num points maxPoints := by
  rw [decimateSnapshotTrace,if_neg (by omega),decimateTraceStride]
  dsimp only
  split
  · rfl
  · rename_i hle
    exact (take_of_length_le (Nat.not_lt.1 hle)).symm

theorem length_decimateTraceValues (hfinite : ∀ v ∈ points, (num v).isSome = true)
    (hmax : 0 < maxPoints) (hlt : maxPoints < points.length) (mode : Method) :
    (decimateTraceValues num mean points mode maxPoints).length ≤ maxPoints := by
  have hall : points.all (fun v => (num v).isSome) = true := all_eq_true.2 hfinite
  unfold decimateTraceValues
  rw [hall,if_neg (by simp),if_neg (by omega)]
  cases mode with
  | stride => exact length_take_le _ _
  | mean => exact length_take_le _ _
  | m4 =>
    simp only [decimateTraceM4,hall,Bool.not_true,Bool.false_eq_true,if_false]
    exact length_take_le _ _
  | minmax =>
    simp only [decimateTraceMinmax,hall,Bool.not_true,Bool.false_eq_true,if_false]
    exact length_take_le _ _

/-- Of a trace that has to be cut, the limit and the ends are kept exactly if its values are finite
and its end fits. -/
theorem honoursLimit_iff (points : List α) {maxPoints : Nat} (hmax : 2 ≤ maxPoints)
    (hlt : maxPoints < points.length) : HonoursLimit num mean points maxPoints ↔
      (∀ v ∈ points, (num v).isSome = true) ∧ EndFits num points maxPoints := by
  constructor
  · rintro ⟨hlimit,hstride,-⟩
    have hfinite : ∀ v ∈ points, (num v).isSome = true := by
      by_contra hnan
      have hvalues : decimateTraceValues num mean points .stride maxPoints = points := by
        rw [decimateTraceValues,if_pos]
        simpa [all_eq_true] using hnan
      have := hlimit .stride
      rw [hvalues] at this
      omega
    exact ⟨hfinite,(keepsEnds_stride_iff hfinite (by omega) (by omega)).1 hstride⟩
  · rintro ⟨hfinite,hfits⟩
    have hkeeps := (keepsEnds_stride_iff hfinite (by omega) (by omega)).2 hfits
    refine ⟨length_decimateTraceValues hfinite (by omega) hlt,hkeeps,hkeeps,?_⟩
    rw [snapshot_eq_stride hlt]
    exact hkeeps

theorem honoursLimit_five_iff : HonoursLimit some List.sum [0,1,2,3,5] 4 ↔
    (∀ v ∈ ([0,1,2,3,5] : List ℚ), (some v).isSome = true) ∧ EndFits some ([0,1,2,3,5] : List ℚ) 4 :=
  honoursLimit_iff _ (by decide) (by decide)

/-- The two points of the slice fill the limit, and the end is cut. -/
theorem end_of_four_cut : ¬ HonoursLimit some List.sum ([0,1,2,3] : List ℚ) 2 := by
  intro h
  exact absurd h.2.1 (by decide +kernel)

end ExperimentControl.Decimation

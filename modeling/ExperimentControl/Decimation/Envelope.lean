import ExperimentControl.Decimation.Strides

/-!
`trace.decimate` of a workspace (`execute_trace_decimate`), and when the envelope that it shows has
the extremes of a trace with NaN samples in it.
-/

namespace ExperimentControl.Decimation
open Lib List

section
variable {α : Type} [Inhabited α] (num : α → Option ℚ) (mean : List α → α)

def validateTraceDecimateParams (method : Method) (targetPoints : Option Int) :
    Except String (Method × Nat) :=
  match targetPoints with
  | none => .error "trace.decimate requires target_points > 0"
  | some t =>
    if t ≤ 0 then .error "trace.decimate requires target_points > 0"
    else .ok (method,(max 4 (min 200000 t)).toNat)

/-- `stream_analysis._decimate_trace_mean`, in which the output is not cut -/
def streamMean (points : List α) (targetPoints : Nat) : List α :=
  bucketMeans mean points (max 1 (min targetPoints points.length))

def decimateTrace (points : List α) (method : Method) (targetPoints : Nat) : List α :=
  match method with
  | .stride => streamStride num points targetPoints
  | .mean => streamMean mean points targetPoints
  | .m4 => streamM4 num points targetPoints
  | .minmax => streamMinmax num points targetPoints

/-- `execute_trace_decimate`, of what `_coerce_trace` makes of the input and with the method and the
number of points that the parameters give -/
def executeTraceDecimate (trace : Option (List α)) (method : Method) (targetPoints : Option Int) :
    Except String (Option (List α)) :=
  match trace with
  | none => .ok none
  | some points => do
    let (method,target) ← validateTraceDecimateParams method targetPoints
    if points.length = 0 ∨ points.length ≤ target then .ok (some points)
    else .ok (some (decimateTrace num mean points method target))

def Largest (points : List α) (x : ℚ) : Prop :=
  (∃ v ∈ points, num v = some x) ∧ ∀ v ∈ points, ∀ y, num v = some y → y ≤ x

def Smallest (points : List α) (x : ℚ) : Prop :=
  (∃ v ∈ points, num v = some x) ∧ ∀ v ∈ points, ∀ y, num v = some y → x ≤ y

/-- The output is a part of the trace with no more than `limit` samples, and has its extremes. -/
structure Envelopes (points out : List α) (limit : Nat) : Prop where
  part : out.Sublist points
  limited : out.length ≤ limit
  largest : ∀ x, Largest num points x → ∃ v ∈ out, num v = some x
  smallest : ∀ x, Smallest num points x → ∃ v ∈ out, num v = some x

def bucketCount (method : Method) (target n : Nat) : Nat :=
  max 1 (min (max 1 (target/(if method = .m4 then 4 else 2))) n)

/-- The number stands in a bucket that does not begin with NaN, or, in `m4`, at the end of one. -/
def Visible (method : Method) (target : Nat) (points : List α) (x : ℚ) : Prop :=
  ∃ p ∈ bucketRanges points.length (bucketCount method target points.length),
    (numAt num points p.1 ≠ none ∧ ∃ i, p.1 ≤ i ∧ i < p.2 ∧ numAt num points i = some x) ∨
    (method = .m4 ∧ numAt num points (p.2-1) = some x)

def bucketRow (method : Method) (points : List α) : Nat × Nat → List Nat :=
  if method = .m4 then m4Row num points else minmaxRow num points

end

variable {α : Type} [Inhabited α] {num : α → Option ℚ} {points : List α} {p : Nat × Nat}
  {method : Method} {x : ℚ}

theorem mem_bucketRow {i : Nat} : i ∈ bucketRow num method points p ↔
    i = minIndex num points p ∨ i = maxIndex num points p ∨
      (method = .m4 ∧ (i = p.1 ∨ i = p.2-1)) := by
  unfold bucketRow
  split
  · rename_i h
    rw [m4Row_eq,mem_sortedSet]
    simp [h]
    tauto
  · rename_i h
    rw [minmaxRow,mem_sortedSet]
    simp [h]

theorem taken_of_nan (h : numAt num points p.1 = none) :
    (∃ i ∈ bucketRow num method points p, numAt num points i = some x) ↔
      method = .m4 ∧ numAt num points (p.2-1) = some x := by
  have hmin : minIndex num points p = p.1 := leastIndex_of_nan h
  have hmax : maxIndex num points p = p.1 := leastIndex_of_nan (by rw [h]; rfl)
  constructor
  · rintro ⟨i,hi,hx⟩
    rw [mem_bucketRow,hmin,hmax] at hi
    have hne : i ≠ p.1 := by
      rintro rfl
      rw [h] at hx
      cases hx
    obtain ⟨hm,rfl⟩ : method = .m4 ∧ i = p.2-1 := by tauto
    exact ⟨hm,hx⟩
  · rintro ⟨hm,hx⟩
    exact ⟨p.2-1,mem_bucketRow.2 (.inr (.inr ⟨hm,.inr rfl⟩)),hx⟩

theorem taken_of_extreme (hlt : p.1 < p.2) (hle : p.2 ≤ points.length)
    (h : numAt num points p.1 ≠ none) (hx : Largest num points x ∨ Smallest num points x) {i : Nat}
    (hfrom : p.1 ≤ i) (hto : i < p.2) (hi : numAt num points i = some x) :
    ∃ j ∈ bucketRow num method points p, numAt num points j = some x := by
  obtain ⟨z,hz⟩ := Option.ne_none_iff_exists'.1 h
  have hmem : ∀ j < points.length, ∀ y, numAt num points j = some y →
      ∃ v ∈ points, num v = some y := by
    intro j hj y hy
    rw [numAt,getElem!_pos points j hj] at hy
    exact ⟨_,getElem_mem hj,hy⟩
  rcases hx with ⟨-,hbound⟩ | ⟨-,hbound⟩
  · have hneg : negated (numAt num points p.1) = some (-z) := by rw [hz]; rfl
    obtain ⟨y,hy⟩ := firstLeast_leastIndex (f := fun i => negated (numAt num points i)) hlt hneg
    obtain ⟨w,hw,rfl⟩ : ∃ w, numAt num points (maxIndex num points p) = some w ∧ -w = y :=
      Option.map_eq_some_iff.1 hy.here
    have hge : -w ≤ -x := hy.least i (-x) hfrom hto (by simp [negated,hi])
    obtain ⟨v,hv,hnum⟩ := hmem _ (lt_of_lt_of_le hy.before_stop hle) w hw
    have hle' := hbound v hv w hnum
    refine ⟨_,mem_bucketRow.2 (.inr (.inl rfl)),?_⟩
    rw [hw,le_antisymm hle' (neg_le_neg_iff.1 hge)]
  · obtain ⟨y,hy⟩ := firstLeast_leastIndex (f := numAt num points) hlt hz
    obtain ⟨v,hv,hnum⟩ := hmem _ (lt_of_lt_of_le hy.before_stop hle) y hy.here
    refine ⟨_,mem_bucketRow.2 (.inl rfl),?_⟩
    have hxy := le_antisymm (hy.least i x hfrom hto hi) (hbound v hv y hnum)
    rw [← hxy]
    exact hy.here

theorem bucketRow_in_bucket (hlt : p.1 < p.2) :
    ∀ i ∈ bucketRow num method points p, p.1 ≤ i ∧ i < p.2 := by
  unfold bucketRow
  split
  · exact (rows_in_bucket hlt).1
  · exact (rows_in_bucket hlt).2

theorem length_sortedSet_le (row : List Nat) : (sortedSet row).length ≤ row.length := by
  rw [sortedSet,length_insertionSort]
  exact row.dedup_sublist.length_le

theorem length_bucketRow (p : Nat × Nat) :
    (bucketRow num method points p).length ≤ if method = .m4 then 4 else 2 := by
  unfold bucketRow
  split
  · rw [m4Row_eq]
    exact length_sortedSet_le _
  · exact length_sortedSet_le _

theorem length_flatMap_le {β γ : Type} {row : β → List γ} {c : Nat} (h : ∀ p, (row p).length ≤ c)
    (l : List β) : (l.flatMap row).length ≤ l.length*c := by
  induction l with
  | nil => simp
  | cons p rest ih =>
    rw [flatMap_cons,length_append,length_cons,Nat.succ_mul]
    have := h p
    omega

theorem sublist_of_ascending {is : List Nat} (hasc : is.Pairwise (· < ·))
    (hin : ∀ i ∈ is, i < points.length) : (is.map (points[·]!)).Sublist points := by
  have hfin : (is.attach.map fun i => (⟨i.1,hin i.1 i.2⟩ : Fin points.length)).Pairwise (· < ·) := by
    rw [pairwise_map]
    exact Pairwise.of_map Subtype.val (fun _ _ h => h) (by rwa [attach_map_subtype_val])
  have hsub := map_getElem_sublist hfin
  rw [map_map] at hsub
  refine (congrArg (Sublist · points) ?_).mp hsub
  conv_rhs => rw [← attach_map_subtype_val is,map_map]
  refine map_congr_left fun i _ => ?_
  simp only [Function.comp_apply]
  exact (getElem!_pos points i.1 (hin i.1 i.2)).symm

variable {target : Nat}

omit [Inhabited α] in
theorem bucketCount_bounds (method : Method) {points : List α} (htarget : 4 ≤ target) (hn : 0 < points.length) :
    0 < bucketCount method target points.length ∧
    bucketCount method target points.length ≤ points.length ∧
    bucketCount method target points.length*(if method = .m4 then 4 else 2) ≤ target := by
  unfold bucketCount
  split <;> omega

theorem decimateTrace_eq (num : α → Option ℚ) (mean : List α → α) (hmethod : method = .m4 ∨ method = .minmax)
    (htarget : 4 ≤ target) (hn : 0 < points.length) : decimateTrace num mean points method target =
      selected (bucketRow num method points) (bucketCount method target points.length) points ∧
    (selected (bucketRow num method points) (bucketCount method target points.length) points).length ≤
      target := by
  obtain ⟨hk,hle,hfits⟩ := bucketCount_bounds method htarget hn
  have hlength : (selected (bucketRow num method points)
      (bucketCount method target points.length) points).length ≤ target := by
    rw [selected,length_map]
    refine (length_flatMap_le length_bucketRow _).trans ?_
    rwa [(tiles_bucketRanges hk hle).2,length_map,length_range]
  refine ⟨?_,hlength⟩
  rcases hmethod with rfl | rfl
  · rw [decimateTrace,streamM4,written_of_upto (m4Buckets_upto num (by omega) (by omega) (by omega))]
    exact take_of_length_le hlength
  · rw [decimateTrace,streamMinmax,
      written_of_upto (minmaxBuckets_upto num (by omega) (by omega) (by omega))]
    exact take_of_length_le hlength

theorem mem_selected_iff (htarget : 4 ≤ target) (hn : 0 < points.length)
    (hx : Largest num points x ∨ Smallest num points x) :
    (∃ v ∈ selected (bucketRow num method points) (bucketCount method target points.length) points,
      num v = some x) ↔ Visible num method target points x := by
  obtain ⟨hk,hle,-⟩ := bucketCount_bounds method htarget hn
  have htiles := (tiles_bucketRanges hk hle).1
  have hmem : (∃ v ∈ selected (bucketRow num method points)
      (bucketCount method target points.length) points, num v = some x) ↔
      ∃ p ∈ bucketRanges points.length (bucketCount method target points.length),
        ∃ i ∈ bucketRow num method points p, numAt num points i = some x := by
    simp only [selected,mem_map,mem_flatMap]
    constructor
    · rintro ⟨v,⟨i,⟨p,hp,hi⟩,rfl⟩,hv⟩
      exact ⟨p,hp,i,hi,hv⟩
    · rintro ⟨p,hp,i,hi,hv⟩
      exact ⟨_,⟨i,⟨p,hp,hi⟩,rfl⟩,hv⟩
  rw [hmem]
  refine exists_congr fun p => and_congr_right fun hp => ?_
  have hin := htiles.mem hp
  by_cases hnan : numAt num points p.1 = none
  · rw [taken_of_nan hnan]
    simp [hnan]
  · constructor
    · rintro ⟨i,hi,hv⟩
      have := bucketRow_in_bucket hin.2.1 i hi
      exact .inl ⟨hnan,i,this.1,this.2,hv⟩
    · rintro (⟨-,i,hfrom,hto,hi⟩ | ⟨hm,hlast⟩)
      · exact taken_of_extreme hin.2.1 hin.2.2 hnan hx hfrom hto hi
      · exact ⟨_,mem_bucketRow.2 (.inr (.inr ⟨hm,.inr rfl⟩)),hlast⟩

/-- `trace.decimate` shows an envelope of every trace exactly where nothing is left out or the
extremes are visible. -/
theorem envelopes_iff (mean : List α → α) (points : List α)
    (hmethod : method = .m4 ∨ method = .minmax) {targetPoints : Int} (hpos : 0 < targetPoints) :
    ∃ out, executeTraceDecimate num mean (some points) method (some targetPoints) = .ok (some out) ∧
      (Envelopes num points out (max 4 (min 200000 targetPoints)).toNat ↔
        points.length ≤ (max 4 (min 200000 targetPoints)).toNat ∨
        ∀ x, Largest num points x ∨ Smallest num points x →
          Visible num method (max 4 (min 200000 targetPoints)).toNat points x) := by
  have htarget : 4 ≤ (max 4 (min 200000 targetPoints)).toNat := by omega
  have hexec : executeTraceDecimate num mean (some points) method (some targetPoints) =
      if points.length = 0 ∨ points.length ≤ (max 4 (min 200000 targetPoints)).toNat then
        .ok (some points)
      else .ok (some (decimateTrace num mean points method
        (max 4 (min 200000 targetPoints)).toNat)) := by
    rw [executeTraceDecimate,validateTraceDecimateParams,if_neg (not_le.2 hpos)]
    rfl
  rw [hexec]
  generalize (max 4 (min 200000 targetPoints)).toNat = target at htarget
  by_cases hshort : points.length ≤ target
  · rw [if_pos (.inr hshort)]
    refine ⟨points,rfl,?_⟩
    simp only [hshort,true_or,iff_true]
    exact ⟨Sublist.refl _,hshort,fun x hx => hx.1,fun x hx => hx.1⟩
  · rw [if_neg (by omega)]
    obtain ⟨heq,hlength⟩ := decimateTrace_eq num mean hmethod htarget
      (show 0 < points.length by omega)
    obtain ⟨hk,hle,-⟩ := bucketCount_bounds method htarget (show 0 < points.length by omega)
    have htiles := (tiles_bucketRanges hk hle).1
    refine ⟨_,rfl,?_⟩
    rw [heq]
    simp only [hshort,false_or]
    constructor
    · intro h x hx
      rw [← mem_selected_iff htarget (by omega) hx]
      rcases hx with hx | hx
      · exact h.largest x hx
      · exact h.smallest x hx
    · intro h
      refine ⟨?_,hlength,fun x hx => ?_,fun x hx => ?_⟩
      · refine sublist_of_ascending (htiles.ascending (fun p _ => ?_) fun p hp =>
          bucketRow_in_bucket (htiles.mem hp).2.1) fun i hi => ?_
        · unfold bucketRow
          split
          · rw [m4Row_eq]
            exact ascending_sortedSet _
          · exact ascending_sortedSet _
        · obtain ⟨p,hp,hi⟩ := mem_flatMap.1 hi
          have hin := htiles.mem hp
          have := bucketRow_in_bucket hin.2.1 i hi
          omega
      · exact (mem_selected_iff htarget (by omega) (.inl hx)).2 (h x (.inl hx))
      · exact (mem_selected_iff htarget (by omega) (.inr hx)).2 (h x (.inr hx))

/-- The NaN stands inside the second of two buckets, after the largest number. -/
theorem envelopes_iff_five : ∃ out,
    executeTraceDecimate id (fun _ => none) (some [some 1,some 2,some 9,none,some 3]) .minmax (some 4) =
      .ok (some out) ∧ Envelopes id [some 1,some 2,some 9,none,some 3] out 4 := by
  obtain ⟨out,hout,hiff⟩ := @envelopes_iff (Option ℚ) _ id .minmax (fun _ => none)
    [some 1,some 2,some 9,none,some 3] (.inr rfl) 4 (by decide)
  refine ⟨out,hout,hiff.2 (.inr fun x hx => ?_)⟩
  have hbounds : x = 9 ∨ x = 1 := by
    rcases hx with ⟨⟨v,hv,rfl⟩,hmost⟩ | ⟨⟨v,hv,rfl⟩,hleast⟩
    · have := hmost (some 9) (by simp) 9 rfl
      left
      simp at hv
      rcases hv with rfl | rfl | rfl | rfl <;> first | rfl | (revert this; decide)
    · have := hleast (some 1) (by simp) 1 rfl
      right
      simp at hv
      rcases hv with rfl | rfl | rfl | rfl <;> first | rfl | (revert this; decide)
  rcases hbounds with rfl | rfl
  · exact ⟨(2,5),by decide,.inl ⟨by decide,2,by decide,by decide,rfl⟩⟩
  · exact ⟨(0,2),by decide,.inl ⟨by decide,0,by decide,by decide,rfl⟩⟩

/-- The second of two buckets begins with NaN, and the largest number is in it. -/
theorem largest_hidden_behind_nan : ∃ out,
    executeTraceDecimate id (fun _ => none) (some [some 1,some 2,none,some 9,some 3]) .minmax (some 4) =
      .ok (some out) ∧ ¬ Envelopes id [some 1,some 2,none,some 9,some 3] out 4 := by
  refine ⟨[some 1,some 2,none],by decide +kernel,fun h => ?_⟩
  obtain ⟨v,hv,hnine⟩ := h.largest 9 ⟨by simp,fun v hv y hy => by
    simp only [mem_cons,not_mem_nil,or_false] at hv
    rcases hv with rfl | rfl | rfl | rfl | rfl <;> simp_all <;> subst hy <;> decide⟩
  simp only [mem_cons,not_mem_nil,or_false] at hv
  rcases hv with rfl | rfl | rfl <;> simp at hnine

end ExperimentControl.Decimation

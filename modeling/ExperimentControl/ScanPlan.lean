import ExperimentControl.Lib.Checks
import ExperimentControl.Python.Value
import Mathlib.Data.List.Nodup
import Mathlib.Data.List.Perm.Basic
import Mathlib.Data.List.ProdSigma
import Mathlib.Data.List.Range
import Mathlib.Algebra.Order.Field.Rat
import Mathlib.Data.Prod.Lex
import Mathlib.Algebra.Order.Ring.Cast
import Mathlib.Tactic.Linarith
import Mathlib.Tactic.Ring

/-!
The points of a two-dimensional scan (`scan_plan.py`): the order in which a grid is visited, and the
records of the visits. The numbers of the sort key are halves of integers, and exact.
-/

namespace ExperimentControl.ScanPlan
open Lib Python List

inductive Pattern where
  | raster
  | serpentine
  | random
  | centerOut
  deriving DecidableEq

inductive Order where
  | rowMajor
  | colMajor
  deriving DecidableEq

def validateScan2dPattern (pattern : String) : Except String Pattern :=
  match (strip (if pattern = "" then "serpentine" else pattern)).toLower with
  | "raster" => .ok .raster
  | "serpentine" => .ok .serpentine
  | "random" => .ok .random
  | "center_out" => .ok .centerOut
  | _ => .error "scan2d.pattern must be one of raster/serpentine/random/center_out"

def validateScan2dOrder (order : String) : Except String Order :=
  match (strip (if order = "" then "row_major" else order)).toLower with
  | "row_major" => .ok .rowMajor
  | "col_major" => .ok .colMajor
  | _ => .error "scan2d.order must be one of row_major/col_major"

abbrev Cell := Nat × Nat

def lines (count length : Nat) (cell : Nat → Nat → Cell) : List Cell :=
  (List.range count).flatMap fun line => (List.range length).map (cell line)

def turningLines (count length : Nat) (cell : Nat → Nat → Cell) : List Cell :=
  (List.range count).flatMap fun line =>
    if line%2 = 1 then ((List.range length).map (cell line)).reverse
    else (List.range length).map (cell line)

def coordsOf (xCount yCount : Nat) : Order → List Cell
  | .rowMajor => lines yCount xCount fun row col => (row,col)
  | .colMajor => lines xCount yCount fun col row => (row,col)

def applySerpentine (xCount yCount : Nat) : Order → List Cell
  | .rowMajor => turningLines yCount xCount fun row col => (row,col)
  | .colMajor => turningLines xCount yCount fun col row => (row,col)

def radius2 (xCount yCount : Nat) (cell : Cell) : ℚ :=
  let rowCenter : ℚ := ((yCount : ℚ)-1)/2
  let colCenter : ℚ := ((xCount : ℚ)-1)/2
  let dr := (cell.1 : ℚ)-rowCenter
  let dc := (cell.2 : ℚ)-colCenter
  dr*dr+dc*dc

/-- `_center_out_sort_key`; tuples are compared place by place. -/
def centerOutSortKey (xCount yCount : Nat) (cell : Cell) : ℚ ×ₗ ℕ ×ₗ ℕ :=
  toLex (radius2 xCount yCount cell,toLex (cell.1,cell.2))

/-- `sorted`, which is stable. -/
def sortedCenterOut (xCount yCount : Nat) (coords : List Cell) : List Cell :=
  coords.mergeSort fun a b => centerOutSortKey xCount yCount a ≤ centerOutSortKey xCount yCount b

/-- `numpy.random`: a generator cannot be made from every seed, and its `shuffle` permutes. -/
structure Random where
  Rng : Type
  defaultRng : Option Int → Except String Rng
  shuffle : Rng → (cells : List Cell) → {out : List Cell // out.Perm cells}

structure Record (α : Type) where
  x : α
  y : α
  row : Nat
  col : Nat
  index : Nat
  u : ℚ
  v : ℚ
  count : Nat
  deriving DecidableEq

section
variable {α : Type}

def orderedCoords (np : Random) (xCount yCount : Nat) (pattern : Pattern) (order : Order)
    (seed : Option Int) : Except String (List Cell) :=
  let coords := coordsOf xCount yCount order
  match pattern with
  | .raster => .ok coords
  | .serpentine => .ok (applySerpentine xCount yCount order)
  | .random => do
    let rng ← np.defaultRng seed
    return (np.shuffle rng coords).1
  | .centerOut => .ok (sortedCenterOut xCount yCount coords)

def recordOf (xValues yValues : List α) (total : Nat) (visit : Cell × Nat) :
    Except String (Record α) :=
  match xValues[visit.1.2]?,yValues[visit.1.1]? with
  | some x,some y => .ok {
      x := x
      y := y
      row := visit.1.1
      col := visit.1.2
      index := visit.2
      u := if 1 < xValues.length then visit.1.2/(max 1 (xValues.length-1) : Nat) else 0
      v := if 1 < yValues.length then visit.1.1/(max 1 (yValues.length-1) : Nat) else 0
      count := total }
  | _,_ => .error "list index out of range"

def generateScan2dRecords (np : Random) (xValues yValues : List α) (pattern order : String)
    (seed : Option Int) : Except String (List (Record α)) := do
  if xValues.isEmpty then throw "scan2d.x must contain at least one point"
  if yValues.isEmpty then throw "scan2d.y must contain at least one point"
  let pattern ← validateScan2dPattern pattern
  let order ← validateScan2dOrder order
  let coords ← orderedCoords np xValues.length yValues.length pattern order seed
  coords.zipIdx.mapM (recordOf xValues yValues coords.length)

end

def grid (xCount yCount : Nat) : List Cell := List.range yCount ×ˢ List.range xCount

variable (xCount yCount : Nat)

theorem nodup_grid : (grid xCount yCount).Nodup :=
  nodup_range.product nodup_range

theorem mem_grid {xCount yCount : Nat} {cell : Cell} :
    cell ∈ grid xCount yCount ↔ cell.1 < yCount ∧ cell.2 < xCount := by
  obtain ⟨row,col⟩ := cell
  simp [grid]

theorem lines_swap (count length : Nat) : lines count length (fun col row => (row,col)) =
      (List.range count ×ˢ List.range length).map Prod.swap := by
  simp only [lines,SProd.sprod,List.product,map_flatMap,map_map]
  rfl

theorem coordsOf_perm (order : Order) :
    (coordsOf xCount yCount order).Perm (grid xCount yCount) := by
  cases order with
  | rowMajor => exact Perm.refl _
  | colMajor =>
    have hnodup : ((List.range xCount ×ˢ List.range yCount).map Prod.swap).Nodup :=
      (nodup_range.product nodup_range).map Prod.swap_injective
    rw [coordsOf,lines_swap]
    apply (perm_ext_iff_of_nodup hnodup (nodup_grid xCount yCount)).2
    intro ⟨row,col⟩
    rw [mem_grid,mem_map]
    constructor
    · rintro ⟨⟨x,y⟩,hmem,heq⟩
      cases heq
      simpa [and_comm] using hmem
    · intro hcell
      exact ⟨(col,row),by simpa [and_comm] using hcell,rfl⟩

theorem turningLines_perm (count length : Nat) (cell : Nat → Nat → Cell) :
    (turningLines count length cell).Perm (lines count length cell) := by
  apply Perm.flatMap_left
  intro line _
  split
  · exact reverse_perm _
  · exact Perm.refl _

theorem applySerpentine_perm (order : Order) :
    (applySerpentine xCount yCount order).Perm (coordsOf xCount yCount order) := by
  cases order with
  | rowMajor => exact turningLines_perm _ _ _
  | colMajor => exact turningLines_perm _ _ _

theorem orderedCoords_perm {np : Random} {xCount yCount : Nat} {pattern : Pattern} {order : Order}
    {seed : Option Int} {coords : List Cell}
    (h : orderedCoords np xCount yCount pattern order seed = .ok coords) :
    coords.Perm (grid xCount yCount) := by
  refine Perm.trans ?_ (coordsOf_perm xCount yCount order)
  cases pattern with
  | raster =>
    cases h
    exact Perm.refl _
  | serpentine =>
    cases h
    exact applySerpentine_perm xCount yCount order
  | random =>
    obtain ⟨rng,_,h⟩ := ok_of_bind h
    cases h
    exact (np.shuffle rng _).2
  | centerOut =>
    cases h
    exact mergeSort_perm _ _

def Adjacent (a b : Cell) : Prop :=
  (a.1 = b.1 ∧ (a.2+1 = b.2 ∨ b.2+1 = a.2)) ∨ (a.2 = b.2 ∧ (a.1+1 = b.1 ∨ b.1+1 = a.1))

theorem Adjacent.symm {a b : Cell} (h : Adjacent a b) : Adjacent b a := by
  unfold Adjacent at h ⊢
  omega

section
variable {count length : Nat} {cell : Nat → Nat → Cell}

theorem turningLine_ends (hlength : 0 < length) (line : Nat) :
    (if line%2 = 1 then ((List.range length).map (cell line)).reverse
      else (List.range length).map (cell line)).head? =
        some (cell line (if line%2 = 1 then length-1 else 0)) ∧
    (if line%2 = 1 then ((List.range length).map (cell line)).reverse
      else (List.range length).map (cell line)).getLast? =
        some (cell line (if line%2 = 1 then 0 else length-1)) := by
  obtain ⟨last,rfl⟩ : ∃ last, length = last+1 := ⟨length-1,by omega⟩
  have hhead : (List.range (last+1)).head? = some 0 := by simp [head?_range]
  have hlast : (List.range (last+1)).getLast? = some last := by simp [getLast?_range]
  split
  · simp [hhead,hlast]
  · simp [hhead,hlast]

theorem isChain_turningLines (hlength : 0 < length)
    (hwithin : ∀ line i, Adjacent (cell line i) (cell line (i+1)))
    (hacross : ∀ line i, Adjacent (cell line i) (cell (line+1) i)) :
    IsChain Adjacent (turningLines count length cell) := by
  rw [turningLines,flatMap_def]
  have hne : ([] : List Cell) ∉ (List.range count).map fun line =>
      if line%2 = 1 then ((List.range length).map (cell line)).reverse
      else (List.range length).map (cell line) := by
    intro hmem
    obtain ⟨line,_,heq⟩ := mem_map.1 hmem
    have hhead := (@turningLine_ends length cell hlength line).1
    rw [heq] at hhead
    cases hhead
  have hforward : ∀ line, IsChain Adjacent ((List.range length).map (cell line)) := by
    intro line
    rw [isChain_map,isChain_range]
    intro i _
    exact hwithin line i
  rw [isChain_flatten hne]
  constructor
  · intro line hmem
    obtain ⟨number,_,rfl⟩ := mem_map.1 hmem
    split
    · rw [isChain_reverse]
      exact (hforward number).imp fun _ _ h => h.symm
    · exact hforward number
  · rw [isChain_map,isChain_range]
    intro line _ x hx y hy
    rw [(turningLine_ends hlength line).2] at hx
    rw [(turningLine_ends hlength (line+1)).1] at hy
    cases hx
    cases hy
    have hsame : (if line%2 = 1 then 0 else length-1) = if (line+1)%2 = 1 then length-1 else 0 := by
      split
      · rw [if_neg (by omega)]
      · rw [if_pos (by omega)]
    rw [hsame]
    exact hacross line _

end

theorem isChain_applySerpentine {xCount yCount : Nat} (hx : 0 < xCount) (hy : 0 < yCount)
    (order : Order) : IsChain Adjacent (applySerpentine xCount yCount order) := by
  cases order with
  | rowMajor =>
    apply isChain_turningLines hx
    · intro row col
      exact .inl ⟨rfl,.inl rfl⟩
    · intro row col
      exact .inr ⟨rfl,.inl rfl⟩
  | colMajor =>
    apply isChain_turningLines hy
    · intro col row
      exact .inr ⟨rfl,.inl rfl⟩
    · intro col row
      exact .inl ⟨rfl,.inl rfl⟩

theorem pairwise_sortedCenterOut (coords : List Cell) :
    (sortedCenterOut xCount yCount coords).Pairwise fun a b =>
      radius2 xCount yCount a ≤ radius2 xCount yCount b := by
  have htrans : ∀ a b c : Cell,
      decide (centerOutSortKey xCount yCount a ≤ centerOutSortKey xCount yCount b) = true →
      decide (centerOutSortKey xCount yCount b ≤ centerOutSortKey xCount yCount c) = true →
      decide (centerOutSortKey xCount yCount a ≤ centerOutSortKey xCount yCount c) = true := by
    intro a b c hab hbc
    simp only [decide_eq_true_eq] at hab hbc ⊢
    exact le_trans hab hbc
  have htotal : ∀ a b : Cell,
      (decide (centerOutSortKey xCount yCount a ≤ centerOutSortKey xCount yCount b) ||
        decide (centerOutSortKey xCount yCount b ≤ centerOutSortKey xCount yCount a)) = true := by
    intro a b
    simpa using le_total _ _
  refine (pairwise_mergeSort htrans htotal coords).imp ?_
  intro a b hab
  have hkey := of_decide_eq_true hab
  rw [centerOutSortKey,centerOutSortKey,Prod.Lex.toLex_le_toLex] at hkey
  rcases hkey with hlt | ⟨heq,_⟩
  · exact le_of_lt hlt
  · exact le_of_eq heq

/-- Four times the squared distance from the middle of the grid, in whole numbers. -/
def distance4 (xCount yCount : Nat) (cell : Cell) : Int :=
  (2*cell.1-(yCount-1))^2+(2*cell.2-(xCount-1))^2

theorem cast_distance4 (xCount yCount : Nat) (cell : Cell) :
    (distance4 xCount yCount cell : ℚ) = 4*radius2 xCount yCount cell := by
  rw [distance4,radius2]
  push_cast
  ring

theorem distance4_le_iff {xCount yCount : Nat} {a b : Cell} :
    distance4 xCount yCount a ≤ distance4 xCount yCount b ↔
      radius2 xCount yCount a ≤ radius2 xCount yCount b := by
  rw [← Int.cast_le (R := ℚ),cast_distance4,cast_distance4]
  constructor <;> intro h <;> linarith

section
variable {α : Type} {xValues yValues : List α}

structure Scans (xValues yValues : List α) (pattern : Pattern) (records : List (Record α)) :
    Prop where
  cells : (records.map fun r => (r.row,r.col)).Perm (grid xValues.length yValues.length)
  indices : records.map (·.index) = List.range (xValues.length*yValues.length)
  counts : ∀ r ∈ records, r.count = xValues.length*yValues.length
  values : ∀ r ∈ records, xValues[r.col]? = some r.x ∧ yValues[r.row]? = some r.y
  steps : pattern = .serpentine → IsChain Adjacent (records.map fun r => (r.row,r.col))
  outward : pattern = .centerOut → (records.map fun r => (r.row,r.col)).Pairwise fun a b =>
    distance4 xValues.length yValues.length a ≤ distance4 xValues.length yValues.length b

theorem recordOf_ok {total : Nat} {visit : Cell × Nat} {r : Record α}
    (h : recordOf xValues yValues total visit = .ok r) :
    (r.row,r.col) = visit.1 ∧ r.index = visit.2 ∧ r.count = total ∧
      xValues[r.col]? = some r.x ∧ yValues[r.row]? = some r.y := by
  unfold recordOf at h
  split at h
  · rename_i hx hy
    cases h
    exact ⟨rfl,rfl,rfl,hx,hy⟩
  · cases h

theorem exists_recordOf {total : Nat} {visit : Cell × Nat}
    (h : visit.1 ∈ grid xValues.length yValues.length) :
    ∃ r, recordOf xValues yValues total visit = .ok r := by
  obtain ⟨hrow,hcol⟩ := mem_grid.1 h
  unfold recordOf
  rw [getElem?_eq_getElem hrow,getElem?_eq_getElem hcol]
  exact ⟨_,rfl⟩

theorem scans_of_coords {pattern : Pattern} {coords : List Cell}
    (hperm : coords.Perm (grid xValues.length yValues.length))
    (hsteps : pattern = .serpentine → IsChain Adjacent coords)
    (houtward : pattern = .centerOut → coords.Pairwise fun a b =>
      distance4 xValues.length yValues.length a ≤ distance4 xValues.length yValues.length b) :
    ∃ records, coords.zipIdx.mapM (recordOf xValues yValues coords.length) = .ok records ∧
      Scans xValues yValues pattern records := by
  have htotal : coords.length = xValues.length*yValues.length := by
    rw [hperm.length_eq]
    simp [grid,length_product,Nat.mul_comm]
  have heach : ∀ visit ∈ coords.zipIdx, ∃ r, recordOf xValues yValues coords.length visit = .ok r :=
    fun visit hvisit => exists_recordOf (hperm.mem_iff.1 (fst_mem_of_mem_zipIdx hvisit))
  obtain ⟨records,hrecords⟩ := exists_mapM_ok heach
  have hcells : (records.map fun r => (r.row,r.col)) = coords := by
    rw [map_of_mapM_ok (fun _ _ h => (recordOf_ok h).1) hrecords]
    simp
  have hindices : records.map (·.index) = List.range coords.length := by
    rw [map_of_mapM_ok (fun _ _ h => (recordOf_ok h).2.1) hrecords]
    simp [range_eq_range']
  refine ⟨records,hrecords,?_⟩
  exact {
    cells := hcells ▸ hperm
    indices := htotal ▸ hindices
    counts := by
      intro r hr
      obtain ⟨visit,_,hvisit⟩ := exists_of_mem_mapM hrecords r hr
      exact (recordOf_ok hvisit).2.2.1.trans htotal
    values := by
      intro r hr
      obtain ⟨visit,_,hvisit⟩ := exists_of_mem_mapM hrecords r hr
      exact (recordOf_ok hvisit).2.2.2
    steps := fun hpattern => hcells ▸ hsteps hpattern
    outward := fun hpattern => hcells ▸ houtward hpattern }

/-- A scan of two axes visits every cell of the grid once, in the order that its pattern asks for; it
only fails where no random generator can be made from the seed. -/
theorem generateScan2dRecords_scans (np : Random) {patternText orderText : String} {pattern : Pattern}
    {order : Order} (hx : xValues ≠ []) (hy : yValues ≠ [])
    (hpattern : validateScan2dPattern patternText = .ok pattern)
    (horder : validateScan2dOrder orderText = .ok order) (seed : Option Int) :
    (∃ records, generateScan2dRecords np xValues yValues patternText orderText seed = .ok records ∧
      Scans xValues yValues pattern records) ∨
    (pattern = .random ∧ ∃ e, np.defaultRng seed = .error e ∧
      generateScan2dRecords np xValues yValues patternText orderText seed = .error e) := by
  have hxCount : 0 < xValues.length := length_pos_iff.2 hx
  have hyCount : 0 < yValues.length := length_pos_iff.2 hy
  have hgenerate : generateScan2dRecords np xValues yValues patternText orderText seed =
      (orderedCoords np xValues.length yValues.length pattern order seed).bind fun coords =>
        coords.zipIdx.mapM (recordOf xValues yValues coords.length) := by
    unfold generateScan2dRecords
    rw [hpattern,horder,if_neg (by simpa using hx),if_neg (by simpa using hy)]
    rfl
  cases hcoords : orderedCoords np xValues.length yValues.length pattern order seed with
  | error e =>
    cases pattern with
    | random =>
      right
      cases hrng : np.defaultRng seed with
      | error e' => exact ⟨rfl,e',rfl,by rw [hgenerate]; simp [orderedCoords,hrng]; rfl⟩
      | ok rng => simp [orderedCoords,hrng] at hcoords
    | raster => cases hcoords
    | serpentine => cases hcoords
    | centerOut => cases hcoords
  | ok coords =>
    left
    rw [hgenerate,hcoords]
    apply scans_of_coords (orderedCoords_perm hcoords)
    · rintro rfl
      cases hcoords
      exact isChain_applySerpentine hxCount hyCount order
    · rintro rfl
      cases hcoords
      exact (pairwise_sortedCenterOut _ _ _).imp distance4_le_iff.2

end

def reversing : Random where
  Rng := Unit
  defaultRng
    | some (Int.negSucc _) => .error "expected non-negative integer"
    | _ => .ok ()
  shuffle _ cells := ⟨cells.reverse,cells.reverse_perm⟩

theorem generateScan2dRecords_scans_patterns :
    (∃ records, generateScan2dRecords reversing [10,20] [1,2,3] " Serpentine" "col_major" none =
      .ok records ∧ Scans [10,20] [1,2,3] .serpentine records) ∧
    ∃ records, generateScan2dRecords reversing [10,20] [1,2,3] "center_out" "row_major" none =
      .ok records ∧ Scans [10,20] [1,2,3] .centerOut records := by
  constructor
  · have hscan := @generateScan2dRecords_scans Nat [10,20] [1,2,3] reversing " Serpentine"
      "col_major" .serpentine .colMajor (by simp) (by simp) (by decide +kernel)
      (by decide +kernel) none
    rcases hscan with hrecords | ⟨hrandom,_⟩
    · exact hrecords
    · cases hrandom
  · have hscan := @generateScan2dRecords_scans Nat [10,20] [1,2,3] reversing "center_out"
      "row_major" .centerOut .rowMajor (by simp) (by simp) (by decide +kernel)
      (by decide +kernel) none
    rcases hscan with hrecords | ⟨hrandom,_⟩
    · exact hrecords
    · cases hrandom

example : (generateScan2dRecords reversing [10,20] [1,2,3] " Serpentine" "col_major" none).map
    (fun records => records.map fun r => (r.x,r.y)) =
      .ok [(10,1),(10,2),(10,3),(20,3),(20,2),(20,1)] := by
  decide +kernel

end ExperimentControl.ScanPlan

import Mathlib.Algebra.Order.Floor.Ring

/-!
Rounding to the nearest integer, with halves to the even one.
-/

namespace ExperimentControl.Lib

variable {α : Type*} [Field α] [LinearOrder α] [FloorRing α]

def roundHalfEven (x : α) : ℤ :=
  if Int.fract x < 1/2 then ⌊x⌋
  else if 1/2 < Int.fract x then ⌊x⌋+1
  else if Even ⌊x⌋ then ⌊x⌋
  else ⌊x⌋+1

variable (x : α)

theorem roundHalfEven_cases :
    roundHalfEven x = ⌊x⌋ ∧ Int.fract x ≤ 1/2 ∨ roundHalfEven x = ⌊x⌋+1 ∧ 1/2 ≤ Int.fract x := by
  unfold roundHalfEven
  split_ifs with hless hmore
  · exact .inl ⟨rfl,hless.le⟩
  · exact .inr ⟨rfl,hmore.le⟩
  · exact .inl ⟨rfl,not_lt.1 hmore⟩
  · exact .inr ⟨rfl,not_lt.1 hless⟩

theorem floor_le_roundHalfEven : ⌊x⌋ ≤ roundHalfEven x := by
  rcases roundHalfEven_cases x with ⟨h,-⟩ | ⟨h,-⟩ <;> omega

theorem roundHalfEven_le_floor_add_one : roundHalfEven x ≤ ⌊x⌋+1 := by
  rcases roundHalfEven_cases x with ⟨h,-⟩ | ⟨h,-⟩ <;> omega

variable [IsStrictOrderedRing α]

theorem roundHalfEven_le_add_half : (roundHalfEven x : α) ≤ x+1/2 := by
  have hfract := Int.self_sub_floor x
  rcases roundHalfEven_cases x with ⟨h,hx⟩ | ⟨h,hx⟩
  · have hle := Int.floor_le x
    rw [h]
    linarith
  · rw [h]
    push_cast
    linarith

theorem sub_half_le_roundHalfEven : x-1/2 ≤ (roundHalfEven x : α) := by
  have hfract := Int.self_sub_floor x
  rcases roundHalfEven_cases x with ⟨h,hx⟩ | ⟨h,hx⟩
  · rw [h]
    linarith
  · have hlt := Int.lt_floor_add_one x
    rw [h]
    push_cast
    linarith

theorem roundHalfEven_mono {x y : α} (hxy : x ≤ y) : roundHalfEven x ≤ roundHalfEven y := by
  rcases (Int.floor_mono hxy).lt_or_eq with hlt | heq
  · exact (roundHalfEven_le_floor_add_one x).trans ((Int.add_one_le_iff.2 hlt).trans (floor_le_roundHalfEven y))
  · have hfract : Int.fract x ≤ Int.fract y := by
      rw [Int.fract,Int.fract,heq]
      linarith
    unfold roundHalfEven
    rw [← heq]
    split_ifs with h1 h2 h3 h4 h5 h6 h7 h8 <;> first | omega | linarith

end ExperimentControl.Lib

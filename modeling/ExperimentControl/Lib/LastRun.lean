import Mathlib.Data.List.DropRight

/-!
The last run of a list: the longest end of it whose items have one key, and the last whole block of a
given size in it.
-/

namespace ExperimentControl.Lib
open List

section
variable {α κ : Type} [DecidableEq κ] (key : α → κ)

def lastRun (l : List α) : List α :=
  match l.getLast? with
  | none => []
  | some last => l.rtakeWhile fun a => key a = key last

@[simp] theorem lastRun_nil : lastRun key ([] : List α) = [] := rfl

theorem lastRun_concat (l : List α) (a : α) :
    lastRun key (l ++ [a]) = l.rtakeWhile (fun b => key b = key a) ++ [a] := by
  simp [lastRun]

theorem lastRun_suffix (l : List α) : lastRun key l <:+ l := by
  unfold lastRun
  cases l.getLast? with
  | none => simp
  | some last => exact rtakeWhile_suffix _ _

variable {key}

variable {l : List α}

theorem key_of_mem_lastRun {a b : α} (ha : a ∈ lastRun key l)
    (hb : b ∈ lastRun key l) : key a = key b := by
  have hlast : ∀ last ∈ l.getLast?, ∀ x ∈ lastRun key l, key x = key last := by
    intro last hlast x hx
    simp only [lastRun,Option.mem_def.1 hlast] at hx
    have hkey := mem_rtakeWhile_imp hx
    simpa using hkey
  cases hl : l.getLast? with
  | none => simp [lastRun,hl] at ha
  | some last => rw [hlast last hl a ha,hlast last hl b hb]

theorem lastRun_concat_same {a b : α} (hb : b ∈ lastRun key l) (h : key b = key a) :
    lastRun key (l ++ [a]) = lastRun key l ++ [a] := by
  rw [lastRun_concat]
  obtain rfl | ⟨init,last,rfl⟩ := eq_nil_or_concat' l
  · simp at hb
  · have hlast : last ∈ lastRun key (init ++ [last]) := by simp [lastRun_concat]
    have hkey : key last = key a := (key_of_mem_lastRun hlast hb).trans h
    rw [lastRun_concat,rtakeWhile_concat_pos _ _ _ (by simpa using hkey),hkey]

theorem lastRun_concat_other {a : α} (h : ∀ b ∈ lastRun key l, key b ≠ key a) :
    lastRun key (l ++ [a]) = [a] := by
  rw [lastRun_concat]
  obtain rfl | ⟨init,last,rfl⟩ := eq_nil_or_concat' l
  · simp
  · have hlast : last ∈ lastRun key (init ++ [last]) := by simp [lastRun_concat]
    rw [rtakeWhile_concat_neg _ _ _ (by simpa using h last hlast)]
    rfl

end

variable {α : Type}

/-- The last whole block, when a list is cut into blocks of this size from its beginning. -/
def lastBlock (size : Nat) (l : List α) : Option (List α) :=
  if l.length < size then none else some ((l.take (l.length/size*size)).rtake size)

theorem lastBlock_concat_last {size : Nat} {l : List α} (h : l.length%size+1 = size) (a : α) :
    lastBlock size (l ++ [a]) = some ((l ++ [a]).rtake size) := by
  have hsplit := Nat.div_add_mod l.length size
  have hwhole : l.length+1 = size*(l.length/size+1) := by
    rw [Nat.mul_add]
    omega
  have hle : size ≤ l.length+1 := Nat.le_of_dvd (by omega) ⟨_,hwhole⟩
  have hcut : (l.length+1)/size*size = l.length+1 := Nat.div_mul_cancel ⟨_,hwhole⟩
  unfold lastBlock
  rw [if_neg (by simpa using hle),length_append,length_singleton,hcut,take_of_length_le]
  simp

theorem lastBlock_concat {size : Nat} (hsize : 0 < size) {l : List α} (h : l.length%size+1 ≠ size)
    (a : α) : lastBlock size (l ++ [a]) = lastBlock size l := by
  have hmod := Nat.mod_lt l.length hsize
  have hsplit := Nat.div_add_mod l.length size
  have hdiv : (l.length+1)/size = l.length/size := by
    calc (l.length+1)/size = (size*(l.length/size)+(l.length%size+1))/size := by
          congr 1
          omega
      _ = l.length/size := by
          rw [Nat.mul_add_div hsize,Nat.div_eq_of_lt (show l.length%size+1 < size by omega),
            Nat.add_zero]
  have hle : l.length/size*size ≤ l.length := Nat.div_mul_le_self _ _
  unfold lastBlock
  rw [length_append,length_singleton,hdiv,take_append_of_le_length hle]
  by_cases hshort : l.length < size
  · have hlength : l.length%size = l.length := Nat.mod_eq_of_lt hshort
    rw [if_pos hshort,if_pos (by omega)]
  · rw [if_neg hshort,if_neg (by omega)]

end ExperimentControl.Lib

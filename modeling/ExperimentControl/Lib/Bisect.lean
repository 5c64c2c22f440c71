import Mathlib.Data.List.Basic
import Mathlib.Order.Lattice

/-!
Binary search for the end of a first part of a list, and the first of the least entries.
-/

namespace ExperimentControl.Lib
open List
variable {α : Type}

/-- `bisect_left` between `lo` and `hi`, where `below i` says that entry `i` is less. -/
def bisect (below : Nat → Bool) : Nat → Nat → Nat → Nat
  | 0,lo,_ => lo
  | n+1,lo,hi =>
    if lo < hi then
      if below ((lo+hi)/2) then bisect below n ((lo+hi)/2+1) hi else bisect below n lo ((lo+hi)/2)
    else lo

def bisectLeft (below : α → Bool) (a : List α) : Nat :=
  bisect (fun i => a[i]?.any below) a.length 0 a.length

theorem bisect_spec {below : Nat → Bool} {size n lo hi : Nat} (hn : hi ≤ lo+n) (hle : lo ≤ hi)
    (hlo : lo = 0 ∨ below (lo-1) = true) (hhi : hi = size ∨ below hi = false) :
    bisect below n lo hi ≤ hi ∧ (bisect below n lo hi = 0 ∨ below (bisect below n lo hi-1) = true) ∧
    (bisect below n lo hi = size ∨ below (bisect below n lo hi) = false) := by
  induction n generalizing lo hi with
  | zero =>
    obtain rfl : lo = hi := by omega
    exact ⟨hle,hlo,hhi⟩
  | succ n ih =>
    unfold bisect
    by_cases hlt : lo < hi
    · rw [if_pos hlt]
      by_cases hmid : below ((lo+hi)/2) = true
      · rw [if_pos hmid]
        exact ih (show hi ≤ (lo+hi)/2+1+n by omega) (by omega) (.inr (by simpa using hmid)) hhi
      · rw [if_neg hmid]
        obtain ⟨hend,hrest⟩ := ih (show (lo+hi)/2 ≤ lo+n by omega) (by omega) hlo (.inr (by simpa using hmid))
        exact ⟨by omega,hrest⟩
    · rw [if_neg hlt]
      obtain rfl : lo = hi := by omega
      exact ⟨hle,hlo,hhi⟩

theorem bisectLeft_le (below : α → Bool) (a : List α) : bisectLeft below a ≤ a.length :=
  (bisect_spec (by omega : a.length ≤ 0+a.length) (Nat.zero_le _) (.inl rfl) (.inl rfl)).1

theorem bisectLeft_spec (below : α → Bool) (a : List α) :
    (∀ x ∈ (a.take (bisectLeft below a)).getLast?, below x = true) ∧
    ∀ x ∈ (a.drop (bisectLeft below a)).head?, below x = false := by
  have hplace : bisectLeft below a ≤ a.length ∧
      (bisectLeft below a = 0 ∨ a[bisectLeft below a-1]?.any below = true) ∧
      (bisectLeft below a = a.length ∨ a[bisectLeft below a]?.any below = false) :=
    bisect_spec (by omega) (Nat.zero_le _) (.inl rfl) (.inl rfl)
  generalize bisectLeft below a = place at hplace
  obtain ⟨hle,hbefore,hafter⟩ := hplace
  constructor
  · intro x hx
    rcases hbefore with hzero | hbelow
    · simp [hzero] at hx
    · rw [getLast?_take] at hx
      split at hx
      · cases hx
      · have hlast : a[place-1]? = some x := by
          cases h : a[place-1]? with
          | none =>
            rw [getElem?_eq_none_iff] at h
            omega
          | some y => simpa [h] using hx
        simpa [hlast] using hbelow
  · intro x hx
    rw [head?_drop] at hx
    rcases hafter with hend | hbelow
    · have hlt := (List.getElem?_eq_some_iff.1 hx).1
      omega
    · simpa [Option.mem_def.1 hx] using hbelow

variable {β : Type} [LinearOrder β] (time : α → β) {a : List α}

theorem sorted_parts (h : a.Pairwise fun x y => time x ≤ time y) (n : Nat) :
    (∀ x ∈ a.take n, ∃ last ∈ (a.take n).getLast?, time x ≤ time last) ∧
    (∀ y ∈ a.drop n, ∃ first ∈ (a.drop n).head?, time first ≤ time y) ∧
    ∀ x ∈ a.take n, ∀ y ∈ a.drop n, time x ≤ time y := by
  have hsplit := h
  rw [← take_append_drop n a,pairwise_append] at hsplit
  obtain ⟨hfirst,hsecond,hcross⟩ := hsplit
  refine ⟨fun x hx => ?_,fun y hy => ?_,hcross⟩
  · obtain ⟨pre,last,hpre⟩ := (a.take n).eq_nil_or_concat.resolve_left (ne_nil_of_mem hx)
    rw [hpre,concat_eq_append] at hx hfirst ⊢
    refine ⟨last,by simp,?_⟩
    rcases mem_append.1 hx with hx | hx
    · exact (pairwise_append.1 hfirst).2.2 x hx last (by simp)
    · rw [mem_singleton.1 hx]
  · cases hdrop : a.drop n with
    | nil => simp [hdrop] at hy
    | cons first rest =>
      rw [hdrop] at hy hsecond
      refine ⟨first,by simp,?_⟩
      rcases mem_cons.1 hy with rfl | hy
      · exact le_refl _
      · exact (pairwise_cons.1 hsecond).1 y hy

/-- `min(entries, key=key)`: the first of the least entries. -/
def minBy (key : α → β) : List α → Option α
  | [] => none
  | x :: rest => some (rest.foldl (fun best y => if key y < key best then y else best) x)

theorem minBy_spec (key : α → β) {a : List α} {x : α} (h : minBy key a = some x) :
    x ∈ a ∧ ∀ y ∈ a, key x ≤ key y := by
  cases a with
  | nil => cases h
  | cons z rest =>
    obtain rfl := Option.some.inj h
    clear h
    induction rest generalizing z with
    | nil => simp
    | cons y rest ih =>
      obtain ⟨hmem,hleast⟩ := ih (if key y < key z then y else z)
      rw [foldl_cons]
      constructor
      · rcases mem_cons.1 hmem with h | h
        · rw [h]
          split <;> simp
        · exact mem_cons_of_mem _ (mem_cons_of_mem _ h)
      · have hboth := hleast (if key y < key z then y else z) (by simp)
        have hless : key (if key y < key z then y else z) ≤ key y ∧
            key (if key y < key z then y else z) ≤ key z := by
          split
          · rename_i hlt
            exact ⟨le_refl _,hlt.le⟩
          · rename_i hle
            exact ⟨not_lt.1 hle,le_refl _⟩
        intro w hw
        rcases mem_cons.1 hw with rfl | hw
        · exact hboth.trans hless.2
        · rcases mem_cons.1 hw with rfl | hw
          · exact hboth.trans hless.1
          · exact hleast w (by simp [hw])

end ExperimentControl.Lib

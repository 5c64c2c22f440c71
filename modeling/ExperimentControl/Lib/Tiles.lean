import Mathlib.Data.List.Dedup
import Mathlib.Data.List.Sort

/-!
Intervals of indices that lie side by side, rows of indices taken from them in turn, and sorted
rows without repetitions.
-/

namespace ExperimentControl.Lib
open List

/-- The intervals, none of them empty, fill `[a,b)` from left to right. -/
inductive Tiles : Nat → List (Nat × Nat) → Nat → Prop where
  | nil (a : Nat) : Tiles a [] a
  | cons {a m b : Nat} {l : List (Nat × Nat)} : a < m → Tiles m l b → Tiles a ((a,m) :: l) b

namespace Tiles
variable {a b : Nat} {l : List (Nat × Nat)}

theorem le (h : Tiles a l b) : a ≤ b := by
  induction h with
  | nil a => exact le_refl a
  | cons hlt _ ih => omega

theorem mem (h : Tiles a l b) {p : Nat × Nat} (hp : p ∈ l) : a ≤ p.1 ∧ p.1 < p.2 ∧ p.2 ≤ b := by
  induction h with
  | nil a => simp at hp
  | cons hlt hrest ih =>
    have hle := hrest.le
    rcases mem_cons.1 hp with rfl | hp
    · exact ⟨le_refl _,hlt,hle⟩
    · have hp := ih hp
      omega

theorem ascending {f : Nat × Nat → List Nat} (h : Tiles a l b)
    (hrow : ∀ p ∈ l, (f p).Pairwise (· < ·)) (hin : ∀ p ∈ l, ∀ i ∈ f p, p.1 ≤ i ∧ i < p.2) :
    (l.flatMap f).Pairwise (· < ·) := by
  induction h with
  | nil a => simp
  | @cons a m b l hlt hrest ih =>
    rw [flatMap_cons,pairwise_append]
    refine ⟨hrow _ (by simp),ih (fun p hp => hrow p (by simp [hp])) fun p hp => hin p (by simp [hp]),?_⟩
    intro i hi j hj
    obtain ⟨p,hp,hj⟩ := mem_flatMap.1 hj
    have hi := hin _ (by simp) i hi
    have hj := hin p (by simp [hp]) j hj
    have hp := hrest.mem hp
    omega

variable {β : Type}

/-- Each interval's value, written at all of its indices. -/
def spread (f : Nat × Nat → β) (l : List (Nat × Nat)) : List β :=
  l.flatMap fun p => List.replicate (p.2-p.1) (f p)

theorem length_spread (h : Tiles a l b) (f : Nat × Nat → β) : (spread f l).length = b-a := by
  induction h with
  | nil a => simp [spread]
  | @cons a m b l hlt hrest ih =>
    have hle := hrest.le
    rw [spread,flatMap_cons,length_append,length_replicate]
    change m-a+(spread f l).length = b-a
    omega

theorem getElem?_spread (h : Tiles a l b) (f : Nat × Nat → β) {p : Nat × Nat} (hp : p ∈ l) {i : Nat}
    (hi : p.1 ≤ i) (hlt : i < p.2) : (spread f l)[i-a]? = some (f p) := by
  induction h with
  | nil a => simp at hp
  | @cons a m b l ham hrest ih =>
    rw [spread,flatMap_cons]
    change (List.replicate (m-a) (f (a,m)) ++ spread f l)[i-a]? = some (f p)
    rcases mem_cons.1 hp with rfl | hp
    · rw [getElem?_append_left (by simpa using by omega),getElem?_replicate]
      simp only [if_pos (show i-a < m-a by omega)]
    · have hm := (hrest.mem hp).1
      rw [getElem?_append_right (by simpa using by omega),length_replicate,
        show i-a-(m-a) = i-m by omega]
      exact ih hp

end Tiles

/-- `sorted(set(row))` -/
def sortedSet (row : List Nat) : List Nat := row.dedup.insertionSort (· ≤ ·)

variable {row : List Nat}

@[simp] theorem mem_sortedSet {i : Nat} : i ∈ sortedSet row ↔ i ∈ row := by
  simp [sortedSet]

theorem ascending_sortedSet (row : List Nat) : (sortedSet row).Pairwise (· < ·) := by
  have hle : (sortedSet row).Pairwise (· ≤ ·) := pairwise_insertionSort (· ≤ ·) row.dedup
  have hne : (sortedSet row).Pairwise (· ≠ ·) :=
    ((perm_insertionSort (· ≤ ·) row.dedup).nodup_iff).2 row.nodup_dedup
  exact hle.imp₂ (fun i j hij hij' => lt_of_le_of_ne hij hij') hne

/-- The entries that differ from the one before them. -/
def changed (prev : Nat) : List Nat → List Nat
  | [] => []
  | i :: rest => if i ≠ prev then i :: changed i rest else changed i rest

/-- The first entry and all that differ from the one before them. -/
def keepChanged : List Nat → List Nat
  | [] => []
  | i :: rest => i :: changed i rest

theorem mem_changed {prev i : Nat} (h : (prev :: row).Pairwise (· ≤ ·)) :
    i ∈ changed prev row ↔ i ∈ row ∧ prev < i := by
  induction row generalizing prev with
  | nil => simp [changed]
  | cons j rest ih =>
    obtain ⟨hprev,hrest⟩ := pairwise_cons.1 h
    have hj := hprev j (by simp)
    have hge := (pairwise_cons.1 hrest).1
    simp only [changed]
    split
    · rename_i hne
      rw [mem_cons,ih hrest,mem_cons]
      constructor
      · rintro (rfl | ⟨hi,hlt⟩)
        · exact ⟨.inl rfl,by omega⟩
        · exact ⟨.inr hi,by omega⟩
      · rintro ⟨rfl | hi,hlt⟩
        · exact .inl rfl
        · by_cases hij : i = j
          · exact .inl hij
          · have := hge i hi
            exact .inr ⟨hi,by omega⟩
    · rename_i heq
      rw [not_not] at heq
      rw [ih hrest,mem_cons]
      subst heq
      constructor
      · rintro ⟨hi,hlt⟩
        exact ⟨.inr hi,hlt⟩
      · rintro ⟨rfl | hi,hlt⟩
        · omega
        · exact ⟨hi,hlt⟩

theorem ascending_changed {prev : Nat} (h : (prev :: row).Pairwise (· ≤ ·)) :
    (changed prev row).Pairwise (· < ·) := by
  induction row generalizing prev with
  | nil => simp [changed]
  | cons j rest ih =>
    have hrest := (pairwise_cons.1 h).2
    simp only [changed]
    split
    · exact pairwise_cons.2 ⟨fun i hi => ((mem_changed hrest).1 hi).2,ih hrest⟩
    · exact ih hrest

theorem keepChanged_sorted (row : List Nat) :
    keepChanged (row.insertionSort (· ≤ ·)) = sortedSet row := by
  have hmem : ∀ i, i ∈ row.insertionSort (· ≤ ·) ↔ i ∈ row := fun i => mem_insertionSort _
  have hsorted : (row.insertionSort (· ≤ ·)).Pairwise (· ≤ ·) := pairwise_insertionSort (· ≤ ·) row
  generalize row.insertionSort (· ≤ ·) = s at hmem hsorted
  refine List.Pairwise.eq_of_mem_iff ?_ (ascending_sortedSet row) fun i => ?_
  · cases s with
    | nil => simp [keepChanged]
    | cons j rest =>
      exact pairwise_cons.2 ⟨fun i hi => ((mem_changed hsorted).1 hi).2,ascending_changed hsorted⟩
  · rw [mem_sortedSet,← hmem i]
    cases s with
    | nil => simp [keepChanged]
    | cons j rest =>
      have hge := (pairwise_cons.1 hsorted).1
      rw [keepChanged,mem_cons,mem_cons,mem_changed hsorted]
      constructor
      · rintro (h | ⟨h,-⟩)
        · exact .inl h
        · exact .inr h
      · rintro (h | h)
        · exact .inl h
        · by_cases hij : i = j
          · exact .inl hij
          · have := hge i h
            exact .inr ⟨h,by omega⟩

end ExperimentControl.Lib

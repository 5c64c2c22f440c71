import Mathlib.Data.List.Nodup
import Mathlib.Data.List.Perm.Basic
import Mathlib.Logic.Function.Iterate

namespace ExperimentControl.Lib
open List Option Prod

/-- A mapping that remembers insertion order and holds each key once. -/
structure OrderedDict (κ α : Type) where
  entries : List (κ × α)
  nodup : (entries.map fst).Nodup

namespace OrderedDict
variable {κ α : Type}

def empty : OrderedDict κ α := ⟨[],by simp⟩

def keys (d : OrderedDict κ α) : List κ := d.entries.map fst

def size (d : OrderedDict κ α) : Nat := d.entries.length

variable [DecidableEq κ]

def get? (d : OrderedDict κ α) (k : κ) : Option α :=
  (d.entries.find? (fun e => e.1 = k)).map snd

def contains (d : OrderedDict κ α) (k : κ) : Bool := (d.get? k).isSome

def setEntries (l : List (κ × α)) (k : κ) (v : α) : List (κ × α) :=
  match l with
  | [] => [(k,v)]
  | e :: rest => if e.1 = k then (k,v) :: rest else e :: setEntries rest k v

variable (l : List (κ × α))

theorem mem_keys_setEntries (k x : κ) (v : α) :
    x ∈ (setEntries l k v).map fst ↔ x ∈ l.map fst ∨ x = k := by
  induction l with
  | nil => simp [setEntries]
  | cons e rest ih =>
    by_cases h : e.1 = k
    · simp only [setEntries,h,if_true,map_cons,mem_cons]
      constructor
      · rintro (hx | hx)
        · exact .inr hx
        · exact .inl (.inr hx)
      · rintro ((hx | hx) | hx)
        · exact .inl hx
        · exact .inr hx
        · exact .inl hx
    · simp only [setEntries,h,if_false,map_cons,mem_cons,ih]
      tauto

theorem nodup_setEntries (k : κ) (v : α)
    (h : (l.map fst).Nodup) : ((setEntries l k v).map fst).Nodup := by
  induction l with
  | nil => simp [setEntries]
  | cons e rest ih =>
    simp only [map_cons,nodup_cons] at h
    by_cases hk : e.1 = k
    · simp only [setEntries,hk,if_true,map_cons,nodup_cons]
      exact ⟨hk ▸ h.1,h.2⟩
    · simp only [setEntries,hk,if_false,map_cons,nodup_cons,mem_keys_setEntries]
      refine ⟨?_,ih h.2⟩
      rintro (hx | hx)
      · exact h.1 hx
      · exact hx

def set (d : OrderedDict κ α) (k : κ) (v : α) : OrderedDict κ α :=
  ⟨setEntries d.entries k v,nodup_setEntries d.entries k v d.nodup⟩

def erase (d : OrderedDict κ α) (k : κ) : OrderedDict κ α :=
  ⟨d.entries.filter (fun e => e.1 ≠ k),
    d.nodup.sublist (filter_sublist.map fst)⟩

def filterKeys (p : κ → Bool) (d : OrderedDict κ α) : OrderedDict κ α :=
  ⟨d.entries.filter (fun e => p e.1),d.nodup.sublist (filter_sublist.map fst)⟩

def filterEntries (p : κ → α → Bool) (d : OrderedDict κ α) : OrderedDict κ α :=
  ⟨d.entries.filter (fun e => p e.1 e.2),d.nodup.sublist (filter_sublist.map fst)⟩

def mapValues (f : κ → α → α) (d : OrderedDict κ α) : OrderedDict κ α :=
  ⟨d.entries.map fun e => (e.1,f e.1 e.2),by
    have h : (d.entries.map fun e => (e.1,f e.1 e.2)).map fst = d.entries.map fst := by
      simp
    rw [h]
    exact d.nodup⟩

def popOldest (d : OrderedDict κ α) : OrderedDict κ α :=
  ⟨d.entries.tail,d.nodup.sublist ((tail_sublist _).map fst)⟩

def update (d : OrderedDict κ α) (other : OrderedDict κ α) : OrderedDict κ α :=
  other.entries.foldl (fun d e => d.set e.1 e.2) d

@[simp] theorem get?_empty (k : κ) : (empty : OrderedDict κ α).get? k = none := rfl

theorem find?_setEntries (k x : κ) (v : α) :
    ((setEntries l k v).find? (fun e => e.1 = x)).map snd =
      if x = k then some v else (l.find? (fun e => e.1 = x)).map snd := by
  induction l with
  | nil =>
    by_cases hx : x = k
    · simp [setEntries,hx]
    · simp [setEntries,hx,Ne.symm hx]
  | cons e rest ih =>
    by_cases hk : e.1 = k
    · by_cases hx : x = k
      · simp [setEntries,hk,hx]
      · simp [setEntries,hk,hx,Ne.symm hx]
    · by_cases hx : e.1 = x
      · have hne : x ≠ k := fun h => hk (hx.trans h)
        simp [setEntries,hx,hne]
      · simp [setEntries,hk,hx,ih]

variable (d : OrderedDict κ α)

@[simp] theorem get?_set (k x : κ) (v : α) :
    (d.set k v).get? x = if x = k then some v else d.get? x :=
  find?_setEntries d.entries k x v

theorem get?_foldl_set (h : (l.map fst).Nodup) (d : OrderedDict κ α) (x : κ) :
    (l.foldl (fun d e => d.set e.1 e.2) d).get? x =
      ((l.find? (fun e => e.1 = x)).map snd).or (d.get? x) := by
  induction l generalizing d with
  | nil => simp
  | cons e rest ih =>
    simp only [map_cons,nodup_cons] at h
    rw [foldl_cons,ih h.2]
    by_cases hx : e.1 = x
    · have hrest : rest.find? (fun e => e.1 = x) = none := by
        rw [find?_eq_none]
        intro y hy hyx
        have hyx : y.1 = x := by simpa using hyx
        exact h.1 (by rw [hx,← hyx]; exact mem_map_of_mem hy)
      simp [hrest,hx]
    · simp [hx,Ne.symm hx]

theorem get?_update (d other : OrderedDict κ α) (x : κ) :
    (d.update other).get? x = (other.get? x).or (d.get? x) :=
  get?_foldl_set other.entries other.nodup d x

theorem get?_eq_some_iff (k : κ) (v : α) : d.get? k = some v ↔ (k,v) ∈ d.entries := by
  obtain ⟨l,h⟩ := d
  simp only [get?]
  induction l with
  | nil => simp
  | cons e rest ih =>
    simp only [map_cons,nodup_cons] at h
    by_cases hk : e.1 = k
    · simp only [find?_cons_of_pos,hk,decide_true,map_some,Option.some.injEq,mem_cons]
      constructor
      · rintro rfl
        exact .inl (by rw [← hk])
      · rintro (he | he)
        · rw [← he]
        · exact absurd (hk ▸ mem_map_of_mem he) h.1
    · simp only [mem_cons]
      rw [find?_cons_of_neg (by simp [hk]),ih h.2]
      constructor
      · exact .inr
      · rintro (he | he)
        · exact absurd (congrArg fst he).symm hk
        · exact he

theorem get?_erase (k x : κ) (v : α) (h : (d.erase k).get? x = some v) : d.get? x = some v := by
  rw [get?_eq_some_iff] at *
  exact (mem_filter.1 h).1

theorem find?_filter_fst (p : κ → Bool) (x : κ) :
    ((l.filter (fun e => p e.1)).find? (fun e => e.1 = x)).map snd =
      if p x then (l.find? (fun e => e.1 = x)).map snd else none := by
  induction l with
  | nil => simp
  | cons e rest ih =>
    by_cases hx : e.1 = x
    · cases hp : p x with
      | true => simp [hx,hp]
      | false =>
        rw [filter_cons_of_neg (by simp [hx,hp]),ih,hp]
        rfl
    · have hskip : (e :: rest).find? (fun e => e.1 = x) = rest.find? (fun e => e.1 = x) := by
        simp [hx]
      rw [hskip,← ih]
      cases hp : p e.1 with
      | true => simp [hp,hx]
      | false => simp [hp]

@[simp] theorem get?_filterKeys (p : κ → Bool) (x : κ) :
    (d.filterKeys p).get? x = if p x then d.get? x else none :=
  find?_filter_fst d.entries p x

theorem get?_filterEntries (p : κ → α → Bool) (x : κ) :
    (d.filterEntries p).get? x = (d.get? x).filter (p x) := by
  ext v
  rw [get?_eq_some_iff,filter_eq_some_iff,get?_eq_some_iff]
  simp [filterEntries]

theorem get?_erase_eq (k x : κ) : (d.erase k).get? x = if x = k then none else d.get? x := by
  rw [show d.erase k = d.filterKeys (fun y => decide (y ≠ k)) from rfl,get?_filterKeys]
  by_cases hx : x = k
  · simp [hx]
  · simp [hx]

theorem perm_erase {d : OrderedDict κ α} {k : κ} {v : α} (h : d.get? k = some v) :
    d.entries.Perm ((k,v) :: (d.erase k).entries) := by
  have hmem := (get?_eq_some_iff d k v).1 h
  obtain ⟨before,after,hentries⟩ := append_of_mem hmem
  have hnodup := d.nodup
  rw [hentries,map_append,map_cons,nodup_append] at hnodup
  obtain ⟨-,hafter,hdisjoint⟩ := hnodup
  have hkeep (l : List (κ × α)) (hl : ∀ e ∈ l, e.1 ≠ k) : l.filter (fun e => e.1 ≠ k) = l := by
    rw [filter_eq_self]
    exact fun e he => by simpa using hl e he
  have hbefore : ∀ e ∈ before, e.1 ≠ k := fun e he =>
    hdisjoint e.1 (mem_map_of_mem he) k (by simp)
  have hrest : ∀ e ∈ after, e.1 ≠ k := fun e he hk =>
    (nodup_cons.1 hafter).1 (by simpa [hk] using mem_map_of_mem (f := fst) he)
  have herase : (d.erase k).entries = before ++ after := by
    simp only [erase,hentries,filter_append,filter_cons,hkeep before hbefore,hkeep after hrest]
    simp
  rw [herase,hentries]
  exact perm_middle

theorem contains_eq_false (k : κ) : d.contains k = false ↔ d.get? k = none := by
  simp [contains]

@[simp] theorem get?_mapValues (f : κ → α → α) (x : κ) :
    (d.mapValues f).get? x = (d.get? x).map (f x) := by
  obtain ⟨l,h⟩ := d
  simp only [get?,mapValues]
  clear h
  induction l with
  | nil => rfl
  | cons e rest ih =>
    by_cases hx : e.1 = x
    · simp [hx]
    · simpa [hx] using ih

theorem mapValues_set (f : κ → α → α) (k : κ) (v : α) :
    (d.set k v).mapValues f = (d.mapValues f).set k (f k v) := by
  have hentries : ∀ l : List (κ × α), (setEntries l k v).map (fun e => (e.1,f e.1 e.2)) =
      setEntries (l.map fun e => (e.1,f e.1 e.2)) k (f k v) := by
    intro l
    induction l with
    | nil => rfl
    | cons e rest ih =>
      by_cases he : e.1 = k
      · simp [setEntries,he]
      · simp [setEntries,he,ih]
  simp only [mapValues,set,hentries]

@[simp] theorem contains_mapValues (f : κ → α → α) (x : κ) :
    (d.mapValues f).contains x = d.contains x := by
  simp [contains]

theorem set_of_get? (k : κ) (v : α) (h : d.get? k = some v) : d.set k v = d := by
  obtain ⟨l,hl⟩ := d
  have hentries : ∀ l : List (κ × α), (l.find? fun e => e.1 = k).map snd = some v →
      setEntries l k v = l := by
    intro l
    induction l with
    | nil => simp
    | cons e rest ih =>
      intro h
      by_cases he : e.1 = k
      · have hv : e.2 = v := by simpa [he] using h
        rw [setEntries,if_pos he,← he,← hv]
      · rw [setEntries,if_neg he,ih (by simpa [he] using h)]
  simp only [set,hentries l h]

theorem entries_set_of_new (k : κ) (v : α) (h : d.get? k = none) :
    (d.set k v).entries = d.entries ++ [(k,v)] := by
  have hentries : ∀ l : List (κ × α), (l.find? fun e => e.1 = k) = none →
      setEntries l k v = l ++ [(k,v)] := by
    intro l
    induction l with
    | nil => simp [setEntries]
    | cons e rest ih =>
      intro h
      by_cases he : e.1 = k
      · simp [he] at h
      · rw [setEntries,if_neg he,ih (by simpa [he] using h),cons_append]
  exact hentries d.entries (by simpa [get?] using h)

theorem get?_popOldest (x : κ) (v : α) (h : d.popOldest.get? x = some v) : d.get? x = some v := by
  rw [get?_eq_some_iff] at *
  exact mem_of_mem_tail h

theorem get?_iterate_popOldest (n : Nat) (d : OrderedDict κ α) (x : κ) (v : α)
    (h : (popOldest^[n] d).get? x = some v) : d.get? x = some v := by
  induction n generalizing d with
  | zero => exact h
  | succ n ih => exact d.get?_popOldest x v (ih d.popOldest h)

theorem perm_flatMap_setEntries {β : Type} (f : α → List β) (k : κ) (v : α) (l : List (κ × α)) :
    ∃ rest, (l.flatMap fun e => f e.2).Perm
        ((((l.find? fun e => e.1 = k).map snd).elim [] f) ++ rest) ∧
      ((setEntries l k v).flatMap fun e => f e.2).Perm (f v ++ rest) := by
  induction l with
  | nil => exact ⟨[],by simp,by simp [setEntries]⟩
  | cons e rest ih =>
    by_cases hk : e.1 = k
    · exact ⟨rest.flatMap fun e => f e.2,by simp [hk],by simp [setEntries,hk]⟩
    · obtain ⟨others,hbefore,hafter⟩ := ih
      refine ⟨f e.2 ++ others,?_,?_⟩
      · rw [find?_cons_of_neg (by simp [hk]),flatMap_cons]
        exact (hbefore.append_left _).trans (perm_append_comm_assoc _ _ _)
      · rw [setEntries,if_neg hk,flatMap_cons]
        exact (hafter.append_left _).trans (perm_append_comm_assoc _ _ _)

/-- Setting a key replaces what its value contributes and nothing else. -/
theorem perm_flatMap_set {β : Type} (f : α → List β) (k : κ) (v : α) :
    ∃ rest, (d.entries.flatMap fun e => f e.2).Perm ((d.get? k).elim [] f ++ rest) ∧
      ((d.set k v).entries.flatMap fun e => f e.2).Perm (f v ++ rest) :=
  perm_flatMap_setEntries f k v d.entries

theorem get?_eq_none_iff (k : κ) : d.get? k = none ↔ k ∉ d.keys := by
  simp only [get?,keys,map_eq_none_iff,find?_eq_none,decide_eq_true_eq,List.mem_map,not_exists,not_and]

theorem keys_set {d : OrderedDict κ α} {k : κ} {v : α} (h : d.get? k = some v) (w : α) :
    (d.set k w).keys = d.keys := by
  obtain ⟨entries,hnodup⟩ := d
  have hkeys : ∀ l : List (κ × α), (l.find? fun e => e.1 = k).map snd = some v →
      (setEntries l k w).map fst = l.map fst := by
    intro l
    induction l with
    | nil => simp
    | cons e rest ih =>
      intro h
      by_cases he : e.1 = k
      · simp [setEntries,he]
      · simp only [setEntries,he,if_false,map_cons,List.cons.injEq,true_and]
        exact ih (by simpa [he] using h)
  exact hkeys entries h

end OrderedDict
end ExperimentControl.Lib

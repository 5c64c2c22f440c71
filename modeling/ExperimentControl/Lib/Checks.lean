import Mathlib.Data.List.Forall2

/-!
Computations that may fail: what is known of their parts when they succeed.
-/

namespace ExperimentControl.Lib
open List

variable {ε α β : Type}

variable {f : α → Except ε β}

theorem ok_of_bind {x : Except ε α} {r : β} (h : (x >>= f) = .ok r) :
    ∃ a, x = .ok a ∧ f a = .ok r := by
  cases x with
  | error e => cases h
  | ok a => exact ⟨a,rfl,h⟩

theorem map_ok_iff {x : Except ε α} {f : α → β} {r : β} :
    x.map f = .ok r ↔ ∃ a, x = .ok a ∧ r = f a := by
  cases x <;> simp [Except.map,eq_comm]

theorem some_of_elim {o : Option α} {e : ε} {a : α} (h : o.elim (.error e) .ok = Except.ok a) :
    o = some a := by
  cases o with
  | none => cases h
  | some b => simpa using h

variable {r : List β} {l : List α}

theorem mapM_ok_iff : l.mapM f = .ok r ↔ List.Forall₂ (fun a b => f a = .ok b) l r := by
  induction l generalizing r with
  | nil =>
    constructor
    · rintro ⟨⟩
      exact .nil
    · rintro ⟨⟩
      rfl
  | cons a rest ih =>
    rw [mapM_cons]
    constructor
    · intro h
      obtain ⟨b,hb,h⟩ := ok_of_bind h
      obtain ⟨bs,hbs,h⟩ := ok_of_bind h
      cases h
      exact .cons hb (ih.1 hbs)
    · rintro (_ | ⟨hb,hbs⟩)
      simp [hb,ih.2 hbs,Bind.bind,Except.bind,pure,Except.pure]

theorem mapM_ok_iff_map {P : α → Prop} {g : α → β} (hf : ∀ a b, f a = .ok b ↔ P a ∧ b = g a) :
    l.mapM f = .ok r ↔ (∀ a ∈ l, P a) ∧ r = l.map g := by
  rw [mapM_ok_iff]
  simp only [hf]
  constructor
  · intro h
    induction h with
    | nil => simp
    | cons hab _ ih => simpa [hab.1,hab.2,ih.2] using ih.1
  · rintro ⟨hP,rfl⟩
    simpa [forall₂_map_right_iff,forall₂_same] using hP

theorem forM_ok_iff {f : α → Except ε Unit} : l.forM f = .ok () ↔ ∀ a ∈ l, f a = .ok () := by
  induction l with
  | nil => simp [pure,Except.pure]
  | cons a rest ih =>
    rw [forM_eq_forM,forM_cons,← forM_eq_forM]
    constructor
    · intro h
      obtain ⟨_,hfirst,hrest⟩ := ok_of_bind h
      intro x hx
      cases mem_cons.1 hx with
      | inl heq => exact heq ▸ hfirst
      | inr hin => exact ih.1 hrest x hin
    · intro h
      rw [h a (by simp)]
      exact ih.2 fun x hx => h x (by simp [hx])

theorem exists_mapM_ok (h : ∀ a ∈ l, ∃ b, f a = .ok b) : ∃ r, l.mapM f = .ok r := by
  induction l with
  | nil => exact ⟨[],rfl⟩
  | cons a rest ih =>
    obtain ⟨b,hb⟩ := h a (by simp)
    obtain ⟨bs,hbs⟩ := ih fun x hx => h x (by simp [hx])
    exact ⟨b :: bs,mapM_ok_iff.2 (.cons hb (mapM_ok_iff.1 hbs))⟩

theorem map_of_mapM_ok {γ : Type} {g : β → γ} {h : α → γ}
    (hf : ∀ a b, f a = .ok b → g b = h a) (hr : l.mapM f = .ok r) :
    r.map g = l.map h := by
  rw [mapM_ok_iff] at hr
  induction hr with
  | nil => rfl
  | cons hab _ ih => rw [map_cons,map_cons,hf _ _ hab,ih]

theorem exists_of_mem_mapM (h : l.mapM f = .ok r) : ∀ b ∈ r, ∃ a ∈ l, f a = .ok b := by
  rw [mapM_ok_iff] at h
  induction h with
  | nil => simp
  | @cons a b as bs hab _ ih =>
    intro x hx
    cases mem_cons.1 hx with
    | inl heq => exact ⟨a,by simp,heq ▸ hab⟩
    | inr hin =>
      obtain ⟨a',ha',hx⟩ := ih x hin
      exact ⟨a',by simp [ha'],hx⟩

variable {f : β → α → Except ε β}

theorem foldlM_invariant {P : β → Prop}
    (hstep : ∀ b a b', a ∈ l → P b → f b a = .ok b' → P b') {b r : β} (hb : P b)
    (h : l.foldlM f b = .ok r) : P r := by
  induction l generalizing b with
  | nil =>
    cases h
    exact hb
  | cons a rest ih =>
    rw [foldlM_cons] at h
    obtain ⟨next,hnext,hrest⟩ := ok_of_bind h
    exact ih (fun b a b' ha => hstep b a b' (by simp [ha])) (hstep b a next (by simp) hb hnext) hrest

theorem foldlM_step {b r : β} (h : l.foldlM f b = .ok r) :
    ∀ a ∈ l, ∃ before after, f before a = .ok after := by
  induction l generalizing b with
  | nil => simp
  | cons a rest ih =>
    rw [foldlM_cons] at h
    obtain ⟨next,hnext,hrest⟩ := ok_of_bind h
    intro x hx
    cases mem_cons.1 hx with
    | inl heq => exact ⟨b,next,heq ▸ hnext⟩
    | inr hin => exact ih hrest x hin

/-- What each step of a loop gives for its item, and later steps keep, holds for every item once the
loop has succeeded. -/
theorem foldlM_forall {P : β → Prop} {Q : α → β → Prop}
    (hstep : ∀ b a b', a ∈ l → P b → f b a = .ok b' → P b' ∧ Q a b' ∧ ∀ x, Q x b → Q x b') {b r : β}
    (hb : P b) (h : l.foldlM f b = .ok r) : ∀ a ∈ l, Q a r := by
  induction l generalizing b with
  | nil => simp
  | cons a rest ih =>
    rw [foldlM_cons] at h
    obtain ⟨next,hnext,hrest⟩ := ok_of_bind h
    obtain ⟨hkept,hgiven,_⟩ := hstep b a next (by simp) hb hnext
    intro x hx
    cases mem_cons.1 hx with
    | inl heq =>
      rw [heq]
      have hlater : P r ∧ Q a r := foldlM_invariant (P := fun b => P b ∧ Q a b)
        (fun b a' b' ha' hPQ hb' => ⟨(hstep b a' b' (by simp [ha']) hPQ.1 hb').1,
          (hstep b a' b' (by simp [ha']) hPQ.1 hb').2.2 a hPQ.2⟩) ⟨hkept,hgiven⟩ hrest
      exact hlater.2
    | inr hin => exact ih (fun b a b' ha => hstep b a b' (by simp [ha])) hkept hrest x hin

end ExperimentControl.Lib

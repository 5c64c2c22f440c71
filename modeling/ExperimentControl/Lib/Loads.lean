import Mathlib.Logic.Relation

/-!
Programs that only load from a memory which others change in between: a tree of atomic loads, and a
rule for what such a program ensures however the memory moves.
-/

namespace ExperimentControl.Lib

/-- A program that loads cell after cell, each in one atomic step. -/
inductive Loads (κ ν α : Type) where
  | ret (a : α)
  | load (c : κ) (k : ν → Loads κ ν α)

namespace Loads
variable {κ ν α β : Type}

def bind (p : Loads κ ν α) (f : α → Loads κ ν β) : Loads κ ν β :=
  match p with
  | .ret a => f a
  | .load c k => .load c fun v => (k v).bind f

instance : Monad (Loads κ ν) where
  pure := .ret
  bind := bind

def cell (c : κ) : Loads κ ν ν := .load c .ret

def cells : List κ → Loads κ ν (List ν)
  | [] => pure []
  | c :: rest => do
    let v ← cell c
    let vs ← cells rest
    pure (v :: vs)

/-- The program on a memory that nobody changes. -/
def run (memory : κ → ν) : Loads κ ν α → α
  | .ret a => a
  | .load c k => (k (memory c)).run memory

variable (memory : κ → ν)

@[simp] theorem run_bind (p : Loads κ ν α) (f : α → Loads κ ν β) :
    (p >>= f).run memory = (f (p.run memory)).run memory := by
  induction p with
  | ret a => rfl
  | load c k ih => exact ih (memory c)

@[simp] theorem run_pure (a : α) : (pure a : Loads κ ν α).run memory = a := rfl

@[simp] theorem run_cell (c : κ) : (cell c : Loads κ ν ν).run memory = memory c := rfl

@[simp] theorem run_cells (cs : List κ) :
    (cells cs : Loads κ ν (List ν)).run memory = cs.map memory := by
  induction cs with
  | nil => rfl
  | cons c rest ih => simp [cells,ih]

variable {World : Type} (read : World → κ → ν) (rely : World → World → Prop)

/-- Before each load the world may move on as `rely` allows. -/
def Ensures (post : α → World → Prop) : Loads κ ν α → World → Prop
  | .ret a,w => post a w
  | .load c k,w => ∀ w', Relation.ReflTransGen rely w w' → Ensures post (k (read w' c)) w'

variable {read rely}

variable {p : Loads κ ν α}

theorem ensures_bind {post : β → World → Prop} {f : α → Loads κ ν β} {w : World}
    (h : Ensures read rely (fun a w => Ensures read rely post (f a) w) p w) :
    Ensures read rely post (p >>= f) w := by
  induction p generalizing w with
  | ret a => exact h
  | load c k ih => exact fun w' hw => ih _ (h w' hw)

theorem ensures_cell {post : ν → World → Prop} {c : κ} {w : World}
    (h : ∀ w', Relation.ReflTransGen rely w w' → post (read w' c) w') :
    Ensures read rely post (cell c) w := h

theorem ensures_mono {post post' : α → World → Prop} {w : World} (h : Ensures read rely post p w)
    (himp : ∀ a w', Relation.ReflTransGen rely w w' → post a w' → post' a w') :
    Ensures read rely post' p w := by
  induction p generalizing w with
  | ret a => exact himp a w .refl h
  | load c k ih =>
    intro w' hw
    exact ih _ (h w' hw) fun a w'' hw' => himp a w'' (hw.trans hw')

/-- What a program ensures it still ensures after the world has moved on. -/
theorem ensures_rely {post : α → World → Prop} {w w' : World}
    (hpost : ∀ a w w', rely w w' → post a w → post a w') (hw : rely w w')
    (h : Ensures read rely post p w) : Ensures read rely post p w' := by
  cases p with
  | ret a => exact hpost a w w' hw h
  | load c k => exact fun w'' hw' => h w'' (.head hw hw')

theorem invariant_of_rely {Good : World → Prop} (hgood : ∀ w w', Good w → rely w w' → Good w')
    {w w' : World} (hw : Good w) (h : Relation.ReflTransGen rely w w') : Good w' := by
  induction h with
  | refl => exact hw
  | tail _ hstep ih => exact hgood _ _ ih hstep

variable {Good Lost : World → Prop} (hgood : ∀ w w', Good w → rely w w' → Good w')
include hgood

/-- A value that is copied while it may be lost: where it is not lost, the copy is right. -/
theorem ensures_cell_unless {c : κ} {v : ν} (hval : ∀ w, Good w → Lost w ∨ read w c = v) {w : World}
    (hw : Good w) :
    Ensures read rely (fun a w' => Good w' ∧ (Lost w' ∨ a = v)) (cell c) w := by
  apply ensures_cell
  intro w' hrely
  have hw' := invariant_of_rely hgood hw hrely
  exact ⟨hw',hval w' hw'⟩

variable (hlost : ∀ w w', Good w → rely w w' → Lost w → Lost w')
include hlost

/-- What is right unless it is lost is so to the end of the program. -/
theorem ensures_bind_unless {post : β → World → Prop} {P : α → Prop} {p : Loads κ ν α}
    {f : α → Loads κ ν β} {w : World}
    (hp : Ensures read rely (fun a w' => Good w' ∧ (Lost w' ∨ P a)) p w)
    (hf : ∀ a w', Good w' → Ensures read rely (fun b w'' => Lost w'' ∨ P a → post b w'') (f a) w') :
    Ensures read rely post (p >>= f) w := by
  apply ensures_bind
  refine ensures_mono hp ?_
  rintro a w₁ - ⟨hw₁,ha⟩
  refine ensures_mono (hf a w₁ hw₁) ?_
  intro b w₂ hrely himp
  apply himp
  rcases ha with hl | ha
  · have hstep : ∀ x y, Good x ∧ Lost x → rely x y → Good y ∧ Lost y := fun x y h hxy =>
      ⟨hgood x y h.1 hxy,hlost x y h.1 hxy h.2⟩
    exact .inl (invariant_of_rely hstep ⟨hw₁,hl⟩ hrely).2
  · exact .inr ha

theorem ensures_cells_unless {ι : Type} (place : ι → κ) (value : ι → ν) (is : List ι)
    (hval : ∀ w, ∀ i ∈ is, Good w → Lost w ∨ read w (place i) = value i) {w : World} (hw : Good w) :
    Ensures read rely (fun vs w' => Good w' ∧ (Lost w' ∨ vs = is.map value))
      (cells (is.map place)) w := by
  induction is generalizing w with
  | nil => exact ⟨hw,.inr rfl⟩
  | cons i rest ih =>
    refine ensures_bind_unless hgood hlost
      (ensures_cell_unless hgood (fun w => hval w i (by simp)) hw) fun v w₁ hw₁ => ?_
    apply ensures_bind
    refine ensures_mono (ih (fun w j hj => hval w j (by simp [hj])) hw₁) ?_
    rintro vs w₂ - ⟨hw₂,hvs⟩ hv
    refine ⟨hw₂,?_⟩
    rcases hv with hl | rfl
    · exact .inl hl
    · rcases hvs with hl | rfl
      · exact .inl hl
      · exact .inr rfl

end Loads
end ExperimentControl.Lib

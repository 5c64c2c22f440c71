import Mathlib.Logic.Relation
import Mathlib.Order.Basic
import Mathlib.Tactic.Common

/-!
Programs over a state that may raise and may run forever. A program is run with a
bound on the iterations of each of its loops; `diverged` says the bound was too
small. Every program carries the proof that a larger bound never changes an
answer, so that "it returns" can be stated without naming a bound.
-/

namespace ExperimentControl.Lib

inductive Outcome (σ ε α : Type) where
  | ok (a : α) (s : σ)
  | raised (e : ε) (s : σ)
  | diverged

structure Prog (σ ε α : Type) where
  run : Nat → σ → Outcome σ ε α
  mono : ∀ {n m : Nat} {s : σ}, n ≤ m → run n s ≠ .diverged → run m s = run n s

namespace Prog
variable {σ τ ε α β γ : Type}

def ret (a : α) : Prog σ ε α := ⟨fun _ s => .ok a s,fun _ _ => rfl⟩

def seq (x : Prog σ ε α) (f : α → Prog σ ε β) : Prog σ ε β where
  run n s :=
    match x.run n s with
    | .ok a s' => (f a).run n s'
    | .raised e s' => .raised e s'
    | .diverged => .diverged
  mono := by
    intro n m s hnm h
    have hx : x.run n s ≠ .diverged := by
      intro hd
      simp [hd] at h
    simp only [x.mono hnm hx]
    cases hr : x.run n s with
    | ok a s' =>
      simp only [hr] at h
      exact (f a).mono hnm h
    | raised e s' => rfl
    | diverged => exact absurd hr hx

instance : Monad (Prog σ ε) where
  pure := ret
  bind := seq

def ofFun (f : σ → Except ε α × σ) : Prog σ ε α where
  run _ s :=
    match f s with
    | (.ok a,s') => .ok a s'
    | (.error e,s') => .raised e s'
  mono := fun _ _ => rfl

def raise (e : ε) : Prog σ ε α := ⟨fun _ s => .raised e s,fun _ _ => rfl⟩

def get : Prog σ ε σ := ⟨fun _ s => .ok s s,fun _ _ => rfl⟩

def modify (f : σ → σ) : Prog σ ε Unit := ⟨fun _ s => .ok () (f s),fun _ _ => rfl⟩

/-- `try x except e: handler e`; the handler sees the state `x` left behind. -/
def tryCatch (x : Prog σ ε α) (handler : ε → Prog σ ε α) : Prog σ ε α where
  run n s :=
    match x.run n s with
    | .ok a s' => .ok a s'
    | .raised e s' => (handler e).run n s'
    | .diverged => .diverged
  mono := by
    intro n m s hnm h
    have hx : x.run n s ≠ .diverged := by
      intro hd
      simp [hd] at h
    simp only [x.mono hnm hx]
    cases hr : x.run n s with
    | ok a s' => rfl
    | raised e s' =>
      simp only [hr] at h
      exact (handler e).mono hnm h
    | diverged => exact absurd hr hx

def attempt (x : Prog σ ε α) : Prog σ ε (Except ε α) where
  run n s :=
    match x.run n s with
    | .ok a s' => .ok (.ok a) s'
    | .raised e s' => .ok (.error e) s'
    | .diverged => .diverged
  mono := by
    intro n m s hnm h
    have hx : x.run n s ≠ .diverged := by
      intro hd
      simp [hd] at h
    simp only [x.mono hnm hx]

def zoom (part : σ → τ) (put : τ → σ → σ) (x : Prog τ ε α) : Prog σ ε α where
  run n s :=
    match x.run n (part s) with
    | .ok a t => .ok a (put t s)
    | .raised e t => .raised e (put t s)
    | .diverged => .diverged
  mono := by
    intro n m s hnm h
    have hx : x.run n (part s) ≠ .diverged := by
      intro hd
      simp [hd] at h
    simp only [x.mono hnm hx]

/-- `k` rounds of a loop whose body gets the bound `n`. -/
def rounds (body : β → Prog σ ε (β ⊕ α)) (n : Nat) : Nat → β → σ → Outcome σ ε α
  | 0,_,_ => .diverged
  | k+1,b,s =>
    match (body b).run n s with
    | .ok (.inl b') s' => rounds body n k b' s'
    | .ok (.inr a) s' => .ok a s'
    | .raised e s' => .raised e s'
    | .diverged => .diverged

variable {s : σ}

theorem rounds_mono (body : β → Prog σ ε (β ⊕ α)) {n m k l : Nat} {b : β}
    (hnm : n ≤ m) (hkl : k ≤ l) (h : rounds body n k b s ≠ .diverged) :
    rounds body m l b s = rounds body n k b s := by
  induction k generalizing l b s with
  | zero => exact absurd rfl h
  | succ k ih =>
    obtain ⟨l,rfl⟩ : ∃ l', l = l'+1 := ⟨l-1,by omega⟩
    have hb : (body b).run n s ≠ .diverged := by
      intro hd
      simp [rounds,hd] at h
    simp only [rounds,(body b).mono hnm hb]
    cases hr : (body b).run n s with
    | ok r s' =>
      cases r with
      | inl b' =>
        simp only [rounds,hr] at h
        exact ih (by omega) h
      | inr a => rfl
    | raised e s' => rfl
    | diverged => rfl

/-- `while True: body`, with a loop variable; `inr` leaves the loop. -/
def iterate (body : β → Prog σ ε (β ⊕ α)) (b : β) : Prog σ ε α where
  run n s := rounds body n n b s
  mono := fun hnm h => rounds_mono body hnm hnm h

def forEach (body : β → Prog σ ε Unit) : List β → Prog σ ε Unit
  | [] => ret ()
  | b :: rest => seq (body b) fun _ => forEach body rest

@[simp] theorem run_pure (a : α) (n : Nat) (s : σ) : (pure a : Prog σ ε α).run n s = .ok a s := rfl

variable (x : Prog σ ε α)

theorem run_bind (f : α → Prog σ ε β) (n : Nat) (s : σ) : (x >>= f).run n s =
      match x.run n s with
      | .ok a s' => (f a).run n s'
      | .raised e s' => .raised e s'
      | .diverged => .diverged := rfl

@[simp] theorem run_get (n : Nat) (s : σ) : (get : Prog σ ε σ).run n s = .ok s s := rfl

@[simp] theorem run_modify (f : σ → σ) (n : Nat) (s : σ) :
    (modify f : Prog σ ε Unit).run n s = .ok () (f s) := rfl

@[simp] theorem run_raise (e : ε) (n : Nat) (s : σ) :
    (raise e : Prog σ ε α).run n s = .raised e s := rfl

theorem run_ofFun (f : σ → Except ε α × σ) (n : Nat) (s : σ) : (ofFun f).run n s =
      match f s with
      | (.ok a,s') => .ok a s'
      | (.error e,s') => .raised e s' := rfl

theorem run_attempt (n : Nat) (s : σ) : (attempt x).run n s =
      match x.run n s with
      | .ok a s' => .ok (.ok a) s'
      | .raised e s' => .ok (.error e) s'
      | .diverged => .diverged := rfl

@[simp] theorem run_forEach_nil (body : β → Prog σ ε Unit) (n : Nat) (s : σ) :
    (forEach body []).run n s = .ok () s := rfl

theorem run_forEach_cons (body : β → Prog σ ε Unit) (b : β) (rest : List β) (n : Nat) (s : σ) :
    (forEach body (b :: rest)).run n s =
      match (body b).run n s with
      | .ok _ s' => (forEach body rest).run n s'
      | .raised e s' => .raised e s'
      | .diverged => .diverged := by
  simp only [forEach,seq]
  cases (body b).run n s with
  | ok | raised | diverged => rfl

theorem run_zoom (part : σ → τ) (put : τ → σ → σ) (x : Prog τ ε α) (n : Nat) (s : σ) :
    (zoom part put x).run n s =
      match x.run n (part s) with
      | .ok a t => .ok a (put t s)
      | .raised e t => .raised e (put t s)
      | .diverged => .diverged := rfl

theorem ext_run {x y : Prog σ ε α} (h : ∀ n s, x.run n s = y.run n s) : x = y := by
  cases x
  cases y
  congr
  funext n s
  exact h n s

theorem bind_pure_left (a : α) (f : α → Prog σ ε β) : (pure a >>= f : Prog σ ε β) = f a := rfl

theorem bind_assoc (f : α → Prog σ ε β) (g : β → Prog σ ε γ) :
    x >>= f >>= g = x >>= fun a => f a >>= g := by
  apply ext_run
  intro n s
  simp only [run_bind]
  cases x.run n s <;> rfl

/-- From `P`, whatever bound is given: a return satisfies `Q`, a raise satisfies `E`. -/
def Triple (P : σ → Prop) (x : Prog σ ε α) (Q : α → σ → Prop) (E : ε → σ → Prop) : Prop :=
  ∀ n s, P s →
    match x.run n s with
    | .ok a s' => Q a s'
    | .raised e s' => E e s'
    | .diverged => True

namespace Triple
variable {P P' : σ → Prop} {Q Q' : α → σ → Prop} {E E' M : ε → σ → Prop} {R : β → σ → Prop}
variable {x : Prog σ ε α} {f : α → Prog σ ε β}

section
variable (h : Triple P x Q E)
include h

theorem ok {n : Nat} {s s' : σ} {a : α} (hp : P s) (hr : x.run n s = .ok a s') : Q a s' := by
  have := h n s hp
  rwa [hr] at this

theorem raised {n : Nat} {s s' : σ} {e : ε} (hp : P s)
    (hr : x.run n s = .raised e s') : E e s' := by
  have := h n s hp
  rwa [hr] at this

theorem conseq (hp : ∀ s, P' s → P s) (hq : ∀ a s, Q a s → Q' a s)
    (he : ∀ e s, E e s → E' e s) : Triple P' x Q' E' := by
  intro n s hs
  have := h n s (hp s hs)
  cases hr : x.run n s with
  | ok a s' => rw [hr] at this; exact hq a s' this
  | raised e s' => rw [hr] at this; exact he e s' this
  | diverged => trivial

theorem pre (hp : ∀ s, P' s → P s) : Triple P' x Q E :=
  h.conseq hp (fun _ _ h => h) (fun _ _ h => h)

theorem post (hq : ∀ a s, Q a s → Q' a s) : Triple P x Q' E :=
  h.conseq (fun _ h => h) hq (fun _ _ h => h)

end

theorem any : Triple P x (fun _ _ => True) (fun _ _ => True) := by
  intro n s _
  cases x.run n s <;> trivial

theorem given {φ : Prop} (h : φ → Triple P x Q E) : Triple (fun s => φ ∧ P s) x Q E :=
  fun n s hs => h hs.1 n s hs.2

theorem pure {a : α} (h : ∀ s, P s → Q a s) : Triple P (pure a) Q E := fun _ s hs => h s hs

theorem bind (hx : Triple P x Q E) (hf : ∀ a, Triple (Q a) (f a) R E) : Triple P (x >>= f) R E := by
  intro n s hs
  have := hx n s hs
  rw [run_bind]
  cases hr : x.run n s with
  | ok a s' => rw [hr] at this; exact hf a n s' this
  | raised e s' => rw [hr] at this; exact this
  | diverged => trivial

theorem raise {e : ε} (h : ∀ s, P s → E e s) : Triple P (raise e : Prog σ ε α) Q E :=
  fun _ s hs => h s hs

theorem get {Q : σ → σ → Prop} (h : ∀ s, P s → Q s s) : Triple P (get : Prog σ ε σ) Q E :=
  fun _ s hs => h s hs

theorem modify {g : σ → σ} {Q : Unit → σ → Prop} (h : ∀ s, P s → Q () (g s)) :
    Triple P (modify g : Prog σ ε Unit) Q E := fun _ s hs => h s hs

theorem ofFun {g : σ → Except ε α × σ} (hok : ∀ s a s', P s → g s = (.ok a,s') → Q a s')
    (herr : ∀ s e s', P s → g s = (.error e,s') → E e s') : Triple P (ofFun g) Q E := by
  intro n s hs
  simp only [Prog.ofFun]
  cases hg : g s with
  | mk r s' =>
    cases r with
    | ok a => exact hok s a s' hs hg
    | error e => exact herr s e s' hs hg

theorem tryCatch {handler : ε → Prog σ ε α} (hx : Triple P x Q M)
    (hh : ∀ e, Triple (M e) (handler e) Q E) : Triple P (tryCatch x handler) Q E := by
  intro n s hs
  have := hx n s hs
  simp only [Prog.tryCatch]
  cases hr : x.run n s with
  | ok a s' => rw [hr] at this; exact this
  | raised e s' => rw [hr] at this; exact hh e n s' this
  | diverged => trivial

theorem attempt {R : Except ε α → σ → Prop} (hx : Triple P x Q M)
    (hok : ∀ a s, Q a s → R (.ok a) s) (herr : ∀ e s, M e s → R (.error e) s) :
    Triple P (attempt x) R E := by
  intro n s hs
  have := hx n s hs
  simp only [Prog.attempt]
  cases hr : x.run n s with
  | ok a s' => rw [hr] at this; exact hok a s' this
  | raised e s' => rw [hr] at this; exact herr e s' this
  | diverged => trivial

theorem or {N : σ → Prop} (h : Triple P x Q E) (h' : Triple N x Q E) :
    Triple (fun s => P s ∨ N s) x Q E := fun n s hs => hs.elim (h n s) (h' n s)

theorem and (h : Triple P x Q E) (h' : Triple P' x Q' E') :
    Triple (fun s => P s ∧ P' s) x (fun a s => Q a s ∧ Q' a s) (fun e s => E e s ∧ E' e s) := by
  intro n s hs
  have h₁ := h n s hs.1
  have h₂ := h' n s hs.2
  cases hr : x.run n s with
  | ok a s' => rw [hr] at h₁ h₂; exact ⟨h₁,h₂⟩
  | raised e s' => rw [hr] at h₁ h₂; exact ⟨h₁,h₂⟩
  | diverged => trivial

theorem zoom {part : σ → τ} {put : τ → σ → σ} {y : Prog τ ε α}
    (hok : ∀ s a t, P s → Q a (put t s)) (herr : ∀ s e t, P s → E e (put t s)) :
    Triple P (zoom part put y) Q E := by
  intro n s hs
  simp only [Prog.zoom]
  cases y.run n (part s) with
  | ok a t => exact hok s a t hs
  | raised e t => exact herr s e t hs
  | diverged => trivial

theorem ite {c : Prop} [Decidable c] {y z : Prog σ ε α} (hy : c → Triple P y Q E)
    (hz : ¬ c → Triple P z Q E) : Triple P (if c then y else z) Q E := by
  split
  · exact hy ‹_›
  · exact hz ‹_›

/-- The loop rule: `I` holds at the head of every round. -/
theorem iterate {body : β → Prog σ ε (β ⊕ α)} {b : β} {I : β → σ → Prop}
    (hbody : ∀ b, Triple (I b) (body b)
      (fun r s => match r with | .inl b' => I b' s | .inr a => Q a s) E) :
    Triple (I b) (iterate body b) Q E := by
  intro n s hs
  suffices ∀ k b s, I b s →
      match rounds body n k b s with
      | .ok a s' => Q a s'
      | .raised e s' => E e s'
      | .diverged => True from this n b s hs
  intro k
  induction k with
  | zero => intro b s _; trivial
  | succ k ih =>
    intro b s hs
    have h := hbody b n s hs
    simp only [rounds]
    cases hr : (body b).run n s with
    | ok r s' =>
      rw [hr] at h
      cases r with
      | inl b' => exact ih b' s' h
      | inr a => exact h
    | raised e s' => rw [hr] at h; exact h
    | diverged => trivial

end Triple

/-- `x` leaves the invariant `I` in place, whether it returns or raises. -/
abbrev Keeps (I : σ → Prop) (x : Prog σ ε α) : Prop := Triple I x (fun _ => I) (fun _ => I)

theorem keeps_ofFun {I : σ → Prop} {g : σ → Except ε α × σ} (h : ∀ s, I s → I (g s).2) :
    Keeps I (ofFun g) := by
  refine Triple.ofFun ?_ ?_
  · intro s a s' hs hg
    have := h s hs
    rwa [hg] at this
  · intro s e s' hs hg
    have := h s hs
    rwa [hg] at this

theorem keeps_forEach {I : σ → Prop} {body : β → Prog σ ε Unit} (h : ∀ b, Keeps I (body b))
    (l : List β) : Keeps I (forEach body l) := by
  induction l with
  | nil => exact .pure fun _ h => h
  | cons b rest ih => exact .bind (h b) fun _ => ih

/-- `x` ends in `s'`, by returning or by raising. -/
def Leaves (x : Prog σ ε α) (s s' : σ) : Prop :=
  ∃ n, (∃ a, x.run n s = .ok a s') ∨ ∃ e, x.run n s = .raised e s'

variable {x : Prog σ ε α}

theorem Triple.leaves {P I : σ → Prop} {s s' : σ}
    (h : Triple P x (fun _ => I) (fun _ => I)) (hs : P s) (hx : x.Leaves s s') : I s' := by
  obtain ⟨n,⟨a,hr⟩ | ⟨e,hr⟩⟩ := hx
  · exact h.ok hs hr
  · exact h.raised hs hr

def runAll (n : Nat) : List (Prog σ ε α) → σ → Option σ
  | [],s => some s
  | x :: rest,s =>
    match x.run n s with
    | .ok _ s' | .raised _ s' => runAll n rest s'
    | .diverged => none

theorem runAll_chain {R : σ → σ → Prop} {n : Nat} {xs : List (Prog σ ε α)} {s s' : σ}
    (hR : ∀ x ∈ xs, ∀ s s', x.Leaves s s' → R s s') (h : runAll n xs s = some s') :
    Relation.ReflTransGen R s s' := by
  induction xs generalizing s with
  | nil =>
    cases h
    exact .refl
  | cons x rest ih =>
    have hrest := fun t ht => ih (s := t) (fun y hy => hR y (List.mem_cons_of_mem _ hy)) ht
    simp only [runAll] at h
    cases hr : x.run n s with
    | ok a t =>
      rw [hr] at h
      exact .head (hR x List.mem_cons_self s t ⟨n,Or.inl ⟨a,hr⟩⟩) (hrest t h)
    | raised e t =>
      rw [hr] at h
      exact .head (hR x List.mem_cons_self s t ⟨n,Or.inr ⟨e,hr⟩⟩) (hrest t h)
    | diverged =>
      rw [hr] at h
      cases h

/-- `x` returns or raises from `s`, given enough rounds. -/
def Halts (x : Prog σ ε α) (s : σ) : Prop := ∃ n, x.run n s ≠ .diverged

theorem Halts.cases (h : x.Halts s) :
    (∃ n a s', x.run n s = .ok a s') ∨ ∃ n e s', x.run n s = .raised e s' := by
  obtain ⟨n,hn⟩ := h
  cases hr : x.run n s with
  | ok a s' => exact Or.inl ⟨n,a,s',hr⟩
  | raised e s' => exact Or.inr ⟨n,e,s',hr⟩
  | diverged => exact absurd hr hn

theorem halts_bind {f : α → Prog σ ε β} (hx : x.Halts s)
    (hf : ∀ n a s', x.run n s = .ok a s' → (f a).Halts s') : (x >>= f).Halts s := by
  rcases hx.cases with ⟨n,a,s',hr⟩ | ⟨n,e,s',hr⟩
  · obtain ⟨m,hm⟩ := hf n a s' hr
    refine ⟨max n m,?_⟩
    have hx' := x.mono (Nat.le_max_left n m) (by rw [hr]; simp : x.run n s ≠ .diverged)
    rw [run_bind,hx',hr]
    simpa only [(f a).mono (Nat.le_max_right n m) hm] using hm
  · exact ⟨n,by rw [run_bind,hr]; simp⟩

theorem halts_ofFun (f : σ → Except ε α × σ) (s : σ) : (ofFun f).Halts s := by
  refine ⟨0,?_⟩
  rw [run_ofFun]
  split <;> simp

theorem halts_attempt (hx : x.Halts s) : (attempt x).Halts s := by
  obtain ⟨n,hn⟩ := hx
  refine ⟨n,?_⟩
  rw [run_attempt]
  cases hr : x.run n s with
  | ok a s' => simp
  | raised e s' => simp
  | diverged => exact absurd hr hn

theorem halts_tryCatch {handler : ε → Prog σ ε α} (hx : x.Halts s)
    (hh : ∀ n e s', x.run n s = .raised e s' → (handler e).Halts s') :
    (tryCatch x handler).Halts s := by
  rcases hx.cases with ⟨n,a,s',hr⟩ | ⟨n,e,s',hr⟩
  · exact ⟨n,by simp [tryCatch,hr]⟩
  · obtain ⟨m,hm⟩ := hh n e s' hr
    refine ⟨max n m,?_⟩
    have hx' := x.mono (Nat.le_max_left n m) (by rw [hr]; simp : x.run n s ≠ .diverged)
    simp only [tryCatch,hx',hr]
    simpa only [(handler e).mono (Nat.le_max_right n m) hm] using hm

theorem halts_zoom {part : σ → τ} {put : τ → σ → σ} {x : Prog τ ε α}
    (hx : x.Halts (part s)) : (zoom part put x).Halts s := by
  obtain ⟨n,hn⟩ := hx
  refine ⟨n,?_⟩
  simp only [zoom]
  cases hr : x.run n (part s) with
  | ok a t => simp
  | raised e t => simp
  | diverged => exact absurd hr hn

structure Total (P : σ → Prop) (x : Prog σ ε α) (Q : α → σ → Prop) (E : ε → σ → Prop) : Prop where
  triple : Triple P x Q E
  halts : ∀ s, P s → x.Halts s

namespace Total
variable {P P' : σ → Prop} {Q Q' : α → σ → Prop} {E E' M : ε → σ → Prop} {R : β → σ → Prop}
variable {x : Prog σ ε α} {f : α → Prog σ ε β}

theorem conseq (h : Total P x Q E) (hp : ∀ s, P' s → P s) (hq : ∀ a s, Q a s → Q' a s)
    (he : ∀ e s, E e s → E' e s) : Total P' x Q' E' :=
  ⟨h.triple.conseq hp hq he,fun s hs => h.halts s (hp s hs)⟩

theorem pre (h : Total P x Q E) (hp : ∀ s, P' s → P s) : Total P' x Q E :=
  h.conseq hp (fun _ _ h => h) (fun _ _ h => h)

theorem each (h : ∀ s₀, P s₀ → Total (fun s => s = s₀) x Q E) : Total P x Q E where
  triple n s hs := (h s hs).triple n s rfl
  halts s hs := (h s hs).halts s rfl

theorem pure {a : α} (h : ∀ s, P s → Q a s) : Total P (pure a) Q E :=
  ⟨Triple.pure h,fun _ _ => ⟨0,by simp⟩⟩

theorem raise {e : ε} (h : ∀ s, P s → E e s) : Total P (raise e : Prog σ ε α) Q E :=
  ⟨Triple.raise h,fun _ _ => ⟨0,by simp⟩⟩

theorem get {Q : σ → σ → Prop} (h : ∀ s, P s → Q s s) : Total P (get : Prog σ ε σ) Q E :=
  ⟨Triple.get h,fun _ _ => ⟨0,by simp⟩⟩

theorem modify {g : σ → σ} {Q : Unit → σ → Prop} (h : ∀ s, P s → Q () (g s)) :
    Total P (modify g : Prog σ ε Unit) Q E :=
  ⟨Triple.modify h,fun _ _ => ⟨0,by simp⟩⟩

theorem ofFun {g : σ → Except ε α × σ} (hok : ∀ s a s', P s → g s = (.ok a,s') → Q a s')
    (herr : ∀ s e s', P s → g s = (.error e,s') → E e s') : Total P (ofFun g) Q E :=
  ⟨Triple.ofFun hok herr,fun s _ => halts_ofFun g s⟩

theorem bind (hx : Total P x Q E) (hf : ∀ a, Total (Q a) (f a) R E) : Total P (x >>= f) R E where
  triple := hx.triple.bind fun a => (hf a).triple
  halts s hs := halts_bind (hx.halts s hs) fun _ a s' hr =>
    (hf a).halts s' (hx.triple.ok hs hr)

theorem attempt {R : Except ε α → σ → Prop} (hx : Total P x Q M)
    (hok : ∀ a s, Q a s → R (.ok a) s) (herr : ∀ e s, M e s → R (.error e) s) :
    Total P (attempt x) R E :=
  ⟨hx.triple.attempt hok herr,fun s hs => halts_attempt (hx.halts s hs)⟩

theorem tryCatch {handler : ε → Prog σ ε α} (hx : Total P x Q M)
    (hh : ∀ e, Total (M e) (handler e) Q E) : Total P (tryCatch x handler) Q E where
  triple := hx.triple.tryCatch fun e => (hh e).triple
  halts s hs := halts_tryCatch (hx.halts s hs) fun _ e s' hr =>
    (hh e).halts s' (hx.triple.raised hs hr)

theorem zoom {part : σ → τ} {put : τ → σ → σ} {y : Prog τ ε α}
    (hy : ∀ s, P s → Total (fun t => t = part s) y (fun a t => Q a (put t s))
      (fun e t => E e (put t s))) : Total P (zoom part put y) Q E where
  triple n s hs := by
    have := (hy s hs).triple n (part s) rfl
    simp only [Prog.zoom]
    cases hr : y.run n (part s) with
    | ok a t => rw [hr] at this; exact this
    | raised e t => rw [hr] at this; exact this
    | diverged => trivial
  halts s hs := halts_zoom ((hy s hs).halts _ rfl)

theorem ite {c : Prop} [Decidable c] {y z : Prog σ ε α} (hy : c → Total P y Q E)
    (hz : ¬ c → Total P z Q E) : Total P (if c then y else z) Q E := by
  split
  · exact hy ‹_›
  · exact hz ‹_›

theorem and (h : Total P x Q E) (h' : Total P x Q' E') :
    Total P x (fun a s => Q a s ∧ Q' a s) (fun e s => E e s ∧ E' e s) where
  triple := (h.triple.and h'.triple).pre fun _ hs => ⟨hs,hs⟩
  halts := h.halts

/-- The invariant of a loop over a list speaks of what is left of the list. -/
theorem forEach {body : β → Prog σ ε Unit} {I : List β → σ → Prop}
    (hbody : ∀ b rest, Total (I (b :: rest)) (body b) (fun _ => I rest) E) (l : List β) :
    Total (I l) (forEach body l) (fun _ => I []) E := by
  induction l with
  | nil => exact Total.pure fun _ h => h
  | cons b rest ih => exact Total.bind (hbody b rest) fun _ => ih

end Total

/-- `x` halts and leaves the invariant in place, whether it returns or raises. -/
abbrev Settles (I : σ → Prop) (x : Prog σ ε α) : Prop := Total I x (fun _ => I) (fun _ => I)

end Prog
end ExperimentControl.Lib

import Mathlib.Data.List.Basic

/-!
Runs of a step function over a list of inputs, the rule that carries an invariant along a run whose
inputs meet a condition, and logs that are written at their end.
-/

namespace ExperimentControl.Lib
open List

section
variable {σ ι : Type}

def run (step : σ → ι → σ) (s : σ) (inputs : List ι) : σ := inputs.foldl step s

variable (step : σ → ι → σ)

@[simp] theorem run_nil (s : σ) : run step s [] = s := rfl

@[simp] theorem run_cons (s : σ) (i : ι) (rest : List ι) :
    run step s (i :: rest) = run step (step s i) rest := rfl

/-- Every input of the run meets the condition in the state that it finds. -/
def Meets (ok : σ → ι → Prop) : σ → List ι → Prop
  | _,[] => True
  | s,i :: rest => ok s i ∧ Meets ok (step s i) rest

instance decidableMeets (ok : σ → ι → Prop) [∀ s i, Decidable (ok s i)] :
    (s : σ) → (inputs : List ι) → Decidable (Meets step ok s inputs)
  | _,[] => isTrue trivial
  | s,i :: rest =>
    have := decidableMeets ok (step s i) rest
    inferInstanceAs (Decidable (ok s i ∧ Meets step ok (step s i) rest))

variable {step}

variable {ok ok' : σ → ι → Prop} {P : σ → Prop} {s : σ}

theorem Meets.congr (hstep : ∀ s i, P s → P (step s i))
    (hiff : ∀ s i, P s → (ok s i ↔ ok' s i)) (h : P s) (inputs : List ι) :
    Meets step ok s inputs ↔ Meets step ok' s inputs := by
  induction inputs generalizing s with
  | nil => exact Iff.rfl
  | cons i rest ih => exact and_congr (hiff s i h) (ih (hstep s i h))

variable {inputs : List ι}

theorem Meets.invariant {ok : σ → ι → Prop} (hstep : ∀ s i, P s → ok s i → P (step s i))
    (hmeets : Meets step ok s inputs) (h : P s) : P (run step s inputs) := by
  induction inputs generalizing s with
  | nil => exact h
  | cons i rest ih => exact ih hmeets.2 (hstep s i h hmeets.1)

theorem Meets.and (h : Meets step ok s inputs)
    (h' : Meets step ok' s inputs) : Meets step (fun s i => ok s i ∧ ok' s i) s inputs := by
  induction inputs generalizing s with
  | nil => trivial
  | cons i rest ih => exact ⟨⟨h.1,h'.1⟩,ih h.2 h'.2⟩

theorem Meets.imp (hstep : ∀ s i, P s → ok s i → ok' s i ∧ P (step s i))
    (hmeets : Meets step ok s inputs) (h : P s) : Meets step ok' s inputs := by
  induction inputs generalizing s with
  | nil => trivial
  | cons i rest ih =>
    obtain ⟨hhere,hnext⟩ := hstep s i h hmeets.1
    exact ⟨hhere,ih hmeets.2 hnext⟩

theorem meets_inputs {ok : ι → Prop} :
    Meets step (fun _ i => ok i) s inputs ↔ ∀ i ∈ inputs, ok i := by
  induction inputs generalizing s with
  | nil => simp [Meets]
  | cons i rest ih => simp [Meets,ih]

/-- Where a step keeps the property just when it meets the condition, the property holds all along
the run just when the run meets the condition. -/
theorem Meets.iff_always {ok : σ → ι → Prop}
    (hstep : ∀ s i, P s → (P (step s i) ↔ ok s i)) (h : P s) (inputs : List ι) :
    (∀ reached, reached <+: inputs → P (run step s reached)) ↔ Meets step ok s inputs := by
  constructor
  · intro halways
    induction inputs generalizing s with
    | nil => trivial
    | cons i rest ih =>
      have hnext : P (step s i) := halways [i] (by simp)
      refine ⟨(hstep s i h).1 hnext,ih hnext fun reached hreached => ?_⟩
      exact halways (i :: reached) (cons_prefix_cons.2 ⟨rfl,hreached⟩)
  · intro hmeets reached hreached
    induction inputs generalizing s reached with
    | nil => simpa [prefix_nil.1 hreached] using h
    | cons i rest ih =>
      cases reached with
      | nil => exact h
      | cons j reached =>
        obtain ⟨rfl,hrest⟩ := cons_prefix_cons.1 hreached
        exact ih ((hstep s j h).2 hmeets.1) hmeets.2 reached hrest

theorem run_invariant (hstep : ∀ s i, P s → P (step s i)) (h : P s)
    (inputs : List ι) : P (run step s inputs) := by
  induction inputs generalizing s with
  | nil => exact h
  | cons i rest ih => exact ih (hstep s i h)

end

variable {ε : Type}

/-- Every entry of the log is allowed by those before it. -/
def Justified (allowed : List ε → ε → Prop) (log : List ε) : Prop :=
  ∀ before e after, log = before ++ e :: after → allowed before e

variable {allowed : List ε → ε → Prop} {log : List ε}

@[simp] theorem justified_nil : Justified allowed [] := by
  intro before e after h
  simp at h

theorem justified_append_singleton {e : ε} :
    Justified allowed (log ++ [e]) ↔ Justified allowed log ∧ allowed log e := by
  constructor
  · intro h
    refine ⟨fun before x after hlog => h before x (after ++ [e]) (by simp [hlog]),?_⟩
    exact h log e [] rfl
  · rintro ⟨hlog,he⟩ before x after heq
    rcases eq_nil_or_concat after with rfl | ⟨init,last,rfl⟩
    · obtain ⟨rfl,hx⟩ := append_inj' heq rfl
      obtain rfl : e = x := by simpa using hx
      exact he
    · rw [concat_eq_append,← cons_append,← append_assoc] at heq
      exact hlog before x init (append_inj_left' heq rfl)

end ExperimentControl.Lib

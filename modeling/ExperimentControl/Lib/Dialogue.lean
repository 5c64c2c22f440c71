import Mathlib.Data.List.Basic
import Mathlib.Logic.Relation

/-!
Programs that talk to their surroundings: they issue calls, and go on with whatever is answered.
-/

namespace ExperimentControl.Lib
open List

inductive Dialogue (Call Answer ε α : Type) where
  | done (a : α)
  | raise (e : ε)
  | call (c : Call) (k : Answer → Dialogue Call Answer ε α)
  | choose (k : Bool → Dialogue Call Answer ε α)

namespace Dialogue
variable {Call Answer ε α β : Type}

def bind (x : Dialogue Call Answer ε α) (f : α → Dialogue Call Answer ε β) :
    Dialogue Call Answer ε β :=
  match x with
  | .done a => f a
  | .raise e => .raise e
  | .call c k => .call c fun a => (k a).bind f
  | .choose k => .choose fun b => (k b).bind f

instance : Monad (Dialogue Call Answer ε) where
  pure := .done
  bind := bind

def ask (c : Call) : Dialogue Call Answer ε Answer := .call c .done

def flip : Dialogue Call Answer ε Bool := .choose .done

def ended : Dialogue Call Answer ε α → Bool
  | .done _ | .raise _ => true
  | .call _ _ | .choose _ => false

/-- `try`: an exception becomes a value. -/
def attempt : Dialogue Call Answer ε α → Dialogue Call Answer ε (Except ε α)
  | .done a => .done (.ok a)
  | .raise e => .done (.error e)
  | .call c k => .call c fun a => (k a).attempt
  | .choose k => .choose fun b => (k b).attempt

/-- Whatever is answered, `Q` holds of the calls and the outcome at the end, when `tr` has been
said before. -/
def Sat (Q : List (Call × Answer) → Except ε α → Prop) (tr : List (Call × Answer)) :
    Dialogue Call Answer ε α → Prop
  | .done a => Q tr (.ok a)
  | .raise e => Q tr (.error e)
  | .call c k => ∀ a, Sat Q (tr ++ [(c,a)]) (k a)
  | .choose k => ∀ b, Sat Q tr (k b)

variable {Q Q' : List (Call × Answer) → Except ε α → Prop} {tr : List (Call × Answer)}
variable {R : List (Call × Answer) → Except ε β → Prop}

variable {x : Dialogue Call Answer ε α}

theorem Sat.mono (h : Sat Q tr x) (hq : ∀ tr r, Q tr r → Q' tr r) : Sat Q' tr x := by
  induction x generalizing tr with
  | done a => exact hq _ _ h
  | raise e => exact hq _ _ h
  | call c k ih => exact fun a => ih a (h a)
  | choose k ih => exact fun b => ih b (h b)

theorem Sat.all (h : ∀ tr r, Q tr r) (x : Dialogue Call Answer ε α) : Sat Q tr x := by
  induction x generalizing tr with
  | done a => exact h _ _
  | raise e => exact h _ _
  | call c k ih => exact fun a => ih a
  | choose k ih => exact fun b => ih b

theorem Sat.bind {f : α → Dialogue Call Answer ε β}
    (h : Sat (fun tr r => match r with
      | .ok a => Sat R tr (f a)
      | .error e => R tr (.error e)) tr x) : Sat R tr (x >>= f) := by
  induction x generalizing tr with
  | done a => exact h
  | raise e => exact h
  | call c k ih => exact fun a => ih a (h a)
  | choose k ih => exact fun b => ih b (h b)

theorem Sat.attempt {R : List (Call × Answer) → Except ε (Except ε α) → Prop}
    (h : Sat (fun tr r => R tr (.ok r)) tr x) :
    Sat R tr x.attempt := by
  induction x generalizing tr with
  | done a => exact h
  | raise e => exact h
  | call c k ih => exact fun a => ih a (h a)
  | choose k ih => exact fun b => ih b (h b)

theorem Sat.pure {a : α} (h : Q tr (.ok a)) : Sat Q tr (pure a : Dialogue Call Answer ε α) := h

theorem Sat.raise {e : ε} (h : Q tr (.error e)) : Sat Q tr (raise e : Dialogue Call Answer ε α) := h

theorem Sat.ask {Q : List (Call × Answer) → Except ε Answer → Prop} {c : Call}
    (h : ∀ a, Q (tr ++ [(c,a)]) (.ok a)) : Sat Q tr (ask c : Dialogue Call Answer ε Answer) := h

theorem Sat.flip {Q : List (Call × Answer) → Except ε Bool → Prop} (h : ∀ b, Q tr (.ok b)) :
    Sat Q tr (flip : Dialogue Call Answer ε Bool) := h

theorem Sat.ite {c : Prop} [Decidable c] {x y : Dialogue Call Answer ε α}
    (hx : c → Sat Q tr x) (hy : ¬ c → Sat Q tr y) : Sat Q tr (if c then x else y) := by
  split
  · exact hx ‹_›
  · exact hy ‹_›

end Dialogue

/-- The dialogues that have been begun, with what is left of them, and all that was said. -/
structure Crowd (κ Call Answer ε : Type) where
  ops : List (κ × Dialogue Call Answer ε Unit) := []
  log : List (Nat × Call × Answer) := []

namespace Crowd
variable {κ Call Answer ε : Type} {body : κ → Dialogue Call Answer ε Unit}
  {s s' : Crowd κ Call Answer ε}

inductive Step (body : κ → Dialogue Call Answer ε Unit) (s : Crowd κ Call Answer ε) :
    Crowd κ Call Answer ε → Prop where
  | begins (kind : κ) : Step body s { s with ops := s.ops ++ [(kind,body kind)] }
  | answered {i : Nat} {kind : κ} {c : Call} {k : Answer → Dialogue Call Answer ε Unit}
      (a : Answer) : s.ops[i]? = some (kind,.call c k) →
      Step body s { ops := s.ops.set i (kind,k a),log := s.log ++ [(i,c,a)] }
  | chosen {i : Nat} {kind : κ} {k : Bool → Dialogue Call Answer ε Unit} (b : Bool) :
      s.ops[i]? = some (kind,.choose k) →
      Step body s { s with ops := s.ops.set i (kind,k b) }

def Reachable (body : κ → Dialogue Call Answer ε Unit) (s : Crowd κ Call Answer ε) : Prop :=
  Relation.ReflTransGen (Step body) {} s

/-- What the dialogue number `i` has said. -/
def trace (s : Crowd κ Call Answer ε) (i : Nat) : List (Call × Answer) :=
  (s.log.filter fun e => e.1 = i).map Prod.snd

/-- The dialogue number `i` has come to its end. -/
def Completed (s : Crowd κ Call Answer ε) (i : Nat) (kind : κ) : Prop :=
  ∃ x, s.ops[i]? = some (kind,x) ∧ x.ended = true

/-- Every dialogue is on a way that ends in `Q`, and nothing is said by one that has not begun. -/
structure Kept (Q : κ → List (Call × Answer) → Except ε Unit → Prop)
    (s : Crowd κ Call Answer ε) : Prop where
  sat : ∀ i kind x, s.ops[i]? = some (kind,x) → Dialogue.Sat (Q kind) (s.trace i) x
  begun : ∀ e ∈ s.log, e.1 < s.ops.length

theorem trace_of_length_le {Q : κ → List (Call × Answer) → Except ε Unit → Prop} (h : Kept Q s)
    {i : Nat} (hi : s.ops.length ≤ i) : s.trace i = [] := by
  simp only [trace,map_eq_nil_iff,filter_eq_nil_iff,decide_eq_true_eq]
  intro e he heq
  have := h.begun e he
  omega

theorem trace_append (s : Crowd κ Call Answer ε) (ops : List (κ × Dialogue Call Answer ε Unit))
    (i j : Nat) (c : Call) (a : Answer) :
    ({ ops,log := s.log ++ [(j,c,a)] } : Crowd κ Call Answer ε).trace i =
      if j = i then s.trace i ++ [(c,a)] else s.trace i := by
  by_cases h : j = i
  · simp [trace,h]
  · simp [trace,h]

variable {Q : κ → List (Call × Answer) → Except ε Unit → Prop}

section
variable (hbody : ∀ kind, Dialogue.Sat (Q kind) [] (body kind))
include hbody

theorem Kept.step (h : Kept Q s) (hs : Step body s s') : Kept Q s' := by
  cases hs with
  | begins kind =>
    refine ⟨fun i kind' x hi => ?_,fun e he => ?_⟩
    · rw [getElem?_append] at hi
      split at hi
      · exact h.sat i kind' x hi
      · rename_i hlt
        have hnew : (kind',x) = (kind,body kind) := by
          have := mem_of_getElem? hi
          simpa using this
        cases hnew
        have hempty : s.trace i = [] := trace_of_length_le h (by omega)
        change Dialogue.Sat _ (s.trace i) _
        rw [hempty]
        exact hbody kind
    · have := h.begun e he
      simp only [length_append]
      omega
  | @answered j kind c k a hj =>
    refine ⟨fun i kind' x hi => ?_,fun e he => ?_⟩
    · rw [trace_append]
      by_cases hij : j = i
      · subst hij
        have hlt : j < s.ops.length := (List.getElem?_eq_some_iff.1 hj).1
        simp only [getElem?_set_self hlt] at hi
        cases hi
        rw [if_pos rfl]
        exact h.sat j kind _ hj a
      · simp only [getElem?_set_ne hij] at hi
        rw [if_neg hij]
        exact h.sat i kind' x hi
    · simp only [length_set]
      rcases mem_append.1 he with he | he
      · exact h.begun e he
      · rw [mem_singleton] at he
        subst he
        exact (List.getElem?_eq_some_iff.1 hj).1
  | @chosen j kind k b hj =>
    refine ⟨fun i kind' x hi => ?_,fun e he => ?_⟩
    · change Dialogue.Sat _ (s.trace i) _
      by_cases hij : j = i
      · subst hij
        have hlt : j < s.ops.length := (List.getElem?_eq_some_iff.1 hj).1
        simp only [getElem?_set_self hlt] at hi
        cases hi
        exact h.sat j kind _ hj b
      · simp only [getElem?_set_ne hij] at hi
        exact h.sat i kind' x hi
    · simp only [length_set]
      exact h.begun e he

theorem Reachable.kept (h : Reachable body s) : Kept Q s := by
  induction h with
  | refl => exact ⟨fun i kind x hi => by simp at hi,fun e he => by cases he⟩
  | tail _ hs ih => exact ih.step hbody hs

/-- What holds at the end of each dialogue on its own holds of each that has ended, whatever the
others have said in between. -/
theorem Reachable.completed (h : Reachable body s) {i : Nat} {kind : κ} (hi : s.Completed i kind) :
    ∃ r, Q kind (s.trace i) r := by
  obtain ⟨x,hx,hended⟩ := hi
  have hsat := (h.kept hbody).sat i kind x hx
  cases x with
  | done a => exact ⟨_,hsat⟩
  | raise e => exact ⟨_,hsat⟩
  | call c k => cases hended
  | choose k => cases hended

end

inductive Turn (κ Answer : Type) where
  | begins (kind : κ)
  | answers (i : Nat) (a : Answer)
  | chooses (i : Nat) (b : Bool)

def turn (body : κ → Dialogue Call Answer ε Unit) (s : Crowd κ Call Answer ε) :
    Turn κ Answer → Option (Crowd κ Call Answer ε)
  | .begins kind => some { s with ops := s.ops ++ [(kind,body kind)] }
  | .answers i a =>
    match s.ops[i]? with
    | some (kind,.call c k) => some { ops := s.ops.set i (kind,k a),log := s.log ++ [(i,c,a)] }
    | _ => none
  | .chooses i b =>
    match s.ops[i]? with
    | some (kind,.choose k) => some { s with ops := s.ops.set i (kind,k b) }
    | _ => none

def play (body : κ → Dialogue Call Answer ε Unit) :
    List (Turn κ Answer) → Crowd κ Call Answer ε → Option (Crowd κ Call Answer ε)
  | [],s => some s
  | t :: rest,s => (turn body s t).bind (play body rest)

def seen (s : Crowd κ Call Answer ε) : List (κ × Bool) × List (Nat × Call × Answer) :=
  (s.ops.map fun op => (op.1,op.2.ended),s.log)

theorem completed_of_seen {i : Nat} {kind : κ} (h : s.seen.1[i]? = some (kind,true)) :
    s.Completed i kind := by
  simp only [seen,getElem?_map,Option.map_eq_some_iff,Prod.mk.injEq] at h
  obtain ⟨⟨_,x⟩,hget,rfl,hended⟩ := h
  exact ⟨x,hget,hended⟩

theorem step_of_turn {t : Turn κ Answer} (h : turn body s t = some s') : Step body s s' := by
  cases t with
  | begins kind =>
    cases h
    exact .begins kind
  | answers i a =>
    simp only [turn] at h
    split at h
    · rename_i hi
      cases h
      exact .answered a hi
    · cases h
  | chooses i b =>
    simp only [turn] at h
    split at h
    · rename_i hi
      cases h
      exact .chosen b hi
    · cases h

theorem Reachable.play {turns : List (Turn κ Answer)} (hs : Reachable body s)
    (h : play body turns s = some s') : Reachable body s' := by
  induction turns generalizing s with
  | nil =>
    cases h
    exact hs
  | cons t rest ih =>
    obtain ⟨s₁,h₁,hrest⟩ := Option.bind_eq_some_iff.1 h
    exact ih (hs.tail (step_of_turn h₁)) hrest

end Crowd

end ExperimentControl.Lib

import Mathlib.Data.List.Basic

/-!
Computations that look names up in an environment and note which names they looked up.
-/

namespace ExperimentControl.Lib

variable {ν ω ε α β : Type}

def Read (ν ω ε α : Type) : Type := (ν → Option ω) → Except ε α × List ν

namespace Read

def result (x : Read ν ω ε α) (env : ν → Option ω) : Except ε α := (x env).1

def names (x : Read ν ω ε α) (env : ν → Option ω) : List ν := (x env).2

protected def ret (a : α) : Read ν ω ε α := fun _ => (.ok a,[])

protected def seq (x : Read ν ω ε α) (f : α → Read ν ω ε β) : Read ν ω ε β := fun env =>
  match x env with
  | (.ok a,read) => ((f a env).1,read ++ (f a env).2)
  | (.error e,read) => (.error e,read)

instance : Monad (Read ν ω ε) where
  pure := Read.ret
  bind := Read.seq

def fail (e : ε) : Read ν ω ε α := fun _ => (.error e,[])

def lookup (name : ν) : Read ν ω ε (Option ω) := fun env => (.ok (env name),[name])

def Local (x : Read ν ω ε α) : Prop :=
  ∀ env env', (∀ name ∈ x.names env, env' name = env name) → x env' = x env

theorem local_pure (a : α) : Local (pure a : Read ν ω ε α) := fun _ _ _ => rfl

theorem local_fail (e : ε) : Local (fail e : Read ν ω ε α) := fun _ _ _ => rfl

theorem local_lookup (name : ν) : Local (lookup name : Read ν ω ε (Option ω)) := by
  intro env env' h
  have hn := h name (by simp [names,lookup])
  simp [lookup,hn]

variable {x : Read ν ω ε α}

theorem local_bind {f : α → Read ν ω ε β} (hx : Local x)
    (hf : ∀ a, Local (f a)) : Local (x >>= f) := by
  intro env env' h
  change x.seq f env' = x.seq f env
  have hread : ∀ name ∈ x.names env, env' name = env name := by
    intro name hn
    apply h
    change name ∈ (x.seq f env).2
    simp only [Read.seq]
    cases hr : x env with
    | mk r read =>
      simp only [names,hr] at hn
      cases r with
      | ok a => exact List.mem_append_left _ hn
      | error e => exact hn
  simp only [Read.seq,hx env env' hread]
  cases hr : x env with
  | mk r read =>
    cases r with
    | error e => rfl
    | ok a =>
      have hfa := hf a env env' (by
        intro name hn
        apply h
        change name ∈ (x.seq f env).2
        simp only [Read.seq,hr]
        exact List.mem_append_right _ hn)
      simp only [hfa]

theorem local_ite {c : Prop} [Decidable c] {x y : Read ν ω ε α} (hx : Local x) (hy : Local y) :
    Local (if c then x else y) := by
  split
  · exact hx
  · exact hy

theorem Local.agree (hx : Local x) {env env' : ν → Option ω}
    (h : ∀ name ∈ x.names env, env' name = env name) :
    x.result env' = x.result env ∧ x.names env' = x.names env := by
  simp only [result,names,hx env env' h,and_self]

theorem pure_bind (a : α) (f : α → Read ν ω ε β) : (pure a >>= f) = f a := rfl

@[simp] theorem result_pure (a : α) (env : ν → Option ω) :
    (pure a : Read ν ω ε α).result env = .ok a := rfl

theorem result_bind (x : Read ν ω ε α) (f : α → Read ν ω ε β) (env : ν → Option ω) :
    (x >>= f).result env = (x.result env).bind fun a => (f a).result env := by
  change (x.seq f env).1 = _
  unfold Read.seq result
  rcases x env with ⟨r,read⟩
  cases r with
  | error e => rfl
  | ok a => rfl

theorem result_bind_ok {f : α → Read ν ω ε β} {env : ν → Option ω} {b : β}
    (h : (x >>= f).result env = .ok b) :
    ∃ a, x.result env = .ok a ∧ (f a).result env = .ok b := by
  change (x.seq f env).1 = .ok b at h
  unfold Read.seq at h
  unfold result
  rcases hx : x env with ⟨r,read⟩
  rw [hx] at h
  cases r with
  | error e => cases h
  | ok a => exact ⟨a,rfl,h⟩

end Read
end ExperimentControl.Lib

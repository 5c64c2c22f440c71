import ExperimentControl.Lib.Checks
import ExperimentControl.Lib.Dag
import Mathlib.Data.Finset.Card
import Mathlib.Data.List.Chain

/-!
A depth-first search in three colours: it fails just on the graphs that have a cycle, and as long as
it is given as much fuel as there are nodes it does not run out of it.
-/

namespace ExperimentControl.Lib
open List

variable {ι : Type}

/-- No node leads back to itself. -/
def Acyclic (r : ι → ι → Prop) : Prop := ∀ n, ¬ Relation.TransGen r n n

variable {succ : ι → List ι}

theorem reflTransGen_of_chain {path : List ι}
    (h : path.IsChain fun a b => b ∈ succ a) {last n : ι} (hlast : last ∈ path.getLast?) (hn : n ∈ path) :
    Relation.ReflTransGen (fun a b => b ∈ succ a) n last := by
  induction path generalizing n with
  | nil => simp at hn
  | cons first rest ih =>
    cases rest with
    | nil =>
      simp at hlast hn
      rw [hn,hlast]
    | cons second rest =>
      rw [isChain_cons_cons] at h
      rw [getLast?_cons_cons] at hlast
      cases mem_cons.1 hn with
      | inl heq =>
        rw [heq]
        exact .head h.1 (ih h.2 hlast (by simp))
      | inr hin => exact ih h.2 hlast hin

/-- A node that was not visited, one that is being visited, and one whose visit has ended. -/
inductive Colour where
  | white
  | grey
  | black
  deriving DecidableEq

/-- The colours, and the nodes that are being visited, the innermost last. -/
structure Marks (ι : Type) where
  colour : ι → Colour
  stack : List ι

def Marks.fresh : Marks ι := ⟨fun _ => .white,[]⟩

/-- The black nodes in an order in which each comes after those that it leads to, and a path of grey
nodes. -/
structure Marks.Sound (succ : ι → List ι) (done : List ι) (m : Marks ι) : Prop where
  topological : Topological succ [] done
  black : ∀ n, m.colour n = .black ↔ n ∈ done
  grey : ∀ n, m.colour n = .grey ↔ n ∈ m.stack
  chain : m.stack.IsChain fun a b => b ∈ succ a

theorem Marks.sound_fresh : Marks.Sound succ [] (Marks.fresh : Marks ι) where
  topological := trivial
  black n := by simp [Marks.fresh]
  grey n := by simp [Marks.fresh]
  chain := by simp [Marks.fresh]

theorem Marks.Sound.cyclic {done : List ι} {m : Marks ι} {n : ι}
    (h : m.Sound succ done) (hgrey : m.colour n = .grey)
    (hpath : ∀ last ∈ m.stack.getLast?, n ∈ succ last) : ¬ Acyclic fun a b => b ∈ succ a := by
  intro hacyclic
  have hmem := (h.grey n).1 hgrey
  obtain ⟨last,hlast⟩ : ∃ last, m.stack.getLast? = some last := by
    cases hstack : m.stack.getLast? with
    | none => simp [getLast?_eq_none_iff.1 hstack] at hmem
    | some last => exact ⟨last,rfl⟩
  exact hacyclic n (.tail' (reflTransGen_of_chain h.chain hlast hmem) (hpath last hlast))

variable [DecidableEq ι]

def Marks.enter (m : Marks ι) (n : ι) : Marks ι :=
  ⟨Function.update m.colour n .grey,m.stack ++ [n]⟩

def Marks.leave (m : Marks ι) (n : ι) : Marks ι :=
  ⟨Function.update m.colour n .black,m.stack.dropLast⟩

inductive Stopped (ι : Type) where
  | cycle (nodes : List ι)
  | outOfFuel
  deriving DecidableEq

variable (succ : ι → List ι)

def visit : Nat → ι → Marks ι → Except (Stopped ι) (Marks ι)
  | fuel,n,m =>
    match m.colour n with
    | .black => .ok m
    | .grey =>
      .error (.cycle (if n ∈ m.stack then m.stack.drop (m.stack.idxOf n) ++ [n] else m.stack ++ [n]))
    | .white =>
      match fuel with
      | 0 => .error .outOfFuel
      | fuel+1 => do
        let m ← (succ n).foldlM (fun m next => visit fuel next m) (m.enter n)
        return m.leave n

def visitAll (fuel : Nat) (nodes : List ι) (m : Marks ι) : Except (Stopped ι) (Marks ι) :=
  nodes.foldlM (fun m n => visit succ fuel n m) m

variable {succ}

theorem Topological.acyclic {order : List ι} (h : Topological succ [] order)
    (hall : ∀ a b, b ∈ succ a → a ∈ order) : Acyclic fun a b => b ∈ succ a := by
  have hlt : ∀ a b, Relation.TransGen (fun a b => b ∈ succ a) a b →
      order.idxOf b < order.idxOf a := by
    intro a b hab
    induction hab with
    | single hstep => exact h.idxOf_lt (hall _ _ hstep) hstep (by simp)
    | tail _ hstep ih => exact lt_trans (h.idxOf_lt (hall _ _ hstep) hstep (by simp)) ih
  intro n hn
  exact Nat.lt_irrefl _ (hlt n n hn)

def Marks.whites (nodes : Finset ι) (m : Marks ι) : Nat :=
  (nodes.filter fun n => m.colour n = .white).card

section
variable {done : List ι} {m : Marks ι} {n : ι}

theorem Marks.Sound.enter (h : m.Sound succ done) (hwhite : m.colour n = .white)
    (hpath : ∀ last ∈ m.stack.getLast?, n ∈ succ last) : (m.enter n).Sound succ done where
  topological := h.topological
  black x := by
    by_cases hx : x = n
    · subst hx
      have hnot := (h.black x).not.1 (by simp [hwhite])
      simp [Marks.enter,hnot]
    · simp [Marks.enter,hx,h.black]
  grey x := by
    by_cases hx : x = n
    · simp [Marks.enter,hx]
    · simp [Marks.enter,hx,h.grey]
  chain := by
    simp only [Marks.enter,isChain_append]
    refine ⟨h.chain,by simp,?_⟩
    intro last hlast next hnext
    simp at hnext
    exact hnext ▸ hpath last hlast

theorem Marks.Sound.leave {path : List ι} (h : m.Sound succ done) (hstack : m.stack = path ++ [n])
    (hfresh : n ∉ path) (hnext : ∀ next ∈ succ n, next ∈ done) :
    (m.leave n).Sound succ (done ++ [n]) where
  topological := h.topological.append ⟨by simpa using hnext,trivial⟩
  black x := by
    by_cases hx : x = n
    · simp [Marks.leave,hx]
    · simp [Marks.leave,hx,h.black]
  grey x := by
    by_cases hx : x = n
    · simp [Marks.leave,hx,hstack,hfresh]
    · simp [Marks.leave,hx,h.grey,hstack]
  chain := by
    have hchain := h.chain
    rw [hstack,isChain_append] at hchain
    simpa [Marks.leave,hstack] using hchain.1

theorem Marks.whites_enter {nodes : Finset ι} (hwhite : m.colour n = .white) (hn : n ∈ nodes) :
    (m.enter n).whites nodes < m.whites nodes := by
  apply Finset.card_lt_card
  rw [Finset.ssubset_iff_of_subset]
  · refine ⟨n,Finset.mem_filter.2 ⟨hn,hwhite⟩,?_⟩
    rw [Finset.mem_filter]
    simp [Marks.enter]
  · intro x hx
    rw [Finset.mem_filter] at hx ⊢
    by_cases hxn : x = n
    · simp [hxn,hn,hwhite]
    · simpa [Marks.enter,hxn] using hx

theorem Marks.whites_leave (nodes : Finset ι) : (m.leave n).whites nodes ≤ m.whites nodes := by
  apply Finset.card_le_card
  intro x hx
  rw [Finset.mem_filter] at hx ⊢
  by_cases hxn : x = n
  · simp [Marks.leave,hxn] at hx
  · simpa [Marks.leave,hxn] using hx

end

def Visited (succ : ι → List ι) (nodes : Finset ι) (done : List ι) (m : Marks ι) (targets : List ι)
    (result : Except (Stopped ι) (Marks ι)) : Prop :=
  (∃ c, result = .error (.cycle c) ∧ ¬ Acyclic fun a b => b ∈ succ a) ∨
    ∃ m' done', result = .ok m' ∧ m'.Sound succ done' ∧ m'.stack = m.stack ∧
      (∀ x ∈ done, x ∈ done') ∧ (∀ n ∈ targets, n ∈ done') ∧ m'.whites nodes ≤ m.whites nodes

variable {nodes : Finset ι} {fuel : Nat}

variable {done : List ι} {targets : List ι} {m : Marks ι}

theorem visited_foldlM (hvisit : ∀ n ∈ targets, ∀ done (m : Marks ι), m.Sound succ done →
      (∀ last ∈ m.stack.getLast?, n ∈ succ last) → m.whites nodes ≤ fuel →
      Visited succ nodes done m [n] (visit succ fuel n m)) (h : m.Sound succ done)
    (hpath : ∀ last ∈ m.stack.getLast?, ∀ n ∈ targets, n ∈ succ last) (hfuel : m.whites nodes ≤ fuel) :
    Visited succ nodes done m targets (targets.foldlM (fun m n => visit succ fuel n m) m) := by
  induction targets generalizing done m with
  | nil => exact .inr ⟨m,done,rfl,h,rfl,fun _ hx => hx,by simp,Nat.le_refl _⟩
  | cons n rest ih =>
    have hrest := fun x hx => hvisit x (mem_cons_of_mem n hx)
    rw [foldlM_cons]
    rcases hvisit n (by simp) done m h (fun last hlast => hpath last hlast n (by simp)) hfuel with
      ⟨c,hresult,hcyclic⟩ | ⟨m',done',hresult,hsound,hstack,hkept,hdone,hwhites⟩
    · exact .inl ⟨c,by rw [hresult]; rfl,hcyclic⟩
    · rw [hresult]
      have hpath' : ∀ last ∈ m'.stack.getLast?, ∀ x ∈ rest, x ∈ succ last := by
        intro last hlast x hx
        exact hpath last (hstack ▸ hlast) x (mem_cons_of_mem n hx)
      rcases ih hrest hsound hpath' (Nat.le_trans hwhites hfuel) with
        hcycle | ⟨m₂,done₂,hresult₂,hsound₂,hstack₂,hkept₂,hdone₂,hwhites₂⟩
      · exact .inl hcycle
      · refine .inr ⟨m₂,done₂,hresult₂,hsound₂,hstack₂.trans hstack,?_,?_,
          Nat.le_trans hwhites₂ hwhites⟩
        · intro x hx
          exact hkept₂ x (hkept x hx)
        · intro x hx
          cases mem_cons.1 hx with
          | inl heq => exact hkept₂ x (hdone x (by simp [heq]))
          | inr hin => exact hdone₂ x hin

theorem visited_of_not_white {n : ι} (h : m.Sound succ done)
    (hpath : ∀ last ∈ m.stack.getLast?, n ∈ succ last) (hcolour : m.colour n ≠ .white) :
    Visited succ nodes done m [n] (visit succ fuel n m) := by
  unfold visit
  cases hn : m.colour n with
  | black =>
    have hdone := (h.black n).1 hn
    exact .inr ⟨m,done,rfl,h,rfl,fun _ hx => hx,by simpa using hdone,Nat.le_refl _⟩
  | grey => exact .inl ⟨_,rfl,h.cyclic hn hpath⟩
  | white => exact absurd hn hcolour

variable (hclosed : ∀ n ∈ nodes, ∀ next ∈ succ n, next ∈ nodes)
include hclosed

theorem visited_visit {n : ι} (hn : n ∈ nodes) (h : m.Sound succ done)
    (hpath : ∀ last ∈ m.stack.getLast?, n ∈ succ last) (hfuel : m.whites nodes ≤ fuel) :
    Visited succ nodes done m [n] (visit succ fuel n m) := by
  by_cases hwhite : m.colour n = .white
  · have hfewer := Marks.whites_enter hwhite hn
    induction fuel generalizing n done m with
    | zero => omega
    | succ fuel ih =>
      have hnext : ∀ x ∈ succ n, ∀ done (m : Marks ι), m.Sound succ done →
          (∀ last ∈ m.stack.getLast?, x ∈ succ last) → m.whites nodes ≤ fuel →
          Visited succ nodes done m [x] (visit succ fuel x m) := by
        intro x hx done m hm hlast hle
        by_cases hxwhite : m.colour x = .white
        · exact ih (hclosed n hn x hx) hm hlast hle hxwhite (Marks.whites_enter hxwhite (hclosed n hn x hx))
        · exact visited_of_not_white hm hlast hxwhite
      rcases visited_foldlM hnext (h.enter hwhite hpath) (by simp [Marks.enter])
          (show (m.enter n).whites nodes ≤ fuel by omega) with
        ⟨c,hresult,hcyclic⟩ | ⟨m',done',hresult,hsound,hstack,hkept,hdone,hwhites⟩
      · refine .inl ⟨c,?_,hcyclic⟩
        unfold visit
        simp only [hwhite,hresult]
        rfl
      · have hfresh : n ∉ m.stack := fun hmem => by
          have hgrey := (h.grey n).2 hmem
          simp [hwhite] at hgrey
        have hend : m'.stack = m.stack ++ [n] := hstack
        have hleft := Marks.whites_leave (m := m') (n := n) nodes
        refine .inr ⟨m'.leave n,done' ++ [n],?_,hsound.leave hend hfresh hdone,?_,?_,by simp,?_⟩
        · unfold visit
          simp only [hwhite,hresult]
          rfl
        · simp [Marks.leave,hend]
        · intro x hx
          exact mem_append_left _ (hkept x hx)
        · omega
  · exact visited_of_not_white h hpath hwhite

theorem visited_visitAll (hfuel : nodes.card ≤ fuel) (htargets : ∀ n ∈ targets, n ∈ nodes) :
    Visited succ nodes [] .fresh targets (visitAll succ fuel targets .fresh) := by
  apply visited_foldlM
  · intro n hn done m hm hpath hle
    exact visited_visit hclosed (htargets n hn) hm hpath hle
  · exact Marks.sound_fresh
  · simp [Marks.fresh]
  · exact Nat.le_trans (Finset.card_filter_le _ _) hfuel

/-- The search of all nodes succeeds just where there is no cycle, and then there is an order of them
all in which each comes after those that it leads to. -/
theorem visitAll_ok_iff (hroots : ∀ a b, b ∈ succ a → a ∈ nodes) (hfuel : nodes.card ≤ fuel)
    (htargets : ∀ n, n ∈ targets ↔ n ∈ nodes) :
    ((∃ m, visitAll succ fuel targets .fresh = .ok m) ↔ Acyclic fun a b => b ∈ succ a) ∧
      ((Acyclic fun a b => b ∈ succ a) →
        ∃ order, Topological succ [] order ∧ ∀ n ∈ nodes, n ∈ order) := by
  rcases visited_visitAll hclosed hfuel fun n hn => (htargets n).1 hn with
    ⟨c,hresult,hcyclic⟩ | ⟨m,order,hresult,hsound,_,_,hdone,_⟩
  · refine ⟨⟨?_,fun h => absurd h hcyclic⟩,fun h => absurd h hcyclic⟩
    rintro ⟨m,hm⟩
    rw [hresult] at hm
    cases hm
  · have hall : ∀ n ∈ nodes, n ∈ order := fun n hn => hdone n ((htargets n).2 hn)
    have hacyclic := hsound.topological.acyclic fun a b hab => hall a (hroots a b hab)
    exact ⟨⟨fun _ => hacyclic,fun _ => ⟨m,hresult⟩⟩,fun _ => ⟨order,hsound.topological,hall⟩⟩

end ExperimentControl.Lib

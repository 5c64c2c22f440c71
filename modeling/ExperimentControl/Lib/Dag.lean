import Mathlib.Data.List.Nodup
import Mathlib.Algebra.Order.BigOperators.Group.List
import Mathlib.Algebra.Group.Action.Defs
import Mathlib.Tactic.Ring

/-!
Finite dependency graphs: topological orders, the layered sort that finds one, what is reachable by
a work list, the cone of a node, and the marks that an order propagates.
-/

namespace ExperimentControl.Lib
open List

variable {ι : Type} (deps : ι → List ι)

inductive Cone (n : ι) : ι → Prop where
  | self : Cone n n
  | dep {a d : ι} : Cone n a → d ∈ deps a → Cone n d

variable {deps}

theorem Cone.trans {n a d : ι} (hna : Cone deps n a) (had : Cone deps a d) : Cone deps n d := by
  induction had with
  | self => exact hna
  | dep _ hd ih => exact ih.dep hd

theorem Cone.of_dep {n d x : ι} (hd : d ∈ deps n) (h : Cone deps d x) : Cone deps n x :=
  (Cone.self.dep hd).trans h

theorem Cone.subset {n x : ι} (h : Cone deps n x) {P : ι → Prop} (hn : P n)
    (hdeps : ∀ a d, P a → d ∈ deps a → P d) : P x := by
  induction h with
  | self => exact hn
  | dep _ hd ih => exact hdeps _ _ ih hd

theorem Cone.congr {deps' : ι → List ι} {n x : ι} (h : Cone deps n x)
    (hsame : ∀ a, Cone deps n a → ∀ d ∈ deps a, d ∈ deps' a) : Cone deps' n x := by
  induction h with
  | self => exact .self
  | dep ha hd ih => exact ih.dep (hsame _ ha _ hd)

variable (deps)

/-- Every node comes after its dependencies, those in `seen` being there before. -/
def Topological : List ι → List ι → Prop
  | _,[] => True
  | seen,n :: rest => (∀ d ∈ deps n, d ∈ seen) ∧ Topological (n :: seen) rest

variable {deps}

theorem Topological.mono {order seen more : List ι} (h : Topological deps seen order)
    (hsub : ∀ x ∈ seen, x ∈ more) : Topological deps more order := by
  induction order generalizing seen more with
  | nil => trivial
  | cons n rest ih =>
    constructor
    · intro d hd
      exact hsub d (h.1 d hd)
    · apply ih h.2
      intro x hx
      cases mem_cons.1 hx with
      | inl heq => simp [heq]
      | inr hmem => simp [hsub x hmem]

theorem Topological.append {first second seen : List ι} (hfirst : Topological deps seen first)
    (hsecond : Topological deps (first ++ seen) second) :
    Topological deps seen (first ++ second) := by
  induction first generalizing seen with
  | nil => exact hsecond
  | cons n rest ih =>
    refine ⟨hfirst.1,ih hfirst.2 (hsecond.mono ?_)⟩
    intro x hx
    simp at hx ⊢
    tauto

variable {order seen : List ι}

theorem Topological.filter (h : Topological deps seen order) {p : ι → Bool}
    (hclosed : ∀ n ∈ order, p n = true → ∀ d ∈ deps n, p d = true) :
    Topological deps (seen.filter p) (order.filter p) := by
  induction order generalizing seen with
  | nil => trivial
  | cons n rest ih =>
    have hrest := ih h.2 (fun m hm => hclosed m (mem_cons_of_mem n hm))
    by_cases hp : p n = true
    · rw [filter_cons_of_pos hp]
      rw [filter_cons_of_pos hp] at hrest
      refine ⟨?_,hrest⟩
      intro d hd
      exact mem_filter.2 ⟨h.1 d hd,hclosed n (by simp) hp d hd⟩
    · rw [filter_cons_of_neg hp]
      rwa [filter_cons_of_neg hp] at hrest

theorem Topological.mem_seen (h : Topological deps seen order) {n d : ι}
    (hn : n ∈ order) (hd : d ∈ deps n) : d ∈ seen ∨ d ∈ order := by
  induction order generalizing seen with
  | nil => simp at hn
  | cons m rest ih =>
    cases mem_cons.1 hn with
    | inl heq =>
      subst heq
      exact .inl (h.1 d hd)
    | inr hmem =>
      have hdep := ih h.2 hmem
      simp at hdep ⊢
      tauto

variable {order : List ι}

theorem Topological.closed (h : Topological deps [] order) {n d : ι}
    (hn : n ∈ order) (hd : d ∈ deps n) : d ∈ order := by
  have hdep := h.mem_seen hn hd
  simpa using hdep

theorem Topological.cone (h : Topological deps [] order) {n x : ι}
    (hn : n ∈ order) (hx : Cone deps n x) : x ∈ order :=
  hx.subset hn fun _ _ ha hd => h.closed ha hd

variable [DecidableEq ι]

theorem Topological.idxOf_lt (h : Topological deps seen order) {n d : ι}
    (hn : n ∈ order) (hd : d ∈ deps n) (hseen : d ∉ seen) :
    order.idxOf d < order.idxOf n := by
  induction order generalizing seen with
  | nil => simp at hn
  | cons m rest ih =>
    by_cases hnm : m = n
    · subst hnm
      exact absurd (h.1 d hd) hseen
    · have hn : n ∈ rest := by
        cases mem_cons.1 hn with
        | inl heq => exact absurd heq.symm hnm
        | inr hmem => exact hmem
      by_cases hdm : m = d
      · subst hdm
        rw [idxOf_cons_self,idxOf_cons_ne _ hnm]
        omega
      · have hlt := ih h.2 hn (by simp [Ne.symm hdm,hseen])
        rw [idxOf_cons_ne _ hdm,idxOf_cons_ne _ hnm]
        omega

variable (deps)

def ready (keys done : List ι) : List ι :=
  keys.filter fun n => n ∉ done ∧ ∀ d ∈ deps n, d ∈ done

def layers (keys : List ι) : Nat → List ι → Option (List ι)
  | fuel,done =>
    if ∀ n ∈ keys, n ∈ done then some done
    else match fuel with
      | 0 => none
      | fuel+1 =>
        if (ready deps keys done).isEmpty then none
        else layers keys fuel (done ++ ready deps keys done)

/-- `graphlib.TopologicalSorter(...).static_order()`, each layer in the order of the keys. -/
def staticOrder (keys : List ι) : Option (List ι) := layers deps keys keys.length []

variable {deps}

theorem topological_ready {keys done : List ι} {part : List ι}
    (hpart : ∀ n ∈ part, n ∈ ready deps keys done) {seen : List ι} (hseen : ∀ x ∈ done, x ∈ seen) :
    Topological deps seen part := by
  induction part generalizing seen with
  | nil => trivial
  | cons n rest ih =>
    have hn := hpart n (by simp)
    simp only [ready,mem_filter,decide_eq_true_eq] at hn
    refine ⟨fun d hd => hseen d (hn.2.2 d hd),ih (fun m hm => hpart m (by simp [hm])) ?_⟩
    intro x hx
    simp [hseen x hx]

structure Layered (deps : ι → List ι) (keys done : List ι) : Prop where
  topological : Topological deps [] done
  subset : ∀ n ∈ done, n ∈ keys
  nodup : done.Nodup

theorem Layered.append {keys done : List ι} (h : Layered deps keys done) (hkeys : keys.Nodup) :
    Layered deps keys (done ++ ready deps keys done) where
  topological := h.topological.append (topological_ready (fun _ hn => hn) (by simp))
  subset n hn := by
    cases mem_append.1 hn with
    | inl hold => exact h.subset n hold
    | inr hnew => exact (mem_filter.1 hnew).1
  nodup := by
    rw [nodup_append]
    refine ⟨h.nodup,hkeys.filter _,?_⟩
    intro a ha b hb heq
    simp only [ready,mem_filter,decide_eq_true_eq] at hb
    exact hb.2.1 (heq ▸ ha)

theorem layers_spec {keys : List ι} (hkeys : keys.Nodup) {fuel : Nat} {done order : List ι}
    (h : Layered deps keys done) (horder : layers deps keys fuel done = some order) :
    Layered deps keys order ∧ ∀ n ∈ keys, n ∈ order := by
  induction fuel generalizing done with
  | zero =>
    unfold layers at horder
    split at horder
    · rename_i hall
      cases horder
      exact ⟨h,hall⟩
    · simp at horder
  | succ fuel ih =>
    unfold layers at horder
    split at horder
    · rename_i hall
      cases horder
      exact ⟨h,hall⟩
    · simp only at horder
      split at horder
      · simp at horder
      · exact ih (h.append hkeys) horder

theorem staticOrder_spec {keys : List ι} (hkeys : keys.Nodup)
    (horder : staticOrder deps keys = some order) :
    Layered deps keys order ∧ ∀ n ∈ keys, n ∈ order :=
  layers_spec hkeys ⟨by simp [Topological],by simp,by simp⟩ horder

variable (deps)

def reach : Nat → List ι → List ι → List ι
  | _,[],reached => reached
  | 0,_ :: _,reached => reached
  | fuel+1,n :: queue,reached =>
    let reached := if n ∈ reached then reached else n :: reached
    reach fuel (((deps n).filter (· ∉ reached)).reverse ++ queue) reached

/-- A bound on the steps that a node in the work list leads to. -/
def work (order : List ι) (x : ι) : Nat :=
  ((order.map fun n => (deps n).length).sum+1)^order.idxOf x

def reachable (order queue reached : List ι) : List ι :=
  reach deps (queue.map (work deps order)).sum queue.reverse reached

variable {deps}

section
variable (h : Topological deps [] order)
include h

theorem work_deps {n : ι} (hn : n ∈ order) {pushed : List ι} (hpushed : ∀ d ∈ pushed, d ∈ deps n)
    (hlength : pushed.length ≤ (deps n).length) :
    (pushed.map (work deps order)).sum+1 ≤ work deps order n := by
  let base := (order.map fun n => (deps n).length).sum+1
  have hbase : (deps n).length < base := by
    have hmem : (deps n).length ∈ order.map fun n => (deps n).length :=
      mem_map_of_mem hn
    have hle := le_sum_of_mem hmem
    simp only [base]
    omega
  cases hindex : order.idxOf n with
  | zero =>
    have hnone : pushed = [] := by
      cases hcons : pushed with
      | nil => rfl
      | cons d rest =>
        have hlt := h.idxOf_lt hn (hpushed d (by simp [hcons])) (by simp)
        omega
    simp [hnone,work,hindex]
  | succ index =>
    have hle : ∀ w ∈ pushed.map (work deps order), w ≤ base^index := by
      intro w hw
      obtain ⟨d,hd,rfl⟩ := mem_map.1 hw
      have hlt := h.idxOf_lt hn (hpushed d hd) (by simp)
      exact Nat.pow_le_pow_right (by omega) (by omega)
    have hsum := sum_le_card_nsmul _ _ hle
    have hpos : 0 < base^index := Nat.pow_pos (by omega)
    calc (pushed.map (work deps order)).sum+1
        ≤ pushed.length*base^index+base^index := by
          simp only [length_map,smul_eq_mul] at hsum
          omega
      _ = (pushed.length+1)*base^index := by ring
      _ ≤ base*base^index := Nat.mul_le_mul_right _ (by omega)
      _ = work deps order n := by
          simp only [work,hindex,base]
          ring

/-- The work list ends, and what it has reached holds the dependencies of what it holds. -/
theorem reach_closed {fuel : Nat}
    {queue reached : List ι} (hfuel : (queue.map (work deps order)).sum ≤ fuel)
    (hqueue : ∀ x ∈ queue, x ∈ order)
    (hreached : ∀ x ∈ reached, x ∈ queue ∨ ∀ d ∈ deps x, d ∈ reached ∨ d ∈ queue) :
    (∀ x ∈ reached, x ∈ reach deps fuel queue reached) ∧
      (∀ x ∈ queue, x ∈ reach deps fuel queue reached) ∧
      ∀ x ∈ reach deps fuel queue reached, ∀ d ∈ deps x, d ∈ reach deps fuel queue reached := by
  induction fuel generalizing queue reached with
  | zero =>
    cases queue with
    | nil =>
      simp only [reach]
      refine ⟨fun _ hx => hx,by simp,?_⟩
      intro x hx d hd
      simpa using (hreached x hx).resolve_left (by simp) d hd
    | cons n rest =>
      have hpos : 0 < work deps order n := Nat.pow_pos (by omega)
      simp at hfuel
      omega
  | succ fuel ih =>
    cases queue with
    | nil =>
      simp only [reach]
      refine ⟨fun _ hx => hx,by simp,?_⟩
      intro x hx d hd
      simpa using (hreached x hx).resolve_left (by simp) d hd
    | cons n rest =>
      simp only [reach]
      generalize hnow : (if n ∈ reached then reached else n :: reached) = now
      have hmem : ∀ x, x ∈ now ↔ x = n ∨ x ∈ reached := by
        intro x
        rw [← hnow]
        by_cases hn : n ∈ reached
        · simp only [hn,if_true]
          constructor
          · exact .inr
          · intro hx
            cases hx with
            | inl heq => exact heq ▸ hn
            | inr hx => exact hx
        · simp [hn]
      generalize hpush : ((deps n).filter (· ∉ now)).reverse = pushed
      have hin : ∀ d, d ∈ pushed ↔ d ∈ deps n ∧ d ∉ now := by
        intro d
        simp [← hpush]
      have hlength : pushed.length ≤ (deps n).length := by
        rw [← hpush,length_reverse]
        exact length_filter_le _ _
      have hwork := work_deps h (hqueue n (by simp)) (fun d hd => ((hin d).1 hd).1) hlength
      have hfuel : ((pushed ++ rest).map (work deps order)).sum ≤ fuel := by
        simp only [map_cons,sum_cons,map_append,sum_append] at hfuel ⊢
        omega
      have hqueue : ∀ x ∈ pushed ++ rest, x ∈ order := by
        intro x hx
        cases mem_append.1 hx with
        | inl hpushed => exact h.closed (hqueue n (by simp)) ((hin x).1 hpushed).1
        | inr hrest => exact hqueue x (by simp [hrest])
      have hnow : ∀ x ∈ now, x ∈ pushed ++ rest ∨ ∀ d ∈ deps x, d ∈ now ∨ d ∈ pushed ++ rest := by
        intro x hx
        by_cases hxn : x = n
        · refine .inr ?_
          intro d hd
          by_cases hdnow : d ∈ now
          · exact .inl hdnow
          · refine .inr ?_
            rw [mem_append,hin]
            exact .inl ⟨hxn ▸ hd,hdnow⟩
        · cases hreached x (((hmem x).1 hx).resolve_left hxn) with
          | inl hin =>
            have hrest : x ∈ rest := (mem_cons.1 hin).resolve_left hxn
            exact .inl (by simp [hrest])
          | inr hdeps =>
            refine .inr ?_
            intro d hd
            rw [hmem,mem_append]
            have hdep := hdeps d hd
            rw [mem_cons] at hdep
            tauto
      obtain ⟨hkeep,hall,hclosed⟩ := ih hfuel hqueue hnow
      refine ⟨fun x hx => hkeep x ((hmem x).2 (.inr hx)),?_,hclosed⟩
      intro x hx
      cases mem_cons.1 hx with
      | inl heq => exact hkeep x ((hmem x).2 (.inl heq))
      | inr hrest => exact hall x (by simp [hrest])

theorem reachable_closed {queue reached : List ι}
    (hqueue : ∀ x ∈ queue, x ∈ order) (hreached : ∀ x ∈ reached, x ∈ queue) :
    (∀ x ∈ queue, x ∈ reachable deps order queue reached) ∧
      ∀ x ∈ reachable deps order queue reached, ∀ d ∈ deps x,
        d ∈ reachable deps order queue reached := by
  have hsum : (queue.reverse.map (work deps order)).sum ≤ (queue.map (work deps order)).sum := by
    rw [map_reverse,sum_reverse]
  have hdone := reach_closed h hsum (fun x hx => hqueue x (by simpa using hx))
    (fun x hx => .inl (by simpa using hreached x hx))
  exact ⟨fun x hx => hdone.2.1 x (by simpa using hx),hdone.2.2⟩

end

variable (seed : ι → Bool) (sources : ι → List ι)

def mark (marks : List ι) (n : ι) : List ι :=
  if seed n || (sources n).any (· ∈ marks) then n :: marks else marks

def marked (order : List ι) : List ι := order.foldl (mark seed sources) []

variable {seed sources}

theorem mem_mark {marks : List ι} {n x : ι} (hx : x ∈ marks) : x ∈ mark seed sources marks n := by
  unfold mark
  split
  · simp [hx]
  · exact hx

theorem of_mem_mark {marks : List ι} {n x : ι} (hx : x ∈ mark seed sources marks n) :
    x ∈ marks ∨ x = n := by
  unfold mark at hx
  split at hx
  · simp at hx
    tauto
  · exact .inl hx

theorem of_mem_marks {order marks : List ι} {x : ι}
    (hx : x ∈ order.foldl (mark seed sources) marks) : x ∈ marks ∨ x ∈ order := by
  induction order generalizing marks with
  | nil => exact .inl hx
  | cons n rest ih =>
    cases ih hx with
    | inl hmark =>
      have hnew := of_mem_mark hmark
      simp
      tauto
    | inr hrest => simp [hrest]

theorem mem_marks {order marks : List ι} {x : ι} (hx : x ∈ marks) :
    x ∈ order.foldl (mark seed sources) marks := by
  induction order generalizing marks with
  | nil => exact hx
  | cons n rest ih => exact ih (mem_mark hx)

/-- A node that is left unmarked does not have the property, and its dependencies are unmarked too. -/
theorem unmarked (hsources : ∀ n, ∀ d ∈ deps n, d ∈ sources n) {order marks seen : List ι}
    (h : Topological deps seen order)
    (hnodup : order.Nodup) (hfresh : ∀ x ∈ seen, x ∉ order) {n : ι} (hn : n ∈ order)
    (hnot : n ∉ order.foldl (mark seed sources) marks) :
    seed n = false ∧ ∀ d ∈ deps n, d ∉ order.foldl (mark seed sources) marks := by
  induction order generalizing marks seen with
  | nil => simp at hn
  | cons m rest ih =>
    obtain ⟨hm,hnodup⟩ := nodup_cons.1 hnodup
    by_cases hmn : n = m
    · subst hmn
      rw [foldl_cons] at hnot ⊢
      have hmark : n ∉ mark seed sources marks n := fun hmem => hnot (mem_marks hmem)
      have hoff : (seed n || (sources n).any (· ∈ marks)) = false := by
        by_contra hon
        rw [Bool.not_eq_false] at hon
        exact hmark (by simp [mark,hon])
      have hsame : mark seed sources marks n = marks := by simp [mark,hoff]
      rw [Bool.or_eq_false_iff] at hoff
      refine ⟨hoff.1,?_⟩
      intro d hd hmem
      cases of_mem_marks hmem with
      | inl hmarks =>
        rw [hsame] at hmarks
        have hany : (sources n).any (· ∈ marks) = true := by
          simp only [any_eq_true,decide_eq_true_eq]
          exact ⟨d,hsources n d hd,hmarks⟩
        simp [hany] at hoff
      | inr hrest => exact hfresh d (h.1 d hd) (by simp [hrest])
    · have hn : n ∈ rest := (mem_cons.1 hn).resolve_left hmn
      apply ih h.2 hnodup ?_ hn hnot
      intro x hx
      cases mem_cons.1 hx with
      | inl heq => exact heq ▸ hm
      | inr hseen =>
        have hnot := hfresh x hseen
        simp at hnot
        exact hnot.2

theorem unmarked_cone (hsources : ∀ n, ∀ d ∈ deps n, d ∈ sources n) {order : List ι}
    (h : Topological deps [] order) (hnodup : order.Nodup) {n x : ι} (hn : n ∈ order)
    (hnot : n ∉ marked seed sources order) (hx : Cone deps n x) : seed x = false := by
  have hboth : x ∈ order ∧ x ∉ marked seed sources order := by
    apply hx.subset (P := fun a => a ∈ order ∧ a ∉ marked seed sources order)
    · exact ⟨hn,hnot⟩
    · intro a d ha hd
      exact ⟨h.closed ha.1 hd,(unmarked hsources h hnodup (by simp) ha.1 ha.2).2 d hd⟩
  exact (unmarked hsources h hnodup (by simp) hboth.1 hboth.2).1

end ExperimentControl.Lib

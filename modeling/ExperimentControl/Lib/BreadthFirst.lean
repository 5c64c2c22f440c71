import Mathlib.Data.Finset.Card

/-!
Breadth-first search for one node, with the edge by which each node was found: what it finds is a
shortest walk, and it finds one if there is any.
-/

namespace ExperimentControl.Lib
open List Function

section
variable {ν ε : Type} (next : ν → List ε) (dst : ε → ν)

/-- The edges lead from `v` to the last node, one from where the other ends. -/
inductive Walk : ν → List ε → ν → Prop where
  | nil (v : ν) : Walk v [] v
  | cons {v w : ν} {e : ε} {es : List ε} : e ∈ next v → Walk (dst e) es w → Walk v (e :: es) w

variable {next dst} {u v : ν} {e : ε} {es : List ε}

theorem Walk.concat (h : Walk next dst v es u) (he : e ∈ next u) :
    Walk next dst v (es ++ [e]) (dst e) := by
  induction h with
  | nil v => exact .cons he (.nil _)
  | cons hf _ ih => exact .cons hf (ih he)

theorem Walk.extend {P : List ε → ν → Prop} (hnil : P [] v)
    (hstep : ∀ es u e, P es u → e ∈ next u → P (es ++ [e]) (dst e)) (h : Walk next dst v es u) :
    P es u := by
  suffices hall : ∀ (pre : List ε) (v : ν) (es : List ε) (u : ν), Walk next dst v es u → P pre v →
      P (pre ++ es) u from hall [] v es u h hnil
  intro pre v es u h
  induction h generalizing pre with
  | nil v => exact fun hp => by rwa [append_nil]
  | @cons v w e es he _ ih =>
    intro hp
    have hnext := ih (pre ++ [e]) (hstep pre v e hp he)
    rwa [append_assoc,singleton_append] at hnext

end

variable {ν ε : Type} [DecidableEq ν] (next : ν → List ε) (dst : ε → ν) (start target : ν)

/-- The nodes to be visited, those found, and from where and by which edge, the newest first. -/
structure Frontier (ν ε : Type) where
  queue : List ν
  visited : List ν
  parent : List (ν × ν × ε)

/-- The edges of a node: whether one of them finds the target, at which the search ends. -/
def scan (cur : ν) : List ε → Frontier ν ε → Bool × Frontier ν ε
  | [],s => (false,s)
  | e :: rest,s =>
    if dst e ∈ s.visited then scan cur rest s
    else
      let visited := dst e :: s.visited
      let parent := (dst e,cur,e) :: s.parent
      if dst e = target then (true,⟨[],visited,parent⟩)
      else scan cur rest ⟨s.queue ++ [dst e],visited,parent⟩

def search : Nat → Frontier ν ε → Bool × Frontier ν ε
  | 0,s => (false,s)
  | n+1,s =>
    match s.queue with
    | [] => (false,s)
    | cur :: queue =>
      match scan dst target cur (next cur) { s with queue := queue } with
      | (true,s) => (true,s)
      | (false,s) => search n s

/-- The edges back to the start, in the order of the walk. -/
def trace (parent : List (ν × ν × ε)) : Nat → ν → Option (List ε)
  | 0,_ => none
  | n+1,cursor =>
    if cursor = start then some []
    else match parent.lookup cursor with
      | none => none
      | some (prev,e) => (trace parent n prev).map (· ++ [e])

variable {next dst start target} {d : ν → Nat} {s : Frontier ν ε}

/-- Every node found has a depth, one more than that of the node it was found from. -/
structure Linked (next : ν → List ε) (dst : ε → ν) (start : ν) (d : ν → Nat) (s : Frontier ν ε) :
    Prop where
  root : start ∈ s.visited ∧ d start = 0
  found : ∀ v ∈ s.visited, v ≠ start → ∃ u e, s.parent.lookup v = some (u,e) ∧ u ∈ s.visited ∧
    e ∈ next u ∧ dst e = v ∧ d v = d u+1
  short : ∀ v ∈ s.visited, d v ≤ s.parent.length

/-- The way back from a node is a walk to it, through nodes of all depths up to its own. -/
theorem Linked.trace_spec (h : Linked next dst start d s) {n : Nat} {v : ν} (hv : v ∈ s.visited)
    (hn : d v < n) : ∃ es, trace start s.parent n v = some es ∧ Walk next dst start es v ∧
      (start :: es.map dst).map d = List.range (d v+1) := by
  induction n generalizing v with
  | zero => omega
  | succ n ih =>
    by_cases hstart : v = start
    · subst hstart
      exact ⟨[],by simp [trace],.nil _,by simp [h.root.2]⟩
    · obtain ⟨u,e,hlookup,hu,he,rfl,hdepth⟩ := h.found v hv hstart
      obtain ⟨es,htrace,hwalk,hdepths⟩ := ih hu (by omega)
      refine ⟨es ++ [e],by simp [trace,hstart,hlookup,htrace],hwalk.concat he,?_⟩
      rw [map_append,← cons_append,map_append,hdepths,hdepth,range_succ (n := d u+1)]
      simp [hdepth]

/-- The search so far: `pending` are the nodes whose edges are not all scanned, the nearest first. -/
structure Grown (next : ν → List ε) (dst : ε → ν) (start target : ν) (d : ν → Nat) (pending : List ν)
    (s : Frontier ν ε) : Prop extends Linked next dst start d s where
  missing : target ∉ s.visited
  pended : ∀ v ∈ pending, v ∈ s.visited
  ascending : pending.Pairwise fun u v => d u ≤ d v
  narrow : ∀ u ∈ pending, ∀ v ∈ s.visited, d v ≤ d u+1
  closed : ∀ v ∈ s.visited, v ∉ pending → ∀ e ∈ next v, dst e ∈ s.visited ∧ d (dst e) ≤ d v+1

/-- A walk ends at a node that was found, no deeper than it is long, or is longer than the depth of
a pending node. -/
theorem Grown.reaches {pending : List ν} (h : Grown next dst start target d pending s) {es : List ε}
    {v : ν} (hwalk : Walk next dst start es v) :
    v ∈ s.visited ∧ d v ≤ es.length ∨ ∃ q ∈ pending, d q < es.length := by
  refine hwalk.extend (P := fun es v => v ∈ s.visited ∧ d v ≤ es.length ∨
    ∃ q ∈ pending, d q < es.length) (.inl ⟨h.root.1,by simp [h.root.2]⟩) fun es u e hu he => ?_
  rw [length_append,length_singleton]
  rcases hu with ⟨hu,hle⟩ | ⟨q,hq,hlt⟩
  · by_cases hpending : u ∈ pending
    · exact .inr ⟨u,hpending,by omega⟩
    · obtain ⟨hv,hdepth⟩ := h.closed u hu hpending e he
      exact .inl ⟨hv,by omega⟩
  · exact .inr ⟨q,hq,by omega⟩

theorem Linked.find (h : Linked next dst start d s) {cur : ν} (hcur : cur ∈ s.visited) {e : ε}
    (he : e ∈ next cur) (hnew : dst e ∉ s.visited) (queue : List ν) :
    Linked next dst start (update d (dst e) (d cur+1))
      ⟨queue,dst e :: s.visited,(dst e,cur,e) :: s.parent⟩ := by
  have hold : ∀ v ∈ s.visited, update d (dst e) (d cur+1) v = d v := fun v hv =>
    update_of_ne (show v ≠ dst e from fun hve => hnew (hve ▸ hv)) _ _
  refine ⟨⟨mem_cons_of_mem _ h.root.1,(hold _ h.root.1).trans h.root.2⟩,fun v hv hne => ?_,
    fun v hv => ?_⟩
  · rcases mem_cons.1 hv with rfl | hv
    · exact ⟨cur,e,by simp,mem_cons_of_mem _ hcur,he,rfl,by simp [hold cur hcur]⟩
    · obtain ⟨u,f,hlookup,hu,hf,hdst,hdepth⟩ := h.found v hv hne
      have hve : (v == dst e) = false := beq_false_of_ne fun hve => hnew (hve ▸ hv)
      exact ⟨u,f,by simp [lookup_cons,hve,hlookup],mem_cons_of_mem _ hu,hf,hdst,
        by rw [hold v hv,hold u hu,hdepth]⟩
  · rw [length_cons]
    rcases mem_cons.1 hv with rfl | hv
    · have := h.short cur hcur
      simpa using this
    · have := h.short v hv
      rw [hold v hv]
      omega

/-- What the end of a search says: a way to the target as short as any, or that there is none. -/
def Answers (next : ν → List ε) (dst : ε → ν) (start target : ν) : Bool × Frontier ν ε → Prop
  | (true,s) => ∃ d, Linked next dst start d s ∧ target ∈ s.visited ∧
      ∀ es, Walk next dst start es target → d target ≤ es.length
  | (false,_) => ∀ es, ¬ Walk next dst start es target

/-- How many turns are left at most, of a search in these nodes. -/
def turnsLeft (nodes : Finset ν) (s : Frontier ν ε) : Nat :=
  s.queue.length+(nodes.filter (· ∉ s.visited)).card

theorem scan_spec {nodes : Finset ν} {cur : ν} {edges : List ε} (hnodes : ∀ e ∈ edges, dst e ∈ nodes)
    (hedges : ∀ e ∈ edges, e ∈ next cur) (h : Grown next dst start target d (cur :: s.queue) s)
    (hscanned : ∀ e ∈ next cur, e ∉ edges → dst e ∈ s.visited) :
    match scan dst target cur edges s with
    | (true,s') => Answers next dst start target (true,s')
    | (false,s') => (∃ d, Grown next dst start target d s'.queue s') ∧
        turnsLeft nodes s' ≤ turnsLeft nodes s := by
  induction edges generalizing d s with
  | nil =>
    refine ⟨⟨d,h.toLinked,h.missing,fun v hv => h.pended v (by simp [hv]),
      (pairwise_cons.1 h.ascending).2,fun u hu => h.narrow u (by simp [hu]),fun v hv hq => ?_⟩,
      le_refl _⟩
    by_cases hcur : v = cur
    · subst hcur
      intro e he
      have hseen := hscanned e he (by simp)
      exact ⟨hseen,h.narrow v (by simp) _ hseen⟩
    · exact h.closed v hv (by simp [hcur,hq])
  | cons e rest ih =>
    have hcur := h.pended cur (by simp)
    unfold scan
    by_cases hseen : dst e ∈ s.visited
    · rw [if_pos hseen]
      refine ih (fun f hf => hnodes f (by simp [hf])) (fun f hf => hedges f (by simp [hf])) h
        fun f hf hrest => ?_
      by_cases hfe : f = e
      · exact hfe ▸ hseen
      · exact hscanned f hf (by simp [hfe,hrest])
    · rw [if_neg hseen]
      have he := hedges e (by simp)
      have hold : ∀ v ∈ s.visited, update d (dst e) (d cur+1) v = d v := fun v hv =>
        update_of_ne (show v ≠ dst e from fun hve => hseen (hve ▸ hv)) _ _
      dsimp only
      by_cases htarget : dst e = target
      · rw [if_pos htarget]
        refine ⟨_,h.toLinked.find hcur he hseen [],by simp [htarget],fun es hwalk => ?_⟩
        rcases h.reaches hwalk with ⟨hin,-⟩ | ⟨q,hq,hlt⟩
        · exact absurd hin h.missing
        · have hnear : d cur ≤ d q := by
            rcases mem_cons.1 hq with rfl | hq
            · exact le_refl _
            · exact (pairwise_cons.1 h.ascending).1 q hq
          rw [htarget,update_self]
          omega
      · rw [if_neg htarget]
        have hin : ∀ v ∈ cur :: (s.queue ++ [dst e]), v ∈ cur :: s.queue ∨ v = dst e := by
          intro v hv
          simp only [mem_cons,mem_append,not_mem_nil,or_false] at hv ⊢
          tauto
        have hgrown : Grown next dst start target (update d (dst e) (d cur+1))
            (cur :: (s.queue ++ [dst e]))
            ⟨s.queue ++ [dst e],dst e :: s.visited,(dst e,cur,e) :: s.parent⟩ := by
          refine ⟨h.toLinked.find hcur he hseen _,?_,fun v hv => ?_,?_,fun u hu v hv => ?_,
            fun v hv hpending => ?_⟩
          · simp [Ne.symm htarget,h.missing]
          · rcases hin v hv with hv | rfl
            · exact mem_cons_of_mem _ (h.pended v hv)
            · simp
          · rw [← cons_append,pairwise_append]
            refine ⟨h.ascending.imp_of_mem fun hu hv huv => ?_,by simp,fun u hu v hv => ?_⟩
            · rwa [hold _ (h.pended _ hu),hold _ (h.pended _ hv)]
            · rw [mem_singleton.1 hv,update_self,hold u (h.pended u hu)]
              exact h.narrow cur (by simp) u (h.pended u hu)
          · have hcurv : ∀ v ∈ s.visited, d v ≤ d cur+1 := h.narrow cur (by simp)
            rcases hin u hu with hu | rfl <;> rcases mem_cons.1 hv with rfl | hv
            · rw [update_self,hold u (h.pended u hu)]
              rcases mem_cons.1 hu with rfl | hu
              · exact le_refl _
              · have := (pairwise_cons.1 h.ascending).1 u hu
                omega
            · rw [hold u (h.pended u hu),hold v hv]
              exact h.narrow u hu v hv
            · omega
            · rw [update_self,hold v hv]
              have := hcurv v hv
              omega
          · have hne : v ≠ dst e := fun hve => hpending (by simp [hve])
            have hv : v ∈ s.visited := (mem_cons.1 hv).resolve_left hne
            intro f hf
            obtain ⟨hw,hdepth⟩ := h.closed v hv (fun hp => hpending (by
              rcases mem_cons.1 hp with rfl | hp <;> simp_all)) f hf
            exact ⟨mem_cons_of_mem _ hw,by rwa [hold _ hw,hold v hv]⟩
        have hrest := ih (s := ⟨s.queue ++ [dst e],dst e :: s.visited,(dst e,cur,e) :: s.parent⟩)
          (fun f hf => hnodes f (by simp [hf])) (fun f hf => hedges f (by simp [hf])) hgrown
          fun f hf hr => by
            by_cases hfe : f = e
            · simp [hfe]
            · exact mem_cons_of_mem _ (hscanned f hf (by simp [hfe,hr]))
        split at hrest
        · exact hrest
        · refine ⟨hrest.1,hrest.2.trans ?_⟩
          have hfewer : nodes.filter (· ∉ dst e :: s.visited) =
              (nodes.filter (· ∉ s.visited)).erase (dst e) := by
            ext v
            simp only [Finset.mem_filter,mem_cons,Finset.mem_erase]
            tauto
          have hmem : dst e ∈ nodes.filter (· ∉ s.visited) :=
            Finset.mem_filter.2 ⟨hnodes e (by simp),hseen⟩
          have hpos : 0 < (nodes.filter (· ∉ s.visited)).card := Finset.card_pos.2 ⟨_,hmem⟩
          unfold turnsLeft
          dsimp only
          rw [hfewer,Finset.card_erase_of_mem hmem,length_append,length_singleton]
          omega

/-- With a turn for every node that can still be found, the search comes to its end. -/
theorem search_answers {nodes : Finset ν} (hnodes : ∀ v, ∀ e ∈ next v, dst e ∈ nodes) {n : Nat}
    (h : Grown next dst start target d s.queue s) (hn : turnsLeft nodes s ≤ n) :
    Answers next dst start target (search next dst target n s) := by
  have hempty : s.queue = [] → ∀ es, ¬ Walk next dst start es target := by
    intro hq es hwalk
    rcases h.reaches hwalk with ⟨hin,-⟩ | ⟨q,hin,-⟩
    · exact h.missing hin
    · simp [hq] at hin
  induction n generalizing d s with
  | zero =>
    have hq : s.queue = [] := length_eq_zero_iff.1 (by unfold turnsLeft at hn; omega)
    exact hempty hq
  | succ n ih =>
    unfold search
    cases hq : s.queue with
    | nil => exact hempty hq
    | cons cur queue =>
      rw [hq] at h
      have hstart : Grown next dst start target d (cur :: ({ s with queue := queue } : Frontier ν ε).queue)
          { s with queue := queue } := ⟨⟨h.root,h.found,h.short⟩,h.missing,h.pended,h.ascending,
        h.narrow,h.closed⟩
      have hscan := scan_spec (hnodes cur) (fun e he => he) hstart fun e he hne => absurd he hne
      dsimp only
      split at hscan
      · exact hscan
      · rename_i s' hs
        obtain ⟨⟨d',hgrown⟩,hfewer⟩ := hscan
        have hless : turnsLeft nodes ({ s with queue := queue } : Frontier ν ε)+1 = turnsLeft nodes s := by
          unfold turnsLeft
          rw [hq,length_cons]
          dsimp only
          omega
        refine ih hgrown (by omega) fun hq' es hwalk => ?_
        rcases hgrown.reaches hwalk with ⟨hin,-⟩ | ⟨q,hin,-⟩
        · exact hgrown.missing hin
        · simp [hq'] at hin

theorem grown_start (hne : target ≠ start) :
    Grown next dst start target (fun _ => 0) [start] (⟨[start],[start],[]⟩ : Frontier ν ε) := by
  refine ⟨⟨by simp,by simp,by simp⟩,by simpa using hne,by simp,by simp,by simp,by simp⟩

end ExperimentControl.Lib

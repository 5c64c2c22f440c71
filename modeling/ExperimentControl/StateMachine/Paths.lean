import ExperimentControl.Lib.BreadthFirst
import ExperimentControl.Python.Conversions

/-!
Paths through the graph of a state machine (`plan_state_path` and `plan_state_path_to_any` of
`processes/state_machine_base.py`) and the transitions that are allowed by its edges.
-/

namespace ExperimentControl.StateMachine
open Lib Python List

/-- An entry of `_graph_edges`. -/
structure GraphEdge where
  id : String
  fromState : String
  toState : String
  note : Option String
  deriving DecidableEq

namespace GraphEdge

/-- `str(edge.get("from_state", "")).strip()` -/
def src (e : GraphEdge) : String := strip e.fromState

def dst (e : GraphEdge) : String := strip e.toState

end GraphEdge

/-- The edges that the search follows from a state: those without names are passed over. -/
def edgesFrom (edges : List GraphEdge) (cur : String) : List GraphEdge :=
  edges.filter fun e => e.src ≠ "" && e.src = cur && e.dst ≠ ""

abbrev StatePath (edges : List GraphEdge) : String → List GraphEdge → String → Prop :=
  Walk (edgesFrom edges) GraphEdge.dst

def planStatePath (edges : List GraphEdge) (target start : String) : Option (List GraphEdge) :=
  if start = "" ∨ target = "" then none
  else if start = target then some []
  else if edges.isEmpty then none
  else match search (edgesFrom edges) GraphEdge.dst target (edges.length+1) ⟨[start],[start],[]⟩ with
    | (false,_) => none
    | (true,s) => trace start s.parent (s.parent.length+1) target

/-- The targets that are named, `sorted`. -/
def targetNames (targetStates : List String) : List String :=
  (((targetStates.map strip).filter (· ≠ "")).dedup).mergeSort fun a b => decide (a ≤ b)

def shorter (best path : Option (List GraphEdge)) : Option (List GraphEdge) :=
  match best,path with
  | best,none => best
  | none,some path => some path
  | some best,some path => if path.length < best.length then some path else some best

def planStatePathToAny (edges : List GraphEdge) (targetStates : List String) (start : String) :
    Option (List GraphEdge) :=
  let targets := targetNames targetStates
  if targets.isEmpty then none
  else if start ∈ targets then some []
  else (targets.map fun target => planStatePath edges target start).foldl shorter none

/-- `_derive_allowed_transitions_from_graph_edges`: the states that may follow a state. -/
def allowedByEdges (edges : List GraphEdge) (state : String) : List String :=
  ((edges.filter fun e => e.src ≠ "" && e.dst ≠ "" && e.src = state).map GraphEdge.dst).dedup

def canTransition (allowed : String → List String) (target src : String) : Bool := target ∈ allowed src

theorem mem_targetNames {targetStates : List String} {t : String} :
    t ∈ targetNames targetStates ↔ t ≠ "" ∧ ∃ raw ∈ targetStates, strip raw = t := by
  simp only [targetNames,mem_mergeSort,mem_dedup,mem_filter,mem_map]
  simp only [decide_eq_true_eq]
  tauto

section
variable {edges : List GraphEdge} {start target : String}

theorem StatePath.allowed {path : List GraphEdge} (h : StatePath edges start path target) :
    ∀ e ∈ path, e ∈ edges ∧ canTransition (allowedByEdges edges) e.dst e.src = true := by
  refine h.extend (P := fun path _ => ∀ e ∈ path, e ∈ edges ∧
    canTransition (allowedByEdges edges) e.dst e.src = true) (by simp) fun es u f hes hf e he => ?_
  rcases mem_append.1 he with he | he
  · exact hes e he
  · rw [mem_singleton.1 he]
    simp only [edgesFrom,mem_filter,Bool.and_eq_true,decide_eq_true_eq] at hf
    obtain ⟨hin,⟨hsrc,-⟩,hdst⟩ := hf
    refine ⟨hin,decide_eq_true (mem_dedup.2 (mem_map.2 ⟨f,mem_filter.2 ⟨hin,?_⟩,rfl⟩))⟩
    simp [hsrc,hdst]

theorem planStatePath_spec (hstart : start ≠ "") (htarget : target ≠ "") :
    (planStatePath edges target start = none ∧ ∀ path, ¬ StatePath edges start path target) ∨
    ∃ path, planStatePath edges target start = some path ∧ StatePath edges start path target ∧
      (start :: path.map GraphEdge.dst).Nodup ∧
      ∀ path', StatePath edges start path' target → path.length ≤ path'.length := by
  unfold planStatePath
  rw [if_neg (by simp [hstart,htarget])]
  by_cases hsame : start = target
  · subst hsame
    rw [if_pos rfl]
    exact .inr ⟨[],rfl,.nil _,by simp,fun _ _ => Nat.zero_le _⟩
  rw [if_neg hsame]
  split
  · rename_i hempty
    rw [isEmpty_iff.1 hempty]
    refine .inl ⟨rfl,fun path h => ?_⟩
    cases h with
    | nil => exact hsame rfl
    | cons he _ => simp [edgesFrom] at he
  have hnodes : ∀ v, ∀ e ∈ edgesFrom edges v, e.dst ∈ (edges.map GraphEdge.dst).toFinset := by
    intro v e he
    exact mem_toFinset.2 (mem_map_of_mem (mem_filter.1 he).1)
  have hturns : turnsLeft (edges.map GraphEdge.dst).toFinset
      (⟨[start],[start],[]⟩ : Frontier String GraphEdge) ≤ edges.length+1 := by
    have hcard := (Finset.card_filter_le (edges.map GraphEdge.dst).toFinset (· ∉ [start])).trans
      (toFinset_card_le (edges.map GraphEdge.dst))
    rw [length_map] at hcard
    unfold turnsLeft
    dsimp only
    rw [length_singleton]
    omega
  have hanswers := search_answers hnodes (grown_start (Ne.symm hsame)) hturns
  split
  · rename_i s hs
    rw [hs] at hanswers
    exact .inl ⟨rfl,hanswers⟩
  · rename_i s hs
    rw [hs] at hanswers
    obtain ⟨d,hlinked,hin,hshortest⟩ := hanswers
    obtain ⟨path,htrace,hwalk,hdepths⟩ := hlinked.trace_spec hin
      (Nat.lt_succ_of_le (hlinked.short target hin))
    have hlength : path.length = d target := by
      have := congrArg List.length hdepths
      simpa using this
    refine .inr ⟨path,htrace,hwalk,List.Nodup.of_map d ?_,fun path' h => hlength ▸ hshortest path' h⟩
    rw [hdepths]
    exact nodup_range

end

def Best (plans : List (Option (List GraphEdge))) : Option (List GraphEdge) → Prop
  | none => ∀ plan ∈ plans, plan = none
  | some path => some path ∈ plans ∧ ∀ path', some path' ∈ plans → path.length ≤ path'.length

theorem Best.shorter {plans : List (Option (List GraphEdge))} {best : Option (List GraphEdge)}
    (h : Best plans best) (plan : Option (List GraphEdge)) :
    Best (plans ++ [plan]) (shorter best plan) := by
  cases best with
  | none =>
    cases plan with
    | none =>
      intro path' hp
      rcases mem_append.1 hp with hp | hp
      · exact h _ hp
      · exact mem_singleton.1 hp
    | some p =>
      refine ⟨by simp,fun path' hp => ?_⟩
      rcases mem_append.1 hp with hp | hp
      · exact nomatch h _ hp
      · simp [Option.some.inj (mem_singleton.1 hp)]
  | some b =>
    obtain ⟨hb,hleast⟩ := h
    cases plan with
    | none => exact ⟨by simp [hb],fun path' hp => hleast path' (by simpa using hp)⟩
    | some p =>
      by_cases hlt : p.length < b.length
      · rw [show StateMachine.shorter (some b) (some p) = some p from if_pos hlt]
        refine ⟨by simp,fun path' hp => ?_⟩
        rcases mem_append.1 hp with hp | hp
        · exact hlt.le.trans (hleast path' hp)
        · simp [Option.some.inj (mem_singleton.1 hp)]
      · rw [show StateMachine.shorter (some b) (some p) = some b from if_neg hlt]
        refine ⟨by simp [hb],fun path' hp => ?_⟩
        rcases mem_append.1 hp with hp | hp
        · exact hleast path' hp
        · rw [Option.some.inj (mem_singleton.1 hp)]
          exact Nat.not_lt.1 hlt

theorem Best.foldl {plans l : List (Option (List GraphEdge))} {best : Option (List GraphEdge)}
    (h : Best l best) : Best (l ++ plans) (plans.foldl StateMachine.shorter best) := by
  induction plans generalizing l best with
  | nil => simpa using h
  | cons plan rest ih => simpa using ih (h.shorter plan)

/-- The plan to any of the targets: nothing to do at a target, no plan where none can be reached, and
otherwise a path as short as any, without repetitions, of allowed transitions. -/
theorem plan_exact (edges : List GraphEdge) (targetStates : List String) (start : String) :
    (planStatePathToAny edges targetStates start = some [] ↔ start ∈ targetNames targetStates) ∧
    (planStatePathToAny edges targetStates start = none ↔
      ∀ t ∈ targetNames targetStates, ∀ path, ¬ StatePath edges start path t) ∧
    ∀ path, planStatePathToAny edges targetStates start = some path →
      (∃ t ∈ targetNames targetStates, StatePath edges start path t) ∧
      (start :: path.map GraphEdge.dst).Nodup ∧
      (∀ t ∈ targetNames targetStates, ∀ path', StatePath edges start path' t →
        path.length ≤ path'.length) ∧
      ∀ e ∈ path, e ∈ edges ∧ canTransition (allowedByEdges edges) e.dst e.src = true := by
  have hname : ∀ t ∈ targetNames targetStates, t ≠ "" := fun t ht => (mem_targetNames.1 ht).1
  unfold planStatePathToAny
  dsimp only
  generalize targetNames targetStates = targets at hname
  by_cases hempty : targets = []
  · subst hempty
    simp
  rw [if_neg (by simpa using hempty)]
  by_cases hin : start ∈ targets
  · rw [if_pos hin]
    refine ⟨by simp [hin],⟨nofun,fun h => absurd (.nil start) (h start hin [])⟩,fun path h => ?_⟩
    obtain rfl := Option.some.inj h
    exact ⟨⟨start,hin,.nil _⟩,by simp,fun _ _ _ _ => Nat.zero_le _,by simp⟩
  rw [if_neg hin]
  have hplan : ∀ t ∈ targets, (planStatePath edges t start = none ∧
      ∀ path, ¬ StatePath edges start path t) ∨ ∃ path, planStatePath edges t start = some path ∧
        StatePath edges start path t ∧ (start :: path.map GraphEdge.dst).Nodup ∧
        ∀ path', StatePath edges start path' t → path.length ≤ path'.length := by
    intro t ht
    by_cases hstart : start = ""
    · refine .inl ⟨by simp [planStatePath,hstart],fun path h => ?_⟩
      cases h with
      | nil => exact hin ht
      | cons he _ => simp [edgesFrom,hstart] at he
    · exact planStatePath_spec hstart (hname t ht)
  have hbest : Best ([] ++ targets.map fun target => planStatePath edges target start)
      ((targets.map fun target => planStatePath edges target start).foldl shorter none) :=
    Best.foldl fun _ h => nomatch h
  rw [nil_append] at hbest
  generalize (targets.map fun target => planStatePath edges target start).foldl shorter none = best
    at hbest
  cases best with
  | none =>
    have hnone : ∀ t ∈ targets, ∀ path, ¬ StatePath edges start path t := by
      intro t ht
      rcases hplan t ht with ⟨-,h⟩ | ⟨path,hpath,-⟩
      · exact h
      · have := hbest _ (mem_map_of_mem ht)
        rw [hpath] at this
        cases this
    exact ⟨by simp [hin],⟨fun _ => hnone,fun _ => rfl⟩,nofun⟩
  | some path =>
    obtain ⟨hmem,hshortest⟩ := hbest
    obtain ⟨t,ht,hplanned⟩ := mem_map.1 hmem
    obtain ⟨path',hpath',hwalk,hnodup,-⟩ : ∃ path', planStatePath edges t start = some path' ∧ _ := by
      rcases hplan t ht with ⟨h,-⟩ | h
      · rw [h] at hplanned
        cases hplanned
      · exact h
    obtain rfl : path' = path := Option.some.inj (hpath'.symm.trans hplanned)
    refine ⟨⟨fun h => ?_,fun h => absurd h hin⟩,⟨nofun,fun h => absurd hwalk (h t ht _)⟩,fun p hp => ?_⟩
    · obtain rfl := Option.some.inj h
      cases hwalk
      exact absurd ht hin
    · obtain rfl := Option.some.inj hp
      refine ⟨⟨t,ht,hwalk⟩,hnodup,fun t' ht' p' hp' => ?_,hwalk.allowed⟩
      rcases hplan t' ht' with ⟨-,h⟩ | ⟨q,hq,-,-,hleast⟩
      · exact absurd hp' (h p')
      · exact (hshortest q (mem_map.2 ⟨t',ht',hq⟩)).trans (hleast p' hp')

end ExperimentControl.StateMachine

import ExperimentControl.Sequencer.UseGraph

/-!
Every step of a plan in document order, those of used sequences with them (`iter_plan_steps`).
-/

namespace ExperimentControl.Sequencer
open Lib Python

structure PlanStepRef where
  step : Step
  path : String
  useId : Option String

structure Expansion where
  refs : List PlanStepRef
  guarded : List String

def Expansion.none : Expansion := ⟨[],[]⟩

def Expansion.append (a b : Expansion) : Expansion := ⟨a.refs ++ b.refs,a.guarded ++ b.guarded⟩

structure PlanScope where
  resolveUse : Option (String → Except PyExc SequenceSpec)
  includeDisabled : Bool

abbrev ExpandUse := List Step → String → Option String → List String → Option Expansion

section
variable (s : PlanScope) (again : ExpandUse)

def planUse (sequenceId stepPath : String) (useChain : List String) : Option Expansion :=
  match s.resolveUse with
  | none => some .none
  | some resolve =>
    let name := strip sequenceId
    if name = "" ∨ name ∈ useChain then some ⟨[],[name]⟩
    else match resolve name with
      | .error _ => some .none
      | .ok spec => again spec.steps s!"{stepPath}.use.steps" (some name) (useChain ++ [name])

mutual
def planSteps (path : String) (useId : Option String) (useChain : List String) :
    Nat → List Step → Option Expansion
  | _,[] => some .none
  | index,step :: rest => do
    let stepPath := s!"{path}[{index}]"
    let here ← (if !s.includeDisabled && step.disabled then some .none
      else (planBelow stepPath useId useChain step).map
        (Expansion.append ⟨[⟨step,stepPath,useId⟩],[]⟩) : Option Expansion)
    let more ← planSteps path useId useChain (index+1) rest
    return here.append more
/-- The steps below a step (`step_bodies`), or of the sequence that it uses. -/
def planBelow (stepPath : String) (useId : Option String) (useChain : List String) :
    Step → Option Expansion
  | .for_ _ _ body _ => planSteps s!"{stepPath}.for.do" useId useChain 0 body
  | .repeat_ _ body _ => planSteps s!"{stepPath}.repeat.do" useId useChain 0 body
  | .if_ _ thenSteps elseSteps _ => do
    let taken ← planSteps s!"{stepPath}.if.then" useId useChain 0 thenSteps
    let other ← planSteps s!"{stepPath}.if.else" useId useChain 0 elseSteps
    return taken.append other
  | .while_ _ body _ => planSteps s!"{stepPath}.while.do" useId useChain 0 body
  | .atomic _ body _ => planSteps s!"{stepPath}.atomic.do" useId useChain 0 body
  | .parallel body _ => planSteps s!"{stepPath}.parallel.do" useId useChain 0 body
  | .try_ body finallySteps _ => do
    let tried ← planSteps s!"{stepPath}.try.do" useId useChain 0 body
    let last ← planSteps s!"{stepPath}.try.finally" useId useChain 0 finallySteps
    return tried.append last
  | .adaptive _ body _ => planSteps s!"{stepPath}.adaptive.do" useId useChain 0 body
  | .use sequenceId _ _ => planUse s again sequenceId stepPath useChain
  | .call _ _ | .set _ _ | .sleep _ _ | .waitUntil _ _ | .pause _ _ | .assign _ _
  | .setContext _ _ _ => some .none
end

end

/-- `iter_plan_steps`, with the fuel for sequences that are used within each other. -/
def iterPlanSteps (s : PlanScope) : Nat → ExpandUse
  | 0,steps,path,useId,useChain => planSteps s (fun _ _ _ _ => none) path useId useChain 0 steps
  | fuel+1,steps,path,useId,useChain =>
    planSteps s (iterPlanSteps s fuel) path useId useChain 0 steps

/-- With this much fuel or more there is one expansion, and the guard never stopped it. -/
def Unguarded (enough : Nat) (expand : Nat → Option Expansion) : Prop :=
  ∃ e, e.guarded = [] ∧ ∀ fuel, enough ≤ fuel → expand fuel = some e

theorem unguarded_none (enough : Nat) : Unguarded enough fun _ => some .none :=
  ⟨.none,rfl,fun _ _ => rfl⟩

theorem Unguarded.append {enough : Nat} {f g : Nat → Option Expansion} (hf : Unguarded enough f)
    (hg : Unguarded enough g) :
    Unguarded enough fun fuel => do
      let a ← f fuel
      let b ← g fuel
      return a.append b := by
  obtain ⟨a,ha,hf⟩ := hf
  obtain ⟨b,hb,hg⟩ := hg
  refine ⟨a.append b,by simp [Expansion.append,ha,hb],?_⟩
  intro fuel hfuel
  simp [hf fuel hfuel,hg fuel hfuel]

theorem Unguarded.map {enough : Nat} {f : Nat → Option Expansion} (hf : Unguarded enough f)
    (ref : PlanStepRef) :
    Unguarded enough fun fuel => (f fuel).map (Expansion.append ⟨[ref],[]⟩) := by
  obtain ⟨e,he,hf⟩ := hf
  refine ⟨Expansion.append ⟨[ref],[]⟩ e,by simp [Expansion.append,he],?_⟩
  intro fuel hfuel
  simp [hf fuel hfuel]

section
variable {s : PlanScope} {again : Nat → ExpandUse} {enough : Nat} {useChain : List String}
  {P : String → Prop}

mutual
theorem unguarded_planSteps (huse : ∀ id, P id → ∀ path, Unguarded enough fun fuel =>
    planUse s (again fuel) id path useChain) : ∀ (steps : List Step) (path : String)
      (useId : Option String) (index : Nat), (∀ id ∈ iterUseIds steps, P id) →
      Unguarded enough fun fuel => planSteps s (again fuel) path useId useChain index steps
  | [],path,useId,index,_ => by
    simp only [planSteps]
    exact unguarded_none enough
  | step :: rest,path,useId,index,hP => by
    have hbelow := unguarded_planBelow huse step s!"{path}[{index}]" useId
      fun id hid => hP id (by simp [iterUseIds,hid])
    have hmore := unguarded_planSteps huse rest path useId (index+1)
      fun id hid => hP id (by simp [iterUseIds,hid])
    simp only [planSteps]
    by_cases hskip : (!s.includeDisabled && step.disabled) = true
    · simp only [hskip,if_true]
      exact (unguarded_none enough).append hmore
    · simp only [hskip]
      exact (hbelow.map ⟨step,s!"{path}[{index}]",useId⟩).append hmore
theorem unguarded_planBelow (huse : ∀ id, P id → ∀ path, Unguarded enough fun fuel =>
    planUse s (again fuel) id path useChain) : ∀ (step : Step) (stepPath : String)
      (useId : Option String), (∀ id ∈ stepUseIds step, P id) →
      Unguarded enough fun fuel => planBelow s (again fuel) stepPath useId useChain step
  | .use sequenceId _ _,stepPath,useId,hP => huse sequenceId (hP _ (by simp [stepUseIds])) stepPath
  | .for_ _ _ body _,stepPath,useId,hP =>
    unguarded_planSteps huse body _ useId 0 fun id hid => hP id (by simpa [stepUseIds] using hid)
  | .repeat_ _ body _,stepPath,useId,hP =>
    unguarded_planSteps huse body _ useId 0 fun id hid => hP id (by simpa [stepUseIds] using hid)
  | .if_ _ thenSteps elseSteps _,stepPath,useId,hP =>
    (unguarded_planSteps huse thenSteps _ useId 0
      fun id hid => hP id (by simp [stepUseIds,hid])).append
    (unguarded_planSteps huse elseSteps _ useId 0
      fun id hid => hP id (by simp [stepUseIds,hid]))
  | .while_ _ body _,stepPath,useId,hP =>
    unguarded_planSteps huse body _ useId 0 fun id hid => hP id (by simpa [stepUseIds] using hid)
  | .atomic _ body _,stepPath,useId,hP =>
    unguarded_planSteps huse body _ useId 0 fun id hid => hP id (by simpa [stepUseIds] using hid)
  | .parallel body _,stepPath,useId,hP =>
    unguarded_planSteps huse body _ useId 0 fun id hid => hP id (by simpa [stepUseIds] using hid)
  | .try_ body finallySteps _,stepPath,useId,hP =>
    (unguarded_planSteps huse body _ useId 0
      fun id hid => hP id (by simp [stepUseIds,hid])).append
    (unguarded_planSteps huse finallySteps _ useId 0
      fun id hid => hP id (by simp [stepUseIds,hid]))
  | .adaptive _ body _,stepPath,useId,hP =>
    unguarded_planSteps huse body _ useId 0 fun id hid => hP id (by simpa [stepUseIds] using hid)
  | .call _ _,_,_,_ | .set _ _,_,_,_ | .sleep _ _,_,_,_ | .waitUntil _ _,_,_,_ | .pause _ _,_,_,_
  | .assign _ _,_,_,_ | .setContext _ _ _,_,_,_ => unguarded_none enough
end

end

def usedAt (s : PlanScope) : Nat → ExpandUse
  | 0 => fun _ _ _ _ => none
  | fuel+1 => iterPlanSteps s fuel

theorem iterPlanSteps_eq (s : PlanScope) (fuel : Nat) (steps : List Step) (path : String)
    (useId : Option String) (useChain : List String) : iterPlanSteps s fuel steps path useId useChain =
      planSteps s (usedAt s fuel) path useId useChain 0 steps := by
  cases fuel <;> rfl

variable {repr : Value → String} {entries : LibraryEntries} {order : List String}

/-- Where the entries can be ordered, expanding steps that use the first ones ends, and the guard is
not met: what is used within a sequence comes before it. -/
theorem unguarded_iterPlanSteps (hknown : UsesKnown entries)
    (htopological : Topological (useGraph entries) [] order) (hall : ∀ n ∈ entries.keys, n ∈ order)
    (includeDisabled : Bool) (rank : Nat) : ∀ (steps : List Step) (path : String)
      (useId : Option String) (useChain : List String),
      (∀ id ∈ iterUseIds steps, NormalId id ∧ entries.contains id = true ∧ order.idxOf id < rank ∧
        ∀ used ∈ useChain, order.idxOf id < order.idxOf used) →
      Unguarded rank fun fuel =>
        iterPlanSteps ⟨some (getSpec repr entries),includeDisabled⟩ fuel steps path useId useChain := by
  induction rank with
  | zero =>
    intro steps path useId useChain hids
    simp only [iterPlanSteps_eq]
    refine unguarded_planSteps (P := fun _ => False) (fun _ h => h.elim) steps path useId 0 ?_
    intro id hid
    exact absurd (hids id hid).2.2.1 (Nat.not_lt_zero _)
  | succ rank ih =>
    intro steps path useId useChain hids
    simp only [iterPlanSteps_eq]
    refine unguarded_planSteps ?_ steps path useId 0 hids
    rintro id ⟨hnormal,hcontains,hrank,hchain⟩ stepPath
    rw [OrderedDict.contains,Option.isSome_iff_exists] at hcontains
    obtain ⟨entry,hentry⟩ := hcontains
    have hid : id ∈ order := hall id
      (List.mem_map_of_mem ((OrderedDict.get?_eq_some_iff _ _ _).1 hentry))
    have hspec : getSpec repr entries id = .ok entry.spec := by
      simp [getSpec,hnormal.1,hnormal.2,hentry]
    have hfresh : id ∉ useChain := fun hmem => Nat.lt_irrefl _ (hchain id hmem)
    obtain ⟨e,hguarded,hexpand⟩ := ih entry.spec.steps s!"{stepPath}.use.steps" (some id)
      (useChain ++ [id]) (by
        intro next hnext
        have huse := mem_iterUseIds.1 hnext
        have hused : Uses entries id next := ⟨entry,hentry,huse⟩
        have hbelow := htopological.idxOf_lt hid (mem_useGraph.2 hused) (by simp)
        refine ⟨(entry.parsed next huse).normal,hknown id next hused,by omega,?_⟩
        intro used hmem
        cases List.mem_append.1 hmem with
        | inl hold => exact Nat.lt_trans hbelow (hchain used hold)
        | inr hlast => simp at hlast; rw [hlast]; exact hbelow)
    refine ⟨e,hguarded,?_⟩
    intro fuel hfuel
    obtain ⟨fuel,rfl⟩ : ∃ k, fuel = k+1 := ⟨fuel-1,by omega⟩
    simp only [planUse,hnormal.1,hnormal.2,hfresh,hspec,or_self,if_false]
    exact hexpand fuel (by omega)

/-- A library is accepted just where every sequence that is used, at any depth of an entry, is an entry
and none uses itself; then expanding the steps of any entry ends, and the guard against cycles is never
met. -/
theorem validateUseGraph_exact (repr : Value → String) (entries : LibraryEntries) :
    (validateUseGraph repr entries = .ok () ↔ UsesKnown entries ∧ Acyclic (Uses entries)) ∧
      (validateUseGraph repr entries = .ok () → ∀ id entry, entries.get? id = some entry →
        ∀ (includeDisabled : Bool) (path : String) (useId : Option String), ∃ enough,
          Unguarded enough fun fuel => iterPlanSteps ⟨some (getSpec repr entries),includeDisabled⟩ fuel
            entry.spec.steps path useId []) := by
  obtain ⟨hiff,horder⟩ := @validateUseGraph_ok_iff entries repr
  refine ⟨hiff,?_⟩
  intro hok id entry hentry includeDisabled path useId
  obtain ⟨order,htopological,hall⟩ := horder hok
  have hknown := (hiff.1 hok).1
  have hid : id ∈ order :=
    hall id (List.mem_map_of_mem ((OrderedDict.get?_eq_some_iff _ _ _).1 hentry))
  refine ⟨order.idxOf id,unguarded_iterPlanSteps hknown htopological hall includeDisabled _ _ _ _ _ ?_⟩
  intro next hnext
  have huse := mem_iterUseIds.1 hnext
  have hused : Uses entries id next := ⟨entry,hentry,huse⟩
  exact ⟨(entry.parsed next huse).normal,hknown id next hused,
    htopological.idxOf_lt hid (mem_useGraph.2 hused) (by simp),by simp⟩

/-- A sequence that uses others in a loop, by the texts that stand in its document. -/
def repeatingUses (texts : List String) (h : ∀ text ∈ texts, strip text ≠ "") :
    SequenceLibraryEntry where
  spec := ⟨.empty,[.repeat_ (.int 2) (texts.map fun text => .use (strip text) none false) false]⟩
  parsed := by
    intro id hid
    rw [← mem_iterUseIds] at hid
    have hmem : id ∈ texts.map strip := by
      simp only [iterUseIds,stepUseIds,List.append_nil] at hid
      induction texts with
      | nil => cases hid
      | cons text rest ih =>
        simp only [List.map_cons,iterUseIds,stepUseIds,List.singleton_append,List.mem_cons] at hid ⊢
        exact hid.imp_right fun hrest => ih (fun t ht => h t (List.mem_cons_of_mem _ ht)) hrest
    obtain ⟨text,htext,rfl⟩ := List.mem_map.1 hmem
    exact ⟨fun _ => "",.str text,none,false,if_neg (h text htext)⟩

theorem iterUseIds_repeatingUses {texts : List String} (h : ∀ text ∈ texts, strip text ≠ "") :
    iterUseIds (repeatingUses texts h).spec.steps = texts.map strip := by
  have hids : ∀ texts : List String,
      iterUseIds (texts.map fun text => .use (strip text) none false) = texts.map strip := by
    intro texts
    induction texts with
    | nil => rfl
    | cons text rest ih => simp [iterUseIds,stepUseIds,ih]
  simp [repeatingUses,iterUseIds,stepUseIds,hids]

/-- Two sequences that use the same one, and one that uses both. -/
def diamond : LibraryEntries :=
  (((OrderedDict.empty.set "scan" (repeatingUses [" left","right "] (by decide))).set "left"
    (repeatingUses ["shared"] (by decide))).set "right" (repeatingUses ["shared"] (by decide))).set
      "shared" (repeatingUses [] (by decide))

theorem uses_diamond {a b : String} (h : Uses diamond a b) :
    (a,b) ∈ [("scan","left"),("scan","right"),("left","shared"),("right","shared")] := by
  obtain ⟨entry,hentry,huse⟩ := h
  have hmem := (OrderedDict.get?_eq_some_iff _ _ _).1 hentry
  rw [← mem_iterUseIds] at huse
  have hstrip : strip " left" = "left" ∧ strip "right " = "right" ∧ strip "shared" = "shared" := by
    decide +kernel
  have hentries : diamond.entries = [("scan",repeatingUses [" left","right "] (by decide)),
      ("left",repeatingUses ["shared"] (by decide)),("right",repeatingUses ["shared"] (by decide)),
      ("shared",repeatingUses [] (by decide))] := rfl
  rw [hentries] at hmem
  simp only [List.mem_cons,Prod.mk.injEq,List.not_mem_nil,or_false] at hmem
  rcases hmem with ⟨rfl,rfl⟩ | ⟨rfl,rfl⟩ | ⟨rfl,rfl⟩ | ⟨rfl,rfl⟩ <;>
    simp [iterUseIds_repeatingUses,hstrip] at huse ⊢ <;> exact huse

def diamondRank : String → Nat
  | "scan" => 2
  | "left" | "right" => 1
  | _ => 0

theorem rank_lt_of_uses {a b : String} (h : Uses diamond a b) : diamondRank b < diamondRank a := by
  have hmem := uses_diamond h
  simp only [List.mem_cons,Prod.mk.injEq,List.not_mem_nil,or_false] at hmem
  rcases hmem with ⟨rfl,rfl⟩ | ⟨rfl,rfl⟩ | ⟨rfl,rfl⟩ | ⟨rfl,rfl⟩ <;> decide

theorem acyclic_diamond : Acyclic (Uses diamond) := by
  intro n h
  have hlt : ∀ a b, Relation.TransGen (Uses diamond) a b → diamondRank b < diamondRank a := by
    intro a b hab
    induction hab with
    | single hab => exact rank_lt_of_uses hab
    | tail _ hbc ih => exact Nat.lt_trans (rank_lt_of_uses hbc) ih
  exact Nat.lt_irrefl _ (hlt n n h)

theorem usesKnown_diamond : UsesKnown diamond := by
  intro a b h
  have hmem := uses_diamond h
  simp only [List.mem_cons,Prod.mk.injEq,List.not_mem_nil,or_false] at hmem
  rcases hmem with ⟨rfl,rfl⟩ | ⟨rfl,rfl⟩ | ⟨rfl,rfl⟩ | ⟨rfl,rfl⟩ <;> rfl

theorem diamond_expands : validateUseGraph (fun _ => "") diamond = .ok () ∧
    ∃ enough, Unguarded enough fun fuel =>
      iterPlanSteps ⟨some (getSpec (fun _ => "") diamond),false⟩ fuel
        (repeatingUses [" left","right "] (by decide)).spec.steps "steps" none [] := by
  have hexact := validateUseGraph_exact (fun _ => "") diamond
  have hok := hexact.1.2 ⟨usesKnown_diamond,acyclic_diamond⟩
  exact ⟨hok,hexact.2 hok "scan" _ rfl false "steps" none⟩

end ExperimentControl.Sequencer

import ExperimentControl.Lib.DepthFirst
import ExperimentControl.Python.Conversions
import ExperimentControl.Sequencer.Ast

/-!
Sequences that use each other, and the check of a library that they know each other and do not use
themselves (`SequenceLibrary._validate_use_graph`).
-/

namespace ExperimentControl.Sequencer
open Lib Python OrderedDict List

mutual
def iterUseIds : List Step → List String
  | [] => []
  | step :: rest => stepUseIds step ++ iterUseIds rest
def stepUseIds : Step → List String
  | .use sequenceId _ _ => [sequenceId]
  | .adaptive _ body _ => iterUseIds body
  | .for_ _ _ body _ => iterUseIds body
  | .repeat_ _ body _ => iterUseIds body
  | .if_ _ thenSteps elseSteps _ => iterUseIds thenSteps ++ iterUseIds elseSteps
  | .while_ _ body _ => iterUseIds body
  | .atomic _ body _ => iterUseIds body
  | .parallel body _ => iterUseIds body
  | .try_ body finallySteps _ => iterUseIds body ++ iterUseIds finallySteps
  | .call _ _ | .set _ _ | .sleep _ _ | .waitUntil _ _ | .pause _ _ | .assign _ _
  | .setContext _ _ _ => []
end

/-- A use step with this id occurs among the steps, at any depth, disabled or not. -/
inductive UsesIn (id : String) : List Step → Prop
  | later {step rest} : UsesIn id rest → UsesIn id (step :: rest)
  | use {args disabled rest} : UsesIn id (.use id args disabled :: rest)
  | adaptive {spec body disabled rest} : UsesIn id body →
      UsesIn id (.adaptive spec body disabled :: rest)
  | for_ {bind inExpr body disabled rest} : UsesIn id body →
      UsesIn id (.for_ bind inExpr body disabled :: rest)
  | repeat_ {times body disabled rest} : UsesIn id body →
      UsesIn id (.repeat_ times body disabled :: rest)
  | then_ {condition thenSteps elseSteps disabled rest} : UsesIn id thenSteps →
      UsesIn id (.if_ condition thenSteps elseSteps disabled :: rest)
  | else_ {condition thenSteps elseSteps disabled rest} : UsesIn id elseSteps →
      UsesIn id (.if_ condition thenSteps elseSteps disabled :: rest)
  | while_ {condition body disabled rest} : UsesIn id body →
      UsesIn id (.while_ condition body disabled :: rest)
  | atomic {name body disabled rest} : UsesIn id body →
      UsesIn id (.atomic name body disabled :: rest)
  | parallel {body disabled rest} : UsesIn id body → UsesIn id (.parallel body disabled :: rest)
  | tried {body finallySteps disabled rest} : UsesIn id body →
      UsesIn id (.try_ body finallySteps disabled :: rest)
  | finally_ {body finallySteps disabled rest} : UsesIn id finallySteps →
      UsesIn id (.try_ body finallySteps disabled :: rest)

theorem mem_of_usesIn {id : String} {steps : List Step} (h : UsesIn id steps) :
    id ∈ iterUseIds steps := by
  induction h with
  | use => simp [iterUseIds,stepUseIds]
  | later _ ih => simp [iterUseIds,ih]
  | adaptive _ ih => simp [iterUseIds,stepUseIds,ih]
  | for_ _ ih => simp [iterUseIds,stepUseIds,ih]
  | repeat_ _ ih => simp [iterUseIds,stepUseIds,ih]
  | then_ _ ih => simp [iterUseIds,stepUseIds,ih]
  | else_ _ ih => simp [iterUseIds,stepUseIds,ih]
  | while_ _ ih => simp [iterUseIds,stepUseIds,ih]
  | atomic _ ih => simp [iterUseIds,stepUseIds,ih]
  | parallel _ ih => simp [iterUseIds,stepUseIds,ih]
  | tried _ ih => simp [iterUseIds,stepUseIds,ih]
  | finally_ _ ih => simp [iterUseIds,stepUseIds,ih]

mutual
theorem usesIn_of_mem {id : String} : ∀ steps : List Step, id ∈ iterUseIds steps → UsesIn id steps
  | [],h => by simp [iterUseIds] at h
  | step :: rest,h => by
    rw [iterUseIds] at h
    cases mem_append.1 h with
    | inl hstep => exact usesIn_of_mem_step step rest hstep
    | inr hrest => exact .later (usesIn_of_mem rest hrest)
theorem usesIn_of_mem_step {id : String} : ∀ (step : Step) (rest : List Step), id ∈ stepUseIds step →
    UsesIn id (step :: rest)
  | .use sequenceId args disabled,rest,h => by
    simp only [stepUseIds,mem_singleton] at h
    exact h ▸ .use
  | .adaptive spec body disabled,rest,h => .adaptive (usesIn_of_mem body (by simpa [stepUseIds] using h))
  | .for_ bind inExpr body disabled,rest,h => .for_ (usesIn_of_mem body (by simpa [stepUseIds] using h))
  | .repeat_ times body disabled,rest,h => .repeat_ (usesIn_of_mem body (by simpa [stepUseIds] using h))
  | .if_ condition thenSteps elseSteps disabled,rest,h => by
    simp only [stepUseIds,mem_append] at h
    cases h with
    | inl hthen => exact .then_ (usesIn_of_mem thenSteps hthen)
    | inr helse => exact .else_ (usesIn_of_mem elseSteps helse)
  | .while_ condition body disabled,rest,h => .while_ (usesIn_of_mem body (by simpa [stepUseIds] using h))
  | .atomic name body disabled,rest,h => .atomic (usesIn_of_mem body (by simpa [stepUseIds] using h))
  | .parallel body disabled,rest,h => .parallel (usesIn_of_mem body (by simpa [stepUseIds] using h))
  | .try_ body finallySteps disabled,rest,h => by
    simp only [stepUseIds,mem_append] at h
    cases h with
    | inl htried => exact .tried (usesIn_of_mem body htried)
    | inr hfinally => exact .finally_ (usesIn_of_mem finallySteps hfinally)
  | .call _ _,_,h | .set _ _,_,h | .sleep _ _,_,h | .waitUntil _ _,_,h | .pause _ _,_,h
  | .assign _ _,_,h | .setContext _ _ _,_,h => by simp [stepUseIds] at h
end

theorem mem_iterUseIds {id : String} {steps : List Step} :
    id ∈ iterUseIds steps ↔ UsesIn id steps := ⟨usesIn_of_mem steps,mem_of_usesIn⟩

def NormalId (id : String) : Prop := strip id = id ∧ id ≠ ""

def readUse (repr : Value → String) : Value → Except PyExc (String × Option Entries)
  | .str text => .ok (strip text,none)
  | .dict _ entries =>
    let sequenceId := strip ((getD entries "id" (.str "")).text repr)
    match getD entries "args" .none with
    | .none => .ok (sequenceId,none)
    | .dict _ args => .ok (sequenceId,some args)
    | _ => .error ⟨.typeError,"use.args must be a dict"⟩
  | _ => .error ⟨.typeError,"use must be a string id or a dict"⟩

/-- The branch of `_parse_step` for a `use`. -/
def parseUse (repr : Value → String) (rawUse : Value) (disabled : Bool) : Except PyExc Step := do
  let (sequenceId,args) ← readUse repr rawUse
  if sequenceId = "" then throw ⟨.typeError,"use.id is required"⟩
  return .use sequenceId args disabled

/-- A `use` with this id comes out of the parser. -/
def ParsedUse (id : String) : Prop :=
  ∃ repr rawUse args disabled, parseUse repr rawUse disabled = .ok (.use id args disabled)

theorem strip_strip (s : String) : strip (strip s) = strip s := by
  have hsuffix := dropWhile_suffix (l := (s.toList.dropWhile isSpace).reverse) isSpace
  have hfront : ((s.toList.dropWhile isSpace).reverse.dropWhile isSpace).reverse.dropWhile isSpace =
      ((s.toList.dropWhile isSpace).reverse.dropWhile isSpace).reverse := by
    have hprefix := reverse_prefix.2 hsuffix
    rw [reverse_reverse] at hprefix
    cases hkept : ((s.toList.dropWhile isSpace).reverse.dropWhile isSpace).reverse with
    | nil => rfl
    | cons c rest =>
      rw [hkept] at hprefix
      obtain ⟨tail,htail⟩ := hprefix
      have hhead := head?_dropWhile_not isSpace s.toList
      rw [← htail] at hhead
      rw [dropWhile_cons_of_neg (by simpa using hhead)]
  rw [strip,strip,String.toList_ofList,hfront,reverse_reverse,dropWhile_idempotent]

theorem readUse_stripped {repr : Value → String} {rawUse : Value} {id : String}
    {args : Option Entries} (h : readUse repr rawUse = .ok (id,args)) : ∃ text, id = strip text := by
  unfold readUse at h
  split at h
  · cases h
    exact ⟨_,rfl⟩
  · dsimp only at h
    split at h <;> cases h
    · exact ⟨_,rfl⟩
    · exact ⟨_,rfl⟩
  · cases h

theorem ParsedUse.normal {id : String} (h : ParsedUse id) : NormalId id := by
  obtain ⟨repr,rawUse,args,disabled,h⟩ := h
  unfold parseUse at h
  obtain ⟨⟨sequenceId,read⟩,hread,h⟩ := ok_of_bind h
  obtain ⟨text,rfl⟩ := readUse_stripped hread
  dsimp only at h
  split at h
  · cases h
  · cases h
    exact ⟨strip_strip text,‹_›⟩

structure SequenceLibraryEntry where
  spec : SequenceSpec
  parsed : ∀ id, UsesIn id spec.steps → ParsedUse id

abbrev LibraryEntries := OrderedDict String SequenceLibraryEntry

/-- `sorted(set(items))` -/
def sortedSet (items : List String) : List String := items.dedup.mergeSort (· ≤ ·)

def SequenceLibraryEntry.useIds (entry : SequenceLibraryEntry) : List String :=
  sortedSet (iterUseIds entry.spec.steps)

def SequenceLibraryEntry.targets (entry : SequenceLibraryEntry) : List String :=
  sortedSet ((entry.useIds.filter fun item => strip item ≠ "").map strip)

/-- `graph.get(node, [])` -/
def useGraph (entries : LibraryEntries) (node : String) : List String :=
  ((entries.get? node).map SequenceLibraryEntry.targets).getD []

def checkTargets (repr : Value → String) (entries : LibraryEntries)
    (e : String × SequenceLibraryEntry) : Except PyExc Unit :=
  e.2.targets.forM fun target =>
    if entries.contains target then .ok ()
    else .error ⟨.valueError,"sequence " ++ repr (.str e.1) ++ " references unknown use.id " ++
      repr (.str target)⟩

def validateUseGraph (repr : Value → String) (entries : LibraryEntries) : Except PyExc Unit := do
  entries.entries.forM (checkTargets repr entries)
  match visitAll (useGraph entries) entries.keys.length (entries.keys.mergeSort (· ≤ ·)) .fresh with
  | .ok _ => return ()
  | .error (.cycle nodes) =>
    throw ⟨.valueError,"sequence library use cycle detected: " ++ " -> ".intercalate nodes⟩
  -- every node is visited at most once
  | .error .outOfFuel => throw ⟨.other,"maximum recursion depth exceeded"⟩

def getSpec (repr : Value → String) (entries : LibraryEntries) (sequenceId : String) :
    Except PyExc SequenceSpec :=
  let key := strip sequenceId
  if key = "" then .error ⟨.valueError,"sequence_id must not be empty"⟩
  else match entries.get? key with
    | some entry => .ok entry.spec
    | none => .error ⟨.keyError,"unknown sequence library id " ++ repr (.str key)⟩

def Uses (entries : LibraryEntries) (a b : String) : Prop :=
  ∃ entry, entries.get? a = some entry ∧ UsesIn b entry.spec.steps

@[simp] theorem mem_sortedSet {items : List String} {item : String} :
    item ∈ sortedSet items ↔ item ∈ items := by
  simp [sortedSet]

theorem mem_targets {entry : SequenceLibraryEntry} {target : String} :
    target ∈ entry.targets ↔ UsesIn target entry.spec.steps := by
  simp only [SequenceLibraryEntry.targets,SequenceLibraryEntry.useIds,mem_sortedSet,mem_map,
    mem_filter,mem_iterUseIds,decide_eq_true_eq]
  constructor
  · rintro ⟨item,⟨hitem,_⟩,rfl⟩
    rwa [(entry.parsed item hitem).normal.1]
  · intro h
    obtain ⟨hstrip,hne⟩ := (entry.parsed target h).normal
    exact ⟨target,⟨h,by rwa [hstrip]⟩,hstrip⟩

variable {entries : LibraryEntries}

theorem mem_useGraph {a b : String} : b ∈ useGraph entries a ↔ Uses entries a b := by
  unfold useGraph Uses
  cases h : entries.get? a with
  | none => simp
  | some entry => simp [mem_targets]

def UsesKnown (entries : LibraryEntries) : Prop :=
  ∀ a b, Uses entries a b → entries.contains b = true

theorem checkTargets_ok_iff {repr : Value → String} :
    entries.entries.forM (checkTargets repr entries) = .ok () ↔ UsesKnown entries := by
  rw [forM_ok_iff]
  constructor
  · rintro h a b ⟨entry,hentry,huse⟩
    have hchecked := h (a,entry) ((get?_eq_some_iff _ _ _).1 hentry)
    rw [checkTargets,forM_ok_iff] at hchecked
    have htarget := hchecked b (mem_targets.2 huse)
    by_contra hunknown
    simp [hunknown] at htarget
  · intro h e he
    rw [checkTargets,forM_ok_iff]
    intro target htarget
    have hknown := h e.1 target ⟨e.2,(get?_eq_some_iff _ _ _).2 he,mem_targets.1 htarget⟩
    simp [hknown]

/-- The check accepts a library just where every used sequence is an entry and none uses itself, and
then the entries can be ordered so that each comes after those that it uses. -/
theorem validateUseGraph_ok_iff {repr : Value → String} :
    (validateUseGraph repr entries = .ok () ↔ UsesKnown entries ∧ Acyclic (Uses entries)) ∧
      (validateUseGraph repr entries = .ok () →
        ∃ order, Topological (useGraph entries) [] order ∧ ∀ n ∈ entries.keys, n ∈ order) := by
  have hgraph : (fun a b => b ∈ useGraph entries a) = Uses entries := by
    funext a b
    exact propext mem_useGraph
  have hkeys : ∀ n, entries.contains n = true ↔ n ∈ entries.keys.toFinset := by
    intro n
    rw [mem_toFinset,OrderedDict.contains,Option.isSome_iff_ne_none,Ne,get?_eq_none_iff,not_not]
  by_cases hknown : UsesKnown entries
  · have hclosed : ∀ n ∈ entries.keys.toFinset, ∀ next ∈ useGraph entries n,
        next ∈ entries.keys.toFinset := by
      intro n _ next hnext
      exact (hkeys next).1 (hknown n next (mem_useGraph.1 hnext))
    have hroots : ∀ a b, b ∈ useGraph entries a → a ∈ entries.keys.toFinset := by
      intro a b hab
      obtain ⟨entry,hentry,_⟩ := mem_useGraph.1 hab
      exact (hkeys a).1 (by simp [OrderedDict.contains,hentry])
    have htargets : ∀ n, n ∈ entries.keys.mergeSort (· ≤ ·) ↔ n ∈ entries.keys.toFinset := by
      intro n
      simp
    have hfuel := toFinset_card_le entries.keys
    obtain ⟨hiff,horder⟩ := visitAll_ok_iff hclosed hroots hfuel htargets
    rw [hgraph] at hiff horder
    have hchecked : validateUseGraph repr entries = .ok () ↔
        ∃ m, visitAll (useGraph entries) entries.keys.length (entries.keys.mergeSort (· ≤ ·)) .fresh =
          .ok m := by
      unfold validateUseGraph
      rw [checkTargets_ok_iff.2 hknown]
      cases visitAll (useGraph entries) entries.keys.length (entries.keys.mergeSort (· ≤ ·)) .fresh with
      | ok m => exact iff_of_true rfl ⟨m,rfl⟩
      | error stopped =>
        cases stopped with
        | cycle nodes => exact iff_of_false (fun h => by cases h) (by simp)
        | outOfFuel => exact iff_of_false (fun h => by cases h) (by simp)
    refine ⟨hchecked.trans (hiff.trans ⟨fun h => ⟨hknown,h⟩,And.right⟩),?_⟩
    intro h
    obtain ⟨order,htopological,hall⟩ := horder (hiff.1 (hchecked.1 h))
    exact ⟨order,htopological,fun n hn => hall n (mem_toFinset.2 hn)⟩
  · have hrejected : validateUseGraph repr entries ≠ .ok () := by
      intro h
      obtain ⟨_,hchecked,_⟩ := ok_of_bind h
      exact hknown (checkTargets_ok_iff.1 hchecked)
    exact ⟨⟨fun h => absurd h hrejected,fun h => absurd h.1 hknown⟩,fun h => absurd h hrejected⟩

end ExperimentControl.Sequencer

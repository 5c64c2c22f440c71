import ExperimentControl.Sequencer.Parallel

/-!
A parallel branch against the sequential execution of the same operations.
-/

namespace ExperimentControl.Sequencer
open Lib Python Prog OrderedDict Prod

variable {World : Type}

def Host.calls (host : Host World) : BranchCalls World := ⟨host.callDevice,host.callProcess⟩

def executeOperation (host : Host World) (vars : Env) : CallStep ⊕ SetStep → D World (Option String)
  | .inl step => executeCallStep host vars step
  | .inr step => executeSetStep host vars step

def executeInOrder (host : Host World) (vars : Env) :
    List (CallStep ⊕ SetStep) → D World (Option String)
  | [] => pure none
  | op :: rest => do
    let failure ← executeOperation host vars op
    match failure with
    | some message => pure (some message)
    | none => executeInOrder host vars rest

def assignedKeys : Entries → List String
  | [] => []
  | (key,.dict _ _) :: rest => key :: assignedKeys rest
  | _ :: rest => assignedKeys rest

def boundNames : CallStep ⊕ SetStep → List String
  | .inr _ => []
  | .inl step =>
    (given step.saveAs).toList ++
      (if (givenEntries step.extract).isSome then [(given step.saveAs).getD "value"] else []) ++
      (givenEntries step.assign).elim [] assignedKeys

/-- `ok` as in sequential execution, and then the outputs are the entries that
sequential execution wrote: those of the names it binds, nothing else having changed. -/
def MatchesSequential (host : Host World) (vars : Env) (plan : ParallelBranchPlan)
    (d : Data World) (result : ParallelBranchResult) (n : Nat) : Prop :=
  let ops := (schedule plan).map snd
  (result.ok = true ↔ ∃ d', (executeInOrder host vars ops).run n d = .ok none d') ∧
    ∀ d', (executeInOrder host vars ops).run n d = .ok none d' →
      ∀ name, if name ∈ ops.flatMap boundNames then result.outputs.get? name = d'.env.get? name
        else result.outputs.get? name = none ∧ d'.env.get? name = d.env.get? name

def renderAt (host : Host World) (vars : Env) (d : Data World) (v : Value) : Except PyExc Value :=
  (renderTemplates host.py v).result (buildEnvView d.env vars).get?

/-- `_dispatch_call` as far as it gets a reply. -/
def dispatched (host : Host World) (d : Data World) (device process action : String)
    (params : Value) : Except PyExc Reply :=
  if process ≠ "" then
    match host.callProcess with
    | none => .error ⟨.runtimeError,"process calls not supported"⟩
    | some callProcess => (callProcess process action params d.world).1
  else (host.callDevice device action params d.world).1

def SameAnswer {α : Type} (x y : Except PyExc α) : Prop :=
  (∃ v, x = .ok v ∧ y = .ok v) ∨ ∃ e e', x = .error e ∧ y = .error e'

/-- A `key` extractor meets no indexable result that is not a mapping, an `index`
extractor no mapping. -/
def extractorAgrees (result : Value) (spec : Entries) : Bool :=
  let kind := getD spec "kind" (.str "scalar")
  let ref := getD spec "ref" .none
  if kind = .str "key" then isMapping result || ref = .none || !(subscript result ref).isOk
  else if kind = .str "index" then
    !isMapping result || ref = .none || !(subscript result ref).isOk
  else true

def assignedSpecs : Entries → List Entries
  | [] => []
  | (_,.dict _ spec) :: rest => spec :: assignedSpecs rest
  | _ :: rest => assignedSpecs rest

def branchExtract (py : Primitives) (result : Value) (spec : Entries) : Except PyExc Value :=
  extractValue py result (getD spec "kind" (.str "scalar")) (getD spec "ref" .none)

/-- Both refuse one of the extractors, or they take the same from all of them. -/
def AssignAgrees (py : Primitives) (result : Value) (specs : List Entries) : Prop :=
  (∃ spec ∈ specs, ∃ e, branchExtract py result spec = .error e) ∨
    ∀ spec ∈ specs, extractorAgrees result spec = true

def ExtractorsAgree (py : Primitives) (step : CallStep) (result : Value) : Prop :=
  match givenEntries step.extract,givenEntries step.assign with
  | some spec,none => extractorAgrees result spec = true
  | none,some specs => AssignAgrees py result (assignedSpecs specs)
  | _,_ => True

def operationTemplates : CallStep ⊕ SetStep → List Value
  | .inl step =>
    [.str step.device,.str (step.process.getD ""),.str step.action,.dict false step.params]
  | .inr step => [.str step.device,step.value]

/-- What a name stands for in the branch: the names it has written shadow the vars. -/
def branchView (vars : Env) (written : List String) (d : Data World) (name : String) :
    Option Value :=
  if name ∈ written then d.env.get? name else (buildEnvView d.env vars).get? name

/-- The template renders in the branch as in sequential execution, and what comes then agrees. -/
def Alike (host : Host World) (vars : Env) (written : List String) (d : Data World) (v : Value)
    (next : Value → Prop) : Prop :=
  SameAnswer ((renderTemplates host.py v).result (branchView vars written d))
    (renderAt host vars d v) ∧ ∀ a, renderAt host vars d v = .ok a → next a

/-- Just one of device and process is given, and an action. -/
def Sendable (device process action : String) : Prop :=
  (device = "" ↔ process ≠ "") ∧ action ≠ ""

def SetAgrees (host : Host World) (vars : Env) (written : List String) (d : Data World)
    (step : SetStep) : Prop :=
  Alike host vars written d (.str step.device) fun device =>
    targetText host.py device ≠ "" → Alike host vars written d step.value fun value =>
      ∀ reply, (host.callDevice (targetText host.py device) "set"
        (.dict false [("name",.str step.name),("value",value)]) d.world).1 = .ok reply →
          replyOk reply = true

def CallAgrees (host : Host World) (vars : Env) (written : List String) (d : Data World)
    (step : CallStep) : Prop :=
  Alike host vars written d (.str step.device) fun device =>
  Alike host vars written d (.str (step.process.getD "")) fun process =>
  Alike host vars written d (.str step.action) fun action =>
    Sendable (targetText host.py device) (targetText host.py process) (targetText host.py action) →
    Alike host vars written d (.dict false step.params) fun params =>
      ∀ reply, dispatched host d (targetText host.py device) (targetText host.py process)
        (targetText host.py action) params = .ok reply → replyOk reply = true →
          ExtractorsAgree host.py step (getD reply "result" .none)

def OperationAgrees (host : Host World) (vars : Env) (written : List String) (d : Data World) :
    CallStep ⊕ SetStep → Prop
  | .inl step => CallAgrees host vars written d step
  | .inr step => SetAgrees host vars written d step

/-- Every operation that sequential execution reaches agrees. -/
def BranchAgrees (host : Host World) (vars : Env) (n : Nat) :
    List String → Data World → List (CallStep ⊕ SetStep) → Prop
  | _,_,[] => True
  | written,d,op :: rest =>
    OperationAgrees host vars written d op ∧
      ∀ d', (executeOperation host vars op).run n d = .ok none d' →
        BranchAgrees host vars n (written ++ boundNames op) d' rest

def branchInOrder (py : Primitives) (calls : BranchCalls World) :
    List (CallStep ⊕ SetStep) → B World Unit
  | [] => pure ()
  | op :: rest => do
    runOperation py calls op
    branchInOrder py calls rest

/-- The operation renders one of its templates otherwise in the branch than in sequential
execution, or the branch goes on where sequential execution fails. -/
def Departs (host : Host World) (vars : Env) (n : Nat) (d : Data World) (b : BranchState World)
    (op : CallStep ⊕ SetStep) : Prop :=
  (∃ v ∈ operationTemplates op,
    ¬SameAnswer ((renderTemplates host.py v).result b.env.get?) (renderAt host vars d v)) ∨
  (∃ b', (runOperation host.py host.calls op).run n b = .ok () b') ∧
    ∀ d', (executeOperation host vars op).run n d ≠ .ok none d'

theorem get?_buildEnvView (env vars : Env) (name : String) : (buildEnvView env vars).get? name =
      if name = "vars" then some (toAttrdict (.dict false vars.entries))
      else (vars.get? name).or (env.get? name) := by
  unfold buildEnvView
  rw [get?_set]
  split
  · rfl
  · rw [get?_update]

/-- The branch's state beside the sequential one, after the names in `written`. -/
structure Tracks (start vars : Env) (written : List String) (d : Data World)
    (b : BranchState World) : Prop where
  world : b.world = d.world
  writtenEnv : ∀ name ∈ written, b.env.get? name = d.env.get? name
  otherEnv : ∀ name, name ∉ written → b.env.get? name = (buildEnvView d.env vars).get? name
  outputs : ∀ name, b.outputs.get? name = if name ∈ written then d.env.get? name else none
  frame : ∀ name, name ∉ written → d.env.get? name = start.get? name

section
variable {start vars : Env} {written : List String} {d : Data World} {b : BranchState World}
variable {host : Host World}

theorem tracks_start (d : Data World) (vars : Env) (w : World) (hw : w = d.world) :
    Tracks d.env vars [] d ⟨w,buildEnvView d.env vars,.empty⟩ where
  world := hw
  writtenEnv := by simp
  otherEnv := by simp
  outputs := by simp
  frame := by simp

section
variable (h : Tracks start vars written d b)
include h

theorem Tracks.setWorld (w : World) :
    Tracks start vars written { d with world := w } { b with world := w } where
  world := rfl
  writtenEnv := h.writtenEnv
  otherEnv := h.otherEnv
  outputs := h.outputs
  frame := h.frame

theorem Tracks.write (name : String) (v : Value) :
    Tracks start vars (written ++ [name]) { d with env := d.env.set name v }
      { b with env := b.env.set name v, outputs := b.outputs.set name v } where
  world := h.world
  writtenEnv := by
    intro other ho
    simp only [get?_set]
    split
    · rfl
    · exact h.writtenEnv other (by simp_all)
  otherEnv := by
    intro other ho
    have hne : other ≠ name := by
      intro he
      simp [he] at ho
    have hold := h.otherEnv other (by simp_all)
    simp only [get?_buildEnvView,get?_set,hne,if_false] at hold ⊢
    exact hold
  outputs := by
    intro other
    simp only [get?_set]
    by_cases he : other = name
    · simp [he]
    · simp [he,h.outputs other]
  frame := by
    intro other ho
    have hne : other ≠ name := by
      intro he
      simp [he] at ho
    simp only [get?_set,hne,if_false]
    exact h.frame other (by simp_all)

theorem Tracks.view : b.env.get? = branchView vars written d := by
  funext name
  unfold branchView
  split
  · exact h.writtenEnv name ‹_›
  · exact h.otherEnv name ‹_›

theorem Tracks.alike {v : Value} {next : Value → Prop} (hv : Alike host vars written d v next) :
    (∃ a, (renderTemplates host.py v).result b.env.get? = .ok a ∧ renderAt host vars d v = .ok a ∧
      next a) ∨ ∃ e e', (renderTemplates host.py v).result b.env.get? = .error e ∧
        renderAt host vars d v = .error e' := by
  rw [h.view]
  obtain ⟨⟨a,hb,hd⟩ | herror,hnext⟩ := hv
  · exact .inl ⟨a,hb,hd,hnext a hd⟩
  · exact .inr herror

theorem Tracks.not_alike {v : Value} {next : Value → Prop}
    (hv : ¬Alike host vars written d v next) :
    ¬SameAnswer ((renderTemplates host.py v).result b.env.get?) (renderAt host vars d v) ∨
      ∃ a, (renderTemplates host.py v).result b.env.get? = .ok a ∧ renderAt host vars d v = .ok a ∧
        ¬next a := by
  rw [h.view]
  by_cases hsame : SameAnswer ((renderTemplates host.py v).result (branchView vars written d))
      (renderAt host vars d v)
  · obtain ⟨a,hd,hnext⟩ : ∃ a, renderAt host vars d v = .ok a ∧ ¬next a := by
      by_contra hall
      exact hv ⟨hsame,fun a hd => not_not.1 fun hnext => hall ⟨a,hd,hnext⟩⟩
    refine .inr ⟨a,?_,hd,hnext⟩
    obtain ⟨a',hb,hd'⟩ | ⟨_,_,_,hd'⟩ := hsame
    · obtain rfl : a' = a := Except.ok.inj (hd'.symm.trans hd)
      exact hb
    · rw [hd] at hd'
      cases hd'
  · exact .inl hsame

end

end

theorem sameAnswer_error {α : Type} (e e' : PyExc) :
    SameAnswer (.error e : Except PyExc α) (.error e') := .inr ⟨e,e',rfl,rfl⟩

theorem sameAnswer_refl {α : Type} (x : Except PyExc α) : SameAnswer x x := by
  cases x with
  | ok v => exact .inl ⟨v,rfl,rfl⟩
  | error e => exact sameAnswer_error e e

/-- Where no name that the branch has written is a var, everything renders alike. -/
theorem alike_of_unshadowed {v : Value} {next : Value → Prop}
    (h : ∀ name ∈ written, name ≠ "vars" ∧ vars.get? name = none) (hnext : ∀ a, next a) :
    Alike host vars written d v next := by
  have hview : branchView vars written d = (buildEnvView d.env vars).get? := by
    funext name
    unfold branchView
    split
    · obtain ⟨hvars,hnone⟩ := h name ‹_›
      rw [get?_buildEnvView]
      simp [hvars,hnone]
    · rfl
  exact ⟨hview ▸ sameAnswer_refl _,fun a _ => hnext a⟩

theorem sameAnswer_of_not_ok {α : Type} {x : Except PyExc α} (e : PyExc) (h : x.isOk = false) :
    SameAnswer (.error e) x := by
  cases x with
  | ok v => simp [Except.isOk,Except.toBool] at h
  | error e' => exact sameAnswer_error e e'

theorem subscript_none (v : Value) : (subscript v .none).isOk = false := by
  cases v <;> rfl

theorem extract_agree (py : Primitives) (result : Value) (spec : Entries) (label : String)
    (h : extractorAgrees result spec = true) :
    SameAnswer (extractFromResult py result spec label) (branchExtract py result spec) := by
  unfold extractorAgrees at h
  unfold extractFromResult branchExtract extractValue
  generalize getD spec "kind" (.str "scalar") = kind at h ⊢
  generalize getD spec "ref" .none = ref at h ⊢
  by_cases hscalar : kind = .str "scalar"
  · simpa [hscalar] using sameAnswer_refl _
  by_cases hkey : kind = .str "key"
  · subst hkey
    by_cases hnone : ref = .none
    · subst hnone
      cases result <;> simp [sameAnswer_error]
    cases result with
    | dict attr entries =>
      cases ref with
      | none => exact absurd rfl hnone
      | str key =>
        simp only [subscript]
        cases hi : item? entries key with
        | none => simp [sameAnswer_error]
        | some item => simpa using sameAnswer_refl _
      | bool b | int i | float x => simp [subscript,sameAnswer_error]
      | list items => simp [subscript,sameAnswer_error]
      | dict attr' entries' => simp [subscript,sameAnswer_error]
    | none | bool b | int i | float x | str s | list items =>
      simp only [isMapping,hnone,decide_false,Bool.false_or,Bool.not_eq_true',if_true] at h
      simpa [hnone] using sameAnswer_of_not_ok _ h
  by_cases hindex : kind = .str "index"
  · subst hindex
    by_cases hnone : ref = .none
    · subst hnone
      have hs := subscript_none result
      cases result <;> simp [sameAnswer_error,subscript,asIndex]
    simp only [hkey,hnone,if_false,if_true,hscalar]
    cases result with
    | list items | str s =>
      simp only
      split
      · rename_i v hv
        rw [hv]
        exact .inl ⟨v,rfl,rfl⟩
      · rename_i e he
        rw [he]
        exact sameAnswer_error _ _
    | dict attr entries =>
      simp only [isMapping,hnone,decide_false,hkey,Bool.not_true,Bool.false_or,Bool.not_eq_true',if_true,if_false] at h
      exact sameAnswer_of_not_ok _ h
    | none | bool b | int i | float x => exact sameAnswer_error _ _
  by_cases hattr : kind = .str "attr"
  · subst hattr
    cases ref with
    | str name =>
      cases hg : py.getattr result name with
      | none => simp [hg,sameAnswer_error]
      | some v => simpa [hg] using sameAnswer_refl _
    | none | bool b | int i | float x | list items | dict attr entries => simp [sameAnswer_error]
  · simp only [hscalar,hkey,hindex,hattr,if_false]
    split
    · exact sameAnswer_error _ _
    · exact sameAnswer_error _ _

theorem extract_disagree (py : Primitives) (result : Value) (spec : Entries) (label : String)
    (h : extractorAgrees result spec = false) :
    (∃ e, extractFromResult py result spec label = .error e) ∧
      ∃ v, branchExtract py result spec = .ok v := by
  unfold extractorAgrees at h
  unfold extractFromResult branchExtract extractValue
  generalize getD spec "kind" (.str "scalar") = kind at h ⊢
  generalize getD spec "ref" .none = ref at h ⊢
  by_cases hkey : kind = .str "key"
  · subst hkey
    simp only [if_true,Bool.or_eq_false_iff,Bool.not_eq_false',decide_eq_false_iff_not] at h
    obtain ⟨⟨hmap,hnone⟩,hok⟩ := h
    cases hs : subscript result ref with
    | error e => simp [hs,Except.isOk,Except.toBool] at hok
    | ok v =>
      cases result with
      | dict attr entries => cases hmap
      | none | bool b | int i | float x | str s | list items => simp [hnone]
  · by_cases hindex : kind = .str "index"
    · subst hindex
      simp only [hkey,if_false,if_true,Bool.or_eq_false_iff,Bool.not_eq_false',
        decide_eq_false_iff_not] at h
      obtain ⟨⟨hmap,hnone⟩,hok⟩ := h
      cases hs : subscript result ref with
      | error e => simp [hs,Except.isOk,Except.toBool] at hok
      | ok v =>
        cases result with
        | dict attr entries => simp [hnone]
        | none | bool b | int i | float x | str s | list items => cases hmap
    · simp [hkey,hindex] at h

theorem extract_refused (py : Primitives) {result : Value} {spec : Entries} (label : String)
    (h : (∃ e, branchExtract py result spec = .error e) ∨ extractorAgrees result spec = false) :
    ∃ e, extractFromResult py result spec label = .error e := by
  cases hagree : extractorAgrees result spec with
  | false => exact (extract_disagree py result spec label hagree).1
  | true =>
    obtain ⟨e,he⟩ | hfalse := h
    · rcases extract_agree py result spec label hagree with ⟨v,_,hv⟩ | ⟨e',_,he',_⟩
      · rw [he] at hv
        cases hv
      · exact ⟨e',he'⟩
    · rw [hagree] at hfalse
      cases hfalse

/-- Run from tracking states, the two programs both succeed with `names`
written, or both fail. -/
def Lockstep {α : Type} (start vars : Env) (names : List String) (good : α)
    (x : Outcome (Data World) PyExc α) (y : Outcome (BranchState World) PyExc Unit) : Prop :=
  (∃ d b, x = .ok good d ∧ y = .ok () b ∧ Tracks start vars names d b) ∨
    (∀ d, x ≠ .ok good d) ∧ ∃ e b, y = .raised e b

section
variable {start vars : Env} {written : List String} {d : Data World} {b : BranchState World}
variable {host : Host World} {n : Nat}

variable (step : CallStep)

theorem lockstep_save (reply : Reply) (h : Tracks start vars written d b) :
    ∃ d' b', (saveReply step reply).run n d = .ok () d' ∧
      (branchSave step reply).run n b = .ok () b' ∧
      Tracks start vars (written ++ (given step.saveAs).toList) d' b' := by
  unfold saveReply branchSave
  cases given step.saveAs with
  | none => exact ⟨d,b,rfl,rfl,by simpa using h⟩
  | some name => exact ⟨_,_,rfl,rfl,h.write name _⟩

theorem run_assignResults_cons (result : Value) (key : String) (attr : Bool) (spec rest : Entries) :
    (assignResults host result ((key,.dict attr spec) :: rest)).run n d =
      match extractFromResult host.py result spec ("assign " ++ key) with
      | .ok v => (assignResults host result rest).run n { d with env := d.env.set key v }
      | .error e => .raised e d := by
  simp only [assignResults,run_bind,except,run_ofFun]
  cases extractFromResult host.py result spec ("assign " ++ key) <;> rfl

theorem run_branchAssign_cons (py : Primitives) (result : Value) (key : String) (attr : Bool)
    (spec rest : Entries) : (branchAssign py result ((key,.dict attr spec) :: rest)).run n b =
      match branchExtract py result spec with
      | .ok v => (branchAssign py result rest).run n
          { b with env := b.env.set key v, outputs := b.outputs.set key v }
      | .error e => .raised e b := by
  simp only [branchAssign,run_bind,branchExcept,run_ofFun,branchExtract]
  cases extractValue py result (getD spec "kind" (.str "scalar")) (getD spec "ref" .none) <;> rfl

theorem assignResults_fails (result : Value) (specs : Entries)
    (h : ∃ spec ∈ assignedSpecs specs,
      (∃ e, branchExtract host.py result spec = .error e) ∨ extractorAgrees result spec = false)
    (d' : Data World) : (assignResults host result specs).run n d ≠ .ok () d' := by
  induction specs generalizing d with
  | nil =>
    obtain ⟨_,hmem,_⟩ := h
    cases hmem
  | cons entry rest ih =>
    obtain ⟨key,spec⟩ := entry
    cases spec with
    | dict attr spec =>
      rw [run_assignResults_cons]
      cases hx : extractFromResult host.py result spec ("assign " ++ key) with
      | error e => simp
      | ok v =>
        refine ih ?_
        obtain ⟨found,hmem,hfound⟩ := h
        rcases List.mem_cons.1 hmem with rfl | hmem
        · obtain ⟨e,he⟩ := extract_refused host.py ("assign " ++ key) hfound
          rw [hx] at he
          cases he
        · exact ⟨found,hmem,hfound⟩
    | none | bool x | int i | float x | str t | list items => exact ih h

theorem branchAssign_raises (py : Primitives) (result : Value) (specs : Entries)
    (h : ∃ spec ∈ assignedSpecs specs, ∃ e, branchExtract py result spec = .error e) :
    ∃ e b', (branchAssign py result specs).run n b = .raised e b' := by
  induction specs generalizing b with
  | nil =>
    obtain ⟨_,hmem,_⟩ := h
    cases hmem
  | cons entry rest ih =>
    obtain ⟨key,spec⟩ := entry
    cases spec with
    | dict attr spec =>
      rw [run_branchAssign_cons]
      cases hx : branchExtract py result spec with
      | error e => exact ⟨e,b,rfl⟩
      | ok v =>
        refine ih ?_
        obtain ⟨found,hmem,e,he⟩ := h
        rcases List.mem_cons.1 hmem with rfl | hmem
        · rw [hx] at he
          cases he
        · exact ⟨found,hmem,e,he⟩
    | none | bool x | int i | float x | str t | list items => exact ih h

theorem branchAssign_ok (py : Primitives) (result : Value) (specs : Entries)
    (h : ∀ spec ∈ assignedSpecs specs, ¬∃ e, branchExtract py result spec = .error e) :
    ∃ b', (branchAssign py result specs).run n b = .ok () b' := by
  induction specs generalizing b with
  | nil => exact ⟨b,rfl⟩
  | cons entry rest ih =>
    obtain ⟨key,spec⟩ := entry
    cases spec with
    | dict attr spec =>
      simp only [assignedSpecs,List.forall_mem_cons] at h
      rw [run_branchAssign_cons]
      cases hx : branchExtract py result spec with
      | error e => exact absurd ⟨e,hx⟩ h.1
      | ok v => exact ih h.2
    | none | bool x | int i | float x | str t | list items => exact ih h

theorem lockstep_assign (result : Value) (specs : Entries)
    (hs : ∀ spec ∈ assignedSpecs specs, extractorAgrees result spec = true)
    (h : Tracks start vars written d b) : Lockstep start vars (written ++ assignedKeys specs) ()
      ((assignResults host result specs).run n d) ((branchAssign host.py result specs).run n b) := by
  induction specs generalizing written d b with
  | nil => exact .inl ⟨d,b,rfl,rfl,by simpa [assignedKeys] using h⟩
  | cons entry rest ih =>
    obtain ⟨key,spec⟩ := entry
    cases spec with
    | dict attr spec =>
      simp only [assignedSpecs,List.forall_mem_cons] at hs
      rw [run_assignResults_cons,run_branchAssign_cons,assignedKeys]
      rcases extract_agree host.py result spec ("assign " ++ key) hs.1 with
        ⟨v,hx,hy⟩ | ⟨e,e',hx,hy⟩
      · rw [hx,hy]
        have hrest := ih hs.2 (h.write key v)
        rw [List.append_assoc] at hrest
        exact hrest
      · rw [hx,hy]
        exact .inr ⟨by simp,e',b,rfl⟩
    | none | bool x | int i | float x | str t | list items =>
      simpa only [assignResults,branchAssign,assignedKeys] using ih hs h

theorem run_bind_none_ne {x : D World Unit} (h : ∀ d', x.run n d ≠ .ok () d') (d' : Data World) :
    (do x; pure none : D World (Option String)).run n d ≠ .ok none d' := by
  rw [run_bind]
  cases hr : x.run n d with
  | ok u s => exact absurd hr (h s)
  | raised e s => simp
  | diverged => simp

theorem lockstep_record (reply : Reply)
    (hs : ExtractorsAgree host.py step (getD reply "result" .none))
    (h : Tracks start vars written d b) :
    Lockstep start vars (written ++ boundNames (.inl step)) none
      ((recordReply host step reply).run n d) ((branchRecord host.py step reply).run n b) := by
  obtain ⟨d₁,b₁,hd,hb,ht⟩ := lockstep_save (n := n) step reply h
  unfold ExtractorsAgree at hs
  simp only [recordReply,branchRecord,boundNames,run_bind,hd]
  cases hx : givenEntries step.extract with
  | none =>
    cases ha : givenEntries step.assign with
    | none => exact .inl ⟨d₁,b₁,rfl,hb,by simpa using ht⟩
    | some specs =>
      simp only [hx,ha] at hs
      simp only [run_bind,hb]
      rcases hs with hfails | hagree
      · obtain ⟨e,b₂,hb₂⟩ := branchAssign_raises (n := n) (b := b₁) host.py _ specs hfails
        refine .inr ⟨run_bind_none_ne (assignResults_fails _ specs ?_),e,b₂,hb₂⟩
        obtain ⟨spec,hmem,he⟩ := hfails
        exact ⟨spec,hmem,.inl he⟩
      · rcases lockstep_assign (n := n) (getD reply "result" .none) specs hagree ht with
          ⟨d₂,b₂,hd₂,hb₂,ht₂⟩ | ⟨hd₂,e,b₂,hb₂⟩
        · refine .inl ⟨d₂,b₂,by simp [hd₂],hb₂,?_⟩
          simpa [List.append_assoc] using ht₂
        · exact .inr ⟨run_bind_none_ne hd₂,e,b₂,hb₂⟩
  | some spec =>
    cases ha : givenEntries step.assign with
    | some specs => exact .inr ⟨by simp,_,_,rfl⟩
    | none =>
      simp only [hx,ha] at hs
      simp only [run_bind,hb,except,branchExcept,run_ofFun]
      rcases extract_agree host.py (getD reply "result" .none) spec
          ("extract " ++ (given step.saveAs).getD "value") hs with ⟨v,hv,hv'⟩ | ⟨e,e',hv,hv'⟩
      · rw [branchExtract] at hv'
        rw [hv,hv']
        refine .inl ⟨_,_,rfl,rfl,?_⟩
        simpa [List.append_assoc] using ht.write ((given step.saveAs).getD "value") v
      · rw [branchExtract] at hv'
        rw [hv,hv']
        exact .inr ⟨by simp,e',b₁,rfl⟩

/-- Where the extractors do not agree, the branch takes what sequential execution refuses. -/
theorem record_departs (reply : Reply)
    (hs : ¬ExtractorsAgree host.py step (getD reply "result" .none)) :
    (∃ b', (branchRecord host.py step reply).run n b = .ok () b') ∧
      ∀ d', (recordReply host step reply).run n d ≠ .ok none d' := by
  obtain ⟨d₁,hd⟩ : ∃ d₁, (saveReply step reply).run n d = .ok () d₁ := by
    unfold saveReply
    cases given step.saveAs <;> exact ⟨_,rfl⟩
  obtain ⟨b₁,hb⟩ : ∃ b₁, (branchSave step reply).run n b = .ok () b₁ := by
    unfold branchSave
    cases given step.saveAs <;> exact ⟨_,rfl⟩
  unfold ExtractorsAgree at hs
  simp only [recordReply,branchRecord,run_bind,hd]
  cases hx : givenEntries step.extract with
  | none =>
    cases ha : givenEntries step.assign with
    | none => simp [hx,ha] at hs
    | some specs =>
      simp only [hx,ha,AssignAgrees,not_or] at hs
      simp only [run_bind,hb]
      refine ⟨branchAssign_ok _ _ specs fun spec hmem he => hs.1 ⟨spec,hmem,he⟩,?_⟩
      refine run_bind_none_ne (assignResults_fails _ specs ?_)
      obtain ⟨hok,hdisagree⟩ := hs
      simp only [not_forall,Bool.not_eq_true] at hdisagree
      obtain ⟨spec,hmem,hfalse⟩ := hdisagree
      exact ⟨spec,hmem,.inr hfalse⟩
  | some spec =>
    cases ha : givenEntries step.assign with
    | some specs => simp [hx,ha] at hs
    | none =>
      simp only [hx,ha,Bool.not_eq_true] at hs
      simp only [run_bind,hb,except,branchExcept,run_ofFun]
      obtain ⟨⟨e,he⟩,v,hv⟩ := extract_disagree host.py (getD reply "result" .none) spec
        ("extract " ++ (given step.saveAs).getD "value") hs
      rw [branchExtract] at hv
      rw [he,hv]
      exact ⟨⟨_,rfl⟩,by simp⟩

section
variable {α β : Type}

theorem run_envView_bind (f : Env → D World α) :
    (envView vars >>= f).run n d = (f (buildEnvView d.env vars)).run n d := rfl

theorem run_renderIn_bind (v : Value) (f : Value → D World α) :
    (renderIn host (buildEnvView d.env vars) v >>= f).run n d =
      match renderAt host vars d v with
      | .ok a => (f a).run n d
      | .error e => .raised e d := by
  simp only [renderIn,except,run_bind,run_ofFun,renderAt]
  cases (renderTemplates host.py v).result (buildEnvView d.env vars).get? <;> rfl

theorem run_render_bind (v : Value) (f : Value → D World α) : (render host vars v >>= f).run n d =
      match renderAt host vars d v with
      | .ok a => (f a).run n d
      | .error e => .raised e d := by
  simp only [render,renderIn,envView,except,run_bind,run_ofFun,renderAt]
  cases (renderTemplates host.py v).result (buildEnvView d.env vars).get? <;> rfl

theorem run_ask_bind (c : Callback World β) (f : β → D World α) : (ask c >>= f).run n d =
      match (c d.world).1 with
      | .ok a => (f a).run n { d with world := (c d.world).2 }
      | .error e => .raised e { d with world := (c d.world).2 } := by
  simp only [ask,run_bind,run_ofFun]
  cases (c d.world).1 <;> rfl

theorem run_branchRender_bind (py : Primitives) (v : Value) (f : Value → B World α) :
    (branchRender py v >>= f).run n b =
      match (renderTemplates py v).result b.env.get? with
      | .ok a => (f a).run n b
      | .error e => .raised e b := by
  simp only [branchRender,run_bind,run_ofFun]
  cases (renderTemplates py v).result b.env.get? <;> rfl

theorem run_branchAsk_bind (c : Callback World Reply) (f : Reply → B World α) :
    (branchAsk c >>= f).run n b =
      match (c b.world).1 with
      | .ok a => (f a).run n { b with world := (c b.world).2 }
      | .error e => .raised e { b with world := (c b.world).2 } := by
  simp only [branchAsk,run_bind,run_ofFun]
  cases (c b.world).1 <;> rfl

end

theorem lockstep_set (step : SetStep) (h : Tracks start vars written d b)
    (hop : SetAgrees host vars written d step) :
    Lockstep start vars (written ++ boundNames (.inr step)) none
      ((executeSetStep host vars step).run n d)
      ((branchSet host.py host.calls step).run n b) := by
  simp only [executeSetStep,branchSet,run_render_bind,run_branchRender_bind,boundNames,
    List.append_nil]
  rcases h.alike hop with ⟨device,hb,hd,hnext⟩ | ⟨e,e',hb,hd⟩
  · rw [hb,hd]
    simp only
    by_cases hempty : targetText host.py device = ""
    · simp only [hempty,if_true]
      exact .inr ⟨by simp,_,_,rfl⟩
    · simp only [hempty,if_false,run_render_bind,run_branchRender_bind]
      rcases h.alike (hnext hempty) with ⟨value,hvb,hvd,hreply⟩ | ⟨e,e',hvb,hvd⟩
      · rw [hvb,hvd]
        simp only [run_ask_bind,run_branchAsk_bind,Host.calls,h.world]
        cases hr : (host.callDevice (targetText host.py device) "set"
            (.dict false [("name",.str step.name),("value",value)]) d.world).1 with
        | error e => exact .inr ⟨by simp,e,_,rfl⟩
        | ok reply =>
          simp only [hreply reply hr,if_true]
          exact .inl ⟨_,_,rfl,rfl,h.setWorld _⟩
      · rw [hvb,hvd]
        exact .inr ⟨by simp,e,b,rfl⟩
  · rw [hb,hd]
    exact .inr ⟨by simp,e,b,rfl⟩

/-- A set that does not agree is rendered otherwise, or the branch goes on after a refusal. -/
theorem set_departs (step : SetStep) (h : Tracks start vars written d b)
    (hop : ¬SetAgrees host vars written d step) : Departs host vars n d b (.inr step) := by
  rcases h.not_alike hop with hdiffers | ⟨device,hb,hd,hnext⟩
  · exact .inl ⟨_,by simp [operationTemplates],hdiffers⟩
  obtain ⟨hempty,hvalue⟩ := Classical.not_imp.1 hnext
  rcases h.not_alike hvalue with hdiffers | ⟨value,hvb,hvd,hnext⟩
  · exact .inl ⟨_,by simp [operationTemplates],hdiffers⟩
  simp only [not_forall,Bool.not_eq_true] at hnext
  obtain ⟨reply,hr,hrefused⟩ := hnext
  refine .inr ⟨?_,?_⟩
  · simp only [runOperation,branchSet,run_branchRender_bind,hb,hempty,if_false,hvb,
      run_branchAsk_bind,Host.calls,h.world,hr]
    exact ⟨_,rfl⟩
  · simp [executeOperation,executeSetStep,run_render_bind,hd,hempty,hvd,run_ask_bind,hr,hrefused]

/-- What sequential execution and the branch do once the call is made out. -/
def sendCall (host : Host World) (device process action : String) (params : Value) :
    D World (Option String) := do
  let reply ← dispatchCall host device (given (some process)) action params
  if replyOk reply then recordReply host step reply
  else pure (some (responseErrorText host.py reply (some ((given (some process)).getD device))))

def branchSend (py : Primitives) (calls : BranchCalls World)
    (device process action : String) (params : Value) : B World Unit := do
  let reply ← branchDispatch calls device process action params
  if replyOk reply then branchRecord py step reply
  else Prog.raise ⟨.runtimeError,branchErrorText py reply⟩

theorem given_of_ne {s : String} (h : s ≠ "") : given (some s) = some s := by
  unfold given
  split
  · rename_i heq
    exact absurd (Option.some.inj heq) h
  · rfl

variable {device process action : String} {params : Value}

theorem send_answered (h : b.world = d.world) {reply : Reply}
    (hr : dispatched host d device process action params = .ok reply) : ∃ w message e,
      (sendCall step host device process action params).run n d =
        (if replyOk reply then recordReply host step reply else pure (some message)).run n
          { d with world := w } ∧
      (branchSend step host.py host.calls device process action params).run n b =
        (if replyOk reply then branchRecord host.py step reply else Prog.raise e).run n
          { b with world := w } := by
  unfold dispatched at hr
  by_cases hproc : process = ""
  · subst hproc
    simp only [ne_eq,not_true_eq_false,if_false] at hr
    simp only [sendCall,branchSend,given,dispatchCall,branchDispatch,ne_eq,not_true_eq_false,
      if_false,run_ask_bind,run_branchAsk_bind,Host.calls,h,hr]
    exact ⟨_,_,_,rfl,rfl⟩
  · simp only [ne_eq,hproc,not_false_eq_true,if_true] at hr
    cases hc : host.callProcess with
    | none => simp [hc] at hr
    | some callProcess =>
      simp only [hc] at hr
      simp only [sendCall,branchSend,given_of_ne hproc,dispatchCall,branchDispatch,ne_eq,hproc,
        not_false_eq_true,if_true,Host.calls,hc,run_ask_bind,run_branchAsk_bind,h,hr]
      exact ⟨_,_,_,rfl,rfl⟩

theorem send_unanswered (h : b.world = d.world) {e : PyExc}
    (hr : dispatched host d device process action params = .error e) :
    (∀ d', (sendCall step host device process action params).run n d ≠ .ok none d') ∧
      ∃ e b', (branchSend step host.py host.calls device process action params).run n b =
        .raised e b' := by
  unfold dispatched at hr
  by_cases hproc : process = ""
  · subst hproc
    simp only [ne_eq,not_true_eq_false,if_false] at hr
    simp only [sendCall,branchSend,given,dispatchCall,branchDispatch,ne_eq,not_true_eq_false,
      if_false,run_ask_bind,run_branchAsk_bind,Host.calls,h,hr]
    exact ⟨by simp,_,_,rfl⟩
  · simp only [ne_eq,hproc,not_false_eq_true,if_true] at hr
    cases hc : host.callProcess with
    | none =>
      simp only [sendCall,branchSend,given_of_ne hproc,dispatchCall,branchDispatch,ne_eq,hproc,
        not_false_eq_true,if_true,Host.calls,hc]
      exact ⟨by simp [replyOk,getD,item?,Value.truthy,run_bind],_,_,rfl⟩
    | some callProcess =>
      simp only [hc] at hr
      simp only [sendCall,branchSend,given_of_ne hproc,dispatchCall,branchDispatch,ne_eq,hproc,
        not_false_eq_true,if_true,Host.calls,hc,run_ask_bind,run_branchAsk_bind,h,hr]
      exact ⟨by simp,_,_,rfl⟩

theorem lockstep_send (h : Tracks start vars written d b)
    (hs : ∀ reply, dispatched host d device process action params = .ok reply →
      replyOk reply = true → ExtractorsAgree host.py step (getD reply "result" .none)) :
    Lockstep start vars (written ++ boundNames (.inl step)) none
      ((sendCall step host device process action params).run n d)
      ((branchSend step host.py host.calls device process action params).run n b) := by
  cases hr : dispatched host d device process action params with
  | error e => exact .inr (send_unanswered step h.world hr)
  | ok reply =>
    obtain ⟨w,message,e,hd,hb⟩ := send_answered (n := n) step h.world hr
    rw [hd,hb]
    by_cases hok : replyOk reply = true
    · simp only [hok,if_true]
      exact lockstep_record step reply (hs reply hr hok) (h.setWorld w)
    · simp only [hok]
      exact .inr ⟨by simp,_,_,rfl⟩

theorem sendable_iff : Sendable device process action ↔
    (device ≠ "" && process ≠ "") = false ∧
      ((device = "" && process = "") || action = "") = false := by
  unfold Sendable
  by_cases hd : device = "" <;> by_cases hp : process = "" <;> by_cases ha : action = "" <;>
    simp [hd,hp,ha]

theorem run_renderCallTarget (device process action : Value) :
    (renderCallTarget host vars device process action).run n d =
      match renderAt host vars d device,renderAt host vars d process,
        renderAt host vars d action with
      | .error e,_,_ | .ok _,.error e,_ | .ok _,.ok _,.error e => .raised e d
      | .ok device,.ok process,.ok action =>
        if targetText host.py device ≠ "" && targetText host.py process ≠ "" then
          .raised ⟨.valueError,"call may set only one of device / process after rendering"⟩ d
        else if (targetText host.py device = "" && targetText host.py process = "") ||
            targetText host.py action = "" then
          .raised ⟨.valueError,"call target rendered empty device/process or action"⟩ d
        else .ok (targetText host.py device,given (some (targetText host.py process)),
          targetText host.py action) d := by
  simp only [renderCallTarget,run_envView_bind,run_renderIn_bind]
  cases renderAt host vars d device with
  | error e => rfl
  | ok device =>
    cases renderAt host vars d process with
    | error e => rfl
    | ok process =>
      cases renderAt host vars d action with
      | error e => rfl
      | ok action =>
        simp only
        split
        · rfl
        · split
          · rfl
          · rfl

section
variable {deviceValue processValue actionValue : Value}

theorem run_executeCallStep (hd : renderAt host vars d (.str step.device) = .ok deviceValue)
    (hp : renderAt host vars d (.str (step.process.getD "")) = .ok processValue)
    (ha : renderAt host vars d (.str step.action) = .ok actionValue)
    (hsend : Sendable (targetText host.py deviceValue) (targetText host.py processValue)
      (targetText host.py actionValue)) : (executeCallStep host vars step).run n d =
      (render host vars (.dict false step.params) >>= sendCall step host
        (targetText host.py deviceValue) (targetText host.py processValue)
        (targetText host.py actionValue)).run n d := by
  obtain ⟨hboth,hempty⟩ := sendable_iff.1 hsend
  unfold executeCallStep
  rw [run_bind]
  simp only [run_renderCallTarget,hd,hp,ha,hboth,hempty,Bool.false_eq_true,if_false]
  rfl

theorem run_branchCall
    (hd : (renderTemplates host.py (.str step.device)).result b.env.get? = .ok deviceValue)
    (hp : (renderTemplates host.py (.str (step.process.getD ""))).result b.env.get? =
      .ok processValue)
    (ha : (renderTemplates host.py (.str step.action)).result b.env.get? = .ok actionValue)
    (hsend : Sendable (targetText host.py deviceValue) (targetText host.py processValue)
      (targetText host.py actionValue)) : (branchCall host.py host.calls step).run n b =
      (branchRender host.py (.dict false step.params) >>= branchSend step host.py host.calls
        (targetText host.py deviceValue) (targetText host.py processValue)
        (targetText host.py actionValue)).run n b := by
  obtain ⟨hboth,hempty⟩ := sendable_iff.1 hsend
  simp only [branchCall,run_branchRender_bind,hd,hp,ha,hboth,hempty,Bool.false_eq_true,if_false]
  rfl

theorem call_not_sent (hd : renderAt host vars d (.str step.device) = .ok deviceValue)
    (hp : renderAt host vars d (.str (step.process.getD "")) = .ok processValue)
    (ha : renderAt host vars d (.str step.action) = .ok actionValue)
    (hdb : (renderTemplates host.py (.str step.device)).result b.env.get? = .ok deviceValue)
    (hpb : (renderTemplates host.py (.str (step.process.getD ""))).result b.env.get? =
      .ok processValue)
    (hab : (renderTemplates host.py (.str step.action)).result b.env.get? = .ok actionValue)
    (hsend : ¬Sendable (targetText host.py deviceValue) (targetText host.py processValue)
      (targetText host.py actionValue)) :
    (∀ d', (executeCallStep host vars step).run n d ≠ .ok none d') ∧
      ∃ e b', (branchCall host.py host.calls step).run n b = .raised e b' := by
  rw [sendable_iff,not_and_or,Bool.not_eq_false,Bool.not_eq_false] at hsend
  unfold executeCallStep branchCall
  rw [run_bind]
  simp only [run_renderCallTarget,hd,hp,ha,run_branchRender_bind,hdb,hpb,hab]
  by_cases hboth : (targetText host.py deviceValue ≠ "" && targetText host.py processValue ≠ "") = true
  · simp only [hboth,if_true]
    exact ⟨by simp,_,_,rfl⟩
  · simp only [hboth,hsend.resolve_left hboth,if_true]
    exact ⟨by simp,_,_,rfl⟩

end

theorem lockstep_call (h : Tracks start vars written d b)
    (hop : CallAgrees host vars written d step) :
    Lockstep start vars (written ++ boundNames (.inl step)) none
      ((executeCallStep host vars step).run n d)
      ((branchCall host.py host.calls step).run n b) := by
  rcases h.alike hop with ⟨device,hdb,hd,hnext⟩ | ⟨e,e',hdb,hd⟩
  · rcases h.alike hnext with ⟨process,hpb,hp,hnext⟩ | ⟨e,e',hpb,hp⟩
    · rcases h.alike hnext with ⟨action,hab,ha,hnext⟩ | ⟨e,e',hab,ha⟩
      · by_cases hsend : Sendable (targetText host.py device) (targetText host.py process)
            (targetText host.py action)
        · rw [run_executeCallStep step hd hp ha hsend,run_branchCall step hdb hpb hab hsend,
            run_render_bind,run_branchRender_bind]
          rcases h.alike (hnext hsend) with ⟨params,hqb,hq,hreply⟩ | ⟨e,e',hqb,hq⟩
          · rw [hq,hqb]
            exact lockstep_send step h hreply
          · rw [hq,hqb]
            exact .inr ⟨by simp,e,b,rfl⟩
        · exact .inr (call_not_sent step hd hp ha hdb hpb hab hsend)
      · refine .inr ⟨?_,e,b,by simp only [branchCall,run_branchRender_bind,hdb,hpb,hab]⟩
        simp [executeCallStep,run_bind,run_renderCallTarget,hd,hp,ha]
    · refine .inr ⟨?_,e,b,by simp only [branchCall,run_branchRender_bind,hdb,hpb]⟩
      simp [executeCallStep,run_bind,run_renderCallTarget,hd,hp]
  · refine .inr ⟨?_,e,b,by simp only [branchCall,run_branchRender_bind,hdb]⟩
    simp [executeCallStep,run_bind,run_renderCallTarget,hd]

theorem call_departs (h : Tracks start vars written d b)
    (hop : ¬CallAgrees host vars written d step) : Departs host vars n d b (.inl step) := by
  rcases h.not_alike hop with hdiffers | ⟨device,hdb,hd,hnext⟩
  · exact .inl ⟨_,by simp [operationTemplates],hdiffers⟩
  rcases h.not_alike hnext with hdiffers | ⟨process,hpb,hp,hnext⟩
  · exact .inl ⟨_,by simp [operationTemplates],hdiffers⟩
  rcases h.not_alike hnext with hdiffers | ⟨action,hab,ha,hnext⟩
  · exact .inl ⟨_,by simp [operationTemplates],hdiffers⟩
  obtain ⟨hsend,hparams⟩ := Classical.not_imp.1 hnext
  rcases h.not_alike hparams with hdiffers | ⟨params,hqb,hq,hnext⟩
  · exact .inl ⟨_,by simp [operationTemplates],hdiffers⟩
  simp only [not_forall] at hnext
  obtain ⟨reply,hr,hok,hextract⟩ := hnext
  obtain ⟨w,message,e,hseq,hbranch⟩ := send_answered (n := n) step h.world hr
  obtain ⟨⟨b',hb'⟩,hfails⟩ := record_departs (n := n) (d := { d with world := w })
    (b := { b with world := w }) step reply hextract
  rw [hok] at hseq hbranch
  refine .inr ⟨⟨b',?_⟩,fun d' => ?_⟩
  · rw [runOperation,run_branchCall step hdb hpb hab hsend,run_branchRender_bind,hqb]
    exact hbranch.trans hb'
  · rw [executeOperation,run_executeCallStep step hd hp ha hsend,run_render_bind,hq]
    simp only [hseq]
    exact hfails d'

theorem lockstep_operation (op : CallStep ⊕ SetStep) (h : Tracks start vars written d b)
    (hop : OperationAgrees host vars written d op) :
    Lockstep start vars (written ++ boundNames op) none
      ((executeOperation host vars op).run n d) ((runOperation host.py host.calls op).run n b) := by
  cases op with
  | inl step => exact lockstep_call step h hop
  | inr step => exact lockstep_set step h hop

theorem operation_departs (op : CallStep ⊕ SetStep) (h : Tracks start vars written d b)
    (hop : ¬OperationAgrees host vars written d op) : Departs host vars n d b op := by
  cases op with
  | inl step => exact call_departs step h hop
  | inr step => exact set_departs step h hop

theorem executeInOrder_ne {op : CallStep ⊕ SetStep} (rest : List (CallStep ⊕ SetStep))
    (h : ∀ d', (executeOperation host vars op).run n d ≠ .ok none d') (d' : Data World) :
    (executeInOrder host vars (op :: rest)).run n d ≠ .ok none d' := by
  simp only [executeInOrder,run_bind]
  cases hr : (executeOperation host vars op).run n d with
  | ok failure s =>
    cases failure with
    | none => exact absurd hr (h s)
    | some message => simp
  | raised e s => simp
  | diverged => simp

theorem lockstep_operations (index : Nat) (ops : List (String × (CallStep ⊕ SetStep)))
    (h : Tracks start vars written d b)
    (hops : BranchAgrees host vars n written d (ops.map snd)) :
    ∃ result b', (runOperations host.py host.calls index ops).run n b = .ok result b' ∧
      ((result.ok = true ∧ ∃ d', (executeInOrder host vars (ops.map snd)).run n d =
          .ok none d' ∧ result.outputs = b'.outputs ∧
          Tracks start vars (written ++ (ops.map snd).flatMap boundNames) d' b') ∨
        (result.ok = false ∧
          ∀ d', (executeInOrder host vars (ops.map snd)).run n d ≠ .ok none d')) := by
  induction ops generalizing written d b with
  | nil =>
    refine ⟨_,b,rfl,.inl ⟨rfl,d,rfl,rfl,?_⟩⟩
    simpa using h
  | cons entry rest ih =>
    obtain ⟨path,op⟩ := entry
    obtain ⟨hop,hrest⟩ := hops
    simp only [runOperations,run_bind,run_attempt,List.map_cons]
    rcases lockstep_operation (n := n) op h hop with ⟨d₁,b₁,hd,hb,ht⟩ | ⟨hd,e,b₁,hb⟩
    · obtain ⟨result,b',hrun,hres⟩ := ih ht (hrest d₁ hd)
      refine ⟨result,b',by rw [hb]; exact hrun,?_⟩
      simp only [executeInOrder,run_bind,hd,List.flatMap_cons,← List.append_assoc]
      exact hres
    · exact ⟨_,_,by rw [hb]; rfl,.inr ⟨rfl,executeInOrder_ne _ hd⟩⟩

theorem operations_depart (ops : List (CallStep ⊕ SetStep)) (h : Tracks start vars written d b)
    (hops : ¬BranchAgrees host vars n written d ops) : ∃ before op after d₁ b₁,
      ops = before ++ op :: after ∧ (executeInOrder host vars before).run n d = .ok none d₁ ∧
      (branchInOrder host.py host.calls before).run n b = .ok () b₁ ∧
      Departs host vars n d₁ b₁ op := by
  induction ops generalizing written d b with
  | nil => exact absurd trivial hops
  | cons op rest ih =>
    by_cases hop : OperationAgrees host vars written d op
    · obtain ⟨d₁,hd,hrest⟩ : ∃ d₁, (executeOperation host vars op).run n d = .ok none d₁ ∧
          ¬BranchAgrees host vars n (written ++ boundNames op) d₁ rest := by
        by_contra hall
        exact hops ⟨hop,fun d₁ hd => not_not.1 fun hrest => hall ⟨d₁,hd,hrest⟩⟩
      rcases lockstep_operation (n := n) op h hop with ⟨d₁',b₁,hd',hb,ht⟩ | ⟨hfails,_⟩
      · rw [hd] at hd'
        injection hd' with _ hd'
        subst hd'
        obtain ⟨before,op',after,d₂,b₂,rfl,hseq,hbranch,hdeparts⟩ := ih ht hrest
        refine ⟨op :: before,op',after,d₂,b₂,rfl,?_,?_,hdeparts⟩
        · simpa only [executeInOrder,run_bind,hd] using hseq
        · simpa only [branchInOrder,run_bind,hb] using hbranch
      · exact absurd hd (hfails d₁)
    · exact ⟨[],op,rest,d,b,rfl,rfl,rfl,operation_departs op h hop⟩

end

/-- Where every operation reached agrees, a branch is ok exactly when sequential execution fails no step,
and its outputs are what sequential execution wrote. Where not, the two come in step to an operation that
the branch renders otherwise, or that sequential execution refuses and the branch does not. -/
theorem parallelBranch_matches_sequential (host : Host World) (vars : Env)
    (plan : ParallelBranchPlan) (d : Data World) (n : Nat)
    (henv : plan.env = buildEnvView d.env vars) :
    (BranchAgrees host vars n [] d ((schedule plan).map snd) →
      ∃ result b', (runParallelBranch host.py host.calls plan).run n (branchStart plan d.world) =
        .ok result b' ∧ MatchesSequential host vars plan d result n) ∧
    (¬BranchAgrees host vars n [] d ((schedule plan).map snd) → ∃ before op after d₁ b₁,
      (schedule plan).map snd = before ++ op :: after ∧
      (executeInOrder host vars before).run n d = .ok none d₁ ∧
      (branchInOrder host.py host.calls before).run n (branchStart plan d.world) = .ok () b₁ ∧
      Departs host vars n d₁ b₁ op) := by
  have hstart : Tracks d.env vars [] d (branchStart plan d.world) := by
    rw [branchStart,henv]
    exact tracks_start d vars d.world rfl
  refine ⟨fun hagree => ?_,operations_depart _ hstart⟩
  obtain ⟨result,b',hrun,hres⟩ := lockstep_operations (n := n) plan.index (schedule plan) hstart hagree
  refine ⟨result,b',hrun,?_⟩
  rcases hres with ⟨hok,d',hseq,hout,ht⟩ | ⟨hok,hseq⟩
  · refine ⟨⟨fun _ => ⟨d',hseq⟩,fun _ => hok⟩,?_⟩
    intro d'' hd'' name
    rw [hseq] at hd''
    injection hd'' with _ hd''
    subst hd''
    have hname := ht.outputs name
    have hframe := ht.frame name
    simp only [List.nil_append] at hname hframe
    rw [hout,hname]
    split
    · rfl
    · exact ⟨rfl,hframe ‹_›⟩
  · refine ⟨⟨fun h => absurd (hok.symm.trans h) (by simp),fun ⟨d',hd'⟩ => absurd hd' (hseq d')⟩,?_⟩
    intro d' hd'
    exact absurd hd' (hseq d')

def readoutPlan : ParallelBranchPlan :=
  ⟨0,[⟨some 0,.inl ⟨"scope","read",[],some "trace",none,none,none⟩⟩,
      ⟨some 1,.inr ⟨"archive","last",.str "${trace}"⟩⟩],buildEnvView .empty .empty,
    "parallel.do[0]",true,none⟩

theorem readout_matches_sequential :
    ∃ result b', (runParallelBranch Host.quiet.py Host.quiet.calls readoutPlan).run 0
      (branchStart readoutPlan ()) = .ok result b' ∧
        MatchesSequential Host.quiet .empty readoutPlan (Data.new ()) result 0 := by
  refine (parallelBranch_matches_sequential Host.quiet .empty readoutPlan (Data.new ()) 0 rfl).1 ?_
  have hcall : OperationAgrees Host.quiet .empty [] (Data.new ())
      (.inl ⟨"scope","read",[],some "trace",none,none,none⟩) := by
    have hshadow : ∀ name ∈ ([] : List String),
        name ≠ "vars" ∧ (OrderedDict.empty : Env).get? name = none := by simp
    refine alike_of_unshadowed hshadow fun _ => alike_of_unshadowed hshadow fun _ =>
      alike_of_unshadowed hshadow fun _ _ => alike_of_unshadowed hshadow fun _ _ _ _ => trivial
  have hset (d : Data Unit) : OperationAgrees Host.quiet .empty ["trace"] d
      (.inr ⟨"archive","last",.str "${trace}"⟩) := by
    have hshadow : ∀ name ∈ ["trace"],
        name ≠ "vars" ∧ (OrderedDict.empty : Env).get? name = none := by decide
    refine alike_of_unshadowed hshadow fun _ _ => alike_of_unshadowed hshadow fun _ reply hr => ?_
    obtain rfl : [("ok",Value.bool true)] = reply := Except.ok.inj hr
    rfl
  exact ⟨hcall,fun d' _ => ⟨hset d',fun _ _ => trivial⟩⟩

def refusingHost : Host Unit :=
  { Host.quiet with callDevice := fun _ _ _ w => (.ok [("ok",.bool false)],w) }

def refusedSetPlan : ParallelBranchPlan :=
  ⟨0,[⟨none,.inr ⟨"laser","power",.int 5⟩⟩],buildEnvView .empty .empty,"parallel.do[0]",false,none⟩

theorem refused_set_differs :
    ¬ ∃ result b', (runParallelBranch refusingHost.py refusingHost.calls refusedSetPlan).run 0
      (branchStart refusedSetPlan ()) = .ok result b' ∧
        MatchesSequential refusingHost .empty refusedSetPlan (Data.new ()) result 0 := by
  intro h
  obtain ⟨result,b',hrun,hmatch⟩ := h
  have hok : result.ok = true := by
    have : (runParallelBranch refusingHost.py refusingHost.calls refusedSetPlan).run 0
      (branchStart refusedSetPlan ()) = .ok ⟨0,true,.empty,none,none⟩
        (branchStart refusedSetPlan ()) := by rfl
    rw [this] at hrun
    injection hrun with h
    rw [← h]
  obtain ⟨d',hd'⟩ := hmatch.1.1 hok
  have : (executeInOrder refusingHost .empty ((schedule refusedSetPlan).map snd)).run 0
      (Data.new ()) = .ok (some "request failed") (Data.new ()) := by rfl
  rw [this] at hd'
  cases hd'

end ExperimentControl.Sequencer

import ExperimentControl.Sequencer.ConditionValidation

/-!
The trace of a condition that the watchdog shows (`_condition_evaluation_trace` in
`processes/watchdog.py`), beside the evaluator.
-/

namespace ExperimentControl.Watchdog
open Lib Python Sequencer Read List

inductive Trace where
  | comparison (operator : String) (result : Bool) (left right : Value)
  | always (result : Bool) (resolved : Value)
  | value (result : Bool) (resolved : Value)
  | group (operator : String) (result : Option Bool) (children : List Trace)
  | negation (result : Option Bool) (child : Trace)
  | error (message : String)

/-- `trace.get("result")` -/
def Trace.result : Trace → Option Bool
  | .comparison _ result _ _ | .always result _ | .value result _ => some result
  | .group _ result _ | .negation result _ => result
  | .error _ => none

mutual
def conditionTraceValue : Value → Value
  | .list items => .list (conditionTraceValues items)
  | .dict _ entries => .dict false (conditionTraceEntries entries)
  | v => v
def conditionTraceValues : List Value → List Value
  | [] => []
  | v :: rest => conditionTraceValue v :: conditionTraceValues rest
def conditionTraceEntries : List (String × Value) → List (String × Value)
  | [] => []
  | (key,v) :: rest => (key,conditionTraceValue v) :: conditionTraceEntries rest
end

/-- `_TRACE_COMPARATORS`, in their order; `abs_lt` takes the absolute value of its left operand. -/
def traceComparators : List String := ["eq","ne","gt","ge","lt","le","abs_lt"]

def compareOp : String → CmpOp
  | "eq" => .eq
  | "ne" => .notEq
  | "gt" => .gt
  | "ge" => .gtE
  | "le" => .ltE
  | _ => .lt

def traceCompare (py : Primitives) (name : String) (left right : Value) : Except PyExc Bool :=
  if name = "abs_lt" then do
    let size ← py.builtin .abs [left]
    py.compare .lt size right
  else py.compare (compareOp name) left right

def conditionGroupResult (operator : String) (children : List Trace) : Option Bool :=
  let results := children.map Trace.result
  if operator = "and" then
    if some false ∈ results then some false else if none ∈ results then none else some true
  else if some true ∈ results then some true else if none ∈ results then none else some false

section
variable (py : Primitives) (reprExc : PyExc → String) (env : String → Option Value)

def conditionComparisonTrace (name : String) (operands : Value) : Except PyExc Trace := do
  let (leftRaw,rightRaw) ← (unpack2 operands).result env
  let left ← (renderTemplates py leftRaw).result env
  let right ← (renderTemplates py rightRaw).result env
  let result ← traceCompare py name left right
  .ok (.comparison name result (conditionTraceValue left) (conditionTraceValue right))

/-- `_safe_condition_evaluation_trace`: what raises is an error in the tree. -/
def safeTrace : Except PyExc Trace → Trace
  | .ok trace => trace
  | .error e => .error (if e.message = "" then reprExc e else e.message)

def valueTrace (condition : Value) : Except PyExc Trace := do
  let resolved ← (renderTemplates py condition).result env
  .ok (.value resolved.truthy (conditionTraceValue resolved))

mutual
def conditionEvaluationTrace : Value → Except PyExc Trace
  | .dict attr entries =>
    match item? entries "always" with
    | some v => do
      let resolved ← (renderTemplates py v).result env
      .ok (.always resolved.truthy (conditionTraceValue resolved))
    | none =>
      match traceComparators.findSome? fun name => (item? entries name).map (name,·) with
      | some (name,operands) => conditionComparisonTrace py env name operands
      | none =>
        match groupTrace "and" entries with
        | some trace => trace
        | none =>
          match groupTrace "or" entries with
          | some trace => trace
          | none =>
            match negationTrace entries with
            | some trace => trace
            | none => .ok (.value false (.dict attr entries))
  | condition => valueTrace py env condition
def groupTrace (operator : String) : List (String × Value) → Option (Except PyExc Trace)
  | [] => none
  | (key,v) :: rest =>
    if key = operator then
      let children : Except PyExc (List Trace) := match v with
        | .list items => .ok (childTraces items)
        | .str s => .ok ((s.toList.map fun c => Value.str (String.singleton c)).map fun c =>
          safeTrace reprExc (valueTrace py env c))
        | .dict _ entries => .ok ((entries.map fun e => Value.str e.1).map fun c =>
          safeTrace reprExc (valueTrace py env c))
        | _ => .error ⟨.typeError,"object is not iterable"⟩
      some (children.map fun children =>
        .group operator (conditionGroupResult operator children) children)
    else groupTrace operator rest
def childTraces : List Value → List Trace
  | [] => []
  | c :: rest => safeTrace reprExc (conditionEvaluationTrace c) :: childTraces rest
def negationTrace : List (String × Value) → Option (Except PyExc Trace)
  | [] => none
  | (key,v) :: rest =>
    if key = "not" then
      let child := safeTrace reprExc (conditionEvaluationTrace v)
      some (.ok (.negation (child.result.map (!·)) child))
    else negationTrace rest
end

end

mutual
def Trace.hasError : Trace → Bool
  | .group _ _ children => hasErrors children
  | .negation _ child => child.hasError
  | .error _ => true
  | .comparison _ _ _ _ | .always _ _ | .value _ _ => false
def hasErrors : List Trace → Bool
  | [] => false
  | t :: rest => t.hasError || hasErrors rest
end

section
variable (py : Primitives) (env : String → Option Value)

/-- What a node says of the condition it stands for: it has no result only where the evaluation
raises, and otherwise the evaluation's result; where the evaluation raises all the same, an error is
shown below the node. -/
def Faithful (condition : Value) (t : Trace) : Prop :=
  match t.result with
  | none => ∃ e, (evalCondition py condition).result env = .error e
  | some b => (evalCondition py condition).result env = .ok b ∨
      ((∃ e, (evalCondition py condition).result env = .error e) ∧ t.hasError = true)

/-- Every node of the tree says what holds of the condition in its place. -/
inductive Agrees : Value → Trace → Prop
  | leaf {condition : Value} {t : Trace} (hleaf : ∀ op r children child,
      t ≠ .group op r children ∧ t ≠ .negation r child) (h : Faithful py env condition t) :
      Agrees condition t
  | group {attr : Bool} {op : String} {items : List Value} {r : Option Bool} {children : List Trace}
      (h : Faithful py env (.dict attr [(op,.list items)]) (.group op r children))
      (hchildren : List.Forall₂ Agrees items children) :
      Agrees (.dict attr [(op,.list items)]) (.group op r children)
  | negation {attr : Bool} {v : Value} {r : Option Bool} {child : Trace}
      (h : Faithful py env (.dict attr [("not",v)]) (.negation r child)) (hchild : Agrees v child) :
      Agrees (.dict attr [("not",v)]) (.negation r child)

end

section
variable {py : Primitives} {reprExc : PyExc → String} {env : String → Option Value}

variable (attr : Bool)

theorem eval_always (v : Value) : (evalCondition py (.dict attr [("always",v)])).result env =
      ((renderTemplates py v).result env).map Value.truthy := by
  have hitem : item? [("always",v)] "always" = some v := by simp [item?]
  unfold evalCondition
  simp only [hitem,length_singleton,ne_eq,not_true_eq_false,if_false,result_bind]
  cases (renderTemplates py v).result env <;> rfl

variable {v : Value}

theorem eval_scalar (h : ∀ attr entries, v ≠ .dict attr entries) (hnone : v ≠ .none)
    (hlist : ∀ items, v ≠ .list items) :
    (evalCondition py v).result env = ((renderTemplates py v).result env).map Value.truthy := by
  cases v with
  | none => exact absurd rfl hnone
  | list items => exact absurd rfl (hlist items)
  | dict attr entries => exact absurd rfl (h attr entries)
  | bool b => rfl
  | int n => rfl
  | float bits => rfl
  | str s =>
    unfold evalCondition
    rw [result_bind]
    cases (renderTemplates py (.str s)).result env <;> rfl

variable {key : String}

theorem eval_junction (hkey : key = "and" ∨ key = "or")
    (items : List Value) : (evalCondition py (.dict attr [(key,.list items)])).result env =
      (evalItems py (key = "and") items).result env := by
  rcases hkey with rfl | rfl
  · unfold evalCondition
    simp [item?,evalJunction,result_bind]
    cases (evalItems py true items).result env <;> rfl
  · unfold evalCondition
    simp [item?,evalJunction,result_bind,Except.bind]
    cases (evalItems py false items).result env <;> rfl

theorem eval_negation (v : Value) : (evalCondition py (.dict attr [("not",v)])).result env =
      ((evalCondition py v).result env).map (!·) := by
  conv_lhs => unfold evalCondition
  simp [item?,evalJunction,evalNegation,result_bind,Except.bind]
  cases (evalCondition py v).result env <;> rfl

variable {r : Bool}

theorem compareValues_ok {op : CmpOp} {a b : Value} :
    (compareValues py op a b).result env = .ok r ↔ py.compare op a b = .ok r := by
  unfold compareValues
  cases py.compare op a b with
  | ok v => exact Iff.rfl
  | error e =>
    constructor
    · intro h
      dsimp only at h
      split at h <;> cases h
    · intro h
      cases h

variable {left right : Value}

theorem comparePair_ok {op : CmpOp} : (comparePair py op (.list [left,right])).result env = .ok r ↔
      ∃ a b, (renderTemplates py left).result env = .ok a ∧
        (renderTemplates py right).result env = .ok b ∧ py.compare op a b = .ok r := by
  simp only [comparePair,renderPair,unpack2,pure_bind,result_bind]
  cases hleft : (renderTemplates py left).result env with
  | error e => simp [Except.bind]
  | ok a =>
    cases hright : (renderTemplates py right).result env with
    | error e => simp [Except.bind]
    | ok b => simp [Except.bind,compareValues_ok]

theorem absLt_ok : (absLt py (.list [left,right])).result env = .ok r ↔
      ∃ a b size, (renderTemplates py left).result env = .ok a ∧
        (renderTemplates py right).result env = .ok b ∧ py.builtin .abs [a] = .ok size ∧
        py.compare .lt size b = .ok r := by
  simp only [absLt,unpack2,pure_bind,result_bind]
  cases hleft : (renderTemplates py left).result env with
  | error e => simp [Except.bind]
  | ok a =>
    cases habs : py.builtin .abs [a] with
    | error e =>
      simp only [Except.bind,habs]
      constructor
      · intro h
        split at h <;> cases h
      · rintro ⟨a',b,size,ha,-,hsize,-⟩
        cases ha
        rw [habs] at hsize
        cases hsize
    | ok size =>
      simp only [Except.bind,habs,result_bind]
      cases hright : (renderTemplates py right).result env with
      | error e => simp
      | ok b => simp [compareValues_ok,habs]

theorem traceCompare_ok {a b : Value} : traceCompare py key a b = .ok r ↔
      if key = "abs_lt" then ∃ size, py.builtin .abs [a] = .ok size ∧ py.compare .lt size b = .ok r
      else py.compare (compareOp key) a b = .ok r := by
  unfold traceCompare
  split
  · cases py.builtin .abs [a] with
    | error e => simp [bind,Except.bind]
    | ok size => simp [bind,Except.bind]
  · exact Iff.rfl

theorem eval_compare (hkey : key ∈ compareOps) (left right : Value)
    (r : Bool) : (evalCondition py (.dict attr [(key,.list [left,right])])).result env = .ok r ↔
      ∃ a b, (renderTemplates py left).result env = .ok a ∧
        (renderTemplates py right).result env = .ok b ∧ traceCompare py key a b = .ok r := by
  simp only [traceCompare_ok]
  unfold evalCondition
  simp only [compareOps,mem_cons,not_mem_nil,or_false] at hkey
  rcases hkey with rfl | rfl | rfl | rfl | rfl | rfl | rfl
  all_goals simp [item?,compareOp,evalJunction,evalNegation,pure_bind,comparePair_ok,absLt_ok]

theorem trace_compare (hkey : key ∈ compareOps) (operands : Value) :
    conditionEvaluationTrace py reprExc env (.dict attr [(key,operands)]) =
      conditionComparisonTrace py env key operands := by
  unfold conditionEvaluationTrace
  simp only [compareOps,mem_cons,not_mem_nil,or_false] at hkey
  rcases hkey with rfl | rfl | rfl | rfl | rfl | rfl | rfl
  all_goals simp [item?,traceComparators]

theorem trace_always (v : Value) :
    conditionEvaluationTrace py reprExc env (.dict attr [("always",v)]) =
      ((renderTemplates py v).result env).map fun resolved =>
        .always resolved.truthy (conditionTraceValue resolved) := by
  unfold conditionEvaluationTrace
  simp only [item?,find?_cons,decide_true,Option.map_some]
  cases (renderTemplates py v).result env <;> rfl

theorem trace_value (h : ∀ attr entries, v ≠ .dict attr entries) :
    conditionEvaluationTrace py reprExc env v =
      ((renderTemplates py v).result env).map fun resolved =>
        .value resolved.truthy (conditionTraceValue resolved) := by
  have hvalue : conditionEvaluationTrace py reprExc env v = valueTrace py env v := by
    cases v with
    | dict attr entries => exact absurd rfl (h attr entries)
    | none | bool _ | int _ | float _ | str _ | list _ => rfl
  rw [hvalue,valueTrace]
  cases (renderTemplates py v).result env <;> rfl

theorem childTraces_eq (items : List Value) : childTraces py reprExc env items =
    items.map fun c => safeTrace reprExc (conditionEvaluationTrace py reprExc env c) := by
  induction items with
  | nil => rfl
  | cons c rest ih => rw [childTraces,ih,map_cons]

theorem trace_junction (hkey : key = "and" ∨ key = "or") (items : List Value) :
    conditionEvaluationTrace py reprExc env (.dict attr [(key,.list items)]) =
      .ok (.group key (conditionGroupResult key (childTraces py reprExc env items))
        (childTraces py reprExc env items)) := by
  unfold conditionEvaluationTrace
  rcases hkey with rfl | rfl
  all_goals simp [item?,traceComparators,groupTrace,Except.map]

theorem trace_negation (v : Value) :
    conditionEvaluationTrace py reprExc env (.dict attr [("not",v)]) =
      .ok (.negation ((safeTrace reprExc (conditionEvaluationTrace py reprExc env v)).result.map (!·))
        (safeTrace reprExc (conditionEvaluationTrace py reprExc env v))) := by
  conv_lhs => unfold conditionEvaluationTrace
  simp [item?,traceComparators,groupTrace,negationTrace]

theorem comparisonTrace_ok {t : Trace} :
    conditionComparisonTrace py env key (.list [left,right]) = .ok t ↔
      ∃ a b r, (renderTemplates py left).result env = .ok a ∧
        (renderTemplates py right).result env = .ok b ∧ traceCompare py key a b = .ok r ∧
        t = .comparison key r (conditionTraceValue a) (conditionTraceValue b) := by
  simp only [conditionComparisonTrace,unpack2,result_pure,bind,Except.bind]
  cases (renderTemplates py left).result env with
  | error e => simp
  | ok a =>
    cases (renderTemplates py right).result env with
    | error e => simp
    | ok b =>
      cases htrace : traceCompare py key a b with
      | error e => simp [htrace]
      | ok r =>
        simp only [htrace]
        constructor
        · intro h
          cases h
          exact ⟨a,b,r,rfl,rfl,htrace,rfl⟩
        · rintro ⟨_,_,_,ha,hb,hr,rfl⟩
          cases ha
          cases hb
          rw [htrace] at hr
          cases hr
          rfl

variable {items : List Value} {unit : Bool}

theorem evalItems_unit (h : (evalItems py unit items).result env = .ok unit) :
    ∀ item ∈ items, (evalCondition py item).result env = .ok unit := by
  induction items with
  | nil => simp
  | cons c rest ih =>
    rw [evalItems] at h
    obtain ⟨b,hb,hrest⟩ := result_bind_ok h
    by_cases hunit : b = unit
    · rw [if_pos hunit] at hrest
      subst hunit
      intro item hitem
      rcases mem_cons.1 hitem with rfl | hitem
      · exact hb
      · exact ih hrest item hitem
    · rw [if_neg hunit] at hrest
      cases unit <;> cases hrest

theorem evalItems_other (h : (evalItems py unit items).result env = .ok (!unit)) :
    ∃ item ∈ items, (evalCondition py item).result env = .ok (!unit) := by
  induction items with
  | nil => cases unit <;> cases h
  | cons c rest ih =>
    rw [evalItems] at h
    obtain ⟨b,hb,hrest⟩ := result_bind_ok h
    by_cases hunit : b = unit
    · rw [if_pos hunit] at hrest
      obtain ⟨item,hitem,heval⟩ := ih hrest
      exact ⟨item,mem_cons_of_mem _ hitem,heval⟩
    · have hother : b = !unit := by cases b <;> cases unit <;> simp_all
      exact ⟨c,by simp,by rw [hb,hother]⟩

theorem evalItems_total (h : ∀ item ∈ items, ∃ b, (evalCondition py item).result env = .ok b) :
    ∃ b, (evalItems py unit items).result env = .ok b := by
  induction items with
  | nil => exact ⟨unit,rfl⟩
  | cons c rest ih =>
    obtain ⟨b,hb⟩ := h c (by simp)
    rw [evalItems,result_bind,hb]
    simp only [Except.bind]
    split
    · exact ih fun item hitem => h item (mem_cons_of_mem _ hitem)
    · exact ⟨!unit,rfl⟩

variable {children : List Trace}

theorem groupResult_other (hkey : key = "and" ∨ key = "or")
    {t : Trace} (ht : t ∈ children) (hresult : t.result = some (!decide (key = "and"))) :
    conditionGroupResult key children = some (!decide (key = "and")) := by
  have hmem : some (!decide (key = "and")) ∈ children.map Trace.result := by
    rw [← hresult]
    exact mem_map_of_mem ht
  rcases hkey with rfl | rfl
  · exact if_pos hmem
  · exact if_pos hmem

theorem groupResult_unit (hkey : key = "and" ∨ key = "or")
    (h : ∀ t ∈ children, t.result = some (decide (key = "and"))) :
    conditionGroupResult key children = some (decide (key = "and")) := by
  have hmem : ∀ r, r ≠ some (decide (key = "and")) → r ∉ children.map Trace.result := by
    intro r hr hmem
    obtain ⟨t,ht,rfl⟩ := mem_map.1 hmem
    exact hr (h t ht)
  rcases hkey with rfl | rfl
  · have hfalse := hmem (some false) (by simp)
    have hnone := hmem none (by simp)
    simp only [conditionGroupResult,if_true,if_neg hfalse,if_neg hnone]
    rfl
  · have htrue := hmem (some true) (by simp)
    have hnone := hmem none (by simp)
    simp [conditionGroupResult,htrue,hnone]

theorem hasErrors_iff : hasErrors children = false ↔ ∀ t ∈ children, t.hasError = false := by
  induction children with
  | nil => simp [hasErrors]
  | cons t rest ih => simp [hasErrors,ih]

/-- What a condition evaluates to is the result its trace shows; and where the trace shows no error
at all, the condition does evaluate. -/
def Shows (py : Primitives) (reprExc : PyExc → String) (env : String → Option Value) (c : Value) :
    Prop :=
  (∀ b, (evalCondition py c).result env = .ok b →
    (safeTrace reprExc (conditionEvaluationTrace py reprExc env c)).result = some b) ∧
  ((safeTrace reprExc (conditionEvaluationTrace py reprExc env c)).hasError = false →
    ∃ b, (evalCondition py c).result env = .ok b)

theorem shows_scalar (h : ∀ attr entries, v ≠ .dict attr entries) (hnone : v ≠ .none)
    (hlist : ∀ items, v ≠ .list items) : Shows py reprExc env v := by
  unfold Shows
  rw [trace_value h,eval_scalar h hnone hlist]
  cases (renderTemplates py v).result env with
  | error e => simp [Except.map,safeTrace,Trace.hasError]
  | ok resolved => simp [Except.map,safeTrace,Trace.result]

theorem shows_always (v : Value) :
    Shows py reprExc env (.dict attr [("always",v)]) := by
  unfold Shows
  rw [trace_always,eval_always]
  cases (renderTemplates py v).result env with
  | error e => simp [Except.map,safeTrace,Trace.hasError]
  | ok resolved => simp [Except.map,safeTrace,Trace.result]

theorem shows_compare (hkey : key ∈ compareOps) (left right : Value) :
    Shows py reprExc env (.dict attr [(key,.list [left,right])]) := by
  unfold Shows
  simp only [eval_compare attr hkey]
  rw [trace_compare attr hkey]
  constructor
  · rintro b ⟨l,r,hl,hr,hb⟩
    rw [comparisonTrace_ok.2 ⟨l,r,b,hl,hr,hb,rfl⟩]
    rfl
  · intro hnone
    cases htrace : conditionComparisonTrace py env key (.list [left,right]) with
    | error e => simp [htrace,safeTrace,Trace.hasError] at hnone
    | ok t =>
      obtain ⟨l,r,b,hl,hr,hb,-⟩ := comparisonTrace_ok.1 htrace
      exact ⟨b,l,r,hl,hr,hb⟩

theorem shows_junction (hkey : key = "and" ∨ key = "or")
    (h : ∀ item ∈ items, Shows py reprExc env item) :
    Shows py reprExc env (.dict attr [(key,.list items)]) := by
  unfold Shows
  rw [trace_junction attr hkey,eval_junction attr hkey,childTraces_eq]
  constructor
  · intro b hb
    simp only [safeTrace,Trace.result]
    by_cases hunit : b = decide (key = "and")
    · subst hunit
      refine groupResult_unit hkey fun t ht => ?_
      obtain ⟨item,hitem,rfl⟩ := mem_map.1 ht
      exact (h item hitem).1 _ (evalItems_unit hb item hitem)
    · have hother : b = !decide (key = "and") := by
        cases b <;> cases hkey' : decide (key = "and") <;> simp_all
      subst hother
      obtain ⟨item,hitem,heval⟩ := evalItems_other hb
      exact groupResult_other hkey (mem_map_of_mem hitem) ((h item hitem).1 _ heval)
  · intro hnone
    simp only [safeTrace,Trace.hasError,hasErrors_iff] at hnone
    exact evalItems_total fun item hitem =>
      (h item hitem).2 (hnone _ (mem_map_of_mem hitem))

theorem shows_negation (h : Shows py reprExc env v) :
    Shows py reprExc env (.dict attr [("not",v)]) := by
  unfold Shows
  rw [trace_negation,eval_negation]
  constructor
  · intro b hb
    cases hv : (evalCondition py v).result env with
    | error e =>
      rw [hv] at hb
      cases hb
    | ok c =>
      rw [hv] at hb
      cases hb
      show (safeTrace reprExc (conditionEvaluationTrace py reprExc env v)).result.map (!·) = some (!c)
      rw [h.1 c hv]
      rfl
  · intro hnone
    obtain ⟨b,hb⟩ := h.2 hnone
    rw [hb]
    exact ⟨!b,rfl⟩

variable {c : Value}

theorem shows_of_accepted (h : Accepted c) : Shows py reprExc env c := by
  induction h with
  | bool | int | float | str => exact shows_scalar (by simp) (by simp) (by simp)
  | always attr v => exact shows_always attr v
  | compare attr left right hkey => exact shows_compare attr hkey left right
  | junction attr hkey _ ih => exact shows_junction attr hkey ih
  | negation attr _ ih => exact shows_negation attr ih

theorem Shows.faithful (h : Shows py reprExc env c) :
    Faithful py env c (safeTrace reprExc (conditionEvaluationTrace py reprExc env c)) := by
  unfold Faithful
  cases heval : (evalCondition py c).result env with
  | ok b =>
    rw [h.1 b heval]
    exact .inl rfl
  | error e =>
    cases hresult : (safeTrace reprExc (conditionEvaluationTrace py reprExc env c)).result with
    | none => exact ⟨e,rfl⟩
    | some r =>
      refine .inr ⟨⟨e,rfl⟩,?_⟩
      by_contra herror
      obtain ⟨b,hb⟩ := h.2 (by simpa using herror)
      rw [hb] at heval
      cases heval

theorem Shows.leaf (h : Shows py reprExc env c)
    (hleaf : ∀ t, conditionEvaluationTrace py reprExc env c = .ok t →
      ∀ op r children child, t ≠ .group op r children ∧ t ≠ .negation r child) :
    Agrees py env c (safeTrace reprExc (conditionEvaluationTrace py reprExc env c)) := by
  refine .leaf ?_ h.faithful
  cases htrace : conditionEvaluationTrace py reprExc env c with
  | error e => simp [safeTrace]
  | ok t => exact hleaf t htrace

theorem agrees_of_accepted (h : Accepted c) :
    Agrees py env c (safeTrace reprExc (conditionEvaluationTrace py reprExc env c)) := by
  have hvalue : ∀ v : Value, (∀ attr entries, v ≠ .dict attr entries) → Accepted v →
      Agrees py env v (safeTrace reprExc (conditionEvaluationTrace py reprExc env v)) := by
    intro v hv hacc
    refine (shows_of_accepted hacc).leaf fun t ht => ?_
    rw [trace_value hv] at ht
    cases hr : (renderTemplates py v).result env with
    | error e =>
      rw [hr] at ht
      cases ht
    | ok resolved =>
      rw [hr] at ht
      cases ht
      simp
  induction h with
  | bool b => exact hvalue _ (by simp) (.bool b)
  | int n => exact hvalue _ (by simp) (.int n)
  | float bits => exact hvalue _ (by simp) (.float bits)
  | str s => exact hvalue _ (by simp) (.str s)
  | always attr v =>
    refine (shows_always attr v).leaf fun t ht => ?_
    rw [trace_always] at ht
    cases hr : (renderTemplates py v).result env with
    | error e =>
      rw [hr] at ht
      cases ht
    | ok resolved =>
      rw [hr] at ht
      cases ht
      simp
  | compare attr left right hkey =>
    refine (shows_compare attr hkey left right).leaf fun t ht => ?_
    rw [trace_compare attr hkey] at ht
    obtain ⟨_,_,_,_,_,_,rfl⟩ := comparisonTrace_ok.1 ht
    simp
  | @junction attr key items hkey hitems ih =>
    have hshows : Shows py reprExc env (.dict attr [(key,.list items)]) :=
      shows_junction attr hkey fun item hitem => shows_of_accepted (hitems item hitem)
    have hfaithful := hshows.faithful
    rw [trace_junction attr hkey,childTraces_eq] at hfaithful ⊢
    refine .group hfaithful ?_
    rw [forall₂_map_right_iff]
    exact forall₂_same.2 ih
  | @negation attr v hv ih =>
    have hshows : Shows py reprExc env (.dict attr [("not",v)]) :=
      shows_negation attr (shows_of_accepted hv)
    have hfaithful := hshows.faithful
    rw [trace_negation] at hfaithful ⊢
    exact .negation hfaithful ih

/-- Where an accepted condition evaluates, its trace has that result at the root; and of every node
below, that it has no result where its condition raises, or the result its condition has, or one
that does not count errors where its condition raises. -/
theorem trace_agrees (repr : Value → String) (path : String) {cond : Value}
    (hvalid : hasErrorDiagnostics (validateCondition repr path cond) = false) {b : Bool}
    (heval : (evalCondition py cond).result env = .ok b) :
    ∃ t, conditionEvaluationTrace py reprExc env cond = .ok t ∧ t.result = some b ∧
      Agrees py env cond t := by
  have haccepted := accepted_of_valid repr path cond hvalid
  have hshows : Shows py reprExc env cond := shows_of_accepted haccepted
  have hresult := hshows.1 b heval
  have hagrees : Agrees py env cond
      (safeTrace reprExc (conditionEvaluationTrace py reprExc env cond)) :=
    agrees_of_accepted haccepted
  cases htrace : conditionEvaluationTrace py reprExc env cond with
  | error e =>
    rw [htrace] at hresult
    cases hresult
  | ok t =>
    rw [htrace] at hresult hagrees
    exact ⟨t,rfl,hresult,hagrees⟩

end

def namesOnly : Primitives where
  repr _ := ""
  parse expr := .ok (.name expr)
  unary _ _ := .error ⟨.typeError,"no operators"⟩
  binary _ _ _ := .error ⟨.typeError,"no operators"⟩
  compare _ _ _ := .error ⟨.typeError,"no operators"⟩
  builtin _ _ := .error ⟨.typeError,"no operators"⟩
  getattr _ _ := none

def raisingGroup : Value := .dict false [("and",.list [.str "$\x7bx\x7d",.bool false])]

def decidedBefore : Value := .dict false [("or",.list [.bool true,raisingGroup])]

theorem group_shown_that_raises :
    hasErrorDiagnostics (validateCondition namesOnly.repr "condition" decidedBefore) = false ∧
    (evalCondition namesOnly decidedBefore).result (fun _ => none) = .ok true ∧
    (∃ first group, (conditionEvaluationTrace namesOnly PyExc.message (fun _ => none)
      decidedBefore).toOption = some (.group "or" (some true) [first,group]) ∧
      group.result = some false) ∧
    (evalCondition namesOnly raisingGroup).result (fun _ => none) =
      .error ⟨.unknownName,"Unknown name 'x'"⟩ := by
  refine ⟨by decide +kernel,by decide +kernel,⟨_,_,rfl,by decide +kernel⟩,by decide +kernel⟩

theorem decidedBefore_agrees :
    ∃ t, conditionEvaluationTrace namesOnly PyExc.message (fun _ => none) decidedBefore = .ok t ∧
      t.result = some true ∧ Agrees namesOnly (fun _ => none) decidedBefore t :=
  trace_agrees namesOnly.repr "condition" (by decide +kernel) (by decide +kernel)

end ExperimentControl.Watchdog

import ExperimentControl.Sequencer.Eval

/-!
The checker of conditions (`sequencer/condition_validation.py`) beside their evaluator.
-/

namespace ExperimentControl.Sequencer
open Lib Python Read Bool

inductive Severity where
  | error | warning
  deriving DecidableEq

structure Diagnostic where
  severity : Severity
  message : String
  deriving DecidableEq

def diag (severity : Severity) (path message : String) : Diagnostic :=
  ⟨severity,path ++ ": " ++ message⟩

def compareOps : List String := ["eq","ne","gt","ge","lt","le","abs_lt"]
def logicalOps : List String := ["and","or","not","always"]

def missingOperand : Value → Bool
  | .none => true
  | .str s => strip s = ""
  | _ => false

def operandDiagnostics (side key path : String) (v : Value) : List Diagnostic :=
  if missingOperand v then
    [diag .error path (side ++ " argument is required for '" ++ key ++ "'")]
  else []

def compareDiagnostics (key path : String) : Value → List Diagnostic
  | .list [left,right] =>
    operandDiagnostics "left" key path left ++ operandDiagnostics "right" key path right
  | _ => [diag .error path ("'" ++ key ++ "' expects exactly two arguments")]

mutual
def validateCondition (repr : Value → String) (path : String) : Value → List Diagnostic
  | .none => [diag .error path "condition is required"]
  | .bool _ | .int _ | .float _ | .str _ => []
  | .list _ => [diag .error path "unsupported condition type 'list'"]
  | .dict _ entries =>
    if entries.isEmpty then [diag .error path "condition object must not be empty"]
    else
      (if entries.length ≠ 1 then
        [diag .error path "condition object must contain exactly one operator"] else []) ++
        validateOperators repr path (entries.length ≠ 1) entries
def validateOperators (repr : Value → String) (path : String) (several : Bool) :
    List (String × Value) → List Diagnostic
  | [] => []
  | (key,value) :: rest =>
    let opPath := path ++ "." ++ key
    let here :=
      if !logicalOps.contains key && !compareOps.contains key then
        [diag .error opPath ("unknown condition operator " ++ repr (.str key))]
      else if key = "always" then
        if several then [diag .error path "'always' must be the only condition operator"] else []
      else if compareOps.contains key then compareDiagnostics key opPath value
      else if key = "and" || key = "or" then
        match value with
        | .list items =>
          (if items.length = 0 then
            [diag .error opPath ("'" ++ key ++ "' requires at least one clause")]
          else if items.length = 1 then
            [diag .warning opPath
              ("'" ++ key ++ "' has only one clause; consider removing the wrapper")]
          else []) ++ validateItems repr opPath 0 items
        | _ => [diag .error opPath ("'" ++ key ++ "' expects a list of conditions")]
      else validateCondition repr opPath value
    here ++ validateOperators repr path several rest
def validateItems (repr : Value → String) (path : String) (index : Nat) :
    List Value → List Diagnostic
  | [] => []
  | item :: rest =>
    validateCondition repr (path ++ "[" ++ toString index ++ "]") item ++
      validateItems repr path (index+1) rest
end

def hasErrorDiagnostics (diagnostics : List Diagnostic) : Bool :=
  diagnostics.any fun d => d.severity = .error

def neverScalar (answer : Bool) : Value → Bool
  | .str s => !hasTemplate s && decide (s ≠ "") ≠ answer
  | .list _ | .dict _ _ => false
  | v => v.truthy ≠ answer

/-- Two operands, one of which is a plain `None`. -/
def unpacksNone : Value → Bool
  | .list [a,b] => a = .none || b = .none
  | _ => false

def cannotUnpack : Value → Bool
  | .list items => items.length ≠ 2
  | .str s => s.toList.length ≠ 2
  | .dict _ entries => entries.length ≠ 2
  | _ => true

def compareRaises (ordered : Bool) (operands : Value) : Bool :=
  cannotUnpack operands || (ordered && unpacksNone operands)

mutual
/-- The condition never comes out as `answer`: it comes out the other way, or raises. -/
def never (answer : Bool) : Value → Bool
  | .bool b => b ≠ answer
  | .int n => neverScalar answer (.int n)
  | .float bits => neverScalar answer (.float bits)
  | .str s => neverScalar answer (.str s)
  | .none | .list _ => answer
  | .dict _ entries =>
    match item? entries "always" with
    | some v => entries.length ≠ 1 || neverScalar answer v
    | none =>
      match item? entries "eq" with
      | some v => compareRaises false v
      | none =>
      match item? entries "ne" with
      | some v => compareRaises false v
      | none =>
      match item? entries "gt" with
      | some v => compareRaises true v
      | none =>
      match item? entries "ge" with
      | some v => compareRaises true v
      | none =>
      match item? entries "lt" with
      | some v => compareRaises true v
      | none =>
      match item? entries "le" with
      | some v => compareRaises true v
      | none =>
        match neverJunction answer "and" true entries with
        | some r => r
        | none =>
          match neverJunction answer "or" false entries with
          | some r => r
          | none =>
            match neverNegation answer entries with
            | some r => r
            | none =>
              match item? entries "abs_lt" with
              | some v => compareRaises true v
              | none => answer
def neverJunction (answer : Bool) (key : String) (unit : Bool) :
    List (String × Value) → Option Bool
  | [] => none
  | (k,v) :: rest =>
    if k = key then
      match v with
      | .list items => some (if answer = unit then neverAny answer items else neverAll answer items)
      | .str _ | .dict _ _ => some false
      | _ => some true
    else neverJunction answer key unit rest
def neverAny (answer : Bool) : List Value → Bool
  | [] => false
  | c :: rest => never answer c || neverAny answer rest
def neverAll (answer : Bool) : List Value → Bool
  | [] => true
  | c :: rest => never answer c && neverAll answer rest
def neverNegation (answer : Bool) : List (String × Value) → Option Bool
  | [] => none
  | (k,v) :: rest => if k = "not" then some (never (!answer) v) else neverNegation answer rest
end

/-- Ordering a value against `None`, and `abs(None)`, raise. -/
structure NoneUnordered (py : Primitives) : Prop where
  compare : ∀ op a b, op ≠ .eq → op ≠ .notEq → (a = .none ∨ b = .none) →
    ∃ e, py.compare op a b = .error e
  abs : ∃ e, py.builtin .abs [.none] = .error e

/-- No environment makes the evaluation come out as `answer`. -/
def Excludes (answer : Bool) (x : Eval Bool) : Prop := ∀ env, x.result env ≠ .ok answer

section
variable {py : Primitives} {answer : Bool}

variable {v : Value} {env : String → Option Value}

theorem unpack2_of_cannotUnpack {r : Value × Value}
    (h : cannotUnpack v = true) : (unpack2 v).result env ≠ .ok r := by
  intro hr
  unfold unpack2 at hr
  unfold cannotUnpack at h
  split at hr
  · simp at h
  · split at hr
    · rename_i hs
      simp [hs] at h
    · cases hr
  · simp at h
  · cases hr
  · cases hr
  · cases hr

theorem unpack2_of_unpacksNone {v a b : Value}
    (h : unpacksNone v = true) (hr : (unpack2 v).result env = .ok (a,b)) :
    v = .list [a,b] ∧ (a = .none ∨ b = .none) := by
  unfold unpacksNone at h
  split at h
  · cases hr
    simpa using h
  · cases h

theorem renderTemplates_none : (renderTemplates py .none).result env = .ok .none := rfl

theorem renderPair_of_unpacksNone {r : Value × Value}
    (h : unpacksNone v = true) (hr : (renderPair py v).result env = .ok r) :
    r.1 = .none ∨ r.2 = .none := by
  obtain ⟨⟨a,b⟩,hpair,hr⟩ := result_bind_ok hr
  obtain ⟨_,hnone⟩ := unpack2_of_unpacksNone h hpair
  obtain ⟨ra,ha,hr⟩ := result_bind_ok hr
  obtain ⟨rb,hb,hr⟩ := result_bind_ok hr
  cases hr
  rcases hnone with rfl | rfl
  · rw [renderTemplates_none] at ha
    cases ha
    exact .inl rfl
  · rw [renderTemplates_none] at hb
    cases hb
    exact .inr rfl

theorem compareValues_of_error {op : CmpOp} {a b : Value}
    (h : ∃ e, py.compare op a b = .error e) (r : Bool) :
    (compareValues py op a b).result env ≠ .ok r := by
  obtain ⟨e,he⟩ := h
  intro hr
  unfold compareValues at hr
  rw [he] at hr
  dsimp only at hr
  split at hr <;> cases hr

theorem excludes_comparePair (hpy : NoneUnordered py) {op : CmpOp} {ordered : Bool}
    (hop : ordered = true → op ≠ .eq ∧ op ≠ .notEq) (h : compareRaises ordered v = true) :
    Excludes answer (comparePair py op v) := by
  intro env hr
  obtain ⟨⟨a,b⟩,hpair,hr⟩ := result_bind_ok hr
  simp only [compareRaises,or_eq_true,and_eq_true] at h
  rcases h with h | ⟨hord,h⟩
  · obtain ⟨_,hunpack,_⟩ := result_bind_ok hpair
    exact unpack2_of_cannotUnpack h hunpack
  · obtain ⟨hne,hne'⟩ := hop hord
    exact compareValues_of_error
      (hpy.compare op a b hne hne' (renderPair_of_unpacksNone h hpair)) answer hr

theorem excludes_absLt (hpy : NoneUnordered py) (h : compareRaises true v = true) :
    Excludes answer (absLt py v) := by
  intro env hr
  obtain ⟨⟨a,b⟩,hunpack,hr⟩ := result_bind_ok hr
  simp only [compareRaises,or_eq_true,and_eq_true] at h
  rcases h with h | ⟨_,h⟩
  · exact unpack2_of_cannotUnpack h hunpack
  · obtain ⟨_,hnone⟩ := unpack2_of_unpacksNone h hunpack
    obtain ⟨ra,ha,hr⟩ := result_bind_ok hr
    cases habs : py.builtin .abs [ra] with
    | error e =>
      rw [habs] at hr
      dsimp only at hr
      split at hr <;> cases hr
    | ok av =>
      rw [habs] at hr
      obtain ⟨rb,hb,hr⟩ := result_bind_ok hr
      rcases hnone with rfl | rfl
      · rw [renderTemplates_none] at ha
        cases ha
        obtain ⟨e,he⟩ := hpy.abs
        rw [he] at habs
        cases habs
      · rw [renderTemplates_none] at hb
        cases hb
        exact compareValues_of_error (hpy.compare .lt av .none (by simp) (by simp) (.inr rfl))
          answer hr

theorem renderText_plain {s : String} (h : hasTemplate s = false) {n : Nat} :
    renderText py (n+1) s = pure (.str s) := by
  have hempty : templates s = [] := by simpa [hasTemplate] using h
  simp [renderText,hempty]

theorem excludes_scalar (h : neverScalar answer v = true) :
    Excludes answer (do pure (← renderTemplates py v).truthy) := by
  intro env hr
  obtain ⟨r,hrender,hr⟩ := result_bind_ok hr
  cases hr
  cases v with
  | str s =>
    simp only [neverScalar,and_eq_true,not_eq_true'] at h
    have hs : (renderTemplates py (.str s)).result env = .ok (.str s) := by
      unfold renderTemplates renderItem
      rw [renderText_plain h.1]
      rfl
    rw [hs] at hrender
    cases hrender
    simp [Value.truthy] at h
  | none | bool _ | int _ | float _ =>
    cases hrender
    simp [neverScalar] at h
  | list items | dict attr entries => cases h

theorem neverJunction_none {key : String} {unit : Bool} {entries : List (String × Value)}
    (h : neverJunction answer key unit entries = none) :
    evalJunction py key unit entries = pure none := by
  induction entries with
  | nil => simp [evalJunction]
  | cons e rest ih =>
    obtain ⟨k,v⟩ := e
    unfold neverJunction at h
    unfold evalJunction
    by_cases hk : k = key
    · rw [if_pos hk] at h
      cases v <;> cases h
    · rw [if_neg hk] at h ⊢
      exact ih h

theorem neverNegation_none {entries : List (String × Value)}
    (h : neverNegation answer entries = none) : evalNegation py entries = pure none := by
  induction entries with
  | nil => simp [evalNegation]
  | cons e rest ih =>
    obtain ⟨k,v⟩ := e
    rw [neverNegation] at h
    rw [evalNegation]
    by_cases hk : k = "not"
    · rw [if_pos hk] at h
      cases h
    · rw [if_neg hk] at h ⊢
      exact ih h

theorem excludes_operator {x : Eval (Option Bool)} {rest : Eval Bool}
    (hsome : ∀ env, x.result env ≠ .ok none) (hans : ∀ env, x.result env ≠ .ok (some answer)) :
    Excludes answer (do
      match ← x with
      | some b => pure b
      | none => rest) := by
  intro env hr
  obtain ⟨o,ho,hr⟩ := result_bind_ok hr
  cases o with
  | none => exact hsome env ho
  | some b =>
    cases hr
    exact hans env ho

def OperatorExcludes (answer : Bool) (ruled : Bool) (x : Eval (Option Bool)) : Prop :=
  (∀ env, x.result env ≠ .ok none) ∧ (ruled = true → ∀ env, x.result env ≠ .ok (some answer))

mutual
theorem excludes_evalCondition (hpy : NoneUnordered py) (answer : Bool) (v : Value)
    (h : never answer v = true) : Excludes answer (evalCondition py v) := by
  cases v with
  | bool b =>
    intro env hr
    cases hr
    simp [never] at h
  | int n =>
    rw [never] at h
    exact excludes_scalar h
  | float bits =>
    rw [never] at h
    exact excludes_scalar h
  | str s =>
    rw [never] at h
    exact excludes_scalar h
  | none | list _ =>
    intro env hr
    cases hr
    simp [never] at h
  | dict attr entries =>
    unfold never at h
    unfold evalCondition
    cases halways : item? entries "always" with
    | some v =>
      simp only [halways,or_eq_true,decide_eq_true_eq] at h ⊢
      by_cases hlen : entries.length ≠ 1
      · rw [if_pos hlen]
        intro env hr
        cases hr
      · rw [if_neg hlen]
        exact excludes_scalar (h.resolve_left hlen)
    | none =>
    cases heq : item? entries "eq" with
    | some v =>
      simp only [halways,heq] at h ⊢
      exact excludes_comparePair hpy (by simp) h
    | none =>
    cases hne : item? entries "ne" with
    | some v =>
      simp only [halways,heq,hne] at h ⊢
      exact excludes_comparePair hpy (by simp) h
    | none =>
    cases hgt : item? entries "gt" with
    | some v =>
      simp only [halways,heq,hne,hgt] at h ⊢
      exact excludes_comparePair hpy (by simp) h
    | none =>
    cases hge : item? entries "ge" with
    | some v =>
      simp only [halways,heq,hne,hgt,hge] at h ⊢
      exact excludes_comparePair hpy (by simp) h
    | none =>
    cases hlt : item? entries "lt" with
    | some v =>
      simp only [halways,heq,hne,hgt,hge,hlt] at h ⊢
      exact excludes_comparePair hpy (by simp) h
    | none =>
    cases hle : item? entries "le" with
    | some v =>
      simp only [halways,heq,hne,hgt,hge,hlt,hle] at h ⊢
      exact excludes_comparePair hpy (by simp) h
    | none =>
    simp only [halways,heq,hne,hgt,hge,hlt,hle] at h ⊢
    cases hand : neverJunction answer "and" true entries with
    | some r =>
      rw [hand] at h
      obtain ⟨hsome,hans⟩ := excludes_evalJunction hpy answer "and" true entries r hand
      exact excludes_operator hsome (hans h)
    | none =>
    rw [hand] at h
    rw [neverJunction_none hand,pure_bind]
    cases hor : neverJunction answer "or" false entries with
    | some r =>
      simp only [hor] at h
      obtain ⟨hsome,hans⟩ := excludes_evalJunction hpy answer "or" false entries r hor
      exact excludes_operator hsome (hans h)
    | none =>
    simp only [hor] at h
    dsimp only
    rw [neverJunction_none hor,pure_bind]
    cases hnot : neverNegation answer entries with
    | some r =>
      simp only [hnot] at h
      obtain ⟨hsome,hans⟩ := excludes_evalNegation hpy answer entries r hnot
      exact excludes_operator hsome (hans h)
    | none =>
    simp only [hnot] at h
    dsimp only
    rw [neverNegation_none hnot,pure_bind]
    cases habs : item? entries "abs_lt" with
    | some v =>
      simp only [habs] at h
      exact excludes_absLt hpy h
    | none =>
      simp only [habs] at h
      intro env hr
      cases hr
      cases h
theorem excludes_evalJunction (hpy : NoneUnordered py) (answer : Bool) (key : String) (unit : Bool)
    (entries : List (String × Value)) (r : Bool)
    (h : neverJunction answer key unit entries = some r) :
    OperatorExcludes answer r (evalJunction py key unit entries) := by
  cases entries with
  | nil =>
    unfold neverJunction at h
    cases h
  | cons e rest =>
    obtain ⟨k,v⟩ := e
    unfold neverJunction at h
    unfold evalJunction
    by_cases hk : k = key
    · rw [if_pos hk] at h ⊢
      cases v with
      | list items =>
        dsimp only at h ⊢
        obtain rfl := Option.some.inj h
        refine ⟨?_,?_⟩
        · intro env hr
          obtain ⟨b,_,hr⟩ := result_bind_ok hr
          cases hr
        · intro hruled env hr
          obtain ⟨b,hb,hr⟩ := result_bind_ok hr
          cases hr
          by_cases hunit : answer = unit
          · subst hunit
            rw [if_pos rfl] at hruled
            exact excludes_evalItems_unit hpy answer items hruled env hb
          · rw [if_neg hunit] at hruled
            exact excludes_evalItems_other hpy answer unit hunit items hruled env hb
      | str s =>
        dsimp only at h ⊢
        cases h
        refine ⟨?_,fun h => nomatch h⟩
        intro env hr
        obtain ⟨b,_,hr⟩ := result_bind_ok hr
        cases hr
      | dict attr entries =>
        dsimp only at h ⊢
        cases h
        refine ⟨?_,fun h => nomatch h⟩
        intro env hr
        obtain ⟨b,_,hr⟩ := result_bind_ok hr
        cases hr
      | none | bool _ | int _ | float _ =>
        exact ⟨fun env hr => (nomatch hr),fun _ env hr => (nomatch hr)⟩
    · rw [if_neg hk] at h ⊢
      exact excludes_evalJunction hpy answer key unit rest r h
theorem excludes_evalItems_unit (hpy : NoneUnordered py) (unit : Bool) (items : List Value)
    (h : neverAny unit items = true) : Excludes unit (evalItems py unit items) := by
  cases items with
  | nil =>
    unfold neverAny at h
    cases h
  | cons c rest =>
    unfold neverAny at h
    unfold evalItems
    intro env hr
    obtain ⟨b,hb,hr⟩ := result_bind_ok hr
    by_cases hbu : b = unit
    · rw [if_pos hbu] at hr
      subst hbu
      rcases or_eq_true_iff.1 h with hc | hrest
      · exact excludes_evalCondition hpy b c hc env hb
      · exact excludes_evalItems_unit hpy b rest hrest env hr
    · rw [if_neg hbu] at hr
      cases unit <;> cases hr
theorem excludes_evalItems_other (hpy : NoneUnordered py) (answer unit : Bool) (hne : answer ≠ unit)
    (items : List Value) (h : neverAll answer items = true) :
    Excludes answer (evalItems py unit items) := by
  cases items with
  | nil =>
    unfold evalItems
    intro env hr
    cases hr
    exact hne rfl
  | cons c rest =>
    unfold neverAll at h
    unfold evalItems
    obtain ⟨hc,hrest⟩ := and_eq_true_iff.1 h
    intro env hr
    obtain ⟨b,hb,hr⟩ := result_bind_ok hr
    by_cases hbu : b = unit
    · rw [if_pos hbu] at hr
      exact excludes_evalItems_other hpy answer unit hne rest hrest env hr
    · have hans : b = answer := by
        cases answer <;> cases unit <;> cases b <;> simp_all
      subst hans
      exact excludes_evalCondition hpy b c hc env hb
theorem excludes_evalNegation (hpy : NoneUnordered py) (answer : Bool)
    (entries : List (String × Value)) (r : Bool) (h : neverNegation answer entries = some r) :
    OperatorExcludes answer r (evalNegation py entries) := by
  cases entries with
  | nil =>
    unfold neverNegation at h
    cases h
  | cons e rest =>
    obtain ⟨k,v⟩ := e
    unfold neverNegation at h
    unfold evalNegation
    by_cases hk : k = "not"
    · rw [if_pos hk] at h ⊢
      obtain rfl := Option.some.inj h
      refine ⟨?_,?_⟩
      · intro env hr
        obtain ⟨b,_,hr⟩ := result_bind_ok hr
        cases hr
      · intro hruled env hr
        obtain ⟨b,hb,hr⟩ := result_bind_ok hr
        cases hr
        rw [Bool.not_not] at hruled
        exact excludes_evalCondition hpy b v hruled env hb
    · rw [if_neg hk] at h ⊢
      exact excludes_evalNegation hpy answer rest r h
end

end

inductive Accepted : Value → Prop
  | bool (b : Bool) : Accepted (.bool b)
  | int (n : Int) : Accepted (.int n)
  | float (bits : UInt64) : Accepted (.float bits)
  | str (s : String) : Accepted (.str s)
  | always (attr : Bool) (v : Value) : Accepted (.dict attr [("always",v)])
  | compare (attr : Bool) {key : String} (left right : Value) (hkey : key ∈ compareOps) :
      Accepted (.dict attr [(key,.list [left,right])])
  | junction (attr : Bool) {key : String} {items : List Value} (hkey : key = "and" ∨ key = "or")
      (hitems : ∀ item ∈ items, Accepted item) : Accepted (.dict attr [(key,.list items)])
  | negation (attr : Bool) {v : Value} (hv : Accepted v) : Accepted (.dict attr [("not",v)])

theorem hasErrorDiagnostics_append {first second : List Diagnostic}
    (h : hasErrorDiagnostics (first ++ second) = false) :
    hasErrorDiagnostics first = false ∧ hasErrorDiagnostics second = false := by
  simpa [hasErrorDiagnostics,List.any_append] using h

theorem not_hasErrorDiagnostics_single {path message : String} {rest : List Diagnostic} :
    hasErrorDiagnostics (diag .error path message :: rest) ≠ false := by
  simp [hasErrorDiagnostics,diag]

theorem mem_compareOps {key : String} (h : ¬ (!logicalOps.contains key && !compareOps.contains key) = true)
    (halways : key ≠ "always") (hcompare : ¬ compareOps.contains key = true)
    (hjunction : ¬ (key = "and" || key = "or") = true) : key = "not" := by
  simp [logicalOps] at h hjunction
  simp only [List.contains_iff_mem] at hcompare
  grind

theorem accepted_of_operator {repr : Value → String} {path : String} (attr : Bool) {key : String}
    {value : Value} (hvalue : ∀ path,
      hasErrorDiagnostics (validateCondition repr path value) = false → Accepted value)
    (hitems : ∀ items, value = .list items → ∀ path,
      hasErrorDiagnostics (validateItems repr path 0 items) = false → ∀ item ∈ items, Accepted item)
    (h : hasErrorDiagnostics (validateOperators repr path false [(key,value)]) = false) :
    Accepted (.dict attr [(key,value)]) := by
  unfold validateOperators at h
  replace h := (hasErrorDiagnostics_append h).1
  split at h
  · exact absurd h not_hasErrorDiagnostics_single
  next hknown =>
  split at h
  · next halways =>
    subst halways
    exact .always attr value
  next halways =>
  split at h
  · next hcompare =>
    unfold compareDiagnostics at h
    split at h
    · exact .compare attr _ _ (by simpa using hcompare)
    · exact absurd h not_hasErrorDiagnostics_single
  next hcompare =>
  split at h
  · next hjunction =>
    cases value with
    | list items =>
      have hbelow := hitems items rfl _ (hasErrorDiagnostics_append h).2
      exact .junction attr (by simpa using hjunction) hbelow
    | none | bool _ | int _ | float _ | str _ | dict _ _ =>
      exact absurd h not_hasErrorDiagnostics_single
  · next hjunction =>
    obtain rfl := mem_compareOps hknown halways hcompare hjunction
    exact .negation attr (hvalue _ h)

mutual
theorem accepted_of_valid (repr : Value → String) : ∀ (path : String) (v : Value),
    hasErrorDiagnostics (validateCondition repr path v) = false → Accepted v
  | _,.none,h | _,.list _,h => absurd h not_hasErrorDiagnostics_single
  | _,.bool b,_ => .bool b
  | _,.int n,_ => .int n
  | _,.float bits,_ => .float bits
  | _,.str s,_ => .str s
  | _,.dict _ [],h => absurd h not_hasErrorDiagnostics_single
  | path,.dict attr [(key,value)],h => by
    have hops : hasErrorDiagnostics (validateOperators repr path false [(key,value)]) = false := h
    refine accepted_of_operator attr (fun path h => accepted_of_valid repr path value h) ?_ hops
    intro items hlist path h
    exact accepted_of_items repr path 0 items h
  | path,.dict attr (first :: second :: rest),h => by
    unfold validateCondition at h
    simp [hasErrorDiagnostics,diag] at h
termination_by _ v => sizeOf v
decreasing_by
  · simp_wf
    omega
  · subst hlist
    simp_wf
    omega
theorem accepted_of_items (repr : Value → String) : ∀ (path : String) (index : Nat)
    (items : List Value), hasErrorDiagnostics (validateItems repr path index items) = false →
      ∀ item ∈ items, Accepted item
  | _,_,[],_ => by simp
  | path,index,item :: rest,h => by
    unfold validateItems at h
    obtain ⟨hitem,hrest⟩ := hasErrorDiagnostics_append h
    intro v hv
    rcases List.mem_cons.1 hv with hv | hv
    · rw [hv]
      exact accepted_of_valid repr _ item hitem
    · exact accepted_of_items repr path (index+1) rest hrest v hv
termination_by _ _ items => sizeOf items
decreasing_by
  all_goals simp_wf
  all_goals omega
end

end ExperimentControl.Sequencer

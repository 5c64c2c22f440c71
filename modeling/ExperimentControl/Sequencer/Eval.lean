import Mathlib.Data.Nat.Size
import ExperimentControl.Lib.Read
import ExperimentControl.Sequencer.Ast

/-!
Templates and conditions (`sequencer/eval.py`). Python's expression parser and its
operators are parameters; the evaluator notes the names it reads.
-/

namespace ExperimentControl.Sequencer
open Lib Python Read

inductive UnaryOp where
  | uadd | usub | not
  deriving DecidableEq

inductive BinOp where
  | add | sub | mult | div | floorDiv | mod | pow
  deriving DecidableEq

inductive CmpOp where
  | eq | notEq | lt | ltE | gt | gtE
  deriving DecidableEq

inductive Builtin where
  | abs | len | min | max
  deriving DecidableEq

/-- The nodes of Python's expression trees that `eval_node` knows; any other node
is `unsupported` with the message it is refused with. -/
inductive PyExpr where
  | constant (value : Value)
  | name (id : String)
  | attr (value : PyExpr) (attr : String)
  | unaryOp (op : UnaryOp) (operand : PyExpr)
  | binOp (op : BinOp) (left right : PyExpr)
  | boolOp (isAnd : Bool) (values : List PyExpr)
  | compare (left : PyExpr) (comparators : List (CmpOp × PyExpr))
  | call (func : String) (args : List PyExpr)
  | ifExp (test body orelse : PyExpr)
  | unsupported (message : String)

/-- What the evaluator takes from Python itself. `binary` is the operator behind the
size check of `_check_result_size`. -/
structure Primitives where
  repr : Value → String
  parse : String → Except PyExc PyExpr
  unary : UnaryOp → Value → Except PyExc Value
  binary : BinOp → Value → Value → Except PyExc Value
  compare : CmpOp → Value → Value → Except PyExc Bool
  builtin : Builtin → List Value → Except PyExc Value
  getattr : Value → String → Option Value

abbrev Eval (α : Type) := Read String Value PyExc α

def maxTemplateDepth : Nat := 16
def maxResultSize : Nat := 1000000

/-- `_operand_error`: a type or arithmetic error names its operands. -/
def operandError (operands : List Value) (e : PyExc) : PyExc :=
  match e.kind with
  | .typeError | .overflowError => ⟨.operandError (operands.any (· = .none)),e.message⟩
  | .zeroDivisionError => ⟨.operandError false,e.message⟩
  | _ => e

def guarded {α : Type} (operands : List Value) (r : Except PyExc α) : Eval α :=
  match r with
  | .ok a => pure a
  | .error e => Read.fail (operandError operands e)

def builtin? : String → Option Builtin
  | "abs" => some .abs
  | "len" => some .len
  | "min" => some .min
  | "max" => some .max
  | _ => none

mutual
def evalNode (py : Primitives) : PyExpr → Eval Value
  | .constant value => pure value
  | .name id => do
    match ← Read.lookup id with
    | some value => pure value
    | none => Read.fail ⟨.unknownName,"Unknown name '" ++ id ++ "'"⟩
  | .attr value attr => do
    match ← evalNode py value with
    | .dict true entries =>
      if attr.toList.head? = some '_' then
        Read.fail ⟨.valueError,"Private attribute access not allowed"⟩
      else match item? entries attr with
        | some item => pure item
        | none => Read.fail ⟨.valueError,"Attribute access not allowed"⟩
    | _ => Read.fail ⟨.valueError,"Attribute access not allowed"⟩
  | .unaryOp op operand => do
    let val ← evalNode py operand
    match op with
    | .not => pure (.bool !val.truthy)
    | op => guarded [val] (py.unary op val)
  | .binOp op left right => do
    let l ← evalNode py left
    let r ← evalNode py right
    guarded [l,r] (py.binary op l r)
  | .boolOp isAnd values => do
    let vals ← evalNodes py values
    pure (.bool (if isAnd then vals.all Value.truthy else vals.any Value.truthy))
  | .compare left comparators => do
    let l ← evalNode py left
    let ok ← evalCompare py l comparators
    pure (.bool ok)
  | .call func args =>
    match builtin? func with
    | none => Read.fail ⟨.valueError,"Function '" ++ func ++ "' not allowed"⟩
    | some f => do
      let vals ← evalNodes py args
      guarded vals (py.builtin f vals)
  | .ifExp test body orelse => do
    let t ← evalNode py test
    if t.truthy then evalNode py body else evalNode py orelse
  | .unsupported message => Read.fail ⟨.valueError,message⟩
def evalNodes (py : Primitives) : List PyExpr → Eval (List Value)
  | [] => pure []
  | e :: rest => do
    let v ← evalNode py e
    let vs ← evalNodes py rest
    pure (v :: vs)
def evalCompare (py : Primitives) (left : Value) : List (CmpOp × PyExpr) → Eval Bool
  | [] => pure true
  | (op,comparator) :: rest => do
    let right ← evalNode py comparator
    if ← guarded [left,right] (py.compare op left right) then evalCompare py right rest
    else pure false
end

def evalExpr (py : Primitives) (expr : String) : Eval Value :=
  match py.parse expr with
  | .ok tree => evalNode py tree
  | .error e => Read.fail e

def templateAt : List Char → Option (List Char × List Char)
  | '$' :: '{' :: rest =>
    match rest.span (· ≠ '}') with
    | (c :: expr,'}' :: after) => some (c :: expr,after)
    | _ => none
  | _ => none

def findTemplates : Nat → List Char → List (List Char)
  | 0,_ => []
  | n+1,text =>
    match templateAt text with
    | some (expr,after) => expr :: findTemplates n after
    | none =>
      match text with
      | [] => []
      | _ :: rest => findTemplates n rest

def templates (s : String) : List (List Char) := findTemplates s.length s.toList

def hasTemplate (s : String) : Bool := !(templates s).isEmpty

/-- Python's `text.replace(token, by)` for a non-empty token. -/
def replaceAll (token by_ : List Char) : Nat → List Char → List Char
  | 0,text => text
  | n+1,text =>
    if token.isPrefixOf text then by_ ++ replaceAll token by_ n (text.drop token.length)
    else match text with
      | [] => []
      | c :: rest => c :: replaceAll token by_ n rest

def countOf (token : List Char) : Nat → List Char → Nat
  | 0,_ => 0
  | n+1,text =>
    if token.isPrefixOf text then 1+countOf token n (text.drop token.length)
    else match text with
      | [] => 0
      | _ :: rest => countOf token n rest

mutual
/-- About how many characters a value takes as text, counted up to `limit`. -/
def textSize (limit : Nat) : Value → Nat
  | .str s => s.length
  | .int n => n.natAbs.size/3+1
  | .list items => itemSizes limit items.length items
  | .dict _ entries => entrySizes limit entries.length entries
  | .none | .bool _ | .float _ => 8
def itemSizes (limit total : Nat) : List Value → Nat
  | [] => total
  | v :: rest =>
    let total := total+textSize limit v
    if limit < total then total else itemSizes limit total rest
def entrySizes (limit total : Nat) : List (String × Value) → Nat
  | [] => total
  | (key,v) :: rest =>
    let total := total+key.length
    if limit < total then total
    else
      let total := total+textSize limit v
      if limit < total then total else entrySizes limit total rest
end

def tooLarge : PyExc := ⟨.valueTooLarge,"result would be too large"⟩

/-- A replacement that holds templates itself is rendered by `again`. -/
def renderReplacement (again : String → Eval Value) : Value → Eval Value
  | .str t => if hasTemplate t then again t else pure (.str t)
  | v => pure v

def fillTemplates (py : Primitives) (again : String → Eval Value) :
    List (List Char) → String → Eval String
  | [],out => pure out
  | expr :: rest,out => do
    let value ← evalExpr py (String.ofList expr)
    let replacement ← renderReplacement again value
    let token := '$' :: '{' :: expr ++ ['}']
    if maxResultSize < out.length+countOf token out.length out.toList *
        textSize maxResultSize replacement then Read.fail tooLarge
    else
      let text := (replacement.text py.repr).toList
      fillTemplates py again rest
        (String.ofList (replaceAll token text out.length out.toList))

/-- `_render_templates` on a text; the first argument is the depth still allowed. -/
def renderText (py : Primitives) : Nat → String → Eval Value
  | 0,s => pure (.str s)
  | n+1,s =>
    match templates s with
    | [] => pure (.str s)
    | found =>
      match templateAt s.toList with
      | some (expr,[]) => do
        let out ← evalExpr py (String.ofList expr)
        match out with
        | .str t => if t ≠ s && hasTemplate t then renderText py n t else pure (.str t)
        | v => pure v
      | _ => do
        let out ← fillTemplates py (renderText py n) found s
        if out ≠ s && hasTemplate out then renderText py n out else pure (.str out)

def renderKey (py : Primitives) (out : List (String × Value)) (key : String) : Eval String :=
  if hasTemplate key then do
    let k ← renderText py (maxTemplateDepth+1) key
    let k := k.text py.repr
    if (item? out k).isSome then
      Read.fail ⟨.templateError,"templated key renders to duplicate key '" ++ k ++ "'"⟩
    else pure k
  else pure key

mutual
def renderItem (py : Primitives) : Value → Eval (Value × Nat)
  | .list items => do
    let (out,built) ← renderItems py items items.length
    pure (.list out,built)
  | .dict _ entries => do
    let (out,built) ← renderEntries py entries [] entries.length
    pure (.dict false out,built)
  | .str s => do
    match ← renderText py (maxTemplateDepth+1) s with
    | .str t => pure (.str t,if t ≠ s then t.length else 0)
    | v => pure (v,0)
  | v => pure (v,0)
def renderItems (py : Primitives) : List Value → Nat → Eval (List Value × Nat)
  | [],built => pure ([],built)
  | item :: rest,built => do
    let (rendered,size) ← renderItem py item
    if maxResultSize < built+size then Read.fail tooLarge
    else do
      let (out,built) ← renderItems py rest (built+size)
      pure (rendered :: out,built)
def renderEntries (py : Primitives) :
    List (String × Value) → List (String × Value) → Nat → Eval (List (String × Value) × Nat)
  | [],out,built => pure (out,built)
  | (key,item) :: rest,out,built => do
    let key ← renderKey py out key
    let (rendered,size) ← renderItem py item
    if maxResultSize < built+size then Read.fail tooLarge
    else renderEntries py rest (setItem out key rendered) (built+size)
end

def renderTemplates (py : Primitives) (value : Value) : Eval Value := do
  let (out,_) ← renderItem py value
  pure out

def unpack2 : Value → Eval (Value × Value)
  | .list [a,b] => pure (a,b)
  | .str s =>
    match s.toList with
    | [a,b] => pure (.str (String.singleton a),.str (String.singleton b))
    | _ => Read.fail ⟨.valueError,"cannot unpack"⟩
  | .dict _ [(a,_),(b,_)] => pure (.str a,.str b)
  | .list _ | .dict _ _ => Read.fail ⟨.valueError,"cannot unpack"⟩
  | _ => Read.fail ⟨.typeError,"cannot unpack non-iterable"⟩

def renderPair (py : Primitives) (operands : Value) : Eval (Value × Value) := do
  let (a,b) ← unpack2 operands
  let a ← renderTemplates py a
  let b ← renderTemplates py b
  pure (a,b)

/-- `_compare`: a type error names whether a value was missing. -/
def compareValues (py : Primitives) (op : CmpOp) (a b : Value) : Eval Bool :=
  match py.compare op a b with
  | .ok r => pure r
  | .error e =>
    if e.kind = .typeError then Read.fail ⟨.operandError (a = .none || b = .none),e.message⟩
    else Read.fail e

def comparePair (py : Primitives) (op : CmpOp) (operands : Value) : Eval Bool := do
  let (a,b) ← renderPair py operands
  compareValues py op a b

def absLt (py : Primitives) (operands : Value) : Eval Bool := do
  let (a,b) ← unpack2 operands
  let a ← renderTemplates py a
  match py.builtin .abs [a] with
  | .error e =>
    if e.kind = .typeError then Read.fail ⟨.operandError (a = .none),e.message⟩
    else Read.fail e
  | .ok av => do
    let b ← renderTemplates py b
    compareValues py .lt av b

mutual
/-- `eval_condition`; the operators are tried in this order. -/
def evalCondition (py : Primitives) : Value → Eval Bool
  | .bool b => pure b
  | .int n => do pure (← renderTemplates py (.int n)).truthy
  | .float bits => do pure (← renderTemplates py (.float bits)).truthy
  | .str s => do pure (← renderTemplates py (.str s)).truthy
  | .dict _ entries =>
    match item? entries "always" with
    | some v =>
      if entries.length ≠ 1 then
        Read.fail ⟨.valueError,"always must be the only condition operator"⟩
      else do pure (← renderTemplates py v).truthy
    | none =>
      match item? entries "eq" with
      | some v => comparePair py .eq v
      | none =>
      match item? entries "ne" with
      | some v => comparePair py .notEq v
      | none =>
      match item? entries "gt" with
      | some v => comparePair py .gt v
      | none =>
      match item? entries "ge" with
      | some v => comparePair py .gtE v
      | none =>
      match item? entries "lt" with
      | some v => comparePair py .lt v
      | none =>
      match item? entries "le" with
      | some v => comparePair py .ltE v
      | none => do
        match ← evalJunction py "and" true entries with
        | some b => pure b
        | none =>
          match ← evalJunction py "or" false entries with
          | some b => pure b
          | none =>
            match ← evalNegation py entries with
            | some b => pure b
            | none =>
              match item? entries "abs_lt" with
              | some v => absLt py v
              | none => pure false
  | .none | .list _ => pure false
/-- `all(...)` over the item at `key` for `unit = true`, `any(...)` for `false`. -/
def evalJunction (py : Primitives) (key : String) (unit : Bool) :
    List (String × Value) → Eval (Option Bool)
  | [] => pure none
  | (k,v) :: rest =>
    if k = key then
      match v with
      | .list items => do pure (some (← evalItems py unit items))
      | .str s =>
        do pure (some (← evalTexts py unit (s.toList.map String.singleton)))
      | .dict _ entries => do pure (some (← evalTexts py unit (entries.map Prod.fst)))
      | _ => Read.fail ⟨.typeError,"object is not iterable"⟩
    else evalJunction py key unit rest
def evalItems (py : Primitives) (unit : Bool) : List Value → Eval Bool
  | [] => pure unit
  | c :: rest => do
    if (← evalCondition py c) = unit then evalItems py unit rest else pure !unit
def evalNegation (py : Primitives) : List (String × Value) → Eval (Option Bool)
  | [] => pure none
  | (k,v) :: rest =>
    if k = "not" then do pure (some !(← evalCondition py v)) else evalNegation py rest
def evalTexts (py : Primitives) (unit : Bool) : List String → Eval Bool
  | [] => pure unit
  | s :: rest => do
    if (← renderTemplates py (.str s)).truthy = unit then evalTexts py unit rest
    else pure !unit
end

mutual
def toAttrdict : Value → Value
  | .dict _ entries => .dict true (toAttrEntries entries)
  | .list items => .list (toAttrItems items)
  | v => v
def toAttrItems : List Value → List Value
  | [] => []
  | v :: rest => toAttrdict v :: toAttrItems rest
def toAttrEntries : List (String × Value) → List (String × Value)
  | [] => []
  | (k,v) :: rest => (k,toAttrdict v) :: toAttrEntries rest
end

/-- `_build_env_view`: vars win over assigned and loop-bound names. -/
def buildEnvView (env vars : Env) : Env :=
  (env.update vars).set "vars" (toAttrdict (.dict false vars.entries))

/-- One pass of `resolve_vars` over the entries, all against the pass's own start. -/
def resolvePass (py : Primitives) (view : Env) : List (String × Value) → Env → Env × Bool
  | [],resolved => (resolved,false)
  | (key,value) :: rest,resolved =>
    match (renderTemplates py value).result view.get? with
    | .error _ => resolvePass py view rest resolved
    | .ok rendered =>
      match py.compare .notEq rendered value with
      | .ok true =>
        let (resolved,_) := resolvePass py view rest (resolved.set key rendered)
        (resolved,true)
      | _ => resolvePass py view rest resolved

def resolvePasses (py : Primitives) : Nat → Env → Env
  | 0,resolved => resolved
  | n+1,resolved =>
    let view := resolved.set "vars" (toAttrdict (.dict false resolved.entries))
    match resolvePass py view resolved.entries resolved with
    | (resolved,true) => resolvePasses py n resolved
    | (resolved,false) => resolved

def resolveVars (py : Primitives) (rawVars : Env) : Env :=
  if rawVars.entries.isEmpty then rawVars
  else resolvePasses py (max 4 (rawVars.size*4)) rawVars

theorem local_guarded {α : Type} (operands : List Value) (r : Except PyExc α) :
    (guarded operands r).Local := by
  cases r with
  | ok a => exact local_pure a
  | error e => exact local_fail _

mutual
theorem local_evalNode (py : Primitives) (e : PyExpr) : (evalNode py e).Local := by
  cases e with
  | constant value => exact local_pure value
  | name id =>
    refine local_bind (local_lookup id) fun r => ?_
    cases r with
    | none => exact local_fail _
    | some value => exact local_pure value
  | attr value attr =>
    refine local_bind (local_evalNode py value) fun base => ?_
    split
    · split
      · exact local_fail _
      · split
        · exact local_pure _
        · exact local_fail _
    · exact local_fail _
  | unaryOp op operand =>
    refine local_bind (local_evalNode py operand) fun val => ?_
    split
    · exact local_pure _
    · exact local_guarded _ _
  | binOp op left right =>
    refine local_bind (local_evalNode py left) fun l => ?_
    refine local_bind (local_evalNode py right) fun r => ?_
    exact local_guarded _ _
  | boolOp isAnd values =>
    exact local_bind (local_evalNodes py values) fun vals => local_pure _
  | compare left comparators =>
    refine local_bind (local_evalNode py left) fun l => ?_
    exact local_bind (local_evalCompare py l comparators) fun ok => local_pure _
  | call func args =>
    unfold evalNode
    split
    · exact local_fail _
    · exact local_bind (local_evalNodes py args) fun vals => local_guarded _ _
  | ifExp test body orelse =>
    refine local_bind (local_evalNode py test) fun t => ?_
    exact local_ite (local_evalNode py body) (local_evalNode py orelse)
  | unsupported message => exact local_fail _
theorem local_evalNodes (py : Primitives) (es : List PyExpr) : (evalNodes py es).Local := by
  cases es with
  | nil => exact local_pure _
  | cons e rest =>
    refine local_bind (local_evalNode py e) fun v => ?_
    exact local_bind (local_evalNodes py rest) fun vs => local_pure _
theorem local_evalCompare (py : Primitives) (left : Value) (cs : List (CmpOp × PyExpr)) :
    (evalCompare py left cs).Local := by
  cases cs with
  | nil => exact local_pure _
  | cons c rest =>
    obtain ⟨op,comparator⟩ := c
    refine local_bind (local_evalNode py comparator) fun right => ?_
    refine local_bind (local_guarded _ _) fun ok => ?_
    exact local_ite (local_evalCompare py right rest) (local_pure _)
end

variable (py : Primitives)

theorem local_evalExpr (expr : String) : (evalExpr py expr).Local := by
  unfold evalExpr
  split
  · exact local_evalNode py _
  · exact local_fail _

theorem local_renderReplacement {again : String → Eval Value} (ha : ∀ s, (again s).Local)
    (v : Value) : (renderReplacement again v).Local := by
  cases v with
  | str t => exact local_ite (ha t) (local_pure _)
  | none | bool b | int n | float bits | list items | dict attr entries =>
    exact local_pure _

theorem local_fillTemplates {again : String → Eval Value}
    (ha : ∀ s, (again s).Local) (found : List (List Char)) (out : String) :
    (fillTemplates py again found out).Local := by
  induction found generalizing out with
  | nil => exact local_pure _
  | cons expr rest ih =>
    refine local_bind (local_evalExpr py _) fun value => ?_
    refine local_bind (local_renderReplacement ha value) fun replacement => ?_
    exact local_ite (local_fail _) (ih _)

theorem local_renderText (n : Nat) (s : String) : (renderText py n s).Local := by
  induction n generalizing s with
  | zero => exact local_pure _
  | succ n ih =>
    unfold renderText
    split
    · exact local_pure _
    · split
      · refine local_bind (local_evalExpr py _) fun out => ?_
        split
        · exact local_ite (ih _) (local_pure _)
        · exact local_pure _
      · refine local_bind (local_fillTemplates py ih _ _) fun out => ?_
        exact local_ite (ih _) (local_pure _)

theorem local_renderKey (out : List (String × Value)) (key : String) :
    (renderKey py out key).Local := by
  refine local_ite ?_ (local_pure _)
  refine local_bind (local_renderText py _ _) fun k => ?_
  exact local_ite (local_fail _) (local_pure _)

mutual
theorem local_renderItem (py : Primitives) (v : Value) : (renderItem py v).Local := by
  cases v with
  | list items => exact local_bind (local_renderItems py items _) fun r => local_pure _
  | dict attr entries =>
    exact local_bind (local_renderEntries py entries _ _) fun r => local_pure _
  | str s =>
    refine local_bind (local_renderText py _ _) fun r => ?_
    split
    · exact local_pure _
    · exact local_pure _
  | none | bool b | int n | float bits => exact local_pure _
theorem local_renderItems (py : Primitives) (items : List Value) (built : Nat) :
    (renderItems py items built).Local := by
  cases items with
  | nil => exact local_pure _
  | cons item rest =>
    refine local_bind (local_renderItem py item) fun r => ?_
    refine local_ite (local_fail _) ?_
    exact local_bind (local_renderItems py rest _) fun r' => local_pure _
theorem local_renderEntries (py : Primitives) (entries out : List (String × Value))
    (built : Nat) : (renderEntries py entries out built).Local := by
  cases entries with
  | nil => exact local_pure _
  | cons e rest =>
    obtain ⟨key,item⟩ := e
    refine local_bind (local_renderKey py out key) fun key => ?_
    refine local_bind (local_renderItem py item) fun r => ?_
    exact local_ite (local_fail _) (local_renderEntries py rest _ _)
end

theorem local_renderTemplates (v : Value) : (renderTemplates py v).Local :=
  local_bind (local_renderItem py v) fun _ => local_pure _

end ExperimentControl.Sequencer

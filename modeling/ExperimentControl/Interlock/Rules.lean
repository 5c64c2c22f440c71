import ExperimentControl.Sequencer.ConditionValidation
import ExperimentControl.Sequencer.Host

/-!
Interlock rules (`processes/interlock.py`): how one is read from a ruleset, and the
verdict it gives on a command.
-/

namespace ExperimentControl.Interlock
open Lib Python Sequencer

/-- `TelemetryBinding`; a binding with a process id reads that process's telemetry. -/
structure TelemetryBinding where
  alias_ : String
  deviceId : String
  signal : String
  maxAgeS : F64
  required : Bool := true
  processId : Option String := none

def TelemetryBinding.sourceId (b : TelemetryBinding) : String := b.processId.getD b.deviceId

structure Rule where
  ruleId : String
  name : String
  deviceId : String
  action : String
  telemetry : List TelemetryBinding
  condition : Value
  onBlockMessage : Option String
  onBlockCode : Option String
  allowTransformParams : Option Entries

def configError (path message : String) : PyExc := ⟨.valueError,path ++ ": " ++ message⟩

def requireStr (path : String) : Value → Except PyExc String
  | .str "" => .error (configError path "must be a non-empty string")
  | .str s => .ok s
  | _ => .error (configError path "must be a non-empty string")

def requireDict (path : String) : Value → Except PyExc Entries
  | .dict _ entries => .ok entries
  | _ => .error (configError path "must be an object/dict")

def optionalDict (path : String) : Value → Except PyExc Entries
  | .none => .ok []
  | v => requireDict path v

def normalizeList (path : String) : Value → Except PyExc (List Value)
  | .none => .ok []
  | .list items => .ok items
  | _ => .error (configError path "must be a JSON list")

def get (entries : Entries) (key : String) : Value := getD entries key .none

/-- Where a binding gets its telemetry from: a device, or a process if these are allowed. -/
def parseSource (path : String) (allowProcess : Bool) (raw : Entries) :
    Except PyExc (String × Option String) :=
  let hasDevice := get raw "device" ≠ .none
  let hasProcess := get raw "process" ≠ .none
  if hasDevice && hasProcess then
    .error (configError path "binding must have exactly one of 'device' or 'process'")
  else if !hasDevice && !hasProcess then
    .error (configError path "binding must have 'device' or 'process'")
  else if hasProcess && !allowProcess then
    .error (configError (path ++ ".process")
      "process telemetry bindings are not supported here; use 'device'")
  else if hasProcess then do
    let processId ← requireStr (path ++ ".process") (get raw "process")
    pure ("",some processId)
  else do
    let device ← requireStr (path ++ ".device") (get raw "device")
    pure (device,none)

def parseBinding (num : Numeric) (path : String) (defaultMaxAgeS : F64) (allowProcess : Bool) :
    Value → Except PyExc TelemetryBinding
  | .dict _ raw => do
    let alias_ ← requireStr (path ++ ".as") (get raw "as")
    let (device,process) ← parseSource path allowProcess raw
    let signal ← requireStr (path ++ ".signal") (get raw "signal")
    let maxAge ← match num.toFloat (getD raw "max_age_s" (.float defaultMaxAgeS)) with
      | .ok age => .ok age
      | .error _ => .error (configError (path ++ ".max_age_s") "max_age_s must be a number")
    match getD raw "required" (.bool true) with
    | .bool required => pure ⟨alias_,device,signal,maxAge,required,process⟩
    | _ => .error (configError (path ++ ".required") "required must be a boolean")
  | _ => .error (configError path "must be an object/dict")

def parseBindings (num : Numeric) (path : String) (defaultMaxAgeS : F64) (allowProcess : Bool) :
    Nat → List Value → Except PyExc (List TelemetryBinding)
  | _,[] => .ok []
  | i,raw :: rest => do
    let binding ← parseBinding num (path ++ "[" ++ toString i ++ "]") defaultMaxAgeS allowProcess raw
    let bindings ← parseBindings num path defaultMaxAgeS allowProcess (i+1) rest
    pure (binding :: bindings)

def parseTelemetryBindings (num : Numeric) (path : String) (defaultMaxAgeS : F64)
    (requireNonempty allowProcess : Bool) (inputs : Entries) :
    Except PyExc (List TelemetryBinding) := do
  let raw ← normalizeList (path ++ ".telemetry") (get inputs "telemetry")
  if requireNonempty && raw.isEmpty then
    .error (configError (path ++ ".telemetry") "telemetry inputs are required")
  else parseBindings num (path ++ ".telemetry") defaultMaxAgeS allowProcess 0 raw

/-- A text, or `str()` of what else is there. -/
def optionalText (repr : Value → String) : Value → Option String
  | .none => none
  | v => some (v.text repr)

def parseOnBlock (repr : Value → String) (path : String) (rule : Entries) :
    Except PyExc (Option String × Option String) := do
  let onBlock ← optionalDict (path ++ ".on_block") (get rule "on_block")
  pure (optionalText repr (get onBlock "message"),optionalText repr (get onBlock "code"))

def parseAllowTransformParams (path : String) (rule : Entries) : Except PyExc (Option Entries) :=
  match get rule "allow_transform" with
  | .none => .ok none
  | raw => do
    let path := path ++ ".allow_transform"
    let transform ← requireDict path raw
    if (item? transform "device_id").isSome || (item? transform "action").isSome then
      .error (configError path "device_id/action rewrites are not supported")
    else if transform.any fun e => e.1 ≠ "params" then
      .error (configError path "only params are supported in allow_transform")
    else match get transform "params" with
      | .none => .ok (some [])
      | .dict _ params => .ok (some params)
      | _ => .error (configError (path ++ ".params") "params must be an object/dict")

def parseInterlockRule (repr : Value → String) (num : Numeric) (rule : Entries) (index : Nat)
    (defaultMaxAgeS : F64) : Except PyExc Rule := do
  let path := "rules[" ++ toString index ++ "]"
  let name ← requireStr (path ++ ".name") (get rule "name")
  let match_ ← requireDict (path ++ ".match") (get rule "match")
  let deviceId ← requireStr (path ++ ".match.device_id") (get match_ "device_id")
  let action ← requireStr (path ++ ".match.action") (get match_ "action")
  let inputs ← optionalDict (path ++ ".inputs") (get rule "inputs")
  let telemetry ← parseTelemetryBindings num (path ++ ".inputs") defaultMaxAgeS false true inputs
  match item? rule "condition" with
  | none => .error (configError (path ++ ".condition") "condition is required")
  | some condition => do
    let (message,code) ← parseOnBlock repr path rule
    let params ← parseAllowTransformParams path rule
    pure ⟨"r" ++ toString index,name,deviceId,action,telemetry,condition,message,code,params⟩

/-- What the evaluation of a rule takes from Python and from the manager client:
`dict(value)`, `f"{age:.3f}"` and the latest telemetry samples. -/
structure Sources (World : Type) where
  py : Primitives
  num : Numeric
  toDict : Value → Except PyExc Entries
  formatAge : F64 → String
  telemetry : String → String → World → Option Entries × World
  processTelemetry : Option (String → String → World → Option Entries × World)

variable {World : Type}

inductive Verdict where
  | allow
  | reject (error : Entries)
  | transform (command : Entries)

def Verdict.isReject : Verdict → Bool
  | .reject _ => true
  | _ => false

def optionalStr : Option String → Value
  | none => .none
  | some s => .str s

def deviceOrNone (b : TelemetryBinding) : Value := if b.deviceId = "" then .none else .str b.deviceId

def telemetryError (code message : String) (b : TelemetryBinding) (sample : Option Entries)
    (age : Option F64) : Entries :=
  let seen := match sample with
    | none => []
    | some s => [("value",get s "value"),("quality",get s "quality"),("t_mono",get s "t_mono"),
        ("t_wall",get s "t_wall"),("age_s",match age with
          | none => get s "age_s"
          | some a => .float a)]
  [("code",.str code),("message",.str message),("details",.dict false
    ([("binding",.str b.alias_),("device",deviceOrNone b),("process",optionalStr b.processId),
      ("signal",.str b.signal),("max_age_s",.float b.maxAgeS)] ++ seen))]

def resolveBindingAgeS (num : Numeric) (sample : Entries) (now : F64) : Option F64 :=
  match get sample "age_s" with
  | .none =>
    match get sample "t_mono" with
    | .none => none
    | t => match num.toFloat t with
      | .ok t => some (num.sub now t)
      | .error _ => none
  | age => match num.toFloat age with
    | .ok age => some age
    | .error _ => none

def bindingEnv (py : Primitives) (b : TelemetryBinding) (sample : Option Entries) (ok : Bool)
    (reason : Value) (age : Option F64) : Value :=
  let field := fun key => match sample with
    | none => Value.none
    | some s => get s key
  toAttrdict (.dict false [("available",.bool sample.isSome),("ok",.bool ok),
    ("value",field "value"),("units",field "units"),
    ("quality",match sample with
      | none => .str "MISSING"
      | some s => .str ((getD s "quality" (.str "MISSING")).text py.repr)),
    ("t_mono",field "t_mono"),("t_wall",field "t_wall"),
    ("age_s",match age with
      | none => .none
      | some a => .float a),
    ("reason",reason),("device",deviceOrNone b),("process",optionalStr b.processId),
    ("signal",.str b.signal),("max_age_s",.float b.maxAgeS)])

def sampleForBinding (src : Sources World) (b : TelemetryBinding) (w : World) :
    Option Entries × World :=
  match b.processId with
  | some processId =>
    match src.processTelemetry with
    | none => (none,w)
    | some getter => getter processId b.signal w
  | none => src.telemetry b.deviceId b.signal w

def resolveBinding (src : Sources World) (now : F64) (b : TelemetryBinding)
    (sample : Option Entries) : Except Entries Value :=
  let label := b.sourceId ++ "." ++ b.signal
  match sample with
  | none =>
    if b.required then
      .error (telemetryError "TELEMETRY_MISSING" ("Telemetry missing for " ++ label) b none none)
    else .ok (bindingEnv src.py b none false (.str "missing") none)
  | some s =>
    let quality := (getD s "quality" (.str "MISSING")).text src.py.repr
    let age := resolveBindingAgeS src.num s now
    if quality.toUpper ≠ "OK" then
      if b.required then
        .error (telemetryError "TELEMETRY_NOT_OK" ("Telemetry not OK for " ++ label) b (some s) none)
      else .ok (bindingEnv src.py b (some s) false (.str ("quality=" ++ quality)) age)
    else match age with
      | none =>
        if b.required then
          .error (telemetryError "TELEMETRY_MISSING" ("Telemetry missing timestamp for " ++ label) b
            (some s) none)
        else .ok (bindingEnv src.py b (some s) false (.str "missing timestamp") none)
      | some a =>
        if src.num.lt b.maxAgeS a then
          if b.required then
            .error (telemetryError "TELEMETRY_STALE" ("Telemetry stale for " ++ label) b (some s)
              (some a))
          else .ok (bindingEnv src.py b (some s) false
            (.str ("stale: age=" ++ src.formatAge a ++ "s")) (some a))
        else .ok (bindingEnv src.py b (some s) true .none (some a))

/-- `_resolve_interlock_telemetry_env`, onto the environment it is put into. -/
def resolveTelemetryEnv (src : Sources World) (now : F64) :
    List TelemetryBinding → Env → World → Except Entries Env × World
  | [],env,w => (.ok env,w)
  | b :: rest,env,w =>
    let (sample,w) := sampleForBinding src b w
    match resolveBinding src now b sample with
    | .error err => (.error err,w)
    | .ok v => resolveTelemetryEnv src now rest (env.set b.alias_ v) w

def evaluateInterlockCondition (py : Primitives) (rule : Rule) (env : Env) : Bool :=
  match (evalCondition py rule.condition).result env.get? with
  | .ok b => b
  | .error _ => false

def conditionFailedError (rule : Rule) : Entries :=
  let orElse := fun (text : Option String) (default : String) => match text with
    | none | some "" => default
    | some s => s
  [("code",.str (orElse rule.onBlockCode "CONDITION_FAILED")),
    ("message",.str (orElse rule.onBlockMessage "Command rejected by interceptor")),
    ("details",.dict false [])]

/-- `new_params.update(rendered)` -/
def updateEntries (entries : Entries) : Entries → Entries
  | [] => entries
  | (k,v) :: rest => updateEntries (setItem entries k v) rest

def transformedParams (src : Sources World) (params : Entries) (cmd : Entries) (env : Env) :
    Except PyExc Entries :=
  match (renderTemplates src.py (.dict false params)).result env.get? with
  | .error e => .error e
  | .ok (.dict _ rendered) => do
    let params ← src.toDict (getD cmd "params" (.dict false []))
    pure (updateEntries params rendered)
  | .ok _ => .error ⟨.typeError,"allow_transform.params must be a dict"⟩

def applyInterlockTransform (src : Sources World) (rule : Rule) (cmd : Entries) (env : Env) :
    Verdict :=
  match rule.allowTransformParams with
  | none => .allow
  | some params =>
    match transformedParams src params cmd env with
    | .error e => .reject [("code",.str "TRANSFORM_ERROR"),
        ("message",.str (if e.message = "" then "Transform failed" else e.message)),
        ("details",.dict false [])]
    | .ok new => .transform [("device_id",get cmd "device_id"),("action",get cmd "action"),
        ("params",.dict false new)]

def buildInterlockEnv (cmd : Entries) : Env :=
  ((OrderedDict.empty.set "params" (toAttrdict (getD cmd "params" (.dict false [])))).set
    "device_id" (get cmd "device_id")).set "action" (get cmd "action")

def evaluateInterlockRule (src : Sources World) (rule : Rule) (cmd : Entries) (now : F64)
    (w : World) : Verdict × World :=
  match resolveTelemetryEnv src now rule.telemetry (buildInterlockEnv cmd) w with
  | (.error err,w) => (.reject err,w)
  | (.ok env,w) =>
    if evaluateInterlockCondition src.py rule env then (applyInterlockTransform src rule cmd env,w)
    else (.reject (conditionFailedError rule),w)

theorem parseInterlockRule_condition {repr : Value → String} {num : Numeric} {raw : Entries}
    {index : Nat} {defaultMaxAgeS : F64} {rule : Rule}
    (h : parseInterlockRule repr num raw index defaultMaxAgeS = .ok rule) :
    item? raw "condition" = some rule.condition := by
  obtain ⟨name,_,h⟩ := bind_eq_ok h
  obtain ⟨match_,_,h⟩ := bind_eq_ok h
  obtain ⟨deviceId,_,h⟩ := bind_eq_ok h
  obtain ⟨action,_,h⟩ := bind_eq_ok h
  obtain ⟨inputs,_,h⟩ := bind_eq_ok h
  obtain ⟨telemetry,_,h⟩ := bind_eq_ok h
  cases hitem : item? raw "condition" with
  | none =>
    rw [hitem] at h
    cases h
  | some condition =>
    rw [hitem] at h
    obtain ⟨texts,_,h⟩ := bind_eq_ok h
    obtain ⟨params,_,h⟩ := bind_eq_ok h
    cases h
    rfl

def Malformed (py : Primitives) (condition : Value) : Prop :=
  hasErrorDiagnostics (validateCondition py.repr "condition" condition) = true

/-- If the condition is malformed, the command is neither allowed nor transformed. -/
def FailsClosed (src : Sources World) (rule : Rule) (cmd : Entries) (now : F64) (w : World) : Prop :=
  Malformed src.py rule.condition → (evaluateInterlockRule src rule cmd now w).1.isReject = true

theorem evaluateInterlockRule_rejects {src : Sources World} {rule : Rule}
    (h : Excludes true (evalCondition src.py rule.condition)) (cmd : Entries) (now : F64)
    (w : World) : (evaluateInterlockRule src rule cmd now w).1.isReject = true := by
  unfold evaluateInterlockRule
  split
  · rfl
  · rename_i env w' _
    have hfalse : evaluateInterlockCondition src.py rule env = false := by
      unfold evaluateInterlockCondition
      split
      · rename_i b hb
        cases b with
        | false => rfl
        | true => exact absurd hb (h env.get?)
      · rfl
    rw [hfalse]
    rfl

/-- A rule fails closed on every command and under all telemetry if its condition is well
formed, or malformed only where this keeps it from ever coming out true. -/
theorem malformed_condition_rejected {src : Sources World} (hpy : NoneUnordered src.py)
    {raw : Entries} {index : Nat} {defaultMaxAgeS : F64} {rule : Rule}
    (hparse : parseInterlockRule src.py.repr src.num raw index defaultMaxAgeS = .ok rule)
    (hform : ∀ condition, item? raw "condition" = some condition → Malformed src.py condition →
      never true condition = true) (cmd : Entries) (now : F64) (w : World) :
    FailsClosed src rule cmd now w := by
  intro hbad
  have hnever := hform rule.condition (parseInterlockRule_condition hparse) hbad
  exact evaluateInterlockRule_rejects (excludes_evalCondition hpy true rule.condition hnever) cmd now w

def Sources.quiet : Sources Unit where
  py := .names
  num := .bits
  toDict v := match v with
    | .dict _ entries => .ok entries
    | _ => .error ⟨.typeError,"object is not iterable"⟩
  formatAge _ := ""
  telemetry _ _ w := (none,w)
  processTelemetry := none

theorem noneUnordered_names : NoneUnordered .names where
  compare op a b heq hne _ := by
    cases op with
    | eq => exact absurd rfl heq
    | notEq => exact absurd rfl hne
    | lt | ltE | gt | gtE => exact ⟨_,rfl⟩
  abs := ⟨_,rfl⟩

def outputRule (condition : Value) : Entries :=
  [("name",.str "output"),
    ("match",.dict false [("device_id",.str "hv"),("action",.str "enable_output")]),
    ("condition",condition)]

def missingOperandCondition : Value :=
  .dict false [("and",.list [.dict false [("eq",.list [.str "${device_id}",.str "hv"])],
    .dict false [("gt",.list [.none,.int 5])]])]

def enableOutput : Entries :=
  [("device_id",.str "hv"),("action",.str "enable_output"),("params",.dict false [])]

theorem missing_operand_rejected :
    ∃ rule, parseInterlockRule Sources.quiet.py.repr Sources.quiet.num
        (outputRule missingOperandCondition) 0 0 = .ok rule ∧
      Malformed Sources.quiet.py rule.condition ∧
      FailsClosed Sources.quiet rule enableOutput 0 () := by
  refine ⟨_,rfl,by unfold Malformed; decide +kernel,?_⟩
  refine malformed_condition_rejected noneUnordered_names
    (rfl : parseInterlockRule _ _ (outputRule missingOperandCondition) 0 0 = .ok _) ?_ _ _ _
  intro condition hitem _
  cases hitem
  decide +kernel

/-- `not: {grater: ["${params.v}", 5]}` -/
def misspelledCondition : Value :=
  .dict false [("not",.dict false [("grater",.list [.str "${params.v}",.int 5])])]

theorem misspelled_operator_allowed :
    ∃ rule, parseInterlockRule Sources.quiet.py.repr Sources.quiet.num
        (outputRule misspelledCondition) 0 0 = .ok rule ∧
      ¬ FailsClosed Sources.quiet rule enableOutput 0 () := by
  refine ⟨_,rfl,?_⟩
  intro h
  have hrejects := h (by unfold Malformed; decide +kernel)
  revert hrejects
  decide +kernel

end ExperimentControl.Interlock

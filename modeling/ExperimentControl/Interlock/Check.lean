import ExperimentControl.Interlock.Process

/-!
`_rpc_interlock_check` (`processes/interlock.py`): the enabled rules that match a command are
evaluated in order, each on the command as the ones before it have rewritten it.
-/

namespace ExperimentControl.Interlock
open Lib Python Sequencer

structure CheckedCommand where
  deviceId : String
  action : String
  params : Value

def CheckedCommand.entries (c : CheckedCommand) : Entries :=
  [("device_id",.str c.deviceId),("action",.str c.action),("params",c.params)]

/-- The command a transformed answer returns, with the rule that rewrote it last. -/
structure Rewritten where
  command : Entries
  interceptorId : String
  rule : String

inductive CheckReply where
  | invalidCommand
  | rejected (interceptorId rule : String) (error : Entries)
  | allowed (rewritten : Option Rewritten)

structure Checking where
  command : Entries
  rewritten : Option (String × String) := none

section
variable {World : Type} (src : Sources World) (now : F64) (s : State)

end

section
variable (src : Sources Unit) (now : F64)

def sampleOf (b : TelemetryBinding) : Option Entries := (sampleForBinding src b ()).1

def Fresh (b : TelemetryBinding) : Prop :=
  ∃ sample age, sampleOf src b = some sample ∧
    ((getD sample "quality" (.str "MISSING")).text src.py.repr).toUpper = "OK" ∧
    resolveBindingAgeS src.num sample now = some age ∧ src.num.lt b.maxAgeS age = false

def bindingValue (b : TelemetryBinding) : Value :=
  match resolveBinding src now b (sampleOf src b) with
  | .ok v => v
  | .error _ => .none

def ruleEnv (rule : Rule) (cmd : Entries) : Env :=
  rule.telemetry.foldl (fun env b => env.set b.alias_ (bindingValue src now b))
    (buildInterlockEnv cmd)

/-- The params of a transform, rendered for the command, and the params the command has. -/
structure Renders (rule : Rule) (cmd params rendered old : Entries) : Prop where
  params : ∃ attr, (renderTemplates src.py (.dict false params)).result (ruleEnv src now rule cmd).get? =
    .ok (.dict attr rendered)
  command : src.toDict (getD cmd "params" (.dict false [])) = .ok old

structure RulePasses (rule : Rule) (cmd : Entries) : Prop where
  telemetry : ∀ b ∈ rule.telemetry, b.required = true → Fresh src now b
  condition : (evalCondition src.py rule.condition).result (ruleEnv src now rule cmd).get? = .ok true
  transform : ∀ params, rule.allowTransformParams = some params →
    ∃ rendered old, Renders src now rule cmd params rendered old

/-- The command with each rendered param set over its own. -/
def rewrite (rule : Rule) (cmd : Entries) : Entries :=
  match rule.allowTransformParams with
  | none => cmd
  | some params =>
    match (renderTemplates src.py (.dict false params)).result (ruleEnv src now rule cmd).get?,
      src.toDict (getD cmd "params" (.dict false [])) with
    | .ok (.dict _ rendered),.ok old => [("device_id",get cmd "device_id"),("action",get cmd "action"),
        ("params",.dict false (rendered.foldl (fun params e => setItem params e.1 e.2) old))]
    | _,_ => cmd

/-- Every rule passes, each on the command as the ones before it leave it. -/
def Passes : List Rule → Entries → Prop
  | [],_ => True
  | rule :: rest,cmd => RulePasses src now rule cmd ∧ Passes rest (rewrite src now rule cmd)

def rewriteAll (rules : List Rule) (cmd : Entries) : Entries :=
  rules.foldl (fun cmd rule => rewrite src now rule cmd) cmd

def hasTransform (rules : List Rule) : Bool := rules.any (·.allowTransformParams.isSome)

end

section
variable {src : Sources Unit} {now : F64}

theorem passes_append (first second : List Rule) (cmd : Entries) :
    Passes src now (first ++ second) cmd ↔
      Passes src now first cmd ∧ Passes src now second (rewriteAll src now first cmd) := by
  induction first generalizing cmd with
  | nil => simp [Passes,rewriteAll]
  | cons rule rest ih =>
    have hrest := ih (rewrite src now rule cmd)
    simp only [List.cons_append,Passes,hrest,rewriteAll,List.foldl_cons,and_assoc]

def Loops (src : Sources Unit) (now : F64) (rules : List Rule) (c : Checking)
    (result : Except CheckReply Checking × Unit) : Prop :=
  (Passes src now rules c.command → ∃ c', result = (.ok c',()) ∧
    c'.command = rewriteAll src now rules c.command ∧
    c'.rewritten.isSome = (c.rewritten.isSome || hasTransform rules)) ∧
  (¬ Passes src now rules c.command →
    ∃ interceptorId rule error, result = (.error (.rejected interceptorId rule error),()))

theorem Loops.append {first second : List Rule} {c : Checking}
    {result next : Except CheckReply Checking × Unit} (h : Loops src now first c result)
    (hok : ∀ c', result = (.ok c',()) → Loops src now second c' next)
    (herror : ∀ reply, result = (.error reply,()) → next = (.error reply,())) :
    Loops src now (first ++ second) c next := by
  rw [Loops,passes_append]
  by_cases hfirst : Passes src now first c.command
  · obtain ⟨c₁,hresult,hcommand,hrewritten⟩ := h.1 hfirst
    obtain ⟨hall,hnone⟩ := hok c₁ hresult
    rw [hcommand] at hall hnone
    refine ⟨fun hpasses => ?_,fun hpasses => hnone fun hsecond => hpasses ⟨hfirst,hsecond⟩⟩
    obtain ⟨c₂,hnext,hcommand₂,hrewritten₂⟩ := hall hpasses.2
    refine ⟨c₂,hnext,?_,?_⟩
    · rw [hcommand₂,rewriteAll,rewriteAll,rewriteAll,List.foldl_append]
    · rw [hrewritten₂,hrewritten,hasTransform,hasTransform,hasTransform,List.any_append,
        Bool.or_assoc]
  · obtain ⟨interceptorId,rule,error,hresult⟩ := h.2 hfirst
    exact ⟨fun hpasses => absurd hpasses.1 hfirst,
      fun _ => ⟨interceptorId,rule,error,herror _ hresult⟩⟩

end

end ExperimentControl.Interlock

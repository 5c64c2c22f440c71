import ExperimentControl.Watchdog.Evaluation

/-!
The loop of the watchdog process (`processes/watchdog.py`): rules that trigger have their actions
submitted to a worker, one chain of a rule at a time, while operators clear latches.
-/

namespace ExperimentControl.Watchdog
open Lib Python Sequencer OrderedDict Option Function
open Interlock (get)

abbrev Key := String × String

structure WatchdogEntry where
  rules : List WatchdogRule
  enabled : Bool

structure WatchdogProcess where
  entries : OrderedDict String WatchdogEntry
  states : OrderedDict Key RuleState
  inflightActionKeys : List Key := []

def initialStates (entries : List (String × WatchdogEntry)) : OrderedDict Key RuleState :=
  (entries.flatMap fun e => e.2.rules.map fun rule => (e.1,rule.name)).foldl
    (fun states key => states.set key {}) .empty

def WatchdogProcess.start (entries : OrderedDict String WatchdogEntry) : WatchdogProcess :=
  ⟨entries,initialStates entries.entries,[]⟩

def clearRuleState (key : Key) (p : WatchdogProcess) : WatchdogProcess :=
  match p.states.get? key with
  | none => p
  | some state =>
    { p with states := p.states.set key (resetWatchdogConfirmation
        { state with latched := false, armed := false, stableSinceMono := none }) }

def findWatchdogRuleMatches (p : WatchdogProcess) (ruleName : String) : List Key :=
  p.entries.entries.flatMap fun e =>
    (e.2.rules.filter fun rule => rule.name = ruleName).map fun rule => (e.1,rule.name)

/-- The rules that `watchdog.clear_latch` clears. -/
def clearTargets (repr : Value → String) (p : WatchdogProcess) (params : Value) : List Key :=
  match params with
  | .dict _ params =>
    if (get params "all").truthy then
      p.entries.entries.flatMap fun e => e.2.rules.map fun rule => (e.1,rule.name)
    else if !(get params "rule").truthy then []
    else
      let ruleName := (get params "rule").text repr
      match get params "watchdog_id" with
      | .none => match findWatchdogRuleMatches p ruleName with
        | [key] => [key]
        | _ => []
      | watchdogId =>
        let watchdogId := watchdogId.text repr
        if p.entries.contains watchdogId then [(watchdogId,ruleName)] else []
  | _ => []

def clearLatch (repr : Value → String) (params : Value) (p : WatchdogProcess) : WatchdogProcess :=
  (clearTargets repr p params).foldl (fun p key => clearRuleState key p) p

def findRule (p : WatchdogProcess) (key : Key) : Option WatchdogRule :=
  match p.entries.get? key.1 with
  | none => none
  | some entry => if entry.enabled then entry.rules.find? fun rule => rule.name = key.2 else none

/-- What `_evaluate_rules` does for one rule. -/
structure Outcome where
  process : WatchdogProcess
  triggered : Bool
  submitted : Bool

local instance lawfulKey : LawfulBEq Key := inferInstance

def evaluateRule (lang : Lang) (key : Key) (rule : WatchdogRule) (state : RuleState)
    (telemetry : Telemetry) (now : F64) (p : WatchdogProcess) : Except PyExc Outcome :=
  match evaluateWatchdogRule lang rule telemetry now state with
  | .error e => .error e
  | .ok (false,after) => .ok ⟨{ p with states := p.states.set key after },false,false⟩
  | .ok (true,after) =>
    -- the latch and the disarming stand, whatever becomes of the trigger
    if key ∈ p.inflightActionKeys then
      .ok ⟨{ p with states := p.states.set key after },true,false⟩
    else
      let after := resetWatchdogConfirmation (markWatchdogTriggered now after)
      .ok ⟨{ p with
        states := p.states.set key after
        inflightActionKeys := key :: p.inflightActionKeys },true,true⟩

def onActionChainDone (key : Key) (p : WatchdogProcess) : WatchdogProcess :=
  { p with inflightActionKeys := p.inflightActionKeys.filter (· ≠ key) }

def setEnabled (watchdogId : String) (enable : Bool) (p : WatchdogProcess) : WatchdogProcess :=
  { p with entries := p.entries.mapValues fun id entry =>
      if id = watchdogId then { entry with enabled := enable } else entry }

/-- What is known of a rule since it was last clear: whether its trigger has disarmed it, and
whether its actions have been submitted. -/
structure Account where
  disarmed : Bool := false
  acted : Bool := false

structure System where
  process : WatchdogProcess
  account : Key → Account
  submitted : List Key

/-- A tick is an `evaluate` of every rule of the enabled rulesets in turn; action chains may end
between any two of them. -/
inductive Event where
  | evaluate (key : Key) (now : F64) (telemetry : Telemetry)
  | clearLatch (params : Value)
  | chainDone (key : Key)
  | setEnabled (watchdogId : String) (enable : Bool)

def System.start (entries : OrderedDict String WatchdogEntry) : System :=
  ⟨.start entries,fun _ => {},[]⟩

def accountAfter (rule : WatchdogRule) (before : RuleState) (after : Option RuleState)
    (triggered submitted : Bool) (account : Account) : Account :=
  if triggered then ⟨disarmsOnTrigger rule,submitted || (account.acted && before.latched)⟩
  else
    let armed := match after with
      | none => false
      | some state => state.armed
    let disarmed := account.disarmed && !armed
    ⟨disarmed,account.acted && (before.latched || disarmed)⟩

section
variable (lang : Lang)

def stepEvaluate (key : Key) (now : F64) (telemetry : Telemetry) (sys : System) : Option System :=
  match findRule sys.process key,sys.process.states.get? key with
  | some rule,some state =>
    match evaluateRule lang key rule state telemetry now sys.process with
    | .error _ => none
    | .ok outcome =>
      some ⟨outcome.process,
        update sys.account key (accountAfter rule state (outcome.process.states.get? key)
          outcome.triggered outcome.submitted (sys.account key)),
        if outcome.submitted then sys.submitted ++ [key] else sys.submitted⟩
  | _,_ => none

def System.step (sys : System) : Event → Option System
  | .evaluate key now telemetry => stepEvaluate lang key now telemetry sys
  | .clearLatch params =>
    let cleared := clearTargets lang.py.repr sys.process params
    some { sys with
      process := clearLatch lang.py.repr params sys.process
      account := fun key => if key ∈ cleared then {} else sys.account key }
  | .chainDone key => some { sys with process := onActionChainDone key sys.process }
  | .setEnabled watchdogId enable =>
    some { sys with process := setEnabled watchdogId enable sys.process }

/-- No rule with a latch, or that its trigger disarms, triggers while its last chain still runs. -/
def CleanEvent (sys : System) : Event → Prop
  | .evaluate key now telemetry => ∀ rule state after, findRule sys.process key = some rule →
    sys.process.states.get? key = some state →
    evaluateWatchdogRule lang rule telemetry now state = .ok (true,after) →
    rule.latch = true ∨ disarmsOnTrigger rule = true → key ∉ sys.process.inflightActionKeys
  | _ => True

inductive CleanReachable : System → Prop where
  | start (entries : OrderedDict String WatchdogEntry) : CleanReachable (.start entries)
  | step {sys sys' : System} {event : Event} : CleanReachable sys → CleanEvent lang sys event →
      sys.step lang event = some sys' → CleanReachable sys'

end

/-- A rule that is latched, or that its trigger has disarmed, has had its actions submitted since it
was last clear. -/
def Acted (sys : System) : Prop :=
  ∀ key state, sys.process.states.get? key = some state →
    state.latched = true ∨ (sys.account key).disarmed = true → (sys.account key).acted = true

section
variable {lang : Lang} {sys sys' : System}

variable {key : Key}

theorem stepEvaluate_cases {now : F64} {telemetry : Telemetry}
    (hstep : stepEvaluate lang key now telemetry sys = some sys') :
    ∃ rule state triggered after, findRule sys.process key = some rule ∧
      sys.process.states.get? key = some state ∧
      evaluateWatchdogRule lang rule telemetry now state = .ok (triggered,after) ∧
      ((triggered = false ∨ key ∈ sys.process.inflightActionKeys) ∧
        sys' = ⟨{ sys.process with states := sys.process.states.set key after },
          update sys.account key
            (accountAfter rule state (some after) triggered false (sys.account key)),sys.submitted⟩ ∨
      triggered = true ∧ key ∉ sys.process.inflightActionKeys ∧
        sys' = ⟨{ sys.process with
            states := sys.process.states.set key
              (resetWatchdogConfirmation (markWatchdogTriggered now after))
            inflightActionKeys := key :: sys.process.inflightActionKeys },
          update sys.account key (accountAfter rule state
            (some (resetWatchdogConfirmation (markWatchdogTriggered now after))) true true
            (sys.account key)),sys.submitted ++ [key]⟩) := by
  unfold stepEvaluate at hstep
  split at hstep
  · rename_i rule state hrule hstate
    unfold evaluateRule at hstep
    cases heval : evaluateWatchdogRule lang rule telemetry now state with
    | error e => simp [heval] at hstep
    | ok result =>
      obtain ⟨triggered,after⟩ := result
      refine ⟨rule,state,triggered,after,hrule,hstate,heval,?_⟩
      cases triggered with
      | false =>
        simp only [heval,get?_set,if_true,Option.some.injEq] at hstep
        exact .inl ⟨.inl rfl,hstep.symm⟩
      | true =>
        by_cases hbusy : key ∈ sys.process.inflightActionKeys
        · simp only [heval,hbusy,get?_set,if_true,Option.some.injEq] at hstep
          exact .inl ⟨.inr hbusy,hstep.symm⟩
        · simp only [heval,hbusy,get?_set,if_true,if_false,Option.some.injEq] at hstep
          exact .inr ⟨rfl,hbusy,hstep.symm⟩
  · cases hstep

theorem acted_update {process : WatchdogProcess} {after : RuleState} {account : Account}
    {submitted : List Key} (h : Acted sys) (hstates : process.states = sys.process.states.set key after)
    (hkey : after.latched = true ∨ account.disarmed = true → account.acted = true) :
    Acted ⟨process,update sys.account key account,submitted⟩ := by
  intro other state hget htrip
  simp only [hstates,get?_set] at hget
  by_cases hother : other = key
  · subst hother
    simp only [if_true,Option.some.injEq] at hget
    subst hget
    simp only [update_self] at htrip ⊢
    exact hkey htrip
  · simp only [hother,if_false] at hget
    simp only [update_of_ne hother] at htrip ⊢
    exact h other state hget htrip

theorem acted_evaluate {now : F64} {telemetry : Telemetry} (h : Acted sys)
    (hclean : CleanEvent lang sys (.evaluate key now telemetry))
    (hstep : stepEvaluate lang key now telemetry sys = some sys') : Acted sys' := by
  obtain ⟨rule,state,triggered,after,hrule,hstate,heval,hcases⟩ := stepEvaluate_cases hstep
  have hbefore := h key state hstate
  rcases hcases with ⟨hskip,rfl⟩ | ⟨rfl,hfree,rfl⟩
  · apply acted_update h rfl
    cases triggered with
    | false =>
      have hlatched : after.latched = state.latched := by
        rcases evaluateWatchdogRule_cases lang rule heval with ⟨-,hl⟩ | ⟨hfalse,-⟩
        · exact hl
        · cases hfalse
      simp only [accountAfter,hlatched,Bool.false_eq_true,if_false]
      intro htrip
      cases hl : state.latched with
      | true => simp [hbefore (.inl hl)]
      | false =>
        simp only [hl,Bool.false_eq_true,false_or,Bool.and_eq_true] at htrip
        simp [hbefore (.inr htrip.1),htrip.1,htrip.2]
    | true =>
      -- a trigger is dropped only for a rule that it neither latches nor disarms
      have hbusy : key ∈ sys.process.inflightActionKeys := by simpa using hskip
      have hplain : ¬ (rule.latch = true ∨ disarmsOnTrigger rule = true) := fun hor =>
        hclean rule state after hrule hstate heval hor hbusy
      have hlatched : after.latched = (rule.latch || state.latched) := by
        rcases evaluateWatchdogRule_cases lang rule heval with ⟨hfalse,-⟩ | ⟨-,hl,-⟩
        · cases hfalse
        · exact hl
      simp only [not_or,Bool.not_eq_true] at hplain
      simp only [accountAfter,hlatched,hplain.1,hplain.2,Bool.false_or,if_true,Bool.false_eq_true,
        or_false,Bool.and_eq_true]
      intro hl
      exact ⟨hbefore (.inl hl),hl⟩
  · exact acted_update h rfl fun _ => rfl

theorem clearRuleState_get? (key other : Key) (p : WatchdogProcess) :
    (clearRuleState key p).states.get? other =
      if other = key then (p.states.get? key).map fun state => resetWatchdogConfirmation
        { state with latched := false, armed := false, stableSinceMono := none }
      else p.states.get? other := by
  unfold clearRuleState
  cases hget : p.states.get? key with
  | none =>
    by_cases hkey : other = key
    · simp [hkey,hget]
    · simp [hkey]
  | some state => simp

theorem clearAll_get? {keys : List Key} {p : WatchdogProcess} {state : RuleState}
    (h : (keys.foldl (fun p key => clearRuleState key p) p).states.get? key = some state) :
    (key ∈ keys → state.latched = false) ∧ (key ∉ keys → p.states.get? key = some state) := by
  induction keys generalizing p with
  | nil =>
    constructor
    · intro hmem
      cases hmem
    · intro _
      exact h
  | cons first rest ih =>
    obtain ⟨hin,hout⟩ := ih h
    constructor
    · intro hmem
      by_cases hrest : key ∈ rest
      · exact hin hrest
      · have hget := hout hrest
        obtain rfl : key = first := by simpa [hrest] using hmem
        rw [clearRuleState_get?,if_pos rfl] at hget
        obtain ⟨before,_,rfl⟩ := map_eq_some_iff.1 hget
        rfl
    · intro hmem
      simp only [List.mem_cons,not_or] at hmem
      have hget := hout hmem.2
      rwa [clearRuleState_get?,if_neg hmem.1] at hget

theorem acted_clearLatch (h : Acted sys) {params : Value} (hstep : sys.step lang (.clearLatch params) =
    some sys') : Acted sys' := by
  cases hstep
  intro key state hget htrip
  obtain ⟨hin,hout⟩ := clearAll_get? hget
  by_cases hmem : key ∈ clearTargets lang.py.repr sys.process params
  · simp [hmem,hin hmem] at htrip
  · simp only [hmem,if_false] at htrip ⊢
    exact h key state (hout hmem) htrip

theorem acted_step {event : Event} (h : Acted sys) (hclean : CleanEvent lang sys event)
    (hstep : sys.step lang event = some sys') : Acted sys' := by
  cases event with
  | evaluate key now telemetry => exact acted_evaluate h hclean hstep
  | clearLatch params => exact acted_clearLatch h hstep
  | chainDone key =>
    cases hstep
    exact h
  | setEnabled watchdogId enable =>
    cases hstep
    exact h

theorem initialStates_get? {entries : List (String × WatchdogEntry)} {state : RuleState}
    (h : (initialStates entries).get? key = some state) : state = {} := by
  have hfold : ∀ (keys : List Key) (states : OrderedDict Key RuleState),
      (∀ key state, states.get? key = some state → state = {}) → ∀ key state,
      (keys.foldl (fun states key => states.set key {}) states).get? key = some state →
        state = {} := by
    intro keys
    induction keys with
    | nil => exact fun states hs => hs
    | cons first rest ih =>
      intro states hs
      apply ih
      intro key state hget
      rw [get?_set] at hget
      split at hget
      · exact (Option.some.inj hget).symm
      · exact hs key state hget
  exact hfold _ _ (by simp) key state h

theorem acted_of_cleanReachable (h : CleanReachable lang sys) : Acted sys := by
  induction h with
  | start entries =>
    intro key state hget htrip
    rw [initialStates_get? hget] at htrip
    simp [System.start] at htrip
  | step _ hclean hstep ih => exact acted_step ih hclean hstep

/-- In every run of clean steps, an evaluation that latches a rule, or that disarms it because it
triggered, submits the actions of the rule, and no rule is left latched or disarmed without them. -/
theorem trips_act (h : CleanReachable lang sys) : Acted sys ∧
      ∀ key now telemetry sys', CleanEvent lang sys (.evaluate key now telemetry) →
        sys.step lang (.evaluate key now telemetry) = some sys' →
        (∃ state after, sys.process.states.get? key = some state ∧
          sys'.process.states.get? key = some after ∧ state.latched = false ∧ after.latched = true) ∨
        (∃ rule state after, findRule sys.process key = some rule ∧
          sys.process.states.get? key = some state ∧ disarmsOnTrigger rule = true ∧
          evaluateWatchdogRule lang rule telemetry now state = .ok (true,after)) →
        sys'.submitted = sys.submitted ++ [key] := by
  refine ⟨acted_of_cleanReachable h,fun key now telemetry sys' hclean hstep htrip => ?_⟩
  obtain ⟨rule,state,triggered,after,hrule,hstate,heval,hcases⟩ := stepEvaluate_cases hstep
  rcases hcases with ⟨hskip,rfl⟩ | ⟨rfl,hfree,rfl⟩
  · exfalso
    have hnone : ¬ (triggered = true ∧ (rule.latch = true ∨ disarmsOnTrigger rule = true)) := by
      rintro ⟨rfl,hor⟩
      exact hclean rule state after hrule hstate heval hor (by simpa using hskip)
    rcases htrip with ⟨before,later,hbefore,hlater,hfalse,htrue⟩ | ⟨r,s,a,hr,hs,hdisarm,he⟩
    · cases hstate.symm.trans hbefore
      simp only [get?_set,if_true,Option.some.injEq] at hlater
      subst hlater
      rcases evaluateWatchdogRule_cases lang rule heval with ⟨-,hl⟩ | ⟨hyes,hl,-⟩
      · simp [hl,hfalse] at htrue
      · exact hnone ⟨hyes,.inl (by simpa [hl,hfalse] using htrue)⟩
    · cases hrule.symm.trans hr
      cases hstate.symm.trans hs
      cases heval.symm.trans he
      exact hnone ⟨rfl,.inr hdisarm⟩
  · rfl

end

def overcurrent : WatchdogRule where
  name := "overcurrent"
  telemetry := [{ alias_ := "current", deviceId := "hv", signal := "current", maxAgeS := 1 }]
  condition := .dict false [("always",.bool true)]
  stableForS := 0
  cooldownS := 0
  latch := true
  onUnknown := .ignore

def freshCurrent : Telemetry := fun _ _ =>
  some [("value",.int 9),("quality",.str "OK"),("age_s",.float 0)]

def plainLang : Lang := ⟨.names,.bits⟩

def overcurrentWatchdog : System :=
  .start (OrderedDict.empty.set "hv-watch" ⟨[overcurrent],true⟩)

def overcurrentKey : Key := ("hv-watch","overcurrent")

def evaluateAt (now : F64) : Event := .evaluate overcurrentKey now freshCurrent

def clearOvercurrent : Event := .clearLatch (.dict false [("rule",.str "overcurrent")])

def System.books (sys : System) : Option Bool × Bool × List Key :=
  ((sys.process.states.get? overcurrentKey).map RuleState.latched,
    (sys.account overcurrentKey).acted,sys.submitted)

def System.idleStep (lang : Lang) (sys : System) (event : Event) : Option System :=
  match event with
  | .evaluate key _ _ =>
    if key ∈ sys.process.inflightActionKeys then none else sys.step lang event
  | _ => sys.step lang event

theorem cleanEvent_of_idle {lang : Lang} {sys sys' : System} {event : Event}
    (h : sys.idleStep lang event = some sys') :
    CleanEvent lang sys event ∧ sys.step lang event = some sys' := by
  cases event with
  | evaluate key now telemetry =>
    simp only [System.idleStep] at h
    split at h
    · cases h
    · rename_i hidle
      exact ⟨fun _ _ _ _ _ _ _ => hidle,h⟩
  | clearLatch params => exact ⟨trivial,h⟩
  | chainDone key => exact ⟨trivial,h⟩
  | setEnabled watchdogId enable => exact ⟨trivial,h⟩

theorem cleanReachable_of_idle {lang : Lang} {events : List Event} {sys sys' : System}
    (hsys : CleanReachable lang sys) (hrun : events.foldlM (System.idleStep lang) sys = some sys') :
    CleanReachable lang sys' := by
  induction events generalizing sys with
  | nil =>
    cases hrun
    exact hsys
  | cons event rest ih =>
    rw [List.foldlM_cons] at hrun
    obtain ⟨mid,hmid,hrest⟩ := bind_eq_some_iff.1 hrun
    obtain ⟨hclean,hstep⟩ := cleanEvent_of_idle hmid
    exact ih (hsys.step hclean hstep) hrest

theorem cleared_late_trips_with_actions :
    ∃ sys, [evaluateAt 1,.chainDone overcurrentKey,clearOvercurrent,evaluateAt 2].foldlM
        (System.idleStep plainLang) overcurrentWatchdog = some sys ∧
      sys.books = (some true,true,[overcurrentKey,overcurrentKey]) ∧ Acted sys := by
  have hbooks : ([evaluateAt 1,.chainDone overcurrentKey,clearOvercurrent,evaluateAt 2].foldlM
      (System.idleStep plainLang) overcurrentWatchdog).map System.books =
      some (some true,true,[overcurrentKey,overcurrentKey]) := by
    decide +kernel
  obtain ⟨sys,hrun,hsys⟩ := map_eq_some_iff.1 hbooks
  exact ⟨sys,hrun,hsys,(trips_act (cleanReachable_of_idle (.start _) hrun)).1⟩

theorem cleared_early_trips_without_actions :
    ∃ sys, [evaluateAt 1,clearOvercurrent,evaluateAt 2].foldlM (System.step plainLang)
        overcurrentWatchdog = some sys ∧
      sys.books = (some true,false,[overcurrentKey]) ∧ ¬ Acted sys := by
  have hbooks : ([evaluateAt 1,clearOvercurrent,evaluateAt 2].foldlM (System.step plainLang)
      overcurrentWatchdog).map System.books = some (some true,false,[overcurrentKey]) := by
    decide +kernel
  obtain ⟨sys,hrun,hsys⟩ := map_eq_some_iff.1 hbooks
  refine ⟨sys,hrun,hsys,fun hacted => ?_⟩
  obtain ⟨state,hget,hlatched⟩ := map_eq_some_iff.1 (congrArg Prod.fst hsys)
  have hno : (sys.account overcurrentKey).acted = false := congrArg (·.2.1) hsys
  have hyes := hacted overcurrentKey state hget (.inl hlatched)
  rw [hno] at hyes
  cases hyes

end ExperimentControl.Watchdog

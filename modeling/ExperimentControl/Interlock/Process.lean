import ExperimentControl.InterceptorRoutes
import ExperimentControl.Interlock.Rules

/-!
The interlock process (`processes/interlock.py`) and the manager's route table. Every
call changes the local state, registers the routes of what is then enabled and takes the
change back if the registration fails. The two talk over a link that may lose a request or
its reply, or deliver a request when nobody waits for it any more.
-/

namespace ExperimentControl.Interlock
open Lib Python Sequencer InterceptorRoutes OrderedDict

structure Ruleset where
  interceptorId : String
  defaultsMaxAgeS : F64
  rules : List Rule

structure RulesetEntry where
  ruleset : Ruleset
  enabled : Bool
  source : Option String := none

def parseVersion (num : Numeric) (obj : Entries) : Except PyExc Int :=
  match num.toInt (getD obj "version" (.int 1)) with
  | .error _ => .error (configError "<root>" "version must be an int")
  | .ok version =>
    if version ≠ 1 then .error (configError "<root>" "version must be 1") else .ok version

/-- `_parse_interlock_rules`, with `require_list_of_dicts` on the way. -/
def parseInterlockRules (repr : Value → String) (num : Numeric) (source : String)
    (defaultMaxAgeS : F64) : Nat → List Value → Except PyExc (List Rule)
  | _,[] => .ok []
  | i,.dict _ raw :: rest => do
    let rule ← match parseInterlockRule repr num raw i defaultMaxAgeS with
      | .ok rule => .ok rule
      | .error e => .error ⟨.valueError,source ++ ": " ++ e.message⟩
    let rules ← parseInterlockRules repr num source defaultMaxAgeS (i+1) rest
    pure (rule :: rules)
  | i,_ :: _ => .error (configError ("rules[" ++ toString i ++ "]") "must be an object/dict")

/-- `2.0` -/
def defaultMaxAge : F64 := 0x4000000000000000

def parseRuleset (repr : Value → String) (num : Numeric) (raw : Value) (source : String) :
    Except PyExc Ruleset := do
  let obj ← requireDict "<root>" raw
  let _ ← parseVersion num obj
  let interceptorId ← requireStr "interceptor_id" (get obj "interceptor_id")
  let defaults ← optionalDict "defaults" (get obj "defaults")
  let maxAge ← match get defaults "max_age_s" with
    | .none => .ok defaultMaxAge
    | v => num.toFloat v
  let items ← normalizeList "rules" (get obj "rules")
  let rules ← parseInterlockRules repr num source maxAge 0 items
  pure ⟨interceptorId,maxAge,rules⟩

structure State where
  entries : OrderedDict String RulesetEntry
  order : List String
  ruleEnabled : OrderedDict (String × String) Bool

def dropRuleStates (interceptorId : String) (s : State) : State :=
  { s with ruleEnabled := s.ruleEnabled.filterKeys fun key => key.1 ≠ interceptorId }

def setDefaultRuleStates (interceptorId : String) (ruleset : Ruleset) (s : State) : State :=
  let s := dropRuleStates interceptorId s
  let states := ruleset.rules.foldl (fun states rule => states.set (interceptorId,rule.ruleId) true)
    s.ruleEnabled
  { s with ruleEnabled := states }

def ruleEnabledState (s : State) (interceptorId ruleId : String) : Bool :=
  (s.ruleEnabled.get? (interceptorId,ruleId)).getD true

def iterRulesetEntries (s : State) (enabledOnly : Bool) : List RulesetEntry :=
  (s.order.filterMap s.entries.get?).filter fun entry => !enabledOnly || entry.enabled

/-- The rules that `interlock.status` reports as enabled, in rulesets that it reports as
enabled. -/
def enabledRules (s : State) : List Rule :=
  (iterRulesetEntries s true).flatMap fun entry =>
    entry.ruleset.rules.filter fun rule =>
      ruleEnabledState s entry.ruleset.interceptorId rule.ruleId

local instance lawfulRoute : LawfulBEq (String × String) := inferInstance

/-- `_routes_for_enabled_rules`, each pair of device and action once. -/
def routesForEnabledRules (s : State) : List (String × String) :=
  (enabledRules s).foldl (fun routes rule =>
    if (rule.deviceId,rule.action) ∈ routes then routes
    else routes ++ [(rule.deviceId,rule.action)]) []

/-- `__init__`, up to the registration of the routes. -/
def boot : List RulesetEntry → State → Except PyExc State
  | [],s => .ok s
  | entry :: rest,s =>
    let interceptorId := entry.ruleset.interceptorId
    if s.entries.contains interceptorId then
      .error ⟨.valueError,"Duplicate interceptor_id '" ++ interceptorId ++ "'"⟩
    else boot rest (setDefaultRuleStates interceptorId entry.ruleset
      { s with entries := s.entries.set interceptorId entry, order := s.order ++ [interceptorId] })

inductive Call where
  | load (raw : Value) (source : String) (replace : Bool) (enable : Value)
  | enableDisable (interceptorId : String) (enable : Bool)
  | enableDisableRule (interceptorId ruleId : String) (enable : Bool)
  | enableDisableAll (enable : Bool)

/-- `_rpc_interlock_apply_loaded_ruleset`: the state whose routes are registered, and the one
that is put back should this fail. -/
def applyLoadedRuleset (ruleset : Ruleset) (source : String) (replace : Bool) (enable : Value)
    (s : State) : Option (State × State) :=
  let interceptorId := ruleset.interceptorId
  let existing := s.entries.get? interceptorId
  if existing.isSome && !replace then none
  else
    let enabled := match enable with
      | .none => match existing with
        | some entry => entry.enabled
        | none => true
      | v => v.truthy
    let previous := s.ruleEnabled.filterKeys fun key => key.1 = interceptorId
    let changed := setDefaultRuleStates interceptorId ruleset
      { s with
        entries := s.entries.set interceptorId ⟨ruleset,enabled,some source⟩
        order := if existing.isNone then s.order ++ [interceptorId] else s.order }
    let undone := match existing with
      | none => { changed with
          entries := changed.entries.erase interceptorId
          order := changed.order.filter (· ≠ interceptorId) }
      | some entry => { changed with entries := changed.entries.set interceptorId entry }
    let undone := dropRuleStates interceptorId undone
    some (changed,{ undone with ruleEnabled := undone.ruleEnabled.update previous })

def enableDisable (interceptorId : String) (enable : Bool) (s : State) : Option (State × State) :=
  if interceptorId = "" then none
  else match s.entries.get? interceptorId with
    | none => none
    | some entry =>
      let changed := s.entries.set interceptorId { entry with enabled := enable }
      some ({ s with entries := changed },{ s with entries := changed.set interceptorId entry })

def enableDisableRule (interceptorId ruleId : String) (enable : Bool) (s : State) :
    Option (State × State) :=
  let interceptorId := strip interceptorId
  let ruleId := strip ruleId
  if interceptorId = "" || ruleId = "" then none
  else match s.entries.get? interceptorId with
    | none => none
    | some entry =>
      if !entry.ruleset.rules.any (fun rule => rule.ruleId = ruleId) then none
      else
        let key := (interceptorId,ruleId)
        let previous := ruleEnabledState s interceptorId ruleId
        let states := s.ruleEnabled.set key enable
        some ({ s with ruleEnabled := states },{ s with ruleEnabled := states.set key previous })

def setAll (enabled : String → Bool) (s : State) : State :=
  { s with entries := s.entries.mapValues fun id entry => { entry with enabled := enabled id } }

def enableDisableAll (enable : Bool) (s : State) : State × State :=
  let changed := setAll (fun _ => enable) s
  (changed,setAll (fun id => match s.entries.get? id with
    | some entry => entry.enabled
    | none => enable) changed)

def attempt (repr : Value → String) (num : Numeric) (s : State) : Call → Option (State × State)
  | .load raw source replace enable =>
    match parseRuleset repr num raw source with
    | .error _ => none
    | .ok ruleset => applyLoadedRuleset ruleset source replace enable s
  | .enableDisable interceptorId enable => enableDisable interceptorId enable s
  | .enableDisableRule interceptorId ruleId enable =>
    enableDisableRule interceptorId ruleId enable s
  | .enableDisableAll enable => some (enableDisableAll enable s)

/-- The interlock, the manager, and the requests that the interlock no longer waits for. -/
structure System where
  interlock : State
  manager : InterceptorRouteState
  late : List (List (String × String))

inductive Fate where
  | answered
  | requestLost
  | replyLost
  | late
  deriving DecidableEq

/-- `manager.interceptors.register` with `replace`, as the manager serves it. -/
def registerAll (repr : Value → String) (processId : String) (routes : List (String × String))
    (m : InterceptorRouteState) : Except PyExc (List CommandInterceptorRoute) × InterceptorRouteState :=
  register repr m processId (.list (routes.map fun r => routeEntry r.1 r.2)) true

inductive Event where
  | call (call : Call) (fate : Fate)
  | deliver (i : Nat)

section
variable (repr : Value → String) (num : Numeric) (processId : String)

def serve (changed undone : State) (fate : Fate) (sys : System) : System :=
  let routes := routesForEnabledRules changed
  let applied := registerAll repr processId routes sys.manager
  match fate with
  | .answered =>
    { sys with
      interlock := match applied.1 with
        | .ok _ => changed
        | .error _ => undone
      manager := applied.2 }
  | .requestLost => { sys with interlock := undone }
  | .replyLost => { sys with interlock := undone, manager := applied.2 }
  | .late => { sys with interlock := undone, late := sys.late ++ [routes] }

def System.step (sys : System) : Event → System
  | .call call fate =>
    match attempt repr num sys.interlock call with
    | none => sys
    | some (changed,undone) => serve repr processId changed undone fate sys
  | .deliver i =>
    match sys.late[i]? with
    | none => sys
    | some routes =>
      { sys with
        manager := (registerAll repr processId routes sys.manager).2
        late := sys.late.eraseIdx i }

end

def Guarded (processId : String) (routes : List CommandInterceptorRoute) (rule : Rule) : Prop :=
  ∃ route ∈ routes, route.processId = processId ∧
    matchCommandInterceptorRoute route rule.deviceId rule.action = true

def Agrees (processId : String) (sys : System) : Prop :=
  ∀ rule ∈ enabledRules sys.interlock, Guarded processId sys.manager.routes rule

structure Same (s t : State) : Prop where
  order : t.order = s.order
  entries : ∀ id, t.entries.get? id = s.entries.get? id
  rules : ∀ id ruleId, ruleEnabledState t id ruleId = ruleEnabledState s id ruleId

variable {s t : State}

theorem Same.enabledRules (h : Same s t) : enabledRules t = enabledRules s := by
  have hentries : t.entries.get? = s.entries.get? := funext h.entries
  have hiter : iterRulesetEntries t true = iterRulesetEntries s true := by
    unfold iterRulesetEntries
    rw [h.order,hentries]
  unfold Interlock.enabledRules
  rw [hiter]
  congr 1
  funext entry
  congr 1
  funext rule
  exact h.rules _ _

def Listed (s : State) : Prop := ∀ id ∈ s.order, (s.entries.get? id).isSome = true

variable {s : State} {ruleset : Ruleset} {interceptorId : String}

theorem get?_setDefaultRuleStates {key : String × String} (h : key.1 ≠ interceptorId) :
    (setDefaultRuleStates interceptorId ruleset s).ruleEnabled.get? key = s.ruleEnabled.get? key := by
  have hfold : ∀ (rules : List Rule) (states : OrderedDict (String × String) Bool),
      (rules.foldl (fun states rule => states.set (interceptorId,rule.ruleId) true) states).get? key =
        states.get? key := by
    intro rules
    induction rules with
    | nil => intro states; rfl
    | cons rule rest ih =>
      intro states
      rw [List.foldl_cons,ih,get?_set,if_neg]
      rintro rfl
      exact h rfl
  show (List.foldl _ (dropRuleStates interceptorId s).ruleEnabled ruleset.rules).get? key = _
  rw [hfold]
  simp [dropRuleStates,h]

theorem ruleEnabledState_congr {id ruleId : String}
    (h : t.ruleEnabled.get? (id,ruleId) = s.ruleEnabled.get? (id,ruleId)) :
    ruleEnabledState t id ruleId = ruleEnabledState s id ruleId := by
  simp only [ruleEnabledState,h]

theorem get?_restored (key : String × String)
    (h : key.1 ≠ interceptorId → t.ruleEnabled.get? key = s.ruleEnabled.get? key) :
    ((dropRuleStates interceptorId t).ruleEnabled.update
      (s.ruleEnabled.filterKeys fun key => key.1 = interceptorId)).get? key =
      s.ruleEnabled.get? key := by
  rw [get?_update]
  by_cases hk : key.1 = interceptorId
  · cases hget : s.ruleEnabled.get? key with
    | none => simp [dropRuleStates,hk,hget]
    | some state => simp [hk,hget]
  · simp [dropRuleStates,hk,h hk]

variable {s changed undone : State}

theorem applyLoadedRuleset_undone {source : String} {replace : Bool}
    {enable : Value} (hs : Listed s)
    (h : applyLoadedRuleset ruleset source replace enable s = some (changed,undone)) :
    Same s undone := by
  unfold applyLoadedRuleset at h
  cases hex : s.entries.get? ruleset.interceptorId with
  | none =>
    have hnew : ruleset.interceptorId ∉ s.order := by
      intro hmem
      have := hs _ hmem
      simp [hex] at this
    simp only [hex,Option.isSome_none,Bool.false_and,Bool.false_eq_true,if_false,
      Option.isNone_none,if_true,Option.some.injEq,Prod.mk.injEq] at h
    obtain ⟨rfl,rfl⟩ := h
    constructor
    · show List.filter _ (s.order ++ [ruleset.interceptorId]) = s.order
      rw [List.filter_append,List.filter_eq_self.2]
      · simp
      · intro id hid
        have hne : id ≠ ruleset.interceptorId := by
          rintro rfl
          exact hnew hid
        simpa using hne
    · intro id
      show get? (filterKeys (fun key => key ≠ ruleset.interceptorId) _) id = _
      rw [get?_filterKeys]
      by_cases hid : id = ruleset.interceptorId
      · simp [hid,hex]
      · simp [hid,setDefaultRuleStates,dropRuleStates]
    · intro id ruleId
      apply ruleEnabledState_congr
      apply get?_restored
      intro hk
      exact get?_setDefaultRuleStates hk
  | some entry =>
    cases replace with
    | false => simp [hex] at h
    | true =>
      simp only [hex,Option.isSome_some,Bool.not_true,Bool.and_false,Bool.false_eq_true,if_false,
        Option.isNone_some,Option.some.injEq,Prod.mk.injEq] at h
      obtain ⟨rfl,rfl⟩ := h
      constructor
      · rfl
      · intro id
        show get? (OrderedDict.set _ _ _) id = _
        by_cases hid : id = ruleset.interceptorId
        · simp [hid,hex]
        · simp [hid,setDefaultRuleStates,dropRuleStates]
      · intro id ruleId
        apply ruleEnabledState_congr
        apply get?_restored
        intro hk
        exact get?_setDefaultRuleStates hk

theorem enableDisable_undone {enable : Bool}
    (h : enableDisable interceptorId enable s = some (changed,undone)) : Same s undone := by
  unfold enableDisable at h
  split at h
  · cases h
  · split at h
    · cases h
    · rename_i entry hentry
      cases h
      refine ⟨rfl,fun id => ?_,fun _ _ => rfl⟩
      by_cases hid : id = interceptorId
      · simp [hid,hentry]
      · simp [hid]

theorem enableDisableRule_undone {interceptorId ruleId : String} {enable : Bool}
    (h : enableDisableRule interceptorId ruleId enable s = some (changed,undone)) :
    Same s undone := by
  unfold enableDisableRule at h
  simp only at h
  split at h
  · cases h
  · split at h
    · cases h
    · split at h
      · cases h
      · cases h
        refine ⟨rfl,fun _ => rfl,fun id rid => ?_⟩
        by_cases hkey : (id,rid) = (strip interceptorId,strip ruleId)
        · obtain ⟨rfl,rfl⟩ := Prod.mk.injEq .. ▸ hkey
          simp [ruleEnabledState]
        · simp [ruleEnabledState,hkey]

theorem enableDisableAll_undone (enable : Bool) (s : State) :
    Same s (enableDisableAll enable s).2 := by
  refine ⟨rfl,fun id => ?_,fun _ _ => rfl⟩
  cases hentry : s.entries.get? id with
  | none => simp [enableDisableAll,setAll,hentry]
  | some entry => simp [enableDisableAll,setAll,hentry]

theorem attempt_undone {repr : Value → String} {num : Numeric} {call : Call} (hs : Listed s)
    (h : attempt repr num s call = some (changed,undone)) : Same s undone := by
  cases call with
  | load raw source replace enable =>
    simp only [attempt] at h
    split at h
    · cases h
    · exact applyLoadedRuleset_undone hs h
  | enableDisable interceptorId enable => exact enableDisable_undone h
  | enableDisableRule interceptorId ruleId enable => exact enableDisableRule_undone h
  | enableDisableAll enable =>
    cases h
    exact enableDisableAll_undone enable s

theorem Same.listed (h : Same s t) (hs : Listed s) : Listed t := by
  intro id hid
  rw [h.entries]
  exact hs id (h.order ▸ hid)

section
variable (hs : Listed s)
include hs

theorem listed_set (interceptorId : String) (entry : RulesetEntry) :
    Listed { s with entries := s.entries.set interceptorId entry } := by
  intro id hid
  by_cases he : id = interceptorId
  · simp [he]
  · simpa [he] using hs id hid

theorem listed_append (interceptorId : String) (entry : RulesetEntry) (new : Bool) : Listed { s with
      entries := s.entries.set interceptorId entry
      order := if new then s.order ++ [interceptorId] else s.order } := by
  intro id hid
  cases new with
  | false => exact listed_set hs interceptorId entry id hid
  | true =>
    rcases List.mem_append.1 hid with hid | hid
    · exact listed_set hs interceptorId entry id hid
    · simp [List.mem_singleton.1 hid]

theorem listed_setDefaultRuleStates (interceptorId : String)
    (ruleset : Ruleset) : Listed (setDefaultRuleStates interceptorId ruleset s) := hs

theorem applyLoadedRuleset_listed {source : String} {replace : Bool} {enable : Value}
    (h : applyLoadedRuleset ruleset source replace enable s = some (changed,undone)) :
    Listed changed := by
  unfold applyLoadedRuleset at h
  simp only at h
  split at h
  · cases h
  · cases h
    apply listed_setDefaultRuleStates
    exact listed_append hs _ _ _

theorem attempt_listed {repr : Value → String} {num : Numeric} {call : Call}
    (h : attempt repr num s call = some (changed,undone)) : Listed changed := by
  cases call with
  | load raw source replace enable =>
    simp only [attempt] at h
    split at h
    · cases h
    · exact applyLoadedRuleset_listed hs h
  | enableDisable interceptorId enable =>
    simp only [attempt,Interlock.enableDisable] at h
    split at h
    · cases h
    · split at h
      · cases h
      · cases h
        exact listed_set hs _ _
  | enableDisableRule interceptorId ruleId enable =>
    simp only [attempt,Interlock.enableDisableRule] at h
    split at h
    · cases h
    · split at h
      · cases h
      · split at h
        · cases h
        · cases h
          exact hs
  | enableDisableAll enable =>
    cases h
    intro id hid
    simpa [Interlock.enableDisableAll,setAll] using hs id hid

theorem boot_listed {entries : List RulesetEntry} (h : boot entries s = .ok t) : Listed t := by
  induction entries generalizing s with
  | nil =>
    cases h
    exact hs
  | cons entry rest ih =>
    simp only [boot] at h
    split at h
    · cases h
    · exact ih (listed_setDefaultRuleStates (listed_append hs _ _ true) _ _) h

end

def Trimmed (name : String) : Prop := name ≠ "" ∧ strip name = name

instance (name : String) : Decidable (Trimmed name) := inferInstanceAs (Decidable (_ ∧ _))

def TrimmedPair (pair : String × String) : Prop := Trimmed pair.1 ∧ Trimmed pair.2

variable (repr : Value → String)

theorem readRoute_routeEntry {pair : String × String}
    (h : TrimmedPair pair) : readRoute repr (routeEntry pair.1 pair.2) = .ok pair := by
  obtain ⟨⟨hne₁,hs₁⟩,hne₂,hs₂⟩ := h
  simp [readRoute,routeEntry,getD,item?,Value.text,hs₁,hs₂,hne₁,hne₂]

theorem mem_routesForEnabledRules {pair : String × String} :
    pair ∈ routesForEnabledRules s ↔ ∃ rule ∈ enabledRules s, (rule.deviceId,rule.action) = pair := by
  have hfold : ∀ (rules : List Rule) (routes : List (String × String)),
      pair ∈ rules.foldl (fun routes rule =>
        if (rule.deviceId,rule.action) ∈ routes then routes
        else routes ++ [(rule.deviceId,rule.action)]) routes ↔
      pair ∈ routes ∨ ∃ rule ∈ rules, (rule.deviceId,rule.action) = pair := by
    intro rules
    induction rules with
    | nil => simp
    | cons rule rest ih =>
      intro routes
      rw [List.foldl_cons,ih]
      split
      · rename_i hmem
        constructor
        · rintro (h | ⟨r,hr,he⟩)
          · exact .inl h
          · exact .inr ⟨r,by simp [hr],he⟩
        · rintro (h | ⟨r,hr,he⟩)
          · exact .inl h
          · rcases List.mem_cons.1 hr with rfl | hr
            · exact .inl (he ▸ hmem)
            · exact .inr ⟨r,hr,he⟩
      · simp only [List.mem_append,List.mem_cons,List.not_mem_nil,or_false,exists_eq_or_imp]
        rw [eq_comm (a := pair)]
        tauto
  have h := hfold (enabledRules s) []
  simpa [routesForEnabledRules] using h

theorem registerRoutes_mem (processId : String)
    (pairs : List (String × String)) (hpairs : ∀ pair ∈ pairs, TrimmedPair pair)
    (seen : List (String × String)) (added : List CommandInterceptorRoute)
    (st : InterceptorRouteState)
    (hseen : ∀ pair ∈ seen, ∃ order, ⟨processId,pair.1,pair.2,order⟩ ∈ st.routes) :
    ∀ pair ∈ seen ++ pairs, ∃ order, ⟨processId,pair.1,pair.2,order⟩ ∈
      (registerRoutes repr processId (pairs.map fun r => routeEntry r.1 r.2) seen added st).2.routes := by
  induction pairs generalizing seen added st with
  | nil =>
    intro pair hp
    exact hseen pair (by simpa using hp)
  | cons first rest ih =>
    have hread := readRoute_routeEntry repr (hpairs first (by simp))
    have hrest : ∀ pair ∈ rest, TrimmedPair pair := fun pair hp => hpairs pair (by simp [hp])
    intro pair hp
    simp only [List.map_cons,registerRoutes,hread]
    split
    · rename_i hmem
      apply ih hrest _ _ _ hseen
      simp only [List.mem_append,List.mem_cons] at hp ⊢
      rcases hp with hp | rfl | hp
      · exact .inl hp
      · exact .inl hmem
      · exact .inr hp
    · apply ih hrest
      · intro q hq
        rcases List.mem_cons.1 hq with rfl | hq
        · exact ⟨st.nextOrder+1,by simp⟩
        · obtain ⟨order,ho⟩ := hseen q hq
          exact ⟨order,by simp [ho]⟩
      · rcases List.mem_append.1 hp with hp | hp
        · simp [hp]
        · rcases List.mem_cons.1 hp with rfl | hp
          · simp
          · simp [hp]

variable {pairs : List (String × String)}

theorem registerAll_isOk (processId : String) (hpairs : ∀ pair ∈ pairs, TrimmedPair pair)
    (m : InterceptorRouteState) : ∃ added, (registerAll repr processId pairs m).1 = .ok added := by
  have hok := (registerRoutes_isOk repr processId (pairs.map fun r => routeEntry r.1 r.2) [] []
    (dropProcess m processId).2).2 (by
      intro item hi
      obtain ⟨pair,hp,rfl⟩ := List.mem_map.1 hi
      rw [readRoute_routeEntry repr (hpairs pair hp)]
      rfl)
  have hdef : registerAll repr processId pairs m = registerRoutes repr processId
      (pairs.map fun r => routeEntry r.1 r.2) [] [] (dropProcess m processId).2 := rfl
  rw [← hdef] at hok
  cases h : (registerAll repr processId pairs m).1 with
  | error e => simp [h,Except.isOk,Except.toBool] at hok
  | ok added => exact ⟨added,rfl⟩

theorem guarded_registerAll (processId : String) (hpairs : ∀ pair ∈ pairs, TrimmedPair pair)
    (m : InterceptorRouteState) {rule : Rule} (hmem : (rule.deviceId,rule.action) ∈ pairs) :
    Guarded processId (registerAll repr processId pairs m).2.routes rule := by
  obtain ⟨order,ho⟩ := registerRoutes_mem repr processId pairs hpairs [] []
    (dropProcess m processId).2 (by simp) (rule.deviceId,rule.action) (by simpa using hmem)
  exact ⟨_,ho,rfl,by simp [matchCommandInterceptorRoute]⟩

def empty : State := ⟨.empty,[],.empty⟩

section
variable {repr : Value → String} {num : Numeric} {processId : String}

def Covers (pairs : List (String × String)) (s : State) : Prop :=
  (∀ pair ∈ pairs, TrimmedPair pair) ∧ ∀ rule ∈ enabledRules s, (rule.deviceId,rule.action) ∈ pairs

variable (repr num) in
def CleanEvent (sys : System) : Event → Prop
  | .call call fate => ∀ changed undone,
    attempt repr num sys.interlock call = some (changed,undone) →
      match fate with
      | .answered => ∀ pair ∈ routesForEnabledRules changed, TrimmedPair pair
      | .replyLost => Covers (routesForEnabledRules changed) sys.interlock
      | .requestLost | .late => True
  | .deliver i => ∀ pairs, sys.late[i]? = some pairs → Covers pairs sys.interlock

variable (repr processId) in
def booted (s : State) (m : InterceptorRouteState) : System :=
  ⟨s,(registerAll repr processId (routesForEnabledRules s) m).2,[]⟩

variable (repr num processId) in
inductive CleanReachable : System → Prop where
  | boot {entries : List RulesetEntry} {s : State} (m : InterceptorRouteState) :
      boot entries empty = .ok s → (∀ pair ∈ routesForEnabledRules s, TrimmedPair pair) →
      CleanReachable (booted repr processId s m)
  | step {sys : System} {event : Event} :
      CleanReachable sys → CleanEvent repr num sys event →
      CleanReachable (sys.step repr num processId event)

theorem agrees_of_registered {s : State} {m : InterceptorRouteState}
    (h : ∀ pair ∈ routesForEnabledRules s, TrimmedPair pair) {rule : Rule}
    (hr : rule ∈ enabledRules s) :
    Guarded processId (registerAll repr processId (routesForEnabledRules s) m).2.routes rule :=
  guarded_registerAll repr processId h m (mem_routesForEnabledRules.2 ⟨rule,hr,rfl⟩)

variable {sys : System}

theorem serve_agrees {changed undone : State} {fate : Fate}
    (hsame : Same sys.interlock undone) (hagrees : Agrees processId sys)
    (hclean : match fate with
      | .answered => ∀ pair ∈ routesForEnabledRules changed, TrimmedPair pair
      | .replyLost => Covers (routesForEnabledRules changed) sys.interlock
      | .requestLost | .late => True) :
    Agrees processId (serve repr processId changed undone fate sys) := by
  have hrules := hsame.enabledRules
  cases fate with
  | answered =>
    obtain ⟨added,hok⟩ := registerAll_isOk repr processId hclean sys.manager
    intro rule hr
    simp only [serve,hok] at hr ⊢
    exact agrees_of_registered hclean hr
  | requestLost =>
    intro rule hr
    simp only [serve,hrules] at hr ⊢
    exact hagrees rule hr
  | replyLost =>
    intro rule hr
    simp only [serve,hrules] at hr ⊢
    exact guarded_registerAll repr processId hclean.1 _ (hclean.2 rule hr)
  | late =>
    intro rule hr
    simp only [serve,hrules] at hr ⊢
    exact hagrees rule hr

theorem serve_listed {changed undone : State} (fate : Fate) (sys : System)
    (hchanged : Listed changed) (hundone : Listed undone) :
    Listed (serve repr processId changed undone fate sys).interlock := by
  cases fate with
  | answered =>
    simp only [serve]
    split
    · exact hchanged
    · exact hundone
  | requestLost => exact hundone
  | replyLost => exact hundone
  | late => exact hundone

theorem step_listed (hs : Listed sys.interlock) (event : Event) :
    Listed (sys.step repr num processId event).interlock := by
  cases event with
  | call call fate =>
    simp only [System.step]
    split
    · exact hs
    · rename_i changed undone h
      exact serve_listed fate sys (attempt_listed hs h) ((attempt_undone hs h).listed hs)
  | deliver i =>
    simp only [System.step]
    split
    · exact hs
    · exact hs

theorem step_agrees (hs : Listed sys.interlock) (h : Agrees processId sys)
    {event : Event} (hclean : CleanEvent repr num sys event) :
    Agrees processId (sys.step repr num processId event) := by
  cases event with
  | call call fate =>
    simp only [System.step]
    split
    · exact h
    · rename_i changed undone hattempt
      exact serve_agrees (attempt_undone hs hattempt) h (hclean changed undone hattempt)
  | deliver i =>
    simp only [System.step]
    split
    · exact h
    · rename_i pairs hpairs
      obtain ⟨htrimmed,hcover⟩ := hclean pairs hpairs
      intro rule hr
      exact guarded_registerAll repr processId htrimmed _ (hcover rule hr)

theorem cleanReachable_listed (h : CleanReachable repr num processId sys) :
    Listed sys.interlock := by
  induction h with
  | boot m hboot _ => exact boot_listed (by simp [Listed,empty]) hboot
  | step _ _ ih => exact step_listed ih _

/-- In every run of clean steps, each rule that the interlock reports as enabled is guarded by a
route of its process at the manager. -/
theorem enabled_rules_guarded {sys : System} (h : CleanReachable repr num processId sys) :
    Agrees processId sys := by
  induction h with
  | boot m _ htrimmed =>
    intro rule hr
    exact agrees_of_registered htrimmed hr
  | step hreach hclean ih => exact step_agrees (cleanReachable_listed hreach) ih hclean

end

def outputGuard : Rule :=
  ⟨"r0","output","hv","enable_output",[],.bool true,none,none,none⟩

def outputRuleset : RulesetEntry := ⟨⟨"hv-guard",defaultMaxAge,[outputGuard]⟩,true,none⟩

def guardedSystem : System :=
  match boot [outputRuleset] empty with
  | .ok s => booted (fun _ => "") "interlock" s (.new 2048)
  | .error _ => ⟨empty,.new 2048,[]⟩

theorem trimmed_of_pairs
    (h : pairs.all (fun pair => decide (Trimmed pair.1 ∧ Trimmed pair.2)) = true) :
    ∀ pair ∈ pairs, TrimmedPair pair := by
  intro pair hp
  have := List.all_eq_true.1 h pair hp
  simpa [TrimmedPair] using this

theorem guardedSystem_reachable :
    CleanReachable (fun _ => "") .bits "interlock" guardedSystem := by
  have h : boot [outputRuleset] empty = .ok guardedSystem.interlock := rfl
  exact .boot (.new 2048) h (trimmed_of_pairs (by decide +kernel))

def disableGuard : Call := .enableDisable "hv-guard" false

def enableGuard : Call := .enableDisable "hv-guard" true

def afterCalls (events : List Event) : System :=
  events.foldl (fun sys event => sys.step (fun _ => "") .bits "interlock" event) guardedSystem

/-- A request to disable the ruleset is still on its way when the interlock gives up, and the reply
to a request to enable it is lost: the rule is enabled and guarded. -/
theorem lost_enable_guarded :
    let sys := afterCalls [.call disableGuard .late,.call enableGuard .replyLost]
    (enabledRules sys.interlock).map (fun rule => (rule.deviceId,rule.action)) =
        [("hv","enable_output")] ∧
      Agrees "interlock" sys := by
  have hdisable : CleanEvent (fun _ => "") .bits guardedSystem (.call disableGuard .late) :=
    fun _ _ _ => trivial
  have hlate : CleanReachable (fun _ => "") .bits "interlock"
      (afterCalls [.call disableGuard .late]) := guardedSystem_reachable.step hdisable
  have hroutes : routesForEnabledRules (afterCalls [.call disableGuard .late]).interlock =
      [("hv","enable_output")] := by decide +kernel
  have hclean : CleanEvent (fun _ => "") .bits (afterCalls [.call disableGuard .late])
      (.call enableGuard .replyLost) := by
    intro changed undone h
    have hrun : (attempt (fun _ => "") .bits
        (afterCalls [.call disableGuard .late]).interlock enableGuard).map
          (fun states => routesForEnabledRules states.1) = some [("hv","enable_output")] := by
      decide +kernel
    have hchanged : routesForEnabledRules changed = [("hv","enable_output")] := by
      rw [h] at hrun
      simpa using hrun
    show Covers (routesForEnabledRules changed) _
    rw [hchanged]
    refine ⟨trimmed_of_pairs (by decide +kernel),fun rule hr => ?_⟩
    rw [← hroutes]
    exact mem_routesForEnabledRules.2 ⟨rule,hr,rfl⟩
  exact ⟨by decide +kernel,enabled_rules_guarded (hlate.step hclean)⟩

theorem lost_disable_unguarded :
    let sys := afterCalls [.call disableGuard .replyLost]
    (enabledRules sys.interlock).map (fun rule => (rule.deviceId,rule.action)) =
        [("hv","enable_output")] ∧
      sys.manager.routes = [] ∧ ¬ Agrees "interlock" sys := by
  intro sys
  have hroutes : sys.manager.routes = [] := by decide +kernel
  have hrule : routesForEnabledRules sys.interlock = [("hv","enable_output")] := by decide +kernel
  refine ⟨by decide +kernel,hroutes,fun hagrees => ?_⟩
  obtain ⟨rule,hr,-⟩ := mem_routesForEnabledRules.1 (hrule ▸ List.mem_singleton_self _)
  obtain ⟨route,hmem,-⟩ := hagrees rule hr
  rw [hroutes] at hmem
  cases hmem

end ExperimentControl.Interlock

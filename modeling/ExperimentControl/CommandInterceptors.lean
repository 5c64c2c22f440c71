import ExperimentControl.Python.Value

/-!
The chain of interceptors that a device command goes through
(`utils/command_interceptors.py`). The processes behind the routes are untrusted:
whether they are available and what they answer is up to them.
-/

namespace ExperimentControl.CommandInterceptors
open Python List

/-- `CallResult`: the status of the call, the reply and the error of the call. -/
structure CallResult where
  status : String
  response : Value
  error : Option String

/-- What the chain calls and what it takes from Python: `available` and `call` are the
processes behind the routes, `eq` is `==` on JSON values. -/
structure Peers (World : Type) where
  repr : Value → String
  eq : Value → Value → Bool
  now : World → UInt64 × World
  available : String → World → Bool × World
  call : String → Entries → World → CallResult × World
  publish : String → Entries → World → World

variable {World : Type}

structure Command where
  deviceId : String
  action : String
  params : Value
  deriving DecidableEq

def Command.entries (c : Command) : Entries :=
  [("device_id",.str c.deviceId),("action",.str c.action),("params",c.params)]

structure Site where
  processId : String
  deviceId : String
  action : String

def Site.quoted (site : Site) (repr : Value → String) : String := repr (.str site.processId)

def Site.target (site : Site) : String := site.deviceId ++ "." ++ site.action

/-- A keyword argument that is left out of the result when it is `None`. -/
def optional (key : String) : Value → Entries
  | .none => []
  | v => [(key,v)]

def buildInterceptorError (code message : String) (site : Site) (interceptorId : Value := .none)
    (rule : Value := .none) (details : Value := .none) : Entries :=
  [("kind",.str "command_interceptor"),("code",.str code),("message",.str message),
    ("process_id",.str site.processId),("device_id",.str site.deviceId),
    ("action",.str site.action)] ++ optional "interceptor_id" interceptorId ++
    optional "rule" rule ++ optional "details" details

def emitInterceptorError (peers : Peers World) (err : Entries) (command : Command) (w : World) :
    World :=
  peers.publish "manager.command_interceptor.error"
    [("error",.dict false err),("command",.dict false command.entries)] w

def validateRouteAvailability (peers : Peers World) (site : Site) (w : World) :
    Option Entries × World :=
  if site.processId = "" then
    (some (buildInterceptorError "INTERCEPTOR_BAD_ROUTE"
      ("Interceptor route missing process_id for " ++ site.target) site),w)
  else
    let (free,w) := peers.available site.processId w
    if free then (none,w)
    else (some (buildInterceptorError "INTERCEPTOR_UNAVAILABLE"
      ("Interceptor " ++ site.quoted peers.repr ++ " unavailable for " ++ site.target) site),w)

def buildCallError (repr : Value → String) (site : Site) (statusText : String)
    (callError : Option String) : Option Entries :=
  if statusText = "ok" then none
  else if statusText = "timeout" then
    some (buildInterceptorError "INTERCEPTOR_TIMEOUT"
      ("Interceptor " ++ site.quoted repr ++ " timed out for " ++ site.target) site)
  else
    let message := match callError with
      | none | some "" =>
        "Interceptor " ++ site.quoted repr ++ " unavailable for " ++ site.target
      | some e => "Interceptor " ++ site.quoted repr ++ " failed for " ++ site.target ++ ": " ++ e
    some (buildInterceptorError "INTERCEPTOR_UNAVAILABLE" message site)

def get (entries : Entries) (key : String) : Value := getD entries key .none

def validateInterceptorResponse (repr : Value → String) (site : Site) (response : Value)
    (distinctOkFalseMessage : Bool) : Except Entries Entries :=
  let invalid := "Interceptor " ++ site.quoted repr ++ " returned invalid response"
  match response with
  | .dict _ entries =>
    if get entries "ok" = .bool false then
      let message := if distinctOkFalseMessage then
        "Interceptor " ++ site.quoted repr ++ " returned error response" else invalid
      .error (buildInterceptorError "INTERCEPTOR_BAD_RESPONSE" message site .none .none
        (.dict false [("response",response)]))
    else .ok entries
  | _ => .error (buildInterceptorError "INTERCEPTOR_BAD_RESPONSE" invalid site .none .none
      (.dict false [("response",response)]))

def badResponse (repr : Value → String) (site : Site) (what : String) : Entries :=
  buildInterceptorError "INTERCEPTOR_BAD_RESPONSE"
    ("Interceptor " ++ site.quoted repr ++ " " ++ what) site

/-- The command of an allowing reply, with the event to publish if it is a new one. -/
def applyAllowResponse (peers : Peers World) (site : Site) (response : Entries)
    (current : Command) : Except Entries (Command × Option Entries) :=
  match item? response "command" with
  | none => .ok (current,none)
  | some (.dict _ raw) =>
    let newDevice := (getD raw "device_id" (.str site.deviceId)).text peers.repr
    let newAction := (getD raw "action" (.str site.action)).text peers.repr
    if newDevice ≠ site.deviceId || newAction ≠ site.action then
      .error (badResponse peers.repr site "attempted to change route")
    else
      let newParams := getD raw "params" current.params
      if !isMapping newParams then
        .error (badResponse peers.repr site "returned invalid params")
      else
        let new : Command := ⟨site.deviceId,site.action,newParams⟩
        if peers.eq (.dict false new.entries) (.dict false current.entries) then .ok (new,none)
        else .ok (new,some [("process_id",.str site.processId),
          ("interceptor_id",get response "interceptor_id"),("rule",get response "rule"),
          ("note",get response "note"),("before",.dict false current.entries),
          ("after",.dict false new.entries)])
  | some _ => .error (badResponse peers.repr site "returned invalid command")

/-- `response.get("error") or {}`, of which `.get` is then called. -/
def innerError (response : Entries) : Except PyExc Entries :=
  match get response "error" with
  | .dict _ entries => .ok entries
  | v =>
    if v.truthy then .error ⟨.attributeError,"object has no attribute 'get'"⟩ else .ok []

def buildRejectError (repr : Value → String) (site : Site) (response : Entries) :
    Except PyExc Entries := do
  let inner ← innerError response
  let code := (getD inner "code" (.str "CONDITION_FAILED")).text repr
  let message := (getD inner "message" (.str "Command rejected by interceptor")).text repr
  pure (buildInterceptorError "INTERCEPTOR_REJECTED" message site (get response "interceptor_id")
    (get response "rule") (.dict false [("code",.str code),("message",.str message),
      ("details",getD inner "details" (.dict false []))]))

structure Caller where
  requestId : Value
  processId : Value
  distinctOkFalseMessage : Bool

def buildInterceptorRequest (current : Command) (caller : Caller) (t : UInt64) : Entries :=
  let info : Entries := [("request_id",caller.requestId),("t_mono",.float t)] ++
    if caller.processId.truthy then [("caller_process_id",caller.processId)] else []
  [("type",.str "command_interceptor.check"),("command",.dict false current.entries),
    ("meta",.dict false info)]

def callInterceptorChecked (peers : Peers World) (caller : Caller) (site : Site)
    (request : Entries) (w : World) : Except Entries Entries × World :=
  let (result,w) := peers.call site.processId request w
  match buildCallError peers.repr site (strip result.status).toLower result.error with
  | some err => (.error err,w)
  | none => (validateInterceptorResponse peers.repr site result.response
      caller.distinctOkFalseMessage,w)

/-- `_apply_interceptor_decision`: the next command, or the error of the refusal. -/
def applyInterceptorDecision (peers : Peers World) (site : Site) (response : Entries)
    (current : Command) (w : World) : Except PyExc (Except Entries Command) × World :=
  match get response "allow" with
  | .bool true =>
    match applyAllowResponse peers site response current with
    | .error err => (.ok (.error err),w)
    | .ok (new,none) => (.ok (.ok new),w)
    | .ok (new,some event) =>
      (.ok (.ok new),peers.publish "manager.command_interceptor.modified" event w)
  | .bool false =>
    match buildRejectError peers.repr site response with
    | .error e => (.error e,w)
    | .ok err => (.ok (.error err),w)
  | _ => (.ok (.error (buildInterceptorError "INTERCEPTOR_BAD_RESPONSE"
      ("Interceptor " ++ site.quoted peers.repr ++ " returned invalid response") site .none .none
      (.dict false [("response",.dict false response)]))),w)

def applyInterceptorStep (peers : Peers World) (caller : Caller) (processId : String)
    (current : Command) (w : World) : Except PyExc (Except Entries Command) × World :=
  let site : Site := ⟨strip processId,current.deviceId,current.action⟩
  match validateRouteAvailability peers site w with
  | (some err,w) => (.ok (.error err),emitInterceptorError peers err current w)
  | (none,w) =>
    let (t,w) := peers.now w
    match callInterceptorChecked peers caller site (buildInterceptorRequest current caller t) w with
    | (.error err,w) => (.ok (.error err),emitInterceptorError peers err current w)
    | (.ok response,w) =>
      match applyInterceptorDecision peers site response current w with
      | (.error e,w) => (.error e,w)
      | (.ok (.error err),w) => (.ok (.error err),emitInterceptorError peers err current w)
      | (.ok (.ok new),w) => (.ok (.ok new),w)

def applyChain (peers : Peers World) (caller : Caller) :
    List String → Command → World → Except PyExc (Except Entries Command) × World
  | [],current,w => (.ok (.ok current),w)
  | processId :: rest,current,w =>
    match applyInterceptorStep peers caller processId current w with
    | (.error e,w) => (.error e,w)
    | (.ok (.error err),w) => (.ok (.error err),w)
    | (.ok (.ok next),w) => applyChain peers caller rest next w

def initialCommand (repr : Value → String) (initial : Entries) : Command :=
  ⟨(getD initial "device_id" (.str "")).text repr,(getD initial "action" (.str "")).text repr,
    getD initial "params" (.dict false [])⟩

def applyCommandInterceptorChain (peers : Peers World) (caller : Caller) (initial : Entries)
    (chain : List String) (w : World) : Except PyExc (Except Entries Command) × World :=
  applyChain peers caller chain (initialCommand peers.repr initial) w

section
variable (peers : Peers World) (caller : Caller)

def exchange (processId : String) (current : Command) (w : World) : CallResult × World :=
  let (t,w) := peers.now (peers.available (strip processId) w).2
  peers.call (strip processId) (buildInterceptorRequest current caller t) w

/-- The process is there and answers the command with an object that is no error. -/
structure Answers (processId : String) (current : Command) (w : World) (response : Entries) :
    Prop where
  named : strip processId ≠ ""
  available : (peers.available (strip processId) w).1 = true
  status : (strip (exchange peers caller processId current w).1.status).toLower = "ok"
  reply : ∃ attr, (exchange peers caller processId current w).1.response = .dict attr response
  ok : get response "ok" ≠ .bool false

def Admissible (response : Entries) (current : Command) : Prop :=
  match item? response "command" with
  | none => True
  | some (.dict _ raw) =>
    (getD raw "device_id" (.str current.deviceId)).text peers.repr = current.deviceId ∧
      (getD raw "action" (.str current.action)).text peers.repr = current.action ∧
      isMapping (getD raw "params" current.params) = true
  | some _ => False

def rewritten (params : Value) (response : Entries) : Value :=
  match item? response "command" with
  | some (.dict _ raw) => getD raw "params" params
  | _ => params

/-- Every process of the chain is asked about the command that those before it have made
and allows it. -/
inductive Passes : List String → Command → World → List Entries → Command → World → Prop
  | nil {c : Command} {w : World} : Passes [] c w [] c w
  | cons {processId : String} {rest : List String} {c c' : Command} {w w' : World}
      {response : Entries} {responses : List Entries}
      (answers : Answers peers caller processId c w response)
      (allow : get response "allow" = .bool true) (admissible : Admissible peers response c)
      (hrest : Passes rest { c with params := rewritten c.params response }
        (applyInterceptorStep peers caller processId c w).2 responses c' w') :
      Passes (processId :: rest) c w (response :: responses) c' w'

end

section
variable {peers : Peers World} {caller : Caller} {processId : String} {c c' : Command} {w w' : World}

theorem buildCallError_eq_none {repr : Value → String} {site : Site} {statusText : String}
    {callError : Option String} :
    buildCallError repr site statusText callError = none ↔ statusText = "ok" := by
  unfold buildCallError
  by_cases hok : statusText = "ok"
  · simp [hok]
  · by_cases htimeout : statusText = "timeout"
    · simp [htimeout]
    · simp [hok,htimeout]

theorem validateInterceptorResponse_eq_ok {repr : Value → String} {site : Site} {response : Value}
    {distinct : Bool} {entries : Entries} :
    validateInterceptorResponse repr site response distinct = .ok entries ↔
      (∃ attr, response = .dict attr entries) ∧ get entries "ok" ≠ .bool false := by
  unfold validateInterceptorResponse
  cases response with
  | dict attr found =>
    by_cases hok : get found "ok" = .bool false
    · simp only [hok,if_true]
      constructor
      · intro h
        cases h
      · rintro ⟨⟨_,heq⟩,hne⟩
        cases heq
        exact absurd hok hne
    · simp only [hok,if_false]
      constructor
      · intro h
        cases h
        exact ⟨⟨attr,rfl⟩,hok⟩
      · rintro ⟨⟨_,heq⟩,_⟩
        cases heq
        rfl
  | none | bool _ | int _ | float _ | str _ | list _ => simp

variable {response : Entries}

theorem applyInterceptorStep_of_answers (h : Answers peers caller processId c w response) :
    applyInterceptorStep peers caller processId c w =
      match applyInterceptorDecision peers ⟨strip processId,c.deviceId,c.action⟩ response c
        (exchange peers caller processId c w).2 with
      | (.error e,w) => (.error e,w)
      | (.ok (.error err),w) => (.ok (.error err),emitInterceptorError peers err c w)
      | (.ok (.ok new),w) => (.ok (.ok new),w) := by
  obtain ⟨attr,hreply⟩ := h.reply
  have hstatus := h.status
  unfold exchange at hreply hstatus
  unfold applyInterceptorStep
  simp only [validateRouteAvailability,h.named,h.available,if_false,if_true]
  simp only [callInterceptorChecked,hstatus,hreply,buildCallError,if_true,
    validateInterceptorResponse,h.ok,if_false]
  rfl

theorem applyInterceptorStep_of_no_answer
    (h : ¬ ∃ response, Answers peers caller processId c w response) :
    ∃ err w₁, applyInterceptorStep peers caller processId c w = (.ok (.error err),w₁) := by
  unfold applyInterceptorStep
  by_cases hnamed : strip processId = ""
  · simp [validateRouteAvailability,hnamed]
  cases havail : (peers.available (strip processId) w).1 with
  | false => simp [validateRouteAvailability,hnamed,havail]
  | true =>
    simp only [validateRouteAvailability,hnamed,havail,if_false,if_true,callInterceptorChecked]
    cases hcall : buildCallError peers.repr ⟨strip processId,c.deviceId,c.action⟩
        (strip (exchange peers caller processId c w).1.status).toLower
        (exchange peers caller processId c w).1.error with
    | some err =>
      unfold exchange at hcall
      simp [hcall]
    | none =>
      cases hvalid : validateInterceptorResponse peers.repr ⟨strip processId,c.deviceId,c.action⟩
          (exchange peers caller processId c w).1.response caller.distinctOkFalseMessage with
      | error err =>
        unfold exchange at hcall hvalid
        simp [hcall,hvalid]
      | ok response =>
        obtain ⟨hreply,hok⟩ := validateInterceptorResponse_eq_ok.1 hvalid
        have hstatus := buildCallError_eq_none.1 hcall
        exact absurd ⟨response,hnamed,havail,hstatus,hreply,hok⟩ h

variable (processId) in
theorem applyAllowResponse_spec (response : Entries) :
    (∀ new event, applyAllowResponse peers ⟨strip processId,c.deviceId,c.action⟩ response c =
        .ok (new,event) →
      Admissible peers response c ∧ new = { c with params := rewritten c.params response }) ∧
    (Admissible peers response c → ∃ event,
      applyAllowResponse peers ⟨strip processId,c.deviceId,c.action⟩ response c =
        .ok ({ c with params := rewritten c.params response },event)) := by
  unfold applyAllowResponse Admissible rewritten
  cases hitem : item? response "command" with
  | none => simp
  | some v =>
    cases v with
    | dict attr raw =>
      dsimp only
      by_cases hroute : (getD raw "device_id" (.str c.deviceId)).text peers.repr = c.deviceId ∧
          (getD raw "action" (.str c.action)).text peers.repr = c.action
      · cases hparams : isMapping (getD raw "params" c.params) with
        | false => simp [hroute]
        | true =>
          simp only [hroute]
          simp
          split <;> simp
      · have hne : ((getD raw "device_id" (.str c.deviceId)).text peers.repr ≠ c.deviceId ||
            (getD raw "action" (.str c.action)).text peers.repr ≠ c.action) = true := by
          simp only [ne_eq,Bool.or_eq_true,decide_eq_true_eq]
          exact not_and_or.1 hroute
        rw [if_pos hne]
        constructor
        · intro new event h
          cases h
        · intro h
          exact absurd ⟨h.1,h.2.1⟩ hroute
    | none | bool _ | int _ | float _ | str _ | list _ => simp

/-- The `error` of a refusal, if there is one, is no object. -/
def Unreadable (response : Entries) : Prop :=
  (get response "error").truthy = true ∧ isMapping (get response "error") = false

theorem innerError_eq_error : (∃ e, innerError response = .error e) ↔ Unreadable response := by
  unfold innerError Unreadable
  cases get response "error" with
  | dict attr entries => simp [isMapping]
  | none | bool _ | int _ | float _ | str _ | list _ =>
    dsimp only [isMapping]
    split <;> simp [*]

theorem applyInterceptorStep_accepts
    (h : Answers peers caller processId c w response) (hallow : get response "allow" = .bool true)
    (hadm : Admissible peers response c) : (applyInterceptorStep peers caller processId c w).1 =
      .ok (.ok { c with params := rewritten c.params response }) := by
  obtain ⟨event,hevent⟩ := (applyAllowResponse_spec processId response).2 hadm
  rw [applyInterceptorStep_of_answers h]
  simp only [applyInterceptorDecision,hallow,hevent]
  cases event <;> rfl

theorem applyInterceptorStep_raises
    (h : Answers peers caller processId c w response) (hallow : get response "allow" = .bool false)
    (herr : Unreadable response) :
    ∃ e, (applyInterceptorStep peers caller processId c w).1 = .error e := by
  obtain ⟨e,he⟩ := innerError_eq_error.2 herr
  rw [applyInterceptorStep_of_answers h]
  refine ⟨e,?_⟩
  simp only [applyInterceptorDecision,hallow,buildRejectError,he]
  rfl

variable (peers caller processId c w) in
theorem applyInterceptorStep_cases : (∃ response, Answers peers caller processId c w response ∧
      get response "allow" = .bool true ∧ Admissible peers response c ∧
      (applyInterceptorStep peers caller processId c w).1 =
        .ok (.ok { c with params := rewritten c.params response })) ∨
    (∃ err, (applyInterceptorStep peers caller processId c w).1 = .ok (.error err)) ∨
    (∃ response e, Answers peers caller processId c w response ∧
      get response "allow" = .bool false ∧ Unreadable response ∧
      (applyInterceptorStep peers caller processId c w).1 = .error e) := by
  by_cases hanswer : ∃ response, Answers peers caller processId c w response
  · obtain ⟨response,h⟩ := hanswer
    by_cases htrue : get response "allow" = .bool true
    · by_cases hadm : Admissible peers response c
      · exact .inl ⟨response,h,htrue,hadm,applyInterceptorStep_accepts h htrue hadm⟩
      · refine .inr (.inl ?_)
        rw [applyInterceptorStep_of_answers h]
        simp only [applyInterceptorDecision,htrue]
        cases hr : applyAllowResponse peers ⟨strip processId,c.deviceId,c.action⟩ response c with
        | error err => exact ⟨err,rfl⟩
        | ok r =>
          exact absurd ((applyAllowResponse_spec processId response).1 r.1 r.2 hr).1 hadm
    · by_cases hfalse : get response "allow" = .bool false
      · cases hinner : innerError response with
        | error e =>
          have herr := innerError_eq_error.1 ⟨e,hinner⟩
          obtain ⟨e,he⟩ := applyInterceptorStep_raises h hfalse herr
          exact .inr (.inr ⟨response,e,h,hfalse,herr,he⟩)
        | ok inner =>
          refine .inr (.inl ?_)
          rw [applyInterceptorStep_of_answers h]
          simp only [applyInterceptorDecision,hfalse,buildRejectError,hinner]
          exact ⟨_,rfl⟩
      · have hother : ∃ err, applyInterceptorDecision peers ⟨strip processId,c.deviceId,c.action⟩
            response c (exchange peers caller processId c w).2 =
              (.ok (.error err),(exchange peers caller processId c w).2) := by
          unfold applyInterceptorDecision
          split
          · exact absurd ‹_› htrue
          · exact absurd ‹_› hfalse
          · exact ⟨_,rfl⟩
        obtain ⟨err,herr⟩ := hother
        refine .inr (.inl ⟨err,?_⟩)
        rw [applyInterceptorStep_of_answers h,herr]
  · obtain ⟨err,w₁,h⟩ := applyInterceptorStep_of_no_answer hanswer
    exact .inr (.inl ⟨err,by rw [h]⟩)

theorem applyChain_cons (processId : String) (rest : List String) (c : Command) (w : World) :
    applyChain peers caller (processId :: rest) c w =
      match (applyInterceptorStep peers caller processId c w).1 with
      | .error e => (.error e,(applyInterceptorStep peers caller processId c w).2)
      | .ok (.error err) => (.ok (.error err),(applyInterceptorStep peers caller processId c w).2)
      | .ok (.ok next) =>
        applyChain peers caller rest next (applyInterceptorStep peers caller processId c w).2 := by
  rw [applyChain]
  rcases hstep : applyInterceptorStep peers caller processId c w with ⟨r,w₁⟩
  cases r with
  | error e => rfl
  | ok r => cases r <;> rfl

def Refuses (peers : Peers World) (caller : Caller) (chain : List String) (c : Command) (w : World)
    (P : String → Command → World → Prop) : Prop :=
  ∃ before processId after responses c₁ w₁, chain = before ++ processId :: after ∧
    Passes peers caller before c w responses c₁ w₁ ∧ P processId c₁ w₁

theorem Refuses.cons {rest : List String} {P : String → Command → World → Prop}
    (hrest : Refuses peers caller rest { c with params := rewritten c.params response }
      (applyInterceptorStep peers caller processId c w).2 P)
    (h : Answers peers caller processId c w response) (hallow : get response "allow" = .bool true)
    (hadm : Admissible peers response c) : Refuses peers caller (processId :: rest) c w P := by
  obtain ⟨before,refuser,after,responses,c₁,w₁,rfl,hpass,hP⟩ := hrest
  exact ⟨processId :: before,refuser,after,response :: responses,c₁,w₁,rfl,
    .cons h hallow hadm hpass,hP⟩

variable (peers caller) in
theorem applyChain_cases (chain : List String) (c : Command) (w : World) :
    (∃ responses c' w', Passes peers caller chain c w responses c' w' ∧
      applyChain peers caller chain c w = (.ok (.ok c'),w')) ∨
    (∃ err w', applyChain peers caller chain c w = (.ok (.error err),w') ∧
      Refuses peers caller chain c w fun processId c₁ w₁ =>
        applyInterceptorStep peers caller processId c₁ w₁ = (.ok (.error err),w')) ∨
    (∃ e w', applyChain peers caller chain c w = (.error e,w') ∧
      Refuses peers caller chain c w fun processId c₁ w₁ => ∃ response,
        Answers peers caller processId c₁ w₁ response ∧ get response "allow" = .bool false ∧
          Unreadable response) := by
  induction chain generalizing c w with
  | nil => exact .inl ⟨[],c,w,.nil,rfl⟩
  | cons processId rest ih =>
    rw [applyChain_cons]
    rcases hstep : applyInterceptorStep peers caller processId c w with ⟨r,w₁⟩
    rcases applyInterceptorStep_cases peers caller processId c w with
      ⟨response,h,hallow,hadm,heq⟩ | ⟨err,heq⟩ | ⟨response,e,h,hallow,herr,heq⟩
    · rw [hstep] at heq
      obtain rfl : r = _ := heq
      have hw : (applyInterceptorStep peers caller processId c w).2 = w₁ := by rw [hstep]
      subst hw
      rcases ih { c with params := rewritten c.params response } _ with
        ⟨responses,c',w',hpass,hrun⟩ | ⟨err,w',hrun,href⟩ | ⟨e,w',hrun,href⟩
      · exact .inl ⟨response :: responses,c',w',.cons h hallow hadm hpass,hrun⟩
      · exact .inr (.inl ⟨err,w',hrun,href.cons h hallow hadm⟩)
      · exact .inr (.inr ⟨e,w',hrun,href.cons h hallow hadm⟩)
    · rw [hstep] at heq
      obtain rfl : r = _ := heq
      exact .inr (.inl ⟨err,w₁,rfl,[],processId,rest,[],c,w,rfl,.nil,hstep⟩)
    · rw [hstep] at heq
      obtain rfl : r = _ := heq
      exact .inr (.inr ⟨e,w₁,rfl,[],processId,rest,[],c,w,rfl,.nil,response,h,hallow,herr⟩)

variable {responses : List Entries} {chain : List String}

section
variable (h : Passes peers caller chain c w responses c' w')
include h

theorem Passes.run (rest : List String) :
    applyChain peers caller (chain ++ rest) c w = applyChain peers caller rest c' w' := by
  induction h with
  | nil => rfl
  | cons h hallow hadm _ ih =>
    rw [cons_append,applyChain_cons,applyInterceptorStep_accepts h hallow hadm]
    exact ih

theorem Passes.target : c'.deviceId = c.deviceId ∧ c'.action = c.action := by
  induction h with
  | nil => exact ⟨rfl,rfl⟩
  | cons _ _ _ _ ih => exact ih

theorem Passes.params : c'.params = responses.foldl rewritten c.params := by
  induction h with
  | nil => rfl
  | cons _ _ _ _ ih => exact ih

end

theorem isMapping_rewritten (h : Admissible peers response c)
    (hc : isMapping c.params = true ∨ item? response "command" ≠ none) :
    isMapping (rewritten c.params response) = true := by
  unfold Admissible at h
  unfold rewritten
  cases hitem : item? response "command" with
  | none => simpa [hitem] using hc
  | some v =>
    rw [hitem] at h
    cases v with
    | dict attr raw => exact h.2.2
    | none | bool _ | int _ | float _ | str _ | list _ => exact absurd h id

theorem Passes.isMapping (h : Passes peers caller chain c w responses c' w')
    (hc : isMapping c.params = true ∨ ∃ r ∈ responses, item? r "command" ≠ none) :
    Python.isMapping c'.params = true := by
  induction h with
  | nil => simpa using hc
  | @cons _ _ c _ _ _ response responses _ _ hadm _ ih =>
    refine ih ?_
    by_cases hhere : Python.isMapping c.params = true ∨ item? response "command" ≠ none
    · exact .inl (isMapping_rewritten hadm hhere)
    · rw [not_or] at hhere
      rcases hc with hc | ⟨r,hmem,hr⟩
      · exact absurd hc hhere.1
      · rcases mem_cons.1 hmem with rfl | hmem
        · exact absurd hr hhere.2
        · exact .inr ⟨r,hmem,hr⟩

theorem foldl_rewritten_bare {params : Value}
    (h : ∀ r ∈ responses, item? r "command" = none) : responses.foldl rewritten params = params := by
  induction responses with
  | nil => rfl
  | cons r rest ih =>
    have hr : rewritten params r = params := by simp [rewritten,h r mem_cons_self]
    rw [foldl_cons,hr]
    exact ih fun r hr => h r (mem_cons_of_mem _ hr)

end

/-- A chain that answers, passes on a command only if every process allowed it as the ones
before had left it, and asks no process after the first refusal. -/
structure FailClosed (peers : Peers World) (caller : Caller) (initial : Entries)
    (chain : List String) (w : World) : Prop where
  returns : ∃ r, (applyCommandInterceptorChain peers caller initial chain w).1 = .ok r
  accepted : ∀ c' w', applyCommandInterceptorChain peers caller initial chain w = (.ok (.ok c'),w') →
    ∃ responses, Passes peers caller chain (initialCommand peers.repr initial) w responses c' w' ∧
      c'.deviceId = (getD initial "device_id" (.str "")).text peers.repr ∧
      c'.action = (getD initial "action" (.str "")).text peers.repr ∧
      c'.params = responses.foldl rewritten (getD initial "params" (.dict false [])) ∧
      isMapping c'.params = true
  refused : ∀ err w',
    applyCommandInterceptorChain peers caller initial chain w = (.ok (.error err),w') →
    Refuses peers caller chain (initialCommand peers.repr initial) w fun processId c₁ w₁ =>
      applyInterceptorStep peers caller processId c₁ w₁ = (.ok (.error err),w')

/-- The first refusal of the chain is a reply `allow: false` whose `error` is neither an
object nor empty. -/
def RefusesUnreadably (peers : Peers World) (caller : Caller) (initial : Entries)
    (chain : List String) (w : World) : Prop :=
  Refuses peers caller chain (initialCommand peers.repr initial) w fun processId c₁ w₁ =>
    ∃ response, Answers peers caller processId c₁ w₁ response ∧
      get response "allow" = .bool false ∧ Unreadable response

/-- All processes allow the command and none of them brings one of its own. -/
def PassesBare (peers : Peers World) (caller : Caller) (initial : Entries) (chain : List String)
    (w : World) : Prop :=
  ∃ responses c' w', Passes peers caller chain (initialCommand peers.repr initial) w responses c' w' ∧
    ∀ r ∈ responses, item? r "command" = none

section
variable {peers : Peers World} {caller : Caller} {initial : Entries} {chain : List String} {w : World}

theorem raises_of_refusesUnreadably (h : RefusesUnreadably peers caller initial chain w) :
    ∃ e, (applyCommandInterceptorChain peers caller initial chain w).1 = .error e := by
  obtain ⟨before,processId,after,responses,c₁,w₁,rfl,hpass,response,hans,hallow,herr⟩ := h
  obtain ⟨e,he⟩ := applyInterceptorStep_raises hans hallow herr
  refine ⟨e,?_⟩
  unfold applyCommandInterceptorChain
  rw [hpass.run,applyChain_cons,he]

/-- The chain is fail-closed and conservative exactly if no process refuses in a way that
cannot be read, and what is not an object does not pass through it untouched. -/
theorem chain_fail_closed (peers : Peers World) (caller : Caller) (initial : Entries)
    (chain : List String) (w : World) : FailClosed peers caller initial chain w ↔
      ¬ RefusesUnreadably peers caller initial chain w ∧
        (isMapping (getD initial "params" (.dict false [])) = true ∨
          ¬ PassesBare peers caller initial chain w) := by
  constructor
  · intro h
    refine ⟨?_,?_⟩
    · intro href
      obtain ⟨e,he⟩ := raises_of_refusesUnreadably href
      obtain ⟨r,hr⟩ := h.returns
      rw [he] at hr
      cases hr
    · by_cases hbare : PassesBare peers caller initial chain w
      · obtain ⟨responses,c',w',hpass,hnone⟩ := hbare
        have hrun := hpass.run []
        rw [append_nil] at hrun
        obtain ⟨_,_,_,_,_,hmap⟩ := h.accepted c' w' hrun
        rw [hpass.params,foldl_rewritten_bare hnone] at hmap
        exact .inl hmap
      · exact .inr hbare
  · rintro ⟨hread,hmap⟩
    rcases applyChain_cases peers caller chain
        (initialCommand peers.repr initial) w with
      ⟨responses,c₂,w₂,hpass,hrun⟩ | ⟨err,w₂,hrun,href⟩ | ⟨e,w₂,hrun,href⟩
    · refine ⟨⟨.ok c₂,by rw [applyCommandInterceptorChain,hrun]⟩,?_,?_⟩
      · intro c' w' h
        rw [applyCommandInterceptorChain,hrun] at h
        cases h
        refine ⟨responses,hpass,hpass.target.1,hpass.target.2,hpass.params,hpass.isMapping ?_⟩
        rcases hmap with hmap | hbare
        · exact .inl hmap
        · refine .inr ?_
          by_contra hnone
          refine hbare ⟨responses,c₂,w₂,hpass,fun r hr => ?_⟩
          by_contra hcommand
          exact hnone ⟨r,hr,hcommand⟩
      · intro err w' h
        rw [applyCommandInterceptorChain,hrun] at h
        cases h
    · refine ⟨⟨.error err,by rw [applyCommandInterceptorChain,hrun]⟩,?_,?_⟩
      · intro c' w' h
        rw [applyCommandInterceptorChain,hrun] at h
        cases h
      · intro err' w' h
        rw [applyCommandInterceptorChain,hrun] at h
        cases h
        exact href
    · exact absurd href hread

end

def blunt : Peers Unit where
  repr _ := ""
  eq a b := a = b
  now _ := (0,())
  available _ _ := (true,())
  call _ _ _ := (⟨"ok",.dict false [("allow",.bool false),("error",.str "blocked")],none⟩,())
  publish _ _ _ := ()

def enableOutput : Entries :=
  [("device_id",.str "hv"),("action",.str "enable_output"),("params",.dict false [])]

theorem text_error_raises :
    ¬ FailClosed blunt ⟨.none,.none,false⟩ enableOutput ["interlock"] () := by
  intro h
  obtain ⟨r,hr⟩ := h.returns
  have hraises : (applyCommandInterceptorChain blunt ⟨.none,.none,false⟩ enableOutput
      ["interlock"] ()).1.toOption.isSome = false := by decide +kernel
  rw [hr] at hraises
  cases hraises

end ExperimentControl.CommandInterceptors

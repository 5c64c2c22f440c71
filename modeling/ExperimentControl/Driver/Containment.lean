import ExperimentControl.Driver.Loop

/-!
Whether a request or a value of the device can end the driver.
-/

namespace ExperimentControl.Driver
open Lib Python OrderedDict List

/-- `_handle_rpc_request` can answer the exception. -/
def Exc.answerable (exc : Exc) : Bool :=
  match exc.cls with
  | .caller _ => !failed exc.str
  | _ => !failed exc.repr && !failed exc.str

def textAnswerable : Except Exc String → Bool
  | .ok _ => true
  | .error raised => raised.answerable

def Exc.answeredAsText (exc : Exc) : Bool :=
  match exc.repr with
  | .error raised => raised.answerable
  | .ok _ => textAnswerable exc.str

def Exc.answeredAsRaised (exc : Exc) : Bool :=
  match exc.repr with
  | .error raised => raised.answerable
  | .ok _ => exc.answerable

def Exc.answeredAsDiscovery (exc : Exc) : Bool :=
  match exc.repr with
  | .error raised => raised.answerable && textAnswerable raised.repr
  | .ok _ => true

/-- `what` holds of the value, or `otherwise` of the exception. -/
def outcome {α : Type} (what : α → Bool) (otherwise : Exc → Bool) : Except Exc α → Bool
  | .ok a => what a
  | .error exc => otherwise exc

section
variable (su : LoopSetup)

def LoopSetup.sendable (result : Obj) : Bool :=
  match dumpsError su.interp true 1 result with
  | none => true
  | some exc => exc.cls.isTypeOrValueError && !failed exc.str

/-- What `_jsonable_value` makes of a value can be sent. -/
def LoopSetup.jsonable (value : Obj) : Bool :=
  outcome su.sendable Exc.answerable (su.py.jsonableValue value)

def Exc.answeredAsCommand (exc : Exc) : Bool :=
  if exc.isCallerError then exc.answerable else exc.answeredAsRaised

/-- Everything that the device answers to requests is contained. -/
structure Turn.Contained (turn : Turn) : Prop where
  connect : outcome (fun _ => true) Exc.answerable turn.connect
  disconnect : outcome (fun _ => true) Exc.answerable turn.disconnect
  members : outcome (fun ms => su.sendable (capabilitiesJson ms)) Exc.answeredAsDiscovery turn.members
  getattr : outcome su.jsonable Exc.answeredAsText turn.getattr
  setattr : outcome (fun _ => true) Exc.answeredAsText turn.setattr
  stream : outcome su.sendable Exc.answeredAsRaised turn.stream
  command : match turn.command with
    | .lookupRaised exc | .signatureRaised exc => exc.answeredAsCommand
    | .missing | .unbound _ _ _ => True
    | .called result => outcome su.sendable Exc.answeredAsCommand result
  runMetadata : outcome su.sendable Exc.answerable turn.runMetadata
  identity : match turn.identity with
    | .lookupRaised exc => exc.answerable
    | .missing => True
    | .called result => outcome su.jsonable Exc.answerable result

def LoopSetup.Cached (r : Runner) : Prop :=
  ∀ members, r.capabilitiesCache = some members → su.sendable (capabilitiesJson members)

structure LoopSetup.Routed (id : Value) (h : Handled) : Prop where
  replied : ∀ reply, h.1 = .ok reply → reply.id = id ∧
    ∀ result, reply.body = .ok result → su.sendable result
  raised : ∀ exc, h.1 = .error exc → exc.answerable
  cached : su.Cached h.2

end

section
variable {su : LoopSetup} {turn : Turn} {req : Request} {r : Runner} {id : Value}

theorem dumpsError_rpcOk (id : Value) (result : Obj) :
    dumpsError su.interp true 0 (rpcOk id result).toJson = dumpsError su.interp true 1 result := by
  have hlimit : 0 < su.interp.recursionLimit := lt_of_lt_of_le (by decide) su.interp.recursionLimit_ge
  simp [rpcOk,Reply.toJson,dumpsError,entriesError,Interpreter.keyError,hlimit]

theorem dumpsError_rpcError (id : Value) (error : String) (code : Option String) :
    dumpsError su.interp true 0 (rpcError id error code).toJson = none := by
  have hlimit : 0 < su.interp.recursionLimit := lt_of_lt_of_le (by decide) su.interp.recursionLimit_ge
  cases code <;> simp [rpcError,Reply.toJson,dumpsError,entriesError,Interpreter.keyError,hlimit]

theorem sendable_of_none {result : Obj} (h : dumpsError su.interp true 1 result = none) :
    su.sendable result := by
  simp [LoopSetup.sendable,h]

theorem LoopSetup.Routed.error {error : String} {code : Option String} (h : su.Cached r) :
    su.Routed id (.ok (rpcError id error code),r) := by
  refine ⟨fun reply hreply => ?_,fun exc hexc => (nomatch hexc),h⟩
  cases hreply
  exact ⟨rfl,fun result hresult => nomatch hresult⟩

theorem LoopSetup.Routed.ok {result : Obj} (h : su.Cached r) (hsend : su.sendable result) :
    su.Routed id (.ok (rpcOk id result),r) := by
  refine ⟨fun reply hreply => ?_,fun exc hexc => (nomatch hexc),h⟩
  cases hreply
  refine ⟨rfl,fun result hresult => ?_⟩
  cases hresult
  exact hsend

theorem LoopSetup.Routed.raise {exc : Exc} (h : su.Cached r) (hexc : exc.answerable) :
    su.Routed id (.error exc,r) := by
  refine ⟨fun reply hreply => (nomatch hreply),fun raised hraised => ?_,h⟩
  cases hraised
  exact hexc

theorem sendable_none : su.sendable .none := sendable_of_none (by simp [dumpsError])

theorem sendable_noMembers : su.sendable (capabilitiesJson []) := by
  have hlimit : 2 < su.interp.recursionLimit := lt_of_lt_of_le (by decide) su.interp.recursionLimit_ge
  have hdigits : 1 ≤ su.interp.intMaxStrDigits := le_trans (by decide) su.interp.intMaxStrDigits_ge
  refine sendable_of_none ?_
  have hone : su.interp.intError 1 = none := if_pos hdigits
  simp [capabilitiesJson,dumpsError,entriesError,itemsError,Interpreter.keyError,hone,hlimit,
    show 1 < su.interp.recursionLimit by omega]

section
variable (h : turn.Contained su)
include h

theorem cached_refresh : su.Cached (r.refreshCapabilitiesCache turn).2 := by
  have hmembers := h.members
  unfold Runner.refreshCapabilitiesCache
  cases hm : turn.members with
  | ok members =>
    intro ms hms
    cases hms
    simpa [hm,outcome] using hmembers
  | error exc =>
    intro ms hms
    have hnil : ms = [] := by
      cases hrepr : exc.repr <;> simpa [hrepr] using hms
    rw [hnil]
    exact sendable_noMembers

theorem refresh_raised {exc : Exc} {r' : Runner}
    (hraised : r.refreshCapabilitiesCache turn = (.error exc,r')) :
    exc.answerable ∧ textAnswerable exc.repr := by
  have hmembers := h.members
  unfold Runner.refreshCapabilitiesCache at hraised
  cases hm : turn.members with
  | ok members => simp [hm] at hraised
  | error failure =>
    simp only [hm] at hraised
    cases hrepr : failure.repr with
    | ok shown => simp [hrepr] at hraised
    | error raised =>
      simp only [hrepr] at hraised
      obtain ⟨hexc,_⟩ := Prod.mk.inj hraised
      cases hexc
      simpa [hm,outcome,Exc.answeredAsDiscovery,hrepr] using hmembers

theorem routed_ensured {use : Runner → Handled} (hc : su.Cached r)
    (huse : ∀ r', su.Cached r' → su.Routed id (use r')) :
    su.Routed id (match r.ensureMembers turn with
      | (.error exc,r) => ((.error exc,r) : Handled)
      | (.ok (),r) => use r) := by
  have hrefresh := cached_refresh (r := r) h
  unfold Runner.ensureMembers
  by_cases hm : r.membersCache.isNone
  · rw [if_pos hm]
    split
    · rename_i hr
      rw [hr] at hrefresh
      exact .raise hrefresh (refresh_raised h hr).1
    · rename_i hr
      rw [hr] at hrefresh
      exact huse _ hrefresh
  · rw [if_neg hm]
    exact huse r hc

theorem cached_capabilities (hc : su.Cached r) :
    su.Cached (capabilities turn r).2 ∧ su.sendable (capabilitiesJson (capabilities turn r).1) := by
  have hrefresh := cached_refresh (r := r) h
  unfold capabilities
  cases hcache : r.capabilitiesCache with
  | some members => exact ⟨hc,hc members hcache⟩
  | none =>
    dsimp only
    split
    · exact ⟨hc,sendable_noMembers⟩
    · split
      · rename_i hr
        rw [hr] at hrefresh
        exact ⟨hrefresh,sendable_noMembers⟩
      · rename_i r' hr
        rw [hr] at hrefresh
        refine ⟨hrefresh,?_⟩
        cases hcache' : r'.capabilitiesCache with
        | none => exact sendable_noMembers
        | some members => exact hrefresh members hcache'

end

variable {what : String}

theorem markFailure_cached {exc : Exc} (hc : su.Cached r) :
    su.Cached (r.markFailure what exc).2 := by
  unfold Runner.markFailure
  split
  · exact hc
  · unfold Runner.markDeviceUnreachable Runner.degrade
    split <;> exact hc

theorem routed_failure {exc : Exc} {error : String → String} (hc : su.Cached r)
    (hexc : exc.answeredAsText) :
    su.Routed id (match r.markFailure what exc with
      | (.error raised,r) => ((.error raised,r) : Handled)
      | (.ok (),r) => match exc.str with
        | .error raised => (.error raised,r)
        | .ok text => (.ok (rpcError id (error text) none),r)) := by
  have hcached := @markFailure_cached su _ what exc hc
  unfold Exc.answeredAsText at hexc
  unfold Runner.markFailure at hcached ⊢
  cases hrepr : exc.repr with
  | error raised =>
    simp only [hrepr] at hexc ⊢
    exact .raise hc hexc
  | ok shown =>
    simp only [hrepr] at hexc hcached ⊢
    cases hstr : exc.str with
    | error raised => exact .raise hcached (by simpa [hstr,textAnswerable] using hexc)
    | ok text => exact .error hcached

theorem routed_raised {exc : Exc} (hc : su.Cached r) (hexc : exc.answeredAsRaised) :
    su.Routed id (match r.markFailure what exc with
      | (.error raised,r) => ((.error raised,r) : Handled)
      | (.ok (),r) => (.error exc,r)) := by
  have hcached := @markFailure_cached su _ what exc hc
  unfold Exc.answeredAsRaised at hexc
  unfold Runner.markFailure at hcached ⊢
  cases hrepr : exc.repr with
  | error raised =>
    simp only [hrepr] at hexc ⊢
    exact .raise hc hexc
  | ok shown =>
    simp only [hrepr] at hexc hcached ⊢
    exact .raise hcached hexc

theorem routed_jsonable {value : Obj} (hc : su.Cached r) (h : su.jsonable value) :
    su.Routed id (match su.py.jsonableValue value with
      | .error exc => ((.error exc,r) : Handled)
      | .ok result => (.ok (rpcOk id result),r)) := by
  unfold LoopSetup.jsonable at h
  cases hv : su.py.jsonableValue value with
  | error exc => exact .raise hc (by simpa [hv,outcome] using h)
  | ok result => exact .ok hc (by simpa [hv,outcome] using h)

theorem routed_get (h : turn.Contained su) (hc : su.Cached r) :
    su.Routed req.requestId (rpcRouteGet su.py turn req r) := by
  unfold rpcRouteGet
  split
  · exact .error hc
  · split
    · split
      · exact .error hc
      · apply routed_ensured h hc
        intro r' hc'
        split
        · exact .error hc'
        · split
          · exact .error hc'
          · have hget := h.getattr
            cases hv : turn.getattr with
            | error exc => exact routed_failure hc' (by simpa [hv,outcome] using hget)
            | ok value => exact routed_jsonable hc' (by simpa [hv,outcome] using hget)
    · exact .error hc

theorem routed_set (h : turn.Contained su) (hc : su.Cached r) :
    su.Routed req.requestId (rpcRouteSet su.py turn req r) := by
  unfold rpcRouteSet
  split
  · exact .error hc
  · split
    · split
      · exact .error hc
      · apply routed_ensured h hc
        intro r' hc'
        split
        · exact .error hc'
        · split
          · exact .error hc'
          · split
            · exact .error hc'
            · have hset := h.setattr
              cases hv : turn.setattr with
              | error exc => exact routed_failure hc' (by simpa [hv,outcome] using hset)
              | ok done => exact .ok hc' sendable_none
    · exact .error hc

theorem handleCommand_contained (h : turn.Contained su) {action : String} {params : Entries} :
    outcome su.sendable Exc.answeredAsCommand (su.py.handleCommand action params turn.command) := by
  have hrefused : ∀ c message, outcome su.sendable Exc.answeredAsCommand
      (.error (callerError c message)) := fun c message => rfl
  have hcommand := h.command
  unfold Builtins.handleCommand
  dsimp only
  split
  · exact hrefused _ _
  · split
    · exact hrefused _ _
    · cases hcall : turn.command with
      | lookupRaised exc => simpa [hcall,outcome] using hcommand
      | missing => exact hrefused _ _
      | signatureRaised exc => simpa [hcall,outcome] using hcommand
      | unbound bindError accepted acceptsAny => exact hrefused _ _
      | called result => simpa [hcall] using hcommand

theorem coerceParam_answerable {action : String} {params : Entries} {param : MemberParamSpec} {exc : Exc}
    (h : su.py.coerceParam action params param = .error exc) : exc.answerable := by
  unfold Builtins.coerceParam at h
  split at h
  · cases h
  · dsimp only at h
    split at h
    · split at h
      · cases h
      · cases h
        rfl
    · split at h
      · cases h
      · split at h
        · cases h
        · cases h
          rfl

theorem foldlM_answerable {action : String} {specs : List MemberParamSpec} {params : Entries} {exc : Exc}
    (h : specs.foldlM (su.py.coerceParam action) params = .error exc) : exc.answerable := by
  induction specs generalizing params with
  | nil => cases h
  | cons spec rest ih =>
    rw [foldlM_cons] at h
    cases hstep : su.py.coerceParam action params spec with
    | error raised =>
      rw [hstep] at h
      cases h
      exact coerceParam_answerable hstep
    | ok params' =>
      rw [hstep] at h
      exact ih h

theorem coercedParams_answerable {exc : Exc} (h : coercedParams su.py req r = .error exc) :
    exc.answerable := by
  unfold coercedParams at h
  split at h
  · split at h
    · exact foldlM_answerable h
    · cases h
  · cases h

theorem routed_command (h : turn.Contained su) (hc : su.Cached r) :
    su.Routed req.requestId (rpcDispatchDeviceCommand su.py su.cfg turn req r) := by
  unfold rpcDispatchDeviceCommand
  dsimp only
  split
  · exact .error hc
  · split
    · have hstream := h.stream
      cases hv : turn.stream with
      | error exc => exact routed_raised (r := r.asked .streamRpc true) hc (by simpa [hv,outcome] using hstream)
      | ok result => exact .ok hc (by simpa [hv,outcome] using hstream)
    · apply routed_ensured h hc
      intro r' hc'
      split
      · rename_i hparams
        exact .raise hc' (coercedParams_answerable hparams)
      · rename_i params _
        have hcommand := @handleCommand_contained _ _ h req.action params
        cases hv : su.py.handleCommand req.action params turn.command with
        | error exc =>
          have hexc : exc.answeredAsCommand := by simpa [hv,outcome] using hcommand
          unfold Exc.answeredAsCommand at hexc
          dsimp only
          split
          · rename_i hcaller
            exact .raise hc' (by simpa [hcaller] using hexc)
          · rename_i hcaller
            exact routed_raised (r := r'.asked .command true) hc' (by simpa [hcaller] using hexc)
        | ok result => exact .ok hc' (by simpa [hv,outcome] using hcommand)

theorem cached_none (hcache : r.capabilitiesCache = none) : su.Cached r := by
  intro members hmembers
  rw [hcache] at hmembers
  cases hmembers

section
variable (h : turn.Contained su)
include h

theorem routed_connect (hc : su.Cached r) :
    su.Routed req.requestId (rpcRouteConnectDevice turn req r) := by
  unfold rpcRouteConnectDevice
  split
  · exact .error hc
  · have hconnect := h.connect
    cases hv : turn.connect with
    | error exc => exact .raise (cached_none rfl) (by simpa [hv,outcome] using hconnect)
    | ok done => exact .ok (cached_refresh h) sendable_none

theorem routed_disconnect (hc : su.Cached r) :
    su.Routed req.requestId (rpcRouteDisconnectDevice turn req r) := by
  unfold rpcRouteDisconnectDevice
  split
  · exact .error hc
  · have hdisconnect := h.disconnect
    cases hv : turn.disconnect with
    | error exc => exact .raise hc (by simpa [hv,outcome] using hdisconnect)
    | ok done => exact .ok (cached_none rfl) sendable_none

theorem routed_refreshCapabilities (hc : su.Cached r) :
    su.Routed req.requestId (rpcRouteRefreshCapabilities turn req r) := by
  have hrefresh := cached_refresh (r := r) h
  unfold rpcRouteRefreshCapabilities
  split
  · exact .ok hc sendable_noMembers
  · split
    · rename_i exc r' hr
      rw [hr] at hrefresh
      have hexc := refresh_raised h hr
      cases hrepr : exc.repr with
      | error raised => exact .raise hrefresh (by simpa [hrepr,textAnswerable] using hexc.2)
      | ok shown => exact .error hrefresh
    · rename_i r' hr
      rw [hr] at hrefresh
      have hcaps := cached_capabilities h hrefresh
      exact .ok hcaps.1 hcaps.2

theorem routed_identity (hc : su.Cached r) :
    su.Routed req.requestId (rpcRouteIdentity su.py turn req r) := by
  have hidentity := h.identity
  unfold rpcRouteIdentity
  cases hv : turn.identity with
  | lookupRaised exc => exact .raise hc (by simpa [hv] using hidentity)
  | missing => exact .error hc
  | called result =>
    cases hresult : result with
    | error exc => exact .raise hc (by simpa [hv,hresult,outcome] using hidentity)
    | ok value =>
      have hjsonable : su.jsonable value := by simpa [hv,hresult,outcome] using hidentity
      have hrouted := @routed_jsonable _ (r.asked .identity false) req.requestId _ hc hjsonable
      cases hj : su.py.jsonableValue value <;> simpa [hj,Except.map,failed] using hrouted

end

theorem routed_status (hc : su.Cached r) : su.Routed req.requestId (rpcRouteStatus req r) := by
  have hlimit : 1 < su.interp.recursionLimit := lt_of_lt_of_le (by decide) su.interp.recursionLimit_ge
  refine .ok hc (sendable_of_none ?_)
  cases hts : r.lastOkTs <;> cases herror : r.lastError <;>
    simp [dumpsError,entriesError,Interpreter.keyError,optionalFloat,optionalText,hlimit]

theorem routed_dispatch (h : turn.Contained su) (hc : su.Cached r) :
    su.Routed req.requestId (dispatch su.py su.cfg turn req r) := by
  unfold dispatch
  split
  · exact .ok hc sendable_none
  · have hcaps := cached_capabilities h hc
    exact .ok hcaps.1 hcaps.2
  · exact routed_refreshCapabilities h hc
  · exact routed_get h hc
  · exact routed_set h hc
  · exact routed_status hc
  · unfold rpcRouteCollectRunMetadata
    split
    · exact .error hc
    · have hmeta := h.runMetadata
      cases hv : turn.runMetadata with
      | error exc => exact .raise hc (by simpa [hv,outcome] using hmeta)
      | ok result => exact .ok hc (by simpa [hv,outcome] using hmeta)
  · exact routed_identity h hc
  · exact routed_connect h hc
  · exact routed_disconnect h hc
  · unfold rpcRouteStreamContextSet
    dsimp only
    repeat' split
    all_goals first | exact .error hc | exact .ok hc sendable_none
  · unfold rpcRouteStreamContextClear
    split
    · exact .ok hc sendable_none
    · exact .ok hc sendable_none
    · exact .error hc
  · exact routed_command h hc

theorem answerException_replies {exc : Exc} (h : exc.answerable) (hc : su.Cached r) :
    ∃ error code r', answerException req r exc = (.ok (rpcError req.requestId error code),r') ∧
      su.Cached r' := by
  have hstr : ∃ text, exc.str = .ok text := by
    unfold Exc.answerable at h
    cases hs : exc.str with
    | ok text => exact ⟨text,rfl⟩
    | error raised => cases hcls : exc.cls <;> simp [hcls,hs,failed] at h
  obtain ⟨text,hstr⟩ := hstr
  unfold Exc.answerable at h
  unfold answerException
  rw [hstr]
  split
  · exact ⟨_,_,_,rfl,hc⟩
  · rename_i hcls
    cases hrepr : exc.repr with
    | error raised =>
      cases hcase : exc.cls with
      | caller c => exact absurd hcase (hcls c)
      | _ => simp [hcase,hrepr,failed] at h
    | ok shown => exact ⟨_,_,_,rfl,hc⟩

theorem handleRpcRequest_replies {payload : Entries} (h : turn.Contained su) (hc : su.Cached r) :
    ∃ reply r', handleRpcRequest su.py su.cfg turn payload r = (.ok reply,r') ∧
      reply.id = getKey payload "id" ∧ (∀ result, reply.body = .ok result → su.sendable result) ∧
      su.Cached r' := by
  unfold handleRpcRequest
  cases hreq : su.py.parseRequest payload with
  | none => exact ⟨_,_,rfl,rfl,fun result hresult => (nomatch hresult),hc⟩
  | some req =>
    have hid : req.requestId = getKey payload "id" := by
      unfold Builtins.parseRequest at hreq
      dsimp only at hreq
      repeat' split at hreq
      all_goals cases hreq <;> rfl
    have hrouted := @routed_dispatch _ _ req _ h hc
    dsimp only
    split
    · rename_i reply r' hd
      rw [hd] at hrouted
      obtain ⟨hreply,hsend⟩ := hrouted.replied reply rfl
      exact ⟨reply,r',rfl,hreply.trans hid,hsend,hrouted.cached⟩
    · rename_i exc r' hd
      rw [hd] at hrouted
      obtain ⟨error,code,r'',hanswer,hcached⟩ :=
        @answerException_replies _ req _ _ (hrouted.raised exc rfl) hrouted.cached
      rw [hanswer]
      exact ⟨_,_,rfl,hid,fun result hresult => (nomatch hresult),hcached⟩

theorem sendRpcReply_sends {reply : Reply} {action : Value}
    (h : ∀ result, reply.body = .ok result → su.sendable result) :
    ∃ sent, su.sendRpcReply reply action = .ok sent ∧ sent.id = reply.id := by
  obtain ⟨id,body⟩ := reply
  unfold LoopSetup.sendRpcReply LoopSetup.sendJson
  cases body with
  | error e =>
    obtain ⟨error,code⟩ := e
    have hnone := @dumpsError_rpcError su id error code
    simp only [rpcError] at hnone
    exact ⟨⟨id,.error (error,code)⟩,by rw [hnone],rfl⟩
  | ok result =>
    have hsend := h result rfl
    have hdumps := @dumpsError_rpcOk su id result
    simp only [rpcOk] at hdumps
    rw [hdumps]
    unfold LoopSetup.sendable at hsend
    cases hexc : dumpsError su.interp true 1 result with
    | none => exact ⟨_,rfl,rfl⟩
    | some exc =>
      simp only [hexc,Bool.and_eq_true] at hsend
      cases hstr : exc.str with
      | error raised => simp [hstr,failed] at hsend
      | ok text =>
        simp only [hsend.1,if_true,hstr]
        rw [dumpsError_rpcError]
        exact ⟨_,rfl,rfl⟩

def Exc.rendersWithin : Nat → Exc → Bool
  | 0,exc => !failed exc.repr
  | n+1,exc => match exc.repr with
    | .ok _ => true
    | .error raised => raised.rendersWithin n

def LoopSetup.encodes (su : LoopSetup) (value : Obj) : Bool :=
  (dumpsError su.interp false 3 value).isNone

def LoopSetup.outputContained (su : LoopSetup) (o : TelemetryOut) (extracted : Except Exc Obj) : Bool :=
  outcome (fun value => value.isNone ||
      outcome su.encodes (fun exc => exc.rendersWithin 2) (su.py.coerceScalar value o.dtype))
    (fun exc => exc.rendersWithin 2) extracted

def LoopSetup.readContained (su : LoopSetup) (plan : TelemetryPlan) : PlanRead → Prop
  | .missing => True
  | .raised exc => exc.rendersWithin 1
  | .returned extracted => ∀ i o, plan.outputs[i]? = some o → su.outputContained o (extracted i)

variable {signal : Signal} {signals : Signals}

theorem mem_of_mem_set {name : String} {e : String × Signal}
    (h : e ∈ (signals.set name signal).entries) : e = (name,signal) ∨ e ∈ signals.entries := by
  change e ∈ setEntries signals.entries name signal at h
  generalize signals.entries = l at h ⊢
  induction l with
  | nil => simpa [setEntries] using h
  | cons first rest ih =>
    unfold setEntries at h
    split at h
    · rcases mem_cons.1 h with h | h
      · exact .inl h
      · exact .inr (by simp [h])
    · rcases mem_cons.1 h with h | h
      · exact .inr (by simp [h])
      · rcases ih h with h | h
        · exact .inl h
        · exact .inr (by simp [h])

def LoopSetup.AllEncode (su : LoopSetup) (signals : Signals) : Prop :=
  ∀ e ∈ signals.entries, su.encodes e.2.value

theorem allEncode_set {name : String} (h : su.AllEncode signals)
    (hsignal : su.encodes signal.value) : su.AllEncode (signals.set name signal) := by
  intro e he
  rcases mem_of_mem_set he with rfl | he
  · exact hsignal
  · exact h e he

theorem encodes_none : su.encodes .none := by simp [LoopSetup.encodes,dumpsError]

theorem allEncode_setOutputs {outputs : List TelemetryOut} {quality : Quality} {error : Option String}
    (h : su.AllEncode signals) :
    su.AllEncode (setOutputs outputs quality error signals) := by
  induction outputs generalizing signals with
  | nil => exact h
  | cons o rest ih => exact ih (allEncode_set h encodes_none)

theorem readOutput_contained {o : TelemetryOut} {extracted : Except Exc Obj}
    (h : su.outputContained o extracted) :
    (∃ signal, su.py.readOutput o extracted = .ok signal ∧ su.encodes signal.value) ∨
      ∃ exc, su.py.readOutput o extracted = .error exc ∧ exc.rendersWithin 1 := by
  have hmark : ∀ exc : Exc, exc.rendersWithin 2 →
      (∃ signal : Signal, (telemetryFormatError exc).map
        (fun text => (⟨.none,o.units,.bad,some text⟩ : Signal)) = .ok signal ∧ su.encodes signal.value) ∨
      ∃ raised, (telemetryFormatError exc).map
        (fun text => (⟨.none,o.units,.bad,some text⟩ : Signal)) = .error raised ∧ raised.rendersWithin 1 := by
    intro exc hexc
    unfold Exc.rendersWithin at hexc
    unfold telemetryFormatError
    cases hrepr : exc.repr with
    | ok shown => exact .inl ⟨_,rfl,encodes_none⟩
    | error raised => exact .inr ⟨raised,rfl,by simpa [hrepr] using hexc⟩
  unfold LoopSetup.outputContained at h
  unfold Builtins.readOutput
  cases extracted with
  | error exc => exact hmark exc (by simpa [outcome] using h)
  | ok value =>
    dsimp only
    by_cases hnone : value.isNone
    · rw [if_pos hnone]
      refine .inl ⟨_,rfl,?_⟩
      unfold Obj.isNone at hnone
      split at hnone
      · exact encodes_none
      · simp [LoopSetup.encodes,dumpsError]
      · cases hnone
    · rw [if_neg hnone]
      cases hv : su.py.coerceScalar value o.dtype with
      | ok converted => exact .inl ⟨_,rfl,by simpa [outcome,hnone,hv] using h⟩
      | error exc => exact hmark exc (by simpa [outcome,hnone,hv] using h)

theorem readOutputs_contained {extracted : Nat → Except Exc Obj} {i : Nat} {outputs : List TelemetryOut}
    (hs : su.AllEncode signals)
    (h : ∀ k o, outputs[k]? = some o → su.outputContained o (extracted (i+k))) :
    (∃ signals', su.py.readOutputs extracted i outputs signals = .ok signals' ∧ su.AllEncode signals') ∨
      ∃ exc, su.py.readOutputs extracted i outputs signals = .error exc ∧ exc.rendersWithin 1 := by
  induction outputs generalizing i signals with
  | nil => exact .inl ⟨signals,rfl,hs⟩
  | cons o rest ih =>
    unfold Builtins.readOutputs
    rcases readOutput_contained (h 0 o rfl) with ⟨signal,hread,henc⟩ | ⟨exc,hread,hexc⟩
    · rw [show extracted i = extracted (i+0) from rfl,hread]
      refine ih (allEncode_set hs henc) fun k o' hk => ?_
      have hnext := h (k+1) o' (by simpa using hk)
      rwa [show i+1+k = i+(k+1) by omega]
    · rw [show extracted i = extracted (i+0) from rfl,hread]
      exact .inr ⟨exc,rfl,hexc⟩

variable {t : Telemetry}

theorem readPlan_contained {plan : TelemetryPlan} {read : PlanRead}
    (hs : su.AllEncode t.signals) (h : su.readContained plan read) :
    (∃ t', su.py.readPlan plan read t = (.ok (),t') ∧ su.AllEncode t'.signals) ∨
      ∃ exc t', su.py.readPlan plan read t = (.error exc,t') ∧ exc.rendersWithin 0 := by
  have hfail : ∀ exc : Exc, exc.rendersWithin 1 →
      (∃ t', (match telemetryFormatError exc with
        | .error raised => ((.error raised,t) : Except Exc Unit × Telemetry)
        | .ok text => (.ok (),⟨setOutputs plan.outputs .bad (some text) t.signals,
            t.callErrors.set plan.method text⟩)) = (.ok (),t') ∧ su.AllEncode t'.signals) ∨
      ∃ raised t', (match telemetryFormatError exc with
        | .error raised => ((.error raised,t) : Except Exc Unit × Telemetry)
        | .ok text => (.ok (),⟨setOutputs plan.outputs .bad (some text) t.signals,
            t.callErrors.set plan.method text⟩)) = (.error raised,t') ∧ raised.rendersWithin 0 := by
    intro exc hexc
    unfold Exc.rendersWithin at hexc
    unfold telemetryFormatError
    cases hrepr : exc.repr with
    | ok shown => exact .inl ⟨_,rfl,allEncode_setOutputs hs⟩
    | error raised => exact .inr ⟨raised,t,rfl,by simpa [hrepr] using hexc⟩
  unfold Builtins.readPlan
  cases read with
  | missing => exact .inl ⟨_,rfl,allEncode_setOutputs hs⟩
  | raised exc => exact hfail exc h
  | returned extracted =>
    dsimp only
    rcases readOutputs_contained (i := 0) hs (fun k o hk => by simpa using h k o hk) with
      ⟨signals,hread,henc⟩ | ⟨exc,hread,hexc⟩
    · rw [hread]
      exact .inl ⟨_,rfl,henc⟩
    · rw [hread]
      exact hfail exc hexc

theorem readTelemetry_contained {reads : Nat → PlanRead} {i : Nat} {plans : List TelemetryPlan}
    (hs : su.AllEncode t.signals)
    (h : ∀ k plan, plans[k]? = some plan → su.readContained plan (reads (i+k))) :
    (∃ t' r', su.py.readTelemetry reads i plans t r = (.ok (),t',r') ∧ su.AllEncode t'.signals ∧
        r'.capabilitiesCache = r.capabilitiesCache) ∨
      ∃ exc t' r', su.py.readTelemetry reads i plans t r = (.error exc,t',r') ∧ exc.rendersWithin 0 ∧
        r'.capabilitiesCache = r.capabilitiesCache := by
  induction plans generalizing i t r with
  | nil => exact .inl ⟨t,r,rfl,hs,rfl⟩
  | cons plan rest ih =>
    unfold Builtins.readTelemetry
    dsimp only
    rcases readPlan_contained hs (h 0 plan rfl) with ⟨t',hread,henc⟩ | ⟨exc,t',hread,hexc⟩
    · rw [show reads i = reads (i+0) from rfl,hread]
      refine ih henc fun k plan' hk => ?_
      have hnext := h (k+1) plan' (by simpa using hk)
      rwa [show i+1+k = i+(k+1) by omega]
    · rw [show reads i = reads (i+0) from rfl,hread]
      exact .inr ⟨exc,t',_,rfl,hexc,rfl⟩

theorem entriesError_none {replies : Bool} {depth : Nat} {entries : List (Obj × Obj)}
    (h : ∀ e ∈ entries, su.interp.keyError e.1 = none ∧ dumpsError su.interp replies depth e.2 = none) :
    entriesError su.interp replies depth entries = none := by
  induction entries with
  | nil => rfl
  | cons e rest ih =>
    obtain ⟨hkey,hitem⟩ := h e (by simp)
    obtain ⟨key,item⟩ := e
    simp only at hkey hitem
    rw [entriesError,hkey,hitem,ih fun e he => h e (by simp [he])]
    rfl

theorem dumpsError_signal (h : su.encodes signal.value) :
    dumpsError su.interp false 2 signal.toJson = none := by
  have hlimit : 2 < su.interp.recursionLimit := lt_of_lt_of_le (by decide) su.interp.recursionLimit_ge
  have hvalue : dumpsError su.interp false 3 signal.value = none := by
    simpa [LoopSetup.encodes] using h
  unfold Signal.toJson
  rw [dumpsError,if_pos hlimit]
  refine entriesError_none fun e he => ?_
  cases herror : signal.error <;> cases hunits : signal.units <;>
    simp [herror,hunits,optionalText] at he
  all_goals
    rcases he with rfl | rfl | rfl | rfl | rfl <;> simp [Interpreter.keyError,dumpsError,hvalue]

theorem dumpsError_payload {deviceId : String} {seq : Nat} {now : Timestamp}
    (h : su.AllEncode t.signals) : dumpsError su.interp false 0 (telemetryPayload deviceId seq now t) = none := by
  have hlimit : 50 ≤ su.interp.recursionLimit := su.interp.recursionLimit_ge
  have hdigits : 1 ≤ su.interp.intMaxStrDigits := le_trans (by decide) su.interp.intMaxStrDigits_ge
  have hone : su.interp.intError 1 = none := if_pos hdigits
  have hsignals : dumpsError su.interp false 1
      (.dict (t.signals.entries.map fun e => (Obj.str e.1,e.2.toJson))) = none := by
    rw [dumpsError,if_pos (by omega)]
    refine entriesError_none fun e he => ?_
    obtain ⟨signal,hmem,rfl⟩ := mem_map.1 he
    exact ⟨rfl,dumpsError_signal (h signal hmem)⟩
  have herrors : dumpsError su.interp false 1
      (.dict (t.callErrors.entries.map fun e => (Obj.str e.1,Obj.str e.2))) = none := by
    rw [dumpsError,if_pos (by omega)]
    refine entriesError_none fun e he => ?_
    obtain ⟨error,hmem,rfl⟩ := mem_map.1 he
    exact ⟨rfl,by simp [dumpsError]⟩
  have hts : dumpsError su.interp false 1
      (.dict [(.str "t_wall",.float now.wall),(.str "t_mono",.float now.mono)]) = none := by
    rw [dumpsError,if_pos (by omega)]
    simp [entriesError,Interpreter.keyError,dumpsError]
  unfold telemetryPayload
  rw [dumpsError,if_pos (by omega)]
  refine entriesError_none fun e he => ?_
  split at he <;> simp at he
  all_goals
    rcases he with rfl | rfl | rfl | rfl | rfl | rfl <;>
      exact ⟨rfl,by first | exact hsignals | exact herrors | exact hts | simp [dumpsError,hone]⟩

theorem Exc.repr_of_rendersWithin_zero {exc : Exc} (h : exc.rendersWithin 0) :
    ∃ shown, exc.repr = .ok shown := by
  cases hrepr : exc.repr with
  | ok shown => exact ⟨shown,rfl⟩
  | error raised => simp [Exc.rendersWithin,hrepr,failed] at h

@[simp] theorem capabilitiesCache_degrade : r.degrade.capabilitiesCache = r.capabilitiesCache := by
  unfold Runner.degrade
  split <;> rfl

@[simp] theorem capabilitiesCache_applyNoSignals :
    r.applyNoSignals.capabilitiesCache = r.capabilitiesCache := by
  unfold Runner.applyNoSignals
  split
  · simp
  · dsimp only
    split <;> rfl

@[simp] theorem capabilitiesCache_applyTelemetryQualityState (signals : Signals) :
    (r.applyTelemetryQualityState signals).capabilitiesCache = r.capabilitiesCache := by
  unfold Runner.applyTelemetryQualityState
  dsimp only
  split
  · simp
  · split
    · simp
    · split
      · simp
      · split <;> rfl

theorem updateTelemetry_contained {turn : TelemetryTurn} (hc : su.Cached r)
    (h : ∀ k plan, su.cfg.telemetry[k]? = some plan → su.readContained plan (turn.reads k)) :
    ∃ t r', r.updateTelemetry su.py su.cfg turn = (.ok t,r') ∧ su.AllEncode t.signals ∧ su.Cached r' := by
  have hempty : su.AllEncode (.empty : Signals) := fun e he => (nomatch he)
  have hcached : ∀ r' : Runner, r'.capabilitiesCache = r.capabilitiesCache → su.Cached r' := by
    intro r' hr' members hmembers
    exact hc members (hr' ▸ hmembers)
  unfold Runner.updateTelemetry
  dsimp only
  rcases readTelemetry_contained (r := { r with telemetrySeq := r.telemetrySeq+1 })
    (t := ⟨.empty,.empty⟩) (i := 0) hempty (fun k plan hk => by simpa using h k plan hk) with
    ⟨t,r',hread,henc,hcache⟩ | ⟨exc,t,r',hread,hexc,hcache⟩
  · rw [hread]
    refine ⟨t,_,rfl,henc,hcached _ ?_⟩
    split <;> split <;> simpa [Runner.asked] using hcache
  · obtain ⟨shown,hrepr⟩ := Exc.repr_of_rendersWithin_zero hexc
    rw [hread]
    dsimp only
    rw [hrepr]
    exact ⟨_,_,rfl,hempty,hcached _ (by simpa [Runner.asked] using hcache)⟩

theorem publishTelemetry_contained {turn : TelemetryTurn} {deviceId : String} (hc : su.Cached r)
    (h : ∀ k plan, su.cfg.telemetry[k]? = some plan → su.readContained plan (turn.reads k)) :
    ∃ r', r.publishTelemetry su.py su.interp su.cfg deviceId turn = (.ok (),r') ∧ su.Cached r' := by
  unfold Runner.publishTelemetry
  split
  · exact ⟨r,rfl,hc⟩
  · obtain ⟨t,r',hupdate,henc,hc'⟩ := updateTelemetry_contained hc h
    rw [hupdate]
    dsimp only
    rw [dumpsError_payload henc]
    exact ⟨_,rfl,hc'⟩

theorem runPlan_contained {now : ℚ} {run : StreamRun} {i : Nat} (hc : su.Cached r)
    (h : outcome (fun _ => true) (Exc.rendersWithin 0) run.result) :
    (Runner.runPlan now run i r).1 = .ok () ∧ su.Cached (Runner.runPlan now run i r).2 := by
  unfold Runner.runPlan
  split
  · exact ⟨rfl,hc⟩
  · split
    · exact ⟨rfl,hc⟩
    · cases hrun : run.result with
      | ok result =>
        refine ⟨by simp [Runner.streamRan,hrun],?_⟩
        simp only [Runner.streamRan,hrun]
        split <;> exact hc
      | error exc =>
        obtain ⟨shown,hrepr⟩ := Exc.repr_of_rendersWithin_zero (by simpa [hrun,outcome] using h)
        refine ⟨by simp [Runner.streamRan,hrun,hrepr],?_⟩
        simp only [Runner.streamRan,hrun,hrepr,Runner.degrade]
        split <;> exact hc

theorem runPlans_contained {now : ℚ} {runs : Nat → StreamRun} {is : List Nat} (hc : su.Cached r)
    (h : ∀ i, outcome (fun _ => true) (Exc.rendersWithin 0) (runs i).result) :
    (Runner.runPlans now runs is r).1 = .ok () ∧
      su.Cached ((Runner.runPlans now runs is r).2.getLastD r) := by
  induction is generalizing r with
  | nil => exact ⟨rfl,hc⟩
  | cons i rest ih =>
    obtain ⟨hok,hc'⟩ := @runPlan_contained _ _ now _ i hc (h i)
    unfold Runner.runPlans
    split
    · rename_i hplan
      simp [hplan] at hok
    · rename_i r' hplan
      rw [hplan] at hc'
      rw [getLastD_cons]
      exact ih hc'

theorem publishScheduledStreams_contained {now : ℚ} {runs : Nat → StreamRun} (hc : su.Cached r)
    (h : ∀ i, outcome (fun _ => true) (Exc.rendersWithin 0) (runs i).result) :
    (r.publishScheduledStreams now runs).1 = .ok () ∧
      su.Cached ((r.publishScheduledStreams now runs).2.getLastD r) := by
  unfold Runner.publishScheduledStreams
  split
  · exact ⟨rfl,hc⟩
  · split
    · exact ⟨rfl,hc⟩
    · exact runPlans_contained hc h

/-- Exactly one reply, with the id of the request where the message is an object. -/
def LoopSetup.Answers (su : LoopSetup) (message : List UInt8) (reply : Reply) : Prop :=
  ∀ attr payload, su.recvJson message = .ok (.dict attr payload) → reply.id = getKey payload "id"

/-- What the iteration meets is contained: the message decodes, and so do what the device answers to it,
what telemetry reads where it is due, and what scheduled streams raise. -/
structure Iteration.Contained (su : LoopSetup) (s : LoopState) (it : Iteration) : Prop where
  message : ∀ message, it.message = some message → failed (su.recvJson message) = false
  turn : it.message.isSome → it.turn.Contained su
  telemetry : s.nextTel ≤ it.now →
    ∀ k plan, su.cfg.telemetry[k]? = some plan → su.readContained plan (it.telemetry.reads k)
  streams : ∀ i, outcome (fun _ => true) (Exc.rendersWithin 0) (it.streams i).result

variable {s : LoopState} {it : Iteration}

theorem serve_answers {turn : Turn} {message : List UInt8} (hmessage : failed (su.recvJson message) = false)
    (hturn : turn.Contained su) (hc : su.Cached s.runner) :
    ∃ s' sent, su.serve turn message s = (.ok (),s') ∧ su.Cached s'.runner ∧ s'.nextTel = s.nextTel ∧
      s'.received = s.received ++ [message] ∧ s'.sent = s.sent ++ [sent] ∧ su.Answers message sent := by
  unfold LoopSetup.serve
  dsimp only
  cases hrecv : su.recvJson message with
  | error exc => simp [hrecv,failed] at hmessage
  | ok value =>
    cases value with
    | dict attr payload =>
      dsimp only
      obtain ⟨reply,r',hhandle,hid,hsend,hc'⟩ := @handleRpcRequest_replies _ _
        (s.runner.beginOperation
          ("rpc:" ++ (getD payload "action" (.str "unknown")).text su.py.values.repr)) payload hturn hc
      obtain ⟨sent,hsent,hsentId⟩ := @sendRpcReply_sends su _ (getKey payload "action") hsend
      rw [hhandle]
      dsimp only
      rw [hsent]
      refine ⟨_,sent,rfl,hc',rfl,rfl,rfl,fun attr' payload' hpayload => ?_⟩
      rw [hrecv] at hpayload
      cases hpayload
      exact hsentId.trans hid
    | none | bool | int | float | str | list =>
      have hmalformed : ∀ result, (rpcError .none "Malformed request" none).body = .ok result →
          su.sendable result := fun result hresult => (nomatch hresult)
      obtain ⟨sent,hsent,hsentId⟩ := @sendRpcReply_sends su _ .none hmalformed
      dsimp only
      rw [hsent]
      refine ⟨_,sent,rfl,hc,rfl,rfl,rfl,fun attr' payload' hpayload => ?_⟩
      rw [hrecv] at hpayload
      cases hpayload

theorem publish_survives (h : it.Contained su s) (hc : su.Cached s.runner) :
    ∃ s', su.publish it s = (.ok (),s') ∧ su.Cached s'.runner ∧ s'.received = s.received ∧
      s'.sent = s.sent := by
  have hstreams : ∀ s₁ : LoopState, su.Cached s₁.runner → s₁.received = s.received → s₁.sent = s.sent →
      ∃ s', ((s₁.runner.publishScheduledStreams it.nowStreams it.streams).1,
        { s₁ with runner := (s₁.runner.publishScheduledStreams it.nowStreams it.streams).2.getLastD s₁.runner }) =
          ((.ok (),s') : Except Exc Unit × LoopState) ∧ su.Cached s'.runner ∧ s'.received = s.received ∧
          s'.sent = s.sent := by
    intro s₁ hc₁ hreceived hsent
    obtain ⟨hok,hc'⟩ := @publishScheduledStreams_contained _ _ it.nowStreams _ hc₁ h.streams
    exact ⟨{ s₁ with runner :=
      (s₁.runner.publishScheduledStreams it.nowStreams it.streams).2.getLastD s₁.runner },
      by rw [hok],hc',hreceived,hsent⟩
  unfold LoopSetup.publish
  dsimp only
  have hbeat : ∃ s₁, (if s.nextHb ≤ it.now then
      { s with runner := s.runner.publishHeartbeat,nextHb := it.now+su.heartbeatPeriodS } else s) = s₁ ∧
      su.Cached s₁.runner ∧ s₁.nextTel = s.nextTel ∧ s₁.received = s.received ∧ s₁.sent = s.sent := by
    split
    · exact ⟨_,rfl,hc,rfl,rfl,rfl⟩
    · exact ⟨s,rfl,hc,rfl,rfl,rfl⟩
  obtain ⟨s₁,heq,hc₁,htel,hreceived,hsent⟩ := hbeat
  rw [heq]
  split
  · rename_i hdue
    obtain ⟨r',hpublish,hc'⟩ := @publishTelemetry_contained _ _ _ su.deviceId hc₁
      (h.telemetry (htel ▸ hdue))
    rw [hpublish]
    exact hstreams { s₁ with runner := r',nextTel := it.now+su.telemetryPeriodS } hc' hreceived hsent
  · exact hstreams s₁ hc₁ hreceived hsent

theorem iterate_survives (h : it.Contained su s) (hc : su.Cached s.runner) :
    ∃ s' sent, su.iterate it s = (.ok (),s') ∧ su.Cached s'.runner ∧
      s'.received = s.received ++ it.message.toList ∧ s'.sent = s.sent ++ sent ∧
      Forall₂ su.Answers it.message.toList sent := by
  unfold LoopSetup.iterate
  cases hmessage : it.message with
  | none =>
    obtain ⟨s',hpublish,hc',hreceived,hsent⟩ := publish_survives h hc
    exact ⟨s',[],hpublish,hc',by simpa using hreceived,by simpa using hsent,.nil⟩
  | some message =>
    obtain ⟨s₁,sent,hserve,hc₁,htel,hreceived,hsent,hanswers⟩ :=
      serve_answers (h.message message hmessage) (h.turn (by simp [hmessage])) hc
    have h₁ : it.Contained su s₁ := ⟨h.message,h.turn,fun hdue => h.telemetry (htel ▸ hdue),h.streams⟩
    obtain ⟨s',hpublish,hc',hreceived',hsent'⟩ := publish_survives h₁ hc₁
    dsimp only
    rw [hserve]
    exact ⟨s',[sent],hpublish,hc',by simp [hreceived',hreceived],by rw [hsent',hsent],
      .cons hanswers .nil⟩

def LoopSetup.AllContained (su : LoopSetup) : List Iteration → LoopState → Prop
  | [],_ => True
  | it :: rest,s => s.runner.stop = false → it.Contained su s ∧ su.AllContained rest (su.iterate it s).2

theorem runLoop_survives {its : List Iteration} (h : su.AllContained its s) (hc : su.Cached s.runner) :
    ∃ s' messages sent, su.runLoop its s = (.ok (),s') ∧ s'.received = s.received ++ messages ∧
      s'.sent = s.sent ++ sent ∧ Forall₂ su.Answers messages sent ∧
      messages <+: its.filterMap Iteration.message ∧
      (s'.runner.stop = false → messages = its.filterMap Iteration.message) := by
  induction its generalizing s with
  | nil => exact ⟨s,[],[],rfl,by simp,by simp,.nil,by simp,fun _ => rfl⟩
  | cons it rest ih =>
    unfold LoopSetup.runLoop
    by_cases hstop : s.runner.stop
    · rw [if_pos hstop]
      exact ⟨s,[],[],rfl,by simp,by simp,.nil,by simp,fun hgo => by simp [hstop] at hgo⟩
    · rw [if_neg hstop]
      obtain ⟨hfirst,hrest⟩ := h (by simpa using hstop)
      obtain ⟨s₁,sent₁,hiterate,hc₁,hreceived₁,hsent₁,hanswers₁⟩ := iterate_survives hfirst hc
      rw [hiterate] at hrest ⊢
      obtain ⟨s',messages,sent,hrun,hreceived,hsent,hanswers,hinitial,hall⟩ := ih hrest hc₁
      have hmessages : (it :: rest).filterMap Iteration.message =
          it.message.toList ++ rest.filterMap Iteration.message := by
        cases hm : it.message <;> simp [hm]
      refine ⟨s',it.message.toList ++ messages,sent₁ ++ sent,hrun,?_,?_,?_,?_,?_⟩
      · rw [hreceived,hreceived₁,append_assoc]
      · rw [hsent,hsent₁,append_assoc]
      · exact rel_append hanswers₁ hanswers
      · rw [hmessages]
        exact (prefix_append_right_inj _).2 hinitial
      · intro hgo
        rw [hmessages,hall hgo]

end

def LoopState.start (plans : List ScheduledPlan) (now : ℚ) : LoopState :=
  ⟨.start plans,now,now,[],[]⟩

/-- As long as every message decodes, every exception of the device can be shown where it is, every result
is JSON or fails to be with an error that is replied, and what telemetry reads is JSON: the loop goes on,
and every message it has received, up to a shutdown, is answered once, with its id. -/
theorem no_request_ends_the_loop (su : LoopSetup) (plans : List ScheduledPlan) (now : ℚ)
    (its : List Iteration) (h : su.AllContained its (.start plans now)) :
    ∃ s', su.runLoop its (.start plans now) = (.ok (),s') ∧ Forall₂ su.Answers s'.received s'.sent ∧
      s'.received <+: its.filterMap Iteration.message ∧
      (s'.runner.stop = false → s'.received = its.filterMap Iteration.message) := by
  obtain ⟨s',messages,sent,hrun,hreceived,hsent,hanswers,hinitial,hall⟩ :=
    runLoop_survives h (cached_none (r := .start plans) rfl)
  have hreceived' : s'.received = messages := by simpa [LoopState.start] using hreceived
  have hsent' : s'.sent = sent := by simpa [LoopState.start] using hsent
  exact ⟨s',hrun,hreceived' ▸ hsent' ▸ hanswers,hreceived' ▸ hinitial,fun hgo => hreceived' ▸ hall hgo⟩

def ascii (text : String) : List UInt8 := text.toList.map fun c => UInt8.ofNat c.toNat

def connectMessage : List UInt8 := ascii "\x7b\"id\":1,\"action\":\"connect_device\"\x7d"

/-- The loop of a camera whose gain is a telemetry signal, which JSON gets as the camera gives it. The
socket is given the messages of the iterations below. -/
def cameraLoop : LoopSetup where
  py := .plain
  interp := .cpython
  cfg := ⟨[⟨"gain",[⟨"gain",none,"object"⟩]⟩],[],[]⟩
  deviceId := "camera"
  heartbeatPeriodS := 1
  telemetryPeriodS := 1
  recvJson message :=
    if message = ascii "7" then .ok (.int 7)
    else if message = connectMessage then
      .ok (.dict false [("id",.int 1),("action",.str "connect_device")])
    else .error (.plain .valueError "Expecting property name enclosed in double quotes")

def cameraIteration (message : Option (List UInt8)) (gain : Obj) : Iteration where
  message := message
  turn := wellTurn
  now := 0
  nowStreams := 0
  telemetry := ⟨⟨0,0⟩,fun _ => .returned fun _ => .ok gain⟩
  streams _ := ⟨⟨0,0⟩,.ok .none⟩

theorem wellTurn_contained : wellTurn.Contained cameraLoop where
  connect := rfl
  disconnect := rfl
  members := rfl
  getattr := rfl
  setattr := rfl
  stream := rfl
  command := trivial
  runMetadata := rfl
  identity := trivial

theorem camera_loop_answers :
    ∃ s', cameraLoop.runLoop [cameraIteration (some connectMessage) (.int 3),cameraIteration (some (ascii "7")) (.int 3)]
        (.start [] 0) = (.ok (),s') ∧ Forall₂ cameraLoop.Answers s'.received s'.sent ∧
      s'.received <+: [connectMessage,ascii "7"] ∧
      (s'.runner.stop = false → s'.received = [connectMessage,ascii "7"]) := by
  have hcontained : ∀ message s, failed (cameraLoop.recvJson message) = false →
      (cameraIteration (some message) (.int 3)).Contained cameraLoop s := by
    intro message s hmessage
    refine ⟨fun m hm => ?_,fun _ => wellTurn_contained,fun _ k plan hk => ?_,fun _ => rfl⟩
    · cases hm
      exact hmessage
    · intro i o ho
      cases k with
      | zero =>
        cases hk
        cases i with
        | zero =>
          cases ho
          rfl
        | succ i => cases ho
      | succ k => cases hk
  exact no_request_ends_the_loop cameraLoop [] 0 _
    fun _ => ⟨hcontained _ _ rfl,fun _ => ⟨hcontained _ _ rfl,trivial⟩⟩

theorem camera_loop_ended :
    (cameraLoop.runLoop [cameraIteration (some (ascii "\x7b")) (.int 3)] (.start [] 0)).2.sent = [] ∧
      failed (cameraLoop.runLoop [cameraIteration (some (ascii "\x7b")) (.int 3)] (.start [] 0)).1 ∧
      failed (cameraLoop.runLoop [cameraIteration (some connectMessage) (.array [3] "int64" (.list []))]
        (.start [] 0)).1 :=
  ⟨rfl,rfl,rfl⟩

end ExperimentControl.Driver

import Mathlib.Data.List.Sort
import ExperimentControl.Lib.OrderedDict
import ExperimentControl.Python.Value

/-!
The manager's table of command interceptor routes
(`_manager/interceptor_routes.py`): registration, removal and the cached lookup
of the chain a command goes through.
-/

namespace ExperimentControl.InterceptorRoutes
open Lib Python List

structure CommandInterceptorRoute where
  processId : String
  deviceId : String
  action : String
  order : Nat
  deriving DecidableEq

structure InterceptorRouteState where
  routes : List CommandInterceptorRoute
  chainCache : OrderedDict (String × String) (List CommandInterceptorRoute)
  nextOrder : Nat
  generation : Nat
  maxCache : Int

def InterceptorRouteState.new (maxCache : Int) : InterceptorRouteState :=
  ⟨[],.empty,0,0,maxCache⟩

def invalidate (st : InterceptorRouteState) : InterceptorRouteState :=
  { st with generation := st.generation+1, chainCache := .empty }

def dropProcess (st : InterceptorRouteState) (processId : String) :
    Bool × InterceptorRouteState :=
  let kept := { st with routes := st.routes.filter (fun route => route.processId ≠ processId) }
  if kept.routes.length ≠ st.routes.length then (true,invalidate kept) else (false,kept)

/-- One entry of a route list, as `register` reads it. -/
def readRoute (repr : Value → String) (route : Value) : Except PyExc (String × String) :=
  match route with
  | .dict _ entries =>
    let deviceId := strip ((getD entries "device_id" (.str "")).text repr)
    let action := strip ((getD entries "action" (.str "")).text repr)
    if deviceId = "" || action = "" then
      .error ⟨.valueError,"route.device_id and route.action are required"⟩
    else .ok (deviceId,action)
  | _ => .error ⟨.typeError,"route must be an object"⟩

/-- The loop of `register`. What it appended before it raises stays appended. -/
def registerRoutes (repr : Value → String) (processId : String) :
    List Value → List (String × String) → List CommandInterceptorRoute → InterceptorRouteState →
      Except PyExc (List CommandInterceptorRoute) × InterceptorRouteState
  | [],_,added,st => (.ok added,invalidate st)
  | route :: rest,seen,added,st =>
    match readRoute repr route with
    | .error e => (.error e,st)
    | .ok key =>
      if key ∈ seen then registerRoutes repr processId rest seen added st
      else
        let entry : CommandInterceptorRoute := ⟨processId,key.1,key.2,st.nextOrder+1⟩
        registerRoutes repr processId rest (key :: seen) (added ++ [entry])
          { st with nextOrder := st.nextOrder+1, routes := st.routes ++ [entry] }

def register (repr : Value → String) (st : InterceptorRouteState) (processId : String)
    (routesRaw : Value) (replace : Bool) :
    Except PyExc (List CommandInterceptorRoute) × InterceptorRouteState :=
  match routesRaw with
  | .list items =>
    let st := if replace then (dropProcess st processId).2 else st
    registerRoutes repr processId items [] [] st
  | _ => (.error ⟨.typeError,"routes must be a list"⟩,st)

def matchCommandInterceptorRoute (route : CommandInterceptorRoute) (deviceId action : String) :
    Bool :=
  if route.deviceId ≠ "*" && route.deviceId ≠ deviceId then false
  else if route.action ≠ "*" && route.action ≠ action then false
  else true

def firstPerProcess : List CommandInterceptorRoute → List String → List CommandInterceptorRoute
  | [],_ => []
  | route :: rest,seen =>
    if route.processId ∈ seen then firstPerProcess rest seen
    else route :: firstPerProcess rest (route.processId :: seen)

def uncachedChain (routes : List CommandInterceptorRoute) (deviceId action : String) :
    List CommandInterceptorRoute :=
  firstPerProcess
    ((routes.filter (matchCommandInterceptorRoute · deviceId action)).insertionSort
      (fun a b => a.order ≤ b.order)) []

def evict (maxItems : Nat) (cache : OrderedDict (String × String) (List CommandInterceptorRoute)) :
    Nat → OrderedDict (String × String) (List CommandInterceptorRoute)
  | 0 => cache
  | n+1 => if maxItems < cache.size then evict maxItems cache.popOldest n else cache

def chain (st : InterceptorRouteState) (deviceId action : String) :
    List CommandInterceptorRoute × InterceptorRouteState :=
  let key := (deviceId,action)
  match st.chainCache.get? key with
  | some cached =>
    (cached,{ st with chainCache := (st.chainCache.erase key).set key cached })
  | none =>
    let ordered := uncachedChain st.routes deviceId action
    let cache := st.chainCache.set key ordered
    -- each round of the eviction loop removes one entry, so `size` rounds are enough
    (ordered,{ st with chainCache := evict (max 32 st.maxCache).toNat cache cache.size })

inductive Call where
  | register (processId : String) (routesRaw : Value) (replace : Bool)
  | dropProcess (processId : String)
  | invalidate
  | chain (deviceId action : String)

def step (repr : Value → String) (st : InterceptorRouteState) : Call → InterceptorRouteState
  | .register processId routesRaw replace => (register repr st processId routesRaw replace).2
  | .dropProcess processId => (dropProcess st processId).2
  | .invalidate => invalidate st
  | .chain deviceId action => (chain st deviceId action).2

def run (repr : Value → String) (st : InterceptorRouteState) (calls : List Call) :
    InterceptorRouteState :=
  calls.foldl (step repr) st

def Coherent (st : InterceptorRouteState) : Prop :=
  ∀ key ordered, st.chainCache.get? key = some ordered →
    ordered = uncachedChain st.routes key.1 key.2

theorem coherent_new (maxCache : Int) : Coherent (.new maxCache) := by
  intro key ordered h
  simp [InterceptorRouteState.new] at h

theorem coherent_invalidate (st : InterceptorRouteState) : Coherent (invalidate st) := by
  intro key ordered h
  simp [invalidate] at h

variable {processId : String} {st : InterceptorRouteState}

theorem dropProcess_eq_self (h : ∀ route ∈ st.routes, route.processId ≠ processId) :
    (dropProcess st processId).2 = st := by
  have hf : st.routes.filter (fun route => route.processId ≠ processId) = st.routes :=
    filter_eq_self.2 (by simpa using h)
  simp only [dropProcess,hf,ne_eq,not_true,if_false]

theorem dropProcess_eq_invalidate
    {route : CommandInterceptorRoute} (hr : route ∈ st.routes) (hp : route.processId = processId) :
    (dropProcess st processId).2 = invalidate { st with
      routes := st.routes.filter (fun route => route.processId ≠ processId) } := by
  have hlt : (st.routes.filter (fun route => route.processId ≠ processId)).length ≠
      st.routes.length := by
    intro hl
    have hf := length_filter_eq_length_iff.1 hl route hr
    simp [hp] at hf
  simp only [dropProcess,ne_eq,hlt,not_false_iff,if_true]

theorem coherent_dropProcess (h : Coherent st) (processId : String) :
    Coherent (dropProcess st processId).2 := by
  by_cases hp : ∃ route ∈ st.routes, route.processId = processId
  · obtain ⟨route,hr,hp⟩ := hp
    rw [dropProcess_eq_invalidate hr hp]
    exact coherent_invalidate _
  · rw [dropProcess_eq_self (fun route hr hp' => hp ⟨route,hr,hp'⟩)]
    exact h

theorem evict_get? (maxItems n : Nat)
    (cache : OrderedDict (String × String) (List CommandInterceptorRoute))
    (key : String × String) (ordered : List CommandInterceptorRoute)
    (h : (evict maxItems cache n).get? key = some ordered) : cache.get? key = some ordered := by
  induction n generalizing cache with
  | zero => exact h
  | succ n ih =>
    simp only [evict] at h
    split at h
    · exact cache.get?_popOldest key ordered (ih _ h)
    · exact h

theorem chain_routes (st : InterceptorRouteState) (deviceId action : String) :
    (chain st deviceId action).2.routes = st.routes := by
  simp only [chain]
  split <;> rfl

theorem coherent_chain (h : Coherent st) (deviceId action : String) :
    Coherent (chain st deviceId action).2 := by
  intro key ordered hk
  rw [chain_routes]
  simp only [chain] at hk
  split at hk
  · rename_i cached hc
    simp only [OrderedDict.get?_set] at hk
    split at hk
    · rename_i he
      obtain rfl := Option.some.inj hk
      subst he
      exact h _ _ hc
    · exact h _ _ (st.chainCache.get?_erase _ _ _ hk)
  · have he := evict_get? _ _ _ _ _ hk
    simp only [OrderedDict.get?_set] at he
    split at he
    · rename_i hkey
      subst hkey
      exact (Option.some.inj he).symm
    · exact h _ _ he

theorem chain_eq_uncachedChain (h : Coherent st) (deviceId action : String) :
    (chain st deviceId action).1 = uncachedChain st.routes deviceId action := by
  simp only [chain]
  split
  · rename_i cached hc
    exact h _ _ hc
  · rfl

section
variable {routes : List CommandInterceptorRoute} {route : CommandInterceptorRoute}

theorem sublist_firstPerProcess (routes : List CommandInterceptorRoute) (seen : List String) :
    (firstPerProcess routes seen).Sublist routes := by
  induction routes generalizing seen with
  | nil => exact .slnil
  | cons route rest ih =>
    rw [firstPerProcess]
    split
    · exact (ih seen).cons route
    · exact (ih _).cons_cons route

theorem unseen_of_mem_firstPerProcess {seen : List String}
    (h : route ∈ firstPerProcess routes seen) : route.processId ∉ seen := by
  induction routes generalizing seen with
  | nil => cases h
  | cons first rest ih =>
    rw [firstPerProcess] at h
    split at h
    · exact ih h
    · rename_i hfirst
      rcases mem_cons.1 h with rfl | h
      · exact hfirst
      · exact fun hseen => ih h (mem_cons_of_mem _ hseen)

theorem nodup_firstPerProcess (routes : List CommandInterceptorRoute) (seen : List String) :
    ((firstPerProcess routes seen).map (·.processId)).Nodup := by
  induction routes generalizing seen with
  | nil => exact nodup_nil
  | cons route rest ih =>
    rw [firstPerProcess]
    split
    · exact ih seen
    · refine nodup_cons.2 ⟨fun hmem => ?_,ih _⟩
      obtain ⟨other,hother,hsame⟩ := mem_map.1 hmem
      exact unseen_of_mem_firstPerProcess hother (by simp [hsame])

theorem exists_firstPerProcess {seen : List String}
    (hsorted : routes.Pairwise fun a b => a.order ≤ b.order) (h : route ∈ routes)
    (hseen : route.processId ∉ seen) :
    ∃ first ∈ firstPerProcess routes seen,
      first.processId = route.processId ∧ first.order ≤ route.order := by
  induction routes generalizing seen with
  | nil => cases h
  | cons head rest ih =>
    obtain ⟨hhead,hsorted⟩ := pairwise_cons.1 hsorted
    rw [firstPerProcess]
    split
    · rename_i hdropped
      rcases mem_cons.1 h with rfl | h
      · exact absurd hdropped hseen
      · exact ih hsorted h hseen
    · rcases mem_cons.1 h with rfl | h
      · exact ⟨route,mem_cons_self,rfl,Nat.le_refl _⟩
      · by_cases hsame : head.processId = route.processId
        · exact ⟨head,mem_cons_self,hsame,hhead route h⟩
        · have hnew : route.processId ∉ head.processId :: seen := by simp [hseen,Ne.symm hsame]
          obtain ⟨first,hfirst,hof⟩ := ih hsorted h hnew
          exact ⟨first,mem_cons_of_mem _ hfirst,hof⟩

/-- The chain is made of matching routes, in ascending order, with one route for each process that
has a matching one: its first. -/
theorem uncachedChain_spec (routes : List CommandInterceptorRoute) (deviceId action : String) :
    let chain := uncachedChain routes deviceId action
    (∀ route ∈ chain, route ∈ routes ∧ matchCommandInterceptorRoute route deviceId action = true) ∧
    chain.Pairwise (fun a b => a.order ≤ b.order) ∧ (chain.map (·.processId)).Nodup ∧
    ∀ route ∈ routes, matchCommandInterceptorRoute route deviceId action = true →
      ∃ first ∈ chain, first.processId = route.processId ∧ first.order ≤ route.order := by
  have hsorted := pairwise_insertionSort
    (fun a b : CommandInterceptorRoute => a.order ≤ b.order)
    (routes.filter (matchCommandInterceptorRoute · deviceId action))
  have hmem : ∀ route, route ∈ (routes.filter (matchCommandInterceptorRoute · deviceId action)
      ).insertionSort (fun a b => a.order ≤ b.order) ↔
        route ∈ routes ∧ matchCommandInterceptorRoute route deviceId action = true :=
    fun route => (perm_insertionSort _ _).mem_iff.trans mem_filter
  refine ⟨fun route hroute => ?_,?_,nodup_firstPerProcess _ _,fun route hroute hmatch => ?_⟩
  · exact (hmem route).1 ((sublist_firstPerProcess _ _).subset hroute)
  · exact hsorted.sublist (sublist_firstPerProcess _ _)
  · exact exists_firstPerProcess hsorted ((hmem route).2 ⟨hroute,hmatch⟩) (by simp)

end

variable (repr : Value → String)

theorem coherent_registerRoutes (processId : String) (items : List Value)
    (seen : List (String × String)) (added : List CommandInterceptorRoute)
    (st : InterceptorRouteState) (hok : ∀ item ∈ items, (readRoute repr item).isOk) :
    Coherent (registerRoutes repr processId items seen added st).2 := by
  induction items generalizing seen added st with
  | nil => exact coherent_invalidate st
  | cons item rest ih =>
    have hi := hok item (by simp)
    have hr : ∀ item ∈ rest, (readRoute repr item).isOk := fun x hx => hok x (by simp [hx])
    cases hread : readRoute repr item with
    | error e => simp [hread,Except.isOk,Except.toBool] at hi
    | ok key =>
      simp only [registerRoutes,hread]
      split
      · exact ih _ _ _ hr
      · exact ih _ _ _ hr

theorem registerRoutes_isOk (processId : String) (items : List Value)
    (seen : List (String × String)) (added : List CommandInterceptorRoute)
    (st : InterceptorRouteState) : (registerRoutes repr processId items seen added st).1.isOk ↔
      ∀ item ∈ items, (readRoute repr item).isOk := by
  induction items generalizing seen added st with
  | nil => simp [registerRoutes,Except.isOk,Except.toBool]
  | cons item rest ih =>
    cases hread : readRoute repr item with
    | error e => simp [registerRoutes,hread,Except.isOk,Except.toBool]
    | ok key =>
      simp only [registerRoutes,hread,mem_cons,forall_eq_or_imp]
      split
      · simpa [Except.isOk,Except.toBool] using ih _ _ _
      · simpa [Except.isOk,Except.toBool] using ih _ _ _

theorem registerRoutes_nextOrder_le (processId : String)
    (items : List Value) (seen : List (String × String)) (added : List CommandInterceptorRoute)
    (st : InterceptorRouteState) :
    st.nextOrder ≤ (registerRoutes repr processId items seen added st).2.nextOrder := by
  induction items generalizing seen added st with
  | nil => exact Nat.le_refl _
  | cons item rest ih =>
    cases hread : readRoute repr item with
    | error e => simp [registerRoutes,hread]
    | ok key =>
      simp only [registerRoutes,hread]
      split
      · exact ih _ _ _
      · exact Nat.le_trans (Nat.le_succ _) (ih _ _ { st with
          nextOrder := st.nextOrder+1
          routes := st.routes ++ [⟨processId,key.1,key.2,st.nextOrder+1⟩] })

/-- The call meets its first malformed entry only after it has dropped or
appended a route. -/
def FailsLate (repr : Value → String) (st : InterceptorRouteState) (processId : String)
    (routesRaw : Value) (replace : Bool) : Prop :=
  match routesRaw with
  | .list [] => False
  | .list (first :: rest) =>
    (∃ item ∈ first :: rest, ¬ (readRoute repr item).isOk) ∧
      ((readRoute repr first).isOk ∨
        replace = true ∧ ∃ route ∈ st.routes, route.processId = processId)
  | _ => False

def CleanCall (repr : Value → String) (st : InterceptorRouteState) : Call → Prop
  | .register processId routesRaw replace => ¬ FailsLate repr st processId routesRaw replace
  | _ => True

/-- The states of runs in which no registration fails late. -/
inductive CleanReachable (repr : Value → String) : InterceptorRouteState → Prop where
  | new (maxCache : Int) : CleanReachable repr (.new maxCache)
  | step {st : InterceptorRouteState} {call : Call} :
      CleanReachable repr st → CleanCall repr st call → CleanReachable repr (step repr st call)

variable {repr : Value → String}

theorem register_eq_self {routesRaw : Value} {replace : Bool} {e : PyExc}
    (he : (register repr st processId routesRaw replace).1 = .error e)
    (hl : ¬ FailsLate repr st processId routesRaw replace) :
    (register repr st processId routesRaw replace).2 = st := by
  unfold register at he ⊢
  split at he
  · rename_i items
    cases items with
    | nil => simp [registerRoutes] at he
    | cons first rest =>
      have hbad : ∃ item ∈ first :: rest, ¬ (readRoute repr item).isOk := by
        by_contra hno
        have hall : ∀ item ∈ first :: rest, (readRoute repr item).isOk := by
          intro item hi
          by_contra hb
          exact hno ⟨item,hi,hb⟩
        have hok := (registerRoutes_isOk repr processId (first :: rest) [] []
          (if replace then (dropProcess st processId).2 else st)).2 hall
        simp [he,Except.isOk,Except.toBool] at hok
      have hfirst : ¬ (readRoute repr first).isOk := fun h => hl ⟨hbad,.inl h⟩
      have hdrop : replace = true → (dropProcess st processId).2 = st := by
        intro hr
        apply dropProcess_eq_self
        intro route hroute hp
        exact hl ⟨hbad,.inr ⟨hr,route,hroute,hp⟩⟩
      cases hread : readRoute repr first with
      | ok key => simp [hread,Except.isOk,Except.toBool] at hfirst
      | error e' =>
        cases replace with
        | true => simp [registerRoutes,hread,hdrop rfl]
        | false => simp [registerRoutes,hread]
  · rfl

theorem register_changes
    {routesRaw : Value} {replace : Bool} (hl : FailsLate repr st processId routesRaw replace) :
    (register repr st processId routesRaw replace).2.routes ≠ st.routes ∨
      (register repr st processId routesRaw replace).2.nextOrder ≠ st.nextOrder := by
  unfold FailsLate at hl
  split at hl
  · exact hl.elim
  · rename_i first rest
    have hno : ∀ st', (dropProcess st' processId).2.nextOrder = st'.nextOrder := by
      intro st'
      simp only [dropProcess]
      split <;> rfl
    cases hread : readRoute repr first with
    | ok key =>
      right
      have hle := registerRoutes_nextOrder_le repr processId rest [key]
        [⟨processId,key.1,key.2,st.nextOrder+1⟩]
      simp only [register,registerRoutes,hread,not_mem_nil,if_false,nil_append]
      cases replace with
      | true =>
        have h := hle { (dropProcess st processId).2 with
          nextOrder := (dropProcess st processId).2.nextOrder+1
          routes := (dropProcess st processId).2.routes ++
            [⟨processId,key.1,key.2,(dropProcess st processId).2.nextOrder+1⟩] }
        simp only [if_true,hno] at h ⊢
        omega
      | false =>
        have h := hle { st with
          nextOrder := st.nextOrder+1
          routes := st.routes ++ [⟨processId,key.1,key.2,st.nextOrder+1⟩] }
        simp only [Bool.false_eq_true,if_false] at h ⊢
        omega
    | error e =>
      left
      obtain ⟨-,hor⟩ := hl
      rcases hor with h | ⟨rfl,route,hr,hp⟩
      · simp [hread,Except.isOk,Except.toBool] at h
      · simp only [register,registerRoutes,hread,if_true,dropProcess_eq_invalidate hr hp,invalidate]
        intro hf
        have := filter_eq_self.1 hf route hr
        simp [hp] at this
  · exact hl.elim

theorem coherent_step (h : Coherent st)
    {call : Call} (hc : CleanCall repr st call) : Coherent (step repr st call) := by
  cases call with
  | register processId routesRaw replace =>
    simp only [step]
    cases he : (register repr st processId routesRaw replace).1 with
    | error e => rw [register_eq_self he hc]; exact h
    | ok added =>
      unfold register at he ⊢
      split at he
      · apply coherent_registerRoutes
        rw [← registerRoutes_isOk repr processId,he]
        rfl
      · simp at he
  | dropProcess processId => exact coherent_dropProcess h processId
  | invalidate => exact coherent_invalidate st
  | chain deviceId action => exact coherent_chain h deviceId action

theorem coherent_of_cleanReachable (h : CleanReachable repr st) : Coherent st := by
  induction h with
  | new maxCache => exact coherent_new maxCache
  | step _ hc ih => exact coherent_step ih hc

/-- As long as no registration fails late, the cached chain is the one the current
routes give; and there a failing registration leaves the table, and with it every
later chain, as it was exactly when it does not fail late. -/
theorem registration_atomic_and_chain_coherent (repr : Value → String)
    (st : InterceptorRouteState) (h : CleanReachable repr st) :
    (∀ processId routesRaw replace e st',
      register repr st processId routesRaw replace = (.error e,st') →
      ((st'.routes = st.routes ∧ st'.nextOrder = st.nextOrder ∧ ∀ later deviceId action,
          (chain (run repr st' later) deviceId action).1 =
            (chain (run repr st later) deviceId action).1) ↔
        ¬ FailsLate repr st processId routesRaw replace)) ∧ ∀ deviceId action,
      (chain st deviceId action).1 = uncachedChain st.routes deviceId action := by
  have hcoh := coherent_of_cleanReachable h
  refine ⟨?_,fun deviceId action => chain_eq_uncachedChain hcoh deviceId action⟩
  intro processId routesRaw replace e st' he
  have he₁ : (register repr st processId routesRaw replace).1 = .error e := by rw [he]
  have he₂ : (register repr st processId routesRaw replace).2 = st' := by rw [he]
  subst he₂
  constructor
  · rintro ⟨hr,hn,-⟩ hl
    rcases register_changes hl with hc | hc
    · exact hc hr
    · exact hc hn
  · intro hl
    rw [register_eq_self he₁ hl]
    exact ⟨rfl,rfl,fun _ _ _ => rfl⟩

def routeEntry (deviceId action : String) : Value :=
  .dict false [("device_id",.str deviceId),("action",.str action)]

def interlockRoute : Call :=
  .register "interlock" (.list [routeEntry "hv" "enable_output"]) true

theorem cleanReachable_interlockRoute :
    CleanReachable (fun _ => "") (step (fun _ => "") (.new 2048) interlockRoute) := by
  refine .step (.new 2048) ?_
  rintro ⟨⟨item,hi,hb⟩,-⟩
  obtain rfl : item = routeEntry "hv" "enable_output" := by simpa using hi
  exact hb (by decide)

theorem registration_atomic_first_entry :
    let st := step (fun _ => "") (.new 2048) interlockRoute
    let failed := register (fun _ => "") st "guard" (.list [.none]) true
    failed.1 = .error ⟨.typeError,"route must be an object"⟩ ∧
      failed.2.routes = st.routes ∧ failed.2.nextOrder = st.nextOrder ∧
      (chain st "hv" "enable_output").1 = uncachedChain st.routes "hv" "enable_output" := by
  intro st failed
  have h := registration_atomic_and_chain_coherent (fun _ => "") st cleanReachable_interlockRoute
  have hlate : ¬ FailsLate (fun _ => "") st "guard" (.list [.none]) true := by
    rintro ⟨-,hok | ⟨-,route,hr,hp⟩⟩
    · exact absurd hok (by decide)
    · have hroutes : st.routes = [⟨"interlock","hv","enable_output",1⟩] := by decide
      rw [hroutes,mem_singleton] at hr
      subst hr
      exact absurd hp (by decide)
  have hsame := (h.1 "guard" (.list [.none]) true _ failed.2 rfl).2 hlate
  exact ⟨rfl,hsame.1,hsame.2.1,h.2 _ _⟩

theorem late_failure_bypasses_route :
    let st := run (fun _ => "") (.new 2048) [interlockRoute,.chain "hv" "enable_output"]
    let failed := register (fun _ => "") st "guard"
      (.list [routeEntry "hv" "enable_output",.none]) true
    failed.1 = .error ⟨.typeError,"route must be an object"⟩ ∧
      failed.2.nextOrder ≠ st.nextOrder ∧ failed.2.routes ≠ st.routes ∧
      (chain failed.2 "hv" "enable_output").1 ≠
        uncachedChain failed.2.routes "hv" "enable_output" := by
  refine ⟨rfl,by decide,by decide,by decide⟩

end ExperimentControl.InterceptorRoutes

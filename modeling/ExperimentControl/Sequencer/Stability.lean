import ExperimentControl.Sequencer.Observation

/-!
How long the condition of a `wait_until` step has held when the step is through: the attempts to take
a sample that the step makes over its ticks, and the timer that it keeps of them.
-/

namespace ExperimentControl.Sequencer
open Lib Python Prog

variable {World : Type}

/-- An attempt to take a sample: the call for it fails, or there is one, which may be `None`, and the
condition is judged on it. -/
inductive Sampled where
  | failed
  | judged (sample : Value) (held : Bool)
  deriving DecidableEq

structure Attempt where
  at_ : F64
  sampled : Sampled
  deriving DecidableEq

def Attempt.held (a : Attempt) : Bool :=
  match a.sampled with
  | .failed => false
  | .judged _ held => held

section
variable (host : Host World) (vars : Env)

/-- What `_step_wait_until` does with a sample before it looks at its timer. -/
def conditionMet (t : F64) (ws : WaitState) (sample : Value) : D World (WaitState × Bool) := do
  let (ws,stamp) ← noteSample host
    { ws with lastCallError := none, lastValue := sample, lastAgeS := none }
  let samples := addSample t sample stamp ws.samples
  setWait (some { ws with samples := samples })
  let samples ← except (windowOf host t ws.reduceSpec samples)
  let samples := samples.drop (samples.length-ws.maxSamples)
  setWait (some { ws with samples := samples })
  let reduced ← except (reduceSamples host ws.reduceSpec sample samples)
  bindName "sample" sample
  bindName "samples" (.list (samples.map Prod.snd))
  bindName "sample_reduced" reduced
  let ok ← evalConditionLive host vars ws.condition "wait_until" true
  pure (ws,ok)

def timedOut (t : F64) (ws : WaitState) : Bool :=
  (Value.float ws.timeoutS).truthy && host.num.lt ws.timeoutS (host.num.sub t ws.startT)

def sampling (t : F64) (ws : WaitState) : D World (Option Sampled) :=
  if timedOut host t ws then pure none
  else if host.num.lt t ws.nextSampleT then pure none
  else do
    let view ← envView vars
    let sample ← attempt (resolveValue host vars view (.dict false ws.sampleSpec))
    match sample with
    | .error _ => pure (some .failed)
    | .ok sample => do
      let (_,held) ← conditionMet host vars t ws sample
      pure (some (.judged sample held))

end

def TimerAt (since : Option F64) (stableForS : F64) (d : Data World) : Prop :=
  ∃ ws, d.waitState = some ws ∧ ws.stableSince = since ∧ ws.stableForS = stableForS

section
variable {host : Host World} {vars : Env} {since : Option F64} {stableForS : F64}

theorem Outward.timer {α : Type} {x : D World α} (h : Outward x) :
    Keeps (TimerAt since stableForS) x := by
  intro n d hd
  have hback : ∀ d' : Data World, Beside d d' → TimerAt since stableForS d' := by
    intro d' hd'
    obtain ⟨ws,hws,htimer⟩ := hd
    exact ⟨ws,by rw [hd']; exact hws,htimer⟩
  exact (h d).conseq (fun _ h => h) (fun _ => hback) (fun _ => hback) n d (Beside.refl d)

theorem outward_renderIn (view : Env) (v : Value) : Outward (renderIn host view v) :=
  outward_except _

theorem outward_envView : Outward (envView vars : D World Env) := fun _ => keeps_ofFun fun _ h => h

theorem outward_resolveTelemetry (spec : Value) : Outward (resolveTelemetry host spec) := by
  unfold resolveTelemetry
  split
  · refine outward_ite (outward_pure _) (outward_bind (outward_except _) fun _ => ?_)
    refine outward_bind (outward_dispatchGetTelemetry _ _ _) fun sample => ?_
    split
    · exact outward_pure _
    · exact outward_pure _
    · exact outward_bind (outward_telemetrySampleAge _) fun _ =>
        outward_ite (outward_pure _) (outward_pure _)
  · exact outward_pure _

theorem outward_resolveCall (view : Env) (spec : Value) : Outward (resolveCall host vars view spec) := by
  unfold resolveCall
  split
  · refine outward_bind (outward_renderCallTarget _ _ _ _) fun _ => ?_
    refine outward_bind (outward_renderIn _ _) fun _ => ?_
    refine outward_bind (outward_dispatchCall _ _ _ _) fun _ => outward_ite ?_ (outward_raise _)
    split
    · exact outward_except _
    · exact outward_pure _
  · exact outward_pure _

mutual
theorem outward_resolveValue (view : Env) : (v : Value) → Outward (resolveValue host vars view v)
  | .dict _ entries => by
    unfold resolveValue
    split
    · exact outward_bind (outward_renderIn _ _) fun _ => outward_resolveTelemetry _
    · split
      · exact outward_resolveCall _ _
      · exact outward_bind (outward_resolveEntries view entries) fun _ => outward_pure _
  | .list items => by
    unfold resolveValue
    exact outward_bind (outward_resolveItems view items) fun _ => outward_pure _
  | .none => by unfold resolveValue; exact outward_renderIn _ _
  | .bool _ => by unfold resolveValue; exact outward_renderIn _ _
  | .int _ => by unfold resolveValue; exact outward_renderIn _ _
  | .float _ => by unfold resolveValue; exact outward_renderIn _ _
  | .str _ => by unfold resolveValue; exact outward_renderIn _ _
theorem outward_resolveEntries (view : Env) :
    (entries : Entries) → Outward (resolveEntries host vars view entries)
  | [] => outward_pure _
  | (key,v) :: rest => by
    unfold resolveEntries
    exact outward_bind (outward_resolveValue view v) fun _ =>
      outward_bind (outward_resolveEntries view rest) fun _ => outward_pure _
theorem outward_resolveItems (view : Env) :
    (items : List Value) → Outward (resolveItems host vars view items)
  | [] => outward_pure _
  | v :: rest => by
    unfold resolveItems
    exact outward_bind (outward_resolveValue view v) fun _ =>
      outward_bind (outward_resolveItems view rest) fun _ => outward_pure _
end

theorem timer_evalConditionLive (cond : Value) (kind : String) (polling : Bool) :
    Keeps (TimerAt since stableForS) (evalConditionLive host vars cond kind polling) := by
  have hholds : Outward (conditionHolds host vars cond) :=
    outward_bind outward_envView fun _ =>
      outward_bind (outward_resolveValue _ _) fun _ => outward_except _
  have hraise : ∀ e, Keeps (TimerAt since stableForS) (Prog.raise e : D World Bool) :=
    fun _ => .raise fun _ h => h
  have hno : Keeps (TimerAt since stableForS) (pure false : D World Bool) :=
    .pure fun _ h => h
  refine .tryCatch hholds.timer fun e => ?_
  refine .ite (fun _ => ?_) fun _ => hraise _
  split
  · exact hraise _
  · refine .bind (.modify fun d hd => ?_) fun _ => hno
    obtain ⟨ws,hws,hsince,hstable⟩ := hd
    exact ⟨{ ws with lastCallError := some e.message },by simp only [hws,Option.map_some],hsince,hstable⟩
  · exact hno
  · exact .ite (fun _ => hraise _) fun _ => hno

theorem noteSample_timer (ws : WaitState) : Triple (fun _ => True) (noteSample host ws)
      (fun r _ => r.1.stableSince = ws.stableSince ∧ r.1.stableForS = ws.stableForS)
      (fun _ _ => True) := by
  unfold noteSample
  split
  · refine .ite (fun _ => .pure fun _ _ => ⟨rfl,rfl⟩) fun _ => ?_
    refine .bind .any fun _ => ?_
    refine .bind .any fun cached => ?_
    cases cached with
    | none => exact .pure fun _ _ => ⟨rfl,rfl⟩
    | some sample =>
      exact .bind .any fun _ => .pure fun _ _ => ⟨rfl,rfl⟩
  · exact .pure fun _ _ => ⟨rfl,rfl⟩

theorem conditionMet_timer (t : F64) (ws : WaitState) (sample : Value) :
    Triple (fun _ => True) (conditionMet host vars t ws sample)
      (fun _ => TimerAt ws.stableSince ws.stableForS) (fun _ _ => True) := by
  refine .bind (noteSample_timer _) fun r => ?_
  intro n d hr
  have hbind : ∀ name v, Keeps (TimerAt ws.stableSince ws.stableForS)
      (bindName name v : D World Unit) := fun _ _ => .modify fun _ h => h
  refine (?_ : Triple (fun _ => True) _ (fun _ => TimerAt ws.stableSince ws.stableForS)
    (fun _ _ => True)) n d trivial
  refine .bind .any fun _ => .bind .any fun samples => ?_
  refine .bind (Q := fun _ => TimerAt ws.stableSince ws.stableForS)
    (.modify fun _ _ => ⟨_,rfl,hr.1,hr.2⟩) fun _ => ?_
  suffices hkeeps : Keeps (TimerAt ws.stableSince ws.stableForS) _ from
    hkeeps.conseq (fun _ h => h) (fun _ _ h => h) fun _ _ _ => trivial
  refine .bind (outward_except _).timer fun _ => ?_
  refine .bind (hbind _ _) fun _ => .bind (hbind _ _) fun _ => ?_
  refine .bind (hbind _ _) fun _ => ?_
  exact .bind (timer_evalConditionLive _ _ _) fun _ => .pure fun _ h => h

theorem takeSample_eq (t : F64) (ws : WaitState) (sample : Value) :
    takeSample host vars t ws sample = conditionMet host vars t ws sample >>= fun r =>
      Prog.get >>= fun d => judgeWait host t r.2 (d.waitState.getD r.1) := by
  simp only [takeSample,conditionMet,bind_assoc,bind_pure_left]

def StillWaiting (poll : Poll) (d : Data World) (since : Option F64) (stableForS : F64) : Prop :=
  poll = .pending ∧ TimerAt since stableForS d

theorem judgeWait_run {t : F64} {ok : Bool} {ws : WaitState} {n : Nat} {d d' : Data World} {poll : Poll}
    (h : (judgeWait host t ok ws).run n d = .ok poll d') :
    (ok = false ∧ StillWaiting poll d' none ws.stableForS) ∨
    (ok = true ∧ StillWaiting poll d' (some (ws.stableSince.getD t)) ws.stableForS) ∨
    (ok = true ∧ poll = .finished ∧ ((Value.float ws.stableForS).truthy = true →
      host.num.le ws.stableForS (host.num.sub t (ws.stableSince.getD t)) = true)) := by
  unfold judgeWait at h
  cases ok with
  | false =>
    cases h
    exact .inl ⟨rfl,rfl,_,rfl,rfl,rfl⟩
  | true =>
    simp only [if_true] at h
    split at h
    · split at h
      · rename_i hlong
        cases h
        exact .inr (.inr ⟨rfl,rfl,fun _ => hlong⟩)
      · cases h
        exact .inr (.inl ⟨rfl,rfl,_,rfl,rfl,rfl⟩)
    · rename_i hno
      cases h
      exact .inr (.inr ⟨rfl,rfl,fun hyes => absurd hyes hno⟩)

theorem stepWaitUntil_cases {t : F64} {ws : WaitState} {n : Nat} {d d' : Data World} {poll : Poll}
    (hws : d.waitState = some ws) (hrun : (stepWaitUntil host vars t ws).run n d = .ok poll d') :
    ∃ attempt d'', (sampling host vars t ws).run n d = .ok attempt d'' ∧
      match attempt with
      | none => (∃ message, poll = .failed message) ∨ StillWaiting poll d' ws.stableSince ws.stableForS
      | some .failed =>
        (∃ message, poll = .failed message) ∨ StillWaiting poll d' ws.stableSince ws.stableForS
      | some (.judged _ held) =>
        (held = false ∧ StillWaiting poll d' none ws.stableForS) ∨
        (held = true ∧ StillWaiting poll d' (some (ws.stableSince.getD t)) ws.stableForS) ∨
        (held = true ∧ poll = .finished ∧ ((Value.float ws.stableForS).truthy = true →
          host.num.le ws.stableForS (host.num.sub t (ws.stableSince.getD t)) = true)) := by
  unfold stepWaitUntil at hrun
  unfold sampling
  by_cases htime : timedOut host t ws = true
  · rw [if_pos htime]
    rw [if_pos (show (_ && _) = true from htime)] at hrun
    cases hrun
    exact ⟨none,d,rfl,.inl ⟨_,rfl⟩⟩
  · rw [if_neg htime]
    rw [if_neg (show ¬ (_ && _) = true from htime)] at hrun
    by_cases hearly : host.num.lt t ws.nextSampleT = true
    · rw [if_pos hearly] at hrun ⊢
      cases hrun
      exact ⟨none,d,rfl,.inr ⟨rfl,ws,hws,rfl,rfl⟩⟩
    · rw [if_neg hearly] at hrun ⊢
      have hview : (envView vars : D World Env).run n d = .ok (buildEnvView d.env vars) d := rfl
      simp only [run_bind,hview,run_attempt] at hrun ⊢
      cases hsample : (resolveValue host vars (buildEnvView d.env vars)
          (.dict false ws.sampleSpec)).run n d with
      | diverged => simp [hsample] at hrun
      | raised e d₁ =>
        simp only [hsample] at hrun
        refine ⟨some .failed,d₁,rfl,?_⟩
        split at hrun
        · cases hrun
          exact .inl ⟨_,rfl⟩
        · cases hrun
          exact .inr ⟨rfl,_,rfl,rfl,rfl⟩
        · cases hrun
      | ok sample d₁ =>
        simp only [hsample,takeSample_eq,run_bind] at hrun
        cases hmet : (conditionMet host vars t ws sample).run n d₁ with
        | diverged => simp [hmet] at hrun
        | raised e d₂ => simp [hmet] at hrun
        | ok r d₂ =>
          obtain ⟨ws₂,held⟩ := r
          obtain ⟨ws',hws',hsince,hstable⟩ := (conditionMet_timer t ws sample).ok trivial hmet
          simp only [hmet,run_get,hws',Option.getD_some] at hrun
          refine ⟨some (.judged sample held),d₂,by simp [hmet,run_bind],?_⟩
          have hjudge := judgeWait_run hrun
          rwa [hsince,hstable] at hjudge

end

def noted (t : F64) (attempt : Option Sampled) : List Attempt :=
  (attempt.map fun sampled => ⟨t,sampled⟩).toList

/-- A `wait_until` step under way: the attempts that its ticks have made, each of which meets the
condition, and where it stands. Between its ticks anything else may change; ticks in which the run is
paused do not get as far as the step. -/
inductive Awaited (host : Host World) (ok : WaitState → Option Sampled → Prop) :
    List Attempt → WaitState → Prop where
  | start {vars : Env} {raw : Entries} {n : Nat} {d d' : Data World} {ws : WaitState} :
    (startWaitUntil host vars raw).run n d = .ok () d' → d'.waitState = some ws →
    Awaited host ok [] ws
  | tick {history : List Attempt} {ws ws' : WaitState} {vars : Env} {t : F64} {n : Nat}
      {d d' d'' : Data World} {attempt : Option Sampled} :
    Awaited host ok history ws → d.waitState = some ws →
    (sampling host vars t ws).run n d = .ok attempt d'' → ok ws attempt →
    (stepWaitUntil host vars t ws).run n d = .ok .pending d' → d'.waitState = some ws' →
    Awaited host ok (history ++ noted t attempt) ws'

def MissedUntimed (ws : WaitState) (attempt : Option Sampled) : Prop :=
  attempt = some .failed → ws.stableSince = none

instance (ws : WaitState) (attempt : Option Sampled) : Decidable (MissedUntimed ws attempt) :=
  inferInstanceAs (Decidable (attempt = some .failed → ws.stableSince = none))

/-- There was an attempt at that time, and from then on every attempt got a sample that met the
condition. -/
def HeldSince (t0 : F64) (history : List Attempt) : Prop :=
  ∃ older first since, history = older ++ first :: since ∧ first.at_ = t0 ∧
    ∀ a ∈ first :: since, a.held = true

variable {history : List Attempt}

theorem HeldSince.append {t0 : F64} {a : Attempt}
    (h : HeldSince t0 history) (ha : a.held = true) : HeldSince t0 (history ++ [a]) := by
  obtain ⟨older,first,since,rfl,hfirst,hsince⟩ := h
  refine ⟨older,first,since ++ [a],by simp,hfirst,fun x hx => ?_⟩
  rw [← List.cons_append,List.mem_append,List.mem_singleton] at hx
  rcases hx with hx | rfl
  · exact hsince x hx
  · exact ha

theorem heldSince_last {a : Attempt} (ha : a.held = true) : HeldSince a.at_ (history ++ [a]) :=
  ⟨history,a,[],rfl,rfl,by simpa using ha⟩

section
variable {host : Host World} {vars : Env}

theorem startWaitUntil_timer (raw : Entries) : Triple (fun _ => True) (startWaitUntil host vars raw)
      (fun _ d => ∀ ws, d.waitState = some ws → ws.stableSince = none) (fun _ _ => True) := by
  unfold startWaitUntil
  refine .bind .any fun view => .bind .any fun _ => ?_
  refine .bind .any fun _ => .bind .any fun _ => ?_
  refine .bind .any fun _ => .bind .any fun _ => ?_
  refine .bind .any fun t => .modify fun d _ ws hws => ?_
  cases hws
  rfl

theorem heldSince_judged {history : List Attempt} {ws : WaitState} {t : F64} {sample : Value}
    (hheld : ∀ t0, ws.stableSince = some t0 → HeldSince t0 history) :
    HeldSince (ws.stableSince.getD t) (history ++ [⟨t,.judged sample true⟩]) := by
  cases hsince : ws.stableSince with
  | none => exact heldSince_last (a := ⟨t,.judged sample true⟩) rfl
  | some t0 => exact (hheld t0 hsince).append rfl

theorem heldSince_of_awaited {history : List Attempt} {ws : WaitState}
    (h : Awaited host MissedUntimed history ws) :
    ∀ t0, ws.stableSince = some t0 → HeldSince t0 history := by
  induction h with
  | start hrun hws =>
    intro t0 ht0
    rw [(startWaitUntil_timer _).ok trivial hrun _ hws] at ht0
    cases ht0
  | @tick history ws ws' vars t n d d' d'' attempt _ hws hsampling hok hrun hws' ih =>
    intro t0 ht0
    obtain ⟨attempt',_,hsampling',hcases⟩ := stepWaitUntil_cases hws hrun
    obtain rfl : attempt = attempt' := by
      rw [hsampling] at hsampling'
      cases hsampling'
      rfl
    -- the timer that the tick leaves is the one that the next tick finds
    have hfind : ∀ since stableForS, TimerAt since stableForS d' → since = some t0 := by
      rintro since stableForS ⟨w,hw,hsince,_⟩
      obtain rfl : ws' = w := Option.some.inj (hws'.symm.trans hw)
      exact hsince.symm.trans ht0
    match attempt,hcases,hok with
    | none,hcases,_ =>
      rcases hcases with ⟨message,hfailed⟩ | ⟨_,htimer⟩
      · cases hfailed
      · simpa [noted] using ih t0 (hfind _ _ htimer)
    | some .failed,hcases,hok =>
      rcases hcases with ⟨message,hfailed⟩ | ⟨_,htimer⟩
      · cases hfailed
      · have hnone := hfind _ _ htimer
        rw [hok rfl] at hnone
        cases hnone
    | some (.judged sample held),hcases,_ =>
      rcases hcases with ⟨_,_,htimer⟩ | ⟨rfl,_,htimer⟩ | ⟨_,hfinished,_⟩
      · cases hfind _ _ htimer
      · have ht := hfind _ _ htimer
        rw [Option.some.injEq] at ht
        exact ht ▸ heldSince_judged ih
      · cases hfinished

/-- Where no call for a sample fails while the timer runs, a step that has to be stable is through only
after its condition has held at every attempt for that long. -/
theorem through_when_stable {history : List Attempt} {ws : WaitState}
    (h : Awaited host MissedUntimed history ws) {t : F64} {n : Nat} {d d' : Data World}
    (hws : d.waitState = some ws) (hstable : (Value.float ws.stableForS).truthy = true)
    (hrun : (stepWaitUntil host vars t ws).run n d = .ok .finished d') :
    ∃ sample d'' t0, (sampling host vars t ws).run n d = .ok (some (.judged sample true)) d'' ∧
      HeldSince t0 (history ++ [⟨t,.judged sample true⟩]) ∧
      host.num.le ws.stableForS (host.num.sub t t0) = true := by
  obtain ⟨attempt,d'',hsampling,hcases⟩ := stepWaitUntil_cases hws hrun
  match attempt,hcases with
  | none,hcases =>
    rcases hcases with ⟨message,hfailed⟩ | ⟨hpending,_⟩
    · cases hfailed
    · cases hpending
  | some .failed,hcases =>
    rcases hcases with ⟨message,hfailed⟩ | ⟨hpending,_⟩
    · cases hfailed
    · cases hpending
  | some (.judged sample held),hcases =>
    rcases hcases with ⟨_,hpending,_⟩ | ⟨_,hpending,_⟩ | ⟨rfl,_,hlong⟩
    · cases hpending
    · cases hpending
    · exact ⟨sample,d'',_,hsampling,heldSince_judged (heldSince_of_awaited h),hlong hstable⟩

end

section
variable (host : Host World) (ok : WaitState → Option Sampled → Bool) (vars : Env) (n : Nat)

def tickAll : List F64 → List Attempt → Data World → Option (List Attempt × Data World)
  | [],history,d => some (history,d)
  | t :: rest,history,d =>
    match d.waitState with
    | none => none
    | some ws =>
      match (sampling host vars t ws).run n d,(stepWaitUntil host vars t ws).run n d with
      | .ok attempt _,.ok .pending d' =>
        if ok ws attempt then tickAll rest (history ++ noted t attempt) d' else none
      | _,_ => none

variable {host ok vars n}

theorem awaited_of_tickAll {ticks : List F64} {history history' : List Attempt} {ws ws' : WaitState}
    {d d' : Data World} (h : Awaited host (fun ws attempt => ok ws attempt = true) history ws)
    (hws : d.waitState = some ws) (hrun : tickAll host ok vars n ticks history d = some (history',d'))
    (hws' : d'.waitState = some ws') :
    Awaited host (fun ws attempt => ok ws attempt = true) history' ws' := by
  induction ticks generalizing history ws d with
  | nil =>
    cases hrun
    obtain rfl : ws = ws' := Option.some.inj (hws.symm.trans hws')
    exact h
  | cons t rest ih =>
    simp only [tickAll,hws] at hrun
    split at hrun
    · rename_i attempt _ mid hsampling hstep
      split at hrun
      · rename_i hok
        cases hmid : mid.waitState with
        | some next => exact ih (h.tick hws hsampling hok hstep hmid) hmid hrun
        | none =>
          cases rest with
          | nil =>
            cases hrun
            rw [hmid] at hws'
            cases hws'
          | cons t' rest => simp [tickAll,hmid] at hrun
      · cases hrun
    · cases hrun

end

def oneS : F64 := 0x3FF0000000000000
def twoS : F64 := 0x4000000000000000

/-- A device that gives these replies, one for each call; 0.1 is added to the times 0, 1 and 2. -/
def replyingHost : Host (List Reply) where
  py := .names
  num := { Numeric.bits with
    add := fun a b => if a = 0 then b else if a = oneS then 0x3FF199999999999A
      else 0x4000CCCCCCCCCCCD }
  monotonic w := (0,w)
  callDevice _ _ _ w := match w with
    | [] => (.ok [("ok",.bool false)],[])
    | reply :: rest => (.ok reply,rest)
  callProcess := none
  getTelemetry _ _ w := (.ok none,w)
  getProcessTelemetry := none
  setStreamContext _ _ _ _ w := (.ok (),w)
  expectStreams := none
  setContextDispatch := none
  parallelDispatch := none
  cancel _ w := w
  resolveUse := none
  createController _ _ _ w := (.ok 0,w)
  suggest _ w := (.error ⟨.other,"no suggestion"⟩,w)
  tell _ _ _ w := (.ok (),w)
  shouldStop _ := none
  generateFromGen _ _ _ w := (.error ⟨.valueError,"unsupported gen"⟩,w)
  coerceAdaptiveParam _ _ v := .ok v
  buildAdaptiveAggregates _ := .ok []
  waitTimeoutMessage _ := "wait_until timed out"
  sourcePath _ := none

def settleStep : Entries :=
  [("timeout_s",.float 0),("stable_for_s",.float twoS),("condition",.bool true),
    ("sample",.dict false [("call",.dict false [("device",.str "psu"),("action",.str "read")])])]

def voltage : Reply := [("ok",.bool true),("result",.int 5)]

def timeout : Reply := [("ok",.bool false),("error",.dict false [("code",.str "timeout")])]

def settles (ok : WaitState → Option Sampled → Bool) (replies : List Reply) (ticks : List F64)
    (t : F64) : Option (List Attempt × F64 × Bool) :=
  match (startWaitUntil replyingHost .empty settleStep).run 0 (Data.new replies) with
  | .ok () d =>
    match tickAll replyingHost ok .empty 0 ticks [] d with
    | none => none
    | some (history,d) =>
      match d.waitState with
      | none => none
      | some ws =>
        match (stepWaitUntil replyingHost .empty t ws).run 0 d with
        | .ok .finished _ => some (history,ws.stableForS,true)
        | _ => some (history,ws.stableForS,false)
  | _ => none

theorem awaited_of_settles {ok : WaitState → Option Sampled → Bool} {replies : List Reply}
    {ticks : List F64} {t stableForS : F64}
    (h : settles ok replies ticks t = some (history,stableForS,true)) :
    ∃ ws d d', Awaited replyingHost (fun ws attempt => ok ws attempt = true) history ws ∧
      d.waitState = some ws ∧ ws.stableForS = stableForS ∧
      (stepWaitUntil replyingHost .empty t ws).run 0 d = .ok .finished d' := by
  unfold settles at h
  split at h
  · rename_i d₀ hstart
    split at h
    · cases h
    · rename_i history' d hticks
      split at h
      · cases h
      · rename_i ws hws
        split at h
        · rename_i d' hfinished
          cases h
          refine ⟨ws,d,d',?_,hws,rfl,hfinished⟩
          cases hws₀ : d₀.waitState with
          | some ws₀ => exact awaited_of_tickAll (.start hstart hws₀) hws₀ hticks hws
          | none =>
            cases ticks with
            | nil =>
              cases hticks
              rw [hws₀] at hws
              cases hws
            | cons t' rest => simp [tickAll,hws₀] at hticks
        · cases h
  · cases h

theorem steady_voltage_through : ∃ ws d d', Awaited replyingHost MissedUntimed
        [⟨0,.judged (.int 5) true⟩,⟨oneS,.judged (.int 5) true⟩] ws ∧ d.waitState = some ws ∧
      (stepWaitUntil replyingHost .empty twoS ws).run 0 d = .ok .finished d' ∧
      ∃ sample d'' t0, (sampling replyingHost .empty twoS ws).run 0 d =
          .ok (some (.judged sample true)) d'' ∧
        HeldSince t0 ([⟨0,.judged (.int 5) true⟩,⟨oneS,.judged (.int 5) true⟩] ++
          [⟨twoS,.judged sample true⟩]) ∧
        replyingHost.num.le ws.stableForS (replyingHost.num.sub twoS t0) = true := by
  have hsettles : settles (fun ws attempt => MissedUntimed ws attempt) [voltage,voltage,voltage]
      [0,oneS] twoS = some ([⟨0,.judged (.int 5) true⟩,⟨oneS,.judged (.int 5) true⟩],twoS,true) := by
    decide +kernel
  obtain ⟨ws,d,d',hawaited,hws,hstable,hrun⟩ := awaited_of_settles hsettles
  simp only [decide_eq_true_eq] at hawaited
  exact ⟨ws,d,d',hawaited,hws,hrun,
    through_when_stable hawaited hws (by rw [hstable]; decide) hrun⟩

/-- The call for the second of three samples fails: the step is through at the third one. -/
theorem missed_sample_passes :
    ∃ history ws d d', Awaited replyingHost (fun _ _ => True) history ws ∧
      d.waitState = some ws ∧ ws.stableForS = twoS ∧
      (stepWaitUntil replyingHost .empty twoS ws).run 0 d = .ok .finished d' ∧
      history = [⟨0,.judged (.int 5) true⟩,⟨oneS,.failed⟩] ∧
      ¬ ∃ sample t0, HeldSince t0 (history ++ [⟨twoS,.judged sample true⟩]) ∧
        replyingHost.num.le twoS (replyingHost.num.sub twoS t0) = true := by
  have hsettles : settles (fun _ _ => true) [voltage,timeout,voltage] [0,oneS] twoS =
      some ([⟨0,.judged (.int 5) true⟩,⟨oneS,.failed⟩],twoS,true) := by
    decide +kernel
  obtain ⟨ws,d,d',hawaited,hws,hstable,hrun⟩ := awaited_of_settles hsettles
  refine ⟨_,ws,d,d',by simpa using hawaited,hws,hstable,hrun,rfl,?_⟩
  rintro ⟨sample,t0,⟨older,first,since,heq,hfirst,hheld⟩,hlong⟩
  have hno : ∀ a ∈ first :: since, a.sampled ≠ .failed := by
    intro a ha hfailed
    have hyes := hheld a ha
    simp only [Attempt.held,hfailed] at hyes
    cases hyes
  match older,heq with
  | [],heq =>
    obtain ⟨rfl,rfl⟩ := List.cons.inj heq
    exact hno ⟨oneS,.failed⟩ (by simp) rfl
  | [_],heq =>
    obtain ⟨rfl,rfl⟩ := List.cons.inj (List.cons.inj heq).2
    exact hno ⟨oneS,.failed⟩ (by simp) rfl
  | [_,_],heq =>
    obtain ⟨rfl,rfl⟩ := List.cons.inj (List.cons.inj (List.cons.inj heq).2).2
    obtain rfl : t0 = twoS := hfirst.symm
    revert hlong
    decide
  | _ :: _ :: _ :: older,heq => simp at heq

end ExperimentControl.Sequencer

import Mathlib.Data.List.Infix
import ExperimentControl.Lib.Runs
import ExperimentControl.Sequencer.Host

/-!
The dispatch of a `set_context` step (`sequencer/sequencer.py`): a job of the pool asks the HDF writer
to expect the streams and then submits a call for each stream to the same pool, while the tick thread
polls the dispatch or cancels it.
-/

namespace ExperimentControl.Sequencer
open Lib Python List

inductive FutureState where
  | pending
  | running
  | cancelled
  | done (error : Option String)
  deriving DecidableEq

namespace FutureState

/-- `future.done()` -/
def isDone : FutureState → Bool
  | .cancelled | .done _ => true
  | .pending | .running => false

/-- `future.cancel()`: only a call that does not run yet is cancelled. -/
def cancel : FutureState → FutureState
  | .pending => .cancelled
  | state => state

/-- What `future.result()` raises; the text of a `CancelledError` is empty. -/
def raised : FutureState → Option String
  | .cancelled => some ""
  | .done error => error
  | .pending | .running => none

end FutureState

/-- A `_SetContextCallHandle` of a stream, with the call that is submitted for it. -/
structure ContextCall where
  deviceId : String
  stream : String
  future : Option FutureState := none
  held : Bool := false
  attempts : Nat := 0
  asking : Bool := false
  deriving DecidableEq

/-- `call.future` -/
def ContextCall.handle (call : ContextCall) : Option FutureState :=
  if call.held then call.future else none

def ContextCall.cancel (call : ContextCall) : ContextCall :=
  if call.held then { call with future := call.future.map FutureState.cancel } else call

theorem ContextCall.future_cancel (call : ContextCall) :
    call.cancel.future = if call.held then call.future.map FutureState.cancel else call.future := by
  unfold ContextCall.cancel
  split <;> rfl

/-- The job that runs `_expect_then_dispatch_context_sets`. -/
inductive ExpectJob where
  | absent
  | pending
  | asking
  /-- at `submit` for this stream -/
  | submitting (index : Nat)
  | holding (index : Nat)
  | cancelled
  | ended (error : Option String)
  deriving DecidableEq

namespace ExpectJob

def future : ExpectJob → Option FutureState
  | .absent => none
  | .pending => some .pending
  | .asking | .submitting _ | .holding _ => some .running
  | .cancelled => some .cancelled
  | .ended error => some (.done error)

def cancel : ExpectJob → ExpectJob
  | .pending => .cancelled
  | job => job

end ExpectJob

section
variable (py : Primitives) (lower : String → String)

def normalizeCallResponse : Option Value → Entries
  | none => [("ok",.bool false),("error",.str "timeout")]
  | some (.dict _ resp) =>
    if item? resp "ok" ≠ none then resp
    else if getD resp "status" .none = .str "OK" then
      [("ok",.bool true),("result",getD resp "result" .none)]
    else if getD resp "status" .none = .str "ERROR" then
      [("ok",.bool false),("error",getD resp "error" (.str "unknown"))]
    else resp
  | some _ => [("ok",.bool false),("error",.str "bad response")]

def deviceErrorText (resp : Entries) : String :=
  match getD resp "error" .none with
  | .dict _ err =>
    let code := targetText py (getD err "code" .none)
    let message := targetText py (getD err "message" .none)
    if code ≠ "" ∧ message ≠ "" then code ++ ": " ++ message
    else if message ≠ "" then message
    else if code ≠ "" then code
    else "unknown"
  | .none => "unknown"
  | err => err.text py.repr

def streamContextSetTransientErrors : List String :=
  ["timeout","temporarily unavailable","resource temporarily unavailable","would block","again","busy",
    "restarting","not connected","disconnected"]

def isTransientContextSetError (errorText : String) : Bool :=
  let text := (lower (strip errorText)).toList
  text ≠ [] && streamContextSetTransientErrors.any fun token => decide (token.toList <:+: text)

def streamNames (calls : List ContextCall) : String :=
  String.intercalate ", " (calls.map fun call => call.deviceId ++ "/" ++ call.stream)

def expectParams (contextId : Int) (calls : List ContextCall) : Entries :=
  [("streams",.list (calls.map fun call =>
      .dict false [("device_id",.str call.deviceId),("stream",.str call.stream)])),
    ("context_id",.int contextId),("strict",.bool true)]

def setParams (contextId : Int) (fields : Entries) (call : ContextCall) : Entries :=
  [("stream",.str call.stream),("context_id",.int contextId),("fields",.dict false fields)]

/-- What `_expect_streams` raises on a reply. -/
def expectRefusal (calls : List ContextCall) (resp : Entries) : Option String :=
  if replyOk resp then none
  else match getD resp "error" .none with
    | .dict _ err =>
      if getD err "code" .none = .str "hdf_not_writing" then
        some ("the HDF writer is not writing a file, so the context for " ++ streamNames calls ++
          " cannot be recorded; start HDF recording before running the sequence")
      else some ("the HDF writer refused the streams " ++ streamNames calls ++
        " (hdf.streams.expect): " ++ deviceErrorText py resp)
    | _ => some ("the HDF writer refused the streams " ++ streamNames calls ++
        " (hdf.streams.expect): " ++ deviceErrorText py resp)

/-- What a turn of the loop of `_set_stream_context` makes of a reply: the future of the call, or
another turn. -/
def setOutcome (call : ContextCall) (pastDeadline : Bool) (resp : Entries) : FutureState :=
  let failed := "stream.context.set failed for " ++ call.deviceId ++ "/" ++ call.stream
  if replyOk resp then .done none
  else
    let errorText := deviceErrorText py resp
    if isTransientContextSetError lower errorText then
      if pastDeadline then
        .done (some (failed ++ " after " ++ toString call.attempts ++ " attempts: " ++ errorText))
      else .running
    else .done (some (failed ++ ": " ++ errorText))

theorem setOutcome_ne_pending (call : ContextCall) (pastDeadline : Bool) (resp : Entries) :
    setOutcome py lower call pastDeadline resp ≠ .pending := by
  simp only [setOutcome]
  split
  · simp
  · split
    · split <;> simp
    · simp

end

inductive TickThread where
  | idle
  /-- `_poll_set_context` looks which calls are done; these are not. -/
  | reading (index : Nat) (pending : List Nat) (pastDeadline : Bool)
  | results (index : Nat)
  /-- `cancel` is at this handle, 0 being that of the job; then the poll reports this error, or the
  dispatch is dropped. -/
  | cancelling (index : Nat) (report : Option String)
  | dropped
  deriving DecidableEq

inductive ContextEvent where
  | expectSent (params : Entries)
  | expectOk
  | started (index : Nat)
  | setSent (index : Nat) (deviceId : String) (params : Entries)
  | acked (index : Nat)
  | finished (error : Option String)
  | cancelReturned
  deriving DecidableEq

structure ContextDispatch where
  contextId : Int
  fields : Entries
  calls : List ContextCall
  job : ExpectJob
  tick : TickThread := .idle
  log : List ContextEvent := []
  /-- The streams whose handle a `cancel` has looked at. -/
  passed : List Nat := []
  deriving DecidableEq

def beginSetContext (streams : List (String × String)) (contextId : Int) (fields : Entries) :
    ContextDispatch where
  contextId := contextId
  fields := fields
  calls := streams.map fun stream => { deviceId := stream.1, stream := stream.2 }
  job := if streams.isEmpty then .absent else .pending

/-- The moves of the threads, and the replies. What a call raises is `.error`. -/
inductive ContextMove where
  | poll (pastDeadline : Bool)
  | clear
  /-- the next move of the tick thread within a poll or a `cancel` -/
  | tick
  | runJob
  | expectAnswered (resp : Except String (Option Value))
  | submit
  | hold
  | runCall (index : Nat)
  | send (index : Nat)
  | setAnswered (index : Nat) (resp : Except String (Option Value)) (pastDeadline : Bool)
  deriving DecidableEq

namespace ContextDispatch
variable (py : Primitives) (lower : String → String) (d : ContextDispatch)

def record (e : ContextEvent) : ContextDispatch := { d with log := d.log ++ [e] }

def setCall (index : Nat) (call : ContextCall) : ContextDispatch :=
  { d with calls := d.calls.set index call }

def finish (error : Option String) : ContextDispatch :=
  { d.record (.finished error) with tick := .cancelling 0 none }

/-- The first part of `_poll_set_context` -/
def poll (pastDeadline : Bool) : ContextDispatch :=
  match d.job.future with
  | none => { d with tick := .reading 0 [] pastDeadline }
  | some future =>
    if future.isDone then
      match future.raised with
      | some error => d.finish (some error)
      | none => { d with tick := .reading 0 [] pastDeadline }
    else if pastDeadline then
      let message := "set_context dispatch timed out waiting for hdf.streams.expect"
      { d with tick := .cancelling 0 (some message) }
    else d

def pendingCalls (pending : List Nat) : List ContextCall :=
  pending.filterMap fun index => d.calls[index]?

def advance : ContextDispatch :=
  match d.tick with
  | .reading index pending pastDeadline =>
    match d.calls[index]? with
    | some call =>
      let ready := match call.handle with
        | some future => future.isDone
        | none => false
      { d with tick := .reading (index+1) (if ready then pending else pending ++ [index]) pastDeadline }
    | none =>
      if pending = [] then { d with tick := .results 0 }
      else if pastDeadline then
        { d with tick := .cancelling 0 (some ("set_context dispatch timed out waiting for: " ++
            streamNames (d.pendingCalls pending))) }
      else { d with tick := .idle }
  | .results index =>
    match d.calls[index]? with
    | some call => match call.handle.bind FutureState.raised with
      | some error => d.finish (some error)
      | none => { d with tick := .results (index+1) }
    | none => d.finish none
  | .cancelling 0 report => { d with job := d.job.cancel, tick := .cancelling 1 report }
  | .cancelling (index+1) report =>
    match d.calls[index]? with
    | some call =>
      { d.setCall index call.cancel with
        tick := .cancelling (index+2) report
        passed := d.passed ++ [index] }
    | none => match report with
      | some error => (d.record .cancelReturned).finish (some error)
      | none => { d.record .cancelReturned with tick := .dropped }
  | .idle | .dropped => d

def step : ContextMove → ContextDispatch
  | .poll pastDeadline => if d.tick = .idle then d.poll pastDeadline else d
  | .clear => if d.tick = .idle then { d with tick := .cancelling 0 none } else d
  | .tick => d.advance
  | .runJob =>
    if d.job = .pending then
      { d.record (.expectSent (expectParams d.contextId d.calls)) with job := .asking }
    else d
  | .expectAnswered resp =>
    if d.job = .asking then
      match resp with
      | .error e => { d with job := .ended (some e) }
      | .ok resp => match expectRefusal py d.calls (normalizeCallResponse resp) with
        | some e => { d with job := .ended (some e) }
        | none => { d.record .expectOk with job := .submitting 0 }
    else d
  | .submit => match d.job with
    | .submitting index => match d.calls[index]? with
      | some call => { d.setCall index { call with future := some .pending } with job := .holding index }
      | none => { d with job := .ended none }
    | _ => d
  | .hold => match d.job with
    | .holding index => match d.calls[index]? with
      | some call => { d.setCall index { call with held := true } with job := .submitting (index+1) }
      | none => d
    | _ => d
  | .runCall index => match d.calls[index]? with
    | some call =>
      if call.future = some .pending then
        (d.setCall index { call with future := some .running }).record (.started index)
      else d
    | none => d
  | .send index => match d.calls[index]? with
    | some call =>
      if call.future = some .running ∧ call.asking = false then
        (d.setCall index { call with attempts := call.attempts+1, asking := true }).record
          (.setSent index call.deviceId (setParams d.contextId d.fields call))
      else d
    | none => d
  | .setAnswered index resp pastDeadline => match d.calls[index]? with
    | some call =>
      if call.future = some .running ∧ call.asking = true then
        match resp with
        | .error e => d.setCall index { call with future := some (.done (some e)), asking := false }
        | .ok resp =>
          let future := setOutcome py lower call pastDeadline (normalizeCallResponse resp)
          let d := d.setCall index { call with future := some future, asking := false }
          if future = .done none then d.record (.acked index) else d
      else d
    | none => d

end ContextDispatch

def SetsAfterExpect : List ContextEvent → Prop :=
  Justified fun before e => match e with
    | .setSent _ _ _ => .expectOk ∈ before
    | _ => True

def FinishedAfterAcks (streams : Nat) : List ContextEvent → Prop :=
  Justified fun before e => match e with
    | .finished none => ∀ index < streams, .acked index ∈ before
    | _ => True

/-- No call starts after `cancel` has returned. -/
def NoLateStart : List ContextEvent → Prop :=
  Justified fun before e => match e with
    | .started _ => .cancelReturned ∉ before
    | _ => True

def ContextCall.Ready (call : ContextCall) : Prop :=
  ∃ future, call.handle = some future ∧ future.isDone = true

def ExpectJob.ahead : ExpectJob → Option Nat
  | .pending | .asking => some 0
  | .submitting index => some index
  | .holding index => some (index+1)
  | .absent | .cancelled | .ended _ => none

def ExpectJob.Answered : ExpectJob → Prop
  | .submitting _ | .holding _ => True
  | _ => False

structure ContextDispatch.Sound (d : ContextDispatch) : Prop where
  answered : d.job.Answered → .expectOk ∈ d.log
  submitted : ∀ (index : Nat) (call : ContextCall), d.calls[index]? = some call →
    call.future ≠ none → .expectOk ∈ d.log
  acked : ∀ (index : Nat) (call : ContextCall), d.calls[index]? = some call →
    call.future = some (.done none) →
    .acked index ∈ d.log
  ahead : ∀ first, d.job.ahead = some first →
    ∀ (index : Nat) (call : ContextCall), d.calls[index]? = some call →
    first ≤ index → call.future = none ∧ call.held = false
  reading : ∀ next pastDeadline, d.tick = .reading next [] pastDeadline →
    ∀ (index : Nat) (call : ContextCall), d.calls[index]? = some call → index < next → call.Ready
  results : ∀ next, d.tick = .results next →
    ∀ (index : Nat) (call : ContextCall), d.calls[index]? = some call →
    call.Ready ∧ (index < next → call.future = some (.done none))
  sets : SetsAfterExpect d.log
  finishes : FinishedAfterAcks d.calls.length d.log

namespace ContextDispatch
variable {d : ContextDispatch}

theorem sound_begin (streams : List (String × String)) (contextId : Int) (fields : Entries) :
    (beginSetContext streams contextId fields).Sound := by
  have hcall : ∀ (index : Nat) (call : ContextCall),
      (beginSetContext streams contextId fields).calls[index]? = some call →
      call.future = none ∧ call.held = false := by
    intro index call h
    simp only [beginSetContext,getElem?_map,Option.map_eq_some_iff] at h
    obtain ⟨stream,-,rfl⟩ := h
    exact ⟨rfl,rfl⟩
  refine ⟨?_,?_,?_,?_,?_,?_,justified_nil,justified_nil⟩
  · intro h
    cases hstreams : streams.isEmpty <;> simp [beginSetContext,hstreams,ExpectJob.Answered] at h
  · intro index call h hfuture
    exact absurd (hcall index call h).1 hfuture
  · intro index call h hdone
    rw [(hcall index call h).1] at hdone
    cases hdone
  · intro first _ index call h _
    exact hcall index call h
  · intro next pastDeadline h
    cases h
  · intro next h
    cases h

theorem Sound.record (h : d.Sound) {e : ContextEvent}
    (hsets : ∀ index deviceId params, e = .setSent index deviceId params → .expectOk ∈ d.log)
    (hfinishes : e = .finished none → ∀ index < d.calls.length, .acked index ∈ d.log) :
    (d.record e).Sound where
  answered hjob := mem_append_left _ (h.answered hjob)
  submitted index call hcall hfuture := mem_append_left _ (h.submitted index call hcall hfuture)
  acked index call hcall hdone := mem_append_left _ (h.acked index call hcall hdone)
  ahead := h.ahead
  reading := h.reading
  results := h.results
  sets := justified_append_singleton.2 ⟨h.sets,by
    cases e with
    | setSent index deviceId params => exact hsets index deviceId params rfl
    | _ => trivial⟩
  finishes := justified_append_singleton.2 ⟨h.finishes,by
    cases e with
    | finished error => cases error with
      | none => exact hfinishes rfl
      | some _ => trivial
    | _ => trivial⟩

theorem Sound.tickTo (h : d.Sound) {tick : TickThread}
    (hreading : ∀ next pastDeadline, tick = .reading next [] pastDeadline →
      ∀ (index : Nat) (call : ContextCall), d.calls[index]? = some call → index < next → call.Ready)
    (hresults : ∀ next, tick = .results next →
    ∀ (index : Nat) (call : ContextCall), d.calls[index]? = some call →
      call.Ready ∧ (index < next → call.future = some (.done none))) :
    Sound { d with tick } :=
  { h with reading := hreading, results := hresults }

theorem Sound.tickAway (h : d.Sound) {t : TickThread}
    (haway : (∀ next pastDeadline, t ≠ .reading next [] pastDeadline) ∧ ∀ next, t ≠ .results next) :
    Sound { d with tick := t } :=
  h.tickTo (fun next pastDeadline htick => absurd htick (haway.1 next pastDeadline))
    fun next htick => absurd htick (haway.2 next)

theorem Sound.jobTo (h : d.Sound) {job : ExpectJob} (hanswered : job.Answered → .expectOk ∈ d.log)
    (hahead : ∀ first, job.ahead = some first → ∃ before ≤ first, d.job.ahead = some before) :
    Sound { d with job } :=
  { h with
    answered := hanswered
    ahead := fun first hfirst index call hcall hle => by
      obtain ⟨before,hbefore,hjob⟩ := hahead first hfirst
      exact h.ahead before hjob index call hcall (Nat.le_trans hbefore hle) }

theorem Sound.finish (h : d.Sound) {error : Option String}
    (herror : error = none → ∀ index < d.calls.length, .acked index ∈ d.log) :
    (d.finish error).Sound := by
  have hrecord : (d.record (.finished error)).Sound :=
    h.record (by simp) fun he => herror (ContextEvent.finished.inj he)
  exact hrecord.tickAway ⟨by simp,by simp⟩

theorem getElem?_setCall {index other : Nat} {call found : ContextCall}
    (h : (d.setCall index call).calls[other]? = some found) :
    other = index ∧ found = call ∨ other ≠ index ∧ d.calls[other]? = some found := by
  simp only [ContextDispatch.setCall,getElem?_set] at h
  split at h
  · next heq =>
    split at h
    · exact .inl ⟨heq.symm,(Option.some.inj h).symm⟩
    · cases h
  · next hne => exact .inr ⟨Ne.symm hne,h⟩

variable {index : Nat}

theorem Sound.setCall (h : d.Sound) {call call' : ContextCall}
    (hcall : d.calls[index]? = some call) (hsubmitted : call'.future ≠ none → .expectOk ∈ d.log)
    (hacked : call'.future = some (.done none) → .acked index ∈ d.log)
    (hready : call.Ready → call'.handle = call.handle ∧ call'.future = call.future)
    (hahead : ∀ first, d.job.ahead = some first → first ≤ index →
      call'.future = none ∧ call'.held = false) : (d.setCall index call').Sound := by
  have hkeep : call.Ready → call'.Ready := by
    rintro hold
    obtain ⟨future,hfuture,hdone⟩ := hold
    exact ⟨future,(hready ⟨future,hfuture,hdone⟩).1.trans hfuture,hdone⟩
  refine ⟨h.answered,?_,?_,?_,?_,?_,h.sets,?_⟩
  · intro other found hfound hfuture
    rcases getElem?_setCall hfound with ⟨-,rfl⟩ | ⟨-,hfound⟩
    · exact hsubmitted hfuture
    · exact h.submitted other found hfound hfuture
  · intro other found hfound hdone
    rcases getElem?_setCall hfound with ⟨rfl,rfl⟩ | ⟨-,hfound⟩
    · exact hacked hdone
    · exact h.acked other found hfound hdone
  · intro first hfirst other found hfound hle
    rcases getElem?_setCall hfound with ⟨rfl,rfl⟩ | ⟨-,hfound⟩
    · exact hahead first hfirst hle
    · exact h.ahead first hfirst other found hfound hle
  · intro next pastDeadline htick other found hfound hlt
    rcases getElem?_setCall hfound with ⟨rfl,rfl⟩ | ⟨-,hfound⟩
    · exact hkeep (h.reading next pastDeadline htick other call hcall hlt)
    · exact h.reading next pastDeadline htick other found hfound hlt
  · intro next htick other found hfound
    rcases getElem?_setCall hfound with ⟨rfl,rfl⟩ | ⟨-,hfound⟩
    · obtain ⟨hold,hdone⟩ := h.results next htick other call hcall
      exact ⟨hkeep hold,fun hlt => (hready hold).2.trans (hdone hlt)⟩
    · exact h.results next htick other found hfound
  · simpa [ContextDispatch.setCall] using h.finishes

theorem Sound.poll (h : d.Sound) (pastDeadline : Bool) : (d.poll pastDeadline).Sound := by
  have hread : Sound { d with tick := .reading 0 [] pastDeadline } := by
    refine h.tickTo (fun next late htick index call _ hlt => ?_) (by simp)
    obtain ⟨rfl,-⟩ : 0 = next ∧ pastDeadline = late := by simpa using htick
    omega
  unfold ContextDispatch.poll
  split
  · exact hread
  · split
    · split
      · exact h.finish (by simp)
      · exact hread
    · split
      · exact h.tickAway ⟨by simp,by simp⟩
      · exact h

theorem handle_some {call : ContextCall} {future : FutureState} (h : call.handle = some future) :
    call.held = true ∧ call.future = some future := by
  unfold ContextCall.handle at h
  split at h
  · next hheld => exact ⟨hheld,h⟩
  · cases h

theorem Sound.advance (h : d.Sound) : d.advance.Sound := by
  unfold ContextDispatch.advance
  cases htick : d.tick with
  | idle => exact h
  | dropped => exact h
  | reading next pending pastDeadline =>
    dsimp only
    cases hcall : d.calls[next]? with
    | some call =>
      refine h.tickTo (fun next' late htick' index found hfound hlt => ?_) (by simp)
      simp only [TickThread.reading.injEq] at htick'
      obtain ⟨rfl,hpending,rfl⟩ := htick'
      cases hhandle : call.handle with
      | none => simp [hhandle] at hpending
      | some future =>
        cases hdone : future.isDone with
        | false => simp [hhandle,hdone] at hpending
        | true =>
          obtain rfl : pending = [] := by simpa [hhandle,hdone] using hpending
          rcases Nat.lt_succ_iff_lt_or_eq.1 hlt with hlt | rfl
          · exact h.reading next pastDeadline htick index found hfound hlt
          · obtain rfl : call = found := Option.some.inj (hcall.symm.trans hfound)
            exact ⟨future,hhandle,hdone⟩
    | none =>
      dsimp only
      split
      · next hpending =>
        subst hpending
        refine h.tickTo (by simp) fun next' htick' index found hfound => ?_
        obtain rfl := TickThread.results.inj htick'
        have hlt : index < next := by
          have hbound := (List.getElem?_eq_some_iff.1 hfound).1
          have hend := getElem?_eq_none_iff.1 hcall
          omega
        exact ⟨h.reading next pastDeadline htick index found hfound hlt,by omega⟩
      · split
        · exact h.tickAway ⟨by simp,by simp⟩
        · exact h.tickAway ⟨by simp,by simp⟩
  | results next =>
    dsimp only
    cases hcall : d.calls[next]? with
    | some call =>
      dsimp only
      split
      · exact h.finish (by simp)
      · next hraised =>
        refine h.tickTo (by simp) fun next' htick' index found hfound => ?_
        obtain rfl := TickThread.results.inj htick'
        obtain ⟨hready,hdone⟩ := h.results next htick index found hfound
        refine ⟨hready,fun hlt => ?_⟩
        rcases Nat.lt_succ_iff_lt_or_eq.1 hlt with hlt | rfl
        · exact hdone hlt
        · obtain rfl : call = found := Option.some.inj (hcall.symm.trans hfound)
          obtain ⟨future,hhandle,hisDone⟩ := hready
          rw [(handle_some hhandle).2]
          rw [hhandle] at hraised
          cases future <;> simp_all [FutureState.isDone,FutureState.raised]
    | none =>
      refine h.finish fun _ index hlt => ?_
      have hcalls := getElem?_eq_getElem hlt
      have hend := getElem?_eq_none_iff.1 hcall
      exact h.acked index _ hcalls ((h.results next htick index _ hcalls).2 (by omega))
  | cancelling index report =>
    cases index with
    | zero =>
      have hjob : Sound { d with job := d.job.cancel } := by
        refine h.jobTo (fun hanswered => h.answered ?_) fun first hfirst =>
          ⟨first,Nat.le_refl first,?_⟩
        · cases hj : d.job <;> simp_all [ExpectJob.cancel,ExpectJob.Answered]
        · cases hj : d.job <;> simp_all [ExpectJob.cancel,ExpectJob.ahead]
      exact hjob.tickAway ⟨by simp,by simp⟩
    | succ index =>
      dsimp only
      cases hcall : d.calls[index]? with
      | some call =>
        have hset : (d.setCall index call.cancel).Sound := by
          refine h.setCall hcall ?_ ?_ ?_ ?_
          · intro hfuture
            refine h.submitted index call hcall fun hnone => hfuture ?_
            simp [ContextCall.future_cancel,hnone]
          · intro hdone
            refine h.acked index call hcall ?_
            rw [ContextCall.future_cancel] at hdone
            split at hdone
            · cases hfuture : call.future with
              | none => simp [hfuture] at hdone
              | some future => cases future <;> simp_all [FutureState.cancel]
            · exact hdone
          · rintro ⟨future,hhandle,hdone⟩
            obtain ⟨hheld,hfuture⟩ := handle_some hhandle
            cases future <;> simp_all [FutureState.isDone,ContextCall.cancel,ContextCall.handle,
              FutureState.cancel]
          · intro first hfirst hle
            obtain ⟨hfuture,hheld⟩ := h.ahead first hfirst index call hcall hle
            simp [ContextCall.cancel,hfuture,hheld]
        exact { hset.tickAway (t := .cancelling (index+2) report) ⟨by simp,by simp⟩ with }
      | none =>
        have hreturned : (d.record .cancelReturned).Sound := h.record (by simp) (by simp)
        cases report with
        | some error => exact hreturned.finish (by simp)
        | none => exact hreturned.tickAway ⟨by simp,by simp⟩

theorem Sound.setRunning (h : d.Sound) {call c : ContextCall} (hcall : d.calls[index]? = some call)
    (hrunning : call.future = some .pending ∨ call.future = some .running)
    (hacked : c.future = some (.done none) → .acked index ∈ d.log) :
    (d.setCall index c).Sound := by
  have hsubmitted : .expectOk ∈ d.log := by
    refine h.submitted index call hcall ?_
    rcases hrunning with hf | hf <;> simp [hf]
  refine h.setCall hcall (fun _ => hsubmitted) hacked (fun hready => ?_) fun first hfirst hle => ?_
  · obtain ⟨future,hhandle,hdone⟩ := hready
    rw [(handle_some hhandle).2] at hrunning
    rcases hrunning with hf | hf <;> obtain rfl := Option.some.inj hf <;> cases hdone
  · have hnone := (h.ahead first hfirst index call hcall hle).1
    rw [hnone] at hrunning
    simp at hrunning

section
variable (py : Primitives) (lower : String → String)

theorem Sound.step (h : d.Sound) (move : ContextMove) : (d.step py lower move).Sound := by
  cases move with
  | poll pastDeadline =>
    simp only [ContextDispatch.step]
    split
    · exact h.poll pastDeadline
    · exact h
  | clear =>
    simp only [ContextDispatch.step]
    split
    · exact h.tickAway ⟨by simp,by simp⟩
    · exact h
  | tick => exact h.advance
  | runJob =>
    simp only [ContextDispatch.step]
    split
    · next hjob =>
      have hsent : (d.record (.expectSent (expectParams d.contextId d.calls))).Sound :=
        h.record (by simp) (by simp)
      refine hsent.jobTo (by simp [ExpectJob.Answered]) fun first hfirst => ⟨first,Nat.le_refl first,?_⟩
      change d.job.ahead = _
      rw [hjob]
      exact hfirst
    · exact h
  | expectAnswered resp =>
    simp only [ContextDispatch.step]
    split
    · next hjob =>
      cases resp with
      | error e => exact h.jobTo (by simp [ExpectJob.Answered]) (by simp [ExpectJob.ahead])
      | ok resp =>
        dsimp only
        split
        · exact h.jobTo (by simp [ExpectJob.Answered]) (by simp [ExpectJob.ahead])
        · have hok : (d.record .expectOk).Sound := h.record (by simp) (by simp)
          refine hok.jobTo (fun _ => by simp [ContextDispatch.record]) fun first hfirst =>
            ⟨first,Nat.le_refl first,?_⟩
          change d.job.ahead = _
          rw [hjob]
          exact hfirst
    · exact h
  | submit =>
    simp only [ContextDispatch.step]
    split
    · next index hjob =>
      have hok : .expectOk ∈ d.log := h.answered (by simp [hjob,ExpectJob.Answered])
      split
      · next call hcall =>
        obtain ⟨hnone,hheld⟩ := h.ahead index (by rw [hjob]; rfl) index call hcall (Nat.le_refl index)
        have hholding : Sound { d with job := .holding index } :=
          h.jobTo (fun _ => hok) fun first hfirst => ⟨index,by
            obtain rfl : index+1 = first := Option.some.inj hfirst
            omega,by rw [hjob]; rfl⟩
        refine hholding.setCall hcall (fun _ => hok) (by simp) ?_ ?_
        · rintro ⟨future,hhandle,-⟩
          rw [(handle_some hhandle).2] at hnone
          cases hnone
        · intro first hfirst hle
          obtain rfl : index+1 = first := Option.some.inj hfirst
          omega
      · exact h.jobTo (by simp [ExpectJob.Answered]) (by simp [ExpectJob.ahead])
    · exact h
  | hold =>
    simp only [ContextDispatch.step]
    split
    · next index hjob =>
      have hok : .expectOk ∈ d.log := h.answered (by simp [hjob,ExpectJob.Answered])
      split
      · next call hcall =>
        have hnext : Sound { d with job := .submitting (index+1) } :=
          h.jobTo (fun _ => hok) fun first hfirst => ⟨first,Nat.le_refl first,by rw [hjob]; exact hfirst⟩
        refine hnext.setCall hcall (fun _ => hok) (h.acked index call hcall) ?_ ?_
        · rintro ⟨future,hhandle,-⟩
          obtain ⟨hheld,hfuture⟩ := handle_some hhandle
          simp [ContextCall.handle,hheld]
        · intro first hfirst hle
          obtain rfl : index+1 = first := Option.some.inj hfirst
          omega
      · exact h
    · exact h
  | runCall index =>
    simp only [ContextDispatch.step]
    split
    · next call hcall =>
      split
      · next hpending =>
        have hset := h.setRunning (c := { call with future := some .running }) hcall
          (.inl hpending) (by simp)
        exact hset.record (by simp) (by simp)
      · exact h
    · exact h
  | send index =>
    simp only [ContextDispatch.step]
    split
    · next call hcall =>
      split
      · next hrunning =>
        have hok : .expectOk ∈ d.log := h.submitted index call hcall (by simp [hrunning.1])
        have hset := h.setRunning
          (c := { call with attempts := call.attempts+1, asking := true }) hcall
          (.inr hrunning.1) (by simp [hrunning.1])
        exact hset.record (fun _ _ _ _ => hok) (by simp)
      · exact h
    · exact h
  | setAnswered index resp pastDeadline =>
    simp only [ContextDispatch.step]
    split
    · next call hcall =>
      split
      · next hrunning =>
        cases resp with
        | error e => exact h.setRunning hcall (.inr hrunning.1) (by simp)
        | ok resp =>
          dsimp only
          generalize setOutcome py lower call pastDeadline (normalizeCallResponse resp) = future
          split
          · next hdone =>
            have hacked : (d.record (.acked index)).Sound := h.record (by simp) (by simp)
            exact hacked.setRunning hcall (.inr hrunning.1) fun _ => by simp [ContextDispatch.record]
          · next hdone =>
            exact h.setRunning hcall (.inr hrunning.1) fun hf => absurd (Option.some.inj hf) hdone
      · exact h
    · exact h

end

/-- The look of a `cancel` at the handle of a stream does not fall between the submission of the call
and the assignment of its future, unless the call has been taken by then; and no call is submitted
whose handle a `cancel` has looked at. -/
def InReach (d : ContextDispatch) : ContextMove → Prop
  | .submit => ∀ index, d.job = .submitting index → index ∉ d.passed
  | .tick => ∀ index report call, d.tick = .cancelling (index+1) report →
      d.calls[index]? = some call → d.job = .holding index → call.future ≠ some .pending
  | _ => True

structure Covered (d : ContextDispatch) : Prop where
  unheld : ∀ (index : Nat) (call : ContextCall), d.calls[index]? = some call → call.future ≠ none →
    call.held = false → d.job = .holding index
  passed : ∀ index ∈ d.passed, ∀ call, d.calls[index]? = some call → call.future ≠ some .pending
  visiting : ∀ next report, d.tick = .cancelling (next+1) report → ∀ index < next, index ∈ d.passed
  returned : .cancelReturned ∈ d.log → ∀ index < d.calls.length, index ∈ d.passed
  starts : NoLateStart d.log

theorem covered_begin (streams : List (String × String)) (contextId : Int) (fields : Entries) :
    (beginSetContext streams contextId fields).Covered where
  unheld index call h hfuture := by
    simp only [beginSetContext,getElem?_map,Option.map_eq_some_iff] at h
    obtain ⟨stream,-,rfl⟩ := h
    exact absurd rfl hfuture
  passed index h := by cases h
  visiting next report h := by cases h
  returned h := by cases h
  starts := justified_nil

section
variable (h : d.Covered)
include h

theorem Covered.record {e : ContextEvent}
    (hreturned : e = .cancelReturned → ∀ index < d.calls.length, index ∈ d.passed)
    (hstarts : ∀ index, e = .started index → .cancelReturned ∉ d.log) : (d.record e).Covered :=
  { h with
    returned := fun hmem => by
      rcases mem_append.1 hmem with hmem | hmem
      · exact h.returned hmem
      · exact hreturned (mem_singleton.1 hmem).symm
    starts := justified_append_singleton.2 ⟨h.starts,by
      cases e with
      | started index => exact hstarts index rfl
      | _ => trivial⟩ }

theorem Covered.tickTo {tick : TickThread}
    (hvisiting : ∀ next report, tick = .cancelling (next+1) report → ∀ index < next, index ∈ d.passed) :
    Covered { d with tick } :=
  { h with visiting := hvisiting }

theorem Covered.jobTo {job : ExpectJob}
    (hholding : ∀ index, d.job = .holding index → job = .holding index) : Covered { d with job } :=
  { h with unheld := fun index call hcall hfuture hheld =>
      hholding index (h.unheld index call hcall hfuture hheld) }

theorem Covered.setCall {call' : ContextCall}
    (hunheld : call'.future ≠ none → call'.held = false → d.job = .holding index)
    (hpassed : index ∈ d.passed → call'.future ≠ some .pending) : (d.setCall index call').Covered where
  unheld other found hfound hfuture hheld := by
    rcases getElem?_setCall hfound with ⟨rfl,rfl⟩ | ⟨-,hfound⟩
    · exact hunheld hfuture hheld
    · exact h.unheld other found hfound hfuture hheld
  passed other hother found hfound := by
    rcases getElem?_setCall hfound with ⟨rfl,rfl⟩ | ⟨-,hfound⟩
    · exact hpassed hother
    · exact h.passed other hother found hfound
  visiting := h.visiting
  returned hmem other hlt := h.returned hmem other (by simpa [ContextDispatch.setCall] using hlt)
  starts := h.starts

theorem Covered.finish (error : Option String) : (d.finish error).Covered :=
  (h.record (by simp) (by simp)).tickTo (by simp)

theorem Covered.poll (pastDeadline : Bool) : (d.poll pastDeadline).Covered := by
  unfold ContextDispatch.poll
  split
  · exact h.tickTo (by simp)
  · split
    · split
      · exact h.finish _
      · exact h.tickTo (by simp)
    · split
      · exact h.tickTo (by simp)
      · exact h

theorem Covered.advance (hreach : InReach d .tick) : d.advance.Covered := by
  unfold ContextDispatch.advance
  cases htick : d.tick with
  | idle => exact h
  | dropped => exact h
  | reading next pending pastDeadline =>
    dsimp only
    split
    · exact h.tickTo (by simp)
    · split
      · exact h.tickTo (by simp)
      · split
        · exact h.tickTo (by simp)
        · exact h.tickTo (by simp)
  | results next =>
    dsimp only
    split
    · split
      · exact h.finish _
      · exact h.tickTo (by simp)
    · exact h.finish _
  | cancelling index report =>
    cases index with
    | zero =>
      have hjob : Covered { d with job := d.job.cancel } :=
        h.jobTo fun index hholding => by rw [hholding]; rfl
      exact hjob.tickTo fun next report' htick' index hlt => by
        obtain ⟨rfl,-⟩ : next = 0 ∧ report = report' := by simpa using htick'
        omega
    | succ index =>
      dsimp only
      cases hcall : d.calls[index]? with
      | some call =>
        have hfuture : call.cancel.future ≠ some .pending := by
          rw [ContextCall.future_cancel]
          split
          · cases call.future with
            | none => simp
            | some future => cases future <;> simp [FutureState.cancel]
          · next hheld =>
            intro hpending
            refine hreach index report call htick hcall ?_ hpending
            exact h.unheld index call hcall (by simp [hpending]) (by simpa using hheld)
        have hset : (d.setCall index call.cancel).Covered := by
          refine h.setCall (fun hsome hheld => ?_) fun _ => hfuture
          refine h.unheld index call hcall (fun hnone => hsome ?_) ?_
          · simp [ContextCall.future_cancel,hnone]
          · unfold ContextCall.cancel at hheld
            split at hheld <;> exact hheld
        refine ⟨hset.unheld,?_,?_,?_,hset.starts⟩
        · intro other hother found hfound
          rcases mem_append.1 hother with hother | hother
          · exact hset.passed other hother found hfound
          · obtain rfl := mem_singleton.1 hother
            rcases getElem?_setCall hfound with ⟨-,rfl⟩ | ⟨hne,-⟩
            · exact hfuture
            · exact absurd rfl hne
        · intro next report' htick' other hlt
          obtain ⟨rfl,-⟩ : index+1 = next ∧ report = report' := by simpa using htick'
          rcases Nat.lt_succ_iff_lt_or_eq.1 hlt with hlt | rfl
          · exact mem_append_left _ (h.visiting index report htick other hlt)
          · simp
        · intro hmem other hlt
          exact mem_append_left _ (hset.returned hmem other hlt)
      | none =>
        have hend := getElem?_eq_none_iff.1 hcall
        have hreturned : (d.record .cancelReturned).Covered :=
          h.record (fun _ other hlt => h.visiting index report htick other (by omega)) (by simp)
        cases report with
        | some error => exact hreturned.finish _
        | none => exact hreturned.tickTo (by simp)

end

section
variable (py : Primitives) (lower : String → String)

theorem Covered.step (h : d.Covered) {move : ContextMove} (hreach : InReach d move) :
    (d.step py lower move).Covered := by
  cases move with
  | poll pastDeadline =>
    simp only [ContextDispatch.step]
    split
    · exact h.poll pastDeadline
    · exact h
  | clear =>
    simp only [ContextDispatch.step]
    split
    · exact h.tickTo (by simp)
    · exact h
  | tick => exact h.advance hreach
  | runJob =>
    simp only [ContextDispatch.step]
    split
    · next hjob =>
      have hsent : (d.record (.expectSent (expectParams d.contextId d.calls))).Covered :=
        h.record (by simp) (by simp)
      exact hsent.jobTo fun index hholding => absurd (hjob.symm.trans hholding) (by simp)
    · exact h
  | expectAnswered resp =>
    simp only [ContextDispatch.step]
    split
    · next hjob =>
      have hother : ∀ (job : ExpectJob) (index : Nat), d.job = .holding index → job = .holding index :=
        fun job index hholding => absurd (hjob.symm.trans hholding) (by simp)
      cases resp with
      | error e => exact h.jobTo (hother _)
      | ok resp =>
        dsimp only
        split
        · exact h.jobTo (hother _)
        · exact (h.record (e := .expectOk) (by simp) (by simp)).jobTo (hother _)
    · exact h
  | submit =>
    simp only [ContextDispatch.step]
    split
    · next index hjob =>
      have hother : ∀ (job : ExpectJob) (index : Nat), d.job = .holding index → job = .holding index :=
        fun job index hholding => absurd (hjob.symm.trans hholding) (by simp)
      split
      · exact (h.jobTo (hother (.holding index))).setCall (fun _ _ => rfl)
          fun hmem => absurd hmem (hreach index hjob)
      · exact h.jobTo (hother _)
    · exact h
  | hold =>
    simp only [ContextDispatch.step]
    split
    · next index hjob =>
      split
      · next call hcall =>
        have hset : (d.setCall index { call with held := true }).Covered :=
          h.setCall (by simp) fun hmem => h.passed index hmem call hcall
        refine { hset with unheld := fun other found hfound hfuture hheld => ?_ }
        -- the future of the only call that was not held is held now
        rcases getElem?_setCall hfound with ⟨-,rfl⟩ | ⟨hne,hfound⟩
        · cases hheld
        · have hholding := h.unheld other found hfound hfuture hheld
          exact absurd (ExpectJob.holding.inj (hholding.symm.trans hjob)) hne
      · exact h
    · exact h
  | runCall index =>
    simp only [ContextDispatch.step]
    split
    · next call hcall =>
      split
      · next hpending =>
        have hset : (d.setCall index { call with future := some .running }).Covered :=
          h.setCall (fun _ => h.unheld index call hcall (by simp [hpending])) (by simp)
        refine hset.record (by simp) fun _ _ hmem => ?_
        have hlt := (List.getElem?_eq_some_iff.1 hcall).1
        exact h.passed index (h.returned hmem index hlt) call hcall hpending
      · exact h
    · exact h
  | send index =>
    simp only [ContextDispatch.step]
    split
    · next call hcall =>
      split
      · next hrunning =>
        have hset : (d.setCall index { call with
            attempts := call.attempts+1, asking := true }).Covered :=
          h.setCall (fun _ => h.unheld index call hcall (by simp [hrunning.1])) (by simp [hrunning.1])
        exact hset.record (by simp) (by simp)
      · exact h
    · exact h
  | setAnswered index resp pastDeadline =>
    simp only [ContextDispatch.step]
    split
    · next call hcall =>
      split
      · next hrunning =>
        have hset : ∀ future : FutureState, future ≠ .pending →
            (d.setCall index { call with future := some future, asking := false }).Covered :=
          fun future hfuture => h.setCall (fun _ => h.unheld index call hcall (by simp [hrunning.1]))
            (by simpa using fun _ => hfuture)
        cases resp with
        | error e => exact hset _ (by simp)
        | ok resp =>
          have hfuture := setOutcome_ne_pending py lower call pastDeadline (normalizeCallResponse resp)
          dsimp only
          split
          · exact (hset _ hfuture).record (by simp) (by simp)
          · exact hset _ hfuture
      · exact h
    · exact h

theorem length_advance (d : ContextDispatch) : d.advance.calls.length = d.calls.length := by
  unfold ContextDispatch.advance
  repeat' split
  all_goals simp [ContextDispatch.finish,ContextDispatch.record,ContextDispatch.setCall]

theorem length_step (d : ContextDispatch) (move : ContextMove) :
    (d.step py lower move).calls.length = d.calls.length := by
  cases move with
  | tick => exact d.length_advance
  | poll pastDeadline =>
    simp only [ContextDispatch.step,ContextDispatch.poll]
    repeat' split
    all_goals rfl
  | _ =>
    simp only [ContextDispatch.step]
    repeat' split
    all_goals simp [ContextDispatch.record,ContextDispatch.setCall]

/-- Whatever the streams and the order of the moves and replies: a request for a stream is sent only
after the writer expects the streams, and the step is finished without an error only after every stream
has acknowledged; and no call starts after a `cancel` has returned, if every `cancel` reaches the calls
that it looks for. -/
theorem set_context_protocol (streams : List (String × String)) (contextId : Int) (fields : Entries)
    (moves : List ContextMove) :
    let first := beginSetContext streams contextId fields
    let log := (run (ContextDispatch.step py lower) first moves).log
    SetsAfterExpect log ∧ FinishedAfterAcks streams.length log ∧
      (Meets (ContextDispatch.step py lower) InReach first moves → NoLateStart log) := by
  intro first log
  have hsound : (run (ContextDispatch.step py lower) first moves).Sound :=
    run_invariant (fun _ move h => h.step py lower move) (sound_begin streams contextId fields) moves
  have hlength : (run (ContextDispatch.step py lower) first moves).calls.length = streams.length :=
    run_invariant (P := fun d => d.calls.length = streams.length)
      (fun d move h => (length_step py lower d move).trans h) (by simp [first,beginSetContext]) moves
  refine ⟨hsound.sets,hlength ▸ hsound.finishes,fun hmeets => ?_⟩
  have hcovered : (run (ContextDispatch.step py lower) first moves).Covered :=
    hmeets.invariant (fun _ _ h hreach => h.step py lower hreach)
      (covered_begin streams contextId fields)
  exact hcovered.starts

end

/-- The run is stopped while the stream's call waits for a worker: `cancel` finds it. -/
def cancelledInTime : List ContextMove :=
  [.runJob,.expectAnswered (.ok (some (.dict false [("ok",.bool true)]))),.submit,.hold,.clear,.tick,
    .tick,.tick,.runCall 0]

theorem cancelledInTime_protocol :
    let first := beginSetContext [("camera","image")] 0 []
    let log := (run (ContextDispatch.step .names id) first cancelledInTime).log
    .cancelReturned ∈ log ∧ .started 0 ∉ log ∧ NoLateStart log := by
  intro first log
  have hsubmit : ∀ d : ContextDispatch, d.passed = [] → InReach d .submit :=
    fun d h index _ => by rw [h]; exact List.not_mem_nil
  have htick : ∀ d : ContextDispatch, d.job = .submitting 1 → InReach d .tick := by
    intro d h index report call _ _ hjob
    rw [h] at hjob
    cases hjob
  have hmeets : Meets (ContextDispatch.step .names id) InReach first cancelledInTime :=
    ⟨trivial,trivial,hsubmit _ (by decide),trivial,trivial,htick _ (by decide),
      htick _ (by decide),htick _ (by decide),trivial,trivial⟩
  have hprotocol := set_context_protocol .names id [("camera","image")] 0 [] cancelledInTime
  exact ⟨by decide,by decide,hprotocol.2.2 hmeets⟩

theorem call_starts_after_cancel :
    ¬∀ (py : Primitives) (lower : String → String) (streams : List (String × String))
      (contextId : Int) (fields : Entries) (moves : List ContextMove),
      NoLateStart (run (ContextDispatch.step py lower)
        (beginSetContext streams contextId fields) moves).log := by
  intro h
  have hstarts := h .names id [("camera","image")] 0 []
    [.runJob,.clear,.tick,.tick,.tick,.expectAnswered (.ok (some (.dict false [("ok",.bool true)]))),
      .submit,.hold,.runCall 0]
  exact hstarts [.expectSent (expectParams 0 [{ deviceId := "camera", stream := "image" }]),
    .cancelReturned,.expectOk] (.started 0) [] (by decide) (by decide)

end ContextDispatch

end ExperimentControl.Sequencer

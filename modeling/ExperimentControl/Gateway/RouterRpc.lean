import Mathlib.Algebra.Group.Nat.Defs
import ExperimentControl.Lib.OrderedDict
import ExperimentControl.Lib.Runs
import ExperimentControl.Python.Conversions

/-!
The client that the gateway sends its requests to the router with (`RouterRpcClient` of
`fastapi/gateway.py`): callers on the event loop, a worker thread with one socket and the table of the
requests in flight, and the router, which answers what it has been sent in any order.
-/

namespace ExperimentControl.Gateway
open Lib Python

/-- What tells keys of a dict apart: numbers of one value are one key, whatever their type. -/
inductive DictKey where
  | none
  | integer (n : Int)
  | float (bits : UInt64)
  | text (s : String)
  deriving DecidableEq

def floatInteger? (bits : UInt64) : Option Int :=
  let exponent := bits.toNat / 2^52 % 2^11
  let fraction := bits.toNat % 2^52
  let significand : Nat := 2^52+fraction
  let sign : Int := if bits.toNat / 2^63 = 0 then 1 else -1
  if exponent = 0 then if fraction = 0 then some 0 else none
  else if exponent = 2^11-1 then none
  else if 1075 ≤ exponent then some (sign*(significand*2^(exponent-1075) : Nat))
  else if significand % 2^(1075-exponent) = 0 then some (sign*(significand/2^(1075-exponent) : Nat))
  else none

/-- The key that a value is; none where `hash(value)` raises. -/
def dictKey : Value → Option DictKey
  | .none => some .none
  | .bool b => some (.integer (if b then 1 else 0))
  | .int n => some (.integer n)
  | .float bits => some (((floatInteger? bits).map .integer).getD (.float bits))
  | .str s => some (.text s)
  | .list _ | .dict _ _ => none

example : dictKey (.float 0x3FF0000000000000) = dictKey (.bool true) := rfl

abbrev Caller := Nat

inductive Answer where
  | reply (answered : Caller) (resp : Entries)
  | error (code message : String)
  | cancelled

structure Submission where
  caller : Caller
  payload : Entries
  timeoutMs : Option Int

/-- `payload.get("request_id")` -/
def Submission.requestId (s : Submission) : Value := getKey s.payload "request_id"

inductive Thread where
  | notStarted | running | ended
  deriving DecidableEq

inductive Phase where
  | head | queue | poll | replies | sweep
  deriving DecidableEq

structure Pending where
  caller : Caller
  deadline : Int

structure Client where
  timeoutMs : Int
  queueMax : Nat
  queue : List Submission
  queueRejected : Nat
  closedPending : Nat
  stop : Bool
  thread : Thread
  phase : Phase
  pending : OrderedDict DictKey Pending
  loopOpen : Bool
  callbacks : List (Caller × Answer)
  callers : Nat
  unanswered : List (Caller × Value)
  resolved : List (Caller × Answer)

namespace Client

def fresh (timeoutMs : Int) (queueMax : Int) : Client where
  timeoutMs := timeoutMs
  queueMax := (max 1 queueMax).toNat
  queue := []
  queueRejected := 0
  closedPending := 0
  stop := false
  thread := .notStarted
  phase := .head
  pending := .empty
  loopOpen := true
  callbacks := []
  callers := 0
  unanswered := []
  resolved := []

def done (c : Client) (caller : Caller) : Bool := caller ∈ c.resolved.map Prod.fst

def setFutureResult (c : Client) (caller : Caller) (answer : Answer) : Client :=
  if c.done caller || !c.loopOpen then c
  else { c with callbacks := c.callbacks ++ [(caller,answer)] }

def setResults (c : Client) (answers : List (Caller × Answer)) : Client :=
  answers.foldl (fun c e => c.setFutureResult e.1 e.2) c

def start (c : Client) : Client :=
  if c.thread = .running then c
  else { c with
    stop := false
    thread := .running
    phase := .head
    pending := .empty
    unanswered := [] }

/-- `request`, up to the wait for the future. A call to a client that has no running worker, and one that
finds the queue full, ends at once. -/
def request (c : Client) (payload : Entries) (timeoutMs : Option Int) (uuid : String) : Client :=
  if c.thread ≠ .running then c
  else
    let payload := if (item? payload "request_id").isSome then payload
      else setItem payload "request_id" (.str uuid)
    if c.queueMax ≤ c.queue.length then
      { c with callers := c.callers+1, queueRejected := c.queueRejected+1 }
    else { c with callers := c.callers+1, queue := c.queue ++ [⟨c.callers,payload,timeoutMs⟩] }

/-- `_setter`, the callback that was scheduled first -/
def runCallback (c : Client) : Client :=
  match c.callbacks with
  | [] => c
  | (caller,answer) :: rest =>
    if c.done caller then { c with callbacks := rest }
    else { c with callbacks := rest, resolved := c.resolved ++ [(caller,answer)] }

/-- The caller is cancelled, or has waited for longer than `safety_s`: its future is cancelled. -/
def giveUp (c : Client) (caller : Caller) : Client :=
  if c.callers ≤ caller ∨ c.done caller then c
  else { c with resolved := c.resolved ++ [(caller,.cancelled)] }

/-- `close`; the worker ends when it looks at the stop flag. -/
def close (c : Client) : Client :=
  let drained := c.queue.map fun s =>
    (s.caller,Answer.error "gateway_closed" "router rpc client closed before request was processed")
  let c := { c with stop := true, queue := [], closedPending := c.closedPending+c.queue.length }
  c.setResults drained

def failures (c : Client) (code message : String) : List (Caller × Answer) :=
  c.pending.entries.map fun e => (e.2.caller,.error code message)

/-- `_fail_all_inflight`, and a new socket: what the router still answers to the old one goes nowhere. -/
def failAllInflight (c : Client) (reason : String) : Client :=
  let answers := c.failures "gateway_error" reason
  let c := { c with pending := .empty, unanswered := [], phase := .head }
  c.setResults answers

/-- The head of the loop of `_run`, and what comes after the loop. -/
def atHead (c : Client) : Client :=
  if c.stop then
    let answers := c.failures "gateway_closed" "router rpc client closed with in-flight request"
    let c := { c with thread := .ended, pending := .empty, unanswered := [] }
    c.setResults answers
  else { c with phase := .queue }

/-- The oldest of the queued requests is sent, or its sending raises. -/
def takeNext (c : Client) (now : Int) (sendError : Option String) : Client :=
  match c.queue with
  | [] => { c with phase := .poll }
  | s :: rest =>
    let c := { c with queue := rest }
    let timeoutMs := match s.timeoutMs with
      | some t => if t = 0 then c.timeoutMs else t
      | none => c.timeoutMs
    match sendError with
    | some message => c.setFutureResult s.caller (.error "gateway_error" message)
    | none =>
      let c := { c with unanswered := c.unanswered ++ [(s.caller,s.requestId)] }
      if s.requestId = .none then
        c.setFutureResult s.caller (.error "gateway_error" "internal: request submitted without request_id")
      else match dictKey s.requestId with
        -- TypeError: unhashable type, which ends the thread
        | none => { c with thread := .ended, pending := .empty, unanswered := [] }
        | some key => { c with pending := c.pending.set key ⟨s.caller,now+timeoutMs⟩ }

def receive (c : Client) (answered : Caller) (resp : Entries) : Client :=
  let rid := getKey resp "request_id"
  if (answered,rid) ∉ c.unanswered then c
  else
    let c := { c with unanswered := c.unanswered.filter fun u => u ≠ (answered,rid) }
    if rid = .none then c
    else match dictKey rid with
      | none => c.failAllInflight "unhashable type"
      | some key => match c.pending.get? key with
        | none => c
        | some entry => { c with pending := c.pending.erase key }.setFutureResult entry.caller (.reply answered resp)

def sweepExpired (c : Client) (now : Int) : Client :=
  let expired := (c.pending.filterEntries fun _ e => e.deadline < now).entries.map fun e =>
    (e.2.caller,Answer.error "gateway_timeout" "router rpc timed out")
  let c := { c with pending := c.pending.filterEntries fun _ e => !(e.deadline < now) }
  let c := c.setResults expired
  { c with pending := c.pending.filterEntries fun _ e => !c.done e.caller }

end Client

inductive Event where
  | start
  | request (payload : Entries) (timeoutMs : Option Int) (uuid : String)
  | callback
  | giveUp (caller : Caller)
  | close
  | loopCloses
  | head
  | takeNext (now : Int) (sendError : Option String)
  | polled (outcome : Except String Bool)
  | receive (answered : Caller) (resp : Entries)
  | receiveFails (reason : String)
  | noMoreReplies
  | sweep (now : Int)

def Event.phase? : Event → Option Phase
  | .start | .request .. | .callback | .giveUp _ | .close | .loopCloses => none
  | .head => some .head
  | .takeNext .. => some .queue
  | .polled _ => some .poll
  | .receive .. | .receiveFails _ | .noMoreReplies => some .replies
  | .sweep _ => some .sweep

def Client.handle (c : Client) : Event → Client
  | .start => c.start
  | .request payload timeoutMs uuid => c.request payload timeoutMs uuid
  | .callback => c.runCallback
  | .giveUp caller => c.giveUp caller
  | .close => c.close
  | .loopCloses => { c with loopOpen := false }
  | .head => c.atHead
  | .takeNext now sendError => c.takeNext now sendError
  | .polled (.error reason) => c.failAllInflight reason
  | .polled (.ok true) => { c with phase := .replies }
  | .polled (.ok false) => { c with phase := .sweep }
  | .receive answered resp => c.receive answered resp
  | .receiveFails reason => c.failAllInflight reason
  | .noMoreReplies => { c with phase := .sweep }
  | .sweep now => { c.sweepExpired now with phase := .head }

def Client.step (c : Client) (event : Event) : Client :=
  match event.phase? with
  | none => c.handle event
  | some phase => if c.thread = .running ∧ c.phase = phase then c.handle event else c

end ExperimentControl.Gateway

import Mathlib.Algebra.Order.Ring.Rat
import ExperimentControl.Lib.OrderedDict
import ExperimentControl.Lib.Runs
import ExperimentControl.Python.Value

/-!
The queues of the Influx writer (`processes/influx_writer.py`): the main loop, which queues points and
hands them over in batches, and the HTTP thread, which writes the batches and puts back what was not
written.
-/

namespace ExperimentControl.Influx
open Lib

/-- What `float(text)` gives. -/
inductive PyFloat where
  | finite (q : Rat)
  | infinite
  | nan

structure Parsers where
  /-- `float(text)`, none where it raises ValueError -/
  toFloat : String → Option PyFloat
  /-- `parsedate_to_datetime(text).timestamp()`: none where the text is no date, an error where the date has no
  timestamp -/
  toTimestamp : String → Option (Except String Rat)

structure RetryState where
  nextAttempt : Rat
  consecutiveFailures : Nat
  lastStatus : Option Int
  lastRetryAfter : Option Rat

namespace RetryState

def new : RetryState := ⟨0,0,none,none⟩

end RetryState

def parseRetryAfter (py : Parsers) (value : Option String) (nowWall : Rat) : Except String (Option Rat) :=
  match value with
  | none => .ok none
  | some value =>
    let text := Python.strip value
    if text = "" then .ok none
    else match py.toFloat text with
      | some (.finite delay) => .ok (some (max 0 delay))
      | some .infinite | some .nan => .ok none
      | none => match py.toTimestamp text with
        | none => .ok none
        | some (.error message) => .error message
        | some (.ok timestamp) => .ok (some (max 0 (timestamp-nowWall)))

/-- `_fallback_retry_delay`; `float` raises where the power of two has no float. -/
def fallbackRetryDelay (consecutiveFailures : Nat) : Except String Rat :=
  let exponent := consecutiveFailures-1
  if 1024 ≤ exponent then .error "int too large to convert to float"
  else .ok (min 60 (2^exponent))

inductive Outcome where
  | success
  | httpError (code : Int) (retryAfter : Option String)
  | raised
  deriving DecidableEq

/-- `_record_destination_http_error`: the state it leaves, and whether it raises -/
def recordHttpError (py : Parsers) (state : RetryState) (code : Int) (retryAfter : Option String)
    (nowWall now : Rat) : RetryState × Bool :=
  let state := { state with
    consecutiveFailures := state.consecutiveFailures+1
    lastStatus := some code }
  let delay : Except String Rat := match parseRetryAfter py retryAfter nowWall with
    | .error message => .error message
    | .ok (some delay) => .ok delay
    | .ok none => fallbackRetryDelay state.consecutiveFailures
  match delay with
  | .error _ => (state,true)
  | .ok delay => ({ state with lastRetryAfter := some delay, nextAttempt := now+delay },false)

/-- `QueuedPoint`; the points are numbered as they come in. -/
structure Point where
  number : Nat
  destination : String
  line : String
  deriving DecidableEq

abbrev Batch := List (String × List Point)

def Batch.points (batch : Batch) : List Point := batch.flatMap Prod.snd

/-- `by_destination.setdefault(point.destination, []).append(point)` -/
def addPoint (point : Point) : Batch → Batch
  | [] => [(point.destination,[point])]
  | e :: rest =>
    if e.1 = point.destination then (e.1,e.2 ++ [point]) :: rest else e :: addPoint point rest

def groupPointsByDestination (pending : List Point) : Batch :=
  pending.foldl (fun batch point => addPoint point batch) []

inductive OverflowPolicy where
  | dropOldest | dropNewest
  deriving DecidableEq

structure Config where
  maxQueuePoints : Nat
  maxQueuePoints_pos : 0 < maxQueuePoints
  overflowPolicy : OverflowPolicy
  destinations : List String

/-- `_http_queue`, by its size -/
def httpQueueMax : Nat := 64

/-- One point of `_requeue_failed`: the queue, and the points that were dropped. -/
def requeuePoint (cfg : Config) (point : Point) : List Point × List Point → List Point × List Point
  | (queue,dropped) =>
    if queue.length < cfg.maxQueuePoints then (point :: queue,dropped)
    else match cfg.overflowPolicy,queue with
      | .dropNewest,queue => (queue,point :: dropped)
      | .dropOldest,[] => ([point],dropped)
      | .dropOldest,oldest :: rest => (point :: rest,oldest :: dropped)

/-- `_requeue_failed`, which goes through the points from the last one -/
def requeueFailed (cfg : Config) (points : List Point) (queue : List Point × List Point) :
    List Point × List Point :=
  points.foldr (requeuePoint cfg) queue

inductive MainPhase where
  | loop
  /-- in `finally`, before the last flush -/
  | closing
  /-- in `_flush`, on the way through the destinations -/
  | splitting (rest ready : Batch) (backoff : List Point)
  /-- in `_flush`, with what is ready, on the way to the HTTP queue -/
  | offering (ready : Batch)
  | sentinel
  | joining
  | returned

inductive HttpPhase where
  | head
  | get
  /-- in `_flush_grouped_points` -/
  | writing (batch rest : Batch) (failed : List Point)
  | ended

/-- A request that was sent to a destination, with what came of it, when, and the destination's next attempt
after it. -/
structure Post where
  destination : String
  points : List Point
  outcome : Outcome
  time : Rat
  next : Option Rat

structure Writer where
  cfg : Config
  queue : List Point
  httpQueue : List (Option Batch)
  retry : OrderedDict String RetryState
  main : MainPhase
  left : Bool
  http : HttpPhase
  stop : Bool
  ingested : List Point
  dropped : List Point
  posts : List Post

namespace Writer

def new (cfg : Config) : Writer where
  cfg := cfg
  queue := []
  httpQueue := []
  retry := .empty
  main := .loop
  left := false
  http := .head
  stop := false
  ingested := []
  dropped := []
  posts := []

def inBackoff (w : Writer) (destination : String) (now : Rat) : Bool :=
  match w.retry.get? destination with
  | none => false
  | some state => now < state.nextAttempt

def requeue (w : Writer) (points : List Point) : Writer :=
  let result := requeueFailed w.cfg points (w.queue,w.dropped)
  { w with queue := result.1, dropped := result.2 }

/-- `_enqueue_point`, for a destination that `_resolve_ingest_destination` has found -/
def enqueuePoint (w : Writer) (destination line : String) : Writer :=
  let point : Point := ⟨w.ingested.length,destination,line⟩
  let w := { w with ingested := w.ingested ++ [point] }
  if w.queue.length < w.cfg.maxQueuePoints then { w with queue := w.queue ++ [point] }
  else match w.cfg.overflowPolicy with
    | .dropNewest => { w with dropped := point :: w.dropped }
    | .dropOldest => { w with queue := w.queue.tail ++ [point], dropped := w.queue.head?.toList ++ w.dropped }

/-- What comes after `_flush`. -/
def flushed (w : Writer) : Writer := { w with main := if w.left then .sentinel else .loop }

/-- `_flush`, up to the grouping -/
def beginFlush (w : Writer) : Writer :=
  if w.queue.isEmpty then w.flushed
  else { w with queue := [], main := .splitting (groupPointsByDestination w.queue) [] [] }

/-- `_split_ready_backoff_points`, for the next destination; after the last one, what is in backoff goes back
to the queue. -/
def splitNext (w : Writer) (now : Rat) (rest ready : Batch) (backoff : List Point) : Writer :=
  match rest with
  | group :: rest =>
    if w.inBackoff group.1 now then { w with main := .splitting rest ready (backoff ++ group.2) }
    else { w with main := .splitting rest (ready ++ [group]) backoff }
  | [] =>
    let w := w.requeue backoff
    if ready.isEmpty then w.flushed else { w with main := .offering ready }

/-- `self._http_queue.put_nowait(ready)` -/
def offer (w : Writer) (ready : Batch) : Writer :=
  if w.httpQueue.length < httpQueueMax then { w with httpQueue := w.httpQueue ++ [some ready] }.flushed
  else (w.requeue ready.points).flushed

/-- `self._http_queue.put(None, timeout=1.0)`, whose `queue.Full` is ignored -/
def putSentinel (w : Writer) : Writer :=
  { w with
    main := .joining
    httpQueue := if w.httpQueue.length < httpQueueMax then w.httpQueue ++ [none] else w.httpQueue }

/-- The head of the loop of `_http_thread_run` -/
def atHead (w : Writer) : Writer := { w with http := if w.stop then .ended else .get }

/-- `self._http_queue.get(timeout=0.5)` -/
def getBatch (w : Writer) : Writer :=
  match w.httpQueue with
  | [] => { w with http := .head }
  | none :: rest => { w with http := .ended, httpQueue := rest }
  | some batch :: rest => { w with http := .writing batch batch [], httpQueue := rest }

def posted (w : Writer) (group : String × List Point) (outcome : Outcome) (now : Rat) : Writer :=
  { w with posts := w.posts ++
    [⟨group.1,group.2,outcome,now,(w.retry.get? group.1).map RetryState.nextAttempt⟩] }

/-- The next destination of `_flush_grouped_points`, with `_flush_destination_points`; after the last one, what
failed goes back to the queue. -/
def writeNext (w : Writer) (py : Parsers) (now nowWall : Rat) (outcome : Outcome) (batch rest : Batch)
    (failed : List Point) : Writer :=
  match rest with
  | [] => { w.requeue failed with http := .head }
  | group :: rest =>
    let failing : HttpPhase := .writing batch rest (failed ++ group.2)
    if w.inBackoff group.1 now || group.1 ∉ w.cfg.destinations then { w with http := failing }
    else match outcome with
      | .success =>
        { w with retry := w.retry.erase group.1, http := .writing batch rest failed }.posted group outcome now
      | .raised => { w with http := failing }.posted group outcome now
      | .httpError code retryAfter =>
        let state := (w.retry.get? group.1).getD .new
        let recorded := recordHttpError py state code retryAfter nowWall now
        let w := { w with retry := w.retry.set group.1 recorded.1 }.posted group outcome now
        if recorded.2 then
          -- Nothing but `_http_thread_run` catches this, and it puts the whole batch back.
          { batch.foldl (fun w group => w.requeue group.2) w with http := .head }
        else { w with http := failing }

end Writer

/-- What happens: in the main loop, and in the HTTP thread. -/
inductive Event where
  | ingest (destination line : String)
  | stopRequested
  | leaveLoop (raises : Bool)
  | flush
  | split (now : Rat)
  | offer
  | putSentinel
  | join (timedOut : Bool)
  | look
  | get
  | write (now nowWall : Rat) (outcome : Outcome)

def Writer.step (py : Parsers) (w : Writer) : Event → Writer
  | .stopRequested => { w with stop := true }
  | .ingest destination line => match w.main with
    | .loop => if destination ∈ w.cfg.destinations then w.enqueuePoint destination line else w
    | _ => w
  | .leaveLoop raises => match w.main with
    | .loop => if w.stop || raises then { w with main := .closing, left := true } else w
    | _ => w
  | .flush => match w.main with
    | .loop | .closing => w.beginFlush
    | _ => w
  | .split now => match w.main with
    | .splitting rest ready backoff => w.splitNext now rest ready backoff
    | _ => w
  | .offer => match w.main with
    | .offering ready => w.offer ready
    | _ => w
  | .putSentinel => match w.main with
    | .sentinel => w.putSentinel
    | _ => w
  | .join timedOut => match w.main,w.http with
    | .joining,.ended => { w with main := .returned }
    | .joining,_ => if timedOut then { w with main := .returned } else w
    | _,_ => w
  | .look => match w.http with
    | .head => w.atHead
    | _ => w
  | .get => match w.http with
    | .get => w.getBatch
    | _ => w
  | .write now nowWall outcome => match w.http with
    | .writing batch rest failed => w.writeNext py now nowWall outcome batch rest failed
    | _ => w

end ExperimentControl.Influx

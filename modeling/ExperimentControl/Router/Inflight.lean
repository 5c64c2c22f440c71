import ExperimentControl.Router.Dispatch

/-!
The device router around its workers: a request reserves one of a bounded number of slots, goes to
the queue of a worker, and gives its slot back when its reply is drained.
-/

namespace ExperimentControl.Router
open Lib Python CommandInterceptors List

/-- A thread that leaves its loop still counts as alive while it cleans up. -/
inductive Life where
  | starting
  | running
  | leaving
  | dead
  deriving DecidableEq

structure Worker where
  queue : List Task
  queueMax : Nat
  hand : Option Task
  life : Life

structure ReplyItem where
  identity : List UInt8
  response : Value
  inflightReserved : Bool
  requestId : Value

structure Config where
  deviceRpcTimeoutMs : Int
  workerQueueMax : WorkerKey → Nat
  givenReplyQueueMax : Nat
  givenInflightMax : Nat

def Config.queueMax (cfg : Config) (key : WorkerKey) : Nat := max 1 (cfg.workerQueueMax key)

def Config.replyQueueMax (cfg : Config) : Nat := max 1 cfg.givenReplyQueueMax

def Config.inflightMax (cfg : Config) : Nat := max 1 (min cfg.givenInflightMax cfg.replyQueueMax)

variable (cfg : Config)

theorem Config.inflightMax_le_replyQueueMax : cfg.inflightMax ≤ cfg.replyQueueMax := by
  unfold inflightMax replyQueueMax
  omega

structure DeviceRouter where
  inflightCount : Nat := 0
  inflightRejected : Nat := 0
  overloadRejected : OrderedDict String Nat := .empty
  workers : OrderedDict WorkerKey Worker := .empty
  replyQueue : List ReplyItem := []
  sent : List (List UInt8 × Value) := []

def reserveInflight (cfg : Config) (r : DeviceRouter) : Bool × DeviceRouter :=
  if cfg.inflightMax ≤ r.inflightCount then
    (false,{ r with inflightRejected := r.inflightRejected+1 })
  else (true,{ r with inflightCount := r.inflightCount+1 })

def releaseInflight (r : DeviceRouter) : DeviceRouter := { r with inflightCount := r.inflightCount-1 }

def injectRequestId (response requestId : Value) : Value :=
  match response with
  | .dict attr entries =>
    if requestId = .none || get entries "request_id" ≠ .none then response
    else .dict attr (setItem entries "request_id" requestId)
  | _ => response

def sendExternalResponse (identity : List UInt8) (response requestId : Value) (r : DeviceRouter) : DeviceRouter :=
  { r with sent := r.sent ++ [(identity,injectRequestId response requestId)] }

def overloadResponse (cfg : Config) (message : String) (worker : Option Worker) (r : DeviceRouter) : Value :=
  let depths : Entries := match worker with
    | none => []
    | some worker =>
      [("queue_depth",.int worker.queue.length),("queue_max",.int worker.queueMax)]
  let details : Entries := [("inflight",.int r.inflightCount),("inflight_max",.int cfg.inflightMax),
    ("retry_after_ms",.int 100)] ++ depths
  failed (.dict false [("code",.str "router_busy"),("message",.str message),
    ("details",.dict false details)])

def rejectOverload (cfg : Config) (identity : List UInt8) (bucket message : String)
    (worker : Option Worker) (requestId : Value) (r : DeviceRouter) : DeviceRouter :=
  let rejected := r.overloadRejected.set bucket ((r.overloadRejected.get? bucket).getD 0+1)
  let r := { r with overloadRejected := rejected }
  sendExternalResponse identity (overloadResponse cfg message worker r) requestId r

/-- `_ensure_manager_worker` and its siblings: a worker that has ended is replaced. -/
def ensureWorker (cfg : Config) (key : WorkerKey) (r : DeviceRouter) : Worker :=
  match r.workers.get? key with
  | some worker => if worker.life = .dead then ⟨[],cfg.queueMax key,none,.starting⟩ else worker
  | none => ⟨[],cfg.queueMax key,none,.starting⟩

/-- `_submit_with_inflight`, and whether the task is now with a worker. -/
def submitWithInflight (cfg : Config) (identity : List UInt8) (key : WorkerKey) (task : Task)
    (bucket queueFullMessage : String) (requestId : Value) (r : DeviceRouter) : Bool × DeviceRouter :=
  match reserveInflight cfg r with
  | (false,r) =>
    (false,rejectOverload cfg identity "inflight" "router inflight request limit reached" none
      requestId r)
  | (true,r) =>
    let worker := ensureWorker cfg key r
    if worker.queue.length < worker.queueMax then
      (true,{ r with workers := r.workers.set key { worker with queue := worker.queue ++ [task] } })
    else
      let r := releaseInflight { r with workers := r.workers.set key worker }
      (false,rejectOverload cfg identity bucket queueFullMessage (some worker) requestId r)

/-- What `_drain_replies` sends for an item. -/
def outbound (item : ReplyItem) : Value :=
  match injectRequestId item.response item.requestId with
  | .dict attr entries =>
    if item.requestId = .none then .dict attr entries
    else .dict attr (setItem entries "request_id" item.requestId)
  | response => response

def drainItem (item : ReplyItem) (r : DeviceRouter) : DeviceRouter :=
  let r := { r with sent := r.sent ++ [(item.identity,outbound item)] }
  if item.inflightReserved then releaseInflight r else r

/-- `start` is what `run` does before its loop, with the exception, if there is one, of making the
manager client or the event publisher. -/
inductive Event where
  | request (dir : Directory) (identity : List UInt8) (req : Value)
  | start (key : WorkerKey) (unready : Option PyExc)
  | take (key : WorkerKey)
  | finish (key : WorkerKey) (wire : Wire)
  | exit (key : WorkerKey)
  | drain

/-- The router, the identities and ids of the requests it has accepted, and the items it has
drained. -/
structure System where
  router : DeviceRouter
  accepted : List (List UInt8 × Value)
  drained : List ReplyItem

def System.init : System := ⟨{},[],[]⟩

section
variable (b : Builtins) (cfg : Config)

def stepRequest (dir : Directory) (identity : List UInt8) (req : Value) (sys : System) :
    Option System :=
  match handleExternalRpc b dir identity req with
  -- `poll_and_drain` swallows the exception: the request is gone and the loop goes on
  | .raise _ => some sys
  | .respond response requestId =>
    some { sys with router := sendExternalResponse identity response requestId sys.router }
  | .submit key task bucket message requestId =>
    let (submitted,router) :=
      submitWithInflight cfg identity key task bucket message requestId sys.router
    some { sys with
      router
      accepted := if submitted then sys.accepted ++ [(identity,givenRequestId req)]
        else sys.accepted }

/-- Nothing in `run` catches what is raised before its `try`. -/
def stepStart (key : WorkerKey) (unready : Option PyExc) (sys : System) : Option System :=
  match sys.router.workers.get? key with
  | some ⟨queue,queueMax,hand,.starting⟩ =>
    let life := if unready.isSome then .leaving else .running
    some { sys with router := { sys.router with
      workers := sys.router.workers.set key ⟨queue,queueMax,hand,life⟩ } }
  | _ => none

def stepTake (key : WorkerKey) (sys : System) : Option System :=
  match sys.router.workers.get? key with
  | some ⟨task :: rest,queueMax,none,.running⟩ =>
    some { sys with router := { sys.router with
      workers := sys.router.workers.set key ⟨rest,queueMax,some task,.running⟩ } }
  | _ => none

def replyItem (task : Task) (response : Value) : ReplyItem :=
  ⟨task.identity,response,true,task.requestId⟩

def stepFinish (key : WorkerKey) (wire : Wire) (sys : System) : Option System :=
  match sys.router.workers.get? key with
  | some ⟨queue,queueMax,some task,.running⟩ =>
    match work b cfg.deviceRpcTimeoutMs task wire with
    | .error _ => some { sys with router := { sys.router with
        workers := sys.router.workers.set key ⟨queue,queueMax,none,.leaving⟩ } }
    | .ok (response,_) =>
      -- `put` waits for room on the reply queue
      if sys.router.replyQueue.length < cfg.replyQueueMax then
        some { sys with router := { sys.router with
          workers := sys.router.workers.set key ⟨queue,queueMax,none,.running⟩
          replyQueue := sys.router.replyQueue ++ [replyItem task response] } }
      else none
  | _ => none

def stepExit (key : WorkerKey) (sys : System) : Option System :=
  match sys.router.workers.get? key with
  | some ⟨queue,queueMax,hand,.leaving⟩ =>
    some { sys with router := { sys.router with
      workers := sys.router.workers.set key ⟨queue,queueMax,hand,.dead⟩ } }
  | _ => none

def stepDrain (sys : System) : Option System :=
  match sys.router.replyQueue with
  | [] => none
  | item :: rest =>
    some { sys with
      router := drainItem item { sys.router with replyQueue := rest }
      drained := sys.drained ++ [item] }

def System.step (sys : System) : Event → Option System
  | .request dir identity req => stepRequest b cfg dir identity req sys
  | .start key unready => stepStart key unready sys
  | .take key => stepTake key sys
  | .finish key wire => stepFinish b cfg key wire sys
  | .exit key => stepExit key sys
  | .drain => stepDrain sys

end

def Worker.tasks (worker : Worker) : List Task := worker.hand.toList ++ worker.queue

def ReplyItem.sender (item : ReplyItem) : List UInt8 × Value := (item.identity,item.requestId)

def waiting (workers : OrderedDict WorkerKey Worker) : List Task :=
  workers.entries.flatMap (·.2.tasks)

def unanswered (r : DeviceRouter) : List (List UInt8 × Value) :=
  (waiting r.workers).map Task.sender ++ r.replyQueue.map ReplyItem.sender

def Worker.AtWork (worker : Worker) : Prop := worker.life = .running ∨
  worker.life = .starting ∧ worker.hand = none

structure Balanced (cfg : Config) (sys : System) : Prop where
  running : ∀ key worker, sys.router.workers.get? key = some worker → worker.AtWork
  reserved : ∀ item ∈ sys.router.replyQueue, item.inflightReserved = true
  inflight : sys.router.inflightCount = (unanswered sys.router).length
  limit : sys.router.inflightCount ≤ cfg.inflightMax
  accounted : (unanswered sys.router ++ sys.drained.map ReplyItem.sender).Perm sys.accepted

theorem balanced_init : Balanced cfg .init where
  running key worker h := by cases h
  reserved item h := by cases h
  inflight := rfl
  limit := Nat.zero_le _
  accounted := Perm.nil

theorem waiting_set (workers : OrderedDict WorkerKey Worker) (key : WorkerKey) (old : List Task)
    (worker : Worker) (hold : (workers.get? key).elim [] Worker.tasks = old) :
    ∃ rest, (waiting workers).Perm (old ++ rest) ∧
      (waiting (workers.set key worker)).Perm (worker.tasks ++ rest) := by
  obtain ⟨rest,hbefore,hafter⟩ := workers.perm_flatMap_set Worker.tasks key worker
  rw [hold] at hbefore
  exact ⟨rest,hbefore,hafter⟩

theorem running_set {r : DeviceRouter} {key : WorkerKey} {worker : Worker}
    (h : ∀ key worker, r.workers.get? key = some worker → worker.AtWork) (hw : worker.AtWork) :
    ∀ key' worker', (r.workers.set key worker).get? key' = some worker' → worker'.AtWork := by
  intro key' worker' hget
  rw [OrderedDict.get?_set] at hget
  split at hget
  · cases hget
    exact hw
  · exact h _ _ hget

theorem ensureWorker_spec (key : WorkerKey) {r : DeviceRouter}
    (h : ∀ key worker, r.workers.get? key = some worker → worker.AtWork) :
    (ensureWorker cfg key r).AtWork ∧
      (r.workers.get? key).elim [] Worker.tasks = (ensureWorker cfg key r).tasks := by
  unfold ensureWorker
  cases hget : r.workers.get? key with
  | none => exact ⟨.inr ⟨rfl,rfl⟩,rfl⟩
  | some worker =>
    have hwork := h key worker hget
    have halive : worker.life ≠ .dead := by
      rcases hwork with hrun | ⟨hstart,-⟩
      · simp [hrun]
      · simp [hstart]
    simp [halive,hwork]

section
variable {b : Builtins} {cfg : Config} {sys : System}

theorem Balanced.congr {router : DeviceRouter} (h : Balanced cfg sys)
    (hworkers : router.workers = sys.router.workers)
    (hreplies : router.replyQueue = sys.router.replyQueue)
    (hcount : router.inflightCount = sys.router.inflightCount) :
    Balanced cfg { sys with router } := by
  have hun : unanswered router = unanswered sys.router := by
    simp only [unanswered,waiting,hworkers,hreplies]
  constructor
  · simpa [hworkers] using h.running
  · simpa [hreplies] using h.reserved
  · simpa [hun,hcount] using h.inflight
  · simpa [hcount] using h.limit
  · simpa [hun] using h.accounted

variable {key : WorkerKey}

theorem balanced_accepted {task : Task} {sender : List UInt8 × Value}
    (h : Balanced cfg sys) (hroom : sys.router.inflightCount < cfg.inflightMax)
    (hsender : task.sender = sender) :
    let worker := ensureWorker cfg key sys.router
    Balanced cfg { sys with
      router := { sys.router with
        inflightCount := sys.router.inflightCount+1
        workers := sys.router.workers.set key { worker with queue := worker.queue ++ [task] } }
      accepted := sys.accepted ++ [sender] } := by
  intro worker
  obtain ⟨hlife,htasks⟩ := ensureWorker_spec cfg key h.running
  obtain ⟨rest,hbefore,hafter⟩ :=
    waiting_set sys.router.workers key _ { worker with queue := worker.queue ++ [task] } htasks
  have hmore : (unanswered { sys.router with
      inflightCount := sys.router.inflightCount+1
      workers := sys.router.workers.set key { worker with queue := worker.queue ++ [task] } }).Perm
      (sender :: unanswered sys.router) := by
    have hwait : (waiting (sys.router.workers.set key
        { worker with queue := worker.queue ++ [task] })).Perm
        (task :: waiting sys.router.workers) := by
      refine hafter.trans (Perm.trans ?_ (hbefore.symm.cons task))
      have hmiddle : ((worker.hand.toList ++ worker.queue) ++ task :: rest).Perm
          (task :: ((worker.hand.toList ++ worker.queue) ++ rest)) := perm_middle
      simpa [Worker.tasks] using hmiddle
    have hmap := (hwait.map Task.sender).append_right (sys.router.replyQueue.map ReplyItem.sender)
    simpa [unanswered,hsender] using hmap
  constructor
  · exact running_set h.running hlife
  · exact h.reserved
  · rw [hmore.length_eq,length_cons,← h.inflight]
  · exact hroom
  · refine (hmore.append_right _).trans (Perm.trans ?_ perm_append_comm)
    simpa using h.accounted

theorem balanced_submit {identity : List UInt8} {task : Task}
    {bucket message : String} {requestId : Value} {sender : List UInt8 × Value}
    (h : Balanced cfg sys) (hsender : task.sender = sender) :
    let result := submitWithInflight cfg identity key task bucket message requestId sys.router
    Balanced cfg { sys with
      router := result.2
      accepted := if result.1 then sys.accepted ++ [sender] else sys.accepted } := by
  intro result
  unfold result submitWithInflight reserveInflight
  by_cases hfull : cfg.inflightMax ≤ sys.router.inflightCount
  · simp only [hfull,if_true]
    exact h.congr rfl rfl rfl
  · simp only [hfull,if_false]
    split
    · exact balanced_accepted h (by omega) hsender
    · -- the queue is full: the worker may be new, but it holds what was there
      obtain ⟨hlife,htasks⟩ := ensureWorker_spec cfg key h.running
      obtain ⟨rest,hbefore,hafter⟩ :=
        waiting_set sys.router.workers key _ (ensureWorker cfg key sys.router) htasks
      have hsame := ((hafter.trans hbefore.symm).map Task.sender).append_right
        (sys.router.replyQueue.map ReplyItem.sender)
      have hcount : sys.router.inflightCount = (unanswered { sys.router with
          workers := sys.router.workers.set key (ensureWorker cfg key sys.router) }).length := by
        rw [h.inflight]
        exact hsame.length_eq.symm
      constructor
      · exact running_set h.running hlife
      · exact h.reserved
      · exact hcount
      · exact h.limit
      · exact (hsame.append_right _).trans h.accounted

variable {sys' : System}

theorem balanced_request {dir : Directory} {identity : List UInt8} {req : Value}
    (h : Balanced cfg sys) (hstep : stepRequest b cfg dir identity req sys = some sys') :
    Balanced cfg sys' := by
  unfold stepRequest at hstep
  split at hstep
  · cases hstep
    exact h
  · cases hstep
    exact h.congr rfl rfl rfl
  · rename_i key task bucket message requestId hroute
    cases hstep
    exact balanced_submit h (handleExternalRpc_sender hroute)

theorem stepStart_cases {unready : Option PyExc} (hstep : stepStart key unready sys = some sys') :
    ∃ queue queueMax hand,
      sys.router.workers.get? key = some ⟨queue,queueMax,hand,.starting⟩ ∧
      sys' = { sys with router := { sys.router with
        workers := sys.router.workers.set key
          ⟨queue,queueMax,hand,if unready.isSome then .leaving else .running⟩ } } := by
  unfold stepStart at hstep
  split at hstep
  · rename_i queue queueMax hand hget
    cases hstep
    exact ⟨queue,queueMax,hand,hget,rfl⟩
  · cases hstep

/-- A worker that goes on with the tasks it has. -/
theorem balanced_set {old worker : Worker} (h : Balanced cfg sys)
    (hget : sys.router.workers.get? key = some old) (htasks : worker.tasks = old.tasks)
    (hwork : worker.AtWork) : Balanced cfg { sys with router := { sys.router with
      workers := sys.router.workers.set key worker } } := by
  obtain ⟨others,hbefore,hafter⟩ := waiting_set sys.router.workers key worker.tasks worker
    (by simp [hget,htasks])
  have hsame := ((hafter.trans hbefore.symm).map Task.sender).append_right
    (sys.router.replyQueue.map ReplyItem.sender)
  constructor
  · exact running_set h.running hwork
  · exact h.reserved
  · rw [h.inflight]
    exact hsame.length_eq.symm
  · exact h.limit
  · exact (hsame.append_right _).trans h.accounted

theorem balanced_start (h : Balanced cfg sys) (hstep : stepStart key none sys = some sys') :
    Balanced cfg sys' := by
  obtain ⟨queue,queueMax,hand,hget,rfl⟩ := stepStart_cases hstep
  exact balanced_set h hget rfl (.inl rfl)

theorem stepTake_cases (hstep : stepTake key sys = some sys') : ∃ task rest queueMax,
      sys.router.workers.get? key = some ⟨task :: rest,queueMax,none,.running⟩ ∧
      sys' = { sys with router := { sys.router with
        workers := sys.router.workers.set key ⟨rest,queueMax,some task,.running⟩ } } := by
  unfold stepTake at hstep
  split at hstep
  · rename_i task rest queueMax hget
    cases hstep
    exact ⟨task,rest,queueMax,hget,rfl⟩
  · cases hstep

theorem balanced_take (h : Balanced cfg sys)
    (hstep : stepTake key sys = some sys') : Balanced cfg sys' := by
  obtain ⟨task,rest,queueMax,hget,rfl⟩ := stepTake_cases hstep
  exact balanced_set h hget rfl (.inl rfl)

theorem stepFinish_cases {wire : Wire}
    (hclean : ∀ worker task, sys.router.workers.get? key = some worker →
      worker.hand = some task → ¬ Crashes b wire task)
    (hstep : stepFinish b cfg key wire sys = some sys') : ∃ queue queueMax task response,
      sys.router.workers.get? key = some ⟨queue,queueMax,some task,.running⟩ ∧
      sys' = { sys with router := { sys.router with
        workers := sys.router.workers.set key ⟨queue,queueMax,none,.running⟩
        replyQueue := sys.router.replyQueue ++ [replyItem task response] } } := by
  unfold stepFinish at hstep
  split at hstep
  · rename_i queue queueMax task hget
    split at hstep
    · rename_i e hwork
      exact absurd (work_raises_iff.1 ⟨e,hwork⟩) (hclean _ task hget rfl)
    · rename_i response w' _
      split at hstep
      · cases hstep
        exact ⟨queue,queueMax,task,response,hget,rfl⟩
      · cases hstep
  · cases hstep

theorem balanced_finish {wire : Wire} (h : Balanced cfg sys)
    (hclean : ∀ worker task, sys.router.workers.get? key = some worker →
      worker.hand = some task → ¬ Crashes b wire task)
    (hstep : stepFinish b cfg key wire sys = some sys') : Balanced cfg sys' := by
  obtain ⟨queue,queueMax,task,response,hget,rfl⟩ := stepFinish_cases hclean hstep
  obtain ⟨others,hbefore,hafter⟩ := waiting_set sys.router.workers key (task :: queue)
    ⟨queue,queueMax,none,.running⟩ (by simp [hget,Worker.tasks])
  have hfewer : (waiting sys.router.workers).Perm
      (task :: waiting (sys.router.workers.set key ⟨queue,queueMax,none,.running⟩)) := by
    refine hbefore.trans (Perm.trans ?_ (hafter.symm.cons task))
    simp [Worker.tasks]
  have hsame : (unanswered { sys.router with
      workers := sys.router.workers.set key ⟨queue,queueMax,none,.running⟩
      replyQueue := sys.router.replyQueue ++ [replyItem task response] }).Perm
      (unanswered sys.router) := by
    refine Perm.trans ?_ ((hfewer.map Task.sender).append_right _).symm
    have hmove : (replyItem task response).sender = task.sender := rfl
    simp only [unanswered,map_append,map_cons,map_nil,hmove,cons_append]
    rw [← append_assoc]
    exact perm_append_comm
  constructor
  · exact running_set h.running (.inl rfl)
  · intro item hitem
    rcases mem_append.1 hitem with hitem | hitem
    · exact h.reserved item hitem
    · rw [mem_singleton.1 hitem]
      rfl
  · rw [h.inflight]
    exact hsame.length_eq.symm
  · exact h.limit
  · exact (hsame.append_right _).trans h.accounted

theorem stepExit_of_balanced (h : Balanced cfg sys) : stepExit key sys = none := by
  unfold stepExit
  split
  · rename_i hget
    rcases h.running key _ hget with hlife | ⟨hlife,-⟩ <;> cases hlife
  · rfl

theorem balanced_drain (h : Balanced cfg sys) (hstep : stepDrain sys = some sys') :
    Balanced cfg sys' := by
  unfold stepDrain at hstep
  split at hstep
  · cases hstep
  · rename_i item rest hqueue
    cases hstep
    have hreserved : item.inflightReserved = true := h.reserved item (by simp [hqueue])
    have hone : (unanswered sys.router).Perm (item.sender ::
        unanswered { sys.router with replyQueue := rest }) := by
      simp only [unanswered,hqueue,map_cons]
      exact perm_middle
    have hcount := h.inflight
    rw [hone.length_eq,length_cons] at hcount
    have hdrained : drainItem item { sys.router with replyQueue := rest } = { sys.router with
        replyQueue := rest
        sent := sys.router.sent ++ [(item.identity,outbound item)]
        inflightCount := sys.router.inflightCount-1 } := by
      simp [drainItem,hreserved,releaseInflight]
    have hun : unanswered (drainItem item { sys.router with replyQueue := rest }) =
        unanswered { sys.router with replyQueue := rest } := by
      rw [hdrained]
      rfl
    constructor
    · rw [hdrained]
      exact h.running
    · rw [hdrained]
      exact fun item hitem => h.reserved item (by simp [hqueue,hitem])
    · rw [hun,hdrained]
      show sys.router.inflightCount-1 = _
      omega
    · rw [hdrained]
      have := h.limit
      show sys.router.inflightCount-1 ≤ _
      omega
    · rw [hun]
      refine Perm.trans ?_ h.accounted
      refine Perm.trans ?_ (hone.append_right _).symm
      simp only [map_append,map_cons,map_nil,cons_append]
      rw [← append_assoc]
      exact perm_append_comm

end

section
variable (b : Builtins) (cfg : Config)

/-- No reply ends the worker that has to handle it, and no socket fails it outside of a `try`. -/
def CleanEvent (sys : System) : Event → Prop
  | .start _ unready => unready = none
  | .finish key wire => ∀ worker task, sys.router.workers.get? key = some worker →
    worker.hand = some task → ¬ Crashes b wire task
  | _ => True

inductive CleanReachable : System → Prop where
  | init : CleanReachable .init
  | step {sys sys' : System} {event : Event} : CleanReachable sys → CleanEvent b sys event →
      sys.step b cfg event = some sys' → CleanReachable sys'

end

section
variable {b : Builtins} {cfg : Config} {sys sys' : System}

theorem balanced_step {event : Event} (h : Balanced cfg sys) (hclean : CleanEvent b sys event)
    (hstep : sys.step b cfg event = some sys') : Balanced cfg sys' := by
  cases event with
  | request dir identity req => exact balanced_request h hstep
  | start key unready =>
    obtain rfl : unready = none := hclean
    exact balanced_start h hstep
  | take key => exact balanced_take h hstep
  | finish key wire => exact balanced_finish h hclean hstep
  | exit key =>
    rw [System.step,stepExit_of_balanced h] at hstep
    cases hstep
  | drain => exact balanced_drain h hstep

theorem balanced_of_cleanReachable (h : CleanReachable b cfg sys) : Balanced cfg sys := by
  induction h with
  | init => exact balanced_init cfg
  | step _ hclean hstep ih => exact balanced_step ih hclean hstep

/-- How often a worker can still start, take and finish, with the drains after that. -/
def Worker.credits (worker : Worker) : List Unit :=
  replicate (3*worker.queue.length+2*worker.hand.toList.length+
    if worker.life = .starting then 1 else 0) ()

def remaining (sys : System) : Nat :=
  (sys.router.workers.entries.flatMap (·.2.credits)).length + sys.router.replyQueue.length

theorem replyQueue_has_room (h : Balanced cfg sys) {key : WorkerKey} {worker : Worker} {task : Task}
    (hget : sys.router.workers.get? key = some worker) (hhand : worker.hand = some task) :
    sys.router.replyQueue.length < cfg.replyQueueMax := by
  have hmem : task ∈ waiting sys.router.workers := by
    refine mem_flatMap.2 ⟨(key,worker),?_,by simp [Worker.tasks,hhand]⟩
    exact (OrderedDict.get?_eq_some_iff _ _ _).1 hget
  have hpos : 0 < (waiting sys.router.workers).length := length_pos_of_mem hmem
  have hcount := h.inflight
  have hlimit := h.limit
  have hmax := cfg.inflightMax_le_replyQueueMax
  simp only [unanswered,length_append,length_map] at hcount
  omega

theorem finish_enabled (h : Balanced cfg sys) {key : WorkerKey} {worker : Worker} {task : Task}
    (hget : sys.router.workers.get? key = some worker) (hhand : worker.hand = some task)
    {wire : Wire} (hclean : ¬ Crashes b wire task) :
    ∃ response w', work b cfg.deviceRpcTimeoutMs task wire = .ok (response,w') ∧
      sys.step b cfg (.finish key wire) = some { sys with router := { sys.router with
        workers := sys.router.workers.set key { worker with hand := none }
        replyQueue := sys.router.replyQueue ++ [replyItem task response] } } := by
  have hroom := replyQueue_has_room h hget hhand
  have hrun : worker.life = .running := by
    rcases h.running key worker hget with hrun | ⟨-,hnone⟩
    · exact hrun
    · rw [hnone] at hhand
      cases hhand
  obtain ⟨queue,queueMax,hand,life⟩ := worker
  obtain rfl : hand = some task := hhand
  obtain rfl : life = .running := hrun
  cases hwork : work b cfg.deviceRpcTimeoutMs task wire with
  | error e => exact absurd (work_raises_iff.1 ⟨e,hwork⟩) hclean
  | ok result =>
    refine ⟨result.1,result.2,rfl,?_⟩
    simp only [System.step,stepFinish,hget,hwork,hroom,if_true]

theorem credits_set {old : Worker} (worker : Worker)
    (hget : sys.router.workers.get? key = some old) :
    ((sys.router.workers.set key worker).entries.flatMap (·.2.credits)).length +
        old.credits.length =
      (sys.router.workers.entries.flatMap (·.2.credits)).length + worker.credits.length := by
  obtain ⟨others,hbefore,hafter⟩ := sys.router.workers.perm_flatMap_set Worker.credits key worker
  rw [hget] at hbefore
  have hb := hbefore.length_eq
  have ha := hafter.length_eq
  simp only [Option.elim_some,length_append] at hb ha
  omega

theorem remaining_lt {event : Event} (h : Balanced cfg sys) (hclean : CleanEvent b sys event)
    (hevent : ∀ dir identity req, event ≠ .request dir identity req)
    (hstep : sys.step b cfg event = some sys') : remaining sys' < remaining sys := by
  cases event with
  | request dir identity req => exact absurd rfl (hevent dir identity req)
  | start key unready =>
    obtain rfl : unready = none := hclean
    obtain ⟨queue,queueMax,hand,hget,rfl⟩ := stepStart_cases hstep
    have hcredits := credits_set ⟨queue,queueMax,hand,.running⟩ hget
    simp [remaining,Worker.credits] at hcredits ⊢
    omega
  | take key =>
    obtain ⟨task,rest,queueMax,hget,rfl⟩ := stepTake_cases hstep
    have hcredits := credits_set ⟨rest,queueMax,some task,.running⟩ hget
    simp [remaining,Worker.credits] at hcredits ⊢
    omega
  | finish key wire =>
    obtain ⟨queue,queueMax,task,response,hget,rfl⟩ := stepFinish_cases hclean hstep
    have hcredits := credits_set ⟨queue,queueMax,none,.running⟩ hget
    simp [remaining,Worker.credits] at hcredits ⊢
    omega
  | exit key =>
    rw [System.step,stepExit_of_balanced h] at hstep
    cases hstep
  | drain =>
    simp only [System.step,stepDrain] at hstep
    split at hstep
    · cases hstep
    · rename_i item rest hqueue
      cases hstep
      simp only [remaining,drainItem,hqueue]
      split <;> simp [releaseInflight]

theorem unanswered_of_remaining (h : remaining sys = 0) : unanswered sys.router = [] := by
  simp only [remaining,Nat.add_eq_zero_iff,length_eq_zero_iff,flatMap_eq_nil_iff] at h
  obtain ⟨hworkers,hreplies⟩ := h
  have hwaiting : waiting sys.router.workers = [] := by
    rw [waiting,flatMap_eq_nil_iff]
    intro e he
    have hnone := congrArg length (hworkers e he)
    simp only [Worker.credits,length_replicate,length_nil] at hnone
    rw [← length_eq_zero_iff,Worker.tasks,length_append]
    omega
  simp [unanswered,hreplies,hwaiting]

/-- A state in which every accepted request is answered once: it is with one worker, or its reply is
on the reply queue or drained, under its identity and id. -/
structure AnsweredOnce (b : Builtins) (cfg : Config) (sys : System) : Prop where
  accounted : (unanswered sys.router ++ sys.drained.map ReplyItem.sender).Perm sys.accepted
  inflight : sys.router.inflightCount+sys.drained.length = sys.accepted.length
  alive : ∀ key worker, sys.router.workers.get? key = some worker → worker.AtWork
  starts : ∀ key worker, sys.router.workers.get? key = some worker → worker.life = .starting →
    (sys.step b cfg (.start key none)).isSome = true
  takes : ∀ key worker, sys.router.workers.get? key = some worker → worker.life = .running →
    worker.hand = none → worker.queue ≠ [] → (sys.step b cfg (.take key)).isSome = true
  finishes : ∀ key worker task, sys.router.workers.get? key = some worker →
    worker.hand = some task → ∀ wire, ¬ Crashes b wire task → ∃ response w',
      work b cfg.deviceRpcTimeoutMs task wire = .ok (response,w') ∧
      sys.step b cfg (.finish key wire) = some { sys with router := { sys.router with
        workers := sys.router.workers.set key { worker with hand := none }
        replyQueue := sys.router.replyQueue ++ [replyItem task response] } }
  drains : sys.router.replyQueue ≠ [] → (sys.step b cfg .drain).isSome = true
  progress : ∀ event sys', CleanEvent b sys event →
    (∀ dir identity req, event ≠ .request dir identity req) →
    sys.step b cfg event = some sys' → remaining sys' < remaining sys
  complete : remaining sys = 0 → (sys.drained.map ReplyItem.sender).Perm sys.accepted

/-- In every run in which no reply and no socket ends a worker, every request that got a slot is answered once,
and the slots in use are those of the requests whose reply is not drained. -/
theorem requests_answered_once (h : CleanReachable b cfg sys) : AnsweredOnce b cfg sys := by
  have hbal := balanced_of_cleanReachable h
  constructor
  · exact hbal.accounted
  · have hlen := hbal.accounted.length_eq
    simpa [hbal.inflight] using hlen
  · exact hbal.running
  · rintro key ⟨queue,queueMax,hand,life⟩ hget rfl
    simp [System.step,stepStart,hget]
  · rintro key ⟨queue,queueMax,hand,life⟩ hget rfl rfl hqueue
    cases queue with
    | nil => exact absurd rfl hqueue
    | cons task rest => simp [System.step,stepTake,hget]
  · intro key worker task hget hhand wire hclean
    exact finish_enabled hbal hget hhand hclean
  · intro hqueue
    cases hreplies : sys.router.replyQueue with
    | nil => exact absurd hreplies hqueue
    | cons item rest => simp [System.step,stepDrain,hreplies]
  · intro event sys' hclean hevent hstep
    exact remaining_lt hbal hclean hevent hstep
  · intro hdone
    simpa [unanswered_of_remaining hdone] using hbal.accounted

end

theorem none_eq_plain (v : Value) (hv : v ≠ .none) : decide (Value.none = v) = false := by simpa using Ne.symm hv

def Builtins.plain : Builtins where
  repr _ := ""
  eq a b := a = b
  none_eq := none_eq_plain
  upper := String.toUpper
  toInt _ := .error ⟨.valueError,""⟩
  safeJson _ := ""

def controllerDirectory : Directory where
  processId := none
  rpcEndpoint := none
  deviceEndpoints _ := none
  deviceStates _ := none
  processEndpoints id := if id = "controller" then some "tcp://127.0.0.1:7001" else none
  processStates _ := none
  mirroredRoutes _ := none
  chain _ _ := []
  routeAnswer _ := .none

def smallConfig : Config := ⟨1500,fun _ => 4,8,8⟩

def controllerRequest (requestId : String) : Event :=
  .request controllerDirectory [7] (.dict false [("type",.str "manager.processes.rpc"),
    ("process_id",.str "controller"),
    ("request",.dict false [("type",.str "status"),("request_id",.str requestId)])])

def statusWire (requestId : String) (status : Value) : Wire where
  clock := 0
  wall := 0
  process := { frames := [.dict false [("request_id",.str requestId),("status",status)]] }

def System.answers (b : Builtins) (cfg : Config) (sys : System) : Event → Bool
  | .start _ unready => unready.isNone
  | .finish key wire => match sys.router.workers.get? key with
    | some ⟨_,_,some task,_⟩ => (work b cfg.deviceRpcTimeoutMs task wire).isOk
    | _ => true
  | _ => true

def System.cleanStep (b : Builtins) (cfg : Config) (sys : System) (event : Event) : Option System :=
  if sys.answers b cfg event then sys.step b cfg event else none

theorem cleanEvent_of_answers {b : Builtins} {cfg : Config} {sys : System} {event : Event}
    (h : sys.answers b cfg event = true) : CleanEvent b sys event := by
  cases event with
  | finish key wire =>
    rintro ⟨queue,queueMax,hand,life⟩ task hget rfl hcrash
    obtain ⟨e,he⟩ : ∃ e, work b cfg.deviceRpcTimeoutMs task wire = .error e :=
      work_raises_iff.2 hcrash
    simp [System.answers,hget,he,Except.isOk,Except.toBool] at h
  | request dir identity req => trivial
  | start key unready => exact Option.isNone_iff_eq_none.1 h
  | take key => trivial
  | exit key => trivial
  | drain => trivial

theorem cleanReachable_of_run {b : Builtins} {cfg : Config} {events : List Event} {sys sys' : System}
    (hsys : CleanReachable b cfg sys) (hrun : events.foldlM (System.cleanStep b cfg) sys = some sys') :
    CleanReachable b cfg sys' := by
  induction events generalizing sys with
  | nil =>
    cases hrun
    exact hsys
  | cons event rest ih =>
    rw [foldlM_cons] at hrun
    obtain ⟨mid,hmid,hrest⟩ := Option.bind_eq_some_iff.1 hrun
    unfold System.cleanStep at hmid
    split at hmid
    · rename_i hanswers
      exact ih (hsys.step (cleanEvent_of_answers hanswers) hmid) hrest
    · cases hmid

def System.books (sys : System) : Nat × List (List UInt8 × Value) × List (List UInt8 × Value) :=
  (sys.router.inflightCount,sys.accepted,sys.drained.map ReplyItem.sender)

def controller : WorkerKey := .process "controller"

def firstAnswered : List Event :=
  [controllerRequest "a",.start controller none,controllerRequest "b",.take controller,
    .finish controller (statusWire "a" (.str "OK")),.drain]

theorem first_request_answered :
    ∃ sys, firstAnswered.foldlM (System.cleanStep .plain smallConfig) .init = some sys ∧
      sys.books = (1,[([7],.str "a"),([7],.str "b")],[([7],.str "a")]) ∧
      AnsweredOnce .plain smallConfig sys := by
  have hbooks : (firstAnswered.foldlM (System.cleanStep .plain smallConfig) .init).map System.books =
      some (1,[([7],.str "a"),([7],.str "b")],[([7],.str "a")]) := by decide +kernel
  obtain ⟨sys,hrun,hsys⟩ := Option.map_eq_some_iff.1 hbooks
  exact ⟨sys,hrun,hsys,requests_answered_once (cleanReachable_of_run .init hrun)⟩

def listStatus : List Event :=
  [controllerRequest "a",.start controller none,controllerRequest "b",.take controller,
    .finish controller (statusWire "a" (.list [])),.exit controller]

theorem list_status_ends_worker :
    ∃ sys, listStatus.foldlM (System.step .plain smallConfig) .init = some sys ∧
      sys.books = (2,[([7],.str "a"),([7],.str "b")],[]) ∧
      unanswered sys.router = [([7],.str "b")] ∧ ¬ AnsweredOnce .plain smallConfig sys := by
  have hbooks : (listStatus.foldlM (System.step .plain smallConfig) .init).map System.books =
      some (2,[([7],.str "a"),([7],.str "b")],[]) := by decide +kernel
  obtain ⟨sys,hrun,hbook⟩ := Option.map_eq_some_iff.1 hbooks
  have hun : unanswered sys.router = [([7],.str "b")] := by
    have hleft : (listStatus.foldlM (System.step .plain smallConfig) .init).map
        (fun sys => unanswered sys.router) = some [([7],.str "b")] := by decide +kernel
    rw [hrun] at hleft
    simpa using hleft
  refine ⟨sys,hrun,hbook,hun,fun h => ?_⟩
  have hlen := h.accounted.length_eq
  have haccepted : sys.accepted.length = 2 := by
    rw [show sys.accepted = _ from congrArg (·.2.1) hbook]
    rfl
  have hdrained : sys.drained.map ReplyItem.sender = [] := congrArg (·.2.2) hbook
  rw [hun,hdrained,haccepted] at hlen
  cases hlen

section
variable {b : Builtins} {cfg : Config} {key : WorkerKey} {sys sys' : System}

/-- What holds also when workers have ended. -/
structure Bounded (cfg : Config) (r : DeviceRouter) : Prop where
  reserved : ∀ item ∈ r.replyQueue, item.inflightReserved = true
  inflight : (unanswered r).length ≤ r.inflightCount
  limit : r.inflightCount ≤ cfg.inflightMax

theorem Bounded.set {r r' : DeviceRouter} {worker : Worker} (h : Bounded cfg r)
    (hworkers : r'.workers = r.workers.set key worker)
    (hreserved : ∀ item ∈ r'.replyQueue, item.inflightReserved = true)
    (hcount : worker.tasks.length+r'.replyQueue.length+r.inflightCount ≤
      ((r.workers.get? key).elim [] Worker.tasks).length+r.replyQueue.length+r'.inflightCount)
    (hlimit : r'.inflightCount ≤ cfg.inflightMax) : Bounded cfg r' := by
  refine ⟨hreserved,?_,hlimit⟩
  obtain ⟨rest,hbefore,hafter⟩ := waiting_set r.workers key _ worker rfl
  have hinflight := h.inflight
  simp only [unanswered,hworkers,length_append,length_map,hbefore.length_eq,hafter.length_eq] at *
  omega

theorem bounded_submit {r : DeviceRouter} {identity : List UInt8} {task : Task} {bucket message : String}
    {requestId : Value} (h : Bounded cfg r) :
    Bounded cfg (submitWithInflight cfg identity key task bucket message requestId r).2 := by
  have htasks : (ensureWorker cfg key r).tasks.length ≤ ((r.workers.get? key).elim [] Worker.tasks).length := by
    unfold ensureWorker
    cases hget : r.workers.get? key with
    | none => simp [Worker.tasks]
    | some worker =>
      dsimp only
      split
      · simp [Worker.tasks]
      · exact Nat.le_refl _
  unfold submitWithInflight reserveInflight
  by_cases hfull : cfg.inflightMax ≤ r.inflightCount
  · simp only [hfull,if_true]
    exact ⟨h.reserved,h.inflight,h.limit⟩
  · have hsame : ensureWorker cfg key { r with inflightCount := r.inflightCount+1 } =
        ensureWorker cfg key r := rfl
    simp only [hfull,if_false,hsame]
    split
    · refine h.set rfl h.reserved ?_ (Nat.lt_of_not_le hfull)
      simp only [Worker.tasks,length_append,length_singleton] at htasks ⊢
      omega
    · refine h.set rfl h.reserved ?_ h.limit
      simp only [rejectOverload,sendExternalResponse,releaseInflight]
      omega

theorem bounded_step {event : Event} (h : Bounded cfg sys.router)
    (hstep : sys.step b cfg event = some sys') : Bounded cfg sys'.router := by
  cases event with
  | request dir identity req =>
    rw [System.step,stepRequest] at hstep
    split at hstep
    · cases hstep
      exact h
    · cases hstep
      exact ⟨h.reserved,h.inflight,h.limit⟩
    · cases hstep
      exact bounded_submit h
  | start key unready =>
    obtain ⟨queue,queueMax,hand,hget,rfl⟩ := stepStart_cases hstep
    refine h.set rfl h.reserved ?_ h.limit
    simp [hget,Worker.tasks]
  | take key =>
    obtain ⟨task,rest,queueMax,hget,rfl⟩ := stepTake_cases hstep
    refine h.set rfl h.reserved ?_ h.limit
    simp [hget,Worker.tasks]
  | finish key wire =>
    rw [System.step,stepFinish] at hstep
    split at hstep
    · rename_i hget
      split at hstep
      · cases hstep
        refine h.set rfl h.reserved ?_ h.limit
        simp [hget,Worker.tasks]
      · split at hstep
        · cases hstep
          refine h.set rfl ?_ ?_ h.limit
          · exact forall_mem_append.2 ⟨h.reserved,by simp [replyItem]⟩
          · simp only [hget,Option.elim_some,Worker.tasks,length_append,length_singleton,Option.toList_none,
              Option.toList_some,length_nil]
            omega
        · cases hstep
    · cases hstep
  | exit key =>
    rw [System.step,stepExit] at hstep
    split at hstep
    · rename_i hget
      cases hstep
      exact h.set rfl h.reserved (by simp [hget,Worker.tasks]) h.limit
    · cases hstep
  | drain =>
    rw [System.step,stepDrain] at hstep
    split at hstep
    · cases hstep
    · rename_i item rest hqueue
      cases hstep
      obtain ⟨hreserved,hinflight,hlimit⟩ := h
      simp only [hqueue,forall_mem_cons] at hreserved
      simp only [unanswered,hqueue,length_append,length_map,length_cons] at hinflight
      simp only [drainItem,hreserved.1,if_true,releaseInflight]
      refine ⟨hreserved.2,?_,by dsimp only; omega⟩
      simp only [unanswered,length_append,length_map]
      omega

/-- Whatever is asked and whichever workers end: the counter stays within its limit and is no less than what
is unanswered, and a worker never waits for room on the reply queue. -/
theorem router_bounded {events : List Event}
    (h : events.foldlM (System.step b cfg) .init = some sys) :
    Bounded cfg sys.router ∧ ∀ key worker, sys.router.workers.get? key = some worker →
      worker.hand.isSome = true → sys.router.replyQueue.length < cfg.replyQueueMax := by
  have hrun : ∀ (events : List Event) (s : System), Bounded cfg s.router →
      events.foldlM (System.step b cfg) s = some sys → Bounded cfg sys.router := by
    intro events
    induction events with
    | nil =>
      rintro s hs ⟨⟩
      exact hs
    | cons event rest ih =>
      intro s hs h
      obtain ⟨mid,hmid,hrest⟩ := Option.bind_eq_some_iff.1 h
      exact ih mid (bounded_step hs hmid) hrest
  have hsys := hrun events .init ⟨fun item hitem => (not_mem_nil hitem).elim,Nat.le_refl _,Nat.zero_le _⟩ h
  refine ⟨hsys,fun key worker hget hhand => ?_⟩
  obtain ⟨task,hhand⟩ := Option.isSome_iff_exists.1 hhand
  have hmem : task ∈ waiting sys.router.workers :=
    mem_flatMap.2 ⟨(key,worker),(OrderedDict.get?_eq_some_iff _ _ _).1 hget,by simp [Worker.tasks,hhand]⟩
  obtain ⟨-,hinflight,hlimit⟩ := hsys
  have hpos := length_pos_of_mem hmem
  have hmax := cfg.inflightMax_le_replyQueueMax
  simp only [unanswered,length_append,length_map] at hinflight
  omega

end

theorem list_status_bounded : ∃ sys, listStatus.foldlM (System.step .plain smallConfig) .init = some sys ∧
    Bounded smallConfig sys.router ∧ ∀ key worker, sys.router.workers.get? key = some worker →
      worker.hand.isSome = true → sys.router.replyQueue.length < smallConfig.replyQueueMax := by
  have hruns : (listStatus.foldlM (System.step .plain smallConfig) .init).isSome = true := by decide +kernel
  obtain ⟨sys,hrun⟩ := Option.isSome_iff_exists.1 hruns
  exact ⟨sys,hrun,router_bounded hrun⟩

end ExperimentControl.Router

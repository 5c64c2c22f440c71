import ExperimentControl.Federation.Forward
import ExperimentControl.Lib.Runs

/-!
The forward workers of the federation hub (`federation/hub.py`): one thread, one queue and one
socket for each mirror.
-/

namespace ExperimentControl.Federation
open Lib Python List Option Function

/-- A `_ForwardTask` with what its callback closes over. `ticket` tells the requests apart that the
hub has taken. -/
structure ForwardTask where
  ticket : Nat
  identity : List UInt8
  requestId : Value
  outbound : Entries
  peerId : String
  annotates : Option FederationPolicy

/-- An item of the reply queue. `ticket` is the request whose answer it is, and `peerReply` the
request that the peer has answered with it. -/
structure ForwardReply where
  identity : List UInt8
  response : Entries
  ticket : Nat
  peerReply : Option Nat

/-- The request id that `_send_reply` adds -/
def withRequestId (requestId : Value) (response : Entries) : Entries :=
  if requestId ≠ .none ∧ item? response "request_id" = none then
    setItem response "request_id" requestId
  else response

def errorResponse (code message : String) : Entries :=
  [("ok",.bool false),
    ("error",.dict false [("code",.str code),("message",.str message)])]

section
variable (b : Builtins) (fnmatchcase : String → String → Bool)

def annotateProcessCapabilities (policy : FederationPolicy) (response : Entries) : Entries :=
  match getKey response "result" with
  | .dict attr result => match getKey result "members" with
    | .list members =>
      let tag := fun (member : Value) => match member with
        | .dict mattr fields => .dict mattr (setItem fields "federation_allowed" (.bool
            (processActionAllowed fnmatchcase policy ((getD fields "name" (.str "")).text b.repr))))
        | other => other
      setItem response "result" (.dict attr (setItem result "members" (.list (members.map tag))))
    | _ => response
  | _ => response

/-- `_on_result`; the times and errors that it notes are left out. -/
def onResult (task : ForwardTask) (response : Option Entries) : Entries :=
  withRequestId task.requestId <| match response with
    | none => errorResponse "peer_unavailable" ("peer " ++ b.repr (.str task.peerId) ++ " unavailable")
    | some response => match task.annotates with
      | some policy => if (getKey response "ok").truthy then
          annotateProcessCapabilities b fnmatchcase policy response else response
      | none => response

/-- A connection to the peer: the requests sent over it that the peer may still answer, and the
replies that have come in, each with the request that it answers. -/
structure Connection where
  unanswered : List Nat := []
  inbox : List (Nat × Value) := []

inductive Phase where
  | looping
  /-- at `queue.get` -/
  | getting
  | sending (task : ForwardTask)
  /-- at `sock.recv` -/
  | receiving (task : ForwardTask)
  | ended

/-- `none` in the queue is the sentinel. -/
structure ForwardWorker where
  queue : List (Option ForwardTask) := []
  stopping : Bool := false
  phase : Phase := .looping
  sock : Option Connection := none

inductive WorkerMove where
  | test
  | get
  | send (ok : Bool)
  | receive
  /-- `recv` times out or raises. -/
  | giveUp
  deriving DecidableEq

namespace ForwardWorker
variable (w : ForwardWorker)

/-- The end of `_forward` and the callback. A socket that failed is closed. -/
def answer (task : ForwardTask) (sock : Option Connection) (response : Option (Nat × Entries)) :
    ForwardWorker × Option ForwardReply :=
  ({ w with phase := .looping, sock := sock },
    some ⟨task.identity,onResult b fnmatchcase task (response.map Prod.snd),task.ticket,
      response.map Prod.fst⟩)

/-- `run`, move by move; a move that the worker is not at does nothing. -/
def move : WorkerMove → ForwardWorker × Option ForwardReply
  | .test => match w.phase with
    | .looping => if w.stopping then ({ w with phase := .ended, sock := none },none)
      else ({ w with phase := .getting },none)
    | _ => (w,none)
  | .get => match w.phase,w.queue with
    | .getting,some task :: rest => ({ w with queue := rest, phase := .sending task },none)
    | .getting,none :: rest => ({ w with queue := rest, phase := .ended, sock := none },none)
    | _,_ => (w,none)
  | .send ok => match w.phase with
    | .sending task =>
      if ok then
        let sock := w.sock.getD {}
        ({ w with
            phase := .receiving task
            sock := some { sock with unanswered := sock.unanswered ++ [task.ticket] } },none)
      else w.answer b fnmatchcase task none none
    | _ => (w,none)
  | .receive => match w.phase,w.sock with
    | .receiving task,some sock => match sock.inbox with
      | (ticket,.dict _ response) :: rest =>
        w.answer b fnmatchcase task (some { sock with inbox := rest }) (some (ticket,response))
      | _ :: _ => w.answer b fnmatchcase task none none
      | [] => (w,none)
    | _,_ => (w,none)
  | .giveUp => match w.phase with
    | .receiving task => w.answer b fnmatchcase task none none
    | _ => (w,none)

/-- `stop`: the flag, and the sentinel if the queue has room. -/
def stop (queueMax : Nat) : ForwardWorker :=
  { w with
    stopping := true
    queue := if w.queue.length < queueMax then w.queue ++ [none] else w.queue }

def peerAnswers (ticket : Nat) (reply : Value) : ForwardWorker :=
  match w.sock with
  | some sock => if ticket ∈ sock.unanswered then
      { w with sock := some ⟨sock.unanswered.erase ticket,sock.inbox ++ [(ticket,reply)]⟩ }
    else w
  | none => w

end ForwardWorker

inductive MirrorKey where
  | device (localId : String)
  | process (localId : String)
  deriving DecidableEq

inductive Stage where
  | working
  /-- `close` has begun, and has these workers to stop. -/
  | closing (remaining : List MirrorKey)
  | closed

/-- A request that the hub has taken, and the worker that it was given to. -/
structure Taken where
  identity : List UInt8
  requestId : Value
  worker : Option MirrorKey

structure ForwardHub where
  stage : Stage := .working
  /-- the threads; `close` forgets them, but they go on to their end -/
  workers : MirrorKey → Option ForwardWorker := fun _ => none
  taken : List Taken := []
  replies : List ForwardReply := []

/-- A call of `try_dispatch_device_forward` or `try_dispatch_process_forward`. -/
inductive Attempt where
  | device (req : Entries) (rtype deviceId : String)
  | process (req : Entries) (processId : String)

namespace Attempt

def req : Attempt → Entries
  | .device req _ _ | .process req _ => req

def key : Attempt → MirrorKey
  | .device _ _ deviceId => .device deviceId
  | .process _ processId => .process processId

def forwarding (config : Peers) (instanceId : String) : Attempt → Forwarding
  | .device req rtype deviceId =>
    tryDispatchDeviceForward b fnmatchcase config instanceId req rtype deviceId
  | .process req processId => tryDispatchProcessForward b fnmatchcase config instanceId req processId

def noun : Attempt → String × String
  | .device _ _ deviceId => ("device ",deviceId)
  | .process _ processId => ("process ",processId)

def task (attempt : Attempt) (ticket : Nat) (identity : List UInt8) (peer : FederationPeerConfig)
    (outbound : Entries) : ForwardTask :=
  { ticket, identity, outbound
    requestId := getKey attempt.req "request_id"
    peerId := peer.peerId
    annotates := match attempt with
      | .process req _ =>
        if innerAction b req = "process.capabilities" then some peer.policy else none
      | .device _ _ _ => none }

end Attempt

structure ForwardConfig where
  config : FederationConfig
  instanceId : String

def forwardQueueMax : Nat := 256

inductive HubMove where
  | activate
  | dispatch (identity : List UInt8) (attempt : Attempt)
  | close
  /-- `close` stops the next worker, or has stopped all. -/
  | stopNext
  | worker (key : MirrorKey) (move : WorkerMove)
  | peerAnswers (key : MirrorKey) (ticket : Nat) (reply : Value)

variable (cfg : ForwardConfig)

def mirrorKeys : List MirrorKey :=
  if cfg.config.enabled then
    (deviceMirrors cfg.config.toPeers).map (fun mirror => .device mirror.localId) ++
      (processMirrors cfg.config.toPeers).map fun mirror => .process mirror.localId
  else []

namespace ForwardHub
variable (hub : ForwardHub)

def answerNow (identity : List UInt8) (requestId : Value) (response : Entries) : ForwardHub :=
  { hub with
    taken := hub.taken ++ [⟨identity,requestId,none⟩]
    replies := hub.replies ++
      [⟨identity,withRequestId requestId response,hub.taken.length,none⟩] }

def setWorker (key : MirrorKey) (w : Option ForwardWorker) : ForwardHub :=
  { hub with workers := update hub.workers key w }

/-- `_device_forward_workers.get(device_id)`, and the same for processes -/
def worker? (key : MirrorKey) : Option ForwardWorker :=
  match hub.stage with
  | .closed => none
  | _ => hub.workers key

def dispatch (identity : List UInt8) (attempt : Attempt) : ForwardHub :=
  let requestId := getKey attempt.req "request_id"
  match attempt.forwarding b fnmatchcase cfg.config.toPeers cfg.instanceId with
  | .declined => hub
  | .denied message => hub.answerNow identity requestId (errorResponse "federation_acl_denied" message)
  | .submit _ peer outbound =>
    match hub.worker? attempt.key with
    | none => hub.answerNow identity requestId (errorResponse "federation_forward_no_worker"
        ("no forward worker for mirrored " ++ attempt.noun.1 ++ b.repr (.str attempt.noun.2)))
    | some w =>
      if w.queue.length < forwardQueueMax then
        let task := attempt.task b hub.taken.length identity peer outbound
        let hub : ForwardHub := { hub with taken := hub.taken ++ [⟨identity,requestId,some attempt.key⟩] }
        hub.setWorker attempt.key (some { w with queue := w.queue ++ [some task] })
      else hub.answerNow identity requestId (errorResponse "federation_forward_busy"
        ("forward queue full for " ++ b.repr (.str attempt.noun.2)))

/-- What happens in the hub and its workers. `dispatch` and `close` are calls of one thread. -/
def step : HubMove → ForwardHub
  | .activate => match hub.stage with
    | .working =>
      let fresh := fun key => if key ∈ mirrorKeys cfg then some {} else none
      { hub with workers := fun key => (hub.workers key).or (fresh key) }
    | _ => hub
  | .dispatch identity attempt => match hub.stage with
    | .closing _ => hub
    | _ => hub.dispatch b fnmatchcase cfg identity attempt
  | .close => match hub.stage with
    | .working => { hub with stage := .closing (mirrorKeys cfg) }
    | _ => hub
  | .stopNext => match hub.stage with
    | .closing (key :: remaining) =>
      let hub : ForwardHub := { hub with stage := .closing remaining }
      hub.setWorker key ((hub.workers key).map fun w => w.stop forwardQueueMax)
    | .closing [] => { hub with stage := .closed }
    | _ => hub
  | .worker key move => match hub.workers key with
    | none => hub
    | some w =>
      let moved := w.move b fnmatchcase move
      let hub : ForwardHub := { hub with replies := hub.replies ++ moved.2.toList }
      hub.setWorker key (some moved.1)
  | .peerAnswers key ticket reply => match hub.workers key with
    | none => hub
    | some w => hub.setWorker key (some (w.peerAnswers ticket reply))

end ForwardHub

section
variable {b fnmatchcase}

def Phase.hand : Phase → List ForwardTask
  | .sending task | .receiving task => [task]
  | _ => []

namespace ForwardWorker

def queued (w : ForwardWorker) : List ForwardTask := w.queue.filterMap id

def tasks (w : ForwardWorker) : List ForwardTask := w.phase.hand ++ w.queued

/-- The worker takes every task that is queued with it before it tests the stop flag: there is none,
or it is past the test and there is only one. -/
def LeavesNothing (w : ForwardWorker) : Prop :=
  w.queued = [] ∨ (w.phase = .getting ∧ ∃ task rest, w.queue = some task :: rest ∧
    rest.filterMap id = [])

def Correlated (w : ForwardWorker) : Prop :=
  match w.phase with
  | .receiving task => ∃ sock, w.sock = some sock ∧
    ((sock.unanswered = [task.ticket] ∧ sock.inbox = []) ∨
      (sock.unanswered = [] ∧ ∃ reply, sock.inbox = [(task.ticket,reply)]))
  | _ => ∀ sock, w.sock = some sock → sock.unanswered = [] ∧ sock.inbox = []

structure Sound (w : ForwardWorker) : Prop where
  correlated : w.Correlated
  leavesNothing : w.stopping = true → w.LeavesNothing
  stopped : none ∈ w.queue ∨ w.phase = .ended → w.stopping = true

def Answers (reply : ForwardReply) (task : ForwardTask) : Prop :=
  reply.ticket = task.ticket ∧ reply.identity = task.identity ∧
    ∀ n, reply.peerReply = some n → n = task.ticket

/-- What a move does with the tasks: they stay, or the one in hand is answered. -/
inductive Moved (w : ForwardWorker) : ForwardWorker × Option ForwardReply → Prop where
  | stays {w' : ForwardWorker} : w'.tasks = w.tasks → Moved w (w',none)
  | answers {w' : ForwardWorker} {t : ForwardTask} {reply : ForwardReply} :
      w.tasks = t :: w'.tasks → Answers reply t → Moved w (w',some reply)

theorem Sound.fresh : Sound {} where
  correlated := fun sock h => nomatch h
  leavesNothing := fun h => nomatch h
  stopped := by simp

inductive Advance (b : Builtins) (fnmatchcase : String → String → Bool) (w : ForwardWorker) :
    ForwardWorker × Option ForwardReply → Prop where
  | nothing : Advance b fnmatchcase w (w,none)
  | ends : w.phase = .looping → w.stopping = true →
    Advance b fnmatchcase w ({ w with phase := .ended, sock := none },none)
  | goesOn : w.phase = .looping → w.stopping = false →
    Advance b fnmatchcase w ({ w with phase := .getting },none)
  | takes {task : ForwardTask} {rest : List (Option ForwardTask)} : w.phase = .getting →
    w.queue = some task :: rest →
    Advance b fnmatchcase w ({ w with queue := rest, phase := .sending task },none)
  | sentinel {rest : List (Option ForwardTask)} : w.phase = .getting → w.queue = none :: rest →
    Advance b fnmatchcase w ({ w with queue := rest, phase := .ended, sock := none },none)
  | sends {task : ForwardTask} {sock : Connection} : w.phase = .sending task → sock = w.sock.getD {} →
    Advance b fnmatchcase w ({ w with
      phase := .receiving task
      sock := some { sock with unanswered := sock.unanswered ++ [task.ticket] } },none)
  | fails {task : ForwardTask} : w.phase = .sending task ∨ w.phase = .receiving task →
    Advance b fnmatchcase w (w.answer b fnmatchcase task none none)
  | answers {task : ForwardTask} {sock : Connection} {ticket : Nat} {response : Entries}
      {attr : Bool} {rest : List (Nat × Value)} : w.phase = .receiving task → w.sock = some sock →
    sock.inbox = (ticket,.dict attr response) :: rest →
    Advance b fnmatchcase w
      (w.answer b fnmatchcase task (some { sock with inbox := rest }) (some (ticket,response)))

variable (w : ForwardWorker)

theorem move_advance (move : WorkerMove) : Advance b fnmatchcase w (w.move b fnmatchcase move) := by
  unfold ForwardWorker.move
  cases move with
  | test =>
    dsimp only
    split
    · rename_i hphase
      split
      · rename_i hstop
        exact .ends hphase hstop
      · rename_i hstop
        exact .goesOn hphase (by simpa using hstop)
    · exact .nothing
  | get =>
    dsimp only
    split
    · rename_i hphase hqueue
      exact .takes hphase hqueue
    · rename_i hphase hqueue
      exact .sentinel hphase hqueue
    · exact .nothing
  | send ok =>
    dsimp only
    split
    · rename_i hphase
      split
      · exact .sends hphase rfl
      · exact .fails (.inl hphase)
    · exact .nothing
  | receive =>
    dsimp only
    split
    · rename_i hphase hsock
      split
      · rename_i hinbox
        exact .answers hphase hsock hinbox
      · exact .fails (.inr hphase)
      · exact .nothing
    · exact .nothing
  | giveUp =>
    dsimp only
    split
    · rename_i hphase
      exact .fails (.inr hphase)
    · exact .nothing

variable {w : ForwardWorker}

theorem Sound.quiet (h : w.Sound) (hphase : ∀ task, w.phase ≠ .receiving task) :
    ∀ sock, w.sock = some sock → sock.unanswered = [] ∧ sock.inbox = [] := by
  have hc := h.correlated
  unfold Correlated at hc
  split at hc
  · rename_i task hp
    exact absurd hp (hphase task)
  · exact hc

theorem Sound.answer (h : w.Sound) {task : ForwardTask}
    (hphase : w.phase = .sending task ∨ w.phase = .receiving task) {sock : Option Connection}
    (hsock : ∀ s, sock = some s → s.unanswered = [] ∧ s.inbox = [])
    {response : Option (Nat × Entries)} (hresponse : ∀ r, response = some r → r.1 = task.ticket) :
    (w.answer b fnmatchcase task sock response).1.Sound ∧
      Moved w (w.answer b fnmatchcase task sock response) := by
  have hhand : w.phase.hand = [task] := by rcases hphase with h | h <;> rw [h] <;> rfl
  constructor
  · refine ⟨hsock,fun hstop => .inl ?_,fun hs => h.stopped (.inl ?_)⟩
    · refine (h.leavesNothing hstop).resolve_right fun hg => ?_
      rcases hphase with hp | hp <;> rw [hp] at hg <;> cases hg.1
    · exact hs.resolve_right fun he => nomatch he
  · refine .answers (t := task) ?_ ⟨rfl,rfl,fun n hn => ?_⟩
    · rw [tasks,hhand]
      rfl
    · obtain ⟨r,hr,rfl⟩ := map_eq_some_iff.1 hn
      exact hresponse r hr

theorem Sound.advance (h : w.Sound) {moved : ForwardWorker × Option ForwardReply}
    (hmove : Advance b fnmatchcase w moved) : moved.1.Sound ∧ Moved w moved := by
  cases hmove with
  | nothing => exact ⟨h,.stays rfl⟩
  | ends hphase hstop =>
    have hqueue := (h.leavesNothing hstop).resolve_right fun hg => by
      rw [hphase] at hg
      cases hg.1
    exact ⟨⟨(fun sock hs => nomatch hs),fun _ => .inl hqueue,fun _ => hstop⟩,
      .stays (by rw [tasks,tasks,hphase]; rfl)⟩
  | goesOn hphase hstop =>
    have hquiet := h.quiet fun task => by simp [hphase]
    refine ⟨⟨hquiet,fun hs => ?_,fun hs => ?_⟩,.stays (by rw [tasks,tasks,hphase]; rfl)⟩
    · rw [hstop] at hs
      cases hs
    · exact h.stopped (.inl (hs.resolve_right fun he => nomatch he))
  | @takes task rest hphase hqueue =>
    have hquiet := h.quiet fun task => by simp [hphase]
    have hqueued : w.queued = task :: rest.filterMap id := by simp [queued,hqueue]
    refine ⟨⟨hquiet,fun hs => .inl ?_,fun hs => ?_⟩,.stays ?_⟩
    · rcases h.leavesNothing hs with hnil | ⟨_,task',rest',hone,hrest⟩
      · rw [hqueued] at hnil
        cases hnil
      · rw [hqueue] at hone
        obtain ⟨_,rfl⟩ := List.cons.inj hone
        exact hrest
    · refine h.stopped (.inl ?_)
      rw [hqueue]
      exact mem_cons_of_mem _ (hs.resolve_right fun he => nomatch he)
    · rw [tasks,tasks,hphase,hqueued]
      rfl
  | @sentinel rest hphase hqueue =>
    have hstop : w.stopping = true := h.stopped (.inl (by simp [hqueue]))
    have hqueued : w.queued = rest.filterMap id := by simp [queued,hqueue]
    have hnil : rest.filterMap id = [] := by
      rcases h.leavesNothing hstop with hnil | ⟨_,task',rest',hone,_⟩
      · rwa [← hqueued]
      · rw [hqueue] at hone
        cases hone
    exact ⟨⟨(fun sock hs => nomatch hs),fun _ => .inl hnil,fun _ => hstop⟩,
      .stays (by rw [tasks,tasks,hphase,hqueued]; rfl)⟩
  | @sends task sock hphase hsock =>
    have hquiet := h.quiet fun task => by simp [hphase]
    have hfresh : sock.unanswered = [] ∧ sock.inbox = [] := by
      subst hsock
      cases hs : w.sock with
      | none => exact ⟨rfl,rfl⟩
      | some s => exact hquiet s hs
    refine ⟨⟨⟨_,rfl,.inl ⟨by simp [hfresh.1],hfresh.2⟩⟩,fun hs => ?_,fun hs => ?_⟩,
      .stays (by rw [tasks,tasks,hphase]; rfl)⟩
    · refine .inl ((h.leavesNothing hs).resolve_right fun hg => ?_)
      rw [hphase] at hg
      cases hg.1
    · exact h.stopped (.inl (hs.resolve_right fun he => nomatch he))
  | fails hphase =>
    refine h.answer hphase ?_ ?_
    · intro s hs
      cases hs
    · intro r hr
      cases hr
  | @answers task sock ticket response attr rest hphase hsock hinbox =>
    have hc := h.correlated
    unfold Correlated at hc
    rw [hphase] at hc
    obtain ⟨s,hs,hone⟩ := hc
    obtain rfl : sock = s := Option.some.inj (hsock.symm.trans hs)
    rcases hone with ⟨_,hnil⟩ | ⟨hnone,reply,hreply⟩
    · rw [hnil] at hinbox
      cases hinbox
    · rw [hreply] at hinbox
      obtain ⟨hhead,hrest⟩ := List.cons.inj hinbox
      obtain ⟨hticket,_⟩ := Prod.mk.inj hhead
      refine h.answer (.inr hphase) ?_ ?_
      · rintro s hs
        obtain rfl := Option.some.inj hs
        exact ⟨hnone,hrest.symm⟩
      · rintro r hr
        obtain rfl := Option.some.inj hr
        exact hticket.symm

theorem Sound.submit (h : w.Sound) (hrunning : w.stopping = false)
    (task : ForwardTask) : Sound { w with queue := w.queue ++ [some task] } where
  correlated := h.correlated
  leavesNothing hs := by
    rw [hrunning] at hs
    cases hs
  stopped hs := by
    refine h.stopped (hs.imp_left fun hnone => ?_)
    simpa using hnone

theorem tasks_submit (task : ForwardTask) :
    tasks { w with queue := w.queue ++ [some task] } = w.tasks ++ [task] := by
  simp [tasks,queued]

theorem Sound.stop (h : w.Sound) (hleaves : w.LeavesNothing) (queueMax : Nat) :
    (w.stop queueMax).Sound where
  correlated := h.correlated
  leavesNothing _ := by
    unfold ForwardWorker.stop
    rcases hleaves with hnil | ⟨hphase,task,rest,hqueue,hrest⟩
    · refine .inl ?_
      unfold queued at hnil ⊢
      dsimp only
      split
      · simpa using hnil
      · exact hnil
    · refine .inr ⟨hphase,task,?_⟩
      dsimp only
      split
      · exact ⟨rest ++ [none],by simp [hqueue],by simpa using hrest⟩
      · exact ⟨rest,hqueue,hrest⟩
  stopped _ := rfl

theorem tasks_stop (queueMax : Nat) : (w.stop queueMax).tasks = w.tasks := by
  unfold tasks queued ForwardWorker.stop
  dsimp only
  split
  · simp
  · rfl

@[simp] theorem peerAnswers_phase (ticket : Nat) (reply : Value) :
    (w.peerAnswers ticket reply).phase = w.phase := by
  unfold peerAnswers
  split
  · split <;> rfl
  · rfl

@[simp] theorem peerAnswers_queue (ticket : Nat) (reply : Value) :
    (w.peerAnswers ticket reply).queue = w.queue := by
  unfold peerAnswers
  split
  · split <;> rfl
  · rfl

@[simp] theorem peerAnswers_stopping (ticket : Nat) (reply : Value) :
    (w.peerAnswers ticket reply).stopping = w.stopping := by
  unfold peerAnswers
  split
  · split <;> rfl
  · rfl

theorem Sound.peerAnswers (h : w.Sound) (ticket : Nat) (reply : Value) :
    (w.peerAnswers ticket reply).Sound where
  correlated := by
    have hc := h.correlated
    unfold Correlated at hc ⊢
    rw [peerAnswers_phase]
    unfold ForwardWorker.peerAnswers
    split at hc
    · obtain ⟨sock,hsock,hone⟩ := hc
      rw [hsock]
      dsimp only
      rcases hone with ⟨hout,hin⟩ | ⟨hout,hin⟩
      · split
        · rename_i hmem
          rw [hout] at hmem
          obtain rfl := mem_singleton.1 hmem
          exact ⟨_,rfl,.inr ⟨by simp [hout],reply,by simp [hin]⟩⟩
        · exact ⟨sock,hsock,.inl ⟨hout,hin⟩⟩
      · rw [if_neg (by simp [hout])]
        exact ⟨sock,hsock,.inr ⟨hout,hin⟩⟩
    · -- Between two requests there is nothing to answer.
      split
      · rename_i sock hsock
        rw [if_neg (by simp [(hc sock hsock).1])]
        exact hc
      · exact hc
  leavesNothing hs := by
    have hleaves := h.leavesNothing (by simpa using hs)
    unfold LeavesNothing queued at hleaves ⊢
    simpa using hleaves
  stopped hs := by simpa using h.stopped (by simpa using hs)

theorem tasks_peerAnswers (ticket : Nat) (reply : Value) :
    (w.peerAnswers ticket reply).tasks = w.tasks := by
  simp [tasks,queued]

end ForwardWorker

namespace ForwardHub

def answersTo (hub : ForwardHub) (n : Nat) : List ForwardReply :=
  hub.replies.filter fun reply => reply.ticket = n

def tasksAt (hub : ForwardHub) (key : MirrorKey) : List ForwardTask :=
  ((hub.workers key).map ForwardWorker.tasks).getD []

def pending (hub : ForwardHub) (n : Nat) (taken : Taken) : List ForwardTask :=
  ((taken.worker.map hub.tasksAt).getD []).filter fun task => task.ticket = n

def AnswersTaken (hub : ForwardHub) (reply : ForwardReply) : Prop :=
  ∃ taken, hub.taken[reply.ticket]? = some taken ∧ reply.identity = taken.identity ∧
    ∀ n, reply.peerReply = some n → n = reply.ticket

structure Sound (hub : ForwardHub) : Prop where
  workers : ∀ key w, hub.workers key = some w → w.Sound
  running : hub.stage = .working → ∀ key w, hub.workers key = some w → w.stopping = false
  tasks : ∀ key, ∀ task ∈ hub.tasksAt key, ∃ taken, hub.taken[task.ticket]? = some taken ∧
    taken.worker = some key ∧ taken.identity = task.identity
  replies : ∀ reply ∈ hub.replies, hub.AnswersTaken reply
  once : ∀ n taken, hub.taken[n]? = some taken →
    (hub.answersTo n).length + (hub.pending n taken).length = 1

variable {hub : ForwardHub}

@[simp] theorem tasksAt_setWorker (hub : ForwardHub) (key other : MirrorKey) (w : ForwardWorker) :
    (hub.setWorker key (some w)).tasksAt other = if other = key then w.tasks else hub.tasksAt other := by
  unfold tasksAt setWorker
  by_cases h : other = key
  · simp [h]
  · simp [h]

theorem tasksAt_of_some {key : MirrorKey} {w : ForwardWorker} (h : hub.workers key = some w) :
    hub.tasksAt key = w.tasks := by
  simp [tasksAt,h]

/-- A hub that has taken the same requests, given the same answers and has the same tasks. -/
structure Alike (hub hub' : ForwardHub) : Prop where
  taken : hub'.taken = hub.taken
  replies : hub'.replies = hub.replies
  tasks : ∀ key, hub'.tasksAt key = hub.tasksAt key

theorem Sound.alike {hub' : ForwardHub} (h : hub.Sound) (ha : Alike hub hub')
    (hworkers : ∀ key w, hub'.workers key = some w → w.Sound)
    (hrunning : hub'.stage = .working → ∀ key w, hub'.workers key = some w → w.stopping = false) :
    hub'.Sound where
  workers := hworkers
  running := hrunning
  tasks key task htask := by
    rw [ha.tasks] at htask
    rw [ha.taken]
    exact h.tasks key task htask
  replies reply hreply := by
    rw [ha.replies] at hreply
    unfold AnswersTaken
    rw [ha.taken]
    exact h.replies reply hreply
  once n taken htaken := by
    rw [ha.taken] at htaken
    have hpending : hub'.pending n taken = hub.pending n taken := by
      unfold pending
      rw [show hub'.tasksAt = hub.tasksAt from funext ha.tasks]
    rw [hpending,answersTo,ha.replies]
    exact h.once n taken htaken

theorem Sound.setWorker (h : hub.Sound) {key : MirrorKey} {w w' : ForwardWorker}
    (hw : hub.workers key = some w) (hsound : w'.Sound) (htasks : w'.tasks = w.tasks)
    (hrunning : hub.stage = .working → w'.stopping = false) :
    (hub.setWorker key (some w')).Sound := by
  refine h.alike ⟨rfl,rfl,fun other => ?_⟩ (fun other v hv => ?_) (fun hstage other v hv => ?_)
  · rw [tasksAt_setWorker]
    split
    · rename_i heq
      rw [heq,tasksAt_of_some hw,htasks]
    · rfl
  · by_cases heq : other = key
    · simp only [ForwardHub.setWorker,heq,update_self,Option.some.injEq] at hv
      exact hv ▸ hsound
    · simp only [ForwardHub.setWorker,update_of_ne heq] at hv
      exact h.workers other v hv
  · by_cases heq : other = key
    · simp only [ForwardHub.setWorker,heq,update_self,Option.some.injEq] at hv
      exact hv ▸ hrunning hstage
    · simp only [ForwardHub.setWorker,update_of_ne heq] at hv
      exact h.running hstage other v hv

theorem Sound.answersTo_next (h : hub.Sound) : hub.answersTo hub.taken.length = [] := by
  unfold answersTo
  rw [filter_eq_nil_iff]
  intro reply hreply
  obtain ⟨taken,htaken,_⟩ := h.replies reply hreply
  have hlt := (List.getElem?_eq_some_iff.1 htaken).1
  simp only [decide_eq_true_eq]
  omega

theorem Sound.tasksAt_next (h : hub.Sound) (key : MirrorKey) :
    (hub.tasksAt key).filter (fun task => task.ticket = hub.taken.length) = [] := by
  rw [filter_eq_nil_iff]
  intro task htask
  obtain ⟨taken,htaken,_⟩ := h.tasks key task htask
  have hlt := (List.getElem?_eq_some_iff.1 htaken).1
  simp only [decide_eq_true_eq]
  omega

theorem getElem?_append_taken (hub : ForwardHub) (new : Taken) {n : Nat} {taken : Taken}
    (h : (hub.taken ++ [new])[n]? = some taken) :
    hub.taken[n]? = some taken ∨ (n = hub.taken.length ∧ taken = new) := by
  by_cases hlt : n < hub.taken.length
  · rw [getElem?_append_left hlt] at h
    exact .inl h
  · rw [getElem?_append_right (by omega)] at h
    have hn : n - hub.taken.length = 0 := by
      by_contra hne
      rw [getElem?_eq_none (by simp; omega)] at h
      cases h
    rw [hn] at h
    exact .inr ⟨by omega,(Option.some.inj h).symm⟩

theorem getElem?_append_of_some {new : Taken} {n : Nat} {taken : Taken}
    (h : hub.taken[n]? = some taken) : (hub.taken ++ [new])[n]? = some taken := by
  rw [List.getElem?_append_left (List.getElem?_eq_some_iff.1 h).1,h]

theorem Sound.answerNow (h : hub.Sound) (identity : List UInt8) (requestId : Value)
    (response : Entries) : (hub.answerNow identity requestId response).Sound where
  workers := h.workers
  running := h.running
  tasks key task htask := by
    obtain ⟨taken,htaken,hrest⟩ := h.tasks key task htask
    exact ⟨taken,getElem?_append_of_some htaken,hrest⟩
  replies reply hreply := by
    rcases mem_append.1 hreply with hold | hnew
    · obtain ⟨taken,htaken,hrest⟩ := h.replies reply hold
      exact ⟨taken,getElem?_append_of_some htaken,hrest⟩
    · obtain rfl := mem_singleton.1 hnew
      refine ⟨⟨identity,requestId,none⟩,by simp [ForwardHub.answerNow],rfl,fun n hn => ?_⟩
      cases hn
  once n taken htaken := by
    have hanswers : ∀ m, (hub.answerNow identity requestId response).answersTo m =
        hub.answersTo m ++ if m = hub.taken.length then
          [⟨identity,withRequestId requestId response,hub.taken.length,none⟩] else [] := by
      intro m
      unfold answersTo ForwardHub.answerNow
      by_cases hm : m = hub.taken.length
      · simp [hm]
      · simp [hm,Ne.symm hm]
    rw [hanswers]
    rcases getElem?_append_taken hub _ htaken with hold | ⟨rfl,rfl⟩
    · have hlt := (List.getElem?_eq_some_iff.1 hold).1
      rw [if_neg (by omega),append_nil]
      exact h.once n taken hold
    · rw [h.answersTo_next,if_pos rfl]
      rfl

theorem Sound.queueTask (h : hub.Sound) (hworking : hub.stage = .working) {key : MirrorKey}
    {w : ForwardWorker} (hw : hub.workers key = some w) {task : ForwardTask}
    (hticket : task.ticket = hub.taken.length) (requestId : Value) :
    (ForwardHub.setWorker { hub with taken := hub.taken ++ [⟨task.identity,requestId,some key⟩] } key
      (some { w with queue := w.queue ++ [some task] })).Sound := by
  have hrunning := h.running hworking key w hw
  have hat : ∀ other, (ForwardHub.setWorker
      { hub with taken := hub.taken ++ [⟨task.identity,requestId,some key⟩] } key
      (some { w with queue := w.queue ++ [some task] })).tasksAt other =
        hub.tasksAt other ++ if other = key then [task] else [] := by
    intro other
    rw [tasksAt_setWorker]
    split
    · rename_i heq
      rw [ForwardWorker.tasks_submit,heq,tasksAt_of_some hw]
    · rw [append_nil]
      rfl
  constructor
  · intro other v hv
    by_cases heq : other = key
    · simp only [ForwardHub.setWorker,heq,update_self,Option.some.injEq] at hv
      exact hv ▸ (h.workers key w hw).submit hrunning task
    · simp only [ForwardHub.setWorker,update_of_ne heq] at hv
      exact h.workers other v hv
  · intro hstage other v hv
    by_cases heq : other = key
    · simp only [ForwardHub.setWorker,heq,update_self,Option.some.injEq] at hv
      exact hv ▸ hrunning
    · simp only [ForwardHub.setWorker,update_of_ne heq] at hv
      exact h.running hstage other v hv
  · intro other t ht
    rw [hat] at ht
    rcases mem_append.1 ht with hold | hnew
    · obtain ⟨taken,htaken,hrest⟩ := h.tasks other t hold
      exact ⟨taken,getElem?_append_of_some htaken,hrest⟩
    · split at hnew
      · rename_i heq
        obtain rfl := mem_singleton.1 hnew
        exact ⟨⟨t.identity,requestId,some key⟩,by simp [ForwardHub.setWorker,hticket],by rw [heq],rfl⟩
      · cases hnew
  · intro reply hreply
    obtain ⟨taken,htaken,hrest⟩ := h.replies reply hreply
    exact ⟨taken,getElem?_append_of_some htaken,hrest⟩
  · intro n taken htaken
    have hanswers : (ForwardHub.setWorker
        { hub with taken := hub.taken ++ [⟨task.identity,requestId,some key⟩] } key
        (some { w with queue := w.queue ++ [some task] })).answersTo n = hub.answersTo n := rfl
    rw [hanswers]
    rcases getElem?_append_taken hub _ htaken with hold | ⟨rfl,rfl⟩
    · have hlt := (List.getElem?_eq_some_iff.1 hold).1
      rw [← h.once n taken hold]
      unfold pending
      cases taken.worker with
      | none => rfl
      | some other =>
        have hother : task.ticket ≠ n := by omega
        simp only [map_some,getD_some,hat,filter_append]
        split <;> simp [hother]
    · rw [h.answersTo_next]
      simp [pending,hat,h.tasksAt_next,hticket]

theorem Sound.answered (h : hub.Sound) {key : MirrorKey} {w w' : ForwardWorker}
    (hw : hub.workers key = some w) (hsound : w'.Sound) (hstopping : w'.stopping = w.stopping)
    {task : ForwardTask} {reply : ForwardReply} (htasks : w.tasks = task :: w'.tasks)
    (hanswers : ForwardWorker.Answers reply task) :
    (ForwardHub.setWorker { hub with replies := hub.replies ++ [reply] } key (some w')).Sound := by
  obtain ⟨hticket,hidentity,hpeer⟩ := hanswers
  have hat : ∀ other, (ForwardHub.setWorker { hub with replies := hub.replies ++ [reply] } key
      (some w')).tasksAt other = if other = key then w'.tasks else hub.tasksAt other := by
    intro other
    rw [tasksAt_setWorker]
    rfl
  have hkey : hub.tasksAt key = task :: w'.tasks := by rw [tasksAt_of_some hw,htasks]
  obtain ⟨taken,htaken,hworker,hid⟩ := h.tasks key task (hkey ▸ mem_cons_self)
  constructor
  · intro other v hv
    by_cases heq : other = key
    · simp only [ForwardHub.setWorker,heq,update_self,Option.some.injEq] at hv
      exact hv ▸ hsound
    · simp only [ForwardHub.setWorker,update_of_ne heq] at hv
      exact h.workers other v hv
  · intro hstage other v hv
    by_cases heq : other = key
    · simp only [ForwardHub.setWorker,heq,update_self,Option.some.injEq] at hv
      exact hv ▸ hstopping.trans (h.running hstage key w hw)
    · simp only [ForwardHub.setWorker,update_of_ne heq] at hv
      exact h.running hstage other v hv
  · intro other t ht
    rw [hat] at ht
    split at ht
    · rename_i heq
      refine h.tasks other t ?_
      rw [heq,hkey]
      exact mem_cons_of_mem _ ht
    · exact h.tasks other t ht
  · intro r hr
    rcases mem_append.1 hr with hold | hnew
    · exact h.replies r hold
    · obtain rfl := mem_singleton.1 hnew
      exact ⟨taken,hticket ▸ htaken,by rw [hidentity,hid],fun n hn => hticket ▸ hpeer n hn⟩
  · intro n taken' htaken'
    change hub.taken[n]? = some taken' at htaken'
    have hanswersTo : (ForwardHub.setWorker { hub with replies := hub.replies ++ [reply] } key
        (some w')).answersTo n = hub.answersTo n ++ if task.ticket = n then [reply] else [] := by
      unfold answersTo ForwardHub.setWorker
      by_cases hn : task.ticket = n
      · simp [hticket,hn]
      · simp [hticket,hn]
    rw [hanswersTo,← h.once n taken' htaken']
    by_cases hn : task.ticket = n
    · -- The request of the task in hand: one more answer, one task less.
      obtain rfl : taken = taken' := by
        rw [hn,htaken'] at htaken
        exact (Option.some.inj htaken).symm
      simp only [pending,hworker,map_some,getD_some,hat,if_true,hkey,hn,
        filter_cons,decide_true,length_append,length_cons,length_nil]
      omega
    · rw [if_neg hn,append_nil]
      unfold pending
      cases hother : taken'.worker with
      | none => rfl
      | some other =>
        simp only [map_some,getD_some,hat]
        split
        · rename_i heq
          rw [heq,hkey,filter_cons,if_neg (by simpa using hn)]
        · rfl

end ForwardHub

theorem ForwardWorker.Advance.stopping {w : ForwardWorker}
    {moved : ForwardWorker × Option ForwardReply} (h : Advance b fnmatchcase w moved) :
    moved.1.stopping = w.stopping := by
  cases h <;> rfl

/-- No worker is stopped while tasks are queued that it will not take any more. -/
def Unhurried (hub : ForwardHub) : HubMove → Prop
  | .stopNext => ∀ key remaining, hub.stage = .closing (key :: remaining) →
    ∀ w, hub.workers key = some w → w.LeavesNothing
  | _ => True

namespace ForwardHub
variable {hub : ForwardHub}

theorem Sound.init : Sound {} where
  workers key w hw := nomatch hw
  running _ key w hw := nomatch hw
  tasks key task htask := nomatch htask
  replies reply hreply := nomatch hreply
  once n taken htaken := by simp at htaken

theorem Sound.dispatch (h : hub.Sound) (hstage : ∀ remaining, hub.stage ≠ .closing remaining)
    (identity : List UInt8) (attempt : Attempt) :
    (hub.dispatch b fnmatchcase cfg identity attempt).Sound := by
  unfold ForwardHub.dispatch
  dsimp only
  split
  · exact h
  · exact h.answerNow _ _ _
  · split
    · exact h.answerNow _ _ _
    · rename_i w hw
      split
      · unfold worker? at hw
        have hworking : hub.stage = .working := by
          cases hs : hub.stage with
          | working => rfl
          | closing remaining => exact absurd hs (hstage remaining)
          | closed => simp [hs] at hw
        rw [hworking] at hw
        exact @Sound.queueTask _ h hworking _ _ hw (attempt.task b hub.taken.length identity _ _) rfl _
      · exact h.answerNow _ _ _

theorem Sound.step (h : hub.Sound) (move : HubMove) (hok : Unhurried hub move) :
    (hub.step b fnmatchcase cfg move).Sound := by
  cases move with
  | activate =>
    unfold ForwardHub.step
    dsimp only
    split
    · have hfresh : ∀ key w, (hub.workers key).or
          (if key ∈ mirrorKeys cfg then some {} else none) = some w →
            hub.workers key = some w ∨ w = {} := by
        intro key w hw
        cases hold : hub.workers key with
        | some v =>
          rw [hold] at hw
          exact .inl hw
        | none =>
          rw [hold,none_or] at hw
          split at hw
          · exact .inr (Option.some.inj hw).symm
          · cases hw
      refine h.alike ⟨rfl,rfl,fun key => ?_⟩ (fun key w hw => ?_) (fun hstage key w hw => ?_)
      · unfold tasksAt
        cases hold : hub.workers key with
        | some v => simp [hold]
        | none =>
          simp only [hold,none_or]
          split <;> rfl
      · rcases hfresh key w hw with hold | rfl
        · exact h.workers key w hold
        · exact .fresh
      · rcases hfresh key w hw with hold | rfl
        · exact h.running hstage key w hold
        · rfl
    · exact h
  | dispatch identity attempt =>
    unfold ForwardHub.step
    dsimp only
    split
    · exact h
    · rename_i hne
      exact h.dispatch cfg (fun remaining hs => hne remaining hs) identity attempt
  | close =>
    unfold ForwardHub.step
    dsimp only
    split
    · exact h.alike ⟨rfl,rfl,fun _ => rfl⟩ h.workers fun hs => nomatch hs
    · exact h
  | stopNext =>
    unfold ForwardHub.step
    dsimp only
    split
    · rename_i key remaining hstage
      have hclosing : Sound { hub with stage := .closing remaining } :=
        h.alike ⟨rfl,rfl,fun _ => rfl⟩ h.workers fun hs => nomatch hs
      cases hw : hub.workers key with
      | none =>
        have hsame : ForwardHub.setWorker { hub with stage := .closing remaining } key none =
            { hub with stage := .closing remaining } := by
          unfold ForwardHub.setWorker
          rw [← hw,update_eq_self]
        rw [map_none,hsame]
        exact hclosing
      | some w =>
        rw [map_some]
        exact hclosing.setWorker hw ((h.workers key w hw).stop (hok key remaining hstage w hw) _)
          (w.tasks_stop _) fun hs => nomatch hs
    · exact h.alike ⟨rfl,rfl,fun _ => rfl⟩ h.workers fun hs => nomatch hs
    · exact h
  | worker key move =>
    unfold ForwardHub.step
    dsimp only
    cases hw : hub.workers key with
    | none => exact h
    | some w =>
      have hadvance := @ForwardWorker.move_advance b fnmatchcase w move
      obtain ⟨hsound,hmoved⟩ := (h.workers key w hw).advance hadvance
      have hstopping := hadvance.stopping
      dsimp only
      revert hsound hmoved hstopping
      rcases w.move b fnmatchcase move with ⟨w',out⟩
      intro hsound hmoved hstopping
      cases hmoved with
      | stays htasks =>
        rw [toList_none,append_nil]
        exact h.setWorker hw hsound htasks fun hs => hstopping.trans (h.running hs key w hw)
      | answers htasks hanswers => exact h.answered hw hsound hstopping htasks hanswers
  | peerAnswers key ticket reply =>
    unfold ForwardHub.step
    dsimp only
    split
    · exact h
    · rename_i w hw
      exact h.setWorker hw ((h.workers key w hw).peerAnswers ticket reply)
        (w.tasks_peerAnswers ticket reply) fun hs => by simpa using h.running hs key w hw

end ForwardHub

namespace ForwardWorker

def atRest (w : ForwardWorker) : Bool :=
  match w.phase,w.queue with
  | .ended,_ => true
  | .getting,[] => true
  | _,_ => false

def Phase.weight : Phase → Nat
  | .sending _ => 3
  | .receiving _ => 2
  | .looping => 1
  | .getting | .ended => 0

def toDo (w : ForwardWorker) : Nat := 4*w.queue.length+Phase.weight w.phase

theorem goes_on (b : Builtins) (fnmatchcase : String → String → Bool) {w : ForwardWorker}
    (h : w.atRest = false) : ∃ move, (w.move b fnmatchcase move).1.toDo < w.toDo := by
  unfold atRest at h
  cases hphase : w.phase with
  | looping =>
    refine ⟨.test,?_⟩
    cases hstop : w.stopping <;> simp [ForwardWorker.move,hphase,hstop,toDo,Phase.weight]
  | getting =>
    refine ⟨.get,?_⟩
    cases hqueue : w.queue with
    | nil => simp [hphase,hqueue] at h
    | cons head rest =>
      cases head <;> simp [ForwardWorker.move,hphase,hqueue,toDo,Phase.weight]
      omega
  | sending task =>
    exact ⟨.send true,by simp [ForwardWorker.move,hphase,toDo,Phase.weight]⟩
  | receiving task =>
    exact ⟨.giveUp,by simp [ForwardWorker.move,hphase,toDo,Phase.weight,ForwardWorker.answer]⟩
  | ended => simp [hphase] at h

theorem Sound.tasks_atRest {w : ForwardWorker} (h : w.Sound) (hrest : w.atRest = true) :
    w.tasks = [] := by
  unfold atRest at hrest
  split at hrest
  · rename_i hphase
    have hqueued := (h.leavesNothing (h.stopped (.inr hphase))).resolve_right fun hg => by
      rw [hphase] at hg
      cases hg.1
    rw [tasks,hphase,hqueued]
    rfl
  · rename_i hphase hqueue
    rw [tasks,hphase,queued,hqueue]
    rfl
  · cases hrest

end ForwardWorker

namespace ForwardHub
variable {hub : ForwardHub}

def Settled (hub : ForwardHub) : Prop :=
  ∀ key w, hub.workers key = some w → w.atRest = true

/-- Every request that was taken has one answer, with the identity of its requester, and if that is a
reply of the peer then the reply to this request. -/
def AnsweredOnce (hub : ForwardHub) : Prop :=
  ∀ n taken, hub.taken[n]? = some taken → ∃ reply, hub.answersTo n = [reply] ∧
    reply.identity = taken.identity ∧ ∀ m, reply.peerReply = some m → m = n

theorem Sound.mem_answersTo (h : hub.Sound) {n : Nat} {taken : Taken}
    (htaken : hub.taken[n]? = some taken) {reply : ForwardReply} (hreply : reply ∈ hub.answersTo n) :
    reply.identity = taken.identity ∧ ∀ m, reply.peerReply = some m → m = n := by
  obtain ⟨hmem,hticket⟩ := mem_filter.1 hreply
  obtain rfl : reply.ticket = n := by simpa using hticket
  obtain ⟨taken',htaken',hid,hpeer⟩ := h.replies reply hmem
  obtain rfl : taken = taken' := Option.some.inj (htaken.symm.trans htaken')
  exact ⟨hid,hpeer⟩

theorem Sound.answeredOnce (h : hub.Sound) (hsettled : hub.Settled) : hub.AnsweredOnce := by
  intro n taken htaken
  have hnone : hub.pending n taken = [] := by
    unfold pending
    cases taken.worker with
    | none => rfl
    | some key =>
      cases hw : hub.workers key with
      | none => simp [tasksAt,hw]
      | some w => simp [tasksAt,hw,(h.workers key w hw).tasks_atRest (hsettled key w hw)]
  have hone := h.once n taken htaken
  rw [hnone,length_nil,Nat.add_zero] at hone
  obtain ⟨reply,hreply⟩ := length_eq_one_iff.1 hone
  exact ⟨reply,hreply,h.mem_answersTo htaken (hreply ▸ mem_singleton_self reply)⟩

def Listed (hub : ForwardHub) : Prop :=
  ∀ key w, hub.workers key = some w → key ∈ mirrorKeys cfg

variable {cfg}

theorem Listed.setWorker (h : Listed cfg hub) {key : MirrorKey} {w w' : ForwardWorker}
    (hw : hub.workers key = some w) : Listed cfg (hub.setWorker key (some w')) := by
  intro other v hv
  by_cases heq : other = key
  · exact heq ▸ h key w hw
  · simp only [ForwardHub.setWorker,update_of_ne heq] at hv
    exact h other v hv

theorem Listed.step (h : Listed cfg hub) (move : HubMove) :
    Listed cfg (hub.step b fnmatchcase cfg move) := by
  cases move with
  | activate =>
    unfold ForwardHub.step
    dsimp only
    split
    · intro key w hw
      cases hold : hub.workers key with
      | some v => exact h key v hold
      | none =>
        simp only [hold,none_or] at hw
        split at hw
        · assumption
        · cases hw
    · exact h
  | dispatch identity attempt =>
    unfold ForwardHub.step
    dsimp only
    split
    · exact h
    · unfold ForwardHub.dispatch
      dsimp only
      split
      · exact h
      · exact h
      · split
        · exact h
        · rename_i w hw
          split
          · have hw' : hub.workers attempt.key = some w := by
              unfold worker? at hw
              split at hw
              · cases hw
              · exact hw
            intro other v hv
            by_cases heq : other = attempt.key
            · exact heq ▸ h attempt.key w hw'
            · simp only [ForwardHub.setWorker,update_of_ne heq] at hv
              exact h other v hv
          · exact h
  | close =>
    unfold ForwardHub.step
    dsimp only
    split <;> exact h
  | stopNext =>
    unfold ForwardHub.step
    dsimp only
    split
    · rename_i key remaining _
      intro other v hv
      by_cases heq : other = key
      · simp only [ForwardHub.setWorker,heq,update_self,map_eq_some_iff] at hv
        obtain ⟨w,hw,_⟩ := hv
        exact heq ▸ h key w hw
      · simp only [ForwardHub.setWorker,update_of_ne heq] at hv
        exact h other v hv
    · exact h
    · exact h
  | worker key move =>
    unfold ForwardHub.step
    dsimp only
    split
    · exact h
    · rename_i w hw
      intro other v hv
      by_cases heq : other = key
      · exact heq ▸ h key w hw
      · simp only [ForwardHub.setWorker,update_of_ne heq] at hv
        exact h other v hv
  | peerAnswers key ticket reply =>
    unfold ForwardHub.step
    dsimp only
    split
    · exact h
    · rename_i w hw
      exact h.setWorker hw

variable (b fnmatchcase cfg)

def IsWorkerMove : HubMove → Prop
  | .worker _ _ => True
  | _ => False

theorem brings_to_rest (hub : ForwardHub) {key : MirrorKey} {w : ForwardWorker}
    (hw : hub.workers key = some w) : ∃ moves : List HubMove, (∀ move ∈ moves, IsWorkerMove move) ∧
      (∃ w', (run (step b fnmatchcase cfg) hub moves).workers key = some w' ∧ w'.atRest = true) ∧
      (∀ other, other ≠ key →
        (run (step b fnmatchcase cfg) hub moves).workers other = hub.workers other) ∧
      (run (step b fnmatchcase cfg) hub moves).taken = hub.taken := by
  induction hn : w.toDo using Nat.strongRecOn generalizing hub w with
  | ind n ih =>
    cases hrest : w.atRest with
    | true => exact ⟨[],by simp,⟨w,hw,hrest⟩,fun _ _ => rfl,rfl⟩
    | false =>
      obtain ⟨move,hlt⟩ := ForwardWorker.goes_on b fnmatchcase hrest
      let hub' := hub.step b fnmatchcase cfg (.worker key move)
      have hstep : hub' = ForwardHub.setWorker
          { hub with replies := hub.replies ++ (w.move b fnmatchcase move).2.toList } key
            (some (w.move b fnmatchcase move).1) := by
        simp only [hub',ForwardHub.step,hw]
      have hw' : hub'.workers key = some (w.move b fnmatchcase move).1 := by
        rw [hstep]
        simp [ForwardHub.setWorker]
      obtain ⟨moves,hmoves,hend,hother,htaken⟩ := ih _ (hn ▸ hlt) hub' hw' rfl
      refine ⟨.worker key move :: moves,?_,hend,fun other hne => ?_,?_⟩
      · rw [forall_mem_cons]
        exact ⟨trivial,hmoves⟩
      · rw [run_cons]
        refine (hother other hne).trans ?_
        rw [hstep]
        simp [ForwardHub.setWorker,hne]
      · rw [run_cons]
        refine htaken.trans ?_
        rw [hstep]
        rfl

theorem exists_settled {hub : ForwardHub} (h : Listed cfg hub) : ∃ moves : List HubMove,
    (∀ move ∈ moves, IsWorkerMove move) ∧ (run (step b fnmatchcase cfg) hub moves).Settled ∧
      (run (step b fnmatchcase cfg) hub moves).taken = hub.taken := by
  have hkeys : ∀ keys : List MirrorKey, ∃ moves : List HubMove,
      (∀ move ∈ moves, IsWorkerMove move) ∧
      (∀ key w, (run (step b fnmatchcase cfg) hub moves).workers key = some w →
        key ∈ keys → w.atRest = true) ∧
      (run (step b fnmatchcase cfg) hub moves).taken = hub.taken := by
    intro keys
    induction keys with
    | nil => exact ⟨[],by simp,by simp,rfl⟩
    | cons key rest ih =>
      obtain ⟨moves,hmoves,hrest,htaken⟩ := ih
      cases hw : (run (step b fnmatchcase cfg) hub moves).workers key with
      | none =>
        refine ⟨moves,hmoves,fun other w hother hmem => ?_,htaken⟩
        rcases mem_cons.1 hmem with rfl | hmem
        · rw [hw] at hother
          cases hother
        · exact hrest other w hother hmem
      | some v =>
        obtain ⟨more,hmore,⟨v',hv',hend⟩,hother,htaken'⟩ := brings_to_rest b fnmatchcase cfg _ hw
        have hrun : run (step b fnmatchcase cfg) hub (moves ++ more) =
            run (step b fnmatchcase cfg) (run (step b fnmatchcase cfg) hub moves) more :=
          foldl_append
        refine ⟨moves ++ more,?_,fun other w hwo hmem => ?_,?_⟩
        · intro move hmem
          exact (mem_append.1 hmem).elim (hmoves move) (hmore move)
        · rw [hrun] at hwo
          by_cases heq : other = key
          · rw [heq,hv'] at hwo
            exact Option.some.inj hwo ▸ hend
          · rw [hother other heq] at hwo
            exact hrest other w hwo ((mem_cons.1 hmem).resolve_left heq)
        · rw [hrun,htaken',htaken]
  obtain ⟨moves,hmoves,hrest,htaken⟩ := hkeys (mirrorKeys cfg)
  have hlisted : Listed cfg (run (step b fnmatchcase cfg) hub moves) :=
    run_invariant (fun _ move h => h.step move) h moves
  exact ⟨moves,hmoves,fun key w hw => hrest key w hw (hlisted key w hw),htaken⟩

end ForwardHub

theorem meets_of_workerMoves (hub : ForwardHub) {moves : List HubMove}
    (h : ∀ move ∈ moves, ForwardHub.IsWorkerMove move) :
    Meets (ForwardHub.step b fnmatchcase cfg) Unhurried hub moves := by
  induction moves generalizing hub with
  | nil => trivial
  | cons move rest ih =>
    rw [forall_mem_cons] at h
    refine ⟨?_,ih _ h.2⟩
    cases move with
    | worker key move => trivial
    | _ => exact absurd h.1 id

end

end

/-- In every run in which no worker is stopped over queued tasks: no request is answered twice, each
answer is the requester's own, the workers come to rest of themselves, and whenever they are at rest
every request that was taken has its answer. -/
theorem forwarded_answered_once (b : Builtins) (fnmatchcase : String → String → Bool)
    (cfg : ForwardConfig) (moves : List HubMove)
    (h : Meets (ForwardHub.step b fnmatchcase cfg) Unhurried {} moves) :
    let hub := run (ForwardHub.step b fnmatchcase cfg) {} moves
    (∀ n taken, hub.taken[n]? = some taken → (hub.answersTo n).length ≤ 1 ∧
      ∀ reply ∈ hub.answersTo n, reply.identity = taken.identity ∧
        ∀ m, reply.peerReply = some m → m = n) ∧
    (hub.Settled → hub.AnsweredOnce) ∧
    ∃ more : List HubMove, (∀ move ∈ more, ForwardHub.IsWorkerMove move) ∧
      (run (ForwardHub.step b fnmatchcase cfg) hub more).taken = hub.taken ∧
      (run (ForwardHub.step b fnmatchcase cfg) hub more).Settled ∧
      (run (ForwardHub.step b fnmatchcase cfg) hub more).AnsweredOnce := by
  intro hub
  have hstep : ∀ (hub : ForwardHub) (move : HubMove), hub.Sound → Unhurried hub move →
      (hub.step b fnmatchcase cfg move).Sound := fun _ move hs hok => hs.step cfg move hok
  have hsound : hub.Sound := Meets.invariant hstep h .init
  have hlisted : ForwardHub.Listed cfg hub :=
    run_invariant (fun _ move hl => hl.step move) (fun key w hw => nomatch hw) moves
  refine ⟨fun n taken htaken => ⟨?_,fun reply => hsound.mem_answersTo htaken⟩,hsound.answeredOnce,?_⟩
  · have hone := hsound.once n taken htaken
    omega
  · obtain ⟨more,hmore,hsettled,htaken⟩ := ForwardHub.exists_settled b fnmatchcase cfg hlisted
    have hmeets := @meets_of_workerMoves b fnmatchcase cfg hub _ hmore
    exact ⟨more,hmore,htaken,hsettled,(Meets.invariant hstep hmeets hsound).answeredOnce hsettled⟩

theorem settled_of_mirrors (b : Builtins) (fnmatchcase : String → String → Bool)
    (cfg : ForwardConfig) (moves : List HubMove)
    (h : (mirrorKeys cfg).all fun key =>
      ((run (ForwardHub.step b fnmatchcase cfg) {} moves).workers key).all ForwardWorker.atRest) :
    (run (ForwardHub.step b fnmatchcase cfg) {} moves).Settled := by
  intro key w hw
  have hlisted : ForwardHub.Listed cfg (run (ForwardHub.step b fnmatchcase cfg) {} moves) :=
    run_invariant (fun _ move hl => hl.step move) (fun key w hw => nomatch hw) moves
  have hall := all_eq_true.1 h key (hlisted key w hw)
  simpa [hw] using hall

def laserForwards : ForwardConfig := ⟨lifecycleConfig,"desk"⟩

def connectLaser : Attempt :=
  .device [("type",.str "device.connect"),("device_id",.str "lab_laser")] "device.connect" "lab_laser"

def laserWorker (moves : List WorkerMove) : List HubMove := moves.map (.worker (.device "lab_laser"))

def servedMoves : List HubMove :=
  [.activate,.dispatch [1] connectLaser] ++ laserWorker [.test,.get,.send true] ++
    [.peerAnswers (.device "lab_laser") 0 (.dict false [("ok",.bool true)])] ++
    laserWorker [.receive,.test]

theorem served_answered_once :
    (run (ForwardHub.step .digits (fun _ _ => false) laserForwards) {} servedMoves).AnsweredOnce :=
  (forwarded_answered_once .digits (fun _ _ => false) laserForwards servedMoves
    ⟨trivial,trivial,trivial,trivial,trivial,trivial,trivial,trivial,trivial⟩).2.1
      (settled_of_mirrors _ _ _ _ (by decide))

def closedOverQueue : List HubMove :=
  [.activate,.dispatch [1] connectLaser] ++ laserWorker [.test,.get,.send true] ++
    [.dispatch [2] connectLaser,.close,.stopNext,.stopNext] ++ laserWorker [.giveUp,.test]

theorem queued_request_not_answered :
    ¬∀ (b : Builtins) (fnmatchcase : String → String → Bool) (cfg : ForwardConfig)
      (moves : List HubMove), (run (ForwardHub.step b fnmatchcase cfg) {} moves).Settled →
        (run (ForwardHub.step b fnmatchcase cfg) {} moves).AnsweredOnce := by
  intro h
  have hsettled : (run (ForwardHub.step .digits (fun _ _ => false) laserForwards) {}
      closedOverQueue).Settled := settled_of_mirrors _ _ _ _ (by decide)
  obtain ⟨reply,hreply,_⟩ := h .digits (fun _ _ => false) laserForwards closedOverQueue hsettled 1
    ⟨[2],.none,some (.device "lab_laser")⟩ (by rfl)
  have hlength := congrArg List.length hreply
  rw [length_singleton] at hlength
  revert hlength
  decide

end ExperimentControl.Federation

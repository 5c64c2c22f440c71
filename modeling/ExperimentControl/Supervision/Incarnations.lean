import ExperimentControl.Supervision.Manager

/-!
The children of a process, one after the other, and the heartbeats that they leave in the queue of
the manager.
-/

namespace ExperimentControl.Supervision
open Lib Prog OrderedDict List Option

structure Beat where
  processId : String
  rpcEndpoint : Option String
  incarnation : Nat
  deriving DecidableEq

structure Delivery where
  heartbeat : Heartbeat
  incarnation : Nat
  born : Nat
  deriving DecidableEq

/-- The start of a child, with the heartbeats of the process that wait at that moment. -/
structure Birth where
  processId : String
  waiting : Nat
  deriving DecidableEq

structure Fifo (Ω : Type) where
  outer : Ω
  born : String → Nat := fun _ => 0
  queue : List Beat := []
  delivered : List Delivery := []
  births : List Birth := []

def maxDrainPerTick : Nat := 256

namespace Fifo
variable {Ω : Type}

def waiting (id : String) (w : Fifo Ω) : Nat := (w.queue.filter fun b => b.processId = id).length

def send (id : String) (rpcEndpoint : Option String) (w : Fifo Ω) : Fifo Ω :=
  if w.born id = 0 then w
  else { w with queue := w.queue ++ [⟨id,rpcEndpoint,w.born id⟩] }

def birth (id : String) (w : Fifo Ω) : Fifo Ω :=
  { w with
    born := Function.update w.born id (w.born id+1)
    births := w.births ++ [⟨id,w.waiting id⟩] }

/-- The first heartbeat is taken from the queue, at the time `t`. -/
def deliver (b : Beat) (rest : List Beat) (t : ℚ) (w : Fifo Ω) : Fifo Ω :=
  { w with
    queue := rest
    delivered := w.delivered ++
      [⟨⟨b.processId,t,b.rpcEndpoint⟩,b.incarnation,w.born b.processId⟩] }

def drain (clock : Ω → ℚ × Ω) : Nat → Fifo Ω → List Heartbeat × Fifo Ω
  | 0,w => ([],w)
  | n+1,w =>
    match w.queue with
    | [] => ([],w)
    | b :: rest =>
      let t := (clock w.outer).1
      let w' := { w.deliver b rest t with outer := (clock w.outer).2 }
      let later := drain clock n w'
      (⟨b.processId,t,b.rpcEndpoint⟩ :: later.1,later.2)

def outside {α : Type} (f : Ω → α × Ω) (w : Fifo Ω) : α × Fifo Ω :=
  ((f w.outer).1,{ w with outer := (f w.outer).2 })

def popen (f : Ω → Except String Nat × Ω) (id : String) (w : Fifo Ω) :
    Except String Nat × Fifo Ω :=
  match f w.outer with
  | (.ok pid,ω) => (.ok pid,birth id { w with outer := ω })
  | (.error e,ω) => (.error e,{ w with outer := ω })

end Fifo

section
variable {Ω : Type} (host : Host Ω) (arrived : Ω → Nat × Ω)

def Fifo.refresh (w : Fifo Ω) : List Heartbeat × Fifo Ω :=
  let n := w.outside arrived
  n.2.drain host.monotonic (min n.1 maxDrainPerTick)

def fifoHost : Host (Fifo Ω) where
  poll pid := Fifo.outside (host.poll pid)
  terminate pid := Fifo.outside (host.terminate pid)
  kill pid := Fifo.outside (host.kill pid)
  connect id := Fifo.outside (host.connect id)
  popen id := Fifo.popen (host.popen id) id
  monotonic := Fifo.outside host.monotonic
  stopRpc id := Fifo.outside (host.stopRpc id)
  refresh := Fifo.refresh host arrived
  collisionLogged id := Fifo.outside (host.collisionLogged id)
  cleanupOrphans := Fifo.outside host.cleanupOrphans
  describeExitCode := host.describeExitCode
  fixed2 := host.fixed2
  lower := host.lower

/-- What can happen next. The manager drains its queue between two steps, and while it waits for
the answer to a call; the latter is a drain before the step, which it commutes with. -/
inductive Happening where
  | tick (tick : Tick)
  | start (id : String)
  | stop (id : String)
  | restart (id : String)
  | send (id : String) (rpcEndpoint : Option String)
  | drain

def drainProcessPub : Prog (Manager (Fifo Ω)) String Unit := do
  let m ← Prog.get
  let drained := m.world.refresh host arrived
  Prog.modify fun m => { m with world := drained.2 }
  handleProcessPub drained.1

def Happening.run (conf : SupervisionConf) : Happening → Prog (Manager (Fifo Ω)) String Unit
  | .tick t => superviseManagedProcesses (fifoHost host arrived) conf t
  | .start id => startProcess (fifoHost host arrived) id
  | .stop id => stopProcess (fifoHost host arrived) id
  | .restart id => restartProcess (fifoHost host arrived) id
  | .send id endpoint => Prog.modify fun m => { m with world := m.world.send id endpoint }
  | .drain => drainProcessPub host arrived

/-- Nothing has happened yet: no child has been started, and no heartbeat sent. -/
structure Manager.Newborn (m : Manager (Fifo Ω)) : Prop where
  fresh : m.Fresh
  ids : ∀ id h, m.processes.get? id = some h → h.spec.processId = id
  world : ∃ ω, m.world = { outer := ω }

inductive Lived (conf : SupervisionConf) : Manager (Fifo Ω) → Prop where
  | init {m : Manager (Fifo Ω)} : m.Newborn → Lived conf m
  | step {m m' : Manager (Fifo Ω)} (a : Happening) :
      Lived conf m → (a.run host arrived conf).Leaves m m' → Lived conf m'

end

namespace Fifo
variable {Ω : Type} {w w' : Fifo Ω}

/-- No child was started while a heartbeat of its process waited. -/
def Clear (w : Fifo Ω) : Prop := ∀ birth ∈ w.births, birth.waiting = 0

/-- Every heartbeat that waits is of the child that was started last, and every one that was taken
from the queue was so at that moment. -/
structure Current (w : Fifo Ω) : Prop where
  queue : ∀ b ∈ w.queue, b.incarnation = w.born b.processId
  delivered : ∀ d ∈ w.delivered, d.incarnation = d.born

structure Ordered (w : Fifo Ω) : Prop where
  queue : ∀ b ∈ w.queue, b.incarnation ≤ w.born b.processId
  clear_iff : w.Clear ↔ w.Current

/-- `w'` comes after `w`, and only the process `id` has had children in between. -/
structure After (id : String) (w w' : Fifo Ω) : Prop where
  born : ∀ k, k ≠ id → w'.born k = w.born k
  delivered : ∀ d ∈ w.delivered, d ∈ w'.delivered
  births : ∀ b ∈ w.births, b ∈ w'.births

variable {id : String}

theorem After.refl : After id w w := ⟨fun _ _ => rfl,fun _ h => h,fun _ h => h⟩

theorem After.trans {w'' : Fifo Ω} (h : After id w w') (h' : After id w' w'') : After id w w'' where
  born k hk := (h'.born k hk).trans (h.born k hk)
  delivered d hd := h'.delivered d (h.delivered d hd)
  births b hb := h'.births b (h.births b hb)

theorem After.clear (h : After id w w') (hclear : w'.Clear) : w.Clear :=
  fun b hb => hclear b (h.births b hb)

theorem Ordered.outer (h : w.Ordered) (ω : Ω) : ({ w with outer := ω } : Fifo Ω).Ordered where
  queue := h.queue
  clear_iff := by
    have hcurrent : ({ w with outer := ω } : Fifo Ω).Current ↔ w.Current :=
      ⟨fun h => ⟨h.queue,h.delivered⟩,fun h => ⟨h.queue,h.delivered⟩⟩
    rw [hcurrent,← h.clear_iff]
    rfl

theorem Ordered.send {endpoint : Option String} (h : w.Ordered) : (w.send id endpoint).Ordered := by
  unfold Fifo.send
  split
  · exact h
  · refine ⟨?_,?_⟩
    · intro b hb
      simp only [mem_append,mem_singleton] at hb
      rcases hb with hb | rfl
      · exact h.queue b hb
      · exact le_rfl
    · change w.Clear ↔ _
      rw [h.clear_iff]
      constructor
      · intro hc
        refine ⟨?_,hc.delivered⟩
        intro b hb
        simp only [mem_append,mem_singleton] at hb
        rcases hb with hb | rfl
        · exact hc.queue b hb
        · rfl
      · intro hc
        exact ⟨fun b hb => hc.queue b (by simp [hb]),hc.delivered⟩

theorem waiting_eq_zero : w.waiting id = 0 ↔ ∀ b ∈ w.queue, b.processId ≠ id := by
  simp [waiting,filter_eq_nil_iff]

theorem Ordered.birth (h : w.Ordered) : (w.birth id).Ordered := by
  have hother : ∀ b ∈ w.queue, b.processId ≠ id → (w.birth id).born b.processId =
      w.born b.processId := fun b _ hb => by simp [Fifo.birth,hb]
  have hself : (w.birth id).born id = w.born id+1 := by simp [Fifo.birth]
  refine ⟨?_,?_⟩
  · intro b hb
    have hle := h.queue b hb
    by_cases hid : b.processId = id
    · rw [hid] at hle ⊢
      omega
    · rw [hother b hb hid]
      exact hle
  · have hclear : (w.birth id).Clear ↔ w.Clear ∧ w.waiting id = 0 := by
      simp [Clear,Fifo.birth,or_imp,forall_and]
    rw [hclear,h.clear_iff,waiting_eq_zero]
    constructor
    · rintro ⟨hc,hnone⟩
      exact ⟨fun b hb => by rw [hother b hb (hnone b hb),hc.queue b hb],hc.delivered⟩
    · intro hc
      have hnone : ∀ b ∈ w.queue, b.processId ≠ id := by
        intro b hb hid
        have heq := hc.queue b hb
        have hle := h.queue b hb
        rw [hid,hself] at heq
        rw [hid] at hle
        omega
      exact ⟨⟨fun b hb => by rw [hc.queue b hb,hother b hb (hnone b hb)],hc.delivered⟩,hnone⟩

theorem Ordered.deliver {b : Beat} {rest : List Beat} {t : ℚ} (h : w.Ordered)
    (hq : w.queue = b :: rest) : (w.deliver b rest t).Ordered := by
  have hsub : ∀ b' ∈ rest, b' ∈ w.queue := fun b' hb' => by simp [hq,hb']
  refine ⟨fun b' hb' => h.queue b' (hsub b' hb'),?_⟩
  change w.Clear ↔ _
  rw [h.clear_iff]
  constructor
  · intro hc
    refine ⟨fun b' hb' => hc.queue b' (hsub b' hb'),?_⟩
    intro d hd
    simp only [Fifo.deliver,mem_append,mem_singleton] at hd
    rcases hd with hd | rfl
    · exact hc.delivered d hd
    · exact hc.queue b (by simp [hq])
  · intro hc
    refine ⟨?_,fun d hd => hc.delivered d (by simp [Fifo.deliver,hd])⟩
    intro b' hb'
    rw [hq] at hb'
    rcases mem_cons.1 hb' with rfl | hb'
    · exact hc.delivered ⟨⟨b'.processId,t,b'.rpcEndpoint⟩,b'.incarnation,w.born b'.processId⟩
        (by simp [Fifo.deliver])
    · exact hc.queue b' hb'

structure Drained (w : Fifo Ω) (hbs : List Heartbeat) (w' : Fifo Ω) : Prop where
  born : w'.born = w.born
  births : w'.births = w.births
  delivered : ∀ d ∈ w.delivered, d ∈ w'.delivered
  ordered : w.Ordered → w'.Ordered
  logged : ∀ hb ∈ hbs, ∃ d ∈ w'.delivered, d.heartbeat = hb ∧ d.born = w.born hb.processId

theorem drained_drain (clock : Ω → ℚ × Ω) (n : Nat) (w : Fifo Ω) :
    Drained w (w.drain clock n).1 (w.drain clock n).2 := by
  induction n generalizing w with
  | zero => exact ⟨rfl,rfl,fun _ h => h,fun h => h,fun hb h => by cases h⟩
  | succ n ih =>
    unfold drain
    split
    · exact ⟨rfl,rfl,fun _ h => h,fun h => h,fun hb h => by cases h⟩
    · rename_i b rest hq
      have hrest := ih { w.deliver b rest (clock w.outer).1 with outer := (clock w.outer).2 }
      have hhead : ∀ d, d = Delivery.mk ⟨b.processId,(clock w.outer).1,b.rpcEndpoint⟩ b.incarnation
          (w.born b.processId) → d ∈ (drain clock n
            { w.deliver b rest (clock w.outer).1 with outer := (clock w.outer).2 }).2.delivered := by
        rintro d rfl
        exact hrest.delivered _ (by simp [deliver])
      refine ⟨hrest.born,hrest.births,fun d hd => hrest.delivered d (by simp [deliver,hd]),?_,?_⟩
      · intro ho
        exact hrest.ordered ((ho.deliver hq).outer _)
      · intro hb hmem
        rcases mem_cons.1 hmem with rfl | hmem
        · exact ⟨_,hhead _ rfl,rfl,rfl⟩
        · exact hrest.logged hb hmem

theorem drained_refresh (host : Host Ω) (arrived : Ω → Nat × Ω) (w : Fifo Ω) :
    Drained w (w.refresh host arrived).1 (w.refresh host arrived).2 := by
  have h := drained_drain host.monotonic (min (w.outside arrived).1 maxDrainPerTick)
    (w.outside arrived).2
  exact ⟨h.born,h.births,h.delivered,fun ho => h.ordered (ho.outer _),h.logged⟩

theorem Drained.after {hbs : List Heartbeat} (h : Drained w hbs w') (id : String) :
    After id w w' where
  born k _ := by rw [h.born]
  delivered := h.delivered
  births b hb := by rwa [h.births]

end Fifo

def Delivery.FromCurrent (id : String) (h : ProcessHandle) (d : Delivery) : Prop :=
  d.heartbeat.processId = id ∧ d.incarnation = h.history.spawns

/-- What the handle says of its child, the child has said itself. -/
structure SpokenFor {Ω : Type} (id : String) (h : ProcessHandle) (w : Fifo Ω) : Prop where
  lastHbRecvMono : ∀ t, h.lastHbRecvMono = some t →
    ∃ d ∈ w.delivered, d.FromCurrent id h ∧ d.heartbeat.recvMono = t
  rpcEndpoint : ∀ e, h.rpcEndpoint = some e →
    ∃ d ∈ w.delivered, d.FromCurrent id h ∧ d.heartbeat.rpcEndpoint = some e
  running : h.state = .running → ∃ d ∈ w.delivered, d.FromCurrent id h

structure NoNews (h h' : ProcessHandle) : Prop where
  processId : h'.spec.processId = h.spec.processId
  spawns : h'.history.spawns = h.history.spawns
  lastHbRecvMono : h'.lastHbRecvMono = h.lastHbRecvMono
  rpcEndpoint : h'.rpcEndpoint = h.rpcEndpoint ∨ h'.rpcEndpoint = none
  running : h'.state = .running → h.state = .running

theorem NoNews.refl (h : ProcessHandle) : NoNews h h := ⟨rfl,rfl,rfl,.inl rfl,fun h => h⟩

section
variable {Ω : Type} {id : String} {h h' : ProcessHandle} {w w' : Fifo Ω}

theorem SpokenFor.later (hs : SpokenFor id h w) (hd : ∀ d ∈ w.delivered, d ∈ w'.delivered) :
    SpokenFor id h w' where
  lastHbRecvMono t ht := by
    obtain ⟨d,hmem,hcur⟩ := hs.lastHbRecvMono t ht
    exact ⟨d,hd d hmem,hcur⟩
  rpcEndpoint e he := by
    obtain ⟨d,hmem,hcur⟩ := hs.rpcEndpoint e he
    exact ⟨d,hd d hmem,hcur⟩
  running hr := by
    obtain ⟨d,hmem,hcur⟩ := hs.running hr
    exact ⟨d,hd d hmem,hcur⟩

theorem SpokenFor.noNews (hs : SpokenFor id h w) (hn : NoNews h h') : SpokenFor id h' w where
  lastHbRecvMono t ht := by
    obtain ⟨d,hmem,hcur,heq⟩ := hs.lastHbRecvMono t (by rw [← hn.lastHbRecvMono,ht])
    exact ⟨d,hmem,⟨hcur.1,by rw [hn.spawns,hcur.2]⟩,heq⟩
  rpcEndpoint e he := by
    rcases hn.rpcEndpoint with hsame | hnone
    · obtain ⟨d,hmem,hcur,heq⟩ := hs.rpcEndpoint e (by rw [← hsame,he])
      exact ⟨d,hmem,⟨hcur.1,by rw [hn.spawns,hcur.2]⟩,heq⟩
    · rw [hnone] at he
      cases he
  running hr := by
    obtain ⟨d,hmem,hcur⟩ := hs.running (hn.running hr)
    exact ⟨d,hmem,hcur.1,by rw [hn.spawns,hcur.2]⟩

theorem SpokenFor.silent (ht : h.lastHbRecvMono = none) (he : h.rpcEndpoint = none)
    (hr : h.state ≠ .running) : SpokenFor id h w where
  lastHbRecvMono t h' := by
    rw [ht] at h'
    cases h'
  rpcEndpoint e h' := by
    rw [he] at h'
    cases h'
  running h' := absurd h' hr

theorem SpokenFor.ingest {hb : Heartbeat} {d : Delivery} (hs : SpokenFor id h w)
    (hd : d ∈ w.delivered) (hhb : d.heartbeat = hb) (hcur : d.FromCurrent id h) :
    SpokenFor id (ingestProcessHeartbeat hb h) w where
  lastHbRecvMono t ht := by
    cases ht
    exact ⟨d,hd,hcur,by rw [hhb]⟩
  rpcEndpoint e he := by
    cases hrpc : hb.rpcEndpoint with
    | some e' =>
      simp only [ingestProcessHeartbeat,hrpc,orElse_some] at he
      exact ⟨d,hd,hcur,by rw [hhb,hrpc,he]⟩
    | none =>
      simp only [ingestProcessHeartbeat,hrpc,orElse_none] at he
      exact hs.rpcEndpoint e he
  running _ := ⟨d,hd,hcur⟩

@[simp] theorem ingest_spawns (hb : Heartbeat) (h : ProcessHandle) :
    (ingestProcessHeartbeat hb h).history = h.history := rfl

@[simp] theorem ingest_spec (hb : Heartbeat) (h : ProcessHandle) :
    (ingestProcessHeartbeat hb h).spec = h.spec := rfl

theorem ingestAll_frame (heartbeats : List Heartbeat) (h : ProcessHandle) :
    (heartbeats.foldl (fun h hb => ingestProcessHeartbeat hb h) h).history = h.history ∧
      (heartbeats.foldl (fun h hb => ingestProcessHeartbeat hb h) h).spec = h.spec := by
  induction heartbeats generalizing h with
  | nil => exact ⟨rfl,rfl⟩
  | cons hb rest ih => exact ih (ingestProcessHeartbeat hb h)

theorem SpokenFor.foldl {heartbeats : List Heartbeat} (hs : SpokenFor id h w)
    (hall : ∀ hb ∈ heartbeats, ∃ d ∈ w.delivered, d.heartbeat = hb ∧ d.FromCurrent id h) :
    SpokenFor id (heartbeats.foldl (fun h hb => ingestProcessHeartbeat hb h) h) w := by
  induction heartbeats generalizing h with
  | nil => exact hs
  | cons hb rest ih =>
    obtain ⟨d,hd,hhb,hcur⟩ := hall hb (by simp)
    exact ih (hs.ingest hd hhb hcur) fun hb' hmem => hall hb' (by simp [hmem])

end

/-- A program about the handle `id` that began in the world `w₀`. -/
structure Tracks {Ω : Type} (id : String) (w₀ : Fifo Ω) (s : Scope (Fifo Ω)) : Prop where
  processId : s.handle.spec.processId = id
  born : s.world.born id = s.handle.history.spawns
  ordered : s.world.Ordered
  after : w₀.After id s.world
  spoken : s.world.Clear → SpokenFor id s.handle s.world
  received : s.world.Clear → ∀ hb ∈ s.received, hb.processId ≠ id →
    ∃ d ∈ s.world.delivered, d.heartbeat = hb ∧ d.incarnation = s.world.born hb.processId

section
variable {Ω α : Type} {id : String} {w₀ : Fifo Ω} {host : Host Ω} {arrived : Ω → Nat × Ω}

variable {s : Scope (Fifo Ω)}

theorem Tracks.outer (h : Tracks id w₀ s) (ω : Ω) :
    Tracks id w₀ { s with world := { s.world with outer := ω } } where
  processId := h.processId
  born := h.born
  ordered := h.ordered.outer ω
  after := ⟨h.after.born,h.after.delivered,h.after.births⟩
  spoken hc := (h.spoken hc).later fun _ hd => hd
  received := h.received

theorem Tracks.noNews (h : Tracks id w₀ s) {h' : ProcessHandle}
    (hn : NoNews s.handle h') : Tracks id w₀ { s with handle := h' } where
  processId := by rw [hn.processId,h.processId]
  born := by rw [hn.spawns,h.born]
  ordered := h.ordered
  after := h.after
  spoken hc := (h.spoken hc).noNews hn
  received := h.received

theorem keeps_self : Keeps (Tracks id w₀) (self : Sup (Fifo Ω) ProcessHandle) :=
  .bind (.get fun _ h => h) fun _ => .pure fun _ h => h

theorem keeps_update {f : ProcessHandle → ProcessHandle} (hf : ∀ h, NoNews h (f h)) :
    Keeps (Tracks id w₀) (update f : Sup (Fifo Ω) Unit) := .modify fun _ h => h.noNews (hf _)

theorem keeps_ask (f : Ω → α × Ω) : Keeps (Tracks id w₀) (ask (Fifo.outside f) : Sup (Fifo Ω) α) :=
  keeps_ofFun fun _ h => h.outer _

theorem keeps_call (f : Ω → Except String α × Ω) :
    Keeps (Tracks id w₀) (call (Fifo.outside f) : Sup (Fifo Ω) α) :=
  keeps_ofFun fun _ h => h.outer _

theorem keeps_attempt {x : Sup (Fifo Ω) α} (hx : Keeps (Tracks id w₀) x) :
    Keeps (Tracks id w₀) (attempt x) :=
  .attempt hx (fun _ _ h => h) fun _ _ h => h

theorem keeps_poll (p : Popen) : Keeps (Tracks id w₀) (poll (fifoHost host arrived) p) := by
  unfold poll
  cases p.returncode with
  | some rc => exact .pure fun _ h => h
  | none =>
    exact .bind (keeps_call _) fun rc => .bind (keeps_update fun h => ⟨rfl,rfl,rfl,.inl rfl,fun h => h⟩)
      fun _ => .pure fun _ h => h

theorem keeps_childAlive : Keeps (Tracks id w₀) (childAlive (fifoHost host arrived)) := by
  refine .bind keeps_self fun h => ?_
  cases h.popen with
  | none => exact .pure fun _ h => h
  | some p => exact .bind (keeps_poll p) fun _ => .pure fun _ h => h

structure Unannounced (id : String) (w₀ : Fifo Ω) (s : Scope (Fifo Ω)) : Prop where
  processId : s.handle.spec.processId = id
  born : s.world.born id = s.handle.history.spawns+1
  ordered : s.world.Ordered
  after : w₀.After id s.world
  received : s.world.Clear → ∀ hb ∈ s.received, hb.processId ≠ id →
    ∃ d ∈ s.world.delivered, d.heartbeat = hb ∧ d.incarnation = s.world.born hb.processId

theorem Unannounced.outer (h : Unannounced id w₀ s) (ω : Ω) :
    Unannounced id w₀ { s with world := { s.world with outer := ω } } where
  processId := h.processId
  born := h.born
  ordered := h.ordered.outer ω
  after := ⟨h.after.born,h.after.delivered,h.after.births⟩
  received := h.received

theorem Tracks.birth (h : Tracks id w₀ s) :
    Unannounced id w₀ { s with world := s.world.birth id } where
  processId := h.processId
  born := by simp [Fifo.birth,h.born]
  ordered := h.ordered.birth
  after := h.after.trans ⟨fun k hk => by simp [Fifo.birth,hk],fun d hd => hd,
    fun b hb => by simp [Fifo.birth,hb]⟩
  received hclear hb hmem hne := by
    have hbefore : s.world.Clear := fun b hb => hclear b (by simp [Fifo.birth,hb])
    obtain ⟨d,hd,hhb,hcur⟩ := h.received hbefore hb hmem hne
    exact ⟨d,hd,hhb,by simp [Fifo.birth,hne,hcur]⟩

theorem Unannounced.started (h : Unannounced id w₀ s) (pid : Nat) (now : ℚ)
    (r : Bool) : Tracks id w₀ { s with handle := s.handle.started pid now r } where
  processId := h.processId
  born := h.born
  ordered := h.ordered
  after := h.after
  spoken _ := .silent rfl rfl (by simp [ProcessHandle.started])
  received := h.received

theorem triple_popen : Triple (Tracks id w₀) (attempt (call ((fifoHost host arrived).popen id)))
    (fun r s => match r with
      | .ok _ => Unannounced id w₀ s
      | .error _ => Tracks id w₀ s) (fun _ _ => False) := by
  refine .attempt (Q := fun _ => Unannounced id w₀) (M := fun _ => Tracks id w₀)
    (.ofFun ?_ ?_) (fun _ _ h => h) fun _ _ h => h
  · intro s pid s' hs hpopen
    simp only [fifoHost,Fifo.popen] at hpopen
    split at hpopen
    · rename_i ω _
      cases hpopen
      exact (hs.outer ω).birth
    · cases hpopen
  · intro s e s' hs hpopen
    simp only [fifoHost,Fifo.popen] at hpopen
    split at hpopen
    · cases hpopen
    · cases hpopen
      exact hs.outer _

theorem keeps_startProcessHandle (r : Bool) :
    Keeps (Tracks id w₀) (startProcessHandle (fifoHost host arrived) r) := by
  refine .bind keeps_childAlive fun alive => .ite (fun _ => .pure fun _ h => h) fun _ => ?_
  -- the child is started under the process id of the handle
  refine .bind (Q := fun h s => h.spec.processId = id ∧ Tracks id w₀ s)
    (.bind (Q := fun a s => a = s ∧ Tracks id w₀ s) (.get fun _ h => ⟨rfl,h⟩) fun a =>
      .pure fun s hs => ⟨by rw [hs.1,hs.2.processId],hs.2⟩) fun h => .given fun hid => ?_
  rw [hid]
  refine .ite (fun _ => .pure fun _ h => h) fun _ => ?_
  refine .bind (keeps_call _) fun _ => ?_
  refine .bind (triple_popen.conseq (fun _ h => h) (fun _ _ h => h) fun _ _ h => h.elim)
    fun spawned => ?_
  cases spawned with
  | error exc =>
    exact .bind (keeps_update fun h => ⟨rfl,rfl,rfl,.inl rfl,fun hr => by cases hr⟩) fun _ =>
      .raise fun _ h => h
  | ok pid =>
    refine .bind (Q := fun _ => Unannounced id w₀) (E := fun _ => Tracks id w₀) ?_ fun now =>
      .modify fun s hs => hs.started pid now r
    refine .ofFun ?_ ?_
    · intro s a s' hs hnow
      cases hnow
      exact hs.outer _
    · intro s e s' _ hnow
      cases hnow

theorem keeps_refresh : Keeps (Tracks id w₀)
    (refreshPendingProcessHeartbeats (fifoHost host arrived) : Sup (Fifo Ω) Unit) := by
  -- the heartbeats that were drained are on record when the handle hears of them
  let Fresh : List Heartbeat → Scope (Fifo Ω) → Prop := fun hbs s => Tracks id w₀ s ∧
    (s.world.Clear → ∀ hb ∈ hbs, ∃ d ∈ s.world.delivered, d.heartbeat = hb ∧
      d.incarnation = s.world.born hb.processId)
  refine .bind (Q := Fresh) (E := fun _ => Tracks id w₀) (.ofFun ?_ ?_) fun hbs => ?_
  · intro s a s' hs hask
    cases hask
    have hd := Fifo.drained_refresh host arrived s.world
    have hordered := hd.ordered hs.ordered
    refine ⟨⟨hs.processId,?_,hordered,hs.after.trans (hd.after id),?_,?_⟩,?_⟩
    · exact (congrFun hd.born id).trans hs.born
    · intro hclear
      exact (hs.spoken ((hd.after id).clear hclear)).later hd.delivered
    · intro hclear hb hmem hne
      obtain ⟨d,hdel,hhb,hcur⟩ := hs.received ((hd.after id).clear hclear) hb hmem hne
      exact ⟨d,hd.delivered d hdel,hhb,hcur.trans (congrFun hd.born _).symm⟩
    · intro hclear hb hmem
      obtain ⟨d,hdel,hhb,hborn⟩ := hd.logged hb hmem
      have hcur := (hordered.clear_iff.1 hclear).delivered d hdel
      exact ⟨d,hdel,hhb,hcur.trans (hborn.trans (congrFun hd.born _).symm)⟩
  · intro s e s' _ hask
    cases hask
  · refine .modify fun s hs => ?_
    obtain ⟨hs,hfresh⟩ := hs
    have hframe := ingestAll_frame
      (hbs.filter fun hb => hb.processId = s.handle.spec.processId) s.handle
    refine ⟨?_,?_,hs.ordered,hs.after,?_,?_⟩
    · rw [hframe.2]
      exact hs.processId
    · rw [hframe.1]
      exact hs.born
    · intro hclear
      refine (hs.spoken hclear).foldl fun hb hmem => ?_
      obtain ⟨hmem,hid⟩ := mem_filter.1 hmem
      obtain ⟨d,hd,hhb,hcur⟩ := hfresh hclear hb hmem
      have hpid : hb.processId = id := by
        rw [of_decide_eq_true hid,hs.processId]
      exact ⟨d,hd,hhb,by rw [hhb,hpid],by rw [hcur,hpid,hs.born]⟩
    · intro hclear hb hmem hne
      rcases mem_append.1 hmem with hmem | hmem
      · exact hs.received hclear hb hmem hne
      · exact hfresh hclear hb hmem

theorem noNews_foundDead (rc : Int) (h : ProcessHandle) : NoNews h (h.foundDead host rc) := by
  unfold ProcessHandle.foundDead
  split
  · exact ⟨rfl,rfl,rfl,.inr rfl,fun hr => by cases hr⟩
  · exact ⟨rfl,rfl,rfl,.inr rfl,fun hr => by cases hr⟩

theorem keeps_stopChild (p : Popen) :
    Keeps (Tracks id w₀) (stopChild (fifoHost host arrived) p) := by
  have hgraceful : Keeps (Tracks id w₀) (requestStop (fifoHost host arrived)) := by
    refine .bind keeps_self fun h => ?_
    cases h.rpcEndpoint with
    | none => exact .pure fun _ h => h
    | some e => exact keeps_ask _
  have hterminate : ∀ graceful, Keeps (Tracks id w₀)
      (terminateUnless (fifoHost host arrived) graceful p) := by
    intro graceful
    refine .ite (fun _ => .pure fun _ h => h) fun _ => ?_
    refine .bind (keeps_attempt (keeps_call _)) fun r => ?_
    cases r with
    | ok u => exact .pure fun _ h => h
    | error exc => exact keeps_update fun h => ⟨rfl,rfl,rfl,.inl rfl,fun hr => hr⟩
  refine .bind hgraceful fun graceful => .bind (hterminate graceful) fun _ => ?_
  exact .bind (keeps_ask _) fun _ =>
    keeps_update fun _ => ⟨rfl,rfl,rfl,.inr rfl,fun hr => by cases hr⟩

theorem keeps_stopProcessHandle :
    Keeps (Tracks id w₀) (stopProcessHandle (fifoHost host arrived)) := by
  refine .bind keeps_self fun h => ?_
  cases h.popen with
  | none => exact keeps_update fun h => ⟨rfl,rfl,rfl,.inl rfl,fun hr => by cases hr⟩
  | some p =>
    refine .bind (keeps_poll p) fun rc => ?_
    cases rc with
    | some rc => exact keeps_update fun h => noNews_foundDead rc h
    | none => exact keeps_stopChild p

theorem keeps_stopAsOperator : Keeps (Tracks id w₀) (stopAsOperator (fifoHost host arrived)) :=
  .bind (keeps_update fun _ => ⟨rfl,rfl,rfl,.inl rfl,fun hr => hr⟩) fun _ =>
    keeps_stopProcessHandle

theorem keeps_restartAsOperator :
    Keeps (Tracks id w₀) (restartAsOperator (fifoHost host arrived)) :=
  .bind keeps_stopAsOperator fun _ => .bind (keeps_ask _) fun _ =>
    keeps_update fun _ => ⟨rfl,rfl,rfl,.inl rfl,fun hr => hr⟩

theorem noNews_maybeScheduleRestart (now : ℚ) (h : ProcessHandle) :
    NoNews h (maybeScheduleRestart now h) := by
  unfold maybeScheduleRestart
  split
  · exact .refl h
  · split
    · exact ⟨rfl,rfl,rfl,.inl rfl,fun hr => hr⟩
    · exact .refl h

theorem keeps_tryRestartProcess :
    Keeps (Tracks id w₀) (tryRestartProcess (fifoHost host arrived)) := by
  refine .bind keeps_self fun h => .ite (fun _ => ?_) fun _ => ?_
  · exact keeps_update fun h => ⟨rfl,rfl,rfl,.inl rfl,fun hr => by cases hr⟩
  · have hspawns : ∀ history : History, history.restarted.spawns = history.spawns := by
      intro history
      unfold History.restarted
      split
      · rfl
      · rfl
    refine .bind (keeps_ask _) fun _ => ?_
    refine .bind (keeps_update fun h => ⟨rfl,hspawns h.history,rfl,.inl rfl,fun hr => hr⟩)
      fun _ => ?_
    refine .bind (keeps_attempt (keeps_startProcessHandle true)) fun r => ?_
    cases r with
    | ok u => exact .pure fun _ h => h
    | error exc =>
      exact .bind (keeps_update fun h => ⟨rfl,rfl,rfl,.inl rfl,fun hr => hr⟩) fun _ =>
        .raise fun _ h => h

theorem keeps_maybeRestart (now : ℚ) :
    Keeps (Tracks id w₀) (maybeRestartManagedProcess (fifoHost host arrived) now) := by
  refine .bind (keeps_update fun h => ?_) fun _ => .bind keeps_self fun h => ?_
  · split
    · exact noNews_maybeScheduleRestart now h
    · exact .refl h
  · cases h.nextRestartTMono with
    | none => exact .pure fun _ h => h
    | some t =>
      exact .ite (fun _ => .pure fun _ h => h) fun _ => .bind keeps_childAlive fun alive =>
        .ite (fun _ => .pure fun _ h => h) fun _ => keeps_tryRestartProcess

theorem keeps_maybeRecover :
    Keeps (Tracks id w₀) (maybeRecoverProcessStartCollision (fifoHost host arrived)) := by
  have hseen : ∀ h, Keeps (Tracks id w₀) (collisionSeen (fifoHost host arrived) h) :=
    fun h => .ite (fun _ => .pure fun _ h => h) fun _ => keeps_ask _
  refine .bind keeps_self fun h => .ite (fun _ => .pure fun _ h => h) fun _ => ?_
  refine .ite (fun _ => .pure fun _ h => h) fun _ => .bind (hseen h) fun collision => ?_
  refine .ite (fun _ => ?_) fun _ => .pure fun _ h => h
  refine .bind (keeps_update fun h => ⟨rfl,rfl,rfl,.inl rfl,fun hr => hr⟩) fun _ => ?_
  refine .bind (keeps_ask _) fun _ => ?_
  refine .bind (keeps_attempt (keeps_startProcessHandle false)) fun r => ?_
  cases r with
  | ok u => exact .pure fun _ h => h
  | error exc =>
    exact .bind (keeps_update fun h => ⟨rfl,rfl,rfl,.inl rfl,fun hr => by cases hr⟩) fun _ =>
      .pure fun _ h => h

theorem keeps_observeExit : Keeps (Tracks id w₀) (observeExit (fifoHost host arrived)) := by
  have hexit : ∀ rc, Keeps (Tracks id w₀)
      (updateManagedProcessExitState (fifoHost host arrived) rc) := by
    intro rc
    refine .bind (keeps_update fun h => ⟨rfl,rfl,rfl,.inr rfl,fun hr => hr⟩) fun _ => ?_
    refine .bind keeps_self fun h => .ite (fun _ => ?_) fun _ => .ite (fun _ => ?_) fun _ => ?_
    · exact .bind (keeps_update fun h => ⟨rfl,rfl,rfl,.inl rfl,fun hr => by cases hr⟩) fun _ =>
        .pure fun _ h => h
    · exact .bind (keeps_update fun h => ⟨rfl,rfl,rfl,.inl rfl,fun hr => by cases hr⟩) fun _ =>
        .pure fun _ h => h
    · refine .bind keeps_maybeRecover fun recovered => .ite (fun _ => .pure fun _ h => h) fun _ => ?_
      exact .bind (keeps_update fun h => ⟨rfl,rfl,rfl,.inl rfl,fun hr => by cases hr⟩) fun _ =>
        .pure fun _ h => h
  refine .bind keeps_self fun h => ?_
  cases h.popen with
  | none => exact .pure fun _ h => h
  | some p =>
    refine .bind (keeps_poll p) fun rc => ?_
    cases rc with
    | none => exact .pure fun _ h => h
    | some rc => exact hexit rc

theorem keeps_failStaleProcess (now age : ℚ) :
    Keeps (Tracks id w₀) (failStaleProcess (fifoHost host arrived) now age) := by
  refine .bind (keeps_update fun h => ⟨rfl,rfl,rfl,.inl rfl,fun hr => by cases hr⟩) fun _ => ?_
  refine .bind keeps_self fun h => ?_
  cases h.popen with
  | none => exact .pure fun _ h => h
  | some p =>
    refine .bind (keeps_poll p) fun rc => ?_
    cases rc with
    | some rc => exact .pure fun _ h => h
    | none =>
      refine .bind (keeps_attempt (keeps_call _)) fun r => ?_
      cases r with
      | ok u => exact keeps_update fun h => ⟨rfl,rfl,rfl,.inl rfl,fun hr => hr⟩
      | error exc => exact keeps_update fun h => ⟨rfl,rfl,rfl,.inl rfl,fun hr => hr⟩

variable (conf : SupervisionConf)

variable (tick : Tick)

theorem keeps_staleHeartbeat (age : ℚ) :
    Keeps (Tracks id w₀) (staleHeartbeat (fifoHost host arrived) conf tick age) := by
  refine .bind (keeps_update fun h => ?_) fun _ => .bind keeps_self fun h => ?_
  · split
    · exact ⟨rfl,rfl,rfl,.inl rfl,fun hr => hr⟩
    · exact .refl h
  refine .ite (fun _ => .pure fun _ h => h) fun _ => ?_
  refine .bind (keeps_update fun h => ?_) fun _ => .bind keeps_self fun h => ?_
  · split
    · exact ⟨rfl,rfl,rfl,.inl rfl,fun hr => hr⟩
    · exact .refl h
  refine .ite (fun _ => keeps_update fun h => ⟨rfl,rfl,rfl,.inl rfl,fun hr => hr⟩) fun _ => ?_
  exact .ite (fun _ => .pure fun _ h => h) fun _ => keeps_failStaleProcess _ _

theorem keeps_enforceHeartbeatTimeout : Keeps (Tracks id w₀)
      (enforceManagedProcessHeartbeatTimeout (fifoHost host arrived) conf tick) := by
  refine .bind keeps_self fun h => .ite (fun _ => .pure fun _ h => h) fun _ => ?_
  cases heartbeatAgeS h tick.nowMono with
  | none => exact .pure fun _ h => h
  | some age =>
    refine .bind (.ite (fun _ => keeps_refresh) fun _ => .pure fun _ h => h) fun _ => ?_
    refine .bind keeps_self fun h => ?_
    cases heartbeatAgeS h tick.nowMono with
    | none => exact .pure fun _ h => h
    | some age =>
      exact .ite (fun _ => keeps_update fun h => ⟨rfl,rfl,rfl,.inl rfl,fun hr => hr⟩) fun _ =>
        keeps_staleHeartbeat conf tick age

theorem keeps_enforceStopTimeout (now : ℚ) :
    Keeps (Tracks id w₀) (enforceManagedProcessStopTimeout (fifoHost host arrived) now) := by
  have hkill : ∀ p, Keeps (Tracks id w₀) (killChild (fifoHost host arrived) p) := by
    intro p
    refine .bind (keeps_update fun h => ⟨rfl,rfl,rfl,.inl rfl,fun hr => hr⟩) fun _ => ?_
    refine .bind (.bind (keeps_attempt (keeps_call _)) fun r => ?_) fun _ => keeps_update fun h => ?_
    · cases r with
      | ok u => exact .pure fun _ h => h
      | error exc => exact keeps_update fun h => ⟨rfl,rfl,rfl,.inl rfl,fun hr => hr⟩
    · split
      · exact ⟨rfl,rfl,rfl,.inl rfl,fun hr => by cases hr⟩
      · exact .refl h
  refine .bind keeps_self fun h => .ite (fun _ => .pure fun _ h => h) fun _ => ?_
  cases h.popen with
  | none => exact .pure fun _ h => h
  | some p =>
    refine .bind (keeps_poll p) fun rc => ?_
    cases rc with
    | some rc => exact .pure fun _ h => h
    | none =>
      cases h.stopRequestedTMono with
      | none => exact keeps_update fun h => ⟨rfl,rfl,rfl,.inl rfl,fun hr => hr⟩
      | some t => exact .ite (fun _ => .pure fun _ h => h) fun _ => hkill p

theorem keeps_superviseProcess :
    Keeps (Tracks id w₀) (superviseProcess (fifoHost host arrived) conf tick) := by
  have hchecked : Keeps (Tracks id w₀) (update checkedOff : Sup (Fifo Ω) Unit) :=
    keeps_update fun h => ⟨rfl,rfl,rfl,.inl rfl,fun hr => hr⟩
  refine .bind keeps_observeExit fun recovered => .ite (fun _ => hchecked) fun _ => ?_
  refine .bind (keeps_enforceHeartbeatTimeout conf tick) fun _ => ?_
  refine .bind (keeps_enforceStopTimeout tick.nowMono) fun _ => ?_
  exact .bind (keeps_maybeRestart tick.nowMono) fun _ => hchecked

end

structure Attended {Ω : Type} (m : Manager (Fifo Ω)) : Prop where
  ids : ∀ id h, m.processes.get? id = some h → h.spec.processId = id
  born : ∀ id h, m.processes.get? id = some h → m.world.born id = h.history.spawns
  ordered : m.world.Ordered
  spoken : m.world.Clear → ∀ id h, m.processes.get? id = some h → SpokenFor id h m.world

section
variable {Ω : Type} {id : String} {host : Host Ω} {arrived : Ω → Nat × Ω} {conf : SupervisionConf}
  {m : Manager (Fifo Ω)}

theorem Attended.tracks {h : ProcessHandle} (ha : Attended m)
    (hget : m.processes.get? id = some h) : Tracks id m.world ⟨h,[],m.world⟩ where
  processId := ha.ids id h hget
  born := ha.born id h hget
  ordered := ha.ordered
  after := .refl
  spoken hc := ha.spoken hc id h hget
  received _ hb hmem := by cases hmem

theorem Attended.put {h : ProcessHandle} {s : Scope (Fifo Ω)} (ha : Attended m)
    (hget : m.processes.get? id = some h) (hs : Tracks id m.world s) : Attended (m.put id s) := by
  have hcase : ∀ k h', (m.put id s).processes.get? k = some h' → (k = id ∧ h' = s.handle) ∨
      ∃ h₀, k ≠ id ∧ m.processes.get? k = some h₀ ∧ h' = ingestAll k s.received h₀ := by
    intro k h' hk
    rw [get?_put] at hk
    obtain ⟨h₀,hget₀,heq⟩ := map_eq_some_iff.1 hk
    by_cases hid : k = id
    · rw [if_pos hid] at heq
      exact .inl ⟨hid,heq.symm⟩
    · rw [if_neg hid] at heq
      exact .inr ⟨h₀,hid,hget₀,heq.symm⟩
  refine ⟨?_,?_,hs.ordered,?_⟩
  · intro k h' hk
    rcases hcase k h' hk with ⟨rfl,rfl⟩ | ⟨h₀,-,hget₀,rfl⟩
    · exact hs.processId
    · rw [ingestAll,(ingestAll_frame _ h₀).2]
      exact ha.ids k h₀ hget₀
  · intro k h' hk
    rcases hcase k h' hk with ⟨rfl,rfl⟩ | ⟨h₀,hne,hget₀,rfl⟩
    · exact hs.born
    · rw [ingestAll,(ingestAll_frame _ h₀).1]
      exact (hs.after.born k hne).trans (ha.born k h₀ hget₀)
  · intro hclear k h' hk
    rcases hcase k h' hk with ⟨rfl,rfl⟩ | ⟨h₀,hne,hget₀,rfl⟩
    · exact hs.spoken hclear
    · have hbefore := ha.spoken (hs.after.clear hclear) k h₀ hget₀
      refine (hbefore.later hs.after.delivered).foldl fun hb hmem => ?_
      obtain ⟨hmem,hpid⟩ := mem_filter.1 hmem
      have hpid : hb.processId = k := of_decide_eq_true hpid
      obtain ⟨d,hd,hhb,hcur⟩ := hs.received hclear hb hmem (by rw [hpid]; exact hne)
      refine ⟨d,hd,hhb,by rw [hhb,hpid],?_⟩
      rw [hcur,hpid]
      exact (hs.after.born k hne).trans (ha.born k h₀ hget₀)

theorem keeps_onHandle {x : Sup (Fifo Ω) Unit}
    (hx : ∀ w₀, Keeps (Tracks id w₀) x) : Keeps Attended (onHandle id x) := by
  refine .bind (Q := fun a m => a = m ∧ Attended m) (.get fun _ h => ⟨rfl,h⟩) fun a => ?_
  intro n m hm
  obtain ⟨rfl,ha⟩ := hm
  cases hget : a.processes.get? id with
  | none => exact ha
  | some h =>
    have hrun := hx a.world n ⟨h,[],a.world⟩ (ha.tracks hget)
    simp only [run_zoom]
    cases hr : x.run n ⟨h,[],a.world⟩ with
    | ok u s =>
      rw [hr] at hrun
      exact ha.put hget hrun
    | raised e s =>
      rw [hr] at hrun
      exact ha.put hget hrun
    | diverged => trivial

theorem keeps_drainProcessPub :
    Keeps Attended (drainProcessPub host arrived : Prog (Manager (Fifo Ω)) String Unit) := by
  intro n m ha
  have hd := Fifo.drained_refresh host arrived m.world
  have hordered := hd.ordered ha.ordered
  have hcase : ∀ id h', (m.processes.mapValues fun id h =>
      ingestAll id (m.world.refresh host arrived).1 h).get? id = some h' →
      ∃ h, m.processes.get? id = some h ∧
        h' = ingestAll id (m.world.refresh host arrived).1 h := by
    intro id h' hget
    rw [get?_mapValues] at hget
    obtain ⟨h,hbefore,rfl⟩ := map_eq_some_iff.1 hget
    exact ⟨h,hbefore,rfl⟩
  refine ⟨?_,?_,hordered,?_⟩
  · intro id h' hget
    obtain ⟨h,hbefore,rfl⟩ := hcase id h' hget
    rw [ingestAll,(ingestAll_frame _ h).2]
    exact ha.ids id h hbefore
  · intro id h' hget
    obtain ⟨h,hbefore,rfl⟩ := hcase id h' hget
    rw [ingestAll,(ingestAll_frame _ h).1]
    exact (congrFun hd.born id).trans (ha.born id h hbefore)
  · intro hclear id h' hget
    obtain ⟨h,hbefore,rfl⟩ := hcase id h' hget
    have hspoken := ha.spoken ((hd.after id).clear hclear) id h hbefore
    refine (hspoken.later hd.delivered).foldl fun hb hmem => ?_
    obtain ⟨hmem,hpid⟩ := mem_filter.1 hmem
    have hpid : hb.processId = id := of_decide_eq_true hpid
    obtain ⟨d,hdel,hhb,hborn⟩ := hd.logged hb hmem
    have hcur := (hordered.clear_iff.1 hclear).delivered d hdel
    refine ⟨d,hdel,hhb,by rw [hhb,hpid],?_⟩
    rw [hcur,hborn,hpid]
    exact ha.born id h hbefore

theorem keeps_happening (a : Happening) : Keeps Attended (a.run host arrived conf) := by
  cases a with
  | tick tick =>
    exact .bind (.get fun _ h => h) fun m =>
      keeps_forEach (fun id => keeps_onHandle fun w₀ => keeps_superviseProcess conf tick) _
  | start id => exact keeps_onHandle fun w₀ => keeps_startProcessHandle true
  | stop id => exact keeps_onHandle fun w₀ => keeps_stopAsOperator
  | restart id => exact keeps_onHandle fun w₀ => keeps_restartAsOperator
  | send id endpoint =>
    refine .modify fun m ha => ?_
    have hsame : (m.world.send id endpoint).born = m.world.born ∧
        (m.world.send id endpoint).births = m.world.births ∧
        (m.world.send id endpoint).delivered = m.world.delivered := by
      unfold Fifo.send
      split
      · exact ⟨rfl,rfl,rfl⟩
      · exact ⟨rfl,rfl,rfl⟩
    refine ⟨ha.ids,?_,ha.ordered.send,?_⟩
    · intro k h hget
      exact (congrFun hsame.1 k).trans (ha.born k h hget)
    · intro hclear k h hget
      have hbefore : m.world.Clear := fun b hb => hclear b (by rw [hsame.2.1]; exact hb)
      exact (ha.spoken hbefore k h hget).later fun d hd => by rw [hsame.2.2]; exact hd
  | drain => exact keeps_drainProcessPub

theorem attended_of_newborn (hm : m.Newborn) : Attended m := by
  obtain ⟨ω,hw⟩ := hm.world
  have hfresh := hm.fresh
  refine ⟨hm.ids,?_,?_,?_⟩
  · intro id h hget
    rw [hfresh id h hget,hw]
  · rw [hw]
    exact ⟨fun b hb => (by cases hb),⟨fun _ => ⟨fun b hb => (by cases hb),fun d hd => (by cases hd)⟩,
      fun _ b hb => (by cases hb)⟩⟩
  · intro _ id h hget
    rw [hfresh id h hget]
    exact .silent rfl rfl (by simp)

theorem Lived.attended (hm : Lived host arrived conf m) : Attended m := by
  induction hm with
  | init hm => exact attended_of_newborn hm
  | step a _ ha ih => exact (keeps_happening a).leaves ih ha

/-- As long as no child is started while a heartbeat of its process waits, every heartbeat that the
manager takes in is of the child that was started last, and so is all that a handle shows of its
child. When the queue has run empty, that a child was started too early has come to light. -/
theorem only_current_speaks (hm : Lived host arrived conf m) :
    (m.world.Clear → (∀ d ∈ m.world.delivered, d.incarnation = d.born) ∧
      ∀ id h, m.processes.get? id = some h → SpokenFor id h m.world) ∧
      (m.world.queue = [] → (∀ d ∈ m.world.delivered, d.incarnation = d.born) → m.world.Clear) := by
  have ha := hm.attended
  refine ⟨fun hclear => ⟨(ha.ordered.clear_iff.1 hclear).delivered,ha.spoken hclear⟩,?_⟩
  intro hempty hcur
  refine ha.ordered.clear_iff.2 ⟨fun b hb => ?_,hcur⟩
  rw [hempty] at hb
  cases hb

end

section
variable {Ω : Type}

def Happening.after (host : Host Ω) (arrived : Ω → Nat × Ω) (conf : SupervisionConf)
    (a : Happening) (m : Manager (Fifo Ω)) : Option (Manager (Fifo Ω)) :=
  match (a.run host arrived conf).run 0 m with
  | .ok _ m' => some m'
  | .raised _ _ | .diverged => none

def live (host : Host Ω) (arrived : Ω → Nat × Ω) (conf : SupervisionConf) :
    List Happening → Manager (Fifo Ω) → Option (Manager (Fifo Ω))
  | [],m => some m
  | a :: rest,m => (a.after host arrived conf m).bind (live host arrived conf rest)

variable {host : Host Ω} {arrived : Ω → Nat × Ω} {conf : SupervisionConf}
  {m m' : Manager (Fifo Ω)}

theorem Lived.run {steps : List Happening} (hm : Lived host arrived conf m)
    (h : live host arrived conf steps m = some m') : Lived host arrived conf m' := by
  induction steps generalizing m with
  | nil =>
    cases h
    exact hm
  | cons a rest ih =>
    obtain ⟨m₁,h₁,hrest⟩ := bind_eq_some_iff.1 h
    refine ih (.step a hm ?_) hrest
    unfold Happening.after at h₁
    split at h₁
    · rename_i hr
      cases h₁
      exact ⟨0,.inl ⟨(),hr⟩⟩
    · cases h₁
    · cases h₁

end

def newbornOf (spec : ProcessSpec) : Manager (Fifo (Nat × Option Int)) :=
  ⟨OrderedDict.empty.set spec.processId { spec },{ outer := (0,none) }⟩

theorem newborn_newbornOf (spec : ProcessSpec) : (newbornOf spec).Newborn where
  fresh := by
    intro id h hget
    simp only [newbornOf,get?_set,get?_empty] at hget
    split at hget
    · cases hget
      rfl
    · cases hget
  ids := by
    intro id h hget
    simp only [newbornOf,get?_set,get?_empty] at hget
    split at hget
    · rename_i hid
      cases hget
      exact hid.symm
    · cases hget
  world := ⟨_,rfl⟩

def allArrived (ω : Nat × Option Int) : Nat × (Nat × Option Int) := (maxDrainPerTick,ω)

theorem only_current_speaks_heard :
    ∃ m : Manager (Fifo (Nat × Option Int)), m.world.delivered = [⟨⟨"p",2,some "tcp"⟩,1,1⟩] ∧
      ∀ id h, m.processes.get? id = some h → SpokenFor id h m.world := by
  have hrun : (live (steadyHost none) allArrived {} [.start "p",.send "p" (some "tcp"),.drain]
      (newbornOf { processId := "p" })).map (fun m =>
        (m.world.delivered,m.world.births)) =
      some ([⟨⟨"p",2,some "tcp"⟩,1,1⟩],[⟨"p",0⟩]) := by decide +kernel
  obtain ⟨m,hm,hseen⟩ := map_eq_some_iff.1 hrun
  simp only [Prod.mk.injEq] at hseen
  have hlived := Lived.run (.init (newborn_newbornOf _)) hm
  exact ⟨m,hseen.1,((only_current_speaks hlived).1 (by simp [Fifo.Clear,hseen.2])).2⟩

/-- The first child sends a heartbeat and dies before it is heard; the second one is taken to run,
under the endpoint of the first. -/
theorem dead_child_speaks : ∃ (m : Manager (Fifo (Nat × Option Int))) (h : ProcessHandle),
      Lived (steadyHost (some 1)) allArrived {} m ∧ m.processes.get? "p" = some h ∧
      h.state = .running ∧ h.rpcEndpoint = some "tcp://old" ∧ h.history.spawns = 2 ∧
      m.world.delivered.map (fun d => (d.incarnation,d.born)) = [(1,2)] ∧
      ¬ SpokenFor "p" h m.world := by
  have hrun : ((live (steadyHost (some 1)) allArrived {}
      [.start "p",.send "p" (some "tcp://old"),.tick (tickAt 5),.tick (tickAt 100),.drain]
      (newbornOf { processId := "p",restartPolicy := .onFailure })).bind fun m =>
      (m.processes.get? "p").map fun h =>
        (h.state,h.rpcEndpoint,h.history.spawns,
          m.world.delivered.map fun d => (d.incarnation,d.born))) =
      some (.running,some "tcp://old",2,[(1,2)]) := by decide +kernel
  obtain ⟨m,hm,hrun⟩ := bind_eq_some_iff.1 hrun
  obtain ⟨h,hget,hseen⟩ := map_eq_some_iff.1 hrun
  simp only [Prod.mk.injEq] at hseen
  obtain ⟨hstate,hrpc,hspawns,hdelivered⟩ := hseen
  refine ⟨m,h,Lived.run (.init (newborn_newbornOf _)) hm,hget,hstate,hrpc,hspawns,hdelivered,?_⟩
  intro hspoken
  obtain ⟨d,hd,hcur⟩ := hspoken.running hstate
  have hmem : (d.incarnation,d.born) ∈ m.world.delivered.map fun d => (d.incarnation,d.born) :=
    mem_map_of_mem hd
  rw [hdelivered,mem_singleton,Prod.mk.injEq] at hmem
  have hspeaks := hcur.2
  rw [hspawns] at hspeaks
  omega

end ExperimentControl.Supervision

import ExperimentControl.Lib.OrderedDict
import ExperimentControl.Supervision.Steps

/-!
The manager with its managed processes: what an operator asks for, the heartbeats it drains and
the supervise ticks, in any order.
-/

namespace ExperimentControl.Supervision
open Lib Prog OrderedDict List

structure Manager (Ω : Type) where
  processes : OrderedDict String ProcessHandle
  world : Ω

def ingestAll (id : String) (heartbeats : List Heartbeat) (h : ProcessHandle) : ProcessHandle :=
  (heartbeats.filter fun hb => hb.processId = id).foldl (fun h hb => ingestProcessHeartbeat hb h) h

def Manager.put {Ω : Type} (id : String) (s : Scope Ω) (m : Manager Ω) : Manager Ω where
  processes := m.processes.mapValues fun k h =>
    if k = id then s.handle else ingestAll k s.received h
  world := s.world

section
variable {Ω α : Type}

def onHandle (id : String) (x : Sup Ω α) : Prog (Manager Ω) String α := do
  let m ← Prog.get
  match m.processes.get? id with
  | none => Prog.raise ("Unknown process_id '" ++ id ++ "'")
  | some h => zoom (fun m => ⟨h,[],m.world⟩) (Manager.put id) x

def ProcessHandle.asked (h : ProcessHandle) : ProcessHandle :=
  { h with history := { h.history with stopAsked := true } }

variable (host : Host Ω)

def startProcess (id : String) : Prog (Manager Ω) String Unit :=
  onHandle id (startProcessHandle host true)

def stopAsOperator : Sup Ω Unit := do
  update (·.asked)
  stopProcessHandle host

def stopProcess (id : String) : Prog (Manager Ω) String Unit := onHandle id (stopAsOperator host)

def restartAsOperator : Sup Ω Unit := do
  stopAsOperator host
  let now ← ask host.monotonic
  update fun h => { h with
    nextRestartTMono := some (now+h.spec.restartBackoffS)
    history := { h.history with cause := .operator } }

def restartProcess (id : String) : Prog (Manager Ω) String Unit :=
  onHandle id (restartAsOperator host)

def handleProcessPub (heartbeats : List Heartbeat) : Prog (Manager Ω) String Unit :=
  Prog.modify fun m => { m with
    processes := m.processes.mapValues fun id h => ingestAll id heartbeats h }

variable (conf : SupervisionConf)

def superviseManagedProcesses (tick : Tick) : Prog (Manager Ω) String Unit := do
  let m ← Prog.get
  Prog.forEach (fun id => onHandle id (superviseProcess host conf tick)) m.processes.keys

inductive Event where
  | tick (tick : Tick)
  | start (id : String)
  | stop (id : String)
  | restart (id : String)
  | heartbeats (heartbeats : List Heartbeat)

def Event.run : Event → Prog (Manager Ω) String Unit
  | .tick t => superviseManagedProcesses host conf t
  | .start id => startProcess host id
  | .stop id => stopProcess host id
  | .restart id => restartProcess host id
  | .heartbeats hbs => handleProcessPub hbs

def Manager.Fresh (m : Manager Ω) : Prop :=
  ∀ id h, m.processes.get? id = some h → h = { spec := h.spec }

end

theorem total_onHandle {Ω α : Type} {id : String} {x : Sup Ω α} {m : Manager Ω} {h : ProcessHandle}
    {Q : α → Scope Ω → Prop} {E : String → Scope Ω → Prop} (hget : m.processes.get? id = some h)
    (hx : Total (fun s => s = ⟨h,[],m.world⟩) x Q E) :
    Total (fun m' => m' = m) (onHandle id x) (fun a m' => ∃ s, Q a s ∧ m' = m.put id s)
      (fun e m' => ∃ s, E e s ∧ m' = m.put id s) := by
  unfold onHandle
  refine .bind (Q := fun a m' => a = m ∧ m' = m) (.get fun _ h => ⟨h,h⟩) fun a => ?_
  refine .each fun m' hm' => ?_
  obtain ⟨rfl,rfl⟩ := hm'
  simp only [hget]
  refine .zoom fun m'' hm'' => ?_
  subst hm''
  exact hx.conseq (fun _ h => h) (fun a s hs => ⟨s,hs,rfl⟩) fun e s hs => ⟨s,hs,rfl⟩

@[simp] theorem get?_put {Ω : Type} (id k : String) (s : Scope Ω) (m : Manager Ω) :
    (m.put id s).processes.get? k = (m.processes.get? k).map fun h =>
      if k = id then s.handle else ingestAll k s.received h := by
  simp [Manager.put]

namespace Core

def asked (c : Core) : Core := { c with history := { c.history with stopAsked := true } }

def restartAsked (c : Core) (now : ℚ) : Core :=
  { c with
    nextRestartTMono := some (now+c.spec.restartBackoffS)
    history := { c.history with cause := .operator } }

end Core

/-- What a tick does to a handle, with the heartbeats that it drains for other handles. -/
inductive Ticked (now : ℚ) (c : Core) : Core → Prop where
  | skipped {c' : Core} : Heard c c' → Ticked now c c'
  | done {c₁ c₂ c' : Core} : Heard c c₁ → Supervised now c₁ c₂ → Heard c₂ c' → Ticked now c c'
  | raised {c₁ c₂ : Core} : Heard c c₁ → SuperviseRaised now c₁ c₂ → Ticked now c c₂

/-- `I` is kept by each part of a tick up to the restart check, which leaves `J` behind. -/
structure Kept (now : ℚ) (I J : Core → Prop) : Prop where
  heard : ∀ {c c'}, I c → Heard c c' → I c'
  exit : ∀ {c b c'}, I c → ExitStep c b c' → I c'
  heartbeat : ∀ {c c'}, I c → HeartbeatStep now c c' → I c'
  stopCheck : ∀ {c c'}, I c → StopStep now c c' → I c'
  restartCheck : ∀ {c c'}, I c → RestartStep now c c' → J c'
  restartRaised : ∀ {c c'}, I c → RestartRaised now c c' → J c'
  weaken : ∀ {c}, I c → J c
  checkedOff : ∀ {c}, J c → J c.checkedOff
  heardAfter : ∀ {c c'}, J c → Heard c c' → J c'

theorem Ticked.keeps {now : ℚ} {I J : Core → Prop} {c c' : Core} (hI : Kept now I J) (h : I c)
    (ht : Ticked now c c') : J c' := by
  cases ht with
  | skipped hh => exact hI.weaken (hI.heard h hh)
  | done h₁ h₂ h₃ =>
    have h := hI.heard h h₁
    refine hI.heardAfter ?_ h₃
    cases h₂ with
    | recovered he => exact hI.checkedOff (hI.weaken (hI.exit h he))
    | checked he hb hs hr =>
      exact hI.checkedOff (hI.restartCheck (hI.stopCheck (hI.heartbeat (hI.exit h he) hb) hs) hr)
  | raised h₁ h₂ =>
    have h := hI.heard h h₁
    cases h₂ with
    | exit => exact hI.weaken h
    | heartbeat he hb =>
      -- the handle had already been given up when the poll raised
      exact hI.weaken (hI.heartbeat (hI.exit h he) (.failed hb.1 (hb.2 ▸ .same)))
    | stop he hb halive => exact hI.weaken (hI.heartbeat (hI.exit h he) hb)
    | restart he hb hs hr =>
      exact hI.restartRaised (hI.stopCheck (hI.heartbeat (hI.exit h he) hb) hs) hr

inductive Moved (id : String) (c : Core) : Event → Core → Prop where
  | aside {e : Event} {c' : Core} : Heard c c' → Moved id c e c'
  | tick {tick : Tick} {c' : Core} : Ticked tick.nowMono c c' → Moved id c (.tick tick) c'
  | started {c' : Core} : Started c c' → Moved id c (.start id) c'
  | startRaised {c' : Core} : StartRaised c c' → Moved id c (.start id) c'
  | stopped {rc : Option Int} {c' : Core} : Stopped c.asked rc c' → Moved id c (.stop id) c'
  | stopRaised : Moved id c (.stop id) c.asked
  | restarted {rc : Option Int} {c₁ : Core} (now : ℚ) : Stopped c.asked rc c₁ →
      Moved id c (.restart id) (c₁.restartAsked now)
  | restartRaised : Moved id c (.restart id) c.asked

theorem heard_ingestAll (id : String) (heartbeats : List Heartbeat) (h : ProcessHandle) :
    Heard h.core (ingestAll id heartbeats h).core := heard_foldl _ h

section
variable {Ω : Type} {host : Host Ω} {conf : SupervisionConf} {m m' : Manager Ω} {id : String}
  {h : ProcessHandle}

theorem heard_put {k : String} {s : Scope Ω} (hget : m.processes.get? id = some h) (hne : id ≠ k) :
    ∃ h', (m.put k s).processes.get? id = some h' ∧ Heard h.core h'.core :=
  ⟨ingestAll id s.received h,by simp [hget,hne],heard_ingestAll id s.received h⟩

theorem total_stopAsOperator (s₀ : Scope Ω) : Total (fun s => s = s₀) (stopAsOperator host)
      (fun _ s => Stopped s₀.handle.core.asked (s₀.handle.exitNow host s₀.world) s.handle.core)
      (fun _ s => s.handle.core = s₀.handle.core.asked) := by
  unfold stopAsOperator
  refine .bind (Q := fun _ s => s = { s₀ with handle := s₀.handle.asked })
    (.modify fun s hs => by rw [hs]) fun _ => total_stopProcessHandle _

theorem total_onHandle_missing {α : Type} {x : Sup Ω α} (hget : m.processes.get? id = none) :
    Total (fun m' => m' = m) (onHandle id x) (fun _ _ => False) (fun _ m' => m' = m) := by
  unfold onHandle
  refine .bind (Q := fun a m' => a = m ∧ m' = m) (.get fun _ h => ⟨h,h⟩) fun a => .each ?_
  intro m' hm'
  rw [hm'.1]
  simp only [hget]
  exact .raise fun m'' hm'' => hm''.trans hm'.2

theorem total_onHandle_moved {k : String} {x : Sup Ω Unit} {e : Event} {G : Scope Ω → Scope Ω → Prop}
    (hget : m.processes.get? id = some h)
    (hx : ∀ s₀, Total (fun s => s = s₀) x (fun _ => G s₀) (fun _ => G s₀))
    (hmoved : ∀ s₀ s, s₀.handle = h → k = id → G s₀ s → Moved id h.core e s.handle.core) :
    Total (fun m' => m' = m) (onHandle k x)
      (fun _ m' => ∃ h', m'.processes.get? id = some h' ∧ Moved id h.core e h'.core)
      (fun _ m' => ∃ h', m'.processes.get? id = some h' ∧ Moved id h.core e h'.core) := by
  by_cases hk : k = id
  · subst hk
    have hput : ∀ s, G ⟨h,[],m.world⟩ s → ∃ h', (m.put k s).processes.get? k = some h' ∧
        Moved k h.core e h'.core := fun s hs =>
      ⟨s.handle,by simp [hget],hmoved _ s rfl rfl hs⟩
    refine (total_onHandle hget (hx _)).conseq (fun _ h => h) ?_ ?_
    · rintro - m' ⟨s,hs,rfl⟩
      exact hput s hs
    · rintro - m' ⟨s,hs,rfl⟩
      exact hput s hs
  · cases hgetk : m.processes.get? k with
    | none =>
      refine (total_onHandle_missing hgetk).conseq (fun _ h => h) (fun _ _ h => h.elim) ?_
      rintro - m' rfl
      exact ⟨h,hget,.aside .same⟩
    | some hk' =>
      have hput : ∀ s, ∃ h', (m.put k s).processes.get? id = some h' ∧
          Moved id h.core e h'.core := by
        intro s
        obtain ⟨h',hget',hheard⟩ := heard_put (s := s) hget (Ne.symm hk)
        exact ⟨h',hget',.aside hheard⟩
      refine (total_onHandle hgetk (hx _)).conseq (fun _ h => h) ?_ ?_
      · rintro - m' ⟨s,-,rfl⟩
        exact hput s
      · rintro - m' ⟨s,-,rfl⟩
        exact hput s

theorem total_tick (tick : Tick) (hget : m.processes.get? id = some h) :
    Total (fun m' => m' = m) (superviseManagedProcesses host conf tick)
      (fun _ m' => ∃ h' c₁ c₂, m'.processes.get? id = some h' ∧ Heard h.core c₁ ∧
        Supervised tick.nowMono c₁ c₂ ∧ Heard c₂ h'.core)
      (fun _ m' => ¬ host.Quiet ∧ ∃ h', m'.processes.get? id = some h' ∧
        Ticked tick.nowMono h.core h'.core) := by
  -- what the loop knows of the handle when it has still to go through some of the others
  let Loop : List String → Manager Ω → Prop := fun rest m' =>
    rest.Nodup ∧ (∀ k ∈ rest, (m'.processes.get? k).isSome) ∧
      ∃ h', m'.processes.get? id = some h' ∧
        if id ∈ rest then Heard h.core h'.core
        else ∃ c₁ c₂, Heard h.core c₁ ∧ Supervised tick.nowMono c₁ c₂ ∧ Heard c₂ h'.core
  have hbody : ∀ k rest, Total (Loop (k :: rest)) (onHandle k (superviseProcess host conf tick))
      (fun _ => Loop rest)
      (fun _ m' => ¬ host.Quiet ∧ ∃ h', m'.processes.get? id = some h' ∧
        Ticked tick.nowMono h.core h'.core) := by
    intro k rest
    refine .each fun m₁ hm₁ => ?_
    obtain ⟨hnodup,hkeys,h₁,hget₁,hdone⟩ := hm₁
    obtain ⟨hk,hgetk⟩ := Option.isSome_iff_exists.1 (hkeys k (by simp))
    have hstep : Total (fun s => s = ⟨hk,[],m₁.world⟩) (superviseProcess host conf tick)
        (fun _ s => Supervised tick.nowMono hk.core s.handle.core)
        (fun _ s => ¬ host.Quiet ∧ SuperviseRaised tick.nowMono hk.core s.handle.core) :=
      Total.pre (acts_superviseProcess conf tick) fun s hs => by rw [hs]
    have hkeys' : ∀ s : Scope Ω, ∀ k' ∈ rest, ((m₁.put k s).processes.get? k').isSome := by
      intro s k' hk'
      simpa using hkeys k' (by simp [hk'])
    refine (total_onHandle hgetk hstep).conseq (fun _ h => h) ?_ ?_
    · rintro - m' ⟨s,hs,rfl⟩
      refine ⟨(nodup_cons.1 hnodup).2,hkeys' s,?_⟩
      by_cases hid : id = k
      · subst hid
        rw [hget₁] at hgetk
        cases hgetk
        refine ⟨s.handle,by simp [hget₁],?_⟩
        rw [if_neg (nodup_cons.1 hnodup).1]
        rw [if_pos (by simp)] at hdone
        exact ⟨_,_,hdone,hs,.same⟩
      · obtain ⟨h',hget',hheard⟩ := heard_put (s := s) hget₁ hid
        refine ⟨h',hget',?_⟩
        by_cases hrest : id ∈ rest
        · rw [if_pos (by simp [hrest])] at hdone
          rw [if_pos hrest]
          exact hdone.trans hheard
        · rw [if_neg (by simp [hid,hrest])] at hdone
          rw [if_neg hrest]
          obtain ⟨c₁,c₂,h₁,h₂,h₃⟩ := hdone
          exact ⟨c₁,c₂,h₁,h₂,h₃.trans hheard⟩
    · rintro - m' ⟨s,⟨hquiet,hs⟩,rfl⟩
      refine ⟨hquiet,?_⟩
      by_cases hid : id = k
      · subst hid
        rw [hget₁] at hgetk
        cases hgetk
        refine ⟨s.handle,by simp [hget₁],?_⟩
        rw [if_pos (by simp)] at hdone
        exact .raised hdone hs
      · obtain ⟨h',hget',hheard⟩ := heard_put (s := s) hget₁ hid
        refine ⟨h',hget',?_⟩
        by_cases hrest : id ∈ rest
        · rw [if_pos (by simp [hrest])] at hdone
          exact .skipped (hdone.trans hheard)
        · rw [if_neg (by simp [hid,hrest])] at hdone
          obtain ⟨c₁,c₂,h₁,h₂,h₃⟩ := hdone
          exact .done h₁ h₂ (h₃.trans hheard)
  unfold superviseManagedProcesses
  refine .bind (Q := fun a m' => a = m ∧ m' = m) (.get fun _ h => ⟨h,h⟩) fun a => .each ?_
  intro m' hm'
  rw [hm'.1]
  have hloop := Total.forEach hbody m.processes.keys
  refine hloop.conseq ?_ ?_ fun _ _ h => h
  · intro m'' hm''
    rw [hm'',hm'.2]
    refine ⟨m.processes.nodup,?_,h,hget,?_⟩
    · intro k hk
      obtain ⟨entry,hentry,rfl⟩ := mem_map.1 hk
      rw [(get?_eq_some_iff _ entry.1 entry.2).2 hentry]
      rfl
    · have hmem : id ∈ m.processes.keys :=
        mem_map.2 ⟨(id,h),(get?_eq_some_iff _ _ _).1 hget,rfl⟩
      rw [if_pos hmem]
      exact .same
  · rintro - m'' ⟨-,-,h',hget',hdone⟩
    rw [if_neg (by simp)] at hdone
    obtain ⟨c₁,c₂,h₁,h₂,h₃⟩ := hdone
    exact ⟨h',c₁,c₂,hget',h₁,h₂,h₃⟩

theorem total_ticked (tick : Tick) (hget : m.processes.get? id = some h) :
    Total (fun m' => m' = m) (superviseManagedProcesses host conf tick)
      (fun _ m' => ∃ h', m'.processes.get? id = some h' ∧ Ticked tick.nowMono h.core h'.core)
      (fun _ m' => ∃ h', m'.processes.get? id = some h' ∧ Ticked tick.nowMono h.core h'.core) := by
  refine (total_tick tick hget).conseq (fun _ h => h) ?_ ?_
  · rintro - m' ⟨h',c₁,c₂,hget',h₁,h₂,h₃⟩
    exact ⟨h',hget',.done h₁ h₂ h₃⟩
  · rintro - m' ⟨-,h',hget',hticked⟩
    exact ⟨h',hget',hticked⟩

theorem ticked_of_leaves {tick : Tick} (hget : m.processes.get? id = some h)
    (ht : (superviseManagedProcesses host conf tick).Leaves m m') :
    ∃ h', m'.processes.get? id = some h' ∧ Ticked tick.nowMono h.core h'.core :=
  (total_ticked tick hget).triple.leaves rfl ht

theorem total_restartAsOperator (s₀ : Scope Ω) : Total (fun s => s = s₀) (restartAsOperator host)
      (fun _ s => ∃ rc c₁ now, Stopped s₀.handle.core.asked rc c₁ ∧
        s.handle.core = c₁.restartAsked now)
      (fun _ s => s.handle.core = s₀.handle.core.asked) := by
  have hrest : ∀ c, Acts (fun c' => c' = c) (do
      let now ← ask host.monotonic
      update fun h => { h with
        nextRestartTMono := some (now+h.spec.restartBackoffS)
        history := { h.history with cause := .operator } })
      (fun _ c' => ∃ now, c' = c.restartAsked now) (fun _ => False) := by
    intro c
    refine .bind acts_ask fun now => acts_update fun x hx => ⟨now,?_⟩
    rw [← hx]
    rfl
  unfold restartAsOperator
  refine .bind (total_stopAsOperator s₀) fun _ => .each fun s hs => ?_
  refine Total.conseq (hrest s.handle.core) (fun _ h => by rw [h]) ?_ fun _ _ h => h.elim
  rintro - s' ⟨now,hs'⟩
  exact ⟨_,_,now,hs,hs'⟩

theorem total_event (e : Event) (hget : m.processes.get? id = some h) :
    Total (fun m' => m' = m) (e.run host conf)
      (fun _ m' => ∃ h', m'.processes.get? id = some h' ∧ Moved id h.core e h'.core)
      (fun _ m' => ∃ h', m'.processes.get? id = some h' ∧ Moved id h.core e h'.core) := by
  cases e with
  | tick tick =>
    refine (total_ticked tick hget).conseq (fun _ h => h) ?_ ?_
    · rintro - m' ⟨h',hget',hticked⟩
      exact ⟨h',hget',.tick hticked⟩
    · rintro - m' ⟨h',hget',hticked⟩
      exact ⟨h',hget',.tick hticked⟩
  | start k =>
    refine total_onHandle_moved hget (G := fun s₀ s => Started s₀.handle.core s.handle.core ∨
      StartRaised s₀.handle.core s.handle.core) (fun s₀ => ?_) ?_
    · refine Total.conseq (acts_startProcessHandle (c := s₀.handle.core) true)
        (fun s hs => by rw [hs]) (fun _ _ h => .inl h) fun _ _ h => .inr h
    · rintro s₀ s rfl rfl (hs | hs)
      · exact .started hs
      · exact .startRaised hs
  | stop k =>
    refine total_onHandle_moved hget (G := fun s₀ s =>
      (∃ rc, Stopped s₀.handle.core.asked rc s.handle.core) ∨
        s.handle.core = s₀.handle.core.asked) (fun s₀ => ?_) ?_
    · exact (total_stopAsOperator s₀).conseq (fun _ h => h) (fun _ _ h => .inl ⟨_,h⟩)
        fun _ _ h => .inr h
    · rintro s₀ s rfl rfl (⟨rc,hs⟩ | hs)
      · exact .stopped hs
      · rw [hs]
        exact .stopRaised
  | restart k =>
    refine total_onHandle_moved hget (G := fun s₀ s =>
      (∃ rc c₁ now, Stopped s₀.handle.core.asked rc c₁ ∧ s.handle.core = c₁.restartAsked now) ∨
        s.handle.core = s₀.handle.core.asked) (fun s₀ => ?_) ?_
    · exact (total_restartAsOperator s₀).conseq (fun _ h => h) (fun _ _ h => .inl h)
        fun _ _ h => .inr h
    · rintro s₀ s rfl rfl (⟨rc,c₁,now,hstop,hs⟩ | hs)
      · rw [hs]
        exact .restarted now hstop
      · rw [hs]
        exact .restartRaised
  | heartbeats hbs =>
    have hput : ∀ m', m' = m → ∃ h', (m'.processes.mapValues fun id h => ingestAll id hbs h).get? id =
        some h' ∧ Moved id h.core (.heartbeats hbs) h'.core := by
      rintro _ rfl
      exact ⟨ingestAll id hbs h,by simp [hget],.aside (heard_ingestAll id hbs h)⟩
    exact .modify hput

end

/-- The states of the manager in a history of events, each of which may return or raise. -/
inductive Reachable {Ω : Type} (host : Host Ω) (conf : SupervisionConf) : Manager Ω → Prop where
  | init {m : Manager Ω} : m.Fresh → Reachable host conf m
  | step {m m' : Manager Ω} (e : Event) :
      Reachable host conf m → (e.run host conf).Leaves m m' → Reachable host conf m'

section
variable {Ω : Type} {host : Host Ω} {conf : SupervisionConf} {m m' : Manager Ω} {id : String}

theorem moved_of_leaves {e : Event} {h : ProcessHandle} (hget : m.processes.get? id = some h)
    (he : (e.run host conf).Leaves m m') :
    ∃ h', m'.processes.get? id = some h' ∧ Moved id h.core e h'.core :=
  (total_event e hget).triple.leaves rfl he

theorem total_onHandle_absent {k : String} {x : Sup Ω Unit}
    (hx : ∀ s₀, Total (fun s => s = s₀) x (fun _ _ => True) (fun _ _ => True)) :
    Settles (fun m => m.processes.get? id = none) (onHandle k x) := by
  refine .each fun m hm => ?_
  cases hget : m.processes.get? k with
  | none =>
    refine (total_onHandle_missing hget).conseq (fun _ h => h) (fun _ _ h => h.elim) ?_
    rintro - m' rfl
    exact hm
  | some h =>
    refine (total_onHandle hget (hx _)).conseq (fun _ h => h) ?_ ?_
    · rintro - m' ⟨s,-,rfl⟩
      simp [hm]
    · rintro - m' ⟨s,-,rfl⟩
      simp [hm]

theorem settles_absent (e : Event) :
    Settles (fun m => m.processes.get? id = none) (e.run host conf) := by
  cases e with
  | tick tick =>
    refine .bind (Q := fun _ m => m.processes.get? id = none) (.get fun _ h => h) fun m => ?_
    refine Total.forEach (I := fun _ (m : Manager Ω) => m.processes.get? id = none)
      (fun k _ => ?_) _
    refine total_onHandle_absent fun s₀ => ?_
    exact Total.conseq (acts_superviseProcess (c := s₀.handle.core) conf tick)
      (fun _ h => by rw [h]) (fun _ _ _ => trivial) fun _ _ _ => trivial
  | start k =>
    refine total_onHandle_absent fun s₀ => ?_
    exact Total.conseq (acts_startProcessHandle (c := s₀.handle.core) true)
      (fun _ h => by rw [h]) (fun _ _ _ => trivial) fun _ _ _ => trivial
  | stop k =>
    exact total_onHandle_absent fun s₀ =>
      (total_stopAsOperator s₀).conseq (fun _ h => h) (fun _ _ _ => trivial) fun _ _ _ => trivial
  | restart k =>
    exact total_onHandle_absent fun s₀ =>
      (total_restartAsOperator s₀).conseq (fun _ h => h) (fun _ _ _ => trivial) fun _ _ _ => trivial
  | heartbeats hbs => exact .modify fun m hm => by simp [hm]

theorem Reachable.invariant {I : Core → Prop} (hfresh : ∀ h : ProcessHandle, h = { spec := h.spec } →
    I h.core) (hmoved : ∀ id e c c', Moved id c e c' → I c → I c') (hm : Reachable host conf m)
    {h : ProcessHandle} (hget : m.processes.get? id = some h) : I h.core := by
  induction hm generalizing h with
  | init hm => exact hfresh h (hm id h hget)
  | @step m m' e _ he ih =>
    cases hbefore : m.processes.get? id with
    | none =>
      have habsent := (settles_absent e).triple.leaves hbefore he
      rw [habsent] at hget
      cases hget
    | some h₀ =>
      obtain ⟨h',hget',hmove⟩ := moved_of_leaves hbefore he
      rw [hget] at hget'
      cases hget'
      exact hmoved id e _ _ hmove (ih hbefore)

end

def Event.after {Ω : Type} (host : Host Ω) (conf : SupervisionConf) (e : Event) (m : Manager Ω) :
    Option (Manager Ω) :=
  match (e.run host conf).run 0 m with
  | .ok _ m' => some m'
  | .raised _ _ | .diverged => none

def runEvents {Ω : Type} (host : Host Ω) (conf : SupervisionConf) :
    List Event → Manager Ω → Option (Manager Ω)
  | [],m => some m
  | e :: rest,m => (e.after host conf m).bind (runEvents host conf rest)

section
variable {Ω : Type} {host : Host Ω} {conf : SupervisionConf} {m m' : Manager Ω}

theorem run_of_after {e : Event} (h : e.after host conf m = some m') :
    (e.run host conf).run 0 m = .ok () m' := by
  unfold Event.after at h
  split at h
  · rename_i hr
    cases h
    exact hr
  · cases h
  · cases h

theorem leaves_of_after {e : Event} (h : e.after host conf m = some m') :
    (e.run host conf).Leaves m m' := ⟨0,.inl ⟨(),run_of_after h⟩⟩

theorem Reachable.run {events : List Event} (hm : Reachable host conf m)
    (h : runEvents host conf events m = some m') : Reachable host conf m' := by
  induction events generalizing m with
  | nil =>
    cases h
    exact hm
  | cons e rest ih =>
    obtain ⟨m₁,h₁,hrest⟩ := Option.bind_eq_some_iff.1 h
    exact ih (.step e hm (leaves_of_after h₁)) hrest

end

/-- A host on which nothing goes wrong. A child meets its `fate` at once, or lives until it is
terminated; the world is a clock with the exit code of the child. -/
def steadyHost (fate : Option Int) : Host (Nat × Option Int) where
  poll _ ω := (.ok ω.2,ω)
  terminate _ ω := (.ok (),(ω.1,some (-15)))
  kill _ ω := (.ok (),(ω.1,some (-9)))
  connect _ ω := (.ok (),ω)
  popen _ ω := (.ok ω.1,(ω.1+1,fate))
  monotonic ω := (ω.1,(ω.1+1,ω.2))
  stopRpc _ ω := (false,ω)
  refresh ω := ([],ω)
  collisionLogged _ ω := (false,ω)
  cleanupOrphans ω := ((),ω)
  describeExitCode rc := toString rc
  fixed2 q := toString q
  lower s := s

def tickAt (now : ℚ) : Tick := { nowMono := now }

def Manager.spawns {Ω : Type} (m : Manager Ω) (id : String) : Option Nat :=
  (m.processes.get? id).map (·.history.spawns)

def managerOf (spec : ProcessSpec) : Manager (Nat × Option Int) :=
  ⟨OrderedDict.empty.set spec.processId { spec },(0,none)⟩

theorem fresh_managerOf (spec : ProcessSpec) : (managerOf spec).Fresh := by
  intro id h hget
  simp only [managerOf,get?_set,get?_empty] at hget
  split at hget
  · cases hget
    rfl
  · cases hget

end ExperimentControl.Supervision

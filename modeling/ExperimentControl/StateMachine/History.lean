import Mathlib.Data.List.Chain
import ExperimentControl.StateMachine.Paths
import ExperimentControl.Python.Text

/-!
The transitions of a state machine (`transition` and `force_transition` of
`processes/state_machine_base.py`) with calls made inside their hooks, and when the history they leave
is a walk. The history is taken before it is cut to its last 500 entries.
-/

namespace ExperimentControl.StateMachine
open Python

structure TransitionEntry where
  fromState : String
  toState : String
  reason : Option String
  metadata : Entries
  deriving DecidableEq

inductive HistoryEntry where
  | transition (entry : TransitionEntry)
  | error (state message : String)
  deriving DecidableEq

structure Machine where
  state : String
  history : List HistoryEntry
  deriving DecidableEq

/-- A call of a run, with what the hooks that it calls do in turn. -/
inductive Act where
  | transition (target : String) (reason : Option String) (metadata : Entries) (allowNoop : Bool)
      (onExit onEnter : List Act)
  | forceTransition (target : String) (reason : Option String) (metadata : Entries) (allowNoop : Bool)
  | setLastError (message : Option String)
  /-- The calls stand in a `try` that catches what they raise. -/
  | attempt (body : List Act)
  | raise

/-- `meta.setdefault("forced", True)` -/
def forcedMetadata (metadata : Entries) : Entries :=
  if metadata.any (fun entry => entry.1 = "forced") then metadata
  else metadata ++ [("forced",.bool true)]

def TransitionEntry.forced (e : TransitionEntry) : Bool := (getD e.metadata "forced" .none).truthy

def Machine.commit (m : Machine) (e : TransitionEntry) : Machine :=
  ⟨e.toState,m.history ++ [.transition e]⟩

section
variable (allowed : String → List String)

mutual
def Act.run : Act → Machine → Option Bool × Machine
  | .transition target reason metadata allowNoop onExit onEnter,m =>
    if m.state = target then (some allowNoop,m)
    else if !canTransition allowed target m.state then (some false,m)
    else match runAll onExit m with
      | (false,m') => (none,m')
      | (true,m') =>
        match runAll onEnter (m'.commit ⟨m.state,target,reason,metadata⟩) with
        | (false,m'') => (none,m'')
        | (true,m'') => (some true,m'')
  | .forceTransition target reason metadata allowNoop,m =>
    if m.state = target then (some allowNoop,m)
    else (some true,m.commit ⟨m.state,target,reason,forcedMetadata metadata⟩)
  | .setLastError message,m =>
    match message with
    | none | some "" => (some true,m)
    | some message => (some true,{ m with history := m.history ++ [.error m.state message] })
  | .attempt body,m => (some true,(runAll body m).2)
  | .raise,m => (none,m)
def runAll : List Act → Machine → Bool × Machine
  | [],m => (true,m)
  | act :: rest,m =>
    match act.run m with
    | (none,m') => (false,m')
    | (some _,m') => runAll rest m'
end

mutual
/-- Every exit hook that returns leaves the state as it was, and a forced transition that is not
allowed is marked. -/
def Act.Settles : Act → Machine → Prop
  | .transition target reason metadata _ onExit onEnter,m =>
    m.state ≠ target → canTransition allowed target m.state = true →
      AllSettle onExit m ∧ ((runAll allowed onExit m).1 = true →
        (runAll allowed onExit m).2.state = m.state ∧
        AllSettle onEnter ((runAll allowed onExit m).2.commit ⟨m.state,target,reason,metadata⟩))
  | .forceTransition target reason metadata _,m =>
    m.state ≠ target → canTransition allowed target m.state = true ∨
      TransitionEntry.forced ⟨m.state,target,reason,forcedMetadata metadata⟩ = true
  | .setLastError _,_ | .raise,_ => True
  | .attempt body,m => AllSettle body m
def AllSettle : List Act → Machine → Prop
  | [],_ => True
  | act :: rest,m => act.Settles m ∧ ((act.run allowed m).1 ≠ none → AllSettle rest (act.run allowed m).2)
end

def transitionEntries (history : List HistoryEntry) : List TransitionEntry :=
  history.filterMap fun
    | .transition entry => some entry
    | .error _ _ => none

/-- The recorded transitions are a walk of allowed or forced steps to the current state. -/
structure LegalWalk (m : Machine) : Prop where
  chain : (transitionEntries m.history).IsChain fun e e' => e'.fromState = e.toState
  current : ∀ e ∈ (transitionEntries m.history).getLast?, e.toState = m.state
  legal : ∀ e ∈ transitionEntries m.history, e.forced = false →
    canTransition allowed e.toState e.fromState = true

variable {allowed}

theorem LegalWalk.commit {m : Machine} (h : LegalWalk allowed m) {e : TransitionEntry}
    (hfrom : m.state = e.fromState)
    (hlegal : canTransition allowed e.toState e.fromState = true ∨ e.forced = true) :
    LegalWalk allowed (m.commit e) := by
  have hentries : transitionEntries (m.commit e).history = transitionEntries m.history ++ [e] := by
    simp [transitionEntries,Machine.commit]
  refine ⟨?_,?_,?_⟩ <;> rw [hentries]
  · refine List.isChain_append.2 ⟨h.chain,List.isChain_singleton _,fun f hf g hg => ?_⟩
    obtain rfl : e = g := by simpa using hg
    rw [h.current f hf,hfrom]
  · intro f hf
    obtain rfl : e = f := by simpa using hf
    rfl
  · intro f hf hforced
    rcases List.mem_append.1 hf with hf | hf
    · exact h.legal f hf hforced
    · obtain rfl := List.mem_singleton.1 hf
      exact hlegal.resolve_right (by simp [hforced])

theorem LegalWalk.error {m : Machine} (h : LegalWalk allowed m) (message : String) :
    LegalWalk allowed { m with history := m.history ++ [.error m.state message] } := by
  have hentries : transitionEntries (m.history ++ [.error m.state message]) =
      transitionEntries m.history := by simp [transitionEntries]
  exact ⟨by rw [hentries]; exact h.chain,by rw [hentries]; exact h.current,
    by rw [hentries]; exact h.legal⟩

mutual
theorem Act.keeps_walk : ∀ (act : Act) {m : Machine}, act.Settles allowed m → LegalWalk allowed m →
    LegalWalk allowed (act.run allowed m).2
  | .transition target reason metadata allowNoop onExit onEnter,m => by
    intro hsettles h
    unfold Act.Settles at hsettles
    unfold Act.run
    by_cases hnoop : m.state = target
    · rwa [if_pos hnoop]
    rw [if_neg hnoop]
    by_cases hallowed : canTransition allowed target m.state = true
    · rw [hallowed,Bool.not_true,if_neg (by simp)]
      obtain ⟨hexit,hafter⟩ := hsettles hnoop hallowed
      have hleft := runAll_keeps_walk onExit hexit h
      generalize runAll allowed onExit m = exited at hleft hafter ⊢
      obtain ⟨returned,m'⟩ := exited
      cases returned with
      | false => exact hleft
      | true =>
        obtain ⟨hstate,henter⟩ := hafter rfl
        have hentered := runAll_keeps_walk onEnter henter (hleft.commit hstate (.inl hallowed))
        dsimp only at hentered ⊢
        split <;> rename_i hrun <;> rw [hrun] at hentered <;> exact hentered
    · rwa [if_pos (by simpa using hallowed)]
  | .forceTransition target reason metadata allowNoop,m => by
    intro hsettles h
    unfold Act.Settles at hsettles
    unfold Act.run
    by_cases hnoop : m.state = target
    · rwa [if_pos hnoop]
    · rw [if_neg hnoop]
      exact h.commit rfl (hsettles hnoop)
  | .setLastError message,m => by
    intro _ h
    unfold Act.run
    split
    · exact h
    · exact h
    · exact h.error _
  | .attempt body,m => by
    intro hsettles h
    unfold Act.Settles at hsettles
    unfold Act.run
    exact runAll_keeps_walk body hsettles h
  | .raise,m => by
    intro _ h
    unfold Act.run
    exact h
theorem runAll_keeps_walk : ∀ (acts : List Act) {m : Machine}, AllSettle allowed acts m →
    LegalWalk allowed m → LegalWalk allowed (runAll allowed acts m).2
  | [],m => by
    intro _ h
    unfold runAll
    exact h
  | act :: rest,m => by
    intro hsettles h
    unfold AllSettle at hsettles
    unfold runAll
    have hact := act.keeps_walk hsettles.1 h
    have hrest := hsettles.2
    generalize act.run allowed m = ran at hact hrest ⊢
    obtain ⟨result,m'⟩ := ran
    cases result with
    | none => exact hact
    | some _ => exact runAll_keeps_walk rest (hrest (Option.some_ne_none _)) hact
end

end

/-- In a run whose exit hooks leave the state as it was, the history is a legal walk after any of its
calls. -/
theorem history_legal_walk (allowed : String → List String) (initial : String) {acts : List Act}
    (h : AllSettle allowed acts ⟨initial,[]⟩) : LegalWalk allowed (runAll allowed acts ⟨initial,[]⟩).2 :=
  runAll_keeps_walk acts h ⟨by simp [transitionEntries],by simp [transitionEntries],
    by simp [transitionEntries]⟩

def idleFirst (state : String) : List String := if state = "IDLE" then ["RUNNING","FAILED"] else []

theorem history_legal_walk_start :
    LegalWalk idleFirst (runAll idleFirst [.transition "RUNNING" none [] true [.raise] [],
      .transition "RUNNING" none [] true [] [.forceTransition "IDLE" none [] true]] ⟨"IDLE",[]⟩).2 :=
  history_legal_walk idleFirst "IDLE" (by
    simp [AllSettle,Act.Settles,Act.run,runAll,canTransition,idleFirst,Machine.commit,
      TransitionEntry.forced,forcedMetadata,getD,item?,Value.truthy])

/-- The exit hook has gone to another state, and the transition is recorded from the old one. -/
theorem exit_hook_breaks_walk : ¬ LegalWalk idleFirst (runAll idleFirst
    [.transition "RUNNING" none [] true [.transition "FAILED" none [] true [] []] []] ⟨"IDLE",[]⟩).2 := by
  intro h
  have hchain := h.chain
  simp [Act.run,runAll,canTransition,idleFirst,Machine.commit,transitionEntries] at hchain

end ExperimentControl.StateMachine

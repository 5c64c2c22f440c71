import ExperimentControl.Sequencer.Refusal

/-!
Whose run it is: requests to the process between the ticks of a run, and that a run in
progress is left only at its own end, when no start and no load takes the runtime over.
-/

namespace ExperimentControl.Sequencer.Process
open Lib Python Ctl Prog Option

variable {World : Type}

/-- A load does nothing to the runtime, or it loads a sequence that the runtime takes. -/
inductive LoadOutcome (host : Host World) (p : ProcState World) : ProcState World → Prop
  | refused (w : World) : LoadOutcome host p (p.withWorld w)
  | loaded (w : World) (seq : LoadedSequence) (active : Option String)
      (h : p.runtime.ctl.state ≠ .running) :
      LoadOutcome host p ((p.withWorld w).loadedAs host seq active)

def readsSequence (sv : Services World) (text source : String) (w : World) : Bool :=
  match (sv.loadSequenceText text source w).1 with
  | .ok (.ok _) => true
  | _ => false

/-- `sequencer.load` comes to a sequence. -/
def loadsText (sv : Services World) (p : ProcState World) (raw : Value) : Bool :=
  match readParams raw with
  | none => false
  | some params =>
    let path := getD params "path" .none
    let text := getD params "text" .none
    if path.truthy then
      let source := path.text sv.host.py.repr
      match sv.readText source p.runtime.data.world with
      | (.ok text,w) => readsSequence sv text source w
      | _ => false
    else text.truthy &&
      readsSequence sv (text.text sv.host.py.repr) "sequence_yaml" p.runtime.data.world

/-- `sequencer.library.load` comes to a sequence. -/
def loadsLibrary (sv : Services World) (p : ProcState World) (raw : Value) : Bool :=
  match readParams raw,p.sequenceLibrary with
  | some params,some library =>
    (library.getEntry sv.host.py (libraryIdText sv.host.py params)).isOk
  | _,_ => false

/-- What a load does, which has come to a sequence when `taken` says so. -/
def Loads (host : Host World) (taken : Bool) (p q : ProcState World) : Prop :=
  LoadOutcome host p q ∧ (taken = false → ∃ w, q = p.withWorld w)

section
variable (sv : Services World) {p : ProcState World}

theorem Loads.refused {host : Host World} (taken : Bool) (w : World) :
    Loads host taken p (p.withWorld w) :=
  ⟨.refused w,fun _ => ⟨w,rfl⟩⟩

theorem Loads.unasked {host : Host World} (taken : Bool) : Loads host taken p p :=
  Loads.refused taken p.runtime.data.world

theorem loads_setLoadedSequence (seq : LoadedSequence) (active : Option String) (w : World) :
    Triple (fun q => q = p.withWorld w) (setLoadedSequence sv seq active)
      (fun _ => Loads sv.host true p) (fun _ => Loads sv.host true p) := by
  intro n q hq
  subst hq
  rw [run_setLoadedSequence]
  by_cases hrun : p.runtime.ctl.state = .running
  · rw [if_pos (show (p.withWorld w).runtime.ctl.state = .running from hrun)]
    exact Loads.refused true w
  · rw [if_neg (show (p.withWorld w).runtime.ctl.state ≠ .running from hrun)]
    exact ⟨.loaded w seq active hrun,fun h => nomatch h⟩

theorem loads_loadText (text source sourceKind : String) (w : World) :
    Triple (fun q => q = p.withWorld w) (loadText sv text source sourceKind)
      (fun _ => Loads sv.host (readsSequence sv text source w) p)
      (fun _ => Loads sv.host (readsSequence sv text source w) p) := by
  intro n q hq
  subst hq
  simp only [loadText,run_bind,run_callOut]
  cases hf : sv.loadSequenceText text source w with
  | mk r w' =>
    have hf' : sv.loadSequenceText text source (p.withWorld w).runtime.data.world = (r,w') := hf
    rw [hf']
    cases r with
    | error e => exact Loads.refused _ w'
    | ok spec =>
      cases spec with
      | error message => exact Loads.refused _ w'
      | ok spec =>
        have hreads : readsSequence sv text source w = true := by simp [readsSequence,hf]
        rw [hreads]
        have hload : Triple (fun q => q = p.withWorld w') (do
            setLoadedSequence sv ⟨spec,text,source,sourceKind⟩ none
            pure (RpcReply.ok "loaded")) (fun _ => Loads sv.host true p)
            (fun _ => Loads sv.host true p) :=
          .bind (loads_setLoadedSequence sv _ none w') fun _ =>
            .pure fun _ h => h
        exact hload n _ rfl

theorem loads_rpcSequencerLoad (raw : Value) : Triple (fun q => q = p) (rpcSequencerLoad sv raw)
      (fun _ => Loads sv.host (loadsText sv p raw) p)
      (fun _ => Loads sv.host (loadsText sv p raw) p) := by
  unfold rpcSequencerLoad loadsText
  cases readParams raw with
  | none => exact .pure fun q hq => hq ▸ Loads.unasked _
  | some params =>
    dsimp only
    split
    · intro n q hq
      subst hq
      simp only [run_bind,run_attempt,run_callOut]
      cases sv.readText ((getD params "path" .none).text sv.host.py.repr) q.runtime.data.world with
      | mk r w =>
        cases r with
        | error e => exact Loads.refused _ w
        | ok text =>
          exact loads_loadText sv text ((getD params "path" .none).text sv.host.py.repr) "path" w n
            (q.withWorld w) rfl
    · refine .ite (fun htext => ?_) fun htext => ?_
      · rw [htext,Bool.true_and]
        refine (loads_loadText sv _ "sequence_yaml" "rpc" p.runtime.data.world).pre fun q hq => ?_
        rw [hq]
        rfl
      · exact .pure fun q hq => hq ▸ Loads.unasked _

theorem loads_rpcSequencerLibraryLoad (raw : Value) :
    Triple (fun q => q = p) (rpcSequencerLibraryLoad sv raw)
      (fun _ => Loads sv.host (loadsLibrary sv p raw) p)
      (fun _ => Loads sv.host (loadsLibrary sv p raw) p) := by
  unfold rpcSequencerLibraryLoad
  cases hparams : readParams raw with
  | none => exact .pure fun q hq => hq ▸ Loads.unasked _
  | some params =>
    refine .ite (fun _ => .pure fun q hq => hq ▸ Loads.unasked _) fun _ => ?_
    refine .bind (Q := fun q' q => q' = p ∧ q = p) (.get fun q hq => ⟨hq,hq⟩)
      fun q' => .given fun hq' => ?_
    subst hq'
    cases hlibrary : q'.sequenceLibrary with
    | none => exact .pure fun q hq => hq ▸ Loads.unasked _
    | some library =>
      cases hentry : library.getEntry sv.host.py (libraryIdText sv.host.py params) with
      | error e =>
        intro n q hq
        subst hq
        simp only [run_bind,run_attempt,orRaise,run_ofFun,hentry]
        exact Loads.unasked _
      | ok entry =>
        have htaken : loadsLibrary sv q' raw = true := by
          simp [loadsLibrary,hparams,hlibrary,hentry,Except.isOk,Except.toBool]
        rw [htaken]
        intro n q hq
        subst hq
        simp only [run_bind,run_attempt,orRaise,run_ofFun,hentry,setLoadedSequenceFromLibraryEntry]
        have hload := loads_setLoadedSequence sv entry.sequence (some entry.sequenceId)
          q.runtime.data.world n q rfl
        cases hrun : (setLoadedSequence sv entry.sequence (some entry.sequenceId)).run n q with
        | ok u r =>
          rw [hrun] at hload
          exact hload
        | raised e r =>
          rw [hrun] at hload
          exact hload
        | diverged => trivial

end

/-- What can come in at a process: what its runtime can be asked, the requests that load a
sequence or start a run, and a new library. -/
inductive ProcessRequest where
  | request (r : Request)
  | start (params : Value)
  | load (params : Value)
  | libraryLoad (params : Value)
  | libraryReload (library : Option SequenceLibrary)

def Serves (sv : Services World) (p q : ProcState World) : ProcessRequest → Prop
  | .request r => (onRuntime (r.perform sv.host)).Leaves p q
  | .start params => (rpcSequencerStart sv params).Leaves p q
  | .load params => (rpcSequencerLoad sv params).Leaves p q
  | .libraryLoad params => (rpcSequencerLibraryLoad sv params).Leaves p q
  | .libraryReload library => q = { p with sequenceLibrary := library }

/-- The request does not take the runtime over from a run in progress. -/
def Respects (sv : Services World) (p : ProcState World) : ProcessRequest → Prop
  | .start params => inProgress p.runtime.ctl →
      numbersRun sv p params = false ∧ loadsEntry sv p params = false
  | .load params => p.runtime.ctl.state = .paused → loadsText sv p params = false
  | .libraryLoad params => p.runtime.ctl.state = .paused → loadsLibrary sv p params = false
  | .request _ | .libraryReload _ => True

/-- One request is served, which respects the run in progress, and no failed trial has cut an
unwind or finally steps off by then. -/
def Step (sv : Services World) (p q : ProcState World) : Prop :=
  ∃ r, Respects sv p r ∧ Serves sv p q r ∧ .trialAborted true ∉ q.runtime.ctl.history

abbrev Steps (sv : Services World) : ProcState World → ProcState World → Prop :=
  Relation.ReflTransGen (Step sv)

/-- Every run in progress was begun by a start, and nothing has come between. -/
def Kept (host : Host World) (p : ProcState World) : Prop :=
  inProgress p.runtime.ctl → Settled p.runtime.ctl ∧ Stands host p.runtime

section
variable {sv : Services World} {p q : ProcState World}

variable {host : Host World}

theorem kept_idle (h : ¬ inProgress p.runtime.ctl) : Kept host p :=
  fun hon => absurd hon h

theorem not_inProgress {c : Ctl} (state : RunState) (h : c.state = state)
    (hrun : state ≠ .running) (hpaused : state ≠ .paused) : ¬ inProgress c := by
  rintro (hon | hon)
  · exact hrun (h.symm.trans hon)
  · exact hpaused (h.symm.trans hon)

theorem Kept.withWorld (h : Kept host p) (w : World) : Kept host (p.withWorld w) := by
  intro hon
  obtain ⟨hsettled,hrest,hdata⟩ := h hon
  exact ⟨hsettled,hrest,hdata.same rfl⟩

theorem stands_started (host : Host World) (asked : Option SequenceLibraryEntry)
    (spec : SequenceSpec) (checked : (LoopMode × Option Int) × Env)
    (modes : OrderedDict String String) :
    Settled (p.started host asked spec checked modes).runtime.ctl ∧
      Stands host (p.started host asked spec checked modes).runtime := by
  have hbegun : Begun (p.started host asked spec checked modes).runtime.ctl :=
    ⟨⟨spec.steps,rfl⟩,rfl,rfl,rfl,rfl⟩
  refine ⟨hbegun.settled,⟨Sound.quit (by rw [hbegun.state]; simp) hbegun.pending,
    occupied_of_none hbegun.pending⟩,?_⟩
  exact (@free_clearWaits World host _).orderly host

theorem restored_not_inProgress (previous : Option Snapshot)
    (h : ¬ inProgress p.runtime.ctl) : ¬ inProgress (p.restored host previous).runtime.ctl := by
  cases previous with
  | none => exact h
  | some snapshot =>
    rw [ProcState.restored,if_neg fun hrun => h (.inl hrun)]
    exact not_inProgress .idle rfl (by simp) (by simp)

theorem taken_not_inProgress (asked : Option SequenceLibraryEntry)
    (h : ¬ inProgress p.runtime.ctl) : ¬ inProgress (p.taken host asked).runtime.ctl := by
  cases asked with
  | none => exact h
  | some entry => exact not_inProgress .idle rfl (by simp) (by simp)

variable {raw : Value}

theorem StartOutcome.kept {reply : RpcReply} (h : StartOutcome sv p raw reply q)
    (hidle : ¬ inProgress p.runtime.ctl) : Kept sv.host q := by
  cases h with
  | refused => exact kept_idle hidle
  | @unnumbered asked =>
    exact kept_idle (restored_not_inProgress _ (taken_not_inProgress asked hidle))
  | @overrideRefused asked params =>
    exact kept_idle (restored_not_inProgress _ (taken_not_inProgress asked hidle))
  | unmet =>
    exact kept_idle (restored_not_inProgress _
      (not_inProgress .error rfl (by simp) (by simp)))
  | @unanswered asked params h hn hanswer spec checked modes w =>
    rw [restored_running sv _ _ rfl]
    exact Kept.withWorld (fun _ => stands_started sv.host asked spec checked modes) w
  | @running asked params h hn spec checked modes w =>
    exact Kept.withWorld (fun _ => stands_started sv.host asked spec checked modes) w

theorem leaves_start (h : (rpcSequencerStart sv raw).Leaves p q) :
    ∃ reply, StartOutcome sv p raw reply q := by
  obtain ⟨n,h⟩ := h
  obtain ⟨reply,q',hrun,houtcome⟩ := rpcSequencerStart_outcome sv n p raw
  rw [hrun] at h
  rcases h with ⟨_,h⟩ | ⟨_,h⟩
  · cases h
    exact ⟨reply,houtcome⟩
  · cases h

theorem leaves_load (h : (rpcSequencerLoad sv raw).Leaves p q) :
    Loads sv.host (loadsText sv p raw) p q :=
  (loads_rpcSequencerLoad sv raw).leaves rfl h

theorem leaves_libraryLoad (h : (rpcSequencerLibraryLoad sv raw).Leaves p q) :
    Loads sv.host (loadsLibrary sv p raw) p q :=
  (loads_rpcSequencerLibraryLoad sv raw).leaves rfl h

theorem leaves_request {r : Request} (h : (onRuntime (r.perform sv.host)).Leaves p q) :
    Sequencer.Serves sv.host p.runtime q.runtime := by
  obtain ⟨n,h⟩ := h
  refine ⟨r,n,?_⟩
  simp only [onRuntime,run_zoom] at h
  cases hrun : (r.perform sv.host).run n p.runtime with
  | ok a s =>
    rw [hrun] at h
    rcases h with ⟨_,h⟩ | ⟨_,h⟩
    · cases h
      exact .inl ⟨a,rfl⟩
    · cases h
  | raised e s =>
    rw [hrun] at h
    rcases h with ⟨_,h⟩ | ⟨_,h⟩
    · cases h
    · cases h
      exact .inr ⟨e,rfl⟩
  | diverged =>
    rw [hrun] at h
    rcases h with ⟨_,h⟩ | ⟨_,h⟩ <;> cases h

theorem Loads.kept {taken : Bool} (h : Loads host taken p q) (hk : Kept host p) : Kept host q := by
  cases h.1 with
  | refused w => exact hk.withWorld w
  | loaded => exact kept_idle (not_inProgress .idle rfl (by simp) (by simp))

theorem Loads.untouched {taken : Bool} (h : Loads host taken p q)
    (hon : inProgress p.runtime.ctl) (hr : p.runtime.ctl.state = .paused → taken = false) :
    q.runtime.ctl = p.runtime.ctl := by
  rcases hon with hrun | hpaused
  · cases h.1 with
    | refused => rfl
    | loaded _ _ _ hno => exact absurd hrun hno
  · obtain ⟨w,rfl⟩ := h.2 (hr hpaused)
    rfl

theorem request_idle (sv : Services World) {r : Request} {s s' : RtState World} (hidle : ¬ inProgress s.ctl)
    (h : (r.perform sv.host).Leaves s s') : ¬ inProgress s'.ctl := by
  have hperform : Triple (fun t => t.ctl.state = s.ctl.state) (r.perform sv.host)
      (fun _ t => t.ctl.state = s.ctl.state) (fun _ t => t.ctl.state = s.ctl.state) := by
    have hoff : ∀ state, state = s.ctl.state → state ≠ .running ∧ state ≠ .paused :=
      fun state hs => ⟨fun h => hidle (.inl (hs.symm.trans h)),fun h => hidle (.inr (hs.symm.trans h))⟩
    cases r with
    | tick =>
      intro n t ht
      simp only [Request.perform,run_bind,run_tick_idle sv.host (hoff _ ht).1]
      exact ht
    | pause => exact .modify fun t ht => ht
    | resume =>
      refine .modify fun t ht => ?_
      simp only [(hoff _ ht).2,if_false]
      exact ht
    | stop =>
      refine .modify fun t ht => ?_
      simp only [(hoff _ ht).2,if_false]
      exact ht
    | fail reason =>
      intro n t ht
      simp [Request.perform,Sequencer.fail,run_bind,getCtl,getData,run_ofFun,
        (hoff _ ht).1,(hoff _ ht).2]
      exact ht
    | output payload => exact .modify fun t ht => ht
  have hstate : s'.ctl.state = s.ctl.state := hperform.leaves rfl h
  unfold inProgress
  rw [hstate]
  exact hidle

theorem Step.untouched {r : ProcessRequest} (hon : inProgress p.runtime.ctl)
    (hr : Respects sv p r) (h : Serves sv p q r) (hrpc : ∀ req, r ≠ .request req) :
    q.runtime.ctl = p.runtime.ctl := by
  cases r with
  | request req => exact absurd rfl (hrpc req)
  | start params =>
    obtain ⟨hn,hl⟩ := hr hon
    obtain ⟨reply,houtcome⟩ := leaves_start h
    rw [houtcome.untouched hn hl]
  | load params => exact (leaves_load h).untouched hon hr
  | libraryLoad params => exact (leaves_libraryLoad h).untouched hon hr
  | libraryReload library =>
    obtain rfl : q = _ := h
    rfl

theorem Step.kept (h : Step sv p q) (hk : Kept sv.host p) : Kept sv.host q := by
  obtain ⟨r,hr,hserve,hclean⟩ := h
  cases r with
  | request req =>
    have hruntime := leaves_request hserve
    by_cases hon : inProgress p.runtime.ctl
    · obtain ⟨hsettled,hstands⟩ := hk hon
      refine fun _ => ⟨?_,?_⟩
      · exact (Run.moves (.single hruntime)).keepUntil Ctl.Move.settled hclean hsettled
      · rcases hruntime.stands hstands with h | h
        · exact h
        · exact absurd h hclean
    · obtain ⟨req',hreq'⟩ := hruntime
      exact kept_idle (request_idle sv hon hreq')
  | start params =>
    obtain ⟨reply,houtcome⟩ := leaves_start hserve
    by_cases hon : inProgress p.runtime.ctl
    · obtain ⟨hn,hl⟩ := hr hon
      rw [houtcome.untouched hn hl]
      exact hk
    · exact houtcome.kept hon
  | load params => exact (leaves_load hserve).kept hk
  | libraryLoad params => exact (leaves_libraryLoad hserve).kept hk
  | libraryReload library =>
    obtain rfl : q = _ := hserve
    exact hk

theorem Steps.kept (h : Steps sv p q) (hk : Kept sv.host p) : Kept sv.host q := by
  induction h with
  | refl => exact hk
  | tail _ hstep ih => exact hstep.kept ih

def RunEnds (p q : ProcState World) : Prop :=
  Moves p.runtime.ctl q.runtime.ctl ∧ q.runtime.ctl.state.terminal = true ∧
    FinallyDone q.runtime.ctl.history

theorem Step.goesOn (h : Step sv p q) (hk : Kept sv.host p) (hon : inProgress p.runtime.ctl) :
    (inProgress q.runtime.ctl ∧ Moves p.runtime.ctl q.runtime.ctl) ∨ RunEnds p q := by
  obtain ⟨hsettled,hstands⟩ := hk hon
  obtain ⟨r,hr,hserve,hclean⟩ := h
  by_cases hrpc : ∀ req, r ≠ .request req
  · have hsame := Step.untouched hon hr hserve hrpc
    rw [hsame]
    exact .inl ⟨hon,.refl⟩
  · push Not at hrpc
    obtain ⟨req,rfl⟩ := hrpc
    have hruntime := leaves_request hserve
    have hmoves := Run.moves (.single hruntime)
    have hbegun : q.runtime.ctl.state ≠ .idle := by
      rcases hruntime.stands hstands with h | h
      · exact h.1.1.begun
      · exact absurd h hclean
    have hq := hmoves.keepUntil Ctl.Move.settled hclean hsettled
    cases hstate : q.runtime.ctl.state with
    | idle => exact absurd hstate hbegun
    | running => exact .inl ⟨.inl hstate,hmoves⟩
    | paused => exact .inl ⟨.inr hstate,hmoves⟩
    | stopped | error =>
      have hterm : q.runtime.ctl.state.terminal = true := by rw [hstate]; rfl
      exact .inr ⟨hmoves,hterm,hq.accounted.done (hq.still hterm).1⟩

end

/-- In every run of a process in which no request takes the runtime over from a run in
progress and no failed trial cuts an unwind or finally steps off: a run that is in progress
stays so, or on the way it has come to a terminal state of its own with its finally steps
done. No request but one to the runtime changes anything of it. -/
theorem run_never_abandoned (sv : Services World) (library : Option SequenceLibrary) (w : World)
    (p q : ProcState World) (hreach : Steps sv (ProcState.new library w) p)
    (hon : inProgress p.runtime.ctl) (hrun : Steps sv p q) :
    ((inProgress q.runtime.ctl ∧ Moves p.runtime.ctl q.runtime.ctl) ∨
      ∃ t, Steps sv p t ∧ Steps sv t q ∧ RunEnds p t) ∧
    ∀ r q', inProgress q.runtime.ctl → Respects sv q r → Serves sv q q' r →
      (∀ req, r ≠ .request req) → q'.runtime.ctl = q.runtime.ctl := by
  have hnew : Kept sv.host (ProcState.new library w) :=
    kept_idle (not_inProgress .idle rfl (by simp) (by simp))
  have hp := Steps.kept hreach hnew
  refine ⟨?_,fun r q' => Step.untouched⟩
  induction hrun with
  | refl => exact .inl ⟨hon,.refl⟩
  | @tail t u hsteps hstep ih =>
    rcases ih with ⟨hgoing,hmoves⟩ | ⟨v,hpv,hvt,hends⟩
    · rcases hstep.goesOn (Steps.kept hsteps hp) hgoing with ⟨hgoes,hmove⟩ | ⟨hmove,hend⟩
      · exact .inl ⟨hgoes,hmoves.trans hmove⟩
      · exact .inr ⟨u,hsteps.tail hstep,.refl,hmoves.trans hmove,hend⟩
    · exact .inr ⟨v,hpv,hvt.tail hstep,hends⟩

def left {α : Type} (n : Nat) (x : PR World α) (p : ProcState World) : Option (ProcState World) :=
  match x.run n p with
  | .ok _ q | .raised _ q => some q
  | .diverged => none

theorem left_leaves {α : Type} {n : Nat} {x : PR World α} {p q : ProcState World}
    (h : left n x p = some q) : x.Leaves p q := by
  unfold left at h
  cases hrun : x.run n p with
  | ok a q' =>
    rw [hrun] at h
    cases h
    exact ⟨n,.inl ⟨a,hrun⟩⟩
  | raised e q' =>
    rw [hrun] at h
    cases h
    exact ⟨n,.inr ⟨e,hrun⟩⟩
  | diverged =>
    rw [hrun] at h
    cases h

def oneSequence : SequenceLibrary :=
  OrderedDict.empty.set "scan" ⟨"scan","scan.yaml","version: 1",
    { vars := .empty, steps := [.try_ [.pause none false] [switch "off"] false] }⟩

def scanParams : Value := .dict false [("sequence_id",.str "scan")]

def tickProcess : PR Unit Unit := onRuntime (Request.perform Host.quiet .tick)

theorem failed_run_ends : ∃ p q : ProcState Unit,
    Steps Services.quiet (ProcState.new (some oneSequence) ()) p ∧ inProgress p.runtime.ctl ∧
    Steps Services.quiet p q ∧ ∃ t, Steps Services.quiet p t ∧ RunEnds p t := by
  have hrun : ((left 9 (rpcSequencerStart Services.quiet scanParams)
      (ProcState.new (some oneSequence) ())).bind fun p =>
      (left 9 (onRuntime (Request.perform Host.quiet (.fail "interlock"))) p).map fun q =>
      (p.runtime.ctl.state,noAbort p.runtime.ctl.history,q.runtime.ctl.state,
        noAbort q.runtime.ctl.history)) = some (.running,true,.error,true) := by decide +kernel
  obtain ⟨p,hp,hrun⟩ := bind_eq_some_iff.1 hrun
  obtain ⟨q,hq,hfields⟩ := map_eq_some_iff.1 hrun
  simp only [Prod.mk.injEq] at hfields
  obtain ⟨hon,hpclean,hstate,hqclean⟩ := hfields
  have hreach : Steps Services.quiet (ProcState.new (some oneSequence) ()) p := by
    refine .single ⟨.start scanParams,fun hno => ?_,left_leaves hp,not_mem_of_noAbort hpclean⟩
    rcases hno with hno | hno <;> cases hno
  have hsteps : Steps Services.quiet p q :=
    .single ⟨.request (.fail "interlock"),trivial,left_leaves hq,not_mem_of_noAbort hqclean⟩
  refine ⟨p,q,hreach,.inl hon,hsteps,?_⟩
  rcases (run_never_abandoned Services.quiet (some oneSequence) () p q hreach (.inl hon)
    hsteps).1 with ⟨hgoing,_⟩ | ⟨t,hpt,_,hends⟩
  · rcases hgoing with h | h <;> simp [hstate] at h
  · exact ⟨t,hpt,hends⟩

abbrev Reaches (sv : Services World) : ProcState World → ProcState World → Prop :=
  Relation.ReflTransGen fun p q => ∃ r, Serves sv p q r

theorem load_drops_paused_run : ¬ ∀ p q : ProcState Unit,
    Reaches Services.quiet (ProcState.new (some oneSequence) ()) p → inProgress p.runtime.ctl →
    finallyOwed p.runtime.ctl.stack = true → Serves Services.quiet p q (.libraryLoad scanParams) →
    inProgress q.runtime.ctl ∨ q.runtime.ctl.state.terminal = true := by
  intro h
  have hrun : ((left 9 (rpcSequencerStart Services.quiet scanParams)
      (ProcState.new (some oneSequence) ())).bind fun p => (left 9 tickProcess p).bind fun p' =>
      (left 9 (rpcSequencerLibraryLoad Services.quiet scanParams) p').map fun q =>
      (p'.runtime.ctl.state,finallyOwed p'.runtime.ctl.stack,q.runtime.ctl.state)) =
        some (.paused,true,.idle) := by decide +kernel
  obtain ⟨p,hp,hrun⟩ := bind_eq_some_iff.1 hrun
  obtain ⟨p',hp',hrun⟩ := bind_eq_some_iff.1 hrun
  obtain ⟨q,hq,hfields⟩ := map_eq_some_iff.1 hrun
  simp only [Prod.mk.injEq] at hfields
  obtain ⟨hpaused,howed,hidle⟩ := hfields
  have hreach : Reaches Services.quiet (ProcState.new (some oneSequence) ()) p' :=
    .tail (.single ⟨.start scanParams,left_leaves hp⟩) ⟨.request .tick,left_leaves hp'⟩
  rcases h p' q hreach (.inr hpaused) howed (left_leaves hq) with (h | h) | h
  · simp [hidle] at h
  · simp [hidle] at h
  · simp [hidle,RunState.terminal] at h

end ExperimentControl.Sequencer.Process

import ExperimentControl.Sequencer.Process
import ExperimentControl.Sequencer.Fault

/-!
A start that is refused: how far it has come by then, what is put back and what the
process has changed all the same.
-/

namespace ExperimentControl.Sequencer
open Lib Python Ctl Prog Option

variable {World : Type}

def RtState.afterLoad (host : Host World) (spec : SequenceSpec) (s : RtState World) :
    RtState World :=
  ⟨s.ctl.loadSpec spec (resolveVars host.py spec.vars),
    resetWaits host { s.data with adaptiveStartModes := .empty }⟩

/-- The arguments that `start` checks before it numbers the run. -/
def checkStartArgs (host : Host World) (spec : SequenceSpec) (args : StartArgs) :
    Except PyExc ((LoopMode × Option Int) × Env) := do
  let loops ← readLoops host args
  let overrides ← readVarsOverride spec args.varsOverride
  pure (loops,overrides)

def RtState.numbered (host : Host World) (spec : SequenceSpec)
    (checked : (LoopMode × Option Int) × Env) (s : RtState World) : RtState World :=
  ⟨s.ctl.startRun checked.1.1 checked.1.2 (resolveVars host.py (spec.vars.update checked.2))
    spec.steps,{ s.data with runId := s.data.runId+1 }⟩

def RtState.begun (host : Host World) (modes : OrderedDict String String) (s : RtState World) :
    RtState World :=
  ⟨s.ctl.enterRun,resetWaits host { s.data with adaptiveStartModes := modes }⟩

def RtState.failed (host : Host World) (reason : String) (s : RtState World) : RtState World :=
  ⟨Ctl.setError (faultText reason)
    { s.ctl with pauseRequested := false, stopRequested := false, activeStep := none },
    clearWaits host s.data⟩

section
variable (host : Host World) (n : Nat) (s : RtState World)

theorem run_load (spec : SequenceSpec) : (load host spec).run n s =
      if s.ctl.state = .running then .raised ⟨.runtimeError,"Cannot load while running"⟩ s
      else .ok () (s.afterLoad host spec) := by
  simp only [load,run_bind,getCtl,run_ofFun]
  split
  · rfl
  · rfl

theorem run_start (args : StartArgs) : (start host args).run n s =
      match s.ctl.spec with
      | none => .raised ⟨.runtimeError,"No sequence loaded"⟩ s
      | some spec =>
        match checkStartArgs host spec args with
        | .error e => .raised e s
        | .ok checked =>
          match normalizeStartModes host.py args.adaptive with
          | .error e => .raised e (s.numbered host spec checked)
          | .ok modes => .ok () ((s.numbered host spec checked).begun host modes) := by
  simp only [start,run_bind,getCtl,run_ofFun]
  cases s.ctl.spec with
  | none => rfl
  | some spec =>
    simp only [checkStartArgs,onData,run_bind,run_zoom,except,run_ofFun]
    cases readLoops host args with
    | error e => rfl
    | ok loops =>
      cases readVarsOverride spec args.varsOverride with
      | error e => rfl
      | ok overrides =>
        cases normalizeStartModes host.py args.adaptive with
        | error e => rfl
        | ok modes => rfl

theorem run_beginTerminalUnwind (state : RunState) (error : Option String)
    (hpending : s.ctl.pending = none) (hwork : s.ctl.hasTerminalUnwindWork = false) :
    (beginTerminalUnwind host state error).run n s = .ok false s := by
  simp [beginTerminalUnwind,run_bind,getCtl,run_ofFun,hpending,hwork]

theorem run_fail (reason : String) (hstate : s.ctl.state = .running)
    (hparallel : s.data.parallelState = none) (hpending : s.ctl.pending = none)
    (hwork : s.ctl.hasTerminalUnwindWork = false) :
    (Sequencer.fail host reason).run n s = .ok () (s.failed host reason) := by
  have hbegin := run_beginTerminalUnwind host n
    ⟨{ s.ctl with pauseRequested := false, stopRequested := false },clearWaits host s.data⟩
    .error (some (faultText reason)) hpending hwork
  simp only [hpending,hstate] at hbegin
  simp only [Sequencer.fail,run_bind,getCtl,getData,run_ofFun,hstate,ne_eq,
    not_true_eq_false,decide_false,Bool.false_and,Bool.false_eq_true,if_false,move,change,
    run_modify,hparallel,isSome_none,hpending,hbegin]
  simp only [RtState.failed,hstate,hpending]

end

namespace Process

def ProcState.loadedAs (host : Host World) (seq : LoadedSequence) (active : Option String)
    (p : ProcState World) : ProcState World :=
  ProcState.record seq active
    { p with runtime := p.runtime.afterLoad host seq.spec.toSequenceSpec }

def ProcState.taken (host : Host World) (asked : Option SequenceLibraryEntry)
    (p : ProcState World) : ProcState World :=
  match asked with
  | none => p
  | some entry => p.loadedAs host entry.sequence (some entry.sequenceId)

def ProcState.numbered (host : Host World) (asked : Option SequenceLibraryEntry)
    (spec : SequenceSpec) (checked : (LoopMode × Option Int) × Env) (p : ProcState World) :
    ProcState World :=
  { p.taken host asked with runtime := (p.taken host asked).runtime.numbered host spec checked }

def ProcState.started (host : Host World) (asked : Option SequenceLibraryEntry)
    (spec : SequenceSpec) (checked : (LoopMode × Option Int) × Env)
    (modes : OrderedDict String String) (p : ProcState World) : ProcState World :=
  { p.taken host asked with
    runtime := ((p.taken host asked).runtime.numbered host spec checked).begun host modes }

def ProcState.restored (host : Host World) (previous : Option Snapshot) (p : ProcState World) :
    ProcState World :=
  match previous with
  | none => p
  | some snapshot =>
    if p.runtime.ctl.state = .running then p
    else { p.loadedAs host snapshot.sequence snapshot.activeSequenceId with
      loadedRunId := snapshot.runId }

def checkStart (host : Host World) (spec : Option SequenceSpec) (params : Entries) :
    Except PyExc (StartArgs × SequenceSpec × (LoopMode × Option Int) × Env) := do
  let args ← readStartArgs params
  match spec with
  | none => .error ⟨.runtimeError,"No sequence loaded"⟩
  | some spec => do
    let checked ← checkStartArgs host spec args
    pure (args,spec,checked)

section
variable (sv : Services World) (n : Nat) (p : ProcState World)

theorem run_setLoadedSequence (seq : LoadedSequence) (active : Option String) :
    (setLoadedSequence sv seq active).run n p = if p.runtime.ctl.state = .running then
        .raised ⟨.runtimeError,"Cannot load while running"⟩ p
      else .ok () (p.loadedAs sv.host seq active) := by
  simp only [setLoadedSequence,onRuntime,run_bind,run_zoom,run_load]
  by_cases hrun : p.runtime.ctl.state = .running
  · simp only [hrun,if_true]
  · simp only [hrun,if_false]
    rfl

theorem run_restoreLoadedSequence (previous : Option Snapshot) :
    (restoreLoadedSequence sv previous).run n p = .ok () (p.restored sv.host previous) := by
  cases previous with
  | none => rfl
  | some snapshot =>
    simp only [restoreLoadedSequence,run_bind,run_attempt,run_setLoadedSequence,ProcState.restored]
    by_cases hrun : p.runtime.ctl.state = .running
    · simp only [hrun,if_true]
      rfl
    · simp only [hrun,if_false]
      rfl

theorem run_attemptStart (asked : Option SequenceLibraryEntry) (params : Entries) :
    (attemptStart sv asked params).run n p = if asked.isSome ∧ p.runtime.ctl.state = .running then
        .raised ⟨.runtimeError,"Cannot load while running"⟩ p
      else
        match checkStart sv.host (p.taken sv.host asked).runtime.ctl.spec params with
        | .error e => .raised e (p.taken sv.host asked)
        | .ok (args,spec,checked) =>
          match normalizeStartModes sv.host.py args.adaptive with
          | .error e => .raised e (p.numbered sv.host asked spec checked)
          | .ok modes =>
            (checkStartPreconditions sv).run n (p.started sv.host asked spec checked modes) := by
  have hrest : ∀ q : ProcState World, ((do
      let args ← orRaise (readStartArgs params)
      onRuntime (Sequencer.start sv.host args)
      checkStartPreconditions sv : PR World (Option String))).run n q =
      match checkStart sv.host q.runtime.ctl.spec params with
      | .error e => .raised e q
      | .ok (args,spec,checked) =>
        match normalizeStartModes sv.host.py args.adaptive with
        | .error e => .raised e { q with runtime := q.runtime.numbered sv.host spec checked }
        | .ok modes => (checkStartPreconditions sv).run n { q with
            runtime := (q.runtime.numbered sv.host spec checked).begun sv.host modes } := by
    intro q
    simp only [orRaise,onRuntime,run_bind,run_ofFun,run_zoom,checkStart]
    cases readStartArgs params with
    | error e => rfl
    | ok args =>
      simp only [run_start]
      cases q.runtime.ctl.spec with
      | none => rfl
      | some spec =>
        cases hcheck : checkStartArgs sv.host spec args with
        | error e => simp only [bind,Except.bind,hcheck]
        | ok checked =>
          simp only [bind,Except.bind,hcheck,pure,Except.pure]
          cases normalizeStartModes sv.host.py args.adaptive with
          | error e => rfl
          | ok modes => rfl
  cases asked with
  | none =>
    simp only [isSome_none,Bool.false_eq_true,false_and,if_false]
    exact hrest p
  | some entry =>
    simp only [attemptStart,setLoadedSequenceFromLibraryEntry,run_bind (setLoadedSequence _ _ _),
      run_setLoadedSequence]
    by_cases hrun : p.runtime.ctl.state = .running
    · simp only [hrun,if_true,isSome_some,and_self]
    · simp only [hrun,if_false,and_false]
      exact hrest _

def ProcState.withWorld (p : ProcState World) (w : World) : ProcState World :=
  { p with runtime.data.world := w }

theorem run_callOut {α : Type} (f : Callback World α) : (callOut f).run n p =
      match f p.runtime.data.world with
      | (.ok a,w) => .ok a (p.withWorld w)
      | (.error e,w) => .raised e (p.withWorld w) := by
  simp only [callOut,onRuntime,onData,ask,run_zoom,run_ofFun]
  cases hf : f p.runtime.data.world with
  | mk r w =>
    cases r with
    | ok a => rfl
    | error e => rfl

structure Unstarted (s : RtState World) : Prop where
  state : s.ctl.state = .running
  parallel : s.data.parallelState = none
  pending : s.ctl.pending = none
  work : s.ctl.hasTerminalUnwindWork = false

def Answering : Prop :=
  (∀ w, ∃ resp, (sv.hdfStatus w).1 = .ok resp) ∧
    ∀ spec vars w, ∃ missing, (sv.checkDevicesConnected spec vars w).1 = .ok missing

theorem run_failStart (reason : String) (h : Unstarted p.runtime) : (failStart sv reason).run n p =
      .ok (some reason) { p with runtime := p.runtime.failed sv.host reason } := by
  simp only [failStart,onRuntime,run_bind,run_zoom,
    run_fail sv.host n p.runtime reason h.state h.parallel h.pending h.work]
  rfl

/-- How `_check_start_preconditions` can end: the preconditions hold, one is not met, or one
of the two that are asked does not answer. -/
def Checked (x : PR World (Option String)) (q : ProcState World) : Prop :=
  ∃ w, x.run n q = .ok none (p.withWorld w) ∨
    (∃ reason, x.run n q = .ok (some reason)
      { p with runtime := (p.withWorld w).runtime.failed sv.host reason }) ∨
    ∃ e, x.run n q = .raised e (p.withWorld w) ∧ ¬ Answering sv

theorem checked_failStart (h : Unstarted p.runtime) (reason : String) (w : World) :
    Checked sv n p (failStart sv reason) (p.withWorld w) :=
  ⟨w,.inr (.inl ⟨reason,run_failStart sv n (p.withWorld w) reason
    ⟨h.state,h.parallel,h.pending,h.work⟩⟩)⟩

theorem checked_devices (h : Unstarted p.runtime) (spec : ParsedSequence) (w : World) :
    Checked sv n p (do
      let q ← Prog.get
      let missing ← callOut (sv.checkDevicesConnected spec q.runtime.ctl.vars)
      if missing.isEmpty then pure none else failStart sv (devicesNotConnected missing))
      (p.withWorld w) := by
  unfold Checked
  simp only [run_bind,run_get,run_callOut]
  cases hf : sv.checkDevicesConnected spec p.runtime.ctl.vars w with
  | mk r w' =>
    have hf' : sv.checkDevicesConnected spec (p.withWorld w).runtime.ctl.vars
      (p.withWorld w).runtime.data.world = (r,w') := hf
    rw [hf']
    cases r with
    | error e =>
      refine ⟨w',.inr (.inr ⟨e,rfl,fun hanswer => ?_⟩)⟩
      obtain ⟨missing,hok⟩ := hanswer.2 spec p.runtime.ctl.vars w
      rw [hf] at hok
      cases hok
    | ok missing =>
      cases hmissing : missing.isEmpty with
      | true =>
        refine ⟨w',.inl ?_⟩
        simp only [hmissing,if_true]
        rfl
      | false =>
        obtain ⟨w'',hfail⟩ := checked_failStart sv n p h (devicesNotConnected missing) w'
        refine ⟨w'',?_⟩
        simp only [hmissing,Bool.false_eq_true,if_false]
        exact hfail

theorem Checked.of_run {x y : PR World (Option String)} {q r : ProcState World}
    (hy : Checked sv n p y r) (h : x.run n q = y.run n r) : Checked sv n p x q := by
  unfold Checked
  rw [h]
  exact hy

theorem checked_checkStartPreconditions (h : Unstarted p.runtime) :
    Checked sv n p (checkStartPreconditions sv) p := by
  cases hloaded : p.loadedSequence with
  | none =>
    refine ⟨p.runtime.data.world,.inl ?_⟩
    simp only [checkStartPreconditions,run_bind,run_get,hloaded]
    rfl
  | some seq =>
    by_cases hrequired : seq.spec.requireHdfWriting = true
    · cases hf : sv.hdfStatus p.runtime.data.world with
      | mk r w =>
        cases r with
        | error e =>
          refine ⟨w,.inr (.inr ⟨e,?_,fun hanswer => ?_⟩)⟩
          · simp only [checkStartPreconditions,run_bind,run_get,hloaded,hrequired,
              if_true,run_callOut,hf]
          · obtain ⟨resp,hok⟩ := hanswer.1 p.runtime.data.world
            rw [hf] at hok
            cases hok
        | ok resp =>
          cases hwriting : writingActive resp with
          | true =>
            refine (checked_devices sv n p h seq.spec w).of_run sv n p ?_
            simp only [checkStartPreconditions,run_bind,run_get,hloaded,hrequired,
              if_true,run_callOut,hf,run_pure,hwriting,Bool.not_true,Bool.false_eq_true,if_false]
          | false =>
            refine (checked_failStart sv n p h hdfNotWriting w).of_run sv n p ?_
            simp only [checkStartPreconditions,run_bind,run_get,hloaded,hrequired,
              if_true,run_callOut,hf,run_pure,hwriting,Bool.not_false]
    · refine (checked_devices sv n p h seq.spec p.runtime.data.world).of_run sv n p ?_
      simp only [checkStartPreconditions,run_bind,run_get,hloaded,hrequired,if_false,
        run_pure,Bool.not_true,Bool.false_eq_true]
      rfl

end

def accepted (sv : Services World) (p : ProcState World) (raw : Value) :
    Option (Option SequenceLibraryEntry × Entries) := do
  let params ← readParams raw
  let asked ← (askedEntry sv.host.py p.sequenceLibrary params).toOption
  if asked.isSome && p.runtime.ctl.state = .running then none else some (asked,params)

def ProcState.specFor (asked : Option SequenceLibraryEntry) (p : ProcState World) :
    Option SequenceSpec :=
  match asked with
  | none => p.runtime.ctl.spec
  | some entry => some entry.spec.toSequenceSpec

def loadsEntry (sv : Services World) (p : ProcState World) (raw : Value) : Bool :=
  match accepted sv p raw with
  | some (some _,_) => true
  | _ => false

def numbersRun (sv : Services World) (p : ProcState World) (raw : Value) : Bool :=
  match accepted sv p raw with
  | some (asked,params) => (checkStart sv.host (p.specFor asked) params).isOk
  | none => false

def overrideAccepted (sv : Services World) (raw : Value) : Bool :=
  match readParams raw with
  | some params =>
    match readAdaptive params with
    | .ok v => (normalizeStartModes sv.host.py v).isOk
    | .error _ => false
  | none => false

def previousOf (asked : Option SequenceLibraryEntry) (p : ProcState World) : Option Snapshot :=
  if asked.isSome then loadedSequenceSnapshot p else none

inductive StartOutcome (sv : Services World) (p : ProcState World) (raw : Value) :
    RpcReply → ProcState World → Prop
  | refused (h : accepted sv p raw = none) (code : String) (message : Option String) :
      StartOutcome sv p raw (.err code message) p
  | unnumbered {asked : Option SequenceLibraryEntry} {params : Entries}
      (h : accepted sv p raw = some (asked,params)) (hn : numbersRun sv p raw = false)
      (message : Option String) :
      StartOutcome sv p raw (.err "start_failed" message)
        ((p.taken sv.host asked).restored sv.host (previousOf asked p))
  | overrideRefused {asked : Option SequenceLibraryEntry} {params : Entries}
      (h : accepted sv p raw = some (asked,params)) (hn : numbersRun sv p raw = true)
      (ho : overrideAccepted sv raw = false) (spec : SequenceSpec)
      (checked : (LoopMode × Option Int) × Env) (message : Option String) :
      StartOutcome sv p raw (.err "start_failed" message)
        ((p.numbered sv.host asked spec checked).restored sv.host (previousOf asked p))
  | unmet {asked : Option SequenceLibraryEntry} {params : Entries}
      (h : accepted sv p raw = some (asked,params)) (hn : numbersRun sv p raw = true)
      (spec : SequenceSpec) (checked : (LoopMode × Option Int) × Env)
      (modes : OrderedDict String String) (w : World) (reason : String) :
      StartOutcome sv p raw (.err "start_failed" (some reason))
        (ProcState.restored sv.host (previousOf asked p)
          { p.started sv.host asked spec checked modes with
            runtime := ((p.started sv.host asked spec checked modes).withWorld w).runtime.failed
              sv.host reason })
  | unanswered {asked : Option SequenceLibraryEntry} {params : Entries}
      (h : accepted sv p raw = some (asked,params)) (hn : numbersRun sv p raw = true)
      (hanswer : ¬ Answering sv) (spec : SequenceSpec)
      (checked : (LoopMode × Option Int) × Env) (modes : OrderedDict String String) (w : World)
      (message : Option String) :
      StartOutcome sv p raw (.err "start_failed" message)
        (((p.started sv.host asked spec checked modes).withWorld w).restored sv.host
          (previousOf asked p))
  | running {asked : Option SequenceLibraryEntry} {params : Entries}
      (h : accepted sv p raw = some (asked,params)) (hn : numbersRun sv p raw = true)
      (spec : SequenceSpec) (checked : (LoopMode × Option Int) × Env)
      (modes : OrderedDict String String) (w : World) :
      StartOutcome sv p raw (.ok "running")
        { (p.started sv.host asked spec checked modes).withWorld w with
          loadedRunId := some (p.started sv.host asked spec checked modes).runtime.data.runId }

section
variable (sv : Services World) (n : Nat) (p : ProcState World)

variable {params : Entries}

theorem readStartArgs_adaptive {args : StartArgs}
    (h : readStartArgs params = .ok args) : readAdaptive params = .ok args.adaptive := by
  obtain ⟨continuous,_,h⟩ := bind_eq_ok h
  obtain ⟨varsOverride,_,h⟩ := bind_eq_ok h
  obtain ⟨adaptive,hadaptive,h⟩ := bind_eq_ok h
  cases h
  exact hadaptive

theorem checkStart_adaptive {host : Host World} {spec : Option SequenceSpec}
    {checked : StartArgs × SequenceSpec × (LoopMode × Option Int) × Env}
    (h : checkStart host spec params = .ok checked) :
    readAdaptive params = .ok checked.1.adaptive := by
  obtain ⟨args,hargs,h⟩ := bind_eq_ok h
  cases spec with
  | none => cases h
  | some spec =>
    obtain ⟨_,_,h⟩ := bind_eq_ok h
    cases h
    exact readStartArgs_adaptive hargs

theorem taken_spec (asked : Option SequenceLibraryEntry) :
    (p.taken sv.host asked).runtime.ctl.spec = p.specFor asked := by
  cases asked with
  | none => rfl
  | some entry => rfl

theorem unstarted_begun (s : RtState World) (spec : SequenceSpec)
    (checked : (LoopMode × Option Int) × Env) (modes : OrderedDict String String) :
    Unstarted ((s.numbered sv.host spec checked).begun sv.host modes) := by
  refine ⟨rfl,?_,rfl,rfl⟩
  simp only [RtState.begun,resetWaits,clearWaits,clearParallel]
  split
  · assumption
  · rfl

theorem run_rpcSequencerStart {raw : Value}
    {asked : Option SequenceLibraryEntry} (hparams : readParams raw = some params)
    (hasked : askedEntry sv.host.py p.sequenceLibrary params = .ok asked) :
    (rpcSequencerStart sv raw).run n p =
      match (attemptStart sv asked params).run n p with
      | .ok none q => .ok (.ok "running") { q with loadedRunId := some q.runtime.data.runId }
      | .ok (some reason) q => .ok (.err "start_failed" (some reason))
          (q.restored sv.host (previousOf asked p))
      | .raised e q => .ok (.err "start_failed" (some e.message))
          (q.restored sv.host (previousOf asked p))
      | .diverged => .diverged := by
  simp only [rpcSequencerStart,hparams,run_bind,run_get,hasked,run_attempt]
  cases (attemptStart sv asked params).run n p with
  | ok reason q =>
    cases reason with
    | none => rfl
    | some reason =>
      simp only [run_bind,run_restoreLoadedSequence]
      rfl
  | raised e q =>
    simp only [run_bind,run_restoreLoadedSequence]
    rfl
  | diverged => rfl

theorem restored_running (previous : Option Snapshot) (h : p.runtime.ctl.state = .running) :
    p.restored sv.host previous = p := by
  cases previous with
  | none => rfl
  | some snapshot => simp only [ProcState.restored,h,if_true]

theorem rpcSequencerStart_outcome (raw : Value) : ∃ reply q,
    (rpcSequencerStart sv raw).run n p = .ok reply q ∧ StartOutcome sv p raw reply q := by
  cases hparams : readParams raw with
  | none =>
    refine ⟨_,_,?_,.refused (by simp [accepted,hparams]) "invalid_params" none⟩
    simp only [rpcSequencerStart,hparams]
    rfl
  | some params =>
  cases hasked : askedEntry sv.host.py p.sequenceLibrary params with
  | error e =>
    refine ⟨_,_,?_,.refused (by simp [accepted,hparams,hasked,Except.toOption]) "start_failed"
      (some e.message)⟩
    simp only [rpcSequencerStart,hparams,run_bind,run_get,hasked]
    rfl
  | ok asked =>
  rw [run_rpcSequencerStart sv n p hparams hasked,run_attemptStart]
  by_cases hrefused : asked.isSome ∧ p.runtime.ctl.state = .running
  · rw [if_pos hrefused]
    refine ⟨_,_,?_,.refused ?_ "start_failed" (some "Cannot load while running")⟩
    · simp only [restored_running sv p _ hrefused.2]
    · simp [accepted,hparams,hasked,Except.toOption,hrefused]
  rw [if_neg hrefused,taken_spec]
  have haccepted : accepted sv p raw = some (asked,params) := by
    simp only [accepted,hparams,hasked,Except.toOption,bind,Option.bind]
    rw [if_neg]
    simpa using hrefused
  cases hcheck : checkStart sv.host (p.specFor asked) params with
  | error e =>
    exact ⟨_,_,rfl,.unnumbered haccepted (by simp [numbersRun,haccepted,hcheck,Except.isOk,Except.toBool]) _⟩
  | ok checked =>
    obtain ⟨args,spec,checked⟩ := checked
    have hnumbers : numbersRun sv p raw = true := by
      simp [numbersRun,haccepted,hcheck,Except.isOk,Except.toBool]
    cases hmodes : normalizeStartModes sv.host.py args.adaptive with
    | error e =>
      refine ⟨_,_,?_,.overrideRefused haccepted hnumbers ?_ spec checked (some e.message)⟩
      · simp only [hmodes]
      · simp [overrideAccepted,hparams,checkStart_adaptive hcheck,hmodes,Except.isOk,Except.toBool]
    | ok modes =>
      obtain ⟨w,hok | ⟨reason,hunmet⟩ | ⟨e,hraised,hanswer⟩⟩ := checked_checkStartPreconditions sv n
        (p.started sv.host asked spec checked modes) (unstarted_begun sv _ spec checked modes)
      · refine ⟨_,_,?_,.running haccepted hnumbers spec checked modes w⟩
        simp only [hmodes,hok]
        rfl
      · refine ⟨_,_,?_,.unmet haccepted hnumbers spec checked modes w reason⟩
        simp only [hmodes,hunmet]
      · refine ⟨_,_,?_,.unanswered haccepted hnumbers hanswer spec checked modes w (some e.message)⟩
        simp only [hmodes,hraised]

end

section
variable {host : Host World} {p q : ProcState World}

theorem clearWaits_runId (d : Data World) : (clearWaits host d).runId = d.runId := by
  simp only [clearWaits,clearParallel,clearSetContext]
  split <;> split <;> rfl

theorem loadedAs_runId (seq : LoadedSequence) (active : Option String) :
    (p.loadedAs host seq active).runtime.data.runId = p.runtime.data.runId :=
  clearWaits_runId _

theorem taken_runId (asked : Option SequenceLibraryEntry) :
    (p.taken host asked).runtime.data.runId = p.runtime.data.runId := by
  cases asked with
  | none => rfl
  | some entry => exact loadedAs_runId _ _

theorem restored_runId (previous : Option Snapshot) :
    (p.restored host previous).runtime.data.runId = p.runtime.data.runId := by
  cases previous with
  | none => rfl
  | some snapshot =>
    simp only [ProcState.restored]
    split
    · rfl
    · exact loadedAs_runId snapshot.sequence snapshot.activeSequenceId

theorem started_runId (asked : Option SequenceLibraryEntry) (spec : SequenceSpec)
    (checked : (LoopMode × Option Int) × Env) (modes : OrderedDict String String) :
    (p.started host asked spec checked modes).runtime.data.runId = p.runtime.data.runId+1 := by
  have h := @clearWaits_runId World host { (p.taken host asked).runtime.data with
    runId := (p.taken host asked).runtime.data.runId+1, adaptiveStartModes := modes, env := .empty }
  exact h.trans (congrArg (· + 1) (taken_runId asked))

variable {reply : RpcReply} {sv : Services World} {raw : Value}

theorem StartOutcome.runId (h : StartOutcome sv p raw reply q) :
    q.runtime.data.runId = p.runtime.data.runId + if numbersRun sv p raw then 1 else 0 := by
  cases h with
  | refused h => simp [numbersRun,h]
  | unnumbered _ hn => simp [hn,restored_runId,taken_runId]
  | overrideRefused _ hn =>
    rw [restored_runId]
    simp [hn,ProcState.numbered,RtState.numbered,taken_runId]
  | unmet _ hn spec checked modes w =>
    rw [restored_runId]
    simp only [hn,if_true,RtState.failed,clearWaits_runId]
    exact started_runId _ spec checked modes
  | unanswered _ hn _ spec checked modes w =>
    rw [restored_runId]
    simp only [hn,if_true]
    exact started_runId _ spec checked modes
  | running _ hn spec checked modes w =>
    simp only [hn,if_true]
    exact started_runId _ spec checked modes

structure LoadedAgain (host : Host World) (seq : LoadedSequence) (p q : ProcState World) : Prop where
  loaded : q.loadedSequence = some seq
  active : q.activeSequenceId = p.activeSequenceId
  runId : q.loadedRunId = p.loadedRunId
  spec : q.runtime.ctl.spec = some seq.spec.toSequenceSpec
  vars : q.runtime.ctl.vars = resolveVars host.py seq.spec.vars
  state : q.runtime.ctl.state = .idle

theorem restored_loadedAgain {seq : LoadedSequence} (hseq : p.loadedSequence = some seq)
    (hstate : q.runtime.ctl.state ≠ .running) :
    LoadedAgain host seq p (q.restored host (loadedSequenceSnapshot p)) := by
  simp only [loadedSequenceSnapshot,hseq,map_some,ProcState.restored,hstate,if_false]
  exact ⟨rfl,rfl,rfl,rfl,rfl,rfl⟩

theorem accepted_not_running {entry : SequenceLibraryEntry}
    {params : Entries} (h : accepted sv p raw = some (some entry,params)) :
    p.runtime.ctl.state ≠ .running := by
  intro hrun
  simp only [accepted,bind,bind_eq_some_iff] at h
  obtain ⟨params',_,asked,_,h⟩ := h
  split at h
  · cases h
  · rename_i hno
    obtain ⟨rfl,rfl⟩ : asked = some entry ∧ params' = params := by simpa using h
    simp [hrun] at hno

theorem StartOutcome.untouched
    (h : StartOutcome sv p raw reply q) (hn : numbersRun sv p raw = false)
    (hl : loadsEntry sv p raw = false) : q = p := by
  cases h with
  | refused => rfl
  | @unnumbered asked params h =>
    cases asked with
    | none => rfl
    | some entry => simp [loadsEntry,h] at hl
  | overrideRefused _ hnumbers | unmet _ hnumbers | unanswered _ hnumbers | running _ hnumbers =>
    simp [hn] at hnumbers

theorem StartOutcome.putBack (h : StartOutcome sv p raw reply q) (hn : numbersRun sv p raw = false)
    (hl : loadsEntry sv p raw = true) : p.runtime.ctl.state ≠ .running ∧
      (∀ seq, p.loadedSequence = some seq → LoadedAgain sv.host seq p q) ∧
      (p.loadedSequence = none → q.loadedSequence.isSome = true) := by
  cases h with
  | refused h => simp [loadsEntry,h] at hl
  | @unnumbered asked params h =>
    cases asked with
    | none => simp [loadsEntry,h] at hl
    | some entry =>
      refine ⟨accepted_not_running h,fun seq hseq => ?_,fun hnone => ?_⟩
      · exact restored_loadedAgain hseq (by simp [ProcState.taken,ProcState.loadedAs,
          ProcState.record,RtState.afterLoad,Ctl.loadSpec])
      · simp [previousOf,loadedSequenceSnapshot,hnone,ProcState.restored,ProcState.taken,
          ProcState.loadedAs,ProcState.record]
  | overrideRefused _ hnumbers | unmet _ hnumbers | unanswered _ hnumbers | running _ hnumbers =>
    simp [hn] at hnumbers

structure Unchanged (p q : ProcState World) : Prop where
  loaded : q.loadedSequence = p.loadedSequence
  active : q.activeSequenceId = p.activeSequenceId
  runId : q.runtime.data.runId = p.runtime.data.runId
  vars : q.runtime.ctl.vars = p.runtime.ctl.vars
  run : inProgress p.runtime.ctl → q.runtime.ctl.state = p.runtime.ctl.state ∧
    q.runtime.ctl.stack = p.runtime.ctl.stack ∧ q.runtime.data.env = p.runtime.data.env

end

section
variable {sv : Services World} {p q : ProcState World} {raw : Value} {reply : RpcReply}

theorem StartOutcome.failed (h : StartOutcome sv p raw reply q) (herr : reply.isError = true)
    (hn : numbersRun sv p raw = true) (ho : overrideAccepted sv raw = true)
    (hanswer : Answering sv) : (loadsEntry sv p raw = false → q.loadedSequence = p.loadedSequence ∧
      q.activeSequenceId = p.activeSequenceId ∧ q.runtime.ctl.state = .error ∧
      ∃ reason, reply = .err "start_failed" (some reason) ∧
        q.runtime.ctl.lastError = some (faultText reason)) ∧
    (loadsEntry sv p raw = true → ∀ seq, p.loadedSequence = some seq →
      LoadedAgain sv.host seq p q) := by
  cases h with
  | refused h => simp [numbersRun,h] at hn
  | unnumbered _ hno => simp [hn] at hno
  | overrideRefused _ _ hno => simp [ho] at hno
  | unanswered _ _ hno => exact absurd hanswer hno
  | running => cases herr
  | @unmet asked params h _ spec checked modes w reason =>
    cases asked with
    | none =>
      refine ⟨fun _ => ⟨rfl,rfl,rfl,reason,rfl,rfl⟩,fun hl => ?_⟩
      simp [loadsEntry,h] at hl
    | some entry =>
      refine ⟨fun hl => ?_,fun _ seq hseq => ?_⟩
      · simp [loadsEntry,h] at hl
      · exact restored_loadedAgain hseq (by simp [RtState.failed,Ctl.setError])

end

/-- A start that is refused before it has loaded a sequence or numbered a run changes
nothing. With no run in progress: one that has loaded a sequence by then puts the one before
it back, and one that a precondition refuses is a failed run of its own. -/
theorem refused_start_puts_back (sv : Services World) (raw : Value) (n : Nat)
    (p q : ProcState World) (reply : RpcReply)
    (hrun : (rpcSequencerStart sv raw).run n p = .ok reply q) (herr : reply.isError = true) :
    (numbersRun sv p raw = false → loadsEntry sv p raw = false → q = p) ∧
    (¬ inProgress p.runtime.ctl → numbersRun sv p raw = false → loadsEntry sv p raw = true →
      ∀ seq, p.loadedSequence = some seq →
        LoadedAgain sv.host seq p q ∧ q.runtime.data.runId = p.runtime.data.runId) ∧
    (¬ inProgress p.runtime.ctl → numbersRun sv p raw = true → overrideAccepted sv raw = true →
      Answering sv → q.runtime.data.runId = p.runtime.data.runId+1 ∧
        (loadsEntry sv p raw = false → q.loadedSequence = p.loadedSequence ∧
          q.activeSequenceId = p.activeSequenceId ∧ q.runtime.ctl.state = .error ∧
          ∃ reason, reply = .err "start_failed" (some reason) ∧
            q.runtime.ctl.lastError = some (faultText reason)) ∧
        (loadsEntry sv p raw = true → ∀ seq, p.loadedSequence = some seq →
          LoadedAgain sv.host seq p q)) := by
  obtain ⟨reply',q',hrun',h⟩ := rpcSequencerStart_outcome sv n p raw
  obtain ⟨rfl,rfl⟩ : reply = reply' ∧ q = q' := by
    rw [hrun] at hrun'
    exact ⟨(Outcome.ok.inj hrun').1,(Outcome.ok.inj hrun').2⟩
  refine ⟨fun hn hl => h.untouched hn hl,fun _ hn hl seq hseq => ⟨?_,?_⟩,
    fun _ hn ho hanswer => ⟨?_,h.failed herr hn ho hanswer⟩⟩
  · exact (h.putBack hn hl).2.1 seq hseq
  · simpa [hn] using h.runId
  · simpa [hn] using h.runId

def Services.quiet : Services Unit where
  host := Host.quiet
  readText _ w := (.error ⟨.other,"no such file"⟩,w)
  loadSequenceText _ _ w := (.ok (.error "not a sequence"),w)
  hdfStatus w := (.ok (.dict false [("result",.dict false [("writing_active",.bool false)])]),w)
  checkDevicesConnected _ _ w := (.ok [],w)

def recorded : LoadedSequence :=
  ⟨{ vars := .empty, steps := [], requireHdfWriting := true },"version: 1","scan.yaml","path"⟩

def recordedLoaded : ProcState Unit :=
  (ProcState.new none ()).loadedAs Host.quiet recorded none

theorem recordedLoaded_isError :
    (match (rpcSequencerStart Services.quiet (.dict false [])).run 0 recordedLoaded with
      | .ok reply _ => reply.isError
      | _ => false) = true := by decide +kernel

theorem recordedLoaded_refused {q : ProcState Unit} {reply : RpcReply}
    (hrun : (rpcSequencerStart Services.quiet (.dict false [])).run 0 recordedLoaded = .ok reply q) :
    reply.isError = true := by
  have hreply := recordedLoaded_isError
  rw [hrun] at hreply
  exact hreply

theorem unrecorded_start_is_a_failed_run : ∃ q reply,
    (rpcSequencerStart Services.quiet (.dict false [])).run 0 recordedLoaded = .ok reply q ∧
    reply.isError = true ∧ q.runtime.data.runId = recordedLoaded.runtime.data.runId+1 ∧
    q.runtime.ctl.state = .error := by
  obtain ⟨reply,q,hrun,_⟩ := rpcSequencerStart_outcome Services.quiet 0 recordedLoaded (.dict false [])
  have herr := recordedLoaded_refused hrun
  have hidle : ¬ inProgress recordedLoaded.runtime.ctl := by
    rintro (h | h)
    · exact absurd h (by decide)
    · exact absurd h (by decide)
  have hanswer : Answering Services.quiet := ⟨fun _ => ⟨_,rfl⟩,fun _ _ _ => ⟨_,rfl⟩⟩
  obtain ⟨_,_,hfailed⟩ := refused_start_puts_back Services.quiet (.dict false []) 0 recordedLoaded
    q reply hrun herr
  obtain ⟨hid,hstate,_⟩ := hfailed hidle (by decide +kernel) (by decide +kernel) hanswer
  exact ⟨q,reply,hrun,herr,hid,(hstate (by decide +kernel)).2.2.1⟩

theorem refused_start_changes_run_id : ¬ ∀ q reply,
    (rpcSequencerStart Services.quiet (.dict false [])).run 0 recordedLoaded = .ok reply q →
    reply.isError = true → Unchanged recordedLoaded q := by
  intro h
  obtain ⟨reply,q,hrun,houtcome⟩ :=
    rpcSequencerStart_outcome Services.quiet 0 recordedLoaded (.dict false [])
  have herr := recordedLoaded_refused hrun
  have hid := houtcome.runId
  have hn : numbersRun Services.quiet recordedLoaded (.dict false []) = true := by decide +kernel
  rw [(h q reply hrun herr).runId,hn] at hid
  simp at hid

end Process

end ExperimentControl.Sequencer

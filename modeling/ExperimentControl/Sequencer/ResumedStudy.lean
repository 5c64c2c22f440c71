import ExperimentControl.Sequencer.Observation

/-!
When an adaptive step stops that was resumed from stored trials: the number of trials is rebuilt from them,
the best score and the trials without improvement are not.
-/

namespace ExperimentControl.Sequencer
open Lib Python Prog

variable {World : Type}

/-- `_adaptive_should_stop` alone, which `adaptiveShouldStop` asks before the controller. -/
def stopsByRule (host : Host World) (vars : Env) (frame : AdaptiveFrame) : D World Bool :=
  let stopping := frame.spec.stopping.getD []
  anyOf [stopsAtTrials host vars frame stopping,stopsAtRuntime host vars frame stopping,
    stopsAtScore host vars frame stopping,stopsAtPatience host vars frame stopping]

/-- The frame that `finalizeTrial` leaves. -/
def AdaptiveFrame.afterTrial (host : Host World) (frame : AdaptiveFrame) (trial : Trial) : AdaptiveFrame :=
  { updateTracking host trial frame with
    proposal := none
    trialsCompleted := (updateTracking host trial frame).trialsCompleted+1 }

def AdaptiveFrame.afterTrials (host : Host World) (frame : AdaptiveFrame) (trials : List Trial) :
    AdaptiveFrame := trials.foldl (AdaptiveFrame.afterTrial host) frame

/-- After any further trials, the two frames decide alike in every environment. -/
def StopsAlike (host : Host World) (resumed original : AdaptiveFrame) : Prop :=
  ∀ (further : List Trial) (vars : Env) (n : Nat) (d : Data World),
    (stopsByRule host vars (resumed.afterTrials host further)).run n d =
      (stopsByRule host vars (original.afterTrials host further)).run n d

def storedTrials (host : Host World) (d : Data World) (frame : AdaptiveFrame) : List Trial :=
  selectReusableTrials host (d.adaptiveStudies.get? frame.spec.id)
    (targetText host.py (getD frame.renderedController "kind" (.str ""))) frame.renderedSpace

/-- Started in `d`, the step pushes a frame that stops as one which executed the stored trials itself. -/
def ResumesAlike (host : Host World) (vars : Env) (spec : AdaptiveSpec) (body : List Step)
    (d : Data World) : Prop :=
  ∀ n d' frame, (executeAdaptiveStep host vars spec body).run n d = .ok (.ok frame) d' →
    StopsAlike host frame
      ({ frame with trialsCompleted := 0 }.afterTrials host (storedTrials host d frame))

def AdaptiveSpec.withStopping (spec : AdaptiveSpec) (stopping : Entries) : AdaptiveSpec :=
  { spec with stopping := some stopping }

/-- What `int` and `float` make of numbers, an order without `x < x`, and a `tell` that does not raise. -/
structure Host.Ordinary (host : Host World) : Prop where
  toInt : ∀ n : Int, host.num.toInt (.int n) = .ok n
  toFloat : ∀ x : F64, host.num.toFloat (.float x) = .ok x
  irrefl : ∀ x : F64, host.num.lt x x = false
  tells : ∀ controller proposal trial w, (host.tell controller proposal trial w).1 = .ok ()

section
variable {host : Host World} {frame : AdaptiveFrame} {trials : List Trial}

theorem updateTracking_counts (trial : Trial) (frame : AdaptiveFrame) :
    (updateTracking host trial frame).spec = frame.spec ∧
      (updateTracking host trial frame).trialsCompleted = frame.trialsCompleted ∧
      ((updateTracking host trial frame).noImproveTrials = 0 →
        (updateTracking host trial frame).bestScore.isSome) := by
  unfold updateTracking
  split
  · exact ⟨rfl,rfl,nofun⟩
  · split
    · exact ⟨rfl,rfl,nofun⟩
    · split
      · exact ⟨rfl,rfl,fun _ => rfl⟩
      · dsimp only
        generalize (if minimizes host frame = true then _ else _ : Bool) = improved
        cases improved with
        | true => exact ⟨rfl,rfl,fun _ => rfl⟩
        | false => exact ⟨rfl,rfl,nofun⟩

theorem afterTrials_counts (trials : List Trial) (frame : AdaptiveFrame) :
    (frame.afterTrials host trials).spec = frame.spec ∧
      (frame.afterTrials host trials).trialsCompleted = frame.trialsCompleted+trials.length := by
  induction trials generalizing frame with
  | nil => exact ⟨rfl,rfl⟩
  | cons trial rest ih =>
    obtain ⟨hspec,hcount⟩ := ih (frame.afterTrial host trial)
    obtain ⟨hspec',hcount',_⟩ := @updateTracking_counts _ host trial frame
    refine ⟨hspec.trans hspec',hcount.trans ?_⟩
    simp only [AdaptiveFrame.afterTrial,hcount',List.length_cons]
    omega

theorem afterTrials_withSpec (spec : AdaptiveSpec) (trials : List Trial) (frame : AdaptiveFrame) :
    { frame with spec := spec }.afterTrials host trials = { frame.afterTrials host trials with spec := spec } := by
  induction trials generalizing frame with
  | nil => rfl
  | cons trial rest ih =>
    have hone : { frame with spec := spec }.afterTrial host trial =
        { frame.afterTrial host trial with spec := spec } := by
      have hdir : minimizes host { frame with spec := spec } = minimizes host frame := rfl
      simp only [AdaptiveFrame.afterTrial,updateTracking,hdir]
      split
      · rfl
      · split
        · rfl
        · split
          · rfl
          · generalize (if minimizes host frame = true then _ else _ : Bool) = improved
            cases improved <;> rfl
    have := ih (frame.afterTrial host trial)
    simpa only [AdaptiveFrame.afterTrials,List.foldl_cons,hone] using this

theorem bestScore_of_improved (hne : trials ≠ [])
    (h : (frame.afterTrials host trials).noImproveTrials = 0) :
    ∃ best, (frame.afterTrials host trials).bestScore = some best := by
  obtain ⟨rest,trial,rfl⟩ := (List.eq_nil_or_concat trials).resolve_left hne
  simp only [AdaptiveFrame.afterTrials,List.concat_eq_append,List.foldl_append,List.foldl_cons,
    List.foldl_nil] at h ⊢
  exact Option.isSome_iff_exists.1 ((updateTracking_counts trial _).2.2 h)

theorem finalizeTrial_frame (frame : AdaptiveFrame) (proposal : Proposal) (trial : Trial) :
    Triple (fun _ => True) (finalizeTrial host frame proposal trial)
      (fun r _ => r.1 = frame.afterTrial host trial) (fun _ _ => True) := by
  refine .bind .any fun _ => ?_
  refine .bind .any fun _ => ?_
  exact .pure fun _ _ => rfl

theorem ask_tell (h : host.Ordinary) (controller : Nat) (proposal : Proposal) (trial : Trial) (n : Nat)
    (d : Data World) : ∃ d', (ask (host.tell controller proposal trial)).run n d = .ok () d' := by
  refine ⟨{ d with world := (host.tell controller proposal trial d.world).2 },?_⟩
  simp only [ask,run_ofFun,h.tells]

theorem replayTrials_count (h : host.Ordinary) (controller : Nat) (hparams : ∀ trial ∈ trials, trial.params ≠ []) :
    Triple (fun _ => True) (replayTrials host controller trials) (fun k _ => k = trials.length)
      (fun _ _ => True) := by
  induction trials with
  | nil => exact .pure fun _ _ => rfl
  | cons trial rest ih =>
    have hne : trial.params.isEmpty = false := by simpa using hparams trial List.mem_cons_self
    simp only [replayTrials,hne,Bool.false_eq_true,if_false]
    refine .bind (Q := fun r _ => r = .ok ()) ?_ fun r => ?_
    · intro n d _
      obtain ⟨d',hd'⟩ := ask_tell h controller _ trial n d
      rw [run_attempt,hd']
    · rintro n d rfl
      have hrest := ih fun t ht => hparams t (List.mem_cons_of_mem _ ht)
      exact (hrest.bind fun k => .pure fun _ hk => by simp [hk]) n d trivial

variable {α β : Type} {vars : Env} {spec : AdaptiveSpec} {body : List Step} {d : Data World}

theorem Outward.bind {x : D World α} {f : α → D World β} {Q : β → Data World → Prop} (hx : Outward x)
    (hf : ∀ a, Triple (Beside d) (f a) Q fun _ _ => True) :
    Triple (Beside d) (x >>= f) Q fun _ _ => True :=
  ((hx d).conseq (fun _ h => h) (fun _ _ h => h) fun _ _ _ => trivial).bind hf

theorem outward_observeRepeats (observe : Entries) : Outward (observeRepeats host vars observe) := by
  refine outward_bind (outward_bind ?_ fun r => ?_) fun n => ?_
  · refine fun d₀ => (outward_bind (outward_render vars _) fun v => outward_except _) d₀
      |>.attempt (fun _ _ h => h) fun _ _ h => h
  · cases r with
    | ok n => exact outward_pure n
    | error e => exact outward_raise _
  · exact outward_ite (outward_raise _) (outward_pure n)

theorem prepareAdaptiveStudy_count (h : host.Ordinary) {studyId : String} (controller : Nat)
    (controllerSpec space : Entries) (hmode : startMode d studyId = "resume")
    (htrials : trials = selectReusableTrials host (d.adaptiveStudies.get? studyId)
      (targetText host.py (getD controllerSpec "kind" (.str ""))) space)
    (hparams : ∀ trial ∈ trials, trial.params ≠ []) :
    Triple (Beside d) (prepareAdaptiveStudy host studyId controller controllerSpec space)
      (fun k _ => k = trials.length) (fun _ _ => True) := by
  intro n s hs
  have hmode' : startMode s studyId = "resume" := by rw [hs]; exact hmode
  have hstudies : s.adaptiveStudies = d.adaptiveStudies := by rw [hs]
  simp only [prepareAdaptiveStudy,run_bind,run_get,run_modify,hmode',hstudies,← htrials]
  exact replayTrials_count h controller hparams n _ trivial

/-- Nothing of the frame but the number of trials comes from the stored ones. -/
theorem executeAdaptiveStep_frame (h : host.Ordinary) (hmode : startMode d spec.id = "resume") :
    Triple (Beside d) (executeAdaptiveStep host vars spec body)
      (fun r _ => ∀ frame, r = .ok frame → frame.spec = spec ∧ frame.bestScore = none ∧
        frame.noImproveTrials = 0 ∧ ((∀ trial ∈ storedTrials host d frame, trial.params ≠ []) →
          frame.trialsCompleted = (storedTrials host d frame).length)) (fun _ _ => True) := by
  refine .ite (fun _ => ?_) fun _ => .pure fun _ _ _ => nofun
  refine (outward_render vars _).bind fun controllerSpec => ?_
  refine (outward_render vars _).bind fun space => ?_
  refine (outward_observeRepeats _).bind fun repeats => ?_
  refine (outward_ask _).bind fun controller => ?_
  let Counted (k : Nat) := ∀ trials, trials = selectReusableTrials host (d.adaptiveStudies.get? spec.id)
    (targetText host.py (getD (mappingOrEmpty controllerSpec) "kind" (.str ""))) (mappingOrEmpty space) →
      (∀ trial ∈ trials, trial.params ≠ []) → k = trials.length
  refine .bind (Q := fun k _ => Counted k) ?_ fun replayed => ?_
  · intro n s hs
    cases hrun : (prepareAdaptiveStudy host spec.id controller (mappingOrEmpty controllerSpec)
      (mappingOrEmpty space)).run n s with
    | ok k s' =>
      intro trials htrials hparams
      exact (prepareAdaptiveStudy_count h controller _ _ hmode htrials hparams).ok hs hrun
    | raised | diverged => trivial
  · refine .bind (Q := fun _ _ => Counted replayed) ?_ fun t => .pure ?_
    · exact .ofFun (fun _ _ _ h _ => h) fun _ _ _ _ _ => trivial
    · rintro s hs frame ⟨⟩
      exact ⟨rfl,rfl,rfl,hs _ rfl⟩

variable {d' : Data World}

theorem executeAdaptiveStep_withStopping {n : Nat} (stopping : Entries)
    (hrun : (executeAdaptiveStep host vars spec body).run n d = .ok (.ok frame) d') :
    (executeAdaptiveStep host vars (spec.withStopping stopping) body).run n d =
      .ok (.ok { frame with spec := spec.withStopping stopping }) d' := by
  have hprog : executeAdaptiveStep host vars (spec.withStopping stopping) body =
      executeAdaptiveStep host vars spec body >>= fun r =>
        pure (r.map fun frame => { frame with spec := spec.withStopping stopping }) := by
    unfold executeAdaptiveStep
    split
    · rw [if_pos ‹_›]
      simp only [bind_assoc,bind_pure_left]
      rfl
    · rw [if_neg ‹_›]
      rfl
  rw [hprog,run_bind,hrun]
  rfl

theorem renderIntOr_int (h : host.Ordinary) (k : Int) (message : String) (n : Nat) :
    (renderIntOr host vars (.int k) message).run n d = .ok k d := by
  have hk : ∀ view : Env, (renderTemplates host.py (.int k)).result view.get? = .ok (.int k) := fun _ => rfl
  simp [renderIntOr,render,envView,renderIn,except,run_bind,run_attempt,run_ofFun,hk,h.toInt]

theorem stopsByRule_patience (h : host.Ordinary) (k n : Nat)
    (hstop : frame.spec.stopping = some [("patience",.int k)]) :
    (stopsByRule host vars frame).run n d = .ok (decide (k ≤ frame.noImproveTrials)) d := by
  simp [stopsByRule,hstop,stopsAtTrials,stopsAtRuntime,stopsAtScore,stopsAtPatience,anyOf,getD,item?,
    run_bind,renderIntOr_int h]
  by_cases hk : k ≤ frame.noImproveTrials <;> simp [hk]

theorem stopsByRule_counts {other : AdaptiveFrame} (hspec : frame.spec = other.spec)
    (hcount : frame.trialsCompleted = other.trialsCompleted)
    (hruntime : getD (other.spec.stopping.getD []) "max_runtime_s" .none = .none)
    (hscore : getD (other.spec.stopping.getD []) "target_score" .none = .none)
    (hpatience : getD (other.spec.stopping.getD []) "patience" .none = .none) :
    stopsByRule host vars frame = stopsByRule host vars other := by
  simp only [stopsByRule,stopsAtTrials,stopsAtRuntime,stopsAtScore,stopsAtPatience,hspec,hcount,hruntime,
    hscore,hpatience]

section
variable (h : host.Ordinary)
include h

/-- One more trial repeats the best score, or there is none: the patience it takes sets the frames apart. -/
theorem not_stopsAlike {original : AdaptiveFrame} {k : Nat} (further : List Trial)
    (hspec : frame.spec.stopping = some [("patience",.int k)]) (hspec' : original.spec = frame.spec)
    (hfresh : (frame.afterTrials host further).noImproveTrials < k)
    (hlate : k ≤ (original.afterTrials host further).noImproveTrials) (d : Data World) :
    ¬ StopsAlike host frame original := by
  intro halike
  have hrun := halike further .empty 0 d
  rw [stopsByRule_patience h k 0 (by rw [(afterTrials_counts ..).1,hspec]),
    stopsByRule_patience h k 0 (by rw [(afterTrials_counts ..).1,hspec',hspec])] at hrun
  simp [hlate,Nat.not_le.2 hfresh] at hrun

/-- Frames of one step differ under some patience, if only one has executed trials. -/
theorem exists_not_stopsAlike (hbest : frame.bestScore = none)
    (himprove : frame.noImproveTrials = 0) (htrials : trials ≠ []) (d : Data World) : ∃ k : Nat,
    ¬ StopsAlike host { frame with spec := frame.spec.withStopping [("patience",.int k)] }
      ({ frame with
        spec := frame.spec.withStopping [("patience",.int k)]
        trialsCompleted := 0 }.afterTrials host trials) := by
  have horiginal := fun k : Nat => @afterTrials_withSpec _ host
    (frame.spec.withStopping [("patience",.int k)]) trials { frame with trialsCompleted := 0 }
  cases hk : ({ frame with trialsCompleted := 0 }.afterTrials host trials).noImproveTrials with
  | succ k =>
    refine ⟨k+1,not_stopsAlike h [] rfl (by rw [horiginal]) ?_ ?_ d⟩
    · simp [AdaptiveFrame.afterTrials,himprove]
    · rw [horiginal]
      exact Nat.le_of_eq hk.symm
  | zero =>
    obtain ⟨best,hscore⟩ := bestScore_of_improved htrials hk
    let again : Trial := ⟨true,0,[],[],[],[],[],[],[],.float best,none,none⟩
    refine ⟨1,not_stopsAlike h [again] rfl (by rw [horiginal]) ?_ ?_ d⟩
    · simp [AdaptiveFrame.afterTrials,AdaptiveFrame.afterTrial,updateTracking,again,h.toFloat,hbest]
    · rw [horiginal]
      simp [AdaptiveFrame.afterTrials,AdaptiveFrame.afterTrial] at hscore ⊢
      simp [updateTracking,again,h.toFloat,hscore,h.irrefl]

theorem not_resumesAlike {n : Nat} (hmode : startMode d spec.id = "resume")
    (hrun : (executeAdaptiveStep host vars spec body).run n d = .ok (.ok frame) d')
    (hne : storedTrials host d frame ≠ []) :
    ∃ k : Nat, ¬ ResumesAlike host vars (spec.withStopping [("patience",.int k)]) body d := by
  obtain ⟨rfl,hbest,himprove,_⟩ := (executeAdaptiveStep_frame h hmode).ok (Beside.refl d) hrun frame rfl
  obtain ⟨k,hk⟩ := exists_not_stopsAlike h hbest himprove hne d
  exact ⟨k,fun halike => hk (halike n d' _ (executeAdaptiveStep_withStopping _ hrun))⟩

/-- A resumed step stops as the uninterrupted one whatever its settings, exactly if no stored trial is replayed;
and it does with `max_trials` alone, if every stored trial has parameters. -/
theorem resumed_study_stops_alike_iff {n : Nat} (hmode : startMode d spec.id = "resume")
    (hrun : (executeAdaptiveStep host vars spec body).run n d = .ok (.ok frame) d') :
    ((∀ stopping, getD stopping "max_runtime_s" .none = .none →
        ResumesAlike host vars (spec.withStopping stopping) body d) ↔ storedTrials host d frame = []) ∧
      ∀ stopping, getD stopping "max_runtime_s" .none = .none → getD stopping "target_score" .none = .none →
        getD stopping "patience" .none = .none → (∀ trial ∈ storedTrials host d frame, trial.params ≠ []) →
          ResumesAlike host vars (spec.withStopping stopping) body d := by
  obtain ⟨rfl,_,_,hcount⟩ := (executeAdaptiveStep_frame h hmode).ok (Beside.refl d) hrun frame rfl
  -- a run with another bound pushes the same frame
  have honly : ∀ {stopping n' d'' other},
      (executeAdaptiveStep host vars (frame.spec.withStopping stopping) body).run n' d = .ok (.ok other) d'' →
        other = { frame with spec := frame.spec.withStopping stopping } := by
    intro stopping n' d'' other hrun'
    have hother := executeAdaptiveStep_withStopping stopping hrun
    have hleft := Prog.mono _ (Nat.le_max_left n n') (by rw [hother]; nofun)
    have hright := Prog.mono _ (Nat.le_max_right n n') (by rw [hrun']; nofun)
    rw [hleft,hother,hrun'] at hright
    cases hright
    rfl
  refine ⟨⟨fun halike => ?_,fun hnone => ?_⟩,?_⟩
  · by_contra hne
    obtain ⟨k,hk⟩ := not_resumesAlike h hmode hrun hne
    exact hk (halike _ rfl)
  · rw [hnone] at hcount
    intro stopping _ n' d'' other hrun'
    have hnone' : storedTrials host d { frame with spec := frame.spec.withStopping stopping } = [] := hnone
    rw [honly hrun',hnone']
    intro further vars n d
    simp only [AdaptiveFrame.afterTrials,List.foldl_nil,hcount (by simp),List.length_nil]
  · intro stopping hruntime hscore hpatience hparams n' d'' other hrun'
    rw [honly hrun']
    intro further vars n d
    refine congrArg (fun x => x.run n d) (stopsByRule_counts ?_ ?_ ?_ ?_ ?_)
    · simp only [(afterTrials_counts ..).1]
    · simp only [(afterTrials_counts ..).2,hcount hparams]
      exact congrArg (·+further.length) (Nat.zero_add _).symm
    all_goals
      simp only [(afterTrials_counts ..).1]
      assumption

end

end

def searchSpec : AdaptiveSpec where
  id := "search"
  controller := [("kind",.str "adaptive.adaptive_grid_1d")]
  space := [("x",.dict false [("type",.str "int"),("min",.float 0),("max",.float 9)])]
  bind := [("x","x")]
  observe := []

def scored (x : F64) : Trial := ⟨true,0,[],[("x",.float x)],[],[],[],[],[],.float x,none,none⟩

def searched : Data Unit :=
  { Data.new () with
    adaptiveStudies := ⟨[("search",⟨"adaptive.adaptive_grid_1d",searchSpec.space,[scored 5,scored 3],"reset"⟩)],by simp⟩
    adaptiveStartModes := ⟨[("search","resume")],by simp⟩ }

theorem search_stored :
    (match (executeAdaptiveStep Host.quiet .empty searchSpec []).run 0 searched with
      | .ok (.ok frame) _ => storedTrials Host.quiet searched frame
      | _ => []) = [scored 5,scored 3] := by decide +kernel

theorem search_resumes : ∃ frame d',
    (executeAdaptiveStep Host.quiet .empty searchSpec []).run 0 searched = .ok (.ok frame) d' ∧
      storedTrials Host.quiet searched frame = [scored 5,scored 3] := by
  have h := search_stored
  split at h
  · exact ⟨_,_,‹_›,h⟩
  · cases h

theorem quiet_ordinary : Host.quiet.Ordinary :=
  ⟨fun _ => rfl,fun _ => rfl,fun x => decide_eq_false (UInt64.lt_irrefl x),fun _ _ _ _ => rfl⟩

theorem search_stops_alike_iff : ∃ frame, (∀ stopping, getD stopping "max_runtime_s" .none = .none →
        ResumesAlike Host.quiet .empty (searchSpec.withStopping stopping) [] searched) ↔
      storedTrials Host.quiet searched frame = [] := by
  obtain ⟨frame,_,hrun,_⟩ := search_resumes
  exact ⟨frame,(resumed_study_stops_alike_iff quiet_ordinary rfl hrun).1⟩

theorem patient_search_runs_on : ¬ ∀ stopping, getD stopping "max_runtime_s" .none = .none →
    ResumesAlike Host.quiet .empty (searchSpec.withStopping stopping) [] searched := by
  intro h
  obtain ⟨frame,_,hrun,hstored⟩ := search_resumes
  obtain ⟨k,hk⟩ := not_resumesAlike quiet_ordinary rfl hrun (by rw [hstored]; nofun)
  exact hk (h _ rfl)

end ExperimentControl.Sequencer

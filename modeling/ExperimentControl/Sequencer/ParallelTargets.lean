import ExperimentControl.Sequencer.ParallelBranch

/-!
Which devices and processes the branches of a parallel step send requests to.
-/

namespace ExperimentControl.Sequencer
open Lib Python Prog List Prod Except

variable {World : Type}

def BranchCalls.traced (calls : BranchCalls World) : BranchCalls (World × List Target) where
  callDevice device action params w :=
    ((calls.callDevice device action params w.1).1,
      (calls.callDevice device action params w.1).2,w.2 ++ [(.device,device)])
  callProcess := calls.callProcess.map fun callProcess process action params w =>
    ((callProcess process action params w.1).1,
      (callProcess process action params w.1).2,w.2 ++ [(.process,process)])

/-- `requests` were sent by a run of the branch, from `w` and with these callbacks. -/
def Requested (py : Primitives) (calls : BranchCalls World) (plan : ParallelBranchPlan)
    (w : World) (requests : List Target) : Prop :=
  ∃ n result b, (runParallelBranch py calls.traced plan).run n (branchStart plan (w,[])) =
    .ok result b ∧ b.world.2 = requests

/-- No two branches send a request to one target, whatever the replies. -/
def ExclusiveTargets (py : Primitives) (plans : List ParallelBranchPlan) : Prop :=
  ∀ p ∈ plans, ∀ q ∈ plans, p.index ≠ q.index →
    ∀ (World World' : Type) (calls : BranchCalls World) (calls' : BranchCalls World')
      (w : World) (w' : World') (requests requests' : List Target),
      Requested py calls p w requests → Requested py calls' q w' requests' →
        ∀ target ∈ requests, target ∉ requests'

def targetTemplates : CallStep ⊕ SetStep → List Value
  | .inl step => [.str step.device,.str (step.process.getD "")]
  | .inr step => [.str step.device]

/-- For some replies the operations before it all succeed. -/
def Reached (py : Primitives) (plan : ParallelBranchPlan) (before : List (CallStep ⊕ SetStep)) :
    Prop :=
  ∃ (World : Type) (calls : BranchCalls World) (n : Nat) (w : World) (b : BranchState World),
    (branchInOrder py calls before).run n (branchStart plan w) = .ok () b

/-- Rendered in the starting environment, no target that is reached reads a name that the branch
has written by then. -/
def TargetsSettled (py : Primitives) (plan : ParallelBranchPlan) : Prop :=
  ∀ before op after, (schedule plan).map snd = before ++ op :: after → Reached py plan before →
    ∀ v ∈ targetTemplates op, ∀ name ∈ (renderTemplates py v).names plan.env.get?,
      name ∉ before.flatMap boundNames

/-- The environment has changed on `writes` at most, and the requests went to `targets`. -/
def Confined (env : Env) (writes : List String) (targets : List Target)
    (b : BranchState (World × List Target)) : Prop :=
  (∀ name, name ∉ writes → b.env.get? name = env.get? name) ∧ ∀ target ∈ b.world.2, target ∈ targets

section
variable {py : Primitives} {calls : BranchCalls World} {env : Env} {writes more : List String}
variable {targets : List Target}

theorem Confined.extend {b : BranchState (World × List Target)} (h : Confined env writes targets b) :
    Confined env (writes ++ more) targets b :=
  ⟨fun name hname => h.1 name fun hw => hname (mem_append_left _ hw),h.2⟩

theorem confined_branchRender {v : Value}
    (hv : ∀ name ∈ (renderTemplates py v).names env.get?, name ∉ writes) :
    Triple (@Confined World env writes targets) (branchRender py v)
      (fun a b => (renderTemplates py v).result env.get? = .ok a ∧ Confined env writes targets b)
      (fun _ => Confined env (writes ++ more) targets) := by
  refine .ofFun ?_ ?_
  · intro b a b' hb h
    have hsame : ∀ name ∈ (renderTemplates py v).names env.get?, b.env.get? name = env.get? name :=
      fun name hn => hb.1 name (hv name hn)
    have hag := (local_renderTemplates py v).agree hsame
    injection h with hr hs
    rw [hag.1] at hr
    exact ⟨hr,hs ▸ hb⟩
  · intro b e b' hb h
    injection h with _ hs
    exact hs ▸ hb.extend

theorem keeps_branchRender (v : Value) :
    Keeps (@Confined World env writes targets) (branchRender py v) :=
  keeps_ofFun fun _ h => h

theorem keeps_branchExcept (r : Except PyExc Value) :
    Keeps (@Confined World env writes targets) (branchExcept r) :=
  keeps_ofFun fun _ h => h

theorem keeps_branchWrite {name : String} (hn : name ∈ writes) (v : Value) :
    Keeps (@Confined World env writes targets) (branchWrite name v) := by
  refine .modify ?_
  intro b hb
  refine ⟨?_,hb.2⟩
  intro other ho
  have hne : other ≠ name := by
    intro he
    exact ho (he ▸ hn)
  simp only [OrderedDict.get?_set,hne,if_false]
  exact hb.1 other ho

variable {target : Target}

theorem keeps_branchAsk {f : Callback (World × List Target) Reply}
    (ht : target ∈ targets) (hf : ∀ w, (f w).2.2 = w.2 ++ [target]) :
    Keeps (Confined env writes targets) (branchAsk f) := by
  refine keeps_ofFun ?_
  intro b hb
  refine ⟨hb.1,?_⟩
  intro t hmem
  simp only [hf,mem_append,mem_singleton] at hmem
  rcases hmem with hmem | hmem
  · exact hb.2 t hmem
  · exact hmem ▸ ht

variable {step : CallStep}

theorem keeps_branchSave (reply : Reply) (hn : ∀ name ∈ boundNames (.inl step), name ∈ writes) :
    Keeps (@Confined World env writes targets) (branchSave step reply) := by
  unfold branchSave
  cases hs : given step.saveAs with
  | none => exact .pure fun _ h => h
  | some name => exact keeps_branchWrite (hn name (by simp [boundNames,hs])) _

theorem keeps_branchAssign (result : Value) {specs : Entries}
    (hn : ∀ name ∈ assignedKeys specs, name ∈ writes) :
    Keeps (@Confined World env writes targets) (branchAssign py result specs) := by
  induction specs with
  | nil => exact .pure fun _ h => h
  | cons entry rest ih =>
    obtain ⟨key,spec⟩ := entry
    cases spec with
    | dict attr spec =>
      simp only [assignedKeys,mem_cons,forall_eq_or_imp] at hn
      refine .bind (keeps_branchExcept _) fun value => ?_
      refine .bind (keeps_branchWrite hn.1 value) fun _ => ?_
      exact ih hn.2
    | none | bool x | int i | float x | str t | list items => exact ih hn

theorem keeps_branchRecord (reply : Reply) (hn : ∀ name ∈ boundNames (.inl step), name ∈ writes) :
    Keeps (@Confined World env writes targets) (branchRecord py step reply) := by
  unfold branchRecord
  cases hx : givenEntries step.extract with
  | none =>
    cases ha : givenEntries step.assign with
    | none => exact keeps_branchSave reply hn
    | some specs =>
      refine .bind (keeps_branchSave reply hn) fun _ => ?_
      exact keeps_branchAssign _ fun name h => hn name (by simp [boundNames,ha,h])
  | some spec =>
    cases ha : givenEntries step.assign with
    | some specs => exact .raise fun _ h => h
    | none =>
      refine .bind (keeps_branchSave reply hn) fun _ => ?_
      refine .bind (keeps_branchExcept _) fun value => ?_
      exact keeps_branchWrite (hn _ (by simp [boundNames,hx])) value

variable {path : String}

theorem confined_branchSet {step : SetStep} (hread : ∀ v ∈ targetTemplates (.inr step),
      ∀ name ∈ (renderTemplates py v).names env.get?, name ∉ writes)
    (htarget : operationTarget py env path (.inr step) = .ok target) (ht : target ∈ targets) :
    Triple (Confined env writes targets) (branchSet py calls.traced step)
      (fun _ => Confined env (writes ++ more) targets)
      (fun _ => Confined env (writes ++ more) targets) := by
  refine .bind (confined_branchRender (hread _ (by simp [targetTemplates])))
    fun device => .given fun hdevice => ?_
  simp only [operationTarget,hdevice,Bind.bind,Except.bind] at htarget
  refine .ite (fun _ => .raise fun _ h => h.extend) fun hne => ?_
  simp only [hne,if_false] at htarget
  have heq : ((.device,targetText py device) : Target) = target := ok.inj htarget
  refine .pre (.bind (keeps_branchRender _) fun value => ?_) fun _ h => h.extend
  refine .bind (keeps_branchAsk (heq ▸ ht) fun w => rfl) fun _ => ?_
  exact .pure fun _ h => h

/-- The targets are rendered before the call writes anything. -/
theorem confined_branchCall (hread : ∀ v ∈ targetTemplates (.inl step),
      ∀ name ∈ (renderTemplates py v).names env.get?, name ∉ writes)
    (htarget : operationTarget py env path (.inl step) = .ok target) (ht : target ∈ targets) :
    Triple (Confined env writes targets) (branchCall py calls.traced step)
      (fun _ => Confined env (writes ++ boundNames (.inl step)) targets)
      (fun _ => Confined env (writes ++ boundNames (.inl step)) targets) := by
  refine .bind (confined_branchRender (hread _ (by simp [targetTemplates])))
    fun device => .given fun hdevice => ?_
  refine .bind (confined_branchRender (hread _ (by simp [targetTemplates])))
    fun process => .given fun hprocess => ?_
  refine .pre (.bind (keeps_branchRender _) fun action => ?_) fun _ h => h.extend
  simp only [operationTarget,hdevice,hprocess,Bind.bind,Except.bind] at htarget
  refine .ite (fun _ => .raise fun _ h => h) fun hboth => ?_
  refine .ite (fun _ => .raise fun _ h => h) fun hempty => ?_
  simp only [hboth] at htarget
  refine .bind (keeps_branchRender _) fun params => ?_
  have hdispatch : Keeps (Confined env (writes ++ boundNames (.inl step)) targets)
      (branchDispatch calls.traced (targetText py device) (targetText py process)
        (targetText py action) params) := by
    unfold branchDispatch
    by_cases hp : targetText py process = ""
    · have hd : targetText py device ≠ "" := by
        intro hd
        simp [hd,hp] at hempty
      simp only [hp,hd] at htarget ⊢
      have heq : ((.device,targetText py device) : Target) = target := ok.inj htarget
      exact keeps_branchAsk (heq ▸ ht) fun w => rfl
    · simp only [hp,ne_eq,not_false_eq_true,if_true,decide_false,Bool.and_false,
        Bool.false_eq_true,if_false] at htarget ⊢
      have heq : ((.process,targetText py process) : Target) = target := ok.inj htarget
      simp only [BranchCalls.traced]
      cases calls.callProcess with
      | none => exact .raise fun _ h => h
      | some callProcess => exact keeps_branchAsk (heq ▸ ht) fun w => rfl
  refine .bind hdispatch fun reply => ?_
  exact .ite (fun _ => keeps_branchRecord reply fun name hname => mem_append_right _ hname)
    (fun _ => .raise fun _ h => h)

/-- What the planner found out about an operation: its target, rendered in `env`. -/
def Targeted (py : Primitives) (env : Env) (path : String) (targets : List Target)
    (step : CallStep ⊕ SetStep) : Prop :=
  ∃ target ∈ targets, operationTarget py env path step = .ok target

theorem confined_runOperation {step : CallStep ⊕ SetStep} (hread : ∀ v ∈ targetTemplates step,
      ∀ name ∈ (renderTemplates py v).names env.get?, name ∉ writes)
    (ht : Targeted py env path targets step) :
    Triple (Confined env writes targets) (runOperation py calls.traced step)
      (fun _ => Confined env (writes ++ boundNames step) targets)
      (fun _ => Confined env (writes ++ boundNames step) targets) := by
  obtain ⟨target,hmem,htarget⟩ := ht
  cases step with
  | inl step => exact confined_branchCall hread htarget hmem
  | inr step => exact confined_branchSet hread htarget hmem

theorem branchInOrder_snoc {n : Nat} {before : List (CallStep ⊕ SetStep)} {op : CallStep ⊕ SetStep}
    {b b₁ b₂ : BranchState World} (h : (branchInOrder py calls before).run n b = .ok () b₁)
    (hop : (runOperation py calls op).run n b₁ = .ok () b₂) :
    (branchInOrder py calls (before ++ [op])).run n b = .ok () b₂ := by
  induction before generalizing b with
  | nil =>
    injection h with _ h
    subst h
    simp [branchInOrder,run_bind,hop]
  | cons first rest ih =>
    simp only [cons_append,branchInOrder,run_bind] at h ⊢
    cases hfirst : (runOperation py calls first).run n b with
    | ok u b' =>
      rw [hfirst] at h
      exact ih h
    | raised e b' => simp [hfirst] at h
    | diverged => simp [hfirst] at h

/-- The run, from the operations done so far: only what they bind may have changed by then. -/
theorem runOperations_requests {plan : ParallelBranchPlan} {n index : Nat} {w : World}
    {result : ParallelBranchResult} {b' : BranchState (World × List Target)}
    (hsettled : TargetsSettled py plan)
    (htargeted : ∀ op ∈ (schedule plan).map snd, Targeted py plan.env path targets op)
    (ops : List (String × (CallStep ⊕ SetStep))) (before : List (CallStep ⊕ SetStep))
    (b : BranchState (World × List Target)) (hops : (schedule plan).map snd = before ++ ops.map snd)
    (hreached : (branchInOrder py calls.traced before).run n (branchStart plan (w,[])) = .ok () b)
    (hb : Confined plan.env (before.flatMap boundNames) targets b)
    (hrun : (runOperations py calls.traced index ops).run n b = .ok result b') :
    ∀ target ∈ b'.world.2, target ∈ targets := by
  induction ops generalizing before b with
  | nil =>
    injection hrun with _ hrun
    exact hrun ▸ hb.2
  | cons entry rest ih =>
    obtain ⟨path',op⟩ := entry
    simp only [map_cons] at hops
    have htriple : Triple (Confined plan.env (before.flatMap boundNames) targets)
        (runOperation py calls.traced op) _ _ :=
      confined_runOperation (hsettled before op _ hops ⟨_,_,n,_,b,hreached⟩)
        (htargeted op (by simp [hops]))
    simp only [runOperations,run_bind,run_attempt] at hrun
    cases hop : (runOperation py calls.traced op).run n b with
    | ok u b₁ =>
      rw [hop] at hrun
      refine ih (before ++ [op]) b₁ (by simp [hops]) (branchInOrder_snoc hreached hop) ?_ hrun
      simpa using htriple.ok hb hop
    | raised e b₁ =>
      rw [hop] at hrun
      injection hrun with _ hrun
      exact hrun ▸ (htriple.raised hb hop).2
    | diverged => simp [hop] at hrun

end

theorem mem_schedule {plan : ParallelBranchPlan} {op : String × (CallStep ⊕ SetStep)}
    (h : op ∈ schedule plan) : ∃ operation ∈ plan.operations, operation.step = op.2 := by
  simp only [schedule,mem_flatMap,mem_map] at h
  obtain ⟨round,_,operation,hmem,rfl⟩ := h
  exact ⟨operation,hmem,rfl⟩

theorem targeted_of_operationTargets {py : Primitives} {env : Env} {path : String}
    {operations : List ParallelBranchOperation} {targets : List Target}
    (h : operationTargets py env path operations = .ok targets) :
    ∀ operation ∈ operations, Targeted py env path targets operation.step := by
  induction operations generalizing targets with
  | nil => simp
  | cons operation rest ih =>
    unfold operationTargets at h
    cases ht : operationTarget py env path operation.step with
    | error e => simp [ht,Bind.bind,Except.bind] at h
    | ok target =>
      cases hr : operationTargets py env path rest with
      | error e => simp [ht,hr,Bind.bind,Except.bind] at h
      | ok others =>
        simp only [ht,hr,Bind.bind,bind] at h
        have heq : target :: others = targets := ok.inj h
        subst heq
        intro other hmem
        rcases mem_cons.1 hmem with rfl | hmem
        · exact ⟨target,mem_cons_self,ht⟩
        · obtain ⟨t,ht',heq⟩ := ih hr other hmem
          exact ⟨t,mem_cons_of_mem _ ht',heq⟩

theorem requested_subset {py : Primitives} {path : String} {plan : ParallelBranchPlan}
    {targets : List Target} {calls : BranchCalls World} {w : World} {requests : List Target}
    (hsettled : TargetsSettled py plan)
    (htargets : operationTargets py plan.env path plan.operations = .ok targets)
    (hreq : Requested py calls plan w requests) : ∀ target ∈ requests, target ∈ targets := by
  obtain ⟨n,result,b,hrun,rfl⟩ := hreq
  have htargeted : ∀ op ∈ (schedule plan).map snd, Targeted py plan.env path targets op := by
    intro op hop
    obtain ⟨entry,hentry,rfl⟩ := mem_map.1 hop
    obtain ⟨operation,hmem,hstep⟩ := mem_schedule hentry
    exact hstep ▸ targeted_of_operationTargets htargets operation hmem
  have hstart : Confined plan.env [] targets (branchStart plan (w,[])) :=
    ⟨fun _ _ => rfl,by simp [branchStart]⟩
  exact runOperations_requests hsettled htargeted (schedule plan) [] _ rfl rfl hstart hrun

theorem operations_of_requested {py : Primitives} {plan : ParallelBranchPlan}
    {calls : BranchCalls World} {w : World} {requests : List Target} {target : Target}
    (hreq : Requested py calls plan w requests) (ht : target ∈ requests) : plan.operations ≠ [] := by
  intro hnone
  obtain ⟨n,result,b,hrun,rfl⟩ := hreq
  have hschedule : schedule plan = [] := by simp [schedule,hnone]
  rw [runParallelBranch,hschedule] at hrun
  injection hrun with _ hrun
  subst hrun
  cases ht

theorem claimAll_keys {κ : Type} [DecidableEq κ] {refusal : κ → Nat → String} {branch : Nat}
    {keys : List κ} {owners owners' : List (κ × Nat)}
    (h : claimAll refusal branch keys owners = .ok owners') :
    (∀ key ∈ keys, key ∉ owners.map fst) ∧
      owners'.map fst = owners.map fst ++ keys := by
  induction keys generalizing owners with
  | nil =>
    have heq : owners = owners' := ok.inj h
    simp [heq]
  | cons key rest ih =>
    unfold claimAll at h
    split at h
    · cases h
    · rename_i hnone
      obtain ⟨hfree,hkeys⟩ := ih h
      have hkey : key ∉ owners.map fst := by
        intro hmem
        obtain ⟨o,ho,hk⟩ := mem_map.1 hmem
        have := find?_eq_none.1 hnone o ho
        simp [hk] at this
      refine ⟨?_,by simpa using hkeys⟩
      intro other hmem
      rcases mem_cons.1 hmem with rfl | hmem
      · exact hkey
      · have := hfree other hmem
        simp only [map_append,mem_append,not_or] at this
        exact this.1

def PlannedApart (py : Primitives) (env : Env) (p q : ParallelBranchPlan) : Prop :=
  ∀ ts ts', operationTargets py env p.path p.operations = .ok ts →
    operationTargets py env q.path q.operations = .ok ts' → ∀ target ∈ ts, target ∉ ts'

theorem parallelPlans_apart {host : Host World} {env : Env} {parentPath : String} {i : Nat}
    {body : List Step} {targetOwners : List (Target × Nat)} {outputOwners : List (String × Nat)}
    {plans : List ParallelBranchPlan}
    (h : parallelPlans host env parentPath i body targetOwners outputOwners = .ok plans) :
    (∀ p ∈ plans, p.env = env ∧ ∃ targets, operationTargets host.py env p.path p.operations =
      .ok targets ∧ ∀ target ∈ targets, target ∉ targetOwners.map fst) ∧
      plans.Pairwise (PlannedApart host.py env) := by
  induction body generalizing i targetOwners outputOwners plans with
  | nil =>
    have heq : [] = plans := ok.inj h
    simp [← heq]
  | cons branch rest ih =>
    unfold parallelPlans at h
    split at h
    · exact ih h
    · obtain ⟨operations,hops,h⟩ := bind_eq_ok h
      obtain ⟨targets,hts,h⟩ := bind_eq_ok h
      obtain ⟨targetOwners',hto,h⟩ := bind_eq_ok h
      obtain ⟨outputOwners',_,h⟩ := bind_eq_ok h
      obtain ⟨repeatCount,_,h⟩ := bind_eq_ok h
      obtain ⟨others,hothers,h⟩ := bind_eq_ok h
      have heq := ok.inj h
      subst heq
      obtain ⟨hfree,hkeys⟩ := claimAll_keys hto
      obtain ⟨hall,hpair⟩ := ih hothers
      rw [hkeys] at hall
      refine ⟨?_,List.Pairwise.cons ?_ hpair⟩
      · intro p hp
        rcases mem_cons.1 hp with rfl | hp
        · exact ⟨rfl,targets,hts,fun target ht => hfree target (mem_dedup.2 ht)⟩
        · obtain ⟨henv,ts,hts',hout⟩ := hall p hp
          refine ⟨henv,ts,hts',fun target ht => ?_⟩
          have := hout target ht
          simp only [mem_append,not_or] at this
          exact this.1
      · intro q hq ts ts' h1 h2 target ht ht'
        obtain ⟨_,tq,htq,hout⟩ := hall q hq
        have e1 : targets = ts := ok.inj (hts.symm.trans h1)
        have e2 : tq = ts' := ok.inj (htq.symm.trans h2)
        have := hout target (e2 ▸ ht')
        simp only [mem_append,mem_dedup,not_or] at this
        exact this.2 (e1 ▸ ht)

/-- The branches of a dispatched parallel step never meet at a target, if none that has others beside it
reads a name for a target after it has written it. -/
theorem parallel_targets_exclusive (host : Host World) (env : Env) (parentPath : String)
    (body : List Step) (plans : List ParallelBranchPlan)
    (hplans : parallelPlans host env parentPath 0 body [] [] = .ok plans)
    (hsettled : ∀ p ∈ plans, ∀ q ∈ plans, p.index ≠ q.index → q.operations ≠ [] →
      TargetsSettled host.py p) :
    ExclusiveTargets host.py plans := by
  obtain ⟨hall,hpair⟩ := parallelPlans_apart hplans
  have hsymm : ∀ {p q}, PlannedApart host.py env p q → PlannedApart host.py env q p :=
    fun hpq ts ts' h1 h2 target ht ht' => hpq ts' ts h2 h1 target ht' ht
  have happart : ∀ ⦃p⦄, p ∈ plans → ∀ ⦃q⦄, q ∈ plans →
      (fun p q => p.index ≠ q.index → PlannedApart host.py env p q) p q := by
    apply List.Pairwise.forall_of_forall_of_flip
    · intro p _ hne
      exact absurd rfl hne
    · refine hpair.imp ?_
      intro p q h _
      exact h
    · refine hpair.imp ?_
      intro p q h _
      exact hsymm h
  intro p hp q hq hne W W' calls calls' w w' requests requests' hreq hreq' target hmem hmem'
  obtain ⟨henvp,ts,hts,_⟩ := hall p hp
  obtain ⟨henvq,ts',hts',_⟩ := hall q hq
  have hsettledp := hsettled p hp q hq hne (operations_of_requested hreq' hmem')
  have hsettledq := hsettled q hq p hp (Ne.symm hne) (operations_of_requested hreq hmem)
  have ht := requested_subset hsettledp (henvp.symm ▸ hts) hreq target hmem
  have ht' := requested_subset hsettledq (henvq.symm ▸ hts') hreq' target hmem'
  exact happart hp hq hne ts ts' hts hts' target ht ht'

def readoutBody : List Step :=
  [.set ⟨"laser","power",.int 5⟩ false,
   .atomic none [.call ⟨"scope","read",[],some "trace",none,none,none⟩ false,
     .set ⟨"archive","last",.str "${trace}"⟩ false] false]

def readoutEnv : Env := buildEnvView .empty .empty

def readoutPlans : List ParallelBranchPlan :=
  [⟨0,[⟨none,.inr ⟨"laser","power",.int 5⟩⟩],readoutEnv,"parallel.parallel.do[0]",false,none⟩,
   ⟨1,[⟨some 0,.inl ⟨"scope","read",[],some "trace",none,none,none⟩⟩,
       ⟨some 1,.inr ⟨"archive","last",.str "${trace}"⟩⟩],readoutEnv,"parallel.parallel.do[1]",
    true,none⟩]

theorem readout_targets_exclusive :
    parallelPlans Host.quiet readoutEnv "parallel" 0 readoutBody [] [] = .ok readoutPlans ∧
      ExclusiveTargets Host.quiet.py readoutPlans := by
  have hplans : parallelPlans Host.quiet readoutEnv "parallel" 0 readoutBody [] [] =
      .ok readoutPlans := by rfl
  refine ⟨hplans,parallel_targets_exclusive Host.quiet readoutEnv "parallel" readoutBody readoutPlans
    hplans ?_⟩
  have hnone : ∀ plan ∈ readoutPlans, ∀ operation ∈ plan.operations,
      ∀ v ∈ targetTemplates operation.step,
        (renderTemplates Host.quiet.py v).names plan.env.get? = [] := by
    simp only [readoutPlans,forall_mem_cons,targetTemplates]
    decide
  intro plan hplan _ _ _ _ before op after hsplit _ v hv name hname
  obtain ⟨entry,hentry,rfl⟩ := mem_map.1 (hsplit ▸ mem_append_right before mem_cons_self)
  obtain ⟨operation,hop,hstep⟩ := mem_schedule hentry
  rw [hnone plan hplan operation hop v (hstep ▸ hv)] at hname
  cases hname

def reroutedBody : List Step :=
  [.atomic none [.call ⟨"router","pick",[],some "dev",some [("kind",.str "scalar")],none,none⟩ false,
     .set ⟨"${dev}","power",.int 5⟩ false] false,
   .set ⟨"laser","power",.int 0⟩ false]

def reroutedEnv : Env := buildEnvView (OrderedDict.empty.set "dev" (.str "scope")) .empty

def reroutedCalls : BranchCalls Unit where
  callDevice _ _ _ w := (.ok [("ok",.bool true),("result",.str "laser")],w)
  callProcess := none

theorem rerouted_target_collides :
    ∃ plans, parallelPlans Host.quiet reroutedEnv "parallel" 0 reroutedBody [] [] = .ok plans ∧
      ¬ ExclusiveTargets Host.quiet.py plans := by
  refine ⟨_,rfl,?_⟩
  intro h
  refine h _ mem_cons_self _ (mem_cons_of_mem _ mem_cons_self) (by decide) Unit Unit
    reroutedCalls reroutedCalls () () _ _ ⟨0,_,_,rfl,rfl⟩ ⟨0,_,_,rfl,rfl⟩ (.device,"laser") ?_ ?_
  · decide
  · decide
end ExperimentControl.Sequencer

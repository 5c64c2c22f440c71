import Mathlib.Algebra.GroupWithZero.Nat
import ExperimentControl.Lib.Runs

/-!
The command journal (`utils/command_journal.py`): `append` puts entries into a queue, and writer
threads commit them in batches and prune old rows. A thread is a state machine whose connection
may have a transaction open; the steps of callers and threads interleave in any order.
-/

namespace ExperimentControl.CommandJournal
open Lib List Bool

structure Settings where
  queueMax : Int
  batchSize : Int
  retentionMaxRows : Option Int
  /-- `retention_max_age_days is not None`; the age decides which rows are found. -/
  retentionMaxAge : Bool
  pruneChunkRows : Int
  deriving DecidableEq

/-- Where a writer thread stands in `_run`. -/
inductive Phase (α : Type) where
  | connecting
  | initializing
  | checking
  | dequeuing (batch : List α)
  | beginning (batch : List α)
  | inserting (batch : List α)
  | committing (batch : List α)
  | rollingBack (batch : List α)
  /-- At `now >= next_prune`. -/
  | pruneDue
  | pruneAge (pruned : Nat)
  | pruneCount (pruned : Nat)
  | pruneRows (overflow : Int) (pruned : Nat)
  | pruneCommit (pruned : Nat)
  | closing
  | ended
  deriving DecidableEq

/-- The entries that the thread has taken from the queue and not done with. -/
def Phase.batch {α : Type} : Phase α → List α
  | .dequeuing batch => batch
  | .beginning batch => batch
  | .inserting batch => batch
  | .committing batch => batch
  | .rollingBack batch => batch
  | _ => []

/-- A thread and its connection, with the rows inserted in the transaction that is open. -/
structure Writer (α : Type) where
  phase : Phase α
  txn : Option (List α)
  deriving DecidableEq

def Writer.uncommitted {α : Type} (w : Writer α) : List α := w.txn.getD []

structure Journal (α : Type) where
  settings : Settings
  started : Bool
  stop : Bool
  queue : List α
  writers : List (Writer α)
  /-- `_thread`, as an index into the threads. -/
  thread : Option Nat
  /-- `append` calls that have seen `_started` and have not put their entry. -/
  entering : Nat
  /-- `close` calls that wait for the thread. -/
  closers : Nat
  written : Nat
  dropped : Nat
  writeErrors : Nat
  prunedRows : Nat
  closeIncompleteCount : Nat
  /-- How many `append` calls have been made while started. -/
  appended : Nat
  committed : List α
  deriving DecidableEq

def Journal.initial {α : Type} (settings : Settings) : Journal α where
  settings := settings
  started := false
  stop := false
  queue := []
  writers := []
  thread := none
  entering := 0
  closers := 0
  written := 0
  dropped := 0
  writeErrors := 0
  prunedRows := 0
  closeIncompleteCount := 0
  appended := 0
  committed := []

section
variable {α : Type}

def Journal.start (j : Journal α) : Journal α :=
  if j.started then j
  else
    { j with
      stop := false
      writers := j.writers ++ [⟨.connecting,none⟩]
      thread := some j.writers.length
      started := true }

/-- `append` before it puts. -/
def Journal.appendCheck (j : Journal α) : Journal α :=
  if j.started then { j with entering := j.entering+1 } else j

def Journal.full (j : Journal α) : Bool :=
  0 < j.settings.queueMax && j.settings.queueMax ≤ j.queue.length

/-- `put_nowait`, and the count of an entry that is dropped. -/
def Journal.appendPut (j : Journal α) (item : α) : Journal α :=
  if j.entering = 0 then j
  else
    let j := { j with entering := j.entering-1,appended := j.appended+1 }
    if j.full then { j with dropped := j.dropped+1 } else { j with queue := j.queue ++ [item] }

/-- `close` up to the wait. -/
def Journal.closeBegin (j : Journal α) : Journal α :=
  if j.started then { j with stop := true,closers := j.closers+1 } else j

/-- `_thread.is_alive()`. -/
def Journal.threadAlive (j : Journal α) : Bool :=
  match j.thread.bind (j.writers[·]?) with
  | some w => match w.phase with
    | .ended => false
    | _ => true
  | none => false

/-- The end of `close`, where the thread has ended or the time is up. -/
def Journal.closeEnd (j : Journal α) : Journal α :=
  if j.closers = 0 then j
  else if j.threadAlive then
    { j with
      closers := j.closers-1
      closeIncompleteCount := j.closeIncompleteCount+1
      started := false }
  else { j with closers := j.closers-1,thread := none,started := false }

structure Outcome where
  fails : Bool
  count : Nat
  due : Bool
  deriving DecidableEq

def Journal.put (j : Journal α) (i : Nat) (w : Writer α) : Journal α :=
  { j with writers := j.writers.set i w }

def Journal.goto (j : Journal α) (i : Nat) (w : Writer α) (phase : Phase α) : Journal α :=
  j.put i { w with phase }

def Settings.maxItems (settings : Settings) : Int := max 1 settings.batchSize

def Settings.chunk (settings : Settings) : Nat := (max 100 settings.pruneChunkRows).toNat

def Writer.delete (w : Writer α) : Writer α := { w with txn := some w.uncommitted }

def Journal.commit (j : Journal α) (i : Nat) (w : Writer α) (phase : Phase α) : Journal α :=
  { j with committed := j.committed ++ w.uncommitted }.put i ⟨phase,none⟩

/-- One step of `_dequeue_batch`. -/
def Journal.dequeue (j : Journal α) (i : Nat) (w : Writer α) (batch : List α) : Journal α :=
  match j.queue with
  | item :: rest =>
    let batch := batch ++ [item]
    { j with queue := rest }.goto i w
      (if j.settings.maxItems ≤ batch.length then .beginning batch else .dequeuing batch)
  | [] => j.goto i w (if batch.isEmpty then .pruneDue else .beginning batch)

def Journal.writeBatch (j : Journal α) (i : Nat) (w : Writer α) (o : Outcome) : Journal α :=
  match w.phase with
  | .beginning batch =>
    -- `BEGIN` inside a transaction is an error
    if w.txn.isSome || o.fails then j.goto i w (.rollingBack batch)
    else j.put i ⟨.inserting batch,some []⟩
  | .inserting batch =>
    if o.fails then j.put i ⟨.rollingBack batch,some (w.uncommitted ++ batch.take o.count)⟩
    else j.put i ⟨.committing batch,some (w.uncommitted ++ batch)⟩
  | .committing batch =>
    if o.fails then j.goto i w (.rollingBack batch)
    else { j with written := j.written+batch.length }.commit i w .pruneDue
  | .rollingBack _ =>
    { j with writeErrors := j.writeErrors+1 }.put i ⟨.pruneDue,if o.fails then w.txn else none⟩
  | _ => j

def Journal.runPrune (j : Journal α) (i : Nat) (w : Writer α) (o : Outcome) : Journal α :=
  match w.phase with
  | .pruneAge pruned =>
    if ¬ j.settings.retentionMaxAge then j.goto i w (.pruneCount pruned)
    else if o.fails then j.goto i w.delete .closing
    else
      let deleted := min o.count j.settings.chunk
      j.goto i w.delete
        (if deleted < j.settings.chunk then .pruneCount (pruned+deleted)
        else .pruneAge (pruned+deleted))
  | .pruneCount pruned =>
    match j.settings.retentionMaxRows with
    | none => j.goto i w (.pruneCommit pruned)
    | some maxRows =>
      if o.fails then j.goto i w .closing else j.goto i w (.pruneRows (o.count-maxRows) pruned)
  | .pruneRows overflow pruned =>
    if overflow ≤ 0 then j.goto i w (.pruneCommit pruned)
    else if o.fails then j.goto i w.delete .closing
    else
      let deleted := min o.count (min j.settings.chunk overflow.toNat)
      j.goto i w.delete
        (if deleted = 0 then .pruneCommit (pruned+deleted)
        else .pruneRows (overflow-deleted) (pruned+deleted))
  | .pruneCommit pruned =>
    if pruned = 0 then j.goto i w .checking
    else
      let j := { j with prunedRows := j.prunedRows+pruned }
      if o.fails then j.goto i w .checking else j.commit i w .checking
  | _ => j

/-- One step of `_run`. -/
def Journal.writerStep (j : Journal α) (i : Nat) (w : Writer α) (o : Outcome) : Journal α :=
  match w.phase with
  | .connecting =>
    if o.fails then { j with writeErrors := j.writeErrors+1 }.goto i w .ended
    else j.goto i w .initializing
  | .initializing => j.goto i w (if o.fails then .closing else .checking)
  | .checking => j.goto i w (if j.stop && j.queue.isEmpty then .closing else .dequeuing [])
  | .dequeuing batch => j.dequeue i w batch
  | .pruneDue => j.goto i w (if o.due then .pruneAge 0 else .checking)
  | .closing => j.put i ⟨.ended,none⟩
  | .ended => j
  | .beginning _ | .inserting _ | .committing _ | .rollingBack _ => j.writeBatch i w o
  | .pruneAge _ | .pruneCount _ | .pruneRows _ _ | .pruneCommit _ => j.runPrune i w o

inductive Action (α : Type) where
  | start
  | closeBegin
  | closeEnd
  | appendCheck
  | appendPut (item : α)
  | writer (i : Nat) (o : Outcome)
  deriving DecidableEq

def Journal.step (j : Journal α) : Action α → Journal α
  | .start => j.start
  | .closeBegin => j.closeBegin
  | .closeEnd => j.closeEnd
  | .appendCheck => j.appendCheck
  | .appendPut item => j.appendPut item
  | .writer i o =>
    match j.writers[i]? with
    | some w => j.writerStep i w o
    | none => j

def held (writers : List (Writer α)) : Nat := (writers.map (·.phase.batch.length)).sum

def Journal.Accounted (j : Journal α) : Prop :=
  j.appended = j.committed.length+j.dropped+j.queue.length+held j.writers

instance (j : Journal α) : Decidable j.Accounted :=
  inferInstanceAs (Decidable (_ = _))

/-- The step does not make a batch fail: `BEGIN` finds no transaction open, and neither it nor the
insert nor the commit raises. -/
def Writer.Succeeds (w : Writer α) (o : Outcome) : Bool :=
  match w.phase with
  | .beginning _ => w.txn.isNone && !o.fails
  | .inserting _ => !o.fails
  | .committing _ => !o.fails
  | _ => true

def Journal.Succeeds (j : Journal α) : Action α → Prop
  | .writer i o => ∀ w ∈ j.writers[i]?, w.Succeeds o
  | _ => True

instance (j : Journal α) (a : Action α) : Decidable (j.Succeeds a) :=
  match a with
  | .writer i o => inferInstanceAs (Decidable (∀ w ∈ j.writers[i]?, w.Succeeds o))
  | .start | .closeBegin | .closeEnd | .appendCheck | .appendPut _ => isTrue trivial

def Writer.Clean (w : Writer α) : Prop :=
  match w.phase with
  | .rollingBack _ => False
  | .committing batch => w.uncommitted = batch
  | _ => w.uncommitted = []

structure Journal.Sound (j : Journal α) : Prop where
  accounted : j.Accounted
  clean : ∀ w ∈ j.writers,w.Clean

variable {j : Journal α} {i : Nat} {w : Writer α}

theorem held_append (writers : List (Writer α)) (w : Writer α) :
    held (writers ++ [w]) = held writers+w.phase.batch.length := by
  simp [held]

theorem held_set {writers : List (Writer α)} (hw : writers[i]? = some w) (w' : Writer α) :
    held (writers.set i w')+w.phase.batch.length = held writers+w'.phase.batch.length := by
  induction writers generalizing i with
  | nil => simp at hw
  | cons first rest ih =>
    cases i with
    | zero =>
      simp only [getElem?_cons_zero,Option.some.injEq] at hw
      subst hw
      simp only [held,set_cons_zero,map_cons,sum_cons]
      omega
    | succ i =>
      have hrest := ih (by simpa using hw)
      simp only [held,set_cons_succ,map_cons,sum_cons] at hrest ⊢
      omega

variable {w' : Writer α}

theorem Journal.Sound.change {j' : Journal α} (h : j.Sound)
    (hw : j.writers[i]? = some w) (hset : j'.writers = j.writers.set i w') (hclean : w'.Clean)
    (happended : j'.appended = j.appended)
    (hcount : j'.committed.length+j'.dropped+j'.queue.length+w'.phase.batch.length =
      j.committed.length+j.dropped+j.queue.length+w.phase.batch.length) : j'.Sound := by
  constructor
  · have hheld := held_set hw w'
    have haccounted := h.accounted
    unfold Journal.Accounted at haccounted ⊢
    rw [hset]
    omega
  · intro v hv
    rw [hset] at hv
    cases mem_or_eq_of_mem_set hv with
    | inl hold => exact h.clean v hold
    | inr hnew => exact hnew ▸ hclean

theorem Journal.Sound.put (h : j.Sound) (hw : j.writers[i]? = some w)
    (hclean : w'.Clean) (hbatch : w'.phase.batch = w.phase.batch) : (j.put i w').Sound := by
  apply h.change hw
  · rfl
  · exact hclean
  · rfl
  · simp [Journal.put,hbatch]

theorem Journal.Sound.clean_of (h : j.Sound) (hw : j.writers[i]? = some w) : w.Clean :=
  h.clean w (mem_of_getElem? hw)

theorem Writer.delete_uncommitted : w.delete.uncommitted = w.uncommitted := by
  simp [Writer.delete,Writer.uncommitted]

section
variable (h : j.Sound)
include h

namespace Journal.Sound

theorem dequeue {batch : List α} (hw : j.writers[i]? = some w)
    (hphase : w.phase = .dequeuing batch) : (j.dequeue i w batch).Sound := by
  have hclean := h.clean_of hw
  simp only [Writer.Clean,hphase] at hclean
  unfold Journal.dequeue
  cases hqueue : j.queue with
  | nil =>
    simp only
    split
    · rename_i hempty
      have hbatch : batch = [] := by simpa using hempty
      apply h.put hw
      · exact hclean
      · simp [Phase.batch,hphase,hbatch]
    · apply h.put hw
      · exact hclean
      · simp [Phase.batch,hphase]
  | cons item rest =>
    simp only
    split
    · apply h.change hw
      · rfl
      · exact hclean
      · rfl
      · simp [Journal.goto,Journal.put,Phase.batch,hphase,hqueue]
        omega
    · apply h.change hw
      · rfl
      · exact hclean
      · rfl
      · simp [Journal.goto,Journal.put,Phase.batch,hphase,hqueue]
        omega

theorem writeBatch (hw : j.writers[i]? = some w) {o : Outcome}
    (hok : w.Succeeds o = true) : (j.writeBatch i w o).Sound := by
  have hclean := h.clean_of hw
  unfold Journal.writeBatch
  cases hphase : w.phase with
  | beginning batch =>
    simp only [Writer.Succeeds,hphase,and_eq_true,Option.isNone_iff_eq_none,not_eq_true'] at hok
    simp only [hok.1,hok.2,Option.isSome_none,Bool.or_self,Bool.false_eq_true,if_false]
    apply h.put hw
    · simp [Writer.Clean,Writer.uncommitted]
    · simp [Phase.batch,hphase]
  | inserting batch =>
    simp only [Writer.Succeeds,hphase,not_eq_true'] at hok
    simp only [Writer.Clean,hphase] at hclean
    simp only [hok,false_eq_true,if_false,hclean,nil_append]
    apply h.put hw
    · simp [Writer.Clean,Writer.uncommitted]
    · simp [Phase.batch,hphase]
  | committing batch =>
    simp only [Writer.Succeeds,hphase,not_eq_true'] at hok
    simp only [Writer.Clean,hphase] at hclean
    simp only [hok,false_eq_true,if_false]
    apply h.change hw
    · rfl
    · simp [Writer.Clean,Writer.uncommitted]
    · rfl
    · simp [Journal.commit,Journal.put,Phase.batch,hphase,hclean]
      omega
  | rollingBack batch => simp [Writer.Clean,hphase] at hclean
  | _ => exact h

theorem idle (hw : j.writers[i]? = some w)
    (hbatch : w.phase.batch = []) (hnone : w'.uncommitted = [])
    (hidle : w'.phase.batch = []) (hrolling : ∀ batch, w'.phase ≠ .rollingBack batch) :
    (j.put i w').Sound := by
  apply h.put hw
  · unfold Writer.Clean
    split
    · exact absurd (by assumption) (hrolling _)
    · rename_i hphase
      rw [hphase] at hidle
      exact hnone.trans hidle.symm
    · exact hnone
  · rw [hbatch,hidle]

theorem runPrune (hw : j.writers[i]? = some w)
    (hbatch : w.phase.batch = []) (hnone : w.uncommitted = []) (o : Outcome) :
    (j.runPrune i w o).Sound := by
  have hdelete : w.delete.uncommitted = [] := Writer.delete_uncommitted.trans hnone
  have hstay : ∀ phase : Phase α, phase.batch = [] → (∀ batch, phase ≠ .rollingBack batch) →
      (j.goto i w phase).Sound ∧ (j.goto i w.delete phase).Sound := by
    intro phase hidle hrolling
    exact ⟨h.idle hw hbatch hnone hidle hrolling,h.idle hw hbatch hdelete hidle hrolling⟩
  unfold Journal.runPrune
  cases hphase : w.phase with
  | pruneAge pruned =>
    simp only
    split
    · exact (hstay _ rfl (by simp)).1
    · split
      · exact (hstay _ rfl (by simp)).2
      · split
        · exact (hstay _ rfl (by simp)).2
        · exact (hstay _ rfl (by simp)).2
  | pruneCount pruned =>
    simp only
    split
    · exact (hstay _ rfl (by simp)).1
    · split
      · exact (hstay _ rfl (by simp)).1
      · exact (hstay _ rfl (by simp)).1
  | pruneRows overflow pruned =>
    simp only
    split
    · exact (hstay _ rfl (by simp)).1
    · split
      · exact (hstay _ rfl (by simp)).2
      · split
        · exact (hstay _ rfl (by simp)).2
        · exact (hstay _ rfl (by simp)).2
  | pruneCommit pruned =>
    simp only
    split
    · exact (hstay _ rfl (by simp)).1
    · split
      · apply h.change hw
        · rfl
        · exact hnone
        · rfl
        · simp [Journal.goto,Journal.put,Phase.batch,hphase]
      · apply h.change hw
        · rfl
        · simp [Writer.Clean,Writer.uncommitted]
        · rfl
        · simp [Journal.commit,Journal.put,Phase.batch,hphase,hnone]
  | _ => exact h

theorem writerStep (hw : j.writers[i]? = some w) {o : Outcome}
    (hok : w.Succeeds o = true) : (j.writerStep i w o).Sound := by
  have hclean := h.clean_of hw
  unfold Journal.writerStep
  cases hphase : w.phase with
  | connecting =>
    simp only [Writer.Clean,hphase] at hclean
    simp only
    split
    · apply h.change hw
      · rfl
      · exact hclean
      · rfl
      · simp [Journal.goto,Journal.put,Phase.batch,hphase]
    · exact h.idle hw (by simp [hphase,Phase.batch]) hclean rfl (by simp)
  | initializing | checking | pruneDue =>
    simp only [Writer.Clean,hphase] at hclean
    simp only
    split
    · exact h.idle hw (by simp [hphase,Phase.batch]) hclean rfl (by simp)
    · exact h.idle hw (by simp [hphase,Phase.batch]) hclean rfl (by simp)
  | dequeuing batch => exact h.dequeue hw hphase
  | closing => exact h.idle hw (by simp [hphase,Phase.batch]) rfl rfl (by simp)
  | ended => exact h
  | beginning _ => exact h.writeBatch hw hok
  | inserting _ => exact h.writeBatch hw hok
  | committing _ => exact h.writeBatch hw hok
  | rollingBack _ => exact h.writeBatch hw hok
  | _ =>
    simp only [Writer.Clean,hphase] at hclean
    exact h.runPrune hw (by simp [hphase,Phase.batch]) hclean o

theorem start : j.start.Sound := by
  unfold Journal.start
  split
  · exact h
  · constructor
    · have haccounted := h.accounted
      simpa [Journal.Accounted,held_append,Phase.batch] using haccounted
    · intro w hw
      cases mem_append.1 hw with
      | inl hold => exact h.clean w hold
      | inr hnew =>
        have hw : w = ⟨.connecting,none⟩ := by simpa using hnew
        simp [hw,Writer.Clean,Writer.uncommitted]

theorem appendPut (item : α) : (j.appendPut item).Sound := by
  have haccounted := h.accounted
  unfold Journal.Accounted at haccounted
  unfold Journal.appendPut
  split
  · exact h
  · simp only
    split
    · constructor
      · simp only [Journal.Accounted]
        omega
      · exact h.clean
    · constructor
      · simp only [Journal.Accounted,length_append,length_singleton]
        omega
      · exact h.clean

theorem frame {j' : Journal α} (hwriters : j'.writers = j.writers)
    (hqueue : j'.queue = j.queue) (hdropped : j'.dropped = j.dropped)
    (happended : j'.appended = j.appended) (hcommitted : j'.committed = j.committed) :
    j'.Sound := by
  constructor
  · have haccounted := h.accounted
    unfold Journal.Accounted at haccounted ⊢
    rw [hwriters,hqueue,hdropped,happended,hcommitted]
    exact haccounted
  · rw [hwriters]
    exact h.clean

theorem step {a : Action α} (hok : j.Succeeds a) : (j.step a).Sound := by
  cases a with
  | start => exact h.start
  | closeBegin =>
    simp only [Journal.step,Journal.closeBegin]
    split
    · exact h.frame rfl rfl rfl rfl rfl
    · exact h
  | closeEnd =>
    simp only [Journal.step,Journal.closeEnd]
    split
    · exact h
    · split
      · exact h.frame rfl rfl rfl rfl rfl
      · exact h.frame rfl rfl rfl rfl rfl
  | appendCheck =>
    simp only [Journal.step,Journal.appendCheck]
    split
    · exact h.frame rfl rfl rfl rfl rfl
    · exact h
  | appendPut item => exact h.appendPut item
  | writer i o =>
    simp only [Journal.step]
    split
    · rename_i w hw
      exact h.writerStep hw (hok w hw)
    · exact h

end Journal.Sound

end

end

section
variable {α : Type}

theorem Journal.initial_sound (settings : Settings) :
    (Journal.initial settings : Journal α).Sound := by
  constructor
  · simp [Journal.Accounted,Journal.initial,held]
  · simp [Journal.initial]

/-- In every run in which no batch fails, at every moment every entry is committed, dropped,
queued or in a batch. -/
theorem accounted_of_succeeds (settings : Settings) (actions : List (Action α))
    (hok : Meets Journal.step Journal.Succeeds (Journal.initial settings) actions) :
    (run Journal.step (Journal.initial settings) actions).Accounted := by
  have hsound := hok.invariant (P := Journal.Sound) (fun j a h hok => h.step hok)
    (Journal.initial_sound settings)
  exact hsound.accounted

end

def byAge : Settings := ⟨10000,200,none,true,1000⟩

def fine : Outcome := ⟨false,0,false⟩

theorem accounted_of_succeeds_two : (run Journal.step (Journal.initial byAge : Journal Nat)
      [.start,.appendCheck,.appendPut 1,.writer 0 fine,.writer 0 fine,.writer 0 fine,
        .writer 0 fine,.writer 0 fine,.appendCheck,.appendPut 2,.writer 0 fine,.writer 0 fine,
        .writer 0 fine,.closeBegin,.closeEnd]).Accounted := by
  apply accounted_of_succeeds
  decide

theorem lost_after_prune : ¬ (run Journal.step (Journal.initial byAge : Journal Nat)
      [.start,.writer 0 fine,.writer 0 fine,.writer 0 fine,.writer 0 fine,
        .writer 0 ⟨false,0,true⟩,.writer 0 fine,.writer 0 fine,.writer 0 fine,.appendCheck,
        .appendPut 1,.writer 0 fine,.writer 0 fine,.writer 0 fine,.writer 0 fine,
        .writer 0 fine]).Accounted := by
  decide

end ExperimentControl.CommandJournal

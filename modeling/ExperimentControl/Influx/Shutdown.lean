import ExperimentControl.Influx.Custody

/-!
What becomes of the queued points when the Influx writer is stopped: the main loop hands over what is left
once it has ended, and the HTTP thread leaves at its first look at the same stop.
-/

namespace ExperimentControl.Influx
open Lib List

/-- The points that no write has begun for: in the point queue, in the hands of a `_flush`, or in the HTTP
queue. -/
def Writer.waiting (w : Writer) : List Point := w.queue ++ w.main.points ++ batchPoints w.httpQueue

/-- Every point that was queued has been posted, with success, exactly once. -/
def AllWritten (w : Writer) : Prop := ∀ p ∈ w.ingested, (acknowledged w.posts).count p = 1

def KnownBatch (cfg : Config) (batch : Batch) : Prop := ∀ group ∈ batch, group.1 ∈ cfg.destinations

/-- A writer in its main loop: each point is in one place, under a destination that is known, no write has
failed, and the HTTP thread is there. -/
structure Working (w : Writer) : Prop extends Located w where
  undropped : w.dropped = []
  main : w.main = .loop
  left : w.left = false
  http : w.http = .head ∨ w.http = .get ∨ ∃ batch rest, w.http = .writing batch rest [] ∧ KnownBatch w.cfg rest
  queue : ∀ p ∈ w.queue, p.destination ∈ w.cfg.destinations
  httpQueue : ∀ item ∈ w.httpQueue, ∃ batch, item = some batch ∧ KnownBatch w.cfg batch

/-- Every destination answers with success and at once, none is in backoff, and neither queue is full. -/
def Prompt (w : Writer) : Event → Prop
  | .ingest _ _ => w.queue.length < w.cfg.maxQueuePoints
  | .split now => ∀ destination, w.inBackoff destination now = false
  | .offer | .putSentinel => w.httpQueue.length < httpQueueMax
  | .join timedOut => timedOut = false
  | .write now _ outcome => outcome = .success ∧ ∀ destination, w.inBackoff destination now = false
  | .stopRequested | .leaveLoop _ | .flush | .look | .get => True

/-- The HTTP thread leaves on the stop only when nothing waits, and nothing comes in after that. -/
def LeavesNothing (w : Writer) : Event → Prop
  | .look => w.http = .head → w.stop = true → w.waiting = []
  | .ingest destination _ => w.main = .loop → destination ∈ w.cfg.destinations → w.http ≠ .ended
  | _ => True

/-- What the main loop has in hand is in order: in a `_flush` the queue is empty and nothing is in backoff. -/
def MainKept (cfg : Config) (queue : List Point) (left : Bool) : MainPhase → Prop
  | .loop => left = false
  | .closing => left = true
  | .splitting rest ready backoff => queue = [] ∧ backoff = [] ∧ KnownBatch cfg rest ∧ KnownBatch cfg ready
  | .offering ready => queue = [] ∧ KnownBatch cfg ready
  | .sentinel | .joining | .returned => queue = []

def HttpKept (cfg : Config) (waiting : List Point) : HttpPhase → Prop
  | .head | .get => True
  | .writing _ rest failed => failed = [] ∧ KnownBatch cfg rest
  | .ended => waiting = []

def QueueKept (cfg : Config) (main : MainPhase) : List (Option Batch) → Prop
  | [] => True
  | none :: rest => rest = [] ∧ (main = .joining ∨ main = .returned)
  | some batch :: rest => KnownBatch cfg batch ∧ QueueKept cfg main rest

structure Orderly (w : Writer) : Prop extends Located w where
  undropped : w.dropped = []
  queue : ∀ p ∈ w.queue, p.destination ∈ w.cfg.destinations
  main : MainKept w.cfg w.queue w.left w.main
  http : HttpKept w.cfg w.waiting w.http
  httpQueue : QueueKept w.cfg w.main w.httpQueue
  joined : w.main = .returned → w.http = .ended

section
variable {cfg : Config} {w : Writer} {py : Parsers}

theorem knownBatch_addPoint {batch : Batch} {point : Point} (h : KnownBatch cfg batch)
    (hpoint : point.destination ∈ cfg.destinations) : KnownBatch cfg (addPoint point batch) := by
  induction batch with
  | nil => simpa [addPoint,KnownBatch] using hpoint
  | cons group rest ih =>
    have hrest : KnownBatch cfg rest := fun g hg => h g (by simp [hg])
    have hgroup : group.1 ∈ cfg.destinations := h group (by simp)
    unfold addPoint
    split
    · rintro g (_ | ⟨_,hg⟩)
      · exact hgroup
      · exact hrest g hg
    · rintro g (_ | ⟨_,hg⟩)
      · exact hgroup
      · exact ih hrest g hg

theorem knownBatch_group {pending : List Point} (h : ∀ p ∈ pending, p.destination ∈ cfg.destinations) :
    KnownBatch cfg (groupPointsByDestination pending) := by
  have hfrom : ∀ batch : Batch, KnownBatch cfg batch →
      KnownBatch cfg (pending.foldl (fun batch point => addPoint point batch) batch) := by
    induction pending with
    | nil => exact fun batch hbatch => hbatch
    | cons point rest ih =>
      intro batch hbatch
      exact ih (fun p hp => h p (by simp [hp])) _ (knownBatch_addPoint hbatch (h point (by simp)))
  exact hfrom [] (by simp [KnownBatch])

theorem orderly_of_working (h : Working w) : Orderly w where
  placed := h.placed
  numbered := h.numbered
  undropped := h.undropped
  queue := h.queue
  main := by
    rw [h.main]
    exact h.left
  joined hover := by simp [h.main] at hover
  http := by
    rcases h.http with hhttp | hhttp | ⟨batch,rest,hhttp,hknown⟩
    · rw [hhttp]
      trivial
    · rw [hhttp]
      trivial
    · rw [hhttp]
      exact ⟨rfl,hknown⟩
  httpQueue := by
    have hitems := h.httpQueue
    generalize w.httpQueue = items at hitems
    induction items with
    | nil => trivial
    | cons item rest ih =>
      obtain ⟨batch,rfl,hknown⟩ := hitems item (by simp)
      exact ⟨hknown,ih fun item hitem => hitems item (by simp [hitem])⟩

theorem QueueKept.mono {main main' : MainPhase} {items : List (Option Batch)} (h : QueueKept cfg main items)
    (hmain : main = .joining ∨ main = .returned → main' = .joining ∨ main' = .returned) :
    QueueKept cfg main' items := by
  induction items with
  | nil => trivial
  | cons item rest ih =>
    cases item with
    | none => exact ⟨h.1,hmain h.2⟩
    | some batch => exact ⟨h.1,ih h.2⟩

theorem QueueKept.append {main : MainPhase} {items added : List (Option Batch)} (h : QueueKept cfg main items)
    (hmain : ¬ (main = .joining ∨ main = .returned)) (hadded : QueueKept cfg main added) :
    QueueKept cfg main (items ++ added) := by
  induction items with
  | nil => exact hadded
  | cons item rest ih =>
    cases item with
    | none => exact absurd h.2 hmain
    | some batch => exact ⟨h.1,ih h.2⟩

theorem count_waiting (h : w.Placed) (hundropped : w.dropped = []) (p : Point) :
    w.waiting.count p + w.http.points.count p + (acknowledged w.posts).count p = w.ingested.count p := by
  have hp := h p
  simp only [count_places,hundropped,count_nil] at hp
  simp only [Writer.waiting,count_append]
  omega

section
variable (h : Orderly w)
include h

namespace Orderly

theorem mainStep {w' : Writer} (hlocated : Located w') (hcfg : w'.cfg = w.cfg)
    (hundropped : w'.dropped = w.dropped) (hhttp : w'.http = w.http) (hposts : w'.posts = w.posts)
    (hingested : w.http = .ended → w'.ingested = w.ingested)
    (hqueue : ∀ p ∈ w'.queue, p.destination ∈ w.cfg.destinations)
    (hmain : MainKept w.cfg w'.queue w'.left w'.main) (hitems : QueueKept w.cfg w'.main w'.httpQueue)
    (hjoined : w'.main = .returned → w.http = .ended) : Orderly w' where
  toLocated := hlocated
  undropped := hundropped.trans h.undropped
  queue := by rwa [hcfg]
  main := by rwa [hcfg]
  httpQueue := by rwa [hcfg]
  joined := by rwa [hhttp]
  http := by
    have hkept := h.http
    rw [hcfg,hhttp]
    cases hphase : w.http with
    | head => trivial
    | get => trivial
    | writing batch rest failed =>
      rw [hphase] at hkept
      exact hkept
    | ended =>
      -- Nothing waited, and nothing has come in or been written since.
      rw [hphase] at hkept
      have hkept : w.waiting = [] := hkept
      have hempty : ∀ p, w'.waiting.count p = 0 := by
        intro p
        have hbefore := count_waiting h.placed h.undropped p
        have hafter := count_waiting hlocated.placed (hundropped.trans h.undropped) p
        rw [hhttp,hposts,hingested hphase] at hafter
        rw [hkept,count_nil] at hbefore
        omega
      exact eq_nil_iff_forall_not_mem.2 fun p hp => by
        have := count_pos_iff.2 hp
        have := hempty p
        omega

theorem enqueuePoint {destination line : String} (hmain : w.main = .loop)
    (hroom : w.queue.length < w.cfg.maxQueuePoints) (hknown : destination ∈ w.cfg.destinations)
    (hhttp : w.http ≠ .ended) : Orderly (w.enqueuePoint destination line) := by
  have hlocated := h.toLocated.enqueuePoint destination line
  unfold Writer.enqueuePoint at hlocated ⊢
  dsimp only at hlocated ⊢
  rw [if_pos hroom] at hlocated ⊢
  refine h.mainStep hlocated rfl rfl rfl rfl (fun hended => absurd hended hhttp) ?_ ?_ h.httpQueue
    h.joined
  · intro p hp
    rcases mem_append.1 hp with hp | hp
    · exact h.queue p hp
    · obtain rfl : p = ⟨w.ingested.length,destination,line⟩ := by simpa using hp
      exact hknown
  · have hleft := h.main
    rw [hmain] at hleft ⊢
    exact hleft

theorem flushed (hlocated : Located w.flushed) (hqueue : w.left = true → w.queue = [])
    (hmain : ¬ (w.main = .joining ∨ w.main = .returned)) : Orderly w.flushed := by
  refine h.mainStep hlocated rfl rfl rfl rfl (fun _ => rfl) h.queue ?_ ?_ ?_
  · unfold Writer.flushed
    dsimp only
    cases hleft : w.left with
    | false => rfl
    | true => exact hqueue hleft
  · exact h.httpQueue.mono fun hover => absurd hover hmain
  · unfold Writer.flushed
    cases w.left <;> simp

theorem beginFlush (hmain : w.main = .loop ∨ w.main = .closing) : Orderly w.beginFlush := by
  have hnone : w.main.points = [] := by rcases hmain with hmain | hmain <;> rw [hmain] <;> rfl
  have hnot : ¬ (w.main = .joining ∨ w.main = .returned) := by
    rcases hmain with hmain | hmain <;> simp [hmain]
  have hlocated := h.flush hnone
  unfold Writer.beginFlush at hlocated ⊢
  split
  case isTrue hempty =>
    rw [if_pos hempty] at hlocated
    exact h.flushed hlocated (fun _ => isEmpty_iff.1 hempty) hnot
  case isFalse hempty =>
    rw [if_neg hempty] at hlocated
    refine h.mainStep hlocated rfl rfl rfl rfl (fun _ => rfl) (by simp) ?_ ?_ (by simp)
    · exact ⟨rfl,rfl,knownBatch_group h.queue,by simp [KnownBatch]⟩
    · exact h.httpQueue.mono fun hover => absurd hover hnot

theorem splitNext {now : Rat} (hready : ∀ destination, w.inBackoff destination now = false)
    {rest ready : Batch} {backoff : List Point} (hmain : w.main = .splitting rest ready backoff) :
    Orderly (w.splitNext now rest ready backoff) := by
  have hkept := h.main
  rw [hmain] at hkept
  obtain ⟨hqueue,rfl,hrest,hknown⟩ := hkept
  have hlocated := h.split now hmain
  have hnot : ¬ (w.main = .joining ∨ w.main = .returned) := by simp [hmain]
  unfold Writer.splitNext at hlocated ⊢
  cases rest with
  | cons group rest =>
    simp only [hready,Bool.false_eq_true,if_false] at hlocated ⊢
    refine h.mainStep hlocated rfl rfl rfl rfl (fun _ => rfl) h.queue ?_ ?_ (by simp)
    · refine ⟨hqueue,rfl,fun g hg => hrest g (by simp [hg]),fun g hg => ?_⟩
      rcases mem_append.1 hg with hg | hg
      · exact hknown g hg
      · obtain rfl : g = group := by simpa using hg
        exact hrest g (by simp)
    · exact h.httpQueue.mono fun hover => absurd hover hnot
  | nil =>
    have hsame : w.requeue [] = w := rfl
    dsimp only at hlocated ⊢
    rw [hsame] at hlocated ⊢
    split
    case isTrue hempty =>
      rw [if_pos hempty] at hlocated
      exact h.flushed hlocated (fun _ => hqueue) hnot
    case isFalse hempty =>
      rw [if_neg hempty] at hlocated
      refine h.mainStep hlocated rfl rfl rfl rfl (fun _ => rfl) h.queue ⟨hqueue,hknown⟩ ?_
        (by simp)
      exact h.httpQueue.mono fun hover => absurd hover hnot

theorem offer (hroom : w.httpQueue.length < httpQueueMax) {ready : Batch}
    (hmain : w.main = .offering ready) : Orderly (w.offer ready) := by
  have hkept := h.main
  rw [hmain] at hkept
  obtain ⟨hqueue,hknown⟩ := hkept
  have hlocated := h.toLocated.offer hmain
  have hnot : ¬ (w.main = .joining ∨ w.main = .returned) := by simp [hmain]
  unfold Writer.offer at hlocated ⊢
  rw [if_pos hroom] at hlocated ⊢
  refine h.mainStep hlocated rfl rfl rfl rfl (fun _ => rfl) h.queue ?_ ?_ ?_
  · unfold Writer.flushed
    dsimp only
    cases hleft : w.left with
    | false => rfl
    | true => exact hqueue
  · have happended : QueueKept w.cfg w.main (w.httpQueue ++ [some ready]) :=
      h.httpQueue.append hnot ⟨hknown,trivial⟩
    exact happended.mono fun hover => absurd hover hnot
  · unfold Writer.flushed
    cases w.left <;> simp

theorem putSentinel (hroom : w.httpQueue.length < httpQueueMax)
    (hmain : w.main = .sentinel) : Orderly w.putSentinel := by
  have hkept := h.main
  rw [hmain] at hkept
  have hlocated := h.moved (placed_putSentinel h.placed hmain) rfl
  have hnot : ¬ (w.main = .joining ∨ w.main = .returned) := by simp [hmain]
  refine h.mainStep hlocated rfl rfl rfl rfl (fun _ => rfl) h.queue hkept ?_ (by simp [Writer.putSentinel])
  unfold Writer.putSentinel
  dsimp only
  rw [if_pos hroom]
  have hitems : ∀ items : List (Option Batch), QueueKept w.cfg w.main items →
      QueueKept w.cfg .joining (items ++ [none]) := by
    intro items hitems
    induction items with
    | nil => exact ⟨rfl,.inl rfl⟩
    | cons item rest ih =>
      cases item with
      | none => exact absurd hitems.2 hnot
      | some batch => exact ⟨hitems.1,ih hitems.2⟩
  exact hitems w.httpQueue h.httpQueue

theorem atHead (hhttp : w.http = .head) (hleaves : w.stop = true → w.waiting = []) :
    Orderly w.atHead where
  toLocated := h.moved (placed_atHead h.placed hhttp) rfl
  undropped := h.undropped
  queue := h.queue
  main := h.main
  httpQueue := h.httpQueue
  joined hover := absurd (h.joined hover) (by simp [hhttp])
  http := by
    unfold Writer.atHead
    dsimp only
    cases hstop : w.stop with
    | false => trivial
    | true => exact hleaves hstop

theorem getBatch (hhttp : w.http = .get) : Orderly w.getBatch := by
  have hlocated := h.get hhttp
  have hitems := h.httpQueue
  unfold Writer.getBatch at hlocated ⊢
  match hqueue : w.httpQueue with
  | [] =>
    simp only [hqueue] at hlocated
    exact ⟨hlocated,h.undropped,h.queue,h.main,trivial,trivial,fun hover => absurd (h.joined hover) (by simp [hhttp])⟩
  | none :: rest =>
    simp only [hqueue] at hlocated
    rw [hqueue] at hitems
    obtain ⟨rfl,hover⟩ := hitems
    refine ⟨hlocated,h.undropped,h.queue,h.main,?_,trivial,fun _ => rfl⟩
    -- The main loop is past its last flush, so that the sentinel was all that was left.
    have hkept := h.main
    show w.queue ++ w.main.points ++ batchPoints [] = []
    rcases hover with hmain | hmain
    · rw [hmain] at hkept ⊢
      have hempty : w.queue = [] := hkept
      rw [hempty]
      rfl
    · rw [hmain] at hkept ⊢
      have hempty : w.queue = [] := hkept
      rw [hempty]
      rfl
  | some batch :: rest =>
    simp only [hqueue] at hlocated
    rw [hqueue] at hitems
    exact ⟨hlocated,h.undropped,h.queue,h.main,⟨rfl,hitems.1⟩,hitems.2,
      fun hover => absurd (h.joined hover) (by simp [hhttp])⟩

theorem writeNext {now nowWall : Rat}
    (hready : ∀ destination, w.inBackoff destination now = false) {batch rest : Batch} {failed : List Point}
    (hhttp : w.http = .writing batch rest failed) :
    Orderly (w.writeNext py now nowWall .success batch rest failed) := by
  have hkept := h.http
  rw [hhttp] at hkept
  obtain ⟨rfl,hknown⟩ := hkept
  have hlocated := @Located.writeNext _ py now nowWall .success _ _ _ h.toLocated hhttp
    trivial
  unfold Writer.writeNext at hlocated ⊢
  cases rest with
  | nil =>
    exact ⟨hlocated,h.undropped,h.queue,h.main,trivial,h.httpQueue,
      fun hover => absurd (h.joined hover) (by simp [hhttp])⟩
  | cons group rest =>
    have hgroup : group.1 ∈ w.cfg.destinations := hknown group (by simp)
    simp only [hready,hgroup,not_true_eq_false,decide_false,Bool.or_false,Bool.false_eq_true,if_false] at hlocated ⊢
    exact ⟨hlocated,h.undropped,h.queue,h.main,⟨rfl,fun g hg => hknown g (by simp [hg])⟩,h.httpQueue,
      fun hover => absurd (h.joined hover) (by simp [hhttp])⟩

theorem step (event : Event) (hprompt : Prompt w event) (hleaves : LeavesNothing w event) :
    Orderly (w.step py event) := by
  cases event with
  | ingest destination line =>
    simp only [Writer.step]
    split
    case h_1 hmain =>
      split
      case isTrue hknown => exact h.enqueuePoint hmain hprompt hknown (hleaves hmain hknown)
      case isFalse => exact h
    case h_2 => exact h
  | stopRequested => exact ⟨⟨h.placed,h.numbered⟩,h.undropped,h.queue,h.main,h.http,h.httpQueue,h.joined⟩
  | leaveLoop raises =>
    simp only [Writer.step]
    split
    case h_1 hmain =>
      split
      · have hlocated : Located { w with main := .closing, left := true } :=
          h.mainAt (by rw [hmain]; rfl) rfl
        refine h.mainStep hlocated rfl rfl rfl rfl (fun _ => rfl) h.queue rfl ?_ (by simp)
        exact h.httpQueue.mono fun hover => by simp [hmain] at hover
      · exact h
    case h_2 => exact h
  | flush =>
    simp only [Writer.step]
    split
    case h_1 hmain => exact h.beginFlush (.inl hmain)
    case h_2 hmain => exact h.beginFlush (.inr hmain)
    case h_3 => exact h
  | split now =>
    simp only [Writer.step]
    split
    case h_1 hmain => exact h.splitNext hprompt hmain
    case h_2 => exact h
  | offer =>
    simp only [Writer.step]
    split
    case h_1 hmain => exact h.offer hprompt hmain
    case h_2 => exact h
  | putSentinel =>
    simp only [Writer.step]
    split
    case h_1 hmain => exact h.putSentinel hprompt hmain
    case h_2 => exact h
  | join timedOut =>
    obtain rfl : timedOut = false := hprompt
    simp only [Writer.step,Bool.false_eq_true,if_false]
    split
    case h_1 hmain hended =>
      have hlocated : Located { w with main := .returned } := h.mainAt (by rw [hmain]; rfl) rfl
      have hkept := h.main
      rw [hmain] at hkept
      refine h.mainStep hlocated rfl rfl rfl rfl (fun _ => rfl) h.queue hkept ?_ fun _ => hended
      exact h.httpQueue.mono fun _ => .inr rfl
    case h_2 => exact h
    case h_3 => exact h
  | look =>
    simp only [Writer.step]
    split
    case h_1 hhttp => exact h.atHead hhttp (hleaves hhttp)
    case h_2 => exact h
  | get =>
    simp only [Writer.step]
    split
    case h_1 hhttp => exact h.getBatch hhttp
    case h_2 => exact h
  | write now nowWall outcome =>
    obtain ⟨rfl,hready⟩ := hprompt
    simp only [Writer.step]
    split
    case h_1 batch rest failed hhttp => exact h.writeNext hready hhttp
    case h_2 => exact h

end Orderly

end

def Lost (w : Writer) : Prop := w.http = .ended ∧ ∃ p ∈ w.ingested, p ∉ acknowledged w.posts

theorem step_ended (hhttp : w.http = .ended) (event : Event) :
    (w.step py event).http = .ended ∧ (w.step py event).posts = w.posts ∧
      ∀ p ∈ w.ingested, p ∈ (w.step py event).ingested := by
  cases event with
  | ingest destination line =>
    simp only [Writer.step]
    split
    · split
      · refine ⟨?_,posts_enqueuePoint destination line,fun p hp => by simp [hp]⟩
        unfold Writer.enqueuePoint
        dsimp only
        split
        · exact hhttp
        · split <;> exact hhttp
      · exact ⟨hhttp,rfl,fun p hp => hp⟩
    · exact ⟨hhttp,rfl,fun p hp => hp⟩
  | stopRequested => exact ⟨hhttp,rfl,fun p hp => hp⟩
  | leaveLoop raises =>
    simp only [Writer.step]
    split
    · split <;> exact ⟨hhttp,rfl,fun p hp => hp⟩
    · exact ⟨hhttp,rfl,fun p hp => hp⟩
  | flush =>
    simp only [Writer.step,Writer.beginFlush]
    split
    · split <;> exact ⟨hhttp,rfl,fun p hp => hp⟩
    · split <;> exact ⟨hhttp,rfl,fun p hp => hp⟩
    · exact ⟨hhttp,rfl,fun p hp => hp⟩
  | split now =>
    simp only [Writer.step,Writer.splitNext]
    split
    · split <;> (split <;> exact ⟨hhttp,rfl,fun p hp => hp⟩)
    · exact ⟨hhttp,rfl,fun p hp => hp⟩
  | offer =>
    simp only [Writer.step,Writer.offer]
    split
    · split <;> exact ⟨hhttp,rfl,fun p hp => hp⟩
    · exact ⟨hhttp,rfl,fun p hp => hp⟩
  | putSentinel =>
    simp only [Writer.step]
    split <;> exact ⟨hhttp,rfl,fun p hp => hp⟩
  | join timedOut =>
    simp only [Writer.step]
    split
    · exact ⟨hhttp,rfl,fun p hp => hp⟩
    · split <;> exact ⟨hhttp,rfl,fun p hp => hp⟩
    · exact ⟨hhttp,rfl,fun p hp => hp⟩
  | look | get | write now nowWall outcome =>
    simp only [Writer.step,hhttp]
    exact ⟨trivial,trivial,fun p hp => hp⟩

theorem Lost.step (h : Lost w) (event : Event) : Lost (w.step py event) := by
  obtain ⟨hhttp,p,hp,hnot⟩ := h
  obtain ⟨hended,hposts,hkept⟩ := @step_ended _ py hhttp event
  exact ⟨hended,p,hkept p hp,by rwa [hposts]⟩

theorem Lost.not_allWritten (h : Lost w) : ¬ AllWritten w := by
  obtain ⟨-,p,hp,hnot⟩ := h
  intro hall
  have hone := hall p hp
  rw [count_eq_zero.2 hnot] at hone
  cases hone

theorem Orderly.lost (h : Orderly w) (event : Event) (hleaves : ¬ LeavesNothing w event) :
    Lost (w.step py event) := by
  cases event with
  | look =>
    simp only [LeavesNothing,not_forall] at hleaves
    obtain ⟨hhttp,hstop,hwaiting⟩ := hleaves
    obtain ⟨p,hp⟩ := exists_mem_of_ne_nil _ hwaiting
    have hcount := count_waiting h.placed h.undropped p
    have hone := h.placed.count_le_one h.numbered p
    have hheld : 0 < w.waiting.count p := count_pos_iff.2 hp
    rw [h.placed p] at hone
    simp only [Writer.step,hhttp]
    have hcame : p ∈ w.ingested := count_pos_iff.1 (by omega)
    have hnot : p ∉ acknowledged w.posts := count_eq_zero.1 (by omega)
    exact ⟨by simp [Writer.atHead,hstop],p,hcame,hnot⟩
  | ingest destination line =>
    simp only [LeavesNothing,not_forall,not_not] at hleaves
    obtain ⟨hmain,hknown,hended⟩ := hleaves
    have hcame : (⟨w.ingested.length,destination,line⟩ : Point) ∈ (w.step py (.ingest destination line)).ingested := by
      simp [Writer.step,hmain,hknown]
    obtain ⟨hhttp,hposts,-⟩ := @step_ended _ py hended (.ingest destination line)
    refine ⟨hhttp,_,hcame,?_⟩
    rw [hposts]
    intro hacknowledged
    -- The number of the point is none of those that have come in before.
    have hold : (⟨w.ingested.length,destination,line⟩ : Point) ∈ w.ingested := by
      have hcount := count_waiting h.placed h.undropped ⟨w.ingested.length,destination,line⟩
      have hthere := count_pos_iff.2 hacknowledged
      exact count_pos_iff.1 (by omega)
    have hnumber := mem_map_of_mem (f := Point.number) hold
    rw [h.numbered] at hnumber
    simp at hnumber
  | stopRequested | leaveLoop _ | flush | split _ | offer | putSentinel | join _ | get | write _ _ _ =>
    exact absurd trivial hleaves

theorem lost_of_not_meets (h : Orderly w) {events : List Event} (hprompt : Meets (Writer.step py) Prompt w events)
    (hleaves : ¬ Meets (Writer.step py) LeavesNothing w events) : Lost (run (Writer.step py) w events) := by
  induction events generalizing w with
  | nil => exact absurd trivial hleaves
  | cons event rest ih =>
    by_cases hhere : LeavesNothing w event
    · exact ih (h.step event hprompt.1 hhere) hprompt.2 fun hrest => hleaves ⟨hhere,hrest⟩
    · exact run_invariant (fun w event hlost => hlost.step event) (h.lost event hhere) rest

theorem Orderly.allWritten (h : Orderly w) (hreturned : w.main = .returned) : AllWritten w := by
  have hended := h.joined hreturned
  have hkept := h.http
  rw [hended] at hkept
  have hwaiting : w.waiting = [] := hkept
  intro p hp
  have hcount := count_waiting h.placed h.undropped p
  have hone := h.placed.count_le_one h.numbered p
  have hcame : 0 < w.ingested.count p := count_pos_iff.2 hp
  rw [hwaiting,hended] at hcount
  simp only [HttpPhase.points,count_nil] at hcount
  rw [h.placed p] at hone
  omega

end

/-- Where every destination answers with success and at once, a shutdown writes everything that was queued exactly
where the HTTP thread leaves nothing behind. -/
theorem shutdown_writes_iff (py : Parsers) (w : Writer) (h : Working w) (events : List Event)
    (hprompt : Meets (Writer.step py) Prompt w events)
    (hreturned : (run (Writer.step py) w events).main = .returned) :
    AllWritten (run (Writer.step py) w events) ↔ Meets (Writer.step py) LeavesNothing w events := by
  have horderly := orderly_of_working h
  constructor
  · intro hall
    by_contra hleaves
    exact (lost_of_not_meets horderly hprompt hleaves).not_allWritten hall
  · intro hleaves
    have hboth : Orderly (run (Writer.step py) w events) :=
      (hprompt.and hleaves).invariant (fun _ event h hok => h.step event hok.1 hok.2) horderly
    exact hboth.allWritten hreturned

/-! A writer that is stopped with one point queued. -/

theorem working_new : Working (.new oneDestination) where
  placed := placed_new oneDestination
  numbered := rfl
  undropped := rfl
  main := rfl
  left := rfl
  http := .inl rfl
  queue := by simp [Writer.new]
  httpQueue := by simp [Writer.new]

def ending : List Event := [.leaveLoop false,.flush,.split 0,.split 0,.offer,.putSentinel]

def stoppedInGet : List Event :=
  [.ingest "default" "temperature value=21.5",.look,.stopRequested] ++ ending ++
    [.get,.write 0 0 .success,.write 0 0 .success,.look,.join false]

def stoppedAtHead : List Event :=
  [.ingest "default" "temperature value=21.5",.stopRequested,.look] ++ ending ++ [.join false]

theorem inBackoff_new {now : Rat} (w : Writer) (h : w.retry.entries = []) (destination : String) :
    w.inBackoff destination now = false := by
  simp [Writer.inBackoff,OrderedDict.get?,h]

theorem last_batch_written : AllWritten (run (Writer.step noDelays) (.new oneDestination) stoppedInGet) := by
  refine (shutdown_writes_iff _ _ working_new _ ?_ rfl).2 ?_
  · exact ⟨Nat.le_of_ble_eq_true rfl,trivial,trivial,trivial,trivial,inBackoff_new _ rfl,inBackoff_new _ rfl,
      Nat.le_of_ble_eq_true rfl,Nat.le_of_ble_eq_true rfl,trivial,⟨rfl,inBackoff_new _ rfl⟩,⟨rfl,inBackoff_new _ rfl⟩,trivial,rfl,trivial⟩
  · exact ⟨fun _ _ => HttpPhase.noConfusion,fun _ => Bool.noConfusion,trivial,trivial,trivial,trivial,trivial,
      trivial,trivial,trivial,trivial,trivial,fun _ _ => rfl,trivial,trivial⟩

theorem last_batch_lost : ∃ events, Meets (Writer.step noDelays) Prompt (.new oneDestination) events ∧
    (run (Writer.step noDelays) (.new oneDestination) events).main = .returned ∧
    ¬ AllWritten (run (Writer.step noDelays) (.new oneDestination) events) := by
  refine ⟨stoppedAtHead,?_,rfl,?_⟩
  · exact ⟨Nat.le_of_ble_eq_true rfl,trivial,trivial,trivial,trivial,inBackoff_new _ rfl,inBackoff_new _ rfl,
      Nat.le_of_ble_eq_true rfl,Nat.le_of_ble_eq_true rfl,rfl,trivial⟩
  · intro hall
    have hone := hall ⟨0,"default","temperature value=21.5"⟩ (by decide)
    revert hone
    decide

end ExperimentControl.Influx

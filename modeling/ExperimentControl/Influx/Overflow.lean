import ExperimentControl.Influx.Custody

/-!
The overflow policy of the point queue: which points are dropped when points come in at its end and failed
ones are put back at its front.
-/

namespace ExperimentControl.Influx
open Lib List

/-- The point queue, with the points that a flush has taken from it and no failure has put back. -/
structure Flow where
  writer : Writer
  out : List Point

inductive QueueEvent where
  | enqueue (destination line : String)
  | flush
  | putBack (points : List Point)

def Flow.step (s : Flow) : QueueEvent → Flow
  | .enqueue destination line => { s with writer := s.writer.enqueuePoint destination line }
  -- `_drain_pending_points`
  | .flush => ⟨{ s.writer with queue := [] },s.out ++ s.writer.queue⟩
  | .putBack points => ⟨s.writer.requeue points,s.out.diff points⟩

def Flow.new (cfg : Config) : Flow := ⟨.new cfg,[]⟩

/-- Within a destination, `p` was ingested before `q`. -/
def Before (p q : Point) : Prop := p.destination = q.destination → p.number < q.number

instance (p q : Point) : Decidable (Before p q) := inferInstanceAs (Decidable (_ → _))

/-- What fails was taken by a flush, and comes in ingest order within each destination. -/
def Fails (s : Flow) : QueueEvent → Prop
  | .putBack points => points.Subperm s.out ∧ points.Pairwise Before
  | .enqueue _ _ | .flush => True

/-- What is put back fits into the queue, and belongs before what waits there. -/
def FitsInFront (s : Flow) : QueueEvent → Prop
  | .putBack points => s.writer.queue.length+points.length ≤ s.writer.cfg.maxQueuePoints ∧
      ∀ p ∈ points, ∀ q ∈ s.writer.queue, Before p q
  | .enqueue _ _ | .flush => True

/-- The queue is within its capacity, and each point is queued, out, or counted as dropped. -/
def Accounted (s : Flow) : Prop :=
  s.writer.queue.length ≤ s.writer.cfg.maxQueuePoints ∧
    ∀ p ∈ s.writer.ingested, s.writer.queue.count p+s.out.count p+s.writer.dropped.count p = 1

/-- The points that the step has dropped are on the policy's side of those that stay. -/
def DropsInOrder (s s' : Flow) : Prop :=
  ∃ dropped, s'.writer.dropped = dropped ++ s.writer.dropped ∧ ∀ p ∈ dropped, ∀ q ∈ s'.writer.queue,
    match s.writer.cfg.overflowPolicy with
    | .dropOldest => Before p q
    | .dropNewest => Before q p

structure Flow.Kept (s : Flow) : Prop where
  room : s.writer.queue.length ≤ s.writer.cfg.maxQueuePoints
  placed : ∀ p, s.writer.queue.count p+s.out.count p+s.writer.dropped.count p = s.writer.ingested.count p
  numbered : s.writer.Numbered
  ordered : s.writer.queue.Pairwise Before

section
variable {s : Flow} {w : Writer} {p : Point}

theorem Writer.Numbered.nodup (h : w.Numbered) : w.ingested.Nodup :=
  Nodup.of_map Point.number (h ▸ nodup_range)

theorem Writer.Numbered.lt (h : w.Numbered) (hp : p ∈ w.ingested) : p.number < w.ingested.length := by
  have hmem := mem_map_of_mem (f := Point.number) hp
  rw [h] at hmem
  exact mem_range.1 hmem

theorem Flow.Kept.accounted (h : s.Kept) : Accounted s :=
  ⟨h.room,fun p hp => (h.placed p).trans (count_eq_one_of_mem h.numbered.nodup hp)⟩

theorem Flow.Kept.queued_lt (h : s.Kept) (hp : p ∈ s.writer.queue) :
    p.number < s.writer.ingested.length := by
  refine h.numbered.lt (count_pos_iff.1 ?_)
  have := count_pos_iff.2 hp
  have := h.placed p
  omega

theorem kept_new (cfg : Config) : (Flow.new cfg).Kept := by
  refine ⟨Nat.zero_le _,fun p => ?_,rfl,Pairwise.nil⟩
  simp [Flow.new,Writer.new]

/-- The point comes in at the end, after the oldest one has made room, or is dropped itself. -/
theorem enqueuePoint_cases (w : Writer) (destination line : String) :
    let point : Point := ⟨w.ingested.length,destination,line⟩
    let w' := w.enqueuePoint destination line
    w'.ingested = w.ingested ++ [point] ∧ w'.cfg = w.cfg ∧
      (w.queue.length < w.cfg.maxQueuePoints ∧ w'.queue = w.queue ++ [point] ∧ w'.dropped = w.dropped ∨
        w.cfg.overflowPolicy = .dropNewest ∧ w'.queue = w.queue ∧ w'.dropped = point :: w.dropped ∨
        w.cfg.overflowPolicy = .dropOldest ∧ w.cfg.maxQueuePoints ≤ w.queue.length ∧
          w'.queue = w.queue.tail ++ [point] ∧ w'.dropped = w.queue.head?.toList ++ w.dropped) := by
  intro point w'
  refine ⟨ingested_enqueuePoint destination line,?_⟩
  simp only [w',Writer.enqueuePoint]
  split
  case isTrue hroom => exact ⟨rfl,.inl ⟨hroom,rfl,rfl⟩⟩
  case isFalse hfull =>
    split
    case h_1 hpolicy => exact ⟨rfl,.inr (.inl ⟨hpolicy,rfl,rfl⟩)⟩
    case h_2 hpolicy => exact ⟨rfl,.inr (.inr ⟨hpolicy,Nat.not_lt.1 hfull,rfl,rfl⟩)⟩

theorem kept_enqueue (h : s.Kept) (destination line : String) :
    (s.step (.enqueue destination line)).Kept ∧ DropsInOrder s (s.step (.enqueue destination line)) := by
  obtain ⟨hingested,hcfg,hcases⟩ := enqueuePoint_cases s.writer destination line
  have hplaced := h.placed
  have hlast : ∀ q ∈ s.writer.queue, Before q ⟨s.writer.ingested.length,destination,line⟩ :=
    fun q hq _ => h.queued_lt hq
  have hnumbered : (s.writer.enqueuePoint destination line).Numbered := by
    have hnumbers : s.writer.ingested.map Point.number = List.range s.writer.ingested.length := h.numbered
    unfold Writer.Numbered
    simp [hnumbers,range_succ]
  simp only [Flow.step,DropsInOrder]
  rcases hcases with ⟨hroom,hqueue,hdropped⟩ | ⟨hpolicy,hqueue,hdropped⟩ | ⟨hpolicy,hfull,hqueue,hdropped⟩
  · refine ⟨⟨?_,fun p => ?_,hnumbered,?_⟩,[],hdropped,by simp⟩
    · simp only [hqueue,hcfg,length_append,length_singleton]
      exact hroom
    · have := hplaced p
      simp only [hqueue,hdropped,hingested,count_append]
      omega
    · simp only [hqueue]
      exact pairwise_append.2 ⟨h.ordered,pairwise_singleton _ _,by simpa using hlast⟩
  · refine ⟨⟨?_,fun p => ?_,hnumbered,hqueue ▸ h.ordered⟩,[_],hdropped,?_⟩
    · simp only [hqueue,hcfg]
      exact h.room
    · have := hplaced p
      simp only [hqueue,hdropped,hingested,count_append,count_cons,count_nil]
      omega
    · simpa only [hqueue,hpolicy,mem_singleton,forall_eq] using hlast
  · cases hold : s.writer.queue with
    | nil =>
      have hpositive := s.writer.cfg.maxQueuePoints_pos
      simp only [hold,length_nil] at hfull
      omega
    | cons oldest rest =>
      have hordered := h.ordered
      simp only [hold,pairwise_cons,tail_cons,head?_cons,Option.toList_some,
        mem_cons,forall_eq_or_imp] at hordered hqueue hdropped hlast
      refine ⟨⟨?_,fun p => ?_,hnumbered,?_⟩,[oldest],hdropped,?_⟩
      · have := h.room
        simp only [hqueue,hcfg,hold,length_append,length_cons] at this ⊢
        omega
      · have := hplaced p
        simp only [hold,hqueue,hdropped,hingested,count_append,count_cons,count_nil] at this ⊢
        omega
      · simp only [hqueue]
        exact pairwise_append.2 ⟨hordered.2,pairwise_singleton _ _,by simpa using hlast.2⟩
      · simp only [hqueue,hpolicy,mem_singleton,forall_eq,mem_append,or_imp,forall_and]
        exact ⟨hordered.1,hlast.1⟩

theorem kept_flush (h : s.Kept) : (s.step .flush).Kept ∧ DropsInOrder s (s.step .flush) := by
  refine ⟨⟨Nat.zero_le _,fun p => ?_,h.numbered,Pairwise.nil⟩,[],rfl,by simp⟩
  have := h.placed p
  simp only [Flow.step,count_append,count_nil]
  omega

theorem requeueFailed_room {cfg : Config} {points queue dropped : List Point}
    (hroom : queue.length+points.length ≤ cfg.maxQueuePoints) :
    requeueFailed cfg points (queue,dropped) = (points ++ queue,dropped) := by
  induction points with
  | nil => rfl
  | cons point rest ih =>
    simp only [length_cons] at hroom
    have hrest : (rest ++ queue).length < cfg.maxQueuePoints := by
      simp only [length_append]
      omega
    rw [requeueFailed,foldr_cons,← requeueFailed,ih (by omega)]
    simp only [requeuePoint,if_pos hrest,cons_append]

theorem kept_putBack (h : s.Kept) {points : List Point} (hfails : Fails s (.putBack points))
    (hfits : FitsInFront s (.putBack points)) :
    (s.step (.putBack points)).Kept ∧ DropsInOrder s (s.step (.putBack points)) := by
  obtain ⟨hout,hsorted⟩ := hfails
  obtain ⟨hroom,hfront⟩ := hfits
  have hrequeue : s.writer.requeue points = { s.writer with queue := points ++ s.writer.queue } := by
    rw [Writer.requeue,requeueFailed_room hroom]
  simp only [Flow.step,DropsInOrder,hrequeue]
  refine ⟨⟨?_,fun p => ?_,h.numbered,pairwise_append.2 ⟨hsorted,h.ordered,hfront⟩⟩,[],rfl,by simp⟩
  · simp only [length_append]
    omega
  · have := h.placed p
    have := hout.count_le p
    simp only [count_append,count_diff]
    omega

end

/-- Where what is put back always fits into the queue and belongs before what waits there, the capacity, the
count and the policy are kept by every step. -/
theorem overflow_policy_kept (cfg : Config) (events : List QueueEvent)
    (h : Meets Flow.step (fun s event => Fails s event ∧ FitsInFront s event) (.new cfg) events) :
    Meets Flow.step (fun s event => Accounted (s.step event) ∧ DropsInOrder s (s.step event)) (.new cfg)
      events := by
  refine h.imp (P := Flow.Kept) (fun s event hkept hmeets => ?_) (kept_new cfg)
  have hstep : (s.step event).Kept ∧ DropsInOrder s (s.step event) := by
    cases event with
    | enqueue destination line => exact kept_enqueue hkept destination line
    | flush => exact kept_flush hkept
    | putBack points => exact kept_putBack hkept hmeets.1 hmeets.2
  exact ⟨⟨hstep.1.accounted,hstep.2⟩,hstep.1⟩

def twoPoints : Config := ⟨2,by decide,.dropOldest,["a"]⟩

def failure (later : List String) : List QueueEvent :=
  [.enqueue "a" "x=1",.enqueue "a" "x=2",.flush] ++ later.map (.enqueue "a") ++
    [.putBack [⟨0,"a","x=1"⟩,⟨1,"a","x=2"⟩]]

/-- A point is dropped before the failure, and another one after it. -/
def fullAgain : List QueueEvent :=
  [.enqueue "a" "x=1",.enqueue "a" "x=2",.enqueue "a" "x=3",.flush,
    .putBack [⟨1,"a","x=2"⟩,⟨2,"a","x=3"⟩],.enqueue "a" "x=4"]

theorem policy_kept_on_failure :
    Meets Flow.step (fun s event => Accounted (s.step event) ∧ DropsInOrder s (s.step event))
      (.new twoPoints) fullAgain ∧
    (run Flow.step (.new twoPoints) fullAgain).writer.dropped =
      [⟨1,"a","x=2"⟩,⟨0,"a","x=1"⟩] := by
  refine ⟨overflow_policy_kept twoPoints fullAgain ?_,by decide⟩
  refine ⟨⟨trivial,trivial⟩,⟨trivial,trivial⟩,⟨trivial,trivial⟩,⟨trivial,trivial⟩,
    ⟨⟨?_,by decide⟩,by decide,by decide⟩,⟨trivial,trivial⟩,trivial⟩
  exact Subperm.refl _

theorem older_point_stays : ¬ ∀ (cfg : Config) (events : List QueueEvent),
    Meets Flow.step Fails (.new cfg) events →
    Meets Flow.step (fun s event => Accounted (s.step event) ∧ DropsInOrder s (s.step event)) (.new cfg)
      events := by
  intro h
  obtain ⟨-,-,-,-,-,⟨-,dropped,hdropped,hpolicy⟩,-⟩ := h twoPoints (failure ["x=3","x=4"])
    ⟨trivial,trivial,trivial,trivial,trivial,⟨Subperm.refl _,by decide⟩,trivial⟩
  have hboth : dropped = [⟨1,"a","x=2"⟩,⟨2,"a","x=3"⟩] :=
    (append_nil dropped).symm.trans hdropped.symm
  have hbefore : Before ⟨2,"a","x=3"⟩ ⟨0,"a","x=1"⟩ := hpolicy _ (by simp [hboth]) _ (by decide)
  exact absurd hbefore (by decide)

end ExperimentControl.Influx

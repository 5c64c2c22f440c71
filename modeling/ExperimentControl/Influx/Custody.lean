import Mathlib.Tactic.Linarith
import Mathlib.Tactic.Positivity
import ExperimentControl.Influx.Writer

/-!
Where the points of the Influx writer are: each of them in one place at any time, never posted again once
it is acknowledged, and each destination that failed with a next attempt.
-/

namespace ExperimentControl.Influx
open Lib List Option

/-- The points that a `_flush` under way has in hand. -/
def MainPhase.points : MainPhase → List Point
  | .splitting rest ready backoff => rest.points ++ ready.points ++ backoff
  | .offering ready => ready.points
  | .loop | .closing | .sentinel | .joining | .returned => []

def HttpPhase.points : HttpPhase → List Point
  | .writing _ rest failed => rest.points ++ failed
  | .head | .get | .ended => []

def batchPoints (httpQueue : List (Option Batch)) : List Point :=
  httpQueue.flatMap fun batch => (batch.map Batch.points).getD []

def acknowledged (posts : List Post) : List Point :=
  posts.flatMap fun post => if post.outcome = .success then post.points else []

namespace Writer

/-- Where a point may be: in the point queue (or in the hands of a `_flush` under way), in a batch in the HTTP
queue, in the batch being written, or acknowledged. -/
def places (w : Writer) : List Point :=
  w.queue ++ w.main.points ++ batchPoints w.httpQueue ++ w.http.points ++ acknowledged w.posts

def Placed (w : Writer) : Prop := ∀ p, w.places.count p + w.dropped.count p = w.ingested.count p

def Numbered (w : Writer) : Prop := w.ingested.map Point.number = List.range w.ingested.length

end Writer

section
variable {cfg : Config} {w : Writer} {py : Parsers}

@[simp] theorem batch_points_nil : Batch.points [] = [] := rfl

@[simp] theorem batch_points_cons (group : String × List Point) (rest : Batch) :
    Batch.points (group :: rest) = group.2 ++ Batch.points rest := flatMap_cons

@[simp] theorem batch_points_append (first second : Batch) :
    Batch.points (first ++ second) = first.points ++ second.points := flatMap_append

@[simp] theorem acknowledged_append (posts : List Post) (post : Post) :
    acknowledged (posts ++ [post]) =
      acknowledged posts ++ if post.outcome = .success then post.points else [] := by
  simp [acknowledged]

theorem count_addPoint (p point : Point) (batch : Batch) :
    (Batch.points (addPoint point batch)).count p = batch.points.count p + [point].count p := by
  induction batch with
  | nil => simp [addPoint]
  | cons group rest ih =>
    unfold addPoint
    split
    · simp only [batch_points_cons,count_append]
      omega
    · simp only [batch_points_cons,count_append,ih]
      omega

variable (p : Point)

theorem count_group (pending : List Point) :
    (groupPointsByDestination pending).points.count p = pending.count p := by
  have hfrom : ∀ batch : Batch, (Batch.points (pending.foldl (fun batch point => addPoint point batch) batch)).count p =
      batch.points.count p + pending.count p := by
    induction pending with
    | nil => simp
    | cons point rest ih =>
      intro batch
      rw [foldl_cons,ih,count_addPoint,← singleton_append (l := rest),count_append]
      omega
  unfold groupPointsByDestination
  simpa using hfrom []

theorem count_requeuePoint (p point : Point) (queue : List Point × List Point) :
    (requeuePoint cfg point queue).1.count p + (requeuePoint cfg point queue).2.count p =
      [point].count p + queue.1.count p + queue.2.count p := by
  obtain ⟨queue,dropped⟩ := queue
  by_cases hroom : queue.length < cfg.maxQueuePoints
  · simp only [requeuePoint,hroom,if_true,count_cons,count_nil]
    omega
  · cases hpolicy : cfg.overflowPolicy with
    | dropNewest =>
      simp only [requeuePoint,hroom,if_false,hpolicy,count_cons,count_nil]
      omega
    | dropOldest =>
      cases queue with
      | nil => simp [requeuePoint,hpolicy]
      | cons oldest rest =>
        simp only [requeuePoint,hroom,if_false,hpolicy,count_cons,count_nil]
        omega

theorem count_requeueFailed (points : List Point) (queue : List Point × List Point) :
    (requeueFailed cfg points queue).1.count p + (requeueFailed cfg points queue).2.count p =
      points.count p + queue.1.count p + queue.2.count p := by
  unfold requeueFailed
  induction points with
  | nil => simp
  | cons point rest ih =>
    rw [foldr_cons,count_requeuePoint,← singleton_append (l := rest),count_append]
    omega

theorem count_requeue (points : List Point) :
    (w.requeue points).queue.count p + (w.requeue points).dropped.count p =
      points.count p + w.queue.count p + w.dropped.count p :=
  count_requeueFailed p points (w.queue,w.dropped)

theorem count_places : w.places.count p = w.queue.count p + w.main.points.count p +
    (batchPoints w.httpQueue).count p + w.http.points.count p + (acknowledged w.posts).count p := by
  simp only [Writer.places,count_append]

theorem placed_new (cfg : Config) : (Writer.new cfg).Placed := by
  intro p
  rfl

theorem placed_enqueuePoint (h : w.Placed) (destination line : String) :
    (w.enqueuePoint destination line).Placed := by
  intro p
  have hp := h p
  unfold Writer.enqueuePoint
  dsimp only
  split
  · simp only [count_places,count_append] at hp ⊢
    omega
  · split
    · simp only [count_places,count_append,count_cons,count_nil] at hp ⊢
      omega
    · rw [count_places] at hp ⊢
      cases hqueue : w.queue with
      | nil =>
        simp only [hqueue,tail_nil,nil_append,head?_nil,toList_none,count_append,count_nil] at hp ⊢
        omega
      | cons oldest rest =>
        simp only [hqueue,tail_cons,head?_cons,toList_some,count_append,count_cons,
          count_nil] at hp ⊢
        omega

theorem placed_flushed (h : ∀ p, w.queue.count p + (batchPoints w.httpQueue).count p + w.http.points.count p +
    (acknowledged w.posts).count p + w.dropped.count p = w.ingested.count p) : w.flushed.Placed := by
  intro p
  have hp := h p
  have hmain : (if w.left then MainPhase.sentinel else .loop).points = [] := by split <;> rfl
  simp only [count_places,Writer.flushed,hmain,count_nil]
  omega

theorem placed_beginFlush (h : w.Placed) (hmain : w.main.points = []) : w.beginFlush.Placed := by
  unfold Writer.beginFlush
  split
  · apply placed_flushed
    intro p
    have hp := h p
    simp only [count_places,hmain,count_nil] at hp
    omega
  · intro p
    have hp := h p
    simp only [count_places,hmain,count_nil] at hp
    simp only [count_places,MainPhase.points,count_append,count_group,batch_points_nil,count_nil]
    omega

theorem placed_splitNext (h : w.Placed) (now : Rat) {rest ready : Batch} {backoff : List Point}
    (hmain : w.main = .splitting rest ready backoff) : (w.splitNext now rest ready backoff).Placed := by
  have hplaced : ∀ p, w.queue.count p + (rest.points.count p + ready.points.count p + backoff.count p) +
      (batchPoints w.httpQueue).count p + w.http.points.count p + (acknowledged w.posts).count p +
      w.dropped.count p = w.ingested.count p := by
    intro p
    have hp := h p
    simpa only [count_places,hmain,MainPhase.points,count_append] using hp
  unfold Writer.splitNext
  cases rest with
  | cons group rest =>
    dsimp only
    split
    · intro p
      have hp := hplaced p
      simp only [count_places,MainPhase.points,count_append,batch_points_cons] at hp ⊢
      omega
    · intro p
      have hp := hplaced p
      simp only [count_places,MainPhase.points,count_append,batch_points_cons,batch_points_append,
        batch_points_nil,count_nil] at hp ⊢
      omega
  | nil =>
    dsimp only
    have hrequeued : ∀ p, (w.requeue backoff).queue.count p + ready.points.count p +
        (batchPoints w.httpQueue).count p + w.http.points.count p + (acknowledged w.posts).count p +
        (w.requeue backoff).dropped.count p = w.ingested.count p := by
      intro p
      have hp := hplaced p
      have hback := count_requeue (w := w) p backoff
      simp only [batch_points_nil,count_nil] at hp
      omega
    split
    case isTrue hempty =>
      apply placed_flushed
      intro p
      have hp := hrequeued p
      simp only [isEmpty_iff.1 hempty,batch_points_nil,count_nil] at hp
      exact hp
    case isFalse =>
      intro p
      have hp := hrequeued p
      rw [count_places]
      exact hp

theorem placed_offer (h : w.Placed) {ready : Batch} (hmain : w.main = .offering ready) :
    (w.offer ready).Placed := by
  have hplaced : ∀ p, w.queue.count p + ready.points.count p + (batchPoints w.httpQueue).count p +
      w.http.points.count p + (acknowledged w.posts).count p + w.dropped.count p = w.ingested.count p := by
    intro p
    have hp := h p
    simpa only [count_places,hmain,MainPhase.points] using hp
  unfold Writer.offer
  split
  · apply placed_flushed
    intro p
    have hp := hplaced p
    simp only [batchPoints,flatMap_append,flatMap_cons,flatMap_nil,map_some,
      getD_some,count_append,count_nil] at hp ⊢
    omega
  · apply placed_flushed
    intro p
    have hp := hplaced p
    have hback := count_requeue (w := w) p ready.points
    have hsame : (batchPoints (w.requeue ready.points).httpQueue).count p +
        (w.requeue ready.points).http.points.count p + (acknowledged (w.requeue ready.points).posts).count p =
        (batchPoints w.httpQueue).count p + w.http.points.count p + (acknowledged w.posts).count p := rfl
    have hcame : (w.requeue ready.points).ingested.count p = w.ingested.count p := rfl
    omega

theorem placed_putSentinel (h : w.Placed) (hmain : w.main = .sentinel) : w.putSentinel.Placed := by
  intro p
  have hp := h p
  unfold Writer.putSentinel
  split
  · simp only [count_places,hmain,MainPhase.points,batchPoints,flatMap_append,flatMap_cons,
      flatMap_nil,map_none,getD_none,append_nil,count_nil] at hp ⊢
    omega
  · simpa only [count_places,hmain,MainPhase.points] using hp

theorem placed_atHead (h : w.Placed) (hhttp : w.http = .head) : w.atHead.Placed := by
  intro p
  have hp := h p
  have hnone : (if w.stop then HttpPhase.ended else .get).points = [] := by split <;> rfl
  simp only [count_places,hhttp,HttpPhase.points] at hp
  simpa only [count_places,Writer.atHead,hnone] using hp

theorem placed_getBatch (h : w.Placed) (hhttp : w.http = .get) : w.getBatch.Placed := by
  intro p
  have hp := h p
  unfold Writer.getBatch
  match hqueue : w.httpQueue with
  | [] => simpa only [count_places,hhttp,hqueue,HttpPhase.points] using hp
  | none :: rest =>
    simp only [count_places,hhttp,hqueue,HttpPhase.points,batchPoints,flatMap_cons,map_none,
      getD_none,nil_append] at hp ⊢
    omega
  | some batch :: rest =>
    simp only [count_places,hhttp,hqueue,HttpPhase.points,batchPoints,flatMap_cons,map_some,
      getD_some,count_append,count_nil] at hp ⊢
    omega

/-- The failure of a write can be recorded: the header gives a delay, or gives none and the destination has
failed fewer than 1024 times in a row. -/
def Recordable (py : Parsers) (w : Writer) : Event → Prop
  | .write now nowWall (.httpError _ retryAfter) => ∀ batch group rest failed,
      w.http = .writing batch (group :: rest) failed → w.inBackoff group.1 now = false →
      group.1 ∈ w.cfg.destinations → ∃ delay, parseRetryAfter py retryAfter nowWall = .ok delay ∧
        (delay = none → ((w.retry.get? group.1).getD .new).consecutiveFailures < 1024)
  | _ => True

theorem recordHttpError_recorded {state : RetryState} {code : Int} {retryAfter : Option String}
    {nowWall : Rat} (now : Rat) {delay : Option Rat} (hparse : parseRetryAfter py retryAfter nowWall = .ok delay)
    (hfew : delay = none → state.consecutiveFailures < 1024) :
    (recordHttpError py state code retryAfter nowWall now).2 = false ∧
      (delay = none → now < (recordHttpError py state code retryAfter nowWall now).1.nextAttempt) := by
  cases delay with
  | some delay => simp [recordHttpError,hparse]
  | none =>
    have hexponent : ¬ 1024 ≤ state.consecutiveFailures := by
      have := hfew rfl
      omega
    have hpositive : (0 : Rat) < min 60 (2^state.consecutiveFailures) := by positivity
    simp only [recordHttpError,hparse,fallbackRetryDelay,Nat.add_sub_cancel,hexponent,if_false,true_and,
      forall_const]
    linarith

variable {now nowWall : Rat} {outcome : Outcome} {batch rest : Batch} {failed : List Point}

/-- What the write of a group comes to, where its failure can be recorded: the group is put with what failed,
unposted, or it is posted, and put there unless it was acknowledged. -/
theorem writeNext_cons {group : String × List Point}
    (hhttp : w.http = .writing batch (group :: rest) failed)
    (hrec : Recordable py w (.write now nowWall outcome)) :
    w.writeNext py now nowWall outcome batch (group :: rest) failed =
        { w with http := .writing batch rest (failed ++ group.2) } ∨
    ∃ retry, w.writeNext py now nowWall outcome batch (group :: rest) failed =
        { w with
          retry
          http := .writing batch rest (if outcome = .success then failed else failed ++ group.2)
          posts := w.posts ++ [⟨group.1,group.2,outcome,now,(retry.get? group.1).map RetryState.nextAttempt⟩] } ∧
      ∀ code retryAfter, outcome = .httpError code retryAfter → ∃ next,
        (retry.get? group.1).map RetryState.nextAttempt = some next ∧ (retryAfter = none → now < next) := by
  unfold Writer.writeNext
  dsimp only
  split
  case isTrue => exact .inl rfl
  case isFalse hready =>
    simp only [Bool.or_eq_true,decide_eq_true_eq,not_or,Bool.not_eq_true,not_not] at hready
    right
    cases outcome with
    | success => exact ⟨w.retry.erase group.1,rfl,fun _ _ h => by cases h⟩
    | raised => exact ⟨w.retry,rfl,fun _ _ h => by cases h⟩
    | httpError code retryAfter =>
      obtain ⟨delay,hparse,hfew⟩ := hrec batch group rest failed hhttp hready.1 hready.2
      obtain ⟨hquiet,hlater⟩ := @recordHttpError_recorded _ _ code _ _ now _ hparse hfew
      refine ⟨w.retry.set group.1
        (recordHttpError py ((w.retry.get? group.1).getD .new) code retryAfter nowWall now).1,?_,?_⟩
      · dsimp only
        rw [hquiet]
        rfl
      · rintro _ _ ⟨⟩
        refine ⟨_,by rw [OrderedDict.get?_set,if_pos rfl]; rfl,?_⟩
        rintro rfl
        have hnone : delay = none := by simpa [parseRetryAfter,eq_comm] using hparse
        exact hlater hnone

theorem Writer.Placed.count_le_one (h : w.Placed) (hnumbered : w.Numbered) (p : Point) :
    w.places.count p + w.dropped.count p ≤ 1 := by
  have hnodup : w.ingested.Nodup := by
    have hnumbers : (w.ingested.map Point.number).Nodup := hnumbered ▸ nodup_range
    exact hnumbers.of_map _
  rw [h p]
  exact nodup_iff_count_le_one.1 hnodup p

structure Located (w : Writer) : Prop where
  placed : w.Placed
  numbered : w.Numbered

theorem Located.moved (h : Located w) {w' : Writer} (hplaced : w'.Placed) (hingested : w'.ingested = w.ingested) :
    Located w' where
  placed := hplaced
  numbered := by
    unfold Writer.Numbered
    rw [hingested]
    exact h.numbered

@[simp] theorem ingested_enqueuePoint (destination line : String) : (w.enqueuePoint destination line).ingested =
    w.ingested ++ [⟨w.ingested.length,destination,line⟩] := by
  unfold Writer.enqueuePoint
  dsimp only
  split
  · rfl
  · split <;> rfl

@[simp] theorem posts_enqueuePoint (destination line : String) :
    (w.enqueuePoint destination line).posts = w.posts := by
  unfold Writer.enqueuePoint
  dsimp only
  split
  · rfl
  · split <;> rfl

section
variable (h : Located w)
include h

namespace Located

theorem enqueuePoint (destination line : String) :
    Located (w.enqueuePoint destination line) where
  placed := placed_enqueuePoint h.placed destination line
  numbered := by
    have hnumbers : w.ingested.map Point.number = List.range w.ingested.length := h.numbered
    unfold Writer.Numbered
    simp [hnumbers,range_succ]

theorem writeNext (hhttp : w.http = .writing batch rest failed)
    (hrec : Recordable py w (.write now nowWall outcome)) :
    Located (w.writeNext py now nowWall outcome batch rest failed) := by
  have hplaced : ∀ p, w.queue.count p + w.main.points.count p + (batchPoints w.httpQueue).count p +
      (rest.points.count p + failed.count p) + (acknowledged w.posts).count p + w.dropped.count p =
      w.ingested.count p := by
    intro p
    have hp := h.placed p
    simpa only [count_places,hhttp,HttpPhase.points,count_append] using hp
  cases rest with
  | nil =>
    refine h.moved (fun p => ?_) rfl
    have hp := hplaced p
    have hback := count_requeue (w := w) p failed
    simp only [batch_points_nil,count_nil] at hp
    rw [count_places]
    show (w.requeue failed).queue.count p + w.main.points.count p + (batchPoints w.httpQueue).count p + 0 +
      (acknowledged w.posts).count p + (w.requeue failed).dropped.count p = w.ingested.count p
    omega
  | cons group rest =>
    rcases writeNext_cons hhttp hrec with hskipped | ⟨retry,hwritten,-⟩
    · rw [hskipped]
      refine h.moved (fun p => ?_) rfl
      have hp := hplaced p
      simp only [count_places,HttpPhase.points,batch_points_cons,count_append] at hp ⊢
      omega
    · rw [hwritten]
      refine h.moved (fun p => ?_) rfl
      have hp := hplaced p
      by_cases hsuccess : outcome = .success
      · simp only [count_places,HttpPhase.points,acknowledged_append,hsuccess,if_true,batch_points_cons,
          count_append] at hp ⊢
        omega
      · simp only [count_places,HttpPhase.points,acknowledged_append,hsuccess,if_false,batch_points_cons,
          count_append,count_nil] at hp ⊢
        omega

theorem mainAt {main : MainPhase} {left : Bool} (hbefore : w.main.points = [])
    (hafter : main.points = []) : Located { w with main, left } := by
  refine h.moved (fun p => ?_) rfl
  have hp := h.placed p
  simp only [count_places,hbefore] at hp
  simpa only [count_places,hafter] using hp

theorem flush (hmain : w.main.points = []) : Located w.beginFlush := by
  refine h.moved (placed_beginFlush h.placed hmain) ?_
  unfold Writer.beginFlush
  split <;> rfl

theorem split (now : Rat) {rest ready : Batch} {backoff : List Point}
    (hmain : w.main = .splitting rest ready backoff) : Located (w.splitNext now rest ready backoff) := by
  refine h.moved (placed_splitNext h.placed now hmain) ?_
  unfold Writer.splitNext
  cases rest <;>
  · dsimp only
    split <;> rfl

theorem offer {ready : Batch} (hmain : w.main = .offering ready) :
    Located (w.offer ready) := by
  refine h.moved (placed_offer h.placed hmain) ?_
  unfold Writer.offer
  split <;> rfl

theorem get (hhttp : w.http = .get) : Located w.getBatch := by
  refine h.moved (placed_getBatch h.placed hhttp) ?_
  unfold Writer.getBatch
  split <;> rfl

theorem step (event : Event) (hrec : Recordable py w event) :
    Located (w.step py event) := by
  cases event with
  | ingest destination line =>
    simp only [Writer.step]
    split
    · split
      · exact h.enqueuePoint destination line
      · exact h
    · exact h
  | stopRequested => exact ⟨h.placed,h.numbered⟩
  | leaveLoop raises =>
    simp only [Writer.step]
    split
    case h_1 hmain =>
      split
      · exact h.mainAt (by rw [hmain]; rfl) rfl
      · exact h
    case h_2 => exact h
  | flush =>
    simp only [Writer.step]
    split
    case h_1 hmain => exact h.flush (by rw [hmain]; rfl)
    case h_2 hmain => exact h.flush (by rw [hmain]; rfl)
    case h_3 => exact h
  | split now =>
    simp only [Writer.step]
    split
    case h_1 hmain => exact h.split now hmain
    case h_2 => exact h
  | offer =>
    simp only [Writer.step]
    split
    case h_1 hmain => exact h.offer hmain
    case h_2 => exact h
  | putSentinel =>
    simp only [Writer.step]
    split
    case h_1 hmain => exact h.moved (placed_putSentinel h.placed hmain) rfl
    case h_2 => exact h
  | join timedOut =>
    simp only [Writer.step]
    split
    case h_1 hmain _ => exact h.mainAt (by rw [hmain]; rfl) rfl
    case h_2 hmain _ =>
      split
      · exact h.mainAt (by rw [hmain]; rfl) rfl
      · exact h
    case h_3 => exact h
  | look =>
    simp only [Writer.step]
    split
    case h_1 hhttp => exact h.moved (placed_atHead h.placed hhttp) rfl
    case h_2 => exact h
  | get =>
    simp only [Writer.step]
    split
    case h_1 hhttp => exact h.get hhttp
    case h_2 => exact h
  | write now nowWall outcome =>
    simp only [Writer.step]
    split
    case h_1 batch rest failed hhttp => exact h.writeNext hhttp hrec
    case h_2 => exact h

end Located

end

theorem posts_step (event : Event) (hwrite : ∀ now nowWall outcome, event ≠ .write now nowWall outcome) :
    (w.step py event).posts = w.posts := by
  cases event with
  | write now nowWall outcome => exact absurd rfl (hwrite now nowWall outcome)
  | stopRequested => rfl
  | ingest destination line =>
    simp only [Writer.step]
    split
    · split <;> simp
    · rfl
  | leaveLoop raises =>
    simp only [Writer.step]
    split
    · split <;> rfl
    · rfl
  | flush =>
    simp only [Writer.step,Writer.beginFlush]
    split
    · split <;> rfl
    · split <;> rfl
    · rfl
  | split now =>
    simp only [Writer.step,Writer.splitNext]
    split
    · split <;> (split <;> rfl)
    · rfl
  | offer =>
    simp only [Writer.step,Writer.offer]
    split
    · split <;> rfl
    · rfl
  | putSentinel =>
    simp only [Writer.step]
    split <;> rfl
  | join timedOut =>
    simp only [Writer.step]
    split
    · rfl
    · split <;> rfl
    · rfl
  | look =>
    simp only [Writer.step]
    split <;> rfl
  | get =>
    simp only [Writer.step,Writer.getBatch]
    split
    · split <;> rfl
    · rfl

/-- What the log of the posts shows: no point is posted again once it is acknowledged, and each failed answer
leaves the destination a next attempt. -/
structure PostsKept (posts : List Post) : Prop where
  unrepeated : Justified (fun before post => ∀ p ∈ post.points, p ∉ acknowledged before) posts
  backoff : ∀ post ∈ posts, ∀ code retryAfter, post.outcome = .httpError code retryAfter →
    ∃ next, post.next = some next ∧ (retryAfter = none → post.time < next)

theorem PostsKept.append {posts : List Post} (h : PostsKept posts) {post : Post}
    (hfresh : ∀ p ∈ post.points, p ∉ acknowledged posts)
    (hnext : ∀ code retryAfter, post.outcome = .httpError code retryAfter →
      ∃ next, post.next = some next ∧ (retryAfter = none → post.time < next)) :
    PostsKept (posts ++ [post]) where
  unrepeated := justified_append_singleton.2 ⟨h.unrepeated,hfresh⟩
  backoff earlier hmem := by
    rcases mem_append.1 hmem with hmem | hmem
    · exact h.backoff earlier hmem
    · obtain rfl : earlier = post := by simpa using hmem
      exact hnext

theorem PostsKept.writeNext (h : PostsKept w.posts) (hlocated : Located w)
    (hhttp : w.http = .writing batch rest failed)
    (hrec : Recordable py w (.write now nowWall outcome)) :
    PostsKept (w.writeNext py now nowWall outcome batch rest failed).posts := by
  cases rest with
  | nil => exact h
  | cons group rest =>
    rcases writeNext_cons hhttp hrec with hskipped | ⟨retry,hwritten,hnext⟩
    · rw [hskipped]
      exact h
    · rw [hwritten]
      refine h.append ?_ hnext
      -- The point is in the batch being written, so that it is in no other place.
      intro p hp hacknowledged
      have hone := hlocated.placed.count_le_one hlocated.numbered p
      have hheld : 0 < group.2.count p := count_pos_iff.2 hp
      have hthere : 0 < (acknowledged w.posts).count p := count_pos_iff.2 hacknowledged
      simp only [count_places,hhttp,HttpPhase.points,batch_points_cons,count_append] at hone
      omega

theorem PostsKept.step (h : PostsKept w.posts) (hlocated : Located w) (event : Event)
    (hrec : Recordable py w event) : PostsKept (w.step py event).posts := by
  by_cases hwrite : ∀ now nowWall outcome, event ≠ .write now nowWall outcome
  · rw [posts_step event hwrite]
    exact h
  · push Not at hwrite
    obtain ⟨now,nowWall,outcome,rfl⟩ := hwrite
    simp only [Writer.step]
    split
    case h_1 batch rest failed hhttp => exact h.writeNext hlocated hhttp hrec
    case h_2 => exact h

end

/-- What the writer promises: every point is in exactly one place, none is posted again once it is acknowledged,
and after a failed answer the destination has a next attempt, later than the failure unless the answer said
when. -/
structure Kept (w : Writer) : Prop extends PostsKept w.posts where
  once : ∀ p ∈ w.ingested, w.places.count p = 1

/-- Points are neither lost nor repeated in any run without an overflow in which every failure can be
recorded. -/
theorem points_neither_lost_nor_repeated (py : Parsers) (cfg : Config) (events : List Event)
    (hrecordable : Meets (Writer.step py) (Recordable py) (.new cfg) events)
    (hoverflow : (run (Writer.step py) (.new cfg) events).dropped = []) :
    Kept (run (Writer.step py) (.new cfg) events) := by
  obtain ⟨h,hposts⟩ : Located (run (Writer.step py) (.new cfg) events) ∧
      PostsKept (run (Writer.step py) (.new cfg) events).posts :=
    hrecordable.invariant (P := fun w => Located w ∧ PostsKept w.posts)
      (fun _ event h hrec => ⟨h.1.step event hrec,h.2.step h.1 event hrec⟩)
      ⟨⟨placed_new cfg,rfl⟩,⟨justified_nil,by simp [Writer.new]⟩⟩
  refine ⟨hposts,fun p hp => ?_⟩
  have hone := h.placed.count_le_one h.numbered p
  have hcame : 0 < (run (Writer.step py) (.new cfg) events).ingested.count p := count_pos_iff.2 hp
  have hplaced := h.placed p
  rw [hoverflow,count_nil] at hplaced hone
  omega

/-! A writer with one destination, whose server answers every write with 503 and says nothing of when to try
again. -/

def oneDestination : Config := ⟨100000,by decide,.dropOldest,["default"]⟩

def noDelays : Parsers := ⟨fun _ => none,fun _ => none⟩

def refusal (now : Rat) : List Event :=
  [.flush,.split now,.split now,.offer,.look,.get] ++
    [.write now 0 (.httpError 503 none),.write now 0 .raised]

theorem refused_point_kept : Kept (run (Writer.step noDelays) (.new oneDestination)
    (.ingest "default" "temperature value=21.5" :: refusal 1)) := by
  refine points_neither_lost_nor_repeated _ _ _ ⟨trivial,trivial,trivial,trivial,trivial,trivial,trivial,?_,
    trivial,trivial⟩ rfl
  rintro batch group rest failed hhttp - -
  exact ⟨none,rfl,fun _ => by cases hhttp; decide⟩

/-- One point waits, and its destination has failed so many times, with no next attempt after this time. -/
structure Refused (w : Writer) (failures : Nat) (time : Rat) : Prop where
  cfg : w.cfg = oneDestination
  queue : ∃ p, w.queue = [p] ∧ p.destination = "default"
  httpQueue : w.httpQueue = []
  main : w.main = .loop
  left : w.left = false
  http : w.http = .head
  stop : w.stop = false
  failures : ((w.retry.get? "default").getD .new).consecutiveFailures = failures
  next : ((w.retry.get? "default").getD .new).nextAttempt ≤ time

section
variable {w : Writer} {failures : Nat} {time : Rat}

section
variable (h : Refused w failures time)
include h

theorem Refused.ready : w.inBackoff "default" time = false := by
  have hnext := h.next
  unfold Writer.inBackoff
  cases hstate : w.retry.get? "default" with
  | none => rfl
  | some state =>
    rw [hstate] at hnext
    simpa using hnext

theorem Refused.known : "default" ∈ w.cfg.destinations := by
  rw [h.cfg]
  exact mem_singleton_self _

theorem Refused.handedOver : ∃ p, w.queue = [p] ∧
    run (Writer.step noDelays) w [.flush,.split time,.split time,.offer,.look,.get] =
      { w with queue := [], http := .writing [("default",[p])] [("default",[p])] [] } := by
  obtain ⟨p,hqueue,hp⟩ := h.queue
  have hready := h.ready
  obtain ⟨cfg,queue,httpQueue,retry,main,left,http,stop,ingested,dropped,posts⟩ := w
  obtain rfl : queue = [p] := hqueue
  obtain rfl : httpQueue = [] := h.httpQueue
  obtain rfl : main = .loop := h.main
  obtain rfl : left = false := h.left
  obtain rfl : http = .head := h.http
  obtain rfl : stop = false := h.stop
  have hnot : ∀ queue main, Writer.inBackoff ⟨cfg,queue,[],retry,main,false,.head,false,ingested,dropped,posts⟩
      "default" time = false := fun _ _ => hready
  refine ⟨p,rfl,?_⟩
  simp [Writer.step,Writer.beginFlush,groupPointsByDestination,addPoint,hp,Writer.splitNext,hnot,
    Writer.requeue,requeueFailed,Writer.offer,httpQueueMax,Writer.flushed,Writer.atHead,Writer.getBatch]

end

theorem run_refusal (w : Writer) (time : Rat) : run (Writer.step noDelays) w (refusal time) =
    run (Writer.step noDelays) (run (Writer.step noDelays) w [.flush,.split time,.split time,.offer,.look,.get])
      [.write time 0 (.httpError 503 none),.write time 0 .raised] :=
  foldl_append

theorem recordHttpError_noDelays (state : RetryState) (h : state.consecutiveFailures < 1024) (time : Rat) :
    recordHttpError noDelays state 503 none 0 time = (⟨time+min 60 (2^state.consecutiveFailures),
      state.consecutiveFailures+1,some 503,some (min 60 (2^state.consecutiveFailures))⟩,false) := by
  have hexponent : ¬ 1024 ≤ state.consecutiveFailures := by omega
  simp [recordHttpError,parseRetryAfter,fallbackRetryDelay,hexponent]

theorem Refused.again (h : Refused w failures time) (hfew : failures < 1024) :
    Refused (run (Writer.step noDelays) w (refusal time)) (failures+1) (time+60) := by
  obtain ⟨p,hqueue,hhanded⟩ := h.handedOver
  have hp : p.destination = "default" := by
    obtain ⟨q,hq,hdestination⟩ := h.queue
    obtain rfl : p = q := by simpa [hqueue] using hq
    exact hdestination
  have hready : Writer.inBackoff
      { w with queue := [], http := .writing [("default",[p])] [("default",[p])] [] } "default" time = false := h.ready
  have hknown := h.known
  have hstate := recordHttpError_noDelays ((w.retry.get? "default").getD .new) (by rw [h.failures]; exact hfew) time
  have hwritten : run (Writer.step noDelays) w (refusal time) =
      { w with
        retry := w.retry.set "default" (recordHttpError noDelays ((w.retry.get? "default").getD .new) 503 none 0 time).1
        posts := w.posts ++ [⟨"default",[p],.httpError 503 none,time,
          some (recordHttpError noDelays ((w.retry.get? "default").getD .new) 503 none 0 time).1.nextAttempt⟩] } := by
    rw [run_refusal,hhanded]
    simp [Writer.step,Writer.writeNext,hready,hknown,hstate,Writer.posted,Writer.requeue,requeueFailed,
      requeuePoint,w.cfg.maxQueuePoints_pos,h.http,hqueue]
  rw [hwritten]
  refine ⟨h.cfg,⟨p,hqueue,hp⟩,h.httpQueue,h.main,h.left,h.http,h.stop,?_,?_⟩
  · simp [hstate,h.failures]
  · have hminute : min (60 : Rat) (2^((w.retry.get? "default").getD .new).consecutiveFailures) ≤ 60 :=
      min_le_left _ _
    simp only [OrderedDict.get?_set,if_true,getD_some,hstate]
    linarith

theorem Refused.unrecorded (h : Refused w 1024 time) :
    ∃ post ∈ (run (Writer.step noDelays) w (refusal time)).posts, post.outcome = .httpError 503 none ∧
      ∃ next, post.next = some next ∧ next ≤ post.time := by
  obtain ⟨p,hqueue,hhanded⟩ := h.handedOver
  have hready : Writer.inBackoff
      { w with queue := [], http := .writing [("default",[p])] [("default",[p])] [] } "default" time = false := h.ready
  have hknown := h.known
  have hstate : recordHttpError noDelays ((w.retry.get? "default").getD .new) 503 none 0 time =
      ({ (w.retry.get? "default").getD .new with consecutiveFailures := 1025, lastStatus := some 503 },true) := by
    simp [recordHttpError,parseRetryAfter,fallbackRetryDelay,h.failures]
  refine ⟨⟨"default",[p],.httpError 503 none,time,some ((w.retry.get? "default").getD .new).nextAttempt⟩,?_,rfl,
    _,rfl,h.next⟩
  rw [run_refusal,hhanded]
  simp [Writer.step,Writer.writeNext,hready,hknown,hstate,Writer.posted,Writer.requeue]

end

def refusals : Nat → List Event
  | 0 => [.ingest "default" "temperature value=21.5"]
  | n+1 => refusals n ++ refusal (60*n)

theorem refused_refusals (n : Nat) (hn : n ≤ 1024) :
    Refused (run (Writer.step noDelays) (.new oneDestination) (refusals n)) n (60*n) := by
  induction n with
  | zero =>
    refine ⟨rfl,⟨_,rfl,rfl⟩,rfl,rfl,rfl,rfl,rfl,rfl,?_⟩
    show (0 : Rat) ≤ 60*((0 : Nat) : Rat)
    simp
  | succ n ih =>
    have hagain := (ih (by omega)).again (by omega)
    have hrun : run (Writer.step noDelays) (.new oneDestination) (refusals (n+1)) =
        run (Writer.step noDelays) (run (Writer.step noDelays) (.new oneDestination) (refusals n))
          (refusal (60*n)) := foldl_append
    rw [hrun]
    have htime : (60 : Rat)*n+60 = 60*((n+1 : Nat) : Rat) := by
      push_cast
      linarith
    exact htime ▸ hagain

theorem failure_1025_has_no_next_attempt :
    ¬ Kept (run (Writer.step noDelays) (.new oneDestination) (refusals 1025)) := by
  intro h
  obtain ⟨post,hpost,houtcome,next,hnext,hle⟩ := (refused_refusals 1024 le_rfl).unrecorded
  have hrun : run (Writer.step noDelays) (.new oneDestination) (refusals 1025) =
      run (Writer.step noDelays) (run (Writer.step noDelays) (.new oneDestination) (refusals 1024))
        (refusal (60*1024)) := foldl_append
  rw [hrun] at h
  obtain ⟨next',hnext',hlater⟩ := h.backoff post hpost 503 none houtcome
  obtain rfl : next = next' := by simpa [hnext] using hnext'
  exact absurd (hlater rfl) (not_lt.2 hle)

end ExperimentControl.Influx

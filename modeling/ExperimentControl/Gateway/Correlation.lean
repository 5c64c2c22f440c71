import ExperimentControl.Gateway.RouterRpc

/-!
Who gets which reply: what holds of the callers of the gateway's client along its runs, as long as no
request is sent under an id that an unanswered one has.
-/

namespace ExperimentControl.Gateway
open Lib Python OrderedDict List

def Own (e : Caller × Answer) : Prop := ∀ answered resp, e.2 = .reply answered resp → answered = e.1

/-- What the callers are promised: no future is resolved twice, each reply is the caller's own, and the worker
has ended only where the client is closed. -/
structure Correct (c : Client) : Prop where
  once : (c.resolved.map Prod.fst).Nodup
  own : ∀ e ∈ c.resolved, Own e
  worker : c.thread = .ended → c.stop = true

/-- A request that is sent has no id, or one that can be a key, and that no request has that was sent over the
same socket and is not answered yet. -/
def SentApart (c : Client) : Event → Prop
  | .takeNext _ none => c.thread = .running → c.phase = .queue → ∀ s, c.queue.head? = some s →
      s.requestId = .none ∨ ∃ key, dictKey s.requestId = some key ∧ ∀ u ∈ c.unanswered, dictKey u.2 ≠ some key
  | _ => True

/-- A request in flight is one that the router may still answer, and the ids of those tell them apart. -/
structure Inv (c : Client) : Prop extends Correct c where
  scheduled : ∀ e ∈ c.callbacks, Own e
  inFlight : ∀ key entry, c.pending.get? key = some entry →
    ∃ rid, (entry.caller,rid) ∈ c.unanswered ∧ rid ≠ .none ∧ dictKey rid = some key
  apart : ∀ u ∈ c.unanswered, ∀ v ∈ c.unanswered, u.2 ≠ .none → dictKey u.2 = dictKey v.2 → u = v

theorem own_error (n : Caller) (code message : String) : Own (n,.error code message) := by
  intro _ _ h
  cases h

theorem own_cancelled (n : Caller) : Own (n,.cancelled) := by
  intro _ _ h
  cases h

theorem dictKey_eq_none_key {v : Value} (h : dictKey v = some .none) : v = .none := by
  cases v with
  | none => rfl
  | float bits =>
    simp only [dictKey,Option.some.injEq] at h
    cases hn : floatInteger? bits <;> simp [hn] at h
  | bool _ | int _ | str _ | list _ | dict _ _ => simp [dictKey] at h

section
variable {c : Client} {n : Caller} {answer : Answer} {answers : List (Caller × Answer)}

theorem setFutureResult_eq (c : Client) (n : Caller) (answer : Answer) :
    ∃ callbacks, c.setFutureResult n answer = { c with callbacks } ∧
      ∀ e ∈ callbacks, e ∈ c.callbacks ∨ e = (n,answer) := by
  unfold Client.setFutureResult
  split
  · exact ⟨c.callbacks,rfl,fun e he => .inl he⟩
  · exact ⟨c.callbacks ++ [(n,answer)],rfl,by simp⟩

theorem setResults_eq (c : Client) (answers : List (Caller × Answer)) :
    ∃ callbacks, c.setResults answers = { c with callbacks } ∧
      ∀ e ∈ callbacks, e ∈ c.callbacks ∨ e ∈ answers := by
  unfold Client.setResults
  induction answers generalizing c with
  | nil => exact ⟨c.callbacks,rfl,fun e he => .inl he⟩
  | cons first rest ih =>
    obtain ⟨callbacks,hfirst,hmem⟩ := setFutureResult_eq c first.1 first.2
    obtain ⟨callbacks',hrest,hmem'⟩ := ih { c with callbacks }
    rw [foldl_cons,hfirst,hrest]
    refine ⟨callbacks',rfl,fun e he => ?_⟩
    rcases hmem' e he with he | he
    · rcases hmem e he with he | rfl
      · exact .inl he
      · exact .inr (by simp)
    · exact .inr (by simp [he])

theorem Inv.withCallbacks (h : Inv c) {callbacks : List (Caller × Answer)}
    (hmem : ∀ e ∈ callbacks, e ∈ c.callbacks ∨ Own e) : Inv { c with callbacks } where
  once := h.once
  own := h.own
  worker := h.worker
  inFlight := h.inFlight
  apart := h.apart
  scheduled e he := (hmem e he).elim (h.scheduled e) id

theorem Inv.setFutureResult (h : Inv c) (hown : Own (n,answer)) : Inv (c.setFutureResult n answer) := by
  obtain ⟨callbacks,heq,hmem⟩ := setFutureResult_eq c n answer
  rw [heq]
  refine h.withCallbacks fun e he => (hmem e he).imp_right ?_
  rintro rfl
  exact hown

theorem Inv.setResults (h : Inv c) (hown : ∀ e ∈ answers, Own e) : Inv (c.setResults answers) := by
  obtain ⟨callbacks,heq,hmem⟩ := setResults_eq c answers
  rw [heq]
  exact h.withCallbacks fun e he => (hmem e he).imp_right (hown e)

theorem own_failures (c : Client) (code message : String) : ∀ e ∈ c.failures code message, Own e := by
  intro e he
  obtain ⟨entry,-,rfl⟩ := mem_map.1 he
  exact own_error _ _ _

theorem Inv.resolve (h : Inv c) (hdone : c.done n = false) (hown : Own (n,answer)) :
    Inv { c with resolved := c.resolved ++ [(n,answer)] } where
  once := by
    have hnot : n ∉ c.resolved.map Prod.fst := by simpa [Client.done] using hdone
    simp only [map_append,map_cons,map_nil]
    rw [nodup_append]
    refine ⟨h.once,by simp,?_⟩
    rintro a ha b hb rfl
    obtain rfl : a = n := by simpa using hb
    exact hnot ha
  own e he := by
    rcases mem_append.1 he with he | he
    · exact h.own e he
    · obtain rfl : e = (n,answer) := by simpa using he
      exact hown
  worker := h.worker
  scheduled := h.scheduled
  inFlight := h.inFlight
  apart := h.apart

theorem inv_fresh (timeoutMs queueMax : Int) : Inv (.fresh timeoutMs queueMax) where
  once := by simp [Client.fresh]
  own := by simp [Client.fresh]
  worker h := by cases h
  scheduled := by simp [Client.fresh]
  inFlight := by simp [Client.fresh]
  apart := by simp [Client.fresh]

section
variable (h : Inv c)
include h

theorem Inv.dropped {thread : Thread} {phase : Phase} {stop : Bool}
    (hworker : thread = .ended → stop = true) :
    Inv { c with thread, phase, stop, pending := .empty, unanswered := [] } where
  once := h.once
  own := h.own
  worker := hworker
  scheduled := h.scheduled
  inFlight := by simp
  apart := by simp

theorem Inv.start : Inv c.start := by
  unfold Client.start
  split
  · exact h
  · exact h.dropped (by simp)

theorem Inv.request (payload : Entries) (timeoutMs : Option Int) (uuid : String) :
    Inv (c.request payload timeoutMs uuid) := by
  unfold Client.request
  split
  · exact h
  · dsimp only
    split
    · exact { h with }
    · exact { h with }

theorem Inv.runCallback : Inv c.runCallback := by
  unfold Client.runCallback
  cases hcallbacks : c.callbacks with
  | nil => exact h
  | cons first rest =>
    have hown : ∀ e ∈ first :: rest, Own e := hcallbacks ▸ h.scheduled
    have hrest : Inv { c with callbacks := rest } :=
      h.withCallbacks fun e he => .inr (hown e (by simp [he]))
    dsimp only
    split
    · exact hrest
    case isFalse hdone =>
      exact hrest.resolve (by simpa [Client.done] using hdone) (hown first (by simp))

theorem Inv.giveUp (n : Caller) : Inv (c.giveUp n) := by
  unfold Client.giveUp
  split
  · exact h
  case isFalse hdone =>
    rw [not_or] at hdone
    exact h.resolve (by simpa using hdone.2) (own_cancelled n)

theorem Inv.close : Inv c.close := by
  unfold Client.close
  refine Inv.setResults { h with worker := fun _ => rfl } ?_
  intro e he
  obtain ⟨s,-,rfl⟩ := mem_map.1 he
  exact own_error _ _ _

theorem Inv.atHead : Inv c.atHead := by
  unfold Client.atHead
  split
  case isTrue hstop =>
    exact Inv.setResults (@Inv.dropped _ h _ c.phase _ fun _ => hstop) (own_failures c _ _)
  case isFalse hstop => exact { h with }

theorem Inv.failAllInflight (hrunning : c.thread = .running) (reason : String) :
    Inv (c.failAllInflight reason) := by
  have hworker : c.thread = .ended → c.stop = true := by simp [hrunning]
  exact Inv.setResults (@Inv.dropped _ h _ .head _ hworker) (own_failures c _ _)

theorem Inv.sent {rid : Value}
    (hrid : rid = .none ∨ ∃ key, dictKey rid = some key ∧ ∀ u ∈ c.unanswered, dictKey u.2 ≠ some key) :
    Inv { c with unanswered := c.unanswered ++ [(n,rid)] } where
  once := h.once
  own := h.own
  worker := h.worker
  scheduled := h.scheduled
  inFlight key entry hentry := by
    obtain ⟨rid,hmem,hkey⟩ := h.inFlight key entry hentry
    exact ⟨rid,by simp [hmem],hkey⟩
  apart u hu v hv hne heq := by
    have hnew : ∀ w ∈ c.unanswered, w.2 ≠ .none → dictKey w.2 ≠ dictKey rid := by
      intro w hw hwne hweq
      rcases hrid with rfl | ⟨key,hkey,hfresh⟩
      · exact hwne (dictKey_eq_none_key hweq)
      · exact hfresh w hw (hweq.trans hkey)
    simp only [mem_append,mem_singleton] at hu hv
    rcases hu with hu | rfl <;> rcases hv with hv | rfl
    · exact h.apart u hu v hv hne heq
    · exact absurd heq (hnew u hu hne)
    · have hvne : v.2 ≠ .none := by
        intro hv
        rw [hv] at heq
        exact hne (dictKey_eq_none_key heq)
      exact absurd heq.symm (hnew v hv hvne)
    · rfl

theorem Inv.tracked {entry : Pending} {rid : Value} {key : DictKey}
    (hsent : (entry.caller,rid) ∈ c.unanswered) (hne : rid ≠ .none) (hkey : dictKey rid = some key) :
    Inv { c with pending := c.pending.set key entry } where
  once := h.once
  own := h.own
  worker := h.worker
  scheduled := h.scheduled
  apart := h.apart
  inFlight x e he := by
    rw [get?_set] at he
    split at he
    case isTrue hx =>
      obtain rfl : entry = e := by simpa using he
      exact ⟨rid,hsent,hne,hx ▸ hkey⟩
    case isFalse hx => exact h.inFlight x e he

theorem Inv.takeNext (hrunning : c.thread = .running) (hphase : c.phase = .queue) (now : Int)
    (sendError : Option String) (hsent : SentApart c (.takeNext now sendError)) :
    Inv (c.takeNext now sendError) := by
  unfold Client.takeNext
  cases hqueue : c.queue with
  | nil => exact { h with }
  | cons s rest =>
    have hrest : Inv { c with queue := rest } := { h with }
    cases sendError with
    | some message => exact hrest.setFutureResult (own_error _ _ _)
    | none =>
      have hrid := hsent hrunning hphase s (by simp [hqueue])
      have hadded := hrest.sent (n := s.caller) hrid
      dsimp only
      split
      · exact hadded.setFutureResult (own_error _ _ _)
      case isFalse hne =>
        obtain ⟨key,hkey,-⟩ := hrid.resolve_left hne
        simp only [hkey]
        exact @Inv.tracked _ hadded _ s.requestId _ (by simp) hne hkey

theorem Inv.answered (u : Caller × Value) {pending : OrderedDict DictKey Pending}
    (hpending : ∀ key entry, pending.get? key = some entry →
      c.pending.get? key = some entry ∧ dictKey u.2 ≠ some key ∨ u.2 = .none ∧ c.pending.get? key = some entry) :
    Inv { c with pending, unanswered := c.unanswered.filter fun v => v ≠ u } where
  once := h.once
  own := h.own
  worker := h.worker
  scheduled := h.scheduled
  inFlight key entry hentry := by
    have hold : c.pending.get? key = some entry := (hpending key entry hentry).elim And.left And.right
    obtain ⟨rid,hmem,hne,hkey⟩ := h.inFlight key entry hold
    refine ⟨rid,?_,hne,hkey⟩
    rw [mem_filter]
    refine ⟨hmem,?_⟩
    simp only [decide_eq_true_eq]
    rintro rfl
    rcases hpending key entry hentry with ⟨-,hother⟩ | ⟨hnone,-⟩
    · exact hother hkey
    · exact hne hnone
  apart u hu v hv := h.apart u (mem_filter.1 hu).1 v (mem_filter.1 hv).1

theorem Inv.shrink {pending : OrderedDict DictKey Pending}
    (hsub : ∀ key entry, pending.get? key = some entry → c.pending.get? key = some entry) :
    Inv { c with pending } where
  once := h.once
  own := h.own
  worker := h.worker
  scheduled := h.scheduled
  apart := h.apart
  inFlight key entry hentry := h.inFlight key entry (hsub key entry hentry)

theorem Inv.receive (hrunning : c.thread = .running) (answered : Caller) (resp : Entries) :
    Inv (c.receive answered resp) := by
  unfold Client.receive
  dsimp only
  generalize getKey resp "request_id" = rid
  split
  · exact h
  case isFalse hsent =>
    have hsent : (answered,rid) ∈ c.unanswered := not_not.1 hsent
    split
    case isTrue hnone =>
      exact h.answered (answered,rid) fun key entry hentry => .inr ⟨hnone,hentry⟩
    case isFalse hne =>
      cases hkey : dictKey rid with
      | none =>
        have hanswered := @Inv.answered _ h (answered,rid) c.pending
          fun key entry hentry => .inl ⟨hentry,by simp [hkey]⟩
        exact hanswered.failAllInflight hrunning _
      | some key =>
        dsimp only
        cases hentry : c.pending.get? key with
        | none =>
          refine h.answered (answered,rid) fun key' entry' hentry' => .inl ⟨hentry',?_⟩
          rintro hkey'
          obtain rfl : key = key' := by simpa [hkey] using hkey'
          rw [hentry] at hentry'
          cases hentry'
        | some entry =>
          have hanswered := @Inv.answered _ h (answered,rid) (c.pending.erase key) (by
            intro key' entry' hentry'
            rw [get?_erase_eq] at hentry'
            split at hentry'
            · cases hentry'
            case isFalse hother =>
              refine .inl ⟨hentry',?_⟩
              simpa [hkey] using Ne.symm hother)
          refine hanswered.setFutureResult ?_
          intro _ _ heq
          cases heq
          obtain ⟨rid',hmem,hne',hkey'⟩ := h.inFlight key entry hentry
          have hsame := h.apart _ hmem _ hsent hne' (hkey'.trans hkey.symm)
          exact (congrArg Prod.fst hsame).symm

theorem Inv.sweepExpired (now : Int) : Inv (c.sweepExpired now) := by
  unfold Client.sweepExpired
  dsimp only
  have hkept := @Inv.shrink _ h (c.pending.filterEntries fun _ e => !decide (e.deadline < now)) (by
    intro key entry hentry
    rw [get?_filterEntries,Option.filter_eq_some_iff] at hentry
    exact hentry.1)
  have htold := @Inv.setResults _ ((c.pending.filterEntries
    fun _ e => decide (e.deadline < now)).entries.map fun e =>
      (e.2.caller,Answer.error "gateway_timeout" "router rpc timed out")) hkept (by
    intro e he
    obtain ⟨entry,-,rfl⟩ := mem_map.1 he
    exact own_error _ _ _)
  refine htold.shrink ?_
  intro key entry hentry
  rw [get?_filterEntries,Option.filter_eq_some_iff] at hentry
  exact hentry.1

end

theorem Inv.step (h : Inv c) (event : Event) (hsent : SentApart c event) : Inv (c.step event) := by
  cases event with
  | start => exact h.start
  | request payload timeoutMs uuid => exact h.request payload timeoutMs uuid
  | callback => exact h.runCallback
  | giveUp n => exact h.giveUp n
  | close => exact h.close
  | loopCloses => exact { h with }
  | head =>
    simp only [Client.step,Event.phase?,Client.handle]
    split
    · exact h.atHead
    · exact h
  | takeNext now sendError =>
    simp only [Client.step,Event.phase?,Client.handle]
    split
    case isTrue hwhere => exact h.takeNext hwhere.1 hwhere.2 now sendError hsent
    case isFalse => exact h
  | polled outcome =>
    simp only [Client.step,Event.phase?]
    split
    case isTrue hwhere =>
      match outcome with
      | .error reason => exact h.failAllInflight hwhere.1 reason
      | .ok true => exact { h with }
      | .ok false => exact { h with }
    case isFalse => exact h
  | receive answered resp =>
    simp only [Client.step,Event.phase?,Client.handle]
    split
    case isTrue hwhere => exact h.receive hwhere.1 answered resp
    case isFalse => exact h
  | receiveFails reason =>
    simp only [Client.step,Event.phase?,Client.handle]
    split
    case isTrue hwhere => exact h.failAllInflight hwhere.1 reason
    case isFalse => exact h
  | noMoreReplies =>
    simp only [Client.step,Event.phase?,Client.handle]
    split
    · exact { h with }
    · exact h
  | sweep now =>
    simp only [Client.step,Event.phase?,Client.handle]
    split
    · exact { h.sweepExpired now with }
    · exact h

end

/-- In every run whose requests are sent under ids of their own, each caller gets its own answer and the
worker goes on until the client is closed. -/
theorem callers_get_their_own (timeoutMs queueMax : Int) (events : List Event)
    (hapart : Meets Client.step SentApart (.fresh timeoutMs queueMax) events) :
    Correct (run Client.step (.fresh timeoutMs queueMax) events) :=
  (hapart.invariant (fun _ event h hsent => h.step event hsent) (inv_fresh timeoutMs queueMax)).toCorrect

/-! Two callers of one client, and the answer of the router to a caller's request. -/

def statusRequest (requestId : Value) : Entries := [("type",.str "router.status"),("request_id",requestId)]

def statusReply (requestId : Value) (depth : Int) : Entries :=
  [("ok",.bool true),("queue_depth",.int depth),("request_id",requestId)]

def bothSent (first second : Value) : List Event :=
  [.start,.request (statusRequest first) none "",.request (statusRequest second) none "",.head,
    .takeNext 0 none,.takeNext 1 none,.takeNext 1 none,.polled (.ok true)]

theorem replies_out_of_order : Correct (run Client.step (.fresh 2000 1024)
    (bothSent (.str "a") (.str "b") ++ [.receive 1 (statusReply (.str "b") 2),
      .receive 0 (statusReply (.str "a") 3),.noMoreReplies,.sweep 5,.callback,.callback])) := by
  refine callers_get_their_own _ _ _ ⟨trivial,trivial,trivial,trivial,?_,?_,?_,trivial,trivial,trivial,trivial,
    trivial,trivial,trivial,trivial⟩
  · intro _ _ s hs
    obtain rfl := Option.some.inj hs
    exact .inr ⟨.text "a",rfl,by decide⟩
  · intro _ _ s hs
    obtain rfl := Option.some.inj hs
    exact .inr ⟨.text "b",rfl,by decide⟩
  · intro _ _ s hs
    cases hs

theorem repeated_id_misdelivers : ¬ Correct (run Client.step (.fresh 2000 1024)
    (bothSent (.int 1) (.int 1) ++ [.receive 0 (statusReply (.int 1) 2),.callback])) := by
  intro h
  have hresolved : (run Client.step (.fresh 2000 1024) (bothSent (.int 1) (.int 1) ++
      [.receive 0 (statusReply (.int 1) 2),.callback])).resolved = [(1,.reply 0 (statusReply (.int 1) 2))] := rfl
  have hown := h.own (1,.reply 0 (statusReply (.int 1) 2)) (by rw [hresolved]; simp)
  cases hown 0 _ rfl

end ExperimentControl.Gateway

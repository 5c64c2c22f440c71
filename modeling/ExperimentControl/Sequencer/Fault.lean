import ExperimentControl.Sequencer.Ticking
import ExperimentControl.Sequencer.Finally

/-!
`fail`: an external fault that comes in while a run is in progress, and what the run reports when
it has ended.
-/

namespace ExperimentControl.Sequencer
open Lib Python Ctl Prog List Option String

variable {World : Type}

theorem containsText_iff {part whole : List Char} :
    containsText part whole = true ↔ part <:+: whole := by
  induction whole with
  | nil => simp [containsText]
  | cons a rest ih => simp [containsText,infix_cons_iff,ih]

/-- `text in error` -/
def Mentions (text : String) (error : Option String) : Prop :=
  ∃ e, error = some e ∧ containsText text.toList e.toList = true

theorem Mentions.trans {text waiting : String} {error : Option String} (h : Mentions waiting error)
    (htext : containsText text.toList waiting.toList = true) : Mentions text error := by
  obtain ⟨e,he,hin⟩ := h
  refine ⟨e,he,containsText_iff.2 ?_⟩
  exact (containsText_iff.1 htext).trans (containsText_iff.1 hin)

theorem mentions_self (text : String) : Mentions text (some text) :=
  ⟨text,rfl,containsText_iff.2 (infix_refl _)⟩

theorem noteCleanupFailure_mentions {c : Ctl} {p : Pending} (message : String)
    (hp : c.pending = some p) :
    ∃ p', (c.noteCleanupFailure message).pending = some p' ∧ p'.cleanupFailed = true ∧
      Mentions message p'.error ∧ ∀ text, Mentions text p.error → Mentions text p'.error := by
  have hcleanup : message.toList <:+: ("cleanup failed: " ++ message).toList := by
    rw [toList_append]
    exact infix_append_of_infix_right (infix_refl _)
  simp only [noteCleanupFailure,hp,map_some]
  refine ⟨_,rfl,rfl,?_,?_⟩
  · split
    · exact ⟨_,rfl,containsText_iff.2 hcleanup⟩
    · exact ⟨_,rfl,containsText_iff.2 hcleanup⟩
    · split
      · rename_i hin
        exact ⟨_,rfl,containsText_iff.2 (hcleanup.trans (containsText_iff.1 hin))⟩
      · refine ⟨_,rfl,containsText_iff.2 ?_⟩
        rw [toList_append]
        exact infix_append_of_infix_right hcleanup
  · rintro text ⟨e,he,hin⟩
    have htext := containsText_iff.1 hin
    rw [he]
    split
    · rename_i hnone
      cases hnone
    · rename_i hempty
      obtain rfl := Option.some.inj hempty
      have hnil : text.toList = [] := by simpa using htext
      refine ⟨_,rfl,containsText_iff.2 ?_⟩
      rw [hnil]
      exact nil_infix
    · rename_i error _ heq
      obtain rfl := Option.some.inj heq
      split
      · exact ⟨_,rfl,hin⟩
      · refine ⟨_,rfl,containsText_iff.2 ?_⟩
        rw [toList_append,toList_append]
        exact infix_append_of_infix_left (infix_append_of_infix_left htext)

/-- The unwind under way is to end in `ERROR`. -/
def endsInError (c : Ctl) : Bool :=
  match c.pending with
  | none => false
  | some p => p.state = .error || p.cleanupFailed

def inProgress (c : Ctl) : Prop := c.state = .running ∨ c.state = .paused

def Reporting (text : String) (c : Ctl) : Prop :=
  inProgress c ∧ ∃ p, c.pending = some p ∧ (p.state = .error ∨ p.cleanupFailed = true) ∧
    Mentions text p.error

def Reported (text : String) (c : Ctl) : Prop := c.state = .error ∧ Mentions text c.lastError

def Reports (text : String) (c : Ctl) : Prop := Reporting text c ∨ Reported text c

section
variable {text : String} {c c' : Ctl}

section
variable (h : Reporting text c)
include h

theorem Reporting.pending : c.pending ≠ none := by
  obtain ⟨_,p,hp,_⟩ := h
  simp [hp]

theorem Reporting.same (hs : inProgress c') (hp : c'.pending = c.pending) : Reporting text c' := by
  obtain ⟨_,p,hpend,hrest⟩ := h
  exact ⟨hs,p,hp.trans hpend,hrest⟩

theorem Reporting.note (message : String) : Reporting text (c.noteCleanupFailure message) := by
  obtain ⟨hs,p,hp,_,hin⟩ := h
  obtain ⟨p',hp',hfailed,_,hkeep⟩ := noteCleanupFailure_mentions message hp
  exact ⟨hs,p',hp',.inr hfailed,hkeep text hin⟩

theorem Reporting.finish : Reported text c.finishPending := by
  obtain ⟨_,p,hp,hend,hin⟩ := h
  have hstate : (if p.cleanupFailed = true then RunState.error else p.state) = .error := by
    rcases hend with hstate | hfailed
    · simp [hstate]
    · simp [hfailed]
  refine ⟨?_,?_⟩
  · simp only [finishPending,hp,hstate]
  · simp only [finishPending,hp,hstate,if_true]
    exact hin

end

theorem guarded_reporting (text : String) : Guarded (Reporting text) (Reports text) where
  quiet {c c'} h hq := by
    refine h.same ?_ hq.pending
    unfold inProgress
    rw [hq.state]
    exact h.1
  ended {c c'} h hq := by
    rcases h with h | h
    · refine .inl (h.same ?_ hq.pending)
      unfold inProgress
      rw [hq.state]
      exact h.1
    · exact .inr ⟨hq.state.trans h.1,by rw [hq.lastError]; exact h.2⟩
  leave h := .inl h
  note message h _ := h.note message
  unwind _ h hp := absurd hp h.pending
  unwindStop h hp := absurd hp h.pending
  pause h _ := .inl (h.same (.inr rfl) rfl)
  stop h hp := absurd hp h.pending
  error _ h hp := absurd hp h.pending
  finish h _ := .inr h.finish
  abort _ h hp := absurd hp h.pending

end

def Held (host : Host World) (text : String) (d : Data World) : Prop :=
  Busy host .parallel d ∧ d.waits.parallel.isSome = true ∧ Mentions text d.parallelPendingFailure

theorem Held.same {host : Host World} {text : String} {d d' : Data World} (h : Held host text d)
    (hwaits : d'.waits = d.waits)
    (hfailure : d'.parallelPendingFailure = d.parallelPendingFailure) : Held host text d' := by
  unfold Held Busy Only
  rw [hwaits,hfailure]
  exact h

/-- The unwind under way, if there is one, is not to end in `ERROR`. -/
def Clean (c : Ctl) : Prop := endsInError c = false

/-- The dispatcher of branches tells how they are, or that they are not done. -/
def PollReturns (host : Host World) : Prop :=
  ∀ begin poll, host.parallelDispatch = some (begin,poll) → ∀ state w, ∃ r,
    (poll state w).1 = .ok r

section
variable (host : Host World) {text message : String} {E : PyExc → RtState World → Prop}
variable (hin : containsText text.toList message.toList = true)
include hin

theorem reporting_of_begin {F : Data World → Prop} (hF : ∀ d, Free d → F d) {state : RunState}
    (hstate : state = .running ∨ state = .paused) :
    Triple (Both (fun c => c.state = state ∧ c.pending = none) F)
      (beginTerminalUnwind host .error (some message))
      (fun begun => Both (fun c => c.state = state ∧ Occupied c ∧
        if begun then Reporting text c else c.pending = none) F) E := by
  refine .conseq (rest_beginTerminalUnwind (F := F)
    (I := fun c => c.state = state ∧ (c.pending = none ∨ Reporting text c)) host ?_ hF) ?_ ?_
    fun _ _ h => h
  · intro c hc _
    refine ⟨hc.1,.inr ⟨?_,_,rfl,.inl rfl,(mentions_self message).trans hin⟩⟩
    rw [inProgress,show (c.beginUnwind .error (some message)).state = state from hc.1]
    exact hstate
  · exact fun s hs => ⟨⟨⟨hs.1.1,.inl hs.1.2⟩,occupied_of_none hs.1.2⟩,hs.2⟩
  · rintro begun s ⟨⟨⟨⟨hs,hreport⟩,hocc⟩,hsome⟩,hd⟩
    refine ⟨⟨hs,hocc,?_⟩,hd⟩
    cases begun with
    | true =>
      rcases hreport with hnone | hreport
      · simp [hnone] at hsome
      · exact hreport
    | false => simpa using hsome

theorem reporting_of_failStep : Triple (Both (Going Clean) Free) (failStep host message)
      (fun _ => Both (Standing (Reporting text) (Reports text)) Free) E := by
  refine both_read fun c hc => ?_
  refine .ite (fun hp => ?_) fun hp => ?_
  · refine .bind (both_move (L := Going (Reporting text)) fun c' hc' => ?_) fun _ =>
      both_pure fun c d hc hd => ⟨.inl hc,hd⟩
    subst hc'
    obtain ⟨p,hsome⟩ := isSome_iff_exists.1 hp
    obtain ⟨p',hp',hfailed,hmessage,_⟩ := noteCleanupFailure_mentions message hsome
    refine ⟨⟨.inl hc.2.1,p',hp',.inr hfailed,hmessage.trans hin⟩,hc.2.1,fun _ => hc.2.2 hp⟩
  · have hnone : c.pending = none := by simpa using hp
    refine .bind (both_pre (reporting_of_begin host hin (fun _ h => h) (.inl rfl))
      (fun c' hc' => ⟨hc' ▸ hc.2.1,hc' ▸ hnone⟩) fun _ h => h) fun begun => ?_
    refine .ite (fun hbegun => ?_) fun hbegun => ?_
    · subst hbegun
      exact both_pure fun c' d hc' hd => ⟨.inl ⟨hc'.2.2,hc'.1,hc'.2.1⟩,hd⟩
    · obtain rfl : begun = false := by simpa using hbegun
      refine .bind (both_move (L := Over (Reports text)) fun c' hc' => ?_) fun _ =>
        both_pure fun c d hc hd => ⟨.inr hc,hd⟩
      exact ⟨.inr ⟨rfl,(mentions_self message).trans hin⟩,by simp [setError],hc'.2.2⟩

end

section
variable (host : Host World) {text : String} {E : PyExc → RtState World → Prop}

theorem held_checkStopPause : Triple (Both (Going Clean) (Held host text)) (checkStopPause host)
      (fun stopped s => stopped = false ∧ Both (Going Clean) (Held host text) s) E := by
  refine both_read fun c hc => ?_
  refine .bind (Q := fun free s => free = false ∧ Both (Going Clean) (Held host text) s)
    ?_ fun free => ?_
  · intro n s hs
    have hsome : s.data.parallelState.isSome = true := hs.2.2.1
    refine ⟨?_,by rw [show s.ctl = c from hs.1]; exact hc,hs.2⟩
    simp [interruptible,isNone_eq_false_iff,hsome]
  · refine .given fun hfree => ?_
    subst hfree
    simp only [Bool.and_false,Bool.false_eq_true,if_false]
    exact both_pure fun c d hc hd => ⟨rfl,hc,hd⟩

theorem held_resumeSleep (t : F64) :
    Triple (Both (Going Clean) (Held host text)) (resumeSleep host t)
      (fun _ => Both (Going Clean) (Held host text)) E := by
  refine both_readData fun d hd => ?_
  refine both_pre (L := Going Clean) (H := Held host text) ?_ (fun _ h => h) fun _ h => h ▸ hd
  cases d.sleepUntil with
  | none => exact both_pure fun c d hc hd => ⟨hc,hd⟩
  | some until_ =>
    refine .ite (fun _ => both_pure fun c d hc hd => ⟨hc,hd⟩) fun _ => ?_
    refine .bind (both_change (H := Held host text) fun d hd => hd) fun _ => ?_
    exact .bind (both_move (L := Going Clean) fun c hc => hc) fun _ =>
      both_pure fun c d hc hd => ⟨hc,hd⟩

theorem held_resumeParallel (hpoll : PollReturns host) :
    Triple (Both (Going Clean) (Held host text)) (resumeParallel host)
      (fun go s => if go then Both (Standing (Reporting text) (Reports text)) Free s
        else Both (Going Clean) (Held host text) s) E := by
  refine both_readData fun d hd => ?_
  split
  · rename_i hnone
    have hsome := hd.2.1
    simp [Data.waits,hnone] at hsome
  · rename_i hstate hnone
    have hsome := hd.1.2 hd.2.1
    simp [hnone] at hsome
  · rename_i state begin poll hstate hdispatch
    refine .bind (Q := fun _ => Both (Going Clean) (Held host text)) ?_ fun results => ?_
    · intro n s hs
      obtain ⟨r,hr⟩ := hpoll begin poll hdispatch state s.data.world
      have hdata : Held host text s.data := by
        rw [show s.data = d from hs.2]
        exact hd
      simp only [onData,zoom,ask,ofFun,hr]
      exact ⟨hs.1,hdata⟩
    cases results with
    | none => exact both_pure fun c d hc hd => ⟨hc,hd⟩
    | some results =>
      refine .bind
        (Q := fun _ => Both (Standing (Reporting text) (Reports text)) Free) ?_ fun _ => ?_
      · refine both_readData fun d' hd' => ?_
        obtain ⟨message,hmessage,hin⟩ := hd'.2.2
        refine .bind (both_change (H := Free) fun d'' h => by rw [h]; exact hd'.1.joined)
          fun _ => ?_
        rw [hmessage]
        refine .bind (both_move (L := Going Clean) fun c hc => hc) fun _ => ?_
        exact .bind (reporting_of_failStep host hin) fun _ =>
          .pure fun _ h => h
      · refine .bind (both_clearActive (guarded_reporting text)) fun _ => ?_
        exact both_pure fun c d hc hd => ⟨hc,hd⟩

theorem held_tick (hpoll : PollReturns host) :
    Triple (Both (Going Clean) (Held host text)) (tick host)
      (fun _ s => Both (Going Clean) (Held host text) s ∨
        Both (Rest (Reports text)) (Orderly host) s ∨ Aborted s.ctl)
      (fun _ _ => False) := by
  have w := guarded_reporting text
  refine (tick_of_body w host (P := Both (Going Clean) (Held host text))
    (Q := fun s => Both (Going Clean) (Held host text) s ∨
      Both (Rest (Reports text)) (Orderly host) s ∨ Aborted s.ctl) (fun s hs => hs.1.2.1) ?_).post ?_
  · refine both_read fun c hc => ?_
    refine .ite (fun hdone => ?_) fun _ => ?_
    · simp only [Bool.and_eq_true,List.isEmpty_iff] at hdone
      exact absurd hdone.2 (hc.2.2 hdone.1)
    refine both_pre (L := Going Clean) (H := Held host text) ?_ (fun c' hc' => hc' ▸ hc)
      fun _ h => h
    refine .bind (held_checkStopPause host) fun stopped => ?_
    refine .given fun hstopped => ?_
    subst hstopped
    simp only [Bool.false_eq_true,if_false]
    refine .bind (both_now (K := Going Clean) (F := Held host text) host
      fun d _ hd => hd) fun t => ?_
    refine .bind (Q := fun go s =>
      if go then Both (Standing (Reporting text) (Reports text)) Free s
      else Both (Going Clean) (Held host text) s) ?_ fun go => ?_
    · obtain ⟨hwait,hcontext,_,_⟩ := @both_idleStages World (fun e s => Raises host (Reporting text) e s ∨
        Aborted s.ctl) host (Going Clean) (Held host text) t
      obtain ⟨_,_,_,hobserve⟩ := @both_idleStages World (fun e s => Raises host (Reporting text) e s ∨
        Aborted s.ctl) host (Standing (Reporting text) (Reports text)) Free t
      refine resumeAll_cons (R := Both (Going Clean) (Held host text)) ?_ ?_
      · refine (held_resumeSleep host t).post ?_
        intro go s hs
        cases go <;> exact hs
      refine resumeAll_idle (hwait fun d hd => hd.1.1 .wait (by decide)) ?_
      refine resumeAll_idle (hcontext fun d hd => hd.1.1 .setContext (by decide)) ?_
      refine resumeAll_cons (held_resumeParallel host hpoll) ?_
      exact resumeAll_idle (hobserve fun d hd => hd .observation) (.pure fun _ h => h)
    · refine .ite (fun hgo => ?_) fun hgo => ?_
      · subst hgo
        refine (both_tickLoop w host).conseq (fun s hs => .inl hs) (fun _ s hs => .inr hs) ?_
        exact fun _ _ h => h
      · obtain rfl : go = false := by simpa using hgo
        exact .pure fun s hs => .inl hs
  · rintro _ s (hs | hs)
    · exact hs
    · exact .inr hs

end

/-- The fault is not lost: the run is to end in `ERROR` as it is, or the branches under way
have no other failure waiting for them, or there is no unwind that would swallow it. -/
def Heard (s : RtState World) (reason : String) : Prop :=
  endsInError s.ctl = true ∨
    if s.data.parallelState.isSome then
      ∀ waiting, s.data.parallelPendingFailure = some waiting →
        containsText waiting.toList (faultText reason).toList = true
    else s.ctl.pending = none

/-- Any number of requests, in any order, in which every fault is heard. -/
abbrev HeardRun (host : Host World) : RtState World → RtState World → Prop :=
  Relation.ReflTransGen fun s s' => ∃ r : Request,
    (∀ reason, r = .fail reason → Heard s reason) ∧ (r.perform host).Leaves s s'

def Owes (host : Host World) (text : String) (s : RtState World) : Prop :=
  Both (Rest (Reports text)) (Orderly host) s ∨
    Both (fun c => inProgress c ∧ Clean c ∧ Occupied c) (Held host text) s

section
variable (host : Host World) {text : String}

variable {s : RtState World}

theorem run_tick_idle (h : s.ctl.state ≠ .running) (n : Nat) :
    (tick host).run n s = .ok false s := by
  simp [tick,run_bind,getCtl,run_ofFun,h]

theorem owes_tick (hpoll : PollReturns host) :
    Triple (Owes host text) (tick host) (fun _ s => Owes host text s ∨ Aborted s.ctl)
      (fun _ _ => False) := by
  intro n s hs
  by_cases hstate : s.ctl.state = .running
  · rcases hs with hs | hs
    · have hreport : Reporting text s.ctl := by
        rcases hs.1.1 with h | h
        · exact h
        · rw [h.1] at hstate
          cases hstate
      exact (both_tick (guarded_reporting text) host).conseq (fun _ h => h)
        (fun _ _ h => h.imp_left .inl) (fun _ _ h => h) n s ⟨⟨hreport,hstate,hs.1.2⟩,hs.2⟩
    · refine (held_tick host hpoll).conseq (fun _ h => h) ?_ (fun _ _ h => h) n s
        ⟨⟨hs.1.2.1,hstate,hs.1.2.2⟩,hs.2⟩
      rintro _ s' (h | h | h)
      · exact .inl (.inr ⟨⟨.inl h.1.2.1,h.1.1,h.1.2.2⟩,h.2⟩)
      · exact .inl (.inl h)
      · exact .inr h
  · rw [run_tick_idle host hstate]
    exact .inl hs

theorem owes_move {f : Ctl → Ctl} (hon : ∀ c, inProgress c → inProgress (f c))
    (herror : ∀ c, c.state = .error → (f c).state = .error)
    (hpending : ∀ c, (f c).pending = c.pending) (hlast : ∀ c, (f c).lastError = c.lastError)
    (hstack : ∀ c, (f c).stack = c.stack) :
    Triple (Owes host text) (move f : RT World Unit) (fun _ => Owes host text)
      (fun _ _ => False) := by
  have hocc : ∀ c, Occupied c → Occupied (f c) := by
    intro c h
    unfold Occupied
    rw [hpending,hstack]
    exact h
  refine .modify fun s hs => ?_
  rcases hs with hs | hs
  · refine .inl ⟨⟨?_,hocc _ hs.1.2⟩,hs.2⟩
    rcases hs.1.1 with h | h
    · exact .inl (h.same (hon _ h.1) (hpending _))
    · exact .inr ⟨herror _ h.1,by rw [hlast]; exact h.2⟩
  · refine .inr ⟨⟨hon _ hs.1.1,?_,hocc _ hs.1.2.2⟩,hs.2⟩
    have hclean : endsInError s.ctl = false := hs.1.2.1
    unfold Clean endsInError
    rw [hpending]
    exact hclean

theorem fail_cases {reason : String} {Q : Unit → RtState World → Prop}
    {E : PyExc → RtState World → Prop} (hidle : ¬ inProgress s.ctl → Q () s)
    (hheld : inProgress s.ctl → s.data.parallelState.isSome = true →
      Q () ⟨{ s.ctl with pauseRequested := false, stopRequested := false },
        { s.data with parallelPendingFailure := some (faultText reason) }⟩)
    (hunwind : inProgress s.ctl → s.data.parallelState = none →
      Triple (Both (fun c => c.state = s.ctl.state ∧ c.pending = s.ctl.pending ∧
          c.stack = s.ctl.stack) Free) (do
        let begun ← beginTerminalUnwind host .error (some (faultText reason))
        if begun then move fun c => { c with state := .running }
        else move fun c => Ctl.setError (faultText reason) { c with activeStep := none }) Q E) :
    Triple (fun t => t = s) (Sequencer.fail host reason) Q E := by
  obtain ⟨c,d⟩ := s
  refine (both_read (K := fun c' => c' = c) (F := fun d' => d' = d) fun c' hc' =>
    both_readData fun d' hd' => ?_).pre fun t ht => by rw [ht]; exact ⟨rfl,rfl⟩
  subst hc' hd'
  refine .ite (fun hstate => ?_) fun hstate => ?_
  · refine both_pure fun c' d' hc' hd' => ?_
    subst hc' hd'
    refine hidle fun hon => ?_
    rcases hon with h | h
    · simp [show c'.state = _ from h] at hstate
    · simp [show c'.state = _ from h] at hstate
  have hon : inProgress c' := by
    by_cases hrun : c'.state = .running
    · exact .inl hrun
    · exact .inr (by simpa [hrun] using hstate)
  refine .bind (both_move
    (L := fun c => c = { c' with pauseRequested := false, stopRequested := false })
    fun c hc => by rw [hc]) fun _ => ?_
  refine .ite (fun hsome => ?_) fun hnone => ?_
  · refine .modify fun t ht => ?_
    obtain ⟨tc,td⟩ := t
    obtain ⟨rfl,rfl⟩ := ht
    exact hheld hon hsome
  · refine .bind (both_change (H := Free) fun d _ => free_clearWaits d) fun _ => ?_
    refine .bind (both_move (L := fun c => c.state = c'.state ∧
      c.pending = c'.pending ∧ c.stack = c'.stack) fun c hc => ?_) fun _ => ?_
    · subst hc
      dsimp only
      split <;> exact ⟨rfl,rfl,rfl⟩
    · exact hunwind hon (by simpa using hnone)

theorem owes_fail (reason : String) :
    Triple (fun s => Owes host text s ∧ Heard s reason) (Sequencer.fail host reason)
      (fun _ => Owes host text) (fun _ _ => False) := by
  intro n s hs
  obtain ⟨hs,hheard⟩ := hs
  refine fail_cases host (fun _ => hs) (fun hon hsome => ?_) (fun hon hnone => ?_) n s rfl
  · rcases hs with hs | hs
    · refine .inl ⟨⟨(guarded_reporting text).ended hs.1.1 ⟨rfl,rfl,rfl⟩,hs.1.2⟩,hs.2⟩
    · have hclean : endsInError s.ctl = false := hs.1.2.1
      obtain ⟨waiting,hwaiting,hin⟩ := hs.2.2.2
      have hcover : ∀ waiting, s.data.parallelPendingFailure = some waiting →
          containsText waiting.toList (faultText reason).toList = true := by
        rcases hheard with herror | hheard
        · rw [hclean] at herror
          cases herror
        · simpa [hsome] using hheard
      refine .inr ⟨hs.1,hs.2.1,hs.2.2.1,?_⟩
      exact Mentions.trans ⟨faultText reason,rfl,hcover waiting hwaiting⟩ hin
  · have hs : Both (Rest (Reports text)) (Orderly host) s := by
      rcases hs with hs | hs
      · exact hs
      · have hsome : s.data.parallelState.isSome = true := hs.2.2.1
        simp [hnone] at hsome
    have hreport : Reporting text s.ctl := by
      rcases hs.1.1 with h | h
      · exact h
      · rcases hon with hstate | hstate <;> simp [h.1] at hstate
    refine .bind (both_pre (rest_beginTerminalUnwind (I := Reporting text) host
      (fun h hp => absurd hp h.pending) fun _ h => h) ?_ fun _ h => h) fun begun => ?_
    · rintro c ⟨hstate,hpending,hstack⟩
      refine ⟨hreport.same ?_ hpending,?_⟩
      · unfold inProgress
        rw [hstate]
        exact hon
      · unfold Occupied
        rw [hpending,hstack]
        exact hs.1.2
    refine .ite (fun _ => ?_) fun hbegun => ?_
    · refine .modify fun t ht => .inl ⟨⟨.inl ?_,ht.1.1.2⟩,ht.2.orderly host⟩
      exact ht.1.1.1.same (.inl rfl) rfl
    · refine .modify fun t ht => ?_
      have hpending : t.ctl.pending = none := by simpa [hbegun] using ht.1.2
      exact absurd hpending ht.1.1.1.pending

theorem owes_perform (hpoll : PollReturns host) (r : Request) :
    Triple (fun s => Owes host text s ∧ ∀ reason, r = .fail reason → Heard s reason)
      (r.perform host) (fun _ s => Owes host text s ∨ Aborted s.ctl) (fun _ _ => False) := by
  cases r with
  | tick =>
    refine .bind ((owes_tick host hpoll).pre fun _ h => h.1) fun _ => ?_
    exact .pure fun _ h => h
  | pause =>
    have h : Triple (Owes host text) requestPause (fun _ => Owes host text) (fun _ _ => False) :=
      owes_move host (fun _ h => h) (fun _ h => h) (fun _ => rfl) (fun _ => rfl) fun _ => rfl
    exact h.conseq (fun _ h => h.1) (fun _ _ h => .inl h) fun _ _ h => h
  | resume =>
    have h : Triple (Owes host text) Sequencer.resume (fun _ => Owes host text)
        (fun _ _ => False) := by
      refine owes_move host (fun c hc => ?_) (fun c hc => ?_) (fun c => ?_) (fun c => ?_) fun c => ?_
      · split
        · exact .inl rfl
        · exact hc
      · simp [hc]
      · split <;> rfl
      · split <;> rfl
      · split <;> rfl
    exact h.conseq (fun _ h => h.1) (fun _ _ h => .inl h) fun _ _ h => h
  | stop =>
    have h : Triple (Owes host text) requestStop (fun _ => Owes host text)
        (fun _ _ => False) := by
      refine owes_move host (fun c hc => ?_) (fun c hc => ?_) (fun c => ?_) (fun c => ?_) fun c => ?_
      · split
        · exact .inl rfl
        · exact hc
      · simp [hc]
      · split <;> rfl
      · split <;> rfl
      · split <;> rfl
    exact h.conseq (fun _ h => h.1) (fun _ _ h => .inl h) fun _ _ h => h
  | fail reason =>
    refine (owes_fail host reason).conseq (fun _ h => ⟨h.1,h.2 reason rfl⟩)
      (fun _ _ h => .inl h) fun _ _ h => h
  | output payload =>
    have h : Triple (Owes host text) (recordAnalysisOutput payload) (fun _ => Owes host text)
        (fun _ _ => False) := by
      refine .modify fun s hs => ?_
      rcases hs with hs | hs
      · exact .inl ⟨hs.1,hs.2.same (recordOutput_waits payload s.data)⟩
      · refine .inr ⟨hs.1,hs.2.same (recordOutput_waits payload s.data) ?_⟩
        simp only [recordOutput]
    exact h.conseq (fun _ h => h.1) (fun _ _ h => .inl h) fun _ _ h => h

variable {host}

def EarlierFailure (c : Ctl) (earlier : String) : Prop :=
  endsInError c = true ∧ ∃ p, c.pending = some p ∧ p.error = some earlier

theorem Sound.earlier {c : Ctl} (h : Sound c) (hon : inProgress c) (hend : endsInError c = true) :
    ∃ earlier, EarlierFailure c earlier ∧ Reporting earlier c := by
  unfold endsInError at hend
  cases hp : c.pending with
  | none => simp [hp] at hend
  | some p =>
    have hfails : p.state = .error ∨ p.cleanupFailed = true := by simpa [hp] using hend
    obtain ⟨earlier,he⟩ := isSome_iff_exists.1 (h.reports p hp hfails)
    refine ⟨earlier,⟨by simp [endsInError,hp,hfails],p,hp,he⟩,hon,p,hp,hfails,?_⟩
    rw [he]
    exact mentions_self earlier

variable {s s' : RtState World}

theorem owes_of_fail {reason : String} (hs : Stands host s)
    (hon : inProgress s.ctl) (hheard : Heard s reason)
    (hfail : (Sequencer.fail host reason).Leaves s s') :
    Owes host (faultText reason) s' ∨ ∃ earlier, EarlierFailure s.ctl earlier ∧ Owes host earlier s' := by
  cases hend : endsInError s.ctl with
  | true =>
    obtain ⟨earlier,hearlier,hreport⟩ := hs.1.1.earlier hon hend
    refine .inr ⟨earlier,hearlier,?_⟩
    have h : Triple (fun s => Owes host earlier s ∧ Heard s reason)
        (Sequencer.fail host reason) (fun _ => Owes host earlier) (fun _ => Owes host earlier) :=
      (owes_fail host reason).conseq (fun _ h => h) (fun _ _ h => h) fun _ _ h => nomatch h
    exact h.leaves ⟨.inl ⟨⟨.inl hreport,hs.1.2⟩,hs.2⟩,hheard⟩ hfail
  | false =>
    refine .inl ?_
    have hnew : if s.data.parallelState.isSome then
        ∀ waiting, s.data.parallelPendingFailure = some waiting →
          containsText waiting.toList (faultText reason).toList = true
        else s.ctl.pending = none := by
      rcases hheard with herror | hheard
      · rw [hend] at herror
        cases herror
      · exact hheard
    refine Triple.leaves (P := fun t => t = s) (I := Owes host (faultText reason))
      (fail_cases host (fun hoff => absurd hon hoff) (fun _ hsome => ?_) fun _ hnone => ?_) rfl hfail
    · obtain ⟨job,hbusy⟩ := hs.2
      have hjob : job = .parallel := by
        by_contra hne
        have hidle : s.data.waits.parallel = none := hbusy.1 .parallel (Ne.symm hne)
        simp [show s.data.parallelState = none from hidle] at hsome
      refine .inr ⟨⟨hon,hend,hs.1.2⟩,hjob ▸ hbusy,hsome,mentions_self _⟩
    · have hpending : s.ctl.pending = none := by simpa [hnone] using hnew
      refine .bind (both_pre (reporting_of_begin host
        (containsText_iff.2 (infix_refl (faultText reason).toList)) (fun _ h => h) hon)
        (fun c hc => ⟨hc.1,hc.2.1.trans hpending⟩) fun _ h => h) fun begun => ?_
      refine .ite (fun hbegun => ?_) fun hbegun => ?_
      · subst hbegun
        refine .modify fun t ht => .inl ⟨⟨.inl ?_,ht.1.2.1⟩,ht.2.orderly host⟩
        exact ht.1.2.2.same (.inl rfl) rfl
      · obtain rfl : begun = false := by simpa using hbegun
        refine .modify fun t ht => .inl ⟨⟨.inr ⟨rfl,mentions_self _⟩,?_⟩,
          ht.2.orderly host⟩
        exact occupied_of_none ht.1.2.2

theorem HeardRun.owes (hpoll : PollReturns host) (h : HeardRun host s s')
    (hs : Owes host text s) : Owes host text s' ∨ Aborted s'.ctl := by
  induction h with
  | refl => exact .inl hs
  | @tail t u _ hstep ih =>
    obtain ⟨r,hheard,hleaves⟩ := hstep
    rcases ih with howes | ha
    · have hperform : Triple
          (fun s => Owes host text s ∧ ∀ reason, r = .fail reason → Heard s reason)
          (r.perform host) (fun _ s => Owes host text s ∨ Aborted s.ctl)
          (fun _ s => Owes host text s ∨ Aborted s.ctl) :=
        (owes_perform host hpoll r).conseq (fun _ h => h) (fun _ _ h => h) fun _ _ h => nomatch h
      exact hperform.leaves ⟨howes,hheard⟩ hleaves
    · exact .inr (Serves.aborted ⟨r,hleaves⟩ ha)

theorem HeardRun.serves (h : HeardRun host s s') : Run host s s' := by
  induction h with
  | refl => exact .refl
  | tail _ hstep ih =>
    obtain ⟨r,_,hleaves⟩ := hstep
    exact ih.tail ⟨r,hleaves⟩

theorem Owes.outcome (h : Owes host text s) :
    inProgress s.ctl ∨ s.ctl.state = .error ∧ Mentions text s.ctl.lastError := by
  rcases h with h | h
  · exact h.1.1.imp_left And.left
  · exact .inl h.1.1

end

/-- In every run in which each fault is heard and no failed trial cuts an unwind off: from
the fault on the run is in progress, or it has ended in `ERROR`, and its last error mentions the
fault or the failure whose unwind was under way when the fault came in. -/
theorem fault_ends_in_error (host : Host World) (hpoll : PollReturns host) (args : StartArgs)
    (n : Nat) (reason : String) (s₀ s₁ s s₂ s' : RtState World)
    (hstart : (start host args).run n s₀ = .ok () s₁) (hbefore : Run host s₁ s)
    (hon : inProgress s.ctl) (hheard : Heard s reason)
    (hfail : (Sequencer.fail host reason).Leaves s s₂) (hafter : HeardRun host s₂ s')
    (hclean : .trialAborted true ∉ s'.ctl.history) : inProgress s'.ctl ∨ s'.ctl.state = .error ∧
      (Mentions (faultText reason) s'.ctl.lastError ∨
        ∃ earlier, EarlierFailure s.ctl earlier ∧ Mentions earlier s'.ctl.lastError) := by
  have hrun : Run host s s' :=
    .head ⟨.fail reason,hfail⟩ (HeardRun.serves hafter)
  have hstands : Stands host s := by
    rcases Run.stands hbefore (start_stands hstart) with h | h
    · exact h
    · exact absurd (Ctl.Moves.aborted (Run.moves hrun) h) hclean
  have howed : ∀ text, Owes host text s₂ → Owes host text s' := by
    intro text h
    rcases HeardRun.owes hpoll hafter h with howes | ha
    · exact howes
    · exact absurd ha hclean
  rcases owes_of_fail hstands hon hheard hfail with h | ⟨earlier,hearlier,h⟩
  · rcases (howed _ h).outcome with hstill | ⟨hstate,hin⟩
    · exact .inl hstill
    · exact .inr ⟨hstate,.inl hin⟩
  · rcases (howed _ h).outcome with hstill | ⟨hstate,hin⟩
    · exact .inl hstill
    · exact .inr ⟨hstate,.inr ⟨earlier,hearlier,hin⟩⟩

def faultThen (host : Host World) (n : Nat) (before : List Request) (reason : String)
    (after : List Request) (s : RtState World) :
    Option (RtState World × RtState World × RtState World) := do
  let s ← startThen host {} n before s
  let s₂ ← runAll n [Sequencer.fail host reason] s
  let s' ← runAll n (after.map (Request.perform host)) s₂
  pure (s,s₂,s')

def Request.isFault : Request → Bool
  | .fail _ => true
  | _ => false

theorem faultThen_run {host : Host World} {n : Nat} {before after : List Request} {reason : String}
    {s₀ s s₂ s' : RtState World} (h : faultThen host n before reason after s₀ = some (s,s₂,s'))
    (hafter : ∀ r ∈ after, r.isFault = false) :
    ∃ s₁, (start host {}).run n s₀ = .ok () s₁ ∧ Run host s₁ s ∧
      (Sequencer.fail host reason).Leaves s s₂ ∧ HeardRun host s₂ s' := by
  simp only [faultThen,bind,pure,bind_eq_some_iff] at h
  obtain ⟨t,hbefore,t₂,hfail,t',hrest,heq⟩ := h
  obtain ⟨rfl,rfl,rfl⟩ : t = s ∧ t₂ = s₂ ∧ t' = s' := by simpa using heq
  obtain ⟨s₁,hstart,hrun⟩ := startThen_run hbefore
  refine ⟨s₁,hstart,hrun,?_,runAll_chain ?_ hrest⟩
  · simp only [runAll] at hfail
    split at hfail
    · rename_i a u hu
      obtain rfl := Option.some.inj hfail
      exact ⟨n,.inl ⟨a,hu⟩⟩
    · rename_i e u hu
      obtain rfl := Option.some.inj hfail
      exact ⟨n,.inr ⟨e,hu⟩⟩
    · cases hfail
  · intro x hx u u' hleaves
    obtain ⟨r,hr,rfl⟩ := mem_map.1 hx
    refine ⟨r,fun reason hreason => ?_,hleaves⟩
    have hno := hafter r hr
    rw [hreason] at hno
    cases hno

theorem fault_in_a_pause : ∃ s₁ s s₂ s' : RtState Unit,
    (start Host.quiet {}).run 30 (loadedWith () [.try_ [.pause none false] [switch "off"] false]) =
      .ok () s₁ ∧ Run Host.quiet s₁ s ∧ s.ctl.state = .paused ∧
    (Sequencer.fail Host.quiet "interlock").Leaves s s₂ ∧ HeardRun Host.quiet s₂ s' ∧
    s'.ctl.state = .error ∧ Mentions (faultText "interlock") s'.ctl.lastError := by
  have hrun : ((faultThen Host.quiet 30 [.tick] "interlock" [.tick,.tick]
      (loadedWith () [.try_ [.pause none false] [switch "off"] false])).map fun (s,_,s') =>
      (s.ctl.state,s.data.parallelState,s.ctl.pending.isNone,s'.ctl.state,
        noAbort s'.ctl.history)) = some (.paused,none,true,.error,true) := by decide +kernel
  obtain ⟨⟨s,s₂,s'⟩,hs,hfields⟩ := map_eq_some_iff.1 hrun
  simp only [Prod.mk.injEq,isNone_iff_eq_none] at hfields
  obtain ⟨hpaused,hbranches,hpending,hstate,hclean⟩ := hfields
  obtain ⟨s₁,hstart,hbefore,hfail,hafter⟩ := faultThen_run hs (by decide)
  have hpoll : PollReturns Host.quiet := fun _ _ h => nomatch h
  have hheard : Heard s "interlock" := by
    refine .inr ?_
    simp [hbranches,hpending]
  refine ⟨s₁,s,s₂,s',hstart,hbefore,hpaused,hfail,hafter,hstate,?_⟩
  rcases fault_ends_in_error Host.quiet hpoll {} 30 "interlock" _ s₁ s s₂ s' hstart hbefore
    (.inr hpaused) hheard hfail hafter (not_mem_of_noAbort hclean) with hon | ⟨_,h⟩
  · rcases hon with h | h <;> simp [hstate] at h
  · rcases h with h | ⟨_,⟨_,p,hp,_⟩,_⟩
    · exact h
    · simp [hpending] at hp

theorem stop_swallows_fault : ¬ ∀ s₁ s s₂ s',
    (start Host.quiet {}).run 30 (loadedWith () [.try_ [.pause none false] [.pause none false]
      false]) = .ok () s₁ → Run Host.quiet s₁ s → inProgress s.ctl →
    (Sequencer.fail Host.quiet "interlock tripped").Leaves s s₂ → Run Host.quiet s₂ s' →
    s'.ctl.state.terminal = true → s'.ctl.state = .error := by
  intro h
  have hrun : ((faultThen Host.quiet 30 [.tick,.stop,.tick] "interlock tripped"
      [.tick,.resume,.tick] (loadedWith () [.try_ [.pause none false] [.pause none false]
        false])).map fun (s,_,s') => (s.ctl.state,s'.ctl.state)) = some (.running,.stopped) := by
    decide +kernel
  obtain ⟨⟨s,s₂,s'⟩,hs,hfields⟩ := map_eq_some_iff.1 hrun
  simp only [Prod.mk.injEq] at hfields
  obtain ⟨hon,hstate⟩ := hfields
  obtain ⟨s₁,hstart,hbefore,hfail,hafter⟩ := faultThen_run hs (by decide)
  have hend := h s₁ s s₂ s' hstart hbefore (.inl hon) hfail (HeardRun.serves hafter)
    (by rw [hstate]; rfl)
  rw [hstate] at hend
  cases hend

end ExperimentControl.Sequencer

import ExperimentControl.Shm.Stable

/-!
What the readers of a ring return.
-/

namespace ExperimentControl.Shm
open Lib Loads List Option

structure ShmEvent.Of (event : ShmEvent) (call : WriteCall) : Prop where
  mono : (event.t0MonoNs : Int) = call.t0MonoNs
  wall : (event.t0WallNs : Int) = call.t0WallNs
  payload : event.payload = call.payload
  metadata : event.metadata = call.metadata

/-- The event is what was passed to the one call that its number was assigned to. -/
def Faithful (w : World) (event : ShmEvent) : Prop :=
  ∃ call, (event.seq,call) ∈ w.assigned ∧
    (∀ other, (event.seq,other) ∈ w.assigned → other = call) ∧ event.Of call

variable {w : World} {l : ShmLayout}

theorem assigned_unique (h : Inv l w) {s : Nat} {call call' : WriteCall}
    (hc : (s,call) ∈ w.assigned) (hc' : (s,call') ∈ w.assigned) : call' = call := by
  have := inj_on_of_nodup_map h.nodup hc' hc rfl
  simpa using this

theorem Faithful.step {w w' : World} {event : ShmEvent} (h : Inv l w)
    (hstep : WriterStep l w w') (hf : Faithful w event) : Faithful w' event := by
  obtain ⟨call,hmem,-,hof⟩ := hf
  have hmem' := hstep.assigned h _ hmem
  exact ⟨call,hmem',fun other ho => assigned_unique (hstep.inv h) hmem' ho,hof⟩

def Copying (l : ShmLayout) (s : Nat) (call : WriteCall) (w : World) : Prop :=
  Inv l w ∧ (s,call) ∈ w.assigned

def Lost (slot s : Nat) (w : World) : Prop := w.memory (seqEnd slot) ≠ s

section
variable {l : ShmLayout} {slot s : Nat} {call : WriteCall}

theorem Copying.step (w w' : World) (h : Copying l s call w) (hstep : WriterStep l w w') :
    Copying l s call w' := ⟨hstep.inv h.1,hstep.assigned h.1 _ h.2⟩

theorem Lost.step (w w' : World) (h : Copying l s call w) (hstep : WriterStep l w w')
    (hlost : Lost slot s w) : Lost slot s w' := hstep.lost h.1 h.2 hlost

variable {w : World}

theorem Copying.holds (slot : Nat) (h : Copying l s call w) :
    Lost slot s w ∨ Holds l w.memory slot call := by
  by_cases hlost : Lost slot s w
  · exact .inl hlost
  · have hs : w.memory (seqEnd slot) = s := not_not.1 hlost
    have hpos := (h.1.keys _ h.2).1
    obtain ⟨call',hmem,hholds⟩ := h.1.slots slot (by dsimp only at hpos; omega)
    rw [hs] at hmem
    rw [assigned_unique h.1 h.2 hmem] at hholds
    exact .inr hholds

theorem ensures_field {c : Cell} {f : Int}
    (hf : ∀ memory, Holds l memory slot call → (memory c : Int) = f) (h : Copying l s call w) :
    Ensures World.memory (WriterStep l)
      (fun n w' => Copying l s call w' ∧ (Lost slot s w' ∨ n = f.toNat)) (Loads.cell c) w := by
  refine ensures_cell_unless Copying.step (fun w' hw' => ?_) h
  rcases hw'.holds slot with hl | hholds
  · exact .inl hl
  · exact .inr (by rw [← hf _ hholds]; rfl)

theorem ensures_readBytes {place : Nat → Cell} {bytes : List UInt8} {n : Nat}
    (hn : bytes.length = n)
    (hbytes : ∀ memory, Holds l memory slot call → ∀ i byte, bytes[i]? = some byte →
      memory (place i) = byte.toNat) (h : Copying l s call w) :
    Ensures World.memory (WriterStep l)
      (fun b w' => Copying l s call w' ∧ (Lost slot s w' ∨ b = bytes)) (readBytes place n) w := by
  have hval : ∀ w', ∀ i ∈ List.range n, Copying l s call w' →
      Lost slot s w' ∨ w'.memory (place i) = (bytes.getD i 0).toNat := by
    intro w' i hi hw'
    rcases hw'.holds slot with hl | hholds
    · exact .inl hl
    · have hi' : i < bytes.length := by simpa [hn] using hi
      refine .inr ?_
      rw [hbytes _ hholds i bytes[i] (by simp [hi'])]
      simp [hi']
  have hcells := ensures_cells_unless Copying.step Lost.step place
    (fun i => (bytes.getD i 0).toNat) (List.range n) hval h
  refine ensures_bind (ensures_mono hcells ?_)
  rintro vs w' - ⟨hw',hvs⟩
  refine ⟨hw',hvs.imp_right ?_⟩
  rintro rfl
  subst hn
  apply ext_getElem
  · simp
  · intro i h₁ h₂
    simp [h₂]

theorem ensures_readMetadata (hvalid : call.valid l = true) (h : Copying l s call w) :
    Ensures World.memory (WriterStep l)
      (fun m w' => Copying l s call w' ∧ (Lost slot s w' ∨ m = call.metadata))
      (readMetadata l slot) w := by
  have hlen : call.metadata.map List.length = l.metadataNbytes := by
    simp only [WriteCall.valid,Bool.and_eq_true,decide_eq_true_eq] at hvalid
    exact hvalid.1.2
  unfold readMetadata
  cases hn : l.metadataNbytes with
  | none =>
    rw [hn] at hlen
    exact ⟨h,.inr (map_eq_none_iff.1 hlen).symm⟩
  | some n =>
    rw [hn] at hlen
    obtain ⟨bytes,hbytes,hlen⟩ := map_eq_some_iff.1 hlen
    have hread := ensures_readBytes hlen
      (fun memory (hholds : Holds l memory slot call) => by simpa [hbytes] using hholds.metadata) h
    refine ensures_bind (ensures_mono hread ?_)
    rintro b w' - ⟨hw',hb⟩
    refine ⟨hw',hb.imp_right ?_⟩
    rintro rfl
    exact hbytes.symm

end

def Reads {α : Type} (l : ShmLayout) (events : α → List ShmEvent) (a : α) (w : World) : Prop :=
  Inv l w ∧ ∀ event ∈ events a, Faithful w event

theorem Reads.step {α : Type} {events : α → List ShmEvent} (a : α) (w w' : World)
    (hstep : WriterStep l w w') (h : Reads l events a w) : Reads l events a w' :=
  ⟨hstep.inv h.1,fun event he => (h.2 event he).step h.1 hstep⟩

theorem ensures_readStableSlot (slot : Nat) (expected : Int) (h : Inv l w) :
    Ensures World.memory (WriterStep l) (Reads l Option.toList)
      (readStableSlot l slot expected) w := by
  have hinv : ∀ w w', Inv l w → WriterStep l w w' → Inv l w' := fun _ _ h hstep => hstep.inv h
  have hnone : ∀ w', Inv l w' → Reads l Option.toList none w' := fun w' hw' =>
    ⟨hw',fun event he => nomatch he⟩
  refine ensures_bind (ensures_cell fun w₁ hr₁ => ?_)
  have h₁ := invariant_of_rely hinv h hr₁
  refine ensures_bind (ensures_cell fun w₂ hr₂ => ?_)
  have h₂ := invariant_of_rely hinv h₁ hr₂
  generalize w₁.memory (seqBegin slot) = first
  split
  · exact hnone w₂ h₂
  rename_i hmarks
  simp only [not_or,not_not] at hmarks
  obtain ⟨hpos,rfl,rfl⟩ := hmarks
  generalize hs : w₂.memory (seqEnd slot) = s at hpos ⊢
  obtain ⟨call,hmem,hholds⟩ := h₂.slots slot (by rwa [hs])
  rw [hs] at hmem
  have hcopy : Copying l s call w₂ := ⟨h₂,hmem⟩
  have hlen : call.payload.length = l.payloadNbytes := by
    have hvalid := hholds.valid
    simp only [WriteCall.valid,Bool.and_eq_true,decide_eq_true_eq] at hvalid
    exact hvalid.1.1
  -- from here on each copy is right unless the slot is lost
  refine ensures_bind_unless Copying.step Lost.step (ensures_field (fun _ h => h.mono) hcopy)
    fun mono w₃ h₃ => ?_
  refine ensures_bind_unless Copying.step Lost.step (ensures_field (fun _ h => h.wall) h₃)
    fun wall w₄ h₄ => ?_
  refine ensures_bind (ensures_cell fun w₅ hr₅ => ?_)
  have h₅ := invariant_of_rely Copying.step h₄ hr₅
  refine ensures_bind_unless Copying.step Lost.step
    (ensures_readBytes hlen (fun _ h => h.payload) h₅) fun payload w₆ h₆ => ?_
  refine ensures_bind_unless Copying.step Lost.step
    (ensures_readMetadata hholds.valid h₆) fun metadata w₇ h₇ => ?_
  refine ensures_bind (ensures_cell fun w₈ hr₈ => ?_)
  have h₈ := invariant_of_rely Copying.step h₇ hr₈
  refine ensures_bind (ensures_cell fun w₉ hr₉ => ?_)
  have h₉ := invariant_of_rely Copying.step h₈ hr₉
  generalize w₈.memory (seqBegin slot) = firstAfter
  split
  · intro _ _ _ _
    exact hnone w₉ h₉.1
  rename_i hafter
  simp only [not_or,not_not] at hafter
  have hkept : ¬ Lost slot s w₉ := by
    have : w₉.memory (seqEnd slot) = s := by omega
    exact not_not.2 this
  intro hmeta hpay hwall hmono
  refine ⟨h₉.1,fun event he => ?_⟩
  obtain rfl : event = _ := by simpa using he
  refine ⟨call,?_,?_,?_,?_,?_,?_⟩
  · simpa using h₉.2
  · intro other ho
    exact assigned_unique h₉.1 h₉.2 (by simpa using ho)
  · rw [hmono.resolve_left hkept,← hholds.mono]
    rfl
  · rw [hwall.resolve_left hkept,← hholds.wall]
    rfl
  · exact hpay.resolve_left hkept
  · exact hmeta.resolve_left hkept

section
variable {l : ShmLayout}

variable {w : World}

theorem ensures_inv_cell {c : Cell} (h : Inv l w) :
    Ensures World.memory (WriterStep l) (fun _ w' => Inv l w') (Loads.cell c) w :=
  ensures_cell fun _ hr => invariant_of_rely (fun _ _ h hstep => hstep.inv h) h hr

theorem ensures_readLastHint (h : Inv l w) :
    Ensures World.memory (WriterStep l) (fun _ w' => Inv l w') (readLastHint l) w := by
  unfold readLastHint
  split
  · exact h
  · refine ensures_bind (ensures_mono (ensures_inv_cell h) fun _ w₁ _ h₁ => ?_)
    refine ensures_bind (ensures_mono (ensures_inv_cell h₁) fun _ w₂ _ h₂ => ?_)
    exact h₂

theorem ensures_trySlots (seqTarget : Int) (slots : List Nat) (h : Inv l w) :
    Ensures World.memory (WriterStep l) (Reads l Option.toList) (trySlots l seqTarget slots) w := by
  induction slots generalizing w with
  | nil => exact ⟨h,fun event he => nomatch he⟩
  | cons slot rest ih =>
    refine ensures_bind (ensures_mono (ensures_readStableSlot slot seqTarget h) ?_)
    intro found w₁ _ h₁
    cases found with
    | some event => exact h₁
    | none => exact ih h₁.1

theorem ensures_readEvent (seqTarget : Int) (h : Inv l w) :
    Ensures World.memory (WriterStep l) (Reads l Option.toList) (readEvent l seqTarget) w := by
  refine ensures_bind (ensures_mono (ensures_readLastHint h) ?_)
  intro hint w₁ _ h₁
  cases hint with
  | none => exact ensures_trySlots seqTarget _ h₁
  | some hint =>
    dsimp only
    split
    · exact ensures_trySlots seqTarget _ h₁
    · exact ensures_trySlots seqTarget _ h₁

theorem ensures_findEntries (lastSeenSeq : Int) (slots : List Nat) (h : Inv l w) :
    Ensures World.memory (WriterStep l) (fun _ w' => Inv l w')
      (findEntries lastSeenSeq slots) w := by
  induction slots generalizing w with
  | nil => exact h
  | cons slot rest ih =>
    refine ensures_bind (ensures_mono (ensures_inv_cell h) fun _ w₁ _ h₁ => ?_)
    refine ensures_bind (ensures_mono (ensures_inv_cell h₁) fun _ w₂ _ h₂ => ?_)
    refine ensures_bind (ensures_mono (ih h₂) fun entries w₃ _ h₃ => ?_)
    split
    · exact h₃
    · exact h₃

theorem ensures_readEntries (entries : List (Nat × Nat)) (h : Inv l w) :
    Ensures World.memory (WriterStep l) (Reads l id) (readEntries l entries) w := by
  induction entries generalizing w with
  | nil => exact ⟨h,fun event he => nomatch he⟩
  | cons entry rest ih =>
    obtain ⟨seq,slot⟩ := entry
    refine ensures_bind (ensures_mono (ensures_readStableSlot slot seq h) ?_)
    intro event w₁ _ h₁
    refine ensures_bind (ensures_mono (ih h₁.1) ?_)
    intro events w₂ hr h₂
    -- the event was read before the others, and is still what was passed
    have hfirst : Reads l Option.toList event w₂ := invariant_of_rely
      (fun w w' h hstep => Reads.step event w w' hstep h) h₁ hr
    refine ⟨h₂.1,fun e he => ?_⟩
    rcases mem_append.1 he with he | he
    · exact hfirst.2 e he
    · exact h₂.2 e he

theorem ensures_readEvents (lastSeenSeq : Int) (h : Inv l w) :
    Ensures World.memory (WriterStep l) (Reads l id) (readEvents l lastSeenSeq) w := by
  have hslots : ∀ slots w', Inv l w' → Ensures World.memory (WriterStep l) (Reads l id)
      (findEntries lastSeenSeq slots >>= fun entries =>
        readEntries l (entries.mergeSort fun a b => a.1 ≤ b.1)) w' := by
    intro slots w' hw'
    refine ensures_bind (ensures_mono (ensures_findEntries lastSeenSeq slots hw') ?_)
    intro entries w₁ _ h₁
    exact ensures_readEntries _ h₁
  refine ensures_bind (ensures_mono (ensures_readLastHint h) ?_)
  intro hint w₁ _ h₁
  cases hint with
  | none => exact hslots _ w₁ h₁
  | some hint =>
    dsimp only
    split
    · exact hslots _ w₁ h₁
    · exact hslots _ w₁ h₁

end

inductive Query where
  | event (seqTarget : Int)
  | events (lastSeenSeq : Int)

def Query.reader (l : ShmLayout) : Query → Reader (List ShmEvent)
  | .event seqTarget => do
    let event ← readEvent l seqTarget
    pure event.toList
  | .events lastSeenSeq => readEvents l lastSeenSeq

/-- The ring, and every read that was begun, as what is left of it. -/
structure System where
  world : World
  reads : List (Reader (List ShmEvent))

inductive Action where
  | write (call : WriteCall)
  | store
  | query (query : Query)
  | load (i : Nat)

def System.next (l : ShmLayout) (s : System) : Action → Option System
  | .write call => (startWrite l call s.world).map fun w => { s with world := w }
  | .store => (continueWrite l s.world).map fun w => { s with world := w }
  | .query query => some { s with reads := s.reads ++ [query.reader l] }
  | .load i =>
    match s.reads[i]? with
    | some (.load c k) => some { s with reads := s.reads.set i (k (s.world.memory c)) }
    | _ => none

inductive Reachable (l : ShmLayout) : System → Prop where
  | init : Reachable l ⟨.init,[]⟩
  | step {s s' : System} (action : Action) :
      Reachable l s → s.next l action = some s' → Reachable l s'

def System.Ok (l : ShmLayout) (s : System) : Prop :=
  Inv l s.world ∧
    ∀ p ∈ s.reads, Ensures World.memory (WriterStep l) (Reads l id) p s.world

theorem ensures_query (query : Query) (h : Inv l w) :
    Ensures World.memory (WriterStep l) (Reads l id) (query.reader l) w := by
  cases query with
  | event seqTarget =>
    refine ensures_bind (ensures_mono (ensures_readEvent seqTarget h) ?_)
    intro event w₁ _ h₁
    exact h₁
  | events lastSeenSeq => exact ensures_readEvents lastSeenSeq h

theorem System.Ok.write {s : System} (h : s.Ok l)
    (hstep : WriterStep l s.world w) : System.Ok l { s with world := w } :=
  ⟨hstep.inv h.1,fun p hp => ensures_rely Reads.step hstep (h.2 p hp)⟩

theorem System.Ok.next {s s' : System} {action : Action} (h : s.Ok l)
    (hstep : s.next l action = some s') : s'.Ok l := by
  cases action with
  | write call =>
    obtain ⟨w,hw,rfl⟩ := map_eq_some_iff.1 hstep
    exact h.write (.start call hw)
  | store =>
    obtain ⟨w,hw,rfl⟩ := map_eq_some_iff.1 hstep
    exact h.write (.advance hw)
  | query query =>
    cases hstep
    refine ⟨h.1,fun p hp => ?_⟩
    rcases mem_append.1 hp with hp | hp
    · exact h.2 p hp
    · obtain rfl := mem_singleton.1 hp
      exact ensures_query query h.1
  | load i =>
    simp only [System.next] at hstep
    split at hstep
    · rename_i c k hi
      cases hstep
      refine ⟨h.1,fun p hp => ?_⟩
      rcases mem_or_eq_of_mem_set hp with hp | rfl
      · exact h.2 p hp
      · exact h.2 _ (mem_of_getElem? hi) s.world .refl
    · cases hstep

theorem Reachable.ok {s : System} (h : Reachable l s) : s.Ok l := by
  induction h with
  | init => exact ⟨inv_init l,fun p hp => nomatch hp⟩
  | step action _ hstep ih => exact ih.next hstep

/-- Whatever the writer and the readers do in between, a read that has returned holds only events
that are what was passed to the write of their number. -/
theorem reads_not_torn {l : ShmLayout} {s : System} (h : Reachable l s) {events : List ShmEvent}
    (hread : .ret events ∈ s.reads) {event : ShmEvent} (hevent : event ∈ events) :
    ∃ call, (event.seq,call) ∈ s.world.assigned ∧
      (∀ other, (event.seq,other) ∈ s.world.assigned → other = call) ∧
      (event.t0MonoNs : Int) = call.t0MonoNs ∧ (event.t0WallNs : Int) = call.t0WallNs ∧
      event.payload = call.payload ∧ event.metadata = call.metadata := by
  obtain ⟨call,hmem,hunique,hof⟩ := (h.ok.2 _ hread).2 event hevent
  exact ⟨call,hmem,hunique,hof.mono,hof.wall,hof.payload,hof.metadata⟩

def System.run (l : ShmLayout) : List Action → System → Option System
  | [],s => some s
  | action :: rest,s => (s.next l action).bind (System.run l rest)

theorem Reachable.run {s s' : System} (actions : List Action) (h : Reachable l s)
    (hrun : s.run l actions = some s') : Reachable l s' := by
  induction actions generalizing s with
  | nil =>
    cases hrun
    exact h
  | cons action rest ih =>
    obtain ⟨s₁,hnext,hrest⟩ := bind_eq_some_iff.1 hrun
    exact ih (.step action h hnext) hrest

def smallRing : ShmLayout := ⟨1,1,1,0,0,0,none⟩

def writeAndRead : List Action :=
  [.query (.events 0),.write ⟨[7],5,6,none⟩,.load 0] ++ List.replicate 11 .store ++ [.load 0] ++
    List.replicate 2 .store ++ .query (.event 1) :: List.replicate 8 (.load 1)

def returned (s : System) : List (Option (List Nat)) :=
  s.reads.map fun
    | .ret events => some (events.map ShmEvent.seq)
    | .load _ _ => none

theorem writeAndRead_not_torn :
    ∃ s events event, Reachable smallRing s ∧ .ret events ∈ s.reads ∧ event ∈ events ∧
      event.seq = 1 ∧ ∃ call, (event.seq,call) ∈ s.world.assigned ∧
        event.payload = call.payload := by
  have hrun : (System.run smallRing writeAndRead ⟨.init,[]⟩).map returned =
      some [some [],some [1]] := by decide +kernel
  obtain ⟨s,hs,hret⟩ := map_eq_some_iff.1 hrun
  have hreach := Reachable.run writeAndRead .init hs
  have hget : ∃ events, .ret events ∈ s.reads ∧ events.map ShmEvent.seq = [1] := by
    have hmem : some [1] ∈ returned s := by simp [hret]
    obtain ⟨p,hp,hevents⟩ := mem_map.1 hmem
    cases p with
    | ret events => exact ⟨events,hp,by simpa using hevents⟩
    | load c k => cases hevents
  obtain ⟨events,hread,hseq⟩ := hget
  obtain ⟨event,hevent,hone⟩ : ∃ event ∈ events, event.seq = 1 := by
    have : 1 ∈ events.map ShmEvent.seq := by simp [hseq]
    simpa using this
  obtain ⟨call,hmem,-,-,-,hpay,-⟩ := reads_not_torn hreach hread hevent
  exact ⟨s,events,event,hreach,hread,hevent,hone,call,hmem,hpay⟩

end ExperimentControl.Shm

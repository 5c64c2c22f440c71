import ExperimentControl.Shm.Writes

/-!
What a ring holds while no write is in progress: each of its slots the last event that was written
to it, so the newest `slotCount` events and no others.
-/

namespace ExperimentControl.Shm
open Lib Loads List

structure Settled (l : ShmLayout) (w : World) : Prop where
  inv : Inv l w
  idle : w.writing = none
  numbers : w.assigned.map Prod.fst = List.range' 1 w.nextSeq
  slot : w.nextSlot = w.nextSeq % l.slotCount
  kept : ∀ s, s < w.nextSeq → w.nextSeq ≤ s + l.slotCount →
    w.memory (seqBegin (s % l.slotCount)) = s+1 ∧ w.memory (seqEnd (s % l.slotCount)) = s+1
  unused : ∀ slot, w.nextSeq ≤ slot → w.memory (seqBegin slot) = 0

theorem settled_init (l : ShmLayout) : Settled l .init where
  inv := inv_init l
  idle := rfl
  numbers := rfl
  slot := by simp [World.init]
  kept s hs := by simp [World.init] at hs
  unused slot _ := rfl

section
variable {l : ShmLayout} {w : World} {call : WriteCall}

theorem writeStores_slot {slot seq : Nat} {store : Store}
    (h : store ∈ (writeStores l slot seq call).1) {slot' : Nat} (hne : slot' ≠ slot) :
    store.1.slot? ≠ some slot' := by
  rw [writeStores_eq] at h
  simp only [mem_append] at h
  rcases h with h | h | h
  · simp only [invalidateStores,mem_cons,not_mem_nil,or_false] at h
    rcases h with rfl | rfl <;> simpa [Cell.slot?,seqBegin,seqEnd] using Ne.symm hne
  · rw [(fillStores_cell h).1]
    simpa using Ne.symm hne
  · unfold publishStores hintStores at h
    split at h
    · rcases mem_cons.1 h with rfl | h
      · simpa [Cell.slot?,seqEnd] using Ne.symm hne
      · split at h
        · simp only [mem_cons,not_mem_nil,or_false] at h
          rcases h with rfl | rfl <;> simp [Cell.slot?]
        · simp at h
    · simp at h

theorem commitWrite_other {slot : Nat} (hne : slot ≠ w.nextSlot) (i : Nat) :
    (commitWrite l call w).1.memory (.word slot i) = w.memory (.word slot i) := by
  have hkeep : applyStores w.memory (writeStores l w.nextSlot (w.nextSeq+1) call).1 (.word slot i) =
      w.memory (.word slot i) := by
    apply applyStores_of_not_mem
    intro store hstore hcell
    exact writeStores_slot hstore hne (by rw [hcell]; rfl)
  unfold commitWrite
  dsimp only
  split <;> exact hkeep

theorem commitWrite_slot {seq : Nat} (hret : (commitWrite l call w).2 = .returned seq) :
    seq = w.nextSeq+1 ∧ (commitWrite l call w).1 = { w with
      memory := (commitWrite l call w).1.memory
      nextSeq := w.nextSeq+1
      nextSlot := (w.nextSlot+1) % l.slotCount
      assigned := w.assigned ++ [(w.nextSeq+1,call)] } ∧
    (commitWrite l call w).1.memory (seqBegin w.nextSlot) = w.nextSeq+1 ∧
    (commitWrite l call w).1.memory (seqEnd w.nextSlot) = w.nextSeq+1 := by
  unfold commitWrite at hret ⊢
  dsimp only at hret ⊢
  by_cases hok : (writeStores l w.nextSlot (w.nextSeq+1) call).2 = true
  · rw [if_pos hok] at hret ⊢
    have hpack : (packFields w.nextSlot 0 (slotFields (w.nextSeq+1) call)).2 = true := by
      rwa [writeStores_eq] at hok
    refine ⟨by simpa using hret.symm,rfl,?_⟩
    rw [writeStores_eq,publishStores,if_pos hpack]
    simp only [applyStores_append,applyStores_cons]
    have hhints : ∀ c : Cell, c.slot? ≠ none → ∀ memory,
        applyStores memory (hintStores l w.nextSlot (w.nextSeq+1)) c = memory c := by
      intro c hc memory
      apply applyStores_of_not_mem
      intro store hstore hcell
      unfold hintStores at hstore
      split at hstore
      · simp only [mem_cons,not_mem_nil,or_false] at hstore
        rcases hstore with rfl | rfl <;> exact hc (by rw [← hcell]; rfl)
      · simp at hstore
    rw [hhints _ (by simp [seqBegin,Cell.slot?]),hhints _ (by simp [seqEnd,Cell.slot?]),
      Function.update_self,Function.update_of_ne (by simp [seqBegin,seqEnd])]
    refine ⟨?_,rfl⟩
    obtain ⟨n,hn,hmem⟩ := packFields_complete hpack
      (show (slotFields (w.nextSeq+1) call)[0]? = some ((w.nextSeq+1 : Nat) : Int) from rfl)
    have hvalue : n = w.nextSeq+1 := by
      have := packQ_eq_some hn
      omega
    rw [hvalue] at hmem
    exact applyStores_of_mem (fillStores_nodup _ _ _) (mem_append_right _ hmem) _
  · rw [if_neg hok] at hret
    cases hret

theorem mod_ne_of_window {a b n : Nat} (hab : a < b) (hbn : b < a+n) : a % n ≠ b % n := by
  intro heq
  have hdvd : n ∣ b-a := Nat.dvd_of_mod_eq_zero (Nat.sub_mod_eq_zero_of_mod_eq heq.symm)
  have hle := Nat.le_of_dvd (by omega) hdvd
  omega

theorem Settled.commitWrite (h : Settled l w) (hvalid : call.valid l = true) {seq : Nat}
    (hret : (commitWrite l call w).2 = .returned seq) : Settled l (commitWrite l call w).1 := by
  obtain ⟨-,hworld,hbegin,hend⟩ := commitWrite_slot hret
  have hinv : Inv l (Shm.commitWrite l call w).1 := by
    have hsteps := commitWrite_steps h.idle hvalid
    exact invariant_of_rely (fun w w' (hi : Inv l w) hstep => WriterStep.inv hi hstep) h.inv
      hsteps
  have hother : ∀ slot i, slot ≠ w.nextSlot →
      (Shm.commitWrite l call w).1.memory (.word slot i) = w.memory (.word slot i) :=
    fun slot i hne => commitWrite_other hne i
  generalize (Shm.commitWrite l call w).1 = w' at hworld hbegin hend hinv hother ⊢
  have hseq : w'.nextSeq = w.nextSeq+1 := by rw [hworld]
  have hassigned : w'.assigned = w.assigned ++ [(w.nextSeq+1,call)] := by rw [hworld]
  refine ⟨hinv,by rw [hworld]; exact h.idle,?_,?_,?_,?_⟩
  · rw [hassigned,hseq,map_append,h.numbers,range'_concat]
    simp [Nat.add_comm]
  · rw [hworld,h.slot]
    simp
  · intro s hs hwindow
    rw [hseq] at hs hwindow
    by_cases hlast : s = w.nextSeq
    · subst hlast
      rw [← h.slot]
      exact ⟨hbegin,hend⟩
    · have hne : s % l.slotCount ≠ w.nextSlot := by
        rw [h.slot]
        exact mod_ne_of_window (by omega) (by omega)
      have hkept := h.kept s (by omega) (by omega)
      rw [seqBegin,seqEnd,hother _ 0 hne,hother _ 4 hne]
      exact hkept
  · intro slot hslot
    rw [hseq] at hslot
    have hle := Nat.mod_le w.nextSeq l.slotCount
    have hne : slot ≠ w.nextSlot := by
      rw [h.slot]
      omega
    rw [seqBegin,hother _ 0 hne]
    exact h.unused slot (by omega)

end

inductive Call (itemsize : String → Nat) where
  | write (arr : NdArray itemsize) (t0MonoNs t0WallNs : Int) (metadata : Option (NdArray itemsize))
  | writeBatch (batch : NdArray itemsize) (t0MonoNs t0WallNs : List Int)
      (metadata : Option (NdArray itemsize))

section
variable {itemsize : String → Nat} (r : Ring itemsize)
  (asUint64 : List Int → Except String (List Int))

def Call.perform (w : World) : Call itemsize → World × Outcome (Nat × Nat)
  | .write arr mono wall metadata =>
    match Shm.write r arr mono wall metadata w with
    | (w,.returned seq) => (w,.returned (seq,seq))
    | (w,.rejected message) => (w,.rejected message)
    | (w,.broken) => (w,.broken)
  | .writeBatch batch mono wall metadata =>
    Shm.writeBatch r asUint64 batch mono wall metadata w

/-- Calls that returned, with calls in between that a check rejected. -/
inductive Quiescent : World → Prop
  | init : Quiescent .init
  | step {w w' : World} {call : Call itemsize} {outcome : Outcome (Nat × Nat)} :
      Quiescent w → call.perform r asUint64 w = (w',outcome) → outcome ≠ .broken → Quiescent w'

/-- The event that `write` is asked for. -/
def frameCall (arr : NdArray itemsize) (mono wall : Int) (metadata : Option (NdArray itemsize)) :
    WriteCall :=
  ⟨arr.bytes,mono,wall,metadata.map NdArray.bytes⟩

/-- `n` frames of a batch from `i` on, each with its times and its metadata. -/
def batchCalls (batch : NdArray itemsize) (mono wall : List Int)
    (metadata : Option (NdArray itemsize)) (i n : Nat) : List WriteCall :=
  (List.range' i n).map fun i =>
    frameCall (batch.frame i) (mono.getD i 0) (wall.getD i 0) (metadata.map (·.frame i))

/-- The calls are numbered from `first` to `last`, after the numbers the ring has given before. -/
def Added (w w' : World) (first last : Nat) (calls : List WriteCall) : Prop :=
  first = w.nextSeq+1 ∧ first ≤ last ∧ last = w'.nextSeq ∧ last+1 = first+calls.length ∧
    w'.assigned = w.assigned ++ (List.range' first calls.length).zip calls

variable {r asUint64}

variable {w w' : World} {metadata : Option (NdArray itemsize)}

theorem write_settled {arr : NdArray itemsize} {mono wall : Int}
    {seq : Nat} (hn : 0 < r.layout.slotCount)
    (h : Settled r.layout w) (hw : write r arr mono wall metadata w = (w',.returned seq)) :
    Settled r.layout w' ∧ Added w w' seq seq [frameCall arr mono wall metadata] := by
  unfold write at hw
  split at hw
  · cases hw
  · next hchecked =>
    have hret := congrArg Prod.snd hw
    have hworld := congrArg Prod.fst hw
    dsimp only at hret hworld
    obtain ⟨rfl,heq,-,-⟩ := commitWrite_slot hret
    have hsettled := h.commitWrite (writeError_none r hchecked hn mono wall) hret
    rw [hworld] at hsettled heq
    exact ⟨hsettled,rfl,Nat.le_refl _,by rw [heq],rfl,by rw [heq]; rfl⟩

theorem Added.cons {w₁ : World} {call : WriteCall} {calls : List WriteCall} {seq last : Nat}
    (h : Added w w₁ seq seq [call]) (hrest : Added w₁ w' (w₁.nextSeq+1) last calls) :
    Added w w' seq last (call :: calls) := by
  obtain ⟨hseq,-,hnext,-,hone⟩ := h
  obtain ⟨-,hle,hlast,hlength,hassigned⟩ := hrest
  refine ⟨hseq,by omega,hlast,by rw [length_cons]; omega,?_⟩
  rw [hassigned,hone,append_assoc,← hnext]
  rfl

variable {mono wall : List Int} {batch : NdArray itemsize}

theorem batchCalls_succ (i n : Nat) : batchCalls batch mono wall metadata i (n+1) =
    frameCall (batch.frame i) (mono.getD i 0) (wall.getD i 0) (metadata.map (·.frame i)) ::
      batchCalls batch mono wall metadata (i+1) n := rfl

theorem writeFrames_settled (hn : 0 < r.layout.slotCount) (n i : Nat)
    {range : Nat × Nat} {first last : Nat} (h : Settled r.layout w)
    (hloop : writeFrames r batch mono wall metadata n i range w = (w',.returned (first,last))) :
    Settled r.layout w' ∧
      (0 < n → (0 < i → first = range.1) ∧ Added w w' (if i = 0 then first else w.nextSeq+1) last
        (batchCalls batch mono wall metadata i n)) ∧
      (n = 0 → (first,last) = range ∧ w' = w) := by
  induction n generalizing i range w with
  | zero =>
    obtain ⟨rfl,hrange⟩ := Prod.mk.injEq .. ▸ hloop
    exact ⟨h,by omega,fun _ => ⟨by simpa using hrange.symm,rfl⟩⟩
  | succ n ih =>
    unfold writeFrames at hloop
    split at hloop
    · next w₁ seq hwrite =>
      obtain ⟨h₁,hone⟩ := write_settled hn h hwrite
      have hseq : seq = w.nextSeq+1 := hone.1
      obtain ⟨hsettled,hmore,hlast⟩ := ih (i+1) h₁ hloop
      have hadd : first = (if i = 0 then seq else range.1) ∧
          Added w w' seq last (batchCalls batch mono wall metadata i (n+1)) := by
        rcases Nat.eq_zero_or_pos n with rfl | hpos
        · obtain ⟨hrange,rfl⟩ := hlast rfl
          simp only [Prod.mk.injEq] at hrange
          rw [hrange.2]
          exact ⟨hrange.1,hone⟩
        · obtain ⟨hfirst,hrest⟩ := hmore hpos
          rw [if_neg (by omega)] at hrest
          rw [batchCalls_succ]
          exact ⟨hfirst (by omega),hone.cons hrest⟩
      refine ⟨hsettled,fun _ => ⟨fun hi => ?_,?_⟩,fun hzero => by omega⟩
      · rw [hadd.1,if_neg (by omega)]
      · rw [← hseq]
        split
        · next hi =>
          rw [hadd.1,if_pos hi]
          exact hadd.2
        · exact hadd.2
    · cases hloop
    · cases hloop

theorem writeBatch_settled {first last : Nat} (hn : 0 < r.layout.slotCount) (h : Settled r.layout w)
    (hw : writeBatch r asUint64 batch mono wall metadata w = (w',.returned (first,last))) :
    Settled r.layout w' ∧ ∃ count mono' wall', batch.shape.head? = some count ∧
      asUint64 mono = .ok mono' ∧ asUint64 wall = .ok wall' ∧ mono'.length = count ∧
      wall'.length = count ∧
      Added w w' first last (batchCalls batch mono' wall' metadata 0 count) := by
  unfold writeBatch at hw
  split at hw
  · cases hw
  · next count mono' wall' hchecked =>
    obtain ⟨⟨hshape,hmono,hwall,hlength⟩,hcount,-⟩ := batchError_ok r hchecked
    obtain ⟨hsettled,hadded,-⟩ := writeFrames_settled hn count 0 h hw
    exact ⟨hsettled,count,mono',wall',hshape,hmono,hwall,hlength.1,hlength.2,(hadded hcount).2⟩

theorem writeFrames_not_rejected (hok : ∀ i,
      writeError r (batch.frame i) (metadata.map (·.frame i)) = none)
    (n i : Nat) (range : Nat × Nat) (w w' : World) (message : String) :
    writeFrames r batch mono wall metadata n i range w ≠ (w',.rejected message) := by
  induction n generalizing i range w with
  | zero => simp [writeFrames]
  | succ n ih =>
    unfold writeFrames
    split
    · exact ih _ _ _
    · next hwrite =>
      simp only [write,hok i] at hwrite
      have hrejected := congrArg Prod.snd hwrite
      unfold commitWrite at hrejected
      dsimp only at hrejected
      split at hrejected <;> cases hrejected
    · simp

theorem perform_rejected {call : Call itemsize} {message : String}
    (h : call.perform r asUint64 w = (w',.rejected message)) : w' = w := by
  cases call with
  | write arr mono wall metadata =>
    simp only [Call.perform,write] at h
    cases hchecked : writeError r arr metadata with
    | some m =>
      rw [hchecked] at h
      exact (congrArg Prod.fst h).symm
    | none =>
      rw [hchecked] at h
      dsimp only at h
      split at h
      · cases h
      · next hwrite =>
        have hrejected := congrArg Prod.snd hwrite
        unfold commitWrite at hrejected
        dsimp only at hrejected
        split at hrejected <;> cases hrejected
      · cases h
  | writeBatch batch mono wall metadata =>
    simp only [Call.perform,writeBatch] at h
    split at h
    · exact (congrArg Prod.fst h).symm
    · next hchecked =>
      exact absurd h (writeFrames_not_rejected (writeError_frame r hchecked) _ _ _ _ _ _)

theorem perform_settled {call : Call itemsize} {range : Nat × Nat}
    (hn : 0 < r.layout.slotCount) (h : Settled r.layout w)
    (hcall : call.perform r asUint64 w = (w',.returned range)) :
    Settled r.layout w' := by
  cases call with
  | write arr mono wall metadata =>
    simp only [Call.perform] at hcall
    split at hcall
    · next hwrite =>
      cases hcall
      exact (write_settled hn h hwrite).1
    · cases hcall
    · cases hcall
  | writeBatch batch mono wall metadata => exact (writeBatch_settled hn h hcall).1

theorem Quiescent.settled {w : World} (hn : 0 < r.layout.slotCount)
    (h : Quiescent r asUint64 w) : Settled r.layout w := by
  induction h with
  | init => exact settled_init r.layout
  | @step w w' call outcome _ hcall hne ih =>
    cases outcome with
    | returned range => exact perform_settled hn ih hcall
    | rejected message =>
      rw [perform_rejected hcall]
      exact ih
    | broken => exact absurd rfl hne

end

def eventOf (entry : Nat × WriteCall) : ShmEvent :=
  ⟨entry.1,entry.2.t0MonoNs.toNat,entry.2.t0WallNs.toNat,entry.2.payload,entry.2.metadata⟩

theorem run_readBytes {memory : Cell → Nat} {place : Nat → Cell} {bytes : List UInt8} {n : Nat}
    (hn : bytes.length = n)
    (hbytes : ∀ i byte, bytes[i]? = some byte → memory (place i) = byte.toNat) :
    (readBytes place n).run memory = bytes := by
  simp only [readBytes,run_bind,run_cells,run_pure,map_map]
  subst hn
  apply ext_getElem
  · simp
  · intro i h₁ h₂
    simp [hbytes i bytes[i] (by simp [h₂])]

theorem run_readMetadata {l : ShmLayout} {memory : Cell → Nat} {slot : Nat} {call : WriteCall}
    (h : Holds l memory slot call) : (readMetadata l slot).run memory = call.metadata := by
  have hlen : call.metadata.map List.length = l.metadataNbytes := by
    have hvalid := h.valid
    simp only [WriteCall.valid,Bool.and_eq_true,decide_eq_true_eq] at hvalid
    exact hvalid.1.2
  unfold readMetadata
  cases hn : l.metadataNbytes with
  | none =>
    rw [hn] at hlen
    exact (Option.map_eq_none_iff.1 hlen).symm
  | some n =>
    rw [hn] at hlen
    obtain ⟨bytes,hbytes,hlen⟩ := Option.map_eq_some_iff.1 hlen
    have hread := run_readBytes hlen (by simpa [hbytes] using h.metadata)
    simp [hread,hbytes]

theorem run_readStableSlot (l : ShmLayout) (memory : Cell → Nat) (slot : Nat) (expected : Int) :
    (readStableSlot l slot expected).run memory =
      if memory (seqBegin slot) = 0 ∨ memory (seqBegin slot) ≠ memory (seqEnd slot) ∨
        (memory (seqEnd slot) : Int) ≠ expected then none
      else some ⟨expected.toNat,memory (t0Mono slot),memory (t0Wall slot),
        (readBytes (.payload slot) l.payloadNbytes).run memory,(readMetadata l slot).run memory⟩ := by
  show Loads.run memory (if memory (seqBegin slot) = 0 ∨
    memory (seqBegin slot) ≠ memory (seqEnd slot) ∨ (memory (seqEnd slot) : Int) ≠ expected
    then pure none else (_ : Reader (Option ShmEvent))) = _
  by_cases hmarks : memory (seqBegin slot) = 0 ∨ memory (seqBegin slot) ≠ memory (seqEnd slot) ∨
      (memory (seqEnd slot) : Int) ≠ expected
  · rw [if_pos hmarks,if_pos hmarks,run_pure]
  · rw [if_neg hmarks,if_neg hmarks]
    simp only [not_or,not_not] at hmarks
    have hagain : ¬ ((memory (seqBegin slot) : Int) ≠ expected ∨
        (memory (seqEnd slot) : Int) ≠ expected ∨
        memory (seqBegin slot) ≠ memory (seqEnd slot)) := by
      rw [hmarks.2.1]
      simp [hmarks.2.2]
    simp only [run_bind]
    show Loads.run memory (if (memory (seqBegin slot) : Int) ≠ expected ∨
      (memory (seqEnd slot) : Int) ≠ expected ∨ memory (seqBegin slot) ≠ memory (seqEnd slot)
      then pure none else (_ : Reader (Option ShmEvent))) = _
    rw [if_neg hagain]
    rfl

section
variable {l : ShmLayout} {w : World}

variable {entry : Nat × WriteCall}

theorem Settled.number (h : Settled l w) (he : entry ∈ w.assigned) :
    1 ≤ entry.1 ∧ entry.1 ≤ w.nextSeq := by
  have hmem : entry.1 ∈ List.range' 1 w.nextSeq := by
    rw [← h.numbers]
    exact mem_map_of_mem he
  rw [mem_range'_1] at hmem
  omega

theorem Settled.run_kept (h : Settled l w) (he : entry ∈ w.assigned)
    (hnew : w.nextSeq < entry.1 + l.slotCount) (expected : Int) :
    (readStableSlot l ((entry.1-1) % l.slotCount) expected).run w.memory =
      if (entry.1 : Int) = expected then some (eventOf entry) else none := by
  obtain ⟨hone,hle⟩ := h.number he
  obtain ⟨hbegin,hend⟩ := h.kept (entry.1-1) (by omega) (by omega)
  rw [Nat.sub_add_cancel hone] at hbegin hend
  rw [run_readStableSlot,hbegin,hend]
  by_cases hexpected : (entry.1 : Int) = expected
  · have hpos : entry.1 ≠ 0 := by omega
    obtain ⟨call,hmem,hholds⟩ := h.inv.slots _ (by rw [hend]; exact hpos)
    rw [hend] at hmem
    have hcall : call = entry.2 := assigned_unique h.inv (s := entry.1) he hmem
    subst hcall
    have hmono := hholds.mono
    have hwall := hholds.wall
    have hlen : entry.2.payload.length = l.payloadNbytes := by
      have hvalid := hholds.valid
      simp only [WriteCall.valid,Bool.and_eq_true,decide_eq_true_eq] at hvalid
      exact hvalid.1.1
    rw [if_pos hexpected,if_neg (by simp [hpos,hexpected]),run_readBytes hlen hholds.payload,
      run_readMetadata hholds,eventOf,← hmono,← hwall,← hexpected]
    rfl
  · rw [if_neg hexpected,if_pos (by simp [hexpected])]

variable {slot : Nat}

theorem Settled.slot_cases (h : Settled l w) (hslot : slot < l.slotCount) :
    w.memory (seqBegin slot) = 0 ∨ ∃ entry ∈ w.assigned, w.nextSeq < entry.1 + l.slotCount ∧
      (entry.1-1) % l.slotCount = slot := by
  by_cases hused : w.nextSeq ≤ slot
  · exact .inl (h.unused slot hused)
  · -- the last number below the next one that was written to this slot
    have hlow := Nat.div_mul_le_self (w.nextSeq-1-slot) l.slotCount
    have hhigh := Nat.lt_div_mul_add (a := w.nextSeq-1-slot) (show 0 < l.slotCount by omega)
    generalize hq : (w.nextSeq-1-slot) / l.slotCount = q at hlow hhigh
    have hmod : (slot+q*l.slotCount) % l.slotCount = slot := by
      rw [Nat.add_mul_mod_self_right,Nat.mod_eq_of_lt hslot]
    have hmem : slot+q*l.slotCount+1 ∈ w.assigned.map Prod.fst := by
      rw [h.numbers,mem_range'_1]
      omega
    obtain ⟨entry,he,hnumber⟩ := mem_map.1 hmem
    exact .inr ⟨entry,he,by omega,by rw [hnumber,Nat.add_sub_cancel,hmod]⟩

theorem run_unused {memory : Cell → Nat} (h : memory (seqBegin slot) = 0)
    (expected : Int) : (readStableSlot l slot expected).run memory = none := by
  rw [run_readStableSlot,if_pos (.inl h)]

theorem Settled.run_slot (h : Settled l w) (hslot : slot < l.slotCount)
    {expected : Int} {event : ShmEvent}
    (hrun : (readStableSlot l slot expected).run w.memory = some event) :
    ∃ entry ∈ w.assigned, (entry.1 : Int) = expected ∧ w.nextSeq < entry.1 + l.slotCount ∧
      event = eventOf entry := by
  rcases h.slot_cases hslot with hunused | ⟨entry,he,hnew,rfl⟩
  · rw [run_unused hunused] at hrun
    cases hrun
  · rw [h.run_kept he hnew] at hrun
    split at hrun
    · next hexpected => exact ⟨entry,he,hexpected,hnew,by simpa using hrun.symm⟩
    · cases hrun

variable (memory : Cell → Nat)

theorem run_trySlots (expected : Int) (slots : List Nat) : (trySlots l expected slots).run memory =
      slots.findSome? fun slot => (readStableSlot l slot expected).run memory := by
  induction slots with
  | nil => rfl
  | cons slot rest ih =>
    simp only [trySlots,run_bind,findSome?_cons]
    cases (readStableSlot l slot expected).run memory with
    | some event => rfl
    | none => exact ih

theorem mem_hintedSlots {hint : Nat} (hhint : hint < l.slotCount)
    (h : slot ∈ hintedSlots l hint) : slot < l.slotCount := by
  rcases mem_cons.1 h with rfl | h
  · exact hhint
  · obtain ⟨d,-,hd⟩ := mem_flatMap.1 h
    have hpos : (0 : Int) < l.slotCount := by omega
    have hlow := Int.emod_nonneg ((hint : Int)-(d+1)) (Int.ne_of_gt hpos)
    have hhigh := Int.emod_lt_of_pos ((hint : Int)-(d+1)) hpos
    simp only [mem_cons,not_mem_nil,or_false] at hd
    rcases hd with rfl | rfl
    · exact Nat.mod_lt _ (by omega)
    · omega

theorem run_readEvent (l : ShmLayout) (memory : Cell → Nat) (expected : Int) :
    ∃ slots : List Nat, (∀ slot, slot ∈ slots ↔ slot < l.slotCount) ∧
      (readEvent l expected).run memory =
        slots.findSome? fun slot => (readStableSlot l slot expected).run memory := by
  have hall : ∀ slot, slot ∈ List.range l.slotCount ↔ slot < l.slotCount := by simp
  simp only [readEvent,run_bind]
  cases (readLastHint l).run memory with
  | none => exact ⟨_,hall,run_trySlots memory expected _⟩
  | some hint =>
    dsimp only
    split
    · next hhint =>
      refine ⟨hintedSlots l hint ++ List.range l.slotCount,fun slot => ?_,
        run_trySlots memory expected _⟩
      rw [mem_append,hall]
      exact ⟨fun h => h.elim (mem_hintedSlots hhint) id,.inr⟩
    · exact ⟨_,hall,run_trySlots memory expected _⟩

theorem Settled.readEvent (h : Settled l w) (hn : 0 < l.slotCount) (expected : Int)
    (event : ShmEvent) : (Shm.readEvent l expected).run w.memory = some event ↔
      ∃ entry ∈ w.assigned, (entry.1 : Int) = expected ∧ w.nextSeq < entry.1 + l.slotCount ∧
        event = eventOf entry := by
  obtain ⟨slots,hslots,hrun⟩ := run_readEvent l w.memory expected
  rw [hrun]
  constructor
  · intro hsome
    obtain ⟨slot,hslot,hevent⟩ := exists_of_findSome?_eq_some hsome
    exact h.run_slot ((hslots slot).1 hslot) hevent
  · rintro ⟨entry,he,hexpected,hnew,rfl⟩
    have hkept := h.run_kept he hnew expected
    rw [if_pos hexpected] at hkept
    cases hfound : slots.findSome? fun slot => (readStableSlot l slot expected).run w.memory with
    | none =>
      rw [findSome?_eq_none_iff] at hfound
      have hnone := hfound _ ((hslots _).2 (Nat.mod_lt (entry.1-1) hn))
      rw [hkept] at hnone
      cases hnone
    | some found =>
      obtain ⟨slot,hslot,hevent⟩ := exists_of_findSome?_eq_some hfound
      obtain ⟨other,ho,hnumber,-,rfl⟩ := h.run_slot ((hslots slot).1 hslot) hevent
      have hsame : other = entry := by
        apply inj_on_of_nodup_map h.inv.nodup ho he
        omega
      rw [hsame]

def slotEntry (memory : Cell → Nat) (lastSeenSeq : Int) (slot : Nat) : Option (Nat × Nat) :=
  if memory (seqBegin slot) = 0 ∨ memory (seqBegin slot) ≠ memory (seqEnd slot) ∨
    (memory (seqEnd slot) : Int) ≤ lastSeenSeq then none
  else some (memory (seqEnd slot),slot)

theorem run_findEntries (lastSeenSeq : Int) (slots : List Nat) :
    (findEntries lastSeenSeq slots).run memory = slots.filterMap (slotEntry memory lastSeenSeq) := by
  induction slots with
  | nil => rfl
  | cons slot rest ih =>
    have hrest : (findEntries lastSeenSeq (slot :: rest)).run memory =
        if memory (seqBegin slot) = 0 ∨ memory (seqBegin slot) ≠ memory (seqEnd slot) ∨
          (memory (seqEnd slot) : Int) ≤ lastSeenSeq then (findEntries lastSeenSeq rest).run memory
        else (memory (seqEnd slot),slot) :: (findEntries lastSeenSeq rest).run memory := by
      simp only [findEntries,run_bind]
      exact apply_ite (Loads.run memory) _ _ _
    rw [hrest,ih,filterMap_cons,slotEntry]
    split <;> rfl

theorem run_readEntries (entries : List (Nat × Nat)) : (readEntries l entries).run memory =
      entries.flatMap fun entry => ((readStableSlot l entry.2 entry.1).run memory).toList := by
  induction entries with
  | nil => rfl
  | cons entry rest ih => simp [readEntries,ih]

theorem run_readEvents (l : ShmLayout) (memory : Cell → Nat) (lastSeenSeq : Int) :
    ∃ slots : List Nat, slots.Nodup ∧ (∀ slot, slot ∈ slots ↔ slot < l.slotCount) ∧
      (readEvents l lastSeenSeq).run memory =
        ((slots.filterMap (slotEntry memory lastSeenSeq)).mergeSort fun a b => a.1 ≤ b.1).flatMap
          fun entry => ((readStableSlot l entry.2 entry.1).run memory).toList := by
  have hall : ∀ slot, slot ∈ List.range l.slotCount ↔ slot < l.slotCount := by simp
  simp only [readEvents,run_bind]
  cases (readLastHint l).run memory with
  | none =>
    refine ⟨_,nodup_range,hall,?_⟩
    simp only [run_bind,run_pure,run_findEntries,run_readEntries]
  | some hint =>
    dsimp only
    split
    · next hhint =>
      refine ⟨(List.range l.slotCount).map fun i => (hint+i) % l.slotCount,?_,fun slot => ?_,by
        simp only [run_bind,run_pure,run_findEntries,run_readEntries]⟩
      · refine (nodup_map_iff_inj_on nodup_range).2 fun i hi j hj heq => ?_
        rw [mem_range] at hi hj
        rcases Nat.lt_trichotomy i j with hlt | hlt | hlt
        · exact absurd heq (mod_ne_of_window (by omega) (by omega))
        · exact hlt
        · exact absurd heq.symm (mod_ne_of_window (by omega) (by omega))
      · rw [mem_map]
        constructor
        · rintro ⟨i,-,rfl⟩
          exact Nat.mod_lt _ (by omega)
        · intro hslot
          by_cases hle : hint ≤ slot
          · exact ⟨slot-hint,mem_range.2 (by omega),by
              rw [Nat.add_sub_cancel' hle,Nat.mod_eq_of_lt hslot]⟩
          · refine ⟨slot+l.slotCount-hint,mem_range.2 (by omega),?_⟩
            have hsum : hint+(slot+l.slotCount-hint) = slot+l.slotCount := by omega
            rw [hsum,Nat.add_mod_right,Nat.mod_eq_of_lt hslot]
    · refine ⟨_,nodup_range,hall,?_⟩
      simp only [run_bind,run_pure,run_findEntries,run_readEntries]

def newest (l : ShmLayout) (w : World) (lastSeenSeq : Int) : List (Nat × WriteCall) :=
  w.assigned.filter fun entry =>
    max lastSeenSeq ((w.nextSeq : Int) - l.slotCount) < (entry.1 : Int)

theorem mem_newest {lastSeenSeq : Int} :
    entry ∈ newest l w lastSeenSeq ↔ entry ∈ w.assigned ∧ lastSeenSeq < entry.1 ∧
      w.nextSeq < entry.1 + l.slotCount := by
  simp only [newest,mem_filter,decide_eq_true_eq]
  refine and_congr_right fun _ => ?_
  omega

theorem Settled.sorted (h : Settled l w) (hn : 0 < l.slotCount) (lastSeenSeq : Int)
    {slots : List Nat} (hnodup : slots.Nodup) (hslots : ∀ slot, slot ∈ slots ↔ slot < l.slotCount) :
    ((slots.filterMap (slotEntry w.memory lastSeenSeq)).mergeSort fun a b => a.1 ≤ b.1) =
      (newest l w lastSeenSeq).map fun entry => (entry.1,(entry.1-1) % l.slotCount) := by
  have hmarks : ∀ entry ∈ w.assigned, w.nextSeq < entry.1 + l.slotCount →
      slotEntry w.memory lastSeenSeq ((entry.1-1) % l.slotCount) =
        if (entry.1 : Int) ≤ lastSeenSeq then none
        else some (entry.1,(entry.1-1) % l.slotCount) := by
    intro entry he hnew
    obtain ⟨hone,hle⟩ := h.number he
    obtain ⟨hbegin,hend⟩ := h.kept (entry.1-1) (by omega) (by omega)
    rw [Nat.sub_add_cancel hone] at hbegin hend
    have hpos : entry.1 ≠ 0 := by omega
    simp [slotEntry,hbegin,hend,hpos]
  have hmem : ∀ pair, pair ∈ slots.filterMap (slotEntry w.memory lastSeenSeq) ↔
      pair ∈ (newest l w lastSeenSeq).map fun entry => (entry.1,(entry.1-1) % l.slotCount) := by
    intro pair
    rw [mem_filterMap,mem_map]
    constructor
    · rintro ⟨slot,hslot,hpair⟩
      rcases h.slot_cases ((hslots slot).1 hslot) with hunused | ⟨entry,he,hnew,rfl⟩
      · simp [slotEntry,hunused] at hpair
      · rw [hmarks entry he hnew] at hpair
        split at hpair
        · cases hpair
        · exact ⟨entry,mem_newest.2 ⟨he,by omega,hnew⟩,by simpa using hpair⟩
    · rintro ⟨entry,he,rfl⟩
      obtain ⟨he,hseen,hnew⟩ := mem_newest.1 he
      refine ⟨_,(hslots _).2 (Nat.mod_lt (entry.1-1) hn),?_⟩
      rw [hmarks entry he hnew,if_neg (by omega)]
  have hascending : (newest l w lastSeenSeq).Pairwise fun a b => a.1 < b.1 := by
    have hnumbers : (w.assigned.map Prod.fst).Pairwise (· < ·) := by
      rw [h.numbers]
      exact pairwise_lt_range'
    exact (pairwise_map.1 hnumbers).filter _
  have hsorted : ((newest l w lastSeenSeq).map fun entry =>
      (entry.1,(entry.1-1) % l.slotCount)).Pairwise fun a b => a.1 < b.1 :=
    pairwise_map.2 hascending
  have hdistinct : (slots.filterMap (slotEntry w.memory lastSeenSeq)).Nodup := by
    refine hnodup.filterMap fun slot slot' pair hpair hpair' => ?_
    simp only [slotEntry,Option.mem_def] at hpair hpair'
    split at hpair
    · cases hpair
    split at hpair'
    · cases hpair'
    simp only [Option.some.injEq] at hpair hpair'
    rw [← hpair'] at hpair
    exact congrArg Prod.snd hpair
  have hperm := (mergeSort_perm (slots.filterMap (slotEntry w.memory lastSeenSeq))
    fun a b => decide (a.1 ≤ b.1)).trans ((perm_ext_iff_of_nodup hdistinct
      (hsorted.imp fun {a b} hlt heq => by subst heq; omega)).2 hmem)
  have hmerge := @List.pairwise_mergeSort (Nat × Nat) (fun a b => decide (a.1 ≤ b.1))
    (fun a b c hab hbc => by simp only [decide_eq_true_eq] at *; omega)
    (fun a b => by simp only [Bool.or_eq_true,decide_eq_true_eq]; omega)
    (slots.filterMap (slotEntry w.memory lastSeenSeq))
  refine @List.Perm.eq_of_pairwise _ (fun a b => decide (a.1 ≤ b.1) = true) _ _ ?_ hmerge
    (hsorted.imp fun {a b} hlt => decide_eq_true (Nat.le_of_lt hlt)) hperm
  intro a b ha hb hab hba
  simp only [decide_eq_true_eq] at hab hba
  -- two entries of one number are in one slot
  obtain ⟨entry,-,rfl⟩ := mem_map.1 ((hmem a).1 (mem_mergeSort.1 ha))
  obtain ⟨other,-,rfl⟩ := mem_map.1 hb
  have hsame : entry.1 = other.1 := by omega
  simp [hsame]

theorem Settled.readEvents (h : Settled l w) (hn : 0 < l.slotCount) (lastSeenSeq : Int) :
    (Shm.readEvents l lastSeenSeq).run w.memory = (newest l w lastSeenSeq).map eventOf := by
  obtain ⟨slots,hnodup,hslots,hrun⟩ := run_readEvents l w.memory lastSeenSeq
  rw [hrun,h.sorted hn lastSeenSeq hnodup hslots,flatMap_map]
  have hone : ∀ entry ∈ newest l w lastSeenSeq,
      ((readStableSlot l ((entry.1-1) % l.slotCount) entry.1).run w.memory).toList =
        [eventOf entry] := by
    intro entry he
    obtain ⟨he,-,hnew⟩ := mem_newest.1 he
    rw [h.run_kept he hnew,if_pos rfl]
    rfl
  generalize newest l w lastSeenSeq = entries at hone ⊢
  induction entries with
  | nil => rfl
  | cons entry rest ih =>
    have hrest := ih fun e he => hone e (mem_cons_of_mem _ he)
    rw [flatMap_cons,map_cons,hone entry (by simp),hrest]
    rfl

end

section
variable {itemsize : String → Nat} {r : Ring itemsize}
  {asUint64 : List Int → Except String (List Int)}

/-- After any calls that returned or were rejected, with `total` events numbered from 1 on: a read
of the events after `k` gives those of the last `slotCount` that are newer, in order; a read of one
event gives it exactly while it is among them; a rejected call changes nothing, and a call returns
the first and the last number of what it has added: its frames in order, each with its times and its
metadata. -/
theorem quiescent_ring {w : World} (hn : 0 < r.layout.slotCount) (h : Quiescent r asUint64 w) :
    w.assigned.map Prod.fst = List.range' 1 w.nextSeq ∧
    (∀ k : Int, (readEvents r.layout k).run w.memory = (w.assigned.filter fun entry =>
      max k ((w.nextSeq : Int) - r.layout.slotCount) < (entry.1 : Int)).map eventOf) ∧
    (∀ (s : Int) (event : ShmEvent), (readEvent r.layout s).run w.memory = some event ↔
      (w.nextSeq : Int) - r.layout.slotCount < s ∧
        ∃ entry ∈ w.assigned, (entry.1 : Int) = s ∧ event = eventOf entry) ∧
    (∀ s : Int, (readEvent r.layout s).run w.memory ≠ none ↔
      1 ≤ s ∧ (w.nextSeq : Int) - r.layout.slotCount < s ∧ s ≤ w.nextSeq) ∧
    (∀ (call : Call itemsize) (w' : World) (message : String),
      call.perform r asUint64 w = (w',.rejected message) → w' = w) ∧
    (∀ (arr : NdArray itemsize) (mono wall : Int) (metadata : Option (NdArray itemsize))
      (w' : World) (seq : Nat), write r arr mono wall metadata w = (w',.returned seq) →
        Added w w' seq seq [frameCall arr mono wall metadata]) ∧
    (∀ (batch : NdArray itemsize) (mono wall : List Int) (metadata : Option (NdArray itemsize))
      (w' : World) (first last : Nat),
      writeBatch r asUint64 batch mono wall metadata w = (w',.returned (first,last)) →
        ∃ count mono' wall', batch.shape.head? = some count ∧
          asUint64 mono = .ok mono' ∧ asUint64 wall = .ok wall' ∧ mono'.length = count ∧
          wall'.length = count ∧
          Added w w' first last (batchCalls batch mono' wall' metadata 0 count)) := by
  have hsettled := h.settled hn
  have hread : ∀ (s : Int) (event : ShmEvent), (readEvent r.layout s).run w.memory = some event ↔
      (w.nextSeq : Int) - r.layout.slotCount < s ∧
        ∃ entry ∈ w.assigned, (entry.1 : Int) = s ∧ event = eventOf entry := by
    intro s event
    rw [hsettled.readEvent hn]
    constructor
    · rintro ⟨entry,he,hs,hnew,hevent⟩
      exact ⟨by omega,entry,he,hs,hevent⟩
    · rintro ⟨hnew,entry,he,hs,hevent⟩
      exact ⟨entry,he,hs,by omega,hevent⟩
  refine ⟨hsettled.numbers,hsettled.readEvents hn,hread,fun s => ?_,
    fun call w' message => perform_rejected,
    fun arr mono wall metadata w' seq hw => (write_settled hn hsettled hw).2,
    fun batch mono wall metadata w' first last hw => (writeBatch_settled hn hsettled hw).2⟩
  rw [Option.ne_none_iff_exists']
  constructor
  · rintro ⟨event,hevent⟩
    obtain ⟨hnew,entry,he,hs,-⟩ := (hread s event).1 hevent
    have hnumber := hsettled.number he
    omega
  · rintro ⟨hone,hnew,hle⟩
    have hmem : s.toNat ∈ w.assigned.map Prod.fst := by
      rw [hsettled.numbers,mem_range'_1]
      omega
    obtain ⟨entry,he,hs⟩ := mem_map.1 hmem
    exact ⟨eventOf entry,(hread s _).2 ⟨hnew,entry,he,by omega,rfl⟩⟩

end

def byteRing : Ring fun _ => 1 := ⟨⟨2,1,2,0,0,0,none⟩,"uint8",[],none,rfl,rfl⟩

def byte (dtype : String) (n : UInt8) : NdArray fun _ => 1 := ⟨dtype,[],[n],rfl⟩

def threeBytes : NdArray fun _ => 1 := ⟨"uint8",[2],[8,9],rfl⟩

def byteCalls : List (Call fun _ => 1) :=
  [.write (byte "uint8" 7) 5 6 none,.write (byte "int8" 7) 5 6 none,
    .writeBatch threeBytes [7,8] [7,8] none]

def performAll {itemsize : String → Nat} (r : Ring itemsize)
    (asUint64 : List Int → Except String (List Int)) : List (Call itemsize) → World → Option World
  | [],w => some w
  | call :: rest,w =>
    match call.perform r asUint64 w with
    | (_,.broken) => none
    | (w',_) => performAll r asUint64 rest w'

theorem Quiescent.performAll {itemsize : String → Nat} {r : Ring itemsize}
    {asUint64 : List Int → Except String (List Int)} (calls : List (Call itemsize)) {w w' : World}
    (h : Quiescent r asUint64 w) (hrun : performAll r asUint64 calls w = some w') :
    Quiescent r asUint64 w' := by
  induction calls generalizing w with
  | nil =>
    cases hrun
    exact h
  | cons call rest ih =>
    unfold Shm.performAll at hrun
    split at hrun
    · cases hrun
    · next hnot hcall =>
      exact ih (.step h hcall fun hb => by simp_all) hrun

theorem byteRing_keeps_two : ∃ w, Quiescent byteRing Except.ok w ∧ w.nextSeq = 3 ∧
    (readEvent byteRing.layout 1).run w.memory = none ∧
    (readEvent byteRing.layout 3).run w.memory ≠ none := by
  have hrun : (performAll byteRing Except.ok byteCalls .init).map World.nextSeq = some 3 := by
    decide +kernel
  obtain ⟨w,hw,hseq⟩ := Option.map_eq_some_iff.1 hrun
  have hquiescent := Quiescent.init.performAll byteCalls hw
  obtain ⟨-,-,-,hread,-⟩ := quiescent_ring (show 0 < byteRing.layout.slotCount by decide)
    hquiescent
  refine ⟨w,hquiescent,hseq,?_,?_⟩
  · by_contra hne
    have hbounds := (hread 1).1 hne
    rw [hseq] at hbounds
    have hslots : byteRing.layout.slotCount = 2 := rfl
    omega
  · have hslots : byteRing.layout.slotCount = 2 := rfl
    rw [hread 3,hseq,hslots]
    omega

end ExperimentControl.Shm

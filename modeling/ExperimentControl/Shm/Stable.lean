import Mathlib.Data.List.Nodup
import ExperimentControl.Shm.Ring

/-!
No read of the ring is torn.
-/

namespace ExperimentControl.Shm
open Lib List Function Prod

structure Holds (l : ShmLayout) (memory : Cell → Nat) (slot : Nat) (call : WriteCall) : Prop where
  mono : (memory (t0Mono slot) : Int) = call.t0MonoNs
  wall : (memory (t0Wall slot) : Int) = call.t0WallNs
  payload : ∀ i byte, call.payload[i]? = some byte → memory (.payload slot i) = byte.toNat
  metadata : ∀ i byte, (call.metadata.getD [])[i]? = some byte →
    memory (.metadata slot i) = byte.toNat
  valid : call.valid l = true

def Cell.slot? : Cell → Option Nat
  | .word slot _ | .payload slot _ | .metadata slot _ => some slot
  | .lastSeq | .lastSlot => none

variable {l : ShmLayout} {call : WriteCall}

theorem Holds.update {memory : Cell → Nat} {slot : Nat}
    (h : Holds l memory slot call) {c : Cell} (hc : c.slot? ≠ some slot ∨ c = seqBegin slot ∨
      c = seqEnd slot) (v : Nat) : Holds l (update memory c v) slot call := by
  have hkeep : ∀ c', c'.slot? = some slot → c' ≠ seqBegin slot → c' ≠ seqEnd slot →
      Function.update memory c v c' = memory c' := by
    intro c' hslot hbegin hend
    apply update_of_ne
    rintro rfl
    rcases hc with hc | hc | hc
    · exact hc hslot
    · exact hbegin hc
    · exact hend hc
  constructor
  · rw [hkeep (t0Mono slot) rfl (by simp [t0Mono,seqBegin]) (by simp [t0Mono,seqEnd])]
    exact h.mono
  · rw [hkeep (t0Wall slot) rfl (by simp [t0Wall,seqBegin]) (by simp [t0Wall,seqEnd])]
    exact h.wall
  · intro i byte hi
    rw [hkeep (.payload slot i) rfl (by simp [seqBegin]) (by simp [seqEnd])]
    exact h.payload i byte hi
  · intro i byte hi
    rw [hkeep (.metadata slot i) rfl (by simp [seqBegin]) (by simp [seqEnd])]
    exact h.metadata i byte hi
  · exact h.valid

theorem packQ_eq_some {v : Int} {n : Nat} (h : packQ v = some n) : (n : Int) = v := by
  cases v with
  | ofNat m =>
    simp only [packQ] at h
    split at h
    · cases h
      rfl
    · cases h
  | negSucc m => cases h

theorem mem_copyBytes {place : Nat → Cell} {bytes : List UInt8} {store : Store} :
    store ∈ copyBytes place bytes ↔ ∃ i byte, bytes[i]? = some byte ∧ store = (place i,byte.toNat) := by
  unfold copyBytes
  rw [mem_mapIdx]
  constructor
  · rintro ⟨i,hi,rfl⟩
    exact ⟨i,bytes[i],by simp,rfl⟩
  · rintro ⟨i,byte,hi,rfl⟩
    obtain ⟨hlt,rfl⟩ := List.getElem?_eq_some_iff.1 hi
    exact ⟨i,hlt,rfl⟩

theorem packFields_store {slot i : Nat} {fields : List Int} {store : Store}
    (h : store ∈ (packFields slot i fields).1) :
    ∃ k f, fields[k]? = some f ∧ packQ f = some store.2 ∧ store.1 = .word slot (i+k) := by
  induction fields generalizing i with
  | nil => simp [packFields] at h
  | cons v rest ih =>
    unfold packFields at h
    cases hv : packQ v with
    | none => simp [hv] at h
    | some n =>
      simp only [hv] at h
      rcases mem_cons.1 h with rfl | h
      · exact ⟨0,v,rfl,hv,rfl⟩
      · obtain ⟨k,f,hf,hq,hcell⟩ := ih h
        exact ⟨k+1,f,hf,hq,by rw [hcell]; congr 1; omega⟩

theorem packFields_complete {slot i : Nat} {fields : List Int}
    (hok : (packFields slot i fields).2 = true) {k : Nat} {f : Int} (hf : fields[k]? = some f) :
    ∃ n, packQ f = some n ∧ (Cell.word slot (i+k),n) ∈ (packFields slot i fields).1 := by
  induction fields generalizing i k with
  | nil => simp at hf
  | cons v rest ih =>
    unfold packFields at hok ⊢
    cases hv : packQ v with
    | none => simp [hv] at hok
    | some n =>
      simp only [hv] at hok ⊢
      cases k with
      | zero =>
        cases hf
        exact ⟨n,hv,by simp⟩
      | succ k =>
        obtain ⟨m,hm,hmem⟩ := ih hok hf
        refine ⟨m,hm,mem_cons_of_mem _ ?_⟩
        rwa [show i+(k+1) = i+1+k by omega]

theorem packFields_cells (slot i : Nat) (fields : List Int) :
    ∀ store ∈ (packFields slot i fields).1, ∃ j, i ≤ j ∧ store.1 = .word slot j := by
  intro store hstore
  obtain ⟨k,f,-,-,hcell⟩ := packFields_store hstore
  exact ⟨i+k,by omega,hcell⟩

theorem packFields_nodup (slot i : Nat) (fields : List Int) :
    ((packFields slot i fields).1.map fst).Nodup := by
  induction fields generalizing i with
  | nil => simp [packFields]
  | cons v rest ih =>
    unfold packFields
    cases packQ v with
    | none => simp
    | some n =>
      simp only [map_cons,nodup_cons]
      refine ⟨?_,ih (i+1)⟩
      intro hmem
      obtain ⟨store,hstore,hcell⟩ := mem_map.1 hmem
      obtain ⟨j,hj,hword⟩ := packFields_cells slot (i+1) rest store hstore
      rw [hword] at hcell
      cases hcell
      omega

theorem copyBytes_nodup {place : Nat → Cell} (hplace : Injective place)
    (bytes : List UInt8) : ((copyBytes place bytes).map fst).Nodup := by
  have hmap : (copyBytes place bytes).map fst = (List.range bytes.length).map place := by
    apply ext_getElem
    · simp [copyBytes]
    · intro i h₁ h₂
      simp [copyBytes]
  rw [hmap]
  exact (nodup_range).map hplace

theorem fillStores_nodup (slot seq : Nat) (call : WriteCall) :
    ((fillStores slot seq call).map fst).Nodup := by
  have hpay : Injective (Cell.payload slot) := fun i j h => by cases h; rfl
  have hmeta : Injective (Cell.metadata slot) := fun i j h => by cases h; rfl
  unfold fillStores
  simp only [map_append]
  refine Nodup.append (Nodup.append (copyBytes_nodup hpay _) (copyBytes_nodup hmeta _) ?_)
    (packFields_nodup slot 0 _) ?_
  · intro c h₁ h₂
    obtain ⟨s₁,hs₁,rfl⟩ := mem_map.1 h₁
    obtain ⟨s₂,hs₂,he⟩ := mem_map.1 h₂
    obtain ⟨i,b,-,rfl⟩ := mem_copyBytes.1 hs₁
    obtain ⟨j,b',-,rfl⟩ := mem_copyBytes.1 hs₂
    cases he
  · intro c h₁ h₂
    obtain ⟨s₂,hs₂,rfl⟩ := mem_map.1 h₂
    obtain ⟨j,-,hword⟩ := packFields_cells slot 0 _ s₂ hs₂
    rw [hword] at h₁
    rcases mem_append.1 h₁ with h₁ | h₁
    · obtain ⟨s₁,hs₁,he⟩ := mem_map.1 h₁
      obtain ⟨i,b,-,rfl⟩ := mem_copyBytes.1 hs₁
      cases he
    · obtain ⟨s₁,hs₁,he⟩ := mem_map.1 h₁
      obtain ⟨i,b,-,rfl⟩ := mem_copyBytes.1 hs₁
      cases he

theorem fillStores_cell {slot seq : Nat} {c : Cell} {v : Nat}
    (h : (c,v) ∈ fillStores slot seq call) : c.slot? = some slot ∧ (c = seqEnd slot → v = 0) := by
  unfold fillStores at h
  rcases mem_append.1 h with h | h
  · rcases mem_append.1 h with h | h
    · obtain ⟨i,byte,-,he⟩ := mem_copyBytes.1 h
      cases he
      exact ⟨rfl,fun hend => by cases hend⟩
    · obtain ⟨i,byte,-,he⟩ := mem_copyBytes.1 h
      cases he
      exact ⟨rfl,fun hend => by cases hend⟩
  · obtain ⟨k,f,hf,hq,hcell⟩ := packFields_store h
    obtain rfl : c = .word slot (0+k) := hcell
    refine ⟨rfl,fun hend => ?_⟩
    -- the end marker is the fifth word of the entry
    obtain rfl : k = 4 := by simpa [seqEnd] using hend
    cases hf
    simpa [packQ] using hq.symm

theorem holds_of_filled {memory : Cell → Nat} {slot seq : Nat}
    (hvalid : call.valid l = true) (hok : (packFields slot 0 (slotFields seq call)).2 = true)
    (hfilled : ∀ c v, (c,v) ∈ fillStores slot seq call → memory c = v) :
    Holds l memory slot call := by
  have hfield : ∀ k f, (slotFields seq call)[k]? = some f →
      (memory (.word slot k) : Int) = f := by
    intro k f hf
    obtain ⟨n,hn,hmem⟩ := packFields_complete hok hf
    rw [Nat.zero_add] at hmem
    rw [hfilled _ n (by simp [fillStores,hmem])]
    exact packQ_eq_some hn
  constructor
  · exact hfield 1 _ rfl
  · exact hfield 2 _ rfl
  · intro i byte hi
    have hmem : (Cell.payload slot i,byte.toNat) ∈ copyBytes (.payload slot) call.payload :=
      mem_copyBytes.2 ⟨i,byte,hi,rfl⟩
    exact hfilled _ _ (by simp [fillStores,hmem])
  · intro i byte hi
    have hmem : (Cell.metadata slot i,byte.toNat) ∈
        copyBytes (.metadata slot) (call.metadata.getD []) := mem_copyBytes.2 ⟨i,byte,hi,rfl⟩
    exact hfilled _ _ (by simp [fillStores,hmem])
  · exact hvalid

def publishStores (l : ShmLayout) (slot seq : Nat) (call : WriteCall) : List Store :=
  if (packFields slot 0 (slotFields seq call)).2 then (seqEnd slot,seq) :: hintStores l slot seq
  else []

theorem writeStores_eq (l : ShmLayout) (slot seq : Nat) (call : WriteCall) :
    writeStores l slot seq call =
      (invalidateStores slot ++ (fillStores slot seq call ++ publishStores l slot seq call),
        (packFields slot 0 (slotFields seq call)).2) := by
  unfold writeStores publishStores
  cases (packFields slot 0 (slotFields seq call)).2 with
  | true => simp
  | false => simp

inductive Phase (l : ShmLayout) (w : World) (writing : Writing) : Prop where
  | invalidating (done : List Store)
      (pending : done ++ writing.pending = (writeStores l writing.slot writing.seq writing.call).1)
      (early : done = [] ∨ done = [(seqBegin writing.slot,0)])
      (count : w.nextSeq = w.assigned.length)
  | filling (done rest : List Store)
      (pending : writing.pending = rest ++ publishStores l writing.slot writing.seq writing.call)
      (fill : done ++ rest = fillStores writing.slot writing.seq writing.call)
      (marker : w.memory (seqEnd writing.slot) = 0)
      (filled : ∀ c v, (c,v) ∈ done → w.memory c = v)
      (count : w.nextSeq = w.assigned.length)
  | published (hints : ∀ store ∈ writing.pending, store.1.slot? = none)
      (returns : writing.returns = true)
      (count : w.nextSeq+1 = w.assigned.length)

structure Inv (l : ShmLayout) (w : World) : Prop where
  keys : ∀ entry ∈ w.assigned, 1 ≤ entry.1 ∧ entry.1 ≤ w.assigned.length
  nodup : (w.assigned.map fst).Nodup
  slots : ∀ slot, w.memory (seqEnd slot) ≠ 0 →
    ∃ call, (w.memory (seqEnd slot),call) ∈ w.assigned ∧ Holds l w.memory slot call
  idle : w.writing = none → w.nextSeq = w.assigned.length
  writing : ∀ writing, w.writing = some writing → writing.call.valid l = true ∧
    writing.seq = w.nextSeq+1 ∧
    writing.returns = (packFields writing.slot 0 (slotFields writing.seq writing.call)).2 ∧
    Phase l w writing

theorem inv_init (l : ShmLayout) : Inv l .init where
  keys entry h := by cases h
  nodup := nodup_nil
  slots slot h := absurd rfl h
  idle _ := rfl
  writing writing h := by cases h

variable {w w' : World}

theorem inv_start (h : Inv l w) (hstep : startWrite l call w = some w') : Inv l w' := by
  unfold startWrite at hstep
  split at hstep
  · cases hstep
  · rename_i hidle
    split at hstep
    · rename_i hvalid
      cases hstep
      refine ⟨h.keys,h.nodup,h.slots,(fun hnone => nomatch hnone),fun writing hwriting => ?_⟩
      cases hwriting
      refine ⟨hvalid,rfl,?_,?_⟩
      · dsimp only
        rw [writeStores_eq]
      · refine .invalidating [] ?_ (.inl rfl) (h.idle hidle)
        dsimp only
        rw [nil_append]
    · cases hstep

theorem slots_update {w : World} (h : Inv l w) {c : Cell} {v : Nat}
    (hc : ∀ slot, w.memory (seqEnd slot) ≠ 0 → c ≠ seqEnd slot ∧
      (c.slot? ≠ some slot ∨ c = seqBegin slot)) (hzero : ∀ slot, c = seqEnd slot → v = 0) :
    ∀ slot, update w.memory c v (seqEnd slot) ≠ 0 →
      ∃ call, (update w.memory c v (seqEnd slot),call) ∈ w.assigned ∧
        Holds l (update w.memory c v) slot call := by
  intro slot hne
  by_cases hend : seqEnd slot = c
  · rw [hend,update_self] at hne
    exact absurd (hzero slot hend.symm) hne
  · rw [update_of_ne hend] at hne ⊢
    obtain ⟨call,hmem,hholds⟩ := h.slots slot hne
    refine ⟨call,hmem,hholds.update ?_ v⟩
    rcases (hc slot hne).2 with hc | hc
    · exact .inl hc
    · exact .inr (.inl hc)

theorem seqEnd_injective {slot slot' : Nat} (h : seqEnd slot = seqEnd slot') : slot = slot' := by
  cases h
  rfl

section
variable {l : ShmLayout} {w : World} {writing : Writing}

variable {rest : List Store}

theorem inv_invalidate {done : List Store} {c : Cell} {v : Nat} (h : Inv l w)
    (hwriting : w.writing = some writing) (hp : writing.pending = (c,v) :: rest)
    (hpending : done ++ writing.pending = (writeStores l writing.slot writing.seq writing.call).1)
    (hearly : done = [] ∨ done = [(seqBegin writing.slot,0)])
    (hcount : w.nextSeq = w.assigned.length) :
    Inv l { w with
      memory := update w.memory c v
      writing := some { writing with pending := rest } } := by
  obtain ⟨hvalid,hseq,hreturns,-⟩ := h.writing writing hwriting
  rw [hp,writeStores_eq] at hpending
  rcases hearly with rfl | rfl
  · -- the begin marker is cleared, and the slot still holds what it held
    simp only [nil_append,invalidateStores,cons_append,List.cons.injEq,mk.injEq] at hpending
    obtain ⟨⟨rfl,rfl⟩,hrest⟩ := hpending
    refine ⟨h.keys,h.nodup,slots_update h ?_ ?_,(fun hnone => nomatch hnone),fun x hx => ?_⟩
    · intro slot _
      refine ⟨by simp [seqBegin,seqEnd],?_⟩
      by_cases hslot : slot = writing.slot
      · exact .inr (by rw [hslot])
      · exact .inl (by simpa [seqBegin,Cell.slot?] using Ne.symm hslot)
    · intro slot hend
      simp [seqBegin,seqEnd] at hend
    · cases hx
      refine ⟨hvalid,hseq,hreturns,.invalidating [(seqBegin writing.slot,0)] ?_ (.inr rfl) hcount⟩
      rw [writeStores_eq]
      simp only [hrest,invalidateStores,cons_append,nil_append]
  · simp only [invalidateStores,cons_append,nil_append,List.cons.injEq,mk.injEq,
      true_and] at hpending
    obtain ⟨⟨rfl,rfl⟩,hrest⟩ := hpending
    refine ⟨h.keys,h.nodup,?_,(fun hnone => nomatch hnone),fun x hx => ?_⟩
    · intro slot hne
      by_cases hslot : slot = writing.slot
      · subst hslot
        simp at hne
      · have hend : seqEnd slot ≠ seqEnd writing.slot := fun he => hslot (seqEnd_injective he)
        dsimp only at hne ⊢
        rw [update_of_ne hend] at hne ⊢
        obtain ⟨call,hmem,hholds⟩ := h.slots slot hne
        refine ⟨call,hmem,hholds.update (.inl ?_) 0⟩
        simpa [seqEnd,Cell.slot?] using Ne.symm hslot
    · cases hx
      refine ⟨hvalid,hseq,hreturns,.filling [] (fillStores writing.slot writing.seq writing.call)
        hrest rfl (by simp) (by simp) hcount⟩

theorem inv_fill {done : List Store} {c : Cell} {v : Nat} {more rest : List Store} (h : Inv l w)
    (hwriting : w.writing = some writing)
    (hrest : rest = more ++ publishStores l writing.slot writing.seq writing.call)
    (hfill : done ++ (c,v) :: more = fillStores writing.slot writing.seq writing.call)
    (hmarker : w.memory (seqEnd writing.slot) = 0) (hfilled : ∀ c v, (c,v) ∈ done → w.memory c = v)
    (hcount : w.nextSeq = w.assigned.length) :
    Inv l { w with
      memory := update w.memory c v
      writing := some { writing with pending := rest } } := by
  obtain ⟨hvalid,hseq,hreturns,-⟩ := h.writing writing hwriting
  have hmem : (c,v) ∈ fillStores writing.slot writing.seq writing.call := by simp [← hfill]
  obtain ⟨hslot,hzero⟩ := fillStores_cell hmem
  have hother : ∀ slot, w.memory (seqEnd slot) ≠ 0 → slot ≠ writing.slot := by
    rintro slot hne rfl
    exact hne hmarker
  have hsame : ∀ slot, c = seqEnd slot → slot = writing.slot := by
    rintro slot rfl
    simpa [seqEnd,Cell.slot?] using hslot
  refine ⟨h.keys,h.nodup,slots_update h ?_ ?_,(fun hnone => nomatch hnone),fun x hx => ?_⟩
  · intro slot hne
    have hslot' := hother slot hne
    refine ⟨fun hc => hslot' (hsame slot hc),.inl ?_⟩
    rw [hslot]
    simpa using Ne.symm hslot'
  · intro slot hc
    obtain rfl := hsame slot hc
    exact hzero hc
  · cases hx
    refine ⟨hvalid,hseq,hreturns,.filling (done ++ [(c,v)]) more hrest (by simpa using hfill) ?_ ?_
      hcount⟩
    · by_cases hc : seqEnd writing.slot = c
      · simp [hc,hzero hc.symm]
      · simp [update_of_ne hc,hmarker]
    · intro c' v' hmem'
      rcases mem_append.1 hmem' with hdone | hnew
      · have hne : c' ≠ c := by
          rintro rfl
          have hnodup := fillStores_nodup writing.slot writing.seq writing.call
          rw [← hfill,map_append,map_cons,nodup_middle,nodup_cons] at hnodup
          exact hnodup.1 (by simpa using .inl ⟨v',hdone⟩)
        dsimp only
        rw [update_of_ne hne]
        exact hfilled c' v' hdone
      · simp only [mem_singleton,mk.injEq] at hnew
        obtain ⟨rfl,rfl⟩ := hnew
        simp

theorem inv_publish (h : Inv l w) (hwriting : w.writing = some writing)
    (hok : (packFields writing.slot 0 (slotFields writing.seq writing.call)).2 = true)
    (hrest : rest = hintStores l writing.slot writing.seq)
    (hfilled : ∀ c v, (c,v) ∈ fillStores writing.slot writing.seq writing.call → w.memory c = v)
    (hcount : w.nextSeq = w.assigned.length) :
    Inv l { w with
      memory := update w.memory (seqEnd writing.slot) writing.seq
      writing := some { writing with pending := rest }
      assigned := w.assigned ++ [(writing.seq,writing.call)] } := by
  obtain ⟨hvalid,hseq,hreturns,-⟩ := h.writing writing hwriting
  refine ⟨?_,?_,?_,(fun hnone => nomatch hnone),fun x hx => ?_⟩
  · intro entry hentry
    simp only [length_append,length_singleton]
    rcases mem_append.1 hentry with hold | hnew
    · have := h.keys entry hold
      omega
    · obtain rfl := mem_singleton.1 hnew
      dsimp only
      omega
  · simp only [map_append,map_cons,map_nil]
    refine Nodup.append h.nodup (nodup_singleton _) ?_
    intro s hold hnew
    obtain rfl := mem_singleton.1 hnew
    obtain ⟨entry,hentry,he⟩ := mem_map.1 hold
    have := h.keys entry hentry
    omega
  · intro slot hne
    by_cases hslot : slot = writing.slot
    · subst hslot
      simp only [update_self]
      refine ⟨writing.call,by simp,?_⟩
      exact (holds_of_filled hvalid hok hfilled).update (.inr (.inr rfl)) _
    · have hend : seqEnd slot ≠ seqEnd writing.slot := fun he => hslot (seqEnd_injective he)
      dsimp only at hne ⊢
      rw [update_of_ne hend] at hne ⊢
      obtain ⟨call,hmem,hholds⟩ := h.slots slot hne
      refine ⟨call,mem_append_left _ hmem,hholds.update (.inl ?_) _⟩
      simpa [seqEnd,Cell.slot?] using Ne.symm hslot
  · cases hx
    refine ⟨hvalid,hseq,hreturns,.published ?_ (hreturns.trans hok) (by simp [hcount])⟩
    intro store hstore
    dsimp only at hstore
    rw [hrest] at hstore
    unfold hintStores at hstore
    split at hstore
    · simp only [mem_cons,not_mem_nil,or_false] at hstore
      rcases hstore with rfl | rfl
      · rfl
      · rfl
    · cases hstore

theorem inv_hint {c : Cell} {v : Nat} (h : Inv l w)
    (hwriting : w.writing = some writing) (hp : writing.pending = (c,v) :: rest)
    (hhints : ∀ store ∈ writing.pending, store.1.slot? = none) (hret : writing.returns = true)
    (hcount : w.nextSeq+1 = w.assigned.length) :
    Inv l { w with
      memory := update w.memory c v
      writing := some { writing with pending := rest } } := by
  obtain ⟨hvalid,hseq,hreturns,-⟩ := h.writing writing hwriting
  have hnone : c.slot? = none := hhints (c,v) (by simp [hp])
  refine ⟨h.keys,h.nodup,slots_update h ?_ ?_,(fun hnone => nomatch hnone),fun x hx => ?_⟩
  · intro slot _
    refine ⟨?_,.inl (by simp [hnone])⟩
    rintro rfl
    cases hnone
  · rintro slot rfl
    cases hnone
  · cases hx
    refine ⟨hvalid,hseq,hreturns,.published ?_ hret hcount⟩
    intro store hstore
    exact hhints store (by simp [hp,hstore])

theorem inv_finish (h : Inv l w) (hwriting : w.writing = some writing)
    (hp : writing.pending = []) (slot : Nat) :
    Inv l { w with
      nextSeq := if writing.returns then writing.seq else w.nextSeq
      nextSlot := slot
      writing := none } := by
  obtain ⟨-,hseq,hreturns,hphase⟩ := h.writing writing hwriting
  refine ⟨h.keys,h.nodup,h.slots,fun _ => ?_,fun x hx => by cases hx⟩
  dsimp only
  cases hphase with
  | invalidating done hpending hearly hcount =>
    -- the invalidation is two stores long, so it is not over
    rw [hp,writeStores_eq] at hpending
    rcases hearly with rfl | rfl
    · simp [invalidateStores] at hpending
    · simp [invalidateStores] at hpending
  | filling done rest hpending hfill hmarker hfilled hcount =>
    have hpub : publishStores l writing.slot writing.seq writing.call = [] := by
      rw [hp] at hpending
      exact (append_eq_nil_iff.1 hpending.symm).2
    have hno : writing.returns = false := by
      rw [hreturns]
      unfold publishStores at hpub
      split at hpub
      · cases hpub
      · simp_all
    simpa [hno] using hcount
  | published hhints hret hcount =>
    simp only [hret,if_true]
    omega

end

theorem continueWrite_cases (h : Inv l w) (hstep : continueWrite l w = some w') :
    ∃ writing, w.writing = some writing ∧ ((w'.memory = w.memory ∧ w'.assigned = w.assigned) ∨
      (w'.memory = update w.memory (seqEnd writing.slot) (w.assigned.length+1) ∧
        w'.assigned = w.assigned ++ [(w.assigned.length+1,writing.call)]) ∨
      (∃ c v, w'.memory = update w.memory c v ∧ w'.assigned = w.assigned ∧
        ∀ slot, c = seqEnd slot → v = 0)) ∧ Inv l w' := by
  unfold continueWrite at hstep
  split at hstep
  · cases hstep
  rename_i writing hwriting
  refine ⟨writing,hwriting,?_⟩
  obtain ⟨hvalid,hseq,hreturns,hphase⟩ := h.writing writing hwriting
  split at hstep
  · rename_i hp
    split at hstep
    · rename_i hret
      cases hstep
      have hfin := inv_finish h hwriting hp ((writing.slot+1) % l.slotCount)
      rw [if_pos hret] at hfin
      exact ⟨.inl ⟨rfl,rfl⟩,hfin⟩
    · rename_i hret
      cases hstep
      have hfin := inv_finish h hwriting hp w.nextSlot
      rw [if_neg hret] at hfin
      exact ⟨.inl ⟨rfl,rfl⟩,hfin⟩
  · rename_i c v rest hp
    dsimp only at hstep
    cases hphase with
    | invalidating done hpending hearly hcount =>
      have hinv := inv_invalidate h hwriting hp hpending hearly hcount
      have hzero : v = 0 := by
        rw [hp,writeStores_eq] at hpending
        rcases hearly with rfl | rfl
        · simp only [nil_append,invalidateStores,cons_append,List.cons.injEq,
            mk.injEq] at hpending
          exact hpending.1.2
        · simp only [invalidateStores,cons_append,nil_append,List.cons.injEq,
            mk.injEq,true_and] at hpending
          exact hpending.1.2
      rw [if_neg (fun hc => hc.2 hzero),append_nil] at hstep
      cases hstep
      exact ⟨.inr (.inr ⟨c,v,rfl,rfl,fun _ _ => hzero⟩),hinv⟩
    | filling done left hpending hfill hmarker hfilled hcount =>
      cases left with
      | cons store more =>
        rw [hp,cons_append] at hpending
        obtain ⟨rfl,hrest⟩ := List.cons.inj hpending
        have hinv := inv_fill h hwriting hrest hfill hmarker hfilled hcount
        have hmem : (c,v) ∈ fillStores writing.slot writing.seq writing.call := by simp [← hfill]
        obtain ⟨hslot,hzero⟩ := fillStores_cell hmem
        rw [if_neg (fun hc => hc.2 (hzero hc.1)),append_nil] at hstep
        cases hstep
        refine ⟨.inr (.inr ⟨c,v,rfl,rfl,?_⟩),hinv⟩
        rintro slot rfl
        obtain rfl : slot = writing.slot := by simpa [seqEnd,Cell.slot?] using hslot
        exact hzero rfl
      | nil =>
        rw [hp,nil_append] at hpending
        rw [append_nil] at hfill
        unfold publishStores at hpending
        split at hpending
        · rename_i hok
          simp only [List.cons.injEq,mk.injEq] at hpending
          obtain ⟨⟨rfl,rfl⟩,hrest⟩ := hpending
          have hinv := inv_publish h hwriting hok hrest (hfill ▸ hfilled) hcount
          have hseq' : writing.seq = w.assigned.length+1 := by omega
          rw [if_pos ⟨rfl,by omega⟩] at hstep
          cases hstep
          exact ⟨.inr (.inl ⟨by rw [hseq'],by rw [hseq']⟩),hinv⟩
        · cases hpending
    | published hhints hret hcount =>
      have hinv := inv_hint h hwriting hp hhints hret hcount
      have hnone : c.slot? = none := hhints (c,v) (by simp [hp])
      have hne : ∀ slot, c ≠ seqEnd slot := by
        rintro slot rfl
        cases hnone
      rw [if_neg (fun hc => hne _ hc.1),append_nil] at hstep
      cases hstep
      exact ⟨.inr (.inr ⟨c,v,rfl,rfl,fun slot hc => absurd hc (hne slot)⟩),hinv⟩

theorem startWrite_frame
    (hstep : startWrite l call w = some w') : w'.memory = w.memory ∧ w'.assigned = w.assigned := by
  unfold startWrite at hstep
  split at hstep
  · cases hstep
  · split at hstep
    · cases hstep
      exact ⟨rfl,rfl⟩
    · cases hstep

variable {l : ShmLayout} {w w' : World}

theorem WriterStep.inv (h : Inv l w) (hstep : WriterStep l w w') : Inv l w' := by
  cases hstep with
  | start call hstart => exact inv_start h hstart
  | advance hcont =>
    obtain ⟨_,_,_,hinv⟩ := continueWrite_cases h hcont
    exact hinv

theorem WriterStep.assigned (h : Inv l w) (hstep : WriterStep l w w') :
    ∀ entry ∈ w.assigned, entry ∈ w'.assigned := by
  intro entry hentry
  cases hstep with
  | start call hstart => rwa [(startWrite_frame hstart).2]
  | advance hcont =>
    obtain ⟨_,_,hcases,_⟩ := continueWrite_cases h hcont
    rcases hcases with ⟨-,ha⟩ | ⟨-,ha⟩ | ⟨_,_,-,ha,-⟩
    · rwa [ha]
    · rw [ha]
      exact mem_append_left _ hentry
    · rwa [ha]

theorem WriterStep.lost {slot s : Nat} {call : WriteCall} (h : Inv l w) (hstep : WriterStep l w w')
    (hs : (s,call) ∈ w.assigned) (hlost : w.memory (seqEnd slot) ≠ s) :
    w'.memory (seqEnd slot) ≠ s := by
  have hkey := h.keys _ hs
  cases hstep with
  | start call hstart => rwa [(startWrite_frame hstart).1]
  | advance hcont =>
    obtain ⟨writing,_,hcases,_⟩ := continueWrite_cases h hcont
    rcases hcases with ⟨hm,-⟩ | ⟨hm,-⟩ | ⟨c,v,hm,-,hzero⟩
    · rwa [hm]
    · rw [hm]
      by_cases hc : seqEnd slot = seqEnd writing.slot
      · rw [hc,update_self]
        dsimp only at hkey
        omega
      · rwa [update_of_ne hc]
    · rw [hm]
      by_cases hc : seqEnd slot = c
      · rw [hc,update_self,hzero slot hc.symm]
        dsimp only at hkey
        omega
      · rwa [update_of_ne hc]

end ExperimentControl.Shm

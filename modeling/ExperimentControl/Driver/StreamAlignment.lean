import ExperimentControl.Driver.StreamWrappers

/-!
What one stream call leaves in the rings of its outputs: the frames of each, against the shots of what
the device returned for it.
-/

namespace ExperimentControl.Driver
open Lib List Function

/-- The shots that the device returned for an output: an array of the shape of a shot is one shot, any
other array a row of shots. -/
def StreamValue.shots (out : StreamOut) : StreamValue → List NdArray
  | .ndarray a => if a.shape = out.shape then [a] else (List.range a.count).map a.row
  | .sequence items => items.filterMap Except.toOption
  | .scalar asarray => asarray.toOption.toList

def Shaped (out : StreamOut) (shot : NdArray) : Prop := shot.dtype = out.dtype ∧ shot.shape = out.shape

/-- `np.asarray` of an item gives a shot of the output. -/
def ShapedItem (out : StreamOut) (item : Except Exc NdArray) : Prop := ∃ shot, item = .ok shot ∧ Shaped out shot

/-- What the device returned fits the output, in a call for `n` shots. -/
def StreamValue.Fits (out : StreamOut) (n : Nat) : StreamValue → Prop
  | .ndarray a => a.dtype = out.dtype ∧ (a.shape = out.shape ∨ a.shape = n :: out.shape)
  | .sequence items => items.length = n ∧ ∀ item ∈ items, ShapedItem out item
  | .scalar asarray => n = 1 ∧ ShapedItem out asarray

def StreamValue.Single (out : StreamOut) (value : StreamValue) : Prop :=
  ∃ a, value = .ndarray a ∧ a.shape = out.shape

section
variable {out : StreamOut} {n : Nat} {value : StreamValue} {shots : List NdArray}

theorem ensureShotShape_ok_iff {arr shot : NdArray} :
    ensureShotShape out arr = .ok shot ↔ shot = arr ∧ Shaped out arr := by
  unfold ensureShotShape Shaped
  split
  case isTrue hd => simp [hd]
  case isFalse hd =>
    split
    case isTrue hs => simp [hs]
    case isFalse hs =>
      simp only [not_not] at hd hs
      simp [hd,hs,eq_comm]

theorem asarray_ok_iff {item : Except Exc NdArray} {shot : NdArray} :
    (item >>= ensureShotShape out) = .ok shot ↔ item = .ok shot ∧ Shaped out shot := by
  cases item with
  | error e => simp [Bind.bind,Except.bind]
  | ok arr =>
    simp only [Bind.bind,Except.bind,ensureShotShape_ok_iff,Except.ok.injEq]
    constructor
    · rintro ⟨rfl,h⟩
      exact ⟨rfl,h⟩
    · rintro ⟨rfl,h⟩
      exact ⟨rfl,h⟩

theorem asSequenceShots_ok_iff {items : List (Except Exc NdArray)} :
    asSequenceShots out items n = .ok shots ↔
      (StreamValue.sequence items).Fits out n ∧ shots = (StreamValue.sequence items).shots out := by
  unfold asSequenceShots StreamValue.Fits StreamValue.shots
  split
  case isTrue hlen => simp [hlen]
  case isFalse hlen =>
    simp only [not_not] at hlen
    simp only [mapM_ok_iff,asarray_ok_iff,hlen,true_and]
    clear hlen
    induction items generalizing shots with
    | nil => simp
    | cons item rest ih =>
      constructor
      · rintro (_ | ⟨⟨rfl,hshot⟩,hmapped⟩)
        obtain ⟨hrest,rfl⟩ := ih.1 hmapped
        refine ⟨?_,rfl⟩
        rintro item (_ | ⟨_,hmem⟩)
        · exact ⟨_,rfl,hshot⟩
        · exact hrest item hmem
      · rintro ⟨hall,rfl⟩
        obtain ⟨shot,rfl,hshot⟩ := hall item (by simp)
        exact .cons ⟨rfl,hshot⟩ (ih.2 ⟨fun item h => hall item (by simp [h]),rfl⟩)

theorem asBatchShots_ok_iff (hn : 0 < n) {a : NdArray} (hshape : a.shape ≠ out.shape) :
    asBatchShots out a n = .ok shots ↔
      (StreamValue.ndarray a).Fits out n ∧ shots = (StreamValue.ndarray a).shots out := by
  unfold asBatchShots StreamValue.Fits StreamValue.shots
  simp only [hshape,false_or,if_false]
  split
  case isFalse h =>
    have : a.shape ≠ n :: out.shape := by
      intro hs
      exact h ⟨by simp [hs],by simp [NdArray.count,hs],by simp [hs]⟩
    simp [this]
  case isTrue h =>
    obtain ⟨hne,hcount,htail⟩ := h
    have hs : a.shape = n :: out.shape := by
      obtain ⟨m,rest,hrest⟩ := exists_cons_of_ne_nil hne
      simp only [NdArray.count,hrest,headD_cons,tail_cons] at hcount htail
      rw [hrest,hcount,htail]
    have hrow : ∀ i shot, ensureShotShape out (a.row i) = .ok shot ↔ shot = a.row i ∧ a.dtype = out.dtype := by
      intro i shot
      rw [ensureShotShape_ok_iff]
      simp [Shaped,NdArray.row,htail]
    rw [hcount,mapM_ok_iff_map fun i shot => (hrow i shot).trans and_comm]
    have hsome : (∀ i ∈ List.range n, a.dtype = out.dtype) ↔ a.dtype = out.dtype :=
      ⟨fun h => h 0 (by simpa using hn),fun h _ _ => h⟩
    simp only [hsome,hs,and_true]

theorem asShotList_ok_iff (hn : 0 < n) :
    asShotList out value n true = .ok shots ↔ value.Fits out n ∧ shots = value.shots out := by
  cases value with
  | ndarray a =>
    by_cases hshape : a.shape = out.shape
    · simp only [asShotList,hshape,if_true,StreamValue.Fits,StreamValue.shots,true_or,and_true]
      cases h : ensureShotShape out a with
      | error e =>
        have : a.dtype ≠ out.dtype := by
          intro hd
          have := (@ensureShotShape_ok_iff _ _ a).2 ⟨rfl,hd,hshape⟩
          rw [h] at this
          cases this
        simp [this,Except.map]
      | ok shot =>
        obtain ⟨rfl,hd,-⟩ := ensureShotShape_ok_iff.1 h
        simp [hd,Except.map,eq_comm]
    · simp only [asShotList,hshape,if_true,if_false]
      exact asBatchShots_ok_iff hn hshape
  | sequence items => simpa [asShotList] using asSequenceShots_ok_iff
  | scalar asarray =>
    simp only [asShotList,StreamValue.Fits,StreamValue.shots]
    split
    case isFalse h => simp [h]
    case isTrue h =>
      cases asarray with
      | error e => simp [asSingleShot,ShapedItem,Bind.bind,Except.bind]
      | ok arr =>
        simp only [asSingleShot,h,true_and,ShapedItem,Except.ok.injEq,exists_eq_left',Bind.bind,Except.bind]
        cases hs : ensureShotShape out arr with
        | error e =>
          have : ¬ Shaped out arr := by
            intro hd
            have := (@ensureShotShape_ok_iff _ _ arr).2 ⟨rfl,hd⟩
            rw [hs] at this
            cases this
          simp [this]
        | ok shot =>
          obtain ⟨rfl,hd⟩ := ensureShotShape_ok_iff.1 hs
          simp [hd,Except.toOption,pure,Except.pure,eq_comm]

theorem StreamValue.Fits.shaped (h : value.Fits out n) {shot : NdArray} (hmem : shot ∈ value.shots out) :
    Shaped out shot := by
  cases value with
  | ndarray a =>
    obtain ⟨hdtype,hshape⟩ := h
    simp only [StreamValue.shots] at hmem
    split at hmem
    case isTrue hs =>
      obtain rfl : shot = a := by simpa using hmem
      exact ⟨hdtype,hs⟩
    case isFalse hs =>
      obtain ⟨i,-,rfl⟩ := mem_map.1 hmem
      have hs : a.shape = n :: out.shape := hshape.resolve_left hs
      exact ⟨hdtype,by simp [NdArray.row,hs]⟩
  | sequence items =>
    obtain ⟨item,hitem,hshot⟩ := mem_filterMap.1 hmem
    obtain ⟨arr,rfl,harr⟩ := h.2 item hitem
    obtain rfl : arr = shot := by simpa [Except.toOption] using hshot
    exact harr
  | scalar asarray =>
    obtain ⟨-,arr,rfl,harr⟩ := h
    obtain rfl : arr = shot := by simpa [StreamValue.shots,Except.toOption,eq_comm] using hmem
    exact harr

theorem StreamValue.Single.length_shots (h : value.Single out) : (value.shots out).length = 1 := by
  obtain ⟨a,rfl,hs⟩ := h
  simp [StreamValue.shots,hs]

theorem StreamValue.Fits.length_shots (h : value.Fits out n) (hsingle : value.Single out → n = 1) :
    (value.shots out).length = n := by
  cases value with
  | ndarray a =>
    by_cases hs : a.shape = out.shape
    · have hone : n = 1 := hsingle ⟨a,rfl,hs⟩
      simp [StreamValue.shots,hs,hone]
    · have hs' : a.shape = n :: out.shape := h.2.resolve_left hs
      have hcount : a.count = n := by simp [NdArray.count,hs']
      simp [StreamValue.shots,hs,hcount]
  | sequence items =>
    obtain ⟨hlen,hitems⟩ := h
    simp only [StreamValue.shots]
    rw [← hlen]
    clear hlen hsingle
    induction items with
    | nil => rfl
    | cons item rest ih =>
      obtain ⟨shot,rfl,-⟩ := hitems item (by simp)
      simpa [Except.toOption] using ih fun item hitem => hitems item (by simp [hitem])
  | scalar asarray =>
    obtain ⟨hn,arr,rfl,-⟩ := h
    simp [StreamValue.shots,Except.toOption,hn]

end

def shotsOf (entries : List (String × StreamValue)) (out : StreamOut) : List NdArray :=
  ((lookup entries out.stream).map fun value => value.shots out).getD []

def EntryFits (entries : List (String × StreamValue)) (n : Nat) (out : StreamOut) : Prop :=
  ∃ value, lookup entries out.stream = some value ∧ value.Fits out n

def EntrySingle (entries : List (String × StreamValue)) (out : StreamOut) : Prop :=
  ∃ value, lookup entries out.stream = some value ∧ value.Single out

/-- The value of a metadata column that goes with frame `i`. -/
def metadataValue (values : StreamMetadata) (name : String) (i : Nat) : Int :=
  match lookup values name with
  | some (.ok value) => if value.shape = [] then value.values [] else value.values [i]
  | _ => 0

/-- The row of the metadata that goes with frame `i`. -/
def metadataRow (declared : List StreamMeta) (values : StreamMetadata) (i : Nat) : MetaRow :=
  declared.map fun item => (item.name,metadataValue values item.name i)

/-- The rows of the metadata of a call for `n` shots. -/
def metadataRows (declared : List StreamMeta) (values : StreamMetadata) (n : Nat) : Option (List MetaRow) :=
  if declared.isEmpty then none else some ((List.range n).map (metadataRow declared values))

/-- The metadata has a value of the declared type for each of `n` frames. -/
def MetadataFits (values : StreamMetadata) (n : Nat) (item : StreamMeta) : Prop :=
  ∃ value, lookup values item.name = some (.ok value) ∧ value.dtype = item.dtype ∧
    (value.shape = [n] ∨ value.shape = [] ∧ n = 1)

section
variable {entries : List (String × StreamValue)} {outputs : List StreamOut} {n : Nat}
  {declared : List StreamMeta} {values : StreamMetadata}

theorem entryShots_ok_iff (hn : 0 < n) {out : StreamOut} {o : StreamOut × List NdArray} :
    (match lookup entries out.stream with
      | none => .error (.plain .other ("Missing stream output '" ++ out.stream ++ "' in return dict"))
      | some value => (asShotList out value n true).map fun shots => (out,shots)) = Except.ok o ↔
    EntryFits entries n out ∧ o = (out,shotsOf entries out) := by
  unfold EntryFits shotsOf
  cases lookup entries out.stream with
  | none => simp
  | some value =>
    simp only [map_ok_iff,asShotList_ok_iff hn,Option.some.injEq,exists_eq_left',Option.map_some,
      Option.getD_some]
    constructor
    · rintro ⟨_,⟨hfits,rfl⟩,rfl⟩
      exact ⟨hfits,rfl⟩
    · rintro ⟨hfits,rfl⟩
      exact ⟨_,⟨hfits,rfl⟩,rfl⟩

theorem collectMultiOutputShots_ok_iff (hn : 0 < n) {data : StreamData}
    {shotLists : List (StreamOut × List NdArray)} :
    collectMultiOutputShots outputs data n true = .ok shotLists ↔
      (∀ out ∈ outputs, out.kind = .frame) ∧ ∃ entries, data = .dict entries ∧
        (∀ out ∈ outputs, EntryFits entries n out) ∧
        shotLists = outputs.map fun out => (out,shotsOf entries out) := by
  have hkind : (outputs.any fun out => out.kind = .records) = false ↔ ∀ out ∈ outputs, out.kind = .frame := by
    rw [any_eq_false]
    refine forall₂_congr fun out _ => ?_
    cases out.kind <;> simp
  unfold collectMultiOutputShots
  rw [← hkind]
  cases h : outputs.any fun out => out.kind = .records with
  | true => simp
  | false =>
    cases data with
    | other => simp
    | dict entries =>
      simp only [Bool.false_eq_true,if_false,true_and,StreamData.dict.injEq,exists_eq_left']
      exact mapM_ok_iff_map fun out o => entryShots_ok_iff hn

theorem metadataColumn_ok_iff {item : StreamMeta} {column : String × (Nat → Int)} :
    metadataColumn values n item = .ok column ↔
      MetadataFits values n item ∧ column = (item.name,metadataValue values item.name) := by
  unfold metadataColumn MetadataFits metadataValue
  cases hl : lookup values item.name with
  | none => simp
  | some result =>
    cases result with
    | error exc => simp
    | ok value =>
      by_cases hscalar : value.shape = []
      · by_cases hn : n = 1
        · by_cases hd : value.dtype = item.dtype <;> simp [hscalar,hn,hd,eq_comm]
        · simp [hscalar,hn]
      · by_cases hshape : value.shape = [n]
        · by_cases hd : value.dtype = item.dtype <;> simp [hshape,hd,eq_comm]
        · simp [hscalar,hshape]

theorem metadataArray_ok_iff {metadata : Option (List MetaRow)} :
    metadataArray declared values n = .ok metadata ↔
      (∀ item ∈ declared, MetadataFits values n item) ∧ metadata = metadataRows declared values n := by
  unfold metadataArray metadataRows
  cases declared with
  | nil => simp [eq_comm]
  | cons item rest =>
    simp only [isEmpty_cons,Bool.false_eq_true,if_false,map_ok_iff,
      mapM_ok_iff_map (fun item column => metadataColumn_ok_iff)]
    constructor
    · rintro ⟨_,⟨hfits,rfl⟩,rfl⟩
      refine ⟨hfits,?_⟩
      simp [metadataRow]
    · rintro ⟨hfits,rfl⟩
      refine ⟨_,⟨hfits,rfl⟩,?_⟩
      simp [metadataRow]

end

section
variable {α : Type} {publish : α → Rings → Except Exc Rings} {stream : α → String} {frames : α → List Frame}
  {accepts : α → Prop} [DecidablePred accepts] {l : List α}

def received (stream : α → String) (frames : α → List Frame) (l : List α) (s : String) : List Frame :=
  (l.filter fun a => stream a = s).flatMap frames

theorem received_of_not_mem {s : String} (h : s ∉ l.map stream) : received stream frames l s = [] := by
  have : (l.filter fun a => stream a = s) = [] := by
    rw [filter_eq_nil_iff]
    intro a ha hs
    exact h (mem_map.2 ⟨a,ha,by simpa using hs⟩)
  rw [received,this,flatMap_nil]

theorem received_of_mem (hnodup : (l.map stream).Nodup) {a : α} (ha : a ∈ l) :
    received stream frames l (stream a) = frames a := by
  induction l with
  | nil => cases ha
  | cons b rest ih =>
    obtain ⟨hb,hrest⟩ := nodup_cons.1 hnodup
    rcases mem_cons.1 ha with rfl | ha
    · have := @received_of_not_mem _ _ frames _ _ hb
      simp only [received] at this ⊢
      simp [this]
    · have hne : stream b ≠ stream a := fun h => hb (h ▸ mem_map_of_mem ha)
      have := ih hrest ha
      simp only [received] at this ⊢
      simp [hne,this]

theorem publishAll_rings (haccept : ∀ a ∈ l, accepts a → ∀ rings, publish a rings =
      .ok (rings.append (stream a) (frames a)))
    (hrefuse : ∀ a ∈ l, ¬ accepts a → ∀ rings, ∃ exc, publish a rings = .error exc) (rings : Rings) :
    (publishAll publish l rings).2 =
      fun s => rings s ++ received stream frames (l.takeWhile fun a => accepts a) s := by
  induction l generalizing rings with
  | nil => simp [publishAll,received]
  | cons a rest ih =>
    have ih := ih (fun b hb => haccept b (by simp [hb])) fun b hb => hrefuse b (by simp [hb])
    by_cases ha : accepts a
    · rw [publishAll,haccept a (by simp) ha]
      simp only [ih,takeWhile_cons,ha,decide_true,if_true]
      funext s
      by_cases hs : stream a = s
      · simp [Rings.append,received,hs]
      · simp [Rings.append,received,hs,Ne.symm hs]
    · obtain ⟨exc,hexc⟩ := hrefuse a (by simp) ha rings
      rw [publishAll,hexc]
      simp [ha,received]

theorem publishAll_raises (haccept : ∀ a ∈ l, accepts a → ∀ rings, publish a rings =
      .ok (rings.append (stream a) (frames a)))
    (hrefuse : ∀ a ∈ l, ¬ accepts a → ∀ rings, ∃ exc, publish a rings = .error exc) (rings : Rings) :
    (publishAll publish l rings).1 = none ↔ ∀ a ∈ l, accepts a := by
  induction l generalizing rings with
  | nil => simp [publishAll]
  | cons a rest ih =>
    have ih := ih (fun b hb => haccept b (by simp [hb])) fun b hb => hrefuse b (by simp [hb])
    by_cases ha : accepts a
    · rw [publishAll,haccept a (by simp) ha]
      simp [ih,ha]
    · obtain ⟨exc,hexc⟩ := hrefuse a (by simp) ha rings
      rw [publishAll,hexc]
      simp [ha]

end

section
variable {stackDtype : String → String} {out : StreamOut} {shots : List NdArray} {n : Nat}
  {declared : List StreamMeta} {values : StreamMetadata}

def framesOf (declared : List StreamMeta) (values : StreamMetadata) (n : Nat) (shots : List NdArray) :
    List Frame :=
  shots.zipIdx.map fun shot => ⟨shot.1,(metadataRows declared values n).bind fun rows => rows[shot.2]?⟩

def Takes (stackDtype : String → String) (declared : List StreamMeta) (n : Nat)
    (o : StreamOut × List NdArray) : Prop :=
  stackDtype o.1.dtype = o.1.dtype ∧ (declared ≠ [] → o.2.length = n)

instance (o : StreamOut × List NdArray) : Decidable (Takes stackDtype declared n o) :=
  inferInstanceAs (Decidable (_ ∧ (_ → _)))

section
variable (hshaped : ∀ shot ∈ shots, Shaped out shot)
include hshaped

theorem stack_shaped (hpos : shots ≠ []) :
    ∃ batch, stack stackDtype shots = .ok batch ∧ batch.dtype = stackDtype out.dtype ∧
      batch.shape = shots.length :: out.shape ∧
      (stackDtype out.dtype = out.dtype → ∀ i (h : i < shots.length), batch.row i = shots[i]) := by
  cases shots with
  | nil => exact absurd rfl hpos
  | cons first rest =>
    obtain ⟨hdtype,hshape⟩ := hshaped first (by simp)
    refine ⟨_,rfl,by rw [hdtype],by simp [hshape],?_⟩
    intro hd i h
    obtain ⟨hdi,hsi⟩ := hshaped _ (getElem_mem h)
    simp only [NdArray.row,tail_cons,hdtype,hd,hshape,getElem?_eq_getElem h]
    rw [← hdi,← hsi]

theorem publish_batch_taken (hpos : shots ≠ [])
    (hslots : shots.length ≤ out.ringSlots) (htakes : Takes stackDtype declared n (out,shots)) (rings : Rings) :
    publishBatch stackDtype declared (metadataRows declared values n) (out,shots) rings =
      .ok (rings.append out.stream (framesOf declared values n shots)) := by
  obtain ⟨batch,hstack,hdtype,hshape,hrow⟩ := @stack_shaped stackDtype _ _ hshaped hpos
  obtain ⟨hd,hrows⟩ := htakes
  have hcount : batch.count = shots.length := by simp [NdArray.count,hshape]
  have hlen : 0 < shots.length := length_pos_iff.2 hpos
  have hframes : batchFrames batch (metadataRows declared values n) = framesOf declared values n shots := by
    apply ext_getElem
    · simp [batchFrames,framesOf,hcount]
    · intro i hi _
      have hi : i < shots.length := by simpa [batchFrames,hcount] using hi
      simp [batchFrames,framesOf,hrow hd i hi]
  simp only [publishBatch,hstack,Bind.bind,Except.bind,publishStreamBatch]
  rw [← hframes,if_neg (by simp [hdtype,hd]),if_neg (by simp [hshape]),
    if_neg (by rw [hcount]; omega)]
  cases declared with
  | nil => simp [metadataRows]
  | cons item rest =>
    have hn : shots.length = n := hrows (by simp)
    simp [metadataRows,hcount,hn]

theorem publish_batch_refused (hpos : shots ≠ [])
    (hslots : shots.length ≤ out.ringSlots) (htakes : ¬ Takes stackDtype declared n (out,shots))
    (rings : Rings) :
    ∃ exc, publishBatch stackDtype declared (metadataRows declared values n) (out,shots) rings =
      .error exc := by
  obtain ⟨batch,hstack,hdtype,hshape,-⟩ := @stack_shaped stackDtype _ _ hshaped hpos
  have hcount : batch.count = shots.length := by simp [NdArray.count,hshape]
  have hlen : 0 < shots.length := length_pos_iff.2 hpos
  simp only [publishBatch,hstack,Bind.bind,Except.bind,publishStreamBatch]
  by_cases hd : stackDtype out.dtype = out.dtype
  · rw [if_neg (by simp [hdtype,hd]),if_neg (by simp [hshape]),if_neg (by rw [hcount]; omega)]
    have hrows : declared ≠ [] ∧ shots.length ≠ n := by
      simpa [Takes,hd] using htakes
    obtain ⟨item,rest,rfl⟩ := exists_cons_of_ne_nil hrows.1
    simp [metadataRows,hcount,hrows.2.symm]
  · exact ⟨_,if_pos (by rwa [hdtype])⟩

end

end

def MetadataNamed (declared : List StreamMeta) (ret : StreamReturn) : Prop :=
  if declared.isEmpty then ret.metadata.getD [] = []
  else ∃ values, ret.metadata = some values ∧ (∀ item ∈ declared, item.name ∈ values.map Prod.fst) ∧
    ∀ name ∈ values.map Prod.fst, name ∈ declared.map StreamMeta.name

/-- What the method returned is that of a call for `n` shots of each output. -/
structure Fitting (call : StreamCall) (n : Nat) (ret : StreamReturn) (entries : List (String × StreamValue)) :
    Prop where
  named : MetadataNamed call.declared ret
  dict : ret.data = .dict entries
  frames : ∀ out ∈ call.outputs, out.kind = .frame
  fits : ∀ out ∈ call.outputs, EntryFits entries n out
  metadata : ∀ item ∈ call.declared, MetadataFits (ret.metadata.getD []) n item

/-- A call with an `n_batch` in range, whose method returns what fits it. -/
structure BatchCall (call : StreamCall) (turn : StreamTurn) (n : Nat) (ret : StreamReturn)
    (entries : List (String × StreamValue)) : Prop extends Fitting call n ret entries where
  asked : turn.nBatch = some (.ok n)
  pos : 0 < n
  inRange : n ≤ maxBatch call.outputs
  returned : turn.method = some (.ok ret)

section
variable {stackDtype : String → String} {call : StreamCall} {turn : StreamTurn} {n : Nat} {ret : StreamReturn}
  {entries : List (String × StreamValue)} {declared : List StreamMeta}

theorem unwrapStreamResult_ok_iff {r : StreamData × StreamMetadata} :
    unwrapStreamResult ret declared = .ok r ↔
      MetadataNamed declared ret ∧ r = (ret.data,ret.metadata.getD []) := by
  unfold unwrapStreamResult MetadataNamed
  split
  case isTrue hempty =>
    match ret.metadata with
    | none => simp [eq_comm]
    | some [] => simp [eq_comm]
    | some (_ :: _) => simp
  case isFalse hdeclared =>
    cases ret.metadata with
    | none => simp
    | some values =>
      simp only [Option.some.injEq,exists_eq_left',Option.getD_some]
      split
      case isTrue h =>
        rw [Except.ok.injEq,eq_comm]
        exact (and_iff_right h).symm
      case isFalse h =>
        simp only [reduceCtorEq,false_iff]
        exact fun hr => h hr.1

theorem invokeStream_batch (hasked : turn.nBatch = some (.ok n)) (hpos : 0 < n)
    (hrange : n ≤ maxBatch call.outputs) (hreturned : turn.method = some (.ok ret)) :
    invokeStream call turn = .ok (ret,n,true) := by
  have hmax : ¬ (maxBatch call.outputs : Int) < n := by omega
  have hone : ¬ (n : Int) < 1 := by omega
  simp [invokeStream,hasked,hreturned,hmax,hone,Except.map]

def publishBatches (stackDtype : String → String) (call : StreamCall) (values : StreamMetadata) (n : Nat)
    (entries : List (String × StreamValue)) (rings : Rings) : Option Exc × Rings :=
  publishAll (publishBatch stackDtype call.declared (metadataRows call.declared values n))
    (call.outputs.map fun out => (out,shotsOf entries out)) rings

theorem streamCall_batch (h : BatchCall call turn n ret entries) (rings : Rings) :
    streamCall stackDtype call turn rings =
      publishBatches stackDtype call (ret.metadata.getD []) n entries rings := by
  have hcollect := (collectMultiOutputShots_ok_iff h.pos).2 ⟨h.frames,entries,h.dict,h.fits,rfl⟩
  have hmetadata := metadataArray_ok_iff.2 ⟨h.metadata,rfl⟩
  unfold streamCall publishMultiOutput publishBatches
  simp only [invokeStream_batch h.asked h.pos h.inRange h.returned,
    unwrapStreamResult_ok_iff.2 ⟨h.named,rfl⟩,hcollect,hmetadata,if_true]

end

/-- Every output's ring has received `n` frames, in the order of the shots: frame `i` is shot `i` of what was
returned for the output, with row `i` of the metadata. -/
def Delivered (call : StreamCall) (n : Nat) (values : StreamMetadata) (entries : List (String × StreamValue))
    (rings rings' : Rings) : Prop :=
  ∀ out ∈ call.outputs, ∃ frames, rings' out.stream = rings out.stream ++ frames ∧ frames.length = n ∧
    ∀ i < n, ∃ shot, (shotsOf entries out)[i]? = some shot ∧ frames[i]? = some
      ⟨shot,if call.declared.isEmpty then none else some (metadataRow call.declared values i)⟩

section
variable {stackDtype : String → String} {call : StreamCall} {turn : StreamTurn} {n : Nat} {ret : StreamReturn}
  {entries : List (String × StreamValue)} {out : StreamOut} {values : StreamMetadata}
  {declared : List StreamMeta}

section
variable (h : EntryFits entries n out)
include h

theorem EntryFits.length_shotsOf :
    (shotsOf entries out).length = n ↔ (EntrySingle entries out → n = 1) := by
  obtain ⟨value,hvalue,hfits⟩ := h
  simp only [shotsOf,hvalue,Option.map_some,Option.getD_some]
  constructor
  · rintro hlen ⟨value',hvalue',hsingle⟩
    obtain rfl : value = value' := by simpa [hvalue] using hvalue'
    exact hlen.symm.trans hsingle.length_shots
  · intro hone
    exact hfits.length_shots fun hsingle => hone ⟨value,hvalue,hsingle⟩

theorem EntryFits.shaped : ∀ shot ∈ shotsOf entries out, Shaped out shot := by
  obtain ⟨value,hvalue,hfits⟩ := h
  simp only [shotsOf,hvalue,Option.map_some,Option.getD_some]
  exact fun shot => hfits.shaped

theorem EntryFits.length_pos_le (hn : 0 < n) :
    0 < (shotsOf entries out).length ∧ (shotsOf entries out).length ≤ n := by
  by_cases hsingle : EntrySingle entries out
  · obtain ⟨value,hvalue,hone⟩ := hsingle
    have hlen := hone.length_shots
    simp only [shotsOf,hvalue,Option.map_some,Option.getD_some]
    omega
  · have hlen := h.length_shotsOf.2 fun hs => absurd hs hsingle
    omega

end

theorem maxBatch_le {outputs : List StreamOut} (h : out ∈ outputs) : maxBatch outputs ≤ out.ringSlots := by
  unfold maxBatch
  generalize (outputs.head?.map StreamOut.ringSlots).getD 0 = start
  induction outputs with
  | nil => cases h
  | cons first rest ih =>
    rcases mem_cons.1 h with rfl | h
    · exact min_le_left _ _
    · exact (min_le_right _ _).trans (ih h)

@[simp] theorem framesOf_length (shots : List NdArray) :
    (framesOf declared values n shots).length = shots.length := by
  simp [framesOf]

def shotLists (call : StreamCall) (entries : List (String × StreamValue)) : List (StreamOut × List NdArray) :=
  call.outputs.map fun out => (out,shotsOf entries out)

theorem shotLists_nodup : ((shotLists call entries).map (·.1.stream)).Nodup := by
  simpa [shotLists,comp_def] using call.distinct

section
variable (h : BatchCall call turn n ret entries)
include h

theorem BatchCall.taken (rings : Rings) :
    ∀ o ∈ shotLists call entries, Takes stackDtype call.declared n o →
      publishBatch stackDtype call.declared (metadataRows call.declared values n) o rings =
        .ok (rings.append o.1.stream (framesOf call.declared values n o.2)) := by
  intro o ho htakes
  obtain ⟨out,hout,rfl⟩ := mem_map.1 ho
  have hfits := h.fits out hout
  have hlen := hfits.length_pos_le h.pos
  have hslots := h.inRange.trans (maxBatch_le hout)
  exact publish_batch_taken hfits.shaped (length_pos_iff.1 hlen.1) (by omega) htakes rings

theorem BatchCall.refused (rings : Rings) :
    ∀ o ∈ shotLists call entries, ¬ Takes stackDtype call.declared n o →
      ∃ exc, publishBatch stackDtype call.declared (metadataRows call.declared values n) o rings =
        .error exc := by
  intro o ho htakes
  obtain ⟨out,hout,rfl⟩ := mem_map.1 ho
  have hfits := h.fits out hout
  have hlen := hfits.length_pos_le h.pos
  have hslots := h.inRange.trans (maxBatch_le hout)
  exact publish_batch_refused hfits.shaped (length_pos_iff.1 hlen.1) (by omega) htakes rings

theorem BatchCall.rings (rings : Rings) :
    (streamCall stackDtype call turn rings).2 = fun s => rings s ++
      received (·.1.stream) (fun o => framesOf call.declared (ret.metadata.getD []) n o.2)
        ((shotLists call entries).takeWhile fun o => Takes stackDtype call.declared n o) s := by
  rw [streamCall_batch h]
  exact publishAll_rings (fun o ho ht rings => h.taken rings o ho ht) (fun o ho ht rings => h.refused rings o ho ht)
    rings

theorem BatchCall.raises (rings : Rings) : (streamCall stackDtype call turn rings).1 = none ↔
      ∀ o ∈ shotLists call entries, Takes stackDtype call.declared n o := by
  rw [streamCall_batch h]
  exact @publishAll_raises _ _ _ (fun o => framesOf call.declared (ret.metadata.getD []) n o.2) _ _ _
    (fun o ho ht rings => h.taken rings o ho ht) (fun o ho ht rings => h.refused rings o ho ht) rings

end

section
variable (h : BatchCall call turn n ret entries)
include h

theorem BatchCall.ring (rings : Rings) (hout : out ∈ call.outputs) :
    ∃ frames, (streamCall stackDtype call turn rings).2 out.stream = rings out.stream ++ frames ∧
      (frames = [] ∨ stackDtype out.dtype = out.dtype ∧ frames.length = (shotsOf entries out).length) := by
  rw [h.rings]
  refine ⟨_,rfl,?_⟩
  generalize hdone : (shotLists call entries).takeWhile (fun o => Takes stackDtype call.declared n o) = done
  have hsub : done.Sublist (shotLists call entries) := hdone ▸ takeWhile_sublist _
  by_cases hmem : (out,shotsOf entries out) ∈ done
  · right
    have htakes : Takes stackDtype call.declared n (out,shotsOf entries out) := by
      have := mem_takeWhile_imp (hdone ▸ hmem)
      simpa using this
    have hreceived := @received_of_mem _ _ (fun o => framesOf call.declared (ret.metadata.getD []) n o.2) _
      ((hsub.map _).nodup shotLists_nodup) _ hmem
    refine ⟨htakes.1,?_⟩
    exact (congrArg List.length hreceived).trans (framesOf_length _)
  · left
    refine received_of_not_mem fun hs => ?_
    obtain ⟨o,ho,hstream⟩ := mem_map.1 hs
    obtain ⟨out',hout',rfl⟩ := mem_map.1 (hsub.subset ho)
    obtain rfl : out' = out := inj_on_of_nodup_map call.distinct hout' hout hstream
    exact hmem ho

end

end

/-! A camera with two streams is asked for two shots, and returns one image for the first stream, and two
for the second. -/

end ExperimentControl.Driver

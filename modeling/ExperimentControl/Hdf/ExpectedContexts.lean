import Mathlib.Data.List.Infix
import ExperimentControl.Hdf.Values
import ExperimentControl.Lib.OrderedDict
import ExperimentControl.Lib.Runs

/-!
The log of the context ids that a stream is expected to have (`_append_expected_context_id`): a dataset
whose creation, resizing and assignment can fail, and the state in memory that says how much of it is
committed.
-/

namespace ExperimentControl.Hdf
open Lib OrderedDict List Option

/-- How an operation of the dataset ends; it can have its effect and raise. -/
inductive Effect where
  | returns
  | raises
  | raisesAfterwards
  deriving DecidableEq

structure ContextAttempt where
  contextId : Int
  group : Bool
  create : Effect
  readable : Bool
  grow : Effect
  assign : Effect
  rollback : Effect
  error : String
  rollbackError : String
  deriving DecidableEq

structure ContextIdLog where
  rows : Option (List Int)
  /-- The dataset is in `_expected_context_id_datasets`. -/
  attached : Bool
  seen : Option (List Int)
  committed : Option Nat
  failures : OrderedDict Int String

namespace ContextIdLog

def fresh : ContextIdLog := ⟨none,false,none,none,.empty⟩

def extent (l : ContextIdLog) : Nat := (l.rows.getD []).length

def resize (l : ContextIdLog) (n : Nat) : ContextIdLog :=
  { l with rows := l.rows.map fun rows => rows.take n ++ List.replicate (n-rows.length) 0 }

def assign (l : ContextIdLog) (n : Nat) (value : Int) : ContextIdLog :=
  { l with rows := l.rows.map fun rows => rows.set n value }

def perform (l : ContextIdLog) (effect : Effect) (error : String)
    (act : ContextIdLog → ContextIdLog) : ContextIdLog × Except String Unit :=
  match effect with
  | .returns => (act l,.ok ())
  | .raises => (l,.error error)
  | .raisesAfterwards => (act l,.error error)

def openDataset (l : ContextIdLog) (a : ContextAttempt) : ContextIdLog × Except String Unit :=
  if l.attached then (l,.ok ())
  else match l.rows with
    | none =>
      match l.perform a.create a.error fun l => { l with rows := some [] } with
      | (l,.ok _) => ({ l with attached := true,seen := some [],committed := some 0 },.ok ())
      | (l,.error e) => (l,.error e)
    | some rows =>
      if a.readable then
        ({ l with attached := true,seen := some rows,committed := some rows.length },.ok ())
      else (l,.error a.error)

def growTo (l : ContextIdLog) (committed : Nat) (a : ContextAttempt) :
    ContextIdLog × Except String Unit :=
  if l.extent < committed then (l,.error "expected_context_ids is shorter than committed state")
  else if l.extent < committed+1 then l.perform a.grow a.error fun l => l.resize (committed+1)
  else if committed+1 < l.extent then
    (l,.error "expected_context_ids has an uncommitted extra row")
  else (l,.ok ())

def store (l : ContextIdLog) (committed : Nat) (a : ContextAttempt) :
    ContextIdLog × Except String Unit :=
  if fitsInt64 a.contextId then
    l.perform a.assign a.error fun l => l.assign committed a.contextId
  else (l,.error "Python int too large to convert to C long")

/-- The body of the `try`. -/
def tryAppend (l : ContextIdLog) (a : ContextAttempt) : ContextIdLog × Except String Unit :=
  if !a.group then (l,.error "stream group is not initialized")
  else match l.openDataset a with
    | (l,.error e) => (l,.error e)
    | (l,.ok _) =>
      let seen := l.seen.getD []
      let l := { l with seen := some seen }
      if a.contextId ∈ seen then ({ l with failures := l.failures.erase a.contextId },.ok ())
      else
        let committed := l.committed.getD 0
        let l := { l with committed := some committed }
        match l.growTo committed a with
        | (l,.error e) => (l,.error e)
        | (l,.ok _) =>
          match l.store committed a with
          | (l,.error e) => (l,.error e)
          | (l,.ok _) =>
            ({ l with
              committed := some (committed+1)
              seen := some (seen ++ [a.contextId])
              failures := l.failures.erase a.contextId },.ok ())

def takeBack (l : ContextIdLog) (committed : Nat) (effect : Effect) (error : String) :
    ContextIdLog × Except String Unit :=
  if committed < l.extent then l.perform effect error fun l => l.resize committed
  else if l.extent < committed then
    (l,.error "expected_context_ids is shorter than committed state")
  else (l,.ok ())

def rollBack (l : ContextIdLog) (a : ContextAttempt) : ContextIdLog × Option String :=
  match l.committed with
  | none => (l,none)
  | some committed =>
    match l.takeBack committed a.rollback a.rollbackError with
    | (l,.ok _) => (l,none)
    | (l,.error e) => (l,some e)

/-- `_append_expected_context_id` -/
def append (l : ContextIdLog) (a : ContextAttempt) : ContextIdLog × Except String Unit :=
  match l.tryAppend a with
  | (l,.ok _) => (l,.ok ())
  | (l,.error e) =>
    let (l,rollbackError) := l.rollBack a
    let message := match rollbackError with
      | none => e
      | some e' => e ++ "; rollback failed: " ++ e'
    ({ l with failures := l.failures.set a.contextId message },.error e)

def appendAll : ContextIdLog → List ContextAttempt → ContextIdLog × List (Int × Bool)
  | l,[] => (l,[])
  | l,a :: rest =>
    let (l,result) := l.append a
    let (l,results) := l.appendAll rest
    (l,(a.contextId,result.isOk) :: results)

/-- `_finalize_expected_context_id_append_failures`: the tail is taken back, and what could not be
persisted is reported. -/
def finalize (l : ContextIdLog) (rollback : Effect) (error : String) :
    ContextIdLog × List (Int × String) :=
  let l := match l.committed with
    | none => l
    | some committed =>
      match l.takeBack committed rollback error with
      | (l,.ok _) => l
      | (l,.error e) =>
        let note := s!"finalization cleanup failed: {e}"
        { l with failures := l.failures.mapValues fun _ message =>
          if note.toList <:+: message.toList then message else s!"{message}; {note}" }
  (l,(l.failures.entries.mergeSort fun x y => x.1 ≤ y.1).map fun (id,message) =>
    (id,s!"failed to persist expected context ID: {message}"))

end ContextIdLog

def succeeded (results : List (Int × Bool)) : List Int :=
  results.foldl (fun ids r => if r.2 && r.1 ∉ ids then ids ++ [r.1] else ids) []

def LastFailed (results : List (Int × Bool)) (id : Int) : Prop :=
  (results.filter fun r => r.1 = id).getLast? = some (id,false)

namespace ContextIdLog

/-- The dataset is open and holds these ids, and at most one row that is not committed. -/
structure Opened (l : ContextIdLog) (ids : List Int) : Prop where
  attached : l.attached = true
  rows : ∃ extra, l.rows = some (ids ++ extra) ∧ extra.length ≤ 1
  committed : l.committed = some ids.length
  seen : ∃ seen, l.seen = some seen ∧ ∀ id, id ∈ seen ↔ id ∈ ids

/-- The log holds these ids: none before the dataset was opened. -/
inductive Holds (l : ContextIdLog) : List Int → Prop
  | closed : l.attached = false → l.rows.getD [] = [] → l.committed = none → Holds l []
  | opened {ids : List Int} : l.Opened ids → Holds l ids

variable {l : ContextIdLog} {ids : List Int}

theorem Opened.extent (h : l.Opened ids) : l.extent = ids.length ∨ l.extent = ids.length+1 := by
  obtain ⟨extra,hrows,hextra⟩ := h.rows
  simp only [ContextIdLog.extent,hrows,getD_some,length_append]
  omega

theorem Opened.congr {l l' : ContextIdLog} (h : l.Opened ids)
    (hattached : l'.attached = l.attached) (hcommitted : l'.committed = l.committed)
    (hseen : l'.seen = l.seen) (hrows : ∃ extra, l'.rows = some (ids ++ extra) ∧ extra.length ≤ 1) :
    l'.Opened ids :=
  ⟨hattached.trans h.attached,hrows,hcommitted.trans h.committed,hseen ▸ h.seen⟩

theorem Opened.perform (h : l.Opened ids)
    (act : ContextIdLog → ContextIdLog) (hact : (act l).Opened ids)
    (hfailures : (act l).failures = l.failures) (effect : Effect) (error : String) :
    (l.perform effect error act).1.Opened ids ∧
      (l.perform effect error act).1.failures = l.failures ∧
      ((l.perform effect error act).2 = .ok () → (l.perform effect error act).1 = act l) := by
  cases effect with
  | returns => exact ⟨hact,hfailures,fun _ => rfl⟩
  | raises => exact ⟨h,rfl,fun h => by cases h⟩
  | raisesAfterwards => exact ⟨hact,hfailures,fun h => by cases h⟩

theorem Opened.growTo (h : l.Opened ids) (a : ContextAttempt) :
    (l.growTo ids.length a).1.Opened ids ∧ (l.growTo ids.length a).1.failures = l.failures ∧
      ((l.growTo ids.length a).2 = .ok () →
        ∃ last, (l.growTo ids.length a).1.rows = some (ids ++ [last])) := by
  obtain ⟨extra,hrows,hextra⟩ := h.rows
  have hextent : l.extent = ids.length+extra.length := by simp [ContextIdLog.extent,hrows]
  unfold ContextIdLog.growTo
  rw [if_neg (by omega)]
  by_cases hshort : l.extent < ids.length+1
  · rw [if_pos hshort]
    have hnone : extra = [] := length_eq_zero_iff.1 (by omega)
    have hgrown : (l.resize (ids.length+1)).rows = some (ids ++ [0]) := by
      simp [ContextIdLog.resize,hrows,hnone,take_of_length_le]
    have hact : (l.resize (ids.length+1)).Opened ids := h.congr rfl rfl rfl ⟨[0],hgrown,by simp⟩
    obtain ⟨hopened,hfailures,hreturns⟩ := h.perform (·.resize (ids.length+1)) hact rfl a.grow a.error
    exact ⟨hopened,hfailures,fun hok => ⟨0,by rw [hreturns hok,hgrown]⟩⟩
  · rw [if_neg hshort,if_neg (by omega)]
    refine ⟨h,rfl,fun _ => ?_⟩
    obtain ⟨last,hlast⟩ := length_eq_one_iff.1 (show extra.length = 1 by omega)
    exact ⟨last,hlast ▸ hrows⟩

theorem Opened.store (h : l.Opened ids) {last : Int}
    (hrows : l.rows = some (ids ++ [last])) (a : ContextAttempt) :
    (l.store ids.length a).1.Opened ids ∧ (l.store ids.length a).1.failures = l.failures ∧
      ((l.store ids.length a).2 = .ok () →
        (l.store ids.length a).1.rows = some (ids ++ [a.contextId])) := by
  unfold ContextIdLog.store
  split
  · have hset : (l.assign ids.length a.contextId).rows = some (ids ++ [a.contextId]) := by
      simp [ContextIdLog.assign,hrows]
    have hact : (l.assign ids.length a.contextId).Opened ids :=
      h.congr rfl rfl rfl ⟨[a.contextId],hset,by simp⟩
    obtain ⟨hopened,hfailures,hreturns⟩ := h.perform (·.assign ids.length a.contextId) hact rfl a.assign a.error
    exact ⟨hopened,hfailures,fun hok => by rw [hreturns hok,hset]⟩
  · exact ⟨h,rfl,fun h => by cases h⟩

theorem Holds.openDataset (h : l.Holds ids) (a : ContextAttempt) :
    (l.openDataset a).1.Holds ids ∧ (l.openDataset a).1.failures = l.failures ∧
      ((l.openDataset a).2 = .ok () → (l.openDataset a).1.Opened ids) := by
  unfold ContextIdLog.openDataset
  cases h with
  | opened hopened =>
    rw [if_pos hopened.attached]
    exact ⟨.opened hopened,rfl,fun _ => hopened⟩
  | closed hattached hempty hcommitted =>
    rw [if_neg (by simp [hattached])]
    cases hrows : l.rows with
    | none =>
      cases hcreate : a.create with
      | returns =>
        have hopened : ContextIdLog.Opened { l with
            rows := some [],attached := true,seen := some [],committed := some 0 } [] :=
          ⟨rfl,⟨[],rfl,by simp⟩,rfl,⟨[],rfl,fun _ => Iff.rfl⟩⟩
        exact ⟨.opened hopened,rfl,fun _ => hopened⟩
      | raises => exact ⟨.closed hattached hempty hcommitted,rfl,fun h => by cases h⟩
      | raisesAfterwards => exact ⟨.closed hattached rfl hcommitted,rfl,fun h => by cases h⟩
    | some rows =>
      have hnil : rows = [] := by simpa [hrows] using hempty
      subst hnil
      dsimp only
      split
      · have hopened : ContextIdLog.Opened { l with
            rows := some [],attached := true,seen := some [],committed := some 0 } [] :=
          ⟨rfl,⟨[],rfl,by simp⟩,rfl,⟨[],rfl,fun _ => Iff.rfl⟩⟩
        exact ⟨.opened hopened,rfl,fun _ => hopened⟩
      · exact ⟨.closed hattached hempty hcommitted,rfl,fun h => by cases h⟩

theorem Holds.withFailures (h : l.Holds ids)
    (failures : OrderedDict Int String) : { l with failures := failures }.Holds ids := by
  cases h with
  | closed hattached hempty hcommitted => exact .closed hattached hempty hcommitted
  | opened hopened => exact .opened ⟨hopened.attached,hopened.rows,hopened.committed,hopened.seen⟩

theorem Opened.commit {ids seen : List Int} (h : l.Opened ids) (id : Int)
    (hrows : l.rows = some (ids ++ [id])) (hseen : ∀ i, i ∈ seen ↔ i ∈ ids) :
    { l with committed := some (ids.length+1),seen := some (seen ++ [id]) }.Opened (ids ++ [id]) where
  attached := h.attached
  rows := ⟨[],by simpa using hrows,by simp⟩
  committed := by simp
  seen := ⟨seen ++ [id],rfl,fun i => by simp [hseen i]⟩

theorem Holds.tryAppend (h : l.Holds ids) (a : ContextAttempt) :
    (∀ e, (l.tryAppend a).2 = .error e →
      (l.tryAppend a).1.Holds ids ∧ (l.tryAppend a).1.failures = l.failures) ∧
    ((l.tryAppend a).2 = .ok () →
      (l.tryAppend a).1.Holds (if a.contextId ∈ ids then ids else ids ++ [a.contextId]) ∧
        (l.tryAppend a).1.failures = l.failures.erase a.contextId) := by
  unfold ContextIdLog.tryAppend
  split
  · exact ⟨fun _ _ => ⟨h,rfl⟩,fun h => by cases h⟩
  obtain ⟨hkept,hfailures,hopens⟩ := h.openDataset a
  rcases hopen : l.openDataset a with ⟨l₁,e | _⟩ <;> rw [hopen] at hkept hfailures hopens
  · exact ⟨fun _ _ => ⟨hkept,hfailures⟩,fun h => by cases h⟩
  have hopened : l₁.Opened ids := hopens rfl
  obtain ⟨seen,hseen,hmem⟩ := hopened.seen
  have hsame : { l₁ with seen := some seen,committed := some ids.length } = l₁ := by
    rw [← hseen,← hopened.committed]
  simp only [hseen,getD_some,hmem,hopened.committed,hsame]
  by_cases hknown : a.contextId ∈ ids
  · simp only [if_pos hknown]
    refine ⟨fun _ h => (by cases h),fun _ => ⟨?_,congrArg (·.erase a.contextId) hfailures⟩⟩
    exact .opened (hopened.congr rfl hopened.committed.symm hseen.symm hopened.rows)
  simp only [if_neg hknown]
  obtain ⟨hopened₂,hfailures₂,hgrown⟩ := hopened.growTo a
  rcases hgrow : l₁.growTo ids.length a with ⟨l₂,e | _⟩ <;> rw [hgrow] at hopened₂ hfailures₂ hgrown
  · exact ⟨fun _ _ => ⟨.opened hopened₂,hfailures₂.trans hfailures⟩,fun h => by cases h⟩
  dsimp only at *
  obtain ⟨last,hlast⟩ := hgrown rfl
  obtain ⟨hopened₃,hfailures₃,hstored⟩ := hopened₂.store hlast a
  rcases hstore : l₂.store ids.length a with ⟨l₃,e | _⟩ <;> rw [hstore] at hopened₃ hfailures₃ hstored
  · exact ⟨fun _ _ => ⟨.opened hopened₃,hfailures₃.trans (hfailures₂.trans hfailures)⟩,
      fun h => by cases h⟩
  · refine ⟨fun _ h => (by cases h),fun _ => ⟨?_,?_⟩⟩
    · exact (Holds.opened (hopened₃.commit a.contextId (hstored rfl) hmem)).withFailures _
    · exact congrArg (·.erase a.contextId) (hfailures₃.trans (hfailures₂.trans hfailures))

theorem Opened.takeBack (h : l.Opened ids) (effect : Effect)
    (error : String) : (l.takeBack ids.length effect error).1.Opened ids := by
  obtain ⟨extra,hrows,hextra⟩ := h.rows
  unfold ContextIdLog.takeBack
  split
  · have hshrunk : (l.resize ids.length).rows = some (ids ++ []) := by
      simp [ContextIdLog.resize,hrows]
    have hact : (l.resize ids.length).Opened ids := h.congr rfl rfl rfl ⟨[],hshrunk,by simp⟩
    exact (h.perform (·.resize ids.length) hact rfl effect error).1
  · split
    · exact h
    · exact h

theorem failures_takeBack (l : ContextIdLog) (committed : Nat) (effect : Effect) (error : String) :
    (l.takeBack committed effect error).1.failures = l.failures := by
  unfold ContextIdLog.takeBack
  split
  · cases effect with
    | returns => rfl
    | raises => rfl
    | raisesAfterwards => rfl
  · split
    · rfl
    · rfl

theorem Holds.rollBack (h : l.Holds ids) (a : ContextAttempt) :
    (l.rollBack a).1.Holds ids ∧ (l.rollBack a).1.failures = l.failures := by
  unfold ContextIdLog.rollBack
  cases h with
  | closed hattached hempty hcommitted =>
    rw [hcommitted]
    exact ⟨.closed hattached hempty hcommitted,rfl⟩
  | opened hopened =>
    have hkept := hopened.takeBack a.rollback a.rollbackError
    have hfailures := l.failures_takeBack ids.length a.rollback a.rollbackError
    rw [hopened.committed]
    rcases hl : l.takeBack ids.length a.rollback a.rollbackError with ⟨l',result⟩
    rw [hl] at hkept hfailures
    simp only [hl]
    cases result with
    | ok _ => exact ⟨.opened hkept,hfailures⟩
    | error e => exact ⟨.opened hkept,hfailures⟩

theorem Holds.append (h : l.Holds ids) (a : ContextAttempt) : (l.append a).1.Holds
      (if (l.append a).2.isOk && a.contextId ∉ ids then ids ++ [a.contextId] else ids) ∧
    ((l.append a).2.isOk = true → (l.append a).1.failures = l.failures.erase a.contextId) ∧
    ((l.append a).2.isOk = false →
      ∃ message, (l.append a).1.failures = l.failures.set a.contextId message) := by
  obtain ⟨hfail,hok⟩ := h.tryAppend a
  unfold ContextIdLog.append
  rcases htry : l.tryAppend a with ⟨l',e | _⟩ <;> rw [htry] at hfail hok
  · obtain ⟨hholds,hfailures⟩ := hfail e rfl
    obtain ⟨hback,hsame⟩ := hholds.rollBack a
    refine ⟨by simpa [Except.isOk,Except.toBool] using hback.withFailures _,
      by simp [Except.isOk,Except.toBool],fun _ => ?_⟩
    exact ⟨_,congrArg₂ (OrderedDict.set · a.contextId ·) (hsame.trans hfailures) rfl⟩
  · obtain ⟨hholds,hfailures⟩ := hok rfl
    refine ⟨?_,fun _ => hfailures,by simp [Except.isOk,Except.toBool]⟩
    by_cases hmem : a.contextId ∈ ids
    · simpa [hmem] using hholds
    · simpa [hmem,Except.isOk,Except.toBool] using hholds

end ContextIdLog

theorem succeeded_append (results : List (Int × Bool)) (id : Int) (ok : Bool) :
    succeeded (results ++ [(id,ok)]) =
      if ok && id ∉ succeeded results then succeeded results ++ [id] else succeeded results := by
  simp only [succeeded,foldl_append,foldl_cons,foldl_nil]
  rfl

theorem LastFailed.append_iff (results : List (Int × Bool)) (id id' : Int) (ok : Bool) :
    LastFailed (results ++ [(id,ok)]) id' ↔ if id = id' then ok = false else LastFailed results id' := by
  by_cases h : id = id'
  · subst h
    simp [LastFailed]
  · simp [LastFailed,h]

namespace ContextIdLog

structure Records (l : ContextIdLog) (results : List (Int × Bool)) : Prop where
  holds : l.Holds (succeeded results)
  failures : ∀ id, (l.failures.get? id).isSome ↔ LastFailed results id

theorem Records.fresh : ContextIdLog.fresh.Records [] where
  holds := .closed rfl rfl rfl
  failures id := by simp [ContextIdLog.fresh,LastFailed]

variable {l : ContextIdLog} {results : List (Int × Bool)}

theorem Records.append (h : l.Records results)
    (a : ContextAttempt) : (l.append a).1.Records (results ++ [(a.contextId,(l.append a).2.isOk)]) := by
  obtain ⟨hholds,hcleared,hnoted⟩ := h.holds.append a
  refine ⟨by rw [succeeded_append]; exact hholds,fun id => ?_⟩
  rw [LastFailed.append_iff]
  cases hok : (l.append a).2.isOk with
  | true =>
    rw [hcleared hok,get?_erase_eq]
    by_cases hid : a.contextId = id
    · simp [hid]
    · rw [if_neg (Ne.symm hid),if_neg hid]
      exact h.failures id
  | false =>
    obtain ⟨message,hset⟩ := hnoted hok
    rw [hset,get?_set]
    by_cases hid : a.contextId = id
    · simp [hid]
    · rw [if_neg (Ne.symm hid),if_neg hid]
      exact h.failures id

theorem Records.appendAll (h : l.Records results) (attempts : List ContextAttempt) :
    (l.appendAll attempts).1.Records (results ++ (l.appendAll attempts).2) := by
  induction attempts generalizing l results with
  | nil => simpa [ContextIdLog.appendAll] using h
  | cons a rest ih =>
    have hrest := ih (h.append a)
    rwa [append_assoc] at hrest

variable {a : ContextAttempt}

theorem openDataset_returns (l : ContextIdLog) (hcreate : a.create = .returns)
    (hreadable : a.readable = true) : (l.openDataset a).2 = .ok () := by
  unfold ContextIdLog.openDataset
  split
  · rfl
  · split
    · simp [ContextIdLog.perform,hcreate]
    · rfl

variable {ids : List Int}

theorem Opened.growTo_returns (h : l.Opened ids)
    (hgrow : a.grow = .returns) : (l.growTo ids.length a).2 = .ok () := by
  have hextent := h.extent
  unfold ContextIdLog.growTo
  rw [if_neg (by omega)]
  split
  · simp [ContextIdLog.perform,hgrow]
  · rw [if_neg (by omega)]

theorem store_returns (l : ContextIdLog) (committed : Nat)
    (hassign : a.assign = .returns) (hfits : fitsInt64 a.contextId) :
    (l.store committed a).2 = .ok () := by
  rw [ContextIdLog.store,if_pos hfits]
  simp [ContextIdLog.perform,hassign]

theorem Holds.append_returns (h : l.Holds ids)
    (hgroup : a.group = true) (hcreate : a.create = .returns) (hreadable : a.readable = true)
    (hgrow : a.grow = .returns) (hassign : a.assign = .returns) (hfits : fitsInt64 a.contextId) :
    (l.append a).2 = .ok () := by
  have htry : (l.tryAppend a).2 = .ok () := by
    have hopen := l.openDataset_returns hcreate hreadable
    obtain ⟨-,-,hopens⟩ := h.openDataset a
    rcases hl : l.openDataset a with ⟨l₁,result⟩
    rw [hl] at hopen hopens
    obtain rfl : result = .ok () := hopen
    have hopened : l₁.Opened ids := hopens rfl
    obtain ⟨seen,hseen,-⟩ := hopened.seen
    have hsame : { l₁ with seen := some seen,committed := some ids.length } = l₁ := by
      rw [← hseen,← hopened.committed]
    simp only [ContextIdLog.tryAppend,hgroup,hl,hseen,hopened.committed,getD_some,hsame,
      Bool.not_true,Bool.false_eq_true,if_false]
    split
    · rfl
    have hgrows := hopened.growTo_returns hgrow
    rcases hl₂ : l₁.growTo ids.length a with ⟨l₂,result⟩
    rw [hl₂] at hgrows
    obtain rfl : result = .ok () := hgrows
    have hstores := l₂.store_returns ids.length hassign hfits
    rcases hl₃ : l₂.store ids.length a with ⟨l₃,result⟩
    rw [hl₃] at hstores
    obtain rfl : result = .ok () := hstores
    simp only [hl₃]
  unfold ContextIdLog.append
  split
  · rfl
  · rename_i heq
    rw [heq] at htry
    cases htry

theorem Holds.committed (h : l.Holds ids) : (l.rows.getD []).take (l.committed.getD 0) = ids ∧
      (l.extent = l.committed.getD 0 ∨ l.extent = l.committed.getD 0+1) := by
  cases h with
  | closed hattached hempty hcommitted => simp [ContextIdLog.extent,hempty,hcommitted]
  | opened hopened =>
    obtain ⟨extra,hrows,-⟩ := hopened.rows
    refine ⟨?_,by simpa [hopened.committed] using hopened.extent⟩
    simp [hrows,hopened.committed]

theorem Records.finalize (h : l.Records results) (rollback : Effect) (error : String) (id : Int) :
    id ∈ (l.finalize rollback error).2.map Prod.fst ↔ LastFailed results id := by
  have hreported : ∀ d : OrderedDict Int String,
      id ∈ ((d.entries.mergeSort fun x y => x.1 ≤ y.1).map fun (id,message) =>
        (id,s!"failed to persist expected context ID: {message}")).map Prod.fst ↔
        (d.get? id).isSome := by
    intro d
    rw [← not_iff_not,Bool.not_eq_true,isSome_eq_false_iff,isNone_iff_eq_none,get?_eq_none_iff]
    simp [OrderedDict.keys]
  unfold ContextIdLog.finalize
  rw [hreported,← h.failures id]
  cases hcommitted : l.committed with
  | none => rfl
  | some committed =>
    have hfailures := l.failures_takeBack committed rollback error
    rcases hl : l.takeBack committed rollback error with ⟨l',result⟩
    rw [hl] at hfailures
    simp only [hl]
    cases result with
    | ok _ => exact congrArg (fun d => (d.get? id).isSome = true) hfailures |>.to_iff
    | error e => simp [← hfailures]

/-- After any calls the committed rows are the ids whose call returned, a call whose operations return
does so too, and the failures are those whose last call failed. -/
theorem appendAll_records (attempts : List ContextAttempt) :
    let (l,results) := fresh.appendAll attempts
    (l.rows.getD []).take (l.committed.getD 0) = succeeded results ∧
      (l.extent = l.committed.getD 0 ∨ l.extent = l.committed.getD 0+1) ∧
      (∀ a : ContextAttempt, a.group = true → a.create = .returns → a.readable = true →
        a.grow = .returns → a.assign = .returns → fitsInt64 a.contextId → (l.append a).2 = .ok ()) ∧
      ∀ id, ((l.failures.get? id).isSome ↔ LastFailed results id) ∧
        ∀ rollback error,
          id ∈ (l.finalize rollback error).2.map Prod.fst ↔ LastFailed results id := by
  have h : (fresh.appendAll attempts).1.Records (fresh.appendAll attempts).2 := by
    simpa using Records.fresh.appendAll attempts
  obtain ⟨hrows,hextent⟩ := h.holds.committed
  exact ⟨hrows,hextent,fun a hgroup hcreate hreadable hgrow hassign hfits =>
    h.holds.append_returns hgroup hcreate hreadable hgrow hassign hfits,
    fun id => ⟨h.failures id,fun rollback error => h.finalize rollback error id⟩⟩

theorem append_tooLarge :
    let a : ContextAttempt := ⟨2^63,true,.returns,true,.returns,.returns,.returns,"",""⟩
    (fresh.appendAll [a]).2 = [(2^63,false)] ∧
      (((fresh.appendAll [a]).1).append a).2.isOk = false := by
  decide

end ContextIdLog

end ExperimentControl.Hdf

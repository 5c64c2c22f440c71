import Mathlib.Algebra.Order.Field.Rat
import Mathlib.Data.List.Flatten
import Mathlib.Data.List.Perm.Subperm
import Mathlib.Data.List.Sort
import Mathlib.Data.String.Basic

/-!
The rotating log files of `RotatingJsonlSink` (`utils/rotating_jsonl.py`): size and day rotation, what
retention deletes, and when the files read in name order give the records in the order of writing.
The directory holds the files of the sink and of its legacy names.
-/

namespace ExperimentControl.Logs
open List String

inductive LogPath where
  | shard (utcDay : String) (number : Nat)
  | legacy (name : String)
  deriving DecidableEq

structure LogFile (ρ : Type) where
  path : LogPath
  records : List ρ
  mtime : ℚ

structure SinkConfig where
  namePrefix : String := "manager"
  maxBytes : Int := 100*1024*1024
  maxAgeDays : Option ℚ := some 30
  maxTotalBytes : Option Int := some (5*1024*1024*1024)

def SinkConfig.limit (cfg : SinkConfig) : Nat := (max 1 cfg.maxBytes).toNat

/-- What a call finds: the UTC day in ISO format, the time, and the files that can be unlinked. -/
structure Moment where
  utcDay : String
  now : ℚ
  unlinks : LogPath → Bool

/-- `f"{shard:03d}"` -/
def threeDigits (n : Nat) : String :=
  if n < 1000 then
    String.ofList [Nat.digitChar (n/100),Nat.digitChar (n/10%10),Nat.digitChar (n%10)]
  else toString n

def LogPath.name (cfg : SinkConfig) : LogPath → String
  | .shard utcDay number =>
    cfg.namePrefix ++ ("-" ++ (utcDay ++ ("-" ++ (threeDigits number ++ ".jsonl"))))
  | .legacy name => name

def LogPath.Before : LogPath → LogPath → Prop
  | .shard day n,.shard day' n' => day < day' ∨ day = day' ∧ n < n'
  | _,_ => False

theorem LogPath.Before.asymm {p q : LogPath} (h : p.Before q) : ¬ q.Before p := by
  cases p with
  | legacy _ => exact h.elim
  | shard d n =>
    cases q with
    | legacy _ => exact h.elim
    | shard d' n' =>
      rintro (hback | ⟨rfl,hback⟩)
      · rcases h with h | ⟨rfl,-⟩
        · exact lt_asymm h hback
        · exact lt_irrefl _ hback
      · rcases h with h | ⟨-,h⟩
        · exact lt_irrefl _ h
        · exact lt_asymm h hback

def LogPath.isShard : LogPath → Bool
  | .shard _ _ => true
  | .legacy _ => false

theorem append_lt_append {a b : List Char} (x y : List Char) (hlength : a.length = b.length)
    (h : a < b) : a ++ x < b ++ y := by
  induction a generalizing b with
  | nil =>
    rw [length_eq_zero_iff.1 hlength.symm] at h
    exact absurd h (lt_irrefl _)
  | cons c a ih =>
    cases b with
    | nil => cases hlength
    | cons c' b =>
      rw [cons_append,cons_append,cons_lt_cons_iff]
      rcases cons_lt_cons_iff.1 h with hc | ⟨hc,hrest⟩
      · exact .inl hc
      · exact .inr ⟨hc,ih (by simpa using hlength) hrest⟩

theorem digitChar_lt : ∀ a < 10, ∀ b < 10, a < b → Nat.digitChar a < Nat.digitChar b := by decide

theorem threeDigits_lt {m n : Nat} (h : m < n) (hn : n < 1000) :
    (threeDigits m).toList.length = (threeDigits n).toList.length ∧
    (threeDigits m).toList < (threeDigits n).toList := by
  have hm := h.trans hn
  unfold threeDigits
  rw [if_pos hn,if_pos hm,toList_ofList,toList_ofList]
  refine ⟨rfl,?_⟩
  simp only [cons_lt_cons_iff]
  by_cases hhundreds : m/100 = n/100
  · refine .inr ⟨by rw [hhundreds],?_⟩
    by_cases htens : m/10%10 = n/10%10
    · exact .inr ⟨by rw [htens],.inl (digitChar_lt _ (by omega) _ (by omega) (by omega))⟩
    · exact .inl (digitChar_lt _ (by omega) _ (by omega) (by omega))
  · exact .inl (digitChar_lt _ (by omega) _ (by omega) (by omega))

theorem name_lt_name (cfg : SinkConfig) {day day' : String} {n n' : Nat}
    (hdays : day.length = day'.length) (hn' : n' < 1000)
    (h : (LogPath.shard day n).Before (.shard day' n')) :
    (LogPath.shard day n).name cfg < (LogPath.shard day' n').name cfg := by
  simp only [LogPath.name,lt_iff,toList_append]
  refine append_left_lt (append_left_lt ?_)
  rcases h with h | ⟨rfl,h⟩
  · exact append_lt_append _ _ (by rwa [length_toList,length_toList]) (lt_iff.1 h)
  · obtain ⟨hlength,hlt⟩ := threeDigits_lt h hn'
    exact append_left_lt (append_left_lt (append_lt_append _ _ hlength hlt))

section
variable {ρ : Type} (encoded : ρ → Nat)

def LogFile.size (f : LogFile ρ) : Nat := (f.records.map fun r => encoded r+1).sum

def pathExists (files : List (LogFile ρ)) (path : LogPath) : Bool := files.any fun f => f.path = path

/-- `while path.exists(): shard += 1`; one more turn than there are files is never needed. -/
def firstMissing (files : List (LogFile ρ)) (day : String) : Nat → Nat → Nat
  | 0,shard => shard
  | turns+1,shard =>
    if pathExists files (.shard day shard) then firstMissing files day turns (shard+1) else shard

def shardFor (cfg : SinkConfig) (files : List (LogFile ρ)) (day : String) (forceNew : Bool) : Nat :=
  let shard := firstMissing files day files.length 0-1
  let full := files.any fun f => f.path = .shard day shard && cfg.limit ≤ f.size encoded
  if forceNew || full then firstMissing files day files.length (shard+1) else shard

structure Sink (ρ : Type) where
  files : List (LogFile ρ)
  utcDay : String
  shard : Nat
  /-- The handle is open. -/
  handle : Bool

def Sink.path (s : Sink ρ) : LogPath := .shard s.utcDay s.shard

def openForDay (cfg : SinkConfig) (m : Moment) (files : List (LogFile ρ)) (forceNew : Bool) : Sink ρ :=
  let path := LogPath.shard m.utcDay (shardFor encoded cfg files m.utcDay forceNew)
  ⟨if pathExists files path then files else files ++ [⟨path,[],m.now⟩],m.utcDay,
    shardFor encoded cfg files m.utcDay forceNew,true⟩

/-- The files that go for the limit on the total size, of files in the order of their age. -/
def unlinkOldest (active : LogPath) (unlinks : LogPath → Bool) (limit : Int) :
    Int → List (LogFile ρ) → List LogPath
  | _,[] => []
  | total,f :: rest =>
    if total ≤ limit then []
    else if f.path = active ∨ !unlinks f.path then unlinkOldest active unlinks limit total rest
    else f.path :: unlinkOldest active unlinks limit (total-f.size encoded) rest

def expires (cfg : SinkConfig) (m : Moment) (active : LogPath) (f : LogFile ρ) : Bool :=
  cfg.maxAgeDays.any fun days =>
    f.path ≠ active && f.mtime < m.now-days*86400 && m.unlinks f.path

def applyRetention (cfg : SinkConfig) (m : Moment) (active : LogPath) (files : List (LogFile ρ)) :
    List (LogFile ρ) :=
  let files := files.filter fun f => !expires cfg m active f
  match cfg.maxTotalBytes with
  | none => files
  | some limit =>
    let oldest := files.insertionSort fun f g =>
      f.mtime < g.mtime ∨ f.mtime = g.mtime ∧ f.path.name cfg ≤ g.path.name cfg
    let gone := unlinkOldest encoded active m.unlinks limit (files.map (LogFile.size encoded)).sum oldest
    files.filter fun f => f.path ∉ gone

namespace Sink

def retained (cfg : SinkConfig) (m : Moment) (s : Sink ρ) : Sink ρ :=
  { s with files := applyRetention encoded cfg m s.path s.files }

/-- `__init__` -/
def construct (cfg : SinkConfig) (m : Moment) (files : List (LogFile ρ)) : Sink ρ :=
  (openForDay encoded cfg m files false).retained encoded cfg m

def rotate (cfg : SinkConfig) (m : Moment) (s : Sink ρ) : Sink ρ :=
  (openForDay encoded cfg m s.files (m.utcDay = s.utcDay)).retained encoded cfg m

def wouldExceedSize (cfg : SinkConfig) (s : Sink ρ) (encodedSize : Nat) : Bool :=
  s.files.any fun f => f.path = s.path && 0 < f.size encoded &&
    cfg.limit < f.size encoded+encodedSize

def append (m : Moment) (s : Sink ρ) (record : ρ) : Sink ρ :=
  { s with files := s.files.map fun f =>
      if f.path = s.path then { f with records := f.records ++ [record],mtime := m.now } else f }

/-- A closed sink raises and writes nothing. -/
def write (cfg : SinkConfig) (m : Moment) (s : Sink ρ) (record : ρ) : Sink ρ :=
  let s := if m.utcDay ≠ s.utcDay || s.wouldExceedSize encoded cfg (encoded record+1) then
    s.rotate encoded cfg m else s
  if s.handle then s.append m record else s

end Sink

inductive SinkCall (ρ : Type) where
  | write (record : ρ)
  | close
  /-- Another sink on the same directory, after this one has gone. -/
  | restart

def SinkCall.perform (cfg : SinkConfig) (m : Moment) (s : Sink ρ) : SinkCall ρ → Sink ρ
  | .write record => s.write encoded cfg m record
  | .close => { s with handle := false }
  | .restart => .construct encoded cfg m s.files

def SinkCall.records : SinkCall ρ → List ρ
  | .write record => [record]
  | .close | .restart => []

def own (files : List (LogFile ρ)) : List (LogFile ρ) := files.filter (·.path.isShard)

/-- A run on a directory that begins with files of legacy names only, with the records that were to be
written; every call meets the condition. -/
inductive SinkRun (cfg : SinkConfig) (Meets : Moment → Sink ρ → SinkCall ρ → Prop) :
    Sink ρ → List ρ → Prop
  | start {files : List (LogFile ρ)} (hfiles : own files = []) {m : Moment} (hday : m.utcDay.length = 10) :
    SinkRun cfg Meets (.construct encoded cfg m files) []
  | call {s : Sink ρ} {written : List ρ} (h : SinkRun cfg Meets s written) {m : Moment}
    (hday : m.utcDay.length = 10) (hforward : s.utcDay ≤ m.utcDay) {call : SinkCall ρ}
    (hmeets : Meets m s call) :
    SinkRun cfg Meets (call.perform encoded cfg m s) (written ++ call.records)

/-- No shard of the day is missing below another one. -/
def NoGap (files : List (LogFile ρ)) (day : String) (low : Nat) : Prop :=
  ∀ j, pathExists files (.shard day j) = true → ∀ i, low ≤ i → i < j →
    pathExists files (.shard day i) = true

/-- Where a call opens a file among those of its day, none of them is missing. -/
def OpensNext (cfg : SinkConfig) (m : Moment) (s : Sink ρ) : SinkCall ρ → Prop
  | .write record => m.utcDay = s.utcDay → s.wouldExceedSize encoded cfg (encoded record+1) = true →
    NoGap s.files m.utcDay 1
  | .close => True
  | .restart => NoGap s.files m.utcDay 0

def readInNameOrder (cfg : SinkConfig) (files : List (LogFile ρ)) : List ρ :=
  ((own files).insertionSort fun f g => f.path.name cfg ≤ g.path.name cfg).flatMap LogFile.records

end

section
variable {ρ : Type} {encoded : ρ → Nat} {cfg : SinkConfig}

variable {files : List (LogFile ρ)}

theorem pathExists_iff {path : LogPath} :
    pathExists files path = true ↔ ∃ f ∈ files, f.path = path := by
  simp [pathExists]

theorem exists_missing (files : List (LogFile ρ)) (day : String) (shard : Nat) :
    ∃ i ≤ files.length, pathExists files (.shard day (shard+i)) = false := by
  by_contra hnone
  have hall : ∀ i ≤ files.length, pathExists files (.shard day (shard+i)) = true := fun i hi =>
    Bool.eq_true_of_not_eq_false fun h => hnone ⟨i,hi,h⟩
  have hnodup : ((List.range (files.length+1)).map fun i => LogPath.shard day (shard+i)).Nodup :=
    Nodup.map (fun i j h => by simpa using h) nodup_range
  have hsub : ((List.range (files.length+1)).map fun i => LogPath.shard day (shard+i)) ⊆
      files.map LogFile.path := by
    intro p hp
    obtain ⟨i,hi,rfl⟩ := mem_map.1 hp
    obtain ⟨f,hf,hpath⟩ := pathExists_iff.1 (hall i (Nat.le_of_lt_succ (mem_range.1 hi)))
    exact mem_map.2 ⟨f,hf,hpath⟩
  have hle := (hnodup.subperm hsub).length_le
  simp at hle

theorem firstMissing_spec (files : List (LogFile ρ)) (day : String) (shard : Nat) :
    shard ≤ firstMissing files day files.length shard ∧
    (∀ j, shard ≤ j → j < firstMissing files day files.length shard →
      pathExists files (.shard day j) = true) ∧
    pathExists files (.shard day (firstMissing files day files.length shard)) = false := by
  obtain ⟨i,hi,hmissing⟩ := exists_missing files day shard
  generalize files.length = turns at hi
  induction turns generalizing shard i with
  | zero =>
    obtain rfl : i = 0 := by omega
    exact ⟨le_refl _,fun j hj hlt => absurd hlt hj.not_gt,hmissing⟩
  | succ turns ih =>
    unfold firstMissing
    split
    · rename_i hthere
      cases i with
      | zero => simp [hthere] at hmissing
      | succ i =>
        obtain ⟨hle,hbetween,hfound⟩ := ih (shard+1) i
          (by rwa [show shard+1+i = shard+(i+1) by omega]) (by omega)
        refine ⟨by omega,fun j hj hlt => ?_,hfound⟩
        rcases Nat.eq_or_lt_of_le hj with rfl | hj
        · exact hthere
        · exact hbetween j hj hlt
    · rename_i hmiss
      exact ⟨le_refl _,fun j hj hlt => absurd hlt hj.not_gt,by simpa using hmiss⟩

variable {day : String}

theorem shardFor_spec {forceNew : Bool} (hgap : NoGap files day (if forceNew then 1 else 0)) :
    (∀ j, pathExists files (.shard day j) = true → j ≤ shardFor encoded cfg files day forceNew) ∧
    (forceNew = true ∨ (∀ j, pathExists files (.shard day j) = false) →
      pathExists files (.shard day (shardFor encoded cfg files day forceNew)) = false) := by
  obtain ⟨-,hbelow,hmissing⟩ := firstMissing_spec files day 0
  unfold shardFor
  dsimp only
  generalize firstMissing files day files.length 0 = first at hbelow hmissing
  split
  · rename_i hnew
    obtain ⟨hle,-,hfree⟩ := firstMissing_spec files day (first-1+1)
    generalize firstMissing files day files.length (first-1+1) = found at hle hfree
    refine ⟨fun j hj => ?_,fun _ => hfree⟩
    by_contra hlt
    have hthere := hgap j hj found (by split <;> omega) (by omega)
    rw [hfree] at hthere
    cases hthere
  · rename_i hold
    simp only [Bool.or_eq_true,not_or,Bool.not_eq_true] at hold
    obtain ⟨rfl,-⟩ := hold
    constructor
    · intro j hj
      by_contra hlt
      have hthere : pathExists files (.shard day first) = true := by
        rcases Nat.lt_or_eq_of_le (show first ≤ j by omega) with h | rfl
        · exact hgap j hj first (Nat.zero_le _) h
        · exact hj
      rw [hmissing] at hthere
      cases hthere
    · rintro (h | hnone)
      · cases h
      · exact hnone _

/-- The shards stand in the order in which they were written. -/
structure Ordered (encoded : ρ → Nat) (cfg : SinkConfig) (files : List (LogFile ρ)) (day : String)
    (written : List ρ) : Prop where
  sorted : (own files).Pairwise fun f g => f.path.Before g.path
  days : ∀ d n, pathExists files (.shard d n) = true → d ≤ day ∧ d.length = 10
  reads : ((own files).flatMap LogFile.records).Sublist written
  sizes : ∀ f ∈ own files, f.size encoded ≤ cfg.limit ∨ f.records.length ≤ 1

def Last (P : LogFile ρ → Prop) (s : Sink ρ) : Prop :=
  ∃ init f, own s.files = init ++ [f] ∧ f.path = s.path ∧ P f

theorem own_filter (files : List (LogFile ρ)) (keep : LogFile ρ → Bool) :
    own (files.filter keep) = (own files).filter keep := filter_comm _ _ _

theorem mem_own {f : LogFile ρ} : f ∈ own files ↔ f ∈ files ∧ f.path.isShard = true := mem_filter

variable {written : List ρ}

theorem Ordered.filter (h : Ordered encoded cfg files day written) (keep : LogFile ρ → Bool) :
    Ordered encoded cfg (files.filter keep) day written where
  sorted := by
    rw [own_filter]
    exact h.sorted.filter keep
  days d n hd := by
    obtain ⟨f,hf,hpath⟩ := pathExists_iff.1 hd
    exact h.days d n (pathExists_iff.2 ⟨f,(mem_filter.1 hf).1,hpath⟩)
  reads := by
    rw [own_filter]
    exact (filter_sublist.flatMap _).trans h.reads
  sizes f hf := by
    rw [own_filter] at hf
    exact h.sizes f (mem_filter.1 hf).1

theorem active_notMem_unlinkOldest (active : LogPath) (unlinks : LogPath → Bool) (limit total : Int)
    (files : List (LogFile ρ)) : active ∉ unlinkOldest encoded active unlinks limit total files := by
  induction files generalizing total with
  | nil => simp [unlinkOldest]
  | cons f rest ih =>
    unfold unlinkOldest
    split
    · simp
    split
    · exact ih _
    · rename_i hkeep
      rw [mem_cons,not_or]
      exact ⟨fun h => hkeep (.inl h.symm),ih _⟩

theorem applyRetention_eq_filter (m : Moment) (active : LogPath) (files : List (LogFile ρ)) :
    ∃ keep : LogFile ρ → Bool, applyRetention encoded cfg m active files = files.filter keep ∧
      ∀ f, f.path = active → keep f = true := by
  unfold applyRetention
  have hactive : ∀ f : LogFile ρ, f.path = active → (!expires cfg m active f) = true := by
    intro f hf
    cases hage : cfg.maxAgeDays <;> simp [expires,hage,hf]
  cases cfg.maxTotalBytes with
  | none => exact ⟨_,rfl,hactive⟩
  | some limit =>
    refine ⟨_,filter_filter,fun f hf => ?_⟩
    rw [Bool.and_eq_true,decide_eq_true_eq]
    exact ⟨hf ▸ active_notMem_unlinkOldest _ _ _ _ _,hactive f hf⟩

variable {s : Sink ρ}

theorem Ordered.retained
    (h : Ordered encoded cfg s.files s.utcDay written) {P : LogFile ρ → Prop} (hlast : Last P s)
    (m : Moment) : Ordered encoded cfg (s.retained encoded cfg m).files s.utcDay written ∧
      Last P (s.retained encoded cfg m) := by
  obtain ⟨keep,heq,hactive⟩ := @applyRetention_eq_filter _ encoded cfg m s.path s.files
  obtain ⟨init,f,hown,hpath,hf⟩ := hlast
  simp only [Sink.retained,heq]
  refine ⟨h.filter keep,init.filter keep,f,?_,hpath,hf⟩
  rw [own_filter,hown,filter_append,filter_cons_of_pos (hactive f hpath),filter_nil]

theorem own_append_shard (files : List (LogFile ρ)) (day : String) (n : Nat) (now : ℚ) :
    own (files ++ [⟨.shard day n,[],now⟩]) = own files ++ [⟨.shard day n,[],now⟩] := by
  simp [own,LogPath.isShard]

theorem Ordered.opened
    (h : Ordered encoded cfg files day written) {m : Moment} (hlength : m.utcDay.length = 10)
    (hforward : day ≤ m.utcDay) {forceNew : Bool}
    (hgap : NoGap files m.utcDay (if forceNew then 1 else 0)) :
    Ordered encoded cfg (openForDay encoded cfg m files forceNew).files m.utcDay written ∧
    Last (fun f => forceNew = true ∨ (∀ j, pathExists files (.shard m.utcDay j) = false) →
      f.records = []) (openForDay encoded cfg m files forceNew) := by
  obtain ⟨hgreatest,hnew⟩ := @shardFor_spec _ encoded cfg _ _ _ hgap
  unfold openForDay Last Sink.path
  dsimp only
  generalize shardFor encoded cfg files m.utcDay forceNew = shard at hgreatest hnew
  have hbefore : ∀ f ∈ own files, f.path.Before (.shard m.utcDay shard) ∨
      f.path = .shard m.utcDay shard := by
    intro f hf
    obtain ⟨hin,hshard⟩ := mem_own.1 hf
    cases hpath : f.path with
    | legacy name =>
      rw [hpath] at hshard
      cases hshard
    | shard d n =>
      have hthere := pathExists_iff.2 ⟨f,hin,hpath⟩
      rcases ((h.days d n hthere).1.trans hforward).lt_or_eq with hd | rfl
      · exact .inl (.inl hd)
      · rcases (hgreatest n hthere).lt_or_eq with hn | rfl
        · exact .inl (.inr ⟨rfl,hn⟩)
        · exact .inr rfl
  by_cases hthere : pathExists files (.shard m.utcDay shard) = true
  · rw [if_pos hthere]
    refine ⟨{ h with days := fun d n hd => ⟨(h.days d n hd).1.trans hforward,(h.days d n hd).2⟩ },?_⟩
    obtain ⟨f,hin,hpath⟩ := pathExists_iff.1 hthere
    have hf : f ∈ own files := mem_own.2 ⟨hin,by rw [hpath]; rfl⟩
    obtain ⟨init,g,hown⟩ := (own files).eq_nil_or_concat.resolve_left (ne_nil_of_mem hf)
    rw [concat_eq_append] at hown
    refine ⟨init,g,hown,?_,fun hempty => ?_⟩
    · have hsorted := h.sorted
      rw [hown] at hf hsorted hbefore
      rcases mem_append.1 hf with hf | hf
      · have hfg := (pairwise_append.1 hsorted).2.2 f hf g (by simp)
        rw [hpath] at hfg
        rcases hbefore g (by simp) with hg | hg
        · exact absurd hg hfg.asymm
        · exact hg
      · rwa [← mem_singleton.1 hf]
    · rw [hnew hempty] at hthere
      cases hthere
  · rw [if_neg hthere]
    have hown := own_append_shard files m.utcDay shard m.now
    refine ⟨⟨?_,fun d n hd => ?_,?_,fun f hf => ?_⟩,own files,_,hown,rfl,fun _ => rfl⟩
    · rw [hown]
      refine pairwise_append.2 ⟨h.sorted,pairwise_singleton _ _,fun f hf g hg => ?_⟩
      rw [mem_singleton.1 hg]
      refine (hbefore f hf).resolve_right fun hpath => hthere ?_
      exact pathExists_iff.2 ⟨f,(mem_own.1 hf).1,hpath⟩
    · obtain ⟨f,hf,hpath⟩ := pathExists_iff.1 hd
      rcases mem_append.1 hf with hf | hf
      · obtain ⟨hle,hd⟩ := h.days d n (pathExists_iff.2 ⟨f,hf,hpath⟩)
        exact ⟨hle.trans hforward,hd⟩
      · rw [mem_singleton.1 hf] at hpath
        cases hpath
        exact ⟨le_refl _,hlength⟩
    · rw [hown]
      simpa using h.reads
    · rw [hown] at hf
      rcases mem_append.1 hf with hf | hf
      · exact h.sizes f hf
      · rw [mem_singleton.1 hf]
        exact .inr (Nat.zero_le _)

theorem records_of_size_eq_zero {f : LogFile ρ} (h : f.size encoded = 0) : f.records = [] := by
  unfold LogFile.size at h
  cases hrecords : f.records with
  | nil => rfl
  | cons r rest =>
    rw [hrecords,map_cons,sum_cons] at h
    omega

theorem Ordered.appended (h : Ordered encoded cfg s.files s.utcDay written) (m : Moment) {r : ρ}
    (hlast : Last (fun f => f.records = [] ∨ f.size encoded+(encoded r+1) ≤ cfg.limit) s) :
    Ordered encoded cfg (s.append m r).files s.utcDay (written ++ [r]) ∧
    Last (fun _ => True) (s.append m r) := by
  obtain ⟨init,f,hown,hpath,hroom⟩ := hlast
  have hsorted := h.sorted
  have hreads := h.reads
  rw [hown] at hsorted hreads
  have hmap : own (s.append m r).files = init ++ [{ f with records := f.records ++ [r],mtime := m.now }] := by
    have hfilter : own (s.append m r).files = (own s.files).map fun f => if f.path = s.path then
        { f with records := f.records ++ [r],mtime := m.now } else f := by
      unfold own Sink.append
      dsimp only
      rw [filter_map]
      refine congrArg _ (filter_congr fun f _ => ?_)
      dsimp only [Function.comp]
      split <;> rfl
    rw [hfilter,hown,map_append,map_singleton,if_pos hpath]
    have hsame : init.map (fun f => if f.path = s.path then
        { f with records := f.records ++ [r],mtime := m.now } else f) = init := by
      conv_rhs => rw [← map_id init]
      refine map_congr_left fun g hg => if_neg fun hg' => ?_
      have hbefore := (pairwise_append.1 hsorted).2.2 g hg f (by simp)
      rw [hg',hpath] at hbefore
      exact hbefore.asymm hbefore
    rw [hsame]
  have hpaths : ∀ p, pathExists (s.append m r).files p = pathExists s.files p := by
    intro p
    unfold pathExists Sink.append
    dsimp only
    rw [any_map]
    refine congrArg _ (funext fun f => ?_)
    dsimp only [Function.comp]
    split <;> rfl
  refine ⟨⟨?_,fun d n hd => h.days d n (hpaths _ ▸ hd),?_,fun g hg => ?_⟩,init,_,hmap,hpath,trivial⟩
  · rw [hmap]
    refine pairwise_append.2 ⟨(pairwise_append.1 hsorted).1,pairwise_singleton _ _,?_⟩
    intro g hg f' hf'
    rw [mem_singleton.1 hf']
    exact (pairwise_append.1 hsorted).2.2 g hg f (by simp)
  · rw [hmap]
    simpa using hreads.append (Sublist.refl [r])
  · rw [hmap] at hg
    rcases mem_append.1 hg with hg | hg
    · exact h.sizes g (by rw [hown]; exact mem_append_left _ hg)
    · rw [mem_singleton.1 hg]
      rcases hroom with hempty | hroom
      · exact .inr (by simp [hempty])
      · refine .inl ?_
        simpa [LogFile.size] using hroom

theorem Last.weaken {P Q : LogFile ρ → Prop} (h : Last P s)
    (hpq : ∀ f ∈ s.files, P f → f.path = s.path → Q f) : Last Q s := by
  obtain ⟨init,f,hown,hpath,hf⟩ := h
  have hin : f ∈ own s.files := by simp [hown]
  exact ⟨init,f,hown,hpath,hpq f (mem_own.1 hin).1 hf hpath⟩

theorem SinkRun.ordered (h : SinkRun encoded cfg (OpensNext encoded cfg) s written) :
    Ordered encoded cfg s.files s.utcDay written ∧ Last (fun _ => True) s := by
  induction h with
  | start hfiles hday =>
    rename_i files m
    have hnone : ∀ d n, pathExists files (.shard d n) ≠ true := by
      intro d n hd
      obtain ⟨f,hf,hpath⟩ := pathExists_iff.1 hd
      have hin : f ∈ own files := mem_own.2 ⟨hf,by rw [hpath]; rfl⟩
      rw [hfiles] at hin
      cases hin
    have hempty : Ordered encoded cfg files m.utcDay [] := by
      refine ⟨?_,fun d n hd => absurd hd (hnone d n),?_,?_⟩ <;> simp [hfiles]
    have hgap : NoGap files m.utcDay (if false then 1 else 0) := fun j hj => absurd hj (hnone _ j)
    obtain ⟨hopened,hlast⟩ := hempty.opened hday (le_refl _) hgap
    exact hopened.retained (hlast.weaken fun _ _ _ _ => trivial) m
  | @call s written h m hlength hforward call hmeets ih =>
    obtain ⟨hordered,hlast⟩ := ih
    cases call with
    | close => simpa [SinkCall.perform,SinkCall.records] using ⟨hordered,hlast⟩
    | restart =>
      have hgap : NoGap s.files m.utcDay (if false then 1 else 0) := hmeets
      obtain ⟨hopened,hlast⟩ := hordered.opened hlength hforward hgap
      simp only [SinkCall.records,append_nil]
      exact hopened.retained (hlast.weaken fun _ _ _ _ => trivial) m
    | write r =>
      simp only [SinkCall.perform,SinkCall.records,Sink.write]
      split
      · rename_i hrotate
        have hday : m.utcDay ≠ s.utcDay → ∀ j, pathExists s.files (.shard m.utcDay j) = false := by
          intro hne j
          refine Bool.eq_false_iff.2 fun hthere => hne (le_antisymm (hordered.days _ j hthere).1 hforward)
        have hgap : NoGap s.files m.utcDay (if decide (m.utcDay = s.utcDay) then 1 else 0) := by
          by_cases hsame : m.utcDay = s.utcDay
          · rw [decide_eq_true hsame,if_pos rfl]
            exact hmeets hsame (by simpa [hsame] using hrotate)
          · intro j hj
            rw [hday hsame j] at hj
            cases hj
        obtain ⟨hopened,hlast⟩ := hordered.opened hlength hforward hgap
        obtain ⟨hretained,hlast⟩ := hopened.retained (hlast.weaken fun f _ hempty _ => hempty (by
          by_cases hsame : m.utcDay = s.utcDay
          · exact .inl (decide_eq_true hsame)
          · exact .inr (hday hsame))) m
        rw [if_pos (show (s.rotate encoded cfg m).handle = true from rfl)]
        exact hretained.appended m (hlast.weaken fun _ _ hempty _ => .inl hempty)
      · rename_i hstay
        simp only [Bool.or_eq_true,not_or,Bool.not_eq_true] at hstay
        split
        · refine hordered.appended m (hlast.weaken fun f hf _ hpath => ?_)
          have hroom : f.size encoded = 0 ∨ f.size encoded+(encoded r+1) ≤ cfg.limit := by
            have hfits := any_eq_false.1 hstay.2 f hf
            simp only [hpath,decide_true,Bool.true_and,Bool.and_eq_true,decide_eq_true_eq] at hfits
            omega
          exact hroom.imp_left records_of_size_eq_zero
        · exact ⟨{ hordered with reads := hordered.reads.trans (sublist_append_left _ _) },hlast⟩

/-- Where no shard below another one of its day is missing when a file is opened, the files read in
name order give the records in the order of writing, and only a single record makes a file too large. -/
theorem reads_in_write_order {s : Sink ρ} {written : List ρ}
    (h : SinkRun encoded cfg (OpensNext encoded cfg) s written)
    (hshards : ∀ d n, pathExists s.files (.shard d n) = true → n < 1000) :
    (readInNameOrder cfg s.files).Sublist written ∧
    ∀ f ∈ own s.files, f.size encoded ≤ cfg.limit ∨ ∃ r, f.records = [r] := by
  obtain ⟨hordered,-⟩ := h.ordered
  constructor
  · unfold readInNameOrder
    rw [Pairwise.insertionSort_eq]
    · exact hordered.reads
    · refine hordered.sorted.imp_of_mem fun {f g} hf hg hbefore => ?_
      obtain ⟨hf,-⟩ := mem_own.1 hf
      obtain ⟨hg,-⟩ := mem_own.1 hg
      cases hfpath : f.path with
      | legacy name => exact (hfpath ▸ hbefore).elim
      | shard d n =>
        cases hgpath : g.path with
        | legacy name => exact (hfpath ▸ hgpath ▸ hbefore).elim
        | shard d' n' =>
          rw [hfpath,hgpath] at hbefore
          have hd := (hordered.days d n (pathExists_iff.2 ⟨f,hf,hfpath⟩)).2
          have hthere := pathExists_iff.2 ⟨g,hg,hgpath⟩
          exact (name_lt_name cfg (hd.trans (hordered.days d' n' hthere).2.symm)
            (hshards d' n' hthere) hbefore).le
  · intro f hf
    rcases hordered.sizes f hf with hsize | hlength
    · exact .inl hsize
    · cases hrecords : f.records with
      | nil => exact .inl (by simp [LogFile.size,hrecords])
      | cons r rest =>
        rw [hrecords,length_cons] at hlength
        exact .inr ⟨r,by rw [length_eq_zero_iff.1 (by omega : rest.length = 0)]⟩

end

def smallFiles : SinkConfig := { maxBytes := 8,maxAgeDays := none,maxTotalBytes := some 16 }

def momentOf (n : Nat) : Moment := ⟨"2026-09-14",n,fun _ => true⟩

def afterWrites : Nat → Sink Nat
  | 0 => .construct (fun _ => 7) smallFiles (momentOf 0) []
  | n+1 => (afterWrites n).write (fun _ => 7) smallFiles (momentOf n) n

theorem write_utcDay {ρ : Type} (encoded : ρ → Nat) (cfg : SinkConfig) (m : Moment) (s : Sink ρ) (r : ρ) :
    (s.write encoded cfg m r).utcDay = m.utcDay := by
  have hwritten : ∀ s' : Sink ρ, (if s'.handle then s'.append m r else s').utcDay = s'.utcDay := by
    intro s'
    split <;> rfl
  refine (hwritten _).trans ?_
  split
  · rfl
  · rename_i hstay
    simp only [Bool.or_eq_true,not_or,Bool.not_eq_true,decide_eq_false_iff_not,not_not] at hstay
    exact hstay.1.symm

theorem afterWrites_run {Meets : Moment → Sink Nat → SinkCall Nat → Prop} (n : Nat)
    (h : ∀ k < n, Meets (momentOf k) (afterWrites k) (.write k)) :
    SinkRun (fun _ => 7) smallFiles Meets (afterWrites n) (List.range n) := by
  induction n with
  | zero => exact .start rfl rfl
  | succ n ih =>
    rw [range_succ]
    have hday : (afterWrites n).utcDay = "2026-09-14" := by
      cases n with
      | zero => rfl
      | succ n => exact write_utcDay _ _ _ _ _
    exact .call (ih fun k hk => h k (by omega)) (show "2026-09-14".length = 10 by decide) hday.le
      (h n (by omega))

theorem shard_of_paths {n d j : Nat} (h : (afterWrites n).files.map LogFile.path =
    (List.range d).map (LogPath.shard "2026-09-14")) {day : String}
    (hj : pathExists (afterWrites n).files (.shard day j) = true) : j < d := by
  obtain ⟨f,hf,hpath⟩ := pathExists_iff.1 hj
  have hin : LogPath.shard day j ∈ (List.range d).map (LogPath.shard "2026-09-14") := by
    rw [← h,← hpath]
    exact mem_map_of_mem hf
  obtain ⟨i,hi,heq⟩ := mem_map.1 hin
  cases heq
  exact mem_range.1 hi

theorem reads_in_write_order_two :
    (readInNameOrder smallFiles (afterWrites 2).files).Sublist [0,1] ∧
    ∀ f ∈ own (afterWrites 2).files, f.size (fun _ => 7) ≤ smallFiles.limit ∨ ∃ r, f.records = [r] := by
  refine reads_in_write_order (afterWrites_run 2 fun k hk => ?_) fun d n hn =>
    (shard_of_paths (show _ = (List.range 2).map _ by decide +kernel) hn).trans (by decide)
  intro _ hexceed j hj i hi hlt
  obtain rfl | rfl : k = 0 ∨ k = 1 := by omega
  · exact absurd hexceed (by decide +kernel)
  · have hlast := shard_of_paths (show _ = (List.range 1).map _ by decide +kernel) hj
    omega

/-- The sixth record goes to shard 001, which retention has freed, before those of 003 and 004. -/
theorem sixth_record_read_first :
    SinkRun (fun _ => 7) smallFiles (fun _ _ _ => True) (afterWrites 6) [0,1,2,3,4,5] ∧
    ((afterWrites 6).files.map LogFile.path = [.shard "2026-09-14" 3,.shard "2026-09-14" 4,
      .shard "2026-09-14" 1]) ∧ readInNameOrder smallFiles (afterWrites 6).files = [5,3,4] :=
  ⟨afterWrites_run 6 fun _ _ => trivial,by decide +kernel,by decide +kernel⟩

variable {ρ : Type} {encoded : ρ → Nat} {cfg : SinkConfig}

/-- Without its last record, every shard is below the limit. -/
def Within (encoded : ρ → Nat) (cfg : SinkConfig) (files : List (LogFile ρ)) : Prop :=
  ∀ f ∈ files, f.path.isShard = true → (f.records.dropLast.map fun r => encoded r+1).sum < cfg.limit

theorem limit_pos : 0 < cfg.limit := by
  unfold SinkConfig.limit
  omega

variable {files : List (LogFile ρ)}

/-- A file that is opened has room. -/
theorem opened_room (m : Moment) (forceNew : Bool) (f : LogFile ρ)
    (hf : f ∈ (openForDay encoded cfg m files forceNew).files)
    (hpath : f.path = (openForDay encoded cfg m files forceNew).path) : f.size encoded < cfg.limit := by
  change f.path = .shard m.utcDay (shardFor encoded cfg files m.utcDay forceNew) at hpath
  change f ∈ if pathExists files (.shard m.utcDay (shardFor encoded cfg files m.utcDay forceNew)) then files
    else files ++ [_] at hf
  split at hf
  · rename_i hthere
    unfold shardFor at hthere hpath
    dsimp only at hthere hpath
    split at hthere
    · rw [(firstMissing_spec files _ _).2.2] at hthere
      cases hthere
    · rename_i hold
      rw [if_neg hold] at hpath
      simp only [Bool.or_eq_true,not_or,any_eq_true,not_exists,not_and,Bool.and_eq_true,
        decide_eq_true_eq,not_le] at hold
      exact hold.2 f hf hpath
  · rename_i hmissing
    rcases mem_append.1 hf with hf | hf
    · exact absurd (pathExists_iff.2 ⟨f,hf,hpath⟩) hmissing
    · rw [mem_singleton.1 hf]
      exact limit_pos

theorem Within.retained {s : Sink ρ} (h : Within encoded cfg s.files) (m : Moment) :
    Within encoded cfg (s.retained encoded cfg m).files := by
  obtain ⟨keep,hkeep,-⟩ := @applyRetention_eq_filter _ encoded cfg m s.path s.files
  intro f hf
  rw [Sink.retained,hkeep] at hf
  exact h f (mem_of_mem_filter hf)

theorem Within.opened (h : Within encoded cfg files) (m : Moment) (forceNew : Bool) :
    Within encoded cfg (openForDay encoded cfg m files forceNew).files := by
  intro f hf
  unfold openForDay at hf
  dsimp only at hf
  split at hf
  · exact h f hf
  · rcases mem_append.1 hf with hf | hf
    · exact h f hf
    · rw [mem_singleton.1 hf]
      exact fun _ => limit_pos

theorem Within.append {s : Sink ρ} (h : Within encoded cfg s.files)
    (hroom : ∀ f ∈ s.files, f.path = s.path → f.size encoded < cfg.limit) (m : Moment) (r : ρ) :
    Within encoded cfg (s.append m r).files := by
  intro f hf hshard
  obtain ⟨g,hg,rfl⟩ := mem_map.1 hf
  by_cases hpath : g.path = s.path
  · simpa [hpath,LogFile.size] using hroom g hg hpath
  · rw [if_neg hpath] at hshard ⊢
    exact h g hg hshard

/-- Whatever the days and times, whichever files can be unlinked and however often the sink is closed or
begun anew, a shard exceeds the limit on its size by its last record at most. -/
theorem no_shard_outgrows (h : Within encoded cfg files) (m : Moment) (calls : List (Moment × SinkCall ρ)) :
    Within encoded cfg (calls.foldl (fun s c => c.2.perform encoded cfg c.1 s)
      (Sink.construct encoded cfg m files)).files := by
  refine foldlRecOn (motive := fun s : Sink ρ => Within encoded cfg s.files) calls _
    ((h.opened m false).retained m) ?_
  rintro s hs ⟨m,call⟩ -
  cases call with
  | close => exact hs
  | restart => exact (hs.opened m false).retained m
  | write r =>
    change Within encoded cfg (s.write encoded cfg m r).files
    unfold Sink.write
    dsimp only
    split
    · split
      · refine ((hs.opened m _).retained m).append ?_ m r
        intro f hf
        obtain ⟨keep,hkeep,-⟩ := @applyRetention_eq_filter _ encoded cfg m
          (openForDay encoded cfg m s.files (m.utcDay = s.utcDay)).path
          (openForDay encoded cfg m s.files (m.utcDay = s.utcDay)).files
        rw [Sink.retained,hkeep] at hf
        exact opened_room m _ f (mem_of_mem_filter hf)
      · exact (hs.opened m _).retained m
    · rename_i hfits
      split
      · refine hs.append (fun f hf hpath => ?_) m r
        simp only [Bool.or_eq_true,not_or,Sink.wouldExceedSize,any_eq_true,not_exists,not_and,
          Bool.and_eq_true,decide_eq_true_eq] at hfits
        have hsmall := fun hpos => hfits.2 f hf ⟨hpath,hpos⟩
        have := @limit_pos cfg
        omega
      · exact hs

theorem no_shard_outgrows_anew : Within (fun _ => 7) smallFiles ([(momentOf 3,SinkCall.write 2)].foldl
    (fun s c => c.2.perform (fun _ => 7) smallFiles c.1 s)
    (Sink.construct (fun _ => 7) smallFiles (momentOf 2) (afterWrites 2).files)).files :=
  no_shard_outgrows (by unfold Within; decide +kernel) _ _

end ExperimentControl.Logs

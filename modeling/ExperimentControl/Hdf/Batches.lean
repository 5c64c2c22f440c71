import ExperimentControl.Hdf.Writer

/-!
What each section of a batch leaves: the context rows up to one that raises, the event rows if none
raises, and for each stream the outcome of its own write.
-/

namespace ExperimentControl.Hdf
open Lib Python List Prod

def ContextRow.Fits (row : ContextRow) : Prop :=
  fitsInt64 row.contextId ∧ fitsInt64 row.tsWallNs ∧ fitsInt64 row.tsMonoNs

instance (row : ContextRow) : Decidable row.Fits := by
  unfold ContextRow.Fits
  infer_instance

section
variable (py : Py)

def ContextRow.Projects (row : ContextRow) (columns : List ContextColumn) : Prop :=
  ∀ c ∈ columns, (coerceContextValue py c.type (getD row.fields c.name .none)).isSome = true

def ContextsConvert : List (ContextRow × ColumnsReply) → ContextTable → ColumnsCache → Prop
  | [],_,_ => True
  | (row,reply) :: rest,t,cache =>
    let ensured := ensureContextColumns py reply t cache row.fields
    let done := writeContextRow py reply t cache row
    ensured.2.2 = true ∧ row.Fits ∧ row.Projects py ensured.1.columns ∧
      ContextsConvert rest done.1 done.2.1

def ContextsStored : List (ContextRow × ColumnsReply) → ContextTable → ColumnsCache → Prop
  | [],_,_ => True
  | (row,reply) :: rest,t,cache =>
    let ensured := ensureContextColumns py reply t cache row.fields
    let done := writeContextRow py reply t cache row
    ensured.2.2 = true ∧ row.Fits ∧
      (rest = [] ∨ row.Projects py ensured.1.columns ∧ ContextsStored rest done.1 done.2.1)

variable {py}

theorem writeColumnsAt_ok (index : Nat) (fields : List (String × Value))
    (columns : List ContextColumn) : (writeColumnsAt py index fields columns).2 = true ↔
      ∀ c ∈ columns, (coerceContextValue py c.type (getD fields c.name .none)).isSome = true := by
  induction columns with
  | nil => simp [writeColumnsAt]
  | cons c rest ih =>
    simp only [writeColumnsAt,forall_mem_cons]
    cases coerceContextValue py c.type (getD fields c.name .none) with
    | none => simp
    | some value => simp [ih]

theorem initColumns_rows (t : ContextTable) (spec : ColumnsSpec) :
    (initColumns py t spec).1.rows = t.rows := by
  unfold initColumns
  split
  · rfl
  · rfl

variable (py) in
theorem ensureContextColumns_rows (reply : ColumnsReply) (t : ContextTable) (cache : ColumnsCache)
    (fields : List (String × Value)) :
    (ensureContextColumns py reply t cache fields).1.rows = t.rows := by
  unfold ensureContextColumns
  split
  · rfl
  · split
    · exact initColumns_rows _ _
    · split
      · rfl
      · simp only
        split
        · exact initColumns_rows _ _
        · split
          · exact initColumns_rows _ _
          · rfl

variable (py) in
theorem writeContextRow_cases (reply : ColumnsReply) (t : ContextTable) (cache : ColumnsCache)
    (row : ContextRow) :
    let ensured := ensureContextColumns py reply t cache row.fields
    let done := writeContextRow py reply t cache row
    (ensured.2.2 = true ∧ row.Fits ∧ done.1.rows = t.rows ++ [row] ∧
      (done.2.2 = true ↔ row.Projects py ensured.1.columns)) ∨
    (¬(ensured.2.2 = true ∧ row.Fits) ∧ done.1.rows = t.rows ∧ done.2.2 = false) := by
  have hrows := ensureContextColumns_rows py reply t cache row.fields
  simp only [writeContextRow]
  rcases hensured : ensureContextColumns py reply t cache row.fields with ⟨t',cache',ok⟩
  rw [hensured] at hrows
  cases ok with
  | false => exact .inr ⟨by simp,hrows,rfl⟩
  | true =>
    by_cases hfits : row.Fits
    · have hcond := hfits
      unfold ContextRow.Fits at hcond
      simp only [hcond,and_self,if_true]
      refine .inl ⟨trivial,hfits,by rw [← hrows],?_⟩
      exact writeColumnsAt_ok _ _ _
    · have hcond := hfits
      unfold ContextRow.Fits at hcond
      simp only [hcond,if_false]
      exact .inr ⟨fun h => hfits h.2,hrows,trivial⟩

theorem writeContextRows_cons (row : ContextRow) (reply : ColumnsReply)
    (rest : List (ContextRow × ColumnsReply)) (t : ContextTable) (cache : ColumnsCache) :
    writeContextRows py ((row,reply) :: rest) t cache =
      let done := writeContextRow py reply t cache row
      if done.2.2 then writeContextRows py rest done.1 done.2.1 else done := by
  rw [writeContextRows]
  rcases writeContextRow py reply t cache row with ⟨t',cache',ok⟩
  cases ok with
  | false => rfl
  | true => rfl

variable (py) in
theorem writeContextRows_ok (rows : List (ContextRow × ColumnsReply)) (t : ContextTable)
    (cache : ColumnsCache) :
    (writeContextRows py rows t cache).2.2 = true ↔ ContextsConvert py rows t cache := by
  induction rows generalizing t cache with
  | nil => simp [writeContextRows,ContextsConvert]
  | cons r rest ih =>
    obtain ⟨row,reply⟩ := r
    rw [writeContextRows_cons]
    simp only [ContextsConvert]
    rcases writeContextRow_cases py reply t cache row with
      ⟨hensured,hfits,-,hok⟩ | ⟨hnot,-,hok⟩
    · split
      next hdone =>
        rw [ih]
        exact ⟨fun h => ⟨hensured,hfits,hok.1 hdone,h⟩,fun h => h.2.2.2⟩
      next hdone =>
        simp only [Bool.not_eq_true] at hdone
        rw [hdone]
        constructor
        · intro h
          cases h
        · intro h
          rw [hok.2 h.2.2.1] at hdone
          cases hdone
    · rw [hok]
      simp only [Bool.false_eq_true,if_false,hok,false_iff]
      exact fun h => hnot ⟨h.1,h.2.1⟩

variable (py) in
theorem writeContextRows_stored (rows : List (ContextRow × ColumnsReply)) (t : ContextTable)
    (cache : ColumnsCache) :
    (writeContextRows py rows t cache).1.rows = t.rows ++ rows.map fst ↔
      ContextsStored py rows t cache := by
  induction rows generalizing t cache with
  | nil => simp [writeContextRows,ContextsStored]
  | cons r rest ih =>
    obtain ⟨row,reply⟩ := r
    rw [writeContextRows_cons]
    simp only [ContextsStored,map_cons]
    rcases writeContextRow_cases py reply t cache row with
      ⟨hensured,hfits,hrows,hok⟩ | ⟨hnot,hrows,hok⟩
    · have hsplit : t.rows ++ row :: rest.map fst =
          (writeContextRow py reply t cache row).1.rows ++ rest.map fst := by
        rw [hrows,append_assoc,singleton_append]
      split
      next hdone =>
        rw [hsplit,ih]
        refine ⟨fun h => ⟨hensured,hfits,.inr ⟨hok.1 hdone,h⟩⟩,?_⟩
        intro h
        rcases h.2.2 with hnil | hrest
        · subst hnil
          trivial
        · exact hrest.2
      next hdone =>
        have hrefused := mt hok.2 hdone
        rw [hsplit,self_eq_append_right,map_eq_nil_iff]
        constructor
        · exact fun h => ⟨hensured,hfits,.inl h⟩
        · intro h
          rcases h.2.2 with hnil | hrest
          · exact hnil
          · exact absurd hrest.1 hrefused
    · simp only [hok,Bool.false_eq_true,if_false,hrows,self_eq_append_right,reduceCtorEq,false_iff]
      exact fun h => hnot ⟨h.1,h.2.1⟩

theorem ContextsConvert.stored {rows : List (ContextRow × ColumnsReply)} {t : ContextTable}
    {cache : ColumnsCache} (h : ContextsConvert py rows t cache) :
    ContextsStored py rows t cache := by
  induction rows generalizing t cache with
  | nil => trivial
  | cons r rest ih =>
    obtain ⟨row,reply⟩ := r
    exact ⟨h.1,h.2.1,.inr ⟨h.2.2.1,ih h.2.2.2⟩⟩

theorem writeEventRows_ok (capacity : Nat) {disabled : List String} {rows : List (String × Msg)}
    (h : ∀ r ∈ rows, eventOutcome py disabled r.1 r.2 ≠ .raised) (appended staged : List EventRow) :
    writeEventRows py capacity disabled rows appended staged =
      (appended ++ staged ++ eventRows py disabled rows,true) := by
  induction rows generalizing appended staged with
  | nil => simp [writeEventRows,eventRows]
  | cons r rest ih =>
    obtain ⟨topic,msg⟩ := r
    have hrest := ih fun r hr => h r (by simp [hr])
    simp only [writeEventRows]
    cases hout : eventOutcome py disabled topic msg with
    | raised => exact absurd hout (h (topic,msg) (by simp))
    | skipped => simp [hrest,eventRows,hout]
    | row row =>
      simp only [hrest]
      split
      · simp [eventRows,hout]
      · simp [eventRows,hout]

theorem writeEventRows_raised (capacity : Nat) {disabled : List String}
    {rows : List (String × Msg)} (h : ∃ r ∈ rows, eventOutcome py disabled r.1 r.2 = .raised)
    (appended staged : List EventRow) :
    (writeEventRows py capacity disabled rows appended staged).2 = false ∧
      ((writeEventRows py capacity disabled rows appended staged).1.length <
          (appended ++ staged ++ eventRows py disabled rows).length ∨
        (writeEventRows py capacity disabled rows appended staged).1 = appended ∧ staged = [] ∧
          eventRows py disabled rows = []) := by
  induction rows generalizing appended staged with
  | nil => simp at h
  | cons r rest ih =>
    obtain ⟨topic,msg⟩ := r
    cases hout : eventOutcome py disabled topic msg with
    | raised =>
      have hrows : eventRows py disabled ((topic,msg) :: rest) = eventRows py disabled rest := by
        simp [eventRows,hout]
      have hdone : writeEventRows py capacity disabled ((topic,msg) :: rest) appended staged =
          (appended,false) := by
        simp [writeEventRows,hout]
      rw [hrows,hdone]
      refine ⟨rfl,?_⟩
      by_cases hnil : staged ++ eventRows py disabled rest = []
      · rw [append_eq_nil_iff] at hnil
        exact .inr ⟨rfl,hnil.1,hnil.2⟩
      · left
        have hpos := length_pos_iff.2 hnil
        simp only [append_assoc,length_append] at hpos ⊢
        omega
    | skipped =>
      have hlater : ∃ r ∈ rest, eventOutcome py disabled r.1 r.2 = .raised := by
        simpa [hout] using h
      have hrows : eventRows py disabled ((topic,msg) :: rest) = eventRows py disabled rest := by
        simp [eventRows,hout]
      have hdone : writeEventRows py capacity disabled ((topic,msg) :: rest) appended staged =
          writeEventRows py capacity disabled rest appended staged := by
        simp [writeEventRows,hout]
      rw [hrows,hdone]
      exact ih hlater appended staged
    | row row =>
      have hlater : ∃ r ∈ rest, eventOutcome py disabled r.1 r.2 = .raised := by
        simpa [hout] using h
      have hrows : eventRows py disabled ((topic,msg) :: rest) =
          row :: eventRows py disabled rest := by
        simp [eventRows,hout]
      by_cases hfull : capacity ≤ staged.length
      · have hdone : writeEventRows py capacity disabled ((topic,msg) :: rest) appended staged =
            writeEventRows py capacity disabled rest (appended ++ staged) [row] := by
          simp [writeEventRows,hout,hfull]
        rw [hrows,hdone]
        obtain ⟨hok,hlt | ⟨-,hstaged,-⟩⟩ := ih hlater (appended ++ staged) [row]
        · exact ⟨hok,.inl (by simpa using hlt)⟩
        · cases hstaged
      · have hdone : writeEventRows py capacity disabled ((topic,msg) :: rest) appended staged =
            writeEventRows py capacity disabled rest appended (staged ++ [row]) := by
          simp [writeEventRows,hout,hfull]
        rw [hrows,hdone]
        obtain ⟨hok,hlt | ⟨-,hstaged,-⟩⟩ := ih hlater appended (staged ++ [row])
        · exact ⟨hok,.inl (by simpa using hlt)⟩
        · simp at hstaged

end

variable {conf : Conf} {calls : WriteCalls}

def Writer.outcome (fault : Fault) (captured : Option StreamMeta) (w : Writer) (f : File) (k : Key)
    (buf : Buf) : WriteOutcome :=
  writeSingleStreamBuffer fault (isEnabled w.telemetry.disabledDevices k.1) captured
    (w.streams k).liveMeta (f.sessions k) buf

theorem Writer.writeStream_of_file {fault : Fault} {captured : Option StreamMeta} {w : Writer}
    {f : File} (hfile : w.file = some f) (k : Key) (buf : Buf) :
    w.writeStream conf fault captured k buf = { w.putStream k
          (((w.lane k).wrote conf w.now (w.outcome fault captured f k buf)).stream) with
        file := some { f with
          sessions := Function.update f.sessions k (w.outcome fault captured f k buf).datasets } } := by
  simp only [writeStream,hfile]
  rfl

theorem Writer.writeStreams_of_file {w : Writer} {f : File} (hfile : w.file = some f)
    (streamMeta : Key → Option StreamMeta) (streams : OrderedDict Key Buf) :
    let done := w.writeStreams conf calls streamMeta streams
    let outcome := fun k => (streams.get? k).map fun buf =>
      w.outcome (calls.fault k) (streamMeta k) f k buf
    done = { w with
      streams := fun k => match outcome k with
        | some o => ((w.lane k).wrote conf w.now o).stream
        | none => w.streams k
      file := some { f with
        sessions := fun k => match outcome k with
          | some o => o.datasets
          | none => f.sessions k } } := by
  have hrun : ∀ (entries : List (Key × Buf)), (entries.map fst).Nodup →
      ∀ (w : Writer) (f : File), w.file = some f →
      entries.foldl (fun w e => w.writeStream conf (calls.fault e.1) (streamMeta e.1) e.1 e.2) w =
        { w with
          streams := fun k => match entries.find? fun e => e.1 = k with
            | some e => ((w.lane k).wrote conf w.now
                (w.outcome (calls.fault k) (streamMeta k) f k e.2)).stream
            | none => w.streams k
          file := some { f with
            sessions := fun k => match entries.find? fun e => e.1 = k with
              | some e => (w.outcome (calls.fault k) (streamMeta k) f k e.2).datasets
              | none => f.sessions k } } := by
    intro entries
    induction entries with
    | nil =>
      intro _ w f hfile
      simp [← hfile]
    | cons e rest ih =>
      intro hnodup w f hfile
      obtain ⟨k,buf⟩ := e
      simp only [map_cons,nodup_cons] at hnodup
      rw [foldl_cons,writeStream_of_file hfile,ih hnodup.2 _ _ rfl]
      have hnone : rest.find? (fun e => e.1 = k) = none := by
        rw [find?_eq_none]
        intro e he hek
        exact hnodup.1 (mem_map.2 ⟨e,he,by simpa using hek⟩)
      simp only [putStream,mk.injEq,true_and,and_true,Option.some.injEq,File.mk.injEq]
      constructor
      · funext k'
        by_cases hk : k' = k
        · subst hk
          simp [hnone]
        · have hk' : ¬k = k' := fun h => hk h.symm
          simp only [find?_cons,hk',decide_false]
          cases rest.find? (fun e => e.1 = k') with
          | none => simp [hk]
          | some e => simp [lane,outcome,hk]
      · funext k'
        by_cases hk : k' = k
        · subst hk
          simp [hnone]
        · have hk' : ¬k = k' := fun h => hk h.symm
          simp only [find?_cons,hk',decide_false]
          cases rest.find? (fun e => e.1 = k') with
          | none => simp [hk]
          | some e => simp [outcome,hk]
  have hdone := hrun streams.entries streams.nodup w f hfile
  simp only [writeStreams,hdone,OrderedDict.get?]
  congr 1
  · funext k
    cases streams.entries.find? (fun e => e.1 = k) with
    | none => rfl
    | some e => rfl
  · congr 2
    funext k
    cases streams.entries.find? (fun e => e.1 = k) with
    | none => rfl
    | some e => rfl

end ExperimentControl.Hdf

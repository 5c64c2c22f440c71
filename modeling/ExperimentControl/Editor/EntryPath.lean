import ExperimentControl.Browser.Js
import ExperimentControl.Lib.JsonText

/-!
Dotted entry names (`features/sequencer/entry_path.ts`): how the inspector names what stands in a
nested mapping, and how it reads such a name back.
-/

namespace ExperimentControl.Editor
open Browser Lib List

def entryPathSegment (key : String) : String :=
  if '.' ∈ key.toList ∨ key.toList.head? = some '"' then
    String.ofList (JsonText.stringify key.toList)
  else key

/-- The scan of `splitEntryPath`: what is left, whether inside quotes, and the segment so far. -/
def splitLoop : List Char → Bool → List Char → List String
  | [],_,current => [String.ofList current]
  | '\\' :: next :: rest,true,current => splitLoop rest true (current ++ ['\\',next])
  | c :: rest,true,current => splitLoop rest (c ≠ '"') (current ++ [c])
  | c :: rest,false,current =>
    if c = '.' then String.ofList current :: splitLoop rest false []
    else
      splitLoop rest (c = '"' && trim (String.ofList current) = "") (current ++ [c])

def unquoteSegment (segment : String) : String :=
  let trimmed := trim segment
  if 2 ≤ trimmed.length ∧ trimmed.toList.head? = some '"' ∧ trimmed.toList.getLast? = some '"' then
    match JsonText.parse trimmed.toList with
    | some text => String.ofList text
    | none => String.ofList (trimmed.toList.drop 1).dropLast
  else trimmed

/-- Split a dotted entry name into keys, honouring quoted segments; empty keys dropped. -/
def splitEntryPath (name : String) : List String :=
  ((splitLoop name.toList false []).map unquoteSegment).filter (· ≠ "")

def joinEntryPath (keys : List String) : String := ".".intercalate (keys.map entryPathSegment)

theorem splitLoop_quoted_plain {c : Char} (hquote : c ≠ '"') (hback : c ≠ '\\')
    (rest current : List Char) :
    splitLoop (c :: rest) true current = splitLoop rest true (current ++ [c]) := by
  rw [splitLoop.eq_def]
  split <;> simp_all

theorem splitLoop_quoted_close (rest current : List Char) :
    splitLoop ('"' :: rest) true current = splitLoop rest false (current ++ ['"']) := by
  cases rest <;> simp [splitLoop]

theorem hexDigit_ne : ∀ n < 16, JsonText.hexDigit n ≠ '"' ∧ JsonText.hexDigit n ≠ '\\' := by
  decide

theorem splitLoop_escape (c : Char) (rest current : List Char) :
    splitLoop (JsonText.escape c ++ rest) true current =
      splitLoop rest true (current ++ JsonText.escape c) := by
  unfold JsonText.escape
  split
  · simp [splitLoop]
  split
  · simp [splitLoop]
  split
  · simp [splitLoop]
  split
  · simp [splitLoop]
  split
  · simp [splitLoop]
  split
  · simp [splitLoop]
  split
  · simp [splitLoop]
  split
  · next hlow =>
    obtain ⟨hq,hb⟩ := hexDigit_ne (c.toNat / 16) (by omega)
    obtain ⟨hq',hb'⟩ := hexDigit_ne (c.toNat % 16) (by omega)
    simp only [cons_append,nil_append,splitLoop]
    rw [splitLoop_quoted_plain (by decide) (by decide),
      splitLoop_quoted_plain (by decide) (by decide),splitLoop_quoted_plain hq hb,
      splitLoop_quoted_plain hq' hb']
    simp
  · next hquote hback _ _ _ _ _ _ => exact splitLoop_quoted_plain hquote hback rest current

theorem splitLoop_closed (text rest current : List Char) :
    splitLoop (JsonText.closed text ++ rest) true current =
      splitLoop rest false (current ++ JsonText.closed text) := by
  induction text generalizing current with
  | nil =>
    have hclosed : JsonText.closed [] = ['"'] := rfl
    rw [hclosed,cons_append,nil_append,splitLoop_quoted_close]
  | cons c text ih =>
    have hcons : JsonText.closed (c :: text) = JsonText.escape c ++ JsonText.closed text := by
      simp [JsonText.closed]
    rw [hcons,append_assoc,splitLoop_escape,ih,append_assoc]

theorem splitLoop_stringify (text rest : List Char) :
    splitLoop (JsonText.stringify text ++ rest) false [] =
      splitLoop rest false (JsonText.stringify text) := by
  have hopen : splitLoop ('"' :: (JsonText.closed text ++ rest)) false [] =
      splitLoop (JsonText.closed text ++ rest) true ['"'] := by
    simp [splitLoop,show String.ofList [] = "" from rfl]
  rw [JsonText.stringify,cons_append,hopen,splitLoop_closed,cons_append,nil_append]

theorem splitLoop_plain {first : Char} (hfirst : isWhitespace first = false) {text : List Char}
    (hdot : '.' ∉ text) (rest started : List Char) :
    splitLoop (text ++ rest) false (first :: started) =
      splitLoop rest false (first :: (started ++ text)) := by
  induction text generalizing started with
  | nil => simp
  | cons c text ih =>
    have hc : c ≠ '.' := by
      rintro rfl
      simp at hdot
    have hblank := @trim_ne_empty _ started hfirst
    have htail : '.' ∉ text := fun h => hdot (mem_cons_of_mem _ h)
    have hnext := ih htail (started ++ [c])
    simp only [cons_append,splitLoop,if_neg hc,hblank,decide_false,Bool.and_false]
    simpa using hnext

variable {key : String}

theorem entryPathSegment_plain (hdot : '.' ∉ key.toList)
    (hquote : key.toList.head? ≠ some '"') : entryPathSegment key = key := by
  simp [entryPathSegment,hdot,hquote]

/-- A key that a row can be named after: not empty, nothing for `trim` to take. -/
def NamedKey (key : String) : Prop := key ≠ "" ∧ trim key = key

theorem NamedKey.chars (h : NamedKey key) :
    ∃ first rest, key.toList = first :: rest ∧ isWhitespace first = false := by
  cases hlist : key.toList with
  | nil => exact absurd (String.toList_eq_nil_iff.1 hlist) h.1
  | cons first rest =>
    have hhead := (trim_eq_self.1 h.2).1
    exact ⟨first,rest,rfl,hhead first (by simp [hlist])⟩

theorem splitLoop_segment (hkey : NamedKey key) (rest : List Char) :
    splitLoop ((entryPathSegment key).toList ++ rest) false [] =
      splitLoop rest false (entryPathSegment key).toList := by
  by_cases hquoted : '.' ∈ key.toList ∨ key.toList.head? = some '"'
  · simp only [entryPathSegment,if_pos hquoted,String.toList_ofList]
    exact splitLoop_stringify key.toList rest
  · rw [not_or] at hquoted
    rw [entryPathSegment_plain hquoted.1 hquoted.2]
    obtain ⟨first,text,hlist,hfirst⟩ := hkey.chars
    rw [hlist] at hquoted ⊢
    have hdot : first ≠ '.' := by
      rintro rfl
      simp at hquoted
    have hquote : first ≠ '"' := by simpa using hquoted.2
    have htext : '.' ∉ text := fun h => hquoted.1 (mem_cons_of_mem _ h)
    have hnext := splitLoop_plain hfirst htext rest []
    simpa [splitLoop,hdot,hquote] using hnext

theorem stringify_last (text : List Char) : (JsonText.stringify text).getLast? = some '"' := by
  rw [JsonText.stringify,JsonText.closed,← cons_append]
  exact getLast?_concat

theorem trimmed_stringify (text : List Char) :
    trim (String.ofList (JsonText.stringify text)) = String.ofList (JsonText.stringify text) := by
  rw [trim_eq_self,String.toList_ofList]
  refine ⟨?_,?_⟩
  · simp only [JsonText.stringify,head?_cons,Option.mem_some_iff]
    rintro c rfl
    decide
  · rw [stringify_last]
    rintro c hc
    rw [Option.mem_some_iff.1 hc.symm]
    decide

theorem unquoteSegment_segment (hkey : NamedKey key) :
    unquoteSegment (entryPathSegment key) = key := by
  by_cases hquoted : '.' ∈ key.toList ∨ key.toList.head? = some '"'
  · have hlength : 2 ≤ (String.ofList (JsonText.stringify key.toList)).length := by
      rw [String.length_ofList,JsonText.stringify,JsonText.closed,length_cons,length_append]
      simp
    have hhead : (JsonText.stringify key.toList).head? = some '"' := rfl
    simp only [entryPathSegment,if_pos hquoted,unquoteSegment,trimmed_stringify,
      String.toList_ofList]
    rw [if_pos ⟨hlength,hhead,stringify_last _⟩,JsonText.parse_stringify]
    exact String.ofList_toList
  · rw [not_or] at hquoted
    rw [entryPathSegment_plain hquoted.1 hquoted.2]
    simp [unquoteSegment,hkey.2,hquoted.2]

theorem splitLoop_dot (rest current : List Char) :
    splitLoop ('.' :: rest) false current = String.ofList current :: splitLoop rest false [] := by
  simp [splitLoop]

theorem joinEntryPath_cons (key next : String) (rest : List String) :
    joinEntryPath (key :: next :: rest) =
      entryPathSegment key ++ "." ++ joinEntryPath (next :: rest) := by
  simp [joinEntryPath,String.intercalate_cons_cons]

theorem splitLoop_joinEntryPath (key : String) (rest : List String)
    (hkeys : ∀ k ∈ key :: rest, NamedKey k) :
    splitLoop (joinEntryPath (key :: rest)).toList false [] =
      (key :: rest).map entryPathSegment := by
  induction rest generalizing key with
  | nil =>
    have hsegment := splitLoop_segment (hkeys key (by simp)) []
    simp only [append_nil] at hsegment
    simp [joinEntryPath,hsegment,splitLoop]
  | cons next rest ih =>
    have hnext := ih next (fun k hk => hkeys k (mem_cons_of_mem _ hk))
    have hdot : (".":String).toList = ['.'] := rfl
    rw [joinEntryPath_cons,String.toList_append,String.toList_append,append_assoc,
      splitLoop_segment (hkeys key (by simp)),hdot,cons_append,nil_append,
      splitLoop_dot,hnext]
    simp

theorem splitEntryPath_join {keys : List String} (hne : keys ≠ [])
    (hkeys : ∀ k ∈ keys, NamedKey k) : splitEntryPath (joinEntryPath keys) = keys := by
  cases keys with
  | nil => exact absurd rfl hne
  | cons key rest =>
    have hmap : ((key :: rest).map entryPathSegment).map unquoteSegment = key :: rest := by
      rw [map_map]
      conv_rhs => rw [← map_id (key :: rest)]
      exact map_congr_left fun k hk => unquoteSegment_segment (hkeys k hk)
    rw [splitEntryPath,splitLoop_joinEntryPath key rest hkeys,hmap]
    exact filter_eq_self.2 fun k hk => by simpa using (hkeys k hk).1

end ExperimentControl.Editor

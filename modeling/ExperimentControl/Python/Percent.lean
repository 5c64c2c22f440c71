import ExperimentControl.Python.Text

/-!
Formatting with `%`: `format % value`, where the value is not a tuple. Whatever Python raises is
`none` here.
-/

namespace ExperimentControl.Python
open List Option Prod

structure Flags where
  left : Bool
  plus : Bool
  blank : Bool
  alternate : Bool
  zero : Bool
  deriving DecidableEq

structure Conversion where
  key : Option (List Char)
  flags : Flags
  width : Nat
  precision : Option Nat
  kind : Char
  deriving DecidableEq

inductive Piece where
  | literal (c : Char)
  | conversion (conv : Conversion)
  deriving DecidableEq

def isFlag (c : Char) : Bool := c = '-' || c = '#' || c = '0' || c = ' ' || c = '+'

def readKey : Nat → List Char → Option (List Char × List Char)
  | _,[] => none
  | depth,c :: rest =>
    if c = ')' then
      match depth with
      | 0 => some ([],rest)
      | depth+1 => (readKey depth rest).map fun r => (c :: r.1,r.2)
    else (readKey (if c = '(' then depth+1 else depth) rest).map fun r => (c :: r.1,r.2)

def digitsValue (digits : List Char) : Nat := digits.foldl (fun n c => 10*n+(c.toNat-48)) 0

def readMappingKey (text : List Char) : Option (Option (List Char) × List Char) :=
  match text with
  | '(' :: rest => (readKey 0 rest).map fun r => (some r.1,r.2)
  | _ => some (none,text)

def readPrecision (text : List Char) : Option Nat × List Char :=
  match text with
  | '.' :: rest =>
    (some (digitsValue (rest.takeWhile Char.isDigit)),rest.dropWhile Char.isDigit)
  | _ => (none,text)

def isModifier (c : Char) : Bool := c = 'h' || c = 'l' || c = 'L'

def skipModifier : List Char → List Char
  | [] => []
  | c :: rest => if isModifier c then rest else c :: rest

/-- `%` in a format is followed by a key, flags, a width, a precision, a modifier and the kind of the
conversion. A `*` takes an argument of its own, and none is left for the value. -/
def readConversion (text : List Char) : Option (Conversion × List Char) := do
  let (key,text) ← readMappingKey text
  let flags := text.takeWhile isFlag
  let text := text.dropWhile isFlag
  let width := digitsValue (text.takeWhile Char.isDigit)
  let (precision,text) := readPrecision (text.dropWhile Char.isDigit)
  match skipModifier text with
  | [] => none
  | kind :: rest =>
    if 2^63 ≤ width ∨ precision.any (fun p => 2^31 ≤ p) then none
    else some (⟨key,⟨'-' ∈ flags,'+' ∈ flags,' ' ∈ flags,'#' ∈ flags,'0' ∈ flags⟩,width,precision,
      kind⟩,rest)

def readPieces : Nat → List Char → Option (List Piece)
  | 0,text => if text = [] then some [] else none
  | n+1,text =>
    match text with
    | [] => some []
    | '%' :: '%' :: rest => (readPieces n rest).map (.literal '%' :: ·)
    | '%' :: rest => do
      let (conv,rest) ← readConversion rest
      let pieces ← readPieces n rest
      pure (.conversion conv :: pieces)
    | c :: rest => (readPieces n rest).map (.literal c :: ·)

def pieces (format : List Char) : Option (List Piece) := readPieces format.length format

def padded (flags : Flags) (numeric : Bool) (width : Nat) (sign body : List Char) : List Char :=
  let fill := width-(sign.length+body.length)
  if flags.left then sign ++ body ++ List.replicate fill ' '
  else if numeric && flags.zero then sign ++ List.replicate fill '0' ++ body
  else List.replicate fill ' ' ++ sign ++ body

theorem length_padded (flags : Flags) (numeric : Bool) (width : Nat) (sign body : List Char) :
    (padded flags numeric width sign body).length = max width (sign.length+body.length) := by
  unfold padded
  dsimp only
  split
  · simp only [length_append,length_replicate]
    omega
  · split
    · simp only [length_append,length_replicate]
      omega
    · simp only [length_append,length_replicate]
      omega

def signText (flags : Flags) (negative : Bool) : List Char :=
  if negative then ['-'] else if flags.plus then ['+'] else if flags.blank then [' '] else []

theorem length_signText (flags : Flags) (negative : Bool) : (signText flags negative).length ≤ 1 := by
  unfold signText
  split
  · exact Nat.le_refl _
  · split
    · exact Nat.le_refl _
    · split <;> decide

section
variable (t : Texts)

def toInteger : Value → Option Int
  | .int n => some n
  | .bool b => some (if b then 1 else 0)
  | .float x => t.truncate x
  | _ => none

def toIndex : Value → Option Int
  | .int n => some n
  | .bool b => some (if b then 1 else 0)
  | _ => none

def toReal : Value → Option UInt64
  | .int n => t.toFloat n
  | .bool b => t.toFloat (if b then 1 else 0)
  | .float x => some x
  | _ => none

def digitsText (conv : Conversion) (marker : List Char) (digits : List Char) (n : Int) :
    Option (List Char) :=
  if conv.precision.any (fun p => 2^31 ≤ p+3) then none
  else
    let marker := if conv.flags.alternate then marker else []
    let zeros := List.replicate (conv.precision.getD 0-digits.length) '0'
    some (padded conv.flags true conv.width (signText conv.flags (n < 0) ++ marker) (zeros ++ digits))

def stringText (conv : Conversion) (text : List Char) : List Char :=
  padded conv.flags false conv.width [] (conv.precision.elim text fun p => text.take p)

def floatText (conv : Conversion) (x : UInt64) : List Char :=
  let text := t.formatFloat conv.kind conv.flags.alternate (conv.precision.getD 6) x
  match text with
  | '-' :: body => padded conv.flags true conv.width ['-'] body
  | body => padded conv.flags true conv.width (signText conv.flags false) body

def characterText (conv : Conversion) : Value → Option (List Char)
  | .str s => if s.length = 1 then some (padded conv.flags false conv.width [] s.toList) else none
  | v => (toIndex v).bind fun n =>
    if 0 ≤ n ∧ n < 0x110000 then
      some (padded conv.flags false conv.width [] [Char.ofNat n.toNat])
    else none

def convert (conv : Conversion) (v : Value) : Option (List Char) :=
  if conv.kind = 's' then
    match v with
    | .str s => some (stringText conv s.toList)
    | v => (reprValue t t.printable v).map (stringText conv)
  else if conv.kind = 'r' then (reprValue t t.printable v).map (stringText conv)
  else if conv.kind = 'a' then (reprValue t (fun _ => false) v).map (stringText conv)
  else if conv.kind = 'd' ∨ conv.kind = 'i' ∨ conv.kind = 'u' then do
    let n ← toInteger t v
    let _written ← decimalText n
    digitsText conv [] (Nat.toDigits 10 n.natAbs) n
  else if conv.kind = 'x' then
    (toIndex v).bind fun n => digitsText conv ['0','x'] (Nat.toDigits 16 n.natAbs) n
  else if conv.kind = 'X' then
    (toIndex v).bind fun n =>
      digitsText conv ['0','X'] ((Nat.toDigits 16 n.natAbs).map Char.toUpper) n
  else if conv.kind = 'o' then
    (toIndex v).bind fun n => digitsText conv ['0','o'] (Nat.toDigits 8 n.natAbs) n
  else if conv.kind ∈ ['e','E','f','F','g','G'] then (toReal t v).map (floatText t conv)
  else if conv.kind = 'c' then characterText conv v
  else none

def lookedUp (right : Value) (key : List Char) : Option Value :=
  match right with
  | .dict _ entries => item? entries (String.ofList key)
  | _ => none

def givenValue (right : Value) (conv : Conversion) (argument : Option Value) : Option Value :=
  match conv.key with
  | some key => lookedUp right key
  | none => argument

def formatPieces (right : Value) : List Piece → Option Value → Option (List Char × Option Value)
  | [],argument => some ([],argument)
  | .literal c :: rest,argument =>
    (formatPieces right rest argument).map fun r => (c :: r.1,r.2)
  | .conversion conv :: rest,argument => do
    let v ← givenValue right conv argument
    let text ← convert t conv v
    let r ← formatPieces right rest none
    pure (text ++ r.1,r.2)

def passesForMapping : Value → Bool
  | .dict _ _ | .list _ => true
  | _ => false

def formatText (format : List Char) (right : Value) : Option (List Char) := do
  let found ← pieces format
  let (text,left) ← formatPieces t right found (some right)
  if left.isSome && !passesForMapping right then none else some text

end

def conversionsOf : List Piece → List Conversion
  | [] => []
  | .literal _ :: rest => conversionsOf rest
  | .conversion conv :: rest => conv :: conversionsOf rest

def literalsOf : List Piece → List Char
  | [] => []
  | .literal c :: rest => c :: literalsOf rest
  | .conversion _ :: rest => literalsOf rest

theorem length_readKey {depth : Nat} {text key rest : List Char}
    (h : readKey depth text = some (key,rest)) : rest.length ≤ text.length := by
  induction text generalizing depth key with
  | nil => cases h
  | cons c text ih =>
    rw [length_cons]
    simp only [readKey] at h
    split at h
    · split at h
      · obtain ⟨-,rfl⟩ := mk.inj (Option.some.inj h)
        exact Nat.le_succ _
      · obtain ⟨r,hr,hrest⟩ := map_eq_some_iff.1 h
        obtain ⟨-,rfl⟩ := mk.inj hrest
        have hr' := ih hr
        omega
    · obtain ⟨r,hr,hrest⟩ := map_eq_some_iff.1 h
      obtain ⟨-,rfl⟩ := mk.inj hrest
      have hr' := ih hr
      omega

theorem length_readMappingKey {text rest : List Char} {key : Option (List Char)}
    (h : readMappingKey text = some (key,rest)) : rest.length ≤ text.length := by
  unfold readMappingKey at h
  split at h
  · rename_i tail
    obtain ⟨r,hr,hrest⟩ := map_eq_some_iff.1 h
    obtain ⟨-,rfl⟩ := mk.inj hrest
    have hlength := length_readKey hr
    rw [length_cons]
    omega
  · obtain ⟨-,rfl⟩ := mk.inj (Option.some.inj h)
    exact Nat.le_refl _

theorem length_readPrecision (text : List Char) : (readPrecision text).2.length ≤ text.length := by
  unfold readPrecision
  split
  · rename_i rest
    have hdropped := (dropWhile_suffix Char.isDigit (l := rest)).length_le
    simp only [length_cons]
    omega
  · exact Nat.le_refl _

theorem length_skipModifier (text : List Char) : (skipModifier text).length ≤ text.length := by
  cases text with
  | nil => exact Nat.le_refl _
  | cons c rest =>
    rw [skipModifier]
    split
    · exact Nat.le_succ _
    · exact Nat.le_refl _

theorem length_readConversion {text rest : List Char} {conv : Conversion}
    (h : readConversion text = some (conv,rest)) : rest.length < text.length := by
  obtain ⟨⟨key,afterKey⟩,hkey,h⟩ := bind_eq_some_iff.1 h
  have hkeyed := length_readMappingKey hkey
  have hflags := (dropWhile_suffix isFlag (l := afterKey)).length_le
  have hwidth := (dropWhile_suffix Char.isDigit (l := afterKey.dropWhile isFlag)).length_le
  have hprecision := length_readPrecision ((afterKey.dropWhile isFlag).dropWhile Char.isDigit)
  have hmodifier := length_skipModifier
    (readPrecision ((afterKey.dropWhile isFlag).dropWhile Char.isDigit)).2
  dsimp only at h
  split at h
  · cases h
  · rename_i kind tail hskipped
    split at h
    · cases h
    · obtain ⟨-,rfl⟩ := mk.inj (Option.some.inj h)
      rw [hskipped,length_cons] at hmodifier
      omega

theorem length_literalsOf {n : Nat} {text : List Char} {found : List Piece}
    (h : readPieces n text = some found) : (literalsOf found).length ≤ text.length := by
  induction n generalizing text found with
  | zero =>
    rw [readPieces] at h
    split at h
    · obtain rfl := Option.some.inj h
      exact Nat.zero_le _
    · cases h
  | succ n ih =>
    unfold readPieces at h
    split at h
    · obtain rfl := Option.some.inj h
      exact Nat.zero_le _
    · obtain ⟨found,hfound,rfl⟩ := map_eq_some_iff.1 h
      have hrest := ih hfound
      simp only [literalsOf,length_cons]
      omega
    · obtain ⟨⟨conv,rest⟩,hconv,h⟩ := bind_eq_some_iff.1 h
      obtain ⟨found,hfound,h⟩ := bind_eq_some_iff.1 h
      obtain rfl := Option.some.inj h
      have hread := length_readConversion hconv
      have hrest := ih hfound
      simp only [literalsOf,length_cons]
      omega
    · obtain ⟨found,hfound,rfl⟩ := map_eq_some_iff.1 h
      have hrest := ih hfound
      simp only [literalsOf,length_cons]
      omega

variable {t : Texts}

variable {v : Value}

theorem size_item {entries : List (String × Value)} {key : String}
    (h : item? entries key = some v) : v.size ≤ sizeEntries entries := by
  induction entries with
  | nil => cases h
  | cons entry rest ih =>
    obtain ⟨name,first⟩ := entry
    rw [sizeEntries]
    by_cases hname : name = key
    · simp only [item?,hname,decide_true,find?_cons_of_pos,map_some] at h
      obtain rfl := Option.some.inj h
      omega
    · have hrest := ih (by simpa [item?,hname] using h)
      omega

theorem size_lookedUp {right v : Value} {key : List Char} (h : lookedUp right key = some v) :
    v.size ≤ right.size := by
  unfold lookedUp at h
  split at h
  · rename_i attr entries
    have hitem := size_item h
    rw [Value.size]
    omega
  · cases h

theorem length_digits_toInteger {b : Nat} (hb : 8 ≤ b) {n : Int}
    (h : toInteger t v = some n) : (Nat.toDigits b n.natAbs).length ≤ v.size+342 := by
  have hdigits := length_toDigits_le hb n.natAbs
  cases v with
  | int k =>
    obtain rfl := Option.some.inj h
    rw [Value.size]
    omega
  | bool flag =>
    obtain rfl := Option.some.inj h
    have hsmall : (if flag then 1 else 0 : Int).natAbs.size ≤ 1 := by cases flag <;> decide
    omega
  | float x =>
    have hsize := t.size_truncate x n h
    omega
  | none => cases h
  | str s => cases h
  | list items => cases h
  | dict attr entries => cases h

theorem toInteger_of_toIndex {n : Int} (h : toIndex v = some n) : toInteger t v = some n := by
  cases v with
  | int k => exact h
  | bool flag => exact h
  | none => cases h
  | float x => cases h
  | str s => cases h
  | list items => cases h
  | dict attr entries => cases h

def textBound (width precision size : Nat) : Nat := max width (precision+10*size+350)

variable {conv : Conversion}

theorem length_digitsText {marker digits text : List Char} {n : Int}
    {size : Nat} (h : digitsText conv marker digits n = some text) (hmarker : marker.length ≤ 2)
    (hdigits : digits.length ≤ size+342) :
    text.length ≤ textBound conv.width (conv.precision.getD 0) size := by
  unfold digitsText at h
  split at h
  · cases h
  · obtain rfl := Option.some.inj h
    have hsign := length_signText conv.flags (n < 0)
    have hmark : (if conv.flags.alternate then marker else []).length ≤ 2 := by
      split
      · exact hmarker
      · exact Nat.zero_le _
    simp only [length_padded,length_append,length_replicate,textBound]
    omega

theorem length_stringText {body : List Char} {size : Nat} (hbody : body.length ≤ 10*size+350) :
    (stringText conv body).length ≤ textBound conv.width (conv.precision.getD 0) size := by
  have hcut : (conv.precision.elim body fun p => body.take p).length ≤ body.length := by
    cases conv.precision with
    | none => exact Nat.le_refl _
    | some p => exact length_take_le' _ _
  simp only [stringText,length_padded,length_nil,textBound]
  omega

theorem length_floatText (conv : Conversion) (x : UInt64) (size : Nat) :
    (floatText t conv x).length ≤ textBound conv.width (conv.precision.getD 0) size := by
  have hformat := t.length_formatFloat conv.kind conv.flags.alternate (conv.precision.getD 6) x
  have hdefault : conv.precision.getD 6 ≤ conv.precision.getD 0+6 := by
    cases conv.precision <;> simp
  have hsign := length_signText conv.flags false
  unfold floatText
  dsimp only
  split
  · rename_i body hbody
    rw [hbody,length_cons] at hformat
    simp only [length_padded,length_cons,length_nil,textBound]
    omega
  · rename_i body hbody
    simp only [length_padded,textBound]
    omega

variable {text : List Char}

theorem length_characterText {size : Nat} (h : characterText conv v = some text) :
    text.length ≤ textBound conv.width (conv.precision.getD 0) size := by
  have hone : ∀ c : List Char, c.length ≤ 1 → (padded conv.flags false conv.width [] c).length ≤
      textBound conv.width (conv.precision.getD 0) size := by
    intro c hc
    simp only [length_padded,length_nil,textBound]
    omega
  unfold characterText at h
  split at h
  · split at h
    · rename_i s hs
      obtain rfl := Option.some.inj h
      exact hone _ (Nat.le_of_eq (by rw [String.length_toList,hs]))
    · cases h
  · obtain ⟨n,-,h⟩ := bind_eq_some_iff.1 h
    split at h
    · obtain rfl := Option.some.inj h
      exact hone _ (by simp)
    · cases h

theorem length_convert (h : convert t conv v = some text) :
    text.length ≤ textBound conv.width (conv.precision.getD 0) v.size := by
  have hrepr : ∀ printable, (reprValue t printable v).map (stringText conv) = some text →
      text.length ≤ textBound conv.width (conv.precision.getD 0) v.size := by
    intro printable hmap
    obtain ⟨body,hbody,rfl⟩ := map_eq_some_iff.1 hmap
    have hlength := length_reprValue hbody
    exact length_stringText (by omega)
  have hindex : ∀ {n : Int} {b : Nat}, 8 ≤ b → toIndex v = some n →
      (Nat.toDigits b n.natAbs).length ≤ v.size+342 :=
    fun hb hn => length_digits_toInteger (t := t) hb (toInteger_of_toIndex hn)
  unfold convert at h
  split at h
  · split at h
    · rename_i s
      obtain rfl := Option.some.inj h
      refine length_stringText ?_
      rw [String.length_toList,Value.size]
      omega
    · exact hrepr _ h
  split at h
  · exact hrepr _ h
  split at h
  · exact hrepr _ h
  split at h
  · obtain ⟨n,hn,h⟩ := bind_eq_some_iff.1 h
    obtain ⟨written,-,h⟩ := bind_eq_some_iff.1 h
    exact length_digitsText h (Nat.zero_le _) (length_digits_toInteger (by decide) hn)
  split at h
  · obtain ⟨n,hn,h⟩ := bind_eq_some_iff.1 h
    exact length_digitsText h (by decide) (hindex (by decide) hn)
  split at h
  · obtain ⟨n,hn,h⟩ := bind_eq_some_iff.1 h
    refine length_digitsText h (by decide) ?_
    rw [length_map]
    exact hindex (by decide) hn
  split at h
  · obtain ⟨n,hn,h⟩ := bind_eq_some_iff.1 h
    exact length_digitsText h (by decide) (hindex (by decide) hn)
  split at h
  · obtain ⟨x,-,rfl⟩ := map_eq_some_iff.1 h
    exact length_floatText conv x v.size
  split at h
  · exact length_characterText h
  · cases h

theorem textBound_le {width precision size m bound : Nat} (hwidth : width ≤ m)
    (hprecision : precision ≤ m) (hsize : size ≤ bound) :
    textBound width precision size ≤ m+10*bound+350 := by
  rw [textBound]
  omega

theorem length_formatPieces {right : Value} {m : Nat} {found : List Piece}
    {argument left : Option Value}
    (hbound : ∀ conv ∈ conversionsOf found, conv.width ≤ m ∧ conv.precision.getD 0 ≤ m)
    (hargument : ∀ v ∈ argument, v.size ≤ right.size)
    (h : formatPieces t right found argument = some (text,left)) : text.length ≤
      (literalsOf found).length+(conversionsOf found).length*(m+10*right.size+350) := by
  induction found generalizing argument text left with
  | nil =>
    obtain ⟨rfl,-⟩ := mk.inj (Option.some.inj h)
    exact Nat.zero_le _
  | cons piece rest ih =>
    cases piece with
    | literal c =>
      obtain ⟨r,hr,heq⟩ := map_eq_some_iff.1 h
      obtain ⟨rfl,-⟩ := mk.inj heq
      have hrest := ih hbound hargument hr
      simp only [literalsOf,conversionsOf,length_cons]
      omega
    | conversion conv =>
      obtain ⟨v,hv,h⟩ := bind_eq_some_iff.1 h
      obtain ⟨first,hfirst,h⟩ := bind_eq_some_iff.1 h
      obtain ⟨r,hr,h⟩ := bind_eq_some_iff.1 h
      obtain ⟨rfl,-⟩ := mk.inj (Option.some.inj h)
      have hsize : v.size ≤ right.size := by
        unfold givenValue at hv
        split at hv
        · exact size_lookedUp hv
        · exact hargument v hv
      obtain ⟨hwidth,hprecision⟩ := hbound conv mem_cons_self
      have hconvert := Nat.le_trans (length_convert hfirst) (textBound_le hwidth hprecision hsize)
      have hrest := ih (fun conv hmem => hbound conv (mem_cons_of_mem _ hmem))
        (fun v hv => by cases hv) hr
      simp only [literalsOf,conversionsOf,length_append,length_cons,Nat.add_mul,Nat.one_mul]
      omega

theorem length_formatText {format : List Char} {right : Value} {m : Nat} {found : List Piece}
    (hfound : pieces format = some found)
    (hbound : ∀ conv ∈ conversionsOf found, conv.width ≤ m ∧ conv.precision.getD 0 ≤ m)
    (h : formatText t format right = some text) :
    text.length ≤ format.length+(conversionsOf found).length*(m+10*right.size+350) := by
  obtain ⟨found',hfound',h⟩ := bind_eq_some_iff.1 h
  obtain rfl := Option.some.inj (hfound.symm.trans hfound')
  obtain ⟨⟨made,left⟩,hmade,h⟩ := bind_eq_some_iff.1 h
  dsimp only at h
  split at h
  · cases h
  · obtain rfl := Option.some.inj h
    have hliterals := length_literalsOf hfound
    have hlength := length_formatPieces hbound
      (fun v hv => Nat.le_of_eq (by rw [mem_some_iff.1 hv])) hmade
    omega

end ExperimentControl.Python

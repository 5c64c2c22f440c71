import Mathlib.Analysis.SpecialFunctions.Log.Base
import ExperimentControl.Python.Percent
import ExperimentControl.Sequencer.Eval

/-!
The size check of the operators (`sequencer/eval.py`): an operation whose result would be huge is
refused before it is computed.
-/

namespace ExperimentControl.Sequencer
open Lib Python String

def maxIntDigits : Nat := 4000

/-- `int(MAX_INT_DIGITS * 3.3219280948873626)` -/
def maxIntBits : Nat := 13287

/-- What the check takes from Python: `math.log2(n) * r`, which is a float, and the values of the
digits that a pattern knows. -/
structure Numerals where
  log2Times : Nat → Nat → ℚ
  decimal : Char → Option Nat
  accurate : ∀ n r, 1 < n → r ≤ maxIntBits → |(log2Times n r : ℝ)-r*Real.logb 2 n| ≤ 1

section
variable (nums : Numerals)

/-- `int` of the digits that a pattern has found. -/
def patternNumber (digits : List Char) : Option Nat :=
  if maxStrDigits < digits.length then none
  else some (digits.foldl (fun n c => 10*n+(nums.decimal c).getD 0) 0)

def isDecimal (c : Char) : Bool := (nums.decimal c).isSome

def endsSpec (c : Char) : Bool := c.isAlpha || c = '%'

def skipKeyGroup (text : List Char) : List Char :=
  match text with
  | '(' :: rest =>
    match rest.dropWhile (· ≠ ')') with
    | _ :: afterKey => afterKey
    | [] => text
  | _ => text

def precisionGroup (text : List Char) : List Char × List Char :=
  match text with
  | '.' :: rest =>
    if rest.takeWhile (isDecimal nums) = [] then ([],text)
    else (rest.takeWhile (isDecimal nums),rest.dropWhile (isDecimal nums))
  | _ => ([],text)

def endGroup (text : List Char) : Option (List Char) :=
  match text with
  | [] => none
  | c :: rest =>
    if isModifier c ∧ rest.head?.any endsSpec then some rest.tail
    else if endsSpec c then some rest
    else none

/-- `_FORMAT_SPEC_RE` behind its `%`: the groups of the width and of the precision. -/
def matchSpec (text : List Char) : Option ((List Char × List Char) × List Char) :=
  let text := (skipKeyGroup text).dropWhile isFlag
  let width := text.takeWhile (isDecimal nums)
  let (precision,text) := precisionGroup nums (text.dropWhile (isDecimal nums))
  (endGroup text).map fun rest => ((width,precision),rest)

/-- `_FORMAT_SPEC_RE.findall`; the first argument bounds the search. -/
def findSpecs : Nat → List Char → List (List Char × List Char)
  | 0,_ => []
  | n+1,text =>
    match text with
    | [] => []
    | '%' :: rest =>
      match matchSpec nums rest with
      | some (groups,rest) => groups :: findSpecs n rest
      | none => findSpecs n rest
    | _ :: rest => findSpecs n rest

def specSizes (format : List Char) : Option (List Nat) :=
  ((findSpecs nums format.length format).flatMap fun groups =>
    [groups.1,groups.2].filter (· ≠ [])).mapM (patternNumber nums)

def isInt : Value → Bool
  | .int _ => true
  | _ => false

def isSequence : Value → Bool
  | .str _ | .list _ => true
  | _ => false

def intResultTooLarge (op : BinOp) (left right : Int) : Bool :=
  match op with
  | .pow =>
    if right ≤ 0 ∨ left.natAbs ≤ 1 then false
    else maxIntBits < right || maxIntBits < nums.log2Times left.natAbs right.toNat
  | .mult => maxIntBits+1 < left.natAbs.size+right.natAbs.size
  | _ => false

def repetition (left right : Value) : Option (Value × Nat) :=
  let (seq,count) := if isInt right then (left,right) else (right,left)
  match count with
  | .int n => if isSequence seq ∧ 0 < n then some (seq,n.toNat) else none
  | _ => none

/-- `_result_size`; `none` is the `ValueError` of a width of too many digits. -/
def resultSize (op : BinOp) (left right : Value) : Option Nat :=
  match op with
  | .mult =>
    match repetition left right with
    | some (seq,count) => some (textSize maxResultSize seq*count)
    | none => some 0
  | .add =>
    if isSequence left ∧ isSequence right then
      some (textSize maxResultSize left+textSize maxResultSize right)
    else some 0
  | .mod =>
    match left with
    | .str format => do
      let sizes ← specSizes nums format.toList
      pure (format.length+textSize maxResultSize right+sizes.foldl max 0)
    | _ => some 0
  | _ => some 0

def sizeRefused (expr limit : String) : PyExc :=
  ⟨.valueTooLarge,"result of $\x7b" ++ expr ++ "\x7d would be too large (" ++ limit ++ ")"⟩

def checkResultSize (op : BinOp) (left right : Value) (expr : String) : Except PyExc Unit :=
  match left,right with
  | .int l,.int r =>
    if intResultTooLarge nums op l r then
      .error (sizeRefused expr ("more than " ++ toString maxIntDigits ++ " digits"))
    else .ok ()
  | left,right =>
    match resultSize nums op left right with
    | none => .error ⟨.valueError,"Exceeds the limit (4300 digits) for integer string conversion"⟩
    | some size =>
      if maxResultSize < size then .error (sizeRefused expr "more than 1,000,000 characters")
      else .ok ()

end

def repeated {α : Type} (items : List α) (n : Nat) : List α := (List.replicate n items).flatten

/-- What an operator makes of texts, lists and integers, where that is such a value again. -/
def combine (t : Texts) (op : BinOp) (left right : Value) : Option Value :=
  match op,left,right with
  | .add,.str a,.str b => some (.str (a ++ b))
  | .add,.list a,.list b => some (.list (a ++ b))
  | .add,.int a,.int b => some (.int (a+b))
  | .mult,.int a,.int b => some (.int (a*b))
  | .mult,.str s,.int n => some (.str (String.ofList (repeated s.toList n.toNat)))
  | .mult,.int n,.str s => some (.str (String.ofList (repeated s.toList n.toNat)))
  | .mult,.list items,.int n => some (.list (repeated items n.toNat))
  | .mult,.int n,.list items => some (.list (repeated items n.toNat))
  | .mod,.str format,v => (formatText t format.toList v).map fun text => .str (String.ofList text)
  | .mod,.int a,.int b => if b = 0 then none else some (.int (a.fmod b))
  | .pow,.int a,.int b => if 0 ≤ b then some (.int (a^b.toNat)) else none
  | _,_,_ => none

mutual
theorem size_eq_textSize (limit : Nat) : ∀ v : Value, textSize limit v ≤ limit →
    v.size = textSize limit v
  | .none,_ => rfl
  | .bool _,_ => rfl
  | .int _,_ => rfl
  | .float _,_ => rfl
  | .str _,_ => rfl
  | .list items,h => by
    rw [textSize] at h ⊢
    rw [Value.size]
    exact sizeItems_eq h
  | .dict _ entries,h => by
    rw [textSize] at h ⊢
    rw [Value.size]
    exact sizeEntries_eq h
theorem sizeItems_eq {limit : Nat} : ∀ {items : List Value} {total : Nat},
    itemSizes limit total items ≤ limit → total+sizeItems items = itemSizes limit total items
  | [],total,_ => rfl
  | v :: rest,total,h => by
    rw [itemSizes] at h ⊢
    split at h
    · omega
    · rename_i hfits
      have hv := size_eq_textSize limit v (by omega)
      have hrest := sizeItems_eq h
      rw [if_neg hfits,← hrest,sizeItems,hv]
      omega
theorem sizeEntries_eq {limit : Nat} : ∀ {entries : List (String × Value)} {total : Nat},
    entrySizes limit total entries ≤ limit →
      total+sizeEntries entries = entrySizes limit total entries
  | [],total,_ => rfl
  | (key,v) :: rest,total,h => by
    rw [entrySizes] at h ⊢
    dsimp only at h ⊢
    split at h
    · omega
    · rename_i hkey
      split at h
      · omega
      · rename_i hfits
        have hv := size_eq_textSize limit v (by omega)
        have hrest := sizeEntries_eq h
        rw [if_neg hkey,if_neg hfits,← hrest,sizeEntries,hv]
        omega
end

theorem length_repeated {α : Type} (items : List α) (n : Nat) :
    (repeated items n).length = n*items.length := by
  simp [repeated]

def elements : Value → Nat
  | .str s => s.length
  | .list items => items.length
  | _ => 0

theorem elements_le_size (v : Value) : elements v ≤ v.size := by
  cases v with
  | str s => exact Nat.le_refl _
  | list items => exact Nat.le_add_right _ _
  | none => exact Nat.zero_le _
  | bool b => exact Nat.zero_le _
  | int n => exact Nat.zero_le _
  | float x => exact Nat.zero_le _
  | dict attr entries => exact Nat.zero_le _

section
variable {nums : Numerals}

theorem size_mul_le (a b : Int) : (a*b).natAbs.size ≤ a.natAbs.size+b.natAbs.size := by
  rw [Nat.size_le,Int.natAbs_mul,Nat.pow_add]
  exact Nat.mul_lt_mul'' (Nat.lt_size_self _) (Nat.lt_size_self _)

theorem size_pow_le {n r : Nat} (hn : 1 < n) (hr : r ≤ maxIntBits)
    (hlog : nums.log2Times n r ≤ maxIntBits) : (n^r).size ≤ maxIntBits+2 := by
  have hreal : (nums.log2Times n r : ℝ) ≤ (maxIntBits : ℝ) := by exact_mod_cast hlog
  have haccurate := (abs_le.1 (nums.accurate n r hn hr)).1
  have hpositive : (0 : ℝ) < (n : ℝ)^r := by positivity
  have hlogb : Real.logb 2 ((n : ℝ)^r) ≤ ((maxIntBits+1 : Nat) : ℝ) := by
    rw [Real.logb_pow]
    push_cast
    linarith
  rw [Real.logb_le_iff_le_rpow (by norm_num) hpositive,Real.rpow_natCast] at hlogb
  have hnat : n^r ≤ 2^(maxIntBits+1) := by exact_mod_cast hlogb
  rw [Nat.size_le]
  calc
    n^r ≤ 2^(maxIntBits+1) := hnat
    _ < 2^(maxIntBits+2) := Nat.pow_lt_pow_right (by decide) (Nat.lt_succ_self _)

theorem size_pow_small {n : Nat} (hn : n ≤ 1) (r : Nat) : (n^r).size ≤ 1 := by
  rw [Nat.size_le]
  have hpow : n^r ≤ 1^r := Nat.pow_le_pow_left hn r
  rw [Nat.one_pow] at hpow
  omega

theorem int_result_bounded {op : BinOp} {a b r : Int} (t : Texts)
    (hop : op = .mult ∨ op = .pow) (hcheck : intResultTooLarge nums op a b = false)
    (hr : combine t op (.int a) (.int b) = some (.int r)) : r.natAbs.size ≤ maxIntBits+2 := by
  rcases hop with rfl | rfl
  · have hfits : a.natAbs.size+b.natAbs.size ≤ maxIntBits+1 := by
      simpa [intResultTooLarge] using hcheck
    have hproduct := size_mul_le a b
    obtain rfl : a*b = r := Value.int.inj (Option.some.inj hr)
    omega
  · rw [combine] at hr
    split at hr
    · obtain rfl : a^b.toNat = r := Value.int.inj (Option.some.inj hr)
      rw [Int.natAbs_pow]
      by_cases hsmall : a.natAbs ≤ 1
      · have hone := size_pow_small hsmall b.toNat
        omega
      by_cases hzero : b ≤ 0
      · have htoNat : b.toNat = 0 := by omega
        rw [htoNat,pow_zero]
        decide
      · have hchecked : (b ≤ maxIntBits) ∧ nums.log2Times a.natAbs b.toNat ≤ maxIntBits := by
          simpa [intResultTooLarge,hsmall,hzero] using hcheck
        exact size_pow_le (by omega) (by omega) hchecked.2
    · cases hr

variable {left right : Value} {expr : String}

theorem resultSize_of_checked {op : BinOp}
    (hcheck : checkResultSize nums op left right expr = .ok ())
    (hints : isInt left = false ∨ isInt right = false) :
    ∃ size, resultSize nums op left right = some size ∧ size ≤ maxResultSize := by
  unfold checkResultSize at hcheck
  split at hcheck
  · rcases hints with h | h <;> cases h
  · cases hsize : resultSize nums op left right with
    | none =>
      rw [hsize] at hcheck
      cases hcheck
    | some size =>
      rw [hsize] at hcheck
      dsimp only at hcheck
      split at hcheck
      · cases hcheck
      · rename_i hfits
        exact ⟨size,rfl,Nat.not_lt.1 hfits⟩

theorem int_of_checked {op : BinOp} {a b : Int}
    (hcheck : checkResultSize nums op (.int a) (.int b) expr = .ok ()) :
    intResultTooLarge nums op a b = false := by
  simp only [checkResultSize] at hcheck
  split at hcheck
  · cases hcheck
  · rename_i hfits
    simpa using hfits

theorem add_bounded (hleft : isSequence left = true) (hright : isSequence right = true)
    (hcheck : checkResultSize nums .add left right expr = .ok ()) :
    left.size+right.size ≤ maxResultSize := by
  have hnotInt : isInt left = false := by
    cases left with
    | int a => cases hleft
    | none | bool _ | float _ | str _ | list _ | dict _ _ => rfl
  obtain ⟨size,hsize,hfits⟩ := resultSize_of_checked hcheck (.inl hnotInt)
  rw [resultSize,if_pos ⟨hleft,hright⟩] at hsize
  obtain rfl := Option.some.inj hsize
  have hleftSize := size_eq_textSize maxResultSize left (by omega)
  have hrightSize := size_eq_textSize maxResultSize right (by omega)
  omega

theorem mult_bounded (seq : Value) (count : Int) (hints : isInt left = false ∨ isInt right = false)
    (hrepetition : 0 < count → repetition left right = some (seq,count.toNat))
    (hcheck : checkResultSize nums .mult left right expr = .ok ()) :
    count.toNat*seq.size ≤ maxResultSize := by
  by_cases hcount : 0 < count
  · obtain ⟨size,hsize,hfits⟩ := resultSize_of_checked hcheck hints
    simp only [resultSize,hrepetition hcount] at hsize
    obtain rfl := Option.some.inj hsize
    have hone : textSize maxResultSize seq*1 ≤ textSize maxResultSize seq*count.toNat :=
      Nat.mul_le_mul_left _ (by omega)
    have hseq := size_eq_textSize maxResultSize seq (by omega)
    rw [hseq,Nat.mul_comm]
    exact hfits
  · have hzero : count.toNat = 0 := by omega
    rw [hzero,Nat.zero_mul]
    exact Nat.zero_le _

/-- At most `n` conversions of a format make text, and the pattern misses no width or precision. -/
def Counted (nums : Numerals) (n : Nat) (format : String) : Prop :=
  ∀ found sizes, pieces format.toList = some found → specSizes nums format.toList = some sizes →
    (conversionsOf found).length ≤ n ∧ ∀ conv ∈ conversionsOf found,
      conv.width ≤ sizes.foldl max 0 ∧ conv.precision.getD 0 ≤ sizes.foldl max 0

theorem format_bounded {t : Texts} {n : Nat} {format : String} {right : Value} {text : List Char}
    (hcounted : Counted nums n format)
    (hcheck : checkResultSize nums .mod (.str format) right expr = .ok ())
    (hr : formatText t format.toList right = some text) :
    text.length ≤ (11*n+1)*maxResultSize := by
  obtain ⟨size,hsize,hfits⟩ := resultSize_of_checked hcheck (.inl rfl)
  obtain ⟨sizes,hsizes,hsize⟩ := Option.bind_eq_some_iff.1 hsize
  obtain rfl := Option.some.inj hsize
  obtain ⟨found,hfound,-⟩ := Option.bind_eq_some_iff.1 hr
  obtain ⟨hfew,hbound⟩ := hcounted found sizes hfound hsizes
  have hright := size_eq_textSize maxResultSize right (by omega)
  have hlength := length_formatText hfound hbound hr
  have heach : sizes.foldl max 0+10*right.size+350 ≤ 11*maxResultSize := by
    have hlimit : 350 ≤ maxResultSize := by decide
    omega
  have htimes : (conversionsOf found).length*(sizes.foldl max 0+10*right.size+350) ≤
      n*(11*maxResultSize) := Nat.mul_le_mul hfew heach
  rw [length_toList] at hlength
  calc
    text.length ≤ format.length+n*(11*maxResultSize) := by omega
    _ ≤ maxResultSize+n*(11*maxResultSize) := by omega
    _ = (11*n+1)*maxResultSize := by ring

/-- An operation that the check lets through makes a value of about the size it is allowed, when it
formats with no more than `n` conversions. -/
theorem checked_result_bounded {t : Texts} {n : Nat} {op : BinOp} {left right result : Value}
    {expr : String} (hcounted : ∀ format, op = .mod → left = .str format → Counted nums n format)
    (hcheck : checkResultSize nums op left right expr = .ok ())
    (hr : combine t op left right = some result) : elements result ≤ (11*n+1)*maxResultSize ∧
      ∀ k, result = .int k → op = .mult ∨ op = .pow → k.natAbs.size ≤ maxIntBits+2 := by
  have hroom : maxResultSize ≤ (11*n+1)*maxResultSize := Nat.le_mul_of_pos_left _ (Nat.succ_pos _)
  have htext : ∀ {r : Value}, elements r ≤ maxResultSize → (∀ k, r ≠ .int k) →
      elements r ≤ (11*n+1)*maxResultSize ∧
        ∀ k, r = .int k → op = .mult ∨ op = .pow → k.natAbs.size ≤ maxIntBits+2 :=
    fun hfits hnot => ⟨hfits.trans hroom,fun k hk => absurd hk (hnot k)⟩
  have hinteger : ∀ {a b r : Int}, combine t op (.int a) (.int b) = some (.int r) →
      checkResultSize nums op (.int a) (.int b) expr = .ok () →
      elements (.int r) ≤ (11*n+1)*maxResultSize ∧
        ∀ k, Value.int r = .int k → op = .mult ∨ op = .pow → k.natAbs.size ≤ maxIntBits+2 := by
    intro a b r hr hcheck
    refine ⟨Nat.zero_le _,fun k hk hop => ?_⟩
    obtain rfl := Value.int.inj hk
    exact int_result_bounded t hop (int_of_checked hcheck) hr
  have hcombine := hr
  unfold combine at hr
  split at hr
  · rename_i a b
    obtain rfl := Option.some.inj hr
    have hsum : a.length+b.length ≤ maxResultSize := add_bounded rfl rfl hcheck
    exact htext (by rw [elements,length_append]; exact hsum) (by simp)
  · rename_i a b
    obtain rfl := Option.some.inj hr
    have hsum := add_bounded rfl rfl hcheck
    have ha := elements_le_size (.list a)
    have hb := elements_le_size (.list b)
    refine htext ?_ (by simp)
    simp only [elements,List.length_append] at ha hb ⊢
    omega
  · obtain rfl := Option.some.inj hr
    exact hinteger hcombine hcheck
  · obtain rfl := Option.some.inj hr
    exact hinteger hcombine hcheck
  · rename_i s count
    obtain rfl := Option.some.inj hr
    have hmany := mult_bounded (.str s) count (.inl rfl)
      (fun hcount => by simp [repetition,isInt,isSequence,hcount]) hcheck
    refine htext ?_ (by simp)
    rw [elements,length_ofList,length_repeated,length_toList]
    exact hmany
  · rename_i count s
    obtain rfl := Option.some.inj hr
    have hmany := mult_bounded (.str s) count (.inr rfl)
      (fun hcount => by simp [repetition,isInt,isSequence,hcount]) hcheck
    refine htext ?_ (by simp)
    rw [elements,length_ofList,length_repeated,length_toList]
    exact hmany
  · rename_i items count
    obtain rfl := Option.some.inj hr
    have hmany := mult_bounded (.list items) count (.inl rfl)
      (fun hcount => by simp [repetition,isInt,isSequence,hcount]) hcheck
    refine htext ?_ (by simp)
    rw [elements,length_repeated]
    exact (Nat.mul_le_mul_left _ (elements_le_size (.list items))).trans hmany
  · rename_i count items
    obtain rfl := Option.some.inj hr
    have hmany := mult_bounded (.list items) count (.inr rfl)
      (fun hcount => by simp [repetition,isInt,isSequence,hcount]) hcheck
    refine htext ?_ (by simp)
    rw [elements,length_repeated]
    exact (Nat.mul_le_mul_left _ (elements_le_size (.list items))).trans hmany
  · rename_i right format
    obtain ⟨text,htext',rfl⟩ := Option.map_eq_some_iff.1 hr
    refine ⟨?_,fun k hk => by cases hk⟩
    rw [elements,length_ofList]
    exact format_bounded (hcounted format rfl rfl) hcheck htext'
  · rename_i a b
    split at hr
    · cases hr
    · obtain rfl := Option.some.inj hr
      exact hinteger hcombine hcheck
  · rename_i a b
    split at hr
    · obtain rfl := Option.some.inj hr
      exact hinteger hcombine hcheck
    · cases hr
  · cases hr

end

def plainTexts : Texts where
  printable := fun c => 0xa0 < c.toNat
  reprFloat := fun _ => []
  truncate := fun _ => none
  toFloat := fun _ => none
  formatFloat := fun _ _ _ _ => []
  length_reprFloat := fun _ => Nat.zero_le _
  size_truncate := fun _ _ h => by cases h
  length_formatFloat := fun _ _ _ _ => Nat.zero_le _

theorem log_accurate (n r : Nat) (hn : 1 < n) :
    |(((Nat.log 2 (n^r) : Nat) : ℚ) : ℝ)-r*Real.logb 2 n| ≤ 1 := by
  have hpositive : 0 < n^r := Nat.pow_pos (by omega)
  have hreal : (0 : ℝ) < ((n^r : Nat) : ℝ) := by exact_mod_cast hpositive
  have hlow : (2 : ℝ)^(Nat.log 2 (n^r)) ≤ ((n^r : Nat) : ℝ) := by
    exact_mod_cast Nat.pow_log_le_self 2 hpositive.ne'
  have hhigh : ((n^r : Nat) : ℝ) ≤ (2 : ℝ)^(Nat.log 2 (n^r)+1) := by
    exact_mod_cast (Nat.lt_pow_succ_log_self (by decide) (n^r)).le
  have hlogb : r*Real.logb 2 n = Real.logb 2 ((n^r : Nat) : ℝ) := by
    rw [Nat.cast_pow,Real.logb_pow]
  have hbelow : ((Nat.log 2 (n^r) : Nat) : ℝ) ≤ Real.logb 2 ((n^r : Nat) : ℝ) := by
    rw [Real.le_logb_iff_rpow_le (by norm_num) hreal,Real.rpow_natCast]
    exact hlow
  have habove : Real.logb 2 ((n^r : Nat) : ℝ) ≤ ((Nat.log 2 (n^r)+1 : Nat) : ℝ) := by
    rw [Real.logb_le_iff_le_rpow (by norm_num) hreal,Real.rpow_natCast]
    exact hhigh
  push_cast at habove
  rw [hlogb,abs_le]
  constructor
  · push_cast at hbelow ⊢
    linarith
  · push_cast at hbelow ⊢
    linarith

def plainNumerals : Numerals where
  log2Times := fun n r => (Nat.log 2 (n^r) : Nat)
  decimal := fun c => if c.isDigit then some (c.toNat-48) else none
  accurate := fun n r hn _ => log_accurate n r hn

theorem counted_width : Counted plainNumerals 1 "%3d" := by
  intro found sizes hfound hsizes
  have hpieces : pieces "%3d".toList =
      some [.conversion ⟨none,⟨false,false,false,false,false⟩,3,none,'d'⟩] := rfl
  have hpattern : specSizes plainNumerals "%3d".toList = some [3] := rfl
  obtain rfl := Option.some.inj (hpieces.symm.trans hfound)
  obtain rfl := Option.some.inj (hpattern.symm.trans hsizes)
  simp [conversionsOf]

theorem checked_result_bounded_width : elements (.str "  1") ≤ (11*1+1)*maxResultSize ∧
      ∀ k, Value.str "  1" = .int k → BinOp.mod = .mult ∨ BinOp.mod = .pow →
        k.natAbs.size ≤ maxIntBits+2 :=
  checked_result_bounded (t := plainTexts)
    (fun format _ hformat => Value.str.inj hformat ▸ counted_width)
    (by decide +kernel : checkResultSize plainNumerals .mod (.str "%3d") (.int 1) "text % 1" = .ok ())
    (by decide +kernel)

theorem formatText_width {t : Texts} {conv : Conversion} {format : List Char}
    (hpieces : pieces format = some [.conversion conv]) (hkey : conv.key = none)
    (hkind : conv.kind = 'd') (hprecision : conv.precision = some 0) :
    ∃ text, formatText t format (.int 1) = some text ∧ conv.width ≤ text.length := by
  have hdigits : digitsText conv [] ['1'] 1 = some (padded conv.flags true conv.width
      (signText conv.flags false ++ if conv.flags.alternate then [] else []) ['1']) := by
    rw [digitsText,hprecision]
    rfl
  have hconvert : convert t conv (.int 1) = digitsText conv [] ['1'] 1 := by
    unfold convert
    rw [hkind]
    rfl
  refine ⟨padded conv.flags true conv.width
    (signText conv.flags false ++ if conv.flags.alternate then [] else []) ['1'],?_,?_⟩
  · rw [formatText,hpieces]
    simp [formatPieces,givenValue,hkey,hconvert,hdigits]
  · rw [length_padded]
    exact Nat.le_max_left _ _

/-- A width of 10 to the `k`, and a point without digits. -/
def hiddenWidth (k : Nat) : String := String.ofList ('%' :: '1' :: List.replicate k '0' ++ ['.','d'])

theorem checked_hiddenWidth : ∀ k < 19,
    checkResultSize plainNumerals .mod (.str (hiddenWidth k)) (.int 1) "text % 1" = .ok () := by
  decide +kernel

theorem pieces_hiddenWidth : ∀ k < 19, pieces (hiddenWidth k).toList =
    some [.conversion ⟨none,⟨false,false,false,false,false⟩,10^k,some 0,'d'⟩] := by
  decide +kernel

/-- The format with a width of 10 to the `k` is let through, and the text has so many characters. -/
theorem no_multiple_suffices : ¬ ∃ k < 19, ∃ C, C*maxResultSize < 10^k ∧
    ∀ left right result, checkResultSize plainNumerals .mod left right "text % 1" = .ok () →
      combine plainTexts .mod left right = some result → elements result ≤ C*maxResultSize := by
  rintro ⟨k,hk,C,hC,hall⟩
  obtain ⟨text,htext,hwidth⟩ := formatText_width (t := plainTexts) (pieces_hiddenWidth k hk) rfl rfl rfl
  have hresult : combine plainTexts .mod (.str (hiddenWidth k)) (.int 1) =
      some (.str (String.ofList text)) := by
    rw [combine,htext]
    rfl
  have hfew := hall _ _ _ (checked_hiddenWidth k hk) hresult
  rw [elements,length_ofList] at hfew
  exact absurd (hwidth.trans hfew) (Nat.not_le.2 hC)

end ExperimentControl.Sequencer

import Mathlib.Algebra.GroupWithZero.Nat
import Mathlib.Data.Nat.Size
import ExperimentControl.Python.Value

/-!
The text that Python makes of a value: `repr` and `ascii`, and the digits of its integers. What becomes of a
float is a parameter.
-/

namespace ExperimentControl.Python
open List Option

/-- What Python makes of floats, and what it takes for printable. -/
structure Texts where
  printable : Char → Bool
  reprFloat : UInt64 → List Char
  /-- `int(x)` -/
  truncate : UInt64 → Option Int
  /-- `float(n)` -/
  toFloat : Int → Option UInt64
  formatFloat : Char → Bool → Nat → UInt64 → List Char
  length_reprFloat : ∀ x, (reprFloat x).length ≤ 24
  size_truncate : ∀ x n, truncate x = some n → n.natAbs.size ≤ 1024
  length_formatFloat : ∀ c alt precision x, (formatFloat c alt precision x).length ≤ precision+320

def maxStrDigits : Nat := 4300

def decimalText (n : Int) : Option (List Char) :=
  let digits := Nat.toDigits 10 n.natAbs
  if maxStrDigits < digits.length then none
  else some (if n < 0 then '-' :: digits else digits)

theorem length_toDigits_le {b : Nat} (hb : 8 ≤ b) (n : Nat) :
    (Nat.toDigits b n).length ≤ n.size/3+1 := by
  rw [Nat.length_toDigits_le_iff (by omega) (Nat.succ_pos _)]
  have hsize : n.size ≤ 3*(n.size/3+1) := by omega
  calc
    n < 2^n.size := Nat.lt_size_self n
    _ ≤ 2^(3*(n.size/3+1)) := Nat.pow_le_pow_right (by decide) hsize
    _ = 8^(n.size/3+1) := by rw [Nat.pow_mul]
    _ ≤ b^(n.size/3+1) := Nat.pow_le_pow_left hb _

theorem length_decimalText {n : Int} {text : List Char} (h : decimalText n = some text) :
    text.length ≤ n.natAbs.size/3+2 := by
  have hdigits := length_toDigits_le (b := 10) (by decide) n.natAbs
  unfold decimalText at h
  dsimp only at h
  split at h
  · cases h
  · obtain rfl := Option.some.inj h
    split
    · simp only [length_cons]
      omega
    · omega

/-- The last `w` digits of a number in base 16. -/
def hexText : Nat → Nat → List Char
  | 0,_ => []
  | w+1,n => hexText w (n/16) ++ [Nat.digitChar (n%16)]

@[simp] theorem length_hexText (w n : Nat) : (hexText w n).length = w := by
  induction w generalizing n with
  | zero => rfl
  | succ w ih => simp [hexText,ih]

def reprChar (printable : Char → Bool) (quote c : Char) : List Char :=
  if c = quote ∨ c = '\\' then ['\\',c]
  else if c = '\t' then ['\\','t']
  else if c = '\n' then ['\\','n']
  else if c = '\r' then ['\\','r']
  else if c.toNat < 0x20 ∨ c.toNat = 0x7f then '\\' :: 'x' :: hexText 2 c.toNat
  else if c.toNat < 0x7f ∨ printable c then [c]
  else if c.toNat < 0x100 then '\\' :: 'x' :: hexText 2 c.toNat
  else if c.toNat < 0x10000 then '\\' :: 'u' :: hexText 4 c.toNat
  else '\\' :: 'U' :: hexText 8 c.toNat

theorem length_reprChar (printable : Char → Bool) (quote c : Char) :
    (reprChar printable quote c).length ≤ 10 := by
  unfold reprChar
  repeat' split
  all_goals simp

def apostrophe : Char := Char.ofNat 39

def reprString (printable : Char → Bool) (s : List Char) : List Char :=
  let quote := if apostrophe ∈ s ∧ '"' ∉ s then '"' else apostrophe
  quote :: s.flatMap (reprChar printable quote) ++ [quote]

theorem length_reprString (printable : Char → Bool) (s : List Char) :
    (reprString printable s).length ≤ 10*s.length+2 := by
  have hchars : ∀ quote, (s.flatMap (reprChar printable quote)).length ≤ 10*s.length := by
    intro quote
    induction s with
    | nil => exact Nat.zero_le _
    | cons c rest ih =>
      have hc := length_reprChar printable quote c
      simp only [flatMap_cons,length_append,length_cons]
      omega
  have h := hchars (if apostrophe ∈ s ∧ '"' ∉ s then '"' else apostrophe)
  simp only [reprString,length_cons,length_append,length_nil]
  omega

mutual
/-- About how many characters a value takes as text, everything in it counted. -/
def Value.size : Value → Nat
  | .str s => s.length
  | .int n => n.natAbs.size/3+1
  | .list items => items.length+sizeItems items
  | .dict _ entries => entries.length+sizeEntries entries
  | .none | .bool _ | .float _ => 8
def sizeItems : List Value → Nat
  | [] => 0
  | v :: rest => v.size+sizeItems rest
def sizeEntries : List (String × Value) → Nat
  | [] => 0
  | (key,v) :: rest => key.length+v.size+sizeEntries rest
end

def joined : List (List Char) → List Char
  | [] => []
  | [text] => text
  | text :: rest => text ++ ',' :: ' ' :: joined rest

section
variable (t : Texts) (printable : Char → Bool)

mutual
/-- `repr(value)`, or `ascii(value)` where nothing beyond ASCII is printable. -/
def reprValue : Value → Option (List Char)
  | .none => some "None".toList
  | .bool b => some (if b then "True".toList else "False".toList)
  | .int n => decimalText n
  | .float x => some (t.reprFloat x)
  | .str s => some (reprString printable s.toList)
  | .list items => (reprItems items).map fun texts => '[' :: joined texts ++ [']']
  | .dict _ entries => (reprEntries entries).map fun texts => '\x7b' :: joined texts ++ ['\x7d']
def reprItems : List Value → Option (List (List Char))
  | [] => some []
  | v :: rest => do
    let text ← reprValue v
    let texts ← reprItems rest
    pure (text :: texts)
def reprEntries : List (String × Value) → Option (List (List Char))
  | [] => some []
  | (key,v) :: rest => do
    let text ← reprValue v
    let texts ← reprEntries rest
    pure ((reprString printable key.toList ++ ':' :: ' ' :: text) :: texts)
end

end

theorem length_joined {texts : List (List Char)} (bound : Nat)
    (h : (texts.map fun text => text.length+2).sum ≤ bound) : (joined texts).length ≤ bound := by
  induction texts generalizing bound with
  | nil => exact Nat.zero_le _
  | cons text rest ih =>
    simp only [map_cons,sum_cons] at h
    cases rest with
    | nil =>
      simp only [joined]
      omega
    | cons next rest =>
      have hrest := ih (bound-(text.length+2)) (by omega)
      simp only [joined,length_append,length_cons] at hrest ⊢
      omega

variable {t : Texts} {printable : Char → Bool}

mutual
theorem length_reprValue : ∀ {v : Value} {text : List Char}, reprValue t printable v = some text →
    text.length ≤ 10*v.size+2
  | .none,text,h => by
    obtain rfl := Option.some.inj h
    decide
  | .bool b,text,h => by
    obtain rfl := Option.some.inj h
    cases b <;> decide
  | .int n,text,h => by
    have hdigits := length_decimalText h
    simp only [Value.size]
    omega
  | .float x,text,h => by
    obtain rfl := Option.some.inj h
    have hrepr := t.length_reprFloat x
    simp only [Value.size]
    omega
  | .str s,text,h => by
    obtain rfl := Option.some.inj h
    exact length_reprString printable s.toList
  | .list items,text,h => by
    obtain ⟨texts,hitems,rfl⟩ := map_eq_some_iff.1 h
    have hjoined := length_joined _ (length_reprItems hitems)
    simp only [Value.size,length_append,length_cons,length_nil]
    omega
  | .dict _ entries,text,h => by
    obtain ⟨texts,hentries,rfl⟩ := map_eq_some_iff.1 h
    have hjoined := length_joined _ (length_reprEntries hentries)
    simp only [Value.size,length_append,length_cons,length_nil]
    omega
theorem length_reprItems : ∀ {items : List Value} {texts : List (List Char)},
    reprItems t printable items = some texts →
    (texts.map fun text => text.length+2).sum ≤ 10*(items.length+sizeItems items)
  | [],texts,h => by
    obtain rfl := Option.some.inj h
    simp
  | v :: rest,texts,h => by
    obtain ⟨text,hv,h⟩ := bind_eq_some_iff.1 h
    obtain ⟨texts,hrest,h⟩ := bind_eq_some_iff.1 h
    obtain rfl := Option.some.inj h
    have hfirst := length_reprValue hv
    have htexts := length_reprItems hrest
    simp only [map_cons,sum_cons,sizeItems,length_cons]
    omega
theorem length_reprEntries : ∀ {entries : List (String × Value)} {texts : List (List Char)},
    reprEntries t printable entries = some texts →
    (texts.map fun text => text.length+2).sum ≤ 10*(entries.length+sizeEntries entries)
  | [],texts,h => by
    obtain rfl := Option.some.inj h
    simp
  | (key,v) :: rest,texts,h => by
    obtain ⟨text,hv,h⟩ := bind_eq_some_iff.1 h
    obtain ⟨texts,hrest,h⟩ := bind_eq_some_iff.1 h
    obtain rfl := Option.some.inj h
    have hkey := length_reprString printable key.toList
    have hfirst := length_reprValue hv
    have htexts := length_reprEntries hrest
    rw [String.length_toList] at hkey
    simp only [map_cons,sum_cons,sizeEntries,length_cons,length_append]
    omega
end

end ExperimentControl.Python

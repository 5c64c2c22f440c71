import Mathlib.Data.List.Basic

/-!
String literals of JSON: printing a text as one, and reading one back.
-/

namespace ExperimentControl.Lib.JsonText

def hexDigit (n : Nat) : Char :=
  if n < 10 then Char.ofNat (48+n) else Char.ofNat (87+n)

def hexValue (c : Char) : Option Nat :=
  let n := c.toNat
  if 48 ≤ n ∧ n ≤ 57 then some (n-48)
  else if 65 ≤ n ∧ n ≤ 70 then some (n-55)
  else if 97 ≤ n ∧ n ≤ 102 then some (n-87)
  else none

theorem hexValue_hexDigit : ∀ n < 16, hexValue (hexDigit n) = some n := by decide

def escape (c : Char) : List Char :=
  if c = '"' then ['\\','"']
  else if c = '\\' then ['\\','\\']
  else if c.toNat = 8 then ['\\','b']
  else if c.toNat = 9 then ['\\','t']
  else if c.toNat = 10 then ['\\','n']
  else if c.toNat = 12 then ['\\','f']
  else if c.toNat = 13 then ['\\','r']
  else if c.toNat < 32 then
    ['\\','u','0','0',hexDigit (c.toNat / 16),hexDigit (c.toNat % 16)]
  else [c]

def closed (text : List Char) : List Char := text.flatMap escape ++ ['"']

def stringify (text : List Char) : List Char := '"' :: closed text

def unescape (c : Char) : Option Nat :=
  if c = '"' ∨ c = '\\' ∨ c = '/' then some c.toNat
  else if c = 'b' then some 8
  else if c = 't' then some 9
  else if c = 'n' then some 10
  else if c = 'f' then some 12
  else if c = 'r' then some 13
  else none

def hex4 (a b c d : Char) : Option Nat := do
  let a ← hexValue a
  let b ← hexValue b
  let c ← hexValue c
  let d ← hexValue d
  return ((a*16+b)*16+c)*16+d

/-- What stands up to the closing quote, as code points; the quote ends the text. -/
def units : List Char → Option (List Nat)
  | [] => none
  | ['"'] => some []
  | '"' :: _ => none
  | '\\' :: 'u' :: a :: b :: c :: d :: rest =>
    match hex4 a b c d with
    | some n => (units rest).map (n :: ·)
    | none => none
  | '\\' :: e :: rest =>
    match unescape e with
    | some n => (units rest).map (n :: ·)
    | none => none
  | c :: rest => if c.toNat < 32 ∨ c = '\\' then none else (units rest).map (c.toNat :: ·)

def isHighSurrogate (n : Nat) : Prop := 0xD800 ≤ n ∧ n ≤ 0xDBFF
def isLowSurrogate (n : Nat) : Prop := 0xDC00 ≤ n ∧ n ≤ 0xDFFF

instance (n : Nat) : Decidable (isHighSurrogate n) := inferInstanceAs (Decidable (_ ∧ _))
instance (n : Nat) : Decidable (isLowSurrogate n) := inferInstanceAs (Decidable (_ ∧ _))

def character (n : Nat) : Char := if n.isValidChar then Char.ofNat n else Char.ofNat 0xFFFD

def decode : List Nat → List Char
  | high :: low :: rest =>
    if isHighSurrogate high ∧ isLowSurrogate low then
      character (0x10000 + (high-0xD800)*0x400 + (low-0xDC00)) :: decode rest
    else character high :: decode (low :: rest)
  | [n] => [character n]
  | [] => []

/-- `JSON.parse(literal)`, where `literal` starts with a quote. -/
def parse : List Char → Option (List Char)
  | '"' :: rest => (units rest).map decode
  | _ => none

theorem character_toNat (c : Char) : character c.toNat = c := by
  have hvalid : c.toNat.isValidChar := c.valid
  simp [character,hvalid,Char.ofNat_toNat]

theorem not_isHighSurrogate (c : Char) : ¬ isHighSurrogate c.toNat := by
  have hvalid : c.toNat.isValidChar := c.valid
  simp only [Nat.isValidChar] at hvalid
  simp only [isHighSurrogate]
  omega

variable (text : List Char)

theorem decode_toNat : decode (text.map Char.toNat) = text := by
  induction text with
  | nil => rfl
  | cons c rest ih =>
    cases rest with
    | nil => simp [decode,character_toNat]
    | cons d rest =>
      simp only [List.map_cons] at ih ⊢
      simp [decode,not_isHighSurrogate,character_toNat,ih]

theorem units_plain {c : Char} (rest : List Char) (hquote : c ≠ '"') (hback : c ≠ '\\')
    (hlow : 32 ≤ c.toNat) : units (c :: rest) = (units rest).map (c.toNat :: ·) := by
  rw [units.eq_def]
  split <;> grind

theorem units_control (n : Nat) (h : n < 32) (rest : List Char) :
    units ('\\' :: 'u' :: '0' :: '0' :: hexDigit (n / 16) :: hexDigit (n % 16) :: rest) =
      (units rest).map (n :: ·) := by
  have hzero : hexValue '0' = some 0 := by decide
  have hhigh := hexValue_hexDigit (n / 16) (by omega)
  have hlow := hexValue_hexDigit (n % 16) (by omega)
  have hn : n / 16 * 16 + n % 16 = n := by omega
  simp [units,hex4,hzero,hhigh,hlow,hn]

/-- Reading consumes one printed character at a time. -/
theorem units_escape (c : Char) (rest : List Char) :
    units (escape c ++ rest) = (units rest).map (c.toNat :: ·) := by
  unfold escape
  split
  · subst c
    simp [units,unescape]
  split
  · subst c
    simp [units,unescape]
  split
  · next h => simp [units,unescape,h]
  split
  · next h => simp [units,unescape,h]
  split
  · next h => simp [units,unescape,h]
  split
  · next h => simp [units,unescape,h]
  split
  · next h => simp [units,unescape,h]
  split
  · next h => exact units_control c.toNat h rest
  · next hquote hback _ _ _ _ _ hlow => exact units_plain rest hquote hback (by omega)

theorem units_closed : units (closed text) = some (text.map Char.toNat) := by
  induction text with
  | nil => simp [closed,units]
  | cons c rest ih =>
    have hcons : closed (c :: rest) = escape c ++ closed rest := by simp [closed]
    rw [hcons,units_escape,ih]
    rfl

@[simp] theorem parse_stringify : parse (stringify text) = some text := by
  simp [parse,stringify,units_closed,decode_toNat]

end ExperimentControl.Lib.JsonText

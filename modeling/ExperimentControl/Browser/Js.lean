import Mathlib.Data.Rat.Floor
import ExperimentControl.Python.Conversions

/-!
What the browser's code does with the values of a JSON document. `String(value)` and `Number(value)`
are parameters; a property that is not there is `undefined`.
-/

namespace ExperimentControl.Browser
open Python List Option

structure Js where
  /-- `String(value)` of what is not a string. -/
  render : Value → String
  /-- `Number(value)`, unless that is infinite or no number. -/
  number : Value → Option Rat
  ofNumber : Rat → Value

/-- `String(value)` -/
def Js.text (js : Js) : Value → String
  | .str s => s
  | v => js.render v

/-- What `String.prototype.trim` removes: white space and line terminators. -/
def isWhitespace (c : Char) : Bool :=
  let n := c.toNat
  (9 ≤ n && n ≤ 13) || n = 32 || n = 0xA0 || n = 0x1680 || (0x2000 ≤ n && n ≤ 0x200A) || n = 0x2028 ||
    n = 0x2029 || n = 0x202F || n = 0x205F || n = 0x3000 || n = 0xFEFF

@[irreducible] def trim (s : String) : String :=
  String.ofList ((s.toList.dropWhile isWhitespace).reverse.dropWhile isWhitespace).reverse

def coalesce (first second : Option Value) : Option Value :=
  match first with
  | none | some .none => second
  | some v => some v

/-- `String(first ?? second ?? "")` -/
def Js.textOf (js : Js) (first second : Option Value) : String :=
  js.text ((coalesce (coalesce first second) (some (.str ""))).getD .none)

def properties : Value → Option Entries
  | .dict _ entries => some entries
  | .list _ => some []
  | _ => none

/-- `value && typeof value === "object" ? value : {}` -/
def propertiesOf (value : Option Value) : Entries := (value.bind properties).getD []

def arrayOf : Option Value → List Value
  | some (.list items) => items
  | _ => []

def stringOf : Option Value → String
  | some (.str s) => s
  | _ => ""

/-- `Number(value)`, where it is finite. -/
def Js.numberOf (js : Js) (value : Option Value) : Option Rat := value.bind js.number

def trunc (x : Rat) : Int := if x < 0 then ⌈x⌉ else ⌊x⌋

/-- A text that `trim` has nothing to take from. -/
def Trimmed (l : List Char) : Prop :=
  (∀ c ∈ l.head?, isWhitespace c = false) ∧ ∀ c ∈ l.getLast?, isWhitespace c = false

theorem dropWhile_eq_self {l : List Char} :
    l.dropWhile isWhitespace = l ↔ ∀ c ∈ l.head?, isWhitespace c = false := by
  cases l with
  | nil => simp
  | cons c rest =>
    constructor
    · intro h
      by_contra hc
      simp only [head?_cons,mem_some_iff,forall_eq',Bool.not_eq_false] at hc
      rw [dropWhile_cons_of_pos hc] at h
      have hlen := (dropWhile_sublist (l := rest) isWhitespace).length_le
      rw [h,length_cons] at hlen
      omega
    · intro h
      have hc : isWhitespace c = false := h c (by simp)
      simp [List.dropWhile,hc]

theorem trim_toList (s : String) : (trim s).toList =
    ((s.toList.dropWhile isWhitespace).reverse.dropWhile isWhitespace).reverse := by
  simp [trim]

theorem trim_eq_self {s : String} : trim s = s ↔ Trimmed s.toList := by
  rw [String.ext_iff,trim_toList]
  constructor
  · intro h
    have hsub := (dropWhile_sublist (l := (s.toList.dropWhile isWhitespace).reverse)
      isWhitespace).length_le
    have hlen := congrArg List.length h
    have hleft := dropWhile_sublist (l := s.toList) isWhitespace
    have hall := hleft.length_le
    simp only [length_reverse] at hlen hsub
    have hfront : s.toList.dropWhile isWhitespace = s.toList := hleft.eq_of_length (by omega)
    rw [hfront] at h
    have hback := congrArg List.reverse h
    rw [reverse_reverse] at hback
    refine ⟨dropWhile_eq_self.1 hfront,?_⟩
    simpa using dropWhile_eq_self.1 hback
  · rintro ⟨hhead,hlast⟩
    have hback : s.toList.reverse.dropWhile isWhitespace = s.toList.reverse :=
      dropWhile_eq_self.2 (by simpa using hlast)
    rw [dropWhile_eq_self.2 hhead,hback,reverse_reverse]

theorem trim_ne_empty {c : Char} {rest : List Char} (h : isWhitespace c = false) :
    trim (String.ofList (c :: rest)) ≠ "" := by
  intro hempty
  have hlist := congrArg String.toList hempty
  rw [trim_toList] at hlist
  simp only [String.toList_ofList,List.dropWhile,h] at hlist
  have hnil := reverse_eq_nil_iff.1 hlist
  rw [dropWhile_eq_nil_iff] at hnil
  have hc := hnil c (by simp)
  simp [h] at hc

@[simp] theorem trim_empty : trim "" = "" := by simp [trim]

theorem trim_idem (s : String) : trim (trim s) = trim s := by
  rw [trim_eq_self,trim_toList]
  constructor
  · intro c hc
    rw [head?_reverse] at hc
    have hsub := dropWhile_suffix (l := (s.toList.dropWhile isWhitespace).reverse) isWhitespace
    obtain ⟨front,hfront⟩ := hsub
    have hmem : c ∈ (s.toList.dropWhile isWhitespace).head? := by
      have hlast : c ∈ (s.toList.dropWhile isWhitespace).reverse.getLast? := by
        rw [← hfront,getLast?_append]
        rw [mem_def] at hc
        simp [hc]
      simpa using hlast
    cases hrest : s.toList.dropWhile isWhitespace with
    | nil => simp [hrest] at hmem
    | cons d rest =>
      have hd := head_dropWhile_not isWhitespace (l := s.toList) (by simp [hrest])
      simp only [hrest,head_cons] at hd
      simp only [hrest,head?_cons,mem_some_iff] at hmem
      rw [← hmem,hd]
  · intro c hc
    rw [getLast?_reverse] at hc
    cases hrest : (s.toList.dropWhile isWhitespace).reverse.dropWhile isWhitespace with
    | nil => simp [hrest] at hc
    | cons d rest =>
      have hd := head_dropWhile_not isWhitespace
        (l := (s.toList.dropWhile isWhitespace).reverse) (by simp [hrest])
      simp only [hrest,head_cons] at hd
      simp only [hrest,head?_cons,mem_some_iff] at hc
      rw [← hc,hd]

end ExperimentControl.Browser

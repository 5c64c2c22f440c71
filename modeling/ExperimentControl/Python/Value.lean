import Mathlib.Data.List.Basic

/-!
The values a sequence, a reply or a request is made of: what JSON and YAML
documents decode to in Python. Mapping keys are strings, as in JSON; floats are
carried as their 64-bit patterns, since nothing here computes with them.
-/

namespace ExperimentControl.Python

inductive Value where
  | none : Value
  | bool : Bool → Value
  | int : Int → Value
  | float : UInt64 → Value
  | str : String → Value
  | list : List Value → Value
  /-- `attr` marks the `AttrDict` subclass, whose items are also attributes. -/
  | dict (attr : Bool) : List (String × Value) → Value
  deriving Repr, Inhabited

mutual
def Value.decEqValue : (a b : Value) → Decidable (a = b)
  | .none,.none => .isTrue rfl
  | .bool a,.bool b => decidable_of_iff (a = b) (by simp)
  | .int a,.int b => decidable_of_iff (a = b) (by simp)
  | .float a,.float b => decidable_of_iff (a = b) (by simp)
  | .str a,.str b => decidable_of_iff (a = b) (by simp)
  | .list a,.list b =>
    match Value.decEqList a b with
    | .isTrue h => .isTrue (by rw [h])
    | .isFalse h => .isFalse (by simpa using h)
  | .dict x a,.dict y b =>
    match decEq x y,Value.decEqEntries a b with
    | .isTrue hx,.isTrue h => .isTrue (by rw [hx,h])
    | .isFalse hx,_ => .isFalse (by simp [hx])
    | _,.isFalse h => .isFalse (by simp [h])
  | .none,.bool _ | .none,.int _ | .none,.float _ | .none,.str _ | .none,.list _ | .none,.dict _ _
  | .bool _,.none | .bool _,.int _ | .bool _,.float _ | .bool _,.str _ | .bool _,.list _
  | .bool _,.dict _ _
  | .int _,.none | .int _,.bool _ | .int _,.float _ | .int _,.str _ | .int _,.list _
  | .int _,.dict _ _
  | .float _,.none | .float _,.bool _ | .float _,.int _ | .float _,.str _ | .float _,.list _
  | .float _,.dict _ _
  | .str _,.none | .str _,.bool _ | .str _,.int _ | .str _,.float _ | .str _,.list _
  | .str _,.dict _ _
  | .list _,.none | .list _,.bool _ | .list _,.int _ | .list _,.float _ | .list _,.str _
  | .list _,.dict _ _
  | .dict _ _,.none | .dict _ _,.bool _ | .dict _ _,.int _ | .dict _ _,.float _ | .dict _ _,.str _
  | .dict _ _,.list _ => .isFalse (by simp)
def Value.decEqList : (a b : List Value) → Decidable (a = b)
  | [],[] => .isTrue rfl
  | [],_ :: _ | _ :: _,[] => .isFalse (by simp)
  | a :: s,b :: t =>
    match Value.decEqValue a b,Value.decEqList s t with
    | .isTrue h,.isTrue g => .isTrue (by rw [h,g])
    | .isFalse h,_ => .isFalse (by simp [h])
    | _,.isFalse g => .isFalse (by simp [g])
def Value.decEqEntries : (a b : List (String × Value)) → Decidable (a = b)
  | [],[] => .isTrue rfl
  | [],_ :: _ | _ :: _,[] => .isFalse (by simp)
  | (k,a) :: s,(l,b) :: t =>
    match decEq k l,Value.decEqValue a b,Value.decEqEntries s t with
    | .isTrue hk,.isTrue h,.isTrue g => .isTrue (by rw [hk,h,g])
    | .isFalse hk,_,_ => .isFalse (by simp [hk])
    | _,.isFalse h,_ => .isFalse (by simp [h])
    | _,_,.isFalse g => .isFalse (by simp [g])
end

instance : DecidableEq Value := Value.decEqValue

/-- The items of a mapping, in insertion order. -/
abbrev Entries := List (String × Value)

def item? (entries : List (String × Value)) (key : String) : Option Value :=
  (entries.find? (fun e => e.1 = key)).map Prod.snd

/-- `value.get(key, default)` on a mapping. -/
def getD (entries : List (String × Value)) (key : String) (default : Value) : Value :=
  (item? entries key).getD default

def setItem (entries : List (String × Value)) (key : String) (item : Value) :
    List (String × Value) :=
  match entries with
  | [] => [(key,item)]
  | e :: rest => if e.1 = key then (key,item) :: rest else e :: setItem rest key item

theorem item?_setItem (entries : List (String × Value)) (key : String) (v : Value) :
    item? (setItem entries key v) key = some v := by
  induction entries with
  | nil => simp [setItem,item?]
  | cons e rest ih =>
    by_cases hk : e.1 = key
    · simp [setItem,item?,hk]
    · simpa [setItem,item?,hk] using ih

def isMapping : Value → Bool
  | .dict _ _ => true
  | _ => false

/-- Python's `bool(value)`. The two float patterns are `0.0` and `-0.0`. -/
def Value.truthy : Value → Bool
  | .none => false
  | .bool b => b
  | .int n => n ≠ 0
  | .float bits => bits ≠ 0 && bits ≠ 0x8000000000000000
  | .str s => s ≠ ""
  | .list items => !items.isEmpty
  | .dict _ entries => !entries.isEmpty

/-- Characters for which Python's `str.isspace` holds. -/
def isSpace (c : Char) : Bool :=
  let n := c.toNat
  (9 ≤ n && n ≤ 13) || (28 ≤ n && n ≤ 32) || n = 0x85 || n = 0xA0 || n = 0x1680 ||
    (0x2000 ≤ n && n ≤ 0x200A) || n = 0x2028 || n = 0x2029 || n = 0x202F || n = 0x205F ||
    n = 0x3000

def strip (s : String) : String :=
  String.ofList ((s.toList.dropWhile isSpace).reverse.dropWhile isSpace).reverse

/-- Python's `str(value)`; `repr` renders what is not text already. -/
def Value.text (repr : Value → String) : Value → String
  | .str s => s
  | v => repr v

/-- The exception classes that the modelled code raises or tells apart. -/
inductive ExcKind where
  | typeError | valueError | keyError | indexError | runtimeError | attributeError
  | zeroDivisionError | overflowError
  | templateError | unknownName | valueTooLarge
  | operandError (noneInvolved : Bool)
  | callFailed (permanent : Bool)
  | estimateUnknown
  | other
  deriving DecidableEq

/-- The classes that derive from `TemplateError`. -/
def ExcKind.isTemplateError : ExcKind → Bool
  | .templateError | .unknownName | .valueTooLarge | .operandError _ => true
  | _ => false

def ExcKind.isTypeOrValueError : ExcKind → Bool
  | .typeError | .valueError => true
  | kind => kind.isTemplateError

structure PyExc where
  kind : ExcKind
  message : String
  deriving DecidableEq

theorem bind_eq_ok {α β : Type} {x : Except PyExc α} {f : α → Except PyExc β} {r : β}
    (h : (x >>= f) = .ok r) : ∃ a, x = .ok a ∧ f a = .ok r := by
  cases x with
  | error e => cases h
  | ok a => exact ⟨a,rfl,h⟩

end ExperimentControl.Python

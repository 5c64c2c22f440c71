import Mathlib.Data.List.DropRight
import ExperimentControl.Python.Value

/-!
The conversions that code on JSON values makes: `int(value)`, `float(value)` and `repr(value)` are
parameters, and what Python defines from them is defined from them here.
-/

namespace ExperimentControl.Python

structure Conversions where
  repr : Value → String
  toInt : Value → Except PyExc Int
  toFloat : Value → Except PyExc UInt64
  /-- `value.is_integer()` -/
  isInteger : UInt64 → Bool
  /-- `<` on floats -/
  lt : UInt64 → UInt64 → Bool
  toInt_int : ∀ n, toInt (.int n) = .ok n

/-- `first or second` -/
def Value.or (first second : Value) : Value := if first.truthy then first else second

/-- `entries.get(key)` -/
def getKey (entries : Entries) (key : String) : Value := getD entries key .none

variable (entries : Entries)

theorem item?_setItem_of_ne {key other : String} (v : Value) (h : other ≠ key) :
    item? (setItem entries key v) other = item? entries other := by
  induction entries with
  | nil => simp [setItem,item?,Ne.symm h]
  | cons e rest ih =>
    by_cases hk : e.1 = key
    · have hother : e.1 ≠ other := fun heq => h (heq ▸ hk)
      simp [setItem,item?,hk,hk ▸ hother]
    · by_cases hother : e.1 = other
      · simp [setItem,item?,hother,h]
      · simpa [setItem,item?,hk,hother] using ih

@[simp] theorem item?_setItem_ite (key other : String) (v : Value) :
    item? (setItem entries key v) other = if other = key then some v else item? entries other := by
  by_cases h : other = key
  · rw [if_pos h,h,item?_setItem]
  · rw [if_neg h,item?_setItem_of_ne entries v h]

@[simp] theorem getKey_setItem (key other : String) (v : Value) :
    getKey (setItem entries key v) other = if other = key then v else getKey entries other := by
  by_cases h : other = key <;> simp [getKey,getD,h]

def Conversions.digits : Conversions where
  repr v := match v with
    | .none => "None"
    | .bool true => "True"
    | .bool false => "False"
    | .int n => toString n
    | .str s => "'" ++ s ++ "'"
    | _ => ""
  toInt v := match v with
    | .int n => .ok n
    | .bool true => .ok 1
    | .bool false => .ok 0
    | .str s => match s.toInt? with
      | some n => .ok n
      | none => .error ⟨.valueError,"invalid literal for int() with base 10"⟩
    | _ => .error ⟨.typeError,"int() argument must be a string, a bytes-like object or a real number"⟩
  toFloat v := match v with
    | .float bits => .ok bits
    | .int 0 => .ok 0
    | .str _ => .error ⟨.valueError,"could not convert string to float"⟩
    | _ => .error ⟨.typeError,"float() argument must be a string or a real number"⟩
  isInteger _ := false
  lt a b := a < b
  toInt_int _ := rfl

end ExperimentControl.Python

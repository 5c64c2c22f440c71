import Mathlib.Algebra.Group.Int.Defs
import ExperimentControl.Python.Value

/-!
How telemetry values become cells of a compound dataset: `value_coercion.py`, `_dtype_for` and
`_convert_value`, and what numpy does when the converted value is put into a field. Rounding,
parsing and printing of numbers are the interpreter's and stay a parameter.
-/

namespace ExperimentControl.Hdf
open Python

/-- Numbers and texts as the interpreter reads and prints them. Floats are 64-bit patterns. -/
structure Py where
  repr : Value → String
  floatOfInt : Int → Option UInt64
  floatOfText : String → Option UInt64
  intOfFloat : UInt64 → Option Int
  intOfText : String → Option Int
  /-- `int(text, 0)` -/
  intOfLiteral : String → Option Int
  roundFloat32 : UInt64 → UInt64
  groupName : String → Bool

def nan : UInt64 := 0x7FF8000000000000

def isNan (bits : UInt64) : Bool := (bits &&& 0x7FFFFFFFFFFFFFFF) > 0x7FF0000000000000

def fitsInt64 (n : Int) : Prop := -2^63 ≤ n ∧ n < 2^63

instance (n : Int) : Decidable (fitsInt64 n) := inferInstanceAs (Decidable (_ ∧ _))

section
variable (py : Py)

def Py.float : Value → Option UInt64
  | .float bits => some bits
  | .int n => py.floatOfInt n
  | .bool b => py.floatOfInt (if b then 1 else 0)
  | .str s => py.floatOfText s
  | .none | .list _ | .dict _ _ => none

def Py.int : Value → Option Int
  | .int n => some n
  | .bool b => some (if b then 1 else 0)
  | .float bits => py.intOfFloat bits
  | .str s => py.intOfText s
  | .none | .list _ | .dict _ _ => none

def Py.str (v : Value) : String := v.text py.repr

def Py.normalizeDeviceId (raw : Value) : Option String :=
  let text := strip (py.str raw)
  if text = "" then none else some text

/-- `_coerce_int`: the outer `none` is an exception, the inner one the returned `None`. -/
def Py.coerceInt : Value → Option (Option Int)
  | .bool b => some (some (if b then 1 else 0))
  | .int n => some (some n)
  | .float bits => if isNan bits then some none else (py.intOfFloat bits).map some
  | .str s =>
    let text := strip s
    if text = "" then some none
    else some ((py.intOfLiteral text).or ((py.floatOfText text).bind py.intOfFloat))
  | .none | .list _ | .dict _ _ => some none

def coerceBool : Value → Bool
  | .float bits => if isNan bits then false else Value.truthy (.float bits)
  | .str s =>
    let text := (strip s).toLower
    if text ∈ ["true","1","yes","y","on"] then true
    else if text ∈ ["false","0","no","n","off",""] then false
    else true
  | v => v.truthy

end

/-- What `_convert_value` hands to numpy. -/
inductive Converted where
  | float (bits : UInt64)
  | int (n : Int)
  | bool (b : Bool)
  | bytes (text : String)
  | other (v : Value)
  deriving DecidableEq, Inhabited

/-- The types of the fields of a telemetry dataset: `DTYPE_MAP`, and fixed-length texts. -/
inductive FieldType where
  | float64 | float32 | int64 | int32 | uint64 | uint32 | bool
  | str (length : Nat)
  deriving DecidableEq

inductive Cell where
  | float (bits : UInt64)
  | int (n : Int)
  | bool (b : Bool)
  | text (s : String)
  | stale
  deriving DecidableEq

def startsWith (s start : String) : Bool := start.toList.isPrefixOf s.toList

def isStrDtype (dtype : String) : Bool := dtype = "str" || startsWith dtype "str:"

def defaultStrLen : Nat := 32

/-- The longest prefix of whole characters that takes at most `length` bytes. -/
def truncateUtf8 (length : Nat) (s : String) : String :=
  String.ofList (go length s.toList)
where
  go : Nat → List Char → List Char
    | _,[] => []
    | room,c :: rest => if c.utf8Size ≤ room then c :: go (room-c.utf8Size) rest else []

variable (py : Py)

/-- `str_length_for`: the outer `none` is the `ValueError`. -/
def Py.strLengthFor (dtype : String) : Option (Option Nat) :=
  let s := strip dtype
  if s = "str" then some (some defaultStrLen)
  else if startsWith s "str:" then
    match py.intOfText (String.ofList (s.toList.drop 4)) with
    | none => none
    | some n => if n ≤ 0 then none else some (some n.toNat)
  else some none

def dtypeMap (dtype : String) : Option FieldType :=
  match dtype with
  | "float64" => some .float64
  | "float32" => some .float32
  | "int64" => some .int64
  | "int32" => some .int32
  | "uint64" => some .uint64
  | "uint32" => some .uint32
  | "bool" => some .bool
  | _ => none

def Py.dtypeFor (dtype : String) : Option FieldType :=
  match dtypeMap dtype with
  | some t => some t
  | none =>
    match py.strLengthFor dtype with
    | some (some n) => some (.str n)
    | _ => none

def defaultForDtype (dtype : String) : Converted :=
  if startsWith dtype "float" then .float nan
  else if startsWith dtype "int" || startsWith dtype "uint" then .int 0
  else if dtype = "bool" then .bool false
  else if isStrDtype dtype then .bytes ""
  else .other .none

def Py.coerceScalar (value : Value) (dtype : String) : Option Converted :=
  if isStrDtype dtype then
    some (.bytes (if value = .none then "" else py.str value))
  else if value = .none then some (defaultForDtype dtype)
  else if startsWith dtype "float" then some (.float ((py.float value).getD nan))
  else if startsWith dtype "uint" then
    (py.coerceInt value).map fun iv => .int (max 0 (iv.getD 0))
  else if startsWith dtype "int" then (py.coerceInt value).map fun iv => .int (iv.getD 0)
  else if dtype = "bool" then some (.bool (coerceBool value))
  else some (.other value)

def Py.convertValue (value : Value) (dtype : String) : Option Converted :=
  match py.strLengthFor dtype with
  | none => none
  | some none => py.coerceScalar value dtype
  | some (some length) =>
    let text := if value = .none then "" else py.str value
    some (.bytes (truncateUtf8 length text))

def storeInt (low high n : Int) : Option Cell := if low ≤ n ∧ n < high then some (.int n) else none

def Py.asInt : Converted → Option Int
  | .float bits => py.intOfFloat bits
  | .int n => some n
  | .bool b => some (if b then 1 else 0)
  | .bytes text => py.intOfText text
  | .other v => py.int v

def Py.asFloat : Converted → Option UInt64
  | .float bits => some bits
  | .int n => py.floatOfInt n
  | .bool b => py.floatOfInt (if b then 1 else 0)
  | .bytes text => py.floatOfText text
  | .other v => py.float v

def Converted.value : Converted → Value
  | .float bits => .float bits
  | .int n => .int n
  | .bool b => .bool b
  | .bytes text => .str text
  | .other v => v

/-- `row[name] = value` for a field of the given type; `none` where numpy raises. -/
def Py.store (t : FieldType) (v : Converted) : Option Cell :=
  match t with
  | .float64 => (py.asFloat v).map .float
  | .float32 => (py.asFloat v).map fun bits => .float (py.roundFloat32 bits)
  | .int64 => (py.asInt v).bind (storeInt (-2^63) (2^63))
  | .int32 => (py.asInt v).bind (storeInt (-2^31) (2^31))
  | .uint64 => (py.asInt v).bind (storeInt 0 (2^64))
  | .uint32 => (py.asInt v).bind (storeInt 0 (2^32))
  | .bool => some (.bool v.value.truthy)
  | .str length => some (.text (truncateUtf8 length (py.str v.value)))

end ExperimentControl.Hdf

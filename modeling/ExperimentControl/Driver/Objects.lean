import Mathlib.Algebra.Group.Nat.Defs
import ExperimentControl.Python.Conversions

/-!
What the code of a device hands to its driver: objects of any class, and exceptions whose own text
may be what raises next. How they are turned into JSON (`_driver/runner.py`, `_driver/discovery.py`)
and into the values of telemetry signals (`utils/value_coercion.py`).
-/

namespace ExperimentControl.Driver
open Python

/-- `text.startswith(start)` -/
def hasPrefix (text start : String) : Bool := start.toList.isPrefixOf text.toList

/-- The classes that derive from `CommandCallerError`. -/
inductive CallerError where
  | unknownCommand | badParameters | notAllowed
  deriving DecidableEq

def CallerError.code : CallerError → String
  | .unknownCommand => "unknown_command"
  | .badParameters => "bad_parameters"
  | .notAllowed => "command_not_allowed"

inductive ExcClass where
  | caller (c : CallerError)
  | arrayResult | typeError | valueError | recursionError | other
  deriving DecidableEq

/-- An exception, with what `str` and `repr` of it give or raise. -/
inductive Exc where
  | mk (cls : ExcClass) (text shown : Except Exc String)

def Exc.cls : Exc → ExcClass
  | mk c _ _ => c

def Exc.str : Exc → Except Exc String
  | mk _ text _ => text

def Exc.repr : Exc → Except Exc String
  | mk _ _ shown => shown

/-- `isinstance(exc, CommandCallerError)` -/
def Exc.isCallerError (exc : Exc) : Bool :=
  match exc.cls with
  | .caller _ => true
  | _ => false

def Exc.plain (cls : ExcClass) (message : String) : Exc := .mk cls (.ok message) (.ok message)

/-- What the device's code hands out, as far as `json.dumps` and the conversions tell it apart. A float
of numpy's `float64` is a float. -/
inductive Obj where
  | json (v : Value)
  | none
  | bool (b : Bool)
  | int (n : Int)
  | float (bits : UInt64)
  | str (s : String)
  | list (items : List Obj)
  | dict (entries : List (Obj × Obj))
  | enumMember (cls name : String) (value : Obj) (mixin : Bool)
  | path (text : String)
  /-- a numpy scalar with its `item()` -/
  | generic (item : Obj)
  /-- a numpy array with its `tolist()` -/
  | array (shape : List Nat) (dtype : String) (tolist : Obj)
  | raising (exc : Exc)
  | other (typeName : String)

/-- What the interpreter sets: how deep calls nest, and how long the text of an integer gets. It takes
no value that is too low for its own use. -/
structure Interpreter where
  recursionLimit : Nat
  intMaxStrDigits : Nat
  recursionLimit_ge : 50 ≤ recursionLimit
  intMaxStrDigits_ge : 640 ≤ intMaxStrDigits

def Interpreter.cpython : Interpreter := ⟨1000,4300,by decide,by decide⟩

def shapeText : List Nat → String
  | [n] => "(" ++ toString n ++ ",)"
  | shape => "(" ++ ", ".intercalate (shape.map toString) ++ ")"

def notSerializable (typeName : String) : Exc :=
  .plain .typeError ("Object of type " ++ typeName ++ " is not JSON serializable")

def tooManyDigits : Exc := .plain .valueError "Exceeds the limit for integer string conversion"

def recursionError : Exc := .plain .recursionError "maximum recursion depth exceeded"

section
variable (interp : Interpreter)

/-- `int.__repr__`, which refuses very long integers -/
def Interpreter.intError (n : Int) : Option Exc :=
  if (toString n.natAbs).length ≤ interp.intMaxStrDigits then Option.none else some tooManyDigits

/-- A key of a dictionary, as `json.dumps` writes it. -/
def Interpreter.keyError : Obj → Option Exc
  | .str _ | .none | .bool _ | .float _ | .json _ => Option.none
  | .int n => interp.intError n
  | .enumMember _ _ value true => Interpreter.keyError value
  | _ => some (.plain .typeError "keys must be str, int, float, bool or None")

mutual
/-- What `json.dumps` raises on an object, if anything. `replies` says that `_json_reply_default` is
its `default`; without one there is none. -/
def dumpsError (interp : Interpreter) (replies : Bool) (depth : Nat) : Obj → Option Exc
  | .json _ | .none | .bool _ | .float _ | .str _ => Option.none
  | .int n => interp.intError n
  | .list items =>
    if depth < interp.recursionLimit then itemsError interp replies (depth+1) items
    else some recursionError
  | .dict entries =>
    if depth < interp.recursionLimit then entriesError interp replies (depth+1) entries
    else some recursionError
  | .enumMember cls _ value mixin =>
    if mixin then dumpsError interp replies depth value else some (notSerializable cls)
  | .path _ => some (notSerializable "PosixPath")
  | .generic item =>
    if !replies then some (notSerializable "generic")
    else if depth < interp.recursionLimit then dumpsError interp replies (depth+1) item
    else some recursionError
  | .array shape _ _ =>
    if replies then some (.plain .arrayResult ("numpy array of shape " ++ shapeText shape))
    else some (notSerializable "ndarray")
  | .raising exc => some exc
  | .other typeName => some (notSerializable typeName)
def itemsError (interp : Interpreter) (replies : Bool) (depth : Nat) : List Obj → Option Exc
  | [] => Option.none
  | item :: rest => (dumpsError interp replies depth item).or (itemsError interp replies depth rest)
def entriesError (interp : Interpreter) (replies : Bool) (depth : Nat) : List (Obj × Obj) → Option Exc
  | [] => Option.none
  | (key,item) :: rest =>
    ((interp.keyError key).or (dumpsError interp replies depth item)).or
      (entriesError interp replies depth rest)
end

end

/-- Python's built-ins over the objects of a device, which may run their code. -/
structure Builtins where
  values : Conversions
  str : Obj → Except Exc String
  repr : Obj → Except Exc String
  /-- `float(value)` -/
  float : Obj → Except Exc UInt64
  /-- `_coerce_int` -/
  coerceInt : Obj → Except Exc (Option Int)
  /-- `_coerce_bool` -/
  coerceBool : Obj → Except Exc Bool
  /-- `ast.literal_eval` of a tuple's items, `none` where it raises or gives no tuple -/
  literalEval : String → Option (List Value)
  /-- `difflib.get_close_matches(name, accepted, n=1)` -/
  closeMatch : String → List String → Option String

def Builtins.plain : Builtins where
  values := .digits
  str v := match v with
    | .str s => .ok s
    | .int n => .ok (toString n)
    | _ => .ok ""
  repr v := match v with
    | .str s => .ok ("'" ++ s ++ "'")
    | .int n => .ok (toString n)
    | _ => .ok ""
  float v := match v with
    | .float bits => .ok bits
    | .int 0 => .ok 0
    | _ => .error (.plain .typeError "float() argument must be a string or a real number")
  coerceInt v := match v with
    | .int n => .ok (some n)
    | _ => .ok Option.none
  coerceBool v := match v with
    | .bool b => .ok b
    | .int n => .ok (n ≠ 0)
    | _ => .ok true
  literalEval _ := Option.none
  closeMatch _ _ := Option.none

/-- `isinstance(value, str)` for a key that is kept -/
def Obj.key? : Obj → Option String
  | .str s => some s
  | .json (.str s) => some s
  | .enumMember _ _ value true => value.key?
  | _ => Option.none

def Obj.isSimple : Obj → Bool
  | .none | .bool _ | .int _ | .float _ | .str _ => true
  | .json v => match v with
    | .list _ | .dict _ _ => false
    | _ => true
  | _ => false

variable (py : Builtins)

/-- The values whose items `_jsonable_default` does not look into. -/
def Builtins.jsonableLeaf (value : Obj) : Except Exc Obj :=
  match value with
  | .enumMember cls name inner _ =>
    if inner.isSimple then
      .ok (.dict [(.str "__enum__",.str cls),(.str "name",.str name),(.str "value",inner)])
    else (py.str value).map .str
  | .path text => .ok (.str text)
  | .generic item => .ok item
  | .none | .bool _ | .int _ | .float _ | .str _ | .json _ => .ok value
  | _ => (py.repr value).map .str

mutual
/-- `_jsonable_default`, with the levels that are left before `_max_depth` and `_max_len = 50` -/
def jsonableDefault (py : Builtins) : Nat → Obj → Except Exc Obj
  | levels+1,.list items => (jsonableItems py levels 50 items).map .list
  | levels+1,.dict entries => (jsonableEntries py levels 50 entries).map .dict
  | _,value => py.jsonableLeaf value
def jsonableItems (py : Builtins) : Nat → Nat → List Obj → Except Exc (List Obj)
  | levels,room+1,item :: rest =>
    match jsonableDefault py levels item with
    | .error exc => .error exc
    | .ok first => (jsonableItems py levels room rest).map (first :: ·)
  | _,_,_ => .ok []
def jsonableEntries (py : Builtins) : Nat → Nat → List (Obj × Obj) → Except Exc (List (Obj × Obj))
  | levels,room+1,(key,item) :: rest =>
    if key.key?.isNone then jsonableEntries py levels room rest
    else match jsonableDefault py levels item with
      | .error exc => .error exc
      | .ok first => (jsonableEntries py levels room rest).map ((key,first) :: ·)
  | _,_,_ => .ok []
end

def Builtins.jsonableValue : Obj → Except Exc Obj
  | .array shape dtype tolist =>
    if 10000 < shape.prod then
      .ok (.dict [(.str "__error__",.str "array too large"),
        (.str "shape",.list (shape.map fun n => .int n)),(.str "dtype",.str dtype)])
    else .ok tolist
  | value => jsonableDefault py 3 value

def defaultForDtype (dtype : String) : Obj :=
  if hasPrefix dtype "float" then .float 0x7ff8000000000000
  else if hasPrefix dtype "int" || hasPrefix dtype "uint" then .int 0
  else if dtype = "bool" then .bool false
  else if dtype = "str" || hasPrefix dtype "str:" then .str ""
  else .none

def Obj.isNone : Obj → Bool
  | .none | .json .none => true
  | _ => false

def Builtins.coerceScalar (value : Obj) (dtype : String) : Except Exc Obj :=
  let value := match value with
    | .generic item => item
    | v => v
  if dtype = "str" || hasPrefix dtype "str:" then
    if value.isNone then .ok (.str "") else (py.str value).map .str
  else if value.isNone then .ok (defaultForDtype dtype)
  else if hasPrefix dtype "float" then
    match py.float value with
    | .ok bits => .ok (.float bits)
    | .error _ => .ok (.float 0x7ff8000000000000)
  else if hasPrefix dtype "uint" then
    (py.coerceInt value).map fun iv => .int (max 0 (iv.getD 0))
  else if hasPrefix dtype "int" then (py.coerceInt value).map fun iv => .int (iv.getD 0)
  else if dtype = "bool" then (py.coerceBool value).map .bool
  else .ok value

end ExperimentControl.Driver

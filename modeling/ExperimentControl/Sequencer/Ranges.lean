import Mathlib.Data.Vector.Basic
import ExperimentControl.Lib.Checks
import ExperimentControl.Sequencer.Host

/-!
What a `gen` specification makes its records from (`sequencer/ranges.py`): the generators, their
modifiers and the sample drawn at the end. numpy is a parameter that keeps the lengths it documents;
so is the grid of `scan2d`.
-/

namespace ExperimentControl.Sequencer
open Lib Python List

inductive Generator where
  | range | linspace | logspace | geomspace | triangle | centeredTriangle
  deriving DecidableEq

def Generator.key : Generator → String
  | .range => "range"
  | .linspace => "linspace"
  | .logspace => "logspace"
  | .geomspace => "geomspace"
  | .triangle => "triangle"
  | .centeredTriangle => "centered_triangle"

def Generator.required : Generator → List String
  | .range => ["start","stop"]
  | .centeredTriangle => ["center","span","num"]
  | .linspace | .logspace | .geomspace | .triangle => ["start","stop","num"]

def Generator.optional : Generator → List String
  | .range => ["step"]
  | .logspace => ["base"]
  | .centeredTriangle => ["dir"]
  | .linspace | .geomspace | .triangle => []

/-- In the order of `_GENERATOR_FIELDS`. -/
def Generator.all : List Generator :=
  [.range,.linspace,.logspace,.geomspace,.triangle,.centeredTriangle]

def generatorKinds : List String := Generator.all.map Generator.key ++ ["values","scan2d"]

def genModifierKeys : List String := ["offset","sample","seed","serpentine","shuffle"]

/-- numpy, and the float arithmetic around it. Without a seed, `defaultRng` is the generator that
this call gets. -/
structure Numpy extends Numeric where
  mul : F64 → F64 → F64
  div : F64 → F64 → F64
  /-- `int(math.ceil(x))` -/
  ceil : F64 → Except PyExc Int
  /-- `value + offset` -/
  shift : Value → F64 → Except PyExc Value
  linspace : F64 → F64 → Int → Except PyExc (List Value)
  logspace : F64 → F64 → Int → F64 → Except PyExc (List Value)
  geomspace : F64 → F64 → Int → Except PyExc (List Value)
  /-- `start + np.arange(n) * step` -/
  arange : F64 → Int → F64 → Except PyExc (List Value)
  Rng : Type
  defaultRng : Option Int → Except PyExc Rng
  shuffle : Rng → (values : List Value) → {out : List Value // out.Perm values}
  integers : Rng → (n count : Nat) → Except PyExc (List.Vector (Fin n) count)
  /-- `rng.choice(n, size=count, replace=False)` -/
  choice : Rng → (n count : Nat) → Except PyExc (List.Vector (Fin n) count)
  length_linspace : ∀ {start stop num values}, linspace start stop num = .ok values →
    (values.length : Int) = num
  length_logspace : ∀ {start stop num base values}, logspace start stop num base = .ok values →
    (values.length : Int) = num
  length_geomspace : ∀ {start stop num values}, geomspace start stop num = .ok values →
    (values.length : Int) = num

/-- What generation rests on outside `ranges.py`. -/
structure GenHost where
  py : Primitives
  np : Numpy
  closeMatch : String → List String → Option String
  scan2d : Value → Except PyExc (List Entries)

section
variable (host : GenHost)

def rendered (env : Env) (v : Value) : Except PyExc Value :=
  (renderTemplates host.py v).result env.get?

def unknownKeyMessage (owner key : String) (allowed : List String) : String :=
  let names := allowed.mergeSort (· ≤ ·)
  let close := match host.closeMatch key names with
    | some name => " (did you mean " ++ host.py.repr (.str name) ++ "?)"
    | none => ""
  owner ++ " has unknown key " ++ host.py.repr (.str key) ++ close ++ ". Valid keys: " ++
    ", ".intercalate names

/-- `_check_generator_fields`, on a mapping. -/
def checkFields (g : Generator) (params : Entries) : Except PyExc Unit :=
  let allowed := g.required ++ g.optional
  match params.find? fun e => e.1 ∉ allowed with
  | some e => .error ⟨.valueError,unknownKeyMessage host ("gen." ++ g.key) e.1 allowed⟩
  | none =>
    match g.required.filter fun name => (item? params name).isNone with
    | [] => .ok ()
    | missing => .error ⟨.valueError,"gen." ++ g.key ++ " is missing required field(s): " ++
        ", ".intercalate missing⟩

def checkGeneratorFields (g : Generator) (params : Value) : Except PyExc Entries :=
  match params with
  | .dict _ fields => do
    checkFields host g fields
    pure fields
  | _ => .error ⟨.typeError,"gen." ++ g.key ++ " must be a dict"⟩

def checkKind (gen : Entries) (kind : String) : Except PyExc Unit :=
  match Generator.all.find? fun g => g.key = kind,item? gen kind with
  | some g,some (.dict _ fields) => checkFields host g fields
  | _,_ => .ok ()

def validateGenKeys (gen : Entries) : Except PyExc Unit :=
  let known := generatorKinds ++ genModifierKeys
  match gen.find? fun e => e.1 ∉ known with
  | some e => .error ⟨.valueError,unknownKeyMessage host "gen spec" e.1 known⟩
  | none =>
    match (gen.map Prod.fst).filter (· ∈ generatorKinds) with
    | [] => .error ⟨.valueError,"gen spec must include one of " ++ "/".intercalate generatorKinds⟩
    | [kind] => checkKind host gen kind
    | kinds => .error ⟨.valueError,"gen spec must contain exactly one generator, got: " ++
        ", ".intercalate kinds⟩

structure Modifiers where
  offset : Option F64
  shuffle : Bool
  seed : Option Int
  serpentine : Bool

/-- `int(value)`, unless it is null. -/
def optionalInt (v : Value) : Except PyExc (Option Int) :=
  match v with
  | .none => .ok none
  | v => do
    let n ← host.np.toInt v
    pure (some n)

/-- The modifiers as `_generate_core` reads them. -/
def modifiersOf (gen : Entries) (env : Env) : Except PyExc Modifiers := do
  let offset ← match getD gen "offset" .none with
    | .none => pure none
    | raw => do
      let v ← rendered host env raw
      let x ← host.np.toFloat v
      pure (some x)
  let seed ← match getD gen "seed" .none with
    | .none => pure none
    | raw => do
      let v ← rendered host env raw
      optionalInt host v
  pure ⟨offset,(getD gen "shuffle" (.bool false)).truthy,seed,
    (getD gen "serpentine" (.bool false)).truthy⟩

def shifted (offset : Option F64) (values : List Value) : Except PyExc (List Value) :=
  match offset with
  | none => .ok values
  | some x => values.mapM fun v => host.np.shift v x

def shuffled (m : Modifiers) (values : List Value) : Except PyExc (List Value) :=
  if m.shuffle then do
    let rng ← host.np.defaultRng m.seed
    pure (host.np.shuffle rng values).val
  else .ok values

def turned (m : Modifiers) (serpentineIndex : Option Int) (values : List Value) : List Value :=
  match serpentineIndex with
  | some i => if m.serpentine && i % 2 = 1 then values.reverse else values
  | none => values

def applyModifiers (m : Modifiers) (serpentineIndex : Option Int) (values : List Value) :
    Except PyExc (List Value) := do
  let out ← shifted host m.offset values
  let out ← shuffled host m out
  pure (turned m serpentineIndex out)

/-- The position of a record among `total`. -/
def position (total i : Nat) : Value :=
  .float (if 1 < total then host.np.ratio i (max 1 (total-1)) else 0)

def wrapScalarRecords (values : List Value) : List Entries :=
  values.zipIdx.map fun (v,i) =>
    [("value",v),("index",.int i),("u",position host values.length i),("count",.int values.length)]

def floatField (params : Entries) (name : String) : Except PyExc F64 :=
  host.np.toFloat (getD params name .none)

def numField (params : Entries) : Except PyExc Int := host.np.toInt (getD params "num" .none)

def rangeStopTol : F64 := 0x3E112E0BE826D695

def rangeValues (params : Entries) : Except PyExc (List Value) := do
  let start ← floatField host params "start"
  let stop ← floatField host params "stop"
  let step ← host.np.toFloat (getD params "step" (.int 1))
  if !(Value.float step).truthy then .error ⟨.valueError,"range.step must be non-zero"⟩
  else if host.np.lt (host.np.mul (host.np.sub stop start) step) 0 then
    .error ⟨.valueError,"range step direction is wrong: start=" ++ host.py.repr (.float start) ++
      " stop=" ++ host.py.repr (.float stop) ++ " step=" ++ host.py.repr (.float step) ++
      " would never reach stop"⟩
  else do
    let n ← host.np.ceil (host.np.sub (host.np.div (host.np.sub stop start) step) rangeStopTol)
    host.np.arange start (max 0 n) step

def linspaceValues (params : Entries) : Except PyExc (List Value) := do
  let start ← floatField host params "start"
  let stop ← floatField host params "stop"
  let num ← numField host params
  host.np.linspace start stop num

def triangleValues (params : Entries) : Except PyExc (List Value) := do
  let start ← floatField host params "start"
  let stop ← floatField host params "stop"
  let num ← numField host params
  if num < 2 then .error ⟨.valueError,"triangle.num must be >= 2"⟩
  else do
    let forward ← host.np.linspace start stop num
    let backward ← host.np.linspace stop start num
    pure (forward ++ backward)

def centeredTriangle (num : Int) (edgeToEdge : List Value) : List Value :=
  let centerIndex := (num / 2).toNat
  (edgeToEdge.take (centerIndex+1)).reverse ++ edgeToEdge ++ (edgeToEdge.drop centerIndex).reverse

def centeredTriangleValues (params : Entries) : Except PyExc (List Value) := do
  let center ← floatField host params "center"
  let span ← floatField host params "span"
  let num ← numField host params
  let direction ← host.np.toInt (getD params "dir" (.int 1))
  if num < 3 then .error ⟨.valueError,"centered_triangle.num must be >= 3"⟩
  else if num % 2 = 0 then
    .error ⟨.valueError,"centered_triangle.num must be odd so the center is included"⟩
  else if direction ≠ -1 && direction ≠ 1 then
    .error ⟨.valueError,"centered_triangle.dir must be 1 or -1"⟩
  else do
    let halfSpan := host.np.div span 0x4000000000000000
    let upper := host.np.add center halfSpan
    let lower := host.np.sub center halfSpan
    let firstEdge := if direction = 1 then upper else lower
    let secondEdge := if direction = 1 then lower else upper
    let edgeToEdge ← host.np.linspace firstEdge secondEdge num
    pure (centeredTriangle num edgeToEdge)

def logspaceValues (params : Entries) : Except PyExc (List Value) := do
  let start ← floatField host params "start"
  let stop ← floatField host params "stop"
  let num ← numField host params
  let base ← host.np.toFloat (getD params "base" (.float 0x4024000000000000))
  host.np.logspace start stop num base

def geomspaceValues (params : Entries) : Except PyExc (List Value) := do
  let start ← floatField host params "start"
  let stop ← floatField host params "stop"
  let num ← numField host params
  host.np.geomspace start stop num

def Generator.values (params : Entries) : Generator → Except PyExc (List Value)
  | .range => rangeValues host params
  | .linspace => linspaceValues host params
  | .logspace => logspaceValues host params
  | .geomspace => geomspaceValues host params
  | .triangle => triangleValues host params
  | .centeredTriangle => centeredTriangleValues host params

/-- The order in which `_generate_core` looks for a generator. -/
def Generator.order : List Generator :=
  [.range,.linspace,.triangle,.centeredTriangle,.logspace,.geomspace]

def generatorOf (gen : Entries) : Option (Generator × Value) :=
  Generator.order.findSome? fun g => (item? gen g.key).map fun spec => (g,spec)

def generatedValues (gen : Entries) (env : Env) : Except PyExc (List Value) :=
  match generatorOf gen with
  | some (g,spec) => do
    let spec ← rendered host env spec
    let params ← checkGeneratorFields host g spec
    g.values host params
  | none =>
    match item? gen "values" with
    | some spec => do
      match ← rendered host env spec with
      | .list items => pure items
      | _ => .error ⟨.typeError,"gen.values must be a list"⟩
    | none => .error ⟨.valueError,"gen spec must include one of " ++
        "range/linspace/triangle/centered_triangle/logspace/geomspace/values/scan2d"⟩

def generateCore (gen : Entries) (env : Env) (serpentineIndex : Option Int) :
    Except PyExc (List Entries) :=
  match item? gen "scan2d" with
  | some scan =>
    if gen.length ≠ 1 then
      .error ⟨.valueError,"scan2d must be the only generator in its gen spec"⟩
    else do
      let scan ← rendered host env scan
      host.scan2d scan
  | none => do
    validateGenKeys host gen
    let m ← modifiersOf host gen env
    let values ← generatedValues host gen env
    let values ← applyModifiers host m serpentineIndex values
    pure (wrapScalarRecords host values)

def coerceInt (v : Value) (name : String) (minimum : Int) : Except PyExc Int :=
  match host.np.toInt v with
  | .error _ => .error ⟨.typeError,name ++ " must be an integer"⟩
  | .ok n =>
    if n < minimum then .error ⟨.valueError,name ++ " must be >= " ++ toString minimum⟩ else .ok n

def drawn (seed : Option Int) (replace : Bool) (n count : Nat) :
    Except PyExc (List.Vector (Fin n) count) := do
  let rng ← host.np.defaultRng seed
  if replace then host.np.integers rng n count
  else if n < count then
    .error ⟨.valueError,"sample.count=" ++ toString count ++ " exceeds population size " ++
      toString n ++ " with replace=false"⟩
  else host.np.choice rng n count

def stamped (records : List Entries) : List Entries :=
  records.zipIdx.map fun (record,i) =>
    setItem (setItem (setItem record "index" (.int i)) "count" (.int records.length)) "u"
      (position host records.length i)

def applySample (records : List Entries) (sampleSpec : Value) (env : Env) :
    Except PyExc (List Entries) := do
  match ← rendered host env sampleSpec with
  | .dict _ spec => do
    let count ← coerceInt host (getD spec "count" .none) "sample.count" 1
    let seed ← optionalInt host (getD spec "seed" .none)
    if records.isEmpty then pure []
    else do
      let indices ← drawn host seed (getD spec "replace" (.bool false)).truthy records.length
        count.toNat
      pure (stamped host (indices.toList.map records.get))
  | _ => .error ⟨.typeError,"gen.sample must be a dict"⟩

def generateFromGen (gen : Entries) (env : Env) (serpentineIndex : Option Int) :
    Except PyExc (List Entries) :=
  match getD gen "sample" .none with
  | .none => generateCore host gen env serpentineIndex
  | sample => do
    let records ← generateCore host (gen.filter fun e => e.1 ≠ "sample") env serpentineIndex
    applySample host records sample env

end

variable {host : GenHost}

/-- How many values a generator makes of `num`. -/
def Generator.size (num : Int) : Generator → Int
  | .triangle => 2*num
  | .centeredTriangle => 2*num+1
  | .range | .linspace | .logspace | .geomspace => num

variable {values out : List Value}

theorem length_shifted {offset : Option F64}
    (h : shifted host offset values = .ok out) : out.length = values.length := by
  cases offset with
  | none =>
    cases h
    rfl
  | some x => exact (mapM_ok_iff.1 h).length_eq.symm

theorem length_shuffled {m : Modifiers}
    (h : shuffled host m values = .ok out) : out.length = values.length := by
  unfold shuffled at h
  split at h
  · obtain ⟨rng,_,h⟩ := bind_eq_ok h
    cases h
    exact (host.np.shuffle rng values).property.length_eq
  · cases h
    rfl

theorem length_turned (m : Modifiers) (serpentineIndex : Option Int) (values : List Value) :
    (turned m serpentineIndex values).length = values.length := by
  unfold turned
  split
  · split
    · exact values.length_reverse
    · rfl
  · rfl

theorem length_applyModifiers {m : Modifiers} {serpentineIndex : Option Int}
    (h : applyModifiers host m serpentineIndex values = .ok out) :
    out.length = values.length := by
  obtain ⟨out₁,h₁,h⟩ := bind_eq_ok h
  obtain ⟨out₂,h₂,h⟩ := bind_eq_ok h
  cases h
  rw [length_turned,length_shuffled h₂,length_shifted h₁]

theorem length_wrapScalarRecords (values : List Value) :
    (wrapScalarRecords host values).length = values.length := by
  simp [wrapScalarRecords]

theorem length_stamped (records : List Entries) :
    (stamped host records).length = records.length := by simp [stamped]

theorem length_centeredTriangle {num : Int} {edgeToEdge : List Value}
    (hlen : (edgeToEdge.length : Int) = num) (hnum : 3 ≤ num) :
    ((centeredTriangle num edgeToEdge).length : Int) = 2*num+1 := by
  simp only [centeredTriangle,length_append,length_reverse,length_take,length_drop]
  omega

theorem length_values {g : Generator} {params : Entries} {values : List Value}
    (hg : g ≠ .range) (h : g.values host params = .ok values) :
    ∃ num, numField host params = .ok num ∧ (values.length : Int) = g.size num := by
  cases g with
  | range => exact absurd rfl hg
  | linspace =>
    obtain ⟨start,_,h⟩ := bind_eq_ok h
    obtain ⟨stop,_,h⟩ := bind_eq_ok h
    obtain ⟨num,hnum,h⟩ := bind_eq_ok h
    exact ⟨num,hnum,host.np.length_linspace h⟩
  | logspace =>
    obtain ⟨start,_,h⟩ := bind_eq_ok h
    obtain ⟨stop,_,h⟩ := bind_eq_ok h
    obtain ⟨num,hnum,h⟩ := bind_eq_ok h
    obtain ⟨base,_,h⟩ := bind_eq_ok h
    exact ⟨num,hnum,host.np.length_logspace h⟩
  | geomspace =>
    obtain ⟨start,_,h⟩ := bind_eq_ok h
    obtain ⟨stop,_,h⟩ := bind_eq_ok h
    obtain ⟨num,hnum,h⟩ := bind_eq_ok h
    exact ⟨num,hnum,host.np.length_geomspace h⟩
  | triangle =>
    obtain ⟨start,_,h⟩ := bind_eq_ok h
    obtain ⟨stop,_,h⟩ := bind_eq_ok h
    obtain ⟨num,hnum,h⟩ := bind_eq_ok h
    by_cases hsmall : num < 2
    · rw [if_pos hsmall] at h
      cases h
    · rw [if_neg hsmall] at h
      obtain ⟨forward,hforward,h⟩ := bind_eq_ok h
      obtain ⟨backward,hbackward,h⟩ := bind_eq_ok h
      cases h
      have h₁ := host.np.length_linspace hforward
      have h₂ := host.np.length_linspace hbackward
      refine ⟨num,hnum,?_⟩
      simp only [length_append,Generator.size]
      omega
  | centeredTriangle =>
    obtain ⟨center,_,h⟩ := bind_eq_ok h
    obtain ⟨span,_,h⟩ := bind_eq_ok h
    obtain ⟨num,hnum,h⟩ := bind_eq_ok h
    obtain ⟨direction,_,h⟩ := bind_eq_ok h
    by_cases hsmall : num < 3
    · rw [if_pos hsmall] at h
      cases h
    rw [if_neg hsmall] at h
    by_cases heven : num % 2 = 0
    · rw [if_pos heven] at h
      cases h
    rw [if_neg heven] at h
    split at h
    · cases h
    · obtain ⟨edgeToEdge,hedge,h⟩ := bind_eq_ok h
      cases h
      exact ⟨num,hnum,length_centeredTriangle (host.np.length_linspace hedge) (by omega)⟩

theorem length_applySample {records out : List Entries} {sample : Value} {env : Env}
    (h : applySample host records sample env = .ok out) :
    ∃ attr spec count, rendered host env sample = .ok (.dict attr spec) ∧
      host.np.toInt (getD spec "count" .none) = .ok count ∧ 1 ≤ count ∧
      (out.length : Int) = if records = [] then 0 else count := by
  obtain ⟨v,hv,h⟩ := bind_eq_ok h
  cases v with
  | dict attr spec =>
    obtain ⟨count,hcount,h⟩ := bind_eq_ok h
    obtain ⟨seed,_,h⟩ := bind_eq_ok h
    unfold coerceInt at hcount
    cases hint : host.np.toInt (getD spec "count" .none) with
    | error e => simp [hint] at hcount
    | ok n =>
      simp only [hint] at hcount
      split at hcount
      · cases hcount
      · rename_i hmin
        cases hcount
        refine ⟨attr,spec,count,hv,hint,by omega,?_⟩
        by_cases hempty : records = []
        · subst hempty
          cases h
          rfl
        · rw [if_neg (by simpa using hempty)] at h
          obtain ⟨indices,_,h⟩ := bind_eq_ok h
          cases h
          rw [length_stamped,length_map,indices.toList_length,if_neg hempty]
          omega
  | none | bool _ | int _ | float _ | str _ | list _ => cases h

end ExperimentControl.Sequencer

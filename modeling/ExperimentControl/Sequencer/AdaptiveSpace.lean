import Mathlib.Data.Rat.Floor
import ExperimentControl.Lib.OrderedDict
import ExperimentControl.Lib.Rounding
import ExperimentControl.Python.Value

/-!
The space of an adaptive step, with numbers that are exact: what `_apply_adaptive_space` makes of a
proposal, and which trials `_trial_matches_adaptive_space` takes back.
-/

namespace ExperimentControl.Sequencer.AdaptiveSpace
open Lib Python List Prod

/-- A value whose numbers are rational. -/
inductive Datum where
  | none
  | bool (b : Bool)
  | int (n : ℤ)
  | real (q : ℚ)
  | str (s : String)
  | list (items : List Datum)
  | dict (entries : List (String × Datum))

abbrev Fields := List (String × Datum)

def field? (fields : Fields) (key : String) : Option Datum :=
  (fields.find? fun e => e.1 = key).map snd

def get (fields : Fields) (key : String) : Datum := (field? fields key).getD .none

/-- What is taken from Python: `float(text)`, `==` and `repr`. -/
structure Lang where
  readNumber : String → Option ℚ
  equal : Datum → Datum → Bool
  repr : Datum → String

def truthy : Datum → Bool
  | .none => false
  | .bool b => b
  | .int n => n ≠ 0
  | .real q => q ≠ 0
  | .str s => s ≠ ""
  | .list items => !items.isEmpty
  | .dict entries => !entries.isEmpty

section
variable (lang : Lang)

def text : Datum → String
  | .str s => s
  | v => lang.repr v

/-- `float(value)`; of anything else than texts and numbers it raises. -/
def number? : Datum → Option ℚ
  | .bool b => some (if b then 1 else 0)
  | .int n => some n
  | .real q => some q
  | .str s => lang.readNumber s
  | .none | .list _ | .dict _ => none

/-- `str(spec.get("type", "") or "").strip().lower()` -/
def paramType (spec : Fields) : String :=
  let raw := (field? spec "type").getD (.str "")
  if truthy raw then (strip (text lang raw)).toLower else ""

def among (v : Datum) (choices : List Datum) : Bool := choices.any fun c => lang.equal v c

def coerceCategorical (name : String) (spec : Fields) (raw : Datum) : Except PyExc Datum :=
  match get spec "choices" with
  | .list (c :: choices) =>
    if among lang raw (c :: choices) then .ok raw
    else .error ⟨.valueError,"adaptive controller proposed invalid value " ++ lang.repr raw ++
      " for " ++ lang.repr (.str name)⟩
  | _ => .error ⟨.typeError,"adaptive.space." ++ name ++ ".choices must be a non-empty list"⟩

def onGrid (name : String) (spec : Fields) (lower : ℚ) (step : Datum) (value : ℚ) : Except PyExc ℚ :=
  match number? lang step with
  | none => .error ⟨.typeError,"adaptive.space." ++ name ++ ".step must be numeric"⟩
  | some stepSize =>
    if stepSize ≤ 0 then
      .error ⟨.valueError,"adaptive.space." ++ name ++ ".step must be > 0"⟩
    else
      match number? lang ((field? spec "origin").getD (.real lower)) with
      | none => .error ⟨.typeError,"adaptive.space." ++ name ++ ".origin must be numeric"⟩
      | some origin => .ok (origin+roundHalfEven ((value-origin)/stepSize)*stepSize)

def snapped (name : String) (spec : Fields) (lower value : ℚ) : Except PyExc ℚ :=
  match truthy (get spec "snap"),get spec "step" with
  | false,_ | _,.none => .ok value
  | true,step => onGrid lang name spec lower step value

def bounded (paramType : String) (lower upper value : ℚ) : Datum :=
  let value := max lower (min upper value)
  if paramType = "int" then .int (roundHalfEven value) else .real value

def coerceNumeric (name : String) (spec : Fields) (raw : Datum) : Except PyExc Datum :=
  match number? lang raw,number? lang (get spec "min"),number? lang (get spec "max") with
  | some value,some lower,some upper =>
    if upper ≤ lower then .error ⟨.valueError,"adaptive.space." ++ name ++ " requires max > min"⟩
    else do
      let value ← snapped lang name spec lower value
      pure (bounded (paramType lang spec) lower upper value)
  | _,_,_ => .error ⟨.typeError,"adaptive.space." ++ name ++
      " requires numeric min/max and numeric values"⟩

def coerceAdaptiveParam (name : String) (spec : Fields) (raw : Datum) : Except PyExc Datum :=
  if paramType lang spec = "categorical" then coerceCategorical lang name spec raw
  else if paramType lang spec ≠ "float" && paramType lang spec ≠ "int" then
    .error ⟨.valueError,"adaptive.space." ++ name ++ ".type " ++
      lang.repr (.str (paramType lang spec)) ++ " is not supported in v1"⟩
  else coerceNumeric lang name spec raw

def applyParam (paramsRaw : Fields) (name : String) (spec : Datum) : Except PyExc Datum :=
  match spec with
  | .dict spec =>
    match field? paramsRaw name with
    | none => .error ⟨.keyError,"adaptive controller proposal is missing parameter " ++
        lang.repr (.str name)⟩
    | some raw => coerceAdaptiveParam lang name spec raw
  | _ => .error ⟨.typeError,"adaptive.space." ++ name ++ " must be a dict"⟩

def applyParams (paramsRaw : Fields) : Fields → Except PyExc Fields
  | [] => .ok []
  | (name,spec) :: rest => do
    let value ← applyParam lang paramsRaw name spec
    let params ← applyParams paramsRaw rest
    pure ((name,value) :: params)

def applyAdaptiveSpace (space : OrderedDict String Datum) (paramsRaw : Fields) :
    Except PyExc Fields :=
  applyParams lang paramsRaw space.entries

/-- One parameter of `_trial_matches_adaptive_space`. -/
def paramMatches (params : Fields) (name : String) (spec : Datum) : Bool :=
  match spec,field? params name with
  | .dict spec,some raw =>
    if paramType lang spec = "categorical" then
      match get spec "choices" with
      | .list choices => among lang raw choices
      | _ => false
    else if paramType lang spec ≠ "float" && paramType lang spec ≠ "int" then false
    else match number? lang raw,number? lang (get spec "min"),number? lang (get spec "max") with
      | some value,some lower,some upper => !(value < lower || upper < value || upper ≤ lower)
      | _,_,_ => false
  | _,_ => false

def trialMatchesAdaptiveSpace (space : OrderedDict String Datum) (params : Fields) : Bool :=
  space.entries.all fun e => paramMatches lang params e.1 e.2

end

section
variable {lang : Lang}

theorem applyParams_iff {paramsRaw entries params : Fields} :
    applyParams lang paramsRaw entries = .ok params ↔
      List.Forall₂ (fun e p => p.1 = e.1 ∧ applyParam lang paramsRaw e.1 e.2 = .ok p.2)
        entries params := by
  induction entries generalizing params with
  | nil =>
    simp only [applyParams,forall₂_nil_left_iff,Except.ok.injEq]
    exact eq_comm
  | cons e rest ih =>
    obtain ⟨name,spec⟩ := e
    rw [forall₂_cons_left_iff]
    constructor
    · intro h
      obtain ⟨value,hvalue,h⟩ := bind_eq_ok h
      obtain ⟨params',hparams,h⟩ := bind_eq_ok h
      cases h
      exact ⟨(name,value),params',⟨rfl,hvalue⟩,ih.1 hparams,rfl⟩
    · rintro ⟨⟨_,value⟩,params',⟨rfl,hvalue⟩,hparams,rfl⟩
      simp only [applyParams,hvalue,ih.2 hparams]
      rfl

theorem field?_of_forall₂ {R : String × Datum → String × Datum → Prop} {entries params : Fields}
    (hname : ∀ e p, R e p → p.1 = e.1) (h : List.Forall₂ R entries params)
    (hnodup : (entries.map fst).Nodup) {e : String × Datum} (he : e ∈ entries) :
    ∃ v, field? params e.1 = some v ∧ R e (e.1,v) := by
  induction h with
  | nil => cases he
  | @cons first p rest params' hfirst _ ih =>
    rw [map_cons,nodup_cons] at hnodup
    have hp := hname _ _ hfirst
    rcases mem_cons.1 he with rfl | hrest
    · refine ⟨p.2,by simp [field?,hp],?_⟩
      rw [← hp]
      exact hfirst
    · have hne : first.1 ≠ e.1 := by
        intro heq
        exact hnodup.1 (heq ▸ mem_map_of_mem hrest)
      obtain ⟨v,hv,hR⟩ := ih hnodup.2 hrest
      refine ⟨v,?_,hR⟩
      unfold field? at hv ⊢
      rw [find?_cons_of_neg (by simp [hp,hne])]
      exact hv

theorem field?_cons_self (name : String) (v : Datum) (fields : Fields) :
    field? ((name,v) :: fields) name = some v := by simp [field?]

theorem field?_cons_of_ne {name key : String} (h : name ≠ key) (v : Datum) (fields : Fields) :
    field? ((name,v) :: fields) key = field? fields key := by simp [field?,h]

variable {name : String}

theorem applyParams_change {paramsRaw entries params : Fields} {raw : Datum}
    (h : applyParams lang paramsRaw entries = .ok params) (hname : ∀ spec, (name,spec) ∈ entries →
      ∃ v, applyParam lang ((name,raw) :: paramsRaw) name spec = .ok v) :
    ∃ params', applyParams lang ((name,raw) :: paramsRaw) entries = .ok params' := by
  induction entries generalizing params with
  | nil => exact ⟨[],rfl⟩
  | cons e rest ih =>
    obtain ⟨key,spec⟩ := e
    obtain ⟨value,hvalue,h⟩ := bind_eq_ok h
    obtain ⟨params₁,hparams,_⟩ := bind_eq_ok h
    obtain ⟨params',hparams'⟩ := ih hparams fun spec hspec => hname spec (mem_cons_of_mem _ hspec)
    have hkey : ∃ v, applyParam lang ((name,raw) :: paramsRaw) key spec = .ok v := by
      by_cases hkey : name = key
      · subst hkey
        exact hname spec (by simp)
      · refine ⟨value,?_⟩
        unfold applyParam at hvalue ⊢
        cases spec with
        | dict spec =>
          dsimp only at hvalue ⊢
          rwa [field?_cons_of_ne hkey]
        | none | bool _ | int _ | real _ | str _ | list _ => exact hvalue
    obtain ⟨v,hv⟩ := hkey
    exact ⟨(key,v) :: params',by simp only [applyParams,hv,hparams']; rfl⟩

theorem onGrid_near {spec : Fields} {lower value result : ℚ} {step : Datum}
    (h : onGrid lang name spec lower step value = .ok result) :
    ∃ reach, ∀ v, ∃ v', onGrid lang name spec lower step v = .ok v' ∧ v' ≤ v+reach ∧ v-reach ≤ v' := by
  unfold onGrid at h ⊢
  cases hstep : number? lang step with
  | none => simp [hstep] at h
  | some stepSize =>
    simp only [hstep] at h ⊢
    by_cases hpos : stepSize ≤ 0
    · rw [if_pos hpos] at h
      cases h
    · rw [if_neg hpos] at h
      cases horigin : number? lang ((field? spec "origin").getD (.real lower)) with
      | none => simp [horigin] at h
      | some origin =>
        have hstep : 0 < stepSize := not_le.1 hpos
        refine ⟨1/2*stepSize,fun v => ⟨_,by rw [if_neg hpos],?_,?_⟩⟩
        · have hround := mul_le_mul_of_nonneg_right
            (roundHalfEven_le_add_half ((v-origin)/stepSize)) hstep.le
          rw [add_mul,div_mul_cancel₀ _ hstep.ne'] at hround
          linarith
        · have hround := mul_le_mul_of_nonneg_right
            (sub_half_le_roundHalfEven ((v-origin)/stepSize)) hstep.le
          rw [sub_mul,div_mul_cancel₀ _ hstep.ne'] at hround
          linarith

theorem snapped_near {spec : Fields} {lower value result : ℚ}
    (h : snapped lang name spec lower value = .ok result) :
    ∃ reach, ∀ v, ∃ v', snapped lang name spec lower v = .ok v' ∧ v' ≤ v+reach ∧ v-reach ≤ v' := by
  have hstay : ∀ f : ℚ → Except PyExc ℚ, (∀ v, f v = .ok v) →
      ∃ reach, ∀ v, ∃ v', f v = .ok v' ∧ v' ≤ v+reach ∧ v-reach ≤ v' :=
    fun f hf => ⟨0,fun v => ⟨v,hf v,by simp,by simp⟩⟩
  revert h
  unfold snapped
  cases truthy (get spec "snap") with
  | false => exact fun _ => hstay _ fun _ => rfl
  | true =>
    cases get spec "step" with
    | none => exact fun _ => hstay _ fun _ => rfl
    | bool _ | int _ | real _ | str _ | list _ | dict _ => exact onGrid_near

end

section
variable (lang : Lang)

/-- The value is among the choices of the parameter, or between its bounds. -/
def Within (spec : Fields) (v : Datum) : Prop :=
  if paramType lang spec = "categorical" then
    ∃ choices, get spec "choices" = .list choices ∧ among lang v choices = true
  else ∃ x lower upper, number? lang v = some x ∧ number? lang (get spec "min") = some lower ∧
    number? lang (get spec "max") = some upper ∧ lower ≤ x ∧ x ≤ upper

/-- Every parameter of the space is there and within it, and the trial is taken back. -/
def Respects (space : OrderedDict String Datum) (params : Fields) : Prop :=
  (∀ e ∈ space.entries, ∃ spec v, e.2 = .dict spec ∧ field? params e.1 = some v ∧
    Within lang spec v) ∧
  trialMatchesAdaptiveSpace lang space params = true

def RoundsInside (spec : Fields) : Prop :=
  ∀ lower upper, number? lang (get spec "min") = some lower →
    number? lang (get spec "max") = some upper →
    lower ≤ roundHalfEven lower ∧ (roundHalfEven upper : ℚ) ≤ upper

def Accepts (space : OrderedDict String Datum) : Prop :=
  ∃ paramsRaw params, applyAdaptiveSpace lang space paramsRaw = .ok params

variable {lang}

variable {name : String} {spec : Fields} {raw v : Datum}

theorem coerceCategorical_within (h : coerceCategorical lang name spec raw = .ok v) :
    ∃ choices, get spec "choices" = .list choices ∧ among lang v choices = true := by
  unfold coerceCategorical at h
  split at h
  · rename_i c choices hchoices
    split at h
    · rename_i hin
      cases h
      exact ⟨c :: choices,hchoices,hin⟩
    · cases h
  · cases h

theorem bounded_within {kind : String} {lower upper value : ℚ} (hlt : lower < upper)
    (hround : kind = "int" → lower ≤ roundHalfEven lower ∧ (roundHalfEven upper : ℚ) ≤ upper) :
    ∃ x, number? lang (bounded kind lower upper value) = some x ∧ lower ≤ x ∧ x ≤ upper := by
  have hlow : lower ≤ max lower (min upper value) := le_max_left _ _
  have hhigh : max lower (min upper value) ≤ upper := max_le hlt.le (min_le_left _ _)
  unfold bounded
  by_cases hint : kind = "int"
  · obtain ⟨hl,hu⟩ := hround hint
    refine ⟨roundHalfEven (max lower (min upper value)),by simp [hint,number?],?_,?_⟩
    · exact hl.trans (by exact_mod_cast roundHalfEven_mono hlow)
    · exact le_trans (by exact_mod_cast roundHalfEven_mono hhigh) hu
  · exact ⟨max lower (min upper value),by simp [hint,number?],hlow,hhigh⟩

theorem coerceNumeric_cases (h : coerceNumeric lang name spec raw = .ok v) :
    ∃ value lower upper value', number? lang raw = some value ∧
      number? lang (get spec "min") = some lower ∧ number? lang (get spec "max") = some upper ∧
      lower < upper ∧ snapped lang name spec lower value = .ok value' ∧
      v = bounded (paramType lang spec) lower upper value' := by
  unfold coerceNumeric at h
  split at h
  · rename_i value lower upper hvalue hlower hupper
    split at h
    · cases h
    · rename_i hlt
      obtain ⟨value',hsnap,h⟩ := bind_eq_ok h
      cases h
      exact ⟨value,lower,upper,value',hvalue,hlower,hupper,not_le.1 hlt,hsnap,rfl⟩
  · cases h

theorem coerceAdaptiveParam_within (h : coerceAdaptiveParam lang name spec raw = .ok v)
    (hround : paramType lang spec = "int" → RoundsInside lang spec) : Within lang spec v := by
  unfold coerceAdaptiveParam at h
  unfold Within
  split at h
  · rename_i hkind
    rw [if_pos hkind]
    exact coerceCategorical_within h
  · rename_i hkind
    rw [if_neg hkind]
    split at h
    · cases h
    · obtain ⟨value,lower,upper,value',_,hlower,hupper,hlt,_,rfl⟩ := coerceNumeric_cases h
      obtain ⟨x,hx,hlow,hhigh⟩ := @bounded_within lang (paramType lang spec) lower upper value' hlt
        fun hint => hround hint lower upper hlower hupper
      exact ⟨x,lower,upper,hx,hlower,hupper,hlow,hhigh⟩

theorem paramMatches_of_within {params : Fields}
    (hget : field? params name = some v) (h : coerceAdaptiveParam lang name spec raw = .ok v)
    (hwithin : Within lang spec v) : paramMatches lang params name (.dict spec) = true := by
  unfold paramMatches
  unfold Within at hwithin
  unfold coerceAdaptiveParam at h
  simp only [hget]
  split at h
  · rename_i hkind
    rw [if_pos hkind] at hwithin ⊢
    obtain ⟨choices,hchoices,hin⟩ := hwithin
    rw [hchoices]
    exact hin
  · rename_i hkind
    rw [if_neg hkind] at hwithin ⊢
    split at h
    · cases h
    · rename_i hnumeric
      rw [if_neg hnumeric]
      obtain ⟨_,lower,upper,_,_,hlower,hupper,hlt,_⟩ := coerceNumeric_cases h
      obtain ⟨x,lower',upper',hx,hlower',hupper',hlow,hhigh⟩ := hwithin
      obtain rfl : lower = lower' := Option.some.inj (hlower.symm.trans hlower')
      obtain rfl : upper = upper' := Option.some.inj (hupper.symm.trans hupper')
      simp only [hx,hlower,hupper]
      simpa using ⟨⟨hlow,hhigh⟩,hlt⟩

variable {space : OrderedDict String Datum}

theorem param_of_apply {paramsRaw params : Fields}
    (h : applyAdaptiveSpace lang space paramsRaw = .ok params) {e : String × Datum}
    (he : e ∈ space.entries) : ∃ spec raw v, e.2 = .dict spec ∧ field? paramsRaw e.1 = some raw ∧
      field? params e.1 = some v ∧ coerceAdaptiveParam lang e.1 spec raw = .ok v := by
  obtain ⟨v,hv,_,happly⟩ := field?_of_forall₂ (fun _ _ h => h.1) (applyParams_iff.1 h) space.nodup he
  unfold applyParam at happly
  split at happly
  · rename_i spec hspec
    split at happly
    · cases happly
    · rename_i raw hraw
      exact ⟨spec,raw,v,hspec,hraw,hv,happly⟩
  · cases happly

theorem respects_of_roundsInside {paramsRaw params : Fields}
    (hround : ∀ name spec, (name,Datum.dict spec) ∈ space.entries → paramType lang spec = "int" →
      RoundsInside lang spec)
    (h : applyAdaptiveSpace lang space paramsRaw = .ok params) : Respects lang space params := by
  have hparam : ∀ e ∈ space.entries, ∃ spec raw v, e.2 = .dict spec ∧ field? params e.1 = some v ∧
      coerceAdaptiveParam lang e.1 spec raw = .ok v ∧ Within lang spec v := by
    intro e he
    obtain ⟨spec,raw,v,hspec,_,hv,hcoerce⟩ := param_of_apply h he
    refine ⟨spec,raw,v,hspec,hv,hcoerce,coerceAdaptiveParam_within hcoerce fun hint => ?_⟩
    exact hround e.1 spec (hspec ▸ he) hint
  constructor
  · intro e he
    obtain ⟨spec,raw,v,hspec,hv,_,hwithin⟩ := hparam e he
    exact ⟨spec,v,hspec,hv,hwithin⟩
  · refine all_eq_true.2 fun e he => ?_
    obtain ⟨spec,raw,v,hspec,hv,hcoerce,hwithin⟩ := hparam e he
    rw [hspec]
    exact paramMatches_of_within hv hcoerce hwithin

theorem entry_unique {a b : Datum}
    (ha : (name,a) ∈ space.entries) (hb : (name,b) ∈ space.entries) : a = b :=
  congrArg snd (inj_on_of_nodup_map space.nodup ha hb rfl)

theorem coerceAdaptiveParam_int (hint : paramType lang spec = "int") (name : String)
    (raw : Datum) : coerceAdaptiveParam lang name spec raw = coerceNumeric lang name spec raw := by
  simp [coerceAdaptiveParam,hint]

theorem int_param_at (haccepts : Accepts lang space)
    (hall : ∀ paramsRaw params, applyAdaptiveSpace lang space paramsRaw = .ok params →
      Respects lang space params)
    (hmem : (name,Datum.dict spec) ∈ space.entries) (hint : paramType lang spec = "int") :
    ∃ lower upper reach, number? lang (get spec "min") = some lower ∧
      number? lang (get spec "max") = some upper ∧ lower < upper ∧
      ∀ q, ∃ q', q' ≤ q+reach ∧ q-reach ≤ q' ∧ lower ≤ roundHalfEven (max lower (min upper q')) ∧
        (roundHalfEven (max lower (min upper q')) : ℚ) ≤ upper := by
  obtain ⟨paramsRaw,params,happly⟩ := haccepts
  obtain ⟨spec',raw,v,hspec,_,_,hcoerce⟩ := param_of_apply happly hmem
  cases hspec
  rw [coerceAdaptiveParam_int hint] at hcoerce
  obtain ⟨value,lower,upper,value',_,hlower,hupper,hlt,hsnap,_⟩ := coerceNumeric_cases hcoerce
  obtain ⟨reach,hreach⟩ := snapped_near hsnap
  refine ⟨lower,upper,reach,hlower,hupper,hlt,fun q => ?_⟩
  obtain ⟨q',hq,hbelow,habove⟩ := hreach q
  have hcoerce' : coerceAdaptiveParam lang name spec (.real q) = .ok (bounded "int" lower upper q') := by
    have hreal : number? lang (.real q) = some q := rfl
    rw [coerceAdaptiveParam_int hint]
    simp only [coerceNumeric,hreal,hlower,hupper,if_neg (not_le.2 hlt),hq,hint]
    rfl
  have hchange : ∀ other, (name,other) ∈ space.entries →
      ∃ v, applyParam lang ((name,.real q) :: paramsRaw) name other = .ok v := by
    intro other hother
    obtain rfl := entry_unique hmem hother
    exact ⟨_,by simp only [applyParam,field?_cons_self]; exact hcoerce'⟩
  obtain ⟨params',hparams'⟩ := applyParams_change happly hchange
  obtain ⟨spec₁,raw₁,w,hspec₁,hraw₁,hw₁,hcoerce₁⟩ := param_of_apply hparams' hmem
  cases hspec₁
  rw [field?_cons_self,Option.some.injEq] at hraw₁
  subst hraw₁
  rw [hcoerce',Except.ok.injEq] at hcoerce₁
  obtain ⟨spec₂,w₂,hspec₂,hw₂,hwithin⟩ := (hall _ _ hparams').1 _ hmem
  cases hspec₂
  obtain rfl : w = w₂ := Option.some.inj (hw₁.symm.trans hw₂)
  have hnot : paramType lang spec ≠ "categorical" := by
    rw [hint]
    decide
  rw [Within,if_neg hnot] at hwithin
  obtain ⟨x,lower',upper',hx,hlower',hupper',hlow,hhigh⟩ := hwithin
  obtain rfl : lower = lower' := Option.some.inj (hlower.symm.trans hlower')
  obtain rfl : upper = upper' := Option.some.inj (hupper.symm.trans hupper')
  rw [← hcoerce₁] at hx
  simp only [bounded,if_true,number?,Option.some.injEq] at hx
  subst hx
  exact ⟨q',hbelow,habove,hlow,hhigh⟩

/-- A space has every proposal that it accepts respect it just where it accepts none, or where the
bounds of its integer parameters do not leave the interval when they are rounded. -/
theorem proposals_respect_space_iff (lang : Lang) (space : OrderedDict String Datum) :
    (∀ paramsRaw params, applyAdaptiveSpace lang space paramsRaw = .ok params →
      Respects lang space params) ↔
    (Accepts lang space → ∀ name spec, (name,Datum.dict spec) ∈ space.entries →
      paramType lang spec = "int" → RoundsInside lang spec) := by
  constructor
  · intro hall haccepts name spec hmem hint lower upper hlower hupper
    obtain ⟨lower',upper',reach,hlower',hupper',hlt,hat⟩ := int_param_at haccepts hall hmem hint
    obtain rfl : lower = lower' := Option.some.inj (hlower.symm.trans hlower')
    obtain rfl : upper = upper' := Option.some.inj (hupper.symm.trans hupper')
    constructor
    · obtain ⟨q',hbelow,_,hlow,_⟩ := hat (lower-reach)
      have hq : q' ≤ lower := by linarith
      rwa [min_eq_right (hq.trans hlt.le),max_eq_left hq] at hlow
    · obtain ⟨q',_,habove,_,hhigh⟩ := hat (upper+reach)
      have hq : upper ≤ q' := by linarith
      rwa [min_eq_left hq,max_eq_right hlt.le] at hhigh
  · intro hround paramsRaw params happly
    exact respects_of_roundsInside (hround ⟨paramsRaw,params,happly⟩) happly

end

def plainLang : Lang where
  readNumber _ := none
  equal a b := match a,b with
    | .int m,.int n => m = n
    | .str s,.str t => s = t
    | _,_ => false
  repr _ := ""

def cycles : OrderedDict String Datum := OrderedDict.empty.set "cycles"
  (.dict [("type",.str "int"),("min",.real (1/5)),("max",.real (5/2))])

theorem lower_bound_rounds_out :
    ∃ params, applyAdaptiveSpace plainLang cycles [("cycles",.int 0)] = .ok params ∧
      (field? params "cycles").bind (number? plainLang) = some 0 ∧
      trialMatchesAdaptiveSpace plainLang cycles params = false ∧ ¬ Respects plainLang cycles params := by
  have hrun : (applyAdaptiveSpace plainLang cycles [("cycles",.int 0)]).map (fun params =>
      ((field? params "cycles").bind (number? plainLang),
        trialMatchesAdaptiveSpace plainLang cycles params)) = .ok (some 0,false) := by
    decide +kernel
  cases happly : applyAdaptiveSpace plainLang cycles [("cycles",.int 0)] with
  | error e => simp [happly,Except.map] at hrun
  | ok params =>
    simp only [happly,Except.map,Except.ok.injEq,mk.injEq] at hrun
    refine ⟨params,rfl,hrun.1,hrun.2,fun hrespects => ?_⟩
    rw [hrespects.2] at hrun
    cases hrun.2

end ExperimentControl.Sequencer.AdaptiveSpace

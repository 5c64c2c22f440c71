import ExperimentControl.Sequencer.Ranges
import ExperimentControl.Sequencer.Rendering

/-!
The number of records of a `for` generator, estimated from its count fields alone
(`_estimate_gen_count_only`), against the records the generator makes.
-/

namespace ExperimentControl.Sequencer
open Lib Python Prod Except

section
variable (host : GenHost)

/-- `int(render_templates(raw, env_view))` -/
def countField (view : Env) (raw : Value) : Except PyExc Int := do
  let v ← rendered host view raw
  host.np.toInt v

/-- The generators of `_GEN_COUNT_ONLY_KEYS` that are left, in order. -/
def numCount (gen : Entries) (view : Env) : List Generator → Option Int
  | [] => none
  | g :: rest =>
    match item? gen g.key with
    | some (.dict _ fields) =>
      match item? fields "num" with
      | some raw =>
        match countField host view raw with
        | .ok num => if num < 1 then none else some (g.size num)
        | .error _ => none
      | none => numCount gen view rest
    | _ => numCount gen view rest

def genCountOnlyKeys : List Generator :=
  [.linspace,.logspace,.geomspace,.triangle,.centeredTriangle]

def baseCount (gen : Entries) (view : Env) : Option Int :=
  match item? gen "values" with
  | some (.list items) => some items.length
  | _ => numCount host gen view genCountOnlyKeys

/-- `_estimate_gen_count_only`, against the view of the walk's environment. -/
def estimateGenCountOnly (value : Value) (view : Env) : Option Int :=
  match value with
  | .dict _ outer =>
    match item? outer "gen" with
    | some (.dict _ gen) =>
      match baseCount host gen view,item? gen "sample" with
      | none,_ => none
      | some base,some (.dict _ fields) =>
        match item? fields "count" with
        | some raw => (countField host view raw).toOption
        | none => some base
      | some base,_ => some base
    | _ => none
  | _ => none

end

/-- A specification whose mappings hold each key once, as Python's do. -/
structure GenSpec where
  entries : Entries
  nodup : (entries.map fst).Nodup
  inner : ∀ key attr fields, item? entries key = some (.dict attr fields) →
    (fields.map fst).Nodup

def keysOnce : Value → Bool
  | .dict _ fields => (fields.map fst).Nodup
  | _ => true

theorem inner_of_all {entries : Entries} (h : entries.all (fun e => keysOnce e.2) = true)
    (key : String) (attr : Bool) (fields : Entries)
    (hitem : item? entries key = some (.dict attr fields)) : (fields.map fst).Nodup := by
  obtain ⟨e,he,hv⟩ := Option.map_eq_some_iff.1 hitem
  have hkeys := List.all_eq_true.1 h e (List.mem_of_find?_eq_some he)
  rw [hv] at hkeys
  simpa [keysOnce] using hkeys

section
variable (host : GenHost)

structure SameCounts (gen : Entries) (view env : Env) : Prop where
  num : ∀ g ∈ genCountOnlyKeys, ∀ attr fields raw,
    item? gen (Generator.key g) = some (.dict attr fields) → item? fields "num" = some raw →
    rendered host view raw = rendered host env raw
  count : ∀ attr fields raw, item? gen "sample" = some (.dict attr fields) →
    item? fields "count" = some raw → rendered host view raw = rendered host env raw

def population (gen : Entries) (env : Env) : Option Int :=
  match item? gen "values" with
  | some (.list items) => some items.length
  | _ =>
    match generatorOf gen with
    | some (g,.dict _ fields) =>
      ((countField host env (getD fields "num" .none)).toOption).map g.size
    | _ => none

def DrawsAsMany (gen : Entries) (sample : Value) (env : Env) : Prop :=
  item? gen "values" = some (.list []) ∨
    ∃ attr fields count, rendered host env sample = .ok (.dict attr fields) ∧
      host.np.toInt (getD fields "count" .none) = .ok count ∧ population host gen env = some count

/-- A sample spells its count out and has something to draw from, or it draws as many. -/
def CountSpelled (gen : Entries) (env : Env) : Prop :=
  match getD gen "sample" .none with
  | .none => True
  | .dict attr fields =>
    if (item? fields "count").isSome then item? gen "values" ≠ some (.list [])
    else DrawsAsMany host gen (.dict attr fields) env
  | sample => DrawsAsMany host gen sample env

variable {host}

variable {entries : Entries}

theorem mem_keys_of_item? {key : String} (h : (item? entries key).isSome) :
    key ∈ entries.map fst := by
  by_contra hnot
  rw [item?_eq_none_iff.2 hnot] at h
  cases h

variable {gen : Entries}

theorem one_kind (h : validateGenKeys host gen = .ok ()) {k k' : String}
    (hk : k ∈ generatorKinds) (hk' : k' ∈ generatorKinds) (hin : (item? gen k).isSome)
    (hin' : (item? gen k').isSome) : k = k' := by
  have hmem : ∀ {key : String}, key ∈ generatorKinds → (item? gen key).isSome →
      key ∈ (gen.map fst).filter (· ∈ generatorKinds) := fun hkey hsome =>
    List.mem_filter.2 ⟨mem_keys_of_item? hsome,by simpa using hkey⟩
  have h₁ := hmem hk hin
  have h₂ := hmem hk' hin'
  unfold validateGenKeys at h
  dsimp only at h
  split at h
  · cases h
  · split at h
    · cases h
    · rename_i kind hkinds
      rw [hkinds,List.mem_singleton] at h₁ h₂
      rw [h₁,h₂]
    · cases h

theorem key_mem_generatorKinds (g : Generator) : g.key ∈ generatorKinds := by
  cases g <;> decide

theorem key_injective {g g' : Generator} (h : g.key = g'.key) : g = g' := by
  revert h
  cases g <;> cases g' <;> decide

theorem mem_order (g : Generator) : g ∈ Generator.order := by cases g <;> decide

variable {g : Generator}

theorem generatorOf_some {spec : Value}
    (h : generatorOf gen = some (g,spec)) : item? gen g.key = some spec := by
  obtain ⟨g',_,hg⟩ := List.exists_of_findSome?_eq_some h
  obtain ⟨spec',hspec,heq⟩ := Option.map_eq_some_iff.1 hg
  cases heq
  exact hspec

theorem generatorOf_none (h : generatorOf gen = none) (g : Generator) : item? gen g.key = none := by
  have hg := List.findSome?_eq_none_iff.1 h g (mem_order g)
  simpa using hg

theorem generatorOf_eq (h : validateGenKeys host gen = .ok ())
    {spec : Value} (hspec : item? gen g.key = some spec) : generatorOf gen = some (g,spec) := by
  cases hfound : generatorOf gen with
  | none =>
    rw [generatorOf_none hfound g] at hspec
    cases hspec
  | some found =>
    obtain ⟨g',spec'⟩ := found
    have hspec' := generatorOf_some hfound
    have hkey := one_kind h (key_mem_generatorKinds g) (key_mem_generatorKinds g')
      (by rw [hspec]; rfl) (by rw [hspec']; rfl)
    cases key_injective hkey
    rw [hspec] at hspec'
    cases hspec'
    rfl

variable {n : Int}

theorem numCount_some {view : Env} {kinds : List Generator}
    (h : numCount host gen view kinds = some n) :
    ∃ g ∈ kinds, ∃ attr fields raw num, item? gen (Generator.key g) = some (.dict attr fields) ∧
      item? fields "num" = some raw ∧ countField host view raw = .ok num ∧ 1 ≤ num ∧
      n = g.size num := by
  induction kinds with
  | nil => cases h
  | cons g rest ih =>
    have hrest : numCount host gen view rest = some n →
        ∃ g' ∈ g :: rest, ∃ attr fields raw num,
          item? gen (Generator.key g') = some (.dict attr fields) ∧
          item? fields "num" = some raw ∧ countField host view raw = .ok num ∧ 1 ≤ num ∧
          n = g'.size num := fun h => by
      obtain ⟨g',hg',hfound⟩ := ih h
      exact ⟨g',List.mem_cons_of_mem _ hg',hfound⟩
    unfold numCount at h
    split at h
    · rename_i attr fields hspec
      split at h
      · rename_i raw hraw
        split at h
        · rename_i num hnum
          split at h
          · cases h
          · rename_i hpos
            cases h
            exact ⟨g,by simp,attr,fields,raw,num,hspec,hraw,hnum,by omega,rfl⟩
        · cases h
      · exact hrest h
    · exact hrest h

theorem size_pos {num : Int} (h : 1 ≤ num) : 1 ≤ g.size num := by
  cases g <;> simp only [Generator.size] <;> omega

variable {spec : GenSpec} {view env : Env}

theorem length_generatedValues {values : List Value}
    (hvalid : validateGenKeys host spec.entries = .ok ()) (hsame : SameCounts host spec.entries view env)
    (h : generatedValues host spec.entries env = .ok values)
    (hbase : baseCount host spec.entries view = some n) :
    (values.length : Int) = n ∧ population host spec.entries env = some n ∧
      (n = 0 ↔ item? spec.entries "values" = some (.list [])) := by
  unfold baseCount at hbase
  unfold population
  split at hbase
  · rename_i items hitems
    cases hbase
    simp only [hitems]
    have hnone : generatorOf spec.entries = none := by
      cases hfound : generatorOf spec.entries with
      | none => rfl
      | some found =>
        have hkey := one_kind hvalid (key_mem_generatorKinds found.1) (by decide : "values" ∈ _)
          (by rw [generatorOf_some hfound]; rfl) (by rw [hitems]; rfl)
        exact absurd hkey (by cases found.1 <;> decide)
    unfold generatedValues at h
    simp only [hnone,hitems] at h
    obtain ⟨out,hout,h⟩ := bind_eq_ok h
    obtain ⟨list,rfl,hlen⟩ := renderTemplates_list hout
    cases h
    exact ⟨by rw [hlen],trivial,by simp⟩
  · rename_i hvalues
    obtain ⟨g,hg,attr,fields,raw,num,hspec,hraw,hnum,hpos,rfl⟩ := numCount_some hbase
    have hfound := generatorOf_eq hvalid hspec
    have hrange : g ≠ .range := by
      rintro rfl
      exact absurd hg (by decide)
    have hrendered : countField host env raw = .ok num := by
      unfold countField at hnum ⊢
      rwa [← hsame.num g hg attr fields raw hspec hraw]
    unfold generatedValues at h
    simp only [hfound] at h
    obtain ⟨out,hout,h⟩ := bind_eq_ok h
    obtain ⟨params,hparams,h⟩ := bind_eq_ok h
    obtain ⟨num',hnum',hlen⟩ := length_values hrange h
    have hdict : out = .dict false params := by
      obtain ⟨fields',built,rfl,_⟩ := renderTemplates_dict hout
      obtain ⟨_,_,hparams⟩ := bind_eq_ok hparams
      cases hparams
      rfl
    subst hdict
    obtain ⟨w,hw,hparam⟩ := field_renderTemplates hout (spec.inner g.key attr fields hspec)
      (by decide) hraw
    have hsize : num' = num := by
      unfold numField getD at hnum'
      rw [hparam] at hnum'
      obtain ⟨w',hw',hnum⟩ := bind_eq_ok hrendered
      have hsame : w = w' := ok.inj (hw.symm.trans hw')
      subst hsame
      exact ok.inj (hnum'.symm.trans hnum)
    subst hsize
    refine ⟨hlen,?_,?_⟩
    · simp [hfound,getD,hraw,hrendered,Except.toOption]
    · have hsome := size_pos (g := g) hpos
      constructor
      · intro hzero
        omega
      · intro hempty
        exact absurd hempty (hvalues [])

theorem item?_filter_ne {key other : String} (h : key ≠ other) :
    item? (entries.filter fun e => e.1 ≠ other) key = item? entries key := by
  induction entries with
  | nil => rfl
  | cons e rest ih =>
    by_cases he : e.1 = other
    · rw [List.filter_cons_of_neg (by simp [he]),ih]
      simp [item?,he,Ne.symm h]
    · rw [List.filter_cons_of_pos (by simp [he])]
      by_cases hk : e.1 = key
      · simp [item?,hk]
      · simpa [item?,hk] using ih

/-- The specification without its `sample`. -/
def GenSpec.unsampled (spec : GenSpec) : GenSpec where
  entries := spec.entries.filter fun e => e.1 ≠ "sample"
  nodup := spec.nodup.sublist (List.filter_sublist.map fst)
  inner key attr fields h := by
    by_cases hkey : key = "sample"
    · subst hkey
      rw [item?_eq_none_iff.2] at h
      · cases h
      · simp
    · exact spec.inner key attr fields (item?_filter_ne hkey ▸ h)

theorem baseCount_scan2d {scan : Value} (h : item? gen "scan2d" = some scan)
    (hlen : gen.length = 1) (view : Env) : baseCount host gen view = none := by
  obtain ⟨e,rfl⟩ := List.length_eq_one_iff.1 hlen
  have hkey : e.1 = "scan2d" := by
    by_contra hne
    simp [item?,hne] at h
  have hother : ∀ key : String, key ≠ "scan2d" → item? [e] key = none := fun key hne => by
    simp [item?,hkey,Ne.symm hne]
  unfold baseCount
  rw [hother "values" (by decide)]
  simp only [genCountOnlyKeys,numCount,hother (Generator.key .linspace) (by decide),
    hother (Generator.key .logspace) (by decide),hother (Generator.key .geomspace) (by decide),
    hother (Generator.key .triangle) (by decide),
    hother (Generator.key .centeredTriangle) (by decide)]

theorem length_generateCore {serpentineIndex : Option Int}
    {records : List Entries} (hsame : SameCounts host spec.entries view env)
    (h : generateCore host spec.entries env serpentineIndex = .ok records)
    (hbase : baseCount host spec.entries view = some n) :
    (records.length : Int) = n ∧ population host spec.entries env = some n ∧
      (n = 0 ↔ item? spec.entries "values" = some (.list [])) := by
  unfold generateCore at h
  split at h
  · rename_i scan hscan
    split at h
    · cases h
    · rename_i hlen
      rw [baseCount_scan2d hscan (not_not.1 hlen)] at hbase
      cases hbase
  · obtain ⟨_,hvalid,h⟩ := bind_eq_ok h
    obtain ⟨m,_,h⟩ := bind_eq_ok h
    obtain ⟨values,hvalues,h⟩ := bind_eq_ok h
    obtain ⟨out,hout,h⟩ := bind_eq_ok h
    cases h
    rw [length_wrapScalarRecords,length_applyModifiers hout]
    exact length_generatedValues hvalid hsame hvalues hbase

theorem numCount_unsampled (gen : Entries) (view : Env) (kinds : List Generator) :
    numCount host (gen.filter fun e => e.1 ≠ "sample") view kinds = numCount host gen view kinds := by
  induction kinds with
  | nil => rfl
  | cons g rest ih =>
    have hkey : g.key ≠ "sample" := by cases g <;> decide
    unfold numCount
    rw [item?_filter_ne hkey,ih]

theorem baseCount_unsampled (spec : GenSpec) (view : Env) :
    baseCount host spec.unsampled.entries view = baseCount host spec.entries view := by
  unfold baseCount
  rw [show spec.unsampled.entries = spec.entries.filter fun e => e.1 ≠ "sample" from rfl,
    item?_filter_ne (by decide),numCount_unsampled]

theorem population_unsampled (spec : GenSpec) (env : Env) :
    population host spec.unsampled.entries env = population host spec.entries env := by
  have hfound : generatorOf spec.unsampled.entries = generatorOf spec.entries := by
    unfold generatorOf
    congr 1
    funext g
    rw [show spec.unsampled.entries = spec.entries.filter fun e => e.1 ≠ "sample" from rfl,
      item?_filter_ne (by cases g <;> decide)]
  unfold population
  rw [show item? spec.unsampled.entries "values" = item? spec.entries "values" from
    item?_filter_ne (by decide),hfound]

theorem SameCounts.unsampled
    (h : SameCounts host spec.entries view env) : SameCounts host spec.unsampled.entries view env where
  num g hg attr fields raw hspec hraw := by
    refine h.num g hg attr fields raw ?_ hraw
    rwa [← item?_filter_ne (show g.key ≠ "sample" by cases g <;> decide)]
  count attr fields raw hspec _ := by
    have hnone : item? spec.unsampled.entries "sample" = none :=
      item?_eq_none_iff.2 (by simp [GenSpec.unsampled])
    rw [hnone] at hspec
    cases hspec

theorem length_population {serpentineIndex : Option Int}
    {records : List Entries} (hsame : SameCounts host spec.entries view env)
    (h : generateCore host spec.unsampled.entries env serpentineIndex = .ok records)
    (hbase : baseCount host spec.entries view = some n) :
    (records.length : Int) = n ∧ population host spec.entries env = some n ∧
      (records = [] ↔ item? spec.entries "values" = some (.list [])) := by
  rw [← baseCount_unsampled] at hbase
  obtain ⟨hlen,hpopulation,hempty⟩ := length_generateCore hsame.unsampled h hbase
  rw [population_unsampled] at hpopulation
  rw [show item? spec.unsampled.entries "values" = item? spec.entries "values" from
    item?_filter_ne (by decide)] at hempty
  refine ⟨hlen,hpopulation,?_⟩
  rw [← hempty,← hlen]
  simp

theorem length_spelled {records out : List Entries} {attr : Bool} {fields : Entries} {raw : Value}
    (hsame : SameCounts host spec.entries view env)
    (hsample : item? spec.entries "sample" = some (.dict attr fields))
    (hraw : item? fields "count" = some raw)
    (h : applySample host records (.dict attr fields) env = .ok out)
    (hest : (countField host view raw).toOption = some n) :
    (out.length : Int) = n ↔ records ≠ [] := by
  obtain ⟨attr',rendered,count,hrendered,hcount,hpos,hlen⟩ := length_applySample h
  obtain ⟨w,hw,hfield⟩ := field_renderTemplates hrendered (spec.inner _ _ _ hsample) (by decide) hraw
  have hn : countField host view raw = .ok n := by
    cases hview : countField host view raw with
    | error e => simp [hview,Except.toOption] at hest
    | ok m =>
      rw [hview] at hest
      cases hest
      rfl
  have hcount' : count = n := by
    unfold countField at hn
    rw [hsame.count attr fields raw hsample hraw] at hn
    obtain ⟨w',hw',hn⟩ := bind_eq_ok hn
    cases ok.inj (hw.symm.trans hw')
    unfold getD at hcount
    rw [hfield] at hcount
    exact ok.inj (hcount.symm.trans hn)
  rw [hlen]
  by_cases hempty : records = []
  · simp only [hempty,if_true,ne_eq,not_true_eq_false,iff_false]
    omega
  · simp [hempty,hcount']

theorem length_drawsAsMany {env : Env} {records out : List Entries} {sample : Value}
    (hlen : (records.length : Int) = n) (hpopulation : population host spec.entries env = some n)
    (hempty : records = [] ↔ item? spec.entries "values" = some (.list []))
    (h : applySample host records sample env = .ok out) :
    (out.length : Int) = n ↔ DrawsAsMany host spec.entries sample env := by
  obtain ⟨attr,fields,count,hrendered,hcount,hpos,hout⟩ := length_applySample h
  unfold DrawsAsMany
  rw [← hempty]
  by_cases hnone : records = []
  · rw [if_pos hnone] at hout
    simp only [hnone,true_or,iff_true]
    rw [hout,← hlen,hnone]
    rfl
  · rw [if_neg hnone] at hout
    simp only [hnone,false_or,hout]
    constructor
    · rintro rfl
      exact ⟨attr,fields,count,hrendered,hcount,hpopulation⟩
    · rintro ⟨attr',fields',count',hrendered',hcount',hpopulation'⟩
      cases ok.inj (hrendered.symm.trans hrendered')
      cases ok.inj (hcount.symm.trans hcount')
      exact Option.some.inj (hpopulation'.symm.trans hpopulation)

theorem getD_eq {key : String} {v : Value} (h : getD entries key .none = v)
    (hv : v ≠ .none) : item? entries key = some v := by
  unfold getD at h
  cases hitem : item? entries key with
  | none =>
    rw [hitem] at h
    exact absurd h.symm hv
  | some w =>
    rw [hitem] at h
    exact congrArg some h

theorem estimate_cases {gen outer : Entries} {attr attr' : Bool} {view : Env}
    (hgen : item? outer "gen" = some (.dict attr' gen))
    (h : estimateGenCountOnly host (.dict attr outer) view = some n) :
    ∃ base, baseCount host gen view = some base ∧
      ((∃ a fields raw, item? gen "sample" = some (.dict a fields) ∧
          item? fields "count" = some raw ∧ (countField host view raw).toOption = some n) ∨
        (∀ a fields, item? gen "sample" = some (.dict a fields) → item? fields "count" = none) ∧
          n = base) := by
  unfold estimateGenCountOnly at h
  simp only [hgen] at h
  split at h
  · cases h
  · rename_i base a fields hbase hsample
    refine ⟨base,hbase,?_⟩
    split at h
    · rename_i raw hraw
      exact .inl ⟨a,fields,raw,hsample,hraw,h⟩
    · rename_i hcount
      refine .inr ⟨fun a' fields' hsample' => ?_,(Option.some.inj h).symm⟩
      rw [hsample] at hsample'
      cases hsample'
      exact hcount
  · rename_i base hbase hsample
    exact ⟨base,hbase,.inr ⟨fun a fields hdict => (hsample a fields hdict).elim,
      (Option.some.inj h).symm⟩⟩

/-- The estimate is the number of records exactly if a sample that is drawn spells its count out and
has something to draw from, or draws as many records as there are. -/
theorem estimate_eq_length_iff {spec : GenSpec} {outer : Entries} {attr attr' : Bool}
    {view env : Env} {serpentineIndex : Option Int} {records : List Entries} {n : Int}
    (hgen : item? outer "gen" = some (.dict attr' spec.entries))
    (hsame : SameCounts host spec.entries view env)
    (h : generateFromGen host spec.entries env serpentineIndex = .ok records)
    (hest : estimateGenCountOnly host (.dict attr outer) view = some n) :
    n = records.length ↔ CountSpelled host spec.entries env := by
  obtain ⟨base,hbase,hcases⟩ := estimate_cases hgen hest
  unfold generateFromGen at h
  unfold CountSpelled
  rw [eq_comm]
  cases hsample : getD spec.entries "sample" .none with
  | none =>
    simp only [hsample] at h
    have hlen := (length_generateCore hsame h hbase).1
    rcases hcases with ⟨a,fields,raw,hdict,_⟩ | ⟨_,rfl⟩
    · simp [getD,hdict] at hsample
    · simp [hlen]
  | dict a fields =>
    simp only [hsample] at h
    obtain ⟨records₀,hcore,h⟩ := bind_eq_ok h
    obtain ⟨hlen,hpopulation,hempty⟩ := length_population hsame hcore hbase
    have hitem := getD_eq hsample (by simp)
    dsimp only
    rcases hcases with ⟨a',fields',raw,hdict,hraw,hcount⟩ | ⟨hnone,rfl⟩
    · rw [hitem] at hdict
      cases hdict
      rw [length_spelled hsame hitem hraw h hcount,if_pos (by rw [hraw]; rfl)]
      exact not_congr hempty
    · rw [if_neg (by rw [hnone _ _ hitem]; simp)]
      exact length_drawsAsMany hlen hpopulation hempty h
  | bool _ | int _ | float _ | str _ | list _ =>
    simp only [hsample] at h
    obtain ⟨records₀,hcore,h⟩ := bind_eq_ok h
    obtain ⟨hlen,hpopulation,hempty⟩ := length_population hsame hcore hbase
    have hitem := getD_eq hsample (by simp)
    rcases hcases with ⟨a',fields',raw,hdict,_⟩ | ⟨_,rfl⟩
    · rw [hitem] at hdict
      cases hdict
    · exact length_drawsAsMany hlen hpopulation hempty h

end

def Numpy.level : Numpy where
  toNumeric := { Numeric.bits with
    ratio := fun i denom => if i = 0 then 0 else if i = denom then 0x3FF0000000000000
      else 0x3FE0000000000000 }
  mul _ _ := 0
  div x _ := x
  ceil _ := .ok 0
  shift _ _ := .error ⟨.typeError,"unsupported operand type(s) for +"⟩
  linspace start _ num :=
    if num < 0 then .error ⟨.valueError,"Number of samples must be non-negative."⟩
    else .ok (List.replicate num.toNat (.float start))
  logspace _ _ _ _ := .error ⟨.valueError,"not a level range"⟩
  geomspace _ _ _ := .error ⟨.valueError,"Geometric sequence cannot include zero"⟩
  arange _ _ _ := .ok []
  Rng := Unit
  defaultRng _ := .ok ()
  shuffle _ values := ⟨values,List.Perm.refl values⟩
  integers _ n count :=
    if h : 0 < n then .ok (List.Vector.replicate count ⟨0,h⟩)
    else .error ⟨.valueError,"high <= 0"⟩
  choice _ n count :=
    if h : 0 < n then .ok (List.Vector.replicate count ⟨0,h⟩)
    else .error ⟨.valueError,"a cannot be empty"⟩
  length_linspace {start stop num values} h := by
    split at h
    · cases h
    · cases h
      rw [List.length_replicate]
      omega
  length_logspace h := by cases h
  length_geomspace h := by cases h

def GenHost.level : GenHost where
  py := .names
  np := .level
  closeMatch _ _ := none
  scan2d _ := .error ⟨.valueError,"scan2d shorthand requires center"⟩

def levelSpec : GenSpec where
  entries := [("linspace",.dict false [("start",.float 0),("stop",.float 0),("num",.str "${n}")]),
    ("sample",.dict false [("count",.int 2),("replace",.bool true)])]
  nodup := by decide
  inner := inner_of_all (by decide)

def nIsThree : Env := OrderedDict.empty.set "n" (.int 3)

theorem level_sample_counted : ∃ records,
    generateFromGen .level levelSpec.entries nIsThree none = .ok records ∧
      2 = (records.length : Int) := by
  have hgen : item? [("gen",.dict false levelSpec.entries)] "gen" =
      some (.dict false levelSpec.entries) := rfl
  have hrun : ∃ records, generateFromGen .level levelSpec.entries nIsThree none = .ok records :=
    ⟨_,rfl⟩
  have hest : estimateGenCountOnly .level
      (.dict false [("gen",.dict false levelSpec.entries)]) nIsThree = some 2 := rfl
  obtain ⟨records,h⟩ := hrun
  refine ⟨records,h,(estimate_eq_length_iff hgen ⟨fun _ _ _ _ _ _ _ => rfl,
    fun _ _ _ _ _ => rfl⟩ h hest).2 ?_⟩
  exact (by decide : item? levelSpec.entries "values" ≠ some (.list []))

def emptySpec : GenSpec where
  entries := [("values",.list []),("sample",.dict false [("count",.int 3)])]
  nodup := by decide
  inner := inner_of_all (by decide)

theorem nothing_to_draw_from : ¬∀ (host : GenHost) (spec : GenSpec) (outer : Entries)
    (attr attr' : Bool) (view env : Env) (serpentineIndex : Option Int) (records : List Entries)
    (n : Int), item? outer "gen" = some (.dict attr' spec.entries) →
      SameCounts host spec.entries view env →
      generateFromGen host spec.entries env serpentineIndex = .ok records →
      estimateGenCountOnly host (.dict attr outer) view = some n → n = records.length := by
  intro h
  have h := h .level emptySpec [("gen",.dict false emptySpec.entries)] false false .empty .empty
    none [] 3 rfl ⟨fun _ _ _ _ _ _ _ => rfl,fun _ _ _ _ _ => rfl⟩ rfl rfl
  exact absurd h (by decide)

end ExperimentControl.Sequencer

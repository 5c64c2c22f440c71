import ExperimentControl.Python.Conversions
import ExperimentControl.Sequencer.Eval

/-!
What a container keeps when it is rendered item by item.
-/

namespace ExperimentControl.Sequencer
open Lib Python Read List Prod

variable {py : Primitives} {env : String → Option Value}

variable {key : String}

theorem item?_eq_none_iff {entries : Entries} :
    item? entries key = none ↔ key ∉ entries.map fst := by
  simp only [item?,Option.map_eq_none_iff,find?_eq_none,decide_eq_true_eq,mem_map,
    not_exists,not_and]

theorem renderTemplates_ok {v w : Value} {size : Nat}
    (h : (renderItem py v).result env = .ok (w,size)) :
    (renderTemplates py v).result env = .ok w := by
  unfold renderTemplates
  rw [result_bind,h]
  rfl

variable {built : Nat}

theorem result_limit {α : Type} {x : Eval α} {r : α}
    (h : (if maxResultSize < built then Read.fail tooLarge else x).result env = .ok r) :
    x.result env = .ok r := by
  split at h
  · cases h
  · exact h

theorem length_renderItems {items : List Value} {r : List Value × Nat}
    (h : (renderItems py items built).result env = .ok r) : r.1.length = items.length := by
  induction items generalizing built r with
  | nil =>
    cases h
    rfl
  | cons item rest ih =>
    obtain ⟨⟨v,size⟩,_,h⟩ := result_bind_ok h
    obtain ⟨⟨out,n⟩,hrest,h⟩ := result_bind_ok (result_limit h)
    cases h
    simp [ih hrest]

theorem renderKey_cases {out : Entries} {key k : String}
    (h : (renderKey py out key).result env = .ok k) : k = key ∨ item? out k = none := by
  unfold renderKey at h
  split at h
  · obtain ⟨v,_,h⟩ := result_bind_ok h
    dsimp only at h
    split at h
    · cases h
    · rename_i hnew
      cases h
      exact .inr (by simpa using hnew)
  · cases h
    exact .inl rfl

variable {entries out : Entries}

theorem item?_renderEntries_of_notMem {r : Entries × Nat}
    {w : Value} (h : (renderEntries py entries out built).result env = .ok r)
    (hkey : key ∉ entries.map fst) (hw : item? out key = some w) : item? r.1 key = some w := by
  induction entries generalizing out built with
  | nil =>
    cases h
    exact hw
  | cons e rest ih =>
    obtain ⟨first,item⟩ := e
    obtain ⟨k,hk,h⟩ := result_bind_ok h
    obtain ⟨⟨v,size⟩,_,h⟩ := result_bind_ok h
    rw [map_cons,mem_cons,not_or] at hkey
    refine ih (result_limit h) hkey.2 ?_
    have hne : key ≠ k := by
      rintro rfl
      rcases renderKey_cases hk with heq | hnone
      · exact hkey.1 heq
      · rw [hnone] at hw
        cases hw
    rw [item?_setItem_of_ne out v hne,hw]

theorem item?_renderEntries {r : Entries × Nat}
    {v : Value} (h : (renderEntries py entries out built).result env = .ok r)
    (hnodup : (entries.map fst).Nodup) (hplain : hasTemplate key = false)
    (hv : item? entries key = some v) :
    ∃ w, (renderTemplates py v).result env = .ok w ∧ item? r.1 key = some w := by
  induction entries generalizing out built with
  | nil => cases hv
  | cons e rest ih =>
    obtain ⟨first,item⟩ := e
    rw [map_cons,nodup_cons] at hnodup
    obtain ⟨k,hk,hitem⟩ := result_bind_ok h
    obtain ⟨⟨w,size⟩,hw,hrest⟩ := result_bind_ok hitem
    by_cases hfirst : first = key
    · subst hfirst
      obtain rfl : item = v := by simpa [item?] using hv
      have hkey : k = first := by
        simp only [renderKey,hplain,Bool.false_eq_true,if_false] at hk
        cases hk
        rfl
      subst hkey
      exact ⟨w,renderTemplates_ok hw,
        item?_renderEntries_of_notMem (result_limit hrest) hnodup.1 (item?_setItem out k w)⟩
    · exact ih (result_limit hrest) hnodup.2 (by simpa [item?,hfirst] using hv)

theorem renderTemplates_list {items : List Value} {w : Value}
    (h : (renderTemplates py (.list items)).result env = .ok w) :
    ∃ out, w = .list out ∧ out.length = items.length := by
  obtain ⟨⟨v,size⟩,hv,hw⟩ := result_bind_ok h
  obtain ⟨⟨out,built⟩,hout,hv⟩ := result_bind_ok hv
  cases hv
  cases hw
  exact ⟨out,rfl,length_renderItems hout⟩

theorem renderTemplates_dict {attr : Bool} {entries : Entries} {w : Value}
    (h : (renderTemplates py (.dict attr entries)).result env = .ok w) :
    ∃ out built, w = .dict false out ∧
      (renderEntries py entries [] entries.length).result env = .ok (out,built) := by
  obtain ⟨⟨v,size⟩,hv,hw⟩ := result_bind_ok h
  obtain ⟨⟨out,built⟩,hout,hv⟩ := result_bind_ok hv
  cases hv
  cases hw
  exact ⟨out,_,rfl,hout⟩

theorem field_renderTemplates {attr attr' : Bool} {v : Value}
    (h : (renderTemplates py (.dict attr entries)).result env = .ok (.dict attr' out))
    (hnodup : (entries.map fst).Nodup) (hplain : hasTemplate key = false)
    (hv : item? entries key = some v) :
    ∃ w, (renderTemplates py v).result env = .ok w ∧ item? out key = some w := by
  obtain ⟨out',built,heq,hout⟩ := renderTemplates_dict h
  cases heq
  exact item?_renderEntries hout hnodup hplain hv

end ExperimentControl.Sequencer

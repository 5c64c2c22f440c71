import ExperimentControl.Editor.EntryPath

/-!
The flat rows the inspector shows of a nested mapping (`yaml_detail.ts`) and the mapping that is
written from rows (`editing/yaml_write.ts`). The yaml library is a parameter: what it makes of a
text that is parsed alone, and nothing where it throws, reports an error or finds no node.
-/

namespace ExperimentControl.Editor
open Browser Lib Python List

/-- A node of a parsed document, with the text its range spans; a list is a leaf as a scalar is. -/
inductive Node where
  | absent
  | leaf (source : String) (value : Value)
  | map (source : String) (items : List (String × Node))
  deriving Inhabited

structure Entry where
  name : String
  value : Option String
  deriving DecidableEq

def leafText : Node → Option String
  | .absent => none
  | .leaf source _ => some (trim source)
  | .map source _ => some (trim source)

def entryName (path key : String) : String :=
  if path = "" then entryPathSegment key else path ++ "." ++ entryPathSegment key

mutual
def flattenValue (name : String) : Node → List Entry
  | .map source items =>
    if items.isEmpty then [⟨name,leafText (.map source items)⟩] else flattenItems name items
  | .absent => [⟨name,none⟩]
  | .leaf source _ => [⟨name,some (trim source)⟩]
/-- The pairs of a mapping; `path` is the dotted name of what the mapping stands under. -/
def flattenItems (path : String) : List (String × Node) → List Entry
  | [] => []
  | (key,value) :: rest =>
    if trim key = "" then flattenItems path rest
    else flattenValue (entryName path (trim key)) value ++ flattenItems path rest
end

def flattenEntries (node : Node) (path : String) : List Entry :=
  match node with
  | .map _ items => flattenItems path items
  | node => if path = "" then [] else [⟨path,leafText node⟩]

def cleanEntries (entries : List Entry) : List Entry :=
  (entries.map fun entry => { entry with name := trim entry.name }).filter fun entry =>
    entry.name ≠ ""

def textToNode (parse : String → Option Value) (text : Option String) : Value :=
  let raw := text.getD ""
  let trimmed := trim raw
  if trimmed = "" then .str ""
  else match parse trimmed with
    | none => .str raw
    | some value => value

/-- The items of what stands under `key`, where that is a mapping; a new mapping has none. -/
def childItems (entries : Entries) (key : String) : Entries :=
  match item? entries key with
  | some (.dict _ inner) => inner
  | _ => []

def setPath (value : Value) : List String → Entries → Entries
  | [],entries => entries
  | [key],entries => setItem entries key value
  | key :: next :: rest,entries =>
    setItem entries key (.dict false (setPath value (next :: rest) (childItems entries key)))

def entriesToMap (parse : String → Option Value) (entries : List Entry) : Entries :=
  (cleanEntries entries).foldl (fun root entry =>
    setPath (textToNode parse entry.value) (splitEntryPath entry.name) root) []

mutual
def Node.content : Node → Value
  | .absent => .none
  | .leaf _ value => value
  | .map _ items => .dict false (contentItems items)
def contentItems : List (String × Node) → Entries
  | [] => []
  | (key,value) :: rest => (key,value.content) :: contentItems rest
end

mutual
def Node.Keyed : Node → Prop
  | .map _ items => (items.map Prod.fst).Nodup ∧ keyedItems items
  | _ => True
def keyedItems : List (String × Node) → Prop
  | [] => True
  | (key,value) :: rest => NamedKey key ∧ value.Keyed ∧ keyedItems rest
end

/-- A mapping of a step whose keys are unique, not empty and trimmed, at every depth. -/
structure Mapping where
  items : List (String × Node)
  nodup : (items.map Prod.fst).Nodup
  keyed : keyedItems items

mutual
def Node.rows : Node → List (List String × Node)
  | .map source items => if items.isEmpty then [([],.map source items)] else itemRows items
  | .absent => [([],.absent)]
  | .leaf source value => [([],.leaf source value)]
def itemRows : List (String × Node) → List (List String × Node)
  | [] => []
  | (key,value) :: rest => (value.rows.map fun row => (key :: row.1,row.2)) ++ itemRows rest
end

/-- The text of a row, parsed as a document of its own, has the value it has in its place. No text
at all stands for the empty text, one that does not parse for itself. -/
def StandsAlone (parse : String → Option Value) (node : Node) : Prop :=
  match leafText node with
  | none => node.content = .str ""
  | some text =>
    if text = "" then node.content = .str ""
    else match parse text with
      | none => node.content = .str text
      | some value => node.content = value

variable (parse : String → Option Value)

theorem standsAlone_iff (node : Node) :
    StandsAlone parse node ↔ textToNode parse (leafText node) = node.content := by
  have htext : ∀ source : String, (match some (trim source) with
      | none => node.content = .str ""
      | some text =>
        if text = "" then node.content = .str ""
        else match parse text with
          | none => node.content = .str text
          | some value => node.content = value) ↔
      textToNode parse (some (trim source)) = node.content := by
    intro source
    simp only [textToNode,Option.getD_some,trim_idem]
    split
    · exact eq_comm
    · split <;> exact eq_comm
  cases node with
  | absent => simp [StandsAlone,leafText,textToNode,eq_comm]
  | leaf source value => exact htext source
  | map source items => exact htext source

def entryOf (path : List String) (row : List String × Node) : Entry :=
  ⟨joinEntryPath (path ++ row.1),leafText row.2⟩

variable {keys : List String}

theorem joinEntryPath_ne_empty (hne : keys ≠ [])
    (hkeys : ∀ k ∈ keys, NamedKey k) : joinEntryPath keys ≠ "" := by
  intro hempty
  have hsplit := splitEntryPath_join hne hkeys
  rw [hempty] at hsplit
  have hnone : splitEntryPath "" = [] := by
    simp [splitEntryPath,splitLoop,unquoteSegment,show String.ofList [] = "" from rfl]
  exact hne (hsplit.symm.trans hnone)

theorem joinEntryPath_concat (hne : keys ≠ []) (key : String) :
    joinEntryPath (keys ++ [key]) = joinEntryPath keys ++ "." ++ entryPathSegment key := by
  induction keys with
  | nil => exact absurd rfl hne
  | cons first rest ih =>
    cases rest with
    | nil => simp [joinEntryPath]
    | cons next rest =>
      have hnext := ih (by simp)
      simp only [cons_append] at hnext ⊢
      rw [joinEntryPath_cons,hnext,joinEntryPath_cons]
      simp [String.append_assoc]

theorem entryName_join (hkeys : ∀ k ∈ keys, NamedKey k) (key : String) :
    entryName (joinEntryPath keys) key = joinEntryPath (keys ++ [key]) := by
  by_cases hne : keys = []
  · subst hne
    simp [entryName,joinEntryPath]
  · rw [entryName,if_neg (joinEntryPath_ne_empty hne hkeys),joinEntryPath_concat hne]

theorem entryOf_concat (keys : List String) (key : String) (row : List String × Node) :
    entryOf (keys ++ [key]) row = entryOf keys (key :: row.1,row.2) := by
  simp [entryOf]

mutual
theorem flattenItems_eq (keys : List String) (hkeys : ∀ k ∈ keys, NamedKey k) :
    ∀ items, keyedItems items →
      flattenItems (joinEntryPath keys) items = (itemRows items).map (entryOf keys)
  | [],_ => by simp [flattenItems,itemRows]
  | (key,value) :: rest,hitems => by
    obtain ⟨hkey,hvalue,hrest⟩ := hitems
    have hpath : ∀ k ∈ keys ++ [key], NamedKey k := by
      intro k hk
      rcases mem_append.1 hk with hk | hk
      · exact hkeys k hk
      · rw [mem_singleton.1 hk]
        exact hkey
    have hvalueRows := flattenValue_eq (keys ++ [key]) hpath value hvalue
    rw [flattenItems,hkey.2,if_neg hkey.1,entryName_join hkeys,hvalueRows,
      flattenItems_eq keys hkeys rest hrest,itemRows,map_append,map_map]
    congr 1
    exact map_congr_left fun row _ => entryOf_concat keys key row
theorem flattenValue_eq (keys : List String) (hkeys : ∀ k ∈ keys, NamedKey k) :
    ∀ value : Node, value.Keyed →
      flattenValue (joinEntryPath keys) value = value.rows.map (entryOf keys)
  | .absent,_ => by simp [flattenValue,Node.rows,entryOf,leafText]
  | .leaf source value,_ => by simp [flattenValue,Node.rows,entryOf,leafText]
  | .map source items,hvalue => by
    by_cases hempty : items.isEmpty = true
    · simp [flattenValue,Node.rows,entryOf,hempty]
    · simp only [flattenValue,Node.rows,if_neg hempty]
      exact flattenItems_eq keys hkeys items hvalue.2
end

mutual
theorem itemRows_keys : ∀ items, keyedItems items → ∀ row ∈ itemRows items,
    row.1 ≠ [] ∧ ∀ k ∈ row.1, NamedKey k
  | [],_,row,hrow => by simp [itemRows] at hrow
  | (key,value) :: rest,hitems,row,hrow => by
    obtain ⟨hkey,hvalue,hrest⟩ := hitems
    rcases mem_append.1 hrow with hrow | hrow
    · obtain ⟨inner,hinner,rfl⟩ := mem_map.1 hrow
      refine ⟨by simp,fun k hk => ?_⟩
      rcases mem_cons.1 hk with rfl | hk
      · exact hkey
      · exact nodeRows_keys value hvalue inner hinner k hk
    · exact itemRows_keys rest hrest row hrow
theorem nodeRows_keys : ∀ node : Node, node.Keyed → ∀ row ∈ node.rows, ∀ k ∈ row.1, NamedKey k
  | .absent,_,row,hrow => by simp_all [Node.rows]
  | .leaf _ _,_,row,hrow => by simp_all [Node.rows]
  | .map source items,hnode,row,hrow => by
    rw [Node.rows] at hrow
    split at hrow
    · simp_all
    · exact (itemRows_keys items hnode.2 row hrow).2
end

variable {key : String}

theorem trimmed_segment (hkey : NamedKey key) : Trimmed (entryPathSegment key).toList := by
  rw [← trim_eq_self,entryPathSegment]
  split
  · exact trimmed_stringify key.toList
  · exact hkey.2

theorem segment_ne_nil (hkey : NamedKey key) : (entryPathSegment key).toList ≠ [] := by
  intro hnil
  have hback := unquoteSegment_segment hkey
  rw [String.toList_eq_nil_iff.1 hnil] at hback
  exact hkey.1 (hback.symm.trans (by simp [unquoteSegment]))

theorem trimmed_append {front back : List Char} (hfront : Trimmed front) (hback : Trimmed back)
    (hne : front ≠ []) (hne' : back ≠ []) (middle : List Char) :
    Trimmed (front ++ middle ++ back) := by
  cases front with
  | nil => exact absurd rfl hne
  | cons c front =>
    refine ⟨by simpa using hfront.1,?_⟩
    rw [getLast?_append]
    cases hlast : back.getLast? with
    | none => exact absurd (getLast?_eq_none_iff.1 hlast) hne'
    | some d => simpa using hback.2 d hlast

theorem trimmed_joinEntryPath (key : String) (rest : List String)
    (hkeys : ∀ k ∈ key :: rest, NamedKey k) :
    Trimmed (joinEntryPath (key :: rest)).toList ∧ (joinEntryPath (key :: rest)).toList ≠ [] := by
  have hkey := hkeys key (by simp)
  induction rest generalizing key with
  | nil =>
    have hone : joinEntryPath [key] = entryPathSegment key := by simp [joinEntryPath]
    rw [hone]
    exact ⟨trimmed_segment hkey,segment_ne_nil hkey⟩
  | cons next rest ih =>
    have htail : ∀ k ∈ next :: rest, NamedKey k := fun k hk => hkeys k (mem_cons_of_mem _ hk)
    obtain ⟨hrest,hne⟩ := ih next htail (htail next (by simp))
    rw [joinEntryPath_cons,String.toList_append,String.toList_append]
    exact ⟨trimmed_append (trimmed_segment hkey) hrest (segment_ne_nil hkey) hne _,by simp⟩

theorem trim_joinEntryPath (hne : keys ≠ [])
    (hkeys : ∀ k ∈ keys, NamedKey k) : trim (joinEntryPath keys) = joinEntryPath keys := by
  cases keys with
  | nil => exact absurd rfl hne
  | cons key rest => exact trim_eq_self.2 (trimmed_joinEntryPath key rest hkeys).1

def writeRow (parse : String → Option Value) (root : Entries) (row : List String × Node) :
    Entries :=
  setPath (textToNode parse (leafText row.2)) row.1 root

variable {rows : List (List String × Node)}

section
variable (hrows : ∀ row ∈ rows, row.1 ≠ [] ∧ ∀ k ∈ row.1, NamedKey k)
include hrows

theorem cleanEntries_rows : cleanEntries (rows.map (entryOf [])) = rows.map (entryOf []) := by
  have hname : ∀ row ∈ rows, trim (entryOf [] row).name = (entryOf [] row).name := fun row hrow =>
    trim_joinEntryPath (hrows row hrow).1 (hrows row hrow).2
  have hmap : (rows.map (entryOf [])).map (fun entry => { entry with name := trim entry.name }) =
      rows.map (entryOf []) := by
    rw [map_map]
    refine map_congr_left fun row hrow => ?_
    simp [hname row hrow]
  rw [cleanEntries,hmap,filter_eq_self]
  intro entry hentry
  obtain ⟨row,hrow,rfl⟩ := mem_map.1 hentry
  exact decide_eq_true (joinEntryPath_ne_empty (hrows row hrow).1 (hrows row hrow).2)

theorem splitEntryPath_rows :
    (rows.map (entryOf [])).map (fun entry => splitEntryPath entry.name) = rows.map Prod.fst := by
  rw [map_map]
  exact map_congr_left fun row hrow =>
    splitEntryPath_join (hrows row hrow).1 (hrows row hrow).2

theorem entriesToMap_rows :
    entriesToMap parse (rows.map (entryOf [])) = rows.foldl (writeRow parse) [] := by
  rw [entriesToMap,cleanEntries_rows hrows,foldl_map]
  have hstep : ∀ (root : Entries), ∀ row ∈ rows,
      setPath (textToNode parse (entryOf [] row).value) (splitEntryPath (entryOf [] row).name) root =
        writeRow parse root row := by
    intro root row hrow
    have hsplit := splitEntryPath_join (hrows row hrow).1 (hrows row hrow).2
    rw [writeRow,show (entryOf [] row).name = joinEntryPath row.1 from rfl,hsplit]
    rfl
  exact foldl_ext _ _ _ hstep

end

theorem setItem_new {entries : Entries} (hnew : key ∉ entries.map Prod.fst)
    (value : Value) : setItem entries key value = entries ++ [(key,value)] := by
  induction entries with
  | nil => rfl
  | cons e rest ih =>
    simp only [map_cons,mem_cons,not_or] at hnew
    rw [setItem,if_neg (Ne.symm hnew.1),ih hnew.2]
    rfl

theorem setItem_setItem (entries : Entries) (key : String) (first second : Value) :
    setItem (setItem entries key first) key second = setItem entries key second := by
  induction entries with
  | nil => simp [setItem]
  | cons e rest ih =>
    by_cases hkey : e.1 = key
    · simp [setItem,hkey]
    · simp [setItem,hkey,ih]

theorem foldl_writeRow_inside (key : String) (root : Entries)
    (rows : List (List String × Node)) (hrows : ∀ row ∈ rows, row.1 ≠ []) (inner : Entries) :
    (rows.map fun row => (key :: row.1,row.2)).foldl (writeRow parse)
        (setItem root key (.dict false inner)) =
      setItem root key (.dict false (rows.foldl (writeRow parse) inner)) := by
  induction rows generalizing inner with
  | nil => rfl
  | cons row rest ih =>
    obtain ⟨path,node⟩ := row
    cases path with
    | nil => exact absurd rfl (hrows ([],node) (by simp))
    | cons next path =>
      have hchild : childItems (setItem root key (.dict false inner)) key = inner := by
        simp [childItems]
      have hrest := ih (fun row hrow => hrows row (mem_cons_of_mem _ hrow))
        (writeRow parse inner (next :: path,node))
      simp only [map_cons,foldl_cons]
      rw [← hrest]
      simp only [writeRow,setPath,hchild,setItem_setItem]

theorem childItems_new {root : Entries} (hnew : key ∉ root.map Prod.fst) :
    childItems root key = [] := by
  have hnone : item? root key = none := by
    rw [item?,Option.map_eq_none_iff,find?_eq_none]
    intro e he
    simpa using fun hkey : e.1 = key => hnew (hkey ▸ mem_map_of_mem he)
  simp [childItems,hnone]

theorem foldl_writeRow_new {root : Entries} (hnew : key ∉ root.map Prod.fst) (hne : rows ≠ [])
    (hrows : ∀ row ∈ rows, row.1 ≠ []) :
    (rows.map fun row => (key :: row.1,row.2)).foldl (writeRow parse) root =
      root ++ [(key,.dict false (rows.foldl (writeRow parse) []))] := by
  cases rows with
  | nil => exact absurd rfl hne
  | cons row rest =>
    obtain ⟨path,node⟩ := row
    cases path with
    | nil => exact absurd rfl (hrows ([],node) (by simp))
    | cons next path =>
      have hinside := foldl_writeRow_inside parse key root rest
        (fun row hrow => hrows row (mem_cons_of_mem _ hrow))
        (writeRow parse [] (next :: path,node))
      have hfirst : writeRow parse root (key :: next :: path,node) =
          setItem root key (.dict false (writeRow parse [] (next :: path,node))) := by
        simp [writeRow,setPath,childItems_new hnew]
      simp only [map_cons,foldl_cons]
      rw [hfirst,hinside,setItem_new hnew]

mutual
/-- The mapping that is written: the shape of the one that was read, each leaf's text read again. -/
def Node.rewritten (parse : String → Option Value) : Node → Value
  | .map source items =>
    if items.isEmpty then textToNode parse (leafText (.map source items))
    else .dict false (rewrittenItems parse items)
  | .absent => textToNode parse none
  | .leaf source _ => textToNode parse (some (trim source))
def rewrittenItems (parse : String → Option Value) : List (String × Node) → Entries
  | [] => []
  | (key,value) :: rest => (key,value.rewritten parse) :: rewrittenItems parse rest
end

mutual
theorem itemRows_ne_nil : ∀ {items : List (String × Node)}, items ≠ [] → itemRows items ≠ []
  | [],hne => absurd rfl hne
  | (key,value) :: rest,_ => by simp [itemRows,nodeRows_ne_nil value]
theorem nodeRows_ne_nil : ∀ node : Node, node.rows ≠ []
  | .absent | .leaf _ _ => by simp [Node.rows]
  | .map source [] => by simp [Node.rows]
  | .map source (item :: items) => by
    have hitems := @itemRows_ne_nil (item :: items) (by simp)
    simpa [Node.rows] using hitems
end

theorem map_fst_append_single (root : Entries) (key : String) (value : Value) :
    (root ++ [(key,value)]).map Prod.fst = root.map Prod.fst ++ [key] := by simp

mutual
theorem foldl_writeRow_items (parse : String → Option Value) :
    ∀ items, keyedItems items → (items.map Prod.fst).Nodup →
      ∀ root : Entries, (∀ k ∈ items.map Prod.fst, k ∉ root.map Prod.fst) →
        (itemRows items).foldl (writeRow parse) root = root ++ rewrittenItems parse items
  | [],_,_,root,_ => by simp [itemRows,rewrittenItems]
  | (key,value) :: rest,hitems,hnodup,root,hnew => by
    obtain ⟨hkey,hvalue,hrest⟩ := hitems
    obtain ⟨hfresh,hnodup⟩ := nodup_cons.1 hnodup
    have hroot : key ∉ root.map Prod.fst := hnew key (by simp)
    have hnew' : ∀ k ∈ rest.map Prod.fst,
        k ∉ (root ++ [(key,value.rewritten parse)]).map Prod.fst := by
      intro k hk hmem
      rw [map_fst_append_single,mem_append,mem_singleton] at hmem
      rcases hmem with hmem | rfl
      · exact hnew k (mem_cons_of_mem _ hk) hmem
      · exact hfresh hk
    rw [itemRows,foldl_append,foldl_writeRow_node parse value hvalue key root hroot,
      foldl_writeRow_items parse rest hrest hnodup _ hnew',rewrittenItems,append_assoc]
    rfl
theorem foldl_writeRow_node (parse : String → Option Value) :
    ∀ node : Node, node.Keyed → ∀ (key : String) (root : Entries), key ∉ root.map Prod.fst →
      (node.rows.map fun row => (key :: row.1,row.2)).foldl (writeRow parse) root =
        root ++ [(key,node.rewritten parse)]
  | .absent,_,key,root,hnew => by
    simp [Node.rows,Node.rewritten,writeRow,setPath,leafText,setItem_new hnew]
  | .leaf source value,_,key,root,hnew => by
    simp [Node.rows,Node.rewritten,writeRow,setPath,leafText,setItem_new hnew]
  | .map source items,hnode,key,root,hnew => by
    by_cases hempty : items.isEmpty = true
    · simp [Node.rows,Node.rewritten,hempty,writeRow,setPath,setItem_new hnew]
    · have hne : itemRows items ≠ [] := itemRows_ne_nil (by simpa using hempty)
      have hrows : ∀ row ∈ itemRows items, row.1 ≠ [] := fun row hrow =>
        (itemRows_keys items hnode.2 row hrow).1
      have hinner := foldl_writeRow_items parse items hnode.2 hnode.1 [] (by simp)
      simp only [Node.rows,Node.rewritten,if_neg hempty]
      rw [foldl_writeRow_new parse hnew hne hrows,hinner,nil_append]
end

mutual
theorem rewrittenItems_eq_iff (parse : String → Option Value) : ∀ items : List (String × Node),
    rewrittenItems parse items = contentItems items ↔
      ∀ row ∈ itemRows items, StandsAlone parse row.2
  | [] => by simp [rewrittenItems,contentItems,itemRows]
  | (key,value) :: rest => by
    rw [rewrittenItems,contentItems,itemRows,List.cons.injEq,Prod.mk.injEq,
      rewritten_eq_iff parse value,rewrittenItems_eq_iff parse rest]
    simp only [true_and,mem_append,mem_map]
    constructor
    · rintro ⟨hvalue,hrest⟩ row (⟨inner,hinner,rfl⟩ | hrow)
      · exact hvalue inner hinner
      · exact hrest row hrow
    · intro hall
      exact ⟨fun row hrow => hall (key :: row.1,row.2) (.inl ⟨row,hrow,rfl⟩),
        fun row hrow => hall row (.inr hrow)⟩
theorem rewritten_eq_iff (parse : String → Option Value) : ∀ node : Node,
    node.rewritten parse = node.content ↔ ∀ row ∈ node.rows, StandsAlone parse row.2
  | .absent => by simp [Node.rewritten,Node.rows,standsAlone_iff,leafText]
  | .leaf source value => by simp [Node.rewritten,Node.rows,standsAlone_iff,leafText]
  | .map source items => by
    by_cases hempty : items.isEmpty = true
    · simp [Node.rewritten,Node.rows,hempty,standsAlone_iff]
    · simp only [Node.rewritten,Node.rows,if_neg hempty,Node.content,Value.dict.injEq,true_and]
      exact rewrittenItems_eq_iff parse items
end

theorem flattenEntries_eq (source : String) (m : Mapping) :
    flattenEntries (.map source m.items) "" = (itemRows m.items).map (entryOf []) := by
  have hflat := flattenItems_eq [] (by simp) m.items m.keyed
  simpa [flattenEntries,joinEntryPath] using hflat

theorem entriesToMap_flattenEntries (source : String) (m : Mapping) :
    entriesToMap parse (flattenEntries (.map source m.items) "") =
      rewrittenItems parse m.items := by
  rw [flattenEntries_eq,entriesToMap_rows parse (itemRows_keys m.items m.keyed),
    foldl_writeRow_items parse m.items m.keyed m.nodup [] (by simp),nil_append]

/-- The rows of a mapping, unedited, give the mapping back exactly where each leaf's text stands
alone; the rows' names always read back as the keys the leaves stand under. -/
theorem flat_rows_keep (parse : String → Option Value) (source : String) (m : Mapping) :
    (entriesToMap parse (flattenEntries (.map source m.items) "") = contentItems m.items ∧
      (flattenEntries (.map source m.items) "").map (fun entry => splitEntryPath entry.name) =
        (itemRows m.items).map Prod.fst) ↔
    ∀ row ∈ itemRows m.items, StandsAlone parse row.2 := by
  rw [entriesToMap_flattenEntries,rewrittenItems_eq_iff,flattenEntries_eq,
    splitEntryPath_rows (itemRows_keys m.items m.keyed)]
  simp

/-- `points:` over the lines `- 1` and `- 2`, which stand four columns in. -/
def pointsMapping : Mapping where
  items := [("points",.leaf "- 1\n    - 2" (.list [.int 1,.int 2]))]
  nodup := by simp
  keyed := by
    refine ⟨⟨by decide,?_⟩,trivial,trivial⟩
    decide +kernel

/-- Of a second line that is indented deeper than the first dash, YAML makes more of the first
item's plain text. -/
def readPoints : String → Option Value
  | "- 1\n    - 2" => some (.list [.str "1 - 2"])
  | _ => none

theorem block_list_not_kept :
    entriesToMap readPoints (flattenEntries (.map "" pointsMapping.items) "") =
        [("points",.list [.str "1 - 2"])] ∧
      entriesToMap readPoints (flattenEntries (.map "" pointsMapping.items) "") ≠
        contentItems pointsMapping.items := by
  decide +kernel

end ExperimentControl.Editor

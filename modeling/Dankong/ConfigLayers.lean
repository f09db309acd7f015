import Dankong.ConfigInheritance

/-!
# What inherited documents say about a place

A place of a document is reached by a list of keys. The documents of a chain speak
about it one after another, the least derived first: they put a value there, or append
to it. `Place` is what they leave there, and `MostDerivedWins` compares it with the
document that is loaded. In a map that is assigned as a whole the loader resolves no
appending keys, which `Settled` rules out.
-/

namespace Dankong.Config

section Fields

variable {V : Type*} {key : String}

/-- Reading a field after an assignment. -/
theorem getField_setField (key name : String) (value : V) (fields : List (String×V)) :
    getField key (setField name value fields)=
      if name=key then some value else getField key fields := by
  induction fields with
  | nil => rfl
  | cons field rest ih =>
    by_cases hname : field.1=name
    · rw [setField,if_pos hname,getField,getField,hname]
      by_cases hkey : name=key
      · rw [if_pos hkey,if_pos hkey]
      · simp only [if_neg hkey]
    · rw [setField,if_neg hname,getField,getField,ih]
      by_cases hkey : field.1=key
      · have hne : ¬name=key := fun h => hname (hkey.trans h.symm)
        rw [if_pos hkey,if_pos hkey,if_neg hne]
      · rw [if_neg hkey,if_neg hkey]

/-- Removing a field keeps the others. -/
theorem getField_removeField_of_ne {name : String} (h : name≠key) (fields : List (String×V)) :
    getField key (removeField name fields)=getField key fields := by
  induction fields with
  | nil => rfl
  | cons field rest ih =>
    by_cases hname : field.1=name
    · have hne : ¬field.1=key := fun hkey => h (hname.symm.trans hkey)
      rw [removeField,if_pos hname,getField,if_neg hne]
    · rw [removeField,if_neg hname,getField,getField,ih]

/-- A field that is read is one of the fields. -/
theorem mem_of_getField {value : V} {fields : List (String×V)}
    (h : getField key fields=some value) : (key,value)∈fields := by
  induction fields with
  | nil => cases h
  | cons field rest ih =>
    rw [getField] at h
    split_ifs at h with hkey
    · rw [←hkey,←Option.some.inj h]
      exact List.mem_cons_self
    · exact List.mem_cons_of_mem field (ih h)

/-- Exactly the keys can be read. -/
theorem getField_eq_none_iff {fields : List (String×V)} :
    getField key fields=none ↔ key∉fields.map Prod.fst := by
  induction fields with
  | nil => exact iff_of_true rfl List.not_mem_nil
  | cons field rest ih =>
    rw [getField,List.map_cons,List.mem_cons,not_or]
    split_ifs with hkey
    · exact iff_of_false id fun h => h.1 hkey.symm
    · rw [ih]
      exact ⟨fun h => ⟨fun heq => hkey heq.symm,h⟩,And.right⟩

/-- Every field is read where keys are unique. -/
theorem getField_of_mem {fields : List (String×V)} (hkeys : (fields.map Prod.fst).Nodup)
    {field : String×V} (h : field∈fields) : getField field.1 fields=some field.2 := by
  induction fields with
  | nil => cases h
  | cons first rest ih =>
    rw [List.map_cons,List.nodup_cons] at hkeys
    rw [getField]
    rcases List.mem_cons.mp h with rfl|hrest
    · rw [if_pos rfl]
    · have hne : ¬first.1=field.1 := fun heq =>
        hkeys.1 (heq ▸ List.mem_map_of_mem hrest)
      rw [if_neg hne,ih hkeys.2 hrest]

/-- The keys after an assignment. -/
theorem mem_keys_setField {name : String} {value : V} {fields : List (String×V)} :
    key∈(setField name value fields).map Prod.fst ↔ name=key ∨ key∈fields.map Prod.fst := by
  rw [←not_iff_not,←getField_eq_none_iff,getField_setField,not_or,←getField_eq_none_iff]
  split_ifs with hkey
  · exact iff_of_false id fun h => h.1 hkey
  · exact (and_iff_right hkey).symm

/-- Assignments keep keys unique. -/
theorem nodup_setField {name : String} {value : V} {fields : List (String×V)}
    (h : (fields.map Prod.fst).Nodup) : ((setField name value fields).map Prod.fst).Nodup := by
  induction fields with
  | nil => exact List.nodup_singleton name
  | cons field rest ih =>
    rw [List.map_cons,List.nodup_cons] at h
    by_cases hname : field.1=name
    · rw [setField,if_pos hname,List.map_cons,List.nodup_cons,←hname]
      exact h
    · rw [setField,if_neg hname,List.map_cons,List.nodup_cons,mem_keys_setField]
      exact ⟨fun hmem => hmem.elim (fun heq => hname heq.symm) h.1,ih h.2⟩

/-- So do removals, after which the key is gone. -/
theorem removeField_unique {name : String} {fields : List (String×V)}
    (h : (fields.map Prod.fst).Nodup) :
    ((removeField name fields).map Prod.fst).Nodup ∧
      getField name (removeField name fields)=none := by
  induction fields with
  | nil => exact ⟨List.nodup_nil,rfl⟩
  | cons field rest ih =>
    rw [List.map_cons,List.nodup_cons] at h
    by_cases hname : field.1=name
    · rw [removeField,if_pos hname,getField_eq_none_iff,←hname]
      exact ⟨h.2,h.1⟩
    · have hkey : field.1∉(removeField name rest).map Prod.fst := by
        rw [←getField_eq_none_iff,getField_removeField_of_ne (fun heq => hname heq.symm),
          getField_eq_none_iff]
        exact h.1
      rw [removeField,if_neg hname,List.map_cons,List.nodup_cons,getField,if_neg hname]
      exact ⟨⟨hkey,(ih h.2).1⟩,(ih h.2).2⟩

end Fields

/-- A value that is no map. -/
inductive Leaf where
  /-- A null node. -/
  | null
  /-- A scalar with its text. -/
  | scalar (text : String)
  /-- A sequence. -/
  | seq (items : List Yaml)

/-- The node of a leaf. -/
def Leaf.toYaml : Leaf → Yaml
  | .null => .null
  | .scalar text => .scalar text
  | .seq items => .seq items

/-- What a document says about a key of a map. -/
inductive Layer where
  /-- The key has a value. -/
  | put (value : Yaml)
  /-- A value is appended to it. -/
  | append (value : Yaml)

/-- The value that is put or appended. -/
def Layer.value : Layer → Yaml
  | .put value => value
  | .append value => value

/-- What the documents leave at a place: a map comes from the document that introduces
it there and the ones that are merged into it. -/
inductive Place where
  /-- Nothing. -/
  | nothing
  /-- A leaf. -/
  | leaf (leaf : Leaf)
  /-- A map. -/
  | map (first : List (String×Yaml)) (rest : List (List (String×Yaml)))

/-- A place that holds a value. -/
def Place.of : Yaml → Place
  | .null => .leaf .null
  | .scalar text => .leaf (.scalar text)
  | .seq items => .leaf (.seq items)
  | .map fields => .map fields []

/-- One more layer: maps go together, a list goes behind a list, and otherwise the new
value wins. -/
def Place.add : Place → Layer → Place
  | .map first rest,.put (.map fields) => .map first (rest++[fields])
  | .leaf (.seq items),.append (.seq more) => .leaf (.seq (items++more))
  | _,layer => .of layer.value

/-- What a map says about a key, in the order of its fields. -/
def layersOf (key : String) : List (String×Yaml) → List Layer
  | [] => []
  | (name,value)::rest =>
    match realKey name with
    | some real => if real=key then .append value::layersOf key rest else layersOf key rest
    | none => if name=key then .put value::layersOf key rest else layersOf key rest

/-- The place of a key in a map, from everything the maps say about it. -/
def Place.child (key : String) : Place → Place
  | .map first rest => ((first::rest).flatMap (layersOf key)).foldl Place.add .nothing
  | _ => .nothing

/-- The place that a list of keys leads to. -/
def Place.at (place : Place) : List String → Place
  | [] => place
  | key::path => (place.child key).at path

/-- What can be found at a place. -/
inductive Found where
  /-- Nothing. -/
  | nothing
  /-- A leaf. -/
  | leaf (leaf : Leaf)
  /-- A map. -/
  | map

/-- What is found at a place of the documents. -/
def Place.found : Place → Found
  | .nothing => .nothing
  | .leaf value => .leaf value
  | .map _ _ => .map

/-- What is found in a node. -/
def found : Option Yaml → Found
  | none => .nothing
  | some .null => .leaf .null
  | some (.scalar text) => .leaf (.scalar text)
  | some (.seq items) => .leaf (.seq items)
  | some (.map _) => .map

/-- The node that a list of keys leads to. -/
def nodeAt : Option Yaml → List String → Option Yaml
  | node,[] => node
  | some (.map fields),key::path => nodeAt (getField key fields) path
  | _,_::_ => none

/-- Somewhere in a node there is an appending key. -/
inductive HasAppendKey : Yaml → Prop
  /-- In the map itself. -/
  | here {fields : List (String×Yaml)} {field : String×Yaml} (hmem : field∈fields)
    (h : (realKey field.1).isSome=true) : HasAppendKey (.map fields)
  /-- In a value of the map. -/
  | field {fields : List (String×Yaml)} {field : String×Yaml} (hmem : field∈fields)
    (h : HasAppendKey field.2) : HasAppendKey (.map fields)
  /-- In an element of a sequence. -/
  | item {items : List Yaml} {item : Yaml} (hmem : item∈items)
    (h : HasAppendKey item) : HasAppendKey (.seq items)

/-- The keys of every map in a node are unique. -/
inductive UniqueKeys : Yaml → Prop
  /-- A null node. -/
  | null : UniqueKeys .null
  /-- A scalar. -/
  | scalar (text : String) : UniqueKeys (.scalar text)
  /-- A sequence. -/
  | seq {items : List Yaml} (h : ∀ item∈items,UniqueKeys item) : UniqueKeys (.seq items)
  /-- A map. -/
  | map {fields : List (String×Yaml)} (hkeys : (fields.map Prod.fst).Nodup)
    (h : ∀ field∈fields,UniqueKeys field.2) : UniqueKeys (.map fields)

/-- The way to a place of the data: no key is an appending one, and it does not go through
the mark of the base. -/
structure DataPath (path : List String) : Prop where
  /-- It leaves the mark out. -/
  head : path.head?≠some "base"
  /-- Its keys are plain. -/
  plain : ∀ key∈path,realKey key=none

/-- What the inheritance promises of the node that is loaded for a chain of documents,
the least derived one first. -/
structure MostDerivedWins (first : List (String×Yaml)) (rest : List (List (String×Yaml)))
    (node : Yaml) : Prop where
  /-- Everywhere the node holds what the documents leave there. -/
  found_eq : ∀ path,DataPath path →
    found (nodeAt (some node) path)=((Place.map first rest).at path).found
  /-- No appending key is left. -/
  resolved : ¬HasAppendKey node

/-- A place is settled if no appending key stays there: none in the map that is introduced,
none whose own name is an appending key in the maps merged into it, and none inside a
leaf. -/
def Place.Settled : Place → Prop
  | .nothing => True
  | .leaf value => ¬HasAppendKey value.toYaml
  | .map first rest => (∀ field∈first,realKey field.1=none) ∧
      ∀ fields∈rest,∀ field∈fields,∀ real∈realKey field.1,realKey real=none

/-- All places of the data are settled. -/
def Settled (first : List (String×Yaml)) (rest : List (List (String×Yaml))) : Prop :=
  ∀ path,DataPath path → ((Place.map first rest).at path).Settled

/-- The chain of documents of a file, the least derived one first. -/
inductive Chain {Path : Type} [DecidableEq Path] (dir : Directory Path) :
    Path → List (String×Yaml) → List (List (String×Yaml)) → Prop
  /-- A file without a base. -/
  | root {path : Path} {current : List (String×Yaml)}
    (h : openFile dir path=.ok (current,none)) : Chain dir path current []
  /-- A file that names its base. -/
  | derived {path base : Path} {current first : List (String×Yaml)}
    {rest : List (List (String×Yaml))} (h : openFile dir path=.ok (current,some base))
    (hbase : Chain dir base first rest) : Chain dir path first (rest++[current])

/-- The node that the loader builds at a place. -/
def Place.node : Place → Option Yaml
  | .nothing => none
  | .leaf value => some value.toYaml
  | .map first rest => some (.map (rest.foldl mergeFields first))

/-- One layer in the loader. -/
def Layer.apply (target : Option Yaml) : Layer → Option Yaml
  | .put value => some (mergeValue target value)
  | .append value => some (appended target value)

/-- What is found at a place is what the loader builds there. -/
theorem found_node (place : Place) : found place.node=place.found := by
  cases place with
  | nothing => rfl
  | leaf value => cases value <;> rfl
  | map first rest => rfl

/-- The loader follows the layers of a place. -/
theorem node_add (place : Place) (layer : Layer) :
    (place.add layer).node=layer.apply place.node := by
  cases layer with
  | put value =>
    cases place with
    | map first rest =>
      cases value with
      | map fields =>
        change some (Yaml.map ((rest++[fields]).foldl mergeFields first))=_
        rw [List.foldl_append]
        rfl
      | _ => rfl
    | leaf old => cases old <;> cases value <;> rfl
    | nothing => cases value <;> rfl
  | append value =>
    cases place with
    | map first rest => cases value <;> rfl
    | leaf old => cases old <;> cases value <;> rfl
    | nothing => cases value <;> rfl

/-- All of them. -/
theorem node_foldl (layers : List Layer) (place : Place) :
    (layers.foldl Place.add place).node=layers.foldl Layer.apply place.node := by
  induction layers generalizing place with
  | nil => rfl
  | cons layer rest ih => rw [List.foldl_cons,List.foldl_cons,ih,node_add]

/-- What a merge does to a key is what the map says about it. -/
theorem getField_mergeFields (key : String) (fields kept : List (String×Yaml)) :
    getField key (mergeFields kept fields)=
      (layersOf key fields).foldl Layer.apply (getField key kept) := by
  induction fields generalizing kept with
  | nil => rfl
  | cons field rest ih =>
    obtain ⟨name,value⟩ := field
    rw [mergeFields,ih,layersOf]
    cases hreal : realKey name with
    | some real =>
      simp only [mergeField,hreal]
      rw [getField_setField]
      split_ifs with hkey
      · rw [hkey]
        rfl
      · rfl
    | none =>
      simp only [mergeField,hreal]
      rw [getField_setField]
      split_ifs with hkey
      · rw [hkey]
        rfl
      · rfl

/-- A chain of merges likewise. -/
theorem getField_foldl_mergeFields (key : String) (rest : List (List (String×Yaml)))
    (kept : List (String×Yaml)) : getField key (rest.foldl mergeFields kept)=
      (rest.flatMap (layersOf key)).foldl Layer.apply (getField key kept) := by
  induction rest generalizing kept with
  | nil => rfl
  | cons fields rest ih =>
    rw [List.foldl_cons,ih,getField_mergeFields,List.flatMap_cons,List.foldl_append]

/-- Merging keeps keys unique. -/
theorem nodup_mergeFields {kept : List (String×Yaml)} (fields : List (String×Yaml))
    (h : (kept.map Prod.fst).Nodup) : ((mergeFields kept fields).map Prod.fst).Nodup := by
  induction fields generalizing kept with
  | nil => exact h
  | cons field rest ih =>
    obtain ⟨name,value⟩ := field
    rw [mergeFields]
    refine ih ?_
    cases hreal : realKey name with
    | some real =>
      simp only [mergeField,hreal]
      exact nodup_setField h
    | none =>
      simp only [mergeField,hreal]
      exact nodup_setField h

/-- A map with plain unique keys is what a merge into an empty map gives. -/
theorem mergeFields_fresh {fields kept : List (String×Yaml)}
    (hkeys : ((kept++fields).map Prod.fst).Nodup) (hplain : ∀ field∈fields,realKey field.1=none) :
    mergeFields kept fields=kept++fields := by
  induction fields generalizing kept with
  | nil => rw [mergeFields,List.append_nil]
  | cons field rest ih =>
    obtain ⟨name,value⟩ := field
    have hname : realKey name=none := hplain _ List.mem_cons_self
    have hnew : name∉kept.map Prod.fst := by
      rw [List.map_append,List.nodup_append] at hkeys
      exact fun hmem => hkeys.2.2 name hmem name List.mem_cons_self rfl
    have hfirst : mergeField kept (name,value)=kept++[(name,value)] := by
      have hnone : getField name kept=none := getField_eq_none_iff.mpr hnew
      have hvalue : mergeValue none value=value := by cases value <;> rfl
      simp only [mergeField,hname]
      rw [hnone,hvalue,setField_of_notMem hnew]
    rw [mergeFields,hfirst,ih (by simpa using hkeys)
      fun other hother => hplain other (List.mem_cons_of_mem _ hother),List.append_assoc]
    rfl

/-- A chain of merges likewise keeps keys unique. -/
theorem nodup_foldl_mergeFields {kept : List (String×Yaml)} (rest : List (List (String×Yaml)))
    (h : (kept.map Prod.fst).Nodup) : ((rest.foldl mergeFields kept).map Prod.fst).Nodup := by
  induction rest generalizing kept with
  | nil => exact h
  | cons fields rest ih => exact ih (nodup_mergeFields fields h)

/-- All maps at a place have unique keys. -/
def Place.Unique : Place → Prop
  | .nothing => True
  | .leaf _ => True
  | .map first rest => UniqueKeys (.map first) ∧ ∀ fields∈rest,UniqueKeys (.map fields)

/-- A value with unique keys makes a place with unique keys. -/
theorem unique_of {value : Yaml} (h : UniqueKeys value) : (Place.of value).Unique := by
  cases value with
  | map fields => exact ⟨h,fun _ hmem => absurd hmem List.not_mem_nil⟩
  | _ => trivial

/-- Layers with unique keys keep it so. -/
theorem unique_add {place : Place} (hplace : place.Unique) {layer : Layer}
    (hlayer : UniqueKeys layer.value) : (place.add layer).Unique := by
  cases place with
  | nothing => exact unique_of hlayer
  | leaf old =>
    cases old with
    | seq items =>
      cases layer with
      | put value => exact unique_of hlayer
      | append value =>
        cases value with
        | seq more => trivial
        | _ => exact unique_of hlayer
    | _ => exact unique_of hlayer
  | map first rest =>
    cases layer with
    | put value =>
      cases value with
      | map fields =>
        refine ⟨hplace.1,fun other hother => ?_⟩
        rcases List.mem_append.mp hother with hrest|hlast
        · exact hplace.2 other hrest
        · rw [List.mem_singleton.mp hlast]
          exact hlayer
      | _ => exact unique_of hlayer
    | append value => exact unique_of hlayer

/-- What a map says about a key are values of the map, under that key or an appending one. -/
theorem mem_layersOf {key : String} {fields : List (String×Yaml)} {layer : Layer}
    (h : layer∈layersOf key fields) : ∃ name,(name,layer.value)∈fields ∧
      (realKey name=some key ∨ realKey name=none ∧ name=key) := by
  induction fields with
  | nil => cases h
  | cons field rest ih =>
    obtain ⟨name,value⟩ := field
    have hlater (hrest : layer∈layersOf key rest) : ∃ other,(other,layer.value)∈(name,value)::rest ∧
        (realKey other=some key ∨ realKey other=none ∧ other=key) :=
      (ih hrest).imp fun other hother => ⟨List.mem_cons_of_mem (name,value) hother.1,hother.2⟩
    cases hreal : realKey name with
    | some real =>
      simp only [layersOf,hreal] at h
      split_ifs at h with hkey
      · rcases List.mem_cons.mp h with rfl|hrest
        · exact ⟨name,List.mem_cons_self,Or.inl (hreal.trans (congrArg some hkey))⟩
        · exact hlater hrest
      · exact hlater h
    | none =>
      simp only [layersOf,hreal] at h
      split_ifs at h with hkey
      · rcases List.mem_cons.mp h with rfl|hrest
        · exact ⟨name,List.mem_cons_self,Or.inr ⟨hreal,hkey⟩⟩
        · exact hlater hrest
      · exact hlater h

/-- The places below a place with unique keys have unique keys. -/
theorem unique_child {place : Place} (h : place.Unique) (key : String) :
    (place.child key).Unique := by
  cases place with
  | nothing => trivial
  | leaf value => trivial
  | map first rest =>
    have hmaps : ∀ fields∈first::rest,UniqueKeys (.map fields) := by
      intro fields hmem
      rcases List.mem_cons.mp hmem with rfl|hrest
      · exact h.1
      · exact h.2 fields hrest
    have hlayers : ∀ layer∈(first::rest).flatMap (layersOf key),UniqueKeys layer.value := by
      intro layer hlayer
      obtain ⟨fields,hfields,hmem⟩ := List.mem_flatMap.mp hlayer
      obtain ⟨name,hvalue,_⟩ := mem_layersOf hmem
      cases hmaps fields hfields with
      | map _ hvalues => exact hvalues _ hvalue
    rw [Place.child]
    generalize (first::rest).flatMap (layersOf key)=layers at hlayers
    have hstart : Place.nothing.Unique := trivial
    generalize Place.nothing=start at hstart
    induction layers generalizing start with
    | nil => exact hstart
    | cons layer rest ih =>
      exact ih (fun other hother => hlayers other (List.mem_cons_of_mem layer hother)) _
        (unique_add hstart (hlayers layer List.mem_cons_self))

/-- The place of a key is what a merge from the empty map makes of the key. -/
theorem node_child (key : String) (first : List (String×Yaml))
    (rest : List (List (String×Yaml))) : ((Place.map first rest).child key).node=
      getField key (rest.foldl mergeFields (mergeFields [] first)) := by
  rw [Place.child,node_foldl,List.flatMap_cons,List.foldl_append,getField_foldl_mergeFields,
    getField_mergeFields]
  rfl

/-- Where no appending key is introduced, it is the value of the key. -/
theorem node_child_of_settled {first : List (String×Yaml)} {rest : List (List (String×Yaml))}
    (hunique : (Place.map first rest).Unique) (hsettled : (Place.map first rest).Settled)
    (key : String) : ((Place.map first rest).child key).node=
      getField key (rest.foldl mergeFields first) := by
  have hkeys : (([]++first).map Prod.fst).Nodup := by
    cases hunique.1 with
    | map hkeys _ => exact hkeys
  rw [node_child,mergeFields_fresh hkeys hsettled.1,List.nil_append]

/-- A key is missing only if nothing is said about it. -/
theorem foldl_apply_eq_none_iff (layers : List Layer) (start : Option Yaml) :
    layers.foldl Layer.apply start=none ↔ layers=[] ∧ start=none := by
  induction layers generalizing start with
  | nil => exact (and_iff_right rfl).symm
  | cons layer rest ih =>
    have happly : layer.apply start≠none := by
      cases layer <;> exact Option.some_ne_none _
    rw [List.foldl_cons,ih]
    exact iff_of_false (fun h => happly h.2) fun h => (nomatch h.1)

/-- An appending key says something about its real key. -/
theorem mem_layersOf_of_append {key : String} {fields : List (String×Yaml)} {field : String×Yaml}
    (hmem : field∈fields) (h : realKey field.1=some key) :
    .append field.2∈layersOf key fields := by
  induction fields with
  | nil => cases hmem
  | cons other rest ih =>
    obtain ⟨name,value⟩ := other
    rcases List.mem_cons.mp hmem with rfl|hrest
    · simp only [layersOf,h,if_true]
      exact List.mem_cons_self
    · have hlater := ih hrest
      cases hreal : realKey name with
      | some real =>
        simp only [layersOf,hreal]
        split_ifs
        · exact List.mem_cons_of_mem _ hlater
        · exact hlater
      | none =>
        simp only [layersOf,hreal]
        split_ifs
        · exact List.mem_cons_of_mem _ hlater
        · exact hlater

section

variable {first fields : List (String×Yaml)} {rest : List (List (String×Yaml))}

/-- A settled map has plain keys. -/
theorem plain_of_settled (h : (Place.map first rest).Settled) {key : String} {value : Yaml}
    (hread : getField key fields=
      (rest.flatMap (layersOf key)).foldl Layer.apply (getField key first))
    (hvalue : getField key fields=some value) : realKey key=none := by
  have hsome : ¬(rest.flatMap (layersOf key)=[] ∧ getField key first=none) := by
    rw [←foldl_apply_eq_none_iff,←hread,hvalue]
    exact Option.some_ne_none value
  rcases not_and_or.mp hsome with hlayers|hfirst
  · obtain ⟨layer,hlayer⟩ := List.exists_mem_of_ne_nil _ hlayers
    obtain ⟨map,hmap,hmem⟩ := List.mem_flatMap.mp hlayer
    obtain ⟨name,hname,hreal|⟨hplain,rfl⟩⟩ := mem_layersOf hmem
    · exact h.2 map hmap _ hname key hreal
    · exact hplain
  · rw [getField_eq_none_iff,not_not] at hfirst
    obtain ⟨field,hfield,rfl⟩ := List.mem_map.mp hfirst
    exact h.1 field hfield

/-- A map whose keys are plain, and which has every appending key that is not resolved, is
settled. -/
theorem settled_of_plain (hread : ∀ key,realKey key≠none → getField key fields=
      (rest.flatMap (layersOf key)).foldl Layer.apply (getField key first))
    (hplain : ∀ field∈fields,realKey field.1=none) : (Place.map first rest).Settled := by
  have habsent : ∀ key,realKey key≠none →
      rest.flatMap (layersOf key)=[] ∧ getField key first=none := by
    intro key hkey
    rw [←foldl_apply_eq_none_iff,←hread key hkey]
    by_contra hsome
    obtain ⟨value,hvalue⟩ := Option.ne_none_iff_exists'.mp hsome
    exact hkey (hplain _ (mem_of_getField hvalue))
  constructor
  · intro field hfield
    by_contra hkey
    exact getField_eq_none_iff.mp (habsent field.1 hkey).2 (List.mem_map_of_mem hfield)
  · intro map hmap field hfield real hreal
    by_contra hkey
    have hlayer := List.mem_flatMap.mpr ⟨map,hmap,mem_layersOf_of_append hfield hreal⟩
    rw [(habsent real hkey).1] at hlayer
    cases hlayer

end

/-- Nothing lies below a place that holds no map. -/
theorem at_of_child_nothing {place : Place} (h : ∀ key,place.child key=.nothing)
    (key : String) (path : List String) : place.at (key::path)=.nothing := by
  rw [Place.at,h key]
  induction path with
  | nil => rfl
  | cons next path ih => exact ih

/-- Where the places on the way are settled, the loader builds what the documents leave. -/
theorem nodeAt_node (path : List String) {place : Place} (hunique : place.Unique)
    (hsettled : ∀ done,done<+:path → (place.at done).Settled) :
    nodeAt place.node path=(place.at path).node := by
  induction path generalizing place with
  | nil => rfl
  | cons key path ih =>
    cases place with
    | nothing =>
      rw [at_of_child_nothing (fun _ => rfl)]
      rfl
    | leaf value =>
      rw [at_of_child_nothing (fun _ => rfl)]
      cases value <;> rfl
    | map first rest =>
      have hhere : (Place.map first rest).Settled := hsettled [] List.nil_prefix
      rw [Place.at,←ih (unique_child hunique key) fun done hdone =>
        hsettled (key::done) ((List.prefix_cons_inj key).mpr hdone),
        node_child_of_settled hunique hhere]
      rfl

/-- Where all places are settled, the loader leaves no appending key. -/
theorem resolved_of_settled {node : Yaml} (h : HasAppendKey node) {place : Place}
    (hunique : place.Unique) (hnode : place.node=some node)
    (hsettled : ∀ path,(∀ key∈path,realKey key=none) → (place.at path).Settled) : False := by
  have hhere : place.Settled := hsettled [] fun _ hmem => absurd hmem List.not_mem_nil
  induction h generalizing place with
  | @here fields field hmem h =>
    cases place with
    | nothing => cases hnode
    | leaf value => cases value <;> cases hnode
    | map first rest =>
      cases hnode
      cases hunique.1 with
      | map hkeys _ =>
        have hvalue := getField_of_mem (nodup_foldl_mergeFields rest hkeys) hmem
        rw [plain_of_settled hhere (getField_foldl_mergeFields _ _ _) hvalue] at h
        cases h
  | @field fields field hmem _ ih =>
    cases place with
    | nothing => cases hnode
    | leaf value => cases value <;> cases hnode
    | map first rest =>
      cases hnode
      cases hunique.1 with
      | map hkeys _ =>
        have hvalue := getField_of_mem (nodup_foldl_mergeFields rest hkeys) hmem
        have hplain := plain_of_settled hhere (getField_foldl_mergeFields _ _ _) hvalue
        have hbelow : ∀ path,(∀ key∈path,realKey key=none) →
            (((Place.map first rest).child field.1).at path).Settled := fun path hpath =>
          hsettled (field.1::path) (List.forall_mem_cons.mpr ⟨hplain,hpath⟩)
        refine ih (unique_child hunique field.1) ?_ hbelow (hbelow [] fun _ hnil => nomatch hnil)
        rw [node_child_of_settled hunique hhere,hvalue]
  | item hmem h _ =>
    cases place with
    | nothing => cases hnode
    | leaf value =>
      cases value with
      | seq items =>
        cases hnode
        exact hhere (.item hmem h)
      | _ => cases hnode
    | map first rest => cases hnode

/-- Where the loader leaves no appending key, the place is settled. -/
theorem settled_here_of_resolved {place : Place}
    (h : ∀ node,place.node=some node → ¬HasAppendKey node) : place.Settled := by
  cases place with
  | nothing => trivial
  | leaf value => exact h value.toYaml rfl
  | map first rest =>
    refine settled_of_plain (fun key _ => getField_foldl_mergeFields key rest first)
      fun field hfield => ?_
    by_contra hkey
    exact h _ rfl (.here hfield (Option.isSome_iff_ne_none.mpr hkey))

/-- So are the places below it. -/
theorem settled_of_resolved (path : List String) {place : Place} (hunique : place.Unique)
    (h : ∀ node,place.node=some node → ¬HasAppendKey node) : (place.at path).Settled := by
  have hhere := settled_here_of_resolved h
  induction path generalizing place with
  | nil => exact hhere
  | cons key path ih =>
    cases place with
    | nothing =>
      rw [at_of_child_nothing (fun _ => rfl)]
      trivial
    | leaf value =>
      rw [at_of_child_nothing (fun _ => rfl)]
      trivial
    | map first rest =>
      have hbelow : ∀ node,((Place.map first rest).child key).node=some node →
          ¬HasAppendKey node := by
        intro node hnode hkey
        rw [node_child_of_settled hunique hhere] at hnode
        exact h _ rfl (.field (mem_of_getField hnode) hkey)
      exact ih (unique_child hunique key) hbelow (settled_here_of_resolved hbelow)

/-- The fields that are loaded for a chain of documents. -/
def loadedFields (first : List (String×Yaml)) (rest : List (List (String×Yaml))) :
    List (String×Yaml) :=
  rest.foldl (fun merged current => removeField "base" (mergeFields merged current)) first

/-- A chain of documents is loaded as its fields, whatever the fuel. -/
theorem loadWithBase_of_chain {Path : Type} [DecidableEq Path] {dir : Directory Path}
    {path : Path} {first : List (String×Yaml)} {rest : List (List (String×Yaml))}
    (h : Chain dir path first rest) {fuel : ℕ} {outcome : Except LoadError Yaml}
    (hload : loadWithBase dir fuel path=some outcome) :
    outcome=.ok (.map (loadedFields first rest)) := by
  induction h generalizing fuel outcome with
  | root h =>
    cases fuel with
    | zero => cases hload
    | succ fuel =>
      rw [loadWithBase,h] at hload
      exact (Option.some.inj hload).symm
  | derived h _ ih =>
    cases fuel with
    | zero => cases hload
    | succ fuel =>
      rw [loadWithBase,h] at hload
      obtain ⟨loaded,hloaded,rfl⟩ := Option.map_eq_some_iff.mp hload
      rw [ih hloaded,loadedFields,loadedFields,List.foldl_append]
      rfl

/-- It is loaded. -/
theorem loads_of_chain {Path : Type} [DecidableEq Path] {dir : Directory Path}
    {path : Path} {first : List (String×Yaml)} {rest : List (List (String×Yaml))}
    (h : Chain dir path first rest) : Loads dir path (.map (loadedFields first rest)) := by
  have hreturns : ∃ fuel outcome,loadWithBase dir fuel path=some outcome := by
    induction h with
    | @root path current h =>
      refine ⟨1,.ok (.map current),?_⟩
      rw [loadWithBase,h]
    | @derived path base current first rest h _ ih =>
      obtain ⟨fuel,outcome,hload⟩ := ih
      refine ⟨fuel+1,outcome.map fun node => inherit node current,?_⟩
      rw [loadWithBase,h]
      dsimp only
      rw [hload,Option.map_some]
  obtain ⟨fuel,outcome,hload⟩ := hreturns
  exact ⟨fuel,loadWithBase_of_chain h hload ▸ hload⟩

/-- What a computation needs in order to succeed. -/
theorem exists_of_bind_eq_ok {E A B : Type} {x : Except E A} {f : A → Except E B} {b : B}
    (h : x >>= f=.ok b) : ∃ a,x=.ok a ∧ f a=.ok b := by
  cases x with
  | error e => cases h
  | ok a => exact ⟨a,rfl,h⟩

/-- The document at the bottom of a chain names no base. -/
theorem getField_base_of_chain {Path : Type} [DecidableEq Path] {dir : Directory Path}
    {path : Path} {first : List (String×Yaml)} {rest : List (List (String×Yaml))}
    (h : Chain dir path first rest) : getField "base" first=none := by
  induction h with
  | root h =>
    obtain ⟨document,_,h⟩ := exists_of_bind_eq_ok h
    obtain ⟨fields,_,h⟩ := exists_of_bind_eq_ok h
    cases hbase : getField "base" fields with
    | none =>
      rw [hbase] at h
      cases h
      exact hbase
    | some entry =>
      rw [hbase] at h
      obtain ⟨name,_,h⟩ := exists_of_bind_eq_ok h
      cases h
  | derived _ _ ih => exact ih

/-- What is loaded for a chain reads like the merges of its documents, but for the mark. -/
theorem getField_loadedFields {key : String} (hkey : key≠"base") (first : List (String×Yaml))
    (rest : List (List (String×Yaml))) : getField key (loadedFields first rest)=
      (rest.flatMap (layersOf key)).foldl Layer.apply (getField key first) := by
  induction rest generalizing first with
  | nil => rfl
  | cons fields rest ih =>
    have hfirst := ih (removeField "base" (mergeFields first fields))
    rw [getField_removeField_of_ne hkey.symm,getField_mergeFields] at hfirst
    rw [List.flatMap_cons,List.foldl_append,←hfirst]
    rfl

/-- Its keys are unique, and the mark is gone. -/
theorem loadedFields_unique {first : List (String×Yaml)} (hkeys : (first.map Prod.fst).Nodup)
    (hbase : getField "base" first=none) (rest : List (List (String×Yaml))) :
    ((loadedFields first rest).map Prod.fst).Nodup ∧
      getField "base" (loadedFields first rest)=none := by
  induction rest generalizing first with
  | nil => exact ⟨hkeys,hbase⟩
  | cons fields rest ih =>
    obtain ⟨hnodup,hgone⟩ := @removeField_unique _ "base" _ (nodup_mergeFields fields hkeys)
    exact ih hnodup hgone

/-- The whole document is data. -/
theorem dataPath_nil : DataPath [] :=
  ⟨fun hhead => (nomatch hhead),fun _ hmem => absurd hmem List.not_mem_nil⟩

section

variable {first : List (String×Yaml)} {rest : List (List (String×Yaml))}
  (hunique : ∀ fields∈first::rest,UniqueKeys (.map fields))

include hunique

/-- The documents have unique keys. -/
theorem unique_documents : (Place.map first rest).Unique :=
  ⟨hunique first List.mem_cons_self,fun fields hmem => hunique fields (List.mem_cons_of_mem _ hmem)⟩

/-- Below the top the loaded document is what the loader builds at the places. -/
theorem node_child_loaded (hsettled : (Place.map first rest).Settled) {key : String}
    (hkey : key≠"base") :
    ((Place.map first rest).child key).node=getField key (loadedFields first rest) := by
  rw [node_child_of_settled (unique_documents hunique) hsettled,getField_foldl_mergeFields,
    getField_loadedFields hkey]

/-- Settled documents leave no appending key. -/
theorem resolved_loaded (hbase : getField "base" first=none) (h : Settled first rest) :
    ¬HasAppendKey (.map (loadedFields first rest)) := by
  have hhere : (Place.map first rest).Settled := h [] dataPath_nil
  have hkeys : (first.map Prod.fst).Nodup := by
    cases hunique first List.mem_cons_self with
    | map hkeys _ => exact hkeys
  obtain ⟨hnodup,hgone⟩ := loadedFields_unique hkeys hbase rest
  have hfields : ∀ field∈loadedFields first rest,
      field.1≠"base" ∧ getField field.1 (loadedFields first rest)=some field.2 := by
    intro field hmem
    have hvalue := getField_of_mem hnodup hmem
    refine ⟨fun hmark => ?_,hvalue⟩
    rw [hmark,hgone] at hvalue
    cases hvalue
  have hplain : ∀ field∈loadedFields first rest,realKey field.1=none := fun field hmem =>
    plain_of_settled hhere (getField_loadedFields (hfields field hmem).1 first rest)
      (hfields field hmem).2
  intro hkey
  cases hkey with
  | here hmem hkey =>
    rw [hplain _ hmem] at hkey
    cases hkey
  | field hmem hkey =>
    obtain ⟨hne,hvalue⟩ := hfields _ hmem
    refine resolved_of_settled hkey (unique_child (unique_documents hunique) _)
      ((node_child_loaded hunique hhere hne).trans hvalue) fun path hpath => ?_
    exact h (_::path) ⟨fun hhead => hne (Option.some.inj hhead),
      List.forall_mem_cons.mpr ⟨hplain _ hmem,hpath⟩⟩

/-- Settled documents are loaded as the inheritance promises. -/
theorem mostDerivedWins_of_settled (hbase : getField "base" first=none)
    (h : Settled first rest) : MostDerivedWins first rest (.map (loadedFields first rest)) := by
  refine ⟨fun path hpath => ?_,resolved_loaded hunique hbase h⟩
  cases path with
  | nil => rfl
  | cons key path =>
    have hkey : key≠"base" := fun hmark => hpath.head (congrArg some hmark)
    have hhere : (Place.map first rest).Settled := h [] dataPath_nil
    have hway : nodeAt (some (.map (loadedFields first rest))) (key::path)=
        nodeAt ((Place.map first rest).child key).node path := by
      rw [node_child_loaded hunique hhere hkey]
      rfl
    rw [hway,nodeAt_node path (unique_child (unique_documents hunique) key),found_node]
    · rfl
    · intro done hdone
      refine h (key::done) ⟨fun hhead => hkey (Option.some.inj hhead),fun other hother => ?_⟩
      refine hpath.plain other ?_
      exact ((List.prefix_cons_inj key).mpr hdone).subset hother

/-- Documents that are loaded as promised are settled. -/
theorem settled_of_mostDerivedWins
    (h : MostDerivedWins first rest (.map (loadedFields first rest))) : Settled first rest := by
  have hmark : realKey "base"=none := by decide
  have hhere : (Place.map first rest).Settled := by
    refine settled_of_plain (fun key hkey => getField_loadedFields ?_ first rest)
      fun field hfield => ?_
    · rintro rfl
      exact hkey hmark
    · by_contra hkey
      exact h.resolved (.here hfield (Option.isSome_iff_ne_none.mpr hkey))
  intro path hpath
  cases path with
  | nil => exact hhere
  | cons key path =>
    have hkey : key≠"base" := fun hmark => hpath.head (congrArg some hmark)
    refine settled_of_resolved path (unique_child (unique_documents hunique) key) ?_
    intro node hnode hbelow
    rw [node_child_loaded hunique hhere hkey] at hnode
    exact h.resolved (.field (mem_of_getField hnode) hbelow)

end

/-- A chain of documents with unique keys is loaded as the inheritance promises exactly if
its documents are settled. -/
theorem mostDerivedWins_iff {Path : Type} [DecidableEq Path] {dir : Directory Path}
    {path : Path} {first : List (String×Yaml)} {rest : List (List (String×Yaml))}
    (hchain : Chain dir path first rest)
    (hunique : ∀ fields∈first::rest,UniqueKeys (.map fields)) :
    (∃ node,Loads dir path node ∧ MostDerivedWins first rest node) ↔ Settled first rest := by
  constructor
  · rintro ⟨node,⟨fuel,hload⟩,h⟩
    have hnode := Except.ok.inj (loadWithBase_of_chain hchain hload)
    rw [hnode] at h
    exact settled_of_mostDerivedWins hunique h
  · intro h
    exact ⟨_,loads_of_chain hchain,
      mostDerivedWins_of_settled hunique (getField_base_of_chain hchain) h⟩

/-- A base with a list, and a file that appends to it. -/
def withList : Directory String where
  files := [("base.yaml",.ok (.map [("list",.seq [.scalar "1"])])),
    ("car.yaml",.ok (.map [("base",.scalar "base.yaml"),("list__append",.seq [.scalar "2"])]))]
  sibling := fun _ name => name
  text := id

/-- All its places are settled. -/
theorem withList_settled : Settled [("list",.seq [.scalar "1"])]
    [[("base",.scalar "base.yaml"),("list__append",.seq [.scalar "2"])]] := by
  have hlist : realKey "list"=none := by decide
  have happend : realKey "list__append"=some "list" := by decide
  have hmark : realKey "base"=none := by decide
  intro path hpath
  cases path with
  | nil =>
    refine ⟨List.forall_mem_singleton.mpr hlist,List.forall_mem_singleton.mpr ?_⟩
    refine List.forall_mem_cons.mpr ⟨fun real hreal => ?_,List.forall_mem_singleton.mpr ?_⟩
    · rw [hmark] at hreal
      cases hreal
    · intro real hreal
      rw [happend] at hreal
      cases hreal
      exact hlist
  | cons key path =>
    have hkey : ¬"base"=key := fun h => hpath.head (congrArg some h.symm)
    by_cases hname : "list"=key
    · subst hname
      have hchild : (Place.map [("list",.seq [.scalar "1"])]
          [[("base",.scalar "base.yaml"),("list__append",.seq [.scalar "2"])]]).child "list"=
            .leaf (.seq [.scalar "1",.scalar "2"]) := rfl
      rw [Place.at,hchild]
      cases path with
      | nil =>
        rintro (_|_|⟨hmem,hbelow⟩)
        rcases List.mem_cons.mp hmem with rfl|hlast
        · cases hbelow
        · rw [List.mem_singleton.mp hlast] at hbelow
          cases hbelow
      | cons next path =>
        rw [at_of_child_nothing (fun _ => rfl)]
        trivial
    · have hchild : (Place.map [("list",.seq [.scalar "1"])]
          [[("base",.scalar "base.yaml"),("list__append",.seq [.scalar "2"])]]).child key=
            .nothing := by
        simp [Place.child,layersOf,hlist,happend,hmark,hname,hkey]
      rw [Place.at,hchild]
      cases path with
      | nil => trivial
      | cons next path =>
        rw [at_of_child_nothing (fun _ => rfl)]
        trivial

/-- The list is appended. -/
theorem withList_mostDerivedWins : ∃ node,Loads withList "car.yaml" node ∧
    MostDerivedWins [("list",.seq [.scalar "1"])]
      [[("base",.scalar "base.yaml"),("list__append",.seq [.scalar "2"])]] node := by
  have hroot : Chain withList "base.yaml" [("list",.seq [.scalar "1"])] [] := .root rfl
  have hopen : openFile withList "car.yaml"=.ok ([("base",.scalar "base.yaml"),
      ("list__append",.seq [.scalar "2"])],some "base.yaml") := rfl
  have hitems : ∀ text,UniqueKeys (.seq [.scalar text]) := fun text =>
    .seq (List.forall_mem_singleton.mpr (.scalar text))
  refine (mostDerivedWins_iff (.derived hopen hroot) ?_).mpr withList_settled
  refine List.forall_mem_cons.mpr ⟨?_,List.forall_mem_singleton.mpr ?_⟩
  · exact .map (by decide) (List.forall_mem_singleton.mpr (hitems "1"))
  · exact .map (by decide) (List.forall_mem_cons.mpr
      ⟨.scalar "base.yaml",List.forall_mem_singleton.mpr (hitems "2")⟩)

/-- A base, and a file that gives a new map a list to append. -/
def withNewMap : Directory String where
  files := [("base.yaml",.ok (.map [("speed",.scalar "1")])),
    ("car.yaml",.ok (.map [("base",.scalar "base.yaml"),
      ("route",.map [("points__append",.seq [.scalar "2"])])]))]
  sibling := fun _ name => name
  text := id

/-- The list keeps its appending key. -/
theorem withNewMap_keeps_append : Chain withNewMap "car.yaml" [("speed",.scalar "1")]
      [[("base",.scalar "base.yaml"),("route",.map [("points__append",.seq [.scalar "2"])])]] ∧
    ¬∃ node,Loads withNewMap "car.yaml" node ∧ MostDerivedWins [("speed",.scalar "1")]
      [[("base",.scalar "base.yaml"),("route",.map [("points__append",.seq [.scalar "2"])])]]
      node := by
  have hroot : Chain withNewMap "base.yaml" [("speed",.scalar "1")] [] := .root rfl
  have hopen : openFile withNewMap "car.yaml"=.ok ([("base",.scalar "base.yaml"),
      ("route",.map [("points__append",.seq [.scalar "2"])])],some "base.yaml") := rfl
  have hchain : Chain withNewMap "car.yaml" [("speed",.scalar "1")]
      [[("base",.scalar "base.yaml"),("route",.map [("points__append",.seq [.scalar "2"])])]] :=
    .derived hopen hroot
  refine ⟨hchain,?_⟩
  rintro ⟨node,⟨fuel,hload⟩,h⟩
  have hnode : node=.map [("speed",.scalar "1"),
      ("route",.map [("points__append",.seq [.scalar "2"])])] :=
    Except.ok.inj (loadWithBase_of_chain hchain hload)
  rw [hnode] at h
  exact h.resolved (.field (List.mem_cons_of_mem _ List.mem_cons_self)
    (.here List.mem_cons_self (by decide)))

end Dankong.Config

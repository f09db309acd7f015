import Dankong.Json

/-!
# The configuration file

`ConfigManager::save` writes the configuration as YAML without type information,
and `YamlHelper::yaml_to_json` guesses the types from the text when the file is
loaded. A YAML document is its node tree: writing and parsing keep structure and
text, and a node to which nothing was assigned is null. The text of a double is
left to the YAML library.
-/

namespace Dankong.Config

open Numerals

/-- A YAML node. -/
inductive Yaml
  /-- A null node. -/
  | null
  /-- A scalar with its text. -/
  | scalar (text : String)
  /-- A sequence. -/
  | seq (items : List Yaml)
  /-- A map. -/
  | map (fields : List (String×Yaml))

/-- Assignment to a field: an existing field is replaced, a new one comes last. -/
def setField {V : Type*} (key : String) (value : V) : List (String×V) → List (String×V)
  | [] => [(key,value)]
  | field::rest => if field.1=key then (key,value)::rest else field::setField key value rest

/-- `node.push_back`: a null node becomes a sequence. -/
def Yaml.pushBack (node item : Yaml) : Yaml :=
  match node with
  | .null => .seq [item]
  | .seq items => .seq (items++[item])
  | _ => node

/-- `node[key] = value`: a null node becomes a map. -/
def Yaml.assign (node : Yaml) (key : String) (value : Yaml) : Yaml :=
  match node with
  | .null => .map [(key,value)]
  | .map fields => .map (setField key value fields)
  | _ => node

section

variable (doubleText : Double → String)

mutual

/-- `json_to_yaml` of `ConfigManager::save`. Integers are written in decimal;
`doubleText` is the library's text of a double. -/
def jsonToYaml : Json → Yaml
  | .null => .null
  | .bool b => .scalar (if b=true then "true" else "false")
  | .int n => .scalar (toString n)
  | .float x => .scalar (doubleText x)
  | .str s => .scalar s
  | .arr items => pushItems .null items
  | .obj fields => assignFields .null fields

/-- The loop over the elements of an array. -/
def pushItems (node : Yaml) : List Json → Yaml
  | [] => node
  | item::rest => pushItems (node.pushBack (jsonToYaml item)) rest

/-- The loop over the fields of an object. -/
def assignFields (node : Yaml) : List (String×Json) → Yaml
  | [] => node
  | field::rest => assignFields (assignField node field) rest

/-- One turn of that loop. -/
def assignField (node : Yaml) : String×Json → Yaml
  | (key,value) => node.assign key (jsonToYaml value)

end

end

/-- The type guess of `yaml_to_json` for the text of a scalar. -/
def scalarToJson (text : String) : Json :=
  if text="true" then .bool true
  else if text="false" then .bool false
  else if text="~" ∨ text="null" then .null
  else match strictStoi text with
    | some n => .int n
    | none => match strictStod text with
      | some x => .float x
      | none => .str text

mutual

/-- `yaml_to_json`. -/
def yamlToJson : Yaml → Json
  | .null => .null
  | .scalar text => scalarToJson text
  | .seq items => .arr (itemsToJson [] items)
  | .map fields => .obj (fieldsToJson [] fields)

/-- The loop over the elements of a sequence. -/
def itemsToJson (done : List Json) : List Yaml → List Json
  | [] => done
  | item::rest => itemsToJson (done++[yamlToJson item]) rest

/-- The loop over the fields of a map. -/
def fieldsToJson (done : List (String×Json)) : List (String×Yaml) → List (String×Json)
  | [] => done
  | field::rest => fieldsToJson (fieldToJson done field) rest

/-- One turn of that loop. -/
def fieldToJson (done : List (String×Json)) : String×Yaml → List (String×Json)
  | (key,value) => setField key (yamlToJson value) done

end

mutual

/-- The content of a value: numbers are compared by value, whether they are
stored as integers or as doubles. -/
def content : Json → Json
  | .int n => .float (.finite n)
  | .arr items => .arr (contentItems items)
  | .obj fields => .obj (contentFields fields)
  | .null => .null
  | .bool b => .bool b
  | .float x => .float x
  | .str s => .str s

/-- The contents of the elements of an array. -/
def contentItems : List Json → List Json
  | [] => []
  | item::rest => content item::contentItems rest

/-- The contents of the fields of an object. -/
def contentFields : List (String×Json) → List (String×Json)
  | [] => []
  | field::rest => contentField field::contentFields rest

/-- The content of a field. -/
def contentField : String×Json → String×Json
  | (key,value) => (key,content value)

end

/-- Whether a number is a double. -/
def IsDouble : Double → Prop
  | .finite x => toDouble x=some x
  | _ => True

/-- The values a configuration converts to: integers of thirty-two bits,
doubles, and objects with distinct keys. -/
inductive Admitted : Json → Prop
  /-- An absent optional value. -/
  | null : Admitted .null
  /-- A boolean. -/
  | bool (b : Bool) : Admitted (.bool b)
  /-- An integer. -/
  | int {n : ℤ} (hlo : -2^31≤n) (hhi : n<2^31) : Admitted (.int n)
  /-- A double. -/
  | float {x : Double} (h : IsDouble x) : Admitted (.float x)
  /-- A string. -/
  | str (s : String) : Admitted (.str s)
  /-- An array. -/
  | arr {items : List Json} (h : ∀ j∈items,Admitted j) : Admitted (.arr items)
  /-- An object. -/
  | obj {fields : List (String×Json)} (hkeys : (fields.map Prod.fst).Nodup)
    (h : ∀ field∈fields,Admitted field.2) : Admitted (.obj fields)

/-- Whether a text is one of the words the reader takes for a boolean or null. -/
def Reserved (text : String) : Prop := text="true" ∨ text="false" ∨ text="~" ∨ text="null"

/-- The values the reader finds again: every double is written in a form that
`strict_stod` accepts, no string is a reserved word or accepted by `strict_stod`,
and no array or object is empty. -/
inductive Readable (doubleText : Double → String) : Json → Prop
  /-- `null`. -/
  | null : Readable doubleText .null
  /-- A boolean. -/
  | bool (b : Bool) : Readable doubleText (.bool b)
  /-- An integer. -/
  | int (n : ℤ) : Readable doubleText (.int n)
  /-- A double that is not out of range. -/
  | float {x : Double} (h : (strictStod (doubleText x)).isSome=true) :
    Readable doubleText (.float x)
  /-- A string that looks like nothing else. -/
  | str {s : String} (hword : ¬Reserved s) (hnum : strictStod s=none) :
    Readable doubleText (.str s)
  /-- An array with elements. -/
  | arr {items : List Json} (hne : items≠[]) (h : ∀ j∈items,Readable doubleText j) :
    Readable doubleText (.arr items)
  /-- An object with fields. -/
  | obj {fields : List (String×Json)} (hne : fields≠[])
    (h : ∀ field∈fields,Readable doubleText field.2) : Readable doubleText (.obj fields)

/-- No reserved word is a number. -/
theorem strictStod_reserved {text : String} (h : Reserved text) : strictStod text=none := by
  rcases h with rfl|rfl|rfl|rfl <;> decide

/-- A text that is no reserved word and no double stays a string. -/
theorem scalarToJson_str {text : String} (hword : ¬Reserved text) (hnum : strictStod text=none) :
    scalarToJson text=.str text := by
  simp only [Reserved,not_or] at hword
  have hint : strictStoi text=none := by
    cases hi : strictStoi text with
    | none => rfl
    | some n =>
      rw [strictStod_of_strictStoi hi] at hnum
      cases hnum
  simp only [scalarToJson,hword,hint,hnum,if_false,or_self]

/-- A text that is a double is read as that number. -/
theorem content_scalarToJson {text : String} {x : Double} (h : strictStod text=some x) :
    content (scalarToJson text)=.float x := by
  have hword : ¬Reserved text := by
    intro hr
    rw [strictStod_reserved hr] at h
    cases h
  simp only [Reserved,not_or] at hword
  simp only [scalarToJson,hword,if_false,or_self]
  cases hi : strictStoi text with
  | none =>
    simp only [h]
    rfl
  | some n =>
    rw [strictStod_of_strictStoi hi] at h
    rw [←Option.some.inj h]
    rfl

/-- A reserved word is not read as a number or a string. -/
theorem content_scalarToJson_reserved {text : String} (h : Reserved text) :
    (∀ x,content (scalarToJson text)≠.float x) ∧ ∀ s,content (scalarToJson text)≠.str s := by
  rcases h with rfl|rfl|rfl|rfl
  all_goals exact ⟨fun x hx => (nomatch hx),fun s hs => (nomatch hs)⟩

/-- A text is read as a number exactly if `strict_stod` accepts it. -/
theorem content_scalarToJson_float {text : String} {x : Double} :
    content (scalarToJson text)=.float x ↔ strictStod text=some x := by
  refine ⟨fun h => ?_,content_scalarToJson⟩
  by_cases hword : Reserved text
  · exact absurd h ((content_scalarToJson_reserved hword).1 x)
  · cases hnum : strictStod text with
    | none =>
      rw [scalarToJson_str hword hnum] at h
      cases h
    | some y =>
      rw [content_scalarToJson hnum] at h
      rw [Json.float.inj h]

/-- A text is read as itself exactly if it looks like nothing else. -/
theorem content_scalarToJson_str {text : String} :
    content (scalarToJson text)=.str text ↔ ¬Reserved text ∧ strictStod text=none := by
  constructor
  · intro h
    refine ⟨fun hword => (content_scalarToJson_reserved hword).2 text h,?_⟩
    cases hnum : strictStod text with
    | none => rfl
    | some y =>
      rw [content_scalarToJson hnum] at h
      cases h
  · rintro ⟨hword,hnum⟩
    rw [scalarToJson_str hword hnum]
    rfl

/-- A new field comes last. -/
theorem setField_of_notMem {V : Type*} {key : String} {fields : List (String×V)}
    (h : key∉fields.map Prod.fst) (value : V) :
    setField key value fields=fields++[(key,value)] := by
  induction fields with
  | nil => rfl
  | cons field rest ih =>
    simp only [List.map_cons,List.mem_cons,not_or] at h
    dsimp only [setField]
    rw [if_neg (Ne.symm h.1),ih h.2]
    rfl

/-- Assigning fields with distinct new keys one after another appends them. -/
theorem foldl_setField {V W : Type*} (f : V → W) (fields : List (String×V))
    (done : List (String×W)) (h : (done.map Prod.fst++fields.map Prod.fst).Nodup) :
    fields.foldl (fun done field => setField field.1 (f field.2) done) done=
      done++fields.map fun field => (field.1,f field.2) := by
  induction fields generalizing done with
  | nil => simp only [List.foldl_nil,List.map_nil,List.append_nil]
  | cons field rest ih =>
    have hnew : field.1∉done.map Prod.fst := by
      intro hmem
      exact (List.nodup_append.mp h).2.2 field.1 hmem field.1 List.mem_cons_self rfl
    rw [List.foldl_cons,setField_of_notMem hnew,ih _ (by simpa using h)]
    simp only [List.map_cons,List.append_assoc,List.singleton_append]

/-- The contents of the elements, elementwise. -/
theorem contentItems_eq (items : List Json) : contentItems items=items.map content := by
  induction items with
  | nil => rfl
  | cons item rest ih => simp only [contentItems,List.map_cons,ih]

/-- The contents of the fields, fieldwise. -/
theorem contentFields_eq (fields : List (String×Json)) :
    contentFields fields=fields.map fun field => (field.1,content field.2) := by
  induction fields with
  | nil => rfl
  | cons field rest ih =>
    obtain ⟨key,value⟩ := field
    simp only [contentFields,contentField,List.map_cons,ih]

/-- Reading a sequence reads its elements. -/
theorem itemsToJson_eq (items : List Yaml) (done : List Json) :
    itemsToJson done items=done++items.map yamlToJson := by
  induction items generalizing done with
  | nil => simp only [itemsToJson,List.map_nil,List.append_nil]
  | cons item rest ih =>
    simp only [itemsToJson,ih,List.map_cons,List.append_assoc,List.singleton_append]

/-- Reading a map assigns its fields one after another. -/
theorem fieldsToJson_eq (fields : List (String×Yaml)) (done : List (String×Json)) :
    fieldsToJson done fields=
      fields.foldl (fun done field => setField field.1 (yamlToJson field.2) done) done := by
  induction fields generalizing done with
  | nil => simp only [fieldsToJson,List.foldl_nil]
  | cons field rest ih =>
    obtain ⟨key,value⟩ := field
    simp only [fieldsToJson,fieldToJson,ih,List.foldl_cons]

section

variable (doubleText : Double → String)

/-- Pushing the elements of an array onto a sequence. -/
theorem pushItems_seq (items : List Json) (done : List Yaml) :
    pushItems doubleText (.seq done) items=.seq (done++items.map (jsonToYaml doubleText)) := by
  induction items generalizing done with
  | nil => simp only [pushItems,List.map_nil,List.append_nil]
  | cons item rest ih =>
    simp only [pushItems,Yaml.pushBack,ih,List.map_cons,List.append_assoc,List.singleton_append]

/-- Writing an object onto a map assigns its fields one after another. -/
theorem assignFields_map (fields : List (String×Json)) (done : List (String×Yaml)) :
    assignFields doubleText (.map done) fields=.map (fields.foldl
      (fun done field => setField field.1 (jsonToYaml doubleText field.2) done) done) := by
  induction fields generalizing done with
  | nil => simp only [assignFields,List.foldl_nil]
  | cons field rest ih =>
    obtain ⟨key,value⟩ := field
    simp only [assignFields,assignField,Yaml.assign,ih,List.foldl_cons]

/-- What is read back from a written value. -/
def readBack (j : Json) : Json := yamlToJson (jsonToYaml doubleText j)

/-- An empty array is read back as null. -/
theorem readBack_arr_nil : readBack doubleText (.arr [])=.null := rfl

/-- An empty object is read back as null. -/
theorem readBack_obj_nil : readBack doubleText (.obj [])=.null := rfl

/-- An array with elements is read back elementwise. -/
theorem readBack_arr {items : List Json} (hne : items≠[]) :
    readBack doubleText (.arr items)=.arr (items.map (readBack doubleText)) := by
  cases items with
  | nil => exact absurd rfl hne
  | cons item rest =>
    simp only [readBack,jsonToYaml,pushItems,Yaml.pushBack,pushItems_seq,yamlToJson,
      itemsToJson_eq,List.map_map,List.map_cons,List.nil_append,List.singleton_append]
    rfl

/-- An object with fields and distinct keys is read back fieldwise. -/
theorem readBack_obj {fields : List (String×Json)} (hne : fields≠[])
    (hkeys : (fields.map Prod.fst).Nodup) :
    readBack doubleText (.obj fields)=
      .obj (fields.map fun field => (field.1,readBack doubleText field.2)) := by
  cases fields with
  | nil => exact absurd rfl hne
  | cons field rest =>
    obtain ⟨key,value⟩ := field
    have hwrite : jsonToYaml doubleText (.obj ((key,value)::rest))=
        .map (((key,value)::rest).map fun field => (field.1,jsonToYaml doubleText field.2)) := by
      simp only [jsonToYaml,assignFields,assignField,Yaml.assign]
      rw [assignFields_map,foldl_setField _ rest _ (by simpa using hkeys)]
      rfl
    simp only [readBack]
    rw [hwrite]
    simp only [yamlToJson]
    rw [fieldsToJson_eq,foldl_setField _ _ [] (by simpa [Function.comp_def] using hkeys)]
    simp only [List.nil_append,List.map_map,Function.comp_def]

/-- An array keeps its content exactly if it is readable, once its elements do. -/
theorem content_readBack_arr {items : List Json} (h : ∀ j∈items,
    content (readBack doubleText j)=content j ↔ Readable doubleText j) :
    content (readBack doubleText (.arr items))=content (.arr items) ↔
      Readable doubleText (.arr items) := by
  by_cases hne : items=[]
  · subst hne
    rw [readBack_arr_nil]
    refine iff_of_false (fun hc => (nomatch hc)) ?_
    rintro (_|_|_|_|_|⟨hc,-⟩)
    exact hc rfl
  · rw [readBack_arr doubleText hne]
    simp only [content,contentItems_eq,List.map_map,Json.arr.injEq,List.map_inj_left,
      Function.comp_apply]
    constructor
    · intro hsame
      exact .arr hne fun j hj => (h j hj).mp (hsame j hj)
    · rintro (_|_|_|_|_|⟨-,hread⟩) j hj
      exact (h j hj).mpr (hread j hj)

/-- An object with distinct keys keeps its content exactly if it is readable,
once its fields do. -/
theorem content_readBack_obj {fields : List (String×Json)}
    (hkeys : (fields.map Prod.fst).Nodup) (h : ∀ field∈fields,
      content (readBack doubleText field.2)=content field.2 ↔ Readable doubleText field.2) :
    content (readBack doubleText (.obj fields))=content (.obj fields) ↔
      Readable doubleText (.obj fields) := by
  by_cases hne : fields=[]
  · subst hne
    rw [readBack_obj_nil]
    refine iff_of_false (fun hc => (nomatch hc)) ?_
    rintro (_|_|_|_|_|_|⟨hc,-⟩)
    exact hc rfl
  · rw [readBack_obj doubleText hne hkeys]
    simp only [content,contentFields_eq,List.map_map,Json.obj.injEq,List.map_inj_left,
      Function.comp_apply,Prod.mk.injEq,true_and]
    constructor
    · intro hsame
      exact .obj hne fun f hf => (h f hf).mp (hsame f hf)
    · rintro (_|_|_|_|_|_|⟨-,hread⟩) f hf
      exact (h f hf).mpr (hread f hf)

/-- Writing and reading keeps the content of an admitted value exactly if it is
readable, whatever exact text the library has for doubles. -/
theorem content_readBack (hexact : ∀ x,IsDouble x →
      ∀ y,strictStod (doubleText x)=some y → y=x) (j : Json) (hj : Admitted j) :
    content (readBack doubleText j)=content j ↔ Readable doubleText j := by
  induction j using Json.induction with
  | null => exact iff_of_true rfl .null
  | bool b =>
    refine iff_of_true ?_ (.bool b)
    cases b with
    | false => rfl
    | true => rfl
  | int n =>
    cases hj with
    | int hlo hhi => exact iff_of_true (content_scalarToJson (strictStod_toString hlo hhi)) (.int n)
  | float x =>
    cases hj with
    | float hx =>
      have hread : content (readBack doubleText (.float x))=.float x ↔
          strictStod (doubleText x)=some x := content_scalarToJson_float
      refine hread.trans ⟨fun h => ?_,?_⟩
      · exact .float (by rw [h]; rfl)
      · rintro (_|_|_|h)
        obtain ⟨y,hy⟩ := Option.isSome_iff_exists.mp h
        rw [hy,hexact x hx y hy]
  | str s =>
    refine content_scalarToJson_str.trans ⟨fun h => .str h.1 h.2,?_⟩
    rintro (_|_|_|_|⟨hword,hnum⟩)
    exact ⟨hword,hnum⟩
  | arr items ih =>
    cases hj with
    | arr hitems => exact content_readBack_arr doubleText fun j hj => ih j hj (hitems j hj)
  | obj fields ih =>
    cases hj with
    | obj hkeys hfields =>
      exact content_readBack_obj doubleText hkeys fun f hf => ih f hf (hfields f hf)

variable {Config : Type*} (toJson : Config → Json) (fromJson : Json → Option Config)

/-- `ConfigManager::save`: the document written for the present configuration. -/
def save (data : Config) : Yaml := jsonToYaml doubleText (toJson data)

/-- `ConfigManager::load` of a document without a base entry; `none` stands for
an exception of the generated reader. -/
def load (document : Yaml) : Option Config := fromJson (yamlToJson document)

/-- Saving and loading keeps the content of the configuration at every path
exactly if it is readable, and then loading restores the configuration. The
generated reader finds a configuration in every value with its content. -/
theorem load_after_save (hexact : ∀ x,IsDouble x → ∀ y,strictStod (doubleText x)=some y → y=x)
    (hpair : ∀ c j,content j=content (toJson c) → fromJson j=some c)
    (data : Config) (hdata : Admitted (toJson data)) :
    (content (yamlToJson (save doubleText toJson data))=content (toJson data) ↔
      Readable doubleText (toJson data)) ∧
    (Readable doubleText (toJson data) → load fromJson (save doubleText toJson data)=some data) :=
  have hcontent := content_readBack doubleText hexact (toJson data) hdata
  ⟨hcontent,fun h => hpair data _ (hcontent.mpr h)⟩

end

/-- Some fields of `SystemConfig`. -/
structure SystemConfig where
  /-- `fcu_timeout`. -/
  fcuTimeout : ℚ
  /-- `log_dir`. -/
  logDir : String
  /-- `server_port`. -/
  serverPort : ℤ

namespace SystemConfig

/-- Their object. -/
def toJson (c : SystemConfig) : Json :=
  .obj [("fcu_timeout",.float (.finite c.fcuTimeout)),("log_dir",.str c.logDir),
    ("server_port",.int c.serverPort)]

/-- `get<double>`. -/
def number? : Json → Option ℚ
  | .int n => some n
  | .float (.finite x) => some x
  | _ => none

/-- `get<std::string>`. -/
def string? : Json → Option String
  | .str s => some s
  | _ => none

/-- Reading the fields; an integer field drops a fraction. -/
def fromJson : Json → Option SystemConfig
  | .obj fields => do
    let fcuTimeout ← (Json.find? fields "fcu_timeout").bind number?
    let logDir ← (Json.find? fields "log_dir").bind string?
    let serverPort ← (Json.find? fields "server_port").bind number?
    some ⟨fcuTimeout,logDir,serverPort.num.tdiv serverPort.den⟩
  | _ => none

/-- A value with the content of a number is read as that number. -/
theorem number?_of_content {j : Json} {x : ℚ} (h : content j=.float (.finite x)) :
    number? j=some x := by
  cases j with
  | int n => rw [Double.finite.inj (Json.float.inj h).symm]; rfl
  | float y => rw [Json.float.inj h]; rfl
  | _ => cases h

/-- A value with the content of a string is that string. -/
theorem string?_of_content {j : Json} {s : String} (h : content j=.str s) :
    string? j=some s := by
  cases j with
  | str t => rw [Json.str.inj h]; rfl
  | _ => cases h

/-- Reading finds the configuration in every value with its content. -/
theorem fromJson_of_content (c : SystemConfig) (j : Json) (h : content j=content (toJson c)) :
    fromJson j=some c := by
  cases j with
  | obj fields =>
    simp only [content,toJson,contentFields_eq,Json.obj.injEq,List.map_cons,List.map_nil,
      List.map_eq_cons_iff,List.map_eq_nil_iff,Prod.mk.injEq] at h
    obtain ⟨⟨k₁,v₁⟩,-,rfl,⟨rfl,h₁⟩,⟨k₂,v₂⟩,-,rfl,⟨rfl,h₂⟩,⟨k₃,v₃⟩,-,rfl,⟨rfl,h₃⟩,rfl⟩ := h
    simp [fromJson,Json.find?,number?_of_content h₁,string?_of_content h₂,
      number?_of_content h₃]
  | _ => cases h

end SystemConfig

/-- The defaults of these fields. -/
def defaults : SystemConfig := ⟨5,"logs/my_log.txt",8000⟩

/-- The library's text of the one double in them. -/
def defaultsText (x : Double) : String := if x=.finite 5 then "5" else ""

/-- The text is exact. -/
theorem defaultsText_exact (x : Double) (_ : IsDouble x) (y : Double)
    (h : strictStod (defaultsText x)=some y) : y=x := by
  dsimp only [defaultsText] at h
  split at h
  · rename_i hx
    rw [strictStod_of_strictStoi (show strictStoi "5"=some 5 by decide)] at h
    rw [hx,←Option.some.inj h]
    rfl
  · rw [show strictStod ""=none by decide] at h
    cases h

/-- The defaults survive saving and loading. -/
theorem defaults_restored :
    content (yamlToJson (save defaultsText SystemConfig.toJson defaults))=
      content (SystemConfig.toJson defaults) ∧
    load SystemConfig.fromJson (save defaultsText SystemConfig.toJson defaults)=some defaults := by
  have hfive : toDouble 5=some 5 := toDouble_intCast (n:=5) (by decide)
  have hadmitted : Admitted defaults.toJson := by
    refine .obj (by decide) fun field hfield => ?_
    simp only [List.mem_cons,List.not_mem_nil,or_false] at hfield
    rcases hfield with rfl|rfl|rfl
    · exact .float hfive
    · exact .str _
    · exact .int (by decide) (by decide)
  have hreadable : Readable defaultsText defaults.toJson := by
    refine .obj (by simp) fun field hfield => ?_
    simp only [List.mem_cons,List.not_mem_nil,or_false] at hfield
    rcases hfield with rfl|rfl|rfl
    · refine .float ?_
      dsimp only [defaults,defaultsText]
      rw [if_pos rfl,strictStod_of_strictStoi (show strictStoi "5"=some 5 by decide)]
      rfl
    · exact .str (by simp [Reserved,defaults]) (by decide)
    · exact .int _
  have h := load_after_save defaultsText SystemConfig.toJson SystemConfig.fromJson
    defaultsText_exact SystemConfig.fromJson_of_content defaults hadmitted
  exact ⟨h.1.mpr hreadable,h.2 hreadable⟩

/-- A device code of digits and an empty list of topics. -/
def misread : Json := .obj [("device_code",.str "0042"),("record_topics",.arr [])]

/-- The code becomes a number and the list becomes null. -/
theorem readBack_misread (doubleText : Double → String) :
    readBack doubleText misread=.obj [("device_code",.int 42),("record_topics",.null)] := by
  have hint : strictStoi "0042"=some 42 := by decide
  rw [misread,readBack_obj doubleText (by simp) (by decide)]
  simp [readBack,jsonToYaml,yamlToJson,scalarToJson,hint,pushItems]

/-- Saving and loading does not keep the content of every configuration. -/
theorem misread_changed :
    ¬∀ (doubleText : Double → String),
      (∀ x,IsDouble x → ∀ y,strictStod (doubleText x)=some y → y=x) →
      ∀ j,Admitted j → content (yamlToJson (jsonToYaml doubleText j))=content j := by
  intro h
  have hadmitted : Admitted misread := by
    refine .obj (by decide) fun field hfield => ?_
    simp only [List.mem_cons,List.not_mem_nil,or_false] at hfield
    rcases hfield with rfl|rfl
    · exact .str _
    · exact .arr fun j hj => (nomatch hj)
  have hsame := h defaultsText defaultsText_exact misread hadmitted
  change content (readBack defaultsText misread)=_ at hsame
  rw [readBack_misread] at hsame
  simp [misread,content,contentFields,contentField] at hsame

end Dankong.Config

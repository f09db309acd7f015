import Dankong.ConfigFile
import Dankong.Pursuit

/-!
# Inheritance between configuration files

`YamlHelper::load_with_base` reads a file, follows its `base` entry to the file it is
derived from, and merges the derived document over the base. A directory is a list of
files; how a path is put together from the directory of a file and a name is left to
the file system library. Documents have no anchors, and their keys are texts.
-/

namespace Dankong.Config

open Pursuit

/-- The suffix of an appending key. -/
def appendSuffix : List Char := "__append".toList

/-- The key that an appending key stands for; other keys have none. -/
def realKey (key : String) : Option String :=
  if appendSuffix.length<key.toList.length ∧ appendSuffix <:+ key.toList then
    some (String.ofList (key.toList.take (key.toList.length-appendSuffix.length)))
  else none

/-- The value of a field. -/
def getField {V : Type*} (key : String) : List (String×V) → Option V
  | [] => none
  | field::rest => if field.1=key then some field.2 else getField key rest

/-- `node.remove`: the first field with the key goes. -/
def removeField {V : Type*} (key : String) : List (String×V) → List (String×V)
  | [] => []
  | field::rest => if field.1=key then rest else field::removeField key rest

/-- The value of a key to which a value is appended: a list behind a list, and
otherwise the value itself. -/
def appended : Option Yaml → Yaml → Yaml
  | some (.seq items),.seq more => .seq (items++more)
  | _,value => value

mutual

/-- `deep_merge` into a node, or the assignment where there is none: maps are merged, and
anything else is replaced. -/
def mergeValue (target : Option Yaml) : Yaml → Yaml
  | .map fields =>
    match target with
    | some (.map kept) => .map (mergeFields kept fields)
    | _ => .map fields
  | value => value

/-- The loop over the fields of the source. -/
def mergeFields (kept : List (String×Yaml)) : List (String×Yaml) → List (String×Yaml)
  | [] => kept
  | field::rest => mergeFields (mergeField kept field) rest

/-- One turn of that loop. -/
def mergeField (kept : List (String×Yaml)) : String×Yaml → List (String×Yaml)
  | (key,value) =>
    match realKey key with
    | some name => setField name (appended (getField name kept) value) kept
    | none => setField key (mergeValue (getField key kept) value) kept

end

/-- `deep_merge`. -/
def deepMerge (target source : Yaml) : Yaml := mergeValue (some target) source

/-- Why a document cannot be loaded. -/
inductive LoadError where
  /-- The file does not exist. -/
  | notFound (message : String)
  /-- `LoadFile` refuses it. -/
  | unreadable (message : String)
  /-- A scalar has no fields. -/
  | badSubscript
  /-- The base entry is no text. -/
  | badConversion
  deriving DecidableEq, Repr

/-- A directory of files. -/
structure Directory (Path : Type) where
  /-- The files, with what `LoadFile` makes of them. -/
  files : List (Path×Except String Yaml)
  /-- A name in the directory of a path: `parent_path() / name`. -/
  sibling : Path → String → Path
  /-- `string()` of a path. -/
  text : Path → String

/-- A node that is asked for a field: an empty node and a sequence become maps. -/
def asMap : Yaml → Except LoadError (List (String×Yaml))
  | .null => .ok []
  | .scalar _ => .error .badSubscript
  | .seq items => .ok (items.mapIdx fun i item => (toString i,item))
  | .map fields => .ok fields

/-- `as<std::string>()`. -/
def asString : Yaml → Except LoadError String
  | .null => .ok "null"
  | .scalar text => .ok text
  | .seq _ => .error .badConversion
  | .map _ => .error .badConversion

section

variable {Path : Type} [DecidableEq Path] (dir : Directory Path)

/-- The existence check and `LoadFile`. -/
def readFile (path : Path) : Except LoadError Yaml :=
  match dir.files.find? fun file => decide (file.1=path) with
  | none => .error (.notFound ("File not found: "++dir.text path))
  | some (_,.error message) => .error (.unreadable message)
  | some (_,.ok document) => .ok document

/-- The document of a file, with the path of its base if it names one. -/
def openFile (path : Path) : Except LoadError (List (String×Yaml)×Option Path) := do
  let document ← readFile dir path
  let current ← asMap document
  match getField "base" current with
  | none => return (current,none)
  | some entry =>
    let name ← asString entry
    return (current,some (dir.sibling path name))

/-- A derived document over its base, without the mark. -/
def inherit (base : Yaml) (current : List (String×Yaml)) : Yaml :=
  match deepMerge base (.map current) with
  | .map fields => .map (removeField "base" fields)
  | node => node

/-- `load_with_base`; the fuel bounds the depth of the recursion. -/
def loadWithBase : ℕ → Path → Option (Except LoadError Yaml)
  | 0,_ => none
  | fuel+1,path =>
    match openFile dir path with
    | .error e => some (.error e)
    | .ok (current,none) => some (.ok (.map current))
    | .ok (current,some base) =>
      (loadWithBase fuel base).map fun loaded => loaded.map fun node => inherit node current

/-- The file that a file is derived from. -/
def baseOf (path : Path) : Option Path :=
  match openFile dir path with
  | .ok (_,base) => base
  | .error _ => none

/-- The recursion ends, with a document or an error. -/
def Returns (path : Path) : Prop := ∃ fuel outcome,loadWithBase dir fuel path=some outcome

/-- A document is loaded. -/
def Loads (path : Path) (node : Yaml) : Prop := ∃ fuel,loadWithBase dir fuel path=some (.ok node)

variable {dir}

/-- The recursion follows the base entries. -/
theorem loadWithBase_eq_none_iff (fuel : ℕ) (path : Path) :
    loadWithBase dir fuel path=none ↔ follow (baseOf dir) fuel path≠none := by
  induction fuel generalizing path with
  | zero => exact iff_of_true rfl (Option.some_ne_none path)
  | succ fuel ih =>
    rw [loadWithBase,follow,baseOf]
    cases openFile dir path with
    | error e => exact iff_of_false (Option.some_ne_none _) fun h => h rfl
    | ok opened =>
      obtain ⟨current,base⟩ := opened
      cases base with
      | none => exact iff_of_false (Option.some_ne_none _) fun h => h rfl
      | some base =>
        dsimp only
        rw [Option.map_eq_none_iff,Option.bind_some]
        exact ih base

/-- It ends exactly if they do. -/
theorem returns_iff_ends (path : Path) : Returns dir path ↔ Ends (baseOf dir) path := by
  refine exists_congr fun fuel => ?_
  rw [←Option.isSome_iff_exists,Option.isSome_iff_ne_none]
  exact (loadWithBase_eq_none_iff fuel path).not.trans not_not

/-- A file that names a base is one of the directory. -/
theorem mem_files_of_baseOf {path : Path} (h : (baseOf dir path).isSome=true) :
    path∈dir.files.map Prod.fst := by
  cases hfound : dir.files.find? fun file => decide (file.1=path) with
  | some file =>
    have hpath := List.find?_some hfound
    rw [decide_eq_true_eq] at hpath
    exact List.mem_map.mpr ⟨file,List.mem_of_find?_eq_some hfound,hpath⟩
  | none =>
    have hmissing : openFile dir path=.error (.notFound ("File not found: "++dir.text path)) := by
      rw [openFile,readFile,hfound]
      rfl
    rw [baseOf,hmissing] at h
    cases h

/-- Loading returns exactly if no file is met twice on the way along the base entries. -/
theorem returns_iff (dir : Directory Path) (path : Path) :
    Returns dir path ↔ MeetsOnce (baseOf dir) path := by
  have hdomain : ∀ b,(baseOf dir b).isSome=true → b∈(dir.files.map Prod.fst).toFinset :=
    fun b hb => List.mem_toFinset.mpr (mem_files_of_baseOf hb)
  rw [returns_iff_ends,ends_iff_meetsOnce _ hdomain]

end

/-- A file that names itself as its base. -/
def selfBased : Directory String where
  files := [("a.yaml",.ok (.map [("base",.scalar "a.yaml")]))]
  sibling := fun _ name => name
  text := id

/-- It is never loaded. -/
theorem selfBased_runs_forever : ¬Returns selfBased "a.yaml" := by
  have hopen : openFile selfBased "a.yaml"=
      .ok ([("base",.scalar "a.yaml")],some "a.yaml") := rfl
  rintro ⟨fuel,outcome,h⟩
  induction fuel generalizing outcome with
  | zero => cases h
  | succ fuel ih =>
    rw [loadWithBase,hopen] at h
    obtain ⟨loaded,hloaded,_⟩ := Option.map_eq_some_iff.mp h
    exact ih loaded hloaded

end Dankong.Config

import Dankong.Numerals

/-!
# JSON values

The values of `nlohmann::json` as the program uses them. Integers and floating
point numbers are kept apart, objects are lists of fields in the order of their
keys, and iterating over a value that is neither an array nor an object yields
the value itself.
-/

namespace Dankong

open Numerals

/-- A JSON value. -/
inductive Json
  /-- `null`. -/
  | null
  /-- A boolean. -/
  | bool (b : Bool)
  /-- An integer number. -/
  | int (n : ℤ)
  /-- A floating point number. -/
  | float (x : Double)
  /-- A string. -/
  | str (s : String)
  /-- An array. -/
  | arr (items : List Json)
  /-- An object. -/
  | obj (fields : List (String×Json))

namespace Json

/-- The member of an object under a key. -/
def find? (fields : List (String×Json)) (key : String) : Option Json :=
  (fields.find? fun field => field.1=key).map Prod.snd

/-- What a range-based `for` visits: elements of an array, values of an object,
nothing in `null`, and any other value once. -/
def elements : Json → List Json
  | .null => []
  | .arr items => items
  | .obj fields => fields.map Prod.snd
  | j => [j]

/-- `j.value(key, fallback)` at type string. It throws unless `j` is an object,
and throws on a member that is not a string; `none` stands for a throw. -/
def valueString (j : Json) (key fallback : String) : Option String :=
  match j with
  | .obj fields =>
    match find? fields key with
    | none => some fallback
    | some (.str s) => some s
    | some _ => none
  | _ => none

/-- Whether a member is absent or a string. -/
def StringIfPresent (fields : List (String×Json)) (key : String) : Prop :=
  ∀ v,find? fields key=some v → ∃ s,v=.str s

/-- Reading a string member of an object succeeds exactly if the member is
absent or a string. -/
theorem valueString_isSome_iff (fields : List (String×Json)) (key fallback : String) :
    (valueString (.obj fields) key fallback).isSome=true ↔ StringIfPresent fields key := by
  dsimp only [valueString,StringIfPresent]
  cases find? fields key with
  | none => exact ⟨fun _ v hv => (nomatch hv),fun _ => rfl⟩
  | some v =>
    cases v with
    | str s => exact ⟨fun _ w hw => ⟨s,(Option.some.inj hw).symm⟩,fun _ => rfl⟩
    | _ => exact ⟨fun h => (nomatch h),fun h => by obtain ⟨s,hs⟩ := h _ rfl; cases hs⟩

/-- Induction over values: arrays and objects may use the claim for every value
they hold. -/
@[elab_as_elim] theorem induction {motive : Json → Prop} (null : motive .null)
    (bool : ∀ b,motive (.bool b)) (int : ∀ n,motive (.int n)) (float : ∀ x,motive (.float x))
    (str : ∀ s,motive (.str s)) (arr : ∀ items,(∀ j∈items,motive j) → motive (.arr items))
    (obj : ∀ fields,(∀ field∈fields,motive field.2) → motive (.obj fields)) (j : Json) :
    motive j :=
  Json.rec (motive_1:=motive) (motive_2:=fun items => ∀ j∈items,motive j)
    (motive_3:=fun fields => ∀ field∈fields,motive field.2) (motive_4:=fun field => motive field.2)
    null bool int float str arr obj
    (fun _ h => (nomatch h))
    (fun _ _ hhead htail => List.forall_mem_cons.mpr ⟨hhead,htail⟩)
    (fun _ h => (nomatch h))
    (fun _ _ hhead htail => List.forall_mem_cons.mpr ⟨hhead,htail⟩)
    (fun _ _ h => h) j

end Json

end Dankong

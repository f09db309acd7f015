import Dankong.Json

/-!
# Setting parameters

A request lists parameters with their values. The listener answers it inside its
loop over the list, before each write, and nobody looks at what a write returns.
-/

namespace Dankong.ParamRequest

open Numerals

/-- `ApmParam`. -/
inductive ApmParam
  /-- An integer. -/
  | int (n : ℤ)
  /-- A double. -/
  | double (x : Double)
  /-- A string. -/
  | string (s : String)

/-- A value as it is sent to the flight controller. -/
inductive Written
  /-- `set_param_int`. -/
  | int (n : ℤ)
  /-- `set_param_float`. -/
  | float (x : Double)

/-- What the listener does with a request. -/
inductive ParamAction
  /-- The event is resolved or rejected. -/
  | settle (result : Except String String)
  /-- A parameter is written, and the flight controller accepts it or not. -/
  | wrote (name : String) (value : Written) (success : Bool)
  /-- The handler is left at an entry without a value. -/
  | threw

/-- `static_cast<float>`: rounding to single precision. -/
def toFloat : Double → Double
  | .finite x =>
    if x=0 then .finite 0
    else
      let quantum : ℚ := 2^max (Int.log 2 |x|-23) (-149)
      let y := nearestEven (x/quantum)*quantum
      if 2^128≤|y| then .infinite (decide (x<0)) else .finite y
  | x => x

/-- `v["value"]` of an entry. `none` stands for an entry without such a member: reading it
throws, or is undefined where the entry is an object. -/
def value? : Json → Option Json
  | .obj fields => Json.find? fields "value"
  | _ => none

/-- The parameter that a value becomes; `none` stands for other kinds of values.
`get<int>` keeps the low 32 bits. -/
def toParam : Json → Option ApmParam
  | .str s => some (.string s)
  | .int n => some (.int (n.bmod (2^32)))
  | .float x => some (.double x)
  | _ => none

/-- `MavsdkDrone::set_param`, with the outcome of the write. A string is not written. -/
def setParam (ok : Bool) (name : String) : ApmParam → List ParamAction
  | .int n => [.wrote name (.int n) ok]
  | .double x => [.wrote name (.float (toFloat x)) ok]
  | .string _ => []

/-- `on_event(SetParamEvent)` over the entries from index `i`, in the order of their
names; `ok` tells the outcome of each write. -/
def onSetParam (ok : ℕ → Bool) : ℕ → List (String×Json) → List ParamAction
  | _,[] => []
  | i,(k,v)::rest =>
    match value? v with
    | none => [.threw]
    | some j =>
      match toParam j with
      | none => [.settle (.error "Unknow data!")]
      | some param => .settle (.ok "OK")::(setParam (ok i) k param++onSetParam ok (i+1) rest)

/-- The event is settled. -/
def ParamAction.isSettle : ParamAction → Bool
  | .settle _ => true
  | _ => false

/-- A written value is the submitted one. -/
def Written.Represents : Written → Json → Prop
  | .int n,.int m => n=m
  | .float x,.float y => x=y
  | _,_ => False

/-- An entry lists a value of a kind that no parameter has. -/
def Unsupported (v : Json) : Prop := ∃ j,value? v=some j ∧ toParam j=none

/-- The request is settled exactly once, as a success only if everything was written as
submitted, and as an error without any write if a value has no supported kind. -/
structure AllOrNothing (fields : List (String×Json)) (actions : List ParamAction) : Prop where
  once : actions.countP ParamAction.isSettle=1
  success : (∃ text,.settle (.ok text)∈actions) → ∀ field∈fields,∃ j written,
    value? field.2=some j ∧ .wrote field.1 written true∈actions ∧ written.Represents j
  unsupported : (∃ field∈fields,Unsupported field.2) →
    (∃ text,.settle (.error text)∈actions) ∧ ∀ name written ok,.wrote name written ok∉actions

/-- A value that is written as submitted: an integer of 32 bits, or a number that single
precision represents. -/
def Survives (j : Json) : Prop :=
  (∃ n,j=.int n ∧ -2^31≤n ∧ n<2^31) ∨ ∃ x,j=.float x ∧ toFloat x=x

/-- The first entry has a value of an unsupported kind, or it is the only entry, its value
survives the write and the write succeeds. -/
def RejectedOrSingle (ok : ℕ → Bool) : List (String×Json) → Prop
  | [] => False
  | (_,v)::rest => Unsupported v ∨
    (rest=[] ∧ ok 0=true ∧ ∃ j,value? v=some j ∧ Survives j)

variable {ok : ℕ → Bool} {i : ℕ} {k : String} {v j : Json} {rest : List (String×Json)}

/-- An integer of 32 bits, and no other, keeps its value. -/
theorem bmod_eq_self_iff (n : ℤ) : n.bmod (2^32)=n ↔ -2^31≤n ∧ n<2^31 := by
  rw [Int.bmod_def]
  split
  · omega
  · omega

/-- Where a value survives the write, that value is written. -/
theorem setParam_survives_iff (b : Bool) {param : ApmParam} (h : toParam j=some param) :
    (∃ written,.wrote k written true∈setParam b k param ∧ written.Represents j) ↔
      b=true ∧ Survives j := by
  cases j with
  | str s =>
    cases h
    constructor
    · rintro ⟨written,hmem,_⟩
      cases hmem
    · rintro ⟨_,⟨n,hn,_⟩|⟨x,hx,_⟩⟩
      · cases hn
      · cases hx
  | int n =>
    cases h
    constructor
    · rintro ⟨written,hmem,hrep⟩
      cases List.mem_singleton.mp hmem
      exact ⟨rfl,Or.inl ⟨n,rfl,(bmod_eq_self_iff n).mp hrep⟩⟩
    · rintro ⟨rfl,⟨m,hm,hrange⟩|⟨x,hx,_⟩⟩
      · cases hm
        exact ⟨_,List.mem_singleton_self _,(bmod_eq_self_iff n).mpr hrange⟩
      · cases hx
  | float x =>
    cases h
    constructor
    · rintro ⟨written,hmem,hrep⟩
      cases List.mem_singleton.mp hmem
      exact ⟨rfl,Or.inr ⟨x,rfl,hrep⟩⟩
    · rintro ⟨rfl,⟨m,hm,_⟩|⟨y,hy,hfloat⟩⟩
      · cases hm
      · cases hy
        exact ⟨_,List.mem_singleton_self _,hfloat⟩
  | _ => cases h

/-- An entry without a value ends the handler. -/
theorem onSetParam_threw (h : value? v=none) : onSetParam ok i ((k,v)::rest)=[.threw] := by
  rw [onSetParam,h]

/-- A value of an unsupported kind rejects the event and ends the handler. -/
theorem onSetParam_reject (h : value? v=some j) (hj : toParam j=none) :
    onSetParam ok i ((k,v)::rest)=[.settle (.error "Unknow data!")] := by
  rw [onSetParam,h]
  dsimp only
  rw [hj]

/-- Any other value is answered with success and written. -/
theorem onSetParam_write (h : value? v=some j) {param : ApmParam} (hj : toParam j=some param) :
    onSetParam ok i ((k,v)::rest)=
      .settle (.ok "OK")::(setParam (ok i) k param++onSetParam ok (i+1) rest) := by
  rw [onSetParam,h]
  dsimp only
  rw [hj]

/-- Writing a parameter settles nothing. -/
theorem countP_setParam (b : Bool) (name : String) (param : ApmParam) :
    (setParam b name param).countP ParamAction.isSettle=0 := by
  cases param <;> rfl

/-- Only a list that is empty or begins with an entry without a value settles nothing. -/
theorem countP_onSetParam_eq_zero (h : (onSetParam ok i rest).countP ParamAction.isSettle=0) :
    rest=[] ∨ ∃ name entry tail,rest=(name,entry)::tail ∧ value? entry=none := by
  cases rest with
  | nil => exact Or.inl rfl
  | cons field tail =>
    obtain ⟨name,entry⟩ := field
    refine Or.inr ⟨name,entry,tail,rfl,?_⟩
    cases hvalue : value? entry with
    | none => rfl
    | some j =>
      cases hparam : toParam j with
      | none =>
        rw [onSetParam_reject hvalue hparam] at h
        cases h
      | some param =>
        rw [onSetParam_write hvalue hparam,List.countP_cons_of_pos rfl] at h
        cases h

/-- A request of one parameter of a supported kind is handled as asked for exactly if its
value survives the write and the write succeeds. -/
theorem allOrNothing_single (hvalue : value? v=some j) {param : ApmParam}
    (hparam : toParam j=some param) :
    AllOrNothing [(k,v)] (onSetParam ok 0 [(k,v)]) ↔ ok 0=true ∧ Survives j := by
  rw [←setParam_survives_iff (ok 0) (k := k) hparam,onSetParam_write hvalue hparam,onSetParam,
    List.append_nil]
  constructor
  · intro h
    obtain ⟨j',written,hj',hmem,hrep⟩ :=
      h.success ⟨"OK",List.mem_cons_self⟩ (k,v) (List.mem_singleton_self _)
    obtain rfl : j=j' := Option.some.inj (hvalue.symm.trans hj')
    rcases List.mem_cons.mp hmem with hsettle|hwrote
    · cases hsettle
    · exact ⟨written,hwrote,hrep⟩
  · rintro ⟨written,hmem,hrep⟩
    constructor
    · rw [List.countP_cons_of_pos rfl,countP_setParam]
    · intro _ field hfield
      rw [List.mem_singleton.mp hfield]
      exact ⟨j,written,hvalue,List.mem_cons_of_mem _ hmem,hrep⟩
    · rintro ⟨field,hfield,j',hj',hnone⟩
      rw [List.mem_singleton.mp hfield] at hj'
      obtain rfl : j=j' := Option.some.inj (hvalue.symm.trans hj')
      rw [hparam] at hnone
      cases hnone

/-- A request that begins with a parameter of a supported kind is handled as asked for only
if that is its only one. -/
theorem rest_eq_nil_of_allOrNothing (hvalue : value? v=some j) {param : ApmParam}
    (hparam : toParam j=some param)
    (h : AllOrNothing ((k,v)::rest) (onSetParam ok 0 ((k,v)::rest))) : rest=[] := by
  have honce := h.once
  rw [onSetParam_write hvalue hparam,List.countP_cons_of_pos rfl,List.countP_append,
    countP_setParam] at honce
  have hrest : (onSetParam ok (0+1) rest).countP ParamAction.isSettle=0 := by omega
  rcases countP_onSetParam_eq_zero hrest with hnil|⟨name,entry,tail,rfl,hnone⟩
  · exact hnil
  · -- the answer has been success, but the entry without a value was never written
    have hanswer : ∃ text,.settle (.ok text)∈onSetParam ok 0 ((k,v)::(name,entry)::tail) := by
      rw [onSetParam_write hvalue hparam]
      exact ⟨"OK",List.mem_cons_self⟩
    obtain ⟨j',_,hj',_⟩ :=
      h.success hanswer (name,entry) (List.mem_cons_of_mem _ List.mem_cons_self)
    rw [hnone] at hj'
    cases hj'

/-- For every object of parameters and all outcomes of the writes, the request is all or
nothing and answered exactly once exactly if it is rejected at its first entry, or has one
entry that is written as submitted. -/
theorem allOrNothing_iff (ok : ℕ → Bool) (fields : List (String×Json)) :
    AllOrNothing fields (onSetParam ok 0 fields) ↔ RejectedOrSingle ok fields := by
  cases fields with
  | nil =>
    constructor
    · intro h
      cases h.once
    · exact False.elim
  | cons field rest =>
    obtain ⟨k,v⟩ := field
    cases hvalue : value? v with
    | none =>
      constructor
      · intro h
        have honce := h.once
        rw [onSetParam_threw hvalue] at honce
        cases honce
      · rintro (⟨j,hj,_⟩|⟨_,_,j,hj,_⟩)
        · rw [hvalue] at hj
          cases hj
        · rw [hvalue] at hj
          cases hj
    | some j =>
      cases hparam : toParam j with
      | none =>
        refine ⟨fun _ => Or.inl ⟨j,hvalue,hparam⟩,fun _ => ?_⟩
        rw [onSetParam_reject hvalue hparam]
        refine ⟨rfl,fun ⟨text,htext⟩ => ?_,
          fun _ => ⟨⟨_,List.mem_singleton_self _⟩,fun name written b hmem => ?_⟩⟩
        · cases List.mem_singleton.mp htext
        · cases List.mem_singleton.mp hmem
      | some param =>
        constructor
        · intro h
          obtain rfl := rest_eq_nil_of_allOrNothing hvalue hparam h
          obtain ⟨hok,hsurvives⟩ := (allOrNothing_single hvalue hparam).mp h
          exact Or.inr ⟨rfl,hok,j,hvalue,hsurvives⟩
        · rintro (⟨j',hj',hnone⟩|⟨rfl,hok,j',hj',hsurvives⟩)
          · obtain rfl : j=j' := Option.some.inj (hvalue.symm.trans hj')
            rw [hparam] at hnone
            cases hnone
          · obtain rfl : j=j' := Option.some.inj (hvalue.symm.trans hj')
            exact (allOrNothing_single hvalue hparam).mpr ⟨hok,hsurvives⟩

/-- A parameter with a value, and one whose value has no supported kind. -/
def mixedFields : List (String×Json) :=
  [("A",.obj [("value",.int 1)]),("B",.obj [("value",.null)])]

/-- The mixed request is answered with success, then written in part, then rejected; the
empty one is never answered. -/
theorem mixedFields_settledTwice :
    ¬AllOrNothing mixedFields (onSetParam (fun _ => true) 0 mixedFields) ∧
      ¬AllOrNothing [] (onSetParam (fun _ => true) 0 []) := by
  constructor
  · intro h
    have honce := h.once
    have htwice : (onSetParam (fun _ => true) 0 mixedFields).countP ParamAction.isSettle=2 := by
      decide
    rw [htwice] at honce
    cases honce
  · intro h
    cases h.once

end Dankong.ParamRequest

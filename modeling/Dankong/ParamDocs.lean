import Dankong.ConfigLayers
import Dankong.ParamRequest
import Dankong.TreeStack

/-!
# The documented parameters of the flight controller

The drone reads a documentation file once and shows each parameter of the flight
controller with its help. Where several elements document one parameter, the help is
that of the element closed first, because the loop reaches it last. The values shown
can be sent back unchanged.
-/

namespace Dankong.ParamDocs

open Numerals TreeStack Config ParamRequest

/-- What `XMLElement` says of an element, its children apart. -/
structure Tag where
  /-- `Name()`. -/
  name : String
  /-- Attributes by name. -/
  attributes : List (String×String) := []
  /-- `GetText()`. -/
  text : Option String := none

/-- `XMLElement`. -/
abbrev Element := OrderedTree Tag

/-- `Attribute(name)`, or the empty text. -/
def attributeOrEmpty (name : String) (el : Element) : String :=
  (getField name el.label.attributes).getD ""

/-- The part of a name after its last colon. -/
def afterColon (fullName : String) : String :=
  String.ofList (fullName.toList.reverse.takeWhile (fun c => c≠ ':')).reverse

/-- The name of the parameter that an element documents. -/
def paramName (el : Element) : String := afterColon (attributeOrEmpty "name" el)

/-- One line of the help. -/
def fieldText (field : Element) : String :=
  attributeOrEmpty "name" field++": "++field.label.text.getD ""

/-- The help of a parameter: its documentation, then its fields. -/
def helpText (el : Element) : List String :=
  attributeOrEmpty "documentation" el::
    (el.children.filter fun child => child.label.name="field").map fieldText

/-- The body of the loop. -/
def visit (pdef : List (String×Json)) (el : Element) : List (String×Json) :=
  if el.label.name="param" then
    setField (paramName el)
      (.obj [("default",.null),("help",.arr ((helpText el).map Json.str))]) pdef
  else pdef

/-- `load_pdef`; no root stands for a file that is missing, ill-formed or empty. -/
def loadPdef : Option Element → List (String×Json)
  | none => []
  | some root => OrderedTree.drain visit [root] []

/-- A number of single precision. -/
def IsSingle : Double → Prop
  | .finite x => ∃ m e : ℤ,|m|<2^24 ∧ -149 ≤ e ∧ x=m*2^e ∧ |x|<2^128
  | _ => True

/-- The value of a parameter. -/
inductive ParamValue
  /-- An `int32_t`. -/
  | int (n : {n : ℤ // -2^31 ≤ n ∧ n<2^31})
  /-- A `float`. -/
  | float (x : {x : Double // IsSingle x})

/-- The value as it is shown. -/
def ParamValue.toJson : ParamValue → Json
  | .int n => .int n
  | .float x => .float x

/-- The value as it is written. -/
def ParamValue.toWritten : ParamValue → Written
  | .int n => .int n
  | .float x => .float x

/-- `Param::AllParams`. -/
structure AllParams where
  /-- `int_params`. -/
  ints : List (String×{n : ℤ // -2^31 ≤ n ∧ n<2^31})
  /-- `float_params`. -/
  floats : List (String×{x : Double // IsSingle x})

/-- All parameters, the integers first. -/
def AllParams.toList (fcu : AllParams) : List (String×ParamValue) :=
  fcu.ints.map (fun p => (p.1,.int p.2))++fcu.floats.map (fun p => (p.1,.float p.2))

/-- The group of a parameter: its key up to the first underscore, without numbers. -/
def groupOf (key : String) : String :=
  String.ofList ((key.toList.takeWhile (fun c => c≠ '_')).map
    fun c => if c.isDigit then 'X' else c)

/-- `process_param`. -/
def processParam (pdef : List (String×Json)) (key : String) (value : Json) : Json :=
  let help := match getField key pdef with
    | some (.obj fields) => (Json.find? fields "help").getD .null
    | some _ => .null
    | none => .arr [.str ""]
  .obj [("group",.arr [.str (groupOf key),.str key]),("help",help),("key",.str key),
    ("name",.str key),("value",value)]

/-- `get_all_params`. -/
def getAllParams (pdef : List (String×Json)) (fcu : AllParams) : List Json :=
  fcu.toList.map fun p => processParam pdef p.1 p.2.toJson

/-- An element documents a parameter. -/
def Documents (key : String) (el : Element) : Prop := el.label.name="param" ∧ paramName el=key

instance (key : String) (el : Element) : Decidable (Documents key el) :=
  inferInstanceAs (Decidable (_ ∧ _))

/-- The help that a document has for a parameter: that of the first element to be closed,
or an empty line. -/
def helpOf (doc : Option Element) (key : String) : List String :=
  match doc.bind fun root => (OrderedTree.closed root).find? (fun el => Documents key el) with
  | some el => helpText el
  | none => [""]

/-- An entry of the list shows a parameter. -/
structure Shows (doc : Option Element) (p : String×ParamValue) (entry : Json) : Prop where
  /-- Name, value and help are those of the parameter. -/
  entry : ∃ fields,entry=.obj fields ∧ Json.find? fields "key"=some (.str p.1) ∧
    Json.find? fields "value"=some p.2.toJson ∧
    Json.find? fields "help"=some (.arr ((helpOf doc p.1).map Json.str))

section

variable {key : String}

/-- What the elements visited leave under a name. -/
theorem getField_foldr_visit (els : List Element) :
    getField key (els.foldr (fun el pdef => visit pdef el) [])=
      (els.find? fun el => Documents key el).map fun el =>
        .obj [("default",.null),("help",.arr ((helpText el).map Json.str))] := by
  induction els with
  | nil => rfl
  | cons el rest ih =>
    rw [List.foldr_cons,visit,List.find?_cons]
    by_cases hparam : el.label.name="param"
    · rw [if_pos hparam,getField_setField,ih]
      by_cases hname : paramName el=key
      · rw [if_pos hname,decide_eq_true ⟨hparam,hname⟩]
        rfl
      · rw [if_neg hname,decide_eq_false fun h : Documents key el => hname h.2]
    · rw [if_neg hparam,ih,decide_eq_false fun h : Documents key el => hparam h.1]

/-- The documentation read from a file. -/
theorem getField_loadPdef (doc : Option Element) :
    getField key (loadPdef doc)=
      (doc.bind fun root => (OrderedTree.closed root).find? (fun el => Documents key el)).map fun el =>
        .obj [("default",.null),("help",.arr ((helpText el).map Json.str))] := by
  cases doc with
  | none => rfl
  | some root =>
    rw [loadPdef,OrderedTree.drain_eq,List.reverse_singleton,List.flatMap_singleton]
    exact getField_foldr_visit _

/-- An entry shows its parameter. -/
theorem shows_processParam (doc : Option Element) (p : String×ParamValue) :
    Shows doc p (processParam (loadPdef doc) p.1 p.2.toJson) := by
  refine ⟨⟨_,rfl,rfl,rfl,?_⟩⟩
  rw [getField_loadPdef,helpOf]
  cases doc.bind fun root => (OrderedTree.closed root).find? (fun el => Documents p.1 el) with
  | none => rfl
  | some el => rfl

end

/-- Whatever the documentation file holds, the list shows every parameter of the flight
controller once and in order, each with its value and with the help of the first element
to be closed that documents it. -/
theorem params_shown (doc : Option Element) (fcu : AllParams) :
    List.Forall₂ (Shows doc) fcu.toList (getAllParams (loadPdef doc) fcu) := by
  rw [getAllParams,List.forall₂_map_right_iff]
  exact List.forall₂_same.mpr fun p _ => shows_processParam doc p

/-- A number of single precision is not rounded. -/
theorem toFloat_single {x : Double} (h : IsSingle x) : toFloat x=x := by
  cases x with
  | infinite negative => rfl
  | nan => rfl
  | finite x =>
    obtain ⟨m,e,hm,he,hx,hlarge⟩ := h
    rw [toFloat]
    split
    · rename_i hzero
      rw [hzero]
    · rename_i hzero
      have hpow : (0 : ℚ)<2^e := zpow_pos two_pos e
      have hlog : Int.log 2 |x|-23 ≤ e := by
        have hbound : |x|<(2 : ℕ)^(e+24) := by
          rw [hx,abs_mul,abs_of_pos hpow,Nat.cast_ofNat,add_comm,
            zpow_add₀ (two_ne_zero : (2 : ℚ)≠0)]
          refine mul_lt_mul_of_pos_right ?_ hpow
          exact_mod_cast hm
        have hlt := (Int.lt_zpow_iff_log_lt one_lt_two (abs_pos.mpr hzero)).mp hbound
        omega
      have hquantum : ∃ n : ℤ,x=n*2^max (Int.log 2 |x|-23) (-149) := by
        refine ⟨m*2^(e-max (Int.log 2 |x|-23) (-149)).toNat,?_⟩
        have hle : max (Int.log 2 |x|-23) (-149) ≤ e := max_le hlog he
        rw [Int.cast_mul,Int.cast_pow,mul_assoc,←zpow_natCast,Int.cast_ofNat,
          Int.toNat_of_nonneg (by omega),←zpow_add₀ two_ne_zero,sub_add_cancel]
        exact hx
      obtain ⟨n,hn⟩ := hquantum
      have hpos : (0 : ℚ)<2^max (Int.log 2 |x|-23) (-149) := zpow_pos two_pos _
      have hround : (nearestEven (x/2^max (Int.log 2 |x|-23) (-149)) : ℚ)*
          2^max (Int.log 2 |x|-23) (-149)=x := by
        have hdiv : x/2^max (Int.log 2 |x|-23) (-149)=n := (div_eq_iff hpos.ne').mpr hn
        rw [hdiv,nearestEven_intCast]
        exact hn.symm
      dsimp only
      rw [hround,if_neg (not_le.mpr hlarge)]

/-- What an entry of the list becomes when it is sent back. -/
theorem setParam_shown (ok : Bool) (p : String×ParamValue) :
    (toParam p.2.toJson).map (setParam ok p.1)=some [.wrote p.1 p.2.toWritten ok] := by
  obtain ⟨key,⟨n,hn⟩|⟨x,hx⟩⟩ := p
  · have hbmod : n.bmod (2^32)=n := (bmod_eq_self_iff n).mpr hn
    rw [ParamValue.toJson,toParam,Option.map_some,setParam,hbmod,ParamValue.toWritten]
  · rw [ParamValue.toJson,toParam,Option.map_some,setParam,toFloat_single hx,
      ParamValue.toWritten]

/-- Entries of the list that are sent back as they are shown, in any selection and order,
are written one by one with the values read, integers as integers and floats as floats. -/
theorem shown_written_back (pdef : List (String×Json)) (ok : ℕ → Bool) (i : ℕ)
    (ps : List (String×ParamValue)) :
    onSetParam ok i (ps.map fun p => (p.1,processParam pdef p.1 p.2.toJson))=
      (ps.zipIdx i).flatMap fun q =>
        [.settle (.ok "OK"),.wrote q.1.1 q.1.2.toWritten (ok q.2)] := by
  induction ps generalizing i with
  | nil => rfl
  | cons p rest ih =>
    have hvalue : value? (processParam pdef p.1 p.2.toJson)=some p.2.toJson := rfl
    obtain ⟨param,hparam,hwrite⟩ := Option.map_eq_some_iff.mp (setParam_shown (ok i) p)
    rw [List.map_cons,onSetParam_write hvalue hparam,hwrite,ih,List.zipIdx_cons,
      List.flatMap_cons]
    rfl

end Dankong.ParamDocs

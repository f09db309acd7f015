import Mathlib.Data.Nat.Digits.Defs
import Dankong.PercentText

/-!
# Form bodies

`url_encode` writes a text through a stream whose formatting state is carried from
character to character. `send_request` joins the encoded keys and values of an object
with equals signs and ampersands, which the encoding never produces, so that splitting
and decoding gives the object back. Texts are lists of character codes.
-/

namespace Dankong.Request

open PercentText

/-- `std::ostringstream`, with the formatting state that the program touches. -/
structure OStringStream where
  /-- What has been written. -/
  text : List UInt8 := []
  /-- Width of the next piece; it holds for one piece. -/
  width : ℕ := 0
  /-- Fill character. -/
  fill : UInt8 := 32
  /-- Base of integers. -/
  base : ℕ := 10
  /-- Whether letters among the digits are upper case. -/
  uppercase : Bool := false

/-- `std::uppercase`. -/
def OStringStream.upper (s : OStringStream) : OStringStream := { s with uppercase := true }

/-- `std::setw`. -/
def OStringStream.setw (s : OStringStream) (n : ℕ) : OStringStream := { s with width := n }

/-- A piece is written, filled up on the left to the width, which is used up. -/
def OStringStream.emit (s : OStringStream) (piece : List UInt8) : OStringStream :=
  { s with
    text := s.text++(List.replicate (s.width-piece.length) s.fill++piece)
    width := 0 }

/-- `<<` with a character. -/
def OStringStream.putChar (s : OStringStream) (c : UInt8) : OStringStream := s.emit [c]

/-- A digit as the stream writes it. -/
def digitChar (uppercase : Bool) (d : ℕ) : UInt8 :=
  UInt8.ofNat (if d<10 then 48+d else if uppercase=true then 55+d else 87+d)

/-- `<<` with an integer that is not negative. -/
def OStringStream.putInt (s : OStringStream) (n : ℕ) : OStringStream :=
  s.emit ((if n=0 then [0] else (Nat.digits s.base n).reverse).map (digitChar s.uppercase))

/-- `std::isalnum` in the C locale. -/
def isAlnum (c : UInt8) : Bool :=
  decide (48≤c ∧ c≤57) || decide (65≤c ∧ c≤90) || decide (97≤c ∧ c≤122)

/-- The loop body of `url_encode`. -/
def urlEncodeByte (s : OStringStream) (c : UInt8) : OStringStream :=
  if isAlnum c=true ∨ c=45 ∨ c=95 ∨ c=46 ∨ c=126 then s.putChar c
  else ((s.upper.putChar 37).setw 2).putInt c.toNat

/-- `url_encode`. -/
def urlEncode (value : List UInt8) : List UInt8 :=
  (value.foldl urlEncodeByte { fill := 48, base := 16 }).text

/-- A member of a JSON object: a string, or another value. -/
inductive Member (V : Type)
  /-- A string. -/
  | str (text : List UInt8)
  /-- A value of another kind. -/
  | other (value : V)

section

variable {V : Type} (dump : V → Option (List UInt8))

/-- `val`: strings as they are, other values as their dump. `none` stands for an exception
of `dump`, after which there is no body. -/
def memberText : Member V → Option (List UInt8)
  | .str text => some text
  | .other value => dump value

/-- The loop body of the form branch of `send_request`. -/
def addField (formBody : List UInt8) (field : List UInt8×Member V) : Option (List UInt8) :=
  let formBody := if formBody≠[] then formBody++[38] else formBody
  (memberText dump field.2).map fun val => formBody++(urlEncode field.1++61::urlEncode val)

/-- The form branch of `send_request`: the body for the fields of an object. -/
def formBody (fields : List (List UInt8×Member V)) : Option (List UInt8) :=
  fields.foldlM (addField dump) []

end

/-- A key and its value, from the text between two ampersands. -/
def parsePair (piece : List UInt8) : Option (List UInt8×List UInt8) :=
  match piece.splitOn 61 with
  | [key,value] => do return (← decode key,← decode value)
  | _ => none

/-- The keys and values of a form body. -/
def parseForm (body : List UInt8) : Option (List (List UInt8×List UInt8)) :=
  (body.splitOn 38).mapM parsePair

/-- The stream before each character of `url_encode`. -/
structure Ready (s : OStringStream) : Prop where
  /-- No width is pending. -/
  width : s.width=0
  /-- Pieces are filled up with zeros. -/
  fill : s.fill=48
  /-- Integers are hexadecimal. -/
  base : s.base=16

/-- The characters that are kept are the unreserved ones. -/
theorem kept_iff (c : UInt8) :
    (isAlnum c=true ∨ c=45 ∨ c=95 ∨ c=46 ∨ c=126) ↔ Unreserved c := by
  simp only [isAlnum,Unreserved,Bool.or_eq_true,decide_eq_true_eq,List.mem_cons,List.not_mem_nil,
    or_false]
  tauto

/-- Without a pending width a character is written as it is. -/
theorem putChar_text {s : OStringStream} (h : s.width=0) (c : UInt8) :
    (s.putChar c).text=s.text++[c] := by
  dsimp only [OStringStream.putChar,OStringStream.emit]
  rw [h,Nat.zero_sub,List.replicate_zero,List.nil_append]

/-- Upper-case digits. -/
theorem digitChar_upper (d : ℕ) : digitChar true d=hexDigit d := by
  unfold digitChar hexDigit
  split <;> rfl

/-- A byte is written with two upper-case hexadecimal digits. -/
theorem putInt_text {s : OStringStream} (hwidth : s.width=2) (hfill : s.fill=48) (hbase : s.base=16)
    (hupper : s.uppercase=true) {n : ℕ} (hn : n<256) :
    (s.putInt n).text=s.text++[hexDigit (n/16),hexDigit (n%16)] := by
  dsimp only [OStringStream.putInt,OStringStream.emit]
  rw [hwidth,hfill,hbase,hupper]
  congr 1
  rcases Nat.eq_zero_or_pos n with rfl|hpos
  · rfl
  rw [if_neg hpos.ne']
  rcases lt_or_ge n 16 with hsmall|hlarge
  · -- one digit, and a zero before it
    rw [Nat.digits_of_lt 16 n hpos.ne' hsmall,Nat.div_eq_of_lt hsmall,Nat.mod_eq_of_lt hsmall,
      ←digitChar_upper,←digitChar_upper]
    rfl
  · have hhigh : n/16<16 := by omega
    have hne : n/16≠0 := by omega
    rw [Nat.digits_def' (by decide) hpos,Nat.digits_of_lt 16 (n/16) hne hhigh,←digitChar_upper,
      ←digitChar_upper]
    rfl

/-- One character: its encoding is written, and the stream is ready for the next one. -/
theorem urlEncodeByte_ready {s : OStringStream} (h : Ready s) (c : UInt8) :
    Ready (urlEncodeByte s c) ∧ (urlEncodeByte s c).text=s.text++encodeByte c := by
  unfold urlEncodeByte encodeByte
  by_cases hkept : Unreserved c
  · rw [if_pos ((kept_iff c).mpr hkept),if_pos hkept]
    exact ⟨⟨rfl,h.fill,h.base⟩,putChar_text h.width c⟩
  · rw [if_neg (mt (kept_iff c).mp hkept),if_neg hkept]
    refine ⟨⟨rfl,h.fill,h.base⟩,?_⟩
    -- the width is set after the percent sign, and the number uses it up
    have hsign : ((s.upper.putChar 37).setw 2).text=s.text++[37] := putChar_text h.width 37
    have hnumber := putInt_text (s:=(s.upper.putChar 37).setw 2) rfl h.fill h.base rfl c.toNat_lt
    rw [hnumber,hsign,List.append_assoc]
    rfl

/-- `url_encode` is percent encoding. -/
theorem urlEncode_eq (value : List UInt8) : urlEncode value=encode value := by
  have hrun : ∀ s,Ready s → (value.foldl urlEncodeByte s).text=s.text++encode value := by
    induction value with
    | nil => exact fun s _ => (List.append_nil s.text).symm
    | cons c rest ih =>
      intro s hs
      obtain ⟨hready,htext⟩ := urlEncodeByte_ready hs c
      rw [List.foldl_cons,ih _ hready,htext,List.append_assoc]
      rfl
  exact hrun _ ⟨rfl,rfl,rfl⟩

/-- A separator does not occur in an encoded text. -/
theorem notMem_urlEncode {a : UInt8} (ha : a=38 ∨ a=61) (value : List UInt8) :
    a∉urlEncode value := by
  rw [urlEncode_eq]
  rcases ha with rfl|rfl <;>
    exact notMem_of_escaped (by decide) (by decide) (by decide) (escaped_encode value)

section

variable {V : Type} {dump : V → Option (List UInt8)}

/-- A key and the text of its value. -/
def pairOf (dump : V → Option (List UInt8)) (field : List UInt8×Member V) :
    List UInt8×List UInt8 :=
  (field.1,(memberText dump field.2).getD [])

/-- The part of a body between two ampersands. -/
def pairText (pair : List UInt8×List UInt8) : List UInt8 := urlEncode pair.1++61::urlEncode pair.2

/-- A field whose value has a text is added behind an ampersand, unless it is the first. -/
theorem addField_eq {body : List UInt8} {field : List UInt8×Member V}
    (h : (memberText dump field.2).isSome=true) :
    addField dump body field=
      some ((if body≠[] then body++[38] else body)++pairText (pairOf dump field)) := by
  obtain ⟨val,hval⟩ := Option.isSome_iff_exists.mp h
  rw [addField,pairText,pairOf,hval]
  rfl

/-- The rest of a body is the rest of the fields, each behind an ampersand. -/
theorem foldlM_addField {fields : List (List UInt8×Member V)}
    (h : ∀ field∈fields,(memberText dump field.2).isSome=true) {body : List UInt8} (hne : body≠[]) :
    fields.foldlM (addField dump) body=
      some (body++fields.flatMap fun field => 38::pairText (pairOf dump field)) := by
  induction fields generalizing body with
  | nil => rw [List.flatMap_nil,List.append_nil]; rfl
  | cons field rest ih =>
    rw [List.forall_mem_cons] at h
    have hnext : body++[38]++pairText (pairOf dump field)≠[] := by simp
    rw [List.foldlM_cons,addField_eq h.1,if_pos hne]
    dsimp only [Option.bind_eq_bind,Option.bind_some]
    rw [ih h.2 hnext,List.flatMap_cons]
    simp only [List.append_assoc,List.cons_append,List.nil_append]

/-- Joining puts the separator before every piece but the first. -/
theorem intercalate_cons (a : UInt8) (piece : List UInt8) (pieces : List (List UInt8)) :
    [a].intercalate (piece::pieces)=piece++pieces.flatMap (a::·) := by
  induction pieces generalizing piece with
  | nil => rw [List.intercalate_singleton,List.flatMap_nil,List.append_nil]
  | cons next rest ih =>
    rw [List.intercalate_cons_cons,ih,List.flatMap_cons]
    simp only [List.append_assoc,List.cons_append,List.nil_append]

/-- A body is the fields joined with ampersands. -/
theorem formBody_eq {fields : List (List UInt8×Member V)}
    (h : ∀ field∈fields,(memberText dump field.2).isSome=true) :
    formBody dump fields=
      some ([38].intercalate (fields.map fun field => pairText (pairOf dump field))) := by
  cases fields with
  | nil => rfl
  | cons field rest =>
    rw [List.forall_mem_cons] at h
    have hne : pairText (pairOf dump field)≠[] := by simp [pairText]
    rw [formBody,List.foldlM_cons,addField_eq h.1,if_neg (not_not.mpr rfl)]
    dsimp only [Option.bind_eq_bind,Option.bind_some]
    rw [List.nil_append,foldlM_addField h.2 hne,List.map_cons,intercalate_cons,List.flatMap_map]

/-- A value without a text leaves no body. -/
theorem foldlM_eq_none {fields : List (List UInt8×Member V)}
    (h : ∃ field∈fields,memberText dump field.2=none) (body : List UInt8) :
    fields.foldlM (addField dump) body=none := by
  induction fields generalizing body with
  | nil => obtain ⟨field,hmem,_⟩ := h; cases hmem
  | cons field rest ih =>
    rw [List.exists_mem_cons_iff] at h
    rw [List.foldlM_cons]
    rcases h with hfirst|hrest
    · rw [addField,hfirst]
      rfl
    · cases addField dump body field with
      | none => rfl
      | some next => exact ih hrest next

/-- There is no body exactly if a value has no text. -/
theorem formBody_eq_none_iff (fields : List (List UInt8×Member V)) :
    formBody dump fields=none ↔ ∃ field∈fields,memberText dump field.2=none := by
  constructor
  · intro hnone
    by_contra hall
    push Not at hall
    have hsome := formBody_eq fun field hmem => Option.isSome_iff_ne_none.mpr (hall field hmem)
    rw [hnone] at hsome
    cases hsome
  · exact fun h => foldlM_eq_none h []

/-- The text of a pair is read back. -/
theorem parsePair_pairText (pair : List UInt8×List UInt8) :
    parsePair (pairText pair)=some pair := by
  have hkey := notMem_urlEncode (Or.inr rfl) pair.1
  have hvalue := notMem_urlEncode (Or.inr rfl) pair.2
  rw [parsePair,pairText,List.splitOn_append_cons_self_of_not_mem hkey,
    List.splitOn_eq_singleton hvalue,urlEncode_eq,urlEncode_eq]
  dsimp only
  rw [decode_encode,decode_encode]
  rfl

/-- A body of at least one field is read back. -/
theorem parseForm_of_formBody {fields : List (List UInt8×Member V)} (hne : fields≠[])
    {body : List UInt8} (h : formBody dump fields=some body) :
    parseForm body=some (fields.map (pairOf dump)) := by
  have htexts : ∀ field∈fields,(memberText dump field.2).isSome=true := by
    intro field hmem
    rw [Option.isSome_iff_ne_none]
    intro hnone
    rw [(formBody_eq_none_iff fields).mpr ⟨field,hmem,hnone⟩] at h
    cases h
  rw [formBody_eq htexts,Option.some.injEq] at h
  -- no piece contains an ampersand
  have hplain : ∀ piece∈fields.map (fun field => pairText (pairOf dump field)),38∉piece := by
    intro piece hpiece
    obtain ⟨field,_,rfl⟩ := List.mem_map.mp hpiece
    rw [pairText,List.mem_append,List.mem_cons,not_or,not_or]
    exact ⟨notMem_urlEncode (Or.inl rfl) _,by decide,notMem_urlEncode (Or.inl rfl) _⟩
  have hpieces : fields.map (fun field => pairText (pairOf dump field))≠[] := by simpa using hne
  have hread : (parsePair ∘ fun field => pairText (pairOf dump field))=
      fun field => pure (pairOf dump field) :=
    funext fun field => parsePair_pairText (pairOf dump field)
  rw [←h,parseForm,List.splitOn_intercalate 38 hplain hpieces,List.mapM_map,hread,List.mapM_pure]
  rfl

end

/-- Form encoding loses nothing: every text is read back from its encoding, which consists
of unreserved characters and percent triples; a form body exists unless a value cannot be
dumped, and the keys and values of every object with a member are read back from it. -/
theorem formEncoding_lossless :
    (∀ text,decode (urlEncode text)=some text ∧ Escaped (urlEncode text)) ∧
    (∀ (V : Type) (dump : V → Option (List UInt8)) (fields : List (List UInt8×Member V)),
      (formBody dump fields=none ↔ ∃ field∈fields,memberText dump field.2=none) ∧
      (fields≠[] → ∀ body,formBody dump fields=some body →
        parseForm body=some (fields.map (pairOf dump)))) := by
  refine ⟨fun text => ?_,fun V dump fields => ⟨formBody_eq_none_iff fields,?_⟩⟩
  · rw [urlEncode_eq]
    exact ⟨decode_encode text,escaped_encode text⟩
  · intro hne body h
    exact parseForm_of_formBody hne h

end Dankong.Request

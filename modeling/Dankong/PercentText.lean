import Mathlib.Data.List.Basic
import Mathlib.Tactic.Common

/-!
# Percent encoding

Letters, digits and four marks stand for themselves; every other byte is written as a
percent sign and two hexadecimal digits. Texts are lists of character codes.
-/

namespace Dankong.PercentText

/-- The percent sign. -/
def percent : UInt8 := 37

/-- Letters, digits, and `-`, `.`, `_`, `~`. -/
def Unreserved (c : UInt8) : Prop :=
  (48≤c ∧ c≤57) ∨ (65≤c ∧ c≤90) ∨ (97≤c ∧ c≤122) ∨ c∈[45,46,95,126]

instance (c : UInt8) : Decidable (Unreserved c) := inferInstanceAs (Decidable (_ ∨ _ ∨ _ ∨ _))

/-- The upper-case hexadecimal digit with a value below 16. -/
def hexDigit (n : ℕ) : UInt8 := if n<10 then UInt8.ofNat (48+n) else UInt8.ofNat (55+n)

/-- The value of a hexadecimal digit, in either case. -/
def hexValue (c : UInt8) : Option ℕ :=
  if 48≤c ∧ c≤57 then some (c.toNat-48)
  else if 65≤c ∧ c≤70 then some (c.toNat-55)
  else if 97≤c ∧ c≤102 then some (c.toNat-87)
  else none

/-- A byte as it is written. -/
def encodeByte (c : UInt8) : List UInt8 :=
  if Unreserved c then [c] else [percent,hexDigit (c.toNat/16),hexDigit (c.toNat%16)]

/-- A text as it is written. -/
def encode (text : List UInt8) : List UInt8 := text.flatMap encodeByte

/-- The text that was written; a percent sign without two digits is an error. -/
def decode : List UInt8 → Option (List UInt8)
  | [] => some []
  | c::rest =>
    if c=percent then
      match rest with
      | high::low::rest => do
        return UInt8.ofNat (16*(← hexValue high)+(← hexValue low))::(← decode rest)
      | _ => none
    else (decode rest).map (c::·)

/-- A text of unreserved characters and percent triples only. -/
inductive Escaped : List UInt8 → Prop
  /-- The empty text. -/
  | nil : Escaped []
  /-- An unreserved character. -/
  | plain {c : UInt8} {rest : List UInt8} (hc : Unreserved c) (h : Escaped rest) :
    Escaped (c::rest)
  /-- A percent sign and two digits. -/
  | triple {high low : UInt8} {rest : List UInt8} (hhigh : (hexValue high).isSome=true)
    (hlow : (hexValue low).isSome=true) (h : Escaped rest) : Escaped (percent::high::low::rest)

/-- Digits are read back. -/
theorem hexValue_hexDigit {n : ℕ} (h : n<16) : hexValue (hexDigit n)=some n := by
  have hall : ∀ n<16,hexValue (hexDigit n)=some n := by decide
  exact hall n h

/-- The two digits of a byte have values below 16. -/
theorem digits_lt (c : UInt8) : c.toNat/16<16 ∧ c.toNat%16<16 := by
  have hc : c.toNat<256 := c.toNat_lt
  omega

/-- An unreserved character is no percent sign. -/
theorem ne_percent {c : UInt8} (h : Unreserved c) : c≠percent := by
  rintro rfl
  exact absurd h (by decide)

/-- A character that is no percent sign stands for itself. -/
theorem decode_plain {c : UInt8} (h : c≠percent) (rest : List UInt8) :
    decode (c::rest)=(decode rest).map (c::·) := by
  rcases rest with _|⟨high,_|⟨low,rest⟩⟩ <;> simp only [decode,if_neg h]

/-- A percent sign and two digits stand for a byte. -/
theorem decode_triple {high low : ℕ} (hhigh : high<16) (hlow : low<16) (rest : List UInt8) :
    decode (percent::hexDigit high::hexDigit low::rest)=
      (decode rest).map (UInt8.ofNat (16*high+low)::·) := by
  rw [decode,if_pos rfl,hexValue_hexDigit hhigh,hexValue_hexDigit hlow]
  cases decode rest <;> rfl

/-- A written byte is read back before anything else. -/
theorem decode_encodeByte (c : UInt8) (rest : List UInt8) :
    decode (encodeByte c++rest)=(decode rest).map (c::·) := by
  unfold encodeByte
  by_cases h : Unreserved c
  · rw [if_pos h]
    exact decode_plain (ne_percent h) rest
  · have htriple := decode_triple (digits_lt c).1 (digits_lt c).2 rest
    rw [Nat.div_add_mod c.toNat 16,UInt8.ofNat_toNat] at htriple
    rw [if_neg h]
    exact htriple

/-- A written text is read back. -/
theorem decode_encode (text : List UInt8) : decode (encode text)=some text := by
  induction text with
  | nil => rfl
  | cons c rest ih =>
    rw [encode,List.flatMap_cons,decode_encodeByte,←encode,ih,Option.map_some]

/-- A written text consists of unreserved characters and percent triples. -/
theorem escaped_encode (text : List UInt8) : Escaped (encode text) := by
  induction text with
  | nil => exact .nil
  | cons c rest ih =>
    rw [encode,List.flatMap_cons,←encode,encodeByte]
    by_cases h : Unreserved c
    · rw [if_pos h]
      exact .plain h ih
    · obtain ⟨hhigh,hlow⟩ := digits_lt c
      rw [if_neg h]
      refine .triple ?_ ?_ ih
      · rw [hexValue_hexDigit hhigh]
        rfl
      · rw [hexValue_hexDigit hlow]
        rfl

/-- A character that is neither unreserved nor part of a triple does not occur. -/
theorem notMem_of_escaped {a : UInt8} {text : List UInt8} (hplain : ¬Unreserved a)
    (hpercent : a≠percent) (hdigit : hexValue a=none) (h : Escaped text) : a∉text := by
  have hne : ∀ {c},(hexValue c).isSome=true → a≠c := by
    rintro c hc rfl
    rw [hdigit] at hc
    cases hc
  induction h with
  | nil => exact List.not_mem_nil
  | plain hc _ ih =>
    rw [List.mem_cons,not_or]
    refine ⟨?_,ih⟩
    rintro rfl
    exact hplain hc
  | triple hhigh hlow _ ih =>
    rw [List.mem_cons,List.mem_cons,List.mem_cons,not_or,not_or,not_or]
    exact ⟨hpercent,hne hhigh,hne hlow,ih⟩

end Dankong.PercentText

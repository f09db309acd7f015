import Mathlib.Data.List.Basic
import Mathlib.Tactic.Common

/-!
# Base64

Three bytes are written as four digits of six bits; a last group of one or two
bytes is written as two or three digits and filled up with padding. Texts are
lists of character codes. Decoding returns what was encoded, and nothing decodes
to as many bytes as it has characters.
-/

namespace Dankong.Base64

/-- The 64 digits: upper case, lower case, decimal digits, plus and slash. -/
def alphabet : List UInt8 :=
  ((List.range 26).map (65+·)++(List.range 26).map (97+·)++(List.range 10).map (48+·)++
    [43,47]).map UInt8.ofNat

/-- The padding character. -/
def pad : UInt8 := 61

/-- The digit with a value below 64. -/
def digit (n : ℕ) : UInt8 := alphabet.getD n pad

/-- The value of a digit. -/
def value (c : UInt8) : Option ℕ := alphabet.idxOf? c

/-- The digits of three bytes. -/
def digits (a b c : UInt8) : List UInt8 :=
  [digit (a.toNat/4),digit (a.toNat%4*16+b.toNat/16),digit (b.toNat%16*4+c.toNat/64),
    digit (c.toNat%64)]

/-- The bytes of four digit values. -/
def bytes (p q r s : ℕ) : List UInt8 :=
  [UInt8.ofNat (p*4+q/16),UInt8.ofNat (q%16*16+r/4),UInt8.ofNat (r%4*64+s)]

/-- Encoding, group by group. -/
def encode : List UInt8 → List UInt8
  | [] => []
  | [a] => (digits a 0 0).take 2++[pad,pad]
  | [a,b] => (digits a b 0).take 3++[pad]
  | a::b::c::rest => digits a b c++encode rest

/-- The bytes of a group of four characters, with at most two padding characters at
its end if it is the last one. -/
def decodeGroup (last : Bool) (p q r s : UInt8) : Option (List UInt8) :=
  if last=true ∧ s=pad then
    if r=pad then do return (bytes (← value p) (← value q) 0 0).take 1
    else do return (bytes (← value p) (← value q) (← value r) 0).take 2
  else do return bytes (← value p) (← value q) (← value r) (← value s)

/-- Decoding, group by group. -/
def decode : List UInt8 → Option (List UInt8)
  | [] => some []
  | p::q::r::s::rest => do return (← decodeGroup rest.isEmpty p q r s)++(← decode rest)
  | _ => none

/-- A text is padded at its end only, with at most two characters. -/
def PaddedAtEnd (text : List UInt8) : Prop :=
  ∃ body n,text=body++List.replicate n pad ∧ n≤2 ∧ pad∉body

/-- Digits are read back. -/
theorem value_digit {n : ℕ} (h : n<64) : value (digit n)=some n := by
  have hall : ∀ n<64,value (digit n)=some n := by decide
  exact hall n h

/-- Padding is no digit. -/
theorem digit_ne_pad {n : ℕ} (h : n<64) : digit n≠pad := by
  have hall : ∀ n<64,digit n≠pad := by decide
  exact hall n h

/-- The values of the digits of three bytes are below 64. -/
theorem digits_lt (a b c : UInt8) : a.toNat/4<64 ∧ a.toNat%4*16+b.toNat/16<64 ∧
    b.toNat%16*4+c.toNat/64<64 ∧ c.toNat%64<64 := by
  have ha := a.toNat_lt
  have hb := b.toNat_lt
  have hc := c.toNat_lt
  omega

/-- Splitting three bytes into digit values and putting them together again. -/
theorem bytes_digits (a b c : UInt8) :
    bytes (a.toNat/4) (a.toNat%4*16+b.toNat/16) (b.toNat%16*4+c.toNat/64) (c.toNat%64)=
      [a,b,c] := by
  have ha := a.toNat_lt
  have hb := b.toNat_lt
  have hc := c.toNat_lt
  have hfirst : a.toNat/4*4+(a.toNat%4*16+b.toNat/16)/16=a.toNat := by omega
  have hsecond : (a.toNat%4*16+b.toNat/16)%16*16+(b.toNat%16*4+c.toNat/64)/4=b.toNat := by omega
  have hthird : (b.toNat%16*4+c.toNat/64)%4*64+c.toNat%64=c.toNat := by omega
  rw [bytes,hfirst,hsecond,hthird,UInt8.ofNat_toNat,UInt8.ofNat_toNat,UInt8.ofNat_toNat]

/-- A full group is read back. -/
theorem decodeGroup_digits (last : Bool) (a b c : UInt8) :
    decodeGroup last (digit (a.toNat/4)) (digit (a.toNat%4*16+b.toNat/16))
      (digit (b.toNat%16*4+c.toNat/64)) (digit (c.toNat%64))=some [a,b,c] := by
  obtain ⟨hp,hq,hr,hs⟩ := digits_lt a b c
  rw [decodeGroup,if_neg (fun h => digit_ne_pad hs h.2),value_digit hp,value_digit hq,
    value_digit hr,value_digit hs]
  exact congrArg some (bytes_digits a b c)

/-- A last group of two digits is read back. -/
theorem decodeGroup_one (a : UInt8) :
    decodeGroup true (digit (a.toNat/4)) (digit (a.toNat%4*16)) pad pad=some [a] := by
  have hp : a.toNat/4<64 := (digits_lt a 0 0).1
  have hq : a.toNat%4*16<64 := (digits_lt a 0 0).2.1
  have hbytes := congrArg (List.take 1) (bytes_digits a 0 0)
  rw [decodeGroup,if_pos ⟨rfl,rfl⟩,if_pos rfl,value_digit hp,value_digit hq]
  exact congrArg some hbytes

/-- A last group of three digits is read back. -/
theorem decodeGroup_two (a b : UInt8) :
    decodeGroup true (digit (a.toNat/4)) (digit (a.toNat%4*16+b.toNat/16))
      (digit (b.toNat%16*4)) pad=some [a,b] := by
  obtain ⟨hp,hq,_⟩ := digits_lt a b 0
  have hr : b.toNat%16*4<64 := (digits_lt a b 0).2.2.1
  have hbytes := congrArg (List.take 2) (bytes_digits a b 0)
  rw [decodeGroup,if_pos ⟨rfl,rfl⟩,if_neg (digit_ne_pad hr),value_digit hp,value_digit hq,
    value_digit hr]
  exact congrArg some hbytes

/-- Decoding undoes encoding. -/
theorem decode_encode (input : List UInt8) : decode (encode input)=some input := by
  induction input using encode.induct with
  | case1 => rfl
  | case2 a =>
    change (do return (← decodeGroup true (digit (a.toNat/4)) (digit (a.toNat%4*16)) pad pad)++
      (← decode []))=some [a]
    rw [decodeGroup_one]
    rfl
  | case3 a b =>
    change (do return (← decodeGroup true (digit (a.toNat/4)) (digit (a.toNat%4*16+b.toNat/16))
      (digit (b.toNat%16*4)) pad)++(← decode []))=some [a,b]
    rw [decodeGroup_two]
    rfl
  | case4 a b c rest ih =>
    rw [encode,digits]
    simp only [List.cons_append,List.nil_append,decode]
    rw [decodeGroup_digits,ih]
    rfl

/-- Four characters for every three bytes, rounded up. -/
theorem length_encode (input : List UInt8) :
    (encode input).length=4*((input.length+2)/3) := by
  induction input using encode.induct with
  | case1 => rfl
  | case2 a => simp [encode,digits]
  | case3 a b => simp [encode,digits]
  | case4 a b c rest ih =>
    rw [encode,List.length_append,ih]
    simp only [digits,List.length_cons,List.length_nil]
    omega

/-- No digit of three bytes is padding. -/
theorem pad_notMem_digits (a b c : UInt8) : pad∉digits a b c := by
  obtain ⟨hp,hq,hr,hs⟩ := digits_lt a b c
  simp only [digits,List.mem_cons,List.not_mem_nil,or_false,not_or]
  exact ⟨(digit_ne_pad hp).symm,(digit_ne_pad hq).symm,(digit_ne_pad hr).symm,
    (digit_ne_pad hs).symm⟩

/-- Encoding pads at the end only. -/
theorem paddedAtEnd_encode (input : List UInt8) : PaddedAtEnd (encode input) := by
  induction input using encode.induct with
  | case1 => exact ⟨[],0,rfl,by omega,List.not_mem_nil⟩
  | case2 a =>
    exact ⟨(digits a 0 0).take 2,2,rfl,by omega,
      fun h => pad_notMem_digits a 0 0 (List.mem_of_mem_take h)⟩
  | case3 a b =>
    exact ⟨(digits a b 0).take 3,1,rfl,by omega,
      fun h => pad_notMem_digits a b 0 (List.mem_of_mem_take h)⟩
  | case4 a b c rest ih =>
    obtain ⟨body,n,hbody,hn,hfree⟩ := ih
    refine ⟨digits a b c++body,n,?_,hn,fun h => ?_⟩
    · rw [encode,hbody,List.append_assoc]
    · rcases List.mem_append.mp h with hdigit|hrest
      · exact pad_notMem_digits a b c hdigit
      · exact hfree hrest

/-- An encoding is made of digits and padding. -/
theorem mem_encode {input : List UInt8} {b : UInt8} (h : b∈encode input) : b∈pad::alphabet := by
  have hdigit : ∀ n,digit n∈pad::alphabet := by
    intro n
    rw [digit,List.getD_eq_getElem?_getD]
    cases hn : alphabet[n]? with
    | none => exact List.mem_cons_self
    | some d => exact List.mem_cons_of_mem pad (List.mem_of_getElem? hn)
  have hdigits : ∀ x y z,∀ d∈digits x y z,d∈pad::alphabet := by
    intro x y z d hd
    simp only [digits,List.mem_cons,List.not_mem_nil,or_false] at hd
    rcases hd with rfl|rfl|rfl|rfl <;> exact hdigit _
  have hpads : ∀ n,∀ d∈List.replicate n pad,d∈pad::alphabet := by
    intro n d hd
    rw [List.eq_of_mem_replicate hd]
    exact List.mem_cons_self
  induction input using encode.induct with
  | case1 => cases h
  | case2 a =>
    rcases List.mem_append.mp h with hd|hd
    · exact hdigits _ _ _ b (List.mem_of_mem_take hd)
    · exact hpads 2 b hd
  | case3 a c =>
    rcases List.mem_append.mp h with hd|hd
    · exact hdigits _ _ _ b (List.mem_of_mem_take hd)
    · exact hpads 1 b hd
  | case4 x y z rest ih =>
    rw [encode] at h
    rcases List.mem_append.mp h with hd|hd
    · exact hdigits _ _ _ b hd
    · exact ih hd

/-- A group decodes to at most three bytes. -/
theorem length_decodeGroup {last : Bool} {p q r s : UInt8} {output : List UInt8}
    (h : decodeGroup last p q r s=some output) : output.length≤3 := by
  rw [decodeGroup] at h
  split_ifs at h
  all_goals
    simp only [Option.bind_eq_bind,Option.bind_eq_some_iff,Option.pure_def,
      Option.some.injEq] at h
  · obtain ⟨_,_,_,_,rfl⟩ := h
    exact Nat.le_of_ble_eq_true rfl
  · obtain ⟨_,_,_,_,_,_,rfl⟩ := h
    exact Nat.le_of_ble_eq_true rfl
  · obtain ⟨_,_,_,_,_,_,_,_,rfl⟩ := h
    exact Nat.le_refl 3

/-- Decoding gives at most three bytes for four characters. -/
theorem length_decode {text output : List UInt8} (h : decode text=some output) :
    4*output.length≤3*text.length := by
  induction text using decode.induct generalizing output with
  | case1 =>
    rw [←Option.some.inj h]
    exact Nat.le_refl 0
  | case2 p q r s rest ih =>
    simp only [decode,Option.bind_eq_bind,Option.bind_eq_some_iff,Option.pure_def,
      Option.some.injEq] at h
    obtain ⟨first,hfirst,others,hothers,rfl⟩ := h
    have hgroup := length_decodeGroup hfirst
    have hrest := ih hothers
    simp only [List.length_append,List.length_cons]
    omega
  | case3 text hnil hgroup =>
    rw [decode] at h
    · cases h
    · exact hnil
    · exact hgroup

end Dankong.Base64

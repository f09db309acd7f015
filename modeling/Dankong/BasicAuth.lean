import Dankong.Base64
import Mathlib.Data.Nat.Bitwise

/-!
# The credentials of the NTRIP request

`base64_encode` shifts all bytes through one accumulator and counts the bits that
have not been written yet, less six. The accumulator is an `int` and overflows on
every text of more than four bytes. What is written depends on its lowest twelve
bits only, and those are the same as with an accumulator that never overflows.
-/

namespace Dankong.Ntrip

open Base64

/-- What the loop does with its accumulator. -/
structure Accumulator (V : Type) where
  /-- `0`. -/
  zero : V
  /-- `val << 8`. -/
  shift : V → V
  /-- `val + c`. -/
  add : V → UInt8 → V
  /-- `(val >> n) & 0x3F`. -/
  sextet : V → ℕ → ℕ

/-- `int`, with 32 bits in two's complement. -/
def int32 : Accumulator (BitVec 32) where
  zero := 0#32
  shift val := val<<<8
  add val c := val+BitVec.ofNat 32 c.toNat
  sextet val n := (val.sshiftRight n &&& 0x3F#32).toNat

/-- An accumulator that never overflows. -/
def unbounded : Accumulator ℕ where
  zero := 0
  shift val := val<<<8
  add val c := val+c.toNat
  sextet val n := (val>>>n) &&& 0x3F

/-- The variables of `base64_encode`. -/
structure Encoder (V : Type) where
  /-- `val`. -/
  val : V
  /-- `valb`. -/
  valb : ℤ
  /-- `out`. -/
  out : List UInt8

section

variable {V : Type} (acc : Accumulator V)

/-- The inner loop: while six bits are there, they are written. -/
def emit (val : V) (valb : ℤ) (out : List UInt8) : ℤ×List UInt8 :=
  if 0≤valb then emit val (valb-6) (out++[digit (acc.sextet val valb.toNat)]) else (valb,out)
termination_by (valb+6).toNat
decreasing_by omega

/-- One turn of the outer loop. -/
def encodeByte (s : Encoder V) (c : UInt8) : Encoder V :=
  let val := acc.add (acc.shift s.val) c
  let emitted := emit acc val (s.valb+8) s.out
  ⟨val,emitted.1,emitted.2⟩

/-- The digit of the bits that are left over. -/
def leftover (s : Encoder V) : List UInt8 :=
  if -6<s.valb then s.out++[digit (acc.sextet (acc.shift s.val) (s.valb+8).toNat)] else s.out

/-- The last loop: padding up to a multiple of four. -/
def fill (out : List UInt8) : List UInt8 :=
  if out.length%4=0 then out else fill (out++[pad])
termination_by (4-out.length%4)%4
decreasing_by
  rw [List.length_append,List.length_singleton]
  omega

/-- `base64_encode` with any accumulator. -/
def encodeWith (input : List UInt8) : List UInt8 :=
  fill (leftover acc (input.foldl (encodeByte acc) ⟨acc.zero,-6,[]⟩))

end

/-- `base64_encode`. -/
def base64Encode (input : List UInt8) : List UInt8 := encodeWith int32 input

/-- The lowest twelve bits of an accumulator are shifted, added to and read as
those of a number. -/
structure Accumulator.Lawful {V : Type} (acc : Accumulator V) (number : V → ℕ) : Prop where
  /-- Shifting. -/
  shift : ∀ val,number (acc.shift val)%4096=number val*256%4096
  /-- Shifting and adding. -/
  add : ∀ val c,number (acc.add (acc.shift val) c)%4096=(number val*256+c.toNat)%4096
  /-- Reading. -/
  sextet : ∀ val n,n≤6 → acc.sextet val n=number val/2^n%64

/-- Thirty-two bits are enough. -/
theorem int32_lawful : int32.Lawful BitVec.toNat where
  shift val := by
    dsimp only [int32]
    rw [BitVec.toNat_shiftLeft,Nat.shiftLeft_eq]
    omega
  add val c := by
    have hc := c.toNat_lt
    dsimp only [int32]
    rw [BitVec.toNat_add,BitVec.toNat_shiftLeft,BitVec.toNat_ofNat,Nat.shiftLeft_eq]
    omega
  sextet val n hn := by
    dsimp only [int32]
    have hbits : val.sshiftRight n &&& 0x3F#32=val>>>n &&& 0x3F#32 := by
      ext i hi
      rw [BitVec.getElem_and,BitVec.getElem_and]
      by_cases hlow : i<6
      · -- the six bits lie below the sign
        have hin : n+i<32 := by omega
        rw [BitVec.getElem_sshiftRight,dif_pos hin,BitVec.getElem_ushiftRight,
          BitVec.getLsbD_eq_getElem hin]
      · have hmask : ∀ i,∀ h : i<32,6≤ i → (0x3F#32)[i]=false := by decide
        rw [hmask i hi (by omega),Bool.and_false,Bool.and_false]
    rw [hbits,BitVec.toNat_and,BitVec.toNat_ushiftRight,Nat.shiftRight_eq_div_pow]
    exact Nat.and_two_pow_sub_one_eq_mod (val.toNat/2^n) 6

/-- So is an accumulator without bound. -/
theorem unbounded_lawful : unbounded.Lawful id where
  shift val := by
    dsimp only [unbounded,id]
    rw [Nat.shiftLeft_eq]
  add val c := by
    dsimp only [unbounded,id]
    rw [Nat.shiftLeft_eq]
  sextet val n _ := by
    dsimp only [unbounded,id]
    rw [Nat.shiftRight_eq_div_pow]
    exact Nat.and_two_pow_sub_one_eq_mod (val/2^n) 6

/-- A text that fills its groups needs no padding. -/
theorem fill_full {out : List UInt8} (h : out.length%4=0) : fill out=out := by
  rw [fill,if_pos h]

/-- One character is missing. -/
theorem fill_three {out : List UInt8} (h : out.length%4=3) : fill out=out++[pad] := by
  have hfull : (out++[pad]).length%4=0 := by
    rw [List.length_append,List.length_singleton]
    omega
  rw [fill,if_neg (by omega),fill_full hfull]

/-- Two characters are missing. -/
theorem fill_two {out : List UInt8} (h : out.length%4=2) : fill out=out++[pad,pad] := by
  have hnext : (out++[pad]).length%4=3 := by
    rw [List.length_append,List.length_singleton]
    omega
  rw [fill,if_neg (by omega),fill_three hnext,List.append_assoc]
  rfl

section

variable {V : Type} {acc : Accumulator V} {number : V → ℕ} (h : acc.Lawful number)
  (val : V) (out : List UInt8)

/-- The inner loop ends when fewer than six bits are left. -/
theorem emit_stop {valb : ℤ} (hneg : valb<0) : emit acc val valb out=(valb,out) := by
  rw [emit,if_neg (by omega)]

/-- Six bits are written from a position below the next six. -/
theorem emit_once (n : ℕ) (hn : n<6) :
    emit acc val n out=((n : ℤ)-6,out++[digit (acc.sextet val n)]) := by
  rw [emit,if_pos (by omega),Int.toNat_natCast,emit_stop _ _ (by omega)]

/-- Twelve bits are written one half after the other. -/
theorem emit_twice :
    emit acc val 6 out=(-6,out++[digit (acc.sextet val 6),digit (acc.sextet val 0)]) := by
  have hlow := @emit_once _ acc val (out++[digit (acc.sextet val 6)]) 0 (by omega)
  rw [emit,if_pos (by omega)]
  change emit acc val ((0 : ℕ) : ℤ) (out++[digit (acc.sextet val 6)])=_
  rw [hlow,List.append_assoc]
  rfl

include h

/-- With no bits left over, a byte leaves two. -/
theorem encodeByte_first (a : UInt8) :
    encodeByte acc ⟨val,-6,out⟩ a=
      ⟨acc.add (acc.shift val) a,-4,out++[digit (a.toNat/4)]⟩ := by
  have ha := a.toNat_lt
  have hadd := h.add val a
  have hread : acc.sextet (acc.add (acc.shift val) a) 2=a.toNat/4 := by
    rw [h.sextet _ 2 (by omega)]
    omega
  have hemit := @emit_once _ acc (acc.add (acc.shift val) a) out 2 (by omega)
  dsimp only [encodeByte]
  rw [show (-6+8 : ℤ)=((2 : ℕ) : ℤ) by rfl,hemit,hread]
  rfl

/-- After a first byte, a second one leaves four bits. -/
theorem encodeByte_second (a b : UInt8) :
    encodeByte acc ⟨acc.add (acc.shift val) a,-4,out⟩ b=
      ⟨acc.add (acc.shift (acc.add (acc.shift val) a)) b,-2,
        out++[digit (a.toNat%4*16+b.toNat/16)]⟩ := by
  have hb := b.toNat_lt
  have hfirst := h.add val a
  have hadd := h.add (acc.add (acc.shift val) a) b
  have hread : acc.sextet (acc.add (acc.shift (acc.add (acc.shift val) a)) b) 4=
      a.toNat%4*16+b.toNat/16 := by
    rw [h.sextet _ 4 (by omega)]
    omega
  have hemit := @emit_once _ acc (acc.add (acc.shift (acc.add (acc.shift val) a)) b) out 4
    (by omega)
  dsimp only [encodeByte]
  rw [show (-4+8 : ℤ)=((4 : ℕ) : ℤ) by rfl,hemit,hread]
  rfl

/-- A third byte leaves none. -/
theorem encodeByte_third (b c : UInt8) :
    encodeByte acc ⟨acc.add (acc.shift val) b,-2,out⟩ c=
      ⟨acc.add (acc.shift (acc.add (acc.shift val) b)) c,-6,
        out++[digit (b.toNat%16*4+c.toNat/64),digit (c.toNat%64)]⟩ := by
  have hc := c.toNat_lt
  have hsecond := h.add val b
  have hadd := h.add (acc.add (acc.shift val) b) c
  have hhigh : acc.sextet (acc.add (acc.shift (acc.add (acc.shift val) b)) c) 6=
      b.toNat%16*4+c.toNat/64 := by
    rw [h.sextet _ 6 (by omega)]
    omega
  have hlow : acc.sextet (acc.add (acc.shift (acc.add (acc.shift val) b)) c) 0=c.toNat%64 := by
    rw [h.sextet _ 0 (by omega)]
    omega
  dsimp only [encodeByte]
  rw [show (-2+8 : ℤ)=6 by rfl,emit_twice,hhigh,hlow]

/-- The two bits left over after one byte. -/
theorem leftover_one (a : UInt8) :
    leftover acc ⟨acc.add (acc.shift val) a,-4,out⟩=out++[digit (a.toNat%4*16)] := by
  have hadd := h.add val a
  have hshift := h.shift (acc.add (acc.shift val) a)
  have hread : acc.sextet (acc.shift (acc.add (acc.shift val) a)) 4=a.toNat%4*16 := by
    rw [h.sextet _ 4 (by omega)]
    omega
  dsimp only [leftover]
  rw [if_pos (by omega),show (-4+8 : ℤ).toNat=4 by rfl,hread]

/-- The four bits left over after two bytes. -/
theorem leftover_two (b : UInt8) :
    leftover acc ⟨acc.add (acc.shift val) b,-2,out⟩=out++[digit (b.toNat%16*4)] := by
  have hadd := h.add val b
  have hshift := h.shift (acc.add (acc.shift val) b)
  have hread : acc.sextet (acc.shift (acc.add (acc.shift val) b)) 6=b.toNat%16*4 := by
    rw [h.sextet _ 6 (by omega)]
    omega
  dsimp only [leftover]
  rw [if_pos (by omega),show (-2+8 : ℤ).toNat=6 by rfl,hread]

/-- Between groups, the rest of the input is encoded as if nothing came before it. -/
theorem fill_leftover (input : List UInt8) (hout : out.length%4=0) :
    fill (leftover acc (input.foldl (encodeByte acc) ⟨val,-6,out⟩))=out++encode input := by
  induction input using encode.induct generalizing val out with
  | case1 =>
    rw [List.foldl_nil,leftover]
    dsimp only
    rw [if_neg (by omega),fill_full hout,encode,List.append_nil]
  | case2 a =>
    have hlength : ((out++[digit (a.toNat/4)])++[digit (a.toNat%4*16)]).length%4=2 := by
      simp only [List.length_append,List.length_singleton]
      omega
    rw [List.foldl_cons,List.foldl_nil,encodeByte_first h,leftover_one h,fill_two hlength]
    simp only [List.append_assoc]
    rfl
  | case3 a b =>
    have hlength : ((out++[digit (a.toNat/4)])++[digit (a.toNat%4*16+b.toNat/16)]++
        [digit (b.toNat%16*4)]).length%4=3 := by
      simp only [List.length_append,List.length_singleton]
      omega
    rw [List.foldl_cons,List.foldl_cons,List.foldl_nil,encodeByte_first h,encodeByte_second h,
      leftover_two h,fill_three hlength]
    simp only [List.append_assoc]
    rfl
  | case4 a b c rest ih =>
    have hgroup : out++[digit (a.toNat/4)]++[digit (a.toNat%4*16+b.toNat/16)]++
        [digit (b.toNat%16*4+c.toNat/64),digit (c.toNat%64)]=out++digits a b c := by
      rw [List.append_assoc,List.append_assoc]
      rfl
    have hnext : (out++digits a b c).length%4=0 := by
      rw [List.length_append,digits]
      simp only [List.length_cons,List.length_nil]
      omega
    rw [List.foldl_cons,List.foldl_cons,List.foldl_cons,encodeByte_first h,encodeByte_second h,
      encodeByte_third h,hgroup,ih _ _ hnext,encode,List.append_assoc]

end

/-- Every lawful accumulator gives the standard encoding. -/
theorem encodeWith_eq {V : Type} {acc : Accumulator V} {number : V → ℕ} (h : acc.Lawful number)
    (input : List UInt8) : encodeWith acc input=encode input := by
  rw [encodeWith,fill_leftover h _ _ _ rfl,List.nil_append]

/-- The encoder writes standard base64 of its input, of the standard length and padded
at the end only, and the overflow of its accumulator changes no character. -/
theorem base64Encode_standard (input : List UInt8) :
    decode (base64Encode input)=some input ∧
      (base64Encode input).length=4*((input.length+2)/3) ∧ PaddedAtEnd (base64Encode input) ∧
      base64Encode input=encodeWith unbounded input := by
  have hstandard : base64Encode input=encode input := encodeWith_eq int32_lawful input
  rw [encodeWith_eq unbounded_lawful,hstandard]
  exact ⟨decode_encode input,length_encode input,paddedAtEnd_encode input,rfl⟩

end Dankong.Ntrip

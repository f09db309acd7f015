import Mathlib.Algebra.GroupWithZero.Nat
import Mathlib.Data.List.Basic
import Mathlib.Tactic.Common

/-!
# Words in byte strings

Numbers are stored least significant byte first, in a fixed number of bytes. A part of
a byte string is read at an offset; a read that would leave the string has no result.
-/

namespace Dankong.ByteWords

/-- The low bytes of a number, least significant first. -/
def toBytes : ℕ → ℕ → List UInt8
  | 0,_ => []
  | width+1,n => UInt8.ofNat n::toBytes width (n/256)

/-- The number that bytes stand for. -/
def ofBytes : List UInt8 → ℕ
  | [] => 0
  | b::rest => b.toNat+256*ofBytes rest

/-- The four bytes of a 32-bit word. -/
def wordBytes (x : UInt32) : List UInt8 := toBytes 4 x.toNat

/-- The 32-bit word of four bytes. -/
def bytesWord (bytes : List UInt8) : UInt32 := UInt32.ofNat (ofBytes bytes)

/-- The word with the given number among the words of a byte string. -/
def word (data : List UInt8) (i : ℕ) : UInt32 := bytesWord ((data.drop (4*i)).take 4)

/-- The given number of elements from an offset on, if the list has them all. -/
def slice {α : Type*} (data : List α) (offset count : ℕ) : Option (List α) :=
  if offset+count≤data.length then some ((data.drop offset).take count) else none

/-- A number takes as many bytes as it is given. -/
@[simp] theorem length_toBytes (width n : ℕ) : (toBytes width n).length=width := by
  induction width generalizing n with
  | zero => rfl
  | succ width ih => rw [toBytes,List.length_cons,ih]

/-- A number is read back up to what its bytes can hold. -/
theorem ofBytes_toBytes (width n : ℕ) : ofBytes (toBytes width n)=n%256^width := by
  induction width generalizing n with
  | zero => rw [toBytes,ofBytes,Nat.pow_zero,Nat.mod_one]
  | succ width ih =>
    have hbyte : (UInt8.ofNat n).toNat=n%256 := UInt8.toNat_ofNat'
    rw [toBytes,ofBytes,ih,hbyte,Nat.pow_succ',Nat.mod_mul]

/-- Bytes stand for a number that they can hold. -/
theorem ofBytes_lt (bytes : List UInt8) : ofBytes bytes<256^bytes.length := by
  induction bytes with
  | nil => exact Nat.one_pos
  | cons b rest ih =>
    have hb : b.toNat<256 := b.toNat_lt
    rw [ofBytes,List.length_cons,Nat.pow_succ']
    omega

/-- A word of four bytes stands for the same number. -/
theorem toNat_bytesWord {bytes : List UInt8} (h : bytes.length≤4) :
    (bytesWord bytes).toNat=ofBytes bytes := by
  have hlow : (bytesWord bytes).toNat=ofBytes bytes%2^32 := UInt32.toNat_ofNat'
  have hrange : (256 : ℕ)^4=2^32 := rfl
  have hsmall : ofBytes bytes<2^32 := by
    rw [←hrange]
    exact Nat.lt_of_lt_of_le (ofBytes_lt bytes) (Nat.pow_le_pow_right (by decide) h)
  rw [hlow,Nat.mod_eq_of_lt hsmall]

/-- A word has four bytes. -/
@[simp] theorem length_wordBytes (x : UInt32) : (wordBytes x).length=4 := length_toBytes 4 x.toNat

/-- A word is read back. -/
@[simp] theorem bytesWord_wordBytes (x : UInt32) : bytesWord (wordBytes x)=x := by
  have hsmall : x.toNat%256^4=x.toNat := Nat.mod_eq_of_lt x.toNat_lt
  rw [bytesWord,wordBytes,ofBytes_toBytes,hsmall,UInt32.ofNat_toNat]

/-- The first word. -/
@[simp] theorem word_zero (x : UInt32) (rest : List UInt8) : word (wordBytes x++rest) 0=x := by
  rw [word,Nat.mul_zero,List.drop_zero,List.take_left' (length_wordBytes x),bytesWord_wordBytes]

/-- The later words are those behind the first one. -/
@[simp] theorem word_succ (x : UInt32) (rest : List UInt8) (i : ℕ) :
    word (wordBytes x++rest) (i+1)=word rest i := by
  have hlen : 4*(i+1)=(wordBytes x).length+4*i := by rw [length_wordBytes]; omega
  rw [word,hlen,List.drop_length_add_append,word]

/-- The only word. -/
@[simp] theorem word_last (x : UInt32) : word (wordBytes x) 0=x := by
  have hfirst := word_zero x []
  rwa [List.append_nil] at hfirst

section

variable {α : Type*} {data : List α} {offset count : ℕ}

/-- A read inside the data. -/
theorem slice_of_le (h : offset+count≤data.length) :
    slice data offset count=some ((data.drop offset).take count) := if_pos h

end

end Dankong.ByteWords

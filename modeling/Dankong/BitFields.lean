import Mathlib.Tactic.Common

/-!
# Bit fields of a byte

Several small numbers share a byte. Each is shifted to its place and cut to the bits
of its mask, and the byte is the disjunction of them all. A field is read by cutting
the byte to the mask and shifting it down; what other masks contribute does not show.
A word of sixteen bits takes two bytes of its own, the low one first.
-/

namespace Dankong.BitFields

/-- A number at its place in a byte. -/
def put (value shift mask : UInt8) : UInt8 := (value<<<shift)&&&mask

/-- The number at a place of a byte. -/
def get (byte shift mask : UInt8) : UInt8 := (byte&&&mask)>>>shift

/-- The low byte of a word. -/
def lowByte (word : UInt16) : UInt8 := word.toUInt8

/-- The high byte of a word. -/
def highByte (word : UInt16) : UInt8 := (word>>>8).toUInt8

/-- The word of two bytes. -/
def joinBytes (low high : UInt8) : UInt16 := low.toUInt16 ||| high.toUInt16<<<8

/-- A byte cut to all its bits. -/
theorem and_full {mask : UInt8} (h : mask=0xff) (byte : UInt8) : byte&&&mask=byte := by
  rw [h]
  exact UInt8.and_neg_one

/-- Cutting distributes over the disjunction of bytes. -/
theorem or_and_distrib (a b mask : UInt8) : (a ||| b)&&&mask=a&&&mask ||| b&&&mask := by
  rw [←UInt8.toBitVec_inj]
  exact BitVec.and_or_distrib_right

/-- A cut to two masks is the disjunction of the cuts. -/
theorem and_or_distrib (a mask mask' : UInt8) : a&&&(mask ||| mask')=a&&&mask ||| a&&&mask' := by
  rw [←UInt8.toBitVec_inj]
  exact BitVec.and_or_distrib_left

/-- Shifting up and down again drops the bits that left the byte. -/
theorem shiftRight_shiftLeft (value shift : UInt8) :
    (value<<<shift)>>>shift=value&&&(0xff>>>shift) := by
  rw [←UInt8.toBitVec_inj]
  ext i hi
  have hones : ∀ (j : ℕ) (hj : j<8),(255#8)[j]=true := by decide
  by_cases hin : shift.toNat%8+i<8
  · simp [hin,hones]
  · have hout := BitVec.getLsbD_of_ge 255#8 _ (Nat.le_of_not_lt hin)
    simp [hin,hout]

/-- Shifting down and up again drops the bits below. -/
theorem shiftLeft_shiftRight (byte shift : UInt8) :
    (byte>>>shift)<<<shift=byte&&&((0xff>>>shift)<<<shift) := by
  rw [←UInt8.toBitVec_inj]
  ext i hi
  have hones : ∀ (j : ℕ) (hj : j<8),(255#8)[j]=true := by decide
  by_cases hlow : i<shift.toNat%8
  · simp [hlow]
  · have hback : shift.toNat%8+(i-shift.toNat%8)=i := by omega
    simp [hlow,hback,hi,hones]

/-- Reading distributes over the disjunction of bytes. -/
theorem get_or (a b shift mask : UInt8) :
    get (a ||| b) shift mask=get a shift mask ||| get b shift mask := by
  rw [get,or_and_distrib,UInt8.shiftRight_or,get,get]

/-- A field is read as far as its mask has room for it. -/
theorem get_put (value shift mask : UInt8) :
    get (put value shift mask) shift mask=value&&&(mask>>>shift) := by
  have hroom : (0xff : UInt8)>>>shift &&& mask>>>shift=mask>>>shift := by
    rw [←UInt8.shiftRight_and]
    exact congrArg (· >>> shift) (UInt8.neg_one_and (a := mask))
  rw [get,put,UInt8.and_assoc,UInt8.and_self,UInt8.shiftRight_and,shiftRight_shiftLeft,
    UInt8.and_assoc,hroom]

/-- A field under a disjoint mask does not show. -/
theorem get_put_of_apart {mask mask' : UInt8} (h : mask'&&&mask=0) (value shift shift' : UInt8) :
    get (put value shift' mask') shift mask=0 := by
  rw [get,put,UInt8.and_assoc,h,UInt8.and_zero,UInt8.zero_shiftRight]

/-- A field that was read goes back to its place. -/
theorem put_get {shift mask : UInt8} (h : mask&&&((0xff>>>shift)<<<shift)=mask) (byte : UInt8) :
    put (get byte shift mask) shift mask=byte&&&mask := by
  rw [put,get,shiftLeft_shiftRight,UInt8.and_assoc byte,h,UInt8.and_assoc,UInt8.and_self]

/-- Two bytes put together stand for the low one and two hundred and fifty-six times
the high one. -/
theorem toNat_joinBytes (low high : UInt8) :
    (joinBytes low high).toNat=low.toNat+256*high.toNat := by
  have hlow : low.toNat<2^8 := low.toNat_lt
  have hhigh : high.toNat<2^8 := high.toNat_lt
  have hsum := Nat.shiftLeft_add_eq_or_of_lt hlow high.toNat
  have hshift : UInt16.toNat 8%16=8 := by decide
  have hfits : high.toNat<<<8%2^16=256*high.toNat := by
    rw [Nat.shiftLeft_eq]
    omega
  rw [Nat.shiftLeft_eq] at hsum
  rw [joinBytes,UInt16.toNat_or,UInt16.toNat_shiftLeft,Nat.or_comm,UInt8.toNat_toUInt16,
    UInt8.toNat_toUInt16,hshift,hfits,Nat.mul_comm,←hsum,Nat.add_comm]

/-- The low byte is the remainder. -/
theorem toNat_lowByte (word : UInt16) : (lowByte word).toNat=word.toNat%256 :=
  UInt16.toNat_toUInt8 word

/-- The high byte is the quotient. -/
theorem toNat_highByte (word : UInt16) : (highByte word).toNat=word.toNat/256 := by
  have hword : word.toNat<2^16 := word.toNat_lt
  have hshift : UInt16.toNat 8%16=8 := by decide
  rw [highByte,UInt16.toNat_toUInt8,UInt16.toNat_shiftRight,hshift,Nat.shiftRight_eq_div_pow]
  omega

/-- A word is put together from its bytes. -/
theorem joinBytes_lowByte_highByte (word : UInt16) :
    joinBytes (lowByte word) (highByte word)=word := by
  have hword : word.toNat<2^16 := word.toNat_lt
  rw [←UInt16.toNat_inj,toNat_joinBytes,toNat_lowByte,toNat_highByte]
  omega

/-- The low byte of two bytes put together. -/
theorem lowByte_joinBytes (low high : UInt8) : lowByte (joinBytes low high)=low := by
  have hlow : low.toNat<256 := low.toNat_lt
  rw [←UInt8.toNat_inj,toNat_lowByte,toNat_joinBytes]
  omega

/-- The high byte of two bytes put together. -/
theorem highByte_joinBytes (low high : UInt8) : highByte (joinBytes low high)=high := by
  have hlow : low.toNat<256 := low.toNat_lt
  rw [←UInt8.toNat_inj,toNat_highByte,toNat_joinBytes]
  omega

end Dankong.BitFields

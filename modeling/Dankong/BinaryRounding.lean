import Dankong.Numerals

/-!
# Rounding to binary floating-point numbers

A number is rounded to a multiple of its quantum, the power of two that separates its
neighbours. The error is at most half a quantum. From a magnitude on at which the quantum
is more than twice a summand, adding the summand changes nothing. There is no largest
number here: what is proved of sums is meant for sums that do not overflow.
-/

namespace Dankong.BinaryRounding

open Numerals

/-- A binary format. -/
structure Format where
  /-- Number of digits after the leading one. -/
  digits : ℕ
  /-- Exponent of the smallest positive number. -/
  least : ℤ

/-- Double precision. -/
def double : Format := ⟨52,-1074⟩

namespace Format

variable (f : Format)

/-- Exponent of the last digit at the magnitude of a number. -/
def exponent (x : ℚ) : ℤ := max (Int.log 2 |x|-f.digits) f.least

/-- Distance of neighbours at the magnitude of a number. -/
def quantum (x : ℚ) : ℚ := 2^f.exponent x

/-- Rounding to the nearest number, halves going to the even neighbour. -/
def round (x : ℚ) : ℚ := nearestEven (x/f.quantum x)*f.quantum x

end Format

end Dankong.BinaryRounding

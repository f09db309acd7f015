import Dankong.Numerals

/-!
# Numbers with a fixed number of digits

Natural numbers padded with zeros, and decimal fractions with a given number of
places, as `printf` writes them for values that are not negative, together with
how they are read back.
-/

namespace Dankong.DecimalText

/-- `%0wd`: the digits of a number, filled up with zeros from the left. -/
def padded (width n : ℕ) : List Char :=
  List.replicate (width-(Nat.toDigits 10 n).length) '0'++Nat.toDigits 10 n

/-- `%0w.pf`, of a number of units in the last place. -/
def fixed (width places n : ℕ) : List Char :=
  padded (width-(places+1)) (n/10^places)++ '.'::padded places (n%10^places)

/-- The number that a list of digits stands for. -/
def natValue (text : List Char) : ℕ := Nat.ofDigitChars 10 text 0

/-- The number that a decimal fraction stands for. -/
def fixedValue (text : List Char) : ℚ :=
  natValue (text.takeWhile (· ≠ '.'))+
    natValue ((text.dropWhile (· ≠ '.')).tail)/10^(text.dropWhile (· ≠ '.')).tail.length

variable {width places n : ℕ}

/-- Padding does not change the number. -/
theorem natValue_padded (width n : ℕ) : natValue (padded width n)=n := by
  rw [natValue,padded,Nat.ofDigitChars_append,Nat.ofDigitChars_replicate_zero,Nat.mul_zero,
    Nat.ofDigitChars_ten_toDigits]

/-- A number that fits is padded to the width. -/
theorem length_padded (hwidth : 0<width) (hn : n<10^width) : (padded width n).length=width := by
  have hfits : (Nat.toDigits 10 n).length≤width :=
    (Nat.length_toDigits_le_iff (by decide) hwidth).mpr hn
  rw [padded,List.length_append,List.length_replicate]
  omega

/-- Padded numbers consist of digits. -/
theorem isDigit_of_mem_padded {c : Char} (h : c∈padded width n) : c.isDigit=true := by
  rcases List.mem_append.mp h with hzero|hdigit
  · rw [List.eq_of_mem_replicate hzero]
    rfl
  · exact Nat.isDigit_of_mem_toDigits (by decide) (by decide) hdigit

/-- Decimal fractions consist of digits and a point. -/
theorem isDigit_of_mem_fixed {c : Char} (h : c∈fixed width places n) :
    c.isDigit=true ∨ c= '.' := by
  rcases List.mem_append.mp h with hwhole|hrest
  · exact Or.inl (isDigit_of_mem_padded hwhole)
  · rcases List.mem_cons.mp hrest with hpoint|hplaces
    · exact Or.inr hpoint
    · exact Or.inl (isDigit_of_mem_padded hplaces)

/-- A number that fits is written to the width. -/
theorem length_fixed (hplaces : 0<places) (hwidth : places+1<width)
    (hn : n<10^(width-(places+1))*10^places) : (fixed width places n).length=width := by
  have hwhole : n/10^places<10^(width-(places+1)) := Nat.div_lt_of_lt_mul (by rwa [Nat.mul_comm])
  have hrest : n%10^places<10^places := Nat.mod_lt n (Nat.pow_pos (by decide))
  rw [fixed,List.length_append,List.length_cons,length_padded (by omega) hwhole,
    length_padded hplaces hrest]
  omega

/-- A decimal fraction is read back. -/
theorem fixedValue_fixed (width : ℕ) (hplaces : 0<places) (n : ℕ) :
    fixedValue (fixed width places n)=n/10^places := by
  have hpoint : ∀ c∈padded (width-(places+1)) (n/10^places),decide (c≠ '.')=true := by
    intro c hc
    have hdigit := isDigit_of_mem_padded hc
    rw [decide_eq_true_eq]
    rintro rfl
    exact absurd hdigit (by decide)
  have hrest : n%10^places<10^places := Nat.mod_lt n (Nat.pow_pos (by decide))
  have hwhole : (fixed width places n).takeWhile (· ≠ '.')=
      padded (width-(places+1)) (n/10^places) := by
    rw [fixed,List.takeWhile_append_of_pos hpoint,List.takeWhile_cons_of_neg (by decide),
      List.append_nil]
  have htail : (fixed width places n).dropWhile (· ≠ '.')= '.'::padded places (n%10^places) := by
    rw [fixed,List.dropWhile_append_of_pos hpoint,List.dropWhile_cons_of_neg (by decide)]
  have hsplit : (n : ℚ)=10^places*(n/10^places : ℕ)+(n%10^places : ℕ) := by
    exact_mod_cast (Nat.div_add_mod n (10^places)).symm
  have hpos : (0 : ℚ)<10^places := by positivity
  rw [fixedValue,hwhole,htail,List.tail_cons,natValue_padded,natValue_padded,
    length_padded hplaces hrest,eq_div_iff hpos.ne',add_mul,div_mul_cancel₀ _ hpos.ne']
  linarith

end Dankong.DecimalText

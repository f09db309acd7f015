import Mathlib.Algebra.Order.Field.Basic
import Mathlib.Tactic.Linarith

/-!
# Ramps

Factors that fall linearly from one to zero between two thresholds, speeds that are
shut off at small factors, and values interpolated between two bounds.
-/

namespace Dankong.Ramps

variable {R : Type*} [Field R] [LinearOrder R]

/-- One up to the low threshold, zero beyond the high one and linear in between; the
high threshold decides if they are out of order. -/
def fall (low high x : R) : R :=
  if high<x then 0 else if low<x then 1-(x-low)/(high-low) else 1

/-- A speed in proportion to a factor, shut off unless the factor exceeds a minimum. -/
def shutOff (minimum speed factor : R) : R := if minimum<factor then speed*factor else 0

variable {low high x y : R}

/-- Beyond the high threshold the factor is zero. -/
theorem fall_of_lt (h : high<x) : fall low high x=0 := if_pos h

variable [IsStrictOrderedRing R]

/-- The falling part lies between zero and one. -/
theorem falling_mem (hlow : low<x) (hhigh : x≤high) :
    0 ≤ 1-(x-low)/(high-low) ∧ 1-(x-low)/(high-low) ≤ 1 := by
  have hwidth : 0<high-low := sub_pos.mpr (hlow.trans_le hhigh)
  have hshare : (x-low)/(high-low) ≤ 1 := by
    rw [div_le_one hwidth]
    exact sub_le_sub_right hhigh low
  have hpos : 0 ≤ (x-low)/(high-low) := div_nonneg (sub_nonneg.mpr hlow.le) hwidth.le
  exact ⟨sub_nonneg.mpr hshare,sub_le_self 1 hpos⟩

/-- The factor lies between zero and one. -/
theorem fall_mem (low high x : R) : 0 ≤ fall low high x ∧ fall low high x ≤ 1 := by
  rw [fall]
  split_ifs with hhigh hlow
  · exact ⟨le_rfl,zero_le_one⟩
  · exact falling_mem hlow (not_lt.mp hhigh)
  · exact ⟨zero_le_one,le_rfl⟩

/-- The factor does not grow. -/
theorem fall_antitone (low high : R) : Antitone (fall low high) := by
  intro x y hxy
  by_cases hy : high<y
  · rw [fall_of_lt hy]
    exact (fall_mem low high x).1
  · have hx : ¬high<x := fun h => hy (h.trans_le hxy)
    by_cases hlow : low<x
    · have hwidth : 0<high-low := sub_pos.mpr (hlow.trans_le (not_lt.mp hx))
      rw [fall,fall,if_neg hy,if_neg hx,if_pos hlow,if_pos (hlow.trans_le hxy)]
      exact sub_le_sub_left (div_le_div_of_nonneg_right (sub_le_sub_right hxy low) hwidth.le) 1
    · have hone : fall low high x=1 := by rw [fall,if_neg hx,if_neg hlow]
      rw [hone]
      exact (fall_mem low high y).2

/-- A speed that is shut off is not negative. -/
theorem shutOff_nonneg {minimum speed factor : R} (hminimum : 0 ≤ minimum) (hspeed : 0 ≤ speed) :
    0 ≤ shutOff minimum speed factor := by
  rw [shutOff]
  split_ifs with hon
  · exact mul_nonneg hspeed (hminimum.trans hon.le)
  · exact le_rfl

/-- A smaller factor does not give a greater speed. -/
theorem shutOff_mono {minimum speed f g : R} (hminimum : 0 ≤ minimum) (hspeed : 0 ≤ speed)
    (hfg : f≤g) : shutOff minimum speed f ≤ shutOff minimum speed g := by
  by_cases hf : minimum<f
  · rw [shutOff,shutOff,if_pos hf,if_pos (hf.trans_le hfg)]
    exact mul_le_mul_of_nonneg_left hfg hspeed
  · have hoff : shutOff minimum speed f=0 := if_neg hf
    rw [hoff]
    exact shutOff_nonneg hminimum hspeed

/-- Part of the way from one bound to the other lies between them. -/
theorem interpolate_mem {a b t : R} (hab : a≤b) (h₀ : 0≤t) (h₁ : t≤1) :
    a ≤ a+(b-a)*t ∧ a+(b-a)*t ≤ b := by
  have hwidth : 0 ≤ b-a := sub_nonneg.mpr hab
  have hupper : (b-a)*t ≤ b-a := mul_le_of_le_one_right hwidth h₁
  exact ⟨le_add_of_nonneg_right (mul_nonneg hwidth h₀),by linarith⟩

end Dankong.Ramps

import Mathlib
import Dankong.Vectors

/-!
# Numeric helpers of the state machine and the tracker

Doubles are read as exact reals. The library calls the program relies on
(`std::hypot`, `std::clamp`, `std::atan2`, `std::remainder`, `std::fmod`) follow their
documented behaviour; the helpers of `state_utils` follow their source.
-/

namespace Dankong.StateUtils

open Real

noncomputable section

/-- `std::hypot`. -/
def hypot (x y : ℝ) : ℝ := √(x*x+y*y)

/-- The length of a pair along the first axis. -/
theorem hypot_axis {x : ℝ} (hx : 0≤x) : hypot x 0=x := by
  rw [hypot,mul_zero,add_zero,sqrt_mul_self hx]

/-- The length of a pair as the norm of a complex number. -/
theorem hypot_eq_norm (x y : ℝ) : hypot x y=‖(⟨x,y⟩ : ℂ)‖ := by
  rw [Complex.norm_eq_sqrt_sq_add_sq,hypot,pow_two,pow_two]

/-- `std::clamp`, with its two comparisons in the order the library makes them. -/
def clamp (v lo hi : ℝ) : ℝ := if v<lo then lo else if hi<v then hi else v

/-- A value inside the bounds is not changed. -/
theorem clamp_of_mem {v lo hi : ℝ} (hlo : lo≤v) (hhi : v≤hi) : clamp v lo hi=v := by
  unfold clamp
  rw [if_neg (not_lt.mpr hlo),if_neg (not_lt.mpr hhi)]

/-- `std::atan2`; its value at the origin is zero. -/
def atan2 (y x : ℝ) : ℝ := Complex.arg ⟨x,y⟩

/-- The nearest integer, halves going to the even neighbour. -/
def roundHalfEven (x : ℝ) : ℤ :=
  if x-⌊x⌋<1/2 then ⌊x⌋
  else if 1/2<x-⌊x⌋ then ⌊x⌋+1
  else if Even ⌊x⌋ then ⌊x⌋ else ⌊x⌋+1

/-- `std::remainder`: the rest against the nearest multiple. -/
def remainder (x y : ℝ) : ℝ := x-roundHalfEven (x/y)*y

/-- The integer part towards zero. -/
def truncate (x : ℝ) : ℤ := if 0≤x then ⌊x⌋ else ⌈x⌉

/-- `std::fmod`: the rest against the multiple towards zero. -/
def fmod (x y : ℝ) : ℝ := x-truncate (x/y)*y

/-- One more turn needs one fewer addition to become nonnegative. -/
theorem turns_up_lt {yaw : ℝ} (h : yaw<0) :
    ⌈-(yaw+2*π)/(2*π)⌉₊<⌈-yaw/(2*π)⌉₊ := by
  have hp : 0<2*π := by positivity
  have hs : -(yaw+2*π)/(2*π)= -yaw/(2*π)-1 := by field_simp; ring
  have hy : 0< -yaw/(2*π) := div_pos (by linarith) hp
  rw [hs,Nat.lt_ceil]
  rcases lt_or_ge (-yaw/(2*π)) 1 with hlt|hge
  · rw [Nat.ceil_eq_zero.mpr (by linarith)]
    simpa using hy
  · have hc := Nat.ceil_lt_add_one (show 0≤ -yaw/(2*π)-1 by linarith)
    linarith

/-- One turn less needs one fewer subtraction to come below a full turn. -/
theorem turns_down_lt {yaw : ℝ} (h : ¬yaw<2*π) :
    ⌊(yaw-2*π)/(2*π)⌋₊<⌊yaw/(2*π)⌋₊ := by
  have hp : 0<2*π := by positivity
  have hs : (yaw-2*π)/(2*π)=yaw/(2*π)-1 := by field_simp
  have hy : 1≤yaw/(2*π) := by rw [le_div_iff₀ hp]; linarith [not_lt.mp h]
  rw [hs]
  have hf := Nat.floor_sub_one (yaw/(2*π))
  have hpos := Nat.floor_pos.mpr hy
  omega

/-- First loop of `norm_yaw`: add whole turns while the angle is negative. -/
def addTurns (yaw : ℝ) : ℝ := if yaw<0 then addTurns (yaw+2*π) else yaw
termination_by ⌈-yaw/(2*π)⌉₊
decreasing_by exact turns_up_lt ‹_›

/-- Second loop of `norm_yaw`: subtract whole turns from a full turn on. -/
def dropTurns (yaw : ℝ) : ℝ := if yaw<2*π then yaw else dropTurns (yaw-2*π)
termination_by ⌊yaw/(2*π)⌋₊
decreasing_by exact turns_down_lt ‹_›

/-- `norm_yaw`: the representative of an angle from zero up to a full turn. -/
def normYaw (yaw : ℝ) : ℝ := dropTurns (addTurns yaw)

/-- `body_to_enu`: the ENU pose of a body-frame offset from the present pose. -/
def bodyToEnu (target odom : Vec4 ℝ) : Vec4 ℝ where
  x := odom.x+(target.x*cos odom.w-target.y*sin odom.w)
  y := odom.y+(target.x*sin odom.w+target.y*cos odom.w)
  z := odom.z+target.z
  w := normYaw (odom.w+target.w)

/-- `AngleController::get_distance` with the controller's memory of turning
clockwise passed in and out. Near half a turn a clockwise turn continues. -/
def getDistance (wasTurningCw : Bool) (current target deadband : ℝ) : ℝ×Bool :=
  let wrapped := remainder (target-current) (2*π)
  let kept := if π-deadband < |wrapped| then
      if wasTurningCw=true ∧ 0<wrapped then wrapped-2*π else wrapped
    else wrapped
  (kept,decide (kept<0))

end

end Dankong.StateUtils

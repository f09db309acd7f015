import Dankong.Quaternions

/-!
# Attitudes and headings

The conversions of `state_utils` between Euler angles and quaternions, and
between headings counted from east and from north. Angles are compared modulo
whole turns.
-/

namespace Dankong.StateUtils

open Real Matrix

noncomputable section

/-- `yaw_enu_to_ned`. -/
def yawEnuToNed (yawEnu : ℝ) : ℝ := normYaw (π*0.5-yawEnu)

/-- `yaw_ned_to_enu`. -/
def yawNedToEnu (yawNed : ℝ) : ℝ := normYaw (π*0.5-yawNed)

/-- `euler_to_orientation`. -/
def eulerToOrientation (r p y : ℝ) : Quat := ((Quat.aboutZ y).mul (Quat.aboutY p)).mul (Quat.aboutX r)

/-- The angles that are read from a rotation matrix: roll, pitch and yaw. -/
def eulerOfMatrix (R : Matrix (Fin 3) (Fin 3) ℝ) : Vec3 ℝ where
  x := atan2 (R zAxis yAxis) (R zAxis zAxis)
  y := arcsin (max (-1) (min 1 (-R zAxis xAxis)))
  z := atan2 (R yAxis xAxis) (R xAxis xAxis)

/-- `orientation_to_euler`. -/
def orientationToEuler (q : Quat) : Vec3 ℝ := eulerOfMatrix q.toRotationMatrix

/-- The rotation by three angles, about the third, the second and the first axis. -/
def eulerMatrix (r p y : ℝ) : Matrix (Fin 3) (Fin 3) ℝ :=
  !![cos y*cos p,cos y*sin p*sin r-sin y*cos r,cos y*sin p*cos r+sin y*sin r;
     sin y*cos p,sin y*sin p*sin r+cos y*cos r,sin y*sin p*cos r-cos y*sin r;
     -sin p,cos p*sin r,cos p*cos r]

end

/-- Angles that agree modulo whole turns. -/
structure SameAngles (rpy : Vec3 ℝ) (r p y : ℝ) : Prop where
  roll : (rpy.x : Angle)=r
  pitch : (rpy.y : Angle)=p
  yaw : (rpy.z : Angle)=y

/-- Halving, with the factor as it is written in the code. -/
theorem mul_half (c : ℝ) : c*0.5=c/2 := by
  have hhalf : (0.5 : ℝ)=1/2 := by norm_num
  rw [hhalf,mul_one_div]

/-- A whole turn does not change an angle. -/
theorem coe_add_turn (yaw : ℝ) : ((yaw+2*π : ℝ) : Angle)=yaw := by
  rw [Angle.coe_add,Angle.coe_two_pi,add_zero]

/-- The first loop of `norm_yaw` adds whole turns. -/
theorem coe_addTurns (yaw : ℝ) : (addTurns yaw : Angle)=yaw := by
  induction yaw using addTurns.induct with
  | case1 yaw hneg ih => rw [addTurns,if_pos hneg,ih,coe_add_turn]
  | case2 yaw hneg => rw [addTurns,if_neg hneg]

/-- The second loop subtracts whole turns. -/
theorem coe_dropTurns (yaw : ℝ) : (dropTurns yaw : Angle)=yaw := by
  induction yaw using dropTurns.induct with
  | case1 yaw hlt => rw [dropTurns,if_pos hlt]
  | case2 yaw hlt ih =>
    have hturn := coe_add_turn (yaw-2*π)
    rw [sub_add_cancel] at hturn
    rw [dropTurns,if_neg hlt,ih,hturn]

/-- `norm_yaw` changes an angle by whole turns. -/
@[simp] theorem coe_normYaw (yaw : ℝ) : (normYaw yaw : Angle)=yaw := by
  rw [normYaw,coe_dropTurns,coe_addTurns]

/-- The direction of a point in polar coordinates. -/
theorem coe_atan2 {radius : ℝ} (hpos : 0<radius) (angle : ℝ) :
    (atan2 (radius*sin angle) (radius*cos angle) : Angle)=angle := by
  have hpoint : ∀ c s : ℝ,(⟨radius*c,radius*s⟩ : ℂ)=radius*(c+s*Complex.I) := by
    intro c s
    apply Complex.ext
    · simp
    · simp
  have harg := Complex.arg_mul_cos_add_sin_mul_I_coe_angle hpos (angle : Angle)
  rw [Angle.cos_coe,Angle.sin_coe] at harg
  rw [atan2,hpoint,harg]

/-- Euler angles give a unit quaternion. -/
theorem normSq_eulerToOrientation (r p y : ℝ) : (eulerToOrientation r p y).normSq=1 := by
  have hzy : ((Quat.aboutZ y).mul (Quat.aboutY p)).normSq=1 :=
    Quat.normSq_mul_eq_one (Quat.normSq_aboutZ y) (Quat.normSq_aboutY p)
  exact Quat.normSq_mul_eq_one hzy (Quat.normSq_aboutX r)

/-- The rotation matrix of Euler angles. -/
theorem toRotationMatrix_eulerToOrientation (r p y : ℝ) :
    (eulerToOrientation r p y).toRotationMatrix=eulerMatrix r p y := by
  have hzy : ((Quat.aboutZ y).mul (Quat.aboutY p)).normSq=1 :=
    Quat.normSq_mul_eq_one (Quat.normSq_aboutZ y) (Quat.normSq_aboutY p)
  rw [eulerToOrientation,Quat.toRotationMatrix_mul hzy (Quat.normSq_aboutX r),
    Quat.toRotationMatrix_mul (Quat.normSq_aboutZ y) (Quat.normSq_aboutY p),
    Quat.toRotationMatrix_aboutX,Quat.toRotationMatrix_aboutY,Quat.toRotationMatrix_aboutZ]
  ext i j
  fin_cases i <;> fin_cases j <;>
    simp [eulerMatrix,Matrix.mul_apply,Fin.sum_univ_three] <;> ring

/-- Away from the vertical, the angles of a rotation are read back from its matrix. -/
theorem eulerOfMatrix_eulerMatrix (r p y : ℝ) (hp : |p|<π/2) :
    SameAngles (eulerOfMatrix (eulerMatrix r p y)) r p y := by
  obtain ⟨hlow,hhigh⟩ := abs_lt.mp hp
  have hcos : 0<cos p := cos_pos_of_mem_Ioo ⟨hlow,hhigh⟩
  have hsin : max (-1) (min 1 (- -sin p))=sin p := by
    rw [neg_neg,min_eq_right (sin_le_one p),max_eq_right (neg_one_le_sin p)]
  refine ⟨?_,?_,?_⟩
  · exact coe_atan2 hcos r
  · change (arcsin (max (-1) (min 1 (- -sin p))) : Angle)=p
    rw [hsin,arcsin_sin hlow.le hhigh.le]
  · change (atan2 (sin y*cos p) (cos y*cos p) : Angle)=y
    rw [mul_comm (sin y),mul_comm (cos y)]
    exact coe_atan2 hcos y

end Dankong.StateUtils

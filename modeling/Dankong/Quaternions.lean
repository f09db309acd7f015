import Dankong.StateUtils

/-!
# Quaternions and rotations of space

Unit quaternions as rotations: products, conjugates, the rotation matrix of a
quaternion and the quaternion of a rotation matrix, with the formulas of the
linear algebra library. Products of unit quaternions are products of matrices.
-/

namespace Dankong

open Matrix

/-- The first coordinate of space. -/
abbrev xAxis : Fin 3 := 0

/-- The second coordinate of space. -/
abbrev yAxis : Fin 3 := 1

/-- The third coordinate of space. -/
abbrev zAxis : Fin 3 := 2

/-- A quaternion, as the attitude is stored. -/
structure Quat where
  /-- Scalar part. -/
  w : ℝ
  /-- Vector part. -/
  x : ℝ
  y : ℝ
  z : ℝ

namespace Quat

/-- The squared length. -/
def normSq (q : Quat) : ℝ := q.w*q.w+q.x*q.x+q.y*q.y+q.z*q.z

/-- The quaternion that does not rotate. -/
def one : Quat := ⟨1,0,0,0⟩

/-- `conjugate`. -/
def conj (q : Quat) : Quat := ⟨q.w,-q.x,-q.y,-q.z⟩

/-- The product of two quaternions. -/
def mul (a b : Quat) : Quat where
  w := a.w*b.w-a.x*b.x-a.y*b.y-a.z*b.z
  x := a.w*b.x+a.x*b.w+a.y*b.z-a.z*b.y
  y := a.w*b.y+a.y*b.w+a.z*b.x-a.x*b.z
  z := a.w*b.z+a.z*b.w+a.x*b.y-a.y*b.x

noncomputable section

/-- `normalize` of an attitude; the zero quaternion stays as it is. -/
def normalize (q : Quat) : Quat :=
  let n := q.w*q.w+q.x*q.x+q.y*q.y+q.z*q.z
  if 0<n then ⟨q.w/√n,q.x/√n,q.y/√n,q.z/√n⟩ else q

/-- `toRotationMatrix` applied to a vector. -/
def rotate (q : Quat) (v : Vec3 ℝ) : Vec3 ℝ where
  x := (1-2.0*(q.y*q.y+q.z*q.z))*v.x+2.0*(q.x*q.y-q.z*q.w)*v.y+2.0*(q.x*q.z+q.y*q.w)*v.z
  y := 2.0*(q.x*q.y+q.z*q.w)*v.x+(1-2.0*(q.x*q.x+q.z*q.z))*v.y+2.0*(q.y*q.z-q.x*q.w)*v.z
  z := 2.0*(q.x*q.z-q.y*q.w)*v.x+2.0*(q.y*q.z+q.x*q.w)*v.y+(1-2.0*(q.x*q.x+q.y*q.y))*v.z

/-- The transposed rotation matrix applied to a vector. -/
def rotateBack (q : Quat) (v : Vec3 ℝ) : Vec3 ℝ :=
  Quat.rotate ⟨q.w,-q.x,-q.y,-q.z⟩ v

/-- `toRotationMatrix`. -/
def toRotationMatrix (q : Quat) : Matrix (Fin 3) (Fin 3) ℝ :=
  !![1-2.0*(q.y*q.y+q.z*q.z),2.0*(q.x*q.y-q.z*q.w),2.0*(q.x*q.z+q.y*q.w);
     2.0*(q.x*q.y+q.z*q.w),1-2.0*(q.x*q.x+q.z*q.z),2.0*(q.y*q.z-q.x*q.w);
     2.0*(q.x*q.z-q.y*q.w),2.0*(q.y*q.z+q.x*q.w),1-2.0*(q.x*q.x+q.y*q.y)]

/-- `Quaterniond(R)`: from the trace if it is positive, and otherwise from the
largest entry of the diagonal. -/
def ofRotationMatrix (R : Matrix (Fin 3) (Fin 3) ℝ) : Quat :=
  let trace := R 0 0+R 1 1+R 2 2
  if 0<trace then
    let s := √(trace+1)
    let t := 0.5/s
    ⟨0.5*s,(R 2 1-R 1 2)*t,(R 0 2-R 2 0)*t,(R 1 0-R 0 1)*t⟩
  else
    let i : Fin 3 := if R 0 0<R 1 1 then 1 else 0
    let i : Fin 3 := if R i i<R 2 2 then 2 else i
    let j := i+1
    let k := j+1
    let s := √(R i i-R j j-R k k+1)
    let t := 0.5/s
    let coeff : Fin 3 → ℝ := fun c =>
      if c=i then 0.5*s else if c=j then (R j i+R i j)*t else (R k i+R i k)*t
    ⟨(R k j-R j k)*t,coeff 0,coeff 1,coeff 2⟩

/-- `AngleAxisd` about the first axis. -/
def aboutX (angle : ℝ) : Quat := ⟨Real.cos (0.5*angle),Real.sin (0.5*angle),0,0⟩

/-- `AngleAxisd` about the second axis. -/
def aboutY (angle : ℝ) : Quat := ⟨Real.cos (0.5*angle),0,Real.sin (0.5*angle),0⟩

/-- `AngleAxisd` about the third axis. -/
def aboutZ (angle : ℝ) : Quat := ⟨Real.cos (0.5*angle),0,0,Real.sin (0.5*angle)⟩

end

variable {a b q : Quat}

/-- The length of a product is the product of the lengths. -/
theorem normSq_mul (a b : Quat) : (a.mul b).normSq=a.normSq*b.normSq := by
  simp only [normSq,mul]
  ring

/-- Unit quaternions are closed under products. -/
theorem normSq_mul_eq_one (ha : a.normSq=1) (hb : b.normSq=1) : (a.mul b).normSq=1 := by
  rw [normSq_mul,ha,hb,one_mul]

/-- Rotations about the axes are unit quaternions. -/
@[simp] theorem normSq_aboutX (angle : ℝ) : (aboutX angle).normSq=1 := by
  have hunit := Real.cos_sq_add_sin_sq (0.5*angle)
  simp only [normSq,aboutX]
  generalize Real.sin (0.5*angle)=s,Real.cos (0.5*angle)=c at hunit ⊢
  linear_combination hunit

@[simp] theorem normSq_aboutY (angle : ℝ) : (aboutY angle).normSq=1 := by
  have hunit := Real.cos_sq_add_sin_sq (0.5*angle)
  simp only [normSq,aboutY]
  generalize Real.sin (0.5*angle)=s,Real.cos (0.5*angle)=c at hunit ⊢
  linear_combination hunit

@[simp] theorem normSq_aboutZ (angle : ℝ) : (aboutZ angle).normSq=1 := by
  have hunit := Real.cos_sq_add_sin_sq (0.5*angle)
  simp only [normSq,aboutZ]
  generalize Real.sin (0.5*angle)=s,Real.cos (0.5*angle)=c at hunit ⊢
  linear_combination hunit

/-- The rotation matrix in its homogeneous form, which is multiplicative. -/
def homogeneous (q : Quat) : Matrix (Fin 3) (Fin 3) ℝ :=
  !![q.w*q.w+q.x*q.x-q.y*q.y-q.z*q.z,(q.x*q.y-q.z*q.w)+(q.x*q.y-q.z*q.w),
      (q.x*q.z+q.y*q.w)+(q.x*q.z+q.y*q.w);
     (q.x*q.y+q.z*q.w)+(q.x*q.y+q.z*q.w),q.w*q.w-q.x*q.x+q.y*q.y-q.z*q.z,
      (q.y*q.z-q.x*q.w)+(q.y*q.z-q.x*q.w);
     (q.x*q.z-q.y*q.w)+(q.x*q.z-q.y*q.w),(q.y*q.z+q.x*q.w)+(q.y*q.z+q.x*q.w),
      q.w*q.w-q.x*q.x-q.y*q.y+q.z*q.z]

/-- The homogeneous form of a product. -/
theorem homogeneous_mul (a b : Quat) : (a.mul b).homogeneous=a.homogeneous*b.homogeneous := by
  ext i j
  fin_cases i <;> fin_cases j <;>
    simp [homogeneous,mul,Matrix.mul_apply,Fin.sum_univ_three] <;> ring

/-- Doubling, with the factor as it is written in the code. -/
theorem twice (c : ℝ) : 2.0*c=c+c := by
  have htwo : (2.0 : ℝ)=2 := by norm_num
  rw [htwo,two_mul]

/-- A unit quaternion has the homogeneous form as its rotation matrix. -/
theorem toRotationMatrix_eq (hq : q.normSq=1) : q.toRotationMatrix=q.homogeneous := by
  have hn : q.w*q.w+q.x*q.x+q.y*q.y+q.z*q.z=1 := hq
  have hx : 1-2.0*(q.y*q.y+q.z*q.z)=q.w*q.w+q.x*q.x-q.y*q.y-q.z*q.z := by
    rw [twice]
    linear_combination -hn
  have hy : 1-2.0*(q.x*q.x+q.z*q.z)=q.w*q.w-q.x*q.x+q.y*q.y-q.z*q.z := by
    rw [twice]
    linear_combination -hn
  have hz : 1-2.0*(q.x*q.x+q.y*q.y)=q.w*q.w-q.x*q.x-q.y*q.y+q.z*q.z := by
    rw [twice]
    linear_combination -hn
  simp only [toRotationMatrix,homogeneous,hx,hy,hz]
  simp only [twice]

/-- The rotation matrix of a product is the product of the rotation matrices. -/
theorem toRotationMatrix_mul (ha : a.normSq=1) (hb : b.normSq=1) :
    (a.mul b).toRotationMatrix=a.toRotationMatrix*b.toRotationMatrix := by
  rw [toRotationMatrix_eq (normSq_mul_eq_one ha hb),toRotationMatrix_eq ha,
    toRotationMatrix_eq hb,homogeneous_mul]

/-- The conjugate has the transposed rotation matrix. -/
theorem toRotationMatrix_conj (q : Quat) : q.conj.toRotationMatrix=q.toRotationMatrixᵀ := by
  simp only [toRotationMatrix,conj,twice]
  ext i j
  fin_cases i <;> fin_cases j <;> simp <;> ring

/-- A unit quaternion times its conjugate does not rotate. -/
theorem mul_conj (hq : q.normSq=1) : q.mul q.conj=one := by
  have hn : q.w*q.w+q.x*q.x+q.y*q.y+q.z*q.z=1 := hq
  have hw : q.w*q.w-q.x* -q.x-q.y* -q.y-q.z* -q.z=1 := by linear_combination hn
  have hx : q.w* -q.x+q.x*q.w+q.y* -q.z-q.z* -q.y=0 := by ring
  have hy : q.w* -q.y+q.y*q.w+q.z* -q.x-q.x* -q.z=0 := by ring
  have hz : q.w* -q.z+q.z*q.w+q.x* -q.y-q.y* -q.x=0 := by ring
  simp only [mul,conj,one,hw,hx,hy,hz]

/-- The rotation matrix of a unit quaternion is orthogonal. -/
theorem toRotationMatrix_mul_transpose (hq : q.normSq=1) :
    q.toRotationMatrix*q.toRotationMatrixᵀ=1 := by
  have hconj : q.conj.normSq=1 := by
    rw [←hq]
    simp only [normSq,conj]
    ring
  rw [←toRotationMatrix_conj,←toRotationMatrix_mul hq hconj,mul_conj hq]
  ext i j
  fin_cases i <;> fin_cases j <;> simp [toRotationMatrix,one]

/-- Half an angle, twice. -/
theorem two_mul_half (angle : ℝ) : 2*(0.5*angle)=angle := by
  have hone : (2 : ℝ)*0.5=1 := by norm_num
  rw [←mul_assoc,hone,one_mul]

/-- Twice the square of the sine of half an angle. -/
theorem one_sub_sin_half (angle : ℝ) :
    1-2.0*(Real.sin (0.5*angle)*Real.sin (0.5*angle))=Real.cos angle := by
  have hdouble := Real.cos_two_mul' (0.5*angle)
  have hunit := Real.cos_sq_add_sin_sq (0.5*angle)
  rw [two_mul_half] at hdouble
  rw [twice,hdouble]
  generalize Real.sin (0.5*angle)=s,Real.cos (0.5*angle)=c at hunit
  linear_combination -hunit

/-- Twice the product of the sine and the cosine of half an angle. -/
theorem sin_half_mul_cos_half (angle : ℝ) :
    2.0*(Real.sin (0.5*angle)*Real.cos (0.5*angle))=Real.sin angle := by
  have hdouble := Real.sin_two_mul (0.5*angle)
  rw [two_mul_half] at hdouble
  rw [twice,hdouble,mul_assoc,two_mul]

/-- The matrix of a rotation about the first axis. -/
theorem toRotationMatrix_aboutX (angle : ℝ) : (aboutX angle).toRotationMatrix=
    !![1,0,0;0,Real.cos angle,-Real.sin angle;0,Real.sin angle,Real.cos angle] := by
  rw [←one_sub_sin_half angle,←sin_half_mul_cos_half angle]
  ext i j
  fin_cases i <;> fin_cases j <;> simp [toRotationMatrix,aboutX]

/-- The matrix of a rotation about the second axis. -/
theorem toRotationMatrix_aboutY (angle : ℝ) : (aboutY angle).toRotationMatrix=
    !![Real.cos angle,0,Real.sin angle;0,1,0;-Real.sin angle,0,Real.cos angle] := by
  rw [←one_sub_sin_half angle,←sin_half_mul_cos_half angle]
  ext i j
  fin_cases i <;> fin_cases j <;> simp [toRotationMatrix,aboutY]

/-- The matrix of a rotation about the third axis. -/
theorem toRotationMatrix_aboutZ (angle : ℝ) : (aboutZ angle).toRotationMatrix=
    !![Real.cos angle,-Real.sin angle,0;Real.sin angle,Real.cos angle,0;0,0,1] := by
  rw [←one_sub_sin_half angle,←sin_half_mul_cos_half angle]
  ext i j
  fin_cases i <;> fin_cases j <;> simp [toRotationMatrix,aboutZ]

/-- The quaternion of a matrix whose first diagonal entry decides. -/
theorem ofRotationMatrix_of_first {R : Matrix (Fin 3) (Fin 3) ℝ}
    (htrace : ¬0<R 0 0+R 1 1+R 2 2) (hy : ¬R 0 0<R 1 1) (hz : ¬R 0 0<R 2 2) :
    ofRotationMatrix R=⟨(R 2 1-R 1 2)*(0.5/√(R 0 0-R 1 1-R 2 2+1)),
      0.5*√(R 0 0-R 1 1-R 2 2+1),(R 1 0+R 0 1)*(0.5/√(R 0 0-R 1 1-R 2 2+1)),
      (R 2 0+R 0 2)*(0.5/√(R 0 0-R 1 1-R 2 2+1))⟩ := by
  rw [ofRotationMatrix,if_neg htrace]
  dsimp only
  rw [if_neg hy,if_neg hz]
  rfl

/-- A unit quaternion undoes the rotation of its conjugate. -/
theorem rotate_rotateBack (hq : q.normSq=1) (v : Vec3 ℝ) : q.rotate (q.rotateBack v)=v := by
  have hn : q.w*q.w+q.x*q.x+q.y*q.y+q.z*q.z=1 := hq
  ext
  · simp only [rotate,rotateBack,twice]
    linear_combination 4*((q.y*q.y+q.z*q.z)*v.x-q.x*q.y*v.y-q.x*q.z*v.z)*hn
  · simp only [rotate,rotateBack,twice]
    linear_combination 4*((q.x*q.x+q.z*q.z)*v.y-q.y*q.x*v.x-q.y*q.z*v.z)*hn
  · simp only [rotate,rotateBack,twice]
    linear_combination 4*((q.x*q.x+q.y*q.y)*v.z-q.z*q.x*v.x-q.z*q.y*v.y)*hn

/-- A unit quaternion turns back different vectors to different vectors. -/
theorem rotateBack_inj (hq : q.normSq=1) (u v : Vec3 ℝ) : q.rotateBack u=q.rotateBack v ↔ u=v := by
  refine ⟨fun h => ?_,fun h => by rw [h]⟩
  rw [←rotate_rotateBack hq u,h,rotate_rotateBack hq]

end Quat

end Dankong

import Mathlib.Algebra.Order.Star.Real
import Mathlib.LinearAlgebra.Matrix.PosDef

/-!
# Covariances of a Kalman filter

A filter predicts `F*P*Fᵀ+Q`, takes `S=H*P*Hᵀ+R` as the covariance of the
innovation and corrects with a gain `K` to `(1-K*H)*P`. The gain enters through
the equation `K*S=P*Hᵀ` alone, so nothing here speaks of an inverse. The corrected
covariance is a sum of two congruences, which is why it stays a covariance.
-/

namespace Dankong.Covariance

open Matrix

variable {n m : Type*} [Fintype n] [Fintype m]

/-- A congruence keeps semidefiniteness. -/
theorem posSemidef_congruence {P : Matrix n n ℝ} (hP : P.PosSemidef) (F : Matrix m n ℝ) :
    (F*P*Fᵀ).PosSemidef := by
  have h := hP.mul_mul_conjTranspose_same F
  rwa [conjTranspose_eq_transpose_of_trivial] at h

/-- The prediction is a covariance if the process noise is one. -/
theorem posSemidef_predicted {P Q : Matrix n n ℝ} (hP : P.PosSemidef) (hQ : Q.PosSemidef)
    (F : Matrix n n ℝ) : (F*P*Fᵀ+Q).PosSemidef :=
  (posSemidef_congruence hP F).add hQ

/-- It is definite if the process noise is. -/
theorem posDef_predicted {P Q : Matrix n n ℝ} (hP : P.PosSemidef) (hQ : Q.PosDef)
    (F : Matrix n n ℝ) : (F*P*Fᵀ+Q).PosDef :=
  PosDef.posSemidef_add (posSemidef_congruence hP F) hQ

/-- Definite measurement noise makes the innovation definite. -/
theorem posDef_innovation {P : Matrix n n ℝ} {R : Matrix m m ℝ} (hP : P.PosSemidef)
    (hR : R.PosDef) (H : Matrix m n ℝ) : (H*P*Hᵀ+R).PosDef :=
  PosDef.posSemidef_add (posSemidef_congruence hP H) hR

/-- No innovation variance is below the noise of its measurement. -/
theorem noise_le_innovation {P : Matrix n n ℝ} (hP : P.PosSemidef) (H : Matrix m n ℝ)
    (R : Matrix m m ℝ) (i : m) : R i i≤(H*P*Hᵀ+R) i i := by
  have h := (posSemidef_congruence hP H).diag_nonneg (i := i)
  rw [Matrix.add_apply]
  exact le_add_of_nonneg_left h

/-- The form of a congruence, read in the directions of the matrix inside. -/
theorem dotProduct_congruence (P : Matrix n n ℝ) (F : Matrix m n ℝ) (x : m → ℝ) :
    x ⬝ᵥ ((F*P*Fᵀ) *ᵥ x)=(Fᵀ *ᵥ x) ⬝ᵥ (P *ᵥ (Fᵀ *ᵥ x)) := by
  rw [←mulVec_mulVec,←mulVec_mulVec,dotProduct_mulVec,←mulVec_transpose]

/-- A direction in which the form is negative refutes semidefiniteness. -/
theorem not_posSemidef_of_neg {P : Matrix n n ℝ} (x : n → ℝ) (h : x ⬝ᵥ (P *ᵥ x)<0) :
    ¬P.PosSemidef := by
  intro hP
  have hnonneg := hP.dotProduct_mulVec_nonneg x
  rw [star_trivial] at hnonneg
  exact not_le.mpr h hnonneg

omit [Fintype n] in
/-- So does a negative variance. -/
theorem not_posSemidef_of_diag_neg {P : Matrix n n ℝ} {i : n} (h : P i i<0) : ¬P.PosSemidef :=
  fun hP => not_le.mpr h hP.diag_nonneg

/-- The gain of a prediction `P` measured through `H` with noise `R`. -/
def IsGain (K : Matrix n m ℝ) (H : Matrix m n ℝ) (P : Matrix n n ℝ) (R : Matrix m m ℝ) : Prop :=
  K*(H*P*Hᵀ+R)=P*Hᵀ

/-- A gain computed with the inverse of the innovation. -/
theorem isGain_inverse [DecidableEq m] {H : Matrix m n ℝ} {P : Matrix n n ℝ} {R : Matrix m m ℝ}
    (h : (H*P*Hᵀ+R).PosDef) : IsGain (P*Hᵀ*(H*P*Hᵀ+R)⁻¹) H P R := by
  have hunit : IsUnit (H*P*Hᵀ+R).det := (isUnit_iff_isUnit_det _).mp h.isUnit
  rw [IsGain,Matrix.mul_assoc,nonsing_inv_mul _ hunit,Matrix.mul_one]

variable [DecidableEq n] {K : Matrix n m ℝ} {H : Matrix m n ℝ} {P : Matrix n n ℝ}
  {R : Matrix m m ℝ} (hK : IsGain K H P R)

include hK

/-- The correction in the direction of a measurement is the gain times the noise. -/
theorem corrected_mul_transpose : (1-K*H)*P*Hᵀ=K*R := by
  have hsplit : K*(H*P*Hᵀ)+K*R=P*Hᵀ := by
    rw [←Matrix.mul_add]
    exact hK
  calc (1-K*H)*P*Hᵀ=P*Hᵀ-K*(H*P*Hᵀ) := by
        rw [Matrix.sub_mul,Matrix.sub_mul,Matrix.one_mul]
        simp only [Matrix.mul_assoc]
    _=K*R := by rw [←hsplit,add_sub_cancel_left]

/-- The corrected covariance as a sum of two congruences. -/
theorem corrected_eq_congruences : (1-K*H)*P=(1-K*H)*P*(1-K*H)ᵀ+K*R*Kᵀ := by
  have hside : (1-K*H)*P*(1-K*H)ᵀ=(1-K*H)*P-K*R*Kᵀ := by
    rw [transpose_sub,transpose_one,transpose_mul,Matrix.mul_sub,Matrix.mul_one,
      ←Matrix.mul_assoc,corrected_mul_transpose hK]
  rw [hside,sub_add_cancel]

/-- The correction of a covariance is a covariance. -/
theorem posSemidef_corrected (hP : P.PosSemidef) (hR : R.PosSemidef) :
    ((1-K*H)*P).PosSemidef := by
  rw [corrected_eq_congruences hK]
  exact (posSemidef_congruence hP _).add (posSemidef_congruence hR _)

/-- It stays definite where the prediction and the noise are: a direction that the
prediction does not see any more is one of the measurements. -/
theorem posDef_corrected (hP : P.PosDef) (hR : R.PosDef) : ((1-K*H)*P).PosDef := by
  have hsemi := posSemidef_corrected hK hP.posSemidef hR.posSemidef
  refine PosDef.of_dotProduct_mulVec_pos hsemi.isHermitian fun x hx => ?_
  rw [star_trivial,corrected_eq_congruences hK,add_mulVec,dotProduct_add,
    dotProduct_congruence,dotProduct_congruence]
  have hnoise : ∀ y,0≤y ⬝ᵥ (R *ᵥ y) := hR.posSemidef.dotProduct_mulVec_nonneg
  by_cases hseen : (1-K*H)ᵀ *ᵥ x=0
  · have hback : Hᵀ *ᵥ (Kᵀ *ᵥ x)=x := by
      rw [transpose_sub,transpose_one,transpose_mul,sub_mulVec,one_mulVec,sub_eq_zero] at hseen
      rw [mulVec_mulVec]
      exact hseen.symm
    have hmeasured : Kᵀ *ᵥ x≠0 := by
      intro hzero
      rw [hzero,mulVec_zero] at hback
      exact hx hback.symm
    have hpos : 0<(Kᵀ *ᵥ x) ⬝ᵥ (R *ᵥ (Kᵀ *ᵥ x)) := hR.dotProduct_mulVec_pos hmeasured
    rw [hseen,zero_dotProduct,zero_add]
    exact hpos
  · have hpos : 0<((1-K*H)ᵀ *ᵥ x) ⬝ᵥ (P *ᵥ ((1-K*H)ᵀ *ᵥ x)) := hP.dotProduct_mulVec_pos hseen
    exact add_pos_of_pos_of_nonneg hpos (hnoise _)

end Dankong.Covariance

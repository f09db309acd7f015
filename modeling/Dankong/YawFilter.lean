import Dankong.Covariance
import Dankong.Runs
import Dankong.StateUtils

/-!
# Yaw filter

`KalmanFilterYaw` estimates the yaw of the landing target and its rate from measured
yaws. Doubles are read as exact reals.
-/

namespace Dankong.YawFilter

open Matrix Real Covariance Runs StateUtils

noncomputable section

/-- Place of the yaw in the state. -/
abbrev yawPlace : Fin 2 := 0

/-- Place of the yaw rate. -/
abbrev ratePlace : Fin 2 := 1

/-- State and covariance of the filter. -/
@[ext] structure KalmanFilterYaw where
  /-- `x_`: yaw and yaw rate. -/
  x : Fin 2 → ℝ
  /-- `P_`. -/
  P : Matrix (Fin 2) (Fin 2) ℝ

/-- `F_` with the step time in place. -/
def F (dt : ℝ) : Matrix (Fin 2) (Fin 2) ℝ := !![1,dt;0,1]

/-- `H_`: the yaw alone is measured. -/
def H : Matrix Unit (Fin 2) ℝ := of fun _ => ![1,0]

/-- `Q_`. -/
def Q : Matrix (Fin 2) (Fin 2) ℝ := (0.05 : ℝ)•1

/-- `R_`. -/
def R : ℝ := 0.5

/-- `R_` as the noise of the one measurement. -/
def noise : Matrix Unit Unit ℝ := of fun _ _ => R

/-- The filter after construction. -/
def construct : KalmanFilterYaw := ⟨![0,0],1⟩

/-- `reset`. -/
def reset (initialYaw : ℝ) : KalmanFilterYaw := ⟨![initialYaw,0],1⟩

/-- `normalize_angle`. -/
def normalizeAngle (angle : ℝ) : ℝ := atan2 (sin angle) (cos angle)

/-- `force_set_state`. -/
def forceSetState (yaw : ℝ) : KalmanFilterYaw := ⟨![yaw,0],(0.01 : ℝ)•1⟩

/-- The state with its yaw normalised. -/
def wrapped (x : Fin 2 → ℝ) : Fin 2 → ℝ := ![normalizeAngle (x yawPlace),x ratePlace]

/-- The predicted state. -/
def predictedState (s : KalmanFilterYaw) (dt : ℝ) : Fin 2 → ℝ := wrapped (F dt *ᵥ s.x)

/-- The predicted covariance. -/
def predictedCovariance (s : KalmanFilterYaw) (dt : ℝ) : Matrix (Fin 2) (Fin 2) ℝ :=
  F dt*s.P*(F dt)ᵀ+Q

/-- The variance `S` of the innovation. -/
def innovationVariance (s : KalmanFilterYaw) (dt : ℝ) : ℝ :=
  (H*predictedCovariance s dt*Hᵀ) () ()+R

/-- The gain `K`. -/
def gain (s : KalmanFilterYaw) (dt : ℝ) : Matrix (Fin 2) Unit ℝ :=
  of fun i j => (predictedCovariance s dt*Hᵀ) i j/innovationVariance s dt

/-- The innovation, along the shorter way round. -/
def innovation (s : KalmanFilterYaw) (measYaw dt : ℝ) : ℝ :=
  normalizeAngle (measYaw-predictedState s dt yawPlace)

/-- `update`. -/
def update (s : KalmanFilterYaw) (measYaw dt : ℝ) : KalmanFilterYaw :=
  if dt≤0 then s
  else
    { x := wrapped fun i => predictedState s dt i+gain s dt i ()*innovation s measYaw dt
      P := (1-gain s dt*H)*predictedCovariance s dt }

/-- `get_yaw`. -/
def getYaw (s : KalmanFilterYaw) : ℝ := s.x yawPlace

/-- The calls of the filter. -/
inductive Call where
  | reset (initialYaw : ℝ)
  | forceSetState (yaw : ℝ)
  | update (measYaw dt : ℝ)

/-- One call. -/
def step (s : KalmanFilterYaw) : Call → KalmanFilterYaw
  | .reset initialYaw => reset initialYaw
  | .forceSetState yaw => forceSetState yaw
  | .update measYaw dt => update s measYaw dt

/-- The filter after a list of calls. -/
def after (calls : List Call) : KalmanFilterYaw := runFrom step construct calls

/-- Normalised angles lie within half a turn. -/
theorem normalizeAngle_mem (angle : ℝ) : normalizeAngle angle∈Set.Icc (-π) π :=
  ⟨(Complex.neg_pi_lt_arg _).le,Complex.arg_le_pi _⟩

/-- Whole turns do not change a normalised angle. -/
theorem normalizeAngle_add_turns (angle : ℝ) (k : ℤ) :
    normalizeAngle (angle+k*(2*π))=normalizeAngle angle := by
  rw [normalizeAngle,sin_add_int_mul_two_pi,cos_add_int_mul_two_pi,normalizeAngle]

/-- The process noise is definite. -/
theorem posDef_Q : Q.PosDef := PosDef.one.smul (by norm_num)

/-- The measurement noise is definite. -/
theorem posDef_noise : noise.PosDef := by
  have hdiagonal : noise=(0.5 : ℝ)•1 := by
    ext i j
    rw [Matrix.smul_apply,one_apply_eq,smul_eq_mul,mul_one]
    rfl
  rw [hdiagonal]
  exact PosDef.one.smul (by norm_num)

section

variable {s : KalmanFilterYaw} (hs : s.P.PosDef) (dt : ℝ)

include hs

/-- The prediction keeps the covariance definite. -/
theorem posDef_predictedCovariance : (predictedCovariance s dt).PosDef :=
  posDef_predicted hs.posSemidef posDef_Q _

/-- The innovation variance is at least the measurement noise. -/
theorem noise_le_innovationVariance : R≤ innovationVariance s dt :=
  noise_le_innovation (posDef_predictedCovariance hs dt).posSemidef H noise ()

/-- The division by the innovation variance gives the gain of the filter. -/
theorem isGain_gain : IsGain (gain s dt) H (predictedCovariance s dt) noise := by
  have hpos : 0< innovationVariance s dt :=
    lt_of_lt_of_le (by norm_num [R]) (noise_le_innovationVariance hs dt)
  ext i j
  rw [mul_apply,Fintype.sum_unique]
  exact div_mul_cancel₀ _ hpos.ne'

/-- An update keeps the covariance definite. -/
theorem posDef_update (measYaw : ℝ) : (update s measYaw dt).P.PosDef := by
  rw [update]
  split_ifs with hdt
  · exact hs
  · exact posDef_corrected (isGain_gain hs dt) (posDef_predictedCovariance hs dt) posDef_noise

end

/-- So does every call. -/
theorem posDef_step (s : KalmanFilterYaw) (call : Call) (hs : s.P.PosDef) :
    (step s call).P.PosDef := by
  cases call with
  | reset initialYaw => exact PosDef.one
  | forceSetState yaw => exact PosDef.one.smul (by norm_num)
  | update measYaw dt => exact posDef_update hs dt measYaw

/-- The covariance is definite after every run. -/
theorem posDef_after (calls : List Call) : (after calls).P.PosDef :=
  run_invariant posDef_step calls PosDef.one

/-- An update wraps the yaw. -/
theorem getYaw_update_mem (s : KalmanFilterYaw) (measYaw : ℝ) {dt : ℝ} (hdt : 0<dt) :
    getYaw (update s measYaw dt)∈Set.Icc (-π) π := by
  rw [update,if_neg (not_le.mpr hdt)]
  exact normalizeAngle_mem _

/-- The two calls differ by whole turns of a measurement at most. -/
inductive UpToTurns : Call → Call → Prop where
  | refl (call : Call) : UpToTurns call call
  | turned (measYaw dt : ℝ) (k : ℤ) :
      UpToTurns (.update measYaw dt) (.update (measYaw+k*(2*π)) dt)

/-- Whole turns of a measurement do not change the innovation. -/
theorem innovation_add_turns (s : KalmanFilterYaw) (measYaw dt : ℝ) (k : ℤ) :
    innovation s (measYaw+k*(2*π)) dt=innovation s measYaw dt := by
  rw [innovation,add_sub_right_comm,normalizeAngle_add_turns,innovation]

/-- Nor the effect of a call. -/
theorem step_upToTurns (s : KalmanFilterYaw) {call other : Call} (h : UpToTurns call other) :
    step s other=step s call := by
  cases h with
  | refl => rfl
  | turned measYaw dt k =>
    dsimp only [step,update]
    rw [innovation_add_turns]

/-- Nor the effect of a run. -/
theorem runFrom_upToTurns {calls others : List Call} (h : List.Forall₂ UpToTurns calls others)
    (s : KalmanFilterYaw) : runFrom step s others=runFrom step s calls := by
  induction h generalizing s with
  | nil => rfl
  | cons hcall _ ih => rw [runFrom_cons,runFrom_cons,step_upToTurns s hcall,ih]

/-- What the filter promises after a list of calls. -/
structure SoundOnCircle (calls : List Call) : Prop where
  /-- The covariance is symmetric. -/
  symm : (after calls).P.IsSymm
  /-- It is definite. -/
  posDef : (after calls).P.PosDef
  /-- The variance that the next update divides by is at least the measurement noise. -/
  noise_le : ∀ dt,0<dt → R≤ innovationVariance (after calls) dt
  /-- The next update leaves a yaw within half a turn. -/
  wrapped : ∀ measYaw dt,0<dt → getYaw (after (calls++[.update measYaw dt]))∈Set.Icc (-π) π
  /-- Whole turns added to measurements change neither estimate nor covariance. -/
  turns : ∀ others,List.Forall₂ UpToTurns calls others → after others=after calls

/-- The filter is sound on the circle after every run. -/
theorem yawFilter_sound (calls : List Call) : SoundOnCircle calls where
  symm := by
    have h := (posDef_after calls).isHermitian
    rwa [IsHermitian,conjTranspose_eq_transpose_of_trivial] at h
  posDef := posDef_after calls
  noise_le dt _ := noise_le_innovationVariance (posDef_after calls) dt
  wrapped measYaw dt hdt := by
    rw [after,runFrom_append]
    exact getYaw_update_mem _ measYaw hdt
  turns _ hothers := runFrom_upToTurns hothers construct

end

end Dankong.YawFilter

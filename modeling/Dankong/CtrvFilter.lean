import Dankong.Covariance
import Dankong.Runs
import Dankong.Setpoints

/-!
# Position filter

`KalmanFilterCTRV` follows the landing target in the plane, with constant speed and
turn rate between two frames. Doubles are read as exact reals.
-/

namespace Dankong.CtrvFilter

open Matrix Real Covariance Runs StateUtils

noncomputable section

/-- Place of `pos_x` in the state. -/
abbrev pxPlace : Fin 5 := 0

/-- Place of `pos_y`. -/
abbrev pyPlace : Fin 5 := 1

/-- Place of `v`. -/
abbrev vPlace : Fin 5 := 2

/-- Place of `yaw`. -/
abbrev yawPlace : Fin 5 := 3

/-- Place of `omega`. -/
abbrev omegaPlace : Fin 5 := 4

/-- The public settings of the filter; noise, threshold and scale are positive. -/
structure Settings where
  /-- `base_r_noise_`. -/
  baseRNoise : ℝ
  /-- `adaptive_threshold_`. -/
  adaptiveThreshold : ℝ
  /-- `max_q_scale_`. -/
  maxQScale : ℝ
  /-- The noise is positive. -/
  baseRNoise_pos : 0<baseRNoise
  /-- The threshold is positive. -/
  adaptiveThreshold_pos : 0<adaptiveThreshold
  /-- The scale is positive. -/
  maxQScale_pos : 0< maxQScale

/-- The settings in the source. -/
def defaultSettings : Settings where
  baseRNoise := 0.3
  adaptiveThreshold := 5.0
  maxQScale := 10.0
  baseRNoise_pos := by norm_num
  adaptiveThreshold_pos := by norm_num
  maxQScale_pos := by norm_num

/-- The filter. -/
structure KalmanFilterCTRV where
  /-- `update_count_`. -/
  updateCount : ℕ
  /-- `x_`: position, speed, yaw and turn rate. -/
  x : Fin 5 → ℝ
  /-- `P_`. -/
  P : Matrix (Fin 5) (Fin 5) ℝ

/-- The arguments of an update. -/
structure Reading where
  /-- `meas_x`. -/
  measX : ℝ
  /-- `meas_y`. -/
  measY : ℝ
  /-- `dt`. -/
  dt : ℝ
  /-- `current_z`. -/
  currentZ : ℝ
  /-- `angular_rate`. -/
  angularRate : ℝ
  /-- `visual_angle_deg`. -/
  visualAngleDeg : ℝ
  /-- `max_acc`. -/
  maxAcc : ℝ := 1.0
  /-- `max_yaw_acc`. -/
  maxYawAcc : ℝ := 0.5
  /-- The angular rate is a norm. -/
  angularRate_nonneg : 0≤angularRate

/-- `H_`. -/
def H : Matrix (Fin 2) (Fin 5) ℝ := !![1,0,0,0,0;0,1,0,0,0]

/-- The filter after construction, and after `reset`. -/
def construct : KalmanFilterCTRV := ⟨0,![0,0,0,0,0],(10.0 : ℝ)•1⟩

/-- `force_set_state`. -/
def forceSetState (s : KalmanFilterCTRV) (x y : ℝ) : KalmanFilterCTRV :=
  { s with x := ![x,y,0,0,0], P := (0.01 : ℝ)•1 }

/-- `normalize_angle`; its loops are those of `normalize_yaw`. -/
def normalizeAngle (angle : ℝ) : ℝ := Setpoint.raiseTurns (Setpoint.lowerTurns angle)

/-- `get_vel`. -/
def getVel (s : KalmanFilterCTRV) : Vec2 ℝ :=
  if s.updateCount<5 then ⟨0,0⟩
  else ⟨s.x vPlace*cos (s.x yawPlace),s.x vPlace*sin (s.x yawPlace)⟩

/-- The state with its yaw normalised. -/
def wrapped (x : Fin 5 → ℝ) : Fin 5 → ℝ :=
  ![x pxPlace,x pyPlace,x vPlace,normalizeAngle (x yawPlace),x omegaPlace]

/-- `x_pred`: on a circle, or straight on where the turn rate is small. -/
def predictedState (x : Fin 5 → ℝ) (dt : ℝ) : Fin 5 → ℝ :=
  let v := x vPlace
  let yaw := x yawPlace
  let omega := x omegaPlace
  if 0.0001< |omega| then
    ![x pxPlace+v/omega*(sin (yaw+omega*dt)-sin yaw),
      x pyPlace+v/omega*(-cos (yaw+omega*dt)+cos yaw),
      v,normalizeAngle (yaw+omega*dt),omega]
  else
    ![x pxPlace+v*dt*cos yaw,x pyPlace+v*dt*sin yaw,v,normalizeAngle (yaw+omega*dt),omega]

/-- `F_j`. -/
def jacobian (x : Fin 5 → ℝ) (dt : ℝ) : Matrix (Fin 5) (Fin 5) ℝ :=
  let v := x vPlace
  let yaw := x yawPlace
  let omega := x omegaPlace
  if 0.0001< |omega| then
    !![1,0,(sin (yaw+omega*dt)-sin yaw)/omega,v/omega*(cos (yaw+omega*dt)-cos yaw),
        v/(omega*omega)*(sin yaw-sin (yaw+omega*dt))+v*dt/omega*cos (yaw+omega*dt);
      0,1,(-cos (yaw+omega*dt)+cos yaw)/omega,v/omega*(sin (yaw+omega*dt)-sin yaw),
        v/(omega*omega)*(cos (yaw+omega*dt)-cos yaw)+v*dt/omega*sin (yaw+omega*dt);
      0,0,1,0,0;
      0,0,0,1,dt;
      0,0,0,0,1]
  else
    !![1,0,cos yaw*dt,-v*sin yaw*dt,-0.5*v*sin yaw*dt*dt;
      0,1,sin yaw*dt,v*cos yaw*dt,0.5*v*cos yaw*dt*dt;
      0,0,1,0,0;
      0,0,0,1,dt;
      0,0,0,0,1]

/-- `Q`. Both positions share the noise of the speed, but not each other's. -/
def processNoise (r : Reading) : Matrix (Fin 5) (Fin 5) ℝ :=
  let dt2 := r.dt*r.dt
  let dt3 := dt2*r.dt
  let dt4 := dt3*r.dt
  let varA := r.maxAcc*r.maxAcc
  let varYawA := r.maxYawAcc*r.maxYawAcc
  !![dt4/4.0*varA,0,dt3/2.0*varA,0,0;
    0,dt4/4.0*varA,dt3/2.0*varA,0,0;
    dt3/2.0*varA,dt3/2.0*varA,dt2*varA,0,0;
    0,0,0,dt4/4.0*varYawA,dt3/2.0*varYawA;
    0,0,0,dt3/2.0*varYawA,dt2*varYawA]

/-- `dynamic_r`. -/
def dynamicR (settings : Settings) (r : Reading) : ℝ :=
  let heightFactor := clamp (r.currentZ/2.0) 0.8 3.0
  let rotationFactor := 1.0+r.angularRate*5.0
  let angleFactor := 1.0+(r.visualAngleDeg/10.0)^2
  settings.baseRNoise*heightFactor*heightFactor*rotationFactor*angleFactor

/-- `R`. -/
def measurementNoise (settings : Settings) (r : Reading) : Matrix (Fin 2) (Fin 2) ℝ :=
  dynamicR settings r•1

/-- `y`. -/
def residual (s : KalmanFilterCTRV) (r : Reading) : Fin 2 → ℝ :=
  ![r.measX,r.measY]-H *ᵥ predictedState s.x r.dt

/-- `P_pred` with the given process noise. -/
def predictedCovariance (s : KalmanFilterCTRV) (r : Reading) (Q : Matrix (Fin 5) (Fin 5) ℝ) :
    Matrix (Fin 5) (Fin 5) ℝ :=
  jacobian s.x r.dt*s.P*(jacobian s.x r.dt)ᵀ+Q

/-- `S` with the given process noise. -/
def innovation (settings : Settings) (s : KalmanFilterCTRV) (r : Reading)
    (Q : Matrix (Fin 5) (Fin 5) ℝ) : Matrix (Fin 2) (Fin 2) ℝ :=
  H*predictedCovariance s r Q*Hᵀ+measurementNoise settings r

/-- `epsilon`. -/
def squaredDistance (settings : Settings) (s : KalmanFilterCTRV) (r : Reading) : ℝ :=
  residual s r ⬝ᵥ ((innovation settings s r (processNoise r))⁻¹ *ᵥ residual s r)

/-- `dynamic_threshold`. -/
def dynamicThreshold (settings : Settings) (r : Reading) : ℝ :=
  if 3.0<r.currentZ then settings.adaptiveThreshold+min 10.0 ((r.currentZ-3.0)*2.0)
  else settings.adaptiveThreshold

/-- `adaptive_Q`. -/
def adaptiveNoise (settings : Settings) (s : KalmanFilterCTRV) (r : Reading) :
    Matrix (Fin 5) (Fin 5) ℝ :=
  min settings.maxQScale (squaredDistance settings s r/dynamicThreshold settings r)•
    processNoise r

/-- The process noise that an update ends up with. -/
def addedNoise (settings : Settings) (s : KalmanFilterCTRV) (r : Reading) :
    Matrix (Fin 5) (Fin 5) ℝ :=
  if dynamicThreshold settings r<squaredDistance settings s r then adaptiveNoise settings s r
  else processNoise r

/-- `K`. -/
def gain (settings : Settings) (s : KalmanFilterCTRV) (r : Reading) :
    Matrix (Fin 5) (Fin 2) ℝ :=
  predictedCovariance s r (addedNoise settings s r)*Hᵀ*
    (innovation settings s r (addedNoise settings s r))⁻¹

/-- `update`: the filter afterwards, `epsilon` and the velocity that is returned. -/
def update (settings : Settings) (s : KalmanFilterCTRV) (epsilon : ℝ) (r : Reading) :
    KalmanFilterCTRV×ℝ×Vec2 ℝ :=
  let counted := { s with updateCount := s.updateCount+1 }
  if r.dt≤0.0001 then (counted,epsilon,getVel counted)
  else
    let next := { counted with
      x := wrapped (predictedState s.x r.dt+gain settings s r *ᵥ residual s r)
      P := (1-gain settings s r*H)*predictedCovariance s r (addedNoise settings s r) }
    (next,squaredDistance settings s r,getVel next)

/-- The calls of the filter. -/
inductive Call where
  | reset
  | forceSetState (x y : ℝ)
  | update (r : Reading)

/-- One call; the detector hands in a zero for `epsilon`. -/
def step (settings : Settings) (s : KalmanFilterCTRV) : Call → KalmanFilterCTRV
  | .reset => construct
  | .forceSetState x y => forceSetState s x y
  | .update r => (update settings s 0 r).1

/-- The filter after a list of calls. -/
def after (settings : Settings) (calls : List Call) : KalmanFilterCTRV :=
  runFrom (step settings) construct calls

/-- The process noise without its decimals. -/
theorem processNoise_eq (r : Reading) : processNoise r=
    !![r.dt^4*r.maxAcc^2/4,0,r.dt^3*r.maxAcc^2/2,0,0;
      0,r.dt^4*r.maxAcc^2/4,r.dt^3*r.maxAcc^2/2,0,0;
      r.dt^3*r.maxAcc^2/2,r.dt^3*r.maxAcc^2/2,r.dt^2*r.maxAcc^2,0,0;
      0,0,0,r.dt^4*r.maxYawAcc^2/4,r.dt^3*r.maxYawAcc^2/2;
      0,0,0,r.dt^3*r.maxYawAcc^2/2,r.dt^2*r.maxYawAcc^2] := by
  have hfour : (4.0 : ℝ)=4 := by norm_num
  have htwo : (2.0 : ℝ)=2 := by norm_num
  have hposition : ∀ a,r.dt*r.dt*r.dt*r.dt/4*(a*a)=r.dt^4*a^2/4 := fun a => by ring
  have hcross : ∀ a,r.dt*r.dt*r.dt/2*(a*a)=r.dt^3*a^2/2 := fun a => by ring
  have hspeed : ∀ a,r.dt*r.dt*(a*a)=r.dt^2*a^2 := fun a => by ring
  dsimp only [processNoise]
  simp only [hfour,htwo,hposition,hcross,hspeed]

/-- The process noise of the turn rate is that of one direction. -/
theorem processNoise_of_still {r : Reading} (h : r.maxAcc=0) :
    processNoise r=vecMulVec ![0,0,0,r.maxYawAcc*r.dt^2/2,r.maxYawAcc*r.dt]
      ![0,0,0,r.maxYawAcc*r.dt^2/2,r.maxYawAcc*r.dt] := by
  rw [processNoise_eq]
  ext i j
  fin_cases i <;> fin_cases j <;> simp [h,vecMulVec] <;> ring

/-- The form of the process noise where both positions change alike against the speed. -/
theorem processNoise_form (r : Reading) :
    ![1,1,-r.dt,0,0] ⬝ᵥ (processNoise r *ᵥ ![1,1,-r.dt,0,0])= -(r.dt^2*r.maxAcc)^2/2 := by
  rw [processNoise_eq]
  simp [dotProduct,mulVec,Fin.sum_univ_succ]
  ring

/-- The process noise of an accepted update is a covariance only without linear noise. -/
theorem posSemidef_processNoise_iff {r : Reading} (hdt : 0.0001<r.dt) :
    (processNoise r).PosSemidef ↔ r.maxAcc=0 := by
  have hpos : 0<r.dt := lt_trans (by norm_num) hdt
  constructor
  · intro hQ
    by_contra hne
    have hsq : 0<(r.dt^2*r.maxAcc)^2 := by positivity
    refine not_posSemidef_of_neg ![1,1,-r.dt,0,0] ?_ hQ
    rw [processNoise_form]
    linarith
  · intro h
    rw [processNoise_of_still h]
    exact posSemidef_vecMulVec_self_star _

section

variable (settings : Settings) (r : Reading)

/-- The variance of a measurement is positive. -/
theorem dynamicR_pos : 0<dynamicR settings r := by
  have hheight : 0<clamp (r.currentZ/2.0) 0.8 3.0 := by
    rw [clamp]
    split_ifs with hlow hhigh
    · norm_num
    · norm_num
    · exact lt_of_lt_of_le (by norm_num) (not_lt.mp hlow)
  have hrotation : 0<1.0+r.angularRate*5.0 := by
    have := r.angularRate_nonneg
    positivity
  have hangle : 0<1.0+(r.visualAngleDeg/10.0)^2 := by positivity
  exact mul_pos (mul_pos (mul_pos (mul_pos settings.baseRNoise_pos hheight) hheight) hrotation)
    hangle

/-- The measurement noise is definite. -/
theorem posDef_measurementNoise : (measurementNoise settings r).PosDef :=
  PosDef.one.smul (dynamicR_pos settings r)

/-- The threshold is positive at every height. -/
theorem dynamicThreshold_pos : 0<dynamicThreshold settings r := by
  have hbase := settings.adaptiveThreshold_pos
  rw [dynamicThreshold]
  split_ifs with hhigh
  · have hmin : 0< min 10.0 ((r.currentZ-3.0)*2.0) :=
      lt_min (by norm_num) (mul_pos (sub_pos.mpr hhigh) (by norm_num))
    exact add_pos hbase hmin
  · exact hbase

/-- Scaling keeps the process noise a covariance. -/
theorem posSemidef_addedNoise (s : KalmanFilterCTRV) (hQ : (processNoise r).PosSemidef) :
    (addedNoise settings s r).PosSemidef := by
  rw [addedNoise]
  split_ifs with hfar
  · have hthreshold := dynamicThreshold_pos settings r
    have hratio : 0≤ squaredDistance settings s r/dynamicThreshold settings r :=
      div_nonneg (hthreshold.trans hfar).le hthreshold.le
    exact hQ.smul (le_min settings.maxQScale_pos.le hratio)
  · exact hQ

end

/-- What an accepted update is meant to work with. -/
structure UpdateSound (settings : Settings) (s : KalmanFilterCTRV) (r : Reading) : Prop where
  /-- The process noise is a covariance. -/
  noise : PosSemidef (processNoise r)
  /-- So is the noise that is added in the end. -/
  added : PosSemidef (addedNoise settings s r)
  /-- The covariance of the innovation that is tested is definite. -/
  tested : (innovation settings s r (processNoise r)).PosDef
  /-- So is the one in the gain. -/
  gained : (innovation settings s r (addedNoise settings s r)).PosDef
  /-- Both have an inverse. -/
  invertible : IsUnit (innovation settings s r (processNoise r)) ∧
    IsUnit (innovation settings s r (addedNoise settings s r))

/-- Without linear noise an update works with covariances. -/
theorem updateSound_of_still {settings : Settings} {s : KalmanFilterCTRV} {r : Reading}
    (hP : s.P.PosSemidef) (hdt : 0.0001<r.dt) (hstill : r.maxAcc=0) :
    UpdateSound settings s r := by
  have hQ := (posSemidef_processNoise_iff hdt).mpr hstill
  have hadded := posSemidef_addedNoise settings r s hQ
  have hR := posDef_measurementNoise settings r
  have htested := posDef_innovation (posSemidef_predicted hP hQ (jacobian s.x r.dt)) hR H
  have hgained := posDef_innovation (posSemidef_predicted hP hadded (jacobian s.x r.dt)) hR H
  exact ⟨hQ,hadded,htested,hgained,htested.isUnit,hgained.isUnit⟩

/-- An accepted update that works with covariances leaves one. -/
theorem posSemidef_update {settings : Settings} {s : KalmanFilterCTRV} {r : Reading}
    (hP : s.P.PosSemidef) (hdt : 0.0001<r.dt) (h : UpdateSound settings s r) :
    (step settings s (.update r)).P.PosSemidef := by
  have hpredicted := posSemidef_predicted hP h.added (jacobian s.x r.dt)
  dsimp only [step,update]
  rw [if_neg (not_le.mpr hdt)]
  exact posSemidef_corrected (isGain_inverse h.gained) hpredicted
    (PosDef.posSemidef (posDef_measurementNoise settings r))

/-- A call is steady if it adds no linear noise. -/
def Steady : Call → Prop
  | .update r => 0.0001<r.dt → r.maxAcc=0
  | _ => True

/-- Steady calls keep the covariance one. -/
theorem posSemidef_step {settings : Settings} (s : KalmanFilterCTRV) (call : Call)
    (hP : s.P.PosSemidef) (hcall : Steady call) : (step settings s call).P.PosSemidef := by
  cases call with
  | reset => exact PosSemidef.one.smul (by norm_num)
  | forceSetState x y => exact PosSemidef.one.smul (by norm_num)
  | update r =>
    by_cases hdt : r.dt≤0.0001
    · dsimp only [step,update]
      rw [if_pos hdt]
      exact hP
    · rw [not_le] at hdt
      exact posSemidef_update hP hdt (updateSound_of_still hP hdt (hcall hdt))

/-- The covariance stays one all through a run, and every accepted update of it works
with covariances. -/
structure StaysCovariance (settings : Settings) (calls : List Call) : Prop where
  /-- The covariance is symmetric and semidefinite after every call. -/
  covariance : ∀ done,done<+:calls →
    (after settings done).P.IsSymm ∧ PosSemidef (after settings done).P
  /-- Every accepted update is sound in the state it arrives in. -/
  sound : ∀ done r,done++[.update r]<+:calls → 0.0001<r.dt →
    UpdateSound settings (after settings done) r

/-- Steady runs keep the covariance one. -/
theorem posSemidef_after {settings : Settings} {calls : List Call}
    (h : ∀ call∈calls,Steady call) : (after settings calls).P.PosSemidef :=
  guarded_invariant posSemidef_step calls (PosSemidef.one.smul (by norm_num))
    (guarded_of_mem calls (fun call hcall _ => h call hcall) construct)

/-- The covariance stays one exactly in the runs in which no accepted update adds
linear noise. -/
theorem staysCovariance_iff (settings : Settings) (calls : List Call) :
    StaysCovariance settings calls ↔
      ∀ r,Call.update r∈calls → 0.0001<r.dt → r.maxAcc=0 := by
  constructor
  · intro h r hmem hdt
    obtain ⟨done,rest,hcalls⟩ := List.append_of_mem hmem
    have hprefix : done++[.update r]<+:calls := ⟨rest,by rw [hcalls,List.append_assoc]; rfl⟩
    exact (posSemidef_processNoise_iff hdt).mp (h.sound done r hprefix hdt).noise
  · intro h
    have hsteady : ∀ call∈calls,Steady call := by
      intro call hcall
      cases call with
      | update r => exact h r hcall
      | reset => trivial
      | forceSetState x y => trivial
    have hkept : ∀ done,done<+:calls → (after settings done).P.PosSemidef := fun done hdone =>
      posSemidef_after fun call hcall => hsteady call (hdone.subset hcall)
    refine ⟨fun done hdone => ⟨?_,hkept done hdone⟩,fun done r hdone hdt => ?_⟩
    · have hsymm := (hkept done hdone).isHermitian
      rwa [IsHermitian,conjTranspose_eq_transpose_of_trivial] at hsymm
    · have hbefore := hkept done ((List.prefix_append done _).trans hdone)
      have hmem : Call.update r∈calls := hdone.subset (by simp)
      exact updateSound_of_still hbefore hdt (h r hmem hdt)

/-- A frame one second after the target was set at the origin, low above it, with the
accelerations in the source. -/
def frameAtOrigin : Reading where
  measX := 0
  measY := 0
  dt := 1
  currentZ := 1
  angularRate := 0
  visualAngleDeg := 0
  angularRate_nonneg := le_rfl

/-- The filter with the target set at the origin. -/
def atOrigin : KalmanFilterCTRV := forceSetState construct 0 0

/-- Its state is zero. -/
theorem atOrigin_x (i : Fin 5) : atOrigin.x i=0 := by
  fin_cases i <;> rfl

/-- The measurement matrix, transposed. -/
theorem transpose_H : Hᵀ=!![1,0;0,1;0,0;0,0;0,0] := by
  rw [H]
  ext i j
  fin_cases i <;> fin_cases j <;> simp

/-- The covariance predicted for that frame. -/
theorem predictedCovariance_atOrigin :
    predictedCovariance atOrigin frameAtOrigin (processNoise frameAtOrigin)=
      !![27/100,0,51/100,0,0;0,13/50,1/2,0,0;51/100,1/2,101/100,0,0;
        0,0,0,33/400,27/200;0,0,0,27/200,13/50] := by
  have hstraight : ¬0.0001< |(0 : ℝ)| := by norm_num
  have hjacobian : jacobian atOrigin.x 1=
      !![1,0,1,0,0;0,1,0,0,0;0,0,1,0,0;0,0,0,1,1;0,0,0,0,1] := by
    simp only [jacobian,atOrigin_x,if_neg hstraight]
    simp
  have htranspose : (!![1,0,1,0,0;0,1,0,0,0;0,0,1,0,0;0,0,0,1,1;0,0,0,0,1] :
      Matrix (Fin 5) (Fin 5) ℝ)ᵀ=!![1,0,0,0,0;0,1,0,0,0;1,0,1,0,0;0,0,0,1,0;0,0,0,1,1] := by
    ext i j
    fin_cases i <;> fin_cases j <;> simp
  have hstart : atOrigin.P=(1/100 : ℝ)•1 := by
    rw [atOrigin,forceSetState]
    norm_num
  have hdt : frameAtOrigin.dt=1 := rfl
  have hacc : frameAtOrigin.maxAcc=1 := by norm_num [frameAtOrigin]
  have hyaw : frameAtOrigin.maxYawAcc=1/2 := by norm_num [frameAtOrigin]
  rw [predictedCovariance,processNoise_eq,hdt,hacc,hyaw,hjacobian,hstart,Matrix.mul_smul,
    Matrix.mul_one,htranspose]
  simp
  norm_num

/-- The frame shows the target where it is expected. -/
theorem residual_atOrigin : residual atOrigin frameAtOrigin=0 := by
  ext i
  fin_cases i <;> simp [residual,H,predictedState,atOrigin_x,frameAtOrigin]

/-- What the measurement sees of the predicted covariance. -/
theorem predictedCovariance_atOrigin_measured :
    predictedCovariance atOrigin frameAtOrigin (processNoise frameAtOrigin)*Hᵀ=
      !![27/100,0;0,13/50;51/100,1/2;0,0;0,0] := by
  rw [predictedCovariance_atOrigin,transpose_H]
  simp

/-- No noise is scaled. -/
theorem addedNoise_atOrigin :
    addedNoise defaultSettings atOrigin frameAtOrigin=processNoise frameAtOrigin := by
  have hthreshold := dynamicThreshold_pos defaultSettings frameAtOrigin
  rw [addedNoise,squaredDistance,residual_atOrigin,zero_dotProduct,if_neg hthreshold.not_gt]

/-- The inverse of the covariance of the innovation. -/
theorem innovation_atOrigin_inv :
    (innovation defaultSettings atOrigin frameAtOrigin (processNoise frameAtOrigin))⁻¹=
      !![500/231,0;0,250/113] := by
  have hnoise : dynamicR defaultSettings frameAtOrigin=24/125 := by
    simp [dynamicR,defaultSettings,frameAtOrigin,clamp]
    norm_num
  have hinnovation :
      innovation defaultSettings atOrigin frameAtOrigin (processNoise frameAtOrigin)=
        !![231/500,0;0,113/250] := by
    rw [innovation,Matrix.mul_assoc,predictedCovariance_atOrigin_measured,measurementNoise,
      hnoise,H]
    ext i j
    fin_cases i <;> fin_cases j <;> simp <;> norm_num
  rw [hinnovation]
  refine inv_eq_right_inv ?_
  ext i j
  fin_cases i <;> fin_cases j <;> simp

/-- The gain of that frame. -/
theorem gain_atOrigin : gain defaultSettings atOrigin frameAtOrigin=
    !![45/77,0;0,65/113;85/77,125/113;0,0;0,0] := by
  rw [gain,addedNoise_atOrigin,predictedCovariance_atOrigin_measured,innovation_atOrigin_inv]
  simp
  norm_num
  ext i
  fin_cases i <;> simp

/-- One frame after the target was set, its speed has a negative variance. -/
theorem speed_variance_neg :
    (after defaultSettings [.forceSetState 0 0,.update frameAtOrigin]).P vPlace vPlace<0 ∧
      ¬StaysCovariance defaultSettings [.forceSetState 0 0,.update frameAtOrigin] := by
  have hneg : (after defaultSettings [.forceSetState 0 0,.update frameAtOrigin]).P
      vPlace vPlace<0 := by
    have hdt : ¬frameAtOrigin.dt≤0.0001 := by norm_num [frameAtOrigin]
    change (update defaultSettings atOrigin 0 frameAtOrigin).1.P 2 2<0
    dsimp only [update]
    rw [if_neg hdt,gain_atOrigin,addedNoise_atOrigin,predictedCovariance_atOrigin,H]
    simp [Matrix.sub_mul]
    norm_num
  refine ⟨hneg,fun h => ?_⟩
  exact not_posSemidef_of_diag_neg hneg (h.covariance _ List.prefix_rfl).2

end

end Dankong.CtrvFilter

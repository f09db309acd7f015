import Dankong.AckermannPivot
import Dankong.TrackerLimits

/-!
# Feedback the vehicle can brake from

The omnidirectional position controller clamps its integrals, cuts the feedback to
the effective limit, then to what can be braked within the remaining distance, and
slows down while the heading is off. Without feed-forward all these bounds hold in
every call of a run. A second copy of the controller carries out only operations that
are defined, and returns the same.
-/

namespace Dankong.Tracker

open Runs StateUtils Real

/-- Integral bounds and limits of an omnidirectional vehicle that are not negative. -/
structure OmniConfig (cfg : TrackerConfig) : Prop where
  /-- The vehicle can move sideways. -/
  omni : cfg.isOmnidirectional=true
  /-- Bounds of the integrals. -/
  maxIXy : 0≤cfg.maxIXy
  maxIZ : 0≤cfg.maxIZ
  maxIYaw : 0≤cfg.maxIYaw
  /-- Vertical deceleration. -/
  maxDecelZ : 0≤cfg.maxDecelZ
  /-- Yaw acceleration. -/
  maxAccYaw : 0≤cfg.maxAccYaw

/-- All four integrals are within their bounds. -/
structure IntegralsBounded (cfg : TrackerConfig) (m : Motion) : Prop where
  /-- East. -/
  x : |m.pidX.integral|≤cfg.maxIXy
  /-- North. -/
  y : |m.pidY.integral|≤cfg.maxIXy
  /-- Height. -/
  z : |m.pidZ.integral|≤cfg.maxIZ
  /-- Yaw. -/
  yaw : |m.pidYaw.integral|≤cfg.maxIYaw

noncomputable section

/-- A quotient, unless the divisor is zero. -/
def quotient (a b : ℝ) : Option ℝ := if b=0 then none else some (a/b)

/-- A square root, unless the radicand is negative. -/
def root (a : ℝ) : Option ℝ := if a<0 then none else some (√a)

/-- A value clamped to a range, unless the range is reversed. -/
def bounded (v lo hi : ℝ) : Option ℝ := if hi<lo then none else some (clamp v lo hi)

/-- The integral of `calculate_pid` in defined operations. -/
def checkedIntegral (error : ℝ) (pid : PIDState) (maxI dt : ℝ) (enableI : Bool) : Option ℝ :=
  if enableI=true then bounded (pid.integral+error*dt) (-maxI) maxI else some pid.integral

/-- `calculate_pid` in defined operations. -/
def checkedPid (error : ℝ) (pid : PIDState) (kp ki kd maxI dt : ℝ) (enableI : Bool) :
    Option (ℝ×PIDState) := do
  let integral ← checkedIntegral error pid maxI dt enableI
  let derivative ← (if 1e-6<dt then quotient (error-pid.prevError) dt else some 0)
  return (kp*error+ki*integral+kd*derivative,⟨integral,error⟩)

/-- The yaw-dependent speed scale in defined operations. -/
def checkedScale (cfg : TrackerConfig) (g : Guidance) (dist dyaw : ℝ) : Option ℝ :=
  if g.autoHeading=true ∧ cfg.posToleranceM≤dist then
    if cfg.yawZeroSpeedTol≤|dyaw| then some 0
    else if cfg.yawFullSpeedTol < |dyaw| then do
      let part ← quotient (|dyaw|-cfg.yawFullSpeedTol) (cfg.yawZeroSpeedTol-cfg.yawFullSpeedTol)
      return 1-part
    else some 1
  else some 1

/-- A pair of the given length brought to another length, in defined operations. -/
def checkedRescale (x y speed limit : ℝ) : Option (ℝ×ℝ) := do
  let ux ← quotient x speed
  let uy ← quotient y speed
  return (ux*limit,uy*limit)

/-- The vertical control in defined operations. -/
def checkedVertical (cfg : TrackerConfig) (g : Guidance) (ffZ dz dt : ℝ) (m : Motion) :
    Option (ℝ×Motion) := do
  let pid ← checkedPid dz m.pidZ (cfg.kpZ*g.gamma.y) cfg.kiZ cfg.kdZ cfg.maxIZ dt true
  let fbZ ← bounded pid.1 (-g.fbVelLimitZ) g.fbVelLimitZ
  let brake ← root (2.0*cfg.maxDecelZ*|dz|)
  let z ← bounded (fbZ+ffZ) (-brake) brake
  return (z,{ m with pidZ := pid.2 })

/-- Feedback within the effective limit, in defined operations. -/
def checkedLimit (g : Guidance) (x y : ℝ) : Option (ℝ×ℝ) :=
  if g.fbVelLimitXy<hypot x y ∧ 1e-4<hypot x y then checkedRescale x y (hypot x y) g.fbVelLimitXy
  else some (x,y)

/-- Feedback the vehicle can brake from within the distance, in defined operations. -/
def checkedBrake (cfg : TrackerConfig) (g : Guidance) (fb : ℝ×ℝ) (speed dist : ℝ) :
    Option (ℝ×ℝ) :=
  if 1e-4<dist then do
    let brake ← root (2.0*g.maxDecelXy.getD cfg.maxDecelXy*dist)
    if brake<speed then checkedRescale fb.1 fb.2 speed brake else some fb
  else some fb

/-- The yaw feedback in defined operations. -/
def checkedYaw (cfg : TrackerConfig) (g : Guidance) (dyaw dt : ℝ) (m : Motion) :
    Option (ℝ×Motion) := do
  let pid ← checkedPid dyaw m.pidYaw (cfg.kpYaw*g.gamma.z) cfg.kiYaw cfg.kdYaw cfg.maxIYaw
    dt true
  let rate ← bounded pid.1 (-g.fbVelLimitYaw) g.fbVelLimitYaw
  return (rate,{ m with pidYaw := pid.2 })

/-- The limit on the yaw rate in defined operations. -/
def checkedYawBrake (cfg : TrackerConfig) (g : Guidance) (dyaw rate : ℝ) : Option ℝ :=
  if g.ctrlYaw=true then do
    let brake ← root (2.0*cfg.maxAccYaw*|dyaw|)
    bounded rate (-brake) brake
  else some rate

/-- `compute_pos_control` of an omnidirectional vehicle in defined operations. -/
def checkedPosControl (cfg : TrackerConfig) (g : Guidance) (pose ff : Vec4 ℝ) (dt : ℝ)
    (m : Motion) : Option (Vec4 ℝ×Motion) := do
  let dx := g.targetPoseEnu.x-pose.x
  let dy := g.targetPoseEnu.y-pose.y
  let z ← checkedVertical cfg g ff.z (g.targetPoseEnu.z-pose.z) dt m
  let err := yawError g pose.w z.2
  let scale ← checkedScale cfg g (hypot dx dy) err.1
  let enableI := decide (1e-3<scale)
  let px ← checkedPid dx err.2.pidX (cfg.kpXy*g.gamma.x) cfg.kiXy cfg.kdXy cfg.maxIXy dt enableI
  let py ← checkedPid dy err.2.pidY (cfg.kpXy*g.gamma.x) cfg.kiXy cfg.kdXy cfg.maxIXy dt enableI
  let fbX := cos pose.w*px.1+sin pose.w*py.1
  let fbY := -sin pose.w*px.1+cos pose.w*py.1
  let fbSpeed := hypot fbX fbY
  let lim ← checkedLimit g fbX fbY
  let speed := if g.fbVelLimitXy<fbSpeed ∧ 1e-4<fbSpeed then g.fbVelLimitXy else fbSpeed
  let fb ← checkedBrake cfg g lim speed (hypot dx dy)
  let yaw ← checkedYaw cfg g err.1 dt { err.2 with pidX := px.2, pidY := py.2 }
  let rate ← checkedYawBrake cfg g err.1 (yaw.1+ff.w)
  return (⟨(fb.1+ff.x)*scale,(fb.2+ff.y)*scale,z.1,rate⟩,yaw.2)

/-- The horizontal feedback of an omnidirectional vehicle in its body frame, uncut. -/
def pidFeedback (cfg : TrackerConfig) (g : Guidance) (pose : Vec4 ℝ) (dt : ℝ) (m : Motion) : ℝ×ℝ :=
  let dx := g.targetPoseEnu.x-pose.x
  let dy := g.targetPoseEnu.y-pose.y
  let scale := speedScale cfg g (hypot dx dy) (yawError g pose.w m).1
  let enableI := decide (1e-3<scale)
  let px := calculatePid dx (yawError g pose.w m).2.pidX (cfg.kpXy*g.gamma.x) cfg.kiXy cfg.kdXy
    cfg.maxIXy dt enableI
  let py := calculatePid dy (yawError g pose.w m).2.pidY (cfg.kpXy*g.gamma.x) cfg.kiXy cfg.kdXy
    cfg.maxIXy dt enableI
  (cos pose.w*px.1+sin pose.w*py.1,-sin pose.w*px.1+cos pose.w*py.1)

/-- A pair cut to what can be braked within the distance. -/
def brakePair (fb : ℝ×ℝ) (speed brake dist : ℝ) : ℝ×ℝ :=
  if 1e-4<dist ∧ brake<speed then (fb.1/speed*brake,fb.2/speed*brake) else fb

/-- Remaining angle to the target yaw, `dyaw`. -/
def remainingAngle (env : Surroundings) (i : Guidance×Motion) : ℝ :=
  (yawError i.1 env.yawEnu i.2).1

/-- The horizontal deceleration limit in force. -/
def decelLimit (cfg : TrackerConfig) (g : Guidance) : ℝ := g.maxDecelXy.getD cfg.maxDecelXy

/-- A call without feed-forward velocity, with limits that are not negative. -/
structure FeedbackOnly (cfg : TrackerConfig) (env : Surroundings) (i : Guidance×Motion) : Prop where
  /-- Horizontal speed. -/
  limitXy : 1e-4≤ i.1.fbVelLimitXy
  /-- Vertical speed. -/
  limitZ : 0≤ i.1.fbVelLimitZ
  /-- Yaw rate. -/
  limitYaw : 0≤ i.1.fbVelLimitYaw
  /-- Horizontal deceleration. -/
  decel : 0≤decelLimit cfg i.1
  /-- Nothing is added to the feedback. -/
  noFeedForward : bodyTargetVel env i.1=.zero

/-- What holds of a call of `compute_pos_control`. -/
structure Braked (cfg : TrackerConfig) (env : Surroundings) (dt : ℝ) (i : Guidance×Motion) :
    Prop where
  /-- The horizontal speed is within the effective limit. -/
  limited : hypot (posControl cfg env dt i).1.x (posControl cfg env dt i).1.y≤ i.1.fbVelLimitXy
  /-- Away from the target it can be braked within the remaining distance. -/
  xy : 1e-4<distToTarget env i.1 →
    hypot (posControl cfg env dt i).1.x (posControl cfg env dt i).1.y≤
      √(2.0*decelLimit cfg i.1*distToTarget env i.1)
  /-- The vertical speed can be braked within the remaining height. -/
  z : |(posControl cfg env dt i).1.z|≤√(2.0*cfg.maxDecelZ*|i.1.targetPoseEnu.z-env.posEnu.z|)
  /-- A controlled yaw rate can be braked within the remaining angle. -/
  yaw : i.1.ctrlYaw=true →
    |(posControl cfg env dt i).1.w|≤√(2.0*cfg.maxAccYaw*|remainingAngle env i|)
  /-- The speed scale is a fraction. -/
  scale : speedScale cfg i.1 (distToTarget env i.1) (remainingAngle env i)∈Set.Icc 0 1
  /-- Every operation of the call is defined. -/
  defined : checkedPosControl cfg i.1 env.pose (bodyTargetVel env i.1) dt i.2=
    some (posControl cfg env dt i)
  /-- The integrals stay within their bounds. -/
  integrals : IntegralsBounded cfg (posControl cfg env dt i).2

end

section

variable {cfg : TrackerConfig} {env : Surroundings} {g : Guidance} {dt : ℝ}

/-- A quotient by something else than zero is defined. -/
theorem quotient_of_ne {a b : ℝ} (h : b≠0) : quotient a b=some (a/b) := if_neg h

/-- The square root of a number that is not negative is defined. -/
theorem root_of_nonneg {a : ℝ} (h : 0≤a) : root a=some (√a) := if_neg (not_lt.mpr h)

/-- A symmetric range is in order. -/
theorem bounded_symm {v r : ℝ} (h : 0≤r) : bounded v (-r) r=some (clamp v (-r) r) :=
  if_neg (not_lt.mpr (neg_le_self h))

/-- The PID step is defined. -/
theorem checkedPid_eq {error kp ki kd maxI : ℝ} {pid : PIDState} {enableI : Bool} (h : 0≤ maxI) :
    checkedPid error pid kp ki kd maxI dt enableI=
      some (calculatePid error pid kp ki kd maxI dt enableI) := by
  have hintegral : checkedIntegral error pid maxI dt enableI=
      some (if enableI=true then clamp (pid.integral+error*dt) (-maxI) maxI else pid.integral) := by
    rw [checkedIntegral]
    split_ifs
    · exact bounded_symm h
    · rfl
  have hderivative : (if 1e-6<dt then quotient (error-pid.prevError) dt else some 0)=
      some (if 1e-6<dt then (error-pid.prevError)/dt else 0) := by
    split_ifs with hdt
    · have hpos : 0<dt := lt_trans (by norm_num) hdt
      exact quotient_of_ne hpos.ne'
    · rfl
  rw [checkedPid,hintegral,hderivative]
  rfl

/-- The speed scale is defined: between its thresholds they differ. -/
theorem checkedScale_eq (dist dyaw : ℝ) :
    checkedScale cfg g dist dyaw=some (speedScale cfg g dist dyaw) := by
  dsimp only [checkedScale,speedScale]
  split_ifs with hfar hzero hfull
  · rfl
  · have hrange : cfg.yawFullSpeedTol<cfg.yawZeroSpeedTol := hfull.trans (not_le.mp hzero)
    rw [quotient_of_ne (sub_pos.mpr hrange).ne']
    rfl
  · rfl
  · rfl

/-- A pair that is not zero can be rescaled. -/
theorem checkedRescale_eq {x y speed limit : ℝ} (h : 0 < speed) :
    checkedRescale x y speed limit=some (x/speed*limit,y/speed*limit) := by
  rw [checkedRescale,quotient_of_ne h.ne',quotient_of_ne h.ne']
  rfl

/-- The vertical control is defined. -/
theorem checkedVertical_eq (hcfg : OmniConfig cfg) (hlimit : 0≤g.fbVelLimitZ) (ffZ dz : ℝ)
    (m : Motion) :
    checkedVertical cfg g ffZ dz dt m=some (verticalControl cfg g ffZ dz dt m) := by
  have hbrake : 0≤2.0*cfg.maxDecelZ*|dz| :=
    mul_nonneg (mul_nonneg (by norm_num) hcfg.maxDecelZ) (abs_nonneg dz)
  simp only [checkedVertical,checkedPid_eq hcfg.maxIZ,bounded_symm hlimit,root_of_nonneg hbrake,
    bounded_symm (sqrt_nonneg _),Option.bind_eq_bind,Option.bind_some]
  rfl

/-- The cut to the effective limit is defined. -/
theorem checkedLimit_eq (x y : ℝ) :
    checkedLimit g x y=some (limitPair x y (hypot x y) g.fbVelLimitXy) := by
  dsimp only [checkedLimit,limitPair]
  split_ifs with hcut
  · have hspeed : 0 < hypot x y := lt_trans (by norm_num) hcut.2
    exact checkedRescale_eq hspeed
  · rfl

/-- The cut to what can be braked is defined. -/
theorem checkedBrake_eq (hdecel : 0≤g.maxDecelXy.getD cfg.maxDecelXy) (fb : ℝ×ℝ) (speed dist : ℝ) :
    checkedBrake cfg g fb speed dist=
      some (if 1e-4<dist ∧ √(2.0*g.maxDecelXy.getD cfg.maxDecelXy*dist)<speed then
        (fb.1/speed*√(2.0*g.maxDecelXy.getD cfg.maxDecelXy*dist),
          fb.2/speed*√(2.0*g.maxDecelXy.getD cfg.maxDecelXy*dist)) else fb) := by
  rw [checkedBrake]
  by_cases hfar : 1e-4<dist
  · have hdist : 0≤dist := le_trans (by norm_num) hfar.le
    have hradicand : 0≤2.0*g.maxDecelXy.getD cfg.maxDecelXy*dist :=
      mul_nonneg (mul_nonneg (by norm_num) hdecel) hdist
    rw [if_pos hfar,root_of_nonneg hradicand,Option.bind_eq_bind,Option.bind_some]
    by_cases hfast : √(2.0*g.maxDecelXy.getD cfg.maxDecelXy*dist)<speed
    · rw [if_pos hfast,if_pos ⟨hfar,hfast⟩]
      exact checkedRescale_eq ((sqrt_nonneg _).trans_lt hfast)
    · rw [if_neg hfast,if_neg fun h => hfast h.2]
  · rw [if_neg hfar,if_neg fun h => hfar h.1]

/-- The yaw feedback is defined. -/
theorem checkedYaw_eq (hcfg : OmniConfig cfg) (hlimit : 0≤g.fbVelLimitYaw) (dyaw : ℝ)
    (m : Motion) :
    checkedYaw cfg g dyaw dt m=some (yawFeedback cfg g dyaw dt m) := by
  simp only [checkedYaw,checkedPid_eq hcfg.maxIYaw,bounded_symm hlimit,Option.bind_eq_bind,
    Option.bind_some]
  rfl

/-- The limit on the yaw rate is defined. -/
theorem checkedYawBrake_eq (hcfg : OmniConfig cfg) (dyaw rate : ℝ) :
    checkedYawBrake cfg g dyaw rate=
      some (if g.ctrlYaw=true then yawBrake cfg dyaw rate else rate) := by
  have hradicand : 0≤2.0*cfg.maxAccYaw*|dyaw| :=
    mul_nonneg (mul_nonneg (by norm_num) hcfg.maxAccYaw) (abs_nonneg dyaw)
  rw [checkedYawBrake]
  split_ifs
  · rw [root_of_nonneg hradicand,Option.bind_eq_bind,Option.bind_some,
      bounded_symm (sqrt_nonneg _)]
    rfl
  · rfl

/-- The whole control law is defined. -/
theorem checkedPosControl_eq (hcfg : OmniConfig cfg) (hz : 0≤g.fbVelLimitZ)
    (hyaw : 0≤g.fbVelLimitYaw) (hdecel : 0≤g.maxDecelXy.getD cfg.maxDecelXy) (pose ff : Vec4 ℝ)
    (m : Motion) :
    checkedPosControl cfg g pose ff dt m=some (computePosControl cfg g pose ff dt m) := by
  simp only [checkedPosControl,checkedVertical_eq hcfg hz,checkedScale_eq,
    checkedPid_eq hcfg.maxIXy,checkedLimit_eq,checkedBrake_eq hdecel,checkedYaw_eq hcfg hyaw,
    checkedYawBrake_eq hcfg,Option.bind_eq_bind,Option.bind_some]
  rw [computePosControl,if_pos hcfg.omni]
  rfl

variable (cfg g) in
/-- The speed scale is a fraction: between its thresholds it falls from one to zero. -/
theorem speedScale_mem (dist dyaw : ℝ) : speedScale cfg g dist dyaw∈Set.Icc 0 1 := by
  dsimp only [speedScale]
  split_ifs with hfar hzero hfull
  · exact ⟨le_rfl,zero_le_one⟩
  · have hpart : 0≤|dyaw|-cfg.yawFullSpeedTol := (sub_pos.mpr hfull).le
    have hless : |dyaw|-cfg.yawFullSpeedTol≤cfg.yawZeroSpeedTol-cfg.yawFullSpeedTol :=
      sub_le_sub_right (not_le.mp hzero).le _
    have hrange : 0≤cfg.yawZeroSpeedTol-cfg.yawFullSpeedTol := hpart.trans hless
    exact ⟨sub_nonneg.mpr (div_le_one_of_le₀ hless hrange),sub_le_self 1 (div_nonneg hpart hrange)⟩
  · exact ⟨zero_le_one,le_rfl⟩
  · exact ⟨zero_le_one,le_rfl⟩

/-- The memory of the turning direction is all that the angle error reads of it. -/
theorem yawError_of_turning {m m' : Motion} (h : m.wasTurningCw=m'.wasTurningCw) (yaw : ℝ) :
    (yawError g yaw m).1=(yawError g yaw m').1 := by
  dsimp only [yawError]
  rw [h]
  split_ifs <;> rfl

/-- The limited feedback is as long as the controller takes it to be. -/
theorem hypot_limitPair {x y limit : ℝ} (h : 0≤limit) :
    hypot (limitPair x y (hypot x y) limit).1 (limitPair x y (hypot x y) limit).2=
      if limit < hypot x y ∧ 1e-4<hypot x y then limit else hypot x y := by
  dsimp only [limitPair]
  split_ifs with hcut
  · exact hypot_cut h (h.trans_lt hcut.1)
  · rfl

/-- The braked feedback is no longer than before, and away from the target no longer
than what can be braked. -/
theorem hypot_brakePair_le (fb : ℝ×ℝ) {brake : ℝ} (hbrake : 0≤brake) (dist : ℝ) :
    let p := brakePair fb (hypot fb.1 fb.2) brake dist
    hypot p.1 p.2≤hypot fb.1 fb.2 ∧ (1e-4<dist → hypot p.1 p.2≤brake) := by
  dsimp only [brakePair]
  split_ifs with hcut
  · have hlength : hypot (fb.1/hypot fb.1 fb.2*brake) (fb.2/hypot fb.1 fb.2*brake)=brake :=
      hypot_cut hbrake (hbrake.trans_lt hcut.2)
    exact ⟨hlength.trans_le hcut.2.le,fun _ => hlength.le⟩
  · exact ⟨le_rfl,fun hfar => not_lt.mp fun hfast => hcut ⟨hfar,hfast⟩⟩

/-- Slowing a pair down by a fraction does not lengthen it. -/
theorem hypot_scale_le {x y t : ℝ} (ht : t∈Set.Icc (0 : ℝ) 1) : hypot (x*t) (y*t)≤hypot x y := by
  rw [mul_comm x,mul_comm y,hypot_smul ht.1]
  exact mul_le_of_le_one_left (sqrt_nonneg _) ht.2

variable (cfg dt) in
/-- The horizontal output without feed-forward: the feedback cut to the limit, then to
what can be braked, and slowed down. -/
theorem omniControl_xy (hlimit : 0≤g.fbVelLimitXy) (pose : Vec4 ℝ) (m : Motion) :
    let dist := hypot (g.targetPoseEnu.x-pose.x) (g.targetPoseEnu.y-pose.y)
    let fb := pidFeedback cfg g pose dt m
    let lim := limitPair fb.1 fb.2 (hypot fb.1 fb.2) g.fbVelLimitXy
    let p := brakePair lim (hypot lim.1 lim.2) (√(2.0*decelLimit cfg g*dist)) dist
    let scale := speedScale cfg g dist (yawError g pose.w m).1
    (omniControl cfg g pose .zero dt m).1.1=p.1*scale ∧
      (omniControl cfg g pose .zero dt m).1.2.1=p.2*scale := by
  intro dist fb lim p scale
  have hp : p=brakePair lim (if g.fbVelLimitXy<hypot fb.1 fb.2 ∧ 1e-4<hypot fb.1 fb.2
      then g.fbVelLimitXy else hypot fb.1 fb.2) (√(2.0*decelLimit cfg g*dist)) dist := by
    rw [←hypot_limitPair hlimit]
  rw [hp]
  exact ⟨congrArg (·*scale) (add_zero _),congrArg (·*scale) (add_zero _)⟩

variable (cfg dt) in
/-- Horizontal speed of the omnidirectional branch without feed-forward. -/
theorem omniControl_speed (hlimit : 1e-4≤g.fbVelLimitXy) (pose : Vec4 ℝ) (m : Motion) :
    let dist := hypot (g.targetPoseEnu.x-pose.x) (g.targetPoseEnu.y-pose.y)
    let out := (omniControl cfg g pose .zero dt m).1
    hypot out.1 out.2.1≤g.fbVelLimitXy ∧
      (1e-4<dist → hypot out.1 out.2.1≤√(2.0*decelLimit cfg g*dist)) := by
  intro dist out
  obtain ⟨hx,hy⟩ := omniControl_xy cfg dt (le_trans (by norm_num) hlimit) pose m
  let fb := pidFeedback cfg g pose dt m
  let lim := limitPair fb.1 fb.2 (hypot fb.1 fb.2) g.fbVelLimitXy
  obtain ⟨hkept,hbraked⟩ := hypot_brakePair_le lim (sqrt_nonneg (2.0*decelLimit cfg g*dist)) dist
  have hlim : hypot lim.1 lim.2≤g.fbVelLimitXy := hypot_limitPair_le hlimit
  have hout := hypot_scale_le (x := (brakePair lim (hypot lim.1 lim.2)
      (√(2.0*decelLimit cfg g*dist)) dist).1)
    (y := (brakePair lim (hypot lim.1 lim.2) (√(2.0*decelLimit cfg g*dist)) dist).2)
    (speedScale_mem cfg g dist (yawError g pose.w m).1)
  rw [←hx,←hy] at hout
  exact ⟨hout.trans (hkept.trans hlim),fun hfar => hout.trans (hbraked hfar)⟩

/-- A PID step keeps its integral within the bound. -/
theorem calculatePid_integral {maxI : ℝ} {pid : PIDState} (hmax : 0≤ maxI)
    (h : |pid.integral|≤ maxI) (error kp ki kd : ℝ) (enableI : Bool) :
    |(calculatePid error pid kp ki kd maxI dt enableI).2.integral|≤ maxI := by
  dsimp only [calculatePid]
  split_ifs
  · exact abs_clamp_le hmax
  · exact h

/-- The angle error leaves the integrals alone. -/
theorem yawError_integrals {m : Motion} (h : IntegralsBounded cfg m) (yaw : ℝ) :
    IntegralsBounded cfg (yawError g yaw m).2 := by
  dsimp only [yawError]
  split_ifs
  · exact ⟨h.x,h.y,h.z,h.yaw⟩
  · exact h

variable (g dt) in
/-- The control law keeps the integrals within their bounds. -/
theorem computePosControl_integrals (hcfg : OmniConfig cfg) (pose ff : Vec4 ℝ) {m : Motion}
    (h : IntegralsBounded cfg m) :
    IntegralsBounded cfg (computePosControl cfg g pose ff dt m).2 := by
  have hz : IntegralsBounded cfg
      (verticalControl cfg g ff.z (g.targetPoseEnu.z-pose.z) dt m).2 :=
    ⟨h.x,h.y,calculatePid_integral hcfg.maxIZ h.z _ (cfg.kpZ*g.gamma.y) cfg.kiZ cfg.kdZ _,h.yaw⟩
  have herr := yawError_integrals (g := g) hz pose.w
  rw [computePosControl,if_pos hcfg.omni]
  exact ⟨calculatePid_integral hcfg.maxIXy herr.x _ (cfg.kpXy*g.gamma.x) cfg.kiXy cfg.kdXy _,
    calculatePid_integral hcfg.maxIXy herr.y _ (cfg.kpXy*g.gamma.x) cfg.kiXy cfg.kdXy _,herr.z,
    calculatePid_integral hcfg.maxIYaw herr.yaw _ (cfg.kpYaw*g.gamma.z) cfg.kiYaw cfg.kdYaw _⟩

/-- Forgetting the PID memories clears the integrals. -/
theorem resetAllPids_integrals (hcfg : OmniConfig cfg) (m : Motion) :
    IntegralsBounded cfg m.resetAllPids :=
  ⟨abs_zero.trans_le hcfg.maxIXy,abs_zero.trans_le hcfg.maxIXy,abs_zero.trans_le hcfg.maxIZ,
    abs_zero.trans_le hcfg.maxIYaw⟩

/-- A position step hands on the integrals of the control law. -/
theorem onPosStep_integrals (hcfg : OmniConfig cfg) {m : Motion} (h : IntegralsBounded cfg m) :
    IntegralsBounded cfg (onPosStep cfg env g dt m).2 := by
  obtain ⟨hx,hy,hz,hyaw⟩ := computePosControl_integrals g dt hcfg env.pose
    (bodyTargetVel env g) h
  exact ⟨hx,hy,hz,hyaw⟩

/-- The input of the control law comes with the integrals of the state. -/
theorem posInput_integrals {s : TrackerState} {i : Guidance×Motion}
    (h : IntegralsBounded cfg s.motion) (hi : posInput cfg env s=some i) :
    IntegralsBounded cfg i.2 := by
  have herr := yawError_integrals (g := autoHeadingUpdate cfg env s.guide) h env.yawEnu
  cases hmode : s.guide.currentMode with
  | none => simp [posInput,hmode] at hi
  | velocity => simp [posInput,hmode] at hi
  | position =>
    rw [posInput,hmode] at hi
    dsimp only at hi
    split_ifs at hi with hat hmore
    · rw [←Option.some.inj hi]
      exact herr
    · rw [←Option.some.inj hi]
      exact herr

/-- So does every control step, or it clears them. -/
theorem controlStep_integrals (hcfg : OmniConfig cfg) {s : TrackerState}
    (h : IntegralsBounded cfg s.motion) :
    IntegralsBounded cfg (controlStep cfg env dt s).1.motion := by
  cases hinput : posInput cfg env s with
  | some i =>
    rw [controlStep_posInput hinput]
    exact onPosStep_integrals hcfg (posInput_integrals h hinput)
  | none =>
    cases hmode : s.guide.currentMode with
    | none =>
      rw [controlStep,hmode]
      exact h
    | position =>
      -- Without an input the vehicle has arrived at the end of its path.
      rw [posInput,hmode] at hinput
      dsimp only at hinput
      split_ifs at hinput with hat hmore
      have hstep : controlStep cfg env dt s=positionStep cfg env dt s := by rw [controlStep,hmode]
      rw [hstep,positionStep_ends hat hmore]
      exact resetAllPids_integrals hcfg _
    | velocity =>
      have hstep : controlStep cfg env dt s=velocityStep cfg env dt s := by rw [controlStep,hmode]
      rw [hstep,velocityStep]
      split_ifs
      · exact resetAllPids_integrals hcfg _
      · obtain ⟨hx,hy,hz,hyaw⟩ := yawError_integrals (g := s.guide) h env.pose.w
        exact ⟨hx,hy,hz,hyaw⟩

variable (env) in
/-- Reading the slot leaves the integrals alone or clears them. -/
theorem consumePending_integrals (hcfg : OmniConfig cfg) {s : TrackerState}
    (h : IntegralsBounded cfg s.motion) :
    IntegralsBounded cfg (consumePending cfg env s).motion := by
  dsimp only [consumePending]
  by_cases hnone : s.pendingCmd.mode=.none
  · rw [if_pos hnone]
    exact h
  · rw [if_neg hnone]
    dsimp only
    by_cases hbegins : s.pendingCmd.mode=.position ∧ s.guide.currentMode≠.position
    · rw [if_pos hbegins]
      exact resetAllPids_integrals hcfg _
    · rw [if_neg hbegins]
      exact h

/-- Every operation keeps the integrals within their bounds. -/
theorem apply_integrals (hcfg : OmniConfig cfg) (s : TrackerState) (op : TrackerOp)
    (h : IntegralsBounded cfg s.motion) : IntegralsBounded cfg (apply cfg s op).motion := by
  cases op with
  | sendPos path =>
    cases path with
    | nil => exact h
    | cons wp rest => exact h
  | sendVel vel yaw yawRate frame => exact h
  | sendZeroVel => exact h
  | limit env call =>
    cases call with
    | add name => exact h
    | remove id =>
      dsimp only [apply,limitCall,removeSpeedLimitCb]
      split_ifs <;> exact h
  | step env dt =>
    dsimp only [apply,onStep]
    split_ifs with hshort
    · exact h
    · exact controlStep_integrals hcfg (consumePending_integrals env hcfg h)

/-- A call without feed-forward asks for nothing the vehicle cannot brake from. -/
theorem posControl_braked (hcfg : OmniConfig cfg) {i : Guidance×Motion}
    (hmem : IntegralsBounded cfg i.2) (h : FeedbackOnly cfg env i) : Braked cfg env dt i := by
  have hangle : (yawError i.1 env.yawEnu (verticalControl cfg i.1 0
      (i.1.targetPoseEnu.z-env.posEnu.z) dt i.2).2).1=remainingAngle env i :=
    yawError_of_turning (by rfl) env.yawEnu
  have hout : posControl cfg env dt i=computePosControl cfg i.1 env.pose .zero dt i.2 := by
    rw [posControl,h.noFeedForward]
  have hspeed := omniControl_speed cfg dt h.limitXy env.pose
    (verticalControl cfg i.1 0 (i.1.targetPoseEnu.z-env.posEnu.z) dt i.2).2
  rw [computePosControl,if_pos hcfg.omni] at hout
  refine ⟨?_,fun hfar => ?_,?_,fun hctrl => ?_,speedScale_mem _ _ _ _,
    checkedPosControl_eq hcfg h.limitZ h.limitYaw h.decel _ _ _,
    computePosControl_integrals _ _ hcfg _ _ hmem⟩
  · rw [hout]
    exact hspeed.1
  · rw [hout]
    exact hspeed.2 hfar
  · rw [hout]
    exact abs_clamp_le (sqrt_nonneg _)
  · rw [hout]
    dsimp only [omniControl]
    rw [if_pos hctrl,←hangle]
    exact abs_clamp_le (sqrt_nonneg _)

/-- In every run of an omnidirectional vehicle the integrals are within their bounds,
and every position step without feed-forward asks for nothing the vehicle cannot brake
from. -/
theorem run_braked (cfg : TrackerConfig) (hcfg : OmniConfig cfg) (env₀ : Surroundings) (t₀ : ℝ)
    (ops : List TrackerOp) :
    IntegralsBounded cfg (runFrom (apply cfg) (onStart env₀ (fresh t₀)) ops).motion ∧
      Guarded (apply cfg)
        (EveryPosCall cfg fun env dt i => FeedbackOnly cfg env i → Braked cfg env dt i)
        (onStart env₀ (fresh t₀)) ops := by
  have hstart : IntegralsBounded cfg (onStart env₀ (fresh t₀)).motion :=
    resetAllPids_integrals hcfg _
  have hany : Guarded (apply cfg) (fun _ _ => True) (onStart env₀ (fresh t₀)) ops :=
    guarded_of_forall (fun _ _ => trivial) _ _
  refine ⟨run_invariant (P := fun s : TrackerState => IntegralsBounded cfg s.motion)
    (fun s op h => apply_integrals hcfg s op h) ops hstart,?_⟩
  refine guarded_of_invariant (P := fun s : TrackerState => IntegralsBounded cfg s.motion)
    (fun s op h _ => apply_integrals hcfg s op h) (fun s op h _ => ?_) ops hstart hany
  cases op with
  | step env dt =>
    intro _ i hi hfeedback
    have hread := consumePending_integrals env hcfg h
    exact posControl_braked hcfg (posInput_integrals hread hi) hfeedback
  | _ => trivial

/-- At the end of a path that asks for no velocity of its own nothing is added to the
feedback. -/
theorem lastWaypoint_noFeedForward {wp : TrackerWaypoint} {cbs : List LimitCb}
    (hwp : g.currentWp?=some wp) (hlast : g.targetWaypoints[g.currentWpIdx+1]?=none)
    (hvel : wp.ffVel=none) (hrate : wp.ffYawRate=none) (env' : Surroundings) :
    bodyTargetVel env' (applyCurrentWaypoint cfg env cbs g)=.zero := by
  have hcruise : cruiseVel env g.targetWaypoints g.currentWpIdx wp
      (effectiveLimit cfg env cbs wp.fbSpeedLimitXy)=.zero := by
    rw [cruiseVel,hlast]
  have htarget : (applyCurrentWaypoint cfg env cbs g).targetVel=.zero := by
    dsimp only [applyCurrentWaypoint]
    rw [hwp]
    dsimp only
    rw [hvel,hrate]
    dsimp only
    rw [hcruise]
    rfl
  dsimp only [bodyTargetVel]
  rw [htarget]
  split
  · rfl
  · norm_num [rotateToBody,Vec4.zero]

end

/-- The step towards a single waypoint is braked. -/
theorem underway_braked :
    ∃ i,posInput {} still (consumePending {} still
        (apply {} (onStart still (fresh 0)) (.sendPos [{ pos := ⟨1,0,0⟩ }])))=some i ∧
      Braked {} still 1 i := by
  let t := consumePending {} still
    (apply {} (onStart still (fresh 0)) (.sendPos [{ pos := ⟨1,0,0⟩ }]))
  have hmode : t.guide.currentMode=.position := rfl
  have hheading := autoHeadingUpdate_eq {} still t.guide
  have haway : ¬Arrived {} still t := by
    rintro ⟨hnear,_⟩
    have hpose : t.guide.targetPoseEnu=⟨1,0,0,0⟩ := rfl
    rw [hheading,hpose] at hnear
    norm_num [still,Vec3.zero] at hnear
  have hinput : posInput {} still t=some (autoHeadingUpdate {} still t.guide,
      (yawError (autoHeadingUpdate {} still t.guide) still.yawEnu t.motion).2) := by
    rw [posInput,hmode]
    exact if_neg haway
  have hcfg : OmniConfig {} :=
    ⟨rfl,by norm_num,by norm_num,by norm_num,by norm_num,by norm_num⟩
  have hrun := run_braked {} hcfg still 0 underway
  refine ⟨_,hinput,hrun.2.2.1 (by norm_num) _ hinput ?_⟩
  let g : Guidance := { (onStart still (fresh 0)).guide with
    currentMode := .position
    posCmdFinished := false
    targetWaypoints := [{ pos := ⟨1,0,0⟩ }] }
  have hff : bodyTargetVel still (applyCurrentWaypoint {} still [] g)=.zero :=
    lastWaypoint_noFeedForward (g := g) rfl rfl rfl rfl still
  have hxy : t.guide.fbVelLimitXy=min 3.0 3.0 := rfl
  have hz : t.guide.fbVelLimitZ=min 1 1 := rfl
  have hyaw : t.guide.fbVelLimitYaw=min 1.5 1.5 := rfl
  have hdecel : decelLimit {} t.guide=1 := rfl
  rw [hheading]
  refine ⟨?_,?_,?_,?_,hff⟩
  · exact le_of_le_of_eq (by norm_num) hxy.symm
  · exact le_of_le_of_eq (by norm_num) hz.symm
  · exact le_of_le_of_eq (by norm_num) hyaw.symm
  · exact le_of_le_of_eq zero_le_one hdecel.symm

end Dankong.Tracker

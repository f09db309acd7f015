import Dankong.ClosedLoop
import Dankong.AngleNormalisers
import Dankong.DescentLaw
import Dankong.RabbitMotion
import Dankong.TouchdownSight

/-!
# Landing on a moving platform

The closed loop of the landing tests: the vehicle moves as it is told, and the camera
sees the platform in every step. The visual mode then closes in on a platform that moves
steadily, turns to it, sinks once it is over it and touches down near its centre.
-/

namespace Dankong.Pland

open StateUtils Real ClosedLoop Ramps Angles

noncomputable section

/-- What does not change during a landing. -/
structure Trial where
  /-- The configuration. -/
  cfg : PlandConfig ℝ
  /-- Time from one control step to the next. -/
  dt : ℝ
  /-- Velocity of the platform. -/
  platformVel : Vec2 ℝ
  /-- Heading of the platform. -/
  platformYaw : ℝ

/-- Controller, vehicle and platform. -/
structure Scene where
  /-- The controller. -/
  controller : PlandState
  /-- The time. -/
  now : ℝ
  /-- Pose of the vehicle, its heading last. -/
  drone : Vec4 ℝ
  /-- Position of the platform. -/
  platform : Vec2 ℝ

/-- A horizontal vector as the vehicle sees it. -/
def toBody (yaw : ℝ) (v : Vec2 ℝ) : Vec2 ℝ :=
  ⟨v.x*cos yaw+v.y*sin yaw,-v.x*sin yaw+v.y*cos yaw⟩

/-- The pose after the time of a step in which the vehicle does as it is told. -/
def obey (dt : ℝ) (drone : Vec4 ℝ) : List PlandCmd → Vec4 ℝ
  | [.sendVelCmd vel _ yawRate .body] =>
    bodyToEnu ⟨vel.x*dt,vel.y*dt,vel.z*dt,yawRate.getD 0*dt⟩ drone
  | _ => drone

namespace Scene

/-- The way from the vehicle to the platform. -/
def way (s : Scene) : Vec2 ℝ := s.platform.sub ⟨s.drone.x,s.drone.y⟩

/-- What the robot context holds. -/
def surroundings (s : Scene) : PlandEnv where
  now := s.now
  posEnu := s.drone.head
  orientation := ⟨cos (s.drone.w/2.0),0,0,sin (s.drone.w/2.0)⟩
  yawEnu := s.drone.w
  rangefinderAlt := s.drone.z

end Scene

namespace Trial

variable (L : Trial) (s : Scene)

/-- Height over the platform. -/
def height : ℝ := s.drone.z-L.cfg.platformHeight

/-- The turn from the vehicle's heading to that of the platform. -/
def yawError : ℝ := wrapAngle (L.platformYaw-s.drone.w)

/-- What the camera sees. -/
def sight : DetectorResult where
  isValid := true
  stamp := s.now
  targetPosEnu := ⟨s.platform.x,s.platform.y,L.cfg.platformHeight⟩
  targetVelEnu := ⟨L.platformVel.x,L.platformVel.y,0⟩
  targetYawEnu := L.platformYaw
  yawRelative := L.yawError s
  targetPosBody := ⟨(toBody s.drone.w s.way).x,(toBody s.drone.w s.way).y,-L.height s⟩

/-- The control step after the camera's report. -/
def control : PlandState×List PlandCmd :=
  onStep L.cfg s.surroundings L.dt (updateObservation (L.sight s) s.controller)

/-- One step of controller, vehicle and platform; the vehicle rests on the platform's
height at the lowest. -/
def step : Scene :=
  let drone := obey L.dt s.drone (L.control s).2
  { controller := (L.control s).1
    now := s.now+L.dt
    drone := { drone with z := max L.cfg.platformHeight drone.z }
    platform := s.platform.add (L.platformVel.scale L.dt) }

/-- The command that ends the flight. -/
def touchdown : PlandCmd := if L.cfg.plandUseDisarm=true then .disarm else .land

/-- Horizontal errors up to here do not slow the descent at any height. -/
def aligned : ℝ :=
  min L.cfg.plandFunnelMaxRadius (min L.cfg.holdDistThreshMin L.cfg.holdDistThreshMax)

/-- Speed that is left to close in on the platform. -/
def closingSpeed : ℝ :=
  min (L.cfg.visionKp*L.aligned) (L.cfg.plandCruiseSpeedXy-norm2 L.platformVel)

/-- The yaw error that the controller heeds. -/
def seenYaw : ℝ := if L.height s<1 then 0 else L.yawError s

/-- Whether the vehicle drops blindly in this step. -/
def blindNext : Bool := blindDropNext L.cfg (L.height s) (norm2 s.way) s.controller.isBlindDrop

/-- The descent speed of this step. -/
def descent : ℝ :=
  min (wantedDescentVel L.cfg (L.height s) (norm2 s.way) (degrees |L.seenYaw s|) (L.blindNext s))
    L.cfg.plandMaxVelZ

/-- The horizontal velocity of this step, as the vehicle sees it. -/
def velocity : Vec2 ℝ :=
  if L.blindNext s=true then toBody s.drone.w L.platformVel
  else cutTo L.cfg.plandCruiseSpeedXy
    (((toBody s.drone.w s.way).scale L.cfg.visionKp).add (toBody s.drone.w L.platformVel))

/-- The yaw rate of this step. -/
def yawRate : ℝ := if L.blindNext s=true then 0 else clamp (L.seenYaw s) (-0.5) 0.5

/-- Steps that are left at most: of sinking, of closing in and of turning. -/
def remaining : ℝ :=
  L.height s/(L.dt*min 0.2 L.cfg.plandMaxVelZ)+norm2 s.way/(L.dt*L.closingSpeed)+
    |L.yawError s|/(L.dt*(π/12))

/-- The configuration suits the step time and the platform. -/
structure Tuned : Prop where
  /-- The visual mode is used. -/
  pureVision : L.cfg.pureVision=true
  /-- The platform's motion is fed forward, if it moves. -/
  followed : L.cfg.useFfVel=true ∨ L.platformVel=.zero
  /-- The platform is slower than the share of the cruise speed fed forward. -/
  slow : norm2 L.platformVel ≤ L.cfg.plandCruiseSpeedXy*0.8
  cruise : 0<L.cfg.plandCruiseSpeedXy
  kp : 0<L.cfg.visionKp
  dt_pos : 0<L.dt
  dt_le : L.dt≤1
  /-- The feedback does not overshoot. -/
  gain : L.cfg.visionKp*L.dt≤1
  velZ : 0<L.cfg.plandMaxVelZ
  touch : 0≤L.cfg.touchdownVelocity
  landAlt : 0<L.cfg.plandLandAlt
  platform : 0≤L.cfg.platformHeight
  funnel : 0<L.cfg.plandFunnelMaxRadius
  holdMin : 0<L.cfg.holdDistThreshMin
  holdMax : 0<L.cfg.holdDistThreshMax
  /-- The smallest hold threshold applies a step above the touchdown height. -/
  holdLow : L.cfg.plandLandAlt+L.dt*L.cfg.plandMaxVelZ ≤ L.cfg.holdDistThreshMinAlt
  holdBase : L.cfg.holdDistThreshMinAlt<10.0

/-- A landing that begins above the touchdown height and not as a blind drop. -/
structure Started : Prop where
  now : 0<s.now
  high : L.cfg.plandLandAlt≤L.height s
  sighted : s.controller.isBlindDrop=false

/-- Horizontal error allowed at touchdown. -/
def centred : ℝ := max L.cfg.blindDropXyThresh L.cfg.holdDistThreshMin

/-- What every step keeps up to the touchdown. -/
structure Kept : Prop where
  now : 0<s.now
  high : 0≤L.height s
  /-- A blind drop began over the platform. -/
  blind : s.controller.isBlindDrop=true → norm2 s.way<L.cfg.blindDropXyThresh
  /-- At the touchdown height the vehicle is near the centre. -/
  low : L.height s<L.cfg.plandLandAlt → norm2 s.way≤L.centred

end Trial

/-- Seen from the vehicle, the way is as long. -/
theorem norm2_toBody (yaw : ℝ) (v : Vec2 ℝ) : norm2 (toBody yaw v)=norm2 v := by
  have hunit := sin_sq_add_cos_sq yaw
  have hsq : (v.x*cos yaw+v.y*sin yaw)*(v.x*cos yaw+v.y*sin yaw)+
      (-v.x*sin yaw+v.y*cos yaw)*(-v.x*sin yaw+v.y*cos yaw)=v.x*v.x+v.y*v.y := by
    linear_combination (v.x*v.x+v.y*v.y)*hunit
  rw [norm2,norm2,hypot,hypot,toBody,hsq]

/-- A cut velocity is a share of it, and the whole unless it has the limit's speed. -/
theorem plane_cutTo_share {limit : ℝ} (hlimit : 0≤limit) (v : Vec2 ℝ) :
    ∃ t : ℝ,0≤t ∧ t≤1 ∧ (t=1 ∨ t*‖plane v‖=limit) ∧ plane (cutTo limit v)=t•plane v := by
  by_cases hlong : limit<norm2 v
  · have hpos : 0<norm2 v := hlimit.trans_lt hlong
    have hsq : 0<v.x*v.x+v.y*v.y := sqrt_pos.mp hpos
    have hcut : cutTo limit v=v.scale (limit/norm2 v) := by
      rw [cutTo,if_pos hlong,normalized,if_pos hsq]
      exact Vec2.ext (mul_div_left_comm _ _ _ |>.trans (mul_comm _ _))
        (mul_div_left_comm _ _ _ |>.trans (mul_comm _ _))
    refine ⟨limit/norm2 v,div_nonneg hlimit hpos.le,(div_le_one hpos).mpr hlong.le,Or.inr ?_,?_⟩
    · rw [norm_plane,div_mul_cancel₀ limit hpos.ne']
    · rw [hcut,plane_scale]
  · have hcut : cutTo limit v=v := if_neg hlong
    exact ⟨1,zero_le_one,le_rfl,Or.inl rfl,by rw [hcut,one_smul]⟩

/-- Up to both thresholds a ramp is one. -/
theorem fall_of_le {low high x : ℝ} (hlow : x≤low) (hhigh : x≤high) : fall low high x=1 := by
  rw [fall,if_neg (not_lt.mpr hhigh),if_neg (not_lt.mpr hlow)]

/-- A potential of three parts falls by one if no part grows and one falls by its unit. -/
theorem sum_falls {a b c x y z x' y' z' : ℝ} (ha : 0<a) (hb : 0<b) (hc : 0<c) (hx : x'≤x)
    (hy : y'≤y) (hz : z'≤z) (h : x'≤x-a ∨ y'≤y-b ∨ z'≤z-c) :
    x'/a+y'/b+z'/c+1 ≤ x/a+y/b+z/c := by
  have hx' := div_le_div_of_nonneg_right hx ha.le
  have hy' := div_le_div_of_nonneg_right hy hb.le
  have hz' := div_le_div_of_nonneg_right hz hc.le
  rcases h with h|h|h
  · have hless := div_le_div_of_nonneg_right h ha.le
    rw [sub_div,div_self ha.ne'] at hless
    linarith
  · have hless := div_le_div_of_nonneg_right h hb.le
    rw [sub_div,div_self hb.ne'] at hless
    linarith
  · have hless := div_le_div_of_nonneg_right h hc.le
    rw [sub_div,div_self hc.ne'] at hless
    linarith

/-- Part of the way to zero, at a bounded speed. -/
theorem abs_sub_clamp_le {x bound dt : ℝ} (hbound : 0≤bound) (hstep : dt≤1) :
    |x-dt*clamp x (-bound) bound| ≤ |x|-dt*(min |x| bound) := by
  have habs : |x|=max x (-x) := rfl
  rw [clamp]
  split_ifs with hlow hhigh
  · have hx : |x|=-x := abs_of_neg (by linarith)
    rw [hx,min_eq_right (by linarith),abs_of_nonpos (by nlinarith)]
    linarith
  · have hx : |x|=x := abs_of_pos (by linarith)
    rw [hx,min_eq_right hhigh.le,abs_of_nonneg (by nlinarith)]
  · have hmin : min |x| bound=|x| := min_eq_left (abs_le.mpr ⟨not_lt.mp hlow,not_lt.mp hhigh⟩)
    rw [hmin,show x-dt*x=(1-dt)*x by ring,abs_mul,abs_of_nonneg (by linarith)]
    linarith

namespace Trial

variable {L : Trial} {s : Scene}

/-- Position and range finder agree, so that the height is the vehicle's. -/
theorem getCurrentZ_surroundings (hz : 0 ≤ s.drone.z) : getCurrentZ s.surroundings=s.drone.z := by
  have habs : |s.surroundings.rangefinderAlt|=s.drone.z := abs_of_nonneg hz
  have hpos : s.surroundings.posEnu.z=s.drone.z := rfl
  rw [getCurrentZ,habs,hpos]
  dsimp only
  split_ifs
  · rfl
  · rfl
  · rw [←add_mul,sub_add_cancel,one_mul]

section

variable (hL : L.Tuned) (hs : L.Kept s)

include hL hs

/-- The height that the controller works with. -/
theorem currentZ_surroundings : currentZ L.cfg s.surroundings=L.height s := by
  have hhigh : 0 ≤ s.drone.z-L.cfg.platformHeight := hs.high
  have hz : 0 ≤ s.drone.z := by linarith [hL.platform]
  rw [currentZ,getCurrentZ_surroundings hz]
  exact max_eq_right hs.high

/-- The controller once it has looked. -/
theorem stepBranch_surroundings :
    stepBranch L.cfg s.surroundings (updateObservation (L.sight s) s.controller)=
      (.servo,{ s.controller with
        latestObs := L.sight s, invalidTime := 0, currentMode := .pureVisualBody }) := by
  have hstamp : s.now≠0 := hs.now.ne'
  norm_num [stepBranch,injectedTarget,observedBranch,updateObservation,Scene.surroundings,sight,
    hL.pureVision,hstamp]

/-- Every control step servoes on what it has just seen. -/
theorem control_eq : L.control s=stepPureVisual L.cfg s.surroundings
    { s.controller with
      latestObs := L.sight s, invalidTime := 0, currentMode := .pureVisualBody } := by
  rw [control,onStep,stepBranch_surroundings hL hs]

omit hL hs in
/-- The horizontal error that the controller works with. -/
theorem visualXyError_sight (c : PlandState) :
    visualXyError { c with latestObs := L.sight s }=norm2 s.way :=
  norm2_toBody s.drone.w s.way

omit hs in
/-- The platform's motion is fed forward in full. -/
theorem visualFfVel_sight (c : PlandState) :
    visualFfVel L.cfg s.surroundings { c with latestObs := L.sight s }=
      toBody s.drone.w L.platformVel := by
  have hslow : ¬L.cfg.plandCruiseSpeedXy*0.8<norm2 (toBody s.drone.w L.platformVel) := by
    rw [norm2_toBody]
    exact not_lt.mpr hL.slow
  rw [visualFfVel]
  split_ifs with huse
  · exact if_neg hslow
  · have hzero : L.platformVel=.zero := hL.followed.resolve_left huse
    rw [hzero]
    simp [toBody,Vec2.zero]

/-- Below the touchdown height the step ends the flight. -/
theorem control_low (hlow : L.height s<L.cfg.plandLandAlt) : (L.control s).2=[L.touchdown] := by
  rw [control_eq hL hs,stepPureVisual,currentZ_surroundings hL hs]
  dsimp only
  rw [executeZStateMachine,calculateSharedZDescent,if_pos hlow]
  rfl

/-- From the touchdown height on the step commands a velocity. -/
theorem control_high (hhigh : L.cfg.plandLandAlt≤L.height s) :
    (L.control s).1.isBlindDrop=L.blindNext s ∧
      (L.control s).2=[.sendVelCmd ⟨(L.velocity s).x,(L.velocity s).y,-L.descent s⟩ none
        (some (L.yawRate s)) .body] := by
  have hseen : (1 : ℝ)*(if L.height s<1 then 0 else (L.sight s).yawRelative)+
      (if L.height s<1 then 0 else (L.sight s).targetVelEnu.z)=L.seenYaw s := by
    have hrest : (L.sight s).targetVelEnu.z=0 := rfl
    rw [hrest,ite_self,add_zero,one_mul]
    rfl
  rw [control_eq hL hs,stepPureVisual,currentZ_surroundings hL hs,
    visualXyError_sight { s.controller with invalidTime := 0, currentMode := .pureVisualBody },
    visualFfVel_sight hL { s.controller with invalidTime := 0, currentMode := .pureVisualBody }]
  dsimp only
  rw [hseen,executeZStateMachine,calculateSharedZDescent,if_neg (not_lt.mpr hhigh)]
  exact ⟨rfl,rfl⟩

omit hL hs in
/-- The vehicle turns by the yaw error or not at all. -/
theorem yawRate_cases : L.yawRate s=0 ∨ L.yawRate s=clamp (L.yawError s) (-0.5) 0.5 := by
  rw [yawRate,seenYaw]
  split_ifs
  · exact Or.inl rfl
  · exact Or.inl (clamp_of_mem (by norm_num) (by norm_num))
  · exact Or.inr rfl

omit hs in
/-- Half a radian a second, at most, is turned towards the platform's heading. -/
theorem abs_sub_turn_le : |L.yawError s-L.dt*clamp (L.yawError s) (-0.5) 0.5| ≤
    |L.yawError s|-L.dt*(min |L.yawError s| 0.5) :=
  abs_sub_clamp_le (by norm_num) hL.dt_le

omit hs in
/-- A step's turn does not lead away from the platform's heading. -/
theorem abs_yawError_sub_le : |L.yawError s-L.dt*L.yawRate s| ≤ |L.yawError s| := by
  rcases L.yawRate_cases (s := s) with hrate|hrate
  · rw [hrate,mul_zero,sub_zero]
  · rw [hrate]
    have hless := abs_sub_turn_le hL (s := s)
    have hpart : 0 ≤ L.dt*(min |L.yawError s| 0.5) :=
      mul_nonneg hL.dt_pos.le (le_min (abs_nonneg _) (by norm_num))
    linarith

section

variable (hhigh : L.cfg.plandLandAlt≤L.height s)

include hhigh

/-- The pose after a step above the touchdown height. -/
theorem step_drone : (L.step s).drone=
    { bodyToEnu ⟨(L.velocity s).x*L.dt,(L.velocity s).y*L.dt,-L.descent s*L.dt,
        L.yawRate s*L.dt⟩ s.drone with
      z := max L.cfg.platformHeight (s.drone.z+ -L.descent s*L.dt) } := by
  rw [step,(control_high hL hs hhigh).2]
  rfl

/-- The height after a step. -/
theorem height_step : L.height (L.step s)=max 0 (L.height s-L.dt*L.descent s) := by
  have hfall : s.drone.z+ -L.descent s*L.dt-L.cfg.platformHeight=
      L.height s-L.dt*L.descent s := by
    rw [height]
    ring
  rw [height,step_drone hL hs hhigh]
  dsimp only
  rw [←max_sub_sub_right,sub_self,hfall]

/-- The yaw error after a step. -/
theorem abs_yawError_step : |L.yawError (L.step s)|=|L.yawError s-L.dt*L.yawRate s| := by
  have hmem : L.yawError s∈Set.Icc (-π) π := Set.Ico_subset_Icc_self (wrapAngle_mem _)
  have hnear : L.yawError s-L.dt*L.yawRate s∈Set.Icc (-π) π :=
    abs_le.mp ((abs_yawError_sub_le hL).trans (abs_le.mpr hmem))
  refine abs_eq_of_mem_Icc (Set.Ico_subset_Icc_self (wrapAngle_mem _)) hnear ?_
  rw [yawError,step_drone hL hs hhigh,coe_wrapAngle,bodyToEnu]
  dsimp only
  rw [Real.Angle.coe_sub,coe_normYaw,Real.Angle.coe_sub (L.yawError s),yawError,coe_wrapAngle,
    ←Real.Angle.coe_sub,←Real.Angle.coe_sub]
  congr 1
  ring

/-- The way after a step, as the vehicle sees it before it turns. -/
theorem norm2_way_step : norm2 (L.step s).way=
    ‖plane (toBody s.drone.w s.way)+L.dt•plane (toBody s.drone.w L.platformVel)-
      L.dt•plane (L.velocity s)‖ := by
  have hunit := sin_sq_add_cos_sq s.drone.w
  have hseen : toBody s.drone.w (L.step s).way=
      ((toBody s.drone.w s.way).add ((toBody s.drone.w L.platformVel).scale L.dt)).sub
        ((L.velocity s).scale L.dt) := by
    rw [Scene.way,step_drone hL hs hhigh]
    simp only [step,toBody,Scene.way,bodyToEnu,Vec2.add,Vec2.sub,Vec2.scale,Vec2.mk.injEq]
    constructor
    · linear_combination -(L.dt*(L.velocity s).x)*hunit
    · linear_combination -(L.dt*(L.velocity s).y)*hunit
  rw [←norm2_toBody s.drone.w,hseen,←norm_plane,plane_sub,plane_add,plane_scale,plane_scale]

/-- A blind drop keeps its place over the platform. -/
theorem norm2_way_step_blind (hblind : L.blindNext s=true) :
    norm2 (L.step s).way=norm2 s.way := by
  rw [norm2_way_step hL hs hhigh,velocity,if_pos hblind,add_sub_cancel_right,norm_plane,
    norm2_toBody]

/-- Otherwise the vehicle closes in on the platform. -/
theorem norm2_way_step_le (hsighted : L.blindNext s=false) : norm2 (L.step s).way ≤
    norm2 s.way-
      L.dt*min (L.cfg.visionKp*norm2 s.way) (L.cfg.plandCruiseSpeedXy-norm2 L.platformVel) := by
  obtain ⟨t,h₀,h₁,hcut,hplane⟩ := plane_cutTo_share hL.cruise.le
    (((toBody s.drone.w s.way).scale L.cfg.visionKp).add (toBody s.drone.w L.platformVel))
  have hblind : ¬L.blindNext s=true := ne_true_of_eq_false hsighted
  rw [plane_add,plane_scale] at hcut hplane
  have hclose := norm_way_le hL.kp.le hL.dt_pos.le hL.gain h₀ h₁ hcut
  rw [norm2_way_step hL hs hhigh,velocity,if_neg hblind,hplane]
  rwa [norm_plane,norm_plane,norm2_toBody,norm2_toBody] at hclose

/-- The way does not become longer. -/
theorem norm2_way_step_le_self : norm2 (L.step s).way ≤ norm2 s.way := by
  cases hblind : L.blindNext s with
  | true => exact (norm2_way_step_blind hL hs hhigh hblind).le
  | false =>
    have hclose := norm2_way_step_le hL hs hhigh hblind
    have hlong : 0 ≤ norm2 s.way := sqrt_nonneg _
    have hleft : 0 ≤ L.cfg.plandCruiseSpeedXy-norm2 L.platformVel := by
      linarith [hL.slow,hL.cruise]
    have hspeed : 0 ≤ L.dt*min (L.cfg.visionKp*norm2 s.way)
        (L.cfg.plandCruiseSpeedXy-norm2 L.platformVel) :=
      mul_nonneg hL.dt_pos.le (le_min (mul_nonneg hL.kp.le hlong) hleft)
    linarith

/-- The vehicle does not turn away. -/
theorem abs_yawError_step_le : |L.yawError (L.step s)| ≤ |L.yawError s| := by
  rw [abs_yawError_step hL hs hhigh]
  exact abs_yawError_sub_le hL

/-- A vehicle that sees itself turned away turns to the platform. -/
theorem abs_yawError_step_of_turned (hsighted : L.blindNext s=false)
    (hturned : π/12 < |L.seenYaw s|) :
    |L.yawError (L.step s)| ≤ |L.yawError s|-L.dt*(π/12) := by
  have hblind : ¬L.blindNext s=true := ne_true_of_eq_false hsighted
  have hseen : L.seenYaw s=L.yawError s := by
    rw [seenYaw] at hturned ⊢
    split_ifs at hturned ⊢
    · rw [abs_zero] at hturned
      linarith [pi_pos]
    · rfl
  have hless := abs_sub_turn_le hL (s := s)
  have hpart : π/12 ≤ min |L.yawError s| 0.5 := by
    rw [hseen] at hturned
    exact le_min hturned.le (by linarith [pi_le_four])
  have hturn := mul_le_mul_of_nonneg_left hpart hL.dt_pos.le
  rw [abs_yawError_step hL hs hhigh,yawRate,if_neg hblind,hseen]
  linarith

end

omit hs in
/-- The vehicle does not rise. -/
theorem descent_nonneg : 0 ≤ L.descent s :=
  le_min (wantedDescentVel_nonneg hL.touch _ _ _) hL.velZ.le

omit hs in
/-- The hold threshold is nowhere smaller than the smaller of its two values. -/
theorem aligned_le_holdDistThresh (z : ℝ) : L.aligned ≤ holdDistThresh L.cfg z := by
  refine (min_le_right _ _).trans ?_
  rw [holdDistThresh]
  split_ifs with hlow
  · exact min_le_left _ _
  · have hbase := hL.holdBase
    have hwidth : 0<10.0-L.cfg.holdDistThreshMinAlt := sub_pos.mpr hbase
    have hover : 0 ≤ min z 10.0-L.cfg.holdDistThreshMinAlt :=
      sub_nonneg.mpr (le_min (not_le.mp hlow).le hbase.le)
    have hshare : (min z 10.0-L.cfg.holdDistThreshMinAlt)/(10.0-L.cfg.holdDistThreshMinAlt)≤1 :=
      (div_le_one hwidth).mpr (sub_le_sub_right (min_le_right _ _) _)
    have hpos := div_nonneg hover hwidth.le
    rcases le_total L.cfg.holdDistThreshMin L.cfg.holdDistThreshMax with hle|hle
    · rw [min_eq_left hle]
      nlinarith
    · rw [min_eq_right hle]
      nlinarith

omit hs in
/-- A vehicle over the platform that has turned to it sinks, and so does one that drops
blindly. -/
theorem descent_of_aligned (h : L.blindNext s=true ∨
    norm2 s.way≤L.aligned ∧ |L.seenYaw s|≤π/12) :
    min 0.2 L.cfg.plandMaxVelZ ≤ L.descent s := by
  refine le_min ((min_le_left _ _).trans ?_) (min_le_right _ _)
  cases hblind : L.blindNext s with
  | true =>
    have htouch := hL.touch
    rw [wantedDescentVel,if_pos rfl]
    linarith
  | false =>
    obtain ⟨hnear,hturned⟩ := h.resolve_left (by rw [hblind]; decide)
    have hxy : xyDescentFactor L.cfg (L.height s) (norm2 s.way)=1 := by
      rw [xyDescentFactor_eq]
      refine fall_of_le ?_ (hnear.trans (aligned_le_holdDistThresh hL _))
      exact hnear.trans ((min_le_left _ _).trans (le_max_left _ _))
    have hdegrees : degrees |L.seenYaw s|≤15.0 := by
      have hpi := pi_pos
      rw [degrees,div_le_iff₀ hpi]
      linarith
    have hyaw : yawDescentFactor (degrees |L.seenYaw s|)=1 := by
      rw [yawDescentFactor_eq]
      exact fall_of_le hdegrees (hdegrees.trans (by norm_num))
    have hratio : 0 ≤ min 1 |L.height s/max 10.0 1| := le_min zero_le_one (abs_nonneg _)
    rw [wantedDescentVel_eq,hxy,hyaw,shutOff,if_pos (by norm_num)]
    linarith

omit hL hs in
/-- A vehicle out of the platform's reach that does not drop blindly keeps its height. -/
theorem descent_of_far (hsighted : L.blindNext s=false)
    (hfar : holdDistThresh L.cfg (L.height s)<norm2 s.way) (hvel : 0 ≤ L.cfg.plandMaxVelZ) :
    L.descent s=0 := by
  rw [descent,hsighted,wantedDescentVel_eq_zero (Or.inl hfar),min_eq_left hvel]

omit hs in
/-- There is speed left to close in. -/
theorem closingSpeed_pos : 0<L.closingSpeed := by
  have haligned : 0<L.aligned := lt_min hL.funnel (lt_min hL.holdMin hL.holdMax)
  refine lt_min (mul_pos hL.kp haligned) ?_
  linarith [hL.slow,hL.cruise]

omit hs in
/-- The steps left are not negative. -/
theorem remaining_nonneg (hs : 0≤L.height s) : 0 ≤ L.remaining s := by
  have hsink : 0 ≤ L.dt*min 0.2 L.cfg.plandMaxVelZ :=
    mul_nonneg hL.dt_pos.le (le_min (by norm_num) hL.velZ.le)
  have hclose : 0 ≤ L.dt*L.closingSpeed := mul_nonneg hL.dt_pos.le (closingSpeed_pos hL).le
  have hturn : 0 ≤ L.dt*(π/12) := mul_nonneg hL.dt_pos.le (by linarith [pi_pos])
  exact add_nonneg (add_nonneg (div_nonneg hs hsink) (div_nonneg (sqrt_nonneg _) hclose))
    (div_nonneg (abs_nonneg _) hturn)

/-- A step that does not reach the touchdown height leaves one step less. -/
theorem remaining_step (hhigh : L.cfg.plandLandAlt≤L.height s)
    (hnext : L.cfg.plandLandAlt≤L.height (L.step s)) : L.remaining (L.step s)+1 ≤ L.remaining s := by
  have hdt := hL.dt_pos
  have hsink : 0 ≤ L.dt*L.descent s := mul_nonneg hdt.le (descent_nonneg hL)
  have hheight := height_step hL hs hhigh
  have hpos : 0<L.height (L.step s) := hL.landAlt.trans_le hnext
  have hless : L.height (L.step s)=L.height s-L.dt*L.descent s := by
    rw [hheight] at hpos ⊢
    exact max_eq_right ((lt_max_iff.mp hpos).resolve_left (lt_irrefl 0)).le
  have hunit : 0<L.dt*min 0.2 L.cfg.plandMaxVelZ := mul_pos hdt (lt_min (by norm_num) hL.velZ)
  have hturn : 0<L.dt*(π/12) := mul_pos hdt (by linarith [pi_pos])
  refine sum_falls hunit (mul_pos hdt (closingSpeed_pos hL)) hturn (by linarith)
    (norm2_way_step_le_self hL hs hhigh) (abs_yawError_step_le hL hs hhigh) ?_
  by_cases haligned : L.blindNext s=true ∨ norm2 s.way≤L.aligned ∧ |L.seenYaw s|≤π/12
  · refine Or.inl ?_
    have hspeed := mul_le_mul_of_nonneg_left (descent_of_aligned hL haligned) hdt.le
    linarith
  · obtain ⟨hblind,hoff⟩ := not_or.mp haligned
    refine Or.inr ?_
    by_cases hnear : norm2 s.way≤L.aligned
    · refine Or.inr ?_
      have hturned : π/12 < |L.seenYaw s| := not_le.mp fun h => hoff ⟨hnear,h⟩
      exact abs_yawError_step_of_turned hL hs hhigh (eq_false_of_ne_true hblind) hturned
    · refine Or.inl ?_
      have hclose := norm2_way_step_le hL hs hhigh (eq_false_of_ne_true hblind)
      have hfaster : L.closingSpeed ≤
          min (L.cfg.visionKp*norm2 s.way) (L.cfg.plandCruiseSpeedXy-norm2 L.platformVel) :=
        min_le_min_right _ (mul_le_mul_of_nonneg_left (not_le.mp hnear).le hL.kp.le)
      have hspeed := mul_le_mul_of_nonneg_left hfaster hdt.le
      linarith

omit hL in
/-- A vehicle drops blindly over the platform only. -/
theorem way_lt_of_blindNext (hblind : L.blindNext s=true) :
    norm2 s.way<L.cfg.blindDropXyThresh := by
  rcases blindDropNext_eq_true _ _ _ _ hblind with h|h
  · exact h.2
  · exact hs.blind h.2

/-- Every step above the touchdown height keeps it. -/
theorem kept_step (hhigh : L.cfg.plandLandAlt≤L.height s) : L.Kept (L.step s) where
  now := add_pos hs.now hL.dt_pos
  high := by
    rw [height_step hL hs hhigh]
    exact le_max_left _ _
  blind := by
    intro hblind
    have hnext : L.blindNext s=true := (control_high hL hs hhigh).1.symm.trans hblind
    rw [norm2_way_step_blind hL hs hhigh hnext]
    exact way_lt_of_blindNext hs hnext
  low := by
    intro hlow
    cases hnext : L.blindNext s with
    | true =>
      rw [norm2_way_step_blind hL hs hhigh hnext]
      exact (way_lt_of_blindNext hs hnext).le.trans (le_max_left _ _)
    | false =>
      have hdt := hL.dt_pos
      have hslow : L.descent s≤L.cfg.plandMaxVelZ := min_le_right _ _
      have hbound := mul_le_mul_of_nonneg_left hslow hdt.le
      rw [height_step hL hs hhigh] at hlow
      have hlow' : L.height s-L.dt*L.descent s<L.cfg.plandLandAlt :=
        (le_max_right _ _).trans_lt hlow
      have hhold : holdDistThresh L.cfg (L.height s)=L.cfg.holdDistThreshMin :=
        if_pos (by linarith [hL.holdLow])
      have hnear : norm2 s.way≤L.cfg.holdDistThreshMin := by
        by_contra hfar
        rw [←hhold] at hfar
        rw [descent_of_far hnext (not_le.mp hfar) hL.velZ.le,mul_zero,sub_zero] at hlow'
        exact absurd hlow' (not_lt.mpr hhigh)
      exact (norm2_way_step_le_self hL hs hhigh).trans (hnear.trans (le_max_right _ _))

end

/-- A started landing has what every step keeps. -/
theorem Started.kept (hL : L.Tuned) (hs : L.Started s) : L.Kept s where
  now := hs.now
  high := hL.landAlt.le.trans hs.high
  blind := by
    intro hblind
    rw [hs.sighted] at hblind
    cases hblind
  low := fun hlow => absurd hs.high (not_le.mpr hlow)

/-- Above the touchdown height no command ends the flight. -/
theorem control_flies (hL : L.Tuned) (hs : L.Kept s) (hhigh : L.cfg.plandLandAlt≤L.height s) :
    ∀ cmd∈(L.control s).2,¬EndsFlight cmd := by
  intro cmd hcmd hends
  rw [(control_high hL hs hhigh).2] at hcmd
  obtain rfl := List.mem_singleton.mp hcmd
  rcases hends with h|h <;> cases h

/-- Over a platform that moves steadily the vehicle lands: after at most the steps left at the
start it is told to end the flight, not before, and it is then near the platform's centre. -/
theorem lands_on_platform (hL : L.Tuned) (hs : L.Started s) :
    ∃ n≤⌊L.remaining s⌋₊+1,
      (L.control (L.step^[n] s)).2=[L.touchdown] ∧
        norm2 (L.step^[n] s).way≤L.centred ∧
          ∀ m<n,∀ cmd∈(L.control (L.step^[m] s)).2,¬EndsFlight cmd := by
  have hfall : ∀ s,L.Kept s → ¬L.height s<L.cfg.plandLandAlt →
      L.height (L.step s)<L.cfg.plandLandAlt ∨ L.remaining (L.step s)+1≤L.remaining s := by
    intro s hs hhigh
    by_cases hnext : L.height (L.step s)<L.cfg.plandLandAlt
    · exact Or.inl hnext
    · exact Or.inr (remaining_step hL hs (not_lt.mp hhigh) (not_lt.mp hnext))
  have hpos : ∀ s,L.Kept s → 0≤L.remaining s := fun s hs => remaining_nonneg hL hs.high
  have hkeep : ∀ s,L.Kept s → ¬L.height s<L.cfg.plandLandAlt → L.Kept (L.step s) :=
    fun s hs hhigh => kept_step hL hs (not_lt.mp hhigh)
  obtain ⟨n,hn,hlow,hkept,hbefore⟩ := reached_of_potential hpos hkeep hfall (hs.kept hL)
  refine ⟨n,hn,control_low hL hkept hlow,hkept.low hlow,fun m hm => ?_⟩
  exact control_flies hL (hbefore m hm).1 (not_lt.mp (hbefore m hm).2)

/-- The default configuration at a hundred steps a second, over a platform that moves east. -/
def eastward : Trial := ⟨.initial,0.01,⟨1,0⟩,0⟩

/-- Five metres off to the east and three to the south, ten metres up and turned away. -/
def faraway : Scene := ⟨constructed 0 true,1,⟨5.0,-3.0,10.0,0.5⟩,.zero⟩

/-- The default configuration suits the platform. -/
theorem eastward_tuned : eastward.Tuned := by
  have hvel : norm2 (⟨1,0⟩ : Vec2 ℝ)=1 := hypot_axis zero_le_one
  constructor
  case followed => exact Or.inl rfl
  case slow => norm_num [eastward,PlandConfig.initial,hvel]
  all_goals norm_num [eastward,PlandConfig.initial]

/-- The landing begins high up. -/
theorem faraway_started : eastward.Started faraway := by
  constructor <;> norm_num [eastward,faraway,height,PlandConfig.initial,constructed]

/-- From there the vehicle lands within 20 cm of the platform's centre. -/
theorem faraway_lands :
    ∃ n≤⌊eastward.remaining faraway⌋₊+1,
      (eastward.control (eastward.step^[n] faraway)).2=[eastward.touchdown] ∧
        norm2 (eastward.step^[n] faraway).way≤eastward.centred ∧
          ∀ m<n,∀ cmd∈(eastward.control (eastward.step^[m] faraway)).2,¬EndsFlight cmd :=
  lands_on_platform eastward_tuned faraway_started

end Trial

end

end Dankong.Pland

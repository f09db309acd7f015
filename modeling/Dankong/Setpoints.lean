import Dankong.Attitude
import Dankong.TrackerControl

/-!
# Setpoints for the flight controller

Three ways to command a velocity: a setpoint message in the local frame or in the
body frame, which `MavrosBridge` forwards, and the tracker's body velocity, which
`MavsdkDrone` sends. All of them end in a raw setpoint in north, east, down or in
forward, right, down. The casts to single precision are read as exact.
-/

namespace Dankong.Setpoint

open StateUtils Tracker Real

/-- `FRAME_LOCAL_NED`. -/
def frameLocalNed : UInt8 := 1

/-- `FRAME_BODY_NED`. -/
def frameBodyNed : UInt8 := 8

/-- `IGNORE_YAW`. -/
def ignoreYaw : UInt16 := 1024

/-- `kVelYawRateMask`: position, acceleration and yaw are ignored. -/
def velYawRateMask : UInt16 := 1|||2|||4|||64|||128|||256|||1024

/-- `mavros_msgs::PositionTarget`, in east, north, up or forward, left, up. -/
structure PositionTarget where
  /-- `coordinate_frame`. -/
  coordinateFrame : UInt8
  /-- `type_mask`. -/
  typeMask : UInt16
  /-- `position`. -/
  position : Vec3 ℝ
  /-- `velocity`. -/
  velocity : Vec3 ℝ
  /-- `yaw`. -/
  yaw : ℝ
  /-- `yaw_rate`. -/
  yawRate : ℝ

/-- What `send_setpoint_raw_local_ned` packs into the message to the vehicle. -/
structure RawSetpoint where
  /-- The coordinate frame. -/
  frame : UInt8
  /-- Which fields are ignored. -/
  typeMask : UInt16
  /-- Position: north, east, down, or forward, right, down. -/
  pos : Vec3 ℝ
  /-- Velocity in the same axes. -/
  vel : Vec3 ℝ
  /-- Yaw, clockwise. -/
  yaw : ℝ
  /-- Yaw rate, clockwise. -/
  yawRate : ℝ

/-- What the bridge reads besides the message. -/
structure Bridge where
  /-- `stopping_`. -/
  stopping : Bool := false
  /-- Whether `ctx_.robot` is there. -/
  robot : Bool := true
  /-- `yaw_ned`. -/
  yawNed : ℝ

/-- East, north, up against north, east, down. -/
def enuToNed (v : Vec3 ℝ) : Vec3 ℝ := ⟨v.y,v.x,-v.z⟩

/-- Forward, left, up against forward, right, down. -/
def fluToFrd (v : Vec3 ℝ) : Vec3 ℝ := ⟨v.x,-v.y,-v.z⟩

noncomputable section

/-- First loop of `normalize_yaw`: whole turns are subtracted above half a turn. -/
def lowerTurns (yaw : ℝ) : ℝ := if π<yaw then lowerTurns (yaw-2.0*π) else yaw
termination_by ⌊(yaw+π)/(2*π)⌋₊
decreasing_by
  have htwo : (2.0 : ℝ)=2 := by norm_num
  have hshift : yaw-2.0*π+π=yaw+π-2*π := by rw [htwo]; ring
  rw [hshift]
  exact turns_down_lt (by linarith)

/-- Second loop: whole turns are added below minus half a turn. -/
def raiseTurns (yaw : ℝ) : ℝ := if yaw< -π then raiseTurns (yaw+2.0*π) else yaw
termination_by ⌈-(yaw+π)/(2*π)⌉₊
decreasing_by
  have htwo : (2.0 : ℝ)=2 := by norm_num
  have hshift : yaw+2.0*π+π=yaw+π+2*π := by rw [htwo]; ring
  rw [hshift]
  exact turns_up_lt (by linarith)

/-- `normalize_yaw`. -/
def normalizeYaw (yaw : ℝ) : ℝ := raiseTurns (lowerTurns yaw)

/-- `setpoint_callback`: what is sent to the vehicle. -/
def setpointCallback (bridge : Bridge) (msg : PositionTarget) : Option RawSetpoint :=
  if bridge.stopping=true then none
  else if bridge.robot=false then none
  else if msg.coordinateFrame=frameLocalNed then
    some {
      frame := msg.coordinateFrame
      typeMask := msg.typeMask
      pos := enuToNed msg.position
      vel := enuToNed msg.velocity
      yaw := if msg.typeMask&&&ignoreYaw≠0 then bridge.yawNed else normalizeYaw (π*0.5-msg.yaw)
      yawRate := -msg.yawRate }
  else if msg.coordinateFrame=frameBodyNed then
    some {
      frame := msg.coordinateFrame
      typeMask := msg.typeMask
      pos := fluToFrd msg.position
      vel := fluToFrd msg.velocity
      yaw := if msg.typeMask&&&ignoreYaw≠0 then bridge.yawNed else normalizeYaw (-msg.yaw)
      yawRate := -msg.yawRate }
  else none

/-- `cmd_vel`: what is sent for a body velocity with a yaw rate. -/
def cmdVel (vel : Vec4 ℝ) : RawSetpoint where
  frame := frameBodyNed
  typeMask := velYawRateMask
  pos := .zero
  vel := ⟨vel.x,-vel.y,-vel.z⟩
  yaw := 0
  yawRate := -vel.w

/-- A vector turned about the vertical axis: by an angle from east it comes from
the body frame to east, north, up, and by a heading from north it comes from
forward, right, down to north, east, down. -/
def turn (angle : ℝ) (v : Vec3 ℝ) : Vec3 ℝ where
  x := v.x*cos angle-v.y*sin angle
  y := v.x*sin angle+v.y*cos angle
  z := v.z

/-- What a raw setpoint asks of a vehicle with a heading: a velocity in north,
east, down and a yaw rate. -/
def RawSetpoint.meaning (heading : ℝ) (s : RawSetpoint) : Option (Vec3 ℝ×ℝ) :=
  if s.frame=frameLocalNed then some (s.vel,s.yawRate)
  else if s.frame=frameBodyNed then some (turn heading s.vel,s.yawRate)
  else none

end

/-- The first loop changes an angle by whole turns. -/
theorem coe_lowerTurns (yaw : ℝ) : (lowerTurns yaw : Angle)=yaw := by
  induction yaw using lowerTurns.induct with
  | case1 yaw hhigh ih =>
    have htwo : (2.0 : ℝ)=2 := by norm_num
    have hturn := coe_add_turn (yaw-2.0*π)
    rw [htwo,sub_add_cancel,←htwo] at hturn
    rw [lowerTurns,if_pos hhigh,ih,hturn]
  | case2 yaw hhigh => rw [lowerTurns,if_neg hhigh]

/-- So does the second loop. -/
theorem coe_raiseTurns (yaw : ℝ) : (raiseTurns yaw : Angle)=yaw := by
  induction yaw using raiseTurns.induct with
  | case1 yaw hlow ih =>
    have htwo : (2.0 : ℝ)=2 := by norm_num
    rw [raiseTurns,if_pos hlow,ih,htwo,coe_add_turn]
  | case2 yaw hlow => rw [raiseTurns,if_neg hlow]

/-- `normalize_yaw` changes an angle by whole turns. -/
theorem coe_normalizeYaw (yaw : ℝ) : (normalizeYaw yaw : Angle)=yaw := by
  rw [normalizeYaw,coe_raiseTurns,coe_lowerTurns]

/-- Turning a converted body vector by the heading from north is converting the
vector turned by the angle from east. -/
theorem turn_fluToFrd (psi : ℝ) (b : Vec3 ℝ) :
    turn (π/2-psi) (fluToFrd b)=enuToNed (turn psi b) := by
  rw [turn,cos_pi_div_two_sub,sin_pi_div_two_sub]
  ext
  · simp only [fluToFrd,enuToNed,turn]
    ring
  · simp only [fluToFrd,enuToNed,turn]
    ring
  · rfl

/-- The tracker's rotation into the body frame undoes the turn. -/
theorem turn_bodyTargetVel (env : Surroundings) {g : Guidance} (henu : g.targetFrame=.enu) :
    turn env.yawEnu (bodyTargetVel env g).head=g.targetVel.head := by
  have hunit := cos_sq_add_sin_sq env.yawEnu
  simp only [bodyTargetVel,henu,rotateToBody,cos_neg,sin_neg,Vec4.head,turn]
  generalize cos env.yawEnu=c,sin env.yawEnu=s at hunit ⊢
  ext
  · dsimp only
    linear_combination g.targetVel.x*hunit
  · dsimp only
    linear_combination g.targetVel.y*hunit
  · rfl

/-- A running bridge sends a setpoint in the local frame. -/
theorem setpointCallback_local {bridge : Bridge} {msg : PositionTarget}
    (hrun : bridge.stopping=false) (hrobot : bridge.robot=true)
    (hframe : msg.coordinateFrame=frameLocalNed) :
    setpointCallback bridge msg=some {
      frame := msg.coordinateFrame
      typeMask := msg.typeMask
      pos := enuToNed msg.position
      vel := enuToNed msg.velocity
      yaw := if msg.typeMask&&&ignoreYaw≠0 then bridge.yawNed else normalizeYaw (π*0.5-msg.yaw)
      yawRate := -msg.yawRate } := by
  rw [setpointCallback,if_neg (by simp [hrun]),if_neg (by simp [hrobot]),if_pos hframe]

/-- A running bridge sends a setpoint in the body frame. -/
theorem setpointCallback_body {bridge : Bridge} {msg : PositionTarget}
    (hrun : bridge.stopping=false) (hrobot : bridge.robot=true)
    (hframe : msg.coordinateFrame=frameBodyNed) :
    setpointCallback bridge msg=some {
      frame := msg.coordinateFrame
      typeMask := msg.typeMask
      pos := fluToFrd msg.position
      vel := fluToFrd msg.velocity
      yaw := if msg.typeMask&&&ignoreYaw≠0 then bridge.yawNed else normalizeYaw (-msg.yaw)
      yawRate := -msg.yawRate } := by
  have hother : msg.coordinateFrame≠frameLocalNed := by
    rw [hframe]
    decide
  rw [setpointCallback,if_neg (by simp [hrun]),if_neg (by simp [hrobot]),if_neg hother,
    if_pos hframe]

/-- For a vehicle that heads along the angle `psi` from east, all conversions describe
the same velocity, turn and yaw. -/
structure SetpointsAgree (psi : ℝ) : Prop where
  /-- Converting and turning commute. -/
  commute : ∀ b,turn (π/2-psi) (fluToFrd b)=enuToNed (turn psi b)
  /-- A setpoint in the local frame means its own velocity. -/
  localFrame : ∀ bridge msg,bridge.stopping=false → bridge.robot=true →
    msg.coordinateFrame=frameLocalNed → ∃ s,setpointCallback bridge msg=some s ∧
      s.meaning (π/2-psi)=some (enuToNed msg.velocity,-msg.yawRate) ∧
      (msg.typeMask&&&ignoreYaw=0 → (s.yaw : Angle)=yawEnuToNed msg.yaw)
  /-- A setpoint in the body frame means the velocity turned with the vehicle. -/
  bodyFrame : ∀ bridge msg,bridge.stopping=false → bridge.robot=true →
    msg.coordinateFrame=frameBodyNed → ∃ s,setpointCallback bridge msg=some s ∧
      s.meaning (π/2-psi)=some (enuToNed (turn psi msg.velocity),-msg.yawRate)
  /-- So does a body velocity. -/
  velocity : ∀ v,(cmdVel v).meaning (π/2-psi)=some (enuToNed (turn psi v.head),-v.w)
  /-- A target velocity that the tracker turns into the body frame keeps its meaning. -/
  tracker : ∀ env g,env.yawEnu=psi → g.targetFrame=.enu →
    turn psi (bodyTargetVel env g).head=g.targetVel.head ∧
      (cmdVel (bodyTargetVel env g)).meaning (π/2-psi)=
        some (enuToNed g.targetVel.head,-g.targetVel.w)
  /-- An offset in the body frame is turned in the same way. -/
  offset : ∀ target odom,odom.w=psi →
    (bodyToEnu target odom).head=odom.head.add (turn psi target.head)
  /-- Both conversions of vectors undo themselves. -/
  involutive : (∀ v,enuToNed (enuToNed v)=v) ∧ ∀ v,fluToFrd (fluToFrd v)=v

/-- Whatever the heading of the vehicle, the conversions agree. -/
theorem setpoints_agree (psi : ℝ) : SetpointsAgree psi := by
  have hbody : ∀ v : Vec4 ℝ,(cmdVel v).meaning (π/2-psi)=
      some (enuToNed (turn psi v.head),-v.w) := by
    intro v
    have hturn := turn_fluToFrd psi v.head
    have hframe : (cmdVel v).frame=frameBodyNed := rfl
    have hother : frameBodyNed≠frameLocalNed := by decide
    rw [RawSetpoint.meaning,hframe,if_neg hother,if_pos rfl]
    exact congrArg (fun u => some (u,-v.w)) hturn
  constructor
  case commute => exact turn_fluToFrd psi
  case localFrame =>
    intro bridge msg hrun hrobot hframe
    refine ⟨_,setpointCallback_local hrun hrobot hframe,?_,fun hyaw => ?_⟩
    · rw [RawSetpoint.meaning,if_pos hframe]
    · dsimp only
      rw [if_neg (not_not.mpr hyaw),coe_normalizeYaw,yawEnuToNed,coe_normYaw]
  case bodyFrame =>
    intro bridge msg hrun hrobot hframe
    have hother : msg.coordinateFrame≠frameLocalNed := by
      rw [hframe]
      decide
    refine ⟨_,setpointCallback_body hrun hrobot hframe,?_⟩
    rw [RawSetpoint.meaning,if_neg hother,if_pos hframe,turn_fluToFrd]
  case velocity => exact hbody
  case tracker =>
    intro env g hyaw henu
    have hturn := turn_bodyTargetVel env henu
    rw [hyaw] at hturn
    refine ⟨hturn,?_⟩
    rw [hbody,hturn]
    simp only [bodyTargetVel,henu]
  case offset =>
    intro target odom hyaw
    rw [←hyaw]
    rfl
  case involutive =>
    constructor
    · intro v
      simp only [enuToNed,neg_neg]
    · intro v
      simp only [fluToFrd,neg_neg]

end Dankong.Setpoint

import Dankong.LandingTrajectory
import Dankong.Quaternions
import Dankong.TrackerGuidance

/-!
# The landing controller

`PlandController`: observations of the landing tag come in, and every control
step either flies towards an injected target, waits for a first observation,
handles a lost target, or servoes on the tag in one of two modes. Published
debug topics and log output are left out.
-/

namespace Dankong.Pland

open StateUtils Tracker Real

/-- `ServoingMode`. -/
inductive ServoingMode
  /-- Position tracking in the global frame. -/
  | globalEnu
  /-- Relative velocity control in the body frame. -/
  | pureVisualBody
  deriving DecidableEq

/-- The fields of `DetectorResult` the controller reads. -/
structure DetectorResult where
  /-- Whether a tag was detected. -/
  isValid : Bool := false
  /-- Time the image was taken. -/
  stamp : ℝ
  /-- Target position in the global frame. -/
  targetPosEnu : Vec3 ℝ := .zero
  /-- Target velocity; the last component is the yaw rate. -/
  targetVelEnu : Vec3 ℝ := .zero
  /-- Target yaw. -/
  targetYawEnu : ℝ := 0
  /-- Yaw error seen by the camera. -/
  yawRelative : ℝ := 0
  /-- Target position in the body frame. -/
  targetPosBody : Vec3 ℝ := .zero

/-- `PlandTarget`: a target injected from outside. -/
structure PlandTarget where
  /-- Time of injection. -/
  timestamp : ℝ
  /-- Position in the global frame. -/
  pos : Vec3 ℝ
  /-- Velocity, when given. -/
  velEnu : Option (Vec3 ℝ)

/-- What a call reads from the robot context. -/
structure PlandEnv where
  /-- `get_time_provider()->now()`. -/
  now : ℝ
  /-- `pos_enu`. -/
  posEnu : Vec3 ℝ
  /-- `orientation`. -/
  orientation : Quat
  /-- `yaw_enu`. -/
  yawEnu : ℝ
  /-- `rangefinder_alt`. -/
  rangefinderAlt : ℝ
  /-- `pland_target`. -/
  plandTarget : Option PlandTarget := none

/-- What the controller asks the tracker and the robot to do. -/
inductive PlandCmd
  /-- `tracker->send_pos_cmd`. -/
  | sendPosCmd (wp : TrackerWaypoint)
  /-- `tracker->send_vel_cmd`. -/
  | sendVelCmd (vel : Vec3 ℝ) (yaw yawRate : Option ℝ) (frame : CmdFrame)
  /-- `robot->disarm`. -/
  | disarm
  /-- `robot->land`. -/
  | land

/-- The controller. -/
structure PlandState where
  /-- Whether the control thread runs. -/
  running : Bool := false
  /-- `invalid_time_`: consecutive steps without a fresh observation. -/
  invalidTime : ℕ := 0
  /-- `traj_gen_`. -/
  trajGen : Rabbit := {}
  /-- `latest_obs_`: the latest valid observation. -/
  latestObs : DetectorResult
  /-- `is_blind_drop_`. -/
  isBlindDrop : Bool := false
  /-- `current_mode_`. -/
  currentMode : ServoingMode := .globalEnu
  /-- `is_approaching_target_`. -/
  isApproachingTarget : Bool := true

noncomputable section

/-- `get_current_z`: the range finder near the ground, the position high up, and
a mixture in between. -/
def getCurrentZ (env : PlandEnv) : ℝ :=
  let posZ := env.posEnu.z
  if posZ<1 then |env.rangefinderAlt|
  else if 3.0<posZ then posZ
  else
    let ratio := (posZ-1)/(3.0-1)
    (1-ratio)*|env.rangefinderAlt|+ratio*posZ

/-- Height above the landing platform. -/
def currentZ (cfg : PlandConfig ℝ) (env : PlandEnv) : ℝ :=
  max 0 (getCurrentZ env-cfg.platformHeight)

/-- `execute_z_state_machine`: no command means touchdown, which leaves the
blind-drop flag as it is. -/
def executeZStateMachine (cfg : PlandConfig ℝ) (z xyError yawErrorDeg droneEnuZ : ℝ)
    (s : PlandState) : Option (ZControlCmd ℝ)×PlandState×List PlandCmd :=
  let cmd := calculateSharedZDescent cfg z xyError yawErrorDeg s.isBlindDrop droneEnuZ
  if cmd.shouldLand=true then
    (none,s,[if cmd.shouldDisarm=true then .disarm else .land])
  else (some cmd,{ s with isBlindDrop := cmd.isBlindDrop },[])

/-- The fmod form that brings an angle to the half-open turn around zero. -/
def wrapAngle (yaw : ℝ) : ℝ :=
  let rest := fmod (yaw+π) (2.0*π)
  (if rest<0 then rest+2.0*π else rest)-π

/-- Age of the observation, as far as the prediction uses it. -/
def delaySec (env : PlandEnv) (s : PlandState) : ℝ :=
  clamp (env.now-s.latestObs.stamp) 0 (if s.isBlindDrop=true then 2.0 else 0.5)

/-- Share of the camera offset that is compensated at a height. -/
def offsetRatio (z : ℝ) : ℝ := if 3.0<z then 1 else if 1<z then (z-1)/(3.0-1) else 0

/-- The predicted target position after the landing offset. -/
def aimPoint (cfg : PlandConfig ℝ) (env : PlandEnv) (s : PlandState) : Vec3 ℝ :=
  let obs := s.latestObs
  let predicted : Vec3 ℝ := ⟨obs.targetPosEnu.x+obs.targetVelEnu.x*delaySec env s,
    obs.targetPosEnu.y+obs.targetVelEnu.y*delaySec env s,obs.targetPosEnu.z⟩
  let ratio := offsetRatio (currentZ cfg env)
  predicted.sub (env.orientation.normalize.rotate ⟨cfg.offsetX*ratio,cfg.offsetY*ratio,0*ratio⟩)

/-- Horizontal error of the global mode. -/
def enuXyError (cfg : PlandConfig ℝ) (env : PlandEnv) (s : PlandState) : ℝ :=
  hypot ((aimPoint cfg env s).x-env.posEnu.x) ((aimPoint cfg env s).y-env.posEnu.y)

/-- Predicted target yaw. -/
def aimYaw (env : PlandEnv) (s : PlandState) : ℝ :=
  wrapAngle (s.latestObs.targetYawEnu+s.latestObs.targetVelEnu.z*delaySec env s)

/-- Yaw and yaw rate to command: the vehicle's own far away, the target's close
by, and a mixture in between. -/
def enuYawCommand (env : PlandEnv) (s : PlandState) (xyError yawDiff : ℝ) : ℝ×ℝ :=
  let omega := s.latestObs.targetVelEnu.z
  if 2.5<xyError then (env.yawEnu,0)
  else if xyError<1 then (aimYaw env s,omega)
  else
    let ratio := (2.5-xyError)/(2.5-1)
    (env.yawEnu+yawDiff*ratio,omega*ratio)

/-- Speed penalty for a target at the edge of the field of view or a vehicle
that is still turning. -/
def enuPenalty (s : PlandState) (visualAngleDeg absYawErrDeg xyError : ℝ) : ℝ :=
  let fovPenalty := if s.isBlindDrop=false ∧ 30.0<visualAngleDeg
    then max 0.1 (1-0.9*(visualAngleDeg-30.0)/15.0) else 1
  let yawPenalty := if s.isBlindDrop=false ∧ 20.0<absYawErrDeg ∧ xyError≤2.5
    then max 0.1 (1-0.9*(absYawErrDeg-20.0)/40.0) else 1
  min fovPenalty yawPenalty

/-- The leash clamp: the rabbit's position is pulled back to the leash length,
and its speed then to the cruise speed. -/
def leash (pos : Vec2 ℝ) (z cruiseSpeedXy : ℝ) (virtual : Vec2 ℝ×Vec2 ℝ) (r : Rabbit) :
    (Vec2 ℝ×Vec2 ℝ)×Rabbit :=
  let trackingErr := virtual.1.sub pos
  let maxLeashLength := max 2.0 (1+0.5*(z/3.0))
  if maxLeashLength<norm2 trackingErr then
    let held := (pos.add ((normalized trackingErr).scale maxLeashLength),
      cutTo cruiseSpeedXy virtual.2)
    (held,r.forceSetState held.1 held.2)
  else (virtual,r)

/-- Degrees of an angle. -/
def degrees (a : ℝ) : ℝ := a*180.0/π

/-- `step_global_enu`. -/
def stepGlobalEnu (cfg : PlandConfig ℝ) (env : PlandEnv) (dt : ℝ) (s : PlandState) :
    PlandState×List PlandCmd :=
  let z := currentZ cfg env
  let obs := s.latestObs
  let velXy := obs.targetVelEnu.horizontal
  let target := aimPoint cfg env s
  let xyError := enuXyError cfg env s
  let yawDiff := wrapAngle (aimYaw env s-env.yawEnu)
  let absYawErrDeg := degrees |yawDiff|
  let yaw := enuYawCommand env s xyError yawDiff
  let relative := env.orientation.normalize.rotateBack (target.sub env.posEnu)
  let visualAngleDeg := degrees (atan2 (hypot relative.x relative.y) z)
  let penalty := enuPenalty s visualAngleDeg absYawErrDeg xyError
  let activeCruiseSpeed := min cfg.plandCruiseSpeedXy (max 0.3 (xyError*0.5)+norm2 velXy)
  let cruiseSpeedXy := max (activeCruiseSpeed*penalty) 0.5
  let accXy := max (cfg.plandMaxAccXy*penalty) 0.8
  let rabbit := if s.trajGen.initialized=true then s.trajGen else .reset env.posEnu.horizontal
  let moved := rabbit.step cfg.plandKp cfg.plandKv dt target.horizontal velXy cruiseSpeedXy accXy
  let held := leash env.posEnu.horizontal z cruiseSpeedXy moved.1 moved.2
  let ffVel : Vec3 ℝ := if cfg.useFfVel=true then ⟨held.1.2.x,held.1.2.y,0⟩ else .zero
  match executeZStateMachine cfg z xyError absYawErrDeg (getCurrentZ env)
    { s with trajGen := held.2 } with
  | (none,s,cmds) => (s,cmds)
  | (some zCmd,s,_) => (s,[.sendPosCmd
      { pos := ⟨held.1.1.x,held.1.1.y,zCmd.enuTargetZ⟩
        yaw := some yaw.1
        ffYawRate := some yaw.2
        ffVel := some ffVel
        fbSpeedLimitXy := some cruiseSpeedXy
        fbSpeedLimitZ := some zCmd.descentVel
        fbSpeedLimitYaw := some 0.4
        frame := .enu
        gamma := ⟨zCmd.enuGammaXy,cfg.plandGammaYaw,zCmd.enuGammaZ⟩
        maxAccXy := some accXy }])

/-- Horizontal error of the visual mode. -/
def visualXyError (s : PlandState) : ℝ := norm2 s.latestObs.targetPosBody.horizontal

/-- Feed-forward velocity of the visual mode: the target's velocity in the body
frame, within a share of the cruise speed. -/
def visualFfVel (cfg : PlandConfig ℝ) (env : PlandEnv) (s : PlandState) : Vec2 ℝ :=
  if cfg.useFfVel=true then
    let vel := s.latestObs.targetVelEnu
    cutTo (cfg.plandCruiseSpeedXy*0.8)
      ⟨vel.x*cos env.yawEnu+vel.y*sin env.yawEnu,-vel.x*sin env.yawEnu+vel.y*cos env.yawEnu⟩
  else .zero

/-- `step_pure_visual`. -/
def stepPureVisual (cfg : PlandConfig ℝ) (env : PlandEnv) (s : PlandState) :
    PlandState×List PlandCmd :=
  let z := currentZ cfg env
  let errYaw := if z<1 then 0 else s.latestObs.yawRelative
  let ffOmega := if z<1 then 0 else s.latestObs.targetVelEnu.z
  let ffVel := visualFfVel cfg env s
  let vel := cutTo cfg.plandCruiseSpeedXy
    ((s.latestObs.targetPosBody.horizontal.scale cfg.visionKp).add ffVel)
  let omegaZ := clamp (1*errYaw+ffOmega) (-0.5) 0.5
  match executeZStateMachine cfg z (visualXyError s) (degrees |errYaw|) (getCurrentZ env) s with
  | (none,s,cmds) => (s,cmds)
  | (some zCmd,s,_) =>
    let vel := if zCmd.isBlindDrop=true then ffVel else vel
    let omegaZ := if zCmd.isBlindDrop=true then 0 else omegaZ
    (s,[.sendVelCmd ⟨vel.x,vel.y,-zCmd.descentVel⟩ none (some omegaZ) .body])

/-- The injected target, when it is fresh and landing near it is asked for. -/
def injectedTarget (cfg : PlandConfig ℝ) (env : PlandEnv) : Option PlandTarget :=
  match env.plandTarget with
  | none => none
  | some target =>
    if env.now-target.timestamp≤cfg.plandTargetTimeout ∧ 0<cfg.plandTargetDistance
    then some target else none

/-- Hysteresis of the approach: it ends within the distance and begins again one
metre further out. -/
def approachNext (cfg : PlandConfig ℝ) (env : PlandEnv) (target : PlandTarget)
    (isApproaching : Bool) : Bool :=
  let dist := norm2 (target.pos.sub env.posEnu).horizontal
  if isApproaching=true then !decide (dist≤cfg.plandTargetDistance)
  else decide (cfg.plandTargetDistance+1<dist)

/-- Which part of `on_step` runs. -/
inductive StepBranch
  /-- Flying towards an injected target. -/
  | approach (target : PlandTarget)
  /-- No observation has ever been made. -/
  | unobserved
  /-- The target has been lost for more than twenty steps. -/
  | lost
  /-- Servoing on the tag. -/
  | servo

/-- `on_step` from the reading of the observation to the choice of a branch. -/
def observedBranch (cfg : PlandConfig ℝ) (env : PlandEnv) (s : PlandState) :
    StepBranch×PlandState :=
  let isTimeout := s.latestObs.stamp=0 ∨ 1<env.now-s.latestObs.stamp
  let invalidTime := if s.latestObs.isValid=false ∨ isTimeout then s.invalidTime+1 else 0
  if s.latestObs.stamp=0 then (.unobserved,{ s with invalidTime := invalidTime })
  else
    (if 20 < invalidTime then .lost else .servo,
      { s with
        invalidTime := invalidTime
        currentMode := if cfg.pureVision=true then .pureVisualBody else .globalEnu })

/-- The branch of `on_step`, with the bookkeeping made before it. -/
def stepBranch (cfg : PlandConfig ℝ) (env : PlandEnv) (s : PlandState) :
    StepBranch×PlandState :=
  match injectedTarget cfg env with
  | none => observedBranch cfg env s
  | some target =>
    let s := { s with isApproachingTarget := approachNext cfg env target s.isApproachingTarget }
    if s.isApproachingTarget=true then (.approach target,s) else observedBranch cfg env s

/-- The approach branch of `on_step`: fly to the target at the present height. -/
def approachStep (env : PlandEnv) (target : PlandTarget) (s : PlandState) :
    PlandState×List PlandCmd :=
  ({ s with trajGen := .reset env.posEnu.horizontal },
    [.sendPosCmd
      { pos := { target.pos with z := env.posEnu.z }
        ffVel := target.velEnu.map fun v => { v with z := 0 }
        frame := .enu }])

/-- The command of a blind drop that goes on without the target. -/
def blindDescentCmd (cfg : PlandConfig ℝ) (env : PlandEnv) : ServoingMode → PlandCmd
  | .globalEnu => .sendPosCmd
    { pos := ⟨env.posEnu.x,env.posEnu.y,cfg.platformHeight-0.5⟩
      yaw := some env.yawEnu
      ffYawRate := some 0
      ffVel := some .zero
      fbSpeedLimitXy := some 0
      fbSpeedLimitZ := some (cfg.touchdownVelocity+0.2)
      fbSpeedLimitYaw := some 0
      frame := .enu
      gamma := ⟨100.0,1,100.0⟩
      maxAccXy := some 0.5 }
  | .pureVisualBody => .sendVelCmd ⟨0,0,-(cfg.touchdownVelocity+0.2)⟩ none (some 0) .body

/-- The lost-target branch of `on_step`. -/
def lostStep (cfg : PlandConfig ℝ) (env : PlandEnv) (s : PlandState) :
    PlandState×List PlandCmd :=
  if s.isBlindDrop=true then (s,[blindDescentCmd cfg env s.currentMode])
  else
    match s.currentMode with
    | .globalEnu =>
      ({ s with trajGen := .reset env.posEnu.horizontal },
        [.sendPosCmd
          { pos := ⟨env.posEnu.x,env.posEnu.y,cfg.lostTargetAlt⟩
            fbSpeedLimitZ := some 0.5
            frame := .enu }])
    | .pureVisualBody =>
      (s,[.sendVelCmd ⟨0,0,if currentZ cfg env<cfg.lostTargetAlt then 0.4 else 0⟩
        none (some 0) .body])

/-- `on_step`. -/
def onStep (cfg : PlandConfig ℝ) (env : PlandEnv) (dt : ℝ) (s : PlandState) :
    PlandState×List PlandCmd :=
  match stepBranch cfg env s with
  | (.approach target,s) => approachStep env target s
  | (.unobserved,s) => (s,[])
  | (.lost,s) => lostStep cfg env s
  | (.servo,s) => match s.currentMode with
    | .globalEnu => stepGlobalEnu cfg env dt s
    | .pureVisualBody => stepPureVisual cfg env s

/-- `on_start`. -/
def onStart (env : PlandEnv) (s : PlandState) : PlandState :=
  { s with trajGen := .reset env.posEnu.horizontal, isApproachingTarget := true }

/-- `update_observation`: only valid observations are stored. -/
def updateObservation (result : DetectorResult) (s : PlandState) : PlandState :=
  if result.isValid=true then { s with latestObs := result } else s

end

/-- What happens to a controller. -/
inductive PlandInput
  /-- `start`. -/
  | start (env : PlandEnv)
  /-- `stop`. -/
  | stop
  /-- `update_observation`. -/
  | observe (result : DetectorResult)
  /-- The control thread's next step, with the configuration it reads. -/
  | step (cfg : PlandConfig ℝ) (env : PlandEnv) (dt : ℝ)

noncomputable section

/-- One input, with the commands it causes. A running controller ignores a
start, and the control thread steps only while the controller runs. -/
def react (s : PlandState) : PlandInput → PlandState×List PlandCmd
  | .start env =>
    if s.running=true then (s,[]) else ({ onStart env s with running := true },[])
  | .stop => ({ s with running := false },[.sendVelCmd .zero none none .body])
  | .observe result => (updateObservation result s,[])
  | .step cfg env dt => if s.running=true then onStep cfg env dt s else (s,[])

/-- The state after one input. -/
def advance (s : PlandState) (i : PlandInput) : PlandState := (react s i).1

/-- A constructed controller; the stamp of its observation is not initialised by
the source, and the servoing mode follows the configuration. -/
def constructed (stamp : ℝ) (pureVision : Bool) : PlandState where
  latestObs := { stamp := stamp }
  currentMode := if pureVision=true then .pureVisualBody else .globalEnu

end

end Dankong.Pland

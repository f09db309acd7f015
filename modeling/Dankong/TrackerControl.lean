import Dankong.TrackerGuidance

/-!
# Control loop of the threaded tracker

Feedback control, kinematic constraints and the control step of
`ThreadedTracker`, translated branch by branch. A control step returns the new
state together with the velocity commands it hands to the runtime.
-/

namespace Dankong.Tracker

open StateUtils Real

/-- `PIDState`. -/
structure PIDState where
  /-- Accumulated error. -/
  integral : ℝ := 0
  /-- Error of the previous step. -/
  prevError : ℝ := 0

/-- What the control loop remembers about the motion of the vehicle. -/
structure Motion where
  /-- `angle_ctrl_`: whether the last turn was clockwise. -/
  wasTurningCw : Bool := false
  /-- `last_cmd_vel_`. -/
  lastCmdVel : Vec4 ℝ := .zero
  /-- `last_cmd_acc_`. -/
  lastCmdAcc : Vec3 ℝ := .zero
  /-- `last_yaw_`. -/
  lastYaw : ℝ := 0
  /-- The four PID memories. -/
  pidX : PIDState := {}
  pidY : PIDState := {}
  pidZ : PIDState := {}
  pidYaw : PIDState := {}
  /-- `is_pivoting_`. -/
  isPivoting : Bool := false

/-- The whole tracker. -/
structure TrackerState where
  /-- What the vehicle is asked to do. -/
  guide : Guidance
  /-- What the loop remembers. -/
  motion : Motion := {}
  /-- `pending_cmd_`. -/
  pendingCmd : PendingCmd := {}
  /-- `speed_limit_cbs_`, in registration order. -/
  speedLimitCbs : List LimitCb := []
  /-- `cb_seq_`: the next handle. -/
  cbSeq : ℕ := 0

noncomputable section

/-- `reset_all_pids`. -/
def Motion.resetAllPids (m : Motion) : Motion :=
  { m with pidX := {}, pidY := {}, pidZ := {}, pidYaw := {}, isPivoting := false }

/-- The bookkeeping of `send_zero_velocity`; the zero command itself is
returned by the step that calls it. -/
def Motion.zeroed (env : Surroundings) (m : Motion) : Motion :=
  { m with lastCmdVel := .zero, lastCmdAcc := .zero, lastYaw := env.yawEnu }.resetAllPids

/-- `calculate_pid`. -/
def calculatePid (error : ℝ) (pid : PIDState) (kp ki kd maxI dt : ℝ) (enableI : Bool) :
    ℝ×PIDState :=
  let integral := if enableI=true then clamp (pid.integral+error*dt) (-maxI) maxI
    else pid.integral
  let derivative := if 1e-6<dt then (error-pid.prevError)/dt else 0
  (kp*error+ki*integral+kd*derivative,⟨integral,error⟩)

/-- A horizontal vector rotated into the body frame of the given yaw. -/
def rotateToBody (yaw x y : ℝ) : ℝ×ℝ :=
  (x*cos (-yaw)-y*sin (-yaw),x*sin (-yaw)+y*cos (-yaw))

/-- `body_target_vel`: the target velocity in the body frame. -/
def bodyTargetVel (env : Surroundings) (g : Guidance) : Vec4 ℝ :=
  match g.targetFrame with
  | .body => g.targetVel
  | .enu => { g.targetVel with
      x := (rotateToBody env.yawEnu g.targetVel.x g.targetVel.y).1
      y := (rotateToBody env.yawEnu g.targetVel.x g.targetVel.y).2 }

/-- A horizontal pair scaled down to a limit once it exceeds it and is not tiny. -/
def limitPair (x y speed limit : ℝ) : ℝ×ℝ :=
  if limit<speed ∧ 1e-4<speed then (x/speed*limit,y/speed*limit) else (x,y)

/-- Yaw-dependent speed scale of the omnidirectional branch. -/
def speedScale (cfg : TrackerConfig) (g : Guidance) (dist dyaw : ℝ) : ℝ :=
  if g.autoHeading=true ∧ cfg.posToleranceM≤dist then
    if cfg.yawZeroSpeedTol≤|dyaw| then 0
    else if cfg.yawFullSpeedTol < |dyaw| then
      1-(|dyaw|-cfg.yawFullSpeedTol)/(cfg.yawZeroSpeedTol-cfg.yawFullSpeedTol)
    else 1
  else 1

/-- Vertical part of `compute_pos_control`, common to both vehicle types. -/
def verticalControl (cfg : TrackerConfig) (g : Guidance) (ffZ dz dt : ℝ) (m : Motion) :
    ℝ×Motion :=
  let pid := calculatePid dz m.pidZ (cfg.kpZ*g.gamma.y) cfg.kiZ cfg.kdZ cfg.maxIZ dt true
  let fbZ := clamp pid.1 (-g.fbVelLimitZ) g.fbVelLimitZ
  let brake := √(2.0*cfg.maxDecelZ*|dz|)
  (clamp (fbZ+ffZ) (-brake) brake,{ m with pidZ := pid.2 })

/-- Yaw PID with feedback limit, shared by the branches that turn in place. -/
def yawFeedback (cfg : TrackerConfig) (g : Guidance) (dyaw dt : ℝ) (m : Motion) : ℝ×Motion :=
  let pid := calculatePid dyaw m.pidYaw (cfg.kpYaw*g.gamma.z) cfg.kiYaw cfg.kdYaw cfg.maxIYaw
    dt true
  (clamp pid.1 (-g.fbVelLimitYaw) g.fbVelLimitYaw,{ m with pidYaw := pid.2 })

/-- The angle error against the target yaw, with the controller's memory. -/
def yawError (g : Guidance) (yaw : ℝ) (m : Motion) : ℝ×Motion :=
  if g.ctrlYaw=true then
    let d := getDistance m.wasTurningCw yaw g.targetPoseEnu.w 0.17
    (d.1,{ m with wasTurningCw := d.2 })
  else (0,m)

/-- Yaw rate from which the vehicle can still brake within the remaining angle. -/
def yawBrake (cfg : TrackerConfig) (dyaw rate : ℝ) : ℝ :=
  let brake := √(2.0*cfg.maxAccYaw*|dyaw|)
  clamp rate (-brake) brake

/-- Horizontal and yaw control of an omnidirectional vehicle. -/
def omniControl (cfg : TrackerConfig) (g : Guidance) (pose ff : Vec4 ℝ) (dt : ℝ) (m : Motion) :
    (ℝ×ℝ×ℝ)×Motion :=
  let dx := g.targetPoseEnu.x-pose.x
  let dy := g.targetPoseEnu.y-pose.y
  let err := yawError g pose.w m
  let scale := speedScale cfg g (hypot dx dy) err.1
  let enableI := decide (1e-3<scale)
  let px := calculatePid dx err.2.pidX (cfg.kpXy*g.gamma.x) cfg.kiXy cfg.kdXy cfg.maxIXy dt enableI
  let py := calculatePid dy err.2.pidY (cfg.kpXy*g.gamma.x) cfg.kiXy cfg.kdXy cfg.maxIXy dt enableI
  let fbX := cos pose.w*px.1+sin pose.w*py.1
  let fbY := -sin pose.w*px.1+cos pose.w*py.1
  let fbSpeed := hypot fbX fbY
  let lim := limitPair fbX fbY fbSpeed g.fbVelLimitXy
  let speed := if g.fbVelLimitXy<fbSpeed ∧ 1e-4<fbSpeed then g.fbVelLimitXy else fbSpeed
  let dist := hypot dx dy
  let brake := √(2.0*g.maxDecelXy.getD cfg.maxDecelXy*dist)
  let fb := if 1e-4<dist ∧ brake<speed then (lim.1/speed*brake,lim.2/speed*brake) else lim
  let yaw := yawFeedback cfg g err.1 dt { err.2 with pidX := px.2, pidY := py.2 }
  let rate := yaw.1+ff.w
  (((fb.1+ff.x)*scale,(fb.2+ff.y)*scale,
    if g.ctrlYaw=true then yawBrake cfg err.1 rate else rate),yaw.2)

/-- Heading error of the pure-pursuit branch, in the half-open range around zero. -/
def pursuitAngle (dx dy yaw : ℝ) : ℝ :=
  let alpha := normYaw (atan2 dy dx-yaw)
  if π<alpha then alpha-2.0*π else alpha

/-- Hysteresis of the turn-in-place state: in at 30 degrees, out at 5. -/
def pivotNext (isPivoting : Bool) (alpha : ℝ) : Bool :=
  if isPivoting=false ∧ 30.0*π/180.0 < |alpha| then true
  else if isPivoting=true ∧ |alpha|<5.0*π/180.0 then false
  else isPivoting

/-- Horizontal and yaw control of an Ackermann vehicle. -/
def ackermannControl (cfg : TrackerConfig) (g : Guidance) (pose ff : Vec4 ℝ) (dt : ℝ)
    (m : Motion) : (ℝ×ℝ×ℝ)×Motion :=
  let dx := g.targetPoseEnu.x-pose.x
  let dy := g.targetPoseEnu.y-pose.y
  let dist := hypot dx dy
  if dist<cfg.posToleranceM then
    let m := { m with isPivoting := false }
    if g.ctrlYaw=true then
      let err := yawError g pose.w m
      let yaw := yawFeedback cfg g err.1 dt err.2
      ((ff.x,0,yawBrake cfg err.1 yaw.1+ff.w),yaw.2)
    else ((ff.x,0,0+ff.w),m)
  else
    let alpha := pursuitAngle dx dy pose.w
    let m := { m with isPivoting := pivotNext m.isPivoting alpha }
    if m.isPivoting=true then
      let yaw := yawFeedback cfg g alpha dt m
      ((0+ff.x,0,yaw.1+ff.w),yaw.2)
    else
      let targetV := clamp (cfg.kpXy*dist) 0 g.fbVelLimitXy
      let lookahead := clamp dist cfg.minLookahead cfg.maxLookahead
      let targetW := 2.0*targetV*sin alpha/lookahead
      ((targetV+ff.x,0,clamp targetW (-g.fbVelLimitYaw) g.fbVelLimitYaw+ff.w),m)

/-- `compute_pos_control`. -/
def computePosControl (cfg : TrackerConfig) (g : Guidance) (pose ff : Vec4 ℝ) (dt : ℝ)
    (m : Motion) : Vec4 ℝ×Motion :=
  let z := verticalControl cfg g ff.z (g.targetPoseEnu.z-pose.z) dt m
  let xyw := if cfg.isOmnidirectional=true then omniControl cfg g pose ff dt z.2
    else ackermannControl cfg g pose ff dt z.2
  (⟨xyw.1.1,xyw.1.2.1,z.1,xyw.1.2.2⟩,xyw.2)

/-- `compute_vel_control`. -/
def computeVelControl (cfg : TrackerConfig) (g : Guidance) (pose bodyVel : Vec4 ℝ)
    (m : Motion) : Vec4 ℝ×Motion :=
  let err := yawError g pose.w m
  (⟨bodyVel.x,if cfg.isOmnidirectional=true then bodyVel.y else 0,bodyVel.z,
    if g.ctrlYaw=true then cfg.kpYaw*err.1 else bodyVel.w⟩,err.2)

/-- Desired horizontal acceleration after the acceleration limit. -/
def limitAccel (cfg : TrackerConfig) (g : Guidance) (lastX lastY ax ay : ℝ) : ℝ×ℝ :=
  let limit := if 0.01<√(lastX*lastX+lastY*lastY) ∧ lastX*ax+lastY*ay<0
    then g.maxDecelXy.getD cfg.maxDecelXy else g.maxAccXy.getD cfg.maxAccXy
  let mag := hypot ax ay
  if limit < mag ∧ 1e-6 < mag then (ax/mag*limit,ay/mag*limit) else (ax,ay)

/-- Desired horizontal acceleration after the jerk limit. -/
def limitJerk (g : Guidance) (lastAx lastAy ax ay dt : ℝ) : ℝ×ℝ :=
  let dax := ax-lastAx
  let day := ay-lastAy
  let mag := hypot dax day
  let maxDa := g.maxJerkXy.getD 1000.0*dt
  if maxDa < mag ∧ 1e-6 < mag then (lastAx+dax/mag*maxDa,lastAy+day/mag*maxDa) else (ax,ay)

/-- `apply_kinematic_constraints` with the configured velocity caps, which is
how both callers use it. -/
def applyKinematicConstraints (cfg : TrackerConfig) (g : Guidance) (raw : Vec4 ℝ)
    (currentYaw dt : ℝ) (m : Motion) : Vec4 ℝ×Motion :=
  let capped := limitPair raw.x raw.y (√(raw.x*raw.x+raw.y*raw.y)) cfg.maxVelXy
  let rawZ := clamp raw.z (-cfg.maxVelZ) cfg.maxVelZ
  let rawW := clamp raw.w (-cfg.maxVelYaw) cfg.maxVelYaw
  let c := cos (currentYaw-m.lastYaw)
  let s := sin (currentYaw-m.lastYaw)
  let lastX := m.lastCmdVel.x*c+m.lastCmdVel.y*s
  let lastY := -m.lastCmdVel.x*s+m.lastCmdVel.y*c
  let lastAx := m.lastCmdAcc.x*c+m.lastCmdAcc.y*s
  let lastAy := -m.lastCmdAcc.x*s+m.lastCmdAcc.y*c
  let acc := limitAccel cfg g lastX lastY ((capped.1-lastX)/dt) ((capped.2-lastY)/dt)
  let a := limitJerk g lastAx lastAy acc.1 acc.2 dt
  let az := clamp ((rawZ-m.lastCmdVel.z)/dt) (-cfg.maxAccZ) cfg.maxAccZ
  let maxDaz := g.maxJerkZ.getD 1000.0*dt
  let az := clamp az (m.lastCmdAcc.z-maxDaz) (m.lastCmdAcc.z+maxDaz)
  let maxDelta := cfg.maxAccYaw*dt
  let cmd : Vec4 ℝ := ⟨lastX+a.1*dt,lastY+a.2*dt,m.lastCmdVel.z+az*dt,
    clamp rawW (m.lastCmdVel.w-maxDelta) (m.lastCmdVel.w+maxDelta)⟩
  (cmd,{ m with lastCmdVel := cmd, lastCmdAcc := ⟨a.1,a.2,az⟩, lastYaw := currentYaw })

/-- `on_pos_step`: position control, the final clamp to the effective limit and
the kinematic constraints. -/
def onPosStep (cfg : TrackerConfig) (env : Surroundings) (g : Guidance) (dt : ℝ) (m : Motion) :
    Vec4 ℝ×Motion :=
  let raw := computePosControl cfg g env.pose (bodyTargetVel env g) dt m
  let speed := hypot raw.1.x raw.1.y
  let cmd := if g.fbVelLimitXy<speed ∧ 1e-4<speed then
      { raw.1 with
        x := raw.1.x*(g.fbVelLimitXy/speed)
        y := raw.1.y*(g.fbVelLimitXy/speed) }
    else raw.1
  applyKinematicConstraints cfg g cmd env.yawEnu dt raw.2

/-- Whether a position step finds the vehicle at the current waypoint. -/
def reached (cfg : TrackerConfig) (env : Surroundings) (g : Guidance) (dyaw : ℝ) : Prop :=
  let dx := g.targetPoseEnu.x-env.posEnu.x
  let dy := g.targetPoseEnu.y-env.posEnu.y
  let dz := g.targetPoseEnu.z-env.posEnu.z
  √(dx*dx+dy*dy+dz*dz)≤cfg.posToleranceM ∧
    (g.ctrlYaw=false ∨ g.autoHeading=true ∨ |dyaw|≤cfg.yawToleranceRad)

open Classical in
/-- The position branch of `on_step`. -/
def positionStep (cfg : TrackerConfig) (env : Surroundings) (dt : ℝ) (s : TrackerState) :
    TrackerState×List (Vec4 ℝ) :=
  let g := autoHeadingUpdate cfg env s.guide
  let err := yawError g env.yawEnu s.motion
  if reached cfg env g err.1 then
    if g.currentWpIdx+1<g.targetWaypoints.length then
      let next := applyCurrentWaypoint cfg env s.speedLimitCbs
        { g with currentWpIdx := g.currentWpIdx+1 }
      let out := onPosStep cfg env next dt err.2
      ({ s with guide := next, motion := out.2 },[out.1])
    else
      ({ s with
          guide := { g with posCmdFinished := true, currentMode := .none }
          motion := err.2.zeroed env },[.zero])
  else
    let out := onPosStep cfg env g dt err.2
    ({ s with guide := g, motion := out.2 },[out.1])

/-- The velocity branch of `on_step`. -/
def velocityStep (cfg : TrackerConfig) (env : Surroundings) (dt : ℝ) (s : TrackerState) :
    TrackerState×List (Vec4 ℝ) :=
  if cfg.commandTimeoutSec<env.now-s.guide.lastCommandTime then
    ({ s with
        guide := { s.guide with currentMode := .none }
        motion := s.motion.zeroed env },[.zero])
  else
    let raw := computeVelControl cfg s.guide env.pose (bodyTargetVel env s.guide) s.motion
    let out := applyKinematicConstraints cfg s.guide raw.1 env.yawEnu dt raw.2
    ({ s with motion := out.2 },[out.1])

/-- Consumption of the pending command at the start of a step. The PID memories
are reset when position control begins; only a position command moves its path out
of the slot. -/
def consumePending (cfg : TrackerConfig) (env : Surroundings) (s : TrackerState) : TrackerState :=
  if s.pendingCmd.mode=.none then s else
    { s with
      guide := applyPendingCommand cfg env s.speedLimitCbs s.pendingCmd s.guide
      motion := if s.pendingCmd.mode=.position ∧ s.guide.currentMode≠.position
        then s.motion.resetAllPids else s.motion
      pendingCmd := { s.pendingCmd with
        mode := .none
        waypoints := if s.pendingCmd.mode=.position then [] else s.pendingCmd.waypoints } }

/-- The part of `on_step` after the command slot has been read. -/
def controlStep (cfg : TrackerConfig) (env : Surroundings) (dt : ℝ) (s : TrackerState) :
    TrackerState×List (Vec4 ℝ) :=
  match s.guide.currentMode with
  | .none => (s,[])
  | .position => positionStep cfg env dt s
  | .velocity => velocityStep cfg env dt s

/-- `on_step`. -/
def onStep (cfg : TrackerConfig) (env : Surroundings) (dt : ℝ) (s : TrackerState) :
    TrackerState×List (Vec4 ℝ) :=
  if dt<1e-6 then (s,[]) else controlStep cfg env dt (consumePending cfg env s)

/-- `on_start`. -/
def onStart (env : Surroundings) (s : TrackerState) : TrackerState :=
  { s with motion := { s.motion with
      lastCmdVel := .zero, lastCmdAcc := .zero, lastYaw := env.yawEnu }.resetAllPids }

/-- `on_stop`: the zero command and its bookkeeping. -/
def onStop (env : Surroundings) (s : TrackerState) : TrackerState×List (Vec4 ℝ) :=
  ({ s with motion := s.motion.zeroed env },[.zero])

/-- `send_pos_cmd`: an empty path is ignored. -/
def sendPosCmd (path : List TrackerWaypoint) (s : TrackerState) : TrackerState :=
  match path with
  | [] => s
  | wp::rest => { s with pendingCmd := { s.pendingCmd with
      mode := .position, waypoints := wp::rest } }

/-- `send_vel_cmd`. -/
def sendVelCmd (vel : Vec3 ℝ) (yaw yawRate : Option ℝ) (frame : CmdFrame) (s : TrackerState) :
    TrackerState :=
  { s with pendingCmd := { s.pendingCmd with
      mode := .velocity, frame := frame, vec3Cmd := vel, yaw := yaw, yawRate := yawRate } }

/-- `send_zero_vel_cmd`. -/
def sendZeroVelCmd (s : TrackerState) : TrackerState := sendVelCmd .zero .none .none .enu s

/-- `add_speed_limit_cb`: register, then re-apply the current waypoint. -/
def addSpeedLimitCb (cfg : TrackerConfig) (env : Surroundings) (name : String)
    (s : TrackerState) : TrackerState :=
  let cbs := s.speedLimitCbs++[⟨s.cbSeq,name⟩]
  { s with
    cbSeq := s.cbSeq+1
    speedLimitCbs := cbs
    guide := applyCurrentWaypoint cfg env cbs s.guide }

/-- `remove_speed_limit_cb`: a known handle is erased and the current waypoint
re-applied; an unknown one changes nothing. -/
def removeSpeedLimitCb (cfg : TrackerConfig) (env : Surroundings) (id : ℕ) (s : TrackerState) :
    TrackerState :=
  if s.speedLimitCbs.any (fun c => c.id==id) then
    let cbs := s.speedLimitCbs.eraseP (fun c => c.id==id)
    { s with
      speedLimitCbs := cbs
      guide := applyCurrentWaypoint cfg env cbs s.guide }
  else s

/-- A constructed tracker; its command time is not initialised by the source. -/
def fresh (lastCommandTime : ℝ) : TrackerState :=
  { guide := { lastCommandTime := lastCommandTime } }

end

end Dankong.Tracker

import Dankong.StateUtils

/-!
# Guidance state of the threaded tracker

The fields of `ThreadedTracker` fall into what the vehicle is asked to do and
what the control loop remembers about its motion. This module holds the first
part: commands, the waypoint being tracked, the limits in force, and how a
waypoint or a pending command becomes the guidance in progress.
-/

namespace Dankong.Tracker

open StateUtils

/-- Coordinate frame of a command. -/
inductive CmdFrame
  /-- Body frame: forward, left, up. -/
  | body
  /-- Global frame: east, north, up. -/
  | enu
  deriving DecidableEq

/-- What the control loop is doing. -/
inductive CtrlMode
  /-- Nothing is commanded. -/
  | none
  /-- A path of waypoints is tracked. -/
  | position
  /-- A velocity is held. -/
  | velocity
  deriving DecidableEq

/-- `TrackerConfig`: the parameters the tracker reads, with their defaults. -/
structure TrackerConfig where
  /-- Whether the vehicle can move sideways. -/
  isOmnidirectional : Bool := true
  /-- Horizontal, vertical and yaw proportional gains. -/
  kpXy : ℝ := 1.5
  kpZ : ℝ := 1
  kpYaw : ℝ := 2.0
  /-- Integral gains. -/
  kiXy : ℝ := 0.01
  kiZ : ℝ := 0.01
  kiYaw : ℝ := 0.01
  /-- Derivative gains. -/
  kdXy : ℝ := 0.1
  kdZ : ℝ := 0.1
  kdYaw : ℝ := 0.1
  /-- Bounds of the three kinds of integral. -/
  maxIXy : ℝ := 1
  maxIZ : ℝ := 1
  maxIYaw : ℝ := 1
  /-- Age at which a velocity command lapses. -/
  commandTimeoutSec : ℝ := 0.5
  /-- Arrival tolerances. -/
  posToleranceM : ℝ := 0.05
  yawToleranceRad : ℝ := 0.05
  /-- Distance beyond which automatic heading follows the target. -/
  autoHeadingEnableDistM : ℝ := 1
  /-- Velocity caps. -/
  maxVelXy : ℝ := 3.0
  maxVelZ : ℝ := 1
  maxVelYaw : ℝ := 1.5
  /-- Acceleration caps. -/
  maxAccXy : ℝ := 2.0
  maxAccZ : ℝ := 0.8
  maxAccYaw : ℝ := 2.0
  /-- Deceleration caps. -/
  maxDecelXy : ℝ := 1
  maxDecelZ : ℝ := 0.8
  /-- Heading errors between which an omnidirectional vehicle slows down. -/
  yawFullSpeedTol : ℝ := 0.17
  yawZeroSpeedTol : ℝ := 0.78
  /-- Lookahead range of the pure-pursuit branch. -/
  minLookahead : ℝ := 0.5
  maxLookahead : ℝ := 2.5

/-- `TrackerWaypoint`. -/
structure TrackerWaypoint where
  /-- Target position, or offset in the body frame. -/
  pos : Vec3 ℝ
  /-- Target yaw, when one is asked for. -/
  yaw : Option ℝ := .none
  /-- Explicit feed-forward yaw rate. -/
  ffYawRate : Option ℝ := .none
  /-- Explicit feed-forward velocity. -/
  ffVel : Option (Vec3 ℝ) := .none
  /-- Feedback limits of this waypoint. -/
  fbSpeedLimitXy : Option ℝ := .none
  fbSpeedLimitZ : Option ℝ := .none
  fbSpeedLimitYaw : Option ℝ := .none
  /-- Frame of the position and of the feed-forward velocity. -/
  frame : CmdFrame := .enu
  /-- Scale of the horizontal, vertical and yaw gains. -/
  gamma : Vec3 ℝ := ⟨1,1,1⟩
  /-- Acceleration, deceleration and jerk limits of this waypoint. -/
  maxAccXy : Option ℝ := .none
  maxDecelXy : Option ℝ := .none
  maxJerkXy : Option ℝ := .none
  maxJerkZ : Option ℝ := .none

/-- `PendingCmd`: the single slot in which commands wait for the next step. -/
structure PendingCmd where
  /-- Kind of the waiting command. -/
  mode : CtrlMode := .none
  /-- Frame of a velocity command. -/
  frame : CmdFrame := .enu
  /-- Path of a position command. -/
  waypoints : List TrackerWaypoint := []
  /-- Velocity of a velocity command. -/
  vec3Cmd : Vec3 ℝ := .zero
  /-- Yaw target of a velocity command. -/
  yaw : Option ℝ := .none
  /-- Yaw rate of a velocity command. -/
  yawRate : Option ℝ := .none

/-- `LimitCb`: a registered cruise-limit callback. What it would return at a
given moment is read from the surroundings under its id. -/
structure LimitCb where
  /-- Handle returned at registration. -/
  id : ℕ
  /-- Name used in the log. -/
  name : String

/-- What the tracker reads from its surroundings during one call. -/
structure Surroundings where
  /-- `pos_enu_`. -/
  posEnu : Vec3 ℝ
  /-- `yaw_enu_`. -/
  yawEnu : ℝ
  /-- `time_provider_->now()`. -/
  now : ℝ
  /-- Present result of every registered callback, by id. -/
  cbValue : ℕ → Option ℝ

/-- `current_pose`: position and yaw as one quadruple. -/
def Surroundings.pose (env : Surroundings) : Vec4 ℝ :=
  ⟨env.posEnu.x,env.posEnu.y,env.posEnu.z,env.yawEnu⟩

/-- The command side of the tracker state, under the names of the source. -/
structure Guidance where
  /-- `current_mode_`. -/
  currentMode : CtrlMode := .none
  /-- `ctrl_yaw_`: whether a yaw target is pursued. -/
  ctrlYaw : Bool := false
  /-- `target_frame_`: frame of `targetVel`. -/
  targetFrame : CmdFrame := .enu
  /-- `gamma_`. -/
  gamma : Vec3 ℝ := ⟨1,1,1⟩
  /-- `target_pose_enu_`: the tracked position and yaw. -/
  targetPoseEnu : Vec4 ℝ := .zero
  /-- `target_vel_`: feed-forward or commanded velocity and yaw rate. -/
  targetVel : Vec4 ℝ := .zero
  /-- Limits taken over from the waypoint. -/
  maxAccXy : Option ℝ := .none
  maxDecelXy : Option ℝ := .none
  maxJerkXy : Option ℝ := .none
  maxJerkZ : Option ℝ := .none
  /-- Effective feedback limits. -/
  fbVelLimitXy : ℝ := 0
  fbVelLimitYaw : ℝ := 0
  fbVelLimitZ : ℝ := 0
  /-- `auto_heading_`. -/
  autoHeading : Bool := false
  /-- `pos_cmd_finished_`. -/
  posCmdFinished : Bool := true
  /-- `target_waypoints_`: the path being executed, or left behind. -/
  targetWaypoints : List TrackerWaypoint := []
  /-- `current_wp_idx_`. -/
  currentWpIdx : ℕ := 0
  /-- `last_command_time_`. -/
  lastCommandTime : ℝ

noncomputable section

/-- The waypoint the index points at, when the index is in range. -/
def Guidance.currentWp? (g : Guidance) : Option TrackerWaypoint :=
  g.targetWaypoints[g.currentWpIdx]?

/-- Effective cruise limit: the least of the waypoint's own limit, the
configured cap and every present callback value. -/
def effectiveLimit (cfg : TrackerConfig) (env : Surroundings) (cbs : List LimitCb)
    (own : Option ℝ) : ℝ :=
  cbs.foldl (fun eff c => match env.cbValue c.id with
    | some lim => if lim<eff then lim else eff
    | .none => eff) (min (own.getD cfg.maxVelXy) cfg.maxVelXy)

/-- Target pose of a waypoint. A body-frame waypoint is placed relative to the
present pose; a global one keeps the old yaw when it asks for none. -/
def waypointPose (env : Surroundings) (wp : TrackerWaypoint) (old : Vec4 ℝ) : Vec4 ℝ :=
  match wp.frame with
  | .body => bodyToEnu ⟨wp.pos.x,wp.pos.y,wp.pos.z,wp.yaw.getD 0⟩ env.pose
  | .enu => ⟨wp.pos.x,wp.pos.y,wp.pos.z,wp.yaw.getD old.w⟩

/-- Automatic cruise feed-forward towards a waypoint that is not the last:
along the leg, or towards the next point when the leg has no length. -/
def cruiseVel (env : Surroundings) (path : List TrackerWaypoint) (idx : ℕ)
    (wp : TrackerWaypoint) (limit : ℝ) : Vec3 ℝ :=
  match path[idx+1]? with
  | .none => .zero
  | some next =>
    let fromPos := if idx=0 then
        (match wp.frame with | .body => Vec3.zero | .enu => env.posEnu)
      else match path[idx-1]? with | some prev => prev.pos | .none => env.posEnu
    let leg := wp.pos.sub fromPos
    let dir := if hypot leg.x leg.y<1e-3 then next.pos.sub wp.pos else leg
    let len := hypot dir.x dir.y
    if 1e-3<len then ⟨dir.x/len*limit,dir.y/len*limit,0⟩ else .zero

/-- `apply_current_waypoint`: nothing happens when the index is past the path. -/
def applyCurrentWaypoint (cfg : TrackerConfig) (env : Surroundings) (cbs : List LimitCb)
    (g : Guidance) : Guidance :=
  match g.currentWp? with
  | .none => g
  | some wp =>
    let effLimit := effectiveLimit cfg env cbs wp.fbSpeedLimitXy
    let vel := match wp.ffVel with
      | some v => v
      | .none => cruiseVel env g.targetWaypoints g.currentWpIdx wp effLimit
    { g with
      ctrlYaw := wp.yaw.isSome
      targetFrame := wp.frame
      gamma := wp.gamma
      maxAccXy := wp.maxAccXy
      maxDecelXy := wp.maxDecelXy
      maxJerkXy := wp.maxJerkXy
      maxJerkZ := wp.maxJerkZ
      autoHeading := (wp.yaw.isNone && wp.ffYawRate.isNone) || !cfg.isOmnidirectional
      fbVelLimitXy := effLimit
      fbVelLimitZ := min (wp.fbSpeedLimitZ.getD cfg.maxVelZ) cfg.maxVelZ
      fbVelLimitYaw := min (wp.fbSpeedLimitYaw.getD cfg.maxVelYaw) cfg.maxVelYaw
      targetPoseEnu := waypointPose env wp g.targetPoseEnu
      targetVel := ⟨vel.x,vel.y,vel.z,wp.ffYawRate.getD 0⟩ }

/-- The velocity branch of `apply_pending_command`. -/
def applyVelocity (env : Surroundings) (cmd : PendingCmd) (g : Guidance) : Guidance :=
  let yaw := match cmd.yaw with
    | .none => g.targetPoseEnu.w
    | some y => match cmd.frame with
      | .body => normYaw (env.yawEnu+y)
      | .enu => y
  { g with
    currentMode := .velocity
    lastCommandTime := env.now
    posCmdFinished := true
    autoHeading := false
    ctrlYaw := cmd.yaw.isSome
    targetFrame := cmd.frame
    targetVel := ⟨cmd.vec3Cmd.x,cmd.vec3Cmd.y,cmd.vec3Cmd.z,cmd.yawRate.getD 0⟩
    targetPoseEnu := { g.targetPoseEnu with w := yaw } }

/-- The position branch of `apply_pending_command`. -/
def applyPath (cfg : TrackerConfig) (env : Surroundings) (cbs : List LimitCb)
    (path : List TrackerWaypoint) (g : Guidance) : Guidance :=
  applyCurrentWaypoint cfg env cbs
    { g with
      currentMode := .position
      lastCommandTime := env.now
      posCmdFinished := false
      targetWaypoints := path
      currentWpIdx := 0 }

/-- `apply_pending_command` on the guidance; the loop's memory of motion is
reset by the caller. -/
def applyPendingCommand (cfg : TrackerConfig) (env : Surroundings) (cbs : List LimitCb)
    (cmd : PendingCmd) (g : Guidance) : Guidance :=
  match cmd.mode with
  | .position => applyPath cfg env cbs cmd.waypoints g
  | .velocity => applyVelocity env cmd g
  | .none => { g with currentMode := .none, lastCommandTime := env.now }

/-- The automatic-heading update at the start of a position step. -/
def autoHeadingUpdate (cfg : TrackerConfig) (env : Surroundings) (g : Guidance) : Guidance :=
  if g.autoHeading=true then
    let dx := g.targetPoseEnu.x-env.posEnu.x
    let dy := g.targetPoseEnu.y-env.posEnu.y
    { g with
      ctrlYaw := true
      targetPoseEnu := { g.targetPoseEnu with
        w := if cfg.autoHeadingEnableDistM<hypot dx dy then atan2 dy dx else g.targetPoseEnu.w } }
  else g

end

section

variable (cfg : TrackerConfig) (env : Surroundings) (cbs : List LimitCb) (g : Guidance)

/-- Re-applying the current waypoint leaves mode, path, index, arrival flag and
command time alone. -/
theorem applyCurrentWaypoint_progress :
    (applyCurrentWaypoint cfg env cbs g).currentMode=g.currentMode ∧
    (applyCurrentWaypoint cfg env cbs g).targetWaypoints=g.targetWaypoints ∧
    (applyCurrentWaypoint cfg env cbs g).currentWpIdx=g.currentWpIdx ∧
    (applyCurrentWaypoint cfg env cbs g).posCmdFinished=g.posCmdFinished ∧
    (applyCurrentWaypoint cfg env cbs g).lastCommandTime=g.lastCommandTime := by
  dsimp only [applyCurrentWaypoint]
  split <;> exact ⟨rfl,rfl,rfl,rfl,rfl⟩

/-- A new path starts unfinished, at its first point. -/
theorem applyPath_progress (path : List TrackerWaypoint) :
    (applyPath cfg env cbs path g).currentMode=.position ∧
    (applyPath cfg env cbs path g).targetWaypoints=path ∧
    (applyPath cfg env cbs path g).currentWpIdx=0 ∧
    (applyPath cfg env cbs path g).posCmdFinished=false := by
  obtain ⟨hm,hp,hi,hf,_⟩ := applyCurrentWaypoint_progress cfg env cbs
    { g with
      currentMode := .position
      lastCommandTime := env.now
      posCmdFinished := false
      targetWaypoints := path
      currentWpIdx := 0 }
  exact ⟨hm,hp,hi,hf⟩

/-- Without a current waypoint there is nothing to re-apply. -/
theorem applyCurrentWaypoint_of_none (h : g.currentWp?=.none) :
    applyCurrentWaypoint cfg env cbs g=g := by
  dsimp only [applyCurrentWaypoint]
  rw [h]

/-- The automatic heading touches the target yaw and the yaw switch only. -/
theorem autoHeadingUpdate_eq :
    autoHeadingUpdate cfg env g=
      { g with
        ctrlYaw := (autoHeadingUpdate cfg env g).ctrlYaw
        targetPoseEnu :=
          { g.targetPoseEnu with w := (autoHeadingUpdate cfg env g).targetPoseEnu.w } } := by
  dsimp only [autoHeadingUpdate]
  split <;> rfl

end

end Dankong.Tracker

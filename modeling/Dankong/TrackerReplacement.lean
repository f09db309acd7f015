import Dankong.TrackerCommands

/-!
# What a command leaves of the one before

A new command overwrites most of the guidance, but not all of it: a velocity command
keeps the acceleration and jerk limits of the last waypoint, and a global waypoint
without a yaw keeps the old target yaw, which the automatic heading reads while the
target is near. Two trackers that agree in their motion and are given the same
command are compared step by step.
-/

namespace Dankong.Tracker

open Runs StateUtils TwoRuns

/-- One control step of the tracker. -/
noncomputable def trackerStep (cfg : TrackerConfig) (s : TrackerState) (i : Surroundings×ℝ) :
    TrackerState :=
  apply cfg s (.step i.1 i.2)

/-- The velocity commands of one control step. -/
noncomputable def stepIssues (cfg : TrackerConfig) (s : TrackerState) (i : Surroundings×ℝ) :
    List (Vec4 ℝ) :=
  issuedBy cfg s (.step i.1 i.2)

/-- Two trackers agree in mode, motion and callbacks. -/
structure Agree (s t : TrackerState) : Prop where
  /-- The same mode. -/
  mode : t.guide.currentMode=s.guide.currentMode
  /-- The same last command, acceleration, yaw, controller memories and pivot flag. -/
  motion : t.motion=s.motion
  /-- The same callbacks. -/
  cbs : t.speedLimitCbs=s.speedLimitCbs

/-- Two guidances with the same limits in force. -/
structure SameLimits (cfg : TrackerConfig) (g g' : Guidance) : Prop where
  /-- Horizontal acceleration. -/
  acc : g'.maxAccXy.getD cfg.maxAccXy=g.maxAccXy.getD cfg.maxAccXy
  /-- Horizontal deceleration. -/
  decel : g'.maxDecelXy.getD cfg.maxDecelXy=g.maxDecelXy.getD cfg.maxDecelXy
  /-- Horizontal jerk. -/
  jerk : g'.maxJerkXy.getD 1000.0=g.maxJerkXy.getD 1000.0
  /-- Vertical jerk. -/
  jerkZ : g'.maxJerkZ.getD 1000.0=g.maxJerkZ.getD 1000.0

/-- The automatic heading does not read a left-over target yaw: the yaws agree, the
heading is not automatic, or the target is far enough to head for it. -/
def HeadingFresh (cfg : TrackerConfig) (env : Surroundings) (g g' : Guidance) : Prop :=
  g'.targetPoseEnu.w=g.targetPoseEnu.w ∨ g.autoHeading=false ∨
    cfg.autoHeadingEnableDistM <
      hypot (g.targetPoseEnu.x-env.posEnu.x) (g.targetPoseEnu.y-env.posEnu.y)

/-- Nothing that an older command left behind is read in a control step. -/
def NothingLeft (cfg : TrackerConfig) (p : TrackerState×TrackerState) (i : Surroundings×ℝ) :
    Prop :=
  ¬i.2<1e-6 →
    let g := (consumePending cfg i.1 p.1).guide
    let g' := (consumePending cfg i.1 p.2).guide
    match g.currentMode with
    | .none => True
    | .position => HeadingFresh cfg i.1 g g'
    | .velocity => SameLimits cfg g g'

/-- The same guidance with another target yaw. -/
def Guidance.withYaw (g : Guidance) (w : ℝ) : Guidance :=
  { g with targetPoseEnu := { g.targetPoseEnu with w := w } }

/-- Two guidances that differ at most in the target yaw. -/
def SameButYaw (g g' : Guidance) : Prop := g'=g.withYaw g'.targetPoseEnu.w

/-- A position job in which a difference of the target yaw can only be read by the
automatic heading. -/
structure SamePath (g g' : Guidance) : Prop where
  /-- Only the target yaw differs. -/
  rest : SameButYaw g g'
  /-- A yaw that is pursued without automatic heading agrees. -/
  yaw : g.autoHeading=false → g.ctrlYaw=true → g'.targetPoseEnu.w=g.targetPoseEnu.w

/-- A position job in which the target yaw agrees if it is pursued. -/
structure SameAim (g g' : Guidance) : Prop where
  /-- Only the target yaw differs. -/
  rest : SameButYaw g g'
  /-- A yaw that is pursued agrees. -/
  yaw : g.ctrlYaw=true → g'.targetPoseEnu.w=g.targetPoseEnu.w

/-- Two velocity jobs with the same command. -/
structure SameVelocity (g g' : Guidance) : Prop where
  /-- The velocity and yaw rate. -/
  vel : g'.targetVel=g.targetVel
  /-- Their frame. -/
  frame : g'.targetFrame=g.targetFrame
  /-- Whether a yaw is pursued. -/
  ctrlYaw : g'.ctrlYaw=g.ctrlYaw
  /-- The yaw, if it is. -/
  yaw : g.ctrlYaw=true → g'.targetPoseEnu.w=g.targetPoseEnu.w
  /-- The time of the command. -/
  time : g'.lastCommandTime=g.lastCommandTime

section

variable {cfg : TrackerConfig} {env : Surroundings} {g g' : Guidance}

/-- An aim is equal, or differs in a yaw that is not pursued. -/
theorem SameAim.cases (h : SameAim g g') :
    g'=g ∨ g.ctrlYaw=false ∧ g'=g.withYaw g'.targetPoseEnu.w := by
  by_cases hctrl : g.ctrlYaw=true
  · refine Or.inl (h.rest.trans ?_)
    rw [h.yaw hctrl]
    rfl
  · exact Or.inr ⟨Bool.eq_false_iff.mpr hctrl,h.rest⟩

@[simp] theorem withYaw_x (w : ℝ) : (g.withYaw w).targetPoseEnu.x=g.targetPoseEnu.x := rfl

@[simp] theorem withYaw_y (w : ℝ) : (g.withYaw w).targetPoseEnu.y=g.targetPoseEnu.y := rfl

@[simp] theorem withYaw_z (w : ℝ) : (g.withYaw w).targetPoseEnu.z=g.targetPoseEnu.z := rfl

@[simp] theorem withYaw_ctrlYaw (w : ℝ) : (g.withYaw w).ctrlYaw=g.ctrlYaw := rfl

@[simp] theorem withYaw_gamma (w : ℝ) : (g.withYaw w).gamma=g.gamma := rfl

@[simp] theorem withYaw_fbVelLimitXy (w : ℝ) : (g.withYaw w).fbVelLimitXy=g.fbVelLimitXy := rfl

@[simp] theorem withYaw_fbVelLimitYaw (w : ℝ) :
    (g.withYaw w).fbVelLimitYaw=g.fbVelLimitYaw := rfl

@[simp] theorem withYaw_maxDecelXy (w : ℝ) : (g.withYaw w).maxDecelXy=g.maxDecelXy := rfl

@[simp] theorem withYaw_speedScale (w dist dyaw : ℝ) :
    speedScale cfg (g.withYaw w) dist dyaw=speedScale cfg g dist dyaw := rfl

@[simp] theorem withYaw_yawFeedback (w dyaw dt : ℝ) (m : Motion) :
    yawFeedback cfg (g.withYaw w) dyaw dt m=yawFeedback cfg g dyaw dt m := rfl

@[simp] theorem withYaw_verticalControl (w ffZ dz dt : ℝ) (m : Motion) :
    verticalControl cfg (g.withYaw w) ffZ dz dt m=verticalControl cfg g ffZ dz dt m := rfl

@[simp] theorem withYaw_bodyTargetVel (w : ℝ) :
    bodyTargetVel env (g.withYaw w)=bodyTargetVel env g := rfl

@[simp] theorem withYaw_applyKinematicConstraints (w yaw dt : ℝ) (raw : Vec4 ℝ) (m : Motion) :
    applyKinematicConstraints cfg (g.withYaw w) raw yaw dt m=
      applyKinematicConstraints cfg g raw yaw dt m := rfl

/-- A yaw that is not pursued is not read by the angle controller. -/
theorem yawError_withYaw (h : g.ctrlYaw=false) (w yaw : ℝ) (m : Motion) :
    yawError (g.withYaw w) yaw m=yawError g yaw m := by
  have hoff : ¬g.ctrlYaw=true := by
    rw [h]
    exact Bool.false_ne_true
  dsimp only [yawError,Guidance.withYaw]
  rw [if_neg hoff,if_neg hoff]

/-- Nor by the control of an omnidirectional vehicle. -/
theorem omniControl_withYaw (h : g.ctrlYaw=false) (w : ℝ) (pose ff : Vec4 ℝ) (dt : ℝ)
    (m : Motion) : omniControl cfg (g.withYaw w) pose ff dt m=omniControl cfg g pose ff dt m := by
  have herr := yawError_withYaw h w pose.w m
  simp -zeta only [omniControl,herr,withYaw_x,withYaw_y,withYaw_ctrlYaw,withYaw_gamma,
    withYaw_fbVelLimitXy,withYaw_maxDecelXy,withYaw_speedScale,withYaw_yawFeedback]
  rfl

/-- Nor by the control of an Ackermann vehicle. -/
theorem ackermannControl_withYaw (h : g.ctrlYaw=false) (w : ℝ) (pose ff : Vec4 ℝ) (dt : ℝ)
    (m : Motion) :
    ackermannControl cfg (g.withYaw w) pose ff dt m=ackermannControl cfg g pose ff dt m := by
  have herr : ∀ m,yawError (g.withYaw w) pose.w m=yawError g pose.w m :=
    fun m => yawError_withYaw h w pose.w m
  simp -zeta only [ackermannControl,herr,withYaw_x,withYaw_y,withYaw_ctrlYaw,
    withYaw_fbVelLimitXy,withYaw_fbVelLimitYaw,withYaw_yawFeedback]

/-- The same aim gives the same yaw error. -/
theorem yawError_congr (h : SameAim g g') (yaw : ℝ) (m : Motion) :
    yawError g' yaw m=yawError g yaw m := by
  rcases h.cases with rfl|⟨hctrl,heq⟩
  · rfl
  · rw [heq,yawError_withYaw hctrl]

/-- The same aim is reached at the same time. -/
theorem reached_congr (h : SameAim g g') (dyaw : ℝ) :
    reached cfg env g' dyaw ↔ reached cfg env g dyaw := by
  rw [h.rest]
  exact Iff.rfl

/-- The same aim gives the same position control. -/
theorem onPosStep_congr (h : SameAim g g') (dt : ℝ) (m : Motion) :
    onPosStep cfg env g' dt m=onPosStep cfg env g dt m := by
  rcases h.cases with rfl|⟨hctrl,heq⟩
  · rfl
  · rw [heq]
    simp -zeta only [onPosStep,computePosControl,withYaw_bodyTargetVel,withYaw_z,
      withYaw_verticalControl,omniControl_withYaw hctrl,ackermannControl_withYaw hctrl,
      withYaw_fbVelLimitXy,withYaw_applyKinematicConstraints]

/-- What the automatic heading reads besides the yaw agrees. -/
theorem SameButYaw.goal (h : SameButYaw g g') :
    g'.autoHeading=g.autoHeading ∧ g'.targetPoseEnu.x=g.targetPoseEnu.x ∧
      g'.targetPoseEnu.y=g.targetPoseEnu.y := by
  rw [h]
  exact ⟨rfl,rfl,rfl⟩

/-- The progress along the path agrees. -/
theorem SameButYaw.progress (h : SameButYaw g g') :
    g'.currentMode=g.currentMode ∧ g'.targetWaypoints=g.targetWaypoints ∧
      g'.currentWpIdx=g.currentWpIdx ∧ g'.posCmdFinished=g.posCmdFinished ∧
      g'.lastCommandTime=g.lastCommandTime := by
  rw [h]
  exact ⟨rfl,rfl,rfl,rfl,rfl⟩

/-- The automatic heading makes the aim agree unless it reads what is left over. -/
theorem autoHeadingUpdate_sameAim (h : SamePath g g') (hfresh : HeadingFresh cfg env g g') :
    SameAim (autoHeadingUpdate cfg env g) (autoHeadingUpdate cfg env g') := by
  have hrest : SameButYaw g g' := h.rest
  obtain ⟨hauto,hx,hy⟩ := hrest.goal
  dsimp only [autoHeadingUpdate]
  rw [hauto,hx,hy]
  by_cases hon : g.autoHeading=true
  · rw [if_pos hon,if_pos hon]
    have hyaw : (if cfg.autoHeadingEnableDistM <
          hypot (g.targetPoseEnu.x-env.posEnu.x) (g.targetPoseEnu.y-env.posEnu.y) then
          atan2 (g.targetPoseEnu.y-env.posEnu.y) (g.targetPoseEnu.x-env.posEnu.x)
        else g'.targetPoseEnu.w)=
        if cfg.autoHeadingEnableDistM <
          hypot (g.targetPoseEnu.x-env.posEnu.x) (g.targetPoseEnu.y-env.posEnu.y) then
          atan2 (g.targetPoseEnu.y-env.posEnu.y) (g.targetPoseEnu.x-env.posEnu.x)
        else g.targetPoseEnu.w := by
      rcases hfresh with hsame|hoff|hfar
      · rw [hsame]
      · rw [hon] at hoff
        cases hoff
      · rw [if_pos hfar,if_pos hfar]
    refine ⟨?_,fun _ => hyaw⟩
    rw [SameButYaw,hrest]
    rfl
  · rw [if_neg hon,if_neg hon]
    exact ⟨h.rest,h.yaw (Bool.eq_false_iff.mpr hon)⟩

/-- Activating the same waypoint leaves the same aim, whatever went before. -/
theorem applyCurrentWaypoint_sameAim {cbs : List LimitCb} (wp : TrackerWaypoint)
    (hmode : g'.currentMode=g.currentMode) (hpath : g'.targetWaypoints=g.targetWaypoints)
    (hidx : g'.currentWpIdx=g.currentWpIdx) (hfinished : g'.posCmdFinished=g.posCmdFinished)
    (htime : g'.lastCommandTime=g.lastCommandTime) (hwp : g.currentWp?=some wp) :
    SameAim (applyCurrentWaypoint cfg env cbs g) (applyCurrentWaypoint cfg env cbs g') := by
  have hwp' : g'.currentWp?=some wp := by
    rw [Guidance.currentWp?,hpath,hidx]
    exact hwp
  dsimp only [applyCurrentWaypoint]
  rw [hwp,hwp']
  dsimp only
  rw [hmode,hpath,hidx,hfinished,htime]
  refine ⟨?_,fun hyaw => ?_⟩
  · dsimp only [SameButYaw,Guidance.withYaw,waypointPose]
    cases wp.frame <;> rfl
  · obtain ⟨y,hy⟩ := Option.isSome_iff_exists.mp hyaw
    dsimp only [waypointPose]
    cases wp.frame with
    | body => rfl
    | enu => rw [hy]; rfl

/-- A velocity command leaves the same velocity job, whatever went before. -/
theorem applyVelocity_sameVelocity (cmd : PendingCmd) :
    SameVelocity (applyVelocity env cmd g) (applyVelocity env cmd g') := by
  refine ⟨rfl,rfl,rfl,fun hyaw => ?_,rfl⟩
  obtain ⟨y,hy⟩ := Option.isSome_iff_exists.mp hyaw
  dsimp only [applyVelocity]
  rw [hy]

/-- The constraints read the guidance only for its limits. -/
theorem applyKinematicConstraints_congr (h : SameLimits cfg g g') (raw : Vec4 ℝ) (yaw dt : ℝ)
    (m : Motion) :
    applyKinematicConstraints cfg g' raw yaw dt m=applyKinematicConstraints cfg g raw yaw dt m := by
  dsimp only [applyKinematicConstraints,limitAccel,limitJerk]
  rw [h.acc,h.decel,h.jerk,h.jerkZ]

variable (cfg env) in
/-- The same velocity job gives the same velocity control. -/
theorem computeVelControl_congr (h : SameVelocity g g') (m : Motion) :
    computeVelControl cfg g' env.pose (bodyTargetVel env g') m=
      computeVelControl cfg g env.pose (bodyTargetVel env g) m := by
  have hvel : bodyTargetVel env g'=bodyTargetVel env g := by
    dsimp only [bodyTargetVel]
    rw [h.vel,h.frame]
  have herr : yawError g' env.pose.w m=yawError g env.pose.w m := by
    dsimp only [yawError]
    rw [h.ctrlYaw]
    by_cases hctrl : g.ctrlYaw=true
    · rw [if_pos hctrl,if_pos hctrl,h.yaw hctrl]
    · rw [if_neg hctrl,if_neg hctrl]
  dsimp only [computeVelControl]
  rw [hvel,herr,h.ctrlYaw]

end

/-- Two trackers with the same job and nothing waiting. -/
structure Running (s t : TrackerState) : Prop where
  /-- No command is waiting. -/
  slot : s.pendingCmd.mode=.none ∧ t.pendingCmd.mode=.none
  /-- The mode and the motion agree, and so do the callbacks. -/
  agree : Agree s t
  /-- In position mode only a left-over yaw may differ. -/
  path : s.guide.currentMode=.position → SamePath s.guide t.guide
  /-- In velocity mode the command agrees. -/
  velocity : s.guide.currentMode=.velocity → SameVelocity s.guide t.guide

/-- Two trackers that agree in their motion and have the same command waiting. -/
structure Given (s t : TrackerState) : Prop where
  /-- Mode, motion and callbacks agree. -/
  agree : Agree s t
  /-- The same command is waiting. -/
  slot : waiting t.pendingCmd=waiting s.pendingCmd
  /-- There is one. -/
  some : s.pendingCmd.mode≠.none
  /-- A path is not empty. -/
  path : s.pendingCmd.mode=.position → s.pendingCmd.waypoints≠[]

section

variable {cfg : TrackerConfig} {env : Surroundings} {s t : TrackerState} {dt : ℝ}

/-- The same aim is the same path. -/
theorem SameAim.path {g g' : Guidance} (h : SameAim g g') : SamePath g g' :=
  ⟨h.rest,fun _ hctrl => h.yaw hctrl⟩

/-- Reading the same command leaves the same job. -/
theorem consumePending_running (h : Given s t) :
    Running (consumePending cfg env s) (consumePending cfg env t) := by
  obtain ⟨hmode,happly⟩ := applyPendingCommand_congr cfg env
    s.speedLimitCbs t.guide h.slot h.some
  have hsome : ¬t.pendingCmd.mode=.none := by
    rw [hmode]
    exact h.some
  have hcbs : applyPendingCommand cfg env t.speedLimitCbs t.pendingCmd t.guide=
      applyPendingCommand cfg env s.speedLimitCbs s.pendingCmd t.guide := by
    rw [h.agree.cbs]
    exact happly
  dsimp only [consumePending]
  rw [if_neg h.some,if_neg hsome,hcbs,hmode,h.agree.mode,h.agree.motion]
  cases hm : s.pendingCmd.mode with
  | none => exact absurd hm h.some
  | position =>
    obtain ⟨wp,rest,hpath⟩ := List.exists_cons_of_ne_nil (h.path hm)
    have haim : SameAim (applyPendingCommand cfg env s.speedLimitCbs s.pendingCmd s.guide)
        (applyPendingCommand cfg env s.speedLimitCbs s.pendingCmd t.guide) := by
      dsimp only [applyPendingCommand,applyPath]
      rw [hm]
      refine applyCurrentWaypoint_sameAim wp rfl rfl rfl rfl rfl ?_
      dsimp only [Guidance.currentWp?]
      rw [hpath]
      rfl
    obtain ⟨hprogress,_⟩ := haim.rest.progress
    refine ⟨⟨rfl,rfl⟩,⟨hprogress,rfl,h.agree.cbs⟩,fun _ => haim.path,fun hv => ?_⟩
    dsimp only [applyPendingCommand] at hv
    rw [hm] at hv
    dsimp only at hv
    rw [(applyPath_progress _ _ _ _ _).1] at hv
    cases hv
  | velocity =>
    have hjob : SameVelocity (applyPendingCommand cfg env s.speedLimitCbs s.pendingCmd s.guide)
        (applyPendingCommand cfg env s.speedLimitCbs s.pendingCmd t.guide) := by
      dsimp only [applyPendingCommand]
      rw [hm]
      exact applyVelocity_sameVelocity s.pendingCmd
    have hvelocity : ∀ g,(applyPendingCommand cfg env s.speedLimitCbs s.pendingCmd g).currentMode=
        .velocity := by
      intro g
      dsimp only [applyPendingCommand]
      rw [hm]
      rfl
    refine ⟨⟨rfl,rfl⟩,⟨(hvelocity _).trans (hvelocity _).symm,rfl,h.agree.cbs⟩,fun hp => ?_,
      fun _ => hjob⟩
    have hmode' := (hvelocity s.guide).symm.trans hp
    cases hmode'

variable (dt) in
/-- The same path, with nothing left over, takes the same position step. -/
theorem positionStep_running (h : Running s t) (hmode : s.guide.currentMode=.position)
    (hfresh : HeadingFresh cfg env s.guide t.guide) :
    Running (positionStep cfg env dt s).1 (positionStep cfg env dt t).1 ∧
      (positionStep cfg env dt t).2=(positionStep cfg env dt s).2 := by
  have hpath := h.path hmode
  have haim := autoHeadingUpdate_sameAim hpath hfresh
  obtain ⟨_,hwps,hidx,_⟩ := hpath.rest.progress
  obtain ⟨_,hwps₁,_⟩ := autoHeadingUpdate_progress cfg env s.guide
  have herr : yawError (autoHeadingUpdate cfg env t.guide) env.yawEnu t.motion=
      yawError (autoHeadingUpdate cfg env s.guide) env.yawEnu s.motion := by
    rw [h.agree.motion]
    exact yawError_congr haim _ _
  have harrived : Arrived cfg env t ↔ Arrived cfg env s := by
    dsimp only [Arrived]
    rw [herr]
    exact reached_congr haim _
  by_cases hat : Arrived cfg env s
  · by_cases hmore : s.guide.currentWpIdx+1<s.guide.targetWaypoints.length
    · have hmore' : t.guide.currentWpIdx+1<t.guide.targetWaypoints.length := by
        rw [hwps,hidx]
        exact hmore
      rw [positionStep_moves hat hmore,positionStep_moves (harrived.mpr hat) hmore']
      dsimp only
      rw [herr,h.agree.cbs,hidx]
      obtain ⟨hm₂,hwps₂,_,hfinished₂,htime₂⟩ := haim.rest.progress
      have hnext : SameAim
          (applyCurrentWaypoint cfg env s.speedLimitCbs
            { autoHeadingUpdate cfg env s.guide with currentWpIdx := s.guide.currentWpIdx+1 })
          (applyCurrentWaypoint cfg env s.speedLimitCbs
            { autoHeadingUpdate cfg env t.guide with currentWpIdx := s.guide.currentWpIdx+1 }) := by
        refine applyCurrentWaypoint_sameAim s.guide.targetWaypoints[s.guide.currentWpIdx+1]
          hm₂ hwps₂ rfl hfinished₂ htime₂ ?_
        dsimp only [Guidance.currentWp?]
        rw [hwps₁]
        exact List.getElem?_eq_getElem hmore
      rw [onPosStep_congr hnext]
      obtain ⟨hmode₂,_⟩ := hnext.rest.progress
      refine ⟨⟨h.slot,⟨hmode₂,rfl,rfl⟩,fun _ => hnext.path,fun hv => ?_⟩,rfl⟩
      dsimp only at hv
      rw [(applyCurrentWaypoint_progress _ _ _ _).1] at hv
      dsimp only at hv
      rw [(autoHeadingUpdate_progress _ _ _).1,hmode] at hv
      cases hv
    · have hlast' : ¬t.guide.currentWpIdx+1<t.guide.targetWaypoints.length := by
        rw [hwps,hidx]
        exact hmore
      rw [positionStep_ends hat hmore,positionStep_ends (harrived.mpr hat) hlast']
      dsimp only
      rw [herr]
      exact ⟨⟨h.slot,⟨rfl,rfl,h.agree.cbs⟩,fun hp => (nomatch hp),fun hv => (nomatch hv)⟩,rfl⟩
  · have hnot : ¬Arrived cfg env t := fun ht => hat (harrived.mp ht)
    rw [positionStep_tracks hat,positionStep_tracks hnot]
    dsimp only
    rw [herr,onPosStep_congr haim]
    obtain ⟨hmode₂,_⟩ := haim.rest.progress
    refine ⟨⟨h.slot,⟨hmode₂,rfl,h.agree.cbs⟩,fun _ => haim.path,fun hv => ?_⟩,rfl⟩
    dsimp only at hv
    rw [(autoHeadingUpdate_progress _ _ _).1,hmode] at hv
    cases hv

variable (dt) in
/-- The same velocity, under the same limits, takes the same velocity step. -/
theorem velocityStep_running (h : Running s t) (hmode : s.guide.currentMode=.velocity)
    (hlimits : SameLimits cfg s.guide t.guide) :
    Running (velocityStep cfg env dt s).1 (velocityStep cfg env dt t).1 ∧
      (velocityStep cfg env dt t).2=(velocityStep cfg env dt s).2 := by
  have hjob := h.velocity hmode
  have hraw := computeVelControl_congr cfg env hjob s.motion
  dsimp only [velocityStep]
  rw [hjob.time,h.agree.motion,hraw]
  by_cases hold : cfg.commandTimeoutSec<env.now-s.guide.lastCommandTime
  · rw [if_pos hold,if_pos hold]
    exact ⟨⟨h.slot,⟨rfl,rfl,h.agree.cbs⟩,fun hp => (nomatch hp),fun hv => (nomatch hv)⟩,rfl⟩
  · rw [if_neg hold,if_neg hold,applyKinematicConstraints_congr hlimits]
    refine ⟨⟨h.slot,⟨h.agree.mode,rfl,h.agree.cbs⟩,fun hp => ?_,fun _ => hjob⟩,rfl⟩
    dsimp only at hp
    rw [hmode] at hp
    cases hp

/-- Reading an empty slot does nothing. -/
theorem consumePending_none (h : s.pendingCmd.mode=.none) : consumePending cfg env s=s :=
  if_pos h

/-- A control step that reads nothing left over keeps the two trackers together. -/
theorem trackerStep_related {i : Surroundings×ℝ} (h : Running s t ∨ Given s t)
    (hleft : NothingLeft cfg (s,t) i) :
    (Running (trackerStep cfg s i) (trackerStep cfg t i) ∨
      Given (trackerStep cfg s i) (trackerStep cfg t i)) ∧
      stepIssues cfg s i=stepIssues cfg t i := by
  obtain ⟨env,dt⟩ := i
  dsimp only [trackerStep,stepIssues,apply,issuedBy,onStep]
  by_cases hshort : dt<1e-6
  · rw [if_pos hshort,if_pos hshort]
    exact ⟨h,rfl⟩
  rw [if_neg hshort,if_neg hshort]
  have hread : Running (consumePending cfg env s) (consumePending cfg env t) := by
    rcases h with h|h
    · rw [consumePending_none h.slot.1,consumePending_none h.slot.2]
      exact h
    · exact consumePending_running h
  have hrule := hleft hshort
  dsimp only at hrule
  have hmode' := hread.agree.mode
  cases hmode : (consumePending cfg env s).guide.currentMode with
  | none =>
    rw [hmode] at hmode'
    dsimp only [controlStep]
    rw [hmode,hmode']
    exact ⟨Or.inl hread,rfl⟩
  | position =>
    rw [hmode] at hmode' hrule
    obtain ⟨hstep,hout⟩ := positionStep_running dt hread hmode hrule
    dsimp only [controlStep]
    rw [hmode,hmode']
    exact ⟨Or.inl hstep,hout.symm⟩
  | velocity =>
    rw [hmode] at hmode' hrule
    obtain ⟨hstep,hout⟩ := velocityStep_running dt hread hmode hrule
    dsimp only [controlStep]
    rw [hmode,hmode']
    exact ⟨Or.inl hstep,hout.symm⟩

/-- Trackers that agree are given the same command. -/
theorem given_of_send (h : Agree s t) {c : TrackerOp} (hc : c.command?.isSome=true) :
    Given (apply cfg s c) (apply cfg t c) := by
  cases c with
  | sendPos path =>
    cases path with
    | nil => cases hc
    | cons wp rest =>
      exact ⟨⟨h.mode,h.motion,h.cbs⟩,rfl,fun hm => (nomatch hm),fun _ => List.cons_ne_nil wp rest⟩
  | sendVel vel yaw yawRate frame =>
    exact ⟨⟨h.mode,h.motion,h.cbs⟩,rfl,fun hm => (nomatch hm),fun hm => (nomatch hm)⟩
  | sendZeroVel =>
    exact ⟨⟨h.mode,h.motion,h.cbs⟩,rfl,fun hm => (nomatch hm),fun hm => (nomatch hm)⟩
  | step env dt => cases hc
  | limit env call => cases hc

/-- A new command replaces the old one in every run in which no step reads what an
older command left behind. -/
theorem command_replaces (cfg : TrackerConfig) {s t : TrackerState} (h : Agree s t)
    (c : TrackerOp) (hc : c.command?.isSome=true) (steps : List (Surroundings×ℝ))
    (hg : Guarded (pairStep (trackerStep cfg)) (NothingLeft cfg) (apply cfg s c,apply cfg t c)
      steps) :
    outputs (trackerStep cfg) (stepIssues cfg) (apply cfg s c) steps=
      outputs (trackerStep cfg) (stepIssues cfg) (apply cfg t c) steps :=
  (outputs_eq (R := fun s t => Running s t ∨ Given s t) (NothingLeft cfg)
    (fun _ _ _ h hleft => (trackerStep_related h hleft).2)
    (fun _ _ _ h hleft => (trackerStep_related h hleft).1) steps
    (Or.inr (given_of_send h hc)) hg).1

end

noncomputable section

/-- A path that is completed where it starts, with the limits it leaves behind. -/
def stopHere (acc jerk : Option ℝ) : List TrackerOp :=
  [.sendPos [{ pos := .zero, maxAccXy := acc, maxJerkXy := jerk }],.step still 1]

/-- The tracker after it. -/
def stoppedWith (acc jerk : Option ℝ) : TrackerState :=
  runFrom (apply {}) (onStart still (fresh 0)) (stopHere acc jerk)

end

/-- No angle leaves no rest. -/
theorem remainder_zero (y : ℝ) : remainder 0 y=0 := by
  have hround : roundHalfEven 0=0 := by
    dsimp only [roundHalfEven]
    rw [if_pos (by norm_num)]
    exact Int.floor_zero
  rw [remainder,zero_div,hround]
  norm_num

/-- The completed path leaves its limits and a vehicle at rest. -/
theorem stoppedWith_state (acc jerk : Option ℝ) :
    (stoppedWith acc jerk).guide.currentMode=.none ∧ (stoppedWith acc jerk).motion={} ∧
      (stoppedWith acc jerk).speedLimitCbs=[] ∧
      (stoppedWith acc jerk).guide.maxAccXy=acc ∧ (stoppedWith acc jerk).guide.maxDecelXy=none ∧
      (stoppedWith acc jerk).guide.maxJerkXy=jerk ∧ (stoppedWith acc jerk).guide.maxJerkZ=none := by
  have hdt : ¬((1 : ℝ)<1e-6) := by norm_num
  have hnear : ¬((1 : ℝ)<0) := by norm_num
  have htol : (0 : ℝ)≤0.05 := by norm_num
  have hturn : ¬(Real.pi-0.17<0) := by linarith [Real.pi_gt_three,show (0.17 : ℝ)<3 by norm_num]
  simp [stoppedWith,stopHere,apply,onStart,fresh,sendPosCmd,onStep,controlStep,hdt,consumePending,
    applyPendingCommand,applyPath,applyCurrentWaypoint,Guidance.currentWp?,positionStep,
    autoHeadingUpdate,reached,waypointPose,still,Vec3.zero,hypot_zero,hnear,htol,
    Motion.zeroed,Motion.resetAllPids,yawError,getDistance,Vec4.zero,remainder_zero,hturn]

/-- Completed paths with different limits agree in mode, motion and callbacks. -/
theorem stoppedWith_agree (acc jerk acc' jerk' : Option ℝ) :
    Agree (stoppedWith acc jerk) (stoppedWith acc' jerk') := by
  obtain ⟨hmode,hmotion,hcbs,_⟩ := stoppedWith_state acc jerk
  obtain ⟨hmode',hmotion',hcbs',_⟩ := stoppedWith_state acc' jerk'
  exact ⟨hmode'.trans hmode.symm,hmotion'.trans hmotion.symm,hcbs'.trans hcbs.symm⟩

noncomputable section

/-- A path to a point ten metres ahead. -/
def farPath : TrackerOp := .sendPos [{ pos := ⟨10,0,0⟩ }]

/-- A forward velocity of one. -/
def forward : TrackerOp := .sendVel ⟨1,0,0⟩ none none .body

end

/-- The path to the far point replaces whatever limits the completed path left. -/
theorem farPath_replaces :
    outputs (trackerStep {}) (stepIssues {}) (apply {} (stoppedWith (some 0.5) none) farPath)
        [(still,1)]=
      outputs (trackerStep {}) (stepIssues {}) (apply {} (stoppedWith none (some 1)) farPath)
        [(still,1)] := by
  refine command_replaces {} (stoppedWith_agree _ _ _ _) farPath rfl [(still,1)] ⟨fun _ => ?_,trivial⟩
  have hfar : (1 : ℝ)<hypot 10 0 := by
    rw [hypot_axis (by norm_num)]
    norm_num
  simp [farPath,apply,sendPosCmd,consumePending,applyPendingCommand,applyPath,
    applyCurrentWaypoint,Guidance.currentWp?,HeadingFresh,waypointPose,still,Vec3.zero,hfar]

/-- The first command towards a forward velocity of one after a completed path is
the acceleration that path allowed. -/
theorem forward_after (acc : ℝ) (hacc : 0<acc) (hle : acc<1) :
    outputs (trackerStep {}) (stepIssues {}) (apply {} (stoppedWith (some acc) none) forward)
      [(still,1)]=[[⟨acc,0,0,0⟩]] := by
  obtain ⟨_,hmotion,_,hleft,_,hjerk,hjerkZ⟩ := stoppedWith_state (some acc) none
  have hdt : ¬((1 : ℝ)<1e-6) := by norm_num
  have htimeout : ¬((0.5 : ℝ)<0) := by norm_num
  have hspeed : ¬((3.0 : ℝ)<1) := by norm_num
  have hsmall : (1e-6 : ℝ)<1 := by norm_num
  have hmag : hypot acc 0=acc := hypot_axis hacc.le
  have hbound : ¬((1000.0 : ℝ)<acc) := by linarith [show (1 : ℝ)≤1000.0 by norm_num]
  have hzero : ∀ b : ℝ,0≤b → clamp 0 (-b) b=0 := fun b hb => clamp_of_mem (by linarith) hb
  have hunit : hypot 1 0=1 := hypot_axis zero_le_one
  simp [outputs,stepIssues,issuedBy,forward,apply,onStep,hdt,controlStep,consumePending,sendVelCmd,
    applyPendingCommand,applyVelocity,velocityStep,still,htimeout,computeVelControl,yawError,
    bodyTargetVel,applyKinematicConstraints,limitPair,hspeed,limitAccel,limitJerk,hmotion,hleft,
    hjerk,hjerkZ,Vec4.zero,Vec3.zero,hunit,hle,hsmall,hmag,hbound]
  rw [hzero 1 (by norm_num),hzero 0.8 (by norm_num),hzero 1.5 (by norm_num),
    hzero 1000.0 (by norm_num),hzero 2.0 (by norm_num)]
  exact ⟨rfl,rfl⟩

/-- A command does not replace all of the old one: the forward velocity after a
path that allowed half a unit of acceleration starts at half its value. -/
theorem forward_keeps_limit :
    ¬∀ (cfg : TrackerConfig) (env₀ : Surroundings) (t₀ : ℝ) (ops ops' : List TrackerOp)
      (c : TrackerOp) (steps : List (Surroundings×ℝ)),
      Agree (runFrom (apply cfg) (onStart env₀ (fresh t₀)) ops)
        (runFrom (apply cfg) (onStart env₀ (fresh t₀)) ops') →
      c.command?.isSome=true →
      outputs (trackerStep cfg) (stepIssues cfg)
          (apply cfg (runFrom (apply cfg) (onStart env₀ (fresh t₀)) ops) c) steps=
        outputs (trackerStep cfg) (stepIssues cfg)
          (apply cfg (runFrom (apply cfg) (onStart env₀ (fresh t₀)) ops') c) steps := by
  intro h
  have hsame := h {} still 0 (stopHere (some 0.5) none) (stopHere (some 0.25) none) forward
    [(still,1)] (stoppedWith_agree _ _ _ _) rfl
  have hhalf := forward_after 0.5 (by norm_num) (by norm_num)
  have hquarter := forward_after 0.25 (by norm_num) (by norm_num)
  rw [stoppedWith] at hhalf hquarter
  rw [hhalf,hquarter] at hsame
  simp at hsame
  norm_num at hsame

end Dankong.Tracker

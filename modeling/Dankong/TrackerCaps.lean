import Dankong.LimitedMotion
import Dankong.TrackerCommands

/-!
# The velocity caps of the tracker

Targets are cut to the configured caps before the acceleration and jerk limiters
move the last command towards them. The acceleration limiter cannot leave the caps
again. The jerk limiter can: it keeps accelerating a command that is at its cap.
The caps hold in every run in which, wherever the jerk limiter takes effect, the
last acceleration could have been held for one more step.
-/

namespace Dankong.Tracker

open Runs StateUtils TwoRuns LimitedMotion

/-- A command within the configured caps. -/
structure WithinCaps (cfg : TrackerConfig) (cmd : Vec4 ℝ) : Prop where
  /-- Horizontal speed. -/
  xy : hypot cmd.x cmd.y≤cfg.maxVelXy
  /-- Vertical speed. -/
  z : |cmd.z|≤cfg.maxVelZ
  /-- Yaw rate. -/
  yaw : |cmd.w|≤cfg.maxVelYaw

/-- The caps hold for every one of the commands. -/
def CapsHold (cfg : TrackerConfig) (cmds : List (Vec4 ℝ)) : Prop :=
  ∀ cmd∈cmds,WithinCaps cfg cmd

/-- Caps of at least 1e-4. -/
structure UsualCaps (cfg : TrackerConfig) : Prop where
  /-- Horizontal speed. -/
  xy : 1e-4≤cfg.maxVelXy
  /-- Vertical speed. -/
  z : 1e-4≤cfg.maxVelZ
  /-- Yaw rate. -/
  yaw : 1e-4≤cfg.maxVelYaw

/-- A call of `apply_kinematic_constraints`. -/
structure ConstraintCall where
  /-- The guidance whose limits are in force. -/
  guide : Guidance
  /-- `raw_cmd`. -/
  raw : Vec4 ℝ
  /-- What the loop remembers at the call. -/
  motion : Motion

noncomputable section

variable (cfg : TrackerConfig) (env : Surroundings) (dt : ℝ)

/-- What the call returns and remembers. -/
def ConstraintCall.run (call : ConstraintCall) : Vec4 ℝ×Motion :=
  applyKinematicConstraints cfg call.guide call.raw env.yawEnu dt call.motion

/-- The call of `on_pos_step`. -/
def posCall (g : Guidance) (m : Motion) : ConstraintCall where
  guide := g
  raw :=
    let raw := computePosControl cfg g env.pose (bodyTargetVel env g) dt m
    let speed := hypot raw.1.x raw.1.y
    if g.fbVelLimitXy<speed ∧ 1e-4<speed then
      { raw.1 with
        x := raw.1.x*(g.fbVelLimitXy/speed)
        y := raw.1.y*(g.fbVelLimitXy/speed) }
    else raw.1
  motion := (computePosControl cfg g env.pose (bodyTargetVel env g) dt m).2

open Classical in
/-- The call that a control step makes, if it makes one. -/
def controlCall (s : TrackerState) : Option ConstraintCall :=
  match s.guide.currentMode with
  | .none => none
  | .position =>
    let g := autoHeadingUpdate cfg env s.guide
    let m := (yawError g env.yawEnu s.motion).2
    if Arrived cfg env s then
      if s.guide.currentWpIdx+1<s.guide.targetWaypoints.length then
        some (posCall cfg env dt (applyCurrentWaypoint cfg env s.speedLimitCbs
          { g with currentWpIdx := s.guide.currentWpIdx+1 }) m)
      else none
    else some (posCall cfg env dt g m)
  | .velocity =>
    if cfg.commandTimeoutSec<env.now-s.guide.lastCommandTime then none else
      let raw := computeVelControl cfg s.guide env.pose (bodyTargetVel env s.guide) s.motion
      some ⟨s.guide,raw.1,raw.2⟩

/-- A horizontal vector of the last step in the body frame after a turn. -/
def turned (angle x y : ℝ) : ℝ×ℝ :=
  (x*Real.cos angle+y*Real.sin angle,-x*Real.sin angle+y*Real.cos angle)

/-- Last horizontal velocity of a call, in the present body frame. -/
def ConstraintCall.lastVel (call : ConstraintCall) : ℝ×ℝ :=
  turned (env.yawEnu-call.motion.lastYaw) call.motion.lastCmdVel.x call.motion.lastCmdVel.y

/-- Last horizontal acceleration of a call, in the present body frame. -/
def ConstraintCall.lastAcc (call : ConstraintCall) : ℝ×ℝ :=
  turned (env.yawEnu-call.motion.lastYaw) call.motion.lastCmdAcc.x call.motion.lastCmdAcc.y

/-- The target within the horizontal cap. -/
def ConstraintCall.target (call : ConstraintCall) : ℝ×ℝ :=
  limitPair call.raw.x call.raw.y (√(call.raw.x*call.raw.x+call.raw.y*call.raw.y)) cfg.maxVelXy

/-- The horizontal acceleration that the acceleration limiter leaves. -/
def ConstraintCall.acc (call : ConstraintCall) : ℝ×ℝ :=
  limitAccel cfg call.guide (call.lastVel env).1 (call.lastVel env).2
    (((call.target cfg).1-(call.lastVel env).1)/dt) (((call.target cfg).2-(call.lastVel env).2)/dt)

/-- The vertical acceleration that its limiter leaves. -/
def ConstraintCall.accZ (call : ConstraintCall) : ℝ :=
  clamp ((clamp call.raw.z (-cfg.maxVelZ) cfg.maxVelZ-call.motion.lastCmdVel.z)/dt)
    (-cfg.maxAccZ) cfg.maxAccZ

/-- Change of horizontal acceleration that is asked of the jerk limiter. -/
def ConstraintCall.change (call : ConstraintCall) : ℝ :=
  hypot ((call.acc cfg env dt).1-(call.lastAcc env).1) ((call.acc cfg env dt).2-(call.lastAcc env).2)

/-- Largest change of horizontal acceleration that the jerk limiter grants. -/
def ConstraintCall.maxChange (call : ConstraintCall) : ℝ := call.guide.maxJerkXy.getD 1000.0*dt

/-- Largest change of vertical acceleration that the jerk limiter grants. -/
def ConstraintCall.maxChangeZ (call : ConstraintCall) : ℝ := call.guide.maxJerkZ.getD 1000.0*dt

/-- No limit in force is negative. -/
structure ProperLimits (call : ConstraintCall) : Prop where
  /-- Horizontal acceleration. -/
  acc : 0≤call.guide.maxAccXy.getD cfg.maxAccXy
  /-- Horizontal deceleration. -/
  decel : 0≤call.guide.maxDecelXy.getD cfg.maxDecelXy
  /-- Horizontal jerk. -/
  jerk : 0≤call.guide.maxJerkXy.getD 1000.0
  /-- Vertical jerk. -/
  jerkZ : 0≤call.guide.maxJerkZ.getD 1000.0
  /-- Vertical acceleration. -/
  accZ : 0≤cfg.maxAccZ
  /-- Yaw acceleration. -/
  accYaw : 0≤cfg.maxAccYaw

/-- Wherever a jerk limiter takes effect, the last acceleration can be held for one
more step. -/
structure HoldsForOneStep (call : ConstraintCall) : Prop where
  /-- The limits in force are proper. -/
  limits : ProperLimits cfg call
  /-- Horizontally. -/
  xy : call.maxChange dt<call.change cfg env dt →
    hypot (call.motion.lastCmdVel.x+call.motion.lastCmdAcc.x*dt)
      (call.motion.lastCmdVel.y+call.motion.lastCmdAcc.y*dt)≤cfg.maxVelXy
  /-- Vertically. -/
  z : call.maxChangeZ dt<abs (call.accZ cfg dt-call.motion.lastCmdAcc.z) →
    |call.motion.lastCmdVel.z+call.motion.lastCmdAcc.z*dt|≤cfg.maxVelZ

/-- The guard of a run: its control steps meet the condition. -/
def StaysWithinReach (s : TrackerState) (op : TrackerOp) : Prop :=
  match op with
  | .step env dt => ¬dt<1e-6 →
    ∀ call∈controlCall cfg env dt (consumePending cfg env s),HoldsForOneStep cfg env dt call
  | _ => True

end

section

variable {cfg : TrackerConfig} {env : Surroundings} {dt : ℝ}

/-- The pairs up to a given length form a convex set. -/
theorem convex_disc (r : ℝ) : Convex ℝ {p : ℝ×ℝ | hypot p.1 p.2≤r} := by
  have hball : Convex ℝ (Metric.closedBall (0 : ℂ) r) := convex_closedBall 0 r
  have hdisc : {p : ℝ×ℝ | hypot p.1 p.2≤r}=
      Set.preimage Complex.equivRealProdLm.symm (Metric.closedBall (0 : ℂ) r) := by
    ext p
    rw [Set.mem_ofPred_eq,Set.mem_preimage,mem_closedBall_zero_iff,hypot_eq_norm]
    rfl
  rw [hdisc]
  exact hball.linear_preimage Complex.equivRealProdLm.symm.toLinearMap

/-- Turning keeps the length. -/
theorem hypot_turned (angle x y : ℝ) :
    hypot (turned angle x y).1 (turned angle x y).2=hypot x y := by
  have hunit := Real.sin_sq_add_cos_sq angle
  have hsq : (turned angle x y).1*(turned angle x y).1+(turned angle x y).2*(turned angle x y).2=
      x*x+y*y := by
    dsimp only [turned]
    linear_combination (x*x+y*y)*hunit
  rw [hypot,hypot,hsq]

/-- Turning a velocity and an acceleration turns what they lead to. -/
theorem turned_add (angle x y ax ay t : ℝ) :
    (turned angle x y).1+(turned angle ax ay).1*t=(turned angle (x+ax*t) (y+ay*t)).1 ∧
      (turned angle x y).2+(turned angle ax ay).2*t=(turned angle (x+ax*t) (y+ay*t)).2 := by
  dsimp only [turned]
  exact ⟨by ring,by ring⟩

/-- A clamped number as a maximum of a minimum. -/
theorem clamp_eq_max_min {x lo hi : ℝ} (h : lo≤hi) : clamp x lo hi=max lo (min x hi) := by
  dsimp only [clamp]
  split_ifs with hlo hhi
  · exact (max_eq_left ((min_le_left x hi).trans hlo.le)).symm
  · rw [min_eq_right hhi.le,max_eq_right h]
  · rw [min_eq_left (not_lt.mp hhi),max_eq_right (not_lt.mp hlo)]

/-- A number clamped to a symmetric range. -/
theorem abs_clamp_le {x r : ℝ} (hr : 0≤r) : |clamp x (-r) r|≤r := by
  rw [clamp_eq_max_min (by linarith),abs_le]
  exact ⟨le_max_left _ _,max_le (by linarith) (min_le_right _ _)⟩

/-- A number clamped to within reach of another one lies between the two. -/
theorem clamp_mem_segment {x c r : ℝ} (hr : 0≤r) : clamp x (c-r) (c+r)∈segment ℝ c x := by
  rw [clamp_eq_max_min (by linarith)]
  exact max_min_mem_segment hr

/-- Scaling a pair scales its length. -/
theorem hypot_smul {t : ℝ} (ht : 0≤t) (x y : ℝ) : hypot (t*x) (t*y)=t*hypot x y := by
  have hsq : t*x*(t*x)+t*y*(t*y)=t^2*(x*x+y*y) := by ring
  rw [hypot,hsq,Real.sqrt_mul (sq_nonneg t),Real.sqrt_sq ht,hypot]

/-- A pair cut to a limit is at most that long. -/
theorem hypot_limitPair_le {x y limit : ℝ} (h : 1e-4≤limit) :
    hypot (limitPair x y (hypot x y) limit).1 (limitPair x y (hypot x y) limit).2≤limit := by
  have hpos : (0 : ℝ)<1e-4 := by norm_num
  dsimp only [limitPair]
  split_ifs with hcut
  · have hspeed : 0<hypot x y := hpos.trans hcut.2
    have hx : x/hypot x y*limit=limit/hypot x y*x := by ring
    have hy : y/hypot x y*limit=limit/hypot x y*y := by ring
    dsimp only
    rw [hx,hy,hypot_smul (div_nonneg (hpos.le.trans h) hspeed.le),div_mul_cancel₀ _ hspeed.ne']
  · rcases not_and_or.mp hcut with hle|hle
    · exact not_lt.mp hle
    · exact (not_lt.mp hle).trans h

/-- A difference cut to a limit below its length goes part of the way. -/
theorem cut_mem_segment {limit mag : ℝ} (h₀ : 0≤limit) (h : limit < mag) (x y ax ay : ℝ) :
    (x+(ax-x)/mag*limit,y+(ay-y)/mag*limit)∈segment ℝ (x,y) (ax,ay) := by
  have hmag : 0 < mag := h₀.trans_lt h
  have hpart := fraction_mem_segment (div_nonneg h₀ hmag.le) ((div_le_one hmag).mpr h.le)
    (x,y) (ax,ay)
  convert hpart using 1
  ext
  · simp only [Prod.fst_add,Prod.smul_fst,Prod.fst_sub,smul_eq_mul]
    ring
  · simp only [Prod.snd_add,Prod.smul_snd,Prod.snd_sub,smul_eq_mul]
    ring

/-- The acceleration limiter goes part of the way to the wanted acceleration. -/
theorem limitAccel_mem {g : Guidance} (hacc : 0≤g.maxAccXy.getD cfg.maxAccXy)
    (hdecel : 0≤g.maxDecelXy.getD cfg.maxDecelXy) (lastX lastY ax ay : ℝ) :
    limitAccel cfg g lastX lastY ax ay∈segment ℝ 0 (ax,ay) := by
  have hcut : ∀ limit : ℝ,0≤limit →
      (if limit < hypot ax ay ∧ 1e-6 < hypot ax ay then
        (ax/hypot ax ay*limit,ay/hypot ax ay*limit) else (ax,ay))∈segment ℝ 0 (ax,ay) := by
    intro limit hlimit
    split_ifs with h
    · have hpart := cut_mem_segment hlimit h.1 0 0 ax ay
      rwa [zero_add,zero_add,sub_zero,sub_zero] at hpart
    · exact right_mem_segment ℝ _ _
  dsimp only [limitAccel]
  apply hcut
  split_ifs
  · exact hdecel
  · exact hacc

/-- The jerk limiter goes part of the way from the last acceleration to the wanted. -/
theorem limitJerk_mem {g : Guidance} (hjerk : 0≤g.maxJerkXy.getD 1000.0) (hdt : 0≤dt)
    (lastAx lastAy ax ay : ℝ) :
    limitJerk g lastAx lastAy ax ay dt∈segment ℝ (lastAx,lastAy) (ax,ay) := by
  dsimp only [limitJerk]
  split_ifs with hcut
  · exact cut_mem_segment (mul_nonneg hjerk hdt) hcut.1 lastAx lastAy ax ay
  · exact right_mem_segment ℝ _ _

/-- It grants a change that is not too large. -/
theorem limitJerk_free {g : Guidance} {lastAx lastAy ax ay : ℝ}
    (h : limitJerk g lastAx lastAy ax ay dt≠(ax,ay)) :
    g.maxJerkXy.getD 1000.0*dt<hypot (ax-lastAx) (ay-lastAy) := by
  by_contra hle
  exact h (if_neg fun hcut => hle hcut.1)

/-- The call in terms of the limited accelerations. -/
theorem run_eq (call : ConstraintCall) :
    (call.run cfg env dt).1=
      let a := limitJerk call.guide (call.lastAcc env).1 (call.lastAcc env).2
        (call.acc cfg env dt).1 (call.acc cfg env dt).2 dt
      let az := clamp (call.accZ cfg dt) (call.motion.lastCmdAcc.z-call.maxChangeZ dt)
        (call.motion.lastCmdAcc.z+call.maxChangeZ dt)
      ⟨(call.lastVel env).1+a.1*dt,(call.lastVel env).2+a.2*dt,call.motion.lastCmdVel.z+az*dt,
        clamp (clamp call.raw.w (-cfg.maxVelYaw) cfg.maxVelYaw)
          (call.motion.lastCmdVel.w-cfg.maxAccYaw*dt)
          (call.motion.lastCmdVel.w+cfg.maxAccYaw*dt)⟩ := rfl

/-- The horizontal speed stays within the cap. -/
theorem run_xy {call : ConstraintCall} (hdt : 0<dt) (hcaps : UsualCaps cfg)
    (hlast : WithinCaps cfg call.motion.lastCmdVel) (h : HoldsForOneStep cfg env dt call) :
    hypot (call.run cfg env dt).1.x (call.run cfg env dt).1.y≤cfg.maxVelXy := by
  have hv : call.lastVel env∈{p : ℝ×ℝ | hypot p.1 p.2≤cfg.maxVelXy} :=
    (hypot_turned _ _ _).trans_le hlast.xy
  have htarget : call.target cfg∈{p : ℝ×ℝ | hypot p.1 p.2≤cfg.maxVelXy} :=
    hypot_limitPair_le hcaps.xy
  have hacc : call.acc cfg env dt∈segment ℝ 0 (dt⁻¹•(call.target cfg-call.lastVel env)) := by
    have hwanted : dt⁻¹•(call.target cfg-call.lastVel env)=
        (((call.target cfg).1-(call.lastVel env).1)/dt,
          ((call.target cfg).2-(call.lastVel env).2)/dt) :=
      Prod.ext (div_eq_inv_mul _ _).symm (div_eq_inv_mul _ _).symm
    rw [hwanted]
    exact limitAccel_mem h.limits.acc h.limits.decel _ _ _ _
  have hjerk := limitJerk_mem h.limits.jerk hdt.le (call.lastAcc env).1 (call.lastAcc env).2
    (call.acc cfg env dt).1 (call.acc cfg env dt).2
  have hstep := approach_change_mem (convex_disc cfg.maxVelXy) hv htarget hdt.ne' hacc hjerk
    (fun hcut => ?_)
  · rw [run_eq]
    dsimp only
    rw [mul_comm,mul_comm _ dt]
    exact hstep
  · have hheld := h.xy (limitJerk_free hcut)
    have hturn := turned_add (env.yawEnu-call.motion.lastYaw) call.motion.lastCmdVel.x
      call.motion.lastCmdVel.y call.motion.lastCmdAcc.x call.motion.lastCmdAcc.y dt
    rw [←hypot_turned (env.yawEnu-call.motion.lastYaw),←hturn.1,←hturn.2,mul_comm _ dt,
      mul_comm _ dt] at hheld
    exact hheld

/-- The vertical speed stays within the cap. -/
theorem run_z {call : ConstraintCall} (hdt : 0<dt) (hcaps : UsualCaps cfg)
    (hlast : WithinCaps cfg call.motion.lastCmdVel) (h : HoldsForOneStep cfg env dt call) :
    |(call.run cfg env dt).1.z|≤cfg.maxVelZ := by
  have hcap : (0 : ℝ)≤cfg.maxVelZ := le_trans (by norm_num) hcaps.z
  have hv : call.motion.lastCmdVel.z∈Set.Icc (-cfg.maxVelZ) cfg.maxVelZ := abs_le.mp hlast.z
  have htarget : clamp call.raw.z (-cfg.maxVelZ) cfg.maxVelZ∈Set.Icc (-cfg.maxVelZ) cfg.maxVelZ :=
    abs_le.mp (abs_clamp_le hcap)
  have hacc : call.accZ cfg dt∈segment ℝ 0
      (dt⁻¹•(clamp call.raw.z (-cfg.maxVelZ) cfg.maxVelZ-call.motion.lastCmdVel.z)) := by
    have hpart := clamp_mem_segment (x := (clamp call.raw.z (-cfg.maxVelZ) cfg.maxVelZ-
      call.motion.lastCmdVel.z)/dt) (c := 0) h.limits.accZ
    rw [zero_sub,zero_add] at hpart
    rwa [smul_eq_mul,←div_eq_inv_mul]
  have hmax : 0≤call.maxChangeZ dt := mul_nonneg h.limits.jerkZ hdt.le
  have hjerk := clamp_mem_segment (x := call.accZ cfg dt) (c := call.motion.lastCmdAcc.z) hmax
  have hstep := approach_change_mem (convex_Icc _ _) hv htarget hdt.ne' hacc hjerk (fun hcut => ?_)
  · rw [run_eq]
    dsimp only
    rw [mul_comm]
    exact abs_le.mpr hstep
  · have hbind : call.maxChangeZ dt<abs (call.accZ cfg dt-call.motion.lastCmdAcc.z) := by
      by_contra hle
      obtain ⟨hlo,hhi⟩ := abs_le.mp (not_lt.mp hle)
      exact hcut (clamp_of_mem (by linarith) (by linarith))
    have hheld := h.z hbind
    rw [mul_comm] at hheld
    exact abs_le.mp hheld

/-- The yaw rate stays within the cap. -/
theorem run_yaw {call : ConstraintCall} (hdt : 0<dt) (hcaps : UsualCaps cfg)
    (hlast : WithinCaps cfg call.motion.lastCmdVel) (hacc : 0≤cfg.maxAccYaw) :
    |(call.run cfg env dt).1.w|≤cfg.maxVelYaw := by
  have hcap : (0 : ℝ)≤cfg.maxVelYaw := le_trans (by norm_num) hcaps.yaw
  have hlast' : call.motion.lastCmdVel.w∈Set.Icc (-cfg.maxVelYaw) cfg.maxVelYaw :=
    abs_le.mp hlast.yaw
  have htarget : clamp call.raw.w (-cfg.maxVelYaw) cfg.maxVelYaw∈
      Set.Icc (-cfg.maxVelYaw) cfg.maxVelYaw := abs_le.mp (abs_clamp_le hcap)
  have hpart := clamp_mem_segment (x := clamp call.raw.w (-cfg.maxVelYaw) cfg.maxVelYaw)
    (c := call.motion.lastCmdVel.w) (mul_nonneg hacc hdt.le)
  exact abs_le.mpr ((convex_Icc _ _).segment_subset hlast' htarget hpart)

/-- A call that meets the condition keeps the caps. -/
theorem run_withinCaps {call : ConstraintCall} (hdt : 0<dt) (hcaps : UsualCaps cfg)
    (hlast : WithinCaps cfg call.motion.lastCmdVel) (h : HoldsForOneStep cfg env dt call) :
    WithinCaps cfg (call.run cfg env dt).1 :=
  ⟨run_xy hdt hcaps hlast h,run_z hdt hcaps hlast h,run_yaw hdt hcaps hlast h.limits.accYaw⟩

/-- What the limiters remember: last command, last acceleration and last heading. -/
def Motion.limiter (m : Motion) : Vec4 ℝ×Vec3 ℝ×ℝ := (m.lastCmdVel,m.lastCmdAcc,m.lastYaw)

/-- Computing the angle error leaves the memory of the limiters alone. -/
theorem yawError_limiter (g : Guidance) (yaw : ℝ) (m : Motion) :
    (yawError g yaw m).2.limiter=m.limiter := by
  dsimp only [yawError]
  split_ifs <;> rfl

/-- So does position control. -/
theorem computePosControl_limiter (g : Guidance) (pose ff : Vec4 ℝ) (m : Motion) :
    (computePosControl cfg g pose ff dt m).2.limiter=m.limiter := by
  dsimp only [computePosControl]
  split_ifs
  · exact yawError_limiter g pose.w _
  · dsimp only [ackermannControl]
    split_ifs
    · exact yawError_limiter g pose.w _
    all_goals rfl

variable (cfg env dt) in
/-- A control step hands over to a call of the limiters. -/
structure MakesCall (s : TrackerState) (call : ConstraintCall) : Prop where
  /-- The call is made. -/
  made : controlCall cfg env dt s=some call
  /-- It starts from what the limiters remember. -/
  limiter : call.motion.limiter=s.motion.limiter
  /-- What it returns is issued. -/
  issued : (controlStep cfg env dt s).2=[(call.run cfg env dt).1]
  /-- What it remembers stays. -/
  motion : (controlStep cfg env dt s).1.motion=(call.run cfg env dt).2
  /-- Its limits stay in force. -/
  guide : (controlStep cfg env dt s).1.guide=call.guide
  /-- The mode was there before. -/
  mode : call.guide.currentMode=s.guide.currentMode

variable (cfg env dt) in
/-- A control step issues what its call returns, or nothing, or the zero command of a
reset. -/
theorem controlStep_call (s : TrackerState) :
    (∃ call,MakesCall cfg env dt s call) ∨
    (controlCall cfg env dt s=none ∧ (controlStep cfg env dt s).2=[] ∧
      (controlStep cfg env dt s).1=s) ∨
    (controlCall cfg env dt s=none ∧ (controlStep cfg env dt s).2=[.zero] ∧
      (controlStep cfg env dt s).1.motion.limiter=(.zero,.zero,env.yawEnu)) := by
  have herr := yawError_limiter (autoHeadingUpdate cfg env s.guide) env.yawEnu s.motion
  obtain ⟨hheading,_⟩ := autoHeadingUpdate_progress cfg env s.guide
  cases hmode : s.guide.currentMode with
  | none =>
    have hstep : controlStep cfg env dt s=(s,[]) := by rw [controlStep,hmode]
    rw [hstep,controlCall,hmode]
    exact Or.inr (Or.inl ⟨rfl,rfl,rfl⟩)
  | position =>
    have hstep : controlStep cfg env dt s=positionStep cfg env dt s := by rw [controlStep,hmode]
    by_cases hat : Arrived cfg env s
    · by_cases hmore : s.guide.currentWpIdx+1<s.guide.targetWaypoints.length
      · obtain ⟨hnext,_⟩ := applyCurrentWaypoint_progress cfg env s.speedLimitCbs
          { autoHeadingUpdate cfg env s.guide with currentWpIdx := s.guide.currentWpIdx+1 }
        have hcall : controlCall cfg env dt s=some (posCall cfg env dt
            (applyCurrentWaypoint cfg env s.speedLimitCbs
              { autoHeadingUpdate cfg env s.guide with currentWpIdx := s.guide.currentWpIdx+1 })
            (yawError (autoHeadingUpdate cfg env s.guide) env.yawEnu s.motion).2) := by
          rw [controlCall,hmode]
          exact (if_pos hat).trans (if_pos hmore)
        rw [positionStep_moves hat hmore] at hstep
        exact Or.inl ⟨_,hcall,(computePosControl_limiter _ _ _ _).trans herr,by rw [hstep]; rfl,
          by rw [hstep]; rfl,by rw [hstep]; rfl,hnext.trans hheading⟩
      · have hcall : controlCall cfg env dt s=none := by
          rw [controlCall,hmode]
          exact (if_pos hat).trans (if_neg hmore)
        rw [hstep,positionStep_ends hat hmore]
        exact Or.inr (Or.inr ⟨hcall,rfl,rfl⟩)
    · have hcall : controlCall cfg env dt s=some (posCall cfg env dt
          (autoHeadingUpdate cfg env s.guide)
          (yawError (autoHeadingUpdate cfg env s.guide) env.yawEnu s.motion).2) := by
        rw [controlCall,hmode]
        exact if_neg hat
      rw [positionStep_tracks hat] at hstep
      exact Or.inl ⟨_,hcall,(computePosControl_limiter _ _ _ _).trans herr,by rw [hstep]; rfl,
        by rw [hstep]; rfl,by rw [hstep]; rfl,hheading⟩
  | velocity =>
    have hstep : controlStep cfg env dt s=velocityStep cfg env dt s := by rw [controlStep,hmode]
    by_cases hold : cfg.commandTimeoutSec<env.now-s.guide.lastCommandTime
    · have hcall : controlCall cfg env dt s=none := by
        rw [controlCall,hmode]
        exact if_pos hold
      rw [velocityStep,if_pos hold] at hstep
      exact Or.inr (Or.inr ⟨hcall,by rw [hstep],by rw [hstep]; rfl⟩)
    · have hcall : controlCall cfg env dt s=some ⟨s.guide,
          (computeVelControl cfg s.guide env.pose (bodyTargetVel env s.guide) s.motion).1,
          (computeVelControl cfg s.guide env.pose (bodyTargetVel env s.guide) s.motion).2⟩ := by
        rw [controlCall,hmode]
        exact if_neg hold
      rw [velocityStep,if_neg hold] at hstep
      exact Or.inl ⟨_,hcall,yawError_limiter s.guide env.pose.w s.motion,by rw [hstep]; rfl,
        by rw [hstep]; rfl,by rw [hstep],rfl⟩

/-- Reading the slot leaves the last command alone. -/
theorem consumePending_lastCmdVel (s : TrackerState) :
    (consumePending cfg env s).motion.lastCmdVel=s.motion.lastCmdVel := by
  dsimp only [consumePending]
  split_ifs <;> rfl

/-- The zero command is within all caps. -/
theorem zero_withinCaps (hcaps : UsualCaps cfg) : WithinCaps cfg .zero := by
  have hpos : (0 : ℝ)≤1e-4 := by norm_num
  exact ⟨(hypot_axis le_rfl).trans_le (hpos.trans hcaps.xy),abs_zero.trans_le (hpos.trans hcaps.z),
    abs_zero.trans_le (hpos.trans hcaps.yaw)⟩

/-- An operation that meets the condition keeps the last command within the caps, and
so is every command it issues. -/
theorem apply_withinCaps (hcaps : UsualCaps cfg) {s : TrackerState} {op : TrackerOp}
    (hlast : WithinCaps cfg s.motion.lastCmdVel) (h : StaysWithinReach cfg s op) :
    WithinCaps cfg (apply cfg s op).motion.lastCmdVel ∧
      CapsHold cfg (issuedBy cfg s op) := by
  have hsilent : CapsHold cfg [] := fun _ hmem => nomatch hmem
  cases op with
  | sendPos path =>
    cases path with
    | nil => exact ⟨hlast,hsilent⟩
    | cons wp rest => exact ⟨hlast,hsilent⟩
  | sendVel vel yaw yawRate frame => exact ⟨hlast,hsilent⟩
  | sendZeroVel => exact ⟨hlast,hsilent⟩
  | limit env call =>
    refine ⟨?_,hsilent⟩
    cases call with
    | add name => exact hlast
    | remove id =>
      dsimp only [apply,limitCall,removeSpeedLimitCb]
      split_ifs <;> exact hlast
  | step env dt =>
    dsimp only [apply,issuedBy,onStep]
    by_cases hshort : dt<1e-6
    · rw [if_pos hshort]
      exact ⟨hlast,hsilent⟩
    rw [if_neg hshort]
    have hdt : 0<dt := lt_of_lt_of_le (by norm_num) (not_lt.mp hshort)
    have hread : WithinCaps cfg (consumePending cfg env s).motion.lastCmdVel := by
      rwa [consumePending_lastCmdVel]
    rcases controlStep_call cfg env dt (consumePending cfg env s) with
      ⟨call,hmakes⟩|⟨_,hout,hafter⟩|⟨_,hout,hafter⟩
    · have hbefore : call.motion.lastCmdVel=(consumePending cfg env s).motion.lastCmdVel :=
        congrArg Prod.fst hmakes.limiter
      have hwithin : WithinCaps cfg (call.run cfg env dt).1 :=
        run_withinCaps hdt hcaps (by rwa [hbefore]) (h hshort call hmakes.made)
      rw [hmakes.issued,hmakes.motion]
      exact ⟨hwithin,List.forall_mem_singleton.mpr hwithin⟩
    · rw [hout,hafter]
      exact ⟨hread,hsilent⟩
    · have hzero : (controlStep cfg env dt (consumePending cfg env s)).1.motion.lastCmdVel=.zero :=
        congrArg Prod.fst hafter
      rw [hout,hzero]
      exact ⟨zero_withinCaps hcaps,List.forall_mem_singleton.mpr (zero_withinCaps hcaps)⟩

/-- The caps hold for every command issued in a run from the start in which, wherever
a jerk limiter takes effect, the last acceleration could have been held. -/
theorem issued_withinCaps (cfg : TrackerConfig) (hcaps : UsualCaps cfg) (env₀ : Surroundings)
    (t₀ : ℝ) (ops : List TrackerOp)
    (hg : Guarded (apply cfg) (StaysWithinReach cfg) (onStart env₀ (fresh t₀)) ops) :
    CapsHold cfg (issuedFrom cfg (onStart env₀ (fresh t₀)) ops) := by
  have hsteps := outputs_forall (P := fun s : TrackerState => WithinCaps cfg s.motion.lastCmdVel)
    (Q := CapsHold cfg)
    (fun _ _ hlast h => apply_withinCaps hcaps hlast h) ops
    (s := onStart env₀ (fresh t₀)) (zero_withinCaps hcaps) hg
  intro cmd hmem
  obtain ⟨cmds,hcmds,hcmd⟩ := List.mem_flatten.mp hmem
  exact hsteps cmds hcmds cmd hcmd

end

noncomputable section

/-- A forward velocity of one, and a step of a second. -/
def gentleStart : List TrackerOp := [.sendVel ⟨1,0,0⟩ none none .body,.step still 1]

/-- A forward velocity at the cap, a long step that reaches it and a short one. -/
def longThenShort : List TrackerOp :=
  [.sendVel ⟨3.0,0,0⟩ none none .body,.step still 1.5,.step still 0.001]

end

/-- The gentle start stays within the caps. -/
theorem gentleStart_withinCaps :
    CapsHold {} (issuedFrom {} (onStart still (fresh 0)) gentleStart) := by
  have hcaps : UsualCaps {} := ⟨by norm_num,by norm_num,by norm_num⟩
  have htimeout : ¬((0.5 : ℝ)<0) := by norm_num
  refine issued_withinCaps {} hcaps still 0 gentleStart
    ⟨trivial,fun _ call hcall => ⟨⟨?_,?_,?_,?_,?_,?_⟩,fun _ => ?_,fun _ => ?_⟩,trivial⟩
  all_goals
    simp [controlCall,consumePending,apply,sendVelCmd,applyPendingCommand,applyVelocity,onStart,
      fresh,still,htimeout,computeVelControl,yawError] at hcall
    subst hcall
    norm_num [Motion.resetAllPids,Vec4.zero,Vec3.zero,hypot]

/-- A step straight ahead towards the cap, given what the limiters leave. -/
theorem straight_ahead {g : Guidance} {m : Motion} {v a b c : ℝ} (dt : ℝ)
    (hvel : m.lastCmdVel=⟨v,0,0,0⟩) (hacc : m.lastCmdAcc=⟨a,0,0⟩) (hyaw : m.lastYaw=0)
    (hdt : 0<dt) (hjerkZ : g.maxJerkZ=none)
    (haccel : limitAccel {} g v 0 ((3.0-v)/dt) 0=(b,0))
    (hjerk : limitJerk g a 0 b 0 dt=(c,0)) :
    applyKinematicConstraints {} g ⟨3.0,0,0,0⟩ 0 dt m=
      (⟨v+c*dt,0,0,0⟩,
        { m with lastCmdVel := ⟨v+c*dt,0,0,0⟩, lastCmdAcc := ⟨c,0,0⟩, lastYaw := 0 }) := by
  have hspeed : limitPair 3.0 0 (√(3.0*3.0+0*0)) 3.0=(3.0,0) := by
    have hroot : √((3.0 : ℝ)*3.0+0*0)=3.0 := by
      rw [mul_zero,add_zero,Real.sqrt_mul_self (by norm_num)]
    rw [hroot]
    exact if_neg fun h => lt_irrefl _ h.1
  have hzero : ∀ r : ℝ,0≤r → clamp 0 (-r) r=0 := fun r hr => clamp_of_mem (by linarith) hr
  have hmax : 0≤1000.0*dt := mul_nonneg (by norm_num) hdt.le
  have hyawRate : 0≤2.0*dt := mul_nonneg (by norm_num) hdt.le
  dsimp only [applyKinematicConstraints]
  rw [hvel,hacc,hyaw,hjerkZ,hspeed]
  dsimp only [Option.getD]
  simp only [sub_self,Real.cos_zero,Real.sin_zero,mul_one,mul_zero,add_zero,zero_add,
    zero_div,zero_mul,zero_sub,haccel,hjerk,hzero 1 (by norm_num),hzero 1.5 (by norm_num),
    hzero 0.8 (by norm_num),hzero _ hmax,hzero _ hyawRate]

noncomputable section

/-- The guidance of a forward velocity at the cap. -/
def forwardAtCap : Guidance where
  currentMode := .velocity
  targetFrame := .body
  targetVel := ⟨3.0,0,0,0⟩
  lastCommandTime := 0

end

/-- The long step reaches the cap with an acceleration of two, of which the jerk limiter
takes back only half in the short step. -/
theorem longThenShort_second :
    ⟨3.001,0,0,0⟩=(applyKinematicConstraints {} forwardAtCap ⟨3.0,0,0,0⟩ 0 0.001
      (applyKinematicConstraints {} forwardAtCap ⟨3.0,0,0,0⟩ 0 1.5 {}).2).1 := by
  have hfirst := straight_ahead (g := forwardAtCap) (m := {}) (v := 0) (a := 0) (b := 2) (c := 2)
    1.5 rfl rfl rfl (by norm_num) rfl ?_ ?_
  · have hsecond := straight_ahead (g := forwardAtCap)
      (m := (applyKinematicConstraints {} forwardAtCap ⟨3.0,0,0,0⟩ 0 1.5 {}).2)
      (v := 3) (a := 2) (b := 0) (c := 1) 0.001 ?_ ?_ ?_ (by norm_num) rfl ?_ ?_
    · rw [hsecond]
      norm_num
    · rw [hfirst]
      norm_num
    · rw [hfirst]
    · rw [hfirst]
    · norm_num [limitAccel,hypot]
    · norm_num [limitJerk,forwardAtCap,hypot_axis,hypot]
  · norm_num [limitAccel,forwardAtCap,hypot_axis]
  · norm_num [limitJerk,forwardAtCap,hypot_axis]

/-- The short step after the long one exceeds the horizontal cap. -/
theorem longThenShort_exceeds :
    ¬∀ (cfg : TrackerConfig),UsualCaps cfg → ∀ (env₀ : Surroundings) (t₀ : ℝ)
      (ops : List TrackerOp),CapsHold cfg (issuedFrom cfg (onStart env₀ (fresh t₀)) ops) := by
  intro h
  have hcmd : (⟨3.001,0,0,0⟩ : Vec4 ℝ)∈issuedFrom {} (onStart still (fresh 0)) longThenShort := by
    have htimeout : ¬((0.5 : ℝ)<0) := by norm_num
    have hlong : ¬((1.5 : ℝ)<1e-6) := by norm_num
    have hshort : ¬((0.001 : ℝ)<1e-6) := by norm_num
    simp [issuedFrom,outputs,longThenShort,issuedBy,apply,sendVelCmd,onStep,hlong,hshort,controlStep,consumePending,
      applyPendingCommand,applyVelocity,velocityStep,onStart,fresh,still,htimeout,computeVelControl,
      yawError,bodyTargetVel,Motion.resetAllPids]
    exact Or.inr longThenShort_second
  have hxy := (h {} ⟨by norm_num,by norm_num,by norm_num⟩ still 0 longThenShort _ hcmd).xy
  dsimp only at hxy
  rw [hypot_axis (by norm_num)] at hxy
  norm_num at hxy

end Dankong.Tracker

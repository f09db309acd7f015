import Dankong.TrackerCaps

/-!
# Acceleration and jerk limits of the tracker

Runs of `apply_kinematic_constraints` between two resets. Configuration, waypoint
limits, target, heading and step time may change with every call. What is applied
is read off the commands: the acceleration of a step is the change of the command
over the step time, in the body frame of that step.
-/

namespace Dankong.Tracker

open Runs StateUtils

/-- One call of `apply_kinematic_constraints`. -/
structure LimiterInput where
  /-- The configuration at the call. -/
  cfg : TrackerConfig
  /-- The guidance whose limits are in force. -/
  guide : Guidance
  /-- `raw_cmd`. -/
  raw : Vec4 ℝ
  /-- `current_yaw`. -/
  yaw : ℝ
  /-- Step time. -/
  dt : ℝ

/-- The memory of the limiter, and what a run of it has shown so far. -/
structure Limited where
  /-- What the loop remembers. -/
  motion : Motion
  /-- Acceleration applied in the last step, in its body frame. -/
  applied : Vec3 ℝ := .zero
  /-- Largest horizontal acceleration or deceleration limit so far. -/
  peak : ℝ := 0
  /-- Largest vertical acceleration limit so far. -/
  peakZ : ℝ := 0

noncomputable section

namespace LimiterInput

variable (i : LimiterInput)

/-- Horizontal acceleration limit in force. -/
def acc : ℝ := i.guide.maxAccXy.getD i.cfg.maxAccXy

/-- Horizontal deceleration limit in force. -/
def decel : ℝ := i.guide.maxDecelXy.getD i.cfg.maxDecelXy

/-- Horizontal jerk limit in force. -/
def jerk : ℝ := i.guide.maxJerkXy.getD 1000.0

/-- Vertical jerk limit in force. -/
def jerkZ : ℝ := i.guide.maxJerkZ.getD 1000.0

/-- The command of the call, and what the loop remembers after it. -/
def run (m : Motion) : Vec4 ℝ×Motion :=
  applyKinematicConstraints i.cfg i.guide i.raw i.yaw i.dt m

/-- A horizontal vector of the last step in the body frame of this one. -/
def toFrame (m : Motion) (x y : ℝ) : ℝ×ℝ := turned (i.yaw-m.lastYaw) x y

/-- The previous command in the body frame of this step. -/
def previous (m : Motion) : ℝ×ℝ := i.toFrame m m.lastCmdVel.x m.lastCmdVel.y

/-- Step time and horizontal limits that pass the guards of the code. -/
structure UsualXy : Prop where
  dt : 1e-6≤ i.dt
  acc : 1e-6≤ i.acc
  decel : 1e-6≤ i.decel
  jerk : 1e-6≤ i.jerk*i.dt

/-- Step time and limits that pass the guards of the code. -/
structure Usual : Prop extends i.UsualXy where
  accZ : 1e-6≤ i.cfg.maxAccZ
  jerkZ : 1e-6≤ i.jerkZ*i.dt
  accYaw : 1e-6≤ i.cfg.maxAccYaw

end LimiterInput

/-- One call, watched from outside. -/
def watch (w : Limited) (i : LimiterInput) : Limited :=
  let cmd := (i.run w.motion).1
  ⟨(i.run w.motion).2,
    ⟨(cmd.x-(i.previous w.motion).1)/i.dt,(cmd.y-(i.previous w.motion).2)/i.dt,
      (cmd.z-w.motion.lastCmdVel.z)/i.dt⟩,
    max w.peak (max i.acc i.decel),max w.peakZ i.cfg.maxAccZ⟩

/-- The command of a call obeys the limits. -/
structure ObeysLimits (w : Limited) (i : LimiterInput) : Prop where
  /-- The horizontal command changes by no more than the largest limit so far allows. -/
  accel : hypot ((i.run w.motion).1.x-(i.previous w.motion).1)
    ((i.run w.motion).1.y-(i.previous w.motion).2)≤ i.dt*(watch w i).peak
  /-- The applied horizontal acceleration changes by no more than the jerk limit allows. -/
  jerk : hypot ((watch w i).applied.x-(i.toFrame w.motion w.applied.x w.applied.y).1)
    ((watch w i).applied.y-(i.toFrame w.motion w.applied.x w.applied.y).2)≤ i.jerk*i.dt
  /-- So does the vertical command. -/
  accelZ : |(i.run w.motion).1.z-w.motion.lastCmdVel.z|≤ i.dt*(watch w i).peakZ
  /-- So does the applied vertical acceleration. -/
  jerkZ : |(watch w i).applied.z-w.applied.z|≤ i.jerkZ*i.dt
  /-- The yaw rate changes by no more than its limit allows. -/
  accYaw : |(i.run w.motion).1.w-w.motion.lastCmdVel.w|≤ i.cfg.maxAccYaw*i.dt

end

section

variable {cfg : TrackerConfig} {g : Guidance} {m : Motion}

/-- A pair cut to a limit has that length. -/
theorem hypot_cut {x y limit : ℝ} (hlimit : 0≤limit) (hmag : 0 < hypot x y) :
    hypot (x/hypot x y*limit) (y/hypot x y*limit)=limit := by
  have hx : x/hypot x y*limit=limit/hypot x y*x := by ring
  have hy : y/hypot x y*limit=limit/hypot x y*y := by ring
  rw [hx,hy,hypot_smul (div_nonneg hlimit hmag.le),div_mul_cancel₀ _ hmag.ne']

/-- A pair cut by the guard of the limiters is at most as long as the limit. -/
theorem hypot_guarded_cut_le {x y limit : ℝ} (hlimit : 1e-6≤limit) :
    let p : ℝ×ℝ := if limit < hypot x y ∧ 1e-6 < hypot x y then
      (x/hypot x y*limit,y/hypot x y*limit) else (x,y)
    hypot p.1 p.2≤limit := by
  have hpos : (0 : ℝ)<1e-6 := by norm_num
  dsimp only
  split_ifs with hcut
  · exact (hypot_cut (hpos.le.trans hlimit) (hpos.trans hcut.2)).le
  · rcases not_and_or.mp hcut with hle|hle
    · exact not_lt.mp hle
    · exact (not_lt.mp hle).trans hlimit

/-- The acceleration limiter leaves no more than the larger of its two limits. -/
theorem hypot_limitAccel_le (hacc : 1e-6≤g.maxAccXy.getD cfg.maxAccXy)
    (hdecel : 1e-6≤g.maxDecelXy.getD cfg.maxDecelXy) (lastX lastY ax ay : ℝ) :
    hypot (limitAccel cfg g lastX lastY ax ay).1 (limitAccel cfg g lastX lastY ax ay).2≤
      max (g.maxAccXy.getD cfg.maxAccXy) (g.maxDecelXy.getD cfg.maxDecelXy) := by
  dsimp only [limitAccel]
  by_cases hslow : 0.01<√(lastX*lastX+lastY*lastY) ∧ lastX*ax+lastY*ay<0
  · rw [if_pos hslow]
    exact (hypot_guarded_cut_le hdecel).trans (le_max_right _ _)
  · rw [if_neg hslow]
    exact (hypot_guarded_cut_le hacc).trans (le_max_left _ _)

/-- The jerk limiter leaves no larger change than it grants. -/
theorem hypot_limitJerk_change_le {dt : ℝ} (hjerk : 1e-6≤g.maxJerkXy.getD 1000.0*dt)
    (lastAx lastAy ax ay : ℝ) :
    hypot ((limitJerk g lastAx lastAy ax ay dt).1-lastAx)
      ((limitJerk g lastAx lastAy ax ay dt).2-lastAy)≤g.maxJerkXy.getD 1000.0*dt := by
  have hcut := hypot_guarded_cut_le (x := ax-lastAx) (y := ay-lastAy) hjerk
  dsimp only at hcut
  dsimp only [limitJerk]
  split_ifs at hcut ⊢ with h
  · rwa [add_sub_cancel_left,add_sub_cancel_left]
  · exact hcut

/-- A number clamped to within reach of another one differs no more from it. -/
theorem abs_clamp_sub_le {x c r : ℝ} (hr : 0≤r) : |clamp x (c-r) (c+r)-c|≤r := by
  rw [clamp_eq_max_min (by linarith),abs_le]
  have hlo : c-r≤ max (c-r) (min x (c+r)) := le_max_left _ _
  have hhi : max (c-r) (min x (c+r))≤c+r := max_le (by linarith) (min_le_right _ _)
  exact ⟨by linarith,by linarith⟩

end

section

variable {i : LimiterInput}

/-- The command moves by the acceleration that the limiter remembers. -/
theorem LimiterInput.run_moves (i : LimiterInput) (m : Motion) :
    (i.run m).1.x=(i.previous m).1+(i.run m).2.lastCmdAcc.x*i.dt ∧
      (i.run m).1.y=(i.previous m).2+(i.run m).2.lastCmdAcc.y*i.dt ∧
      (i.run m).1.z=m.lastCmdVel.z+(i.run m).2.lastCmdAcc.z*i.dt := ⟨rfl,rfl,rfl⟩

/-- The remembered horizontal acceleration lies between the last one, turned into the
present frame, and one that the acceleration limiter allows. -/
theorem LimiterInput.run_acc (h : i.UsualXy) (m : Motion) :
    hypot ((i.run m).2.lastCmdAcc.x-(i.toFrame m m.lastCmdAcc.x m.lastCmdAcc.y).1)
      ((i.run m).2.lastCmdAcc.y-(i.toFrame m m.lastCmdAcc.x m.lastCmdAcc.y).2)≤ i.jerk*i.dt ∧
    hypot (i.run m).2.lastCmdAcc.x (i.run m).2.lastCmdAcc.y≤
      max (hypot m.lastCmdAcc.x m.lastCmdAcc.y) (max i.acc i.decel) := by
  refine ⟨hypot_limitJerk_change_le h.jerk _ _ _ _,?_⟩
  have hdt : 0 < i.dt := lt_of_lt_of_le (by norm_num) h.dt
  have hjerk : 0≤ i.jerk := by
    by_contra hneg
    have hprod : i.jerk*i.dt<0 := mul_neg_of_neg_of_pos (not_le.mp hneg) hdt
    have hguard := h.jerk
    linarith
  let last := i.toFrame m m.lastCmdAcc.x m.lastCmdAcc.y
  let capped := limitPair i.raw.x i.raw.y (√(i.raw.x*i.raw.x+i.raw.y*i.raw.y)) i.cfg.maxVelXy
  let wanted := limitAccel i.cfg i.guide (i.previous m).1 (i.previous m).2
    ((capped.1-(i.previous m).1)/i.dt) ((capped.2-(i.previous m).2)/i.dt)
  have hlast : last∈{p : ℝ×ℝ | hypot p.1 p.2≤
      max (hypot m.lastCmdAcc.x m.lastCmdAcc.y) (max i.acc i.decel)} :=
    (hypot_turned _ _ _).trans_le (le_max_left _ _)
  have hwanted : wanted∈{p : ℝ×ℝ | hypot p.1 p.2≤
      max (hypot m.lastCmdAcc.x m.lastCmdAcc.y) (max i.acc i.decel)} :=
    (hypot_limitAccel_le h.acc h.decel _ _ _ _).trans (le_max_right _ _)
  have hmem := limitJerk_mem hjerk hdt.le last.1 last.2 wanted.1 wanted.2
  exact (convex_disc _).segment_subset hlast hwanted hmem

/-- The same for the vertical acceleration. -/
theorem LimiterInput.run_accZ (h : i.Usual) (m : Motion) :
    |(i.run m).2.lastCmdAcc.z-m.lastCmdAcc.z|≤ i.jerkZ*i.dt ∧
      |(i.run m).2.lastCmdAcc.z|≤ max |m.lastCmdAcc.z| i.cfg.maxAccZ := by
  have hmax : 0≤ i.jerkZ*i.dt := le_trans (by norm_num) h.jerkZ
  refine ⟨abs_clamp_sub_le hmax,?_⟩
  have haccZ : (0 : ℝ)≤ i.cfg.maxAccZ := le_trans (by norm_num) h.accZ
  let wanted := clamp ((clamp i.raw.z (-i.cfg.maxVelZ) i.cfg.maxVelZ-m.lastCmdVel.z)/i.dt)
    (-i.cfg.maxAccZ) i.cfg.maxAccZ
  have hwanted : |wanted|≤ max |m.lastCmdAcc.z| i.cfg.maxAccZ :=
    (abs_clamp_le haccZ).trans (le_max_right _ _)
  have hlast : |m.lastCmdAcc.z|≤ max |m.lastCmdAcc.z| i.cfg.maxAccZ := le_max_left _ _
  have hmem : (i.run m).2.lastCmdAcc.z∈segment ℝ m.lastCmdAcc.z wanted := clamp_mem_segment hmax
  have hwithin := (convex_Icc _ _).segment_subset (abs_le.mp hlast) (abs_le.mp hwanted) hmem
  exact abs_le.mpr hwithin

/-- The watched accelerations are those the limiter remembers, within the limits so far. -/
structure AppliedKnown (w : Limited) : Prop where
  /-- The remembered acceleration was applied. -/
  applied : w.applied=w.motion.lastCmdAcc
  /-- Horizontally it is within the largest limit so far. -/
  peak : hypot w.applied.x w.applied.y≤w.peak
  /-- So it is vertically. -/
  peakZ : |w.applied.z|≤w.peakZ

/-- What is read off the commands is what the limiter remembers. -/
theorem watch_applied (h : i.Usual) (w : Limited) :
    (watch w i).applied=(i.run w.motion).2.lastCmdAcc := by
  have hdt : i.dt≠0 := (lt_of_lt_of_le (by norm_num) h.dt).ne'
  obtain ⟨hx,hy,hz⟩ := i.run_moves w.motion
  ext
  · dsimp only [watch]
    rw [hx,add_sub_cancel_left,mul_div_cancel_right₀ _ hdt]
  · dsimp only [watch]
    rw [hy,add_sub_cancel_left,mul_div_cancel_right₀ _ hdt]
  · dsimp only [watch]
    rw [hz,add_sub_cancel_left,mul_div_cancel_right₀ _ hdt]

/-- A call keeps track of the applied acceleration. -/
theorem appliedKnown_watch (h : i.Usual) {w : Limited} (hw : AppliedKnown w) :
    AppliedKnown (watch w i) := by
  have happlied := watch_applied h w
  have hacc := (i.run_acc h.toUsualXy w.motion).2
  have haccZ := (i.run_accZ h w.motion).2
  rw [←hw.applied] at hacc haccZ
  refine ⟨happlied,?_,?_⟩
  · rw [happlied]
    exact hacc.trans (max_le_max hw.peak le_rfl)
  · rw [happlied]
    exact haccZ.trans (max_le_max hw.peakZ le_rfl)

/-- A call obeys the limits. -/
theorem watch_obeys (h : i.Usual) {w : Limited} (hw : AppliedKnown w) : ObeysLimits w i := by
  have hdt : 0≤ i.dt := le_trans (by norm_num) h.dt
  have hknown := appliedKnown_watch h hw
  have happlied := watch_applied h w
  obtain ⟨hx,hy,hz⟩ := i.run_moves w.motion
  refine ⟨?_,?_,?_,?_,?_⟩
  · rw [hx,hy,add_sub_cancel_left,add_sub_cancel_left,mul_comm,mul_comm _ i.dt,hypot_smul hdt]
    rw [←happlied]
    exact mul_le_mul_of_nonneg_left hknown.peak hdt
  · rw [happlied,hw.applied]
    exact (i.run_acc h.toUsualXy w.motion).1
  · rw [hz,add_sub_cancel_left,abs_mul,abs_of_nonneg hdt,mul_comm,←happlied]
    exact mul_le_mul_of_nonneg_left hknown.peakZ hdt
  · rw [happlied,hw.applied]
    exact (i.run_accZ h w.motion).1
  · exact abs_clamp_sub_le (mul_nonneg (le_trans (by norm_num) h.accYaw) hdt)

/-- From a reset on, whatever is asked and however the limits change, every command
obeys them. -/
theorem limits_obeyed (env : Surroundings) (m : Motion) (inputs : List LimiterInput)
    (h : ∀ i∈inputs,i.Usual) : Guarded watch ObeysLimits {motion := m.zeroed env} inputs := by
  have hguard : Guarded watch (fun _ i => i.Usual) {motion := m.zeroed env} inputs :=
    guarded_of_mem inputs (fun i hi _ => h i hi) _
  have hstart : AppliedKnown {motion := m.zeroed env} :=
    ⟨rfl,(hypot_axis le_rfl).le,abs_zero.le⟩
  exact guarded_of_invariant (P := AppliedKnown) (fun _ _ hw hi => appliedKnown_watch hi hw)
    (fun _ _ hw hi => watch_obeys hi hw) inputs hstart hguard

end

noncomputable section

/-- Full speed ahead in a long step, then the same in a short one after a turn. -/
def turnAtSpeed : List LimiterInput :=
  [⟨{},forwardAtCap,⟨3.0,0,1,0⟩,0,1.5⟩,⟨{},forwardAtCap,⟨3.0,0,-1,1⟩,1,0.001⟩]

end

/-- The turn at speed obeys the limits. -/
theorem turnAtSpeed_obeys :
    Guarded watch ObeysLimits {motion := ({} : Motion).zeroed still} turnAtSpeed := by
  refine limits_obeyed still {} turnAtSpeed (List.forall_mem_cons.mpr
    ⟨⟨⟨?_,?_,?_,?_⟩,?_,?_,?_⟩,List.forall_mem_singleton.mpr ⟨⟨?_,?_,?_,?_⟩,?_,?_,?_⟩⟩)
  all_goals
    norm_num [LimiterInput.acc,LimiterInput.decel,LimiterInput.jerk,LimiterInput.jerkZ,forwardAtCap]

end Dankong.Tracker

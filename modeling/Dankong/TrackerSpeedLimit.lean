import Dankong.Runs
import Dankong.TrackerControl

/-!
# Speed-limit callbacks and the guidance in progress

Registering or removing a cruise-limit callback re-applies the current
waypoint. In position mode this refreshes limits and feed-forward; but the
path of an old position command stays behind when a velocity command takes
over, and re-applying it then overwrites the velocity command. This module
runs the tracker over arbitrary commands, steps and callback calls and settles
when a callback call keeps the guidance in progress.
-/

namespace Dankong.Tracker

open Runs StateUtils

/-- A call that changes the set of registered callbacks. -/
inductive LimitCall
  /-- `add_speed_limit_cb`. -/
  | add (name : String)
  /-- `remove_speed_limit_cb`. -/
  | remove (id : ℕ)

/-- What can happen to a tracker from outside and from its own loop. -/
inductive TrackerOp
  /-- `send_pos_cmd`. -/
  | sendPos (path : List TrackerWaypoint)
  /-- `send_vel_cmd`. -/
  | sendVel (vel : Vec3 ℝ) (yaw yawRate : Option ℝ) (frame : CmdFrame)
  /-- `send_zero_vel_cmd`. -/
  | sendZeroVel
  /-- `on_step`. -/
  | step (env : Surroundings) (dt : ℝ)
  /-- A callback call. -/
  | limit (env : Surroundings) (call : LimitCall)

noncomputable section

/-- Effect of a callback call. -/
def limitCall (cfg : TrackerConfig) (env : Surroundings) (call : LimitCall)
    (s : TrackerState) : TrackerState :=
  match call with
  | .add name => addSpeedLimitCb cfg env name s
  | .remove id => removeSpeedLimitCb cfg env id s

/-- Effect of one operation on the tracker. -/
def apply (cfg : TrackerConfig) (s : TrackerState) : TrackerOp → TrackerState
  | .sendPos path => sendPosCmd path s
  | .sendVel vel yaw yawRate frame => sendVelCmd vel yaw yawRate frame s
  | .sendZeroVel => sendZeroVelCmd s
  | .step env dt => (onStep cfg env dt s).1
  | .limit env call => limitCall cfg env call s

/-- The position goal inside a guidance: pose, frame, path and index. -/
def goalOf (g : Guidance) : Vec4 ℝ×CmdFrame×List TrackerWaypoint×ℕ :=
  (g.targetPoseEnu,g.targetFrame,g.targetWaypoints,g.currentWpIdx)

/-- The position goal the next control step tracks, if it tracks one: the
waiting command is consumed and the automatic heading is brought up to date. -/
def trackedGoal (cfg : TrackerConfig) (env : Surroundings) (s : TrackerState) :
    Option (Vec4 ℝ×CmdFrame×List TrackerWaypoint×ℕ) :=
  let g := (consumePending cfg env s).guide
  if g.currentMode=.position then some (goalOf (autoHeadingUpdate cfg env g)) else none

/-- What a callback call must leave alone. -/
structure GuidanceKept (cfg : TrackerConfig) (s t : TrackerState) : Prop where
  /-- The mode stays. -/
  mode : t.guide.currentMode=s.guide.currentMode
  /-- The next step tracks the same goal, wherever the vehicle then is. -/
  goal : ∀ env,trackedGoal cfg env t=trackedGoal cfg env s
  /-- A commanded velocity stays, with its frame and its yaw control. -/
  velocity : s.guide.currentMode=.velocity →
    t.guide.targetVel=s.guide.targetVel ∧ t.guide.targetFrame=s.guide.targetFrame ∧
    t.guide.ctrlYaw=s.guide.ctrlYaw ∧ t.guide.targetPoseEnu=s.guide.targetPoseEnu
  /-- While something is commanded, only the limits and, in position mode, the
  feed-forward may change; the yaw switch is recomputed by the next step
  whenever the heading is automatic. -/
  rest : s.guide.currentMode≠.none →
    t={ s with
      guide := { s.guide with
        fbVelLimitXy := t.guide.fbVelLimitXy
        fbVelLimitZ := t.guide.fbVelLimitZ
        fbVelLimitYaw := t.guide.fbVelLimitYaw
        targetVel := t.guide.targetVel
        ctrlYaw := t.guide.ctrlYaw }
      speedLimitCbs := t.speedLimitCbs
      cbSeq := t.cbSeq }
  /-- The yaw switch stays when the heading is not automatic. -/
  yawSwitch : s.guide.currentMode=.position → s.guide.autoHeading=false →
    t.guide.ctrlYaw=s.guide.ctrlYaw
  /-- An explicit feed-forward velocity stays, and so does the yaw rate. -/
  feedForward : s.guide.currentMode=.position → ∀ wp,s.guide.currentWp?=some wp →
    t.guide.targetVel.w=s.guide.targetVel.w ∧
    (wp.ffVel.isSome=true → t.guide.targetVel=s.guide.targetVel)

/-- The state before a callback call in which re-applying the current waypoint
is harmless: the call finds nothing to do, or there is no waypoint left, or the
waypoint being tracked is a global one whose yaw the automatic heading does not
own, or nothing is commanded and the waypoint left behind cannot change the
yaw that a waiting position command inherits. -/
def CallSafe (cfg : TrackerConfig) (s : TrackerState) (call : LimitCall) : Prop :=
  (∃ id,call=.remove id ∧ s.speedLimitCbs.any (fun c => c.id==id)=false) ∨
  ∀ wp,s.guide.currentWp?=some wp →
    match s.guide.currentMode with
    | .position => wp.frame=.enu ∧ (wp.yaw=none ∨ cfg.isOmnidirectional=true)
    | .velocity => False
    | .none => s.pendingCmd.mode≠.position ∨ (wp.frame=.enu ∧ wp.yaw=none)

end

/-- The guidance is the one that activating the given waypoint left behind. -/
structure Applied (cfg : TrackerConfig) (wp : TrackerWaypoint) (g : Guidance) : Prop where
  /-- Frame of the waypoint. -/
  frame : g.targetFrame=wp.frame
  /-- Gains of the waypoint. -/
  gamma : g.gamma=wp.gamma
  /-- Limits taken over from the waypoint. -/
  limits : g.maxAccXy=wp.maxAccXy ∧ g.maxDecelXy=wp.maxDecelXy ∧
    g.maxJerkXy=wp.maxJerkXy ∧ g.maxJerkZ=wp.maxJerkZ
  /-- Heading rule of the waypoint. -/
  heading : g.autoHeading=((wp.yaw.isNone && wp.ffYawRate.isNone) || !cfg.isOmnidirectional)
  /-- Yaw switch, unless the automatic heading owns it. -/
  yawSwitch : g.autoHeading=false → g.ctrlYaw=wp.yaw.isSome
  /-- A global waypoint is the tracked position. -/
  position : wp.frame=.enu → g.targetPoseEnu.head=wp.pos
  /-- A global waypoint's yaw is the tracked yaw, unless the automatic heading owns it. -/
  yaw : wp.frame=.enu → cfg.isOmnidirectional=true → ∀ y,wp.yaw=some y → g.targetPoseEnu.w=y
  /-- Feed-forward yaw rate, and the explicit feed-forward velocity if any. -/
  feedForward : g.targetVel.w=wp.ffYawRate.getD 0 ∧
    ∀ v,wp.ffVel=some v → g.targetVel=⟨v.x,v.y,v.z,wp.ffYawRate.getD 0⟩

/-- Run invariant: a waiting path is not empty, and in position mode the
guidance is that of a waypoint of the path. -/
structure PathOwned (cfg : TrackerConfig) (s : TrackerState) : Prop where
  /-- Waiting position commands carry a waypoint. -/
  pending : s.pendingCmd.mode=.position → s.pendingCmd.waypoints≠[]
  /-- Position mode tracks a waypoint of the path. -/
  applied : s.guide.currentMode=.position →
    ∃ wp,s.guide.currentWp?=some wp ∧ Applied cfg wp s.guide

section

variable {cfg : TrackerConfig} {env : Surroundings} {cbs : List LimitCb} {g : Guidance}
  {wp : TrackerWaypoint} {s : TrackerState}

/-- Activating the current waypoint establishes its guidance. -/
theorem applyCurrentWaypoint_applied (h : g.currentWp?=some wp) :
    Applied cfg wp (applyCurrentWaypoint cfg env cbs g) := by
  dsimp only [applyCurrentWaypoint]
  rw [h]
  refine ⟨rfl,rfl,⟨rfl,rfl,rfl,rfl⟩,rfl,fun _ => rfl,?_,?_,rfl,?_⟩
  · intro hf
    simp only [waypointPose,hf]
    rfl
  · intro hf _ y hy
    simp only [waypointPose,hf,hy,Option.getD_some]
  · intro v hv
    simp only [hv]

/-- Activation does not move the waypoint under the index. -/
theorem applyCurrentWaypoint_currentWp :
    (applyCurrentWaypoint cfg env cbs g).currentWp?=g.currentWp? := by
  obtain ⟨_,hp,hi,_⟩ := applyCurrentWaypoint_progress cfg env cbs g
  simp only [Guidance.currentWp?,hp,hi]

/-- The automatic heading never takes the yaw of an omnidirectional vehicle's
waypoint that asks for one. -/
theorem not_autoHeading_of_yaw (ha : Applied cfg wp g) (ho : cfg.isOmnidirectional=true)
    {y : ℝ} (hy : wp.yaw=some y) : g.autoHeading=false := by
  rw [ha.heading,ho,hy]
  rfl

/-- The automatic heading keeps the guidance of a waypoint. -/
theorem autoHeadingUpdate_applied (ha : Applied cfg wp g) :
    Applied cfg wp (autoHeadingUpdate cfg env g) := by
  by_cases hauto : g.autoHeading=true
  · dsimp only [autoHeadingUpdate]
    rw [if_pos hauto]
    refine ⟨ha.frame,ha.gamma,ha.limits,ha.heading,?_,ha.position,?_,ha.feedForward⟩
    · intro hn
      exact absurd hauto (by simpa using hn)
    · intro _ ho y hy
      exact absurd hauto (by simp [not_autoHeading_of_yaw ha ho hy])
  · dsimp only [autoHeadingUpdate]
    rw [if_neg hauto]
    exact ha

/-- A fresh position path is tracked at its first waypoint. -/
theorem applyPath_applied {first : TrackerWaypoint} {rest : List TrackerWaypoint} :
    (applyPath cfg env cbs (first::rest) g).currentWp?=some first ∧
      Applied cfg first (applyPath cfg env cbs (first::rest) g) := by
  constructor
  · dsimp only [applyPath]
    rw [applyCurrentWaypoint_currentWp]
    rfl
  · exact applyCurrentWaypoint_applied rfl

/-- Consuming the waiting command keeps the invariant and empties the slot. -/
theorem consumePending_owned (h : PathOwned cfg s) : PathOwned cfg (consumePending cfg env s) := by
  dsimp only [consumePending]
  split
  · exact h
  · refine ⟨fun hp => absurd hp (by simp),?_⟩
    cases hm : s.pendingCmd.mode with
    | none => contradiction
    | velocity => simp only [applyPendingCommand,hm,applyVelocity]; intro hc; cases hc
    | position =>
      intro _
      obtain ⟨first,rest,hw⟩ := List.exists_cons_of_ne_nil (h.pending hm)
      simp only [applyPendingCommand,hm,hw]
      exact ⟨first,applyPath_applied⟩

/-- A position step keeps tracking a waypoint of the path, or stops. -/
theorem positionStep_owned {dt : ℝ} (h : PathOwned cfg s) (hm : s.guide.currentMode=.position) :
    PathOwned cfg (positionStep cfg env dt s).1 := by
  obtain ⟨wp,hw,ha⟩ := h.applied hm
  have hkeep : (autoHeadingUpdate cfg env s.guide).currentWp?=some wp := by
    rw [autoHeadingUpdate_eq]
    exact hw
  unfold positionStep
  dsimp only
  split
  · split
    · rename_i hlt
      refine ⟨h.pending,fun _ => ?_⟩
      rw [applyCurrentWaypoint_currentWp]
      exact ⟨_,List.getElem?_eq_getElem hlt,
        applyCurrentWaypoint_applied (List.getElem?_eq_getElem hlt)⟩
    · refine ⟨h.pending,fun hc => ?_⟩
      cases hc
  · exact ⟨h.pending,fun _ => ⟨wp,hkeep,autoHeadingUpdate_applied ha⟩⟩

/-- A velocity step keeps the invariant: it never enters position mode. -/
theorem velocityStep_owned {dt : ℝ} (h : PathOwned cfg s) (hm : s.guide.currentMode=.velocity) :
    PathOwned cfg (velocityStep cfg env dt s).1 := by
  dsimp only [velocityStep]
  split
  · refine ⟨h.pending,fun hc => ?_⟩
    cases hc
  · refine ⟨h.pending,fun hc => ?_⟩
    rw [hm] at hc
    cases hc

/-- A control step keeps the invariant. -/
theorem onStep_owned {dt : ℝ} (h : PathOwned cfg s) : PathOwned cfg (onStep cfg env dt s).1 := by
  have hc : PathOwned cfg (consumePending cfg env s) := consumePending_owned h
  dsimp only [onStep]
  split
  · exact h
  · dsimp only [controlStep]
    split
    · exact hc
    · exact positionStep_owned hc ‹_›
    · exact velocityStep_owned hc ‹_›

/-- Re-applying the current waypoint keeps the invariant in every mode. -/
theorem refresh_owned (h : PathOwned cfg s) (cbs : List LimitCb) (seq : ℕ) :
    PathOwned cfg { s with
      guide := applyCurrentWaypoint cfg env cbs s.guide, speedLimitCbs := cbs, cbSeq := seq } := by
  refine ⟨h.pending,fun hm => ?_⟩
  rw [(applyCurrentWaypoint_progress cfg env cbs s.guide).1] at hm
  obtain ⟨wp,hw,_⟩ := h.applied hm
  exact ⟨wp,applyCurrentWaypoint_currentWp.trans hw,applyCurrentWaypoint_applied hw⟩

/-- Every operation keeps the invariant. -/
theorem apply_owned (op : TrackerOp) (h : PathOwned cfg s) : PathOwned cfg (apply cfg s op) := by
  cases op with
  | sendPos path =>
    cases path with
    | nil => exact h
    | cons wp rest => exact ⟨fun _ => List.cons_ne_nil wp rest,h.applied⟩
  | sendVel vel yaw yawRate frame => exact ⟨fun hp => (nomatch hp),h.applied⟩
  | sendZeroVel => exact ⟨fun hp => (nomatch hp),h.applied⟩
  | step env dt => exact onStep_owned h
  | limit env call =>
    cases call with
    | add name => exact refresh_owned h _ _
    | remove id =>
      dsimp only [apply,limitCall]
      dsimp only [removeSpeedLimitCb]
      split
      · exact refresh_owned h _ _
      · exact h

variable (cfg) in
/-- Every state of every run satisfies the invariant. -/
theorem run_owned (env : Surroundings) (t₀ : ℝ) (ops : List TrackerOp) :
    PathOwned cfg (runFrom (apply cfg) (onStart env (fresh t₀)) ops) :=
  run_invariant (fun _ op h => apply_owned op h) ops
    ⟨fun hp => (nomatch hp),fun hm => (nomatch hm)⟩

/-- The automatic heading reads only its switch and the goal itself. -/
theorem goalOf_autoHeadingUpdate {g' : Guidance} (hauto : g'.autoHeading=g.autoHeading)
    (hg : goalOf g'=goalOf g) :
    goalOf (autoHeadingUpdate cfg env g')=goalOf (autoHeadingUpdate cfg env g) := by
  simp only [goalOf,Prod.mk.injEq] at hg
  obtain ⟨hpose,hframe,hpath,hidx⟩ := hg
  dsimp only [autoHeadingUpdate]
  rw [hauto]
  split <;> simp only [goalOf,hpose,hframe,hpath,hidx]

/-- The goal of a fresh path depends on the old guidance only through the yaw
that a first waypoint without a yaw inherits. -/
theorem goalOf_applyPath {g' : Guidance} {cbs' : List LimitCb} {path : List TrackerWaypoint}
    (hne : path≠[]) (hw : g'.targetPoseEnu.w=g.targetPoseEnu.w) :
    goalOf (autoHeadingUpdate cfg env (applyPath cfg env cbs' path g'))=
      goalOf (autoHeadingUpdate cfg env (applyPath cfg env cbs path g)) := by
  obtain ⟨first,rest,rfl⟩ := List.exists_cons_of_ne_nil hne
  have hpose : waypointPose env first g'.targetPoseEnu=waypointPose env first g.targetPoseEnu := by
    simp only [waypointPose,hw]
  apply goalOf_autoHeadingUpdate
  · simp only [applyPath,applyCurrentWaypoint,Guidance.currentWp?,List.getElem?_cons_zero]
  · simp only [applyPath,applyCurrentWaypoint,Guidance.currentWp?,List.getElem?_cons_zero,
      goalOf,hpose]

/-- Two tracker states with the same waiting command and mode lead to the same
tracked goal, if they agree on the goal in progress and on the inherited yaw. -/
theorem trackedGoal_congr {t : TrackerState} (hp : t.pendingCmd=s.pendingCmd)
    (hm : t.guide.currentMode=s.guide.currentMode)
    (hne : s.pendingCmd.mode=.position → s.pendingCmd.waypoints≠[])
    (hw : s.pendingCmd.mode=.position → t.guide.targetPoseEnu.w=s.guide.targetPoseEnu.w)
    (hg : s.guide.currentMode=.position →
      goalOf (autoHeadingUpdate cfg env t.guide)=goalOf (autoHeadingUpdate cfg env s.guide)) :
    trackedGoal cfg env t=trackedGoal cfg env s := by
  unfold trackedGoal consumePending
  rw [hp]
  cases hpm : s.pendingCmd.mode with
  | none =>
    dsimp only
    rw [if_pos rfl,if_pos rfl,hm]
    split
    · rw [hg ‹_›]
    · rfl
  | velocity =>
    simp only [reduceCtorEq,if_false,applyPendingCommand,hpm,applyVelocity]
  | position =>
    have hmode : ∀ cbs' g',
        (applyPath cfg env cbs' s.pendingCmd.waypoints g').currentMode=.position :=
      fun cbs' g' => (applyPath_progress cfg env cbs' g' _).1
    simp only [reduceCtorEq,if_false,applyPendingCommand,hpm,hmode,if_true]
    rw [goalOf_applyPath (hne hpm) (hw hpm)]

/-- Re-applying a tracked global waypoint changes limits, feed-forward and the
yaw switch, and nothing else. -/
theorem refresh_eq (ha : Applied cfg wp g) (hw : g.currentWp?=some wp) (hf : wp.frame=.enu)
    (hy : wp.yaw=none ∨ cfg.isOmnidirectional=true) :
    applyCurrentWaypoint cfg env cbs g=
      { g with
        fbVelLimitXy := (applyCurrentWaypoint cfg env cbs g).fbVelLimitXy
        fbVelLimitZ := (applyCurrentWaypoint cfg env cbs g).fbVelLimitZ
        fbVelLimitYaw := (applyCurrentWaypoint cfg env cbs g).fbVelLimitYaw
        targetVel := (applyCurrentWaypoint cfg env cbs g).targetVel
        ctrlYaw := wp.yaw.isSome } := by
  have hpose : waypointPose env wp g.targetPoseEnu=g.targetPoseEnu := by
    have hpos := ha.position hf
    simp only [waypointPose,hf,←hpos]
    cases hyaw : wp.yaw with
    | none => rfl
    | some y =>
      have homni := hy.resolve_left (by simp [hyaw])
      rw [Option.getD_some,←ha.yaw hf homni y hyaw]
      rfl
  obtain ⟨ha1,ha2,ha3,ha4⟩ := ha.limits
  simp only [applyCurrentWaypoint,hw,hpose,←ha.frame,←ha.gamma,←ha.heading,←ha1,←ha2,←ha3,←ha4]

/-- The goal in progress survives re-applying a tracked global waypoint. -/
theorem refresh_goal (ha : Applied cfg wp g) (hw : g.currentWp?=some wp) (hf : wp.frame=.enu)
    (hy : wp.yaw=none ∨ cfg.isOmnidirectional=true) (env' : Surroundings) :
    goalOf (autoHeadingUpdate cfg env' (applyCurrentWaypoint cfg env cbs g))=
      goalOf (autoHeadingUpdate cfg env' g) := by
  rw [refresh_eq ha hw hf hy]
  exact goalOf_autoHeadingUpdate rfl rfl

/-- The feed-forward of a tracked waypoint keeps its yaw rate, and keeps its
velocity when the waypoint states one. -/
theorem refresh_feedForward (ha : Applied cfg wp g) (hw : g.currentWp?=some wp) :
    (applyCurrentWaypoint cfg env cbs g).targetVel.w=g.targetVel.w ∧
    (wp.ffVel.isSome=true → (applyCurrentWaypoint cfg env cbs g).targetVel=g.targetVel) := by
  have hb : Applied cfg wp (applyCurrentWaypoint cfg env cbs g) :=
    applyCurrentWaypoint_applied hw
  refine ⟨hb.feedForward.1.trans ha.feedForward.1.symm,fun hv => ?_⟩
  obtain ⟨v,hv⟩ := Option.isSome_iff_exists.mp hv
  rw [hb.feedForward.2 v hv,ha.feedForward.2 v hv]

/-- Changing only the registered callbacks keeps the guidance. -/
theorem guidanceKept_of_guide_eq (h : PathOwned cfg s) (cbs : List LimitCb) (seq : ℕ) :
    GuidanceKept cfg s { s with speedLimitCbs := cbs, cbSeq := seq } where
  mode := rfl
  goal _ := trackedGoal_congr rfl rfl h.pending (fun _ => rfl) (fun _ => rfl)
  velocity _ := ⟨rfl,rfl,rfl,rfl⟩
  rest _ := rfl
  yawSwitch _ _ := rfl
  feedForward _ _ _ := ⟨rfl,fun _ => rfl⟩

/-- A refresh in a safe state keeps the guidance. -/
theorem guidanceKept_refresh (h : PathOwned cfg s) (cbs : List LimitCb) (seq : ℕ)
    (hsafe : ∀ wp,s.guide.currentWp?=some wp →
      match s.guide.currentMode with
      | .position => wp.frame=.enu ∧ (wp.yaw=none ∨ cfg.isOmnidirectional=true)
      | .velocity => False
      | .none => s.pendingCmd.mode≠.position ∨ (wp.frame=.enu ∧ wp.yaw=none)) :
    GuidanceKept cfg s { s with
      guide := applyCurrentWaypoint cfg env cbs s.guide, speedLimitCbs := cbs, cbSeq := seq } := by
  cases hw : s.guide.currentWp? with
  | none =>
    rw [applyCurrentWaypoint_of_none cfg env cbs s.guide hw]
    exact guidanceKept_of_guide_eq h cbs seq
  | some wp =>
    have hs := hsafe wp hw
    have hmode := (applyCurrentWaypoint_progress cfg env cbs s.guide).1
    cases hm : s.guide.currentMode with
    | velocity => rw [hm] at hs; exact hs.elim
    | none =>
      rw [hm] at hs
      refine ⟨hmode,fun env' => ?_,?_,?_,?_,?_⟩
      · refine trackedGoal_congr rfl hmode h.pending (fun hp => ?_) (fun hc => ?_)
        · obtain ⟨hf,hy⟩ := hs.resolve_left (fun hn => hn hp)
          simp only [applyCurrentWaypoint,hw,waypointPose,hf,hy,Option.getD_none]
        · rw [hm] at hc
          cases hc
      · intro hc; rw [hm] at hc; cases hc
      · intro hc; exact absurd hm hc
      · intro hc; rw [hm] at hc; cases hc
      · intro hc; rw [hm] at hc; cases hc
    | position =>
      rw [hm] at hs
      obtain ⟨wp',hw',ha⟩ := h.applied hm
      obtain rfl : wp=wp' := Option.some.inj (hw.symm.trans hw')
      have heq : applyCurrentWaypoint cfg env cbs s.guide=_ := refresh_eq ha hw hs.1 hs.2
      refine ⟨hmode,fun env' => ?_,?_,fun _ => ?_,fun _ hauto => ?_,fun _ wp₂ hw₂ => ?_⟩
      · refine trackedGoal_congr rfl hmode h.pending (fun _ => ?_) (fun _ => ?_)
        · rw [heq]
        · exact refresh_goal ha hw hs.1 hs.2 env'
      · intro hc; rw [hm] at hc; cases hc
      · rw [heq]
      · rw [ha.yawSwitch hauto,heq]
      · obtain rfl : wp=wp₂ := Option.some.inj (hw.symm.trans hw₂)
        exact refresh_feedForward ha hw

/-- In every reachable state, a callback call that finds the guidance safe to
refresh keeps the guidance in progress: the mode, the goal of the next step, a
commanded velocity, and everything but limits and automatic feed-forward. -/
theorem limitCall_keeps_guidance (cfg : TrackerConfig) (env₀ : Surroundings) (t₀ : ℝ)
    (ops : List TrackerOp) (env : Surroundings) (call : LimitCall)
    (hsafe : CallSafe cfg (runFrom (apply cfg) (onStart env₀ (fresh t₀)) ops) call) :
    GuidanceKept cfg (runFrom (apply cfg) (onStart env₀ (fresh t₀)) ops)
      (apply cfg (runFrom (apply cfg) (onStart env₀ (fresh t₀)) ops) (.limit env call)) := by
  have h : PathOwned cfg (runFrom (apply cfg) (onStart env₀ (fresh t₀)) ops) :=
    run_owned _ env₀ t₀ ops
  rcases hsafe with ⟨id,rfl,hid⟩|hs
  · dsimp only [apply,limitCall]
    dsimp only [removeSpeedLimitCb]
    rw [if_neg (by simp [hid])]
    exact guidanceKept_of_guide_eq h _ _
  · cases call with
    | add name => exact guidanceKept_refresh h _ _ hs
    | remove id =>
      dsimp only [apply,limitCall]
      dsimp only [removeSpeedLimitCb]
      split
      · exact guidanceKept_refresh h _ _ hs
      · exact guidanceKept_of_guide_eq h _ _

end

noncomputable section

/-- A vehicle at rest at the origin, with no callback asking for a limit. -/
def still : Surroundings := ⟨.zero,0,0,fun _ => none⟩

/-- A position command towards a point one metre ahead, and one step. -/
def underway : List TrackerOp := [.sendPos [{ pos := ⟨1,0,0⟩ }],.step still 1]

/-- A completed position command, then a velocity command taking over. -/
def handover : List TrackerOp :=
  [.sendPos [{ pos := .zero }],.step still 1,.sendVel ⟨0,1,0⟩ none none .body,.step still 1]

end

/-- No displacement has no length. -/
theorem hypot_zero : hypot 0 0=0 := hypot_axis le_rfl

/-- The underway vehicle tracks its waypoint. -/
theorem underway_state :
    (runFrom (apply {}) (onStart still (fresh 0)) underway).guide.currentMode=.position ∧
    (runFrom (apply {}) (onStart still (fresh 0)) underway).guide.currentWp?=
      some { pos := ⟨1,0,0⟩ } := by
  have hdt : ¬((1 : ℝ)<1e-6) := by norm_num
  have hfar : ¬((1 : ℝ)≤0.05) := by norm_num
  simp [underway,apply,onStart,fresh,sendPosCmd,onStep,controlStep,hdt,consumePending,
    applyPendingCommand,applyPath,applyCurrentWaypoint,Guidance.currentWp?,positionStep,autoHeadingUpdate,reached,
    waypointPose,still,Vec3.zero,hfar]

/-- Registering a callback while underway is safe, and keeps the guidance. -/
theorem underway_keeps_guidance :
    GuidanceKept {} (runFrom (apply {}) (onStart still (fresh 0)) underway)
      (apply {} (runFrom (apply {}) (onStart still (fresh 0)) underway)
        (.limit still (.add "detect"))) := by
  refine limitCall_keeps_guidance {} still 0 underway still (.add "detect") (Or.inr fun wp hw => ?_)
  obtain ⟨hm,hwp⟩ := underway_state
  rw [hwp,Option.some.injEq] at hw
  rw [hm,←hw]
  exact ⟨rfl,Or.inl rfl⟩

/-- After the handover the velocity command is in force, and the completed path
is still there with its index in range. -/
theorem handover_state :
    (runFrom (apply {}) (onStart still (fresh 0)) handover).guide.currentMode=.velocity ∧
    (runFrom (apply {}) (onStart still (fresh 0)) handover).guide.targetVel=⟨0,1,0,0⟩ ∧
    (runFrom (apply {}) (onStart still (fresh 0)) handover).guide.targetWaypoints=
      [{ pos := .zero }] ∧
    (runFrom (apply {}) (onStart still (fresh 0)) handover).guide.currentWpIdx=0 := by
  have hdt : ¬((1 : ℝ)<1e-6) := by norm_num
  have htimeout : ¬((0.5 : ℝ)<0) := by norm_num
  have hnear : ¬((1 : ℝ)<0) := by norm_num
  have htol : (0 : ℝ)≤0.05 := by norm_num
  simp [handover,apply,onStart,fresh,sendPosCmd,sendVelCmd,onStep,controlStep,hdt,consumePending,
    applyPendingCommand,applyPath,applyCurrentWaypoint,Guidance.currentWp?,positionStep,
    velocityStep,autoHeadingUpdate,reached,waypointPose,still,Vec3.zero,hypot_zero,hnear,htol,
    applyVelocity,htimeout,Vec4.zero]

/-- Registering a callback after the handover replaces the commanded velocity
by the feed-forward of the completed path, so a callback call can disturb the
guidance in progress. -/
theorem limitCall_overwrites_velocity :
    ¬∀ (cfg : TrackerConfig) (env₀ : Surroundings) (t₀ : ℝ) (ops : List TrackerOp)
      (env : Surroundings) (call : LimitCall),
      GuidanceKept cfg (runFrom (apply cfg) (onStart env₀ (fresh t₀)) ops)
        (apply cfg (runFrom (apply cfg) (onStart env₀ (fresh t₀)) ops) (.limit env call)) := by
  intro h
  obtain ⟨hm,hv,hpath,hidx⟩ := handover_state
  have hkept := ((h {} still 0 handover still (.add "detect")).velocity hm).1
  rw [hv] at hkept
  have hy := congrArg Vec4.y hkept
  simp [apply,limitCall,addSpeedLimitCb,applyCurrentWaypoint,Guidance.currentWp?,hpath,hidx,
    cruiseVel,Vec3.zero] at hy

end Dankong.Tracker

import Dankong.Quaternions
import Dankong.TrackerCommands

/-!
# The tracker as a front of a navigation stack

`MoveBaseTracker` leaves the way to a waypoint to a navigation stack: it publishes a
goal for each waypoint it takes up, and cancels the goal when its own command ends.
The stack is followed here by what it has heard: the latest goal that no cancel
followed.
-/

namespace Dankong.Tracker

open Runs

/-- `PoseStamped`, as it is published. -/
structure NavGoal where
  /-- `header.frame_id`. -/
  frameId : String
  /-- `pose.position`. -/
  position : Vec3 ℝ
  /-- `pose.orientation`. -/
  orientation : Quat

/-- A message to the navigation stack. -/
inductive NavMsg
  /-- On the goal topic. -/
  | goal (g : NavGoal)
  /-- On the cancel topic. -/
  | cancel

/-- The goal of the navigation stack after a message. -/
def heard (_ : Option NavGoal) : NavMsg → Option NavGoal
  | .goal g => some g
  | .cancel => none

/-- What one operation does: the tracker, the velocities issued and the messages, oldest
first. -/
structure NavEffect where
  /-- The tracker. -/
  tracker : TrackerState
  /-- Velocities handed to the robot. -/
  vels : List (Vec4 ℝ) := []
  /-- Messages. -/
  msgs : List NavMsg := []

noncomputable section

/-- The goal published for a target pose. -/
def navGoal (frameId : String) (target : Vec4 ℝ) : NavGoal where
  frameId := frameId
  position := ⟨target.x,target.y,target.z⟩
  orientation := Quat.aboutZ target.w

/-- `on_waypoint_activated`, at the end of `apply_current_waypoint`. -/
def activated (frameId : String) (g : Guidance) : List NavMsg :=
  match g.currentWp? with
  | none => []
  | some _ => [.goal (navGoal frameId g.targetPoseEnu)]

/-- The messages of `apply_pending_command`. -/
def pendingMsgs (cfg : TrackerConfig) (frameId : String) (env : Surroundings) (s : TrackerState) :
    List NavMsg :=
  match s.pendingCmd.mode with
  | .none => []
  | .position => activated frameId (consumePending cfg env s).guide
  | .velocity => if s.guide.currentMode=.position then [.cancel] else []

open Classical in
/-- The position branch of `on_step`; `on_pos_step` does nothing. -/
def navPositionStep (cfg : TrackerConfig) (frameId : String) (env : Surroundings)
    (s : TrackerState) : NavEffect :=
  let g := autoHeadingUpdate cfg env s.guide
  let err := yawError g env.yawEnu s.motion
  if reached cfg env g err.1 then
    if g.currentWpIdx+1<g.targetWaypoints.length then
      let next := applyCurrentWaypoint cfg env s.speedLimitCbs
        { g with currentWpIdx := g.currentWpIdx+1 }
      { tracker := { s with guide := next, motion := err.2 }
        msgs := activated frameId next }
    else
      { tracker := { s with
          guide := { g with posCmdFinished := true, currentMode := .none }
          motion := err.2.zeroed env }
        vels := [.zero]
        msgs := [.cancel] }
  else { tracker := { s with guide := g, motion := err.2 } }

/-- The part of `on_step` after the command slot has been read. -/
def navControlStep (cfg : TrackerConfig) (frameId : String) (env : Surroundings) (dt : ℝ)
    (s : TrackerState) : NavEffect :=
  match s.guide.currentMode with
  | .none => { tracker := s }
  | .position => navPositionStep cfg frameId env s
  | .velocity =>
    let out := velocityStep cfg env dt s
    { tracker := out.1, vels := out.2 }

/-- `on_step`. -/
def navStep (cfg : TrackerConfig) (frameId : String) (env : Surroundings) (dt : ℝ)
    (s : TrackerState) : NavEffect :=
  if dt<1e-6 then { tracker := s }
  else
    let out := navControlStep cfg frameId env dt (consumePending cfg env s)
    { out with msgs := pendingMsgs cfg frameId env s++out.msgs }

/-- A callback call re-applies the current waypoint, unless it finds nothing to remove. -/
def limitMsgs (cfg : TrackerConfig) (frameId : String) (env : Surroundings) (call : LimitCall)
    (s : TrackerState) : List NavMsg :=
  match call with
  | .add _ => activated frameId (limitCall cfg env call s).guide
  | .remove id =>
    if s.speedLimitCbs.any (fun c => c.id==id) then
      activated frameId (limitCall cfg env call s).guide
    else []

/-- Effect of one operation. -/
def navApply (cfg : TrackerConfig) (frameId : String) (s : TrackerState) : TrackerOp → NavEffect
  | .sendPos path => { tracker := sendPosCmd path s }
  | .sendVel vel yaw yawRate frame => { tracker := sendVelCmd vel yaw yawRate frame s }
  | .sendZeroVel => { tracker := sendZeroVelCmd s, msgs := [.cancel] }
  | .step env dt => navStep cfg frameId env dt s
  | .limit env call =>
    { tracker := limitCall cfg env call s, msgs := limitMsgs cfg frameId env call s }

/-- The tracker, the goal of the navigation stack, and whether that goal is a stray: one
that a callback call published outside position mode. -/
structure Navigation where
  /-- The tracker. -/
  tracker : TrackerState
  /-- What the navigation stack drives to. -/
  goal : Option NavGoal := none
  /-- Whether it does so on account of a callback call outside position mode. -/
  stray : Bool := false

/-- A callback call that publishes a goal outside position mode. -/
def Strays (cfg : TrackerConfig) (frameId : String) (s : TrackerState) : TrackerOp → Prop
  | .limit env call => s.guide.currentMode≠.position ∧ limitMsgs cfg frameId env call s≠[]
  | _ => False

open Classical in
/-- One operation, heard by the navigation stack. A stray goal ends with any other message. -/
def Navigation.step (cfg : TrackerConfig) (frameId : String) (n : Navigation) (op : TrackerOp) :
    Navigation :=
  let out := navApply cfg frameId n.tracker op
  { tracker := out.tracker
    goal := out.msgs.foldl heard n.goal
    stray := if out.msgs=[] then n.stray else decide (Strays cfg frameId n.tracker op) }

end

/-- The goal is where the tracker takes its target to be. -/
def AtTarget (g : Guidance) (goal : NavGoal) : Prop :=
  goal.position=⟨g.targetPoseEnu.x,g.targetPoseEnu.y,g.targetPoseEnu.z⟩

/-- A path waits in the slot only if it has points. -/
def SlotFilled (s : TrackerState) : Prop :=
  s.pendingCmd.mode=.position → s.pendingCmd.waypoints≠[]

/-- Tracker and navigation stack agree. -/
structure NavAgrees (n : Navigation) : Prop where
  /-- A goal is the target of the tracker. -/
  place : ∀ goal∈n.goal,AtTarget n.tracker.guide goal
  /-- In position mode there is a goal, unless a command is waiting that replaces it. -/
  driving : n.tracker.guide.currentMode=.position →
    n.goal.isSome=true ∨ n.tracker.pendingCmd.mode≠.none
  /-- Outside position mode the goals are the stray ones. -/
  stray : n.stray=true ↔ n.goal.isSome=true ∧ n.tracker.guide.currentMode≠.position
  /-- The slot holds no empty path. -/
  slot : SlotFilled n.tracker

section

variable {cfg : TrackerConfig} {frameId : String} {env : Surroundings} {g : Guidance}

/-- No mode is not position mode. -/
theorem none_ne_position : CtrlMode.none≠.position := by decide

/-- Nor is velocity mode. -/
theorem velocity_ne_position : CtrlMode.velocity≠.position := by decide

variable (cfg frameId env g) in
/-- Applying a waypoint publishes its pose, or there is none and nothing changes. -/
theorem activated_cases (cbs : List LimitCb) :
    (g.currentWp?=none ∧ applyCurrentWaypoint cfg env cbs g=g ∧
      activated frameId (applyCurrentWaypoint cfg env cbs g)=[]) ∨
    activated frameId (applyCurrentWaypoint cfg env cbs g)=
      [.goal (navGoal frameId (applyCurrentWaypoint cfg env cbs g).targetPoseEnu)] := by
  obtain ⟨_,hpath,hidx,_,_⟩ := applyCurrentWaypoint_progress cfg env cbs g
  have hwp : (applyCurrentWaypoint cfg env cbs g).currentWp?=g.currentWp? := by
    rw [Guidance.currentWp?,hpath,hidx,Guidance.currentWp?]
  rw [activated,hwp]
  cases h : g.currentWp? with
  | none => exact Or.inl ⟨rfl,applyCurrentWaypoint_of_none cfg env cbs g h,rfl⟩
  | some wp => exact Or.inr rfl

/-- A published goal is at the target. -/
theorem atTarget_navGoal : AtTarget g (navGoal frameId g.targetPoseEnu) := rfl

/-- The target position is the same. -/
def SamePlace (g g' : Guidance) : Prop :=
  g'.targetPoseEnu.x=g.targetPoseEnu.x ∧ g'.targetPoseEnu.y=g.targetPoseEnu.y ∧
    g'.targetPoseEnu.z=g.targetPoseEnu.z

theorem AtTarget.of_same {g' : Guidance} {goal : NavGoal} (h : AtTarget g goal)
    (hsame : SamePlace g g') : AtTarget g' goal := by
  obtain ⟨hx,hy,hz⟩ := hsame
  rw [AtTarget,hx,hy,hz]
  exact h

/-- The heading is no matter of the position. -/
theorem samePlace_autoHeadingUpdate : SamePlace g (autoHeadingUpdate cfg env g) := by
  rw [autoHeadingUpdate_eq]
  exact ⟨rfl,rfl,rfl⟩

/-- What a step tells the navigation stack, in the state it ends in: nothing, a goal, or a
cancel. -/
inductive Told (s t : TrackerState) (msgs : List NavMsg) : Prop
  /-- Nothing is said, and neither the target position nor position mode changes. -/
  | nothing (hmsgs : msgs=[]) (hplace : SamePlace s.guide t.guide)
      (hmode : t.guide.currentMode=.position ↔ s.guide.currentMode=.position)
      (hslot : t.guide.currentMode=.position → t.pendingCmd=s.pendingCmd)
  /-- The last word is a goal at the target. -/
  | goal (g : NavGoal) (hlast : msgs.getLast?=some (.goal g)) (hplace : AtTarget t.guide g)
      (hmode : t.guide.currentMode=.position)
  /-- The last word is a cancel. -/
  | cancel (hlast : msgs.getLast?=some .cancel) (hmode : t.guide.currentMode≠.position)

variable {s : TrackerState} {dt : ℝ}

/-- The rest of a step after the slot has been read. -/
theorem navControlStep_told : Told s (navControlStep cfg frameId env dt s).tracker
    (navControlStep cfg frameId env dt s).msgs := by
  obtain ⟨hmode,_,_,_⟩ := autoHeadingUpdate_progress cfg env s.guide
  rw [navControlStep]
  cases hs : s.guide.currentMode with
  | none => exact .nothing rfl ⟨rfl,rfl,rfl⟩ Iff.rfl (fun _ => rfl)
  | velocity =>
    have hnot : s.guide.currentMode≠.position := by
      rw [hs]
      exact velocity_ne_position
    dsimp only
    rw [velocityStep]
    split
    · exact .nothing rfl ⟨rfl,rfl,rfl⟩ (iff_of_false none_ne_position hnot) (fun _ => rfl)
    · exact .nothing rfl ⟨rfl,rfl,rfl⟩ Iff.rfl (fun _ => rfl)
  | position =>
    rw [hs] at hmode
    dsimp only
    rw [navPositionStep]
    dsimp only
    split_ifs with hreached hnext
    · obtain ⟨hm,_,_,_,_⟩ := applyCurrentWaypoint_progress cfg env s.speedLimitCbs
        { autoHeadingUpdate cfg env s.guide with
          currentWpIdx := (autoHeadingUpdate cfg env s.guide).currentWpIdx+1 }
      rcases activated_cases cfg frameId env
        { autoHeadingUpdate cfg env s.guide with
          currentWpIdx := (autoHeadingUpdate cfg env s.guide).currentWpIdx+1 } s.speedLimitCbs
        with ⟨hnone,_,_⟩|hgoal
      · rw [Guidance.currentWp?,List.getElem?_eq_none_iff] at hnone
        exact absurd hnext (not_lt.mpr hnone)
      · rw [hgoal]
        exact .goal _ rfl atTarget_navGoal (hm.trans hmode)
    · exact .cancel rfl none_ne_position
    · exact .nothing rfl samePlace_autoHeadingUpdate (by rw [hmode,hs]) (fun _ => rfl)

/-- Reading the slot. -/
theorem consumePending_told (hslot : SlotFilled s) :
    Told s (consumePending cfg env s) (pendingMsgs cfg frameId env s) := by
  rw [pendingMsgs]
  cases hmode : s.pendingCmd.mode with
  | none =>
    have hsame : consumePending cfg env s=s := if_pos hmode
    rw [hsame]
    exact .nothing rfl ⟨rfl,rfl,rfl⟩ Iff.rfl (fun _ => rfl)
  | position =>
    have hguide : (consumePending cfg env s).guide=
        applyPath cfg env s.speedLimitCbs s.pendingCmd.waypoints s.guide := by
      rw [consumePending,hmode,if_neg (by simp),applyPendingCommand,hmode]
    obtain ⟨hm,_,_,_⟩ := applyPath_progress cfg env s.speedLimitCbs s.guide s.pendingCmd.waypoints
    dsimp only
    rw [hguide,applyPath]
    rcases activated_cases cfg frameId env
      { s.guide with
        currentMode := .position
        lastCommandTime := env.now
        posCmdFinished := false
        targetWaypoints := s.pendingCmd.waypoints
        currentWpIdx := 0 } s.speedLimitCbs with ⟨hnone,_,_⟩|hgoal
    · rw [Guidance.currentWp?,List.getElem?_eq_none_iff] at hnone
      exact absurd (List.length_eq_zero_iff.mp (Nat.le_zero.mp hnone)) (hslot hmode)
    · rw [hgoal]
      refine .goal _ rfl ?_ (by rw [hguide]; exact hm)
      rw [hguide]
      exact atTarget_navGoal
  | velocity =>
    have hguide : (consumePending cfg env s).guide=applyVelocity env s.pendingCmd s.guide := by
      rw [consumePending,hmode,if_neg (by simp),applyPendingCommand,hmode]
    have hnot : (consumePending cfg env s).guide.currentMode≠.position := by
      rw [hguide]
      exact velocity_ne_position
    dsimp only
    split_ifs with hposition
    · exact .cancel rfl hnot
    · refine .nothing rfl ?_ (iff_of_false hnot hposition) (fun h => absurd h hnot)
      rw [hguide]
      exact ⟨rfl,rfl,rfl⟩

/-- What is said in two parts. -/
theorem Told.append {t u : TrackerState} {first second : List NavMsg} (h : Told s t first)
    (h' : Told t u second) : Told s u (first++second) := by
  cases h' with
  | nothing hmsgs hplace hmode hslot =>
    rw [hmsgs,List.append_nil]
    cases h with
    | nothing hmsgs' hplace' hmode' hslot' =>
      obtain ⟨hx,hy,hz⟩ := hplace
      obtain ⟨hx',hy',hz'⟩ := hplace'
      exact .nothing hmsgs' ⟨hx.trans hx',hy.trans hy',hz.trans hz'⟩ (hmode.trans hmode')
        (fun h => (hslot h).trans (hslot' (hmode.mp h)))
    | goal g hlast hat hposition => exact .goal g hlast (hat.of_same hplace) (hmode.mpr hposition)
    | cancel hlast hnot => exact .cancel hlast (fun h => hnot (hmode.mp h))
  | goal g hlast hat hposition =>
    exact .goal g (by rw [List.getLast?_append,hlast]; rfl) hat hposition
  | cancel hlast hnot => exact .cancel (by rw [List.getLast?_append,hlast]; rfl) hnot

/-- A step. -/
theorem navStep_told (hslot : SlotFilled s) :
    Told s (navStep cfg frameId env dt s).tracker (navStep cfg frameId env dt s).msgs := by
  rw [navStep]
  split
  · exact .nothing rfl ⟨rfl,rfl,rfl⟩ Iff.rfl (fun _ => rfl)
  · exact (consumePending_told hslot).append navControlStep_told

/-- The last word counts. -/
theorem foldl_heard {msgs : List NavMsg} {m : NavMsg} (h : msgs.getLast?=some m)
    (goal : Option NavGoal) : msgs.foldl heard goal=heard none m := by
  obtain ⟨front,rfl⟩ := List.getLast?_eq_some_iff.mp h
  rw [List.foldl_append]
  cases m <;> rfl

/-- A callback call says nothing and leaves the target alone, or publishes the target. -/
theorem limitMsgs_cases (call : LimitCall) :
    (limitMsgs cfg frameId env call s=[] ∧ (limitCall cfg env call s).guide=s.guide) ∨
    limitMsgs cfg frameId env call s=
      [.goal (navGoal frameId (limitCall cfg env call s).guide.targetPoseEnu)] := by
  cases call with
  | add name =>
    rcases activated_cases cfg frameId env s.guide (s.speedLimitCbs++[⟨s.cbSeq,name⟩])
      with ⟨_,hsame,hmsgs⟩|hgoal
    · exact Or.inl ⟨hmsgs,hsame⟩
    · exact Or.inr hgoal
  | remove id =>
    dsimp only [limitMsgs,limitCall,removeSpeedLimitCb]
    split_ifs with hknown
    · rcases activated_cases cfg frameId env s.guide
        (s.speedLimitCbs.eraseP (fun c => c.id==id)) with ⟨_,hsame,hmsgs⟩|hgoal
      · exact Or.inl ⟨hmsgs,hsame⟩
      · exact Or.inr hgoal
    · exact Or.inl ⟨rfl,rfl⟩

/-- A callback call leaves the mode alone. -/
theorem limitCall_mode (call : LimitCall) :
    (limitCall cfg env call s).guide.currentMode=s.guide.currentMode := by
  cases call with
  | add name => exact (applyCurrentWaypoint_progress cfg env _ s.guide).1
  | remove id =>
    dsimp only [limitCall,removeSpeedLimitCb]
    split_ifs
    · exact (applyCurrentWaypoint_progress cfg env _ s.guide).1
    · rfl

/-- After the slot has been read it holds no path. -/
theorem consumePending_slotFilled : SlotFilled (consumePending cfg env s) := by
  rw [consumePending]
  split
  next hnone =>
    intro h
    rw [hnone] at h
    cases h
  next => exact fun h => absurd h none_ne_position

/-- The rest of a step does not touch the slot. -/
theorem navControlStep_slot :
    (navControlStep cfg frameId env dt s).tracker.pendingCmd=s.pendingCmd := by
  rw [navControlStep]
  cases s.guide.currentMode with
  | none => rfl
  | velocity =>
    dsimp only [velocityStep]
    split <;> rfl
  | position =>
    dsimp only [navPositionStep]
    split_ifs <;> rfl

/-- No operation leaves an empty path in the slot. -/
theorem navApply_slotFilled (op : TrackerOp) (h : SlotFilled s) :
    SlotFilled (navApply cfg frameId s op).tracker := by
  cases op with
  | sendPos path =>
    cases path with
    | nil => exact h
    | cons wp rest => exact fun _ => List.cons_ne_nil wp rest
  | sendVel vel yaw yawRate frame => exact fun hmode => absurd hmode velocity_ne_position
  | sendZeroVel => exact fun hmode => absurd hmode velocity_ne_position
  | step env dt =>
    dsimp only [navApply,navStep]
    split
    · exact h
    · rw [SlotFilled,navControlStep_slot]
      exact consumePending_slotFilled
  | limit env call =>
    rw [SlotFilled,navApply,(limitCall_frame cfg env call s).2]
    exact h

/-- A velocity that is not the stop is issued outside position mode only. -/
theorem navApply_vels (op : TrackerOp) {v : Vec4 ℝ} (hv : v∈(navApply cfg frameId s op).vels)
    (hmoves : v≠.zero) : (navApply cfg frameId s op).tracker.guide.currentMode≠.position := by
  cases op with
  | sendPos path => cases hv
  | sendVel vel yaw yawRate frame => cases hv
  | sendZeroVel => cases hv
  | limit env call => cases hv
  | step env dt =>
    dsimp only [navApply] at hv ⊢
    rw [navStep] at hv ⊢
    split at hv
    · cases hv
    · rename_i hshort
      rw [if_neg hshort]
      dsimp only at hv ⊢
      generalize consumePending cfg env s=t at hv
      rw [navControlStep] at hv ⊢
      cases hmode : t.guide.currentMode with
      | none =>
        rw [hmode] at hv
        cases hv
      | velocity =>
        dsimp only [velocityStep]
        split
        · exact none_ne_position
        · rw [hmode]
          exact velocity_ne_position
      | position =>
        rw [hmode] at hv
        dsimp only [navPositionStep] at hv
        split_ifs at hv
        · cases hv
        · exact absurd (List.mem_singleton.mp hv) hmoves
        · cases hv

end

section

variable {cfg : TrackerConfig} {frameId : String} {n : Navigation}

/-- After a message the goal is a stray one if this operation made it one. -/
theorem stray_of_spoken {op : TrackerOp} (h : (navApply cfg frameId n.tracker op).msgs≠[]) :
    (n.step cfg frameId op).stray=true ↔ Strays cfg frameId n.tracker op := by
  simp only [Navigation.step,if_neg h,decide_eq_true_iff]

/-- An operation that says nothing and keeps target, mode and slot. -/
theorem NavAgrees.silent (h : NavAgrees n) {op : TrackerOp}
    (hmsgs : (navApply cfg frameId n.tracker op).msgs=[])
    (hplace : SamePlace n.tracker.guide (navApply cfg frameId n.tracker op).tracker.guide)
    (hmode : (navApply cfg frameId n.tracker op).tracker.guide.currentMode=.position ↔
      n.tracker.guide.currentMode=.position)
    (hslot : (navApply cfg frameId n.tracker op).tracker.guide.currentMode=.position →
      n.tracker.pendingCmd.mode≠.none →
        (navApply cfg frameId n.tracker op).tracker.pendingCmd.mode≠.none) :
    NavAgrees (n.step cfg frameId op) := by
  have hgoal : (n.step cfg frameId op).goal=n.goal := by
    rw [Navigation.step,hmsgs]
    rfl
  have hstray : (n.step cfg frameId op).stray=n.stray := if_pos hmsgs
  refine ⟨?_,?_,?_,navApply_slotFilled op h.slot⟩
  · intro goal hmem
    rw [hgoal] at hmem
    exact (h.place goal hmem).of_same hplace
  · intro hposition
    rw [hgoal]
    exact (h.driving (hmode.mp hposition)).imp_right (hslot hposition)
  · rw [hstray,hgoal,h.stray]
    exact and_congr_right (fun _ => (not_congr hmode).symm)

/-- An operation that ends with a goal at the target. -/
theorem NavAgrees.of_goal (h : NavAgrees n) {op : TrackerOp} {g : NavGoal}
    (hlast : (navApply cfg frameId n.tracker op).msgs.getLast?=some (.goal g))
    (hplace : AtTarget (navApply cfg frameId n.tracker op).tracker.guide g)
    (hmode : Strays cfg frameId n.tracker op ↔
      (navApply cfg frameId n.tracker op).tracker.guide.currentMode≠.position) :
    NavAgrees (n.step cfg frameId op) := by
  have hgoal : (n.step cfg frameId op).goal=some g := foldl_heard hlast n.goal
  have hspoken : (navApply cfg frameId n.tracker op).msgs≠[] := by
    intro hnil
    rw [hnil] at hlast
    cases hlast
  refine ⟨?_,?_,?_,navApply_slotFilled op h.slot⟩
  · intro goal hmem
    rw [hgoal] at hmem
    cases hmem
    exact hplace
  · intro _
    rw [hgoal]
    exact Or.inl rfl
  · rw [stray_of_spoken hspoken,hgoal,hmode]
    exact ⟨fun hnot => ⟨rfl,hnot⟩,fun hnot => hnot.2⟩

/-- An operation that ends with a cancel. -/
theorem NavAgrees.of_cancel (h : NavAgrees n) {op : TrackerOp}
    (hlast : (navApply cfg frameId n.tracker op).msgs.getLast?=some .cancel)
    (hstrays : ¬Strays cfg frameId n.tracker op)
    (hdriving : (navApply cfg frameId n.tracker op).tracker.guide.currentMode=.position →
      (navApply cfg frameId n.tracker op).tracker.pendingCmd.mode≠.none) :
    NavAgrees (n.step cfg frameId op) := by
  have hgoal : (n.step cfg frameId op).goal=none := foldl_heard hlast n.goal
  have hspoken : (navApply cfg frameId n.tracker op).msgs≠[] := by
    intro hnil
    rw [hnil] at hlast
    cases hlast
  refine ⟨?_,fun hmode => Or.inr (hdriving hmode),?_,navApply_slotFilled op h.slot⟩
  · intro goal hmem
    rw [hgoal] at hmem
    cases hmem
  · rw [stray_of_spoken hspoken,hgoal]
    exact iff_of_false hstrays (fun hsome => (nomatch hsome.1))

/-- Every operation keeps tracker and navigation stack in agreement. -/
theorem NavAgrees.step (h : NavAgrees n) (op : TrackerOp) :
    NavAgrees (n.step cfg frameId op) := by
  cases op with
  | sendPos path =>
    cases path with
    | nil => exact h.silent rfl ⟨rfl,rfl,rfl⟩ Iff.rfl (fun _ hwaits => hwaits)
    | cons wp rest =>
      exact h.silent rfl ⟨rfl,rfl,rfl⟩ Iff.rfl (fun _ _ hmode => (nomatch hmode))
  | sendVel vel yaw yawRate frame =>
    exact h.silent rfl ⟨rfl,rfl,rfl⟩ Iff.rfl (fun _ _ hmode => (nomatch hmode))
  | sendZeroVel =>
    exact h.of_cancel rfl (fun hstray => hstray) (fun _ hmode => (nomatch hmode))
  | step env dt =>
    have htold : Told n.tracker (navApply cfg frameId n.tracker (.step env dt)).tracker
        (navApply cfg frameId n.tracker (.step env dt)).msgs := navStep_told h.slot
    cases htold with
    | nothing hmsgs hplace hmode hslot =>
      refine h.silent hmsgs hplace hmode (fun hposition hwaits => ?_)
      rw [hslot hposition]
      exact hwaits
    | goal g hlast hplace hmode =>
      exact h.of_goal hlast hplace (iff_of_false (fun hstray => hstray) (fun hnot => hnot hmode))
    | cancel hlast hmode =>
      exact h.of_cancel hlast (fun hstray => hstray) (fun hposition => absurd hposition hmode)
  | limit env call =>
    have hmode : (limitCall cfg env call n.tracker).guide.currentMode=
        n.tracker.guide.currentMode := limitCall_mode call
    rcases limitMsgs_cases call with ⟨hmsgs,hguide⟩|hgoal
    · refine h.silent hmsgs ?_ ?_ (fun _ hwaits => ?_)
      · rw [navApply,hguide]
        exact ⟨rfl,rfl,rfl⟩
      · rw [navApply,hguide]
      · rw [navApply,(limitCall_frame cfg env call n.tracker).2]
        exact hwaits
    · have hlast : (navApply cfg frameId n.tracker (.limit env call)).msgs.getLast?=
          some (.goal (navGoal frameId
            (limitCall cfg env call n.tracker).guide.targetPoseEnu)) := by
        rw [navApply,hgoal]
        rfl
      refine h.of_goal hlast atTarget_navGoal ?_
      rw [Strays,navApply,hmode]
      exact and_iff_left (by rw [hgoal]; exact List.cons_ne_nil _ _)

/-- Before the first operation there is neither goal nor job. -/
theorem navAgrees_fresh (t₀ : ℝ) : NavAgrees { tracker := fresh t₀ } where
  place := fun _ h => (nomatch h)
  driving := fun h => (nomatch h)
  stray := iff_of_false (fun h => (nomatch h)) (fun h => (nomatch h.1))
  slot := fun h => (nomatch h)

end

/-- However commands, steps and callback calls follow one another, the navigation stack
drives to the target of the tracker or stands, it has a goal in position mode unless a
command is waiting, and the robot is given a velocity of the tracker only while the stack
has no goal, or a stray one. -/
theorem navigation_agrees (cfg : TrackerConfig) (frameId : String) (t₀ : ℝ)
    (ops : List TrackerOp) (op : TrackerOp) :
    let n := runFrom (Navigation.step cfg frameId) { tracker := fresh t₀ } ops
    NavAgrees n ∧ ∀ v∈(navApply cfg frameId n.tracker op).vels,v≠.zero →
      (n.step cfg frameId op).goal=none ∨ (n.step cfg frameId op).stray=true := by
  intro n
  have hn : NavAgrees n := run_invariant (fun _ op h => h.step op) ops (navAgrees_fresh t₀)
  refine ⟨hn,fun v hv hmoves => ?_⟩
  have hmode : (n.step cfg frameId op).tracker.guide.currentMode≠.position :=
    navApply_vels op hv hmoves
  cases hgoal : (n.step cfg frameId op).goal with
  | none => exact Or.inl rfl
  | some g => exact Or.inr ((hn.step op).stray.mpr ⟨by rw [hgoal]; rfl,hmode⟩)

end Dankong.Tracker

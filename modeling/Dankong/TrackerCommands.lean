import Dankong.TrackerSpeedLimit
import Dankong.TwoRuns

/-!
# Commands of the tracker

Commands from other threads are written field by field into one slot and taken
over by the next control step. Seen from outside, the tracker keeps the latest
command, turns it into a job when a step consumes it, and walks the path of a
position job one waypoint at a time. Fields that an overwritten command leaves in
the slot are never read.
-/

namespace Dankong.Tracker

open Runs StateUtils TwoRuns

/-- A command as its sender sees it. -/
inductive Command where
  /-- A path that is not empty. -/
  | path (waypoints : List TrackerWaypoint)
  /-- A velocity with its optional yaw and yaw rate. -/
  | velocity (vel : Vec3 ℝ) (yaw yawRate : Option ℝ) (frame : CmdFrame)

/-- What the tracker works on. -/
inductive Job where
  | idle
  /-- A path and the waypoint being tracked. -/
  | path (waypoints : List TrackerWaypoint) (idx : ℕ)
  | velocity

/-- The command waiting and the job in progress. -/
structure Plan where
  /-- The latest command that no step has consumed. -/
  waiting : Option Command := none
  /-- The job. -/
  job : Job := .idle

/-- The command in the slot. -/
def waiting (cmd : PendingCmd) : Option Command :=
  match cmd.mode with
  | .none => none
  | .position => some (.path cmd.waypoints)
  | .velocity => some (.velocity cmd.vec3Cmd cmd.yaw cmd.yawRate cmd.frame)

/-- The job of a tracker. -/
def jobOf (g : Guidance) : Job :=
  match g.currentMode with
  | .none => .idle
  | .position => .path g.targetWaypoints g.currentWpIdx
  | .velocity => .velocity

/-- What is seen of a tracker from outside. -/
def planOf (s : TrackerState) : Plan := ⟨waiting s.pendingCmd,jobOf s.guide⟩

/-- The command that an operation sends; an empty path is none. -/
def TrackerOp.command? : TrackerOp → Option Command
  | .sendPos [] => none
  | .sendPos (wp::rest) => some (.path (wp::rest))
  | .sendVel vel yaw yawRate frame => some (.velocity vel yaw yawRate frame)
  | .sendZeroVel => some (.velocity .zero none none .enu)
  | .step _ _ => none
  | .limit _ _ => none

/-- A step too short to do anything consumes no command. -/
def TrackerOp.Consumes : TrackerOp → Prop
  | .step _ dt => ¬dt<1e-6
  | _ => False

/-- The job once the waiting command has been consumed. -/
def Plan.started (p : Plan) : Job :=
  match p.waiting with
  | some (.path waypoints) => .path waypoints 0
  | some (.velocity _ _ _ _) => .velocity
  | none => p.job

/-- Whether a control step finds the vehicle at the waypoint it tracks. -/
def Arrived (cfg : TrackerConfig) (env : Surroundings) (s : TrackerState) : Prop :=
  let g := autoHeadingUpdate cfg env s.guide
  reached cfg env g (yawError g env.yawEnu s.motion).1

/-- Whether a control step finds the velocity command too old. -/
def Lapsed (cfg : TrackerConfig) (env : Surroundings) (s : TrackerState) : Prop :=
  cfg.commandTimeoutSec<env.now-s.guide.lastCommandTime

noncomputable section

open Classical

/-- The job after a control step: a path moves on or ends on arrival, a velocity
ends when it has lapsed. -/
def Job.advance (arrived lapsed : Prop) : Job → Job
  | .idle => .idle
  | .path waypoints idx =>
    if arrived then
      if idx+1<waypoints.length then .path waypoints (idx+1) else .idle
    else .path waypoints idx
  | .velocity => if lapsed then .idle else .velocity

/-- The latest command after an operation. -/
def remember (c : Option Command) (op : TrackerOp) : Option Command :=
  match op.command? with
  | some latest => some latest
  | none => if op.Consumes then none else c

/-- One operation seen from outside. -/
def Plan.next (arrived lapsed : Prop) (p : Plan) (op : TrackerOp) : Plan where
  waiting := remember p.waiting op
  job := if op.Consumes then p.started.advance arrived lapsed else p.job

/-- The velocity commands an operation hands to the runtime. -/
def issuedBy (cfg : TrackerConfig) (s : TrackerState) : TrackerOp → List (Vec4 ℝ)
  | .step env dt => (onStep cfg env dt s).2
  | _ => []

/-- All velocity commands of a run, oldest first. -/
def issuedFrom (cfg : TrackerConfig) (s : TrackerState) (ops : List TrackerOp) :
    List (Vec4 ℝ) :=
  (outputs (apply cfg) (issuedBy cfg) s ops).flatten

end

/-- A step takes over exactly the waiting command. -/
def Executes (env : Surroundings) (before after : Guidance) : Option Command → Prop
  | none => after=before
  | some (.path waypoints) =>
    after.currentMode=.position ∧ after.targetWaypoints=waypoints ∧ after.currentWpIdx=0
  | some (.velocity vel yaw yawRate frame) =>
    after.currentMode=.velocity ∧ after.targetFrame=frame ∧
      after.targetVel=⟨vel.x,vel.y,vel.z,yawRate.getD 0⟩ ∧ after.ctrlYaw=yaw.isSome ∧
      ∀ y,yaw=some y → after.targetPoseEnu.w=
        match frame with
        | .body => normYaw (env.yawEnu+y)
        | .enu => y

section

variable {cfg : TrackerConfig} {env : Surroundings} {s t : TrackerState}

/-- The slot is empty after a step has read it. -/
theorem consumePending_waiting : waiting (consumePending cfg env s).pendingCmd=none := by
  dsimp only [consumePending]
  split
  · rename_i hnone
    rw [waiting,hnone]
  · rfl

/-- Reading the slot starts the waiting command. -/
theorem consumePending_job :
    jobOf (consumePending cfg env s).guide=(planOf s).started := by
  dsimp only [consumePending,planOf,Plan.started,waiting]
  cases hmode : s.pendingCmd.mode with
  | none => rfl
  | position =>
    obtain ⟨hm,hp,hi,_⟩ := applyPath_progress cfg env s.speedLimitCbs
      s.guide s.pendingCmd.waypoints
    rw [if_neg (by simp)]
    dsimp only [applyPendingCommand,jobOf]
    rw [hmode]
    dsimp only
    rw [hm,hp,hi]
  | velocity =>
    rw [if_neg (by simp)]
    dsimp only [applyPendingCommand,jobOf]
    rw [hmode]
    rfl

variable (cfg env) in
/-- Reading the slot takes over exactly what is in it. -/
theorem consumePending_executes :
    Executes env s.guide (consumePending cfg env s).guide (waiting s.pendingCmd) := by
  dsimp only [consumePending,waiting]
  cases hmode : s.pendingCmd.mode with
  | none => rfl
  | position =>
    rw [if_neg (by simp)]
    dsimp only [applyPendingCommand,Executes]
    rw [hmode]
    obtain ⟨hm,hp,hi,_⟩ := applyPath_progress cfg env s.speedLimitCbs
      s.guide s.pendingCmd.waypoints
    exact ⟨hm,hp,hi⟩
  | velocity =>
    rw [if_neg (by simp)]
    dsimp only [applyPendingCommand,Executes]
    rw [hmode]
    refine ⟨rfl,rfl,rfl,rfl,fun y hy => ?_⟩
    dsimp only [applyVelocity]
    cases s.pendingCmd.frame with
    | body => simp only [hy]
    | enu => simp only [hy]

/-- The automatic heading leaves mode, path and index alone. -/
theorem autoHeadingUpdate_progress (cfg : TrackerConfig) (env : Surroundings) (g : Guidance) :
    (autoHeadingUpdate cfg env g).currentMode=g.currentMode ∧
      (autoHeadingUpdate cfg env g).targetWaypoints=g.targetWaypoints ∧
      (autoHeadingUpdate cfg env g).currentWpIdx=g.currentWpIdx ∧
      (autoHeadingUpdate cfg env g).posCmdFinished=g.posCmdFinished := by
  rw [autoHeadingUpdate_eq]
  exact ⟨rfl,rfl,rfl,rfl⟩

/-- Away from the waypoint a position step keeps tracking it. -/
theorem positionStep_tracks {dt : ℝ} (h : ¬Arrived cfg env s) :
    positionStep cfg env dt s=
      let g := autoHeadingUpdate cfg env s.guide
      let out := onPosStep cfg env g dt (yawError g env.yawEnu s.motion).2
      ({ s with guide := g, motion := out.2 },[out.1]) :=
  if_neg h

/-- At a waypoint that is not the last a position step activates the next one. -/
theorem positionStep_moves {dt : ℝ} (h : Arrived cfg env s)
    (hmore : s.guide.currentWpIdx+1<s.guide.targetWaypoints.length) :
    positionStep cfg env dt s=
      let g := autoHeadingUpdate cfg env s.guide
      let next := applyCurrentWaypoint cfg env s.speedLimitCbs
        { g with currentWpIdx := s.guide.currentWpIdx+1 }
      let out := onPosStep cfg env next dt (yawError g env.yawEnu s.motion).2
      ({ s with guide := next, motion := out.2 },[out.1]) := by
  obtain ⟨_,hpath,hidx,_⟩ := autoHeadingUpdate_progress cfg env s.guide
  have hmore' : (autoHeadingUpdate cfg env s.guide).currentWpIdx+1<
      (autoHeadingUpdate cfg env s.guide).targetWaypoints.length := by
    rw [hpath,hidx]
    exact hmore
  refine (if_pos h).trans ((if_pos hmore').trans ?_)
  rw [hidx]

/-- At the last waypoint a position step finishes. -/
theorem positionStep_ends {dt : ℝ} (h : Arrived cfg env s)
    (hlast : ¬s.guide.currentWpIdx+1<s.guide.targetWaypoints.length) :
    positionStep cfg env dt s=
      let g := autoHeadingUpdate cfg env s.guide
      ({ s with
          guide := { g with posCmdFinished := true, currentMode := .none }
          motion := (yawError g env.yawEnu s.motion).2.zeroed env },[.zero]) := by
  obtain ⟨_,hpath,hidx,_⟩ := autoHeadingUpdate_progress cfg env s.guide
  have hlast' : ¬(autoHeadingUpdate cfg env s.guide).currentWpIdx+1<
      (autoHeadingUpdate cfg env s.guide).targetWaypoints.length := by
    rw [hpath,hidx]
    exact hlast
  exact (if_pos h).trans (if_neg hlast')

/-- A position step advances the path. -/
theorem positionStep_job {dt : ℝ} (hmode : s.guide.currentMode=.position) :
    jobOf (positionStep cfg env dt s).1.guide=
      (Job.path s.guide.targetWaypoints s.guide.currentWpIdx).advance
        (Arrived cfg env s) (Lapsed cfg env s) := by
  obtain ⟨hm,hpath,hidx,_⟩ := autoHeadingUpdate_progress cfg env s.guide
  dsimp only [Job.advance]
  by_cases harrived : Arrived cfg env s
  · rw [if_pos harrived]
    by_cases hmore : s.guide.currentWpIdx+1<s.guide.targetWaypoints.length
    · obtain ⟨hm',hpath',hidx',_,_⟩ := applyCurrentWaypoint_progress cfg env s.speedLimitCbs
        { autoHeadingUpdate cfg env s.guide with currentWpIdx := s.guide.currentWpIdx+1 }
      rw [if_pos hmore,positionStep_moves harrived hmore]
      dsimp only [jobOf]
      rw [hm',hpath',hidx']
      dsimp only
      rw [hm,hmode,hpath]
    · rw [if_neg hmore,positionStep_ends harrived hmore]
      rfl
  · rw [if_neg harrived,positionStep_tracks harrived]
    dsimp only [jobOf]
    rw [hm,hmode,hpath,hidx]

/-- A velocity step ends a velocity that has lapsed. -/
theorem velocityStep_job {dt : ℝ} (hmode : s.guide.currentMode=.velocity) :
    jobOf (velocityStep cfg env dt s).1.guide=
      Job.velocity.advance (Arrived cfg env s) (Lapsed cfg env s) := by
  dsimp only [velocityStep,Job.advance]
  by_cases hlapsed : Lapsed cfg env s
  · have hold : cfg.commandTimeoutSec<env.now-s.guide.lastCommandTime := hlapsed
    rw [if_pos hold,if_pos hlapsed]
    rfl
  · have hrecent : ¬cfg.commandTimeoutSec<env.now-s.guide.lastCommandTime := hlapsed
    rw [if_neg hrecent,if_neg hlapsed]
    dsimp only [jobOf]
    rw [hmode]

/-- A control step advances the job. -/
theorem controlStep_job {dt : ℝ} (s : TrackerState) :
    jobOf (controlStep cfg env dt s).1.guide=
      (jobOf s.guide).advance (Arrived cfg env s) (Lapsed cfg env s) := by
  dsimp only [controlStep]
  cases hmode : s.guide.currentMode with
  | none =>
    dsimp only [jobOf]
    rw [hmode]
    rfl
  | position =>
    have hjob : jobOf s.guide=.path s.guide.targetWaypoints s.guide.currentWpIdx := by
      dsimp only [jobOf]
      rw [hmode]
    rw [hjob]
    exact positionStep_job hmode
  | velocity =>
    have hjob : jobOf s.guide=.velocity := by
      dsimp only [jobOf]
      rw [hmode]
    rw [hjob]
    exact velocityStep_job hmode

variable (cfg env) in
/-- A control step neither reads nor writes the slot. -/
theorem controlStep_slot (dt : ℝ) (s : TrackerState) (cmd : PendingCmd) :
    controlStep cfg env dt { s with pendingCmd := cmd }=
      ({ (controlStep cfg env dt s).1 with pendingCmd := cmd },(controlStep cfg env dt s).2) := by
  dsimp only [controlStep]
  cases s.guide.currentMode with
  | none => rfl
  | position =>
    dsimp only [positionStep]
    split_ifs <;> rfl
  | velocity =>
    dsimp only [velocityStep]
    split_ifs <;> rfl

/-- A control step leaves what is in the slot. -/
theorem controlStep_pendingCmd {dt : ℝ} (s : TrackerState) :
    (controlStep cfg env dt s).1.pendingCmd=s.pendingCmd :=
  congrArg (fun r : TrackerState×List (Vec4 ℝ) => r.1.pendingCmd)
    (controlStep_slot cfg env dt s s.pendingCmd)

variable (cfg env) in
/-- A callback call leaves plan and slot alone. -/
theorem limitCall_frame (call : LimitCall) (s : TrackerState) :
    jobOf (limitCall cfg env call s).guide=jobOf s.guide ∧
      (limitCall cfg env call s).pendingCmd=s.pendingCmd := by
  have hrefresh : ∀ cbs,jobOf (applyCurrentWaypoint cfg env cbs s.guide)=jobOf s.guide := by
    intro cbs
    obtain ⟨hm,hpath,hidx,_,_⟩ := applyCurrentWaypoint_progress cfg env cbs s.guide
    dsimp only [jobOf]
    rw [hm,hpath,hidx]
  cases call with
  | add name => exact ⟨hrefresh _,rfl⟩
  | remove id =>
    dsimp only [limitCall,removeSpeedLimitCb]
    split_ifs
    · exact ⟨hrefresh _,rfl⟩
    · exact ⟨rfl,rfl⟩

variable (cfg) in
/-- What an operation does to the state seen from outside, given the state its
step finds after reading the slot. -/
theorem planOf_apply (s : TrackerState) (op : TrackerOp) :
    ∃ arrived lapsed,planOf (apply cfg s op)=(planOf s).next arrived lapsed op ∧
      ∀ env dt,op=.step env dt → (arrived ↔ Arrived cfg env (consumePending cfg env s)) ∧
        (lapsed ↔ Lapsed cfg env (consumePending cfg env s)) := by
  have hsend : ∀ (t : TrackerState) (c : Command),t.guide=s.guide →
      waiting t.pendingCmd=some c → op.command?=some c → ¬op.Consumes →
      planOf t=(planOf s).next False False op := by
    intro t c hguide hwaiting hcommand hkeep
    dsimp only [planOf,Plan.next,remember]
    rw [hguide,hwaiting,hcommand,if_neg hkeep,if_neg hkeep]
  cases op with
  | sendPos path =>
    refine ⟨False,False,?_,fun _ _ h => (nomatch h)⟩
    cases path with
    | nil =>
      dsimp only [Plan.next,remember,TrackerOp.command?]
      rw [if_neg (fun h : TrackerOp.Consumes (.sendPos []) => h),
        if_neg (fun h : TrackerOp.Consumes (.sendPos []) => h)]
      rfl
    | cons wp rest => exact hsend _ _ rfl rfl rfl (fun h => h)
  | sendVel vel yaw yawRate frame =>
    exact ⟨False,False,hsend _ _ rfl rfl rfl (fun h => h),fun _ _ h => (nomatch h)⟩
  | sendZeroVel =>
    exact ⟨False,False,hsend _ _ rfl rfl rfl (fun h => h),fun _ _ h => (nomatch h)⟩
  | limit env call =>
    refine ⟨False,False,?_,fun _ _ h => (nomatch h)⟩
    obtain ⟨hjob,hslot⟩ := limitCall_frame cfg env call s
    dsimp only [Plan.next,remember,TrackerOp.command?,apply,planOf]
    rw [if_neg (fun h : TrackerOp.Consumes (.limit env call) => h),
      if_neg (fun h : TrackerOp.Consumes (.limit env call) => h),hjob,hslot]
  | step env dt =>
    refine ⟨Arrived cfg env (consumePending cfg env s),Lapsed cfg env (consumePending cfg env s),?_,
      fun env' dt' h => ?_⟩
    · dsimp only [Plan.next,remember,TrackerOp.command?,apply,onStep]
      by_cases hshort : dt<1e-6
      · have hkeep : ¬TrackerOp.Consumes (.step env dt) := fun h => h hshort
        rw [if_pos hshort,if_neg hkeep,if_neg hkeep]
      · have hread : TrackerOp.Consumes (.step env dt) := hshort
        rw [if_neg hshort,if_pos hread,if_pos hread]
        dsimp only [planOf]
        rw [controlStep_job,controlStep_pendingCmd,consumePending_waiting,consumePending_job]
        rfl
    · obtain ⟨rfl,rfl⟩ := TrackerOp.step.inj h
      exact ⟨Iff.rfl,Iff.rfl⟩

/-- The latest command is in the slot until a step consumes it. -/
theorem waiting_apply (s : TrackerState) (op : TrackerOp) :
    waiting (apply cfg s op).pendingCmd=remember (waiting s.pendingCmd) op := by
  obtain ⟨_,_,hplan,_⟩ := planOf_apply cfg s op
  exact congrArg Plan.waiting hplan

variable (cfg) in
/-- Over every run the slot holds the latest command. -/
theorem waiting_run (s : TrackerState) (ops : List TrackerOp) :
    waiting (runFrom (apply cfg) s ops).pendingCmd=ops.foldl remember (waiting s.pendingCmd) := by
  induction ops generalizing s with
  | nil => rfl
  | cons op rest ih => rw [runFrom_cons,ih,waiting_apply,List.foldl_cons]

/-- A position job is unfinished, and no other job is. -/
def FinishedFits (g : Guidance) : Prop := g.posCmdFinished=false ↔ g.currentMode=.position

/-- Reading the slot keeps the arrival flag in step with the mode. -/
theorem consumePending_finished (h : FinishedFits s.guide) :
    FinishedFits (consumePending cfg env s).guide := by
  dsimp only [consumePending]
  cases hmode : s.pendingCmd.mode with
  | none => exact h
  | position =>
    rw [if_neg (by simp)]
    dsimp only [applyPendingCommand,FinishedFits]
    rw [hmode]
    obtain ⟨hm,_,_,hf⟩ := applyPath_progress cfg env s.speedLimitCbs
      s.guide s.pendingCmd.waypoints
    exact iff_of_true hf hm
  | velocity =>
    rw [if_neg (by simp)]
    dsimp only [applyPendingCommand,applyVelocity,FinishedFits]
    rw [hmode]
    exact iff_of_false (fun hf => (nomatch hf)) (fun hm => (nomatch hm))

/-- A control step keeps the arrival flag in step with the mode. -/
theorem controlStep_finished {dt : ℝ} (h : FinishedFits s.guide) :
    FinishedFits (controlStep cfg env dt s).1.guide := by
  dsimp only [controlStep]
  cases hmode : s.guide.currentMode with
  | none => exact h
  | position =>
    obtain ⟨hm,_,_,hf⟩ := autoHeadingUpdate_progress cfg env s.guide
    by_cases harrived : Arrived cfg env s
    · by_cases hmore : s.guide.currentWpIdx+1<s.guide.targetWaypoints.length
      · obtain ⟨hm',_,_,hf',_⟩ := applyCurrentWaypoint_progress cfg env s.speedLimitCbs
          { autoHeadingUpdate cfg env s.guide with currentWpIdx := s.guide.currentWpIdx+1 }
        dsimp only
        rw [positionStep_moves harrived hmore,FinishedFits,hm',hf']
        dsimp only
        rw [hm,hf]
        exact h
      · dsimp only
        rw [positionStep_ends harrived hmore]
        exact iff_of_false (fun hf => (nomatch hf)) (fun hm => (nomatch hm))
    · dsimp only
      rw [positionStep_tracks harrived,FinishedFits,hm,hf]
      exact h
  | velocity =>
    have hfinished : ¬s.guide.posCmdFinished=false := fun hf => by
      rw [h.mp hf] at hmode
      cases hmode
    dsimp only [velocityStep]
    split_ifs
    · exact iff_of_false hfinished (fun hm => (nomatch hm))
    · exact h

/-- Every operation keeps the arrival flag in step with the mode. -/
theorem apply_finished (op : TrackerOp) (h : FinishedFits s.guide) :
    FinishedFits (apply cfg s op).guide := by
  have hrefresh : ∀ env cbs,FinishedFits (applyCurrentWaypoint cfg env cbs s.guide) := by
    intro env cbs
    obtain ⟨hm,_,_,hf,_⟩ := applyCurrentWaypoint_progress cfg env cbs s.guide
    rw [FinishedFits,hm,hf]
    exact h
  cases op with
  | sendPos path => cases path <;> exact h
  | sendVel vel yaw yawRate frame => exact h
  | sendZeroVel => exact h
  | step env dt =>
    dsimp only [apply,onStep]
    split_ifs
    · exact h
    · exact controlStep_finished (consumePending_finished h)
  | limit env call =>
    cases call with
    | add name => exact hrefresh env _
    | remove id =>
      dsimp only [apply,limitCall,removeSpeedLimitCb]
      split_ifs
      · exact hrefresh env _
      · exact h

/-- Two trackers differ at most in their slots. -/
def SameButSlot (s t : TrackerState) : Prop := t={ s with pendingCmd := t.pendingCmd }

/-- Two trackers differ at most in fields of the slot that will not be read. -/
structure SameCommand (s t : TrackerState) : Prop where
  /-- Everything else agrees. -/
  rest : SameButSlot s t
  /-- The same command is waiting. -/
  slot : waiting t.pendingCmd=waiting s.pendingCmd

variable (cfg env) in
/-- What reading the slot does depends on the waiting command alone. -/
theorem applyPendingCommand_congr {cmd cmd' : PendingCmd} (cbs : List LimitCb) (g : Guidance)
    (h : waiting cmd'=waiting cmd) (hsome : cmd.mode≠.none) :
    cmd'.mode=cmd.mode ∧
      applyPendingCommand cfg env cbs cmd' g=applyPendingCommand cfg env cbs cmd g := by
  dsimp only [waiting] at h
  cases hm : cmd.mode with
  | none => exact absurd hm hsome
  | position =>
    rw [hm] at h
    cases hm' : cmd'.mode with
    | none => rw [hm'] at h; cases h
    | velocity => rw [hm'] at h; cases h
    | position =>
      rw [hm'] at h
      have hpath := Command.path.inj (Option.some.inj h)
      refine ⟨rfl,?_⟩
      dsimp only [applyPendingCommand]
      rw [hm,hm']
      dsimp only
      rw [hpath]
  | velocity =>
    rw [hm] at h
    cases hm' : cmd'.mode with
    | none => rw [hm'] at h; cases h
    | position => rw [hm'] at h; cases h
    | velocity =>
      rw [hm'] at h
      obtain ⟨hvec,hyaw,hrate,hframe⟩ := Command.velocity.inj (Option.some.inj h)
      refine ⟨rfl,?_⟩
      dsimp only [applyPendingCommand]
      rw [hm,hm']
      dsimp only [applyVelocity]
      rw [hvec,hyaw,hrate,hframe]

variable (cfg env) in
/-- Trackers with the same command read the same. -/
theorem consumePending_sameCommand (h : SameCommand s t) :
    SameCommand (consumePending cfg env s) (consumePending cfg env t) := by
  refine ⟨?_,consumePending_waiting.trans consumePending_waiting.symm⟩
  have hslot := h.slot
  rw [SameButSlot,h.rest]
  dsimp only [consumePending]
  by_cases hnone : s.pendingCmd.mode=.none
  · have hnone' : t.pendingCmd.mode=.none := by
      dsimp only [waiting] at hslot
      rw [hnone] at hslot
      cases hm' : t.pendingCmd.mode with
      | none => rfl
      | position => rw [hm'] at hslot; cases hslot
      | velocity => rw [hm'] at hslot; cases hslot
    rw [if_pos hnone,if_pos hnone']
  · obtain ⟨hmode,hguide⟩ := applyPendingCommand_congr cfg env
      s.speedLimitCbs s.guide hslot hnone
    have hsome : ¬t.pendingCmd.mode=.none := by
      rw [hmode]
      exact hnone
    rw [if_neg hnone,if_neg hsome]
    dsimp only
    rw [hguide,hmode]

variable (cfg env) in
/-- Trackers with the same command take the same step. -/
theorem onStep_sameCommand (dt : ℝ) (h : SameCommand s t) :
    SameCommand (onStep cfg env dt s).1 (onStep cfg env dt t).1 ∧
      (onStep cfg env dt t).2=(onStep cfg env dt s).2 := by
  dsimp only [onStep]
  by_cases hshort : dt<1e-6
  · rw [if_pos hshort,if_pos hshort]
    exact ⟨h,rfl⟩
  rw [if_neg hshort,if_neg hshort]
  have hread := consumePending_sameCommand cfg env h
  have hcontrol := controlStep_slot cfg env dt (consumePending cfg env s)
    (consumePending cfg env t).pendingCmd
  have hrest : consumePending cfg env t={ consumePending cfg env s with
    pendingCmd := (consumePending cfg env t).pendingCmd } := hread.rest
  rw [←hrest] at hcontrol
  rw [hcontrol]
  refine ⟨⟨rfl,?_⟩,rfl⟩
  rw [controlStep_pendingCmd]
  exact hread.slot

variable (cfg) in
/-- Operations that do not read the slot keep the rest in agreement. -/
theorem apply_sameButSlot (op : TrackerOp) (hkeep : ¬op.Consumes) (h : SameButSlot s t) :
    SameButSlot (apply cfg s op) (apply cfg t op) ∧ issuedBy cfg s op=[] := by
  rw [SameButSlot,h]
  cases op with
  | sendPos path => cases path <;> exact ⟨rfl,rfl⟩
  | sendVel vel yaw yawRate frame => exact ⟨rfl,rfl⟩
  | sendZeroVel => exact ⟨rfl,rfl⟩
  | step env dt =>
    have hshort : dt<1e-6 := not_not.mp hkeep
    dsimp only [apply,issuedBy,onStep]
    rw [if_pos hshort,if_pos hshort]
    exact ⟨rfl,rfl⟩
  | limit env call =>
    cases call with
    | add name => exact ⟨rfl,rfl⟩
    | remove id =>
      dsimp only [apply,limitCall,removeSpeedLimitCb,issuedBy]
      split_ifs <;> exact ⟨rfl,rfl⟩

/-- Trackers with the same command stay so over every operation and issue the same. -/
theorem apply_sameCommand (op : TrackerOp) (h : SameCommand s t) :
    SameCommand (apply cfg s op) (apply cfg t op) ∧ issuedBy cfg s op=issuedBy cfg t op := by
  have hslot : waiting (apply cfg t op).pendingCmd=waiting (apply cfg s op).pendingCmd := by
    rw [waiting_apply,waiting_apply,h.slot]
  cases op with
  | step env dt =>
    obtain ⟨hstep,hout⟩ := onStep_sameCommand cfg env dt h
    exact ⟨hstep,hout.symm⟩
  | sendPos path =>
    exact ⟨⟨(apply_sameButSlot _ (.sendPos path) (fun hc => hc) h.rest).1,hslot⟩,rfl⟩
  | sendVel vel yaw yawRate frame =>
    exact ⟨⟨(apply_sameButSlot _ (.sendVel vel yaw yawRate frame) (fun hc => hc) h.rest).1,hslot⟩,rfl⟩
  | sendZeroVel =>
    exact ⟨⟨(apply_sameButSlot _ .sendZeroVel (fun hc => hc) h.rest).1,hslot⟩,rfl⟩
  | limit env call =>
    exact ⟨⟨(apply_sameButSlot _ (.limit env call) (fun hc => hc) h.rest).1,hslot⟩,rfl⟩

variable (cfg) in
/-- Until the slot is read, trackers that differ in it issue nothing and stay equal
elsewhere. -/
theorem run_sameButSlot (mid : List TrackerOp) (hkeep : ∀ op∈mid,¬op.Consumes)
    (h : SameButSlot s t) :
    SameButSlot (runFrom (apply cfg) s mid) (runFrom (apply cfg) t mid) ∧
      issuedFrom cfg s mid=[] := by
  induction mid generalizing s t with
  | nil => exact ⟨h,rfl⟩
  | cons op rest ih =>
    obtain ⟨hop,hnothing⟩ := apply_sameButSlot cfg op (hkeep op List.mem_cons_self) h
    obtain ⟨hrest,hissued⟩ := ih (fun o ho => hkeep o (List.mem_cons_of_mem _ ho)) hop
    refine ⟨hrest,?_⟩
    dsimp only [issuedFrom,outputs] at hissued ⊢
    rw [List.flatten_cons,hnothing,hissued,List.append_nil]

/-- The commands issued by a run that is split in two. -/
theorem issuedFrom_append (s : TrackerState) (first second : List TrackerOp) :
    issuedFrom cfg s (first++second)=
      issuedFrom cfg s first++issuedFrom cfg (runFrom (apply cfg) s first) second := by
  dsimp only [issuedFrom]
  rw [outputs_append,List.flatten_append]

variable (cfg) in
/-- A command changes nothing but the slot. -/
theorem sameButSlot_send {op : TrackerOp} (h : op.command?.isSome=true) (s : TrackerState) :
    SameButSlot (apply cfg s op) s ∧ ¬op.Consumes ∧
      ∀ t,waiting (apply cfg t op).pendingCmd=op.command? := by
  refine ⟨?_,?_,fun t => ?_⟩
  · cases op with
    | sendPos path => cases path <;> rfl
    | sendVel vel yaw yawRate frame => rfl
    | sendZeroVel => rfl
    | step env dt => cases h
    | limit env call => cases h
  · cases op with
    | step env dt => cases h
    | _ => exact fun hc => hc
  · obtain ⟨c,hc⟩ := Option.isSome_iff_exists.mp h
    rw [waiting_apply,remember,hc]

variable (cfg) in
/-- A command that is overwritten before a step reads it has no effect: the run
without it issues the same commands and ends in the same state, but for fields of
the slot that will not be read. -/
theorem overwritten_no_effect (s : TrackerState) {a b : TrackerOp}
    (ha : a.command?.isSome=true) (hb : b.command?.isSome=true) (mid later : List TrackerOp)
    (hmid : ∀ op∈mid,¬op.Consumes) :
    issuedFrom cfg s (a::(mid++b::later))=issuedFrom cfg s (mid++b::later) ∧
      SameCommand (runFrom (apply cfg) s (a::(mid++b::later)))
        (runFrom (apply cfg) s (mid++b::later)) := by
  obtain ⟨hsent,hkeep,_⟩ := sameButSlot_send cfg ha s
  obtain ⟨_,hkeep',hslot⟩ := sameButSlot_send cfg hb s
  obtain ⟨hrest,hnothing⟩ := run_sameButSlot cfg mid hmid hsent
  obtain ⟨_,hnothing'⟩ := run_sameButSlot cfg mid hmid (rfl : SameButSlot s s)
  have hnone : issuedBy cfg s a=[] := (apply_sameButSlot _ a hkeep (rfl : SameButSlot s s)).2
  obtain ⟨hboth,_⟩ := apply_sameButSlot cfg b hkeep' hrest
  have hsame : SameCommand (apply cfg (runFrom (apply cfg) (apply cfg s a) mid) b)
      (apply cfg (runFrom (apply cfg) s mid) b) := ⟨hboth,(hslot _).trans (hslot _).symm⟩
  have hsilent : ∀ t,issuedBy cfg t b=[] := fun t =>
    (apply_sameButSlot _ b hkeep' (rfl : SameButSlot t t)).2
  have hissued : issuedBy cfg (runFrom (apply cfg) (apply cfg s a) mid) b=
      issuedBy cfg (runFrom (apply cfg) s mid) b := (hsilent _).trans (hsilent _).symm
  obtain ⟨houtputs,hrun⟩ := outputs_eq_of_forall (apply cfg) (issuedBy cfg)
    (R := SameCommand) (fun x y op h => (apply_sameCommand op h).2)
    (fun x y op h => (apply_sameCommand op h).1) later hsame
  constructor
  · have hhead : issuedFrom cfg s (a::(mid++b::later))=
        issuedFrom cfg (apply cfg s a) (mid++b::later) := by
      dsimp only [issuedFrom,outputs]
      rw [List.flatten_cons,hnone,List.nil_append]
    rw [hhead,issuedFrom_append,issuedFrom_append,hnothing,hnothing']
    dsimp only [issuedFrom,outputs]
    rw [List.flatten_cons,List.flatten_cons,hissued,houtputs]
  · rw [runFrom_cons,runFrom_append,runFrom_append,runFrom_cons,runFrom_cons]
    exact hrun

/-- A state of a run follows the commands that led to it. -/
structure FollowsCommands (cfg : TrackerConfig) (ops : List TrackerOp) (s : TrackerState) :
    Prop where
  /-- The slot holds the latest command that no step has consumed. -/
  latest : waiting s.pendingCmd=ops.foldl remember none
  /-- A step takes over exactly this command. -/
  executes : ∀ env,Executes env s.guide (consumePending cfg env s).guide (ops.foldl remember none)
  /-- In position mode the path is not empty and the index in range. -/
  inRange : s.guide.currentMode=.position →
    s.guide.targetWaypoints≠[] ∧ s.guide.currentWpIdx<s.guide.targetWaypoints.length
  /-- The arrival flag is down exactly while a position job is in progress. -/
  finished : s.guide.posCmdFinished=false ↔ ∃ waypoints idx,jobOf s.guide=.path waypoints idx
  /-- Every operation acts on the plan: a step starts the waiting command, a path moves
  on by one waypoint or ends when the vehicle has arrived, and no other operation
  touches the job. -/
  walks : ∀ op,∃ arrived lapsed,
    planOf (apply cfg s op)=(planOf s).next arrived lapsed op ∧
      ∀ env dt,op=.step env dt → (arrived ↔ Arrived cfg env (consumePending cfg env s)) ∧
        (lapsed ↔ Lapsed cfg env (consumePending cfg env s))

/-- The job is a path exactly in position mode. -/
theorem jobOf_path_iff (g : Guidance) :
    (∃ waypoints idx,jobOf g=.path waypoints idx) ↔ g.currentMode=.position := by
  dsimp only [jobOf]
  cases g.currentMode with
  | none => exact iff_of_false (fun ⟨_,_,h⟩ => (nomatch h)) (fun h => (nomatch h))
  | velocity => exact iff_of_false (fun ⟨_,_,h⟩ => (nomatch h)) (fun h => (nomatch h))
  | position => exact iff_of_true ⟨_,_,rfl⟩ rfl

/-- Over every run the tracker executes the latest command and walks its path
without skipping, and commands overwritten before they are read have no effect. -/
theorem follows_commands (cfg : TrackerConfig) (env₀ : Surroundings) (t₀ : ℝ)
    (ops : List TrackerOp) :
    FollowsCommands cfg ops (runFrom (apply cfg) (onStart env₀ (fresh t₀)) ops) ∧
      ∀ a b : TrackerOp,a.command?.isSome=true → b.command?.isSome=true →
        ∀ mid later,(∀ op∈mid,¬op.Consumes) →
        issuedFrom cfg (onStart env₀ (fresh t₀)) (ops++a::(mid++b::later))=
            issuedFrom cfg (onStart env₀ (fresh t₀)) (ops++(mid++b::later)) ∧
          SameCommand (runFrom (apply cfg) (onStart env₀ (fresh t₀)) (ops++a::(mid++b::later)))
            (runFrom (apply cfg) (onStart env₀ (fresh t₀)) (ops++(mid++b::later))) := by
  have hlatest := waiting_run cfg (onStart env₀ (fresh t₀)) ops
  have howned := run_owned cfg env₀ t₀ ops
  have hfinished : FinishedFits (runFrom (apply cfg) (onStart env₀ (fresh t₀)) ops).guide :=
    run_invariant (P := fun s : TrackerState => FinishedFits s.guide)
      (fun _ op h => apply_finished op h) ops
      (iff_of_false (fun hf => (nomatch hf)) (fun hm => (nomatch hm)))
  refine ⟨⟨hlatest,fun env => ?_,fun hmode => ?_,?_,fun op => planOf_apply _ _ op⟩,
    fun a b ha hb mid later hmid => ?_⟩
  · have hexec := consumePending_executes cfg env
      (s := runFrom (apply cfg) (onStart env₀ (fresh t₀)) ops)
    rw [hlatest] at hexec
    exact hexec
  · obtain ⟨wp,hwp,_⟩ := howned.applied hmode
    obtain ⟨hlt,_⟩ := List.getElem?_eq_some_iff.mp hwp
    exact ⟨List.ne_nil_of_length_pos (Nat.zero_lt_of_lt hlt),hlt⟩
  · rw [jobOf_path_iff]
    exact hfinished
  · obtain ⟨hissued,hsame⟩ := overwritten_no_effect cfg
      (runFrom (apply cfg) (onStart env₀ (fresh t₀)) ops) ha hb mid later hmid
    refine ⟨?_,?_⟩
    · rw [issuedFrom_append,issuedFrom_append _ ops,hissued]
    · rw [runFrom_append,runFrom_append]
      exact hsame

end

end Dankong.Tracker

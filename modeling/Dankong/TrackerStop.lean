import Dankong.ThreadRunner
import Dankong.TrackerSpeedLimit

/-!
# Stopping the threaded tracker

The tracker's control step runs on the worker of the thread runner, split at
the point where the command slot has been read. Stopping clears the running
flag and hands over the zero command, but does not wait for a step that has
already passed the flag, and that step then hands its velocity over after the
zero command.
-/

namespace Dankong.Tracker

open ThreadRunner Runs StateUtils

/-- Commands a caller can send while the loop runs. -/
inductive TrackerMsg
  /-- `send_pos_cmd`. -/
  | pos (path : List TrackerWaypoint)
  /-- `send_vel_cmd`. -/
  | vel (vel : Vec3 ℝ) (yaw yawRate : Option ℝ) (frame : CmdFrame)
  /-- `send_zero_vel_cmd`. -/
  | zeroVel

noncomputable section

/-- The tracker as the body of a control thread with step time `dt`. -/
def trackerBody (cfg : TrackerConfig) (dt : ℝ) :
    Body TrackerState Surroundings TrackerMsg (Vec4 ℝ) where
  onStart := onStart
  onStop env s := (onStop env s).1
  stopOut := .zero
  send
    | .pos path,s => sendPosCmd path s
    | .vel vel yaw yawRate frame,s => sendVelCmd vel yaw yawRate frame s
    | .zeroVel,s => sendZeroVelCmd s
  read env s := if dt<1e-6 then s else consumePending cfg env s
  compute env s := if dt<1e-6 then (s,[]) else controlStep cfg env dt s

end

/-- Reading and computing without interruption is one `on_step`. -/
theorem trackerBody_onStep (cfg : TrackerConfig) (dt : ℝ) (env : Surroundings)
    (s : TrackerState) :
    (trackerBody cfg dt).compute env ((trackerBody cfg dt).read env s)=onStep cfg env dt s := by
  dsimp only [onStep]
  dsimp only [trackerBody]
  split <;> rfl

/-- The command of the stopping caller is the one of `on_stop`. -/
theorem trackerBody_onStop (cfg : TrackerConfig) (dt : ℝ) (env : Surroundings)
    (s : TrackerState) :
    onStop env s=((trackerBody cfg dt).onStop env s,[(trackerBody cfg dt).stopOut]) := rfl

/-- In every interleaving of starts, stops, sent commands and worker actions in
which each stop hands over while no control step still has a velocity to hand
over, a returned stop leaves the zero command as the last one handed to the
runtime until the next start; before the first start there is no command. -/
theorem stopped_tracker_at_zero (cfg : TrackerConfig) (dt t₀ : ℝ)
    (actions : List (Action Surroundings TrackerMsg))
    (hg : Guarded (ThreadRunner.step (trackerBody cfg dt)) StopsBetweenSteps
      { shared := fresh t₀ } actions)
    (hstopped : (runFrom (ThreadRunner.step (trackerBody cfg dt))
      { shared := fresh t₀ } actions).stopped=true) :
    (runFrom (ThreadRunner.step (trackerBody cfg dt)) { shared := fresh t₀ } actions).handed.head?=
      if (runFrom (ThreadRunner.step (trackerBody cfg dt))
        { shared := fresh t₀ } actions).started=true
      then some .zero else none :=
  stopped_final (trackerBody cfg dt) (fresh t₀) actions hg hstopped

noncomputable section

/-- Start, a velocity command, one full control step, then a stop. -/
def orderlyStop : List (Action Surroundings TrackerMsg) :=
  [.start still,.send (.vel ⟨1,0,0⟩ none none .body),.test,.read still,.compute still,.handOver,
    .stopClear,.stopHandOver still]

/-- The same actions with the stop between the computation and its hand-over. -/
def overtakingStop : List (Action Surroundings TrackerMsg) :=
  [.start still,.send (.vel ⟨1,0,0⟩ none none .body),.test,.read still,.compute still,
    .stopClear,.stopHandOver still,.handOver]

end

/-- A stop between two steps leaves the zero command as the last one. -/
theorem orderlyStop_at_zero :
    (runFrom (ThreadRunner.step (trackerBody {} 1)) { shared := fresh 0 } orderlyStop).handed.head?=
      if (runFrom (ThreadRunner.step (trackerBody {} 1))
        { shared := fresh 0 } orderlyStop).started=true
      then some .zero else none := by
  refine stopped_tracker_at_zero {} 1 0 orderlyStop ?_ rfl
  exact ⟨trivial,trivial,trivial,trivial,trivial,trivial,trivial,fun _ => Or.inl rfl,trivial⟩

/-- The first control step towards a forward velocity of one commands it. -/
theorem forward_command :
    (controlStep {} still 1 (consumePending {} still
      (sendVelCmd ⟨1,0,0⟩ none none .body (onStart still (fresh 0))))).2=[⟨1,0,0,0⟩] := by
  have htimeout : ¬((0.5 : ℝ)<0) := by norm_num
  have hspeed : ¬((3.0 : ℝ)<1) := by norm_num
  have hacc : ¬((2.0 : ℝ)<1) := by norm_num
  have hjerk : ¬((1000.0 : ℝ)<1) := by norm_num
  have hzero : ∀ b : ℝ,0≤b → clamp 0 (-b) b=0 := fun b hb => clamp_of_mem (by linarith) hb
  simp [controlStep,consumePending,sendVelCmd,applyPendingCommand,applyVelocity,onStart,fresh,
    still,Vec3.zero,Vec4.zero,velocityStep,htimeout,computeVelControl,yawError,bodyTargetVel,
    applyKinematicConstraints,limitPair,hspeed,limitAccel,limitJerk,hypot,
    Motion.resetAllPids,hacc,hjerk]
  rw [hzero 1 (by norm_num),hzero 0.8 (by norm_num),hzero 1.5 (by norm_num),
    hzero 1000.0 (by norm_num),hzero 2.0 (by norm_num)]
  exact ⟨rfl,rfl⟩

/-- After the overtaking stop the step's velocity is the last command. -/
theorem overtakingStop_handed :
    (runFrom (ThreadRunner.step (trackerBody {} 1)) { shared := fresh 0 } overtakingStop).handed=
      [⟨1,0,0,0⟩,.zero] := by
  have hdt : ¬((1 : ℝ)<1e-6) := by norm_num
  have hcmd := forward_command
  simp only [overtakingStop,runFrom_cons,runFrom_nil,ThreadRunner.step,trackerBody,if_neg hdt,
    Bool.false_eq_true,or_self,if_false,if_true,hcmd,List.reverse_singleton,List.singleton_append]

/-- A stop that overtakes a step is followed by that step's velocity, so a
returned stop does not leave the zero command as the last one in every
interleaving. -/
theorem overtakingStop_moves :
    ¬∀ (cfg : TrackerConfig) (dt t₀ : ℝ) (actions : List (Action Surroundings TrackerMsg)),
      (runFrom (ThreadRunner.step (trackerBody cfg dt))
        { shared := fresh t₀ } actions).stopped=true →
      (runFrom (ThreadRunner.step (trackerBody cfg dt))
        { shared := fresh t₀ } actions).handed.head?=
        if (runFrom (ThreadRunner.step (trackerBody cfg dt))
          { shared := fresh t₀ } actions).started=true
        then some .zero else none := by
  intro h
  have hlast := h {} 1 0 overtakingStop rfl
  rw [overtakingStop_handed] at hlast
  have hx : (1 : ℝ)=0 := congrArg Vec4.x (Option.some.inj hlast)
  exact one_ne_zero hx

end Dankong.Tracker

import Dankong.MavlinkTelemetry

/-!
# The stored body velocity

The position and velocity handler turns the velocity back by the attitude of the
program, which ends in east, north, up, but it turns the numbers of the report,
which are north, east, down. The odometry turns the converted velocity.
-/

namespace Dankong.Mavlink

open Runs

/-- The stored body velocity is the velocity of the report, turned back by the
stored attitude, and it is what the odometry publishes. -/
structure BodyVelocityRight (ctx : RobotContext) (velocity : Ned) : Prop where
  stored : ctx.velBody=ctx.orientation.conj.rotate velocity.toEnu
  published : ∀ odom,publishOdom ctx=some odom → odom.linear=ctx.velBody

/-- Reports are taken over, and the attitude is a unit quaternion. -/
structure Attached (ctx : RobotContext) : Prop where
  useFcuEnu : ctx.useFcuEnu=true
  unit : ctx.orientation.normSq=1

/-- A report that is taken over. -/
theorem onPositionVelocityNed_eq {ctx : RobotContext} (huse : ctx.useFcuEnu=true) (now : ℝ)
    (posVel : PositionVelocityNed) :
    onPositionVelocityNed now ctx posVel=
      { ctx with
        posEnu := posVel.position.toEnu
        odomOk := true
        velEnu := posVel.velocity.toEnu
        velBody := ctx.orientation.conj.rotate posVel.velocity.raw
        poseHistory := ctx.poseHistory.pushPos now posVel.position.toEnu } := by
  rw [onPositionVelocityNed,if_neg (by rw [huse]; exact Bool.noConfusion)]

/-- An attitude that is taken over is a unit quaternion. -/
theorem attached_onAttitudeEuler {ctx : RobotContext} (huse : ctx.useFcuEnu=true) (now : ℝ)
    (euler : EulerAngle) : Attached (onAttitudeEuler now ctx euler) := by
  rw [onAttitudeEuler,if_neg (by rw [huse]; exact Bool.noConfusion)]
  exact ⟨huse,normSq_qEnuFlu euler⟩

/-- Further reports keep it so. -/
theorem attached_onReport (ctx : RobotContext) (report : ℝ×Report) (h : Attached ctx) :
    Attached (onReport ctx report) := by
  obtain ⟨now,report⟩ := report
  cases report with
  | isConnected b => exact ⟨h.useFcuEnu,h.unit⟩
  | angularVelocityBody rates => exact ⟨h.useFcuEnu,h.unit⟩
  | positionVelocityNed posVel =>
    change Attached (onPositionVelocityNed now ctx posVel)
    rw [onPositionVelocityNed_eq h.useFcuEnu]
    exact ⟨h.useFcuEnu,h.unit⟩
  | attitudeEuler euler => exact attached_onAttitudeEuler h.useFcuEnu now euler

/-- Reported and converted numbers agree only for a level velocity to the northeast
or to the southwest. -/
theorem raw_eq_toEnu_iff (v : Ned) : v.raw=v.toEnu ↔ v.north=v.east ∧ v.down=0 := by
  rw [Ned.raw,Ned.toEnu,Vec3.mk.injEq]
  constructor
  · rintro ⟨hnorth,_,hdown⟩
    exact ⟨hnorth,by linarith⟩
  · rintro ⟨hnorth,hdown⟩
    refine ⟨hnorth,hnorth.symm,?_⟩
    rw [hdown,neg_zero]

/-- One report of a velocity, at any unit attitude. -/
theorem bodyVelocityRight_iff {ctx : RobotContext} (h : Attached ctx) (now : ℝ)
    (posVel : PositionVelocityNed) :
    BodyVelocityRight (onPositionVelocityNed now ctx posVel) posVel.velocity ↔
      posVel.velocity.north=posVel.velocity.east ∧ posVel.velocity.down=0 := by
  rw [onPositionVelocityNed_eq h.useFcuEnu,←raw_eq_toEnu_iff]
  constructor
  · intro hright
    exact (Quat.rotateBack_inj h.unit _ _).mp hright.stored
  · intro hraw
    refine ⟨?_,?_⟩
    · dsimp only
      rw [hraw]
    · intro odom hodom
      rw [publishOdom] at hodom
      split_ifs at hodom
      rw [←Option.some.inj hodom]
      dsimp only
      rw [hraw]

/-- Whatever is reported after an attitude, a velocity is stored in the body frame
and as it is published exactly if it is level with equal parts to north and east. -/
theorem velBody_iff (start now : ℝ) (ctx : RobotContext) (huse : ctx.useFcuEnu=true)
    (euler : EulerAngle) (between : List (ℝ×Report)) (posVel : PositionVelocityNed) :
    BodyVelocityRight (onPositionVelocityNed now
        (runFrom onReport (onAttitudeEuler start ctx euler) between) posVel) posVel.velocity ↔
      posVel.velocity.north=posVel.velocity.east ∧ posVel.velocity.down=0 := by
  have hattached : Attached (runFrom onReport (onAttitudeEuler start ctx euler) between) :=
    run_invariant attached_onReport between (attached_onAttitudeEuler huse start euler)
  exact bodyVelocityRight_iff hattached now posVel

/-- A level flight to the northeast, heading north. -/
theorem northeast_velBody_iff :
    BodyVelocityRight (onPositionVelocityNed 1
        (runFrom onReport (onAttitudeEuler 0 silent ⟨0,0,0⟩) [(0,.isConnected true)])
        ⟨⟨0,0,0⟩,⟨1,1,0⟩⟩) ⟨1,1,0⟩ ↔ (1 : ℝ)=1 ∧ (0 : ℝ)=0 :=
  velBody_iff 0 1 silent rfl ⟨0,0,0⟩ [(0,.isConnected true)] ⟨⟨0,0,0⟩,⟨1,1,0⟩⟩

/-- A level flight to the north, heading north, is stored as a flight to the side. -/
theorem northward_velBody_wrong :
    ¬BodyVelocityRight (onPositionVelocityNed 1 (onAttitudeEuler 0 silent ⟨0,0,0⟩)
      ⟨⟨0,0,0⟩,⟨1,0,0⟩⟩) ⟨1,0,0⟩ := by
  intro hright
  have hlevel := (bodyVelocityRight_iff (attached_onAttitudeEuler rfl 0 ⟨0,0,0⟩) 1
    ⟨⟨0,0,0⟩,⟨1,0,0⟩⟩).mp hright
  exact one_ne_zero hlevel.1

end Dankong.Mavlink

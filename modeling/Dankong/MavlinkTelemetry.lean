import Dankong.Attitude
import Dankong.PoseHistory
import Dankong.Runs

/-!
# Telemetry of the flight controller

The handlers of `MavlinkFeature` that turn position, velocity and attitude
reports in the frames of the flight controller (north, east, down, and forward,
right, down) into those of the program (east, north, up, and forward, left, up),
and the odometry that `MavrosBridge` publishes from what they stored.
-/

namespace Dankong.Mavlink

open StateUtils Runs Real Matrix

/-- A vector in north, east, down. -/
structure Ned where
  /-- North. -/
  north : ℝ
  /-- East. -/
  east : ℝ
  /-- Down. -/
  down : ℝ

/-- `PositionVelocityNed`. -/
structure PositionVelocityNed where
  /-- Position from the local origin. -/
  position : Ned
  /-- Velocity. -/
  velocity : Ned

/-- `EulerAngle`, in degrees. -/
structure EulerAngle where
  /-- Roll. -/
  rollDeg : ℝ
  /-- Pitch. -/
  pitchDeg : ℝ
  /-- Yaw from north, clockwise. -/
  yawDeg : ℝ

/-- The part of `RobotContext` that these handlers and the odometry use. -/
structure RobotContext where
  /-- `use_fcu_enu`. -/
  useFcuEnu : Bool := true
  /-- `fcu_connected`. -/
  fcuConnected : Bool := false
  /-- `pos_enu`. -/
  posEnu : Vec3 ℝ := .zero
  /-- `vel_enu`. -/
  velEnu : Vec3 ℝ := .zero
  /-- `vel_body`. -/
  velBody : Vec3 ℝ := .zero
  /-- `vel_angular_body`. -/
  velAngularBody : Vec3 ℝ := .zero
  /-- `orientation`. -/
  orientation : Quat
  /-- `odom_ok`. -/
  odomOk : Bool := false
  /-- `yaw_enu`. -/
  yawEnu : ℝ := 0
  /-- `pitch`. -/
  pitch : ℝ := 0
  /-- `roll`. -/
  roll : ℝ := 0
  /-- `yaw_ned`. -/
  yawNed : ℝ := 0
  /-- `pose_history`. -/
  poseHistory : PoseHistory ℝ Quat := .fresh

/-- The odometry message: a pose and a twist in the body frame. -/
structure Odometry where
  /-- `pose.pose.position`. -/
  position : Vec3 ℝ
  /-- `pose.pose.orientation`. -/
  orientation : Quat
  /-- `twist.twist.linear`. -/
  linear : Vec3 ℝ
  /-- `twist.twist.angular`. -/
  angular : Vec3 ℝ

/-- A report of the flight controller. -/
inductive Report
  /-- `subscribe_is_connected`. -/
  | isConnected (isConnected : Bool)
  /-- `subscribe_attitude_angular_velocity_body`. -/
  | angularVelocityBody (rates : Vec3 ℝ)
  /-- `subscribe_position_velocity_ned`. -/
  | positionVelocityNed (posVel : PositionVelocityNed)
  /-- `subscribe_attitude_euler`. -/
  | attitudeEuler (euler : EulerAngle)

/-- East is the second axis, north the first, up against the third. -/
def Ned.toEnu (v : Ned) : Vec3 ℝ := ⟨v.east,v.north,-v.down⟩

/-- The three numbers as they are reported. -/
def Ned.raw (v : Ned) : Vec3 ℝ := ⟨v.north,v.east,v.down⟩

noncomputable section

/-- The position and velocity handler. -/
def onPositionVelocityNed (now : ℝ) (ctx : RobotContext) (posVel : PositionVelocityNed) :
    RobotContext :=
  if ctx.useFcuEnu=false then ctx
  else
    { ctx with
      posEnu := posVel.position.toEnu
      odomOk := true
      velEnu := posVel.velocity.toEnu
      velBody := ctx.orientation.conj.rotate posVel.velocity.raw
      poseHistory := ctx.poseHistory.pushPos now posVel.position.toEnu }

/-- `R_enu_ned`. -/
def matrixEnuNed : Matrix (Fin 3) (Fin 3) ℝ := !![0,1,0;1,0,0;0,0,-1]

/-- `q_enu_ned`. -/
def qEnuNed : Quat := .ofRotationMatrix matrixEnuNed

/-- `q_frd_flu`: half a turn about the forward axis. -/
def qFrdFlu : Quat := ⟨0,1,0,0⟩

/-- Radians of an angle in degrees. -/
def radians (deg : ℝ) : ℝ := deg*(π/180.0)

/-- `q_enu_flu`: the reported attitude between the frames of the program. -/
def qEnuFlu (euler : EulerAngle) : Quat :=
  (qEnuNed.mul (((Quat.aboutZ (radians euler.yawDeg)).mul
    (Quat.aboutY (radians euler.pitchDeg))).mul (Quat.aboutX (radians euler.rollDeg)))).mul qFrdFlu

/-- The attitude handler. -/
def onAttitudeEuler (now : ℝ) (ctx : RobotContext) (euler : EulerAngle) : RobotContext :=
  if ctx.useFcuEnu=false then ctx
  else
    let q := qEnuFlu euler
    let rpyEnu := orientationToEuler q
    { ctx with
      yawEnu := rpyEnu.z
      pitch := rpyEnu.y
      roll := rpyEnu.x
      orientation := q
      poseHistory := ctx.poseHistory.pushQuat now q
      yawNed := radians euler.yawDeg }

/-- One report, with the time at which it is handled. -/
def onReport (ctx : RobotContext) (report : ℝ×Report) : RobotContext :=
  match report.2 with
  | .isConnected b => { ctx with fcuConnected := b }
  | .angularVelocityBody rates => { ctx with velAngularBody := rates }
  | .positionVelocityNed posVel => onPositionVelocityNed report.1 ctx posVel
  | .attitudeEuler euler => onAttitudeEuler report.1 ctx euler

/-- `publish_odom`, once the flight controller is connected. -/
def publishOdom (ctx : RobotContext) : Option Odometry :=
  if ctx.fcuConnected=false then none
  else some {
    position := ctx.posEnu
    orientation := ctx.orientation
    linear := ctx.orientation.conj.rotate ctx.velEnu
    angular := ⟨ctx.velAngularBody.x,-ctx.velAngularBody.y,-ctx.velAngularBody.z⟩ }

end

/-- Half a turn about the diagonal between north and east. -/
theorem qEnuNed_eq : qEnuNed=⟨0,√2/2,√2/2,0⟩ := by
  have hhalf : 2*(0.5/√2)=√2/2 := by
    field_simp
    rw [sq_sqrt (by norm_num)]
    norm_num
  have hroot : 0.5*√2=√2/2 := by rw [mul_comm,mul_half]
  have hentries : qEnuNed=⟨(0-0)*(0.5/√(0-0- -1+1)),0.5*√(0-0- -1+1),(1+1)*(0.5/√(0-0- -1+1)),
      (0+0)*(0.5/√(0-0- -1+1))⟩ :=
    Quat.ofRotationMatrix_of_first (by simp [matrixEnuNed]) (by simp [matrixEnuNed])
      (by simp [matrixEnuNed])
  have hsum : (0 : ℝ)-0- -1+1=2 := by norm_num
  rw [hentries,hsum,hroot,one_add_one_eq_two,hhalf,sub_zero,add_zero,zero_mul]

/-- It is a unit quaternion. -/
theorem normSq_qEnuNed : qEnuNed.normSq=1 := by
  have hsq : √2*√2=2 := mul_self_sqrt (by norm_num)
  rw [qEnuNed_eq]
  simp only [Quat.normSq]
  linear_combination hsq/2

/-- The quaternion of the matrix has this matrix. -/
theorem toRotationMatrix_qEnuNed : qEnuNed.toRotationMatrix=matrixEnuNed := by
  have hsq : √2/2*(√2/2)=1/2 := by
    linear_combination (mul_self_sqrt (show (0 : ℝ)≤2 by norm_num))/4
  rw [qEnuNed_eq]
  simp only [Quat.toRotationMatrix,matrixEnuNed,hsq]
  norm_num

/-- Left and up against right and down. -/
theorem toRotationMatrix_qFrdFlu : qFrdFlu.toRotationMatrix= !![1,0,0;0,-1,0;0,0,-1] := by
  simp only [Quat.toRotationMatrix,qFrdFlu]
  norm_num

/-- The attitude between the frames of the program is a unit quaternion. -/
theorem normSq_qEnuFlu (euler : EulerAngle) : (qEnuFlu euler).normSq=1 := by
  have hfrd : qFrdFlu.normSq=1 := by simp [qFrdFlu,Quat.normSq]
  have hned := normSq_eulerToOrientation (radians euler.rollDeg) (radians euler.pitchDeg)
    (radians euler.yawDeg)
  exact Quat.normSq_mul_eq_one (Quat.normSq_mul_eq_one normSq_qEnuNed hned) hfrd

/-- It is the reported attitude with the pitch turned round and the yaw counted
from east. -/
theorem toRotationMatrix_qEnuFlu (euler : EulerAngle) :
    (qEnuFlu euler).toRotationMatrix=eulerMatrix (radians euler.rollDeg)
      (-radians euler.pitchDeg) (π/2-radians euler.yawDeg) := by
  have hfrd : qFrdFlu.normSq=1 := by simp [qFrdFlu,Quat.normSq]
  have hned := normSq_eulerToOrientation (radians euler.rollDeg) (radians euler.pitchDeg)
    (radians euler.yawDeg)
  have hproduct : (qEnuFlu euler).toRotationMatrix=
      matrixEnuNed*eulerMatrix (radians euler.rollDeg) (radians euler.pitchDeg)
        (radians euler.yawDeg)* !![1,0,0;0,-1,0;0,0,-1] := by
    rw [←toRotationMatrix_qEnuNed,←toRotationMatrix_qFrdFlu,←toRotationMatrix_eulerToOrientation,
      ←Quat.toRotationMatrix_mul normSq_qEnuNed hned,
      ←Quat.toRotationMatrix_mul (Quat.normSq_mul_eq_one normSq_qEnuNed hned) hfrd]
    rfl
  rw [hproduct]
  ext i j
  fin_cases i <;> fin_cases j <;>
    simp [matrixEnuNed,eulerMatrix,Matrix.mul_apply,Fin.sum_univ_three,cos_pi_div_two_sub,
      sin_pi_div_two_sub] <;> ring

/-- Degrees below a right angle are radians below a right angle. -/
theorem abs_radians_lt {deg : ℝ} (h : |deg|<90) : |radians deg|<π/2 := by
  have hfactor : π/180.0=π/180 := by norm_num
  have hpos : 0<π/180 := by positivity
  rw [radians,hfactor,abs_mul,abs_of_pos hpos]
  calc |deg| * (π/180)<90*(π/180) := by gcongr
    _=π/2 := by ring

/-- Below the vertical, the attitude handler stores the reported roll, the pitch
turned round and the yaw counted from east, and the angles of an attitude are read
back from its quaternion. -/
theorem attitude_preserved (now : ℝ) (ctx : RobotContext) (euler : EulerAngle)
    (huse : ctx.useFcuEnu=true) (hpitch : |euler.pitchDeg|<90) :
    (SameAngles ⟨(onAttitudeEuler now ctx euler).roll,(onAttitudeEuler now ctx euler).pitch,
        (onAttitudeEuler now ctx euler).yawEnu⟩
        (radians euler.rollDeg) (-radians euler.pitchDeg) (π/2-radians euler.yawDeg) ∧
      ((onAttitudeEuler now ctx euler).yawEnu : Angle)=yawNedToEnu (radians euler.yawDeg)) ∧
    ∀ r p y : ℝ,|p|<π/2 → SameAngles (orientationToEuler (eulerToOrientation r p y)) r p y := by
  have hangles : SameAngles (orientationToEuler (qEnuFlu euler)) (radians euler.rollDeg)
      (-radians euler.pitchDeg) (π/2-radians euler.yawDeg) := by
    rw [orientationToEuler,toRotationMatrix_qEnuFlu]
    exact eulerOfMatrix_eulerMatrix _ _ _ (by rw [abs_neg]; exact abs_radians_lt hpitch)
  have hstored : onAttitudeEuler now ctx euler=
      { ctx with
        yawEnu := (orientationToEuler (qEnuFlu euler)).z
        pitch := (orientationToEuler (qEnuFlu euler)).y
        roll := (orientationToEuler (qEnuFlu euler)).x
        orientation := qEnuFlu euler
        poseHistory := ctx.poseHistory.pushQuat now (qEnuFlu euler)
        yawNed := radians euler.yawDeg } := by
    rw [onAttitudeEuler,if_neg (by rw [huse]; exact Bool.noConfusion)]
  rw [hstored]
  refine ⟨⟨hangles,?_⟩,fun r p y hp => ?_⟩
  · rw [yawNedToEnu,coe_normYaw,mul_half]
    exact hangles.yaw
  · rw [orientationToEuler,toRotationMatrix_eulerToOrientation]
    exact eulerOfMatrix_eulerMatrix r p y hp

/-- A context before the first report. -/
noncomputable def silent : RobotContext := { orientation := .one }

/-- The angles of a banked climb. -/
theorem bankedClimb_preserved :
    SameAngles ⟨(onAttitudeEuler 0 silent ⟨10,20,30⟩).roll,(onAttitudeEuler 0 silent ⟨10,20,30⟩).pitch,
      (onAttitudeEuler 0 silent ⟨10,20,30⟩).yawEnu⟩ (radians 10) (-radians 20) (π/2-radians 30) :=
  (attitude_preserved 0 silent ⟨10,20,30⟩ rfl (by norm_num)).1.1

end Dankong.Mavlink

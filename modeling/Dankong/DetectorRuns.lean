import Dankong.CtrvFilter
import Dankong.History
import Dankong.LandingController
import Dankong.StationaryTarget
import Dankong.TagPose
import Dankong.TimedPath
import Dankong.YawFilter

/-!
# Runs of the landing detector

`LandingDetector` turns the tag of every new image into a position of the target, drops
positions that the target cannot have reached, and feeds the others to the filters. A
session lasts from one start to the next; it is followed here with the log of the fixes
that were let through.
-/

namespace Dankong.Pland

open History Matrix PoseHistory Real Runs StateUtils TimedPath
open CtrvFilter (KalmanFilterCTRV Reading Settings)
open YawFilter (KalmanFilterYaw getYaw)

/-- A valid `TargetObservation`. -/
structure TargetObservation where
  /-- `center_pixel.x`. -/
  centerX : ℝ
  /-- `center_pixel.y`. -/
  centerY : ℝ
  /-- `pose1`. -/
  pose1 : TargetPose
  /-- `pose2`, if it is valid. -/
  pose2 : Option TargetPose

/-- What one call of `update` reads. -/
structure Snapshot where
  /-- `pland_image_stamp`. -/
  imageStamp : ℝ
  /-- Clock, position, attitude and range finder. -/
  env : PlandEnv
  /-- `pose_history`. -/
  poseHistory : PoseHistory ℝ Quat
  /-- `gimbal_roll`, `gimbal_pitch` and `gimbal_yaw`. -/
  gimbal : GimbalAngles ℝ
  /-- `vel_angular_body`. -/
  velAngularBody : Vec3 ℝ
  /-- What the pattern finds in the image; none as well if there is no image. -/
  observation : Option TargetObservation
  /-- What a stamp holds that is not initialised. -/
  uninitialised : ℝ

/-- The configuration of the detector and of its parts. -/
structure DetectorConfig where
  /-- Offsets and matrix of the camera. -/
  camera : LandingDetector
  /-- `pland_gimbal_abs`. -/
  plandGimbalAbs : Bool
  /-- `platform_height`. -/
  platformHeight : ℝ
  /-- `velocity_deadzone`. -/
  velocityDeadzone : ℝ
  /-- Settings of the position filter. -/
  settings : Settings
  /-- Interpolation of attitudes. -/
  slerp : Quat → ℝ → Quat → Quat

/-- The detector. -/
structure DetectorState where
  /-- Whether the detection thread runs. -/
  running : Bool := false
  /-- `kf_xy_`. -/
  kfXy : KalmanFilterCTRV
  /-- `kf_yaw_`. -/
  kfYaw : KalmanFilterYaw
  /-- `kf_abs_yaw_`. -/
  kfAbsYaw : KalmanFilterYaw
  /-- `target_tracker_`. -/
  targetTracker : TargetTracker := { windowSize := 30, threshold := 0.2 }
  /-- `last_ekf_stamp_`. -/
  lastEkfStamp : ℝ := 0
  /-- `last_valid_enu_pos_`. -/
  lastValidEnuPos : Vec3 ℝ := .zero
  /-- `has_last_valid_pos_`. -/
  hasLastValidPos : Bool := false

/-- All of `DetectorResult`. -/
structure Detection extends DetectorResult where
  /-- `current_z`. -/
  currentZ : ℝ := 0
  /-- `pnp_pos`. -/
  pnpPos : Option (Vec3 ℝ) := none
  /-- `los_pos`. -/
  losPos : Option (Vec3 ℝ) := none
  /-- `fused_pos`. -/
  fusedPos : Option (Vec3 ℝ) := none

/-- The three coordinates of a vector. -/
def vec3 (v : Fin 3 → ℝ) : Vec3 ℝ := ⟨v xAxis,v yAxis,v zAxis⟩

noncomputable section

/-- The detector after construction. -/
def constructedDetector : DetectorState where
  kfXy := CtrvFilter.construct
  kfYaw := YawFilter.construct
  kfAbsYaw := YawFilter.construct

/-- `reset_estimator`. -/
def resetEstimator (d : DetectorState) : DetectorState :=
  { d with
    kfXy := CtrvFilter.construct
    kfYaw := YawFilter.reset 0
    kfAbsYaw := YawFilter.reset 0
    targetTracker := { d.targetTracker with
      state := .stationary, history := [], moveCounter := 0 }
    lastEkfStamp := 0
    lastValidEnuPos := .zero
    hasLastValidPos := false }

/-- Position and attitude of the vehicle at the time of the image, from the history, else
the current ones. -/
def dronePose (cfg : DetectorConfig) (s : Snapshot) : DronePose :=
  match getPoseAt cfg.slerp s.poseHistory s.imageStamp with
  | some (pos,q,_) => ⟨![pos.x,pos.y,pos.z],q.toRotationMatrix⟩
  | none =>
    ⟨![s.env.posEnu.x,s.env.posEnu.y,s.env.posEnu.z],s.env.orientation.toRotationMatrix⟩

/-- The gimbal angles at the time of the image, else the current ones. -/
def gimbalPose (cfg : DetectorConfig) (s : Snapshot) : Gimbal :=
  let found := getGimbalAt s.poseHistory s.imageStamp
  { toGimbalAngles := if found.2=true then found.1 else s.gimbal
    isAbsolute := cfg.plandGimbalAbs }

/-- `get_yaw_from_pose`. -/
def yawFromPose (drone : DronePose) (gimbal : Gimbal) (p : TargetPose) : ℝ :=
  let rTagWorld := drone.rWb*(cameraToBody drone.rWb gimbal*p.R)
  atan2 (rTagWorld yAxis xAxis) (rTagWorld xAxis xAxis)

/-- `best_pose`: the second solution only where it fits the estimated yaw better. -/
def bestPose (d : DetectorState) (stamp : ℝ) (drone : DronePose) (gimbal : Gimbal)
    (obs : TargetObservation) : TargetPose :=
  match obs.pose2 with
  | none => obs.pose1
  | some pose2 =>
    if d.hasLastValidPos=true ∧ stamp-d.lastEkfStamp<0.5 then
      let diff := fun p =>
        |YawFilter.normalizeAngle (yawFromPose drone gimbal p-getYaw d.kfAbsYaw)|
      if diff pose2<diff obs.pose1 then pose2 else obs.pose1
    else obs.pose1

/-- `dt_ekf`: the time since the last fix. -/
def dtEkf (d : DetectorState) (stamp : ℝ) : ℝ :=
  if 0<d.lastEkfStamp then stamp-d.lastEkfStamp else 0.033

/-- A position that the target cannot have reached since the last fix. -/
def isOutlier (d : DetectorState) (stamp : ℝ) (rawTargetEnu : Vec3 ℝ) : Prop :=
  d.hasLastValidPos=true ∧ 20.0*dtEkf d stamp+1.0<
    norm2 (rawTargetEnu.horizontal.sub d.lastValidEnuPos.horizontal)

/-- The estimator starts afresh with the next fix. -/
def needsRestart (d : DetectorState) (stamp : ℝ) : Prop :=
  d.hasLastValidPos=false ∨ dtEkf d stamp≤1e-4 ∨ 1.0<dtEkf d stamp

open Classical in
/-- The detector that is about to take a fix, and the time step of its filters. -/
def prepared (stamp : ℝ) (raw : Vec3 ℝ) (relativeYaw absYaw : ℝ) (d : DetectorState) :
    DetectorState×ℝ :=
  if needsRestart d stamp then
    ({ resetEstimator d with
        kfXy := CtrvFilter.forceSetState CtrvFilter.construct raw.x raw.y
        kfYaw := YawFilter.forceSetState relativeYaw
        kfAbsYaw := YawFilter.forceSetState absYaw },0.033)
  else (d,dtEkf d stamp)

/-- `current_visual_angle_deg`. -/
def visualAngleDeg (s : Snapshot) (raw : Vec3 ℝ) : ℝ :=
  let rWb := s.env.orientation.normalize.toRotationMatrix
  let offset := raw.sub s.env.posEnu
  let relative := rWbᵀ *ᵥ ![offset.x,offset.y,offset.z]
  atan2 (hypot (relative xAxis) (relative yAxis)) (getCurrentZ s.env)*180.0/π

/-- What the position filter is given. -/
def reading (s : Snapshot) (raw : Vec3 ℝ) (dt : ℝ) : Reading where
  measX := raw.x
  measY := raw.y
  dt := dt
  currentZ := getCurrentZ s.env
  angularRate := √(s.velAngularBody.x*s.velAngularBody.x+
    s.velAngularBody.y*s.velAngularBody.y+s.velAngularBody.z*s.velAngularBody.z)
  visualAngleDeg := visualAngleDeg s raw
  angularRate_nonneg := sqrt_nonneg _

/-- The detector after the filters have taken a fix. -/
def filtered (cfg : DetectorConfig) (s : Snapshot) (raw : Vec3 ℝ) (relativeYaw absYaw dt : ℝ)
    (d : DetectorState) : DetectorState :=
  { d with
    lastEkfStamp := s.imageStamp
    lastValidEnuPos := raw
    hasLastValidPos := true
    targetTracker := d.targetTracker.observe raw.horizontal
    kfXy := (CtrvFilter.update cfg.settings d.kfXy 0 (reading s raw dt)).1
    kfYaw := YawFilter.update d.kfYaw relativeYaw dt
    kfAbsYaw := YawFilter.update d.kfAbsYaw absYaw dt }

/-- `v_xy_enu`, and the yaw rate: no velocity for a stationary target or a slow one. -/
def targetVelocity (cfg : DetectorConfig) (d : DetectorState) : Vec3 ℝ :=
  let vXyEnu := CtrvFilter.getVel d.kfXy
  let vXyEnu := if norm2 vXyEnu<cfg.velocityDeadzone then .zero else vXyEnu
  let yawRate := d.kfAbsYaw.x YawFilter.ratePlace
  if d.targetTracker.state=.moving then ⟨vXyEnu.x,vXyEnu.y,yawRate⟩ else ⟨0,0,yawRate⟩

/-- What the detector reports of a fix that was let through. -/
def report (cfg : DetectorConfig) (s : Snapshot) (raw : Vec3 ℝ) (out : Detection)
    (d : DetectorState) : Detection :=
  { out with
    currentZ := getCurrentZ s.env
    yawRelative := getYaw d.kfYaw
    targetPosEnu := ⟨d.kfXy.x CtrvFilter.pxPlace,d.kfXy.x CtrvFilter.pyPlace,raw.z⟩
    targetYawEnu := getYaw d.kfAbsYaw
    targetVelEnu := targetVelocity cfg d }

/-- `solve_pose_by_pnp` for the tag in the image. -/
def solved (cfg : DetectorConfig) (s : Snapshot) (d : DetectorState) (obs : TargetObservation) :
    PnpResult :=
  let drone := dronePose cfg s
  let gimbal := gimbalPose cfg s
  cfg.camera.solvePoseByPnp (bestPose d s.imageStamp drone gimbal obs) drone gimbal

/-- The positions that are reported as they were solved. -/
def located (cfg : DetectorConfig) (s : Snapshot) (obs : TargetObservation) (pnp : PnpResult) :
    Detection where
  stamp := s.imageStamp
  isValid := true
  pnpPos := some (vec3 pnp.world)
  losPos := (cfg.camera.solvePoseByRay obs.centerX obs.centerY (dronePose cfg s)
    cfg.platformHeight (gimbalPose cfg s)).map fun point => vec3 point.1
  targetPosBody := vec3 pnp.posBody
  fusedPos := some (vec3 pnp.world)

/-- The detector after a fix that is let through. -/
def follow (cfg : DetectorConfig) (s : Snapshot) (pnp : PnpResult) (d : DetectorState) :
    DetectorState :=
  let raw := vec3 pnp.world
  let ready := prepared s.imageStamp raw pnp.relativeYaw pnp.absYaw d
  filtered cfg s raw pnp.relativeYaw pnp.absYaw ready.2 ready.1

open Classical in
/-- `update`. -/
def updateDetector (cfg : DetectorConfig) (s : Snapshot) (d : DetectorState) :
    Detection×DetectorState :=
  if s.imageStamp≤0 ∨ |s.imageStamp-d.lastEkfStamp|<1e-6 then ({ stamp := s.uninitialised },d)
  else if 0.15<s.env.now-s.imageStamp then ({ stamp := s.imageStamp },d)
  else
    match s.observation with
    | none => ({ stamp := s.imageStamp },d)
    | some obs =>
      let pnp := solved cfg s d obs
      let out := located cfg s obs pnp
      if isOutlier d s.imageStamp (vec3 pnp.world) then ({ out with isValid := false },d)
      else (report cfg s (vec3 pnp.world) out (follow cfg s pnp d),follow cfg s pnp d)

end

/-- What happens to the detector. -/
inductive DetectorInput
  /-- `start`. -/
  | start
  /-- `stop`. -/
  | stop
  /-- The detection thread's next step. -/
  | frame (s : Snapshot)

/-- A fix that was let through. -/
structure Fix where
  /-- When the image was taken. -/
  stamp : ℝ
  /-- The tag as it was solved. -/
  pnp : PnpResult
  /-- What was reported. -/
  detection : Detection

/-- Position of a fix in the plane. -/
def Fix.place (fix : Fix) : ℂ := plane (vec3 fix.pnp.world).horizontal

/-- The detector, and the fixes since its latest start, latest first. -/
structure Session where
  /-- The detector. -/
  detector : DetectorState
  /-- The fixes. -/
  fixes : List Fix := []

noncomputable section

/-- The session after a step of the detection thread. -/
def Session.observe (cfg : DetectorConfig) (s : Snapshot) (r : Session) : Session :=
  let result := updateDetector cfg s r.detector
  { detector := result.2
    fixes := match s.observation with
      | none => r.fixes
      | some obs =>
        if result.1.isValid=true then
          ⟨s.imageStamp,solved cfg s r.detector obs,result.1⟩::r.fixes
        else r.fixes }

/-- One input. A running detector ignores a start, and the detection thread steps only
while the detector runs. -/
def Session.step (cfg : DetectorConfig) (r : Session) : DetectorInput → Session
  | .start =>
    if r.detector.running=true then r
    else { detector := { resetEstimator r.detector with running := true } }
  | .stop => { r with detector := { r.detector with running := false } }
  | .frame s => if r.detector.running=true then r.observe cfg s else r

/-- The session after a list of inputs. -/
def sessionAfter (cfg : DetectorConfig) (inputs : List DetectorInput) : Session :=
  runFrom (Session.step cfg) { detector := constructedDetector } inputs

end

/-- The later fix came in time to continue the estimate of the earlier one. -/
def Steady (later earlier : Fix) : Prop :=
  1e-4<later.stamp-earlier.stamp ∧ later.stamp-earlier.stamp≤1.0

/-- A fix that continues the estimate of the fixes before it. -/
def Continues (fix : Fix) (older : List Fix) : Prop := ∃ last∈older.head?,Steady fix last

/-- Any two fixes are as close in the horizontal plane as a target at 20 m/s can have left
them, up to a metre for each step between them. -/
def AllWithinReach (fixes : List Fix) : Prop :=
  ∀ newer later between earlier older,fixes=newer++later::between++earlier::older →
    dist later.place earlier.place ≤
      20*(later.stamp-earlier.stamp)+((between.length : ℝ)+1)

/-- What the report of a fix promises, given the fixes before it. -/
structure Reported (cfg : DetectorConfig) (fix : Fix) (older : List Fix) : Prop where
  /-- Both yaws lie within half a turn. -/
  yawRelative_mem : fix.detection.yawRelative∈Set.Icc (-π) π
  targetYawEnu_mem : fix.detection.targetYawEnu∈Set.Icc (-π) π
  /-- The first fix, and one after a gap, are reported as they were solved, and at rest. -/
  exact : ¬Continues fix older →
    fix.detection.targetPosEnu=vec3 fix.pnp.world ∧
    fix.detection.yawRelative=fix.pnp.relativeYaw ∧
    fix.detection.targetYawEnu=fix.pnp.absYaw ∧
    fix.detection.targetVelEnu=.zero
  /-- A target is reported to move only above the dead zone, and after seven fixes without
  a gap. -/
  moving : fix.detection.targetVelEnu.horizontal≠.zero →
    cfg.velocityDeadzone≤norm2 fix.detection.targetVelEnu.horizontal ∧
    Recent Steady 7 (fix::older)

/-- A tracker that has seen so many frames since its latest reset. -/
structure Counted (n : ℕ) (t : TargetTracker) : Prop where
  windowSize : t.windowSize=30
  length : t.history.length=min n 30
  /-- Frames are judged from the fifth on. -/
  few : t.moveCounter ≤ n-4
  /-- Three of them have to be far. -/
  enough : t.state=.moving → 7 ≤ n

/-- A tracker that was reset has seen no frame. -/
theorem counted_zero {t : TargetTracker} (h : t.windowSize=30) :
    Counted 0 { t with state := .stationary, history := [], moveCounter := 0 } where
  windowSize := h
  length := rfl
  few := Nat.zero_le _
  enough hmoving := nomatch hmoving

/-- One more frame. -/
theorem counted_observe {n : ℕ} {t : TargetTracker} (h : Counted n t) (pos : Vec2 ℝ) :
    Counted (n+1) (t.observe pos) := by
  have hcapacity : windowCapacity t.windowSize=30 := by
    rw [h.windowSize]
    decide
  have hlength : (SlidingWindow.push (windowCapacity t.windowSize) t.history pos).length=
      min (n+1) 30 := by
    rw [hcapacity,SlidingWindow.length_push (by rw [h.length]; omega),h.length]
    omega
  have hfew := h.few
  rw [TargetTracker.observe,TargetTracker.update]
  dsimp only
  split_ifs with hshort hstate
  · exact ⟨h.windowSize,hlength,hfew.trans (by omega),fun hmoving => (h.enough hmoving).trans (by omega)⟩
  · have hfour : 4 ≤ n := by omega
    rw [TargetTracker.judgeStart]
    dsimp only
    split_ifs with hfar hthird
    · exact ⟨h.windowSize,hlength,Nat.zero_le _,fun _ => by omega⟩
    · refine ⟨h.windowSize,hlength,?_,fun hmoving => ?_⟩
      · dsimp only
        omega
      · rw [hstate] at hmoving
        cases hmoving
    · refine ⟨h.windowSize,hlength,Nat.zero_le _,fun hmoving => ?_⟩
      rw [hstate] at hmoving
      cases hmoving
  · have hmoving : t.state=.moving := by
      cases hs : t.state with
      | stationary => exact absurd hs hstate
      | moving => rfl
    have hseven := h.enough hmoving
    rw [TargetTracker.judgeStop]
    dsimp only
    split_ifs
    · exact ⟨h.windowSize,hlength,Nat.zero_le _,fun _ => by omega⟩
    · exact ⟨h.windowSize,hlength,by dsimp only; omega,fun _ => by omega⟩

/-- A call either lets a fix through or changes nothing. -/
theorem updateDetector_cases (cfg : DetectorConfig) (s : Snapshot) (d : DetectorState) :
    ((updateDetector cfg s d).1.isValid=false ∧ (updateDetector cfg s d).2=d) ∨
    ∃ obs,s.observation=some obs ∧ 0<s.imageStamp ∧
      ¬isOutlier d s.imageStamp (vec3 (solved cfg s d obs).world) ∧
      updateDetector cfg s d=
        (report cfg s (vec3 (solved cfg s d obs).world) (located cfg s obs (solved cfg s d obs))
          (follow cfg s (solved cfg s d obs) d),follow cfg s (solved cfg s d obs) d) := by
  rw [updateDetector]
  by_cases hstale : s.imageStamp≤0 ∨ |s.imageStamp-d.lastEkfStamp|<1e-6
  · rw [if_pos hstale]
    exact Or.inl ⟨rfl,rfl⟩
  rw [if_neg hstale]
  by_cases hlate : 0.15<s.env.now-s.imageStamp
  · rw [if_pos hlate]
    exact Or.inl ⟨rfl,rfl⟩
  rw [if_neg hlate]
  cases s.observation with
  | none => exact Or.inl ⟨rfl,rfl⟩
  | some obs =>
    dsimp only
    by_cases hout : isOutlier d s.imageStamp (vec3 (solved cfg s d obs).world)
    · rw [if_pos hout]
      exact Or.inl ⟨rfl,rfl⟩
    · rw [if_neg hout]
      exact Or.inr ⟨obs,rfl,not_le.mp (not_or.mp hstale).1,hout,rfl⟩

/-- The session after a step: nothing happened, or there is one more fix. -/
theorem observe_cases (cfg : DetectorConfig) (s : Snapshot) (r : Session) :
    r.observe cfg s=r ∨
    ∃ pnp out,0<s.imageStamp ∧ ¬isOutlier r.detector s.imageStamp (vec3 pnp.world) ∧
      (∃ drone gimbal tag,pnp=cfg.camera.solvePoseByPnp tag drone gimbal) ∧
      r.observe cfg s=
        { detector := follow cfg s pnp r.detector
          fixes := ⟨s.imageStamp,pnp,report cfg s (vec3 pnp.world) out
            (follow cfg s pnp r.detector)⟩::r.fixes } := by
  rcases updateDetector_cases cfg s r.detector with ⟨hvalid,hsame⟩|⟨obs,hobs,hpos,hout,heq⟩
  · refine Or.inl ?_
    rw [Session.observe,hsame,hvalid]
    cases s.observation <;> rfl
  · refine Or.inr ⟨_,located cfg s obs (solved cfg s r.detector obs),hpos,hout,⟨_,_,_,rfl⟩,?_⟩
    rw [Session.observe,heq,hobs]
    rfl

/-- A yaw within half a turn is normal. -/
theorem normalizeAngle_atan2 (y x : ℝ) : YawFilter.normalizeAngle (atan2 y x)=atan2 y x := by
  have harg := Complex.arg_cos_add_sin_mul_I (Complex.arg_mem_Ioc ⟨x,y⟩)
  rw [YawFilter.normalizeAngle]
  refine Eq.trans (congrArg Complex.arg ?_) harg
  apply Complex.ext <;> simp [atan2,←Complex.ofReal_cos,←Complex.ofReal_sin]

/-- A yaw filter that was set to a yaw stays there while it is measured again. -/
theorem yaw_update_forced (y x : ℝ) {dt : ℝ} (hdt : 0<dt) :
    (YawFilter.update (YawFilter.forceSetState (atan2 y x)) (atan2 y x) dt).x=![atan2 y x,0] := by
  have hpredicted : YawFilter.predictedState (YawFilter.forceSetState (atan2 y x)) dt=
      ![atan2 y x,0] := by
    ext i
    fin_cases i <;> simp [YawFilter.predictedState,YawFilter.wrapped,YawFilter.forceSetState,
      YawFilter.F,mulVec,dotProduct,normalizeAngle_atan2]
  have hinnovation : YawFilter.innovation (YawFilter.forceSetState (atan2 y x)) (atan2 y x) dt=0 := by
    have hzero : atan2 0 1=0 := Complex.arg_one
    have hnormal := normalizeAngle_atan2 0 1
    rw [hzero] at hnormal
    rw [YawFilter.innovation,hpredicted]
    simpa using hnormal
  rw [YawFilter.update,if_neg (not_le.mpr hdt)]
  dsimp only
  rw [hinnovation,hpredicted]
  ext i
  fin_cases i <;> simp [YawFilter.wrapped,normalizeAngle_atan2]

/-- So does a position filter that was set to a position. -/
theorem place_update_forced (settings : Settings) (k : KalmanFilterCTRV) (epsilon : ℝ) (m : Reading) :
    (CtrvFilter.update settings (CtrvFilter.forceSetState k m.measX m.measY) epsilon m).1.x
        CtrvFilter.pxPlace=m.measX ∧
      (CtrvFilter.update settings (CtrvFilter.forceSetState k m.measX m.measY) epsilon m).1.x
        CtrvFilter.pyPlace=m.measY := by
  have hstill : ¬(0.0001 : ℝ)< |(0 : ℝ)| := by norm_num
  have hpredicted : CtrvFilter.predictedState ![m.measX,m.measY,0,0,0] m.dt=
      ![m.measX,m.measY,0,CtrvFilter.normalizeAngle 0,0] := by
    have hv : (![m.measX,m.measY,0,0,0] : Fin 5 → ℝ) CtrvFilter.vPlace=0 := rfl
    have homega : (![m.measX,m.measY,0,0,0] : Fin 5 → ℝ) CtrvFilter.omegaPlace=0 := rfl
    have hyaw : (![m.measX,m.measY,0,0,0] : Fin 5 → ℝ) CtrvFilter.yawPlace=0 := rfl
    rw [CtrvFilter.predictedState,hv,homega,hyaw,if_neg hstill]
    simp only [zero_mul,add_zero]
    rfl
  have hresidual : CtrvFilter.residual (CtrvFilter.forceSetState k m.measX m.measY) m=0 := by
    rw [CtrvFilter.residual,CtrvFilter.forceSetState,hpredicted]
    ext i
    fin_cases i <;> simp [CtrvFilter.H]
  rw [CtrvFilter.update]
  dsimp only
  split_ifs with hdt
  · exact ⟨rfl,rfl⟩
  · rw [hresidual,mulVec_zero,add_zero,CtrvFilter.forceSetState,hpredicted]
    exact ⟨rfl,rfl⟩

/-- Session and detector agree, and every report so far was right. -/
structure Following (cfg : DetectorConfig) (r : Session) : Prop where
  started : r.fixes=[] → r.detector.hasLastValidPos=false
  last : ∀ fix∈r.fixes.head?,r.detector.hasLastValidPos=true ∧
    r.detector.lastEkfStamp=fix.stamp ∧ r.detector.lastValidEnuPos=vec3 fix.pnp.world ∧ 0<fix.stamp
  /-- The position filter counts the fixes without a gap. -/
  recent : Recent Steady r.detector.kfXy.updateCount r.fixes
  counted : Counted r.detector.kfXy.updateCount r.detector.targetTracker
  chain : r.fixes.IsChain (WithinReach Fix.place Fix.stamp 20 1)
  reports : Throughout (Reported cfg) r.fixes

section

variable {cfg : DetectorConfig} {s : Snapshot} {r : Session} {pnp : PnpResult}

/-- The time step of the filters. -/
theorem prepared_dt_mem (stamp : ℝ) (raw : Vec3 ℝ) (relativeYaw absYaw : ℝ) (d : DetectorState) :
    1e-4<(prepared stamp raw relativeYaw absYaw d).2 ∧
      (prepared stamp raw relativeYaw absYaw d).2≤1.0 := by
  rw [prepared]
  split_ifs with h
  · norm_num
  · exact ⟨not_le.mp fun hle => h (Or.inr (Or.inl hle)),
      not_lt.mp fun hlt => h (Or.inr (Or.inr hlt))⟩

/-- The time since the last fix. -/
theorem dtEkf_eq (h : Following cfg r) {fix : Fix} (hfix : fix∈r.fixes.head?) :
    dtEkf r.detector s.imageStamp=s.imageStamp-fix.stamp := by
  obtain ⟨_,hstamp,_,hpos⟩ := h.last fix hfix
  rw [dtEkf,hstamp,if_pos hpos]

/-- Without a restart, the fix continues the estimate. -/
theorem continues_of_not_restart (h : Following cfg r) {fix : Fix} (hstamp : fix.stamp=s.imageStamp)
    (hkeep : ¬needsRestart r.detector s.imageStamp) : Continues fix r.fixes := by
  cases hfixes : r.fixes with
  | nil => exact absurd (Or.inl (h.started hfixes)) hkeep
  | cons last older =>
    have hlast : last∈r.fixes.head? := by
      rw [hfixes]
      rfl
    have hdt := dtEkf_eq (s := s) h hlast
    rw [needsRestart,hdt,not_or,not_or,not_le,not_lt] at hkeep
    refine ⟨last,rfl,?_⟩
    rw [Steady,hstamp]
    exact hkeep.2

/-- A fix that is let through is within reach of the last one. -/
theorem chain_cons (h : Following cfg r) (hout : ¬isOutlier r.detector s.imageStamp (vec3 pnp.world))
    (out : Detection) : ((⟨s.imageStamp,pnp,out⟩ : Fix)::r.fixes).IsChain
      (WithinReach Fix.place Fix.stamp 20 1) := by
  have hchain := h.chain
  cases hfixes : r.fixes with
  | nil => exact List.isChain_singleton _
  | cons last older =>
    have hmem : last∈r.fixes.head? := by rw [hfixes]; rfl
    obtain ⟨hhas,_,hplace,_⟩ := h.last last hmem
    rw [hfixes] at hchain
    refine List.isChain_cons_cons.mpr ⟨?_,hchain⟩
    have hnear := not_lt.mp (not_and.mp hout hhas)
    rw [dtEkf_eq h hmem,hplace,←norm_plane,plane_sub,←dist_eq_norm] at hnear
    have hspeed : (20.0 : ℝ)*(s.imageStamp-last.stamp)+1.0=20*(s.imageStamp-last.stamp)+1 := by
      norm_num
    rw [hspeed] at hnear
    exact hnear

/-- A restart reports the fix as it was solved, and counts it as the first. -/
theorem follow_restart (hrestart : needsRestart r.detector s.imageStamp)
    (h : Following cfg r) (hsolved : ∃ drone gimbal tag,pnp=cfg.camera.solvePoseByPnp tag drone gimbal) :
    let d := follow cfg s pnp r.detector
    d.kfXy.updateCount=1 ∧ Counted 1 d.targetTracker ∧
      d.kfXy.x CtrvFilter.pxPlace=pnp.world xAxis ∧ d.kfXy.x CtrvFilter.pyPlace=pnp.world yAxis ∧
      d.kfYaw.x=![pnp.relativeYaw,0] ∧ d.kfAbsYaw.x=![pnp.absYaw,0] := by
  obtain ⟨drone,gimbal,tag,rfl⟩ := hsolved
  have hready : ∀ raw relativeYaw absYaw,prepared s.imageStamp raw relativeYaw absYaw r.detector=
      ({ resetEstimator r.detector with
          kfXy := CtrvFilter.forceSetState CtrvFilter.construct raw.x raw.y
          kfYaw := YawFilter.forceSetState relativeYaw
          kfAbsYaw := YawFilter.forceSetState absYaw },0.033) :=
    fun raw relativeYaw absYaw => if_pos hrestart
  have hdt : (0 : ℝ)<0.033 := by norm_num
  dsimp only
  rw [follow,hready]
  refine ⟨?_,counted_observe (counted_zero h.counted.windowSize) _,?_,?_,?_,?_⟩
  · rw [filtered,CtrvFilter.update]
    dsimp only
    split_ifs <;> rfl
  · exact (place_update_forced cfg.settings CtrvFilter.construct 0
      (reading s (vec3 (cfg.camera.solvePoseByPnp tag drone gimbal).world) 0.033)).1
  · exact (place_update_forced cfg.settings CtrvFilter.construct 0
      (reading s (vec3 (cfg.camera.solvePoseByPnp tag drone gimbal).world) 0.033)).2
  · exact yaw_update_forced _ _ hdt
  · exact yaw_update_forced _ _ hdt

/-- Otherwise the counts go on. -/
theorem follow_continue (hkeep : ¬needsRestart r.detector s.imageStamp) (h : Following cfg r)
    (pnp : PnpResult) :
    let d := follow cfg s pnp r.detector
    d.kfXy.updateCount=r.detector.kfXy.updateCount+1 ∧
      Counted (r.detector.kfXy.updateCount+1) d.targetTracker := by
  have hready : ∀ raw relativeYaw absYaw,prepared s.imageStamp raw relativeYaw absYaw r.detector=
      (r.detector,dtEkf r.detector s.imageStamp) := fun raw relativeYaw absYaw => if_neg hkeep
  dsimp only
  rw [follow,hready]
  refine ⟨?_,counted_observe h.counted _⟩
  rw [filtered,CtrvFilter.update]
  dsimp only
  split_ifs <;> rfl

/-- Whatever the report says besides, its yaws are those of the filters. -/
theorem reported_yaws (cfg : DetectorConfig) (s : Snapshot) (pnp : PnpResult) (out : Detection)
    (d : DetectorState) :
    (report cfg s (vec3 pnp.world) out (follow cfg s pnp d)).yawRelative∈Set.Icc (-π) π ∧
      (report cfg s (vec3 pnp.world) out (follow cfg s pnp d)).targetYawEnu∈Set.Icc (-π) π := by
  have hmin : (0 : ℝ)<1e-4 := by norm_num
  have hdt := hmin.trans
    (prepared_dt_mem s.imageStamp (vec3 pnp.world) pnp.relativeYaw pnp.absYaw d).1
  exact ⟨YawFilter.getYaw_update_mem _ _ hdt,YawFilter.getYaw_update_mem _ _ hdt⟩

/-- A velocity is reported of a moving target only, and above the dead zone. -/
theorem targetVelocity_moving {d : DetectorState} (h : (targetVelocity cfg d).horizontal≠.zero) :
    d.targetTracker.state=.moving ∧
      cfg.velocityDeadzone≤norm2 (targetVelocity cfg d).horizontal := by
  rw [targetVelocity] at h ⊢
  split_ifs at h ⊢ with hmoving hslow
  · exact absurd rfl h
  · exact ⟨hmoving,not_lt.mp hslow⟩
  · exact absurd rfl h

/-- A stationary target has no velocity in the plane. -/
theorem targetVelocity_stationary {d : DetectorState} (h : d.targetTracker.state≠.moving) :
    targetVelocity cfg d=⟨0,0,d.kfAbsYaw.x YawFilter.ratePlace⟩ := if_neg h

/-- A fix that is let through is followed. -/
theorem following_fix (h : Following cfg r) (hpos : 0<s.imageStamp)
    (hout : ¬isOutlier r.detector s.imageStamp (vec3 pnp.world))
    (hsolved : ∃ drone gimbal tag,pnp=cfg.camera.solvePoseByPnp tag drone gimbal)
    (out : Detection) :
    Following cfg
      { detector := follow cfg s pnp r.detector
        fixes := ⟨s.imageStamp,pnp,report cfg s (vec3 pnp.world) out
          (follow cfg s pnp r.detector)⟩::r.fixes } := by
  have hlast : (follow cfg s pnp r.detector).hasLastValidPos=true ∧
      (follow cfg s pnp r.detector).lastEkfStamp=s.imageStamp ∧
      (follow cfg s pnp r.detector).lastValidEnuPos=vec3 pnp.world ∧ 0<s.imageStamp :=
    ⟨rfl,rfl,rfl,hpos⟩
  obtain ⟨hrelative,habs⟩ := reported_yaws cfg s pnp out r.detector
  by_cases hrestart : needsRestart r.detector s.imageStamp
  · obtain ⟨hcount,hcounted,hx,hy,hyaw,habsYaw⟩ := follow_restart hrestart h hsolved
    have hstill : (follow cfg s pnp r.detector).targetTracker.state≠.moving :=
      fun hmoving => absurd (hcounted.enough hmoving) (by norm_num)
    refine ⟨fun hnil => (nomatch hnil),?_,?_,?_,chain_cons h hout _,?_⟩
    · rintro fix hfix
      obtain rfl := Option.some.inj hfix
      exact hlast
    · rw [hcount]
      exact recent_one _ _
    · rw [hcount]
      exact hcounted
    · refine (throughout_cons _ _).mpr ⟨⟨hrelative,habs,fun _ => ?_,fun hmoving => ?_⟩,h.reports⟩
      · refine ⟨?_,congrFun hyaw 0,congrFun habsYaw 0,?_⟩
        · exact Vec3.ext hx hy rfl
        · have hrate : (follow cfg s pnp r.detector).kfAbsYaw.x YawFilter.ratePlace=0 :=
            congrFun habsYaw 1
          refine (targetVelocity_stationary hstill).trans ?_
          rw [hrate]
          rfl
      · exact absurd (targetVelocity_moving hmoving).1 hstill
  · obtain ⟨hcount,hcounted⟩ := follow_continue hrestart h pnp
    have hcontinues : ∀ fix : Fix,fix.stamp=s.imageStamp → Continues fix r.fixes :=
      fun fix hstamp => continues_of_not_restart h hstamp hrestart
    have hrecent : ∀ detection,Recent Steady (r.detector.kfXy.updateCount+1)
        (⟨s.imageStamp,pnp,detection⟩::r.fixes) := by
      intro detection
      obtain ⟨last,hhead,hsteady⟩ := hcontinues ⟨s.imageStamp,pnp,detection⟩ rfl
      obtain ⟨older,hfixes⟩ := List.head?_eq_some_iff.mp hhead
      have hrecent := h.recent
      rw [hfixes] at hrecent ⊢
      exact recent_cons hrecent hsteady
    refine ⟨fun hnil => (nomatch hnil),?_,?_,?_,chain_cons h hout _,?_⟩
    · rintro fix hfix
      obtain rfl := Option.some.inj hfix
      exact hlast
    · rw [hcount]
      exact hrecent _
    · rw [hcount]
      exact hcounted
    · refine (throughout_cons _ _).mpr ⟨⟨hrelative,habs,fun hnot => ?_,fun hmoving => ?_⟩,h.reports⟩
      · exact absurd (hcontinues _ rfl) hnot
      · obtain ⟨hstate,hfast⟩ := targetVelocity_moving hmoving
        exact ⟨hfast,(hrecent _).mono (hcounted.enough hstate)⟩

/-- Every input is. -/
theorem following_step (h : Following cfg r) (i : DetectorInput) : Following cfg (r.step cfg i) := by
  cases i with
  | start =>
    rw [Session.step]
    dsimp only
    split_ifs
    · exact h
    · exact {
        started := fun _ => rfl
        last := fun fix hfix => nomatch hfix
        recent := ⟨Nat.zero_le _,List.isChain_nil⟩
        counted := counted_zero h.counted.windowSize
        chain := List.isChain_nil
        reports := throughout_nil }
  | stop => exact ⟨h.started,h.last,h.recent,h.counted,h.chain,h.reports⟩
  | frame s =>
    rw [Session.step]
    split_ifs
    · rcases observe_cases cfg s r with hsame|⟨pnp,out,hpos,hout,hsolved,hnext⟩
      · rwa [hsame]
      · rw [hnext]
        exact following_fix h hpos hout hsolved out
    · exact h

/-- So is every run. -/
theorem following_run (cfg : DetectorConfig) (inputs : List DetectorInput) :
    Following cfg (sessionAfter cfg inputs) := by
  refine run_invariant (P := Following cfg) (fun r i h => following_step h i) inputs ?_
  exact {
    started := fun _ => rfl
    last := fun fix hfix => nomatch hfix
    recent := ⟨Nat.zero_le _,List.isChain_nil⟩
    counted := ⟨rfl,rfl,Nat.zero_le _,fun hmoving => nomatch hmoving⟩
    chain := List.isChain_nil
    reports := throughout_nil }

end

/-- Whatever images, clocks, attitudes and starts a run brings: between any two fixes of a
session the target has not moved farther in the horizontal plane than 20 m/s allow, with one
metre of slack for each fix in between and for the last. -/
theorem fixes_within_reach (cfg : DetectorConfig) (inputs : List DetectorInput) :
    AllWithinReach (sessionAfter cfg inputs).fixes := by
  intro newer later between earlier older hfixes
  have hchain := (following_run cfg inputs).chain
  rw [hfixes] at hchain
  simpa using dist_le_of_log hchain

/-- In every run every report is sound: its yaws lie within half a turn; the first fix of a
session and the first after a gap are reported as they were solved and at rest; and a
velocity is only reported above the dead zone and after seven fixes without a gap. -/
theorem reports_sound (cfg : DetectorConfig) (inputs : List DetectorInput) :
    Throughout (Reported cfg) (sessionAfter cfg inputs).fixes := (following_run cfg inputs).reports

end Dankong.Pland

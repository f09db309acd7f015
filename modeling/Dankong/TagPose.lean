import Dankong.Attitude
import Dankong.PoseHistory

/-!
# Where the landing tag is

The two solvers of `LandingDetector`: from the position of the tag in the camera
frame, and from its pixel and the height of the platform. Both go from the camera
through the gimbal and the body to the world. Matrices and vectors are those of
the linear algebra library, and `none` stands for a result that is not a number.
-/

namespace Dankong.Pland

open StateUtils Matrix Real

/-- The part of `LandingDetector` that the solvers read. -/
structure LandingDetector where
  /-- `offset_x`, `offset_y` and `offset_z`: the camera in the body frame. -/
  offsetX : ℝ
  offsetY : ℝ
  offsetZ : ℝ
  /-- `camera_inner_matrix_`. -/
  cameraInnerMatrix : Matrix (Fin 3) (Fin 3) ℝ

/-- Position and attitude of the vehicle when the image was taken. -/
structure DronePose where
  /-- `hist_drone_pos`. -/
  pos : Fin 3 → ℝ
  /-- `hist_R_wb`, from the body frame to the world. -/
  rWb : Matrix (Fin 3) (Fin 3) ℝ

/-- The gimbal angles of the image, and how they are meant. -/
structure Gimbal extends PoseHistory.GimbalAngles ℝ where
  /-- `is_gimbal_absolute`: the pitch is counted from the horizon. -/
  isAbsolute : Bool

/-- `TargetPose`: position and attitude of the tag in the camera frame. -/
structure TargetPose where
  /-- Position. -/
  t : Fin 3 → ℝ
  /-- Attitude. -/
  R : Matrix (Fin 3) (Fin 3) ℝ

/-- What `solve_pose_by_pnp` returns. -/
structure PnpResult where
  /-- Position of the tag in the world. -/
  world : Fin 3 → ℝ
  /-- `out_pos_body`. -/
  posBody : Fin 3 → ℝ
  /-- `out_relative_yaw`. -/
  relativeYaw : ℝ
  /-- `out_abs_yaw`. -/
  absYaw : ℝ

noncomputable section

/-- `R_frd_to_flu`. -/
def frdToFlu : Matrix (Fin 3) (Fin 3) ℝ := !![1,0,0;0,-1,0;0,0,-1]

/-- `get_cam_to_frd_matrix`. -/
def camToFrd : Matrix (Fin 3) (Fin 3) ℝ := !![0,0,1;1,0,0;0,1,0]

/-- The pitch of the gimbal motor: an absolute pitch is corrected by how far the
vehicle looks down. -/
def gimbalPitch (rWb : Matrix (Fin 3) (Fin 3) ℝ) (gimbal : Gimbal) : ℝ :=
  let pitch := gimbal.pitch.getD (-(π*0.5))
  if gimbal.isAbsolute=true then
    pitch+atan2 (-rWb zAxis xAxis)
      (√(rWb xAxis xAxis*rWb xAxis xAxis+rWb yAxis xAxis*rWb yAxis xAxis))
  else pitch

/-- `get_dynamic_camera_to_body_rotation`. -/
def cameraToBody (rWb : Matrix (Fin 3) (Fin 3) ℝ) (gimbal : Gimbal) : Matrix (Fin 3) (Fin 3) ℝ :=
  frdToFlu*(eulerToOrientation (gimbal.roll.getD 0) (gimbalPitch rWb gimbal)
    (gimbal.yaw.getD 0)).toRotationMatrix*camToFrd

/-- A gimbal that reports nothing. -/
def silentGimbal : Gimbal := { roll := none, pitch := none, yaw := none, isAbsolute := false }

namespace LandingDetector

/-- `get_camera_body_offset`. -/
def cameraBodyOffset (d : LandingDetector) : Fin 3 → ℝ := ![d.offsetX,d.offsetY,d.offsetZ]

/-- `cam_ray`: the direction of a pixel in the camera frame. -/
def camRay (d : LandingDetector) (imgX imgY : ℝ) : Fin 3 → ℝ :=
  d.cameraInnerMatrix⁻¹ *ᵥ ![imgX,imgY,1]

/-- `world_ray`: the direction of a pixel in the world. -/
def worldRay (d : LandingDetector) (imgX imgY : ℝ) (drone : DronePose) (gimbal : Gimbal) :
    Fin 3 → ℝ :=
  (drone.rWb*cameraToBody drone.rWb gimbal) *ᵥ d.camRay imgX imgY

/-- `solve_pose_by_ray`: the point in the world and in the body frame. -/
def solvePoseByRay (d : LandingDetector) (imgX imgY : ℝ) (drone : DronePose)
    (platformHeight : ℝ) (gimbal : Gimbal) : Option ((Fin 3 → ℝ)×(Fin 3 → ℝ)) :=
  let worldRay := d.worldRay imgX imgY drone gimbal
  let cameraPosWorld := drone.pos+drone.rWb *ᵥ d.cameraBodyOffset
  if |worldRay zAxis|<1e-6 then none
  else
    let t := (platformHeight-cameraPosWorld zAxis)/worldRay zAxis
    if t<0 then none
    else some (cameraPosWorld+t•worldRay,
      d.cameraBodyOffset+(t•cameraToBody drone.rWb gimbal) *ᵥ d.camRay imgX imgY)

/-- `solve_pose_by_pnp`. -/
def solvePoseByPnp (d : LandingDetector) (tag : TargetPose) (drone : DronePose)
    (gimbal : Gimbal) : PnpResult :=
  let rBc := cameraToBody drone.rWb gimbal
  let tagBody := d.cameraBodyOffset+rBc *ᵥ tag.t
  let rTagBody := rBc*tag.R
  let rTagWorld := drone.rWb*rTagBody
  { world := drone.pos+drone.rWb *ᵥ tagBody
    posBody := tagBody
    relativeYaw := atan2 (rTagBody yAxis xAxis) (rTagBody xAxis xAxis)
    absYaw := atan2 (rTagWorld yAxis xAxis) (rTagWorld xAxis xAxis) }

/-- The exact position of a point of the world in the camera frame. -/
def inCamera (d : LandingDetector) (drone : DronePose) (gimbal : Gimbal) (point : Fin 3 → ℝ) :
    Fin 3 → ℝ :=
  (cameraToBody drone.rWb gimbal)ᵀ *ᵥ (drone.rWbᵀ *ᵥ (point-drone.pos)-d.cameraBodyOffset)

/-- One coordinate of the pixel that a point in the camera frame is projected to. -/
def pixel (d : LandingDetector) (axis : Fin 3) (t : Fin 3 → ℝ) : ℝ :=
  (d.cameraInnerMatrix *ᵥ t) axis/(d.cameraInnerMatrix *ᵥ t) zAxis

end LandingDetector

end

/-- What an orthogonal matrix does is undone by its transpose. -/
theorem mulVec_transpose_mulVec {R : Matrix (Fin 3) (Fin 3) ℝ} (h : R*Rᵀ=1) (v : Fin 3 → ℝ) :
    R *ᵥ (Rᵀ *ᵥ v)=v := by
  rw [mulVec_mulVec,h,one_mulVec]

/-- The rotation from the camera to the body is orthogonal, whatever the gimbal does. -/
theorem cameraToBody_orthogonal (rWb : Matrix (Fin 3) (Fin 3) ℝ) (gimbal : Gimbal) :
    cameraToBody rWb gimbal*(cameraToBody rWb gimbal)ᵀ=1 := by
  have hflip : frdToFlu*frdToFluᵀ=1 := by
    ext i j
    fin_cases i <;> fin_cases j <;> simp [frdToFlu,Matrix.mul_apply,Fin.sum_univ_three]
  have haxes : camToFrd*camToFrdᵀ=1 := by
    ext i j
    fin_cases i <;> fin_cases j <;> simp [camToFrd,Matrix.mul_apply,Fin.sum_univ_three]
  have hmotor := Quat.toRotationMatrix_mul_transpose (normSq_eulerToOrientation
    (gimbal.roll.getD 0) (gimbalPitch rWb gimbal) (gimbal.yaw.getD 0))
  rw [cameraToBody]
  generalize (eulerToOrientation (gimbal.roll.getD 0) (gimbalPitch rWb gimbal)
    (gimbal.yaw.getD 0)).toRotationMatrix=motor at hmotor ⊢
  calc frdToFlu*motor*camToFrd*(frdToFlu*motor*camToFrd)ᵀ
      =frdToFlu*(motor*(camToFrd*camToFrdᵀ)*motorᵀ)*frdToFluᵀ := by
        simp only [transpose_mul,Matrix.mul_assoc]
    _=1 := by rw [haxes,Matrix.mul_one,hmotor,Matrix.mul_one,hflip]

namespace LandingDetector

variable (d : LandingDetector) (drone : DronePose) (gimbal : Gimbal)

/-- Camera, gimbal, body and world in a chain lead back to the point. -/
theorem world_of_inCamera (hrot : drone.rWb*drone.rWbᵀ=1) (point : Fin 3 → ℝ) :
    drone.pos+drone.rWb *ᵥ (d.cameraBodyOffset+
      cameraToBody drone.rWb gimbal *ᵥ d.inCamera drone gimbal point)=point := by
  rw [inCamera,mulVec_transpose_mulVec (cameraToBody_orthogonal drone.rWb gimbal),
    add_sub_cancel,mulVec_transpose_mulVec hrot,add_sub_cancel]

/-- The direction of the pixel of a point is the point at unit depth. -/
theorem camRay_pixel (hK : IsUnit d.cameraInnerMatrix.det)
    (hrow : d.cameraInnerMatrix 2=![0,0,1]) {t : Fin 3 → ℝ} (hdepth : 0<t 2) :
    d.camRay (d.pixel 0 t) (d.pixel 1 t)=(t 2)⁻¹•t := by
  have hlast : (d.cameraInnerMatrix *ᵥ t) 2=t 2 := by
    rw [mulVec,hrow]
    simp [dotProduct,Fin.sum_univ_three]
  have himage : ![d.pixel 0 t,d.pixel 1 t,1]=(t 2)⁻¹•(d.cameraInnerMatrix *ᵥ t) := by
    ext i
    fin_cases i
    · change d.pixel 0 t=(t 2)⁻¹*(d.cameraInnerMatrix *ᵥ t) 0
      rw [pixel,hlast,div_eq_inv_mul]
    · change d.pixel 1 t=(t 2)⁻¹*(d.cameraInnerMatrix *ᵥ t) 1
      rw [pixel,hlast,div_eq_inv_mul]
    · change 1=(t 2)⁻¹*(d.cameraInnerMatrix *ᵥ t) 2
      rw [hlast,inv_mul_cancel₀ hdepth.ne']
  rw [camRay,himage,mulVec_smul,mulVec_mulVec,nonsing_inv_mul _ hK,one_mulVec]

/-- For a tag on the platform, in front of the camera and not seen along the horizon,
both solvers find its place in the world and the same place in the body frame. -/
theorem solvers_agree (hK : IsUnit d.cameraInnerMatrix.det)
    (hrow : d.cameraInnerMatrix 2=![0,0,1]) (hrot : drone.rWb*drone.rWbᵀ=1)
    (tag : TargetPose) (point : Fin 3 → ℝ) (platformHeight : ℝ)
    (hplane : point 2=platformHeight) (hexact : tag.t=d.inCamera drone gimbal point)
    (hdepth : 0<tag.t 2)
    (hray : 1e-6 ≤ |d.worldRay (d.pixel 0 tag.t) (d.pixel 1 tag.t) drone gimbal 2|) :
    d.solvePoseByRay (d.pixel 0 tag.t) (d.pixel 1 tag.t) drone platformHeight gimbal=
        some ((d.solvePoseByPnp tag drone gimbal).world,
          (d.solvePoseByPnp tag drone gimbal).posBody) ∧
      (d.solvePoseByPnp tag drone gimbal).world=
        drone.pos+drone.rWb *ᵥ (d.solvePoseByPnp tag drone gimbal).posBody ∧
      (d.solvePoseByPnp tag drone gimbal).world=point ∧
      (d.solvePoseByPnp tag drone gimbal).world 2=platformHeight := by
  have hworld : (d.solvePoseByPnp tag drone gimbal).world=point := by
    rw [solvePoseByPnp,hexact]
    exact d.world_of_inCamera drone gimbal hrot point
  refine ⟨?_,rfl,hworld,by rw [hworld,hplane]⟩
  have hcam := d.camRay_pixel hK hrow hdepth
  have hworldRay : d.worldRay (d.pixel 0 tag.t) (d.pixel 1 tag.t) drone gimbal=
      (tag.t 2)⁻¹•(drone.rWb *ᵥ (cameraToBody drone.rWb gimbal *ᵥ tag.t)) := by
    rw [worldRay,hcam,mulVec_smul,mulVec_mulVec]
  have hscaled : tag.t 2•d.worldRay (d.pixel 0 tag.t) (d.pixel 1 tag.t) drone gimbal=
      drone.rWb *ᵥ (cameraToBody drone.rWb gimbal *ᵥ tag.t) := by
    rw [hworldRay,smul_smul,mul_inv_cancel₀ hdepth.ne',one_smul]
  have hpoint : drone.pos+drone.rWb *ᵥ d.cameraBodyOffset+
      tag.t 2•d.worldRay (d.pixel 0 tag.t) (d.pixel 1 tag.t) drone gimbal=point := by
    have hchain := d.world_of_inCamera drone gimbal hrot point
    rw [←hexact,mulVec_add,←add_assoc] at hchain
    rw [hscaled,hchain]
  have hbody : (tag.t 2•cameraToBody drone.rWb gimbal) *ᵥ
      d.camRay (d.pixel 0 tag.t) (d.pixel 1 tag.t)=cameraToBody drone.rWb gimbal *ᵥ tag.t := by
    rw [hcam,smul_mulVec,mulVec_smul,smul_smul,mul_inv_cancel₀ hdepth.ne',one_smul]
  have hnonzero : d.worldRay (d.pixel 0 tag.t) (d.pixel 1 tag.t) drone gimbal 2≠0 := by
    intro hzero
    rw [hzero,abs_zero] at hray
    norm_num at hray
  have hscale : (platformHeight-(drone.pos+drone.rWb *ᵥ d.cameraBodyOffset) 2)/
      d.worldRay (d.pixel 0 tag.t) (d.pixel 1 tag.t) drone gimbal 2=tag.t 2 := by
    rw [div_eq_iff hnonzero,←hplane,←hpoint]
    simp only [Pi.add_apply,Pi.smul_apply,smul_eq_mul]
    ring
  rw [solvePoseByRay]
  dsimp only
  rw [if_neg (not_lt.mpr hray),hscale,if_neg (not_lt.mpr hdepth.le),hpoint,hbody,hworld]
  rfl

/-- Such a gimbal is taken to look straight down. -/
theorem cameraToBody_silentGimbal (rWb : Matrix (Fin 3) (Fin 3) ℝ) :
    cameraToBody rWb silentGimbal= !![0,-1,0;-1,0,0;0,0,-1] := by
  have hpitch : gimbalPitch rWb silentGimbal= -(π/2) := by
    change -(π*0.5)= -(π/2)
    rw [mul_half]
  rw [cameraToBody,hpitch,toRotationMatrix_eulerToOrientation]
  ext i j
  fin_cases i <;> fin_cases j <;>
    simp [silentGimbal,frdToFlu,camToFrd,eulerMatrix,Matrix.mul_apply,Fin.sum_univ_three]

/-- A camera with a focal length of 500 pixels off the centre of the vehicle. -/
noncomputable def mounted : LandingDetector := ⟨0.1,0.2,-0.1,!![500.0,0,320.0;0,500.0,240.0;0,0,1]⟩

/-- A vehicle that is tilted and turned. -/
noncomputable def tilted : DronePose :=
  ⟨![5.0,1,3.5],!![2.0/3.0,-1/3.0,2.0/3.0;2.0/3.0,2.0/3.0,-1/3.0;-1/3.0,2.0/3.0,2.0/3.0]⟩

/-- A tag below the vehicle, seen off the centre of the image. -/
theorem tagBelow_solvers_agree :
    mounted.solvePoseByRay 420 440 tilted (1/5) silentGimbal=
      some ((mounted.solvePoseByPnp ⟨![1,2,5],1⟩ tilted silentGimbal).world,
        (mounted.solvePoseByPnp ⟨![1,2,5],1⟩ tilted silentGimbal).posBody) := by
  have hexact : mounted.inCamera tilted silentGimbal ![3/5,9/10,1/5]=![1,2,5] := by
    rw [inCamera,cameraToBody_silentGimbal]
    ext i
    fin_cases i <;>
      simp [mounted,tilted,cameraBodyOffset,mulVec,dotProduct,Fin.sum_univ_three] <;> norm_num
  have hx : mounted.pixel 0 ![1,2,5]=420 := by
    simp [mounted,pixel,zAxis,mulVec,dotProduct,Fin.sum_univ_three]
    norm_num
  have hy : mounted.pixel 1 ![1,2,5]=440 := by
    simp [mounted,pixel,zAxis,mulVec,dotProduct,Fin.sum_univ_three]
    norm_num
  have hrot : tilted.rWb*tilted.rWbᵀ=1 := by
    ext i j
    fin_cases i <;> fin_cases j <;>
      simp [tilted,Matrix.mul_apply,Fin.sum_univ_three] <;> norm_num
  have hunit : IsUnit mounted.cameraInnerMatrix.det := by
    simp [mounted,Matrix.det_fin_three]
    norm_num
  have hrow : mounted.cameraInnerMatrix 2=![0,0,1] := by
    ext i
    fin_cases i <;> simp [mounted]
  have hdepth : (0 : ℝ)<![1,2,5] 2 := by simp
  have hray : mounted.worldRay 420 440 tilted silentGimbal 2= -(2/3) := by
    rw [worldRay,←hx,←hy,mounted.camRay_pixel hunit hrow hdepth,cameraToBody_silentGimbal]
    simp [tilted,mulVec,dotProduct,Matrix.mul_apply,Fin.sum_univ_three]
    norm_num
  have hagree := mounted.solvers_agree tilted silentGimbal hunit hrow hrot
    ⟨![1,2,5],1⟩ ![3/5,9/10,1/5] (1/5) rfl hexact.symm hdepth (by rw [hx,hy,hray]; norm_num)
  rw [hx,hy] at hagree
  exact hagree.1

end LandingDetector

end Dankong.Pland

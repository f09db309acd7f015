import Dankong.SlidingWindow
import Dankong.TagPose

/-!
# Calibration of the camera offset

`CameraOffsetEstimator` takes the pose of the vehicle and the position of a tag in
the camera frame, and averages the offsets it infers over a sliding window. It
inverts the chain of frames by which the detector locates the tag.
-/

namespace Dankong.Pland

open Runs SlidingWindow Matrix

/-- `CameraOffsetEstimator`. -/
structure CameraOffsetEstimator where
  /-- `tag_pos_w_`. -/
  tagPosW : Fin 3 → ℝ
  /-- `last_drone_pos_w_` and `last_R_wb_`, not initialised by the source. -/
  lastDrone : DronePose
  /-- `has_drone_state_`. -/
  hasDroneState : Bool := false
  /-- `max_window_size_`. -/
  maxWindowSize : ℕ
  /-- `offset_history_`. -/
  offsetHistory : List (Fin 3 → ℝ) := []

/-- `EvaluationResult`. -/
structure EvaluationResult where
  /-- `reverse_pos_error_norm`. -/
  reversePosErrorNorm : ℝ
  /-- `reverse_pos_error`. -/
  reversePosError : Fin 3 → ℝ
  /-- `offset_std_dev`. -/
  offsetStdDev : ℝ

noncomputable section

/-- `squaredNorm`. -/
def squaredNorm (v : Fin 3 → ℝ) : ℝ := v ⬝ᵥ v

namespace CameraOffsetEstimator

/-- `update_drone_state`. -/
def updateDroneState (drone : DronePose) (e : CameraOffsetEstimator) : CameraOffsetEstimator :=
  { e with lastDrone := drone, hasDroneState := true }

/-- `update_detection`: the offset of this image, and the new state. -/
def updateDetection (tTagCam : Fin 3 → ℝ) (rCb : Matrix (Fin 3) (Fin 3) ℝ)
    (e : CameraOffsetEstimator) : Option (Fin 3 → ℝ)×CameraOffsetEstimator :=
  if e.hasDroneState=false then (none,e)
  else
    let tBcSingle := e.lastDrone.rWbᵀ *ᵥ (e.tagPosW-e.lastDrone.pos)-rCb *ᵥ tTagCam
    (some tBcSingle,
      { e with offsetHistory := push e.maxWindowSize e.offsetHistory tBcSingle })

/-- `get_estimated_offset`. -/
def getEstimatedOffset (e : CameraOffsetEstimator) : Option (Fin 3 → ℝ) :=
  if e.offsetHistory.isEmpty=true then none
  else some ((e.offsetHistory.length : ℝ)⁻¹•e.offsetHistory.sum)

/-- `reset`. -/
def reset (tag : Fin 3 → ℝ) (e : CameraOffsetEstimator) : CameraOffsetEstimator :=
  { e with offsetHistory := [], hasDroneState := false, tagPosW := tag }

/-- `evaluate_error`. -/
def evaluateError (tTagCam : Fin 3 → ℝ) (rCb : Matrix (Fin 3) (Fin 3) ℝ)
    (e : CameraOffsetEstimator) : Option EvaluationResult :=
  if e.hasDroneState=false ∨ e.offsetHistory.isEmpty=true then none
  else
    e.getEstimatedOffset.map fun tBcEst =>
      let droneCalc := e.tagPosW-e.lastDrone.rWb *ᵥ (tBcEst+rCb *ᵥ tTagCam)
      let error := e.lastDrone.pos-droneCalc
      let variance := (e.offsetHistory.map fun offset => squaredNorm (offset-tBcEst)).sum/
        (e.offsetHistory.length : ℝ)
      { reversePosErrorNorm := √(squaredNorm error)
        reversePosError := error
        offsetStdDev := √variance }

end CameraOffsetEstimator

/-- `stop(save)`: the estimate becomes the offset of the detector. -/
def LandingDetector.saveOffset (d : LandingDetector) (offset : Fin 3 → ℝ) : LandingDetector :=
  { d with offsetX := offset xAxis, offsetY := offset yAxis, offsetZ := offset zAxis }

/-- What the detector does with an estimator. -/
inductive CalibrationOp
  /-- `update_drone_state`. -/
  | droneState (drone : DronePose)
  /-- `update_detection`, with the rotation of the gimbal at the last pose. -/
  | detection (tTagCam : Fin 3 → ℝ) (gimbal : Gimbal)
  /-- `reset`. -/
  | reset (tag : Fin 3 → ℝ)

/-- An estimator and the number of samples it has taken since the last reset. -/
structure Calibration where
  /-- The estimator. -/
  estimator : CameraOffsetEstimator
  /-- How many detections it has taken. -/
  samples : ℕ := 0

/-- One operation. -/
def Calibration.apply (c : Calibration) : CalibrationOp → Calibration
  | .droneState drone => { c with estimator := c.estimator.updateDroneState drone }
  | .detection tTagCam gimbal =>
    { estimator := (c.estimator.updateDetection tTagCam
        (cameraToBody c.estimator.lastDrone.rWb gimbal)).2
      samples := if c.estimator.hasDroneState=true then c.samples+1 else c.samples }
  | .reset tag => { estimator := c.estimator.reset tag }

/-- The tag is seen at this place of the camera frame if the camera sits at the offset. -/
def SeenAt (offset : Fin 3 → ℝ) (drone : DronePose) (gimbal : Gimbal)
    (tTagCam tag : Fin 3 → ℝ) : Prop :=
  tag=drone.pos+drone.rWb *ᵥ (offset+cameraToBody drone.rWb gimbal *ᵥ tTagCam)

/-- Attitudes are rotations, and what is detected is seen from the true offset. -/
def Genuine (offset : Fin 3 → ℝ) (c : Calibration) : CalibrationOp → Prop
  | .droneState drone => drone.rWbᵀ*drone.rWb=1
  | .detection tTagCam gimbal => c.estimator.hasDroneState=true →
    SeenAt offset c.estimator.lastDrone gimbal tTagCam c.estimator.tagPosW
  | .reset _ => True

/-- A new estimator. -/
def newCalibration (tag : Fin 3 → ℝ) (drone : DronePose) (window : ℕ) : Calibration where
  estimator := { tagPosW := tag, lastDrone := drone, maxWindowSize := window }

end

/-- The offset is estimated without error, and a detector that saves the estimate
finds the tag wherever it is seen. -/
structure Calibrated (offset : Fin 3 → ℝ) (e : CameraOffsetEstimator) : Prop where
  estimate : e.getEstimatedOffset=some offset
  error : ∀ tTagCam gimbal,SeenAt offset e.lastDrone gimbal tTagCam e.tagPosW →
    e.evaluateError tTagCam (cameraToBody e.lastDrone.rWb gimbal)=some ⟨0,0,0⟩
  located : ∀ (d : LandingDetector) drone gimbal (tag : TargetPose) estimate,
    e.getEstimatedOffset=some estimate → SeenAt offset drone gimbal tag.t e.tagPosW →
    ((d.saveOffset estimate).solvePoseByPnp tag drone gimbal).world=e.tagPosW

variable {offset : Fin 3 → ℝ} {e : CameraOffsetEstimator} {c : Calibration}

/-- Seen from the true offset, an image gives the true offset. -/
theorem offset_of_seenAt {drone : DronePose} {gimbal : Gimbal} {tTagCam tag : Fin 3 → ℝ}
    (hrot : drone.rWbᵀ*drone.rWb=1) (hseen : SeenAt offset drone gimbal tTagCam tag) :
    drone.rWbᵀ *ᵥ (tag-drone.pos)-cameraToBody drone.rWb gimbal *ᵥ tTagCam=offset := by
  have hseen : tag=drone.pos+drone.rWb *ᵥ
    (offset+cameraToBody drone.rWb gimbal *ᵥ tTagCam) := hseen
  rw [hseen,add_sub_cancel_left,mulVec_mulVec,hrot,one_mulVec,add_sub_cancel_right]

/-- The mean of equal offsets. -/
theorem estimate_of_const (hne : e.offsetHistory≠[]) (hall : ∀ o∈e.offsetHistory,o=offset) :
    e.getEstimatedOffset=some offset := by
  have hlength : (e.offsetHistory.length : ℝ)≠0 := by
    rw [Nat.cast_ne_zero]
    exact List.length_pos_iff.mpr hne |>.ne'
  have hsum := List.sum_eq_card_nsmul e.offsetHistory offset hall
  rw [CameraOffsetEstimator.getEstimatedOffset,if_neg (by simpa using hne),hsum,
    ←Nat.cast_smul_eq_nsmul ℝ,smul_smul,inv_mul_cancel₀ hlength,one_smul]

/-- Equal offsets leave no error at a pose from which the tag is seen. -/
theorem evaluateError_of_const (hstate : e.hasDroneState=true) (hne : e.offsetHistory≠[])
    (hall : ∀ o∈e.offsetHistory,o=offset) {tTagCam : Fin 3 → ℝ} {gimbal : Gimbal}
    (hseen : SeenAt offset e.lastDrone gimbal tTagCam e.tagPosW) :
    e.evaluateError tTagCam (cameraToBody e.lastDrone.rWb gimbal)=some ⟨0,0,0⟩ := by
  have hzero : squaredNorm (0 : Fin 3 → ℝ)=0 := zero_dotProduct 0
  have hcalc : e.lastDrone.pos-(e.tagPosW-e.lastDrone.rWb *ᵥ
      (offset+cameraToBody e.lastDrone.rWb gimbal *ᵥ tTagCam))=0 := by
    have hseen : e.tagPosW=e.lastDrone.pos+e.lastDrone.rWb *ᵥ
      (offset+cameraToBody e.lastDrone.rWb gimbal *ᵥ tTagCam) := hseen
    rw [hseen,add_sub_cancel_right,sub_self]
  have hspread : (e.offsetHistory.map fun o => squaredNorm (o-offset)).sum=0 := by
    refine List.sum_eq_zero fun x hx => ?_
    obtain ⟨o,ho,rfl⟩ := List.mem_map.mp hx
    rw [hall o ho,sub_self,hzero]
  have hsamples : ¬(e.hasDroneState=false ∨ e.offsetHistory.isEmpty=true) := by
    rw [hstate,List.isEmpty_iff]
    exact not_or.mpr ⟨Bool.noConfusion,hne⟩
  rw [CameraOffsetEstimator.evaluateError,if_neg hsamples,estimate_of_const hne hall,
    Option.map_some]
  dsimp only
  rw [hcalc,hspread,hzero,zero_div,Real.sqrt_zero]

/-- A detector that saves the true offset finds the tag. -/
theorem located_of_seenAt (d : LandingDetector) {drone : DronePose} {gimbal : Gimbal}
    {tag : TargetPose} {point : Fin 3 → ℝ} (hseen : SeenAt offset drone gimbal tag.t point) :
    ((d.saveOffset offset).solvePoseByPnp tag drone gimbal).world=point := by
  have hoffset : (d.saveOffset offset).cameraBodyOffset=offset := by
    ext i
    fin_cases i <;> rfl
  rw [LandingDetector.solvePoseByPnp,hoffset]
  exact hseen.symm

/-- All samples in the window are the true offset, and the window holds as many of
them as it can. -/
structure AllTrue (offset : Fin 3 → ℝ) (window : ℕ) (c : Calibration) : Prop where
  size : c.estimator.maxWindowSize=window
  history : ∀ o∈c.estimator.offsetHistory,o=offset
  count : c.estimator.offsetHistory.length=min c.samples window
  rotation : c.estimator.hasDroneState=true →
    c.estimator.lastDrone.rWbᵀ*c.estimator.lastDrone.rWb=1
  posed : 0<c.samples → c.estimator.hasDroneState=true

/-- Genuine operations keep it so. -/
theorem allTrue_apply {window : ℕ} (op : CalibrationOp) (h : AllTrue offset window c)
    (hop : Genuine offset c op) : AllTrue offset window (c.apply op) := by
  cases op with
  | droneState drone =>
    exact { h with rotation := fun _ => hop, posed := fun _ => rfl }
  | reset tag =>
    refine ⟨h.size,fun o ho => absurd ho List.not_mem_nil,?_,fun hno => ?_,fun hno => ?_⟩
    · rw [Calibration.apply]
      exact (Nat.zero_min window).symm
    · exact Bool.noConfusion hno
    · exact absurd hno (lt_irrefl 0)
  | detection tTagCam gimbal =>
    by_cases hstate : c.estimator.hasDroneState=true
    · have hoffset := offset_of_seenAt (h.rotation hstate) (hop hstate)
      have hnot : ¬c.estimator.hasDroneState=false := by
        rw [hstate]
        exact Bool.noConfusion
      have hfits : c.estimator.offsetHistory.length ≤ window := by
        rw [h.count]
        exact min_le_right _ _
      rw [Calibration.apply,CameraOffsetEstimator.updateDetection,if_neg hnot,if_pos hstate]
      dsimp only
      rw [hoffset,h.size]
      refine ⟨rfl,forall_mem_push h.history rfl,?_,h.rotation,fun _ => hstate⟩
      change (push window c.estimator.offsetHistory offset).length=min (c.samples+1) window
      rw [length_push hfits,h.count]
      omega
    · have hoff : c.estimator.hasDroneState=false := Bool.eq_false_iff.mpr hstate
      rw [Calibration.apply,CameraOffsetEstimator.updateDetection,if_pos hoff,if_neg hstate]
      exact h

/-- Whatever happens, the window keeps its size, and if it has room for a sample, from the
first one after a reset on the offset is known exactly. -/
theorem offset_calibrated (offset tag : Fin 3 → ℝ) (drone : DronePose) (window : ℕ)
    (ops : List CalibrationOp)
    (hgenuine : Guarded Calibration.apply (Genuine offset) (newCalibration tag drone window) ops) :
    (runFrom Calibration.apply (newCalibration tag drone window) ops).estimator.offsetHistory.length ≤
        window ∧
      (0<window → 0<(runFrom Calibration.apply (newCalibration tag drone window) ops).samples →
        Calibrated offset (runFrom Calibration.apply (newCalibration tag drone window) ops).estimator) := by
  have hstart : AllTrue offset window (newCalibration tag drone window) := by
    refine ⟨rfl,fun o ho => absurd ho List.not_mem_nil,(Nat.zero_min window).symm,?_,?_⟩
    · intro hno
      exact Bool.noConfusion hno
    · intro hno
      exact absurd hno (lt_irrefl 0)
  have h := guarded_invariant (fun c op hc hop => allTrue_apply op hc hop) ops hstart hgenuine
  generalize runFrom Calibration.apply (newCalibration tag drone window) ops=c at h ⊢
  refine ⟨by rw [h.count]; exact min_le_right _ _,fun hwindow hsamples => ?_⟩
  have hne : c.estimator.offsetHistory≠[] := by
    rw [←List.length_pos_iff,h.count]
    exact lt_min hsamples hwindow
  have hestimate := estimate_of_const hne h.history
  refine ⟨hestimate,fun tTagCam gimbal hseen => ?_,fun d drone gimbal tag estimate he hseen => ?_⟩
  · exact evaluateError_of_const (h.posed hsamples) hne h.history hseen
  · obtain rfl := Option.some.inj (hestimate.symm.trans he)
    exact located_of_seenAt d hseen

/-- A level vehicle ten metres above the origin. -/
def hovering : DronePose := ⟨![0,0,10.0],1⟩

/-- A camera one metre ahead of the centre sees the origin here. -/
theorem seenAt_hovering : SeenAt ![1,0,0] hovering silentGimbal ![0,1,10.0] 0 := by
  rw [SeenAt,LandingDetector.cameraToBody_silentGimbal]
  ext i
  fin_cases i <;> simp [hovering,vecHead,vecTail]

/-- One pose and one detection. -/
def oneSample : List CalibrationOp := [.droneState hovering,.detection ![0,1,10.0] silentGimbal]

/-- The sample is genuine. -/
theorem oneSample_genuine (window : ℕ) :
    Guarded Calibration.apply (Genuine ![1,0,0]) (newCalibration 0 hovering window) oneSample :=
  ⟨by simp [Genuine,hovering],fun _ => seenAt_hovering,trivial⟩

/-- One sample calibrates. -/
theorem oneSample_calibrated : Calibrated ![1,0,0]
    (runFrom Calibration.apply (newCalibration 0 hovering 30) oneSample).estimator :=
  (offset_calibrated ![1,0,0] 0 hovering 30 oneSample (oneSample_genuine 30)).2 (by decide)
    Nat.one_pos

/-- Before the first sample there is no estimate, and without room for a sample there
never is one. -/
theorem unsampled_not_calibrated :
    ¬Calibrated ![1,0,0] (newCalibration 0 hovering 30).estimator ∧
      ¬Calibrated ![1,0,0]
        (runFrom Calibration.apply (newCalibration 0 hovering 0) oneSample).estimator := by
  constructor
  · intro hcalibrated
    have hnone : (newCalibration 0 hovering 30).estimator.getEstimatedOffset=none := rfl
    exact Option.some_ne_none _ (hcalibrated.estimate.symm.trans hnone)
  · intro hcalibrated
    have hnone : (runFrom Calibration.apply (newCalibration 0 hovering 0)
      oneSample).estimator.getEstimatedOffset=none := rfl
    exact Option.some_ne_none _ (hcalibrated.estimate.symm.trans hnone)

end Dankong.Pland

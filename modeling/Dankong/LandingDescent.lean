import Mathlib.Algebra.Order.Field.Basic
import Mathlib.Data.Rat.Cast.CharZero
import Mathlib.Tactic.NormNum

/-!
# Vertical control of the landing controller

`calculate_shared_z_descent`, which both servoing modes of `PlandController`
use: touchdown detection, the blind-drop decision with its height hysteresis,
the descent funnel and the gains derived from the outcome. It is arithmetic over
any ordered field.
-/

namespace Dankong.Pland

/-- The parameters of `PlandConfig` the controller reads. -/
structure PlandConfig (R : Type*) where
  /-- Mounting position of the camera in the body frame. -/
  offsetX : R
  offsetY : R
  /-- Speed of a blind drop before the fixed addition. -/
  touchdownVelocity : R
  /-- Height to climb to after the target is lost. -/
  lostTargetAlt : R
  /-- Horizontal acceleration and cruise speed. -/
  plandMaxAccXy : R
  plandCruiseSpeedXy : R
  /-- Height below which the horizontal gain decays. -/
  plandDecayStartZ : R
  /-- Gains of the position feedback. -/
  plandGammaYaw : R
  plandGamma : R
  plandMinGamma : R
  plandGammaZ : R
  /-- Height of the landing platform. -/
  platformHeight : R
  /-- Largest descent speed. -/
  plandMaxVelZ : R
  /-- Whether touchdown disarms instead of landing. -/
  plandUseDisarm : Bool
  /-- Whether feed-forward velocities are used. -/
  useFfVel : Bool
  /-- Horizontal error that permits a blind drop. -/
  blindDropXyThresh : R
  /-- Horizontal error that permits descent, high up and near the ground. -/
  holdDistThreshMax : R
  holdDistThreshMin : R
  /-- Height below which a blind drop may begin. -/
  plandBlindDropAlt : R
  /-- Touchdown height. -/
  plandLandAlt : R
  /-- Height below which the smallest hold threshold applies. -/
  holdDistThreshMinAlt : R
  /-- Position and velocity gain of the trajectory generator. -/
  plandKp : R
  plandKv : R
  /-- Gain of the visual servoing mode. -/
  visionKp : R
  /-- Whether the visual servoing mode is used. -/
  pureVision : Bool
  /-- Age at which an injected target lapses, and the radius around it in which
  the landing begins. -/
  plandTargetTimeout : R
  plandTargetDistance : R
  /-- Shape of the alignment funnel. -/
  plandFunnelMaxRadius : R
  plandFunnelRadiusK : R

/-- `ZControlCmd`. -/
structure ZControlCmd (R : Type*) where
  /-- Whether the vehicle has touched down. -/
  shouldLand : Bool
  /-- Whether touchdown disarms. -/
  shouldDisarm : Bool
  /-- Whether a blind drop is in progress. -/
  isBlindDrop : Bool
  /-- Descent speed, not negative. -/
  descentVel : R
  /-- Hold threshold at the present height. -/
  holdDistThresh : R
  /-- Target height. -/
  enuTargetZ : R
  /-- Vertical gain. -/
  enuGammaZ : R
  /-- Horizontal gain. -/
  enuGammaXy : R

variable {R : Type*} [Field R] [LinearOrder R]

/-- The default configuration. -/
def PlandConfig.initial : PlandConfig R where
  offsetX := 0
  offsetY := 0
  touchdownVelocity := 0.4
  lostTargetAlt := 15.0
  plandMaxAccXy := 1
  plandCruiseSpeedXy := 3.0
  plandDecayStartZ := 3.0
  plandGammaYaw := 0.2
  plandGamma := 0.25
  plandMinGamma := 0.1
  plandGammaZ := 0.5
  platformHeight := 0
  plandMaxVelZ := 1
  plandUseDisarm := false
  useFfVel := true
  blindDropXyThresh := 0.2
  holdDistThreshMax := 1.8
  holdDistThreshMin := 0.2
  plandBlindDropAlt := 0.3
  plandLandAlt := 0.1
  holdDistThreshMinAlt := 0.5
  plandKp := 1.5
  plandKv := 2.5
  visionKp := 1
  pureVision := true
  plandTargetTimeout := 1
  plandTargetDistance := 3.0
  plandFunnelMaxRadius := 0.15
  plandFunnelRadiusK := 0.1

/-- The height above which a blind drop is called off. -/
def resetHeight (cfg : PlandConfig R) : R := max 1 (cfg.plandBlindDropAlt+0.5)

/-- The blind-drop decision: called off above the reset height, begun or
continued below the blind-drop height. -/
def blindDropNext (cfg : PlandConfig R) (currentZ currentXyError : R) (isBlindDrop : Bool) :
    Bool :=
  let kept := if resetHeight cfg<currentZ then false else isBlindDrop
  if currentZ<cfg.plandBlindDropAlt ∧ (currentXyError<cfg.blindDropXyThresh ∨ kept=true)
    then true else kept

/-- The hold threshold at a height, interpolated up to the base height. -/
def holdDistThresh (cfg : PlandConfig R) (currentZ : R) : R :=
  if currentZ≤cfg.holdDistThreshMinAlt then cfg.holdDistThreshMin
  else cfg.holdDistThreshMin+
    (min currentZ 10.0-cfg.holdDistThreshMinAlt)/(10.0-cfg.holdDistThreshMinAlt)*
      (cfg.holdDistThreshMax-cfg.holdDistThreshMin)

/-- Willingness to descend at a horizontal error, from one to zero. -/
def xyDescentFactor (cfg : PlandConfig R) (currentZ currentXyError : R) : R :=
  let align := max cfg.plandFunnelMaxRadius (currentZ*cfg.plandFunnelRadiusK)
  let hold := holdDistThresh cfg currentZ
  if hold<currentXyError then 0
  else if align<currentXyError then 1-(currentXyError-align)/(hold-align)
  else 1

/-- Willingness to descend at a yaw error in degrees, from one to zero. -/
def yawDescentFactor (absYawErrDeg : R) : R :=
  if 35.0<absYawErrDeg then 0
  else if 15.0<absYawErrDeg then 1-(absYawErrDeg-15.0)/(35.0-15.0)
  else 1

/-- Descent speed before the overall cap. -/
def wantedDescentVel (cfg : PlandConfig R) (currentZ currentXyError absYawErrDeg : R)
    (isBlindDrop : Bool) : R :=
  if isBlindDrop=true then cfg.touchdownVelocity+0.2
  else
    let descentFactor := xyDescentFactor cfg currentZ currentXyError*yawDescentFactor absYawErrDeg
    if 0.05<descentFactor then
      (0.2+min 1 |currentZ/max 10.0 1| * 0.8)*descentFactor
    else 0

/-- The horizontal gain at a height. -/
def gammaXy (cfg : PlandConfig R) (currentZ : R) : R :=
  if 0<currentZ ∧ currentZ≤cfg.plandDecayStartZ then
    cfg.plandMinGamma+(cfg.plandGamma-cfg.plandMinGamma)*(currentZ/cfg.plandDecayStartZ)
  else if currentZ≤0 then cfg.plandMinGamma else cfg.plandGamma

/-- `calculate_shared_z_descent`. -/
def calculateSharedZDescent (cfg : PlandConfig R) (currentZ currentXyError absYawErrDeg : R)
    (isCurrentlyBlindDrop : Bool) (droneEnuZ : R) : ZControlCmd R :=
  if currentZ<cfg.plandLandAlt then
    { shouldLand := true
      shouldDisarm := cfg.plandUseDisarm
      isBlindDrop := isCurrentlyBlindDrop
      descentVel := 0
      holdDistThresh := 0
      enuTargetZ := 0
      enuGammaZ := 0
      enuGammaXy := 0 }
  else
    let isBlindDrop := blindDropNext cfg currentZ currentXyError isCurrentlyBlindDrop
    let descentVel := min
      (wantedDescentVel cfg currentZ currentXyError absYawErrDeg isBlindDrop) cfg.plandMaxVelZ
    { shouldLand := false
      shouldDisarm := false
      isBlindDrop := isBlindDrop
      descentVel := descentVel
      holdDistThresh := holdDistThresh cfg currentZ
      enuTargetZ := if 0<descentVel then cfg.platformHeight-0.5 else droneEnuZ
      enuGammaZ := if isBlindDrop=true then 100.0 else cfg.plandGammaZ
      enuGammaXy := gammaXy cfg currentZ }

section

variable (cfg : PlandConfig R) (currentZ currentXyError : R) (isBlindDrop : Bool)

/-- A decision for a blind drop is earned at this height and error, or carried
over without having risen above the reset height. -/
theorem blindDropNext_eq_true (h : blindDropNext cfg currentZ currentXyError isBlindDrop=true) :
    currentZ<cfg.plandBlindDropAlt ∧ currentXyError<cfg.blindDropXyThresh ∨
      ¬resetHeight cfg<currentZ ∧ isBlindDrop=true := by
  dsimp only [blindDropNext] at h
  by_cases hhigh : resetHeight cfg<currentZ
  · simp only [if_pos hhigh,Bool.false_eq_true,or_false,ite_eq_left_iff] at h
    by_cases hearn : currentZ<cfg.plandBlindDropAlt ∧ currentXyError<cfg.blindDropXyThresh
    · exact Or.inl hearn
    · exact absurd (h hearn) (by simp)
  · simp only [if_neg hhigh] at h
    split at h
    · rename_i hlow
      rcases hlow.2 with he|hk
      · exact Or.inl ⟨hlow.1,he⟩
      · exact Or.inr ⟨hhigh,hk⟩
    · exact Or.inr ⟨hhigh,h⟩

/-- Low and accurate control begins or continues a blind drop. -/
theorem blindDropNext_of_accurate (hz : currentZ<cfg.plandBlindDropAlt)
    (he : currentXyError<cfg.blindDropXyThresh) :
    blindDropNext cfg currentZ currentXyError isBlindDrop=true := by
  dsimp only [blindDropNext]
  rw [if_pos ⟨hz,Or.inl he⟩]

/-- Touchdown is reported exactly below the touchdown height. -/
theorem calculateSharedZDescent_shouldLand (absYawErrDeg droneEnuZ : R) :
    (calculateSharedZDescent cfg currentZ currentXyError absYawErrDeg isBlindDrop
      droneEnuZ).shouldLand=true ↔ currentZ<cfg.plandLandAlt := by
  dsimp only [calculateSharedZDescent]
  split
  · rename_i hland
    exact iff_of_true rfl hland
  · rename_i hland
    exact iff_of_false (by simp) hland

/-- From the touchdown height on the blind-drop decision is the one above. -/
theorem calculateSharedZDescent_isBlindDrop (absYawErrDeg droneEnuZ : R)
    (h : ¬currentZ<cfg.plandLandAlt) :
    (calculateSharedZDescent cfg currentZ currentXyError absYawErrDeg isBlindDrop
      droneEnuZ).isBlindDrop=blindDropNext cfg currentZ currentXyError isBlindDrop := by
  dsimp only [calculateSharedZDescent]
  rw [if_neg h]

end

end Dankong.Pland

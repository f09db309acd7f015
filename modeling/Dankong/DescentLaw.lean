import Dankong.LandingDescent
import Dankong.Ramps

/-!
# The descent law

Bounds and monotonicity of the descent speed and of the horizontal gain. All
divisors of `calculate_shared_z_descent` are guarded by the branch they stand in,
but for the width of the hold threshold's interpolation, which vanishes if the
lowest threshold is configured to hold up to the base height of ten metres.
-/

namespace Dankong.Pland

open Ramps

variable {R : Type*} [Field R] [LinearOrder R]

/-- The divisors that a call of `calculate_shared_z_descent` evaluates. -/
def divisors (cfg : PlandConfig R) (currentZ currentXyError absYawErrDeg : R)
    (isCurrentlyBlindDrop : Bool) : List R :=
  let align := max cfg.plandFunnelMaxRadius (currentZ*cfg.plandFunnelRadiusK)
  let hold := holdDistThresh cfg currentZ
  let descentFactor := xyDescentFactor cfg currentZ currentXyError*yawDescentFactor absYawErrDeg
  if currentZ<cfg.plandLandAlt then []
  else
    (if currentZ≤cfg.holdDistThreshMinAlt then [] else [10.0-cfg.holdDistThreshMinAlt])++
    (if blindDropNext cfg currentZ currentXyError isCurrentlyBlindDrop=true then []
      else
        (if hold<currentXyError then [] else if align<currentXyError then [hold-align] else [])++
        (if 35.0<absYawErrDeg then [] else if 15.0<absYawErrDeg then [35.0-15.0] else [])++
        (if 0.05<descentFactor then [max 10.0 1] else []))++
    (if 0<currentZ ∧ currentZ≤cfg.plandDecayStartZ then [cfg.plandDecayStartZ] else [])

/-- What is asked of the descent at a height. -/
structure DescentSafe (cfg : PlandConfig R) (currentZ : R) : Prop where
  /-- No divisor is zero. -/
  divides : ∀ xyError yawErr blind,∀ d∈divisors cfg currentZ xyError yawErr blind,d≠0
  /-- The speed lies between zero and its maximum. -/
  bounded : ∀ xyError yawErr blind enuZ,
    0 ≤ (calculateSharedZDescent cfg currentZ xyError yawErr blind enuZ).descentVel ∧
      (calculateSharedZDescent cfg currentZ xyError yawErr blind enuZ).descentVel ≤
        cfg.plandMaxVelZ
  /-- Outside the hold threshold or beyond the yaw gate only a blind drop descends. -/
  held : ∀ xyError yawErr blind enuZ,
    (calculateSharedZDescent cfg currentZ xyError yawErr blind enuZ).isBlindDrop=false →
    (calculateSharedZDescent cfg currentZ xyError yawErr blind enuZ).holdDistThresh<xyError ∨
      35.0<yawErr →
    (calculateSharedZDescent cfg currentZ xyError yawErr blind enuZ).descentVel=0
  /-- Greater errors with the same blind-drop outcome do not descend faster. -/
  antitone : ∀ xyError xyError' yawErr yawErr' blind blind' enuZ enuZ',xyError≤xyError' →
    yawErr≤yawErr' →
    (calculateSharedZDescent cfg currentZ xyError yawErr blind enuZ).isBlindDrop=
      (calculateSharedZDescent cfg currentZ xyError' yawErr' blind' enuZ').isBlindDrop →
    (calculateSharedZDescent cfg currentZ xyError' yawErr' blind' enuZ').descentVel ≤
      (calculateSharedZDescent cfg currentZ xyError yawErr blind enuZ).descentVel
  /-- The horizontal gain lies between its bounds. -/
  gain : ∀ xyError yawErr blind enuZ,
    cfg.plandMinGamma ≤
        (calculateSharedZDescent cfg currentZ xyError yawErr blind enuZ).enuGammaXy ∧
      (calculateSharedZDescent cfg currentZ xyError yawErr blind enuZ).enuGammaXy ≤
        cfg.plandGamma

/-- The hold threshold's interpolation has a width at this height. -/
def HoldWidth (cfg : PlandConfig R) (currentZ : R) : Prop :=
  currentZ≤cfg.holdDistThreshMinAlt ∨ cfg.holdDistThreshMinAlt≠10.0

section

variable (cfg : PlandConfig R) (currentZ : R)

/-- The horizontal factor is a ramp from the alignment to the hold threshold. -/
theorem xyDescentFactor_eq (xyError : R) : xyDescentFactor cfg currentZ xyError=
    fall (max cfg.plandFunnelMaxRadius (currentZ*cfg.plandFunnelRadiusK))
      (holdDistThresh cfg currentZ) xyError := rfl

/-- The yaw factor is a ramp from 15 to 35 degrees. -/
theorem yawDescentFactor_eq (yawErr : R) : yawDescentFactor yawErr=fall 15.0 35.0 yawErr := rfl

/-- The wanted speed outside a blind drop. -/
theorem wantedDescentVel_eq (xyError yawErr : R) :
    wantedDescentVel cfg currentZ xyError yawErr false=shutOff 0.05 (0.2+min 1 |currentZ/max 10.0 1| * 0.8)
      (xyDescentFactor cfg currentZ xyError*yawDescentFactor yawErr) := rfl

variable {cfg currentZ}

/-- From the touchdown height on a call returns the law's values. -/
theorem calculateSharedZDescent_eq (hz : cfg.plandLandAlt≤currentZ) (xyError yawErr : R)
    (blind : Bool) (enuZ : R) :
    (calculateSharedZDescent cfg currentZ xyError yawErr blind enuZ).isBlindDrop=
        blindDropNext cfg currentZ xyError blind ∧
      (calculateSharedZDescent cfg currentZ xyError yawErr blind enuZ).holdDistThresh=
        holdDistThresh cfg currentZ ∧
      (calculateSharedZDescent cfg currentZ xyError yawErr blind enuZ).descentVel=
        min (wantedDescentVel cfg currentZ xyError yawErr
          (blindDropNext cfg currentZ xyError blind)) cfg.plandMaxVelZ ∧
      (calculateSharedZDescent cfg currentZ xyError yawErr blind enuZ).enuGammaXy=
        gammaXy cfg currentZ := by
  rw [calculateSharedZDescent,if_neg (not_lt.mpr hz)]
  exact ⟨rfl,rfl,rfl,rfl⟩

/-- With its width, the interpolation is the last divisor to be safe. -/
theorem divisors_ne_zero (hz : cfg.plandLandAlt≤currentZ) (hwidth : HoldWidth cfg currentZ)
    [IsStrictOrderedRing R] (xyError yawErr : R) (blind : Bool) :
    ∀ d∈divisors cfg currentZ xyError yawErr blind,d≠0 := by
  intro d hd
  dsimp only [divisors] at hd
  rw [if_neg (not_lt.mpr hz),List.mem_append,List.mem_append] at hd
  rcases hd with (hhold|hdescent)|hgain
  · obtain ⟨hhigh,hd⟩ := List.mem_ite_nil_left.mp hhold
    rw [List.mem_singleton.mp hd]
    exact sub_ne_zero.mpr (hwidth.resolve_left hhigh).symm
  · obtain ⟨_,hd⟩ := List.mem_ite_nil_left.mp hdescent
    rw [List.mem_append,List.mem_append] at hd
    rcases hd with (hxy|hyaw)|hbase
    · obtain ⟨hinside,hd⟩ := List.mem_ite_nil_left.mp hxy
      obtain ⟨hoff,hd⟩ := List.mem_ite_nil_right.mp hd
      rw [List.mem_singleton.mp hd]
      exact (sub_pos.mpr (hoff.trans_le (not_lt.mp hinside))).ne'
    · obtain ⟨_,hd⟩ := List.mem_ite_nil_left.mp hyaw
      obtain ⟨_,hd⟩ := List.mem_ite_nil_right.mp hd
      rw [List.mem_singleton.mp hd]
      norm_num
    · obtain ⟨_,hd⟩ := List.mem_ite_nil_right.mp hbase
      rw [List.mem_singleton.mp hd]
      exact (zero_lt_one.trans_le (le_max_right _ _)).ne'
  · obtain ⟨hdecay,hd⟩ := List.mem_ite_nil_right.mp hgain
    rw [List.mem_singleton.mp hd]
    exact (hdecay.1.trans_le hdecay.2).ne'

variable [IsStrictOrderedRing R]

/-- The speed at full willingness is not negative. -/
theorem baseDescentVel_nonneg (currentZ : R) : 0 ≤ 0.2+min 1 |currentZ/max 10.0 1| * 0.8 := by
  have hratio : 0 ≤ min 1 |currentZ/max 10.0 1| := le_min zero_le_one (abs_nonneg _)
  have hbase : (0 : R) ≤ 0.2 := by norm_num
  have hslope : (0 : R) ≤ 0.8 := by norm_num
  exact add_nonneg hbase (mul_nonneg hratio hslope)

/-- The wanted speed is not negative. -/
theorem wantedDescentVel_nonneg (htouch : 0 ≤ cfg.touchdownVelocity) (xyError yawErr : R)
    (blind : Bool) : 0 ≤ wantedDescentVel cfg currentZ xyError yawErr blind := by
  cases blind with
  | true =>
    have hextra : (0 : R) ≤ 0.2 := by norm_num
    exact add_nonneg htouch hextra
  | false =>
    rw [wantedDescentVel_eq]
    exact shutOff_nonneg (by norm_num) (baseDescentVel_nonneg currentZ)

/-- Greater errors do not want a faster descent. -/
theorem wantedDescentVel_antitone {xyError xyError' yawErr yawErr' : R} (hxy : xyError≤xyError')
    (hyaw : yawErr≤yawErr') (blind : Bool) :
    wantedDescentVel cfg currentZ xyError' yawErr' blind ≤
      wantedDescentVel cfg currentZ xyError yawErr blind := by
  cases blind with
  | true => exact le_rfl
  | false =>
    rw [wantedDescentVel_eq,wantedDescentVel_eq]
    refine shutOff_mono (by norm_num) (baseDescentVel_nonneg currentZ) ?_
    exact mul_le_mul (fall_antitone _ _ hxy) (fall_antitone _ _ hyaw) (fall_mem _ _ _).1
      (fall_mem _ _ _).1

/-- Outside the hold threshold or beyond the yaw gate no descent is wanted. -/
theorem wantedDescentVel_eq_zero {xyError yawErr : R}
    (hfar : holdDistThresh cfg currentZ<xyError ∨ 35.0<yawErr) :
    wantedDescentVel cfg currentZ xyError yawErr false=0 := by
  have hfactor : xyDescentFactor cfg currentZ xyError*yawDescentFactor yawErr=0 := by
    rcases hfar with hxy|hyaw
    · rw [xyDescentFactor_eq,fall_of_lt hxy,zero_mul]
    · rw [yawDescentFactor_eq,fall_of_lt hyaw,mul_zero]
  rw [wantedDescentVel_eq,hfactor]
  exact if_neg (not_lt.mpr (by norm_num))

/-- The horizontal gain lies between its bounds at every height. -/
theorem gammaXy_mem (hgamma : cfg.plandMinGamma≤cfg.plandGamma) (currentZ : R) :
    cfg.plandMinGamma ≤ gammaXy cfg currentZ ∧ gammaXy cfg currentZ ≤ cfg.plandGamma := by
  rw [gammaXy]
  split_ifs with hdecay hlow
  · have hpos : 0<cfg.plandDecayStartZ := hdecay.1.trans_le hdecay.2
    exact interpolate_mem hgamma (div_nonneg hdecay.1.le hpos.le) ((div_le_one hpos).mpr hdecay.2)
  · exact ⟨le_rfl,hgamma⟩
  · exact ⟨hgamma,le_rfl⟩

/-- At every height from the touchdown height on the descent is safe exactly where the
interpolation of the hold threshold has a width. -/
theorem descentSafe_iff (cfg : PlandConfig R) (currentZ : R) (hz : cfg.plandLandAlt≤currentZ)
    (htouch : 0 ≤ cfg.touchdownVelocity) (hvel : 0 ≤ cfg.plandMaxVelZ)
    (hgamma : cfg.plandMinGamma≤cfg.plandGamma) :
    DescentSafe cfg currentZ ↔ HoldWidth cfg currentZ := by
  constructor
  · intro hsafe
    by_contra hwidth
    obtain ⟨hhigh,hbase⟩ := not_or.mp hwidth
    have hmem : 10.0-cfg.holdDistThreshMinAlt∈divisors cfg currentZ 0 0 false := by
      dsimp only [divisors]
      rw [if_neg (not_lt.mpr hz),if_neg hhigh]
      exact List.mem_append_left _ (List.mem_append_left _ List.mem_cons_self)
    exact hsafe.divides 0 0 false _ hmem (sub_eq_zero.mpr (not_not.mp hbase).symm)
  · intro hwidth
    constructor
    case divides => exact divisors_ne_zero hz hwidth
    case bounded =>
      intro xyError yawErr blind enuZ
      obtain ⟨_,_,hspeed,_⟩ := calculateSharedZDescent_eq hz xyError yawErr blind enuZ
      rw [hspeed]
      exact ⟨le_min (wantedDescentVel_nonneg htouch _ _ _) hvel,min_le_right _ _⟩
    case held =>
      intro xyError yawErr blind enuZ hblind hfar
      obtain ⟨houtcome,hhold,hspeed,_⟩ := calculateSharedZDescent_eq hz xyError yawErr blind enuZ
      rw [houtcome] at hblind
      rw [hhold] at hfar
      rw [hspeed,hblind,wantedDescentVel_eq_zero hfar,min_eq_left hvel]
    case antitone =>
      intro xyError xyError' yawErr yawErr' blind blind' enuZ enuZ' hxy hyaw hsame
      obtain ⟨houtcome,_,hspeed,_⟩ := calculateSharedZDescent_eq hz xyError yawErr blind enuZ
      obtain ⟨houtcome',_,hspeed',_⟩ :=
        calculateSharedZDescent_eq hz xyError' yawErr' blind' enuZ'
      rw [houtcome,houtcome'] at hsame
      rw [hspeed,hspeed',hsame]
      exact min_le_min_right _ (wantedDescentVel_antitone hxy hyaw _)
    case gain =>
      intro xyError yawErr blind enuZ
      obtain ⟨_,_,_,hgain⟩ := calculateSharedZDescent_eq hz xyError yawErr blind enuZ
      rw [hgain]
      exact gammaXy_mem hgamma currentZ

end

/-- The default configuration, five metres up. -/
theorem initial_descentSafe_iff :
    DescentSafe (PlandConfig.initial : PlandConfig ℚ) 5 ↔
      HoldWidth (PlandConfig.initial : PlandConfig ℚ) 5 :=
  descentSafe_iff PlandConfig.initial 5 (by decide +kernel) (by decide +kernel) (by decide +kernel)
    (by decide +kernel)

/-- With the lowest threshold up to ten metres, a vehicle above that divides by zero. -/
theorem holdToBase_divides_by_zero :
    ¬DescentSafe { (PlandConfig.initial : PlandConfig ℚ) with holdDistThreshMinAlt := 10 } 11 := by
  intro hsafe
  exact hsafe.divides 0 0 false 0 (by decide +kernel) rfl

end Dankong.Pland

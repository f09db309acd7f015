import Dankong.CarCommand

/-!
# Steering of the car

What the angle, the speed and the gear of a driving command mean for a car that
steers with its front wheels, against the yaw rate that was commanded.
-/

namespace Dankong.Car

open Real StateUtils

section

variable {x : ℝ}

/-- The part towards zero of a nonnegative number. -/
theorem truncate_of_nonneg (h : 0≤x) : truncate x=⌊x⌋ := if_pos h

/-- Truncation keeps signs and does not go away from zero. -/
theorem truncate_between (x : ℝ) :
    0≤x ∧ 0≤truncate x ∧ (truncate x : ℝ)≤x ∧ x<truncate x+1 ∨
      x<0 ∧ truncate x≤0 ∧ x≤truncate x ∧ (truncate x : ℝ)<x+1 := by
  unfold truncate
  rcases le_or_gt 0 x with hpos|hneg
  · rw [if_pos hpos]
    exact Or.inl ⟨hpos,Int.floor_nonneg.mpr hpos,Int.floor_le x,Int.lt_floor_add_one x⟩
  · rw [if_neg (not_le.mpr hneg)]
    exact Or.inr ⟨hneg,Int.ceil_nonpos.mpr hneg.le,Int.le_ceil x,Int.ceil_lt_add_one x⟩

/-- Truncation takes less than one unit away. -/
theorem abs_truncate_sub_lt (x : ℝ) : abs (truncate x-x)<1 := by
  rw [abs_lt]
  rcases truncate_between x with ⟨_,_,hle,hlt⟩|⟨_,_,hle,hlt⟩ <;> constructor <;> linarith

/-- Nothing is left of the numbers within one unit of zero. -/
theorem truncate_eq_zero_iff : truncate x=0 ↔ abs x<1 := by
  rw [abs_lt]
  constructor
  · intro h
    have hclose := abs_lt.mp (abs_truncate_sub_lt x)
    rw [h,Int.cast_zero] at hclose
    exact ⟨by linarith [hclose.2],by linarith [hclose.1]⟩
  · rintro ⟨hlo,hhi⟩
    rcases truncate_between x with ⟨_,hsign,hle,_⟩|⟨_,hsign,hle,_⟩
    · have hlt : truncate x<1 := by exact_mod_cast hle.trans_lt hhi
      omega
    · have hlt : -1<truncate x := by exact_mod_cast hlo.trans_le hle
      omega

/-- Truncation keeps the sign. -/
theorem truncate_mul_nonneg (x y : ℝ) (h : 0≤x*y) : 0≤truncate x*y := by
  rcases truncate_between x with ⟨hx,hsign,hle,_⟩|⟨hx,hsign,hle,_⟩
  · rcases hx.eq_or_lt with rfl|hpos
    · have hzero : truncate 0=0 := truncate_eq_zero_iff.mpr (by rw [abs_zero]; exact one_pos)
      rw [hzero,Int.cast_zero,zero_mul]
    · exact mul_nonneg (Int.cast_nonneg hsign) (nonneg_of_mul_nonneg_right h hpos)
  · have hy : y≤0 := by
      by_contra hpos
      linarith [mul_neg_of_neg_of_pos hx (not_le.mp hpos)]
    exact mul_nonneg_of_nonpos_of_nonpos (Int.cast_nonpos.mpr hsign) hy

end

noncomputable section

/-- The wheel angle, in radians, that an angle field stands for. -/
def wheelAngle (units : ℝ) : ℝ := units/300.0*maxAngle*π/180.0

/-- The speed, in m/s, that a speed field stands for. -/
def fieldSpeed (units : ℝ) : ℝ := units*0.1/3.6

/-- Yaw rate of the bicycle model; gear 1 is the reverse gear. -/
def bicycleRate (wheelbase : ℝ) (gear : UInt8) (angleUnits speedUnits : ℝ) : ℝ :=
  (if gear=1 then -fieldSpeed speedUnits else fieldSpeed speedUnits)*tan (wheelAngle angleUnits)/
    wheelbase

/-- The yaw rate that a command record stands for. -/
def turnRate (wheelbase : ℝ) (c : Ipc210) : ℝ :=
  bicycleRate wheelbase c.targetGear c.targetAngle.toInt c.targetSpeed.toNat

/-- The wheel angle that goes with a yaw rate, in units of the angle field. -/
def wantedUnits (wheelbase yawRate speed : ℝ) : ℝ :=
  arctan (wheelbase*yawRate/speed)*180.0/π/maxAngle*300.0

/-- The wheels cannot be turned far enough. -/
def Saturated (wheelbase : ℝ) (vel : Vec4 ℝ) : Prop :=
  maxAngle < |arctan (wheelbase*vel.w/hypot vel.x vel.y)*180.0/π|

/-- Neither the wheel angle nor the speed is limited. -/
def Unlimited (wheelbase maxSpeedKmh : ℝ) (vel : Vec4 ℝ) : Prop :=
  ¬Saturated wheelbase vel ∧ hypot vel.x vel.y*3.6≤ maxSpeedKmh

/-- The command record realises a velocity command of at least walking pace. -/
structure Realises (wheelbase maxSpeedKmh : ℝ) (vel : Vec4 ℝ) (c : Ipc210) : Prop where
  /-- The car does not turn the wrong way. -/
  direction : 0≤turnRate wheelbase c*vel.w
  /-- Without limits both fields are those of the commanded rate, up to less than a unit. -/
  unlimited : Unlimited wheelbase maxSpeedKmh vel → ∃ angleUnits speedUnits,
    |(c.targetAngle.toInt : ℝ)-angleUnits|<1 ∧ |(c.targetSpeed.toNat : ℝ)-speedUnits|<1 ∧
      fieldSpeed speedUnits=hypot vel.x vel.y ∧
      bicycleRate wheelbase c.targetGear angleUnits speedUnits=vel.w
  /-- With the wheels at their limit the car does not turn faster. -/
  saturated : Saturated wheelbase vel → |turnRate wheelbase c| ≤ |vel.w|
  /-- The angle field is in its range. -/
  angle : c.targetAngle.toInt∈Set.Icc (-300) 300
  /-- The speed field is at most the requested speed. -/
  requested : fieldSpeed c.targetSpeed.toNat≤hypot vel.x vel.y
  /-- It is at most the configured speed. -/
  configured : (c.targetSpeed.toNat : ℝ)*0.1≤ maxSpeedKmh

/-- The largest wheel angle. -/
theorem maxAngle_eq : maxAngle=25 := by norm_num [maxAngle]

/-- The range of the angle field. -/
theorem angleRange_eq : (300.0 : ℝ)=300 := by norm_num

/-- Half a turn in degrees. -/
theorem halfTurn_eq : (180.0 : ℝ)=180 := by norm_num

/-- The unit of the angle field. -/
theorem wheelAngle_eq (units : ℝ) : wheelAngle units=units*(π/2160) := by
  rw [wheelAngle,maxAngle_eq,angleRange_eq,halfTurn_eq]
  ring

/-- The unit of the speed field. -/
theorem fieldSpeed_eq (units : ℝ) : fieldSpeed units=units/36 := by
  have htenth : (0.1 : ℝ)=1/10 := by norm_num
  have hkmh : (3.6 : ℝ)=18/5 := by norm_num
  rw [fieldSpeed,htenth,hkmh]
  ring

/-- The wanted angle in radians. -/
theorem wheelAngle_wantedUnits (wheelbase yawRate speed : ℝ) :
    wheelAngle (wantedUnits wheelbase yawRate speed)=arctan (wheelbase*yawRate/speed) := by
  rw [wheelAngle,wantedUnits,maxAngle_eq,angleRange_eq,halfTurn_eq]
  field_simp

/-- The tangent of the wheel angle grows with the angle field. -/
theorem strictMonoOn_tan_wheelAngle :
    StrictMonoOn (fun units => tan (wheelAngle units)) (Set.Ioo (-1080) 1080) := by
  have hunit : 0<π/2160 := by positivity
  have hinside : ∀ units∈Set.Ioo (-1080 : ℝ) 1080,wheelAngle units∈Set.Ioo (-(π/2)) (π/2) := by
    rintro units ⟨hlo,hhi⟩
    have hlow := mul_lt_mul_of_pos_right hlo hunit
    have hhigh := mul_lt_mul_of_pos_right hhi hunit
    rw [wheelAngle_eq]
    constructor <;> linarith
  intro first hfirst second hsecond hlt
  refine strictMonoOn_tan (hinside first hfirst) (hinside second hsecond) ?_
  rw [wheelAngle_eq,wheelAngle_eq]
  exact mul_lt_mul_of_pos_right hlt hunit

/-- Straight wheels do not turn the car. -/
theorem tan_wheelAngle_zero : tan (wheelAngle 0)=0 := by
  rw [wheelAngle_eq,zero_mul,tan_zero]

/-- Opposite wheels turn it the other way. -/
theorem tan_wheelAngle_neg (units : ℝ) : tan (wheelAngle (-units))= -tan (wheelAngle units) := by
  rw [wheelAngle_eq,neg_mul,tan_neg,wheelAngle_eq]

/-- Wheels turned one way turn the car that way. -/
theorem tan_wheelAngle_pos {units : ℝ} (hpos : 0<units) (hlt : units<1080) :
    0<tan (wheelAngle units) := by
  have h := strictMonoOn_tan_wheelAngle ⟨by norm_num,by norm_num⟩ ⟨by linarith,hlt⟩ hpos
  dsimp only at h
  rwa [tan_wheelAngle_zero] at h

/-- The tangents compare as the angle fields do, without signs. -/
theorem abs_tan_wheelAngle_lt_iff {units bound : ℝ} (hunits : abs units<1080)
    (hbound : 0≤bound) (hlimit : bound<1080) :
    abs (tan (wheelAngle units))<tan (wheelAngle bound) ↔ abs units<bound := by
  obtain ⟨hlo,hhi⟩ := abs_lt.mp hunits
  have hinside : ∀ y : ℝ,abs y<1080 → y∈Set.Ioo (-1080 : ℝ) 1080 := fun y hy => abs_lt.mp hy
  have hnegative : abs (-bound)<1080 := by
    rwa [abs_neg,abs_of_nonneg hbound]
  have hpositive : abs bound<1080 := by
    rwa [abs_of_nonneg hbound]
  rw [abs_lt,abs_lt,←tan_wheelAngle_neg]
  refine and_congr ?_ ?_
  · exact strictMonoOn_tan_wheelAngle.lt_iff_lt (hinside _ hnegative) (hinside _ hunits)
  · exact strictMonoOn_tan_wheelAngle.lt_iff_lt (hinside _ hunits) (hinside _ hpositive)

/-- The wheels are at their limit beyond the range of the angle field. -/
theorem limit_lt_iff (degrees : ℝ) : maxAngle< |degrees| ↔ 300< |degrees/maxAngle*300.0| := by
  have hunits : abs (degrees/25*300)=abs degrees*12 := by
    rw [show degrees/25*300=degrees*12 by ring,abs_mul,abs_of_pos (by norm_num : (0 : ℝ)<12)]
  rw [maxAngle_eq,angleRange_eq,hunits]
  constructor <;> intro h <;> linarith

section

variable {wheelbase speed : ℝ} (hwheelbase : 0<wheelbase) (hspeed : 0<speed) (yawRate : ℝ)

/-- The tangent of the wanted angle. -/
theorem tan_wantedUnits : tan (wheelAngle (wantedUnits wheelbase yawRate speed))=
    wheelbase*yawRate/speed := by
  rw [wheelAngle_wantedUnits,tan_arctan]

/-- The wanted angle is less than a right angle. -/
theorem abs_wantedUnits_lt : abs (wantedUnits wheelbase yawRate speed)<1080 := by
  have hunit : 0<π/2160 := by positivity
  have hangle := wheelAngle_wantedUnits wheelbase yawRate speed
  rw [wheelAngle_eq] at hangle
  have hlo := neg_pi_div_two_lt_arctan (wheelbase*yawRate/speed)
  have hhi := arctan_lt_pi_div_two (wheelbase*yawRate/speed)
  rw [←hangle] at hlo hhi
  rw [abs_lt]
  constructor
  · refine lt_of_mul_lt_mul_right ?_ hunit.le
    linarith
  · refine lt_of_mul_lt_mul_right ?_ hunit.le
    linarith

include hwheelbase hspeed

/-- The wanted angle has the sign of the yaw rate. -/
theorem wantedUnits_mul_nonneg : 0≤wantedUnits wheelbase yawRate speed*yawRate := by
  have hunit : 0<π/2160 := by positivity
  have hangle := wheelAngle_wantedUnits wheelbase yawRate speed
  rw [wheelAngle_eq] at hangle
  have hratio : 0<wheelbase/speed := div_pos hwheelbase hspeed
  rw [mul_div_right_comm] at hangle
  rcases le_total 0 yawRate with hyaw|hyaw
  · have harctan : 0≤arctan (wheelbase/speed*yawRate) :=
      arctan_nonneg.mpr (mul_nonneg hratio.le hyaw)
    rw [←hangle] at harctan
    exact mul_nonneg (nonneg_of_mul_nonneg_left harctan hunit) hyaw
  · have harctan : arctan (wheelbase/speed*yawRate)≤0 :=
      arctan_le_zero.mpr (mul_nonpos_of_nonneg_of_nonpos hratio.le hyaw)
    rw [←hangle] at harctan
    exact mul_nonneg_of_nonpos_of_nonpos (nonpos_of_mul_nonpos_left harctan hunit) hyaw

/-- How the wanted angle compares with a bound. -/
theorem abs_wantedUnits_lt_iff {bound : ℝ} (hbound : 0≤bound) (hlimit : bound<1080) :
    abs (wantedUnits wheelbase yawRate speed)<bound ↔
      wheelbase*abs yawRate<speed*tan (wheelAngle bound) := by
  rw [←abs_tan_wheelAngle_lt_iff (abs_wantedUnits_lt yawRate) hbound hlimit,tan_wantedUnits,
    abs_div,abs_mul,abs_of_pos hwheelbase,abs_of_pos hspeed,div_lt_iff₀ hspeed,mul_comm speed]

/-- With the wheels at their limit the car is too fast for the yaw rate. -/
theorem rate_beyond_limit (h : 300<abs (wantedUnits wheelbase yawRate speed)) :
    speed*tan (wheelAngle 300)≤wheelbase*abs yawRate := by
  have hiff := abs_wantedUnits_lt_iff hwheelbase hspeed yawRate (by norm_num : (0 : ℝ)≤300)
    (by norm_num)
  exact not_lt.mp fun hlt => lt_asymm h (hiff.mpr hlt)

/-- The slowdown at the limit of the wheels never acts: the speed is below it already. -/
theorem steer_speed : (steer wheelbase yawRate speed).2=speed := by
  have hlimit : tan (maxAngle*π/180.0)=tan (wheelAngle 300) := by
    rw [wheelAngle_eq,maxAngle_eq,halfTurn_eq]
    congr 1
    ring
  have hpos : 0<tan (wheelAngle 300) := tan_wheelAngle_pos (by norm_num) (by norm_num)
  dsimp only [steer]
  by_cases hsaturated : maxAngle< |arctan (wheelbase*yawRate/speed)*180.0/π|
  · have hslow : speed*tan (wheelAngle 300)≤wheelbase*abs yawRate :=
      rate_beyond_limit hwheelbase hspeed yawRate ((limit_lt_iff _).mp hsaturated)
    rw [if_pos hsaturated,hlimit]
    refine min_eq_left ?_
    rw [mul_div_assoc',le_div_iff₀ hpos,mul_comm (abs yawRate)]
    exact hslow
  · rw [if_neg hsaturated]

omit hwheelbase hspeed in
/-- The angle command is the wanted one, cut to the range of its field. -/
theorem clamp_steer : clamp ((steer wheelbase yawRate speed).1/maxAngle*300.0) (-300.0) 300.0=
    clamp (wantedUnits wheelbase yawRate speed) (-300) 300 := by
  have hmax : 0< maxAngle := by
    rw [maxAngle_eq]
    norm_num
  have hwanted : wantedUnits wheelbase yawRate speed=
      arctan (wheelbase*yawRate/speed)*180.0/π/maxAngle*300.0 := rfl
  have hlimit := limit_lt_iff (arctan (wheelbase*yawRate/speed)*180.0/π)
  dsimp only [steer]
  rw [hwanted,angleRange_eq] at *
  split_ifs with hsaturated hright
  · have hbeyond := hlimit.mp hsaturated
    rw [abs_of_pos (by positivity)] at hbeyond
    rw [div_self hmax.ne',one_mul,clamp_of_mem (by norm_num) le_rfl,clamp,
      if_neg (by linarith),if_pos hbeyond]
  · have hleft : arctan (wheelbase*yawRate/speed)*180.0/π≤0 := not_lt.mp hright
    have hbeyond := hlimit.mp hsaturated
    rw [abs_of_nonpos (mul_nonpos_of_nonpos_of_nonneg (div_nonpos_of_nonpos_of_nonneg hleft hmax.le)
      (by norm_num))] at hbeyond
    rw [neg_div,div_self hmax.ne',neg_one_mul,clamp_of_mem le_rfl (by norm_num),clamp,
      if_pos (by linarith)]
  · rfl

end

/-- The angle that is written lies in the range of its field. -/
theorem clamp_units_mem (units : ℝ) : clamp units (-300) 300∈Set.Icc (-300 : ℝ) 300 := by
  rw [clamp]
  split_ifs with hlow hhigh
  · exact ⟨le_rfl,by norm_num⟩
  · exact ⟨by norm_num,le_rfl⟩
  · exact ⟨not_lt.mp hlow,not_lt.mp hhigh⟩

/-- So does its whole part. -/
theorem truncate_clamp_mem (units : ℝ) :
    truncate (clamp units (-300) 300)∈Set.Icc (-300 : ℤ) 300 := by
  obtain ⟨hlow,hhigh⟩ := clamp_units_mem units
  rcases truncate_between (clamp units (-300) 300) with ⟨_,hsign,hle,_⟩|⟨_,hsign,hle,_⟩
  · have hbound : truncate (clamp units (-300) 300)≤300 := by exact_mod_cast hle.trans hhigh
    exact ⟨by omega,hbound⟩
  · have hbound : -300≤truncate (clamp units (-300) 300) := by exact_mod_cast hlow.trans hle
    exact ⟨hbound,by omega⟩

/-- The angle field holds that part. -/
theorem toInt_angleField (units : ℝ) : (Int16.ofInt (truncate (clamp units (-300) 300))).toInt=
    truncate (clamp units (-300) 300) := by
  obtain ⟨hlow,hhigh⟩ := truncate_clamp_mem units
  exact Int16.toInt_ofInt_of_le (by omega) (by omega)

/-- The value of a speed field. -/
theorem toNat_toUint16 {raw scale : ℝ} (h : 0≤raw/scale) :
    (toUint16 raw scale).toNat=⌊raw/scale⌋₊%65536 := by
  have hfloor : ⌊raw/scale⌋=(⌊raw/scale⌋₊ : ℤ) := (Int.natCast_floor_eq_floor h).symm
  rw [toUint16,truncate_of_nonneg h,hfloor,UInt16.ofInt,UInt16.toNat_ofNat']
  omega

/-- A velocity command of at least walking pace: gear, angle and speed. -/
theorem cmdVel_driving {wheelbase : ℝ} (maxSpeedKmh : ℝ) {vel : Vec4 ℝ} {c : Ipc210}
    (hwheelbase : 0<wheelbase) (haccepts : innerCheckHover c.targetGear=true)
    (hspeed : 0.05≤hypot vel.x vel.y) :
    (cmdVel wheelbase maxSpeedKmh vel c).1.targetGear=(if vel.x< -0.05 then 1 else 3) ∧
      (cmdVel wheelbase maxSpeedKmh vel c).1.targetAngle.toInt=
        truncate (clamp (wantedUnits wheelbase vel.w (hypot vel.x vel.y)) (-300) 300) ∧
      (cmdVel wheelbase maxSpeedKmh vel c).1.targetSpeed=
        toUint16 (min (hypot vel.x vel.y*3.6) maxSpeedKmh) 0.1 := by
  have hpos : 0<hypot vel.x vel.y := lt_of_lt_of_le (by norm_num) hspeed
  have hgear : ¬innerCheckHover c.targetGear=false := by
    rw [haccepts]
    exact Bool.noConfusion
  have hpivot : ¬(hypot vel.x vel.y<0.05 ∧ 0.05< |vel.w|) := fun h => not_lt.mpr hspeed h.1
  dsimp only [cmdVel]
  rw [if_neg hgear,if_neg hpivot]
  dsimp only
  rw [if_pos hspeed,if_pos hspeed,clamp_steer,steer_speed hwheelbase hpos,toInt_angleField]
  exact ⟨rfl,rfl,rfl⟩

/-- Cutting to the range of the field keeps the sign. -/
theorem clamp_units_mul_nonneg {units y : ℝ} (h : 0≤units*y) :
    0≤clamp units (-300) 300*y := by
  rw [clamp]
  split_ifs with hlow hhigh
  · have hy : y≤0 := by
      by_contra hpos
      linarith [mul_neg_of_neg_of_pos (by linarith : units<0) (not_le.mp hpos)]
    exact mul_nonneg_of_nonpos_of_nonpos (by norm_num) hy
  · exact mul_nonneg (by norm_num) (nonneg_of_mul_nonneg_right h (by linarith))
  · exact h

/-- It leaves the angles below one unit alone, and no others get there. -/
theorem abs_clamp_units_lt_one_iff (units : ℝ) :
    abs (clamp units (-300) 300)<1 ↔ abs units<1 := by
  rw [clamp]
  split_ifs with hlow hhigh
  · refine iff_of_false (by norm_num) fun h => ?_
    linarith [(abs_lt.mp h).1]
  · refine iff_of_false (by norm_num) fun h => ?_
    linarith [(abs_lt.mp h).2]
  · rfl

/-- The tangent has the sign of the angle field. -/
theorem tan_wheelAngle_mul_nonneg {units y : ℝ} (hunits : abs units<1080) (h : 0≤units*y) :
    0≤tan (wheelAngle units)*y := by
  obtain ⟨hlow,hhigh⟩ := abs_lt.mp hunits
  rcases lt_trichotomy units 0 with hneg|rfl|hpos
  · have hy : y≤0 := by
      by_contra hy
      linarith [mul_neg_of_neg_of_pos hneg (not_le.mp hy)]
    have hback := tan_wheelAngle_pos (neg_pos.mpr hneg) (by linarith)
    rw [tan_wheelAngle_neg] at hback
    exact mul_nonneg_of_nonpos_of_nonpos (by linarith) hy
  · rw [tan_wheelAngle_zero,zero_mul]
  · exact mul_nonneg (tan_wheelAngle_pos hpos hhigh).le (nonneg_of_mul_nonneg_right h hpos)

/-- Only straight wheels have no tangent. -/
theorem tan_wheelAngle_eq_zero_iff {units : ℝ} (hunits : abs units<1080) :
    tan (wheelAngle units)=0 ↔ units=0 := by
  have hinjective := strictMonoOn_tan_wheelAngle.injOn.eq_iff (abs_lt.mp hunits)
    (⟨by norm_num,by norm_num⟩ : (0 : ℝ)∈Set.Ioo (-1080 : ℝ) 1080)
  rwa [tan_wheelAngle_zero] at hinjective

section

variable {wheelbase yawRate : ℝ} (hwheelbase : 0<wheelbase) {c : Ipc210}
  (hrange : abs (c.targetAngle.toInt : ℝ)≤300)

include hwheelbase hrange

/-- A record whose angle has the sign of the yaw rate turns the right way exactly if it
does not turn at all in the reverse gear. -/
theorem turnRate_mul_nonneg_iff (hsign : 0≤(c.targetAngle.toInt : ℝ)*yawRate)
    (hstraight : yawRate=0 → c.targetAngle.toInt=0) :
    0≤turnRate wheelbase c*yawRate ↔
      (c.targetGear=1 → c.targetAngle.toInt=0 ∨ c.targetSpeed.toNat=0) := by
  have hunits : abs (c.targetAngle.toInt : ℝ)<1080 := lt_of_le_of_lt hrange (by norm_num)
  have htan := tan_wheelAngle_mul_nonneg hunits hsign
  have hspeed : 0≤fieldSpeed c.targetSpeed.toNat := by
    rw [fieldSpeed_eq]
    positivity
  rw [turnRate,bicycleRate]
  by_cases hgear : c.targetGear=1
  · rw [if_pos hgear,div_mul_eq_mul_div,le_div_iff₀ hwheelbase,zero_mul,neg_mul,neg_mul,
      mul_assoc,neg_nonneg]
    constructor
    · intro hle _
      have hzero : fieldSpeed c.targetSpeed.toNat*
          (tan (wheelAngle c.targetAngle.toInt)*yawRate)=0 :=
        le_antisymm hle (mul_nonneg hspeed htan)
      rcases mul_eq_zero.mp hzero with hstill|hflat
      · rw [fieldSpeed_eq,div_eq_zero_iff] at hstill
        exact Or.inr (Nat.cast_eq_zero.mp (hstill.resolve_right (by norm_num)))
      · rcases mul_eq_zero.mp hflat with hangle|hyaw
        · exact Or.inl (Int.cast_eq_zero.mp ((tan_wheelAngle_eq_zero_iff hunits).mp hangle))
        · exact Or.inl (hstraight hyaw)
    · intro h
      rcases h hgear with hangle|hstill
      · rw [hangle,Int.cast_zero,tan_wheelAngle_zero,zero_mul,mul_zero]
      · rw [hstill,fieldSpeed_eq,Nat.cast_zero,zero_div,zero_mul]
  · rw [if_neg hgear,div_mul_eq_mul_div,mul_assoc]
    exact iff_of_true (div_nonneg (mul_nonneg hspeed htan) hwheelbase.le)
      fun h => absurd h hgear

/-- No record in range turns faster than the limit of the wheels allows. -/
theorem abs_turnRate_le {speed : ℝ} (hspeed : fieldSpeed c.targetSpeed.toNat≤ speed) :
    |turnRate wheelbase c| ≤ speed*tan (wheelAngle 300)/wheelbase := by
  have hnonneg : 0≤fieldSpeed c.targetSpeed.toNat := by
    rw [fieldSpeed_eq]
    positivity
  have htan : abs (tan (wheelAngle c.targetAngle.toInt))≤tan (wheelAngle 300) := by
    obtain ⟨hlow,hhigh⟩ := abs_le.mp hrange
    have hmono := strictMonoOn_tan_wheelAngle.monotoneOn
    rw [abs_le,←tan_wheelAngle_neg]
    constructor
    · exact hmono ⟨by norm_num,by norm_num⟩ ⟨by linarith,by linarith⟩ hlow
    · exact hmono ⟨by linarith,by linarith⟩ ⟨by norm_num,by norm_num⟩ hhigh
  have hsigned : abs (if c.targetGear=1 then -fieldSpeed c.targetSpeed.toNat
      else fieldSpeed c.targetSpeed.toNat)=fieldSpeed c.targetSpeed.toNat := by
    split_ifs
    · rw [abs_neg,abs_of_nonneg hnonneg]
    · exact abs_of_nonneg hnonneg
  rw [turnRate,bicycleRate,abs_div,abs_mul,hsigned,abs_of_pos hwheelbase]
  refine div_le_div_of_nonneg_right ?_ hwheelbase.le
  exact mul_le_mul hspeed htan (abs_nonneg _) (hnonneg.trans hspeed)

end

/-- What a velocity command must be for the car to realise it. -/
structure Steerable (wheelbase maxSpeedKmh : ℝ) (vel : Vec4 ℝ) : Prop where
  /-- The configured speed is not negative. -/
  configured : 0≤ maxSpeedKmh
  /-- A speed that is not limited fits into its field. -/
  fits : Unlimited wheelbase maxSpeedKmh vel → hypot vel.x vel.y*36.0<65536.0
  /-- Backwards, either field is zero: the angle is below its unit, or the speed is. -/
  backwards : vel.x< -0.05 →
    wheelbase* |vel.w| <hypot vel.x vel.y*tan (wheelAngle 1) ∨
      65536∣⌊min (hypot vel.x vel.y*36.0) (maxSpeedKmh*10.0)⌋₊

/-- The wheels are at their limit where the wanted angle exceeds the range of its field. -/
theorem saturated_iff (wheelbase : ℝ) (vel : Vec4 ℝ) : Saturated wheelbase vel ↔
    300<abs (wantedUnits wheelbase vel.w (hypot vel.x vel.y)) := by
  rw [Saturated,limit_lt_iff,wantedUnits,angleRange_eq]

/-- The speed field of a velocity command. -/
theorem toNat_speedField {speed maxSpeedKmh : ℝ} (hspeed : 0≤ speed) (hmax : 0≤ maxSpeedKmh) :
    (toUint16 (min (speed*3.6) maxSpeedKmh) 0.1).toNat=
      ⌊min (speed*36.0) (maxSpeedKmh*10.0)⌋₊%65536 := by
  have hunit : min (speed*3.6) maxSpeedKmh/0.1=min (speed*36.0) (maxSpeedKmh*10.0) := by
    have hrequested : speed*3.6/0.1=speed*36.0 := by
      rw [mul_div_assoc]
      norm_num
    have hconfigured : maxSpeedKmh/0.1=maxSpeedKmh*10.0 := by
      rw [div_eq_mul_inv]
      norm_num
    rw [←min_div_div_right (by norm_num),hrequested,hconfigured]
  have hnonneg : 0≤ min (speed*36.0) (maxSpeedKmh*10.0) :=
    le_min (mul_nonneg hspeed (by norm_num)) (mul_nonneg hmax (by norm_num))
  rw [toNat_toUint16 (by rwa [hunit]),hunit]

section

variable {wheelbase : ℝ} (maxSpeedKmh : ℝ) {vel : Vec4 ℝ} {c : Ipc210}
  (hwheelbase : 0<wheelbase) (hspeed : 0.05≤hypot vel.x vel.y)
  (haccepts : innerCheckHover c.targetGear=true)

include hwheelbase hspeed haccepts

/-- The angle field is in its range, has the sign of the yaw rate, and is zero below
its unit. -/
theorem angleField_driving :
    (cmdVel wheelbase maxSpeedKmh vel c).1.targetAngle.toInt∈Set.Icc (-300) 300 ∧
      0≤((cmdVel wheelbase maxSpeedKmh vel c).1.targetAngle.toInt : ℝ)*vel.w ∧
      ((cmdVel wheelbase maxSpeedKmh vel c).1.targetAngle.toInt=0 ↔
        wheelbase* |vel.w| <hypot vel.x vel.y*tan (wheelAngle 1)) := by
  have hpos : 0<hypot vel.x vel.y := lt_of_lt_of_le (by norm_num) hspeed
  obtain ⟨_,hangle,_⟩ := cmdVel_driving maxSpeedKmh hwheelbase haccepts hspeed
  have hwanted := wantedUnits_mul_nonneg hwheelbase hpos vel.w
  rw [hangle,truncate_eq_zero_iff,abs_clamp_units_lt_one_iff,
    abs_wantedUnits_lt_iff hwheelbase hpos _ zero_le_one (by norm_num)]
  exact ⟨truncate_clamp_mem _,truncate_mul_nonneg _ _ (clamp_units_mul_nonneg hwanted),Iff.rfl⟩

/-- The car turns the right way exactly if it drives forwards or one of the two fields
is zero. -/
theorem direction_iff : 0≤turnRate wheelbase (cmdVel wheelbase maxSpeedKmh vel c).1*vel.w ↔
    (vel.x< -0.05 → wheelbase* |vel.w| <hypot vel.x vel.y*tan (wheelAngle 1) ∨
      (cmdVel wheelbase maxSpeedKmh vel c).1.targetSpeed.toNat=0) := by
  have hpos : 0<hypot vel.x vel.y := lt_of_lt_of_le (by norm_num) hspeed
  obtain ⟨hgear,_,_⟩ := cmdVel_driving maxSpeedKmh hwheelbase haccepts hspeed
  obtain ⟨⟨hlow,hhigh⟩,hsign,hzero⟩ :=
    angleField_driving maxSpeedKmh hwheelbase hspeed haccepts
  have hrange : abs ((cmdVel wheelbase maxSpeedKmh vel c).1.targetAngle.toInt : ℝ)≤300 :=
    abs_le.mpr ⟨by exact_mod_cast hlow,by exact_mod_cast hhigh⟩
  have hunit : 0<tan (wheelAngle 1) := tan_wheelAngle_pos one_pos (by norm_num)
  have hstraight : vel.w=0 → (cmdVel wheelbase maxSpeedKmh vel c).1.targetAngle.toInt=0 := by
    intro hyaw
    rw [hzero,hyaw,abs_zero,mul_zero]
    exact mul_pos hpos hunit
  have hreverse : (cmdVel wheelbase maxSpeedKmh vel c).1.targetGear=1 ↔ vel.x< -0.05 := by
    rw [hgear]
    split_ifs with hback
    · exact iff_of_true rfl hback
    · exact iff_of_false (by decide) hback
  rw [turnRate_mul_nonneg_iff hwheelbase hrange hsign hstraight,hreverse,hzero]

/-- The speed field holds the smaller speed in tenths of km/h, as far as it fits. -/
theorem speedField_driving (hmax : 0≤ maxSpeedKmh) :
    (cmdVel wheelbase maxSpeedKmh vel c).1.targetSpeed.toNat=
      ⌊min (hypot vel.x vel.y*36.0) (maxSpeedKmh*10.0)⌋₊%65536 := by
  have hnonneg : 0≤hypot vel.x vel.y := le_trans (by norm_num) hspeed
  obtain ⟨_,_,hfield⟩ := cmdVel_driving maxSpeedKmh hwheelbase haccepts hspeed
  rw [hfield,toNat_speedField hnonneg hmax]

/-- It exceeds neither speed. -/
theorem speedField_le (hmax : 0≤ maxSpeedKmh) :
    fieldSpeed (cmdVel wheelbase maxSpeedKmh vel c).1.targetSpeed.toNat≤hypot vel.x vel.y ∧
      ((cmdVel wheelbase maxSpeedKmh vel c).1.targetSpeed.toNat : ℝ)*0.1≤ maxSpeedKmh := by
  have hnonneg : 0≤hypot vel.x vel.y := le_trans (by norm_num) hspeed
  have htenth : (0.1 : ℝ)=1/10 := by norm_num
  have hmin : 0≤ min (hypot vel.x vel.y*36.0) (maxSpeedKmh*10.0) :=
    le_min (mul_nonneg hnonneg (by norm_num)) (mul_nonneg hmax (by norm_num))
  have hfield : ((cmdVel wheelbase maxSpeedKmh vel c).1.targetSpeed.toNat : ℝ)≤
      min (hypot vel.x vel.y*36.0) (maxSpeedKmh*10.0) := by
    rw [speedField_driving maxSpeedKmh hwheelbase hspeed haccepts hmax]
    exact le_trans (Nat.cast_le.mpr (Nat.mod_le _ _)) (Nat.floor_le hmin)
  have hrequested := hfield.trans (min_le_left _ _)
  have hconfigured := hfield.trans (min_le_right _ _)
  norm_num at hrequested hconfigured
  rw [fieldSpeed_eq,htenth]
  constructor <;> linarith

/-- Without limits it holds the requested speed, if that fits. -/
theorem speedField_unlimited (hunlimited : hypot vel.x vel.y*3.6≤ maxSpeedKmh)
    (hfits : hypot vel.x vel.y*36.0<65536.0) :
    |((cmdVel wheelbase maxSpeedKmh vel c).1.targetSpeed.toNat : ℝ)-hypot vel.x vel.y*36| <1 ∧
      (cmdVel wheelbase maxSpeedKmh vel c).1.targetSpeed.toNat≠0 := by
  have hnonneg : 0≤hypot vel.x vel.y := le_trans (by norm_num) hspeed
  have hmax : 0≤ maxSpeedKmh := le_trans (mul_nonneg hnonneg (by norm_num)) hunlimited
  have hmin : min (hypot vel.x vel.y*36.0) (maxSpeedKmh*10.0)=hypot vel.x vel.y*36 := by
    have hle : hypot vel.x vel.y*36.0≤ maxSpeedKmh*10.0 := by
      norm_num at hunlimited ⊢
      linarith
    rw [min_eq_left hle]
    norm_num
  have hproduct : 0≤hypot vel.x vel.y*36 := by positivity
  have hsmall : ⌊hypot vel.x vel.y*36⌋₊<65536 := by
    rw [Nat.floor_lt hproduct]
    norm_num at hfits ⊢
    exact hfits
  rw [speedField_driving maxSpeedKmh hwheelbase hspeed haccepts hmax,hmin,Nat.mod_eq_of_lt hsmall]
  have hlow := Nat.floor_le hproduct
  have hhigh := Nat.lt_floor_add_one (hypot vel.x vel.y*36)
  constructor
  · rw [abs_lt]
    constructor <;> linarith
  · have hone : 1≤⌊hypot vel.x vel.y*36⌋₊ := by
      rw [Nat.one_le_floor_iff]
      norm_num at hspeed
      linarith
    omega

/-- A command that the car realises is steerable. -/
theorem steerable_of_realises
    (h : Realises wheelbase maxSpeedKmh vel (cmdVel wheelbase maxSpeedKmh vel c).1) :
    Steerable wheelbase maxSpeedKmh vel := by
  have hmax : 0≤ maxSpeedKmh :=
    le_trans (mul_nonneg (Nat.cast_nonneg _) (by norm_num)) h.configured
  refine ⟨hmax,fun hunlimited => ?_,fun hback => ?_⟩
  · obtain ⟨_,speedUnits,_,hclose,hexact,_⟩ := h.unlimited hunlimited
    have hsize : (cmdVel wheelbase maxSpeedKmh vel c).1.targetSpeed.toNat+1≤65536 :=
      (cmdVel wheelbase maxSpeedKmh vel c).1.targetSpeed.toNat_lt
    have hfits : ((cmdVel wheelbase maxSpeedKmh vel c).1.targetSpeed.toNat : ℝ)+1≤65536 := by
      exact_mod_cast hsize
    rw [fieldSpeed_eq] at hexact
    have hlow := (abs_lt.mp hclose).1
    norm_num
    linarith
  · rcases (direction_iff maxSpeedKmh hwheelbase hspeed haccepts).mp h.direction hback with
      hangle|hstill
    · exact Or.inl hangle
    · rw [speedField_driving maxSpeedKmh hwheelbase hspeed haccepts hmax] at hstill
      exact Or.inr (Nat.dvd_of_mod_eq_zero hstill)

/-- Without limits the fields are those of the commanded rate. -/
theorem fields_unlimited (h : Steerable wheelbase maxSpeedKmh vel)
    (hunlimited : Unlimited wheelbase maxSpeedKmh vel) : ∃ angleUnits speedUnits,
      |((cmdVel wheelbase maxSpeedKmh vel c).1.targetAngle.toInt : ℝ)-angleUnits| <1 ∧
      |((cmdVel wheelbase maxSpeedKmh vel c).1.targetSpeed.toNat : ℝ)-speedUnits| <1 ∧
      fieldSpeed speedUnits=hypot vel.x vel.y ∧
      bicycleRate wheelbase (cmdVel wheelbase maxSpeedKmh vel c).1.targetGear angleUnits
        speedUnits=vel.w := by
  have hpos : 0<hypot vel.x vel.y := lt_of_lt_of_le (by norm_num) hspeed
  obtain ⟨hgear,hangle,_⟩ := cmdVel_driving maxSpeedKmh hwheelbase haccepts hspeed
  obtain ⟨_,_,hzero⟩ := angleField_driving maxSpeedKmh hwheelbase hspeed haccepts
  obtain ⟨hclose,hmoves⟩ := speedField_unlimited maxSpeedKmh hwheelbase hspeed haccepts
    hunlimited.2 (h.fits hunlimited)
  have hexact : fieldSpeed (hypot vel.x vel.y*36)=hypot vel.x vel.y := by
    rw [fieldSpeed_eq]
    ring
  have hrate : hypot vel.x vel.y*(wheelbase*vel.w/hypot vel.x vel.y)/wheelbase=vel.w := by
    field_simp
  by_cases hback : vel.x< -0.05
  · -- in the reverse gear the angle is below its unit
    have hmax : 0≤ maxSpeedKmh := h.configured
    have htiny : wheelbase* |vel.w| <hypot vel.x vel.y*tan (wheelAngle 1) := by
      refine (h.backwards hback).resolve_right fun hdvd => hmoves ?_
      rw [speedField_driving maxSpeedKmh hwheelbase hspeed haccepts hmax]
      exact Nat.mod_eq_zero_of_dvd hdvd
    have hsmall : abs (wantedUnits wheelbase vel.w (hypot vel.x vel.y))<1 :=
      (abs_wantedUnits_lt_iff hwheelbase hpos vel.w zero_le_one (by norm_num)).mpr htiny
    refine ⟨-wantedUnits wheelbase vel.w (hypot vel.x vel.y),_,?_,hclose,hexact,?_⟩
    · rw [hzero.mpr htiny,Int.cast_zero,zero_sub,neg_neg]
      exact hsmall
    · rw [hgear,if_pos hback,bicycleRate,if_pos rfl,hexact,tan_wheelAngle_neg,tan_wantedUnits,
        neg_mul_neg]
      exact hrate
  · have hinside := not_lt.mp ((saturated_iff wheelbase vel).not.mp hunlimited.1)
    obtain ⟨hlow,hhigh⟩ := abs_le.mp hinside
    refine ⟨wantedUnits wheelbase vel.w (hypot vel.x vel.y),_,?_,hclose,hexact,?_⟩
    · rw [hangle,clamp_of_mem hlow hhigh]
      exact abs_truncate_sub_lt _
    · rw [hgear,if_neg hback,bicycleRate,if_neg (by decide),hexact,tan_wantedUnits]
      exact hrate

/-- A steerable command is realised. -/
theorem realises_of_steerable (h : Steerable wheelbase maxSpeedKmh vel) :
    Realises wheelbase maxSpeedKmh vel (cmdVel wheelbase maxSpeedKmh vel c).1 := by
  have hpos : 0<hypot vel.x vel.y := lt_of_lt_of_le (by norm_num) hspeed
  obtain ⟨hangle,_,_⟩ := angleField_driving maxSpeedKmh hwheelbase hspeed haccepts
  obtain ⟨hrequested,hconfigured⟩ :=
    speedField_le maxSpeedKmh hwheelbase hspeed haccepts h.configured
  refine ⟨?_,fields_unlimited maxSpeedKmh hwheelbase hspeed haccepts h,fun hsaturated => ?_,hangle,
    hrequested,hconfigured⟩
  · rw [direction_iff maxSpeedKmh hwheelbase hspeed haccepts]
    intro hback
    refine (h.backwards hback).imp id fun hdvd => ?_
    rw [speedField_driving maxSpeedKmh hwheelbase hspeed haccepts h.configured]
    exact Nat.mod_eq_zero_of_dvd hdvd
  · have hrange : abs ((cmdVel wheelbase maxSpeedKmh vel c).1.targetAngle.toInt : ℝ)≤300 :=
      abs_le.mpr ⟨by exact_mod_cast hangle.1,by exact_mod_cast hangle.2⟩
    have hslow : hypot vel.x vel.y*tan (wheelAngle 300)≤wheelbase* |vel.w| :=
      rate_beyond_limit hwheelbase hpos vel.w ((saturated_iff wheelbase vel).mp hsaturated)
    refine (abs_turnRate_le hwheelbase hrange hrequested).trans ?_
    rw [div_le_iff₀ hwheelbase,mul_comm |vel.w|]
    exact hslow

end

/-- While velocity commands are accepted, the car realises exactly the steerable ones. -/
theorem realises_iff (wheelbase maxSpeedKmh : ℝ) (vel : Vec4 ℝ) (c : Ipc210)
    (hwheelbase : 0<wheelbase) (haccepts : innerCheckHover c.targetGear=true)
    (hspeed : 0.05≤hypot vel.x vel.y) :
    Realises wheelbase maxSpeedKmh vel (cmdVel wheelbase maxSpeedKmh vel c).1 ↔
      Steerable wheelbase maxSpeedKmh vel :=
  ⟨steerable_of_realises maxSpeedKmh hwheelbase hspeed haccepts,
    realises_of_steerable maxSpeedKmh hwheelbase hspeed haccepts⟩

/-- Straight ahead with a yaw rate, on the wheelbase and the top speed in the source. -/
theorem ahead_realised : Realises 0.82 3.6 ⟨1,0,0,0.25⟩
    (cmdVel 0.82 3.6 ⟨1,0,0,0.25⟩ (takeoff constructed)).1 := by
  have hspeed : hypot 1 0=1 := hypot_axis zero_le_one
  refine (realises_iff 0.82 3.6 ⟨1,0,0,0.25⟩ (takeoff constructed) (by norm_num) rfl
    (by rw [hspeed]; norm_num)).mpr ⟨by norm_num,fun _ => ?_,fun hback => ?_⟩
  · dsimp only
    rw [hspeed]
    norm_num
  · norm_num at hback

/-- The tangent of one unit of the angle field is small. -/
theorem tan_wheelAngle_one_lt : tan (wheelAngle 1)<0.1 := by
  have hpi := pi_lt_four
  have hangle : wheelAngle 1=π/2160 := by rw [wheelAngle_eq,one_mul]
  have hpos : 0<π/2160 := by positivity
  have hsmall : π/2160<1/500 := by linarith
  have hcos : 1-(π/2160)^2/2≤cos (π/2160) := one_sub_sq_div_two_le_cos
  have hsquare : (π/2160)^2≤1 := by nlinarith
  have hhalf : 1/2≤cos (π/2160) := by linarith
  have hsin : sin (π/2160)<π/2160 := sin_lt hpos
  rw [hangle,tan_eq_sin_div_cos,div_lt_iff₀ (by linarith)]
  norm_num
  linarith

/-- Backwards with a yaw rate. -/
def reversing : Vec4 ℝ := ⟨-1,0,0,0.5⟩

/-- The car turns the wrong way. -/
theorem reversing_turns_away :
    turnRate 0.82 (cmdVel 0.82 3.6 reversing (takeoff constructed)).1*reversing.w<0 ∧
      ¬Realises 0.82 3.6 reversing (cmdVel 0.82 3.6 reversing (takeoff constructed)).1 := by
  have hone : hypot reversing.x reversing.y=1 := by norm_num [hypot,reversing]
  have hwheelbase : (0 : ℝ)<0.82 := by norm_num
  have haccepts : innerCheckHover (takeoff constructed).targetGear=true := rfl
  have hspeed : 0.05≤hypot reversing.x reversing.y := by
    rw [hone]
    norm_num
  have hmoves := speedField_unlimited 3.6 hwheelbase hspeed haccepts (by rw [hone,one_mul])
    (by rw [hone]; norm_num)
  have hback : reversing.x< -0.05 := by norm_num [reversing]
  have hunit := tan_wheelAngle_one_lt
  have hwrong : ¬0≤turnRate 0.82 (cmdVel 0.82 3.6 reversing (takeoff constructed)).1*
      reversing.w := by
    rw [direction_iff 3.6 hwheelbase hspeed haccepts]
    intro h
    rcases h hback with hangle|hstill
    · rw [hone,one_mul,reversing,abs_of_pos (by norm_num)] at hangle
      norm_num at hangle hunit
      linarith
    · exact hmoves.2 hstill
  exact ⟨not_le.mp hwrong,fun h => hwrong h.direction⟩

end

end Dankong.Car

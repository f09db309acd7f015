import Dankong.WhileLoops
import Dankong.CtrvFilter
import Dankong.LandingController
import Dankong.YawFilter

/-!
# Normalised angles

Five functions bring an angle to a fixed turn: two pairs of loops, the sine and cosine
with `atan2`, and `fmod` with a shift. Their ranges differ, and so do the ends of the
ranges that they include; modulo whole turns they all return what they are given.
-/

namespace Dankong.Angles

open Real StateUtils WhileLoops

/-- The first loop of `norm_yaw` comes to an end. -/
theorem exits_addTurns (yaw : ℝ) : Exits (·<0) (·+2*π) yaw (addTurns yaw) := by
  induction yaw using addTurns.induct with
  | case1 yaw hneg ih =>
    rw [addTurns,if_pos hneg]
    exact .again hneg ih
  | case2 yaw hneg =>
    rw [addTurns,if_neg hneg]
    exact .done hneg

/-- So does the second one. -/
theorem exits_dropTurns (yaw : ℝ) : Exits (2*π≤·) (·-2*π) yaw (dropTurns yaw) := by
  induction yaw using dropTurns.induct with
  | case1 yaw hlt =>
    rw [dropTurns,if_pos hlt]
    exact .done (not_le.mpr hlt)
  | case2 yaw hlt ih =>
    rw [dropTurns,if_neg hlt]
    exact .again (not_lt.mp hlt) ih

/-- The first loop of `normalize_yaw` comes to an end. -/
theorem exits_lowerTurns (yaw : ℝ) : Exits (π<·) (·-2.0*π) yaw (Setpoint.lowerTurns yaw) := by
  induction yaw using Setpoint.lowerTurns.induct with
  | case1 yaw hhigh ih =>
    rw [Setpoint.lowerTurns,if_pos hhigh]
    exact .again hhigh ih
  | case2 yaw hhigh =>
    rw [Setpoint.lowerTurns,if_neg hhigh]
    exact .done hhigh

/-- So does the second one. -/
theorem exits_raiseTurns (yaw : ℝ) : Exits (·< -π) (·+2.0*π) yaw (Setpoint.raiseTurns yaw) := by
  induction yaw using Setpoint.raiseTurns.induct with
  | case1 yaw hlow ih =>
    rw [Setpoint.raiseTurns,if_pos hlow]
    exact .again hlow ih
  | case2 yaw hlow =>
    rw [Setpoint.raiseTurns,if_neg hlow]
    exact .done hlow

/-- `norm_yaw` ends in the turn from zero on. -/
theorem normYaw_mem (yaw : ℝ) : normYaw yaw∈Set.Ico 0 (2*π) := by
  have hfrom : 0≤addTurns yaw := not_lt.mp (exits_addTurns yaw).not_guard
  have hkeep : ∀ x,0≤x → 2*π≤x → 0≤x-2*π := fun x _ hx => sub_nonneg.mpr hx
  have hexit := exits_dropTurns (addTurns yaw)
  exact ⟨hexit.invariant (P:=(0≤·)) hkeep hfrom,not_le.mp hexit.not_guard⟩

/-- The loops of `normalize_yaw` end within half a turn. -/
theorem normalizeYaw_mem (yaw : ℝ) : Setpoint.normalizeYaw yaw∈Set.Icc (-π) π := by
  have htwo : (2.0 : ℝ)=2 := by norm_num
  have hto : Setpoint.lowerTurns yaw≤π := not_lt.mp (exits_lowerTurns yaw).not_guard
  have hkeep : ∀ x,x≤π → x< -π → x+2.0*π≤π := by
    intro x _ hx
    rw [htwo]
    linarith
  have hexit := exits_raiseTurns (Setpoint.lowerTurns yaw)
  exact ⟨not_lt.mp hexit.not_guard,hexit.invariant (P:=(·≤π)) hkeep hto⟩

/-- The rest that `fmod` leaves of a number is smaller than a positive divisor, and has the
sign of the number. -/
theorem fmod_mem {x y : ℝ} (hy : 0<y) :
    (0≤x → fmod x y∈Set.Ico 0 y) ∧ (x<0 → fmod x y∈Set.Ioc (-y) 0) := by
  have hx : x/y*y=x := div_mul_cancel₀ x hy.ne'
  unfold fmod truncate
  constructor
  · intro hpos
    rw [if_pos (div_nonneg hpos hy.le)]
    have hle := mul_le_mul_of_nonneg_right (Int.floor_le (x/y)) hy.le
    have hlt := mul_lt_mul_of_pos_right (Int.lt_floor_add_one (x/y)) hy
    exact ⟨by linarith,by linarith⟩
  · intro hneg
    rw [if_neg (not_le.mpr (div_neg_of_neg_of_pos hneg hy))]
    have hle := mul_le_mul_of_nonneg_right (Int.le_ceil (x/y)) hy.le
    have hlt := mul_lt_mul_of_pos_right (Int.ceil_lt_add_one (x/y)) hy
    exact ⟨by linarith,by linarith⟩

/-- The fmod form lies within half a turn, whose upper end it leaves out. -/
theorem wrapAngle_mem (yaw : ℝ) : Pland.wrapAngle yaw∈Set.Ico (-π) π := by
  have htwo : (2.0 : ℝ)=2 := by norm_num
  have hturn : 0<2*π := two_pi_pos
  unfold Pland.wrapAngle
  rw [htwo]
  dsimp only
  rcases le_or_gt 0 (yaw+π) with hpos|hneg
  · obtain ⟨hlow,hhigh⟩ := (fmod_mem hturn).1 hpos
    rw [if_neg (not_lt.mpr hlow)]
    exact ⟨by linarith,by linarith⟩
  · obtain ⟨hlow,hhigh⟩ := (fmod_mem hturn).2 hneg
    split
    · exact ⟨by linarith,by linarith⟩
    · exact ⟨by linarith,by linarith⟩

/-- Numbers that differ by whole turns are the same angle. -/
theorem coe_sub_turns (x : ℝ) (k : ℤ) : ((x-k*(2*π) : ℝ) : Angle)=x := by
  rw [Angle.angle_eq_iff_two_pi_dvd_sub]
  exact ⟨-k,by push_cast; ring⟩

/-- The fmod form changes an angle by whole turns. -/
theorem coe_wrapAngle (yaw : ℝ) : (Pland.wrapAngle yaw : Angle)=yaw := by
  have htwo : (2.0 : ℝ)=2 := by norm_num
  have hrest : (fmod (yaw+π) (2*π) : Angle)=(yaw+π : ℝ) := coe_sub_turns _ _
  unfold Pland.wrapAngle
  rw [htwo]
  dsimp only
  split
  · rw [Angle.coe_sub,coe_add_turn,hrest,←Angle.coe_sub,add_sub_cancel_right]
  · rw [Angle.coe_sub,hrest,←Angle.coe_sub,add_sub_cancel_right]

/-- The sine and the cosine tell an angle up to whole turns. -/
theorem coe_normalizeAngle (angle : ℝ) : (YawFilter.normalizeAngle angle : Angle)=angle := by
  have hunit := coe_atan2 one_pos angle
  rwa [one_mul,one_mul] at hunit

/-- In a turn from zero on, an angle has one value only. -/
theorem eq_of_mem_Ico {x y : ℝ} (hx : x∈Set.Ico 0 (2*π)) (hy : y∈Set.Ico 0 (2*π))
    (h : (x : Angle)=y) : x=y := by
  obtain ⟨k,hk⟩ := Angle.angle_eq_iff_two_pi_dvd_sub.mp h
  have hturn : 0<2*π := two_pi_pos
  have hlow : (-1 : ℝ)<k := by nlinarith [hx.1,hy.2]
  have hhigh : (k : ℝ)<1 := by nlinarith [hx.2,hy.1]
  have hzero : k=0 := by
    have hl : -1<k := by exact_mod_cast hlow
    have hh : k<1 := by exact_mod_cast hhigh
    omega
  rw [hzero,Int.cast_zero,mul_zero] at hk
  linarith

/-- `norm_yaw` returns the one value of an angle in the turn from zero on. -/
theorem normYaw_unique {yaw other : ℝ} (hmem : other∈Set.Ico 0 (2*π)) (h : (other : Angle)=yaw) :
    other=normYaw yaw :=
  eq_of_mem_Ico hmem (normYaw_mem yaw) (h.trans (coe_normYaw yaw).symm)

/-- Counting from north and counting from east are inverse to each other. -/
theorem coe_yawNedToEnu_yawEnuToNed (yaw : ℝ) :
    (yawNedToEnu (yawEnuToNed yaw) : Angle)=yaw ∧ (yawEnuToNed (yawNedToEnu yaw) : Angle)=yaw := by
  have hback : (((π*0.5 : ℝ) : Angle)-((π*0.5 : ℝ)-(yaw : Angle)))=yaw := sub_sub_cancel _ _
  unfold yawNedToEnu yawEnuToNed
  simp only [coe_normYaw,Angle.coe_sub]
  exact ⟨hback,hback⟩

/-- The normalisers of the program. -/
noncomputable def normalisers : List (ℝ → ℝ) :=
  [normYaw,Setpoint.normalizeYaw,CtrvFilter.normalizeAngle,YawFilter.normalizeAngle,Pland.wrapAngle]

/-- Every normaliser changes an angle by whole turns. -/
theorem coe_normaliser {f : ℝ → ℝ} (h : f∈normalisers) (angle : ℝ) : (f angle : Angle)=angle := by
  simp only [normalisers,List.mem_cons,List.not_mem_nil,or_false] at h
  rcases h with rfl|rfl|rfl|rfl|rfl
  · exact coe_normYaw angle
  · exact Setpoint.coe_normalizeYaw angle
  · exact Setpoint.coe_normalizeYaw angle
  · exact coe_normalizeAngle angle
  · exact coe_wrapAngle angle

/-- The normalisers but `norm_yaw` return values within half a turn. -/
theorem normaliser_mem {f : ℝ → ℝ} (h : f∈normalisers.tail) (angle : ℝ) :
    f angle∈Set.Icc (-π) π := by
  simp only [normalisers,List.tail_cons,List.mem_cons,List.not_mem_nil,or_false] at h
  rcases h with rfl|rfl|rfl|rfl
  · exact normalizeYaw_mem angle
  · exact normalizeYaw_mem angle
  · exact YawFilter.normalizeAngle_mem angle
  · exact Set.Ico_subset_Icc_self (wrapAngle_mem angle)

/-- `get_heading`. -/
noncomputable def getHeading (enuX enuY : ℝ) : ℝ := normYaw (atan2 enuY enuX)

/-- `get_yaw_diff`. -/
noncomputable def getYawDiff (a b : ℝ) : ℝ := |atan2 (sin (a-b)) (cos (a-b))|

/-- The heading of a direction, whatever its distance. -/
theorem coe_getHeading {distance : ℝ} (h : 0<distance) (heading : ℝ) :
    (getHeading (distance*cos heading) (distance*sin heading) : Angle)=heading := by
  rw [getHeading,coe_normYaw,coe_atan2 h]

/-- The size of an angle within half a turn does not depend on the end of the range. -/
theorem abs_eq_of_mem_Icc {x y : ℝ} (hx : x∈Set.Icc (-π) π) (hy : y∈Set.Icc (-π) π)
    (h : (x : Angle)=y) : |x|=|y| := by
  have hcos : cos |x|=cos |y| := by
    rw [cos_abs,cos_abs,←Angle.cos_coe,h,Angle.cos_coe]
  exact injOn_cos ⟨abs_nonneg x,abs_le.mpr hx⟩ ⟨abs_nonneg y,abs_le.mpr hy⟩ hcos

/-- The difference of two angles is the size of what any of these normalisers makes of it. -/
theorem getYawDiff_eq_abs {f : ℝ → ℝ} (h : f∈normalisers.tail) (a b : ℝ) :
    getYawDiff a b=|f (a-b)| := by
  have hcoe : (YawFilter.normalizeAngle (a-b) : Angle)=f (a-b) :=
    (coe_normalizeAngle (a-b)).trans (coe_normaliser (List.mem_of_mem_tail h) (a-b)).symm
  exact abs_eq_of_mem_Icc (YawFilter.normalizeAngle_mem (a-b)) (normaliser_mem h (a-b)) hcoe

/-- All loops come to an end; `norm_yaw` returns the one value of an angle in the turn from
zero on, and the others return values within half a turn; the two ways of counting headings
are inverse to each other; and all normalisers agree modulo whole turns. The heading of a
direction is its angle, and the difference of two yaws is the size of what any normaliser to
half a turn makes of it. -/
theorem normalisers_agree :
    (∀ yaw,Exits (·<0) (·+2*π) yaw (addTurns yaw) ∧
      Exits (2*π≤·) (·-2*π) (addTurns yaw) (normYaw yaw)) ∧
    (∀ yaw,Exits (π<·) (·-2.0*π) yaw (Setpoint.lowerTurns yaw) ∧
      Exits (·< -π) (·+2.0*π) (Setpoint.lowerTurns yaw) (Setpoint.normalizeYaw yaw) ∧
      Exits (·< -π) (·+2.0*π) (Setpoint.lowerTurns yaw) (CtrvFilter.normalizeAngle yaw)) ∧
    (∀ yaw,normYaw yaw∈Set.Ico 0 (2*π) ∧
      ∀ other∈Set.Ico 0 (2*π),(other : Angle)=yaw → other=normYaw yaw) ∧
    (∀ yaw : ℝ,(yawNedToEnu (yawEnuToNed yaw) : Angle)=yaw ∧
      (yawEnuToNed (yawNedToEnu yaw) : Angle)=yaw) ∧
    (∀ f∈[Setpoint.normalizeYaw,CtrvFilter.normalizeAngle,YawFilter.normalizeAngle,Pland.wrapAngle],
      ∀ angle,f angle∈Set.Icc (-π) π) ∧
    (∀ f∈normalisers,∀ angle : ℝ,(f angle : Angle)=angle) ∧
    (∀ f∈normalisers,∀ g∈normalisers,∀ a b : ℝ,(a : Angle)=b → (f a : Angle)=g b) ∧
    (∀ distance : ℝ,0<distance → ∀ heading : ℝ,
      (getHeading (distance*cos heading) (distance*sin heading) : Angle)=heading) ∧
    (∀ f∈normalisers.tail,∀ a b,getYawDiff a b=|f (a-b)|) := by
  refine ⟨fun yaw => ⟨exits_addTurns yaw,exits_dropTurns _⟩,
    fun yaw => ⟨exits_lowerTurns yaw,exits_raiseTurns _,exits_raiseTurns _⟩,
    fun yaw => ⟨normYaw_mem yaw,fun _ => normYaw_unique⟩,coe_yawNedToEnu_yawEnuToNed,
    fun f hf => normaliser_mem hf,fun f hf => coe_normaliser hf,?_,
    fun _ hdistance => coe_getHeading hdistance,fun _ hf => getYawDiff_eq_abs hf⟩
  intro f hf g hg a b hab
  rw [coe_normaliser hf,coe_normaliser hg,hab]

end Dankong.Angles

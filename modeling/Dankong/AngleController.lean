import Dankong.Attitude
import Dankong.TrackerControl

/-!
# The angle controller of the tracker

`AngleController` wraps an angle difference to half a turn either way. Near half a turn
it goes on turning clockwise if it did so before. Its memory is the direction of its
last answer, so that asking twice changes nothing, and near half a turn the direction
changes at most once.
-/

namespace Dankong.Tracker

open Real StateUtils

/-- A call of `get_distance`. -/
structure AngleCall where
  /-- `current`. -/
  current : ℝ
  /-- `target`. -/
  target : ℝ
  /-- `deadband`. -/
  deadband : ℝ

noncomputable section

/-- `wrapped_diff` as it is computed first. -/
def AngleCall.wrapped (c : AngleCall) : ℝ := remainder (c.target-c.current) (2.0*π)

/-- The answer to a call and the new memory. -/
def AngleCall.answer (c : AngleCall) (wasTurningCw : Bool) : ℝ×Bool :=
  getDistance wasTurningCw c.current c.target c.deadband

/-- The wrapped difference lies in the dead band around half a turn. -/
def AngleCall.NearHalfTurn (c : AngleCall) : Prop := π-c.deadband < |c.wrapped|

/-- The memory before the first call and after each one: whether the turn is clockwise. -/
def directions (wasTurningCw : Bool) (calls : List AngleCall) : List Bool :=
  calls.scanl (fun cw c => (c.answer cw).2) wasTurningCw

end

/-- Rounding is off by at most one half. -/
theorem abs_sub_roundHalfEven_le (x : ℝ) : |x-roundHalfEven x|≤1/2 := by
  have hfloor := Int.floor_le x
  have hnext := Int.lt_floor_add_one x
  unfold roundHalfEven
  rw [abs_le]
  split_ifs with hlow hhigh heven
  · exact ⟨by linarith,hlow.le⟩
  · push_cast
    exact ⟨by linarith,by linarith⟩
  · exact ⟨by linarith,not_lt.mp hhigh⟩
  · push_cast
    exact ⟨by linarith [not_lt.mp hlow],by linarith⟩

/-- The rest against the nearest multiple is at most half the divisor. -/
theorem abs_remainder_le (x : ℝ) {y : ℝ} (hy : 0<y) : |remainder x y|≤y/2 := by
  have hx : remainder x y=(x/y-roundHalfEven (x/y))*y := by
    rw [remainder,sub_mul,div_mul_cancel₀ x hy.ne']
  have hhalf := mul_le_mul_of_nonneg_right (abs_sub_roundHalfEven_le (x/y)) hy.le
  rw [hx,abs_mul,abs_of_pos hy]
  linarith

section

variable (c : AngleCall) (wasTurningCw : Bool)

/-- The wrapped difference is the rest against whole turns. -/
theorem wrapped_eq : c.wrapped=remainder (c.target-c.current) (2*π) := by
  have htwo : (2.0 : ℝ)=2 := by norm_num
  rw [AngleCall.wrapped,htwo]

/-- The wrapped difference is at most half a turn. -/
theorem abs_wrapped_le : |c.wrapped|≤π := by
  have hle := abs_remainder_le (c.target-c.current) two_pi_pos
  rwa [←wrapped_eq,mul_div_cancel_left₀ π two_ne_zero] at hle

/-- Wrapping changes the difference by whole turns. -/
theorem coe_wrapped : (c.wrapped : Angle)=(c.target-c.current : ℝ) := by
  rw [Angle.angle_eq_iff_two_pi_dvd_sub]
  refine ⟨-roundHalfEven ((c.target-c.current)/(2*π)),?_⟩
  rw [wrapped_eq,remainder]
  push_cast
  ring

/-- The answer is the wrapped difference, or near half a turn a whole turn less, to go on
clockwise; the memory is the sign of the answer. -/
theorem answer_cases :
    (c.answer wasTurningCw).2=decide ((c.answer wasTurningCw).1<0) ∧
    ((c.answer wasTurningCw).1=c.wrapped ∧ ¬(c.NearHalfTurn ∧ wasTurningCw=true ∧ 0<c.wrapped) ∨
      (c.answer wasTurningCw).1=c.wrapped-2*π ∧
        c.NearHalfTurn ∧ wasTurningCw=true ∧ 0<c.wrapped) := by
  refine ⟨rfl,?_⟩
  have hanswer : (c.answer wasTurningCw).1=if π-c.deadband < |c.wrapped| then
      if wasTurningCw=true ∧ 0<c.wrapped then c.wrapped-2*π else c.wrapped else c.wrapped := by
    rw [wrapped_eq]
    rfl
  rw [hanswer]
  by_cases hnear : π-c.deadband < |c.wrapped|
  · rw [if_pos hnear]
    by_cases hturn : wasTurningCw=true ∧ 0<c.wrapped
    · rw [if_pos hturn]
      exact Or.inr ⟨rfl,hnear,hturn⟩
    · rw [if_neg hturn]
      exact Or.inl ⟨rfl,fun h => hturn h.2⟩
  · rw [if_neg hnear]
    exact Or.inl ⟨rfl,fun h => hnear h.1⟩

/-- The answer is the difference up to whole turns. -/
theorem coe_answer : ((c.answer wasTurningCw).1 : Angle)=(c.target-c.current : ℝ) := by
  rcases (answer_cases c wasTurningCw).2 with ⟨h,_⟩|⟨h,_⟩
  · rw [h,coe_wrapped]
  · rw [h,←coe_wrapped,Angle.coe_sub,Angle.coe_two_pi,sub_zero]

/-- The answer is at most half a turn and the dead band. -/
theorem abs_answer_le (hband : 0≤c.deadband) : |(c.answer wasTurningCw).1|≤π+c.deadband := by
  have hle := abs_wrapped_le c
  rcases (answer_cases c wasTurningCw).2 with ⟨h,_⟩|⟨h,hnear,_,hpos⟩
  · rw [h]
    linarith
  · rw [AngleCall.NearHalfTurn,abs_of_pos hpos] at hnear
    rw [abs_of_pos hpos] at hle
    rw [h,abs_le]
    exact ⟨by linarith,by linarith [pi_pos]⟩

/-- Asked again, the controller gives the same answer and remembers the same. -/
theorem answer_twice : c.answer (c.answer wasTurningCw).2=c.answer wasTurningCw := by
  obtain ⟨hmemory,hcases⟩ := answer_cases c wasTurningCw
  obtain ⟨hmemory',hcases'⟩ := answer_cases c (c.answer wasTurningCw).2
  have hsame : (c.answer (c.answer wasTurningCw).2).1=(c.answer wasTurningCw).1 := by
    have hle := abs_wrapped_le c
    rcases hcases with ⟨h,hfirst⟩|⟨h,hnear,_,hpos⟩
    · rcases hcases' with ⟨h',_⟩|⟨_,hnear,hcw,hpos⟩
      · rw [h,h']
      · -- a positive answer is not remembered as clockwise
        rw [hmemory,decide_eq_true_eq,h] at hcw
        exact absurd hcw (not_lt.mpr hpos.le)
    · have hneg : (c.answer wasTurningCw).1<0 := by
        rw [abs_of_pos hpos] at hle
        rw [h]
        linarith [pi_pos]
      have hcw : (c.answer wasTurningCw).2=true := by rw [hmemory,decide_eq_true_eq]; exact hneg
      rcases hcases' with ⟨_,hnot⟩|⟨h',_⟩
      · exact absurd ⟨hnear,hcw,hpos⟩ hnot
      · rw [h,h']
  refine Prod.ext hsame ?_
  rw [hmemory',hsame,←hmemory]

/-- Near half a turn a clockwise turn stays clockwise. -/
theorem cw_of_near (hband : c.deadband≤π) (hnear : c.NearHalfTurn) : (c.answer true).2=true := by
  obtain ⟨hmemory,hcases⟩ := answer_cases c true
  have hle := abs_wrapped_le c
  have hne : c.wrapped≠0 := by
    intro hzero
    rw [AngleCall.NearHalfTurn,hzero,abs_zero] at hnear
    linarith
  rw [hmemory,decide_eq_true_eq]
  rcases hcases with ⟨h,hnot⟩|⟨h,_,_,hpos⟩
  · rw [h]
    exact lt_of_le_of_ne (not_lt.mp fun hpos => hnot ⟨hnear,rfl,hpos⟩) hne
  · rw [abs_of_pos hpos] at hle
    rw [h]
    linarith [pi_pos]

end

/-- Near half a turn the direction is clockwise from the first clockwise answer on. -/
theorem directions_cw (calls : List AngleCall) (hnear : ∀ c∈calls,c.deadband≤π ∧ c.NearHalfTurn) :
    directions true calls=List.replicate (calls.length+1) true := by
  induction calls with
  | nil => rfl
  | cons c rest ih =>
    rw [List.forall_mem_cons] at hnear
    rw [directions,List.scanl_cons,cw_of_near c hnear.1.1 hnear.1.2,←directions,ih hnear.2]
    rfl

/-- Near half a turn the direction changes at most once, to clockwise. -/
theorem directions_near (calls : List AngleCall)
    (hnear : ∀ c∈calls,c.deadband≤π ∧ c.NearHalfTurn) (wasTurningCw : Bool) :
    ∃ m n,directions wasTurningCw calls=List.replicate m false++List.replicate n true := by
  induction calls generalizing wasTurningCw with
  | nil =>
    cases wasTurningCw with
    | false => exact ⟨1,0,rfl⟩
    | true => exact ⟨0,1,rfl⟩
  | cons c rest ih =>
    cases wasTurningCw with
    | true => exact ⟨0,(c::rest).length+1,directions_cw (c::rest) hnear⟩
    | false =>
      rw [List.forall_mem_cons] at hnear
      obtain ⟨m,n,hrest⟩ := ih hnear.2 (c.answer false).2
      refine ⟨m+1,n,?_⟩
      rw [directions,List.scanl_cons,←directions,hrest,List.replicate_succ]
      rfl

/-- The call that the tracker makes, with the default dead band. -/
def trackerCall (g : Guidance) (yaw : ℝ) : AngleCall := ⟨yaw,g.targetPoseEnu.w,0.17⟩

/-- The tracker asks with its own memory. -/
theorem yawError_eq (g : Guidance) (yaw : ℝ) (m : Motion) :
    yawError g yaw m=
      if g.ctrlYaw=true then
        (((trackerCall g yaw).answer m.wasTurningCw).1,
          { m with wasTurningCw := ((trackerCall g yaw).answer m.wasTurningCw).2 })
      else (0,m) := rfl

/-- Whatever else the tracker remembered in between, the second call of a control step
gives the answer of the first, and leaves the same memory. -/
theorem yawError_twice (g : Guidance) (yaw : ℝ) (m : Motion) (pidZ : PIDState) :
    yawError g yaw { (yawError g yaw m).2 with pidZ := pidZ }=
      yawError g yaw { m with pidZ := pidZ } := by
  simp only [yawError_eq]
  by_cases hctrl : g.ctrlYaw=true
  · simp only [if_pos hctrl,answer_twice]
  · simp only [if_neg hctrl]

/-- `compute_pos_control` of an omnidirectional vehicle does not notice that `on_step` has
asked before. -/
theorem computePosControl_asked (cfg : TrackerConfig) (homni : cfg.isOmnidirectional=true)
    (g : Guidance) (pose ff : Vec4 ℝ) (dt : ℝ) (m : Motion) :
    computePosControl cfg g pose ff dt (yawError g pose.w m).2=
      computePosControl cfg g pose ff dt m := by
  have hpid : (yawError g pose.w m).2.pidZ=m.pidZ := by
    rw [yawError_eq]
    split <;> rfl
  dsimp only [computePosControl]
  rw [if_pos homni,if_pos homni]
  dsimp only [verticalControl,omniControl]
  rw [hpid,yawError_twice]

/-- The command of an Ackermann vehicle does not depend on it either. -/
theorem computePosControl_asked_command (cfg : TrackerConfig)
    (g : Guidance) (pose ff : Vec4 ℝ) (dt : ℝ) (m : Motion) :
    (computePosControl cfg g pose ff dt (yawError g pose.w m).2).1=
      (computePosControl cfg g pose ff dt m).1 := by
  by_cases homni : cfg.isOmnidirectional=true
  · rw [computePosControl_asked cfg homni]
  by_cases hctrl : g.ctrlYaw=true
  · dsimp only [computePosControl]
    rw [if_neg homni,if_neg homni]
    dsimp only [ackermannControl,verticalControl,yawFeedback]
    simp only [yawError_eq,if_pos hctrl,answer_twice]
    split_ifs <;> rfl
  · rw [yawError_eq,if_neg hctrl]

/-- The angle controller: in every sequence of calls the answers are the differences up to
whole turns, and at most half a turn and the dead band; a call may be repeated, also by
the two callers in one control step; and while the wrapped difference stays near half a
turn, the direction changes at most once, to clockwise. -/
theorem angleController_steady :
    (∀ (calls : List AngleCall) (c : AngleCall),0≤c.deadband →
      ∀ wasTurningCw∈(directions false calls).getLast?,
        ((c.answer wasTurningCw).1 : Angle)=(c.target-c.current : ℝ) ∧
        |(c.answer wasTurningCw).1|≤π+c.deadband) ∧
    (∀ (c : AngleCall) (wasTurningCw : Bool),
      ((c.answer wasTurningCw).2=true ↔ (c.answer wasTurningCw).1<0) ∧
      c.answer (c.answer wasTurningCw).2=c.answer wasTurningCw) ∧
    (∀ (cfg : TrackerConfig) (g : Guidance) (pose ff : Vec4 ℝ) (dt : ℝ) (m : Motion),
      (computePosControl cfg g pose ff dt (yawError g pose.w m).2).1=
        (computePosControl cfg g pose ff dt m).1 ∧
      (cfg.isOmnidirectional=true → computePosControl cfg g pose ff dt (yawError g pose.w m).2=
        computePosControl cfg g pose ff dt m)) ∧
    (∀ calls : List AngleCall,(∀ c∈calls,c.deadband≤π ∧ c.NearHalfTurn) →
      ∀ wasTurningCw,∃ m n,
        directions wasTurningCw calls=List.replicate m false++List.replicate n true) :=
  ⟨fun _ c hband cw _ => ⟨coe_answer c cw,abs_answer_le c cw hband⟩,
    fun c cw => ⟨by rw [(answer_cases c cw).1,decide_eq_true_eq],answer_twice c cw⟩,
    fun cfg g pose ff dt m => ⟨computePosControl_asked_command cfg g pose ff dt m,
      fun homni => computePosControl_asked cfg homni g pose ff dt m⟩,directions_near⟩

end Dankong.Tracker

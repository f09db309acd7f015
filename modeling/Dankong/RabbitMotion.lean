import Dankong.BlindDescent
import Dankong.LimitedMotion
import Dankong.Runs

/-!
# Motion of the virtual rabbit

The bounds on the rabbit's velocity, and the leash that ties it to the vehicle. A
step takes the velocity part of the way to the wanted one, so that every disc that
holds both keeps it.
-/

namespace Dankong.Pland

open StateUtils LimitedMotion Runs

noncomputable section

/-- The vectors that a cut hands to `normalized()`. -/
def cutInputs (limit : ℝ) (v : Vec2 ℝ) : List (Vec2 ℝ) := if limit<norm2 v then [v] else []

section

variable {limit : ℝ} (hlimit : 0≤limit) (v : Vec2 ℝ)

include hlimit

/-- A cut normalises no zero vector. -/
theorem cutInputs_ne_zero : ∀ w∈cutInputs limit v,w≠.zero := by
  intro w hw
  obtain ⟨hlong,hw⟩ := List.mem_ite_nil_right.mp hw
  rw [List.mem_singleton.mp hw]
  exact ne_zero_of_norm2_pos (hlimit.trans_lt hlong)

/-- A cut vector is a fraction of the vector. -/
theorem plane_cutTo : ∃ t : ℝ,0≤t ∧ t≤1 ∧ t*norm2 v≤limit ∧ plane (cutTo limit v)=t•plane v := by
  by_cases hlong : limit<norm2 v
  · have hpos : 0<norm2 v := hlimit.trans_lt hlong
    have hsq : 0<v.x*v.x+v.y*v.y := Real.sqrt_pos.mp hpos
    have hx : limit*(v.x/norm2 v)=limit/norm2 v*v.x := by ring
    have hy : limit*(v.y/norm2 v)=limit/norm2 v*v.y := by ring
    have hcut : cutTo limit v=v.scale (limit/norm2 v) := by
      rw [cutTo,if_pos hlong,normalized,if_pos hsq]
      exact Vec2.ext hx hy
    have hshare : limit/norm2 v≤1 := (div_le_one hpos).mpr hlong.le
    refine ⟨limit/norm2 v,div_nonneg hlimit hpos.le,hshare,?_,?_⟩
    · rw [div_mul_cancel₀ limit hpos.ne']
    · rw [hcut,plane_scale]
  · have hcut : cutTo limit v=v := if_neg hlong
    refine ⟨1,zero_le_one,le_rfl,?_,?_⟩
    · rw [one_mul]
      exact not_lt.mp hlong
    · rw [hcut,one_smul]

/-- A cut vector lies on the way to the vector. -/
theorem plane_cutTo_mem_segment : plane (cutTo limit v)∈segment ℝ 0 (plane v) := by
  obtain ⟨t,h₀,h₁,_,hcut⟩ := plane_cutTo hlimit v
  have hmem := fraction_mem_segment h₀ h₁ 0 (plane v)
  rwa [zero_add,sub_zero,←hcut] at hmem

/-- A cut vector is within the limit. -/
theorem norm2_cutTo_le : norm2 (cutTo limit v) ≤ limit := by
  obtain ⟨t,h₀,_,hle,hcut⟩ := plane_cutTo hlimit v
  rw [←norm_plane,hcut,norm_smul,Real.norm_of_nonneg h₀,norm_plane]
  exact hle

/-- A cut vector is no longer than the vector. -/
theorem norm2_cutTo_le_self : norm2 (cutTo limit v) ≤ norm2 v := by
  obtain ⟨t,h₀,h₁,_,hcut⟩ := plane_cutTo hlimit v
  rw [←norm_plane,hcut,norm_smul,Real.norm_of_nonneg h₀,norm_plane]
  exact mul_le_of_le_one_left (Real.sqrt_nonneg _) h₁

end

/-- The arguments of a call of `step`, with the gains of the configuration. -/
structure StepCall where
  /-- `pland_kp`. -/
  kp : ℝ
  /-- `pland_kv`. -/
  kv : ℝ
  /-- Time since the last step. -/
  dt : ℝ
  /-- Where the target is, and how it moves. -/
  targetPos : Vec2 ℝ
  targetVel : Vec2 ℝ
  /-- Largest speed relative to the target. -/
  maxVel : ℝ
  /-- Largest acceleration. -/
  maxAcc : ℝ

/-- Gains, limits and times are not negative, and the velocity gain does not overshoot
within a step. -/
structure StepCall.Admissible (call : StepCall) : Prop where
  kp : 0≤call.kp
  kv : 0≤call.kv
  dt : 0≤call.dt
  maxVel : 0≤call.maxVel
  maxAcc : 0≤call.maxAcc
  overshoot : call.kv*call.dt≤1

/-- What happens to the rabbit. -/
inductive RabbitOp
  /-- `reset`. -/
  | reset (currentPos : Vec2 ℝ)
  /-- `force_set_state`. -/
  | forceSetState (newPos newVel : Vec2 ℝ)
  /-- `step`. -/
  | step (call : StepCall)
  /-- A cycle of the controller at a position and height: a reset unless the rabbit is
  initialised, a step, and the leash clamp. -/
  | follow (call : StepCall) (pos : Vec2 ℝ) (z : ℝ)

/-- The steps of an operation are admissible. -/
def RabbitOp.Admissible : RabbitOp → Prop
  | .reset _ => True
  | .forceSetState _ _ => True
  | .step call => call.Admissible
  | .follow call _ _ => call.Admissible

/-- The speed that an operation may bring the rabbit to. -/
def RabbitOp.topSpeed : RabbitOp → ℝ
  | .reset _ => 0
  | .forceSetState _ newVel => norm2 newVel
  | .step call => call.maxVel+norm2 call.targetVel
  | .follow call _ _ => call.maxVel+norm2 call.targetVel

/-- Length of the leash at a height. -/
def leashLength (z : ℝ) : ℝ := max 2.0 (1+0.5*(z/3.0))

/-- The vectors that the leash clamp hands to `normalized()`. -/
def leashInputs (pos : Vec2 ℝ) (z cruiseSpeedXy : ℝ) (virtual : Vec2 ℝ×Vec2 ℝ) : List (Vec2 ℝ) :=
  let trackingErr := virtual.1.sub pos
  if leashLength z<norm2 trackingErr then trackingErr::cutInputs cruiseSpeedXy virtual.2 else []

namespace Rabbit

/-- The rabbit that the controller steps: reset to the vehicle unless initialised. -/
def ready (pos : Vec2 ℝ) (r : Rabbit) : Rabbit := if r.initialized=true then r else .reset pos

/-- `step` with its arguments. -/
def stepBy (call : StepCall) (r : Rabbit) : (Vec2 ℝ×Vec2 ℝ)×Rabbit :=
  r.step call.kp call.kv call.dt call.targetPos call.targetVel call.maxVel call.maxAcc

/-- The velocity that a step steers for. -/
def desiredVel (call : StepCall) (r : Rabbit) : Vec2 ℝ :=
  (relVel call.kp call.maxVel call.maxAcc (call.targetPos.sub r.virtualPos)).add call.targetVel

/-- The acceleration towards it, before the cut. -/
def wantedAcc (call : StepCall) (r : Rabbit) : Vec2 ℝ :=
  ((r.desiredVel call).sub r.virtualVel).scale call.kv

/-- The vectors that a step hands to `normalized()`. -/
def stepInputs (call : StepCall) (r : Rabbit) : List (Vec2 ℝ) :=
  if r.initialized=false then []
  else
    let posErr := call.targetPos.sub r.virtualPos
    let wanted := posErr.scale call.kp
    cutInputs call.maxVel wanted++
      (if 0.01<norm2 posErr then
        cutInputs (√(2.0*(call.maxAcc*0.8)*norm2 posErr)) (cutTo call.maxVel wanted) else [])++
      cutInputs call.maxAcc (r.wantedAcc call)

/-- The effect of an operation. -/
def apply (r : Rabbit) : RabbitOp → Rabbit
  | .reset currentPos => .reset currentPos
  | .forceSetState newPos newVel => r.forceSetState newPos newVel
  | .step call => (r.stepBy call).2
  | .follow call pos z =>
    let moved := (r.ready pos).stepBy call
    (leash pos z call.maxVel moved.1 moved.2).2

/-- What is asked of a step. -/
structure SmoothStep (call : StepCall) (r : Rabbit) : Prop where
  /-- The velocity changes within the largest acceleration. -/
  change : norm2 ((r.stepBy call).2.virtualVel.sub r.virtualVel) ≤ call.maxAcc*call.dt
  /-- The speed stays within the old speed or the target's with the relative one. -/
  speed : norm2 (r.stepBy call).2.virtualVel ≤
    max (norm2 r.virtualVel) (call.maxVel+norm2 call.targetVel)
  /-- No zero vector is normalised. -/
  normal : ∀ v∈r.stepInputs call,v≠.zero

/-- What is asked of the leash clamp after a step. -/
structure OnLeash (pos : Vec2 ℝ) (z cruiseSpeedXy : ℝ) (virtual : Vec2 ℝ×Vec2 ℝ) (r : Rabbit) :
    Prop where
  /-- The rabbit and the command are within the leash. -/
  rabbit : norm2 ((leash pos z cruiseSpeedXy virtual r).2.virtualPos.sub pos) ≤ leashLength z
  command : norm2 ((leash pos z cruiseSpeedXy virtual r).1.1.sub pos) ≤ leashLength z
  /-- Neither is faster than before. -/
  rabbitSpeed : norm2 (leash pos z cruiseSpeedXy virtual r).2.virtualVel ≤ norm2 r.virtualVel
  commandSpeed : norm2 (leash pos z cruiseSpeedXy virtual r).1.2 ≤ norm2 virtual.2
  /-- No zero vector is normalised. -/
  normal : ∀ v∈leashInputs pos z cruiseSpeedXy virtual,v≠.zero

/-- What is asked of an operation in the state it arrives in. -/
def Smooth (r : Rabbit) : RabbitOp → Prop
  | .reset _ => True
  | .forceSetState _ _ => True
  | .step call => r.SmoothStep call
  | .follow call pos z =>
    (r.ready pos).SmoothStep call ∧
      OnLeash pos z call.maxVel ((r.ready pos).stepBy call).1 ((r.ready pos).stepBy call).2

section

variable {call : StepCall} {r : Rabbit}

/-- Before the initialisation a step changes nothing. -/
theorem stepBy_uninitialized (h : r.initialized=false) : (r.stepBy call).2=r := by
  rw [stepBy,step,if_pos h]

/-- The velocity after a step. -/
theorem stepBy_virtualVel (h : r.initialized≠false) : (r.stepBy call).2.virtualVel=
    r.virtualVel.add ((cutTo call.maxAcc (r.wantedAcc call)).scale call.dt) := by
  rw [stepBy,step,if_neg h]
  rfl

/-- A step returns the position and velocity it leaves behind. -/
theorem stepBy_returned (h : r.initialized≠false) :
    (r.stepBy call).1=((r.stepBy call).2.virtualPos,(r.stepBy call).2.virtualVel) := by
  rw [stepBy,step,if_neg h]

/-- The velocity relative to the target is within the largest one. -/
theorem norm2_relVel_le (kp maxAcc : ℝ) (posErr : Vec2 ℝ) {maxVel : ℝ} (hvel : 0 ≤ maxVel) :
    norm2 (relVel kp maxVel maxAcc posErr) ≤ maxVel := by
  have hcap : norm2 (cutTo maxVel (posErr.scale kp)) ≤ maxVel := norm2_cutTo_le hvel _
  by_cases hfar : 0.01<norm2 posErr
  · have hbrake : relVel kp maxVel maxAcc posErr=
        cutTo (√(2.0*(maxAcc*0.8)*norm2 posErr)) (cutTo maxVel (posErr.scale kp)) := if_pos hfar
    rw [hbrake]
    exact (norm2_cutTo_le_self (Real.sqrt_nonneg _) _).trans hcap
  · have hfree : relVel kp maxVel maxAcc posErr=cutTo maxVel (posErr.scale kp) := if_neg hfar
    rw [hfree]
    exact hcap

/-- The wanted velocity is within the target's speed and the relative one. -/
theorem norm2_desiredVel_le (hcall : call.Admissible) :
    norm2 (r.desiredVel call) ≤ call.maxVel+norm2 call.targetVel := by
  have hrel := norm2_relVel_le call.kp call.maxAcc (call.targetPos.sub r.virtualPos) hcall.maxVel
  rw [←norm_plane,desiredVel,plane_add]
  refine (norm_add_le _ _).trans ?_
  rw [norm_plane,norm_plane]
  exact add_le_add_left hrel _

/-- A step takes the velocity part of the way to the wanted one. -/
theorem stepBy_virtualVel_mem (hcall : call.Admissible) (h : r.initialized≠false) :
    plane (r.stepBy call).2.virtualVel∈
      segment ℝ (plane r.virtualVel) (plane (r.desiredVel call)) := by
  have hcut : plane (cutTo call.maxAcc (r.wantedAcc call))∈segment ℝ 0 (plane (r.wantedAcc call)) :=
    plane_cutTo_mem_segment hcall.maxAcc _
  have hshare : 0≤call.dt*call.kv := mul_nonneg hcall.dt hcall.kv
  have hwhole : call.dt*call.kv≤1 := (mul_comm _ _).trans_le hcall.overshoot
  have hfree : plane r.virtualVel+call.dt•plane (r.wantedAcc call)∈
      segment ℝ (plane r.virtualVel) (plane (r.desiredVel call)) := by
    rw [wantedAcc,plane_scale,plane_sub,smul_smul]
    exact fraction_mem_segment hshare hwhole _ _
  have hheld : plane r.virtualVel+call.dt•(0 : ℂ)∈
      segment ℝ (plane r.virtualVel) (plane (r.desiredVel call)) := by
    rw [smul_zero,add_zero]
    exact left_mem_segment ℝ _ _
  rw [stepBy_virtualVel h,plane_add,plane_scale]
  exact accelerate_mem (convex_segment _ _) hheld hfree hcut

/-- A step keeps every disc that holds the velocity and the wanted one. -/
theorem norm2_stepBy_le {bound : ℝ} (hcall : call.Admissible) (hold : norm2 r.virtualVel≤bound)
    (hwanted : call.maxVel+norm2 call.targetVel≤bound) :
    norm2 (r.stepBy call).2.virtualVel ≤ bound := by
  by_cases h : r.initialized=false
  · rwa [stepBy_uninitialized h]
  · have hstart : plane r.virtualVel∈Metric.closedBall (0 : ℂ) bound := by
      rwa [mem_closedBall_zero_iff,norm_plane]
    have hend : plane (r.desiredVel call)∈Metric.closedBall (0 : ℂ) bound := by
      rw [mem_closedBall_zero_iff,norm_plane]
      exact (norm2_desiredVel_le hcall).trans hwanted
    have hmem := (convex_closedBall (0 : ℂ) bound).segment_subset hstart hend
      (stepBy_virtualVel_mem hcall h)
    rwa [mem_closedBall_zero_iff,norm_plane] at hmem

/-- A step changes the velocity within the largest acceleration. -/
theorem norm2_stepBy_sub_le (hcall : call.Admissible) :
    norm2 ((r.stepBy call).2.virtualVel.sub r.virtualVel) ≤ call.maxAcc*call.dt := by
  by_cases h : r.initialized=false
  · rw [stepBy_uninitialized h,←norm_plane,plane_sub,sub_self,norm_zero]
    exact mul_nonneg hcall.maxAcc hcall.dt
  · have hcut : norm2 (cutTo call.maxAcc (r.wantedAcc call)) ≤ call.maxAcc :=
      norm2_cutTo_le hcall.maxAcc _
    rw [stepBy_virtualVel h,←norm_plane,plane_sub,plane_add,plane_scale,add_sub_cancel_left,
      norm_smul,Real.norm_of_nonneg hcall.dt,norm_plane,mul_comm]
    exact mul_le_mul_of_nonneg_right hcut hcall.dt

/-- A step normalises no zero vector. -/
theorem stepInputs_ne_zero (hcall : call.Admissible) : ∀ v∈r.stepInputs call,v≠.zero := by
  intro v hv
  obtain ⟨_,hv⟩ := List.mem_ite_nil_left.mp hv
  dsimp only at hv
  rw [List.mem_append,List.mem_append] at hv
  rcases hv with (hv|hv)|hv
  · exact cutInputs_ne_zero hcall.maxVel _ v hv
  · obtain ⟨_,hv⟩ := List.mem_ite_nil_right.mp hv
    exact cutInputs_ne_zero (Real.sqrt_nonneg _) _ v hv
  · exact cutInputs_ne_zero hcall.maxAcc _ v hv

/-- Every admissible step is smooth. -/
theorem smoothStep (hcall : call.Admissible) : r.SmoothStep call where
  change := norm2_stepBy_sub_le hcall
  speed := norm2_stepBy_le hcall (le_max_left _ _) (le_max_right _ _)
  normal := stepInputs_ne_zero hcall

end

section

variable {pos : Vec2 ℝ} {z cruise : ℝ} {virtual : Vec2 ℝ×Vec2 ℝ} {r : Rabbit}

/-- The leash has a length. -/
theorem leashLength_pos (z : ℝ) : 0<leashLength z := by
  have htwo : (0 : ℝ)<2.0 := by norm_num
  exact htwo.trans_le (le_max_left _ _)

/-- Beyond its length the leash pulls the rabbit back. -/
theorem leash_pulled (cruise : ℝ) (r : Rabbit) (h : leashLength z<norm2 (virtual.1.sub pos)) :
    leash pos z cruise virtual r=
      ((pos.add (cutTo (leashLength z) (virtual.1.sub pos)),cutTo cruise virtual.2),
        r.forceSetState (pos.add (cutTo (leashLength z) (virtual.1.sub pos)))
          (cutTo cruise virtual.2)) := by
  have hcut : cutTo (leashLength z) (virtual.1.sub pos)=
      (normalized (virtual.1.sub pos)).scale (leashLength z) := if_pos h
  rw [hcut]
  exact if_pos h

/-- Within its length the leash is loose. -/
theorem leash_loose (cruise : ℝ) (r : Rabbit) (h : ¬leashLength z<norm2 (virtual.1.sub pos)) :
    leash pos z cruise virtual r=(virtual,r) := if_neg h

/-- A rabbit pulled back is within the leash. -/
theorem norm2_pulled_le (pos : Vec2 ℝ) (z : ℝ) (v : Vec2 ℝ) :
    norm2 ((pos.add (cutTo (leashLength z) v)).sub pos) ≤ leashLength z := by
  have hback : norm2 ((pos.add (cutTo (leashLength z) v)).sub pos)=
      norm2 (cutTo (leashLength z) v) := by
    rw [←norm_plane,plane_sub,plane_add,add_sub_cancel_left,norm_plane]
  rw [hback]
  exact norm2_cutTo_le (leashLength_pos z).le v

/-- The leash clamp normalises no zero vector. -/
theorem leashInputs_ne_zero (hcruise : 0≤cruise) :
    ∀ v∈leashInputs pos z cruise virtual,v≠.zero := by
  intro v hv
  obtain ⟨hlong,hv⟩ := List.mem_ite_nil_right.mp hv
  rcases List.mem_cons.mp hv with herr|hvel
  · rw [herr]
    exact ne_zero_of_norm2_pos ((leashLength_pos z).trans hlong)
  · exact cutInputs_ne_zero hcruise _ v hvel

/-- The command is within the leash. -/
theorem norm2_leash_le (pos : Vec2 ℝ) (z cruise : ℝ) (virtual : Vec2 ℝ×Vec2 ℝ) (r : Rabbit) :
    norm2 ((leash pos z cruise virtual r).1.1.sub pos) ≤ leashLength z := by
  by_cases hlong : leashLength z<norm2 (virtual.1.sub pos)
  · rw [leash_pulled cruise r hlong]
    exact norm2_pulled_le pos z _
  · rw [leash_loose cruise r hlong]
    exact not_lt.mp hlong

/-- The command is no faster than before the clamp. -/
theorem norm2_leash_vel_le (pos : Vec2 ℝ) (z : ℝ) (virtual : Vec2 ℝ×Vec2 ℝ) (r : Rabbit)
    (hcruise : 0≤cruise) :
    norm2 (leash pos z cruise virtual r).1.2 ≤ norm2 virtual.2 := by
  by_cases hlong : leashLength z<norm2 (virtual.1.sub pos)
  · rw [leash_pulled cruise r hlong]
    exact norm2_cutTo_le_self hcruise _
  · rw [leash_loose cruise r hlong]

/-- The rabbit is where the command is, if it was before the clamp. -/
theorem leash_returned (pos : Vec2 ℝ) (z cruise : ℝ)
    (hvirtual : virtual=(r.virtualPos,r.virtualVel)) :
    (leash pos z cruise virtual r).1=
      ((leash pos z cruise virtual r).2.virtualPos,(leash pos z cruise virtual r).2.virtualVel) := by
  by_cases hlong : leashLength z<norm2 (virtual.1.sub pos)
  · rw [leash_pulled cruise r hlong]
    rfl
  · rw [leash_loose cruise r hlong]
    exact hvirtual

/-- The clamp ties a rabbit whose position and velocity were returned. -/
theorem onLeash (hcruise : 0≤cruise) (hvirtual : virtual=(r.virtualPos,r.virtualVel)) :
    OnLeash pos z cruise virtual r := by
  have hreturned := leash_returned pos z cruise hvirtual
  have hpos := congrArg Prod.fst hreturned
  have hvel := congrArg Prod.snd hreturned
  have hbefore := congrArg Prod.snd hvirtual
  dsimp only at hpos hvel hbefore
  have hcommand := norm2_leash_le pos z cruise virtual r
  have hslower := norm2_leash_vel_le pos z virtual r hcruise
  constructor
  case command => exact hcommand
  case rabbit => rwa [←hpos]
  case commandSpeed => exact hslower
  case rabbitSpeed => rwa [←hvel,←hbefore]
  case normal => exact leashInputs_ne_zero hcruise

/-- The controller steps an initialised rabbit. -/
theorem ready_initialized (pos : Vec2 ℝ) (r : Rabbit) : (r.ready pos).initialized=true := by
  by_cases h : r.initialized=true
  · rwa [ready,if_pos h]
  · rw [ready,if_neg h]
    rfl

/-- An initialised rabbit is tied after a step. -/
theorem onLeash_stepBy {call : StepCall} (hcall : call.Admissible) (h : r.initialized=true) :
    OnLeash pos z call.maxVel (r.stepBy call).1 (r.stepBy call).2 := by
  have hready : r.initialized≠false := by simp [h]
  exact onLeash hcall.maxVel (stepBy_returned hready)

end

/-- Every admissible operation is smooth in every state. -/
theorem smooth_apply (r : Rabbit) {op : RabbitOp} (hop : op.Admissible) : r.Smooth op := by
  cases op with
  | reset => trivial
  | forceSetState => trivial
  | step call => exact smoothStep hop
  | follow call pos z => exact ⟨smoothStep hop,onLeash_stepBy hop (ready_initialized pos r)⟩

/-- An operation keeps every bound on the speed that it does not exceed itself. -/
theorem norm2_apply_le {r : Rabbit} {op : RabbitOp} {bound : ℝ} (hop : op.Admissible)
    (htop : op.topSpeed≤bound) (hbound : 0≤bound) (hold : norm2 r.virtualVel≤bound) :
    norm2 (r.apply op).virtualVel ≤ bound := by
  have hrest : norm2 Vec2.zero ≤ bound := norm2_zero.trans_le hbound
  cases op with
  | reset currentPos => exact hrest
  | forceSetState newPos newVel => exact htop
  | step call => exact norm2_stepBy_le hop hold htop
  | follow call pos z =>
    have hready : norm2 (r.ready pos).virtualVel ≤ bound := by
      by_cases h : r.initialized=true
      · rwa [ready,if_pos h]
      · rw [ready,if_neg h]
        exact hrest
    have hmoved := norm2_stepBy_le hop hready htop
    exact (onLeash_stepBy hop (ready_initialized pos r)).rabbitSpeed.trans hmoved

end Rabbit

section

variable (cfg : PlandConfig ℝ) (env : PlandEnv) (dt : ℝ) (s : PlandState)

/-- The penalty on speed and acceleration in the global mode. -/
def globalPenalty : ℝ :=
  let relative := env.orientation.normalize.rotateBack ((aimPoint cfg env s).sub env.posEnu)
  enuPenalty s (degrees (atan2 (hypot relative.x relative.y) (currentZ cfg env)))
    (degrees |wrapAngle (aimYaw env s-env.yawEnu)|) (enuXyError cfg env s)

/-- The step that the global mode asks of the rabbit. -/
def globalCall : StepCall where
  kp := cfg.plandKp
  kv := cfg.plandKv
  dt := dt
  targetPos := (aimPoint cfg env s).horizontal
  targetVel := s.latestObs.targetVelEnu.horizontal
  maxVel := max (min cfg.plandCruiseSpeedXy (max 0.3 (enuXyError cfg env s*0.5)+
    norm2 s.latestObs.targetVelEnu.horizontal)*globalPenalty cfg env s) 0.5
  maxAcc := max (cfg.plandMaxAccXy*globalPenalty cfg env s) 0.8

/-- The global mode moves the rabbit by one cycle. -/
theorem stepGlobalEnu_trajGen : (stepGlobalEnu cfg env dt s).1.trajGen=s.trajGen.apply
    (.follow (globalCall cfg env dt s) env.posEnu.horizontal (currentZ cfg env)) := by
  dsimp only [stepGlobalEnu]
  split
  all_goals
    rename_i heq
    exact congrArg PlandState.trajGen (executeZStateMachine_state_of_eq cfg _ heq)

variable {cfg dt}

/-- The limits of the global mode are positive, whatever the penalty. -/
theorem globalCall_admissible (hkp : 0≤cfg.plandKp) (hkv : 0≤cfg.plandKv) (hdt : 0≤dt)
    (hgain : cfg.plandKv*dt≤1) : (globalCall cfg env dt s).Admissible where
  kp := hkp
  kv := hkv
  dt := hdt
  maxVel := le_max_of_le_right (by norm_num)
  maxAcc := le_max_of_le_right (by norm_num)
  overshoot := hgain

/-- In the global mode the rabbit never runs away from the vehicle. -/
theorem stepGlobalEnu_onLeash (hkp : 0≤cfg.plandKp) (hkv : 0≤cfg.plandKv) (hdt : 0≤dt)
    (hgain : cfg.plandKv*dt≤1) :
    norm2 ((stepGlobalEnu cfg env dt s).1.trajGen.virtualPos.sub env.posEnu.horizontal) ≤
      leashLength (currentZ cfg env) := by
  have hcall := globalCall_admissible env s hkp hkv hdt hgain
  rw [stepGlobalEnu_trajGen]
  exact (Rabbit.onLeash_stepBy hcall (Rabbit.ready_initialized _ _)).rabbit

end

/-- In every run the operations are smooth in the states they arrive in, and no speed
exceeds the greatest that the start and the operations allow. The controller's global mode
continues such a run, and leaves the rabbit on its leash. -/
theorem Rabbit.smooth_run (r : Rabbit) (ops : List RabbitOp) (hops : ∀ op∈ops,op.Admissible) :
    Guarded apply Smooth r ops ∧
    (∀ bound,norm2 r.virtualVel≤bound → (∀ op∈ops,op.topSpeed≤bound) →
      norm2 (runFrom apply r ops).virtualVel ≤ bound) ∧
    ∀ (cfg : PlandConfig ℝ) (env : PlandEnv) (dt : ℝ) (s : PlandState),
      0≤cfg.plandKp → 0≤cfg.plandKv → 0≤dt → cfg.plandKv*dt≤1 →
      s.trajGen=runFrom apply r ops →
      (stepGlobalEnu cfg env dt s).1.trajGen=runFrom apply r (ops++
          [.follow (globalCall cfg env dt s) env.posEnu.horizontal (currentZ cfg env)]) ∧
        norm2 ((stepGlobalEnu cfg env dt s).1.trajGen.virtualPos.sub env.posEnu.horizontal) ≤
          leashLength (currentZ cfg env) := by
  refine ⟨guarded_of_mem ops (fun op hop s => smooth_apply s (hops op hop)) r,?_,?_⟩
  · intro bound hstart htop
    have hbound : 0≤bound := (Real.sqrt_nonneg _).trans hstart
    have hkept : ∀ (s : Rabbit) (op : RabbitOp),norm2 s.virtualVel≤bound →
        op.Admissible ∧ op.topSpeed≤bound → norm2 (s.apply op).virtualVel ≤ bound := by
      intro s op hs hop
      exact norm2_apply_le hop.1 hop.2 hbound hs
    exact guarded_invariant hkept ops hstart
      (guarded_of_mem ops (fun op hop _ => ⟨hops op hop,htop op hop⟩) r)
  · intro cfg env dt s hkp hkv hdt hgain hreached
    refine ⟨?_,stepGlobalEnu_onLeash env s hkp hkv hdt hgain⟩
    rw [stepGlobalEnu_trajGen,hreached,runFrom_append]
    rfl

/-- A step towards a target one metre ahead, a tenth of a second later. -/
def ahead : StepCall := ⟨1.5,2.5,0.1,⟨1,0⟩,.zero,3.0,1⟩

/-- It meets the conditions of a step. -/
theorem ahead_admissible : ahead.Admissible := by constructor <;> norm_num [ahead]

/-- A rabbit that is released, runs ahead, is put on its target, and is followed by a
vehicle ten metres behind. -/
def tugged : List RabbitOp :=
  [.reset .zero,.step ahead,.forceSetState ⟨1,0⟩ .zero,.follow ahead ⟨-9.0,0⟩ 3.0]

/-- No speed beyond three metres a second is allowed. -/
theorem tugged_topSpeed : ∀ op∈tugged,op.Admissible ∧ op.topSpeed≤3 := by
  have hrest : norm2 .zero ≤ 3 := norm2_zero.trans_le (by norm_num)
  have hahead : 3.0+norm2 .zero ≤ 3 := by norm_num
  simp only [tugged,List.forall_mem_cons,List.not_mem_nil,false_implies,implies_true,and_true]
  refine ⟨⟨trivial,by norm_num [RabbitOp.topSpeed]⟩,⟨ahead_admissible,hahead⟩,
    ⟨trivial,hrest⟩,⟨ahead_admissible,hahead⟩⟩

/-- On its target the rabbit does not move. -/
theorem stepBy_onTarget :
    (Rabbit.stepBy ahead ⟨⟨1,0⟩,.zero,true⟩)=((⟨1,0⟩,.zero),⟨⟨1,0⟩,.zero,true⟩) := by
  norm_num [Rabbit.stepBy,Rabbit.step,Rabbit.relVel,ahead,cutTo,norm2,hypot,Vec2.zero,Vec2.sub,
    Vec2.add,Vec2.scale]

/-- The leash pulls it to two metres ahead of the vehicle. -/
theorem tugged_pulled : (runFrom Rabbit.apply {} tugged).virtualPos=⟨-7,0⟩ := by
  have hforced : runFrom Rabbit.apply {} tugged=
      Rabbit.apply ⟨⟨1,0⟩,.zero,true⟩ (.follow ahead ⟨-9.0,0⟩ 3.0) := rfl
  have hlength : leashLength 3.0=2 := by norm_num [leashLength]
  have hahead : (⟨1,0⟩ : Vec2 ℝ).sub ⟨-9.0,0⟩=⟨10,0⟩ := Vec2.ext (by norm_num [Vec2.sub]) (sub_zero 0)
  have hlong : norm2 ⟨10,0⟩=10 := by norm_num [norm2,hypot]
  have htight : leashLength 3.0<norm2 ((⟨1,0⟩ : Vec2 ℝ).sub ⟨-9.0,0⟩) := by
    rw [hlength,hahead,hlong]
    norm_num
  rw [hforced]
  dsimp only [Rabbit.apply,Rabbit.ready]
  rw [if_pos rfl,stepBy_onTarget,Rabbit.leash_pulled _ _ htight,cutTo,if_pos htight,hlength,hahead]
  norm_num [Rabbit.forceSetState,normalized,hlong,Vec2.scale,Vec2.add]

/-- The run is smooth. -/
theorem released_smooth :
    Guarded Rabbit.apply Rabbit.Smooth {} tugged ∧
      norm2 (runFrom Rabbit.apply {} tugged).virtualVel ≤ 3 ∧
      (runFrom Rabbit.apply {} tugged).virtualPos=⟨-7,0⟩ := by
  obtain ⟨hsmooth,hspeed,_⟩ :=
    Rabbit.smooth_run {} tugged fun op hop => (tugged_topSpeed op hop).1
  have hrest : norm2 .zero ≤ 3 := norm2_zero.trans_le (by norm_num)
  exact ⟨hsmooth,hspeed 3 hrest fun op hop => (tugged_topSpeed op hop).2,tugged_pulled⟩

end

end Dankong.Pland

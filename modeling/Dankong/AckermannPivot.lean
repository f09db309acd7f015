import Dankong.TrackerCaps

/-!
# Turning in place

Outside the arrival tolerance an Ackermann vehicle turns in place until it faces
its target, and then drives forward. The feed-forward velocity of the leg is added
to whatever the two branches ask for. The forward component is as intended exactly
as long as that velocity has no part along the heading while the vehicle turns, and
takes back no more than the pursuit speed while it drives.
-/

namespace Dankong.Tracker

open Runs StateUtils Real

noncomputable section

open Classical in
/-- Guidance and memory with which a control step reaches `on_pos_step`, if it does. -/
def posInput (cfg : TrackerConfig) (env : Surroundings) (s : TrackerState) :
    Option (Guidance×Motion) :=
  match s.guide.currentMode with
  | .position =>
    let g := autoHeadingUpdate cfg env s.guide
    let m := (yawError g env.yawEnu s.motion).2
    if Arrived cfg env s then
      if s.guide.currentWpIdx+1<s.guide.targetWaypoints.length then
        some (applyCurrentWaypoint cfg env s.speedLimitCbs
          { g with currentWpIdx := s.guide.currentWpIdx+1 },m)
      else none
    else some (g,m)
  | _ => none

/-- Horizontal distance to the target, `dist_to_target`. -/
def distToTarget (env : Surroundings) (g : Guidance) : ℝ :=
  hypot (g.targetPoseEnu.x-env.posEnu.x) (g.targetPoseEnu.y-env.posEnu.y)

/-- Heading error against the target, `alpha`. -/
def headingError (env : Surroundings) (g : Guidance) : ℝ :=
  pursuitAngle (g.targetPoseEnu.x-env.posEnu.x) (g.targetPoseEnu.y-env.posEnu.y) env.yawEnu

/-- `PIVOT_ENTER_TOL`. -/
def pivotEnterTol : ℝ := 30.0*π/180.0

/-- What `compute_pos_control` returns for the input. -/
def posControl (cfg : TrackerConfig) (env : Surroundings) (dt : ℝ) (i : Guidance×Motion) :
    Vec4 ℝ×Motion :=
  computePosControl cfg i.1 env.pose (bodyTargetVel env i.1) dt i.2

/-- Outside the tolerance the vehicle does not move while it turns in place; otherwise
it roughly faces its target and does not reverse. -/
def TurnsOrDrives (cfg : TrackerConfig) (env : Surroundings) (dt : ℝ) (i : Guidance×Motion) : Prop :=
  cfg.posToleranceM≤distToTarget env i.1 →
    if (posControl cfg env dt i).2.isPivoting=true then (posControl cfg env dt i).1.x=0
    else |headingError env i.1|≤pivotEnterTol ∧ 0≤(posControl cfg env dt i).1.x

/-- Outside the tolerance the feed-forward velocity has no forward component when the
vehicle is to turn in place, and takes back no more than the pursuit speed when it is
to drive. -/
def FeedForwardMild (cfg : TrackerConfig) (env : Surroundings) (i : Guidance×Motion) : Prop :=
  cfg.posToleranceM≤distToTarget env i.1 →
    if pivotNext i.2.isPivoting (headingError env i.1)=true then (bodyTargetVel env i.1).x=0
    else -clamp (cfg.kpXy*distToTarget env i.1) 0 i.1.fbVelLimitXy≤(bodyTargetVel env i.1).x

/-- Every call of `compute_pos_control` that an operation makes has the property. -/
def EveryPosCall (cfg : TrackerConfig)
    (P : Surroundings → ℝ → Guidance×Motion → Prop) (s : TrackerState) (op : TrackerOp) : Prop :=
  match op with
  | .step env dt => ¬dt<1e-6 → ∀ i∈posInput cfg env (consumePending cfg env s),P env dt i
  | _ => True

end

section

variable {cfg : TrackerConfig} {env : Surroundings} {dt : ℝ}

/-- A position step hands its input to `on_pos_step`. -/
theorem controlStep_posInput {s : TrackerState} {i : Guidance×Motion}
    (h : posInput cfg env s=some i) :
    controlStep cfg env dt s=
      ({ s with guide := i.1, motion := (onPosStep cfg env i.1 dt i.2).2 },
        [(onPosStep cfg env i.1 dt i.2).1]) := by
  cases hmode : s.guide.currentMode with
  | none => simp [posInput,hmode] at h
  | velocity => simp [posInput,hmode] at h
  | position =>
    have hstep : controlStep cfg env dt s=positionStep cfg env dt s := by rw [controlStep,hmode]
    rw [posInput,hmode] at h
    dsimp only at h
    split_ifs at h with hat hmore
    · rw [hstep,positionStep_moves hat hmore,←Option.some.inj h]
    · rw [hstep,positionStep_tracks hat,←Option.some.inj h]

/-- Whoever does not turn in place roughly faces the target. -/
theorem heading_of_not_pivoting {isPivoting : Bool} {alpha : ℝ}
    (h : ¬pivotNext isPivoting alpha=true) : |alpha|≤pivotEnterTol := by
  have hexit : (5.0*π/180.0 : ℝ)≤pivotEnterTol := by
    have hpi := Real.pi_pos
    unfold pivotEnterTol
    linarith
  dsimp only [pivotNext] at h
  split_ifs at h with henter hleave
  · exact absurd rfl h
  · exact hleave.2.le.trans hexit
  · have hfalse : isPivoting=false := Bool.eq_false_iff.mpr h
    exact not_lt.mp fun hlt => henter ⟨hfalse,hlt⟩

/-- Turning state and forward component outside the tolerance. -/
theorem ackermannControl_outside {g : Guidance} {pose ff : Vec4 ℝ} {m : Motion}
    (hout : cfg.posToleranceM≤hypot (g.targetPoseEnu.x-pose.x) (g.targetPoseEnu.y-pose.y)) :
    let dist := hypot (g.targetPoseEnu.x-pose.x) (g.targetPoseEnu.y-pose.y)
    let alpha := pursuitAngle (g.targetPoseEnu.x-pose.x) (g.targetPoseEnu.y-pose.y) pose.w
    (ackermannControl cfg g pose ff dt m).2.isPivoting=pivotNext m.isPivoting alpha ∧
      (ackermannControl cfg g pose ff dt m).1.1=
        (if pivotNext m.isPivoting alpha=true then 0
          else clamp (cfg.kpXy*dist) 0 g.fbVelLimitXy)+ff.x := by
  intro dist alpha
  dsimp only [ackermannControl]
  rw [if_neg (not_lt.mpr hout)]
  by_cases hpivot : pivotNext m.isPivoting alpha=true
  · rw [if_pos hpivot,if_pos hpivot]
    exact ⟨rfl,rfl⟩
  · rw [if_neg hpivot,if_neg hpivot]
    exact ⟨rfl,rfl⟩

/-- The same for the call of `compute_pos_control` in a step. -/
theorem posControl_outside (hcar : cfg.isOmnidirectional=false) {i : Guidance×Motion}
    (hout : cfg.posToleranceM≤distToTarget env i.1) :
    (posControl cfg env dt i).2.isPivoting=pivotNext i.2.isPivoting (headingError env i.1) ∧
      (posControl cfg env dt i).1.x=
        (if pivotNext i.2.isPivoting (headingError env i.1)=true then 0
          else clamp (cfg.kpXy*distToTarget env i.1) 0 i.1.fbVelLimitXy)+(bodyTargetVel env i.1).x := by
  have hnotOmni : ¬cfg.isOmnidirectional=true := by rw [hcar]; nofun
  dsimp only [posControl,computePosControl]
  rw [if_neg hnotOmni]
  exact ackermannControl_outside hout

/-- A call is as intended exactly if its feed-forward velocity is mild. -/
theorem turnsOrDrives_iff (hcar : cfg.isOmnidirectional=false) (i : Guidance×Motion) :
    TurnsOrDrives cfg env dt i ↔ FeedForwardMild cfg env i := by
  refine imp_congr_right fun hout => ?_
  obtain ⟨hpivots,hx⟩ := posControl_outside hcar hout
  rw [hpivots,hx]
  by_cases hpivot : pivotNext i.2.isPivoting (headingError env i.1)=true
  · rw [if_pos hpivot,if_pos hpivot,if_pos hpivot,zero_add]
  · have hheading := heading_of_not_pivoting hpivot
    rw [if_neg hpivot,if_neg hpivot,if_neg hpivot,and_iff_right hheading,neg_le_iff_add_nonneg']

/-- In every run of an Ackermann vehicle all position steps turn in place or drive
forward exactly if all their feed-forward velocities are mild. -/
theorem run_turnsOrDrives_iff (cfg : TrackerConfig) (hcar : cfg.isOmnidirectional=false)
    (env₀ : Surroundings) (t₀ : ℝ) (ops : List TrackerOp) :
    Guarded (apply cfg) (EveryPosCall cfg (TurnsOrDrives cfg)) (onStart env₀ (fresh t₀)) ops ↔
      Guarded (apply cfg) (EveryPosCall cfg fun env _ => FeedForwardMild cfg env)
        (onStart env₀ (fresh t₀)) ops := by
  refine guarded_congr (fun s op => ?_) _ ops
  cases op with
  | step env dt =>
    refine imp_congr_right fun _ => forall_congr' fun i => imp_congr_right fun _ => ?_
    exact turnsOrDrives_iff hcar i
  | _ => exact Iff.rfl

end

noncomputable section

/-- A path of two points behind the vehicle, and one step. -/
def pathBehind : List TrackerOp := [.sendPos [{ pos := ⟨-1,0,0⟩ },{ pos := ⟨-2.0,0,0⟩ }],.step still 1]

end

/-- The guidance of the path: the feed-forward velocity points at it. -/
theorem pathBehind_guide (g : Guidance) :
    let g' := applyPath {isOmnidirectional := false} still [] [{ pos := ⟨-1,0,0⟩ },{ pos := ⟨-2.0,0,0⟩ }] g
    g'.currentMode=.position ∧ g'.targetPoseEnu=⟨-1,0,0,g.targetPoseEnu.w⟩ ∧ g'.targetFrame=.enu ∧
      g'.targetVel=⟨-3,0,0,0⟩ := by
  have hlen : hypot (-1) 0=1 := by norm_num [hypot]
  have hcruise : cruiseVel still [{ pos := ⟨-1,0,0⟩ },{ pos := ⟨-2.0,0,0⟩ }] 0 { pos := ⟨-1,0,0⟩ }
      (min 3.0 3.0)=⟨-3,0,0⟩ := by
    dsimp only [cruiseVel,still,Vec3.sub,Vec3.zero,List.getElem?_cons_succ,List.getElem?_cons_zero]
    norm_num [hlen]
  refine ⟨rfl,rfl,rfl,?_⟩
  dsimp only [applyPath,applyCurrentWaypoint,Guidance.currentWp?,List.getElem?_cons_zero,
    effectiveLimit,List.foldl_nil,Option.getD]
  rw [hcruise]

/-- The input of the step. -/
theorem pathBehind_input :
    ∃ i,posInput {isOmnidirectional := false} still
        (consumePending {isOmnidirectional := false} still
          (apply {isOmnidirectional := false} (onStart still (fresh 0))
            (.sendPos [{ pos := ⟨-1,0,0⟩ },{ pos := ⟨-2.0,0,0⟩ }])))=some i ∧
      i.1.targetPoseEnu.x= -1 ∧ i.1.targetPoseEnu.y=0 ∧ i.1.targetFrame=.enu ∧
      i.1.targetVel=⟨-3,0,0,0⟩ ∧ i.2.isPivoting=false := by
  let t := consumePending {isOmnidirectional := false} still
    (apply {isOmnidirectional := false} (onStart still (fresh 0))
      (.sendPos [{ pos := ⟨-1,0,0⟩ },{ pos := ⟨-2.0,0,0⟩ }]))
  obtain ⟨hmode,hpose,hframe,hvel⟩ := pathBehind_guide (onStart still (fresh 0)).guide
  change t.guide.currentMode=_ at hmode
  change t.guide.targetPoseEnu=_ at hpose
  change t.guide.targetFrame=_ at hframe
  change t.guide.targetVel=_ at hvel
  have hheading := autoHeadingUpdate_eq {isOmnidirectional := false} still t.guide
  have hpivot : (yawError (autoHeadingUpdate {isOmnidirectional := false} still t.guide)
      still.yawEnu t.motion).2.isPivoting=t.motion.isPivoting := by
    dsimp only [yawError]
    split_ifs <;> rfl
  have haway : ¬Arrived {isOmnidirectional := false} still t := by
    rintro ⟨hnear,_⟩
    rw [hheading,hpose] at hnear
    norm_num [still,Vec3.zero] at hnear
  have hfresh : t.motion.isPivoting=false := by
    dsimp only [t,consumePending]
    split_ifs <;> rfl
  have hinput : posInput {isOmnidirectional := false} still t=
      some (autoHeadingUpdate {isOmnidirectional := false} still t.guide,
        (yawError (autoHeadingUpdate {isOmnidirectional := false} still t.guide)
          still.yawEnu t.motion).2) := by
    rw [posInput,hmode]
    exact if_neg haway
  refine ⟨_,hinput,?_,?_,?_,?_,hpivot.trans hfresh⟩
  all_goals
    rw [hheading]
    dsimp only
  · rw [hpose]
  · rw [hpose]
  · exact hframe
  · exact hvel

/-- An accepted path lets the vehicle reverse while it should turn in place. -/
theorem pathBehind_reverses :
    ¬∀ (cfg : TrackerConfig),cfg.isOmnidirectional=false → ∀ (env₀ : Surroundings) (t₀ : ℝ)
      (ops : List TrackerOp),
      (∀ path,.sendPos path∈ops → ∀ wp∈path,wp.ffVel=none) →
      Guarded (apply cfg) (EveryPosCall cfg (TurnsOrDrives cfg)) (onStart env₀ (fresh t₀)) ops := by
  intro h
  have hrun := h {isOmnidirectional := false} rfl still 0 pathBehind ?_
  · obtain ⟨i,hi,hx,hy,hframe,hvel,hpivot⟩ := pathBehind_input
    have hmild := (turnsOrDrives_iff rfl i).mp (hrun.2.1 (by norm_num) i hi)
    have hdist : distToTarget still i.1=1 := by
      rw [distToTarget,hx,hy]
      norm_num [hypot,still,Vec3.zero]
    have hheading : headingError still i.1=π := by
      have harg : atan2 (0-0) (-1-0)=π := by
        rw [sub_zero,sub_zero,atan2,←Complex.arg_neg_one]
        exact congrArg Complex.arg (Complex.ext (by simp) (by simp))
      have hpi := Real.pi_pos
      have hnorm : normYaw (π-0)=π := by
        rw [sub_zero,normYaw,addTurns,if_neg (by linarith),dropTurns,if_pos (by linarith)]
      rw [headingError,hx,hy]
      dsimp only [still,Vec3.zero,pursuitAngle]
      rw [harg,hnorm,if_neg (lt_irrefl π)]
    have hturns : pivotNext i.2.isPivoting (headingError still i.1)=true := by
      have hpi := Real.pi_pos
      rw [hheading,hpivot]
      exact if_pos ⟨rfl,by rw [abs_of_pos hpi]; linarith⟩
    have hforward := hmild (by rw [hdist]; norm_num)
    rw [if_pos hturns] at hforward
    dsimp only [bodyTargetVel] at hforward
    rw [hframe,hvel] at hforward
    norm_num [rotateToBody,still] at hforward
  · intro path hpath wp hwp
    simp only [pathBehind,List.mem_cons,TrackerOp.sendPos.injEq,reduceCtorEq,List.not_mem_nil,
      or_false] at hpath
    rw [hpath] at hwp
    rcases List.mem_cons.mp hwp with rfl|hwp
    · rfl
    · rw [List.mem_singleton.mp hwp]

/-- The equivalence on a path of one point, where no feed-forward velocity is added. -/
theorem underway_turnsOrDrives_iff :
    Guarded (apply {isOmnidirectional := false})
        (EveryPosCall {isOmnidirectional := false} (TurnsOrDrives {isOmnidirectional := false}))
        (onStart still (fresh 0)) underway ↔
      Guarded (apply {isOmnidirectional := false})
        (EveryPosCall {isOmnidirectional := false} fun env _ =>
          FeedForwardMild {isOmnidirectional := false} env)
        (onStart still (fresh 0)) underway :=
  run_turnsOrDrives_iff {isOmnidirectional := false} rfl still 0 underway

end Dankong.Tracker

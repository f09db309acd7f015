import Dankong.EngineQueue

/-!
# What a mission request becomes

The listener rewrites a mission request before a state sees it. Heights are
submitted relative to the home of the flight controller, and both coordinate
systems shift them by the same amount into the local frame. The flag for local
coordinates is rewritten as well, and with it the question whether the vehicle
arms first.
-/

namespace Dankong.Flight

open Engine

/-- The vehicles. -/
inductive Robot
  /-- `Drone`. -/
  | drone
  /-- `Dog`. -/
  | dog
  /-- `Car`. -/
  | car
  /-- `Go2`. -/
  | go2

namespace Robot

/-- `should_arm_before_enter` of the vehicles. -/
def shouldArmBeforeEnter : Robot → StateFlags → Bool
  | .drone,flags => flags.isTakeoff || flags.isWaypoint || flags.isFollow || flags.isPosvel ||
      flags.isHover || flags.isLand
  | .dog,flags => flags.isWaypoint && !flags.isLocal
  | .car,_ => false
  | .go2,flags => flags.isWaypoint || flags.isFollow || flags.isPosvel || flags.isHover

variable {R : Type*}

/-- A platform that arms like the vehicle. -/
def platform (k : Robot) (pf : Platform R) : Platform R :=
  { pf with shouldArmBeforeEnter := k.shouldArmBeforeEnter }

/-- Only the dog looks at the flag for local coordinates. -/
theorem shouldArm_local_iff (k : Robot) (isLocal : Bool) :
    k.shouldArmBeforeEnter { isWaypoint := true, isLocal := true }=
      k.shouldArmBeforeEnter { isWaypoint := true, isLocal := isLocal } ↔
    k≠.dog ∨ isLocal=true := by
  cases k with
  | dog => cases isLocal <;> simp [shouldArmBeforeEnter]
  | _ => exact ⟨fun _ => Or.inl (by nofun),fun _ => rfl⟩

end Robot

variable {R : Type*} [Field R]

/-- The accepted mission has the submitted heights in the local frame: its points and
its return point for the tracker, and the takeoff as submitted. -/
structure AltitudesAgree (pf : Platform R) (id : ℕ) (s : Engine R)
    (e accepted : SetWaypointEvent R) : Prop where
  points : accepted.waypoint.map Vec3.z=
    (e.waypoint.drop (if 2≤e.waypoint.length then 1 else 0)).map
      fun p => p.z+(s.ctx.posEnu.z-s.ctx.lonLatAlt.z)
  returnPoint : e.finishAction=.returnHome → ∃ home,accepted.returnEnu=some home ∧
    home.z=(accepted.waypoint.getLast?.map Vec3.z).getD s.ctx.posEnu.z
  takeoff : s.active.isGround=true → ∃ first m,e.waypoint.head?=some first ∧ m.event=accepted ∧
    step pf s (.setWaypoint id e)=(({ s with
      queue := [⟨.takeoff none first.z,false⟩,⟨.mission m,false⟩]
      fallback := some (missionFallback accepted) } : Engine R).advance pf).answer id (.ok "OK")

/-- Entering a planned state puts `ArmState` in front of it. -/
def PutsArmFirst (pf : Platform R) (p : Planned R) (t : Engine R) : Prop :=
  (t.request pf p).active=.arm ∧ (t.request pf p).queue=p::t.queue

/-- Whenever the accepted mission is entered disarmed, arming comes first exactly if the
vehicle wants it for the request as submitted. -/
def DecidedAsSubmitted (k : Robot) (pf : Platform R) (e : SetWaypointEvent R)
    (m : AcceptedMission R) : Prop :=
  ∀ (t : Engine R) (p : Planned R),t.ctx.arm=false → p.target=.mission m →
    (PutsArmFirst (k.platform pf) p t ↔
      k.shouldArmBeforeEnter { isWaypoint := true, isLocal := e.isLocal }=true)

section

variable {pf : Platform R} {s : Engine R} {e accepted : SetWaypointEvent R}

/-- A projected point is as far above the vehicle as the submitted height says. -/
theorem gpsToEnu_z {lonLatAlt pos target p : Vec3 R}
    (h : gpsToEnu pf lonLatAlt pos target=.ok p) : p.z=target.z+(pos.z-lonLatAlt.z) := by
  dsimp only [gpsToEnu] at h
  cases hoffset : pf.utmOffset lonLatAlt target with
  | error what =>
    rw [hoffset] at h
    cases h
  | ok offset =>
    rw [hoffset] at h
    cases h
    dsimp only
    ring

omit [Field R] in
/-- The first of several points is dropped. -/
theorem flownPoints_eq_drop (e : SetWaypointEvent R) :
    flownPoints e=e.waypoint.drop (if 2≤e.waypoint.length then 1 else 0) := by
  unfold flownPoints
  split
  · rw [List.drop_one]
  · rw [List.drop_zero]

/-- Both coordinate systems shift the heights by the same amount. -/
theorem convertPoints_z {ctx : RobotContext R} {points : List (Vec3 R)}
    (h : convertPoints pf ctx e=.ok points) :
    points.map Vec3.z=(flownPoints e).map fun p => p.z+(ctx.posEnu.z-ctx.lonLatAlt.z) := by
  rcases convertPoints_cases h with hshift|hproject
  · rw [hshift,List.map_map]
    rfl
  · exact map_of_mapM_ok (fun p q hq => gpsToEnu_z hq) hproject

omit [Field R] in
/-- No point is flown only if none was submitted. -/
theorem flownPoints_eq_nil_iff (e : SetWaypointEvent R) : flownPoints e=[] ↔ e.waypoint=[] := by
  rw [flownPoints_eq_drop,List.drop_eq_nil_iff,←List.length_eq_zero_iff]
  split
  · omega
  · omega

/-- A return goes to the height of the last point, or stays at the current height; without
a point none was submitted, which is refused on the ground. -/
theorem returnHeight_eq {ctx : RobotContext R} {isGround : Bool} {points : List (Vec3 R)}
    (h : convertPoints pf ctx e=.ok points) (hair : ¬(e.waypoint.isEmpty=true ∧ isGround=true)) :
    returnHeight ctx isGround e points=(points.getLast?.map Vec3.z).getD ctx.posEnu.z := by
  dsimp only [returnHeight]
  cases hlast : points.getLast? with
  | some last => rfl
  | none =>
    have hnil : e.waypoint=[] := by
      rw [←flownPoints_eq_nil_iff,←List.length_eq_zero_iff,←convertPoints_length h,
        List.getLast?_eq_none_iff.mp hlast,List.length_nil]
    have hnot : ¬isGround=true := fun hground => hair ⟨List.isEmpty_iff.mpr hnil,hground⟩
    dsimp only
    rw [if_neg hnot]
    rfl

/-- The accepted points are the converted ones, and the flag says so unless there is none. -/
theorem acceptWaypoint_points {ctx : RobotContext R} {isInit isGround : Bool}
    (h : acceptWaypoint pf ctx isInit isGround e=.ok accepted) :
    convertPoints pf ctx e=.ok accepted.waypoint ∧
      accepted.isLocal=(e.isLocal || !accepted.waypoint.isEmpty) := by
  obtain ⟨_,_,points,hpoints,⟨_,rfl⟩|⟨_,base,_,rfl⟩⟩ := acceptWaypoint_ok h
  · exact ⟨hpoints,rfl⟩
  · exact ⟨hpoints,rfl⟩

/-- An accepted request starts its plan and is answered with success. -/
theorem step_setWaypoint (pf : Platform R) (id : ℕ) {s : Engine R} {e accepted : SetWaypointEvent R}
    (h : acceptWaypoint pf s.ctx s.active.isInit s.active.isGround e=.ok accepted) :
    ∃ m : AcceptedMission R,m.event=accepted ∧
      step pf s (.setWaypoint id e)=(s.startMission pf e m).answer id (.ok "OK") := by
  refine ⟨⟨accepted,acceptWaypoint_returnEnu h⟩,rfl,?_⟩
  change s.onSetWaypoint pf id e=_
  unfold onSetWaypoint
  split
  · rename_i text hrejected
    rw [h] at hrejected
    cases hrejected
  · rename_i accepted' haccepted
    obtain rfl : accepted=accepted' := Except.ok.inj (h.symm.trans haccepted)
    rfl

/-- A plan that is not a landing on the spot is the planned one. -/
theorem startMission_plan {m : AcceptedMission R}
    (h : s.active.isGround=true ∨ e.waypoint≠[]) :
    s.startMission pf e m=({ s with
      queue := missionPlan s.active.isGround (takeoffAlt e) m
      fallback := some (missionFallback m.event) } : Engine R).advance pf := by
  have hnot : ¬(s.active.isGround=false ∧ e.waypoint.isEmpty=true ∧ e.finishAction=.land) := by
    rintro ⟨hair,hempty,_⟩
    rcases h with hground|hne
    · rw [hair] at hground
      cases hground
    · exact hne (List.isEmpty_iff.mp hempty)
  rw [startMission,if_neg hnot]

end

/-- The heights of an accepted mission share one reference, whichever coordinates it was
submitted in. -/
theorem altitudes_agree (pf : Platform R) (id : ℕ) (s : Engine R) (e accepted : SetWaypointEvent R)
    (h : acceptWaypoint pf s.ctx s.active.isInit s.active.isGround e=.ok accepted) :
    AltitudesAgree pf id s e accepted := by
  obtain ⟨_,hempty,points,hpoints,haccepted⟩ := acceptWaypoint_ok h
  constructor
  · rw [convertPoints_z (acceptWaypoint_points h).1,flownPoints_eq_drop]
  · intro hreturn
    rcases haccepted with ⟨hne,_⟩|⟨_,base,_,haccepted⟩
    · exact absurd hreturn hne
    · rw [haccepted]
      exact ⟨_,rfl,returnHeight_eq hpoints hempty⟩
  · intro hground
    obtain ⟨m,hm,hstep⟩ := step_setWaypoint pf id h
    cases hw : e.waypoint with
    | nil => exact absurd ⟨List.isEmpty_iff.mpr hw,hground⟩ hempty
    | cons first rest =>
      have hplan : missionPlan s.active.isGround (takeoffAlt e) m=
          [⟨.takeoff none first.z,false⟩,⟨.mission m,false⟩] := by
        rw [missionPlan,if_pos hground,takeoffAlt,hw]
        rfl
      refine ⟨first,m,rfl,hm,?_⟩
      rw [hstep,startMission_plan (Or.inl hground),hplan,hm]

/-- A mission of two points on the ground, 2 m above the origin of the local frame while
the relative altitude is 5 m. -/
def raisedGround : Sensors ℚ :=
  { hovering with checkHover := false, posEnu := ⟨0,0,2⟩, lonLatAlt := ⟨0,0,5⟩ }

/-- A local mission with a takeoff height of 4 m and a return. -/
def localReturn : SetWaypointEvent ℚ where
  waypoint := [⟨0,0,4⟩,⟨3,0,6⟩]
  isLocal := true
  finishAction := .returnHome

/-- The return is flown at 3 m in the local frame, and the takeoff goes to 4 m. -/
theorem localReturn_agrees :
    AltitudesAgree calmPlatform 1 { Engine.initial raisedGround with active := .ground } localReturn
      { localReturn with waypoint := [⟨3,0,3⟩], returnEnu := some ⟨0,0,3⟩ } := by
  refine altitudes_agree calmPlatform 1 _ _ _ ?_
  norm_num [acceptWaypoint,convertPoints,flownPoints,returnBase,returnHeight,localReturn,raisedGround,
    hovering,Engine.initial,Active.isInit,gpsToEnu,calmPlatform]
  rfl

section

variable {pf : Platform R} {s t : Engine R} {e accepted : SetWaypointEvent R}

/-- Entering a state disarmed puts arming in front exactly if the vehicle asks for it. -/
theorem putsArmFirst_iff (p : Planned R) (hdisarmed : t.ctx.arm=false) :
    PutsArmFirst pf p t ↔ pf.shouldArmBeforeEnter p.target.flags=true := by
  unfold PutsArmFirst
  constructor
  · rintro ⟨_,hqueue⟩
    by_contra hnot
    have henter : t.request pf p=t.enterTarget pf p := by
      rw [request,if_neg fun harm => hnot harm.2]
    rw [henter,enterTarget_queue] at hqueue
    have hlen : t.queue.length=(p::t.queue).length := congrArg List.length hqueue
    rw [List.length_cons] at hlen
    omega
  · intro harm
    rw [request,if_pos ⟨hdisarmed,harm⟩]
    exact ⟨rfl,rfl⟩

/-- A submitted mission with points is entered as a local one. -/
theorem acceptWaypoint_isLocal {ctx : RobotContext R} {isInit isGround : Bool}
    (h : acceptWaypoint pf ctx isInit isGround e=.ok accepted) (hne : e.waypoint≠[]) :
    accepted.isLocal=true := by
  obtain ⟨hpoints,hlocal⟩ := acceptWaypoint_points h
  have hsome : accepted.waypoint.isEmpty=false := by
    rw [List.isEmpty_eq_false_iff,←List.length_pos_iff,convertPoints_length hpoints,
      List.length_pos_iff]
    exact fun hnil => hne ((flownPoints_eq_nil_iff e).mp hnil)
  rw [hlocal,hsome,Bool.not_false,Bool.or_true]

/-- For an accepted mission of any vehicle, the question whether to arm first is the
question for a local mission. -/
theorem decidedAsSubmitted_iff (k : Robot) {m : AcceptedMission R}
    (hlocal : m.event.isLocal=true) :
    DecidedAsSubmitted k pf e m ↔ k≠.dog ∨ e.isLocal=true := by
  have hflags : ∀ p : Planned R,p.target=.mission m →
      p.target.flags={ isWaypoint := true, isLocal := true } := by
    intro p hp
    rw [hp,Target.flags,hlocal]
  rw [←k.shouldArm_local_iff e.isLocal]
  constructor
  · intro h
    have hasked := h { ctx := { posEnu := ⟨0,0,0⟩, lonLatAlt := ⟨0,0,0⟩ } } ⟨.mission m,false⟩ rfl rfl
    rw [putsArmFirst_iff _ rfl,hflags _ rfl] at hasked
    exact Bool.eq_iff_iff.mpr hasked
  · intro h t p hdisarmed hp
    rw [putsArmFirst_iff p hdisarmed,hflags p hp]
    exact Bool.eq_iff_iff.mp h

end

/-- Every accepted mission with points starts its plan, and arming first is decided on the
request as submitted exactly for the vehicles other than the dog and for local missions. -/
theorem armDecision_iff (k : Robot) (pf : Platform R) (id : ℕ) (s : Engine R)
    (e accepted : SetWaypointEvent R) (hne : e.waypoint≠[])
    (h : acceptWaypoint (k.platform pf) s.ctx s.active.isInit s.active.isGround e=.ok accepted) :
    ∃ m : AcceptedMission R,m.event=accepted ∧
      step (k.platform pf) s (.setWaypoint id e)=(({ s with
        queue := missionPlan s.active.isGround (takeoffAlt e) m
        fallback := some (missionFallback accepted) } : Engine R).advance
          (k.platform pf)).answer id (.ok "OK") ∧
      (DecidedAsSubmitted k pf e m ↔ k≠.dog ∨ e.isLocal=true) := by
  obtain ⟨m,hm,hstep⟩ := step_setWaypoint (k.platform pf) id h
  have hlocal : m.event.isLocal=true := by
    rw [hm]
    exact acceptWaypoint_isLocal h hne
  refine ⟨m,hm,?_,decidedAsSubmitted_iff k hlocal⟩
  rw [hstep,startMission_plan (Or.inr hne),hm]

/-- A dog that stands disarmed. -/
def standingDog : Engine ℚ :=
  { Engine.initial { hovering with arm := false } with active := .hover none }

/-- A geographic mission to where the dog stands. -/
def gpsMission : SetWaypointEvent ℚ where
  waypoint := [⟨0,0,1⟩]

/-- The request as the listener rewrites it. -/
def gpsMissionAccepted : SetWaypointEvent ℚ :=
  { gpsMission with waypoint := [⟨0,0,1⟩], isLocal := true }

/-- The listener accepts the mission. -/
theorem gpsMission_accepted :
    acceptWaypoint (Robot.dog.platform calmPlatform) standingDog.ctx standingDog.active.isInit
      standingDog.active.isGround gpsMission=.ok gpsMissionAccepted := by
  norm_num [acceptWaypoint,convertPoints,flownPoints,gpsMission,gpsMissionAccepted,standingDog,
    hovering,Engine.initial,Active.isInit,gpsToEnu,calmPlatform,Robot.platform]
  rfl

/-- The decision about the geographic mission is not the one for the request. -/
theorem gpsMission_undecided :
    ∃ m : AcceptedMission ℚ,m.event=gpsMissionAccepted ∧
      step (Robot.dog.platform calmPlatform) standingDog (.setWaypoint 1 gpsMission)=
        (({ standingDog with
          queue := missionPlan false 1 m
          fallback := some (missionFallback gpsMissionAccepted) } : Engine ℚ).advance
            (Robot.dog.platform calmPlatform)).answer 1 (.ok "OK") ∧
      (DecidedAsSubmitted .dog calmPlatform gpsMission m ↔
        Robot.dog≠.dog ∨ gpsMission.isLocal=true) :=
  armDecision_iff .dog calmPlatform 1 standingDog gpsMission gpsMissionAccepted (by nofun)
    gpsMission_accepted

/-- The dog wants to arm for the mission that was sent, and sets off unarmed. -/
theorem gpsMission_unarmed :
    standingDog.ctx.arm=false ∧ gpsMission.waypoint≠[] ∧ gpsMission.isLocal=false ∧
      Robot.dog.shouldArmBeforeEnter { isWaypoint := true, isLocal := gpsMission.isLocal }=true ∧
      (step (Robot.dog.platform calmPlatform) standingDog
        (.setWaypoint 1 gpsMission)).answers=[(1,.ok "OK")] ∧
      ∃ w,(step (Robot.dog.platform calmPlatform) standingDog
        (.setWaypoint 1 gpsMission)).active=.waypoint w .lifting := by
  refine ⟨rfl,by nofun,rfl,rfl,?_⟩
  obtain ⟨⟨_,_⟩,rfl,hstep⟩ :=
    step_setWaypoint (Robot.dog.platform calmPlatform) 1 gpsMission_accepted
  rw [hstep]
  exact ⟨rfl,_,rfl⟩

end Dankong.Flight

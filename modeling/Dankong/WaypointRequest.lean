import Mathlib.Algebra.Field.Defs
import Dankong.Mission

/-!
# Accepting a waypoint request

The listener of `SetWaypointEvent` up to the point where the plan is made: the
states it refuses, the takeoff height and the dropped first point, the height
reference and the conversion of the points, and the choice of a return point.
-/

namespace Dankong.Flight

/-- What the vehicle and its flight controller report. -/
structure Sensors (R : Type*) where
  /-- `arm`. -/
  arm : Bool := false
  /-- `check_hover`: the vehicle is in the air. -/
  checkHover : Bool := false
  /-- `is_landed`. -/
  isLanded : Bool := false
  /-- `odom_ok`. -/
  odomOk : Bool := false
  /-- What `takeoff` returns. -/
  takeoffOk : Bool := true
  /-- `pos_enu`. -/
  posEnu : Vec3 R
  /-- `lon_lat_alt`, with the relative altitude last. -/
  lonLatAlt : Vec3 R
  /-- `fcu_home_gps`. -/
  fcuHomeGps : Option (Vec3 R) := none

/-- The part of `RobotContext` that missions use: reports, and two memories. -/
structure RobotContext (R : Type*) extends Sensors R where
  /-- `takeoff_enu`: where the last takeoff of this program began. -/
  takeoffEnu : Option (Vec3 R) := none
  /-- `mission_home_enu`: where the first mission of the flight began. -/
  missionHomeEnu : Option (Vec3 R) := none

variable {R : Type*} [Field R]

/-- `gps_to_enu`. -/
def gpsToEnu (pf : Platform R) (lonLatAlt pos target : Vec3 R) : Except String (Vec3 R) :=
  (pf.utmOffset lonLatAlt target).map fun offset =>
    ⟨offset.1+pos.x,offset.2+pos.y,target.z-lonLatAlt.z+pos.z⟩

/-- Height of the first submitted point, which is the takeoff height. -/
def takeoffAlt (e : SetWaypointEvent R) : R := (e.waypoint.head?.map Vec3.z).getD 0

/-- The points to fly: the first of several points only gives the takeoff height. -/
def flownPoints (e : SetWaypointEvent R) : List (Vec3 R) :=
  if 2≤e.waypoint.length then e.waypoint.tail else e.waypoint

/-- The points to fly, in the local frame and its height reference. -/
def convertPoints (pf : Platform R) (ctx : RobotContext R) (e : SetWaypointEvent R) :
    Except String (List (Vec3 R)) :=
  if e.isLocal=true then
    .ok ((flownPoints e).map fun p => ⟨p.x,p.y,p.z+(ctx.posEnu.z-ctx.lonLatAlt.z)⟩)
  else
    ((flownPoints e).mapM (gpsToEnu pf ctx.lonLatAlt ctx.posEnu)).mapError
      fun what => "航点坐标转换失败: "++what

/-- Height of the return point. -/
def returnHeight (ctx : RobotContext R) (isGround : Bool) (e : SetWaypointEvent R)
    (points : List (Vec3 R)) : R :=
  match points.getLast? with
  | some last => last.z
  | none =>
    if isGround=true then takeoffAlt e+ctx.posEnu.z-ctx.lonLatAlt.z else ctx.posEnu.z

/-- The return point before its height is set: start of the mission, takeoff
point, home of the flight controller. -/
def returnBase (pf : Platform R) (ctx : RobotContext R) : Except String (Vec3 R) :=
  match ctx.missionHomeEnu,ctx.takeoffEnu,ctx.fcuHomeGps with
  | some m,_,_ => .ok m
  | none,some t,_ => .ok t
  | none,none,some g =>
    (gpsToEnu pf ctx.lonLatAlt ctx.posEnu g).mapError fun what => "返航点坐标转换失败: "++what
  | none,none,none => .error "无可用的返航点，请使用降落"

/-- The listener's checks and rewriting of a request: the accepted request, or
the text of its rejection. -/
def acceptWaypoint (pf : Platform R) (ctx : RobotContext R) (isInit isGround : Bool)
    (e : SetWaypointEvent R) : Except String (SetWaypointEvent R) :=
  if isInit=true then .error "初始状态下无法执行指令!"
  else if e.waypoint.isEmpty=true ∧ isGround=true then
    .error "航点个数为0，地面无法执行返航、降落或起飞悬停!"
  else do
    let points ← convertPoints pf ctx e
    let converted : SetWaypointEvent R :=
      { e with waypoint := points, isLocal := e.isLocal || !points.isEmpty }
    if e.finishAction=.returnHome then
      let base ← returnBase pf ctx
      return { converted with
        returnEnu := some { base with z := returnHeight ctx isGround e points } }
    else return converted

section

variable {pf : Platform R} {ctx : RobotContext R} {isInit isGround : Bool}
  {e accepted : SetWaypointEvent R}

omit [Field R] in
/-- What every conversion of a point gives holds of all converted points. -/
theorem map_of_mapM_ok {β : Type*} {f : Vec3 R → Except String (Vec3 R)} {g h : Vec3 R → β}
    (hf : ∀ p q,f p=.ok q → g q=h p) {ps qs : List (Vec3 R)} (hm : ps.mapM f=.ok qs) :
    qs.map g=ps.map h := by
  induction ps generalizing qs with
  | nil =>
    cases hm
    rfl
  | cons p rest ih =>
    rw [List.mapM_cons] at hm
    cases hp : f p with
    | error what =>
      rw [hp] at hm
      cases hm
    | ok q =>
      cases hrest : rest.mapM f with
      | error what =>
        rw [hp,hrest] at hm
        cases hm
      | ok qs' =>
        rw [hp,hrest] at hm
        cases hm
        rw [List.map_cons,List.map_cons,hf p q hp,ih hrest]

omit [Field R] in
/-- A conversion that succeeds keeps the number of points. -/
theorem length_of_mapM_ok {f : Vec3 R → Except String (Vec3 R)} {ps qs : List (Vec3 R)}
    (h : ps.mapM f=.ok qs) : qs.length=ps.length := by
  have hunits : qs.map (fun _ => ())=ps.map fun _ => () := map_of_mapM_ok (fun _ _ _ => rfl) h
  have hlen : (qs.map fun _ => ()).length=(ps.map fun _ => ()).length := congrArg List.length hunits
  rwa [List.length_map,List.length_map] at hlen

/-- A conversion that succeeds shifts local points, or projects geographic ones. -/
theorem convertPoints_cases {points : List (Vec3 R)} (h : convertPoints pf ctx e=.ok points) :
    points=(flownPoints e).map (fun p => ⟨p.x,p.y,p.z+(ctx.posEnu.z-ctx.lonLatAlt.z)⟩) ∨
      (flownPoints e).mapM (gpsToEnu pf ctx.lonLatAlt ctx.posEnu)=.ok points := by
  dsimp only [convertPoints] at h
  split at h
  · exact Or.inl (Except.ok.inj h).symm
  · cases hm : (flownPoints e).mapM (gpsToEnu pf ctx.lonLatAlt ctx.posEnu) with
    | error what =>
      rw [hm] at h
      cases h
    | ok qs =>
      rw [hm] at h
      exact Or.inr (congrArg Except.ok (Except.ok.inj h))

/-- Conversion keeps the number of points. -/
theorem convertPoints_length {points : List (Vec3 R)} (h : convertPoints pf ctx e=.ok points) :
    points.length=(flownPoints e).length := by
  rcases convertPoints_cases h with hshift|hproject
  · rw [hshift,List.length_map]
  · exact length_of_mapM_ok hproject

/-- What acceptance says: the request passed the state checks, the points are
converted, and a return got its return point; nothing else has changed. -/
theorem acceptWaypoint_ok (h : acceptWaypoint pf ctx isInit isGround e=.ok accepted) :
    isInit=false ∧ ¬(e.waypoint.isEmpty=true ∧ isGround=true) ∧
    ∃ points,convertPoints pf ctx e=.ok points ∧
      ((e.finishAction≠.returnHome ∧ accepted=
        { e with waypoint := points, isLocal := e.isLocal || !points.isEmpty }) ∨
      (e.finishAction=.returnHome ∧ ∃ base,returnBase pf ctx=.ok base ∧ accepted=
        { e with
          waypoint := points
          isLocal := e.isLocal || !points.isEmpty
          returnEnu := some { base with z := returnHeight ctx isGround e points } })) := by
  dsimp only [acceptWaypoint] at h
  split at h
  · cases h
  · rename_i hinit
    split at h
    · cases h
    · rename_i hempty
      refine ⟨by simpa using hinit,hempty,?_⟩
      cases hpoints : convertPoints pf ctx e with
      | error what =>
        rw [hpoints] at h
        cases h
      | ok points =>
        rw [hpoints] at h
        refine ⟨points,rfl,?_⟩
        by_cases hreturn : e.finishAction=.returnHome
        · cases hbase : returnBase pf ctx with
          | error what =>
            simp only [hreturn,hbase] at h
            cases h
          | ok base =>
            simp only [hreturn,hbase] at h
            cases h
            exact Or.inr ⟨hreturn,base,rfl,by rw [hreturn]⟩
        · simp only [hreturn] at h
          cases h
          exact Or.inl ⟨hreturn,rfl⟩

/-- An accepted return carries its return point. -/
theorem acceptWaypoint_returnEnu (h : acceptWaypoint pf ctx isInit isGround e=.ok accepted) :
    accepted.finishAction=.returnHome → accepted.returnEnu.isSome=true := by
  obtain ⟨_,_,points,_,⟨hne,rfl⟩|⟨_,base,_,rfl⟩⟩ := acceptWaypoint_ok h
  · exact fun hret => absurd hret hne
  · exact fun _ => rfl

/-- Acceptance keeps the node event list. -/
theorem acceptWaypoint_nodeEventList
    (h : acceptWaypoint pf ctx isInit isGround e=.ok accepted) :
    accepted.nodeEventList=e.nodeEventList := by
  obtain ⟨_,_,points,_,⟨_,rfl⟩|⟨_,base,_,rfl⟩⟩ := acceptWaypoint_ok h <;> rfl

/-- Number of legs of the accepted mission, from the request as submitted: the
first of several points is dropped, a return adds one. -/
theorem acceptWaypoint_legs (h : acceptWaypoint pf ctx isInit isGround e=.ok accepted) :
    accepted.legs=(flownPoints e).length+if e.finishAction=.returnHome then 1 else 0 := by
  obtain ⟨_,_,points,hpoints,⟨hne,rfl⟩|⟨hret,base,_,rfl⟩⟩ := acceptWaypoint_ok h
  · rw [if_neg hne,←convertPoints_length hpoints]
    unfold SetWaypointEvent.legs withReturn
    split
    · rename_i hret _
      exact absurd hret hne
    · rfl
  · rw [if_pos hret,←convertPoints_length hpoints]
    simp only [SetWaypointEvent.legs,withReturn,hret,List.length_append,List.length_singleton]

end

end Dankong.Flight

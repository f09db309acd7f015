import Dankong.NodeEvents
import Dankong.Vectors

/-!
# A waypoint mission

The data of `WaypointState` and the computations of its three states: the list
of points and dwell marks made on entry, the path segment sent from a point, the
node events run there, and what an arrival leads to. What depends on the vehicle
or on geometry outside this module is a parameter of the platform.
-/

namespace Dankong.Flight

/-- What a mission does after its last point. -/
inductive FinishAction
  /-- `HOVER`: stay in the air. -/
  | hover
  /-- `RETURN`: fly to the return point and land. -/
  | returnHome
  /-- `LAND`: land. -/
  | land
  deriving DecidableEq

/-- `SetWaypointEvent`. -/
structure SetWaypointEvent (R : Type*) where
  /-- Points of the mission, with geographic or local coordinates. -/
  waypoint : List (Vec3 R)
  /-- The return point, filled in when the request is accepted. -/
  returnEnu : Option (Vec3 R) := none
  /-- Events to run at the points. -/
  nodeEventList : Option (List Json) := none
  /-- Cruise speed. -/
  speed : Option R := none
  /-- Whether a landing is a precision landing. -/
  doPland : Bool := false
  /-- `finish_action`. -/
  finishAction : FinishAction := .hover
  /-- Whether the points are local coordinates. -/
  isLocal : Bool := false
  /-- Whether only marked points are dwelt at. -/
  skipLifting : Bool := true
  /-- Indices of the points to dwell at. -/
  dwellIndices : List ℤ := []

/-- `StateFlags`: what a vehicle is asked about when a state is entered disarmed. -/
structure StateFlags where
  /-- A takeoff. -/
  isTakeoff : Bool := false
  /-- A mission. -/
  isWaypoint : Bool := false
  /-- Following a detected target. -/
  isFollow : Bool := false
  /-- Moving to a single point. -/
  isPosvel : Bool := false
  /-- Hovering. -/
  isHover : Bool := false
  /-- Landing. -/
  isLand : Bool := false
  /-- The mission has local coordinates. -/
  isLocal : Bool := false

/-- The vehicle and the geometry that the flight states use. -/
structure Platform (R : Type*) where
  /-- `should_arm_before_enter` of the vehicle. -/
  shouldArmBeforeEnter : StateFlags → Bool
  /-- `is_alt_enable` of the vehicle. -/
  isAltEnable : Bool
  /-- `is_prearm_msg` of the vehicle. -/
  isPrearmMsg : String → Bool
  /-- East and north offset of a geographic point from the vehicle's, or the
  text of the exception thrown by the projection. -/
  utmOffset : Vec3 R → Vec3 R → Except String (R×R)
  /-- `yaw_ned_to_enu`; no result where its loops do not end. -/
  yawNedToEnu : R → Option R
  /-- Whether the angle at the middle one of three points exceeds the turn
  threshold, neither leg being negligible. -/
  sharpTurn : Vec3 R → Vec3 R → Vec3 R → Bool
  /-- `std::stof`; `none` stands for an exception. -/
  stof : String → Option R

/-- `WaypointState`: a mission in progress. -/
structure WaypointState (R : Type*) where
  /-- The accepted request. -/
  event : SetWaypointEvent R
  /-- `wp_list_`: points still to fly or flown, the return point included. -/
  wpList : List (Vec3 R)
  /-- `is_dwell_point_`, one mark for each point. -/
  isDwellPoint : List Bool
  /-- `wp_idx_`: index of the point being flown to. -/
  wpIdx : ℕ

/-- Outcome of `WaypointState::on_enter`. -/
inductive MissionEntry (R : Type*)
  /-- Fly the mission, beginning with its first point. -/
  | fly (w : WaypointState R)
  /-- Nothing to fly: land. -/
  | land
  /-- Nothing to fly: hover. -/
  | hover
  /-- An internal error is thrown. -/
  | throws

/-- What an arrival at a point leads to. -/
inductive Arrival
  /-- That was the last point. -/
  | finish
  /-- Adjust height and heading before the next leg. -/
  | lift
  /-- Fly on. -/
  | fly
  deriving DecidableEq

variable {R : Type*}

/-- First dwell marks: every point, or with `skip_lifting` the listed indices
that are in range. -/
def initialDwell (e : SetWaypointEvent R) : List Bool :=
  (List.range e.waypoint.length).map fun i : ℕ => !e.skipLifting || e.dwellIndices.contains (i : ℤ)

/-- Mark interior points with a sharp turn. -/
def markSharpTurns (pf : Platform R) (points : List (Vec3 R)) (marks : List Bool) : List Bool :=
  marks.mapIdx fun i mark => mark ||
    match points[i-1]?,points[i]?,points[i+1]? with
    | some before,some here,some next => decide (1 ≤ i) && pf.sharpTurn before here next
    | _,_,_ => false

/-- The last point is always a dwell point. -/
def markLast (marks : List Bool) : List Bool :=
  marks.mapIdx fun i mark => mark || decide (i+1=marks.length)

/-- The points of the mission with the return point, and their first marks. -/
def withReturn (e : SetWaypointEvent R) : List (Vec3 R)×List Bool :=
  match e.finishAction,e.returnEnu with
  | .returnHome,some home => (e.waypoint++[home],initialDwell e++[true])
  | _,_ => (e.waypoint,initialDwell e)

/-- `WaypointState::on_enter`, with the constructor that precedes it. -/
def missionEntry (pf : Platform R) (e : SetWaypointEvent R) : MissionEntry R :=
  if e.finishAction=.returnHome ∧ e.returnEnu.isNone=true then .throws
  else if (withReturn e).1.isEmpty then
    match e.finishAction with
    | .land => .land
    | .hover => .hover
    | .returnHome => .throws
  else .fly {
    event := e
    wpList := (withReturn e).1
    isDwellPoint := markLast (markSharpTurns pf (withReturn e).1 (withReturn e).2)
    wpIdx := 0 }

/-- Points up to and including the first marked one. -/
def takeToDwell : List (Vec3 R) → List Bool → List (Vec3 R)
  | [],_ => []
  | p::_,true::_ => [p]
  | p::points,false::marks => p::takeToDwell points marks
  | p::points,[] => p::takeToDwell points []

namespace WaypointState

/-- Whether `get_cur_wp` finds the current point. -/
def InRange (w : WaypointState R) : Prop := w.wpIdx<w.wpList.length

instance (w : WaypointState R) : Decidable w.InRange := inferInstanceAs (Decidable (_<_))

/-- The path that `ExcuteState::on_enter` sends. -/
def segment (w : WaypointState R) : List (Vec3 R) :=
  takeToDwell (w.wpList.drop w.wpIdx) (w.isDwellPoint.drop w.wpIdx)

/-- The node events that `ExcuteState::on_enter` runs: the commands dispatched,
and whether the lookup or an event throws. -/
def runNode (pf : Platform R) (w : WaypointState R) : List (NodeCommand R)×Bool :=
  match w.event.nodeEventList with
  | none => ([],false)
  | some entries =>
    match entries[w.wpIdx]? with
    | none => ([],true)
    | some entry => runEvents pf.stof entry.elements

/-- The mission after an arrival. -/
def advance (w : WaypointState R) : WaypointState R := { w with wpIdx := w.wpIdx+1 }

/-- `ExcuteState::on_arrive` after the index has been advanced from `w`. -/
def arrival (w : WaypointState R) : Arrival :=
  if w.wpList.length≤w.wpIdx+1 then .finish
  else if w.isDwellPoint[w.wpIdx]?=some true then .lift
  else .fly

@[simp] theorem advance_event (w : WaypointState R) : w.advance.event=w.event := rfl

@[simp] theorem advance_wpList (w : WaypointState R) : w.advance.wpList=w.wpList := rfl

@[simp] theorem advance_wpIdx (w : WaypointState R) : w.advance.wpIdx=w.wpIdx+1 := rfl

/-- The last waypoint in range is the one whose successor is not. -/
theorem last_of_not_inRange (w : WaypointState R) (hin : w.InRange) (hout : ¬w.advance.InRange) :
    w.wpIdx+1=w.wpList.length := by
  have hlt : w.wpIdx < w.wpList.length := hin
  have hge : ¬w.wpIdx+1 < w.wpList.length := hout
  omega

/-- An arrival finishes the mission exactly if no point is left. -/
theorem arrival_eq_finish_iff (w : WaypointState R) : w.arrival=.finish ↔ ¬w.advance.InRange := by
  unfold arrival InRange
  rw [advance_wpIdx,advance_wpList,not_lt]
  split
  · rename_i h
    exact ⟨fun _ => h,fun _ => rfl⟩
  · rename_i h
    refine ⟨fun harr => ?_,fun hle => absurd hle h⟩
    split at harr <;> cases harr

end WaypointState

/-- Number of points flown by an accepted request, the return point included. -/
def SetWaypointEvent.legs (e : SetWaypointEvent R) : ℕ := (withReturn e).1.length

/-- What a mission that is flown looks like at its beginning. -/
theorem missionEntry_fly {pf : Platform R} {e : SetWaypointEvent R} {w : WaypointState R}
    (h : missionEntry pf e=.fly w) :
    w.event=e ∧ w.wpList=(withReturn e).1 ∧ w.wpIdx=0 ∧ w.wpList≠[] := by
  dsimp only [missionEntry] at h
  split at h
  · cases h
  · split at h
    · split at h <;> cases h
    · rename_i hne
      cases h
      exact ⟨rfl,rfl,rfl,by simpa using hne⟩

/-- One mark for each point to begin with. -/
theorem length_withReturn (e : SetWaypointEvent R) :
    (withReturn e).2.length=(withReturn e).1.length := by
  have hinitial : (initialDwell e).length=e.waypoint.length := by
    rw [initialDwell,List.length_map,List.length_range]
  dsimp only [withReturn]
  split
  · rw [List.length_append,List.length_append,hinitial]
    rfl
  · exact hinitial

/-- The marks of a mission that is flown. -/
theorem missionEntry_isDwellPoint {pf : Platform R} {e : SetWaypointEvent R} {w : WaypointState R}
    (h : missionEntry pf e=.fly w) :
    w.isDwellPoint=markLast (markSharpTurns pf (withReturn e).1 (withReturn e).2) := by
  dsimp only [missionEntry] at h
  split at h
  · cases h
  · split at h
    · split at h <;> cases h
    · cases h
      rfl

/-- A mission that is flown begins in range. -/
theorem missionEntry_inRange {pf : Platform R} {e : SetWaypointEvent R} {w : WaypointState R}
    (h : missionEntry pf e=.fly w) : w.InRange := by
  obtain ⟨_,_,hidx,hne⟩ := missionEntry_fly h
  dsimp only [WaypointState.InRange]
  rw [hidx]
  exact List.length_pos_iff.mpr hne

/-- With a return point resolved for every return, entering a mission throws no
internal error. -/
theorem missionEntry_ne_throws {pf : Platform R} {e : SetWaypointEvent R}
    (h : e.finishAction=.returnHome → e.returnEnu.isSome=true) : missionEntry pf e≠.throws := by
  dsimp only [missionEntry]
  split
  · rename_i hbad
    rw [Option.isNone_iff_eq_none] at hbad
    rw [hbad.2] at h
    exact absurd (h hbad.1) (by simp)
  · split
    · rename_i hempty
      cases hf : e.finishAction with
      | land => simp
      | hover => simp
      | returnHome =>
        obtain ⟨home,hhome⟩ := Option.isSome_iff_exists.mp (h hf)
        simp [withReturn,hf,hhome] at hempty
    · simp

end Dankong.Flight

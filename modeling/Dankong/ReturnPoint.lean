import Dankong.EngineQueue

/-!
# The point a mission returns to

Two memories feed the return point: where the first mission of the flight began,
which entering the ground and a restart forget, and where the last takeoff of
this program began, which nothing forgets. The return point is the one of the
flight in progress unless that second memory is left over from an earlier one.
-/

namespace Dankong.Flight

open Engine Runs

variable {R : Type*}

/-- Start of the first mission with points since the ground was last entered or
a restart was last requested; outputs are read latest first. -/
def missionStart : List (Output R) → Option (Vec3 R)
  | [] => none
  | .groundEntered::_ => none
  | .restarted::_ => none
  | .missionEntered e pos::log =>
    (missionStart log).or (if e.waypoint.isEmpty=true then none else some pos)
  | _::log => missionStart log

/-- Point of the latest takeoff since the ground was last entered. -/
def flightTakeoff : List (Output R) → Option (Vec3 R)
  | [] => none
  | .groundEntered::_ => none
  | .takeoffStarted point::_ => some point
  | _::log => flightTakeoff log

/-- Point of the latest takeoff of all. -/
def latestTakeoff : List (Output R) → Option (Vec3 R)
  | [] => none
  | .takeoffStarted point::_ => some point
  | _::log => latestTakeoff log

/-- A takeoff of this flight is the latest takeoff. -/
theorem latestTakeoff_of_flightTakeoff {log : List (Output R)} {point : Vec3 R}
    (h : flightTakeoff log=some point) : latestTakeoff log=some point := by
  induction log with
  | nil => cases h
  | cons o log ih =>
    cases o with
    | groundEntered => cases h
    | takeoffStarted p => exact h
    | _ => exact ih h

/-- Outputs of a leg leave both points as they are. -/
theorem trace_excuteOutputs (pf : Platform R) (w : WaypointState R) (log : List (Output R)) :
    missionStart (excuteOutputs pf w++log)=missionStart log ∧
    latestTakeoff (excuteOutputs pf w++log)=latestTakeoff log := by
  constructor <;> refine excuteOutputs_ignored _ (fun o log ho => ?_) pf w log
  all_goals cases o <;> first | rfl | cases ho

/-- The memories hold what the outputs say. -/
structure Remembered (s : Engine R) : Prop where
  /-- The mission memory is the start of the first mission of the flight. -/
  home : s.ctx.missionHomeEnu=missionStart s.log
  /-- The takeoff memory is the latest takeoff of all. -/
  takeoff : s.ctx.takeoffEnu=latestTakeoff s.log

/-- The mission memory after a mission is entered. -/
theorem homeAfter_eq (e : SetWaypointEvent R) (pos : Vec3 R) (home : Option (Vec3 R)) :
    homeAfter e pos home=home.or (if e.waypoint.isEmpty=true then none else some pos) := by
  dsimp only [homeAfter]
  cases home with
  | some p => simp
  | none => cases e.waypoint.isEmpty <;> simp

/-- Every elementary change keeps the memories true. -/
theorem remembered_rule (pf : Platform R) :
    StepRule pf (fun _ => True) (fun _ _ => True) Remembered where
  again _ _ := trivial
  plan _ _ _ h := ⟨h.home,h.takeoff⟩
  answer _ _ _ h := ⟨h.home,h.takeoff⟩
  sense _ _ h := ⟨h.home,h.takeoff⟩
  quiet s o ho h := by
    cases o with
    | ran p => exact ⟨h.home,h.takeoff⟩
    | posVelThrew => exact ⟨h.home,h.takeoff⟩
    | posVelHung => exact ⟨h.home,h.takeoff⟩
    | _ => cases ho
  settle _ _ _ h := ⟨h.home,h.takeoff⟩
  ground _ h := ⟨rfl,h.takeoff⟩
  restart _ h := ⟨rfl,h.takeoff⟩
  takeoff _ _ _ _ h := ⟨h.home,rfl⟩
  skip s m a _ _ h := by
    refine ⟨?_,h.takeoff⟩
    dsimp only [missionStart]
    rw [homeAfter_eq,h.home]
  fly s m w _ _ h := by
    refine ⟨?_,h.takeoff⟩
    dsimp only [missionStart]
    rw [homeAfter_eq,h.home]
  interrupt _ _ _ _ _ _ h := ⟨h.home,h.takeoff⟩
  resume _ _ _ _ _ h := ⟨h.home,h.takeoff⟩
  excute s w _ _ h := by
    obtain ⟨hhome,htakeoff⟩ := trace_excuteOutputs pf w s.log
    exact ⟨h.home.trans hhome.symm,h.takeoff.trans htakeoff.symm⟩
  lift _ _ _ _ h := ⟨h.home,h.takeoff⟩
  next s w _ _ h := by
    obtain ⟨hhome,htakeoff⟩ := trace_excuteOutputs pf w.advance
      (.progress (w.wpIdx+1) w.wpList.length::s.log)
    exact ⟨h.home.trans hhome.symm,h.takeoff.trans htakeoff.symm⟩
  finish _ _ _ _ _ h := ⟨h.home,h.takeoff⟩

/-- The horizontal part of a point. -/
def horizontal (p : Vec3 R) : R×R := (p.x,p.y)

variable [Field R]

/-- What the return point should be: start of the first mission of the flight,
else takeoff point of the flight, else home of the flight controller. -/
def returnOfFlight (pf : Platform R) (s : Engine R) : Except String (Vec3 R) :=
  match missionStart s.log,flightTakeoff s.log,s.ctx.fcuHomeGps with
  | some m,_,_ => .ok m
  | none,some t,_ => .ok t
  | none,none,some g => gpsToEnu pf s.ctx.lonLatAlt s.ctx.posEnu g
  | none,none,none => .error "无可用的返航点，请使用降落"

/-- A mission of the flight has begun, or the recorded takeoff belongs to the
flight, or no takeoff was ever recorded. -/
def MemoryCurrent (s : Engine R) : Prop :=
  s.ctx.missionHomeEnu.isSome=true ∨ (flightTakeoff s.log).isSome=true ∨ s.ctx.takeoffEnu=none

/-- A resolved base point is the one of the flight while the memories are current. -/
theorem returnBase_eq {pf : Platform R} {s : Engine R} (h : Remembered s)
    (hcurrent : MemoryCurrent s) {base : Vec3 R} (hbase : returnBase pf s.ctx=.ok base) :
    returnOfFlight pf s=.ok base := by
  dsimp only [returnBase] at hbase
  dsimp only [returnOfFlight]
  dsimp only [MemoryCurrent] at hcurrent
  rw [h.home] at hbase hcurrent
  cases hm : missionStart s.log with
  | some m =>
    rw [hm] at hbase
    exact hbase
  | none =>
    rw [hm] at hbase hcurrent
    cases ht : flightTakeoff s.log with
    | some t =>
      rw [h.takeoff,latestTakeoff_of_flightTakeoff ht] at hbase
      exact hbase
    | none =>
      have hnone : s.ctx.takeoffEnu=none := by
        rcases hcurrent with hsome|hsome|hnone
        · cases hsome
        · rw [ht] at hsome
          cases hsome
        · exact hnone
      rw [hnone] at hbase
      cases hf : s.ctx.fcuHomeGps with
      | none =>
        rw [hf] at hbase
        cases hbase
      | some g =>
        rw [hf] at hbase
        dsimp only at hbase ⊢
        cases hg : gpsToEnu pf s.ctx.lonLatAlt s.ctx.posEnu g with
        | error what =>
          rw [hg] at hbase
          cases hbase
        | ok p =>
          rw [hg] at hbase
          exact hbase

/-- In every reachable state whose memories are current, an accepted return has
the return point of the flight in progress, horizontally. -/
theorem return_point_of_flight (pf : Platform R) (x : Sensors R) (labels : List (Label R))
    (e accepted : SetWaypointEvent R) (hret : e.finishAction=.returnHome)
    (hacc : acceptWaypoint pf (runFrom (step pf) (initial x) labels).ctx
      (runFrom (step pf) (initial x) labels).active.isInit
      (runFrom (step pf) (initial x) labels).active.isGround e=.ok accepted)
    (hcurrent : MemoryCurrent (runFrom (step pf) (initial x) labels)) :
    ∃ base point,returnOfFlight pf (runFrom (step pf) (initial x) labels)=.ok base ∧
      accepted.returnEnu=some point ∧ horizontal point=horizontal base := by
  have h : Remembered (runFrom (step pf) (initial x) labels) :=
    (remembered_rule pf).run_unguarded x ⟨rfl,rfl⟩ labels
  obtain ⟨_,_,points,_,⟨hne,_⟩|⟨_,base,hbase,rfl⟩⟩ := acceptWaypoint_ok hacc
  · exact absurd hret hne
  · exact ⟨base,_,returnBase_eq h hcurrent hbase,rfl,rfl⟩

/-- Reports of a vehicle on the ground fifty metres east of the origin. -/
def groundedEast : Sensors ℚ where
  isLanded := true
  odomOk := true
  posEnu := ⟨50,0,0⟩
  lonLatAlt := ⟨0,0,0⟩
  fcuHomeGps := some ⟨0,0,0⟩

/-- A flight of this program from the origin to a landing fifty metres east. -/
def firstFlight : List (Label ℚ) :=
  [.sense { hovering with checkHover := false },.tick {},.takeoffEvent 0 10,.sense hovering,
    .tick { atAltitude := true },.landEvent 1 false,.sense groundedEast,.tick {}]

/-- After the first flight, the vehicle is taken off by someone else. -/
def secondFlight : List (Label ℚ) :=
  firstFlight++[.sense { groundedEast with checkHover := true },.tick {}]

/-- A request to return at once. -/
def comeBack : SetWaypointEvent ℚ := { waypoint := [], finishAction := .returnHome }

/-- The request to return as accepted with a given return point. -/
def comeBackTo (point : Vec3 ℚ) : SetWaypointEvent ℚ := { comeBack with returnEnu := some point }

/-- Within the first flight, the return point is where it began. -/
theorem firstFlight_returns :
    ∃ base point,returnOfFlight calmPlatform
        (runFrom (step calmPlatform) (initial hovering) (firstFlight.take 5))=.ok base ∧
      (comeBackTo ⟨0,0,0⟩).returnEnu=some point ∧ horizontal point=horizontal base :=
  return_point_of_flight calmPlatform hovering (firstFlight.take 5) comeBack (comeBackTo ⟨0,0,0⟩)
    rfl rfl (Or.inr (Or.inl rfl))

/-- In the second flight, the return point is still the takeoff point of the
first one, so a return need not lead to a point of the flight in progress. -/
theorem secondFlight_returns_to_first :
    ¬∀ (pf : Platform ℚ) (x : Sensors ℚ) (labels : List (Label ℚ))
      (e accepted : SetWaypointEvent ℚ),e.finishAction=.returnHome →
      acceptWaypoint pf (runFrom (step pf) (initial x) labels).ctx
        (runFrom (step pf) (initial x) labels).active.isInit
        (runFrom (step pf) (initial x) labels).active.isGround e=.ok accepted →
      ∃ base point,returnOfFlight pf (runFrom (step pf) (initial x) labels)=.ok base ∧
        accepted.returnEnu=some point ∧ horizontal point=horizontal base := by
  intro h
  obtain ⟨base,point,hbase,hpoint,heq⟩ := h calmPlatform hovering secondFlight comeBack
    (comeBackTo ⟨0,0,0⟩) rfl rfl
  have hhome : returnOfFlight calmPlatform
      (runFrom (step calmPlatform) (initial hovering) secondFlight)=.ok ⟨0+50,0+0,0-0+0⟩ := rfl
  obtain rfl := Except.ok.inj (hhome.symm.trans hbase)
  obtain rfl : ⟨0,0,0⟩=point := Option.some.inj hpoint
  exact absurd (congrArg Prod.fst heq) (by decide +kernel)

end Dankong.Flight

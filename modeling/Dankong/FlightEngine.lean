import Mathlib.Algebra.Field.Rat
import Mathlib.Data.Rat.Cast.Defs
import Dankong.WaypointRequest

/-!
# Flight states, plan queue and listeners

The state machine of the vehicle: the active state with the data its instances
carry, the queue of planned states with its fallback, the listeners that change
both, and the ticks and events that the states handle. The queue follows the
description of the plan manager in the README: starting or advancing a plan runs
the state at the front, a state entered while disarmed may put `ArmState` in
front of itself, stepping to a state leaves the queue as it is, and stepping
without arguments to a child of `WaypointState` reuses the mission in progress.
Decisions taken on measurements are observations that come with a tick.
-/

namespace Dankong.Flight

/-- `SetPosVelEvent`. -/
structure SetPosVelEvent (R : Type*) where
  /-- Longitude and latitude, and an altitude that is ignored. -/
  pos : Json
  /-- Horizontal speed limit. -/
  vel : R
  /-- Heading at the target. -/
  yaw : Option R := none
  /-- Whether the heading is held during the whole movement. -/
  fixYaw : Option Bool := some true
  /-- Time after which the command lapses. -/
  timeout : Option R := none

/-- Children of `PosVelState`. -/
inductive PosVelChild
  /-- `MoveState`. -/
  | move
  /-- `LaterTurnState`. -/
  | laterTurn

/-- A state that interrupts hovering or a mission. -/
inductive Excursion (R : Type*)
  /-- `FollowState`. -/
  | follow
  /-- `PosVelState` with its event and active child. -/
  | posVel (event : SetPosVelEvent R) (child : PosVelChild)

/-- What happens inside `WaypointState`. -/
inductive WaypointChild (R : Type*)
  /-- `LiftingState`. -/
  | lifting
  /-- `ExcuteState`. -/
  | excute
  /-- An interruption of the mission. -/
  | excursion (x : Excursion R)

/-- The active state with the instances on the way to it. -/
inductive Active (R : Type*)
  /-- `InitState`. -/
  | init
  /-- `GroundState`. -/
  | ground
  /-- `ArmState`. -/
  | arm
  /-- `HoverState`, possibly interrupted. -/
  | hover (x : Option (Excursion R))
  /-- `TakeoffState` with its event, whether that is settled, and its height. -/
  | takeoff (event : Option ℕ) (settled : Bool) (alt : R)
  /-- `LandState`. -/
  | land (doPland : Bool)
  /-- `WaypointState` with its active child. -/
  | waypoint (w : WaypointState R) (child : WaypointChild R)

/-- The parent under which an interrupting state is built. -/
inductive Parent
  /-- `HoverState`. -/
  | hover
  /-- `WaypointState`. -/
  | waypoint

/-- A request as the listener accepted it; a return has its return point. -/
structure AcceptedMission (R : Type*) where
  /-- The rewritten request. -/
  event : SetWaypointEvent R
  /-- The return point has been resolved. -/
  resolved : event.finishAction=.returnHome → event.returnEnu.isSome=true

/-- A state with its constructor arguments, as planned or stepped to. -/
inductive Target (R : Type*)
  /-- `TakeoffState`, from a takeoff event or from a mission. -/
  | takeoff (event : Option ℕ) (alt : R)
  /-- `WaypointState::LiftingState` of a new mission. -/
  | mission (m : AcceptedMission R)
  /-- `PosVelState::MoveState`. -/
  | posVel (parent : Parent) (e : SetPosVelEvent R)
  /-- `FollowState`. -/
  | follow (parent : Parent)

/-- A planned state. The mark records that an arming gave up in front of it; no
step of the program reads the mark. -/
structure Planned (R : Type*) where
  /-- The state to enter. -/
  target : Target R
  /-- Whether the plan it belongs to was abandoned. -/
  abandoned : Bool := false

/-- The state entered once the queue is empty. -/
inductive Fallback
  /-- `HoverState`. -/
  | hover
  /-- `LandState`. -/
  | land (doPland : Bool)

/-- What the program records, reports or sends while flying. -/
inductive Output (R : Type*)
  /-- A planned state is entered. -/
  | ran (p : Planned R)
  /-- `GroundState` is entered. -/
  | groundEntered
  /-- A restart is requested. -/
  | restarted
  /-- A takeoff begins at a recorded point. -/
  | takeoffStarted (point : Vec3 R)
  /-- `WaypointState` is entered at a position. -/
  | missionEntered (e : SetWaypointEvent R) (pos : Vec3 R)
  /-- A path is sent to the tracker with a cruise speed. -/
  | path (points : List (Vec3 R)) (speed : Option R)
  /-- A node event of the entry with this index is dispatched. -/
  | node (index : ℕ) (command : NodeCommand R)
  /-- `TaskProgressEvent`. -/
  | progress (cur total : ℕ)
  /-- `TaskDoneEvent`. -/
  | taskDone
  /-- An access of the mission throws. -/
  | missionThrew
  /-- Resolving the target of a point command throws. -/
  | posVelThrew
  /-- The loops that normalise the heading of a point command do not end. The program does
  nothing after it; the model goes on, and covers more than the program does. -/
  | posVelHung

/-- The state of the engine with everything it has put out, latest first. -/
structure Engine (R : Type*) where
  /-- The active state. -/
  active : Active R := .init
  /-- Planned states. -/
  queue : List (Planned R) := []
  /-- Where an empty queue leads. -/
  fallback : Option Fallback := none
  /-- Reports of the vehicle and the memories of the missions. -/
  ctx : RobotContext R
  /-- Answers to requests, latest first. -/
  answers : List (ℕ×Except String String) := []
  /-- Everything else put out, latest first. -/
  log : List (Output R) := []

/-- What a tick observes; each state looks at its own part. -/
structure TickObs where
  /-- The time limit of the state has passed. -/
  timedOut : Bool := false
  /-- The stall checker finds no movement. -/
  stalled : Bool := false
  /-- The heading is within tolerance. -/
  yawAligned : Bool := false
  /-- The height is within tolerance. -/
  atAltitude : Bool := false
  /-- The target is within tolerance. -/
  reached : Bool := false

/-- Everything that can happen to the engine. -/
inductive Label (R : Type*)
  /-- New reports of the vehicle. -/
  | sense (x : Sensors R)
  /-- Tick of the control listener. -/
  | listenerTick
  /-- Tick of the active state. -/
  | tick (o : TickObs)
  /-- `TakeoffEvent`. -/
  | takeoffEvent (id : ℕ) (alt : R)
  /-- `SetWaypointEvent`. -/
  | setWaypoint (id : ℕ) (e : SetWaypointEvent R)
  /-- `SetPosVelEvent`. -/
  | setPosVel (id : ℕ) (e : SetPosVelEvent R)
  /-- `LandEvent`. -/
  | landEvent (id : ℕ) (doPland : Bool)
  /-- `RestartEvent`. -/
  | restart
  /-- `ArmEvent`. -/
  | armEvent (armed : Bool)
  /-- `StatusTextEvent`. -/
  | statusText (text : String)
  /-- `DetectEvent`, possibly within the cool-down after following. -/
  | detect (cooling : Bool)
  /-- `StopFollowEvent`. -/
  | stopFollow (id : ℕ)
  /-- `LoiterEvent`. -/
  | loiter (id : ℕ)

variable {R : Type*}

/-- `static_name` of the innermost active state. -/
def Active.stateName : Active R → String
  | .init => "初始状态"
  | .ground => "地面状态"
  | .arm => "解锁状态"
  | .takeoff .. => "起飞状态"
  | .land _ => "降落状态"
  | .hover none => "悬停状态"
  | .hover (some .follow) => "跟随模式"
  | .hover (some (.posVel _ .move)) => "指点移动"
  | .hover (some (.posVel _ .laterTurn)) => "指点转向"
  | .waypoint _ .lifting => "调整高度"
  | .waypoint _ .excute => "执行航点"
  | .waypoint _ (.excursion .follow) => "跟随模式"
  | .waypoint _ (.excursion (.posVel _ .move)) => "指点移动"
  | .waypoint _ (.excursion (.posVel _ .laterTurn)) => "指点转向"

/-- The interruption in progress. -/
def Active.excursion? : Active R → Option (Excursion R)
  | .hover x => x
  | .waypoint _ (.excursion x) => some x
  | _ => none

/-- The active state is `InitState`. -/
def Active.isInit : Active R → Bool
  | .init => true
  | _ => false

/-- The active state is `GroundState`. -/
def Active.isGround : Active R → Bool
  | .ground => true
  | _ => false

/-- The active state is inside `WaypointState`. -/
def Active.isWaypoint : Active R → Bool
  | .waypoint .. => true
  | _ => false

/-- A state outside `WaypointState` has no mission. -/
theorem Active.ne_waypoint {a : Active R} (ha : a.isWaypoint=false) (w : WaypointState R)
    (c : WaypointChild R) : a≠.waypoint w c := by
  rintro rfl
  cases ha

/-- The flags under which `before_enter` asks whether to arm first. -/
def Target.flags : Target R → StateFlags
  | .takeoff .. => { isTakeoff := true }
  | .mission m => { isWaypoint := true, isLocal := m.event.isLocal }
  | .posVel .. => { isPosvel := true }
  | .follow _ => { isFollow := true }

/-- A takeoff or a mission, as opposed to an interruption. -/
def Target.isPlan : Target R → Bool
  | .takeoff .. => true
  | .mission _ => true
  | _ => false

namespace Engine

/-- Add an output. -/
def emit (o : Output R) (s : Engine R) : Engine R := { s with log := o::s.log }

/-- Answer a request. -/
def answer (id : ℕ) (result : Except String String) (s : Engine R) : Engine R :=
  { s with answers := (id,result)::s.answers }

/-- Leave the active state: a takeoff whose event is unsettled rejects it. -/
def leave (s : Engine R) : Engine R :=
  match s.active with
  | .takeoff (some id) false _ => s.answer id (.error "被新的起飞指令取代")
  | _ => s

/-- Leave the active state and enter another one. -/
def goto (a : Active R) (s : Engine R) : Engine R := { s.leave with active := a }

section

variable (s : Engine R) (o : Output R) (id : ℕ) (result : Except String String) (a : Active R)

@[simp] theorem leave_active : s.leave.active=s.active := by unfold leave; split <;> rfl

@[simp] theorem leave_queue : s.leave.queue=s.queue := by unfold leave; split <;> rfl

@[simp] theorem leave_fallback : s.leave.fallback=s.fallback := by unfold leave; split <;> rfl

@[simp] theorem leave_ctx : s.leave.ctx=s.ctx := by unfold leave; split <;> rfl

@[simp] theorem leave_log : s.leave.log=s.log := by unfold leave; split <;> rfl

@[simp] theorem goto_active : (s.goto a).active=a := rfl

@[simp] theorem goto_queue : (s.goto a).queue=s.queue := leave_queue s

@[simp] theorem goto_fallback : (s.goto a).fallback=s.fallback := leave_fallback s

@[simp] theorem goto_ctx : (s.goto a).ctx=s.ctx := leave_ctx s

@[simp] theorem goto_log : (s.goto a).log=s.log := leave_log s

/-- Leaving a state depends neither on the memories nor on the outputs. -/
theorem goto_with (ctx : RobotContext R) (log : List (Output R)) :
    ({ s with ctx := ctx, log := log }).goto a={ s.goto a with ctx := ctx, log := log } := by
  unfold goto leave
  dsimp only
  split <;> rfl

end

/-- Enter `GroundState`, which forgets where the mission began. -/
def toGround (s : Engine R) : Engine R :=
  { s.goto .ground with
    ctx := { s.ctx with missionHomeEnu := none }
    log := .groundEntered::s.log }

/-- Step to `HoverState` in the air and to `GroundState` otherwise. -/
def groundOrHover (s : Engine R) : Engine R :=
  if s.ctx.checkHover=true then s.goto (.hover none) else s.toGround

/-- Answer a takeoff event, if the takeoff comes from one. -/
def answerTakeoff (event : Option ℕ) (result : Except String String) (s : Engine R) : Engine R :=
  match event with
  | some id => s.answer id result
  | none => s

section

variable (s : Engine R) (o : Output R) (id : ℕ) (event : Option ℕ)
  (result : Except String String)

@[simp] theorem emit_active : (s.emit o).active=s.active := rfl

@[simp] theorem emit_queue : (s.emit o).queue=s.queue := rfl

@[simp] theorem emit_fallback : (s.emit o).fallback=s.fallback := rfl

@[simp] theorem emit_ctx : (s.emit o).ctx=s.ctx := rfl

@[simp] theorem emit_log : (s.emit o).log=o::s.log := rfl

@[simp] theorem answer_active : (s.answer id result).active=s.active := rfl

@[simp] theorem answer_queue : (s.answer id result).queue=s.queue := rfl

@[simp] theorem answer_fallback : (s.answer id result).fallback=s.fallback := rfl

@[simp] theorem answer_ctx : (s.answer id result).ctx=s.ctx := rfl

@[simp] theorem answer_log : (s.answer id result).log=s.log := rfl

@[simp] theorem answerTakeoff_active : (s.answerTakeoff event result).active=s.active := by
  cases event <;> rfl

@[simp] theorem answerTakeoff_queue : (s.answerTakeoff event result).queue=s.queue := by
  cases event <;> rfl

@[simp] theorem answerTakeoff_fallback :
    (s.answerTakeoff event result).fallback=s.fallback := by cases event <;> rfl

@[simp] theorem answerTakeoff_ctx : (s.answerTakeoff event result).ctx=s.ctx := by
  cases event <;> rfl

@[simp] theorem answerTakeoff_log : (s.answerTakeoff event result).log=s.log := by
  cases event <;> rfl

end

/-- `TakeoffState::on_enter`. -/
def enterTakeoff (event : Option ℕ) (alt : R) (s : Engine R) : Engine R :=
  if s.ctx.takeoffOk=true then
    ({ s.goto (.takeoff event true alt) with
      ctx := { s.ctx with takeoffEnu := some { s.ctx.posEnu with z := alt } }
      log := .takeoffStarted { s.ctx.posEnu with z := alt }::s.log }).answerTakeoff event (.ok "OK")
  else
    ((s.goto (.takeoff event true alt)).answerTakeoff event
      (.error "takeoff cmd error")).groundOrHover

/-- Enter `LiftingState` of a mission; looking up the current point may throw. -/
def enterLifting (w : WaypointState R) (s : Engine R) : Engine R :=
  if w.InRange then s.goto (.waypoint w .lifting)
  else (s.goto (.waypoint w .lifting)).emit .missionThrew

/-- The outputs of entering `ExcuteState`, latest first: the path, then the node
events of the current entry, then possibly an exception. -/
def excuteOutputs (pf : Platform R) (w : WaypointState R) : List (Output R) :=
  (if (w.runNode pf).2=true then [.missionThrew] else [])++
    ((w.runNode pf).1.map (.node w.wpIdx)).reverse++[.path w.segment w.event.speed]

/-- Enter `ExcuteState` of a mission. -/
def enterExcute (pf : Platform R) (w : WaypointState R) (s : Engine R) : Engine R :=
  if w.InRange then
    { s.goto (.waypoint w .excute) with log := excuteOutputs pf w++s.log }
  else (s.goto (.waypoint w .excute)).emit .missionThrew

/-- `mission_home_enu` after a mission has been entered. -/
def homeAfter (e : SetWaypointEvent R) (pos : Vec3 R) (home : Option (Vec3 R)) :
    Option (Vec3 R) :=
  if e.waypoint.isEmpty=false ∧ home.isNone=true then some pos else home

/-- Enter `WaypointState` and, unless its entry leads elsewhere, `LiftingState`. -/
def enterMission (pf : Platform R) (m : AcceptedMission R) (s : Engine R) : Engine R :=
  let entered : Engine R := { s with
    ctx := { s.ctx with missionHomeEnu := homeAfter m.event s.ctx.posEnu s.ctx.missionHomeEnu }
    log := .missionEntered m.event s.ctx.posEnu::s.log }
  match missionEntry pf m.event with
  | .fly w => entered.enterLifting w
  | .land => entered.goto (.land m.event.doPland)
  | .hover => entered.goto (.hover none)
  | .throws => entered.emit .missionThrew

section

variable [Field R]

/-- `resolve_target`: two or three array elements, the first two numbers. -/
def resolveTarget (j : Json) (curAlt : R) : Except String (Vec3 R) :=
  match j with
  | .arr items =>
    if items.length=2 ∨ items.length=3 then
      match items.map number? with
      | some lon::some lat::_ => .ok ⟨lon,lat,curAlt⟩
      | _ => .error "type must be number"
    else .error "pos 必须是 [lon,lat] 或 [lon,lat,alt]"
  | _ => .error "pos 必须是 [lon,lat] 或 [lon,lat,alt]"
where
  /-- `get<double>`; the numbers of a request are finite. -/
  number? : Json → Option R
    | .int n => some n
    | .float (.finite x) => some (x : R)
    | _ => none

/-- Whether `base_move` finds its target, or an exception is thrown. -/
def baseMove (pf : Platform R) (ctx : RobotContext R) (e : SetPosVelEvent R) :
    Except String (Vec3 R) := do
  let target ← resolveTarget e.pos ctx.lonLatAlt.z
  gpsToEnu pf ctx.lonLatAlt ctx.posEnu target

/-- Put an interruption under the active parent state. -/
def interrupt (x : Excursion R) (s : Engine R) : Engine R :=
  match s.active with
  | .waypoint w _ => s.goto (.waypoint w (.excursion x))
  | _ => s.goto (.hover (some x))

/-- The constructor of `PosVelState` and `set_target`: the command is kept with its heading
turned from north to east, if the loops in that end. -/
def setTarget (pf : Platform R) (e : SetPosVelEvent R) : Option (SetPosVelEvent R) :=
  match e.yaw with
  | none => some e
  | some yaw => (pf.yawNedToEnu yaw).map fun yaw => { e with yaw := some yaw }

/-- Set the target of a point command and start moving there. -/
def moveTo (pf : Platform R) (e : SetPosVelEvent R) (s : Engine R) : Engine R :=
  match setTarget pf e with
  | none => (s.interrupt (.posVel e .move)).emit .posVelHung
  | some kept =>
    match baseMove pf s.ctx kept with
    | .ok _ => s.interrupt (.posVel kept .move)
    | .error _ => (s.interrupt (.posVel kept .move)).emit .posVelThrew

/-- Enter an interruption under a parent. Under `WaypointState` it needs a
mission in progress; otherwise the state path cannot be built and nothing is
entered. -/
def enterUnder (parent : Parent) (enter : Engine R → Engine R) (s : Engine R) : Engine R :=
  match parent,s.active with
  | .waypoint,.waypoint _ _ => enter s
  | .waypoint,_ => s.emit .posVelThrew
  | .hover,_ => enter (s.goto (.hover none))

/-- Enter a planned state past its `before_enter`. -/
def enterTarget (pf : Platform R) (p : Planned R) (s : Engine R) : Engine R :=
  match p.target with
  | .takeoff event alt => (s.emit (.ran p)).enterTakeoff event alt
  | .mission m => (s.emit (.ran p)).enterMission pf m
  | .posVel parent e => s.enterUnder parent (moveTo pf e)
  | .follow parent => s.enterUnder parent (interrupt .follow)

/-- Step to a state. If its `before_enter` asks for arming, `ArmState` runs
first and the state waits at the front of the queue. -/
def request (pf : Platform R) (p : Planned R) (s : Engine R) : Engine R :=
  if s.ctx.arm=false ∧ pf.shouldArmBeforeEnter p.target.flags=true then
    { s.goto .arm with queue := p::s.queue }
  else s.enterTarget pf p

/-- `start` of the plan, or `StateAction::next`. -/
def advance (pf : Platform R) (s : Engine R) : Engine R :=
  match s.queue with
  | p::rest => ({ s with queue := rest }).request pf p
  | [] =>
    match s.fallback with
    | some .hover => s.goto (.hover none)
    | some (.land doPland) => s.goto (.land doPland)
    | none => s

/-- Mark a planned takeoff or mission as abandoned. -/
def abandon (p : Planned R) : Planned R :=
  { p with abandoned := p.abandoned || p.target.isPlan }

/-- `ArmState` gives up. The queue stays; only the marks change. -/
def giveUp (s : Engine R) : Engine R :=
  ({ s with queue := s.queue.map abandon }).groundOrHover

/-- The end of an interruption: back to the mission, or to hovering. -/
def resume (s : Engine R) : Engine R :=
  match s.active with
  | .waypoint w _ => s.enterLifting w
  | _ => s.goto (.hover none)

/-- `ExcuteState::on_arrive`. -/
def arrive (pf : Platform R) (w : WaypointState R) (s : Engine R) : Engine R :=
  let counted : Engine R := { s with
    active := .waypoint w.advance .excute
    log := .progress (w.wpIdx+1) w.wpList.length::s.log }
  match w.arrival with
  | .finish => (counted.emit .taskDone).advance pf
  | .lift => counted.enterLifting w.advance
  | .fly => counted.enterExcute pf w.advance

/-- `on_tick` of `PosVelState` and its children. -/
def posVelTick (pf : Platform R) (e : SetPosVelEvent R) (child : PosVelChild) (o : TickObs)
    (s : Engine R) : Engine R :=
  match child with
  | .move =>
    match baseMove pf s.ctx e with
    | .error _ => s.emit .posVelThrew
    | .ok _ =>
      if o.reached=true then
        if e.fixYaw.getD true=false ∧ e.yaw.isSome=true then s.interrupt (.posVel e .laterTurn)
        else s.resume
      else if o.timedOut=true then s.resume
      else s
  | .laterTurn =>
    if e.yaw.isNone=true ∨ o.yawAligned=true ∨ o.timedOut=true then s.resume else s

/-- `on_tick` of an interruption; following only waits. -/
def excursionTick (pf : Platform R) (x : Excursion R) (o : TickObs) (s : Engine R) : Engine R :=
  match x with
  | .follow => s
  | .posVel e child => s.posVelTick pf e child o

/-- `TakeoffState::on_tick`. -/
def takeoffTick (pf : Platform R) (event : Option ℕ) (settled : Bool) (alt : R) (o : TickObs)
    (s : Engine R) : Engine R :=
  if event.isSome=true ∧ settled=false ∧ o.timedOut=true then
    (({ s with active := .takeoff event true alt }).answerTakeoff event
      (.error "Takeoff Timeout!")).groundOrHover
  else if o.stalled=true ∧ s.ctx.checkHover=false then s.toGround
  else if (if pf.isAltEnable=true then o.atAltitude else s.ctx.checkHover)=true ∨
      o.stalled=true then
    s.advance pf
  else s

/-- `on_tick` of the active state. -/
def tick (pf : Platform R) (o : TickObs) (s : Engine R) : Engine R :=
  match s.active with
  | .init => if s.ctx.odomOk=true then s.groundOrHover else s
  | .ground => if s.ctx.checkHover=true then s.goto (.hover none) else s
  | .arm => if o.timedOut=true then s.giveUp else s
  | .hover none => s
  | .hover (some x) => s.excursionTick pf x o
  | .takeoff event settled alt => s.takeoffTick pf event settled alt o
  | .land _ => if s.ctx.isLanded=true ∨ s.ctx.checkHover=false then s.toGround else s
  | .waypoint w .lifting =>
    if (o.yawAligned=true ∧ (pf.isAltEnable=false ∨ o.atAltitude=true)) ∨ o.stalled=true then
      s.enterExcute pf w
    else s
  | .waypoint w .excute =>
    if s.ctx.odomOk=true ∧ o.reached=true then s.arrive pf w else s
  | .waypoint _ (.excursion x) => s.excursionTick pf x o

/-- `on_tick` of the control listener. -/
def listenerTick (s : Engine R) : Engine R :=
  match s.active with
  | .hover _ => if s.ctx.checkHover=true then s else s.toGround
  | .waypoint _ _ => if s.ctx.checkHover=true then s else s.toGround
  | _ => s

/-- `on_event` of the control listener for a takeoff. -/
def onTakeoff (pf : Platform R) (id : ℕ) (alt : R) (s : Engine R) : Engine R :=
  if s.active.isInit=true then s.answer id (.error "初始状态无法起飞!")
  else ({ s with queue := [⟨.takeoff (some id) alt,false⟩], fallback := some .hover }).advance pf

/-- The fallback of an accepted mission. -/
def missionFallback (e : SetWaypointEvent R) : Fallback :=
  if e.finishAction=.hover then .hover else .land e.doPland

/-- The plan of an accepted mission. -/
def missionPlan (isGround : Bool) (alt : R) (m : AcceptedMission R) : List (Planned R) :=
  if isGround=true then [⟨.takeoff none alt,false⟩,⟨.mission m,false⟩] else [⟨.mission m,false⟩]

/-- The part of the waypoint listener that follows acceptance. -/
def startMission (pf : Platform R) (e : SetWaypointEvent R) (m : AcceptedMission R)
    (s : Engine R) : Engine R :=
  if s.active.isGround=false ∧ e.waypoint.isEmpty=true ∧ e.finishAction=.land then
    s.goto (.land m.event.doPland)
  else ({ s with
    queue := missionPlan s.active.isGround (takeoffAlt e) m
    fallback := some (missionFallback m.event) }).advance pf

/-- `on_event` of the control listener for a mission. -/
def onSetWaypoint (pf : Platform R) (id : ℕ) (e : SetWaypointEvent R) (s : Engine R) : Engine R :=
  match h : acceptWaypoint pf s.ctx s.active.isInit s.active.isGround e with
  | .error text => s.answer id (.error text)
  | .ok accepted =>
    (s.startMission pf e ⟨accepted,acceptWaypoint_returnEnu h⟩).answer id (.ok "OK")

/-- How often loops have not ended. -/
def hangs (s : Engine R) : ℕ :=
  s.log.countP fun
    | .posVelHung => true
    | _ => false

/-- `event.resolve` behind `start` of the plan; it is not reached if the start does not end. -/
def resolveStarted (id : ℕ) (before s : Engine R) : Engine R :=
  if s.hangs=before.hangs then s.answer id (.ok "OK") else s

/-- `on_event` for a point command, of the control listener and of a running
`PosVelState`. -/
def onSetPosVel (pf : Platform R) (id : ℕ) (e : SetPosVelEvent R) (s : Engine R) : Engine R :=
  match s.active.excursion?,s.active with
  | some (.posVel _ _),_ => (s.answer id (.ok "OK")).moveTo pf e
  | _,.waypoint _ _ => resolveStarted id s (({ s with
      queue := s.queue++[(⟨.posVel .waypoint e,false⟩ : Planned R)] }).advance pf)
  | _,.hover _ => resolveStarted id s (({ s with
      queue := s.queue++[(⟨.posVel .hover e,false⟩ : Planned R)]
      fallback := some .hover }).advance pf)
  | _,a => s.answer id
      (.error ("set_posvel只允许在waypoint或者hover状态调用! 当前状态: "++a.stateName))

/-- `on_event` of the control listener for a landing. -/
def onLand (id : ℕ) (doPland : Bool) (s : Engine R) : Engine R :=
  if s.active.isInit=true ∨ s.active.isGround=true then s.answer id (.error "当前在地面，无法降落!")
  else (s.answer id (.ok "OK")).goto (.land doPland)

/-- `on_event` of the control listener for a restart. -/
def onRestart (s : Engine R) : Engine R :=
  { s.goto .init with
    ctx := { s.ctx with odomOk := false, missionHomeEnu := none }
    log := .restarted::s.log }

/-- `on_event` of the detection listener for a detected target. -/
def onDetect (pf : Platform R) (cooling : Bool) (s : Engine R) : Engine R :=
  if cooling=true then s
  else match s.active.excursion?,s.active with
    | some .follow,_ => s
    | _,.hover _ => s.request pf ⟨.follow .hover,false⟩
    | _,.waypoint _ _ => s.request pf ⟨.follow .waypoint,false⟩
    | _,_ => s

/-- `on_event` of the detection listener for the end of following. -/
def onStopFollow (id : ℕ) (s : Engine R) : Engine R :=
  match s.active.excursion? with
  | some .follow => (s.answer id (.ok "OK")).resume
  | _ => s.answer id (.error ("非跟随模式调用无效! 当前状态："++s.active.stateName))

/-- `on_event` of the control listener for a loitering request, which in the air is settled
twice. -/
def onLoiter (id : ℕ) (s : Engine R) : Engine R :=
  if s.ctx.checkHover=true then
    ((s.goto (.hover none)).answer id (.ok "OK")).answer id (.ok "在地面时无法调用悬停!")
  else s.answer id (.ok "在地面时无法调用悬停!")

/-- `on_event` of `ArmState` for the result of arming. -/
def onArm (pf : Platform R) (armed : Bool) (s : Engine R) : Engine R :=
  match s.active with
  | .arm => if armed=true then s.advance pf else s
  | _ => s

/-- `on_event` of `ArmState` for a status text. -/
def onStatusText (pf : Platform R) (text : String) (s : Engine R) : Engine R :=
  match s.active with
  | .arm => if pf.isPrearmMsg text=true then s.giveUp else s
  | _ => s

/-- Effect of one event or tick. -/
def step (pf : Platform R) (s : Engine R) : Label R → Engine R
  | .sense x => { s with ctx := { s.ctx with toSensors := x } }
  | .listenerTick => s.listenerTick
  | .tick o => s.tick pf o
  | .takeoffEvent id alt => s.onTakeoff pf id alt
  | .setWaypoint id e => s.onSetWaypoint pf id e
  | .setPosVel id e => s.onSetPosVel pf id e
  | .landEvent id doPland => s.onLand id doPland
  | .restart => s.onRestart
  | .armEvent armed => s.onArm pf armed
  | .statusText text => s.onStatusText pf text
  | .detect cooling => s.onDetect pf cooling
  | .stopFollow id => s.onStopFollow id
  | .loiter id => s.onLoiter id

/-- The engine after power-on. -/
def initial (x : Sensors R) : Engine R := { ctx := { toSensors := x } }

end

end Engine

/-- A vehicle that arms itself, over a plane whose geographic offsets vanish. -/
def calmPlatform : Platform ℚ where
  shouldArmBeforeEnter _ := false
  isAltEnable := true
  isPrearmMsg _ := false
  utmOffset _ _ := .ok (0,0)
  yawNedToEnu := some
  sharpTurn _ _ _ := false
  stof _ := none

/-- Reports of a vehicle hovering at the origin with a known home. -/
def hovering : Sensors ℚ where
  arm := true
  checkHover := true
  odomOk := true
  posEnu := ⟨0,0,0⟩
  lonLatAlt := ⟨0,0,0⟩
  fcuHomeGps := some ⟨0,0,0⟩

/-- A point command to where the vehicle is. -/
def stayHere : SetPosVelEvent ℚ where
  pos := .arr [.int 0,.int 0]
  vel := 2

end Dankong.Flight

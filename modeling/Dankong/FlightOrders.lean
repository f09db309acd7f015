import Dankong.EngineQueue

/-!
# What the flight states tell the tracker

The flight states command the vehicle through the tracker. A velocity lapses by itself;
a position is flown to until another order comes. `HoverState` and `LandState` tell the
tracker to hold when they are entered, `LiftingState` and `PosVelState` when they are
left. `ExcuteState` is left without an order, and `GroundState`, `ArmState`,
`TakeoffState` and `InitState` are entered without one, so that the path of a mission may
outlast the mission. The orders of the precision landing are its own.
-/

namespace Dankong.Flight

open Engine Runs

variable {R : Type*}

/-- What is sent to the tracker, without the velocities and the headings. -/
inductive Order (R : Type*)
  /-- No velocity. -/
  | hold
  /-- The velocity of `LiftingState` towards its height, or none. -/
  | climb
  /-- The heading of `LaterTurnState`. -/
  | turn
  /-- The velocity of a detection. -/
  | follow
  /-- The path of `ExcuteState` with its cruise speed. -/
  | path (points : List (Vec3 R)) (speed : Option R)
  /-- The target of `MoveState` with its speed limit. -/
  | point (target : Vec3 R) (speed : R)

/-- Positions, as opposed to velocities. -/
def Order.isPosition : Order R → Bool
  | .path .. => true
  | .point .. => true
  | _ => false

/-- The tracker flies to a position; the orders are given latest first. -/
def guided (orders : List (Order R)) : Bool := (orders.head?.map Order.isPosition).getD false

/-- What is sent on the way out of a state. -/
def Active.leaveOrders : Active R → List (Order R)
  | .waypoint _ .lifting => [.hold]
  | .waypoint _ (.excursion (.posVel ..)) => [.hold]
  | .hover (some (.posVel ..)) => [.hold]
  | _ => []

/-- What is sent on entry, whatever the state before. -/
def Active.enterOrders : Active R → List (Order R)
  | .hover none => [.hold]
  | .land _ => [.hold]
  | _ => []

namespace Engine

/-- Leave the active state and enter another one. -/
def gotoOrders (a : Active R) (s : Engine R) : List (Order R) :=
  a.enterOrders++s.active.leaveOrders

/-- Step to `HoverState` in the air and to `GroundState` otherwise. -/
def groundOrHoverOrders (s : Engine R) : List (Order R) :=
  if s.ctx.checkHover=true then s.gotoOrders (.hover none) else s.gotoOrders .ground

/-- `TakeoffState::on_enter`. -/
def enterTakeoffOrders (event : Option ℕ) (alt : R) (s : Engine R) : List (Order R) :=
  if s.ctx.takeoffOk=true then s.gotoOrders (.takeoff event true alt)
  else ((s.goto (.takeoff event true alt)).answerTakeoff event
      (.error "takeoff cmd error")).groundOrHoverOrders++s.gotoOrders (.takeoff event true alt)

/-- Enter `LiftingState` of a mission. -/
def enterLiftingOrders (w : WaypointState R) (s : Engine R) : List (Order R) :=
  s.gotoOrders (.waypoint w .lifting)

/-- Enter `ExcuteState` of a mission; looking up the current point may throw before the
path is sent. -/
def enterExcuteOrders (w : WaypointState R) (s : Engine R) : List (Order R) :=
  (if w.InRange then [.path w.segment w.event.speed] else [])++s.gotoOrders (.waypoint w .excute)

/-- Enter `WaypointState`. -/
def enterMissionOrders (pf : Platform R) (m : AcceptedMission R) (s : Engine R) :
    List (Order R) :=
  match missionEntry pf m.event with
  | .fly w => s.enterLiftingOrders w
  | .land => s.gotoOrders (.land m.event.doPland)
  | .hover => s.gotoOrders (.hover none)
  | .throws => []

/-- Put an interruption under the active parent state. A `PosVelState` that changes its
child is not left. -/
def interruptOrders (x : Excursion R) (s : Engine R) : List (Order R) :=
  match x,s.active.excursion? with
  | .posVel ..,some (.posVel ..) => []
  | .posVel ..,_ => s.active.leaveOrders
  | .follow,_ => .follow::s.active.leaveOrders

section

variable [Field R]

/-- Set the target of a point command and start moving there. -/
def moveToOrders (pf : Platform R) (e : SetPosVelEvent R) (s : Engine R) : List (Order R) :=
  match setTarget pf e with
  | none => s.interruptOrders (.posVel e .move)
  | some kept =>
    match baseMove pf s.ctx kept with
    | .ok target => .point target kept.vel::s.interruptOrders (.posVel kept .move)
    | .error _ => s.interruptOrders (.posVel kept .move)

/-- Enter an interruption under a parent. -/
def enterUnderOrders (parent : Parent) (enter : Engine R → List (Order R)) (s : Engine R) :
    List (Order R) :=
  match parent,s.active with
  | .waypoint,.waypoint _ _ => enter s
  | .waypoint,_ => []
  | .hover,_ => enter (s.goto (.hover none))++s.gotoOrders (.hover none)

/-- Enter a planned state past its `before_enter`. -/
def enterTargetOrders (pf : Platform R) (p : Planned R) (s : Engine R) : List (Order R) :=
  match p.target with
  | .takeoff event alt => (s.emit (.ran p)).enterTakeoffOrders event alt
  | .mission m => (s.emit (.ran p)).enterMissionOrders pf m
  | .posVel parent e => s.enterUnderOrders parent (moveToOrders pf e)
  | .follow parent => s.enterUnderOrders parent (interruptOrders .follow)

/-- Step to a state, by way of `ArmState` if its `before_enter` asks for arming. -/
def requestOrders (pf : Platform R) (p : Planned R) (s : Engine R) : List (Order R) :=
  if s.ctx.arm=false ∧ pf.shouldArmBeforeEnter p.target.flags=true then s.gotoOrders .arm
  else s.enterTargetOrders pf p

/-- `start` of the plan, or `StateAction::next`. -/
def advanceOrders (pf : Platform R) (s : Engine R) : List (Order R) :=
  match s.queue with
  | p::rest => ({ s with queue := rest }).requestOrders pf p
  | [] =>
    match s.fallback with
    | some .hover => s.gotoOrders (.hover none)
    | some (.land doPland) => s.gotoOrders (.land doPland)
    | none => []

/-- `ArmState` gives up. -/
def giveUpOrders (s : Engine R) : List (Order R) :=
  ({ s with queue := s.queue.map abandon }).groundOrHoverOrders

/-- The end of an interruption. -/
def resumeOrders (s : Engine R) : List (Order R) :=
  match s.active with
  | .waypoint w _ => s.enterLiftingOrders w
  | _ => s.gotoOrders (.hover none)

/-- `ExcuteState::on_arrive`. -/
def arriveOrders (pf : Platform R) (w : WaypointState R) (s : Engine R) : List (Order R) :=
  let counted : Engine R := { s with
    active := .waypoint w.advance .excute
    log := .progress (w.wpIdx+1) w.wpList.length::s.log }
  match w.arrival with
  | .finish => (counted.emit .taskDone).advanceOrders pf
  | .lift => counted.enterLiftingOrders w.advance
  | .fly => counted.enterExcuteOrders w.advance

/-- `on_tick` of `PosVelState` and its children. -/
def posVelTickOrders (pf : Platform R) (e : SetPosVelEvent R) (child : PosVelChild) (o : TickObs)
    (s : Engine R) : List (Order R) :=
  match child with
  | .move =>
    match baseMove pf s.ctx e with
    | .error _ => []
    | .ok _ =>
      if o.reached=true then
        if e.fixYaw.getD true=false ∧ e.yaw.isSome=true then
          s.interruptOrders (.posVel e .laterTurn)
        else s.resumeOrders
      else if o.timedOut=true then s.resumeOrders
      else []
  | .laterTurn =>
    if e.yaw.isNone=true ∨ o.yawAligned=true then s.resumeOrders
    else (if o.timedOut=true then s.resumeOrders else [])++[.turn]

/-- `on_tick` of an interruption. -/
def excursionTickOrders (pf : Platform R) (x : Excursion R) (o : TickObs) (s : Engine R) :
    List (Order R) :=
  match x with
  | .follow => []
  | .posVel e child => s.posVelTickOrders pf e child o

/-- `TakeoffState::on_tick`. -/
def takeoffTickOrders (pf : Platform R) (event : Option ℕ) (settled : Bool) (alt : R)
    (o : TickObs) (s : Engine R) : List (Order R) :=
  if event.isSome=true ∧ settled=false ∧ o.timedOut=true then
    (({ s with active := .takeoff event true alt }).answerTakeoff event
      (.error "Takeoff Timeout!")).groundOrHoverOrders
  else if o.stalled=true ∧ s.ctx.checkHover=false then s.gotoOrders .ground
  else if (if pf.isAltEnable=true then o.atAltitude else s.ctx.checkHover)=true ∨
      o.stalled=true then
    s.advanceOrders pf
  else []

/-- `on_tick` of the active state. `LiftingState` stops the vehicle once it is aligned. -/
def tickOrders (pf : Platform R) (o : TickObs) (s : Engine R) : List (Order R) :=
  match s.active with
  | .init => if s.ctx.odomOk=true then s.groundOrHoverOrders else []
  | .ground => if s.ctx.checkHover=true then s.gotoOrders (.hover none) else []
  | .arm => if o.timedOut=true then s.giveUpOrders else []
  | .hover none => []
  | .hover (some x) => s.excursionTickOrders pf x o
  | .takeoff event settled alt => s.takeoffTickOrders pf event settled alt o
  | .land _ => if s.ctx.isLanded=true ∨ s.ctx.checkHover=false then s.gotoOrders .ground else []
  | .waypoint w .lifting =>
    if o.yawAligned=true ∧ (pf.isAltEnable=false ∨ o.atAltitude=true) then
      s.enterExcuteOrders w++[.hold]
    else if o.stalled=true then s.enterExcuteOrders w
    else [.climb]
  | .waypoint w .excute =>
    if s.ctx.odomOk=true ∧ o.reached=true then s.arriveOrders pf w else []
  | .waypoint _ (.excursion x) => s.excursionTickOrders pf x o

/-- `on_tick` of the control listener. -/
def listenerTickOrders (s : Engine R) : List (Order R) :=
  match s.active with
  | .hover _ => if s.ctx.checkHover=true then [] else s.gotoOrders .ground
  | .waypoint _ _ => if s.ctx.checkHover=true then [] else s.gotoOrders .ground
  | _ => []

/-- A takeoff request. -/
def onTakeoffOrders (pf : Platform R) (id : ℕ) (alt : R) (s : Engine R) : List (Order R) :=
  if s.active.isInit=true then []
  else ({ s with
    queue := [⟨.takeoff (some id) alt,false⟩], fallback := some .hover }).advanceOrders pf

/-- The part of a mission request that follows acceptance. -/
def startMissionOrders (pf : Platform R) (e : SetWaypointEvent R) (m : AcceptedMission R)
    (s : Engine R) : List (Order R) :=
  if s.active.isGround=false ∧ e.waypoint.isEmpty=true ∧ e.finishAction=.land then
    s.gotoOrders (.land m.event.doPland)
  else ({ s with
    queue := missionPlan s.active.isGround (takeoffAlt e) m
    fallback := some (missionFallback m.event) }).advanceOrders pf

/-- A mission that was accepted. -/
def acceptedMission {pf : Platform R} {ctx : RobotContext R} {isInit isGround : Bool}
    {e accepted : SetWaypointEvent R}
    (h : acceptWaypoint pf ctx isInit isGround e=.ok accepted) : AcceptedMission R :=
  ⟨accepted,acceptWaypoint_returnEnu h⟩

/-- A mission request. -/
def onSetWaypointOrders (pf : Platform R) (e : SetWaypointEvent R) (s : Engine R) :
    List (Order R) :=
  match h : acceptWaypoint pf s.ctx s.active.isInit s.active.isGround e with
  | .ok _ => s.startMissionOrders pf e (acceptedMission h)
  | .error _ => []

/-- A point command. -/
def onSetPosVelOrders (pf : Platform R) (e : SetPosVelEvent R) (s : Engine R) : List (Order R) :=
  match s.active.excursion?,s.active with
  | some (.posVel _ _),_ => s.moveToOrders pf e
  | _,.waypoint _ _ => ({ s with
      queue := s.queue++[(⟨.posVel .waypoint e,false⟩ : Planned R)] }).advanceOrders pf
  | _,.hover _ => ({ s with
      queue := s.queue++[(⟨.posVel .hover e,false⟩ : Planned R)]
      fallback := some .hover }).advanceOrders pf
  | _,_ => []

/-- A landing request. -/
def onLandOrders (doPland : Bool) (s : Engine R) : List (Order R) :=
  if s.active.isInit=true ∨ s.active.isGround=true then [] else s.gotoOrders (.land doPland)

/-- A detection, which `FollowState` follows while it is active. -/
def onDetectOrders (pf : Platform R) (cooling : Bool) (s : Engine R) : List (Order R) :=
  match s.active.excursion?,s.active with
  | some .follow,_ => [.follow]
  | _,.hover _ => if cooling=true then [] else s.requestOrders pf ⟨.follow .hover,false⟩
  | _,.waypoint _ _ => if cooling=true then [] else s.requestOrders pf ⟨.follow .waypoint,false⟩
  | _,_ => []

/-- The end of following. -/
def onStopFollowOrders (s : Engine R) : List (Order R) :=
  match s.active.excursion? with
  | some .follow => s.resumeOrders
  | _ => []

/-- A loitering request. -/
def onLoiterOrders (s : Engine R) : List (Order R) :=
  if s.ctx.checkHover=true then s.gotoOrders (.hover none) else []

/-- The result of arming. -/
def onArmOrders (pf : Platform R) (armed : Bool) (s : Engine R) : List (Order R) :=
  match s.active with
  | .arm => if armed=true then s.advanceOrders pf else []
  | _ => []

/-- A status text. -/
def onStatusTextOrders (pf : Platform R) (text : String) (s : Engine R) : List (Order R) :=
  match s.active with
  | .arm => if pf.isPrearmMsg text=true then s.giveUpOrders else []
  | _ => []

/-- What is sent to the tracker during one event or tick. -/
def stepOrders (pf : Platform R) (s : Engine R) : Label R → List (Order R)
  | .sense _ => []
  | .listenerTick => s.listenerTickOrders
  | .tick o => s.tickOrders pf o
  | .takeoffEvent id alt => s.onTakeoffOrders pf id alt
  | .setWaypoint _ e => s.onSetWaypointOrders pf e
  | .setPosVel _ e => s.onSetPosVelOrders pf e
  | .landEvent _ doPland => s.onLandOrders doPland
  | .restart => s.gotoOrders .init
  | .armEvent armed => s.onArmOrders pf armed
  | .statusText text => s.onStatusTextOrders pf text
  | .detect cooling => s.onDetectOrders pf cooling
  | .stopFollow _ => s.onStopFollowOrders
  | .loiter _ => s.onLoiterOrders

end

end Engine

/-- The last order suits the active state: to hold while landing, and no position where
nothing is flown to. -/
def Fits : Active R → List (Order R) → Prop
  | .land _,orders => orders.head?=some .hold
  | .hover (some (.posVel ..)),_ => True
  | .waypoint _ .lifting,_ => True
  | .waypoint _ .excute,_ => True
  | .waypoint _ (.excursion (.posVel ..)),_ => True
  | _,orders => guided orders=false

/-- Once the active state is left, the tracker flies to no position. -/
def Released (s : Engine R) (orders : List (Order R)) : Prop :=
  guided (s.active.leaveOrders++orders)=false

/-- States that are entered without an order. -/
def Active.isQuiet : Active R → Bool
  | .init => true
  | .ground => true
  | .arm => true
  | .takeoff .. => true
  | _ => false

/-- A takeoff would be refused in the air. -/
def Refused (s : Engine R) : Prop := s.ctx.takeoffOk=false ∧ s.ctx.checkHover=true

/-- A planned state is entered at once, and it is no takeoff unless that is refused. -/
def EntersAt (pf : Platform R) (s : Engine R) (t : Target R) : Prop :=
  ¬(s.ctx.arm=false ∧ pf.shouldArmBeforeEnter t.flags=true) ∧
    ∀ event alt,t=.takeoff event alt → Refused s

/-- So is the state at the front of the plan, if there is one. -/
def NextEnters (pf : Platform R) (s : Engine R) : Prop :=
  ∀ p rest,s.queue=p::rest → EntersAt pf s p.target

/-- A step leaves no path behind when it happens in `ExcuteState`. -/
def Safe [Field R] (pf : Platform R) (s : Engine R) : Label R → Prop
  | .sense _ => True
  | .listenerTick => s.ctx.checkHover=true
  | .tick o => s.ctx.odomOk=true → o.reached=true →
      ∀ w,s.active=.waypoint w .excute → w.arrival=.finish → NextEnters pf s
  | .takeoffEvent id alt => EntersAt pf s (.takeoff (some id) alt)
  | .setWaypoint _ e => ∀ m : AcceptedMission R,
      acceptWaypoint pf s.ctx s.active.isInit s.active.isGround e=.ok m.event →
        e.waypoint.isEmpty=true ∧ e.finishAction=.land ∨ EntersAt pf s (.mission m)
  | .setPosVel _ e => NextEnters pf { s with
      queue := s.queue++[(⟨.posVel .waypoint e,false⟩ : Planned R)] }
  | .landEvent .. => True
  | .restart => False
  | .armEvent _ => True
  | .statusText _ => True
  | .detect cooling => cooling=false → EntersAt pf s (.follow .waypoint)
  | .stopFollow _ => True
  | .loiter _ => True

section

variable {s : Engine R} {orders : List (Order R)}

/-- An order to hold is no position. -/
theorem guided_of_head? (h : orders.head?=some .hold) : guided orders=false := by
  rw [guided,h]
  rfl

/-- Only `ExcuteState` leaves the tracker with a position. -/
theorem released_of_fits (h : Fits s.active orders) (hnot : ∀ w,s.active≠.waypoint w .excute) :
    Released s orders := by
  unfold Released
  cases ha : s.active with
  | init => rwa [ha] at h
  | ground => rwa [ha] at h
  | arm => rwa [ha] at h
  | takeoff event settled alt => rwa [ha] at h
  | land doPland =>
    rw [ha] at h
    exact guided_of_head? h
  | hover x =>
    rw [ha] at h
    cases x with
    | none => exact h
    | some x => cases x with
      | follow => exact h
      | posVel e child => rfl
  | waypoint w child => cases child with
    | lifting => rfl
    | excute => exact absurd ha (hnot w)
    | excursion x => cases x with
      | follow => rwa [ha] at h
      | posVel e child => rfl

/-- `ExcuteState` does so while the tracker flies to one. -/
theorem released_excute_iff {w : WaypointState R} (ha : s.active=.waypoint w .excute) :
    Released s orders ↔ guided orders=false := by
  rw [Released,ha]
  rfl

variable (s orders)

/-- A state that is entered without an order suits a vehicle that is released. -/
theorem fits_goto_quiet {a : Active R} (ha : a.isQuiet=true) :
    Fits a (s.gotoOrders a++orders) ↔ Released s orders := by
  cases a with
  | init => exact Iff.rfl
  | ground => exact Iff.rfl
  | arm => exact Iff.rfl
  | takeoff event settled alt => exact Iff.rfl
  | hover x => cases ha
  | land doPland => cases ha
  | waypoint w child => cases ha

theorem fits_goto_hover : Fits (.hover none) (s.gotoOrders (.hover none)++orders) := rfl

theorem fits_goto_land (doPland : Bool) :
    Fits (.land doPland) (s.gotoOrders (.land doPland)++orders) := rfl

theorem fits_groundOrHover :
    Fits s.groundOrHover.active (s.groundOrHoverOrders++orders) ↔
      Released s orders ∨ s.ctx.checkHover=true := by
  rw [groundOrHover,groundOrHoverOrders]
  split
  · rename_i hhover
    exact iff_of_true (fits_goto_hover s orders) (Or.inr hhover)
  · rename_i hhover
    exact (fits_goto_quiet s orders rfl).trans (or_iff_left hhover).symm

theorem fits_enterTakeoff (event : Option ℕ) (alt : R) :
    Fits (s.enterTakeoff event alt).active (s.enterTakeoffOrders event alt++orders) ↔
      Released s orders ∨ Refused s := by
  rw [enterTakeoff,enterTakeoffOrders]
  split
  · rename_i hok
    rw [answerTakeoff_active]
    refine (fits_goto_quiet s orders rfl).trans (or_iff_left fun h => ?_).symm
    exact absurd (hok.symm.trans h.1) (by decide)
  · rename_i hok
    have hleft : Released ((s.goto (.takeoff event true alt)).answerTakeoff event
        (.error "takeoff cmd error")) (s.gotoOrders (.takeoff event true alt)++orders) ↔
          Released s orders := by
      rw [Released,answerTakeoff_active]
      exact Iff.rfl
    rw [List.append_assoc,fits_groundOrHover,hleft,Refused,eq_false_of_ne_true hok,
      answerTakeoff_ctx,goto_ctx]
    exact or_congr_right (and_iff_right rfl).symm

variable {s orders}

theorem fits_enterMission (pf : Platform R) (m : AcceptedMission R) (h : Fits s.active orders) :
    Fits (s.enterMission pf m).active (s.enterMissionOrders pf m++orders) := by
  unfold enterMission enterMissionOrders
  dsimp only
  cases missionEntry pf m.event with
  | fly w =>
    dsimp only
    rw [enterLifting_active]
    trivial
  | land => exact fits_goto_land s orders _
  | hover => exact fits_goto_hover s orders
  | throws => exact h

/-- An interruption of any kind releases the vehicle or flies to its own target. -/
theorem fits_follow :
    Fits (s.interrupt .follow).active (s.interruptOrders .follow++orders) := by
  unfold interrupt interruptOrders
  cases s.active <;> rfl

theorem fits_posVel (e : SetPosVelEvent R) (child : PosVelChild) :
    Fits (s.interrupt (.posVel e child)).active orders := by
  unfold interrupt
  cases s.active <;> trivial

theorem fits_resume : Fits s.resume.active (s.resumeOrders++orders) := by
  unfold resume resumeOrders
  cases s.active with
  | waypoint w child =>
    dsimp only
    rw [enterLifting_active]
    trivial
  | _ => exact fits_goto_hover s orders

variable [Field R] (pf : Platform R)

theorem fits_moveTo (e : SetPosVelEvent R) : Fits (s.moveTo pf e).active orders := by
  obtain ⟨kept,hkept⟩ := moveTo_active s pf e
  rw [hkept]
  exact fits_posVel kept .move

omit [Field R] in
theorem fits_enterUnder {parent : Parent} {enter : Engine R → Engine R}
    {sent : Engine R → List (Order R)} (h : Fits s.active orders)
    (henter : ∀ t os,Fits (enter t).active (sent t++os)) :
    Fits (s.enterUnder parent enter).active (s.enterUnderOrders parent sent++orders) := by
  unfold enterUnder enterUnderOrders
  cases parent with
  | hover =>
    dsimp only
    rw [List.append_assoc]
    exact henter _ _
  | waypoint => cases s.active with
    | waypoint w child => exact henter s orders
    | _ => exact h

theorem fits_enterTarget (p : Planned R) (h : Fits s.active orders) :
    Fits (s.enterTarget pf p).active (s.enterTargetOrders pf p++orders) ↔
      Released s orders ∨ ∀ event alt,p.target=.takeoff event alt → Refused s := by
  unfold enterTarget enterTargetOrders
  cases hp : p.target with
  | takeoff event alt =>
    refine (fits_enterTakeoff (s.emit (.ran p)) orders event alt).trans (or_congr_right ?_)
    exact ⟨fun h _ _ _ => h,fun h => h event alt rfl⟩
  | mission m =>
    refine iff_of_true (fits_enterMission (s := s.emit (.ran p)) pf m h) (Or.inr ?_)
    intro event alt ht
    cases ht
  | posVel parent e =>
    refine iff_of_true (fits_enterUnder h fun t os => fits_moveTo pf e) (Or.inr ?_)
    intro event alt ht
    cases ht
  | follow parent =>
    refine iff_of_true (fits_enterUnder h fun t os => fits_follow) (Or.inr ?_)
    intro event alt ht
    cases ht

theorem fits_request (p : Planned R) (h : Fits s.active orders) :
    Fits (s.request pf p).active (s.requestOrders pf p++orders) ↔
      Released s orders ∨ EntersAt pf s p.target := by
  unfold request requestOrders EntersAt
  split
  · rename_i harm
    refine (fits_goto_quiet s orders rfl).trans (or_iff_left fun h => ?_).symm
    exact h.1 harm
  · rename_i harm
    rw [fits_enterTarget pf p h,and_iff_right harm]

theorem fits_advance_cons {p : Planned R} {rest : List (Planned R)} (h : Fits s.active orders)
    (hq : s.queue=p::rest) :
    Fits (s.advance pf).active (s.advanceOrders pf++orders) ↔
      Released s orders ∨ EntersAt pf s p.target := by
  unfold advance advanceOrders
  rw [hq]
  exact fits_request (s := { s with queue := rest }) pf p h

theorem fits_advance (h : Fits s.active orders) :
    Fits (s.advance pf).active (s.advanceOrders pf++orders) ↔
      Released s orders ∨ NextEnters pf s := by
  cases hq : s.queue with
  | cons p rest =>
    rw [fits_advance_cons pf h hq]
    refine or_congr_right ⟨fun hp p' rest' hcons => ?_,fun hall => hall p rest hq⟩
    rw [hq] at hcons
    exact (List.cons.inj hcons).1 ▸ hp
  | nil =>
    refine iff_of_true ?_ (Or.inr fun p rest hcons => ?_)
    · unfold advance advanceOrders
      rw [hq]
      cases s.fallback with
      | none => exact h
      | some fb => cases fb with
        | hover => exact fits_goto_hover s orders
        | land doPland => exact fits_goto_land s orders doPland
    · rw [hq] at hcons
      cases hcons

theorem fits_arrive {w : WaypointState R} (ha : s.active=.waypoint w .excute) :
    Fits (s.arrive pf w).active (s.arriveOrders pf w++orders) ↔
      Released s orders ∨ (w.arrival=.finish → NextEnters pf s) := by
  unfold arrive arriveOrders
  dsimp only
  cases w.arrival with
  | finish =>
    refine (fits_advance (s := Engine.emit .taskDone { s with
      active := .waypoint w.advance .excute
      log := .progress (w.wpIdx+1) w.wpList.length::s.log }) pf trivial).trans ?_
    rw [released_excute_iff rfl,released_excute_iff ha]
    exact or_congr_right ⟨fun h _ => h,fun h => h rfl⟩
  | lift =>
    dsimp only
    rw [enterLifting_active]
    exact iff_of_true trivial (Or.inr fun h => by cases h)
  | fly =>
    dsimp only
    rw [enterExcute_active]
    exact iff_of_true trivial (Or.inr fun h => by cases h)

omit [Field R] in
/-- A point command under way suits any order. -/
theorem fits_of_posVel {e : SetPosVelEvent R} {child : PosVelChild}
    (hx : s.active.excursion?=some (.posVel e child)) : Fits s.active orders := by
  cases ha : s.active with
  | hover x =>
    rw [ha] at hx
    cases hx
    trivial
  | waypoint w c =>
    rw [ha] at hx
    cases c with
    | lifting => cases hx
    | excute => cases hx
    | excursion x =>
      cases hx
      trivial
  | _ =>
    rw [ha] at hx
    cases hx

theorem fits_posVelTick {e : SetPosVelEvent R} {child : PosVelChild}
    (hx : s.active.excursion?=some (.posVel e child)) (o : TickObs) :
    Fits (s.posVelTick pf e child o).active (s.posVelTickOrders pf e child o++orders) := by
  unfold posVelTick posVelTickOrders
  cases child with
  | move =>
    dsimp only
    cases baseMove pf s.ctx e with
    | error text => exact (fits_of_posVel hx : Fits s.active orders)
    | ok target =>
      dsimp only
      split_ifs
      · exact fits_posVel e .laterTurn
      · exact fits_resume
      · exact fits_resume
      · exact fits_of_posVel hx
  | laterTurn =>
    dsimp only
    by_cases hdone : e.yaw.isNone=true ∨ o.yawAligned=true
    · rw [if_pos (or_assoc.mp (Or.inl hdone)),if_pos hdone]
      exact fits_resume
    · rw [if_neg hdone,List.append_assoc]
      by_cases hlate : o.timedOut=true
      · rw [if_pos (or_assoc.mp (Or.inr hlate)),if_pos hlate]
        exact fits_resume
      · rw [if_neg fun h => (or_assoc.mpr h).elim hdone hlate]
        exact fits_of_posVel hx

theorem fits_excursionTick {x : Excursion R} (h : Fits s.active orders)
    (hx : s.active.excursion?=some x) (o : TickObs) :
    Fits (s.excursionTick pf x o).active (s.excursionTickOrders pf x o++orders) := by
  cases x with
  | follow => exact h
  | posVel e child => exact fits_posVelTick pf hx o

theorem fits_takeoffTick {event : Option ℕ} {settled : Bool} {alt : R}
    (ha : s.active=.takeoff event settled alt) (h : Fits s.active orders)
    (hleft : Released s orders) (o : TickObs) :
    Fits (s.takeoffTick pf event settled alt o).active
      (s.takeoffTickOrders pf event settled alt o++orders) := by
  unfold takeoffTick takeoffTickOrders
  split
  · refine (fits_groundOrHover _ orders).mpr (Or.inl ?_)
    rw [Released,ha] at hleft
    rwa [Released,answerTakeoff_active]
  split
  · exact (fits_goto_quiet s orders rfl).mpr hleft
  by_cases hdone : (if pf.isAltEnable=true then o.atAltitude else s.ctx.checkHover)=true ∨
      o.stalled=true
  · rw [if_pos hdone,if_pos hdone]
    exact (fits_advance pf h).mpr (Or.inl hleft)
  · rw [if_neg hdone,if_neg hdone]
    exact h

/-- `LiftingState` stays or leads to `ExcuteState`. -/
theorem liftingTick_active {w : WaypointState R} (ha : s.active=.waypoint w .lifting)
    (o : TickObs) :
    (s.tick pf o).active=.waypoint w .lifting ∨ (s.tick pf o).active=.waypoint w .excute := by
  unfold tick
  rw [ha]
  dsimp only
  split
  · exact Or.inr (enterExcute_active s pf w)
  · exact Or.inl ha

/-- A tick in a state that leaves no path behind. -/
theorem fits_tick_of_released (h : Fits s.active orders) (hleft : Released s orders) (o : TickObs) :
    Fits (s.tick pf o).active (s.tickOrders pf o++orders) := by
  by_cases hlift : ∃ w,s.active=.waypoint w .lifting
  · obtain ⟨w,ha⟩ := hlift
    rcases liftingTick_active pf ha o with hnext|hnext <;> rw [hnext] <;> trivial
  unfold tick tickOrders
  cases ha : s.active with
  | init =>
    dsimp only
    split
    · exact (fits_groundOrHover s orders).mpr (Or.inl hleft)
    · exact h
  | ground =>
    dsimp only
    split
    · exact fits_goto_hover s orders
    · exact h
  | arm =>
    dsimp only
    split
    · exact (fits_groundOrHover { s with queue := s.queue.map abandon } orders).mpr (Or.inl hleft)
    · exact h
  | hover x => cases x with
    | none => exact h
    | some x => exact fits_excursionTick pf h (by rw [ha]; rfl) o
  | takeoff event settled alt => exact fits_takeoffTick pf ha h hleft o
  | land doPland =>
    dsimp only
    split
    · exact (fits_goto_quiet s orders rfl).mpr hleft
    · exact h
  | waypoint w child => cases child with
    | lifting => exact absurd ⟨w,ha⟩ hlift
    | excute =>
      dsimp only
      split
      · exact (fits_arrive pf ha).mpr (Or.inl hleft)
      · exact h
    | excursion x => exact fits_excursionTick pf h (by rw [ha]; rfl) o

omit [Field R] in
/-- The tick of the listener leaves a state for `GroundState` without an order. -/
theorem fits_listenerTick (h : Fits s.active orders) :
    Fits s.listenerTick.active (s.listenerTickOrders++orders) ↔
      Released s orders ∨ s.ctx.checkHover=true := by
  have hground : ¬s.ctx.checkHover=true →
      (Fits s.toGround.active (s.gotoOrders .ground++orders) ↔
        Released s orders ∨ s.ctx.checkHover=true) := fun hdown =>
    (fits_goto_quiet s orders rfl).trans (or_iff_left hdown).symm
  have hstay : (∀ w c,s.active≠.waypoint w c) → Fits s.active ([]++orders) →
      (Fits s.active ([]++orders) ↔ Released s orders ∨ s.ctx.checkHover=true) :=
    fun hnot hfits => iff_of_true hfits (Or.inl (released_of_fits h fun w => hnot w .excute))
  unfold listenerTick listenerTickOrders
  cases ha : s.active with
  | hover x =>
    dsimp only
    split
    · exact iff_of_true h (Or.inr ‹_›)
    · exact hground ‹_›
  | waypoint w c =>
    dsimp only
    split
    · exact iff_of_true h (Or.inr ‹_›)
    · exact hground ‹_›
  | _ =>
    dsimp only
    rw [ha] at hstay h
    rw [ha]
    exact hstay (fun w c hw => by cases hw) h

theorem fits_onTakeoff (h : Fits s.active orders) (id : ℕ) (alt : R) :
    Fits (s.onTakeoff pf id alt).active (s.onTakeoffOrders pf id alt++orders) ↔
      Released s orders ∨ EntersAt pf s (.takeoff (some id) alt) := by
  unfold onTakeoff onTakeoffOrders
  split
  · rename_i hinit
    refine iff_of_true h (Or.inl (released_of_fits h fun w hw => ?_))
    rw [hw] at hinit
    cases hinit
  · exact fits_advance_cons (s := { s with
      queue := [⟨.takeoff (some id) alt,false⟩], fallback := some .hover }) pf h rfl

theorem fits_startMission (h : Fits s.active orders) (e : SetWaypointEvent R)
    (m : AcceptedMission R) (hair : s.active.isGround=false) :
    Fits (s.startMission pf e m).active (s.startMissionOrders pf e m++orders) ↔
      Released s orders ∨ (e.waypoint.isEmpty=true ∧ e.finishAction=.land ∨
        EntersAt pf s (.mission m)) := by
  unfold startMission startMissionOrders missionPlan
  rw [if_neg (ne_true_of_eq_false hair)]
  split
  · rename_i hland
    exact iff_of_true (fits_goto_land s orders _) (Or.inr (Or.inl hland.2))
  · rename_i hfly
    rw [or_iff_right fun hland => hfly ⟨hair,hland⟩]
    exact fits_advance_cons (s := { s with
      queue := [⟨.mission m,false⟩], fallback := some (missionFallback m.event) }) pf h rfl

theorem onSetWaypoint_of_error {e : SetWaypointEvent R} {text : String}
    (h : acceptWaypoint pf s.ctx s.active.isInit s.active.isGround e=.error text) (id : ℕ) :
    (s.onSetWaypoint pf id e).active=s.active ∧ s.onSetWaypointOrders pf e=[] := by
  unfold onSetWaypoint onSetWaypointOrders
  constructor
  · split
    · rfl
    · rename_i hok
      rw [h] at hok
      cases hok
  · split
    · rename_i hok
      rw [h] at hok
      cases hok
    · rfl

theorem onSetWaypoint_of_ok {e : SetWaypointEvent R} {m : AcceptedMission R}
    (h : acceptWaypoint pf s.ctx s.active.isInit s.active.isGround e=.ok m.event) (id : ℕ) :
    (s.onSetWaypoint pf id e).active=(s.startMission pf e m).active ∧
      s.onSetWaypointOrders pf e=s.startMissionOrders pf e m := by
  unfold onSetWaypoint onSetWaypointOrders
  constructor
  · split
    · rename_i herror
      rw [h] at herror
      cases herror
    · rename_i hok
      cases Except.ok.inj (h.symm.trans hok)
      rfl
  · split
    · rename_i hok
      cases Except.ok.inj (h.symm.trans hok)
      rfl
    · rename_i herror
      rw [h] at herror
      cases herror

theorem fits_onSetWaypoint (h : Fits s.active orders) (id : ℕ) (e : SetWaypointEvent R) :
    Fits (s.onSetWaypoint pf id e).active (s.onSetWaypointOrders pf e++orders) ↔
      Released s orders ∨ Safe pf s (.setWaypoint id e) := by
  cases hacc : acceptWaypoint pf s.ctx s.active.isInit s.active.isGround e with
  | error text =>
    obtain ⟨hactive,horders⟩ := onSetWaypoint_of_error pf hacc id
    rw [hactive,horders]
    refine iff_of_true h (Or.inr fun m hm => ?_)
    rw [hacc] at hm
    cases hm
  | ok accepted =>
    obtain ⟨hactive,horders⟩ := onSetWaypoint_of_ok pf (m := ⟨accepted,acceptWaypoint_returnEnu hacc⟩)
      hacc id
    rw [hactive,horders]
    by_cases hground : s.active.isGround=true
    · have hleft : Released s orders := released_of_fits h fun w hw => by
        rw [hw] at hground
        cases hground
      refine iff_of_true ?_ (Or.inl hleft)
      unfold startMission startMissionOrders
      rw [if_neg fun hair => ne_true_of_eq_false hair.1 hground,
        if_neg fun hair => ne_true_of_eq_false hair.1 hground]
      exact (fits_advance (s := { s with
        queue := missionPlan s.active.isGround (takeoffAlt e) _
        fallback := some (missionFallback accepted) }) pf h).mpr (Or.inl hleft)
    · rw [fits_startMission pf h e _ (eq_false_of_ne_true hground)]
      refine or_congr_right ⟨fun hm m haccepted => ?_,fun hall => hall _ hacc⟩
      cases Except.ok.inj (hacc.symm.trans haccepted)
      exact hm

theorem fits_onSetPosVel (h : Fits s.active orders) (id : ℕ) (e : SetPosVelEvent R) :
    Fits (s.onSetPosVel pf id e).active (s.onSetPosVelOrders pf e++orders) ↔
      Released s orders ∨ Safe pf s (.setPosVel id e) := by
  have hfree : (∀ w c,s.active≠.waypoint w c) → Released s orders := fun hnot =>
    released_of_fits h fun w => hnot w .excute
  have hhover : Released s orders → Fits (resolveStarted id s (Engine.advance pf { s with
      queue := s.queue++[(⟨.posVel .hover e,false⟩ : Planned R)]
      fallback := some .hover })).active
        (Engine.advanceOrders pf { s with
          queue := s.queue++[(⟨.posVel .hover e,false⟩ : Planned R)]
          fallback := some .hover }++orders) := by
    intro hleft
    rw [resolveStarted_active]
    exact (fits_advance (s := { s with
      queue := s.queue++[⟨.posVel .hover e,false⟩]
      fallback := some .hover }) pf h).mpr (Or.inl hleft)
  have hmission : Fits (resolveStarted id s (Engine.advance pf { s with
      queue := s.queue++[(⟨.posVel .waypoint e,false⟩ : Planned R)] })).active
        (Engine.advanceOrders pf { s with
          queue := s.queue++[(⟨.posVel .waypoint e,false⟩ : Planned R)] }++orders) ↔
      Released s orders ∨ Safe pf s (.setPosVel id e) := by
    rw [resolveStarted_active]
    exact fits_advance pf h
  unfold onSetPosVel onSetPosVelOrders
  cases ha : s.active with
  | hover x =>
    rw [ha] at hfree hhover
    have hleft : Released s orders := hfree fun w c hw => by cases hw
    refine iff_of_true ?_ (Or.inl hleft)
    cases x with
    | none => exact hhover hleft
    | some x => cases x with
      | follow => exact hhover hleft
      | posVel e' child => exact fits_moveTo (s := s.answer id (.ok "OK")) pf e
  | waypoint w c =>
    rw [ha] at hmission
    cases c with
    | lifting => exact hmission
    | excute => exact hmission
    | excursion x => cases x with
      | follow => exact hmission
      | posVel e' child =>
        refine iff_of_true ?_ (Or.inl (released_of_fits h fun w' hw => by cases ha.symm.trans hw))
        exact fits_moveTo (s := s.answer id (.ok "OK")) pf e
  | _ =>
    rw [ha] at hfree
    exact iff_of_true h (Or.inl (hfree fun w c hw => by cases hw))

omit [Field R] in
theorem fits_onLand (h : Fits s.active orders) (id : ℕ) (doPland : Bool) :
    Fits (s.onLand id doPland).active (s.onLandOrders doPland++orders) := by
  unfold onLand onLandOrders
  split
  · exact h
  · exact fits_goto_land s orders doPland

omit [Field R] in
/-- `FollowState` sends velocities only. -/
theorem fits_following (hx : s.active.excursion?=some .follow) :
    Fits s.active (.follow::orders) := by
  cases ha : s.active with
  | hover x =>
    rw [ha] at hx
    cases hx
    rfl
  | waypoint w c =>
    rw [ha] at hx
    cases c with
    | excursion x =>
      cases hx
      rfl
    | _ => cases hx
  | _ =>
    rw [ha] at hx
    cases hx

/-- A detection is followed, ignored, or leads to `FollowState`. -/
theorem onDetectOrders_cases (cooling : Bool) :
    (s.active.excursion?=some .follow ∧ s.onDetect pf cooling=s ∧
      s.onDetectOrders pf cooling=[.follow]) ∨
    (s.onDetect pf cooling=s ∧ s.onDetectOrders pf cooling=[] ∧
      (cooling=false → ∀ w,s.active≠.waypoint w .excute)) ∨
    (cooling=false ∧ ∃ parent,s.onDetect pf cooling=s.request pf ⟨.follow parent,false⟩ ∧
      s.onDetectOrders pf cooling=s.requestOrders pf ⟨.follow parent,false⟩) := by
  by_cases hx : s.active.excursion?=some .follow
  · refine Or.inl ⟨hx,?_⟩
    unfold onDetect onDetectOrders
    rw [hx]
    cases cooling <;> exact ⟨rfl,rfl⟩
  refine Or.inr ?_
  cases cooling with
  | true =>
    refine Or.inl ⟨rfl,?_,fun hcool => by cases hcool⟩
    unfold onDetectOrders
    split
    · exact absurd ‹_› hx
    · rfl
    · rfl
    · rfl
  | false =>
    cases ha : s.active with
    | hover x =>
      refine Or.inr ⟨rfl,.hover,?_⟩
      unfold onDetect onDetectOrders
      rw [ha] at hx ⊢
      cases x with
      | none => exact ⟨rfl,rfl⟩
      | some x => cases x with
        | follow => exact absurd rfl hx
        | posVel e child => exact ⟨rfl,rfl⟩
    | waypoint w c =>
      refine Or.inr ⟨rfl,.waypoint,?_⟩
      unfold onDetect onDetectOrders
      rw [ha] at hx ⊢
      cases c with
      | lifting => exact ⟨rfl,rfl⟩
      | excute => exact ⟨rfl,rfl⟩
      | excursion x => cases x with
        | follow => exact absurd rfl hx
        | posVel e child => exact ⟨rfl,rfl⟩
    | _ =>
      refine Or.inl ⟨?_,?_,fun _ w hw => by cases hw⟩
      · unfold onDetect
        rw [ha]
        rfl
      · unfold onDetectOrders
        rw [ha]
        rfl

theorem fits_onDetect (h : Fits s.active orders) (cooling : Bool) :
    Fits (s.onDetect pf cooling).active (s.onDetectOrders pf cooling++orders) ↔
      Released s orders ∨ Safe pf s (.detect cooling) := by
  rcases onDetectOrders_cases (s := s) pf cooling with ⟨hx,hactive,horders⟩|
    ⟨hactive,horders,hidle⟩|⟨hcool,parent,hactive,horders⟩
  · rw [hactive,horders]
    refine iff_of_true (fits_following hx) (Or.inl (released_of_fits h fun w hw => ?_))
    rw [hw] at hx
    cases hx
  · rw [hactive,horders]
    refine iff_of_true h ?_
    cases cooling with
    | true => exact Or.inr fun hcool => by cases hcool
    | false => exact Or.inl (released_of_fits h (hidle rfl))
  · rw [hactive,horders,fits_request pf _ h]
    refine or_congr_right ⟨fun henter _ => ⟨henter.1,?_⟩,fun hsafe => ⟨(hsafe hcool).1,?_⟩⟩
    · exact fun event alt ht => by cases ht
    · exact fun event alt ht => by cases ht

omit [Field R] in
theorem fits_onStopFollow (h : Fits s.active orders) (id : ℕ) :
    Fits (s.onStopFollow id).active (s.onStopFollowOrders++orders) := by
  unfold onStopFollow onStopFollowOrders
  cases s.active.excursion? with
  | none => exact h
  | some x => cases x with
    | follow => exact fits_resume (s := s.answer id (.ok "OK"))
    | posVel e child => exact h

omit [Field R] in
theorem fits_onLoiter (h : Fits s.active orders) (id : ℕ) :
    Fits (s.onLoiter id).active (s.onLoiterOrders++orders) := by
  unfold onLoiter onLoiterOrders
  split
  · exact fits_goto_hover s orders
  · exact h

theorem fits_onArm (h : Fits s.active orders) (armed : Bool) :
    Fits (s.onArm pf armed).active (s.onArmOrders pf armed++orders) := by
  unfold onArm onArmOrders
  cases ha : s.active with
  | arm =>
    dsimp only
    split
    · exact (fits_advance pf h).mpr (Or.inl (released_of_fits h fun w hw => by cases ha.symm.trans hw))
    · exact h
  | _ => exact h

omit [Field R] in
theorem fits_onStatusText (h : Fits s.active orders) (text : String) :
    Fits (s.onStatusText pf text).active (s.onStatusTextOrders pf text++orders) := by
  unfold onStatusText onStatusTextOrders
  cases ha : s.active with
  | arm =>
    have hleft : Released s orders := released_of_fits h fun w hw => by cases ha.symm.trans hw
    dsimp only
    split
    · exact (fits_groundOrHover { s with queue := s.queue.map abandon } orders).mpr (Or.inl hleft)
    · exact h
  | _ => exact h

theorem fits_tick (h : Fits s.active orders) (o : TickObs) :
    Fits (s.tick pf o).active (s.tickOrders pf o++orders) ↔
      Released s orders ∨ Safe pf s (.tick o) := by
  by_cases hex : ∃ w,s.active=.waypoint w .excute
  · obtain ⟨w,ha⟩ := hex
    unfold tick tickOrders Safe
    rw [ha]
    dsimp only
    split
    · rename_i harrive
      refine (fits_arrive pf ha).trans (or_congr_right ?_)
      constructor
      · intro hfinish _ _ w' hw'
        cases hw'
        exact hfinish
      · exact fun hsafe => hsafe harrive.1 harrive.2 w rfl
    · rename_i hnot
      exact iff_of_true h (Or.inr fun hodom hreached => absurd ⟨hodom,hreached⟩ hnot)
  · have hleft : Released s orders := released_of_fits h fun w ha => hex ⟨w,ha⟩
    exact iff_of_true (fits_tick_of_released pf h hleft o) (Or.inl hleft)

/-- After a step the last order suits the active state exactly if the tracker flew to no
position or the step is safe. -/
theorem fits_step_iff (h : Fits s.active orders) (l : Label R) :
    Fits (step pf s l).active (stepOrders pf s l++orders) ↔ Released s orders ∨ Safe pf s l := by
  cases l with
  | sense x => exact iff_of_true h (Or.inr trivial)
  | listenerTick => exact fits_listenerTick h
  | tick o => exact fits_tick pf h o
  | takeoffEvent id alt => exact fits_onTakeoff pf h id alt
  | setWaypoint id e => exact fits_onSetWaypoint pf h id e
  | setPosVel id e => exact fits_onSetPosVel pf h id e
  | landEvent id doPland => exact iff_of_true (fits_onLand h id doPland) (Or.inr trivial)
  | restart => exact (fits_goto_quiet s orders rfl).trans (or_iff_left id).symm
  | armEvent armed => exact iff_of_true (fits_onArm pf h armed) (Or.inr trivial)
  | statusText text => exact iff_of_true (fits_onStatusText pf h text) (Or.inr trivial)
  | detect cooling => exact fits_onDetect pf h cooling
  | stopFollow id => exact iff_of_true (fits_onStopFollow h id) (Or.inr trivial)
  | loiter id => exact iff_of_true (fits_onLoiter h id) (Or.inr trivial)

end

section

variable [Field R] {s : Engine R} (pf : Platform R)

/-- A planned state leads to no leg at once. -/
theorem request_ne_leg (p : Planned R) (w : WaypointState R) :
    (s.request pf p).active≠.waypoint w .excute := by
  unfold request
  split
  · exact Active.ne_waypoint rfl w .excute
  · intro ha
    rcases enterTarget_active (s := s) pf p with h|⟨m,w',_,_,h⟩|⟨_,w',c,x,_,h⟩
    · rw [ha] at h
      cases h
    · cases h.symm.trans ha
    · cases h.symm.trans ha

/-- A plan leads to no leg at once; without a fallback it may leave one as it is. -/
theorem advance_leg {w : WaypointState R} (hleg : (s.advance pf).active=.waypoint w .excute) :
    s.active=.waypoint w .excute ∧ s.queue=[] ∧ s.fallback=none := by
  unfold advance at hleg
  cases hq : s.queue with
  | cons p rest =>
    rw [hq] at hleg
    exact absurd hleg (request_ne_leg pf p w)
  | nil =>
    rw [hq] at hleg
    cases hf : s.fallback with
    | none =>
      rw [hf] at hleg
      exact ⟨hleg,rfl,rfl⟩
    | some fb =>
      rw [hf] at hleg
      cases fb <;> cases hleg

omit [Field R] in
theorem resume_ne_leg (w : WaypointState R) : s.resume.active≠.waypoint w .excute := by
  unfold resume
  cases s.active with
  | waypoint w' c =>
    dsimp only
    rw [enterLifting_active]
    exact fun h => by cases h
  | _ => exact Active.ne_waypoint rfl w .excute

omit [Field R] in
theorem interrupt_ne_leg (x : Excursion R) (w : WaypointState R) :
    (s.interrupt x).active≠.waypoint w .excute := by
  rcases interrupt_active (s := s) x with ⟨w',c,_,h⟩|⟨_,h⟩ <;> rw [h] <;> exact fun h => by cases h

theorem excursionTick_ne_leg (x : Excursion R) (o : TickObs) (w : WaypointState R)
    (hnot : s.active≠.waypoint w .excute) :
    (s.excursionTick pf x o).active≠.waypoint w .excute := by
  rcases excursionTick_cases pf s x o with heq|⟨e,heq⟩|heq|heq <;> rw [heq]
  · exact hnot
  · exact interrupt_ne_leg _ w
  · exact resume_ne_leg w
  · exact hnot

omit [Field R] in
theorem groundOrHover_ne_leg (w : WaypointState R) : s.groundOrHover.active≠.waypoint w .excute :=
  Active.ne_waypoint (groundOrHover_isWaypoint s) w .excute

theorem takeoffTick_ne_leg {event : Option ℕ} {settled : Bool} {alt : R}
    (ha : s.active=.takeoff event settled alt) (o : TickObs) (w : WaypointState R) :
    (s.takeoffTick pf event settled alt o).active≠.waypoint w .excute := by
  have hstay : s.active≠.waypoint w .excute := fun h => by cases ha.symm.trans h
  unfold takeoffTick
  split
  · exact groundOrHover_ne_leg w
  split
  · exact Active.ne_waypoint rfl w .excute
  by_cases hdone : (if pf.isAltEnable=true then o.atAltitude else s.ctx.checkHover)=true ∨
      o.stalled=true
  · rw [if_pos hdone]
    exact fun h => hstay (advance_leg pf h).1
  · rw [if_neg hdone]
    exact hstay

omit [Field R] in
/-- Entering a leg sends its path last of all. -/
theorem enterExcuteOrders_of_inRange {w : WaypointState R} (hin : w.InRange) :
    s.enterExcuteOrders w=
      .path w.segment w.event.speed::s.gotoOrders (.waypoint w .excute) := by
  unfold enterExcuteOrders
  rw [if_pos hin]
  rfl

/-- Where a tick leads to a leg, it goes on or begins with its path. -/
theorem leg_tick (h : Disciplined s) (o : TickObs) {w : WaypointState R}
    (hleg : (s.tick pf o).active=.waypoint w .excute) :
    s.active=.waypoint w .excute ∧ s.tickOrders pf o=[] ∨
      (s.tickOrders pf o).head?=some (.path w.segment w.event.speed) := by
  unfold tick at hleg
  unfold tickOrders
  cases ha : s.active with
  | waypoint w' child => cases child with
    | lifting =>
      have hin : w'.InRange := (h.mission w' .lifting ha).1
      rw [ha] at hleg
      dsimp only at hleg ⊢
      split at hleg
      · rename_i hdone
        rw [enterExcute_active] at hleg
        cases hleg
        rw [enterExcuteOrders_of_inRange hin]
        refine Or.inr ?_
        split
        · rfl
        · rename_i hturning
          rw [if_pos (hdone.resolve_left hturning)]
          rfl
      · cases ha.symm.trans hleg
    | excute =>
      obtain ⟨_,_,hfb⟩ := h.mission w' .excute ha
      rw [ha] at hleg
      dsimp only at hleg ⊢
      split at hleg
      · rename_i harrive
        rw [if_pos harrive]
        unfold arrive at hleg
        unfold arriveOrders
        dsimp only at hleg ⊢
        refine Or.inr ?_
        cases hw : w'.arrival with
        | finish =>
          rw [hw] at hleg
          have hnone : s.fallback=none := (advance_leg pf hleg).2.2
          rw [hnone] at hfb
          cases hfb
        | lift =>
          rw [hw] at hleg
          dsimp only at hleg
          rw [enterLifting_active] at hleg
          cases hleg
        | fly =>
          have hin : w'.advance.InRange := by
            by_contra hout
            cases hw.symm.trans ((w'.arrival_eq_finish_iff).mpr hout)
          rw [hw] at hleg
          dsimp only at hleg
          rw [enterExcute_active] at hleg
          cases hleg
          dsimp only
          rw [enterExcuteOrders_of_inRange hin]
          rfl
      · rename_i hnot
        rw [if_neg hnot]
        exact Or.inl ⟨ha.symm.trans hleg,rfl⟩
    | excursion x =>
      rw [ha] at hleg
      exact absurd hleg (excursionTick_ne_leg pf x o w fun h => by cases ha.symm.trans h)
  | takeoff event settled alt =>
    rw [ha] at hleg
    exact absurd hleg (takeoffTick_ne_leg pf ha o w)
  | hover x =>
    rw [ha] at hleg
    cases x with
    | none => cases ha.symm.trans hleg
    | some x =>
      exact absurd hleg (excursionTick_ne_leg pf x o w fun h => by cases ha.symm.trans h)
  | init =>
    rw [ha] at hleg
    dsimp only at hleg
    split at hleg
    · exact absurd hleg (groundOrHover_ne_leg w)
    · cases ha.symm.trans hleg
  | ground =>
    rw [ha] at hleg
    dsimp only at hleg
    split at hleg
    · cases hleg
    · cases ha.symm.trans hleg
  | arm =>
    rw [ha] at hleg
    dsimp only at hleg
    split at hleg
    · exact absurd hleg (groundOrHover_ne_leg w)
    · cases ha.symm.trans hleg
  | land doPland =>
    rw [ha] at hleg
    dsimp only at hleg
    split at hleg
    · cases hleg
    · cases ha.symm.trans hleg

theorem leg_startMission {e : SetWaypointEvent R} {m : AcceptedMission R} (w : WaypointState R) :
    (s.startMission pf e m).active≠.waypoint w .excute := by
  unfold startMission missionPlan
  split
  · exact Active.ne_waypoint rfl w .excute
  · intro hleg
    have hempty := (advance_leg pf hleg).2.1
    dsimp only at hempty
    split at hempty <;> cases hempty

omit [Field R] in
theorem leg_listenerTick {w : WaypointState R}
    (hleg : s.listenerTick.active=.waypoint w .excute) :
    s.active=.waypoint w .excute ∧ s.listenerTickOrders=[] := by
  unfold listenerTick at hleg
  unfold listenerTickOrders
  cases ha : s.active with
  | waypoint w' c =>
    rw [ha] at hleg
    dsimp only at hleg ⊢
    split at hleg
    · rename_i hflies
      rw [if_pos hflies]
      exact ⟨ha.symm.trans hleg,rfl⟩
    · cases hleg
  | hover x =>
    rw [ha] at hleg
    dsimp only at hleg
    split at hleg
    · cases ha.symm.trans hleg
    · cases hleg
  | _ =>
    rw [ha] at hleg
    cases ha.symm.trans hleg

theorem leg_onSetPosVel {id : ℕ} {e : SetPosVelEvent R} (w : WaypointState R) :
    (s.onSetPosVel pf id e).active≠.waypoint w .excute := by
  have hplan : ∀ (p : Planned R) fb,(resolveStarted id s
      (Engine.advance pf { s with queue := s.queue++[p], fallback := fb })).active≠
        .waypoint w .excute := by
    intro p fb
    rw [resolveStarted_active]
    exact fun hleg =>
      List.append_ne_nil_of_right_ne_nil s.queue (List.cons_ne_nil p []) (advance_leg pf hleg).2.1
  unfold onSetPosVel
  split
  · obtain ⟨kept,hkept⟩ := moveTo_active (s.answer id (.ok "OK")) pf e
    rw [hkept]
    exact interrupt_ne_leg _ w
  · exact hplan _ s.fallback
  · exact hplan _ _
  · rename_i hmission _
    exact fun hleg => hmission w .excute hleg

/-- Where a step leads to a leg, it goes on without an order or begins with its path. -/
theorem leg_step (h : Disciplined s) (l : Label R) {w : WaypointState R}
    (hleg : (step pf s l).active=.waypoint w .excute) :
    s.active=.waypoint w .excute ∧ stepOrders pf s l=[] ∨
      (stepOrders pf s l).head?=some (.path w.segment w.event.speed) := by
  cases l with
  | sense x => exact Or.inl ⟨hleg,rfl⟩
  | tick o => exact leg_tick pf h o hleg
  | listenerTick => exact Or.inl (leg_listenerTick hleg)
  | takeoffEvent id alt =>
    change (s.onTakeoff pf id alt).active=_ at hleg
    unfold onTakeoff at hleg
    split at hleg
    · rename_i hinit
      rw [show s.active=.waypoint w .excute from hleg] at hinit
      cases hinit
    · cases (advance_leg pf hleg).2.1
  | setWaypoint id e =>
    cases hacc : acceptWaypoint pf s.ctx s.active.isInit s.active.isGround e with
    | error text =>
      obtain ⟨hactive,horders⟩ := onSetWaypoint_of_error pf hacc id
      exact Or.inl ⟨hactive.symm.trans hleg,horders⟩
    | ok accepted =>
      obtain ⟨hactive,_⟩ := onSetWaypoint_of_ok pf
        (m := ⟨accepted,acceptWaypoint_returnEnu hacc⟩) hacc id
      exact absurd (hactive.symm.trans hleg) (leg_startMission pf w)
  | setPosVel id e => exact absurd hleg (leg_onSetPosVel pf w)
  | landEvent id doPland =>
    change (s.onLand id doPland).active=_ at hleg
    unfold onLand at hleg
    split at hleg
    · rename_i hdown
      exact Or.inl ⟨hleg,if_pos hdown⟩
    · cases hleg
  | restart => cases hleg
  | armEvent armed =>
    change (s.onArm pf armed).active=_ at hleg
    have hstay : s.active=.waypoint w .excute := by
      rcases onArm_cases pf s armed with heq|⟨_,heq⟩ <;> rw [heq] at hleg
      · exact hleg
      · exact (advance_leg pf hleg).1
    refine Or.inl ⟨hstay,?_⟩
    change s.onArmOrders pf armed=[]
    unfold onArmOrders
    rw [hstay]
  | statusText text =>
    change (s.onStatusText pf text).active=_ at hleg
    have hstay : s.active=.waypoint w .excute := by
      rcases onStatusText_cases pf s text with heq|⟨_,heq⟩ <;> rw [heq] at hleg
      · exact hleg
      · exact absurd hleg (groundOrHover_ne_leg w)
    refine Or.inl ⟨hstay,?_⟩
    change s.onStatusTextOrders pf text=[]
    unfold onStatusTextOrders
    rw [hstay]
  | detect cooling =>
    change (s.onDetect pf cooling).active=_ at hleg
    rcases onDetectOrders_cases (s := s) pf cooling with ⟨hx,hactive,_⟩|⟨hactive,horders,_⟩|
      ⟨_,parent,hactive,_⟩
    · rw [hactive] at hleg
      rw [hleg] at hx
      cases hx
    · rw [hactive] at hleg
      exact Or.inl ⟨hleg,horders⟩
    · rw [hactive] at hleg
      exact absurd hleg (request_ne_leg pf _ w)
  | stopFollow id =>
    change (s.onStopFollow id).active=_ at hleg
    unfold onStopFollow at hleg
    split at hleg
    · exact absurd hleg (resume_ne_leg w)
    · have hstay : s.active=.waypoint w .excute := hleg
      refine Or.inl ⟨hstay,?_⟩
      change s.onStopFollowOrders=[]
      unfold onStopFollowOrders
      rw [hstay]
      rfl
  | loiter id =>
    change (s.onLoiter id).active=_ at hleg
    unfold onLoiter at hleg
    split at hleg
    · cases hleg
    · rename_i hdown
      exact Or.inl ⟨hleg,if_neg hdown⟩

end

/-- The engine with everything the flight states have sent, latest first. -/
structure Sortie (R : Type*) where
  /-- The engine. -/
  engine : Engine R
  /-- The orders. -/
  orders : List (Order R) := []

namespace Sortie

variable [Field R]

/-- One event or tick, with what is sent. -/
def step (pf : Platform R) (t : Sortie R) (l : Label R) : Sortie R where
  engine := Engine.step pf t.engine l
  orders := stepOrders pf t.engine l++t.orders

/-- The vehicle is on the leg of a mission. -/
def OnLeg (t : Sortie R) : Prop := ∃ w,t.engine.active=.waypoint w .excute

/-- The last order suits the active state. -/
def Suits (t : Sortie R) : Prop := Fits t.engine.active t.orders

/-- On a leg the tracker flies what is left of it. -/
def OnPath (t : Sortie R) : Prop :=
  ∀ w,t.engine.active=.waypoint w .excute →
    t.orders.head?=some (.path w.segment w.event.speed)

variable (pf : Platform R)

/-- Run invariant of a flight and its orders. -/
structure Ready (t : Sortie R) : Prop where
  /-- The engine is disciplined. -/
  disciplined : Disciplined t.engine
  /-- Legs are flown. -/
  onPath : t.OnPath

theorem ready_step (t : Sortie R) (l : Label R) (h : t.Ready) : (step pf t l).Ready := by
  refine ⟨disciplined_step pf t.engine l h.disciplined,fun w hleg => ?_⟩
  change (stepOrders pf t.engine l++t.orders).head?=_
  rcases leg_step pf h.disciplined l hleg with ⟨hstay,hnone⟩|hpath
  · rw [hnone]
    exact h.onPath w hstay
  · rw [List.head?_append,hpath]
    rfl

omit [Field R] in
/-- The state after power-on. -/
theorem ready_initial (x : Sensors R) : Ready ⟨initial x,[]⟩ where
  disciplined := disciplined_of_settled (orderly_of_hoverBound fun p hp => by cases hp) rfl
  onPath := fun w hleg => by cases hleg

/-- On every leg of every run the last order is the path to the end of the leg. -/
theorem run_onPath (x : Sensors R) (labels : List (Label R)) :
    (runFrom (step pf) ⟨initial x,[]⟩ labels).OnPath :=
  (run_invariant (ready_step pf) labels (ready_initial x)).onPath

omit [Field R] in
/-- On a leg the tracker flies to a position, and only there a state is left with one. -/
theorem released_iff {t : Sortie R} (hpath : t.OnPath) (h : t.Suits) :
    Released t.engine t.orders ↔ ¬t.OnLeg := by
  constructor
  · rintro hleft ⟨w,ha⟩
    have hguided : guided t.orders=false := (released_excute_iff ha).mp hleft
    rw [guided,hpath w ha] at hguided
    cases hguided
  · exact fun hoff => released_of_fits h fun w ha => hoff ⟨w,ha⟩

/-- In every run from power-on the last order suits the active state throughout exactly if
no step takes the vehicle off a leg in an unsafe way: by grounding or restarting it, or by
entering a state that arms or takes off. -/
theorem suits_forall_iff (x : Sensors R) (labels : List (Label R)) :
    (∀ done,done<+:labels → (runFrom (step pf) ⟨initial x,[]⟩ done).Suits) ↔
    Guarded (step pf) (fun t l => t.OnLeg → Safe pf t.engine l) ⟨initial x,[]⟩ labels := by
  refine forall_prefix_iff_guarded_of_invariant (ready_step pf) (fun t l hready h => ?_) labels
    (ready_initial x) rfl
  refine (fits_step_iff pf h l).trans ?_
  rw [released_iff hready.onPath h,← imp_iff_not_or]

end Sortie

end Dankong.Flight

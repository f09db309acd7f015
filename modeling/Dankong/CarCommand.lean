import Dankong.History
import Dankong.StateUtils

/-!
# Command record of the car

All operations of `Car` edit one command record, and a thread keeps sending it to
the chassis. Parking engages the brake and puts the gear into P or N; from then on
the velocity command refuses to touch the record until the next takeoff releases
it. Lights, horn and emergency stop have fields of their own.
-/

namespace Dankong.Car

open History Real Runs StateUtils

/-- `ipc_vcu_zrd_ipc_210_t`, the fields of frame 0x210; all are zero after `memset`. -/
structure Ipc210 where
  /-- `domain_ctrl_epo`: emergency stop. -/
  domainCtrlEpo : UInt8 := 0
  /-- `steering_mode`: one turns on the spot. -/
  steeringMode : UInt8 := 0
  /-- `ipc_en`: drive by wire enabled. -/
  ipcEn : UInt8 := 0
  /-- `target_gear`: P, R, N, D. -/
  targetGear : UInt8 := 0
  /-- `target_speed`, in units of 0.1 km/h. -/
  targetSpeed : UInt16 := 0
  /-- `target_angle`, from -300 to 300. -/
  targetAngle : Int16 := 0
  /-- `brake_en`. -/
  brakeEn : UInt8 := 0
  /-- `target_pressure`. -/
  targetPressure : UInt8 := 0
  /-- `dipped_lamp`. -/
  dippedLamp : UInt8 := 0
  /-- `turn_lamp`. -/
  turnLamp : UInt8 := 0
  /-- `far_lamp`. -/
  farLamp : UInt8 := 0
  /-- `horn`. -/
  horn : UInt8 := 0
  /-- `car_off`. -/
  carOff : UInt8 := 0
  /-- `alarm_lamp`. -/
  alarmLamp : UInt8 := 0
  /-- `out_line_lamp`. -/
  outLineLamp : UInt8 := 0

/-- `LightEvent`. -/
structure LightEvent where
  /-- High beam. -/
  far : Bool := false
  /-- Low beam. -/
  dipped : Bool := false
  /-- Hazard lights. -/
  alarm : Bool := false
  /-- Side lights. -/
  outline : Bool := false
  /-- Turn signal. -/
  turn : ℤ := 0

/-- `HornEvent`. -/
structure HornEvent where
  /-- Whether the horn sounds. -/
  horn : Bool := false

/-- A flag written as a number. -/
def bit (b : Bool) : UInt8 := if b=true then 1 else 0

/-- The record after construction. -/
def constructed : Ipc210 := { ipcEn := 1 }

/-- `land`: brake, gear P. -/
def land (c : Ipc210) : Ipc210 :=
  { c with
    ipcEn := 1, brakeEn := 1, targetGear := 0
    targetSpeed := 0, targetAngle := 0, steeringMode := 0 }

/-- `loiter`: brake, gear N. -/
def loiter (c : Ipc210) : Ipc210 :=
  { c with
    ipcEn := 1, brakeEn := 1, targetGear := 2
    targetSpeed := 0, targetAngle := 0, steeringMode := 0 }

/-- `takeoff`: brake released, gear D; the altitude is ignored. -/
def takeoff (c : Ipc210) : Ipc210 :=
  { c with
    ipcEn := 1, brakeEn := 0, targetGear := 3
    targetSpeed := 0, targetAngle := 0, steeringMode := 0 }

/-- `inner_check_hover`: neither P nor N is engaged. -/
def innerCheckHover (gear : UInt8) : Bool := gear != 0 && gear != 2

/-- `set_light`. -/
def setLight (event : LightEvent) (c : Ipc210) : Ipc210 :=
  { c with
    ipcEn := 1
    turnLamp := UInt8.ofInt event.turn
    dippedLamp := bit event.dipped
    farLamp := bit event.far
    outLineLamp := bit event.outline
    alarmLamp := bit event.alarm }

/-- `set_horn`. -/
def setHorn (event : HornEvent) (c : Ipc210) : Ipc210 :=
  { c with ipcEn := 1, horn := bit event.horn }

/-- `set_estop`. -/
def setEstop (estop : Bool) (c : Ipc210) : Ipc210 := { c with domainCtrlEpo := bit estop }

noncomputable section

/-- `to_uint16`. -/
def toUint16 (raw scale : ℝ) : UInt16 := UInt16.ofInt (truncate (raw/scale))

/-- `MAX_ANGLE`, in degrees. -/
def maxAngle : ℝ := 25.0

/-- The wheel angle in degrees and the speed that go with a yaw rate: beyond the
largest wheel angle the speed comes down with it. -/
def steer (wheelbase yawRate speed : ℝ) : ℝ×ℝ :=
  let angle := arctan (wheelbase*yawRate/speed)*180.0/π
  if maxAngle < |angle| then
    (if 0<angle then maxAngle else -maxAngle,
      min speed (abs yawRate*(wheelbase/tan (maxAngle*π/180.0))))
  else (angle,speed)

/-- `cmd_vel`, with the wheelbase and the configured top speed: refused in P and N. -/
def cmdVel (wheelbase maxSpeedKmh : ℝ) (vel : Vec4 ℝ) (c : Ipc210) : Ipc210×Bool :=
  if innerCheckHover c.targetGear=false then (c,false)
  else
    let c := { c with ipcEn := 1, brakeEn := 0, targetGear := if vel.x< -0.05 then 1 else 3 }
    let speed := hypot vel.x vel.y
    -- almost no speed but a yaw rate: turn on the spot
    if speed<0.05 ∧ 0.05 < |vel.w| then
      ({ c with
        steeringMode := 1
        targetSpeed := 0
        targetAngle := Int16.ofInt (truncate (clamp (vel.w/1.0*300.0) (-300.0) 300.0)) },true)
    else
      let steered := if 0.05 ≤ speed then steer wheelbase vel.w speed else (0,speed)
      ({ c with
        steeringMode := 0
        targetAngle := if 0.05 ≤ speed then
            Int16.ofInt (truncate (clamp (steered.1/maxAngle*300.0) (-300.0) 300.0))
          else 0
        targetSpeed := toUint16 (min (steered.2*3.6) maxSpeedKmh) 0.1 },true)

/-- The calls of the car; the top speed is read from the configuration at each
velocity command. -/
inductive CarCall where
  | land
  | loiter
  | takeoff (alt : ℝ)
  | cmdVel (vel : Vec4 ℝ) (maxSpeedKmh : ℝ)
  | setLight (event : LightEvent)
  | setHorn (event : HornEvent)
  | setEstop (estop : Bool)
  | onStep

/-- One call with its effects. -/
structure CallRecord where
  /-- The call. -/
  call : CarCall
  /-- The command record before the call. -/
  before : Ipc210
  /-- The command record after the call. -/
  after : Ipc210
  /-- The value returned, of the calls that return one. -/
  returned : Option Bool := none
  /-- The frame sent. -/
  sent : Option Ipc210 := none

/-- Effect of one call on the command record. -/
def perform (wheelbase : ℝ) (c : Ipc210) : CarCall → CallRecord
  | .land => { call := .land, before := c, after := land c, returned := some true }
  | .loiter => { call := .loiter, before := c, after := loiter c, returned := some true }
  | .takeoff alt =>
    { call := .takeoff alt, before := c, after := takeoff c, returned := some true }
  | .cmdVel vel maxSpeedKmh =>
    { call := .cmdVel vel maxSpeedKmh, before := c
      after := (cmdVel wheelbase maxSpeedKmh vel c).1
      returned := some (cmdVel wheelbase maxSpeedKmh vel c).2 }
  | .setLight event => { call := .setLight event, before := c, after := setLight event c }
  | .setHorn event => { call := .setHorn event, before := c, after := setHorn event c }
  | .setEstop estop => { call := .setEstop estop, before := c, after := setEstop estop c }
  | .onStep => { call := .onStep, before := c, after := c, sent := some c }

/-- The command record after a call. -/
def carStep (wheelbase : ℝ) (c : Ipc210) (call : CarCall) : Ipc210 :=
  (perform wheelbase c call).after

/-- All calls of a car since its construction, latest first. -/
def callHistory (wheelbase : ℝ) (calls : List CarCall) : List CallRecord :=
  (runFrom (recordStep (carStep wheelbase) fun c call => some (perform wheelbase c call))
    (constructed,[]) calls).2

end

/-- The gear that a call parks the car in. -/
def CarCall.parkGear : CarCall → Option UInt8
  | .land => some 0
  | .loiter => some 2
  | _ => none

/-- Whether a call is a takeoff. -/
def CarCall.isTakeoff : CarCall → Bool
  | .takeoff _ => true
  | _ => false

/-- The emergency stop that a call sets or clears. -/
def CarCall.estop? : CarCall → Option Bool
  | .setEstop estop => some estop
  | _ => none

/-- No takeoff since the car was constructed or last parked. -/
def Parked : List CallRecord → Prop :=
  WeakSince (fun r => r.call.parkGear.isSome=true) (fun r => r.call.isTakeoff=false)

/-- The latest of all landings, loiters and takeoffs parked the car in the gear. -/
def ParkedIn (gear : UInt8) : List CallRecord → Prop :=
  Since (fun r => r.call.parkGear=some gear)
    (fun r => r.call.parkGear=none ∧ r.call.isTakeoff=false)

/-- An emergency stop was set and has not been cleared. -/
def EmergencyStopped : List CallRecord → Prop :=
  Since (fun r => r.call.estop?=some true) (fun r => r.call.estop?≠some false)

/-- What holds of a call, given the calls before it. -/
structure Interlock (r : CallRecord) (earlier : List CallRecord) : Prop where
  /-- A parked car is sent no speed. -/
  still : Parked earlier → ∀ frame∈r.sent,frame.targetSpeed=0
  /-- After landing or loitering it is sent the brake and the gear of the latest one. -/
  braked : ∀ gear,ParkedIn gear earlier → ∀ frame∈r.sent,
    frame.brakeEn=1 ∧ frame.targetGear=gear
  /-- A parked car refuses velocity commands. -/
  refuses : Parked earlier → ∀ vel maxSpeedKmh,r.call=.cmdVel vel maxSpeedKmh →
    r.returned=some false ∧ r.after=r.before
  /-- The lights have fields of their own. -/
  light : ∀ event,r.call=.setLight event →
    r.after.ipcEn=1 ∧ ∃ turn dipped far outline alarm,r.after={ r.before with
      turnLamp := turn, dippedLamp := dipped, farLamp := far
      outLineLamp := outline, alarmLamp := alarm }
  /-- The horn has a field of its own. -/
  horn : ∀ event,r.call=.setHorn event →
    r.after.ipcEn=1 ∧ ∃ horn,r.after={ r.before with horn := horn }
  /-- The emergency stop has a bit of its own. -/
  estop : ∀ estop,r.call=.setEstop estop →
    r.after={ r.before with domainCtrlEpo := bit estop }
  /-- A set emergency stop stays in every frame until it is cleared. -/
  stopped : EmergencyStopped earlier → ∀ frame∈r.sent,frame.domainCtrlEpo=1

/-- The command record fits the calls so far. -/
structure CarInvariant (c : Ipc210) (history : List CallRecord) : Prop where
  /-- Drive by wire is always enabled. -/
  enabled : c.ipcEn=1
  /-- A parked car has no speed and stands in P or N. -/
  parked : Parked history → c.targetSpeed=0 ∧ (c.targetGear=0 ∨ c.targetGear=2)
  /-- The latest parking call left its gear and the brake. -/
  parkedIn : ∀ gear,ParkedIn gear history → c.brakeEn=1 ∧ c.targetGear=gear
  /-- A set emergency stop is in the record. -/
  stopped : EmergencyStopped history → c.domainCtrlEpo=1

/-- A constructed car is parked, but without the brake. -/
theorem carInvariant_constructed : CarInvariant constructed [] where
  enabled := rfl
  parked _ := ⟨rfl,Or.inl rfl⟩
  parkedIn _ h := absurd h not_since_nil
  stopped h := absurd h not_since_nil

/-- Whether the car is parked follows the latest call. -/
theorem parked_cons (r : CallRecord) (history : List CallRecord) :
    Parked (r::history) ↔
      r.call.parkGear.isSome=true ∨ r.call.isTakeoff=false ∧ Parked history :=
  weakSince_cons r history

/-- The gear it is parked in follows the latest call. -/
theorem parkedIn_cons (gear : UInt8) (r : CallRecord) (history : List CallRecord) :
    ParkedIn gear (r::history) ↔ r.call.parkGear=some gear ∨
      (r.call.parkGear=none ∧ r.call.isTakeoff=false) ∧ ParkedIn gear history :=
  since_cons r history

/-- A car parked in a gear is parked. -/
theorem parked_of_parkedIn {gear : UInt8} {history : List CallRecord}
    (h : ParkedIn gear history) : Parked history := by
  refine Or.inl (since_mono (fun r hr => ?_) (fun r hr => hr.2) h)
  rw [hr]
  rfl

/-- Whether it is stopped follows the latest call. -/
theorem emergencyStopped_cons (r : CallRecord) (history : List CallRecord) :
    EmergencyStopped (r::history) ↔
      r.call.estop?=some true ∨ r.call.estop?≠some false ∧ EmergencyStopped history :=
  since_cons r history

/-- A velocity command in P or N is refused and changes nothing. -/
theorem cmdVel_refused {wheelbase maxSpeedKmh : ℝ} {vel : Vec4 ℝ} {c : Ipc210}
    (h : c.targetGear=0 ∨ c.targetGear=2) : cmdVel wheelbase maxSpeedKmh vel c=(c,false) := by
  have hgear : innerCheckHover c.targetGear=false := by
    rcases h with hp|hn
    · rw [hp]
      rfl
    · rw [hn]
      rfl
  dsimp only [cmdVel]
  rw [if_pos hgear]

/-- No velocity command touches the emergency stop, and drive by wire stays enabled. -/
theorem cmdVel_frame (wheelbase maxSpeedKmh : ℝ) (vel : Vec4 ℝ) {c : Ipc210}
    (h : c.ipcEn=1) :
    (cmdVel wheelbase maxSpeedKmh vel c).1.domainCtrlEpo=c.domainCtrlEpo ∧
      (cmdVel wheelbase maxSpeedKmh vel c).1.ipcEn=1 := by
  dsimp only [cmdVel]
  by_cases hgear : innerCheckHover c.targetGear=false
  · rw [if_pos hgear]
    exact ⟨rfl,h⟩
  rw [if_neg hgear]
  by_cases hturn : hypot vel.x vel.y<0.05 ∧ 0.05 < |vel.w|
  · rw [if_pos hturn]
    exact ⟨rfl,rfl⟩
  · rw [if_neg hturn]
    exact ⟨rfl,rfl⟩

/-- A call that neither parks, nor takes off, nor drives keeps the speed, the gear
and the brake. -/
theorem perform_keeps (wheelbase : ℝ) {c : Ipc210} {call : CarCall}
    (hpark : call.parkGear=none) (htakeoff : call.isTakeoff=false)
    (hdrive : ∀ vel maxSpeedKmh,call=.cmdVel vel maxSpeedKmh →
      c.targetGear=0 ∨ c.targetGear=2) :
    (perform wheelbase c call).after.targetSpeed=c.targetSpeed ∧
      (perform wheelbase c call).after.targetGear=c.targetGear ∧
      (perform wheelbase c call).after.brakeEn=c.brakeEn := by
  cases call with
  | land => cases hpark
  | loiter => cases hpark
  | takeoff alt => cases htakeoff
  | cmdVel vel maxSpeedKmh =>
    dsimp only [perform]
    rw [cmdVel_refused (hdrive vel maxSpeedKmh rfl)]
    exact ⟨rfl,rfl,rfl⟩
  | setLight event => exact ⟨rfl,rfl,rfl⟩
  | setHorn event => exact ⟨rfl,rfl,rfl⟩
  | setEstop estop => exact ⟨rfl,rfl,rfl⟩
  | onStep => exact ⟨rfl,rfl,rfl⟩

/-- A parking call leaves its gear, the brake and no speed. -/
theorem perform_parks (wheelbase : ℝ) (c : Ipc210) {call : CarCall} {gear : UInt8}
    (hpark : call.parkGear=some gear) :
    (perform wheelbase c call).after.targetSpeed=0 ∧
      (perform wheelbase c call).after.targetGear=gear ∧
      (perform wheelbase c call).after.brakeEn=1 ∧ (gear=0 ∨ gear=2) := by
  cases call with
  | land =>
    obtain rfl := Option.some.inj hpark
    exact ⟨rfl,rfl,rfl,Or.inl rfl⟩
  | loiter =>
    obtain rfl := Option.some.inj hpark
    exact ⟨rfl,rfl,rfl,Or.inr rfl⟩
  | _ => cases hpark

/-- Only its own call changes the emergency stop. -/
theorem perform_estop (wheelbase : ℝ) {c : Ipc210} (call : CarCall) (henabled : c.ipcEn=1) :
    (perform wheelbase c call).after.domainCtrlEpo=(call.estop?.map bit).getD c.domainCtrlEpo ∧
      (perform wheelbase c call).after.ipcEn=1 := by
  cases call with
  | cmdVel vel maxSpeedKmh => exact cmdVel_frame wheelbase maxSpeedKmh vel henabled
  | setEstop estop => exact ⟨rfl,henabled⟩
  | onStep => exact ⟨rfl,henabled⟩
  | _ => exact ⟨rfl,rfl⟩

/-- A record names its call and the state it was made in. -/
theorem perform_call (wheelbase : ℝ) (c : Ipc210) (call : CarCall) :
    (perform wheelbase c call).call=call ∧ (perform wheelbase c call).before=c := by
  cases call <;> exact ⟨rfl,rfl⟩

/-- A frame sent is the command record. -/
theorem perform_sent {wheelbase : ℝ} {c frame : Ipc210} {call : CarCall}
    (h : frame∈(perform wheelbase c call).sent) : frame=c := by
  cases call with
  | onStep => exact (Option.mem_some.mp h).symm
  | _ => cases h

/-- Every call keeps the command record in step with the history. -/
theorem carInvariant_step (wheelbase : ℝ) {c : Ipc210} {history : List CallRecord}
    (h : CarInvariant c history) (call : CarCall) :
    CarInvariant (carStep wheelbase c call) (perform wheelbase c call::history) := by
  have hcall : (perform wheelbase c call).call=call := (perform_call wheelbase c call).1
  obtain ⟨hestop,henabled⟩ := perform_estop wheelbase call h.enabled
  refine ⟨henabled,fun hparked => ?_,fun gear hparked => ?_,fun hstopped => ?_⟩
  · rw [parked_cons,hcall] at hparked
    cases hgear : call.parkGear with
    | some gear =>
      obtain ⟨hspeed,htarget,_,hpn⟩ := perform_parks wheelbase c hgear
      exact ⟨hspeed,by rwa [carStep,htarget]⟩
    | none =>
      rw [hgear] at hparked
      obtain ⟨htakeoff,hbefore⟩ := hparked.resolve_left (by simp)
      obtain ⟨hspeed,hpn⟩ := h.parked hbefore
      obtain ⟨hspeed',hgear',_⟩ := perform_keeps wheelbase hgear htakeoff
        (fun _ _ _ => hpn)
      exact ⟨hspeed'.trans hspeed,by rwa [carStep,hgear']⟩
  · rw [parkedIn_cons,hcall] at hparked
    rcases hparked with hgear|⟨⟨hgear,htakeoff⟩,hbefore⟩
    · obtain ⟨_,htarget,hbrake,_⟩ := perform_parks wheelbase c hgear
      exact ⟨hbrake,htarget⟩
    · obtain ⟨hbrake,htarget⟩ := h.parkedIn gear hbefore
      have hsince : Parked history := parked_of_parkedIn hbefore
      obtain ⟨_,hgear',hbrake'⟩ := perform_keeps wheelbase hgear htakeoff
        (fun _ _ _ => (h.parked hsince).2)
      exact ⟨hbrake'.trans hbrake,hgear'.trans htarget⟩
  · rw [emergencyStopped_cons,hcall] at hstopped
    rw [carStep,hestop]
    rcases hstopped with hset|⟨hclear,hbefore⟩
    · rw [hset]
      rfl
    · cases hown : call.estop? with
      | none => exact h.stopped hbefore
      | some estop =>
        cases estop with
        | true => rfl
        | false => exact absurd hown hclear

/-- Every call obeys the interlock in a state that fits the history. -/
theorem interlock_step (wheelbase : ℝ) {c : Ipc210} {history : List CallRecord}
    (h : CarInvariant c history) (call : CarCall) :
    Interlock (perform wheelbase c call) history := by
  obtain ⟨hcall,_⟩ := perform_call wheelbase c call
  refine ⟨fun hparked frame hframe => ?_,fun gear hparked frame hframe => ?_,
    fun hparked vel maxSpeedKmh hvel => ?_,fun event hevent => ?_,fun event hevent => ?_,
    fun estop hevent => ?_,fun hstopped frame hframe => ?_⟩
  · rw [perform_sent hframe]
    exact (h.parked hparked).1
  · rw [perform_sent hframe]
    exact h.parkedIn gear hparked
  · obtain rfl := hcall.symm.trans hvel
    dsimp only [perform]
    rw [cmdVel_refused (h.parked hparked).2]
    exact ⟨rfl,rfl⟩
  · obtain rfl := hcall.symm.trans hevent
    refine ⟨rfl,UInt8.ofInt event.turn,bit event.dipped,bit event.far,bit event.outline,
      bit event.alarm,?_⟩
    dsimp only [perform,setLight]
    rw [h.enabled]
  · obtain rfl := hcall.symm.trans hevent
    refine ⟨rfl,bit event.horn,?_⟩
    dsimp only [perform,setHorn]
    rw [h.enabled]
  · obtain rfl := hcall.symm.trans hevent
    rfl
  · rw [perform_sent hframe]
    exact h.stopped hstopped

/-- A parked car stays parked, in every order of calls. -/
theorem parked_stays_parked (wheelbase : ℝ) (calls : List CarCall) :
    Throughout Interlock (callHistory wheelbase calls) := by
  refine recorded_throughout (fun _ _ => True) CarInvariant ?_ ?_ calls
    carInvariant_constructed (guarded_of_forall (fun _ _ => trivial) _ calls)
  · intro c history call h _
    exact carInvariant_step wheelbase h call
  · intro c history call r h _ hr
    obtain rfl := Option.some.inj hr
    exact interlock_step wheelbase h call

end Dankong.Car

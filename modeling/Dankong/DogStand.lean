import Mathlib.Algebra.Order.Floor.Defs
import Mathlib.Data.List.Nodup
import Mathlib.Data.Rat.Floor
import Dankong.History
import Dankong.Vectors

/-!
# Stand toggle of the robot dog

One command of the dog toggles between standing and lying. Takeoff sends it at
once, landing sends it from a callback that is polled until the dog has stopped.
Which way the toggle goes is decided by the posture, and the posture is known from
reports only: takeoff looks at the last report, landing when it is requested but
not when its callback fires.
-/

namespace Dankong.DogStand

open History Runs

/-- `state_map`: the basic states the dog reports. -/
def stateMap : List (UInt8×String) :=
  [(0,"趴下状态"),(1,"正在起立状态"),(2,"初始站立状态"),(3,"力控站立状态"),(4,"踏步状态"),
    (5,"正在趴下状态"),(6,"软急停/摔倒状态"),(0x10,"L模式")]

/-- A landing in progress. -/
structure LandCallback where
  /-- Which of the landings it belongs to. -/
  number : ℕ
  /-- `idx` of the next poll. -/
  idx : ℕ := 0
  deriving DecidableEq

/-- Who sends a toggle. -/
inductive Sender where
  | takeoff
  | land (number : ℕ)
  deriving DecidableEq

/-- What a call hands to the dog or to the tracker. -/
inductive DogOutput where
  /-- `TOGGLE_STAND_DOWN`, and on whose behalf. -/
  | toggleStandDown (sender : Sender)
  /-- `AXIS_COMMAND_NO_DEAD_ZONE`. -/
  | axisCommand (leftX leftY rightX rightY : ℤ)
  /-- The zero velocity command of `loiter`. -/
  | sendZeroVelCmd
  deriving DecidableEq

/-- `Dog` with the part of its context that it reads. -/
structure Dog (R : Type*) [Zero R] where
  /-- `dog_state`: the posture last reported. -/
  dogState : UInt8 := 0
  /-- `dog_state_name`. -/
  dogStateName : String := "未知状态"
  /-- `gait_state`. -/
  gaitState : UInt8 := 0
  /-- `cmd_vel_`: the velocity last commanded. -/
  cmdVel : Vec4 R := .zero
  /-- The landing callbacks that the engine still polls. -/
  pending : List LandCallback := []
  /-- Number of landings begun. -/
  lands : ℕ := 0

/-- The calls of the dog, the polls of a landing callback and the packets. -/
inductive DogCall (R : Type*) where
  | takeoff (alt : R)
  | land
  | cmdVel (vel : Vec4 R)
  | poll (position : ℕ)
  | motionStateReport (basicState gaitState : UInt8)
  | badReport

/-- An output and the posture it was made in. -/
structure Sent where
  /-- The posture last reported. -/
  posture : UInt8
  /-- The output. -/
  output : DogOutput
  deriving DecidableEq

variable {R : Type*} [Field R] [LinearOrder R]

/-- `isZero` of a velocity, with the library's tolerance. -/
def isZero (vel : Vec4 R) : Bool :=
  decide (|vel.x| ≤ 1e-12 ∧ |vel.y| ≤ 1e-12 ∧ |vel.z| ≤ 1e-12 ∧ |vel.w| ≤ 1e-12)

/-- Whether a landing callback asks to be polled again: while the dog is commanded
to move, except at the last poll, and during the first two seconds. -/
def waits (vel : Vec4 R) (idx : ℕ) : Bool :=
  (!isZero vel && idx != 4999) || decide (idx≤20)

/-- `loiter`. -/
def loiter : DogOutput := .sendZeroVelCmd

/-- `takeoff`: already standing dogs are left alone. -/
def takeoff (d : Dog R) : Option DogOutput :=
  if d.dogState=2 ∨ d.dogState=3 then none else some (.toggleStandDown .takeoff)

/-- `land`: already lying dogs are left alone. -/
def land (d : Dog R) : Dog R×Option DogOutput :=
  if d.dogState=0 ∨ d.dogState=5 then (d,none)
  else ({ d with pending := d.pending++[⟨d.lands,0⟩], lands := d.lands+1 },some loiter)

/-- One poll of the landing callback at the given position. -/
def poll (d : Dog R) (position : ℕ) : Dog R×Option DogOutput :=
  match d.pending[position]? with
  | none => (d,none)
  | some callback =>
    if waits d.cmdVel callback.idx=true then
      ({ d with pending := d.pending.set position ⟨callback.number,callback.idx+1⟩ },none)
    else
      ({ d with pending := d.pending.eraseIdx position },
        some (.toggleStandDown (.land callback.number)))

/-- A poll of a callback that has ended does nothing. -/
theorem poll_none {d : Dog R} {position : ℕ} (h : d.pending[position]?=none) :
    poll d position=(d,none) := by
  dsimp only [poll]
  rw [h]

/-- A callback that waits counts the poll. -/
theorem poll_waits {d : Dog R} {position : ℕ} {callback : LandCallback}
    (h : d.pending[position]?=some callback) (hwaits : waits d.cmdVel callback.idx=true) :
    poll d position=
      ({ d with pending := d.pending.set position ⟨callback.number,callback.idx+1⟩ },none) := by
  dsimp only [poll]
  rw [h]
  dsimp only
  rw [if_pos hwaits]

/-- A callback that no longer waits sends the toggle and ends. -/
theorem poll_fires {d : Dog R} {position : ℕ} {callback : LandCallback}
    (h : d.pending[position]?=some callback) (hwaits : waits d.cmdVel callback.idx=false) :
    poll d position=
      ({ d with pending := d.pending.eraseIdx position },
        some (.toggleStandDown (.land callback.number))) := by
  dsimp only [poll]
  rw [h]
  dsimp only
  rw [if_neg (by rw [hwaits]; exact Bool.false_ne_true)]

/-- Handler of `MOTION_STATE_REPORT`; an unknown basic state is stored as -1. -/
def motionStateReport (basicState gaitState : UInt8) (d : Dog R) : Dog R :=
  match stateMap.lookup basicState with
  | none => { d with gaitState := gaitState, dogStateName := "未知状态", dogState := -1 }
  | some name => { d with gaitState := gaitState, dogStateName := name, dogState := basicState }

section

variable [FloorRing R]

/-- One axis of the command: scaled, clamped and truncated. -/
def toAxis (v scale : R) : ℤ :=
  let clamped := if v*scale< -1000.0 then -1000.0 else if 1000.0 < v*scale then 1000.0 else v*scale
  if 0≤clamped then ⌊clamped⌋ else ⌈clamped⌉

/-- `vel_to_axis`, with the default arguments. -/
def velToAxis (vx vy yawRate : R) : DogOutput :=
  .axisCommand (toAxis vx (1000.0/max 1.0 1e-6)) (toAxis vy (1000.0/max 1.0 1e-6))
    (toAxis (-yawRate) (1000.0/max 1.0 1e-6)) 0

/-- Effect of one call. -/
def perform (d : Dog R) : DogCall R → Dog R×Option DogOutput
  | .takeoff _ => (d,takeoff d)
  | .land => land d
  | .cmdVel vel => ({ d with cmdVel := vel },some (velToAxis vel.y vel.x vel.w))
  | .poll position => poll d position
  | .motionStateReport basicState gaitState => (motionStateReport basicState gaitState d,none)
  | .badReport => (d,none)

/-- The dog after a call. -/
def dogStep (d : Dog R) (call : DogCall R) : Dog R := (perform d call).1

/-- The output of a call, with the posture it was made in. -/
def dogSent (d : Dog R) (call : DogCall R) : Option Sent :=
  (perform d call).2.map fun output => ⟨d.dogState,output⟩

/-- All outputs of a run, latest first. -/
def sentBy (calls : List (DogCall R)) : List Sent :=
  (runFrom (recordStep dogStep dogSent) ({},[]) calls).2

end

/-- The landing that an output belongs to. -/
def Sent.land? (s : Sent) : Option ℕ :=
  match s.output with
  | .toggleStandDown (.land number) => some number
  | _ => none

/-- Lying. -/
def Lying (posture : UInt8) : Prop := posture=0

/-- Standing or stepping. -/
def Upright (posture : UInt8) : Prop := posture=2 ∨ posture=3 ∨ posture=4

/-- A toggle is sent in the posture that it is meant to leave. -/
def InPosture (s : Sent) : Prop :=
  match s.output with
  | .toggleStandDown .takeoff => Lying s.posture
  | .toggleStandDown (.land _) => Upright s.posture
  | _ => True

/-- Every toggle of a run is sent in its posture, and no landing sends two. -/
def NeverWrong (sent : List Sent) : Prop :=
  (∀ s∈sent,InPosture s) ∧ (sent.filterMap Sent.land?).Nodup

/-- Takeoff is requested of a dog that lies or already stands, and a landing
callback that no longer waits finds the dog standing or stepping. -/
def PostureFits (d : Dog R) : DogCall R → Prop
  | .takeoff _ => Lying d.dogState ∨ d.dogState=2 ∨ d.dogState=3
  | .poll position => ∀ callback∈d.pending[position]?,
      waits d.cmdVel callback.idx=false → Upright d.dogState
  | _ => True

variable [FloorRing R]

/-- A call sends its toggle in the right posture exactly if the posture fits. -/
theorem dogSent_inPosture_iff (d : Dog R) (call : DogCall R) :
    (∀ s∈dogSent d call,InPosture s) ↔ PostureFits d call := by
  cases call with
  | takeoff alt =>
    dsimp only [dogSent,perform,takeoff,PostureFits]
    by_cases hstands : d.dogState=2 ∨ d.dogState=3
    · rw [if_pos hstands]
      exact ⟨fun _ => Or.inr hstands,fun _ _ h => (nomatch h)⟩
    · rw [if_neg hstands]
      constructor
      · intro h
        exact Or.inl (h _ rfl)
      · intro h s hs
        obtain rfl := Option.some.inj hs
        exact h.resolve_right hstands
  | land =>
    dsimp only [dogSent,perform,land,PostureFits]
    refine iff_of_true (fun s hs => ?_) trivial
    split_ifs at hs
    · cases hs
    · obtain rfl := Option.some.inj hs
      exact trivial
  | cmdVel vel =>
    refine iff_of_true (fun s hs => ?_) trivial
    obtain rfl := Option.some.inj hs
    exact trivial
  | poll position =>
    dsimp only [dogSent,perform,PostureFits]
    cases hcallback : d.pending[position]? with
    | none =>
      rw [poll_none hcallback]
      exact iff_of_true (fun _ h => (nomatch h)) (fun _ h => (nomatch h))
    | some callback =>
      cases hwaits : waits d.cmdVel callback.idx with
      | true =>
        rw [poll_waits hcallback hwaits]
        refine iff_of_true (fun _ h => (nomatch h)) (fun other hother hdue => ?_)
        obtain rfl := Option.some.inj hother
        rw [hwaits] at hdue
        cases hdue
      | false =>
        rw [poll_fires hcallback hwaits]
        constructor
        · intro h other hother _
          exact h _ rfl
        · intro h s hs
          obtain rfl := Option.some.inj hs
          exact h callback rfl hwaits
  | motionStateReport basicState gaitState => exact iff_of_true (fun _ h => (nomatch h)) trivial
  | badReport => exact iff_of_true (fun _ h => (nomatch h)) trivial

/-- Every landing is still polled or has sent its toggle, never both. -/
structure LandsOnce (d : Dog R) (sent : List Sent) : Prop where
  /-- No landing appears twice. -/
  distinct : (d.pending.map LandCallback.number++sent.filterMap Sent.land?).Nodup
  /-- All have been begun. -/
  begun : ∀ n∈d.pending.map LandCallback.number++sent.filterMap Sent.land?,n<d.lands

/-- Another poll of a waiting callback keeps its landing. -/
theorem numbers_set {pending : List LandCallback} {position : ℕ} {callback : LandCallback}
    (h : pending[position]?=some callback) (idx : ℕ) :
    (pending.set position ⟨callback.number,idx⟩).map LandCallback.number=
      pending.map LandCallback.number := by
  obtain ⟨hlt,rfl⟩ := List.getElem?_eq_some_iff.mp h
  have hlt' : position<(pending.map LandCallback.number).length := by
    rw [List.length_map]
    exact hlt
  have hget : (pending.map LandCallback.number)[position]=pending[position].number :=
    List.getElem_map LandCallback.number
  rw [List.map_set,←hget]
  exact List.set_getElem_self hlt'

/-- A callback that fires hands its landing over. -/
theorem numbers_eraseIdx {pending : List LandCallback} {position : ℕ} {callback : LandCallback}
    (h : pending[position]?=some callback) (served : List ℕ) :
    ((pending.eraseIdx position).map LandCallback.number++callback.number::served).Perm
      (pending.map LandCallback.number++served) := by
  obtain ⟨hlt,rfl⟩ := List.getElem?_eq_some_iff.mp h
  have hperm : (pending[position]::pending.eraseIdx position).Perm pending :=
    List.getElem_cons_eraseIdx_perm hlt
  exact List.perm_middle.trans ((hperm.map LandCallback.number).append_right served)

omit [LinearOrder R] [FloorRing R] in
/-- The invariant depends on the landings only up to their order. -/
theorem landsOnce_of_perm {d d' : Dog R} {sent sent' : List Sent} (h : LandsOnce d sent)
    (hlands : d'.lands=d.lands)
    (hperm : (d'.pending.map LandCallback.number++sent'.filterMap Sent.land?).Perm
      (d.pending.map LandCallback.number++sent.filterMap Sent.land?)) : LandsOnce d' sent' where
  distinct := hperm.nodup_iff.mpr h.distinct
  begun n hn := by
    rw [hlands]
    exact h.begun n (hperm.mem_iff.mp hn)

/-- Every call keeps each landing to one toggle. -/
theorem landsOnce_step (d : Dog R) (sent : List Sent) (call : DogCall R) (h : LandsOnce d sent) :
    LandsOnce (dogStep d call) ((dogSent d call).toList++sent) := by
  cases call with
  | takeoff alt =>
    dsimp only [dogStep,dogSent,perform,takeoff]
    split_ifs
    · exact h
    · exact landsOnce_of_perm h rfl (List.Perm.refl _)
  | land =>
    dsimp only [dogStep,dogSent,perform,land]
    split_ifs
    · exact h
    · have hfresh : d.lands∉d.pending.map LandCallback.number++sent.filterMap Sent.land? :=
        fun hin => lt_irrefl _ (h.begun d.lands hin)
      have hnumbers : ((d.pending++[(⟨d.lands,0⟩ : LandCallback)]).map LandCallback.number++
          sent.filterMap Sent.land?).Perm
          (d.lands::(d.pending.map LandCallback.number++sent.filterMap Sent.land?)) := by
        rw [List.map_append,List.append_assoc]
        exact List.perm_middle
      refine ⟨hnumbers.nodup_iff.mpr (List.nodup_cons.mpr ⟨hfresh,h.distinct⟩),fun n hn => ?_⟩
      rcases List.mem_cons.mp (hnumbers.mem_iff.mp hn) with rfl|hin
      · dsimp only
        omega
      · have hbelow := h.begun n hin
        dsimp only
        omega
  | cmdVel vel => exact landsOnce_of_perm h rfl (List.Perm.refl _)
  | poll position =>
    dsimp only [dogStep,dogSent,perform]
    cases hcallback : d.pending[position]? with
    | none =>
      rw [poll_none hcallback]
      exact h
    | some callback =>
      cases hwaits : waits d.cmdVel callback.idx with
      | true =>
        rw [poll_waits hcallback hwaits]
        refine landsOnce_of_perm h rfl ?_
        dsimp only
        rw [numbers_set hcallback]
        exact List.Perm.refl _
      | false =>
        rw [poll_fires hcallback hwaits]
        exact landsOnce_of_perm h rfl
          (numbers_eraseIdx hcallback (sent.filterMap Sent.land?))
  | motionStateReport basicState gaitState =>
    dsimp only [dogStep,dogSent,perform,motionStateReport]
    split
    · exact landsOnce_of_perm h rfl (List.Perm.refl _)
    · exact landsOnce_of_perm h rfl (List.Perm.refl _)
  | badReport => exact h

/-- In every run each landing sends at most one toggle. -/
theorem land_toggles_once (calls : List (DogCall R)) :
    ((sentBy calls).filterMap Sent.land?).Nodup := by
  have hstart : LandsOnce ({} : Dog R) [] := ⟨List.nodup_nil,fun _ h => (nomatch h)⟩
  have hrun : LandsOnce (runFrom (recordStep dogStep dogSent) (({} : Dog R),[]) calls).1
      (sentBy calls) :=
    recorded_invariant LandsOnce (fun d sent call h => landsOnce_step d sent call h) calls hstart
  exact hrun.distinct.of_append_right

/-- All toggles of a run are sent in their posture exactly if the posture fits at
every takeoff and at every landing callback that fires. -/
theorem sentBy_inPosture_iff (calls : List (DogCall R)) :
    (∀ s∈sentBy calls,InPosture s) ↔ Guarded dogStep PostureFits {} calls := by
  have hrecord : (∀ s∈sentBy calls,InPosture s) ↔ (∀ s∈([] : List Sent),InPosture s) ∧
      Guarded dogStep (fun d call => ∀ s∈dogSent d call,InPosture s) {} calls :=
    recorded_forall_iff calls ({} : Dog R) []
  have hcongr : Guarded dogStep (fun d call => ∀ s∈dogSent d call,InPosture s) {} calls ↔
      Guarded dogStep PostureFits {} calls := guarded_congr dogSent_inPosture_iff {} calls
  rw [hrecord,hcongr]
  exact and_iff_right fun _ h => (nomatch h)

/-- Requests come in a steady posture, and while a landing is in progress the dog
keeps reporting that it is up. -/
def Steady (d : Dog R) : DogCall R → Prop
  | .takeoff _ => Lying d.dogState ∨ d.dogState=2 ∨ d.dogState=3
  | .land => d.dogState=0 ∨ d.dogState=5 ∨ Upright d.dogState
  | .motionStateReport basicState _ => d.pending≠[] → Upright basicState
  | _ => True

omit [LinearOrder R] [FloorRing R] in
/-- A reported upright posture is stored as it is. -/
theorem motionStateReport_upright {basicState : UInt8} (gaitState : UInt8) (d : Dog R)
    (h : Upright basicState) : (motionStateReport basicState gaitState d).dogState=basicState := by
  rcases h with rfl|rfl|rfl <;> rfl

/-- In a steady run the dog is up whenever a landing is in progress. -/
theorem upright_step (d : Dog R) (call : DogCall R) (h : d.pending≠[] → Upright d.dogState)
    (hsteady : Steady d call) :
    (dogStep d call).pending≠[] → Upright (dogStep d call).dogState := by
  cases call with
  | takeoff alt => exact h
  | land =>
    dsimp only [dogStep,perform,land]
    split_ifs with hlies
    · exact h
    · intro _
      exact (or_assoc.mpr hsteady).resolve_left hlies
  | cmdVel vel => exact h
  | poll position =>
    dsimp only [dogStep,perform]
    cases hcallback : d.pending[position]? with
    | none =>
      rw [poll_none hcallback]
      exact h
    | some callback =>
      have hsome : d.pending≠[] := by
        intro hnil
        rw [hnil] at hcallback
        cases hcallback
      have hup : Upright d.dogState := h hsome
      cases hwaits : waits d.cmdVel callback.idx with
      | true =>
        rw [poll_waits hcallback hwaits]
        exact fun _ => hup
      | false =>
        rw [poll_fires hcallback hwaits]
        exact fun _ => hup
  | motionStateReport basicState gaitState =>
    have hpending : (motionStateReport basicState gaitState d).pending=d.pending := by
      dsimp only [motionStateReport]
      split <;> rfl
    intro hsome
    have hreport : Upright basicState := hsteady (by rwa [←hpending])
    have hstate := motionStateReport_upright gaitState d hreport
    dsimp only [dogStep,perform]
    rw [hstate]
    exact hreport
  | badReport => exact h

/-- Steady runs fit: it is enough that requests come in a steady posture and the
dog stays up until its landing has fired. -/
theorem postureFits_of_steady (calls : List (DogCall R))
    (h : Guarded dogStep Steady {} calls) : Guarded dogStep PostureFits {} calls := by
  refine guarded_of_invariant (P := fun d : Dog R => d.pending≠[] → Upright d.dogState)
    upright_step (fun d call hup hsteady => ?_) calls (fun hsome => absurd rfl hsome) h
  cases call with
  | takeoff alt => exact hsteady
  | poll position =>
    intro callback hcallback _
    refine hup fun hnil => ?_
    rw [hnil] at hcallback
    cases hcallback
  | _ => exact trivial

/-- The toggle is never sent in the wrong posture exactly in the runs in which the
posture fits at every takeoff and at every landing callback that fires. -/
theorem never_wrong_iff (calls : List (DogCall R)) :
    NeverWrong (sentBy calls) ↔ Guarded dogStep PostureFits {} calls := by
  rw [←sentBy_inPosture_iff calls]
  exact and_iff_left (land_toggles_once calls)

/-- Two landings requested of one standing dog: the first makes it lie, and the
callback of the second fires after the dog has reported that it lies. -/
def overlappingLands : List (DogCall ℚ) :=
  [.motionStateReport 2 0,.land,.land]++List.replicate 22 (.poll 0)++
    [.motionStateReport 5 0,.motionStateReport 0 0]++List.replicate 22 (.poll 0)

/-- A takeoff requested of a stepping dog. -/
def takeoffWhileStepping : List (DogCall ℚ) := [.motionStateReport 4 0,.takeoff 1]

/-- The second landing makes the lying dog stand, and the takeoff makes the
stepping dog lie. -/
theorem wrong_toggles :
    ⟨0,.toggleStandDown (.land 1)⟩∈sentBy overlappingLands ∧
      ⟨4,.toggleStandDown .takeoff⟩∈sentBy takeoffWhileStepping ∧
      ¬NeverWrong (sentBy overlappingLands) ∧ ¬NeverWrong (sentBy takeoffWhileStepping) := by
  have hland : ⟨0,.toggleStandDown (.land 1)⟩∈sentBy overlappingLands := by decide +kernel
  have htakeoff : ⟨4,.toggleStandDown .takeoff⟩∈sentBy takeoffWhileStepping := by decide +kernel
  refine ⟨hland,htakeoff,fun h => ?_,fun h => ?_⟩
  · exact absurd (h.1 _ hland) (by dsimp only [InPosture,Upright]; decide)
  · exact absurd (h.1 _ htakeoff) (by dsimp only [InPosture,Lying]; decide)

end Dankong.DogStand

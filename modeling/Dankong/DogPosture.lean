import Dankong.DogStand

/-!
# Posture checks of the robot dog

`check_hover` and `is_landed` look the reported posture up in a set of 24 bits.
The handler of `MOTION_STATE_REPORT` stores the basic states it knows, which have a
bit each, and stores 255 for any other, which has none: a check in that posture
throws. An ill-formed packet leaves the posture as it is.
-/

namespace Dankong.DogStand

open Runs

/-- `std::bitset::test`; `none` stands for `std::out_of_range`. -/
def test {width : ℕ} (bits : BitVec width) (pos : ℕ) : Option Bool :=
  if pos<width then some (bits.getLsbD pos) else none

/-- `hover_state_`: the postures of a dog on its feet. -/
def hoverState : BitVec 24 := [1,2,3,4,0x10].foldl (fun bits pos => bits ||| (1#24<<<pos)) 0#24

/-- The part of `HoverArgs` that the dog reads. -/
structure HoverArgs where
  /-- `dog_state`. -/
  dogState : Option ℕ := none

/-- `inner_check_hover`; `none` stands for an exception, also that of `value`. -/
def innerCheckHover (args : HoverArgs) : Option Bool := args.dogState.bind (test hoverState)

/-- `inner_is_landed`. -/
def innerIsLanded (args : HoverArgs) : Option Bool := (innerCheckHover args).map not

/-- `MotionStateData`, the fields that the handler reads. -/
structure MotionStateData where
  /-- `basic_state`. -/
  basicState : UInt8
  /-- `gait_state`. -/
  gaitState : UInt8

/-- `parameter_size` of the header: four bytes, least significant first. -/
def parameterSize (packet : List UInt8) : ℕ :=
  ((packet.drop 4).take 4).foldr (fun byte rest => byte.toNat+256*rest) 0

/-- `UdpPacketView` and its `get_payload`: a header of 12 bytes and a payload of 60. -/
def getPayload (packet : List UInt8) : Except String (Option MotionStateData) :=
  if packet.length<12 then .error "Packet too small for header"
  else if parameterSize packet≠60 ∨ packet.length<12+60 then .ok none
  else .ok (some ⟨packet.getD 12 0,packet.getD 13 0⟩)

/-- The basic state that a packet reports, if it is well formed. -/
def basicState? (packet : List UInt8) : Option UInt8 :=
  match getPayload packet with
  | .ok payload => payload.map MotionStateData.basicState
  | .error _ => none

/-- The basic state last reported. -/
def lastBasicState (packets : List (List UInt8)) : Option UInt8 :=
  (packets.filterMap basicState?).getLast?

section

variable {R : Type*} [Field R]

/-- `check_hover` of the dog. -/
def checkHover (d : Dog R) : Option Bool := innerCheckHover { dogState := some d.dogState.toNat }

/-- `is_landed` of the dog. -/
def isLanded (d : Dog R) : Option Bool := innerIsLanded { dogState := some d.dogState.toNat }

/-- Handler of `MOTION_STATE_REPORT`, from the bytes of the packet on. -/
def onMotionStateReport (d : Dog R) (packet : List UInt8) : Dog R :=
  match getPayload packet with
  | .ok (some payload) => motionStateReport payload.basicState payload.gaitState d
  | _ => d

/-- Neither check throws. -/
def ChecksReturn (d : Dog R) : Prop := (checkHover d).isSome=true ∧ (isLanded d).isSome=true

/-- The posture that a basic state is stored as. -/
def storedPosture (basicState : UInt8) : UInt8 :=
  if (stateMap.lookup basicState).isSome=true then basicState else -1

/-- A packet stores the posture it reports, if any. -/
theorem onMotionStateReport_dogState (d : Dog R) (packet : List UInt8) :
    (onMotionStateReport d packet).dogState=
      ((basicState? packet).map storedPosture).getD d.dogState := by
  dsimp only [onMotionStateReport,basicState?]
  cases getPayload packet with
  | error text => rfl
  | ok payload =>
    cases payload with
    | none => rfl
    | some payload =>
      dsimp only [motionStateReport,storedPosture,Option.map_some,Option.getD_some]
      cases stateMap.lookup payload.basicState <;> rfl

/-- After any packets the posture is that of the basic state last reported. -/
theorem run_dogState (d : Dog R) (packets : List (List UInt8)) :
    (runFrom onMotionStateReport d packets).dogState=
      ((lastBasicState packets).map storedPosture).getD d.dogState := by
  induction packets generalizing d with
  | nil => rfl
  | cons packet rest ih =>
    rw [runFrom_cons,ih,onMotionStateReport_dogState]
    dsimp only [lastBasicState]
    cases hreported : basicState? packet with
    | none => rw [List.filterMap_cons_none hreported,Option.map_none,Option.getD_none]
    | some basicState =>
      rw [List.filterMap_cons_some hreported,List.getLast?_cons]
      cases (rest.filterMap basicState?).getLast? <;> rfl

/-- The checks return exactly if the posture has a bit. -/
theorem checksReturn_iff_lt (d : Dog R) : ChecksReturn d ↔ d.dogState.toNat<24 := by
  have htest : (test hoverState d.dogState.toNat).isSome=true ↔ d.dogState.toNat<24 := by
    rw [test]
    split_ifs with hlt
    · exact iff_of_true rfl hlt
    · exact iff_of_false Bool.false_ne_true hlt
  have hlanded : (isLanded d).isSome=(checkHover d).isSome := Option.isSome_map
  rw [ChecksReturn,hlanded,and_self]
  exact htest

end

/-- A basic state has a bit exactly if it is known. -/
theorem storedPosture_lt_iff (basicState : UInt8) :
    (storedPosture basicState).toNat<24 ↔ basicState∈stateMap.map Prod.fst := by
  rw [storedPosture]
  by_cases hknown : basicState∈stateMap.map Prod.fst
  · have hfound : (stateMap.lookup basicState).isSome=true := by
      rw [Option.isSome_iff_ne_none]
      intro hnone
      rw [List.lookup_eq_none_iff] at hnone
      obtain ⟨entry,hentry,rfl⟩ := List.mem_map.mp hknown
      exact bne_iff_ne.mp (hnone entry hentry) rfl
    have hsmall : (stateMap.map Prod.fst).all (fun b => decide (b.toNat<24))=true := by decide
    rw [if_pos hfound]
    exact iff_of_true (of_decide_eq_true (List.all_eq_true.mp hsmall basicState hknown)) hknown
  · have hmiss : (stateMap.lookup basicState).isSome=false := by
      rw [Option.isSome_eq_false_iff,Option.isNone_iff_eq_none,List.lookup_eq_none_iff]
      intro entry hentry
      rw [bne_iff_ne]
      intro heq
      rw [heq] at hknown
      exact hknown (List.mem_map_of_mem hentry)
    rw [if_neg (Bool.eq_false_iff.mp hmiss)]
    exact iff_of_false (by decide) hknown

/-- After any packets the checks return exactly if the basic state last reported is
one of the table, or none has been reported yet. -/
theorem checksReturn_iff {R : Type*} [Field R] (packets : List (List UInt8)) :
    ChecksReturn (runFrom onMotionStateReport ({} : Dog R) packets) ↔
      ∀ basicState∈lastBasicState packets,basicState∈stateMap.map Prod.fst := by
  rw [checksReturn_iff_lt,run_dogState]
  cases hlast : lastBasicState packets with
  | none => exact iff_of_true (Nat.zero_lt_succ 23) (fun _ h => nomatch h)
  | some basicState =>
    rw [Option.map_some,Option.getD_some,storedPosture_lt_iff]
    constructor
    · intro hknown other hother
      rwa [←Option.some.inj hother]
    · intro hknown
      exact hknown basicState rfl

/-- A well-formed packet with basic state 7. -/
def unknownReport : List UInt8 := [0x09,0x10,0,0,60,0,0,0,1,0,0,0,7]++List.replicate 59 0

/-- The check after such a packet throws. -/
theorem unknownReport_throws :
    ¬∀ packets,ChecksReturn (runFrom onMotionStateReport ({} : Dog ℚ) packets) := by
  intro hall
  have hbit := (checksReturn_iff_lt _).mp (hall [unknownReport])
  exact absurd hbit (by decide)

end Dankong.DogStand

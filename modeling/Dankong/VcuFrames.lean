import Dankong.BitFields
import Dankong.CarCommand

/-!
# CAN frames of the chassis

The frames of `ipc_vcu_zrd`: 0x210 carries the command record to the chassis, 0x201,
0x203 and 0x260 bring its state back. Every frame has eight bytes, shared by small
numbers under disjoint masks. Packing and unpacking undo each other up to the width
of the fields and the bits that no field uses.
-/

namespace Dankong.Car

open BitFields History Runs

/-- `pack_left_shift_u8`. -/
def packLeftShiftU8 (value shift mask : UInt8) : UInt8 := put value shift mask

/-- `pack_left_shift_u16`. -/
def packLeftShiftU16 (value : UInt16) (shift mask : UInt8) : UInt8 :=
  (value<<<shift.toUInt16).toUInt8&&&mask

/-- `pack_right_shift_u16`. -/
def packRightShiftU16 (value : UInt16) (shift mask : UInt8) : UInt8 :=
  (value>>>shift.toUInt16).toUInt8&&&mask

/-- `unpack_right_shift_u8`. -/
def unpackRightShiftU8 (value shift mask : UInt8) : UInt8 := get value shift mask

/-- `unpack_right_shift_u16`. -/
def unpackRightShiftU16 (value shift mask : UInt8) : UInt16 :=
  (value&&&mask).toUInt16>>>shift.toUInt16

/-- `unpack_left_shift_u16`. -/
def unpackLeftShiftU16 (value shift mask : UInt8) : UInt16 :=
  (value&&&mask).toUInt16<<<shift.toUInt16

/-- `ipc_vcu_zrd_ipc_210_pack`: no result for a buffer that is too small. -/
def ipc210Pack (src : Ipc210) (size : ℕ) : Option (List UInt8) :=
  if size<8 then none
  else
    let targetAngle := src.targetAngle.toUInt16
    some [
      packLeftShiftU8 src.domainCtrlEpo 3 0x08 |||
        packLeftShiftU8 src.steeringMode 4 0x10 |||
        packLeftShiftU8 src.ipcEn 5 0x20 |||
        packLeftShiftU8 src.targetGear 6 0xc0,
      packLeftShiftU16 src.targetSpeed 0 0xff,
      packRightShiftU16 src.targetSpeed 8 0xff,
      0,
      packLeftShiftU16 targetAngle 0 0xff,
      packRightShiftU16 targetAngle 8 0xff,
      packLeftShiftU8 src.brakeEn 0 0x01 |||
        packLeftShiftU8 src.targetPressure 1 0xfe,
      packLeftShiftU8 src.dippedLamp 0 0x01 |||
        packLeftShiftU8 src.turnLamp 1 0x06 |||
        packLeftShiftU8 src.farLamp 3 0x08 |||
        packLeftShiftU8 src.horn 4 0x10 |||
        packLeftShiftU8 src.carOff 5 0x20 |||
        packLeftShiftU8 src.alarmLamp 6 0x40 |||
        packLeftShiftU8 src.outLineLamp 7 0x80]

/-- `ipc_vcu_zrd_ipc_210_unpack`: no result for fewer than eight bytes. -/
def ipc210Unpack : List UInt8 → Option Ipc210
  | b0::b1::b2::_::b4::b5::b6::b7::_ => some {
    domainCtrlEpo := unpackRightShiftU8 b0 3 0x08
    steeringMode := unpackRightShiftU8 b0 4 0x10
    ipcEn := unpackRightShiftU8 b0 5 0x20
    targetGear := unpackRightShiftU8 b0 6 0xc0
    targetSpeed := unpackRightShiftU16 b1 0 0xff ||| unpackLeftShiftU16 b2 8 0xff
    targetAngle := (unpackRightShiftU16 b4 0 0xff ||| unpackLeftShiftU16 b5 8 0xff).toInt16
    brakeEn := unpackRightShiftU8 b6 0 0x01
    targetPressure := unpackRightShiftU8 b6 1 0xfe
    dippedLamp := unpackRightShiftU8 b7 0 0x01
    turnLamp := unpackRightShiftU8 b7 1 0x06
    farLamp := unpackRightShiftU8 b7 3 0x08
    horn := unpackRightShiftU8 b7 4 0x10
    carOff := unpackRightShiftU8 b7 5 0x20
    alarmLamp := unpackRightShiftU8 b7 6 0x40
    outLineLamp := unpackRightShiftU8 b7 7 0x80 }
  | _ => none

/-- What is left of a command record in the fields of the frame. -/
def Ipc210.onWire (c : Ipc210) : Ipc210 :=
  { c with
    domainCtrlEpo := c.domainCtrlEpo&&&0x01
    steeringMode := c.steeringMode&&&0x01
    ipcEn := c.ipcEn&&&0x01
    targetGear := c.targetGear&&&0x03
    brakeEn := c.brakeEn&&&0x01
    targetPressure := c.targetPressure&&&0x7f
    dippedLamp := c.dippedLamp&&&0x01
    turnLamp := c.turnLamp&&&0x03
    farLamp := c.farLamp&&&0x01
    horn := c.horn&&&0x01
    carOff := c.carOff&&&0x01
    alarmLamp := c.alarmLamp&&&0x01
    outLineLamp := c.outLineLamp&&&0x01 }

/-- The bits of frame 0x210 that have a meaning. -/
def ipc210Bits : List UInt8 := [0xf8,0xff,0xff,0x00,0xff,0xff,0xff,0xff]

/-- `ipc_vcu_zrd_ipc_201_t`, the fields of frame 0x201. -/
structure Ipc201 where
  /-- `drive_mode`. -/
  driveMode : UInt8
  /-- `gear`: P, R, N, D. -/
  gear : UInt8
  /-- `epo_sts`: emergency stop. -/
  epoSts : UInt8
  /-- `yk_h`. -/
  ykH : UInt8
  /-- `yk_f`. -/
  ykF : UInt8
  /-- `angle`. -/
  angle : Int16
  /-- `flmcu_fatus`. -/
  flmcuFatus : UInt8
  /-- `frmcu_fault`. -/
  frmcuFault : UInt8
  /-- `mlmcu_fault`. -/
  mlmcuFault : UInt8
  /-- `mrmcu_fault`. -/
  mrmcuFault : UInt8
  /-- `rlmcu_fault`. -/
  rlmcuFault : UInt8
  /-- `rrmcu_fault`. -/
  rrmcuFault : UInt8
  /-- `ebs1_fault`. -/
  ebs1Fault : UInt8
  /-- `ebs2_fault`. -/
  ebs2Fault : UInt8
  /-- `car_speed`, in units of 0.1 km/h. -/
  carSpeed : UInt16
  /-- `epb_lfr_sts`. -/
  epbLfrSts : UInt8
  /-- `epb_rfr_sts`. -/
  epbRfrSts : UInt8
  /-- `epb_ml_sts`. -/
  epbMlSts : UInt8
  /-- `epb_mr_sts`. -/
  epbMrSts : UInt8

/-- `ipc_vcu_zrd_ipc_201_pack`. -/
def ipc201Pack (src : Ipc201) (size : ℕ) : Option (List UInt8) :=
  if size<8 then none
  else
    let angle := src.angle.toUInt16
    some [
      packLeftShiftU8 src.driveMode 0 0x03 |||
        packLeftShiftU8 src.gear 2 0x0c |||
        packLeftShiftU8 src.epoSts 4 0x30 |||
        packLeftShiftU8 src.ykH 6 0x40 |||
        packLeftShiftU8 src.ykF 7 0x80,
      packLeftShiftU16 angle 0 0xff,
      packRightShiftU16 angle 8 0xff,
      packLeftShiftU8 src.flmcuFatus 0 0x01 |||
        packLeftShiftU8 src.frmcuFault 1 0x02 |||
        packLeftShiftU8 src.mlmcuFault 2 0x04 |||
        packLeftShiftU8 src.mrmcuFault 3 0x08 |||
        packLeftShiftU8 src.rlmcuFault 4 0x10 |||
        packLeftShiftU8 src.rrmcuFault 5 0x20 |||
        packLeftShiftU8 src.ebs1Fault 6 0x40 |||
        packLeftShiftU8 src.ebs2Fault 7 0x80,
      packLeftShiftU16 src.carSpeed 0 0xff,
      packRightShiftU16 src.carSpeed 8 0xff,
      packLeftShiftU8 src.epbLfrSts 0 0x0f |||
        packLeftShiftU8 src.epbRfrSts 4 0xf0,
      packLeftShiftU8 src.epbMlSts 0 0x0f |||
        packLeftShiftU8 src.epbMrSts 4 0xf0]

/-- `ipc_vcu_zrd_ipc_201_unpack`. -/
def ipc201Unpack : List UInt8 → Option Ipc201
  | b0::b1::b2::b3::b4::b5::b6::b7::_ => some {
    driveMode := unpackRightShiftU8 b0 0 0x03
    gear := unpackRightShiftU8 b0 2 0x0c
    epoSts := unpackRightShiftU8 b0 4 0x30
    ykH := unpackRightShiftU8 b0 6 0x40
    ykF := unpackRightShiftU8 b0 7 0x80
    angle := (unpackRightShiftU16 b1 0 0xff ||| unpackLeftShiftU16 b2 8 0xff).toInt16
    flmcuFatus := unpackRightShiftU8 b3 0 0x01
    frmcuFault := unpackRightShiftU8 b3 1 0x02
    mlmcuFault := unpackRightShiftU8 b3 2 0x04
    mrmcuFault := unpackRightShiftU8 b3 3 0x08
    rlmcuFault := unpackRightShiftU8 b3 4 0x10
    rrmcuFault := unpackRightShiftU8 b3 5 0x20
    ebs1Fault := unpackRightShiftU8 b3 6 0x40
    ebs2Fault := unpackRightShiftU8 b3 7 0x80
    carSpeed := unpackRightShiftU16 b4 0 0xff ||| unpackLeftShiftU16 b5 8 0xff
    epbLfrSts := unpackRightShiftU8 b6 0 0x0f
    epbRfrSts := unpackRightShiftU8 b6 4 0xf0
    epbMlSts := unpackRightShiftU8 b7 0 0x0f
    epbMrSts := unpackRightShiftU8 b7 4 0xf0 }
  | _ => none

/-- What is left of a state record in the fields of the frame. -/
def Ipc201.onWire (s : Ipc201) : Ipc201 :=
  { s with
    driveMode := s.driveMode&&&0x03
    gear := s.gear&&&0x03
    epoSts := s.epoSts&&&0x03
    ykH := s.ykH&&&0x01
    ykF := s.ykF&&&0x01
    flmcuFatus := s.flmcuFatus&&&0x01
    frmcuFault := s.frmcuFault&&&0x01
    mlmcuFault := s.mlmcuFault&&&0x01
    mrmcuFault := s.mrmcuFault&&&0x01
    rlmcuFault := s.rlmcuFault&&&0x01
    rrmcuFault := s.rrmcuFault&&&0x01
    ebs1Fault := s.ebs1Fault&&&0x01
    ebs2Fault := s.ebs2Fault&&&0x01
    epbLfrSts := s.epbLfrSts&&&0x0f
    epbRfrSts := s.epbRfrSts&&&0x0f
    epbMlSts := s.epbMlSts&&&0x0f
    epbMrSts := s.epbMrSts&&&0x0f }

/-- The bits of frame 0x201 that have a meaning. -/
def ipc201Bits : List UInt8 := [0xff,0xff,0xff,0xff,0xff,0xff,0xff,0xff]

/-- `ipc_vcu_zrd_ipc_203_t`, the fields of frame 0x203. -/
structure Ipc203 where
  /-- `brake_pressure1`. -/
  brakePressure1 : UInt16
  /-- `brake_pressure2`. -/
  brakePressure2 : UInt16
  /-- `curve_yk_max_speed`. -/
  curveYkMaxSpeed : UInt8
  /-- `soc`: charge of the battery. -/
  soc : UInt8
  /-- `car_sts1`. -/
  carSts1 : UInt8
  /-- `car_sts2`. -/
  carSts2 : UInt8

/-- `ipc_vcu_zrd_ipc_203_pack`. -/
def ipc203Pack (src : Ipc203) (size : ℕ) : Option (List UInt8) :=
  if size<8 then none
  else some [
    packLeftShiftU16 src.brakePressure1 0 0xff,
    packRightShiftU16 src.brakePressure1 8 0xff,
    packLeftShiftU16 src.brakePressure2 0 0xff,
    packRightShiftU16 src.brakePressure2 8 0xff,
    packLeftShiftU8 src.curveYkMaxSpeed 0 0xff,
    0,
    packLeftShiftU8 src.soc 0 0xff,
    packLeftShiftU8 src.carSts1 0 0x03 |||
      packLeftShiftU8 src.carSts2 2 0x0c]

/-- `ipc_vcu_zrd_ipc_203_unpack`. -/
def ipc203Unpack : List UInt8 → Option Ipc203
  | b0::b1::b2::b3::b4::_::b6::b7::_ => some {
    brakePressure1 := unpackRightShiftU16 b0 0 0xff ||| unpackLeftShiftU16 b1 8 0xff
    brakePressure2 := unpackRightShiftU16 b2 0 0xff ||| unpackLeftShiftU16 b3 8 0xff
    curveYkMaxSpeed := unpackRightShiftU8 b4 0 0xff
    soc := unpackRightShiftU8 b6 0 0xff
    carSts1 := unpackRightShiftU8 b7 0 0x03
    carSts2 := unpackRightShiftU8 b7 2 0x0c }
  | _ => none

/-- What is left of a battery record in the fields of the frame. -/
def Ipc203.onWire (s : Ipc203) : Ipc203 :=
  { s with carSts1 := s.carSts1&&&0x03, carSts2 := s.carSts2&&&0x03 }

/-- The bits of frame 0x203 that have a meaning. -/
def ipc203Bits : List UInt8 := [0xff,0xff,0xff,0xff,0xff,0x00,0xff,0x0f]

/-- `ipc_vcu_zrd_ipc_260_t`, the fields of frame 0x260. -/
structure Ipc260 where
  /-- `fault`. -/
  fault : UInt8
  /-- `vcu_sts`. -/
  vcuSts : UInt16
  /-- `car_start_state`. -/
  carStartState : UInt8
  /-- `vcu_service_voltage`. -/
  vcuServiceVoltage : UInt16

/-- `ipc_vcu_zrd_ipc_260_pack`. -/
def ipc260Pack (src : Ipc260) (size : ℕ) : Option (List UInt8) :=
  if size<8 then none
  else some [
    packLeftShiftU8 src.fault 0 0xff,
    packLeftShiftU16 src.vcuSts 0 0xff,
    packRightShiftU16 src.vcuSts 8 0xff,
    packLeftShiftU8 src.carStartState 0 0x03,
    0,
    0,
    packLeftShiftU16 src.vcuServiceVoltage 0 0xff,
    packRightShiftU16 src.vcuServiceVoltage 8 0xff]

/-- `ipc_vcu_zrd_ipc_260_unpack`. -/
def ipc260Unpack : List UInt8 → Option Ipc260
  | b0::b1::b2::b3::_::_::b6::b7::_ => some {
    fault := unpackRightShiftU8 b0 0 0xff
    vcuSts := unpackRightShiftU16 b1 0 0xff ||| unpackLeftShiftU16 b2 8 0xff
    carStartState := unpackRightShiftU8 b3 0 0x03
    vcuServiceVoltage := unpackRightShiftU16 b6 0 0xff ||| unpackLeftShiftU16 b7 8 0xff }
  | _ => none

/-- What is left of a start record in the fields of the frame. -/
def Ipc260.onWire (s : Ipc260) : Ipc260 := { s with carStartState := s.carStartState&&&0x03 }

/-- The bits of frame 0x260 that have a meaning. -/
def ipc260Bits : List UInt8 := [0xff,0xff,0xff,0x03,0x00,0x00,0xff,0xff]

/-- Two halves of a frame format undo each other: what is packed is read back as far as
it fits, and what is read is packed again up to the bits without a meaning. -/
structure RoundTrips {Record : Type} (pack : Record → ℕ → Option (List UInt8))
    (unpack : List UInt8 → Option Record) (onWire : Record → Record) (bits : List UInt8) :
    Prop where
  /-- A buffer of eight bytes suffices, and gets eight bytes. -/
  packs : ∀ r size,8 ≤ size → ∃ bytes,pack r size=some bytes ∧ bytes.length=8
  /-- A smaller one does not. -/
  refuses : ∀ r size,size<8 → pack r size=none
  /-- Eight bytes and more are read, and only the first eight count. -/
  reads : ∀ bytes more,bytes.length=8 → ∃ r,unpack bytes=some r ∧ unpack (bytes++more)=some r
  /-- Fewer are not read. -/
  rejects : ∀ bytes,bytes.length<8 → unpack bytes=none
  /-- A record is read back as far as it fits. -/
  readBack : ∀ r size bytes,pack r size=some bytes → unpack bytes=some (onWire r)
  /-- Eight bytes are packed again up to the bits without a meaning. -/
  packedBack : ∀ bytes,bytes.length=8 → ∀ size,8 ≤ size →
    (unpack bytes).bind (pack · size)=some (bytes.zipWith (·&&&·) bits)

section

variable {shift mask : UInt8}

/-- The low byte of a word goes into a byte of its own. -/
theorem packLeftShiftU16_low (value : UInt16) : packLeftShiftU16 value 0 0xff=lowByte value := by
  have hzero : (0 : UInt8).toUInt16=0 := rfl
  rw [packLeftShiftU16,hzero,UInt16.shiftLeft_zero,and_full rfl]
  rfl

/-- So does the high byte. -/
theorem packRightShiftU16_high (value : UInt16) :
    packRightShiftU16 value 8 0xff=highByte value := and_full rfl _

/-- The two bytes of a word are put together. -/
theorem unpackU16 (low high : UInt8) :
    unpackRightShiftU16 low 0 0xff ||| unpackLeftShiftU16 high 8 0xff=joinBytes low high := by
  have hzero : (0 : UInt8).toUInt16=0 := rfl
  rw [unpackRightShiftU16,unpackLeftShiftU16,hzero,UInt16.shiftRight_zero,and_full rfl,and_full rfl]
  rfl

/-- A word is read back. -/
theorem unpackU16_packU16 (value : UInt16) :
    unpackRightShiftU16 (packLeftShiftU16 value 0 0xff) 0 0xff |||
      unpackLeftShiftU16 (packRightShiftU16 value 8 0xff) 8 0xff=value := by
  rw [unpackU16,packLeftShiftU16_low,packRightShiftU16_high,joinBytes_lowByte_highByte]

/-- The low byte of a word that was read. -/
theorem packU16_low (low high : UInt8) : packLeftShiftU16
    (unpackRightShiftU16 low 0 0xff ||| unpackLeftShiftU16 high 8 0xff) 0 0xff=low := by
  rw [unpackU16,packLeftShiftU16_low,lowByte_joinBytes]

/-- The high byte of a word that was read. -/
theorem packU16_high (low high : UInt8) : packRightShiftU16
    (unpackRightShiftU16 low 0 0xff ||| unpackLeftShiftU16 high 8 0xff) 8 0xff=high := by
  rw [unpackU16,packRightShiftU16_high,highByte_joinBytes]

/-- A field is read back as far as its mask has room for it. -/
theorem unpackU8_packU8 (value : UInt8) :
    unpackRightShiftU8 (packLeftShiftU8 value shift mask) shift mask=value&&&(mask>>>shift) :=
  get_put value shift mask

/-- A neighbour in the byte does not show. -/
theorem unpackU8_packU8_of_apart {shift' mask' : UInt8} (h : mask'&&&mask=0) (value : UInt8) :
    unpackRightShiftU8 (packLeftShiftU8 value shift' mask') shift mask=0 :=
  get_put_of_apart h value shift shift'

/-- Neighbours are read one by one. -/
theorem unpackU8_or (a b : UInt8) : unpackRightShiftU8 (a ||| b) shift mask=
    unpackRightShiftU8 a shift mask ||| unpackRightShiftU8 b shift mask := get_or a b shift mask

/-- A field that was read goes back to its place. -/
theorem packU8_unpackU8 (h : mask&&&((0xff>>>shift)<<<shift)=mask) (byte : UInt8) :
    packLeftShiftU8 (unpackRightShiftU8 byte shift mask) shift mask=byte&&&mask :=
  put_get h byte

end

/-- A list of eight bytes. -/
theorem eight_bytes {bytes : List UInt8} (h : bytes.length=8) :
    ∃ b0 b1 b2 b3 b4 b5 b6 b7,bytes=[b0,b1,b2,b3,b4,b5,b6,b7] := by
  iterate 8
    obtain _|⟨b,bytes⟩ := bytes
    · cases h
  obtain rfl := List.length_eq_zero_iff.mp (by simpa using h : bytes.length=0)
  exact ⟨_,_,_,_,_,_,_,_,rfl⟩

/-- A list that begins with eight bytes is not short. -/
theorem not_short {b0 b1 b2 b3 b4 b5 b6 b7 : UInt8} {rest : List UInt8} :
    ¬(b0::b1::b2::b3::b4::b5::b6::b7::rest).length<8 := by
  simp only [List.length_cons]
  omega

/-- A buffer that is large enough is packed. -/
theorem size_of_pack {α : Type} {size : ℕ} {bytes result : α}
    (h : (if size<8 then none else some bytes)=some result) : bytes=result := by
  split at h
  · cases h
  · exact Option.some.inj h

/-- The command frame. -/
theorem ipc210_roundTrips : RoundTrips ipc210Pack ipc210Unpack Ipc210.onWire ipc210Bits where
  packs r size h := ⟨_,if_neg (Nat.not_lt.mpr h),rfl⟩
  refuses r size h := if_pos h
  reads bytes more h := by
    obtain ⟨b0,b1,b2,b3,b4,b5,b6,b7,rfl⟩ := eight_bytes h
    exact ⟨_,rfl,rfl⟩
  rejects bytes h := by
    unfold ipc210Unpack
    split
    · exact absurd h not_short
    · rfl
  readBack r size bytes h := by
    rw [←size_of_pack h,ipc210Unpack]
    simp (disch := decide) only [unpackU8_or,unpackU8_packU8,unpackU8_packU8_of_apart,
      unpackU16_packU16,UInt8.or_zero,UInt8.zero_or]
    rfl
  packedBack bytes hlen size h := by
    obtain ⟨b0,b1,b2,b3,b4,b5,b6,b7,rfl⟩ := eight_bytes hlen
    rw [ipc210Unpack,Option.bind_some,ipc210Pack,if_neg (Nat.not_lt.mpr h)]
    simp (disch := decide) only [packU8_unpackU8,←and_or_distrib,packU16_low,packU16_high,
      UInt16.toUInt16_toInt16,ipc210Bits,List.zipWith_cons_cons,List.zipWith_nil_left,and_full,
      UInt8.and_zero]
    rfl

/-- The state frame. -/
theorem ipc201_roundTrips : RoundTrips ipc201Pack ipc201Unpack Ipc201.onWire ipc201Bits where
  packs r size h := ⟨_,if_neg (Nat.not_lt.mpr h),rfl⟩
  refuses r size h := if_pos h
  reads bytes more h := by
    obtain ⟨b0,b1,b2,b3,b4,b5,b6,b7,rfl⟩ := eight_bytes h
    exact ⟨_,rfl,rfl⟩
  rejects bytes h := by
    unfold ipc201Unpack
    split
    · exact absurd h not_short
    · rfl
  readBack r size bytes h := by
    rw [←size_of_pack h,ipc201Unpack]
    simp (disch := decide) only [unpackU8_or,unpackU8_packU8,unpackU8_packU8_of_apart,
      unpackU16_packU16,UInt8.or_zero,UInt8.zero_or]
    rfl
  packedBack bytes hlen size h := by
    obtain ⟨b0,b1,b2,b3,b4,b5,b6,b7,rfl⟩ := eight_bytes hlen
    rw [ipc201Unpack,Option.bind_some,ipc201Pack,if_neg (Nat.not_lt.mpr h)]
    simp (disch := decide) only [packU8_unpackU8,←and_or_distrib,packU16_low,packU16_high,
      UInt16.toUInt16_toInt16,ipc201Bits,List.zipWith_cons_cons,List.zipWith_nil_left,and_full]

/-- The battery frame. -/
theorem ipc203_roundTrips : RoundTrips ipc203Pack ipc203Unpack Ipc203.onWire ipc203Bits where
  packs r size h := ⟨_,if_neg (Nat.not_lt.mpr h),rfl⟩
  refuses r size h := if_pos h
  reads bytes more h := by
    obtain ⟨b0,b1,b2,b3,b4,b5,b6,b7,rfl⟩ := eight_bytes h
    exact ⟨_,rfl,rfl⟩
  rejects bytes h := by
    unfold ipc203Unpack
    split
    · exact absurd h not_short
    · rfl
  readBack r size bytes h := by
    rw [←size_of_pack h,ipc203Unpack]
    simp (disch := decide) only [unpackU8_or,unpackU8_packU8,unpackU8_packU8_of_apart,
      unpackU16_packU16,and_full,UInt8.or_zero,UInt8.zero_or]
    rfl
  packedBack bytes hlen size h := by
    obtain ⟨b0,b1,b2,b3,b4,b5,b6,b7,rfl⟩ := eight_bytes hlen
    rw [ipc203Unpack,Option.bind_some,ipc203Pack,if_neg (Nat.not_lt.mpr h)]
    simp (disch := decide) only [packU8_unpackU8,←and_or_distrib,packU16_low,packU16_high,
      ipc203Bits,List.zipWith_cons_cons,List.zipWith_nil_left,and_full,UInt8.and_zero]
    rfl

/-- The start frame. -/
theorem ipc260_roundTrips : RoundTrips ipc260Pack ipc260Unpack Ipc260.onWire ipc260Bits where
  packs r size h := ⟨_,if_neg (Nat.not_lt.mpr h),rfl⟩
  refuses r size h := if_pos h
  reads bytes more h := by
    obtain ⟨b0,b1,b2,b3,b4,b5,b6,b7,rfl⟩ := eight_bytes h
    exact ⟨_,rfl,rfl⟩
  rejects bytes h := by
    unfold ipc260Unpack
    split
    · exact absurd h not_short
    · rfl
  readBack r size bytes h := by
    rw [←size_of_pack h,ipc260Unpack]
    simp (disch := decide) only [unpackU8_packU8,unpackU16_packU16,and_full]
    rfl
  packedBack bytes hlen size h := by
    obtain ⟨b0,b1,b2,b3,b4,b5,b6,b7,rfl⟩ := eight_bytes hlen
    rw [ipc260Unpack,Option.bind_some,ipc260Pack,if_neg (Nat.not_lt.mpr h)]
    simp (disch := decide) only [packU8_unpackU8,packU16_low,packU16_high,ipc260Bits,
      List.zipWith_cons_cons,List.zipWith_nil_left,and_full,UInt8.and_zero]

/-- Records and frames determine each other, for all four frames of the chassis. -/
theorem chassis_frames_round_trip :
    RoundTrips ipc210Pack ipc210Unpack Ipc210.onWire ipc210Bits ∧
      RoundTrips ipc201Pack ipc201Unpack Ipc201.onWire ipc201Bits ∧
      RoundTrips ipc203Pack ipc203Unpack Ipc203.onWire ipc203Bits ∧
      RoundTrips ipc260Pack ipc260Unpack Ipc260.onWire ipc260Bits :=
  ⟨ipc210_roundTrips,ipc201_roundTrips,ipc203_roundTrips,ipc260_roundTrips⟩

/-- Every field of the record but the turn signal fits the frame; the brake pressure
and the switch-off are never commanded. -/
structure FitsFrame (c : Ipc210) : Prop where
  /-- The emergency stop is a flag. -/
  domainCtrlEpo : c.domainCtrlEpo&&&0x01=c.domainCtrlEpo
  /-- So is the steering mode. -/
  steeringMode : c.steeringMode&&&0x01=c.steeringMode
  /-- Drive by wire is a flag. -/
  ipcEn : c.ipcEn&&&0x01=c.ipcEn
  /-- There are four gears. -/
  targetGear : c.targetGear&&&0x03=c.targetGear
  /-- The brake is a flag. -/
  brakeEn : c.brakeEn&&&0x01=c.brakeEn
  /-- No pressure is commanded. -/
  targetPressure : c.targetPressure=0
  /-- The lamps are flags. -/
  dippedLamp : c.dippedLamp&&&0x01=c.dippedLamp
  farLamp : c.farLamp&&&0x01=c.farLamp
  alarmLamp : c.alarmLamp&&&0x01=c.alarmLamp
  outLineLamp : c.outLineLamp&&&0x01=c.outLineLamp
  /-- So is the horn. -/
  horn : c.horn&&&0x01=c.horn
  /-- The car is never switched off. -/
  carOff : c.carOff=0

/-- A written flag fits one bit. -/
theorem bit_and_one (b : Bool) : bit b&&&0x01=bit b := by cases b <;> rfl

/-- A record that fits is on the wire as it is, but for the turn signal. -/
theorem FitsFrame.onWire {c : Ipc210} (h : FitsFrame c) :
    c.onWire={ c with turnLamp := c.turnLamp&&&0x03 } := by
  rw [Ipc210.onWire,h.domainCtrlEpo,h.steeringMode,h.ipcEn,h.targetGear,h.brakeEn,
    h.targetPressure,h.dippedLamp,h.farLamp,h.horn,h.carOff,h.alarmLamp,h.outLineLamp]
  rfl

/-- The constructed record fits. -/
theorem fitsFrame_constructed : FitsFrame constructed :=
  ⟨rfl,rfl,rfl,rfl,rfl,rfl,rfl,rfl,rfl,rfl,rfl,rfl⟩

/-- A velocity command writes gears and flags that fit. -/
theorem fitsFrame_cmdVel {c : Ipc210} (h : FitsFrame c) (wheelbase maxSpeedKmh : ℝ)
    (vel : Vec4 ℝ) : FitsFrame (cmdVel wheelbase maxSpeedKmh vel c).1 := by
  have hgear : ∀ p : Prop,[Decidable p] → (if p then 1 else 3 : UInt8)&&&0x03=if p then 1 else 3 := by
    intro p _
    split <;> rfl
  have hset : (1 : UInt8)&&&0x01=1 := rfl
  have hclear : (0 : UInt8)&&&0x01=0 := rfl
  dsimp only [cmdVel]
  split
  · exact h
  · split
    · exact { h with steeringMode := hset, ipcEn := hset, targetGear := hgear _, brakeEn := hclear }
    · exact { h with
        steeringMode := hclear, ipcEn := hset, targetGear := hgear _, brakeEn := hclear }

/-- Every call leaves a record that fits. -/
theorem fitsFrame_step (wheelbase : ℝ) {c : Ipc210} (h : FitsFrame c) (call : CarCall) :
    FitsFrame (carStep wheelbase c call) := by
  have hset : (1 : UInt8)&&&0x01=1 := rfl
  have hclear : (0 : UInt8)&&&0x01=0 := rfl
  have hpark : (0 : UInt8)&&&0x03=0 := rfl
  have hneutral : (2 : UInt8)&&&0x03=2 := rfl
  have hdrive : (3 : UInt8)&&&0x03=3 := rfl
  cases call with
  | land =>
    exact { h with
      steeringMode := hclear, ipcEn := hset, targetGear := hpark, brakeEn := hset }
  | loiter =>
    exact { h with
      steeringMode := hclear, ipcEn := hset, targetGear := hneutral, brakeEn := hset }
  | takeoff alt =>
    exact { h with
      steeringMode := hclear, ipcEn := hset, targetGear := hdrive, brakeEn := hclear }
  | cmdVel vel maxSpeedKmh => exact fitsFrame_cmdVel h wheelbase maxSpeedKmh vel
  | setLight event =>
    exact { h with
      ipcEn := hset
      dippedLamp := bit_and_one _
      farLamp := bit_and_one _
      outLineLamp := bit_and_one _
      alarmLamp := bit_and_one _ }
  | setHorn event => exact { h with ipcEn := hset, horn := bit_and_one _ }
  | setEstop estop => exact { h with domainCtrlEpo := bit_and_one _ }
  | onStep => exact h

/-- What the chassis makes of the frames, given the calls before. -/
structure ChassisReads (r : CallRecord) (earlier : List CallRecord) : Prop where
  /-- It reads the command record as it is then, with the turn signal cut to two bits. -/
  exact : ∀ frame∈r.sent,frame=r.before ∧ ∃ bytes,ipc210Pack frame 8=some bytes ∧
    bytes.length=8 ∧ ipc210Unpack bytes=some { frame with turnLamp := frame.turnLamp&&&0x03 }
  /-- It reads no speed for a parked car, the brake and the gear of the latest parking call,
  and a set emergency stop. -/
  safe : ∀ frame∈r.sent,∀ bytes,ipc210Pack frame 8=some bytes →
    ∀ seen,ipc210Unpack bytes=some seen →
      (Parked earlier → seen.targetSpeed=0) ∧
      (∀ gear,ParkedIn gear earlier → seen.brakeEn=1 ∧ seen.targetGear=gear) ∧
      (EmergencyStopped earlier → seen.domainCtrlEpo=1)

/-- In every order of calls the chassis reads from the bytes sent what was commanded, and
the interlocks of parking and emergency stop hold of what it reads. -/
theorem chassis_reads_commands (wheelbase : ℝ) (calls : List CarCall) :
    Throughout ChassisReads (callHistory wheelbase calls) := by
  refine recorded_throughout (fun _ _ => True) (fun c history => CarInvariant c history ∧ FitsFrame c)
    ?_ ?_ calls ⟨carInvariant_constructed,fitsFrame_constructed⟩
    (guarded_of_forall (fun _ _ => trivial) _ calls)
  · rintro c history call ⟨hinv,hfits⟩ _
    exact ⟨carInvariant_step wheelbase hinv call,fitsFrame_step wheelbase hfits call⟩
  · rintro c history call r ⟨hinv,hfits⟩ _ hr
    obtain rfl := Option.some.inj hr
    have hlock := interlock_step wheelbase hinv call
    have hseen : ∀ frame∈(perform wheelbase c call).sent,∀ bytes,ipc210Pack frame 8=some bytes →
        ipc210Unpack bytes=some { frame with turnLamp := frame.turnLamp&&&0x03 } := by
      intro frame hframe bytes hbytes
      obtain rfl := perform_sent hframe
      rw [ipc210_roundTrips.readBack frame 8 bytes hbytes,hfits.onWire]
    refine ⟨fun frame hframe => ?_,fun frame hframe bytes hbytes seen hunpack => ?_⟩
    · obtain ⟨bytes,hbytes,hlen⟩ := ipc210_roundTrips.packs frame 8 le_rfl
      have hheld : (perform wheelbase c call).before=c := by cases call <;> rfl
      exact ⟨(perform_sent hframe).trans hheld.symm,bytes,hbytes,hlen,
        hseen frame hframe bytes hbytes⟩
    · rw [hseen frame hframe bytes hbytes] at hunpack
      obtain rfl := Option.some.inj hunpack
      exact ⟨fun hparked => hlock.still hparked frame hframe,
        fun gear hparked => hlock.braked gear hparked frame hframe,
        fun hstopped => hlock.stopped hstopped frame hframe⟩

/-- `gear_to_str`. -/
def gearToStr : ℕ → String
  | 0 => "P"
  | 1 => "R"
  | 2 => "N"
  | 3 => "D"
  | gear => "UNKNOWN"++toString gear

/-- `drive_mode_to_str`. -/
def driveModeToStr : ℕ → String
  | 0 => "手动控制"
  | 1 => "程序控制"
  | 2 => "遥控器控制"
  | driveMode => "UNKNOWN"++toString driveMode

/-- `car_state_to_str`. -/
def carStateToStr : ℕ → String
  | 0 => "未知"
  | 1 => "就绪"
  | 2 => "关机"
  | carState => "UNKNOWN"++toString carState

/-- The fields of the robot context that the chassis reports. -/
structure CarReports where
  /-- `gear`. -/
  gear : ℕ := 0
  /-- `gear_str`. -/
  gearStr : String := "UNKNOWN"
  /-- `speed`, in km/h. -/
  speed : ℚ := 0
  /-- `angle`. -/
  angle : ℤ := 0
  /-- `drive_mode`. -/
  driveMode : String := "UNKNOWN"
  /-- `estop_status`. -/
  estopStatus : Bool := false
  /-- `battery_level`. -/
  batteryLevel : ℚ := -1
  /-- `car_state`. -/
  carState : String := "UNKNOW"

/-- A frame on the bus. -/
structure CanFrame where
  /-- Its identifier. -/
  id : ℕ
  /-- Its bytes. -/
  data : List UInt8

/-- The handler bound to frame 0x201: a frame of another size is dropped. -/
def on201 (data : List UInt8) (ctx : CarReports) : CarReports :=
  if data.length≠8 then ctx
  else match ipc201Unpack data with
    | none => ctx
    | some unpacked =>
      { ctx with
        gear := unpacked.gear.toNat
        gearStr := gearToStr unpacked.gear.toNat
        speed := unpacked.carSpeed.toNat*0.1
        angle := unpacked.angle.toInt
        driveMode := driveModeToStr unpacked.driveMode.toNat
        estopStatus := unpacked.epoSts != 0 }

/-- The handler bound to frame 0x203. -/
def on203 (data : List UInt8) (ctx : CarReports) : CarReports :=
  if data.length≠8 then ctx
  else match ipc203Unpack data with
    | none => ctx
    | some unpacked => { ctx with batteryLevel := unpacked.soc.toNat }

/-- The handler bound to frame 0x260. -/
def on260 (data : List UInt8) (ctx : CarReports) : CarReports :=
  if data.length≠8 then ctx
  else match ipc260Unpack data with
    | none => ctx
    | some unpacked => { ctx with carState := carStateToStr unpacked.carStartState.toNat }

/-- The reports after a frame; frames with other identifiers have no handler. -/
def receive (ctx : CarReports) (frame : CanFrame) : CarReports :=
  if frame.id=0x201 then on201 frame.data ctx
  else if frame.id=0x203 then on203 frame.data ctx
  else if frame.id=0x260 then on260 frame.data ctx
  else ctx

/-- The frame does not update the reports of the identifier. -/
def Leaves (id : ℕ) (frame : CanFrame) : Prop := frame.id=id → frame.data.length≠8

/-- The reports show the state record, as far as it fits its frame. -/
structure Shows201 (ctx : CarReports) (s : Ipc201) : Prop where
  /-- The gear, and its letter. -/
  gear : ctx.gear=(s.gear&&&0x03).toNat ∧ ctx.gearStr∈["P","R","N","D"] ∧
    ctx.gearStr=gearToStr ctx.gear
  /-- The speed in km/h. -/
  speed : ctx.speed=s.carSpeed.toNat/10
  /-- The angle with its sign. -/
  angle : ctx.angle=s.angle.toInt
  /-- The driving mode. -/
  driveMode : ctx.driveMode=driveModeToStr (s.driveMode&&&0x03).toNat
  /-- Any kind of emergency stop. -/
  estop : ctx.estopStatus=true ↔ s.epoSts&&&0x03≠0

/-- A handler changes nothing on a frame of another size. -/
theorem handlers_wrong_size {data : List UInt8} (h : data.length≠8) (ctx : CarReports) :
    on201 data ctx=ctx ∧ on203 data ctx=ctx ∧ on260 data ctx=ctx :=
  ⟨if_pos h,if_pos h,if_pos h⟩

/-- The battery handler has a report of its own. -/
theorem on203_frame (data : List UInt8) (ctx : CarReports) :
    ∃ batteryLevel,on203 data ctx={ ctx with batteryLevel := batteryLevel } := by
  rw [on203]
  split
  · exact ⟨_,rfl⟩
  · split <;> exact ⟨_,rfl⟩

/-- So does the handler of the start frame. -/
theorem on260_frame (data : List UInt8) (ctx : CarReports) :
    ∃ carState,on260 data ctx={ ctx with carState := carState } := by
  rw [on260]
  split
  · exact ⟨_,rfl⟩
  · split <;> exact ⟨_,rfl⟩

/-- The handler of the state frame leaves those two alone. -/
theorem on201_frame (data : List UInt8) (ctx : CarReports) :
    (on201 data ctx).batteryLevel=ctx.batteryLevel ∧ (on201 data ctx).carState=ctx.carState := by
  rw [on201]
  split
  · exact ⟨rfl,rfl⟩
  · split <;> exact ⟨rfl,rfl⟩

/-- What the reports show of a state record stays until the next state frame. -/
theorem receive_keeps201 {frame : CanFrame} (hframe : Leaves 0x201 frame) {ctx : CarReports}
    {s : Ipc201} (h : Shows201 ctx s) : Shows201 (receive ctx frame) s := by
  rw [receive]
  by_cases h201 : frame.id=0x201
  · rw [if_pos h201,(handlers_wrong_size (hframe h201) ctx).1]
    exact h
  rw [if_neg h201]
  by_cases h203 : frame.id=0x203
  · obtain ⟨_,hctx⟩ := on203_frame frame.data ctx
    rw [if_pos h203,hctx]
    exact ⟨h.gear,h.speed,h.angle,h.driveMode,h.estop⟩
  rw [if_neg h203]
  by_cases h260 : frame.id=0x260
  · obtain ⟨_,hctx⟩ := on260_frame frame.data ctx
    rw [if_pos h260,hctx]
    exact ⟨h.gear,h.speed,h.angle,h.driveMode,h.estop⟩
  · rw [if_neg h260]
    exact h

/-- The battery level stays until the next battery frame. -/
theorem receive_keeps203 {frame : CanFrame} (hframe : Leaves 0x203 frame) (ctx : CarReports) :
    (receive ctx frame).batteryLevel=ctx.batteryLevel := by
  rw [receive]
  by_cases h201 : frame.id=0x201
  · rw [if_pos h201]
    exact (on201_frame frame.data ctx).1
  rw [if_neg h201]
  by_cases h203 : frame.id=0x203
  · rw [if_pos h203,(handlers_wrong_size (hframe h203) ctx).2.1]
  rw [if_neg h203]
  by_cases h260 : frame.id=0x260
  · obtain ⟨_,hctx⟩ := on260_frame frame.data ctx
    rw [if_pos h260,hctx]
  · rw [if_neg h260]

/-- The state of the car stays until the next start frame. -/
theorem receive_keeps260 {frame : CanFrame} (hframe : Leaves 0x260 frame) (ctx : CarReports) :
    (receive ctx frame).carState=ctx.carState := by
  rw [receive]
  by_cases h201 : frame.id=0x201
  · rw [if_pos h201]
    exact (on201_frame frame.data ctx).2
  rw [if_neg h201]
  by_cases h203 : frame.id=0x203
  · obtain ⟨_,hctx⟩ := on203_frame frame.data ctx
    rw [if_pos h203,hctx]
  rw [if_neg h203]
  by_cases h260 : frame.id=0x260
  · rw [if_pos h260,(handlers_wrong_size (hframe h260) ctx).2.2]
  · rw [if_neg h260]

/-- A gear of two bits has a letter. -/
theorem gearToStr_mem {gear : ℕ} (h : gear<4) : gearToStr gear∈["P","R","N","D"] := by
  interval_cases gear <;> decide

/-- A packed state record is shown. -/
theorem shows_on201 {s : Ipc201} {bytes : List UInt8} (h : ipc201Pack s 8=some bytes)
    (ctx : CarReports) : Shows201 (on201 bytes ctx) s := by
  have hunpack := ipc201_roundTrips.readBack s 8 bytes h
  obtain ⟨bytes',hbytes,hlen⟩ := ipc201_roundTrips.packs s 8 le_rfl
  obtain rfl := Option.some.inj (hbytes.symm.trans h)
  have hgear : (s.gear&&&0x03).toNat<4 := by
    rw [UInt8.toNat_and]
    exact Nat.lt_succ_of_le Nat.and_le_right
  rw [on201,if_neg (not_not.mpr hlen),hunpack]
  refine ⟨⟨rfl,gearToStr_mem hgear,rfl⟩,?_,rfl,rfl,bne_iff_ne⟩
  dsimp only [Ipc201.onWire]
  norm_num [div_eq_mul_inv]

/-- A packed battery record is shown. -/
theorem shows_on203 {s : Ipc203} {bytes : List UInt8} (h : ipc203Pack s 8=some bytes)
    (ctx : CarReports) : (on203 bytes ctx).batteryLevel=s.soc.toNat := by
  have hunpack := ipc203_roundTrips.readBack s 8 bytes h
  obtain ⟨bytes',hbytes,hlen⟩ := ipc203_roundTrips.packs s 8 le_rfl
  obtain rfl := Option.some.inj (hbytes.symm.trans h)
  rw [on203,if_neg (not_not.mpr hlen),hunpack]
  rfl

/-- A packed start record is shown. -/
theorem shows_on260 {s : Ipc260} {bytes : List UInt8} (h : ipc260Pack s 8=some bytes)
    (ctx : CarReports) :
    (on260 bytes ctx).carState=carStateToStr (s.carStartState&&&0x03).toNat := by
  have hunpack := ipc260_roundTrips.readBack s 8 bytes h
  obtain ⟨bytes',hbytes,hlen⟩ := ipc260_roundTrips.packs s 8 le_rfl
  obtain rfl := Option.some.inj (hbytes.symm.trans h)
  rw [on260,if_neg (not_not.mpr hlen),hunpack]
  rfl

/-- After any frames, the reports show the latest state, battery and start record that the
chassis packed: the frames in between, of other identifiers or of another size, do not
disturb them. -/
theorem reports_show_latest_records (earlier later : List CanFrame) (bytes : List UInt8) :
    (∀ s,ipc201Pack s 8=some bytes → (∀ frame∈later,Leaves 0x201 frame) →
      Shows201 (runFrom receive {} (earlier++⟨0x201,bytes⟩::later)) s) ∧
    (∀ s,ipc203Pack s 8=some bytes → (∀ frame∈later,Leaves 0x203 frame) →
      (runFrom receive {} (earlier++⟨0x203,bytes⟩::later)).batteryLevel=s.soc.toNat) ∧
    (∀ s,ipc260Pack s 8=some bytes → (∀ frame∈later,Leaves 0x260 frame) →
      (runFrom receive {} (earlier++⟨0x260,bytes⟩::later)).carState=
        carStateToStr (s.carStartState&&&0x03).toNat) := by
  have hguarded : ∀ id,(∀ frame∈later,Leaves id frame) → ∀ ctx,
      Guarded receive (fun _ => Leaves id) ctx later :=
    fun id hlater => guarded_of_mem later fun frame hframe _ => hlater frame hframe
  refine ⟨fun s hpack hlater => ?_,fun s hpack hlater => ?_,fun s hpack hlater => ?_⟩
  · rw [runFrom_append,runFrom_cons]
    exact guarded_invariant (P := fun ctx : CarReports => Shows201 ctx s)
      (fun ctx frame h hframe => receive_keeps201 hframe h) later
      (shows_on201 hpack _) (hguarded 0x201 hlater _)
  · rw [runFrom_append,runFrom_cons]
    exact guarded_invariant (P := fun ctx : CarReports => ctx.batteryLevel=s.soc.toNat)
      (fun ctx frame h hframe => (receive_keeps203 hframe ctx).trans h) later
      (shows_on203 hpack _) (hguarded 0x203 hlater _)
  · rw [runFrom_append,runFrom_cons]
    exact guarded_invariant
      (P := fun ctx : CarReports => ctx.carState=carStateToStr (s.carStartState&&&0x03).toNat)
      (fun ctx frame h hframe => (receive_keeps260 hframe ctx).trans h) later
      (shows_on260 hpack _) (hguarded 0x260 hlater _)

/-- A car in gear D at 3.6 km/h, with the emergency stop pressed. -/
def rolling : Ipc201 := ⟨1,3,1,0,0,-40,0,0,0,0,0,0,0,0,36,0,0,0,0⟩

/-- A truncated frame and a battery frame after it do not disturb what is shown. -/
theorem rolling_shown : Shows201 (runFrom receive {}
    ([]++⟨0x201,[29,216,255,0,36,0,0,0]⟩::[⟨0x201,[29]⟩,⟨0x203,[0,0,0,0,0,0,87,0]⟩])) rolling :=
  (reports_show_latest_records [] [⟨0x201,[29]⟩,⟨0x203,[0,0,0,0,0,0,87,0]⟩]
    [29,216,255,0,36,0,0,0]).1 rolling (by rfl) (by
      intro frame hframe
      simp only [List.mem_cons,List.not_mem_nil,or_false] at hframe
      rcases hframe with rfl|rfl
      · intro _
        decide
      · intro h
        exact absurd h (by decide))

end Dankong.Car

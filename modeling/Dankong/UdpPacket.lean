import Mathlib.Data.Vector.Basic
import Dankong.ByteWords
import Dankong.DogPosture

/-!
# Packets of the robot dog

A packet is a header of three words, and a payload after it for some commands. The
field `parameter_size` of the header is a value in a packet without payload and the
size of the payload otherwise. A view of received bytes checks that there is a whole
header when it is made, and both sizes before it hands out a payload. Reads of the
bytes are checked here: one that leaves the packet has no result.
-/

namespace Dankong.DogUdp

open ByteWords

/-- `CommandType`: an enumeration over 32-bit codes; any code is a value of it. -/
structure CommandType where
  /-- The code that is sent. -/
  code : UInt32
  deriving DecidableEq

/-- `CommandType::SET_AIM_POSE`. -/
def setAimPose : CommandType := ⟨0x010B06⟩

/-- `CommandType::AXIS_COMMAND_NO_DEAD_ZONE`. -/
def axisCommandNoDeadZone : CommandType := ⟨0x21010140⟩

/-- `CommandType::RUN_STATUS_REPORT`. -/
def runStatusReport : CommandType := ⟨0x1008⟩

/-- `CommandType::MOTION_STATE_REPORT`. -/
def motionStateReport : CommandType := ⟨0x1009⟩

/-- `CommandType::SENSOR_DATA_REPORT`. -/
def sensorDataReport : CommandType := ⟨0x100A⟩

/-- `CommandType::CONTROLLER_SAFE_DATA_REPORT`. -/
def controllerSafeDataReport : CommandType := ⟨0x100B⟩

/-- `get_command_extension_type`. -/
def getCommandExtensionType (type : CommandType) : UInt32 :=
  if type∈[setAimPose,axisCommandNoDeadZone,runStatusReport,motionStateReport,sensorDataReport,
    controllerSafeDataReport] then 1 else 0

/-- `CommandHead`. -/
structure CommandHead where
  /-- `command_id`. -/
  commandId : UInt32
  /-- `parameter_size`. -/
  parameterSize : UInt32
  /-- `command_type`. -/
  commandType : UInt32

/-- `sizeof(CommandHead)`. -/
def headSize : ℕ := 12

/-- The bytes of a header. -/
def CommandHead.bytes (head : CommandHead) : List UInt8 :=
  wordBytes head.commandId++(wordBytes head.parameterSize++wordBytes head.commandType)

/-- The header that bytes hold. -/
def CommandHead.ofBytes (bytes : List UInt8) : CommandHead where
  commandId := word bytes 0
  parameterSize := word bytes 1
  commandType := word bytes 2

/-- A type that can be a payload: its values are copied byte by byte. -/
class PayloadType (T : Type) where
  /-- `sizeof`. -/
  size : ℕ
  /-- The bytes of a value. -/
  bytes : T → List UInt8
  /-- The value that bytes stand for. -/
  ofBytes : List UInt8 → T
  /-- A value has as many bytes as its type says. -/
  length_bytes : ∀ value,(bytes value).length=size
  /-- A copy of the bytes is the same value. -/
  ofBytes_bytes : ∀ value,ofBytes (bytes value)=value

/-- `AxisCommand`, the payload that the program sends. -/
structure AxisCommand where
  /-- `left_x`. -/
  leftX : Int32
  /-- `left_y`. -/
  leftY : Int32
  /-- `right_x`. -/
  rightX : Int32
  /-- `right_y`. -/
  rightY : Int32

/-- The bytes of an axis command: its four words. -/
instance : PayloadType AxisCommand where
  size := 16
  bytes command := wordBytes command.leftX.toUInt32++(wordBytes command.leftY.toUInt32++
    (wordBytes command.rightX.toUInt32++wordBytes command.rightY.toUInt32))
  ofBytes bytes := ⟨(word bytes 0).toInt32,(word bytes 1).toInt32,(word bytes 2).toInt32,
    (word bytes 3).toInt32⟩
  length_bytes command := by simp only [List.length_append,length_wordBytes]
  ofBytes_bytes command := by
    simp only [word_zero,word_succ,word_last,Int32.toInt32_toUInt32]

/-- An array of bytes. -/
instance (n : ℕ) : PayloadType (List.Vector UInt8 n) where
  size := n
  bytes value := value.toList
  ofBytes bytes := ⟨bytes.take n++List.replicate (n-bytes.length) 0,by simp; omega⟩
  length_bytes value := value.toList_length
  ofBytes_bytes value := by
    apply List.Vector.eq
    simp [List.take_of_length_le]

/-- As many bytes as an array has are its value. -/
theorem toList_ofBytes {n : ℕ} {bytes : List UInt8} (h : bytes.length=n) :
    (PayloadType.ofBytes bytes : List.Vector UInt8 n).toList=bytes := by
  subst h
  have hsplit : (PayloadType.ofBytes bytes : List.Vector UInt8 bytes.length).toList=
      bytes.take bytes.length++List.replicate (bytes.length-bytes.length) 0 := rfl
  rw [hsplit,List.take_length,Nat.sub_self,List.replicate_zero,List.append_nil]

/-- `pack_cmd` without payload: the value travels in `parameter_size`. -/
def packCmd (cmdType : CommandType) (parameterSize : UInt32) : List UInt8 :=
  CommandHead.bytes ⟨cmdType.code,parameterSize,0⟩

/-- `pack_cmd` with a payload; `parameter_size` is the low word of its size. -/
def packCmdPayload {T : Type} [PayloadType T] (cmdType : CommandType) (payload : T) : List UInt8 :=
  CommandHead.bytes ⟨cmdType.code,UInt32.ofNat (PayloadType.size T),
    getCommandExtensionType cmdType⟩++PayloadType.bytes payload

/-- `UdpPacketView`: bytes that hold a whole header. -/
structure UdpPacketView where
  /-- The bytes from `data_ptr_` on, `size_` in number. -/
  data : List UInt8
  /-- The check of the constructor. -/
  enough : headSize≤data.length

/-- Construction of a view. -/
def UdpPacketView.ofPacket (packet : List UInt8) : Except String UdpPacketView :=
  if h : packet.length<headSize then .error "Packet too small for header"
  else .ok ⟨packet,not_lt.mp h⟩

namespace UdpPacketView

/-- `header`; `none` would be a read past the end. -/
def header (view : UdpPacketView) : Option CommandHead :=
  (slice view.data 0 headSize).map CommandHead.ofBytes

/-- `command`. -/
def command (view : UdpPacketView) : Option CommandType :=
  view.header.map fun head => ⟨head.commandId⟩

/-- `get_payload`: the inner `none` is the null pointer, the outer one would be a read
past the end. -/
def getPayload (view : UdpPacketView) (T : Type) [PayloadType T] : Option (Option T) :=
  view.header.bind fun head =>
    if head.parameterSize.toNat≠PayloadType.size T ∨
        view.data.length<headSize+PayloadType.size T then some none
    else (slice view.data headSize (PayloadType.size T)).map fun bytes =>
      some (PayloadType.ofBytes bytes)

/-- `get_battery_level`. -/
def getBatteryLevel (view : UdpPacketView) : Option UInt32 :=
  view.header.map CommandHead.parameterSize

end UdpPacketView

/-- A header has its size. -/
@[simp] theorem length_headBytes (head : CommandHead) : head.bytes.length=headSize := by
  simp only [CommandHead.bytes,List.length_append,length_wordBytes,headSize]

/-- A header is read back. -/
@[simp] theorem ofBytes_headBytes (head : CommandHead) : CommandHead.ofBytes head.bytes=head := by
  simp only [CommandHead.bytes,CommandHead.ofBytes,word_zero,word_succ,word_last]

/-- A view exists of the packets that hold a whole header, and shows all their bytes. -/
theorem ofPacket_eq_ok {packet : List UInt8} {view : UdpPacketView} :
    UdpPacketView.ofPacket packet=.ok view ↔ view.data=packet := by
  obtain ⟨data,enough⟩ := view
  unfold UdpPacketView.ofPacket
  split
  next hshort =>
    refine iff_of_false (fun h => (nomatch h)) ?_
    rintro rfl
    exact absurd enough (not_le.mpr hshort)
  next hlong =>
    rw [Except.ok.injEq,UdpPacketView.mk.injEq]
    exact eq_comm

/-- Such packets are the ones with at least the bytes of a header. -/
theorem exists_view_iff {packet : List UInt8} :
    (∃ view,UdpPacketView.ofPacket packet=.ok view) ↔ headSize≤packet.length := by
  constructor
  · rintro ⟨view,h⟩
    rw [←ofPacket_eq_ok.mp h]
    exact view.enough
  · intro h
    exact ⟨⟨packet,h⟩,ofPacket_eq_ok.mpr rfl⟩

section

variable (view : UdpPacketView) {head : CommandHead} {rest : List UInt8}

/-- The header lies inside the data. -/
theorem header_eq : view.header=some (CommandHead.ofBytes (view.data.take headSize)) := by
  have hin : 0+headSize≤view.data.length := by
    rw [Nat.zero_add]
    exact view.enough
  rw [UdpPacketView.header,slice_of_le hin]
  rfl

/-- The header of data that begin with the bytes of one. -/
theorem header_of_data (h : view.data=head.bytes++rest) : view.header=some head := by
  rw [header_eq,h,List.take_left' (length_headBytes head),ofBytes_headBytes]

/-- A payload lies inside the data, and is handed out if both sizes are right. -/
theorem getPayload_eq (h : view.header=some head) (T : Type) [PayloadType T] :
    view.getPayload T=some
      (if head.parameterSize.toNat=PayloadType.size T ∧
          headSize+PayloadType.size T≤view.data.length
        then some (PayloadType.ofBytes ((view.data.drop headSize).take (PayloadType.size T)))
        else none) := by
  rw [UdpPacketView.getPayload,h,Option.bind_some]
  by_cases hfit : head.parameterSize.toNat=PayloadType.size T ∧
      headSize+PayloadType.size T≤view.data.length
  · rw [if_pos hfit,if_neg (by rw [not_or,not_not,not_lt]; exact hfit),slice_of_le hfit.2]
    rfl
  · rw [if_neg hfit,if_pos (by rw [ne_eq,←not_le,←not_and_or]; exact hfit)]

/-- The payload of data that end with the bytes of one, if the header says its size. -/
theorem getPayload_of_data {T : Type} [PayloadType T] {payload : T}
    (h : view.data=head.bytes++PayloadType.bytes payload)
    (hsize : head.parameterSize.toNat=PayloadType.size T) :
    view.getPayload T=some (some payload) := by
  have hlong : headSize+PayloadType.size T≤view.data.length := by
    rw [h,List.length_append,length_headBytes,PayloadType.length_bytes]
  have hrest : (view.data.drop headSize).take (PayloadType.size T)=PayloadType.bytes payload := by
    rw [h,List.drop_left' (length_headBytes head)]
    exact List.take_of_length_le (PayloadType.length_bytes payload).le
  rw [getPayload_eq view (header_of_data view h),if_pos ⟨hsize,hlong⟩,hrest,
    PayloadType.ofBytes_bytes]

end

/-- The size of a payload fits the header if it is below 4 GiB. -/
theorem toNat_ofNat_eq_iff (n : ℕ) : (UInt32.ofNat n).toNat=n ↔ n<2^32 := by
  have hlow : (UInt32.ofNat n).toNat=n%2^32 := UInt32.toNat_ofNat'
  rw [hlow]
  exact Nat.mod_eq_iff_lt (by norm_num)

/-- A packed value and its command are read back. -/
theorem packCmd_read (cmdType : CommandType) (value : UInt32) :
    ∃ view,UdpPacketView.ofPacket (packCmd cmdType value)=.ok view ∧
      view.command=some cmdType ∧ view.getBatteryLevel=some value := by
  obtain ⟨view,hview⟩ := exists_view_iff.mpr (length_headBytes ⟨cmdType.code,value,0⟩).ge
  have hdata : view.data=CommandHead.bytes ⟨cmdType.code,value,0⟩++[] :=
    (ofPacket_eq_ok.mp hview).trans (List.append_nil _).symm
  refine ⟨view,hview,?_,?_⟩
  · rw [UdpPacketView.command,header_of_data view hdata]
    rfl
  · rw [UdpPacketView.getBatteryLevel,header_of_data view hdata]
    rfl

/-- A packed command is read back, and so is its payload if its size fits the header. -/
theorem packCmdPayload_read {T : Type} [PayloadType T] (cmdType : CommandType) (payload : T) :
    ∃ view,UdpPacketView.ofPacket (packCmdPayload cmdType payload)=.ok view ∧
      view.command=some cmdType ∧
      (view.getPayload T=some (some payload) ↔ PayloadType.size T<2^32) := by
  have hlong : headSize≤(packCmdPayload cmdType payload).length := by
    rw [packCmdPayload,List.length_append,length_headBytes]
    exact Nat.le_add_right _ _
  obtain ⟨view,hview⟩ := exists_view_iff.mpr hlong
  have hdata := ofPacket_eq_ok.mp hview
  have hhead := header_of_data view hdata
  refine ⟨view,hview,?_,?_⟩
  · rw [UdpPacketView.command,hhead]
    rfl
  · rw [←toNat_ofNat_eq_iff]
    constructor
    · intro h
      rw [getPayload_eq view hhead,Option.some.injEq] at h
      by_contra hsize
      rw [if_neg (fun hfit => hsize hfit.1)] at h
      cases h
    · exact getPayload_of_data view hdata

/-- A proper prefix is shorter. -/
theorem length_lt_of_prefix {part whole : List UInt8} (h : part<+:whole) (hne : part≠whole) :
    part.length<whole.length :=
  lt_of_le_of_ne h.length_le fun heq => hne (h.eq_of_length heq)

/-- A proper prefix of a packet without payload has no view. -/
theorem packCmd_prefix {cmdType : CommandType} {value : UInt32} {part : List UInt8}
    (h : part<+:packCmd cmdType value) (hne : part≠packCmd cmdType value) :
    ¬∃ view,UdpPacketView.ofPacket part=.ok view := by
  have hshort := length_lt_of_prefix h hne
  rw [packCmd,length_headBytes] at hshort
  rw [exists_view_iff]
  exact not_le.mpr hshort

/-- A view of a proper prefix of a packet with payload hands out no payload. -/
theorem packCmdPayload_prefix {T : Type} [PayloadType T] (hsmall : PayloadType.size T<2^32)
    {cmdType : CommandType} {payload : T} {part : List UInt8}
    (h : part<+:packCmdPayload cmdType payload) (hne : part≠packCmdPayload cmdType payload)
    {view : UdpPacketView} (hview : UdpPacketView.ofPacket part=.ok view)
    (U : Type) [PayloadType U] : view.getPayload U=some none := by
  have hshort := length_lt_of_prefix h hne
  obtain rfl := ofPacket_eq_ok.mp hview
  -- the header is whole, since there is a view
  have hhead : view.header=some ⟨cmdType.code,UInt32.ofNat (PayloadType.size T),
      getCommandExtensionType cmdType⟩ := by
    obtain ⟨missing,hwhole⟩ := h
    have htake : view.data.take headSize=(packCmdPayload cmdType payload).take headSize := by
      rw [←hwhole,List.take_append_of_le_length view.enough]
    rw [header_eq,htake,packCmdPayload,List.take_left' (length_headBytes _),ofBytes_headBytes]
  rw [packCmdPayload,List.length_append,length_headBytes,PayloadType.length_bytes] at hshort
  rw [getPayload_eq view hhead,if_neg]
  rintro ⟨hsize,hlong⟩
  rw [(toNat_ofNat_eq_iff _).mpr hsmall] at hsize
  omega

/-- The codec: commands and values are read back, and so is exactly every payload whose
size fits the header; views exist of data with a whole header only; a payload is handed
out exactly if both sizes are right, and no read leaves the data; every proper prefix of a
packet is refused. -/
theorem codec_sound :
    (∀ cmdType value,∃ view,UdpPacketView.ofPacket (packCmd cmdType value)=.ok view ∧
      view.command=some cmdType ∧ view.getBatteryLevel=some value) ∧
    (∀ (T : Type) [PayloadType T] (cmdType : CommandType) (payload : T),
      ∃ view,UdpPacketView.ofPacket (packCmdPayload cmdType payload)=.ok view ∧
        view.command=some cmdType ∧
        (view.getPayload T=some (some payload) ↔ PayloadType.size T<2^32)) ∧
    (∀ data : List UInt8,(∃ view,UdpPacketView.ofPacket data=.ok view) ↔ headSize≤data.length) ∧
    (∀ view : UdpPacketView,∃ head,view.header=some head ∧
      ∀ (T : Type) [PayloadType T],∃ found,view.getPayload T=some found ∧
        (found.isSome=true ↔ head.parameterSize.toNat=PayloadType.size T ∧
          headSize+PayloadType.size T≤view.data.length)) ∧
    (∀ cmdType value part,part<+:packCmd cmdType value → part≠packCmd cmdType value →
      ¬∃ view,UdpPacketView.ofPacket part=.ok view) ∧
    (∀ (T : Type) [PayloadType T] (cmdType : CommandType) (payload : T) (part : List UInt8),
      PayloadType.size T<2^32 → part<+:packCmdPayload cmdType payload →
      part≠packCmdPayload cmdType payload →
      ∀ view,UdpPacketView.ofPacket part=.ok view →
        ∀ (U : Type) [PayloadType U],view.getPayload U=some none) := by
  refine ⟨packCmd_read,fun T _ => packCmdPayload_read,fun _ => exists_view_iff,?_,
    fun _ _ _ => packCmd_prefix,?_⟩
  · intro view
    refine ⟨_,header_eq view,fun T _ => ⟨_,getPayload_eq view (header_eq view) T,?_⟩⟩
    split
    · exact iff_of_true rfl ‹_›
    · exact iff_of_false Bool.false_ne_true ‹_›
  · intro T _ cmdType payload part hsmall hpart hne view hview U _
    exact packCmdPayload_prefix hsmall hpart hne hview U

/-- A payload of 4 GiB is announced as empty and not handed out. -/
theorem hugePayload_not_read :
    ¬∀ (T : Type) [PayloadType T] (cmdType : CommandType) (payload : T),
      ∃ view,UdpPacketView.ofPacket (packCmdPayload cmdType payload)=.ok view ∧
        view.command=some cmdType ∧ view.getPayload T=some (some payload) := by
  intro hall
  obtain ⟨view,hview,_,hread⟩ :=
    hall (List.Vector UInt8 (2^32)) axisCommandNoDeadZone (List.Vector.replicate (2^32) 0)
  obtain ⟨other,hother,_,hiff⟩ := packCmdPayload_read axisCommandNoDeadZone
    (List.Vector.replicate (2^32) (0 : UInt8))
  rw [hview,Except.ok.injEq] at hother
  rw [hother] at hread
  exact lt_irrefl _ (hiff.mp hread)

/-- `parameter_size` as the handler of motion state reports reads it. -/
theorem parameterSize_eq (packet : List UInt8) :
    DogStand.parameterSize packet=
      (CommandHead.ofBytes (packet.take headSize)).parameterSize.toNat := by
  have hword : ((packet.take headSize).drop (4*1)).take 4=(packet.drop 4).take 4 := by
    rw [List.drop_take,List.take_take]
    rfl
  dsimp only [CommandHead.ofBytes]
  rw [word,hword,toNat_bytesWord (List.length_take_le 4 _),DogStand.parameterSize]
  induction (packet.drop 4).take 4 with
  | nil => rfl
  | cons b rest ih => rw [List.foldr_cons,ih,ofBytes]

/-- The reading of motion state reports is that of a view at a payload of 60 bytes. -/
theorem motionState_getPayload (packet : List UInt8) :
    DogStand.getPayload packet=(UdpPacketView.ofPacket packet).map fun view =>
      (view.getPayload (List.Vector UInt8 60)).join.map fun payload =>
        ⟨payload.toList.getD 0 0,payload.toList.getD 1 0⟩ := by
  unfold DogStand.getPayload UdpPacketView.ofPacket
  by_cases hshort : packet.length<headSize
  · rw [dif_pos hshort]
    exact if_pos hshort
  have hlong : ¬packet.length<12 := hshort
  rw [dif_neg hshort,if_neg hlong,Except.map,parameterSize_eq]
  -- the two sides make the same two comparisons
  have hread := getPayload_eq ⟨packet,not_lt.mp hshort⟩ (header_eq _) (List.Vector UInt8 60)
  by_cases hfit : (CommandHead.ofBytes (packet.take headSize)).parameterSize.toNat=60 ∧
      headSize+60≤packet.length
  · rw [if_neg (by rw [not_or,not_not,not_lt]; exact hfit),hread.trans (congrArg some (if_pos hfit))]
    have hlen : ((packet.drop headSize).take 60).length=60 := by
      rw [List.length_take,List.length_drop]
      omega
    have hfirst : ((packet.drop headSize).take 60).getD 0 0=packet.getD 12 0 := by
      simp [List.getD_eq_getElem?_getD,headSize]
    have hsecond : ((packet.drop headSize).take 60).getD 1 0=packet.getD 13 0 := by
      simp [List.getD_eq_getElem?_getD,headSize]
    dsimp only [Option.join_some,Option.map_some]
    rw [←hfirst,←hsecond,←toList_ofBytes hlen]
    rfl
  · rw [if_pos (by rw [ne_eq,←not_le,←not_and_or]; exact hfit),
      hread.trans (congrArg some (if_neg hfit))]
    rfl

end Dankong.DogUdp

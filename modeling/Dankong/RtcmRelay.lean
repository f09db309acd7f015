import Dankong.Base64
import Mathlib.Tactic.Common

/-!
# Relaying correction data to the flight controller

`send_rtcm_data` cuts the data into pieces of at most 180 bytes and sends each in
the field `data_base64` of a message. The receiver decodes that field as base64.
The bytes are put there as they are, so nothing but the empty string arrives.
-/

namespace Dankong.Rtcm

open Base64

/-- `mavsdk::Rtk::RtcmData`. -/
structure RtcmData where
  /-- `data_base64`. -/
  dataBase64 : List UInt8

/-- `MAX_CHUNK`. -/
def maxChunk : ℕ := 180

/-- The loop of `send_rtcm_data`, from a position on: the messages sent. -/
def sendFrom (data : List UInt8) (i : ℕ) : List RtcmData :=
  if i<data.length then
    ⟨(data.drop i).take (min maxChunk (data.length-i))⟩::sendFrom data (i+maxChunk)
  else []
termination_by data.length-i
decreasing_by
  rw [maxChunk]
  omega

/-- `send_rtcm_data`. -/
def sendRtcmData (data : List UInt8) : List RtcmData := sendFrom data 0

/-- The receiver gets the data: every message decodes to at least one and at most 180
bytes, and together these are the data. -/
def Relayed (data : List UInt8) (messages : List RtcmData) : Prop :=
  ∃ pieces : List (List UInt8),messages.map (fun m => decode m.dataBase64)=pieces.map some ∧
    (∀ m∈messages,m.dataBase64≠[]) ∧ (∀ piece∈pieces,piece.length≤180) ∧ pieces.flatten=data

/-- The fields of the messages from a position on are the data from there on. -/
theorem flatten_sendFrom (data : List UInt8) (i : ℕ) :
    ((sendFrom data i).map RtcmData.dataBase64).flatten=data.drop i := by
  induction i using sendFrom.induct data with
  | case1 i hlt ih =>
    have htake : (data.drop i).take (min maxChunk (data.length-i))=
        (data.drop i).take maxChunk := by
      rw [List.take_eq_take_iff,List.length_drop,Nat.min_assoc,Nat.min_self]
    rw [sendFrom,if_pos hlt,List.map_cons,List.flatten_cons,ih,htake,←List.drop_drop]
    exact List.take_append_drop maxChunk (data.drop i)
  | case2 i hlt =>
    rw [sendFrom,if_neg hlt,List.drop_eq_nil_of_le (Nat.not_lt.mp hlt)]
    rfl

/-- Texts that decode to pieces are longer than these. -/
theorem length_of_decoded {texts pieces : List (List UInt8)}
    (h : texts.map decode=pieces.map some) : 4*pieces.flatten.length≤3*texts.flatten.length := by
  induction texts generalizing pieces with
  | nil =>
    rw [List.map_nil] at h
    rw [List.map_eq_nil_iff.mp h.symm]
    exact Nat.le_refl 0
  | cons text rest ih =>
    cases pieces with
    | nil => cases h
    | cons piece others =>
      obtain ⟨hpiece,hothers⟩ := List.cons.inj h
      have hlength := length_decode hpiece
      have hrest := ih hothers
      rw [List.flatten_cons,List.flatten_cons,List.length_append,List.length_append]
      omega

/-- The data arrive exactly if there are none. -/
theorem relayed_iff (data : List UInt8) : Relayed data (sendRtcmData data) ↔ data=[] := by
  constructor
  · rintro ⟨pieces,hdecoded,_,_,hdata⟩
    have htexts : ((sendRtcmData data).map RtcmData.dataBase64).map decode=pieces.map some := by
      rw [List.map_map]
      exact hdecoded
    have hlength := length_of_decoded htexts
    have hraw : ((sendRtcmData data).map RtcmData.dataBase64).flatten=data :=
      flatten_sendFrom data 0
    rw [hraw,hdata] at hlength
    exact List.length_eq_zero_iff.mp (by omega)
  · rintro rfl
    have hnone : sendRtcmData []=[] := by
      rw [sendRtcmData,sendFrom,if_neg (by decide)]
    rw [hnone]
    exact ⟨[],rfl,fun _ h => (nomatch h),fun _ h => (nomatch h),rfl⟩

/-- One message of a correction stream: the byte that begins a frame. -/
theorem preamble_not_relayed : ¬∀ data,Relayed data (sendRtcmData data) := by
  intro hall
  obtain ⟨pieces,hdecoded,_⟩ := hall [0xD3]
  have hsent : sendRtcmData [0xD3]=[⟨[0xD3]⟩] := by
    rw [sendRtcmData,sendFrom,if_pos (by decide),sendFrom,if_neg (by decide)]
    rfl
  rw [hsent] at hdecoded
  cases pieces with
  | nil => cases hdecoded
  | cons piece rest => cases hdecoded

end Dankong.Rtcm

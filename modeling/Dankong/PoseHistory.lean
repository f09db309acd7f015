import Mathlib.Algebra.Order.Field.Basic
import Mathlib.Algebra.Order.Ring.Rat
import Mathlib.Tactic.NormNum
import Dankong.StampedLookup
import Dankong.Vectors

/-!
# Pose history

The positions, attitudes and gimbal angles of the last two seconds, kept in five
buffers, and the lookup of a pose at the stamp of an image. Stamps and values
are read in an ordered field. Spherical interpolation is a parameter.
-/

namespace Dankong

open Runs StampedBuffer

/-- The five buffers. -/
structure PoseHistory (R Q : Type*) [LT R] where
  /-- Positions in east, north, up. -/
  posBuffer : Buffer R (Vec3 R)
  /-- Attitudes. -/
  quatBuffer : Buffer R Q
  /-- Roll angles of the gimbal. -/
  rollBuf : Buffer R R
  /-- Pitch angles of the gimbal. -/
  pitchBuf : Buffer R R
  /-- Yaw angles of the gimbal. -/
  yawBuf : Buffer R R

namespace PoseHistory

variable {R Q : Type*}

/-- One measurement with its stamp. -/
inductive Push (R Q : Type*) where
  | pos (t : R) (p : Vec3 R)
  | quat (t : R) (q : Q)
  | gimbalRoll (t val : R)
  | gimbalPitch (t val : R)
  | gimbalYaw (t val : R)
  deriving DecidableEq, Repr

variable [Field R] [LinearOrder R]

/-- Samples that are older than the newest one by more than this are pruned. -/
def maxHistorySec : R := 2.0

/-- The largest distance between a query and the end of a buffer that answers it. -/
def maxToleranceSec : R := 0.15

/-- No measurement has arrived. -/
def fresh : PoseHistory R Q := ⟨Buffer.empty,Buffer.empty,Buffer.empty,Buffer.empty,Buffer.empty⟩

/-- Take an angle. -/
def pushScalar (buf : Buffer R R) (t val : R) : Buffer R R := buf.push maxHistorySec ⟨t,val⟩

/-- Take a position. -/
def pushPos (h : PoseHistory R Q) (t : R) (p : Vec3 R) : PoseHistory R Q :=
  {h with posBuffer := h.posBuffer.push maxHistorySec ⟨t,p⟩}

/-- Take an attitude. -/
def pushQuat (h : PoseHistory R Q) (t : R) (q : Q) : PoseHistory R Q :=
  {h with quatBuffer := h.quatBuffer.push maxHistorySec ⟨t,q⟩}

/-- Take a roll angle of the gimbal. -/
def pushGimbalRoll (h : PoseHistory R Q) (t val : R) : PoseHistory R Q :=
  {h with rollBuf := pushScalar h.rollBuf t val}

/-- Take a pitch angle of the gimbal. -/
def pushGimbalPitch (h : PoseHistory R Q) (t val : R) : PoseHistory R Q :=
  {h with pitchBuf := pushScalar h.pitchBuf t val}

/-- Take a yaw angle of the gimbal. -/
def pushGimbalYaw (h : PoseHistory R Q) (t val : R) : PoseHistory R Q :=
  {h with yawBuf := pushScalar h.yawBuf t val}

/-- Take one measurement. -/
def onPush (h : PoseHistory R Q) : Push R Q → PoseHistory R Q
  | .pos t p => h.pushPos t p
  | .quat t q => h.pushQuat t q
  | .gimbalRoll t val => h.pushGimbalRoll t val
  | .gimbalPitch t val => h.pushGimbalPitch t val
  | .gimbalYaw t val => h.pushGimbalYaw t val

/-- The angle between two samples. -/
def interpolate (before after : Stamped R R) (t : R) : R :=
  let alpha := (t-before.stamp)/(after.stamp-before.stamp)
  before.value+alpha*(after.value-before.value)

/-- The position between two samples, or the older one if they are close together. -/
def interpolatePos (before after : Stamped R (Vec3 R)) (t : R) : Vec3 R :=
  let dt := after.stamp-before.stamp
  if dt<1e-6 then before.value
  else
    let alpha := (t-before.stamp)/dt
    let d := after.value.sub before.value
    before.value.add ⟨alpha*d.x,alpha*d.y,alpha*d.z⟩

/-- The attitude between two samples, or the older one if they are close together. -/
def interpolateQuat (slerp : Q → R → Q → Q) (before after : Stamped R Q) (t : R) : Q :=
  let dt := after.stamp-before.stamp
  if dt<1e-6 then before.value
  else slerp before.value ((t-before.stamp)/dt) after.value

/-- The angle of one gimbal axis. -/
def getScalarAt (buf : Buffer R R) (t : R) : Option R :=
  (lookup maxToleranceSec interpolate t buf.samples).map Prod.fst

/-- The angles that a gimbal lookup found. -/
structure GimbalAngles (R : Type*) where
  /-- Roll, if found. -/
  roll : Option R
  /-- Pitch, if found. -/
  pitch : Option R
  /-- Yaw, if found. -/
  yaw : Option R
  deriving DecidableEq, Repr

/-- The gimbal angles at a time, and whether any was found. -/
def getGimbalAt (h : PoseHistory R Q) (t : R) : GimbalAngles R×Bool :=
  let r := getScalarAt h.rollBuf t
  let p := getScalarAt h.pitchBuf t
  let y := getScalarAt h.yawBuf t
  (⟨r,p,y⟩,r.isSome||p.isSome||y.isSome)

/-- Position, attitude and distance to the samples behind them. -/
def getPoseAt (slerp : Q → R → Q → Q) (h : PoseHistory R Q) (t : R) : Option (Vec3 R×Q×R) :=
  if h.posBuffer.samples.isEmpty || h.quatBuffer.samples.isEmpty then none
  else
    match lookup maxToleranceSec interpolatePos t h.posBuffer.samples with
    | none => none
    | some (outP,minDiffP) =>
      match lookup maxToleranceSec (interpolateQuat slerp) t h.quatBuffer.samples with
      | none => none
      | some (outQ,minDiffQ) => some (outP,outQ,max minDiffP minDiffQ)

/-- Record one measurement for good, unless it is late for its stream. -/
def record (h : PoseHistory R Q) : Push R Q → PoseHistory R Q
  | .pos t p => {h with posBuffer := h.posBuffer.accept ⟨t,p⟩}
  | .quat t q => {h with quatBuffer := h.quatBuffer.accept ⟨t,q⟩}
  | .gimbalRoll t val => {h with rollBuf := h.rollBuf.accept ⟨t,val⟩}
  | .gimbalPitch t val => {h with pitchBuf := h.pitchBuf.accept ⟨t,val⟩}
  | .gimbalYaw t val => {h with yawBuf := h.yawBuf.accept ⟨t,val⟩}

/-- Every buffer is an end of the record of its stream. -/
structure AllRetained (h recorded : PoseHistory R Q) : Prop where
  pos : Retained h.posBuffer recorded.posBuffer
  quat : Retained h.quatBuffer recorded.quatBuffer
  roll : Retained h.rollBuf recorded.rollBuf
  pitch : Retained h.pitchBuf recorded.pitchBuf
  yaw : Retained h.yawBuf recorded.yawBuf

/-- Every buffer keeps what it must of the record of its stream. -/
structure AllKept (h recorded : PoseHistory R Q) : Prop where
  pos : Kept maxHistorySec h.posBuffer recorded.posBuffer
  quat : Kept maxHistorySec h.quatBuffer recorded.quatBuffer
  roll : Kept maxHistorySec h.rollBuf recorded.rollBuf
  pitch : Kept maxHistorySec h.pitchBuf recorded.pitchBuf
  yaw : Kept maxHistorySec h.yawBuf recorded.yawBuf

/-- What is kept is an end of the record. -/
theorem AllKept.retained {h recorded : PoseHistory R Q} (hk : AllKept h recorded) :
    AllRetained h recorded :=
  ⟨hk.pos.retained,hk.quat.retained,hk.roll.retained,hk.pitch.retained,hk.yaw.retained⟩

/-- A measurement reaches the buffer and the record of its own stream. -/
theorem allKept_push [IsStrictOrderedRing R] {h recorded : PoseHistory R Q}
    (hk : AllKept h recorded) (p : Push R Q) : AllKept (onPush h p) (record recorded p) := by
  cases p with
  | pos t p => exact {hk with pos := kept_push hk.pos ⟨t,p⟩}
  | quat t q => exact {hk with quat := kept_push hk.quat ⟨t,q⟩}
  | gimbalRoll t val => exact {hk with roll := kept_push hk.roll ⟨t,val⟩}
  | gimbalPitch t val => exact {hk with pitch := kept_push hk.pitch ⟨t,val⟩}
  | gimbalYaw t val => exact {hk with yaw := kept_push hk.yaw ⟨t,val⟩}

/-- Further pushes go on keeping it. -/
theorem allKept_runFrom [IsStrictOrderedRing R] (pushes : List (Push R Q))
    {h recorded : PoseHistory R Q} (hk : AllKept h recorded) :
    AllKept (runFrom onPush h pushes) (runFrom record recorded pushes) := by
  induction pushes generalizing h recorded with
  | nil => exact hk
  | cons p rest ih => exact ih (allKept_push hk p)

/-- After any pushes every buffer keeps what it must. -/
theorem allKept_run [IsStrictOrderedRing R] (pushes : List (Push R Q)) :
    AllKept (runFrom onPush fresh pushes) (runFrom record (fresh : PoseHistory R Q) pushes) :=
  allKept_runFrom pushes
    ⟨kept_empty _,kept_empty _,kept_empty _,kept_empty _,kept_empty _⟩

/-- A recorded sample lies within the tolerance of the query. -/
def Backed {V : Type*} (recorded : Buffer R V) (t : R) : Prop :=
  Near maxToleranceSec recorded.samples t

/-- The query lies between two neighbouring samples, out of tolerance of both. -/
def Gap {V : Type*} (buf : Buffer R V) (t : R) : Prop := InGap maxToleranceSec buf.samples t

/-- The buffer spans the query, up to the tolerance at both ends. -/
def Spans {V : Type*} (buf : Buffer R V) (t : R) : Prop := Reaches maxToleranceSec buf.samples t

/-- What is answered is backed by recorded samples near the query, and a query in
a gap of a recorded stream fails for that stream. -/
structure AnswersBacked (slerp : Q → R → Q → Q) (h recorded : PoseHistory R Q) (t : R) : Prop where
  pose : ∀ answer,h.getPoseAt slerp t=some answer →
    Backed recorded.posBuffer t ∧ Backed recorded.quatBuffer t
  roll : ∀ val,(h.getGimbalAt t).1.roll=some val → Backed recorded.rollBuf t
  pitch : ∀ val,(h.getGimbalAt t).1.pitch=some val → Backed recorded.pitchBuf t
  yaw : ∀ val,(h.getGimbalAt t).1.yaw=some val → Backed recorded.yawBuf t
  poseGap : Gap recorded.posBuffer t ∨ Gap recorded.quatBuffer t → h.getPoseAt slerp t=none
  rollGap : Gap recorded.rollBuf t → (h.getGimbalAt t).1.roll=none
  pitchGap : Gap recorded.pitchBuf t → (h.getGimbalAt t).1.pitch=none
  yawGap : Gap recorded.yawBuf t → (h.getGimbalAt t).1.yaw=none

/-- No angle buffer has a gap at the query, and if the position and the attitude
buffer both span it, neither of them has. -/
structure ClearOfGaps (h : PoseHistory R Q) (t : R) : Prop where
  roll : ¬Gap h.rollBuf t
  pitch : ¬Gap h.pitchBuf t
  yaw : ¬Gap h.yawBuf t
  pose : Spans h.posBuffer t → Spans h.quatBuffer t → ¬Gap h.posBuffer t ∧ ¬Gap h.quatBuffer t

variable [IsStrictOrderedRing R] {t : R} {slerp : Q → R → Q → Q}

/-- The tolerance is positive. -/
theorem maxToleranceSec_nonneg : (0 : R) ≤ maxToleranceSec := by
  unfold maxToleranceSec
  norm_num

/-- An angle is found exactly if its buffer spans the query. -/
theorem getScalarAt_isSome_iff (buf : Buffer R R) : (getScalarAt buf t).isSome ↔ Spans buf t := by
  rw [getScalarAt,Option.isSome_map]
  exact lookup_isSome_iff interpolate maxToleranceSec_nonneg buf.ordered

/-- A pose is found exactly if both buffers span the query. -/
theorem getPoseAt_isSome_iff (h : PoseHistory R Q) :
    (h.getPoseAt slerp t).isSome ↔ Spans h.posBuffer t ∧ Spans h.quatBuffer t := by
  have hpos := lookup_isSome_iff (t := t) interpolatePos maxToleranceSec_nonneg h.posBuffer.ordered
  have hquat := lookup_isSome_iff (t := t) (interpolateQuat slerp) maxToleranceSec_nonneg
    h.quatBuffer.ordered
  rw [Spans,Spans,←hpos,←hquat,getPoseAt]
  split_ifs with hempty
  · rcases (Bool.or_eq_true _ _).mp hempty with hnil|hnil
    · simp [List.isEmpty_iff.mp hnil,lookup]
    · simp [List.isEmpty_iff.mp hnil,lookup]
  · cases lookup maxToleranceSec interpolatePos t h.posBuffer.samples with
    | none => simp
    | some p => cases lookup maxToleranceSec (interpolateQuat slerp) t h.quatBuffer.samples <;> simp

/-- A query in a gap of a record is not backed by it. -/
theorem not_backed_of_gap {V : Type*} {recorded : Buffer R V} (hgap : Gap recorded t) :
    ¬Backed recorded t :=
  not_near_of_inGap recorded.ordered hgap

/-- What is backed whenever it is answered is not answered in a gap of the record. -/
theorem none_of_gap {V A : Type*} {recorded : Buffer R V} {answer : Option A}
    (hbacked : ∀ a,answer=some a → Backed recorded t) (hgap : Gap recorded t) : answer=none := by
  cases answer with
  | none => rfl
  | some a => exact absurd (hbacked a rfl) (not_backed_of_gap hgap)

/-- Angles are backed exactly outside the gaps of their buffer. -/
theorem scalar_backed_iff {buf recorded : Buffer R R} (hr : Retained buf recorded) :
    (∀ val,getScalarAt buf t=some val → Backed recorded t) ↔ ¬Gap buf t := by
  have hiff := answered_near_iff (t := t) interpolate maxToleranceSec_nonneg hr
  rw [lookup_isSome_iff _ maxToleranceSec_nonneg buf.ordered] at hiff
  rw [Gap,←hiff]
  constructor
  · intro h hspans
    obtain ⟨val,hval⟩ := Option.isSome_iff_exists.mp ((getScalarAt_isSome_iff buf).mpr hspans)
    exact h val hval
  · intro h val hval
    exact h ((getScalarAt_isSome_iff buf).mp (by rw [hval]; rfl))

/-- Where both buffers span the query, a pose is backed exactly outside their gaps. -/
theorem pose_backed_iff {h recorded : PoseHistory R Q} (hr : AllRetained h recorded) :
    (∀ answer,h.getPoseAt slerp t=some answer →
      Backed recorded.posBuffer t ∧ Backed recorded.quatBuffer t) ↔
      (Spans h.posBuffer t → Spans h.quatBuffer t → ¬Gap h.posBuffer t ∧ ¬Gap h.quatBuffer t) := by
  have hbacked : Spans h.posBuffer t → Spans h.quatBuffer t →
      (Backed recorded.posBuffer t ∧ Backed recorded.quatBuffer t ↔
        ¬Gap h.posBuffer t ∧ ¬Gap h.quatBuffer t) := by
    intro hpos hquat
    have hp := (near_record_iff hr.pos hpos).trans (near_iff h.posBuffer.ordered hpos)
    have hq := (near_record_iff hr.quat hquat).trans (near_iff h.quatBuffer.ordered hquat)
    exact and_congr hp hq
  constructor
  · intro hall hpos hquat
    obtain ⟨answer,hanswer⟩ :=
      Option.isSome_iff_exists.mp ((getPoseAt_isSome_iff h).mpr ⟨hpos,hquat⟩)
    exact (hbacked hpos hquat).mp (hall answer hanswer)
  · intro hall answer hanswer
    have hspans := (getPoseAt_isSome_iff h).mp (by rw [hanswer]; rfl)
    exact (hbacked hspans.1 hspans.2).mpr (hall hspans.1 hspans.2)

/-- Whatever was pushed, lookups are backed by samples near the query exactly if
the query is clear of gaps: between two buffered samples no tolerance is checked. -/
theorem answersBacked_iff (slerp : Q → R → Q → Q) (pushes : List (Push R Q)) (t : R) :
    AnswersBacked slerp (runFrom onPush fresh pushes) (runFrom record fresh pushes) t ↔
      ClearOfGaps (runFrom onPush fresh pushes) t := by
  have hr : AllRetained (runFrom onPush fresh pushes)
      (runFrom record (fresh : PoseHistory R Q) pushes) := (allKept_run pushes).retained
  generalize runFrom onPush fresh pushes=h at hr ⊢
  generalize runFrom record fresh pushes=recorded at hr ⊢
  constructor
  · intro ha
    exact ⟨(scalar_backed_iff hr.roll).mp ha.roll,(scalar_backed_iff hr.pitch).mp ha.pitch,
      (scalar_backed_iff hr.yaw).mp ha.yaw,(pose_backed_iff hr).mp ha.pose⟩
  · intro hc
    have hpose : ∀ answer,h.getPoseAt slerp t=some answer →
        Backed recorded.posBuffer t ∧ Backed recorded.quatBuffer t := (pose_backed_iff hr).mpr hc.pose
    have hroll := (scalar_backed_iff hr.roll).mpr hc.roll
    have hpitch := (scalar_backed_iff hr.pitch).mpr hc.pitch
    have hyaw := (scalar_backed_iff hr.yaw).mpr hc.yaw
    refine ⟨hpose,hroll,hpitch,hyaw,?_,none_of_gap hroll,none_of_gap hpitch,none_of_gap hyaw⟩
    rintro (hgap|hgap)
    · exact none_of_gap (fun a ha => (hpose a ha).1) hgap
    · exact none_of_gap (fun a ha => (hpose a ha).2) hgap

/-- Positions a second apart, with an attitude in between. -/
def sparsePushes : List (Push ℚ (Vec4 ℚ)) :=
  [.pos 0 ⟨0,0,1⟩,.quat (1/2) ⟨0,0,0,1⟩,.pos 1 ⟨8,0,1⟩]

/-- The equivalence at the attitude's time. -/
theorem sparsePushes_backed_iff :
    AnswersBacked (fun q _ _ => q) (runFrom onPush fresh sparsePushes)
        (runFrom record fresh sparsePushes) (1/2) ↔
      ClearOfGaps (runFrom onPush (fresh : PoseHistory ℚ (Vec4 ℚ)) sparsePushes) (1/2) :=
  answersBacked_iff (fun q _ _ => q) sparsePushes (1/2)

/-- A pose is found half a second away from the nearest recorded position. -/
theorem pose_answered_in_gap :
    ¬AnswersBacked (fun q _ _ => q) (runFrom onPush fresh sparsePushes)
      (runFrom record fresh sparsePushes) (1/2) := by
  intro h
  have hfar := (h.pose (⟨4,0,1⟩,⟨0,0,0,1⟩,1/2) (by decide +kernel)).1
  revert hfar
  unfold Backed Near
  decide +kernel

end PoseHistory

end Dankong

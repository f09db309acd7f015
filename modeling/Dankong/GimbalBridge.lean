import Dankong.History
import Dankong.StateUtils

/-!
# Control of the gimbal

The service of `GimbalBridge` takes control of the gimbal, sets the mode unless it
is set already, sends the pitch and releases control. Control is asked for the
broadcast address first and for gimbal 1 if that fails; it is always released for
the broadcast address, and not at all when the mode cannot be set. The calls to
the library and their results are recorded, latest first.
-/

namespace Dankong.Gimbal

open History Runs StateUtils

/-- `mavsdk::Gimbal::Result`. -/
inductive GimbalResult where
  | unknown
  | success
  | error
  | timeout
  | unsupported
  | noSystem
  | invalidArgument
  deriving DecidableEq

/-- `mavsdk::MavlinkPassthrough::Result`; other results keep their number. -/
inductive PassthroughResult where
  | success
  | failed (code : ℤ)
  deriving DecidableEq

/-- `CommandLong`, the fields that are written; `none` stands for `NAN`. -/
structure CommandLong where
  /-- `target_compid`. -/
  targetCompid : ℕ := 0
  /-- `command`. -/
  command : ℕ := 0
  /-- `param1`. -/
  param1 : Option ℝ := some 0.0
  /-- `param2`. -/
  param2 : Option ℝ := some 0.0
  /-- `param3`. -/
  param3 : Option ℝ := some 0.0
  /-- `param4`. -/
  param4 : Option ℝ := some 0.0
  /-- `param5`. -/
  param5 : Option ℝ := some 0.0
  /-- `param7`. -/
  param7 : Option ℝ := some 0.0

/-- A call to the library, with its result. -/
inductive GimbalCall where
  | takeControl (id : ℕ) (result : GimbalResult)
  | releaseControl (id : ℕ) (result : GimbalResult)
  /-- The command that sets a mode. -/
  | configure (mode : String) (cmd : CommandLong) (result : PassthroughResult)
  /-- The command that sets the pitch. -/
  | pitch (cmd : CommandLong) (result : PassthroughResult)
  /-- The parameters `angle_mode` and `gimbal_angle`. -/
  | setParam (angleMode : String) (gimbalAngle : ℝ)

/-- A service call, with the results that the calls inside it would have. -/
structure ServiceCall where
  /-- `req.mode`. -/
  mode : String
  /-- `req.angle`, positive downwards. -/
  angle : ℝ
  /-- Result of `take_control(0)`. -/
  take0 : GimbalResult
  /-- Result of `take_control(1)`. -/
  take1 : GimbalResult
  /-- Result of the mode command. -/
  configured : PassthroughResult
  /-- Result of the pitch command. -/
  pitched : PassthroughResult
  /-- Result of `release_control(0)`. -/
  released : GimbalResult

/-- The answer of the service. -/
structure Response where
  /-- `res.success`. -/
  success : Bool
  /-- `res.message`. -/
  message : String

/-- The pitch limits of `GlobalConfig`. -/
structure GimbalConfig where
  /-- `gimbal_pitch_min`. -/
  gimbalPitchMin : ℝ := -90.0
  /-- `gimbal_pitch_max`. -/
  gimbalPitchMax : ℝ := 35.0

/-- `GimbalBridge`, with the calls it has made. -/
structure GimbalBridge where
  /-- `control_taken_`. -/
  controlTaken : Bool := false
  /-- `last_dji_mode_`. -/
  lastDjiMode : String := ""
  /-- The calls to the library, latest first. -/
  log : List GimbalCall := []

/-- One more call. -/
def GimbalBridge.logged (s : GimbalBridge) (call : GimbalCall) : GimbalBridge :=
  { s with log := call::s.log }

/-- `control_taken_` is set. -/
def GimbalBridge.inControl (s : GimbalBridge) : GimbalBridge := { s with controlTaken := true }

/-- `ensure_control`: the broadcast address first, gimbal 1 second. -/
def ensureControl (call : ServiceCall) (s : GimbalBridge) : GimbalBridge×Bool :=
  if s.controlTaken=true then (s,true)
  else
    let s := s.logged (.takeControl 0 call.take0)
    if call.take0=.success then (s.inControl,true)
    else
      let s := s.logged (.takeControl 1 call.take1)
      if call.take1=.success then (s.inControl,true) else (s,false)

/-- `release_control`. -/
def releaseControl (call : ServiceCall) (s : GimbalBridge) : GimbalBridge :=
  if s.controlTaken=true then
    { s.logged (.releaseControl 0 call.released) with controlTaken := false }
  else s

noncomputable section

/-- `apply_dji_mode`: nothing is sent for the mode that was set last. -/
def applyDjiMode (call : ServiceCall) (s : GimbalBridge) : GimbalBridge×Bool :=
  if call.mode=s.lastDjiMode then (s,true)
  else
    let cmd : CommandLong :=
      { targetCompid := 154, command := 204, param4 := some 3.0, param7 := some 0.0 }
    let s := s.logged (.configure call.mode cmd call.configured)
    if call.configured=.success then ({ s with lastDjiMode := call.mode },true) else (s,false)

/-- `send_pitch_only`. -/
def sendPitchOnly (pitchDji : ℝ) (call : ServiceCall) (s : GimbalBridge) : GimbalBridge :=
  s.logged (.pitch
    { targetCompid := 154, command := 1000, param1 := some pitchDji
      param2 := none, param3 := none, param4 := none, param5 := some 12.0, param7 := some 0.0 }
    call.pitched)

/-- `set_gimbal_angle_cb`. -/
def setGimbalAngleCb (cfg : GimbalConfig) (s : GimbalBridge) (call : ServiceCall) :
    GimbalBridge×Response :=
  if call.mode≠"body" ∧ call.mode≠"abs" then
    (s,⟨false,"unsupported mode: "++call.mode++" (body/abs)"⟩)
  else
    match ensureControl call s with
    | (s,false) => (s,⟨false,"failed to take gimbal control"⟩)
    | (s,true) =>
      match applyDjiMode call s with
      -- control is kept here
      | (s,false) => (s,⟨false,"failed to set gimbal mode"⟩)
      | (s,true) =>
        let pitchDji := clamp (-call.angle) cfg.gimbalPitchMin cfg.gimbalPitchMax
        let s := releaseControl call (sendPitchOnly pitchDji call s)
        if call.pitched=.success then
          (s.logged (.setParam call.mode call.angle),⟨true,"OK"⟩)
        else (s,⟨false,"set gimbal angle failed"⟩)

/-- The bridge after a service call. -/
def serve (cfg : GimbalConfig) (s : GimbalBridge) (call : ServiceCall) : GimbalBridge :=
  (setGimbalAngleCb cfg s call).1

end

/-- Control of a gimbal was taken successfully and not released since. -/
def Outstanding (id : ℕ) : List GimbalCall → Prop :=
  Since (fun c => c=.takeControl id .success) (fun c => ∀ result,c≠.releaseControl id result)

/-- The mode that a call has set. -/
def GimbalCall.modeSet? : GimbalCall → Option String
  | .configure mode _ .success => some mode
  | _ => none

/-- The last mode that was set successfully; empty before the first one. -/
def lastModeSet (log : List GimbalCall) : String := (log.findSome? GimbalCall.modeSet?).getD ""

/-- Control has been given back, and the mode is known. -/
structure GivenBack (s : GimbalBridge) : Prop where
  /-- `control_taken_` is false. -/
  idle : s.controlTaken=false
  /-- Every control that was taken has been released for the same gimbal. -/
  released : ∀ id,¬Outstanding id s.log
  /-- `last_dji_mode_` is the mode that was set last. -/
  mode : s.lastDjiMode=lastModeSet s.log

/-- The call is rejected, or no control is obtained, or it is obtained at the
broadcast address and the mode is the one set last or can be set. -/
def Harmless (s : GimbalBridge) (call : ServiceCall) : Prop :=
  (call.mode≠"body" ∧ call.mode≠"abs") ∨ (call.take0≠.success ∧ call.take1≠.success) ∨
    call.take0=.success ∧ (call.mode=s.lastDjiMode ∨ call.configured=.success)

/-- Control of the broadcast address has been taken and not released yet. -/
structure Holding (s : GimbalBridge) : Prop where
  /-- `control_taken_` is true. -/
  taken : s.controlTaken=true
  /-- No other control is outstanding. -/
  others : ∀ id,id≠0 → ¬Outstanding id s.log
  /-- `last_dji_mode_` is the mode that was set last. -/
  mode : s.lastDjiMode=lastModeSet s.log

variable {cfg : GimbalConfig} {s : GimbalBridge} {call : ServiceCall}

/-- Control is outstanding if it was just taken, or was before and is not just released. -/
theorem outstanding_cons (id : ℕ) (c : GimbalCall) (log : List GimbalCall) :
    Outstanding id (c::log) ↔
      c=.takeControl id .success ∨ (∀ result,c≠.releaseControl id result) ∧ Outstanding id log :=
  since_cons c log

/-- The last mode is the one just set, or the last one before. -/
theorem lastModeSet_cons (c : GimbalCall) (log : List GimbalCall) :
    lastModeSet (c::log)=c.modeSet?.getD (lastModeSet log) := by
  rw [lastModeSet,List.findSome?_cons]
  cases c.modeSet? <;> rfl

/-- Calls that neither take control nor set a mode leave nothing outstanding. -/
theorem givenBack_logged (h : GivenBack s) {c : GimbalCall} (hset : c.modeSet?=none)
    (htake : ∀ id,c≠.takeControl id .success) : GivenBack (s.logged c) where
  idle := h.idle
  released id hout := ((outstanding_cons id c s.log).mp hout).elim (htake id)
    fun hold => h.released id hold.2
  mode := by
    change s.lastDjiMode=lastModeSet (c::s.log)
    rw [lastModeSet_cons,hset,Option.getD_none,h.mode]

/-- Taking control at the broadcast address. -/
theorem holding_take (h : GivenBack s) :
    Holding (s.logged (.takeControl 0 .success)).inControl where
  taken := rfl
  others id hid hout := by
    rcases (outstanding_cons id _ s.log).mp hout with htake|⟨_,hold⟩
    · injection htake with hzero
      exact hid hzero.symm
    · exact h.released id hold
  mode := h.mode

/-- The mode command keeps control and the books on the mode. -/
theorem holding_applyDjiMode (h : Holding s) : Holding (applyDjiMode call s).1 := by
  rw [applyDjiMode]
  by_cases hmode : call.mode=s.lastDjiMode
  · rw [if_pos hmode]
    exact h
  · rw [if_neg hmode]
    have hothers : ∀ cmd,∀ id,id≠0 →
        ¬Outstanding id (.configure call.mode cmd call.configured::s.log) := by
      intro cmd id hid hout
      rcases (outstanding_cons id _ s.log).mp hout with htake|⟨_,hold⟩
      · cases htake
      · exact h.others id hid hold
    cases hset : call.configured with
    | success =>
      rw [hset] at hothers
      exact ⟨h.taken,hothers _,rfl⟩
    | failed code =>
      rw [hset] at hothers
      exact ⟨h.taken,hothers _,h.mode⟩

/-- So does the pitch command. -/
theorem holding_sendPitchOnly (h : Holding s) (pitchDji : ℝ) :
    Holding (sendPitchOnly pitchDji call s) where
  taken := h.taken
  others id hid hout := by
    rcases (outstanding_cons id _ s.log).mp hout with htake|⟨_,hold⟩
    · cases htake
    · exact h.others id hid hold
  mode := h.mode

/-- Releasing gives control of the broadcast address back. -/
theorem givenBack_releaseControl (h : Holding s) : GivenBack (releaseControl call s) := by
  rw [releaseControl,if_pos h.taken]
  refine ⟨rfl,fun id hout => ?_,h.mode⟩
  rcases (outstanding_cons id (.releaseControl 0 call.released) s.log).mp hout with
    htake|⟨hkept,hold⟩
  · cases htake
  · by_cases hid : id=0
    · rw [hid] at hkept
      exact hkept call.released rfl
    · exact h.others id hid hold

/-- Control of gimbal 1 stays outstanding through a mode command. -/
theorem outstanding_applyDjiMode (h : Outstanding 1 s.log) :
    Outstanding 1 (applyDjiMode call s).1.log := by
  have hconfigured : ∀ cmd,Outstanding 1 (.configure call.mode cmd call.configured::s.log) :=
    fun cmd => (outstanding_cons 1 _ s.log).mpr (Or.inr ⟨fun _ hc => (nomatch hc),h⟩)
  rw [applyDjiMode]
  split_ifs
  · exact h
  · exact hconfigured _
  · exact hconfigured _

/-- And through the release, which is meant for the broadcast address. -/
theorem outstanding_releaseControl (h : Outstanding 1 s.log) :
    Outstanding 1 (releaseControl call s).log := by
  rw [releaseControl]
  split_ifs
  · refine (outstanding_cons 1 _ s.log).mpr (Or.inr ⟨fun result hc => ?_,h⟩)
    injection hc with hid
    cases hid
  · exact h

/-- The mode is settled exactly if it was set last or can be set. -/
theorem applyDjiMode_iff :
    (applyDjiMode call s).2=true ↔ call.mode=s.lastDjiMode ∨ call.configured=.success := by
  rw [applyDjiMode]
  by_cases hmode : call.mode=s.lastDjiMode
  · rw [if_pos hmode]
    exact iff_of_true rfl (Or.inl hmode)
  · rw [if_neg hmode]
    by_cases hset : call.configured=.success
    · exact iff_of_true (by dsimp only; rw [if_pos hset]) (Or.inr hset)
    · exact iff_of_false (by dsimp only; rw [if_neg hset]; exact Bool.false_ne_true)
        (not_or.mpr ⟨hmode,hset⟩)

/-- The end of a call, once control and mode are settled. -/
noncomputable def finish (cfg : GimbalConfig) (call : ServiceCall) (s : GimbalBridge) :
    GimbalBridge :=
  let pitchDji := clamp (-call.angle) cfg.gimbalPitchMin cfg.gimbalPitchMax
  let s := releaseControl call (sendPitchOnly pitchDji call s)
  if call.pitched=.success then s.logged (.setParam call.mode call.angle) else s

/-- The stages of a call that is not rejected. -/
theorem serve_stages (hmode : ¬(call.mode≠"body" ∧ call.mode≠"abs")) :
    serve cfg s call=
      if (ensureControl call s).2=true then
        if (applyDjiMode call (ensureControl call s).1).2=true then
          finish cfg call (applyDjiMode call (ensureControl call s).1).1
        else (applyDjiMode call (ensureControl call s).1).1
      else (ensureControl call s).1 := by
  rw [serve,setGimbalAngleCb,if_neg hmode]
  obtain ⟨t,taken⟩ := ensureControl call s
  cases taken with
  | false => rfl
  | true =>
    dsimp only
    obtain ⟨u,settled⟩ := applyDjiMode call t
    cases settled with
    | false => rfl
    | true =>
      dsimp only [finish]
      rw [if_pos rfl,if_pos rfl]
      split <;> rfl

/-- The end of a call gives control of the broadcast address back. -/
theorem givenBack_finish (h : Holding s) : GivenBack (finish cfg call s) := by
  have hback : GivenBack (releaseControl call
      (sendPitchOnly (clamp (-call.angle) cfg.gimbalPitchMin cfg.gimbalPitchMax) call s)) :=
    givenBack_releaseControl (holding_sendPitchOnly h _)
  rw [finish]
  split_ifs
  · exact givenBack_logged hback rfl fun id hc => nomatch hc
  · exact hback

/-- Control of gimbal 1 stays outstanding to the end of a call. -/
theorem outstanding_finish (h : Outstanding 1 s.log) : Outstanding 1 (finish cfg call s).log := by
  have hpitch : ∀ pitchDji,Outstanding 1 (sendPitchOnly pitchDji call s).log := fun pitchDji =>
    (outstanding_cons 1 _ s.log).mpr (Or.inr ⟨fun _ hc => (nomatch hc),h⟩)
  have hrelease : Outstanding 1 (releaseControl call (sendPitchOnly
      (clamp (-call.angle) cfg.gimbalPitchMin cfg.gimbalPitchMax) call s)).log :=
    outstanding_releaseControl (hpitch _)
  rw [finish]
  split_ifs
  · exact (outstanding_cons 1 _ _).mpr (Or.inr ⟨fun _ hc => (nomatch hc),hrelease⟩)
  · exact hrelease

/-- With control of the broadcast address the callback gives it back if the requested mode
is set. -/
theorem serve_broadcast (h : GivenBack s) (hmode : ¬(call.mode≠"body" ∧ call.mode≠"abs"))
    (hzero : call.take0=.success) :
    GivenBack (serve cfg s call) ↔ call.mode=s.lastDjiMode ∨ call.configured=.success := by
  have hfree : ¬s.controlTaken=true := Bool.eq_false_iff.mp h.idle
  have hensure : ensureControl call s=((s.logged (.takeControl 0 .success)).inControl,true) := by
    rw [ensureControl,if_neg hfree,hzero]
    rfl
  have hhold : Holding (applyDjiMode call (s.logged (.takeControl 0 .success)).inControl).1 :=
    holding_applyDjiMode (holding_take h)
  have hsettled : (applyDjiMode call (s.logged (.takeControl 0 .success)).inControl).2=true ↔
      call.mode=s.lastDjiMode ∨ call.configured=.success := applyDjiMode_iff
  rw [serve_stages hmode,hensure]
  dsimp only
  rw [if_pos rfl]
  by_cases hset : call.mode=s.lastDjiMode ∨ call.configured=.success
  · rw [if_pos (hsettled.mpr hset)]
    exact iff_of_true (givenBack_finish hhold) hset
  · rw [if_neg (fun happly => hset (hsettled.mp happly))]
    refine iff_of_false (fun hback => ?_) hset
    exact Bool.false_ne_true (hback.idle.symm.trans hhold.taken)

/-- Control of gimbal 1 is never released. -/
theorem serve_gimbalOne (h : GivenBack s) (hmode : ¬(call.mode≠"body" ∧ call.mode≠"abs"))
    (hzero : call.take0≠.success) (hone : call.take1=.success) :
    ¬GivenBack (serve cfg s call) := by
  have hfree : ¬s.controlTaken=true := Bool.eq_false_iff.mp h.idle
  have hensure : ensureControl call s=
      (((s.logged (.takeControl 0 call.take0)).logged (.takeControl 1 .success)).inControl,
        true) := by
    rw [ensureControl,if_neg hfree]
    dsimp only
    rw [if_neg hzero,hone,if_pos rfl]
  have htaken : ∀ log,Outstanding 1 (.takeControl 1 .success::log) :=
    fun log => (outstanding_cons 1 _ log).mpr (Or.inl rfl)
  rw [serve_stages hmode,hensure]
  dsimp only
  rw [if_pos rfl]
  refine fun hback => hback.released 1 ?_
  split_ifs
  · exact outstanding_finish (outstanding_applyDjiMode (htaken _))
  · exact outstanding_applyDjiMode (htaken _)

/-- Without control there is nothing to give back. -/
theorem serve_uncontrolled (h : GivenBack s) (hmode : ¬(call.mode≠"body" ∧ call.mode≠"abs"))
    (hzero : call.take0≠.success) (hone : call.take1≠.success) :
    GivenBack (serve cfg s call) := by
  have hfree : ¬s.controlTaken=true := Bool.eq_false_iff.mp h.idle
  have hensure : ensureControl call s=
      ((s.logged (.takeControl 0 call.take0)).logged (.takeControl 1 call.take1),false) := by
    rw [ensureControl,if_neg hfree]
    dsimp only
    rw [if_neg hzero,if_neg hone]
  rw [serve_stages hmode,hensure]
  dsimp only
  rw [if_neg Bool.false_ne_true]
  refine givenBack_logged (givenBack_logged h rfl fun id hc => ?_) rfl fun id hc => ?_
  · injection hc with _ hsuccess
    exact hzero hsuccess
  · injection hc with _ hsuccess
    exact hone hsuccess

/-- Where control has been given back, a call gives it back exactly if it is harmless. -/
theorem givenBack_serve_iff (h : GivenBack s) :
    GivenBack (serve cfg s call) ↔ Harmless s call := by
  by_cases hmode : call.mode≠"body" ∧ call.mode≠"abs"
  · rw [serve,setGimbalAngleCb,if_pos hmode]
    exact iff_of_true h (Or.inl hmode)
  by_cases hzero : call.take0=.success
  · rw [serve_broadcast h hmode hzero]
    constructor
    · exact fun hset => Or.inr (Or.inr ⟨hzero,hset⟩)
    · rintro (hrejected|⟨hnone,_⟩|⟨_,hset⟩)
      · exact absurd hrejected hmode
      · exact absurd hzero hnone
      · exact hset
  by_cases hone : call.take1=.success
  · refine iff_of_false (serve_gimbalOne h hmode hzero hone) ?_
    rintro (hrejected|⟨_,hnone⟩|⟨hbroadcast,_⟩)
    · exact hmode hrejected
    · exact hnone hone
    · exact hzero hbroadcast
  · exact iff_of_true (serve_uncontrolled h hmode hzero hone) (Or.inr (Or.inl ⟨hzero,hone⟩))

/-- In every run of the service control is given back at each return exactly if each
call of the run is harmless in the state it arrives in. -/
theorem givenBack_iff (cfg : GimbalConfig) (calls : List ServiceCall) :
    (∀ done,done<+:calls → GivenBack (runFrom (serve cfg) {} done)) ↔
      Guarded (serve cfg) Harmless {} calls :=
  forall_prefix_iff_guarded (fun _ _ h => givenBack_serve_iff h) calls
    ⟨rfl,fun _ => not_since_nil,rfl⟩

/-- A first call whose mode command times out. -/
def unconfigured : ServiceCall where
  mode := "body"
  angle := 90
  take0 := .success
  take1 := .success
  configured := .failed 4
  pitched := .success
  released := .success

/-- Control is kept after that call. -/
theorem unconfigured_keeps_control :
    ¬∀ (cfg : GimbalConfig) (calls : List ServiceCall) (done : List ServiceCall),done<+:calls →
      GivenBack (runFrom (serve cfg) {} done) := by
  intro hall
  have hback : GivenBack (serve {} {} unconfigured) :=
    hall {} [unconfigured] [unconfigured] (List.prefix_refl _)
  have hstart : GivenBack {} := ⟨rfl,fun _ => not_since_nil,rfl⟩
  rcases (givenBack_serve_iff hstart).mp hback with ⟨hbody,_⟩|⟨hnone,_⟩|⟨_,hsame|hset⟩
  · exact hbody rfl
  · exact hnone rfl
  · exact absurd hsame (by decide)
  · cases hset

end Dankong.Gimbal

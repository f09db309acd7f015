import Dankong.TrackerLimits

/-!
# The cruise limit of the tracker

A position step cuts its target to the effective limit before the limiters move the
last command towards it. As long as the jerk limiter takes nothing back, the new
command lies between the last one and a target within the limit.
-/

namespace Dankong.Tracker

open Runs StateUtils TwoRuns

noncomputable section

/-- The call of the limiters that an operation makes, if it makes one. -/
def opCall (cfg : TrackerConfig) (s : TrackerState) : TrackerOp → Option ConstraintCall
  | .step env dt => if dt<1e-6 then none else controlCall cfg env dt (consumePending cfg env s)
  | _ => none

/-- Acceleration limit in force at a call. -/
def ConstraintCall.accLimit (cfg : TrackerConfig) (call : ConstraintCall) : ℝ :=
  call.guide.maxAccXy.getD cfg.maxAccXy

/-- Deceleration limit in force at a call. -/
def ConstraintCall.decelLimit (cfg : TrackerConfig) (call : ConstraintCall) : ℝ :=
  call.guide.maxDecelXy.getD cfg.maxDecelXy

/-- A tracker, and what a run of it has shown since the last reset. -/
structure Cruise where
  /-- The tracker. -/
  state : TrackerState
  /-- The last command it issued. -/
  issued : Vec4 ℝ := .zero
  /-- Largest acceleration limit in force since the last reset. -/
  peakAcc : ℝ := 0
  /-- Largest deceleration limit in force since the last reset. -/
  peakDecel : ℝ := 0

/-- The largest limits after an operation. A command without a call of the limiters
is the zero command of a reset. -/
def peaksAfter (cfg : TrackerConfig) (w : Cruise) (op : TrackerOp) : ℝ×ℝ :=
  match opCall cfg w.state op with
  | some call => (max w.peakAcc (call.accLimit cfg),max w.peakDecel (call.decelLimit cfg))
  | none => if issuedBy cfg w.state op=[] then (w.peakAcc,w.peakDecel) else (0,0)

/-- One operation, watched from outside. -/
def cruiseStep (cfg : TrackerConfig) (w : Cruise) (op : TrackerOp) : Cruise where
  state := apply cfg w.state op
  issued := (issuedBy cfg w.state op).getLast?.getD w.issued
  peakAcc := (peaksAfter cfg w op).1
  peakDecel := (peaksAfter cfg w op).2

/-- No jerk limit of a waypoint is in force, and the limits that are in force are at
least 1e-4. In position control the built-in jerk limit leaves room for the bound. -/
structure SmoothCall (cfg : TrackerConfig) (bound : ℝ) (dt : ℝ) (call : ConstraintCall) : Prop where
  jerk : call.guide.maxJerkXy=none
  acc : 1e-4≤call.accLimit cfg
  decel : 1e-4≤call.decelLimit cfg
  limit : call.guide.currentMode=.position → 1e-4≤call.guide.fbVelLimitXy
  time : call.guide.currentMode=.position → bound≤1000*dt

/-- The guard of a run: every call of the limiters is smooth. -/
def SmoothOp (cfg : TrackerConfig) (bound : ℝ → ℝ → ℝ) (w : Cruise) (op : TrackerOp) : Prop :=
  match op with
  | .step _ dt => ∀ call∈opCall cfg w.state op,
    SmoothCall cfg (bound (cruiseStep cfg w op).peakAcc (cruiseStep cfg w op).peakDecel) dt call
  | _ => True

/-- The operation is a step of position control. -/
def PositionOp (cfg : TrackerConfig) (s : TrackerState) (op : TrackerOp) : Prop :=
  match op with
  | .step env dt => ¬dt<1e-6 ∧ (consumePending cfg env s).guide.currentMode=.position
  | _ => False

/-- A position step issues no command faster than both the last one and the limit. -/
def CruiseHolds (cfg : TrackerConfig) (w : Cruise) (op : TrackerOp) : Prop :=
  PositionOp cfg w.state op → ∀ cmd∈issuedBy cfg w.state op,
    hypot cmd.x cmd.y≤ max (hypot w.issued.x w.issued.y) (apply cfg w.state op).guide.fbVelLimitXy

/-- The operation issues nothing, or is a position step under the given limit. -/
def LimitStays (cfg : TrackerConfig) (limit : ℝ) (w : Cruise) (op : TrackerOp) : Prop :=
  issuedBy cfg w.state op=[] ∨
    PositionOp cfg w.state op ∧ (apply cfg w.state op).guide.fbVelLimitXy=limit

end

section

variable {cfg : TrackerConfig} {env : Surroundings} {dt : ℝ}

/-- A call as an input of the limiters. -/
def ConstraintCall.input (cfg : TrackerConfig) (env : Surroundings) (dt : ℝ)
    (call : ConstraintCall) : LimiterInput :=
  ⟨cfg,call.guide,call.raw,env.yawEnu,dt⟩

/-- Smooth calls pass the guards of the code. -/
theorem SmoothCall.usual (env : Surroundings) {bound : ℝ} {call : ConstraintCall} (hdt : ¬dt<1e-6)
    (h : SmoothCall cfg bound dt call) : (call.input cfg env dt).UsualXy := by
  have hweak : (1e-6 : ℝ)≤1e-4 := by norm_num
  refine ⟨not_lt.mp hdt,hweak.trans h.acc,hweak.trans h.decel,?_⟩
  dsimp only [LimiterInput.jerk,ConstraintCall.input]
  rw [h.jerk]
  dsimp only [Option.getD]
  have hle := not_lt.mp hdt
  linarith

/-- The target of a position step is within the effective limit. -/
theorem posCall_raw_le (g : Guidance) (m : Motion) (h : 1e-4≤g.fbVelLimitXy) :
    hypot (posCall cfg env dt g m).raw.x (posCall cfg env dt g m).raw.y≤g.fbVelLimitXy := by
  have hpos : (0 : ℝ)<1e-4 := by norm_num
  dsimp only [posCall]
  split_ifs with hcut
  · have hspeed := hpos.trans hcut.2
    rw [mul_comm,mul_comm _ (g.fbVelLimitXy/_),
      hypot_smul (div_nonneg (hpos.le.trans h) hspeed.le),div_mul_cancel₀ _ hspeed.ne']
  · rcases not_and_or.mp hcut with hle|hle
    · exact not_lt.mp hle
    · exact (not_lt.mp hle).trans h

/-- Cutting a pair to a limit makes it no longer. -/
theorem hypot_limitPair_le_self {x y limit : ℝ} (hlimit : 0≤limit) :
    hypot (limitPair x y (hypot x y) limit).1 (limitPair x y (hypot x y) limit).2≤hypot x y := by
  dsimp only [limitPair]
  split_ifs with hcut
  · have hspeed : 0 < hypot x y := hlimit.trans_lt hcut.1
    exact (hypot_cut hlimit hspeed).trans_le hcut.1.le
  · exact le_rfl

/-- The difference of two pairs is no longer than both together. -/
theorem hypot_sub_le (x y x' y' : ℝ) : hypot (x-x') (y-y')≤hypot x y+hypot x' y' := by
  rw [hypot_eq_norm,hypot_eq_norm,hypot_eq_norm]
  exact norm_sub_le (⟨x,y⟩ : ℂ) ⟨x',y'⟩

/-- Without a cut of the jerk limiter the command is no faster than the last one or
than its target. -/
theorem run_speed_le {call : ConstraintCall} {speed : ℝ} (hdt : dt≠0) (hcap : 0≤cfg.maxVelXy)
    (hacc : 0≤call.accLimit cfg) (hdecel : 0≤call.decelLimit cfg)
    (hlast : hypot call.motion.lastCmdVel.x call.motion.lastCmdVel.y≤ speed)
    (hraw : hypot call.raw.x call.raw.y≤ speed)
    (hfree : call.change cfg env dt≤call.maxChange dt) :
    hypot (call.run cfg env dt).1.x (call.run cfg env dt).1.y≤ speed := by
  have hv : call.lastVel env∈{p : ℝ×ℝ | hypot p.1 p.2≤ speed} :=
    (hypot_turned _ _ _).trans_le hlast
  have htarget : call.target cfg∈{p : ℝ×ℝ | hypot p.1 p.2≤ speed} :=
    (hypot_limitPair_le_self hcap).trans hraw
  have hpart := limitAccel_mem (g := call.guide) hacc hdecel (call.lastVel env).1
    (call.lastVel env).2 (((call.target cfg).1-(call.lastVel env).1)/dt)
    (((call.target cfg).2-(call.lastVel env).2)/dt)
  have hwanted : dt⁻¹•(call.target cfg-call.lastVel env)=
      (((call.target cfg).1-(call.lastVel env).1)/dt,
        ((call.target cfg).2-(call.lastVel env).2)/dt) :=
    Prod.ext (div_eq_inv_mul _ _).symm (div_eq_inv_mul _ _).symm
  rw [←hwanted] at hpart
  have hstep := LimitedMotion.approach_mem (convex_disc speed) hv htarget hdt hpart
  have hjerk : limitJerk call.guide (call.lastAcc env).1 (call.lastAcc env).2
      (call.acc cfg env dt).1 (call.acc cfg env dt).2 dt=call.acc cfg env dt :=
    if_neg fun hcut => hfree.not_gt hcut.1
  rw [run_eq]
  dsimp only
  rw [hjerk,mul_comm,mul_comm _ dt]
  exact hstep

/-- What is watched from outside is what the limiters remember, and the last
acceleration is within the limits since the last reset. -/
structure CruiseKnown (w : Cruise) : Prop where
  issued : w.issued=w.state.motion.lastCmdVel
  acc : hypot w.state.motion.lastCmdAcc.x w.state.motion.lastCmdAcc.y≤ max w.peakAcc w.peakDecel

/-- Reading the slot leaves the memory of the limiters alone. -/
theorem consumePending_limiter (s : TrackerState) :
    (consumePending cfg env s).motion.limiter=s.motion.limiter := by
  dsimp only [consumePending]
  split_ifs <;> rfl

/-- An operation that issues nothing keeps what is known. -/
theorem cruise_quiet {w : Cruise} {op : TrackerOp} (hk : CruiseKnown w)
    (hcall : opCall cfg w.state op=none) (hout : issuedBy cfg w.state op=[])
    (hlimiter : (apply cfg w.state op).motion.limiter=w.state.motion.limiter) :
    CruiseKnown (cruiseStep cfg w op) ∧ CruiseHolds cfg w op := by
  have hvel : (apply cfg w.state op).motion.lastCmdVel=w.state.motion.lastCmdVel :=
    congrArg Prod.fst hlimiter
  have hacc : (apply cfg w.state op).motion.lastCmdAcc=w.state.motion.lastCmdAcc :=
    congrArg (fun p => p.2.1) hlimiter
  refine ⟨⟨?_,?_⟩,fun _ cmd hcmd => ?_⟩
  · dsimp only [cruiseStep]
    rw [hout,hvel]
    exact hk.issued
  · dsimp only [cruiseStep,peaksAfter]
    rw [hcall,if_pos hout,hacc]
    exact hk.acc
  · rw [hout] at hcmd
    exact absurd hcmd List.not_mem_nil

/-- A reset starts the watch again. -/
theorem cruise_reset {w : Cruise} {op : TrackerOp} {yaw : ℝ}
    (hcall : opCall cfg w.state op=none) (hout : issuedBy cfg w.state op=[.zero])
    (hlimiter : (apply cfg w.state op).motion.limiter=(.zero,.zero,yaw)) :
    CruiseKnown (cruiseStep cfg w op) ∧ CruiseHolds cfg w op := by
  have hvel : (apply cfg w.state op).motion.lastCmdVel=.zero := congrArg Prod.fst hlimiter
  have hacc : (apply cfg w.state op).motion.lastCmdAcc=.zero :=
    congrArg (fun p => p.2.1) hlimiter
  have hzero : hypot (0 : ℝ) 0=0 := hypot_axis le_rfl
  refine ⟨⟨?_,?_⟩,fun _ cmd hcmd => ?_⟩
  · dsimp only [cruiseStep]
    rw [hout,hvel]
    rfl
  · have hne : ¬issuedBy cfg w.state op=[] := by rw [hout]; exact List.cons_ne_nil _ _
    dsimp only [cruiseStep,peaksAfter]
    rw [hcall,if_neg hne,hacc]
    exact hzero.trans_le (max_self (0 : ℝ)).ge
  · rw [hout] at hcmd
    obtain rfl := List.mem_singleton.mp hcmd
    exact hzero.trans_le ((Real.sqrt_nonneg _).trans (le_max_left _ _))

/-- A position call is one of `on_pos_step`. -/
theorem controlCall_position {s : TrackerState} {call : ConstraintCall}
    (hmode : s.guide.currentMode=.position) (h : controlCall cfg env dt s=some call) :
    ∃ g m,call=posCall cfg env dt g m := by
  rw [controlCall,hmode] at h
  dsimp only at h
  split_ifs at h
  · exact ⟨_,_,(Option.some.inj h).symm⟩
  · exact ⟨_,_,(Option.some.inj h).symm⟩

/-- In a smooth position call the jerk limiter has nothing to take back. -/
theorem call_free {w : Cruise} {call : ConstraintCall}
    (hsmooth : SmoothCall cfg (2*max (max w.peakAcc (call.accLimit cfg))
      (max w.peakDecel (call.decelLimit cfg))) dt call)
    (hlast : hypot (call.lastAcc env).1 (call.lastAcc env).2≤ max w.peakAcc w.peakDecel)
    (hmode : call.guide.currentMode=.position) :
    call.change cfg env dt≤call.maxChange dt := by
  have hweak : (1e-6 : ℝ)≤1e-4 := by norm_num
  let peak := max (max w.peakAcc (call.accLimit cfg)) (max w.peakDecel (call.decelLimit cfg))
  have hwanted : hypot (call.acc cfg env dt).1 (call.acc cfg env dt).2≤peak := by
    refine (hypot_limitAccel_le (hweak.trans hsmooth.acc) (hweak.trans hsmooth.decel)
      _ _ _ _).trans ?_
    exact max_le_max (le_max_right _ _) (le_max_right _ _)
  have hlast' : hypot (call.lastAcc env).1 (call.lastAcc env).2≤peak :=
    hlast.trans (max_le_max (le_max_left _ _) (le_max_left _ _))
  have hsum := hypot_sub_le (call.acc cfg env dt).1 (call.acc cfg env dt).2 (call.lastAcc env).1
    (call.lastAcc env).2
  have hmax : call.maxChange dt=1000*dt := by
    rw [ConstraintCall.maxChange,hsmooth.jerk]
    norm_num
  calc call.change cfg env dt≤2*peak := by
        rw [ConstraintCall.change]
        linarith
    _≤1000*dt := hsmooth.time hmode
    _=call.maxChange dt := hmax.symm

/-- A smooth call keeps what is known, and a position step respects the cruise limit. -/
theorem cruise_call (hcap : 1e-4≤cfg.maxVelXy) {w : Cruise} {call : ConstraintCall}
    (hk : CruiseKnown w) (hdt : ¬dt<1e-6)
    (hmakes : MakesCall cfg env dt (consumePending cfg env w.state) call)
    (hsmooth : SmoothCall cfg (2*max (max w.peakAcc (call.accLimit cfg))
      (max w.peakDecel (call.decelLimit cfg))) dt call) :
    CruiseKnown (cruiseStep cfg w (.step env dt)) ∧ CruiseHolds cfg w (.step env dt) := by
  have hdt₀ : 0<dt := lt_of_lt_of_le (by norm_num) (not_lt.mp hdt)
  have hpos : (0 : ℝ)≤1e-4 := by norm_num
  have hstep : onStep cfg env dt w.state=controlStep cfg env dt (consumePending cfg env w.state) :=
    if_neg hdt
  have hcall : opCall cfg w.state (.step env dt)=some call := (if_neg hdt).trans hmakes.made
  have hout : issuedBy cfg w.state (.step env dt)=[(call.run cfg env dt).1] := by
    rw [issuedBy,hstep,hmakes.issued]
  have hmotion : (apply cfg w.state (.step env dt)).motion=(call.run cfg env dt).2 := by
    rw [apply,hstep,hmakes.motion]
  have hlimiter : call.motion.limiter=w.state.motion.limiter :=
    hmakes.limiter.trans (consumePending_limiter w.state)
  have hvel : call.motion.lastCmdVel=w.state.motion.lastCmdVel := congrArg Prod.fst hlimiter
  have hacc : call.motion.lastCmdAcc=w.state.motion.lastCmdAcc :=
    congrArg (fun p => p.2.1) hlimiter
  have hpeak : hypot (call.run cfg env dt).2.lastCmdAcc.x (call.run cfg env dt).2.lastCmdAcc.y≤
      max (max w.peakAcc (call.accLimit cfg)) (max w.peakDecel (call.decelLimit cfg)) := by
    have hbound := (LimiterInput.run_acc (hsmooth.usual env hdt) call.motion).2
    rw [hacc] at hbound
    refine hbound.trans ((max_le_max hk.acc le_rfl).trans ?_)
    exact (max_max_max_comm _ _ _ _).le
  refine ⟨⟨?_,?_⟩,fun hposition cmd hcmd => ?_⟩
  · dsimp only [cruiseStep]
    rw [hout,hmotion]
    rfl
  · dsimp only [cruiseStep,peaksAfter]
    rw [hcall,hmotion]
    exact hpeak
  · rw [hout] at hcmd
    obtain rfl := List.mem_singleton.mp hcmd
    have hguide : (apply cfg w.state (.step env dt)).guide=call.guide := by
      rw [apply,hstep,hmakes.guide]
    have hmode : call.guide.currentMode=.position := hmakes.mode.trans hposition.2
    obtain ⟨g,m,hpos_call⟩ := controlCall_position hposition.2 hmakes.made
    have hraw : hypot call.raw.x call.raw.y≤call.guide.fbVelLimitXy := by
      have hlimit := hsmooth.limit hmode
      rw [hpos_call] at hlimit ⊢
      exact posCall_raw_le g m hlimit
    have hlast : hypot (call.lastAcc env).1 (call.lastAcc env).2≤ max w.peakAcc w.peakDecel := by
      have hturn : hypot (call.lastAcc env).1 (call.lastAcc env).2=
          hypot call.motion.lastCmdAcc.x call.motion.lastCmdAcc.y := hypot_turned _ _ _
      rw [hturn,hacc]
      exact hk.acc
    have hfree := call_free hsmooth hlast hmode
    rw [hguide,hk.issued,←hvel]
    exact run_speed_le hdt₀.ne' (hpos.trans hcap) (hpos.trans hsmooth.acc)
      (hpos.trans hsmooth.decel) (le_max_left _ _) (hraw.trans (le_max_right _ _)) hfree

/-- Only steps reach the limiters. -/
theorem apply_limiter (s : TrackerState) {op : TrackerOp} (h : ∀ env dt,op≠.step env dt) :
    (apply cfg s op).motion.limiter=s.motion.limiter := by
  cases op with
  | sendPos path => cases path <;> rfl
  | sendVel vel yaw yawRate frame => rfl
  | sendZeroVel => rfl
  | step env dt => exact absurd rfl (h env dt)
  | limit env call =>
    cases call with
    | add name => rfl
    | remove id =>
      dsimp only [apply,limitCall,removeSpeedLimitCb]
      split_ifs <;> rfl

/-- Every smooth operation keeps what is known and respects the cruise limit. -/
theorem cruise_op (hcap : 1e-4≤cfg.maxVelXy) {w : Cruise} {op : TrackerOp} (hk : CruiseKnown w)
    (h : SmoothOp cfg (fun a d => 2*max a d) w op) :
    CruiseKnown (cruiseStep cfg w op) ∧ CruiseHolds cfg w op := by
  cases op with
  | step env dt =>
    by_cases hdt : dt<1e-6
    · have hstep : onStep cfg env dt w.state=(w.state,[]) := if_pos hdt
      exact cruise_quiet hk (if_pos hdt) (by rw [issuedBy,hstep]) (by rw [apply,hstep])
    · have hstep : onStep cfg env dt w.state=
          controlStep cfg env dt (consumePending cfg env w.state) := if_neg hdt
      have hread : (consumePending cfg env w.state).motion.limiter=w.state.motion.limiter :=
        consumePending_limiter w.state
      rcases controlStep_call cfg env dt (consumePending cfg env w.state) with
        ⟨call,hmakes⟩|⟨hcall,hout,hafter⟩|⟨hcall,hout,hafter⟩
      · have hop : opCall cfg w.state (.step env dt)=some call := (if_neg hdt).trans hmakes.made
        have hsmooth := h call hop
        dsimp only [cruiseStep,peaksAfter] at hsmooth
        rw [hop] at hsmooth
        exact cruise_call hcap hk hdt hmakes hsmooth
      · exact cruise_quiet hk ((if_neg hdt).trans hcall) (by rw [issuedBy,hstep,hout])
          (by rw [apply,hstep,hafter,hread])
      · exact cruise_reset ((if_neg hdt).trans hcall) (by rw [issuedBy,hstep,hout])
          (by rw [apply,hstep]; exact hafter)
  | sendPos path => exact cruise_quiet hk rfl rfl (apply_limiter w.state (fun _ _ h => by cases h))
  | sendVel vel yaw yawRate frame =>
    exact cruise_quiet hk rfl rfl (apply_limiter w.state (fun _ _ h => by cases h))
  | sendZeroVel => exact cruise_quiet hk rfl rfl (apply_limiter w.state (fun _ _ h => by cases h))
  | limit env call => exact cruise_quiet hk rfl rfl (apply_limiter w.state (fun _ _ h => by cases h))

/-- While the limit stays, one operation at or below it stays there. -/
theorem stays_op {w : Cruise} {op : TrackerOp} {limit : ℝ} (hholds : CruiseHolds cfg w op)
    (hlimit : LimitStays cfg limit w op) (h : hypot w.issued.x w.issued.y≤limit) :
    (∀ cmd∈issuedBy cfg w.state op,hypot cmd.x cmd.y≤limit) ∧
      hypot (cruiseStep cfg w op).issued.x (cruiseStep cfg w op).issued.y≤limit := by
  have hall : ∀ cmd∈issuedBy cfg w.state op,hypot cmd.x cmd.y≤limit := by
    intro cmd hcmd
    rcases hlimit with hnone|⟨hposition,hsame⟩
    · rw [hnone] at hcmd
      exact absurd hcmd List.not_mem_nil
    · have hle := hholds hposition cmd hcmd
      rw [hsame] at hle
      exact hle.trans (max_le h le_rfl)
  refine ⟨hall,?_⟩
  dsimp only [cruiseStep]
  cases hlast : (issuedBy cfg w.state op).getLast? with
  | none => exact h
  | some cmd => exact hall cmd (List.mem_of_getLast? hlast)

/-- While the limit stays, a run that starts at or below it stays there. -/
theorem stays_run {limit : ℝ} (ops : List TrackerOp) {w : Cruise}
    (hholds : Guarded (cruiseStep cfg) (CruiseHolds cfg) w ops)
    (hlimit : Guarded (cruiseStep cfg) (LimitStays cfg limit) w ops)
    (h : hypot w.issued.x w.issued.y≤limit) :
    ∀ cmd∈issuedFrom cfg w.state ops,hypot cmd.x cmd.y≤limit := by
  induction ops generalizing w with
  | nil => exact fun _ hcmd => nomatch hcmd
  | cons op rest ih =>
    obtain ⟨hall,hnext⟩ := stays_op hholds.1 hlimit.1 h
    intro cmd hcmd
    rcases List.mem_append.mp hcmd with hcmd|hcmd
    · exact hall cmd hcmd
    · exact ih hholds.2 hlimit.2 hnext cmd hcmd

/-- If in position control the built-in jerk limit always leaves room for twice the
largest limit since the last reset, no step speeds up beyond the cruise limit, and
commands at or below the limit stay there while the limit does. -/
theorem cruise_limit_respected (cfg : TrackerConfig) (hcap : 1e-4≤cfg.maxVelXy)
    (env₀ : Surroundings) (t₀ : ℝ) (ops : List TrackerOp)
    (hg : Guarded (cruiseStep cfg) (SmoothOp cfg (fun a d => 2*max a d))
      {state := onStart env₀ (fresh t₀)} ops) :
    Guarded (cruiseStep cfg) (CruiseHolds cfg) {state := onStart env₀ (fresh t₀)} ops ∧
      ∀ first second limit,ops=first++second →
        let w := runFrom (cruiseStep cfg) {state := onStart env₀ (fresh t₀)} first
        hypot w.issued.x w.issued.y≤limit →
        Guarded (cruiseStep cfg) (LimitStays cfg limit) w second →
        ∀ cmd∈issuedFrom cfg w.state second,hypot cmd.x cmd.y≤limit := by
  have hstart : CruiseKnown {state := onStart env₀ (fresh t₀)} :=
    ⟨rfl,(hypot_axis le_rfl).trans_le (max_self (0 : ℝ)).ge⟩
  have hholds := guarded_of_invariant (P := CruiseKnown)
    (fun _ _ hk hop => (cruise_op hcap hk hop).1) (fun _ _ hk hop => (cruise_op hcap hk hop).2)
    ops hstart hg
  refine ⟨hholds,fun first second limit hsplit hbelow hlimit => ?_⟩
  rw [hsplit] at hholds
  exact stays_run second ((guarded_append _ first second).mp hholds).2 hlimit hbelow

end

noncomputable section

/-- A waypoint one metre above the vehicle with a horizontal feed-forward velocity, under
a low cruise limit and a low deceleration limit. -/
def feedWaypoint (x y : ℝ) : TrackerWaypoint where
  pos := ⟨0,0,1⟩
  ffVel := some ⟨x,y,0⟩
  ffYawRate := some 0
  fbSpeedLimitXy := some 0.01
  maxDecelXy := some 0.4

/-- Reach the limit northwards, then turn east in a short step. -/
def turnAtLimit : List TrackerOp :=
  [.sendPos [feedWaypoint 0 0.01],.step still 0.005,
    .sendPos [feedWaypoint 0.0048 0.0086],.step still 0.0024]

end

/-- A tracker above whose vehicle no horizontal error has been seen. -/
structure NoError (s : TrackerState) : Prop where
  cbs : s.speedLimitCbs=[]
  pidX : s.motion.pidX={}
  pidY : s.motion.pidY={}
  yaw : s.motion.lastYaw=0

/-- Without a horizontal error the control hands through the feed-forward velocity. -/
theorem computePosControl_noError {g : Guidance} (pose ff : Vec4 ℝ) {m : Motion} (dt : ℝ)
    (hx : g.targetPoseEnu.x=pose.x) (hy : g.targetPoseEnu.y=pose.y) (hyaw : g.ctrlYaw=false)
    (hauto : g.autoHeading=false) (hpx : m.pidX={}) (hpy : m.pidY={}) :
    (computePosControl {} g pose ff dt m).1.x=ff.x ∧
      (computePosControl {} g pose ff dt m).1.y=ff.y ∧
      (computePosControl {} g pose ff dt m).2.pidX={} ∧
      (computePosControl {} g pose ff dt m).2.pidY={} := by
  have hpid : ∀ (kp ki kd : ℝ) (b : Bool),calculatePid 0 {} kp ki kd 1 dt b=(0,{}) := by
    intro kp ki kd b
    have hclamp : clamp 0 (-1) 1=0 := clamp_of_mem (by norm_num) (by norm_num)
    cases b <;> simp [calculatePid,hclamp]
  have hzero : hypot 0 0=0 := hypot_axis le_rfl
  have hfar : ¬(1e-4 : ℝ)<0 := by norm_num
  have hrest : limitPair 0 0 0 g.fbVelLimitXy=(0,0) := if_neg fun hcut => hfar hcut.2
  dsimp only [computePosControl]
  rw [if_pos rfl]
  dsimp only [omniControl,yawError,verticalControl,yawFeedback,speedScale]
  simp only [hx,hy,hyaw,hauto,hpx,hpy,sub_self,hpid,mul_zero,add_zero,hzero,hfar,false_and,
    Bool.false_eq_true,if_false]
  rw [hrest]
  exact ⟨by ring,by ring,trivial,trivial⟩

/-- The guidance of a position command with such a waypoint. -/
theorem applyPath_feed (x y : ℝ) (g : Guidance) :
    let g' := applyPath {} still [] [feedWaypoint x y] g
    g'.currentMode=.position ∧ g'.ctrlYaw=false ∧ g'.autoHeading=false ∧
      g'.targetFrame=.enu ∧ g'.targetPoseEnu=⟨0,0,1,g.targetPoseEnu.w⟩ ∧
      g'.targetVel=⟨x,y,0,0⟩ ∧ g'.maxAccXy=none ∧ g'.maxDecelXy=some 0.4 ∧ g'.maxJerkXy=none ∧
      g'.fbVelLimitXy=0.01 := by
  have hlimit : min (0.01 : ℝ) 3.0=0.01 := min_eq_left (by norm_num)
  refine ⟨rfl,rfl,rfl,rfl,rfl,rfl,rfl,rfl,rfl,?_⟩
  exact hlimit

/-- One position command with such a waypoint, and one step. -/
theorem feed_step {s : TrackerState} (h : NoError s) {x y : ℝ} (dt : ℝ) (hspeed : hypot x y≤0.01)
    (hdt : ¬dt<1e-6) :
    let s₁ := sendPosCmd [feedWaypoint x y] s
    ∃ call,MakesCall {} still dt (consumePending {} still s₁) call ∧
      call.guide.currentMode=.position ∧ call.guide.maxJerkXy=none ∧ call.accLimit {}=2 ∧
      call.decelLimit {}=0.4 ∧ call.guide.fbVelLimitXy=0.01 ∧ call.raw.x=x ∧ call.raw.y=y ∧
      NoError (onStep {} still dt s₁).1 := by
  intro s₁
  let t := consumePending {} still s₁
  obtain ⟨hmode,hyaw,hauto,hframe,hpose,hvel,hacc,hdecel,hjerk,hlimit⟩ := applyPath_feed x y s.guide
  have hguide : t.guide=applyPath {} still [] [feedWaypoint x y] s.guide := by
    rw [←h.cbs]
    rfl
  rw [←hguide] at hmode hyaw hauto hframe hpose hvel hacc hdecel hjerk hlimit
  have hpids : t.motion.pidX={} ∧ t.motion.pidY={} := by
    dsimp only [t,s₁,consumePending,sendPosCmd]
    split_ifs
    all_goals first | exact ⟨rfl,rfl⟩ | exact ⟨h.pidX,h.pidY⟩
  have hheading : autoHeadingUpdate {} still t.guide=t.guide := if_neg (by rw [hauto]; nofun)
  have herr : yawError t.guide still.yawEnu t.motion=(0,t.motion) := if_neg (by rw [hyaw]; nofun)
  have haway : ¬Arrived {} still t := by
    dsimp only [Arrived]
    rw [hheading,herr]
    rintro ⟨hnear,_⟩
    rw [hpose] at hnear
    norm_num [still,Vec3.zero] at hnear
  have hcall : controlCall {} still dt t=some (posCall {} still dt t.guide t.motion) := by
    rw [controlCall,hmode]
    refine (if_neg haway).trans ?_
    rw [hheading,herr]
  have hff : bodyTargetVel still t.guide=⟨x,y,0,0⟩ := by
    dsimp only [bodyTargetVel,still]
    rw [hframe,hvel]
    norm_num [rotateToBody]
  obtain ⟨hx,hy,hpx,hpy⟩ := computePosControl_noError (g := t.guide) still.pose
    (bodyTargetVel still t.guide) dt (by rw [hpose]; rfl) (by rw [hpose]; rfl) hyaw hauto
    hpids.1 hpids.2
  have hraw : (posCall {} still dt t.guide t.motion).raw.x=x ∧
      (posCall {} still dt t.guide t.motion).raw.y=y := by
    dsimp only [posCall]
    rw [if_neg (by rw [hx,hy,hff,hlimit]; exact fun hcut => hspeed.not_gt hcut.1)]
    exact ⟨by rw [hx,hff],by rw [hy,hff]⟩
  have hstep : onStep {} still dt s₁=controlStep {} still dt t := if_neg hdt
  rcases controlStep_call {} still dt t with ⟨call,hmakes⟩|⟨hnone,_⟩|⟨hnone,_⟩
  · obtain rfl := Option.some.inj (hcall.symm.trans hmakes.made)
    refine ⟨_,hmakes,hmode,hjerk,?_,?_,hlimit,hraw.1,hraw.2,?_⟩
    · dsimp only [ConstraintCall.accLimit,posCall]
      rw [hacc]
      norm_num
    · dsimp only [ConstraintCall.decelLimit,posCall]
      rw [hdecel]
      rfl
    · have hcontrol : controlStep {} still dt t=positionStep {} still dt t := by
        rw [controlStep,hmode]
      rw [hstep]
      refine ⟨?_,?_,?_,?_⟩
      · rw [hcontrol,positionStep_tracks haway]
        exact h.cbs
      · rw [hmakes.motion]
        exact hpx
      · rw [hmakes.motion]
        exact hpy
      · rw [hmakes.motion]
        rfl
  · rw [hcall] at hnone
    exact absurd hnone (Option.some_ne_none _)
  · rw [hcall] at hnone
    exact absurd hnone (Option.some_ne_none _)

/-- What a watched tracker remembers before a feed. -/
structure FeedState (w : Cruise) (vx vy ax ay : ℝ) : Prop where
  noError : NoError w.state
  velX : w.state.motion.lastCmdVel.x=vx
  velY : w.state.motion.lastCmdVel.y=vy
  accX : w.state.motion.lastCmdAcc.x=ax
  accY : w.state.motion.lastCmdAcc.y=ay
  issued : w.issued=w.state.motion.lastCmdVel
  peakAcc : w.peakAcc≤2
  peakDecel : w.peakDecel≤0.4

/-- What a call issues while the vehicle keeps its heading, given what the limiters leave. -/
theorem feed_run {call : ConstraintCall} {x y cx cy dt : ℝ} (hspeed : hypot x y≤0.01)
    (hx : call.raw.x=x) (hy : call.raw.y=y) (hyaw : call.motion.lastYaw=0)
    (hlimited : limitJerk call.guide call.motion.lastCmdAcc.x call.motion.lastCmdAcc.y
      (limitAccel {} call.guide call.motion.lastCmdVel.x call.motion.lastCmdVel.y
        ((x-call.motion.lastCmdVel.x)/dt) ((y-call.motion.lastCmdVel.y)/dt)).1
      (limitAccel {} call.guide call.motion.lastCmdVel.x call.motion.lastCmdVel.y
        ((x-call.motion.lastCmdVel.x)/dt) ((y-call.motion.lastCmdVel.y)/dt)).2 dt=(cx,cy)) :
    (call.run {} still dt).2.lastCmdAcc.x=cx ∧ (call.run {} still dt).2.lastCmdAcc.y=cy ∧
      (call.run {} still dt).1.x=call.motion.lastCmdVel.x+cx*dt ∧
      (call.run {} still dt).1.y=call.motion.lastCmdVel.y+cy*dt := by
  have hturn : ∀ u v : ℝ,turned (still.yawEnu-call.motion.lastYaw) u v=(u,v) := by
    intro u v
    rw [hyaw]
    simp [turned,still]
  have htarget : call.target {}=(x,y) := by
    rw [ConstraintCall.target,hx,hy]
    refine if_neg fun hcut => ?_
    have hle : √(x*x+y*y)≤0.01 := hspeed
    have hlt : (3.0 : ℝ)<√(x*x+y*y) := hcut.1
    linarith
  have hlastVel : call.lastVel still=(call.motion.lastCmdVel.x,call.motion.lastCmdVel.y) := by
    rw [ConstraintCall.lastVel,hturn]
  have hlast : call.lastAcc still=(call.motion.lastCmdAcc.x,call.motion.lastCmdAcc.y) := by
    rw [ConstraintCall.lastAcc,hturn]
  have hleft : limitJerk call.guide (call.lastAcc still).1 (call.lastAcc still).2
      (call.acc {} still dt).1 (call.acc {} still dt).2 dt=(cx,cy) := by
    rw [ConstraintCall.acc,hlastVel,hlast,htarget]
    exact hlimited
  have hmoves := LimiterInput.run_moves (call.input {} still dt) call.motion
  have hcx : (call.run {} still dt).2.lastCmdAcc.x=cx := congrArg Prod.fst hleft
  have hcy : (call.run {} still dt).2.lastCmdAcc.y=cy := congrArg Prod.snd hleft
  have hvx : (call.lastVel still).1=call.motion.lastCmdVel.x := congrArg Prod.fst hlastVel
  have hvy : (call.lastVel still).2=call.motion.lastCmdVel.y := congrArg Prod.snd hlastVel
  refine ⟨hcx,hcy,?_,?_⟩
  · rw [←hcx,←hvx]
    exact hmoves.1
  · rw [←hcy,←hvy]
    exact hmoves.2.1

/-- A feed and one step, given what the limiters leave. -/
theorem feed_pair {w : Cruise} {vx vy ax ay : ℝ} (x y cx cy dt : ℝ) (bound : ℝ → ℝ → ℝ)
    (h : FeedState w vx vy ax ay) (hspeed : hypot x y≤0.01) (hdt : ¬dt<1e-6)
    (hbound : ∀ a d,a≤2 → d≤0.4 → bound a d≤1000*dt)
    (hlimited : ∀ g : Guidance,g.maxAccXy.getD 2.0=2 → g.maxJerkXy=none →
      limitJerk g ax ay (limitAccel {} g vx vy ((x-vx)/dt) ((y-vy)/dt)).1
        (limitAccel {} g vx vy ((x-vx)/dt) ((y-vy)/dt)).2 dt=(cx,cy)) :
    let w₁ := cruiseStep {} w (.sendPos [feedWaypoint x y])
    let w₂ := cruiseStep {} w₁ (.step still dt)
    SmoothOp {} bound w₁ (.step still dt) ∧ PositionOp {} w₁.state (.step still dt) ∧
      w₂.state.guide.fbVelLimitXy=0.01 ∧ w₂.issued∈issuedBy {} w₁.state (.step still dt) ∧
      FeedState w₂ (vx+cx*dt) (vy+cy*dt) cx cy := by
  intro w₁ w₂
  obtain ⟨call,hmakes,hmode,hjerk,hacc,hdecel,hlimit,hx,hy,hnoError⟩ :=
    feed_step h.noError dt hspeed hdt
  change MakesCall {} still dt (consumePending {} still w₁.state) call at hmakes
  have hstep : onStep {} still dt w₁.state=controlStep {} still dt (consumePending {} still w₁.state) :=
    if_neg hdt
  have hcall : opCall {} w₁.state (.step still dt)=some call := (if_neg hdt).trans hmakes.made
  have hout : issuedBy {} w₁.state (.step still dt)=[(call.run {} still dt).1] := by
    rw [issuedBy,hstep,hmakes.issued]
  have hpeaks : w₂.peakAcc=max w.peakAcc 2 ∧ w₂.peakDecel=max w.peakDecel 0.4 := by
    dsimp only [w₂,cruiseStep,peaksAfter]
    rw [hcall,←hacc,←hdecel]
    exact ⟨rfl,rfl⟩
  have hissued : w₂.issued=(call.run {} still dt).1 := by
    dsimp only [w₂,cruiseStep]
    rw [hout]
    rfl
  have hmotion : w₂.state.motion=(call.run {} still dt).2 := by
    dsimp only [w₂,cruiseStep,apply]
    rw [hstep,hmakes.motion]
  have hlimiter : call.motion.limiter=w.state.motion.limiter :=
    hmakes.limiter.trans (consumePending_limiter w₁.state)
  have hvel : call.motion.lastCmdVel=w.state.motion.lastCmdVel := congrArg Prod.fst hlimiter
  have hlastAcc : call.motion.lastCmdAcc=w.state.motion.lastCmdAcc :=
    congrArg (fun p => p.2.1) hlimiter
  have hyaw : call.motion.lastYaw=0 := (congrArg (fun p => p.2.2) hlimiter).trans h.noError.yaw
  have hrun : (call.run {} still dt).2.lastCmdAcc.x=cx ∧ (call.run {} still dt).2.lastCmdAcc.y=cy ∧
      (call.run {} still dt).1.x=vx+cx*dt ∧ (call.run {} still dt).1.y=vy+cy*dt := by
    have hleft := hlimited call.guide hacc hjerk
    rw [←h.velX,←h.velY,←h.accX,←h.accY,←hvel,←hlastAcc] at hleft
    rw [←h.velX,←h.velY,←hvel]
    exact feed_run hspeed hx hy hyaw hleft
  have hguide : w₂.state.guide=call.guide := by
    dsimp only [w₂,cruiseStep,apply]
    rw [hstep,hmakes.guide]
  have hpeak : w₂.peakAcc≤2 ∧ w₂.peakDecel≤0.4 := by
    rw [hpeaks.1,hpeaks.2]
    exact ⟨max_le h.peakAcc le_rfl,max_le h.peakDecel le_rfl⟩
  refine ⟨fun call' hcall' => ?_,⟨hdt,hmakes.mode.symm.trans hmode⟩,by rw [hguide,hlimit],?_,?_⟩
  · obtain rfl := Option.some.inj (hcall.symm.trans hcall')
    refine ⟨hjerk,by rw [hacc]; norm_num,by rw [hdecel]; norm_num,fun _ => by rw [hlimit]; norm_num,
      fun _ => hbound _ _ hpeak.1 hpeak.2⟩
  · rw [hissued,hout]
    exact List.mem_singleton_self _
  · refine ⟨hnoError,?_,?_,?_,?_,?_,hpeak.1,hpeak.2⟩
    · rw [hmotion]
      exact hrun.2.2.1
    · rw [hmotion]
      exact hrun.2.2.2
    · rw [hmotion,hrun.1]
    · rw [hmotion,hrun.2.1]
    · rw [hissued,hmotion]
      rfl

/-- The length of a pair, given its square. -/
theorem hypot_of_sq {x y r : ℝ} (hr : 0≤r) (h : x*x+y*y=r*r) : hypot x y=r := by
  rw [hypot,h,Real.sqrt_mul_self hr]

/-- What the limiters leave while the vehicle is slow. -/
theorem limited_slow (bx by' : ℝ) {g : Guidance} {vx vy ax ay wx wy cx cy dt : ℝ}
    (hacc : g.maxAccXy.getD 2.0=2) (hjerk : g.maxJerkXy=none) (hslow : hypot vx vy≤0.01)
    (haccel : (if 2 < hypot wx wy ∧ 1e-6 < hypot wx wy then
      (wx/hypot wx wy*2,wy/hypot wx wy*2) else (wx,wy))=(bx,by'))
    (hleft : (if 1000*dt < hypot (bx-ax) (by'-ay) ∧ 1e-6 < hypot (bx-ax) (by'-ay) then
      (ax+(bx-ax)/hypot (bx-ax) (by'-ay)*(1000*dt),ay+(by'-ay)/hypot (bx-ax) (by'-ay)*(1000*dt))
      else (bx,by'))=(cx,cy)) :
    limitJerk g ax ay (limitAccel {} g vx vy wx wy).1 (limitAccel {} g vx vy wx wy).2 dt=(cx,cy) := by
  have hlimit : limitAccel {} g vx vy wx wy=(bx,by') := by
    have hslow' : ¬(0.01<√(vx*vx+vy*vy) ∧ vx*wx+vy*wy<0) := fun hcut => hslow.not_gt hcut.1
    dsimp only [limitAccel]
    rw [if_neg hslow',hacc]
    exact haccel
  have hmax : g.maxJerkXy.getD 1000.0*dt=1000*dt := by
    rw [hjerk]
    norm_num
  rw [hlimit]
  dsimp only [limitJerk]
  rw [hmax]
  exact hleft

/-- The watch at the start. -/
theorem feedState_start : FeedState {state := onStart still (fresh 0)} 0 0 0 0 :=
  ⟨⟨rfl,rfl,rfl,rfl⟩,rfl,rfl,rfl,rfl,rfl,by norm_num,by norm_num⟩

/-- The first step reaches the limit with the full acceleration. -/
theorem feed_first (bound : ℝ → ℝ → ℝ) (hbound : ∀ a d,a≤2 → d≤0.4 → bound a d≤1000*0.005) :
    let w₁ := cruiseStep {} {state := onStart still (fresh 0)} (.sendPos [feedWaypoint 0 0.01])
    SmoothOp {} bound w₁ (.step still 0.005) ∧
      FeedState (cruiseStep {} w₁ (.step still 0.005)) (0+0*0.005) (0+2*0.005) 0 2 := by
  have hfeed := feed_pair 0 0.01 0 2 0.005 bound feedState_start
    (Real.sqrt_le_iff.mpr ⟨by norm_num,by norm_num⟩) (by norm_num) hbound ?_
  · exact ⟨hfeed.1,hfeed.2.2.2.2⟩
  · intro g hacc hjerk
    have hwanted : hypot (((0 : ℝ)-0)/0.005) ((0.01-0)/0.005)=2 :=
      hypot_of_sq (by norm_num) (by norm_num)
    have hchange : hypot ((0 : ℝ)-0) (2-0)=2 := hypot_of_sq (by norm_num) (by norm_num)
    refine limited_slow 0 2 hacc hjerk
      (Real.sqrt_le_iff.mpr ⟨by norm_num,by norm_num⟩) ?_ ?_
    · rw [hwanted]
      norm_num
    · rw [hchange]
      norm_num

/-- The limit is respected in that step. -/
theorem feed_first_respects :
    Guarded (cruiseStep {}) (CruiseHolds {}) {state := onStart still (fresh 0)}
      [.sendPos [feedWaypoint 0 0.01],.step still 0.005] := by
  have hfirst := feed_first (fun a d => 2*max a d) fun a d ha hd => by
    have hmax : max a d≤2 := max_le ha (hd.trans (by norm_num))
    linarith
  exact (cruise_limit_respected {} (by norm_num) still 0
    [.sendPos [feedWaypoint 0 0.01],.step still 0.005] ⟨trivial,hfirst.1,trivial⟩).1

/-- The sum of the two limits is not enough room: the jerk limiter takes back part of the
turn, and the command keeps speeding up beyond the limit. -/
theorem cruise_limit_exceeded :
    ¬∀ (cfg : TrackerConfig),1e-4≤cfg.maxVelXy → ∀ (env₀ : Surroundings) (t₀ : ℝ)
      (ops : List TrackerOp),
      Guarded (cruiseStep cfg) (SmoothOp cfg (fun a d => a+d))
        {state := onStart env₀ (fresh t₀)} ops →
      Guarded (cruiseStep cfg) (CruiseHolds cfg) {state := onStart env₀ (fresh t₀)} ops := by
  intro h
  obtain ⟨hsmooth,hbefore⟩ := feed_first (fun a d => a+d) fun a d ha hd => by linarith
  have hsecond := feed_pair 0.0048 0.0086 1.44 0.08 0.0024
    (fun a d => a+d) hbefore (Real.sqrt_le_iff.mpr ⟨by norm_num,by norm_num⟩) (by norm_num)
    (fun a d ha hd => by linarith) ?_
  · have hholds := h {} (by norm_num) still 0 turnAtLimit ⟨trivial,hsmooth,trivial,hsecond.1,trivial⟩
    have hslow := hholds.2.2.2.1 hsecond.2.1 _ hsecond.2.2.2.1
    obtain ⟨_,_,hlimit,_,hafter⟩ := hsecond
    have hlast : (cruiseStep {} (cruiseStep {} (cruiseStep {} {state := onStart still (fresh 0)}
        (.sendPos [feedWaypoint 0 0.01])) (.step still 0.005))
        (.sendPos [feedWaypoint 0.0048 0.0086])).issued=_ := hbefore.issued
    rw [hafter.issued,hafter.velX,hafter.velY,hlast,hbefore.velX,hbefore.velY] at hslow
    have hmax : max (hypot ((0 : ℝ)+0*0.005) (0+2*0.005)) 0.01≤0.01 :=
      max_le (Real.sqrt_le_iff.mpr ⟨by norm_num,by norm_num⟩) le_rfl
    have hfast : (0.01 : ℝ)<hypot (0+0*0.005+1.44*0.0024) (0+2*0.005+0.08*0.0024) :=
      (Real.lt_sqrt (by norm_num)).mpr (by norm_num)
    exact hfast.not_ge (hslow.trans ((max_le_max le_rfl hlimit.le).trans hmax))
  · intro g hacc hjerk
    have hwanted : hypot (((0.0048 : ℝ)-(0+0*0.005))/0.0024) ((0.0086-(0+2*0.005))/0.0024)=25/12 :=
      hypot_of_sq (by norm_num) (by norm_num)
    have hchange : hypot ((1.92 : ℝ)-0) (-0.56-2)=3.2 := hypot_of_sq (by norm_num) (by norm_num)
    refine limited_slow 1.92 (-0.56) hacc hjerk
      (Real.sqrt_le_iff.mpr ⟨by norm_num,by norm_num⟩) ?_ ?_
    · rw [hwanted]
      norm_num
    · rw [hchange]
      norm_num

end Dankong.Tracker
